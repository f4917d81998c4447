import SqlBuilder.Proofs.Expr.Leaf
import SqlBuilder.Proofs.Nesting.Text
import SqlBuilder.Proofs.Query.Condition
import SqlBuilder.Proofs.Twin.Expression

/-!
# Compiled texts are closed

Whatever an operand compiles to closes what it opens, if the verbatim SQL at its leaves does and the
nested queries at its leaves do. The induction over trees has one case for each kind of expression:
the parts of an expression are compiled in order, and words and parentheses are put around them.
-/

namespace SqlBuilder

open Nesting

/-! ### Literals -/

namespace Number

theorem Decimal.bare_positionalText {decimal : Decimal}
    (digits : ∀ c ∈ decimal.digits, c.isDigit = true) :
    ∀ c ∈ decimal.positionalText false, isBare c = true := by
  have zeros (count : Nat) : ∀ c ∈ List.replicate count '0', isBare c = true := by
    intro c mem
    rw [List.eq_of_mem_replicate mem]
    decide
  have bare : ∀ c ∈ decimal.digits, isBare c = true := by
    intro c mem
    exact isBare_of_isDigit (digits c mem)
  intro c mem
  unfold positionalText at mem
  dsimp only at mem
  split at mem
  · simp only [List.cons_append, List.mem_cons, List.mem_append] at mem
    rcases mem with rfl | rfl | mem | mem
    · decide
    · decide
    · exact zeros _ c mem
    · exact bare c mem
  · split at mem
    · simp only [Bool.false_eq_true, if_false, List.append_nil, List.mem_append] at mem
      rcases mem with mem | mem
      · exact bare c mem
      · exact zeros _ c mem
    · simp only [List.mem_append, List.mem_cons] at mem
      rcases mem with mem | rfl | mem
      · exact bare c (List.mem_of_mem_take mem)
      · decide
      · exact bare c (List.mem_of_mem_drop mem)

theorem Layout.bare_plain (number : Double) :
    ∀ c ∈ (Layout.plain.text number).toList, isBare c = true := by
  have signed {chars : List Char} (bare : ∀ c ∈ chars, isBare c = true) :
      ∀ c ∈ (if number.isNegative then ['-'] else []) ++ chars, isBare c = true := by
    intro c mem
    rcases List.mem_append.1 mem with mem | mem
    · split at mem
      · rw [List.mem_singleton.1 mem]
        decide
      · cases mem
    · exact bare c mem
  unfold Layout.text
  dsimp only
  split
  · rw [String.toList_ofList]
    exact signed (List.all_eq_true.1 (by decide))
  · rw [String.toList_ofList]
    exact signed (Decimal.bare_positionalText (isDigit_shortest _ _ _))
  · split
    · exact List.all_eq_true.1 (by decide)
    · exact List.all_eq_true.1 (by decide)
  · exact List.all_eq_true.1 (by decide)

end Number

theorem Nesting.isBare_hexDigit {number : Nat} (small : number < 16) :
    isBare (Text.hexDigit number) = true ∧ isBare (Text.upperHexDigit number) = true := by
  have every : ∀ number : Fin 16, isBare (Text.hexDigit number) = true ∧
      isBare (Text.upperHexDigit number) = true := by decide
  exact every ⟨number, small⟩

/-- A literal of characters that are bare but for a backslash, which a reader may have to skip. -/
theorem Nesting.Closed.plainLiteral {backslash : Bool} {body : List Char}
    (bare : ∀ c ∈ body, isBare c = true) (plain : backslash = true → '\\' ∉ body) :
    Closed backslash (String.ofList ('\'' :: (body ++ ['\'']))) := by
  apply Closed.span rfl
  intro depth
  induction body with
  | nil => rfl
  | cons c rest ih =>
      simp only [List.mem_cons, forall_eq_or_imp] at bare
      have tail : backslash = true → '\\' ∉ rest := by
        intro reads mem
        exact plain reads (List.mem_cons_of_mem c mem)
      have notMark : c ≠ '\'' := by
        rintro rfl
        exact absurd bare.1 (by decide)
      have stays : step backslash (.quoted '\'', depth) c = some (.quoted '\'', depth) := by
        cases backslash with
        | false => simp [step, notMark]
        | true =>
            have notBackslash : c ≠ '\\' := by
              rintro rfl
              exact plain rfl List.mem_cons_self
            simp [step, notMark, notBackslash]
      rw [read_cons, stays]
      exact ih bare.2 tail

section Hex

variable {octets : List UInt8} {c : Char}

theorem isBare_of_mem_hex (mem : c ∈ Text.hex octets) : isBare c = true := by
  rcases List.mem_flatMap.1 mem with ⟨octet, -, mem⟩
  have high : octet.toNat / 16 < 16 := by
    have bound := octet.toNat_lt
    omega
  simp only [List.mem_cons, List.not_mem_nil, or_false] at mem
  rcases mem with rfl | rfl
  · exact (isBare_hexDigit high).1
  · exact (isBare_hexDigit (Nat.mod_lt _ (by decide))).1

theorem isBare_of_mem_upperHex (mem : c ∈ Text.upperHex octets) : isBare c = true ∧ c ≠ '\\' := by
  have noBackslash : ∀ number : Fin 16, Text.upperHexDigit number ≠ '\\' := by decide
  rcases List.mem_flatMap.1 mem with ⟨octet, -, mem⟩
  have high : octet.toNat / 16 < 16 := by
    have bound := octet.toNat_lt
    omega
  have low : octet.toNat % 16 < 16 := Nat.mod_lt _ (by decide)
  simp only [List.mem_cons, List.not_mem_nil, or_false] at mem
  rcases mem with rfl | rfl
  · exact ⟨(isBare_hexDigit high).2, noBackslash ⟨_, high⟩⟩
  · exact ⟨(isBare_hexDigit low).2, noBackslash ⟨_, low⟩⟩

/-- A string of upper-case hexadecimal digits, as two of the dialects write octets. -/
theorem Nesting.Closed.hexString (backslash : Bool) (octets : List UInt8) :
    Closed backslash ("X'" ++ String.ofList (Text.upperHex octets) ++ "'") := by
  have start : Closed backslash "X" := .of_all (by decide)
  have literal : Closed backslash
      (String.ofList ('\'' :: (Text.upperHex octets ++ ['\'']))) :=
    .plainLiteral (fun c mem => (isBare_of_mem_upperHex mem).1)
      fun _ mem => (isBare_of_mem_upperHex mem).2 rfl
  have written : "X'" ++ String.ofList (Text.upperHex octets) ++ "'" =
      "X" ++ String.ofList ('\'' :: (Text.upperHex octets ++ ['\''])) := by
    apply String.toList_injective
    simp
  rw [written]
  exact start.append literal

end Hex

theorem Dialect.closed_bytesLiteral (dialect : Dialect) (octets : List UInt8) :
    dialect.Closed (dialect.grammar.bytesLiteral octets) := by
  cases dialect with
  | mysql => exact Nesting.Closed.hexString _ octets
  | sqlite => exact Nesting.Closed.hexString _ octets
  | postgres =>
      have cast : Dialect.postgres.Closed "::bytea" := .of_all (by decide)
      have bare : ∀ c ∈ '\\' :: 'x' :: Text.hex octets, isBare c = true := by
        refine List.forall_mem_cons.2 ⟨by decide, List.forall_mem_cons.2 ⟨by decide, ?_⟩⟩
        exact fun c mem => isBare_of_mem_hex mem
      -- This dialect reads no backslash as an escape.
      have literal : Dialect.postgres.Closed
          (String.ofList ('\'' :: ('\\' :: 'x' :: Text.hex octets ++ ['\'']))) :=
        .plainLiteral bare fun reads => by cases reads
      have written : Dialect.postgres.grammar.bytesLiteral octets =
          String.ofList ('\'' :: ('\\' :: 'x' :: Text.hex octets ++ ['\''])) ++ "::bytea" := by
        apply String.toList_injective
        simp [Dialect.grammar, Grammar.postgres, Grammar.bytesLiteral]
      rw [written]
      exact literal.append cast

/-- Whether a connection writes by the rules of a dialect. -/
def Connection.Speaks (dialect : Dialect) (connection : Connection) : Prop :=
  connection.grammar = dialect.grammar

namespace Connection

variable {dialect : Dialect} {connection : Connection}

theorem closed_quoteText (speaks : connection.Speaks dialect) {text literal : String}
    (quoted : connection.quoteText text = .ok literal) : dialect.Closed literal := by
  unfold quoteText at quoted
  split at quoted
  · cases quoted
  · cases quoted
    rw [speaks]
    exact dialect.closed_stringLiteral text

theorem closed_quote (speaks : connection.Speaks dialect) {value : Scalar} {literal : String}
    (quoted : connection.quote value = .ok literal) : dialect.Closed literal := by
  unfold quote at quoted
  split at quoted
  · cases quoted
  · cases value with
    | null =>
        cases quoted
        exact .of_all (by decide)
    | bool value =>
        cases quoted
        rw [speaks]
        exact dialect.closed_booleanLiteral value
    | int value =>
        cases quoted
        exact .integer value.toInt
    | float value =>
        unfold Connection.literal at quoted
        dsimp only at quoted
        split at quoted
        · cases quoted
          exact .of_bare (Number.Layout.bare_plain value)
        · cases quoted
    | text value => exact closed_quoteText speaks quoted
    | bytes value =>
        cases quoted
        rw [speaks]
        exact dialect.closed_bytesLiteral value
    | timestamp value => exact closed_quoteText speaks quoted
    | uuid value => exact closed_quoteText speaks quoted
    | json value => exact closed_quoteText speaks quoted

end Connection

/-! ### The ledger -/

namespace Ledger

variable {dialect : Dialect} {connection : Connection}

theorem closed_literalOr (speaks : connection.Speaks dialect) {standIn : String}
    (closed : dialect.Closed standIn) (value : Scalar) (ledger : Ledger) :
    dialect.Closed (ledger.literalOr connection standIn value).1 := by
  unfold literalOr
  split
  · rename_i text quoted
    exact Connection.closed_quote speaks quoted
  · exact closed
  · exact closed

theorem closed_bind (speaks : connection.Speaks dialect) (value : Scalar) (ledger : Ledger) :
    dialect.Closed (ledger.bind connection value).1 := by
  unfold bind
  split
  · have colon : dialect.Closed ":" := .of_all (by decide)
    have start : dialect.Closed "p" := .of_all (by decide)
    have between : dialect.Closed "_" := .of_all (by decide)
    have name := (start.append (.natural ledger.params.namespaceId)).append between
    exact colon.append (name.append (.natural ledger.params.nextIndex))
  · exact closed_literalOr speaks (.of_all (by decide)) value ledger

theorem closed_quoteText (speaks : connection.Speaks dialect) (text : String) (ledger : Ledger) :
    dialect.Closed (ledger.quoteText connection text).1 := by
  refine closed_literalOr speaks ?_ (.text text) ledger
  have nothing : Nesting.Closed dialect.readsBackslash (String.ofList ('\'' :: ([] ++ ['\'']))) :=
    .span rfl fun _ => rfl
  exact nothing

end Ledger

/-! ### Leaves -/

section Leaves

variable {Nested Custom : Type} {holds : Leaf Nested Custom → Prop}

/-- It does not matter which values are bound where all values will do. -/
theorem Operand.forall_resolvedLeaves_iff (bound : ∀ value, holds (.bound value))
    (literal : ∀ value, holds (.literal value)) (operand : Operand Nested Custom) :
    (∀ leaf ∈ operand.resolvedLeaves, holds leaf) ↔ ∀ leaf ∈ operand.leaves, holds leaf := by
  cases operand with
  | scalar value =>
      have leaves : ∀ leaf ∈ (value.leaves : List (Leaf Nested Custom)), holds leaf := by
        intro leaf mem
        rcases value.leaves_eq with same | same
        · rw [same] at mem
          rw [List.mem_singleton.1 mem]
          exact literal value
        · rw [same] at mem
          rw [List.mem_singleton.1 mem]
          exact bound value
      simpa [resolvedLeaves, Operand.leaves, bound] using leaves
  | column _ | raw _ | backing _ | expr _ | query _ | custom _ => exact Iff.rfl

/-- The leaves of a predicate part by part. -/
def Predicate.AllLeaves (holds : Leaf Nested Custom → Prop) : Predicate Nested Custom → Prop
  | .single operand => ∀ leaf ∈ operand.leaves, holds leaf
  | .pair lhs rhs => (∀ leaf ∈ lhs.leaves, holds leaf) ∧ ∀ leaf ∈ rhs.leaves, holds leaf
  | .compare lhs comparator rhs => holds (.verbatim comparator) ∧
      (∀ leaf ∈ lhs.leaves, holds leaf) ∧ ∀ leaf ∈ rhs.leaves, holds leaf

theorem Predicate.forall_leaves_iff (bound : ∀ value, holds (.bound value))
    (literal : ∀ value, holds (.literal value)) (predicate : Predicate Nested Custom) :
    (∀ leaf ∈ predicate.leaves, holds leaf) ↔ predicate.AllLeaves holds := by
  have resolved := Operand.forall_resolvedLeaves_iff bound literal
  cases predicate with
  | single operand => exact resolved operand
  | compare lhs comparator rhs =>
      simp only [leaves, AllLeaves, List.forall_mem_cons, List.forall_mem_append, resolved]
  | pair lhs rhs =>
      have parts : (∀ leaf ∈ lhs.resolvedLeaves ++ rhs.resolvedLeaves, holds leaf) ↔
          (Predicate.pair lhs rhs).AllLeaves holds := by
        simp only [AllLeaves, List.forall_mem_append, resolved]
      by_cases null : rhs = .scalar .null
      · subst null
        rw [← parts]
        simp [leaves, Operand.resolvedLeaves, or_imp, forall_and, bound, literal]
      · rw [← parts, Predicate.leaves]
        exact null

end Leaves

/-! ### Compiling -/

namespace Compile

variable {α β : Type}

/-- Whether compiling gives a result with a property, and leaves the workspace alone. -/
def Gives (action : Compile α) (post : α → Prop) : Prop :=
  ∀ ledger workspace, post ((action.run ledger).run workspace).1.1 ∧
    ((action.run ledger).run workspace).2 = workspace

namespace Gives

theorem pure {value : α} {post : α → Prop} (holds : post value) :
    Gives (pure value) post :=
  fun _ _ => ⟨holds, rfl⟩

theorem bind {action : Compile α} {next : α → Compile β} {mid : α → Prop} {post : β → Prop}
    (first : Gives action mid) (second : ∀ value, mid value → Gives (next value) post) :
    Gives (action >>= next) post := by
  intro ledger workspace
  rcases first ledger workspace with ⟨holds, same⟩
  rcases second _ holds ((action.run ledger).run workspace).1.2
    ((action.run ledger).run workspace).2 with ⟨held, still⟩
  exact ⟨held, still.trans same⟩

theorem modifyGet {change : Ledger → α × Ledger} {post : α → Prop}
    (holds : ∀ ledger, post (change ledger).1) : Gives (modifyGet change : Compile α) post :=
  fun ledger _ => ⟨holds ledger, rfl⟩

theorem anything (change : Ledger → α × Ledger) :
    Gives (MonadState.modifyGet change : Compile α) fun _ => True :=
  modifyGet fun _ => trivial

end Gives

end Compile

/-- Whether the verbatim SQL or the nested query of a leaf closes what it opens. -/
def Leaf.Closed (dialect : Dialect) : Leaf Query CustomExpr → Prop
  | .verbatim text => dialect.Closed text
  | .nested query => dialect.Closed query.sql
  | .bound _ | .literal _ => True
  | .custom _ => False

section Trees

variable {dialect : Dialect} {connection : Connection}

open Compile (Gives)

/-- Whether all leaves close what they open. -/
abbrev ClosedLeaves (dialect : Dialect) (leaves : List (Leaf Query CustomExpr)) : Prop :=
  ∀ leaf ∈ leaves, leaf.Closed dialect

theorem ClosedLeaves.left {leaves more : List (Leaf Query CustomExpr)}
    (closed : ClosedLeaves dialect (leaves ++ more)) : ClosedLeaves dialect leaves :=
  fun leaf mem => closed leaf (List.mem_append_left _ mem)

theorem ClosedLeaves.right {leaves more : List (Leaf Query CustomExpr)}
    (closed : ClosedLeaves dialect (leaves ++ more)) : ClosedLeaves dialect more :=
  fun leaf mem => closed leaf (List.mem_append_right _ mem)

theorem ClosedLeaves.tail {leaf : Leaf Query CustomExpr} {leaves : List (Leaf Query CustomExpr)}
    (closed : ClosedLeaves dialect (leaf :: leaves)) : ClosedLeaves dialect leaves :=
  fun other mem => closed other (List.mem_cons_of_mem _ mem)

theorem Backing.compile_closed (speaks : connection.Speaks dialect) (value : Backing) :
    Gives (value.compile connection) dialect.Closed := by
  cases value with
  | text literal => exact .modifyGet fun ledger => Ledger.closed_quoteText speaks literal ledger
  | int number => exact .pure (.integer number.toInt)

theorem separatorText_closed (speaks : connection.Speaks dialect) (separator : Option String) :
    Gives (separatorText connection separator) dialect.Closed := by
  cases separator with
  | none => exact .pure .empty
  | some separator =>
      have word : dialect.Closed " separator " := .of_all (by decide)
      refine .bind (.modifyGet fun ledger => Ledger.closed_quoteText speaks separator ledger) ?_
      intro literal closed
      exact .pure (word.append closed)

theorem closed_intercalate (speaks : connection.Speaks dialect) {texts : List String}
    (each : ∀ text ∈ texts, dialect.Closed text) :
    dialect.Closed (String.intercalate connection.grammar.columnSeparator texts) := by
  rw [speaks]
  exact .intercalate dialect.closed_columnSeparator each

theorem Operand.compile_scalar_closed (speaks : connection.Speaks dialect) (value : Scalar) :
    Gives (Operand.compile connection (.scalar value)) dialect.Closed := by
  have bound : Gives (modifyGet (Ledger.bind connection value)) dialect.Closed :=
    .modifyGet fun ledger => Ledger.closed_bind speaks value ledger
  cases value with
  | text text => exact .modifyGet fun ledger => Ledger.closed_quoteText speaks text ledger
  | bool value =>
      refine .pure ?_
      rw [speaks]
      exact dialect.closed_booleanLiteral value
  | null => exact .pure (.of_all (by decide))
  | int value => exact bound
  | float value => exact bound
  | bytes value => exact bound
  | timestamp value => exact bound
  | uuid value => exact bound
  | json value => exact bound

/-- The text of a nested query. -/
theorem embed_closed {nested : Query} (closed : dialect.Closed nested.sql) :
    Gives (modifyGet (Ledger.embed nested)) dialect.Closed :=
  .modifyGet fun _ => closed

theorem callNested_closed {nested : Query} (closed : dialect.Closed nested.sql) {name : String}
    (word : dialect.Closed name) :
    Gives (do return callText name (← modifyGet (Ledger.embed nested))) dialect.Closed :=
  .bind (embed_closed closed) fun _ inner => .pure (word.callText inner)

/-! ### Trees -/

theorem Compile.Gives.closed_two {action next : Compile String}
    (first : Gives action dialect.Closed) (second : Gives next dialect.Closed)
    {build : String → String → String}
    (combine : ∀ {text more}, dialect.Closed text → dialect.Closed more →
      dialect.Closed (build text more)) :
    Gives (do let text ← action; let more ← next; return build text more) dialect.Closed := by
  refine .bind first ?_
  intro text closed
  refine .bind second ?_
  intro more closed'
  exact .pure (combine closed closed')

/-- Words, parts and numbers of a joined text. -/
theorem closed_groupConcat (speaks : connection.Speaks dialect) (distinct : Bool)
    (limit offset : Option Nat) {text separator : String} {terms : List String}
    (closed : dialect.Closed text) (separated : dialect.Closed separator)
    (each : ∀ term ∈ terms, dialect.Closed term) :
    let order := if terms.isEmpty then ""
      else " order by " ++ String.intercalate connection.grammar.columnSeparator terms
    let number (word : String) (count : Option Nat) : String :=
      (count.map fun count => word ++ Nat.repr count).getD ""
    dialect.Closed (callText "group_concat" ((if distinct then "distinct " else "") ++ text ++
      order ++ separator ++ number " limit " limit ++ number " offset " offset)) := by
  intro order number
  have start : dialect.Closed (if distinct then "distinct " else "") :=
    .ite (.of_all (by decide)) .empty
  have words : dialect.Closed " order by " := .of_all (by decide)
  have sorted : dialect.Closed order :=
    .ite .empty (words.append (closed_intercalate speaks each))
  have counted (word : String) (bare : word.toList.all isBare = true) (count : Option Nat) :
      dialect.Closed (number word count) := by
    cases count with
    | none => exact .empty
    | some count => exact Nesting.Closed.append (.of_all bare) (.natural count)
  have limited := counted " limit " (by decide) limit
  have skipped := counted " offset " (by decide) offset
  have inner := ((((start.append closed).append sorted).append separated).append limited).append
    skipped
  exact .callText (.of_all (by decide)) inner

mutual

theorem Operand.compile_closed (speaks : connection.Speaks dialect) (operand : Value)
    (closed : ClosedLeaves dialect operand.leaves) :
    Gives (operand.compile connection) dialect.Closed := by
  match operand with
  | .column name =>
      refine .pure ?_
      rw [speaks]
      exact dialect.closed_escapeIdentifier name
  | .raw sql => exact .pure (closed (.verbatim sql) (by simp [Operand.leaves]))
  | .scalar value => exact Operand.compile_scalar_closed speaks value
  | .backing value => exact value.compile_closed speaks
  | .expr expr => exact Expr.compile_closed speaks expr closed
  | .query nested =>
      have inner : dialect.Closed nested.sql := closed (.nested nested) (by simp [Operand.leaves])
      exact callNested_closed inner .empty
  | .custom custom => exact (closed (.custom custom) (by simp [Operand.leaves])).elim

theorem Operand.compileAll_closed (speaks : connection.Speaks dialect) (operands : List Value)
    (closed : ClosedLeaves dialect (Operand.leavesAll operands)) :
    Gives (Operand.compileAll connection operands) fun texts =>
      ∀ text ∈ texts, dialect.Closed text := by
  match operands with
  | [] => exact .pure (by simp)
  | operand :: rest =>
      have first := Operand.compile_closed speaks operand closed.left
      have others := Operand.compileAll_closed speaks rest closed.right
      refine .bind first fun text head => ?_
      refine .bind others fun texts tail => .pure ?_
      simpa using ⟨head, tail⟩

theorem Operand.compileOrder_closed (speaks : connection.Speaks dialect)
    (terms : List (Value × Bool)) (closed : ClosedLeaves dialect (Operand.leavesOrder terms)) :
    Gives (Operand.compileOrder connection terms) fun texts =>
      ∀ text ∈ texts, dialect.Closed text := by
  match terms with
  | [] => exact .pure (by simp)
  | (operand, descends) :: rest =>
      have first := Operand.compile_closed speaks operand closed.left
      have others := Operand.compileOrder_closed speaks rest closed.right
      refine .bind first fun text head => ?_
      refine .bind others fun texts tail => .pure ?_
      have direction : dialect.Closed (if descends then " desc" else " asc") :=
        .ite (.of_all (by decide)) (.of_all (by decide))
      simpa using ⟨head.append direction, tail⟩

theorem Expr.compile_closed (speaks : connection.Speaks dialect) (expr : Expr Query CustomExpr)
    (closed : ClosedLeaves dialect expr.leaves) :
    Gives (expr.compile connection) dialect.Closed := by
  match expr with
  | .between lower upper =>
      refine .closed_two (Operand.compile_closed speaks lower closed.left)
        (Operand.compile_closed speaks upper closed.right) fun low high => ?_
      have start : dialect.Closed "between " := .of_all (by decide)
      have word : dialect.Closed " and " := .of_all (by decide)
      exact ((start.append low).append word).append high
  | .inList [] =>
      have null : dialect.Closed "null" := .of_all (by decide)
      exact .pure (.callText (.of_all (by decide : "in ".toList.all isBare = true)) null)
  | .inList (first :: rest) =>
      have word : dialect.Closed "in " := .of_all (by decide)
      by_cases single : ∃ nested, first :: rest = [.query nested]
      · rcases single with ⟨nested, same⟩
        rw [same] at closed ⊢
        have inner : dialect.Closed nested.sql :=
          closed (.nested nested) (by simp [Expr.leaves, Operand.leavesAll, Operand.leaves])
        exact callNested_closed inner word
      · have all := Operand.compileAll_closed speaks (first :: rest) closed
        rw [Expr.compile_inList connection first rest fun nested same => single ⟨nested, same⟩]
        exact .bind all fun texts each => .pure (word.callText (closed_intercalate speaks each))
  | .isNull => exact .pure (.of_all (by decide))
  | .exists nested =>
      have inner : dialect.Closed nested.sql := closed (.nested nested) (by simp [Expr.leaves])
      exact callNested_closed inner (.of_all (by decide))
  | .not inner =>
      have word : dialect.Closed "not " := .of_all (by decide)
      by_cases same : inner = .isNull
      · rw [same]
        exact .pure (.of_all (by decide))
      · have negated := Expr.compile_closed speaks inner closed
        rw [Expr.compile_not connection inner same]
        exact .bind negated fun text body => .pure (word.append body)
  | .call name arguments =>
      have word : dialect.Closed name := closed (.verbatim name) (by simp [Expr.leaves])
      have all := Operand.compileAll_closed speaks arguments closed.tail
      exact .bind all fun texts each => .pure (word.callText (closed_intercalate speaks each))
  | .aggregate name arguments distinct =>
      have word : dialect.Closed name := closed (.verbatim name) (by simp [Expr.leaves])
      have all := Operand.compileAll_closed speaks arguments closed.tail
      refine .bind all fun texts each => .pure (word.callText ?_)
      have start : dialect.Closed (if distinct then "distinct " else "") :=
        .ite (.of_all (by decide)) .empty
      exact start.append (closed_intercalate speaks each)
  | .groupConcat value distinct order separator limit offset =>
      have parts : ClosedLeaves dialect (value.leaves ++ Operand.leavesOrder order) := closed
      refine .bind (.anything _) fun supported _ => ?_
      split
      · refine .bind (Operand.compile_closed speaks value parts.left) fun text inner => ?_
        refine .bind (Operand.compileOrder_closed speaks order parts.right) fun terms each => ?_
        refine .bind (separatorText_closed speaks separator) fun between separated => .pure ?_
        exact closed_groupConcat speaks distinct limit offset inner separated each
      · exact .pure .empty
  | .ifElse condition yes no =>
      have others : ClosedLeaves dialect (yes.leaves ++ no.leaves) := closed.right
      have comma : dialect.Closed ", " := .of_all (by decide)
      refine .bind (Operand.compile_closed speaks condition closed.left) fun test first => ?_
      refine .bind (Operand.compile_closed speaks yes others.left) fun text second => ?_
      refine .bind (Operand.compile_closed speaks no others.right) fun other third => ?_
      split
      · have list := (((first.append comma).append second).append comma).append third
        exact .pure (.callText (.of_all (by decide)) list)
      · have start : dialect.Closed "case when " := .of_all (by decide)
        have andThen : dialect.Closed " then " := .of_all (by decide)
        have otherwise : dialect.Closed " else " := .of_all (by decide)
        have stop : dialect.Closed " end" := .of_all (by decide)
        have choice := ((start.append first).append andThen).append second
        exact .pure (((choice.append otherwise).append third).append stop)
  | .ifNull value fallback =>
      refine .closed_two (Operand.compile_closed speaks value closed.left)
        (Operand.compile_closed speaks fallback closed.right) fun first second => ?_
      have comma : dialect.Closed ", " := .of_all (by decide)
      have name : dialect.Closed
          (if connection.grammar.supports .ifFunctions then "ifnull" else "coalesce") :=
        .ite (.of_all (by decide)) (.of_all (by decide))
      exact name.callText ((first.append comma).append second)
  | .nullIf value other =>
      refine .closed_two (Operand.compile_closed speaks value closed.left)
        (Operand.compile_closed speaks other closed.right) fun first second => ?_
      have comma : dialect.Closed ", " := .of_all (by decide)
      exact .callText (.of_all (by decide)) ((first.append comma).append second)
  | .matchAgainst fields search booleanMode queryExpansion =>
      have parts : ClosedLeaves dialect (Operand.leavesAll fields ++ search.leaves) := closed
      refine .bind (.anything _) fun supported _ => ?_
      split
      · refine .bind (Operand.compileAll_closed speaks fields parts.left) fun texts each => ?_
        refine .bind (Operand.compile_closed speaks search parts.right) fun text inner => .pure ?_
        have mode : dialect.Closed (if booleanMode then " in boolean mode" else "") :=
          .ite (.of_all (by decide)) .empty
        have expansion : dialect.Closed
            (if queryExpansion then " with query expansion" else "") :=
          .ite (.of_all (by decide)) .empty
        have matched : dialect.Closed (callText "match "
            (String.intercalate connection.grammar.columnSeparator texts)) :=
          .callText (.of_all (by decide)) (closed_intercalate speaks each)
        exact matched.append
          (.callText (.of_all (by decide)) ((inner.append mode).append expansion))
      · exact .pure .empty
  | .operation lhs operator rhs =>
      have word : dialect.Closed operator := closed (.verbatim operator) (by simp [Expr.leaves])
      have parts : ClosedLeaves dialect (lhs.leaves ++ rhs.leaves) := closed.tail
      have blank : dialect.Closed " " := .of_all (by decide)
      refine .closed_two (Operand.compile_closed speaks lhs parts.left)
        (Operand.compile_closed speaks rhs parts.right) fun first second => ?_
      exact .callText .empty ((((first.append blank).append word).append blank).append second)
  | .nested nested =>
      have inner : dialect.Closed nested.sql := closed (.nested nested) (by simp [Expr.leaves])
      exact callNested_closed inner .empty
  | .assign name nested =>
      have word : dialect.Closed name := closed (.verbatim name) (by simp [Expr.leaves])
      have inner : dialect.Closed nested.sql := closed (.nested nested) (by simp [Expr.leaves])
      have start : dialect.Closed "@" := .of_all (by decide)
      refine .bind (.anything _) fun _ _ => ?_
      refine .bind (embed_closed inner) fun text body => .pure ?_
      exact (start.append word).append (.callText (.of_all (by decide)) body)
  | .cast value type =>
      have word : dialect.Closed type := closed (.verbatim type) (by simp [Expr.leaves])
      have between : dialect.Closed " as " := .of_all (by decide)
      refine .bind (Operand.compile_closed speaks value closed.tail) fun text inner => .pure ?_
      exact .callText (.of_all (by decide)) ((inner.append between).append word)

end

theorem Operand.resolve_closed (speaks : connection.Speaks dialect) (operand : Value)
    (closed : ClosedLeaves dialect operand.leaves) :
    Gives (operand.resolve connection) dialect.Closed := by
  cases operand with
  | scalar value => exact .modifyGet fun ledger => Ledger.closed_bind speaks value ledger
  | column name => exact Operand.compile_closed speaks (.column name) closed
  | raw sql => exact Operand.compile_closed speaks (.raw sql) closed
  | backing value => exact Operand.compile_closed speaks (.backing value) closed
  | expr expr => exact Operand.compile_closed speaks (.expr expr) closed
  | query nested => exact Operand.compile_closed speaks (.query nested) closed
  | custom custom => exact Operand.compile_closed speaks (.custom custom) closed

theorem ClosedLeaves.all {predicate : Predicate Query CustomExpr}
    (closed : ClosedLeaves dialect predicate.leaves) : predicate.AllLeaves (Leaf.Closed dialect) :=
  (Predicate.forall_leaves_iff (fun _ => trivial) (fun _ => trivial) predicate).1 closed

theorem ClosedLeaves.of_all {predicate : Predicate Query CustomExpr}
    (closed : predicate.AllLeaves (Leaf.Closed dialect)) : ClosedLeaves dialect predicate.leaves :=
  (Predicate.forall_leaves_iff (fun _ => trivial) (fun _ => trivial) predicate).2 closed

theorem Predicate.compile_closed (speaks : connection.Speaks dialect)
    (predicate : Predicate Query CustomExpr) (closed : ClosedLeaves dialect predicate.leaves) :
    Gives (predicate.compile connection) dialect.Closed := by
  have blank : dialect.Closed " " := .of_all (by decide)
  have closed := closed.all
  cases predicate with
  | single operand => exact Operand.resolve_closed speaks operand closed
  | pair lhs rhs =>
      rcases closed with ⟨left, right⟩
      have right := Operand.resolve_closed speaks rhs right
      refine .bind (Operand.resolve_closed speaks lhs left) fun text first => ?_
      split
      · exact .bind right fun more second => .pure ((first.append blank).append second)
      · split
        · exact .pure (first.append (.of_all (by decide)))
        · have equals : dialect.Closed " = " := .of_all (by decide)
          exact .bind right fun more second => .pure ((first.append equals).append second)
  | compare lhs comparator rhs =>
      rcases closed with ⟨word, left, right⟩
      have word : dialect.Closed comparator := word
      refine .closed_two (Operand.resolve_closed speaks lhs left)
        (Operand.resolve_closed speaks rhs right) fun first second => ?_
      exact (((first.append blank).append word).append blank).append second

theorem ClosedLeaves.hookFree {predicate : Predicate Query CustomExpr}
    (closed : ClosedLeaves dialect predicate.leaves) : predicate.HookFree :=
  Predicate.hookFree_of_leaves fun custom mem => closed (.custom custom) mem

end Trees

end SqlBuilder
