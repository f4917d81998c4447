import SqlBuilder.Proofs.Expr.Leaf
import SqlBuilder.Proofs.Twin.Compile

/-!
# Operands in both runs

An operand that both runs build from one draft is one tree, with a pair of twin queries where each
run has a nested query. Compiling its two projections gives twin texts, provided its leaves allow
it. User-defined expressions are left out: they may render anything.
-/

namespace SqlBuilder

/-- An operand of both runs. -/
abbrev TwinOperand := Operand (Query × Query) Empty

/-- An expression of both runs. -/
abbrev TwinExpr := Expr (Query × Query) Empty

/-- A predicate of both runs. -/
abbrev TwinPredicate := Predicate (Query × Query) Empty

section Project

variable (pick : Query × Query → Query)

mutual

/-- The operand of one of the runs. -/
def Operand.project : TwinOperand → Value
  | .column name => .column name
  | .raw sql => .raw sql
  | .scalar value => .scalar value
  | .backing value => .backing value
  | .expr expr => .expr expr.project
  | .query twins => .query (pick twins)

/-- The operands of one of the runs. -/
def Operand.projectAll : List TwinOperand → List Value
  | [] => []
  | operand :: rest => operand.project :: Operand.projectAll rest

/-- The terms of an order of one of the runs. -/
def Operand.projectOrder : List (TwinOperand × Bool) → List (Value × Bool)
  | [] => []
  | (operand, descends) :: rest => (operand.project, descends) :: Operand.projectOrder rest

/-- The expression of one of the runs. -/
def Expr.project : TwinExpr → Expr Query CustomExpr
  | .between lower upper => .between lower.project upper.project
  | .inList values => .inList (Operand.projectAll values)
  | .isNull => .isNull
  | .exists twins => .exists (pick twins)
  | .not inner => .not inner.project
  | .call name arguments => .call name (Operand.projectAll arguments)
  | .aggregate name arguments distinct => .aggregate name (Operand.projectAll arguments) distinct
  | .groupConcat value distinct order separator limit offset =>
    .groupConcat value.project distinct (Operand.projectOrder order) separator limit offset
  | .ifElse condition yes no => .ifElse condition.project yes.project no.project
  | .ifNull value fallback => .ifNull value.project fallback.project
  | .nullIf value other => .nullIf value.project other.project
  | .matchAgainst fields search booleanMode queryExpansion =>
    .matchAgainst (Operand.projectAll fields) search.project booleanMode queryExpansion
  | .operation lhs operator rhs => .operation lhs.project operator rhs.project
  | .nested twins => .nested (pick twins)
  | .assign name twins => .assign name (pick twins)
  | .cast value type => .cast value.project type

end

/-- The predicate of one of the runs. -/
def Predicate.project : TwinPredicate → Predicate Query CustomExpr
  | .single operand => .single (operand.project pick)
  | .pair lhs rhs => .pair (lhs.project pick) (rhs.project pick)
  | .compare lhs comparator rhs => .compare (lhs.project pick) comparator (rhs.project pick)

/-- The leaf of one of the runs. -/
def Leaf.project : Leaf (Query × Query) Empty → Leaf Query CustomExpr
  | .verbatim text => .verbatim text
  | .bound value => .bound value
  | .literal value => .literal value
  | .nested twins => .nested (pick twins)

theorem Scalar.leaves_project (value : Scalar) :
    (value.leaves.map (Leaf.project pick) : List (Leaf Query CustomExpr)) = value.leaves := by
  cases value <;> rfl

mutual

theorem Operand.leaves_project (operand : TwinOperand) :
    (operand.project pick).leaves = operand.leaves.map (Leaf.project pick) := by
  match operand with
  | .column _ => rfl
  | .raw _ => rfl
  | .scalar value => exact (value.leaves_project pick).symm
  | .backing _ => rfl
  | .expr expr => exact Expr.leaves_project expr
  | .query _ => rfl

theorem Operand.leavesAll_project (operands : List TwinOperand) :
    Operand.leavesAll (Operand.projectAll pick operands) =
      (Operand.leavesAll operands).map (Leaf.project pick) := by
  match operands with
  | [] => rfl
  | operand :: rest =>
      have first := Operand.leaves_project operand
      have others := Operand.leavesAll_project rest
      simp [Operand.projectAll, Operand.leavesAll, first, others]

theorem Operand.leavesOrder_project (terms : List (TwinOperand × Bool)) :
    Operand.leavesOrder (Operand.projectOrder pick terms) =
      (Operand.leavesOrder terms).map (Leaf.project pick) := by
  match terms with
  | [] => rfl
  | (operand, _) :: rest =>
      have first := Operand.leaves_project operand
      have others := Operand.leavesOrder_project rest
      simp [Operand.projectOrder, Operand.leavesOrder, first, others]

theorem Expr.leaves_project (expr : TwinExpr) :
    (expr.project pick).leaves = expr.leaves.map (Leaf.project pick) := by
  match expr with
  | .between lower upper =>
      simp [Expr.project, Expr.leaves, Operand.leaves_project lower, Operand.leaves_project upper]
  | .inList values => exact Operand.leavesAll_project values
  | .isNull => rfl
  | .exists _ => rfl
  | .not inner => exact Expr.leaves_project inner
  | .call name arguments =>
      exact congrArg (Leaf.verbatim name :: ·) (Operand.leavesAll_project arguments)
  | .aggregate name arguments _ =>
      exact congrArg (Leaf.verbatim name :: ·) (Operand.leavesAll_project arguments)
  | .groupConcat value _ order _ _ _ =>
      simp [Expr.project, Expr.leaves, Operand.leaves_project value,
        Operand.leavesOrder_project order]
  | .ifElse condition yes no =>
      simp [Expr.project, Expr.leaves, Operand.leaves_project condition,
        Operand.leaves_project yes, Operand.leaves_project no]
  | .ifNull value fallback =>
      simp [Expr.project, Expr.leaves, Operand.leaves_project value,
        Operand.leaves_project fallback]
  | .nullIf value other =>
      simp [Expr.project, Expr.leaves, Operand.leaves_project value, Operand.leaves_project other]
  | .matchAgainst fields search _ _ =>
      simp [Expr.project, Expr.leaves, Operand.leavesAll_project fields,
        Operand.leaves_project search]
  | .operation lhs _ rhs =>
      simp [Expr.project, Expr.leaves, Operand.leaves_project lhs, Operand.leaves_project rhs,
        Leaf.project]
  | .nested _ => rfl
  | .assign _ _ => rfl
  | .cast value type => exact congrArg (Leaf.verbatim type :: ·) (Operand.leaves_project value)

end

theorem Operand.resolvedLeaves_project (operand : TwinOperand) :
    (operand.project pick).resolvedLeaves =
      operand.resolvedLeaves.map (Leaf.project pick) := by
  cases operand with
  | scalar value => rfl
  | column name => rfl
  | raw sql => rfl
  | backing value => rfl
  | expr expr => exact Expr.leaves_project pick expr
  | query twins => rfl
  | custom own => exact own.elim

end Project

/-! ### What trees may be made of -/

/-- Twin queries that can be nested in others. Quiet ones have no parameters. -/
structure Coupling.Nested (coupling : Coupling) (registry : Registry) (quiet : Bool)
    (query query' : Query) : Prop where
  twin : query.Twin coupling query.params query'
  ledgers : coupling.ledgers query.ledger query'.ledger
  follows : query.ledger.params.Follows registry
  silent : quiet = true → query.params = []

theorem Coupling.Nested.mono {coupling : Coupling} {registry later : Registry} {quiet : Bool}
    {query query' : Query} (nested : coupling.Nested registry quiet query query')
    (extended : registry.Extends later) : coupling.Nested later quiet query query' :=
  { nested with follows := nested.follows.mono extended }

/-- What a tree may be made of for its texts to be twin. -/
def Coupling.Admits (coupling : Coupling) (registry : Registry) (quiet : Bool) :
    Leaf (Query × Query) Empty → Prop
  | .verbatim text => coupling.Verbatim text
  | .bound value => quiet = false ∧ coupling.values value
  | .literal value => coupling.values value
  | .nested twins => coupling.Nested registry quiet twins.1 twins.2

/-- Whether a tree with these leaves has twin texts. -/
def Coupling.AdmitsAll (coupling : Coupling) (registry : Registry) (quiet : Bool)
    (leaves : List (Leaf (Query × Query) Empty)) : Prop :=
  ∀ leaf ∈ leaves, coupling.Admits registry quiet leaf

namespace Coupling.AdmitsAll

variable {coupling : Coupling} {registry later : Registry} {quiet : Bool}
  {leaves more : List (Leaf (Query × Query) Empty)}

theorem mono (admits : coupling.AdmitsAll registry quiet leaves)
    (extended : registry.Extends later) : coupling.AdmitsAll later quiet leaves := by
  intro leaf mem
  have admitted := admits leaf mem
  cases leaf with
  | nested twins => exact Nested.mono admitted extended
  | verbatim text => exact admitted
  | bound value => exact admitted
  | literal value => exact admitted
  | custom own => exact own.elim

theorem left (admits : coupling.AdmitsAll registry quiet (leaves ++ more)) :
    coupling.AdmitsAll registry quiet leaves :=
  fun leaf mem => admits leaf (List.mem_append_left _ mem)

theorem right (admits : coupling.AdmitsAll registry quiet (leaves ++ more)) :
    coupling.AdmitsAll registry quiet more :=
  fun leaf mem => admits leaf (List.mem_append_right _ mem)

theorem of_cons {leaf : Leaf (Query × Query) Empty}
    (admits : coupling.AdmitsAll registry quiet (leaf :: leaves)) :
    coupling.AdmitsAll registry quiet leaves :=
  fun other mem => admits other (List.mem_cons_of_mem _ mem)

theorem append (admits : coupling.AdmitsAll registry quiet leaves)
    (admits' : coupling.AdmitsAll registry quiet more) :
    coupling.AdmitsAll registry quiet (leaves ++ more) := by
  intro leaf mem
  rcases List.mem_append.1 mem with mem | mem
  · exact admits leaf mem
  · exact admits' leaf mem

end Coupling.AdmitsAll

/-! ### Twin texts of compiled trees -/

namespace Writing.Text

variable {writing : Writing} {known : List Param} {text text' more more' : String}

theorem callText {name : String} (verbatim : writing.Verbatim name)
    (twin : writing.Text known text text') :
    writing.Text known (SqlBuilder.callText name text) (SqlBuilder.callText name text') := by
  have opened : writing.Verbatim (name ++ "(") := verbatim.append (verbatim_of_all (by decide))
  have closing : writing.Verbatim ")" := verbatim_of_all (by decide)
  exact (prepend opened twin).append (.verbatim closing) (by decide)

/-- Texts with a fixed word between them. -/
theorem joined (twin : writing.Text known text text') (middle : String)
    (plain : middle.toList.all isPlainCode = true) (ends : EndsText middle)
    (nonempty : middle.toList ≠ []) (twin' : writing.Text known more more') :
    writing.Text known (text ++ middle ++ more) (text' ++ middle ++ more') :=
  twin.between (verbatim_of_all plain) ends nonempty twin'

/-- A text with a fixed word in front of it. -/
theorem after (word : String) (plain : word.toList.all isPlainCode = true)
    (twin : writing.Text known text text') : writing.Text known (word ++ text) (word ++ text') :=
  prepend (verbatim_of_all plain) twin

/-- A text with a fixed word behind it. -/
theorem before (twin : writing.Text known text text') (word : String)
    (plain : word.toList.all isPlainCode = true) (ends : EndsText word) :
    writing.Text known (text ++ word) (text' ++ word) :=
  twin.append (.verbatim (verbatim_of_all plain)) ends

/-- A text that may be left out behind another one. -/
theorem optional (twin : writing.Text known text text') (present : Bool) (word : String)
    (plain : word.toList.all isPlainCode = true) (ends : EndsText word) :
    writing.Text known (text ++ (if present then word else ""))
      (text' ++ (if present then word else "")) := by
  cases present with
  | true => exact twin.before word plain ends
  | false => simpa using twin

end Writing.Text

namespace Coupling

variable {coupling : Coupling} {connection connection' : Connection} {world later : World}
  {quiet : Bool}

/-- Whether two compilations give twin texts. -/
abbrev CompilesText (coupling : Coupling) (quiet : Bool) (world : World)
    (action action' : Compile String) : Prop :=
  coupling.Compiles quiet world action action' fun later text text' =>
    coupling.Text (later.visible quiet) text text'

/-- Whether two compilations give lists of twin texts. -/
abbrev CompilesTexts (coupling : Coupling) (quiet : Bool) (world : World)
    (action action' : Compile (List String)) : Prop :=
  coupling.Compiles quiet world action action' fun later texts texts' =>
    List.Forall₂ (coupling.Text (later.visible quiet)) texts texts'

/-- The connection's separator is a comma and a blank, whatever the dialect. -/
theorem columnSeparator (twins : coupling.connections connection connection') :
    connection.grammar.columnSeparator = ", " := by
  obtain ⟨dialect, same⟩ := coupling.dialect twins
  rw [same]
  cases dialect <;> rfl

theorem text_intercalate (twins : coupling.connections connection connection')
    {known : List Param} {texts texts' : List String}
    (all : List.Forall₂ (coupling.Text known) texts texts') :
    coupling.Text known (String.intercalate connection.grammar.columnSeparator texts)
      (String.intercalate connection'.grammar.columnSeparator texts') := by
  rw [coupling.grammar twins, columnSeparator twins]
  exact .intercalate (Writing.verbatim_of_all (by decide)) (by decide) (by decide) all

theorem text_escapeIdentifier (twins : coupling.connections connection connection')
    (known : List Param) (name : String) :
    coupling.Text known (connection.grammar.escapeIdentifier name)
      (connection'.grammar.escapeIdentifier name) := by
  rw [coupling.grammar twins]
  obtain ⟨dialect, same⟩ := coupling.dialect twins
  have scanned := dialect.scanned_quotes
  have dot : dialect.grammar.tableSeparator = "." := by cases dialect <;> rfl
  refine .plain ?_
  rw [same, Grammar.escapeIdentifier, dot, String.toList_ofList]
  exact Identifier.plain_escape scanned name.toList

/-- Twin queries have twin texts. -/
theorem Nested.sql {registry : Registry} {query query' : Query}
    (nested : coupling.Nested registry quiet query query') :
    coupling.Text query.params query.sql query'.sql := by
  unfold Query.sql Query.columnSeparator
  rw [coupling.grammar nested.twin.connection, columnSeparator nested.twin.connection]
  exact nested.twin.fragments.render (Writing.verbatim_of_all (by decide)) (by decide) (by decide)

/-- A nested query is written into the text, and its parameters are taken over. -/
theorem Compiles.embed {nested nested' : Query}
    (twins : coupling.Nested world.registry quiet nested nested') :
    coupling.CompilesText quiet world (modifyGet (Ledger.embed nested))
      (modifyGet (Ledger.embed nested')) := by
  intro registry ledger ledger' workspace workspace' grown follows owns coupled
  have recorded := twins.follows.mono grown.registry
  refine ⟨rfl, rfl, coupling.adopted coupled twins.ledgers, ?_, registry,
    .adopt follows owns recorded, ?_⟩
  · intro isQuiet
    have empty : nested.ledger.params.entries = [] := twins.silent isQuiet
    change (ledger.params.extend nested.ledger.params).entries = ledger.params.entries
    unfold ParamList.extend
    rw [empty]
    rfl
  · refine twins.sql.mono ?_
    cases quiet with
    | true => simp [twins.silent rfl]
    | false => exact follows.subset_extend_right recorded

end Coupling

end SqlBuilder
