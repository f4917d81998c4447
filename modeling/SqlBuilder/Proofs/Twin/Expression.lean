import SqlBuilder.Proofs.Expr.Equation
import SqlBuilder.Proofs.Twin.Operand

/-!
# Compiling trees in both runs

Both projections of a tree compile to twin texts, by induction on the tree with one case for each
kind of expression. In every case the parts are compiled in order, each in the world that the parts
before it have left, and the texts are put together behind words that cannot go on a placeholder.
-/

namespace SqlBuilder

namespace Coupling

variable {coupling : Coupling} {connection connection' : Connection} {world : World} {quiet : Bool}

/-- A text that is put together from one that was compiled. -/
theorem Compiles.one {action action' : Compile String} {build build' : String → String}
    (first : coupling.CompilesText quiet world action action')
    (combine : ∀ {known text text'}, coupling.Text known text text' →
      coupling.Text known (build text) (build' text')) :
    coupling.CompilesText quiet world (do return build (← action))
      (do return build' (← action')) :=
  .bind first fun _ _ _ _ written => .pure fun _ grown =>
    combine (written.mono (grown.visible quiet))

/-- A text that is put together from two that were compiled in a row. -/
theorem Compiles.two {action action' next next' : Compile String}
    {build build' : String → String → String}
    (first : coupling.CompilesText quiet world action action')
    (second : ∀ later, world.Grows later → coupling.CompilesText quiet later next next')
    (combine : ∀ {known text text' more more'}, coupling.Text known text text' →
      coupling.Text known more more' → coupling.Text known (build text more) (build' text' more')) :
    coupling.CompilesText quiet world
      (do let text ← action; let more ← next; return build text more)
      (do let text ← action'; let more ← next'; return build' text more) := by
  refine .bind first fun between text text' grown written => ?_
  refine .bind (second between grown) fun last more more' grown written' => ?_
  refine .pure fun later further => ?_
  exact combine (written.mono ((grown.trans further).visible quiet))
    (written'.mono (further.visible quiet))

/-- A backing value is written as a literal. -/
theorem Compiles.backing (twins : coupling.connections connection connection') (value : Backing) :
    coupling.CompilesText quiet world (value.compile connection) (value.compile connection') := by
  cases value with
  | text literal => exact .quoteText twins literal
  | int number => exact .pure fun later _ => .verbatim (Writing.verbatim_int number.toInt)

/-- The separator of a joined text is a literal. -/
theorem Compiles.separatorText (twins : coupling.connections connection connection')
    (separator : Option String) :
    coupling.Compiles quiet world (separatorText connection separator)
      (separatorText connection' separator) fun later text text' =>
        coupling.Text (later.visible quiet) text text' ∧ Writing.EndsText text := by
  cases separator with
  | none =>
      exact .pure fun later _ => ⟨.empty, .empty⟩
  | some separator =>
      refine .bind (.quoteText twins separator) fun between literal literal' _ written => ?_
      refine .pure fun later grown => ⟨?_, ?_⟩
      · exact .after " separator " (by decide) (written.mono (grown.visible quiet))
      · exact Writing.EndsText.append (by decide) (by decide)

end Coupling

/-- The text of a value inside an expression. -/
theorem Coupling.Compiles.scalar {coupling : Coupling} {connection connection' : Connection}
    {world : World} {quiet : Bool} (twins : coupling.connections connection connection')
    (value : Scalar) (admits : coupling.AdmitsAll world.registry quiet value.leaves) :
    coupling.CompilesText quiet world (Operand.compile connection (.scalar value))
      (Operand.compile connection' (.scalar value)) := by
  have bound (other : (value.leaves : List (Leaf (Query × Query) Empty)) = [.bound value]) :
      coupling.CompilesText quiet world (modifyGet (Ledger.bind connection value))
        (modifyGet (Ledger.bind connection' value)) := by
    obtain ⟨rfl, allowed⟩ : quiet = false ∧ coupling.values value :=
      admits (.bound value) (by simp [other])
    exact .bindScalar twins allowed
  cases value with
  | text text => exact .quoteText twins text
  | bool value =>
      have same : connection'.grammar.booleanLiteral value =
          connection.grammar.booleanLiteral value := by rw [coupling.grammar twins]
      refine .pure fun later _ => ?_
      rw [same]
      exact .verbatim (Writing.verbatim_booleanLiteral _ value)
  | null => exact .pure fun later _ => .verbatim (Writing.verbatim_of_all (by decide))
  | int value => exact bound rfl
  | float value => exact bound rfl
  | bytes value => exact bound rfl
  | timestamp value => exact bound rfl
  | uuid value => exact bound rfl
  | json value => exact bound rfl

/-- Only a nested query projects to one. -/
theorem Operand.exists_of_project_eq {pick : Query × Query → Query} {first : TwinOperand}
    {rest : List TwinOperand} {nested : Query} (same : first.project pick = .query nested)
    (none : Operand.projectAll pick rest = []) :
    ∃ nested, first = .query nested ∧ rest = [] := by
  cases first with
  | query twins =>
      cases rest with
      | nil => exact ⟨twins, rfl, rfl⟩
      | cons next rest => simp [Operand.projectAll] at none
  | column name => simp [Operand.project] at same
  | raw sql => simp [Operand.project] at same
  | scalar value => simp [Operand.project] at same
  | backing value => simp [Operand.project] at same
  | expr expr => simp [Operand.project] at same
  | custom own => exact own.elim

namespace Coupling

variable {coupling : Coupling} {connection connection' : Connection} {known : List Param}

/-- A query that goes to a variable: the colon of `:=` is followed by no name. -/
theorem text_assign {text text' : String} (written : coupling.Text known text text') :
    coupling.Text known (callText " := " text) (callText " := " text') := by
  have called : coupling.Text known (callText " " text) (callText " " text') :=
    .callText (Writing.verbatim_of_all (by decide)) written
  have assigned : coupling.Chars known (':' :: '=' :: (callText " " text).toList)
      (':' :: '=' :: (callText " " text').toList) := .cons .assign trivial called
  have blank : coupling.Verbatim " " := Writing.verbatim_of_all (by decide)
  have spaced := Writing.Chars.code blank assigned
  simpa [Writing.Text, callText, Lexeme.text] using spaced

/-- The parts of a joined text. -/
theorem text_groupConcat (twins : coupling.connections connection connection') (distinct : Bool)
    (limit offset : Option Nat) {text text' separator separator' : String}
    {terms terms' : List String} (written : coupling.Text known text text')
    (all : List.Forall₂ (coupling.Text known) terms terms')
    (separated : coupling.Text known separator separator')
    (ends : Writing.EndsText separator) :
    let order (connection : Connection) (terms : List String) : String :=
      if terms.isEmpty then ""
      else " order by " ++ String.intercalate connection.grammar.columnSeparator terms
    let number (word : String) (count : Option Nat) : String :=
      (count.map fun count => word ++ Nat.repr count).getD ""
    coupling.Text known
      (callText "group_concat" ((if distinct then "distinct " else "") ++ text ++
        order connection terms ++ separator ++ number " limit " limit ++ number " offset " offset))
      (callText "group_concat" ((if distinct then "distinct " else "") ++ text' ++
        order connection' terms' ++ separator' ++ number " limit " limit ++
        number " offset " offset)) := by
  intro order number
  have start : coupling.Text known ((if distinct then "distinct " else "") ++ text)
      ((if distinct then "distinct " else "") ++ text') := by
    cases distinct with
    | true => exact written.after "distinct " (by decide)
    | false => exact written.after "" (by decide)
  have sorted : coupling.Text known (order connection terms) (order connection' terms') ∧
      Writing.EndsText (order connection terms) := by
    cases all with
    | nil => exact ⟨.empty, .empty⟩
    | cons first rest =>
        exact ⟨(text_intercalate twins (.cons first rest)).after " order by " (by decide),
          Writing.EndsText.append (by decide) (by decide)⟩
  have counted (word : String) (plain : word.toList.all isPlainCode = true)
      (ends : Writing.EndsText word) (nonempty : word.toList ≠ []) (count : Option Nat) :
      coupling.Text known (number word count) (number word count) ∧
        Writing.EndsText (number word count) := by
    cases count with
    | none => exact ⟨.empty, .empty⟩
    | some count =>
        exact ⟨.after word plain (.verbatim (Writing.verbatim_repr count)), ends.append nonempty⟩
  have limited := counted " limit " (by decide) (by decide) (by decide) limit
  have skipped := counted " offset " (by decide) (by decide) (by decide) offset
  have parts := (start.append sorted.1 sorted.2).append separated ends
  exact .callText (Writing.verbatim_of_all (by decide))
    ((parts.append limited.1 limited.2).append skipped.1 skipped.2)

end Coupling

section Compile

variable {coupling : Coupling} {connection connection' : Connection} {quiet : Bool}

open Coupling

mutual

/-- Both projections of an operand compile to twin texts. -/
theorem Operand.compile_twin (twins : coupling.connections connection connection')
    (operand : TwinOperand) {world : World}
    (admits : coupling.AdmitsAll world.registry quiet operand.leaves) :
    coupling.CompilesText quiet world ((operand.project Prod.fst).compile connection)
      ((operand.project Prod.snd).compile connection') := by
  match operand with
  | .column name => exact .pure fun later _ => text_escapeIdentifier twins _ name
  | .raw sql =>
      have verbatim : coupling.Verbatim sql := admits (.verbatim sql) (by simp [Operand.leaves])
      exact .pure fun later _ => .verbatim verbatim
  | .scalar value => exact .scalar twins value admits
  | .backing value => exact .backing twins value
  | .expr expr => exact Expr.compile_twin twins expr admits
  | .query nested =>
      have twin : coupling.Nested world.registry quiet nested.1 nested.2 :=
        admits (.nested nested) (by simp [Operand.leaves])
      refine .bind (.embed twin) fun between text text' _ written => ?_
      refine .pure fun later grown => ?_
      exact .callText (Writing.verbatim_of_all (by decide)) (written.mono (grown.visible quiet))

/-- Both projections of operands compile to twin texts. -/
theorem Operand.compileAll_twin (twins : coupling.connections connection connection')
    (operands : List TwinOperand) {world : World}
    (admits : coupling.AdmitsAll world.registry quiet (Operand.leavesAll operands)) :
    coupling.CompilesTexts quiet world
      (Operand.compileAll connection (Operand.projectAll Prod.fst operands))
      (Operand.compileAll connection' (Operand.projectAll Prod.snd operands)) := by
  match operands with
  | [] => exact .pure fun later _ => .nil
  | operand :: rest =>
      have first := Operand.compile_twin twins operand admits.left
      refine .bind first fun between text text' grown written => ?_
      have others := Operand.compileAll_twin twins rest (admits.right.mono grown.registry)
      refine .bind others fun last texts texts' grown all => ?_
      refine .pure fun later further => ?_
      have seen := (grown.trans further).visible quiet
      exact .cons (written.mono seen) (Writing.forall₂_mono all (further.visible quiet))

/-- Both projections of an order compile to twin terms. -/
theorem Operand.compileOrder_twin (twins : coupling.connections connection connection')
    (terms : List (TwinOperand × Bool)) {world : World}
    (admits : coupling.AdmitsAll world.registry quiet (Operand.leavesOrder terms)) :
    coupling.CompilesTexts quiet world
      (Operand.compileOrder connection (Operand.projectOrder Prod.fst terms))
      (Operand.compileOrder connection' (Operand.projectOrder Prod.snd terms)) := by
  match terms with
  | [] => exact .pure fun later _ => .nil
  | (operand, descends) :: rest =>
      have first := Operand.compile_twin twins operand admits.left
      refine .bind first fun between text text' grown written => ?_
      have others := Operand.compileOrder_twin twins rest (admits.right.mono grown.registry)
      refine .bind others fun last texts texts' grown all => ?_
      refine .pure fun later further => ?_
      have term := written.mono ((grown.trans further).visible quiet)
      refine .cons ?_ (Writing.forall₂_mono all (further.visible quiet))
      cases descends with
      | true => exact term.before " desc" (by decide) (by decide)
      | false => exact term.before " asc" (by decide) (by decide)

/-- Both projections of an expression compile to twin texts. -/
theorem Expr.compile_twin (twins : coupling.connections connection connection')
    (expr : TwinExpr) {world : World}
    (admits : coupling.AdmitsAll world.registry quiet expr.leaves) :
    coupling.CompilesText quiet world ((expr.project Prod.fst).compile connection)
      ((expr.project Prod.snd).compile connection') := by
  match expr with
  | .between lower upper =>
      refine .two (Operand.compile_twin twins lower admits.left)
        (fun later grown => Operand.compile_twin twins upper (admits.right.mono grown.registry))
        fun low high => ?_
      exact (low.after "between " (by decide)).joined " and " (by decide) (by decide) (by decide)
        high
  | .inList [] => exact .pure fun later _ => .verbatim (Writing.verbatim_of_all (by decide))
  | .inList (first :: rest) =>
      by_cases single : ∃ nested, first = .query nested ∧ rest = []
      · obtain ⟨nested, rfl, rfl⟩ := single
        have twin : coupling.Nested world.registry quiet nested.1 nested.2 :=
          admits (.nested nested) (by simp [Expr.leaves, Operand.leavesAll, Operand.leaves])
        exact .one (.embed twin) fun written =>
          .callText (Writing.verbatim_of_all (by decide)) written
      · have other (pick : Query × Query → Query) : ∀ nested,
            first.project pick :: Operand.projectAll pick rest ≠ [.query nested] := by
          intro nested same
          simp only [List.cons.injEq] at same
          exact single (Operand.exists_of_project_eq same.1 same.2)
        have all := Operand.compileAll_twin twins (first :: rest) admits
        simp only [Expr.project, Operand.projectAll]
        rw [Expr.compile_inList _ _ _ (other Prod.fst), Expr.compile_inList _ _ _ (other Prod.snd)]
        refine .bind all fun between texts texts' grown written => .pure fun later further => ?_
        exact .callText (Writing.verbatim_of_all (by decide))
          (text_intercalate twins (Writing.forall₂_mono written (further.visible quiet)))
  | .isNull => exact .pure fun later _ => .verbatim (Writing.verbatim_of_all (by decide))
  | .exists nested =>
      have twin : coupling.Nested world.registry quiet nested.1 nested.2 :=
        admits (.nested nested) (by simp [Expr.leaves])
      exact .one (.embed twin) fun written =>
        .callText (Writing.verbatim_of_all (by decide)) written
  | .not inner =>
      by_cases same : inner = .isNull
      · subst same
        exact .pure fun later _ => .verbatim (Writing.verbatim_of_all (by decide))
      · have other (pick : Query × Query → Query) : inner.project pick ≠ .isNull := by
          cases inner <;> simp_all [Expr.project]
        have negated := Expr.compile_twin twins inner admits
        simp only [Expr.project]
        rw [Expr.compile_not _ _ (other Prod.fst), Expr.compile_not _ _ (other Prod.snd)]
        exact .one negated fun written => written.after "not " (by decide)
  | .call name arguments =>
      have verbatim : coupling.Verbatim name := admits (.verbatim name) (by simp [Expr.leaves])
      have all := Operand.compileAll_twin twins arguments (admits.of_cons)
      refine .bind all fun between texts texts' grown written => .pure fun later further => ?_
      exact .callText verbatim
        (text_intercalate twins (Writing.forall₂_mono written (further.visible quiet)))
  | .aggregate name arguments distinct =>
      have verbatim : coupling.Verbatim name := admits (.verbatim name) (by simp [Expr.leaves])
      have all := Operand.compileAll_twin twins arguments (admits.of_cons)
      refine .bind all fun between texts texts' grown written => .pure fun later further => ?_
      have list := text_intercalate twins (Writing.forall₂_mono written (further.visible quiet))
      refine .callText verbatim ?_
      cases distinct with
      | true => exact list.after "distinct " (by decide)
      | false => exact list.after "" (by decide)
  | .groupConcat value distinct order separator limit offset =>
      refine .bind (.require twins .groupConcat) fun w₁ _ supported g₁ same => ?_
      subst same
      cases supported with
      | false => exact .pure fun later _ => .empty
      | true =>
          have first := Operand.compile_twin twins value (admits.left.mono g₁.registry)
          refine .bind first fun w₂ text text' g₂ written => ?_
          have sorted := Operand.compileOrder_twin twins order
            (admits.right.mono (g₁.trans g₂).registry)
          refine .bind sorted fun w₃ terms terms' g₃ all => ?_
          refine .bind (.separatorText twins separator) fun w₄ sep sep' g₄ separated => ?_
          refine .pure fun later g₅ => ?_
          exact text_groupConcat twins distinct limit offset
            (written.mono (((g₃.trans g₄).trans g₅).visible quiet))
            (Writing.forall₂_mono all ((g₄.trans g₅).visible quiet))
            (separated.1.mono (g₅.visible quiet)) separated.2
  | .ifElse condition yes no =>
      have first := Operand.compile_twin twins condition admits.left
      refine .bind first fun w₁ text text' g₁ written => ?_
      have second := Operand.compile_twin twins yes (admits.right.left.mono g₁.registry)
      refine .bind second fun w₂ taken taken' g₂ taken_twin => ?_
      have third := Operand.compile_twin twins no
        (admits.right.right.mono (g₁.trans g₂).registry)
      refine .bind third fun w₃ left left' g₃ left_twin => ?_
      rw [coupling.grammar twins]
      split
      · refine .pure fun later g₄ => .callText (Writing.verbatim_of_all (by decide)) ?_
        have test := written.mono (((g₂.trans g₃).trans g₄).visible quiet)
        have yes := taken_twin.mono ((g₃.trans g₄).visible quiet)
        have no := left_twin.mono (g₄.visible quiet)
        exact (test.joined ", " (by decide) (by decide) (by decide) yes).joined ", " (by decide)
          (by decide) (by decide) no
      · refine .pure fun later g₄ => ?_
        have test := written.mono (((g₂.trans g₃).trans g₄).visible quiet)
        have yes := taken_twin.mono ((g₃.trans g₄).visible quiet)
        have no := left_twin.mono (g₄.visible quiet)
        have chosen := (test.after "case when " (by decide)).joined " then " (by decide)
          (by decide) (by decide) yes
        exact (chosen.joined " else " (by decide) (by decide) (by decide) no).before " end"
          (by decide) (by decide)
  | .ifNull value fallback =>
      refine .two (Operand.compile_twin twins value admits.left)
        (fun later grown => Operand.compile_twin twins fallback (admits.right.mono grown.registry))
        fun first second => ?_
      rw [coupling.grammar twins]
      refine .callText ?_ (first.joined ", " (by decide) (by decide) (by decide) second)
      split <;> exact Writing.verbatim_of_all (by decide)
  | .nullIf value other =>
      refine .two (Operand.compile_twin twins value admits.left)
        (fun later grown => Operand.compile_twin twins other (admits.right.mono grown.registry))
        fun first second => ?_
      exact .callText (Writing.verbatim_of_all (by decide))
        (first.joined ", " (by decide) (by decide) (by decide) second)
  | .matchAgainst fields search booleanMode queryExpansion =>
      refine .bind (.require twins .matchAgainst) fun w₁ _ supported g₁ same => ?_
      subst same
      cases supported with
      | false => exact .pure fun later _ => .empty
      | true =>
          have listed := Operand.compileAll_twin twins fields (admits.left.mono g₁.registry)
          refine .bind listed fun w₂ texts texts' g₂ all => ?_
          have second := Operand.compile_twin twins search
            (admits.right.mono (g₁.trans g₂).registry)
          refine .bind second fun w₃ text text' g₃ written => .pure fun later g₄ => ?_
          have list := text_intercalate twins
            (Writing.forall₂_mono all ((g₃.trans g₄).visible quiet))
          have sought := written.mono (g₄.visible quiet)
          have modes := (sought.optional booleanMode " in boolean mode" (by decide)
            (by decide)).optional queryExpansion " with query expansion" (by decide) (by decide)
          have against := Writing.Text.callText
            (Writing.verbatim_of_all (by decide : " against ".toList.all isPlainCode = true)) modes
          refine Writing.Text.append (.callText (Writing.verbatim_of_all (by decide)) list) against
            ?_
          exact (Writing.EndsText.append (by decide) (by decide)).append (by simp)
  | .operation lhs operator rhs =>
      have verbatim : coupling.Verbatim operator :=
        admits (.verbatim operator) (by simp [Expr.leaves])
      refine .two (Operand.compile_twin twins lhs admits.of_cons.left)
        (fun later grown =>
          Operand.compile_twin twins rhs (admits.of_cons.right.mono grown.registry))
        fun first second => ?_
      have left := first.between (Writing.verbatim_of_all (by decide))
        (by decide : Writing.EndsText " ") (by decide) (.verbatim verbatim)
      exact .callText (Writing.verbatim_of_all (by decide))
        (left.joined " " (by decide) (by decide) (by decide) second)
  | .nested nested =>
      have twin : coupling.Nested world.registry quiet nested.1 nested.2 :=
        admits (.nested nested) (by simp [Expr.leaves])
      exact .one (.embed twin) fun written =>
        .callText (Writing.verbatim_of_all (by decide)) written
  | .assign name nested =>
      have verbatim : coupling.Verbatim name := admits (.verbatim name) (by simp [Expr.leaves])
      refine .bind (.require twins .variables) fun w₁ _ _ g₁ _ => ?_
      have twin : coupling.Nested w₁.registry quiet nested.1 nested.2 :=
        Nested.mono (admits (.nested nested) (by simp [Expr.leaves])) g₁.registry
      refine .one (.embed twin) fun written => ?_
      have assigned := text_assign written
      have named : coupling.Verbatim ("@" ++ name) :=
        Writing.Verbatim.append (Writing.verbatim_of_all (by decide)) verbatim
      exact .prepend named assigned
  | .cast value type =>
      have verbatim : coupling.Verbatim type := admits (.verbatim type) (by simp [Expr.leaves])
      refine .one (Operand.compile_twin twins value admits.of_cons) fun written => ?_
      have typed := written.between (Writing.verbatim_of_all (by decide))
        (by decide : Writing.EndsText " as ") (by decide) (.verbatim verbatim)
      exact .callText (Writing.verbatim_of_all (by decide)) typed

end

/-- Both projections of an item, a term or a part of a predicate compile to twin texts. -/
theorem Operand.resolve_twin (twins : coupling.connections connection connection')
    (operand : TwinOperand) {world : World}
    (admits : coupling.AdmitsAll world.registry quiet operand.resolvedLeaves) :
    coupling.CompilesText quiet world ((operand.project Prod.fst).resolve connection)
      ((operand.project Prod.snd).resolve connection') := by
  cases operand with
  | scalar value =>
      obtain ⟨rfl, allowed⟩ : quiet = false ∧ coupling.values value :=
        admits (.bound value) (by simp [Operand.resolvedLeaves])
      exact .bindScalar twins allowed
  | column name => exact Operand.compile_twin twins (.column name) admits
  | raw sql => exact Operand.compile_twin twins (.raw sql) admits
  | backing value => exact Operand.compile_twin twins (.backing value) admits
  | expr expr => exact Operand.compile_twin twins (.expr expr) admits
  | query nested => exact Operand.compile_twin twins (.query nested) admits
  | custom own => exact own.elim

theorem Expr.suppliesComparator_project (pick : Query × Query → Query) (expr : TwinExpr) :
    (expr.project pick).suppliesComparator = expr.suppliesComparator := by
  match expr with
  | .not inner => exact Expr.suppliesComparator_project pick inner
  | .between _ _ | .inList _ | .isNull | .exists _ | .call _ _ | .aggregate _ _ _
  | .groupConcat _ _ _ _ _ _ | .ifElse _ _ _ | .ifNull _ _ | .nullIf _ _
  | .matchAgainst _ _ _ _ | .operation _ _ _ | .nested _ | .assign _ _ | .cast _ _ => rfl

theorem Operand.suppliesComparator_project (pick pick' : Query × Query → Query)
    (operand : TwinOperand) :
    (operand.project pick).suppliesComparator = (operand.project pick').suppliesComparator := by
  cases operand with
  | expr expr =>
      exact (Expr.suppliesComparator_project pick expr).trans
        (Expr.suppliesComparator_project pick' expr).symm
  | custom own => exact own.elim
  | column name => rfl
  | raw sql => rfl
  | scalar value => rfl
  | backing value => rfl
  | query nested => rfl

theorem Operand.isNullScalar_project {pick : Query × Query → Query} {operand : TwinOperand} :
    (operand.project pick).isNullScalar = true ↔ operand = .scalar .null := by
  cases operand with
  | scalar value => cases value <;> simp [Operand.project, Operand.isNullScalar]
  | custom own => exact own.elim
  | column name => simp [Operand.project, Operand.isNullScalar]
  | raw sql => simp [Operand.project, Operand.isNullScalar]
  | backing value => simp [Operand.project, Operand.isNullScalar]
  | expr expr => simp [Operand.project, Operand.isNullScalar]
  | query nested => simp [Operand.project, Operand.isNullScalar]

/-- Both projections of a predicate compile to twin texts. -/
theorem Predicate.compile_twin (twins : coupling.connections connection connection')
    (predicate : TwinPredicate) {world : World}
    (admits : coupling.AdmitsAll world.registry quiet predicate.leaves) :
    coupling.CompilesText quiet world ((predicate.project Prod.fst).compile connection)
      ((predicate.project Prod.snd).compile connection') := by
  cases predicate with
  | single operand => exact Operand.resolve_twin twins operand admits
  | compare lhs comparator rhs =>
      have verbatim : coupling.Verbatim comparator :=
        admits (.verbatim comparator) (by simp [Predicate.leaves])
      refine .two (Operand.resolve_twin twins lhs admits.of_cons.left)
        (fun later grown =>
          Operand.resolve_twin twins rhs (admits.of_cons.right.mono grown.registry))
        fun first second => ?_
      have left := first.between (Writing.verbatim_of_all (by decide))
        (by decide : Writing.EndsText " ") (by decide) (.verbatim verbatim)
      exact left.joined " " (by decide) (by decide) (by decide) second
  | pair lhs rhs =>
      by_cases null : rhs = .scalar .null
      · subst null
        exact .one (Operand.resolve_twin twins lhs admits.left) fun written =>
          written.before " is null" (by decide) (by decide)
      · have leaves : (Predicate.pair lhs rhs).leaves =
            lhs.resolvedLeaves ++ rhs.resolvedLeaves := by
          rw [Predicate.leaves]
          exact null
        rw [leaves] at admits
        have present (pick : Query × Query → Query) :
            (rhs.project pick).isNullScalar = false :=
          Bool.eq_false_iff.2 fun isNull => null (Operand.isNullScalar_project.1 isNull)
        have second (later : World) (grown : world.Grows later) :=
          Operand.resolve_twin twins rhs (admits.right.mono grown.registry)
        simp only [Predicate.project, Predicate.compile, present,
          Operand.suppliesComparator_project Prod.snd Prod.fst rhs]
        split
        · exact .two (Operand.resolve_twin twins lhs admits.left) second fun first more =>
            first.joined " " (by decide) (by decide) (by decide) more
        · exact .two (Operand.resolve_twin twins lhs admits.left) second fun first more =>
            first.joined " = " (by decide) (by decide) (by decide) more

end Compile

end SqlBuilder
