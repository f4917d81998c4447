import SqlBuilder.Proofs.Nesting.Run
import SqlBuilder.Proofs.Twin.Condition

/-!
# Builder calls keep queries sealed

One lemma for each builder call whose operands are built. Conditions, and groups of what adds
nothing else, are of the narrow scope; joins and all other calls are made outside callbacks.
-/

namespace SqlBuilder

open Nesting Script

variable {dialect : Dialect} {scope : Scope} {query : Query} {workspace : Workspace} {α : Type}

theorem ClosedLeaves.column (name : String) :
    ClosedLeaves dialect (Operand.column name : Value).leaves := by
  intro leaf mem
  cases mem

theorem ClosedLeaves.flatten {rows : List (List Value)}
    (closed : ∀ row ∈ rows, ClosedLeaves dialect (Operand.leavesAll row)) :
    ClosedLeaves dialect (Operand.leavesAll rows.flatten) := by
  intro leaf mem
  rw [Operand.leavesAll_eq_flatMap] at mem
  rcases List.mem_flatMap.1 mem with ⟨value, present, mem⟩
  rcases List.mem_flatten.1 present with ⟨row, row_mem, value_mem⟩
  refine closed row row_mem leaf ?_
  rw [Operand.leavesAll_eq_flatMap]
  exact List.mem_flatMap.2 ⟨value, value_mem, mem⟩

namespace Edit.Seals

theorem resolve {operand : Value} (closed : ClosedLeaves dialect operand.leaves) :
    Edit.Seals dialect scope query workspace (Edit.resolve operand) dialect.Closed :=
  .compiling fun speaks => Operand.resolve_closed speaks operand closed

theorem resolveAll {operands : List Value}
    (closed : ClosedLeaves dialect (Operand.leavesAll operands)) :
    Edit.Seals dialect scope query workspace (Edit.resolveAll operands) fun texts =>
      ∀ text ∈ texts, dialect.Closed text := by
  induction operands generalizing query workspace with
  | nil => exact .pure (by simp)
  | cons operand rest ih =>
      refine .bind (.resolve closed.left) fun head => ?_
      refine .bind (ih closed.right) fun tail => .pure ?_
      simpa using ⟨head, tail⟩

theorem embed {nested : Query} (closed : nested.Sealed dialect) :
    Edit.Seals dialect scope query workspace (Edit.embed nested) dialect.Closed :=
  .compiling fun _ => embed_closed closed.sql

/-- A change of a query outside callbacks. -/
theorem change {change : Query → Query}
    (closed : ∀ query : Query, query.Sealed dialect → (change query).Sealed dialect) :
    Edit.Seals dialect .anything query workspace (modify change : Edit PUnit) fun _ => True :=
  .changing fun ready => closed query ready

/-! ### Conditions -/

theorem keyword_mem (query : Query) (clause : ConditionClause) (connective : Connective) :
    (query.nextKeyword clause connective).1 ∈ Fragment.conditionKeywords := by
  unfold Query.nextKeyword
  dsimp only
  split
  · cases query.pending.getD connective <;> decide
  · cases clause <;> decide

theorem condition {predicate : Predicate Query CustomExpr}
    (closed : ClosedLeaves dialect predicate.leaves) (clause : ConditionClause)
    (connective : Connective) :
    Edit.Seals dialect scope query workspace (Edit.condition clause connective predicate)
      fun _ => True := by
  intro ready sealed
  rw [Edit.run_condition closed.hookFree]
  rcases Predicate.compile_closed ready.speaks predicate closed query.ledger workspace with
    ⟨text, same⟩
  have word := keyword_mem query clause connective
  generalize (predicate.compile query.connection).run query.ledger = compiled at text same ⊢
  refine ⟨?_, ?_, trivial⟩
  · have opened : query.Grown dialect { (query.nextKeyword clause connective).2 with
        ledger := (compiled.run workspace).1.2 } := .of_congr rfl rfl rfl
    exact ready.reaches (opened.trans (.addText word text))
  · dsimp only
    rw [same]
    exact sealed

theorem filter {predicate : Predicate Query CustomExpr}
    (closed : ClosedLeaves dialect predicate.leaves) :
    Edit.Seals dialect scope query workspace (Edit.filter predicate) fun _ => True :=
  .condition closed .filter .and

theorem filterIn (negated : Bool) {lhs : Value} {values : List Value}
    (left : ClosedLeaves dialect lhs.leaves)
    (closed : ClosedLeaves dialect (Operand.leavesAll values)) :
    Edit.Seals dialect scope query workspace (Edit.filterIn negated lhs values) fun _ => True := by
  unfold Edit.filterIn
  split
  · refine .filter ?_
    intro leaf mem
    rw [List.mem_singleton.1 mem]
    exact .ite (.of_all (by decide)) (.of_all (by decide))
  · refine .filter (ClosedLeaves.of_all ⟨left, ?_⟩)
    cases negated <;> exact closed

theorem keyConditions (keys : List String) {values : List Value}
    (closed : ClosedLeaves dialect (Operand.leavesAll values)) :
    Edit.Seals dialect scope query workspace (Edit.keyConditions keys values) fun _ => True := by
  induction keys generalizing query workspace values with
  | nil => exact .pure trivial
  | cons key keys ih =>
      cases values with
      | nil => exact .pure trivial
      | cons value values =>
          have compared : ClosedLeaves dialect (Predicate.pair (.column key) value).leaves :=
            .of_all ⟨ClosedLeaves.column key, closed.left⟩
          exact .bind (.filter compared) fun _ => ih closed.right

theorem filterByKey {values : List Value}
    (closed : ClosedLeaves dialect (Operand.leavesAll values)) :
    Edit.Seals dialect scope query workspace (Edit.filterByKey values) fun _ => True := by
  refine .get_bind ?_
  split
  · exact .pure trivial
  · split
    · exact .pure trivial
    · exact .bind (.keyConditions _ closed) fun _ => .pure trivial

/-! ### Groups -/

theorem parenthesis (pull : Bool) {body : Edit α} {post : α → Prop}
    (inside : Edit.Seals dialect .conditions (query.insertToken "(") workspace body post) :
    Edit.Seals dialect scope query workspace (Edit.parenthesis pull body) post := by
  intro ready sealed
  rw [Edit.run_parenthesis]
  rcases inside ready.speaks sealed with ⟨grown, after, holds⟩
  exact ⟨ready.reaches (.group pull grown), after, holds⟩

theorem conditionGroup (connective : Connective) {body : Edit α} {post : α → Prop}
    (inside : Edit.Seals dialect .conditions (query.openGroup connective) workspace body post) :
    Edit.Seals dialect scope query workspace (Edit.conditionGroup connective body) post := by
  intro ready sealed
  rw [Edit.run_conditionGroup]
  rcases inside ready.speaks sealed with ⟨grown, after, holds⟩
  exact ⟨ready.reaches (.conditionGroup connective grown), after, holds⟩

theorem join (kind : JoinKind) (table : String) (label : Option String) {body : Edit α}
    (inside : query.isJoined (query.escapeAs table label) = false →
      Edit.Seals dialect .conditions (query.openJoin kind (query.escapeAs table label)) workspace
        body fun _ => True) :
    Edit.Seals dialect .anything query workspace (Edit.join kind table label body)
      fun _ => True := by
  intro ready sealed
  rw [Edit.run_join]
  dsimp only
  split
  · exact ⟨ready, sealed, trivial⟩
  · rename_i absent
    have speaks := Query.Sealed.speaks ready
    rcases inside (Bool.eq_false_iff.2 absent) speaks sealed with ⟨grown, after, -⟩
    exact ⟨Query.Grown.join kind (Query.closed_escapeAs speaks table label) ready grown, after,
      trivial⟩

theorem furtherKeys (columns : List String) {rows : List (List Value)}
    (closed : ∀ row ∈ rows, ClosedLeaves dialect (Operand.leavesAll row)) :
    Edit.Seals dialect scope query workspace (Edit.furtherKeys columns rows) fun _ => True := by
  induction rows generalizing query workspace with
  | nil => exact .pure trivial
  | cons row rest ih =>
      rcases List.forall_mem_cons.1 closed with ⟨head, tail⟩
      exact .bind (.conditionGroup .or (.keyConditions columns head)) fun _ => ih tail

theorem keyGroup (columns : List String) {rows : List (List Value)}
    (closed : ∀ row ∈ rows, ClosedLeaves dialect (Operand.leavesAll row)) :
    Edit.Seals dialect scope query workspace (Edit.keyGroup columns rows) fun _ => True := by
  cases rows with
  | nil => exact .pure trivial
  | cons row rest =>
      rcases List.forall_mem_cons.1 closed with ⟨head, tail⟩
      exact .bind (.conditionGroup .and (.keyConditions columns head)) fun _ =>
        .furtherKeys columns tail

theorem filterByKeys {rows : List (List Value)}
    (closed : ∀ row ∈ rows, ClosedLeaves dialect (Operand.leavesAll row)) :
    Edit.Seals dialect scope query workspace (Edit.filterByKeys rows) fun _ => True := by
  refine .get_bind ?_
  split
  · exact .pure trivial
  · split
    · exact .pure trivial
    · split
      · refine .bind (.filter ?_) fun _ => .pure trivial
        intro leaf mem
        rw [List.mem_singleton.1 mem]
        exact .of_all (by decide)
      · exact .bind (.filterIn false (.column _) (.flatten closed)) fun _ => .pure trivial
      · exact .bind (.conditionGroup .and (.keyGroup _ closed)) fun _ => .pure trivial

/-- The callback works on a query of its own, so it may do anything. -/
theorem filterHas (name : String) {body : Edit α}
    (inside : ∀ link, query.relationLink name = .ok link →
      Edit.Seals dialect .anything ((query.relatedRows link).run workspace).1
        ((query.relatedRows link).run workspace).2 body fun _ => True) :
    Edit.Seals dialect scope query workspace (Edit.filterHas name body) fun _ => True := by
  intro ready sealed
  rw [Edit.run_filterHas]
  split
  · exact ⟨ready.reaches (.refl query), sealed, trivial⟩
  · rename_i link found
    have made := Query.Made.relatedRows workspace (fun _ => []) query link
    have related := Query.Sealed.relatedRows ready.speaks link workspace
    have between := sealed.grown (Workspace.Sound.grown_of_made made)
    rcases inside link found related between with ⟨rows, after, -⟩
    have closed : ClosedLeaves dialect
        (Predicate.hasRows ((body.run ((query.relatedRows link).run workspace).1).run
          ((query.relatedRows link).run workspace).2).1.2).leaves := by
      intro leaf mem
      rw [List.mem_singleton.1 mem]
      exact Query.Sealed.sql rows
    rcases Edit.Seals.filter closed ready after with ⟨reaches, last, -⟩
    exact ⟨reaches, last, trivial⟩

/-! ### Clauses -/

theorem items {columns : List Value}
    (closed : ClosedLeaves dialect (Operand.leavesAll columns)) :
    Edit.Seals dialect scope query workspace (Edit.items columns) fun texts =>
      ∀ text ∈ texts, dialect.Closed text := by
  refine .bind (.resolveAll closed) fun each => .pure ?_
  split
  · intro text mem
    rw [List.mem_singleton.1 mem]
    exact .of_all (by decide)
  · exact each

theorem select (distinct : Bool) {columns : List Value}
    (closed : ClosedLeaves dialect (Operand.leavesAll columns)) :
    Edit.Seals dialect .anything query workspace (Edit.select distinct columns) fun _ => True := by
  refine .bind (.items closed) fun each => .change fun query sealed => ?_
  refine sealed.add (.withItems ?_ each)
  exact .ite (.of_all (by decide)) (.of_all (by decide))

theorem selectAs {column : Value} (closed : ClosedLeaves dialect column.leaves) (label : String) :
    Edit.Seals dialect .anything query workspace (Edit.selectAs column label) fun _ => True := by
  have word : dialect.Closed " as " := .of_all (by decide)
  refine .bind (.resolve closed) fun text => .change fun query sealed => ?_
  exact sealed.selectRaw ((text.append word).append (Query.closed_escapePart sealed.speaks label))

theorem sourceQuery {nested : Query} (closed : nested.Sealed dialect) (label : String) :
    Edit.Seals dialect .anything query workspace (Edit.sourceQuery nested label)
      fun _ => True := by
  have word : dialect.Closed " as " := .of_all (by decide)
  refine .bind (.embed closed) fun text => .change fun query sealed => ?_
  have source := (Nesting.Closed.callText .empty text).append word
  exact sealed.setText (by decide) (.of_all (by decide))
    (source.append (Query.closed_escapePart sealed.speaks label))

theorem addTerms (clause : ListClause) {columns : List Value}
    (closed : ClosedLeaves dialect (Operand.leavesAll columns)) :
    Edit.Seals dialect .anything query workspace (Edit.addTerms clause columns)
      fun _ => True := by
  have word : dialect.Closed clause.keyword := by
    cases clause <;> exact .of_all (by decide)
  induction columns generalizing query workspace with
  | nil => exact .pure trivial
  | cons column rest ih =>
      refine .bind (.resolve closed.left) fun term => ?_
      refine .bind (.change fun query sealed => sealed.addTerm word term) fun _ => ?_
      exact ih closed.right

theorem addOrder {column : Value} (closed : ClosedLeaves dialect column.leaves) (descends : Bool) :
    Edit.Seals dialect .anything query workspace (Edit.addOrder column descends)
      fun _ => True := by
  have direction : dialect.Closed (if descends then " desc" else " asc") :=
    .ite (.of_all (by decide)) (.of_all (by decide))
  refine .bind (.resolve closed) fun term => .change fun query sealed => ?_
  exact sealed.addTerm (.of_all (by decide)) (term.append direction)

theorem addCommonTable (isRecursive : Bool) (name : String) {nested : Query}
    (closed : nested.Sealed dialect) :
    Edit.Seals dialect .anything query workspace (Edit.addCommonTable isRecursive name nested)
      fun _ => True := by
  have word : dialect.Closed " as " := .of_all (by decide)
  refine .bind (.embed closed) fun text => .change fun query sealed => ?_
  exact sealed.addCommonTable isRecursive
    ((Query.closed_escapePart sealed.speaks name).append (word.callText text))

theorem lockForUpdate :
    Edit.Seals dialect .anything query workspace Edit.lockForUpdate fun _ => True := by
  refine .bind (.compiling fun _ => .anything _) fun _ => ?_
  split
  · exact .change fun query sealed => sealed.insertToken (.of_all (by decide))
  · exact .pure trivial

theorem values {row : List Value} (closed : ClosedLeaves dialect (Operand.leavesAll row)) :
    Edit.Seals dialect .anything query workspace (Edit.values row) fun _ => True := by
  unfold Edit.values
  split
  · exact .pure trivial
  · refine .bind (.resolveAll closed) fun each => ?_
    refine .bind (.change fun query sealed => ?_) fun _ => .pure trivial
    have list := Nesting.Closed.intercalate (Query.closed_columnSeparator sealed.speaks) each
    exact sealed.addTerm (.of_all (by decide)) list.parentheses

theorem assign {column value : Value} (left : ClosedLeaves dialect column.leaves)
    (right : ClosedLeaves dialect value.leaves) :
    Edit.Seals dialect .anything query workspace (Edit.assign column value) fun _ => True := by
  have equals : dialect.Closed " = " := .of_all (by decide)
  refine .bind (.resolve left) fun lhs => ?_
  refine .bind (.resolve right) fun rhs => .change fun query sealed => ?_
  exact sealed.addTerm (.of_all (by decide)) ((lhs.append equals).append rhs)

theorem returning {columns : List Value}
    (closed : ClosedLeaves dialect (Operand.leavesAll columns)) :
    Edit.Seals dialect .anything query workspace (Edit.returning columns) fun _ => True := by
  refine .get_bind ?_
  split
  · exact .pure trivial
  · refine .bind (.resolveAll closed) fun each => ?_
    refine .bind (.change fun query sealed => ?_) fun _ => .pure trivial
    refine sealed.insert (.withItems (.of_all (by decide)) ?_)
    split
    · intro text mem
      rw [List.mem_singleton.1 mem]
      exact .of_all (by decide)
    · exact each

/-! ### Calls that may fail -/

theorem attempt {call : Query → Except QueryError Query}
    (closed : ∀ query changed : Query, query.Sealed dialect → call query = .ok changed →
      changed.Sealed dialect) :
    Edit.Seals dialect .anything query workspace (Edit.attempt call) fun _ => True := by
  refine .of_ready fun ready => .get_bind ?_
  split
  · rename_i changed result
    intro _ sealed
    exact ⟨closed query changed ready result, sealed, trivial⟩
  · exact .pure trivial

end Edit.Seals

namespace Query.Sealed

variable {changed : Query}

theorem insertHead (closed : query.Sealed dialect) {keyword table : String} {columns : List String}
    (word : dialect.Closed keyword)
    (inserted : query.insertHead keyword table columns = .ok changed) : changed.Sealed dialect := by
  unfold Query.insertHead at inserted
  split at inserted
  · cases inserted
  · cases inserted
    have list : dialect.Closed (" (" ++ query.nameList columns ++ ")") :=
      .between (fun _ => rfl) (closed_nameList closed.speaks columns) fun _ => rfl
    refine closed.addText word ?_
    simpa [String.append_assoc] using (closed_escape closed.speaks table).append list

theorem replaceInto (closed : query.Sealed dialect) {table : String} {columns : List String}
    (inserted : query.replaceInto table columns = .ok changed) : changed.Sealed dialect := by
  unfold Query.replaceInto Query.ensure at inserted
  split at inserted
  · exact closed.insertHead (.of_all (by decide)) inserted
  · cases inserted

theorem closed_assignments (closed : query.Sealed dialect) (columns : List String)
    (value : String → String) (body : ∀ name, dialect.Closed name → dialect.Closed (value name)) :
    dialect.Closed (String.intercalate query.columnSeparator
      (columns.map fun column => query.escape column ++ " = " ++ value (query.escape column))) := by
  have equals : dialect.Closed " = " := .of_all (by decide)
  refine .intercalate (closed_columnSeparator closed.speaks) ?_
  intro text mem
  rcases List.mem_map.1 mem with ⟨column, -, rfl⟩
  have name := closed_escape closed.speaks column
  exact (name.append equals).append (body _ name)

theorem onConflictUpdate (closed : query.Sealed dialect) {conflict columns : List String}
    (updated : query.onConflictUpdate conflict columns = .ok changed) : changed.Sealed dialect := by
  unfold Query.onConflictUpdate Query.ensure at updated
  dsimp only at updated
  split at updated
  · cases updated
  · split at updated
    · cases updated
      refine closed.addText (.of_all (by decide))
        (closed.closed_assignments columns (fun name => "values(" ++ name ++ ")") ?_)
      intro name inner
      exact .between (fun _ => rfl) inner fun _ => rfl
    · split at updated
      · simp only [bind, Except.bind] at updated
        split at updated
        · cases updated
        · cases updated
          have excluded : dialect.Closed "excluded." := .of_all (by decide)
          have list : dialect.Closed ("(" ++ query.nameList conflict ++ ") do update set ") :=
            .between leads_opening (closed_nameList closed.speaks conflict) fun _ => rfl
          have values := closed.closed_assignments columns (fun name => "excluded." ++ name)
            fun _ inner => excluded.append inner
          exact closed.addText (.of_all (by decide)) (list.append values)
      · cases updated

theorem onConflictDoNothing (closed : query.Sealed dialect) {conflict : List String}
    (updated : query.onConflictDoNothing conflict = .ok changed) : changed.Sealed dialect := by
  unfold Query.onConflictDoNothing Query.ensure at updated
  split at updated
  · cases updated
    refine closed.addText (.of_all (by decide)) (.ite (.of_all (by decide)) ?_)
    exact .between leads_opening (closed_nameList closed.speaks conflict) fun _ => rfl
  · cases updated

end Query.Sealed

end SqlBuilder
