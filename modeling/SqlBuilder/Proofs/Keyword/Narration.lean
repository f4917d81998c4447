import SqlBuilder.Proofs.Keyword.History
import SqlBuilder.Proofs.Script.Reachable

/-!
# Calls and their histories

Sequences of calls that select, set the source, ask for conditions and groups of them, and unite
queries that were built by such sequences too. Each has a history, and the keywords that end up in
the fragments are those that the history writes.

The keyword of a condition is taken when the condition is called, and the hooks of its operands are
calls on the same query: those that run before come between the choice of the keyword and the
fragment that carries it.
-/

namespace SqlBuilder

namespace Edit

variable {α : Type}

/-- A condition up to the hooks that run behind it. -/
def enter (clause : ConditionClause) (connective : Connective)
    (predicate : Predicate Query CustomExpr) : Edit Unit := do
  let keyword ← modifyGet (·.nextKeyword clause connective)
  runAll (predicate.customs.map (·.before))
  let text ← compiling fun connection => predicate.compile connection
  modify (·.addText keyword text)

/-- The hooks behind a condition come last. -/
theorem run_condition_enter (clause : ConditionClause) (connective : Connective)
    (predicate : Predicate Query CustomExpr) (query : Query) (workspace : Workspace) :
    ((condition clause connective predicate).run query).run workspace =
      let entered := ((enter clause connective predicate).run query).run workspace
      ((runAll (predicate.customs.map (·.after))).run entered.1.2).run entered.2 := rfl

/-- A condition is entered by its hooks, and then by its fragment. -/
theorem run_enter (clause : ConditionClause) (connective : Connective)
    (predicate : Predicate Query CustomExpr) (query : Query) (workspace : Workspace) :
    let taken := query.nextKeyword clause connective
    let hooked := ((runAll (predicate.customs.map (·.before))).run taken.2).run workspace
    ∃ ledger text, (((enter clause connective predicate).run query).run workspace).1.2 =
      { hooked.1.2 with ledger }.addText taken.1 text := ⟨_, _, rfl⟩

/--
Calls in a row from a query on, with the history that they tell. Inside a group, select lists,
sources and unions are left alone.
-/
inductive Narrates : {α : Type} → Bool → Edit α → Query → Workspace → History → Prop
  /-- What changes neither fragments nor the place of the next one tells nothing. -/
  | keep {α : Type} {nested : Bool} {action : Edit α} {query : Query} {workspace : Workspace} :
      ((action.run query).run workspace).1.2.fragments = query.fragments →
      ((action.run query).run workspace).1.2.cursor = query.cursor →
      ((action.run query).run workspace).1.2.model = query.model →
      Narrates nested action query workspace .done
  | bind {α β : Type} {nested : Bool} {action : Edit α} {next : α → Edit β} {query : Query}
      {workspace : Workspace} {first second : History} :
      Narrates nested action query workspace first →
      Narrates nested (next ((action.run query).run workspace).1.1)
        ((action.run query).run workspace).1.2 ((action.run query).run workspace).2 second →
      Narrates nested (action >>= next) query workspace (first.append second)
  | condition {nested : Bool} {clause : ConditionClause} (connective : Connective)
      {predicate : Predicate Query CustomExpr} {query : Query} {workspace : Workspace}
      {before after : History} : clause ≠ .join →
      Narrates nested (runAll (predicate.customs.map (·.before)))
        (query.nextKeyword clause connective).2 workspace before →
      Narrates nested (runAll (predicate.customs.map (·.after)))
        (((enter clause connective predicate).run query).run workspace).1.2
        (((enter clause connective predicate).run query).run workspace).2 after →
      Narrates nested (Edit.condition clause connective predicate) query workspace
        (.condition clause before after .done)
  | parenthesis {α : Type} {nested : Bool} (pull : Bool) {body : Edit α} {query : Query}
      {workspace : Workspace} {history : History} :
      Narrates true body (query.insertToken "(") workspace history →
      Narrates nested (Edit.parenthesis pull body) query workspace history
  | conditionGroup {α : Type} {nested : Bool} (connective : Connective) {body : Edit α}
      {query : Query} {workspace : Workspace} {history : History} :
      Narrates true body (query.openGroup connective) workspace history →
      Narrates nested (Edit.conditionGroup connective body) query workspace history
  | select {change : Query → Query} {query : Query} {workspace : Workspace} {fragment : Fragment} :
      isSelectKeyword fragment.keyword = true → change query = query.add fragment →
      Narrates false (modify change : Edit PUnit) query workspace .done
  | source {change : Query → Query} {query : Query} {workspace : Workspace} {text : String} :
      change query = query.setText "from" text →
      Narrates false (modify change : Edit PUnit) query workspace .done
  /-- The other query has the fragments that such calls made, and none had been there before. -/
  | union {β : Type} {change : Query → Query} {query other : Query} {workspace : Workspace}
      (keepsDuplicates : Bool) {build : Edit β} {start : Query} {elsewhere : Workspace}
      {history : History} : start.branches = {} → start.cursor = none →
      Narrates false build start elsewhere history →
      other.fragments = ((build.run start).run elsewhere).1.2.fragments →
      change query = query.union keepsDuplicates other →
      Narrates false (modify change : Edit PUnit) query workspace (.union history .done)

end Edit

/-! ### What changes do to the keywords -/

namespace Fragment

/-- A fragment that is no predicate and no union is passed over. -/
theorem foldl_read_middle {front back : List Fragment} {fragment : Fragment}
    (other : fragment.keyword ∉ unionKeywords ++ predicateKeywords) (branches : Branches String) :
    (front ++ fragment :: back).foldl read branches = (front ++ back).foldl read branches := by
  rw [List.foldl_append, List.foldl_cons, read_eq_self other, List.foldl_append]

end Fragment

namespace Query

variable {query changed : Query} {block : List Fragment}

theorem branches_append (fragments : changed.fragments = query.fragments ++ block) :
    changed.branches = block.foldl Fragment.read query.branches := by
  rw [branches, fragments, List.foldl_append, branches]

theorem branches_congr (fragments : changed.fragments = query.fragments) :
    changed.branches = query.branches := by
  rw [branches, fragments, branches]

/-- The keywords of the predicates, in the order of the fragments. -/
theorem items_branches (query : Query) :
    query.branches.items = (query.fragments.map (·.keyword)).filter predicateKeywords.contains := by
  rw [branches, Fragment.items_foldl_read, Branches.items_empty, List.nil_append]

/-- A clause of conditions is there if its keyword is among those of the predicates. -/
theorem hasClause_iff {keyword : String} (word : keyword ∈ predicateKeywords) :
    query.hasClause keyword = true ↔ keyword ∈ query.branches.items := by
  rw [items_branches, List.mem_filter]
  simp [hasClause, word]

/-- A changed fragment that was and is no predicate does not matter. -/
theorem branches_modify {test : Fragment → Bool} {place : Nat}
    (change : Fragment → Fragment) (found : query.fragments.findIdx? test = some place)
    (other : ∀ fragment, test fragment = true →
      fragment.keyword ∉ unionKeywords ++ predicateKeywords ∧
        (change fragment).keyword ∉ unionKeywords ++ predicateKeywords) :
    (query.fragments.modify place change).foldl Fragment.read {} = query.branches := by
  obtain ⟨front, fragment, back, shape, rfl, holds⟩ := exists_append_of_findIdx? found
  obtain ⟨before, after⟩ := other fragment holds
  rw [branches, shape, modify_append_length, Fragment.foldl_read_middle before,
    Fragment.foldl_read_middle after]

theorem branches_insert_other (rest : query.cursor = none) {fragment : Fragment}
    (other : fragment.keyword ∉ unionKeywords ++ predicateKeywords) :
    (query.insert fragment).branches = query.branches := by
  rw [branches_append ((Splices.insert query fragment).fragments_of_rest rest), List.foldl_cons,
    List.foldl_nil, Fragment.read_eq_self other]

theorem other_of_isSelect {keyword : String} (select : isSelectKeyword keyword = true) :
    keyword ∉ unionKeywords ++ predicateKeywords := by
  have word : keyword = "select" ∨ keyword = "select distinct" := by
    simpa [isSelectKeyword] using select
  rcases word with rfl | rfl <;> decide

/-- Select lists are no predicates. -/
theorem branches_add_select (rest : query.cursor = none) {fragment : Fragment}
    (select : isSelectKeyword fragment.keyword = true) :
    (query.add fragment).branches = query.branches := by
  have other := other_of_isSelect select
  unfold Query.add
  rw [if_pos select]
  split
  case h_1 place _ found =>
    refine branches_modify (mergeSelect fragment.keyword fragment.payload) found
      fun present holds => ⟨other_of_isSelect holds, other_of_isSelect ?_⟩
    unfold mergeSelect
    dsimp only
    split
    · exact holds
    · exact select
  case h_2 place _ found =>
    obtain ⟨front, source, back, shape, rfl, -⟩ := exists_append_of_findIdx? found
    rw [branches, branches, shape, insertIdx_append_length, Fragment.foldl_read_middle other]
  case h_3 => exact branches_insert_other rest other

/-- Sources are no predicates. -/
theorem branches_setText_from (rest : query.cursor = none) (text : String) :
    (query.setText "from" text).branches = query.branches := by
  have other : "from" ∉ unionKeywords ++ predicateKeywords := by decide
  unfold Query.setText
  split
  case h_1 place found =>
    refine branches_modify _ found fun fragment holds => ?_
    rw [beq_iff_eq.1 holds]
    exact ⟨other, other⟩
  case h_2 => exact branches_insert_other rest other

/-- Without a cursor the fragments of another query go to the end. -/
theorem merge_of_rest (rest : query.cursor = none) (other : Query) :
    (query.merge other).fragments = query.fragments ++ other.fragments ∧
      (query.merge other).cursor = none := by
  unfold Query.merge
  dsimp only
  generalize other.fragments = fragments
  induction fragments generalizing query with
  | nil => exact ⟨(List.append_nil _).symm, rest⟩
  | cons fragment more ih =>
      have inserted := Splices.insert query fragment
      obtain ⟨placed, calm⟩ := ih (inserted.rest rest)
      rw [List.foldl_cons, placed, inserted.fragments_of_rest rest]
      exact ⟨by simp, calm⟩

/-- What is united closes the branch and goes on with its own. -/
theorem branches_union (rest : query.cursor = none) (keepsDuplicates : Bool) (other : Query) :
    (query.union keepsDuplicates other).branches = query.branches.unite other.branches := by
  unfold Query.union
  generalize token_eq : (if keepsDuplicates then "union all" else "union") = keyword
  have union : unionKeywords.contains keyword = true := by
    rw [← token_eq]
    cases keepsDuplicates <;> decide
  have opened : Splices [.token keyword] query (query.insertToken keyword) := .insert query _
  have merged := (merge_of_rest (opened.rest rest) other).1
  have closes : (Fragment.token keyword).read query.branches = query.branches.unite {} :=
    if_pos union
  rw [branches_append merged, branches_append (opened.fragments_of_rest rest),
    List.foldl_cons, List.foldl_nil, closes, Fragment.foldl_read_unite, ← branches]

theorem cursor_union (rest : query.cursor = none) (keepsDuplicates : Bool) (other : Query) :
    (query.union keepsDuplicates other).cursor = none :=
  (merge_of_rest ((Splices.insert query _).rest rest) other).2

/-- A condition goes to the end, under the keyword of its clause if the clause is absent. -/
theorem reads_nextKeyword {marks : Branches Mark} (reads : marks.Reads query.branches)
    {clause : ConditionClause} (outside : clause ≠ .join) (connective : Connective) :
    (Mark.mk clause (!marks.items.contains ⟨clause, true⟩)).Reads
      (query.nextKeyword clause connective).1 := by
  have word : clause.keyword ∈ predicateKeywords := by
    cases clause with
    | join => exact absurd rfl outside
    | filter | groupFilter => decide
  have same : query.hasCondition clause = marks.items.contains ⟨clause, true⟩ := by
    have known : query.hasCondition clause = query.hasClause clause.keyword := by
      cases clause with
      | join => exact absurd rfl outside
      | filter | groupFilter => rfl
    rw [known, Bool.eq_iff_iff, hasClause_iff word, Mark.mem_iff_of_reads reads.items,
      List.contains_iff_mem]
  unfold nextKeyword Mark.Reads
  rw [same]
  dsimp only
  cases marks.items.contains ⟨clause, true⟩ with
  | false => rfl
  | true =>
      have words : ∀ connective : Connective, connective.keyword ∈ ["and", "or"] := by
        rintro (_ | _) <;> decide
      exact words _

end Query

/-! ### Calls write their history -/

/-- Whether a query is changed as a history writes it; in a group, by a block where fragments go. -/
structure History.Written (nested : Bool) (history : History) (query changed : Query) : Prop where
  rest : changed.cursor = none
  reads : ∀ marks : Branches Mark, marks.Reads query.branches →
    (history.write marks).Reads changed.branches
  splices : nested = true → ∃ block, Query.Splices block query changed

namespace History.Written

variable {nested : Bool} {first second history : History} {query changed last inside : Query}

/-- What leaves the keywords alone writes nothing. -/
theorem of_branches (rest : changed.cursor = none) (same : changed.branches = query.branches)
    (outside : nested = false) : Written nested .done query changed where
  rest := rest
  reads _ reads := same ▸ reads
  splices inside := absurd (outside.symm.trans inside) Bool.false_ne_true

theorem keep (rest : query.cursor = none) (fragments : changed.fragments = query.fragments)
    (cursor : changed.cursor = query.cursor) : Written nested .done query changed where
  rest := cursor.trans rest
  reads _ reads := Query.branches_congr fragments ▸ reads
  splices _ := ⟨[], .of_eq fragments cursor⟩

theorem append (before : Written nested first query changed)
    (behind : Written nested second changed last) :
    Written nested (first.append second) query last where
  rest := behind.rest
  reads marks reads := write_append first second marks ▸ behind.reads _ (before.reads _ reads)
  splices inside := by
    obtain ⟨block, spliced⟩ := before.splices inside
    obtain ⟨more, spliced'⟩ := behind.splices inside
    exact ⟨block ++ more, spliced.trans spliced'⟩

/-- The keyword is chosen by what stood there before the hooks, and comes to stand behind theirs. -/
theorem condition {clause : ConditionClause} {connective : Connective} {text : String}
    {hooked added : Query} {ledger : Ledger} (outside : clause ≠ .join)
    (before : Written nested first (query.nextKeyword clause connective).2 hooked)
    (entered : added = { hooked with ledger }.addText (query.nextKeyword clause connective).1 text)
    (after : Written nested second added last) :
    Written nested (.condition clause first second .done) query last := by
  have mem := query.nextKeyword_mem clause connective
  generalize taken : (query.nextKeyword clause connective).1 = keyword at mem entered
  have words : ∀ keyword ∈ [clause.keyword, "and", "or"], isSelectKeyword keyword = false ∧
      keyword ∉ unionKeywords ∧ keyword ∈ predicateKeywords := by
    cases clause with
    | join => exact absurd rfl outside
    | filter | groupFilter => decide
  obtain ⟨other, single, word⟩ := words keyword mem
  have spliced : Query.Splices [.withText keyword text] hooked added := by
    have compiled : Query.Splices [] hooked { hooked with ledger } := .of_eq rfl rfl
    exact entered ▸ compiled.trans (.addText _ other text)
  have branches : added.branches = hooked.branches.add keyword := by
    rw [Query.branches_append (spliced.fragments_of_rest before.rest), List.foldl_cons,
      List.foldl_nil, Fragment.read]
    have read : unionKeywords.contains keyword = false := by simpa using single
    exact (if_neg (Bool.eq_false_iff.1 read)).trans (if_pos (List.contains_iff_mem.2 word))
  refine ⟨after.rest, fun marks reads => ?_, fun inside => ?_⟩
  · have own := Query.reads_nextKeyword reads outside connective
    rw [taken] at own
    refine after.reads _ ?_
    rw [branches]
    exact (before.reads marks reads).add own
  · obtain ⟨block, hooks⟩ := before.splices inside
    obtain ⟨more, behind⟩ := after.splices inside
    have start : Query.Splices [] query (query.nextKeyword clause connective).2 := .of_eq rfl rfl
    exact ⟨_, ((start.trans hooks).trans spliced).trans behind⟩

/-- Parentheses leave the keywords of the block inside in their order. -/
theorem group (pull : Bool) (rest : query.cursor = none)
    (filled : Written true history (query.insertToken "(") inside) :
    Written nested history query (inside.closeGroup pull query.insertionPoint
      (query.insertToken "(").fragments.length) := by
  obtain ⟨block, spliced⟩ := filled.splices rfl
  have opened : Query.Splices [.token "("] query (query.insertToken "(") := .insert query _
  have closed := spliced.closeGroup pull
  have opening : "(" ∉ unionKeywords ++ predicateKeywords := by decide
  have start : (query.insertToken "(").branches = query.branches :=
    Query.branches_insert_other rest opening
  have same : (inside.closeGroup pull query.insertionPoint
      (query.insertToken "(").fragments.length).branches = inside.branches := by
    rw [Query.branches_append (closed.fragments_of_rest rest), Fragment.foldl_read_group,
      Query.branches_append (spliced.fragments_of_rest (opened.rest rest)), start]
  exact ⟨closed.rest rest, fun marks reads => same ▸ filled.reads marks (start ▸ reads),
    fun _ => ⟨_, closed⟩⟩

theorem conditionGroup (connective : Connective) (rest : query.cursor = none)
    (filled : Written true history (query.openGroup connective) inside) :
    Written nested history query (query.closeConditionGroup inside connective) := by
  let waiting : Query :=
    { query with
      pending := if connective = Connective.or then some Connective.or else query.pending }
  have closed : Written nested history waiting (inside.closeGroup true waiting.insertionPoint
      (waiting.insertToken "(").fragments.length) := group true rest filled
  refine ⟨closed.rest, closed.reads, fun nested => ?_⟩
  obtain ⟨block, spliced⟩ := closed.splices nested
  have start : Query.Splices [] query waiting := .of_eq rfl rfl
  exact ⟨_, (start.trans spliced).trans (.of_eq rfl rfl)⟩

end History.Written

/-- A run writes its history. -/
theorem Edit.Narrates.written {α : Type} {nested : Bool} {action : Edit α} {query : Query}
    {workspace : Workspace} {history : History}
    (tells : Narrates nested action query workspace history) (rest : query.cursor = none) :
    history.Written nested query ((action.run query).run workspace).1.2 := by
  induction tells with
  | keep fragments cursor _ => exact .keep rest fragments cursor
  | bind _ _ first second =>
      have before := first rest
      exact before.append (second before.rest)
  | @condition nested clause connective predicate query workspace _ _ outside _ _ before after =>
      have hooked := before rest
      obtain ⟨ledger, text, entered⟩ := run_enter clause connective predicate query workspace
      have calm : (((enter clause connective predicate).run query).run workspace).1.2.cursor =
          none := by
        rw [entered]
        exact (Query.KeepsRest.stable.addText _ _ text).cursor hooked.rest
      rw [run_condition_enter]
      exact .condition outside hooked entered (after calm)
  | parenthesis pull _ ih =>
      exact .group pull rest (ih ((Query.Splices.insert _ _).rest rest))
  | conditionGroup connective _ ih =>
      rw [run_conditionGroup]
      refine .conditionGroup connective rest (ih ?_)
      exact (Query.Splices.insert _ _).rest rest
  | @select change query workspace fragment select same =>
      have calm := (Query.KeepsRest.add query fragment).cursor rest
      have branches := Query.branches_add_select rest select
      rw [← same] at calm branches
      exact .of_branches calm branches rfl
  | @source change query workspace text same =>
      have calm := (Query.KeepsRest.stable.setText query "from" text).cursor rest
      have branches := Query.branches_setText_from rest text
      rw [← same] at calm branches
      exact .of_branches calm branches rfl
  | @union _ change query other workspace keepsDuplicates build start elsewhere history empty calm _
      built same ih =>
      have told := (ih calm).reads {} (empty ▸ .empty)
      have moved := Query.cursor_union rest keepsDuplicates other
      have branches := Query.branches_union rest keepsDuplicates other
      rw [← same] at moved branches
      rw [Query.branches_congr built] at branches
      refine ⟨moved, fun marks reads => ?_, fun inside => absurd inside Bool.false_ne_true⟩
      exact branches ▸ reads.unite told

/-! ### The model stays -/

namespace Query

variable (query : Query)

theorem model_add (fragment : Fragment) : (query.add fragment).model = query.model :=
  (Rearranges.add query fragment).model

theorem model_setText (keyword text : String) :
    (query.setText keyword text).model = query.model :=
  (Rearranges.setText query keyword text).model

theorem model_union (keepsDuplicates : Bool) (other : Query) :
    (query.union keepsDuplicates other).model = query.model :=
  (Rearranges.foldl_insert other.fragments _).model

theorem model_closeGroup (pull : Bool) (opening count : Nat) :
    (query.closeGroup pull opening count).model = query.model :=
  (Rearranges.closeGroup query pull opening count).model

end Query

/-- None of these calls binds a model. -/
theorem Edit.Narrates.model_eq {α : Type} {nested : Bool} {action : Edit α} {query : Query}
    {workspace : Workspace} {history : History}
    (tells : Narrates nested action query workspace history) :
    ((action.run query).run workspace).1.2.model = query.model := by
  induction tells with
  | keep _ _ model => exact model
  | bind _ _ first second => exact second.trans first
  | @condition nested clause connective predicate query workspace _ _ _ _ _ before after =>
      obtain ⟨ledger, text, entered⟩ := run_enter clause connective predicate query workspace
      rw [run_condition_enter]
      refine after.trans ?_
      rw [entered]
      exact (Query.model_add _ _).trans before
  | parenthesis pull _ ih => exact (Query.model_closeGroup _ _ _ _).trans ih
  | conditionGroup connective _ ih =>
      rw [run_conditionGroup]
      exact (Query.model_closeGroup _ _ _ _).trans ih
  | @select change query workspace fragment _ same =>
      change (change query).model = query.model
      rw [same, Query.model_add]
  | @source change query workspace text same =>
      change (change query).model = query.model
      rw [same, Query.model_setText]
  | @union _ change query _ workspace _ _ _ _ _ _ _ _ _ same _ =>
      change (change query).model = query.model
      rw [same, Query.model_union]

end SqlBuilder
