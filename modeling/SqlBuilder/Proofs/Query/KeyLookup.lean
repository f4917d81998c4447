import SqlBuilder.Proofs.Query.KeyTree

/-!
# Looking rows up by several keys

Calls may be made outside callbacks or inside the callbacks of groups of conditions. In all these
places a condition goes to the end of the query, and the only connective that can be pending is that
of alternatives. So a look-up by keys, whose calls are those of a tree of conditions, adds the group
of the tree. Where it comes first in a group, the group takes the keyword over when it is closed.
-/

namespace SqlBuilder

/-! ### Where conditions may be asked for -/

/-- Whether no connective becomes pending. -/
def Query.KeepsPending (query changed : Query) : Prop :=
  changed.pending = none ∨ changed.pending = query.pending

namespace Query.KeepsPending

theorem of_rearranges {query changed : Query} (rearranges : query.Rearranges changed) :
    query.KeepsPending changed := .inr rearranges.pending

/-- Only the callback of a group finds a connective that was not pending before. -/
theorem stable : Query.Stable Query.KeepsPending where
  refl _ := .inr rfl
  trans first second := by
    rcases second with none | same
    · exact .inl none
    · rcases first with none | before
      · exact .inl (same.trans none)
      · exact .inr (same.trans before)
  ledger _ _ := .inr rfl
  model _ _ := .inr rfl
  add query fragment := of_rearranges (.add query fragment)
  insert _ _ := .inr rfl
  alter _ _ _ := .inr rfl
  removeClause query keyword := of_rearranges (.removeClause query keyword)
  addCommonTable query isRecursive text := of_rearranges (.addCommonTable query isRecursive text)
  nextKeyword _ _ _ := .inl rfl
  group pull {query inside} keeps := by
    unfold Query.KeepsPending
    rw [(Query.Rearranges.closeGroup inside pull _ _).pending]
    exact keeps
  conditionGroup connective {query inside} _ := by
    unfold Query.KeepsPending Query.closeConditionGroup
    dsimp only
    split
    · exact .inr rfl
    · exact .inl rfl
  join kind target {query inside} keeps := keeps

end Query.KeepsPending

/-- Where a condition goes to the end, with its own connective or with that of alternatives. -/
structure Query.TakesConditions (query : Query) : Prop where
  cursor : query.cursor = none
  pending : query.pending ≠ some .and

namespace Query.TakesConditions

variable {query : Query}

theorem openGroup (takes : query.TakesConditions) (connective : Connective) :
    (query.openGroup connective).TakesConditions := by
  rw [openGroup_eq takes.cursor]
  refine ⟨takes.cursor, ?_⟩
  cases connective with
  | and => exact takes.pending
  | or => exact fun same => nomatch same

end Query.TakesConditions

/-- The queries that builder calls lead to, outside any callback or inside the callbacks of groups
of conditions, at whatever depth. -/
inductive Query.InGroups : Query → Prop
  | outside {query : Query} : query.Reachable → InGroups query
  | opened (connective : Connective) {query : Query} :
      InGroups query → InGroups (query.openGroup connective)
  | call (home : Connection) (step : Script.Step) (workspace : Workspace) {query : Query} :
      InGroups query → InGroups (((Script.call home step).run query).run workspace).1.2

theorem Query.InGroups.takesConditions {query : Query} (inside : query.InGroups) :
    query.TakesConditions := by
  induction inside with
  | outside reachable =>
      refine ⟨reachable.atRest.cursor, ?_⟩
      rw [reachable.atRest.pending]
      exact nofun
  | opened connective _ ih => exact ih.openGroup connective
  | call home step workspace _ ih =>
      refine ⟨(Script.call_keeps KeepsRest.stable home step _ workspace).cursor ih.cursor, ?_⟩
      rcases Script.call_keeps KeepsPending.stable home step _ workspace with none | same
      · rw [none]
        exact nofun
      · rw [same]
        exact ih.pending

/-! ### The calls of a look-up -/

/-- Whether an operand does nothing to its query when it is added. -/
def Operand.HookFree (operand : Value) : Prop :=
  ∀ custom, operand.custom? = some custom → custom.before = pure () ∧ custom.after = pure ()

theorem Operand.HookFree.pair {value : Value} (hookFree : value.HookFree) (key : String) :
    (Predicate.pair (.column key) value).HookFree := by
  intro custom mem
  obtain ⟨operand, among, found⟩ := List.mem_filterMap.1 mem
  simp only [Predicate.operands, List.mem_cons, List.not_mem_nil, or_false] at among
  rcases among with rfl | rfl
  · cases found
  · exact hookFree custom found

namespace Edit

theorem keyConditions_eq (keys : List String) (values : List Value) :
    keyConditions keys values = ConditionTree.runAll (ConditionTree.ofKey keys values) := by
  induction keys generalizing values with
  | nil => rfl
  | cons key keys ih =>
      cases values with
      | nil => rfl
      | cons value values =>
          rw [keyConditions, ih]
          rfl

theorem furtherKeys_eq (keys : List String) (rows : List (List Value)) :
    furtherKeys keys rows =
      ConditionTree.runAll (rows.map fun row => .group .or (ConditionTree.ofKey keys row)) := by
  induction rows with
  | nil => rfl
  | cons row rest ih =>
      rw [furtherKeys, ih, keyConditions_eq]
      rfl

/-- A look-up asks for the conditions of its tree. -/
theorem keyGroup_eq (keys : List String) (rows : List (List Value)) :
    keyGroup keys rows = ConditionTree.runAll (ConditionTree.ofKeys keys rows) := by
  cases rows with
  | nil => rfl
  | cons row rest =>
      rw [keyGroup, furtherKeys_eq, keyConditions_eq]
      rfl

variable {query : Query} {model : Model} {rows : List (List Value)}

/-- Keys of several columns are looked up by a group, if there are any. -/
theorem run_filterByKeys (bound : query.model = some model) (several : 2 ≤ model.primaryKey.length)
    (some : rows ≠ []) (arity : ∀ row ∈ rows, row.length = model.primaryKey.length)
    (workspace : Workspace) :
    ((filterByKeys rows).run query).run workspace =
      let keys := model.primaryKey.map fun key => model.table ++ "." ++ key
      let out := ((ConditionTree.run (.group .and (ConditionTree.ofKeys keys rows))).run
        query).run workspace
      ((.ok (), out.1.2), out.2) := by
  let keys := model.primaryKey.map fun key => model.table ++ "." ++ key
  have columns : query.keyColumns "where_primary_key_in" = .ok keys := by
    have declared : model.primaryKey.isEmpty = false := by
      cases found : model.primaryKey with
      | nil =>
          rw [found] at several
          exact absurd several (by decide)
      | cons key rest => rfl
    rw [Query.keyColumns, bound]
    dsimp only
    rw [declared, if_neg Bool.false_ne_true]
  have checked : KeyArityError.checkRows keys.length (rows.map List.length) = .ok () := by
    refine KeyArityError.checkRows_eq_ok_iff.2 ?_
    intro got mem
    obtain ⟨row, inside, rfl⟩ := List.mem_map.1 mem
    rw [arity row inside, List.length_map]
  obtain ⟨row, rest, rfl⟩ := List.exists_cons_of_ne_nil some
  have count : keys.length = model.primaryKey.length := List.length_map _
  obtain ⟨first, second, others, shape⟩ :
      ∃ first second others, keys = first :: second :: others := by
    rw [← count] at several
    rcases keys with _ | ⟨first, _ | ⟨second, others⟩⟩
    · exact absurd several (by decide)
    · exact absurd several (by simp)
    · exact ⟨first, second, others, rfl⟩
  unfold filterByKeys
  simp only [StateT.run_bind, StateT.run_get, pure_bind, columns, checked]
  rw [shape]
  dsimp only
  rw [← shape, ConditionTree.run, ← keyGroup_eq]
  rfl

end Edit

namespace Query

variable {query : Query} {texts : List (List String)}

/-- A look-up takes the keyword that a condition has where it stands. -/
theorem withConditions_keyLookup (some : ∀ row ∈ texts, row ≠ []) (keys : texts ≠ [])
    (ledger : Ledger) (clause : Option String) :
    query.withConditions [TextTree.keyLookup texts] ledger clause =
      { query with
        ledger
        fragments := query.fragments ++ Fragment.keyLookup (query.firstKeyword.getD "and") texts
        pending := none
        currentClause := clause } := by
  have survives := TextTree.survives_keyLookup some keys
  unfold withConditions
  rw [TextTree.fragmentsAll, TextTree.anySurvives, survives, if_pos rfl, TextTree.fragmentsAll,
    List.append_nil, TextTree.connective_keyLookup some, TextTree.fragments_keyLookup some]
  rfl

/-- A look-up adds its group, given what compiling its predicates gives. -/
theorem TakesConditions.run_filterByKeys (takes : query.TakesConditions) {model : Model}
    (bound : query.model = some model) (several : 2 ≤ model.primaryKey.length)
    {rows : List (List Value)} (keys : rows ≠ [])
    (arity : ∀ row ∈ rows, row.length = model.primaryKey.length)
    (hookFree : ∀ row ∈ rows, ∀ value ∈ row, value.HookFree) {workspace workspace' : Workspace}
    {ledger : Ledger}
    (compiled : ((keyTexts query.connection (model.primaryKey.map fun key =>
      query.escape (model.table ++ "." ++ key)) rows).run query.ledger).run workspace =
        ((texts, ledger), workspace'))
    (some : ∀ row ∈ texts, row ≠ []) (present : texts ≠ []) :
    ∃ clause, ((Edit.filterByKeys rows).run query).run workspace =
      ((.ok (), { query with
        ledger
        fragments := query.fragments ++ Fragment.keyLookup (query.firstKeyword.getD "and") texts
        pending := none
        currentClause := clause }), workspace') := by
  let names := model.primaryKey.map fun key => model.table ++ "." ++ key
  have free : ∀ predicate ∈
      (ConditionTree.group .and (ConditionTree.ofKeys names rows)).predicates,
      predicate.HookFree := by
    intro predicate mem
    obtain ⟨key, row, among, value, own, rfl⟩ := ConditionTree.predicatesAll_ofKeys mem
    exact (hookFree row among value own).pair key
  obtain ⟨clause, ran⟩ := ConditionTree.run_eq (.group .and (ConditionTree.ofKeys names rows))
    free takes.cursor takes.pending workspace
  have tree : ((ConditionTree.compile query.connection
      (.group .and (ConditionTree.ofKeys names rows))).run query.ledger).run workspace =
      ((TextTree.keyLookup texts, ledger), workspace') := by
    rw [ConditionTree.compile, ConditionTree.compileAll_ofKeys, List.map_map]
    exact congrArg (fun out => ((TextTree.keyLookup out.1.1, out.1.2), out.2)) compiled
  refine ⟨clause, ?_⟩
  rw [Edit.run_filterByKeys bound several keys arity workspace]
  dsimp only
  rw [ran, tree]
  dsimp only
  rw [withConditions_keyLookup some present]

end Query

/-! ### The start of a group -/

/-- Fragments at the start of groups within groups, given what follows in each group, from the
outermost on. The keyword stands in front of the outermost. -/
def Fragment.startGroups (first : String → List Fragment) (keyword : String) :
    List (List Fragment) → List Fragment
  | [] => first keyword
  | more :: rest => parenthesized keyword (startGroups first "" rest ++ more)

namespace Edit

/-- Calls at the start of groups within groups, given what follows in each group, from the outermost
on. -/
def startGroups (first : Edit Unit) : List (Connective × Edit Unit) → Edit Unit
  | [] => first
  | (connective, more) :: rest => conditionGroup connective (do
    startGroups first rest
    more)

/-- Whether all that an edit does to the fragments is to add some behind them. -/
def GoesOn (edit : Edit Unit) : Prop := ∀ query workspace, query.TakesConditions →
  let changed := ((edit.run query).run workspace).1.2
  changed.TakesConditions ∧ query.fragments <+: changed.fragments

end Edit

/-- Conditions go on with a group. -/
theorem ConditionTree.runAll_goesOn (items : List ConditionTree)
    (hookFree : ∀ predicate ∈ predicatesAll items, predicate.HookFree) :
    (runAll items).GoesOn := by
  intro query workspace takes changed
  obtain ⟨clause, ran⟩ := runAll_eq items hookFree takes.cursor takes.pending workspace
  have same : changed = _ := congrArg (·.1.2) ran
  rw [same]
  refine ⟨⟨takes.cursor, ?_⟩, List.prefix_append _ _⟩
  unfold Query.withConditions
  dsimp only
  split
  · exact nofun
  · exact takes.pending

namespace Edit

variable {inner : String → List Fragment}

theorem exists_startGroups_eq_cons {head : Fragment} {tail : List Fragment}
    (starts : ∀ keyword, inner keyword = { head with keyword } :: tail)
    (mores : List (List Fragment)) : ∃ (head : Fragment) (tail : List Fragment), ∀ keyword,
      Fragment.startGroups inner keyword mores = { head with keyword } :: tail := by
  cases mores with
  | nil => exact ⟨head, tail, starts⟩
  | cons more rest =>
      exact ⟨.withText "" "(", Fragment.startGroups inner "" rest ++ more ++ [.token ")"],
        fun keyword => rfl⟩

/-- What is first in groups within groups has its keyword moved to the outermost. -/
theorem run_startGroups {first : Edit Unit} {keyword : String}
    (word : keyword ∈ ["where", "having", "and", "or"]) {head : Fragment} {tail : List Fragment}
    (starts : ∀ keyword, inner keyword = { head with keyword } :: tail)
    (levels : List (Connective × Edit Unit)) (goesOn : ∀ level ∈ levels, level.2.GoesOn)
    {outer : Query} (takes : outer.TakesConditions) {workspace : Workspace}
    (ran : let opened := levels.foldl (fun query level => query.openGroup level.1) outer
      let changed := ((first.run opened).run workspace).1.2
      changed.TakesConditions ∧ changed.fragments = opened.fragments ++ inner keyword) :
    ∃ mores : List (List Fragment), mores.length = levels.length ∧
      let changed := (((startGroups first levels).run outer).run workspace).1.2
      changed.TakesConditions ∧
        changed.fragments = outer.fragments ++ Fragment.startGroups inner keyword mores := by
  induction levels generalizing outer with
  | nil => exact ⟨[], rfl, ran⟩
  | cons level levels ih =>
      obtain ⟨connective, rest⟩ := level
      rw [List.forall_mem_cons] at goesOn
      obtain ⟨mores, count, before, fragments⟩ := ih goesOn.2 (takes.openGroup connective) ran
      obtain ⟨ended, more, added⟩ := goesOn.1
        (((startGroups first levels).run (outer.openGroup connective)).run workspace).1.2
        (((startGroups first levels).run (outer.openGroup connective)).run workspace).2 before
      obtain ⟨head, tail, shape⟩ := exists_startGroups_eq_cons starts mores
      refine ⟨more :: mores, congrArg (· + 1) count, ?_⟩
      have begun : (outer.openGroup connective).fragments = outer.fragments ++ [.token "("] := by
        rw [Query.openGroup_eq takes.cursor]
      rw [fragments, begun, List.append_assoc (outer.fragments ++ _), shape keyword] at added
      have heads : ∀ fragment ∈ ({ head with keyword } :: tail ++ more).head?,
          fragment.keyword ∈ ["where", "having", "and", "or"] := by
        rintro fragment ⟨⟩
        exact word
      have closed := Query.closeConditionGroup_eq takes.cursor ended.cursor heads added.symm
        connective
      rw [startGroups, run_conditionGroup]
      change (Query.closeConditionGroup _ _ _).TakesConditions ∧
        (Query.closeConditionGroup _ _ _).fragments = _
      refine ⟨?_, ?_⟩
      · exact closed ▸ ⟨ended.cursor, nofun⟩
      · refine (congrArg Query.fragments closed).trans ?_
        rw [Fragment.startGroups, shape ""]
        rfl

end Edit

/-- What a look-up of rows by keys does to a query, given the predicates of the keys and what
compiling them leaves. -/
structure Query.LooksUp (query : Query) (rows : List (List Value)) (workspace : Workspace)
    (texts : List (List String)) (ledger : Ledger) (workspace' : Workspace) : Prop where
  /-- One group is added, under the keyword that a condition has here, and nothing else changes. -/
  group : ∃ clause, ((Edit.filterByKeys rows).run query).run workspace =
    ((.ok (), { query with
      ledger
      fragments := query.fragments ++
        Fragment.keyLookup (query.firstKeyword.getD "and") texts
      pending := none
      currentClause := clause }), workspace')
  /-- At the start of groups within groups, the keyword goes to the outermost parenthesis. -/
  outward : ∀ {outer : Query} {levels : List (Connective × Edit Unit)}, outer.InGroups →
    query = levels.foldl (fun query level => query.openGroup level.1) outer →
    (∀ level ∈ levels, level.2.GoesOn) →
    ∃ mores : List (List Fragment), mores.length = levels.length ∧
      (((Edit.startGroups (discard (Edit.filterByKeys rows)) levels).run outer).run
        workspace).1.2.fragments =
      outer.fragments ++ Fragment.startGroups (Fragment.keyLookup · texts)
        (query.firstKeyword.getD "and") mores
  /-- Wherever the group is read, it says that all predicates of some key hold. -/
  formula : ∃ formula : Formula,
    (∀ truth, formula.holds truth = texts.any fun row => row.all truth) ∧
    ∀ reading keyword connective, Reading.connective? reading keyword = some connective →
      (Fragment.keyLookup keyword texts).foldlM Reading.step reading =
        some (reading.add connective formula)
  /-- Scalars are bound one key after the other, as long as user-defined expressions only add
  parameters. -/
  binds : query.isPrepared = true →
    (∀ row ∈ rows, ∀ value ∈ row, CustomsAppend query.connection value.leaves) →
    ∃ added : List Param, ledger.params.entries = query.params ++ added ∧
      (rows.flatten.filterMap Operand.bound?).Sublist (added.map (·.value)) ∧
      ((∀ row ∈ rows, ∀ value ∈ row, ∃ scalar, value = .scalar scalar) →
        added.map (·.value) = rows.flatten.filterMap Operand.bound?)

/--
A look-up by keys of several columns matches the rows with one of the keys: wherever a condition may
be asked for, it adds one group with an inner group for each key, in which there is a predicate for
each column.
-/
theorem Query.InGroups.looksUp {query : Query} (inside : query.InGroups) {model : Model}
    (bound : query.model = some model) (several : 2 ≤ model.primaryKey.length)
    {rows : List (List Value)} (keys : rows ≠ [])
    (arity : ∀ row ∈ rows, row.length = model.primaryKey.length)
    (hookFree : ∀ row ∈ rows, ∀ value ∈ row, value.HookFree) (workspace : Workspace) :
    let columns := model.primaryKey.map fun key => query.escape (model.table ++ "." ++ key)
    let out := ((keyTexts query.connection columns rows).run query.ledger).run workspace
    query.LooksUp rows workspace out.1.1 out.1.2 out.2 ∧ out.1.1.length = rows.length ∧
      ∀ row ∈ out.1.1, row.length = model.primaryKey.length := by
  intro columns out
  have count : columns.length = model.primaryKey.length := List.length_map _
  have shape : out.1.1.length = rows.length ∧
      ∀ row ∈ out.1.1, row.length = columns.length ∧ "(" ∉ row :=
    keyTexts_yields (fun row mem => (arity row mem).trans count.symm) query.ledger workspace
  -- Keys have at least two columns, so no inner group is empty and vanishes.
  have some : ∀ texts ∈ out.1.1, texts ≠ [] := by
    rintro texts mem rfl
    have length := (shape.2 [] mem).1
    rw [count, List.length_nil] at length
    omega
  have present : out.1.1 ≠ [] := by
    intro none
    have length := shape.1
    change out.1.1.length = _ at length
    rw [none] at length
    exact keys (List.eq_nil_of_length_eq_zero length.symm)
  have group := inside.takesConditions.run_filterByKeys bound several keys arity hookFree
    (rfl : _ = ((out.1.1, out.1.2), out.2)) some present
  refine ⟨⟨group, ?_, ?_, ?_⟩, shape.1, fun row mem => (shape.2 row mem).1.trans count⟩
  · intro outer levels outside same goesOn
    obtain ⟨clause, ran⟩ := group
    have word : query.firstKeyword.getD "and" ∈ ["where", "having", "and", "or"] := by
      refine Eq.subst (query.firstKeyword_getD .and).symm ?_
      exact Query.nextKeyword_rows_mem (by decide : ConditionClause.filter ≠ .join) query .and
    have ended : let changed :=
          (((discard (Edit.filterByKeys rows)).run query).run workspace).1.2
        changed.TakesConditions ∧ changed.fragments = query.fragments ++
          Fragment.keyLookup (query.firstKeyword.getD "and") out.1.1 := by
      intro changed
      have left : changed = _ := congrArg (·.1.2) ran
      rw [left]
      exact ⟨⟨inside.takesConditions.cursor, nofun⟩, rfl⟩
    have starts (keyword : String) : Fragment.keyLookup keyword out.1.1 =
        { Fragment.withText "" "(" with keyword } ::
          (Fragment.disjunction out.1.1 ++ [.token ")"]) := rfl
    obtain ⟨mores, length, -, fragments⟩ := Edit.run_startGroups word starts levels goesOn
      outside.takesConditions (by
        subst same
        exact ended)
    exact ⟨mores, length, fragments⟩
  · exact TextTree.read_keyLookup some present fun row mem => (shape.2 row mem).2
  · intro prepared customs
    exact keyTexts_binds prepared (fun row mem => (arity row mem).trans count.symm) customs id
      query.ledger workspace

/-- Keys at the start of a group of alternatives that goes on with a condition. -/
theorem Query.InGroups.looksUp_alternatives :
    let home : Connection := .ofConfig {}
    let model : Model := { table := "t", primaryKey := ["a", "b"] }
    let made : Query := ((Script.Origin.make home { model := some model }).run {}).1
    let outer : Query :=
      (((Script.call home (.condition .filter .and (.raw "x"))).run made).run {}).1.2
    let query : Query := outer.openGroup .or
    let rows : List (List Value) := [[.scalar (.int 1), .scalar .null],
      [.expr (.between (.scalar (.int 2)) (.scalar (.int 3))), .raw "y"]]
    let texts := [["\"t\".\"a\" = :p1_0", "\"t\".\"b\" is null"],
      ["\"t\".\"a\" between :p1_1 and :p1_2", "\"t\".\"b\" = y"]]
    let looked := (((Edit.filterByKeys rows).run query).run {}).1.2
    let levels := [(Connective.or, ConditionTree.runAll [.condition .and (.raw "z")])]
    let whole := (((Edit.startGroups (discard (Edit.filterByKeys rows)) levels).run
      outer).run {}).1.2
    query.InGroups ∧ looked.fragments = query.fragments ++ Fragment.keyLookup "or" texts ∧
      looked.params.map (·.value) = [.int 1, .int 2, .int 3] ∧
      ∃ more, whole.fragments = outer.fragments ++
        Fragment.parenthesized "or" (Fragment.keyLookup "" texts ++ more) := by
  intro home model made outer query rows texts looked levels whole
  have outside : outer.InGroups :=
    .outside (.call home _ {} (.made home { model := some model } {}))
  have inside : query.InGroups := outside.opened .or
  have hookFree : ∀ row ∈ rows, ∀ value ∈ row, Operand.HookFree value := by
    simp [rows, Operand.HookFree, Operand.custom?]
  have goesOn : ∀ level ∈ levels, level.2.GoesOn := by
    refine List.forall_mem_singleton.2 (ConditionTree.runAll_goesOn _ ?_)
    simp [ConditionTree.predicatesAll, ConditionTree.predicates, Predicate.HookFree, Predicate.raw,
      Predicate.customs, Predicate.operands, Operand.custom?]
  have found := (inside.looksUp rfl (by decide) (by decide) (by decide) hookFree {}).1
  obtain ⟨clause, ran⟩ := found.group
  have same : looked = _ := congrArg (·.1.2) ran
  refine ⟨inside, ?_, ?_, ?_⟩
  · rw [same]
    dsimp only
    decide +kernel
  · rw [same]
    rfl
  · obtain ⟨mores, count, wrapped⟩ := found.outward outside rfl goesOn
    obtain ⟨more, rfl⟩ := List.length_eq_one_iff.1 count
    refine ⟨more, wrapped.trans ?_⟩
    rw [Fragment.startGroups, Fragment.startGroups]
    exact congrArg₂ (fun keyword found => outer.fragments ++
      Fragment.parenthesized keyword (Fragment.keyLookup "" found ++ more)) (by decide +kernel)
      (by decide +kernel)

end SqlBuilder
