import SqlBuilder.Proofs.Query.Paging

/-!
# Counting under order and limits

The counts of a query do not see how its rows are ordered and which of them are shown. Whatever
calls order and page a query, what its counts say is read off the query as it was before them; the
values that the terms of the order bind stay with the count all the same, under their names.
-/

namespace SqlBuilder

open Script

/-! ### The values of lists put together -/

namespace ParamList

theorem get?_adopt (params : ParamList) (param : Param) (name : String) :
    (params.adopt param).get? name =
      (params.get? name).or (if param.name = name then some param.value else none) := by
  unfold adopt
  split
  case isTrue taken =>
    by_cases own : param.name = name
    · subst own
      obtain ⟨found, present⟩ := Option.isSome_iff_exists.1 (List.find?_isSome.2
        (List.any_eq_true.1 taken))
      simp [get?, present]
    · simp [own]
  case isFalse =>
    simp only [get?, List.find?_append, Option.map_or]
    by_cases own : param.name = name <;> simp [own]

/-- A name stands for what it stood for in the first list that has it. -/
theorem get?_extend (params other : ParamList) (name : String) :
    (params.extend other).get? name = (params.get? name).or (other.get? name) := by
  obtain ⟨namespaceId, nextIndex, entries⟩ := other
  unfold extend
  induction entries generalizing params with
  | nil => simp [get?]
  | cons param entries ih =>
      rw [List.foldl_cons]
      refine (ih (params.adopt param)).trans ?_
      rw [get?_adopt, Option.or_assoc]
      congr 1
      by_cases own : param.name = name <;> simp [get?, own]

end ParamList

/-! ### What counts say -/

/-- The fragment with one item in place of the items of a select list. -/
def Fragment.selecting (item : String) (fragment : Fragment) : Fragment :=
  if isSelectKeyword fragment.keyword then { fragment with payload := some (.items [item]) }
  else fragment

/-- No separator stands between the items of a list of one. -/
theorem Fragment.tokens_item (keyword item : String) (own : Option String) (separator : String) :
    tokens separator { keyword, payload := some (.items [item]), separator := own } =
      [keyword, item].filter (!·.isEmpty) := by
  have alone (separator : String) : (Payload.items [item]).render separator = item := by
    by_cases empty : item.isEmpty
    · simp [Payload.render, String.isEmpty_iff.1 empty]
    · simp [Payload.render, empty]
  simp only [tokens, alone]

namespace Query

section

variable (query : Query)

/-- The SQL text with one item in place of the items of each select list. -/
def sqlSelecting (item : String) : String :=
  renderFragments query.columnSeparator (query.fragments.map (.selecting item))

/-- Whether the number of rows, or the shape of a union, depends on the items that are selected. -/
def needsItems : Bool := query.hasClause "select distinct" || query.isCompound

/-- The SQL text of the rows that are counted by way of a nested query. -/
def countedText : String :=
  if query.needsItems then query.sql
  else query.sqlSelecting (if query.hasClause "having" then "*" else "1")

/-- The SQL text of a count by way of a nested query. -/
def totalCountText : String :=
  "select count(*) from (" ++ query.countedText ++ ") as " ++ query.escapePart "__count"

/-- The SQL text of a count in place, where that is possible. -/
def resultCountText : String :=
  if query.needsItems || query.hasClause "group by" || query.hasClause "having" then
    query.totalCountText
  else query.sqlSelecting "count(*)"

/-- Whether a query has a SQL text, with the values and the fault of another query. -/
structure Counts (text : String) (count : Query) : Prop where
  sql : count.sql = text
  values : ∀ name, count.ledger.params.get? name = query.ledger.params.get? name
  fault : count.ledger.fault = query.ledger.fault

end

variable {base query inner : Query} {keyword : String}

/-! ### One select list -/

/-- A query that is not compound has one select list. -/
theorem exists_select (selected : query.selectKeyword = .ok keyword)
    (simple : query.isCompound = false) :
    ∃ front fragment behind, query.fragments = front ++ fragment :: behind ∧
      fragment.keyword = keyword ∧ isSelectKeyword keyword = true ∧
      ∀ other ∈ front ++ behind, isSelectKeyword other.keyword = false := by
  unfold selectKeyword at selected
  split at selected
  case h_2 => cases selected
  case h_1 fragment found =>
    cases selected
    obtain ⟨isSelect, front, behind, shape, before⟩ := List.find?_eq_some_iff_append.1 found
    refine ⟨front, fragment, behind, shape, rfl, isSelect, ?_⟩
    have single : (query.fragments.filter (isSelectKeyword ·.keyword)).length ≤ 1 := by
      unfold isCompound at simple
      simp only [Bool.or_eq_false_iff, decide_eq_false_iff_not] at simple
      omega
    rw [shape, List.filter_append, List.filter_cons, if_pos isSelect, List.length_append,
      List.length_cons] at single
    have after : behind.filter (isSelectKeyword ·.keyword) = [] :=
      List.length_eq_zero_iff.1 (by omega)
    rw [List.forall_mem_append]
    exact ⟨fun other mem => by simpa using before other mem,
      fun other mem => by simpa using List.filter_eq_nil_iff.1 after other mem⟩

/-- The items are counted with unless there is one select list, a plain one. -/
theorem needsItems_eq (selected : query.selectKeyword = .ok keyword) :
    (keyword == "select" && !query.isCompound) = !query.needsItems := by
  unfold needsItems
  cases simple : query.isCompound with
  | true => simp
  | false =>
      obtain ⟨front, fragment, behind, shape, own, isSelect, others⟩ :=
        exists_select selected simple
      have rest : (front ++ behind).any (·.keyword == "select distinct") = false := by
        refine List.any_eq_false.2 fun other mem same => ?_
        have isOther := others other mem
        rw [beq_iff_eq.1 same] at isOther
        exact absurd isOther (by decide)
      have distinct : query.hasClause "select distinct" = (keyword == "select distinct") := by
        rw [List.any_append, Bool.or_eq_false_iff] at rest
        rw [hasClause, shape, List.any_append, List.any_cons, rest.1, rest.2, own, Bool.false_or,
          Bool.or_false]
      rw [distinct, Bool.or_false, Bool.not_false, Bool.and_true]
      unfold isSelectKeyword at isSelect
      rcases Bool.or_eq_true_iff.1 isSelect with plain | distinct
      · rw [beq_iff_eq.1 plain]
        decide
      · rw [beq_iff_eq.1 distinct]
        decide

/-- One item in place of those of the only select list. -/
theorem withSelectList_eq (selected : query.selectKeyword = .ok keyword)
    (plain : query.needsItems = false) (item : String) :
    ∃ changed, query.withSelectList item = .ok changed ∧
      changed.sql = query.sqlSelecting item ∧ changed.ledger = query.ledger := by
  have both := needsItems_eq selected
  rw [plain, Bool.not_false, Bool.and_eq_true, beq_iff_eq, Bool.not_eq_true'] at both
  obtain ⟨rfl, simple⟩ := both
  obtain ⟨front, fragment, behind, shape, own, -, others⟩ := exists_select selected simple
  rw [List.forall_mem_append] at others
  have before : ∀ other ∈ front, ¬(other.keyword == "select") = true := by
    intro other mem same
    have isOther := others.1 other mem
    rw [beq_iff_eq.1 same] at isOther
    cases isOther
  have found : query.clauseIndex? "select" = some front.length := by
    rw [clauseIndex?, shape, List.findIdx?_append, List.findIdx?_eq_none_iff.2 fun other mem =>
      Bool.eq_false_iff.2 (before other mem)]
    simp [List.findIdx?_cons, own]
  have alone {fragments : List Fragment}
      (none : ∀ other ∈ fragments, isSelectKeyword other.keyword = false) :
      fragments.map (.selecting item) = fragments :=
    (List.map_congr_left fun other mem => by simp [Fragment.selecting, none other mem]).trans
      (List.map_id fragments)
  let only : Fragment := { keyword := fragment.keyword, payload := some (.items [item]) }
  refine ⟨{ query with fragments := front ++ only :: behind }, ?_, ?_, rfl⟩
  · rw [withSelectList, replaceClause, found]
    dsimp only
    rw [shape, modify_append_length]
  · have isSelect : isSelectKeyword fragment.keyword = true := by rw [own]; rfl
    rw [sqlSelecting, shape, List.map_append, List.map_cons, alone others.1, alone others.2,
      Fragment.selecting, if_pos isSelect]
    unfold sql renderFragments
    rw [List.flatMap_append, List.flatMap_cons, List.flatMap_append, List.flatMap_cons,
      Fragment.tokens_item, Fragment.tokens_item]
    rfl

/-! ### The texts of counts -/

/-- A count of nested rows. -/
theorem sql_countRowsOf (connection : Connection) (workspace : Workspace) (inner : Query) :
    (((new connection).run workspace).1.countRowsOf inner).sql =
      "select count(*) from (" ++ inner.sql ++ ") as " ++
        connection.grammar.escapePart "__count" := by
  have fragments : (((new connection).run workspace).1.countRowsOf inner).fragments =
      [{ keyword := "select", payload := some (.items ["count(*)"]) },
        .withText "from"
          ("(" ++ inner.sql ++ ") as " ++ connection.grammar.escapePart "__count")] :=
    rfl
  rw [sql, renderFragments, fragments]
  simp only [String.append_assoc]
  generalize inner.sql ++ (") as " ++ connection.grammar.escapePart "__count") = rows
  have source (separator : String) :
      Fragment.tokens separator (.withText "from" ("(" ++ rows)) = ["from", "(" ++ rows] := by
    simp [Fragment.tokens, Fragment.withText, Payload.render]
  have apart : gap "from" ("(" ++ rows) = " " := by
    have noComma : "(" ++ rows ≠ "," := fun same => by simpa using congrArg String.toList same
    simp [gap, attaches, noComma]
  rw [List.flatMap_cons, List.flatMap_singleton, Fragment.tokens_item, source]
  change "select" ++ (" " ++ ("count(*)" ++ (" " ++ ("from" ++
    (gap "from" ("(" ++ rows) ++ ("(" ++ rows ++ "")))))) = _
  rw [apart, String.append_empty]
  simp only [← String.append_assoc]
  rfl

/-! ### Counts behind order and page -/

theorem selectKeyword_eq_error
    (none : query.fragments.any (isSelectKeyword ·.keyword) = false) :
    query.selectKeyword = .error (.missingClause "select") := by
  have absent : query.fragments.find? (isSelectKeyword ·.keyword) = Option.none :=
    List.find?_eq_none.2 (by simpa using none)
  rw [selectKeyword, absent]

theorem exists_selectKeyword (some : query.fragments.any (isSelectKeyword ·.keyword) = true) :
    ∃ keyword, query.selectKeyword = .ok keyword := by
  obtain ⟨fragment, found⟩ := Option.isSome_iff_exists.1
    (List.find?_isSome.2 (List.any_eq_true.1 some))
  exact ⟨fragment.keyword, by rw [selectKeyword, found]⟩

namespace Ends

variable (ends : Ends pagingClauses base query) (unpaged : base.IsUnpaged)

include ends unpaged

/-- Without its order and page a query has the text that it had before. -/
theorem sql_withoutPaging : query.withoutPaging.sql = base.sql := by
  rw [sql, sql, columnSeparator, columnSeparator, ends.fragments_withoutPaging unpaged,
    connection_withoutPaging, ends.connection]

/-- Without its order and page a query takes a select list of one item like the query before. -/
theorem withSelectList (selected : base.selectKeyword = .ok keyword)
    (plain : base.needsItems = false) (item : String) :
    ∃ changed, query.withoutPaging.withSelectList item = .ok changed ∧
      changed.sql = base.sqlSelecting item ∧ changed.ledger = query.ledger := by
  have fragments := ends.fragments_withoutPaging unpaged
  have selected' : query.withoutPaging.selectKeyword = .ok keyword := by
    rw [Query.selectKeyword, fragments]
    exact selected
  have plain' : query.withoutPaging.needsItems = false := by
    rw [needsItems, Query.hasClause, Query.isCompound, Query.hasClause, Query.hasClause, fragments]
    exact plain
  obtain ⟨changed, replaced, text, ledger⟩ := withSelectList_eq selected' plain' item
  refine ⟨changed, replaced, ?_, ledger.trans query.ledger_withoutPaging⟩
  rw [text, sqlSelecting, sqlSelecting, columnSeparator, columnSeparator, fragments,
    connection_withoutPaging, ends.connection]

/-- The rows that are counted by way of a nested query. -/
theorem countedRows (selected : base.selectKeyword = .ok keyword) (copy : Query)
    (copied : Ends pagingClauses base copy) :
    ∃ inner, query.countedRows keyword copy = .ok inner ∧ inner.sql = base.countedText ∧
      inner.ledger = copy.ledger := by
  have items := needsItems_eq selected
  unfold Query.countedRows countedText
  rw [ends.isCompound, items]
  cases plain : base.needsItems with
  | true => exact ⟨_, rfl, copied.sql_withoutPaging unpaged, copy.ledger_withoutPaging⟩
  | false =>
      have having : copy.withoutPaging.hasClause "having" = base.hasClause "having" := by
        rw [Query.hasClause, Query.hasClause, copied.fragments_withoutPaging unpaged]
      rw [having]
      exact copied.withSelectList unpaged selected plain _

/-- A count by way of a nested query reads the query before its order and page. -/
theorem totalCountQuery (selected : base.selectKeyword = .ok keyword) (workspace : Workspace) :
    ∃ count, (query.totalCountQuery.run workspace).1 = .ok count ∧
      query.Counts base.totalCountText count := by
  have copied := ends.clone workspace
  obtain ⟨inner, counted, text, ledger⟩ := ends.countedRows unpaged selected _ copied
  have made : (query.totalCountQuery.run workspace).1 =
      .ok (((new query.connection).run (query.clone.run workspace).2).1.countRowsOf inner) := by
    rw [run_totalCountQuery, ends.selectKeyword, selected]
    dsimp only
    rw [counted]
    rfl
  refine ⟨_, made, ?_, fun name => ?_, ?_⟩
  · rw [sql_countRowsOf, text, ends.connection]
    rfl
  · rw [ledger_countRowsOf, Ledger.adopt, ParamList.get?_extend, ledger]
    rfl
  · rw [ledger_countRowsOf, Ledger.adopt, ledger]
    rfl

/-- A count in place reads the query before its order and page as well. -/
theorem resultCountQuery (selected : base.selectKeyword = .ok keyword) (workspace : Workspace) :
    ∃ count, (query.resultCountQuery.run workspace).1 = .ok count ∧
      query.Counts base.resultCountText count := by
  have copied := ends.clone workspace
  -- Whether rows are counted in place does not depend on order and page either.
  have inPlace : query.countsInPlace keyword =
      !(base.needsItems || base.hasClause "group by" || base.hasClause "having") := by
    rw [countsInPlace, ends.isCompound, needsItems_eq selected, ends.hasClause (by decide),
      ends.hasClause (by decide), Bool.not_or, Bool.not_or]
  rw [run_resultCountQuery, ends.selectKeyword, selected]
  dsimp only
  rw [inPlace, resultCountText]
  cases nested : base.needsItems || base.hasClause "group by" || base.hasClause "having" with
  | true => exact ends.totalCountQuery unpaged selected workspace
  | false =>
      have plain : base.needsItems = false := by
        rw [Bool.or_eq_false_iff, Bool.or_eq_false_iff] at nested
        exact nested.1.1
      obtain ⟨count, replaced, text, ledger⟩ :=
        copied.withSelectList unpaged selected plain "count(*)"
      exact ⟨count, replaced, text, fun name => by rw [ledger]; rfl, by rw [ledger]; rfl⟩

end Ends

end Query

/-! ### Calls that order and page -/

namespace Script

/-- Whether a step orders rows or cuts a page out of them. -/
def Step.isPaging : Step → Bool
  | .addTerms .orderBy _ | .addOrder _ _ | .addOrderRaw _ => true
  | .limit _ | .offset _ | .paginate _ => true
  | _ => false

variable {base query : Query} {home : Connection}

/-- A call that orders or pages adds to the tail, or changes a text in it. -/
theorem call_ends (step : Step) (paging : step.isPaging = true) (unpaged : base.IsUnpaged)
    (ends : Query.Ends pagingClauses base query) (workspace : Workspace) :
    Query.Ends pagingClauses base (((call home step).run query).run workspace).1.2 := by
  match step with
  | .addTerms .orderBy columns => exact ends.addTerms unpaged _ _
  | .addOrder column descends => exact (ends.ledger _).addTerm unpaged _
  | .addOrderRaw sql => exact ends.addTerm unpaged sql
  | .limit count => exact ends.setText unpaged (by decide) _
  | .offset count => exact ends.setText unpaged (by decide) _
  | .paginate request => exact ends.paginate unpaged request

theorem runSteps_ends {steps : List Step} (paging : steps.all (·.isPaging) = true)
    (unpaged : base.IsUnpaged) (ends : Query.Ends pagingClauses base query)
    (workspace : Workspace) :
    Query.Ends pagingClauses base (((runSteps home steps).run query).run workspace).1.2 := by
  induction steps generalizing query workspace with
  | nil => exact ends
  | cons step rest ih =>
      rw [List.all_cons, Bool.and_eq_true] at paging
      exact ih paging.2 (call_ends step paging.1 unpaged ends workspace) _

end Script

/--
However a query is ordered and paged, its counts are those of the query as it was: they fail if it
selects nothing, and otherwise have a text that does not depend on order and page, with all values
of the query.
-/
theorem Query.counts_ignore_paging {query : Query} (reachable : query.Reachable)
    (unpaged : query.IsUnpaged) (home : Connection) {steps : List Step}
    (paging : steps.all (·.isPaging) = true) (workspace later : Workspace) :
    let paged := (((runSteps home steps).run query).run workspace).1.2
    if query.fragments.any (isSelectKeyword ·.keyword) then
      (∃ count, (paged.resultCountQuery.run later).1 = .ok count ∧
        paged.Counts query.resultCountText count) ∧
      (∃ count, (paged.totalCountQuery.run later).1 = .ok count ∧
        paged.Counts query.totalCountText count)
    else
      (paged.resultCountQuery.run later).1 = .error (.missingClause "select") ∧
      (paged.totalCountQuery.run later).1 = .error (.missingClause "select") := by
  intro paged
  have ends : Ends pagingClauses query paged :=
    runSteps_ends paging unpaged (.refl reachable.atRest.cursor _) workspace
  cases selects : query.fragments.any (isSelectKeyword ·.keyword) with
  | true =>
      obtain ⟨keyword, selected⟩ := exists_selectKeyword selects
      exact ⟨ends.resultCountQuery unpaged selected later,
        ends.totalCountQuery unpaged selected later⟩
  | false =>
      have missing : paged.selectKeyword = .error (.missingClause "select") := by
        rw [ends.selectKeyword, selectKeyword_eq_error selects]
      constructor
      · rw [run_resultCountQuery, missing]
      · rw [run_totalCountQuery, missing]

/-- The second term of the order stands behind the limit, and goes with it. -/
theorem Query.counts_ignore_paging_parted :
    let home : Connection := .ofConfig {}
    let query : Query := (((call home (.addTerms .groupBy [.column "city"])).run
      ((Origin.make home { table := some "a" }).run {}).1).run {}).1.2
    let steps : List Step := [.addOrderRaw "x", .limit 1, .addOrder (.column "y") true,
      .paginate { page := 2, perPage := 10 }]
    let paged : Query := (((runSteps home steps).run query).run {}).1.2
    paged.sql = "select * from \"a\" group by \"city\" order by x limit 10, \"y\" desc offset 10" ∧
      (∃ count, (paged.resultCountQuery.run {}).1 = .ok count ∧ paged.Counts
        "select count(*) from (select 1 from \"a\" group by \"city\") as \"__count\"" count) ∧
      ∃ count, (paged.totalCountQuery.run {}).1 = .ok count ∧ paged.Counts
        "select count(*) from (select 1 from \"a\" group by \"city\") as \"__count\"" count := by
  intro home query steps paged
  have reachable : query.Reachable :=
    .call home (.addTerms .groupBy [.column "city"]) {} (.made home { table := some "a" } {})
  have unpaged : query.IsUnpaged := by
    unfold IsUnpaged
    decide +kernel
  have counts := counts_ignore_paging reachable unpaged home
    (by decide +kernel : steps.all (·.isPaging) = true) {} {}
  rw [if_pos (by decide +kernel)] at counts
  have text : query.resultCountText =
      "select count(*) from (select 1 from \"a\" group by \"city\") as \"__count\"" := by
    decide +kernel
  have same : query.totalCountText = query.resultCountText := by decide +kernel
  rw [same, text] at counts
  exact ⟨by decide +kernel, counts⟩

end SqlBuilder
