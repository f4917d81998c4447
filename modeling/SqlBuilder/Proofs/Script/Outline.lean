import SqlBuilder.Proofs.Query.Extension

/-!
# What a query follows from

A query that is made, changed by calls and copied has each of its single clauses once, and holds
there what its calls asked for. The calls may be any but those that place fragments, clauses or
predicates as they are given: other queries are not merged, groups hold predicates and groups of
them, and joins hold predicates of their own. Clauses may be removed.

The outline of a query is told call by call. What a call asks for depends on the query only in as
much as its operands are written for it.
-/

namespace SqlBuilder

/-- Whether an operand is a user-defined expression. -/
def Operand.isCustom {Nested Custom : Type} : Operand Nested Custom → Bool
  | .custom _ => true
  | _ => false

namespace Script

/-- Whether no side of a predicate is a user-defined expression. -/
def isPlainPredicate (predicate : PredicateDraft) : Bool :=
  predicate.operands.all (!·.isCustom)

/-- Whether a step compares nothing with a user-defined expression. -/
def Step.isPlain : Step → Bool
  | .condition _ _ predicate => isPlainPredicate predicate
  | .filterIn _ lhs _ => !lhs.isCustom
  | .filterByKey key => key.all (!·.isCustom)
  | .filterByKeys rows => rows.all (·.all (!·.isCustom))
  | _ => true

/-- Whether a step of a join adds a predicate to it. -/
def Step.staysInJoin : Step → Bool
  | .condition .join _ predicate => isPlainPredicate predicate
  | _ => false

mutual

/-- Whether a step of a group adds predicates and groups only. -/
def Step.staysInGroup : Step → Bool
  | .condition _ _ predicate => isPlainPredicate predicate
  | .filterIn _ lhs _ => !lhs.isCustom
  | .filterByKey key => key.all (!·.isCustom)
  | .filterByKeys rows => rows.all (·.all (!·.isCustom))
  | .filterHas _ _ => true
  | .conditionGroup _ body => allStayInGroup body
  | .parenthesis _ body => allStayInGroup body
  | _ => false

/-- Whether all steps of a group add predicates and groups only. -/
def Step.allStayInGroup : List Step → Bool
  | [] => true
  | step :: rest => step.staysInGroup && allStayInGroup rest

end

/-- Whether a step leaves single clauses single. -/
def Step.isOrderly : Step → Bool
  | .merge _ | .union _ _ | .replaceClause _ _ | .raw _ | .add _ => false
  | .addExpression _ _ _ _ | .addPredicate _ _ => false
  | .removeClause keyword => ("select distinct" :: singleClauses).contains keyword
  | .conditionGroup _ body => Step.allStayInGroup body
  | .parenthesis _ body => Step.allStayInGroup body
  | .join _ _ _ (some body) => body.all (·.staysInJoin)
  | step => step.isPlain

/-- The outline after a step, from the outline before it. -/
def Step.outline (home : Connection) (query : Query) (workspace : Workspace) (outline : Outline) :
    Step → Outline
  | .select distinct columns =>
    let built := (buildAll home columns).run workspace
    outline.select distinct (((Edit.items built.1).run query).run built.2).1.1
  | .selectAs column label =>
    let built := (buildOperand home column).run workspace
    let text := (((Edit.resolve built.1).run query).run built.2).1.1
    outline.select false [text ++ " as " ++ query.escapePart label]
  | .selectRaw sql => outline.select false [sql]
  | .source table label => { outline with source := some (query.escapeAs table label) }
  | .sourceQuery draft label =>
    let nested := ((buildQuery home draft).run workspace).1
    { outline with source := some (callText "" nested.sql ++ " as " ++ query.escapePart label) }
  | .limit count => { outline with limit := some (Nat.repr count) }
  | .offset count => { outline with offset := some (Nat.repr count) }
  | .paginate request =>
    { outline with
      limit := some (Nat.repr request.clamp.perPage)
      offset := some (Nat.repr request.clamp.offset) }
  | .removeClause keyword => outline.remove keyword
  | _ => outline

/-- The outline after steps in a row. -/
def Step.outlineAll (home : Connection) :
    List Step → Query → Workspace → Outline → Outline
  | [], _, _, outline => outline
  | step :: rest, query, workspace, outline =>
    let out := ((call home step).run query).run workspace
    outlineAll home rest out.1.2 out.2 (step.outline home query workspace outline)

/-- The outline of a query that was just made. -/
def Origin.outline (home : Connection) (origin : Origin) : Outline :=
  match origin.model, origin.table with
  | none, some table =>
    { selections := [(false, ["*"])]
      source := some ((origin.connection.getD home).grammar.escapeIdentifier table) }
  | _, _ => {}

/-- The source of a count by way of a nested query. -/
def countSource (query : Query) (workspace : Workspace) : Option String :=
  match query.selectKeyword with
  | .error _ => none
  | .ok keyword =>
    match query.countedRows keyword (query.clone.run workspace).1 with
    | .error _ => none
    | .ok inner => some ("(" ++ inner.sql ++ ") as " ++ query.escapePart "__count")

/-- The outline of a copy, from the outline of the query. A count has a select list of its own; it
keeps the source if it counts in place, and selects from the query otherwise. -/
def CopyKind.outline (query : Query) (workspace : Workspace) (outline : Outline) :
    CopyKind → Outline
  | .clone | .explain => outline
  | .fresh => {}
  | .resultCount =>
    if query.selectKeyword.toOption.any query.countsInPlace then
      { selections := [(false, ["count(*)"])], source := outline.source }
    else { selections := [(false, ["count(*)"])], source := countSource query workspace }
  | .totalCount =>
    { selections := [(false, ["count(*)"])], source := countSource query workspace }

end Script

open Script

/-- The queries that orderly calls lead to, outside any callback, each with its outline. -/
inductive Query.Outlined : Query → Outline → Prop
  | made (home : Connection) (origin : Origin) (workspace : Workspace) :
      Outlined ((origin.make home).run workspace).1 (origin.outline home)
  | call (home : Connection) (step : Step) (workspace : Workspace) {query : Query}
      {outline : Outline} : step.isOrderly = true → Outlined query outline →
      Outlined (((call home step).run query).run workspace).1.2
        (step.outline home query workspace outline)
  | copy (kind : CopyKind) (workspace : Workspace) {query copy : Query} {outline : Outline} :
      Outlined query outline → ((kind.make query).run workspace).1 = .ok copy →
      Outlined copy (kind.outline query workspace outline)

/-- Whether a query has its single clauses once and holds there what an outline asks for. -/
structure Query.Follows (query : Query) (outline : Outline) : Prop where
  single : ∀ clause ∈ singleClauses, query.fragments.countP (·.clause == clause) ≤ 1
  ordered : query.fragments.Pairwise fun before after =>
    ¬(before.keyword = "from" ∧ isSelectKeyword after.keyword = true)
  selectList : query.fragments.filter (isSelectKeyword ·.keyword) = outline.selectList.toList
  source : query.fragments.filter (·.keyword == "from") =
    (outline.source.map (Fragment.withText "from")).toList
  limit : query.fragments.filter (·.keyword == "limit") =
    (outline.limit.map (Fragment.withText "limit")).toList
  offset : query.fragments.filter (·.keyword == "offset") =
    (outline.offset.map (Fragment.withText "offset")).toList

/-! ### What built operands have no hooks -/

namespace Script

variable {home : Connection}

theorem custom?_buildOperand {draft : Draft} (plain : draft.isCustom = false)
    (workspace : Workspace) : ((buildOperand home draft).run workspace).1.custom? = none := by
  cases draft with
  | custom draft => cases plain
  | column _ | raw _ | scalar _ | backing _ | expr _ | query _ => rfl

theorem custom?_buildAll {drafts : List Draft} (plain : drafts.all (!·.isCustom) = true)
    (workspace : Workspace) :
    ∀ value ∈ ((buildAll home drafts).run workspace).1, value.custom? = none := by
  induction drafts generalizing workspace with
  | nil => exact List.forall_mem_nil _
  | cons draft rest ih =>
      rw [List.all_cons, Bool.and_eq_true, Bool.not_eq_true'] at plain
      exact List.forall_mem_cons.2 ⟨custom?_buildOperand plain.1 workspace, ih plain.2 _⟩

theorem custom?_buildRows {rows : List (List Draft)}
    (plain : rows.all (·.all (!·.isCustom)) = true) (workspace : Workspace) :
    ∀ row ∈ ((buildRows home rows).run workspace).1, ∀ value ∈ row, value.custom? = none := by
  induction rows generalizing workspace with
  | nil => exact List.forall_mem_nil _
  | cons row rest ih =>
      rw [List.all_cons, Bool.and_eq_true] at plain
      exact List.forall_mem_cons.2 ⟨custom?_buildAll plain.1 workspace, ih plain.2 _⟩

theorem hookFree_buildPredicate {draft : PredicateDraft} (plain : isPlainPredicate draft = true)
    (workspace : Workspace) : ((buildPredicate home draft).run workspace).1.HookFree := by
  cases draft with
  | single operand =>
      simp only [isPlainPredicate, Predicate.operands, List.all_cons, List.all_nil, Bool.and_true,
        Bool.not_eq_true'] at plain
      exact Edit.hookFree_single (custom?_buildOperand plain workspace)
  | pair lhs rhs =>
      simp only [isPlainPredicate, Predicate.operands, List.all_cons, List.all_nil, Bool.and_true,
        Bool.and_eq_true, Bool.not_eq_true'] at plain
      exact Edit.hookFree_pair (custom?_buildOperand plain.1 workspace)
        (custom?_buildOperand plain.2 _)
  | compare lhs comparator rhs =>
      simp only [isPlainPredicate, Predicate.operands, List.all_cons, List.all_nil, Bool.and_true,
        Bool.and_eq_true, Bool.not_eq_true'] at plain
      exact Edit.hookFree_pair (custom?_buildOperand plain.1 workspace)
        (custom?_buildOperand plain.2 _)

/-! ### Callbacks -/

/-- Whether the clauses that a query has once are left alone. -/
abbrev SameClauses (query changed : Query) : Prop := changed.clauses = query.clauses

mutual

/-- A step of a group adds conditions. -/
theorem call_addsConditions (step : Step) (stays : step.staysInGroup = true) :
    (call home step).AddsConditions := by
  match step with
  | .condition clause connective predicate =>
      exact .bind (.session _) fun _ workspace => .bind
        (.condition _ _ (hookFree_buildPredicate stays workspace)) fun _ _ => .pure _
  | .filterIn negated lhs values =>
      have plain : lhs.isCustom = false := by simpa [Step.staysInGroup] using stays
      exact .bind (.session _) fun _ workspace => .bind (.session _) fun _ _ => .bind
        (.filterIn negated (custom?_buildOperand plain workspace) _) fun _ _ => .pure _
  | .filterByKey key =>
      exact .bind (.session _) fun _ workspace => .bind
        (.filterByKey (custom?_buildAll stays workspace)) fun _ _ => .pure _
  | .filterByKeys rows =>
      exact .bind (.session _) fun _ workspace => .bind
        (.filterByKeys (custom?_buildRows stays workspace)) fun _ _ => .pure _
  | .filterHas relation body => exact .bind (.filterHas relation _) fun _ _ => .pure _
  | .conditionGroup connective body =>
      exact .bind (.conditionGroup connective (runSteps_addsConditions body stays)) fun _ _ =>
        .pure _
  | .parenthesis pull body =>
      exact .bind (.parenthesis pull (runSteps_addsConditions body stays)) fun _ _ => .pure _

/-- The steps of a group add conditions. -/
theorem runSteps_addsConditions (steps : List Step) (stay : Step.allStayInGroup steps = true) :
    (runSteps home steps).AddsConditions := by
  match steps with
  | [] => exact .pure _
  | step :: rest =>
      have both : step.staysInGroup = true ∧ Step.allStayInGroup rest = true := by
        simpa [Step.allStayInGroup] using stay
      exact .bind (call_addsConditions step both.1) fun _ _ => .bind .look fun _ _ =>
        .bind (runSteps_addsConditions rest both.2) fun _ _ => .pure _

end

/-- A predicate of a join starts no single clause. -/
theorem call_sameClauses (connective : Connective) {predicate : PredicateDraft}
    (plain : isPlainPredicate predicate = true) :
    Edit.Keeps SameClauses (call home (.condition .join connective predicate)) := by
  refine Edit.keeps_lift_bind fun workspace query workspace' => ?_
  change SameClauses query (((Edit.condition .join connective
    ((buildPredicate home predicate).run workspace).1).run query).run workspace').1.2
  rw [Edit.run_condition (hookFree_buildPredicate plain workspace)]
  have words : ∀ keyword ∈ [ConditionClause.join.keyword, "and", "or"],
      isSelectKeyword keyword = false ∧
        ∀ text, (Fragment.withText keyword text).isSingle = false := by
    simp only [List.forall_mem_cons, List.not_mem_nil, false_imp_iff, implies_true, and_true]
    exact ⟨⟨rfl, fun _ => rfl⟩, ⟨rfl, fun _ => rfl⟩, ⟨rfl, fun _ => rfl⟩⟩
  obtain ⟨other, starts⟩ := words _ (query.nextKeyword_mem .join connective)
  dsimp only
  rw [Query.addText_eq_insert _ other]
  exact Query.clauses_insert_other _ (starts _)

/-- The steps of a join leave the single clauses alone. -/
theorem runSteps_sameClauses (steps : List Step) (stay : steps.all (·.staysInJoin) = true) :
    Edit.Keeps SameClauses (runSteps home steps) := by
  induction steps with
  | nil => exact fun _ _ => rfl
  | cons step rest ih =>
      rw [List.all_cons, Bool.and_eq_true] at stay
      obtain ⟨own, others⟩ := stay
      intro query workspace
      have first : SameClauses query (((call home step).run query).run workspace).1.2 := by
        unfold Step.staysInJoin at own
        split at own
        case h_1 connective predicate => exact call_sameClauses connective own query workspace
        case h_2 => cases own
      exact (ih others _ _).trans first

/-! ### Calls that leave single clauses alone -/

theorem sameClauses_addText (query : Query) {keyword : String}
    (other : isSelectKeyword keyword = false) (free : keyword ∉ singleClauses) (text : String) :
    SameClauses query (query.addText keyword text) := by
  rw [SameClauses, Query.addText_eq_insert query other]
  refine Query.clauses_insert_other query ?_
  rw [Fragment.isSingle, Fragment.clause_of_keyword rfl other]
  exact Bool.eq_false_iff.2 fun mem => free (List.contains_iff_mem.1 mem)

theorem sameClauses_openJoin (query : Query) (kind : JoinKind) (target : String) :
    SameClauses query (query.openJoin kind target) := by
  refine Query.clauses_insert_other { query with cursor := query.joinPoint?.or query.cursor } ?_
  cases kind <;> rfl

theorem sameClauses_addCommonTable (query : Query) (isRecursive : Bool) (text : String) :
    SameClauses query (query.addCommonTable isRecursive text) := by
  unfold Query.addCommonTable
  dsimp only
  split
  case h_2 =>
    refine filter_insertIdx_of_neg _ _ ?_
    cases isRecursive <;> rfl
  case h_1 place found =>
    refine (filter_insertIdx_of_neg _ _ rfl).trans ?_
    cases isRecursive with
    | false => rfl
    | true =>
        obtain ⟨before, fragment, after, shape, rfl, starts⟩ := exists_append_of_findIdx? found
        have marked : ({ fragment with keyword := "with recursive" } : Fragment).isSingle = false :=
          rfl
        have plain : fragment.isSingle = false := by
          rw [Bool.or_eq_true, beq_iff_eq, beq_iff_eq] at starts
          unfold Fragment.isSingle Fragment.clause
          rcases starts with word | word <;> rw [word] <;> rfl
        dsimp only
        rw [if_pos rfl, Query.clauses, shape, modify_append_length, List.filter_append,
          List.filter_append]
        refine congrArg (before.filter (·.isSingle) ++ ·) ?_
        exact (List.filter_cons_of_neg (Bool.eq_false_iff.1 marked)).trans
          (List.filter_cons_of_neg (Bool.eq_false_iff.1 plain)).symm

theorem sameClauses_attempt {attempted : Query → Except QueryError Query}
    (same : ∀ query changed, attempted query = .ok changed → SameClauses query changed) :
    Edit.Keeps SameClauses (Edit.attempt attempted) := by
  intro query workspace
  obtain ⟨changed, result, ran⟩ | ⟨error, -, ran⟩ := Edit.run_attempt attempted query workspace
  · rw [ran]
    exact same query changed result
  · rw [ran]

theorem sameClauses_insertInto {query changed : Query} {replaces : Bool} {table : String}
    {columns : List String}
    (inserted : (if replaces then query.replaceInto table columns
      else query.insertInto table columns) = .ok changed) : SameClauses query changed := by
  cases replaces with
  | true =>
      obtain ⟨text, rfl⟩ := Query.eq_addText_of_replaceInto inserted
      exact sameClauses_addText query rfl (by decide) text
  | false =>
      obtain ⟨text, rfl⟩ := Query.eq_addText_of_insertHead inserted
      exact sameClauses_addText query rfl (by decide) text

theorem sameClauses_onConflictUpdate {query changed : Query} {conflict columns : List String}
    (updated : query.onConflictUpdate conflict columns = .ok changed) :
    SameClauses query changed := by
  obtain ⟨keyword, word, text, rfl⟩ := Query.eq_addText_of_onConflictUpdate updated
  have others : ∀ keyword ∈ ["on duplicate key update", "on conflict"],
      isSelectKeyword keyword = false ∧ keyword ∉ singleClauses := by decide
  exact sameClauses_addText query (others keyword word).1 (others keyword word).2 text

theorem sameClauses_onConflictDoNothing {query changed : Query} {conflict : List String}
    (updated : query.onConflictDoNothing conflict = .ok changed) : SameClauses query changed := by
  obtain ⟨text, rfl⟩ := Query.eq_addText_of_onConflictDoNothing updated
  exact sameClauses_addText query rfl (by decide) text

theorem run_resolveAll (operands : List Value) (query : Query) (workspace : Workspace) :
    ∃ ledger, (((Edit.resolveAll operands).run query).run workspace).1.2 =
      { query with ledger } := by
  induction operands generalizing query workspace with
  | nil => exact ⟨query.ledger, rfl⟩
  | cons operand rest ih =>
      obtain ⟨ledger, ran⟩ := ih (((Edit.resolve operand).run query).run workspace).1.2
        (((Edit.resolve operand).run query).run workspace).2
      exact ⟨ledger, ran⟩

theorem sameClauses_returning (columns : List Value) :
    Edit.Keeps SameClauses (Edit.returning columns) := by
  refine Edit.keeps_get_bind fun query => ?_
  split
  · exact fun _ _ => rfl
  · intro query workspace
    obtain ⟨ledger, ran⟩ := run_resolveAll columns query workspace
    refine (Query.clauses_insert_other _ rfl).trans ?_
    have same := congrArg Query.clauses ran
    exact same

theorem sameClauses_bind {α β : Type} {action : Edit α} {next : α → Edit β}
    (first : Edit.Keeps SameClauses action)
    (second : ∀ value, Edit.Keeps SameClauses (next value)) :
    Edit.Keeps SameClauses (action >>= next) :=
  fun query workspace => (second _ _ _).trans (first query workspace)

/-- A join starts no single clause, nor do its conditions. -/
theorem sameClauses_join (kind : JoinKind) (table : String) (label : Option String) {α : Type}
    {body : Edit α} (keeps : Edit.Keeps SameClauses body) :
    Edit.Keeps SameClauses (Edit.join kind table label body) := by
  intro query workspace
  rw [Edit.run_join]
  dsimp only
  split
  case isTrue => rfl
  case isFalse => exact (keeps _ workspace).trans (sameClauses_openJoin query kind _)

theorem sameClauses_lockForUpdate : Edit.Keeps SameClauses Edit.lockForUpdate := by
  refine sameClauses_bind (fun _ _ => rfl) fun supported => ?_
  split
  · exact fun query _ => Query.clauses_insert_other query rfl
  · exact fun _ _ => rfl

/-! ### Calls on a query at rest -/

section

variable {query : Query} {outline : Outline} (rest : query.cursor = none)
  (describes : outline.Describes query.clauses)

include describes in
/-- What leaves the single clauses alone asks for nothing. -/
theorem describes_of_same {action : Edit Report} (keeps : Edit.Keeps SameClauses action)
    (workspace : Workspace) :
    outline.Describes ((action.run query).run workspace).1.2.clauses := by
  have same : ((action.run query).run workspace).1.2.clauses = query.clauses :=
    keeps query workspace
  rw [same]
  exact describes

include rest describes in
/-- A term of a list, once it is compiled. -/
theorem describes_term (ledger : Ledger) {keyword : String} (single : keyword ∈ singleClauses)
    (other : isSelectKeyword keyword = false) (free : keyword ∉ heldClauses) (term : String) :
    ({ query with ledger }.addTerm keyword term).cursor = none ∧
      outline.Describes ({ query with ledger }.addTerm keyword term).clauses := by
  have calm : ({ query with ledger } : Query).cursor = none := rest
  have there : outline.Describes ({ query with ledger } : Query).clauses := describes
  exact ⟨(Query.KeepsRest.stable.addText _ _ term).cursor calm,
    Query.describes_addTerm calm there single other free term⟩

include rest describes in
/-- A select call, once its items are compiled. -/
theorem describes_selectCall (ledger : Ledger) (distinct : Bool) {items : List String}
    (notEmpty : items ≠ []) :
    (outline.select distinct items).Describes (({ query with ledger } : Query).add
      { keyword := Query.selectCallKeyword distinct, payload := some (.items items) }).clauses := by
  have calm : ({ query with ledger } : Query).cursor = none := rest
  exact Query.describes_select calm describes distinct notEmpty

include rest describes in
theorem describes_select (distinct : Bool) (columns : List Value) (workspace : Workspace) :
    (outline.select distinct (((Edit.items columns).run query).run workspace).1.1).Describes
      (((Edit.select distinct columns).run query).run workspace).1.2.clauses := by
  obtain ⟨ledger, ran⟩ := run_resolveAll columns query workspace
  have changed : (((Edit.items columns).run query).run workspace).1.2 = { query with ledger } := ran
  have notEmpty : (((Edit.items columns).run query).run workspace).1.1 ≠ [] := by
    change (if (((Edit.resolveAll columns).run query).run workspace).1.1.isEmpty then ["*"]
      else (((Edit.resolveAll columns).run query).run workspace).1.1) ≠ []
    split
    case isTrue => exact List.cons_ne_nil _ _
    case isFalse texts => simpa using texts
  change (outline.select distinct _).Describes
    ((((Edit.items columns).run query).run workspace).1.2.add
      { keyword := Query.selectCallKeyword distinct
        payload := some (.items (((Edit.items columns).run query).run workspace).1.1) }).clauses
  rw [changed]
  exact describes_selectCall rest describes ledger distinct notEmpty

include rest describes in
theorem describes_sourceQuery (nested : Query) (label : String) (workspace : Workspace) :
    { outline with
      source := some (callText "" nested.sql ++ " as " ++ query.escapePart label) }.Describes
      (((Edit.sourceQuery nested label).run query).run workspace).1.2.clauses := by
  have calm : ({ query with ledger := (query.ledger.embed nested).2 } : Query).cursor = none := rest
  exact Query.describes_source calm describes _

include rest describes in
theorem describes_values (row : List Value) (workspace : Workspace) :
    outline.Describes (((Edit.values row).run query).run workspace).1.2.clauses := by
  cases row with
  | nil => exact describes
  | cons value row =>
      obtain ⟨ledger, ran⟩ := run_resolveAll (value :: row) query workspace
      change outline.Describes
        ((((Edit.resolveAll (value :: row)).run query).run workspace).1.2.addTerm "values"
          _).clauses
      rw [ran]
      exact (describes_term rest describes ledger (by decide) rfl (by decide) _).2

include rest describes in
theorem describes_addTerms (clause : ListClause) (columns : List Value) (workspace : Workspace) :
    outline.Describes (((Edit.addTerms clause columns).run query).run workspace).1.2.clauses := by
  have words : clause.keyword ∈ singleClauses ∧ isSelectKeyword clause.keyword = false ∧
      clause.keyword ∉ heldClauses := by cases clause <;> decide
  induction columns generalizing query workspace with
  | nil => exact describes
  | cons column columns ih =>
      have added := describes_term rest describes
        (((Edit.resolve column).run query).run workspace).1.2.ledger words.1 words.2.1 words.2.2
        (((Edit.resolve column).run query).run workspace).1.1
      exact ih added.1 added.2 _

include rest describes in
/-- A step that leaves single clauses single is followed by the outline. -/
theorem call_describes {home : Connection} (step : Step) (orderly : step.isOrderly = true)
    (workspace : Workspace) :
    (step.outline home query workspace outline).Describes
      (((call home step).run query).run workspace).1.2.clauses := by
  have extended {step : Step} (stays : step.staysInGroup = true) :
      outline.Describes (((call home step).run query).run workspace).1.2.clauses :=
    ((call_addsConditions step stays).extends query workspace).describes rest describes
  have same {step : Step} (keeps : Edit.Keeps SameClauses (call home step)) :
      outline.Describes (((call home step).run query).run workspace).1.2.clauses :=
    describes_of_same describes keeps workspace
  match step with
  | .add _ | .replaceClause _ _ | .merge _ | .raw _ | .union _ _ => cases orderly
  | .addExpression _ _ _ _ | .addPredicate _ _ => cases orderly
  | .removeClause keyword =>
      exact Query.describes_removeClause describes (List.contains_iff_mem.1 orderly)
  | .parenthesis pull body => exact extended orderly
  | .conditionGroup connective body => exact extended orderly
  | .condition clause connective predicate => exact extended orderly
  | .filterIn negated lhs values => exact extended orderly
  | .filterByKey key => exact extended orderly
  | .filterByKeys rows => exact extended orderly
  | .filterHas relation body => exact extended rfl
  | .bindModel model => exact same fun _ _ => rfl
  | .view view => exact describes
  | .compileOperand draft => exact describes
  | .bindScalar value => exact describes
  | .compileExpr draft => exact describes
  | .copy kind name => exact describes
  | .fetch kind responses => exact describes
  | .select distinct columns => exact describes_select rest describes distinct _ _
  | .selectAs column label =>
      exact describes_selectCall rest describes _ false (List.cons_ne_nil _ _)
  | .selectRaw sql => exact Query.describes_select rest describes false (List.cons_ne_nil _ _)
  | .source table label => exact Query.describes_source rest describes _
  | .sourceQuery draft label => exact describes_sourceQuery rest describes _ label workspace
  | .limit count => exact Query.describes_limit rest describes count
  | .offset count => exact Query.describes_offset rest describes count
  | .paginate request =>
      have limited := Query.describes_limit rest describes request.clamp.perPage
      exact Query.describes_offset ((Query.KeepsRest.stable.setText query _ _).cursor rest) limited
        _
  | .join kind table label none =>
      exact same (sameClauses_bind (sameClauses_join kind table label fun _ _ => rfl)
        fun _ _ _ => rfl)
  | .join kind table label (some body) =>
      refine same (sameClauses_bind (sameClauses_join kind table label
        (runSteps_sameClauses body orderly)) fun reports => ?_)
      cases reports <;> exact fun _ _ => rfl
  | .addTerms clause columns => exact describes_addTerms rest describes clause _ _
  | .addOrder column descends =>
      exact (describes_term rest describes _ (by decide) rfl (by decide) _).2
  | .addOrderRaw sql => exact Query.describes_addTerm rest describes (by decide) rfl (by decide) sql
  | .addCommonTable isRecursive name draft =>
      exact same fun query workspace => sameClauses_addCommonTable _ _ _
  | .lockForUpdate => exact same (sameClauses_bind sameClauses_lockForUpdate fun _ _ _ => rfl)
  | .insertInto replaces table columns =>
      exact same (sameClauses_bind (sameClauses_attempt fun _ _ inserted =>
        sameClauses_insertInto inserted) fun _ _ _ => rfl)
  | .values row => exact describes_values rest describes _ _
  | .update table => exact same fun query _ => sameClauses_addText query rfl (by decide) _
  | .assign column value =>
      exact (describes_term rest describes _ (by decide) rfl (by decide) _).2
  | .assignRaw column sql =>
      exact Query.describes_addTerm rest describes (by decide) rfl (by decide) _
  | .deleteFrom table => exact same fun query _ => sameClauses_addText query rfl (by decide) _
  | .onConflictUpdate conflict columns =>
      exact same (sameClauses_bind (sameClauses_attempt fun _ _ updated =>
        sameClauses_onConflictUpdate updated) fun _ _ _ => rfl)
  | .onConflictDoNothing conflict =>
      exact same (sameClauses_bind (sameClauses_attempt fun _ _ updated =>
        sameClauses_onConflictDoNothing updated) fun _ _ _ => rfl)
  | .returning columns =>
      exact same (Edit.keeps_lift_bind fun workspace =>
        sameClauses_bind (sameClauses_returning _) fun _ _ _ => rfl)

end

end Script

namespace Outline.Describes

variable {query changed : Query} {outline : Outline}

/-- A query that was just made is empty, or selects all columns of a table. -/
theorem make (home : Connection) (origin : Origin) (workspace : Workspace) :
    (origin.outline home).Describes ((origin.make home).run workspace).1.clauses := by
  obtain ⟨connection, model, table⟩ := origin
  cases model with
  | some model => exact .nil
  | none =>
      cases table with
      | none => exact .nil
      | some table =>
          have made := Query.AtRest.new (connection.getD home) workspace
          have selected : Outline.Describes { selections := [(false, ["*"])] }
              ((Query.new (connection.getD home)).run workspace).1.selectAll.clauses :=
            Query.describes_select made.cursor .nil false (List.cons_ne_nil _ _)
          have rest := made.keeps (Query.KeepsRest.add _
            { keyword := "select", payload := some (.items ["*"]) })
          exact Query.describes_source rest.cursor selected _

/-- Without paging, what limits the rows is asked for no more. -/
theorem withoutPaging (describes : outline.Describes query.clauses) :
    { outline with limit := none, offset := none }.Describes query.withoutPaging.clauses := by
  have free (outline : Outline) (keyword : String) (other : isSelectKeyword keyword = false) :
      keyword ≠ outline.selectKeyword := by
    rintro rfl
    rw [Query.selectKeyword_isSelect] at other
    cases other
  have unlimited := Query.describes_removeClause describes (by decide : "limit" ∈ _)
  rw [Outline.remove, if_neg (free outline "limit" rfl)] at unlimited
  have unordered := Query.describes_removeClause unlimited (by decide : "order by" ∈ _)
  rw [Outline.remove, if_neg (free _ "order by" rfl)] at unordered
  have unpaged := Query.describes_removeClause unordered (by decide : "offset" ∈ _)
  rw [Outline.remove, if_neg (free _ "offset" rfl)] at unpaged
  exact unpaged

/-- A count by way of a nested query selects the number of its rows. -/
theorem totalCount {workspace : Workspace}
    (counted : (query.totalCountQuery.run workspace).1 = .ok changed) :
    Outline.Describes
      { selections := [(false, ["count(*)"])], source := countSource query workspace }
      changed.clauses := by
  obtain ⟨keyword, inner, asked, rows, rfl, -⟩ := Query.exists_of_totalCountQuery counted
  simp only [countSource, asked, rows]
  have made := Query.AtRest.new query.connection (query.clone.run workspace).2
  have selected : Outline.Describes { selections := [(false, ["count(*)"])] }
      ((query.fresh.run (query.clone.run workspace).2).1.selectRaw "count(*)").clauses :=
    Query.describes_select made.cursor .nil false (List.cons_ne_nil _ _)
  have single : "from" ∈ singleClauses := by decide
  exact Query.describes_insert (made.keeps (Query.KeepsRest.add _ _)).cursor selected single
    rfl rfl (.source _ _)

/-- A count selects one number from what the query selects from, or from the query. -/
theorem resultCount (describes : outline.Describes query.clauses) {workspace : Workspace}
    (counted : (query.resultCountQuery.run workspace).1 = .ok changed) :
    (CopyKind.outline query workspace outline .resultCount).Describes changed.clauses := by
  obtain ⟨keyword, selected, way⟩ := Query.exists_of_resultCountQuery counted
  rw [CopyKind.outline, selected, Except.toOption, Option.any]
  obtain ⟨inPlace, replaced, -⟩ | ⟨nested, same⟩ := way
  · rw [if_pos inPlace]
    have copied : outline.Describes (query.clone.run workspace).1.clauses := describes
    exact Query.describes_withSelectList copied.withoutPaging replaced
  · rw [nested, if_neg Bool.false_ne_true]
    rw [same] at counted
    exact totalCount counted

theorem copy (describes : outline.Describes query.clauses) (kind : CopyKind)
    {workspace : Workspace} (copied : ((kind.make query).run workspace).1 = .ok changed) :
    (kind.outline query workspace outline).Describes changed.clauses := by
  cases kind with
  | clone =>
      cases copied
      exact describes
  | fresh =>
      cases copied
      exact .nil
  | explain =>
      cases copied
      exact describes
  | resultCount => exact describes.resultCount copied
  | totalCount => exact totalCount copied

/-- Nothing but the clauses that a query has once matters to what it follows. -/
theorem isFollowed (describes : outline.Describes query.clauses) : query.Follows outline := by
  have within {clause : String} (single : clause ∈ singleClauses) (fragment : Fragment)
      (own : (fragment.clause == clause) = true) : fragment.isSingle = true := by
    rw [Fragment.isSingle, beq_iff_eq.1 own]
    exact List.contains_iff_mem.2 single
  have held {clause : String} (known : clause ∈ heldClauses) (single : clause ∈ singleClauses)
      {test : Fragment → Bool} (same : ∀ fragment, test fragment = (fragment.clause == clause)) :
      query.fragments.filter test = (outline.held clause).toList := by
    rw [← describes.held clause known, Query.clauses, List.filter_filter]
    refine List.filter_congr fun fragment _ => ?_
    rw [same, Bool.eq_iff_iff, Bool.and_eq_true, iff_self_and]
    exact within single fragment
  exact
    { single := fun clause single => by
        have once := List.nodup_iff_count_le_one.1 describes.single clause
        rw [List.count, List.countP_map, Query.clauses, List.countP_filter] at once
        refine le_trans (List.countP_mono_left fun fragment _ own => ?_) once
        exact Bool.and_eq_true_iff.2 ⟨own, within single fragment own⟩
      ordered := by
        have ordered := List.pairwise_filter.1 (List.pairwise_map.1 describes.ordered)
        refine ordered.imp fun {before after} apart => ?_
        rintro ⟨source, selects⟩
        have first : before.clause = "from" := Fragment.clause_of_keyword source rfl
        have second : after.clause = "select" := after.clause_eq_select.2 selects
        exact apart (within (by decide) before (beq_iff_eq.2 first))
          (within (by decide) after (beq_iff_eq.2 second)) ⟨first, second⟩
      selectList := held (by decide : "select" ∈ heldClauses) (by decide) fun fragment => by
        rw [Bool.eq_iff_iff, beq_iff_eq, fragment.clause_eq_select]
      source := held (by decide) (by decide) fun fragment => fragment.beq_clause rfl
      limit := held (by decide) (by decide) fun fragment => fragment.beq_clause rfl
      offset := held (by decide) (by decide) fun fragment => fragment.beq_clause rfl }

end Outline.Describes

namespace Query.Outlined

variable {query : Query} {outline : Outline}

theorem reachable (outlined : query.Outlined outline) : query.Reachable := by
  induction outlined with
  | made home origin workspace => exact .made home origin workspace
  | call home step workspace _ _ ih => exact .call home step workspace ih
  | copy kind workspace _ copied ih => exact .copy kind workspace ih copied

theorem describes (outlined : query.Outlined outline) : outline.Describes query.clauses := by
  induction outlined with
  | made home origin workspace => exact .make home origin workspace
  | call home step workspace orderly outlined ih =>
      exact call_describes outlined.reachable.atRest.cursor ih step orderly workspace
  | copy kind workspace _ copied ih => exact ih.copy kind copied

/--
However calls are mixed, a query has each single clause at most once, its select list in front of
its source, and there what the calls asked for since the clause was last removed.
-/
theorem follows (outlined : query.Outlined outline) : query.Follows outline :=
  outlined.describes.isFollowed

/-- Steps in a row are calls one after another. -/
theorem runSteps (home : Connection) {steps : List Step} (orderly : steps.all (·.isOrderly) = true)
    (workspace : Workspace) (outlined : query.Outlined outline) :
    (((Script.runSteps home steps).run query).run workspace).1.2.Outlined
      (Step.outlineAll home steps query workspace outline) := by
  induction steps generalizing query outline workspace with
  | nil => exact outlined
  | cons step rest ih =>
      rw [List.all_cons, Bool.and_eq_true] at orderly
      exact ih orderly.2 _ (.call home step workspace orderly.1 outlined)

/-- The star gives way, the limit is removed again, and joins and conditions do not matter. -/
theorem follows_distinct :
    let home : Connection := .ofConfig {}
    let query : Query := ((Origin.make home { table := some "users" }).run {}).1
    let steps : List Step :=
      [.conditionGroup .and [.condition .filter .or (.single (.column "active"))],
        .limit 5, .select true [.column "id"],
        .join .left "teams" none (some [.condition .join .and (.single (.raw "1"))]),
        .select false [.column "id", .column "name"], .removeClause "limit", .offset 3]
    let outline : Outline :=
      { selections := [(false, ["*"]), (true, ["\"id\""]), (false, ["\"id\"", "\"name\""])]
        source := some "\"users\"", offset := some "3" }
    let changed : Query := (((Script.runSteps home steps).run query).run {}).1.2
    changed.Outlined outline ∧ changed.Follows outline := by
  intro home query steps outline changed
  have made : query.Outlined _ := .made home { table := some "users" } {}
  have asked : Step.outlineAll home steps query {}
      (Origin.outline home { table := some "users" }) = outline := by decide +kernel
  have orderly : steps.all (·.isOrderly) = true := by decide +kernel
  have outlined : changed.Outlined _ := made.runSteps home orderly {}
  rw [asked] at outlined
  exact ⟨outlined, outlined.follows⟩

end Query.Outlined

end SqlBuilder
