import SqlBuilder.Script.Run

/-!
# What builder calls keep

A relation between a query before and after a call that every primitive change respects is
respected by every builder call, with whatever callbacks and user-defined expressions.
`Query.Stable` lists the primitive changes, and `Script.call_keeps_of_removals` is the induction over
steps that all such facts share. Removals are apart: a relation that they do not respect is kept by
the calls that remove nothing, neither themselves nor in what they run on the query.

Groups and joins are not primitive: they set the state up for their callback and restore it
afterwards, so their fields speak of the query in which the callback ran.
-/

namespace SqlBuilder

/-- The query in which the callback of a condition group runs. -/
def Query.openGroup (query : Query) (connective : Connective) : Query :=
  { query with
    pending := if connective = Connective.or then some Connective.or else query.pending
  }.insertToken "("

/-- The query behind a condition group whose callback ended with `inside`. -/
def Query.closeConditionGroup (query inside : Query) (connective : Connective) : Query :=
  let closed := inside.closeGroup true query.insertionPoint
    (query.openGroup connective).fragments.length
  { closed with
    pending := if closed.fragments.length = query.fragments.length then query.pending else none }

namespace Edit

variable {α β : Type} {related : Query → Query → Prop}

/-- Whether a step ends with a query that is related to the one before. -/
def Keeps (related : Query → Query → Prop) (action : Edit α) : Prop :=
  ∀ query workspace, related query ((action.run query).run workspace).1.2

/-- Parentheses as a change of the query around the callback. -/
theorem run_parenthesis (pull : Bool) (body : Edit α) (query : Query) (workspace : Workspace) :
    ((parenthesis pull body).run query).run workspace =
      let out := (body.run (query.insertToken "(")).run workspace
      ((out.1.1, out.1.2.closeGroup pull query.insertionPoint
        (query.insertToken "(").fragments.length), out.2) := rfl

/-- A condition group as a change of the query around the callback. -/
theorem run_conditionGroup (connective : Connective) (body : Edit α) (query : Query)
    (workspace : Workspace) :
    ((conditionGroup connective body).run query).run workspace =
      let out := (body.run (query.openGroup connective)).run workspace
      ((out.1.1, query.closeConditionGroup out.1.2 connective), out.2) := by
  cases connective <;> rfl

/-- A join as a change of the query around its callback. -/
theorem run_join (kind : JoinKind) (table : String) (label : Option String) (body : Edit α)
    (query : Query) (workspace : Workspace) :
    ((join kind table label body).run query).run workspace =
      let target := query.escapeAs table label
      if query.isJoined target then ((none, query), workspace)
      else
        let out := (body.run (query.openJoin kind target)).run workspace
        ((some out.1.1, out.1.2.closeJoin query),
          out.2.abortIf (out.1.2.lostFragments query)) := by
  change ((if query.isJoined (query.escapeAs table label) then (return none : Edit (Option α))
    else do
      set (query.openJoin kind (query.escapeAs table label))
      let result ← body.keeping query
      modify (·.closeJoin query)
      return some result).run query).run workspace = _
  dsimp only
  split <;> rfl

/-- A call that may fail changes the query, or leaves it alone and reports the error. -/
theorem run_attempt (call : Query → Except QueryError Query) (query : Query)
    (workspace : Workspace) :
    (∃ changed, call query = .ok changed ∧
      ((attempt call).run query).run workspace = ((.ok (), changed), workspace)) ∨
    ∃ error, call query = .error error ∧
      ((attempt call).run query).run workspace = ((.error error, query), workspace) := by
  cases result : call query with
  | ok changed =>
      refine .inl ⟨changed, rfl, ?_⟩
      simp [attempt, result]
      rfl
  | error error =>
      refine .inr ⟨error, rfl, ?_⟩
      simp [attempt, result]
      rfl

theorem keeps_modify {change : Query → Query} (keeps : ∀ query, related query (change query)) :
    Keeps related (modify change : Edit PUnit) :=
  fun query _ => keeps query

theorem keeps_lift_bind {action : Session α} {next : α → Edit β}
    (second : ∀ workspace, Keeps related (next (action.run workspace).1)) :
    Keeps related ((liftM action : Edit α) >>= next) :=
  fun query workspace => second workspace query (action.run workspace).2

theorem keeps_get_bind {next : Query → Edit β} (second : ∀ query, Keeps related (next query)) :
    Keeps related (get >>= next) :=
  fun query workspace => second query query workspace

end Edit

/-- Whether the steps of the user-defined expression that an operand is end with related queries. -/
def Operand.HooksKeep (related : Query → Query → Prop) (operand : Value) : Prop :=
  ∀ custom, operand.custom? = some custom →
    Edit.Keeps related custom.before ∧ Edit.Keeps related custom.after

/-- Whether the steps of a predicate's user-defined expressions end with related queries. -/
def Predicate.HooksKeep (related : Query → Query → Prop)
    (predicate : Predicate Query CustomExpr) : Prop :=
  ∀ operand ∈ predicate.operands, operand.HooksKeep related

theorem Predicate.HooksKeep.of_mem_customs {related : Query → Query → Prop}
    {predicate : Predicate Query CustomExpr} (hooks : predicate.HooksKeep related)
    {custom : CustomExpr} (mem : custom ∈ predicate.customs) :
    Edit.Keeps related custom.before ∧ Edit.Keeps related custom.after := by
  obtain ⟨operand, operand_mem, isCustom⟩ := List.mem_filterMap.1 mem
  exact hooks operand operand_mem custom isCustom

/-- A relation that the primitive changes of a query respect, removals apart. -/
structure Query.Additive (related : Query → Query → Prop) : Prop where
  refl (query : Query) : related query query
  trans {first second third : Query} :
    related first second → related second third → related first third
  ledger (query : Query) (ledger : Ledger) : related query { query with ledger }
  model (query : Query) (model : Option Model) : related query { query with model }
  add (query : Query) (fragment : Fragment) : related query (query.add fragment)
  insert (query : Query) (fragment : Fragment) : related query (query.insert fragment)
  alter (query : Query) (place : Nat) (change : Fragment → Fragment) :
    related query { query with fragments := query.fragments.modify place change }
  addCommonTable (query : Query) (isRecursive : Bool) (text : String) :
    related query (query.addCommonTable isRecursive text)
  nextKeyword (query : Query) (clause : ConditionClause) (connective : Connective) :
    related query (query.nextKeyword clause connective).2
  group (pull : Bool) {query inside : Query} : related (query.insertToken "(") inside →
    related query (inside.closeGroup pull query.insertionPoint
      (query.insertToken "(").fragments.length)
  conditionGroup (connective : Connective) {query inside : Query} :
    related (query.openGroup connective) inside →
    related query (query.closeConditionGroup inside connective)
  join (kind : JoinKind) (target : String) {query inside : Query} :
    related (query.openJoin kind target) inside → related query (inside.closeJoin query)

/-- A relation that the primitive changes of a query respect. -/
structure Query.Stable (related : Query → Query → Prop) : Prop extends Query.Additive related where
  removeClause (query : Query) (keyword : String) : related query (query.removeClause keyword)

/-! ### Mutations that succeed add one text -/

namespace Query

variable {query changed : Query} {keyword table : String} {columns conflict : List String}

theorem eq_addText_of_insertHead (inserted : query.insertHead keyword table columns = .ok changed) :
    ∃ text, changed = query.addText keyword text := by
  unfold insertHead at inserted
  split at inserted
  · cases inserted
  · cases inserted
    exact ⟨_, rfl⟩

theorem eq_addText_of_replaceInto (inserted : query.replaceInto table columns = .ok changed) :
    ∃ text, changed = query.addText "replace into" text := by
  unfold replaceInto ensure at inserted
  split at inserted
  · exact eq_addText_of_insertHead inserted
  · cases inserted

theorem eq_addText_of_onConflictUpdate
    (updated : query.onConflictUpdate conflict columns = .ok changed) :
    ∃ keyword ∈ ["on duplicate key update", "on conflict"],
      ∃ text, changed = query.addText keyword text := by
  unfold onConflictUpdate ensure at updated
  dsimp only at updated
  split at updated
  · cases updated
  · split at updated
    · cases updated
      exact ⟨_, List.mem_cons_self, _, rfl⟩
    · split at updated
      · simp only [bind, Except.bind] at updated
        split at updated
        · cases updated
        · cases updated
          exact ⟨_, List.mem_cons_of_mem _ List.mem_cons_self, _, rfl⟩
      · cases updated

theorem eq_addText_of_onConflictDoNothing
    (updated : query.onConflictDoNothing conflict = .ok changed) :
    ∃ text, changed = query.addText "on conflict" text := by
  unfold onConflictDoNothing ensure at updated
  split at updated
  · cases updated
    exact ⟨_, rfl⟩
  · cases updated

end Query

namespace Query.Additive

variable {α β : Type} {related : Query → Query → Prop} (additive : Query.Additive related)

include additive

theorem keeps_pure (value : α) : Edit.Keeps related (pure value) :=
  fun query _ => additive.refl query

theorem keeps_bind {action : Edit α} {next : α → Edit β} (first : Edit.Keeps related action)
    (second : ∀ value, Edit.Keeps related (next value)) :
    Edit.Keeps related (action >>= next) := fun query workspace =>
  additive.trans (first query workspace)
    (second _ ((action.run query).run workspace).1.2 ((action.run query).run workspace).2)

theorem keeps_lift (action : Session α) :
    Edit.Keeps related (liftM action : Edit α) :=
  fun query _ => additive.refl query

theorem keeps_compiling (action : Connection → Compile α) :
    Edit.Keeps related (Edit.compiling action) :=
  fun query _ => additive.ledger query _

theorem keeps_resolveAll (operands : List Value) :
    Edit.Keeps related (Edit.resolveAll operands) := by
  induction operands with
  | nil => exact additive.keeps_pure _
  | cons operand rest ih =>
      exact additive.keeps_bind (additive.keeps_compiling _) fun _ =>
        additive.keeps_bind ih fun _ => additive.keeps_pure _

/-! ### Changes made of primitive ones -/

theorem addText (query : Query) (keyword text : String) :
    related query (query.addText keyword text) :=
  additive.add query _

theorem setText (query : Query) (keyword text : String) :
    related query (query.setText keyword text) := by
  unfold Query.setText
  split
  · exact additive.alter query _ _
  · exact additive.addText query keyword text

theorem merge (query other : Query) : related query (query.merge other) := by
  have joined : ∀ (fragments : List Fragment) (query : Query),
      related query (fragments.foldl Query.insert query) := by
    intro fragments
    induction fragments with
    | nil => exact additive.refl
    | cons fragment rest ih =>
        intro query
        exact additive.trans (additive.insert query fragment) (ih _)
  exact additive.trans (joined other.fragments query) (additive.ledger _ _)

theorem union (query : Query) (keepsDuplicates : Bool) (other : Query) :
    related query (query.union keepsDuplicates other) :=
  additive.trans (additive.insert query _) (additive.merge _ other)

theorem paginate (query : Query) (request : PageRequest) :
    related query (query.paginate request) :=
  additive.trans (additive.setText query _ _) (additive.setText _ _ _)

theorem replaceClause {query changed : Query} {keyword : String} {change : Fragment → Fragment}
    (replaced : query.replaceClause keyword change = .ok changed) : related query changed := by
  unfold Query.replaceClause at replaced
  split at replaced
  · simp at replaced
  · simp only [Except.ok.injEq] at replaced
    subst replaced
    exact additive.alter query _ _

theorem insertHead {query changed : Query} {keyword table : String} {columns : List String}
    (inserted : query.insertHead keyword table columns = .ok changed) : related query changed := by
  obtain ⟨text, rfl⟩ := eq_addText_of_insertHead inserted
  exact additive.addText query keyword text

theorem replaceInto {query changed : Query} {table : String} {columns : List String}
    (inserted : query.replaceInto table columns = .ok changed) : related query changed := by
  obtain ⟨text, rfl⟩ := eq_addText_of_replaceInto inserted
  exact additive.addText query _ text

theorem onConflictUpdate {query changed : Query} {conflict columns : List String}
    (updated : query.onConflictUpdate conflict columns = .ok changed) : related query changed := by
  obtain ⟨keyword, -, text, rfl⟩ := eq_addText_of_onConflictUpdate updated
  exact additive.addText query keyword text

theorem onConflictDoNothing {query changed : Query} {conflict : List String}
    (updated : query.onConflictDoNothing conflict = .ok changed) : related query changed := by
  obtain ⟨text, rfl⟩ := eq_addText_of_onConflictDoNothing updated
  exact additive.addText query _ text

/-! ### Steps that change one query -/

theorem keeps_attempt {call : Query → Except QueryError Query}
    (keeps : ∀ query changed, call query = .ok changed → related query changed) :
    Edit.Keeps related (Edit.attempt call) := by
  intro query workspace
  obtain ⟨changed, result, ran⟩ | ⟨error, -, ran⟩ := Edit.run_attempt call query workspace
  · rw [ran]
    exact keeps query changed result
  · rw [ran]
    exact additive.refl query

theorem keeps_parenthesis (pull : Bool) {body : Edit α} (keeps : Edit.Keeps related body) :
    Edit.Keeps related (Edit.parenthesis pull body) :=
  fun query workspace => additive.group pull (keeps (query.insertToken "(") workspace)

theorem keeps_conditionGroup (connective : Connective) {body : Edit α}
    (keeps : Edit.Keeps related body) :
    Edit.Keeps related (Edit.conditionGroup connective body) := by
  intro query workspace
  rw [Edit.run_conditionGroup]
  exact additive.conditionGroup connective (keeps (query.openGroup connective) workspace)

theorem keeps_join (kind : JoinKind) (table : String) (label : Option String) {body : Edit α}
    (keeps : Edit.Keeps related body) : Edit.Keeps related (Edit.join kind table label body) := by
  intro query workspace
  rw [Edit.run_join]
  dsimp only
  split
  · exact additive.refl query
  · exact additive.join kind _ (keeps (query.openJoin kind _) workspace)

theorem keeps_runAll {steps : List (Edit Unit)}
    (keeps : ∀ step ∈ steps, Edit.Keeps related step) :
    Edit.Keeps related (Edit.runAll steps) := by
  induction steps with
  | nil => exact additive.keeps_pure _
  | cons step rest ih =>
      exact additive.keeps_bind (keeps step (by simp)) fun _ =>
        ih fun step mem => keeps step (by simp [mem])

theorem keeps_addPredicate {predicate : Predicate Query CustomExpr}
    (hooks : predicate.HooksKeep related) (keyword : String) :
    Edit.Keeps related (Edit.addPredicate keyword predicate) := by
  refine additive.keeps_bind (additive.keeps_runAll ?_) fun _ =>
    additive.keeps_bind (additive.keeps_compiling _) fun text =>
      additive.keeps_bind (Edit.keeps_modify fun query => additive.addText query keyword text) fun _ =>
        additive.keeps_runAll ?_
  · intro step mem
    obtain ⟨custom, custom_mem, rfl⟩ := List.mem_map.1 mem
    exact (hooks.of_mem_customs custom_mem).1
  · intro step mem
    obtain ⟨custom, custom_mem, rfl⟩ := List.mem_map.1 mem
    exact (hooks.of_mem_customs custom_mem).2

theorem keeps_condition {predicate : Predicate Query CustomExpr}
    (hooks : predicate.HooksKeep related) (clause : ConditionClause) (connective : Connective) :
    Edit.Keeps related (Edit.condition clause connective predicate) :=
  additive.keeps_bind (fun query _ => additive.nextKeyword query clause connective) fun keyword =>
    additive.keeps_addPredicate hooks keyword

theorem keeps_filterIn (negated : Bool) {lhs : Value} (hooks : lhs.HooksKeep related)
    (values : List Value) : Edit.Keeps related (Edit.filterIn negated lhs values) := by
  unfold Edit.filterIn
  split
  · exact additive.keeps_condition (by rintro _ (_ | ⟨_, ⟨⟩⟩) _ ⟨⟩) _ _
  · refine additive.keeps_condition ?_ _ _
    rintro operand mem
    simp only [Predicate.inList, Predicate.operands, List.mem_cons, List.not_mem_nil,
      or_false] at mem
    rcases mem with rfl | rfl
    · exact hooks
    · rintro _ ⟨⟩

theorem keeps_addExpression (keyword : String) {lhs rhs : Option Value}
    (hooksLhs : ∀ operand ∈ lhs, operand.HooksKeep related)
    (hooksRhs : ∀ operand ∈ rhs, operand.HooksKeep related) (comparator : Option String) :
    Edit.Keeps related (Edit.addExpression keyword lhs comparator rhs) := by
  unfold Edit.addExpression
  split
  · refine additive.keeps_bind (additive.keeps_addPredicate ?_ _) fun _ => additive.keeps_pure _
    simpa [Predicate.HooksKeep, Predicate.operands] using hooksLhs
  · refine additive.keeps_bind (additive.keeps_addPredicate ?_ _) fun _ => additive.keeps_pure _
    simpa [Predicate.HooksKeep, Predicate.operands] using
      And.intro (hooksLhs _ rfl) (hooksRhs _ rfl)
  · refine additive.keeps_bind (additive.keeps_addPredicate ?_ _) fun _ => additive.keeps_pure _
    simpa [Predicate.HooksKeep, Predicate.operands] using
      And.intro (hooksLhs _ rfl) (hooksRhs _ rfl)
  · exact additive.keeps_pure _
  · exact additive.keeps_pure _

theorem keeps_keyConditions (keys : List String) {values : List Value}
    (hooks : ∀ value ∈ values, value.HooksKeep related) :
    Edit.Keeps related (Edit.keyConditions keys values) := by
  induction keys generalizing values with
  | nil => exact additive.keeps_pure _
  | cons key keys ih =>
      cases values with
      | nil => exact additive.keeps_pure _
      | cons value values =>
          simp only [List.mem_cons, forall_eq_or_imp] at hooks
          refine additive.keeps_bind (additive.keeps_condition ?_ _ _) fun _ => ih hooks.2
          rintro operand mem
          simp only [Predicate.operands, List.mem_cons, List.not_mem_nil, or_false] at mem
          rcases mem with rfl | rfl
          · rintro _ ⟨⟩
          · exact hooks.1

theorem keeps_filterByKey {values : List Value}
    (hooks : ∀ value ∈ values, value.HooksKeep related) :
    Edit.Keeps related (Edit.filterByKey values) := by
  refine Edit.keeps_get_bind fun query => ?_
  split
  · exact additive.keeps_pure _
  · split
    · exact additive.keeps_pure _
    · exact additive.keeps_bind (additive.keeps_keyConditions _ hooks) fun _ => additive.keeps_pure _

theorem keeps_furtherKeys (columns : List String) {rows : List (List Value)}
    (hooks : ∀ row ∈ rows, ∀ value ∈ row, value.HooksKeep related) :
    Edit.Keeps related (Edit.furtherKeys columns rows) := by
  induction rows with
  | nil => exact additive.keeps_pure _
  | cons row rest ih =>
      simp only [List.mem_cons, forall_eq_or_imp] at hooks
      exact additive.keeps_bind
        (additive.keeps_conditionGroup .or (additive.keeps_keyConditions columns hooks.1)) fun _ =>
          ih hooks.2

theorem keeps_keyGroup (columns : List String) {rows : List (List Value)}
    (hooks : ∀ row ∈ rows, ∀ value ∈ row, value.HooksKeep related) :
    Edit.Keeps related (Edit.keyGroup columns rows) := by
  cases rows with
  | nil => exact additive.keeps_pure _
  | cons row rest =>
      simp only [List.mem_cons, forall_eq_or_imp] at hooks
      exact additive.keeps_bind
        (additive.keeps_conditionGroup .and (additive.keeps_keyConditions columns hooks.1)) fun _ =>
          additive.keeps_furtherKeys columns hooks.2

theorem keeps_filterByKeys {rows : List (List Value)}
    (hooks : ∀ row ∈ rows, ∀ value ∈ row, value.HooksKeep related) :
    Edit.Keeps related (Edit.filterByKeys rows) := by
  refine Edit.keeps_get_bind fun query => ?_
  split
  · exact additive.keeps_pure _
  · split
    · exact additive.keeps_pure _
    · split
      · exact additive.keeps_bind (additive.keeps_condition (by rintro _ (_ | ⟨_, ⟨⟩⟩) _ ⟨⟩) _ _)
          fun _ => additive.keeps_pure _
      · exact additive.keeps_bind (additive.keeps_filterIn false (by rintro _ ⟨⟩) _) fun _ =>
          additive.keeps_pure _
      · exact additive.keeps_bind
          (additive.keeps_conditionGroup .and (additive.keeps_keyGroup _ hooks)) fun _ =>
            additive.keeps_pure _

/-- The callback works on the query of the related rows, so only the condition counts. -/
theorem keeps_filterHas (name : String) (body : Edit α) :
    Edit.Keeps related (Edit.filterHas name body) := by
  refine Edit.keeps_get_bind fun query => ?_
  split
  · exact additive.keeps_pure _
  · refine Edit.keeps_lift_bind fun workspace => Edit.keeps_lift_bind fun workspace => ?_
    exact additive.keeps_bind (additive.keeps_condition (by rintro _ (_ | ⟨_, ⟨⟩⟩) _ ⟨⟩) _ _)
      fun _ => additive.keeps_pure _

theorem keeps_items (columns : List Value) : Edit.Keeps related (Edit.items columns) :=
  additive.keeps_bind (additive.keeps_resolveAll columns) fun _ => additive.keeps_pure _

theorem keeps_select (distinct : Bool) (columns : List Value) :
    Edit.Keeps related (Edit.select distinct columns) :=
  additive.keeps_bind (additive.keeps_items columns) fun _ =>
    Edit.keeps_modify fun query => additive.add query _

theorem keeps_selectAs (column : Value) (label : String) :
    Edit.Keeps related (Edit.selectAs column label) :=
  additive.keeps_bind (additive.keeps_compiling _) fun _ =>
    Edit.keeps_modify fun query => additive.add query _

theorem keeps_sourceQuery (nested : Query) (label : String) :
    Edit.Keeps related (Edit.sourceQuery nested label) :=
  additive.keeps_bind (additive.keeps_compiling _) fun _ =>
    Edit.keeps_modify fun query => additive.setText query _ _

theorem keeps_addTerms (clause : ListClause) (columns : List Value) :
    Edit.Keeps related (Edit.addTerms clause columns) := by
  induction columns with
  | nil => exact additive.keeps_pure _
  | cons column rest ih =>
      exact additive.keeps_bind (additive.keeps_compiling _) fun _ =>
        additive.keeps_bind (Edit.keeps_modify fun query => additive.addText query _ _) fun _ => ih

theorem keeps_addOrder (column : Value) (descends : Bool) :
    Edit.Keeps related (Edit.addOrder column descends) :=
  additive.keeps_bind (additive.keeps_compiling _) fun _ =>
    Edit.keeps_modify fun query => additive.addText query _ _

theorem keeps_addCommonTable (isRecursive : Bool) (name : String) (nested : Query) :
    Edit.Keeps related (Edit.addCommonTable isRecursive name nested) :=
  additive.keeps_bind (additive.keeps_compiling _) fun _ =>
    Edit.keeps_modify fun query => additive.addCommonTable query isRecursive _

theorem keeps_lockForUpdate : Edit.Keeps related Edit.lockForUpdate := by
  refine additive.keeps_bind (additive.keeps_compiling _) fun supported => ?_
  split
  · exact Edit.keeps_modify fun query => additive.insert query _
  · exact additive.keeps_pure _

theorem keeps_values (row : List Value) : Edit.Keeps related (Edit.values row) := by
  unfold Edit.values
  split
  · exact additive.keeps_pure _
  · exact additive.keeps_bind (additive.keeps_resolveAll row) fun _ =>
      additive.keeps_bind (Edit.keeps_modify fun query => additive.addText query _ _) fun _ =>
        additive.keeps_pure _

theorem keeps_assign (column value : Value) : Edit.Keeps related (Edit.assign column value) :=
  additive.keeps_bind (additive.keeps_compiling _) fun _ =>
    additive.keeps_bind (additive.keeps_compiling _) fun _ =>
      Edit.keeps_modify fun query => additive.addText query _ _

theorem keeps_returning (columns : List Value) :
    Edit.Keeps related (Edit.returning columns) := by
  refine Edit.keeps_get_bind fun query => ?_
  split
  · exact additive.keeps_pure _
  · exact additive.keeps_bind (additive.keeps_resolveAll columns) fun _ =>
      additive.keeps_bind (Edit.keeps_modify fun query => additive.insert query _) fun _ =>
        additive.keeps_pure _

end Query.Additive

namespace Script

mutual

/-- The keywords of the clauses that a step removes from its query, be it in a callback or in the
steps of a user-defined expression. -/
def Step.removals : Step → List String
  | .removeClause keyword => [keyword]
  | .parenthesis _ body | .conditionGroup _ body | .join _ _ _ (some body) => removalsAll body
  | .condition _ _ predicate | .addPredicate _ predicate => predicateRemovals predicate
  | .filterIn _ lhs _ => draftRemovals lhs
  | .addExpression _ lhs _ rhs => optionRemovals lhs ++ optionRemovals rhs
  | .filterByKey values => allRemovals values
  | .filterByKeys rows => rowsRemovals rows
  | _ => []

/-- The keywords of the clauses that steps remove in a row. -/
def removalsAll : List Step → List String
  | [] => []
  | step :: rest => step.removals ++ removalsAll rest

/-- The keywords of the clauses that the steps of an operand remove. -/
def draftRemovals : Operand QueryDraft CustomDraft → List String
  | .custom custom => customRemovals custom
  | _ => []

/-- The keywords of the clauses that the steps of a user-defined expression remove. -/
def customRemovals : CustomDraft → List String
  | .mk _ _ before after => removalsAll before ++ removalsAll after

/-- The keywords of the clauses that the steps of an operand remove, if there is one. -/
def optionRemovals : Option (Operand QueryDraft CustomDraft) → List String
  | none => []
  | some draft => draftRemovals draft

/-- The keywords of the clauses that the steps of operands remove. -/
def allRemovals : List (Operand QueryDraft CustomDraft) → List String
  | [] => []
  | draft :: rest => draftRemovals draft ++ allRemovals rest

/-- The keywords of the clauses that the steps of rows of operands remove. -/
def rowsRemovals : List (List (Operand QueryDraft CustomDraft)) → List String
  | [] => []
  | row :: rest => allRemovals row ++ rowsRemovals rest

/-- The keywords of the clauses that the steps of a predicate's operands remove. -/
def predicateRemovals : Predicate QueryDraft CustomDraft → List String
  | .single operand => draftRemovals operand
  | .pair lhs rhs | .compare lhs _ rhs => draftRemovals lhs ++ draftRemovals rhs

end

/-- Whether a relation is respected when any of some clauses is removed. -/
def KeepsRemovals (related : Query → Query → Prop) (keywords : List String) : Prop :=
  ∀ keyword ∈ keywords, ∀ query : Query, related query (query.removeClause keyword)

variable {related : Query → Query → Prop}

theorem KeepsRemovals.of_append {first second : List String}
    (removes : KeepsRemovals related (first ++ second)) :
    KeepsRemovals related first ∧ KeepsRemovals related second :=
  List.forall_mem_append.1 removes

mutual

theorem operand_hooksKeep (additive : Query.Additive related) (home : Connection)
    (workspace : Workspace) (draft : Draft)
    (removes : KeepsRemovals related (draftRemovals draft)) :
    ((buildOperand home draft).run workspace).1.HooksKeep related := by
  match draft with
  | .custom (.mk parts suppliesComparator before after) =>
      rintro custom ⟨⟩
      have removes : KeepsRemovals related (removalsAll before ++ removalsAll after) := removes
      have first (home : Connection) :=
        runSteps_keeps_of_removals additive home before removes.of_append.1
      have last (home : Connection) :=
        runSteps_keeps_of_removals additive home after removes.of_append.2
      exact ⟨fun query => first query.connection query, fun query => last query.connection query⟩
  | .column _ => rintro _ ⟨⟩
  | .raw _ => rintro _ ⟨⟩
  | .scalar _ => rintro _ ⟨⟩
  | .backing _ => rintro _ ⟨⟩
  | .expr _ => rintro _ ⟨⟩
  | .query _ => rintro _ ⟨⟩

theorem all_hooksKeep (additive : Query.Additive related) (home : Connection)
    (workspace : Workspace) (drafts : List Draft)
    (removes : KeepsRemovals related (allRemovals drafts)) :
    ∀ value ∈ ((buildAll home drafts).run workspace).1, value.HooksKeep related := by
  match drafts with
  | [] => rintro _ ⟨⟩
  | draft :: rest =>
      have removes : KeepsRemovals related (draftRemovals draft ++ allRemovals rest) := removes
      have first := operand_hooksKeep additive home workspace draft removes.of_append.1
      have others := all_hooksKeep additive home ((buildOperand home draft).run workspace).2 rest
        removes.of_append.2
      rintro value mem
      rcases List.mem_cons.1 mem with rfl | mem
      · exact first
      · exact others value mem

theorem rows_hooksKeep (additive : Query.Additive related) (home : Connection)
    (workspace : Workspace) (rows : List (List Draft))
    (removes : KeepsRemovals related (rowsRemovals rows)) :
    ∀ row ∈ ((buildRows home rows).run workspace).1, ∀ value ∈ row, value.HooksKeep related := by
  match rows with
  | [] => rintro _ ⟨⟩
  | drafts :: rest =>
      have removes : KeepsRemovals related (allRemovals drafts ++ rowsRemovals rest) := removes
      have first := all_hooksKeep additive home workspace drafts removes.of_append.1
      have others := rows_hooksKeep additive home ((buildAll home drafts).run workspace).2 rest
        removes.of_append.2
      rintro row mem
      rcases List.mem_cons.1 mem with rfl | mem
      · exact first
      · exact others row mem

theorem option_hooksKeep (additive : Query.Additive related) (home : Connection)
    (workspace : Workspace) (draft : Option Draft)
    (removes : KeepsRemovals related (optionRemovals draft)) :
    ∀ value ∈ ((buildOption home draft).run workspace).1, value.HooksKeep related := by
  match draft with
  | none => rintro _ ⟨⟩
  | some draft =>
      have built := operand_hooksKeep additive home workspace draft removes
      rintro _ ⟨⟩
      exact built

theorem predicate_hooksKeep (additive : Query.Additive related) (home : Connection)
    (workspace : Workspace) (predicate : PredicateDraft)
    (removes : KeepsRemovals related (predicateRemovals predicate)) :
    ((buildPredicate home predicate).run workspace).1.HooksKeep related := by
  match predicate with
  | .single operand =>
      have built := operand_hooksKeep additive home workspace operand removes
      rintro operand (_ | ⟨_, ⟨⟩⟩)
      exact built
  | .pair lhs rhs =>
      have removes : KeepsRemovals related (draftRemovals lhs ++ draftRemovals rhs) := removes
      have first := operand_hooksKeep additive home workspace lhs removes.of_append.1
      have second := operand_hooksKeep additive home ((buildOperand home lhs).run workspace).2 rhs
        removes.of_append.2
      rintro operand (_ | ⟨_, _ | ⟨_, ⟨⟩⟩⟩)
      · exact first
      · exact second
  | .compare lhs _ rhs =>
      have removes : KeepsRemovals related (draftRemovals lhs ++ draftRemovals rhs) := removes
      have first := operand_hooksKeep additive home workspace lhs removes.of_append.1
      have second := operand_hooksKeep additive home ((buildOperand home lhs).run workspace).2 rhs
        removes.of_append.2
      rintro operand (_ | ⟨_, _ | ⟨_, ⟨⟩⟩⟩)
      · exact first
      · exact second

/-- A builder call ends with a related query, if what it removes does. -/
theorem call_keeps_of_removals (additive : Query.Additive related) (home : Connection) (step : Step)
    (removes : KeepsRemovals related step.removals) :
    Edit.Keeps related (call home step) := by
  match step with
  | .add fragment =>
      exact additive.keeps_bind (Edit.keeps_modify fun query => additive.add query fragment)
        fun _ => additive.keeps_pure _
  | .removeClause keyword =>
      exact additive.keeps_bind (Edit.keeps_modify (removes keyword List.mem_cons_self))
        fun _ => additive.keeps_pure _
  | .replaceClause keyword replacement =>
      refine Edit.keeps_get_bind fun query => ?_
      split
      · exact additive.keeps_bind
          (additive.keeps_attempt fun _ _ replaced => additive.replaceClause replaced)
          fun _ => additive.keeps_pure _
      · exact additive.keeps_pure _
  | .merge draft =>
      exact Edit.keeps_lift_bind fun _ =>
        additive.keeps_bind (Edit.keeps_modify fun query => additive.merge query _)
          fun _ => additive.keeps_pure _
  | .parenthesis pull body =>
      have inside := runSteps_keeps_of_removals additive home body removes
      exact additive.keeps_bind (additive.keeps_parenthesis pull inside) fun _ => additive.keeps_pure _
  | .raw sql =>
      exact additive.keeps_bind (Edit.keeps_modify fun query => additive.insert query _)
        fun _ => additive.keeps_pure _
  | .bindModel model =>
      exact additive.keeps_bind (Edit.keeps_modify fun query => additive.model query _)
        fun _ => additive.keeps_pure _
  | .view view => exact Edit.keeps_get_bind fun _ => additive.keeps_pure _
  | .compileOperand draft =>
      exact Edit.keeps_lift_bind fun _ =>
        additive.keeps_bind (additive.keeps_compiling _) fun _ => additive.keeps_pure _
  | .bindScalar value =>
      exact additive.keeps_bind (additive.keeps_compiling _) fun _ => additive.keeps_pure _
  | .compileExpr draft =>
      exact Edit.keeps_lift_bind fun _ =>
        additive.keeps_bind (additive.keeps_compiling _) fun _ => additive.keeps_pure _
  | .copy kind name =>
      exact Edit.keeps_get_bind fun _ => Edit.keeps_lift_bind fun _ => additive.keeps_lift _
  | .select distinct columns =>
      exact Edit.keeps_lift_bind fun _ =>
        additive.keeps_bind (additive.keeps_select distinct _) fun _ => additive.keeps_pure _
  | .selectAs column label =>
      exact Edit.keeps_lift_bind fun _ =>
        additive.keeps_bind (additive.keeps_selectAs _ label) fun _ => additive.keeps_pure _
  | .selectRaw sql =>
      exact additive.keeps_bind (Edit.keeps_modify fun query => additive.add query _)
        fun _ => additive.keeps_pure _
  | .source table label =>
      exact additive.keeps_bind (Edit.keeps_modify fun query => additive.setText query _ _)
        fun _ => additive.keeps_pure _
  | .sourceQuery draft label =>
      exact Edit.keeps_lift_bind fun _ =>
        additive.keeps_bind (additive.keeps_sourceQuery _ label) fun _ => additive.keeps_pure _
  | .join kind table label none =>
      exact additive.keeps_bind (additive.keeps_join kind table label (additive.keeps_pure ()))
        fun _ => additive.keeps_pure _
  | .join kind table label (some body) =>
      have inside := runSteps_keeps_of_removals additive home body removes
      refine additive.keeps_bind (additive.keeps_join kind table label inside) fun reports => ?_
      cases reports with
      | none => exact additive.keeps_pure _
      | some reports => exact additive.keeps_pure _
  | .addTerms clause columns =>
      exact Edit.keeps_lift_bind fun _ =>
        additive.keeps_bind (additive.keeps_addTerms clause _) fun _ => additive.keeps_pure _
  | .addOrder column descends =>
      exact Edit.keeps_lift_bind fun _ =>
        additive.keeps_bind (additive.keeps_addOrder _ descends) fun _ => additive.keeps_pure _
  | .addOrderRaw sql =>
      exact additive.keeps_bind (Edit.keeps_modify fun query => additive.addText query _ _)
        fun _ => additive.keeps_pure _
  | .limit count =>
      exact additive.keeps_bind (Edit.keeps_modify fun query => additive.setText query _ _)
        fun _ => additive.keeps_pure _
  | .offset count =>
      exact additive.keeps_bind (Edit.keeps_modify fun query => additive.setText query _ _)
        fun _ => additive.keeps_pure _
  | .paginate request =>
      exact additive.keeps_bind (Edit.keeps_modify fun query => additive.paginate query request)
        fun _ => additive.keeps_pure _
  | .union keepsDuplicates draft =>
      exact Edit.keeps_lift_bind fun _ =>
        additive.keeps_bind (Edit.keeps_modify fun query => additive.union query keepsDuplicates _)
          fun _ => additive.keeps_pure _
  | .addCommonTable isRecursive name draft =>
      exact Edit.keeps_lift_bind fun _ =>
        additive.keeps_bind (additive.keeps_addCommonTable isRecursive name _)
          fun _ => additive.keeps_pure _
  | .lockForUpdate =>
      exact additive.keeps_bind additive.keeps_lockForUpdate fun _ => additive.keeps_pure _
  | .condition clause connective predicate =>
      have hooks (workspace : Workspace) :=
        predicate_hooksKeep additive home workspace predicate removes
      exact Edit.keeps_lift_bind fun workspace =>
        additive.keeps_bind (additive.keeps_condition (hooks workspace) clause connective)
          fun _ => additive.keeps_pure _
  | .filterIn negated lhs values =>
      have hooks (workspace : Workspace) := operand_hooksKeep additive home workspace lhs removes
      exact Edit.keeps_lift_bind fun workspace => Edit.keeps_lift_bind fun _ =>
        additive.keeps_bind (additive.keeps_filterIn negated (hooks workspace) _)
          fun _ => additive.keeps_pure _
  | .conditionGroup connective body =>
      have inside := runSteps_keeps_of_removals additive home body removes
      exact additive.keeps_bind (additive.keeps_conditionGroup connective inside)
        fun _ => additive.keeps_pure _
  | .addExpression keyword lhs comparator rhs =>
      have removes : KeepsRemovals related (optionRemovals lhs ++ optionRemovals rhs) := removes
      have hooksLhs (workspace : Workspace) :=
        option_hooksKeep additive home workspace lhs removes.of_append.1
      have hooksRhs (workspace : Workspace) :=
        option_hooksKeep additive home workspace rhs removes.of_append.2
      exact Edit.keeps_lift_bind fun first => Edit.keeps_lift_bind fun second =>
        additive.keeps_bind
          (additive.keeps_addExpression keyword (hooksLhs first) (hooksRhs second) comparator)
          fun _ => additive.keeps_pure _
  | .addPredicate keyword predicate =>
      have hooks (workspace : Workspace) :=
        predicate_hooksKeep additive home workspace predicate removes
      exact Edit.keeps_lift_bind fun workspace =>
        additive.keeps_bind (additive.keeps_addPredicate (hooks workspace) keyword)
          fun _ => additive.keeps_pure _
  | .filterByKey values =>
      have hooks (workspace : Workspace) := all_hooksKeep additive home workspace values removes
      exact Edit.keeps_lift_bind fun workspace =>
        additive.keeps_bind (additive.keeps_filterByKey (hooks workspace))
          fun _ => additive.keeps_pure _
  | .filterByKeys rows =>
      have hooks (workspace : Workspace) := rows_hooksKeep additive home workspace rows removes
      exact Edit.keeps_lift_bind fun workspace =>
        additive.keeps_bind (additive.keeps_filterByKeys (hooks workspace))
          fun _ => additive.keeps_pure _
  | .filterHas relation body =>
      exact additive.keeps_bind (additive.keeps_filterHas relation _) fun _ => additive.keeps_pure _
  | .insertInto replaces table columns =>
      refine additive.keeps_bind (additive.keeps_attempt fun query changed inserted => ?_)
        fun _ => additive.keeps_pure _
      cases replaces with
      | true => exact additive.replaceInto inserted
      | false => exact additive.insertHead inserted
  | .values row =>
      exact Edit.keeps_lift_bind fun _ =>
        additive.keeps_bind (additive.keeps_values _) fun _ => additive.keeps_pure _
  | .update table =>
      exact additive.keeps_bind (Edit.keeps_modify fun query => additive.addText query _ _)
        fun _ => additive.keeps_pure _
  | .assign column value =>
      exact Edit.keeps_lift_bind fun _ => Edit.keeps_lift_bind fun _ =>
        additive.keeps_bind (additive.keeps_assign _ _) fun _ => additive.keeps_pure _
  | .assignRaw column sql =>
      exact additive.keeps_bind (Edit.keeps_modify fun query => additive.addText query _ _)
        fun _ => additive.keeps_pure _
  | .deleteFrom table =>
      exact additive.keeps_bind (Edit.keeps_modify fun query => additive.addText query _ _)
        fun _ => additive.keeps_pure _
  | .onConflictUpdate conflict columns =>
      exact additive.keeps_bind
        (additive.keeps_attempt fun _ _ updated => additive.onConflictUpdate updated)
        fun _ => additive.keeps_pure _
  | .onConflictDoNothing conflict =>
      exact additive.keeps_bind
        (additive.keeps_attempt fun _ _ updated => additive.onConflictDoNothing updated)
        fun _ => additive.keeps_pure _
  | .returning columns =>
      exact Edit.keeps_lift_bind fun _ =>
        additive.keeps_bind (additive.keeps_returning _) fun _ => additive.keeps_pure _
  | .fetch kind responses =>
      exact Edit.keeps_get_bind fun _ => Edit.keeps_lift_bind fun _ => additive.keeps_pure _

/-- Builder calls in a row end with a related query, if what they remove does. -/
theorem runSteps_keeps_of_removals (additive : Query.Additive related) (home : Connection)
    (steps : List Step) (removes : KeepsRemovals related (removalsAll steps)) :
    Edit.Keeps related (runSteps home steps) := by
  match steps with
  | [] => exact additive.keeps_pure _
  | step :: rest =>
      have removes : KeepsRemovals related (step.removals ++ removalsAll rest) := removes
      have first := call_keeps_of_removals additive home step removes.of_append.1
      have others := runSteps_keeps_of_removals additive home rest removes.of_append.2
      exact additive.keeps_bind first fun _ => Edit.keeps_get_bind fun _ =>
        additive.keeps_bind others fun _ => additive.keeps_pure _

end

/-- A builder call ends with a related query. -/
theorem call_keeps (stable : Query.Stable related) (home : Connection) (step : Step) :
    Edit.Keeps related (call home step) :=
  call_keeps_of_removals stable.toAdditive home step fun keyword _ query =>
    stable.removeClause query keyword

end Script

end SqlBuilder
