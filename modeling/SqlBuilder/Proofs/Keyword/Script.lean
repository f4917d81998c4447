import SqlBuilder.Proofs.Keyword.Recount
import SqlBuilder.Script.Run

/-!
# Histories of scripts

The history of a script can be told without running it, if its steps select, set the source, ask for
conditions and groups of them, and unite queries that are made by such scripts. Hooks are scripts as
well. `Script.runSteps_recounts` says that the calls then go as told.
-/

namespace SqlBuilder.Script

open History (Hooks)

mutual

/-- What a step tells on a query of a model. Selections, sources and unions stay out of groups. -/
def Step.tell (nested : Bool) (model : Option Model) : Step → Option History
  | .select _ _ | .selectAs _ _ | .selectRaw _ | .source _ _ | .sourceQuery _ _ =>
    if nested then none else some .done
  | .condition clause _ predicate =>
    if clause = .join then none
    else (Hooks.condition clause) <$> predicateHooks nested model predicate
  | .filterIn _ lhs values => do
    let hooks ← draftHooks nested model lhs
    return (if values.isEmpty then {} else hooks).condition .filter
  | .parenthesis _ body => Step.tellAll true model body
  | .conditionGroup _ body => Step.tellAll true model body
  | .filterByKey values => (History.ofKey model) <$> allHooks nested model values
  | .filterByKeys rows => (History.ofKeys model) <$> rowsHooks true model rows
  | .filterHas relation _ => some (.ofRelation model relation)
  | .union _ other =>
    if nested then none else (History.union · .done) <$> QueryDraft.tell other
  | _ => none

/-- What steps tell in a row. -/
def Step.tellAll (nested : Bool) (model : Option Model) : List Step → Option History
  | [] => some .done
  | step :: rest => do
    let first ← step.tell nested model
    return first.append (← Step.tellAll nested model rest)

/-- What the steps tell by which a query is made; named queries tell nothing. -/
def QueryDraft.tell : QueryDraft → Option History
  | .recipe _ model _ steps => Step.tellAll false model steps
  | .take _ => none
  | .clone _ => none

/-- What the hooks of an operand tell. -/
def draftHooks (nested : Bool) (model : Option Model) :
    Operand QueryDraft CustomDraft → Option Hooks
  | .custom custom => customHooks nested model custom
  | _ => some {}

/-- What the hooks of a user-defined expression tell. -/
def customHooks (nested : Bool) (model : Option Model) : CustomDraft → Option Hooks
  | .mk _ _ before after => do
    let before ← Step.tellAll nested model before
    return { before, after := ← Step.tellAll nested model after }

/-- What the hooks of operands tell, one by one. -/
def allHooks (nested : Bool) (model : Option Model) :
    List (Operand QueryDraft CustomDraft) → Option (List Hooks)
  | [] => some []
  | draft :: rest => do
    let hooks ← draftHooks nested model draft
    return hooks :: (← allHooks nested model rest)

/-- What the hooks of rows of operands tell, one by one. -/
def rowsHooks (nested : Bool) (model : Option Model) :
    List (List (Operand QueryDraft CustomDraft)) → Option (List (List Hooks))
  | [] => some []
  | row :: rest => do
    let hooks ← allHooks nested model row
    return hooks :: (← rowsHooks nested model rest)

/-- What the hooks of a predicate tell. -/
def predicateHooks (nested : Bool) (model : Option Model) :
    Predicate QueryDraft CustomDraft → Option Hooks
  | .single operand => draftHooks nested model operand
  | .pair lhs rhs => do
    let hooks ← draftHooks nested model lhs
    return hooks.append (← draftHooks nested model rhs)
  | .compare lhs _ rhs => do
    let hooks ← draftHooks nested model lhs
    return hooks.append (← draftHooks nested model rhs)

end

/-- A new query has neither predicates nor a cursor, and the model that is asked for. -/
theorem Origin.rest_make (home : Connection) (origin : Origin) (workspace : Workspace) :
    let query := ((origin.make home).run workspace).1
    query.branches = {} ∧ query.cursor = none ∧ query.model = origin.model := by
  obtain ⟨connection, model, table⟩ := origin
  cases model with
  | some model => exact ⟨rfl, rfl, rfl⟩
  | none =>
      cases table with
      | none => exact ⟨rfl, rfl, rfl⟩
      | some table => exact ⟨rfl, rfl, rfl⟩

/-- What is told outside of groups only. -/
theorem eq_of_outside {α : Type} {nested : Bool} {told : Option α} {result : α}
    (outside : (if nested then none else told) = some result) :
    nested = false ∧ told = some result := by
  obtain ⟨apart, same⟩ := Option.ite_none_left_eq_some.1 outside
  exact ⟨Bool.eq_false_iff.2 apart, same⟩

/-- What is told in two parts. -/
theorem exists_of_bind {α β γ : Type} {first : Option α} {second : Option β} {join : α → β → γ}
    {result : γ}
    (told : (first.bind fun one => second.bind fun other => some (join one other)) = some result) :
    ∃ one other, first = some one ∧ second = some other ∧ result = join one other := by
  obtain ⟨one, own, others⟩ := Option.bind_eq_some_iff.1 told
  obtain ⟨other, behind, same⟩ := Option.bind_eq_some_iff.1 others
  exact ⟨one, other, own, behind, (Option.some.inj same).symm⟩

mutual

theorem draft_hooksRecount {nested : Bool} {model : Option Model} (home : Connection)
    (workspace : Workspace) (draft : Draft) {hooks : Hooks}
    (told : draftHooks nested model draft = some hooks) :
    Operand.HooksRecount nested model [((buildOperand home draft).run workspace).1] hooks := by
  match draft with
  | .custom (.mk parts suppliesComparator before after) =>
      obtain ⟨first, last, told_before, told_after, rfl⟩ := exists_of_bind told
      have hook {steps : List Step} {history : History}
          (recount : ∀ home, Edit.Recounts nested model (runSteps home steps) history) :
          Edit.Recounts nested model (Edit.runAll [do
            let query ← get
            let _ ← runSteps query.connection steps]) history :=
        .report (.look fun query _ => .report (recount query.connection) _) _
      exact ⟨hook fun home => runSteps_recounts home before told_before,
        hook fun home => runSteps_recounts home after told_after⟩
  | .column _ => exact Option.some.inj told ▸ .plain rfl
  | .raw _ => exact Option.some.inj told ▸ .plain rfl
  | .scalar _ => exact Option.some.inj told ▸ .plain rfl
  | .backing _ => exact Option.some.inj told ▸ .plain rfl
  | .expr _ => exact Option.some.inj told ▸ .plain rfl
  | .query _ => exact Option.some.inj told ▸ .plain rfl

theorem all_hooksRecount {nested : Bool} {model : Option Model} (home : Connection)
    (workspace : Workspace) (drafts : List Draft) {hooks : List Hooks}
    (told : allHooks nested model drafts = some hooks) :
    List.Forall₂ (fun value => Operand.HooksRecount nested model [value])
      ((buildAll home drafts).run workspace).1 hooks := by
  match drafts with
  | [] => exact Option.some.inj told ▸ .nil
  | draft :: rest =>
      obtain ⟨first, further, own, others, rfl⟩ := exists_of_bind told
      exact .cons (draft_hooksRecount home workspace draft own)
        (all_hooksRecount home _ rest others)

theorem rows_hooksRecount {nested : Bool} {model : Option Model} (home : Connection)
    (workspace : Workspace) (rows : List (List Draft)) {hooks : List (List Hooks)}
    (told : rowsHooks nested model rows = some hooks) :
    List.Forall₂ (List.Forall₂ fun value => Operand.HooksRecount nested model [value])
      ((buildRows home rows).run workspace).1 hooks := by
  match rows with
  | [] => exact Option.some.inj told ▸ .nil
  | row :: rest =>
      obtain ⟨first, further, own, others, rfl⟩ := exists_of_bind told
      exact .cons (all_hooksRecount home workspace row own) (rows_hooksRecount home _ rest others)

theorem predicate_hooksRecount {nested : Bool} {model : Option Model} (home : Connection)
    (workspace : Workspace) (predicate : PredicateDraft) {hooks : Hooks}
    (told : predicateHooks nested model predicate = some hooks) :
    Operand.HooksRecount nested model ((buildPredicate home predicate).run workspace).1.operands
      hooks := by
  match predicate with
  | .single operand => exact draft_hooksRecount home workspace operand told
  | .pair lhs rhs =>
      obtain ⟨first, last, own, other, rfl⟩ := exists_of_bind told
      exact (draft_hooksRecount home workspace lhs own).append (draft_hooksRecount home _ rhs other)
  | .compare lhs _ rhs =>
      obtain ⟨first, last, own, other, rfl⟩ := exists_of_bind told
      exact (draft_hooksRecount home workspace lhs own).append (draft_hooksRecount home _ rhs other)

/-- A query that steps made goes on from one without predicates. -/
theorem union_recounts {model : Option Model} (home : Connection) (workspace : Workspace)
    (draft : QueryDraft) {history : History} (told : draft.tell = some history)
    (keepsDuplicates : Bool) :
    Edit.Recounts false model
      (modify (·.union keepsDuplicates ((buildQuery home draft).run workspace).1))
      (.union history .done) := by
  match draft with
  | .recipe connection own table steps =>
      have made := runSteps_recounts home steps told
      obtain ⟨empty, calm, bound⟩ :=
        Origin.rest_make home { connection, model := own, table } workspace
      exact fun query _ _ => .union keepsDuplicates empty calm (made _ _ bound) rfl rfl

/-- A step goes as told. -/
theorem call_recounts {nested : Bool} {model : Option Model} (home : Connection) (step : Step)
    {history : History} (told : step.tell nested model = some history) :
    Edit.Recounts nested model (call home step) history := by
  match step with
  | .select distinct columns =>
      obtain ⟨rfl, ⟨⟩⟩ := eq_of_outside told
      exact .session fun _ => .report (.select distinct _) _
  | .selectAs column label =>
      obtain ⟨rfl, ⟨⟩⟩ := eq_of_outside told
      exact .session fun _ => .report (.selectAs _ label) _
  | .selectRaw sql =>
      obtain ⟨rfl, ⟨⟩⟩ := eq_of_outside told
      exact .report (.addSelect fun _ => rfl) _
  | .source table label =>
      obtain ⟨rfl, ⟨⟩⟩ := eq_of_outside told
      exact .report (.setSource _) _
  | .sourceQuery other label =>
      obtain ⟨rfl, ⟨⟩⟩ := eq_of_outside told
      exact .session fun _ => .report (.sourceQuery _ label) _
  | .condition clause connective predicate =>
      obtain ⟨outside, parts⟩ := Option.ite_none_left_eq_some.1 told
      obtain ⟨hooks, own, rfl⟩ := Option.map_eq_some_iff.1 parts
      exact .session fun workspace => .report
        ((predicate_hooksRecount home workspace predicate own).condition outside connective) _
  | .filterIn negated lhs values =>
      obtain ⟨hooks, own, same⟩ := Option.bind_eq_some_iff.1 told
      obtain rfl := Option.some.inj same
      refine .session fun workspace => .session fun later => ?_
      have built : ((buildAll home values).run later).1.isEmpty = values.isEmpty := by
        cases values <;> rfl
      exact built ▸ .report (.filterIn negated (draft_hooksRecount home workspace lhs own)) _
  | .parenthesis pull body => exact .report (.parenthesis pull (runSteps_recounts home body told)) _
  | .conditionGroup connective body =>
      exact .report (.conditionGroup connective (runSteps_recounts home body told)) _
  | .filterByKey values =>
      obtain ⟨hooks, own, rfl⟩ := Option.map_eq_some_iff.1 told
      exact .session fun workspace =>
        .report (.filterByKey (all_hooksRecount home workspace values own)) _
  | .filterByKeys rows =>
      obtain ⟨hooks, own, rfl⟩ := Option.map_eq_some_iff.1 told
      exact .session fun workspace =>
        .report (.filterByKeys (rows_hooksRecount home workspace rows own)) _
  | .filterHas relation body =>
      obtain rfl := Option.some.inj told
      exact .report (.filterHas relation _) _
  | .union keepsDuplicates other =>
      obtain ⟨rfl, united⟩ := eq_of_outside told
      obtain ⟨behind, own, rfl⟩ := Option.map_eq_some_iff.1 united
      exact .session fun workspace =>
        .report (union_recounts home workspace other own keepsDuplicates) _

/-- Steps go as told. -/
theorem runSteps_recounts {nested : Bool} {model : Option Model} (home : Connection)
    (steps : List Step) {history : History}
    (told : Step.tellAll nested model steps = some history) :
    Edit.Recounts nested model (runSteps home steps) history := by
  match steps with
  | [] => exact Option.some.inj told ▸ .pure _
  | step :: rest =>
      obtain ⟨first, further, own, others, rfl⟩ := exists_of_bind told
      exact .bind (call_recounts home step own) fun _ => .look fun _ _ =>
        .report (runSteps_recounts home rest others) _

end

end SqlBuilder.Script
