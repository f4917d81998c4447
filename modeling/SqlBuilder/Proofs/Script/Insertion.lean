import SqlBuilder.Proofs.Query.Listing
import SqlBuilder.Proofs.Script.Outline

/-!
# Calls that add fragments of no list

What callbacks of groups and joins may do: conditions and groups of them, with hooks that do no more
than that. However they are nested, what they add is one block, put in where fragments go.
-/

namespace SqlBuilder

/-! ### Calls that add fragments -/

/-- Callbacks that add fragments of no list where fragments go: conditions, and groups of them. -/
inductive Edit.Adds : {α : Type} → Edit α → Prop
  | pure {α : Type} (value : α) : Adds (Pure.pure value)
  | bind {α β : Type} {action : Edit α} {next : α → Edit β} : Adds action →
      (∀ query workspace, Adds (next ((action.run query).run workspace).1.1)) →
      Adds (action >>= next)
  | look : Adds (get : Edit Query)
  | session {α : Type} (action : Session α) : Adds (liftM action : Edit α)
  | compiling {α : Type} (action : Connection → Compile α) : Adds (Edit.compiling action)
  | add (fragment : Fragment) : fragment.isNeutral = true →
      isSelectKeyword fragment.keyword = false → Adds (modify (·.add fragment) : Edit PUnit)
  | condition (clause : ConditionClause) (connective : Connective)
      {predicate : Predicate Query CustomExpr} :
      (∀ custom ∈ predicate.customs, Adds custom.before) →
      (∀ custom ∈ predicate.customs, Adds custom.after) →
      Adds (Edit.condition clause connective predicate)
  | parenthesis {α : Type} (pull : Bool) {body : Edit α} : Adds body →
      Adds (Edit.parenthesis pull body)
  | conditionGroup {α : Type} (connective : Connective) {body : Edit α} : Adds body →
      Adds (Edit.conditionGroup connective body)

/-- The keyword of a condition is that of no list. -/
theorem Query.isNeutral_nextKeyword (query : Query) (clause : ConditionClause)
    (connective : Connective) (text : String) :
    (Fragment.withText (query.nextKeyword clause connective).1 text).isNeutral = true ∧
      isSelectKeyword (query.nextKeyword clause connective).1 = false := by
  have words : ∀ keyword ∈ [clause.keyword, "and", "or"],
      (!("" :: "," :: listStarts).contains keyword) = true ∧ isSelectKeyword keyword = false := by
    cases clause <;> decide
  exact words _ (query.nextKeyword_mem clause connective)

namespace Edit

variable {α β : Type}

/-- Whether what a step adds is one block of no list, put in where fragments go. -/
def Inserts (action : Edit α) : Prop :=
  ∀ (query : Query) (workspace : Workspace), ∃ block, Fragment.Foreign block ∧
    Query.Splices block query ((action.run query).run workspace).1.2

namespace Inserts

theorem of_eq {action : Edit α} (same : ∀ query workspace,
    ((action.run query).run workspace).1.2.fragments = query.fragments ∧
      ((action.run query).run workspace).1.2.cursor = query.cursor) : Inserts action :=
  fun query workspace => ⟨[], .nil, .of_eq (same query workspace).1 (same query workspace).2⟩

theorem bind {action : Edit α} {next : α → Edit β} (first : Inserts action)
    (second : ∀ query workspace, Inserts (next ((action.run query).run workspace).1.1)) :
    Inserts (action >>= next) := by
  intro query workspace
  obtain ⟨block, foreign, spliced⟩ := first query workspace
  obtain ⟨more, foreign', spliced'⟩ := second query workspace _ _
  exact ⟨block ++ more, foreign.append foreign', spliced.trans spliced'⟩

theorem add {fragment : Fragment} (neutral : fragment.isNeutral = true)
    (other : isSelectKeyword fragment.keyword = false) :
    Inserts (modify (·.add fragment) : Edit PUnit) :=
  fun query _ => ⟨[fragment], .singleton neutral, .add query other⟩

theorem runAll {steps : List (Edit Unit)} (inserts : ∀ step ∈ steps, Inserts step) :
    Inserts (Edit.runAll steps) := by
  induction steps with
  | nil => exact of_eq fun _ _ => ⟨rfl, rfl⟩
  | cons step rest ih =>
      obtain ⟨first, others⟩ := List.forall_mem_cons.1 inserts
      exact bind first fun _ _ => ih others

theorem condition (clause : ConditionClause) (connective : Connective)
    {predicate : Predicate Query CustomExpr}
    (before : ∀ custom ∈ predicate.customs, Inserts custom.before)
    (after : ∀ custom ∈ predicate.customs, Inserts custom.after) :
    Inserts (Edit.condition clause connective predicate) := by
  intro query workspace
  obtain ⟨neutral, other⟩ := query.isNeutral_nextKeyword clause connective ""
  have added : Inserts (Edit.addPredicate (query.nextKeyword clause connective).1 predicate) :=
    bind (runAll (List.forall_mem_map.2 before)) fun _ _ =>
      bind (of_eq fun _ _ => ⟨rfl, rfl⟩) fun _ _ =>
        bind (add neutral other) fun _ _ => runAll (List.forall_mem_map.2 after)
  obtain ⟨block, foreign, spliced⟩ := added (query.nextKeyword clause connective).2 workspace
  have taken : Query.Splices [] query (query.nextKeyword clause connective).2 := .of_eq rfl rfl
  exact ⟨block, foreign, taken.trans spliced⟩

end Inserts

/-- What is added makes one block. -/
theorem Adds.inserts {action : Edit α} (adds : Adds action) : Inserts action := by
  induction adds with
  | pure value => exact .of_eq fun _ _ => ⟨rfl, rfl⟩
  | bind _ _ first second => exact .bind first second
  | look => exact .of_eq fun _ _ => ⟨rfl, rfl⟩
  | session action => exact .of_eq fun _ _ => ⟨rfl, rfl⟩
  | compiling action => exact .of_eq fun _ _ => ⟨rfl, rfl⟩
  | add fragment neutral other => exact .add neutral other
  | condition clause connective _ _ before after => exact .condition clause connective before after
  | parenthesis pull _ ih =>
      intro query workspace
      obtain ⟨block, foreign, filled⟩ := ih (query.insertToken "(") workspace
      exact ⟨_, foreign.group pull, .closeGroup pull filled⟩
  | conditionGroup connective _ ih =>
      intro query workspace
      obtain ⟨block, foreign, filled⟩ := ih (query.openGroup connective) workspace
      rw [run_conditionGroup]
      exact ⟨_, foreign.group true, .closeConditionGroup connective filled⟩

end Edit

namespace Edit.Adds

variable {α : Type}

theorem hookFree {predicate : Predicate Query CustomExpr} (free : predicate.HookFree)
    (clause : ConditionClause) (connective : Connective) :
    Adds (Edit.condition clause connective predicate) :=
  .condition clause connective (fun custom mem => (free custom mem).1 ▸ .pure ())
    fun custom mem => (free custom mem).2 ▸ .pure ()

theorem of_addsConditions {action : Edit α} (adds : AddsConditions action) : Adds action := by
  induction adds with
  | pure value => exact .pure value
  | bind _ _ first second => exact .bind first second
  | look => exact .look
  | session action => exact .session action
  | condition clause connective free => exact hookFree free clause connective
  | parenthesis pull _ ih => exact .parenthesis pull ih
  | conditionGroup connective _ ih => exact .conditionGroup connective ih

theorem resolveAll (operands : List Value) : Adds (Edit.resolveAll operands) := by
  induction operands with
  | nil => exact .pure _
  | cons operand rest ih => exact .bind (.compiling _) fun _ _ => .bind ih fun _ _ => .pure _

end Edit.Adds

namespace Script

variable {home : Connection}

/-- A step of a group adds fragments of no list. -/
theorem call_adds (step : Step) (stays : step.staysInGroup = true) : (call home step).Adds :=
  .of_addsConditions (call_addsConditions step stays)

/-- The steps of a group add fragments of no list. -/
theorem runSteps_adds (steps : List Step) (stay : Step.allStayInGroup steps = true) :
    (runSteps home steps).Adds :=
  .of_addsConditions (runSteps_addsConditions steps stay)

/-- The conditions of a join are of no list. -/
theorem runSteps_adds_join (steps : List Step) (stay : steps.all (·.staysInJoin) = true) :
    (runSteps home steps).Adds := by
  induction steps with
  | nil => exact .pure _
  | cons step rest ih =>
      rw [List.all_cons, Bool.and_eq_true] at stay
      obtain ⟨own, others⟩ := stay
      have first : (call home step).Adds := by
        unfold Step.staysInJoin at own
        split at own
        case h_1 connective predicate =>
          exact .bind (.session _) fun _ workspace => .bind
            (.hookFree (hookFree_buildPredicate own workspace) _ _) fun _ _ => .pure _
        case h_2 => cases own
      exact .bind first fun _ _ => .bind .look fun _ _ => .bind (ih others) fun _ _ => .pure _

end Script

end SqlBuilder
