import SqlBuilder.Proofs.Query.Condition

/-!
# Callbacks that add conditions

What callbacks of groups do as a rule: they ask for conditions without hooks, for groups of them,
and for look-ups that come down to such conditions. Whatever holds of conditions and groups holds of
all of these callbacks, by induction over `Edit.AddsConditions`.
-/

namespace SqlBuilder

/-- Calls that ask for conditions without hooks, and for groups of them. -/
inductive Edit.AddsConditions : {α : Type} → Edit α → Prop
  | pure {α : Type} (value : α) : AddsConditions (Pure.pure value)
  | bind {α β : Type} {action : Edit α} {next : α → Edit β} : AddsConditions action →
      (∀ query workspace, AddsConditions (next ((action.run query).run workspace).1.1)) →
      AddsConditions (action >>= next)
  | look : AddsConditions (get : Edit Query)
  | session {α : Type} (action : Session α) : AddsConditions (liftM action : Edit α)
  | condition (clause : ConditionClause) (connective : Connective)
      {predicate : Predicate Query CustomExpr} : predicate.HookFree →
      AddsConditions (Edit.condition clause connective predicate)
  | parenthesis {α : Type} (pull : Bool) {body : Edit α} : AddsConditions body →
      AddsConditions (Edit.parenthesis pull body)
  | conditionGroup {α : Type} (connective : Connective) {body : Edit α} : AddsConditions body →
      AddsConditions (Edit.conditionGroup connective body)

namespace Edit

variable {α : Type}

/-- A comparison of a column has hooks only by the value that it is compared with. -/
theorem hookFree_pair {lhs rhs : Value} (left : lhs.custom? = none) (right : rhs.custom? = none) :
    (Predicate.pair lhs rhs).HookFree := by
  have customs : (Predicate.pair lhs rhs).customs = [] := by
    rw [Predicate.customs, Predicate.operands, List.filterMap_cons_none left,
      List.filterMap_cons_none right, List.filterMap_nil]
  simp [Predicate.HookFree, customs]

theorem hookFree_single {operand : Value} (plain : operand.custom? = none) :
    (Predicate.single operand).HookFree := by
  have customs : (Predicate.single operand).customs = [] := by
    rw [Predicate.customs, Predicate.operands, List.filterMap_cons_none plain, List.filterMap_nil]
  simp [Predicate.HookFree, customs]

namespace AddsConditions

theorem filterIn (negated : Bool) {lhs : Value} (plain : lhs.custom? = none) (values : List Value) :
    AddsConditions (Edit.filterIn negated lhs values) := by
  unfold Edit.filterIn
  split
  · exact .condition _ _ (hookFree_single rfl)
  · exact .condition _ _ (hookFree_pair plain rfl)

theorem keyConditions (keys : List String) {values : List Value}
    (plain : ∀ value ∈ values, value.custom? = none) :
    AddsConditions (Edit.keyConditions keys values) := by
  induction keys generalizing values with
  | nil => exact .pure ()
  | cons key keys ih =>
      cases values with
      | nil => exact .pure ()
      | cons value values =>
          obtain ⟨own, others⟩ := List.forall_mem_cons.1 plain
          exact .bind (.condition _ _ (hookFree_pair rfl own)) fun _ _ => ih others

theorem filterByKey {values : List Value} (plain : ∀ value ∈ values, value.custom? = none) :
    AddsConditions (Edit.filterByKey values) := by
  refine .bind .look fun query _ => ?_
  split
  · exact .pure _
  · split
    · exact .pure _
    · exact .bind (keyConditions _ plain) fun _ _ => .pure _

theorem furtherKeys (columns : List String) {rows : List (List Value)}
    (plain : ∀ row ∈ rows, ∀ value ∈ row, value.custom? = none) :
    AddsConditions (Edit.furtherKeys columns rows) := by
  induction rows with
  | nil => exact .pure ()
  | cons row rest ih =>
      obtain ⟨own, others⟩ := List.forall_mem_cons.1 plain
      exact .bind (.conditionGroup .or (keyConditions columns own)) fun _ _ => ih others

theorem filterByKeys {rows : List (List Value)}
    (plain : ∀ row ∈ rows, ∀ value ∈ row, value.custom? = none) :
    AddsConditions (Edit.filterByKeys rows) := by
  have group (columns : List String) : AddsConditions (keyGroup columns rows) := by
    cases rows with
    | nil => exact .pure ()
    | cons row rest =>
        obtain ⟨own, others⟩ := List.forall_mem_cons.1 plain
        exact .bind (.conditionGroup .and (keyConditions columns own)) fun _ _ =>
          furtherKeys columns others
  refine .bind .look fun query _ => ?_
  split
  · exact .pure _
  · split
    · exact .pure _
    · split
      · exact .bind (.condition _ _ (hookFree_single rfl)) fun _ _ => .pure _
      · exact .bind (filterIn false rfl _) fun _ _ => .pure _
      · exact .bind (.conditionGroup .and (group _)) fun _ _ => .pure _

/-- The callback works on the query of the related rows, so only the condition counts. -/
theorem filterHas (name : String) (body : Edit α) :
    AddsConditions (Edit.filterHas name body) := by
  refine .bind .look fun query _ => ?_
  split
  · exact .pure _
  · refine .bind (.session _) fun _ _ => .bind (.session _) fun _ _ => ?_
    exact .bind (.condition _ _ (hookFree_single rfl)) fun _ _ => .pure _

end AddsConditions

end Edit

end SqlBuilder
