import SqlBuilder.Proofs.Param.Workspace

/-!
# Workspaces of executions

Running a query may make probes and counts, which take namespaces. It does nothing else to the
workspace, whatever the executor answers.
-/

namespace SqlBuilder

namespace Workspace.Grown

theorem trans {before between after : Workspace} (first : before.Grown between)
    (second : between.Grown after) : before.Grown after :=
  ⟨second.queries.trans first.queries, Nat.le_trans first.next second.next,
    second.aborted.trans first.aborted⟩

theorem fresh (query : Query) (workspace : Workspace) :
    workspace.Grown (query.fresh.run workspace).2 := ⟨rfl, Nat.le_succ _, rfl⟩

theorem clone (query : Query) (workspace : Workspace) :
    workspace.Grown (query.clone.run workspace).2 := ⟨rfl, Nat.le_succ _, rfl⟩

end Workspace.Grown

namespace Execution

variable {α β : Type}

/-- Whether an execution does no more to a workspace than take namespaces. -/
def Grows (action : Execution α) : Prop :=
  ∀ (trace : Trace) (workspace : Workspace),
    workspace.Grown ((action.run.run trace).run workspace).2

namespace Grows

theorem pure (value : α) : Grows (pure value) := fun _ workspace => .refl workspace

theorem throw (error : QueryError) : Grows (throw error : Execution α) :=
  fun _ workspace => .refl workspace

theorem bind {action : Execution α} {next : α → Execution β} (first : Grows action)
    (second : ∀ value, Grows (next value)) : Grows (action >>= next) := by
  intro trace workspace
  have grown := first trace workspace
  change workspace.Grown (((ExceptT.bindCont next
    ((action.run.run trace).run workspace).1.1).run
    ((action.run.run trace).run workspace).1.2).run ((action.run.run trace).run workspace).2).2
  cases ((action.run.run trace).run workspace).1.1 with
  | ok value => exact grown.trans (second value _ _)
  | error error => exact grown

theorem map {action : Execution α} (build : α → β) (first : Grows action) :
    Grows (build <$> action) := by
  have same : build <$> action = action >>= fun value => Pure.pure (build value) :=
    (bind_pure_comp build action).symm
  rw [same]
  exact first.bind fun value => .pure (build value)

theorem ofExcept (result : Except QueryError α) : Grows (ofExcept result) := by
  cases result with
  | ok value => exact .pure value
  | error error => exact .throw error

theorem ofSession {step : Session α}
    (grown : ∀ workspace, Workspace.Grown workspace (step.run workspace).2) :
    Grows (ofSession step) := fun _ workspace => grown workspace

theorem send (config : Config) (statement : Statement) (answer : Except QueryError α) :
    Grows (send config statement answer) :=
  .bind (fun _ workspace => .refl workspace) fun _ => .ofExcept answer

end Grows

end Execution

namespace Query

open Execution

variable (executor : Executor) (query : Query)

theorem grows_run {α : Type} (ask : Statement → Except QueryError α) : Grows (query.run ask) :=
  .bind (.ofExcept _) fun _ => .send _ _ _

theorem grows_fetchAll : Grows (query.fetchAll executor) := query.grows_run _

theorem grows_fetchOne : Grows (query.fetchOne executor) := by
  refine .bind (query.grows_fetchAll executor) fun rows => ?_
  cases rows with
  | nil => exact .throw _
  | cons row rest => exact .pure row

theorem grows_fetchScalar : Grows (query.fetchScalar executor) := query.grows_run _

theorem grows_hasRows : Grows (query.hasRows executor) :=
  .bind (.ofSession (.fresh query)) fun _ =>
    .bind (grows_fetchScalar executor _) fun _ => .pure _

theorem grows_fetchCount {count : Session (Except QueryError Query)}
    (grown : ∀ workspace, Workspace.Grown workspace (count.run workspace).2) :
    Grows (fetchCount executor count) :=
  .bind (.ofSession grown) fun _ => .bind (.ofExcept _) fun _ =>
    .bind (grows_fetchScalar executor _) fun _ => .ofExcept _

theorem grows_totalCount : Grows (query.totalCount executor) :=
  grows_fetchCount executor (.totalCountQuery query)

theorem grows_fetchPage (request : PageRequest) : Grows (query.fetchPage executor request) :=
  .bind (query.grows_totalCount executor) fun _ => .bind (.ofSession (.clone query)) fun _ =>
    .bind (grows_fetchAll executor _) fun _ => .pure _

end Query

/-- Running a query does no more to a workspace than take namespaces. -/
theorem Script.FetchKind.grows (kind : FetchKind) (executor : Executor) (query : Query) :
    Execution.Grows (kind.run executor query) := by
  cases kind with
  | all => exact .map _ (query.grows_fetchAll executor)
  | one => exact .map _ (query.grows_fetchOne executor)
  | scalar => exact .map _ (query.grows_fetchScalar executor)
  | execute => exact .map _ (query.grows_run _)
  | hasRows => exact .map _ (query.grows_hasRows executor)
  | resultCount => exact .map _ (Query.grows_fetchCount executor (.resultCountQuery query))
  | totalCount => exact .map _ (query.grows_totalCount executor)
  | page request => exact .map _ (query.grows_fetchPage executor request)

end SqlBuilder
