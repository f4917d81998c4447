import SqlBuilder.Proofs.Expr.Leaf
import SqlBuilder.Query.Key

/-!
# Runs of conditions

Conditions whose user-defined expressions leave the query alone, as one change of the query. The
callback of an existence condition is taken apart into the query that it finds, its own steps, and
the condition that is added afterwards.
-/

namespace SqlBuilder

namespace KeyArityError

theorem check_eq_ok_iff {expected got : Nat} {value : Unit} :
    check expected got = .ok value ↔ expected = got := by
  unfold check
  split
  case isTrue less => exact iff_of_false nofun (Nat.ne_of_gt less)
  case isFalse =>
    split
    case isTrue more => exact iff_of_false nofun (Nat.ne_of_lt more)
    case isFalse => exact iff_of_true rfl (by omega)

theorem checkRows_eq_ok_iff {expected : Nat} {counts : List Nat} {value : Unit} :
    checkRows expected counts = .ok value ↔ ∀ got ∈ counts, expected = got := by
  induction counts with
  | nil => exact iff_of_true rfl (List.forall_mem_nil _)
  | cons got rest ih =>
      rw [List.forall_mem_cons, ← ih, ← @check_eq_ok_iff expected got (), checkRows]
      cases check expected got with
      | error error => exact iff_of_false nofun fun both => nomatch both.1
      | ok => exact (and_iff_right rfl).symm

end KeyArityError

/-- Whether the user-defined expressions of a predicate do nothing to their query. -/
def Predicate.HookFree (predicate : Predicate Query CustomExpr) : Prop :=
  ∀ custom ∈ predicate.customs, custom.before = pure () ∧ custom.after = pure ()

/-- The user-defined expressions of a predicate are among its leaves. -/
theorem Predicate.mem_leaves_of_mem_customs {predicate : Predicate Query CustomExpr}
    {custom : CustomExpr} (mem : custom ∈ predicate.customs) :
    .custom custom ∈ predicate.leaves := by
  rcases List.mem_filterMap.1 mem with ⟨operand, present, found⟩
  have same : operand = .custom custom := by
    cases operand with
    | custom _ => exact congrArg Operand.custom (Option.some.inj found)
    | column _ | raw _ | scalar _ | backing _ | expr _ | query _ => cases found
  rw [same] at present
  have leaf : (.custom custom : Leaf Query CustomExpr) ∈
      (Operand.custom custom : Value).resolvedLeaves := List.mem_singleton_self _
  cases predicate with
  | single only =>
      rw [operands, List.mem_singleton] at present
      exact present ▸ leaf
  | compare lhs comparator rhs =>
      simp only [operands, List.mem_cons, List.not_mem_nil, or_false] at present
      rcases present with rfl | rfl <;> simp [leaves, leaf]
  | pair lhs rhs =>
      simp only [operands, List.mem_cons, List.not_mem_nil, or_false] at present
      rcases present with rfl | rfl
      · unfold leaves
        split <;> simp_all
      · simp [leaves, leaf]

/-- Without user-defined expressions there are no hooks. -/
theorem Predicate.hookFree_of_leaves {predicate : Predicate Query CustomExpr}
    (free : ∀ custom, .custom custom ∉ predicate.leaves) : predicate.HookFree :=
  fun custom mem => (free custom (mem_leaves_of_mem_customs mem)).elim

namespace Edit

variable {α : Type} {predicate : Predicate Query CustomExpr}

/-- Steps that do nothing do nothing in a row. -/
theorem runAll_eq_pure {steps : List (Edit Unit)} (idle : ∀ step ∈ steps, step = pure ()) :
    runAll steps = pure () := by
  induction steps with
  | nil => rfl
  | cons step rest ih =>
      rw [runAll, idle step (by simp), ih fun step mem => idle step (by simp [mem])]
      rfl

/-- Without hooks a predicate is compiled and added, and nothing else happens. -/
theorem run_addPredicate (hookFree : predicate.HookFree) (keyword : String) (query : Query)
    (workspace : Workspace) :
    ((addPredicate keyword predicate).run query).run workspace =
      let out := ((predicate.compile query.connection).run query.ledger).run workspace
      (((), { query with ledger := out.1.2 }.addText keyword out.1.1), out.2) := by
  have before : runAll (predicate.customs.map (·.before)) = pure () :=
    runAll_eq_pure (by
      rintro step mem
      obtain ⟨custom, custom_mem, rfl⟩ := List.mem_map.1 mem
      exact (hookFree custom custom_mem).1)
  have after : runAll (predicate.customs.map (·.after)) = pure () :=
    runAll_eq_pure (by
      rintro step mem
      obtain ⟨custom, custom_mem, rfl⟩ := List.mem_map.1 mem
      exact (hookFree custom custom_mem).2)
  rw [addPredicate, before, after]
  rfl

/-- Without hooks a condition takes its keyword, and is compiled and added. -/
theorem run_condition (hookFree : predicate.HookFree) (clause : ConditionClause)
    (connective : Connective) (query : Query) (workspace : Workspace) :
    ((condition clause connective predicate).run query).run workspace =
      let out := ((predicate.compile query.connection).run query.ledger).run workspace
      (((), { (query.nextKeyword clause connective).2 with ledger := out.1.2 }.addText
        (query.nextKeyword clause connective).1 out.1.1), out.2) :=
  run_addPredicate hookFree (query.nextKeyword clause connective).1
    (query.nextKeyword clause connective).2 workspace

/-- An existence condition takes over the parameters of its query. -/
theorem run_filter_hasRows (nested query : Query) (workspace : Workspace) :
    ((filter (.hasRows nested)).run query).run workspace =
      (((), { (query.nextKeyword .filter .and).2 with
          ledger := query.ledger.adopt nested.ledger }.addText
        (query.nextKeyword .filter .and).1 (callText "exists " nested.sql)), workspace) := by
  have hookFree : (Predicate.hasRows nested : Predicate Query CustomExpr).HookFree := by
    simp [Predicate.HookFree, Predicate.hasRows, Predicate.customs, Predicate.operands,
      Operand.custom?]
  exact run_condition hookFree .filter .and query workspace

end Edit

/-- The query of the related rows, as the callback of an existence condition finds it. -/
def Query.relatedRows (query : Query) (link : RelationLink) : Session Query := do
  let related := ((← query.fresh).selectRaw "1").source link.table none
  return (← (Edit.filter (.compare (.column link.related) "=" (.column link.own))).run related).2

/-- Comparing two columns binds nothing. -/
theorem Query.run_relatedRows (query : Query) (link : RelationLink) (workspace : Workspace) :
    (query.relatedRows link).run workspace =
      let made := query.fresh.run workspace
      let related := (made.1.selectRaw "1").source link.table none
      ((related.nextKeyword .filter .and).2.addText (related.nextKeyword .filter .and).1
        (related.escape link.related ++ " " ++ "=" ++ " " ++ related.escape link.own), made.2) := by
  have hookFree : (Predicate.compare (.column link.related) "=" (.column link.own) :
      Predicate Query CustomExpr).HookFree := by
    simp [Predicate.HookFree, Predicate.customs, Predicate.operands, Operand.custom?]
  have ran := Edit.run_condition hookFree .filter .and
    (((query.fresh.run workspace).1.selectRaw "1").source link.table none)
    (query.fresh.run workspace).2
  exact congrArg (fun out => (out.1.2, out.2)) ran

/-- An existence condition opens the query of the related rows, runs the callback on it, and adds
the condition. -/
theorem Edit.run_filterHas {α : Type} (name : String) (body : Edit α) (query : Query)
    (workspace : Workspace) :
    ((filterHas name body).run query).run workspace =
      match query.relationLink name with
      | .error error => ((.error error, query), workspace)
      | .ok link =>
        let related := (query.relatedRows link).run workspace
        let inside := (body.run related.1).run related.2
        let out := ((filter (.hasRows inside.1.2)).run query).run inside.2
        ((.ok inside.1.1, out.1.2), out.2) := by
  change ((match query.relationLink name with
    | .error error => (return .error error : Edit (Except QueryError α))
    | .ok link => do
      let related := ((← query.fresh).selectRaw "1").source link.table none
      let correlated : Edit α := do
        filter (.compare (.column link.related) "=" (.column link.own))
        body
      let inside ← correlated.run related
      filter (.hasRows inside.2)
      return .ok inside.1).run query).run workspace = _
  cases query.relationLink name <;> rfl

end SqlBuilder
