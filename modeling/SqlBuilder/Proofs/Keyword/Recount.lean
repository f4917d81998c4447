import SqlBuilder.Proofs.Keyword.Narration

/-!
# Calls that recount a history

What a call tells does not depend on the query that it works on, but for the model of the query: a
look-up by keys asks for as many conditions as the model has keys, and an existence condition needs
a relation. So a call recounts one history on all queries of a model, and calls in a row recount
their histories one after the other.
-/

namespace SqlBuilder

namespace History

theorem append_done (history : History) : history.append .done = history := by
  induction history with
  | done => rfl
  | condition clause before after rest _ _ ih => rw [append, ih]
  | union other rest _ ih => rw [append, ih]

/-- What the hooks of operands tell: those that run before a condition is added, and the others. -/
structure Hooks where
  before : History := .done
  after : History := .done

namespace Hooks

/-- The hooks of further operands. -/
def append (hooks others : Hooks) : Hooks :=
  { before := hooks.before.append others.before, after := hooks.after.append others.after }

/-- A condition whose operands have the hooks. -/
def condition (clause : ConditionClause) (hooks : Hooks) : History :=
  .condition clause hooks.before hooks.after .done

/-- Conditions on the rows, one after the other. -/
def conditions : List Hooks → History
  | [] => .done
  | hooks :: rest => (hooks.condition .filter).append (conditions rest)

theorem conditions_append (hooks others : List Hooks) :
    conditions (hooks ++ others) = (conditions hooks).append (conditions others) := by
  induction hooks with
  | nil => rfl
  | cons first rest ih => exact congrArg (History.condition _ _ _) ih

end Hooks

/-- A look-up by keys, which needs a model that has keys. -/
def keyed (model : Option Model) (lookup : Nat → History) : History :=
  match model with
  | some model => if model.primaryKey.isEmpty then .done else lookup model.primaryKey.length
  | none => .done

/-- The look-up by a key: a condition on each of its values, if their number is right. -/
def ofKey (model : Option Model) (hooks : List Hooks) : History :=
  keyed model fun count => if hooks.length = count then Hooks.conditions hooks else .done

/-- The look-up by several keys. Keys of one column are a single condition, as are no keys. -/
def ofKeys (model : Option Model) (hooks : List (List Hooks)) : History :=
  keyed model fun count =>
    if ∀ row ∈ hooks, row.length = count then
      if hooks.isEmpty || count == 1 then ({} : Hooks).condition .filter
      else Hooks.conditions hooks.flatten
    else .done

/-- An existence condition, if the model has the relation. -/
def ofRelation (model : Option Model) (name : String) : History :=
  if (model.bind (·.relation? name)).isSome then ({} : Hooks).condition .filter else .done

end History

open History (Hooks)

namespace Edit

variable {α β : Type}

/-- Whether calls tell a history on every query of a model. -/
def Recounts (nested : Bool) (model : Option Model) (action : Edit α) (history : History) : Prop :=
  ∀ query workspace, query.model = model → Narrates nested action query workspace history

namespace Recounts

variable {nested : Bool} {model : Option Model} {first second history : History}

theorem keep {action : Edit α} (same : ∀ query workspace,
    let changed := ((action.run query).run workspace).1.2
    changed.fragments = query.fragments ∧ changed.cursor = query.cursor ∧
      changed.model = query.model) : Recounts nested model action .done :=
  fun query workspace _ =>
    have ⟨fragments, cursor, model⟩ := same query workspace
    .keep fragments cursor model

theorem pure (value : α) : Recounts nested model (Pure.pure value) .done :=
  keep fun _ _ => ⟨rfl, rfl, rfl⟩

theorem bind {action : Edit α} {next : α → Edit β} (start : Recounts nested model action first)
    (rest : ∀ value, Recounts nested model (next value) second) :
    Recounts nested model (action >>= next) (first.append second) := fun query workspace same =>
  have told := start query workspace same
  .bind told (rest _ _ _ (told.model_eq.trans same))

/-- What is made of the result tells nothing. -/
theorem report {action : Edit α} (told : Recounts nested model action history) (result : α → β) :
    Recounts nested model (action >>= fun value => Pure.pure (result value)) history :=
  history.append_done ▸ bind told fun _ => pure _

theorem look {next : Query → Edit β}
    (rest : ∀ query, query.model = model → Recounts nested model (next query) history) :
    Recounts nested model (get >>= next) history := fun query workspace same =>
  .bind (.keep rfl rfl rfl) (rest query same query workspace same)

theorem session {action : Session α} {next : α → Edit β}
    (rest : ∀ workspace, Recounts nested model (next (action.run workspace).1) history) :
    Recounts nested model ((liftM action : Edit α) >>= next) history := fun query workspace same =>
  .bind (.keep rfl rfl rfl) (rest workspace query (action.run workspace).2 same)

theorem compiling {action : Connection → Compile α} {next : α → Edit β}
    (rest : ∀ value, Recounts nested model (next value) history) :
    Recounts nested model (Edit.compiling action >>= next) history := fun _ _ same =>
  .bind (.keep rfl rfl rfl) (rest _ _ _ same)

theorem parenthesis (pull : Bool) {body : Edit α} (told : Recounts true model body history) :
    Recounts nested model (Edit.parenthesis pull body) history :=
  fun _ _ same => .parenthesis pull (told _ _ same)

theorem conditionGroup (connective : Connective) {body : Edit α}
    (told : Recounts true model body history) :
    Recounts nested model (Edit.conditionGroup connective body) history :=
  fun _ _ same => .conditionGroup connective (told _ _ same)

theorem runAll_append {steps others : List (Edit Unit)}
    (start : Recounts nested model (runAll steps) first)
    (rest : Recounts nested model (runAll others) second) :
    Recounts nested model (runAll (steps ++ others)) (first.append second) := by
  have parts : runAll (steps ++ others) = runAll steps >>= fun _ => runAll others := by
    clear start rest
    induction steps with
    | nil => rfl
    | cons step steps ih => rw [List.cons_append, runAll, runAll, ih]; rfl
  exact parts ▸ bind start fun _ => rest

end Recounts

end Edit

/-! ### Hooks -/

/-- Whether the hooks of operands tell what is said of them. -/
structure Operand.HooksRecount (nested : Bool) (model : Option Model) (operands : List Value)
    (hooks : Hooks) : Prop where
  before : Edit.Recounts nested model
    (Edit.runAll ((operands.filterMap Operand.custom?).map (·.before))) hooks.before
  after : Edit.Recounts nested model
    (Edit.runAll ((operands.filterMap Operand.custom?).map (·.after))) hooks.after

namespace Operand.HooksRecount

variable {nested : Bool} {model : Option Model} {operands others : List Value}
  {hooks further : Hooks}

theorem plain {operand : Value} (plain : operand.custom? = none) :
    HooksRecount nested model [operand] {} := by
  have customs : [operand].filterMap Operand.custom? = [] := by
    rw [List.filterMap_cons_none plain, List.filterMap_nil]
  constructor
  · rw [customs]
    exact .pure ()
  · rw [customs]
    exact .pure ()

theorem append (first : HooksRecount nested model operands hooks)
    (second : HooksRecount nested model others further) :
    HooksRecount nested model (operands ++ others) (hooks.append further) where
  before := by
    rw [List.filterMap_append, List.map_append]
    exact first.before.runAll_append second.before
  after := by
    rw [List.filterMap_append, List.map_append]
    exact first.after.runAll_append second.after

/-- A condition tells of itself between what its hooks tell. -/
theorem condition {predicate : Predicate Query CustomExpr}
    (recount : HooksRecount nested model predicate.operands hooks) {clause : ConditionClause}
    (outside : clause ≠ .join) (connective : Connective) :
    Edit.Recounts nested model (Edit.condition clause connective predicate)
      (hooks.condition clause) := by
  intro query workspace same
  have before := recount.before (query.nextKeyword clause connective).2 workspace same
  refine .condition connective outside before (recount.after _ _ ?_)
  obtain ⟨ledger, text, entered⟩ := Edit.run_enter clause connective predicate query workspace
  rw [entered]
  exact (Query.model_add _ _).trans (before.model_eq.trans same)

end Operand.HooksRecount

/-! ### Conditions in a row -/

namespace Edit.Recounts

variable {α : Type} {nested : Bool} {model : Option Model} {hooks : Hooks}

theorem plain_filter {operand : Value} (plain : operand.custom? = none) :
    Recounts nested model (Edit.filter (.single operand)) (({} : Hooks).condition .filter) :=
  (Operand.HooksRecount.plain plain).condition (by decide) .and

theorem filterIn (negated : Bool) {lhs : Value} {values : List Value}
    (recount : Operand.HooksRecount nested model [lhs] hooks) :
    Recounts nested model (Edit.filterIn negated lhs values)
      ((if values.isEmpty then {} else hooks).condition .filter) := by
  unfold Edit.filterIn
  split
  · exact plain_filter rfl
  · have both (expr : Expr Query CustomExpr) :
        Operand.HooksRecount nested model [lhs, .expr expr] (hooks.append {}) :=
      recount.append (.plain rfl)
    have alone : hooks.append {} = hooks := by
      rw [Hooks.append, History.append_done, History.append_done]
    rw [alone] at both
    exact (both _).condition (by decide) .and

/-- As many conditions are added as there are keys and values. -/
theorem keyConditions {keys : List String} {values : List Value} {hooks : List Hooks}
    (recount : List.Forall₂ (fun value => Operand.HooksRecount nested model [value]) values hooks)
    (count : hooks.length = keys.length) :
    Recounts nested model (Edit.keyConditions keys values) (Hooks.conditions hooks) := by
  induction recount generalizing keys with
  | nil => cases keys <;> exact pure ()
  | @cons value own values hooks first _ ih =>
      cases keys with
      | nil => cases count
      | cons key keys =>
          have column : Operand.HooksRecount nested model [.column key] {} := .plain rfl
          exact .bind ((column.append first).condition (by decide) .and) fun _ =>
            ih (Nat.succ.inj count)

theorem of_keyColumns {caller : String} {found : List String → Edit (Except QueryError α)}
    {lookup : Nat → History}
    (told : ∀ columns, Recounts nested model (found columns) (lookup columns.length)) :
    Recounts nested model (do
      match (← get).keyColumns caller with
      | .error error => return .error error
      | .ok columns => found columns) (History.keyed model lookup) := by
  refine look fun query same => ?_
  unfold Query.keyColumns History.keyed
  rw [same]
  cases model with
  | none => exact pure _
  | some model =>
      dsimp only
      cases model.primaryKey.isEmpty with
      | true => exact pure _
      | false =>
          have columns := told (model.primaryKey.map fun key => model.table ++ "." ++ key)
          rwa [List.length_map] at columns

theorem filterByKey {values : List Value} {hooks : List Hooks}
    (recount : List.Forall₂ (fun value => Operand.HooksRecount nested model [value]) values hooks) :
    Recounts nested model (Edit.filterByKey values) (.ofKey model hooks) := by
  refine of_keyColumns fun columns => ?_
  rw [← recount.length_eq]
  cases counted : KeyArityError.check columns.length values.length with
  | error error =>
      have wrong : values.length ≠ columns.length := fun same => by
        have accepted : KeyArityError.check columns.length values.length = .ok () :=
          KeyArityError.check_eq_ok_iff.2 same.symm
        rw [accepted] at counted
        cases counted
      rw [if_neg wrong]
      exact pure _
  | ok =>
      have same := (KeyArityError.check_eq_ok_iff.1 counted).symm
      rw [if_pos same]
      exact report (keyConditions recount (recount.length_eq.symm.trans same)) _

theorem furtherKeys {columns : List String} {rows : List (List Value)} {hooks : List (List Hooks)}
    (recount : List.Forall₂ (List.Forall₂ fun value => Operand.HooksRecount true model [value])
      rows hooks) (count : ∀ row ∈ hooks, row.length = columns.length) :
    Recounts nested model (Edit.furtherKeys columns rows) (Hooks.conditions hooks.flatten) := by
  induction recount with
  | nil => exact pure ()
  | cons first _ ih =>
      obtain ⟨own, others⟩ := List.forall_mem_cons.1 count
      rw [List.flatten_cons, Hooks.conditions_append]
      exact .bind (conditionGroup .or (keyConditions first own)) fun _ => ih others

theorem keyGroup {columns : List String} {rows : List (List Value)} {hooks : List (List Hooks)}
    (recount : List.Forall₂ (List.Forall₂ fun value => Operand.HooksRecount true model [value])
      rows hooks) (count : ∀ row ∈ hooks, row.length = columns.length) :
    Recounts nested model (Edit.keyGroup columns rows) (Hooks.conditions hooks.flatten) := by
  cases recount with
  | nil => exact pure ()
  | cons first rest =>
      obtain ⟨own, others⟩ := List.forall_mem_cons.1 count
      rw [List.flatten_cons, Hooks.conditions_append]
      exact .bind (conditionGroup .and (keyConditions first own)) fun _ => furtherKeys rest others

theorem filterByKeys {rows : List (List Value)} {hooks : List (List Hooks)}
    (recount : List.Forall₂ (List.Forall₂ fun value => Operand.HooksRecount true model [value])
      rows hooks) :
    Recounts nested model (Edit.filterByKeys rows) (.ofKeys model hooks) := by
  have lengths : rows.map List.length = hooks.map List.length := by
    induction recount with
    | nil => rfl
    | cons first _ ih => rw [List.map_cons, List.map_cons, first.length_eq, ih]
  refine of_keyColumns fun columns => ?_
  rw [lengths]
  have counted_iff (value : Unit) : KeyArityError.checkRows columns.length (hooks.map List.length) =
      .ok value ↔ ∀ row ∈ hooks, row.length = columns.length := by
    rw [KeyArityError.checkRows_eq_ok_iff, List.forall_mem_map]
    exact forall₂_congr fun _ _ => eq_comm
  cases counted : KeyArityError.checkRows columns.length (hooks.map List.length) with
  | error error =>
      have wrong : ¬∀ row ∈ hooks, row.length = columns.length := fun same => by
        rw [(counted_iff ()).2 same] at counted
        cases counted
      rw [if_neg wrong]
      exact pure _
  | ok value =>
      have same := (counted_iff value).1 counted
      rw [if_pos same]
      dsimp only
      split
      case h_1 =>
        cases recount
        exact report (plain_filter rfl) _
      case h_2 column _ =>
        rw [List.length_singleton, beq_self_eq_true, Bool.or_true, if_pos rfl]
        have single : Recounts nested model (Edit.filterIn false (.column column) rows.flatten) _ :=
          filterIn false (.plain rfl)
        rw [ite_self] at single
        exact report single _
      case h_3 none several =>
        have wide : (hooks.isEmpty || columns.length == 1) = false := by
          rw [Bool.or_eq_false_iff, beq_eq_false_iff_ne, Ne, List.length_eq_one_iff]
          refine ⟨?_, fun ⟨column, single⟩ => several column single⟩
          cases recount with
          | nil => exact (none rfl).elim
          | cons => rfl
        rw [wide, if_neg Bool.false_ne_true]
        exact report (conditionGroup .and (keyGroup recount same)) _

/-- The callback works on the query of the related rows, so only the condition counts. -/
theorem filterHas (name : String) (body : Edit α) :
    Recounts nested model (Edit.filterHas name body) (.ofRelation model name) := by
  refine look fun query same => ?_
  unfold Query.relationLink History.ofRelation
  rw [same]
  cases model with
  | none => exact pure _
  | some model =>
      dsimp only
      rw [Option.bind_some]
      cases model.relation? name with
      | none => exact pure _
      | some relation =>
          refine session fun _ => session fun _ => ?_
          exact report (plain_filter rfl) _

/-! ### Selections, sources and unions -/

theorem resolveAll (operands : List Value) :
    Recounts nested model (Edit.resolveAll operands) .done := by
  induction operands with
  | nil => exact pure _
  | cons operand rest ih => exact compiling fun _ => report ih _

theorem addSelect {fragment : Query → Fragment}
    (select : ∀ query, isSelectKeyword (fragment query).keyword = true) :
    Recounts false model (modify fun query => query.add (fragment query)) .done :=
  fun query _ _ => .select (select query) rfl

theorem setSource (text : Query → String) :
    Recounts false model (modify fun query => query.setText "from" (text query)) .done :=
  fun _ _ _ => .source rfl

theorem select (distinct : Bool) (columns : List Value) :
    Recounts false model (Edit.select distinct columns) .done := by
  have texts : Recounts false model (Edit.items columns) .done := report (resolveAll columns) _
  refine bind texts fun _ => addSelect fun _ => ?_
  cases distinct <;> rfl

theorem selectAs (column : Value) (label : String) :
    Recounts false model (Edit.selectAs column label) .done :=
  compiling fun _ => addSelect fun _ => rfl

theorem sourceQuery (other : Query) (label : String) :
    Recounts false model (Edit.sourceQuery other label) .done :=
  compiling fun _ => setSource _

end Edit.Recounts

end SqlBuilder
