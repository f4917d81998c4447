import SqlBuilder.Proofs.Query.Condition
import SqlBuilder.Query.Mutation

/-!
# Calls that may fail

Eleven builder calls report an error instead of recording a fault. Whether one of them fails is
settled by its arguments and the query that it finds, before it touches anything: no operand is
compiled, no callback is run and no namespace is taken. So a call that fails is as good as no call.
-/

namespace SqlBuilder

/-- A call that may fail, with its operands built. -/
inductive Attempt where
  /-- Changes a fragment by a callback. -/
  | replaceClause (keyword : String) (change : Fragment → Fragment)
  | addExpression (keyword : String) (lhs : Option Value) (comparator : Option String)
      (rhs : Option Value)
  | insertInto (table : String) (columns : List String)
  | replaceInto (table : String) (columns : List String)
  | values (row : List Value)
  | onConflictUpdate (conflict columns : List String)
  | onConflictDoNothing (conflict : List String)
  | returning (columns : List Value)
  | filterByKey (key : List Value)
  | filterByKeys (rows : List (List Value))
  /-- Restricts the related rows by a callback. -/
  | filterHas (relation : String) (body : Edit Unit)

namespace Attempt

/-- Makes the call. -/
def run : Attempt → Edit (Except QueryError Unit)
  | .replaceClause keyword change => Edit.attempt (·.replaceClause keyword change)
  | .addExpression keyword lhs comparator rhs => Edit.addExpression keyword lhs comparator rhs
  | .insertInto table columns => Edit.attempt (·.insertInto table columns)
  | .replaceInto table columns => Edit.attempt (·.replaceInto table columns)
  | .values row => Edit.values row
  | .onConflictUpdate conflict columns => Edit.attempt (·.onConflictUpdate conflict columns)
  | .onConflictDoNothing conflict => Edit.attempt (·.onConflictDoNothing conflict)
  | .returning columns => Edit.returning columns
  | .filterByKey key => Edit.filterByKey key
  | .filterByKeys rows => Edit.filterByKeys rows
  | .filterHas relation body => Edit.filterHas relation body

/-- The call with other callbacks. -/
def withCallbacks (change : Fragment → Fragment) (body : Edit Unit) : Attempt → Attempt
  | .replaceClause keyword _ => .replaceClause keyword change
  | .filterHas relation _ => .filterHas relation body
  | call => call

/-- The error of a construct that the dialect lacks. -/
def lacking (query : Query) (feature : Feature) : Option QueryError :=
  if query.supports feature then none
  else some (.unsupported query.connection.grammar.name feature.text)

/-- The error of an insertion without columns. -/
def columnless (keyword table : String) (columns : List String) : Option QueryError :=
  if columns.isEmpty then
    some (.incompleteExpression (keyword ++ " " ++ table ++ " requires at least one column"))
  else none

/-- The error of a check. -/
def failureOf {α : Type} : Except QueryError α → Option QueryError
  | .ok _ => none
  | .error error => some error

/-- The error of a look-up by key: there is no key, or values do not match its columns. -/
def mismatch (columns : Except QueryError (List String))
    (check : List String → Except KeyArityError Unit) : Option QueryError :=
  match columns with
  | .error error => some error
  | .ok columns => failureOf ((check columns).mapError .keyArity)

/-- The error that the call reports, if it fails. -/
def failure? (query : Query) : Attempt → Option QueryError
  | .replaceClause keyword _ =>
    if query.hasClause keyword then none else some (.missingClause keyword)
  | .addExpression _ none _ _ =>
    some (.invalidExpression "expression has no left-hand side")
  | .addExpression _ (some _) (some comparator) none =>
    some (.invalidExpression ("comparator \x60" ++ comparator ++ "\x60 has no right-hand side"))
  | .addExpression _ (some _) _ _ => none
  | .insertInto table columns => columnless "insert into" table columns
  | .replaceInto table columns =>
    (lacking query .replaceInto).or (columnless "replace into" table columns)
  | .values row =>
    if row.isEmpty then some (.incompleteExpression "values requires at least one field") else none
  | .onConflictUpdate conflict columns =>
    if columns.isEmpty then
      some (.incompleteExpression "upsert requires at least one column to update")
    else if query.supports .onDuplicateKey then none
    else (lacking query .onConflict).or
      (if conflict.isEmpty then
        some (.incompleteExpression "on conflict requires at least one conflict column")
      else none)
  | .onConflictDoNothing _ => lacking query .onConflict
  | .returning _ => lacking query .returning
  | .filterByKey key =>
    mismatch (query.keyColumns "where_primary_key") fun columns =>
      KeyArityError.check columns.length key.length
  | .filterByKeys rows =>
    mismatch (query.keyColumns "where_primary_key_in") fun columns =>
      KeyArityError.checkRows columns.length (rows.map List.length)
  | .filterHas relation _ => failureOf (query.relationLink relation)

/-- Whether a call fails with an error that is settled beforehand, and then does nothing; if there
is none, it succeeds. -/
structure Settles (action : Edit (Except QueryError Unit)) (query : Query)
    (failure : Option QueryError) : Prop where
  idle : ∀ error workspace, failure = some error →
    (action.run query).run workspace = ((.error error, query), workspace)
  succeeds : ∀ workspace, failure = none → ((action.run query).run workspace).1.1 = .ok ()

variable {query : Query}

theorem failure?_withCallbacks (change : Fragment → Fragment) (body : Edit Unit) (call : Attempt) :
    (call.withCallbacks change body).failure? query = call.failure? query := by
  cases call <;> rfl

theorem failureOf_ensure (feature : Feature) :
    failureOf (query.ensure feature) = lacking query feature := by
  unfold Query.ensure lacking
  split <;> rfl

theorem failureOf_ensure_bind {α : Type} (feature : Feature) (next : Except QueryError α) :
    failureOf (do query.ensure feature; next) = (lacking query feature).or (failureOf next) := by
  unfold Query.ensure lacking
  split <;> rfl

theorem failureOf_replaceClause (keyword : String) (change : Fragment → Fragment) :
    failureOf (query.replaceClause keyword change) =
      failure? query (.replaceClause keyword change) := by
  have present : query.hasClause keyword = (query.clauseIndex? keyword).isSome :=
    List.findIdx?_isSome.symm
  dsimp only [failure?]
  unfold Query.replaceClause
  rw [present]
  cases query.clauseIndex? keyword <;> rfl

theorem failureOf_insertHead (keyword table : String) (columns : List String) :
    failureOf (query.insertHead keyword table columns) = columnless keyword table columns := by
  unfold Query.insertHead columnless
  split <;> rfl

theorem failureOf_onConflictUpdate (conflict columns : List String) :
    failureOf (query.onConflictUpdate conflict columns) =
      failure? query (.onConflictUpdate conflict columns) := by
  unfold Query.onConflictUpdate failure?
  dsimp only
  split
  · rfl
  · split
    · rfl
    · rw [failureOf_ensure_bind]
      split <;> rfl

theorem failureOf_onConflictDoNothing (conflict : List String) :
    failureOf (query.onConflictDoNothing conflict) = lacking query .onConflict := by
  unfold Query.onConflictDoNothing
  rw [failureOf_ensure_bind]
  exact Option.or_none

theorem Settles.of_error {action : Edit (Except QueryError Unit)} {error : QueryError}
    (idle : ∀ workspace, (action.run query).run workspace = ((.error error, query), workspace)) :
    Settles action query (some error) := by
  refine ⟨?_, by simp⟩
  rintro _ workspace ⟨⟩
  exact idle workspace

theorem Settles.of_ok {action : Edit (Except QueryError Unit)}
    (succeeds : ∀ workspace, ((action.run query).run workspace).1.1 = .ok ()) :
    Settles action query none :=
  ⟨by simp, fun workspace _ => succeeds workspace⟩

/-- A call that computes the changed query. -/
theorem Settles.attempt (change : Query → Except QueryError Query) :
    Settles (Edit.attempt change) query (failureOf (change query)) := by
  unfold Edit.attempt
  cases known : change query with
  | error error =>
      refine .of_error fun workspace => ?_
      simp only [StateT.run_bind, StateT.run_get, pure_bind, known]
      rfl
  | ok changed =>
      refine .of_ok fun workspace => ?_
      simp only [StateT.run_bind, StateT.run_get, pure_bind, known]
      rfl

theorem Settles.addExpression (keyword : String) (lhs : Option Value) (comparator : Option String)
    (rhs : Option Value) :
    Settles (Edit.addExpression keyword lhs comparator rhs) query
      (failure? query (.addExpression keyword lhs comparator rhs)) := by
  cases lhs with
  | none => exact .of_error fun _ => rfl
  | some lhs =>
      cases comparator with
      | none => cases rhs <;> exact .of_ok fun _ => rfl
      | some comparator =>
          cases rhs with
          | none => exact .of_error fun _ => rfl
          | some rhs => exact .of_ok fun _ => rfl

theorem Settles.values (row : List Value) :
    Settles (Edit.values row) query (failure? query (.values row)) := by
  cases row with
  | nil => exact .of_error fun _ => rfl
  | cons value rest => exact .of_ok fun _ => rfl

theorem Settles.returning (columns : List Value) :
    Settles (Edit.returning columns) query (failureOf (query.ensure .returning)) := by
  unfold Edit.returning
  cases known : query.ensure .returning with
  | error error =>
      refine .of_error fun workspace => ?_
      simp only [StateT.run_bind, StateT.run_get, pure_bind, known]
      rfl
  | ok _ =>
      refine .of_ok fun workspace => ?_
      simp only [StateT.run_bind, StateT.run_get, pure_bind, known]
      rfl

theorem Settles.filterByKey (key : List Value) :
    Settles (Edit.filterByKey key) query (failure? query (.filterByKey key)) := by
  unfold Edit.filterByKey failure? mismatch
  cases known : query.keyColumns "where_primary_key" with
  | error error =>
      refine .of_error fun workspace => ?_
      simp only [StateT.run_bind, StateT.run_get, pure_bind, known]
      rfl
  | ok columns =>
      dsimp only
      cases counted : KeyArityError.check columns.length key.length with
      | error error =>
          refine .of_error fun workspace => ?_
          simp only [StateT.run_bind, StateT.run_get, pure_bind, known, counted]
          rfl
      | ok _ =>
          refine .of_ok fun workspace => ?_
          simp only [StateT.run_bind, StateT.run_get, pure_bind, known, counted]
          rfl

theorem Settles.filterByKeys (rows : List (List Value)) :
    Settles (Edit.filterByKeys rows) query (failure? query (.filterByKeys rows)) := by
  unfold Edit.filterByKeys failure? mismatch
  cases known : query.keyColumns "where_primary_key_in" with
  | error error =>
      refine .of_error fun workspace => ?_
      simp only [StateT.run_bind, StateT.run_get, pure_bind, known]
      rfl
  | ok columns =>
      dsimp only
      cases counted : KeyArityError.checkRows columns.length (rows.map List.length) with
      | error error =>
          refine .of_error fun workspace => ?_
          simp only [StateT.run_bind, StateT.run_get, pure_bind, known, counted]
          rfl
      | ok _ =>
          refine .of_ok fun workspace => ?_
          simp only [StateT.run_bind, StateT.run_get, pure_bind, known, counted]
          split <;> rfl

theorem Settles.filterHas (relation : String) (body : Edit Unit) :
    Settles (Edit.filterHas relation body) query (failureOf (query.relationLink relation)) := by
  cases known : query.relationLink relation with
  | error error =>
      refine .of_error fun workspace => ?_
      rw [Edit.run_filterHas, known]
  | ok link =>
      refine .of_ok fun workspace => ?_
      rw [Edit.run_filterHas, known]

/-- Whether a call fails is settled beforehand. -/
theorem settles (call : Attempt) (query : Query) :
    Settles call.run query (call.failure? query) := by
  cases call with
  | replaceClause keyword change =>
      have changing : Settles (Edit.attempt _) query _ :=
        Settles.attempt (·.replaceClause keyword change)
      rwa [failureOf_replaceClause] at changing
  | addExpression keyword lhs comparator rhs => exact .addExpression keyword lhs comparator rhs
  | insertInto table columns =>
      have inserting : Settles (Edit.attempt _) query _ :=
        Settles.attempt (·.insertInto table columns)
      rwa [Query.insertInto, failureOf_insertHead] at inserting
  | replaceInto table columns =>
      have inserting : Settles (Edit.attempt _) query _ :=
        Settles.attempt (·.replaceInto table columns)
      rwa [Query.replaceInto, failureOf_ensure_bind, failureOf_insertHead] at inserting
  | values row => exact .values row
  | onConflictUpdate conflict columns =>
      have updating : Settles (Edit.attempt _) query _ :=
        Settles.attempt (·.onConflictUpdate conflict columns)
      rwa [failureOf_onConflictUpdate] at updating
  | onConflictDoNothing conflict =>
      have keeping : Settles (Edit.attempt _) query _ :=
        Settles.attempt (·.onConflictDoNothing conflict)
      rwa [failureOf_onConflictDoNothing] at keeping
  | returning columns =>
      have returning : Settles (Edit.returning columns) query _ := Settles.returning columns
      rwa [failureOf_ensure] at returning
  | filterByKey key => exact .filterByKey key
  | filterByKeys rows => exact .filterByKeys rows
  | filterHas relation body => exact .filterHas relation body

/--
Calls that fail are atomic. A call that reports an error leaves the query, with all that the next
call has to know, and the free namespaces as it found them. It has not run its callback either: with
any other callback it fails in the same way and leaves the same.
-/
theorem unchanged_of_error (call : Attempt) (query : Query) (workspace : Workspace)
    {error : QueryError} (failed : ((call.run.run query).run workspace).1.1 = .error error) :
    (call.run.run query).run workspace = ((.error error, query), workspace) ∧
      ∀ change body, ((call.withCallbacks change body).run.run query).run workspace =
        ((.error error, query), workspace) := by
  have settled : call.failure? query = some error := by
    cases known : call.failure? query with
    | none =>
        rw [(call.settles query).succeeds workspace known] at failed
        cases failed
    | some other =>
        rw [(call.settles query).idle other workspace known] at failed
        rw [Except.error.inj failed]
  refine ⟨(call.settles query).idle error workspace settled, fun change body => ?_⟩
  refine ((call.withCallbacks change body).settles query).idle error workspace ?_
  rw [failure?_withCallbacks, settled]

/-- The second of two keys lacks a column, in the middle of a group. -/
theorem unchanged_of_error_key :
    let model : Model := { table := "t", primaryKey := ["a", "b"] }
    let query : Query :=
      { connection := .ofConfig {}, ledger := { params := { namespaceId := 1 } },
        fragments := [.token "("], pending := some .or, model := some model }
    let call : Attempt :=
      .filterByKeys [[.scalar (.int 1), .scalar (.int 2)], [.scalar (.int 3)]]
    let error : QueryError := .keyArity (.tooFew 2 1)
    ((call.run.run query).run {}).1.1 = .error error ∧
      (call.run.run query).run {} = ((.error error, query), {}) := by
  intro model query call error
  have failed : ((call.run.run query).run {}).1.1 = .error error := rfl
  exact ⟨failed, (call.unchanged_of_error query {} failed).1⟩

end Attempt

end SqlBuilder
