import SqlBuilder.Proofs.Param.Workspace

/-!
# Calls that have to do with parameters

Calls that make queries, copy them, put them together and bind values, on named queries and in any
order. An existence condition counts as two calls, since anything may happen to other queries while
its callback works on the query of the related rows. A query that was merged or embedded keeps its
name, so the same one may be put in twice.

There is always one record of parameters that all named queries follow (`Workspace.Sound`), on any
connections. Every call extends the record that was there before.
-/

namespace SqlBuilder

/-- The place of a query that is put into another one. -/
inductive NestedPlace where
  /-- As an existence condition. -/
  | condition
  /-- As an item of the select list. -/
  | item
  | source (label : String)
  | commonTable (isRecursive : Bool) (name : String)

/-- Puts a query into its place. -/
def NestedPlace.put (nested : Query) : NestedPlace → Edit Unit
  | .condition => Edit.filter (.hasRows nested)
  | .item => Edit.select false [.query nested]
  | .source label => Edit.sourceQuery nested label
  | .commonTable isRecursive name => Edit.addCommonTable isRecursive name nested

/-- The parameters and the fault of a query are taken over, wherever it is put. -/
theorem NestedPlace.ledger_put (place : NestedPlace) (nested query : Query)
    (workspace : Workspace) :
    (((place.put nested).run query).run workspace).1.2.ledger =
        query.ledger.adopt nested.ledger ∧
      (((place.put nested).run query).run workspace).2 = workspace := by
  cases place with
  | condition =>
      have ran := Edit.run_filter_hasRows nested query workspace
      rw [put, ran]
      exact ⟨Query.ledger_addText _ _ _, rfl⟩
  | item => exact ⟨Query.ledger_add _ _, rfl⟩
  | source label => exact ⟨Query.ledger_setText _ _ _, rfl⟩
  | commonTable isRecursive name => exact ⟨Query.ledger_addCommonTable _ _ _, rfl⟩

/-- A condition on a column binds its value, unless it is null. -/
theorem Edit.ledger_filter_equal (column : String) (value : Scalar) (query : Query)
    (workspace : Workspace) :
    let out := ((Edit.filter (.pair (.column column) (.scalar value))).run query).run workspace
    (out.1.2.ledger = query.ledger ∨
      out.1.2.ledger = (query.ledger.bind query.connection value).2) ∧ out.2 = workspace := by
  have hookFree : (Predicate.pair (.column column) (.scalar value) :
      Predicate Query CustomExpr).HookFree := by
    simp [Predicate.HookFree, Predicate.customs, Predicate.operands, Operand.custom?]
  have ran := Edit.run_condition hookFree .filter .and query workspace
  rw [Edit.filter, ran]
  dsimp only
  rw [Query.ledger_addText]
  cases value with
  | null => exact ⟨.inl rfl, rfl⟩
  | bool _ | int _ | float _ | text _ | bytes _ | timestamp _ | uuid _ | json _ =>
    exact ⟨.inr rfl, rfl⟩

/-- A call that has to do with parameters. -/
inductive QueryCall where
  /-- Makes a query of no, a model's or a given table, and names it. -/
  | create (name : String) (home : Connection) (origin : Script.Origin)
  | copy (kind : Script.CopyKind) (source name : String)
  | merge (target source : String)
  | union (keepsDuplicates : Bool) (target source : String)
  | embed (place : NestedPlace) (target source : String)
  /-- Binds a value, whose placeholder is not put anywhere. -/
  | bind (target : String) (value : Scalar)
  /-- Binds a value in a condition on a column. -/
  | filter (target column : String) (value : Scalar)
  /-- Names the query of the related rows, for the callback of an existence condition. -/
  | openRelated (target relation name : String)
  /-- Adds the existence condition when the callback is done. -/
  | closeRelated (target name : String)

namespace QueryCall

/-- Goes on with a named query, if there is one. -/
def withNamed (name : String) (next : Query → Session Unit) : Session Unit := do
  match (← get).get? name with
  | some query => next query
  | none => return

/-- Changes a named query, if there is one. -/
def changeNamed (name : String) (edit : Edit Unit) : Session Unit :=
  withNamed name fun query => do
    let (_, query) ← edit.run query
    modify (·.insert name query)

/-- Names a query unless making it failed. -/
def nameMade (name : String) (made : Except QueryError Query) : Session Unit :=
  match made with
  | .ok query => modify (·.insert name query)
  | .error _ => return

/-- Makes a call. A call on a name that no query has does nothing. -/
def run : QueryCall → Session Unit
  | .create name home origin => do nameMade name (.ok (← origin.make home))
  | .copy kind source name => withNamed source fun query => do nameMade name (← kind.make query)
  | .merge target source => withNamed source fun other =>
    changeNamed target (modify (·.merge other))
  | .union keepsDuplicates target source => withNamed source fun other =>
    changeNamed target (modify (·.union keepsDuplicates other))
  | .embed place target source => withNamed source fun other =>
    changeNamed target (place.put other)
  | .bind target value => changeNamed target
    (do let _ ← Edit.compiling fun connection => modifyGet (Ledger.bind connection value))
  | .filter target column value => changeNamed target
    (Edit.filter (.pair (.column column) (.scalar value)))
  | .openRelated target relation name => withNamed target fun query =>
    match query.relationLink relation with
    | .ok link => do nameMade name (.ok (← query.relatedRows link))
    | .error _ => return
  | .closeRelated target name => withNamed name fun related => do
    modify (·.erase name)
    changeNamed target (Edit.filter (.hasRows related))

/-- The connections that a call asks for. -/
def connections : QueryCall → List Connection
  | .create _ home origin => home :: origin.connection.toList
  | _ => []

theorem run_withNamed (name : String) (next : Query → Session Unit) (workspace : Workspace) :
    (withNamed name next).run workspace =
      match workspace.get? name with
      | some query => (next query).run workspace
      | none => ((), workspace) := by
  change (match workspace.get? name with
    | some query => next query
    | none => (return : Session Unit)).run workspace = _
  cases workspace.get? name <;> rfl

/-- The workspace behind calls in a row. -/
def runAll (workspace : Workspace) : List QueryCall → Workspace
  | [] => workspace
  | call :: rest => runAll (call.run.run workspace).2 rest

/-- All workspaces that calls in a row pass through. -/
def states (workspace : Workspace) : List QueryCall → List Workspace
  | [] => [workspace]
  | call :: rest => workspace :: states (call.run.run workspace).2 rest

theorem runAll_mem_states (workspace : Workspace) (calls : List QueryCall) :
    runAll workspace calls ∈ states workspace calls := by
  induction calls generalizing workspace with
  | nil => exact List.mem_singleton_self _
  | cons call rest ih => exact List.mem_cons_of_mem _ (ih _)

end QueryCall

namespace Workspace.Sound

variable {registry : Registry} {workspace : Workspace}

theorem erase (sound : workspace.Sound registry) (name : String) :
    (workspace.erase name).Sound registry where
  follows entry mem := sound.follows entry (List.mem_filter.1 mem).1
  owns entry mem := sound.owns entry (List.mem_filter.1 mem).1
  below entry mem := sound.below entry (List.mem_filter.1 mem).1
  distinct := sound.distinct.filter _
  unused := sound.unused

theorem withNamed (sound : workspace.Sound registry) {name : String}
    {next : Query → Session Unit}
    (kept : ∀ query, workspace.get? name = some query →
      query.ledger.params.Follows registry → query.ledger.params.Owns registry →
      ∃ later, registry.Extends later ∧ ((next query).run workspace).2.Sound later) :
    ∃ later, registry.Extends later ∧
      ((QueryCall.withNamed name next).run workspace).2.Sound later := by
  rw [QueryCall.run_withNamed]
  cases found : workspace.get? name with
  | none => exact ⟨registry, .refl registry, sound⟩
  | some query =>
      have mem := Workspace.get?_mem found
      exact kept query found (sound.follows _ mem) (sound.owns _ mem)

theorem changeNamed (sound : workspace.Sound registry) {name : String} {edit : Edit Unit}
    (records : ∀ query, query.ledger.params.Follows registry → query.ledger.params.Owns registry →
      ∃ later, Ledger.Records registry later query.ledger
        ((edit.run query).run workspace).1.2.ledger)
    (untouched : ∀ query, ((edit.run query).run workspace).2 = workspace) :
    ∃ later, registry.Extends later ∧
      ((QueryCall.changeNamed name edit).run workspace).2.Sound later := by
  refine sound.withNamed fun query found follows owns => ?_
  obtain ⟨later, recorded⟩ := records query follows owns
  refine ⟨later, recorded.extended, ?_⟩
  change (((edit.run query).run workspace).2.insert name _).Sound later
  rw [untouched query]
  exact sound.insert_changed found recorded.extended recorded.elsewhere recorded.namespaceId
    recorded.follows recorded.owns

/-- A change that only takes over the parameters of a query on record. -/
theorem changeNamed_adopt (sound : workspace.Sound registry) {name : String} {edit : Edit Unit}
    {other : Query} (follows : other.ledger.params.Follows registry)
    (adopted : ∀ query, ((edit.run query).run workspace).1.2.ledger =
      query.ledger.adopt other.ledger)
    (untouched : ∀ query, ((edit.run query).run workspace).2 = workspace) :
    ∃ later, registry.Extends later ∧
      ((QueryCall.changeNamed name edit).run workspace).2.Sound later :=
  sound.changeNamed (fun query follows' owns =>
    ⟨registry, adopted query ▸ .adopt follows' owns follows⟩) untouched

/-- A call extends the record, and all named queries follow the longer one. -/
theorem run (sound : workspace.Sound registry) (call : QueryCall) :
    ∃ later, registry.Extends later ∧ (call.run.run workspace).2.Sound later := by
  have refl := Registry.Extends.refl registry
  cases call with
  | create name home origin =>
      exact ⟨registry, refl, sound.insert_made (.make workspace registry home origin) name⟩
  | copy kind source name =>
      refine sound.withNamed fun query _ follows _ => ⟨registry, refl, ?_⟩
      change ((QueryCall.nameMade name ((kind.make query).run workspace).1).run
        ((kind.make query).run workspace).2).2.Sound registry
      cases made : ((kind.make query).run workspace).1 with
      | ok copied => exact sound.insert_made (.copy workspace follows made) name
      | error _ => exact sound.grown (.copy kind query workspace)
  | merge target source =>
      refine sound.withNamed fun other _ follows _ => ?_
      exact sound.changeNamed_adopt follows (fun query => query.ledger_merge other) fun _ => rfl
  | union keepsDuplicates target source =>
      refine sound.withNamed fun other _ follows _ => ?_
      exact sound.changeNamed_adopt follows
        (fun query => query.ledger_union keepsDuplicates other) fun _ => rfl
  | embed place target source =>
      refine sound.withNamed fun other _ follows _ => ?_
      exact sound.changeNamed_adopt follows
        (fun query => (place.ledger_put other query workspace).1)
        fun query => (place.ledger_put other query workspace).2
  | bind target value =>
      refine sound.changeNamed (fun query follows owns => ?_) fun _ => rfl
      exact Ledger.Records.bind follows owns query.connection value
  | filter target column value =>
      refine sound.changeNamed (fun query follows owns => ?_) fun query =>
        (Edit.ledger_filter_equal column value query workspace).2
      rcases (Edit.ledger_filter_equal column value query workspace).1 with same | bound
      · exact ⟨registry, .of_params_eq follows owns (congrArg (·.params) same)⟩
      · rw [bound]
        exact Ledger.Records.bind follows owns query.connection value
  | openRelated target relation name =>
      refine sound.withNamed fun query _ _ _ => ⟨registry, refl, ?_⟩
      cases query.relationLink relation with
      | error _ => exact sound
      | ok link =>
          exact sound.insert_made (.relatedRows workspace registry query link) name
  | closeRelated target name =>
      refine sound.withNamed fun related _ follows _ => ?_
      refine (sound.erase name).changeNamed_adopt follows (fun query => ?_) fun query => ?_
      · rw [Edit.run_filter_hasRows]
        simp
      · rw [Edit.run_filter_hasRows]

/-- All queries that calls in a row pass through follow the record of the last ones. -/
theorem states (sound : workspace.Sound registry) (calls : List QueryCall) :
    ∃ later, registry.Extends later ∧ (QueryCall.runAll workspace calls).Sound later ∧
      ∀ state ∈ QueryCall.states workspace calls, ∀ entry ∈ state.queries,
        entry.2.ledger.params.Follows later := by
  induction calls generalizing registry workspace with
  | nil =>
      refine ⟨registry, .refl registry, sound, ?_⟩
      intro state mem
      obtain rfl := List.mem_singleton.1 mem
      exact sound.follows
  | cons call rest ih =>
      -- The record only grows, so what followed it after a call follows it at the end.
      obtain ⟨between, first, kept⟩ := sound.run call
      obtain ⟨later, second, last, passed⟩ := ih kept
      refine ⟨later, first.trans second, last, ?_⟩
      intro state mem entry entry_mem
      rcases List.mem_cons.1 mem with rfl | mem
      · exact (sound.follows entry entry_mem).mono (first.trans second)
      · exact passed state mem entry entry_mem

end Workspace.Sound

end SqlBuilder
