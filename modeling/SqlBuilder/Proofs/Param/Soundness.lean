import SqlBuilder.Proofs.Param.Appends
import SqlBuilder.Proofs.Param.Calls
import SqlBuilder.Proofs.Twin.Program
import SqlBuilder.Proofs.Twin.Same

/-!
# Soundness of parameter names

Along every run of calls, the names of a query are distinct, a name has one value in all queries,
and a name that is handed out was in none of them. So putting queries together and copying them
loses no value and takes no name for two.

On connections that bind values, whatever stands for a value in a fragment of a query stands for a
parameter of this query. What carries the proof is that a run is twin to itself (`Coupling.Rest`):
twin queries have texts whose placeholders are known, and every call keeps it so.
-/

namespace SqlBuilder

/-- Whether the names that stand outside quotes in a text are names of parameters of a query. -/
def Query.Knows (query : Query) (text : String) : Prop :=
  ∀ name, .reference name ∈ Placeholder.scan none false text.toList →
    ∃ param ∈ query.params, param.name.toList = name

/-- Whether a query has the parameters that its fragments and its text refer to. -/
structure Query.Resolves (query : Query) : Prop where
  fragments : ∀ fragment ∈ query.fragments, ∀ token ∈ fragment.tokens query.columnSeparator,
    query.Knows token
  sql : query.Knows query.sql

/-- A copy has the parameters of the query, whether it counts rows or not. -/
theorem Script.CopyKind.params_make {kind : CopyKind} {query copied : Query} {workspace : Workspace}
    (distinct : (query.params.map (·.name)).Nodup) (inherits : kind ≠ .fresh)
    (made : ((kind.make query).run workspace).1 = .ok copied) : copied.params = query.params := by
  have counted (own inner : Nat) (ledger : copied.ledger =
      Ledger.adopt { params := { namespaceId := own } }
        { query.ledger with params := query.ledger.params.fork inner }) :
      copied.params = query.params := by
    have all : query.params.filter (!ParamList.has { namespaceId := own } ·.name) = query.params :=
      List.filter_eq_self.2 fun _ _ => rfl
    have taken := ParamList.entries_extend { namespaceId := own } (query.ledger.params.fork inner)
    rw [Query.params, ledger]
    exact taken.trans ((congrArg _ all).trans (ParamList.eraseDupsBy_of_distinct distinct))
  cases kind with
  | fresh => exact absurd rfl inherits
  | clone =>
      cases made
      rfl
  | explain =>
      cases made
      rfl
  | resultCount =>
      rcases Query.ledger_resultCountQuery made with ⟨own, ledger⟩ | ⟨own, inner, ledger⟩
      · rw [Query.params, ledger]
        rfl
      · exact counted own inner ledger
  | totalCount =>
      obtain ⟨own, inner, ledger⟩ := Query.ledger_totalCountQuery made
      exact counted own inner ledger

/-! ### Calls in a run that is its own twin -/

namespace Coupling

variable {coupling : Coupling} {registry : Registry} {workspace : Workspace} {query : Query}

/-- The texts of a query that is twin to itself refer to its parameters. -/
theorem Nested.resolves (nested : coupling.Nested registry false query query) :
    query.Resolves where
  fragments fragment mem token token_mem name found := by
    have twin : coupling.FragmentTwin query.params fragment fragment :=
      List.forall₂_same.1 nested.twin.fragments fragment mem
    unfold Query.columnSeparator at token_mem
    rw [columnSeparator nested.twin.connection] at token_mem
    have tokens : List.Forall₂ (coupling.Text query.params) (fragment.tokens ", ")
        (fragment.tokens ", ") :=
      twin.tokens (Writing.verbatim_of_all (by decide)) (by decide) (by decide)
    have text := List.forall₂_same.1 tokens token token_mem
    exact text.exists_param nested.follows.distinct found
  sql name found := nested.sql.exists_param nested.follows.distinct found

namespace Rest

theorem erase (rest : coupling.Rest registry workspace workspace) (name : String) :
    coupling.Rest registry (workspace.erase name) (workspace.erase name) where
  toWorkspaces := rest.toWorkspaces.erase name
  owns entry mem := rest.owns entry (List.mem_filter.1 mem).1

/-- A name stands for a query that is twin to itself. -/
theorem nested (rest : coupling.Rest registry workspace workspace) {name : String}
    (found : workspace.get? name = some query) : coupling.Nested registry false query query := by
  rcases rest.get? name with ⟨absent, -⟩ | ⟨first, second, found', found'', nested⟩
  · cases found.symm.trans absent
  · obtain rfl := Option.some.inj (found.symm.trans found')
    obtain rfl := Option.some.inj (found.symm.trans found'')
    exact nested

/-- Going on with a named query. -/
theorem withNamed (rest : coupling.Rest registry workspace workspace) {name : String}
    {next : Query → Session Unit}
    (kept : ∀ query, workspace.get? name = some query → coupling.Nested registry false query query →
      ∃ later, registry.Extends later ∧ coupling.Rest later ((next query).run workspace).2
        ((next query).run workspace).2) :
    ∃ later, registry.Extends later ∧ coupling.Rest later
      ((QueryCall.withNamed name next).run workspace).2
      ((QueryCall.withNamed name next).run workspace).2 := by
  rw [QueryCall.run_withNamed]
  cases found : workspace.get? name with
  | none => exact ⟨registry, .refl registry, rest⟩
  | some query => exact kept query found (rest.nested found)

/-- A named query is changed alike. -/
theorem changeNamed (rest : coupling.Rest registry workspace workspace) {name : String}
    {edit : Edit Unit} (edits : ∀ query, coupling.Edits registry query query workspace workspace
      [] [] edit edit fun _ _ _ => True) :
    ∃ later, registry.Extends later ∧ coupling.Rest later
      ((QueryCall.changeNamed name edit).run workspace).2
      ((QueryCall.changeNamed name edit).run workspace).2 := by
  refine rest.withNamed fun query found nested => ?_
  have mem := Workspace.get?_mem found
  have hand : coupling.InHand registry workspace.nextNamespace query query :=
    { nested with owns := rest.owns _ mem, below := rest.below _ mem }
  obtain ⟨later, progress, same, -, hand', twins, -, -⟩ := edits query hand rest.toWorkspaces
  have others : ∀ entry ∈ workspace.queries, entry.1 ≠ name →
      entry.2.namespaceId ≠ query.namespaceId :=
    fun entry entry_mem differs => Workspace.namespaceId_ne rest.distinct entry_mem mem differs
  exact ⟨later, progress.extended,
    insert_changed rest.below rest.owns others hand.below progress same hand' twins⟩

/-- Queries that were made or not are named or not. -/
theorem nameMade {out : Except QueryError Query × Workspace}
    (rest : coupling.Rest registry workspace workspace)
    (copied : coupling.Copied registry workspace workspace out out)
    (grown : workspace.Grown out.2) (name : String) :
    coupling.Rest registry ((QueryCall.nameMade name out.1).run out.2).2
      ((QueryCall.nameMade name out.1).run out.2).2 := by
  rcases copied with ⟨copy, copy', made, made', twin⟩ | ⟨error, failed, -, twins⟩
  · obtain rfl := Except.ok.inj (made.symm.trans made')
    rw [made]
    exact rest.insert_made twin name
  · rw [failed]
    refine ⟨twins, fun entry mem => ?_⟩
    change entry ∈ out.2.queries at mem
    rw [grown.queries] at mem
    exact rest.owns entry mem

/-- Putting a query into its place runs alike. -/
theorem put {other : Query} (place : NestedPlace) (identical : coupling.identical)
    (nested : coupling.Nested registry false other other) (query : Query) :
    coupling.Edits registry query query workspace workspace [] [] (place.put other)
      (place.put other) fun _ _ _ => True := by
  cases place with
  | condition => exact .hasRows nested
  | item =>
      have admits : coupling.AdmitsAll registry false
          (Operand.leavesAll [(.query (other, other) : TwinOperand)]) := by
        intro leaf mem
        obtain rfl := List.mem_singleton.1 mem
        exact nested
      exact .select false admits (.inl identical)
  | source label => exact .sourceQuery label nested
  | commonTable isRecursive name => exact .addCommonTable isRecursive name nested

/-- A condition on a column runs alike. -/
theorem filterEqual (column : String) {value : Scalar} (allowed : coupling.values value)
    (query : Query) :
    coupling.Edits registry query query workspace workspace [] []
      (Edit.filter (.pair (.column column) (.scalar value)))
      (Edit.filter (.pair (.column column) (.scalar value))) fun _ _ _ => True := by
  have named : coupling.AdmitsAll registry false (Operand.column column : TwinOperand).leaves := by
    intro leaf mem
    cases mem
  have bound : coupling.AdmitsAll registry false (Operand.scalar value : TwinOperand).leaves := by
    intro leaf mem
    rw [Operand.leaves] at mem
    rcases value.leaves_eq with same | same <;> rw [same] at mem <;>
      obtain rfl := List.mem_singleton.1 mem
    · exact allowed
    · exact ⟨rfl, allowed⟩
  exact .filter (.pair (.column column) (.scalar value)) (.pair named bound)

/-- A call keeps all named queries twin to themselves. -/
theorem run (rest : coupling.Rest registry workspace workspace) (identical : coupling.identical)
    (values : ∀ value, coupling.values value) (call : QueryCall)
    (connections : ∀ connection ∈ call.connections, coupling.connections connection connection) :
    ∃ later, registry.Extends later ∧
      coupling.Rest later (call.run.run workspace).2 (call.run.run workspace).2 := by
  have refl := Registry.Extends.refl registry
  cases call with
  | create name home origin =>
      have asks := List.forall_mem_cons.1 connections
      have made : coupling.Made registry workspace workspace ((origin.make home).run workspace)
          ((origin.make home).run workspace) :=
        .make asks.1 (fun asked mem => asks.2 asked (Option.mem_toList.2 mem)) rest.toWorkspaces
      exact ⟨registry, refl, rest.insert_made made name⟩
  | copy kind source name =>
      refine rest.withNamed fun query _ nested => ⟨registry, refl, ?_⟩
      exact rest.nameMade (Made.copy nested kind rest.toWorkspaces) (.copy kind query workspace)
        name
  | merge target source =>
      refine rest.withNamed fun other _ nested => ?_
      exact rest.changeNamed fun query => .takeOver nested (query.ledger_merge other)
        (query.ledger_merge other) fun _ twin twin' => twin.merge twin'
  | union keepsDuplicates target source =>
      refine rest.withNamed fun other _ nested => ?_
      exact rest.changeNamed fun query =>
        .takeOver nested (query.ledger_union keepsDuplicates other)
          (query.ledger_union keepsDuplicates other) fun _ twin twin' =>
            twin.union twin' keepsDuplicates
  | embed place target source =>
      refine rest.withNamed fun other _ nested => ?_
      exact rest.changeNamed fun query => put place identical nested query
  | bind target value =>
      exact rest.changeNamed fun query =>
        .returned (.compiling fun connections => .bindScalar connections (values value))
          fun _ _ _ _ => trivial
  | filter target column value =>
      exact rest.changeNamed fun query => filterEqual column (values value) query
  | openRelated target relation name =>
      refine rest.withNamed fun query _ nested => ⟨registry, refl, ?_⟩
      cases query.relationLink relation with
      | error _ => exact rest
      | ok link => exact rest.insert_made (.relatedRows nested link rest.toWorkspaces) name
  | closeRelated target name =>
      refine rest.withNamed fun related _ nested => ?_
      exact (rest.erase name).changeNamed fun query => .hasRows nested

/-- All queries that calls in a row pass through have the parameters that they refer to. -/
theorem states (rest : coupling.Rest registry workspace workspace) (identical : coupling.identical)
    (values : ∀ value, coupling.values value) (calls : List QueryCall)
    (connections : ∀ call ∈ calls, ∀ connection ∈ call.connections,
      coupling.connections connection connection) :
    ∀ state ∈ QueryCall.states workspace calls, ∀ entry ∈ state.queries, entry.2.Resolves := by
  have now : ∀ entry ∈ workspace.queries, entry.2.Resolves := fun entry mem =>
    Nested.resolves (List.forall₂_same.1 rest.queries entry mem).2
  induction calls generalizing registry workspace with
  | nil =>
      intro state mem
      obtain rfl := List.mem_singleton.1 mem
      exact now
  | cons call calls ih =>
      obtain ⟨own, others⟩ := List.forall_mem_cons.1 connections
      obtain ⟨later, -, kept⟩ := rest.run identical values call own
      have after : ∀ entry ∈ (call.run.run workspace).2.queries, entry.2.Resolves :=
        fun entry mem => Nested.resolves (List.forall₂_same.1 kept.queries entry mem).2
      intro state mem
      rcases List.mem_cons.1 mem with rfl | mem
      · exact now
      · exact ih kept others after state mem

end Rest

end Coupling

namespace QueryCall

/--
Parameter names are sound along every run. The names of a query are distinct, a name has one value
in all queries that the run passes through, and a name that is handed out was in none of them.
Putting queries together loses no value, in whatever place, and a copy has the parameters of the
query. On connections that bind values, every query has the parameters that its fragments refer to.
-/
theorem parameterNames_sound (calls : List QueryCall) :
    let passed := states {} calls
    let last := runAll {} calls
    (∀ state ∈ passed, ∀ entry ∈ state.queries, (entry.2.params.map (·.name)).Nodup) ∧
    (∀ first ∈ passed, ∀ second ∈ passed, ∀ entry ∈ first.queries, ∀ entry' ∈ second.queries,
      ∀ param ∈ entry.2.params, ∀ param' ∈ entry'.2.params,
        param.name = param'.name → param.value = param'.value) ∧
    (∀ target query value, last.get? target = some query → query.isPrepared = true →
      ∃ name, (query.ledger.bind query.connection value).1 = ":" ++ name ∧
        ⟨name, value⟩ ∈ (query.ledger.bind query.connection value).2.params.entries ∧
        ∀ state ∈ passed, ∀ entry ∈ state.queries, name ∉ entry.2.params.map (·.name)) ∧
    (∀ target source query other, last.get? target = some query → last.get? source = some other →
      ∀ param ∈ query.params ++ other.params, param ∈ (query.merge other).params ∧
        (∀ keepsDuplicates, param ∈ (query.union keepsDuplicates other).params) ∧
        ∀ place : NestedPlace, param ∈ (((place.put other).run query).run last).1.2.params) ∧
    (∀ source query, last.get? source = some query →
      ∀ kind copied, kind ≠ .fresh → ((Script.CopyKind.make query kind).run last).1 = .ok copied →
        copied.params = query.params) ∧
    ((∀ call ∈ calls, ∀ connection ∈ call.connections, connection.Binds) →
      ∀ state ∈ passed, ∀ entry ∈ state.queries, entry.2.Resolves) := by
  intro passed last
  -- All states of the run follow one record, which has one value under each name.
  obtain ⟨registry, -, sound, follows⟩ := Workspace.Sound.initial.states calls
  refine ⟨fun state mem entry entry_mem => (follows state mem entry entry_mem).distinct,
    ?_, ?_, ?_, ?_, ?_⟩
  · intro first first_mem second second_mem entry entry_mem entry' entry_mem' param mem param' mem'
      name
    have recorded := (follows first first_mem entry entry_mem).recorded param mem
    have recorded' := (follows second second_mem entry' entry_mem').recorded param' mem'
    rw [recorded.eq_of_name recorded' name]
  · intro target query value found prepared
    have config : query.connection.config.prepared = true := prepared
    rw [Ledger.bind_of_prepared config]
    refine ⟨query.ledger.params.nextName, rfl, ?_, ?_⟩
    · exact List.mem_append_right _ (List.mem_singleton_self _)
    · intro state mem entry entry_mem
      exact (follows state mem entry entry_mem).nextName_notMem
        (sound.owns _ (Workspace.get?_mem found))
  · intro target source query other found found' param mem
    have target_follows := sound.follows _ (Workspace.get?_mem found)
    have source_follows := sound.follows _ (Workspace.get?_mem found')
    have kept : param ∈ (query.ledger.adopt other.ledger).params.entries := by
      rcases List.mem_append.1 mem with mem | mem
      · exact ParamList.subset_extend _ _ mem
      · exact target_follows.subset_extend_right source_follows mem
    refine ⟨?_, fun keepsDuplicates => ?_, fun place => ?_⟩
    · simpa [Query.params] using kept
    · simpa [Query.params] using kept
    · rwa [Query.params, (place.ledger_put other query last).1]
  · intro source query found kind copied inherits made
    exact Script.CopyKind.params_make (sound.follows _ (Workspace.get?_mem found)).distinct inherits
      made
  · intro binds
    have rest : (Coupling.same false Connection.Binds fun _ => id).Rest (fun _ => []) {} {} :=
      .initial rfl
    exact rest.states trivial (fun _ => trivial) calls fun call mem connection asked =>
      ⟨rfl, binds call mem connection asked⟩

/-- A clone goes its own way and is then put together with its original, twice. -/
theorem parameterNames_sound_clone :
    let calls : List QueryCall :=
      [.create "a" (.ofConfig {}) { table := some "t" }, .filter "a" "x" (.int 1),
        .copy .clone "a" "b", .filter "b" "y" (.int 2), .merge "a" "b", .union false "a" "b"]
    (∀ call ∈ calls, ∀ connection ∈ call.connections, connection.Binds) ∧
      ∃ query, (runAll {} calls).get? "a" = some query ∧ query.Resolves ∧
        query.params.map (fun param => (param.name, param.value.debug)) =
          [("p1_0", "Int(1)"), ("p2_0", "Int(2)")] ∧
        query.sql = "select * from \"t\" where \"x\" = :p1_0" ++
          " select * from \"t\" where \"x\" = :p1_0 and \"y\" = :p2_0" ++
          " union select * from \"t\" where \"x\" = :p1_0 and \"y\" = :p2_0" := by
  intro calls
  have binds : ∀ call ∈ calls, ∀ connection ∈ call.connections, connection.Binds := by
    refine List.forall_mem_cons.2 ⟨?_, by simp [connections]⟩
    exact List.forall_mem_singleton.2 ⟨rfl, .postgres, rfl⟩
  have written : ((runAll {} calls).get? "a").map (fun query =>
      (query.params.map fun param => (param.name, param.value.debug), query.sql)) =
        some ([("p1_0", "Int(1)"), ("p2_0", "Int(2)")],
          "select * from \"t\" where \"x\" = :p1_0" ++
            " select * from \"t\" where \"x\" = :p1_0 and \"y\" = :p2_0" ++
            " union select * from \"t\" where \"x\" = :p1_0 and \"y\" = :p2_0") := by
    decide +kernel
  obtain ⟨query, found, same⟩ := Option.map_eq_some_iff.1 written
  obtain ⟨params, sql⟩ := Prod.ext_iff.1 same
  obtain ⟨-, -, -, -, -, resolves⟩ := parameterNames_sound calls
  have resolved := resolves binds _ (runAll_mem_states {} calls) _ (Workspace.get?_mem found)
  exact ⟨binds, query, found, resolved, params, sql⟩

end QueryCall

end SqlBuilder
