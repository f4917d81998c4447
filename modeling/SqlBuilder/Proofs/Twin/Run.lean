import SqlBuilder.Proofs.Script.Calls
import SqlBuilder.Proofs.Twin.Expression

/-!
# Running in both runs

What it means that two steps run alike. A step that builds operands works on the workspaces of both
runs, a step that edits works on a pair of twin queries as well. Either way the workspaces stay twin
on a record that has grown, all builder calls on the way are made on twin queries, and the results
are related. Values are recorded in the namespace of the query at hand and in those that are taken
on the way only, which is why the queries that rest in the workspace stay owners of theirs.
-/

namespace SqlBuilder

open Script

/-- What a step leaves of a record and a workspace. Apart from its own namespace, if it has one, the
namespaces in use are as they were, and a query that was named has recorded nothing. -/
structure Workspace.Progress (registry later : Registry) (own : Option Nat)
    (before after : Workspace) : Prop where
  extended : registry.Extends later
  elsewhere : ∀ namespaceId < before.nextNamespace, own ≠ some namespaceId →
    later namespaceId = registry namespaceId
  next : before.nextNamespace ≤ after.nextNamespace
  entries : ∀ entry ∈ after.queries, entry ∈ before.queries ∨
    before.nextNamespace ≤ entry.2.namespaceId ∧ entry.2.ledger.params.nextIndex = 0 ∧
      later entry.2.namespaceId = []

theorem Workspace.Progress.refl (registry : Registry) (own : Option Nat) (workspace : Workspace) :
    Progress registry registry own workspace workspace where
  extended := .refl registry
  elsewhere _ _ _ := rfl
  next := Nat.le_refl _
  entries _ mem := .inl mem

namespace Coupling

variable (coupling : Coupling)

/-- Twin workspaces: the same names for twin queries, which follow one record. -/
structure Workspaces (registry : Registry) (workspace workspace' : Workspace) : Prop where
  queries : List.Forall₂ (fun entry entry' => entry'.1 = entry.1 ∧
    coupling.Nested registry false entry.2 entry'.2) workspace.queries workspace'.queries
  counters : coupling.counters workspace.nextNamespace workspace'.nextNamespace
  below : ∀ entry ∈ workspace.queries, entry.2.namespaceId < workspace.nextNamespace
  distinct : workspace.queries.Pairwise fun entry other =>
    entry.2.namespaceId ≠ other.2.namespaceId
  unused : ∀ namespaceId, workspace.nextNamespace ≤ namespaceId → registry namespaceId = []
  aborted : workspace'.aborted = workspace.aborted

/-- Twin queries at hand: the first one counts the values of its namespace. -/
structure InHand (registry : Registry) (next : Nat) (query query' : Query) : Prop extends
    coupling.Nested registry false query query' where
  owns : query.ledger.params.Owns registry
  below : query.namespaceId < next

/-- Builder calls that are the same step on twin queries. -/
structure CallTwin (registry : Registry) (call call' : Call) : Prop where
  step : call'.step = call.step
  query : coupling.Nested registry false call.query call'.query
  result : coupling.Nested registry false call.result call'.result

/-- Lists of builder calls that are the same steps on twin queries. -/
abbrev CallTwins (registry : Registry) : List Call → List Call → Prop :=
  List.Forall₂ (coupling.CallTwin registry)

variable {coupling} {registry later latest : Registry}

/-- Twin queries with the ledgers of queries at hand are at hand. -/
theorem InHand.of_ledger_eq {next : Nat} {query query' changed changed' : Query}
    (hand : coupling.InHand registry next query query') (same : changed.ledger = query.ledger)
    (same' : changed'.ledger = query'.ledger)
    (twin : changed.Twin coupling query.params changed') :
    coupling.InHand registry next changed changed' where
  twin := by
    rwa [Query.params, same]
  ledgers := by
    rw [same, same']
    exact hand.ledgers
  follows := by
    rw [same]
    exact hand.follows
  silent := by simp
  owns := by
    rw [same]
    exact hand.owns
  below := by
    rw [Query.namespaceId, same]
    exact hand.below

theorem CallTwins.mono {calls calls' : List Call} (twins : coupling.CallTwins registry calls calls')
    (extended : registry.Extends later) : coupling.CallTwins later calls calls' :=
  twins.imp fun _ _ twin => ⟨twin.step, twin.query.mono extended, twin.result.mono extended⟩

/-- A step in front of another one. -/
theorem Workspaces.trans {own : Option Nat} {workspace between after between' : Workspace}
    (twins : coupling.Workspaces later between between')
    (below : ∀ namespaceId, own = some namespaceId → namespaceId < workspace.nextNamespace)
    (first : Workspace.Progress registry later own workspace between)
    (second : Workspace.Progress later latest own between after) :
    Workspace.Progress registry latest own workspace after where
  extended := first.extended.trans second.extended
  elsewhere namespaceId inUse other :=
    (second.elsewhere namespaceId (Nat.lt_of_lt_of_le inUse first.next) other).trans
      (first.elsewhere namespaceId inUse other)
  next := Nat.le_trans first.next second.next
  entries entry mem := by
    rcases second.entries entry mem with mem | ⟨above, unused, empty⟩
    · rcases first.entries entry mem with mem | ⟨above, unused, empty⟩
      · exact .inl mem
      · have other : own ≠ some entry.2.namespaceId := fun same =>
          Nat.lt_irrefl _ (Nat.lt_of_lt_of_le (below _ same) above)
        have kept := second.elsewhere _ (twins.below entry mem) other
        exact .inr ⟨above, unused, kept.trans empty⟩
    · exact .inr ⟨Nat.le_trans first.next above, unused, empty⟩

variable {α β γ δ : Type}

variable (coupling) in
/-- Whether two steps that build operands run alike, with the builder calls that they make. -/
def Builds (registry : Registry) (workspace workspace' : Workspace) (calls calls' : List Call)
    (action : Session α) (action' : Session β) (post : Registry → α → β → Prop) : Prop :=
  coupling.Workspaces registry workspace workspace' →
    let out := action.run workspace
    let out' := action'.run workspace'
    ∃ later, Workspace.Progress registry later none workspace out.2 ∧
      coupling.Workspaces later out.2 out'.2 ∧ coupling.CallTwins later calls calls' ∧
      post later out.1 out'.1

variable (coupling) in
/-- Whether two steps that edit run alike on twin queries, with the builder calls that they make. -/
def Edits (registry : Registry) (query query' : Query) (workspace workspace' : Workspace)
    (calls calls' : List Call) (action : Edit α) (action' : Edit β)
    (post : World → α → β → Prop) : Prop :=
  coupling.InHand registry workspace.nextNamespace query query' →
  coupling.Workspaces registry workspace workspace' →
    let out := (action.run query).run workspace
    let out' := (action'.run query').run workspace'
    ∃ later, Workspace.Progress registry later (some query.namespaceId) workspace out.2 ∧
      out.1.2.namespaceId = query.namespaceId ∧ query.params ⊆ out.1.2.params ∧
      coupling.InHand later out.2.nextNamespace out.1.2 out'.1.2 ∧
      coupling.Workspaces later out.2 out'.2 ∧ coupling.CallTwins later calls calls' ∧
      post ⟨later, out.1.2.params⟩ out.1.1 out'.1.1

/-! ### Steps that build operands -/

namespace Builds

variable {workspace workspace' : Workspace} {calls calls' more more' : List Call}

theorem pure {value : α} {value' : β} {post : Registry → α → β → Prop}
    (holds : post registry value value') :
    coupling.Builds registry workspace workspace' [] [] (pure value) (pure value') post :=
  fun twins => ⟨registry, .refl registry none workspace, twins, .nil, holds⟩

theorem bind {action : Session α} {action' : Session β} {next : α → Session γ}
    {next' : β → Session δ} {mid : Registry → α → β → Prop} {post : Registry → γ → δ → Prop}
    (first : coupling.Builds registry workspace workspace' calls calls' action action' mid)
    (second : ∀ later, registry.Extends later →
      mid later (action.run workspace).1 (action'.run workspace').1 →
      coupling.Builds later (action.run workspace).2 (action'.run workspace').2 more more'
        (next (action.run workspace).1) (next' (action'.run workspace').1) post) :
    coupling.Builds registry workspace workspace' (calls ++ more) (calls' ++ more')
      (action >>= next) (action' >>= next') post := by
  intro twins
  obtain ⟨later, progress, twins, called, held⟩ := first twins
  obtain ⟨latest, progress', twins', called', held'⟩ := second later progress.extended held twins
  exact ⟨latest, twins.trans (by simp) progress progress', twins',
    List.rel_append (called.mono progress'.extended) called', held'⟩

theorem map {action : Session α} {action' : Session β} {build : α → γ} {build' : β → δ}
    {mid : Registry → α → β → Prop} {post : Registry → γ → δ → Prop}
    (first : coupling.Builds registry workspace workspace' calls calls' action action' mid)
    (combine : ∀ later value value', registry.Extends later → mid later value value' →
      post later (build value) (build' value')) :
    coupling.Builds registry workspace workspace' calls calls' (do return build (← action))
      (do return build' (← action')) post := by
  intro twins
  obtain ⟨later, progress, twins, called, held⟩ := first twins
  exact ⟨later, progress, twins, called, combine later _ _ progress.extended held⟩

end Builds

/-! ### Steps that edit -/

namespace Edits

variable {query query' : Query} {workspace workspace' : Workspace}
  {calls calls' more more' : List Call}

theorem pure {value : α} {value' : β} {post : World → α → β → Prop}
    (holds : post ⟨registry, query.params⟩ value value') :
    coupling.Edits registry query query' workspace workspace' [] [] (pure value) (pure value')
      post :=
  fun hand twins => ⟨registry, .refl registry _ workspace, rfl, List.Subset.refl _, hand, twins,
    .nil, holds⟩

theorem bind {action : Edit α} {action' : Edit β} {next : α → Edit γ} {next' : β → Edit δ}
    {mid : World → α → β → Prop} {post : World → γ → δ → Prop}
    (first : coupling.Edits registry query query' workspace workspace' calls calls' action action'
      mid) :
    let out := (action.run query).run workspace
    let out' := (action'.run query').run workspace'
    (∀ later, World.Grows ⟨registry, query.params⟩ ⟨later, out.1.2.params⟩ →
      mid ⟨later, out.1.2.params⟩ out.1.1 out'.1.1 →
      coupling.Edits later out.1.2 out'.1.2 out.2 out'.2 more more' (next out.1.1)
        (next' out'.1.1) post) →
    coupling.Edits registry query query' workspace workspace' (calls ++ more) (calls' ++ more')
      (action >>= next) (action' >>= next') post := by
  intro out out' second before twins
  obtain ⟨later, progress, same, known, hand, twins, called, held⟩ := first before twins
  obtain ⟨latest, progress', same', known', hand', twins', called', held'⟩ :=
    second later ⟨progress.extended, known⟩ held hand twins
  have below : ∀ namespaceId, some query.namespaceId = some namespaceId →
      namespaceId < workspace.nextNamespace := by
    rintro _ ⟨⟩
    exact before.below
  rw [same] at progress'
  exact ⟨latest, twins.trans below progress progress', same'.trans same,
    List.Subset.trans known known', hand', twins',
    List.rel_append (called.mono progress'.extended) called', held'⟩

/-- Builder calls are made by the first of two steps only. -/
theorem bind_idle {action : Edit α} {action' : Edit β} {next : α → Edit γ} {next' : β → Edit δ}
    {mid : World → α → β → Prop} {post : World → γ → δ → Prop}
    (first : coupling.Edits registry query query' workspace workspace' calls calls' action action'
      mid) :
    let out := (action.run query).run workspace
    let out' := (action'.run query').run workspace'
    (∀ later, World.Grows ⟨registry, query.params⟩ ⟨later, out.1.2.params⟩ →
      mid ⟨later, out.1.2.params⟩ out.1.1 out'.1.1 →
      coupling.Edits later out.1.2 out'.1.2 out.2 out'.2 [] [] (next out.1.1)
        (next' out'.1.1) post) →
    coupling.Edits registry query query' workspace workspace' calls calls'
      (action >>= next) (action' >>= next') post := by
  intro out out' second
  have both := bind first second
  rwa [List.append_nil, List.append_nil] at both

theorem consequence {action : Edit α} {action' : Edit β} {mid post : World → α → β → Prop}
    (first : coupling.Edits registry query query' workspace workspace' calls calls' action action'
      mid)
    (weaker : ∀ world value value', mid world value value' → post world value value') :
    coupling.Edits registry query query' workspace workspace' calls calls' action action' post := by
  intro hand twins
  obtain ⟨later, progress, same, known, hand, twins, called, held⟩ := first hand twins
  exact ⟨later, progress, same, known, hand, twins, called, weaker _ _ _ held⟩

/-- Whether steps run alike depends on what they do only. -/
theorem of_run_eq {action other : Edit α} {action' other' : Edit β} {post : World → α → β → Prop}
    (edits : coupling.Edits registry query query' workspace workspace' calls calls' other other'
      post)
    (same : (action.run query).run workspace = (other.run query).run workspace)
    (same' : (action'.run query').run workspace' = (other'.run query').run workspace') :
    coupling.Edits registry query query' workspace workspace' calls calls' action action' post := by
  unfold Edits
  rw [same, same']
  exact edits

theorem get_bind {next next' : Query → Edit α} {post : World → α → α → Prop}
    (second : coupling.Edits registry query query' workspace workspace' calls calls' (next query)
      (next' query') post) :
    coupling.Edits registry query query' workspace workspace' calls calls' (get >>= next)
      (get >>= next') post :=
  second

/-- What was known about both queries can be used to show that a step runs alike. -/
theorem of_hand {action : Edit α} {action' : Edit β} {post : World → α → β → Prop}
    (edits : coupling.InHand registry workspace.nextNamespace query query' →
      coupling.Edits registry query query' workspace workspace' calls calls' action action' post) :
    coupling.Edits registry query query' workspace workspace' calls calls' action action' post :=
  fun hand => edits hand hand

/-- A builder call is made on the queries at hand. -/
theorem called (step : Step) {action : Edit α} {action' : Edit β} {post : World → α → β → Prop}
    (edits : coupling.Edits registry query query' workspace workspace' calls calls' action action'
      post) :
    let result := ((action.run query).run workspace).1.2
    let result' := ((action'.run query').run workspace').1.2
    coupling.Edits registry query query' workspace workspace'
      (⟨step, query, workspace, result⟩ :: calls) (⟨step, query', workspace', result'⟩ :: calls')
      action action' post := by
  intro result result' hand twins
  obtain ⟨later, progress, same, known, hand', twins, called, held⟩ := edits hand twins
  exact ⟨later, progress, same, known, hand', twins,
    .cons ⟨rfl, hand.toNested.mono progress.extended, hand'.toNested⟩ called, held⟩

/-- Operands are built before the query at hand changes. -/
theorem build_bind {action : Session α} {action' : Session β} {next : α → Edit γ}
    {next' : β → Edit δ} {mid : Registry → α → β → Prop} {post : World → γ → δ → Prop}
    (first : coupling.Builds registry workspace workspace' calls calls' action action' mid)
    (second : ∀ later, registry.Extends later →
      mid later (action.run workspace).1 (action'.run workspace').1 →
      coupling.Edits later query query' (action.run workspace).2 (action'.run workspace').2
        more more' (next (action.run workspace).1) (next' (action'.run workspace').1) post) :
    coupling.Edits registry query query' workspace workspace' (calls ++ more) (calls' ++ more')
      (liftM action >>= next) (liftM action' >>= next') post := by
  intro hand twins
  obtain ⟨later, progress, twins, called, held⟩ := first twins
  have kept : later query.namespaceId = registry query.namespaceId :=
    progress.elsewhere _ hand.below (by simp)
  have hand' : coupling.InHand later (action.run workspace).2.nextNamespace query query' :=
    { hand.toNested.mono progress.extended with
      owns := hand.owns.trans (congrArg List.length kept.symm)
      below := Nat.lt_of_lt_of_le hand.below progress.next }
  obtain ⟨latest, progress', same, known, hand'', twins', called', held'⟩ :=
    second later progress.extended held hand' twins
  have own : Workspace.Progress registry later (some query.namespaceId) workspace
      (action.run workspace).2 :=
    { progress with elsewhere := fun namespaceId inUse _ =>
        progress.elsewhere namespaceId inUse (by simp) }
  have below : ∀ namespaceId, some query.namespaceId = some namespaceId →
      namespaceId < workspace.nextNamespace := by
    rintro _ ⟨⟩
    exact hand.below
  exact ⟨latest, twins.trans below own progress', same, known, hand'', twins',
    List.rel_append (called.mono progress'.extended) called', held'⟩

theorem build_bind_idle {action : Session α} {action' : Session β} {next : α → Edit γ}
    {next' : β → Edit δ} {mid : Registry → α → β → Prop} {post : World → γ → δ → Prop}
    (first : coupling.Builds registry workspace workspace' calls calls' action action' mid)
    (second : ∀ later, registry.Extends later →
      mid later (action.run workspace).1 (action'.run workspace').1 →
      coupling.Edits later query query' (action.run workspace).2 (action'.run workspace').2
        [] [] (next (action.run workspace).1) (next' (action'.run workspace').1) post) :
    coupling.Edits registry query query' workspace workspace' calls calls'
      (liftM action >>= next) (liftM action' >>= next') post := by
  have both := build_bind first second
  rwa [List.append_nil, List.append_nil] at both

/-- Compiling changes the ledger of the query at hand. -/
theorem compiling {action : Connection → Compile α} {action' : Connection → Compile β}
    {post : World → α → β → Prop} {quiet : Bool}
    (compiles : coupling.connections query.connection query'.connection →
      coupling.Compiles quiet ⟨registry, query.params⟩ (action query.connection)
        (action' query'.connection) post) :
    coupling.Edits registry query query' workspace workspace' [] [] (Edit.compiling action)
      (Edit.compiling action') post := by
  intro hand twins
  obtain ⟨same, same', ledgers, -, later, records, held⟩ :=
    compiles hand.twin.connection registry query.ledger query'.ledger workspace workspace'
      (.refl _) hand.follows hand.owns hand.ledgers
  refine ⟨later, ?_, records.namespaceId, records.kept, ?_, ?_, .nil, held⟩
  · change Workspace.Progress registry later _ workspace
      (((action query.connection).run query.ledger).run workspace).2
    rw [same]
    exact { Workspace.Progress.refl registry (some query.namespaceId) workspace with
      extended := records.extended
      elsewhere := fun namespaceId _ other =>
        records.elsewhere namespaceId fun own => other (congrArg some own.symm)
      entries := fun entry mem => .inl mem }
  · change coupling.InHand later
      (((action query.connection).run query.ledger).run workspace).2.nextNamespace _ _
    rw [same]
    have grown := hand.twin.mono records.kept
    exact
      { twin := { grown with }
        ledgers := ledgers
        follows := records.follows
        silent := by simp
        owns := records.owns
        below := Nat.lt_of_le_of_lt (Nat.le_of_eq records.namespaceId) hand.below }
  · change coupling.Workspaces later
      (((action query.connection).run query.ledger).run workspace).2
      (((action' query'.connection).run query'.ledger).run workspace').2
    rw [same, same']
    exact
      { queries := twins.queries.imp fun _ _ pair => ⟨pair.1, pair.2.mono records.extended⟩
        counters := twins.counters
        below := twins.below
        distinct := twins.distinct
        unused := fun namespaceId above => by
          have other : namespaceId ≠ query.ledger.params.namespaceId :=
            Nat.ne_of_gt (Nat.lt_of_lt_of_le hand.below above)
          rw [records.elsewhere namespaceId other]
          exact twins.unused namespaceId above
        aborted := twins.aborted }

/-- A change of both queries that records nothing. -/
theorem edit {step : Query → α × Query} {step' : Query → β × Query} {post : World → α → β → Prop}
    (twin : coupling.InHand registry workspace.nextNamespace query query' →
      (step query).2.Twin coupling (step query).2.params (step' query').2 ∧
      coupling.ledgers (step query).2.ledger (step' query').2.ledger ∧
      Ledger.Records registry registry query.ledger (step query).2.ledger ∧
      post ⟨registry, (step query).2.params⟩ (step query).1 (step' query').1) :
    coupling.Edits registry query query' workspace workspace' [] [] (modifyGet step)
      (modifyGet step') post := by
  intro hand twins
  obtain ⟨twin, ledgers, records, held⟩ := twin hand
  refine ⟨registry, .refl registry _ workspace, records.namespaceId, records.kept, ?_, twins,
    .nil, held⟩
  exact
    { twin := twin
      ledgers := ledgers
      follows := records.follows
      silent := by simp
      owns := records.owns
      below := Nat.lt_of_le_of_lt (Nat.le_of_eq records.namespaceId) hand.below }

/-- Placing twin fragments leaves the ledgers alone. -/
theorem place {step : Query → α × Query} {step' : Query → β × Query} {post : World → α → β → Prop}
    (same : (step query).2.ledger = query.ledger) (same' : (step' query').2.ledger = query'.ledger)
    (twin : query.Twin coupling query.params query' →
      (step query).2.Twin coupling query.params (step' query').2 ∧
      post ⟨registry, query.params⟩ (step query).1 (step' query').1) :
    coupling.Edits registry query query' workspace workspace' [] [] (modifyGet step)
      (modifyGet step') post := by
  refine edit fun hand => ?_
  have params : (step query).2.params = query.params :=
    congrArg (fun ledger => ledger.params.entries) same
  obtain ⟨placed, held⟩ := twin hand.twin
  rw [params, same, same']
  exact ⟨placed, hand.ledgers, .of_params_eq hand.follows hand.owns rfl, held⟩

/-- Taking over the fragments and parameters of twin queries. -/
theorem takeOver {step step' : Query → Query} {other other' : Query}
    (nested : coupling.Nested registry false other other')
    (same : (step query).ledger = query.ledger.adopt other.ledger)
    (same' : (step' query').ledger = query'.ledger.adopt other'.ledger)
    (twin : ∀ known, query.Twin coupling known query' → other.Twin coupling known other' →
      (step query).Twin coupling known (step' query')) :
    coupling.Edits registry query query' workspace workspace' [] [] (modify step) (modify step')
      fun _ _ _ => True := by
  refine edit fun hand => ?_
  have records := Ledger.Records.adopt hand.follows hand.owns nested.follows
  have mine : query.params ⊆ (query.ledger.adopt other.ledger).params.entries := records.kept
  have theirs : other.params ⊆ (query.ledger.adopt other.ledger).params.entries :=
    hand.follows.subset_extend_right nested.follows
  have params : (step query).params = (query.ledger.adopt other.ledger).params.entries :=
    congrArg (fun ledger => ledger.params.entries) same
  dsimp only
  rw [params, same, same']
  exact ⟨twin _ (hand.twin.mono mine) (nested.twin.mono theirs),
    coupling.adopted hand.ledgers nested.ledgers, records, trivial⟩

end Edits

end Coupling

end SqlBuilder
