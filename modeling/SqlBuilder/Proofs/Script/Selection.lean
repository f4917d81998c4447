import SqlBuilder.Proofs.Query.SelectList
import SqlBuilder.Proofs.Script.Inlined
import SqlBuilder.Proofs.Script.Outline

/-!
# Select lists with and without bound values

Select calls run on two connections, one that binds values and one that writes them inline. Both
runs give every call the same items but for the values. Items that differ in their placeholders only
may be one item with literals in place of them, so the run that binds nothing may drop an item that
the other one keeps.

What the queries of both runs select may differ for that reason, so they are not twin. They are
compared without their fragments: what an item is compiled to depends on the connection and on the
ledger only.
-/

namespace SqlBuilder

open Script

/-- The items of the select list of a query. -/
def Query.selectItems (query : Query) : List String :=
  (query.fragments.filter (isSelectKeyword ·.keyword)).flatMap fun fragment =>
    (fragment.payload.map (·.toItems)).getD []

/-- A query with the connection and the ledger of another one, and nothing else. -/
def Query.bare (query : Query) : Query := { connection := query.connection, ledger := query.ledger }

/-- The items that each of the select calls gives. -/
def Outline.calls (outline : Outline) : List (List String) := outline.selections.map (·.2)

namespace Script

/-- Whether a step selects columns and expressions. -/
def Step.isSelection : Step → Bool
  | .select _ _ | .selectAs _ _ => true
  | _ => false

/-- Compiles the items that a step selects. -/
def Step.itemTexts (home : Connection) : Step → Edit (List String)
  | .select _ columns => do
    let columns ← buildAll home columns
    Edit.items columns
  | .selectAs column label => do
    let column ← buildOperand home column
    let text ← Edit.resolve column
    return [text ++ " as " ++ (← get).escapePart label]
  | _ => return []

/-- The builder calls that steps in a row make in turn. -/
def nestedCalls (home : Connection) : List Step → Query → Workspace → List Call
  | [], _, _ => []
  | step :: rest, query, workspace =>
    let out := ((call home step).run query).run workspace
    innerCalls home step query workspace ++ nestedCalls home rest out.1.2 out.2

theorem Step.isOrderly_of_isSelection {step : Step} (selects : step.isSelection = true) :
    step.isOrderly = true := by
  cases step <;> first | rfl | cases selects

/-! ### Compiling apart from the fragments -/

theorem run_resolveAll_bare (operands : List Value) (query : Query) (workspace : Workspace) :
    ((Edit.resolveAll operands).run query.bare).run workspace =
      let out := ((Edit.resolveAll operands).run query).run workspace
      ((out.1.1, out.1.2.bare), out.2) := by
  induction operands generalizing query workspace with
  | nil => rfl
  | cons operand rest ih =>
      let first := ((Edit.resolve operand).run query).run workspace
      have others := ih first.1.2 first.2
      change ((first.1.1 :: (((Edit.resolveAll rest).run first.1.2.bare).run first.2).1.1,
        (((Edit.resolveAll rest).run first.1.2.bare).run first.2).1.2),
        (((Edit.resolveAll rest).run first.1.2.bare).run first.2).2) = _
      rw [others]
      rfl

theorem run_items_bare (columns : List Value) (query : Query) (workspace : Workspace) :
    ((Edit.items columns).run query.bare).run workspace =
      let out := ((Edit.items columns).run query).run workspace
      ((out.1.1, out.1.2.bare), out.2) := by
  let orStar (out : (List String × Query) × Workspace) : (List String × Query) × Workspace :=
    ((if out.1.1.isEmpty then ["*"] else out.1.1, out.1.2), out.2)
  have compiled (query : Query) : ((Edit.items columns).run query).run workspace =
      orStar (((Edit.resolveAll columns).run query).run workspace) := rfl
  rw [compiled, compiled, run_resolveAll_bare]

/-- Placing a fragment binds nothing. -/
theorem bare_add (query : Query) (fragment : Fragment) :
    (query.add fragment).bare = query.bare := by
  rw [Query.bare, Query.bare, query.connection_add, query.ledger_add]

/-- A select call compiles its items, whatever fragments there are, and places them. -/
theorem call_selection (home : Connection) {step : Step} (selects : step.isSelection = true)
    (query : Query) (workspace : Workspace) (outline : Outline) :
    let out := ((call home step).run query).run workspace
    let items := ((step.itemTexts home).run query.bare).run workspace
    out.1.2.bare = items.1.2 ∧ out.2 = items.2 ∧
      (step.outline home query workspace outline).calls = outline.calls ++ [items.1.1] := by
  match step with
  | .select distinct columns =>
      let built := (buildAll home columns).run workspace
      have items : (((Step.select distinct columns).itemTexts home).run query.bare).run workspace =
          ((Edit.items built.1).run query.bare).run built.2 := rfl
      dsimp only
      rw [items, run_items_bare]
      exact ⟨bare_add _ _, rfl, List.map_append⟩
  | .selectAs column label =>
      exact ⟨bare_add _ _, rfl, List.map_append⟩

end Script

/-! ### Select calls in both runs -/

namespace Coupling

variable {coupling : Coupling} {home home' : Connection}

/-- Select calls compile twin items. -/
theorem itemTexts_twin (connections : coupling.connections home home') {step : Step}
    (selects : step.isSelection = true) {registry : Registry} {query query' : Query}
    {workspace workspace' : Workspace} (leaves : coupling.CleanLeaves step.leaves)
    (clean : ∀ call ∈ innerCalls home step query workspace, coupling.Clean home call) :
    coupling.Edits registry query query' workspace workspace' (innerCalls home step query workspace)
      (innerCalls home' step query' workspace') (step.itemTexts home) (step.itemTexts home')
      fun world texts texts' => List.Forall₂ (coupling.Text world.known) texts texts' := by
  cases step with
  | select distinct columns =>
      refine .build_bind_idle (buildAll_twin connections columns leaves.all_of_resolved clean)
        fun later _ built => ?_
      obtain ⟨trees, same, same', admits⟩ := built
      rw [same, same']
      exact (Edits.resolveAll admits.all_resolved).returned fun _ _ _ all => forall₂_orStar all
  | selectAs column label =>
      refine .build_bind_idle (buildOperand_twin connections column leaves.of_resolved clean)
        fun later _ built => ?_
      obtain ⟨tree, same, same', admits⟩ := built
      rw [same, same']
      refine .bind_idle (.resolve admits.resolved) fun last grown written => .of_hand fun hand => ?_
      refine .get_bind (.pure (.cons ?_ .nil))
      rw [hand.twin.escapePart]
      exact written.joined " as " (by decide) (by decide) (by decide)
        (.plain (hand.twin.plain_escapePart label))
  | _ => cases selects

/-- Steps that select ask for twin items, on queries that are twin apart from what they select. -/
theorem outlineAll_twin (connections : coupling.connections home home') (steps : List Step)
    (selects : ∀ step ∈ steps, step.isSelection = true)
    (leaves : ∀ step ∈ steps, coupling.CleanLeaves step.leaves)
    {registry : Registry} {query query' : Query} {workspace workspace' : Workspace}
    {outline outline' : Outline}
    (clean : ∀ call ∈ nestedCalls home steps query workspace, coupling.Clean home call)
    (hand : coupling.InHand registry workspace.nextNamespace query.bare query'.bare)
    (twins : coupling.Workspaces registry workspace workspace')
    (asked : List.Forall₂ (List.Forall₂ (coupling.Text query.params)) outline.calls
      outline'.calls) :
    let out := ((runSteps home steps).run query).run workspace
    let out' := ((runSteps home' steps).run query').run workspace'
    ∃ later, coupling.InHand later out.2.nextNamespace out.1.2.bare out'.1.2.bare ∧
      List.Forall₂ (List.Forall₂ (coupling.Text out.1.2.params))
        (Step.outlineAll home steps query workspace outline).calls
        (Step.outlineAll home' steps query' workspace' outline').calls := by
  induction steps generalizing registry query query' workspace workspace' outline outline' with
  | nil => exact ⟨registry, hand, asked⟩
  | cons step rest ih =>
      obtain ⟨own, others⟩ := List.forall_mem_cons.1 selects
      -- The runs may differ in their select lists, so they are compared without them.
      obtain ⟨bare, left, calls⟩ := call_selection home own query workspace outline
      obtain ⟨bare', left', calls'⟩ := call_selection home' own query' workspace' outline'
      have inner : innerCalls home step query.bare workspace =
          innerCalls home step query workspace := by
        cases step <;> first | rfl | cases own
      obtain ⟨later, -, -, known, hand, twins, -, items⟩ :=
        itemTexts_twin connections own (leaves step List.mem_cons_self)
          (fun call mem => clean call (List.mem_append_left _ (inner ▸ mem))) hand twins
      rw [← bare, ← bare', ← left] at hand
      rw [← left, ← left'] at twins
      rw [← bare] at known items
      refine ih others (fun step mem => leaves step (List.mem_cons_of_mem _ mem))
        (fun call mem => clean call (List.mem_append_right _ mem)) hand twins ?_
      rw [calls, calls']
      refine List.rel_append ?_ (.cons items .nil)
      exact asked.imp fun _ _ pairs => pairs.imp fun _ _ pair => pair.mono known

end Coupling

namespace Script

/-- The query that steps make of a new one, on the connection of a configuration. -/
def selected (config : Config) (steps : List Step) : Query :=
  let home := Connection.ofConfig config
  let made := (Query.new home).run {}
  (((runSteps home steps).run made.1).run made.2).1.2

/-- What steps ask a new query for, on the connection of a configuration. -/
def asked (config : Config) (steps : List Step) : Outline :=
  let home := Connection.ofConfig config
  let made := (Query.new home).run {}
  Step.outlineAll home steps made.1 made.2 {}

/-- Whether steps only select, and nothing user-defined. Their verbatim SQL has no quotes and
colons. Nested queries may be built by any calls of that kind, but their own select lists bind
nothing. -/
structure Selects (config : Config) (steps : List Step) : Prop where
  selects : ∀ step ∈ steps, step.isSelection = true
  own : ∀ step ∈ steps, step.Within isCode fun _ => False
  nested : let made := (Query.new (.ofConfig config)).run {}
    ∀ call ∈ nestedCalls (.ofConfig config) steps made.1 made.2,
      call.step.Within isCode (fun _ => False) ∧
        ∀ leaf ∈ call.itemLeaves (.ofConfig config), bindsNothing leaf

/-- Select calls make the select list that they ask for. -/
theorem selectItems_selected (config : Config) {steps : List Step}
    (selects : ∀ step ∈ steps, step.isSelection = true) :
    (selected config steps).selectItems = Outline.items (asked config steps).calls := by
  let home := Connection.ofConfig config
  have orderly : steps.all (·.isOrderly) = true :=
    List.all_eq_true.2 fun step mem => Step.isOrderly_of_isSelection (selects step mem)
  have outlined : (selected config steps).Outlined (asked config steps) :=
    (Query.Outlined.made home {} {}).runSteps home orderly ((Query.new home).run {}).2
  have list := outlined.describes.isFollowed.selectList
  unfold Query.selectItems
  rw [list, Outline.selectList]
  cases empty : (asked config steps).selections with
  | nil => simp [Outline.calls, Outline.items, empty]
  | cons first rest => simp [Outline.calls, empty, Payload.toItems]

end Script

/-- Texts that are twin to each other translate each other, as long as bound values have literals:
the literals are determined, and the star is no value. -/
theorem Coupling.translates {config : Config} {params : List Param}
    (distinct : (params.map (·.name)).Nodup)
    (quoted : ∀ param ∈ params, (Connection.ofConfig config).quote param.value =
      .ok ((Connection.ofConfig config).literalText param.value)) :
    Outline.Translates ((Coupling.inline config).Text params) where
  functional one other := by
    have inlined := Coupling.inlined_of_text one distinct quoted .raw
    rw [Coupling.inlined_of_text other distinct quoted .raw] at inlined
    exact (Except.ok.inj inlined).symm
  star text := by
    rw [← String.toList_inj, ← String.toList_inj]
    exact Writing.Chars.eq_plain_iff text (.codes (by decide))

/-- What has a literal has the one that is written for it. -/
theorem Connection.quote_eq_literalText {connection : Connection} {value : Scalar}
    (quoted : (connection.quote value).isOk = true) :
    connection.quote value = .ok (connection.literalText value) := by
  unfold literalText
  cases written : connection.quote value with
  | ok literal => rfl
  | error error =>
      rw [written] at quoted
      cases quoted

/-- Select calls ask for twin items in both modes. -/
theorem Script.Selects.asked_twin {config : Config} {steps : List Step}
    (selects : Selects { config with prepared := true } steps) :
    let params := (selected { config with prepared := true } steps).params
    (params.map (·.name)).Nodup ∧
      List.Forall₂ (List.Forall₂ ((Coupling.inline config).Text params))
        (asked { config with prepared := true } steps).calls
        (asked { config with prepared := false } steps).calls := by
  let home := Connection.ofConfig { config with prepared := true }
  let home' := Connection.ofConfig { config with prepared := false }
  have connections : (Coupling.inline config).connections home home' := ⟨rfl, rfl⟩
  have rest : (Coupling.inline config).Rest (fun _ => []) {} {} := .initial trivial
  have start := rest.toWorkspaces
  have made := Coupling.Made.new connections start
  have hand : (Coupling.inline config).InHand _ _ ((Query.new home).run {}).1.bare
      ((Query.new home').run {}).1.bare := made.inHand start
  have nothing : List.Forall₂ (List.Forall₂ ((Coupling.inline config).Text
      ((Query.new home).run {}).1.params)) (Outline.calls {}) (Outline.calls {}) := .nil
  have within {step : Step} (within : step.Within isCode fun _ => False) :
      step.Within (Coupling.inline config).isCode fun connection =>
        (Coupling.inline config).connections connection connection :=
    { placed := within.placed
      leaves := fun leaf mem => (within.leaves leaf mem).imp
        (fun c code => by simp [Writing.isCode, code, Coupling.inline])
        fun _ impossible => impossible.elim }
  obtain ⟨registry, hand, texts⟩ := Coupling.outlineAll_twin connections steps selects.selects
    (fun step mem leaf leaf_mem => ((within (selects.own step mem)).leaves leaf leaf_mem).giving
      fun _ _ => trivial)
    (fun call mem => ⟨within (selects.nested call mem).1, fun _ _ => trivial,
      .inr (selects.nested call mem).2⟩)
    hand (made.workspaces start) nothing
  exact ⟨hand.follows.distinct, texts⟩

/--
Select lists in both modes. Steps that select, and nothing user-defined, run on two connections that
differ in whether values are bound, and every value that is bound has a literal. Then the select
list without bound values has each item of the other one, with literals in place of placeholders. It
is never the longer one, and as long exactly if every call adds the same of its items in both runs;
then the items are in the same order, too.
-/
theorem Script.selectItems_unprepared (config : Config) {steps : List Step}
    (selects : Selects { config with prepared := true } steps)
    (quoted : ∀ param ∈ (selected { config with prepared := true } steps).params,
      ((Connection.ofConfig config).quote param.value).isOk = true) :
    let query := selected { config with prepared := true } steps
    let query' := selected { config with prepared := false } steps
    let written (item item' : String) : Prop :=
      Statement.inlined { query.statement with sql := item } (.ofConfig config) = .ok item'
    (∀ item ∈ query.selectItems, ∃ item' ∈ query'.selectItems, written item item') ∧
      query'.selectItems.length ≤ query.selectItems.length ∧
      (query'.selectItems.length = query.selectItems.length ↔
        Outline.additions (asked { config with prepared := false } steps).calls =
          Outline.additions (asked { config with prepared := true } steps).calls) ∧
      (query'.selectItems.length = query.selectItems.length →
        List.Forall₂ written query.selectItems query'.selectItems) := by
  intro query query' written
  obtain ⟨distinct, texts⟩ := selects.asked_twin
  have literals : ∀ param ∈ query.params, (Connection.ofConfig config).quote param.value =
      .ok ((Connection.ofConfig config).literalText param.value) :=
    fun param mem => Connection.quote_eq_literalText (quoted param mem)
  obtain ⟨trails, lengths⟩ :=
    Outline.Trails.items (Coupling.translates distinct literals) texts
  have items := selectItems_selected { config with prepared := true } selects.selects
  have items' := selectItems_selected { config with prepared := false } selects.selects
  have inlined {item item' : String}
      (text : (Coupling.inline config).Text query.params item item') : written item item' :=
    Coupling.inlined_of_text text distinct literals query.kind
  rw [show query.selectItems = _ from items, show query'.selectItems = _ from items']
  refine ⟨fun item mem => ?_, trails.shorter, lengths, fun same => ?_⟩
  · obtain ⟨item', mem', text⟩ := trails.image item mem
    exact ⟨item', mem', inlined text⟩
  · exact (trails.paired same).imp fun item item' text => inlined text

/-- A column that is asked for again is dropped in both modes, and a text is written inline in
both. -/
theorem Script.selectItems_unprepared_quoted :
    let config : Config := { dialect := .mysql }
    let steps : List Step :=
      [.select false [.column "id", .expr (.call "abs" [.scalar (.int 1)])],
        .select true [.column "id", .expr (.call "lower" [.scalar (.text "O'Brien :p1_0")])],
        .selectAs (.expr (.call "abs" [.scalar (.int 1)])) "n"]
    let query := selected { config with prepared := true } steps
    let query' := selected { config with prepared := false } steps
    Selects { config with prepared := true } steps ∧
      (∀ param ∈ query.params,
        ((Connection.ofConfig config).quote param.value).isOk = true) ∧
      query.selectItems =
        ["`id`", "abs(:p1_0)", "lower('O''Brien :p1_0')", "abs(:p1_1) as `n`"] ∧
      query'.selectItems =
        ["`id`", "abs(1)", "lower('O''Brien :p1_0')", "abs(1) as `n`"] ∧
      List.Forall₂ (fun item item' =>
        Statement.inlined { query.statement with sql := item } (.ofConfig config) = .ok item')
        query.selectItems query'.selectItems := by
  intro config steps query query'
  let within := Script.Within isCode (fun _ => True) fun _ => False
  have call (name : String) (code : name.toList.all isCode = true)
      {argument : Leaf QueryDraft CustomDraft} (allowed : within argument) :
      ∀ leaf ∈ [.verbatim name, argument], within leaf :=
    List.forall_mem_cons.2 ⟨List.all_eq_true.1 code, List.forall_mem_singleton.2 allowed⟩
  let made := (Query.new (.ofConfig { config with prepared := true })).run {}
  have alone : (nestedCalls (.ofConfig { config with prepared := true }) steps made.1
      made.2).isEmpty = true := by decide +kernel
  have selects : Selects { config with prepared := true } steps :=
    { selects := List.all_eq_true.1 (by decide)
      own := List.forall_mem_cons.2 ⟨⟨rfl, call "abs" (by decide) trivial⟩,
        List.forall_mem_cons.2 ⟨⟨rfl, call "lower" (by decide) trivial⟩,
          List.forall_mem_singleton.2 ⟨rfl, call "abs" (by decide) trivial⟩⟩⟩
      nested := by
        intro made call mem
        rw [List.isEmpty_iff.1 alone] at mem
        cases mem }
  have quoted : ∀ param ∈ query.params,
      ((Connection.ofConfig config).quote param.value).isOk = true := by decide +kernel
  have items : query.selectItems =
      ["`id`", "abs(:p1_0)", "lower('O''Brien :p1_0')", "abs(:p1_1) as `n`"] := by decide +kernel
  have items' : query'.selectItems =
      ["`id`", "abs(1)", "lower('O''Brien :p1_0')", "abs(1) as `n`"] := by decide +kernel
  obtain ⟨-, -, -, paired⟩ := selectItems_unprepared config selects quoted
  exact ⟨selects, quoted, items, items', paired (by rw [items, items']; rfl)⟩

/-- One value that is selected twice is one item only where it is not bound. -/
theorem Script.selectItems_unprepared_shorter :
    let steps : List Step :=
      [.select false [.expr (.call "abs" [.scalar (.int 1)])],
        .select false [.expr (.call "abs" [.scalar (.int 1)])]]
    let query := selected { prepared := true } steps
    let query' := selected { prepared := false } steps
    query.ledger.fault = none ∧ query'.ledger.fault = none ∧
      query.selectItems = ["abs(:p1_0)", "abs(:p1_1)"] ∧ query'.selectItems = ["abs(1)"] ∧
      query'.selectItems.length ≠ query.selectItems.length := by
  decide +kernel

end SqlBuilder
