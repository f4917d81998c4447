import SqlBuilder.Proofs.History.Recall
import SqlBuilder.Proofs.Param.Execution
import SqlBuilder.Proofs.Twin.Make

/-!
# Annals that are true

A run and what is told about it are steps on two states, the workspace and the annals. A history is
true if the ledger of its query settles it. Whatever is run and told side by side keeps annals true,
by one rule for each way in which steps are put together.
-/

namespace SqlBuilder

open Script

variable {known : Param → Prop} {home : Connection} {workspace : Workspace} {query : Query}
  {history : List Event}

/-! ### Names -/

namespace Workspace

theorem get?_erase (workspace : Workspace) (name other : String) :
    (workspace.erase name).get? other = if other = name then none else workspace.get? other := by
  unfold erase get?
  rw [List.find?_filter]
  split
  case isTrue same =>
    rw [List.find?_eq_none.2, Option.map_none]
    simp [same]
  case isFalse differs =>
    refine congrArg (Option.map _) (congrArg (List.find? · _) (funext fun entry => ?_))
    by_cases own : entry.1 = other
    · simp [own, differs]
    · simp [own]

theorem get?_insert (workspace : Workspace) (name other : String) (query : Query) :
    (workspace.insert name query).get? other =
      if other = name then some query else workspace.get? other := by
  have rest := workspace.get?_erase name other
  unfold erase get? at rest
  unfold insert get?
  have last : List.find? (·.1 == other) [(name, query)] =
      if other = name then some (name, query) else none := by
    rw [List.find?_singleton]
    exact if_congr (by rw [beq_iff_eq, eq_comm]) rfl rfl
  rw [List.find?_append, Option.map_or, rest, last]
  split
  case isTrue => rfl
  case isFalse => rw [Option.map_none, Option.or_none]

end Workspace

namespace Script

/-- Whether a chapter tells the histories of a query, where nothing is taken back. -/
structure Chapter.IsTrue (known : Param → Prop) (chapter : Chapter) : Prop where
  before : chapter.call.query.ledger.Settles known chapter.before
  after : chapter.call.result.ledger.Settles known chapter.after
  grows : chapter.before <+: chapter.after

/-- Whether annals are true, and the named queries are those of a workspace. A name that no query
has has no history. -/
structure Annals.Fits (known : Param → Prop) (annals : Annals) (workspace : Workspace) : Prop where
  named : ∀ name query, workspace.get? name = some query →
    query.ledger.Settles known (annals.past name)
  absent : ∀ name, workspace.get? name = none → annals.past name = []
  told : ∀ chapter ∈ annals.chapters, chapter.IsTrue known

namespace Annals.Fits

variable {annals : Annals}

/-- Only the named queries count. -/
theorem of_get?_eq (fits : annals.Fits known workspace) {after : Workspace}
    (same : ∀ name, after.get? name = workspace.get? name) : annals.Fits known after where
  named name query found := fits.named name query ((same name).symm.trans found)
  absent name found := fits.absent name ((same name).symm.trans found)
  told := fits.told

theorem grown (fits : annals.Fits known workspace) {after : Workspace}
    (grown : workspace.Grown after) : annals.Fits known after :=
  fits.of_get?_eq fun name => by rw [Workspace.get?, Workspace.get?, grown.queries]

theorem abortIf (fits : annals.Fits known workspace) (lacksResult : Bool) :
    annals.Fits known (workspace.abortIf lacksResult) :=
  fits.of_get?_eq (workspace.abortIf_get? lacksResult)

theorem name (fits : annals.Fits known workspace) (name : String)
    (settles : query.ledger.Settles known history) :
    (annals.name name history).Fits known (workspace.insert name query) where
  named other found mem := by
    rw [Workspace.get?_insert] at mem
    unfold Annals.name
    dsimp only
    split at mem
    case isTrue same =>
      obtain rfl := Option.some.inj mem
      rwa [if_pos same]
    case isFalse differs =>
      rw [if_neg differs]
      exact fits.named other found mem
  absent other mem := by
    rw [Workspace.get?_insert] at mem
    unfold Annals.name
    dsimp only
    split at mem
    case isTrue => cases mem
    case isFalse differs =>
      rw [if_neg differs]
      exact fits.absent other mem
  told := fits.told

theorem take (fits : annals.Fits known workspace) (name : String) :
    (annals.name name []).Fits known (workspace.erase name) where
  named other found mem := by
    rw [Workspace.get?_erase] at mem
    unfold Annals.name
    dsimp only
    split at mem
    case isTrue => cases mem
    case isFalse differs =>
      rw [if_neg differs]
      exact fits.named other found mem
  absent other mem := by
    rw [Workspace.get?_erase] at mem
    unfold Annals.name
    dsimp only
    split at mem
    case isTrue same => exact if_pos same
    case isFalse differs =>
      rw [if_neg differs]
      exact fits.absent other mem
  told := fits.told

/-- A name that no query has has nothing to forget. -/
theorem forget (fits : annals.Fits known workspace) {name : String}
    (absent : workspace.get? name = none) : (annals.name name []).Fits known workspace := by
  refine (fits.take name).of_get?_eq fun other => ?_
  rw [Workspace.get?_erase]
  split
  case isTrue same => rw [same, absent]
  case isFalse => rfl

theorem add (fits : annals.Fits known workspace) {chapter : Chapter}
    (isTrue : chapter.IsTrue known) : (annals.add chapter).Fits known workspace where
  named := fits.named
  absent := fits.absent
  told := List.forall_mem_append.2 ⟨fits.told, List.forall_mem_singleton.2 isTrue⟩

end Annals.Fits

end Script

/-! ### Making and copying -/

theorem Query.settles_new (known : Param → Prop) (connection : Connection) (workspace : Workspace) :
    ((Query.new connection).run workspace).1.ledger.Settles known [] :=
  .new known _

theorem Script.Origin.settles_make (known : Param → Prop) (home : Connection) (origin : Origin)
    (workspace : Workspace) : ((origin.make home).run workspace).1.ledger.Settles known [] := by
  obtain ⟨connection, model, table⟩ := origin
  cases model with
  | some model => exact .new known _
  | none =>
      cases table with
      | none => exact .new known _
      | some table =>
          change (((Query.new (connection.getD home)).run workspace).1.selectAll.source table
            none).ledger.Settles known []
          rw [Query.ledger_source, Query.selectAll, Query.ledger_selectRaw]
          exact .new known _

/-- What is counted is a copy, whose faults are taken over. -/
theorem Query.settles_totalCountQuery {copy : Query} (settles : query.ledger.Settles known history)
    (counted : (query.totalCountQuery.run workspace).1 = .ok copy) :
    copy.ledger.Settles known (Event.carried history) := by
  obtain ⟨own, inner, ledger⟩ := ledger_totalCountQuery counted
  rw [ledger, ← Event.carried_carried]
  exact (Ledger.Settles.new known own).adopt (settles.fork inner)

theorem Query.settles_resultCountQuery {copy : Query} (settles : query.ledger.Settles known history)
    (counted : (query.resultCountQuery.run workspace).1 = .ok copy) :
    copy.ledger.Settles known (Event.carried history) := by
  rcases ledger_resultCountQuery counted with ⟨own, ledger⟩ | ⟨own, inner, ledger⟩
  · rw [ledger]
    exact settles.fork own
  · rw [ledger, ← Event.carried_carried]
    exact (Ledger.Settles.new known own).adopt (settles.fork inner)

theorem Script.CopyKind.settles_make {kind : CopyKind} {copy : Query}
    (settles : query.ledger.Settles known history)
    (made : ((kind.make query).run workspace).1 = .ok copy) :
    copy.ledger.Settles known (kind.history history) := by
  cases kind with
  | clone =>
      cases made
      exact settles.fork _
  | fresh =>
      cases made
      exact .new known _
  | explain =>
      cases made
      exact settles.fork _
  | resultCount => exact Query.settles_resultCountQuery settles made
  | totalCount => exact Query.settles_totalCountQuery settles made

/-! ### Steps of a session -/

namespace Session

variable {α β γ δ ε ζ : Type}

/-- Whether annals stay true where steps are run and told side by side, and what is made goes with
what is told of it. -/
def Tells (known : Param → Prop) (workspace : Workspace) (action : Session α) (telling : Recall β)
    (post : α → β → Prop) : Prop :=
  ∀ annals : Annals, annals.Fits known workspace →
    (telling.run annals).2.Fits known (action.run workspace).2 ∧
      post (action.run workspace).1 (telling.run annals).1

namespace Tells

variable {action : Session α} {telling : Recall β} {post : α → β → Prop}

theorem pure {value : α} {told : β} (holds : post value told) :
    Tells known workspace (pure value) (pure told) post :=
  fun _ fits => ⟨fits, holds⟩

theorem bind {next : α → Session γ} {rest : β → Recall δ} {last : γ → δ → Prop}
    (first : Tells known workspace action telling post)
    (second : ∀ value told, post value told →
      Tells known (action.run workspace).2 (next value) (rest told) last) :
    Tells known workspace (action >>= next) (telling >>= rest) last := by
  intro annals fits
  obtain ⟨between, holds⟩ := first annals fits
  exact second _ _ holds _ between

theorem map {build : α → γ} {list : β → δ} {last : γ → δ → Prop}
    (made : Tells known workspace action telling post)
    (holds : ∀ value told, post value told → last (build value) (list told)) :
    Tells known workspace (do return build (← action)) (do return list (← telling)) last :=
  made.bind fun value told found => .pure (holds value told found)

/-- What is made is put into something that goes with the same history. -/
theorem wrap {build : α → γ} {last : γ → β → Prop}
    (made : Tells known workspace action telling post)
    (holds : ∀ value told, post value told → last (build value) told) :
    Tells known workspace (do return build (← action)) telling last := by
  intro annals fits
  obtain ⟨after, found⟩ := made annals fits
  exact ⟨after, holds _ _ found⟩

/-- Two parts that are made in a row. -/
theorem both {next : Session γ} {rest : Recall δ} {mid : γ → δ → Prop} {build : α → γ → ε}
    {list : β → δ → ζ} {last : ε → ζ → Prop} (first : Tells known workspace action telling post)
    (second : Tells known (action.run workspace).2 next rest mid)
    (holds : ∀ {value told other more}, post value told → mid other more →
      last (build value other) (list told more)) :
    Tells known workspace (do let value ← action; return build value (← next))
      (do let told ← telling; return list told (← rest)) last :=
  first.bind fun _ _ found => second.map fun _ _ => holds found

/-! ### Nested queries -/

/-- A query and its history. -/
abbrev TellsQuery (known : Param → Prop) (workspace : Workspace) (action : Session Query)
    (telling : Recall (List Event)) : Prop :=
  Tells known workspace action telling fun query history => query.ledger.Settles known history

theorem take (home : Connection) (name : String) (workspace : Workspace) :
    TellsQuery known workspace (buildQuery home (.take name))
      (queryHistory home (.take name) workspace) := by
  intro annals fits
  cases found : workspace.get? name with
  | some query =>
      rw [run_take_of_some home found]
      exact ⟨fits.take name, fits.named name query found⟩
  | none =>
      rw [run_take_of_none home found]
      refine ⟨(fits.forget found).grown ⟨rfl, Nat.le_succ _, rfl⟩, ?_⟩
      change Ledger.Settles known _ (annals.past name)
      rw [fits.absent name found]
      exact Query.settles_new known _ _

theorem cloneNamed (home : Connection) (name : String) (workspace : Workspace) :
    TellsQuery known workspace (buildQuery home (.clone name))
      (queryHistory home (.clone name) workspace) := by
  intro annals fits
  cases found : workspace.get? name with
  | some query =>
      rw [run_clone_of_some home found]
      exact ⟨fits.grown (.clone query workspace), (fits.named name query found).fork _⟩
  | none =>
      rw [run_clone_of_none home found]
      refine ⟨fits.grown ⟨rfl, Nat.le_succ _, rfl⟩, ?_⟩
      change Ledger.Settles known _ (Event.carried (annals.past name))
      rw [fits.absent name found]
      exact Query.settles_new known _ _

end Tells

end Session

/-! ### Steps on a query -/

namespace Edit

variable {α β γ δ ε ζ : Type}

/-- Whether annals stay true where steps on a query are run and told side by side. The query shows
its history, which is only added to. -/
def Tells (known : Param → Prop) (query : Query) (workspace : Workspace) (history : List Event)
    (action : Edit α) (telling : Recall (List Event)) : Prop :=
  ∀ annals : Annals, query.ledger.Settles known history → annals.Fits known workspace →
    (telling.run annals).2.Fits known ((action.run query).run workspace).2 ∧
      ((action.run query).run workspace).1.2.ledger.Shows known (telling.run annals).1 ∧
      history <+: (telling.run annals).1

/-- Whether in addition the query can be taken in by others afterwards. -/
def Settles (known : Param → Prop) (query : Query) (workspace : Workspace) (history : List Event)
    (action : Edit α) (telling : Recall (List Event)) : Prop :=
  ∀ annals : Annals, query.ledger.Settles known history → annals.Fits known workspace →
    (telling.run annals).2.Fits known ((action.run query).run workspace).2 ∧
      ((action.run query).run workspace).1.2.ledger.Settles known (telling.run annals).1 ∧
      history <+: (telling.run annals).1

theorem Settles.tells {action : Edit α} {telling : Recall (List Event)}
    (settles : Settles known query workspace history action telling) :
    Tells known query workspace history action telling := by
  intro annals settled fits
  obtain ⟨after, shows, grows⟩ := settles annals settled fits
  exact ⟨after, shows.toShows, grows⟩

namespace Tells

variable {action : Edit α} {telling : Recall (List Event)}

/-- What a call returns does not matter. -/
theorem returning {next : α → Edit β} (tells : Tells known query workspace history action telling)
    (quiet : ∀ value, ∃ report, next value = pure report) :
    Tells known query workspace history (action >>= next) telling := by
  obtain ⟨report, same⟩ := Classical.axiomOfChoice quiet
  rw [funext same]
  exact tells

/-- A step may look at the query first. -/
theorem get_bind {next : Query → Edit α}
    (tells : Tells known query workspace history (next query) telling) :
    Tells known query workspace history (get >>= next) telling :=
  tells

theorem pure (value : α) : Tells known query workspace history (pure value) (pure history) :=
  fun _ settled fits => ⟨fits, settled.toShows, List.prefix_rfl⟩

/-- What a change lists is added. -/
theorem lists {events : List Event} (lists : action.Lists known query workspace events) :
    Tells known query workspace history action (return history ++ events) := by
  intro annals settled fits
  obtain ⟨changed, same⟩ := lists
  refine ⟨?_, settled.gains changed.ledger, List.prefix_append _ _⟩
  rw [same]
  exact fits

/-- A change that lists nothing adds nothing. -/
theorem nothing (lists : action.Lists known query workspace []) :
    Tells known query workspace history action (return history) := by
  have told : Tells known query workspace history action (return history ++ []) := .lists lists
  rwa [List.append_nil] at told

/-- A change of the query that lists nothing. -/
theorem change {change : Query → Query} {report : α} (lists : query.Lists known (change query) []) :
    Tells known query workspace history (do modify change; return report) (return history) :=
  .nothing ⟨lists, rfl⟩

/-- A change of the query that may fail, and lists nothing. -/
theorem attempt {attempted : Query → Except QueryError Query} {report : Except QueryError Unit → α}
    (lists : ∀ changed, attempted query = .ok changed → query.Lists known changed []) :
    Tells known query workspace history (do return report (← Edit.attempt attempted))
      (return history) :=
  .nothing (lists_attempt lists workspace)

theorem replaceClause (keyword : String) (replacement : Fragment) :
    Tells known query workspace history (call home (.replaceClause keyword replacement))
      (return history) := by
  have replaced : (Edit.attempt (·.replaceClause keyword fun _ => replacement)).Lists known query
      workspace [] := lists_attempt (fun changed done =>
    .of_rearranges (.replaceClause done)) workspace
  refine .get_bind (.nothing ?_)
  split
  · exact replaced
  · exact ⟨.of_ledger rfl rfl, rfl⟩

/-- Operands are built, and the call on them lists what it makes of their events. -/
theorem builtWith {build : Session β} {listing : Recall δ} {post : β → δ → Prop}
    {call : β → Edit γ} {report : γ → α} (list : δ → List Event)
    (made : Session.Tells known workspace build listing post)
    (lists : ∀ events, post (build.run workspace).1 events →
      (call (build.run workspace).1).Lists known query (build.run workspace).2 (list events)) :
    Tells known query workspace history (do let value ← build; return report (← call value))
      (do let events ← listing; return history ++ list events) := by
  intro annals settled fits
  obtain ⟨between, holds⟩ := made annals fits
  exact Tells.lists (lists _ holds) _ settled between

/-- Operands are built, and the call on them lists their events. -/
theorem built {build : Session β} {listing : Recall (List Event)} {post : β → List Event → Prop}
    {call : β → Edit γ} {report : γ → α} (made : Session.Tells known workspace build listing post)
    (lists : ∀ events, post (build.run workspace).1 events →
      (call (build.run workspace).1).Lists known query (build.run workspace).2 events) :
    Tells known query workspace history (do let value ← build; return report (← call value))
      (do return history ++ (← listing)) :=
  builtWith id made lists

/-- Operands are built in two parts, and the call lists what it makes of their events. -/
theorem builtTwo {build : Session β} {build' : Session γ} {listing : Recall δ} {listing' : Recall ε}
    {post : β → δ → Prop} {post' : γ → ε → Prop} {call : β → γ → Edit ζ} {report : ζ → α}
    (list : δ → ε → List Event) (made : Session.Tells known workspace build listing post)
    (made' : Session.Tells known (build.run workspace).2 build' listing' post')
    (lists : ∀ events more, post (build.run workspace).1 events →
      post' (build'.run (build.run workspace).2).1 more →
      (call (build.run workspace).1 (build'.run (build.run workspace).2).1).Lists known query
        (build'.run (build.run workspace).2).2 (list events more)) :
    Tells known query workspace history
      (do let value ← build; let other ← build'; return report (← call value other))
      (do let events ← listing; let more ← listing'; return history ++ list events more) := by
  intro annals settled fits
  obtain ⟨between, holds⟩ := made annals fits
  obtain ⟨after, held⟩ := made' _ between
  exact Tells.lists (lists _ _ holds held) _ settled after

/-! ### Callbacks -/

/-- Opening and closing around a callback concern the fragments, and may end the run. -/
theorem around {opened : Query} (close : Query → Query) {body : Edit β}
    (inside : Tells known opened workspace history body telling)
    (opening : opened.ledger = query.ledger)
    (closing : ∀ query, (close query).ledger = query.ledger)
    (ran : ∀ out, out = (body.run opened).run workspace →
      ((action.run query).run workspace).1.2 = close out.1.2 ∧
        ∃ lost, ((action.run query).run workspace).2 = out.2.abortIf lost) :
    Tells known query workspace history action telling := by
  intro annals settled fits
  obtain ⟨after, shows, grows⟩ := inside annals (by rwa [opening]) fits
  obtain ⟨changed, lost, same⟩ := ran _ rfl
  rw [changed, same, closing]
  exact ⟨after.abortIf lost, shows, grows⟩

theorem parenthesis (pull : Bool) {body : Edit α}
    (inside : Tells known (query.insertToken "(") workspace history body telling) :
    Tells known query workspace history (Edit.parenthesis pull body) telling := by
  refine around (·.closeGroup pull query.insertionPoint (query.insertToken "(").fragments.length)
    inside rfl (fun _ => Query.ledger_closeGroup _ _ _ _) ?_
  rintro _ rfl
  exact ⟨rfl, false, rfl⟩

theorem conditionGroup (connective : Connective) {body : Edit α}
    (inside : Tells known (query.openGroup connective) workspace history body telling) :
    Tells known query workspace history (Edit.conditionGroup connective body) telling := by
  refine around (query.closeConditionGroup · connective) inside rfl
    (fun _ => Query.ledger_closeGroup _ _ _ _) ?_
  rintro _ rfl
  rw [run_conditionGroup]
  exact ⟨rfl, false, rfl⟩

/-- A target that is joined already is left alone, and the callback is not run. -/
theorem join (kind : JoinKind) (table : String) (label : Option String) {body : Edit α}
    (inside : query.isJoined (query.escapeAs table label) = false →
      Tells known (query.openJoin kind (query.escapeAs table label)) workspace history body
        telling) :
    Tells known query workspace history (Edit.join kind table label body)
      (if query.isJoined (query.escapeAs table label) then return history else telling) := by
  cases joined : query.isJoined (query.escapeAs table label) with
  | true =>
      refine .nothing ?_
      rw [Lists, run_join]
      dsimp only
      rw [if_pos joined]
      exact ⟨.of_ledger rfl rfl, rfl⟩
  | false =>
      refine around (·.closeJoin query) (inside joined) rfl (fun _ => rfl) ?_
      rintro _ rfl
      rw [run_join]
      dsimp only
      rw [joined, if_neg Bool.false_ne_true]
      exact ⟨rfl, _, rfl⟩

/-- The query of the related rows has a history of its own, which is taken over. -/
theorem filterHas (relation : String) {body : Edit α}
    (rows : Query × Workspace → Recall (List Event))
    (inside : ∀ link, query.relationLink relation = .ok link →
      Settles known ((query.relatedRows link).run workspace).1
        ((query.relatedRows link).run workspace).2 [] body
        (rows ((query.relatedRows link).run workspace))) :
    Tells known query workspace history (Edit.filterHas relation body)
      (match query.relationLink relation with
        | .error _ => return history
        | .ok link => do
          return history ++ Event.carried (← rows ((query.relatedRows link).run workspace))) := by
  intro annals settled fits
  rw [run_filterHas]
  cases found : query.relationLink relation with
  | error error => exact ⟨fits, settled.toShows, List.prefix_rfl⟩
  | ok link =>
      have clear : ((query.relatedRows link).run workspace).1.ledger.Settles known [] := by
        rw [Query.run_relatedRows]
        dsimp only
        rw [Query.ledger_addText]
        change (((query.fresh.run workspace).1.selectRaw "1").source link.table
          none).ledger.Settles known []
        rw [Query.ledger_source, Query.ledger_selectRaw]
        exact .new known _
      have grown := Workspace.Sound.grown_of_made
        (Query.Made.relatedRows workspace (fun _ => []) query link)
      obtain ⟨after, rows, -⟩ := inside link found annals clear (fits.grown grown)
      have embedded : Records known query.connection (Edit.filter (.hasRows _)) _ :=
        .filter (.single (.expr (.callNested rows "exists ")))
      exact Tells.lists (embedded query _ rfl) _ settled after

/-! ### Copies and runs -/

theorem copy (kind : CopyKind) (name : String) :
    Tells known query workspace history (liftM (kind.make query >>= nameCopy name)) (do
      match ((kind.make query).run workspace).1 with
      | .ok _ => modify (·.name name (kind.history history))
      | .error _ => Pure.pure ()
      return history) := by
  intro annals settled fits
  have grown := fits.grown (.copy kind query workspace)
  refine ⟨?_, ?_⟩
  · change Annals.Fits known _ ((kind.make query >>= nameCopy name).run workspace).2
    cases made : ((kind.make query).run workspace).1 with
    | ok copy =>
        rw [snd_run_nameCopy_of_ok name made]
        exact grown.name name (CopyKind.settles_make settled made)
    | error error =>
        rw [snd_run_nameCopy_of_error name made]
        exact grown
  · cases ((kind.make query).run workspace).1 with
    | ok copy => exact ⟨settled.toShows, List.prefix_rfl⟩
    | error error => exact ⟨settled.toShows, List.prefix_rfl⟩

/-- Running a query takes namespaces at most. -/
theorem fetch (kind : FetchKind) (executor : Executor) :
    Tells known query workspace history (liftM ((kind.run executor query).run.run {}))
      (return history) :=
  fun _ settled fits =>
    ⟨fits.grown (kind.grows executor query {} workspace), settled.toShows, List.prefix_rfl⟩

end Tells

end Edit

/-- A nested query is made and changed by steps. -/
theorem Session.Tells.recipe (home : Connection) (origin : Origin) {body : Edit (List Report)}
    {telling : Recall (List Event)}
    (inside : Edit.Settles known ((origin.make home).run workspace).1
      ((origin.make home).run workspace).2 [] body telling) :
    TellsQuery known workspace (do
      let query ← origin.make home
      return (← body.run query).2) telling := by
  intro annals fits
  have grown := Workspace.Sound.grown_of_made
    (Query.Made.make workspace (fun _ => []) home origin)
  obtain ⟨after, settled, -⟩ :=
    inside annals (origin.settles_make known home workspace) (fits.grown grown)
  exact ⟨after, settled⟩

end SqlBuilder
