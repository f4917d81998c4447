import SqlBuilder.Proofs.Nesting.Group
import SqlBuilder.Proofs.Param.Execution
import SqlBuilder.Query.Key
import SqlBuilder.Script.Run

/-!
# Steps that keep queries sealed

Outside callbacks a step finds a sealed query and leaves a sealed one. Steps that only add
conditions do more: they work wherever fragments are added, inside callbacks as well. What a step
may do is its scope, and a step of the narrow scope is one of the wide scope too. In both scopes the
named queries of the workspace stay sealed.
-/

namespace SqlBuilder

variable {dialect : Dialect}

/-- What a step may do to the query at hand. -/
inductive Scope where
  /-- Anything, outside callbacks. -/
  | anything
  /-- Nothing but add conditions. -/
  | conditions

namespace Scope

/-- What a step finds. -/
def Ready (dialect : Dialect) : Scope → Query → Prop
  | .anything, query => query.Sealed dialect
  | .conditions, query => query.connection.Speaks dialect

/-- What a step leaves. -/
def Reaches (dialect : Dialect) : Scope → Query → Query → Prop
  | .anything, _, changed => changed.Sealed dialect
  | .conditions, query, changed => query.Grown dialect changed

variable {scope : Scope} {query changed last : Query}

theorem Ready.speaks (ready : scope.Ready dialect query) : query.connection.Speaks dialect := by
  cases scope with
  | anything => exact Query.Sealed.speaks ready
  | conditions => exact ready

/-- Conditions may be added in either scope. -/
theorem Ready.reaches (ready : scope.Ready dialect query) (grown : query.Grown dialect changed) :
    scope.Reaches dialect query changed := by
  cases scope with
  | anything => exact grown.sealed ready
  | conditions => exact grown

theorem Ready.next (ready : scope.Ready dialect query)
    (reaches : scope.Reaches dialect query changed) : scope.Ready dialect changed := by
  cases scope with
  | anything => exact reaches
  | conditions =>
      have connection := Query.Grown.connection reaches
      rw [Ready, Connection.Speaks, connection]
      exact ready

theorem Reaches.trans (first : scope.Reaches dialect query changed)
    (second : scope.Reaches dialect changed last) : scope.Reaches dialect query last := by
  cases scope with
  | anything => exact second
  | conditions => exact Query.Grown.trans first second

end Scope

/-- Whether the named queries of a workspace are sealed. -/
def Workspace.Sealed (dialect : Dialect) (workspace : Workspace) : Prop :=
  ∀ entry ∈ workspace.queries, entry.2.Sealed dialect

namespace Workspace.Sealed

variable {workspace after : Workspace}

theorem grown (closed : workspace.Sealed dialect) (grown : workspace.Grown after) :
    after.Sealed dialect := by
  unfold Workspace.Sealed
  rw [grown.queries]
  exact closed

theorem insert (closed : workspace.Sealed dialect) (name : String) {query : Query}
    (own : query.Sealed dialect) : (workspace.insert name query).Sealed dialect := by
  intro entry mem
  rcases Workspace.mem_insert mem with ⟨mem, -⟩ | rfl
  · exact closed entry mem
  · exact own

theorem erase (closed : workspace.Sealed dialect) (name : String) :
    (workspace.erase name).Sealed dialect := by
  intro entry mem
  exact closed entry (List.mem_filter.1 mem).1

end Workspace.Sealed

variable {α β : Type}

/-- Whether a step on a workspace keeps its queries sealed, with a property of the result. -/
def Session.Seals (dialect : Dialect) (workspace : Workspace) (action : Session α)
    (post : α → Prop) : Prop :=
  workspace.Sealed dialect → (action.run workspace).2.Sealed dialect ∧
    post (action.run workspace).1

/-- Whether a step on a query keeps to a scope, with a property of the result. -/
def Edit.Seals (dialect : Dialect) (scope : Scope) (query : Query) (workspace : Workspace)
    (action : Edit α) (post : α → Prop) : Prop :=
  scope.Ready dialect query → workspace.Sealed dialect →
    let out := (action.run query).run workspace
    scope.Reaches dialect query out.1.2 ∧ out.2.Sealed dialect ∧ post out.1.1

namespace Session.Seals

variable {workspace : Workspace}

theorem pure {value : α} {post : α → Prop} (holds : post value) :
    Session.Seals dialect workspace (pure value) post :=
  fun closed => ⟨closed, holds⟩

theorem bind {action : Session α} {next : α → Session β} {mid : α → Prop} {post : β → Prop}
    (first : Session.Seals dialect workspace action mid)
    (second : mid (action.run workspace).1 → Session.Seals dialect (action.run workspace).2
      (next (action.run workspace).1) post) :
    Session.Seals dialect workspace (action >>= next) post := by
  intro closed
  rcases first closed with ⟨between, holds⟩
  exact second holds between

theorem map {action : Session α} {build : α → β} {mid : α → Prop} {post : β → Prop}
    (first : Session.Seals dialect workspace action mid)
    (holds : ∀ value, mid value → post (build value)) :
    Session.Seals dialect workspace (do return build (← action)) post :=
  first.bind fun found => .pure (holds _ found)

end Session.Seals

namespace Edit.Seals

variable {scope : Scope} {query : Query} {workspace : Workspace} {post : β → Prop}

theorem pure {value : α} {post : α → Prop} (holds : post value) :
    Edit.Seals dialect scope query workspace (pure value) post := by
  intro ready closed
  exact ⟨ready.reaches (.refl query), closed, holds⟩

theorem bind {action : Edit α} {next : α → Edit β} {mid : α → Prop}
    (first : Edit.Seals dialect scope query workspace action mid)
    (second : let out := (action.run query).run workspace
      mid out.1.1 → Edit.Seals dialect scope out.1.2 out.2 (next out.1.1) post) :
    Edit.Seals dialect scope query workspace (action >>= next) post := by
  intro ready closed
  rcases first ready closed with ⟨reaches, between, holds⟩
  rcases second holds (ready.next reaches) between with ⟨further, after, held⟩
  exact ⟨reaches.trans further, after, held⟩

/-- A step whose result does not matter any more. -/
theorem returned {action : Edit α} {build : α → β} {mid : α → Prop}
    (first : Edit.Seals dialect scope query workspace action mid) :
    Edit.Seals dialect scope query workspace (do return build (← action)) fun _ => True :=
  first.bind fun _ => .pure trivial

/-- The query that is found may be looked at. -/
theorem get_bind {next : Query → Edit β}
    (second : Edit.Seals dialect scope query workspace (next query) post) :
    Edit.Seals dialect scope query workspace (get >>= next) post :=
  second

theorem of_ready {action : Edit β}
    (seals : scope.Ready dialect query → Edit.Seals dialect scope query workspace action post) :
    Edit.Seals dialect scope query workspace action post :=
  fun ready => seals ready ready

theorem build_bind {action : Session α} {next : α → Edit β} {mid : α → Prop}
    (first : Session.Seals dialect workspace action mid)
    (second : mid (action.run workspace).1 → Edit.Seals dialect scope query
      (action.run workspace).2 (next (action.run workspace).1) post) :
    Edit.Seals dialect scope query workspace ((liftM action : Edit α) >>= next) post := by
  intro ready closed
  rcases first closed with ⟨between, holds⟩
  exact second holds ready between

theorem built {action : Session α} {post : α → Prop}
    (first : Session.Seals dialect workspace action post) :
    Edit.Seals dialect scope query workspace (liftM action : Edit α) post := by
  intro ready closed
  rcases first closed with ⟨after, holds⟩
  exact ⟨ready.reaches (.refl query), after, holds⟩

theorem changing {change : Query → Query}
    (reaches : scope.Ready dialect query → scope.Reaches dialect query (change query)) :
    Edit.Seals dialect scope query workspace (modify change : Edit PUnit) fun _ => True :=
  fun ready closed => ⟨reaches ready, closed, trivial⟩

theorem compiling {action : Connection → Compile α} {post : α → Prop}
    (gives : query.connection.Speaks dialect → (action query.connection).Gives post) :
    Edit.Seals dialect scope query workspace (Edit.compiling action) post := by
  intro ready closed
  rcases gives ready.speaks query.ledger workspace with ⟨holds, same⟩
  refine ⟨ready.reaches (.of_congr rfl rfl rfl), ?_, holds⟩
  change (((action query.connection).run query.ledger).run workspace).2.Sealed dialect
  rw [same]
  exact closed

/-- What may be done in callbacks may be done outside them. -/
theorem widen {action : Edit β}
    (narrow : Edit.Seals dialect .conditions query workspace action post) :
    Edit.Seals dialect scope query workspace action post := by
  intro ready closed
  rcases narrow ready.speaks closed with ⟨grown, after, holds⟩
  exact ⟨ready.reaches grown, after, holds⟩

end Edit.Seals

/-! ### Queries that are made -/

namespace Query.Sealed

variable {query changed : Query}

theorem new {connection : Connection} (speaks : connection.Speaks dialect) (workspace : Workspace) :
    ((Query.new connection).run workspace).1.Sealed dialect :=
  ⟨speaks, .nil, rfl⟩

theorem make {home : Connection} {origin : Script.Origin} (speaks : home.Speaks dialect)
    (asked : ∀ connection ∈ origin.connection, connection.Speaks dialect) (workspace : Workspace) :
    ((origin.make home).run workspace).1.Sealed dialect := by
  rcases origin with ⟨connection, model, table⟩
  have own : (connection.getD home).Speaks dialect := by
    cases connection with
    | none => exact speaks
    | some connection => exact asked connection rfl
  have fresh := new own workspace
  cases model with
  | some model => exact fresh.congr rfl rfl rfl
  | none =>
      cases table with
      | none => exact fresh
      | some table => exact (fresh.selectRaw (.of_all (by decide))).source table none

theorem clone (closed : query.Sealed dialect) (workspace : Workspace) :
    (query.clone.run workspace).1.Sealed dialect :=
  closed.congr rfl rfl rfl

theorem relatedRows (speaks : query.connection.Speaks dialect) (link : RelationLink)
    (workspace : Workspace) : ((query.relatedRows link).run workspace).1.Sealed dialect := by
  rw [Query.run_relatedRows]
  have made : ((query.fresh.run workspace).1).Sealed dialect := new speaks workspace
  have one : dialect.Closed "1" := .of_all (by decide)
  have related := (made.selectRaw one).source link.table none
  dsimp only
  generalize ((query.fresh.run workspace).1.selectRaw "1").source link.table none = rows at related
  have opened : (rows.nextKeyword .filter .and).2.Sealed dialect := related.congr rfl rfl rfl
  have word : dialect.Closed (rows.nextKeyword .filter .and).1 := by
    refine .ite ?_ (.of_all (by decide))
    cases rows.pending.getD .and <;> exact .of_all (by decide)
  have blank : dialect.Closed " " := .of_all (by decide)
  have equals : dialect.Closed "=" := .of_all (by decide)
  have start := (closed_escape related.speaks link.related).append blank
  exact opened.addText word
    (((start.append equals).append blank).append (closed_escape related.speaks link.own))

theorem countRowsOf (closed : query.Sealed dialect) {inner : Query} (own : inner.Sealed dialect) :
    (query.countRowsOf inner).Sealed dialect := by
  have star : dialect.Closed "*" := .of_all (by decide)
  have item : dialect.Closed (callText "count" "*") := .callText (.of_all (by decide)) star
  have selected : (query.selectRaw "count(*)").Sealed dialect := closed.selectRaw item
  have word : dialect.Closed " as " := .of_all (by decide)
  have opened : Query.Sealed dialect { query.selectRaw "count(*)" with
      ledger := ((query.selectRaw "count(*)").ledger.embed inner).2 } :=
    selected.congr rfl rfl rfl
  have source := (own.sql.parentheses.append word).append
    (closed_escapePart selected.speaks "__count")
  refine opened.addText (.of_all (by decide)) ?_
  simpa [String.append_assoc] using source

theorem countedRows {keyword : String} {copy inner : Query} (closed : copy.Sealed dialect)
    (counted : query.countedRows keyword copy = .ok inner) : inner.Sealed dialect := by
  unfold Query.countedRows at counted
  split at counted
  · refine closed.withoutPaging.withSelectList ?_ counted
    exact .ite (.of_all (by decide)) (.of_all (by decide))
  · cases counted
    exact closed.withoutPaging

theorem totalCount (closed : query.Sealed dialect) {workspace : Workspace}
    (counted : (query.totalCountQuery.run workspace).1 = .ok changed) : changed.Sealed dialect := by
  obtain ⟨keyword, inner, -, rows, rfl, -⟩ := Query.exists_of_totalCountQuery counted
  have own := (closed.clone workspace).countedRows rows
  exact (new closed.speaks _).countRowsOf own

theorem resultCount (closed : query.Sealed dialect) {workspace : Workspace}
    (counted : (query.resultCountQuery.run workspace).1 = .ok changed) :
    changed.Sealed dialect := by
  obtain ⟨keyword, -, ⟨-, replaced, -⟩ | ⟨-, same⟩⟩ := Query.exists_of_resultCountQuery counted
  · have star : dialect.Closed "*" := .of_all (by decide)
    have item : dialect.Closed (callText "count" "*") := .callText (.of_all (by decide)) star
    exact (closed.clone workspace).withoutPaging.withSelectList item replaced
  · rw [same] at counted
    exact closed.totalCount counted

theorem copy (closed : query.Sealed dialect) (kind : Script.CopyKind) {workspace : Workspace}
    (copied : ((kind.make query).run workspace).1 = .ok changed) : changed.Sealed dialect := by
  cases kind with
  | clone =>
      cases copied
      exact closed.clone workspace
  | fresh =>
      cases copied
      exact new closed.speaks workspace
  | explain =>
      cases copied
      have front : Balanced dialect ([] ++ query.fragments) := closed.balanced
      have word : dialect.Closed "explain" := .of_all (by decide)
      have explained := front.insert (.singleton (.token word)) closed.balanced.starts
      exact ⟨closed.speaks, explained, by simp [closed.cursor]⟩
  | resultCount => exact closed.resultCount copied
  | totalCount => exact closed.totalCount copied

end Query.Sealed

end SqlBuilder
