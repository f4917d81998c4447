import SqlBuilder.Proofs.Query.Placement
import SqlBuilder.Proofs.Script.Preservation

/-!
# Reachable queries

The queries that builder calls lead to, seen from outside any callback: a query is made, changed by
calls, and copied. Calls bring their callbacks along, and a query that a callback is working on is
not reachable until the call returns, nor is a copy that the callback makes of it.

Outside callbacks a query has no cursor and no connective is pending, whatever the callbacks did.
-/

namespace SqlBuilder

/-- The queries that builder calls lead to, outside any callback. A copy that is made of a query
inside one of its callbacks is not among them: it has the cursor and the connective of the callback,
and keeps them when the callback ends. -/
inductive Query.Reachable : Query → Prop
  | made (home : Connection) (origin : Script.Origin) (workspace : Workspace) :
      Reachable ((origin.make home).run workspace).1
  | call (home : Connection) (step : Script.Step) (workspace : Workspace) {query : Query} :
      Reachable query → Reachable (((Script.call home step).run query).run workspace).1.2
  | copy (kind : Script.CopyKind) (workspace : Workspace) {query copy : Query} :
      Reachable query → ((kind.make query).run workspace).1 = .ok copy → Reachable copy

/-- Whether a query without cursor is left without one, and the same for what is pending. -/
structure Query.KeepsRest (query changed : Query) : Prop where
  cursor : query.cursor = none → changed.cursor = none
  pending : query.pending = none → changed.pending = none

/-- Whether fragments go to the end and the next condition has its own connective. -/
structure Query.AtRest (query : Query) : Prop where
  cursor : query.cursor = none
  pending : query.pending = none

namespace Query.KeepsRest

theorem insert (query : Query) (fragment : Fragment) : query.KeepsRest (query.insert fragment) :=
  ⟨fun cursor => by simp [Query.insert, cursor], id⟩

theorem add (query : Query) (fragment : Fragment) : query.KeepsRest (query.add fragment) := by
  unfold Query.add
  split
  · split
    · exact ⟨id, id⟩
    · exact ⟨fun cursor => by simp [cursor], id⟩
    · exact insert query fragment
  · exact insert query fragment

theorem removeClause (query : Query) (keyword : String) :
    query.KeepsRest (query.removeClause keyword) := by
  unfold Query.removeClause
  split
  · exact ⟨id, id⟩
  · exact ⟨fun cursor => by simp [cursor], id⟩

theorem addCommonTable (query : Query) (isRecursive : Bool) (text : String) :
    query.KeepsRest (query.addCommonTable isRecursive text) := by
  unfold Query.addCommonTable
  dsimp only
  split <;> exact ⟨fun cursor => by simp [Query.insertAt, Query.shiftCursor, cursor], id⟩

theorem closeGroup (query : Query) (pull : Bool) (opening count : Nat) :
    query.KeepsRest (query.closeGroup pull opening count) := by
  unfold Query.closeGroup
  split
  · exact ⟨fun cursor => by simp [Query.dropOpening, cursor], id⟩
  · cases pull with
    | false => exact insert query _
    | true =>
        have pulled : query.KeepsRest (query.pullKeyword opening) :=
          ⟨(query.cursor_pullKeyword opening).trans,
            (Query.Rearranges.pullKeyword query opening).pending.trans⟩
        exact ⟨(insert _ _).cursor ∘ pulled.cursor, (insert _ _).pending ∘ pulled.pending⟩

/-- No primitive change sets a cursor or leaves a connective behind. -/
theorem stable : Query.Stable Query.KeepsRest where
  refl _ := ⟨id, id⟩
  trans first second := ⟨second.cursor ∘ first.cursor, second.pending ∘ first.pending⟩
  ledger _ _ := ⟨id, id⟩
  model _ _ := ⟨id, id⟩
  add := add
  insert := insert
  alter _ _ _ := ⟨id, id⟩
  removeClause := removeClause
  addCommonTable := addCommonTable
  nextKeyword _ _ _ := ⟨id, fun _ => rfl⟩
  group pull {query inside} keeps := by
    have closed := closeGroup inside pull query.insertionPoint
      (query.insertToken "(").fragments.length
    have opened := insert query (.token "(")
    exact ⟨closed.cursor ∘ keeps.cursor ∘ opened.cursor,
      closed.pending ∘ keeps.pending ∘ opened.pending⟩
  conditionGroup connective {query inside} keeps := by
    have closed := closeGroup inside true query.insertionPoint
      (query.openGroup connective).fragments.length
    refine ⟨fun cursor => closed.cursor (keeps.cursor ?_), fun pending => ?_⟩
    · exact (insert _ _).cursor cursor
    · unfold Query.closeConditionGroup
      dsimp only
      split
      · exact pending
      · rfl
  join kind target {query inside} keeps := by
    refine ⟨fun cursor => ?_, fun pending => keeps.pending pending⟩
    simp [Query.closeJoin, cursor]

end Query.KeepsRest

namespace Query.AtRest

variable {query changed : Query}

theorem new (connection : Connection) (workspace : Workspace) :
    (((Query.new connection).run workspace).1).AtRest :=
  ⟨rfl, rfl⟩

theorem keeps (rest : query.AtRest) (kept : query.KeepsRest changed) : changed.AtRest :=
  ⟨kept.cursor rest.cursor, kept.pending rest.pending⟩

theorem make (home : Connection) (origin : Script.Origin) (workspace : Workspace) :
    ((origin.make home).run workspace).1.AtRest := by
  obtain ⟨connection, model, table⟩ := origin
  cases model with
  | some model => exact ⟨rfl, rfl⟩
  | none =>
      cases table with
      | none => exact ⟨rfl, rfl⟩
      | some table =>
          have selected := (new (connection.getD home) workspace).keeps
            (KeepsRest.add _ { keyword := "select", payload := some (.items ["*"]) })
          exact selected.keeps (KeepsRest.stable.setText _ "from" _)

theorem withSelectList (rest : query.AtRest) {item : String}
    (replaced : query.withSelectList item = .ok changed) : changed.AtRest :=
  rest.keeps (KeepsRest.stable.replaceClause replaced)

theorem withoutPaging (rest : query.AtRest) : query.withoutPaging.AtRest :=
  ((rest.keeps (KeepsRest.removeClause _ _)).keeps (KeepsRest.removeClause _ _)).keeps
    (KeepsRest.removeClause _ _)

theorem clone (rest : query.AtRest) (workspace : Workspace) :
    (query.clone.run workspace).1.AtRest :=
  ⟨rest.cursor, rest.pending⟩

theorem countRowsOf (rest : query.AtRest) (inner : Query) : (query.countRowsOf inner).AtRest := by
  have selected := rest.keeps
    (KeepsRest.add query { keyword := "select", payload := some (.items ["count(*)"]) })
  exact (selected.keeps (KeepsRest.stable.ledger _ _)).keeps (KeepsRest.stable.addText _ "from" _)

theorem totalCount {workspace : Workspace}
    (counted : (query.totalCountQuery.run workspace).1 = .ok changed) : changed.AtRest := by
  obtain ⟨keyword, inner, -, -, rfl, -⟩ := Query.exists_of_totalCountQuery counted
  exact (new query.connection _).countRowsOf inner

theorem resultCount (rest : query.AtRest) {workspace : Workspace}
    (counted : (query.resultCountQuery.run workspace).1 = .ok changed) : changed.AtRest := by
  obtain ⟨keyword, -, ⟨-, replaced, -⟩ | ⟨-, same⟩⟩ := Query.exists_of_resultCountQuery counted
  · exact (rest.clone workspace).withoutPaging.withSelectList replaced
  · rw [same] at counted
    exact totalCount counted

theorem copy (rest : query.AtRest) (kind : Script.CopyKind) (workspace : Workspace)
    (copied : ((kind.make query).run workspace).1 = .ok changed) : changed.AtRest := by
  cases kind with
  | clone =>
      cases copied
      exact rest.clone workspace
  | fresh =>
      cases copied
      exact new _ workspace
  | explain =>
      cases copied
      exact ⟨by simp [rest.cursor], rest.pending⟩
  | resultCount => exact rest.resultCount copied
  | totalCount => exact totalCount copied

end Query.AtRest

/-- Outside callbacks fragments go to the end and the next condition has its own connective. -/
theorem Query.Reachable.atRest {query : Query} (reachable : query.Reachable) : query.AtRest := by
  induction reachable with
  | made home origin workspace => exact AtRest.make home origin workspace
  | call home step workspace _ ih =>
      exact ih.keeps (Script.call_keeps KeepsRest.stable home step _ workspace)
  | copy kind workspace _ copied ih => exact ih.copy kind workspace copied

end SqlBuilder
