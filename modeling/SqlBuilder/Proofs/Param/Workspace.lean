import Mathlib.Data.List.Pairwise
import SqlBuilder.Proofs.Expr.Equation
import SqlBuilder.Proofs.Param.Registry
import SqlBuilder.Proofs.Query.Condition
import SqlBuilder.Proofs.Query.Placement
import SqlBuilder.Script.Run

/-!
# Workspaces on one record

What it means that all named queries of a workspace follow one record of parameters, each of them
counting the values of a namespace of its own, and how naming and changing queries keeps it so. The
namespaces of the record are those that have been handed out.
-/

namespace SqlBuilder

/-- Whether a change of a ledger keeps it on record, and records values in its namespace only. -/
structure Ledger.Records (registry later : Registry) (ledger changed : Ledger) : Prop where
  extended : registry.Extends later
  elsewhere : ∀ namespaceId, namespaceId ≠ ledger.params.namespaceId →
    later namespaceId = registry namespaceId
  namespaceId : changed.params.namespaceId = ledger.params.namespaceId
  kept : ledger.params.entries ⊆ changed.params.entries
  follows : changed.params.Follows later
  owns : changed.params.Owns later

namespace Ledger.Records

variable {registry later latest : Registry} {ledger changed other final : Ledger}

theorem of_params_eq (follows : ledger.params.Follows registry)
    (owns : ledger.params.Owns registry) (same : changed.params = ledger.params) :
    Records registry registry ledger changed where
  extended := .refl registry
  elsewhere _ _ := rfl
  namespaceId := congrArg (·.namespaceId) same
  kept := by simp [same]
  follows := by rwa [same]
  owns := by rwa [same]

theorem trans (first : Records registry later ledger changed)
    (second : Records later latest changed final) : Records registry latest ledger final where
  extended := first.extended.trans second.extended
  elsewhere namespaceId differs :=
    (second.elsewhere namespaceId (first.namespaceId ▸ differs)).trans
      (first.elsewhere namespaceId differs)
  namespaceId := second.namespaceId.trans first.namespaceId
  kept := List.Subset.trans first.kept second.kept
  follows := second.follows
  owns := second.owns

/-- Taking over the parameters of another query needs no new record. -/
theorem adopt (follows : ledger.params.Follows registry) (owns : ledger.params.Owns registry)
    (follows' : other.params.Follows registry) :
    Records registry registry ledger (ledger.adopt other) where
  extended := .refl registry
  elsewhere _ _ := rfl
  namespaceId := by simp [Ledger.adopt]
  kept := ParamList.subset_extend _ _
  follows := follows.extend follows'
  owns := by simpa [ParamList.Owns, Ledger.adopt] using owns

theorem push (follows : ledger.params.Follows registry) (owns : ledger.params.Owns registry)
    (value : Scalar) :
    Records registry (registry.push ledger.params.namespaceId value) ledger
      { ledger with params := (ledger.params.push value).2 } where
  extended := registry.extends_push _ _
  elsewhere namespaceId differs := by simp [Registry.push, differs]
  namespaceId := rfl
  kept := by simp [ParamList.entries_push]
  follows := follows.push owns value
  owns := owns.push value

theorem bind (follows : ledger.params.Follows registry) (owns : ledger.params.Owns registry)
    (connection : Connection) (value : Scalar) :
    ∃ later, Records registry later ledger (ledger.bind connection value).2 := by
  cases prepared : connection.config.prepared with
  | true =>
      rw [Ledger.bind_of_prepared prepared]
      exact ⟨_, push follows owns value⟩
  | false =>
      rw [Ledger.bind_of_inline prepared]
      refine ⟨registry, of_params_eq follows owns ?_⟩
      unfold Ledger.literalOr
      split <;> rfl

end Ledger.Records

/-- The namespace in which a query names values. -/
def Query.namespaceId (query : Query) : Nat := query.ledger.params.namespaceId

/-- Whether a workspace has only lost free namespaces. -/
structure Workspace.Grown (before after : Workspace) : Prop where
  queries : after.queries = before.queries
  next : before.nextNamespace ≤ after.nextNamespace
  aborted : after.aborted = before.aborted

/-- Whether a query was made between two workspaces and has not named a value since. -/
structure Query.Made (registry : Registry) (before after : Workspace) (query : Query) : Prop where
  queries : after.queries = before.queries
  aborted : after.aborted = before.aborted
  above : before.nextNamespace ≤ query.namespaceId
  below : query.namespaceId < after.nextNamespace
  follows : query.ledger.params.Follows registry
  unused : query.ledger.params.nextIndex = 0

namespace Query.Made

variable {registry : Registry} {query : Query} (workspace : Workspace)

theorem new (registry : Registry) (connection : Connection) :
    Made registry workspace ((Query.new connection).run workspace).2
      ((Query.new connection).run workspace).1 where
  queries := rfl
  aborted := rfl
  above := Nat.le_refl _
  below := Nat.lt_succ_self _
  follows := .nil _ _
  unused := rfl

theorem fresh (registry : Registry) (query : Query) :
    Made registry workspace (query.fresh.run workspace).2 (query.fresh.run workspace).1 :=
  new workspace registry query.connection

/-- Placing fragments in a query that was made changes nothing about it. -/
theorem of_ledger_eq {before after : Workspace} {changed : Query}
    (made : Made registry before after query) (same : changed.ledger = query.ledger) :
    Made registry before after changed where
  queries := made.queries
  aborted := made.aborted
  above := by simpa [namespaceId, same] using made.above
  below := by simpa [namespaceId, same] using made.below
  follows := by simpa [same] using made.follows
  unused := by simpa [same] using made.unused

theorem clone (follows : query.ledger.params.Follows registry) :
    Made registry workspace (query.clone.run workspace).2 (query.clone.run workspace).1 where
  queries := rfl
  aborted := rfl
  above := Nat.le_refl _
  below := Nat.lt_succ_self _
  follows := ⟨follows.distinct, follows.recorded⟩
  unused := rfl

theorem make (registry : Registry) (home : Connection) (origin : Script.Origin) :
    Made registry workspace ((origin.make home).run workspace).2
      ((origin.make home).run workspace).1 := by
  obtain ⟨connection, model, table⟩ := origin
  have fresh := new workspace registry (connection.getD home)
  cases model with
  | some model => exact fresh.of_ledger_eq rfl
  | none =>
      cases table with
      | none => exact fresh
      | some table =>
          exact fresh.of_ledger_eq
            ((ledger_source _ table none).trans (ledger_selectRaw _ "*"))

theorem relatedRows (registry : Registry) (query : Query) (link : RelationLink) :
    Made registry workspace ((query.relatedRows link).run workspace).2
      ((query.relatedRows link).run workspace).1 := by
  rw [Query.run_relatedRows]
  refine (new workspace registry query.connection).of_ledger_eq ?_
  simp only [ledger_addText]
  exact (ledger_source _ link.table none).trans (ledger_selectRaw _ "1")

theorem trans {before between after : Workspace} (made : Made registry between after query)
    (grown : before.Grown between) : Made registry before after query where
  queries := made.queries.trans grown.queries
  aborted := made.aborted.trans grown.aborted
  above := Nat.le_trans grown.next made.above
  below := made.below
  follows := made.follows
  unused := made.unused

/-- A query that was made can count the rows of another one. -/
theorem countRowsOf {before after : Workspace} {inner : Query}
    (made : Made registry before after query) (follows : inner.ledger.params.Follows registry) :
    Made registry before after (query.countRowsOf inner) where
  queries := made.queries
  aborted := made.aborted
  above := by simpa [namespaceId, Ledger.adopt] using made.above
  below := by simpa [namespaceId, Ledger.adopt] using made.below
  follows := by simpa [Ledger.adopt] using made.follows.extend follows
  unused := by simpa [Ledger.adopt] using made.unused

theorem totalCount {counted : Query} (follows : query.ledger.params.Follows registry)
    (made : (query.totalCountQuery.run workspace).1 = .ok counted) :
    Made registry workspace (query.totalCountQuery.run workspace).2 counted := by
  obtain ⟨keyword, inner, -, stripped, rfl, after⟩ := exists_of_totalCountQuery made
  have copied := clone workspace follows
  have made := fresh (query.clone.run workspace).2 registry query
  have adopted : inner.ledger.params.Follows registry := by
    rw [ledger_countedRows stripped]
    exact copied.follows
  rw [after]
  exact (made.countRowsOf adopted).trans ⟨copied.queries, Nat.le_succ _, copied.aborted⟩

theorem resultCount {counted : Query} (follows : query.ledger.params.Follows registry)
    (made : (query.resultCountQuery.run workspace).1 = .ok counted) :
    Made registry workspace (query.resultCountQuery.run workspace).2 counted := by
  obtain ⟨keyword, -, ⟨-, replaced, after⟩ | ⟨-, same⟩⟩ := exists_of_resultCountQuery made
  · rw [after]
    exact (clone workspace follows).of_ledger_eq
      ((ledger_replaceClause replaced).trans (ledger_withoutPaging _))
  · rw [same] at made ⊢
    exact totalCount workspace follows made

theorem copy {kind : Script.CopyKind} {copied : Query}
    (follows : query.ledger.params.Follows registry)
    (made : ((kind.make query).run workspace).1 = .ok copied) :
    Made registry workspace ((kind.make query).run workspace).2 copied := by
  cases kind with
  | clone =>
      cases made
      exact clone workspace follows
  | fresh =>
      cases made
      exact new workspace registry query.connection
  | explain =>
      cases made
      exact (clone workspace follows).of_ledger_eq rfl
  | resultCount => exact resultCount workspace follows made
  | totalCount => exact totalCount workspace follows made

end Query.Made

namespace Workspace.Grown

theorem refl (workspace : Workspace) : workspace.Grown workspace := ⟨rfl, Nat.le_refl _, rfl⟩

theorem totalCountQuery (query : Query) (workspace : Workspace) :
    workspace.Grown (query.totalCountQuery.run workspace).2 := by
  rw [Query.run_totalCountQuery]
  split
  · exact refl workspace
  · dsimp only
    split
    · exact ⟨rfl, Nat.le_succ _, rfl⟩
    · exact ⟨rfl, Nat.le_succ_of_le (Nat.le_succ _), rfl⟩

theorem resultCountQuery (query : Query) (workspace : Workspace) :
    workspace.Grown (query.resultCountQuery.run workspace).2 := by
  rw [Query.run_resultCountQuery]
  split
  · exact refl workspace
  · split
    · exact ⟨rfl, Nat.le_succ _, rfl⟩
    · exact totalCountQuery query workspace

theorem copy (kind : Script.CopyKind) (query : Query) (workspace : Workspace) :
    workspace.Grown ((kind.make query).run workspace).2 := by
  cases kind with
  | clone => exact ⟨rfl, Nat.le_succ _, rfl⟩
  | fresh => exact ⟨rfl, Nat.le_succ _, rfl⟩
  | explain => exact ⟨rfl, Nat.le_succ _, rfl⟩
  | resultCount => exact resultCountQuery query workspace
  | totalCount => exact totalCountQuery query workspace

end Workspace.Grown

/-- Whether the named queries follow a record, each one counting a namespace of its own. -/
structure Workspace.Sound (registry : Registry) (workspace : Workspace) : Prop where
  follows : ∀ entry ∈ workspace.queries, entry.2.ledger.params.Follows registry
  owns : ∀ entry ∈ workspace.queries, entry.2.ledger.params.Owns registry
  below : ∀ entry ∈ workspace.queries, entry.2.namespaceId < workspace.nextNamespace
  distinct : workspace.queries.Pairwise fun entry other =>
    entry.2.namespaceId ≠ other.2.namespaceId
  unused : ∀ namespaceId, workspace.nextNamespace ≤ namespaceId → registry namespaceId = []

namespace Workspace

variable {registry later : Registry} {workspace after : Workspace} {name : String} {query : Query}

theorem get?_mem (found : workspace.get? name = some query) :
    (name, query) ∈ workspace.queries := by
  obtain ⟨⟨key, value⟩, mem, rfl⟩ := Option.map_eq_some_iff.1 found
  have named := List.find?_some mem
  simp only [beq_iff_eq] at named
  subst named
  exact List.mem_of_find?_eq_some mem

theorem mem_insert {entry : String × Query} (mem : entry ∈ (workspace.insert name query).queries) :
    (entry ∈ workspace.queries ∧ entry.1 ≠ name) ∨ entry = (name, query) := by
  simpa [insert] using mem

/-- Queries of two names have two namespaces. -/
theorem namespaceId_ne
    (distinct : workspace.queries.Pairwise fun entry other =>
      entry.2.namespaceId ≠ other.2.namespaceId)
    {entry other : String × Query} (mem : entry ∈ workspace.queries)
    (other_mem : other ∈ workspace.queries) (differs : entry.1 ≠ other.1) :
    entry.2.namespaceId ≠ other.2.namespaceId := by
  have symmetric : Std.Symm fun entry other : String × Query =>
      entry.2.namespaceId ≠ other.2.namespaceId := ⟨fun _ _ => Ne.symm⟩
  refine distinct.forall mem other_mem ?_
  rintro rfl
  exact differs rfl

namespace Sound

theorem initial : Sound (fun _ => []) {} where
  follows := by simp
  owns := by simp
  below := by simp
  distinct := by simp
  unused _ _ := rfl

theorem grown (sound : workspace.Sound registry) (grown : workspace.Grown after) :
    after.Sound registry where
  follows := by simpa [grown.queries] using sound.follows
  owns := by simpa [grown.queries] using sound.owns
  below entry mem := by
    rw [grown.queries] at mem
    exact Nat.lt_of_lt_of_le (sound.below entry mem) grown.next
  distinct := by simpa [grown.queries] using sound.distinct
  unused namespaceId unused := sound.unused namespaceId (Nat.le_trans grown.next unused)

theorem grown_of_made (made : Query.Made registry workspace after query) :
    workspace.Grown after :=
  ⟨made.queries, Nat.le_of_lt (Nat.lt_of_le_of_lt made.above made.below), made.aborted⟩

/-- A query that was made can be named. -/
theorem insert_made (sound : workspace.Sound registry)
    (made : Query.Made registry workspace after query) (name : String) :
    (after.insert name query).Sound registry := by
  have kept := sound.grown (grown_of_made made)
  have free : registry query.namespaceId = [] := sound.unused _ made.above
  have before : ∀ entry ∈ after.queries, entry.2.namespaceId < query.namespaceId := by
    intro entry mem
    rw [made.queries] at mem
    exact Nat.lt_of_lt_of_le (sound.below entry mem) made.above
  refine ⟨?_, ?_, ?_, ?_, kept.unused⟩
  · intro entry mem
    rcases mem_insert mem with ⟨mem, -⟩ | rfl
    · exact kept.follows entry mem
    · exact made.follows
  · intro entry mem
    rcases mem_insert mem with ⟨mem, -⟩ | rfl
    · exact kept.owns entry mem
    · exact made.unused.trans (congrArg List.length free).symm
  · intro entry mem
    rcases mem_insert mem with ⟨mem, -⟩ | rfl
    · exact kept.below entry mem
    · exact made.below
  · refine List.pairwise_append.2 ⟨kept.distinct.filter _, List.pairwise_singleton _ _, ?_⟩
    intro entry mem other single
    obtain rfl := List.mem_singleton.1 single
    exact Nat.ne_of_lt (before entry (List.mem_filter.1 mem).1)

/-- A named query can change, and record values in its own namespace. -/
theorem insert_changed (sound : workspace.Sound registry)
    (found : workspace.get? name = some query) {changed : Query}
    (extended : registry.Extends later)
    (elsewhere : ∀ namespaceId, namespaceId ≠ query.namespaceId →
      later namespaceId = registry namespaceId)
    (same : changed.namespaceId = query.namespaceId)
    (follows : changed.ledger.params.Follows later) (owns : changed.ledger.params.Owns later) :
    (workspace.insert name changed).Sound later := by
  have mem_query := get?_mem found
  have others : ∀ entry ∈ workspace.queries, entry.1 ≠ name →
      entry.2.namespaceId ≠ query.namespaceId :=
    fun entry mem differs => namespaceId_ne sound.distinct mem mem_query differs
  refine ⟨?_, ?_, ?_, ?_, ?_⟩
  · intro entry mem
    rcases mem_insert mem with ⟨mem, -⟩ | rfl
    · exact (sound.follows entry mem).mono extended
    · exact follows
  · intro entry mem
    rcases mem_insert mem with ⟨mem, differs⟩ | rfl
    · have kept := elsewhere _ (others entry mem differs)
      exact (sound.owns entry mem).trans (congrArg List.length kept).symm
    · exact owns
  · intro entry mem
    rcases mem_insert mem with ⟨mem, -⟩ | rfl
    · exact sound.below entry mem
    · rw [same]
      exact sound.below _ mem_query
  · refine List.pairwise_append.2 ⟨sound.distinct.filter _, List.pairwise_singleton _ _, ?_⟩
    intro entry mem other single
    obtain rfl := List.mem_singleton.1 single
    obtain ⟨mem, differs⟩ := List.mem_filter.1 mem
    rw [same]
    exact others entry mem (by simpa using differs)
  · intro namespaceId unused
    have differs : namespaceId ≠ query.namespaceId :=
      Nat.ne_of_gt (Nat.lt_of_lt_of_le (sound.below _ mem_query) unused)
    rw [elsewhere namespaceId differs]
    exact sound.unused namespaceId unused

end Sound

end Workspace

end SqlBuilder
