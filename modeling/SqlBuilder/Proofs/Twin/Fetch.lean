import SqlBuilder.Proofs.Param.Execution
import SqlBuilder.Proofs.Twin.Make

/-!
# Running queries in both runs

Running a query takes namespaces, and how many may depend on whether the query has a fault. So
either both runs are the same, or it does not matter how namespaces are counted.
-/

namespace SqlBuilder

open Script

theorem eq_of_forall₂ {α : Type} {related : α → α → Prop} {xs ys : List α}
    (same : ∀ x y, related x y → y = x) (all : List.Forall₂ related xs ys) : ys = xs := by
  induction all with
  | nil => rfl
  | cons first _ ih => rw [same _ _ first, ih]

namespace Coupling

variable {coupling : Coupling} {registry : Registry}

theorem payload_eq (identical : coupling.identical) {known : List Param}
    {payload payload' : Option Payload} (twin : coupling.PayloadTwin known payload payload') :
    payload' = payload := by
  have literal := (coupling.alike identical).2.2.2
  have text (first second : String) (twin : coupling.Text known first second) : second = first :=
    (twin.eq_of_literal literal).symm
  cases twin with
  | none => rfl
  | text twin => rw [text _ _ twin]
  | items twins => rw [eq_of_forall₂ text twins]

theorem fragment_eq (identical : coupling.identical) {known : List Param}
    {fragment fragment' : Fragment} (twin : coupling.FragmentTwin known fragment fragment') :
    fragment' = fragment := by
  have payload := payload_eq identical twin.payload
  cases fragment
  cases fragment'
  have keyword := twin.keyword
  have separator := twin.separator'.trans twin.separator.symm
  simp_all

/-- Twin queries of runs that are the same are one. -/
theorem Nested.eq {quiet : Bool} {query query' : Query} (identical : coupling.identical)
    (nested : coupling.Nested registry quiet query query') : query' = query := by
  obtain ⟨connections, ledgers, -, -⟩ := coupling.alike identical
  have connection := connections _ _ nested.twin.connection
  have ledger := ledgers _ _ nested.ledgers
  have fragments := eq_of_forall₂ (fun _ _ => fragment_eq identical) nested.twin.fragments
  have twin := nested.twin
  cases query
  cases query'
  simp only at connection ledger fragments
  simp only [Query.mk.injEq]
  exact ⟨connection, ledger, fragments, twin.currentClause, twin.onDefined, twin.cursor,
    twin.pending, twin.model⟩

/-- Twin workspaces of runs that are the same are one. -/
theorem Workspaces.eq {workspace workspace' : Workspace} (identical : coupling.identical)
    (twins : coupling.Workspaces registry workspace workspace') : workspace' = workspace := by
  have next := (coupling.alike identical).2.2.1 _ _ twins.counters
  have queries := eq_of_forall₂ (fun entry entry' pair => Prod.ext pair.1
    (Nested.eq identical pair.2)) twins.queries
  have aborted := twins.aborted
  cases workspace
  cases workspace'
  simp_all

/-- Namespaces that are taken one by one are counted alike. -/
theorem counters_of_le {number later : Nat} (same : coupling.counters number number)
    (le : number ≤ later) : coupling.counters later later := by
  induction le with
  | refl => exact same
  | step _ ih => exact coupling.taken ih

/-- Running a query. -/
theorem Builds.fetch {workspace workspace' : Workspace} {query query' : Query}
    (nested : coupling.Nested registry false query query') (kind : FetchKind)
    (executor : Executor) :
    coupling.Builds registry workspace workspace' [] []
      ((kind.run executor query).run.run {}) ((kind.run executor query').run.run {})
      fun _ _ _ => True := by
  intro twins
  have grown := kind.grows executor query {} workspace
  have grown' := kind.grows executor query' {} workspace'
  refine ⟨registry, grown.progress, twins.grown grown grown'.queries grown'.aborted ?_, .nil,
    trivial⟩
  rcases coupling.counting with identical | any
  · rw [nested.eq identical, twins.eq identical]
    have same := twins.counters
    rw [twins.eq identical] at same
    exact counters_of_le same grown.next
  · exact any _ _

end Coupling

end SqlBuilder
