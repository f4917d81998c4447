import SqlBuilder.Proofs.Param.Registry
import SqlBuilder.Query.Basic

/-!
# Events in the life of a query

While a query is built, things go wrong and values are bound. A history lists both in the order in
which they happen. It says what the ledger of the query has to show: the first fault, and for each
value that was bound, in order, a parameter that is named with the number of values bound before.

What else is in the ledger was taken over from other queries. Those parameters are known from
elsewhere; the predicate `known` stands for that.
-/

namespace SqlBuilder

/-- Something that happens while a query is built. -/
inductive Event where
  /-- Something goes wrong. -/
  | fault (fault : Fault)
  /-- A value is bound under a new name. -/
  | bound (value : Scalar)

namespace Event

/-- What goes wrong. -/
def fault? : Event → Option Fault
  | .fault detail => some detail
  | .bound _ => none

/-- The value that is bound. -/
def value? : Event → Option Scalar
  | .fault _ => none
  | .bound value => some value

/-- What went wrong, in order. -/
def faults (history : List Event) : List Fault := history.filterMap fault?

/-- The values that were bound, in order. -/
def values (history : List Event) : List Scalar := history.filterMap value?

/-- What is passed on to a query that takes another one in, or is a copy of it: the faults. The
values were bound already, and keep the names that they have. -/
def carried (history : List Event) : List Event := history.filter (·.fault?.isSome)

variable (history more : List Event)

@[simp] theorem faults_append : faults (history ++ more) = faults history ++ faults more :=
  List.filterMap_append

@[simp] theorem values_append : values (history ++ more) = values history ++ values more :=
  List.filterMap_append

@[simp] theorem faults_carried : faults (carried history) = faults history := by
  rw [faults, carried, List.filterMap_filter]
  refine List.filterMap_congr fun event _ => ?_
  cases event <;> simp [fault?]

@[simp] theorem values_carried : values (carried history) = [] := by
  rw [values, carried, List.filterMap_filter, List.filterMap_eq_nil_iff]
  intro event _
  cases event <;> simp [fault?, value?]

@[simp] theorem carried_carried : carried (carried history) = carried history := by
  rw [carried, carried, List.filter_filter]
  exact List.filter_congr fun event _ => Bool.and_self _

end Event

/-- Whether a list of parameters has counted a name as one of its own. -/
def ParamList.Counts (params : ParamList) (name : String) : Prop :=
  ∃ index < params.nextIndex, name = paramName params.namespaceId index

namespace Ledger

/-- Whether events lead from one ledger to another. -/
structure Gains (known : Param → Prop) (ledger changed : Ledger) (events : List Event) : Prop where
  fault : changed.fault = ledger.fault.or (Event.faults events).head?
  namespaceId : changed.params.namespaceId = ledger.params.namespaceId
  nextIndex : changed.params.nextIndex =
    ledger.params.nextIndex + (Event.values events).length
  kept : ledger.params.entries ⊆ changed.params.entries
  named : ∀ index value, (Event.values events)[index]? = some value →
    { name := paramName ledger.params.namespaceId (ledger.params.nextIndex + index), value } ∈
      changed.params.entries
  others : ∀ param ∈ changed.params.entries,
    param ∈ ledger.params.entries ∨ known param ∨ changed.params.Counts param.name

/-- Whether a ledger shows what happened according to a history. -/
structure Shows (known : Param → Prop) (ledger : Ledger) (history : List Event) : Prop where
  fault : ledger.fault = (Event.faults history).head?
  nextIndex : ledger.params.nextIndex = (Event.values history).length
  named : ∀ index value, (Event.values history)[index]? = some value →
    { name := paramName ledger.params.namespaceId index, value } ∈ ledger.params.entries
  others : ∀ param ∈ ledger.params.entries, known param ∨ ledger.params.Counts param.name

/-- Whether a ledger shows what happened, and other queries may know all of its parameters. -/
structure Settles (known : Param → Prop) (ledger : Ledger) (history : List Event) : Prop
    extends ledger.Shows known history where
  known : ∀ param ∈ ledger.params.entries, known param

variable {known : Param → Prop} {ledger changed last other : Ledger}
  {events more history : List Event}

namespace Gains

/-- Nothing is bound. -/
theorem of_params_eq (params : changed.params = ledger.params) (silent : Event.values events = [])
    (fault : changed.fault = ledger.fault.or (Event.faults events).head?) :
    ledger.Gains known changed events where
  fault := fault
  namespaceId := by rw [params]
  nextIndex := by rw [params, silent, List.length_nil, Nat.add_zero]
  kept := by rw [params]; exact List.Subset.refl _
  named index value found := by rw [silent] at found; cases found
  others param mem := .inl (params ▸ mem)

theorem refl (known : Param → Prop) (ledger : Ledger) : ledger.Gains known ledger [] :=
  .of_params_eq rfl rfl Option.or_none.symm

theorem trans (first : ledger.Gains known changed events) (second : changed.Gains known last more) :
    ledger.Gains known last (events ++ more) where
  fault := by
    rw [second.fault, first.fault, Event.faults_append, List.head?_append, Option.or_assoc]
  namespaceId := second.namespaceId.trans first.namespaceId
  nextIndex := by
    rw [second.nextIndex, first.nextIndex, Event.values_append, List.length_append, Nat.add_assoc]
  kept := List.Subset.trans first.kept second.kept
  named index value found := by
    rw [Event.values_append] at found
    rcases Nat.lt_or_ge index (Event.values events).length with less | beyond
    · rw [List.getElem?_append_left less] at found
      exact second.kept (first.named index value found)
    · rw [List.getElem?_append_right beyond] at found
      have later := second.named _ value found
      rwa [first.namespaceId, first.nextIndex, Nat.add_assoc, Nat.add_sub_cancel' beyond] at later
  others param mem := by
    rcases second.others param mem with mem | known | counted
    · rcases first.others param mem with mem | known | ⟨index, less, named⟩
      · exact .inl mem
      · exact .inr (.inl known)
      · refine .inr (.inr ⟨index, Nat.lt_of_lt_of_le less ?_, ?_⟩)
        · rw [second.nextIndex]
          exact Nat.le_add_right _ _
        · rw [named, second.namespaceId]
    · exact .inr (.inl known)
    · exact .inr (.inr counted)

/-- A fault is recorded unless there is one already. -/
theorem record (known : Param → Prop) (ledger : Ledger) (fault : Fault) :
    ledger.Gains known (ledger.record fault) [.fault fault] :=
  .of_params_eq rfl rfl rfl

/-- A value is bound under the next name. -/
theorem push (known : Param → Prop) (ledger : Ledger) (value : Scalar) :
    ledger.Gains known { ledger with params := (ledger.params.push value).2 } [.bound value] where
  fault := (Option.or_none (o := ledger.fault)).symm
  namespaceId := rfl
  nextIndex := rfl
  kept := by
    rw [ParamList.entries_push]
    exact List.subset_append_left _ _
  named index other found := by
    obtain ⟨rfl, rfl⟩ : index = 0 ∧ other = value := by
      cases index with
      | zero => exact ⟨rfl, (Option.some.inj found).symm⟩
      | succ index => cases found
    rw [ParamList.entries_push]
    exact List.mem_append_right _ (List.mem_singleton_self _)
  others param mem := by
    rw [ParamList.entries_push] at mem
    rcases List.mem_append.1 mem with mem | mem
    · exact .inl mem
    · obtain rfl := List.mem_singleton.1 mem
      exact .inr (.inr ⟨ledger.params.nextIndex, Nat.lt_succ_self _, rfl⟩)

/-- Another query brings its faults, and parameters that it may pass on. -/
theorem adopt (settles : other.Settles known history) :
    ledger.Gains known (ledger.adopt other) (Event.carried history) where
  fault := by
    rw [Event.faults_carried, ← settles.fault]
    rfl
  namespaceId := ParamList.namespaceId_extend _ _
  nextIndex := by
    rw [Event.values_carried]
    exact ParamList.nextIndex_extend _ _
  kept := ParamList.subset_extend _ _
  named index value found := by rw [Event.values_carried] at found; cases found
  others param mem := by
    rcases ParamList.mem_of_mem_extend mem with mem | mem
    · exact .inl mem
    · exact .inr (.inl (settles.known param mem))

end Gains

/-- What events add to a history. -/
theorem Shows.gains (shows : ledger.Shows known history)
    (gains : ledger.Gains known changed events) : changed.Shows known (history ++ events) where
  fault := by
    rw [gains.fault, shows.fault, Event.faults_append, List.head?_append]
  nextIndex := by
    rw [gains.nextIndex, shows.nextIndex, Event.values_append, List.length_append]
  named index value found := by
    rw [Event.values_append] at found
    rcases Nat.lt_or_ge index (Event.values history).length with less | beyond
    · rw [List.getElem?_append_left less] at found
      rw [gains.namespaceId]
      exact gains.kept (shows.named index value found)
    · rw [List.getElem?_append_right beyond, ← shows.nextIndex] at found
      rw [← shows.nextIndex] at beyond
      have later := gains.named _ value found
      rwa [Nat.add_sub_cancel' beyond, ← gains.namespaceId] at later
  others param mem := by
    rcases gains.others param mem with mem | known | counted
    · rcases shows.others param mem with known | ⟨index, less, named⟩
      · exact .inl known
      · refine .inr ⟨index, Nat.lt_of_lt_of_le less ?_, ?_⟩
        · rw [gains.nextIndex]
          exact Nat.le_add_right _ _
        · rw [named, gains.namespaceId]
    · exact .inl known
    · exact .inr counted

namespace Settles

theorem new (known : Param → Prop) (namespaceId : Nat) :
    Settles known { params := { namespaceId } } [] where
  fault := rfl
  nextIndex := rfl
  named index value found := by cases found
  others param mem := by cases mem
  known param mem := by cases mem

/-- A copy has the parameters and the faults, and has bound nothing yet. -/
theorem fork (settles : ledger.Settles known history) (namespaceId : Nat) :
    Settles known { ledger with params := ledger.params.fork namespaceId }
      (Event.carried history) where
  fault := by
    rw [Event.faults_carried]
    exact settles.fault
  nextIndex := by
    rw [Event.values_carried]
    rfl
  named index value found := by rw [Event.values_carried] at found; cases found
  others param mem := .inl (settles.known param mem)
  known := settles.known

/-- With the parameters of another query. -/
theorem adopt (settles : ledger.Settles known history) (settles' : other.Settles known more) :
    (ledger.adopt other).Settles known (history ++ Event.carried more) where
  toShows := settles.gains (.adopt settles')
  known param mem :=
    (ParamList.mem_of_mem_extend mem).elim (settles.known param) (settles'.known param)

end Settles

end Ledger

end SqlBuilder
