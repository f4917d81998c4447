import Mathlib.Data.List.Basic
import SqlBuilder.Param

/-!
# Registries of parameters

Namespaces are handed out once, and every list of parameters counts the values that it has named in
its own. So there is one record of what every name stands for: the values of each namespace in the
order in which they were named. A list of parameters follows such a record if its names are distinct
and all of its values are on record under their names.

Lists that follow one record can be put together in any way, since a name that is skipped has the
value that it already had.
-/

namespace SqlBuilder

theorem toList_paramName (namespaceId index : Nat) :
    (paramName namespaceId index).toList =
      'p' :: (Nat.toDigits 10 namespaceId ++ '_' :: Nat.toDigits 10 index) := by
  simp [paramName]

/-- The underscore tells a namespace and an index apart. -/
theorem underscore_notMem_toDigits (number : Nat) : '_' ∉ Nat.toDigits 10 number := by
  intro mem
  have digit := Nat.isDigit_of_mem_toDigits (by decide) (by decide) mem
  simp at digit

theorem toDigits_injective {first second : Nat}
    (same : Nat.toDigits 10 first = Nat.toDigits 10 second) : first = second := by
  rw [← Nat.ofDigitChars_ten_toDigits (n := first), same, Nat.ofDigitChars_ten_toDigits]

/-- A name tells its namespace and its index. -/
theorem paramName_injective {namespaceId namespaceId' index index' : Nat}
    (same : paramName namespaceId index = paramName namespaceId' index') :
    namespaceId = namespaceId' ∧ index = index' := by
  have chars := congrArg String.toList same
  simp only [toList_paramName, List.cons.injEq, true_and] at chars
  rw [List.append_cons_inj_of_notMem (underscore_notMem_toDigits namespaceId)
    (underscore_notMem_toDigits index)] at chars
  exact ⟨toDigits_injective chars.1, toDigits_injective chars.2.2⟩

/-- The values of every namespace in the order in which they were named. -/
abbrev Registry := Nat → List Scalar

namespace Registry

/-- The record with one more value in a namespace. -/
def push (registry : Registry) (namespaceId : Nat) (value : Scalar) : Registry :=
  Function.update registry namespaceId (registry namespaceId ++ [value])

/-- Whether a later record has all that an earlier one has. -/
def Extends (registry later : Registry) : Prop :=
  ∀ namespaceId, registry namespaceId <+: later namespaceId

theorem Extends.refl (registry : Registry) : registry.Extends registry :=
  fun _ => List.prefix_refl _

theorem Extends.trans {first second third : Registry} (earlier : first.Extends second)
    (later : second.Extends third) : first.Extends third :=
  fun namespaceId => (earlier namespaceId).trans (later namespaceId)

theorem extends_push (registry : Registry) (namespaceId : Nat) (value : Scalar) :
    registry.Extends (registry.push namespaceId value) := by
  intro other
  by_cases same : other = namespaceId
  · subst same
    simp [push]
  · simp [push, same]

theorem Extends.getElem? {registry later : Registry} (extended : registry.Extends later)
    {namespaceId index : Nat} {value : Scalar}
    (recorded : (registry namespaceId)[index]? = some value) :
    (later namespaceId)[index]? = some value := by
  obtain ⟨added, same⟩ := extended namespaceId
  obtain ⟨inside, rfl⟩ := List.getElem?_eq_some_iff.1 recorded
  rw [← same, List.getElem?_append_left inside, List.getElem?_eq_getElem inside]

end Registry

/-- Whether a value is on record under its name. -/
def Param.Recorded (registry : Registry) (param : Param) : Prop :=
  ∃ namespaceId index, param.name = paramName namespaceId index ∧
    (registry namespaceId)[index]? = some param.value

namespace Param.Recorded

variable {registry later : Registry} {param other : Param}

theorem mono (recorded : param.Recorded registry) (extended : registry.Extends later) :
    param.Recorded later := by
  obtain ⟨namespaceId, index, name, value⟩ := recorded
  exact ⟨namespaceId, index, name, extended.getElem? value⟩

/-- On one record a name has one value. -/
theorem eq_of_name (recorded : param.Recorded registry) (recorded' : other.Recorded registry)
    (name : param.name = other.name) : param = other := by
  obtain ⟨namespaceId, index, named, value⟩ := recorded
  obtain ⟨namespaceId', index', named', value'⟩ := recorded'
  obtain ⟨rfl, rfl⟩ := paramName_injective (named.symm.trans (name.trans named'))
  cases param
  cases other
  simp_all

/-- A name that a namespace has not counted yet is not on record. -/
theorem name_ne (recorded : param.Recorded registry) (namespaceId : Nat) :
    param.name ≠ paramName namespaceId (registry namespaceId).length := by
  obtain ⟨namespaceId', index', named, value⟩ := recorded
  intro same
  obtain ⟨rfl, rfl⟩ := paramName_injective (named.symm.trans same)
  simp at value

end Param.Recorded

namespace ParamList

/-- Whether the names of a list are distinct and have their values on record. -/
structure Follows (registry : Registry) (params : ParamList) : Prop where
  distinct : (params.entries.map (·.name)).Nodup
  recorded : ∀ param ∈ params.entries, param.Recorded registry

/-- Whether a list counts all values of its namespace. -/
def Owns (registry : Registry) (params : ParamList) : Prop :=
  params.nextIndex = (registry params.namespaceId).length

/-- The name that the next value gets. -/
def nextName (params : ParamList) : String := paramName params.namespaceId params.nextIndex

variable {registry later : Registry} {params other : ParamList}

theorem entries_push (params : ParamList) (value : Scalar) :
    (params.push value).2.entries = params.entries ++ [{ name := params.nextName, value }] := rfl

theorem has_iff (name : String) : params.has name ↔ name ∈ params.entries.map (·.name) := by
  simp [has]

theorem extend_cons (params : ParamList) (namespaceId nextIndex : Nat) (param : Param)
    (rest : List Param) :
    params.extend ⟨namespaceId, nextIndex, param :: rest⟩ =
      (params.adopt param).extend ⟨namespaceId, nextIndex, rest⟩ := rfl

namespace Follows

theorem nil (registry : Registry) (namespaceId : Nat) :
    Follows registry { namespaceId } :=
  ⟨List.nodup_nil, by simp⟩

theorem mono (follows : params.Follows registry) (extended : registry.Extends later) :
    params.Follows later :=
  ⟨follows.distinct, fun param mem => (follows.recorded param mem).mono extended⟩

/-- The next name of a list that counts its namespace is in no list that follows the record. -/
theorem nextName_notMem (follows : params.Follows registry) (owns : other.Owns registry) :
    other.nextName ∉ params.entries.map (·.name) := by
  intro mem
  obtain ⟨param, param_mem, name⟩ := List.mem_map.1 mem
  refine (follows.recorded param param_mem).name_ne other.namespaceId ?_
  rw [name, nextName, owns]

/-- Naming a value puts it on record. -/
theorem push (follows : params.Follows registry) (owns : params.Owns registry) (value : Scalar) :
    (params.push value).2.Follows (registry.push params.namespaceId value) := by
  have extended := registry.extends_push params.namespaceId value
  refine ⟨?_, ?_⟩
  · rw [entries_push, List.map_append, List.nodup_append]
    refine ⟨follows.distinct, by simp, ?_⟩
    rintro name mem _ (_ | ⟨_, ⟨⟩⟩) rfl
    exact follows.nextName_notMem owns mem
  · rw [entries_push]
    intro param mem
    rcases List.mem_append.1 mem with mem | mem
    · exact (follows.recorded param mem).mono extended
    · obtain rfl := List.mem_singleton.1 mem
      refine ⟨params.namespaceId, params.nextIndex, rfl, ?_⟩
      simp [Registry.push, owns.symm]

theorem adopt (follows : params.Follows registry) {param : Param}
    (recorded : param.Recorded registry) : (params.adopt param).Follows registry := by
  unfold ParamList.adopt
  split
  · exact follows
  · rename_i fresh
    rw [has_iff] at fresh
    refine ⟨?_, ?_⟩
    · rw [List.map_append, List.nodup_append]
      refine ⟨follows.distinct, by simp, ?_⟩
      rintro name mem _ (_ | ⟨_, ⟨⟩⟩) rfl
      exact fresh mem
    · intro other mem
      rcases List.mem_append.1 mem with mem | mem
      · exact follows.recorded other mem
      · obtain rfl := List.mem_singleton.1 mem
        exact recorded

theorem mem_adopt (follows : params.Follows registry) {param : Param}
    (recorded : param.Recorded registry) : param ∈ (params.adopt param).entries := by
  unfold ParamList.adopt
  split
  · rename_i known
    obtain ⟨other, mem, name⟩ := List.mem_map.1 ((has_iff _).1 known)
    rwa [recorded.eq_of_name (follows.recorded other mem) name.symm]
  · simp

end Follows

theorem subset_adopt (params : ParamList) (param : Param) :
    params.entries ⊆ (params.adopt param).entries := by
  unfold adopt
  split
  · exact List.Subset.refl _
  · exact List.subset_append_left _ _

theorem subset_extend (params other : ParamList) :
    params.entries ⊆ (params.extend other).entries := by
  obtain ⟨namespaceId, nextIndex, entries⟩ := other
  induction entries generalizing params with
  | nil => exact List.Subset.refl _
  | cons param rest ih =>
      rw [extend_cons]
      exact List.Subset.trans (params.subset_adopt param) (ih _)

/-- Nothing is made up when lists are put together. -/
theorem mem_of_mem_extend {param : Param} (mem : param ∈ (params.extend other).entries) :
    param ∈ params.entries ∨ param ∈ other.entries := by
  obtain ⟨namespaceId, nextIndex, entries⟩ := other
  induction entries generalizing params with
  | nil => exact .inl mem
  | cons first rest ih =>
      rw [extend_cons] at mem
      rcases ih mem with mem | mem
      · unfold adopt at mem
        split at mem
        · exact .inl mem
        · rcases List.mem_append.1 mem with mem | mem
          · exact .inl mem
          · exact .inr (List.mem_cons.2 (.inl (List.mem_singleton.1 mem)))
      · exact .inr (List.mem_cons_of_mem _ mem)

theorem namespaceId_adopt (params : ParamList) (param : Param) :
    (params.adopt param).namespaceId = params.namespaceId := by
  unfold adopt
  split <;> rfl

theorem nextIndex_adopt (params : ParamList) (param : Param) :
    (params.adopt param).nextIndex = params.nextIndex := by
  unfold adopt
  split <;> rfl

@[simp] theorem namespaceId_extend (params other : ParamList) :
    (params.extend other).namespaceId = params.namespaceId := by
  obtain ⟨namespaceId, nextIndex, entries⟩ := other
  induction entries generalizing params with
  | nil => rfl
  | cons param rest ih => rw [extend_cons, ih, namespaceId_adopt]

@[simp] theorem nextIndex_extend (params other : ParamList) :
    (params.extend other).nextIndex = params.nextIndex := by
  obtain ⟨namespaceId, nextIndex, entries⟩ := other
  induction entries generalizing params with
  | nil => rfl
  | cons param rest ih => rw [extend_cons, ih, nextIndex_adopt]

namespace Follows

/-- Lists that follow one record can be put together. -/
theorem extend (follows : params.Follows registry) (follows' : other.Follows registry) :
    (params.extend other).Follows registry := by
  obtain ⟨namespaceId, nextIndex, entries⟩ := other
  have recorded := follows'.recorded
  clear follows'
  induction entries generalizing params with
  | nil => exact follows
  | cons param rest ih =>
      simp only [List.mem_cons, forall_eq_or_imp] at recorded
      rw [extend_cons]
      exact ih (follows.adopt recorded.1) recorded.2

/-- No value is lost when lists that follow one record are put together. -/
theorem subset_extend_right (follows : params.Follows registry)
    (follows' : other.Follows registry) : other.entries ⊆ (params.extend other).entries := by
  obtain ⟨namespaceId, nextIndex, entries⟩ := other
  have recorded := follows'.recorded
  clear follows'
  induction entries generalizing params with
  | nil => exact List.nil_subset _
  | cons param rest ih =>
      simp only [List.mem_cons, forall_eq_or_imp] at recorded
      rw [extend_cons]
      refine List.cons_subset.2 ⟨?_, ih (follows.adopt recorded.1) recorded.2⟩
      exact subset_extend _ _ (follows.mem_adopt recorded.1)

end Follows

theorem Owns.push (owns : params.Owns registry) (value : Scalar) :
    (params.push value).2.Owns (registry.push params.namespaceId value) := by
  simp [Owns, ParamList.push, Registry.push, owns.symm]

end ParamList

end SqlBuilder
