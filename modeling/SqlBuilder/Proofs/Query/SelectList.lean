import Mathlib.Data.List.Forall2
import SqlBuilder.Proofs.Query.Outline

/-!
# Select lists that translate each other

Two runs give select calls items that translate each other, and items that differ may have one
translation. The select list of the second run cannot be longer than that of the first one. It is as
long exactly if every call adds the same of its items in both runs, and then the select lists
translate each other item by item.
-/

namespace SqlBuilder

namespace Outline

/-- Adds an item unless it is there. -/
def addNew (present : List String) (item : String) : List String :=
  if present.contains item then present else present ++ [item]

/-- What stays of a select list when items come in: a lone star gives way. -/
def kept (present : List String) : List String := if present = ["*"] then [] else present

/-- For each incoming item, whether it is added. -/
def added (present : List String) : List String → List Bool
  | [] => []
  | item :: rest => (!present.contains item) :: added (addNew present item) rest

/-- For each call on a select list that is there, which of its items it adds. -/
def additionsTo (present : List String) : List (List String) → List (List Bool)
  | [] => []
  | call :: rest => added (kept present) call :: additionsTo (extend present call) rest

/-- For each select call behind the first one, which of its items it adds. -/
def additions : List (List String) → List (List Bool)
  | [] => []
  | first :: rest => additionsTo first rest

theorem extend_eq_foldl (present incoming : List String) :
    extend present incoming = incoming.foldl addNew (kept present) :=
  (mergeItems_eq_extend present incoming).symm

/-- What has to hold of items that translate each other: the translation of an item is determined,
and the star stands for itself and for nothing else. -/
structure Translates (related : String → String → Prop) : Prop where
  functional {item one other : String} : related item one → related item other → one = other
  star {item item' : String} : related item item' → (item = "*" ↔ item' = "*")

/-- A select list and the one of another run, which has the translations of its items. Items that
differ may have one translation, so it may be shorter. -/
structure Trails (related : String → String → Prop) (present present' : List String) : Prop where
  image : ∀ item ∈ present, ∃ item' ∈ present', related item item'
  shorter : present'.length ≤ present.length
  stars : present'.count "*" = present.count "*"
  paired : present'.length = present.length → List.Forall₂ related present present'

namespace Trails

variable {related : String → String → Prop} {present present' incoming incoming' : List String}
  {selections selections' : List (List String)} {item item' : String}

theorem nil : Trails related [] [] :=
  ⟨List.forall_mem_nil _, Nat.le_refl _, rfl, fun _ => .nil⟩

/-- An item is lost if a translation like its own is there, which the star never is. -/
theorem lose (trails : Trails related present present') (pair : related item item')
    (there : item' ∈ present') (other : item ≠ "*") :
    Trails related (present ++ [item]) present' where
  image known mem := by
    rcases List.mem_append.1 mem with mem | mem
    · exact trails.image known mem
    · obtain rfl := List.mem_singleton.1 mem
      exact ⟨item', there, pair⟩
  shorter := by
    have := trails.shorter
    rw [List.length_append]
    exact Nat.le_add_right_of_le this
  stars := by
    rw [List.count_append, trails.stars, List.count_singleton, if_neg (by simpa using other),
      Nat.add_zero]
  paired length := by
    have := trails.shorter
    rw [List.length_append, List.length_singleton] at length
    omega

section

variable (translates : Translates related)
include translates

theorem append (trails : Trails related present present') (pair : related item item') :
    Trails related (present ++ [item]) (present' ++ [item']) where
  image other mem := by
    rcases List.mem_append.1 mem with mem | mem
    · obtain ⟨other', mem', other_pair⟩ := trails.image other mem
      exact ⟨other', List.mem_append_left _ mem', other_pair⟩
    · obtain rfl := List.mem_singleton.1 mem
      exact ⟨item', List.mem_append_right _ (List.mem_singleton_self _), pair⟩
  shorter := by
    have := trails.shorter
    simpa using this
  stars := by
    have same := translates.star pair
    rw [List.count_append, List.count_append, trails.stars]
    by_cases star : item = "*"
    · rw [star, same.1 star]
    · have star' : item' ≠ "*" := fun star' => star (same.2 star')
      rw [List.count_singleton, List.count_singleton, if_neg (by simpa using star'),
        if_neg (by simpa using star)]
  paired length := by
    refine List.rel_append (trails.paired ?_) (.cons pair .nil)
    simpa using length

/-- What is there in the first run is there in the second one. -/
theorem mem_of_mem (trails : Trails related present present') (pair : related item item')
    (mem : item ∈ present) : item' ∈ present' := by
  obtain ⟨other, there, pair'⟩ := trails.image item mem
  rwa [translates.functional pair pair']

/-- One incoming item: the lists go on trailing each other, and their lengths stay equal as long as
both runs add it or neither does. -/
theorem addNew (trails : Trails related present present') (pair : related item item') :
    Trails related (addNew present item) (Outline.addNew present' item') ∧
      ((Outline.addNew present' item').length = (Outline.addNew present item).length ↔
        present'.length = present.length ∧
          (!present'.contains item') = !present.contains item) := by
  unfold Outline.addNew
  by_cases known : item ∈ present
  · have known' := trails.mem_of_mem translates pair known
    rw [if_pos (List.contains_iff_mem.2 known), if_pos (List.contains_iff_mem.2 known')]
    exact ⟨trails, by simp [known, known']⟩
  · have fresh : ¬present.contains item = true := fun mem => known (List.contains_iff_mem.1 mem)
    rw [if_neg fresh]
    by_cases known' : item' ∈ present'
    · rw [if_pos (List.contains_iff_mem.2 known')]
      have other : item ≠ "*" := by
        intro star
        have stars := trails.stars
        rw [star] at known
        rw [(translates.star pair).1 star] at known'
        rw [List.count_eq_zero.2 known] at stars
        exact List.count_eq_zero.1 stars known'
      have shorter := trails.shorter
      refine ⟨trails.lose pair known' other, ⟨fun length => ?_, fun same => ?_⟩⟩
      · rw [List.length_append, List.length_singleton] at length
        omega
      · simp [known, known'] at same
    · have fresh' : ¬present'.contains item' = true := fun mem =>
        known' (List.contains_iff_mem.1 mem)
      rw [if_neg fresh']
      exact ⟨trails.append translates pair, by simp [known, known']⟩

/-- Incoming items, one after another. -/
theorem foldl (trails : Trails related present present')
    (all : List.Forall₂ related incoming incoming') :
    Trails related (incoming.foldl Outline.addNew present)
        (incoming'.foldl Outline.addNew present') ∧
      ((incoming'.foldl Outline.addNew present').length =
          (incoming.foldl Outline.addNew present).length ↔
        present'.length = present.length ∧ added present' incoming' = added present incoming) := by
  induction all generalizing present present' with
  | nil => exact ⟨trails, by simp [added]⟩
  | @cons item item' rest rest' pair _ ih =>
      obtain ⟨first, lengths⟩ := trails.addNew translates pair
      obtain ⟨others, lengths'⟩ := ih first
      refine ⟨others, ?_⟩
      rw [List.foldl_cons, List.foldl_cons, lengths', lengths, added, added, List.cons.injEq,
        and_assoc]

/-- A lone star gives way in both runs or in neither. -/
theorem eq_star_iff (trails : Trails related present present') :
    present' = ["*"] ↔ present = ["*"] := by
  have stars := trails.stars
  constructor
  · rintro rfl
    have all : ∀ item ∈ present, item = "*" := by
      intro item mem
      obtain ⟨item', mem', pair⟩ := trails.image item mem
      exact (translates.star pair).2 (List.mem_singleton.1 mem')
    have lone : present = List.replicate present.length "*" :=
      List.eq_replicate_iff.2 ⟨rfl, all⟩
    rw [lone, List.count_replicate_self, List.count_singleton_self] at stars
    rw [lone, ← stars, List.replicate_one]
  · rintro rfl
    have shorter := trails.shorter
    rw [List.count_singleton_self] at stars
    have mem : "*" ∈ present' := List.count_pos_iff.1 (by omega)
    have length : present'.length = 1 := by
      have := List.length_pos_of_mem mem
      rw [List.length_singleton] at shorter
      omega
    obtain ⟨only, rfl⟩ := List.length_eq_one_iff.1 length
    rw [List.mem_singleton.1 mem]

theorem kept (trails : Trails related present present') :
    Trails related (kept present) (Outline.kept present') ∧
      ((Outline.kept present').length = (Outline.kept present).length ↔
        present'.length = present.length) := by
  unfold Outline.kept
  by_cases lone : present = ["*"]
  · have lone' := (trails.eq_star_iff translates).2 lone
    rw [if_pos lone, if_pos lone', lone, lone']
    exact ⟨nil, by simp⟩
  · rw [if_neg lone, if_neg fun lone' => lone ((trails.eq_star_iff translates).1 lone')]
    exact ⟨trails, Iff.rfl⟩

/-- One more select call. -/
theorem extend (trails : Trails related present present')
    (all : List.Forall₂ related incoming incoming') :
    Trails related (extend present incoming) (Outline.extend present' incoming') ∧
      ((Outline.extend present' incoming').length = (Outline.extend present incoming).length ↔
        present'.length = present.length ∧
          added (Outline.kept present') incoming' = added (Outline.kept present) incoming) := by
  obtain ⟨stays, lengths⟩ := trails.kept translates
  obtain ⟨extended, lengths'⟩ := stays.foldl translates all
  rw [extend_eq_foldl, extend_eq_foldl]
  exact ⟨extended, by rw [lengths', lengths]⟩

/-- Select calls, one after another. -/
theorem calls (trails : Trails related present present')
    (all : List.Forall₂ (List.Forall₂ related) selections selections') :
    Trails related (selections.foldl Outline.extend present)
        (selections'.foldl Outline.extend present') ∧
      ((selections'.foldl Outline.extend present').length =
          (selections.foldl Outline.extend present).length ↔
        present'.length = present.length ∧
          additionsTo present' selections' = additionsTo present selections) := by
  induction all generalizing present present' with
  | nil => exact ⟨trails, by simp [additionsTo]⟩
  | @cons call call' rest rest' pairs _ ih =>
      obtain ⟨first, lengths⟩ := trails.extend translates pairs
      obtain ⟨others, lengths'⟩ := ih first
      refine ⟨others, ?_⟩
      rw [List.foldl_cons, List.foldl_cons, lengths', lengths, additionsTo, additionsTo,
        List.cons.injEq, and_assoc]

/-- The first select call gives its items as they are. -/
theorem of_forall₂ (all : List.Forall₂ related incoming incoming') :
    Trails related incoming incoming' := by
  refine ⟨fun item mem => ?_, all.length_eq.ge, ?_, fun _ => all⟩
  · induction all with
    | nil => cases mem
    | cons pair _ ih =>
        rcases List.mem_cons.1 mem with rfl | mem
        · exact ⟨_, List.mem_cons_self, pair⟩
        · obtain ⟨item', mem', pair'⟩ := ih mem
          exact ⟨item', List.mem_cons_of_mem _ mem', pair'⟩
  · induction all with
    | nil => rfl
    | cons pair _ ih =>
        rw [List.count_cons, List.count_cons, ih]
        simp only [beq_iff_eq, translates.star pair]

/-- The select lists that select calls make in two runs. -/
theorem items (all : List.Forall₂ (List.Forall₂ related) selections selections') :
    Trails related (items selections) (Outline.items selections') ∧
      ((Outline.items selections').length = (Outline.items selections).length ↔
        additions selections' = additions selections) := by
  cases all with
  | nil => exact ⟨nil, by simp [Outline.items, additions]⟩
  | @cons first first' rest rest' pairs others =>
      obtain ⟨trails, lengths⟩ := (of_forall₂ translates pairs).calls translates others
      refine ⟨trails, lengths.trans ?_⟩
      simp [additions, pairs.length_eq]

end

end Trails

end Outline

end SqlBuilder
