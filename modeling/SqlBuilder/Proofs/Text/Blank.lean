import Mathlib.Data.List.Basic
import SqlBuilder.Text.Blank

/-!
# Trimming

A text that neither starts nor ends with a blank is what trimming leaves of it, and trimming leaves
such a text.
-/

namespace SqlBuilder.Text

theorem trimEnd_eq_self {chars : List Char} (ends : ∀ c ∈ chars.getLast?, isBlank c = false) :
    trimEnd chars = chars := by
  induction chars with
  | nil => rfl
  | cons c rest ih =>
      cases rest with
      | nil =>
          have solid : isBlank c = false := ends c (by simp)
          simp [trimEnd, solid]
      | cons next rest =>
          have kept := ih (by simpa using ends)
          rw [trimEnd, kept]

theorem trim_eq_self {chars : List Char} (starts : ∀ c ∈ chars.head?, isBlank c = false)
    (ends : ∀ c ∈ chars.getLast?, isBlank c = false) : trim chars = chars := by
  have kept : chars.dropWhile isBlank = chars := by
    cases chars with
    | nil => rfl
    | cons c rest => simp [starts c (by simp)]
  rw [trim, kept, trimEnd_eq_self ends]

theorem isBlank_of_mem_getLast?_trimEnd {chars : List Char} {c : Char}
    (last : c ∈ (trimEnd chars).getLast?) : isBlank c = false := by
  induction chars with
  | nil => simp [trimEnd] at last
  | cons first rest ih =>
      unfold trimEnd at last
      split at last
      · split at last
        · simp at last
        · rename_i solid
          simp only [List.getLast?_singleton, Option.mem_def, Option.some.injEq] at last
          simpa [← last] using solid
      · rename_i kept nonempty
        rcases List.exists_cons_of_ne_nil nonempty with ⟨next, others, same⟩
        exact ih (by simpa [same] using last)

theorem trimEnd_prefix (chars : List Char) : trimEnd chars <+: chars := by
  induction chars with
  | nil => simp [trimEnd]
  | cons c rest ih =>
      unfold trimEnd
      split
      · split
        · exact List.nil_prefix
        · simp
      · simpa using ih

theorem exists_trimEnd (chars : List Char) :
    ∃ behind, chars = trimEnd chars ++ behind ∧ ∀ c ∈ behind, isBlank c = true := by
  induction chars with
  | nil => exact ⟨[], rfl, by simp⟩
  | cons c rest ih =>
      obtain ⟨behind, whole, blank⟩ := ih
      unfold trimEnd
      split
      · rename_i empty
        rw [empty, List.nil_append] at whole
        split
        · rename_i solid
          refine ⟨c :: rest, rfl, ?_⟩
          rw [whole]
          exact List.forall_mem_cons.2 ⟨solid, blank⟩
        · exact ⟨behind, by rw [← whole]; rfl, blank⟩
      · exact ⟨behind, by rw [List.cons_append, ← whole], blank⟩

/-- Trimming drops nothing but blanks. -/
theorem exists_trim (chars : List Char) :
    ∃ front behind, chars = front ++ (trim chars ++ behind) ∧
      (∀ c ∈ front, isBlank c = true) ∧ ∀ c ∈ behind, isBlank c = true := by
  obtain ⟨behind, whole, blank⟩ := exists_trimEnd (chars.dropWhile isBlank)
  refine ⟨chars.takeWhile isBlank, behind, ?_, ?_, blank⟩
  · rw [trim, ← whole, List.takeWhile_append_dropWhile]
  · exact List.all_eq_true.1 List.all_takeWhile

/-- A text with more than blanks is not trimmed away. -/
theorem trim_ne_nil {chars : List Char} {c : Char} (mem : c ∈ chars) (solid : isBlank c = false) :
    trim chars ≠ [] := by
  intro empty
  obtain ⟨front, behind, whole, blank, blank'⟩ := exists_trim chars
  rw [empty, List.nil_append] at whole
  rw [whole] at mem
  have blank : isBlank c = true := by
    rcases List.mem_append.1 mem with mem | mem
    · exact blank c mem
    · exact blank' c mem
  rw [solid] at blank
  cases blank

@[simp] theorem trim_trim (chars : List Char) : trim (trim chars) = trim chars := by
  apply trim_eq_self
  · intro c head
    rcases List.head?_eq_some_iff.1 head with ⟨rest, same⟩
    rcases trimEnd_prefix (chars.dropWhile isBlank) with ⟨dropped, whole⟩
    have first : (chars.dropWhile isBlank).head? = some c := by
      rw [← whole]
      change (trim chars ++ dropped).head? = some c
      simp [same]
    have kept := List.head?_dropWhile_not isBlank chars
    rw [first] at kept
    exact kept
  · intro c last
    exact isBlank_of_mem_getLast?_trimEnd last

end SqlBuilder.Text
