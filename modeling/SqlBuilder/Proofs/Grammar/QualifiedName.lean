import Mathlib.Data.List.Basic
import SqlBuilder.Grammar.Identifier

/-!
# Reading qualified names

What the readers of quoted parts and of qualified names accept. A quoted part is read exactly if it
is a body between quotes with the closing quote doubled inside, and what is read of a qualified name
is a list of segments that make up the name with separators in between.

The separator is one character, and neither quote.
-/

namespace SqlBuilder.Identifier

/-! ### Quoted parts -/

@[simp] theorem double_nil (closing : Char) : double closing [] = [] := rfl

theorem double_cons_closing (closing : Char) (body : List Char) :
    double closing (closing :: body) = closing :: closing :: double closing body := by
  simp [double]

theorem double_cons_of_ne {closing c : Char} (other : c ≠ closing) (body : List Char) :
    double closing (c :: body) = c :: double closing body := by
  simp [double, other]

theorem spanBody?_complete {closing : Char} {after : List Char}
    (ends : after.head? ≠ some closing) (body : List Char) :
    spanBody? closing (double closing body ++ closing :: after) = some (body, after) := by
  induction body with
  | nil =>
      cases after with
      | nil => simp [spanBody?]
      | cons next after =>
          have other : next ≠ closing := by simpa using ends
          simp [spanBody?, other]
  | cons c body ih =>
      by_cases same : c = closing
      · subst same
        simp [double_cons_closing, spanBody?, ih]
      · rw [double_cons_of_ne same, List.cons_append]
        conv_lhs => unfold spanBody?
        rw [if_neg same, ih]
        rfl

theorem spanBody?_sound {closing : Char} {chars body after : List Char}
    (found : spanBody? closing chars = some (body, after)) :
    chars = double closing body ++ closing :: after ∧ after.head? ≠ some closing := by
  fun_induction spanBody? closing chars generalizing body after with
  | case1 => simp at found
  | case2 => simp_all
  | case3 rest ih =>
      rcases Option.map_eq_some_iff.1 found with ⟨⟨inner, left⟩, within, same⟩
      simp only [Prod.mk.injEq] at same
      rcases same with ⟨rfl, rfl⟩
      rcases ih within with ⟨rfl, ends⟩
      exact ⟨by simp [double_cons_closing], ends⟩
  | case4 next rest other =>
      simp only [Option.some.injEq, Prod.mk.injEq] at found
      rcases found with ⟨rfl, rfl⟩
      simpa using other
  | case5 c rest other ih =>
      rcases Option.map_eq_some_iff.1 found with ⟨⟨inner, left⟩, within, same⟩
      simp only [Prod.mk.injEq] at same
      rcases same with ⟨rfl, rfl⟩
      rcases ih within with ⟨rfl, ends⟩
      exact ⟨by simp [double_cons_of_ne other], ends⟩

variable {quotes : Quotes}

theorem spanQuoted?_complete {body after : List Char} (nonempty : body ≠ [])
    (ends : after.head? ≠ some quotes.closing) :
    spanQuoted? quotes (quote quotes body ++ after) = some (body, after) := by
  have inside := spanBody?_complete ends body
  rcases List.exists_cons_of_ne_nil nonempty with ⟨first, others, rfl⟩
  simp [quote, spanQuoted?, inside]

theorem spanQuoted?_sound {chars body after : List Char}
    (found : spanQuoted? quotes chars = some (body, after)) :
    chars = quote quotes body ++ after ∧ body ≠ [] ∧ after.head? ≠ some quotes.closing := by
  cases chars with
  | nil => simp [spanQuoted?] at found
  | cons c rest =>
      by_cases opens : c = quotes.opening
      · simp only [spanQuoted?, if_pos opens] at found
        split at found
        · simp at found
        · rename_i notEmpty
          have nonempty : body ≠ [] := by
            rintro rfl
            exact notEmpty _ found
          rcases spanBody?_sound found with ⟨rfl, ends⟩
          exact ⟨by simp [quote, opens], nonempty, ends⟩
      · simp [spanQuoted?, opens] at found

/-! ### Segments -/

namespace Segment

/-- The segment as it stands in a name. -/
def text (quotes : Quotes) : Segment → List Char
  | .plain text => text
  | .quoted body => quote quotes body

/-- Whether a segment can be told from its neighbours. -/
def WellFormed (quotes : Quotes) (separator : Char) : Segment → Prop
  | .plain text => text ≠ [] ∧ text.head? ≠ some quotes.opening ∧ separator ∉ text
  | .quoted body => body ≠ []

end Segment

theorem breakOn?_of_notMem {separator : Char} {chars : List Char} (absent : separator ∉ chars) :
    breakOn? [separator] chars = none := by
  induction chars with
  | nil => simp [breakOn?]
  | cons c rest ih =>
      simp only [List.mem_cons, not_or] at absent
      simp [breakOn?, absent.1, ih absent.2]

theorem breakOn?_append {separator : Char} {before : List Char} (absent : separator ∉ before)
    (after : List Char) :
    breakOn? [separator] (before ++ separator :: after) = some (before, after) := by
  induction before with
  | nil => simp [breakOn?]
  | cons c rest ih =>
      simp only [List.mem_cons, not_or] at absent
      simp [breakOn?, absent.1, ih absent.2]

theorem breakOn?_sound {separator : Char} {chars before after : List Char}
    (found : breakOn? [separator] chars = some (before, after)) :
    chars = before ++ separator :: after ∧ separator ∉ before := by
  induction chars generalizing before after with
  | nil => simp [breakOn?] at found
  | cons c rest ih =>
      unfold breakOn? at found
      split at found
      · rename_i starts
        have same : separator = c := by simpa using starts
        simp only [Option.some.injEq, Prod.mk.injEq] at found
        rcases found with ⟨rfl, rfl⟩
        simp [same]
      · rename_i differs
        have other : ¬separator = c := by simpa using differs
        rcases Option.map_eq_some_iff.1 found with ⟨⟨inner, left⟩, within, same⟩
        simp only [Prod.mk.injEq] at same
        rcases same with ⟨rfl, rfl⟩
        rcases ih within with ⟨rfl, absent⟩
        simp [other, absent]

theorem mem_of_breakOn?_eq_none {separator : Char} {chars : List Char}
    (missing : breakOn? [separator] chars = none) : separator ∉ chars := by
  intro mem
  rcases List.append_of_mem mem with ⟨before, after, rfl⟩
  induction before with
  | nil => simp [breakOn?] at missing
  | cons c rest ih =>
      simp only [List.cons_append, breakOn?] at missing
      split at missing
      · simp at missing
      · exact ih (by simpa using missing) (by simp)

/-! ### Qualified names -/

variable {separator : Char}

theorem split?_quoted {body after : List Char} (nonempty : body ≠ [])
    (ends : after.head? ≠ some quotes.closing) :
    split? quotes [separator] (quote quotes body ++ after) =
      if after = [] then some [.quoted body]
      else if [separator] <+: after then
        (split? quotes [separator] (after.drop 1)).map (.quoted body :: ·)
      else none := by
  have head : (quote quotes body ++ after).head? = some quotes.opening := by simp [quote]
  have span := spanQuoted?_complete nonempty ends
  conv_lhs => unfold split?
  rw [if_pos head]
  split
  · rename_i missing
    simp [span] at missing
  · rename_i found
    rw [span] at found
    simp only [Option.some.injEq, Prod.mk.injEq] at found
    rcases found with ⟨rfl, rfl⟩
    rfl

theorem split?_plain_last {text : List Char}
    (formed : Segment.WellFormed quotes separator (.plain text)) :
    split? quotes [separator] text = some [.plain text] := by
  rcases formed with ⟨nonempty, head, absent⟩
  have missing := breakOn?_of_notMem absent
  unfold split?
  rw [if_neg head]
  split
  · simp [nonempty]
  · rename_i found
    simp [missing] at found

theorem split?_plain_cons {text : List Char}
    (formed : Segment.WellFormed quotes separator (.plain text)) (after : List Char) :
    split? quotes [separator] (text ++ separator :: after) =
      (split? quotes [separator] after).map (.plain text :: ·) := by
  rcases formed with ⟨nonempty, head, absent⟩
  have broken := breakOn?_append absent after
  have head' : (text ++ separator :: after).head? ≠ some quotes.opening := by
    rcases List.exists_cons_of_ne_nil nonempty with ⟨first, others, rfl⟩
    simpa using head
  conv_lhs => unfold split?
  rw [if_neg head']
  split
  · rename_i missing
    simp [broken] at missing
  · rename_i found
    rw [broken] at found
    simp only [Option.some.injEq, Prod.mk.injEq] at found
    rcases found with ⟨rfl, rfl⟩
    rw [if_neg nonempty]

/-- The first of several segments is split off. -/
theorem split?_cons (closes : separator ≠ quotes.closing) {segment : Segment}
    (formed : segment.WellFormed quotes separator) (after : List Char) :
    split? quotes [separator] (segment.text quotes ++ separator :: after) =
      (split? quotes [separator] after).map (segment :: ·) := by
  cases segment with
  | plain text => exact split?_plain_cons formed after
  | quoted body =>
      have ends : (separator :: after).head? ≠ some quotes.closing := by simpa using closes
      have split : split? quotes [separator] (quote quotes body ++ separator :: after) = _ :=
        split?_quoted formed ends
      simpa [Segment.text] using split

theorem split?_singleton {segment : Segment} (formed : segment.WellFormed quotes separator) :
    split? quotes [separator] (segment.text quotes) = some [segment] := by
  cases segment with
  | plain text => exact split?_plain_last formed
  | quoted body =>
      have split : split? quotes [separator] (quote quotes body ++ []) = _ :=
        split?_quoted formed (by simp)
      simpa [Segment.text] using split

theorem split?_complete (closes : separator ≠ quotes.closing) {segments : List Segment}
    (nonempty : segments ≠ [])
    (formed : ∀ segment ∈ segments, segment.WellFormed quotes separator) :
    split? quotes [separator] (List.intercalate [separator] (segments.map (Segment.text quotes))) =
      some segments := by
  induction segments with
  | nil => contradiction
  | cons segment rest ih =>
      simp only [List.mem_cons, forall_eq_or_imp] at formed
      cases rest with
      | nil => simpa [List.intercalate] using split?_singleton formed.1
      | cons next rest =>
          have others := ih (by simp) formed.2
          rw [List.map_cons, List.map_cons, List.intercalate_cons_cons, List.append_assoc,
            List.singleton_append, split?_cons closes formed.1, ← List.map_cons, others]
          rfl

/-- What is split off is a segment, behind which the name ends or goes on with a separator. -/
theorem split?_cases {name : List Char} {segments : List Segment}
    (found : split? quotes [separator] name = some segments) :
    ∃ segment : Segment, segment.WellFormed quotes separator ∧
      (segments = [segment] ∧ name = segment.text quotes ∨
        ∃ after others, segments = segment :: others ∧
          name = segment.text quotes ++ separator :: after ∧
          split? quotes [separator] after = some others) := by
  unfold split? at found
  split at found
  · split at found
    · simp at found
    · rename_i body after span
      rcases spanQuoted?_sound span with ⟨shape, nonempty, -⟩
      refine ⟨.quoted body, nonempty, ?_⟩
      split at found
      · rename_i last
        cases found
        exact .inl ⟨rfl, by simp [shape, last, Segment.text]⟩
      · split at found
        · rename_i starts
          rcases Option.map_eq_some_iff.1 found with ⟨others, rest, rfl⟩
          rcases starts with ⟨after', rfl⟩
          exact .inr ⟨after', others, rfl, shape, rest⟩
        · simp at found
  · rename_i head
    split at found
    · rename_i missing
      split at found
      · simp at found
      · rename_i nonempty
        cases found
        exact ⟨.plain name, ⟨nonempty, head, mem_of_breakOn?_eq_none missing⟩, .inl ⟨rfl, rfl⟩⟩
    · rename_i part after broken
      split at found
      · simp at found
      · rename_i nonempty
        rcases Option.map_eq_some_iff.1 found with ⟨others, rest, rfl⟩
        rcases breakOn?_sound broken with ⟨shape, absent⟩
        have head' : part.head? ≠ some quotes.opening := by
          rcases List.exists_cons_of_ne_nil nonempty with ⟨first, more, rfl⟩
          simpa [shape] using head
        exact ⟨.plain part, ⟨nonempty, head', absent⟩, .inr ⟨after, others, rfl, shape, rest⟩⟩

theorem split?_sound {name : List Char} {segments : List Segment}
    (found : split? quotes [separator] name = some segments) :
    segments ≠ [] ∧ (∀ segment ∈ segments, segment.WellFormed quotes separator) ∧
      List.intercalate [separator] (segments.map (Segment.text quotes)) = name := by
  induction length : name.length using Nat.strongRecOn generalizing name segments with
  | _ count ih =>
      rcases split?_cases found with
        ⟨segment, formed, ⟨rfl, shape⟩ | ⟨after, others, rfl, shape, rest⟩⟩
      · refine ⟨by simp, List.forall_mem_singleton.2 formed, ?_⟩
        simp [shape, List.intercalate]
      · have shorter : after.length < count := by
          rw [← length, shape]
          simp
          omega
        rcases ih _ shorter rest rfl with ⟨nonempty, all, joined⟩
        rcases List.exists_cons_of_ne_nil nonempty with ⟨next, more, rfl⟩
        refine ⟨by simp, List.forall_mem_cons.2 ⟨formed, all⟩, ?_⟩
        rw [shape, ← joined]
        simp [List.intercalate_cons_cons]

end SqlBuilder.Identifier
