import SqlBuilder.Proofs.Grammar.Bracket

/-!
# Names that are split inside a body

A name of quoted bodies is split where a body is exposed, and the part in front of the split leaves
a quoted part open. What escaping does to such a part is to quote it once more. Escaping never takes
a closing quote away, so a name that is split there comes back with more of them.
-/

namespace SqlBuilder.Identifier

variable {quotes : Quotes}

/-! ### Closing quotes -/

/-- Whether the text after a character is in a quoted part, which a doubled quote does not end. -/
def enclosedAfter (quotes : Quotes) (enclosed : Bool) (c : Char) : Bool :=
  if c = quotes.closing then !enclosed else if c = quotes.opening then true else enclosed

/-- Whether a text has at least as many closing quotes as another, and more if that one leaves a
part open. -/
structure Requotes (quotes : Quotes) (chars escaped : List Char) : Prop where
  count : chars.count quotes.closing ≤ escaped.count quotes.closing
  closed : chars.count quotes.closing = escaped.count quotes.closing →
    chars.foldl (enclosedAfter quotes) false = false

theorem count_double (closing : Char) (body : List Char) :
    (double closing body).count closing = 2 * body.count closing := by
  induction body with
  | nil => rfl
  | cons c body ih =>
      by_cases same : c = closing
      · subst same
        rw [double_cons_closing, List.count_cons_self, List.count_cons_self, List.count_cons_self,
          ih]
        omega
      · rw [double_cons_of_ne same, List.count_cons_of_ne same, List.count_cons_of_ne same, ih]

theorem foldl_enclosedAfter_double (body : List Char) :
    (double quotes.closing body).foldl (enclosedAfter quotes) true = true := by
  induction body with
  | nil => rfl
  | cons c body ih =>
      by_cases same : c = quotes.closing
      · subst same
        simpa [double_cons_closing, enclosedAfter] using ih
      · by_cases opens : c = quotes.opening
        · subst opens
          simpa [double_cons_of_ne same, enclosedAfter, same] using ih
        · simpa [double_cons_of_ne same, enclosedAfter, same, opens] using ih

namespace IsBrackets

variable (brackets : IsBrackets quotes)
include brackets

theorem foldl_enclosedAfter_quote (body : List Char) :
    (quote quotes body).foldl (enclosedAfter quotes) false = false := by
  have opened : enclosedAfter quotes false quotes.opening = true := by
    simp [enclosedAfter, brackets.distinct]
  rw [quote, List.foldl_cons, opened, List.foldl_append, foldl_enclosedAfter_double]
  simp [enclosedAfter]

theorem requotes_quote (text : List Char) : Requotes quotes text (quote quotes text) := by
  have more : text.count quotes.closing < (quote quotes text).count quotes.closing := by
    rw [quote, List.count_cons_of_ne brackets.distinct, List.count_append, count_double,
      List.count_singleton_self]
    omega
  exact ⟨Nat.le_of_lt more, fun same => absurd same (Nat.ne_of_lt more)⟩

theorem requotes_self (body : List Char) :
    Requotes quotes (quote quotes body) (quote quotes body) :=
  ⟨Nat.le_refl _, fun _ => brackets.foldl_enclosedAfter_quote body⟩

theorem requotes_star : Requotes quotes ['*'] ['*'] :=
  ⟨Nat.le_refl _, fun _ => by
    simp [enclosedAfter, brackets.opening.notStar.symm, brackets.closing.notStar.symm]⟩

end IsBrackets

namespace Requotes

variable {front front' behind behind' : List Char}

theorem append (first : Requotes quotes front front') (second : Requotes quotes behind behind') :
    Requotes quotes (front ++ behind) (front' ++ behind') := by
  have counts := first.count
  have counts' := second.count
  constructor
  · rw [List.count_append, List.count_append]
    omega
  · intro same
    rw [List.count_append, List.count_append] at same
    rw [List.foldl_append, first.closed (by omega), second.closed (by omega)]

/-- If the whole has no more quotes than before, the part in front leaves nothing open. -/
theorem closed_front (first : Requotes quotes front front')
    (second : Requotes quotes behind behind') (same : (front ++ behind).count quotes.closing =
      (front' ++ behind').count quotes.closing) :
    front.foldl (enclosedAfter quotes) false = false := by
  have counts := first.count
  have counts' := second.count
  rw [List.count_append, List.count_append] at same
  exact first.closed (by omega)

end Requotes

theorem foldl_enclosedAfter_of_free {chars : List Char}
    (free : ∀ c ∈ chars, c ≠ quotes.opening ∧ c ≠ quotes.closing) (enclosed : Bool) :
    chars.foldl (enclosedAfter quotes) enclosed = enclosed := by
  induction chars with
  | nil => rfl
  | cons c rest ih =>
      simp only [List.mem_cons, forall_eq_or_imp] at free
      rw [List.foldl_cons, enclosedAfter, if_neg free.1.2, if_neg free.1.1]
      exact ih free.2

/-- Without quotes there is nothing to count. -/
theorem Requotes.of_free {chars : List Char}
    (free : ∀ c ∈ chars, c ≠ quotes.opening ∧ c ≠ quotes.closing) (escaped : List Char) :
    Requotes quotes chars escaped := by
  have none : chars.count quotes.closing = 0 :=
    List.count_eq_zero.2 fun mem => (free _ mem).2 rfl
  exact ⟨by omega, fun _ => foldl_enclosedAfter_of_free free false⟩

namespace IsBrackets

variable (brackets : IsBrackets quotes)
include brackets

theorem free_word {a s : Char} (first : a = 'a' ∨ a = 'A') (second : s = 's' ∨ s = 'S') :
    ∀ c ∈ [' ', a, s, ' '], c ≠ quotes.opening ∧ c ≠ quotes.closing := by
  obtain ⟨-, -, -, notSpace, notA, notA', notS, notS'⟩ := brackets.opening
  obtain ⟨-, -, -, notSpace', notA'', notA''', notS'', notS'''⟩ := brackets.closing
  intro c mem
  simp only [List.mem_cons, List.not_mem_nil, or_false] at mem
  rcases mem with rfl | rfl | rfl | rfl
  · exact ⟨notSpace.symm, notSpace'.symm⟩
  · rcases first with rfl | rfl
    · exact ⟨notA.symm, notA''.symm⟩
    · exact ⟨notA'.symm, notA'''.symm⟩
  · rcases second with rfl | rfl
    · exact ⟨notS.symm, notS''.symm⟩
    · exact ⟨notS'.symm, notS'''.symm⟩
  · exact ⟨notSpace.symm, notSpace'.symm⟩

/-- Blanks at the ends do not matter. -/
theorem requotes_of_trim {chars escaped : List Char}
    (requotes : Requotes quotes (Text.trim chars) escaped) : Requotes quotes chars escaped := by
  have free : ∀ blanks : List Char, (∀ c ∈ blanks, Text.isBlank c = true) →
      ∀ c ∈ blanks, c ≠ quotes.opening ∧ c ≠ quotes.closing := by
    intro blanks blank c mem
    constructor
    · rintro rfl
      exact Bool.eq_false_iff.1 brackets.opening.solid (blank _ mem)
    · rintro rfl
      exact Bool.eq_false_iff.1 brackets.closing.solid (blank _ mem)
  obtain ⟨front, behind, whole, blank, blank'⟩ := Text.exists_trim chars
  have joined := (Requotes.of_free (free front blank) []).append
    (requotes.append (.of_free (free behind blank') []))
  rwa [← whole, List.nil_append, List.append_nil] at joined

theorem requotes_segment (segment : Segment) :
    Requotes quotes (segment.text quotes) (escapeSegment quotes segment) := by
  cases segment with
  | plain text =>
      by_cases star : text = ['*']
      · subst star
        exact brackets.requotes_star
      · have quoted : escapeSegment quotes (.plain text) = quote quotes text := by
          unfold escapeSegment
          split <;> simp_all
        rw [quoted]
        exact brackets.requotes_quote text
  | quoted body => exact brackets.requotes_self body

theorem requotes_segments (segments : List Segment) :
    Requotes quotes (List.intercalate ['.'] (segments.map (Segment.text quotes)))
      (List.intercalate ['.'] (segments.map (escapeSegment quotes))) := by
  have dot : Requotes quotes ['.'] ['.'] :=
    .of_free (by simp [brackets.opening.notDot.symm, brackets.closing.notDot.symm]) _
  induction segments with
  | nil => exact .of_free (by simp) _
  | cons segment rest ih =>
      have first := brackets.requotes_segment segment
      cases rest with
      | nil => simpa [List.intercalate] using first
      | cons next more =>
          have joined := first.append (dot.append ih)
          simpa [List.intercalate_cons_cons] using joined

theorem requotes_escapeQualified (name : List Char) :
    Requotes quotes name (escapeQualified quotes ['.'] name) := by
  unfold escapeQualified
  split
  · exact brackets.requotes_quote name
  · rename_i segments found
    have requotes := brackets.requotes_segments segments
    rwa [(split?_sound found).2.2] at requotes

theorem requotes_escapePart (label : List Char) :
    Requotes quotes label (escapePart quotes label) := by
  unfold escapePart
  split
  · rename_i star
    rw [star]
    exact brackets.requotes_star
  · split
    · rename_i body found
      obtain ⟨whole, -, -⟩ := spanQuoted?_sound found
      rw [whole, List.append_nil]
      exact brackets.requotes_self body
    · exact brackets.requotes_quote label

/-- Escaping never takes a closing quote away, and adds one to a name that leaves a part open. -/
theorem requotes_escape (chars : List Char) :
    Requotes quotes chars (escape quotes ['.'] chars) := by
  induction length : chars.length using Nat.strongRecOn generalizing chars with
  | _ count ih =>
      cases found : splitAlias? quotes (Text.trim chars) with
      | none =>
          rw [escape_of_splitAlias?_eq_none found]
          exact brackets.requotes_of_trim (brackets.requotes_escapeQualified _)
      | some parts =>
          obtain ⟨name, label⟩ := parts
          have shorter : name.length < count := by
            have := length_of_splitAlias? found
            have := Text.length_trim_le chars
            omega
          obtain ⟨before, after, a, s, -, shape, rfl, rfl, first, second⟩ :=
            eq_of_splitAlias?_eq_some found
          have word : Requotes quotes [' ', a, s, ' '] [' ', 'a', 's', ' '] :=
            .of_free (brackets.free_word first second) _
          have front := brackets.requotes_of_trim (ih _ shorter _ rfl)
          have behind := brackets.requotes_of_trim (brackets.requotes_escapePart (Text.trim after))
          refine brackets.requotes_of_trim ?_
          rw [escape_of_splitAlias?_eq_some found, shape, List.append_assoc]
          exact front.append (word.append behind)

/-! ### Where a name is split -/

theorem foldl_enclosedAfter_body {body before more : List Char}
    (shape : double quotes.closing body ++ [quotes.closing] = before ++ ' ' :: more) :
    before.foldl (enclosedAfter quotes) true = true := by
  have solid := brackets.closing.notSpace
  induction body generalizing before with
  | nil =>
      cases before with
      | nil => exact absurd (List.cons.inj shape).1 solid
      | cons first before => simp at shape
  | cons c body ih =>
      by_cases closes : c = quotes.closing
      · subst closes
        rw [double_cons_closing] at shape
        rcases before with _ | ⟨first, _ | ⟨second, before⟩⟩
        · exact absurd (List.cons.inj shape).1 solid
        · exact absurd (List.cons.inj (List.cons.inj shape).2).1 solid
        · simp only [List.cons_append, List.cons.injEq] at shape
          obtain ⟨rfl, rfl, rest⟩ := shape
          simpa [enclosedAfter] using ih rest
      · rw [double_cons_of_ne closes] at shape
        cases before with
        | nil => rfl
        | cons first before =>
            simp only [List.cons_append, List.cons.injEq] at shape
            obtain ⟨rfl, rest⟩ := shape
            have inside : enclosedAfter quotes true c = true := by simp [enclosedAfter, closes]
            rw [List.foldl_cons, inside]
            exact ih rest

theorem foldl_enclosedAfter_blank {body before more : List Char}
    (shape : quote quotes body = before ++ ' ' :: more) :
    before.foldl (enclosedAfter quotes) false = true := by
  cases before with
  | nil => exact absurd (List.cons.inj shape).1 brackets.opening.notSpace
  | cons first before =>
      simp only [quote, List.cons_append, List.cons.injEq] at shape
      obtain ⟨rfl, rest⟩ := shape
      have inside : enclosedAfter quotes false quotes.opening = true := by
        simp [enclosedAfter, brackets.distinct]
      rw [List.foldl_cons, inside]
      exact brackets.foldl_enclosedAfter_body rest

/-- A blank in quoted parts is in one of the bodies. -/
theorem foldl_enclosedAfter_parts {bodies : List (List Char)} {before more : List Char}
    (shape : quotedParts quotes bodies = before ++ ' ' :: more) :
    before.foldl (enclosedAfter quotes) false = true := by
  induction bodies generalizing before with
  | nil => simp [quotedParts, List.intercalate] at shape
  | cons body others ih =>
      cases others with
      | nil =>
          rw [quotedParts_singleton] at shape
          exact brackets.foldl_enclosedAfter_blank shape
      | cons next others =>
          rw [quotedParts_cons] at shape
          rcases List.append_eq_append_iff.1 shape with ⟨left, rfl, rest⟩ | ⟨left, whole, rest⟩
          · cases left with
            | nil => exact absurd (List.cons.inj rest).1 (by decide)
            | cons dot left =>
                simp only [List.cons_append, List.cons.injEq] at rest
                obtain ⟨rfl, rest⟩ := rest
                have outside : enclosedAfter quotes false '.' = false := by
                  simp [enclosedAfter, brackets.opening.notDot.symm, brackets.closing.notDot.symm]
                rw [List.foldl_append, brackets.foldl_enclosedAfter_quote, List.foldl_cons,
                  outside]
                exact ih rest
          · cases left with
            | nil => exact absurd (List.cons.inj rest).1 (by decide)
            | cons blank left =>
                simp only [List.cons_append, List.cons.injEq] at rest
                obtain ⟨rfl, rest⟩ := rest
                exact brackets.foldl_enclosedAfter_blank whole

theorem foldl_enclosedAfter_closed (bodies : List (List Char)) :
    (quotedParts quotes bodies).foldl (enclosedAfter quotes) false = false := by
  have requotes := brackets.requotes_segments (bodies.map .quoted)
  rw [List.map_map, List.map_map] at requotes
  exact requotes.closed rfl

/-- A name that is split where a part is open comes back with more closing quotes. -/
theorem escape_ne_of_open {name before after : List Char} (trimmed : Text.trim name = name)
    (ends : name.getLast? = some quotes.closing)
    (broken : breakAlias? quotes false name = some (before, after))
    (enclosed : before.foldl (enclosedAfter quotes) false = true) :
    escape quotes ['.'] name ≠ name := by
  intro same
  obtain ⟨a, s, shape, first, second⟩ := breakAlias?_sound broken
  have word := brackets.free_word first second
  have before_solid : Text.trim before ≠ [] := by
    obtain ⟨c, mem, solid⟩ : ∃ c ∈ before, Text.isBlank c = false := by
      by_contra blank
      have free : ∀ c ∈ before, c ≠ quotes.opening ∧ c ≠ quotes.closing := fun c mem =>
        ⟨fun same => blank ⟨c, mem, same ▸ brackets.opening.solid⟩,
          fun same => blank ⟨c, mem, same ▸ brackets.closing.solid⟩⟩
      rw [foldl_enclosedAfter_of_free free] at enclosed
      cases enclosed
    exact Text.trim_ne_nil mem solid
  have after_solid : Text.trim after ≠ [] := by
    have last : (' ' :: after).getLast? = some quotes.closing := by
      rw [shape, List.getLast?_append] at ends
      simpa [List.getLast?_cons] using ends
    have mem : quotes.closing ∈ after :=
      (List.mem_cons.1 (List.mem_of_getLast? last)).resolve_left brackets.closing.notSpace
    exact Text.trim_ne_nil mem brackets.closing.solid
  have found : splitAlias? quotes (Text.trim name) =
      some (Text.trim before, Text.trim after) := by
    rw [trimmed, splitAlias?, broken]
    simp [before_solid, after_solid]
  have front := brackets.requotes_of_trim (brackets.requotes_escape (Text.trim before))
  have behind := (Requotes.of_free word [' ', 'a', 's', ' ']).append
    (brackets.requotes_of_trim (brackets.requotes_escapePart (Text.trim after)))
  have counted : (before ++ ([' ', a, s, ' '] ++ after)).count quotes.closing =
      (escape quotes ['.'] (Text.trim before) ++ ([' ', 'a', 's', ' '] ++
        escapePart quotes (Text.trim after))).count quotes.closing := by
    rw [← List.append_assoc (escape _ _ _), ← escape_of_splitAlias?_eq_some found, same, shape]
    rfl
  have closed := front.closed_front behind counted
  rw [enclosed] at closed
  cases closed

/-- Quoted parts are left as they are exactly if no body is exposed. -/
theorem escape_quotedParts_iff {bodies : List (List Char)} (nonempty : bodies ≠ [])
    (each : ∀ body ∈ bodies, body ≠ []) :
    escape quotes ['.'] (quotedParts quotes bodies) = quotedParts quotes bodies ↔
      ∀ body ∈ bodies, ¬Exposes quotes body := by
  refine ⟨fun same body mem exposes => ?_, brackets.escape_quotedParts nonempty each⟩
  obtain ⟨front, behind, shape⟩ := exists_of_mem_quotedParts quotes mem
  obtain ⟨before, after, broken⟩ :=
    brackets.exists_breakAlias?_of_exposes exposes false front behind
  rw [← shape] at broken
  obtain ⟨a, s, split, -⟩ := breakAlias?_sound broken
  exact brackets.escape_ne_of_open (brackets.trim_quotedParts nonempty)
    (getLast?_quotedParts quotes nonempty) broken (brackets.foldl_enclosedAfter_parts split) same

/-- An exposed label is split, even behind other bodies. -/
theorem escape_ne_of_exposed_label {bodies : List (List Char)} (nonempty : bodies ≠ [])
    {label : List Char} (exposes : Exposes quotes label) :
    escape quotes ['.'] (quotedName quotes bodies (some label)) ≠
      quotedName quotes bodies (some label) := by
  let front := quotedParts quotes bodies ++ [' ', 'a', 's', ' ']
  obtain ⟨before, after, broken⟩ := brackets.exists_breakAlias?_of_exposes exposes
    (front.foldl (quotedAfter quotes) false) [] []
  rw [List.nil_append, List.append_nil] at broken
  obtain ⟨a, s, split, -⟩ := breakAlias?_sound broken
  have ends : (quotedName quotes bodies (some label)).getLast? = some quotes.closing := by
    rw [quotedName, List.getLast?_append, getLast?_quote, Option.some_or]
  refine brackets.escape_ne_of_open (brackets.trim_quotedName nonempty _) ends
    (breakAlias?_append broken) ?_
  rw [List.foldl_append, List.foldl_append, brackets.foldl_enclosedAfter_closed,
    foldl_enclosedAfter_of_free (brackets.free_word (.inl rfl) (.inl rfl))]
  exact brackets.foldl_enclosedAfter_blank split

theorem escape_quotedName_iff {bodies : List (List Char)} (nonempty : bodies ≠ [])
    (each : ∀ body ∈ bodies, body ≠ []) (label : Option (List Char))
    (solid : ∀ body ∈ label, body ≠ []) :
    escape quotes ['.'] (quotedName quotes bodies label) = quotedName quotes bodies label ↔
      ∀ body ∈ bodies ++ label.toList, ¬Exposes quotes body := by
  cases label with
  | none =>
      rw [Option.toList_none, List.append_nil]
      exact brackets.escape_quotedParts_iff nonempty each
  | some label =>
      by_cases exposes : Exposes quotes label
      · refine iff_of_false (brackets.escape_ne_of_exposed_label nonempty exposes) fun none => ?_
        exact none label (by simp) exposes
      · rw [brackets.escape_quotedName_some nonempty (solid label rfl) exposes, quotedName,
          List.append_left_inj, List.append_left_inj,
          brackets.escape_quotedParts_iff nonempty each]
        simp only [Option.toList_some, List.mem_append, List.mem_singleton, or_imp, forall_and,
          forall_eq, exposes, not_false_eq_true, and_true]

end IsBrackets

end SqlBuilder.Identifier

namespace SqlBuilder.Grammar

open Identifier

/--
In a grammar with two different quotes, a name of quoted bodies, with a label or without, is left as
it is exactly if no body has ` as ` behind a closing quote without an opening quote in between. The
quotes may be all characters but blanks, stars, dots and the letters of ` as `.
-/
theorem escapeIdentifier_quotedName (grammar : Grammar) (separator : grammar.tableSeparator = ".")
    (brackets : IsBrackets grammar.quotes) {bodies : List (List Char)} (nonempty : bodies ≠ [])
    (each : ∀ body ∈ bodies, body ≠ []) (label : Option (List Char))
    (solid : ∀ body ∈ label, body ≠ []) {name : String}
    (written : name.toList = quotedName grammar.quotes bodies label) :
    grammar.escapeIdentifier name = name ↔
      ∀ body ∈ bodies ++ label.toList, ¬Exposes grammar.quotes body := by
  rw [← brackets.escape_quotedName_iff nonempty each label solid, ← written, ← String.toList_inj,
    escapeIdentifier, String.toList_ofList, separator]
  rfl

/-- Doubled quotes, ` as ` in front of them and opening quotes do no harm. -/
theorem escapeIdentifier_quotedName_doubled :
    let grammar : Grammar := { name := "brackets", quotes := ⟨'[', ']'⟩ }
    let name := "[a as b]].c].[]][ as x] as [d AS e]]]"
    grammar.escapeIdentifier name = name ∧
      ∀ body ∈ ["a as b].c", "][ as x", "d AS e]"], ¬Exposes grammar.quotes body.toList := by
  intro grammar name
  have brackets : IsBrackets grammar.quotes :=
    ⟨by decide, ⟨by decide, by decide, by decide, by decide, by decide⟩,
      ⟨by decide, by decide, by decide, by decide, by decide⟩⟩
  have written : name.toList = quotedName grammar.quotes ["a as b].c".toList, "][ as x".toList]
      (some "d AS e]".toList) := by decide +kernel
  have kept : grammar.escapeIdentifier name = name := by decide +kernel
  have unexposed := (grammar.escapeIdentifier_quotedName rfl brackets (List.cons_ne_nil _ _)
    (by decide) (some "d AS e]".toList) (by decide) written).1 kept
  refine ⟨kept, fun body mem => unexposed body.toList ?_⟩
  exact List.mem_map_of_mem mem

/-- A closing quote and ` as ` behind it split a body. -/
theorem escapeIdentifier_quotedName_exposed :
    let grammar : Grammar := { name := "brackets", quotes := ⟨'[', ']'⟩ }
    let name := "[a]] as b]"
    IsBrackets grammar.quotes ∧
      name.toList = quotedName grammar.quotes ["a] as b".toList] none ∧
      grammar.escapeIdentifier name = "[[a]]]]] as [b]]]" ∧
      grammar.escapeIdentifier name ≠ name := by
  intro grammar name
  refine ⟨⟨by decide, ⟨by decide, by decide, by decide, by decide, by decide⟩,
    ⟨by decide, by decide, by decide, by decide, by decide⟩⟩, ?_, ?_, ?_⟩
  all_goals decide +kernel

end SqlBuilder.Grammar
