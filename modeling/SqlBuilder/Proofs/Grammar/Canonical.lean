import SqlBuilder.Grammar.Dialect
import SqlBuilder.Proofs.Grammar.QualifiedName
import SqlBuilder.Proofs.Text.Blank

/-!
# Canonical names

Whatever a name is, its escaped form is canonical: parts with dots in between, each a star or a text
in quotes with the quote doubled inside, and then labels behind ` as `. Escaping leaves canonical
names as they are, so nothing changes when a name is escaped again.

All dialects have one character for both quotes. Then a scanner that only counts quotes is never
inside a quoted part when that part is over, which is why the last ` as ` outside quotes is the one
in front of the last label.
-/

namespace SqlBuilder

namespace Identifier

/-! ### Canonical form -/

/-- One part of a canonical name: a star, or a text in quotes with the quote doubled inside. -/
inductive IsPart (mark : Char) : List Char → Prop
  | star : IsPart mark ['*']
  | quoted (body : List Char) : body ≠ [] → IsPart mark (mark :: (double mark body ++ [mark]))

/-- Parts with dots in between. -/
inductive IsQualified (mark : Char) : List Char → Prop
  | part {chars : List Char} : IsPart mark chars → IsQualified mark chars
  | cons {chars rest : List Char} :
      IsPart mark chars → IsQualified mark rest → IsQualified mark (chars ++ '.' :: rest)

/-- A qualified name with any number of labels. -/
inductive IsCanonical (mark : Char) : List Char → Prop
  | name {chars : List Char} : IsQualified mark chars → IsCanonical mark chars
  | labelled {chars label : List Char} :
      IsCanonical mark chars → IsPart mark label →
        IsCanonical mark (chars ++ [' ', 'a', 's', ' '] ++ label)

/-- The characters of a text outside quotes. -/
def unquoted (mark : Char) (quoted : Bool) : List Char → List Char
  | [] => []
  | c :: rest =>
    if c = mark then unquoted mark (!quoted) rest
    else if quoted then unquoted mark quoted rest
    else c :: unquoted mark quoted rest

/-- Whether a character can be a quote: names need it for nothing else. -/
structure IsMark (mark : Char) : Prop where
  solid : Text.isBlank mark = false
  notStar : mark ≠ '*'
  notDot : mark ≠ '.'
  notSpace : mark ≠ ' '
  notLetter : mark ≠ 'a' ∧ mark ≠ 'A' ∧ mark ≠ 's' ∧ mark ≠ 'S'

variable {mark : Char}

namespace IsPart

variable {chars : List Char}

theorem ends (part : IsPart mark chars) : ∃ c ∈ [mark, '*'], chars.getLast? = some c := by
  cases part with
  | star => exact ⟨'*', by simp, rfl⟩
  | quoted body nonempty => exact ⟨mark, by simp, by simp [List.getLast?_cons]⟩

theorem starts (part : IsPart mark chars) :
    ∃ c ∈ [mark, '*'], ∃ rest, chars = c :: rest := by
  cases part with
  | star => exact ⟨'*', by simp, [], rfl⟩
  | quoted body nonempty => exact ⟨mark, by simp, _, rfl⟩

end IsPart

namespace IsCanonical

variable {chars : List Char}

theorem starts (canonical : IsCanonical mark chars) :
    ∃ c ∈ [mark, '*'], ∃ rest, chars = c :: rest := by
  induction canonical with
  | name qualified =>
      cases qualified with
      | part part => exact part.starts
      | cons part others =>
          rcases part.starts with ⟨c, mem, rest, rfl⟩
          exact ⟨c, mem, _, rfl⟩
  | labelled canonical part ih =>
      rcases ih with ⟨c, mem, rest, rfl⟩
      exact ⟨c, mem, _, rfl⟩

theorem ends (canonical : IsCanonical mark chars) :
    ∃ c ∈ [mark, '*'], chars.getLast? = some c := by
  cases canonical with
  | name qualified =>
      induction qualified with
      | part part => exact part.ends
      | cons part others ih =>
          rcases ih with ⟨c, mem, last⟩
          exact ⟨c, mem, by simp [List.getLast?_append, List.getLast?_cons, last]⟩
  | labelled canonical part =>
      rcases part.ends with ⟨c, mem, last⟩
      exact ⟨c, mem, by simp [List.getLast?_append, List.getLast?_cons, last]⟩

end IsCanonical

theorem IsMark.isBlank_eq_false (isMark : IsMark mark) {c : Char} (mem : c ∈ [mark, '*']) :
    Text.isBlank c = false := by
  simp only [List.mem_cons, List.not_mem_nil, or_false] at mem
  rcases mem with rfl | rfl
  · exact isMark.solid
  · decide

theorem trim_of_ends (isMark : IsMark mark) {chars : List Char}
    (starts : ∃ c ∈ [mark, '*'], ∃ rest, chars = c :: rest)
    (ends : ∃ c ∈ [mark, '*'], chars.getLast? = some c) : Text.trim chars = chars := by
  rcases starts with ⟨first, first_mem, rest, same⟩
  rcases ends with ⟨last, last_mem, same'⟩
  apply Text.trim_eq_self
  · intro c head
    have eq : first = c := by simpa [same] using head
    exact eq ▸ isMark.isBlank_eq_false first_mem
  · intro c tail
    have eq : last = c := by simpa [same'] using tail
    exact eq ▸ isMark.isBlank_eq_false last_mem

/-! ### Escaped names are canonical -/

theorem isPart_quote {body : List Char} (nonempty : body ≠ []) :
    IsPart mark (quote ⟨mark, mark⟩ body) :=
  .quoted body nonempty

theorem isPart_escapeSegment {segment : Segment}
    (formed : segment.WellFormed ⟨mark, mark⟩ '.') :
    IsPart mark (escapeSegment ⟨mark, mark⟩ segment) := by
  cases segment with
  | plain text =>
      by_cases star : text = ['*']
      · subst star
        exact .star
      · have quoted : escapeSegment ⟨mark, mark⟩ (.plain text) = quote ⟨mark, mark⟩ text := by
          unfold escapeSegment
          split <;> simp_all
        rw [quoted]
        exact isPart_quote formed.1
  | quoted body => exact isPart_quote formed

theorem isQualified_intercalate {parts : List (List Char)} (nonempty : parts ≠ [])
    (each : ∀ part ∈ parts, IsPart mark part) :
    IsQualified mark (List.intercalate ['.'] parts) := by
  induction parts with
  | nil => contradiction
  | cons part rest ih =>
      simp only [List.mem_cons, forall_eq_or_imp] at each
      cases rest with
      | nil => simpa [List.intercalate] using IsQualified.part each.1
      | cons next rest =>
          rw [List.intercalate_cons_cons, List.append_assoc, List.singleton_append]
          exact .cons each.1 (ih (by simp) each.2)

theorem isQualified_escapeQualified {name : List Char} (nonempty : name ≠ []) :
    IsQualified mark (escapeQualified ⟨mark, mark⟩ ['.'] name) := by
  unfold escapeQualified
  split
  · exact .part (isPart_quote nonempty)
  · rename_i segments found
    rcases split?_sound found with ⟨some, formed, -⟩
    apply isQualified_intercalate
    · simpa using some
    · intro part mem
      rcases List.mem_map.1 mem with ⟨segment, segment_mem, rfl⟩
      exact isPart_escapeSegment (formed segment segment_mem)

theorem isPart_escapePart {label : List Char} (nonempty : label ≠ []) :
    IsPart mark (escapePart ⟨mark, mark⟩ label) := by
  unfold escapePart
  split
  · rename_i star
    rw [star]
    exact .star
  · split
    · rename_i body found
      exact isPart_quote (spanQuoted?_sound found).2.1
    · exact isPart_quote nonempty

theorem splitAlias?_sound {quotes : Quotes} {chars name label : List Char}
    (found : splitAlias? quotes chars = some (name, label)) :
    Text.trim name ≠ [] ∧ label ≠ [] := by
  unfold splitAlias? at found
  split at found
  · simp at found
  · dsimp only at found
    split at found
    · simp at found
    · rename_i both
      simp only [Option.some.injEq, Prod.mk.injEq] at found
      rcases found with ⟨rfl, rfl⟩
      simpa using both

theorem escape_of_splitAlias?_eq_some {quotes : Quotes} {separator chars name label : List Char}
    (found : splitAlias? quotes (Text.trim chars) = some (name, label)) :
    escape quotes separator chars =
      escape quotes separator name ++ [' ', 'a', 's', ' '] ++ escapePart quotes label := by
  conv_lhs => unfold escape
  split
  · rename_i other
    rw [found] at other
    cases other
    rfl
  · rename_i missing
    simp [found] at missing

theorem escape_of_splitAlias?_eq_none {quotes : Quotes} {separator chars : List Char}
    (missing : splitAlias? quotes (Text.trim chars) = none) :
    escape quotes separator chars = escapeQualified quotes separator (Text.trim chars) := by
  unfold escape
  split
  · rename_i found
    simp [missing] at found
  · rfl

theorem isCanonical_escape {chars : List Char} (nonempty : Text.trim chars ≠ []) :
    IsCanonical mark (escape ⟨mark, mark⟩ ['.'] chars) := by
  induction length : chars.length using Nat.strongRecOn generalizing chars with
  | _ count ih =>
      cases found : splitAlias? ⟨mark, mark⟩ (Text.trim chars) with
      | none =>
          rw [escape_of_splitAlias?_eq_none found]
          exact .name (isQualified_escapeQualified nonempty)
      | some parts =>
          rcases parts with ⟨name, label⟩
          rcases splitAlias?_sound found with ⟨some, label_some⟩
          have shorter : name.length < count := by
            have := length_of_splitAlias? found
            have := Text.length_trim_le chars
            omega
          rw [escape_of_splitAlias?_eq_some found]
          exact .labelled (ih _ shorter some rfl) (isPart_escapePart label_some)

/-! ### Canonical names are left as they are -/

/-- A place that starts no label is passed over. -/
theorem breakAlias?_cons {quotes : Quotes} {quoted : Bool} {c : Char} {rest : List Char}
    (passed : ¬(c ≠ quotes.opening ∧ c ≠ quotes.closing ∧ !quoted ∧ startsAlias (c :: rest))) :
    breakAlias? quotes quoted (c :: rest) =
      (breakAlias? quotes (quotedAfter quotes quoted c) rest).map
        fun (before, after) => (c :: before, after) := by
  conv_lhs => unfold breakAlias?
  split
  · rename_i found
    simp [found]
  · rename_i missing
    rw [if_neg passed, missing]
    rfl

theorem quotedAfter_mark (quoted : Bool) : quotedAfter ⟨mark, mark⟩ quoted mark = !quoted := by
  simp [quotedAfter]

theorem quotedAfter_of_ne {c : Char} (other : c ≠ mark) (quoted : Bool) :
    quotedAfter ⟨mark, mark⟩ quoted c = quoted := by
  simp [quotedAfter, other]

/-- Whatever is inside quotes is passed over, and behind them the scanner is outside again. -/
theorem breakAlias?_double (body rest : List Char) :
    breakAlias? ⟨mark, mark⟩ true (double mark body ++ mark :: rest) =
      (breakAlias? ⟨mark, mark⟩ false rest).map
        fun (before, after) => (double mark body ++ mark :: before, after) := by
  induction body with
  | nil =>
      rw [double_nil, List.nil_append, breakAlias?_cons (by simp), quotedAfter_mark]
      rfl
  | cons c body ih =>
      by_cases same : c = mark
      · subst same
        rw [double_cons_closing, List.cons_append, List.cons_append, breakAlias?_cons (by simp),
          quotedAfter_mark, breakAlias?_cons (by simp), quotedAfter_mark]
        simp [ih, Function.comp_def]
      · rw [double_cons_of_ne same, List.cons_append, breakAlias?_cons (by simp),
          quotedAfter_of_ne same, ih]
        simp [Function.comp_def]

theorem breakAlias?_part (isMark : IsMark mark) {chars : List Char} (part : IsPart mark chars)
    (rest : List Char) :
    breakAlias? ⟨mark, mark⟩ false (chars ++ rest) =
      (breakAlias? ⟨mark, mark⟩ false rest).map
        fun (before, after) => (chars ++ before, after) := by
  cases part with
  | star =>
      rw [List.singleton_append, breakAlias?_cons (by simp [startsAlias]),
        quotedAfter_of_ne isMark.notStar.symm]
      rfl
  | quoted body nonempty =>
      rw [List.cons_append, breakAlias?_cons (by simp), quotedAfter_mark, List.append_assoc,
        List.singleton_append, Bool.not_false, breakAlias?_double]
      simp [Function.comp_def]

theorem breakAlias?_qualified (isMark : IsMark mark) {chars : List Char}
    (qualified : IsQualified mark chars) (rest : List Char) :
    breakAlias? ⟨mark, mark⟩ false (chars ++ rest) =
      (breakAlias? ⟨mark, mark⟩ false rest).map
        fun (before, after) => (chars ++ before, after) := by
  induction qualified with
  | part part => exact breakAlias?_part isMark part rest
  | cons part others ih =>
      rw [List.append_assoc, breakAlias?_part isMark part, List.cons_append,
        breakAlias?_cons (by simp [startsAlias]), quotedAfter_of_ne isMark.notDot.symm, ih]
      simp [Function.comp_def]

/-- No label starts at the blank in front of a part, nor inside the word before that blank. -/
theorem breakAlias?_label (isMark : IsMark mark) {label : List Char} (part : IsPart mark label) :
    breakAlias? ⟨mark, mark⟩ false ([' ', 'a', 's', ' '] ++ label) = some ([], label) := by
  have none : breakAlias? ⟨mark, mark⟩ false label = none := by
    have passed := breakAlias?_part isMark part []
    simpa [breakAlias?] using passed
  have blank : startsAlias (' ' :: label) = false := by
    rcases part.starts with ⟨c, mem, rest, rfl⟩
    have other : (c == 'a' || c == 'A') = false := by
      simp only [List.mem_cons, List.not_mem_nil, or_false] at mem
      rcases mem with rfl | rfl
      · simp [isMark.notLetter]
      · decide
    unfold startsAlias
    split
    · rename_i same
      simp only [List.cons.injEq, true_and] at same
      rw [← same.1, other, Bool.false_and]
    · rfl
  have tail : breakAlias? ⟨mark, mark⟩ false (['a', 's', ' '] ++ label) = Option.none := by
    simp only [List.cons_append, List.nil_append]
    rw [breakAlias?_cons (by simp [startsAlias]), quotedAfter_of_ne isMark.notLetter.1.symm,
      breakAlias?_cons (by simp [startsAlias]), quotedAfter_of_ne isMark.notLetter.2.2.1.symm,
      breakAlias?_cons (by simp [blank]), quotedAfter_of_ne isMark.notSpace.symm, none]
    rfl
  have found : ' ' ≠ mark := isMark.notSpace.symm
  simp only [List.cons_append, List.nil_append] at tail ⊢
  unfold breakAlias?
  rw [quotedAfter_of_ne found, tail]
  simp [found, startsAlias]

/-- What is found further behind counts. -/
theorem breakAlias?_append {quotes : Quotes} {quoted : Bool} {chars rest before after : List Char}
    (found : breakAlias? quotes (chars.foldl (quotedAfter quotes) quoted) rest =
      some (before, after)) :
    breakAlias? quotes quoted (chars ++ rest) = some (chars ++ before, after) := by
  induction chars generalizing quoted with
  | nil => exact found
  | cons c chars ih =>
      have later := ih found
      rw [List.cons_append, breakAlias?, later]
      rfl

theorem foldl_quotedAfter_double (body : List Char) :
    (double mark body).foldl (quotedAfter ⟨mark, mark⟩) true = true := by
  induction body with
  | nil => rfl
  | cons c body ih =>
      by_cases same : c = mark
      · subst same
        simpa [double_cons_closing, quotedAfter_mark] using ih
      · simpa [double_cons_of_ne same, quotedAfter_of_ne same] using ih

theorem foldl_quotedAfter_part (isMark : IsMark mark) {chars : List Char}
    (part : IsPart mark chars) : chars.foldl (quotedAfter ⟨mark, mark⟩) false = false := by
  cases part with
  | star => simp [quotedAfter_of_ne isMark.notStar.symm]
  | quoted body nonempty =>
      simp [quotedAfter_mark, foldl_quotedAfter_double]

theorem foldl_quotedAfter_canonical (isMark : IsMark mark) {chars : List Char}
    (canonical : IsCanonical mark chars) :
    chars.foldl (quotedAfter ⟨mark, mark⟩) false = false := by
  induction canonical with
  | name qualified =>
      induction qualified with
      | part part => exact foldl_quotedAfter_part isMark part
      | cons part others ih =>
          rw [List.foldl_append, foldl_quotedAfter_part isMark part, List.foldl_cons,
            quotedAfter_of_ne isMark.notDot.symm, ih]
  | labelled canonical part ih =>
      have outside : [' ', 'a', 's', ' '].foldl (quotedAfter ⟨mark, mark⟩) false = false := by
        simp [quotedAfter_of_ne, isMark.notSpace.symm, isMark.notLetter.1.symm,
          isMark.notLetter.2.2.1.symm]
      rw [List.foldl_append, List.foldl_append, ih, outside, foldl_quotedAfter_part isMark part]

/-- A qualified name in canonical form has the segments that it shows. -/
theorem exists_segments (isMark : IsMark mark) {chars : List Char}
    (qualified : IsQualified mark chars) :
    ∃ segments : List Segment, segments ≠ [] ∧
      (∀ segment ∈ segments, segment.WellFormed ⟨mark, mark⟩ '.' ∧
        escapeSegment ⟨mark, mark⟩ segment = segment.text ⟨mark, mark⟩) ∧
      List.intercalate ['.'] (segments.map (Segment.text ⟨mark, mark⟩)) = chars := by
  have single {chars : List Char} (part : IsPart mark chars) :
      ∃ segment : Segment, segment.WellFormed ⟨mark, mark⟩ '.' ∧
        escapeSegment ⟨mark, mark⟩ segment = segment.text ⟨mark, mark⟩ ∧
        segment.text ⟨mark, mark⟩ = chars := by
    cases part with
    | star =>
        refine ⟨.plain ['*'], ⟨by simp, ?_, by decide⟩, rfl, rfl⟩
        simpa using isMark.notStar.symm
    | quoted body nonempty => exact ⟨.quoted body, nonempty, rfl, rfl⟩
  induction qualified with
  | part part =>
      rcases single part with ⟨segment, formed, escaped, rfl⟩
      exact ⟨[segment], by simp, by simp [formed, escaped], by simp [List.intercalate]⟩
  | cons part others ih =>
      rcases single part with ⟨segment, formed, escaped, rfl⟩
      rcases ih with ⟨segments, nonempty, each, rfl⟩
      rcases List.exists_cons_of_ne_nil nonempty with ⟨next, more, rfl⟩
      refine ⟨segment :: next :: more, by simp, ?_, by simp [List.intercalate_cons_cons]⟩
      intro other mem
      rcases List.mem_cons.1 mem with rfl | mem
      · exact ⟨formed, escaped⟩
      · exact each other mem

theorem escapeQualified_canonical (isMark : IsMark mark) {chars : List Char}
    (qualified : IsQualified mark chars) :
    escapeQualified ⟨mark, mark⟩ ['.'] chars = chars := by
  rcases exists_segments isMark qualified with ⟨segments, nonempty, each, rfl⟩
  have closes : '.' ≠ (Quotes.mk mark mark).closing := isMark.notDot.symm
  have split := split?_complete closes nonempty fun segment mem => (each segment mem).1
  have escaped : segments.map (escapeSegment ⟨mark, mark⟩) =
      segments.map (Segment.text ⟨mark, mark⟩) :=
    List.map_congr_left fun segment mem => (each segment mem).2
  simp [escapeQualified, split, escaped]

theorem escapePart_canonical {chars : List Char}
    (part : IsPart mark chars) : escapePart ⟨mark, mark⟩ chars = chars := by
  cases part with
  | star => rfl
  | quoted body nonempty =>
      have notStar : mark :: (double mark body ++ [mark]) ≠ ['*'] := by simp
      have span : spanQuoted? ⟨mark, mark⟩ (quote ⟨mark, mark⟩ body ++ []) = some (body, []) :=
        spanQuoted?_complete nonempty (by simp)
      rw [List.append_nil] at span
      unfold escapePart
      rw [if_neg notStar]
      split
      · rename_i inner found
        have same : inner = body := by
          rw [show mark :: (double mark body ++ [mark]) = quote ⟨mark, mark⟩ body from rfl,
            span] at found
          simpa using found.symm
        rw [same]
        rfl
      · rename_i other
        exact absurd span (other body)

theorem escape_canonical (isMark : IsMark mark) {chars : List Char}
    (canonical : IsCanonical mark chars) : escape ⟨mark, mark⟩ ['.'] chars = chars := by
  have trimmed := trim_of_ends isMark canonical.starts canonical.ends
  induction canonical with
  | @name chars qualified =>
      have passed := breakAlias?_qualified isMark qualified []
      have missing : splitAlias? ⟨mark, mark⟩ (Text.trim chars) = none := by
        simp only [List.append_nil, breakAlias?, Option.map_none] at passed
        rw [trimmed, splitAlias?, passed]
      rw [escape_of_splitAlias?_eq_none missing, trimmed]
      exact escapeQualified_canonical isMark qualified
  | @labelled name label canonical part ih =>
      have name_trimmed := trim_of_ends isMark canonical.starts canonical.ends
      have label_trimmed := trim_of_ends isMark part.starts part.ends
      have name_some : name ≠ [] := by
        rcases canonical.starts with ⟨c, -, rest, rfl⟩
        simp
      have label_some : label ≠ [] := by
        rcases part.starts with ⟨c, -, rest, rfl⟩
        simp
      have broken : breakAlias? ⟨mark, mark⟩ false (name ++ ([' ', 'a', 's', ' '] ++ label)) =
          some (name ++ [], label) := by
        apply breakAlias?_append
        rw [foldl_quotedAfter_canonical isMark canonical]
        exact breakAlias?_label isMark part
      have found : splitAlias? ⟨mark, mark⟩
          (Text.trim (name ++ [' ', 'a', 's', ' '] ++ label)) = some (name, label) := by
        rw [trimmed, List.append_assoc, splitAlias?, broken]
        simp [name_trimmed, label_trimmed, name_some, label_some]
      rw [escape_of_splitAlias?_eq_some found, ih name_trimmed, escapePart_canonical part]

/-! ### What is outside quotes -/

theorem unquoted_double (body rest : List Char) :
    unquoted mark true (double mark body ++ mark :: rest) = unquoted mark false rest := by
  induction body with
  | nil => simp [unquoted]
  | cons c body ih =>
      by_cases same : c = mark
      · subst same
        simpa [double_cons_closing, unquoted] using ih
      · simpa [double_cons_of_ne same, unquoted, same] using ih

theorem mem_unquoted_part (isMark : IsMark mark) {chars : List Char} (part : IsPart mark chars)
    {rest : List Char} {c : Char} (mem : c ∈ unquoted mark false (chars ++ rest)) :
    c = '*' ∨ c ∈ unquoted mark false rest := by
  cases part with
  | star => simpa [unquoted, isMark.notStar.symm] using mem
  | quoted body nonempty =>
      right
      simpa [unquoted, unquoted_double] using mem

theorem mem_unquoted_canonical (isMark : IsMark mark) {chars : List Char}
    (canonical : IsCanonical mark chars) (rest : List Char) {c : Char}
    (mem : c ∈ unquoted mark false (chars ++ rest)) :
    c ∈ ['*', '.', ' ', 'a', 's'] ∨ c ∈ unquoted mark false rest := by
  induction canonical generalizing rest with
  | name qualified =>
      induction qualified generalizing rest with
      | part part =>
          rcases mem_unquoted_part isMark part mem with rfl | mem
          · left
            decide
          · exact .inr mem
      | cons part others ih =>
          rw [List.append_assoc] at mem
          rcases mem_unquoted_part isMark part mem with rfl | mem
          · left
            decide
          · simp only [List.cons_append, unquoted, if_neg isMark.notDot.symm, Bool.false_eq_true,
              if_false, List.mem_cons] at mem
            rcases mem with rfl | mem
            · left
              decide
            · exact ih rest mem
  | labelled canonical part ih =>
      rw [List.append_assoc, List.append_assoc] at mem
      rcases ih _ mem with mem | mem
      · exact .inl mem
      · simp only [List.cons_append, List.nil_append, unquoted, if_neg isMark.notSpace.symm,
          if_neg isMark.notLetter.1.symm, if_neg isMark.notLetter.2.2.1.symm, Bool.false_eq_true,
          if_false, List.mem_cons] at mem
        rcases mem with rfl | rfl | rfl | rfl | mem
        · left
          decide
        · left
          decide
        · left
          decide
        · left
          decide
        · rcases mem_unquoted_part isMark part mem with rfl | mem
          · left
            decide
          · exact .inr mem

end Identifier

namespace Dialect

open Identifier

/-- The quote of identifiers. -/
def mark : Dialect → Char
  | .mysql => '\x60'
  | .postgres | .sqlite => '"'

theorem isMark (dialect : Dialect) : IsMark dialect.mark := by
  cases dialect <;> constructor <;> decide

theorem toList_escapeIdentifier (dialect : Dialect) (name : String) :
    (dialect.grammar.escapeIdentifier name).toList =
      escape ⟨dialect.mark, dialect.mark⟩ ['.'] name.toList := by
  rw [Grammar.escapeIdentifier, String.toList_ofList]
  cases dialect <;> rfl

/--
Escaping is safe and canonical. A name that is more than blanks becomes a canonical name, which has
nothing outside quotes but stars, dots and the words between labels. Canonical names are left as
they are, so a name can be escaped any number of times.
-/
theorem escapeIdentifier_canonical (dialect : Dialect) :
    (∀ name : String, Text.trim name.toList ≠ [] →
      IsCanonical dialect.mark (dialect.grammar.escapeIdentifier name).toList ∧
      (∀ c ∈ unquoted dialect.mark false (dialect.grammar.escapeIdentifier name).toList,
        c ∈ ['*', '.', ' ', 'a', 's']) ∧
      dialect.grammar.escapeIdentifier (dialect.grammar.escapeIdentifier name) =
        dialect.grammar.escapeIdentifier name) ∧
    ∀ name : String, IsCanonical dialect.mark name.toList →
      dialect.grammar.escapeIdentifier name = name := by
  have fixed (name : String) (canonical : IsCanonical dialect.mark name.toList) :
      dialect.grammar.escapeIdentifier name = name := by
    rw [← String.toList_inj, toList_escapeIdentifier]
    exact escape_canonical dialect.isMark canonical
  refine ⟨?_, fixed⟩
  intro name nonempty
  have canonical : IsCanonical dialect.mark (dialect.grammar.escapeIdentifier name).toList := by
    rw [toList_escapeIdentifier]
    exact isCanonical_escape nonempty
  refine ⟨canonical, ?_, fixed _ canonical⟩
  intro c mem
  rw [← List.append_nil (dialect.grammar.escapeIdentifier name).toList] at mem
  rcases mem_unquoted_canonical dialect.isMark canonical [] mem with mem | mem
  · exact mem
  · simp [unquoted] at mem

/-- A name with an open quote, an empty part and two labels in a row. -/
theorem escapeIdentifier_canonical_open :
    let name := " a\"b.. AS as as \"c as d\" "
    Text.trim name.toList ≠ [] ∧
      IsCanonical '"' (Dialect.postgres.grammar.escapeIdentifier name).toList ∧
      Dialect.postgres.grammar.escapeIdentifier (Dialect.postgres.grammar.escapeIdentifier name) =
        Dialect.postgres.grammar.escapeIdentifier name := by
  intro name
  have nonempty : Text.trim name.toList ≠ [] := by decide
  rcases (escapeIdentifier_canonical .postgres).1 name nonempty with ⟨canonical, -, again⟩
  exact ⟨nonempty, canonical, again⟩

end Dialect

end SqlBuilder
