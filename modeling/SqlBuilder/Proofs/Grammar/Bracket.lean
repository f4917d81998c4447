import Mathlib.Data.List.Induction
import SqlBuilder.Proofs.Grammar.Canonical

/-!
# Names in brackets

A grammar may quote names with two different characters. Then the scanner that looks for an alias
takes every closing quote for the end of a quoted part, also the first of two that stand for one
inside it, and what follows counts as unquoted up to the next opening quote. A body with ` as `
there is exposed.

A name of quoted bodies is left as it is if none of them is exposed. Where one is, the scanner finds
an alias inside of it.
-/

namespace SqlBuilder.Identifier

/-- Whether two characters can be the quotes of a grammar and are not the same. -/
structure IsBrackets (quotes : Quotes) : Prop where
  distinct : quotes.opening ≠ quotes.closing
  opening : IsMark quotes.opening
  closing : IsMark quotes.closing

/-- Bodies in quotes with dots in between. -/
def quotedParts (quotes : Quotes) (bodies : List (List Char)) : List Char :=
  List.intercalate ['.'] (bodies.map (quote quotes))

/-- Quoted bodies, and perhaps one more behind ` as `. -/
def quotedName (quotes : Quotes) (bodies : List (List Char)) : Option (List Char) → List Char
  | none => quotedParts quotes bodies
  | some label => quotedParts quotes bodies ++ [' ', 'a', 's', ' '] ++ quote quotes label

/-- Whether ` as ` stands in a body behind a closing quote without an opening quote in between. -/
def Exposes (quotes : Quotes) (body : List Char) : Prop :=
  ∃ before between after, body = before ++ quotes.closing :: (between ++ after) ∧
    quotes.opening ∉ between ∧ startsAlias after = true

variable {quotes : Quotes}

theorem quotedParts_cons (body next : List Char) (more : List (List Char)) :
    quotedParts quotes (body :: next :: more) =
      quote quotes body ++ '.' :: quotedParts quotes (next :: more) := by
  simp [quotedParts, List.intercalate_cons_cons]

@[simp] theorem quotedParts_singleton (body : List Char) :
    quotedParts quotes [body] = quote quotes body := by
  simp [quotedParts, List.intercalate]

theorem quotedParts_starts (quotes : Quotes) {bodies : List (List Char)} (nonempty : bodies ≠ []) :
    ∃ rest, quotedParts quotes bodies = quotes.opening :: rest := by
  match bodies with
  | [body] => exact ⟨_, quotedParts_singleton body⟩
  | body :: next :: more => exact ⟨_, quotedParts_cons body next more⟩

theorem getLast?_quote (body : List Char) :
    (quote quotes body).getLast? = some quotes.closing := by
  rw [quote, ← List.cons_append, List.getLast?_concat]

theorem getLast?_quotedParts (quotes : Quotes) {bodies : List (List Char)}
    (nonempty : bodies ≠ []) :
    (quotedParts quotes bodies).getLast? = some quotes.closing := by
  induction bodies with
  | nil => contradiction
  | cons body others ih =>
      cases others with
      | nil => rw [quotedParts_singleton, getLast?_quote]
      | cons next more =>
          rw [quotedParts_cons, List.getLast?_append, List.getLast?_cons, ih (by simp)]
          rfl

theorem exists_of_mem_quotedParts (quotes : Quotes) {bodies : List (List Char)} {body : List Char}
    (mem : body ∈ bodies) :
    ∃ front behind, quotedParts quotes bodies = front ++ (quote quotes body ++ behind) := by
  induction bodies with
  | nil => cases mem
  | cons first others ih =>
      cases others with
      | nil =>
          rw [List.mem_singleton] at mem
          subst mem
          exact ⟨[], [], by simp⟩
      | cons next more =>
          rw [quotedParts_cons]
          rcases List.mem_cons.1 mem with rfl | later
          · exact ⟨[], _, rfl⟩
          · obtain ⟨front, behind, shape⟩ := ih later
            exact ⟨quote quotes first ++ '.' :: front, behind, by rw [shape]; simp⟩

theorem startsAlias_iff (chars : List Char) :
    startsAlias chars = true ↔ ∃ a s rest, chars = ' ' :: a :: s :: ' ' :: rest ∧
      (a = 'a' ∨ a = 'A') ∧ (s = 's' ∨ s = 'S') := by
  constructor
  · intro starts
    unfold startsAlias at starts
    split at starts
    · exact ⟨_, _, _, rfl, by simpa using starts⟩
    · cases starts
  · rintro ⟨a, s, rest, rfl, first, second⟩
    simpa [startsAlias] using And.intro first second

/-- A character that is not doubled is the next one of the body. -/
theorem exists_of_double_eq_cons {closing c : Char} {body rest tail : List Char}
    (other : c ≠ closing) (same : double closing body ++ closing :: rest = c :: tail) :
    ∃ body', body = c :: body' ∧ double closing body' ++ closing :: rest = tail := by
  cases body with
  | nil =>
      rw [double_nil, List.nil_append, List.cons.injEq] at same
      exact absurd same.1.symm other
  | cons first body =>
      by_cases closes : first = closing
      · rw [closes, double_cons_closing, List.cons_append, List.cons.injEq] at same
        exact absurd same.1.symm other
      · rw [double_cons_of_ne closes, List.cons_append, List.cons.injEq] at same
        exact ⟨body, by rw [same.1], same.2⟩

/-! ### The scanner for aliases -/

namespace IsBrackets

variable (brackets : IsBrackets quotes)
include brackets

theorem quotedAfter_opening (quoted : Bool) : quotedAfter quotes quoted quotes.opening = true := by
  simp [quotedAfter, brackets.distinct]

theorem quotedAfter_closing (quoted : Bool) :
    quotedAfter quotes quoted quotes.closing = false := by
  simp [quotedAfter, brackets.distinct, brackets.distinct.symm]

omit brackets in
theorem quotedAfter_of_ne {c : Char} (opens : c ≠ quotes.opening) (closes : c ≠ quotes.closing)
    (quoted : Bool) : quotedAfter quotes quoted c = quoted :=
  if_neg (by simp [opens, closes])

/-- The scanner sees a doubled quote as two, which is the same to it as one. -/
theorem foldl_quotedAfter_double (quoted : Bool) (body : List Char) :
    (double quotes.closing body).foldl (quotedAfter quotes) quoted =
      body.foldl (quotedAfter quotes) quoted := by
  induction body generalizing quoted with
  | nil => rfl
  | cons c body ih =>
      by_cases same : c = quotes.closing
      · subst same
        simp [double_cons_closing, brackets.quotedAfter_closing, ih]
      · simp [double_cons_of_ne same, ih]

/-- The scanner is outside behind a closing quote until an opening one. -/
theorem foldl_quotedAfter_eq_false_iff (before : List Char) :
    before.foldl (quotedAfter quotes) true = false ↔
      ∃ front between, before = front ++ quotes.closing :: between ∧
        quotes.opening ∉ between := by
  induction before using List.reverseRecOn with
  | nil => simp
  | append_singleton before c ih =>
      rw [List.foldl_append, List.foldl_cons, List.foldl_nil]
      by_cases closes : c = quotes.closing
      · subst closes
        rw [brackets.quotedAfter_closing]
        exact ⟨fun _ => ⟨before, [], rfl, by simp⟩, fun _ => rfl⟩
      -- The last character belongs to what stands behind the quote.
      have last : ∀ front between, before ++ [c] = front ++ quotes.closing :: between →
          ∃ between', between = between' ++ [c] ∧
            before = front ++ quotes.closing :: between' := by
        intro front between same
        rcases List.eq_nil_or_concat between with rfl | ⟨between', other, rfl⟩
        · exact absurd (List.append_inj' same rfl).2 (by simpa using closes)
        · rw [List.concat_eq_append, ← List.cons_append, ← List.append_assoc] at same
          obtain ⟨fronts, lasts⟩ := List.append_inj' same rfl
          rw [List.singleton_inj] at lasts
          exact ⟨between', by rw [lasts, List.concat_eq_append], fronts⟩
      by_cases opens : c = quotes.opening
      · subst opens
        rw [brackets.quotedAfter_opening]
        refine ⟨nofun, ?_⟩
        rintro ⟨front, between, same, absent⟩
        obtain ⟨between', rfl, -⟩ := last front between same
        simp at absent
      · rw [quotedAfter_of_ne opens closes, ih]
        constructor
        · rintro ⟨front, between, rfl, absent⟩
          refine ⟨front, between ++ [c], by simp, ?_⟩
          simpa [Ne.symm opens] using absent
        · rintro ⟨front, between, same, absent⟩
          obtain ⟨between', rfl, before_eq⟩ := last front between same
          exact ⟨front, between', before_eq, fun mem => absent (by simp [mem])⟩

theorem exposes_iff (body : List Char) :
    Exposes quotes body ↔ ∃ before after, body = before ++ after ∧ startsAlias after = true ∧
      before.foldl (quotedAfter quotes) true = false := by
  constructor
  · rintro ⟨before, between, after, rfl, absent, starts⟩
    exact ⟨before ++ quotes.closing :: between, after, by simp, starts,
      (brackets.foldl_quotedAfter_eq_false_iff _).2 ⟨before, between, rfl, absent⟩⟩
  · rintro ⟨before, after, rfl, starts, outside⟩
    obtain ⟨front, between, rfl, absent⟩ :=
      (brackets.foldl_quotedAfter_eq_false_iff _).1 outside
    exact ⟨front, between, after, by simp, absent, starts⟩

/-- Whether a body goes on with ` as ` is the same in quotes. -/
theorem startsAlias_double (body rest : List Char) :
    startsAlias (double quotes.closing body ++ quotes.closing :: rest) = startsAlias body := by
  obtain ⟨-, -, -, notSpace, notA, notA', notS, notS'⟩ := brackets.closing
  rw [Bool.eq_iff_iff, startsAlias_iff, startsAlias_iff]
  constructor
  · rintro ⟨a, s, tail, whole, first, second⟩
    obtain ⟨body₁, shape, behind⟩ := exists_of_double_eq_cons notSpace.symm whole
    obtain ⟨body₂, shape₁, behind₁⟩ := exists_of_double_eq_cons
      (by rcases first with rfl | rfl <;> exact Ne.symm ‹_›) behind
    obtain ⟨body₃, shape₂, behind₂⟩ := exists_of_double_eq_cons
      (by rcases second with rfl | rfl <;> exact Ne.symm ‹_›) behind₁
    obtain ⟨body₄, shape₃, -⟩ := exists_of_double_eq_cons notSpace.symm behind₂
    exact ⟨a, s, body₄, by rw [shape, shape₁, shape₂, shape₃], first, second⟩
  · rintro ⟨a, s, tail, rfl, first, second⟩
    refine ⟨a, s, double quotes.closing tail ++ quotes.closing :: rest, ?_, first, second⟩
    rw [double_cons_of_ne notSpace.symm, double_cons_of_ne, double_cons_of_ne,
      double_cons_of_ne notSpace.symm]
    · rfl
    · rcases second with rfl | rfl <;> exact Ne.symm ‹_›
    · rcases first with rfl | rfl <;> exact Ne.symm ‹_›

/-- What is not exposed is passed over, and behind the quote the scanner is outside. -/
theorem breakAlias?_body {body : List Char} {quoted : Bool}
    (shielded : ∀ before after, body = before ++ after → startsAlias after = true →
      before.foldl (quotedAfter quotes) quoted = true) (rest : List Char) :
    breakAlias? quotes quoted (double quotes.closing body ++ quotes.closing :: rest) =
      (breakAlias? quotes false rest).map fun (before, after) =>
        (double quotes.closing body ++ quotes.closing :: before, after) := by
  induction body generalizing quoted with
  | nil =>
      rw [double_nil, List.nil_append, breakAlias?_cons (by simp), brackets.quotedAfter_closing]
      rfl
  | cons c body ih =>
      have later : ∀ before after, body = before ++ after → startsAlias after = true →
          before.foldl (quotedAfter quotes) (quotedAfter quotes quoted c) = true :=
        fun before after same starts => shielded (c :: before) after (by rw [same]; rfl) starts
      by_cases closes : c = quotes.closing
      · subst closes
        rw [brackets.quotedAfter_closing] at later
        rw [double_cons_closing, List.cons_append, List.cons_append, breakAlias?_cons (by simp),
          brackets.quotedAfter_closing, breakAlias?_cons (by simp), brackets.quotedAfter_closing,
          ih later]
        simp [Function.comp_def]
      · have starts := brackets.startsAlias_double (c :: body) rest
        rw [double_cons_of_ne closes, List.cons_append] at starts ⊢
        rw [breakAlias?_cons, ih later]
        · simp [Function.comp_def]
        · rintro ⟨-, -, outside, word⟩
          rw [starts] at word
          have inside := shielded [] (c :: body) rfl word
          simp only [List.foldl_nil] at inside
          simp [inside] at outside

theorem breakAlias?_quote {body : List Char} (unexposed : ¬Exposes quotes body) (quoted : Bool)
    (rest : List Char) :
    breakAlias? quotes quoted (quote quotes body ++ rest) =
      (breakAlias? quotes false rest).map
        fun (before, after) => (quote quotes body ++ before, after) := by
  have shielded : ∀ before after, body = before ++ after → startsAlias after = true →
      before.foldl (quotedAfter quotes) true = true := by
    intro before after same starts
    by_contra outside
    exact unexposed ((brackets.exposes_iff body).2
      ⟨before, after, same, starts, by simpa using outside⟩)
  rw [quote, List.cons_append, List.append_assoc, List.singleton_append,
    breakAlias?_cons (by simp), brackets.quotedAfter_opening, brackets.breakAlias?_body shielded]
  simp [Function.comp_def]

theorem breakAlias?_parts {bodies : List (List Char)} (nonempty : bodies ≠ [])
    (unexposed : ∀ body ∈ bodies, ¬Exposes quotes body) (quoted : Bool) (rest : List Char) :
    breakAlias? quotes quoted (quotedParts quotes bodies ++ rest) =
      (breakAlias? quotes false rest).map
        fun (before, after) => (quotedParts quotes bodies ++ before, after) := by
  induction bodies generalizing quoted with
  | nil => contradiction
  | cons body others ih =>
      simp only [List.mem_cons, forall_eq_or_imp] at unexposed
      cases others with
      | nil => simpa using brackets.breakAlias?_quote unexposed.1 quoted rest
      | cons next more =>
          have behind := ih (by simp) unexposed.2
          rw [quotedParts_cons, List.append_assoc, brackets.breakAlias?_quote unexposed.1,
            List.cons_append, breakAlias?_cons (by simp [startsAlias]), behind]
          simp [Function.comp_def]

/-! ### Names that are left as they are -/

theorem trim_quotedParts {bodies : List (List Char)} (nonempty : bodies ≠ []) :
    Text.trim (quotedParts quotes bodies) = quotedParts quotes bodies := by
  obtain ⟨rest, starts⟩ := quotedParts_starts quotes nonempty
  refine Text.trim_eq_self (fun c first => ?_) fun c last => ?_
  · rw [starts, List.head?_cons, Option.mem_some_iff] at first
    exact first ▸ brackets.opening.solid
  · rw [getLast?_quotedParts quotes nonempty, Option.mem_some_iff] at last
    exact last ▸ brackets.closing.solid

theorem trim_quotedName {bodies : List (List Char)} (nonempty : bodies ≠ [])
    (label : Option (List Char)) :
    Text.trim (quotedName quotes bodies label) = quotedName quotes bodies label := by
  cases label with
  | none => exact brackets.trim_quotedParts nonempty
  | some label =>
      obtain ⟨rest, starts⟩ := quotedParts_starts quotes nonempty
      refine Text.trim_eq_self (fun c first => ?_) fun c last => ?_
      · rw [quotedName, starts, List.cons_append, List.cons_append, List.head?_cons,
          Option.mem_some_iff] at first
        exact first ▸ brackets.opening.solid
      · rw [quotedName, List.getLast?_append, getLast?_quote, Option.some_or,
          Option.mem_some_iff] at last
        exact last ▸ brackets.closing.solid

theorem escapePart_quote {body : List Char} (nonempty : body ≠ []) :
    escapePart quotes (quote quotes body) = quote quotes body := by
  have notStar : quote quotes body ≠ ['*'] := by
    intro same
    exact brackets.opening.notStar (List.cons.inj same).1
  have span : spanQuoted? quotes (quote quotes body ++ []) = some (body, []) :=
    spanQuoted?_complete nonempty (by simp)
  rw [List.append_nil] at span
  rw [escapePart, if_neg notStar, span]

theorem escapeQualified_quotedParts {bodies : List (List Char)} (nonempty : bodies ≠ [])
    (each : ∀ body ∈ bodies, body ≠ []) :
    escapeQualified quotes ['.'] (quotedParts quotes bodies) = quotedParts quotes bodies := by
  have formed : ∀ segment ∈ bodies.map Segment.quoted, segment.WellFormed quotes '.' := by
    simpa [Segment.WellFormed] using each
  have split := split?_complete brackets.closing.notDot.symm (by simpa using nonempty) formed
  rw [List.map_map] at split
  have same : quotedParts quotes bodies =
      List.intercalate ['.'] (bodies.map (Segment.text quotes ∘ .quoted)) := rfl
  rw [escapeQualified, same, split]
  dsimp only
  rw [List.map_map]
  rfl

theorem escape_quotedParts {bodies : List (List Char)} (nonempty : bodies ≠ [])
    (each : ∀ body ∈ bodies, body ≠ []) (unexposed : ∀ body ∈ bodies, ¬Exposes quotes body) :
    escape quotes ['.'] (quotedParts quotes bodies) = quotedParts quotes bodies := by
  have passed := brackets.breakAlias?_parts nonempty unexposed false []
  have trimmed := brackets.trim_quotedParts nonempty
  have missing : splitAlias? quotes (Text.trim (quotedParts quotes bodies)) = none := by
    simp only [List.append_nil, breakAlias?, Option.map_none] at passed
    rw [trimmed, splitAlias?, passed]
  rw [escape_of_splitAlias?_eq_none missing, trimmed]
  exact brackets.escapeQualified_quotedParts nonempty each

/-- A label that is not exposed is found behind its word, and no further one. -/
theorem breakAlias?_label {label : List Char} (unexposed : ¬Exposes quotes label) :
    breakAlias? quotes false ([' ', 'a', 's', ' '] ++ quote quotes label) =
      some ([], quote quotes label) := by
  obtain ⟨-, -, -, notSpace, notA, notA', notS, -⟩ := brackets.opening
  obtain ⟨-, -, -, notSpace', notA'', -, notS'', -⟩ := brackets.closing
  have after : breakAlias? quotes false (quote quotes label) = none := by
    have passed := brackets.breakAlias?_quote unexposed false []
    simpa [breakAlias?] using passed
  have blank : startsAlias (' ' :: quote quotes label) = false := by
    rw [Bool.eq_false_iff]
    intro starts
    obtain ⟨a, s, rest, same, first, -⟩ := (startsAlias_iff _).1 starts
    have second : quotes.opening = a := (List.cons.inj (List.cons.inj same).2).1
    rcases first with rfl | rfl
    · exact notA second
    · exact notA' second
  have tail : breakAlias? quotes false (['a', 's', ' '] ++ quote quotes label) = none := by
    simp only [List.cons_append, List.nil_append]
    rw [breakAlias?_cons (by simp [startsAlias]), quotedAfter_of_ne notA.symm notA''.symm,
      breakAlias?_cons (by simp [startsAlias]), quotedAfter_of_ne notS.symm notS''.symm,
      breakAlias?_cons (by simp [blank]), quotedAfter_of_ne notSpace.symm notSpace'.symm, after]
    rfl
  simp only [List.cons_append, List.nil_append] at tail ⊢
  unfold breakAlias?
  rw [quotedAfter_of_ne notSpace.symm notSpace'.symm, tail]
  simp [notSpace.symm, notSpace'.symm, startsAlias]

/-- Behind quoted parts the scanner is outside. -/
theorem foldl_quotedAfter_parts {bodies : List (List Char)} (nonempty : bodies ≠ [])
    (quoted : Bool) : (quotedParts quotes bodies).foldl (quotedAfter quotes) quoted = false := by
  obtain ⟨front, whole⟩ := List.getLast?_eq_some_iff.1 (getLast?_quotedParts quotes nonempty)
  rw [whole, List.foldl_append, List.foldl_cons, List.foldl_nil, brackets.quotedAfter_closing]

/-- Behind a label that is not exposed there is no other one. -/
theorem escape_quotedName_some {bodies : List (List Char)} (nonempty : bodies ≠ [])
    {label : List Char} (solid : label ≠ []) (unexposed : ¬Exposes quotes label) :
    escape quotes ['.'] (quotedName quotes bodies (some label)) =
      escape quotes ['.'] (quotedParts quotes bodies) ++ [' ', 'a', 's', ' '] ++
        quote quotes label := by
  have broken : breakAlias? quotes false (quotedParts quotes bodies ++
      ([' ', 'a', 's', ' '] ++ quote quotes label)) =
      some (quotedParts quotes bodies ++ [], quote quotes label) := by
    apply breakAlias?_append
    rw [brackets.foldl_quotedAfter_parts nonempty]
    exact brackets.breakAlias?_label unexposed
  have label_trimmed := brackets.trim_quotedParts (List.cons_ne_nil label [])
  rw [quotedParts_singleton] at label_trimmed
  have name_some : quotedParts quotes bodies ≠ [] := by
    obtain ⟨rest, starts⟩ := quotedParts_starts quotes nonempty
    simp [starts]
  have found : splitAlias? quotes (Text.trim (quotedName quotes bodies (some label))) =
      some (quotedParts quotes bodies, quote quotes label) := by
    rw [brackets.trim_quotedName nonempty, quotedName, List.append_assoc, splitAlias?, broken]
    have label_some : quote quotes label ≠ [] := by simp [quote]
    simp [brackets.trim_quotedParts nonempty, label_trimmed, name_some, label_some]
  rw [escape_of_splitAlias?_eq_some found, brackets.escapePart_quote solid]

/-! ### Names that are split inside a body -/

/-- A label that is in sight is found, if not a later one. -/
theorem breakAlias?_ne_none {chars : List Char} (starts : startsAlias chars = true) :
    breakAlias? quotes false chars ≠ none := by
  obtain ⟨a, s, rest, rfl, -⟩ := (startsAlias_iff chars).1 starts
  unfold breakAlias?
  split
  · simp
  · simp [starts, brackets.opening.notSpace.symm, brackets.closing.notSpace.symm]

theorem exists_breakAlias?_of_exposes {body : List Char} (exposes : Exposes quotes body)
    (quoted : Bool) (front behind : List Char) :
    ∃ before after, breakAlias? quotes quoted (front ++ (quote quotes body ++ behind)) =
      some (before, after) := by
  obtain ⟨shown, hidden, rfl, starts, outside⟩ := (brackets.exposes_iff body).1 exposes
  have whole : front ++ (quote quotes (shown ++ hidden) ++ behind) =
      (front ++ quotes.opening :: double quotes.closing shown) ++
        (double quotes.closing hidden ++ quotes.closing :: behind) := by
    simp [quote, double]
  have sight := brackets.breakAlias?_ne_none
    ((brackets.startsAlias_double hidden behind).trans starts)
  obtain ⟨⟨before, after⟩, found⟩ := Option.ne_none_iff_exists'.1 sight
  have state : (front ++ quotes.opening :: double quotes.closing shown).foldl
      (quotedAfter quotes) quoted = false := by
    rw [List.foldl_append, List.foldl_cons, brackets.quotedAfter_opening,
      brackets.foldl_quotedAfter_double, outside]
  rw [← state] at found
  rw [whole]
  exact ⟨_, after, breakAlias?_append found⟩

end IsBrackets

/-- What is found is a label with its word in front. -/
theorem breakAlias?_sound {quoted : Bool} {chars before after : List Char}
    (found : breakAlias? quotes quoted chars = some (before, after)) :
    ∃ a s, chars = before ++ ' ' :: a :: s :: ' ' :: after ∧ (a = 'a' ∨ a = 'A') ∧
      (s = 's' ∨ s = 'S') := by
  induction chars generalizing quoted before with
  | nil => simp [breakAlias?] at found
  | cons c rest ih =>
      unfold breakAlias? at found
      split at found
      · rename_i inner left within
        simp only [Option.some.injEq, Prod.mk.injEq] at found
        obtain ⟨rfl, rfl⟩ := found
        obtain ⟨a, s, rfl, first, second⟩ := ih within
        exact ⟨a, s, rfl, first, second⟩
      · split at found
        · rename_i here
          simp only [Option.some.injEq, Prod.mk.injEq] at found
          obtain ⟨rfl, rfl⟩ := found
          obtain ⟨a, s, tail, same, first, second⟩ := (startsAlias_iff _).1 here.2.2.2
          exact ⟨a, s, by rw [same]; rfl, first, second⟩
        · cases found

theorem eq_of_splitAlias?_eq_some {chars name label : List Char}
    (found : splitAlias? quotes chars = some (name, label)) :
    ∃ before after a s, breakAlias? quotes false chars = some (before, after) ∧
      chars = before ++ ([' ', a, s, ' '] ++ after) ∧ name = Text.trim before ∧
      label = Text.trim after ∧ (a = 'a' ∨ a = 'A') ∧ (s = 's' ∨ s = 'S') := by
  unfold splitAlias? at found
  split at found
  · cases found
  · rename_i before after broken
    dsimp only at found
    split at found
    · cases found
    · simp only [Option.some.injEq, Prod.mk.injEq] at found
      obtain ⟨a, s, shape, first, second⟩ := breakAlias?_sound broken
      exact ⟨before, after, a, s, broken, shape, found.1.symm, found.2.symm, first, second⟩

end SqlBuilder.Identifier
