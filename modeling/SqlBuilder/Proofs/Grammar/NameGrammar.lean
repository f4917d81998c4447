import SqlBuilder.Proofs.Grammar.QualifiedName

/-!
# The grammar of qualified names

A qualified name is one or more parts with a separator in between, and a part is quoted or plain.
The reader accepts exactly these names. A name is made of parts in one way only, so what the reader
gives are the segments that the parts stand for, and they can be written out again.

The reader works from the front of a name, one part in each pass. A pass that does not end the
reading leaves less of the name than there was, and so the reading ends on every text.
-/

namespace SqlBuilder.Identifier

/-! ### The grammar -/

/-- A body as it stands between quotes: a closing quote is written twice, all else once. -/
inductive Doubled (closing : Char) : List Char → List Char → Prop where
  | nil : Doubled closing [] []
  | closing {body written : List Char} (rest : Doubled closing body written) :
      Doubled closing (closing :: body) (closing :: closing :: written)
  | other {c : Char} {body written : List Char} (differs : c ≠ closing)
      (rest : Doubled closing body written) : Doubled closing (c :: body) (c :: written)

/-- A part of a qualified name, and the segment that it stands for. -/
inductive Part (quotes : Quotes) (separator : Char) : List Char → Segment → Prop where
  | plain {text : List Char} (nonempty : text ≠ []) (starts : text.head? ≠ some quotes.opening)
      (whole : separator ∉ text) : Part quotes separator text (.plain text)
  | quoted {body written : List Char} (nonempty : body ≠ [])
      (doubled : Doubled quotes.closing body written) :
      Part quotes separator (quotes.opening :: (written ++ [quotes.closing])) (.quoted body)

/-- Whether a name is made of these parts, each given with the segment that it stands for. -/
structure MadeOf (quotes : Quotes) (separator : Char) (name : List Char)
    (parts : List (List Char × Segment)) : Prop where
  nonempty : parts ≠ []
  formed : ∀ part ∈ parts, Part quotes separator part.1 part.2
  joined : List.intercalate [separator] (parts.map Prod.fst) = name

variable {quotes : Quotes} {separator : Char}

theorem doubled_double (closing : Char) (body : List Char) :
    Doubled closing body (double closing body) := by
  induction body with
  | nil => exact .nil
  | cons c body ih =>
      by_cases same : c = closing
      · subst same
        rw [double_cons_closing]
        exact .closing ih
      · rw [double_cons_of_ne same]
        exact .other same ih

theorem Doubled.eq_double {closing : Char} {body written : List Char}
    (doubled : Doubled closing body written) : written = double closing body := by
  induction doubled with
  | nil => rfl
  | closing _ ih => rw [double_cons_closing, ih]
  | other differs _ ih => rw [double_cons_of_ne differs, ih]

/-- A segment that can be told from its neighbours is written as one part. -/
theorem part_iff {text : List Char} {segment : Segment} :
    Part quotes separator text segment ↔
      segment.WellFormed quotes separator ∧ text = segment.text quotes := by
  constructor
  · intro part
    cases part with
    | plain nonempty starts whole => exact ⟨⟨nonempty, starts, whole⟩, rfl⟩
    | quoted nonempty doubled =>
        refine ⟨nonempty, ?_⟩
        rw [doubled.eq_double]
        rfl
  · rintro ⟨formed, rfl⟩
    cases segment with
    | plain text => exact .plain formed.1 formed.2.1 formed.2.2
    | quoted body => exact .quoted formed (doubled_double quotes.closing body)

/-- The segments tell how the parts are written. -/
theorem MadeOf.parts_eq {name : List Char} {parts : List (List Char × Segment)}
    (made : MadeOf quotes separator name parts) :
    parts = (parts.map Prod.snd).map fun segment => (segment.text quotes, segment) := by
  rw [List.map_map]
  conv_lhs => rw [← List.map_id parts]
  refine List.map_congr_left fun part member => ?_
  exact Prod.ext (part_iff.1 (made.formed part member)).2 rfl

/-- What is read of a name are the segments of the parts that it is made of. -/
theorem split?_eq_some_iff (closes : separator ≠ quotes.closing) (name : List Char)
    (segments : List Segment) :
    split? quotes [separator] name = some segments ↔
      ∃ parts, MadeOf quotes separator name parts ∧ parts.map Prod.snd = segments := by
  constructor
  · intro found
    obtain ⟨nonempty, formed, joined⟩ := split?_sound found
    refine ⟨segments.map fun segment => (segment.text quotes, segment), ⟨?_, ?_, ?_⟩, ?_⟩
    · simpa using nonempty
    · intro part member
      obtain ⟨segment, among, rfl⟩ := List.mem_map.1 member
      exact part_iff.2 ⟨formed segment among, rfl⟩
    · rw [List.map_map]
      exact joined
    · rw [List.map_map]
      exact List.map_id segments
  · rintro ⟨parts, made, rfl⟩
    have formed : ∀ segment ∈ parts.map Prod.snd, segment.WellFormed quotes separator := by
      intro segment member
      obtain ⟨part, among, rfl⟩ := List.mem_map.1 member
      exact (part_iff.1 (made.formed part among)).1
    have joined := made.joined
    rw [made.parts_eq, List.map_map] at joined
    rw [← joined]
    exact split?_complete closes (by simpa using made.nonempty) formed

/-- A name is made of parts in one way only. -/
theorem MadeOf.unique (closes : separator ≠ quotes.closing) {name : List Char}
    {parts others : List (List Char × Segment)} (made : MadeOf quotes separator name parts)
    (also : MadeOf quotes separator name others) : parts = others := by
  have found := (split?_eq_some_iff closes name _).2 ⟨parts, made, rfl⟩
  rw [(split?_eq_some_iff closes name _).2 ⟨others, also, rfl⟩, Option.some.injEq] at found
  rw [made.parts_eq, also.parts_eq, found]

/-! ### The passes of the reader -/

/-- What one pass makes of the rest of a name. -/
inductive Pass where
  | refused
  /-- The last part. -/
  | ended (segment : Segment)
  | further (segment : Segment) (rest : List Char)

/-- Reads one part off the front. -/
def pass (quotes : Quotes) (separator rest : List Char) : Pass :=
  if rest.head? = some quotes.opening then
    match spanQuoted? quotes rest with
    | none => .refused
    | some (body, after) =>
      if after = [] then .ended (.quoted body)
      else if separator <+: after then .further (.quoted body) (after.drop separator.length)
      else .refused
  else
    match breakOn? separator rest with
    | none => if rest = [] then .refused else .ended (.plain rest)
    | some (part, after) => if part = [] then .refused else .further (.plain part) after

/-- Reads parts behind those that were read before, in at most so many passes. There is no outcome
if these do not do. -/
def passes (quotes : Quotes) (separator : List Char) :
    Nat → List Segment → List Char → Option (Option (List Segment))
  | 0, _, _ => none
  | count + 1, before, rest =>
    match pass quotes separator rest with
    | .refused => some none
    | .ended segment => some (some (before ++ [segment]))
    | .further segment rest => passes quotes separator count (before ++ [segment]) rest

/-- A pass that does not end the reading leaves less than there was. -/
theorem length_of_pass {separator rest left : List Char} {segment : Segment}
    (further : pass quotes separator rest = .further segment left) :
    left.length < rest.length := by
  unfold pass at further
  split at further
  · split at further
    · cases further
    · rename_i found
      have shorter := length_of_spanQuoted? found
      split_ifs at further
      cases further
      rw [List.length_drop]
      omega
  · split at further
    · split_ifs at further
    · rename_i part after broken
      have shorter := length_of_breakOn? broken
      split_ifs at further with empty
      cases further
      have nonempty : 0 < part.length := List.length_pos_iff.2 empty
      omega

theorem split?_eq_pass (separator rest : List Char) :
    split? quotes separator rest =
      match pass quotes separator rest with
      | .refused => none
      | .ended segment => some [segment]
      | .further segment left => (split? quotes separator left).map (segment :: ·) := by
  conv_lhs => unfold split?
  unfold pass
  split
  · split
    · rename_i missing
      simp [missing]
    · rename_i found
      rw [found]
      dsimp only
      split_ifs <;> rfl
  · split
    · rename_i missing
      rw [missing]
      dsimp only
      split_ifs <;> rfl
    · rename_i broken
      rw [broken]
      dsimp only
      split_ifs <;> rfl

/-- More passes than there are characters are enough. -/
theorem passes_eq_some {separator rest : List Char} {count : Nat} (enough : rest.length < count)
    (before : List Segment) :
    passes quotes separator count before rest =
      some ((split? quotes separator rest).map (before ++ ·)) := by
  induction count generalizing before rest with
  | zero => omega
  | succ count ih =>
      rw [passes, split?_eq_pass]
      cases outcome : pass quotes separator rest with
      | refused => rfl
      | ended segment => rfl
      | further segment left =>
          have shorter := length_of_pass outcome
          dsimp only
          rw [ih (by omega), Option.map_map]
          congr 2
          funext segments
          simp

/--
A name is read exactly if it is made of parts, which it is in one way only. What is read are the
segments that the parts stand for, in order, and written out with separators in between they are the
name again. The reading takes at most one pass more than the name has characters.
-/
theorem split?_grammar (closes : separator ≠ quotes.closing) (name : List Char) :
    (∀ segments, split? quotes [separator] name = some segments ↔
      ∃ parts, MadeOf quotes separator name parts ∧ parts.map Prod.snd = segments) ∧
    (∀ parts others, MadeOf quotes separator name parts → MadeOf quotes separator name others →
      parts = others) ∧
    (∀ segments, split? quotes [separator] name = some segments →
      List.intercalate [separator] (segments.map (Segment.text quotes)) = name) ∧
    passes quotes [separator] (name.length + 1) [] name =
      some (split? quotes [separator] name) := by
  refine ⟨split?_eq_some_iff closes name, fun _ _ made also => made.unique closes also,
    fun _ found => (split?_sound found).2.2, ?_⟩
  rw [passes_eq_some (Nat.lt_succ_self _)]
  simp

/-- A separator and a closing quote inside of quotes do not end a part. -/
theorem split?_grammar_bracketed :
    let name := ['s', '.', '[', 'T', ']', ']', '.', 'x', ']']
    let parts := [(['s'], Segment.plain ['s']),
      (['[', 'T', ']', ']', '.', 'x', ']'], Segment.quoted ['T', ']', '.', 'x'])]
    '.' ≠ ']' ∧ MadeOf ⟨'[', ']'⟩ '.' name parts ∧
      split? ⟨'[', ']'⟩ ['.'] name = some (parts.map Prod.snd) := by
  intro name parts
  have closes : '.' ≠ (Quotes.mk '[' ']').closing := by decide
  have plain : Part ⟨'[', ']'⟩ '.' ['s'] (.plain ['s']) :=
    .plain (by decide) (by decide) (by decide)
  have doubled : Doubled ']' ['T', ']', '.', 'x'] ['T', ']', ']', '.', 'x'] :=
    .other (by decide) (.closing (.other (by decide) (.other (by decide) .nil)))
  have quoted : Part ⟨'[', ']'⟩ '.' ['[', 'T', ']', ']', '.', 'x', ']']
      (.quoted ['T', ']', '.', 'x']) := @Part.quoted ⟨'[', ']'⟩ '.' _ _ (by decide) doubled
  have made : MadeOf ⟨'[', ']'⟩ '.' name parts :=
    { nonempty := by decide
      formed := List.forall_mem_cons.2 ⟨plain, List.forall_mem_singleton.2 quoted⟩
      joined := by decide }
  exact ⟨closes, made, ((split?_grammar closes name).1 _).2 ⟨parts, made, rfl⟩⟩

end SqlBuilder.Identifier
