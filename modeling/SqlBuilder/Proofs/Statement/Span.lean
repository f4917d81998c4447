import SqlBuilder.Proofs.Statement.Positional

/-!
# Spans of SQL text

What numbering does to a statement whose text is written as a sequence of spans: code in which
colons stand in pairs, quoted text, and references to parameters. Unlike lexemes, spans of code hold
the casts of PostgreSQL, and a text may be cut into spans in many ways. Whichever way it is cut,
numbering replaces the references and copies everything else, look-alikes in quotes included.

The numbers are settled by the spans alone: a name has the place of its first occurrence among the
different names.
-/

namespace SqlBuilder

/-- A stretch of SQL text. -/
inductive Span where
  /-- Code, in which colons stand in pairs. -/
  | code (chars : List Char)
  /-- Text between quotes, in which the quote is written twice. -/
  | quoted (mark : Char) (body : List Char)
  /-- A reference to a parameter. -/
  | reference (param : Param)

/-- Whether there are no quotes, and colons in pairs only. -/
def isPaired : List Char → Bool
  | ':' :: ':' :: rest => isPaired rest
  | c :: rest => isCode c && isPaired rest
  | [] => true

namespace Span

/-- The span as it stands in the text. -/
def text : Span → List Char
  | .code chars => chars
  | .quoted mark body => mark :: (Identifier.double mark body ++ [mark])
  | .reference param => ':' :: param.name.toList

/-- The name that the span refers to. -/
def name? : Span → Option (List Char)
  | .reference param => some param.name.toList
  | _ => none

/-- The different names that spans refer to, in order of their first occurrences. -/
def names (spans : List Span) : List (List Char) := (spans.filterMap name?).eraseDups

/-- The span with a number in place of a reference, by the place of its name. -/
def numbered (names : List (List Char)) : Span → List Char
  | .reference param => '$' :: (Nat.repr (names.idxOf param.name.toList + 1)).toList
  | span => span.text

/-- What the scanner finds. -/
def parts : Span → List Placeholder.Part
  | .reference param => [.reference param.name.toList]
  | span => span.text.map .char

/-- Whether the span can be told from what is around it. Code does not end in a colon, and a name is
not empty. -/
def Legible : Span → Prop
  | .code chars => isPaired chars = true ∧ chars.getLast? ≠ some ':'
  | .quoted mark _ => Placeholder.isQuote mark = true
  | .reference param => param.name.toList ≠ []

instance (span : Span) : Decidable span.Legible :=
  match span with
  | .code chars =>
    inferInstanceAs (Decidable (isPaired chars = true ∧ chars.getLast? ≠ some ':'))
  | .quoted mark _ => inferInstanceAs (Decidable (Placeholder.isQuote mark = true))
  | .reference param => inferInstanceAs (Decidable (param.name.toList ≠ []))

/-- Whether no character of a name stands behind a reference. -/
def Separated : List Span → Prop
  | [] => True
  | .reference _ :: rest =>
    (∀ c ∈ (rest.flatMap text).head?, Placeholder.isNameChar c = false) ∧ Separated rest
  | _ :: rest => Separated rest

end Span

/-- Whether the text of a statement is written as spans that refer to its parameters. The names of
parameters are different words of letters, digits and underscores. -/
structure Statement.Spelled (statement : Statement) (spans : List Span) : Prop where
  text : statement.sql.toList = spans.flatMap Span.text
  legible : ∀ span ∈ spans, span.Legible
  separated : Span.Separated spans
  bound : ∀ param, .reference param ∈ spans → param ∈ statement.params
  named : ∀ param ∈ statement.params, param.name.toList.all Placeholder.isNameChar = true
  distinct : (statement.params.map (·.name)).Nodup

namespace Placeholder

/-- The name that a part refers to. -/
def Part.name? : Part → Option (List Char)
  | .char _ => none
  | .reference name => some name

/-- What is collected behind names that were seen already: the others, each once. -/
theorem foldl_collect (known : List Char → Bool) (parts : List Part) (seen : List (List Char)) :
    parts.foldl (collect known) seen =
      seen ++ ((parts.filterMap Part.name?).filter
        fun name => known name && !seen.contains name).eraseDups := by
  induction parts generalizing seen with
  | nil => simp
  | cons part rest ih =>
      rw [List.foldl_cons, ih]
      cases part with
      | char c => rfl
      | reference name =>
          have own : Part.name? (.reference name) = some name := rfl
          rw [collect, List.filterMap_cons_some own, List.filter_cons]
          cases new : known name && !seen.contains name with
          | false => simp
          | true =>
              have later (other : List Char) :
                  (known other && !(seen ++ [name]).contains other) =
                    ((!other == name) && (known other && !seen.contains other)) := by
                cases known other <;> simp [Bool.and_comm, beq_eq_decide]
              simp only [if_true, later]
              rw [List.eraseDups_cons, List.filter_filter, List.append_assoc]
              rfl

/-- The names of a text are those that are known, in order of their first occurrences. -/
theorem names_eq_eraseDups (known : List Char → Bool) (parts : List Part) :
    names known parts = ((parts.filterMap Part.name?).filter known).eraseDups := by
  rw [names_eq_foldl, foldl_collect]
  simp

/-- In code with colons in pairs the scanner finds characters only: the first colon of a pair has no
name behind it, the second one follows a colon. -/
theorem scan_paired {chars : List Char} (paired : isPaired chars = true) (before : Char)
    (rest : List Char) :
    scan none (before == ':') (chars ++ rest) =
      chars.map .char ++ scan none (chars.getLastD before == ':') rest := by
  have colon : isQuote ':' = false ∧ isNameChar ':' = false := by decide
  induction chars using isPaired.induct generalizing before with
  | case1 chars ih =>
      have step := ih (by simpa [isPaired] using paired) ':'
      simp only [List.getLastD_cons]
      simp [scan, colon] at step ⊢
      exact step
  | case2 c chars single ih =>
      rw [isPaired] at paired
      · simp only [isCode, Bool.and_eq_true, Bool.not_eq_true', bne_iff_ne] at paired
        have step := ih paired.2 c
        simp only [List.getLastD_cons]
        simp [scan, paired.1, step]
      · exact single
  | case3 => simp

/-- The scanner finds the spans of a text. -/
theorem scan_spans {spans : List Span} (legible : ∀ span ∈ spans, span.Legible)
    (named : ∀ param, .reference param ∈ spans → param.name.toList.all isNameChar = true)
    (separated : Span.Separated spans) :
    scan none false (spans.flatMap Span.text) = spans.flatMap Span.parts := by
  induction spans with
  | nil => simp [scan]
  | cons span rest ih =>
      have first := legible span List.mem_cons_self
      have others : ∀ span ∈ rest, span.Legible := fun span mem =>
        legible span (List.mem_cons_of_mem _ mem)
      have others_named : ∀ param, .reference param ∈ rest →
          param.name.toList.all isNameChar = true := fun param mem =>
        named param (List.mem_cons_of_mem _ mem)
      rw [List.flatMap_cons, List.flatMap_cons]
      cases span with
      | code chars =>
          -- Code does not end in a colon, so a reference behind it is not read as a cast.
          have plain : (chars.getLastD ' ' == ':') = false := by
            rw [List.getLastD_eq_getLast?]
            have last := first.2
            cases ends : chars.getLast? with
            | none => decide
            | some c => simpa [ends] using last
          have start : (' ' == ':') = false := by decide
          have scanned := scan_paired first.1 ' ' (rest.flatMap Span.text)
          rw [start, plain, ih others others_named separated] at scanned
          exact scanned
      | quoted mark body =>
          have quote : isQuote mark = true := first
          have inside := scan_double mark body (rest.flatMap Span.text) false quote
          rw [ih others others_named separated] at inside
          simp only [Span.text, Span.parts, List.cons_append, List.append_assoc, List.map_cons]
          rw [scan]
          simpa [quote] using inside
      | reference param =>
          rw [← ih others others_named separated.2]
          exact scan_placeholder first (named param List.mem_cons_self) separated.1

end Placeholder

namespace Span

theorem filterMap_parts (spans : List Span) :
    (spans.flatMap parts).filterMap Placeholder.Part.name? = spans.filterMap name? := by
  induction spans with
  | nil => rfl
  | cons span rest ih =>
      have chars (text : List Char) :
          (text.map Placeholder.Part.char).filterMap Placeholder.Part.name? = [] := by
        simp [List.filterMap_map, Function.comp_def, Placeholder.Part.name?]
      rw [List.flatMap_cons, List.filterMap_append, ih]
      cases span with
      | code text => exact congrArg (· ++ rest.filterMap name?) (chars text)
      | quoted mark body => exact congrArg (· ++ rest.filterMap name?) (chars _)
      | reference param => rfl

theorem mem_names {spans : List Span} {name : List Char} :
    name ∈ names spans ↔ ∃ param, .reference param ∈ spans ∧ param.name.toList = name := by
  rw [names, List.mem_eraseDups, List.mem_filterMap]
  constructor
  · rintro ⟨span, mem, found⟩
    cases span with
    | code chars => cases found
    | quoted mark body => cases found
    | reference param => exact ⟨param, mem, Option.some.inj found⟩
  · rintro ⟨param, mem, rfl⟩
    exact ⟨.reference param, mem, rfl⟩

end Span

namespace Statement.Spelled

variable {statement : Statement} {spans : List Span}

theorem scan (spelled : statement.Spelled spans) :
    Placeholder.scan none false statement.sql.toList = spans.flatMap Span.parts := by
  rw [spelled.text]
  exact Placeholder.scan_spans spelled.legible
    (fun param mem => spelled.named param (spelled.bound param mem)) spelled.separated

theorem names_eq (spelled : statement.Spelled spans) :
    Placeholder.names (fun name => (statement.value? name).isSome)
      (Placeholder.scan none false statement.sql.toList) = Span.names spans := by
  rw [spelled.scan, Placeholder.names_eq_eraseDups, Span.filterMap_parts, List.filter_eq_self.2]
  · rfl
  · intro name mem
    obtain ⟨param, present, rfl⟩ := Span.mem_names.1 (List.mem_eraseDups.2 mem)
    simp [value?_of_mem spelled.distinct (spelled.bound param present)]

/-- Numbering a span as the scanner finds it. -/
theorem numbered_parts {names : List (List Char)} {span : Span}
    (listed : ∀ name ∈ span.name?, name ∈ names) :
    span.parts.flatMap (·.numbered names) = span.numbered names := by
  cases span with
  | code chars => exact ReadAs.numbered_chars names chars
  | quoted mark body => exact ReadAs.numbered_chars names _
  | reference param =>
      have place : names.idxOf? param.name.toList = some (names.idxOf param.name.toList) :=
        List.findIdx?_eq_some_of_exists ⟨_, listed _ rfl, by simp⟩
      simp [Span.parts, Placeholder.Part.numbered, Span.numbered, place]

/--
Numbering replaces exactly the references. Whichever way a text is written as spans, each reference
becomes the number of its name, counted from one in order of first occurrences, everything else is
copied, and the values are those of the names in that order, one for each.
-/
theorem positional_eq (spelled : statement.Spelled spans) :
    statement.positional.1.toList = spans.flatMap (Span.numbered (Span.names spans)) ∧
      List.Forall₂ (fun name value =>
          ∃ param ∈ statement.params, param.name.toList = name ∧ param.value = value)
        (Span.names spans) statement.positional.2 := by
  have names := spelled.names_eq
  constructor
  · change (String.ofList ((Placeholder.scan none false statement.sql.toList).flatMap
      (·.numbered (Placeholder.names (fun name => (statement.value? name).isSome)
        (Placeholder.scan none false statement.sql.toList))))).toList = _
    rw [names, spelled.scan, String.toList_ofList, List.flatMap_assoc]
    refine List.flatMap_congr fun span mem => numbered_parts fun name found => ?_
    exact List.mem_eraseDups.2 (List.mem_filterMap.2 ⟨span, mem, found⟩)
  · change List.Forall₂ _ _ ((Placeholder.names _ _).filterMap statement.value?)
    rw [names]
    have known : ∀ name ∈ Span.names spans,
        ∃ param ∈ statement.params, param.name.toList = name := by
      intro name mem
      obtain ⟨param, present, named⟩ := Span.mem_names.1 mem
      exact ⟨param, spelled.bound param present, named⟩
    -- The induction is on any list of names that are all bound.
    revert known
    generalize Span.names spans = names
    intro known
    induction names with
    | nil => exact .nil
    | cons name rest ih =>
        obtain ⟨param, mem, rfl⟩ := known name List.mem_cons_self
        rw [List.filterMap_cons_some (value?_of_mem spelled.distinct mem)]
        exact .cons ⟨param, mem, rfl, rfl⟩
          (ih fun name mem => known name (List.mem_cons_of_mem _ mem))

/-- Look-alikes in quotes, a cast behind a reference, and a name that another one starts with. -/
theorem positional_eq_lookalike :
    let statement : Statement :=
      { sql := "select 'it''s :a'\":ab\", :ab::int, é :a + :ab"
        params := [⟨"a", .int 1⟩, ⟨"ab", .int 2⟩]
        kind := .prepared }
    let spans : List Span :=
      [.code "select ".toList, .quoted '\'' "it's :a".toList, .quoted '"' ":ab".toList,
        .code ", ".toList, .reference ⟨"ab", .int 2⟩, .code "::int, é ".toList,
        .reference ⟨"a", .int 1⟩, .code " + ".toList, .reference ⟨"ab", .int 2⟩]
    statement.Spelled spans ∧
      statement.positional.1 = "select 'it''s :a'\":ab\", $1::int, é $2 + $1" ∧
      statement.positional.2 = [.int 2, .int 1] := by
  intro statement spans
  have marks : Placeholder.isNameChar ':' = false ∧ Placeholder.isNameChar ' ' = false := by decide
  have spelled : statement.Spelled spans :=
    { text := by decide +kernel
      legible := by decide +kernel
      separated := by simp [spans, Span.Separated, Span.text, marks]
      bound := by simp [spans, statement]
      named := by
        simp only [statement, List.forall_mem_cons]
        decide +kernel
      distinct := by decide +kernel }
  obtain ⟨text, values⟩ := spelled.positional_eq
  have names : Span.names spans = ["ab".toList, "a".toList] := by decide +kernel
  refine ⟨spelled, String.toList_inj.1 (text.trans (by decide +kernel)), ?_⟩
  rw [names] at values
  obtain ⟨first, rest, own, others, all⟩ := List.forall₂_cons_left_iff.1 values
  obtain ⟨second, none, own', nothing, rfl⟩ := List.forall₂_cons_left_iff.1 others
  obtain rfl := List.forall₂_nil_left_iff.1 nothing
  simp [statement] at own own'
  rw [all, own, own']

end Statement.Spelled

end SqlBuilder
