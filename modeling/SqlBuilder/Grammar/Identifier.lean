import SqlBuilder.Text.Blank

/-!
# Identifiers

A name becomes SQL text by quoting each of its parts. A name may be qualified
(`schema.table.column`), may have an alias (`name as alias`), and parts of it may be quoted already;
these are read and written again in canonical form. A name that does not split into well-formed
parts is quoted whole.
-/

namespace SqlBuilder

/-- The characters around a quoted identifier. -/
structure Quotes where
  opening : Char
  closing : Char
  deriving DecidableEq, Repr

namespace Identifier

/-- Writes every closing quote twice. -/
def double (closing : Char) (body : List Char) : List Char :=
  body.flatMap fun c => if c = closing then [closing, closing] else [c]

/-- A body between quotes. -/
def quote (quotes : Quotes) (body : List Char) : List Char :=
  quotes.opening :: (double quotes.closing body ++ [quotes.closing])

/-- Reads a body up to the closing quote, and gives the text behind that quote. -/
def spanBody? (closing : Char) : List Char → Option (List Char × List Char)
  | [] => none
  | c :: rest =>
    if c = closing then
      match rest with
      | [] => some ([], [])
      | next :: rest =>
        if next = closing then
          (spanBody? closing rest).map fun (body, after) => (closing :: body, after)
        else some ([], next :: rest)
    else (spanBody? closing rest).map fun (body, after) => (c :: body, after)

/-- Reads a quoted identifier at the start of a text: its body, which is not empty, and the rest. -/
def spanQuoted? (quotes : Quotes) : List Char → Option (List Char × List Char)
  | [] => none
  | c :: rest =>
    if c = quotes.opening then
      match spanBody? quotes.closing rest with
      | some ([], _) => none
      | found => found
    else none

/-- One part of a qualified name. -/
inductive Segment where
  | plain (text : List Char)
  /-- A quoted part, without its quotes and with the doubling undone. -/
  | quoted (body : List Char)
  deriving DecidableEq, Repr

/-- Splits a text at the first separator. -/
def breakOn? (separator : List Char) : List Char → Option (List Char × List Char)
  | [] => if separator = [] then some ([], []) else none
  | c :: rest =>
    if separator <+: c :: rest then some ([], (c :: rest).drop separator.length)
    else (breakOn? separator rest).map fun (before, after) => (c :: before, after)

theorem length_of_spanBody? {closing : Char} {chars body after : List Char}
    (found : spanBody? closing chars = some (body, after)) : after.length < chars.length := by
  fun_induction spanBody? closing chars generalizing body after with
  | case1 => simp at found
  | case2 => simp_all
  | case3 rest ih =>
    obtain ⟨inner, within, same⟩ := Option.map_eq_some_iff.1 found
    have := ih within
    simp only [Prod.mk.injEq] at same
    simp only [List.length_cons, ← same.2]
    omega
  | case4 => simp_all
  | case5 c rest _ ih =>
    obtain ⟨inner, within, same⟩ := Option.map_eq_some_iff.1 found
    have := ih within
    simp only [Prod.mk.injEq] at same
    simp only [List.length_cons, ← same.2]
    omega

theorem length_of_spanQuoted? {quotes : Quotes} {chars body after : List Char}
    (found : spanQuoted? quotes chars = some (body, after)) : after.length < chars.length := by
  unfold spanQuoted? at found
  split at found
  · simp at found
  · rename_i c rest
    split at found
    · split at found
      · simp at found
      · have := length_of_spanBody? found
        simp only [List.length_cons]
        omega
    · simp at found

theorem length_of_breakOn? {separator chars before after : List Char}
    (found : breakOn? separator chars = some (before, after)) :
    before.length + after.length ≤ chars.length := by
  fun_induction breakOn? separator chars generalizing before after with
  | case1 => simp_all
  | case2 => simp_all
  | case3 c rest =>
    simp only [Option.some.injEq, Prod.mk.injEq] at found
    rw [← found.1, ← found.2]
    simp only [List.length_nil, List.length_drop]
    omega
  | case4 c rest _ ih =>
    obtain ⟨inner, within, same⟩ := Option.map_eq_some_iff.1 found
    have := ih within
    simp only [Prod.mk.injEq] at same
    rw [← same.1, ← same.2]
    simp only [List.length_cons]
    omega

set_option linter.unusedVariables false in
/--
Splits a qualified name into its parts. Separators inside quoted parts are kept. There is no result
for an empty part, an unclosed quote or text behind a closing quote.
-/
def split? (quotes : Quotes) (separator name : List Char) : Option (List Segment) :=
  if name.head? = some quotes.opening then
    match quoted : spanQuoted? quotes name with
    | none => none
    | some (body, after) =>
      if after = [] then some [.quoted body]
      else if separator <+: after then
        (split? quotes separator (after.drop separator.length)).map (.quoted body :: ·)
      else none
  else
    match broken : breakOn? separator name with
    | none => if name = [] then none else some [.plain name]
    | some (part, after) =>
      if part = [] then none
      else (split? quotes separator after).map (.plain part :: ·)
termination_by name.length
decreasing_by
  · have := length_of_spanQuoted? quoted
    simp only [List.length_drop]
    omega
  · have := length_of_breakOn? broken
    rename_i nonempty
    have : 0 < part.length := List.length_pos_iff.2 nonempty
    omega

/-- Whether a text starts with ` as `, in any case. -/
def startsAlias : List Char → Bool
  | ' ' :: a :: s :: ' ' :: _ => (a == 'a' || a == 'A') && (s == 's' || s == 'S')
  | _ => false

/-- Whether the text after a character is quoted. -/
def quotedAfter (quotes : Quotes) (quoted : Bool) (c : Char) : Bool :=
  if c = quotes.opening ∨ c = quotes.closing then
    if quotes.opening = quotes.closing then !quoted else c = quotes.opening
  else quoted

/-- Splits a text at its last ` as ` outside quotes. -/
def breakAlias? (quotes : Quotes) (quoted : Bool) : List Char → Option (List Char × List Char)
  | [] => none
  | c :: rest =>
    match breakAlias? quotes (quotedAfter quotes quoted c) rest with
    | some (before, after) => some (c :: before, after)
    | none =>
      if c ≠ quotes.opening ∧ c ≠ quotes.closing ∧ !quoted ∧ startsAlias (c :: rest) then
        some ([], (c :: rest).drop 4)
      else none

/-- The name and the alias of a text, if neither is empty. -/
def splitAlias? (quotes : Quotes) (chars : List Char) : Option (List Char × List Char) :=
  match breakAlias? quotes false chars with
  | none => none
  | some (before, after) =>
    let name := Text.trim before
    let label := Text.trim after
    if name = [] ∨ label = [] then none else some (name, label)

theorem length_of_breakAlias? {quotes : Quotes} {quoted : Bool} {chars before after : List Char}
    (found : breakAlias? quotes quoted chars = some (before, after)) :
    before.length < chars.length := by
  induction chars generalizing quoted before after with
  | nil => simp [breakAlias?] at found
  | cons c rest ih =>
    unfold breakAlias? at found
    split at found
    · rename_i _ _ within
      have := ih within
      simp only [Option.some.injEq, Prod.mk.injEq] at found
      rw [← found.1]
      simp only [List.length_cons]
      omega
    · split at found
      · simp only [Option.some.injEq, Prod.mk.injEq] at found
        rw [← found.1]
        simp
      · simp at found

theorem length_of_splitAlias? {quotes : Quotes} {chars name label : List Char}
    (found : splitAlias? quotes chars = some (name, label)) : name.length < chars.length := by
  unfold splitAlias? at found
  split at found
  · simp at found
  · rename_i before after broken
    have shorter := length_of_breakAlias? broken
    have trimmed := Text.length_trim_le before
    simp only at found
    split at found
    · simp at found
    · simp only [Option.some.injEq, Prod.mk.injEq] at found
      rw [← found.1]
      omega

/-- A part of a qualified name as SQL text. A lone star stands for all columns. -/
def escapeSegment (quotes : Quotes) : Segment → List Char
  | .plain ['*'] => ['*']
  | .plain text => quote quotes text
  | .quoted body => quote quotes body

/-- A single name, such as an alias, as SQL text. -/
def escapePart (quotes : Quotes) (part : List Char) : List Char :=
  if part = ['*'] then part
  else
    match spanQuoted? quotes part with
    | some (body, []) => quote quotes body
    | _ => quote quotes part

/-- A qualified name without an alias as SQL text. -/
def escapeQualified (quotes : Quotes) (separator name : List Char) : List Char :=
  match split? quotes separator name with
  | none => quote quotes name
  | some segments => List.intercalate separator (segments.map (escapeSegment quotes))

set_option linter.unusedVariables false in
/-- A name, possibly qualified and with an alias, as SQL text. -/
def escape (quotes : Quotes) (separator chars : List Char) : List Char :=
  match found : splitAlias? quotes (Text.trim chars) with
  | some (name, label) =>
    escape quotes separator name ++ [' ', 'a', 's', ' '] ++ escapePart quotes label
  | none => escapeQualified quotes separator (Text.trim chars)
termination_by chars.length
decreasing_by
  have := length_of_splitAlias? found
  have := Text.length_trim_le chars
  omega

end Identifier

end SqlBuilder
