/-!
# Placeholders

Finds the places of a SQL text that may refer to a parameter: a colon that follows no colon, outside
quotes, with a name of ASCII letters, digits and underscores behind it.
-/

namespace SqlBuilder.Placeholder

/-- The characters that open and close quoted text. -/
def isQuote (c : Char) : Bool := c == '\'' || c == '"' || c == '\x60'

/-- The characters of a name. -/
def isNameChar (c : Char) : Bool := c.isAlphanum || c == '_'

/-- A part of a SQL text. -/
inductive Part where
  | char (c : Char)
  /-- A colon and the name behind it. -/
  | reference (name : List Char)
  deriving DecidableEq, Repr

/-- The part as it stands in the text. -/
def Part.text : Part → List Char
  | .char c => [c]
  | .reference name => ':' :: name

/--
Splits a SQL text into its parts. `quote` is the quote character that is open, `afterColon` tells
whether the character before is a colon.
-/
def scan (quote : Option Char) (afterColon : Bool) : List Char → List Part
  | [] => []
  | c :: rest =>
    match quote with
    | some closing => .char c :: scan (if c == closing then none else quote) (c == ':') rest
    | none =>
      if isQuote c then .char c :: scan (some c) false rest
      else if c == ':' && !afterColon && (rest.head?.any isNameChar) then
        .reference (rest.takeWhile isNameChar) :: scan none false (rest.dropWhile isNameChar)
      else .char c :: scan none (c == ':') rest
termination_by chars => chars.length
decreasing_by
  · simp
  · simp
  · have := (List.dropWhile_suffix isNameChar (l := rest)).length_le
    simp only [List.length_cons]
    omega
  · simp

/-- The names that a text refers to and `known` holds of, each once, in order of appearance. -/
def names (known : List Char → Bool) (parts : List Part) : List (List Char) :=
  parts.foldl (fun seen part =>
    match part with
    | .char _ => seen
    | .reference name =>
      if known name && !seen.contains name then seen ++ [name] else seen) []

/-- The text of a part with the names in `positions` replaced by their numbers. -/
def Part.numbered (positions : List (List Char)) : Part → List Char
  | .char c => [c]
  | .reference name =>
    match positions.idxOf? name with
    | some index => '$' :: (Nat.repr (index + 1)).toList
    | none => ':' :: name

end SqlBuilder.Placeholder
