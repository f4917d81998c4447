import SqlBuilder.Text.CaseTable

/-!
# Letter case

Upper and lower case of characters and of texts. A character may have a form of several characters,
and a sigma at the end of a word has a lower-case form of its own.
-/

namespace SqlBuilder.Text

/-- Whether a character is in one of the runs. -/
def inRuns (runs : List (Nat × Nat × Nat)) (c : Char) : Bool :=
  runs.any fun (first, last, step) =>
    first ≤ c.toNat && c.toNat ≤ last && (c.toNat - first) % step == 0

/-- The form that the runs give a character, if it is in one of them. -/
def imageIn? (runs : List (Nat × Nat × Nat × Nat)) (c : Char) : Option Char :=
  runs.findSome? fun (first, last, step, image) =>
    if first ≤ c.toNat ∧ c.toNat ≤ last ∧ (c.toNat - first) % step = 0 then
      some (Char.ofNat (image + (c.toNat - first)))
    else none

/-- A lower-case character. -/
def isLowercase (c : Char) : Bool :=
  if c.toNat < 128 then c.isLower else inRuns lowercaseRuns c

/-- An upper-case character. -/
def isUppercase (c : Char) : Bool :=
  if c.toNat < 128 then c.isUpper else inRuns uppercaseRuns c

/-- Whether a character is in one of the ranges. -/
def inRanges (ranges : List (Nat × Nat)) (c : Char) : Bool :=
  ranges.any fun (first, last) => first ≤ c.toNat && c.toNat ≤ last

/-- A letter or digit, of the characters that a name can hold. -/
def isNameLetter (c : Char) : Bool :=
  if c.toNat < 128 then c.isAlphanum else !inRanges joiningRanges c

/-- A character with a case. -/
def isCased (c : Char) : Bool := isLowercase c || isUppercase c || inRanges titlecaseRanges c

/-- A character that does not count when the case of its neighbours matters. -/
def isCaseIgnorable (c : Char) : Bool :=
  if c.toNat < 128 then ['\'', '.', ':', '^', '\x60'].contains c
  else inRanges caseIgnorableRanges c

/-- The characters of an expansion, if the table has one. -/
def expansion? (table : List (Nat × List Nat)) (c : Char) : Option (List Char) :=
  (table.find? (·.1 == c.toNat)).map fun entry => entry.2.map Char.ofNat

/-- The lower-case form of a character. -/
def lowerChar (c : Char) : List Char :=
  if c.toNat < 128 then [c.toLower]
  else (expansion? toLowerExpansions c).getD [(imageIn? toLowerRuns c).getD c]

/-- The upper-case form of a character. -/
def upperChar (c : Char) : List Char :=
  if c.toNat < 128 then [c.toUpper]
  else (expansion? toUpperExpansions c).getD [(imageIn? toUpperRuns c).getD c]

/-- Whether the first character of a text that counts has a case. -/
def startsCased (chars : List Char) : Bool :=
  match chars.dropWhile isCaseIgnorable with
  | c :: _ => isCased c
  | [] => false

/-- The lower-case form of a text whose characters before it stand in `before`, last one first. -/
def lowerAfter (before : List Char) : List Char → List Char
  | [] => []
  | c :: rest =>
    let image :=
      if c == 'Σ' then
        if startsCased before && !startsCased rest then ['ς'] else ['σ']
      else lowerChar c
    image ++ lowerAfter (c :: before) rest

/-- The lower-case form of a text. -/
def lower (chars : List Char) : List Char := lowerAfter [] chars

/-- The upper-case form of a text. -/
def upper (chars : List Char) : List Char := chars.flatMap upperChar

end SqlBuilder.Text
