import SqlBuilder.Text.LetterCase

/-!
# Words of a name

Splits a name into words and joins them again under a naming convention. Words end at characters
that are neither letters nor digits, between a lower-case and an upper-case letter, and before the
last of several upper-case letters that a lower-case one follows.
-/

namespace SqlBuilder.Text

/-- The case of the last letter with a case in the word being read, if it has one. -/
inductive WordMode where
  | boundary
  | lowercase
  | uppercase
  deriving DecidableEq, Repr

/-- Splits a list at the separators; the separators are dropped. -/
def splitOn (isSeparator : Char → Bool) : List Char → List (List Char)
  | [] => [[]]
  | c :: rest =>
    match splitOn isSeparator rest with
    | [] => [[]]
    | part :: parts => if isSeparator c then [] :: part :: parts else (c :: part) :: parts

/-- Splits a run of letters and digits, `word` holding what has been read of the current word. -/
def splitCased (word : List Char) (mode : WordMode) : List Char → List (List Char)
  | [] => []
  | [c] => [word ++ [c]]
  | c :: next :: rest =>
    let following : WordMode :=
      if isLowercase c then .lowercase else if isUppercase c then .uppercase else mode
    if following = .lowercase ∧ isUppercase next then
      (word ++ [c]) :: splitCased [] .boundary (next :: rest)
    else if mode = .uppercase ∧ isUppercase c ∧ isLowercase next then
      word :: splitCased [c] .boundary (next :: rest)
    else splitCased (word ++ [c]) following (next :: rest)

/-- The words of a name. -/
def words (name : String) : List (List Char) :=
  (splitOn (!isNameLetter ·) name.toList).flatMap (splitCased [] .boundary)

/-- A word in lower case; a sigma at its end has a form of its own. -/
def lowerWord : List Char → List Char
  | [] => []
  | ['Σ'] => ['ς']
  | c :: rest => lowerChar c ++ lowerWord rest

/-- A word with its first letter in upper case and the others in lower case. -/
def capitalWord : List Char → List Char
  | [] => []
  | c :: rest => upperChar c ++ lowerWord rest

/-- A naming convention. -/
inductive Convention where
  | snake
  | lowercase
  | uppercase
  | kebab
  | screamingSnake
  | camel
  | pascal
  deriving DecidableEq, Repr

namespace Convention

/-- The convention of a name. -/
def ofName? (name : String) : Option Convention :=
  if name == "snake_case" then some .snake
  else if name == "lowercase" then some .lowercase
  else if name == "UPPERCASE" then some .uppercase
  else if name == "kebab-case" then some .kebab
  else if name == "SCREAMING_SNAKE_CASE" then some .screamingSnake
  else if name == "camelCase" then some .camel
  else if name == "PascalCase" then some .pascal
  else none

/-- A name under the convention. -/
def apply (convention : Convention) (name : String) : String :=
  String.ofList <|
    match convention with
    | .snake => List.intercalate ['_'] ((words name).map lowerWord)
    | .kebab => List.intercalate ['-'] ((words name).map lowerWord)
    | .screamingSnake => List.intercalate ['_'] ((words name).map upper)
    | .lowercase => lower name.toList
    | .uppercase => upper name.toList
    | .pascal => (words name).flatMap capitalWord
    | .camel =>
      match words name with
      | [] => []
      | first :: rest => lowerWord first ++ rest.flatMap capitalWord

end Convention

end SqlBuilder.Text
