import SqlBuilder.Number.Layout
import SqlBuilder.Text.Digits

/-!
# JSON documents

A document is a tree. Numbers are integers or double-precision numbers, and the members of an object
stand in the order in which they are written; `insertMember` keeps them sorted by key.
-/

namespace SqlBuilder

/-- A JSON document. -/
inductive Json where
  | null
  | bool (value : Bool)
  | integer (value : Int)
  | float (value : Number.Double)
  | string (value : String)
  | array (items : List Json)
  | object (members : List (String × Json))

namespace Json

/-- Adds a member to an object with sorted keys; of two members of one key the later stays. -/
def insertMember (key : String) (value : Json) : List (String × Json) → List (String × Json)
  | [] => [(key, value)]
  | (other, kept) :: rest =>
    if key == other then (key, value) :: rest
    else if key < other then (key, value) :: (other, kept) :: rest
    else (other, kept) :: insertMember key value rest

/-- The value of a member. -/
def get? (document : Json) (key : String) : Option Json :=
  match document with
  | .object members => (members.find? (·.1 == key)).map (·.2)
  | _ => none

/-- A character inside a JSON string: quotes, backslashes and control characters are escaped. -/
def escapeChar (c : Char) : List Char :=
  if c == '"' then ['\\', '"']
  else if c == '\\' then ['\\', '\\']
  else if c == '\n' then ['\\', 'n']
  else if c == '\r' then ['\\', 'r']
  else if c == '\t' then ['\\', 't']
  else if c.toNat == 8 then ['\\', 'b']
  else if c.toNat == 12 then ['\\', 'f']
  else if c.toNat < 32 then
    ['\\', 'u', '0', '0', Text.hexDigit (c.toNat / 16), Text.hexDigit (c.toNat % 16)]
  else [c]

/-- A text as a JSON string. -/
def quote (text : String) : String :=
  String.ofList ('"' :: text.toList.flatMap escapeChar ++ ['"'])

mutual

/-- The document without blanks. -/
def compact : Json → String
  | .null => "null"
  | .bool value => if value then "true" else "false"
  | .integer value => toString value
  | .float value => Number.Layout.json.text value
  | .string value => quote value
  | .array items => "[" ++ compactItems items ++ "]"
  | .object members => "\x7b" ++ compactMembers members ++ "\x7d"

/-- Items separated by commas. -/
def compactItems : List Json → String
  | [] => ""
  | [item] => item.compact
  | item :: next :: rest => item.compact ++ "," ++ compactItems (next :: rest)

/-- Members separated by commas. -/
def compactMembers : List (String × Json) → String
  | [] => ""
  | [(key, value)] => quote key ++ ":" ++ value.compact
  | (key, value) :: next :: rest =>
    quote key ++ ":" ++ value.compact ++ "," ++ compactMembers (next :: rest)

end

/-- The start of a line at a nesting depth: two blanks per level. -/
def newline (depth : Nat) : String := String.ofList ('\n' :: List.replicate (2 * depth) ' ')

mutual

/-- The document with every item and member on a line of its own. -/
def prettyAt (depth : Nat) : Json → String
  | .array (item :: rest) =>
    "[" ++ newline (depth + 1) ++ prettyItems (depth + 1) (item :: rest) ++ newline depth ++ "]"
  | .object (member :: rest) =>
    "\x7b" ++ newline (depth + 1) ++ prettyMembers (depth + 1) (member :: rest) ++
      newline depth ++ "\x7d"
  | document => document.compact

/-- Items on lines at a nesting depth. -/
def prettyItems (depth : Nat) : List Json → String
  | [] => ""
  | [item] => item.prettyAt depth
  | item :: next :: rest =>
    item.prettyAt depth ++ "," ++ newline depth ++ prettyItems depth (next :: rest)

/-- Members on lines at a nesting depth. -/
def prettyMembers (depth : Nat) : List (String × Json) → String
  | [] => ""
  | [(key, value)] => quote key ++ ": " ++ value.prettyAt depth
  | (key, value) :: next :: rest =>
    quote key ++ ": " ++ value.prettyAt depth ++ "," ++ newline depth ++
      prettyMembers depth (next :: rest)

end

/-- The document over several lines. -/
def pretty (document : Json) : String := document.prettyAt 0

end Json

end SqlBuilder
