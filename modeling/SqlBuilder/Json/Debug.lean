import SqlBuilder.Json.Basic
import SqlBuilder.Text.Debug

/-!
# Documents for developers

A document with the kind of every node in sight.
-/

namespace SqlBuilder.Json

mutual

/-- The document as a term: the kind of a node, then what it holds. -/
def debug : Json → String
  | .null => "Null"
  | .bool value => if value then "Bool(true)" else "Bool(false)"
  | .integer value => "Number(" ++ toString value ++ ")"
  | .float value => "Number(" ++ Number.Layout.json.text value ++ ")"
  | .string value => "String(" ++ Text.debug value ++ ")"
  | .array items => "Array [" ++ debugItems items ++ "]"
  | .object members => "Object \x7b" ++ debugMembers members ++ "\x7d"

/-- Items separated by a comma and a blank. -/
def debugItems : List Json → String
  | [] => ""
  | [item] => item.debug
  | item :: next :: rest => item.debug ++ ", " ++ debugItems (next :: rest)

/-- Members separated by a comma and a blank. -/
def debugMembers : List (String × Json) → String
  | [] => ""
  | [(key, value)] => Text.debug key ++ ": " ++ value.debug
  | (key, value) :: next :: rest =>
    Text.debug key ++ ": " ++ value.debug ++ ", " ++ debugMembers (next :: rest)

end

end SqlBuilder.Json
