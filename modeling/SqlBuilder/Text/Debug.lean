import SqlBuilder.Text.Digits
import SqlBuilder.Text.Invisible

/-!
# Texts for developers

A text between double quotes with every character in sight: quotes, backslashes, tabs and line ends
get a backslash, other characters without a visible form are written by number.
-/

namespace SqlBuilder.Text

/-- A character by its number, as in `\u{200b}`. -/
def codeEscape (c : Char) : List Char :=
  ['\\', 'u', '\x7b'] ++ Nat.toDigits 16 c.toNat ++ ['\x7d']

/-- A character of a text for developers. -/
def debugChar (c : Char) : List Char :=
  if c == '"' then ['\\', '"']
  else if c == '\\' then ['\\', '\\']
  else if c == '\n' then ['\\', 'n']
  else if c == '\r' then ['\\', 'r']
  else if c == '\t' then ['\\', 't']
  else if c.toNat == 0 then ['\\', '0']
  else if c.toNat < 32 then codeEscape c
  else if c.toNat < 127 then [c]
  else if isInvisible c then codeEscape c
  else [c]

/-- A text for developers. -/
def debug (text : String) : String :=
  String.ofList ('"' :: text.toList.flatMap debugChar ++ ['"'])

end SqlBuilder.Text
