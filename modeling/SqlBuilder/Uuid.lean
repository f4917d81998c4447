import SqlBuilder.Text.Digits

/-!
# Unique identifiers

Sixteen octets, written as thirty-two lower-case digits in five groups.
-/

namespace SqlBuilder

/-- A universally unique identifier. -/
structure Uuid where
  octets : List UInt8
  length_octets : octets.length = 16
  deriving DecidableEq

namespace Uuid

/-- The identifier of sixteen octets. -/
def ofOctets? (octets : List UInt8) : Option Uuid :=
  if h : octets.length = 16 then some ⟨octets, h⟩ else none

/-- The identifier with hyphens between its groups. -/
def text (uuid : Uuid) : String :=
  let digits := Text.hex uuid.octets
  let group (start count : Nat) := (digits.drop start).take count
  String.ofList (List.intercalate ['-']
    [group 0 8, group 8 4, group 12 4, group 16 4, group 20 12])

/-- Removes a pair of braces around a text. -/
def dropBraces (chars : List Char) : List Char :=
  match chars.head?, chars.getLast? with
  | some '\x7b', some '\x7d' => (chars.drop 1).dropLast
  | _, _ => chars

/-- Reads an identifier with or without hyphens, of either case. -/
def ofText? (text : String) : Option Uuid := do
  let chars := dropBraces text.toList
  let digits ←
    if chars.length = 32 then some chars
    else if chars.length = 36 then
      let isHyphen (place : Nat) := chars[place]? == some '-'
      if isHyphen 8 && isHyphen 13 && isHyphen 18 && isHyphen 23 then
        some (chars.take 8 ++ (chars.drop 9).take 4 ++ (chars.drop 14).take 4 ++
          (chars.drop 19).take 4 ++ chars.drop 24)
      else none
    else none
  ofOctets? (← Text.bytesOfHex? digits)

end Uuid

end SqlBuilder
