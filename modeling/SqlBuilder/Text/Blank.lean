/-!
# Blank characters

The characters that count as space around a name, and trimming them off both ends of a text.
-/

namespace SqlBuilder.Text

/-- The characters of the Unicode property `White_Space`. -/
def isBlank (c : Char) : Bool :=
  let code := c.toNat
  (9 ≤ code && code ≤ 13) || code == 0x20 || code == 0x85 || code == 0xA0 || code == 0x1680 ||
    (0x2000 ≤ code && code ≤ 0x200A) || code == 0x2028 || code == 0x2029 || code == 0x202F ||
    code == 0x205F || code == 0x3000

/-- Drops the blanks at the end. -/
def trimEnd : List Char → List Char
  | [] => []
  | c :: rest =>
    match trimEnd rest with
    | [] => if isBlank c then [] else [c]
    | kept => c :: kept

/-- Drops the blanks at both ends. -/
def trim (chars : List Char) : List Char :=
  trimEnd (chars.dropWhile isBlank)

/-- Trimming the end never lengthens a text. -/
theorem length_trimEnd_le (chars : List Char) : (trimEnd chars).length ≤ chars.length := by
  induction chars with
  | nil => simp [trimEnd]
  | cons c rest ih =>
    unfold trimEnd
    split
    · split <;> simp
    · simp only [List.length_cons]
      omega

/-- Trimming never lengthens a text. -/
theorem length_trim_le (chars : List Char) : (trim chars).length ≤ chars.length :=
  Nat.le_trans (length_trimEnd_le _) (List.dropWhile_suffix isBlank).length_le

end SqlBuilder.Text
