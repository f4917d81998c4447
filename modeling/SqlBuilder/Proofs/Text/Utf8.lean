import Mathlib.Data.List.Basic
import SqlBuilder.Text.Utf8

/-!
# Reading UTF-8 back

The octets of a text are read as that text. The octets of one character are read on their own,
whatever comes behind them: the first one tells how many follow and bounds the second, and each of
the others carries six bits of the character's number.
-/

namespace SqlBuilder.Text.Utf8

/-! ### What the first octet tells -/

/-- An octet that others follow lies above the first 128. -/
theorem le_of_following? {first : Nat} {told : Nat × Nat × Nat}
    (follow : following? first = some told) : 0x80 ≤ first := by
  unfold following? at follow
  split_ifs at follow <;> omega

/-- Characters of two octets. -/
theorem following?_two (number : Nat) (least : 0x7F < number) (greatest : number ≤ 0x7FF) :
    following? (number / 64 % 32 + 192) = some (1, 0x80, 0xBF) := by
  rw [following?, if_pos (by omega)]

/-- Characters of three octets; the second one keeps out overlong forms and surrogates. -/
theorem following?_three (number : Nat) (least : 0x7FF < number) (greatest : number ≤ 0xFFFF)
    (scalar : number < 0xD800 ∨ 0xDFFF < number) :
    ∃ low high, following? (number / 4096 % 16 + 224) = some (2, low, high) ∧
      low ≤ number / 64 % 64 + 128 ∧ number / 64 % 64 + 128 ≤ high := by
  unfold following?
  split_ifs <;> first | omega | exact ⟨_, _, rfl, by omega, by omega⟩

/-- Characters of four octets; the second one keeps out overlong forms and too great numbers. -/
theorem following?_four (number : Nat) (least : 0xFFFF < number) (greatest : number ≤ 0x10FFFF) :
    ∃ low high, following? (number / 262144 % 8 + 240) = some (3, low, high) ∧
      low ≤ number / 4096 % 64 + 128 ∧ number / 4096 % 64 + 128 ≤ high := by
  unfold following?
  split_ifs <;> first | omega | exact ⟨_, _, rfl, by omega, by omega⟩

/-! ### One character -/

variable {first second third fourth : UInt8} {low high : Nat} (index : Nat) (rest : List UInt8)

theorem decodeFrom_one (ascii : first.toNat < 0x80) :
    decodeFrom index (first :: rest) =
      (decodeFrom (index + 1) rest).map (Char.ofNat first.toNat :: ·) := by
  conv_lhs => unfold decodeFrom
  rw [if_pos ascii]

theorem decodeFrom_two (follow : following? first.toNat = some (1, low, high))
    (lower : low ≤ second.toNat) (upper : second.toNat ≤ high) :
    decodeFrom index (first :: second :: rest) =
      (decodeFrom (index + 2) rest).map
        (Char.ofNat (extend (first.toNat % 32) second.toNat) :: ·) := by
  have above := le_of_following? follow
  conv_lhs => unfold decodeFrom
  rw [if_neg (by omega), follow]
  dsimp only
  rw [if_neg (by omega), if_pos rfl]

theorem decodeFrom_three (follow : following? first.toNat = some (2, low, high))
    (lower : low ≤ second.toNat) (upper : second.toNat ≤ high) (tail : third.toNat / 64 = 2) :
    decodeFrom index (first :: second :: third :: rest) =
      (decodeFrom (index + 3) rest).map
        (Char.ofNat (extend (extend (first.toNat % 16) second.toNat) third.toNat) :: ·) := by
  have above := le_of_following? follow
  conv_lhs => unfold decodeFrom
  rw [if_neg (by omega), follow]
  dsimp only
  rw [if_neg (by omega), if_neg (by decide), if_neg (by omega), if_pos rfl]

theorem decodeFrom_four (follow : following? first.toNat = some (3, low, high))
    (lower : low ≤ second.toNat) (upper : second.toNat ≤ high) (tail : third.toNat / 64 = 2)
    (tail' : fourth.toNat / 64 = 2) :
    decodeFrom index (first :: second :: third :: fourth :: rest) =
      (decodeFrom (index + 4) rest).map
        (Char.ofNat (extend (extend (extend (first.toNat % 8) second.toNat) third.toNat)
          fourth.toNat) :: ·) := by
  have above := le_of_following? follow
  conv_lhs => unfold decodeFrom
  rw [if_neg (by omega), follow]
  dsimp only
  rw [if_neg (by omega), if_neg (by decide), if_neg (by omega), if_neg (by decide),
    if_neg (by omega)]

/-- The octets of a character are read as that character. -/
theorem decodeFrom_encodeChar (c : Char) :
    decodeFrom index (String.utf8EncodeChar c ++ rest) =
      (decodeFrom (index + c.utf8Size) rest).map (c :: ·) := by
  have octet {number : Nat} (small : number < 256) : (UInt8.ofNat number).toNat = number := by
    rw [UInt8.toNat_ofNat']
    exact Nat.mod_eq_of_lt small
  have scalar : c.toNat < 0xD800 ∨ 0xDFFF < c.toNat ∧ c.toNat < 0x110000 := c.valid
  have size := String.length_utf8EncodeChar c
  have whole {number : Nat} (same : number = c.toNat) : Char.ofNat number = c := by
    rw [same, Char.ofNat_toNat]
  unfold String.utf8EncodeChar at size ⊢
  rw [show c.val.toNat = c.toNat from rfl] at size ⊢
  dsimp only at size ⊢
  split_ifs at size ⊢ with one two three <;> rw [← size] <;>
    simp only [List.cons_append, List.nil_append]
  · rw [decodeFrom_one _ _ (by rw [octet] <;> omega), whole (octet (by omega))]
    rfl
  · have follow := following?_two c.toNat (by omega) two
    rw [decodeFrom_two _ _ (by rwa [octet (by omega)]) (by rw [octet] <;> omega)
      (by rw [octet] <;> omega), octet (by omega), octet (by omega),
      whole (by unfold extend; omega)]
    rfl
  · obtain ⟨low, high, follow, lower, upper⟩ := following?_three c.toNat (by omega) three (by omega)
    rw [decodeFrom_three _ _ (by rwa [octet (by omega)]) (by rwa [octet (by omega)])
      (by rwa [octet (by omega)]) (by rw [octet] <;> omega), octet (by omega), octet (by omega),
      octet (by omega), whole (by unfold extend; omega)]
    rfl
  · obtain ⟨low, high, follow, lower, upper⟩ :=
      following?_four c.toNat (by omega) (by omega)
    rw [decodeFrom_four _ _ (by rwa [octet (by omega)]) (by rwa [octet (by omega)])
      (by rwa [octet (by omega)]) (by rw [octet] <;> omega) (by rw [octet] <;> omega),
      octet (by omega), octet (by omega), octet (by omega), octet (by omega),
      whole (by unfold extend; omega)]
    rfl

/-! ### A text -/

theorem decodeFrom_flatMap_encodeChar (chars : List Char) :
    decodeFrom index (chars.flatMap String.utf8EncodeChar) = .ok chars := by
  induction chars generalizing index with
  | nil => rfl
  | cons c chars ih => rw [List.flatMap_cons, decodeFrom_encodeChar, ih, Except.map]

/-- The octets of a text are read as that text. -/
theorem decode_encode (text : String) : decode (encode text) = .ok text := by
  rw [decode, encode, decodeFrom_flatMap_encodeChar, Except.map, String.ofList_toList]

end SqlBuilder.Text.Utf8
