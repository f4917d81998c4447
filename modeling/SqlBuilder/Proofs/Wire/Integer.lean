import SqlBuilder.Proofs.Wire.Octets
import SqlBuilder.Wire.Value

/-!
# Values in integer columns

Nothing but the number of octets tells a column of integers what was sent to it. An integer that is
sent comes back as it was. Truth values and identifiers are refused, since no integer has their
size. Any other value has one binary form whatever the column, and where that form has the size of
the column, it is taken for an integer: a floating-point number or a point in time has eight octets,
and a text, a document or a string of octets has as many as it likes.
-/

namespace SqlBuilder

open Wire

/-- The number of octets in a column of integers. -/
def Wire.ColumnType.integerWidth? : ColumnType → Option Nat
  | .int2 => some 2
  | .int4 => some 4
  | .int8 => some 8
  | _ => none

namespace Scalar

/-- Whether a value other than an integer has a binary form, of so many octets. -/
def Fills (width : Nat) (octets : List UInt8) : Scalar → Prop
  | .float value => octets = octetsOfNat 8 value.bits.toNat ∧ width = 8
  | .timestamp value => encodeFitting 8 value.microseconds = .ok octets ∧ width = 8
  | .text value => octets = Text.Utf8.encode value ∧ octets.length = width
  | .bytes value => octets = value ∧ octets.length = width
  | .json value => octets = Text.Utf8.encode value.compact ∧ octets.length = width
  | _ => False

variable {type : ColumnType} {width : Nat} {octets : List UInt8}

theorem decode_eq_decodeInt (integer : type.integerWidth? = some width) (octets : List UInt8) :
    decode type octets = decodeInt width octets := by
  cases type with
  | int2 | int4 | int8 =>
      cases integer
      rfl
  | _ => cases integer

theorem width_of_integerWidth? (integer : type.integerWidth? = some width) :
    width = 2 ∨ width = 4 ∨ width = 8 := by
  cases type with
  | int2 | int4 | int8 =>
      cases integer
      decide
  | _ => cases integer

/-- Octets of the size of a column are an integer, and no others are. -/
theorem decodeInt_eq_ok_iff {decoded : Scalar} :
    decodeInt width octets = .ok decoded ↔
      octets.length = width ∧ decoded = .int (Int64.ofInt (intOfOctets octets)) := by
  unfold decodeInt ensureSize
  split
  case isTrue short => simpa [bind, Except.bind] using fun same => absurd same (by omega)
  case isFalse =>
    split
    case isTrue long => simpa [bind, Except.bind] using fun same => absurd same (by omega)
    case isFalse =>
      have same : octets.length = width := by omega
      simpa [bind, Except.bind, pure, Except.pure, same] using eq_comm

/-- At most eight octets fit into sixty-four bits. -/
theorem toInt_ofInt_intOfOctets (short : octets.length ≤ 8) :
    (Int64.ofInt (intOfOctets octets)).toInt = intOfOctets octets := by
  have range := intOfOctets_range octets
  have room : capacity octets.length ≤ 2 ^ 64 := by
    rw [capacity_eq]
    exact Nat.pow_le_pow_right (by decide) short
  rw [Int64.toInt_ofInt]
  exact Int.bmod_eq_of_le_mul_two (by simp; omega) (by simp; omega)

/-- An integer is sent in the size of the column, if it fits. -/
theorem encodeInt_eq_ok_iff (integer : type.integerWidth? = some width) (value : Int64) :
    encodeInt value type = .ok octets ↔ encodeFitting width value.toInt = .ok octets := by
  cases type with
  | int2 | int4 =>
      cases integer
      rfl
  | int8 =>
      cases integer
      have fits : -(capacity 8 : Int) ≤ 2 * value.toInt ∧ 2 * value.toInt < capacity 8 := by
        have least := value.le_toInt
        have greatest := value.toInt_lt
        have size : capacity 8 = 2 ^ 64 := by decide
        omega
      rw [encodeFitting, if_pos fits]
      rfl
  | _ => cases integer

theorem encodeFitting_eq_ok_iff {number : Int} :
    encodeFitting width number = .ok octets ↔
      (-(capacity width : Int) ≤ 2 * number ∧ 2 * number < capacity width) ∧
        octets = octetsOfInt width number := by
  unfold encodeFitting
  split <;> simp_all [eq_comm]

/-- An integer that fits is sent in the size of the column. -/
theorem encode_int_eq_ok_iff (integer : type.integerWidth? = some width) (value : Int64) :
    encode type (.int value) = .ok (some octets) ↔
      encodeFitting width value.toInt = .ok octets := by
  rw [← encodeInt_eq_ok_iff integer]
  cases encoded : encodeInt value type <;> simp [encode, encoded, Except.map]

/-- What else is sent in the size of a column of integers fills it. -/
theorem encode_eq_ok_iff_fills (integer : type.integerWidth? = some width) {value : Scalar}
    (other : ∀ number, value ≠ .int number) :
    encode type value = .ok (some octets) ∧ octets.length = width ↔ value.Fills width octets := by
  have sizes := width_of_integerWidth? integer
  cases value with
  | int number => exact absurd rfl (other number)
  | null => simp [encode, Fills]
  | bool value =>
      simp only [encode, Except.ok.injEq, Option.some.injEq, Fills, iff_false]
      rintro ⟨rfl, length⟩
      rw [List.length_singleton] at length
      omega
  | uuid value =>
      simp only [encode, Except.ok.injEq, Option.some.injEq, Fills, iff_false]
      rintro ⟨rfl, length⟩
      have sixteen := value.length_octets
      omega
  | text value | bytes value =>
      simp only [encode, Except.ok.injEq, Option.some.injEq, Fills, eq_comm (a := octets)]
  | float value =>
      have sent : encode type (.float value) = .ok (some (octetsOfNat 8 value.bits.toNat)) := by
        cases type with
        | int2 | int4 | int8 => rfl
        | _ => cases integer
      simp only [sent, Except.ok.injEq, Option.some.injEq, Fills]
      constructor
      · rintro ⟨rfl, length⟩
        exact ⟨rfl, length.symm.trans (length_octetsOfNat 8 _)⟩
      · rintro ⟨rfl, rfl⟩
        exact ⟨rfl, length_octetsOfNat 8 _⟩
  | timestamp value =>
      have sent : encode type (.timestamp value) = .ok (some octets) ↔
          encodeFitting 8 value.microseconds = .ok octets := by
        cases fits : encodeFitting 8 value.microseconds <;> simp [encode, fits]
      have size : encodeFitting 8 value.microseconds = .ok octets → octets.length = 8 := by
        intro fits
        rw [(encodeFitting_eq_ok_iff.1 fits).2, length_octetsOfInt]
      rw [sent, Fills]
      constructor
      · exact fun ⟨fits, length⟩ => ⟨fits, length.symm.trans (size fits)⟩
      · exact fun ⟨fits, eight⟩ => ⟨fits, (size fits).trans eight.symm⟩
  | json value =>
      have document : type ≠ .jsonb := by
        rintro rfl
        cases integer
      simp only [encode, if_neg document, Except.ok.injEq, Option.some.injEq, Fills,
        eq_comm (a := octets)]

/--
What comes back from a column of integers is an integer, the one that its octets stand for. It is
the value that was sent, or that value is none and has a binary form that happens to have the size
of the column.
-/
theorem decode_encode_integer_iff (integer : type.integerWidth? = some width)
    {value decoded : Scalar} :
    encode type value = .ok (some octets) ∧ decode type octets = .ok decoded ↔
      ∃ number : Int64, decoded = .int number ∧ number.toInt = intOfOctets octets ∧
        (value = .int number ∧ octets = octetsOfInt width number.toInt ∨
          value.Fills width octets) := by
  have sizes := width_of_integerWidth? integer
  rw [decode_eq_decodeInt integer, decodeInt_eq_ok_iff]
  constructor
  · rintro ⟨sent, length, rfl⟩
    refine ⟨Int64.ofInt (intOfOctets octets), rfl, toInt_ofInt_intOfOctets (by omega), ?_⟩
    -- Only integers are held to the range of the column; other values need just its size.
    by_cases other : ∀ number, value ≠ .int number
    · exact .inr ((encode_eq_ok_iff_fills integer other).1 ⟨sent, length⟩)
    · push Not at other
      obtain ⟨number, rfl⟩ := other
      obtain ⟨⟨least, greatest⟩, written⟩ :=
        encodeFitting_eq_ok_iff.1 ((encode_int_eq_ok_iff integer number).1 sent)
      have same : Int64.ofInt (intOfOctets octets) = number := by
        rw [written, intOfOctets_octetsOfInt least greatest, Int64.ofInt_toInt]
      rw [same]
      exact .inl ⟨rfl, written⟩
  · rintro ⟨number, rfl, read, whole | fills⟩
    · obtain ⟨rfl, written⟩ := whole
      have length : octets.length = width := by rw [written, length_octetsOfInt]
      have range := intOfOctets_range octets
      rw [← read, length] at range
      refine ⟨(encode_int_eq_ok_iff integer number).2
        (encodeFitting_eq_ok_iff.2 ⟨range, written⟩), length, ?_⟩
      rw [← read, Int64.ofInt_toInt]
    · have other : ∀ number, value ≠ .int number := by
        rintro number rfl
        exact fills
      obtain ⟨sent, length⟩ := (encode_eq_ok_iff_fills integer other).2 fills
      refine ⟨sent, length, ?_⟩
      rw [← read, Int64.ofInt_toInt]

/-- The least integer of two octets comes back as it was; a year as text of four octets does not. -/
theorem decode_encode_integer_iff_least :
    (ColumnType.int2.integerWidth? = some 2 ∧
      encode .int2 (.int (-32768)) = .ok (some [0x80, 0x00]) ∧
      decode .int2 [0x80, 0x00] = .ok (.int (-32768))) ∧
    ColumnType.int4.integerWidth? = some 4 ∧
      encode .int4 (.text "2024") = .ok (some [0x32, 0x30, 0x32, 0x34]) ∧
      decode .int4 [0x32, 0x30, 0x32, 0x34] = .ok (.int 842019380) := by
  have least : (-32768 : Int64).toInt = intOfOctets [0x80, 0x00] := by decide
  have year : (842019380 : Int64).toInt = intOfOctets [0x32, 0x30, 0x32, 0x34] := by decide
  have fills : (Scalar.text "2024").Fills 4 [0x32, 0x30, 0x32, 0x34] := ⟨by decide, rfl⟩
  exact ⟨⟨rfl, (decode_encode_integer_iff rfl).2 ⟨_, rfl, least, .inl ⟨rfl, by decide⟩⟩⟩,
    rfl, (decode_encode_integer_iff rfl).2 ⟨_, rfl, year, .inr fills⟩⟩

/-- A text of four octets is taken for a number in a column of integers of that size. -/
theorem encode_text_decode_int :
    ¬∀ type ∈ [ColumnType.int2, .int4, .int8], ∀ (value decoded : Scalar) (octets : List UInt8),
      encode type value = .ok (some octets) → decode type octets = .ok decoded →
        ∃ number, decoded = .int number ∧ value = .int number := by
  intro kept
  have sent : encode .int4 (.text "2024") = .ok (some [0x32, 0x30, 0x32, 0x34]) :=
    congrArg (Except.ok ∘ some) (by decide)
  have read : decode .int4 [0x32, 0x30, 0x32, 0x34] = .ok (.int 842019380) :=
    decodeInt_eq_ok_iff.2 ⟨rfl, congrArg Scalar.int (by decide)⟩
  obtain ⟨number, -, same⟩ := kept .int4 (by decide) _ _ _ sent read
  cases same

end Scalar

end SqlBuilder
