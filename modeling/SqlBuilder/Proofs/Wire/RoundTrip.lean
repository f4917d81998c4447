import SqlBuilder.Proofs.Text.Utf8
import SqlBuilder.Proofs.Wire.Instant
import SqlBuilder.Proofs.Wire.Integer

/-!
# Values that come back as they were sent

A value that is sent to a column made for it is read from that column as it was. The only value that
such a column refuses is an integer outside its range.
-/

namespace SqlBuilder.Scalar

open Wire

/-- Whether a type of columns is made for a value. -/
inductive Suits : Scalar → ColumnType → Prop where
  | bool (value : Bool) : Suits (.bool value) .bool
  | int {type : ColumnType} (column : type = .int2 ∨ type = .int4 ∨ type = .int8)
      (value : Int64) : Suits (.int value) type
  | text {type : ColumnType} (column : type = .text ∨ type = .varchar) (value : String) :
      Suits (.text value) type
  | bytes (value : List UInt8) : Suits (.bytes value) .bytea
  | uuid (value : Uuid) : Suits (.uuid value) .uuid
  | timestamp {type : ColumnType} (column : type = .timestamp ∨ type = .timestamptz)
      {value : Timestamp} (exact : value.Transmissible) : Suits (.timestamp value) type

variable {type : ColumnType} {width : Nat} {octets : List UInt8}

/-! ### Integers -/

/-- An integer is sent exactly if it lies in the signed range of the column. -/
theorem exists_encode_int_iff (integer : type.integerWidth? = some width) (value : Int64) :
    (∃ octets, encode type (.int value) = .ok (some octets)) ↔
      -(capacity width : Int) ≤ 2 * value.toInt ∧ 2 * value.toInt < capacity width := by
  simp only [encode_int_eq_ok_iff integer, encodeFitting_eq_ok_iff, exists_and_left,
    exists_eq, and_true]

theorem decode_encode_int (integer : type.integerWidth? = some width) {value : Int64}
    (sent : encode type (.int value) = .ok (some octets)) :
    decode type octets = .ok (.int value) := by
  obtain ⟨⟨least, greatest⟩, rfl⟩ :=
    encodeFitting_eq_ok_iff.1 ((encode_int_eq_ok_iff integer value).1 sent)
  rw [decode_eq_decodeInt integer, decodeInt_eq_ok_iff, intOfOctets_octetsOfInt least greatest,
    Int64.ofInt_toInt]
  exact ⟨length_octetsOfInt _ _, rfl⟩

/-! ### Points in time -/

variable {time : Timestamp}

theorem encode_timestamp (exact : time.Transmissible) (type : ColumnType) :
    encode type (.timestamp time) = .ok (some (octetsOfInt 8 time.microseconds)) := by
  have fits : encodeFitting 8 time.microseconds = .ok (octetsOfInt 8 time.microseconds) :=
    encodeFitting_eq_ok_iff.2 ⟨exact.microseconds_fits, rfl⟩
  rw [encode, fits]

theorem decodeTimestamp_eq_ok (size : octets.length = 8)
    (read : Timestamp.ofMicroseconds? (intOfOctets octets) = some time) :
    decodeTimestamp octets = .ok (.timestamp time) := by
  have sized : ensureSize 8 .timestampSize octets = .ok octets := by
    rw [ensureSize, if_neg (by omega), if_neg (by omega)]
  rw [decodeTimestamp, sized]
  simp only [bind, Except.bind, read]
  rfl

theorem decodeTimestamp_octetsOfInt (exact : time.Transmissible) :
    decodeTimestamp (octetsOfInt 8 time.microseconds) = .ok (.timestamp time) := by
  obtain ⟨least, greatest⟩ := exact.microseconds_fits
  refine decodeTimestamp_eq_ok (length_octetsOfInt 8 _) ?_
  rw [intOfOctets_octetsOfInt least greatest]
  exact exact.ofMicroseconds?_microseconds

/-! ### All values -/

/-- What is no integer is sent in any case, and read as it was. -/
theorem Suits.exists_octets {value : Scalar} (suits : value.Suits type)
    (other : ∀ number, value ≠ .int number) :
    ∃ octets, encode type value = .ok (some octets) ∧ decode type octets = .ok value := by
  cases suits with
  | bool value => exact ⟨_, rfl, by cases value <;> rfl⟩
  | int column value => exact absurd rfl (other value)
  | text column value =>
      have read : (decodeText (Text.Utf8.encode value)).map Scalar.text = .ok (.text value) := by
        rw [decodeText, Text.Utf8.decode_encode]
        rfl
      rcases column with rfl | rfl
      · exact ⟨_, rfl, read⟩
      · exact ⟨_, rfl, read⟩
  | bytes value => exact ⟨_, rfl, rfl⟩
  | uuid value =>
      have read : Uuid.ofOctets? value.octets = some value := dif_pos value.length_octets
      exact ⟨_, rfl, by rw [decode, read]⟩
  | timestamp column exact =>
      refine ⟨_, encode_timestamp exact type, ?_⟩
      rcases column with rfl | rfl
      · exact decodeTimestamp_octetsOfInt exact
      · exact decodeTimestamp_octetsOfInt exact

theorem Suits.decode_encode {value : Scalar} (suits : value.Suits type)
    (sent : encode type value = .ok (some octets)) : decode type octets = .ok value := by
  -- Only an integer can be refused, so only for it the octets that were sent are needed.
  by_cases other : ∀ number, value ≠ .int number
  · obtain ⟨written, same, read⟩ := suits.exists_octets other
    rw [sent] at same
    cases same
    exact read
  · push Not at other
    obtain ⟨number, rfl⟩ := other
    cases suits with
    | int column _ =>
        rcases column with rfl | rfl | rfl
        · exact decode_encode_int rfl sent
        · exact decode_encode_int rfl sent
        · exact decode_encode_int rfl sent

/--
An integer is sent to a column of two or four octets exactly if it lies in the range of the column,
and always to one of eight. Any other value is always sent to a column made for it. Whatever is sent
to a column made for it is read as it was.
-/
theorem encode_reads_back :
    (∀ number : Int64,
      ((∃ octets, encode .int2 (.int number) = .ok (some octets)) ↔
        -2 ^ 15 ≤ number.toInt ∧ number.toInt < 2 ^ 15) ∧
      ((∃ octets, encode .int4 (.int number) = .ok (some octets)) ↔
        -2 ^ 31 ≤ number.toInt ∧ number.toInt < 2 ^ 31) ∧
      ∃ octets, encode .int8 (.int number) = .ok (some octets)) ∧
    ∀ {value : Scalar} {type : ColumnType}, value.Suits type →
      ((∀ number, value ≠ .int number) → ∃ octets, encode type value = .ok (some octets)) ∧
      ∀ octets, encode type value = .ok (some octets) → decode type octets = .ok value := by
  refine ⟨fun number => ⟨?_, ?_, ?_⟩, fun suits => ⟨fun other => ?_, fun octets sent => ?_⟩⟩
  · have size : capacity 2 = 2 * 2 ^ 15 := by decide
    rw [exists_encode_int_iff rfl, size]
    omega
  · have size : capacity 4 = 2 * 2 ^ 31 := by decide
    rw [exists_encode_int_iff rfl, size]
    omega
  · have size : capacity 8 = 2 * 2 ^ 63 := by decide
    have least := number.le_toInt
    have greatest := number.toInt_lt
    rw [exists_encode_int_iff rfl, size]
    omega
  · obtain ⟨octets, sent, -⟩ := suits.exists_octets other
    exact ⟨octets, sent⟩
  · exact suits.decode_encode sent

/-- The last microsecond of the year 1969 is sent as a negative number, and read as it was. -/
theorem encode_reads_back_early :
    let time : CivilTime := ⟨1969, 12, 31, 23, 59, 59, 999999000⟩
    let octets : List UInt8 := [0xff, 0xfc, 0xa2, 0xfe, 0xc4, 0xc8, 0x1f, 0xff]
    ∃ early, time.toTimestamp? = some early ∧ (Scalar.timestamp early).Suits .timestamptz ∧
      encode .timestamptz (.timestamp early) = .ok (some octets) ∧
      decode .timestamptz octets = .ok (.timestamp early) := by
  intro time octets
  have made : time.toTimestamp? = some ⟨-10958, 86399, 999999000, by decide, by decide⟩ := by decide
  have suits : (Scalar.timestamp _).Suits .timestamptz :=
    .timestamp (.inr rfl) ⟨CivilTime.inCalendar_of_toTimestamp? made, by decide, by decide⟩
  refine ⟨_, made, suits, ?_⟩
  have sent : encode .timestamptz (.timestamp _) = .ok (some octets) :=
    encode_timestamp ⟨CivilTime.inCalendar_of_toTimestamp? made, by decide, by decide⟩ _
  exact ⟨sent, (encode_reads_back.2 suits).2 octets sent⟩

end SqlBuilder.Scalar
