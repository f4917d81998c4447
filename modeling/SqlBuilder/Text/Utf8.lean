/-!
# UTF-8

Octets as text. Decoding refuses at the first sequence that is no character and tells where it
starts: a sequence that the end of the octets cuts short is incomplete, any other is invalid with
the number of octets that could not be read on.

A text is cut by octets, but only at a boundary between characters: from the limit the search goes
back until it meets one.
-/

namespace SqlBuilder.Text.Utf8

/-- Why octets are not text. -/
inductive DecodeError where
  | invalid (octets index : Nat)
  | incomplete (index : Nat)
  deriving DecidableEq, Repr

/-- The error in words. -/
def DecodeError.message : DecodeError → String
  | .invalid octets index =>
    s!"invalid utf-8 sequence of {octets} bytes from index {index}"
  | .incomplete index => s!"incomplete utf-8 byte sequence from index {index}"

/-- The octets of a text. -/
def encode (text : String) : List UInt8 :=
  text.toList.flatMap String.utf8EncodeChar

/-- How many octets follow the first one of a character, and the range of the second. -/
def following? (first : Nat) : Option (Nat × Nat × Nat) :=
  if 0xC2 ≤ first ∧ first ≤ 0xDF then some (1, 0x80, 0xBF)
  else if first = 0xE0 then some (2, 0xA0, 0xBF)
  else if first = 0xED then some (2, 0x80, 0x9F)
  else if 0xE1 ≤ first ∧ first ≤ 0xEF then some (2, 0x80, 0xBF)
  else if first = 0xF0 then some (3, 0x90, 0xBF)
  else if 0xF1 ≤ first ∧ first ≤ 0xF3 then some (3, 0x80, 0xBF)
  else if first = 0xF4 then some (3, 0x80, 0x8F)
  else none

/-- Six more bits of a character's number. -/
def extend (code octet : Nat) : Nat := code * 64 + octet % 64

/-- The characters of a list of octets, the first of which stands at `index`. -/
def decodeFrom (index : Nat) : List UInt8 → Except DecodeError (List Char)
  | [] => .ok []
  | first :: rest =>
    let first := first.toNat
    if first < 0x80 then (decodeFrom (index + 1) rest).map (Char.ofNat first :: ·)
    else
      match following? first, rest with
      | none, _ => .error (.invalid 1 index)
      | some _, [] => .error (.incomplete index)
      | some (count, least, greatest), second :: rest =>
        if second.toNat < least ∨ greatest < second.toNat then .error (.invalid 1 index)
        else if count = 1 then
          (decodeFrom (index + 2) rest).map
            (Char.ofNat (extend (first % 32) second.toNat) :: ·)
        else
          match rest with
          | [] => .error (.incomplete index)
          | third :: rest =>
            if third.toNat / 64 ≠ 2 then .error (.invalid 2 index)
            else if count = 2 then
              (decodeFrom (index + 3) rest).map
                (Char.ofNat (extend (extend (first % 16) second.toNat) third.toNat) :: ·)
            else
              match rest with
              | [] => .error (.incomplete index)
              | fourth :: rest =>
                if fourth.toNat / 64 ≠ 2 then .error (.invalid 3 index)
                else
                  (decodeFrom (index + 4) rest).map
                    (Char.ofNat (extend (extend (extend (first % 8) second.toNat) third.toNat)
                      fourth.toNat) :: ·)

/-- The text of a list of octets. -/
def decode (octets : List UInt8) : Except DecodeError String :=
  (decodeFrom 0 octets).map String.ofList

/-! ### Cutting a text -/

/-- Whether an octet goes on with a character that an earlier octet starts. -/
def continues (octet : UInt8) : Bool := octet.toNat / 64 == 2

/-- Whether a character starts at an index, or the text ends there. -/
def isBoundary (octets : List UInt8) (index : Nat) : Bool :=
  index == 0 ||
    match octets[index]? with
    | some octet => !continues octet
    | none => index == octets.length

/-- The last boundary that is not behind an index. -/
def lastBoundary (octets : List UInt8) : Nat → Nat
  | 0 => 0
  | index + 1 =>
    if isBoundary octets (index + 1) then index + 1 else lastBoundary octets index

/-- The characters up to an index of the octets. There are none if the index lies inside of a
character or behind the text. -/
def slice? : Nat → List Char → Option (List Char)
  | 0, _ => some []
  | _ + 1, [] => none
  | index + 1, c :: rest =>
    if c.utf8Size ≤ index + 1 then (slice? (index + 1 - c.utf8Size) rest).map (c :: ·) else none

theorem isBoundary_lastBoundary (octets : List UInt8) (index : Nat) :
    isBoundary octets (lastBoundary octets index) = true := by
  induction index with
  | zero => rfl
  | succ index ih =>
    unfold lastBoundary
    split
    · assumption
    · exact ih

/-- All octets of a character but the first go on with it. -/
theorem continues_of_getElem? {c : Char} {index : Nat} {octet : UInt8}
    (found : (String.utf8EncodeChar c)[index + 1]? = some octet) : continues octet = true := by
  have inner : octet ∈ (String.utf8EncodeChar c).tail := by
    rw [← List.getElem?_tail] at found
    exact List.mem_of_getElem? found
  have tail (number : Nat) : continues (UInt8.ofNat (number % 64 + 128)) = true := by
    have small : (number % 64 + 128) % 256 / 64 = 2 := by omega
    simp [continues, small]
  unfold String.utf8EncodeChar at inner
  dsimp only at inner
  split at inner
  · simp at inner
  · split at inner
    · simp_all
    · split at inner
      · simp only [List.tail_cons, List.mem_cons, List.not_mem_nil, or_false] at inner
        rcases inner with rfl | rfl <;> exact tail _
      · simp only [List.tail_cons, List.mem_cons, List.not_mem_nil, or_false] at inner
        rcases inner with rfl | rfl | rfl <;> exact tail _

/-- Behind a character the boundaries are those of the octets that follow it. -/
theorem isBoundary_of_append {c : Char} {octets : List UInt8} {index : Nat}
    (boundary : isBoundary (String.utf8EncodeChar c ++ octets) (c.utf8Size + index) = true) :
    isBoundary octets index = true := by
  have size := String.length_utf8EncodeChar c
  have behind : (String.utf8EncodeChar c ++ octets)[c.utf8Size + index]? = octets[index]? := by
    rw [List.getElem?_append_right (by omega), size, Nat.add_sub_cancel_left]
  have positive : c.utf8Size ≠ 0 := Nat.pos_iff_ne_zero.1 c.utf8Size_pos
  unfold isBoundary at boundary ⊢
  rw [behind, List.length_append, size] at boundary
  cases found : octets[index]? with
  | none => simp_all
  | some octet => simp_all

/-- A text can be cut at its boundaries. -/
theorem isSome_slice? {chars : List Char} {index : Nat}
    (boundary : isBoundary (chars.flatMap String.utf8EncodeChar) index = true) :
    (slice? index chars).isSome = true := by
  induction chars generalizing index with
  | nil =>
    cases index with
    | zero => rfl
    | succ index => simp [isBoundary] at boundary
  | cons c rest ih =>
    cases index with
    | zero => rfl
    | succ index =>
      rw [List.flatMap_cons] at boundary
      unfold slice?
      split
      case isTrue fits =>
        rw [Option.isSome_map]
        apply ih
        apply isBoundary_of_append (c := c)
        rwa [Nat.add_sub_cancel' fits]
      case isFalse inside =>
        have size := String.length_utf8EncodeChar c
        have within : index + 1 < (String.utf8EncodeChar c).length := by omega
        have octet := continues_of_getElem? (List.getElem?_eq_getElem within)
        unfold isBoundary at boundary
        rw [List.getElem?_append_left within, List.getElem?_eq_getElem within] at boundary
        simp [octet] at boundary

/-- A text up to the last boundary within the limit; the whole text if it is within the limit. -/
def truncate (limit : Nat) (text : String) : String :=
  if text.utf8ByteSize ≤ limit then text
  else
    let index := lastBoundary (encode text) limit
    String.ofList ((slice? index text.toList).get
      (isSome_slice? (isBoundary_lastBoundary (encode text) limit)))

end SqlBuilder.Text.Utf8
