/-!
# Octets of numbers

Numbers of a fixed width as octets, the most significant first. Negative integers are in two's
complement.
-/

namespace SqlBuilder.Wire

/-- How many numbers so many octets tell apart. -/
def capacity (count : Nat) : Nat := Nat.pow 256 count

/-- The `count` low octets of a number. -/
def octetsOfNat : Nat → Nat → List UInt8
  | 0, _ => []
  | count + 1, number => UInt8.ofNat (number / capacity count) :: octetsOfNat count number

/-- The number of a list of octets. -/
def natOfOctets (octets : List UInt8) : Nat :=
  octets.foldl (fun number octet => 256 * number + octet.toNat) 0

/-- The `count` low octets of an integer. -/
def octetsOfInt (count : Nat) (number : Int) : List UInt8 :=
  octetsOfNat count (number % capacity count).toNat

/-- The integer of a list of octets, the first bit of which is the sign. -/
def intOfOctets (octets : List UInt8) : Int :=
  Int.bmod (natOfOctets octets) (capacity octets.length)

@[simp]
theorem length_octetsOfNat (count number : Nat) : (octetsOfNat count number).length = count := by
  induction count with
  | zero => rfl
  | succ count ih => simp [octetsOfNat, ih]

@[simp]
theorem length_octetsOfInt (count : Nat) (number : Int) :
    (octetsOfInt count number).length = count := by
  simp [octetsOfInt]

end SqlBuilder.Wire
