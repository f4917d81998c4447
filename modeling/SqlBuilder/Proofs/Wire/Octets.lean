import Mathlib.Algebra.Order.Ring.Int
import SqlBuilder.Wire.Octets

/-!
# Octets and the numbers that they stand for

So many octets are read as the number that was written, as far as it fits: numbers by their
remainder, integers as they are if they lie in the signed range.
-/

namespace SqlBuilder.Wire

theorem capacity_eq (count : Nat) : capacity count = 256 ^ count := Nat.pow_eq

theorem capacity_pos (count : Nat) : 0 < capacity count := by
  rw [capacity_eq]
  exact Nat.pow_pos (by decide)

theorem capacity_succ (count : Nat) : capacity (count + 1) = capacity count * 256 := by
  rw [capacity_eq, capacity_eq, Nat.pow_succ]

/-- A first octet counts as often as the octets behind it tell numbers apart. -/
theorem natOfOctets_cons (octet : UInt8) (octets : List UInt8) :
    natOfOctets (octet :: octets) = octet.toNat * capacity octets.length + natOfOctets octets := by
  have start (number : Nat) : octets.foldl (fun number octet => 256 * number + octet.toNat) number =
      number * capacity octets.length + natOfOctets octets := by
    induction octets generalizing number with
    | nil => simp [natOfOctets, capacity]
    | cons first rest ih =>
        have head := ih first.toNat
        rw [natOfOctets, List.foldl_cons, List.foldl_cons, ih, List.length_cons, capacity_succ,
          Nat.mul_zero, Nat.zero_add, head]
        grind
  have zero : 256 * 0 + octet.toNat = octet.toNat := by omega
  rw [natOfOctets, List.foldl_cons, zero, start]

/-- So many octets hold the remainder of a number. -/
theorem natOfOctets_octetsOfNat (count number : Nat) :
    natOfOctets (octetsOfNat count number) = number % capacity count := by
  induction count with
  | zero => simp [octetsOfNat, natOfOctets, capacity, Nat.mod_one]
  | succ count ih =>
      have byte : (UInt8.ofNat (number / capacity count)).toNat = number / capacity count % 256 :=
        UInt8.toNat_ofNat'
      rw [octetsOfNat, natOfOctets_cons, length_octetsOfNat, ih, byte, capacity_succ, Nat.mod_mul]
      grind

/-- An integer that fits is read as it was written. -/
theorem intOfOctets_octetsOfInt {count : Nat} {number : Int}
    (least : -(capacity count : Int) ≤ 2 * number) (greatest : 2 * number < capacity count) :
    intOfOctets (octetsOfInt count number) = number := by
  have positive : (0 : Int) < capacity count := by exact_mod_cast capacity_pos count
  have remainder : ((number % capacity count).toNat : Int) = number % capacity count :=
    Int.toNat_of_nonneg (Int.emod_nonneg _ positive.ne')
  have small : natOfOctets (octetsOfInt count number) = (number % capacity count).toNat := by
    rw [octetsOfInt, natOfOctets_octetsOfNat]
    exact Nat.mod_eq_of_lt (by
      have := Int.emod_lt_of_pos number positive
      omega)
  rw [intOfOctets, length_octetsOfInt, small, remainder, Int.emod_bmod]
  exact Int.bmod_eq_of_le_mul_two (by omega) (by omega)

/-- Integers that are read lie in the signed range of their octets. -/
theorem intOfOctets_range (octets : List UInt8) :
    -(capacity octets.length : Int) ≤ 2 * intOfOctets octets ∧
      2 * intOfOctets octets < capacity octets.length := by
  have positive := capacity_pos octets.length
  have least := Int.le_bmod (x := natOfOctets octets) positive
  have greatest := Int.bmod_lt (x := natOfOctets octets) positive
  unfold intOfOctets
  omega

end SqlBuilder.Wire
