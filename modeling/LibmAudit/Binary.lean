/-
**Binary digits of integers.**

* `bitLength`: how many binary digits a natural number has.
* `bitmask`, `lowBits`, `bitAt`: masks and fields of an integer read in two's complement, so that a
  negative integer has infinitely many leading ones.
* `hexText`: the signed hexadecimal text of an integer.
* `storageLimit`: the length from which on an integer is taken not to be stored.
-/

namespace LibmAudit

-- Powers are the built-in ones, whatever else is imported.
attribute [local instance (high)] instPowNat

/-- The number of binary digits; zero has none. -/
def bitLength (n : Nat) : Nat :=
  if n = 0 then 0 else n.log2 + 1

/-- `count` ones for a nonnegative count, all ones but the lowest `-count` for a negative one. -/
def bitmask (count : Int) : Int :=
  if 0 ≤ count then ((2 ^ count.toNat : Nat) : Int) - 1 else -((2 ^ (-count).toNat : Nat) : Int)

/-- Whether a power of two with this exponent has more digits of 30 bits than can be counted. -/
def isBeyondCounting (exponent : Nat) : Bool :=
  2305843009213693945 < exponent / 30 + (if exponent % 30 = 0 then 0 else 1) + 1

/-- How many binary digits are too many to be stored: those of 64 GiB. This is an assumption about the
machine, which is taken to store all integers that are shorter, and none that is as long as this. -/
def storageLimit : Nat := 2 ^ (39 : Nat)

/-- Whether a power of two with this exponent is longer than the memory. -/
def isBeyondMemory (exponent : Nat) : Bool := storageLimit ≤ exponent

/-- The lowest `count` binary digits of an integer in two's complement. -/
def lowBits (count : Nat) (i : Int) : Nat :=
  (i % ((2 ^ count : Nat) : Int)).toNat

/-- The integer without its lowest `count` binary digits, rounded to the floor. -/
def dropBits (count : Nat) (i : Int) : Int :=
  i / ((2 ^ count : Nat) : Int)

/-- The binary digit of weight `2 ^ position`. -/
def bitAt (position : Nat) (i : Int) : Bool :=
  dropBits position i % 2 = 1

/-- Hexadecimal digits in lower case, without padding. -/
def hexDigits (n : Nat) : String :=
  String.ofList (Nat.toDigits 16 n)

/-- Hexadecimal text with its `0x`, after a minus sign for a negative integer. -/
def hexText (i : Int) : String :=
  if i < 0 then "-0x" ++ hexDigits i.natAbs else "0x" ++ hexDigits i.natAbs

/-- A text padded on the left with zeros to at least `width` characters. -/
def padZeros (width : Nat) (digits : String) : String :=
  String.ofList (List.replicate (width - digits.length) '0') ++ digits

theorem storageLimit_eq : storageLimit = 549755813888 := by decide

theorem bitLength_zero : bitLength 0 = 0 := rfl

theorem lt_two_pow_bitLength (n : Nat) : n < 2 ^ bitLength n := by
  unfold bitLength
  split
  · next zero => simp [zero]
  · exact Nat.lt_log2_self

theorem two_pow_le_of_bitLength {n : Nat} (positive : n ≠ 0) : 2 ^ (bitLength n - 1) ≤ n := by
  simp only [bitLength, positive, if_false, Nat.add_sub_cancel]
  exact Nat.log2_self_le positive

theorem bitLength_le_iff {n width : Nat} : bitLength n ≤ width ↔ n < 2 ^ width := by
  unfold bitLength
  split
  · next zero =>
    rw [zero]
    exact iff_of_true (Nat.zero_le _) (Nat.two_pow_pos _)
  · next positive => exact Nat.log2_lt positive

theorem lt_bitLength_iff {n width : Nat} : width < bitLength n ↔ 2 ^ width ≤ n := by
  rw [← Nat.not_le, bitLength_le_iff, Nat.not_lt]

theorem bitLength_pos {n : Nat} (positive : n ≠ 0) : 0 < bitLength n := by
  rw [lt_bitLength_iff]
  exact Nat.pos_of_ne_zero positive

theorem bitLength_mul_two_pow {n : Nat} (positive : n ≠ 0) (count : Nat) :
    bitLength (n * 2 ^ count) = bitLength n + count := by
  have below := Nat.mul_lt_mul_of_pos_right (lt_two_pow_bitLength n) (Nat.two_pow_pos count)
  have above := Nat.mul_le_mul_right (2 ^ count) (two_pow_le_of_bitLength positive)
  have length := bitLength_pos positive
  rw [← Nat.pow_add] at below above
  refine Nat.le_antisymm (bitLength_le_iff.mpr below) ?_
  have := lt_bitLength_iff.mpr above
  omega

end LibmAudit
