import Mathlib.Data.List.Basic
import Mathlib.Data.Nat.Bitwise

/-! # Fields of machine words

`fields` cuts a number into fields of given widths, the lowest first; `eq_of_fields` says that fields
which fill a word determine it.  `flag` and `octet` are the two kinds of field that code reads with a
mask, and `toNat_or_shift` says what writing fields side by side computes.
-/

namespace Bits

def fields : List Nat → Nat → List Nat
  | [], _ => []
  | width :: widths, number => number % 2 ^ width :: fields widths (number / 2 ^ width)

theorem mod_eq_of_fields {widths : List Nat} {number number' : Nat}
    (same : fields widths number = fields widths number') :
    number % 2 ^ widths.sum = number' % 2 ^ widths.sum := by
  induction widths generalizing number number' with
  | nil => simp [Nat.mod_one]
  | cons width widths ih =>
    simp only [fields, List.cons.injEq] at same
    rw [List.sum_cons, Nat.pow_add, Nat.mod_mul, Nat.mod_mul, same.1, ih same.2]

/-- Fields that leave no bit of a word out determine it. -/
theorem eq_of_fields {widths : List Nat} {word word' : UInt64} (whole : widths.sum = 64)
    (same : fields widths word.toNat = fields widths word'.toNat) : word = word' := by
  have rest := mod_eq_of_fields same
  rw [whole, Nat.mod_eq_of_lt word.toNat_lt, Nat.mod_eq_of_lt word'.toNat_lt] at rest
  exact UInt64.toNat_inj.mp rest

/-! ## Flags and octets -/

/-- `(word & (1 << place)) != 0` -/
def flag (word place : UInt64) : Bool := word &&& (1 <<< place) ≠ 0

/-- `((word >> place) & 0xFF) as u8` -/
def octet (word place : UInt64) : UInt8 := ((word >>> place) &&& 0xFF).toUInt8

theorem toNat_flag (word : UInt64) {place : UInt64} (inside : place.toNat < 64) :
    (flag word place).toNat = word.toNat / 2 ^ place.toNat % 2 := by
  have mask : (1 <<< place : UInt64).toNat = 2 ^ place.toNat := by
    have small : 2 ^ place.toNat < 2 ^ 64 := Nat.pow_lt_pow_right (by omega) inside
    rw [UInt64.toNat_shiftLeft, Nat.mod_eq_of_lt inside, Nat.shiftLeft_eq]
    exact (congrArg (· % 2 ^ 64) (Nat.one_mul _)).trans (Nat.mod_eq_of_lt small)
  have bit : (word &&& (1 <<< place)).toNat = (word.toNat.testBit place.toNat).toNat * 2 ^ place.toNat := by
    rw [UInt64.toNat_and, mask, Nat.and_two_pow]
  have read : word.toNat / 2 ^ place.toNat % 2 = (word.toNat.testBit place.toNat).toNat := by
    rw [Nat.testBit_eq_decide_div_mod_eq]
    rcases Nat.mod_two_eq_zero_or_one (word.toNat / 2 ^ place.toNat) with low | high
    · simp [low]
    · simp [high]
  rw [read]
  simp only [flag, ne_eq, ← UInt64.toNat_inj, bit]
  cases word.toNat.testBit place.toNat <;> simp

theorem toNat_octet (word : UInt64) {place : UInt64} (inside : place.toNat < 64) :
    (octet word place).toNat = word.toNat / 2 ^ place.toNat % 2 ^ 8 := by
  have mask : (0xFF : UInt64).toNat = 2 ^ 8 - 1 := rfl
  rw [octet, UInt64.toNat_toUInt8, UInt64.toNat_and, UInt64.toNat_shiftRight, Nat.mod_eq_of_lt inside, mask,
    Nat.and_two_pow_sub_one_eq_mod, Nat.shiftRight_eq_div_pow, Nat.mod_mod]

/-- A field that fits above another one is added. -/
theorem toNat_or_shift {low high place : UInt64} (inside : place.toNat < 64)
    (below : low.toNat < 2 ^ place.toNat) (fits : high.toNat * 2 ^ place.toNat < 2 ^ 64) :
    (low ||| high <<< place).toNat = low.toNat + high.toNat * 2 ^ place.toNat := by
  rw [UInt64.toNat_or, UInt64.toNat_shiftLeft, Nat.mod_eq_of_lt inside, Nat.shiftLeft_eq,
    Nat.mod_eq_of_lt fits, Nat.or_comm, Nat.mul_comm, ← Nat.two_pow_add_eq_or_of_lt below, Nat.add_comm]

end Bits
