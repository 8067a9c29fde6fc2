import Mathlib.Data.Int.Basic

namespace SocketCpp.Data

/-! Integer conversions of an implementation with a 32-bit `int` that wraps and
a 64-bit `size_t`.

The two conversions are all that mixed signed and unsigned arithmetic needs: an
`int` operand is first converted to `size_t`, and a result stored in an `int` is
first wrapped. -/

def intMax : Nat := 2147483647

def sizeMax : Nat := 18446744073709551615

/-- The value an `int` holds after storing `value`. -/
def wrapInt (value : Int) : Int :=
  if value % 4294967296 ≥ 2147483648 then value % 4294967296 - 4294967296
  else value % 4294967296

def toSizeT (value : Int) : Nat :=
  (value % 18446744073709551616).toNat

theorem wrapInt_eq_self {value : Int} (lower : -2147483648 ≤ value)
    (upper : value ≤ intMax) : wrapInt value = value := by
  unfold wrapInt intMax at *
  split <;> omega

/-- A sum just above the range of `int` comes out negative. -/
theorem wrapInt_overflow {value : Int} (lower : (intMax : Int) < value)
    (upper : value < 4294967296) : wrapInt value = value - 4294967296 := by
  unfold wrapInt intMax at *
  split <;> omega

theorem toSizeT_of_nonneg {value : Int} (lower : 0 ≤ value)
    (upper : value ≤ sizeMax) : toSizeT value = value.toNat := by
  unfold toSizeT sizeMax at *
  omega

/-- A negative `int` becomes larger than every size an `int` can count. -/
theorem toSizeT_of_neg {value : Int} (lower : -2147483648 ≤ value) (upper : value < 0) :
    intMax < toSizeT value := by
  unfold toSizeT intMax
  omega

/-- The comparison `total < size`, with an `int` on the left and a `size_t` on
the right, is the mathematical one as long as `total` is not negative. -/
theorem toSizeT_lt_iff {total : Int} {size : Nat} (lower : 0 ≤ total)
    (upper : total ≤ sizeMax) : toSizeT total < size ↔ total < size := by
  rw [toSizeT_of_nonneg lower upper]
  omega

theorem toSizeT_lt_small_iff {total : Int} {size : Nat} (lower : -2147483648 ≤ total)
    (upper : total ≤ intMax) (small : size ≤ intMax) :
    toSizeT total < size ↔ 0 ≤ total ∧ total < size := by
  by_cases negative : total < 0
  · have large := toSizeT_of_neg lower negative
    omega
  · have compared := @toSizeT_lt_iff total size (by omega)
      (by simp only [intMax, sizeMax] at upper ⊢; omega)
    omega

/-- An `int` counts exactly up to a size in its range. -/
theorem counts_within {total amount : Int} {size : Nat} (fits : size ≤ intMax) (lower : 0 ≤ total)
    (some : 0 ≤ amount) (within : total + amount ≤ size) :
    wrapInt amount = amount ∧ wrapInt (total + amount) = total + amount ∧
      (toSizeT (total + amount) < size ↔ total + amount < size) := by
  have small : total + amount ≤ intMax := by omega
  refine ⟨wrapInt_eq_self (by omega) (by omega), wrapInt_eq_self (by omega) small, ?_⟩
  exact toSizeT_lt_iff (by omega) (by simp only [intMax, sizeMax] at small ⊢; omega)

theorem counts_nat_within {total amount size : Nat} (fits : size ≤ intMax)
    (within : total + amount ≤ size) :
    wrapInt amount = amount ∧ wrapInt ((total : Int) + amount) = (total + amount : Nat) ∧
      (toSizeT (total + amount : Nat) < size ↔ total + amount < size) := by
  have counted := @counts_within total amount size fits (by omega) (by omega) (by omega)
  rw [← Int.natCast_add, Int.ofNat_lt] at counted
  exact counted

theorem toSizeT_sub {total : Int} {size : Nat} (lower : 0 ≤ total)
    (upper : total ≤ size) (fits : size ≤ sizeMax) :
    toSizeT (size - total) = size - total.toNat := by
  rw [toSizeT_of_nonneg (by omega) (by omega)]
  omega

end SocketCpp.Data
