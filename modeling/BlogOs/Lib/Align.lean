import Mathlib

/-!
# Rounding up to a power of two

Allocators round addresses and sizes up to an alignment with the bit trick
`(x + a - 1) & !(a - 1)`, valid when `a` is a power of two. Here that is
`land_complement_two_pow_sub_one`: masking with the `w`-bit complement of
`2 ^ k - 1` clears the low `k` bits, so the trick computes `roundUp x a`, the
least multiple of `a` at or above `x`. The remaining lemmas are what callers
need of `roundUp`: it is a multiple of `a`, it lies in `[x, x + a)`, it is the
least such multiple, and it is `x` itself when `x` is already aligned.
-/

namespace Nat

/-- The bitwise complement `!x` of a `w`-bit unsigned value `x`. -/
def complement (w x : Nat) : Nat := 2 ^ w - 1 - x

/-- `x` rounded up to a multiple of `a`. -/
def roundUp (x a : Nat) : Nat := (x + a - 1) / a * a

theorem testBit_complement_two_pow_sub_one {w k : Nat} (hk : k ≤ w) (i : Nat) :
    (complement w (2 ^ k - 1)).testBit i = (decide (k ≤ i) && decide (i < w)) := by
  -- the complement is a block of `w - k` ones shifted up by `k`
  have h : complement w (2 ^ k - 1) = (2 ^ (w - k) - 1) * 2 ^ k := by
    have h1 : 2 ^ w = 2 ^ (w - k) * 2 ^ k := by rw [← Nat.pow_add, Nat.sub_add_cancel hk]
    have h2 : 1 ≤ 2 ^ k := Nat.one_le_two_pow
    have h3 : 1 ≤ 2 ^ (w - k) := Nat.one_le_two_pow
    simp only [complement, Nat.sub_mul, one_mul, h1]
    omega
  rw [h, Nat.testBit_mul_two_pow, Nat.testBit_two_pow_sub_one]
  by_cases hi : k ≤ i
  · simp only [hi, decide_true, Bool.true_and, decide_eq_decide]
    omega
  · simp [hi]

/-- **The mask clears the low bits**: `x & !(2^k - 1) = ⌊x / 2^k⌋ * 2^k` for `x < 2^w`. -/
theorem land_complement_two_pow_sub_one {w k x : Nat} (hk : k ≤ w) (hx : x < 2 ^ w) :
    x &&& complement w (2 ^ k - 1) = x / 2 ^ k * 2 ^ k := by
  apply Nat.eq_of_testBit_eq
  intro i
  rw [Nat.testBit_and, testBit_complement_two_pow_sub_one hk, Nat.testBit_mul_two_pow,
    Nat.testBit_div_two_pow]
  by_cases hki : k ≤ i
  · by_cases hiw : i < w
    · simp [hki, hiw, Nat.sub_add_cancel hki]
    · -- above bit `w` both sides are zero, since `x < 2^w`
      have hxi : x < 2 ^ i := lt_of_lt_of_le hx (Nat.pow_le_pow_right (by omega) (by omega))
      simp [hki, hiw, Nat.sub_add_cancel hki, Nat.testBit_lt_two_pow hxi]
  · simp [hki]

/-- Rounding up with the mask is `roundUp`, when the sum does not reach `2 ^ w`. -/
theorem land_complement_eq_roundUp {w k x : Nat} (hk : k ≤ w) (hx : x + 2 ^ k - 1 < 2 ^ w) :
    (x + 2 ^ k - 1) &&& complement w (2 ^ k - 1) = roundUp x (2 ^ k) :=
  land_complement_two_pow_sub_one hk hx

theorem dvd_roundUp (x a : Nat) : a ∣ roundUp x a := Nat.dvd_mul_left a _

theorem roundUp_spec {x a : Nat} (ha : 0 < a) : x ≤ roundUp x a ∧ roundUp x a < x + a := by
  have hd := Nat.div_add_mod (x + a - 1) a
  have hm := Nat.mod_lt (x + a - 1) ha
  unfold roundUp
  rw [Nat.mul_comm]
  generalize (x + a - 1) / a = q at *
  generalize (x + a - 1) % a = r at *
  constructor <;> omega

theorem le_roundUp {x a : Nat} (ha : 0 < a) : x ≤ roundUp x a := (roundUp_spec ha).1

theorem roundUp_lt {x a : Nat} (ha : 0 < a) : roundUp x a < x + a := (roundUp_spec ha).2

/-- Of two multiples of `a`, the one below the other plus `a` is at most it. -/
theorem le_of_dvd_of_lt_add {a x y : Nat} (hx : a ∣ x) (hy : a ∣ y) (h : x < y + a) : x ≤ y := by
  by_contra hlt
  have hd : a ∣ x - y := Nat.dvd_sub hx hy
  have : a ≤ x - y := Nat.le_of_dvd (by omega) hd
  omega

/-- `roundUp x a` is the least multiple of `a` at or above `x`. -/
theorem roundUp_le {x y a : Nat} (ha : 0 < a) (hy : a ∣ y) (h : x ≤ y) : roundUp x a ≤ y := by
  have hlt : roundUp x a < y + a := Nat.lt_of_lt_of_le (roundUp_lt ha) (by omega)
  exact le_of_dvd_of_lt_add (dvd_roundUp x a) hy hlt

theorem roundUp_of_dvd {x a : Nat} (ha : 0 < a) (h : a ∣ x) : roundUp x a = x :=
  Nat.le_antisymm (roundUp_le ha h le_rfl) (le_roundUp ha)

theorem roundUp_eq_self_iff {x a : Nat} (ha : 0 < a) : roundUp x a = x ↔ a ∣ x := by
  constructor
  · intro h
    rw [← h]
    exact dvd_roundUp x a
  · exact roundUp_of_dvd ha

/-- A positive size rounds up to at least one whole unit. -/
theorem le_roundUp_of_pos {x a : Nat} (ha : 0 < a) (hx : 0 < x) : a ≤ roundUp x a := by
  have hpos : 0 < roundUp x a := Nat.lt_of_lt_of_le hx (le_roundUp ha)
  exact Nat.le_of_dvd hpos (dvd_roundUp x a)

theorem max_two_pow (j k : Nat) : max (2 ^ j) (2 ^ k) = 2 ^ max j k := by
  rcases Nat.le_total j k with h | h
  · rw [Nat.max_eq_right h, Nat.max_eq_right (Nat.pow_le_pow_right (by omega) h)]
  · rw [Nat.max_eq_left h, Nat.max_eq_left (Nat.pow_le_pow_right (by omega) h)]

/-- Of two powers of two, the smaller divides the larger. -/
theorem two_pow_dvd_of_le {j k : Nat} (h : 2 ^ j ≤ 2 ^ k) : 2 ^ j ∣ 2 ^ k :=
  Nat.pow_dvd_pow 2 ((Nat.pow_le_pow_iff_right (by omega)).mp h)

end Nat
