import Mathlib.Tactic.Positivity
import Mathlib.Order.Defs.LinearOrder

/-!
# Rounding to 53 binary places

A number from zero on is given by its *code*, the whole number that its bits are, and has a
*value*, counted in units of the least positive number.

* `round`: the code of the number nearest to a value.
* `round_value`: the value of a code rounds to the code.
* `round_mono`, `value_mono`: both keep the order.
-/

namespace PhoneticSearch
namespace Binary64

/-- `n` in units of `2 ^ s`, rounded to the nearest; a half goes to the even neighbour. -/
def nearest (n s : Nat) : Nat :=
  let rest := n % 2 ^ s
  if 2 * rest < 2 ^ s then n / 2 ^ s
  else if 2 * rest = 2 ^ s then n / 2 ^ s + n / 2 ^ s % 2
  else n / 2 ^ s + 1

theorem le_nearest (n s : Nat) : n / 2 ^ s ≤ nearest n s := by
  unfold nearest
  grind

theorem nearest_le (n s : Nat) : nearest n s ≤ n / 2 ^ s + 1 := by
  unfold nearest
  grind

@[simp] theorem nearest_zero (n : Nat) : nearest n 0 = n := by
  simp [nearest, Nat.mod_one]

theorem nearest_mono {n n' : Nat} (s : Nat) (h : n ≤ n') : nearest n s ≤ nearest n' s := by
  have hq : n / 2 ^ s ≤ n' / 2 ^ s := Nat.div_le_div_right h
  rcases hq.lt_or_eq with hlt | heq
  · calc nearest n s ≤ n / 2 ^ s + 1 := nearest_le n s
      _ ≤ n' / 2 ^ s := hlt
      _ ≤ nearest n' s := le_nearest n' s
  · have hr : n % 2 ^ s ≤ n' % 2 ^ s := by
      have e := Nat.div_add_mod n (2 ^ s)
      have e' := Nat.div_add_mod n' (2 ^ s)
      rw [heq] at e
      omega
    unfold nearest
    grind

theorem nearest_mul_pow (n s k : Nat) : nearest (n * 2 ^ k) (s + k) = nearest n s := by
  have hk : 0 < 2 ^ k := Nat.two_pow_pos k
  have hd : n * 2 ^ k / 2 ^ (s + k) = n / 2 ^ s := by
    rw [pow_add, Nat.mul_div_mul_right _ _ hk]
  have hm : n * 2 ^ k % 2 ^ (s + k) = n % 2 ^ s * 2 ^ k := by
    rw [pow_add, Nat.mul_mod_mul_right]
  have hlt : 2 * (n % 2 ^ s * 2 ^ k) < 2 ^ (s + k) ↔ 2 * (n % 2 ^ s) < 2 ^ s := by
    rw [pow_add, ← Nat.mul_assoc]
    exact Nat.mul_lt_mul_right hk
  have heq : 2 * (n % 2 ^ s * 2 ^ k) = 2 ^ (s + k) ↔ 2 * (n % 2 ^ s) = 2 ^ s := by
    rw [pow_add, ← Nat.mul_assoc]
    exact Nat.mul_left_inj hk.ne'
  simp only [nearest, hd, hm, hlt, heq]

/-! ## Codes and values -/

/-- How many binary places a number has beyond 53. -/
def excess (n : Nat) : Nat := n.log2 - 52

/-- The code of the number nearest to `n`, with codes that go on beyond that of infinity. -/
def round (n : Nat) : Nat := excess n * 2 ^ 52 + nearest n (excess n)

/-- The code `k * 2 ^ 52 + m` has the mantissa `m` and stands for `m * 2 ^ k` units. -/
structure Canonical (m k : Nat) : Prop where
  lt : m < 2 ^ 53
  normal : 2 ^ 52 ≤ m ∨ k = 0

def value (code : Nat) : Nat :=
  if code < 2 ^ 52 then code else (2 ^ 52 + code % 2 ^ 52) * 2 ^ (code / 2 ^ 52 - 1)

theorem value_of_canonical {m k : Nat} (h : Canonical m k) :
    value (k * 2 ^ 52 + m) = m * 2 ^ k := by
  obtain ⟨hm, hn⟩ := h
  unfold value
  rcases Nat.lt_or_ge m (2 ^ 52) with hs | hs
  · obtain rfl : k = 0 := hn.resolve_left (by omega)
    rw [if_pos (by omega), Nat.zero_mul, Nat.zero_add, pow_zero, Nat.mul_one]
  · rw [if_neg (by omega), show 2 ^ 52 + (k * 2 ^ 52 + m) % 2 ^ 52 = m by omega,
      show (k * 2 ^ 52 + m) / 2 ^ 52 - 1 = k by omega]

theorem exists_canonical (code : Nat) : ∃ m k, Canonical m k ∧ code = k * 2 ^ 52 + m := by
  rcases Nat.lt_or_ge code (2 ^ 52) with hs | hs
  · exact ⟨code, 0, ⟨by omega, .inr rfl⟩, by omega⟩
  · exact ⟨2 ^ 52 + code % 2 ^ 52, code / 2 ^ 52 - 1, ⟨by omega, .inl (by omega)⟩, by omega⟩

theorem Canonical.log2_lt {m k : Nat} (h : Canonical m k) (hm : 0 < m) : m.log2 < 53 :=
  (Nat.log2_lt hm.ne').mpr h.lt

theorem log2_mul_pow {m : Nat} (hm : 0 < m) (k : Nat) : (m * 2 ^ k).log2 = m.log2 + k := by
  have h := (Nat.log2_eq_iff hm.ne').mp rfl
  rw [Nat.log2_eq_iff (by positivity), pow_add, show m.log2 + k + 1 = m.log2 + 1 + k by omega,
    pow_add]
  exact ⟨Nat.mul_le_mul_right _ h.1, Nat.mul_lt_mul_of_pos_right h.2 (by positivity)⟩

theorem excess_mul_pow {m : Nat} (hm : 0 < m) (k : Nat) :
    excess (m * 2 ^ k) = m.log2 + k - 52 := by
  rw [excess, log2_mul_pow hm]

theorem Canonical.excess_eq {m k : Nat} (h : Canonical m k) (hm : 0 < m) :
    excess (m * 2 ^ k) = k := by
  have hlt := h.log2_lt hm
  rw [excess_mul_pow hm]
  rcases h.normal with hn | rfl
  · have := (Nat.le_log2 hm.ne').mpr hn
    omega
  · omega

theorem excess_mono {n n' : Nat} (h : n ≤ n') : excess n ≤ excess n' := by
  rcases Nat.eq_zero_or_pos n with rfl | hn
  · simp [excess]
  · have := (Nat.le_log2 (by omega)).mpr (le_trans (Nat.log2_self_le hn.ne') h)
    exact Nat.sub_le_sub_right this 52

/-- In units of its excess a number has at most 53 binary places, and exactly 53 if it has an
excess. -/
theorem div_excess_lt (n : Nat) : n / 2 ^ excess n < 2 ^ 53 := by
  rw [Nat.div_lt_iff_lt_mul (by positivity), ← pow_add]
  exact Nat.lt_of_lt_of_le Nat.lt_log2_self
    (Nat.pow_le_pow_right (by omega) (by unfold excess; omega))

theorem le_div_excess {n : Nat} (h : 0 < excess n) : 2 ^ 52 ≤ n / 2 ^ excess n := by
  have hn : n ≠ 0 := by rintro rfl; simp [excess] at h
  rw [Nat.le_div_iff_mul_le (by positivity), ← pow_add]
  calc 2 ^ (52 + excess n) = 2 ^ n.log2 := by congr 1; unfold excess at *; omega
    _ ≤ n := Nat.log2_self_le hn

theorem nearest_excess_le (n : Nat) : nearest n (excess n) ≤ 2 ^ 53 :=
  (nearest_le _ _).trans (div_excess_lt n)

theorem le_nearest_excess {n : Nat} (h : 0 < excess n) : 2 ^ 52 ≤ nearest n (excess n) :=
  (le_div_excess h).trans (le_nearest _ _)

theorem round_mono {n n' : Nat} (h : n ≤ n') : round n ≤ round n' := by
  rcases (excess_mono h).lt_or_eq with hlt | heq
  · have h1 := nearest_excess_le n
    have h2 := le_nearest_excess (n := n') (by omega)
    unfold round
    omega
  · unfold round
    rw [heq]
    exact Nat.add_le_add_left (nearest_mono _ h) _

@[simp] theorem round_value (code : Nat) : round (value code) = code := by
  obtain ⟨m, k, h, rfl⟩ := exists_canonical code
  rw [value_of_canonical h]
  rcases Nat.eq_zero_or_pos m with rfl | hm
  · obtain rfl : k = 0 := h.normal.resolve_left (by omega)
    simp [round, excess]
  · have hq : nearest (m * 2 ^ k) k = m := by simpa using nearest_mul_pow m 0 k
    rw [round, h.excess_eq hm, hq]

theorem value_mono {a b : Nat} (h : a ≤ b) : value a ≤ value b := by
  by_contra hc
  have := round_mono (Nat.le_of_not_le hc)
  simp only [round_value] at this
  obtain rfl : a = b := by omega
  exact hc le_rfl

end Binary64
end PhoneticSearch
