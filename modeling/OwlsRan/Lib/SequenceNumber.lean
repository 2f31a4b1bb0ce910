import Mathlib.Data.Nat.ModEq
import Mathlib.Tactic.Ring

/-!
# Sequence numbers

Numbers modulo `m` are compared by their distance from a base.
-/

namespace OwlsRan.Lib

/-- The distance from `base` to `x` modulo `m`. -/
def snDist (m base x : Nat) : Nat := (x + (m - base % m)) % m

/-- `(x - base) % m` on 32-bit numbers. -/
def modBase (m base x : Nat) : Nat := (x + 2 ^ 32 - base) % 2 ^ 32 % m

section Distance

variable {m b x y d : Nat}

lemma snDist_lt (hm : 0 < m) : snDist m b x < m := Nat.mod_lt _ hm

lemma add_snDist (hm : 0 < m) : (b + snDist m b x) % m = x % m := by
  have hb : b % m < m := Nat.mod_lt b hm
  have hsum : b % m + (x + (m - b % m)) = x + m := by omega
  unfold snDist
  rw [Nat.add_mod_mod, ← Nat.mod_add_mod, hsum, Nat.add_mod_right]

lemma snDist_unique (hm : 0 < m) (hd : d < m) (h : (b + d) % m = x % m) : snDist m b x = d := by
  have heq : b + snDist m b x ≡ b + d [MOD m] := (add_snDist hm).trans h.symm
  exact Nat.ModEq.eq_of_lt_of_lt (Nat.ModEq.add_left_cancel' b heq) (snDist_lt hm) hd

lemma snDist_add (hd : d < m) : snDist m b (b + d) = d := snDist_unique (Nat.zero_lt_of_lt hd) hd rfl

lemma snDist_mod_right : snDist m b (x % m) = snDist m b x := by
  unfold snDist
  rw [Nat.mod_add_mod]

lemma snDist_mod_left : snDist m (b % m) x = snDist m b x := by
  unfold snDist
  rw [Nat.mod_mod]

lemma snDist_self (hm : 0 < m) : snDist m b b = 0 := snDist_unique hm hm rfl

lemma snDist_congr (hm : 0 < m) (h : snDist m b x = snDist m b y) : x % m = y % m := by
  rw [← add_snDist hm, h, add_snDist hm]

lemma snDist_rebase (hm : 0 < m) (hd : d ≤ snDist m b x) : snDist m (b + d) x = snDist m b x - d := by
  have hlt : snDist m b x < m := snDist_lt hm
  apply snDist_unique hm (by omega)
  rw [show b + d + (snDist m b x - d) = b + snDist m b x by omega, add_snDist hm]

lemma snDist_rebase_of_lt (hm : 0 < m) (hd : snDist m b x < d) (hdm : d ≤ m) :
    snDist m (b + d) x = snDist m b x + m - d := by
  apply snDist_unique hm (by omega)
  rw [show b + d + (snDist m b x + m - d) = b + snDist m b x + m by omega, Nat.add_mod_right, add_snDist hm]

lemma snDist_triangle (hm : 0 < m) (b y x : Nat) :
    snDist m b y + snDist m y x = snDist m b x ∨ snDist m b y + snDist m y x = snDist m b x + m := by
  have hby : snDist m b y < m := snDist_lt hm
  have hyx : snDist m y x < m := snDist_lt hm
  have hsum : (b + (snDist m b y + snDist m y x)) % m = x % m := by
    rw [← Nat.add_assoc, ← Nat.mod_add_mod, add_snDist hm, Nat.mod_add_mod, add_snDist hm]
  by_cases hlt : snDist m b y + snDist m y x < m
  · left
    exact (snDist_unique hm hlt hsum).symm
  · right
    have hd : snDist m b x = snDist m b y + snDist m y x - m := by
      apply snDist_unique hm (by omega)
      rw [← hsum, ← Nat.add_mod_right]
      congr 1
      omega
    omega

lemma snDist_lt_of_lt {b' z : Nat} (hm : 0 < m) (hxy : snDist m b x < snDist m b y) (hyz : snDist m b y < snDist m b z)
    (hx : snDist m b' x < snDist m b' z) (hy : snDist m b' y < snDist m b' z) : snDist m b' x < snDist m b' y := by
  have hz : snDist m b z < m := snDist_lt hm
  have hz' : snDist m b' z < m := snDist_lt hm
  have := snDist_triangle hm b' b x
  have := snDist_triangle hm b' b y
  have := snDist_triangle hm b' b z
  omega

lemma add_mod_ne {k l : Nat} (hkl : k < l) (hl : l < m) : (b + k) % m ≠ (b + l) % m := by
  intro heq
  have hmodEq : k ≡ l [MOD m] := Nat.ModEq.add_left_cancel' b heq
  have := Nat.ModEq.eq_of_lt_of_lt hmodEq (by omega) hl
  omega

lemma snDist_eq_zero (hm : 0 < m) (hb : b < m) (hx : x < m) : snDist m b x = 0 ↔ b = x := by
  constructor
  · intro h
    have heq : x % m = b % m := snDist_congr hm (h.trans (snDist_self hm).symm)
    rw [Nat.mod_eq_of_lt hx, Nat.mod_eq_of_lt hb] at heq
    exact heq.symm
  · rintro rfl
    exact snDist_self hm

lemma snDist_succ (hm : 0 < m) : snDist m b ((x + 1) % m) = snDist m b x + 1 ∨
    snDist m b x + 1 = m ∧ snDist m b ((x + 1) % m) = 0 := by
  have hlt : snDist m b x < m := snDist_lt hm
  have hnext : (b + (snDist m b x + 1)) % m = (x + 1) % m := by
    rw [← Nat.add_assoc, ← Nat.mod_add_mod, add_snDist hm, Nat.mod_add_mod]
  rw [snDist_mod_right]
  by_cases hd : snDist m b x + 1 < m
  · left
    exact snDist_unique hm hd hnext
  · right
    refine ⟨by omega, snDist_unique hm hm ?_⟩
    rw [← hnext, show snDist m b x + 1 = m by omega, Nat.add_mod_right, Nat.add_zero]

lemma modBase_eq (hm : m ∣ 2 ^ 32) (hb : b < 2 ^ 32) : modBase m b x = snDist m b x := by
  have hpos : 0 < m := Nat.pos_of_dvd_of_pos hm (by decide)
  unfold modBase
  rw [Nat.mod_mod_of_dvd _ hm]
  symm
  apply snDist_unique hpos (Nat.mod_lt _ hpos)
  obtain ⟨k, hk⟩ := hm
  rw [Nat.add_mod_mod, show b + (x + 2 ^ 32 - b) = x + 2 ^ 32 by omega, hk, Nat.add_mul_mod_self_left]

end Distance

/-!
## Rings indexed by a counter that wraps around

A ring of `R` entries is indexed by a counter modulo `H`. The two moduli agree when `R` divides `H`, or when
`H ≤ R` and only the first `H` entries are used; `min R H` is then the true period of the ring.
-/

def RingFits (R H : Nat) : Prop := R ∣ H ∨ H ≤ R

def ringPeriod (R H : Nat) : Nat := min R H

lemma ringPeriod_pos {R H : Nat} (hR : 0 < R) (hH : 0 < H) : 0 < ringPeriod R H := by
  unfold ringPeriod
  omega

lemma mod_ring_eq {R H : Nat} (hH : 0 < H) (h : RingFits R H) (x : Nat) :
    x % H % R = x % ringPeriod R H := by
  unfold ringPeriod
  rcases h with h | h
  · rw [min_eq_left (Nat.le_of_dvd hH h), Nat.mod_mod_of_dvd x h]
  · rw [min_eq_right h]
    exact Nat.mod_eq_of_lt (lt_of_lt_of_le (Nat.mod_lt x hH) h)

lemma eq_of_mod_eq_of_lt {E a b : Nat} (hab : a ≤ b) (hlt : b < a + E) (h : a % E = b % E) : a = b := by
  obtain ⟨c, rfl⟩ := Nat.exists_eq_add_of_le hab
  have hc : c < E := by omega
  have hc0 : c % E = 0 := by
    have hmod : a + 0 ≡ a + c [MOD E] := h
    have hzero : 0 ≡ c [MOD E] := Nat.ModEq.add_left_cancel' a hmod
    rw [← hzero, Nat.zero_mod]
  rw [Nat.mod_eq_of_lt hc] at hc0
  omega

lemma ring_entry_ne {E a d : Nat} (hd : 0 < d) (hE : d < E) : (a + d) % E ≠ a % E := by
  intro h
  have := eq_of_mod_eq_of_lt (Nat.le_add_right a d) (by omega) h.symm
  omega

end OwlsRan.Lib
