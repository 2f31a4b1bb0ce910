import Mathlib.Logic.Relation
import OwlsRan.Lib.SequenceNumber

/-!
# The transmission window of RLC AM

The window and the state variables alone, and the moves that the transmitter makes with them.
-/

namespace OwlsRan.Rlc
open OwlsRan.Lib

structure SentSdu where
  sdu : List UInt8
  nextSo : Nat

structure TxCore where
  txNextAck : Nat
  txNext : Nat
  under : Option Nat
  window : Nat → Option SentSdu

structure TxSizes where
  mod : Nat
  window : Nat
  mod_eq : mod = 2 * window
  one_lt : 1 < window

namespace TxCore

variable (z : TxSizes) (c : TxCore)

def age (sn : Nat) : Nat := snDist z.mod sn c.txNext

def outstanding : Nat := snDist z.mod c.txNextAck c.txNext

/-- An SDU is written to the entry of `tx_next`. -/
def place (v : SentSdu) : Nat → Option SentSdu := fun j =>
  if j = c.txNext then some v else if j % z.window = c.txNext % z.window then none else c.window j

def update (x : Nat) (v : SentSdu) : Nat → Option SentSdu := fun j => if j = x then some v else c.window j

def advance : Nat := (c.txNext + 1) % z.mod

/-- There is an entry without an SDU behind `tx_next`. -/
def Room : Prop := ∃ sn < z.mod, 1 ≤ c.age z sn ∧ c.age z sn ≤ z.window ∧ c.window sn = none

/-- What a transmission can do. -/
inductive SendMove : TxCore → TxCore → Prop
  | forget {c : TxCore} (x : Nat) (hunder : c.under = some x) (habsent : c.window x = none) :
      SendMove c { c with under := none }
  | full {c : TxCore} (sdu : List UInt8) (hunder : c.under = none) (hroom : c.Room z) (hsdu : sdu ≠ []) :
      SendMove c { c with txNext := c.advance z, window := c.place z ⟨sdu, 0⟩ }
  | first {c : TxCore} (sdu : List UInt8) (k : Nat) (hunder : c.under = none) (hroom : c.Room z) (hk : 0 < k)
      (hlt : k < sdu.length) :
      SendMove c { c with under := some c.txNext, window := c.place z ⟨sdu, k⟩ }
  | middle {c : TxCore} (x : Nat) (v : SentSdu) (k : Nat) (hunder : c.under = some x) (hv : c.window x = some v)
      (hso : 0 < v.nextSo) (hlt : v.nextSo + k < v.sdu.length) :
      SendMove c { c with window := c.update x ⟨v.sdu, v.nextSo + k⟩ }
  | last {c : TxCore} (x : Nat) (v : SentSdu) (hunder : c.under = some x) (hv : c.window x = some v)
      (hlt : v.nextSo < v.sdu.length) :
      SendMove c { c with under := none, txNext := c.advance z, window := c.update x ⟨v.sdu, v.sdu.length⟩ }

/-- The SDU at `tx_next_ack` is acknowledged. Only `ahead` can it be the one that is under segmentation. -/
inductive AckMove (ahead : Prop) : TxCore → TxCore → Prop
  | ack {c : TxCore} (v : SentSdu) (hv : c.window c.txNextAck = some v) (hahead : c.outstanding z = 0 → ahead) :
      AckMove ahead c
        { c with
          txNextAck := (c.txNextAck + 1) % z.mod
          window := fun j => if j = c.txNextAck then none else c.window j }

/-- What holds whatever is acknowledged: the SNs in flight are in the window. Once the SDU under segmentation has been
acknowledged, `tx_next_ack` is ahead of `tx_next`. -/
structure Safe : Prop where
  txNextAck_lt : c.txNextAck < z.mod
  txNext_lt : c.txNext < z.mod
  entry : ∀ sn v, c.window sn = some v → sn < z.mod ∧ v.sdu ≠ [] ∧
    (c.under = some sn ∨ 1 ≤ c.age z sn ∧ c.age z sn ≤ z.window)
  slots : ∀ sn v sn' v', c.window sn = some v → c.window sn' = some v' → sn % z.window = sn' % z.window → sn = sn'
  under : ∀ x, c.under = some x → x = c.txNext ∧ ∀ v, c.window x = some v → 0 < v.nextSo ∧ v.nextSo < v.sdu.length
  inFlight : c.outstanding z + 1 = z.mod ∨
    c.outstanding z ≤ z.window ∧ ∀ sn < z.mod, 1 ≤ c.age z sn → c.age z sn ≤ c.outstanding z → ∃ v, c.window sn = some v

structure Exact : Prop extends Safe z c where
  outstanding_le : c.outstanding z ≤ z.window
  entry_le : ∀ sn v, c.window sn = some v → c.under = some sn ∨ c.age z sn ≤ c.outstanding z
  under_present : ∀ x, c.under = some x → ∃ v, c.window x = some v

section Ages

variable {z : TxSizes} {c : TxCore} {sn : Nat}

lemma mod_pos : 0 < z.mod := by
  have hmod := z.mod_eq
  have hW := z.one_lt
  omega

lemma age_lt : c.age z sn < z.mod := snDist_lt mod_pos

lemma age_eq_zero (hsn : sn < z.mod) (hnext : c.txNext < z.mod) : c.age z sn = 0 ↔ sn = c.txNext :=
  snDist_eq_zero mod_pos hsn hnext

lemma age_inj {sn' : Nat} (hsn : sn < z.mod) (hsn' : sn' < z.mod) (h : c.age z sn = c.age z sn') : sn = sn' := by
  have htriangle := snDist_triangle (m := z.mod) mod_pos sn sn' c.txNext
  have hzero := snDist_eq_zero (m := z.mod) mod_pos hsn hsn'
  have hlt : snDist z.mod sn sn' < z.mod := snDist_lt mod_pos
  unfold age at h
  rw [← hzero]
  omega

lemma age_mod {sn' : Nat} (h : sn % z.window = sn' % z.window) : c.age z sn % z.window = c.age z sn' % z.window := by
  have hdvd : z.window ∣ z.mod := ⟨2, by rw [z.mod_eq, Nat.mul_comm]⟩
  have hsum : ∀ x, x + c.age z x ≡ c.txNext [MOD z.window] := by
    intro x
    have heq : x + c.age z x ≡ c.txNext [MOD z.mod] := add_snDist mod_pos
    exact heq.of_dvd hdvd
  have hboth : sn + c.age z sn ≡ sn + c.age z sn' [MOD z.window] :=
    (hsum sn).trans ((hsum sn').symm.trans (Nat.ModEq.add_right _ h.symm))
  exact Nat.ModEq.add_left_cancel' sn hboth

lemma age_of_entry (hsn : sn < z.mod) (hnext : c.txNext < z.mod) (hne : sn ≠ c.txNext)
    (h : sn % z.window = c.txNext % z.window) : c.age z sn = z.window := by
  have hzero : c.age z c.txNext = 0 := snDist_self mod_pos
  have hmod := age_mod (c := c) h
  rw [hzero, Nat.zero_mod] at hmod
  obtain ⟨k, hk⟩ := Nat.dvd_of_mod_eq_zero hmod
  have hlt : c.age z sn < z.mod := age_lt
  have hpos : c.age z sn ≠ 0 := fun h0 => hne ((age_eq_zero hsn hnext).mp h0)
  have hmodEq := z.mod_eq
  have hk2 : k < 2 := by
    by_contra hge
    have hle : z.window * 2 ≤ z.window * k := Nat.mul_le_mul_left z.window (by omega)
    omega
  have hk1 : k = 1 := by
    have hk0 : k ≠ 0 := by
      rintro rfl
      omega
    omega
  rw [hk, hk1, Nat.mul_one]

end Ages

/-- `tx_next` is in the window, with the SNs in flight. -/
structure Placed (z : TxSizes) (c : TxCore) : Prop where
  txNextAck_lt : c.txNextAck < z.mod
  txNext_lt : c.txNext < z.mod
  present : ∃ v, c.window c.txNext = some v
  entry : ∀ sn v, c.window sn = some v → sn < z.mod ∧ v.sdu ≠ [] ∧
    (sn = c.txNext ∨ 1 ≤ c.age z sn ∧ c.age z sn < z.window)
  slots : ∀ sn v sn' v', c.window sn = some v → c.window sn' = some v' → sn % z.window = sn' % z.window → sn = sn'
  inFlight : c.outstanding z + 1 = z.mod ∨
    c.outstanding z < z.window ∧ ∀ sn < z.mod, 1 ≤ c.age z sn → c.age z sn ≤ c.outstanding z → ∃ v, c.window sn = some v

/-- Besides `tx_next`, the window has only the SNs in flight. -/
def Tight (z : TxSizes) (c : TxCore) : Prop :=
  c.outstanding z < z.window ∧ ∀ sn v, c.window sn = some v → sn = c.txNext ∨ c.age z sn ≤ c.outstanding z

section Moves

variable {z : TxSizes} {c c' : TxCore} {sn sn' : Nat} {v v' : SentSdu}

lemma advance_lt : c.advance z < z.mod := Nat.mod_lt _ mod_pos

lemma outstanding_lt_mod : c.outstanding z < z.mod := snDist_lt mod_pos

lemma place_cases (hv : c.place z v sn = some v') :
    sn = c.txNext ∧ v' = v ∨ sn ≠ c.txNext ∧ ¬sn % z.window = c.txNext % z.window ∧ c.window sn = some v' := by
  unfold place at hv
  split at hv
  case isTrue heq =>
    cases hv
    exact .inl ⟨heq, rfl⟩
  case isFalse hne =>
    split at hv
    · cases hv
    case isFalse hentry => exact .inr ⟨hne, hentry, hv⟩

lemma place_of_age (hnext : c.txNext < z.mod) (hsn : sn < z.mod) (hpos : 1 ≤ c.age z sn) (hlt : c.age z sn < z.window) :
    c.place z v sn = c.window sn := by
  have hne : sn ≠ c.txNext := by
    intro heq
    rw [(age_eq_zero hsn hnext).mpr heq] at hpos
    omega
  have hentry : ¬sn % z.window = c.txNext % z.window := by
    intro heq
    rw [age_of_entry hsn hnext hne heq] at hlt
    omega
  unfold place
  rw [if_neg hne, if_neg hentry]

lemma place_slots (hslots : ∀ sn v sn' v', c.window sn = some v → c.window sn' = some v' →
      sn % z.window = sn' % z.window → sn = sn') {v₁ v₂ : SentSdu} (h₁ : c.place z v sn = some v₁)
    (h₂ : c.place z v sn' = some v₂) (heq : sn % z.window = sn' % z.window) : sn = sn' := by
  obtain ⟨rfl, -⟩ | ⟨-, hentry₁, hv₁⟩ := place_cases h₁
  · obtain ⟨rfl, -⟩ | ⟨-, hentry₂, -⟩ := place_cases h₂
    · rfl
    · exact absurd heq.symm hentry₂
  · obtain ⟨rfl, -⟩ | ⟨-, -, hv₂⟩ := place_cases h₂
    · exact absurd heq hentry₁
    · exact hslots sn v₁ sn' v₂ hv₁ hv₂ heq

lemma entry_of_age (h : c.age z sn = z.window) : sn % z.window = c.txNext % z.window := by
  have hdvd : z.window ∣ z.mod := ⟨2, by rw [z.mod_eq, Nat.mul_comm]⟩
  have hsum : sn + c.age z sn ≡ c.txNext [MOD z.mod] := add_snDist mod_pos
  have hmod : sn + c.age z sn ≡ c.txNext [MOD z.window] := hsum.of_dvd hdvd
  rw [h] at hmod
  have hshift : (sn + z.window) % z.window = c.txNext % z.window := hmod
  rwa [Nat.add_mod_right] at hshift

lemma Safe.place (h : c.Safe z) (hunder : c.under = none) (hroom : c.Room z) (hsdu : v.sdu ≠ []) :
    Placed z { c with window := c.place z v } := by
  refine ⟨h.txNextAck_lt, h.txNext_lt, ⟨v, if_pos rfl⟩, fun sn v' hv => ?_,
    fun sn v₁ sn' v₂ h₁ h₂ => place_slots h.slots h₁ h₂, ?_⟩
  · obtain ⟨rfl, rfl⟩ | ⟨hne, hentry, hold⟩ := place_cases hv
    · exact ⟨h.txNext_lt, hsdu, .inl rfl⟩
    · obtain ⟨hsn, hsdu', hu | ⟨hpos, hle⟩⟩ := h.entry sn v' hold
      · rw [hunder] at hu
        cases hu
      · exact ⟨hsn, hsdu', .inr ⟨hpos, lt_of_le_of_ne hle fun heq => hentry (entry_of_age heq)⟩⟩
  · obtain hlag | ⟨hle, hpresent⟩ := h.inFlight
    · exact .inl hlag
    · right
      have hlt : c.outstanding z < z.window := by
        obtain ⟨sn, hsn, hpos, hage, hnone⟩ := hroom
        by_contra hge
        obtain ⟨v', hv'⟩ := hpresent sn hsn hpos (by omega)
        rw [hnone] at hv'
        cases hv'
      refine ⟨hlt, fun sn hsn hpos hage => ?_⟩
      obtain ⟨v', hv'⟩ := hpresent sn hsn hpos hage
      have hage' : c.age z sn ≤ c.outstanding z := hage
      refine ⟨v', ?_⟩
      change c.place z v sn = some v'
      rw [place_of_age h.txNext_lt hsn hpos (by omega)]
      exact hv'

lemma Safe.placed (h : c.Safe z) {x : Nat} (hunder : c.under = some x) (hv : c.window x = some v) : Placed z c := by
  obtain ⟨rfl, -⟩ := h.under x hunder
  have hyoung : ∀ sn < z.mod, ∀ v', c.window sn = some v' → 1 ≤ c.age z sn → c.age z sn ≠ z.window := by
    intro sn hsn v' hv' hpos hage
    have heq := h.slots sn v' c.txNext v hv' hv (entry_of_age hage)
    rw [(age_eq_zero hsn h.txNext_lt).mpr heq] at hpos
    omega
  refine ⟨h.txNextAck_lt, h.txNext_lt, ⟨v, hv⟩, fun sn v' hv' => ?_, h.slots, ?_⟩
  · obtain ⟨hsn, hsdu, hu | ⟨hpos, hle⟩⟩ := h.entry sn v' hv'
    · rw [hunder] at hu
      cases hu
      exact ⟨hsn, hsdu, .inl rfl⟩
    · exact ⟨hsn, hsdu, .inr ⟨hpos, lt_of_le_of_ne hle (hyoung sn hsn v' hv' hpos)⟩⟩
  · obtain hlag | ⟨hle, hpresent⟩ := h.inFlight
    · exact .inl hlag
    · refine .inr ⟨lt_of_le_of_ne hle fun heq => ?_, hpresent⟩
      -- a full window would have an SDU in the entry of `tx_next`
      have hack : c.age z c.txNextAck = c.outstanding z := rfl
      have hW := z.one_lt
      obtain ⟨v', hv'⟩ := hpresent c.txNextAck h.txNextAck_lt (by omega) hack.le
      exact hyoung c.txNextAck h.txNextAck_lt v' hv' (by omega) (hack.trans heq)

lemma Placed.update (h : Placed z c) (hsdu : v.sdu ≠ []) : Placed z { c with window := c.update c.txNext v } := by
  have hcases : ∀ {sn v'}, c.update c.txNext v sn = some v' → sn = c.txNext ∧ v' = v ∨ c.window sn = some v' := by
    intro sn v' hv'
    unfold TxCore.update at hv'
    split at hv'
    case isTrue heq =>
      cases hv'
      exact .inl ⟨heq, rfl⟩
    case isFalse => exact .inr hv'
  have hpresent : ∀ {sn}, (∃ v', c.window sn = some v') → ∃ v', c.update c.txNext v sn = some v' := by
    rintro sn ⟨v', hv'⟩
    unfold TxCore.update
    split
    · exact ⟨v, rfl⟩
    · exact ⟨v', hv'⟩
  refine ⟨h.txNextAck_lt, h.txNext_lt, ⟨v, if_pos rfl⟩, fun sn v' hv' => ?_, fun sn v₁ sn' v₂ h₁ h₂ heq => ?_, ?_⟩
  · obtain ⟨rfl, rfl⟩ | hold := hcases hv'
    · exact ⟨h.txNext_lt, hsdu, .inl rfl⟩
    · exact h.entry sn v' hold
  · have hold : ∀ {sn v'}, c.update c.txNext v sn = some v' → ∃ v', c.window sn = some v' := by
      intro sn v' hv'
      obtain ⟨rfl, -⟩ | hold := hcases hv'
      · exact h.present
      · exact ⟨v', hold⟩
    obtain ⟨w₁, hw₁⟩ := hold h₁
    obtain ⟨w₂, hw₂⟩ := hold h₂
    exact h.slots sn w₁ sn' w₂ hw₁ hw₂ heq
  · obtain hlag | ⟨hlt, hall⟩ := h.inFlight
    · exact .inl hlag
    · exact .inr ⟨hlt, fun sn hsn hpos hage => hpresent (hall sn hsn hpos hage)⟩

lemma Placed.advance (h : Placed z c) : Safe z { c with txNext := c.advance z, under := none } := by
  have hmod := z.mod_eq
  have hW := z.one_lt
  have hD : outstanding z { c with txNext := c.advance z, under := none } < z.mod := outstanding_lt_mod
  have hage : ∀ sn, age z { c with txNext := c.advance z, under := none } sn = c.age z sn + 1 ∨ c.age z sn + 1 = z.mod ∧
      age z { c with txNext := c.advance z, under := none } sn = 0 := fun sn => snDist_succ mod_pos
  have hout : outstanding z { c with txNext := c.advance z, under := none } = c.outstanding z + 1 ∨
      c.outstanding z + 1 = z.mod ∧ outstanding z { c with txNext := c.advance z, under := none } = 0 :=
    snDist_succ mod_pos
  refine ⟨h.txNextAck_lt, advance_lt, fun sn v hv => ?_, h.slots, (fun x hx => nomatch hx), ?_⟩
  · have hage := hage sn
    obtain ⟨hsn, hsdu, rfl | ⟨hpos, hlt⟩⟩ := h.entry sn v hv
    · have hzero := (age_eq_zero h.txNext_lt h.txNext_lt).mpr rfl
      exact ⟨hsn, hsdu, .inr (by omega)⟩
    · exact ⟨hsn, hsdu, .inr (by omega)⟩
  · right
    obtain hlag | ⟨hlt, hall⟩ := h.inFlight
    · refine ⟨by omega, fun sn hsn hpos hle => ?_⟩
      omega
    · refine ⟨by omega, fun sn hsn hpos hle => ?_⟩
      have hage := hage sn
      by_cases hzero : c.age z sn = 0
      · rw [(age_eq_zero hsn h.txNext_lt).mp hzero]
        exact h.present
      · exact hall sn hsn (by omega) (by omega)

lemma Placed.segment (h : Placed z c) (hso : ∀ v, c.window c.txNext = some v → 0 < v.nextSo ∧ v.nextSo < v.sdu.length) :
    Safe z { c with under := some c.txNext } := by
  refine ⟨h.txNextAck_lt, h.txNext_lt, fun sn v hv => ?_, h.slots, fun x hx => ?_, ?_⟩
  · obtain ⟨hsn, hsdu, rfl | ⟨hpos, hlt⟩⟩ := h.entry sn v hv
    · exact ⟨hsn, hsdu, .inl rfl⟩
    · exact ⟨hsn, hsdu, .inr ⟨hpos, hlt.le⟩⟩
  · cases hx
    exact ⟨rfl, hso⟩
  · obtain hlag | ⟨hlt, hall⟩ := h.inFlight
    · exact .inl hlag
    · exact .inr ⟨hlt.le, hall⟩

lemma SendMove.safe (hmove : SendMove z c c') (h : c.Safe z) : c'.Safe z := by
  cases hmove with
  | forget x hunder habsent =>
    refine ⟨h.txNextAck_lt, h.txNext_lt, fun sn v hv => ?_, h.slots, (fun x hx => nomatch hx), h.inFlight⟩
    obtain ⟨hsn, hsdu, hu | hage⟩ := h.entry sn v hv
    · rw [hunder] at hu
      cases hu
      change c.window x = some v at hv
      rw [habsent] at hv
      cases hv
    · exact ⟨hsn, hsdu, .inr hage⟩
  | full sdu hunder hroom hsdu =>
    have hplaced := h.place (v := ⟨sdu, 0⟩) hunder hroom hsdu
    have hsafe := hplaced.advance
    rw [← hunder] at hsafe
    exact hsafe
  | first sdu k hunder hroom hk hlt =>
    have hsdu : sdu ≠ [] := List.ne_nil_of_length_pos (by omega)
    refine (h.place (v := ⟨sdu, k⟩) hunder hroom hsdu).segment fun v hv => ?_
    cases (if_pos rfl : c.place z ⟨sdu, k⟩ c.txNext = _).symm.trans hv
    exact ⟨hk, hlt⟩
  | middle x v k hunder hv hso hlt =>
    obtain ⟨rfl, -⟩ := h.under x hunder
    have hsdu : v.sdu ≠ [] := List.ne_nil_of_length_pos (by omega)
    have hsafe := ((h.placed hunder hv).update (v := ⟨v.sdu, v.nextSo + k⟩) hsdu).segment fun v' hv' => by
      cases (if_pos rfl : c.update c.txNext ⟨v.sdu, v.nextSo + k⟩ c.txNext = _).symm.trans hv'
      exact ⟨Nat.add_pos_left hso k, hlt⟩
    change Safe z { c with under := some c.txNext, window := _ } at hsafe
    rw [← hunder] at hsafe
    exact hsafe
  | last x v hunder hv hlt =>
    obtain ⟨rfl, -⟩ := h.under x hunder
    have hsdu : v.sdu ≠ [] := List.ne_nil_of_length_pos (by omega)
    exact ((h.placed hunder hv).update (v := ⟨v.sdu, v.sdu.length⟩) hsdu).advance

lemma AckMove.safe {ahead : Prop} (hmove : AckMove z ahead c c') (h : c.Safe z) : c'.Safe z := by
  have hmod := z.mod_eq
  have hW := z.one_lt
  obtain ⟨v, hv, -⟩ := hmove
  have hack : c.age z c.txNextAck = c.outstanding z := rfl
  have hkept : ∀ {sn v'}, (if sn = c.txNextAck then none else c.window sn) = some v' →
      sn ≠ c.txNextAck ∧ c.window sn = some v' := by
    intro sn v' hv'
    split at hv'
    · cases hv'
    case isFalse hne => exact ⟨hne, hv'⟩
  refine ⟨Nat.mod_lt _ mod_pos, h.txNext_lt, fun sn v' hv' => ?_, fun sn v₁ sn' v₂ h₁ h₂ => ?_, fun x hx => ?_, ?_⟩
  · exact h.entry sn v' (hkept hv').2
  · exact h.slots sn v₁ sn' v₂ (hkept h₁).2 (hkept h₂).2
  · exact ⟨(h.under x hx).1, fun v' hv' => (h.under x hx).2 v' (hkept hv').2⟩
  · have htriangle := snDist_triangle (m := z.mod) mod_pos c.txNextAck ((c.txNextAck + 1) % z.mod) c.txNext
    have hone : snDist z.mod c.txNextAck ((c.txNextAck + 1) % z.mod) = 1 := by
      rw [snDist_mod_right]
      exact snDist_add (by omega)
    have hlt : snDist z.mod ((c.txNextAck + 1) % z.mod) c.txNext < z.mod := snDist_lt mod_pos
    rw [hone] at htriangle
    change snDist z.mod ((c.txNextAck + 1) % z.mod) c.txNext + 1 = z.mod ∨
      snDist z.mod ((c.txNextAck + 1) % z.mod) c.txNext ≤ z.window ∧ _
    have hD : c.outstanding z < z.mod := outstanding_lt_mod
    unfold outstanding at hack hD
    obtain hlag | ⟨hle, hall⟩ := h.inFlight
    · -- beyond `tx_next` there is nothing to acknowledge
      obtain ⟨-, -, hu | ⟨hpos, hage⟩⟩ := h.entry _ v hv
      · rw [(age_eq_zero h.txNextAck_lt h.txNext_lt).mpr (h.under _ hu).1] at hack
        unfold outstanding at hlag
        omega
      · unfold outstanding at hlag
        omega
    · unfold outstanding at hle
      by_cases hzero : snDist z.mod c.txNextAck c.txNext = 0
      · left
        omega
      · right
        refine ⟨by omega, fun sn hsn hpos hage => ?_⟩
        change 1 ≤ c.age z sn at hpos
        change c.age z sn ≤ snDist z.mod ((c.txNextAck + 1) % z.mod) c.txNext at hage
        have hne : sn ≠ c.txNextAck := by
          rintro rfl
          omega
        obtain ⟨v', hv'⟩ := hall sn hsn hpos (by unfold outstanding; omega)
        exact ⟨v', (if_neg hne).trans hv'⟩

lemma Placed.tight_of_le (h : Placed z c) (hle : c.outstanding z ≤ z.window) :
    c.outstanding z < z.window ∧ ∀ sn < z.mod, 1 ≤ c.age z sn → c.age z sn ≤ c.outstanding z →
      ∃ v, c.window sn = some v := by
  have hmod := z.mod_eq
  have hW := z.one_lt
  obtain hlag | hall := h.inFlight
  · omega
  · exact hall

lemma Placed.tight (h : Placed z c) (hle : c.outstanding z ≤ z.window)
    (hentry : ∀ sn v, c.window sn = some v → sn = c.txNext ∨ c.age z sn ≤ c.outstanding z) : Tight z c :=
  ⟨(h.tight_of_le hle).1, hentry⟩

lemma Tight.advance (ht : Tight z c) (h : Placed z c) : Exact z { c with txNext := c.advance z, under := none } := by
  have hmod := z.mod_eq
  have hout : outstanding z { c with txNext := c.advance z, under := none } = c.outstanding z + 1 ∨
      c.outstanding z + 1 = z.mod ∧ outstanding z { c with txNext := c.advance z, under := none } = 0 :=
    snDist_succ mod_pos
  obtain ⟨hlt, hentry⟩ := ht
  refine ⟨h.advance, by omega, fun sn v hv => ?_, fun x hx => nomatch hx⟩
  right
  have hage : age z { c with txNext := c.advance z, under := none } sn = c.age z sn + 1 ∨ c.age z sn + 1 = z.mod ∧
      age z { c with txNext := c.advance z, under := none } sn = 0 := snDist_succ mod_pos
  obtain rfl | hle := hentry sn v hv
  · have hzero := (age_eq_zero h.txNext_lt h.txNext_lt).mpr rfl
    omega
  · omega

lemma Tight.segment (ht : Tight z c) (h : Placed z c)
    (hso : ∀ v, c.window c.txNext = some v → 0 < v.nextSo ∧ v.nextSo < v.sdu.length) :
    Exact z { c with under := some c.txNext } := by
  refine ⟨h.segment hso, ht.1.le, fun sn v hv => ?_, fun x hx => ?_⟩
  · obtain rfl | hle := ht.2 sn v hv
    · exact .inl rfl
    · exact .inr hle
  · cases hx
    exact h.present

lemma Exact.place (h : c.Exact z) (hunder : c.under = none) (hroom : c.Room z) (hsdu : v.sdu ≠ []) :
    Tight z { c with window := c.place z v } := by
  refine (h.toSafe.place hunder hroom hsdu).tight h.outstanding_le fun sn v' hv => ?_
  obtain ⟨rfl, -⟩ | ⟨-, -, hold⟩ := place_cases hv
  · exact .inl rfl
  · obtain hu | hle := h.entry_le sn v' hold
    · rw [hunder] at hu
      cases hu
    · exact .inr hle

lemma Exact.update (h : c.Exact z) (hunder : c.under = some c.txNext) {w : SentSdu} (hv : c.window c.txNext = some v)
    (hw : w.sdu ≠ []) : Tight z { c with window := c.update c.txNext w } := by
  refine ((h.toSafe.placed hunder hv).update hw).tight h.outstanding_le fun sn v' hv' => ?_
  change c.update c.txNext w sn = some v' at hv'
  unfold TxCore.update at hv'
  split at hv'
  case isTrue heq => exact .inl heq
  case isFalse hne =>
    obtain hu | hle := h.entry_le sn v' hv'
    · exact .inl (h.under sn hu).1
    · exact .inr hle

lemma SendMove.exact (hmove : SendMove z c c') (h : c.Exact z) : c'.Exact z := by
  cases hmove with
  | forget x hunder habsent =>
    obtain ⟨v, hv⟩ := h.under_present x hunder
    rw [habsent] at hv
    cases hv
  | full sdu hunder hroom hsdu =>
    have hexact := (h.place (v := ⟨sdu, 0⟩) hunder hroom hsdu).advance (h.toSafe.place hunder hroom hsdu)
    rw [← hunder] at hexact
    exact hexact
  | first sdu k hunder hroom hk hlt =>
    have hsdu : sdu ≠ [] := List.ne_nil_of_length_pos (by omega)
    refine (h.place (v := ⟨sdu, k⟩) hunder hroom hsdu).segment (h.toSafe.place hunder hroom hsdu) fun v hv => ?_
    cases (if_pos rfl : c.place z ⟨sdu, k⟩ c.txNext = _).symm.trans hv
    exact ⟨hk, hlt⟩
  | middle x v k hunder hv hso hlt =>
    obtain ⟨rfl, -⟩ := h.under x hunder
    have hsdu : v.sdu ≠ [] := List.ne_nil_of_length_pos (by omega)
    have hexact := (h.update (w := ⟨v.sdu, v.nextSo + k⟩) hunder hv hsdu).segment
      ((h.toSafe.placed hunder hv).update hsdu) fun v' hv' => by
        cases (if_pos rfl : c.update c.txNext ⟨v.sdu, v.nextSo + k⟩ c.txNext = _).symm.trans hv'
        exact ⟨Nat.add_pos_left hso k, hlt⟩
    change Exact z { c with under := some c.txNext, window := _ } at hexact
    rw [← hunder] at hexact
    exact hexact
  | last x v hunder hv hlt =>
    obtain ⟨rfl, -⟩ := h.under x hunder
    have hsdu : v.sdu ≠ [] := List.ne_nil_of_length_pos (by omega)
    exact (h.update (w := ⟨v.sdu, v.sdu.length⟩) hunder hv hsdu).advance ((h.toSafe.placed hunder hv).update hsdu)

lemma AckMove.exact (hmove : AckMove z False c c') (h : c.Exact z) : c'.Exact z := by
  have hsafe := hmove.safe h.toSafe
  have hmod := z.mod_eq
  have hW := z.one_lt
  obtain ⟨v, hv, hahead⟩ := hmove
  have hpos : c.outstanding z ≠ 0 := fun hzero => hahead hzero
  have htriangle := snDist_triangle (m := z.mod) mod_pos c.txNextAck ((c.txNextAck + 1) % z.mod) c.txNext
  have hone : snDist z.mod c.txNextAck ((c.txNextAck + 1) % z.mod) = 1 := by
    rw [snDist_mod_right]
    exact snDist_add (by omega)
  have hlt : snDist z.mod ((c.txNextAck + 1) % z.mod) c.txNext < z.mod := snDist_lt mod_pos
  rw [hone] at htriangle
  have hle := h.outstanding_le
  have hack : c.age z c.txNextAck = c.outstanding z := rfl
  unfold outstanding at hpos hle hack
  refine ⟨hsafe, ?_, fun sn v' hv' => ?_, fun x hx => ?_⟩
  · change snDist z.mod ((c.txNextAck + 1) % z.mod) c.txNext ≤ z.window
    omega
  · change (if sn = c.txNextAck then none else c.window sn) = some v' at hv'
    split at hv'
    · cases hv'
    case isFalse hne =>
      obtain hu | hage := h.entry_le sn v' hv'
      · exact .inl hu
      · right
        have hneAge : c.age z sn ≠ c.age z c.txNextAck := fun heq =>
          hne (age_inj (h.entry sn v' hv').1 h.txNextAck_lt heq)
        change c.age z sn ≤ snDist z.mod ((c.txNextAck + 1) % z.mod) c.txNext
        unfold outstanding at hage
        omega
  · obtain ⟨v', hv'⟩ := h.under_present x hx
    have hne : x ≠ c.txNextAck := by
      rintro rfl
      rw [(age_eq_zero h.txNextAck_lt h.txNext_lt).mpr (h.under _ hx).1] at hack
      omega
    exact ⟨v', (if_neg hne).trans hv'⟩

structure InFlight (z : TxSizes) (c : TxCore) (sn : Nat) (sdu : List UInt8) : Prop where
  notAhead : c.outstanding z ≤ z.window
  age_le : c.age z sn ≤ c.outstanding z
  present : ∃ v, c.window sn = some v ∧ v.sdu = sdu

lemma SendMove.inFlight {sdu : List UInt8} (hmove : SendMove z c c') (h : c.Safe z) (hsn : InFlight z c sn sdu) :
    InFlight z c' sn sdu := by
  obtain ⟨hle, hage, v, hv, rfl⟩ := hsn
  have hmod := z.mod_eq
  have hW := z.one_lt
  have hsnlt := (h.entry sn v hv).1
  have hnew : c.under = none → 1 ≤ c.age z sn := by
    intro hunder
    obtain ⟨-, -, hu | ⟨hpos, -⟩⟩ := h.entry sn v hv
    · rw [hunder] at hu
      cases hu
    · exact hpos
  have hadvance : ∀ {u : Option Nat} {w : Nat → Option SentSdu}, c.outstanding z < z.window →
      (∃ v', w sn = some v' ∧ v'.sdu = v.sdu) →
        InFlight z { c with under := u, txNext := c.advance z, window := w } sn v.sdu := by
    intro u w hlt hw
    have hage' : snDist z.mod sn (c.advance z) = c.age z sn + 1 ∨ c.age z sn + 1 = z.mod ∧
        snDist z.mod sn (c.advance z) = 0 := snDist_succ mod_pos
    have hout' : snDist z.mod c.txNextAck (c.advance z) = c.outstanding z + 1 ∨ c.outstanding z + 1 = z.mod ∧
        snDist z.mod c.txNextAck (c.advance z) = 0 := snDist_succ mod_pos
    refine ⟨?_, ?_, hw⟩
    · change snDist z.mod c.txNextAck (c.advance z) ≤ z.window
      omega
    · change snDist z.mod sn (c.advance z) ≤ snDist z.mod c.txNextAck (c.advance z)
      omega
  cases hmove with
  | forget x hunder habsent => exact ⟨hle, hage, v, hv, rfl⟩
  | full sdu hunder hroom hsdu =>
    have hlt := ((h.place (v := ⟨sdu, 0⟩) hunder hroom hsdu).tight_of_le hle).1
    change c.outstanding z < z.window at hlt
    exact hadvance hlt ⟨v, (place_of_age h.txNext_lt hsnlt (hnew hunder) (by omega)).trans hv, rfl⟩
  | first sdu k hunder hroom hk hlt =>
    have hsdu : sdu ≠ [] := List.ne_nil_of_length_pos (by omega)
    have hlt := ((h.place (v := ⟨sdu, k⟩) hunder hroom hsdu).tight_of_le hle).1
    change c.outstanding z < z.window at hlt
    exact ⟨hle, hage, v, (place_of_age h.txNext_lt hsnlt (hnew hunder) (by omega)).trans hv, rfl⟩
  | middle x v' k hunder hv' hso hlt =>
    refine ⟨hle, hage, ?_⟩
    by_cases hx : sn = x
    · subst hx
      rw [hv] at hv'
      cases hv'
      exact ⟨_, if_pos rfl, rfl⟩
    · exact ⟨v, (if_neg hx).trans hv, rfl⟩
  | last x v' hunder hv' hlt =>
    have hD := ((h.placed hunder hv').tight_of_le hle).1
    refine hadvance hD ?_
    by_cases hx : sn = x
    · subst hx
      rw [hv] at hv'
      cases hv'
      exact ⟨_, if_pos rfl, rfl⟩
    · exact ⟨v, (if_neg hx).trans hv, rfl⟩

lemma AckMove.txNext_present (hmove : AckMove z False c c') (h : c.Safe z) (hv : ∃ v, c.window c.txNext = some v) :
    ∃ v, c'.window c'.txNext = some v := by
  obtain ⟨w, -, hahead⟩ := hmove
  obtain ⟨v, hv⟩ := hv
  have hne : c.txNext ≠ c.txNextAck := by
    intro heq
    apply hahead
    exact (snDist_eq_zero mod_pos h.txNextAck_lt h.txNext_lt).mpr heq.symm
  exact ⟨v, (if_neg hne).trans hv⟩

end Moves

end TxCore

end OwlsRan.Rlc
