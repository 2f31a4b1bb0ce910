import OwlsRan.Lib.EventRun
import OwlsRan.Rlc.RlcRxAmEntity

/-!
# The state variables of the RLC AM receiver

SNs are compared by their distance from `rx_next`.
-/

namespace OwlsRan.Rlc
open OwlsRan.Lib OwlsRan.Adt

namespace RlcRxAmConfig

variable (cfg : RlcRxAmConfig)

lemma mod_dvd : cfg.mod ∣ 2 ^ 32 := by
  unfold mod
  cases cfg.snFieldLength <;> decide

lemma mod_lt : cfg.mod < 2 ^ 32 := by
  unfold mod
  cases cfg.snFieldLength <;> decide

lemma one_lt_amWindowSize : 1 < cfg.amWindowSize := by
  unfold amWindowSize
  cases cfg.snFieldLength <;> decide

lemma mod_pos : 0 < cfg.mod := Nat.pos_of_dvd_of_pos cfg.mod_dvd (by decide)

end RlcRxAmConfig

namespace RlcRxAmEntity

/-- The distance of an SN from `rx_next`. -/
def dist (cfg : RlcRxAmConfig) (s : RlcRxAmEntity) (sn : Nat) : Nat := snDist cfg.mod s.st.rxNext sn

/-- The window has entries for SNs in front of `rx_next_highest`, and the SDU data of those that are not fully received
are segments. -/
structure WindowInv (cfg : RlcRxAmConfig) (s : RlcRxAmEntity) : Prop where
  wellFormed : s.rxWindow.WellFormed
  capacity : s.rxWindow.capacity = cfg.amWindowSize
  inWindow : ∀ sn info, s.rxWindow.find? sn = some info → sn < cfg.mod ∧ s.dist cfg sn < s.dist cfg s.st.rxNextHighest
  segments : ∀ sn info, s.rxWindow.find? sn = some info → info.fullyReceived = false →
    ∃ set, info.sduData = .segments set

/-- The SN before `x` is in the window. -/
def EndsReceived (cfg : RlcRxAmConfig) (s : RlcRxAmEntity) (x : Nat) : Prop :=
  ∃ sn info, s.rxWindow.find? sn = some info ∧ s.dist cfg sn + 1 = s.dist cfg x

structure RxBase (cfg : RlcRxAmConfig) (s : RlcRxAmEntity) : Prop where
  rxNext_lt : s.st.rxNext < cfg.mod
  highestStatus_lt : s.st.rxHighestStatus < cfg.mod
  nextHighest_lt : s.st.rxNextHighest < cfg.mod
  trigger_lt : s.st.rxNextStatusTrigger < cfg.mod
  highestStatus_le : s.dist cfg s.st.rxHighestStatus ≤ s.dist cfg s.st.rxNextHighest
  nextHighest_le : s.dist cfg s.st.rxNextHighest ≤ cfg.amWindowSize
  window : s.WindowInv cfg
  ends : 0 < s.dist cfg s.st.rxNextHighest → s.EndsReceived cfg s.st.rxNextHighest

structure TriggerInv (cfg : RlcRxAmConfig) (s : RlcRxAmEntity) : Prop where
  pos : 0 < s.dist cfg s.st.rxNextStatusTrigger
  le : s.dist cfg s.st.rxNextStatusTrigger ≤ s.dist cfg s.st.rxNextHighest
  ends : s.EndsReceived cfg s.st.rxNextStatusTrigger

structure RxInv (cfg : RlcRxAmConfig) (s : RlcRxAmEntity) : Prop extends RxBase cfg s where
  rxNext_missing : s.fullyReceivedSn s.st.rxNext = false
  highestStatus_missing : s.fullyReceivedSn s.st.rxHighestStatus = false
  trigger : s.reassemblyTimerRunning = true → s.TriggerInv cfg

/-- The reasons for which a run can stop: the segments of a peer that exceed the range of the offset, and a duration of
t-Reassembly that is not set. -/
def rxAborts (a : RlcAbort) : Prop := a = .segmentOffsets ∨ a = .timerUnset

section Distances

variable {cfg : RlcRxAmConfig} {s : RlcRxAmEntity} {sn j : Nat}

lemma rxModBase_eq (h : s.st.rxNext < cfg.mod) (sn : Nat) : s.rxModBase cfg sn = s.dist cfg sn :=
  modBase_eq cfg.mod_dvd (h.trans cfg.mod_lt)

lemma dist_lt : s.dist cfg sn < cfg.mod := snDist_lt cfg.mod_pos

lemma dist_rxNext : s.dist cfg s.st.rxNext = 0 := snDist_self cfg.mod_pos

lemma dist_inj (hj : j < cfg.mod) (hsn : sn < cfg.mod) (h : s.dist cfg j = s.dist cfg sn) : j = sn := by
  have := snDist_congr cfg.mod_pos h
  rwa [Nat.mod_eq_of_lt hj, Nat.mod_eq_of_lt hsn] at this

lemma dist_eq_zero (hsn : sn < cfg.mod) (hn : s.st.rxNext < cfg.mod) (h : s.dist cfg sn = 0) : sn = s.st.rxNext :=
  dist_inj hsn hn (h.trans dist_rxNext.symm)

lemma dist_succ (h : s.dist cfg sn + 1 < cfg.mod) : s.dist cfg ((sn + 1) % cfg.mod) = s.dist cfg sn + 1 := by
  have hsucc := snDist_succ (b := s.st.rxNext) (x := sn) cfg.mod_pos
  unfold dist at *
  omega

lemma dist_one : s.dist cfg (s.st.rxNext + 1) = 1 := by
  have hW := cfg.one_lt_amWindowSize
  exact snDist_add (by rw [cfg.mod_eq]; omega)

lemma entry_ne (hj : j < cfg.mod) (hsn : sn < cfg.mod) (hjW : s.dist cfg j < cfg.amWindowSize)
    (hsnW : s.dist cfg sn < cfg.amWindowSize) (hne : j ≠ sn) : j % cfg.amWindowSize ≠ sn % cfg.amWindowSize := by
  intro h
  refine hne (dist_inj (s := s) hj hsn ?_)
  have hdvd : cfg.amWindowSize ∣ cfg.mod := ⟨2, by rw [cfg.mod_eq, Nat.mul_comm]⟩
  have hmod : ∀ x, s.st.rxNext + s.dist cfg x ≡ x [MOD cfg.amWindowSize] := by
    intro x
    have heq : s.st.rxNext + s.dist cfg x ≡ x [MOD cfg.mod] := add_snDist cfg.mod_pos
    exact heq.of_dvd hdvd
  exact Nat.ModEq.eq_of_lt_of_lt (Nat.ModEq.add_left_cancel' s.st.rxNext ((hmod j).trans (h.trans (hmod sn).symm)))
    hjW hsnW

end Distances

section Placing

variable {cfg : RlcRxAmConfig} {s : RlcRxAmEntity} {header : RlcAmPduHeader} {payload : List UInt8}
  {w : SduWindow RlcRxAmSduInfo} {E : RlcAbort → Prop}

structure Written (w w' : SduWindow RlcRxAmSduInfo) (sn : Nat) (info : RlcRxAmSduInfo) : Prop where
  find? : ∀ j, w'.find? j = if j = sn then some info else w.find? j
  wellFormed : w'.WellFormed
  capacity : w'.capacity = w.capacity

lemma ensureSn_spec (h : s.RxBase cfg) {sn : Nat} (hsn : sn < cfg.mod) (hin : s.dist cfg sn < cfg.amWindowSize) :
    Yields (ensureSn s.rxWindow sn) (Written s.rxWindow · sn ((s.rxWindow.find? sn).getD .default)) E := by
  unfold ensureSn
  split
  case isTrue hhas =>
    obtain ⟨info, hinfo⟩ := SduWindow.hasSn_iff.mp hhas
    refine ⟨fun j => ?_, h.window.wellFormed, rfl⟩
    by_cases hj : j = sn
    · rw [if_pos hj, hj, hinfo]
      rfl
    · rw [if_neg hj]
  case isFalse hhas =>
    have hnone := SduWindow.hasSn_eq_false_iff.mp (Bool.not_eq_true _ ▸ hhas)
    have hfree : ∀ j v, s.rxWindow.find? j = some v → j % s.rxWindow.capacity ≠ sn % s.rxWindow.capacity := by
      intro j v hjv
      rw [h.window.capacity]
      obtain ⟨hj, hjk⟩ := h.window.inWindow j v hjv
      refine entry_ne hj hsn (lt_of_lt_of_le hjk h.nextHighest_le) hin fun heq => ?_
      rw [heq, hnone] at hjv
      cases hjv
    refine (SduWindow.yields_addSn h.window.wellFormed hfree).post fun w' hw' => ?_
    rw [hnone]
    exact ⟨hw'.1, hw'.2.1, hw'.2.2.1⟩

inductive Stored (old : Option RlcRxAmSduInfo) (header : RlcAmPduHeader) (payload : List UInt8) : RlcRxAmSduInfo → Prop
  | full (hsi : header.si = .fullSdu) : Stored old header payload ⟨true, false, .payload payload⟩
  | segment (hsi : header.si ≠ .fullSdu) (info : RlcRxAmSduInfo)
      (h : updateSegmentInventory (storeSegment (old.getD .default) ⟨header.si, header.so, payload⟩).2 = .ok info) :
      Stored old header payload info

lemma storeSegment_segments (info : RlcRxAmSduInfo) (new : RlcRxAmSduSegment) :
    ∃ set, (storeSegment info new).2.sduData = .segments set := by
  unfold storeSegment
  dsimp only
  split
  · exact ⟨_, rfl⟩
  · exact ⟨_, rfl⟩

lemma updateSegmentInventory_segments {info : RlcRxAmSduInfo} {set : List RlcRxAmSduSegment}
    (h : info.sduData = .segments set) :
    updateSegmentInventory info =
      .ok { info with hasGap := (segmentInventory 0 set).1, fullyReceived := (segmentInventory 0 set).2 } := by
  unfold updateSegmentInventory
  rw [h]

lemma updateSegmentInventory_spec {info : RlcRxAmSduInfo} (h : ∃ set, info.sduData = .segments set) :
    Yields (updateSegmentInventory info) (fun info' => updateSegmentInventory info = .ok info') E := by
  obtain ⟨set, hset⟩ := h
  rw [updateSegmentInventory_segments hset]
  exact rfl

lemma Stored.segments {old : Option RlcRxAmSduInfo} {info : RlcRxAmSduInfo} (h : Stored old header payload info)
    (hinfo : info.fullyReceived = false) : ∃ set, info.sduData = .segments set := by
  cases h with
  | full => cases hinfo
  | segment _ _ h =>
    obtain ⟨set, hset⟩ := storeSegment_segments (old.getD .default) ⟨header.si, header.so, payload⟩
    rw [updateSegmentInventory_segments hset] at h
    cases h
    exact ⟨set, hset⟩

lemma place_spec (h : s.RxBase cfg) (hsn : header.sn < cfg.mod) (hin : s.dist cfg header.sn < cfg.amWindowSize) :
    Yields (placePdu s.rxWindow header payload) (fun res => ∃ info,
      Stored (s.rxWindow.find? header.sn) header payload info ∧ Written s.rxWindow res.1 header.sn info) E := by
  have hself : ∀ {w : SduWindow RlcRxAmSduInfo} {info}, Written s.rxWindow w header.sn info →
      w.find? header.sn = some info := fun hw => (hw.find? header.sn).trans (if_pos rfl)
  have hmodify : ∀ {w : SduWindow RlcRxAmSduInfo} {info : RlcRxAmSduInfo} (f : RlcRxAmSduInfo → RlcRxAmSduInfo),
      Written s.rxWindow w header.sn info →
        Yields (SduWindow.modifySn w header.sn f) (Written s.rxWindow · header.sn (f info)) E := by
    intro w info f hw
    refine (SduWindow.yields_modifySn hw.wellFormed (hself hw)).post fun w' hw' => ?_
    refine ⟨fun j => ?_, hw'.2.1, hw'.2.2.1.trans hw.capacity⟩
    rw [hw'.1, hw.find?]
    split <;> rfl
  unfold placePdu
  refine yields_ite (fun hsi => ?_) fun hsi => ?_
  · refine yields_bind (ensureSn_spec h hsn hin) fun w hw => ?_
    refine yields_bind (hmodify _ hw) fun w' hw' => ?_
    exact ⟨_, .full hsi, hw'⟩
  · refine yields_bind (ensureSn_spec h hsn hin) fun w hw => ?_
    refine yields_bind (SduWindow.yields_atSn (hself hw)) ?_
    rintro _ rfl
    refine yields_bind (updateSegmentInventory_spec (storeSegment_segments _ _)) fun info hinfo => ?_
    refine yields_bind (hmodify _ hw) fun w' hw' => ?_
    exact ⟨_, .segment hsi info hinfo, hw'⟩

end Placing

/-- The state after a PDU has been placed: only its own SN may now be fully received at `rx_next` or at
`rx_highest_status`. -/
structure RxPlaced (cfg : RlcRxAmConfig) (s : RlcRxAmEntity) (sn : Nat) : Prop extends RxBase cfg s where
  placed : ∃ info, s.rxWindow.find? sn = some info
  rxNext_missing : s.fullyReceivedSn s.st.rxNext = true → sn = s.st.rxNext
  highestStatus_missing : s.fullyReceivedSn s.st.rxHighestStatus = true → sn = s.st.rxHighestStatus
  trigger : s.reassemblyTimerRunning = true → s.TriggerInv cfg

section Highest

variable {cfg : RlcRxAmConfig} {s : RlcRxAmEntity} {header : RlcAmPduHeader} {payload : List UInt8}
  {w : SduWindow RlcRxAmSduInfo} {info : RlcRxAmSduInfo}

lemma fullyReceivedSn_iff {sn : Nat} :
    s.fullyReceivedSn sn = true ↔ ∃ info, s.rxWindow.find? sn = some info ∧ info.fullyReceived = true := by
  unfold fullyReceivedSn
  cases s.rxWindow.find? sn <;> simp

lemma fullyReceivedSn_congr {s' : RlcRxAmEntity} {sn : Nat} (h : s'.rxWindow.find? sn = s.rxWindow.find? sn) :
    s'.fullyReceivedSn sn = s.fullyReceivedSn sn := by
  unfold fullyReceivedSn
  rw [h]

lemma updateRxNextHighest_spec (h : s.RxBase cfg) {sn : Nat} (hin : s.dist cfg sn < cfg.amWindowSize) :
    ∃ x < cfg.mod, s.dist cfg x = max (s.dist cfg s.st.rxNextHighest) (s.dist cfg sn + 1) ∧
      updateRxNextHighest cfg { s with rxWindow := w } sn =
        { s with rxWindow := w, st := { s.st with rxNextHighest := x } } := by
  have hmod := cfg.mod_eq
  by_cases hge : s.dist cfg sn ≥ s.dist cfg s.st.rxNextHighest
  · have hsucc : s.dist cfg ((sn + 1) % cfg.mod) = s.dist cfg sn + 1 := dist_succ (by omega)
    refine ⟨(sn + 1) % cfg.mod, Nat.mod_lt _ cfg.mod_pos, by omega, if_pos ?_⟩
    change s.rxModBase cfg sn ≥ s.rxModBase cfg s.st.rxNextHighest
    rw [rxModBase_eq h.rxNext_lt, rxModBase_eq h.rxNext_lt]
    exact hge
  · refine ⟨s.st.rxNextHighest, h.nextHighest_lt, by omega, if_neg ?_⟩
    change ¬s.rxModBase cfg sn ≥ s.rxModBase cfg s.st.rxNextHighest
    rw [rxModBase_eq h.rxNext_lt, rxModBase_eq h.rxNext_lt]
    exact hge

lemma placed_spec (h : s.RxInv cfg) (hsn : header.sn < cfg.mod) (hin : s.dist cfg header.sn < cfg.amWindowSize)
    (hstored : Stored (s.rxWindow.find? header.sn) header payload info) (hw : Written s.rxWindow w header.sn info) :
    (updateRxNextHighest cfg { s with rxWindow := w } header.sn).RxPlaced cfg header.sn := by
  obtain ⟨x, hx, hdist, heq⟩ := updateRxNextHighest_spec (w := w) h.toRxBase hin
  rw [heq]
  have hself : w.find? header.sn = some info := (hw.find? header.sn).trans (if_pos rfl)
  have hkept : ∀ {j v}, s.rxWindow.find? j = some v → ∃ v', w.find? j = some v' := by
    intro j v hjv
    rw [hw.find?]
    split
    · exact ⟨info, rfl⟩
    · exact ⟨v, hjv⟩
  have hmissing : ∀ {j}, s.fullyReceivedSn j = false →
      RlcRxAmEntity.fullyReceivedSn { s with rxWindow := w, st := { s.st with rxNextHighest := x } } j = true →
        header.sn = j := by
    intro j hj hj'
    by_contra hne
    have hsame : w.find? j = s.rxWindow.find? j := (hw.find? j).trans (if_neg (Ne.symm hne))
    rw [fullyReceivedSn_congr hsame, hj] at hj'
    cases hj'
  refine ⟨⟨h.rxNext_lt, h.highestStatus_lt, hx, h.trigger_lt, ?_, ?_, ?_, fun _ => ?_⟩, ⟨info, hself⟩,
    hmissing h.rxNext_missing, hmissing h.highestStatus_missing, fun hrun => ?_⟩
  · exact (h.highestStatus_le.trans (le_max_left _ _)).trans hdist.ge
  · exact hdist.le.trans (max_le h.nextHighest_le hin)
  · refine ⟨hw.wellFormed, hw.capacity.trans h.window.capacity, fun j v hjv => ?_, fun j v hjv hv => ?_⟩
    · change w.find? j = some v at hjv
      change j < cfg.mod ∧ s.dist cfg j < s.dist cfg x
      rw [hw.find?] at hjv
      split at hjv
      case isTrue hj =>
        rw [hj]
        exact ⟨hsn, by omega⟩
      case isFalse =>
        obtain ⟨hj, hlt⟩ := h.window.inWindow j v hjv
        exact ⟨hj, by omega⟩
    · change w.find? j = some v at hjv
      rw [hw.find?] at hjv
      split at hjv
      · cases hjv
        exact hstored.segments hv
      · exact h.window.segments j v hjv hv
  · -- the highest SN received is that of the PDU or the one before
    by_cases hge : s.dist cfg s.st.rxNextHighest ≤ s.dist cfg header.sn
    · refine ⟨header.sn, info, hself, ?_⟩
      change s.dist cfg header.sn + 1 = s.dist cfg x
      omega
    · obtain ⟨j, v, hjv, hj⟩ := h.ends (by omega)
      obtain ⟨v', hv'⟩ := hkept hjv
      refine ⟨j, v', hv', ?_⟩
      change s.dist cfg j + 1 = s.dist cfg x
      omega
  · obtain ⟨hpos, hle, j, v, hjv, hj⟩ := h.trigger hrun
    obtain ⟨v', hv'⟩ := hkept hjv
    refine ⟨hpos, ?_, j, v', hv', hj⟩
    change s.dist cfg s.st.rxNextStatusTrigger ≤ s.dist cfg x
    omega

lemma firstNotReceived_spec (h : s.RxBase cfg) {E : RlcAbort → Prop} {fuel x : Nat} (hx : x < cfg.mod)
    (hle : s.dist cfg x ≤ s.dist cfg s.st.rxNextHighest)
    (hfuel : s.dist cfg s.st.rxNextHighest - s.dist cfg x < fuel) :
    Yields (firstNotReceived cfg s fuel x) (fun r => r < cfg.mod ∧ s.dist cfg x ≤ s.dist cfg r ∧
      s.dist cfg r ≤ s.dist cfg s.st.rxNextHighest ∧ s.fullyReceivedSn r = false) E := by
  have hmod := cfg.mod_eq
  have hhighest := h.nextHighest_le
  have hW := cfg.amWindowSize_pos
  induction fuel generalizing x with
  | zero => exact absurd hfuel (Nat.not_lt_zero _)
  | succ fuel ih =>
    unfold firstNotReceived
    rw [rxModBase_eq h.rxNext_lt, rxModBase_eq h.rxNext_lt]
    refine yields_ite (fun hlt => ?_) fun hge => ?_
    · cases hreceived : s.fullyReceivedSn x with
      | false => exact ⟨hx, le_rfl, hle, hreceived⟩
      | true =>
        have hsucc : s.dist cfg ((x + 1) % cfg.mod) = s.dist cfg x + 1 := dist_succ (by omega)
        refine (ih (Nat.mod_lt _ cfg.mod_pos) (by omega) (by omega)).post fun r hr => ?_
        exact ⟨hr.1, by omega, hr.2.2⟩
    · -- nothing is in the window from `rx_next_highest` on
      refine ⟨hx, le_rfl, hle, ?_⟩
      by_contra hreceived
      obtain ⟨info, hinfo, -⟩ := fullyReceivedSn_iff.mp (Bool.not_eq_false _ ▸ hreceived)
      exact hge (h.window.inWindow x info hinfo).2

end Highest

/-- `rx_next` moves on by `d` SNs, all of them fully received, and their entries leave the window. -/
structure Advanced (cfg : RlcRxAmConfig) (s s' : RlcRxAmEntity) (d : Nat) : Prop where
  others : ∃ w x, s' = { s with rxWindow := w, st := { s.st with rxNext := x } }
  rxNext : s'.st.rxNext = (s.st.rxNext + d) % cfg.mod
  le : d ≤ s.dist cfg s.st.rxNextHighest
  wellFormed : s'.rxWindow.WellFormed
  capacity : s'.rxWindow.capacity = s.rxWindow.capacity
  find? : ∀ j v, s'.rxWindow.find? j = some v ↔ s.rxWindow.find? j = some v ∧ d ≤ s.dist cfg j
  received : ∀ j < cfg.mod, s.dist cfg j < d → s.fullyReceivedSn j = true
  missing : s'.fullyReceivedSn s'.st.rxNext = false

section Advancing

variable {cfg : RlcRxAmConfig} {s s' : RlcRxAmEntity} {d j : Nat}

lemma releaseReceived_spec (h : s.RxBase cfg) {E : RlcAbort → Prop} {fuel x : Nat} {w : SduWindow RlcRxAmSduInfo}
    (hx : x < cfg.mod) (hle : s.dist cfg x ≤ s.dist cfg s.st.rxNextHighest)
    (hfuel : s.dist cfg s.st.rxNextHighest - s.dist cfg x < fuel) (hwf : w.WellFormed)
    (hcapacity : w.capacity = s.rxWindow.capacity)
    (hfind : ∀ j v, w.find? j = some v ↔ s.rxWindow.find? j = some v ∧ s.dist cfg x ≤ s.dist cfg j)
    (hreceived : ∀ j < cfg.mod, s.dist cfg j < s.dist cfg x → s.fullyReceivedSn j = true) :
    Yields (releaseReceived cfg fuel { s with rxWindow := w } x)
      (fun res => Advanced cfg s { res.1 with st := { res.1.st with rxNext := res.2 } } (s.dist cfg res.2)) E := by
  have hmod := cfg.mod_eq
  have hhighest := h.nextHighest_le
  have hW := cfg.amWindowSize_pos
  have hnext : x = (s.st.rxNext + s.dist cfg x) % cfg.mod := by
    have hadd : (s.st.rxNext + s.dist cfg x) % cfg.mod = x % cfg.mod := add_snDist cfg.mod_pos
    rw [hadd, Nat.mod_eq_of_lt hx]
  induction fuel generalizing x w with
  | zero => exact absurd hfuel (Nat.not_lt_zero _)
  | succ fuel ih =>
    have hstop : RlcRxAmEntity.fullyReceivedSn { s with rxWindow := w } x = false →
        Advanced cfg s { s with rxWindow := w, st := { s.st with rxNext := x } } (s.dist cfg x) := fun hmissing =>
      ⟨⟨w, x, rfl⟩, hnext, hle, hwf, hcapacity, hfind, hreceived, hmissing⟩
    unfold releaseReceived
    change Yields (if s.rxModBase cfg x < s.rxModBase cfg s.st.rxNextHighest then _ else _) _ _
    rw [rxModBase_eq h.rxNext_lt, rxModBase_eq h.rxNext_lt]
    refine yields_ite (fun hlt => ?_) fun hge => ?_
    · cases hfull : RlcRxAmEntity.fullyReceivedSn { s with rxWindow := w } x with
      | false => exact hstop hfull
      | true =>
        obtain ⟨info, hinfo, hinfoFull⟩ := fullyReceivedSn_iff.mp hfull
        have hsucc : s.dist cfg ((x + 1) % cfg.mod) = s.dist cfg x + 1 := dist_succ (by omega)
        rw [if_pos rfl]
        refine yields_bind (SduWindow.yields_removeSn hwf hinfo) fun w' hw' => ?_
        refine ih (Nat.mod_lt _ cfg.mod_pos) (by omega) (by omega) hw'.2.1 (hw'.2.2.1.trans hcapacity) ?_ ?_ ?_
        · intro j v
          rw [hw'.1, hsucc]
          by_cases hj : j = x
          · rw [if_pos hj, hj]
            constructor
            · intro hv
              cases hv
            · rintro ⟨-, hlt'⟩
              omega
          · rw [if_neg hj, hfind]
            constructor
            · rintro ⟨hv, hle'⟩
              refine ⟨hv, ?_⟩
              have hne : s.dist cfg j ≠ s.dist cfg x := fun heq => hj (dist_inj (h.window.inWindow j v hv).1 hx heq)
              omega
            · rintro ⟨hv, hle'⟩
              exact ⟨hv, by omega⟩
        · intro j hj hjlt
          by_cases hjx : s.dist cfg j = s.dist cfg x
          · rw [dist_inj hj hx hjx]
            exact fullyReceivedSn_iff.mpr ⟨info, ((hfind x info).mp hinfo).1, hinfoFull⟩
          · exact hreceived j hj (by omega)
        · rw [hsucc, ← Nat.add_assoc]
          conv_lhs => rw [hnext, Nat.mod_add_mod]
    · apply hstop
      by_contra hfull
      obtain ⟨info, hinfo, -⟩ := fullyReceivedSn_iff.mp (Bool.not_eq_false _ ▸ hfull)
      exact hge (h.window.inWindow x info ((hfind x info).mp hinfo).1).2

lemma Advanced.dist_of_le (h : Advanced cfg s s' d) (hd : d ≤ s.dist cfg j) : s'.dist cfg j = s.dist cfg j - d := by
  unfold dist
  rw [h.rxNext, snDist_mod_left]
  exact snDist_rebase cfg.mod_pos hd

lemma Advanced.dist_of_lt (hbase : s.RxBase cfg) (h : Advanced cfg s s' d) (hd : s.dist cfg j < d) :
    s'.dist cfg j = s.dist cfg j + cfg.mod - d := by
  have hle := h.le.trans hbase.nextHighest_le
  have hmod := cfg.mod_eq
  unfold dist
  rw [h.rxNext, snDist_mod_left]
  exact snDist_rebase_of_lt cfg.mod_pos hd (by omega)

lemma Advanced.le_of_missing (h : Advanced cfg s s' d) (hj : j < cfg.mod) (hmissing : s.fullyReceivedSn j = false) :
    d ≤ s.dist cfg j := by
  by_contra hlt
  rw [h.received j hj (by omega)] at hmissing
  cases hmissing

lemma Advanced.base (hbase : s.RxBase cfg) (h : Advanced cfg s s' d) (hd : d ≤ s.dist cfg s.st.rxHighestStatus) :
    s'.RxBase cfg := by
  have hends := h.le
  obtain ⟨w, x, rfl⟩ := h.others
  have hhighest := h.dist_of_le (j := s.st.rxNextHighest) h.le
  have hstatus := h.dist_of_le hd
  have hstatusLe := hbase.highestStatus_le
  refine ⟨?_, hbase.highestStatus_lt, hbase.nextHighest_lt, hbase.trigger_lt, ?_, ?_, ?_, ?_⟩
  · rw [h.rxNext]
    exact Nat.mod_lt _ cfg.mod_pos
  · rw [hstatus, hhighest]
    omega
  · rw [hhighest]
    exact (Nat.sub_le _ _).trans hbase.nextHighest_le
  · refine ⟨h.wellFormed, h.capacity.trans hbase.window.capacity, fun j v hjv => ?_, fun j v hjv => ?_⟩
    · obtain ⟨hold, hle⟩ := (h.find? j v).mp hjv
      obtain ⟨hj, hlt⟩ := hbase.window.inWindow j v hold
      rw [h.dist_of_le hle, hhighest]
      exact ⟨hj, by omega⟩
    · exact hbase.window.segments j v ((h.find? j v).mp hjv).1
  · intro hpos
    rw [hhighest] at hpos
    obtain ⟨j, v, hjv, hj⟩ := hbase.ends (by omega)
    have hle : d ≤ s.dist cfg j := by omega
    refine ⟨j, v, (h.find? j v).mpr ⟨hjv, hle⟩, ?_⟩
    rw [h.dist_of_le hle, hhighest]
    omega

end Advancing

end RlcRxAmEntity

end OwlsRan.Rlc
