import OwlsRan.Lib.EventRun
import OwlsRan.Rlc.ReassemblyTimer
import OwlsRan.Rlc.RlcRxUmEntity

/-!
# The state variables of the RLC UM receiver

SNs are compared by their distance from the lower edge of the reassembly window.
-/

namespace OwlsRan.Rlc
open OwlsRan.Lib OwlsRan.Adt

namespace RlcRxUmConfig

variable (cfg : RlcRxUmConfig)

lemma mod_dvd : cfg.mod ∣ 2 ^ 32 := by
  unfold mod
  cases cfg.snFieldLength <;> decide

lemma mod_le : cfg.mod ≤ 4096 := by
  unfold mod
  cases cfg.snFieldLength <;> decide

lemma mod_pos : 0 < cfg.mod := Nat.pos_of_dvd_of_pos cfg.mod_dvd (by decide)

lemma one_lt_umWindowSize : 1 < cfg.umWindowSize := by
  unfold umWindowSize
  cases cfg.snFieldLength <;> decide

end RlcRxUmConfig

/-- The flags of an SDU are those of its segments, which are released when the SDU is complete. -/
structure RlcRxUmSduInfo.Settled (info : RlcRxUmSduInfo) : Prop where
  received : info.fullyReceived = true → info.segments = [] ∧ info.hasGap = false
  missing : info.fullyReceived = false → segmentInventory 0 info.segments = (info.hasGap, false)

namespace RlcRxUmEntity

structure Pending (cfg : RlcRxUmConfig) (s : RlcRxUmEntity) (sn : Nat) : Prop where
  sn_lt : sn < cfg.mod
  ge : s.rxModBase cfg s.st.rxNextReassembly ≤ s.rxModBase cfg sn
  lt : s.rxModBase cfg sn < cfg.umWindowSize

structure RxUmInv (cfg : RlcRxUmConfig) (s : RlcRxUmEntity) : Prop where
  reassembly_lt : s.st.rxNextReassembly < cfg.mod
  highest_lt : s.st.rxNextHighest < cfg.mod
  trigger_lt : s.st.rxTimerTrigger < cfg.mod
  reassembly_le : s.rxModBase cfg s.st.rxNextReassembly ≤ cfg.umWindowSize
  wellFormed : s.rxWindow.WellFormed
  settled : ∀ sn info, s.rxWindow.find? sn = some info → info.Settled
  pending : ∀ sn info, s.rxWindow.find? sn = some info → info.fullyReceived = false → s.Pending cfg sn

section Distances

variable {cfg : RlcRxUmConfig} {s s' : RlcRxUmEntity} {x y i : Nat}

lemma rxModBase_eq (h : s.st.rxNextHighest < cfg.mod) (x : Nat) :
    s.rxModBase cfg x = snDist cfg.mod (s.st.rxNextHighest + cfg.umWindowSize) x := by
  have hmod := cfg.mod_eq
  have hle := cfg.mod_le
  exact modBase_eq cfg.mod_dvd (by omega)

lemma rxModBase_congr (h : s'.st.rxNextHighest = s.st.rxNextHighest) : s'.rxModBase cfg x = s.rxModBase cfg x := by
  unfold rxModBase
  rw [h]

lemma rxModBase_lt : s.rxModBase cfg x < cfg.mod := Nat.mod_lt _ cfg.mod_pos

lemma rxModBase_mod (h : s.st.rxNextHighest < cfg.mod) : s.rxModBase cfg (x % cfg.mod) = s.rxModBase cfg x := by
  rw [rxModBase_eq h, rxModBase_eq h, snDist_mod_right]

lemma rxModBase_highest (h : s.st.rxNextHighest < cfg.mod) :
    s.rxModBase cfg s.st.rxNextHighest = cfg.umWindowSize := by
  have hmod := cfg.mod_eq
  have hW := cfg.umWindowSize_pos
  rw [rxModBase_eq h]
  apply snDist_unique cfg.mod_pos (by omega)
  rw [show s.st.rxNextHighest + cfg.umWindowSize + cfg.umWindowSize = s.st.rxNextHighest + cfg.mod by omega,
    Nat.add_mod_right]

lemma rxModBase_lowerEdge (h : s.st.rxNextHighest < cfg.mod) : s.rxModBase cfg (s.lowerEdge cfg) = 0 := by
  have hmod := cfg.mod_eq
  have hle := cfg.mod_le
  obtain ⟨k, hk⟩ := cfg.mod_dvd
  rw [rxModBase_eq h]
  apply snDist_unique cfg.mod_pos cfg.mod_pos
  unfold lowerEdge
  have hturns : s.st.rxNextHighest + cfg.umWindowSize + cfg.mod * k =
      s.st.rxNextHighest + 2 ^ 32 - cfg.umWindowSize + cfg.mod := by omega
  rw [Nat.mod_mod_of_dvd _ cfg.mod_dvd, Nat.add_zero, ← Nat.add_mul_mod_self_left _ _ k, hturns, Nat.add_mod_right]

lemma snInReassemblyWindow_iff (h : s.st.rxNextHighest < cfg.mod) :
    s.snInReassemblyWindow cfg x = true ↔ s.rxModBase cfg x < cfg.umWindowSize := by
  unfold snInReassemblyWindow
  rw [rxModBase_lowerEdge h, rxModBase_highest h, Bool.and_eq_true, decide_eq_true_iff, decide_eq_true_iff]
  exact and_iff_right (Nat.zero_le _)

lemma snInvalidForRxBuffer_iff (h : s.st.rxNextHighest < cfg.mod) :
    s.snInvalidForRxBuffer cfg x = true ↔ s.rxModBase cfg x < s.rxModBase cfg s.st.rxNextReassembly := by
  unfold snInvalidForRxBuffer
  rw [rxModBase_lowerEdge h, Bool.and_eq_true, decide_eq_true_iff, decide_eq_true_iff]
  exact and_iff_right (Nat.zero_le _)

lemma rxModBase_inj (h : s.st.rxNextHighest < cfg.mod) (hx : x < cfg.mod) (hy : y < cfg.mod)
    (heq : s.rxModBase cfg x = s.rxModBase cfg y) : x = y := by
  rw [rxModBase_eq h, rxModBase_eq h] at heq
  have := snDist_congr cfg.mod_pos heq
  rwa [Nat.mod_eq_of_lt hx, Nat.mod_eq_of_lt hy] at this

lemma rxModBase_add (h : s.st.rxNextHighest < cfg.mod) (hi : s.rxModBase cfg x + i < cfg.mod) :
    s.rxModBase cfg ((x + i) % cfg.mod) = s.rxModBase cfg x + i := by
  have hbase := rxModBase_eq h x
  rw [rxModBase_mod h, rxModBase_eq h (x + i)]
  apply snDist_unique cfg.mod_pos hi
  rw [hbase, ← Nat.add_assoc, ← Nat.mod_add_mod, add_snDist cfg.mod_pos, Nat.mod_add_mod]

lemma rxModBase_add_eq_zero (h : s.st.rxNextHighest < cfg.mod) (hi : s.rxModBase cfg x + i = cfg.mod) :
    s.rxModBase cfg ((x + i) % cfg.mod) = 0 := by
  have hbase := rxModBase_eq h x
  have hsum := add_snDist (b := s.st.rxNextHighest + cfg.umWindowSize) (x := x) cfg.mod_pos
  rw [← hbase] at hsum
  rw [rxModBase_mod h, rxModBase_eq h (x + i)]
  apply snDist_unique cfg.mod_pos cfg.mod_pos
  rw [Nat.add_zero, ← Nat.mod_add_mod x, ← hsum, Nat.mod_add_mod, Nat.add_assoc _ _ i, hi, Nat.add_mod_right]

lemma exists_add_lt (h : s.st.rxNextHighest < cfg.mod) (x : Nat) :
    ∃ d < cfg.mod, s.rxModBase cfg ((x + d) % cfg.mod) < cfg.umWindowSize := by
  have hlt : s.rxModBase cfg x < cfg.mod := rxModBase_lt
  have hW := cfg.umWindowSize_pos
  by_cases hin : s.rxModBase cfg x < cfg.umWindowSize
  · refine ⟨0, cfg.mod_pos, ?_⟩
    rw [rxModBase_mod h, Nat.add_zero]
    exact hin
  · refine ⟨cfg.mod - s.rxModBase cfg x, by omega, ?_⟩
    rw [rxModBase_add_eq_zero h (by omega)]
    exact hW

lemma first_in_window {k : Nat} (h : s.st.rxNextHighest < cfg.mod)
    (hout : ∀ i < k, cfg.umWindowSize ≤ s.rxModBase cfg ((x + i) % cfg.mod))
    (hin : s.rxModBase cfg ((x + k) % cfg.mod) < cfg.umWindowSize) :
    (s.rxModBase cfg x < cfg.umWindowSize ∧ k = 0) ∨
      (cfg.umWindowSize ≤ s.rxModBase cfg x ∧ k = cfg.mod - s.rxModBase cfg x) := by
  have hlt : s.rxModBase cfg x < cfg.mod := rxModBase_lt
  have hW := cfg.umWindowSize_pos
  by_cases hx : s.rxModBase cfg x < cfg.umWindowSize
  · left
    refine ⟨hx, Nat.eq_zero_of_not_pos fun hk => ?_⟩
    have hzero := hout 0 hk
    rw [rxModBase_mod h, Nat.add_zero] at hzero
    omega
  · right
    refine ⟨Nat.not_lt.mp hx, Nat.le_antisymm (Nat.not_lt.mp fun hk => ?_) (Nat.not_lt.mp fun hk => ?_)⟩
    · have hedge := hout _ hk
      rw [rxModBase_add_eq_zero h (by omega)] at hedge
      omega
    · rw [rxModBase_add h (by omega)] at hin
      omega

lemma rxModBase_moved (h : s.st.rxNextHighest < cfg.mod) (hx : cfg.umWindowSize ≤ s.rxModBase cfg x)
    (hs' : s'.st.rxNextHighest = (x + 1) % cfg.mod) (y : Nat) :
    s'.rxModBase cfg y = if s.rxModBase cfg x + 1 - cfg.umWindowSize ≤ s.rxModBase cfg y then
      s.rxModBase cfg y - (s.rxModBase cfg x + 1 - cfg.umWindowSize)
    else s.rxModBase cfg y + cfg.mod - (s.rxModBase cfg x + 1 - cfg.umWindowSize) := by
  have hmod := cfg.mod_eq
  have hlt : s.rxModBase cfg x < cfg.mod := rxModBase_lt
  have hbase := rxModBase_eq h x
  have hedge : (s'.st.rxNextHighest + cfg.umWindowSize) % cfg.mod =
      (s.st.rxNextHighest + cfg.umWindowSize + (s.rxModBase cfg x + 1 - cfg.umWindowSize)) % cfg.mod := by
    have hsum := add_snDist (b := s.st.rxNextHighest + cfg.umWindowSize) (x := x) cfg.mod_pos
    rw [← hbase] at hsum
    rw [hs', Nat.mod_add_mod, Nat.add_assoc, ← Nat.mod_add_mod, ← hsum, Nat.mod_add_mod, ← Nat.add_mod_right _ cfg.mod]
    rw [show s.st.rxNextHighest + cfg.umWindowSize + s.rxModBase cfg x + (1 + cfg.umWindowSize) =
      s.st.rxNextHighest + cfg.umWindowSize + (s.rxModBase cfg x + 1 - cfg.umWindowSize) + cfg.mod by omega,
      Nat.add_mod_right, Nat.add_mod_right]
  have hs'_lt : s'.st.rxNextHighest < cfg.mod := by
    rw [hs']
    exact Nat.mod_lt _ cfg.mod_pos
  rw [rxModBase_eq hs'_lt, ← snDist_mod_left, hedge, snDist_mod_left, rxModBase_eq h y]
  split
  case isTrue hle => exact snDist_rebase cfg.mod_pos hle
  case isFalse hle => exact snDist_rebase_of_lt cfg.mod_pos (Nat.not_le.mp hle) (by omega)

lemma Pending.congr (h : s.Pending cfg x) (hst : s'.st = s.st) : s'.Pending cfg x := by
  have hbase : ∀ y, s'.rxModBase cfg y = s.rxModBase cfg y := fun _ => rxModBase_congr (congrArg _ hst)
  exact ⟨h.sn_lt, by rw [hbase, hbase, hst]; exact h.ge, by rw [hbase]; exact h.lt⟩

end Distances

section Sweeps

variable {cfg : RlcRxUmConfig} {s : RlcRxUmEntity} {w : SduWindow RlcRxUmSduInfo}
  {goesOn : SduWindow RlcRxUmSduInfo → Nat → Bool} {a d n : Nat}

/-- The loop stops at the first of the SNs from `a` on at which its condition fails, and those before it are gone. -/
structure Swept (cfg : RlcRxUmConfig) (goesOn : SduWindow RlcRxUmSduInfo → Nat → Bool) (w : SduWindow RlcRxUmSduInfo)
    (a k : Nat) (res : SduWindow RlcRxUmSduInfo × Nat) : Prop where
  passed : ∀ i < k, goesOn w ((a + i) % cfg.mod) = true
  stopped : goesOn w ((a + k) % cfg.mod) = false
  sn : res.2 = (a + k) % cfg.mod
  wellFormed : res.1.WellFormed
  find? : ∀ j v, res.1.find? j = some v ↔ w.find? j = some v ∧ ∀ i < k, j ≠ (a + i) % cfg.mod

lemma sweep_spec (hlocal : ∀ w w' sn, w.find? sn = w'.find? sn → goesOn w sn = goesOn w' sn) (hw : w.WellFormed)
    (ha : a < cfg.mod) (hstop : goesOn w ((a + d) % cfg.mod) = false) (hd : d < n) (hn : n ≤ cfg.mod) :
    ∃ k ≤ d, Swept cfg goesOn w a k (sweep cfg goesOn n w a) := by
  induction n generalizing w a d with
  | zero => exact absurd hd (Nat.not_lt_zero d)
  | succ n ih =>
    have hmod := cfg.mod_pos
    unfold sweep
    cases hgoes : goesOn w a with
    | false =>
      rw [if_neg Bool.false_ne_true]
      have hzero : (a + 0) % cfg.mod = a := Nat.mod_eq_of_lt ha
      exact ⟨0, Nat.zero_le d, fun _ hi => absurd hi (Nat.not_lt_zero _), by rwa [hzero], hzero.symm, hw,
        fun _ _ => ⟨fun hj => ⟨hj, fun _ hi => absurd hi (Nat.not_lt_zero _)⟩, And.left⟩⟩
    | true =>
      rw [if_pos rfl]
      have hshift : ∀ i, ((a + 1) % cfg.mod + i) % cfg.mod = (a + (i + 1)) % cfg.mod := by
        intro i
        rw [Nat.mod_add_mod, Nat.add_assoc, Nat.add_comm 1 i]
      have hother : ∀ i, i + 1 < cfg.mod → (a + (i + 1)) % cfg.mod ≠ a := by
        intro i hi heq
        have hne := add_mod_ne (b := a) (Nat.succ_pos i) hi
        rw [Nat.add_zero, Nat.mod_eq_of_lt ha] at hne
        exact hne heq.symm
      have hsame : ∀ i, i + 1 < cfg.mod →
          goesOn (w.erase a) ((a + (i + 1)) % cfg.mod) = goesOn w ((a + (i + 1)) % cfg.mod) := by
        intro i hi
        apply hlocal
        rw [CircularMap.erase_find?, if_neg (hother i hi)]
      cases d with
      | zero =>
        rw [Nat.add_zero, Nat.mod_eq_of_lt ha, hgoes] at hstop
        cases hstop
      | succ d =>
        have hstop' : goesOn (w.erase a) (((a + 1) % cfg.mod + d) % cfg.mod) = false := by
          rw [hshift, hsame d (by omega)]
          exact hstop
        obtain ⟨k, hkd, hk⟩ := ih (CircularMap.erase_wellFormed hw) (Nat.mod_lt _ hmod) hstop' (by omega) (by omega)
        refine ⟨k + 1, by omega, fun i hi => ?_, ?_, ?_, hk.wellFormed, fun j v => ?_⟩
        · cases i with
          | zero => rwa [Nat.add_zero, Nat.mod_eq_of_lt ha]
          | succ i =>
            rw [← hsame i (by omega), ← hshift]
            exact hk.passed i (by omega)
        · rw [← hsame k (by omega), ← hshift]
          exact hk.stopped
        · exact hk.sn.trans (hshift k)
        · rw [hk.find?, CircularMap.erase_find?]
          constructor
          · intro ⟨hj, hpassed⟩
            split at hj
            case isTrue => cases hj
            case isFalse hja =>
              refine ⟨hj, fun i hi => ?_⟩
              cases i with
              | zero => rwa [Nat.add_zero, Nat.mod_eq_of_lt ha]
              | succ i =>
                rw [← hshift]
                exact hpassed i (by omega)
          · intro ⟨hj, hpassed⟩
            have hja := hpassed 0 (Nat.succ_pos k)
            rw [Nat.add_zero, Nat.mod_eq_of_lt ha] at hja
            refine ⟨by rw [if_neg hja]; exact hj, fun i hi => ?_⟩
            rw [hshift]
            exact hpassed (i + 1) (by omega)

lemma fullyReceivedSn_congr {w w' : SduWindow RlcRxUmSduInfo} {sn : Nat} (h : w.find? sn = w'.find? sn) :
    fullyReceivedSn w sn = fullyReceivedSn w' sn := by
  unfold fullyReceivedSn
  rw [h]

lemma le_of_not_passed {j k : Nat} (h : s.st.rxNextHighest < cfg.mod) (hj : j < cfg.mod)
    (hge : s.rxModBase cfg a ≤ s.rxModBase cfg j) (hk : s.rxModBase cfg a + k < cfg.mod)
    (hnot : ∀ i < k, j ≠ (a + i) % cfg.mod) : s.rxModBase cfg a + k ≤ s.rxModBase cfg j := by
  by_contra hlt
  obtain ⟨i, hi⟩ := Nat.exists_eq_add_of_le hge
  apply hnot i (by omega)
  apply rxModBase_inj h hj (Nat.mod_lt _ cfg.mod_pos)
  rw [rxModBase_add h (by omega), hi]

lemma RxUmInv.advance (h : RxUmInv cfg s) (hlocal : ∀ w w' sn, w.find? sn = w'.find? sn → goesOn w sn = goesOn w' sn)
    (hhighest : ∀ w, goesOn w s.st.rxNextHighest = false) :
    ∃ k, s.rxModBase cfg s.st.rxNextReassembly + k ≤ cfg.umWindowSize ∧
      Swept cfg goesOn s.rxWindow s.st.rxNextReassembly k (sweep cfg goesOn cfg.mod s.rxWindow s.st.rxNextReassembly) ∧
      RxUmInv cfg { s with
        rxWindow := (sweep cfg goesOn cfg.mod s.rxWindow s.st.rxNextReassembly).1
        st := { s.st with rxNextReassembly := (sweep cfg goesOn cfg.mod s.rxWindow s.st.rxNextReassembly).2 } } := by
  have hmod := cfg.mod_eq
  have hW := cfg.umWindowSize_pos
  have hle := h.reassembly_le
  obtain ⟨d, hd⟩ := Nat.exists_eq_add_of_le hle
  have hend : (s.st.rxNextReassembly + d) % cfg.mod = s.st.rxNextHighest := by
    apply rxModBase_inj h.highest_lt (Nat.mod_lt _ cfg.mod_pos) h.highest_lt
    rw [rxModBase_add h.highest_lt (by omega), rxModBase_highest h.highest_lt, hd]
  have hstop : goesOn s.rxWindow ((s.st.rxNextReassembly + d) % cfg.mod) = false := by rw [hend, hhighest]
  obtain ⟨k, hk, hswept⟩ := sweep_spec hlocal h.wellFormed h.reassembly_lt hstop (by omega) (Nat.le_refl cfg.mod)
  generalize sweep cfg goesOn cfg.mod s.rxWindow s.st.rxNextReassembly = res at hswept
  have hbase : s.rxModBase cfg res.2 = s.rxModBase cfg s.st.rxNextReassembly + k := by
    rw [hswept.sn, rxModBase_add h.highest_lt (by omega)]
  refine ⟨k, by omega, hswept, ?_⟩
  have hle' : s.rxModBase cfg res.2 ≤ cfg.umWindowSize := by omega
  refine ⟨?_, h.highest_lt, h.trigger_lt, hle', hswept.wellFormed, fun sn info hinfo => ?_, fun sn info hinfo hmissing => ?_⟩
  · change res.2 < cfg.mod
    rw [hswept.sn]
    exact Nat.mod_lt _ cfg.mod_pos
  · exact h.settled sn info ((hswept.find? sn info).mp hinfo).1
  · obtain ⟨hold, hnot⟩ := (hswept.find? sn info).mp hinfo
    have hpending := h.pending sn info hold hmissing
    have hge : s.rxModBase cfg res.2 ≤ s.rxModBase cfg sn := by
      rw [hbase]
      exact le_of_not_passed h.highest_lt hpending.sn_lt hpending.ge (by omega) hnot
    exact ⟨hpending.sn_lt, hge, hpending.lt⟩

end Sweeps

section Placing

variable {cfg : RlcRxUmConfig} {s : RlcRxUmEntity} {w w' : SduWindow RlcRxUmSduInfo} {header : RlcUmPduHeader}
  {payload : List UInt8} {info : RlcRxUmSduInfo} {sn : Nat}

structure Placed (w w' : SduWindow RlcRxUmSduInfo) (sn : Nat) (info : RlcRxUmSduInfo) : Prop where
  find?_sn : w'.find? sn = some info
  other : ∀ j v, j ≠ sn → w'.find? j = some v → w.find? j = some v
  wellFormed : w'.WellFormed

lemma handleSegmentDataSdu_spec (hw : w.WellFormed) (header : RlcUmPduHeader) (payload : List UInt8) : ∃ w', handleSegmentDataSdu w header payload = .ok w' ∧
    Placed w w' header.sn (((w.find? header.sn).getD .default).storeSegment
      ⟨header.si, header.so, payload⟩).updateSegmentInventory := by
  unfold handleSegmentDataSdu
  have hmodify : ∀ {w₁ : SduWindow RlcRxUmSduInfo} {v} (f : RlcRxUmSduInfo → RlcRxUmSduInfo), w₁.WellFormed →
      w₁.find? header.sn = some v → (∀ j v, j ≠ header.sn → w₁.find? j = some v → w.find? j = some v) →
        ∃ w', SduWindow.modifySn w₁ header.sn f = .ok w' ∧ Placed w w' header.sn (f v) := by
    intro w₁ v f hw₁ hv hother
    obtain ⟨hfind, hwf⟩ := CircularMap.modify_spec (f := f) hw₁ hv
    refine ⟨_, if_pos (SduWindow.hasSn_iff.mpr ⟨v, hv⟩), ?_, fun j v' hj hv' => ?_, hwf⟩
    · rw [hfind, if_pos rfl]
    · rw [hfind, if_neg hj] at hv'
      exact hother j v' hj hv'
  cases hsn : w.find? header.sn with
  | some v =>
    rw [if_pos (SduWindow.hasSn_iff.mpr ⟨v, hsn⟩)]
    exact hmodify _ hw hsn fun _ _ _ hj => hj
  | none =>
    have hnone := SduWindow.hasSn_eq_false_iff.mpr hsn
    have hadd : SduWindow.addSn w header.sn .default = .ok (w.overwrite header.sn .default) := by
      unfold SduWindow.addSn
      rw [hnone]
      rfl
    rw [hnone, if_neg Bool.false_ne_true, hadd]
    apply hmodify _ (CircularMap.overwrite_wellFormed hw)
    · rw [CircularMap.overwrite_find? hw, if_pos rfl]
      rfl
    · intro j v hj hv
      rw [CircularMap.overwrite_find? hw, if_neg hj] at hv
      split at hv
      · cases hv
      · exact hv

lemma segmentInventory_received {set : List RlcRxAmSduSegment} (nextByte : Nat)
    (h : (segmentInventory nextByte set).2 = true) : (segmentInventory nextByte set).1 = false := by
  induction set generalizing nextByte with
  | nil => cases h
  | cons segm rest ih =>
    unfold segmentInventory at h ⊢
    split at h
    · cases h
    case isFalse hso =>
      rw [if_neg hso]
      split
      · rfl
      case isFalse hlast =>
        rw [if_neg hlast] at h
        exact ih _ h

lemma RxUmInv.received (h : RxUmInv cfg s) (hplaced : Placed s.rxWindow w sn info)
    (hflags : segmentInventory 0 info.segments = (info.hasGap, info.fullyReceived)) (hfull : info.fullyReceived = true) :
    RxUmInv cfg { s with rxWindow := w.modify sn fun info => { info with segments := [] } } := by
  obtain ⟨hfind, hwf⟩ :=
    CircularMap.modify_spec (f := fun info => { info with segments := [] }) hplaced.wellFormed hplaced.find?_sn
  have hgap := segmentInventory_received 0 (by rw [hflags]; exact hfull)
  rw [hflags] at hgap
  refine { h with wellFormed := hwf, settled := fun j v hv => ?_, pending := fun j v hv hmissing => ?_ }
  · change CircularMap.find? _ j = some v at hv
    rw [hfind] at hv
    split at hv
    · cases hv
      exact ⟨fun _ => ⟨rfl, hgap⟩, fun hmissing => absurd (hmissing.symm.trans hfull) Bool.false_ne_true⟩
    case isFalse hj => exact h.settled j v (hplaced.other j v hj hv)
  · change CircularMap.find? _ j = some v at hv
    rw [hfind] at hv
    split at hv
    · cases hv
      exact absurd (hmissing.symm.trans hfull) Bool.false_ne_true
    case isFalse hj => exact (h.pending j v (hplaced.other j v hj hv) hmissing).congr rfl

lemma Placed.settled (hplaced : Placed s.rxWindow w sn info) (h : RxUmInv cfg s)
    (hflags : segmentInventory 0 info.segments = (info.hasGap, info.fullyReceived)) (hmissing : info.fullyReceived = false)
    (j : Nat) (v : RlcRxUmSduInfo) (hv : w.find? j = some v) : v.Settled := by
  by_cases hj : j = sn
  · rw [hj, hplaced.find?_sn] at hv
    cases hv
    refine ⟨fun hfull => absurd (hmissing.symm.trans hfull) Bool.false_ne_true, fun _ => ?_⟩
    rw [hflags, hmissing]
  · exact h.settled j v (hplaced.other j v hj hv)

lemma RxUmInv.segment (h : RxUmInv cfg s) (hplaced : Placed s.rxWindow w sn info)
    (hflags : segmentInventory 0 info.segments = (info.hasGap, info.fullyReceived)) (hmissing : info.fullyReceived = false)
    (hpending : s.Pending cfg sn) : RxUmInv cfg { s with rxWindow := w } := by
  refine { h with
    wellFormed := hplaced.wellFormed, settled := hplaced.settled h hflags hmissing, pending := fun j v hv hj => ?_ }
  by_cases heq : j = sn
  · rw [heq]
    exact hpending.congr rfl
  · exact (h.pending j v (hplaced.other j v heq hv) hj).congr rfl

lemma RxUmInv.moved {s' : RlcRxUmEntity} (h : RxUmInv cfg s) (hplaced : Placed s.rxWindow w sn info)
    (hflags : segmentInventory 0 info.segments = (info.hasGap, info.fullyReceived)) (hmissing : info.fullyReceived = false)
    (hsn : sn < cfg.mod) (hout : cfg.umWindowSize ≤ s.rxModBase cfg sn)
    (hs' : s' = { s with rxWindow := w, st := { s.st with rxNextHighest := (sn + 1) % cfg.mod } }) :
    RxUmInv cfg { s' with
      rxWindow := (sweep cfg (s'.outsideWindow cfg) cfg.mod w s.st.rxNextReassembly).1
      st := { s'.st with rxNextReassembly := (sweep cfg (s'.outsideWindow cfg) cfg.mod w s.st.rxNextReassembly).2 } } := by
  have hmod := cfg.mod_eq
  have hW := cfg.umWindowSize_pos
  have hle := h.reassembly_le
  have hlt : s.rxModBase cfg sn < cfg.mod := rxModBase_lt
  have hhighest : s'.st.rxNextHighest < cfg.mod := by
    rw [hs']
    exact Nat.mod_lt _ cfg.mod_pos
  have hmoved := rxModBase_moved h.highest_lt hout (show s'.st.rxNextHighest = (sn + 1) % cfg.mod by rw [hs'])
  have hinside : ∀ x, s'.outsideWindow cfg w x = false ↔ s'.rxModBase cfg x < cfg.umWindowSize := by
    intro x
    unfold outsideWindow
    rw [Bool.not_eq_false', snInReassemblyWindow_iff hhighest]
  have hlocal : ∀ w₁ w₂ x, w₁.find? x = w₂.find? x → s'.outsideWindow cfg w₁ x = s'.outsideWindow cfg w₂ x :=
    fun _ _ _ _ => rfl
  obtain ⟨d, hd, hstop⟩ := exists_add_lt hhighest s.st.rxNextReassembly
  rw [← hinside] at hstop
  obtain ⟨k, -, hswept⟩ := sweep_spec hlocal hplaced.wellFormed h.reassembly_lt hstop hd (Nat.le_refl cfg.mod)
  generalize sweep cfg (s'.outsideWindow cfg) cfg.mod w s.st.rxNextReassembly = res at hswept
  have hres_lt : res.2 < cfg.mod := by
    rw [hswept.sn]
    exact Nat.mod_lt _ cfg.mod_pos
  have hin : s'.rxModBase cfg res.2 < cfg.umWindowSize := by
    rw [hswept.sn]
    exact (hinside _).mp hswept.stopped
  have hbase : ∀ x, RlcRxUmEntity.rxModBase cfg { s' with rxWindow := res.1, st := { s'.st with rxNextReassembly := res.2 } }
      x = s'.rxModBase cfg x := fun _ => rxModBase_congr rfl
  refine ⟨hres_lt, hhighest, ?_, ?_, hswept.wellFormed, fun j v hv => ?_, fun j v hv hj => ?_⟩
  · rw [hs']
    exact h.trigger_lt
  · rw [hbase]
    exact hin.le
  · exact hplaced.settled h hflags hmissing j v ((hswept.find? j v).mp hv).1
  · obtain ⟨hold, hnot⟩ := (hswept.find? j v).mp hv
    have hmoved_j := hmoved j
    have hmoved_next := hmoved s.st.rxNextReassembly
    have hout' : ∀ i < k, cfg.umWindowSize ≤ s'.rxModBase cfg ((s.st.rxNextReassembly + i) % cfg.mod) := by
      intro i hi
      by_contra hlt
      have := (hinside _).mpr (Nat.not_le.mp hlt)
      rw [hswept.passed i hi] at this
      cases this
    have hin' := hin
    rw [hswept.sn] at hin'
    have hnext : s'.rxModBase cfg res.2 ≤ s'.rxModBase cfg j ∧ s'.rxModBase cfg j < cfg.umWindowSize ∧ j < cfg.mod := by
      by_cases hjsn : j = sn
      · rw [hjsn] at hmoved_j ⊢
        split at hmoved_j
        case isTrue => exact ⟨by omega, by omega, hsn⟩
        case isFalse => omega
      · have hpending := h.pending j v (hplaced.other j v hjsn hold) hj
        have hge := hpending.ge
        have hlt := hpending.lt
        rcases first_in_window hhighest hout' hin' with ⟨hnext, rfl⟩ | ⟨hnext, rfl⟩
        · -- `rx_next_reassembly` stays in the window
          have hres : s'.rxModBase cfg res.2 = s'.rxModBase cfg s.st.rxNextReassembly := by
            rw [hswept.sn, rxModBase_mod hhighest, Nat.add_zero]
          rw [hres]
          split at hmoved_next
          case isTrue hδ =>
            rw [if_pos (hδ.trans hge)] at hmoved_j
            exact ⟨by omega, by omega, hpending.sn_lt⟩
          case isFalse => omega
        · -- all up to the lower edge of the window is removed
          have hlt' : s'.rxModBase cfg s.st.rxNextReassembly < cfg.mod := rxModBase_lt
          have hres : s'.rxModBase cfg res.2 = 0 := by
            rw [hswept.sn, rxModBase_add_eq_zero hhighest (by omega)]
          rw [hres]
          split at hmoved_next
          case isTrue => omega
          case isFalse hδ =>
            have hj_kept := le_of_not_passed h.highest_lt hpending.sn_lt hge (by omega) hnot
            rw [if_pos (by omega)] at hmoved_j
            exact ⟨by omega, by omega, hpending.sn_lt⟩
    exact ⟨hnext.2.2, by rw [hbase, hbase]; exact hnext.1, by rw [hbase]; exact hnext.2.1⟩

structure SameTimer (s s' : RlcRxUmEntity) : Prop where
  running : s'.reassemblyTimerRunning = s.reassemblyTimerRunning
  trigger : s'.st.rxTimerTrigger = s.st.rxTimerTrigger

lemma belowHighest_congr (w w' : SduWindow RlcRxUmSduInfo) (x : Nat) (h : w.find? x = w'.find? x) :
    s.belowHighest cfg w x = s.belowHighest cfg w' x := by
  unfold belowHighest
  rw [fullyReceivedSn_congr h]

lemma belowHighest_highest (w : SduWindow RlcRxUmSduInfo) : s.belowHighest cfg w s.st.rxNextHighest = false := by
  unfold belowHighest
  rw [decide_eq_false (Nat.lt_irrefl _)]
  rfl

lemma updateHighest_spec (h : RxUmInv cfg s) (hplaced : Placed s.rxWindow w sn info)
    (hflags : segmentInventory 0 info.segments = (info.hasGap, info.fullyReceived)) (hmissing : info.fullyReceived = false)
    (hsn : sn < cfg.mod) (hge : s.rxModBase cfg s.st.rxNextReassembly ≤ s.rxModBase cfg sn) :
    RxUmInv cfg (updateState.updateHighest cfg sn { s with rxWindow := w }) ∧
      SameTimer s (updateState.updateHighest cfg sn { s with rxWindow := w }) := by
  unfold updateState.updateHighest
  by_cases hin : RlcRxUmEntity.snInReassemblyWindow cfg { s with rxWindow := w } sn = true
  · rw [if_pos hin]
    have hlt := (snInReassemblyWindow_iff h.highest_lt).mp hin
    exact ⟨h.segment hplaced hflags hmissing ⟨hsn, hge, hlt⟩, rfl, rfl⟩
  · rw [if_neg hin]
    have hout := mt (snInReassemblyWindow_iff h.highest_lt).mpr hin
    have hmoved := h.moved hplaced hflags hmissing hsn (Nat.not_lt.mp hout) rfl
    obtain ⟨k, -, -, hinv⟩ := hmoved.advance belowHighest_congr belowHighest_highest
    dsimp only at hinv ⊢
    rw [Nat.mod_eq_of_lt h.reassembly_lt]
    exact ⟨hinv, rfl, rfl⟩

lemma updateState_spec (h : RxUmInv cfg s) (hplaced : Placed s.rxWindow w sn info)
    (hflags : segmentInventory 0 info.segments = (info.hasGap, info.fullyReceived)) (hsn : sn < cfg.mod)
    (hge : s.rxModBase cfg s.st.rxNextReassembly ≤ s.rxModBase cfg sn) :
    RxUmInv cfg (updateState cfg { s with rxWindow := w } sn).1 ∧
      SameTimer s (updateState cfg { s with rxWindow := w } sn).1 := by
  unfold updateState
  dsimp only
  rw [hplaced.find?_sn]
  dsimp only
  by_cases hfull : info.fullyReceived = true
  · rw [if_pos hfull]
    have hreceived := h.received hplaced hflags hfull
    split
    · obtain ⟨k, -, -, hinv⟩ := hreceived.advance belowHighest_congr belowHighest_highest
      dsimp only at hinv ⊢
      rw [Nat.mod_eq_of_lt h.reassembly_lt]
      exact ⟨hinv, rfl, rfl⟩
    · exact ⟨hreceived, rfl, rfl⟩
  · rw [if_neg hfull]
    exact updateHighest_spec h hplaced hflags (Bool.eq_false_iff.mpr hfull) hsn hge

lemma placePdu_spec (h : RxUmInv cfg s) (hsn : header.sn < cfg.mod) (payload : List UInt8) :
    (s.snInvalidForRxBuffer cfg header.sn = true ∧ placePdu cfg s header payload = .ok none) ∨
      ∃ s₁ sdu, placePdu cfg s header payload = .ok (some (s₁, sdu)) ∧ RxUmInv cfg s₁ ∧ SameTimer s s₁ := by
  unfold placePdu
  by_cases hinvalid : s.snInvalidForRxBuffer cfg header.sn = true
  · left
    exact ⟨hinvalid, if_pos hinvalid⟩
  · right
    rw [if_neg hinvalid]
    have hge := mt (snInvalidForRxBuffer_iff h.highest_lt).mpr hinvalid
    obtain ⟨w', hw', hplaced⟩ := handleSegmentDataSdu_spec h.wellFormed header payload
    obtain ⟨hinv, hsame⟩ := updateState_spec h hplaced rfl hsn (Nat.not_lt.mp hge)
    rw [hw']
    exact ⟨_, _, rfl, hinv, hsame⟩

end Placing

section Runs

inductive RxUmEvent where
  | handlePdu (buf : List UInt8)
  | reassemblyTimerExpires
deriving DecidableEq

def step (cfg : RlcRxUmConfig) (s : RlcRxUmEntity) : RxUmEvent → Except RlcAbort RlcRxUmEntity
  | .handlePdu buf => (handlePdu cfg s buf).map Prod.fst
  | .reassemblyTimerExpires => if s.reassemblyTimerRunning then onExpiredReassemblyTimer cfg s else .ok s

variable {cfg : RlcRxUmConfig} {s s' : RlcRxUmEntity}

lemma init_rxUmInv : RxUmInv cfg (init cfg) := by
  have hmod := cfg.mod_pos
  have hnone : ∀ sn, (init cfg).rxWindow.find? sn = none := fun sn => CircularMap.new_find? _ cfg.umWindowSize_pos
  have hlt : (init cfg).st.rxNextHighest < cfg.mod := hmod
  refine ⟨hmod, hmod, hmod, ?_, CircularMap.new_wellFormed _ cfg.umWindowSize_pos, fun sn info hinfo => ?_,
    fun sn info hinfo => ?_⟩
  · exact (rxModBase_highest hlt).le
  · cases (hnone sn).symm.trans hinfo
  · cases (hnone sn).symm.trans hinfo

lemma belowTrigger_congr (w w' : SduWindow RlcRxUmSduInfo) (x : Nat) (h : w.find? x = w'.find? x) :
    s.belowTrigger cfg w x = s.belowTrigger cfg w' x := by
  unfold belowTrigger
  rw [fullyReceivedSn_congr h]

lemma belowTrigger_highest (w : SduWindow RlcRxUmSduInfo) : s.belowTrigger cfg w s.st.rxNextHighest = false := by
  unfold belowTrigger
  rw [decide_eq_false (Nat.lt_irrefl _)]
  rfl

lemma RxUmInv.timer (h : RxUmInv cfg s) {trigger : Nat} (htrigger : trigger < cfg.mod) (running : Bool) :
    RxUmInv cfg { s with reassemblyTimerRunning := running, st := { s.st with rxTimerTrigger := trigger } } := by
  have hbase : ∀ x, RlcRxUmEntity.rxModBase cfg
      { s with reassemblyTimerRunning := running, st := { s.st with rxTimerTrigger := trigger } } x = s.rxModBase cfg x :=
    fun _ => rxModBase_congr rfl
  refine ⟨h.reassembly_lt, h.highest_lt, htrigger, ?_, h.wellFormed, h.settled, fun sn info hinfo hmissing => ?_⟩
  · rw [hbase]
    exact h.reassembly_le
  · have hpending := h.pending sn info hinfo hmissing
    exact ⟨hpending.sn_lt, by rw [hbase, hbase]; exact hpending.ge, by rw [hbase]; exact hpending.lt⟩

lemma restartReassemblyTimer_inv (h : RxUmInv cfg s) :
    Yields (restartReassemblyTimer cfg s) (RxUmInv cfg) fun _ => True := by
  unfold restartReassemblyTimer
  apply yields_ite
  · intro _
    apply yields_ite
    · exact fun _ => trivial
    · exact fun _ => h.timer h.highest_lt true
  · exact fun _ => h

lemma updateReassemblyTimer_inv (h : RxUmInv cfg s) :
    Yields (updateReassemblyTimer cfg s) (RxUmInv cfg) fun _ => True :=
  restartReassemblyTimer_inv (h.timer h.trigger_lt _)

lemma passTrigger_inv (h : RxUmInv cfg s) : RxUmInv cfg (passTrigger cfg s) := by
  obtain ⟨k, -, -, hinv⟩ := h.advance belowTrigger_congr belowTrigger_highest
  exact hinv

structure SegmentPdu (cfg : RlcRxUmConfig) (buf : List UInt8) (header : RlcUmPduHeader) (payload : List UInt8) : Prop where
  read : ∃ rest, rlcUmReadDataPduHeader buf cfg.snFieldLength = .ok (header, rest)
  long : rlcUmNrPackedLength header < buf.length
  payload_eq : payload = buf.drop (rlcUmNrPackedLength header)
  segment : header.si ≠ .fullSdu

variable {buf : List UInt8}

lemma SegmentPdu.sn_lt {header : RlcUmPduHeader} {payload : List UInt8}
    (h : SegmentPdu cfg buf header payload) : header.sn < cfg.mod := by
  obtain ⟨rest, hread⟩ := h.read
  exact ((rlcUmReadDataPduHeader_spec buf cfg.snFieldLength).of_ok hread).sn_lt

lemma SegmentPdu.unique {header header' : RlcUmPduHeader} {payload payload' : List UInt8}
    (h : SegmentPdu cfg buf header payload) (h' : SegmentPdu cfg buf header' payload') :
    header' = header ∧ payload' = payload := by
  obtain ⟨rest, hread⟩ := h.read
  obtain ⟨rest', hread'⟩ := h'.read
  obtain ⟨rfl, -⟩ := Prod.mk.inj (Except.ok.inj (hread.symm.trans hread'))
  exact ⟨rfl, h'.payload_eq.trans h.payload_eq.symm⟩

lemma SegmentPdu.handled {header : RlcUmPduHeader} {payload : List UInt8}
    (h : SegmentPdu cfg buf header payload) (s : RlcRxUmEntity) : step cfg s (.handlePdu buf) =
      (placePdu cfg s header payload).bind fun
        | none => .ok s
        | some (s₁, _) => updateReassemblyTimer cfg s₁ := by
  obtain ⟨rest, hread⟩ := h.read
  have hlong := h.long
  obtain rfl := h.payload_eq
  unfold step handlePdu
  dsimp only
  rw [hread]
  dsimp only
  rw [if_neg (Nat.not_le.mpr hlong), if_neg h.segment]
  generalize placePdu cfg s header _ = placed
  match placed with
  | .error _ => rfl
  | .ok none => rfl
  | .ok (some (s₁, sdu)) =>
    change ((updateReassemblyTimer cfg s₁).bind fun s => .ok (s, sdu)).map Prod.fst = updateReassemblyTimer cfg s₁
    cases updateReassemblyTimer cfg s₁ <;> rfl

lemma handlePdu_other (h : ∀ header payload, ¬ SegmentPdu cfg buf header payload) :
    step cfg s (.handlePdu buf) = .ok s := by
  unfold step handlePdu
  dsimp only
  cases hread : rlcUmReadDataPduHeader buf cfg.snFieldLength with
  | error _ => rfl
  | ok res =>
    obtain ⟨header, rest⟩ := res
    dsimp only
    split
    · rfl
    case isFalse hlong =>
      split
      · rfl
      case isFalse hsegment =>
        exact absurd ⟨⟨rest, hread⟩, Nat.not_le.mp hlong, rfl, hsegment⟩ (h header _)

lemma step_rxUmInv (h : RxUmInv cfg s) (e : RxUmEvent) : Yields (step cfg s e) (RxUmInv cfg) fun _ => True := by
  cases e with
  | handlePdu buf =>
    by_cases hsegment : ∃ header payload, SegmentPdu cfg buf header payload
    · obtain ⟨header, payload, hsegment⟩ := hsegment
      rw [hsegment.handled]
      rcases placePdu_spec h hsegment.sn_lt payload with ⟨-, hplaced⟩ | ⟨s₁, sdu, hplaced, hinv, -⟩
      · rw [hplaced]
        exact h
      · rw [hplaced]
        exact updateReassemblyTimer_inv hinv
    · push Not at hsegment
      rw [handlePdu_other hsegment]
      exact h
  | reassemblyTimerExpires =>
    unfold step
    dsimp only
    apply yields_ite
    · exact fun _ => restartReassemblyTimer_inv (passTrigger_inv (h.timer h.trigger_lt false))
    · exact fun _ => h

lemma reachable_rxUmInv {es : List RxUmEvent} (hs : runEvents (step cfg) (init cfg) es = .ok s) : RxUmInv cfg s :=
  runEvents_invariant (RxUmInv cfg) (fun _ e _ h hstep => (step_rxUmInv h e).of_ok hstep) init_rxUmInv hs

end Runs

end RlcRxUmEntity

end OwlsRan.Rlc
