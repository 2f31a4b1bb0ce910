import OwlsRan.Rlc.RxUmInvariant

/-!
# Control of t-Reassembly in RLC UM

The comments quote when t-Reassembly is stopped and started.
-/

namespace OwlsRan.Rlc
open OwlsRan.Lib OwlsRan.Adt

namespace RlcRxUmEntity

def GapAt (s : RlcRxUmEntity) (sn : Nat) : Prop := ∃ info, s.rxWindow.find? sn = some info ∧ HasGap info.segments

def QuotedStop (cfg : RlcRxUmConfig) (s : RlcRxUmEntity) (trigger : Nat) : Prop :=
  s.rxModBase cfg trigger ≤ s.rxModBase cfg s.st.rxNextReassembly ∨
    (s.snInReassemblyWindow cfg trigger = false ∧ trigger ≠ s.st.rxNextHighest) ∨
      (s.rxModBase cfg s.st.rxNextHighest = s.rxModBase cfg (s.st.rxNextReassembly + 1) ∧
        ¬ s.GapAt s.st.rxNextReassembly)

def NeedsTimer (cfg : RlcRxUmConfig) (s : RlcRxUmEntity) : Prop :=
  s.rxModBase cfg s.st.rxNextHighest > s.rxModBase cfg (s.st.rxNextReassembly + 1) ∨
    (s.rxModBase cfg s.st.rxNextHighest = s.rxModBase cfg (s.st.rxNextReassembly + 1) ∧ s.GapAt s.st.rxNextReassembly)

def TimerStopped (cfg : RlcRxUmConfig) (s : RlcRxUmEntity) (buf : List UInt8) : Prop :=
  ∃ header payload s₁ sdu, SegmentPdu cfg buf header payload ∧ placePdu cfg s header payload = .ok (some (s₁, sdu)) ∧
    s₁.reassemblyTimerRunning = true ∧ s₁.stopsReassemblyTimer cfg = true

/-- t-Reassembly after an event that led from `s` to `s'`. -/
inductive Controlled (cfg : RlcRxUmConfig) (s : RlcRxUmEntity) : RxUmEvent → RlcRxUmEntity → Prop where
  | segment {buf header payload s'} (hsegment : SegmentPdu cfg buf header payload)
      (stopped : TimerStopped cfg s buf ↔
        s.reassemblyTimerRunning = true ∧ QuotedStop cfg s' s.st.rxTimerTrigger)
      (running : NeedsTimer cfg s' → s'.reassemblyTimerRunning = true) : Controlled cfg s (.handlePdu buf) s'
  | other {buf s'} (hother : ∀ header payload, ¬ SegmentPdu cfg buf header payload) :
      Controlled cfg s (.handlePdu buf) s'
  | expired {s'} (running : s.reassemblyTimerRunning = true → NeedsTimer cfg s' → s'.reassemblyTimerRunning = true) :
      Controlled cfg s .reassemblyTimerExpires s'

def Wrapped (cfg : RlcRxUmConfig) (s : RlcRxUmEntity) (sn : Nat) : Prop :=
  sn < (s.st.rxNextHighest + cfg.umWindowSize) % cfg.mod

instance (cfg : RlcRxUmConfig) (s : RlcRxUmEntity) (sn : Nat) : Decidable (s.Wrapped cfg sn) :=
  inferInstanceAs (Decidable (_ < _))

def OnlyWhole (cfg : RlcRxUmConfig) (s : RlcRxUmEntity) : Prop :=
  s.st.rxNextHighest = (s.st.rxNextReassembly + 1) % cfg.mod ∧ ¬ s.GapAt s.st.rxNextReassembly

/-- There is an SDU without a gap at `rx_next_highest`, the number behind `rx_next_reassembly`. -/
def HighestWhole (s : RlcRxUmEntity) : Prop :=
  s.st.rxNextHighest = s.st.rxNextReassembly + 1 ∧ s.gapAt s.st.rxNextHighest = some false

def TriggerWithin (cfg : RlcRxUmConfig) (s : RlcRxUmEntity) : Prop :=
  s.snInReassemblyWindow cfg s.st.rxTimerTrigger = true ∨ s.st.rxTimerTrigger = s.st.rxNextHighest

/-- When the code meets the quoted conditions, in terms of the state in which t-Reassembly is looked at. -/
structure TimerCondition (cfg : RlcRxUmConfig) (s : RlcRxUmEntity) : Prop where
  stop : s.reassemblyTimerRunning = true → s.TriggerWithin cfg →
    if s.Wrapped cfg s.st.rxTimerTrigger ↔ s.Wrapped cfg s.st.rxNextReassembly then
      s.st.rxNextReassembly < s.st.rxTimerTrigger → (s.HighestWhole ↔ s.OnlyWhole cfg)
    else if s.st.rxTimerTrigger ≤ s.st.rxNextReassembly then s.OnlyWhole cfg
    else s.HighestWhole
  gap : s.st.rxNextHighest = (s.st.rxNextReassembly + 1) % cfg.mod → s.GapAt s.st.rxNextReassembly →
    s.reassemblyTimerRunning = true ∧ s.TriggerWithin cfg ∧ s.st.rxNextReassembly < s.st.rxTimerTrigger ∧
      ¬ s.HighestWhole

/-- If the SDU before `rx_next_highest` has a gap, then an SDU before it and not before the trigger is missing. -/
def ExpiryCondition (cfg : RlcRxUmConfig) (s : RlcRxUmEntity) : Prop :=
  ∀ sn, (sn + 1) % cfg.mod = s.st.rxNextHighest → s.GapAt sn →
    s.rxModBase cfg s.st.rxTimerTrigger ≤ s.rxModBase cfg sn →
      ∃ j < cfg.mod, s.rxModBase cfg s.st.rxNextReassembly ≤ s.rxModBase cfg j ∧
        s.rxModBase cfg s.st.rxTimerTrigger ≤ s.rxModBase cfg j ∧ s.rxModBase cfg j < s.rxModBase cfg sn ∧
          fullyReceivedSn s.rxWindow j = false

/-- The condition on an event: PDUs that are discarded, or that hold no segment, meet it. -/
inductive Condition (cfg : RlcRxUmConfig) (s : RlcRxUmEntity) : RxUmEvent → Prop where
  | handlePdu {buf} (h : ∀ header payload s₁ sdu, SegmentPdu cfg buf header payload →
      placePdu cfg s header payload = .ok (some (s₁, sdu)) → TimerCondition cfg s₁) : Condition cfg s (.handlePdu buf)
  | expired (h : s.reassemblyTimerRunning = true → ExpiryCondition cfg s) : Condition cfg s .reassemblyTimerExpires

def Discards (cfg : RlcRxUmConfig) (s : RlcRxUmEntity) (e : RxUmEvent) : Prop :=
  ∃ buf header payload, e = .handlePdu buf ∧ SegmentPdu cfg buf header payload ∧
    s.snInvalidForRxBuffer cfg header.sn = true

section Gaps

variable {cfg : RlcRxUmConfig} {s : RlcRxUmEntity} {sn : Nat} {info : RlcRxUmSduInfo}

lemma hasGap_iff (h : info.Settled) : info.hasGap = true ↔ HasGap info.segments := by
  cases hfull : info.fullyReceived with
  | true =>
    obtain ⟨hempty, hnone⟩ := h.received hfull
    rw [hempty, hnone]
    refine ⟨fun hgap => (nomatch hgap), ?_⟩
    rintro ⟨before, segm, behind, hsplit, -⟩
    cases before <;> cases hsplit
  | false =>
    have hflags := h.missing hfull
    have hgap := RlcRxAmEntity.segmentInventory_gap 0 (congrArg Prod.snd hflags)
    rw [hflags] at hgap
    simp only [Nat.zero_add] at hgap
    exact hgap

lemma RxUmInv.gapAt_iff (h : RxUmInv cfg s) : s.gapAt sn = some true ↔ s.GapAt sn := by
  unfold gapAt GapAt
  cases hinfo : s.rxWindow.find? sn with
  | none => simp
  | some info => simp [hasGap_iff (h.settled sn info hinfo)]

lemma RxUmInv.gap_pending (h : RxUmInv cfg s) (hgap : s.GapAt sn) :
    fullyReceivedSn s.rxWindow sn = false ∧ s.Pending cfg sn := by
  obtain ⟨info, hinfo, hgap⟩ := hgap
  have hsettled := h.settled sn info hinfo
  have hmissing : info.fullyReceived = false := by
    cases hfull : info.fullyReceived with
    | false => rfl
    | true => exact absurd ((hsettled.received hfull).2.symm.trans ((hasGap_iff hsettled).mpr hgap)) Bool.false_ne_true
  refine ⟨?_, h.pending sn info hinfo hmissing⟩
  unfold fullyReceivedSn
  rw [hinfo]
  exact hmissing

lemma RxUmInv.not_gap_highest (h : RxUmInv cfg s) : ¬ s.GapAt s.st.rxNextHighest := by
  intro hgap
  have hlt := (h.gap_pending hgap).2.lt
  rw [rxModBase_highest h.highest_lt] at hlt
  exact Nat.lt_irrefl _ hlt

end Gaps

section Control

variable {cfg : RlcRxUmConfig} {s s₁ s' : RlcRxUmEntity} {x y : Nat}

lemma highest_eq_iff (h : RxUmInv cfg s) :
    s.rxModBase cfg s.st.rxNextHighest = s.rxModBase cfg (s.st.rxNextReassembly + 1) ↔
      s.st.rxNextHighest = (s.st.rxNextReassembly + 1) % cfg.mod := by
  constructor
  · intro heq
    apply rxModBase_inj h.highest_lt h.highest_lt (Nat.mod_lt _ cfg.mod_pos)
    rw [rxModBase_mod h.highest_lt, heq]
  · intro heq
    rw [← rxModBase_mod (x := s.st.rxNextReassembly + 1) h.highest_lt, ← heq]

lemma rxModBase_next (h : RxUmInv cfg s) :
    s.rxModBase cfg (s.st.rxNextReassembly + 1) = s.rxModBase cfg s.st.rxNextReassembly + 1 := by
  have hmod := cfg.mod_eq
  have hW := cfg.one_lt_umWindowSize
  have hle := h.reassembly_le
  rw [← rxModBase_mod h.highest_lt, rxModBase_add h.highest_lt (by omega)]

lemma rxModBase_number (h : s.st.rxNextHighest < cfg.mod) (hx : x < cfg.mod) :
    s.rxModBase cfg x = if s.Wrapped cfg x then x + cfg.mod - (s.st.rxNextHighest + cfg.umWindowSize) % cfg.mod
      else x - (s.st.rxNextHighest + cfg.umWindowSize) % cfg.mod := by
  have hedge : (s.st.rxNextHighest + cfg.umWindowSize) % cfg.mod < cfg.mod := Nat.mod_lt _ cfg.mod_pos
  rw [rxModBase_eq h, ← snDist_mod_left]
  apply snDist_unique cfg.mod_pos
  all_goals by_cases hwrapped : s.Wrapped cfg x
  · rw [if_pos hwrapped]
    unfold Wrapped at hwrapped
    omega
  · rw [if_neg hwrapped]
    omega
  · rw [if_pos hwrapped, Nat.add_sub_cancel' (by omega), Nat.add_mod_right]
  · rw [if_neg hwrapped, Nat.add_sub_cancel' (Nat.not_lt.mp hwrapped)]

lemma rxModBase_le_iff (h : s.st.rxNextHighest < cfg.mod) (hx : x < cfg.mod) (hy : y < cfg.mod) :
    s.rxModBase cfg x ≤ s.rxModBase cfg y ↔ if s.Wrapped cfg x ↔ s.Wrapped cfg y then x ≤ y else y < x := by
  have hedge : (s.st.rxNextHighest + cfg.umWindowSize) % cfg.mod < cfg.mod := Nat.mod_lt _ cfg.mod_pos
  have hwx : s.Wrapped cfg x ↔ x < (s.st.rxNextHighest + cfg.umWindowSize) % cfg.mod := Iff.rfl
  have hwy : s.Wrapped cfg y ↔ y < (s.st.rxNextHighest + cfg.umWindowSize) % cfg.mod := Iff.rfl
  rw [rxModBase_number h hx, rxModBase_number h hy]
  by_cases hxe : s.Wrapped cfg x
  · by_cases hye : s.Wrapped cfg y
    · rw [if_pos hxe, if_pos hye, if_pos ⟨fun _ => hye, fun _ => hxe⟩]
      rw [hwx] at hxe
      rw [hwy] at hye
      omega
    · rw [if_pos hxe, if_neg hye, if_neg fun hiff => hye (hiff.mp hxe)]
      rw [hwx] at hxe
      rw [hwy] at hye
      omega
  · by_cases hye : s.Wrapped cfg y
    · rw [if_neg hxe, if_pos hye, if_neg fun hiff => hxe (hiff.mpr hye)]
      rw [hwx] at hxe
      rw [hwy] at hye
      omega
    · rw [if_neg hxe, if_neg hye, if_pos ⟨fun hx => absurd hx hxe, fun hy => absurd hy hye⟩]
      rw [hwx] at hxe
      rw [hwy] at hye
      omega

lemma stopsReassemblyTimer_iff : s.stopsReassemblyTimer cfg = true ↔
    s.st.rxTimerTrigger ≤ s.st.rxNextReassembly ∨ ¬ s.TriggerWithin cfg ∨ s.HighestWhole := by
  unfold stopsReassemblyTimer TriggerWithin HighestWhole
  simp only [Bool.or_eq_true, Bool.and_eq_true, decide_eq_true_iff, Bool.not_eq_true', or_assoc, not_or,
    Bool.not_eq_true, ne_eq]

lemma quotedStop_iff : QuotedStop cfg s x ↔ s.rxModBase cfg x ≤ s.rxModBase cfg s.st.rxNextReassembly ∨
    ¬ (s.snInReassemblyWindow cfg x = true ∨ x = s.st.rxNextHighest) ∨
      (s.rxModBase cfg s.st.rxNextHighest = s.rxModBase cfg (s.st.rxNextReassembly + 1) ∧
        ¬ s.GapAt s.st.rxNextReassembly) := by
  unfold QuotedStop
  rw [not_or, Bool.not_eq_true]

lemma RxUmInv.starts_iff (h : RxUmInv cfg s) : s.startsReassemblyTimer cfg = true ↔
    s.rxModBase cfg s.st.rxNextHighest > s.rxModBase cfg (s.st.rxNextReassembly + 1) := by
  have hnever : s.gapAt s.st.rxNextHighest ≠ some true := mt h.gapAt_iff.mp h.not_gap_highest
  unfold startsReassemblyTimer
  rw [Bool.or_eq_true, Bool.and_eq_true, decide_eq_true_iff, decide_eq_true_iff, decide_eq_true_iff]
  exact or_iff_left fun hgap => hnever hgap.2

lemma RxUmInv.not_quotedStop (h : RxUmInv cfg s)
    (hahead : s.rxModBase cfg s.st.rxNextHighest > s.rxModBase cfg (s.st.rxNextReassembly + 1)) :
    ¬ QuotedStop cfg s s.st.rxNextHighest := by
  have hnext := rxModBase_next h
  rintro (hle | ⟨-, hne⟩ | ⟨heq, -⟩)
  · omega
  · exact hne rfl
  · omega

structure TimerLooked (cfg : RlcRxUmConfig) (s s' : RlcRxUmEntity) : Prop where
  set : ∃ running trigger, s' = { s with reassemblyTimerRunning := running, st := { s.st with rxTimerTrigger := trigger } }
  running : s'.reassemblyTimerRunning = true ↔
    s.reassemblyTimerRunning = true ∨ s.startsReassemblyTimer cfg = true
  trigger : s'.st.rxTimerTrigger = if s.reassemblyTimerRunning then s.st.rxTimerTrigger
    else if s.startsReassemblyTimer cfg then s.st.rxNextHighest else s.st.rxTimerTrigger

lemma restartReassemblyTimer_spec : Yields (restartReassemblyTimer cfg s) (TimerLooked cfg s) fun _ => True := by
  unfold restartReassemblyTimer
  cases hrun : s.reassemblyTimerRunning with
  | true => exact ⟨⟨_, _, rfl⟩, by simp [hrun], by simp [hrun]⟩
  | false =>
    cases hstart : s.startsReassemblyTimer cfg with
    | false => exact ⟨⟨_, _, rfl⟩, by simp [hrun, hstart], by simp [hrun, hstart]⟩
    | true =>
      rw [Bool.not_false, Bool.true_and, if_pos rfl]
      split
      · trivial
      · exact ⟨⟨_, _, rfl⟩, by simp [hstart], by simp [hrun, hstart]⟩

section Congruence

variable (hw : s'.rxWindow = s.rxWindow) (hr : s'.st.rxNextReassembly = s.st.rxNextReassembly)
  (hh : s'.st.rxNextHighest = s.st.rxNextHighest)

include hh in
lemma snInReassemblyWindow_congr : s'.snInReassemblyWindow cfg x = s.snInReassemblyWindow cfg x := by
  unfold snInReassemblyWindow lowerEdge rxModBase
  rw [hh]

include hw in
lemma gapAt_congr : s'.GapAt x ↔ s.GapAt x := by
  unfold GapAt
  rw [hw]

include hw hr hh

lemma quotedStop_congr : QuotedStop cfg s' x ↔ QuotedStop cfg s x := by
  have hbase : ∀ y, s'.rxModBase cfg y = s.rxModBase cfg y := fun _ => rxModBase_congr hh
  unfold QuotedStop
  rw [hbase, hbase, hbase, hbase, snInReassemblyWindow_congr hh, gapAt_congr hw, hr, hh]

lemma needsTimer_congr : NeedsTimer cfg s' ↔ NeedsTimer cfg s := by
  have hbase : ∀ y, s'.rxModBase cfg y = s.rxModBase cfg y := fun _ => rxModBase_congr hh
  unfold NeedsTimer
  rw [hbase, hbase, gapAt_congr hw, hr, hh]

lemma startsReassemblyTimer_congr : s'.startsReassemblyTimer cfg = s.startsReassemblyTimer cfg := by
  have hbase : ∀ y, s'.rxModBase cfg y = s.rxModBase cfg y := fun _ => rxModBase_congr hh
  unfold startsReassemblyTimer gapAt
  rw [hbase, hbase, hw, hr, hh]

end Congruence

lemma updateReassemblyTimer_spec (hres : updateReassemblyTimer cfg s = .ok s') :
    (∀ x, QuotedStop cfg s' x ↔ QuotedStop cfg s x) ∧ (NeedsTimer cfg s' ↔ NeedsTimer cfg s) ∧
      (s'.reassemblyTimerRunning = true ↔ (s.reassemblyTimerRunning = true ∧ ¬ s.stopsReassemblyTimer cfg = true) ∨
        s.startsReassemblyTimer cfg = true) ∧
      (s'.reassemblyTimerRunning = true →
        (s.reassemblyTimerRunning = true ∧ ¬ s.stopsReassemblyTimer cfg = true ∧
          s'.st.rxTimerTrigger = s.st.rxTimerTrigger) ∨
        (s.startsReassemblyTimer cfg = true ∧ s'.st.rxTimerTrigger = s.st.rxNextHighest)) := by
  have hlooked := restartReassemblyTimer_spec.of_ok hres
  obtain ⟨running, trigger, hset⟩ := hlooked.set
  have hw : s'.rxWindow = s.rxWindow := by rw [hset]
  have hr : s'.st.rxNextReassembly = s.st.rxNextReassembly := by rw [hset]
  have hh : s'.st.rxNextHighest = s.st.rxNextHighest := by rw [hset]
  have hrunning := hlooked.running
  have htrigger := hlooked.trigger
  have hstarts : RlcRxUmEntity.startsReassemblyTimer cfg
      { s with reassemblyTimerRunning := s.reassemblyTimerRunning && !s.stopsReassemblyTimer cfg } =
        s.startsReassemblyTimer cfg := startsReassemblyTimer_congr rfl rfl rfl
  rw [hstarts, Bool.and_eq_true, Bool.not_eq_true', ← Bool.not_eq_true] at hrunning
  rw [hstarts] at htrigger
  refine ⟨fun x => quotedStop_congr hw hr hh, needsTimer_congr hw hr hh, hrunning, fun hrun => ?_⟩
  by_cases hkept : s.reassemblyTimerRunning = true ∧ ¬ s.stopsReassemblyTimer cfg = true
  · left
    rw [if_pos (by simpa using hkept)] at htrigger
    exact ⟨hkept.1, hkept.2, htrigger⟩
  · right
    have hstart := (hrunning.mp hrun).resolve_left hkept
    rw [if_neg (by simpa using hkept), if_pos hstart] at htrigger
    exact ⟨hstart, htrigger⟩

lemma stops_iff (h : RxUmInv cfg s) (hwithin : s.TriggerWithin cfg) :
    (s.stopsReassemblyTimer cfg = true ↔ QuotedStop cfg s s.st.rxTimerTrigger) ↔
      if s.Wrapped cfg s.st.rxTimerTrigger ↔ s.Wrapped cfg s.st.rxNextReassembly then
        s.st.rxNextReassembly < s.st.rxTimerTrigger → (s.HighestWhole ↔ s.OnlyWhole cfg)
      else if s.st.rxTimerTrigger ≤ s.st.rxNextReassembly then s.OnlyWhole cfg
      else s.HighestWhole := by
  have hcode : s.stopsReassemblyTimer cfg = true ↔ s.st.rxTimerTrigger ≤ s.st.rxNextReassembly ∨ s.HighestWhole := by
    rw [stopsReassemblyTimer_iff]
    exact or_congr_right (or_iff_right (not_not_intro hwithin))
  have hquoted : QuotedStop cfg s s.st.rxTimerTrigger ↔
      (if s.Wrapped cfg s.st.rxTimerTrigger ↔ s.Wrapped cfg s.st.rxNextReassembly then
        s.st.rxTimerTrigger ≤ s.st.rxNextReassembly else s.st.rxNextReassembly < s.st.rxTimerTrigger) ∨
          s.OnlyWhole cfg := by
    rw [quotedStop_iff, rxModBase_le_iff h.highest_lt h.trigger_lt h.reassembly_lt, highest_eq_iff h]
    exact or_congr_right (or_iff_right (not_not_intro hwithin))
  rw [hcode, hquoted]
  by_cases hside : s.Wrapped cfg s.st.rxTimerTrigger ↔ s.Wrapped cfg s.st.rxNextReassembly
  · rw [if_pos hside, if_pos hside]
    by_cases hle : s.st.rxTimerTrigger ≤ s.st.rxNextReassembly
    · simp [hle, Nat.not_lt.mpr hle]
    · simp [hle, Nat.not_le.mp hle]
  · rw [if_neg hside, if_neg hside]
    by_cases hle : s.st.rxTimerTrigger ≤ s.st.rxNextReassembly
    · simp [hle, Nat.not_lt.mpr hle]
    · simp [hle, Nat.not_le.mp hle]

lemma updateReassemblyTimer_controlled (h : RxUmInv cfg s) (hres : updateReassemblyTimer cfg s = .ok s') :
    ((s.reassemblyTimerRunning = true ∧ s.stopsReassemblyTimer cfg = true ↔
        s.reassemblyTimerRunning = true ∧ QuotedStop cfg s' s.st.rxTimerTrigger) ∧
      (NeedsTimer cfg s' → s'.reassemblyTimerRunning = true)) ↔ TimerCondition cfg s := by
  obtain ⟨hquoted, hneeds, hrunning, -⟩ := updateReassemblyTimer_spec hres
  rw [hquoted, hneeds, hrunning, h.starts_iff]
  have hstop : (s.reassemblyTimerRunning = true ∧ s.stopsReassemblyTimer cfg = true ↔
      s.reassemblyTimerRunning = true ∧ QuotedStop cfg s s.st.rxTimerTrigger) ↔
        (s.reassemblyTimerRunning = true → s.TriggerWithin cfg →
          (s.stopsReassemblyTimer cfg = true ↔ QuotedStop cfg s s.st.rxTimerTrigger)) := by
    rw [and_congr_right_iff]
    refine forall_congr' fun _ => ⟨fun hiff _ => hiff, fun hiff => ?_⟩
    by_cases hwithin : s.TriggerWithin cfg
    · exact hiff hwithin
    · rw [stopsReassemblyTimer_iff, quotedStop_iff]
      exact ⟨fun _ => Or.inr (Or.inl hwithin), fun _ => Or.inr (Or.inl hwithin)⟩
  have hgap : (NeedsTimer cfg s → (s.reassemblyTimerRunning = true ∧ ¬ s.stopsReassemblyTimer cfg = true) ∨
      s.rxModBase cfg s.st.rxNextHighest > s.rxModBase cfg (s.st.rxNextReassembly + 1)) ↔
        (s.st.rxNextHighest = (s.st.rxNextReassembly + 1) % cfg.mod → s.GapAt s.st.rxNextReassembly →
          s.reassemblyTimerRunning = true ∧ s.TriggerWithin cfg ∧ s.st.rxNextReassembly < s.st.rxTimerTrigger ∧
            ¬ s.HighestWhole) := by
    unfold NeedsTimer
    rw [highest_eq_iff h, stopsReassemblyTimer_iff, not_or, not_or, not_not, Nat.not_le]
    constructor
    · intro hneeded honly hgapAt
      rcases hneeded (Or.inr ⟨honly, hgapAt⟩) with ⟨hrun, hlt, hwithin, hwhole⟩ | hahead
      · exact ⟨hrun, hwithin, hlt, hwhole⟩
      · rw [(highest_eq_iff h).mpr honly] at hahead
        exact absurd hahead (Nat.lt_irrefl _)
    · rintro honly (hahead | ⟨heq, hgapAt⟩)
      · exact Or.inr hahead
      · obtain ⟨hrun, hwithin, hlt, hwhole⟩ := honly heq hgapAt
        exact Or.inl ⟨hrun, hlt, hwithin, hwhole⟩
  rw [hstop, hgap]
  constructor
  · rintro ⟨hstops, hgaps⟩
    exact ⟨fun hrun hwithin => (stops_iff h hwithin).mp (hstops hrun hwithin), hgaps⟩
  · intro hcond
    exact ⟨fun hrun hwithin => (stops_iff h hwithin).mpr (hcond.stop hrun hwithin), hcond.gap⟩

lemma passTrigger_spec (h : RxUmInv cfg s) : ∃ k, s.rxModBase cfg s.st.rxNextReassembly + k ≤ cfg.umWindowSize ∧
    RxUmInv cfg (passTrigger cfg s) ∧ (passTrigger cfg s).st.rxNextReassembly = (s.st.rxNextReassembly + k) % cfg.mod ∧
      (∀ i < k, s.belowTrigger cfg s.rxWindow ((s.st.rxNextReassembly + i) % cfg.mod) = true) ∧
        s.belowTrigger cfg s.rxWindow ((s.st.rxNextReassembly + k) % cfg.mod) = false ∧
          ∀ sn, (passTrigger cfg s).GapAt sn ↔
            s.GapAt sn ∧ ∀ i < k, sn ≠ (s.st.rxNextReassembly + i) % cfg.mod := by
  obtain ⟨k, hk, hswept, hinv⟩ := h.advance belowTrigger_congr belowTrigger_highest
  refine ⟨k, hk, hinv, hswept.sn, hswept.passed, hswept.stopped, fun sn => ?_⟩
  constructor
  · rintro ⟨info, hinfo, hgap⟩
    obtain ⟨hold, hnot⟩ := (hswept.find? sn info).mp hinfo
    exact ⟨⟨info, hold, hgap⟩, hnot⟩
  · rintro ⟨⟨info, hinfo, hgap⟩, hnot⟩
    exact ⟨info, (hswept.find? sn info).mpr ⟨hinfo, hnot⟩, hgap⟩

lemma belowTrigger_iff (h : s.st.rxNextHighest < cfg.mod) : s.belowTrigger cfg s.rxWindow x = true ↔
    s.rxModBase cfg x < cfg.umWindowSize ∧
      (s.rxModBase cfg x < s.rxModBase cfg s.st.rxTimerTrigger ∨ fullyReceivedSn s.rxWindow x = true) := by
  unfold belowTrigger
  rw [rxModBase_highest h, Bool.and_eq_true, Bool.or_eq_true, decide_eq_true_iff, decide_eq_true_iff]

lemma passTrigger_gap_iff (h : RxUmInv cfg s) :
    (s.st.rxNextHighest = ((passTrigger cfg s).st.rxNextReassembly + 1) % cfg.mod ∧
      (passTrigger cfg s).GapAt (passTrigger cfg s).st.rxNextReassembly) ↔ ¬ ExpiryCondition cfg s := by
  obtain ⟨k, hk, -, hsn, hpassed, hstopped, hgaps⟩ := passTrigger_spec h
  have hmod := cfg.mod_eq
  have hW := cfg.umWindowSize_pos
  have hbase : ∀ i ≤ k, s.rxModBase cfg ((s.st.rxNextReassembly + i) % cfg.mod) =
      s.rxModBase cfg s.st.rxNextReassembly + i := fun i hi => rxModBase_add h.highest_lt (by omega)
  have hedge : ∀ sn, sn < cfg.mod → s.rxModBase cfg sn < cfg.umWindowSize →
      ((sn + 1) % cfg.mod = s.st.rxNextHighest ↔ s.rxModBase cfg sn + 1 = cfg.umWindowSize) := by
    intro sn hsn_lt hlt
    have hnext := rxModBase_add (x := sn) (i := 1) h.highest_lt (by omega)
    rw [← hnext]
    constructor
    · intro heq
      rw [heq, rxModBase_highest h.highest_lt]
    · intro heq
      apply rxModBase_inj h.highest_lt (Nat.mod_lt _ cfg.mod_pos) h.highest_lt
      rw [heq, rxModBase_highest h.highest_lt]
  rw [hsn, hgaps]
  constructor
  · rintro ⟨hnext, hgap, -⟩ hcond
    have hpending := (h.gap_pending hgap).2
    have hlt := hpending.lt
    have hat : s.rxModBase cfg s.st.rxTimerTrigger ≤
        s.rxModBase cfg ((s.st.rxNextReassembly + k) % cfg.mod) := by
      by_contra hbelow
      rw [(belowTrigger_iff h.highest_lt).mpr ⟨hlt, Or.inl (Nat.not_le.mp hbelow)⟩] at hstopped
      cases hstopped
    obtain ⟨j, hj, hge, htrigger, hbefore, hmissing⟩ := hcond _ hnext.symm hgap hat
    obtain ⟨i, hi⟩ := Nat.exists_eq_add_of_le hge
    rw [hbase k (Nat.le_refl k)] at hbefore
    have hij : j = (s.st.rxNextReassembly + i) % cfg.mod := by
      apply rxModBase_inj h.highest_lt hj (Nat.mod_lt _ cfg.mod_pos)
      rw [hbase i (by omega), hi]
    obtain ⟨-, hbelow | hfull⟩ := (belowTrigger_iff h.highest_lt).mp (hpassed i (by omega))
    · rw [← hij] at hbelow
      omega
    · rw [← hij, hmissing] at hfull
      cases hfull
  · intro hnot
    unfold ExpiryCondition at hnot
    push Not at hnot
    obtain ⟨sn, hnext, hgap, htrigger, hreceived⟩ := hnot
    obtain ⟨hmissing, hpending⟩ := h.gap_pending hgap
    have hlast := (hedge sn hpending.sn_lt hpending.lt).mp hnext
    have hge := hpending.ge
    obtain ⟨i, hi⟩ := Nat.exists_eq_add_of_le hge
    have hsn_eq : sn = (s.st.rxNextReassembly + i) % cfg.mod := by
      apply rxModBase_inj h.highest_lt hpending.sn_lt (Nat.mod_lt _ cfg.mod_pos)
      rw [rxModBase_add h.highest_lt (by omega), hi]
    have hki : k = i := by
      apply Nat.le_antisymm
      · -- the SDU with the gap is not passed
        apply Nat.not_lt.mp
        intro hlt
        have hpass := hpassed i hlt
        rw [← hsn_eq, belowTrigger_iff h.highest_lt] at hpass
        obtain ⟨-, hbelow | hfull⟩ := hpass
        · omega
        · rw [hmissing] at hfull
          cases hfull
      · -- and all before it are
        apply Nat.not_lt.mp
        intro hlt
        have hat := hbase k (Nat.le_refl k)
        have hfull : fullyReceivedSn s.rxWindow ((s.st.rxNextReassembly + k) % cfg.mod) = true ∨
            s.rxModBase cfg ((s.st.rxNextReassembly + k) % cfg.mod) < s.rxModBase cfg s.st.rxTimerTrigger := by
          by_cases hbelow : s.rxModBase cfg ((s.st.rxNextReassembly + k) % cfg.mod) <
              s.rxModBase cfg s.st.rxTimerTrigger
          · exact Or.inr hbelow
          · left
            have hreceived' := hreceived _ (Nat.mod_lt _ cfg.mod_pos) (by omega) (Nat.not_lt.mp hbelow) (by omega)
            exact Bool.eq_true_of_not_eq_false hreceived'
        rw [(belowTrigger_iff h.highest_lt).mpr ⟨by omega, hfull.symm⟩] at hstopped
        cases hstopped
    rw [hki, ← hsn_eq]
    refine ⟨hnext.symm, hgap, fun i' hi' heq => ?_⟩
    have hbase' := hbase i' (by omega)
    rw [← heq] at hbase'
    omega

lemma onExpiredReassemblyTimer_spec (h : RxUmInv cfg s) (hres : onExpiredReassemblyTimer cfg s = .ok s') :
    ((NeedsTimer cfg s' → s'.reassemblyTimerRunning = true) ↔ ExpiryCondition cfg s) ∧
      (s'.reassemblyTimerRunning = true → ¬ QuotedStop cfg s' s'.st.rxTimerTrigger) := by
  have h₀ : RxUmInv cfg { s with reassemblyTimerRunning := false } := h.timer h.trigger_lt false
  have hcond : ExpiryCondition cfg { s with reassemblyTimerRunning := false } ↔ ExpiryCondition cfg s := Iff.rfl
  obtain ⟨-, -, hp, -⟩ := passTrigger_spec h₀
  have hgap := passTrigger_gap_iff h₀
  rw [hcond] at hgap
  unfold onExpiredReassemblyTimer at hres
  have hstopped : (passTrigger cfg { s with reassemblyTimerRunning := false }).reassemblyTimerRunning = false := rfl
  have hhighest : (passTrigger cfg { s with reassemblyTimerRunning := false }).st.rxNextHighest = s.st.rxNextHighest := rfl
  generalize passTrigger cfg { s with reassemblyTimerRunning := false } = p at *
  have hlooked := restartReassemblyTimer_spec.of_ok hres
  obtain ⟨running, trigger, hset⟩ := hlooked.set
  have hw : s'.rxWindow = p.rxWindow := by rw [hset]
  have hr : s'.st.rxNextReassembly = p.st.rxNextReassembly := by rw [hset]
  have hh : s'.st.rxNextHighest = p.st.rxNextHighest := by rw [hset]
  have hrunning := hlooked.running
  have htrigger := hlooked.trigger
  rw [hstopped, hp.starts_iff] at hrunning
  have hrunning' := hrunning.trans (or_iff_right Bool.false_ne_true)
  constructor
  · rw [needsTimer_congr hw hr hh, hrunning', ← not_iff_not, ← hgap, ← hhighest, ← highest_eq_iff hp]
    constructor
    · intro hunmet
      obtain ⟨hahead | honly, hnot⟩ := Classical.not_imp.mp hunmet
      · exact absurd hahead hnot
      · exact honly
    · intro honly hmet
      have hahead := hmet (Or.inr honly)
      rw [honly.1] at hahead
      exact Nat.lt_irrefl _ hahead
  · intro hrun
    have hstart := hp.starts_iff.mpr (hrunning'.mp hrun)
    rw [hstopped, hstart] at htrigger
    have htrigger' : s'.st.rxTimerTrigger = p.st.rxNextHighest := htrigger
    rw [quotedStop_congr hw hr hh, htrigger']
    exact hp.not_quotedStop (hrunning'.mp hrun)

structure Quiet (cfg : RlcRxUmConfig) (s : RlcRxUmEntity) : Prop where
  stopped : s.reassemblyTimerRunning = true → ¬ QuotedStop cfg s s.st.rxTimerTrigger
  running : NeedsTimer cfg s → s.reassemblyTimerRunning = true

variable {buf payload : List UInt8} {header : RlcUmPduHeader} {sdu : Option (List UInt8)} {e : RxUmEvent}

lemma timerStopped_iff (hsegment : SegmentPdu cfg buf header payload)
    (hplaced : placePdu cfg s header payload = .ok (some (s₁, sdu))) : TimerStopped cfg s buf ↔
      s₁.reassemblyTimerRunning = true ∧ s₁.stopsReassemblyTimer cfg = true := by
  constructor
  · rintro ⟨header', payload', s₁', sdu', hsegment', hplaced', hrun, hstops⟩
    obtain ⟨rfl, rfl⟩ := hsegment.unique hsegment'
    cases hplaced.symm.trans hplaced'
    exact ⟨hrun, hstops⟩
  · rintro ⟨hrun, hstops⟩
    exact ⟨header, payload, s₁, sdu, hsegment, hplaced, hrun, hstops⟩

lemma placed_controlled (hinv : RxUmInv cfg s₁) (hsame : SameTimer s s₁) (hsegment : SegmentPdu cfg buf header payload)
    (hplaced : placePdu cfg s header payload = .ok (some (s₁, sdu))) (hres : updateReassemblyTimer cfg s₁ = .ok s') :
    (Controlled cfg s (.handlePdu buf) s' ↔ TimerCondition cfg s₁) ∧ (TimerCondition cfg s₁ → Quiet cfg s') := by
  have hcontrolled := updateReassemblyTimer_controlled hinv hres
  obtain ⟨hquoted, -, -, hset⟩ := updateReassemblyTimer_spec hres
  constructor
  · rw [← hcontrolled, ← timerStopped_iff hsegment hplaced, hsame.running, hsame.trigger]
    constructor
    · intro h
      cases h with
      | segment _ hstopped hrun => exact ⟨hstopped, hrun⟩
      | other hother => exact absurd hsegment (hother header payload)
    · rintro ⟨hstopped, hrun⟩
      exact .segment hsegment hstopped hrun
  · intro hcond
    obtain ⟨hstopped, hrun⟩ := hcontrolled.mpr hcond
    refine ⟨fun hrun' hstop => ?_, hrun⟩
    rcases hset hrun' with ⟨hkept, hnot, htrigger⟩ | ⟨hstart, htrigger⟩
    · rw [htrigger] at hstop
      exact hnot (hstopped.mpr ⟨hkept, hstop⟩).2
    · rw [htrigger, hquoted] at hstop
      exact hinv.not_quotedStop (hinv.starts_iff.mp hstart) hstop

lemma discarded_controlled (hquiet : Quiet cfg s) (hsegment : SegmentPdu cfg buf header payload)
    (hplaced : placePdu cfg s header payload = .ok none) : Controlled cfg s (.handlePdu buf) s := by
  refine .segment hsegment ?_ hquiet.running
  constructor
  · rintro ⟨header', payload', s₁, sdu, hsegment', hplaced', -⟩
    obtain ⟨rfl, rfl⟩ := hsegment.unique hsegment'
    cases hplaced.symm.trans hplaced'
  · rintro ⟨hrun, hquoted⟩
    exact absurd hquoted (hquiet.stopped hrun)

lemma condition_placed_iff (hsegment : SegmentPdu cfg buf header payload)
    (hplaced : placePdu cfg s header payload = .ok (some (s₁, sdu))) :
    Condition cfg s (.handlePdu buf) ↔ TimerCondition cfg s₁ := by
  constructor
  · intro h
    cases h with
    | handlePdu h => exact h header payload s₁ sdu hsegment hplaced
  · intro hcond
    refine .handlePdu fun header' payload' s₁' sdu' hsegment' hplaced' => ?_
    obtain ⟨rfl, rfl⟩ := hsegment.unique hsegment'
    cases hplaced.symm.trans hplaced'
    exact hcond

lemma expired_controlled (h : RxUmInv cfg s) (hstep : step cfg s .reassemblyTimerExpires = .ok s') :
    (Controlled cfg s .reassemblyTimerExpires s' ↔ Condition cfg s .reassemblyTimerExpires) ∧
      (Condition cfg s .reassemblyTimerExpires → Quiet cfg s → Quiet cfg s') := by
  have hcontrolled : Controlled cfg s .reassemblyTimerExpires s' ↔
      (s.reassemblyTimerRunning = true → NeedsTimer cfg s' → s'.reassemblyTimerRunning = true) := by
    constructor
    · intro h
      cases h with
      | expired hrun => exact hrun
    · exact .expired
  have hcondition : Condition cfg s .reassemblyTimerExpires ↔
      (s.reassemblyTimerRunning = true → ExpiryCondition cfg s) := by
    constructor
    · intro h
      cases h with
      | expired hcond => exact hcond
    · exact .expired
  rw [hcontrolled, hcondition]
  unfold step at hstep
  dsimp only at hstep
  split at hstep
  case isTrue hrun =>
    obtain ⟨hiff, hquiet⟩ := onExpiredReassemblyTimer_spec h hstep
    refine ⟨forall_congr' fun _ => hiff, fun hcond _ => ⟨hquiet, hiff.mpr (hcond hrun)⟩⟩
  case isFalse hrun =>
    obtain rfl := Except.ok.inj hstep
    exact ⟨⟨fun _ hrun' => absurd hrun' hrun, fun _ hrun' => absurd hrun' hrun⟩, fun _ hquiet => hquiet⟩

lemma step_controlled (h : RxUmInv cfg s) (hstep : step cfg s e = .ok s') :
    (¬ Discards cfg s e → (Controlled cfg s e s' ↔ Condition cfg s e)) ∧
      (Condition cfg s e → Quiet cfg s → Controlled cfg s e s' ∧ Quiet cfg s') := by
  cases e with
  | reassemblyTimerExpires =>
    obtain ⟨hiff, hquiet⟩ := expired_controlled h hstep
    exact ⟨fun _ => hiff, fun hcond hs => ⟨hiff.mpr hcond, hquiet hcond hs⟩⟩
  | handlePdu buf =>
    by_cases hsegment : ∃ header payload, SegmentPdu cfg buf header payload
    · obtain ⟨header, payload, hsegment⟩ := hsegment
      rw [hsegment.handled] at hstep
      rcases placePdu_spec h hsegment.sn_lt payload with
        ⟨hinvalid, hplaced⟩ | ⟨s₁, sdu, hplaced, hinv, hsame⟩
      · rw [hplaced] at hstep
        obtain rfl := Except.ok.inj hstep
        refine ⟨fun hkept => absurd ⟨buf, header, payload, rfl, hsegment, hinvalid⟩ hkept, fun _ hquiet => ?_⟩
        exact ⟨discarded_controlled hquiet hsegment hplaced, hquiet⟩
      · rw [hplaced] at hstep
        obtain ⟨hiff, hquiet⟩ := placed_controlled hinv hsame hsegment hplaced hstep
        rw [condition_placed_iff hsegment hplaced]
        exact ⟨fun _ => hiff, fun hcond _ => ⟨hiff.mpr hcond, hquiet hcond⟩⟩
    · push Not at hsegment
      rw [handlePdu_other hsegment] at hstep
      obtain rfl := Except.ok.inj hstep
      have hcontrolled : Controlled cfg s (.handlePdu buf) s := .other hsegment
      refine ⟨fun _ => ⟨fun _ => .handlePdu fun header payload _ _ h => absurd h (hsegment header payload), fun _ =>
        hcontrolled⟩, fun _ hquiet => ⟨hcontrolled, hquiet⟩⟩

lemma init_quiet : Quiet cfg (init cfg) := by
  have hmod := cfg.mod_eq
  have hW := cfg.one_lt_umWindowSize
  have hinv : RxUmInv cfg (init cfg) := init_rxUmInv
  have hnext := rxModBase_next hinv
  have hhighest := rxModBase_highest (s := init cfg) hinv.highest_lt
  have hsame : (init cfg).st.rxNextReassembly = (init cfg).st.rxNextHighest := rfl
  refine ⟨fun hrun => (nomatch hrun), ?_⟩
  rw [hsame, hhighest] at hnext
  rintro (hahead | ⟨heq, -⟩)
  · rw [hsame, hhighest, hnext] at hahead
    omega
  · rw [hsame, hhighest, hnext] at heq
    omega

/-- A segment that is placed while t-Reassembly is stopped, and leaves no gap at `rx_next_reassembly`. -/
lemma condition_idle (h : RxUmInv cfg s) (hsegment : SegmentPdu cfg buf header payload)
    (hidle : ∃ res, placePdu cfg s header payload = .ok res ∧
      ∀ p ∈ res, p.1.reassemblyTimerRunning = false ∧ p.1.gapAt p.1.st.rxNextReassembly ≠ some true) :
    Condition cfg s (.handlePdu buf) := by
  obtain ⟨res, hres, hidle⟩ := hidle
  refine .handlePdu fun header' payload' s₁ sdu hsegment' hplaced => ?_
  obtain ⟨rfl, rfl⟩ := hsegment.unique hsegment'
  rcases placePdu_spec h hsegment.sn_lt payload' with ⟨-, hnone⟩ | ⟨s₂, sdu', hplaced', hinv, -⟩
  · cases hplaced.symm.trans hnone
  · cases hplaced.symm.trans hplaced'
    obtain rfl := Except.ok.inj (hres.symm.trans hplaced)
    obtain ⟨hrun, hgap⟩ := hidle (s₁, sdu) rfl
    refine ⟨fun hrun' => ?_, fun _ hgap' => absurd (hinv.gapAt_iff.mpr hgap') hgap⟩
    rw [hrun] at hrun'
    cases hrun'

end Control

/-- In every reachable state an event that is not a discarded segment controls t-Reassembly as quoted if and only if it
meets the condition. In a run whose events all meet it, t-Reassembly is controlled as quoted at every event. -/
theorem um_reassembly_timer_controlled (cfg : RlcRxUmConfig) (es : List RxUmEvent) (s : RlcRxUmEntity)
    (hs : runEvents (step cfg) (init cfg) es = .ok s) (e : RxUmEvent) (s' : RlcRxUmEntity)
    (hstep : step cfg s e = .ok s') : (¬ Discards cfg s e → (Controlled cfg s e s' ↔ Condition cfg s e)) ∧
      (RunsWithin (step cfg) (Condition cfg) (init cfg) (es ++ [e]) → Controlled cfg s e s') := by
  obtain ⟨hiff, hcontrolled⟩ := step_controlled (reachable_rxUmInv hs) hstep
  refine ⟨hiff, fun hwithin => ?_⟩
  have hquiet : RxUmInv cfg s ∧ Quiet cfg s := by
    apply runsWithin_invariant (fun s => RxUmInv cfg s ∧ Quiet cfg s) _ ⟨init_rxUmInv, init_quiet⟩
      (runsWithin_of_append hwithin) hs
    intro s e s' h hcond hstep
    exact ⟨(step_rxUmInv h.1 e).of_ok hstep, ((step_controlled h.1 hstep).2 hcond h.2).2⟩
  exact (hcontrolled (runsWithin_at hwithin hs) hquiet.2).1

def sixBits : RlcRxUmConfig := ⟨.size6bits, 50⟩

/-- The first segments of two SDUs arrive, and the second one starts t-Reassembly. -/
theorem um_reassembly_timer_controlled_started :
    ∃ s s', runEvents (step sixBits) (init sixBits) [.handlePdu [0x40, 7]] = .ok s ∧
      step sixBits s (.handlePdu [0x41, 7]) = .ok s' ∧ s'.reassemblyTimerRunning = true ∧
        Controlled sixBits s (.handlePdu [0x41, 7]) s' := by
  have hsegment : ∀ sn ∈ [0, 1], SegmentPdu sixBits [0x40 + UInt8.ofNat sn, 7] ⟨.firstSegment, .size6bits, sn, 0⟩ [7] := by
    intro sn hsn
    obtain rfl | rfl := List.mem_pair.mp hsn
    · exact ⟨⟨[7], by decide +kernel⟩, by decide, rfl, by decide⟩
    · exact ⟨⟨[7], by decide +kernel⟩, by decide, rfl, by decide⟩
  have hfirst : ∃ res, placePdu sixBits (init sixBits) ⟨.firstSegment, .size6bits, 0, 0⟩ [7] = .ok res ∧
      ∀ p ∈ res, p.1.reassemblyTimerRunning = false ∧ p.1.gapAt p.1.st.rxNextReassembly ≠ some true := by
    decide +kernel
  have hrun : ∃ s, runEvents (step sixBits) (init sixBits) [.handlePdu [0x40, 7]] = .ok s ∧
      (∃ res, placePdu sixBits s ⟨.firstSegment, .size6bits, 1, 0⟩ [7] = .ok res ∧
        ∀ p ∈ res, p.1.reassemblyTimerRunning = false ∧ p.1.gapAt p.1.st.rxNextReassembly ≠ some true) ∧
      ∃ s', step sixBits s (.handlePdu [0x41, 7]) = .ok s' ∧ s'.reassemblyTimerRunning = true := by
    decide +kernel
  obtain ⟨s, hs, hsecond, s', hs', hrunning⟩ := hrun
  have hwithin : RunsWithin (step sixBits) (Condition sixBits) (init sixBits)
      ([.handlePdu [0x40, 7]] ++ [.handlePdu [0x41, 7]]) := by
    refine ⟨condition_idle init_rxUmInv (hsegment 0 (by decide)) hfirst, fun s₁ hs₁ => ?_⟩
    obtain ⟨s₂, hs₂, hnil⟩ := runEvents_cons_ok.mp hs
    cases hnil
    obtain rfl := Except.ok.inj (hs₁.symm.trans hs₂)
    have hinv := (step_rxUmInv init_rxUmInv _).of_ok hs₁
    exact ⟨condition_idle hinv (hsegment 1 (by decide)) hsecond, fun _ _ => trivial⟩
  exact ⟨s, s', hs, hs', hrunning, (um_reassembly_timer_controlled sixBits _ s hs _ s' hs').2 hwithin⟩

/-- Of the only SDU a byte in the middle is missing, and t-Reassembly is not started. -/
theorem um_reassembly_timer_not_started :
    ∃ s s', runEvents (step sixBits) (init sixBits) [.handlePdu [0x40, 7]] = .ok s ∧
      step sixBits s (.handlePdu [0x80, 0, 5, 9]) = .ok s' ∧ NeedsTimer sixBits s' ∧
        s'.reassemblyTimerRunning = false ∧ ¬ Controlled sixBits s (.handlePdu [0x80, 0, 5, 9]) s' := by
  have hrun : ∃ s, runEvents (step sixBits) (init sixBits) [.handlePdu [0x40, 7]] = .ok s ∧
      ∃ s', step sixBits s (.handlePdu [0x80, 0, 5, 9]) = .ok s' ∧ s'.reassemblyTimerRunning = false ∧
        s'.rxModBase sixBits s'.st.rxNextHighest = s'.rxModBase sixBits (s'.st.rxNextReassembly + 1) ∧
          s'.gapAt s'.st.rxNextReassembly = some true := by
    decide +kernel
  obtain ⟨s, hs, s', hs', hstopped, honly, hgap⟩ := hrun
  have hinv : RxUmInv sixBits s' := (step_rxUmInv (reachable_rxUmInv hs) _).of_ok hs'
  have hneeds : NeedsTimer sixBits s' := Or.inr ⟨honly, hinv.gapAt_iff.mp hgap⟩
  have hsegment : SegmentPdu sixBits [0x80, 0, 5, 9] ⟨.lastSegment, .size6bits, 0, 5⟩ [9] :=
    ⟨⟨[9], by decide +kernel⟩, by decide, rfl, by decide⟩
  refine ⟨s, s', hs, hs', hneeds, hstopped, fun hcontrolled => ?_⟩
  cases hcontrolled with
  | segment _ _ hrunning =>
    rw [hrunning hneeds] at hstopped
    cases hstopped
  | other hother => exact hother _ _ hsegment

end RlcRxUmEntity

end OwlsRan.Rlc
