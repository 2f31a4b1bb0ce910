import OwlsRan.Sched.HarqInvariant

/-!
# When HARQ timeouts fire

The wheel knows a deadline only modulo its size.
-/

namespace OwlsRan.Sched
open OwlsRan.Lib OwlsRan.Ran

/-- Number of slots until a deadline that was armed `d` slots ahead; a whole hyper frame if it is now. -/
def slotsToDeadline (H d : Nat) : Nat := (d + H - 1) % H + 1

/-- The first visit of the wheel entry of a deadline `d` slots ahead is at the deadline itself. -/
def TimerReaches (R H d : Nat) : Prop := slotsToDeadline H d ≤ ringPeriod R H

instance (R H d : Nat) : Decidable (TimerReaches R H d) := inferInstanceAs (Decidable (_ ≤ _))

/-- `deadline` lies between one slot and one turn of the wheel ahead of `now`. -/
def Due (R : Nat) (now deadline : SlotPoint) : Prop :=
  ∃ m, 1 ≤ m ∧ m ≤ ringPeriod R now.nofSlotsPerHyperSystemFrame ∧ deadline = now.add m

lemma slotsToDeadline_mod {H : Nat} (hH : 0 < H) (d : Nat) : slotsToDeadline H d % H = d % H := by
  unfold slotsToDeadline
  rw [Nat.mod_add_mod, show d + H - 1 + 1 = d + H by omega, Nat.add_mod_right]

lemma due_of_timerReaches {R d : Nat} {now : SlotPoint}
    (h : TimerReaches R now.nofSlotsPerHyperSystemFrame d) : Due R now (now.add d) :=
  ⟨_, Nat.le_add_left 1 _, h, SlotPoint.add_congr (slotsToDeadline_mod now.hyperFrame_pos d).symm⟩

lemma timerReaches_of_le {R H d : Nat} (hd : 0 < d) (hR : d ≤ R) (hH : 0 < H) : TimerReaches R H d := by
  unfold TimerReaches slotsToDeadline ringPeriod
  have hlt : (d + H - 1) % H < H := Nat.mod_lt _ hH
  rcases Nat.lt_or_ge H d with h | h
  · omega
  · rw [show d + H - 1 = d - 1 + H by omega, Nat.add_mod_right, Nat.mod_eq_of_lt (by omega)]
    omega

section Wheel

variable {R : Nat} {now deadline : SlotPoint}

lemma Due.eq_of_entry_eq (hR : 0 < R) (hfit : RingFits R now.nofSlotsPerHyperSystemFrame)
    (hdue : Due R now deadline) (hentry : (now.add 1).count % R = deadline.count % R) :
    deadline = now.add 1 := by
  obtain ⟨m, hm1, hmE, rfl⟩ := hdue
  simp only [SlotPoint.add_count] at hentry
  rw [mod_ring_eq now.hyperFrame_pos hfit, mod_ring_eq now.hyperFrame_pos hfit] at hentry
  have hE := ringPeriod_pos hR now.hyperFrame_pos
  have heq := eq_of_mod_eq_of_lt (by omega) (by omega) hentry
  rw [show m = 1 by omega]

lemma Due.next (hdue : Due R now deadline) (hne : deadline ≠ now.add 1) : Due R (now.add 1) deadline := by
  obtain ⟨m, hm1, hmE, rfl⟩ := hdue
  have hm : m ≠ 1 := by
    rintro rfl
    exact hne rfl
  refine ⟨m - 1, by omega, ?_, ?_⟩
  · rw [SlotPoint.add_hyperFrame]
    omega
  · rw [SlotPoint.add_add, show 1 + (m - 1) = m by omega]

end Wheel

namespace CellHarqRepository

variable {Snr : Type} {cfg : HarqConfig} {s t : CellHarqRepository Snr} {h : HarqRef}

structure Quiet (s t : CellHarqRepository Snr) : Prop where
  lastSlInd : t.lastSlInd = s.lastSlInd
  trace : t.trace = s.trace

section Quiet

lemma setPendingRetx_quiet (hI : s.HarqInv cfg) (hh : s.hasHarq h) (hok : s.setPendingRetx cfg h = .ok t) :
    Quiet s t := by
  cases hst : (s.harq h).status with
  | empty =>
    unfold setPendingRetx at hok
    rw [hst] at hok
    cases hok
  | pendingRetx =>
    unfold setPendingRetx at hok
    rw [hst] at hok
    cases hok
    exact ⟨rfl, rfl⟩
  | waitingAck =>
    obtain ⟨-, htrace, hr⟩ := setPendingRetx_spec hI hh hst hok
    exact ⟨hr.lastSlInd, htrace⟩

lemma deallocHarq_quiet (hI : s.HarqInv cfg) (hh : s.hasHarq h) (hok : s.deallocHarq cfg h = .ok t) :
    Quiet s t := by
  obtain ⟨-, hd⟩ := deallocHarq_spec hI hh hok
  exact ⟨hd.lastSlInd, hd.trace⟩

lemma handleAck_quiet {ack : Bool} (hI : s.HarqInv cfg) (hh : s.hasHarq h)
    (hok : s.handleAck cfg h ack = .ok t) : Quiet s t := by
  unfold handleAck at hok
  split at hok
  · exact deallocHarq_quiet hI hh hok
  · exact setPendingRetx_quiet hI hh hok

lemma cancelRetxs_quiet (hI : s.HarqInv cfg) (hh : s.hasHarq h) (hok : s.cancelRetxs cfg h = .ok t) :
    Quiet s t := by
  unfold cancelRetxs at hok
  cases hst : (s.harq h).status with
  | empty =>
    rw [hst] at hok
    cases hok
    exact ⟨rfl, rfl⟩
  | pendingRetx =>
    rw [hst] at hok
    exact deallocHarq_quiet hI hh hok
  | waitingAck =>
    rw [hst] at hok
    cases hok
    exact ⟨rfl, rfl⟩

lemma awaitNextAck_quiet {b : Bool} (hok : s.awaitNextAck cfg h b = .ok t) : Quiet s t := by
  unfold awaitNextAck at hok
  obtain ⟨s1, hpop, hok⟩ := bind_eq_ok.mp hok
  cases hok
  obtain ⟨-, rfl⟩ := popTimeout_ok hpop
  exact ⟨rfl, rfl⟩

lemma dlAckInfo_quiet [LT Snr] [DecidableLT Snr] {a : MacHarqAckReportStatus} {snr : Option Snr}
    {r : StatusUpdate} (hI : s.HarqInv cfg) (hh : s.hasHarq h)
    (hok : s.dlAckInfo cfg h a snr = .ok (t, r)) : Quiet s t := by
  unfold dlAckInfo at hok
  split at hok
  case isFalse =>
    cases hok
    exact ⟨rfl, rfl⟩
  case isTrue =>
    dsimp only at hok
    obtain ⟨hcore, hu, hid, -⟩ := chooseAck_core (s.harq h) a snr
    have hI1 : (s.modifyHarq h fun p => p.chooseAck a snr).HarqInv cfg := hI.modifyHarq ⟨hu, hid⟩
      (congrArg HarqCore.status hcore) (congrArg HarqCore.slotTimeout hcore)
    split at hok
    · obtain ⟨s1, hack, hok⟩ := bind_eq_ok.mp hok
      cases hok
      have hquiet := handleAck_quiet hI1 ((hasHarq_modifyHarq _).mpr hh) hack
      exact ⟨hquiet.lastSlInd, hquiet.trace⟩
    · obtain ⟨s1, hawait, hok⟩ := bind_eq_ok.mp hok
      cases hok
      have hquiet := awaitNextAck_quiet hawait
      exact ⟨hquiet.lastSlInd, hquiet.trace⟩

lemma ulCrcInfo_quiet {ack r : Bool} (hI : s.HarqInv cfg) (hh : s.hasHarq h)
    (hok : s.ulCrcInfo cfg h ack = .ok (t, r)) : Quiet s t := by
  unfold ulCrcInfo at hok
  split at hok
  · obtain ⟨s1, hack, hok⟩ := bind_eq_ok.mp hok
    cases hok
    exact handleAck_quiet hI hh hack
  · cases hok
    exact ⟨rfl, rfl⟩

lemma destroyUe_quiet {u : Nat} (hI : s.HarqInv cfg) (hok : s.destroyUe cfg u = .ok t) : Quiet s t := by
  unfold destroyUe at hok
  obtain ⟨s1, hd, hok⟩ := bind_eq_ok.mp hok
  cases hok
  obtain ⟨-, hd1⟩ := deallocAll_keeps (q := fun _ => True) (fun _ _ => trivial) ⟨hI, fun _ _ => trivial⟩
    (fun h hh => (mem_ueHarqRefs.mp hh).2) hd
  exact ⟨hd1.lastSlInd, hd1.trace⟩

lemma reserveUeHarqs_quiet {u rnti n : Nat} (hok : s.reserveUeHarqs cfg u rnti n = .ok t) : Quiet s t := by
  unfold reserveUeHarqs at hok
  split at hok
  · cases hok
  · split at hok
    · cases hok
    · split at hok
      · cases hok
      · cases hok
        exact ⟨rfl, rfl⟩

end Quiet

/-- What an event other than a slot indication adds to the trace: at most one HARQ-ACK deadline. -/
def AddsDeadline (slAck deadline : SlotPoint) (s t : CellHarqRepository Snr) : Prop :=
  t.lastSlInd = s.lastSlInd ∧
    (t.trace = s.trace ∨ ∃ h, t.trace = s.trace ++ [.ackDeadline h slAck deadline])

variable {slTx slAck : SlotPoint}

lemma allocHarq_deadline {u m : Nat} {r : Option HarqRef} (hI : s.HarqInv cfg)
    (hok : s.allocHarq cfg u slTx slAck m = .ok (t, r)) :
    AddsDeadline slAck ((slAck.add cfg.maxAckWaitInSlots).sub cfg.ntnCsKoffset) s t := by
  unfold allocHarq at hok
  split at hok
  case h_1 =>
    cases hok
    exact ⟨rfl, Or.inl rfl⟩
  case h_2 hId rest hfree =>
    dsimp only at hok
    split at hok
    case isFalse => cases hok
    case isTrue =>
      cases hok
      obtain ⟨-, hr, htrace⟩ := startNewTx_spec (h := ⟨u, hId⟩) slTx slAck m hI hfree
      exact ⟨hr.lastSlInd, Or.inr ⟨_, htrace⟩⟩

lemma handleNewRetx_deadline {b : Bool} (hI : s.HarqInv cfg) (hh : s.hasHarq h)
    (hok : s.handleNewRetx cfg h slTx slAck = .ok (t, b)) :
    Quiet s t ∨ (s.harq h).status = .pendingRetx ∧
      AddsDeadline slAck (slAck.add cfg.maxAckWaitInSlots) s t := by
  cases b with
  | true =>
    obtain ⟨hst, -, hr, htrace⟩ := startRetx_spec hI hh hok
    exact Or.inr ⟨hst, hr.lastSlInd, Or.inr ⟨h, htrace⟩⟩
  | false =>
    unfold handleNewRetx at hok
    split at hok
    case isTrue =>
      obtain ⟨s1, -, hok⟩ := bind_eq_ok.mp hok
      obtain ⟨s2, -, hok⟩ := bind_eq_ok.mp hok
      cases hok
    case isFalse =>
      cases hok
      exact Or.inl ⟨rfl, rfl⟩

def GrantInWindow (cfg : HarqConfig) (s : CellHarqRepository Snr) (slTx slAck : SlotPoint) : Prop :=
  s.lastSlInd.valid ∧ (∃ k < getMaxSlotUlAllocDelay cfg.ntnCsKoffset + 1, slTx = s.lastSlInd.add k) ∧
    ∃ k < getMaxSlotUlAllocDelay cfg.ntnCsKoffset + 1, slAck = s.lastSlInd.add k

/-- How the scheduler calls the repository: consecutive slots, and grants for slots that it can reach. -/
def SchedulerContract (cfg : HarqConfig) (s : CellHarqRepository Snr) : HarqEvent Snr → Prop
  | .slotIndication sl => sl.valid ∧ sl.WellFormed ∧ (s.lastSlInd.valid → sl = s.lastSlInd.add 1)
  | .allocHarq _ slTx slAck _ => GrantInWindow cfg s slTx slAck
  | .newDlTx _ slot ackDelay _ _ => GrantInWindow cfg s slot (slot.add ackDelay)
  | .handleNewRetx _ slTx slAck => GrantInWindow cfg s slTx slAck
  | .newDlRetx _ slot ackDelay _ => GrantInWindow cfg s slot (slot.add ackDelay)
  | _ => True

def AckTimerFits (cfg : HarqConfig) (s : CellHarqRepository Snr) (slAck : SlotPoint) : Prop :=
  0 < cfg.maxAckWaitTimeout ∨ slAck ≠ s.lastSlInd

def RetxTimerFits (cfg : HarqConfig) (s : CellHarqRepository Snr) (slAck : SlotPoint) : Prop :=
  cfg.ntnCsKoffset % s.lastSlInd.nofSlotsPerHyperSystemFrame = 0 ∧ AckTimerFits cfg s slAck

/-- If the NACK makes the process pending, the retransmission timeout is within one turn of the wheel. -/
def NackTimerFits (cfg : HarqConfig) (s : CellHarqRepository Snr) (h : HarqRef) : Prop :=
  (s.harq h).status = .waitingAck → (s.harq h).nofRetxs < (s.harq h).maxNofHarqRetxs →
    TimerReaches cfg.wheelSize s.lastSlInd.nofSlotsPerHyperSystemFrame cfg.harqRetxTimeout

def TimersFit [LT Snr] [DecidableLT Snr] (cfg : HarqConfig) (s : CellHarqRepository Snr) :
    HarqEvent Snr → Prop
  | .allocHarq _ _ slAck _ => AckTimerFits cfg s slAck
  | .newDlTx _ slot ackDelay _ _ => AckTimerFits cfg s (slot.add ackDelay)
  | .handleNewRetx h _ slAck => (s.harq h).status = .pendingRetx → RetxTimerFits cfg s slAck
  | .newDlRetx h slot ackDelay _ => (s.harq h).status = .pendingRetx → RetxTimerFits cfg s (slot.add ackDelay)
  | .handleAck h ack => ack = false → NackTimerFits cfg s h
  | .setPendingRetx h => (s.harq h).status = .waitingAck →
    TimerReaches cfg.wheelSize s.lastSlInd.nofSlotsPerHyperSystemFrame cfg.harqRetxTimeout
  | .dlAckInfo h ackStatus snr => (s.harq h).pucchAckToReceive ≤ 1 →
    ((s.harq h).chooseAck ackStatus snr).chosenAck ≠ .ack → NackTimerFits cfg s h
  | .ulCrcInfo h ack => ack = false → NackTimerFits cfg s h
  | _ => True

instance (cfg : HarqConfig) (s : CellHarqRepository Snr) (slTx slAck : SlotPoint) :
    Decidable (GrantInWindow cfg s slTx slAck) :=
  inferInstanceAs (Decidable (_ ∧ _))

instance (cfg : HarqConfig) (s : CellHarqRepository Snr) (e : HarqEvent Snr) :
    Decidable (SchedulerContract cfg s e) :=
  match e with
  | .slotIndication _ => inferInstanceAs (Decidable (_ ∧ _))
  | .allocHarq .. => inferInstanceAs (Decidable (GrantInWindow ..))
  | .newDlTx .. => inferInstanceAs (Decidable (GrantInWindow ..))
  | .handleNewRetx .. => inferInstanceAs (Decidable (GrantInWindow ..))
  | .newDlRetx .. => inferInstanceAs (Decidable (GrantInWindow ..))
  | .reserveUeHarqs .. | .handleAck .. | .setPendingRetx .. | .cancelRetxs .. | .deallocHarq ..
  | .incrementPucchCounter .. | .dlAckInfo .. | .ulCrcInfo .. | .destroyUe .. | .stop => isTrue trivial

instance (cfg : HarqConfig) (s : CellHarqRepository Snr) (slAck : SlotPoint) :
    Decidable (AckTimerFits cfg s slAck) :=
  inferInstanceAs (Decidable (_ ∨ _))

instance (cfg : HarqConfig) (s : CellHarqRepository Snr) (slAck : SlotPoint) :
    Decidable (RetxTimerFits cfg s slAck) :=
  inferInstanceAs (Decidable (_ ∧ _))

instance (cfg : HarqConfig) (s : CellHarqRepository Snr) (h : HarqRef) : Decidable (NackTimerFits cfg s h) :=
  inferInstanceAs (Decidable (_ → _))

instance [LT Snr] [DecidableLT Snr] (cfg : HarqConfig) (s : CellHarqRepository Snr) (e : HarqEvent Snr) :
    Decidable (TimersFit cfg s e) :=
  match e with
  | .allocHarq .. => inferInstanceAs (Decidable (AckTimerFits ..))
  | .newDlTx .. => inferInstanceAs (Decidable (AckTimerFits ..))
  | .handleNewRetx .. => inferInstanceAs (Decidable (_ → _))
  | .newDlRetx .. => inferInstanceAs (Decidable (_ → _))
  | .handleAck .. => inferInstanceAs (Decidable (_ → _))
  | .setPendingRetx .. => inferInstanceAs (Decidable (_ → _))
  | .dlAckInfo .. => inferInstanceAs (Decidable (_ → _ → _))
  | .ulCrcInfo .. => inferInstanceAs (Decidable (_ → _))
  | .reserveUeHarqs .. | .cancelRetxs .. | .deallocHarq .. | .incrementPucchCounter ..
  | .slotIndication .. | .destroyUe .. | .stop => isTrue trivial

/-- Every timeout has fired in the slot it was armed for, and every HARQ-ACK deadline is the same function of the
ACK slot. -/
structure Timely (cfg : HarqConfig) (s : CellHarqRepository Snr) : Prop where
  timeouts : ∀ h deadline sl b, HarqTrace.ackTimeout h deadline sl b ∈ s.trace → deadline = sl
  deadlines : ∀ h slAck deadline, HarqTrace.ackDeadline h slAck deadline ∈ s.trace →
    deadline = slAck.add cfg.maxAckWaitTimeout

def DueCore (cfg : HarqConfig) (now : SlotPoint) (c : HarqCore) : Prop :=
  c.status ≠ .empty → now.valid ∧ Due cfg.wheelSize now c.slotTimeout

structure TimelyInv (cfg : HarqConfig) (s : CellHarqRepository Snr) : Prop where
  inv : s.HarqInvWith cfg (DueCore cfg s.lastSlInd)
  last : s.lastSlInd.valid → s.lastSlInd.WellFormed
  timely : s.Timely cfg

lemma ackDeadline_eq {k : Nat} (hk : slAck = s.lastSlInd.add k) :
    (slAck.add cfg.maxAckWaitInSlots).sub cfg.ntnCsKoffset = s.lastSlInd.add (k + cfg.maxAckWaitTimeout) := by
  unfold HarqConfig.maxAckWaitInSlots
  rw [SlotPoint.add_sub (by omega), Nat.add_sub_cancel, hk, SlotPoint.add_add]

lemma ackTimer_due (hlast : s.lastSlInd.WellFormed) {k : Nat}
    (hk : slAck = s.lastSlInd.add k) (hle : k < getMaxSlotUlAllocDelay cfg.ntnCsKoffset + 1)
    (hfit : AckTimerFits cfg s slAck) :
    Due cfg.wheelSize s.lastSlInd (s.lastSlInd.add (k + cfg.maxAckWaitTimeout)) := by
  apply due_of_timerReaches
  refine timerReaches_of_le ?_ ?_ s.lastSlInd.hyperFrame_pos
  · rcases hfit with hpos | hne
    · omega
    · rcases Nat.eq_zero_or_pos k with rfl | hpos
      · refine absurd ?_ hne
        rw [hk, SlotPoint.add, Nat.add_zero, Nat.mod_eq_of_lt hlast]
      · omega
  · have hring := le_ringSize (cfg.maxAckWaitTimeout + getMaxSlotUlAllocDelay cfg.ntnCsKoffset) 0
    unfold HarqConfig.wheelSize
    omega

lemma newTx_due (hlast : s.lastSlInd.valid → s.lastSlInd.WellFormed)
    (hgrant : GrantInWindow cfg s slTx slAck) (hfit : AckTimerFits cfg s slAck) (n m : Nat) :
    DueCore cfg s.lastSlInd ⟨.waitingAck, (slAck.add cfg.maxAckWaitInSlots).sub cfg.ntnCsKoffset, n, m⟩ := by
  obtain ⟨hvalid, -, k, hle, hk⟩ := hgrant
  intro _
  dsimp only
  rw [ackDeadline_eq hk]
  exact ⟨hvalid, ackTimer_due (hlast hvalid) hk hle hfit⟩

lemma retxDeadline_eq (hgrant : GrantInWindow cfg s slTx slAck) (hfit : RetxTimerFits cfg s slAck) :
    slAck.add cfg.maxAckWaitInSlots = (slAck.add cfg.maxAckWaitInSlots).sub cfg.ntnCsKoffset := by
  obtain ⟨-, -, k, -, hk⟩ := hgrant
  rw [ackDeadline_eq hk]
  unfold HarqConfig.maxAckWaitInSlots
  rw [hk, SlotPoint.add_add]
  apply SlotPoint.add_congr
  rw [← Nat.add_assoc, Nat.add_mod, hfit.1, Nat.add_zero, Nat.mod_mod]

lemma nack_due (hI : s.HarqInvWith cfg (DueCore cfg s.lastSlInd)) (hh : s.hasHarq h)
    (hst : (s.harq h).status = .waitingAck) {d n m : Nat} {st : HarqState}
    (hfit : TimerReaches cfg.wheelSize s.lastSlInd.nofSlotsPerHyperSystemFrame d) :
    DueCore cfg s.lastSlInd ⟨st, s.lastSlInd.add d, n, m⟩ := by
  have hvalid := (hI.2 h hh (by rw [show (s.harq h).core.status = _ from hst]; simp)).1
  exact fun _ => ⟨hvalid, due_of_timerReaches hfit⟩

lemma shortTimeout_reaches (sl : SlotPoint) :
    TimerReaches cfg.wheelSize sl.nofSlotsPerHyperSystemFrame SHORT_ACK_TIMEOUT_DTX := by
  refine timerReaches_of_le (by decide) ?_ sl.hyperFrame_pos
  have hring := le_ringSize (cfg.maxAckWaitTimeout + getMaxSlotUlAllocDelay cfg.ntnCsKoffset) 0
  unfold HarqConfig.wheelSize
  have hdelay : SHORT_ACK_TIMEOUT_DTX ≤ getMaxSlotUlAllocDelay cfg.ntnCsKoffset := by
    unfold getMaxSlotUlAllocDelay SHORT_ACK_TIMEOUT_DTX SCHEDULER_MAX_K0
    omega
  omega

section Runs

variable [LT Snr] [DecidableLT Snr]

lemma eventKeeps_due {e : HarqEvent Snr} (hI : s.TimelyInv cfg) (hcontract : SchedulerContract cfg s e)
    (hfit : TimersFit cfg s e) : EventKeeps cfg (DueCore cfg s.lastSlInd) s e := by
  have hnack : ∀ {h}, s.hasHarq h → NackTimerFits cfg s h → NackKeeps cfg (DueCore cfg s.lastSlInd) s h :=
    fun hh hf hst hlt => nack_due hI.inv hh hst (hf hst hlt)
  cases e with
  | allocHarq u slTx slAck m => exact newTx_due hI.last hcontract hfit 0 m
  | newDlTx u slot delay m bit => exact newTx_due hI.last hcontract hfit 0 m
  | handleAck h ack => exact fun hh hack => hnack hh (hfit hack)
  | setPendingRetx h => exact fun hh hst => nack_due hI.inv hh hst (hfit hst)
  | handleNewRetx h slTx slAck =>
    intro hh hst
    rw [retxDeadline_eq hcontract (hfit hst)]
    exact newTx_due hI.last hcontract (hfit hst).2 _ _
  | newDlRetx h slot delay bit =>
    intro hh hst
    rw [retxDeadline_eq hcontract (hfit hst)]
    exact newTx_due hI.last hcontract (hfit hst).2 _ _
  | cancelRetxs h =>
    intro hh hst _
    exact hI.inv.2 h hh (by rw [show (s.harq h).core.status = _ from hst]; simp)
  | dlAckInfo h a snr =>
    intro hh hst
    split
    case isTrue hle => exact fun hne => hnack hh (hfit hle hne)
    case isFalse => exact nack_due hI.inv hh hst (shortTimeout_reaches _)
  | ulCrcInfo h ack => exact fun hh hack => hnack hh (hfit hack)
  | reserveUeHarqs | deallocHarq | incrementPucchCounter | slotIndication | destroyUe | stop => trivial

omit [LT Snr] [DecidableLT Snr] in
lemma Timely.of_quiet (hT : s.Timely cfg) (hq : Quiet s t) : t.Timely cfg := by
  constructor
  · rw [hq.trace]
    exact hT.timeouts
  · rw [hq.trace]
    exact hT.deadlines

omit [LT Snr] [DecidableLT Snr] in
lemma Timely.of_addsDeadline {slAck deadline : SlotPoint} (hT : s.Timely cfg)
    (hd : deadline = slAck.add cfg.maxAckWaitTimeout) (ha : AddsDeadline slAck deadline s t) : t.Timely cfg := by
  rcases ha.2 with htrace | ⟨h0, htrace⟩
  · exact hT.of_quiet ⟨ha.1, htrace⟩
  · constructor
    · intro h d sl b hmem
      rw [htrace, List.mem_append, List.mem_singleton] at hmem
      rcases hmem with hmem | hmem
      · exact hT.timeouts h d sl b hmem
      · cases hmem
    · intro h a d hmem
      rw [htrace, List.mem_append, List.mem_singleton] at hmem
      rcases hmem with hmem | hmem
      · exact hT.deadlines h a d hmem
      · cases hmem
        exact hd

omit [LT Snr] [DecidableLT Snr] in
lemma grantDeadline_eq {slTx slAck : SlotPoint} (hgrant : GrantInWindow cfg s slTx slAck) :
    (slAck.add cfg.maxAckWaitInSlots).sub cfg.ntnCsKoffset = slAck.add cfg.maxAckWaitTimeout := by
  obtain ⟨-, -, k, -, hk⟩ := hgrant
  rw [ackDeadline_eq hk, hk, SlotPoint.add_add]

lemma callEvent_timely {e : HarqEvent Snr} (hI : s.TimelyInv cfg) (hcontract : SchedulerContract cfg s e)
    (hfit : TimersFit cfg s e) (hok : step cfg s e = .ok t) (hslot : ∀ sl, e ≠ .slotIndication sl)
    (hstop : e ≠ .stop) : t.lastSlInd = s.lastSlInd ∧ t.Timely cfg := by
  have hinv := hI.inv.1
  have hquiet : Quiet s t → t.lastSlInd = s.lastSlInd ∧ t.Timely cfg :=
    fun hq => ⟨hq.lastSlInd, hI.timely.of_quiet hq⟩
  cases e with
  | reserveUeHarqs u rnti n => exact hquiet (reserveUeHarqs_quiet hok)
  | allocHarq u slTx slAck m =>
    obtain ⟨r, hok⟩ := map_fst_ok hok
    have ha := allocHarq_deadline hinv hok
    exact ⟨ha.1, hI.timely.of_addsDeadline (grantDeadline_eq hcontract) ha⟩
  | newDlTx u slot delay m bit =>
    obtain ⟨r, hok⟩ := map_fst_ok hok
    obtain ⟨⟨s1, r1⟩, halloc, hok⟩ := bind_eq_ok.mp hok
    have ha := allocHarq_deadline hinv halloc
    have hT := hI.timely.of_addsDeadline (grantDeadline_eq hcontract) ha
    cases r1 with
    | none =>
      cases hok
      exact ⟨ha.1, hT⟩
    | some h =>
      cases hok
      exact ⟨ha.1, hT.of_quiet ⟨rfl, rfl⟩⟩
  | handleAck h ack =>
    obtain ⟨hh, hok⟩ := withHarq_ok hok
    exact hquiet (handleAck_quiet hinv hh hok)
  | setPendingRetx h =>
    obtain ⟨hh, hok⟩ := withHarq_ok hok
    exact hquiet (setPendingRetx_quiet hinv hh hok)
  | handleNewRetx h slTx slAck =>
    obtain ⟨hh, hok⟩ := withHarq_ok hok
    obtain ⟨r, hok⟩ := map_fst_ok hok
    rcases handleNewRetx_deadline hinv hh hok with hq | ⟨hst, ha⟩
    · exact hquiet hq
    · refine ⟨ha.1, hI.timely.of_addsDeadline ?_ ha⟩
      rw [retxDeadline_eq hcontract (hfit hst), grantDeadline_eq hcontract]
  | newDlRetx h slot delay bit =>
    obtain ⟨hh, hok⟩ := withHarq_ok hok
    obtain ⟨r, hok⟩ := map_fst_ok hok
    obtain ⟨⟨s1, b1⟩, hretx, hok⟩ := bind_eq_ok.mp hok
    have h1 : s1.lastSlInd = s.lastSlInd ∧ s1.Timely cfg := by
      rcases handleNewRetx_deadline hinv hh hretx with hq | ⟨hst, ha⟩
      · exact ⟨hq.lastSlInd, hI.timely.of_quiet hq⟩
      · refine ⟨ha.1, hI.timely.of_addsDeadline ?_ ha⟩
        rw [retxDeadline_eq hcontract (hfit hst), grantDeadline_eq hcontract]
    cases b1 with
    | false =>
      cases hok
      exact h1
    | true =>
      cases hok
      exact ⟨h1.1, h1.2.of_quiet ⟨rfl, rfl⟩⟩
  | cancelRetxs h =>
    obtain ⟨hh, hok⟩ := withHarq_ok hok
    exact hquiet (cancelRetxs_quiet hinv hh hok)
  | deallocHarq h =>
    obtain ⟨hh, hok⟩ := withHarq_ok hok
    exact hquiet (deallocHarq_quiet hinv hh hok)
  | incrementPucchCounter h =>
    obtain ⟨hh, hok⟩ := withHarq_ok hok
    cases hok
    exact hquiet ⟨rfl, rfl⟩
  | dlAckInfo h a snr =>
    obtain ⟨hh, hok⟩ := withHarq_ok hok
    obtain ⟨r, hok⟩ := map_fst_ok hok
    exact hquiet (dlAckInfo_quiet hinv hh hok)
  | ulCrcInfo h ack =>
    obtain ⟨hh, hok⟩ := withHarq_ok hok
    obtain ⟨r, hok⟩ := map_fst_ok hok
    exact hquiet (ulCrcInfo_quiet hinv hh hok)
  | slotIndication sl => exact absurd rfl (hslot sl)
  | destroyUe u => exact hquiet (destroyUe_quiet hinv hok)
  | stop => exact absurd rfl hstop

omit [LT Snr] [DecidableLT Snr] in
/-- The slot indication meets exactly the deadlines of its slot; the others come one slot closer. -/
lemma slotIndication_timely {sl : SlotPoint} (hI : s.TimelyInv cfg) (hvalid : sl.valid) (hwf : sl.WellFormed)
    (hnext : s.lastSlInd.valid → sl = s.lastSlInd.add 1) (hok : s.slotIndication cfg sl = .ok t) :
    t.TimelyInv cfg := by
  have hweak : s.HarqInvWith cfg fun _ => True := ⟨hI.inv.1, fun _ _ => trivial⟩
  obtain ⟨hinv, hdis, hnil, htrace⟩ := slotIndication_keeps (fun _ _ => trivial) hweak hok
  have hlast : t.lastSlInd = sl := hdis.lastSlInd
  have hsize : 0 < cfg.wheelSize := ringSize_pos _ _
  have hdue : ∀ g, s.hasHarq g → (s.harq g).status ≠ .empty →
      s.lastSlInd.valid ∧ Due cfg.wheelSize s.lastSlInd (s.harq g).slotTimeout := fun g => hI.inv.2 g
  refine ⟨⟨hinv.1, fun g hg hst => ?_⟩, fun _ => hlast ▸ hwf, fun g d sl' b hmem => ?_, fun g a d hmem => ?_⟩
  · have hst' : (t.harq g).status ≠ .empty := hst
    have hsame : t.harq g = s.harq g := (hdis.harq g).resolve_right hst'
    have hgs : s.hasHarq g := by
      unfold hasHarq at hg ⊢
      rwa [hdis.nof] at hg
    obtain ⟨hsv, hd⟩ := hdue g hgs (hsame ▸ hst')
    have hne : (s.harq g).slotTimeout ≠ s.lastSlInd.add 1 := by
      intro heq
      have hmem := ((hinv.1.linked g).wheel (cfg.wheelIdx sl)).mpr
        ⟨hg, hst', by rw [hsame, heq, ← hnext hsv]⟩
      rw [hnil] at hmem
      exact absurd hmem List.not_mem_nil
    rw [hlast]
    refine ⟨hvalid, ?_⟩
    change Due cfg.wheelSize sl (t.harq g).slotTimeout
    rw [hsame, hnext hsv]
    exact hd.next hne
  · rcases htrace _ hmem with hold | ⟨g', htrapped⟩ | ⟨g', b', heq, hg'⟩
    · exact hI.timely.timeouts g d sl' b hold
    · cases htrapped
    · cases heq
      have hl := ((hI.inv.1.linked g).wheel _).mp hg'
      obtain ⟨hsv, hd⟩ := hdue g hl.1 hl.2.1
      have hentry := hl.2.2
      unfold HarqConfig.wheelIdx at hentry
      rw [hnext hsv] at hentry ⊢
      exact hd.eq_of_entry_eq hsize (ringSize_fits _ _) hentry
  · rcases htrace _ hmem with hold | ⟨g', htrapped⟩ | ⟨g', b', heq, -⟩
    · exact hI.timely.deadlines g a d hold
    · cases htrapped
    · cases heq

omit [LT Snr] [DecidableLT Snr] in
lemma stop_timely (hI : s.TimelyInv cfg) (hok : s.stop cfg = .ok t) : t.TimelyInv cfg := by
  have hweak : s.HarqInvWith cfg fun _ => True := ⟨hI.inv.1, fun _ _ => trivial⟩
  obtain ⟨hinv, hlast, htrace, hall⟩ := stop_keeps (fun _ _ => trivial) hweak hok
  refine ⟨⟨hinv.1, fun g hg hst => absurd (hall g hg) hst⟩, fun hv => ?_, fun g d sl b hmem => ?_,
    fun g a d hmem => ?_⟩
  · rw [hlast] at hv
    exact absurd hv (by decide)
  · exact hI.timely.timeouts g d sl b (htrace ▸ hmem)
  · exact hI.timely.deadlines g a d (htrace ▸ hmem)

lemma step_timely {e : HarqEvent Snr} (hI : s.TimelyInv cfg)
    (hC : SchedulerContract cfg s e ∧ TimersFit cfg s e) (hok : step cfg s e = .ok t) : t.TimelyInv cfg := by
  have hcall : (∀ sl, e ≠ .slotIndication sl) → e ≠ .stop → t.TimelyInv cfg := by
    intro hslot hstop
    obtain ⟨hlast, htimely⟩ := callEvent_timely hI hC.1 hC.2 hok hslot hstop
    have hinv := step_keeps (fun c hc hne => absurd hc hne) hI.inv (eventKeeps_due hI hC.1 hC.2) hok
    rw [← hlast] at hinv
    exact ⟨hinv, hlast ▸ hI.last, htimely⟩
  cases e with
  | slotIndication sl => exact slotIndication_timely hI hC.1.1 hC.1.2.1 hC.1.2.2 hok
  | stop => exact stop_timely hI hok
  | _ => exact hcall (fun _ he => by cases he) (fun he => by cases he)

/-- In every run in which the armed timers fit into one turn of the wheel, and no retransmission is armed under
an NTN offset, the HARQ timeouts are on time. -/
theorem harq_timeouts_on_time (cfg : HarqConfig) (es : List (HarqEvent Snr)) (s : CellHarqRepository Snr)
    (hC : RunsWithin (step cfg) (fun s e => SchedulerContract cfg s e ∧ TimersFit cfg s e) (init Snr) es)
    (hrun : runEvents (step cfg) (init Snr) es = .ok s) : s.Timely cfg := by
  have hI0 : (init Snr).TimelyInv cfg :=
    ⟨⟨init_inv, fun h hh => absurd hh (Nat.not_lt_zero _)⟩, fun hv => absurd hv SlotPoint.not_valid_invalid,
      fun _ _ _ _ hmem => absurd hmem List.not_mem_nil, fun _ _ _ hmem => absurd hmem List.not_mem_nil⟩
  exact (runsWithin_invariant (TimelyInv cfg) (fun s e s' hI hC hok => step_timely hI hC hok) hI0 hC hrun).timely

end Runs

section Examples

/-- One UE with one process, which is NACKed in slot `0` and then grabs the next two slots. -/
def nackedRun : List (HarqEvent Nat) :=
  [.reserveUeHarqs 0 17 1, .slotIndication ⟨0, 0⟩, .allocHarq 0 ⟨0, 0⟩ ⟨0, 2⟩ 4, .handleAck ⟨0, 0⟩ false]

/-- A timely run: the NACKed process is retransmitted and then times out five slots after its ACK slot. -/
def retransmittedRun : List (HarqEvent Nat) :=
  nackedRun ++ [.handleNewRetx ⟨0, 0⟩ ⟨0, 0⟩ ⟨0, 0⟩, .slotIndication ⟨0, 1⟩]

theorem harq_timeouts_on_time_retransmitted :
    ∃ s, runEvents (step ⟨1, 1, 30, 1, 0⟩) (init Nat) retransmittedRun = .ok s ∧ s.Timely ⟨1, 1, 30, 1, 0⟩ ∧
      s.trace = [.ackDeadline ⟨0, 0⟩ ⟨0, 2⟩ ⟨0, 3⟩, .ackDeadline ⟨0, 0⟩ ⟨0, 0⟩ ⟨0, 1⟩,
        .ackTimeout ⟨0, 0⟩ ⟨0, 1⟩ ⟨0, 1⟩ false] :=
  ⟨_, rfl, harq_timeouts_on_time ⟨1, 1, 30, 1, 0⟩ retransmittedRun _ (by decide) rfl, rfl⟩

/-- With an NTN offset of one slot, the same ACK slot gives two deadlines; and with a retransmission timeout of 41
slots on a wheel of 40, a NACKed process is discarded in the next slot. -/
theorem harq_timeouts_not_on_time :
    (∃ s, runEvents (step ⟨1, 4, 10, 1, 1⟩) (init Nat)
        (nackedRun ++ [.handleNewRetx ⟨0, 0⟩ ⟨0, 0⟩ ⟨0, 2⟩]) = .ok s ∧
      RunsWithin (step ⟨1, 4, 10, 1, 1⟩) (SchedulerContract ⟨1, 4, 10, 1, 1⟩) (init Nat)
        (nackedRun ++ [.handleNewRetx ⟨0, 0⟩ ⟨0, 0⟩ ⟨0, 2⟩]) ∧
      s.trace = [.ackDeadline ⟨0, 0⟩ ⟨0, 2⟩ ⟨0, 6⟩, .ackDeadline ⟨0, 0⟩ ⟨0, 2⟩ ⟨0, 7⟩] ∧
      ¬s.Timely ⟨1, 4, 10, 1, 1⟩) ∧
    (∃ s, runEvents (step ⟨1, 4, 41, 1, 0⟩) (init Nat) (nackedRun ++ [.slotIndication ⟨0, 1⟩]) = .ok s ∧
      RunsWithin (step ⟨1, 4, 41, 1, 0⟩) (SchedulerContract ⟨1, 4, 41, 1, 0⟩) (init Nat)
        (nackedRun ++ [.slotIndication ⟨0, 1⟩]) ∧
      s.trace = [.ackDeadline ⟨0, 0⟩ ⟨0, 2⟩ ⟨0, 6⟩, .ackTimeout ⟨0, 0⟩ ⟨0, 41⟩ ⟨0, 1⟩ false] ∧
      ¬s.Timely ⟨1, 4, 41, 1, 0⟩) := by
  refine ⟨⟨_, rfl, by decide, rfl, fun hT => ?_⟩, ⟨_, rfl, by decide, rfl, fun hT => ?_⟩⟩
  · exact absurd (hT.deadlines ⟨0, 0⟩ ⟨0, 2⟩ ⟨0, 7⟩ (by decide)) (by decide)
  · exact absurd (hT.timeouts ⟨0, 0⟩ ⟨0, 41⟩ ⟨0, 1⟩ false (by decide)) (by decide)

end Examples

end CellHarqRepository

end OwlsRan.Sched
