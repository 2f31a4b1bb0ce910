import OwlsRan.Sched.HarqEffects
import OwlsRan.Sched.HarqTimeout

/-!
# How the wait for a HARQ-ACK ends

A process stops waiting when its last HARQ-ACK is handled or when a slot indication deletes it.
-/

namespace OwlsRan.Sched
open OwlsRan.Lib OwlsRan.Ran

/-- The answer with which a deletion is notified. A trapped retransmission is notified as not ACKed. -/
def HarqTrace.answer : HarqTrace → Bool
  | .ackTimeout _ _ _ ack => ack
  | .retxTrapped _ => false
  | .ackDeadline _ _ _ => false

namespace CellHarqRepository

variable {Snr : Type} {cfg : HarqConfig} {s s' t : CellHarqRepository Snr} {h : HarqRef}

section Reports

variable [LT Snr] [DecidableLT Snr] {a : MacHarqAckReportStatus} {snr : Option Snr} {r : StatusUpdate}

lemma dlAckInfo_inactive (cfg : HarqConfig) (a : MacHarqAckReportStatus) (snr : Option Snr)
    (hst : (s.harq h).status ≠ .waitingAck) : s.dlAckInfo cfg h a snr = .ok (s, .error) := by
  unfold dlAckInfo
  rw [if_neg hst]

lemma chooseAck_inv (hI : s.HarqInv cfg) (h : HarqRef) (a : MacHarqAckReportStatus) (snr : Option Snr) :
    (s.modifyHarq h fun p => p.chooseAck a snr).HarqInv cfg := by
  obtain ⟨hcore, hu, hid, -⟩ := chooseAck_core (s.harq h) a snr
  exact hI.modifyHarq ⟨hu, hid⟩ (congrArg HarqCore.status hcore) (congrArg HarqCore.slotTimeout hcore)

lemma dlAckInfo_await (hI : s.HarqInv cfg) (hh : s.hasHarq h) (hst : (s.harq h).status = .waitingAck)
    (hmore : 1 < (s.harq h).pucchAckToReceive) (hok : s.dlAckInfo cfg h a snr = .ok (t, r)) :
    t.HarqInv cfg ∧ OnlyMoves h s t ∧ r = .noUpdate ∧ t.harq h =
      { (s.harq h).chooseAck a snr with
        pucchAckToReceive := (s.harq h).pucchAckToReceive - 1
        ackOnTimeout := decide (((s.harq h).chooseAck a snr).chosenAck = .ack)
        slotTimeout := s.lastSlInd.add SHORT_ACK_TIMEOUT_DTX } := by
  obtain ⟨hcore, hu, hid, hcount⟩ := chooseAck_core (s.harq h) a snr
  have hst1 : ((s.harq h).chooseAck a snr).status = .waitingAck := (congrArg HarqCore.status hcore).trans hst
  unfold dlAckInfo at hok
  rw [if_pos hst] at hok
  simp only [harq_modifyHarq_self, hcount, if_neg (Nat.not_le.mpr hmore)] at hok
  obtain ⟨s1, hawait, hok⟩ := bind_eq_ok.mp hok
  cases hok
  unfold awaitNextAck at hawait
  dsimp only at hawait
  obtain ⟨s2, hpop, hawait⟩ := bind_eq_ok.mp hawait
  cases hawait
  generalize hf : (fun p : HarqProcess Snr => { p with
    pucchAckToReceive := p.pucchAckToReceive - 1
    ackOnTimeout := decide (((s.harq h).chooseAck a snr).chosenAck = MacHarqAckReportStatus.ack) }) = f at hpop
  have hI2 := (chooseAck_inv hI h a snr).modifyHarq (h := h) (f := f)
    (by rw [← hf]; exact ⟨rfl, rfl⟩) (by rw [← hf]) (by rw [← hf])
  have hproc : ((s.modifyHarq h fun p => p.chooseAck a snr).modifyHarq h f).harq h = f ((s.harq h).chooseAck a snr) := by
    rw [harq_modifyHarq_self, harq_modifyHarq_self]
  have hst2 : (((s.modifyHarq h fun p => p.chooseAck a snr).modifyHarq h f).harq h).status = .waitingAck := by
    rw [hproc, ← hf]
    exact hst1
  obtain ⟨hinv, hr, hlast, -⟩ := relink_spec hI2
    ((hasHarq_modifyHarq f).mpr ((hasHarq_modifyHarq _).mpr hh)) hst2 hpop (s2.lastSlInd.add SHORT_ACK_TIMEOUT_DTX)
  refine ⟨hinv, (onlyMoves_modifyHarq _).trans ((onlyMoves_modifyHarq _).trans hr.moves), rfl, ?_⟩
  rw [hr.proc, hproc, hlast, ← hf]
  simp only [hcount]
  rfl

lemma dlAckInfo_final (hI : s.HarqInv cfg) (hh : s.hasHarq h) (hst : (s.harq h).status = .waitingAck)
    (hlast : (s.harq h).pucchAckToReceive ≤ 1) (hok : s.dlAckInfo cfg h a snr = .ok (t, r)) :
    t.HarqInv cfg ∧ OnlyMoves h s t ∧
      r = (if ((s.harq h).chooseAck a snr).chosenAck = .ack then .acked else .nacked) ∧
      (t.harq h).status =
        (if ((s.harq h).chooseAck a snr).chosenAck = .ack ∨ (s.harq h).maxNofHarqRetxs ≤ (s.harq h).nofRetxs then .empty
        else .pendingRetx) := by
  obtain ⟨hcore, -, -, hcount⟩ := chooseAck_core (s.harq h) a snr
  have hnof : ((s.harq h).chooseAck a snr).nofRetxs = (s.harq h).nofRetxs := congrArg HarqCore.nofRetxs hcore
  have hmax : ((s.harq h).chooseAck a snr).maxNofHarqRetxs = (s.harq h).maxNofHarqRetxs :=
    congrArg HarqCore.maxNofHarqRetxs hcore
  unfold dlAckInfo at hok
  rw [if_pos hst] at hok
  simp only [harq_modifyHarq_self, hcount, if_pos hlast, decide_eq_true_eq] at hok
  obtain ⟨s1, hack, hok⟩ := bind_eq_ok.mp hok
  cases hok
  have hI1 := chooseAck_inv hI h a snr
  have hh1 := (hasHarq_modifyHarq (h := h) (g := h) fun p => p.chooseAck a snr).mpr hh
  obtain ⟨hinv, hmoves⟩ := handleAck_effect hI1 hh1 hack
  refine ⟨hinv, (onlyMoves_modifyHarq _).trans hmoves, rfl, ?_⟩
  unfold handleAck at hack
  simp only [harq_modifyHarq_self, hnof, hmax, decide_eq_true_eq] at hack
  by_cases hend : ((s.harq h).chooseAck a snr).chosenAck = .ack ∨ (s.harq h).maxNofHarqRetxs ≤ (s.harq h).nofRetxs
  · rw [if_pos hend] at hack ⊢
    exact (deallocHarq_spec hI1 hh1 hack).2.status
  · rw [if_neg hend] at hack ⊢
    have hst1 : ((s.modifyHarq h fun p => p.chooseAck a snr).harq h).status = .waitingAck := by
      rw [harq_modifyHarq_self]
      exact (congrArg HarqCore.status hcore).trans hst
    rw [(setPendingRetx_spec hI1 hh1 hst1 hack).2.2.proc]

lemma dlAckInfo_progress (hI : s.HarqInv cfg) (hh : s.hasHarq h) (a : MacHarqAckReportStatus) (snr : Option Snr) :
    ∃ t r, s.dlAckInfo cfg h a snr = .ok (t, r) := by
  unfold dlAckInfo
  split
  case isFalse => exact ⟨s, .error, rfl⟩
  case isTrue hst =>
    have hI1 := chooseAck_inv hI h a snr
    have hh1 := (hasHarq_modifyHarq (h := h) (g := h) fun p => p.chooseAck a snr).mpr hh
    have hst1 : ((s.modifyHarq h fun p => p.chooseAck a snr).harq h).status = .waitingAck := by
      rw [harq_modifyHarq_self]
      exact (congrArg HarqCore.status (chooseAck_core (s.harq h) a snr).1).trans hst
    have hnonempty : ((s.modifyHarq h fun p => p.chooseAck a snr).harq h).status ≠ .empty := by
      rw [hst1]
      simp
    dsimp only
    split
    case isTrue =>
      have hack : ∃ u, (s.modifyHarq h fun p => p.chooseAck a snr).handleAck cfg h
          (decide ((((s.modifyHarq h fun p => p.chooseAck a snr)).harq h).chosenAck = .ack)) = .ok u := by
        unfold handleAck
        split
        case isTrue => exact deallocHarq_progress hI1 hh1
        case isFalse =>
          obtain ⟨u, hpop⟩ := popTimeout_progress (hI1.in_wheel hh1 hnonempty)
          unfold setPendingRetx
          rw [hst1]
          exact ⟨_, bind_eq_ok.mpr ⟨u, hpop, rfl⟩⟩
      obtain ⟨u, hu⟩ := hack
      exact ⟨u, _, bind_eq_ok.mpr ⟨u, hu, rfl⟩⟩
    case isFalse =>
      generalize hfinal : decide ((((s.modifyHarq h fun p => p.chooseAck a snr)).harq h).chosenAck = .ack) = finalAck
      have hawait : ∃ u, (s.modifyHarq h fun p => p.chooseAck a snr).awaitNextAck cfg h finalAck = .ok u := by
        unfold awaitNextAck
        dsimp only
        have hI2 := hI1.modifyHarq (h := h) (f := fun p => { p with
          pucchAckToReceive := p.pucchAckToReceive - 1, ackOnTimeout := finalAck }) ⟨rfl, rfl⟩ rfl rfl
        obtain ⟨u, hpop⟩ := popTimeout_progress (hI2.in_wheel ((hasHarq_modifyHarq _).mpr hh1) (by
          rw [harq_modifyHarq_self]
          exact hnonempty))
        exact ⟨_, bind_eq_ok.mpr ⟨u, hpop, rfl⟩⟩
      obtain ⟨u, hu⟩ := hawait
      exact ⟨u, .noUpdate, bind_eq_ok.mpr ⟨u, hu, rfl⟩⟩

end Reports

section SlotIndications

variable {sl : SlotPoint}

lemma slotIndication_progress (hI : s.HarqInv cfg) (sl : SlotPoint) : ∃ t, s.slotIndication cfg sl = .ok t := by
  have hI0 := withLastSlInd_inv hI sl
  obtain ⟨s1, hto⟩ : ∃ s1, timeoutLoop cfg sl (s.harqTimeoutWheel (cfg.wheelIdx sl)).length
      { s with lastSlInd := sl } = .ok s1 := timeoutLoop_progress hI0 le_rfl
  obtain ⟨t, ht⟩ := trappedRetxLoop_progress (timeoutLoop_reports hI0 hto).1 le_rfl
  exact ⟨t, bind_eq_ok.mpr ⟨s1, hto, ht⟩⟩

/-- Each timeout that the loop notifies carries the flag that the process had when the loop began. -/
lemma timeoutLoop_answers {fuel : Nat} (hI : s.HarqInv cfg) (hok : timeoutLoop cfg sl fuel s = .ok t) :
    ∃ new, t.trace = s.trace ++ new ∧ ∀ e ∈ new, ∃ g, g ∈ s.harqTimeoutWheel (cfg.wheelIdx sl) ∧
      e = .ackTimeout g (s.harq g).slotTimeout sl (s.harq g).ackOnTimeout := by
  induction fuel generalizing s with
  | zero =>
    unfold timeoutLoop at hok
    split at hok
    case h_1 =>
      cases hok
      exact ⟨[], by simp, by simp⟩
    case h_2 => cases hok
    case h_3 => contradiction
  | succ fuel ih =>
    unfold timeoutLoop at hok
    split at hok
    case h_1 =>
      cases hok
      exact ⟨[], by simp, by simp⟩
    case h_2 => contradiction
    case h_3 h rest fuel' hcons hfuel =>
      cases hfuel
      have hmem : h ∈ s.harqTimeoutWheel (cfg.wheelIdx sl) := by simp [hcons]
      obtain ⟨s1, hone, hok⟩ := bind_eq_ok.mp hok
      obtain ⟨hI1, hd, htrace1⟩ := handleHarqAckTimeout_keeps (q := fun _ => True) (fun _ _ => trivial)
        ⟨hI, fun _ _ => trivial⟩ (hI.hasHarq_of_wheel hmem) hone
      obtain ⟨new, htrace, hnew⟩ := ih hI1.1 hok
      refine ⟨.ackTimeout h (s.harq h).slotTimeout sl (s.harq h).ackOnTimeout :: new, ?_, fun e he => ?_⟩
      · rw [htrace, htrace1, List.append_assoc, List.singleton_append]
      · rcases List.mem_cons.mp he with rfl | he
        · exact ⟨h, hmem, rfl⟩
        · obtain ⟨g, hg, rfl⟩ := hnew e he
          -- the process that has just been deleted is in no entry any more
          have hgh : g ≠ h := by
            rintro rfl
            exact (((hI1.1.linked g).wheel _).mp hg).2.1 hd.status
          have hproc : s1.harq g = s.harq g := hd.moves.harq g hgh
          rw [hproc]
          exact ⟨g, (hd.moves.wheel g hgh _).mp hg, rfl⟩

lemma trappedRetxLoop_answers {fuel : Nat} (hI : s.HarqInv cfg) (hok : trappedRetxLoop cfg fuel s = .ok t) :
    ∃ new, t.trace = s.trace ++ new ∧ ∀ e ∈ new, ∃ g, (s.harq g).status = .pendingRetx ∧ e = .retxTrapped g := by
  induction fuel generalizing s with
  | zero =>
    unfold trappedRetxLoop at hok
    split at hok
    case h_1 =>
      cases hok
      exact ⟨[], by simp, by simp⟩
    case h_2 => cases hok
    case h_3 => contradiction
  | succ fuel ih =>
    unfold trappedRetxLoop at hok
    split at hok
    case h_1 =>
      cases hok
      exact ⟨[], by simp, by simp⟩
    case h_2 => contradiction
    case h_3 h rest fuel' hcons hfuel =>
      cases hfuel
      split at hok
      case isTrue => cases hok
      case isFalse hst =>
        dsimp only at hok
        split at hok
        case isTrue =>
          cases hok
          exact ⟨[], by simp, by simp⟩
        case isFalse =>
          obtain ⟨s1, hone, hok⟩ := bind_eq_ok.mp hok
          have hh : s.hasHarq h := ((hI.linked h).pending.mp (by simp [hcons])).1
          obtain ⟨hI1, hd⟩ := deallocHarq_spec hI hh hone
          obtain ⟨new, htrace, hnew⟩ := ih (record_inv hI1 (.retxTrapped h)) hok
          refine ⟨.retxTrapped h :: new, ?_, fun e he => ?_⟩
          · rw [htrace, record, hd.trace, List.append_assoc, List.singleton_append]
          · rcases List.mem_cons.mp he with rfl | he
            · exact ⟨h, not_not.mp hst, rfl⟩
            · obtain ⟨g, hg, rfl⟩ := hnew e he
              have hg1 : (s1.harq g).status = .pendingRetx := hg
              have hgh : g ≠ h := by
                rintro rfl
                exact absurd (hg1.symm.trans hd.status) (by simp)
              rw [hd.moves.harq g hgh] at hg1
              exact ⟨g, hg1, rfl⟩

/-- A deletion that a slot indication notifies is due to a visit of the wheel entry or to a trapped retransmission. -/
def AnswersFor (cfg : HarqConfig) (s : CellHarqRepository Snr) (sl : SlotPoint) (g : HarqRef) (e : HarqTrace) : Prop :=
  g ∈ s.harqTimeoutWheel (cfg.wheelIdx sl) ∧ e = .ackTimeout g (s.harq g).slotTimeout sl (s.harq g).ackOnTimeout ∨
    (s.harq g).status = .pendingRetx ∧ e = .retxTrapped g

lemma slotIndication_answers (hI : s.HarqInv cfg) (hok : s.slotIndication cfg sl = .ok t) :
    ∃ new, t.trace = s.trace ++ new ∧ ∀ e ∈ new, ∃ g, AnswersFor cfg s sl g e := by
  unfold slotIndication at hok
  obtain ⟨s1, hto, hok⟩ := bind_eq_ok.mp hok
  have hI0 := withLastSlInd_inv hI sl
  obtain ⟨hI1, hrep⟩ := timeoutLoop_reports hI0 hto
  obtain ⟨new1, htrace1, hnew1⟩ := timeoutLoop_answers hI0 hto
  obtain ⟨new2, htrace2, hnew2⟩ := trappedRetxLoop_answers hI1 hok
  refine ⟨new1 ++ new2, by rw [htrace2, htrace1, List.append_assoc], fun e he => ?_⟩
  rcases List.mem_append.mp he with he | he
  · obtain ⟨g, hg, rfl⟩ := hnew1 e he
    exact ⟨g, Or.inl ⟨hg, rfl⟩⟩
  · obtain ⟨g, hg, rfl⟩ := hnew2 e he
    refine ⟨g, Or.inr ⟨?_, rfl⟩⟩
    obtain ⟨new, -, hsame, hgone, -⟩ := hrep.trace
    by_cases hdel : g ∈ new.filterMap HarqTrace.deleted
    · exact absurd (hg.symm.trans (hgone g hdel).2.2) (by simp)
    · rwa [hsame g hdel] at hg

/-- The notifications for `h` among those that follow the first `k`. -/
def deletionsOf (h : HarqRef) (k : Nat) (s : CellHarqRepository Snr) : List HarqTrace :=
  (s.trace.drop k).filter fun e => e.deleted == some h

/-- A slot indication leaves a process as it is, or it deletes the process and notifies this once. -/
lemma slotIndication_process (h : HarqRef) (hI : s.HarqInv cfg) (hok : s.slotIndication cfg sl = .ok t) :
    (t.harq h = s.harq h ∧ deletionsOf h s.trace.length t = []) ∨
      ((s.harq h).status ≠ .empty ∧ (t.harq h).status = .empty ∧
        ∃ e, deletionsOf h s.trace.length t = [e] ∧ AnswersFor cfg s sl h e) := by
  obtain ⟨-, hrep⟩ := slotIndication_reports hI hok
  obtain ⟨new, htrace, hsame, hgone, hnodup⟩ := hrep.trace
  obtain ⟨new', htrace', hanswers⟩ := slotIndication_answers hI hok
  obtain rfl : new' = new := List.append_cancel_left (htrace'.symm.trans htrace)
  have hdrop : t.trace.drop s.trace.length = new' := by rw [htrace, List.drop_left]
  unfold deletionsOf
  rw [hdrop]
  by_cases hmem : h ∈ new'.filterMap HarqTrace.deleted
  · obtain ⟨-, hst, hst'⟩ := hgone h hmem
    have hone : (new'.filter fun e => e.deleted == some h).length = 1 := by
      have hcount := List.count_eq_one_of_mem hnodup hmem
      rw [List.count_filterMap, List.countP_eq_length_filter] at hcount
      simpa using hcount
    obtain ⟨e, he⟩ := List.length_eq_one_iff.mp hone
    have hfound : e ∈ new' ∧ e.deleted = some h := by
      have hin : e ∈ new'.filter fun e => e.deleted == some h := by simp [he]
      simpa using hin
    obtain ⟨g, hg⟩ := hanswers e hfound.1
    have hgh : g = h := by
      rcases hg with ⟨-, rfl⟩ | ⟨-, rfl⟩
      · exact Option.some.inj hfound.2
      · exact Option.some.inj hfound.2
    exact Or.inr ⟨hst, hst', e, he, hgh ▸ hg⟩
  · refine Or.inl ⟨hsame h hmem, List.filter_eq_nil_iff.mpr fun e he hdel => hmem ?_⟩
    exact List.mem_filterMap.mpr ⟨e, he, by simpa using hdel⟩

lemma slotIndication_visit (hI : s.HarqInv cfg) (hh : s.hasHarq h) (hst : (s.harq h).status ≠ .empty)
    (hentry : cfg.wheelIdx (s.harq h).slotTimeout = cfg.wheelIdx sl) (hok : s.slotIndication cfg sl = .ok t) :
    (t.harq h).status = .empty := by
  obtain ⟨hIt, hd, hnil, -⟩ := slotIndication_keeps (q := fun _ => True) (fun _ _ => trivial)
    ⟨hI, fun _ _ => trivial⟩ hok
  rcases hd.harq h with hsame | hempty
  · have hproc : t.harq h = s.harq h := hsame
    have hht : t.hasHarq h := by
      unfold hasHarq at hh ⊢
      rw [hd.nof]
      exact hh
    have hlinked := hIt.1.in_wheel hht (by rwa [hproc])
    rw [hproc, hentry, hnil] at hlinked
    exact absurd hlinked List.not_mem_nil
  · exact hempty

end SlotIndications

end CellHarqRepository

end OwlsRan.Sched
