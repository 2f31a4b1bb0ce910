import OwlsRan.Sched.HarqLinks

/-!
# The containers of the HARQ repository stay consistent

`EventKeeps q` lists what an event owes to a property `q` of the non-container fields of a process.
-/

namespace OwlsRan.Sched
open OwlsRan.Lib OwlsRan.Ran

structure HarqCore where
  status : HarqState
  slotTimeout : SlotPoint
  nofRetxs : Nat
  maxNofHarqRetxs : Nat

def HarqProcess.core {Snr : Type} (p : HarqProcess Snr) : HarqCore :=
  ⟨p.status, p.slotTimeout, p.nofRetxs, p.maxNofHarqRetxs⟩

namespace CellHarqRepository

variable {Snr : Type} {cfg : HarqConfig} {s s' t : CellHarqRepository Snr} {h : HarqRef} {q : HarqCore → Prop}

def AllHarqs (q : HarqCore → Prop) (s : CellHarqRepository Snr) : Prop :=
  ∀ h, s.hasHarq h → q (s.harq h).core

def HarqInvWith (cfg : HarqConfig) (q : HarqCore → Prop) (s : CellHarqRepository Snr) : Prop :=
  s.HarqInv cfg ∧ s.AllHarqs q

lemma AllHarqs.of_onlyMoves (hq : s.AllHarqs q) (hm : OnlyMoves h s s')
    (hh : s.hasHarq h → q (s'.harq h).core) : s'.AllHarqs q := by
  intro g hg
  have hg' : s.hasHarq g := (hm.hasHarq g).mp hg
  by_cases hgh : g = h
  · subst hgh
    exact hh hg'
  · rw [hm.harq g hgh]
    exact hq g hg'

def NackKeeps (cfg : HarqConfig) (q : HarqCore → Prop) (s : CellHarqRepository Snr) (h : HarqRef) : Prop :=
  (s.harq h).status = .waitingAck → (s.harq h).nofRetxs < (s.harq h).maxNofHarqRetxs →
    q ⟨.pendingRetx, s.lastSlInd.add cfg.harqRetxTimeout, (s.harq h).nofRetxs, (s.harq h).maxNofHarqRetxs⟩

def EventKeeps [LT Snr] [DecidableLT Snr] (cfg : HarqConfig) (q : HarqCore → Prop)
    (s : CellHarqRepository Snr) : HarqEvent Snr → Prop
  | .allocHarq _ _ slAck m => q ⟨.waitingAck, (slAck.add cfg.maxAckWaitInSlots).sub cfg.ntnCsKoffset, 0, m⟩
  | .newDlTx _ slot ackDelay m _ =>
    q ⟨.waitingAck, ((slot.add ackDelay).add cfg.maxAckWaitInSlots).sub cfg.ntnCsKoffset, 0, m⟩
  | .handleAck h ack => s.hasHarq h → ack = false → NackKeeps cfg q s h
  | .setPendingRetx h => s.hasHarq h → (s.harq h).status = .waitingAck →
    q ⟨.pendingRetx, s.lastSlInd.add cfg.harqRetxTimeout, (s.harq h).nofRetxs, (s.harq h).maxNofHarqRetxs⟩
  | .handleNewRetx h _ slAck => s.hasHarq h → (s.harq h).status = .pendingRetx →
    q ⟨.waitingAck, slAck.add cfg.maxAckWaitInSlots, (s.harq h).nofRetxs + 1, (s.harq h).maxNofHarqRetxs⟩
  | .newDlRetx h slot ackDelay _ => s.hasHarq h → (s.harq h).status = .pendingRetx →
    q ⟨.waitingAck, (slot.add ackDelay).add cfg.maxAckWaitInSlots, (s.harq h).nofRetxs + 1,
      (s.harq h).maxNofHarqRetxs⟩
  | .cancelRetxs h => s.hasHarq h → (s.harq h).status = .waitingAck →
    q ⟨.waitingAck, (s.harq h).slotTimeout, (s.harq h).nofRetxs, (s.harq h).nofRetxs⟩
  | .dlAckInfo h ackStatus snr => s.hasHarq h → (s.harq h).status = .waitingAck →
    if (s.harq h).pucchAckToReceive ≤ 1 then
      ((s.harq h).chooseAck ackStatus snr).chosenAck ≠ .ack → NackKeeps cfg q s h
    else q ⟨.waitingAck, s.lastSlInd.add SHORT_ACK_TIMEOUT_DTX, (s.harq h).nofRetxs, (s.harq h).maxNofHarqRetxs⟩
  | .ulCrcInfo h ack => s.hasHarq h → ack = false → NackKeeps cfg q s h
  | .reserveUeHarqs .. => True
  | .deallocHarq _ => True
  | .incrementPucchCounter _ => True
  | .slotIndication _ => True
  | .destroyUe _ => True
  | .stop => True

section Calls

lemma deallocHarq_keeps (hempty : ∀ c : HarqCore, c.status = .empty → q c) (hI : s.HarqInvWith cfg q) (hh : s.hasHarq h) 
    (hok : s.deallocHarq cfg h = .ok t) : t.HarqInvWith cfg q ∧ Dealloced h s t := by
  obtain ⟨hinv, hd⟩ := deallocHarq_spec hI.1 hh hok
  exact ⟨⟨hinv, hI.2.of_onlyMoves hd.moves fun _ => hempty _ hd.status⟩, hd⟩

variable {u fuel : Nat}

lemma allocHarq_keeps {m : Nat} {slTx slAck : SlotPoint} {r : Option HarqRef} (hI : s.HarqInvWith cfg q)
    (hq : q ⟨.waitingAck, (slAck.add cfg.maxAckWaitInSlots).sub cfg.ntnCsKoffset, 0, m⟩)
    (hok : s.allocHarq cfg u slTx slAck m = .ok (t, r)) : t.HarqInvWith cfg q := by
  unfold allocHarq at hok
  split at hok
  case h_1 =>
    cases hok
    exact hI
  case h_2 hId rest hfree =>
    dsimp only at hok
    split at hok
    case isFalse => cases hok
    case isTrue =>
      cases hok
      obtain ⟨hinv, hr, -⟩ := startNewTx_spec (h := ⟨u, hId⟩) slTx slAck m hI.1 hfree
      refine ⟨hinv, hI.2.of_onlyMoves hr.moves fun _ => ?_⟩
      rw [hr.proc]
      exact hq

lemma setPendingRetx_keeps (hI : s.HarqInvWith cfg q) (hh : s.hasHarq h)
    (hq : (s.harq h).status = .waitingAck → q ⟨.pendingRetx, s.lastSlInd.add cfg.harqRetxTimeout,
      (s.harq h).nofRetxs, (s.harq h).maxNofHarqRetxs⟩)
    (hok : s.setPendingRetx cfg h = .ok t) : t.HarqInvWith cfg q := by
  cases hst : (s.harq h).status with
  | empty =>
    unfold setPendingRetx at hok
    rw [hst] at hok
    cases hok
  | pendingRetx =>
    unfold setPendingRetx at hok
    rw [hst] at hok
    cases hok
    exact hI
  | waitingAck =>
    obtain ⟨hinv, -, hr⟩ := setPendingRetx_spec hI.1 hh hst hok
    refine ⟨hinv, hI.2.of_onlyMoves hr.moves fun _ => ?_⟩
    rw [hr.proc]
    exact hq hst

lemma handleAck_keeps {ack : Bool} (hempty : ∀ c : HarqCore, c.status = .empty → q c)
    (hI : s.HarqInvWith cfg q) (hh : s.hasHarq h)
    (hq : ack = false → NackKeeps cfg q s h) (hok : s.handleAck cfg h ack = .ok t) :
    t.HarqInvWith cfg q := by
  unfold handleAck at hok
  split at hok
  case isTrue => exact (deallocHarq_keeps hempty hI hh hok).1
  case isFalse hcond =>
    push Not at hcond
    have hnack : ack = false := by simpa using hcond.1
    exact setPendingRetx_keeps hI hh (fun hst => hq hnack hst hcond.2) hok

lemma handleNewRetx_keeps {slTx slAck : SlotPoint} {b : Bool} (hI : s.HarqInvWith cfg q) (hh : s.hasHarq h)
    (hq : (s.harq h).status = .pendingRetx → q ⟨.waitingAck, slAck.add cfg.maxAckWaitInSlots,
      (s.harq h).nofRetxs + 1, (s.harq h).maxNofHarqRetxs⟩)
    (hok : s.handleNewRetx cfg h slTx slAck = .ok (t, b)) : t.HarqInvWith cfg q := by
  cases b with
  | true =>
    obtain ⟨hst, hinv, hr, -⟩ := startRetx_spec hI.1 hh hok
    refine ⟨hinv, hI.2.of_onlyMoves hr.moves fun _ => ?_⟩
    rw [hr.proc]
    exact hq hst
  | false =>
    unfold handleNewRetx at hok
    split at hok
    case isTrue =>
      obtain ⟨s1, -, hok⟩ := bind_eq_ok.mp hok
      obtain ⟨s2, -, hok⟩ := bind_eq_ok.mp hok
      cases hok
    case isFalse =>
      cases hok
      exact hI

lemma modifyHarq_keeps {f : HarqProcess Snr → HarqProcess Snr} (hI : s.HarqInvWith cfg q)
    (hids : (f (s.harq h)).ueIdx = (s.harq h).ueIdx ∧ (f (s.harq h)).hId = (s.harq h).hId)
    (hcore : (f (s.harq h)).core = (s.harq h).core) : (s.modifyHarq h f).HarqInvWith cfg q := by
  refine ⟨hI.1.modifyHarq hids (congrArg HarqCore.status hcore) (congrArg HarqCore.slotTimeout hcore),
    hI.2.of_onlyMoves (onlyMoves_modifyHarq f) fun hh => ?_⟩
  rw [harq_modifyHarq_self, hcore]
  exact hI.2 h hh

lemma cancelRetxs_keeps (hempty : ∀ c : HarqCore, c.status = .empty → q c) (hI : s.HarqInvWith cfg q)
    (hh : s.hasHarq h)
    (hq : (s.harq h).status = .waitingAck →
      q ⟨.waitingAck, (s.harq h).slotTimeout, (s.harq h).nofRetxs, (s.harq h).nofRetxs⟩)
    (hok : s.cancelRetxs cfg h = .ok t) : t.HarqInvWith cfg q := by
  unfold cancelRetxs at hok
  cases hst : (s.harq h).status with
  | empty =>
    rw [hst] at hok
    cases hok
    exact hI
  | pendingRetx =>
    rw [hst] at hok
    exact (deallocHarq_keeps hempty hI hh hok).1
  | waitingAck =>
    rw [hst] at hok
    cases hok
    refine ⟨hI.1.modifyHarq ⟨rfl, rfl⟩ rfl rfl, hI.2.of_onlyMoves (onlyMoves_modifyHarq _) fun _ => ?_⟩
    rw [harq_modifyHarq_self]
    unfold HarqProcess.core
    dsimp only
    rw [hst]
    exact hq hst

lemma chooseAck_core [LT Snr] [DecidableLT Snr] (p : HarqProcess Snr) (a : MacHarqAckReportStatus)
    (snr : Option Snr) : (p.chooseAck a snr).core = p.core ∧ (p.chooseAck a snr).ueIdx = p.ueIdx ∧
      (p.chooseAck a snr).hId = p.hId ∧ (p.chooseAck a snr).pucchAckToReceive = p.pucchAckToReceive := by
  unfold HarqProcess.chooseAck
  split <;> exact ⟨rfl, rfl, rfl, rfl⟩

lemma awaitNextAck_keeps {b : Bool} (hI : s.HarqInvWith cfg q) (hh : s.hasHarq h)
    (hst : (s.harq h).status = .waitingAck)
    (hq : q ⟨.waitingAck, s.lastSlInd.add SHORT_ACK_TIMEOUT_DTX, (s.harq h).nofRetxs, (s.harq h).maxNofHarqRetxs⟩)
    (hok : s.awaitNextAck cfg h b = .ok t) : t.HarqInvWith cfg q := by
  unfold awaitNextAck at hok
  dsimp only at hok
  obtain ⟨s1, hpop, hok⟩ := bind_eq_ok.mp hok
  cases hok
  generalize hf : (fun p : HarqProcess Snr =>
    { p with pucchAckToReceive := p.pucchAckToReceive - 1, ackOnTimeout := b }) = f at hpop
  have hfields : (s.modifyHarq h f).HarqInv cfg := hI.1.modifyHarq (by rw [← hf]; exact ⟨rfl, rfl⟩)
    (by rw [← hf]) (by rw [← hf])
  have hst1 : ((s.modifyHarq h f).harq h).status = .waitingAck := by
    rw [harq_modifyHarq_self, ← hf]
    exact hst
  obtain ⟨hinv, hr, hlast, -⟩ := relink_spec hfields ((hasHarq_modifyHarq f).mpr hh) hst1 hpop
    (s1.lastSlInd.add SHORT_ACK_TIMEOUT_DTX)
  refine ⟨hinv, hI.2.of_onlyMoves ((onlyMoves_modifyHarq f).trans hr.moves) fun _ => ?_⟩
  rw [hr.proc, hlast, harq_modifyHarq_self, ← hf]
  unfold HarqProcess.core
  dsimp only
  rw [hst]
  exact hq

lemma dlAckInfo_keeps [LT Snr] [DecidableLT Snr] {a : MacHarqAckReportStatus} {snr : Option Snr}
    {r : StatusUpdate} (hempty : ∀ c : HarqCore, c.status = .empty → q c) (hI : s.HarqInvWith cfg q)
    (hh : s.hasHarq h) (hq : EventKeeps cfg q s (.dlAckInfo h a snr))
    (hok : s.dlAckInfo cfg h a snr = .ok (t, r)) : t.HarqInvWith cfg q := by
  unfold dlAckInfo at hok
  split at hok
  case isFalse =>
    cases hok
    exact hI
  case isTrue hst =>
    dsimp only at hok
    obtain ⟨hcore, hu, hid, hcount⟩ := chooseAck_core (s.harq h) a snr
    have hI1 : (s.modifyHarq h fun p => p.chooseAck a snr).HarqInvWith cfg q :=
      modifyHarq_keeps hI ⟨hu, hid⟩ hcore
    have hst1 : ((s.harq h).chooseAck a snr).status = (s.harq h).status := congrArg HarqCore.status hcore
    have hnof : ((s.harq h).chooseAck a snr).nofRetxs = (s.harq h).nofRetxs := congrArg HarqCore.nofRetxs hcore
    have hmax : ((s.harq h).chooseAck a snr).maxNofHarqRetxs = (s.harq h).maxNofHarqRetxs :=
      congrArg HarqCore.maxNofHarqRetxs hcore
    have hq1 := hq hh hst
    simp only [harq_modifyHarq_self, hcount] at hok
    split at hok
    case isTrue hle =>
      obtain ⟨s1, hack, hok⟩ := bind_eq_ok.mp hok
      cases hok
      rw [if_pos hle] at hq1
      refine handleAck_keeps hempty hI1 ((hasHarq_modifyHarq _).mpr hh) (fun hnack => ?_) hack
      have hkeep := hq1 (by simpa using hnack)
      unfold NackKeeps at hkeep ⊢
      rw [harq_modifyHarq_self, hst1, hnof, hmax]
      exact hkeep
    case isFalse hle =>
      obtain ⟨s1, hawait, hok⟩ := bind_eq_ok.mp hok
      cases hok
      rw [if_neg hle] at hq1
      refine awaitNextAck_keeps hI1 ((hasHarq_modifyHarq _).mpr hh) ?_ ?_ hawait
      · rw [harq_modifyHarq_self, hst1]
        exact hst
      · rw [harq_modifyHarq_self, hnof, hmax]
        exact hq1

lemma ulCrcInfo_keeps {ack r : Bool} (hempty : ∀ c : HarqCore, c.status = .empty → q c)
    (hI : s.HarqInvWith cfg q) (hh : s.hasHarq h) (hq : ack = false → NackKeeps cfg q s h)
    (hok : s.ulCrcInfo cfg h ack = .ok (t, r)) : t.HarqInvWith cfg q := by
  unfold ulCrcInfo at hok
  split at hok
  case isTrue =>
    obtain ⟨s1, hack, hok⟩ := bind_eq_ok.mp hok
    cases hok
    exact handleAck_keeps hempty hI hh hq hack
  case isFalse =>
    cases hok
    exact hI

lemma newDlTx_keeps {m bit delay : Nat} {slot : SlotPoint} {r : Option HarqRef} (hI : s.HarqInvWith cfg q)
    (hq : q ⟨.waitingAck, ((slot.add delay).add cfg.maxAckWaitInSlots).sub cfg.ntnCsKoffset, 0, m⟩)
    (hok : s.newDlTx cfg u slot delay m bit = .ok (t, r)) : t.HarqInvWith cfg q := by
  unfold newDlTx at hok
  obtain ⟨⟨s1, r1⟩, halloc, hok⟩ := bind_eq_ok.mp hok
  have hI1 := allocHarq_keeps hI hq halloc
  cases r1 with
  | none =>
    cases hok
    exact hI1
  | some h =>
    cases hok
    exact modifyHarq_keeps hI1 ⟨rfl, rfl⟩ rfl

lemma newDlRetx_keeps {delay bit : Nat} {slot : SlotPoint} {b : Bool} (hI : s.HarqInvWith cfg q)
    (hh : s.hasHarq h)
    (hq : (s.harq h).status = .pendingRetx → q ⟨.waitingAck, (slot.add delay).add cfg.maxAckWaitInSlots,
      (s.harq h).nofRetxs + 1, (s.harq h).maxNofHarqRetxs⟩)
    (hok : s.newDlRetx cfg h slot delay bit = .ok (t, b)) : t.HarqInvWith cfg q := by
  unfold newDlRetx at hok
  obtain ⟨⟨s1, b1⟩, hretx, hok⟩ := bind_eq_ok.mp hok
  have hI1 := handleNewRetx_keeps hI hh hq hretx
  cases b1 with
  | false =>
    cases hok
    exact hI1
  | true =>
    cases hok
    exact modifyHarq_keeps hI1 ⟨rfl, rfl⟩ rfl

lemma reserveUeHarqs_keeps {rnti n : Nat} (hempty : ∀ c : HarqCore, c.status = .empty → q c)
    (hI : s.HarqInvWith cfg q) (hok : s.reserveUeHarqs cfg u rnti n = .ok t) : t.HarqInvWith cfg q := by
  unfold reserveUeHarqs at hok
  split at hok
  case isTrue => cases hok
  case isFalse hn =>
  split at hok
  case isTrue => cases hok
  case isFalse hu =>
  split at hok
  case isTrue => cases hok
  case isFalse hnof =>
  cases hok
  push Not at hu hnof
  generalize hf : (fun ue : UeHarqEntity Snr =>
    { ue with
      nofHarqs := n, freeHarqIds := List.range n,
      harqs := fun hId =>
        if hId < n then { HarqProcess.init Snr with ueIdx := u, rnti := rnti, hId := hId }
        else HarqProcess.init Snr }) = f
  have hold : ∀ g : HarqRef, g.ueIdx = u → ¬s.hasHarq g := by
    rintro g rfl
    unfold hasHarq
    omega
  have hnew : ∀ g : HarqRef, g.ueIdx = u → g.hId < n →
      (s.modifyUe u f).harq g = { HarqProcess.init Snr with ueIdx := u, rnti := rnti, hId := g.hId } := by
    rintro g rfl hg
    unfold harq
    rw [ues_modifyUe_self, ← hf]
    simp [hg]
  refine ⟨⟨fun g => ?_, ⟨fun v => ?_, hI.1.nodup.wheel, hI.1.nodup.pending⟩, fun v hv => ?_⟩, fun g hg => ?_⟩
  · by_cases hgu : g.ueIdx = u
    · have hhas : (s.modifyUe u f).hasHarq g ↔ g.hId < n := by
        unfold hasHarq
        rw [hgu, ues_modifyUe_self, ← hf]
      have hl := hI.1.linked g
      refine ⟨fun hh => ?_, ?_, fun b => ?_, ?_⟩
      · rw [hnew g hgu (hhas.mp hh)]
        exact ⟨hgu.symm, rfl⟩
      · rw [hgu, ues_modifyUe_self, hhas, ← hf]
        simp only [List.mem_range]
        refine ⟨fun hlt => ⟨hlt, ?_⟩, fun hh => hh.1⟩
        rw [hf, hnew g hgu hlt]
        rfl
      · rw [wheel_modifyUe, hl.wheel b]
        refine ⟨fun hh => absurd hh.1 (hold g hgu), fun hh => absurd ?_ hh.2.1⟩
        rw [hnew g hgu (hhas.mp hh.1)]
        rfl
      · rw [pending_modifyUe, hl.pending]
        refine ⟨fun hh => absurd hh.1 (hold g hgu), fun hh => absurd hh.2 ?_⟩
        rw [hnew g hgu (hhas.mp hh.1)]
        exact HarqState.noConfusion
    · have hues := ues_modifyUe_ne (s := s) f hgu
      have hl := hI.1.linked g
      have hhas : (s.modifyUe u f).hasHarq g ↔ s.hasHarq g := by
        unfold hasHarq
        rw [hues]
      have hharq : (s.modifyUe u f).harq g = s.harq g := by
        unfold harq
        rw [hues]
      refine ⟨?_, ?_, fun b => ?_, ?_⟩
      · rw [hhas, hharq]
        exact hl.ids
      · rw [hhas, hharq, hues]
        exact hl.free
      · rw [hhas, hharq]
        exact hl.wheel b
      · rw [hhas, hharq]
        exact hl.pending
  · by_cases hv : v = u
    · rw [hv, ues_modifyUe_self, ← hf]
      exact List.nodup_range
    · rw [ues_modifyUe_ne f hv]
      exact hI.1.nodup.free v
  · rw [ues_modifyUe_ne f (by omega)]
    exact hI.1.range v hv
  · by_cases hgu : g.ueIdx = u
    · have hlt : g.hId < n := by
        unfold hasHarq at hg
        rw [hgu, ues_modifyUe_self, ← hf] at hg
        exact hg
      rw [hnew g hgu hlt]
      exact hempty _ rfl
    · have hues := ues_modifyUe_ne (s := s) f hgu
      unfold hasHarq at hg
      rw [hues] at hg
      unfold harq
      rw [hues]
      exact hI.2 g hg

structure DeallocedAll (hs : List HarqRef) (s s' : CellHarqRepository Snr) : Prop where
  nof : ∀ u, (s'.ues u).nofHarqs = (s.ues u).nofHarqs
  listed : ∀ h ∈ hs, (s'.harq h).status = .empty
  frame : ∀ h, h ∉ hs → s'.harq h = s.harq h
  lastSlInd : s'.lastSlInd = s.lastSlInd
  trace : s'.trace = s.trace

lemma deallocAll_keeps {hs : List HarqRef} (hempty : ∀ c : HarqCore, c.status = .empty → q c)
    (hI : s.HarqInvWith cfg q) (hhs : ∀ h ∈ hs, s.hasHarq h) (hok : s.deallocAll cfg hs = .ok t) :
    t.HarqInvWith cfg q ∧ DeallocedAll hs s t := by
  induction hs generalizing s with
  | nil =>
    cases hok
    exact ⟨hI, fun _ => rfl, by simp, fun _ _ => rfl, rfl, rfl⟩
  | cons h hs ih =>
    obtain ⟨s1, hd, hok⟩ := bind_eq_ok.mp hok
    obtain ⟨hI1, hd1⟩ := deallocHarq_keeps hempty hI (hhs h (by simp)) hd
    obtain ⟨hI2, hd2⟩ := ih hI1 (fun g hg => (hd1.moves.hasHarq g).mpr (hhs g (by simp [hg]))) hok
    refine ⟨hI2, fun u => (hd2.nof u).trans (hd1.moves.nof u), fun g hg => ?_, fun g hg => ?_,
      hd2.lastSlInd.trans hd1.lastSlInd, hd2.trace.trans hd1.trace⟩
    · by_cases hmem : g ∈ hs
      · exact hd2.listed g hmem
      · obtain rfl : g = h := by simpa [hmem] using hg
        rw [hd2.frame g hmem]
        exact hd1.status
    · rw [List.mem_cons, not_or] at hg
      rw [hd2.frame g hg.2, hd1.moves.harq g hg.1]

lemma deallocAll_progress {hs : List HarqRef} (hI : s.HarqInv cfg) (hhs : ∀ h ∈ hs, s.hasHarq h) :
    ∃ t, s.deallocAll cfg hs = .ok t := by
  induction hs generalizing s with
  | nil => exact ⟨s, rfl⟩
  | cons h hs ih =>
    obtain ⟨s1, hd⟩ := deallocHarq_progress hI (hhs h (by simp))
    obtain ⟨hI1, hd1⟩ := deallocHarq_spec hI (hhs h (by simp)) hd
    obtain ⟨t, ht⟩ := ih hI1 fun g hg => (hd1.moves.hasHarq g).mpr (hhs g (by simp [hg]))
    exact ⟨t, bind_eq_ok.mpr ⟨s1, hd, ht⟩⟩

lemma mem_ueHarqRefs : h ∈ s.ueHarqRefs u ↔ h.ueIdx = u ∧ s.hasHarq h := by
  unfold ueHarqRefs hasHarq
  simp only [List.mem_map, List.mem_range]
  constructor
  · rintro ⟨i, hi, rfl⟩
    exact ⟨rfl, hi⟩
  · rintro ⟨rfl, hh⟩
    exact ⟨h.hId, hh, rfl⟩

lemma destroyUe_keeps (hempty : ∀ c : HarqCore, c.status = .empty → q c) (hI : s.HarqInvWith cfg q)
    (hok : s.destroyUe cfg u = .ok t) : t.HarqInvWith cfg q := by
  unfold destroyUe at hok
  obtain ⟨s1, hd, hok⟩ := bind_eq_ok.mp hok
  cases hok
  obtain ⟨hI1, hd1⟩ := deallocAll_keeps hempty hI (fun h hh => (mem_ueHarqRefs.mp hh).2) hd
  generalize hf : (fun ue : UeHarqEntity Snr =>
    { ue with nofHarqs := 0, harqs := fun _ => HarqProcess.init Snr, freeHarqIds := [] }) = f
  have hall : ∀ g : HarqRef, g.ueIdx = u → s1.hasHarq g → (s1.harq g).status = .empty := by
    intro g hg hh
    refine hd1.listed g (mem_ueHarqRefs.mpr ⟨hg, ?_⟩)
    unfold hasHarq at hh ⊢
    rwa [hd1.nof] at hh
  have hnone : ∀ g : HarqRef, g.ueIdx = u → ¬(s1.modifyUe u f).hasHarq g := by
    rintro g rfl hh
    unfold hasHarq at hh
    rw [ues_modifyUe_self, ← hf] at hh
    exact absurd hh (Nat.not_lt_zero _)
  refine ⟨⟨fun g => ?_, ⟨fun v => ?_, hI1.1.nodup.wheel, hI1.1.nodup.pending⟩, fun v hv => ?_⟩, fun g hg => ?_⟩
  · have hl := hI1.1.linked g
    by_cases hgu : g.ueIdx = u
    · refine ⟨fun hh => absurd hh (hnone g hgu), ?_, fun b => ?_, ?_⟩
      · rw [hgu, ues_modifyUe_self, ← hf]
        exact ⟨fun hmem => absurd hmem List.not_mem_nil, fun hh => absurd hh.1 (hf ▸ hnone g hgu)⟩
      · rw [wheel_modifyUe, hl.wheel b]
        exact ⟨fun hh => absurd (hall g hgu hh.1) hh.2.1, fun hh => absurd hh.1 (hnone g hgu)⟩
      · rw [pending_modifyUe, hl.pending]
        exact ⟨fun hh => absurd ((hall g hgu hh.1).symm.trans hh.2) (by simp),
          fun hh => absurd hh.1 (hnone g hgu)⟩
    · have hues := ues_modifyUe_ne (s := s1) f hgu
      have hhas : (s1.modifyUe u f).hasHarq g ↔ s1.hasHarq g := by
        unfold hasHarq
        rw [hues]
      have hharq : (s1.modifyUe u f).harq g = s1.harq g := by
        unfold harq
        rw [hues]
      refine ⟨?_, ?_, fun b => ?_, ?_⟩
      · rw [hhas, hharq]
        exact hl.ids
      · rw [hhas, hharq, hues]
        exact hl.free
      · rw [hhas, hharq]
        exact hl.wheel b
      · rw [hhas, hharq]
        exact hl.pending
  · by_cases hv : v = u
    · rw [hv, ues_modifyUe_self, ← hf]
      exact List.nodup_nil
    · rw [ues_modifyUe_ne f hv]
      exact hI1.1.nodup.free v
  · by_cases hvu : v = u
    · rw [hvu, ues_modifyUe_self, ← hf]
    · rw [ues_modifyUe_ne f hvu]
      exact hI1.1.range v hv
  · have hgu : g.ueIdx ≠ u := fun hgu => hnone g hgu hg
    have hues := ues_modifyUe_ne (s := s1) f hgu
    unfold hasHarq at hg
    rw [hues] at hg
    unfold harq
    rw [hues]
    exact hI1.2 g hg

lemma withLastSlInd_inv (hI : s.HarqInv cfg) (sl : SlotPoint) :
    HarqInv cfg { s with lastSlInd := sl } :=
  ⟨fun h => ⟨(hI.linked h).ids, (hI.linked h).free, (hI.linked h).wheel, (hI.linked h).pending⟩,
    ⟨hI.nodup.free, hI.nodup.wheel, hI.nodup.pending⟩, hI.range⟩

lemma stop_keeps (hempty : ∀ c : HarqCore, c.status = .empty → q c) (hI : s.HarqInvWith cfg q)
    (hok : s.stop cfg = .ok t) :
    t.HarqInvWith cfg q ∧ t.lastSlInd = .invalid ∧ t.trace = s.trace ∧
      ∀ h, t.hasHarq h → (t.harq h).status = .empty := by
  unfold stop at hok
  obtain ⟨s1, hd, hok⟩ := bind_eq_ok.mp hok
  cases hok
  have hrefs : ∀ g, g ∈ (List.range cfg.maxUes).flatMap s.ueHarqRefs ↔ g.ueIdx < cfg.maxUes ∧ s.hasHarq g := by
    intro g
    simp only [List.mem_flatMap, List.mem_range, mem_ueHarqRefs]
    exact ⟨fun ⟨u, hu, hg, hh⟩ => ⟨hg ▸ hu, hh⟩, fun ⟨hu, hh⟩ => ⟨g.ueIdx, hu, rfl, hh⟩⟩
  obtain ⟨hI1, hd1⟩ := deallocAll_keeps hempty hI (fun g hg => ((hrefs g).mp hg).2) hd
  refine ⟨⟨withLastSlInd_inv hI1.1 _, hI1.2⟩, rfl, hd1.trace, fun g hg => ?_⟩
  have hgs : s.hasHarq g := by
    have hg' : g.hId < (s1.ues g.ueIdx).nofHarqs := hg
    rwa [hd1.nof] at hg'
  have hlt : g.ueIdx < cfg.maxUes := by
    by_contra hge
    have hzero := hI.1.range g.ueIdx (by omega)
    unfold hasHarq at hgs
    omega
  exact hd1.listed g ((hrefs g).mpr ⟨hlt, hgs⟩)

structure Discards (s s' : CellHarqRepository Snr) : Prop where
  nof : ∀ u, (s'.ues u).nofHarqs = (s.ues u).nofHarqs
  harq : ∀ g, s'.harq g = s.harq g ∨ (s'.harq g).status = .empty
  lastSlInd : s'.lastSlInd = s.lastSlInd

lemma Discards.trans (h1 : Discards s s') (h2 : Discards s' t) : Discards s t where
  nof u := (h2.nof u).trans (h1.nof u)
  harq g := by
    rcases h2.harq g with h | h
    · rw [h]
      exact h1.harq g
    · exact Or.inr h
  lastSlInd := h2.lastSlInd.trans h1.lastSlInd

lemma Dealloced.discards (hd : Dealloced h s s') : Discards s s' where
  nof := hd.moves.nof
  harq g := by
    by_cases hg : g = h
    · exact Or.inr (hg ▸ hd.status)
    · exact Or.inl (hd.moves.harq g hg)
  lastSlInd := hd.lastSlInd

variable {sl : SlotPoint}

lemma handleHarqAckTimeout_keeps (hempty : ∀ c : HarqCore, c.status = .empty → q c)
    (hI : s.HarqInvWith cfg q) (hh : s.hasHarq h) (hok : s.handleHarqAckTimeout cfg h sl = .ok t) :
    t.HarqInvWith cfg q ∧ Dealloced h s { t with trace := s.trace } ∧
      t.trace = s.trace ++ [.ackTimeout h (s.harq h).slotTimeout sl (s.harq h).ackOnTimeout] := by
  unfold handleHarqAckTimeout at hok
  split at hok
  case isTrue => cases hok
  case isFalse =>
    obtain ⟨s1, hd, hok⟩ := bind_eq_ok.mp hok
    cases hok
    obtain ⟨hI1, hd1⟩ := deallocHarq_keeps hempty hI hh hd
    refine ⟨⟨record_inv hI1.1 _, hI1.2⟩, ?_, congrArg (· ++ _) hd1.trace⟩
    exact ⟨⟨hd1.moves.nof, hd1.moves.harq, hd1.moves.free, hd1.moves.wheel, hd1.moves.pending⟩,
      hd1.status, hd1.lastSlInd, rfl⟩

lemma handleHarqAckTimeout_progress (sl : SlotPoint) (hI : s.HarqInv cfg) (hh : s.hasHarq h)
    (hst : (s.harq h).status ≠ .empty) : ∃ t, s.handleHarqAckTimeout cfg h sl = .ok t := by
  obtain ⟨s1, hd⟩ := deallocHarq_progress hI hh
  unfold handleHarqAckTimeout
  rw [if_neg hst]
  exact ⟨_, bind_eq_ok.mpr ⟨s1, hd, rfl⟩⟩

lemma timeoutLoop_keeps (hempty : ∀ c : HarqCore, c.status = .empty → q c)
    (hI : s.HarqInvWith cfg q) (hok : timeoutLoop cfg sl fuel s = .ok t) :
    t.HarqInvWith cfg q ∧ Discards s t ∧ t.harqTimeoutWheel (cfg.wheelIdx sl) = [] ∧
      ∀ e ∈ t.trace, e ∈ s.trace ∨ ∃ g b, e = .ackTimeout g (s.harq g).slotTimeout sl b ∧
        g ∈ s.harqTimeoutWheel (cfg.wheelIdx sl) := by
  induction fuel generalizing s with
  | zero =>
    unfold timeoutLoop at hok
    split at hok
    case h_1 hnil =>
      cases hok
      exact ⟨hI, ⟨fun _ => rfl, fun _ => Or.inl rfl, rfl⟩, hnil, fun e he => Or.inl he⟩
    case h_2 => cases hok
    case h_3 => contradiction
  | succ fuel ih =>
    unfold timeoutLoop at hok
    split at hok
    case h_1 hnil =>
      cases hok
      exact ⟨hI, ⟨fun _ => rfl, fun _ => Or.inl rfl, rfl⟩, hnil, fun e he => Or.inl he⟩
    case h_2 => contradiction
    case h_3 h rest fuel' hcons hfuel =>
      cases hfuel
      have hmem : h ∈ s.harqTimeoutWheel (cfg.wheelIdx sl) := by simp [hcons]
      obtain ⟨s1, hone, hok⟩ := bind_eq_ok.mp hok
      obtain ⟨hI1, hd, htrace⟩ := handleHarqAckTimeout_keeps hempty hI (hI.1.hasHarq_of_wheel hmem) hone
      obtain ⟨hI2, hdis, hnil, htr⟩ := ih hI1 hok
      have hd1 : Discards s s1 := ⟨hd.discards.nof, hd.discards.harq, hd.discards.lastSlInd⟩
      refine ⟨hI2, hd1.trans hdis, hnil, fun e he => ?_⟩
      rcases htr e he with hold | ⟨g, b, rfl, hg⟩
      · rw [htrace, List.mem_append, List.mem_singleton] at hold
        rcases hold with hold | rfl
        · exact Or.inl hold
        · exact Or.inr ⟨h, _, rfl, hmem⟩
      · have hne : g ≠ h := by
          rintro rfl
          exact (((hI1.1.linked g).wheel _).mp hg).2.1 hd.status
        refine Or.inr ⟨g, b, ?_, (hd.moves.wheel g hne _).mp hg⟩
        rw [show s1.harq g = s.harq g from hd.moves.harq g hne]

lemma timeoutLoop_progress (hI : s.HarqInv cfg)
    (hfuel : (s.harqTimeoutWheel (cfg.wheelIdx sl)).length ≤ fuel) : ∃ t, timeoutLoop cfg sl fuel s = .ok t := by
  induction fuel generalizing s with
  | zero =>
    have hnil : s.harqTimeoutWheel (cfg.wheelIdx sl) = [] := List.eq_nil_of_length_eq_zero (by omega)
    refine ⟨s, ?_⟩
    unfold timeoutLoop
    rw [hnil]
  | succ fuel ih =>
    unfold timeoutLoop
    cases hcons : s.harqTimeoutWheel (cfg.wheelIdx sl) with
    | nil => exact ⟨s, rfl⟩
    | cons h rest =>
      have hmem : h ∈ s.harqTimeoutWheel (cfg.wheelIdx sl) := by simp [hcons]
      have hl := ((hI.linked h).wheel _).mp hmem
      obtain ⟨s1, hone⟩ := handleHarqAckTimeout_progress sl hI hl.1 hl.2.1
      obtain ⟨hI1, hd, -⟩ := handleHarqAckTimeout_keeps (q := fun _ => True) (fun _ _ => trivial)
        ⟨hI, fun _ _ => trivial⟩ hl.1 hone
      have hsub : s1.harqTimeoutWheel (cfg.wheelIdx sl) ⊆ rest := by
        intro g hg
        have hne : g ≠ h := by
          rintro rfl
          exact (((hI1.1.linked g).wheel _).mp hg).2.1 hd.status
        have := (hd.moves.wheel g hne _).mp hg
        rw [hcons, List.mem_cons] at this
        exact this.resolve_left hne
      have hlen := ((hI1.1.nodup.wheel (cfg.wheelIdx sl)).subperm hsub).length_le
      rw [hcons, List.length_cons] at hfuel
      obtain ⟨t, ht⟩ := ih hI1.1 (by omega)
      exact ⟨t, bind_eq_ok.mpr ⟨s1, hone, ht⟩⟩

lemma trappedRetxLoop_keeps (hempty : ∀ c : HarqCore, c.status = .empty → q c)
    (hI : s.HarqInvWith cfg q) (hok : trappedRetxLoop cfg fuel s = .ok t) :
    t.HarqInvWith cfg q ∧ Discards s t ∧ ∀ e ∈ t.trace, e ∈ s.trace ∨ ∃ g, e = .retxTrapped g := by
  induction fuel generalizing s with
  | zero =>
    unfold trappedRetxLoop at hok
    split at hok
    case h_1 =>
      cases hok
      exact ⟨hI, ⟨fun _ => rfl, fun _ => Or.inl rfl, rfl⟩, fun e he => Or.inl he⟩
    case h_2 => cases hok
    case h_3 => contradiction
  | succ fuel ih =>
    unfold trappedRetxLoop at hok
    split at hok
    case h_1 =>
      cases hok
      exact ⟨hI, ⟨fun _ => rfl, fun _ => Or.inl rfl, rfl⟩, fun e he => Or.inl he⟩
    case h_2 => contradiction
    case h_3 h rest fuel' hcons hfuel =>
      cases hfuel
      split at hok
      case isTrue => cases hok
      case isFalse =>
        dsimp only at hok
        split at hok
        case isTrue =>
          cases hok
          exact ⟨hI, ⟨fun _ => rfl, fun _ => Or.inl rfl, rfl⟩, fun e he => Or.inl he⟩
        case isFalse =>
          obtain ⟨s1, hone, hok⟩ := bind_eq_ok.mp hok
          have hhas : s.hasHarq h := ((hI.1.linked h).pending.mp (by simp [hcons])).1
          obtain ⟨hI1, hd⟩ := deallocHarq_keeps hempty hI hhas hone
          obtain ⟨hI2, hdis, htr⟩ := ih ⟨record_inv hI1.1 (.retxTrapped h), hI1.2⟩ hok
          have hd1 : Discards s (s1.record (.retxTrapped h)) :=
            ⟨hd.discards.nof, hd.discards.harq, hd.discards.lastSlInd⟩
          refine ⟨hI2, hd1.trans hdis, fun e he => ?_⟩
          rcases htr e he with hold | htrapped
          · have hsplit : e ∈ s1.trace ++ [.retxTrapped h] := hold
            rw [hd.trace, List.mem_append, List.mem_singleton] at hsplit
            exact hsplit.imp id fun he => ⟨h, he⟩
          · exact Or.inr htrapped

lemma trappedRetxLoop_progress (hI : s.HarqInv cfg)
    (hfuel : s.harqPendingRetxList.length ≤ fuel) : ∃ t, trappedRetxLoop cfg fuel s = .ok t := by
  induction fuel generalizing s with
  | zero =>
    have hnil : s.harqPendingRetxList = [] := List.eq_nil_of_length_eq_zero (by omega)
    refine ⟨s, ?_⟩
    unfold trappedRetxLoop
    rw [hnil]
  | succ fuel ih =>
    unfold trappedRetxLoop
    cases hcons : s.harqPendingRetxList with
    | nil => exact ⟨s, rfl⟩
    | cons h rest =>
      have hl := (hI.linked h).pending.mp (by simp [hcons])
      dsimp only
      rw [if_neg (not_not.mpr hl.2)]
      split
      · exact ⟨s, rfl⟩
      · obtain ⟨s1, hone⟩ := deallocHarq_progress hI hl.1
        obtain ⟨hI1, hd⟩ := deallocHarq_spec hI hl.1 hone
        have hsub : s1.harqPendingRetxList ⊆ rest := by
          intro g hg
          have hne : g ≠ h := by
            rintro rfl
            exact absurd (hd.status.symm.trans ((hI1.linked g).pending.mp hg).2) (by simp)
          have := (hd.moves.pending g hne).mp hg
          rw [hcons, List.mem_cons] at this
          exact this.resolve_left hne
        have hlen := (hI1.nodup.pending.subperm hsub).length_le
        rw [hcons, List.length_cons] at hfuel
        obtain ⟨t, ht⟩ := ih (record_inv hI1 (.retxTrapped h)) (le_trans hlen (by omega))
        exact ⟨t, bind_eq_ok.mpr ⟨s1, hone, ht⟩⟩

lemma slotIndication_keeps (hempty : ∀ c : HarqCore, c.status = .empty → q c)
    (hI : s.HarqInvWith cfg q) (hok : s.slotIndication cfg sl = .ok t) :
    t.HarqInvWith cfg q ∧ Discards { s with lastSlInd := sl } t ∧ t.harqTimeoutWheel (cfg.wheelIdx sl) = [] ∧
      ∀ e ∈ t.trace, e ∈ s.trace ∨ (∃ g, e = .retxTrapped g) ∨
        ∃ g b, e = .ackTimeout g (s.harq g).slotTimeout sl b ∧ g ∈ s.harqTimeoutWheel (cfg.wheelIdx sl) := by
  unfold slotIndication at hok
  obtain ⟨s1, hto, hok⟩ := bind_eq_ok.mp hok
  have hI0 : HarqInvWith cfg q { s with lastSlInd := sl } := ⟨withLastSlInd_inv hI.1 sl, hI.2⟩
  obtain ⟨hI1, hd1, hnil, htr1⟩ := timeoutLoop_keeps hempty hI0 hto
  obtain ⟨hI2, hd2, htr2⟩ := trappedRetxLoop_keeps hempty hI1 hok
  refine ⟨hI2, hd1.trans hd2, List.eq_nil_iff_forall_not_mem.mpr fun g hg => ?_, fun e he => ?_⟩
  · have hl := ((hI2.1.linked g).wheel _).mp hg
    have hsame : t.harq g = s1.harq g := (hd2.harq g).resolve_right hl.2.1
    have hg1 : g ∈ s1.harqTimeoutWheel (cfg.wheelIdx sl) := by
      refine ((hI1.1.linked g).wheel _).mpr ⟨?_, hsame ▸ hl.2.1, hsame ▸ hl.2.2⟩
      have hlt := hl.1
      unfold hasHarq at hlt ⊢
      rwa [hd2.nof] at hlt
    rw [hnil] at hg1
    exact absurd hg1 List.not_mem_nil
  · rcases htr2 e he with hold | htrapped
    · rcases htr1 e hold with hold | hto
      · exact Or.inl hold
      · exact Or.inr (Or.inr hto)
    · exact Or.inr (Or.inl htrapped)

end Calls

section Progress

lemma init_inv : (init Snr).HarqInv cfg where
  linked h := by
    have hnone : ¬(init Snr).hasHarq h := Nat.not_lt_zero _
    exact ⟨fun hh => absurd hh hnone, ⟨fun hm => absurd hm List.not_mem_nil, fun hh => absurd hh.1 hnone⟩,
      fun b => ⟨fun hm => absurd hm List.not_mem_nil, fun hh => absurd hh.1 hnone⟩,
      ⟨fun hm => absurd hm List.not_mem_nil, fun hh => absurd hh.1 hnone⟩⟩
  nodup := ⟨fun _ => List.nodup_nil, fun _ => List.nodup_nil, List.nodup_nil⟩
  range _ _ := rfl

/-- A call aborts only because of its arguments, never because a container has lost a process. -/
def FromArguments (a : HarqAbort) : Prop := a ≠ .notLinked ∧ a ≠ .loopNotFinished

def Total {β : Type} (x : Except HarqAbort β) : Prop := ∀ a, x = .error a → FromArguments a

lemma withHarq_total {β : Type} {op : Except HarqAbort β} (hop : s.hasHarq h → Total op) :
    Total (s.withHarq h op) := by
  intro a ha
  unfold withHarq at ha
  split at ha
  case isTrue hh => exact hop hh a ha
  case isFalse =>
    cases ha
    exact ⟨by simp, by simp⟩

lemma total_of_ok {β : Type} {x : Except HarqAbort β} (hx : ∃ b, x = .ok b) : Total x := by
  rintro a ha
  obtain ⟨b, hb⟩ := hx
  cases hb.symm.trans ha

lemma total_bind {β γ : Type} {x : Except HarqAbort β} {f : β → Except HarqAbort γ} (hx : Total x)
    (hf : ∀ b, x = .ok b → Total (f b)) : Total (x >>= f) := by
  intro a ha
  cases hxb : x with
  | error a' =>
    rw [hxb] at ha
    cases ha
    exact hx _ hxb
  | ok b =>
    rw [hxb] at ha
    exact hf b hxb a ha

lemma total_map {β γ : Type} {x : Except HarqAbort β} {f : β → γ} (hx : Total x) : Total (x.map f) := by
  intro a ha
  cases hxb : x with
  | error a' =>
    rw [hxb] at ha
    cases ha
    exact hx _ hxb
  | ok b =>
    rw [hxb] at ha
    cases ha

lemma popTimeout_total (hI : s.HarqInv cfg) (hh : s.hasHarq h) (hst : (s.harq h).status ≠ .empty) :
    Total (s.popTimeout cfg h) :=
  total_of_ok (popTimeout_progress (hI.in_wheel hh hst))

lemma setPendingRetx_total (hI : s.HarqInv cfg) (hh : s.hasHarq h) : Total (s.setPendingRetx cfg h) := by
  unfold setPendingRetx
  cases hst : (s.harq h).status with
  | empty =>
    intro a ha
    cases ha
    exact ⟨by simp, by simp⟩
  | pendingRetx => exact total_of_ok ⟨s, rfl⟩
  | waitingAck => exact total_bind (popTimeout_total hI hh (by simp [hst])) fun _ _ => total_of_ok ⟨_, rfl⟩

lemma handleAck_total {ack : Bool} (hI : s.HarqInv cfg) (hh : s.hasHarq h) : Total (s.handleAck cfg h ack) := by
  unfold handleAck
  split
  · exact total_of_ok (deallocHarq_progress hI hh)
  · exact setPendingRetx_total hI hh

lemma handleNewRetx_total {slTx slAck : SlotPoint} (hI : s.HarqInv cfg) (hh : s.hasHarq h) :
    Total (s.handleNewRetx cfg h slTx slAck) := by
  unfold handleNewRetx
  split
  case isTrue hst =>
    refine total_bind (total_of_ok (popPendingRetx_progress ((hI.linked h).pending.mpr ⟨hh, hst⟩))) ?_
    intro s1 hpop
    have h1 := popPendingRetx_spec hI.nodup.pending hpop
    refine total_bind (total_of_ok (popTimeout_progress ?_)) fun _ _ => total_of_ok ⟨_, rfl⟩
    rw [h1.wheel, harq_congr h1.ues]
    exact hI.in_wheel hh (by simp [hst])
  case isFalse => exact total_of_ok ⟨_, rfl⟩

lemma allocHarq_total {u m : Nat} {slTx slAck : SlotPoint} (hI : s.HarqInv cfg) :
    Total (s.allocHarq cfg u slTx slAck m) := by
  unfold allocHarq
  split
  case h_1 => exact total_of_ok ⟨_, rfl⟩
  case h_2 hId rest hfree =>
    have hl := hI.linked ⟨u, hId⟩
    have hids := hl.ids (hl.free.mp (by simp [hfree])).1
    dsimp only
    rw [if_pos hids]
    exact total_of_ok ⟨_, rfl⟩

lemma awaitNextAck_total {b : Bool} (hI : s.HarqInv cfg) (hh : s.hasHarq h)
    (hst : (s.harq h).status = .waitingAck) : Total (s.awaitNextAck cfg h b) := by
  unfold awaitNextAck
  dsimp only
  refine total_bind (popTimeout_total (hI.modifyHarq ⟨rfl, rfl⟩ rfl rfl) ((hasHarq_modifyHarq _).mpr hh) ?_)
    fun _ _ => total_of_ok ⟨_, rfl⟩
  rw [harq_modifyHarq_self]
  simp [hst]

lemma slotIndication_total {sl : SlotPoint} (hI : s.HarqInv cfg) : Total (s.slotIndication cfg sl) := by
  have hI0 : HarqInv cfg { s with lastSlInd := sl } := withLastSlInd_inv hI sl
  refine total_bind (total_of_ok (timeoutLoop_progress hI0 le_rfl)) fun s1 hto => ?_
  obtain ⟨hI1, -⟩ := timeoutLoop_keeps (q := fun _ => True) (fun _ _ => trivial) ⟨hI0, fun _ _ => trivial⟩ hto
  exact total_of_ok (trappedRetxLoop_progress hI1.1 le_rfl)

end Progress

section Runs

lemma withHarq_ok {β : Type} {op : Except HarqAbort β} {r : β} (hok : s.withHarq h op = .ok r) :
    s.hasHarq h ∧ op = .ok r := by
  unfold withHarq at hok
  split at hok
  case isTrue hh => exact ⟨hh, hok⟩
  case isFalse => cases hok

lemma map_fst_ok {β γ : Type} {x : Except HarqAbort (β × γ)} {b : β} (hok : x.map Prod.fst = .ok b) :
    ∃ c, x = .ok (b, c) := by
  cases x with
  | error a => cases hok
  | ok p =>
    cases hok
    exact ⟨p.2, rfl⟩

variable [LT Snr] [DecidableLT Snr]

/-- Every event keeps the container invariant, and each process property that it pays for. -/
theorem step_keeps {e : HarqEvent Snr} (hempty : ∀ c : HarqCore, c.status = .empty → q c)
    (hI : s.HarqInvWith cfg q) (hq : EventKeeps cfg q s e) (hok : step cfg s e = .ok t) :
    t.HarqInvWith cfg q := by
  cases e with
  | reserveUeHarqs u rnti n => exact reserveUeHarqs_keeps hempty hI hok
  | allocHarq u slTx slAck m =>
    obtain ⟨r, hok⟩ := map_fst_ok hok
    exact allocHarq_keeps hI hq hok
  | newDlTx u slot delay m bit =>
    obtain ⟨r, hok⟩ := map_fst_ok hok
    exact newDlTx_keeps hI hq hok
  | handleAck h ack =>
    obtain ⟨hh, hok⟩ := withHarq_ok hok
    exact handleAck_keeps hempty hI hh (hq hh) hok
  | setPendingRetx h =>
    obtain ⟨hh, hok⟩ := withHarq_ok hok
    exact setPendingRetx_keeps hI hh (hq hh) hok
  | handleNewRetx h slTx slAck =>
    obtain ⟨hh, hok⟩ := withHarq_ok hok
    obtain ⟨r, hok⟩ := map_fst_ok hok
    exact handleNewRetx_keeps hI hh (hq hh) hok
  | newDlRetx h slot delay bit =>
    obtain ⟨hh, hok⟩ := withHarq_ok hok
    obtain ⟨r, hok⟩ := map_fst_ok hok
    exact newDlRetx_keeps hI hh (hq hh) hok
  | cancelRetxs h =>
    obtain ⟨hh, hok⟩ := withHarq_ok hok
    exact cancelRetxs_keeps hempty hI hh (hq hh) hok
  | deallocHarq h =>
    obtain ⟨hh, hok⟩ := withHarq_ok hok
    exact (deallocHarq_keeps hempty hI hh hok).1
  | incrementPucchCounter h =>
    obtain ⟨hh, hok⟩ := withHarq_ok hok
    cases hok
    exact modifyHarq_keeps hI ⟨rfl, rfl⟩ rfl
  | dlAckInfo h a snr =>
    obtain ⟨hh, hok⟩ := withHarq_ok hok
    obtain ⟨r, hok⟩ := map_fst_ok hok
    exact dlAckInfo_keeps hempty hI hh hq hok
  | ulCrcInfo h ack =>
    obtain ⟨hh, hok⟩ := withHarq_ok hok
    obtain ⟨r, hok⟩ := map_fst_ok hok
    exact ulCrcInfo_keeps hempty hI hh (hq hh) hok
  | slotIndication sl => exact (slotIndication_keeps hempty hI hok).1
  | destroyUe u => exact destroyUe_keeps hempty hI hok
  | stop => exact (stop_keeps hempty hI hok).1

/-- No event ever unlinks a process from a container that does not hold it, and no loop runs out of fuel. -/
theorem step_total {e : HarqEvent Snr} (hI : s.HarqInv cfg) : Total (step cfg s e) := by
  cases e with
  | reserveUeHarqs u rnti n =>
    change Total (s.reserveUeHarqs cfg u rnti n)
    intro a ha
    unfold reserveUeHarqs at ha
    split at ha
    · cases ha
      exact ⟨by simp, by simp⟩
    · split at ha
      · cases ha
        exact ⟨by simp, by simp⟩
      · split at ha
        · cases ha
          exact ⟨by simp, by simp⟩
        · cases ha
  | allocHarq u slTx slAck m => exact total_map (allocHarq_total hI)
  | newDlTx u slot delay m bit =>
    refine total_map (total_bind (allocHarq_total hI) ?_)
    rintro ⟨s1, r⟩ -
    cases r <;> exact total_of_ok ⟨_, rfl⟩
  | handleAck h ack => exact withHarq_total fun hh => handleAck_total hI hh
  | setPendingRetx h => exact withHarq_total fun hh => setPendingRetx_total hI hh
  | handleNewRetx h slTx slAck => exact withHarq_total fun hh => total_map (handleNewRetx_total hI hh)
  | newDlRetx h slot delay bit =>
    refine withHarq_total fun hh => total_map (total_bind (handleNewRetx_total hI hh) ?_)
    rintro ⟨s1, r⟩ -
    cases r <;> exact total_of_ok ⟨_, rfl⟩
  | cancelRetxs h =>
    refine withHarq_total fun hh => ?_
    unfold cancelRetxs
    cases (s.harq h).status with
    | empty => exact total_of_ok ⟨_, rfl⟩
    | pendingRetx => exact total_of_ok (deallocHarq_progress hI hh)
    | waitingAck => exact total_of_ok ⟨_, rfl⟩
  | deallocHarq h => exact withHarq_total fun hh => total_of_ok (deallocHarq_progress hI hh)
  | incrementPucchCounter h => exact withHarq_total fun _ => total_of_ok ⟨_, rfl⟩
  | dlAckInfo h a snr =>
    refine withHarq_total fun hh => total_map ?_
    unfold dlAckInfo
    split
    case isTrue hst =>
      obtain ⟨hcore, hu, hid, -⟩ := chooseAck_core (s.harq h) a snr
      have hI1 : (s.modifyHarq h fun p => p.chooseAck a snr).HarqInv cfg := hI.modifyHarq ⟨hu, hid⟩
        (congrArg HarqCore.status hcore) (congrArg HarqCore.slotTimeout hcore)
      have hh1 : (s.modifyHarq h fun p => p.chooseAck a snr).hasHarq h := (hasHarq_modifyHarq _).mpr hh
      dsimp only
      split
      · exact total_bind (handleAck_total hI1 hh1) fun _ _ => total_of_ok ⟨_, rfl⟩
      · refine total_bind (awaitNextAck_total hI1 hh1 ?_) fun _ _ => total_of_ok ⟨_, rfl⟩
        rw [harq_modifyHarq_self]
        exact (congrArg HarqCore.status hcore).trans hst
    case isFalse => exact total_of_ok ⟨_, rfl⟩
  | ulCrcInfo h ack =>
    refine withHarq_total fun hh => total_map ?_
    unfold ulCrcInfo
    split
    · exact total_bind (handleAck_total hI hh) fun _ _ => total_of_ok ⟨_, rfl⟩
    · exact total_of_ok ⟨_, rfl⟩
  | slotIndication sl => exact slotIndication_total hI
  | destroyUe u =>
    exact total_bind (total_of_ok (deallocAll_progress hI fun h hh => (mem_ueHarqRefs.mp hh).2))
      fun _ _ => total_of_ok ⟨_, rfl⟩
  | stop =>
    refine total_bind (total_of_ok (deallocAll_progress hI fun h hh => ?_)) fun _ _ => total_of_ok ⟨_, rfl⟩
    obtain ⟨u, -, hu⟩ := List.mem_flatMap.mp hh
    exact (mem_ueHarqRefs.mp hu).2

/-- `handle_ack`, the only caller of `set_pending_retx`, calls it while retransmissions are left. -/
def SetPendingRetxGuard (s : CellHarqRepository Snr) : HarqEvent Snr → Prop
  | .setPendingRetx h => (s.harq h).nofRetxs < (s.harq h).maxNofHarqRetxs
  | _ => True

def RetxsBounded (c : HarqCore) : Prop :=
  c.status ≠ .empty → c.nofRetxs ≤ c.maxNofHarqRetxs ∧
    (c.status = .pendingRetx → c.nofRetxs < c.maxNofHarqRetxs)

omit [LT Snr] [DecidableLT Snr] in
lemma nackKeeps_bounded : NackKeeps cfg RetxsBounded s h :=
  fun _ hlt _ => ⟨hlt.le, fun _ => hlt⟩

lemma eventKeeps_bounded {e : HarqEvent Snr} (hq : s.AllHarqs RetxsBounded) (hg : SetPendingRetxGuard s e) :
    EventKeeps cfg RetxsBounded s e := by
  have hwaiting : ∀ {sl : SlotPoint} {n m : Nat}, n ≤ m → RetxsBounded ⟨.waitingAck, sl, n, m⟩ :=
    fun hle _ => ⟨hle, fun hst => by cases hst⟩
  cases e with
  | allocHarq | newDlTx => exact hwaiting (Nat.zero_le _)
  | handleAck h ack => exact fun _ _ => nackKeeps_bounded
  | setPendingRetx h => exact fun _ _ _ => ⟨le_of_lt hg, fun _ => hg⟩
  | handleNewRetx h slTx slAck =>
    intro hh hst
    have hb := hq h hh (by rw [show (s.harq h).core.status = _ from hst]; simp)
    exact hwaiting (hb.2 hst)
  | newDlRetx h slot delay bit =>
    intro hh hst
    have hb := hq h hh (by rw [show (s.harq h).core.status = _ from hst]; simp)
    exact hwaiting (hb.2 hst)
  | cancelRetxs h => exact fun _ _ => hwaiting le_rfl
  | dlAckInfo h a snr =>
    intro hh hst
    have hb := hq h hh (by rw [show (s.harq h).core.status = _ from hst]; simp)
    split
    · exact fun _ => nackKeeps_bounded
    · exact hwaiting hb.1
  | ulCrcInfo h ack => exact fun _ _ => nackKeeps_bounded
  | reserveUeHarqs | deallocHarq | incrementPucchCounter | slotIndication | destroyUe | stop => trivial

/-- The containers of the repository agree with the status of every process: the free list of each UE (a), the
timeout wheel (b) and the list of pending retransmissions (c). -/
structure ContainersConsistent (cfg : HarqConfig) (s : CellHarqRepository Snr) : Prop where
  free : ∀ u, (s.ues u).freeHarqIds.Nodup ∧
    ∀ i, i ∈ (s.ues u).freeHarqIds ↔ s.hasHarq ⟨u, i⟩ ∧ (s.harq ⟨u, i⟩).status = .empty
  wheel : ∀ b, (s.harqTimeoutWheel b).Nodup ∧ ∀ h, h ∈ s.harqTimeoutWheel b ↔
    s.hasHarq h ∧ (s.harq h).status ≠ .empty ∧ b = (s.harq h).slotTimeout.count % cfg.wheelSize
  pending : s.harqPendingRetxList.Nodup ∧
    ∀ h, h ∈ s.harqPendingRetxList ↔ s.hasHarq h ∧ (s.harq h).status = .pendingRetx

omit [LT Snr] [DecidableLT Snr] in
lemma HarqInv.consistent (hI : s.HarqInv cfg) : s.ContainersConsistent cfg where
  free u := ⟨hI.nodup.free u, fun i => (hI.linked ⟨u, i⟩).free⟩
  wheel b := ⟨hI.nodup.wheel b, fun h => (hI.linked h).wheel b⟩
  pending := ⟨hI.nodup.pending, fun h => (hI.linked h).pending⟩

lemma run_inv {es : List (HarqEvent Snr)} (hrun : runEvents (step cfg) (init Snr) es = .ok s) :
    s.HarqInv cfg := by
  have hI0 : (init Snr).HarqInvWith cfg (fun _ => True) := ⟨init_inv, fun _ _ => trivial⟩
  have hI := runEvents_invariant (HarqInvWith cfg fun _ => True) (fun s e s' hI hok => ?_) hI0 hrun
  · exact hI.1
  · refine step_keeps (fun _ _ => trivial) hI ?_ hok
    cases e with
    | dlAckInfo h a snr =>
      intro _ _
      split
      · exact fun _ _ _ => trivial
      · trivial
    | handleAck | ulCrcInfo => exact fun _ _ _ _ => trivial
    | handleNewRetx | newDlRetx | setPendingRetx | cancelRetxs => exact fun _ _ => trivial
    | _ => trivial

/-- After any sequence of calls over any UEs the containers are consistent, no call has tried to unlink a
process from a container that does not hold it, and the retransmissions stay within their maximum. -/
theorem harq_repository_consistent (cfg : HarqConfig) (es : List (HarqEvent Snr)) :
    (∀ s, runEvents (step cfg) (init Snr) es = .ok s → s.ContainersConsistent cfg ∧
      (RunsWithin (step cfg) SetPendingRetxGuard (init Snr) es → ∀ h, s.hasHarq h →
        (s.harq h).status ≠ .empty → (s.harq h).nofRetxs ≤ (s.harq h).maxNofHarqRetxs)) ∧
    (∀ a, runEvents (step cfg) (init Snr) es = .error a → a ≠ .notLinked ∧ a ≠ .loopNotFinished) := by
  refine ⟨fun s hrun => ⟨(run_inv hrun).consistent, fun hguard => ?_⟩, fun a hrun => ?_⟩
  · have hI0 : (init Snr).HarqInvWith cfg RetxsBounded := ⟨init_inv, fun h hh => absurd hh (Nat.not_lt_zero _)⟩
    have hI := runsWithin_invariant (HarqInvWith cfg RetxsBounded) (fun s e s' hI hg hok =>
      step_keeps (fun c hc hne => absurd hc hne) hI (eventKeeps_bounded hI.2 hg) hok) hI0 hguard hrun
    intro h hh hne
    exact (hI.2 h hh hne).1
  · obtain ⟨pre, e, post, t, -, hpre, herr⟩ := runEvents_error hrun
    exact step_total (run_inv hpre) a herr

end Runs

end CellHarqRepository

end OwlsRan.Sched
