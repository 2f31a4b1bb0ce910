import OwlsRan.Lib.Outcome
import OwlsRan.Sched.HarqOutcomes

/-!
# Combining the HARQ-ACK reports of a DL transmission

Several PUCCHs may carry the HARQ-ACK of one transmission.
-/

namespace OwlsRan.Sched
open OwlsRan.Lib OwlsRan.Ran

abbrev AckReport (Snr : Type) := MacHarqAckReportStatus × Option Snr

section Selection

variable {Snr : Type} [LT Snr] [DecidableLT Snr]

/-- A report without an SNR is not stronger than another one, nor is another one stronger than it. -/
def strongerSnr (last snr : Option Snr) : Bool :=
  match last, snr with
  | some l, some n => decide (l < n)
  | _, _ => false

def selectNext (sel : Option (AckReport Snr)) (r : AckReport Snr) : Option (AckReport Snr) :=
  if r.1 = .dtx then sel
  else match sel with
    | none => some r
    | some last => if strongerSnr last.2 r.2 then some r else some last

def selectReport (reports : List (AckReport Snr)) : Option (AckReport Snr) := reports.foldl selectNext none

def selectedAck (reports : List (AckReport Snr)) : Bool := (selectReport reports).any fun r => r.1 = .ack

@[simp] lemma selectReport_append (reports : List (AckReport Snr)) (r : AckReport Snr) :
    selectReport (reports ++ [r]) = selectNext (selectReport reports) r := by
  simp [selectReport]

lemma selectReport_decoded (reports : List (AckReport Snr)) :
    ∀ r, selectReport reports = some r → r.1 ≠ .dtx := by
  induction reports using List.reverseRecOn with
  | nil => simp [selectReport]
  | append_singleton reports r ih =>
    intro r' hr'
    rw [selectReport_append] at hr'
    unfold selectNext at hr'
    split at hr'
    case isTrue => exact ih r' hr'
    case isFalse hdecoded =>
      cases hsel : selectReport reports with
      | none =>
        rw [hsel] at hr'
        obtain rfl := Option.some.inj hr'
        exact hdecoded
      | some last =>
        simp only [hsel] at hr'
        split at hr'
        · obtain rfl := Option.some.inj hr'
          exact hdecoded
        · obtain rfl := Option.some.inj hr'
          exact ih _ hsel

structure HarqProcess.Chose (p : HarqProcess Snr) (reports : List (AckReport Snr)) : Prop where
  ack : p.chosenAck = ((selectReport reports).map Prod.fst).getD .dtx
  snr : p.lastPucchSnr = (selectReport reports).bind Prod.snd

lemma HarqProcess.Chose.decide_ack {p : HarqProcess Snr} {reports : List (AckReport Snr)} (hp : p.Chose reports) :
    decide (p.chosenAck = .ack) = selectedAck reports := by
  rw [hp.ack]
  unfold selectedAck
  cases selectReport reports with
  | none => rfl
  | some r => simp

lemma HarqProcess.Chose.next {p : HarqProcess Snr} {reports : List (AckReport Snr)} {a : MacHarqAckReportStatus}
    (snr : Option Snr) (hp : p.Chose reports) (hsnr : a ≠ .dtx → p.chosenAck = .dtx ∨ p.lastPucchSnr.isSome) :
    (p.chooseAck a snr).Chose (reports ++ [(a, snr)]) := by
  unfold HarqProcess.chooseAck
  by_cases ha : a = .dtx
  · rw [if_neg fun h => h.1 ha]
    constructor
    · simpa [selectNext, ha] using hp.ack
    · simpa [selectNext, ha] using hp.snr
  · have hknown := hsnr ha
    rw [hp.ack, hp.snr] at hknown
    cases hsel : selectReport reports with
    | none =>
      have hlast : p.lastPucchSnr = none := by rw [hp.snr, hsel]; rfl
      rw [if_pos ⟨ha, by rw [hlast]; rfl⟩]
      constructor
      · simp [selectNext, ha, hsel]
      · simp [selectNext, ha, hsel]
    | some last =>
      have hdecoded := selectReport_decoded reports last hsel
      simp only [hsel, Option.map_some, Option.getD_some, Option.bind_some, hdecoded, false_or] at hknown
      have hhigher : higherPucchSnr p.lastPucchSnr snr = strongerSnr last.2 snr := by
        rw [hp.snr, hsel, Option.bind_some]
        obtain ⟨l, hl⟩ := Option.isSome_iff_exists.mp hknown
        rw [hl]
        cases snr <;> rfl
      rw [hhigher]
      by_cases hstronger : strongerSnr last.2 snr = true
      · rw [if_pos ⟨ha, hstronger⟩]
        constructor
        · simp [selectNext, ha, hsel, hstronger]
        · simp [selectNext, ha, hsel, hstronger]
      · rw [if_neg fun h => hstronger h.2]
        constructor
        · simpa [selectNext, ha, hsel, hstronger] using hp.ack
        · simpa [selectNext, ha, hsel, hstronger] using hp.snr

end Selection

/-- What a transmission comes to: its reports are combined, or the process is deleted by a slot indication. -/
inductive AckOutcome where
  | combined (ack : Bool) (after : HarqState)
  | timedOut (before : HarqState) (ack : Bool)
deriving DecidableEq

def AckOutcome.ack : AckOutcome → Bool
  | .combined ack _ => ack
  | .timedOut _ ack => ack

/-- The outcome is the one that ends the wait, not the loss of a retransmission that was never scheduled. -/
def AckOutcome.endsWait : AckOutcome → Bool
  | .combined _ _ => true
  | .timedOut before _ => decide (before = .waitingAck)

inductive AckCall (Snr : Type) where
  | report (h : HarqRef) (ackStatus : MacHarqAckReportStatus) (pucchSnr : Option Snr)
  | slot (slTx : SlotPoint)

structure AckWatch (Snr : Type) where
  repo : CellHarqRepository Snr
  reports : List (AckReport Snr)
  outcomes : List AckOutcome

def StatusUpdate.outcome (r : StatusUpdate) (after : HarqState) : List AckOutcome :=
  match r with
  | .acked => [.combined true after]
  | .nacked => [.combined false after]
  | .noUpdate => []
  | .error => []

namespace AckWatch

variable {Snr : Type}

def start (s : CellHarqRepository Snr) : AckWatch Snr := ⟨s, [], []⟩

def noteReport (w : AckWatch Snr) (h g : HarqRef) (r : AckReport Snr) (s : CellHarqRepository Snr)
    (answer : StatusUpdate) : AckWatch Snr :=
  if g = h ∧ answer ≠ .error then
    ⟨s, w.reports ++ [r], w.outcomes ++ answer.outcome (s.harq h).status⟩
  else { w with repo := s }

def noteSlot (w : AckWatch Snr) (h : HarqRef) (s : CellHarqRepository Snr) : AckWatch Snr :=
  { w with
    repo := s
    outcomes := w.outcomes ++ (s.deletionsOf h w.repo.trace.length).map fun e =>
      .timedOut (w.repo.harq h).status e.answer }

def step [LT Snr] [DecidableLT Snr] (cfg : HarqConfig) (h : HarqRef) (w : AckWatch Snr) :
    AckCall Snr → Except HarqAbort (AckWatch Snr)
  | .report g a snr =>
    (w.repo.withHarq g (w.repo.dlAckInfo cfg g a snr)).map fun p => w.noteReport h g (a, snr) p.1 p.2
  | .slot sl => (w.repo.slotIndication cfg sl).map (w.noteSlot h)

end AckWatch

namespace CellHarqRepository

variable {Snr : Type} {cfg : HarqConfig} {s t : CellHarqRepository Snr} {h : HarqRef} {n : Nat}

/-- A transmission whose first HARQ-ACK report of `n` is still to come. -/
structure AwaitsReports (h : HarqRef) (n : Nat) (s : CellHarqRepository Snr) : Prop where
  has : s.hasHarq h
  status : (s.harq h).status = .waitingAck
  count : (s.harq h).pucchAckToReceive = n
  chosenAck : (s.harq h).chosenAck = .dtx
  lastPucchSnr : (s.harq h).lastPucchSnr = none
  ackOnTimeout : (s.harq h).ackOnTimeout = false

end CellHarqRepository

namespace AckWatch

open CellHarqRepository

variable {Snr : Type} {cfg : HarqConfig} {h : HarqRef} {n : Nat}

/-- Where the transmission stands after the reports and with the outcomes so far. -/
inductive Phase [LT Snr] [DecidableLT Snr] (n nofRetxs maxNofHarqRetxs : Nat) :
    HarqProcess Snr → List (AckReport Snr) → List AckOutcome → Prop
  | waiting {p reports} (hst : p.status = .waitingAck) (hcount : reports.length + p.pucchAckToReceive = n)
      (hleft : 1 ≤ p.pucchAckToReceive) (hchose : p.Chose reports) (hflag : p.ackOnTimeout = selectedAck reports)
      (hnof : p.nofRetxs = nofRetxs) (hmax : p.maxNofHarqRetxs = maxNofHarqRetxs) :
      Phase n nofRetxs maxNofHarqRetxs p reports []
  | released {p reports} (hst : p.status = .empty) (hall : reports.length = n)
      (hend : selectedAck reports = true ∨ maxNofHarqRetxs ≤ nofRetxs) :
      Phase n nofRetxs maxNofHarqRetxs p reports [.combined (selectedAck reports) .empty]
  | nacked {p reports} (hst : p.status = .pendingRetx) (hall : reports.length = n)
      (hnack : selectedAck reports = false) (hretx : nofRetxs < maxNofHarqRetxs) :
      Phase n nofRetxs maxNofHarqRetxs p reports [.combined false .pendingRetx]
  | starved {p reports} (hst : p.status = .empty) (hall : reports.length = n)
      (hnack : selectedAck reports = false) (hretx : nofRetxs < maxNofHarqRetxs) :
      Phase n nofRetxs maxNofHarqRetxs p reports [.combined false .pendingRetx, .timedOut .pendingRetx false]
  | timedOut {p reports} (hst : p.status = .empty) (hfew : reports.length < n) :
      Phase n nofRetxs maxNofHarqRetxs p reports [.timedOut .waitingAck (selectedAck reports)]

/-- A decoded report finds either none before it or a chosen one whose SNR is known; and no process is discarded
as starved with the flag of an ACK still set. -/
def CombinationSafe (cfg : HarqConfig) (h : HarqRef) (w : AckWatch Snr) : AckCall Snr → Prop
  | .report g ackStatus _ => g = h → (w.repo.harq h).status = .waitingAck → ackStatus ≠ .dtx →
    (w.repo.harq h).chosenAck = .dtx ∨ (w.repo.harq h).lastPucchSnr.isSome
  | .slot sl => ¬((w.repo.harq h).status = .pendingRetx ∧ (w.repo.harq h).ackOnTimeout = true ∧
    h ∈ w.repo.harqTimeoutWheel (cfg.wheelIdx sl))

instance (cfg : HarqConfig) (h : HarqRef) (w : AckWatch Snr) (c : AckCall Snr) : Decidable (CombinationSafe cfg h w c) :=
  match c with
  | .report .. => inferInstanceAs (Decidable (_ → _ → _ → _))
  | .slot _ => inferInstanceAs (Decidable (¬_))

variable [LT Snr] [DecidableLT Snr]

/-- What the combination of the reports is to be, for a transmission that began as `p0` with `n` reports to come. -/
structure Combines (cfg : HarqConfig) (h : HarqRef) (n : Nat) (p0 : HarqProcess Snr) (w : AckWatch Snr) : Prop where
  selected : ∀ o ∈ w.outcomes, o.ack = selectedAck w.reports
  once : w.outcomes.countP AckOutcome.endsWait = if (w.repo.harq h).status = .waitingAck then 0 else 1
  left : ∀ ack after, AckOutcome.combined ack after ∈ w.outcomes →
    after = if ack ∨ p0.maxNofHarqRetxs ≤ p0.nofRetxs then .empty else .pendingRetx
  complete : w.reports.length ≤ n ∧ (w.reports.length = n ↔ ∃ ack after, AckOutcome.combined ack after ∈ w.outcomes)
  deadline : (w.repo.harq h).status = .waitingAck → ∀ sl s,
    cfg.wheelIdx (w.repo.harq h).slotTimeout = cfg.wheelIdx sl → w.repo.slotIndication cfg sl = .ok s →
    (s.harq h).status = .empty
  late : (w.repo.harq h).status ≠ .waitingAck →
    ∀ ackStatus snr, w.repo.dlAckInfo cfg h ackStatus snr = .ok (w.repo, .error)

structure WatchInv (cfg : HarqConfig) (h : HarqRef) (n : Nat) (p0 : HarqProcess Snr) (w : AckWatch Snr) : Prop where
  inv : w.repo.HarqInv cfg
  has : w.repo.hasHarq h
  phase : Phase n p0.nofRetxs p0.maxNofHarqRetxs (w.repo.harq h) w.reports w.outcomes

section Phases

variable {k m : Nat} {p p' : HarqProcess Snr} {reports : List (AckReport Snr)} {outcomes : List AckOutcome}

lemma Phase.of_waiting (hp : Phase n k m p reports outcomes) (hst : p.status = .waitingAck) :
    outcomes = [] ∧ reports.length + p.pucchAckToReceive = n ∧ 1 ≤ p.pucchAckToReceive ∧ p.Chose reports ∧
      p.ackOnTimeout = selectedAck reports ∧ p.nofRetxs = k ∧ p.maxNofHarqRetxs = m := by
  cases hp with
  | waiting _ hcount hleft hchose hflag hnof hmax => exact ⟨rfl, hcount, hleft, hchose, hflag, hnof, hmax⟩
  | released hst' => exact absurd (hst.symm.trans hst') (by simp)
  | nacked hst' => exact absurd (hst.symm.trans hst') (by simp)
  | starved hst' => exact absurd (hst.symm.trans hst') (by simp)
  | timedOut hst' => exact absurd (hst.symm.trans hst') (by simp)

lemma Phase.deleted {ack : Bool} (hp : Phase n k m p reports outcomes) (hst : p.status ≠ .empty)
    (hempty : p'.status = .empty) (hwaited : p.status = .waitingAck → ack = p.ackOnTimeout)
    (hstarved : p.status = .pendingRetx → ack = false) :
    Phase n k m p' reports (outcomes ++ [.timedOut p.status ack]) := by
  cases hp with
  | waiting hst' hcount hleft hchose hflag =>
    rw [List.nil_append, hwaited hst', hst', hflag]
    exact .timedOut hempty (by omega)
  | nacked hst' hall hnack hretx =>
    rw [List.singleton_append, hstarved hst', hst']
    exact .starved hempty hall hnack hretx
  | released hst' => exact absurd hst' hst
  | starved hst' => exact absurd hst' hst
  | timedOut hst' => exact absurd hst' hst

lemma Phase.selected (hp : Phase n k m p reports outcomes) : ∀ o ∈ outcomes, o.ack = selectedAck reports := by
  cases hp with
  | starved hst hall hnack => simp [AckOutcome.ack, hnack]
  | nacked hst hall hnack => simp [AckOutcome.ack, hnack]
  | _ => simp [AckOutcome.ack]

lemma Phase.once (hp : Phase n k m p reports outcomes) :
    outcomes.countP AckOutcome.endsWait = if p.status = .waitingAck then 0 else 1 := by
  cases hp with
  | waiting hst => simp [hst]
  | released hst => simp [hst, AckOutcome.endsWait]
  | nacked hst => simp [hst, AckOutcome.endsWait]
  | starved hst => simp [hst, AckOutcome.endsWait, List.countP_cons]
  | timedOut hst => simp [hst, AckOutcome.endsWait]

lemma Phase.left (hp : Phase n k m p reports outcomes) : ∀ ack after, AckOutcome.combined ack after ∈ outcomes →
    after = if ack ∨ m ≤ k then .empty else .pendingRetx := by
  intro ack after hmem
  cases hp with
  | waiting => simp at hmem
  | timedOut => simp at hmem
  | released hst hall hend =>
    obtain ⟨rfl, rfl⟩ : ack = selectedAck reports ∧ after = .empty := by simpa using hmem
    rw [if_pos hend]
  | nacked hst hall hnack hretx =>
    obtain ⟨rfl, rfl⟩ : ack = false ∧ after = .pendingRetx := by simpa using hmem
    rw [if_neg (by simp only [Bool.false_eq_true, false_or]; omega)]
  | starved hst hall hnack hretx =>
    obtain ⟨rfl, rfl⟩ : ack = false ∧ after = .pendingRetx := by simpa using hmem
    rw [if_neg (by simp only [Bool.false_eq_true, false_or]; omega)]

lemma Phase.complete (hp : Phase n k m p reports outcomes) : reports.length ≤ n ∧
    (reports.length = n ↔ ∃ ack after, AckOutcome.combined ack after ∈ outcomes) := by
  cases hp with
  | waiting hst hcount hleft => exact ⟨by omega, fun hall => by omega, by simp⟩
  | timedOut hst hfew => exact ⟨hfew.le, fun hall => absurd hall hfew.ne, by simp⟩
  | released hst hall => exact ⟨hall.le, fun _ => ⟨_, _, List.mem_singleton_self _⟩, fun _ => hall⟩
  | nacked hst hall => exact ⟨hall.le, fun _ => ⟨_, _, List.mem_singleton_self _⟩, fun _ => hall⟩
  | starved hst hall => exact ⟨hall.le, fun _ => ⟨_, _, List.mem_cons_self⟩, fun _ => hall⟩

end Phases

section Steps

variable {p0 : HarqProcess Snr} {w w' : AckWatch Snr} {a : MacHarqAckReportStatus}

lemma report_late {snr : Option Snr} (hst : (w.repo.harq h).status ≠ .waitingAck)
    (hok : w.step cfg h (.report h a snr) = .ok w') : w' = w := by
  obtain ⟨⟨s, r⟩, hack, rfl⟩ := map_eq_ok.mp hok
  obtain ⟨-, hack⟩ := withHarq_ok hack
  rw [dlAckInfo_inactive cfg a snr hst] at hack
  cases hack
  simp [noteReport]

lemma report_waiting {snr : Option Snr} (hI : WatchInv cfg h n p0 w)
    (hst : (w.repo.harq h).status = .waitingAck) (hsafe : CombinationSafe cfg h w (.report h a snr))
    (hok : w.step cfg h (.report h a snr) = .ok w') : WatchInv cfg h n p0 w' := by
  obtain ⟨⟨s, r⟩, hack, rfl⟩ := map_eq_ok.mp hok
  obtain ⟨-, hack⟩ := withHarq_ok hack
  obtain ⟨hnone, hcount, hleft, hchose, hflag, hnof, hmax⟩ := hI.phase.of_waiting hst
  have hchose' := hchose.next snr (hsafe rfl hst)
  have hack' := hchose'.decide_ack
  by_cases hmore : 1 < (w.repo.harq h).pucchAckToReceive
  · obtain ⟨hinv', hmoves, rfl, hproc⟩ := dlAckInfo_await hI.inv hI.has hst hmore hack
    obtain ⟨hcore, -, -, -⟩ := chooseAck_core (w.repo.harq h) a snr
    have hnoted : w.noteReport h h (a, snr) s .noUpdate = ⟨s, w.reports ++ [(a, snr)], []⟩ := by
      simp [noteReport, StatusUpdate.outcome, hnone]
    rw [hnoted]
    refine ⟨hinv', (hmoves.hasHarq h).mpr hI.has, ?_⟩
    rw [hproc]
    apply Phase.waiting
    · exact (congrArg HarqCore.status hcore).trans hst
    · simp only [List.length_append, List.length_singleton]
      omega
    · dsimp only
      omega
    · exact ⟨hchose'.ack, hchose'.snr⟩
    · exact hack'
    · exact (congrArg HarqCore.nofRetxs hcore).trans hnof
    · exact (congrArg HarqCore.maxNofHarqRetxs hcore).trans hmax
  · obtain ⟨hinv', hmoves, rfl, hafter⟩ := dlAckInfo_final hI.inv hI.has hst (by omega) hack
    rw [hnof, hmax] at hafter
    have hall : (w.reports ++ [(a, snr)]).length = n := by
      rw [List.length_append, List.length_singleton]
      omega
    have hnoted : w.noteReport h h (a, snr) s
        (if ((w.repo.harq h).chooseAck a snr).chosenAck = .ack then .acked else .nacked) =
        ⟨s, w.reports ++ [(a, snr)], [.combined (selectedAck (w.reports ++ [(a, snr)])) (s.harq h).status]⟩ := by
      rw [← hack']
      unfold noteReport
      split <;> simp [StatusUpdate.outcome, *]
    rw [hnoted]
    refine ⟨hinv', (hmoves.hasHarq h).mpr hI.has, ?_⟩
    rw [hafter]
    by_cases hend : ((w.repo.harq h).chooseAck a snr).chosenAck = .ack ∨ p0.maxNofHarqRetxs ≤ p0.nofRetxs
    · rw [if_pos hend] at hafter ⊢
      refine .released hafter hall (hend.imp_left fun hchosen => ?_)
      rw [← hack']
      exact decide_eq_true hchosen
    · rw [if_neg hend] at hafter ⊢
      have hnack : selectedAck (w.reports ++ [(a, snr)]) = false := by
        rw [← hack']
        exact decide_eq_false fun hchosen => hend (Or.inl hchosen)
      rw [hnack]
      exact .nacked hafter hall hnack (by omega)

lemma report_other {g : HarqRef} {snr : Option Snr} (hI : WatchInv cfg h n p0 w)
    (hg : g ≠ h) (hok : w.step cfg h (.report g a snr) = .ok w') : WatchInv cfg h n p0 w' := by
  obtain ⟨⟨s, r⟩, hack, rfl⟩ := map_eq_ok.mp hok
  obtain ⟨hhas, hack⟩ := withHarq_ok hack
  have heffect : s.HarqInv cfg ∧ OnlyMoves g w.repo s := by
    by_cases hst : (w.repo.harq g).status = .waitingAck
    · by_cases hmore : 1 < (w.repo.harq g).pucchAckToReceive
      · obtain ⟨hinv, hmoves, -⟩ := dlAckInfo_await hI.inv hhas hst hmore hack
        exact ⟨hinv, hmoves⟩
      · obtain ⟨hinv, hmoves, -⟩ := dlAckInfo_final hI.inv hhas hst (by omega) hack
        exact ⟨hinv, hmoves⟩
    · rw [dlAckInfo_inactive cfg a snr hst] at hack
      cases hack
      exact ⟨hI.inv, .refl g _⟩
  unfold noteReport
  rw [if_neg fun hc => hg hc.1]
  refine ⟨heffect.1, (heffect.2.hasHarq h).mpr hI.has, ?_⟩
  rw [show s.harq h = w.repo.harq h from heffect.2.harq h hg.symm]
  exact hI.phase

lemma slot_keeps {sl : SlotPoint} (hI : WatchInv cfg h n p0 w) (hsafe : CombinationSafe cfg h w (.slot sl))
    (hok : w.step cfg h (.slot sl) = .ok w') : WatchInv cfg h n p0 w' := by
  obtain ⟨s, hslot, rfl⟩ := map_eq_ok.mp hok
  obtain ⟨hinv, hrep⟩ := slotIndication_reports hI.inv hslot
  have hhas : s.hasHarq h := by
    unfold hasHarq
    rw [hrep.nof]
    exact hI.has
  refine ⟨hinv, hhas, ?_⟩
  unfold noteSlot
  obtain ⟨hsame, hnone⟩ | ⟨hst, hempty, e, hone, hanswer⟩ := slotIndication_process h hI.inv hslot
  · rw [hnone, hsame, List.map_nil, List.append_nil]
    exact hI.phase
  · rw [hone, List.map_singleton]
    refine hI.phase.deleted hst hempty (fun hwait => ?_) fun hpending => ?_
    · -- a process that waits is deleted by its timer
      rcases hanswer with ⟨-, rfl⟩ | ⟨hretx, -⟩
      · rfl
      · exact absurd (hwait.symm.trans hretx) (by simp)
    · rcases hanswer with ⟨hvisit, rfl⟩ | ⟨-, rfl⟩
      · by_contra hflag
        exact hsafe ⟨hpending, by simpa [HarqTrace.answer] using hflag, hvisit⟩
      · rfl

lemma step_keeps {c : AckCall Snr} (hI : WatchInv cfg h n p0 w) (hsafe : CombinationSafe cfg h w c)
    (hok : w.step cfg h c = .ok w') : WatchInv cfg h n p0 w' := by
  cases c with
  | slot sl => exact slot_keeps hI hsafe hok
  | report g a snr =>
    by_cases hg : g = h
    · subst hg
      by_cases hst : (w.repo.harq g).status = .waitingAck
      · exact report_waiting hI hst hsafe hok
      · exact (report_late hst hok) ▸ hI
    · exact report_other hI hg hok

lemma step_aborts {c : AckCall Snr} {a : HarqAbort} (hI : WatchInv cfg h n p0 w) (hok : w.step cfg h c = .error a) :
    a = .noSuchHarq := by
  cases c with
  | slot sl =>
    obtain ⟨s, hs⟩ := slotIndication_progress hI.inv sl
    simp only [step, hs] at hok
    cases hok
  | report g ackStatus snr =>
    unfold step withHarq at hok
    by_cases hg : w.repo.hasHarq g
    · obtain ⟨s, r, hs⟩ := dlAckInfo_progress hI.inv hg ackStatus snr
      simp only [if_pos hg, hs] at hok
      cases hok
    · simp only [if_neg hg] at hok
      cases hok
      rfl

lemma WatchInv.combines (hI : WatchInv cfg h n p0 w) : w.Combines cfg h n p0 where
  selected := hI.phase.selected
  once := hI.phase.once
  left := hI.phase.left
  complete := hI.phase.complete
  deadline hst sl s hentry hslot := slotIndication_visit hI.inv hI.has (by rw [hst]; simp) hentry hslot
  late hst a snr := dlAckInfo_inactive cfg a snr hst

end Steps

lemma start_inv {s : CellHarqRepository Snr} (hinv : s.HarqInv cfg) (hn : 1 ≤ n) (ha : AwaitsReports h n s) :
    WatchInv cfg h n (s.harq h) (start s) where
  inv := hinv
  has := ha.has
  phase := .waiting ha.status (by simp [start, ha.count]) (ha.count.symm ▸ hn)
    ⟨ha.chosenAck, ha.lastPucchSnr⟩ ha.ackOnTimeout rfl rfl

/-- From every state that the repository can reach, and for every order of reports and slot indications: while the
chosen report has an SNR whenever another one is decoded, and no starved process has the flag of an ACK, the outcome is
that of the selected report and there is one of them. -/
theorem ack_combination (cfg : HarqConfig) (events : List (HarqEvent Snr)) (s : CellHarqRepository Snr)
    (hreach : runEvents (CellHarqRepository.step cfg) (CellHarqRepository.init Snr) events = .ok s) (h : HarqRef) (n : Nat)
    (hn : 1 ≤ n) (hawaits : AwaitsReports h n s) (calls : List (AckCall Snr))
    (hsafe : RunsWithin (AckWatch.step cfg h) (CombinationSafe cfg h) (start s) calls) :
    HoldsThroughout (AckWatch.step cfg h) (Combines cfg h n (s.harq h)) (start s) calls ∧
      Yields (runEvents (AckWatch.step cfg h) (start s) calls) (Combines cfg h n (s.harq h)) (· = .noSuchHarq) := by
  obtain ⟨hall, hend⟩ := runsWithin_yields (E := (· = HarqAbort.noSuchHarq)) (WatchInv cfg h n (s.harq h))
    (fun w c hc hI => yields_iff.mpr ⟨fun w' hok => step_keeps hI hc hok, fun a ha => step_aborts hI ha⟩) hsafe
    (start_inv (run_inv hreach) hn hawaits)
  exact ⟨holdsThroughout_mono (fun w hI => hI.combines) hall, hend.post fun w hI => hI.combines⟩

section Examples

def twoReportsRun : List (HarqEvent Nat) :=
  [.reserveUeHarqs 0 17 1, .slotIndication ⟨0, 0⟩, .newDlTx 0 ⟨0, 0⟩ 4 4 0, .incrementPucchCounter ⟨0, 0⟩,
    .incrementPucchCounter ⟨0, 0⟩]

/-- A NACK, a stronger ACK, and a report that comes too late. -/
theorem ack_combination_stronger_ack :
    ∃ s, runEvents (CellHarqRepository.step ⟨1, 16, 30, 1, 0⟩) (CellHarqRepository.init Nat) twoReportsRun = .ok s ∧
      HoldsThroughout (AckWatch.step ⟨1, 16, 30, 1, 0⟩ ⟨0, 0⟩) (Combines ⟨1, 16, 30, 1, 0⟩ ⟨0, 0⟩ 2 (s.harq ⟨0, 0⟩)) (start s)
        [.report ⟨0, 0⟩ .nack (some 3), .slot ⟨0, 1⟩, .report ⟨0, 0⟩ .ack (some 5), .report ⟨0, 0⟩ .nack none] :=
  ⟨_, rfl, (ack_combination ⟨1, 16, 30, 1, 0⟩ twoReportsRun _ rfl ⟨0, 0⟩ 2 (by decide)
    ⟨by decide, rfl, rfl, rfl, rfl, rfl⟩ _ (by decide)).1⟩

/-- Without SNRs the second report replaces the first. And an ACK that a stronger NACK has replaced is notified when the
process is discarded for want of a retransmission. -/
theorem ack_combination_fails :
    ∃ s, runEvents (CellHarqRepository.step ⟨1, 16, 30, 1, 0⟩) (CellHarqRepository.init Nat) twoReportsRun = .ok s ∧
      AwaitsReports ⟨0, 0⟩ 2 s ∧
      (∃ w, runEvents (AckWatch.step ⟨1, 16, 30, 1, 0⟩ ⟨0, 0⟩) (start s)
          [.report ⟨0, 0⟩ .ack none, .report ⟨0, 0⟩ .nack none] = .ok w ∧
        w.outcomes = [.combined false .pendingRetx] ∧ selectedAck w.reports = true ∧
        ¬Combines ⟨1, 16, 30, 1, 0⟩ ⟨0, 0⟩ 2 (s.harq ⟨0, 0⟩) w) ∧
      ∃ w, runEvents (AckWatch.step ⟨1, 16, 30, 1, 0⟩ ⟨0, 0⟩) (start s)
          [.report ⟨0, 0⟩ .ack (some 3), .report ⟨0, 0⟩ .nack (some 5), .slot ⟨0, 30⟩] = .ok w ∧
        w.outcomes = [.combined false .pendingRetx, .timedOut .pendingRetx true] ∧ selectedAck w.reports = false ∧
        ¬Combines ⟨1, 16, 30, 1, 0⟩ ⟨0, 0⟩ 2 (s.harq ⟨0, 0⟩) w := by
  refine ⟨_, rfl, ⟨by decide, rfl, rfl, rfl, rfl, rfl⟩, ⟨_, rfl, rfl, rfl, fun hw => ?_⟩, ⟨_, rfl, rfl, rfl, fun hw => ?_⟩⟩
  · exact absurd (hw.selected _ List.mem_cons_self) (by decide)
  · exact absurd (hw.selected (.timedOut .pendingRetx true) (by decide)) (by decide)

end Examples

end AckWatch

end OwlsRan.Sched
