import OwlsRan.Pdcp.StatusReport

/-!
# SDUs that are dropped

`handle_sdu` arms the discard timer and adds the SDU to the window before the last allocation.
-/

namespace OwlsRan.Pdcp
open OwlsRan.Lib OwlsRan.Rlc OwlsRan.Adt OwlsRan.Support

def SduOutcome.isDropped : SduOutcome → Bool
  | .buffered | .accepted _ _ => false
  | _ => true

namespace PdcpTxEntity

variable (cfg : PdcpTxConfig) (s : PdcpTxEntity) (buf : List UInt8) (alloc : SduAllocation)

/-- `handle_sdu` gets as far as the discard timer. -/
def PassesChecks : Prop :=
  s.stopped = false ∧ s.buffering = false ∧ (cfg.isSrb = true ∨ s.checkEarlyDrop cfg buf = none) ∧
    s.txNext < cfg.maxCount.hard.toNat

instance : Decidable (s.PassesChecks cfg buf) := inferInstanceAs (Decidable (_ ∧ _ ∧ _ ∧ _))

def keepsCopy (cfg : PdcpTxConfig) : Bool := cfg.discardTimer.isSome && cfg.isAm

def discardTimeout (cfg : PdcpTxConfig) : Option Nat :=
  match cfg.discardTimer with
  | some (.ms timeout) => some timeout
  | _ => none

def ArmsTimer : Prop := (discardTimeout cfg).isSome = true ∧ s.discardTimer.isRunning = false

instance : Decidable (s.ArmsTimer cfg) := inferInstanceAs (Decidable (_ ∧ _))

def windowElement : PdcpTxWindowElement :=
  ⟨if keepsCopy cfg then buf else [], s.txNext, s.arrivalTick cfg, buf.length⟩

def withSdu (notified : Bool) : PdcpTxEntity := { s with
  discardTimer := (s.armDiscardTimer cfg).discardTimer
  txWindow := s.txWindow.overwrite s.txNext (s.windowElement cfg buf)
  sduBytes := s.sduBytes + buf.length
  nofSdus := s.nofSdus + 1
  maxCountNotified := notified }

/-- What `handle_sdu` makes of an SDU. -/
inductive SduHandled (r : HandledSdu) : Prop where
  | checked (overflow : Bool) (sduBuffer : List (List UInt8)) (hchecks : ¬s.PassesChecks cfg buf)
      (hentity : r.entity = { s with maxCountOverflow := overflow, sduBuffer := sduBuffer })
      (houtcome : ∀ count pdu, r.outcome ≠ .accepted count pdu)
  | copyFailed (notified : Bool) (hchecks : s.PassesChecks cfg buf)
      (hcopy : keepsCopy cfg = true ∧ alloc.copyOk = false)
      (hentity : r.entity = { s with
        discardTimer := (s.armDiscardTimer cfg).discardTimer, maxCountNotified := notified })
      (houtcome : r.outcome = .copyFailed)
  | headerFailed (notified : Bool) (hchecks : s.PassesChecks cfg buf)
      (hcopy : ¬(keepsCopy cfg = true ∧ alloc.copyOk = false)) (hheader : alloc.headerOk = false)
      (hfree : s.inWindow s.txNext = none) (hentity : r.entity = s.withSdu cfg buf notified)
      (houtcome : r.outcome = .headerFailed)
  | accepted (notified : Bool) (pdu : List UInt8) (hchecks : s.PassesChecks cfg buf)
      (hcopy : ¬(keepsCopy cfg = true ∧ alloc.copyOk = false)) (hheader : alloc.headerOk = true)
      (hfree : s.inWindow s.txNext = none)
      (hentity : r.entity = { s.withSdu cfg buf notified with txNext := s.txNext + 1 })
      (houtcome : r.outcome = .accepted s.txNext pdu)

variable {cfg s buf alloc} {r : HandledSdu}

lemma discardTimer_isSome (h : (discardTimeout cfg).isSome = true) : cfg.discardTimer.isSome = true := by
  unfold discardTimeout at h
  split at h
  case h_1 htimer =>
    rw [htimer]
    rfl
  case h_2 => cases h

lemma armDiscardTimer_eq_iff : (s.armDiscardTimer cfg).discardTimer = s.discardTimer ↔ ¬s.ArmsTimer cfg := by
  cases hcfg : cfg.discardTimer with
  | none => simp [armDiscardTimer, ArmsTimer, discardTimeout, hcfg]
  | some timer =>
    cases timer with
    | infinity => simp [armDiscardTimer, ArmsTimer, discardTimeout, hcfg]
    | ms timeout =>
      simp only [armDiscardTimer, ArmsTimer, discardTimeout, hcfg, Option.isSome_some, true_and]
      cases hrunning : s.discardTimer.isRunning with
      | true => simp
      | false =>
        rw [if_neg Bool.false_ne_true]
        refine iff_of_false (fun h => ?_) fun h => h rfl
        have hrunning' : (s.discardTimer.start timeout).isRunning = s.discardTimer.isRunning :=
          congrArg UniqueTimer.isRunning h
        rw [hrunning] at hrunning'
        cases hrunning'

lemma addSdu_eq (info : PdcpTxWindowElement) : s.addSdu info =
    if s.inWindow info.count = none then .ok { s with
      txWindow := s.txWindow.overwrite info.count info
      sduBytes := s.sduBytes + info.sduLength
      nofSdus := s.nofSdus + 1 }
    else .error (.window .snPresent) := by
  unfold addSdu SduWindow.addSn
  by_cases hfree : s.inWindow info.count = none
  · rw [if_pos hfree, if_neg]
    · rfl
    · rw [hasSn_eq_false.mpr hfree]
      exact Bool.false_ne_true
  · rw [if_neg hfree, if_pos]
    · rfl
    · exact hasSn_eq_true.mpr (Option.ne_none_iff_exists'.mp hfree)

/-- What is made of an SDU that has passed the checks. The entity aborts if its COUNT is in the window. -/
lemma transmitSdu_cases (notified : Bool) (notes : List PdcpCountNotification) (hchecks : s.PassesChecks cfg buf) :
    (∃ r, transmitSdu cfg { s with maxCountNotified := notified } buf alloc notes = .ok r ∧ SduHandled cfg s buf alloc r) ∨
      (s.inWindow s.txNext ≠ none ∧
        transmitSdu cfg { s with maxCountNotified := notified } buf alloc notes = .error (.window .snPresent)) := by
  have harmed : armDiscardTimer cfg { s with maxCountNotified := notified } =
      { s with discardTimer := (s.armDiscardTimer cfg).discardTimer, maxCountNotified := notified } := by
    unfold armDiscardTimer
    split <;> try rfl
    split <;> rfl
  have hadd : addSdu { s with discardTimer := (s.armDiscardTimer cfg).discardTimer, maxCountNotified := notified }
      ⟨if (cfg.discardTimer.isSome && cfg.isAm) = true then buf else [], s.txNext,
        arrivalTick cfg { s with maxCountNotified := notified }, buf.length⟩ =
      if s.inWindow s.txNext = none then .ok (s.withSdu cfg buf notified) else .error (.window .snPresent) := addSdu_eq _
  unfold transmitSdu
  dsimp only
  rw [harmed]
  by_cases hcopy : keepsCopy cfg = true ∧ alloc.copyOk = false
  · have hfails : (cfg.discardTimer.isSome && cfg.isAm && !alloc.copyOk) = true := by
      rw [Bool.and_eq_true]
      exact ⟨hcopy.1, by rw [hcopy.2]; rfl⟩
    rw [if_pos hfails]
    exact .inl ⟨_, rfl, .copyFailed notified hchecks hcopy rfl rfl⟩
  · have hfails : ¬(cfg.discardTimer.isSome && cfg.isAm && !alloc.copyOk) = true := by
      rw [Bool.and_eq_true, Bool.not_eq_true']
      exact hcopy
    rw [if_neg hfails]
    dsimp only
    rw [hadd]
    by_cases hfree : s.inWindow s.txNext = none
    · refine .inl ?_
      rw [if_pos hfree]
      by_cases hheader : alloc.headerOk = true
      · exact ⟨_, if_neg (by simp [hheader]), .accepted notified _ hchecks hcopy hheader hfree rfl rfl⟩
      · have hfalse : alloc.headerOk = false := Bool.not_eq_true _ ▸ hheader
        exact ⟨_, if_pos (by simp [hfalse]), .headerFailed notified hchecks hcopy hfalse hfree rfl rfl⟩
    · rw [if_neg hfree]
      exact .inr ⟨hfree, rfl⟩

variable (cfg s buf alloc) in
lemma handleSdu_cases : (∃ r, s.handleSdu cfg buf alloc = .ok r ∧ SduHandled cfg s buf alloc r) ∨
    (s.inWindow s.txNext ≠ none ∧ s.handleSdu cfg buf alloc = .error (.window .snPresent)) := by
  unfold handleSdu
  by_cases hstopped : s.stopped = true
  · rw [if_pos hstopped]
    exact .inl ⟨_, rfl, .checked s.maxCountOverflow s.sduBuffer (fun h => by simp [h.1] at hstopped) rfl nofun⟩
  rw [if_neg hstopped]
  by_cases hbuffering : s.buffering = true
  · rw [if_pos hbuffering]
    have hchecks : ¬s.PassesChecks cfg buf := fun h => by simp [h.2.1] at hbuffering
    split
    · exact .inl ⟨_, rfl, .checked s.maxCountOverflow _ hchecks rfl nofun⟩
    · exact .inl ⟨_, rfl, .checked s.maxCountOverflow s.sduBuffer hchecks rfl nofun⟩
  rw [if_neg hbuffering]
  split
  case h_1 reason hdrop =>
    refine .inl ⟨_, rfl, .checked s.maxCountOverflow s.sduBuffer (fun h => ?_) rfl nofun⟩
    rcases h.2.2.1 with hsrb | hnone
    · simp [hsrb] at hdrop
    · simp [hnone] at hdrop
  case h_2 hpasses =>
    by_cases hhard : cfg.maxCount.hard.toNat ≤ s.txNext
    · rw [if_pos hhard]
      exact .inl ⟨_, rfl, .checked true s.sduBuffer (fun h => Nat.not_lt.mpr hhard h.2.2.2) rfl nofun⟩
    · rw [if_neg hhard]
      have hearly : cfg.isSrb = true ∨ s.checkEarlyDrop cfg buf = none := by
        by_cases hsrb : cfg.isSrb = true
        · exact .inl hsrb
        · rw [if_neg hsrb] at hpasses
          exact .inr hpasses
      have hchecks : s.PassesChecks cfg buf :=
        ⟨Bool.not_eq_true _ ▸ hstopped, Bool.not_eq_true _ ▸ hbuffering, hearly, Nat.not_le.mp hhard⟩
      exact transmitSdu_cases _ _ hchecks

lemma handleSdu_handled (h : s.handleSdu cfg buf alloc = .ok r) : SduHandled cfg s buf alloc r := by
  rcases handleSdu_cases cfg s buf alloc with ⟨r', hr', hhandled⟩ | ⟨-, herror⟩
  · rw [h] at hr'
    exact Except.ok.inj hr' ▸ hhandled
  · rw [h] at herror
    cases herror

section Atomicity

variable (cfg s buf alloc)

structure Untouched (s s' : PdcpTxEntity) : Prop where
  txWindow : s'.txWindow = s.txWindow
  sduBytes : s'.sduBytes = s.sduBytes
  nofSdus : s'.nofSdus = s.nofSdus
  txNext : s'.txNext = s.txNext
  discardTimer : s'.discardTimer = s.discardTimer

/-- The entity is as before a dropped SDU. The next accepted SDU gets the COUNT TX_NEXT, and the window is free for it
if it was before. -/
structure DropsCleanly (r : HandledSdu) : Prop where
  untouched : Untouched s r.entity
  nextCount : ∀ buf' alloc' r', r.entity.handleSdu cfg buf' alloc' = .ok r' →
    ∀ count pdu, r'.outcome = .accepted count pdu → count = s.txNext
  notPresent : s.inWindow s.txNext = none → ∀ buf' alloc', r.entity.handleSdu cfg buf' alloc' ≠ .error (.window .snPresent)

/-- Nothing is touched before an allocation fails: no copy fails while the discard timer is to be started, and no header
fails. -/
def AllocatesInTime : Prop :=
  s.PassesChecks cfg buf →
    if keepsCopy cfg = true ∧ alloc.copyOk = false then ¬s.ArmsTimer cfg else alloc.headerOk = true

instance : Decidable (AllocatesInTime cfg s buf alloc) := inferInstanceAs (Decidable (_ → _))

variable {cfg s buf alloc}

lemma Untouched.dropsCleanly (h : Untouched s r.entity) : DropsCleanly cfg s r where
  untouched := h
  nextCount := by
    intro buf' alloc' r' hr' count pdu hcount
    cases handleSdu_handled hr' with
    | checked _ _ _ _ houtcome => exact absurd hcount (houtcome count pdu)
    | copyFailed _ _ _ _ houtcome =>
      rw [houtcome] at hcount
      cases hcount
    | headerFailed _ _ _ _ _ _ houtcome =>
      rw [houtcome] at hcount
      cases hcount
    | accepted _ _ _ _ _ _ _ houtcome =>
      rw [houtcome] at hcount
      cases hcount
      exact h.txNext
  notPresent := by
    intro hfree buf' alloc' herror
    rcases handleSdu_cases cfg r.entity buf' alloc' with ⟨r', hr', -⟩ | ⟨hpresent, -⟩
    · rw [hr'] at herror
      cases herror
    · apply hpresent
      unfold inWindow
      rw [h.txWindow, h.txNext]
      exact hfree

lemma dropsCleanly_iff (h : s.handleSdu cfg buf alloc = .ok r) :
    (r.outcome.isDropped = true → DropsCleanly cfg s r) ↔ AllocatesInTime cfg s buf alloc := by
  unfold AllocatesInTime
  cases handleSdu_handled h with
  | checked overflow sduBuffer hchecks hentity houtcome =>
    refine iff_of_true (fun _ => Untouched.dropsCleanly ?_) fun h => absurd h hchecks
    rw [hentity]
    exact ⟨rfl, rfl, rfl, rfl, rfl⟩
  | copyFailed notified hchecks hcopy hentity houtcome =>
    rw [if_pos hcopy, houtcome]
    constructor
    · intro hclean _
      have htimer := (hclean rfl).untouched.discardTimer
      rw [hentity] at htimer
      exact armDiscardTimer_eq_iff.mp htimer
    · intro hunarmed _
      apply Untouched.dropsCleanly
      rw [hentity]
      exact ⟨rfl, rfl, rfl, rfl, armDiscardTimer_eq_iff.mpr (hunarmed hchecks)⟩
  | headerFailed notified hchecks hcopy hheader hfree hentity houtcome =>
    rw [if_neg hcopy, houtcome, hheader]
    refine iff_of_false (fun hclean => ?_) fun h => Bool.false_ne_true (h hchecks)
    have hsdus := (hclean rfl).untouched.nofSdus
    rw [hentity] at hsdus
    exact Nat.succ_ne_self _ hsdus
  | accepted notified pdu hchecks hcopy hheader hfree hentity houtcome =>
    rw [if_neg hcopy, houtcome]
    exact iff_of_true (fun h => Bool.noConfusion h) fun _ => hheader

end Atomicity

section Fresh

/-- No SDU in the window has a COUNT that is yet to be given, and no timer runs that is not configured. -/
structure FreshCounts (cfg : PdcpTxConfig) (s : PdcpTxEntity) : Prop where
  wellFormed : s.txWindow.WellFormed
  fresh : ∀ j, s.txNext ≤ j → s.inWindow j = none
  idle : cfg.discardTimer.isSome = false → s.discardTimer.deadline = none

lemma freshCounts_start (cfg : PdcpTxConfig) (now : Nat) : FreshCounts cfg (.start cfg now) :=
  ⟨CircularMap.new_wellFormed _ _, fun _ _ => CircularMap.new_find? _ _, fun _ => rfl⟩

variable {named : Nat → Prop} {s' t : PdcpTxEntity} {highestCount : Nat}

lemma FreshCounts.swept (hs : FreshCounts cfg s) (h : Swept s named s') : FreshCounts cfg s' where
  wellFormed := h.same.wellFormed hs.wellFormed
  fresh := fun j hj => h.absent (hs.fresh j (h.same.txNext ▸ hj))
  idle := h.discardTimer_eq ▸ hs.idle

lemma FreshCounts.stopDiscardTimer (hs : FreshCounts cfg s) (h : s.stopDiscardTimer cfg highestCount = .ok s') :
    FreshCounts cfg s' := by
  by_cases heffect : StopsTimers cfg s highestCount
  · have hstopped := stopDiscardTimer_spec heffect h
    refine ⟨hstopped.same.wellFormed hs.wellFormed, fun j hj => ?_, fun hnone => ?_⟩
    · rw [hstopped.inWindow_eq]
      split
      · rfl
      · exact hs.fresh j (hstopped.same.txNext ▸ hj)
    · rw [heffect.1] at hnone
      cases hnone
  · rw [stopDiscardTimer_ignored heffect] at h
    exact Except.ok.inj h ▸ hs

lemma FreshCounts.handleSdu (hs : FreshCounts cfg s) (halloc : AllocatesInTime cfg s buf alloc)
    (h : s.handleSdu cfg buf alloc = .ok r) : FreshCounts cfg r.entity := by
  have hidle : cfg.discardTimer.isSome = false → (s.armDiscardTimer cfg).discardTimer.deadline = none := by
    intro hnone
    have hkept : (s.armDiscardTimer cfg).discardTimer = s.discardTimer := by
      refine armDiscardTimer_eq_iff.mpr fun harms => ?_
      rw [discardTimer_isSome harms.1] at hnone
      cases hnone
    rw [hkept]
    exact hs.idle hnone
  cases handleSdu_handled h with
  | checked overflow sduBuffer hchecks hentity houtcome =>
    rw [hentity]
    exact ⟨hs.wellFormed, hs.fresh, hs.idle⟩
  | copyFailed notified hchecks hcopy hentity houtcome =>
    rw [hentity]
    exact ⟨hs.wellFormed, hs.fresh, hidle⟩
  | headerFailed notified hchecks hcopy hheader hfree hentity houtcome =>
    have hok := halloc hchecks
    rw [if_neg hcopy, hheader] at hok
    cases hok
  | accepted notified pdu hchecks hcopy hheader hfree hentity houtcome =>
    rw [hentity]
    refine ⟨CircularMap.overwrite_wellFormed hs.wellFormed, fun j hj => ?_, hidle⟩
    change (s.txWindow.overwrite s.txNext (s.windowElement cfg buf)).find? j = none
    have hlt : s.txNext < j := hj
    rw [CircularMap.overwrite_find? hs.wellFormed, if_neg (by omega)]
    split
    · rfl
    · exact hs.fresh j (Nat.le_of_lt hlt)

lemma FreshCounts.control (hs : FreshCounts cfg s) (trans transCrypto desiredBs : Nat) (integrityEnabled : Bool) :
    FreshCounts cfg { s with txTrans := trans, txTransCrypto := transCrypto, desiredBufferSize := desiredBs,
                             integrityEnabled := integrityEnabled } :=
  ⟨hs.wellFormed, hs.fresh, hs.idle⟩

lemma FreshCounts.handleTransmitNotification {sn : Nat} (hs : FreshCounts cfg s)
    (h : s.handleTransmitNotification cfg sn = .ok s') : FreshCounts cfg s' := by
  unfold PdcpTxEntity.handleTransmitNotification at h
  dsimp only at h
  have hcontrol := hs.control (s.notificationCountEstimation cfg sn + 1) s.txTransCrypto s.desiredBufferSize s.integrityEnabled
  split_ifs at h
  · exact Except.ok.inj h ▸ hs
  · exact Except.ok.inj h ▸ hs
  · exact hcontrol.stopDiscardTimer h
  · exact Except.ok.inj h ▸ hcontrol

lemma FreshCounts.handleDeliveryNotification {sn : Nat} (hs : FreshCounts cfg s)
    (h : s.handleDeliveryNotification cfg sn = .ok s') : FreshCounts cfg s' := by
  unfold PdcpTxEntity.handleDeliveryNotification at h
  dsimp only at h
  split_ifs at h
  · exact Except.ok.inj h ▸ hs
  · exact Except.ok.inj h ▸ hs
  · exact hs.stopDiscardTimer h
  · exact Except.ok.inj h ▸ hs

lemma FreshCounts.handleStatusReport (hs : FreshCounts cfg s) (status : List UInt8) :
    FreshCounts cfg (s.handleStatusReport cfg status).1 := by
  cases htimer : cfg.discardTimer.isSome with
  | false =>
    rw [handleStatusReport_ignored htimer]
    exact hs
  | true => exact hs.swept (handleStatusReport_swept htimer status s)

lemma FreshCounts.discardTimer (hs : FreshCounts cfg s) (htimer : cfg.discardTimer.isSome = true) (timer : UniqueTimer) :
    FreshCounts cfg { s with discardTimer := timer } where
  wellFormed := hs.wellFormed
  fresh := hs.fresh
  idle := fun hnone => by rw [htimer] at hnone; cases hnone

lemma FreshCounts.discardCallback {counts : List Nat} (hs : FreshCounts cfg s) (htimer : cfg.discardTimer.isSome = true)
    (h : s.discardCallback cfg = .ok (s', counts)) : FreshCounts cfg s' := by
  rcases discardCallback_cases htimer s with ⟨-, hok⟩ | ⟨oldest, t, counts', hok, -, hexpired⟩ | ⟨-, -, a, herror⟩
  · rw [h] at hok
    cases hok
    exact hs
  · rw [h] at hok
    cases hok
    exact (hs.swept hexpired.swept).discardTimer htimer s'.discardTimer
  · rw [h] at herror
    cases herror

end Fresh

end PdcpTxEntity

namespace PdcpTxRun

open PdcpTxEntity

variable {cfg : PdcpTxConfig} {s s' : PdcpTxRun} {e : PdcpTxEvent}

def AllocatesInTime (cfg : PdcpTxConfig) (s : PdcpTxRun) : PdcpTxEvent → Prop
  | .sdu buf alloc => PdcpTxEntity.AllocatesInTime cfg s.entity buf alloc
  | _ => True

instance (cfg : PdcpTxConfig) (s : PdcpTxRun) : ∀ e, Decidable (s.AllocatesInTime cfg e)
  | .sdu buf alloc => inferInstanceAs (Decidable (PdcpTxEntity.AllocatesInTime cfg s.entity buf alloc))
  | .transmitNotification _ | .deliveryNotification _ | .statusReport _ | .desiredBufferSizeNotification _
  | .configureSecurity _ | .reorderCrypto _ | .tick | .expiry => isTrue trivial

/-- `add_sdu` does not find the COUNT of an SDU in the window. -/
def AddsSdu (cfg : PdcpTxConfig) (s : PdcpTxRun) : PdcpTxEvent → Prop
  | .sdu buf alloc => ∃ r, s.entity.handleSdu cfg buf alloc = .ok r
  | _ => True

lemma step_fresh (hs : FreshCounts cfg s.entity) (halloc : s.AllocatesInTime cfg e) (h : s.step cfg e = .ok s') :
    FreshCounts cfg s'.entity := by
  cases e with
  | sdu buf alloc =>
    obtain ⟨r, hr, rfl⟩ := map_eq_ok.mp h
    exact hs.handleSdu halloc hr
  | transmitNotification sn =>
    obtain ⟨t, ht, rfl⟩ := map_eq_ok.mp h
    exact hs.handleTransmitNotification ht
  | deliveryNotification sn =>
    obtain ⟨t, ht, rfl⟩ := map_eq_ok.mp h
    exact hs.handleDeliveryNotification ht
  | statusReport status =>
    obtain rfl := Except.ok.inj h
    exact hs.handleStatusReport status
  | desiredBufferSizeNotification desiredBs =>
    obtain rfl := Except.ok.inj h
    dsimp only
    split
    · exact hs
    · exact hs.control _ _ desiredBs _
  | configureSecurity integrityEnabled =>
    obtain rfl := Except.ok.inj h
    exact hs.control _ _ _ integrityEnabled
  | reorderCrypto count =>
    obtain rfl := Except.ok.inj h
    exact hs.control _ _ _ _
  | tick =>
    unfold step at h
    dsimp only at h
    split at h
    · exact Except.ok.inj h ▸ hs
    · obtain rfl := Except.ok.inj h
      exact ⟨hs.wellFormed, hs.fresh, hs.idle⟩
  | expiry =>
    unfold step at h
    dsimp only at h
    split at h
    case isTrue hdue =>
      have htimer : cfg.discardTimer.isSome = true := by
        by_contra hnone
        have hidle := hs.idle (Bool.not_eq_true _ ▸ hnone)
        rw [UniqueTimer.Due, hidle] at hdue
        cases hdue
      obtain ⟨⟨t, counts⟩, hcallback, hend⟩ := bind_eq_ok.mp h
      obtain rfl := Except.ok.inj hend
      exact (hs.discardTimer htimer _).discardCallback htimer hcallback
    case isFalse => exact Except.ok.inj h ▸ hs

end PdcpTxRun

open PdcpTxEntity PdcpTxRun

/-- An SDU that is dropped leaves the entity as it was, exactly if the allocations fail in time. In a run in which they
do, `add_sdu` never finds the COUNT of an SDU in the window. -/
theorem handleSdu_atomic (cfg : PdcpTxConfig) :
    (∀ (s : PdcpTxEntity) buf alloc r, s.handleSdu cfg buf alloc = .ok r →
      ((r.outcome.isDropped = true → DropsCleanly cfg s r) ↔ PdcpTxEntity.AllocatesInTime cfg s buf alloc)) ∧
    ∀ now es, RunsWithin (step cfg) (PdcpTxRun.AllocatesInTime cfg) (.start cfg now) es →
      RunsWithin (step cfg) (AddsSdu cfg) (.start cfg now) es := by
  refine ⟨fun s buf alloc r h => dropsCleanly_iff h, fun now es hruns => ?_⟩
  refine (runsWithin_establishes (FreshCounts cfg ·.entity) (fun s hs => hs) (fun s e s' => step_fresh) ?_
    (freshCounts_start cfg now) hruns).2
  intro s e hs _
  cases e with
  | sdu buf alloc =>
    rcases handleSdu_cases cfg s.entity buf alloc with ⟨r, hr, -⟩ | ⟨hpresent, -⟩
    · exact ⟨r, hr⟩
    · exact absurd (hs.fresh _ (Nat.le_refl _)) hpresent
  | _ => trivial

/-- The copy of an SDU fails while the discard timer is running. -/
theorem handleSdu_atomic_copyFailed :
    let cfg : PdcpTxConfig := ⟨.drb, .am, .size12bits, some (.ms 10), ⟨0xc0000000, 0xfffffffe⟩⟩
    let es : List PdcpTxEvent :=
      [.desiredBufferSizeNotification 100, .sdu [1] ⟨true, true⟩, .sdu [2] ⟨false, true⟩, .sdu [2] ⟨true, true⟩]
    RunsWithin (step cfg) (AddsSdu cfg) (.start cfg 0) es ∧
      ∃ s, runEvents (step cfg) (.start cfg 0) (es.take 2) = .ok s ∧
        ∃ r, s.entity.handleSdu cfg [2] ⟨false, true⟩ = .ok r ∧ r.outcome = .copyFailed ∧ DropsCleanly cfg s.entity r := by
  intro cfg es
  obtain ⟨s, hs, r, hr, houtcome, halloc⟩ : ∃ s, runEvents (step cfg) (.start cfg 0) (es.take 2) = .ok s ∧
      ∃ r, s.entity.handleSdu cfg [2] ⟨false, true⟩ = .ok r ∧ r.outcome = .copyFailed ∧
        PdcpTxEntity.AllocatesInTime cfg s.entity [2] ⟨false, true⟩ := by decide +kernel
  refine ⟨(handleSdu_atomic cfg).2 0 es (by decide +kernel), s, hs, r, hr, houtcome, ?_⟩
  exact ((handleSdu_atomic cfg).1 s.entity _ _ r hr).mpr halloc (by rw [houtcome]; rfl)

/-- The header of an SDU cannot be allocated. The SDU stays in the window with the COUNT 0, and the next one aborts. -/
theorem handleSdu_leaves_sdu :
    let cfg : PdcpTxConfig := ⟨.drb, .am, .size12bits, some (.ms 10), ⟨0xc0000000, 0xfffffffe⟩⟩
    (∃ s, runEvents (step cfg) (.start cfg 0) [.desiredBufferSizeNotification 100] = .ok s ∧
      ∃ r, s.entity.handleSdu cfg [1] ⟨true, false⟩ = .ok r ∧ r.outcome = .headerFailed ∧
        s.entity.inWindow 0 = none ∧ s.entity.discardTimer.deadline = none ∧
        r.entity.inWindow 0 = some ⟨[1], 0, some 0, 1⟩ ∧ r.entity.discardTimer.deadline = some 10 ∧ r.entity.txNext = 0) ∧
    runEvents (step cfg) (.start cfg 0) [.desiredBufferSizeNotification 100, .sdu [1] ⟨true, false⟩, .sdu [2] ⟨true, true⟩] =
      .error (.window .snPresent) := by
  decide +kernel

end OwlsRan.Pdcp
