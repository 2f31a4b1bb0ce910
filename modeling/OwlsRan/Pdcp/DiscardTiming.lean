import OwlsRan.Pdcp.SduAtomicity
import OwlsRan.Pdcp.CountEstimation

/-!
# When SDUs are discarded

One timer serves all SDUs of the window, and it runs for the oldest one.
-/

namespace OwlsRan.Pdcp
open OwlsRan.Lib OwlsRan.Rlc OwlsRan.Adt OwlsRan.Support

namespace PdcpTxEntity

variable (cfg : PdcpTxConfig) (timeout : Nat) (s : PdcpTxEntity)

def arrivalAt (count : Nat) : Option Nat := (s.inWindow count).bind (·.tickPointOfArrival)

structure Queued : Prop where
  active : s.stopped = false
  wellFormed : s.txWindow.WellFormed
  capacity : s.txWindow.capacity = cfg.snSize.windowSize
  ack_le : s.txNextAck ≤ s.txNext
  inRange : ∀ j, (s.inWindow j).isSome = true → s.txNextAck ≤ j ∧ j < s.txNext
  oldest : OldestPresent s
  arrived : ∀ j, (s.inWindow j).isSome = true → ∃ arrival, s.arrivalAt j = some arrival ∧ arrival ≤ s.discardTimer.now
  ordered : ∀ i j a b, i ≤ j → s.arrivalAt i = some a → s.arrivalAt j = some b → a ≤ b

structure Timed : Prop extends Queued cfg s where
  deadline : ∀ arrival, s.arrivalAt s.txNextAck = some arrival → s.discardTimer.deadline = some (arrival + timeout)
  now_le : ∀ tick, s.discardTimer.deadline = some tick → s.discardTimer.now ≤ tick

/-- An SDU is added to a window with room, and a timer that is still running without an SDU happens to be on time. -/
def SduInTime (buf : List UInt8) (alloc : SduAllocation) : Prop :=
  s.PassesChecks cfg buf → keepsCopy cfg = true ∧ alloc.copyOk = false ∨
    (alloc.headerOk = true ∧ s.txNext - s.txNextAck < cfg.snSize.windowSize ∧
      (s.txNextAck = s.txNext → s.discardTimer.deadline = none ∨
        s.discardTimer.deadline = some (s.discardTimer.now + timeout)))

instance (buf : List UInt8) (alloc : SduAllocation) : Decidable (s.SduInTime cfg timeout buf alloc) :=
  inferInstanceAs (Decidable (_ → _))

def NotifiedInTime (count : Nat) : Prop :=
  StopsTimers cfg s count →
    count + 1 = s.txNext ∨ ∃ arrival ∈ s.arrivalAt (count + 1), s.discardTimer.now < arrival + timeout

instance (count : Nat) : Decidable (s.NotifiedInTime cfg timeout count) := inferInstanceAs (Decidable (_ → _))

def FirstUnnamed (status : List UInt8) (count : Nat) : Prop :=
  (s.inWindow count).isSome = true ∧ ¬ReportNames status count ∧
    ∀ i < count, (s.inWindow i).isSome = true → ReportNames status i

instance (status : List UInt8) (count : Nat) : Decidable (s.FirstUnnamed status count) :=
  inferInstanceAs (Decidable (_ ∧ _ ∧ _))

def ReportInTime (status : List UInt8) : Prop :=
  ∀ count < s.txNext, s.FirstUnnamed status count → s.arrivalAt count = s.arrivalAt s.txNextAck

instance (status : List UInt8) : Decidable (s.ReportInTime status) := inferInstanceAs (Decidable (∀ count < _, _ → _))

end PdcpTxEntity

namespace PdcpTxRun

open PdcpTxEntity

def InTime (cfg : PdcpTxConfig) (timeout : Nat) (s : PdcpTxRun) : PdcpTxEvent → Prop
  | .sdu buf alloc => s.entity.SduInTime cfg timeout buf alloc
  | .transmitNotification sn => s.entity.TakesTransmit (s.entity.notificationCountEstimation cfg sn) → cfg.isUm = true →
      s.entity.NotifiedInTime cfg timeout (s.entity.notificationCountEstimation cfg sn)
  | .deliveryNotification sn => cfg.isAm = true →
      s.entity.NotifiedInTime cfg timeout (s.entity.notificationCountEstimation cfg sn)
  | .statusReport status => s.entity.ReportInTime status
  | _ => True

instance (cfg : PdcpTxConfig) (timeout : Nat) (s : PdcpTxRun) : ∀ e, Decidable (s.InTime cfg timeout e)
  | .sdu buf alloc => inferInstanceAs (Decidable (s.entity.SduInTime cfg timeout buf alloc))
  | .transmitNotification _ => inferInstanceAs (Decidable (_ → _ → _))
  | .deliveryNotification _ => inferInstanceAs (Decidable (_ → _))
  | .statusReport status => inferInstanceAs (Decidable (s.entity.ReportInTime status))
  | .desiredBufferSizeNotification _ | .configureSecurity _ | .reorderCrypto _ | .tick | .expiry => isTrue trivial

/-- Every discard comes when the time of the SDU is up. No SDU stays longer, and the timer runs while there is one. -/
structure OnTime (timeout : Nat) (s : PdcpTxRun) : Prop where
  discards : ∀ d ∈ s.discards, ∃ arrival, d.elem.tickPointOfArrival = some arrival ∧ d.tick = arrival + timeout
  waiting : ∀ j elem, s.entity.inWindow j = some elem → ∃ arrival, elem.tickPointOfArrival = some arrival ∧
    s.entity.discardTimer.now ≤ arrival + timeout ∧
    (s.entity.discardTimer.now = arrival + timeout → s.entity.discardTimer.Due)
  running : (∃ j, (s.entity.inWindow j).isSome = true) → s.entity.discardTimer.isRunning = true

end PdcpTxRun

namespace PdcpTxEntity

variable {cfg : PdcpTxConfig} {timeout : Nat} {s s' : PdcpTxEntity} {j : Nat}

lemma timed_start (cfg : PdcpTxConfig) (timeout now : Nat) : Timed cfg timeout (.start cfg now) := by
  have hempty : ∀ j, (PdcpTxEntity.start cfg now).inWindow j = none := fun j => CircularMap.new_find? _ _
  have hnever : ∀ j, ¬((PdcpTxEntity.start cfg now).inWindow j).isSome = true := by
    intro j h
    rw [hempty] at h
    cases h
  have hnone : ∀ j, (PdcpTxEntity.start cfg now).arrivalAt j = none := by
    intro j
    rw [arrivalAt, hempty]
    rfl
  refine ⟨⟨rfl, CircularMap.new_wellFormed _ _, CircularMap.new_capacity _ _, Nat.le_refl _,
    fun j h => absurd h (hnever j), .inl rfl, fun j h => absurd h (hnever j), fun i j a b _ ha => ?_⟩, fun a ha => ?_,
    fun tick h => nomatch h⟩
  · rw [hnone] at ha
    cases ha
  · rw [hnone] at ha
    cases ha

lemma Timed.oldest_isSome (hs : Timed cfg timeout s) (h : (s.inWindow j).isSome = true) :
    (s.inWindow s.txNextAck).isSome = true := by
  have hrange := hs.inRange j h
  rcases hs.oldest with hend | hpresent
  · omega
  · exact hpresent

lemma arrivalAt_eq (h : s'.inWindow j = s.inWindow j) : s'.arrivalAt j = s.arrivalAt j := by
  rw [arrivalAt, arrivalAt, h]

lemma isSome_of_arrivalAt {arrival : Nat} (h : s.arrivalAt j = some arrival) : (s.inWindow j).isSome = true := by
  rw [arrivalAt] at h
  cases hj : s.inWindow j with
  | none =>
    rw [hj] at h
    cases h
  | some elem => rfl

lemma Timed.deadline_le (hs : Timed cfg timeout s) {arrival : Nat} (h : s.arrivalAt j = some arrival) :
    ∃ first, s.arrivalAt s.txNextAck = some first ∧ first ≤ arrival ∧
      s.discardTimer.deadline = some (first + timeout) ∧ s.discardTimer.now ≤ first + timeout := by
  have hpresent := isSome_of_arrivalAt h
  obtain ⟨first, hfirst, -⟩ := hs.arrived _ (hs.oldest_isSome hpresent)
  have hdeadline := hs.deadline first hfirst
  exact ⟨first, hfirst, hs.ordered _ _ _ _ (hs.inRange j hpresent).1 hfirst h, hdeadline, hs.now_le _ hdeadline⟩

lemma Timed.idle (hs : Timed cfg timeout s) (hempty : s.txNextAck = s.txNext) (timer : UniqueTimer)
    (hle : ∀ tick, timer.deadline = some tick → timer.now ≤ tick) :
    Timed cfg timeout { s with discardTimer := timer } := by
  have hnever : ∀ j, ¬(s.inWindow j).isSome = true := by
    intro j h
    have hrange := hs.inRange j h
    omega
  exact { hs with
    arrived := fun j h => absurd h (hnever j)
    deadline := fun arrival h => absurd (isSome_of_arrivalAt (s := s) h) (hnever _)
    now_le := hle }

lemma Timed.empty (hs : Timed cfg timeout s) (hstopped : s.discardTimer.deadline = none) : s.txNextAck = s.txNext := by
  rcases hs.oldest with hempty | hpresent
  · exact hempty
  · obtain ⟨first, hfirst, -⟩ := hs.arrived _ hpresent
    rw [hs.deadline first hfirst] at hstopped
    cases hstopped

section Sdu

variable {buf : List UInt8} {alloc : SduAllocation} {r : HandledSdu} {notified : Bool}

lemma armDiscardTimer_discardTimer (hcfg : cfg.discardTimer = some (.ms timeout)) :
    (s.armDiscardTimer cfg).discardTimer =
      if s.discardTimer.isRunning = true then s.discardTimer else s.discardTimer.start timeout := by
  unfold armDiscardTimer
  rw [hcfg]
  dsimp only
  split <;> rfl

lemma start_deadline (hpos : 0 < timeout) (t : UniqueTimer) : (t.start timeout).deadline = some (t.now + timeout) := by
  unfold UniqueTimer.start
  rw [Nat.max_eq_left hpos]

variable (notified) in
lemma Timed.withSdu_inWindow (hs : Timed cfg timeout s) (hroom : s.txNext - s.txNextAck < cfg.snSize.windowSize) (j : Nat) :
    (s.withSdu cfg buf notified).inWindow j = if j = s.txNext then some (s.windowElement cfg buf) else s.inWindow j := by
  refine (CircularMap.overwrite_find? hs.wellFormed j).trans ?_
  by_cases hj : j = s.txNext
  · rw [if_pos hj, if_pos hj]
  rw [if_neg hj, if_neg hj]
  by_cases hpresent : (s.inWindow j).isSome = true
  · have hrange := hs.inRange j hpresent
    rw [if_neg]
    · rfl
    · intro hslot
      have hdvd : s.txWindow.capacity ∣ s.txNext - j := Nat.dvd_of_mod_eq_zero (Nat.sub_mod_eq_zero_of_mod_eq hslot.symm)
      have hle := Nat.le_of_dvd (by omega) hdvd
      rw [hs.capacity] at hle
      omega
  · have hnone : s.txWindow.find? j = none := Option.not_isSome_iff_eq_none.mp hpresent
    rw [hnone, ite_self]
    exact hnone.symm

lemma Timed.accepted {u : PdcpTxEntity} (hs : Timed cfg timeout s) (hcfg : cfg.discardTimer = some (.ms timeout))
    (hpos : 0 < timeout) (hroom : s.txNext - s.txNextAck < cfg.snSize.windowSize)
    (hidle : s.txNextAck = s.txNext → s.discardTimer.deadline = none ∨
      s.discardTimer.deadline = some (s.discardTimer.now + timeout))
    (hu : u = { s.withSdu cfg buf notified with txNext := s.txNext + 1 }) : Timed cfg timeout u := by
  have hwindow : ∀ j, u.inWindow j = if j = s.txNext then some (s.windowElement cfg buf) else s.inWindow j := by
    rw [hu]
    exact hs.withSdu_inWindow notified hroom
  have hack : u.txNextAck = s.txNextAck := by rw [hu]; rfl
  have hnext : u.txNext = s.txNext + 1 := by rw [hu]
  have htimer : u.discardTimer =
      if s.discardTimer.isRunning = true then s.discardTimer else s.discardTimer.start timeout := by
    rw [hu]
    exact armDiscardTimer_discardTimer hcfg
  have hnow : u.discardTimer.now = s.discardTimer.now := by
    rw [htimer]
    split <;> rfl
  have hkept : ∀ j, j ≠ s.txNext → u.arrivalAt j = s.arrivalAt j :=
    fun j hj => arrivalAt_eq ((hwindow j).trans (if_neg hj))
  have hnew : u.arrivalAt s.txNext = some s.discardTimer.now := by
    rw [arrivalAt, hwindow, if_pos rfl]
    change s.arrivalTick cfg = _
    rw [arrivalTick, hcfg]
  have hle := hs.ack_le
  have hbelow : ∀ j, j ≠ s.txNext → (u.inWindow j).isSome = true → s.txNextAck ≤ j ∧ j < s.txNext := by
    intro j hj h
    rw [hwindow, if_neg hj] at h
    exact hs.inRange j h
  -- The timer is started for the SDU, or it runs for the oldest one already.
  have hdeadline : u.discardTimer.deadline = if s.txNextAck = s.txNext then some (s.discardTimer.now + timeout)
      else s.discardTimer.deadline := by
    rw [htimer]
    cases hstopped : s.discardTimer.deadline with
    | none =>
      have hrunning : s.discardTimer.isRunning = false := by rw [UniqueTimer.isRunning, hstopped]; rfl
      rw [if_pos (hs.empty hstopped), hrunning, if_neg Bool.false_ne_true, start_deadline hpos]
    | some tick =>
      have hrunning : s.discardTimer.isRunning = true := by rw [UniqueTimer.isRunning, hstopped]; rfl
      rw [if_pos hrunning, hstopped]
      split
      case isTrue hempty =>
        rcases hidle hempty with hnone | hsame
        · rw [hnone] at hstopped
          cases hstopped
        · exact hstopped.symm.trans hsame
      case isFalse => rfl
  refine ⟨⟨?_, ?_, ?_, ?_, ?_, ?_, ?_, ?_⟩, ?_, ?_⟩
  · rw [hu]
    exact hs.active
  · rw [hu]
    exact CircularMap.overwrite_wellFormed hs.wellFormed
  · rw [hu]
    exact CircularMap.capacity_overwrite.trans hs.capacity
  · omega
  · intro j hj
    by_cases heq : j = s.txNext
    · omega
    · have hrange := hbelow j heq hj
      omega
  · refine .inr ?_
    rw [hack, hwindow]
    split
    · rfl
    · rcases hs.oldest with hempty | hpresent
      · contradiction
      · exact hpresent
  · intro j hj
    rw [hnow]
    by_cases heq : j = s.txNext
    · rw [heq]
      exact ⟨_, hnew, Nat.le_refl _⟩
    · rw [hkept j heq]
      rw [hwindow, if_neg heq] at hj
      exact hs.arrived j hj
  · intro i j a b hij ha hb
    by_cases hj : j = s.txNext
    · rw [hj, hnew] at hb
      obtain rfl := Option.some.inj hb
      by_cases hi : i = s.txNext
      · rw [hi, hnew] at ha
        exact Nat.le_of_eq (Option.some.inj ha).symm
      · rw [hkept i hi] at ha
        obtain ⟨a', ha', hle'⟩ := hs.arrived i (isSome_of_arrivalAt ha)
        rw [ha] at ha'
        exact Option.some.inj ha' ▸ hle'
    · have hrange := hbelow j hj (isSome_of_arrivalAt hb)
      rw [hkept j hj] at hb
      rw [hkept i (by omega)] at ha
      exact hs.ordered i j a b hij ha hb
  · intro arrival h
    rw [hack] at h
    rw [hdeadline]
    split
    case isTrue hempty =>
      rw [hempty, hnew] at h
      rw [Option.some.inj h]
    case isFalse hne =>
      rw [hkept _ hne] at h
      exact hs.deadline arrival h
  · intro tick h
    rw [hdeadline] at h
    rw [hnow]
    split at h
    case isTrue =>
      rw [← Option.some.inj h]
      exact Nat.le_add_right _ _
    case isFalse => exact hs.now_le tick h

lemma Timed.handleSdu (hs : Timed cfg timeout s) (hcfg : cfg.discardTimer = some (.ms timeout)) (hpos : 0 < timeout)
    (hin : s.SduInTime cfg timeout buf alloc) :
    ∃ r, s.handleSdu cfg buf alloc = .ok r ∧ Timed cfg timeout r.entity := by
  rcases handleSdu_cases cfg s buf alloc with ⟨r, hr, hhandled⟩ | ⟨hpresent, -⟩
  swap
  · have hrange := hs.inRange s.txNext (Option.ne_none_iff_isSome.mp hpresent)
    omega
  refine ⟨r, hr, ?_⟩
  cases hhandled with
  | checked overflow sduBuffer hchecks hentity houtcome =>
    rw [hentity]
    exact { hs with }
  | copyFailed notified hchecks hcopy hentity houtcome =>
    rw [hentity, armDiscardTimer_discardTimer hcfg]
    split
    case isTrue => exact { hs with }
    case isFalse hstopped =>
      have hnone : s.discardTimer.deadline = none := Option.not_isSome_iff_eq_none.mp hstopped
      have hidle := hs.idle (hs.empty hnone) (s.discardTimer.start timeout) fun tick h => by
        rw [start_deadline hpos] at h
        rw [← Option.some.inj h]
        exact Nat.le_add_right _ _
      exact { hidle with }
  | headerFailed notified hchecks hcopy hheader hfree hentity houtcome =>
    rcases hin hchecks with hfails | ⟨hok, -⟩
    · exact absurd hfails hcopy
    · rw [hheader] at hok
      cases hok
  | accepted notified pdu hchecks hcopy hheader hfree hentity houtcome =>
    rcases hin hchecks with hfails | ⟨-, hroom, hidle⟩
    · exact absurd hfails hcopy
    · exact hs.accepted hcfg hpos hroom hidle hentity

end Sdu

section Removal

variable {count : Nat} {named : Nat → Prop}

lemma TimerStopped.timed (h : TimerStopped cfg s count s') (hs : Timed cfg timeout s)
    (hcfg : cfg.discardTimer = some (.ms timeout))
    (hin : count + 1 = s.txNext ∨ ∃ arrival ∈ s.arrivalAt (count + 1), s.discardTimer.now < arrival + timeout) :
    Timed cfg timeout s' := by
  have hrange := h.inRange
  have hack := h.txNextAck_eq
  have hnext := h.same.txNext
  have hkept : ∀ j, (s'.inWindow j).isSome = true → count < j ∧ s'.inWindow j = s.inWindow j := by
    intro j hj
    have heq := h.inWindow_eq j
    split at heq
    case isTrue =>
      rw [heq] at hj
      cases hj
    case isFalse hout =>
      rw [heq] at hj
      have hold := hs.inRange j hj
      exact ⟨by omega, heq⟩
  have hsame : ∀ j, (s'.inWindow j).isSome = true → s'.arrivalAt j = s.arrivalAt j := fun j hj => arrivalAt_eq (hkept j hj).2
  -- The timer is that of the oldest SDU that is left, or it is stopped.
  have htimer : s'.discardTimer.deadline = if count + 1 = s.txNext then none else
      (s.arrivalAt (count + 1)).map (· + timeout) := by
    have hrestarted := h.restarted timeout hcfg
    by_cases hend : count + 1 = s.txNext
    · rw [if_pos hend] at hrestarted
      rw [if_pos hend, hrestarted]
      rfl
    · rw [if_neg hend] at hrestarted
      obtain ⟨elem, arrival, helem, harrival, -, hstart⟩ := hrestarted
      have hat : s.arrivalAt (count + 1) = some arrival := by
        rw [arrivalAt, helem]
        exact harrival
      obtain ⟨arrival', harrival', htime⟩ := hin.resolve_left hend
      rw [hat] at harrival'
      obtain rfl := Option.some.inj harrival'
      rw [if_neg hend, hat, hstart]
      change some (s.discardTimer.now + max (arrival + timeout - s.discardTimer.now) 1) = some (arrival + timeout)
      congr 1
      omega
  refine ⟨⟨?_, ?_, ?_, ?_, ?_, ?_, ?_, ?_⟩, ?_, ?_⟩
  · rw [h.same.stopped]
    exact hs.active
  · exact h.same.wellFormed hs.wellFormed
  · rw [h.same.capacity]
    exact hs.capacity
  · omega
  · intro j hj
    obtain ⟨hlt, heq⟩ := hkept j hj
    rw [heq] at hj
    have hold := hs.inRange j hj
    omega
  · by_cases hend : count + 1 = s.txNext
    · exact .inl (by omega)
    · obtain ⟨arrival, harrival, -⟩ := hin.resolve_left hend
      refine .inr ?_
      rw [hack, h.inWindow_eq, if_neg (by omega)]
      exact isSome_of_arrivalAt harrival
  · intro j hj
    rw [hsame j hj, h.now_eq]
    rw [(hkept j hj).2] at hj
    exact hs.arrived j hj
  · intro i j a b hij ha hb
    rw [hsame i (isSome_of_arrivalAt ha)] at ha
    rw [hsame j (isSome_of_arrivalAt hb)] at hb
    exact hs.ordered i j a b hij ha hb
  · intro arrival harrival
    have hpresent := isSome_of_arrivalAt harrival
    rw [hsame _ hpresent, hack] at harrival
    have hold := hs.inRange _ (isSome_of_arrivalAt harrival)
    rw [htimer, if_neg (by omega), harrival]
    rfl
  · intro tick htick
    rw [htimer] at htick
    rw [h.now_eq]
    split at htick
    case isTrue => cases htick
    case isFalse hend =>
      obtain ⟨arrival, harrival, htime⟩ := hin.resolve_left hend
      rw [show s.arrivalAt (count + 1) = some arrival from harrival] at htick
      rw [← Option.some.inj htick]
      exact Nat.le_of_lt htime

lemma Timed.stopDiscardTimer (hs : Timed cfg timeout s) (hcfg : cfg.discardTimer = some (.ms timeout))
    (hin : s.NotifiedInTime cfg timeout count) : ∃ s', s.stopDiscardTimer cfg count = .ok s' ∧ Timed cfg timeout s' := by
  by_cases heffect : StopsTimers cfg s count
  · have hin' := hin heffect
    obtain ⟨s', hs'⟩ := stopDiscardTimer_isOk hcfg heffect (hin'.imp_right fun ⟨arrival, harrival, htime⟩ => by
      obtain ⟨elem, helem⟩ := Option.isSome_iff_exists.mp (isSome_of_arrivalAt harrival)
      have htick : elem.tickPointOfArrival = some arrival := by
        have hat : s.arrivalAt (count + 1) = some arrival := harrival
        rw [arrivalAt, helem] at hat
        exact hat
      exact ⟨elem, arrival, helem, htick, Nat.le_of_lt htime⟩)
    exact ⟨s', hs', (stopDiscardTimer_spec heffect hs').timed hs hcfg hin'⟩
  · exact ⟨s, stopDiscardTimer_ignored heffect, hs⟩

lemma Swept.arrivalAt_eq (h : Swept s named s') (hj : (s'.inWindow j).isSome = true) : s'.arrivalAt j = s.arrivalAt j := by
  obtain ⟨elem, helem⟩ := Option.isSome_iff_exists.mp hj
  apply PdcpTxEntity.arrivalAt_eq
  rw [helem, h.present helem]

lemma Swept.queued (h : Swept s named s') (hs : Queued cfg s) : Queued cfg s' := by
  have hold : ∀ j, (s'.inWindow j).isSome = true → (s.inWindow j).isSome = true := by
    intro j hj
    obtain ⟨elem, helem⟩ := Option.isSome_iff_exists.mp hj
    exact Option.isSome_iff_exists.mpr ⟨elem, h.present helem⟩
  constructor
  · rw [h.same.stopped]
    exact hs.active
  · exact h.same.wellFormed hs.wellFormed
  · rw [h.same.capacity]
    exact hs.capacity
  · rw [h.same.txNext]
    exact h.le_txNext hs.ack_le
  · intro j hj
    have hrange := hs.inRange j (hold j hj)
    refine ⟨?_, h.same.txNext.symm ▸ hrange.2⟩
    by_contra hlt
    rw [h.passed j hrange.1 (Nat.not_le.mp hlt)] at hj
    cases hj
  · exact h.oldest hs.oldest
  · intro j hj
    rw [h.arrivalAt_eq hj, h.discardTimer_eq]
    exact hs.arrived j (hold j hj)
  · intro i j a b hij ha hb
    rw [h.arrivalAt_eq (isSome_of_arrivalAt ha)] at ha
    rw [h.arrivalAt_eq (isSome_of_arrivalAt hb)] at hb
    exact hs.ordered i j a b hij ha hb

lemma Swept.timed (h : Swept s named s') (hs : Timed cfg timeout s)
    (hin : (s'.inWindow s'.txNextAck).isSome = true → s.arrivalAt s'.txNextAck = s.arrivalAt s.txNextAck) :
    Timed cfg timeout s' where
  toQueued := h.queued hs.toQueued
  deadline := by
    intro arrival harrival
    have hpresent := isSome_of_arrivalAt harrival
    rw [h.arrivalAt_eq hpresent, hin hpresent] at harrival
    rw [h.discardTimer_eq]
    exact hs.deadline arrival harrival
  now_le := by
    rw [h.discardTimer_eq]
    exact hs.now_le

lemma Timed.handleStatusReport (hs : Timed cfg timeout s) (htimer : cfg.discardTimer.isSome = true) {status : List UInt8}
    (hin : s.ReportInTime status) : Timed cfg timeout (s.handleStatusReport cfg status).1 := by
  have hswept := handleStatusReport_swept htimer status s
  apply hswept.timed hs
  intro hpresent
  obtain ⟨elem, helem⟩ := Option.isSome_iff_exists.mp hpresent
  have hold : (s.inWindow (s.handleStatusReport cfg status).1.txNextAck).isSome = true :=
    Option.isSome_iff_exists.mpr ⟨elem, hswept.present helem⟩
  have hrange := hs.inRange _ hold
  refine hin _ hrange.2 ⟨hold, fun hnamed => ?_, fun i hi hpresent' => ?_⟩
  · rw [hswept.gone _ hrange.1 hrange.2 hnamed] at hpresent
    cases hpresent
  · by_contra hkept
    have hge := (hs.inRange i hpresent').1
    have hsame := hswept.kept i fun h => hkept h.2.2
    rw [hswept.passed i hge hi] at hsame
    rw [← hsame] at hpresent'
    cases hpresent'

end Removal

section Expiry

variable {counts : List Nat} {oldest : Nat}

lemma Expired.timed (h : Expired { s with discardTimer := s.discardTimer.stop } oldest s' counts) (hs : Timed cfg timeout s)
    (hnow : s.discardTimer.now = oldest + timeout) : Timed cfg timeout s' := by
  have hstopped : Queued cfg { s with discardTimer := s.discardTimer.stop } := { hs.toQueued with }
  have hqueued := h.swept.queued hstopped
  have hnow' : s'.discardTimer.now = s.discardTimer.now := by
    rcases h.rest with ⟨heq, -⟩ | ⟨_, _, _, _, _, heq⟩
    · rw [heq]
      rfl
    · rw [heq]
      rfl
  have hqueued' : Queued cfg s' := { hqueued with arrived := fun j hj => hnow' ▸ hqueued.arrived j hj }
  rcases h.rest with ⟨htimer, hend⟩ | ⟨elem, arrival, helem, harrival, hlater, htimer⟩
  · refine ⟨hqueued', fun arrival harrival => ?_, fun tick htick => ?_⟩
    · have hpresent := isSome_of_arrivalAt harrival
      have hrange := hqueued'.inRange _ hpresent
      rcases hend with hnone | hend
      · rw [hnone] at hpresent
        cases hpresent
      · omega
    · rw [htimer] at htick
      cases htick
  · have hdeadline : s'.discardTimer.deadline = some (arrival + timeout) := by
      rw [htimer]
      change some (s.discardTimer.now + max (arrival - oldest) 1) = _
      congr 1
      omega
    refine ⟨hqueued', fun arrival' harrival' => ?_, fun tick htick => ?_⟩
    · rw [arrivalAt, helem] at harrival'
      rw [hdeadline, ← Option.some.inj (harrival.symm.trans harrival')]
    · rw [hdeadline] at htick
      rw [← Option.some.inj htick, hnow', hnow]
      omega

/-- An expiry discards the SDUs whose time is up, and the timer runs for the oldest one of the others. -/
lemma Timed.discardCallback (hs : Timed cfg timeout s) (htimer : cfg.discardTimer.isSome = true)
    (hdue : s.discardTimer.Due) : ∃ s' counts,
      ({ s with discardTimer := s.discardTimer.stop } : PdcpTxEntity).discardCallback cfg = .ok (s', counts) ∧
      Timed cfg timeout s' ∧ ∀ count ∈ counts, ∃ elem arrival, s.inWindow count = some elem ∧
        elem.tickPointOfArrival = some arrival ∧ s.discardTimer.now = arrival + timeout := by
  have hempty : s.inWindow s.txNextAck = none → s.txNextAck = s.txNext := by
    intro hnone
    rcases hs.oldest with hend | hpresent
    · exact hend
    · rw [hnone] at hpresent
      cases hpresent
  rcases discardCallback_cases htimer ({ s with discardTimer := s.discardTimer.stop } : PdcpTxEntity) with
    ⟨hidle, hok⟩ | ⟨oldest, s', counts, hok, ⟨first, hfirst, harrived⟩, hexpired⟩ | ⟨hpresent, hnot, -⟩
  · refine ⟨_, _, hok, ?_, fun _ h => absurd h List.not_mem_nil⟩
    have hend : s.txNextAck = s.txNext := by
      rcases hidle with hstopped | hnone
      · have hactive := hs.active
        rw [show s.stopped = true from hstopped] at hactive
        cases hactive
      · exact hempty hnone
    exact hs.idle hend _ fun tick h => nomatch h
  · have hold : s.arrivalAt s.txNextAck = some oldest := by
      rw [arrivalAt, show s.inWindow s.txNextAck = some first from hfirst]
      exact harrived
    have hnow : s.discardTimer.now = oldest + timeout := by
      have hdeadline := hs.deadline oldest hold
      rw [UniqueTimer.Due, hdeadline] at hdue
      exact (Option.some.inj hdue).symm
    refine ⟨s', counts, hok, hexpired.timed hs hnow, fun count hcount => ?_⟩
    obtain ⟨elem, helem, harrival⟩ := hexpired.arrived count hcount
    exact ⟨elem, oldest, helem, harrival, hnow⟩
  · exfalso
    obtain ⟨arrival, harrival, -⟩ := hs.arrived _ hpresent
    obtain ⟨elem, helem⟩ := Option.isSome_iff_exists.mp hpresent
    refine hnot arrival ⟨elem, helem, ?_⟩ fun j elem' hj => ?_
    · rw [arrivalAt, show s.inWindow s.txNextAck = some elem from helem] at harrival
      exact harrival
    · have hj' : s.inWindow j = some elem' := hj
      have hsome : (s.inWindow j).isSome = true := Option.isSome_iff_exists.mpr ⟨elem', hj'⟩
      obtain ⟨arrival', harrival', -⟩ := hs.arrived j hsome
      refine ⟨arrival', ?_, hs.ordered _ _ _ _ (hs.inRange j hsome).1 harrival harrival'⟩
      rw [arrivalAt, hj'] at harrival'
      exact harrival'

end Expiry

section Notification

variable {sn : Nat}

lemma Timed.handleTransmitNotification (hs : Timed cfg timeout s) (hcfg : cfg.discardTimer = some (.ms timeout))
    (hin : s.TakesTransmit (s.notificationCountEstimation cfg sn) → cfg.isUm = true →
      s.NotifiedInTime cfg timeout (s.notificationCountEstimation cfg sn)) :
    ∃ s', s.handleTransmitNotification cfg sn = .ok s' ∧ Timed cfg timeout s' := by
  unfold PdcpTxEntity.handleTransmitNotification
  dsimp only
  generalize s.notificationCountEstimation cfg sn = count at hin ⊢
  by_cases hinvalid : s.stopped = true ∨ cfg.snSize.cardinality ≤ sn
  · rw [if_pos hinvalid]
    exact ⟨s, rfl, hs⟩
  rw [if_neg hinvalid]
  by_cases hout : s.txTransCrypto ≤ count ∨ count < s.txTrans ∨ s.txNext ≤ count
  · rw [if_pos hout]
    exact ⟨s, rfl, hs⟩
  rw [if_neg hout]
  have hmoved : Timed cfg timeout { s with txTrans := count + 1 } := { hs with }
  by_cases hum : cfg.discardTimer.isSome = true ∧ cfg.isUm = true
  · rw [if_pos hum]
    exact hmoved.stopDiscardTimer hcfg (hin ⟨hs.active, by omega⟩ hum.2)
  · rw [if_neg hum]
    exact ⟨_, rfl, hmoved⟩

lemma Timed.handleDeliveryNotification (hs : Timed cfg timeout s) (hcfg : cfg.discardTimer = some (.ms timeout))
    (hin : cfg.isAm = true → s.NotifiedInTime cfg timeout (s.notificationCountEstimation cfg sn)) :
    ∃ s', s.handleDeliveryNotification cfg sn = .ok s' ∧ Timed cfg timeout s' := by
  unfold PdcpTxEntity.handleDeliveryNotification
  dsimp only
  generalize s.notificationCountEstimation cfg sn = count at hin ⊢
  split_ifs with hinvalid hout ham
  · exact ⟨s, rfl, hs⟩
  · exact ⟨s, rfl, hs⟩
  · exact hs.stopDiscardTimer hcfg (hin ham.2)
  · exact ⟨s, rfl, hs⟩

end Notification

end PdcpTxEntity

namespace PdcpTxRun

open PdcpTxEntity

variable {cfg : PdcpTxConfig} {timeout : Nat} {s : PdcpTxRun} {e : PdcpTxEvent}

structure Ok (cfg : PdcpTxConfig) (timeout : Nat) (s : PdcpTxRun) : Prop where
  timed : Timed cfg timeout s.entity
  discards : ∀ d ∈ s.discards, ∃ arrival, d.elem.tickPointOfArrival = some arrival ∧ d.tick = arrival + timeout

lemma Ok.onTime (hs : s.Ok cfg timeout) : s.OnTime timeout where
  discards := hs.discards
  waiting := by
    intro j elem hj
    have hpresent : (s.entity.inWindow j).isSome = true := Option.isSome_iff_exists.mpr ⟨elem, hj⟩
    obtain ⟨arrival, harrival, -⟩ := hs.timed.arrived j hpresent
    obtain ⟨first, -, hle, hdeadline, hnow⟩ := hs.timed.deadline_le harrival
    refine ⟨arrival, ?_, by omega, fun hend => ?_⟩
    · rw [arrivalAt, hj] at harrival
      exact harrival
    · rw [UniqueTimer.Due, hdeadline]
      congr 1
      omega
  running := by
    rintro ⟨j, hpresent⟩
    obtain ⟨arrival, harrival, -⟩ := hs.timed.arrived j hpresent
    obtain ⟨first, -, -, hdeadline, -⟩ := hs.timed.deadline_le harrival
    rw [UniqueTimer.isRunning, hdeadline]
    rfl

lemma Ok.step (hs : s.Ok cfg timeout) (hcfg : cfg.discardTimer = some (.ms timeout)) (hpos : 0 < timeout)
    (hin : s.InTime cfg timeout e) : ∃ s', s.step cfg e = .ok s' ∧ s'.Ok cfg timeout := by
  have htimed := hs.timed
  have htimer : cfg.discardTimer.isSome = true := by rw [hcfg]; rfl
  cases e with
  | sdu buf alloc =>
    obtain ⟨r, hr, hr'⟩ := htimed.handleSdu hcfg hpos hin
    exact ⟨_, map_eq_ok.mpr ⟨r, hr, rfl⟩, hr', hs.discards⟩
  | transmitNotification sn =>
    obtain ⟨t, ht, ht'⟩ := htimed.handleTransmitNotification hcfg hin
    exact ⟨_, map_eq_ok.mpr ⟨t, ht, rfl⟩, ht', hs.discards⟩
  | deliveryNotification sn =>
    obtain ⟨t, ht, ht'⟩ := htimed.handleDeliveryNotification hcfg hin
    exact ⟨_, map_eq_ok.mpr ⟨t, ht, rfl⟩, ht', hs.discards⟩
  | statusReport status => exact ⟨_, rfl, htimed.handleStatusReport htimer hin, hs.discards⟩
  | desiredBufferSizeNotification desiredBs =>
    refine ⟨_, rfl, ?_, hs.discards⟩
    dsimp only
    split
    · exact htimed
    · exact { htimed with }
  | configureSecurity integrityEnabled => exact ⟨_, rfl, { htimed with }, hs.discards⟩
  | reorderCrypto count => exact ⟨_, rfl, { htimed with }, hs.discards⟩
  | tick =>
    unfold PdcpTxRun.step
    dsimp only
    by_cases hdue : s.entity.discardTimer.Due
    · rw [if_pos hdue]
      exact ⟨s, rfl, hs⟩
    · rw [if_neg hdue]
      refine ⟨_, rfl, { htimed with arrived := fun j hj => ?_, now_le := fun tick htick => ?_ }, hs.discards⟩
      · obtain ⟨arrival, harrival, hle⟩ := htimed.arrived j hj
        exact ⟨arrival, harrival, Nat.le_succ_of_le hle⟩
      · have hle := htimed.now_le tick htick
        refine Nat.lt_of_le_of_ne hle fun heq => hdue ?_
        rw [UniqueTimer.Due, heq]
        exact htick
  | expiry =>
    unfold PdcpTxRun.step
    dsimp only
    by_cases hdue : s.entity.discardTimer.Due
    · rw [if_pos hdue]
      obtain ⟨entity, counts, hok, htimed', hcounts⟩ := htimed.discardCallback htimer hdue
      refine ⟨⟨entity, s.discards ++ s.discardsOf counts⟩, ?_, htimed', fun d hd => ?_⟩
      · unfold expire
        rw [hok]
        rfl
      · rcases List.mem_append.mp hd with hd | hd
        · exact hs.discards d hd
        · obtain ⟨count, hcount, hd⟩ := List.mem_filterMap.mp hd
          obtain ⟨elem, helem, rfl⟩ := Option.map_eq_some_iff.mp hd
          obtain ⟨elem', arrival, helem', harrival, hnow⟩ := hcounts count hcount
          rw [helem] at helem'
          obtain rfl := Option.some.inj helem'
          exact ⟨arrival, harrival, hnow⟩
    · rw [if_neg hdue]
      exact ⟨s, rfl, hs⟩

end PdcpTxRun

open PdcpTxEntity PdcpTxRun

/-- In a run whose steps leave the timer to the oldest SDU, every SDU that the timer discards is discarded when its time
is up, none stays longer, and the timer runs while there is an SDU. No step aborts. -/
theorem discard_timing (cfg : PdcpTxConfig) (timeout : Nat) (hcfg : cfg.discardTimer = some (.ms timeout))
    (hpos : 0 < timeout) (now : Nat) (es : List PdcpTxEvent)
    (hruns : RunsWithin (step cfg) (InTime cfg timeout) (.start cfg now) es) :
    HoldsThroughout (step cfg) (OnTime timeout) (.start cfg now) es ∧
      RunsWithin (step cfg) (fun s e => ∃ s', s.step cfg e = .ok s') (.start cfg now) es := by
  refine runsWithin_establishes (Ok cfg timeout) (fun s hs => hs.onTime) ?_ ?_ ?_ hruns
  · intro s e s' hs hin hstep
    obtain ⟨t, ht, hok⟩ := hs.step hcfg hpos hin
    rw [ht] at hstep
    exact Except.ok.inj hstep ▸ hok
  · intro s e hs hin
    obtain ⟨t, ht, -⟩ := hs.step hcfg hpos hin
    exact ⟨t, ht⟩
  · exact ⟨timed_start cfg timeout now, fun d hd => absurd hd List.not_mem_nil⟩

/-- The first SDU is delivered, and the second one, which arrived at the tick 2, is discarded at the tick 12. -/
theorem discard_timing_delivered :
    let cfg : PdcpTxConfig := ⟨.drb, .am, .size12bits, some (.ms 10), ⟨0xc0000000, 0xfffffffe⟩⟩
    let es : List PdcpTxEvent := [.desiredBufferSizeNotification 100, .sdu [1] ⟨true, true⟩, .tick, .tick,
      .sdu [2] ⟨true, true⟩, .deliveryNotification 0] ++ List.replicate 10 .tick ++ [.expiry]
    HoldsThroughout (step cfg) (OnTime 10) (.start cfg 0) es ∧
      ∃ s, runEvents (step cfg) (.start cfg 0) es = .ok s ∧ s.discards = [⟨⟨[2], 1, some 2, 1⟩, 12⟩] := by
  intro cfg es
  exact ⟨(discard_timing cfg 10 rfl (by decide) 0 es (by decide +kernel)).1, by decide +kernel⟩

/-- Two SDUs arrive at the ticks 0 and 5. A status report names the first one, and the second one is discarded at the
tick 10. -/
theorem discard_early :
    let cfg : PdcpTxConfig := ⟨.drb, .am, .size12bits, some (.ms 10), ⟨0xc0000000, 0xfffffffe⟩⟩
    let ticks := List.replicate 5 PdcpTxEvent.tick
    ∃ s, runEvents (step cfg) (.start cfg 0) ([.desiredBufferSizeNotification 100, .sdu [1] ⟨true, true⟩] ++ ticks ++
      [.sdu [2] ⟨true, true⟩, .statusReport [0, 0, 0, 0, 1]] ++ ticks ++ [.expiry]) = .ok s ∧
      s.discards = [⟨⟨[2], 1, some 5, 1⟩, 10⟩] := by
  decide +kernel

end OwlsRan.Pdcp
