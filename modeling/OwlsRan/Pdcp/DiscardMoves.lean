import OwlsRan.Pdcp.PdcpEntityTx

/-!
# What the operations on the transmission window do

Each operation takes SDUs out of the window and moves its edges.
-/

namespace OwlsRan.Pdcp
open OwlsRan.Lib OwlsRan.Rlc OwlsRan.Adt OwlsRan.Support

namespace PdcpTxEntity

variable {cfg : PdcpTxConfig} {s s' t : PdcpTxEntity} {count j n highestCount : Nat} {named named' : Nat → Prop}

def inWindow (s : PdcpTxEntity) (count : Nat) : Option PdcpTxWindowElement := s.txWindow.find? count

lemma hasSn_eq_false : SduWindow.hasSn s.txWindow count = false ↔ s.inWindow count = none := SduWindow.hasSn_eq_false_iff

lemma hasSn_eq_true : SduWindow.hasSn s.txWindow count = true ↔ ∃ elem, s.inWindow count = some elem :=
  SduWindow.hasSn_iff

structure SameControl (s s' : PdcpTxEntity) : Prop where
  txNext : s'.txNext = s.txNext
  txTransCrypto : s'.txTransCrypto = s.txTransCrypto
  desiredBufferSize : s'.desiredBufferSize = s.desiredBufferSize
  maxCountOverflow : s'.maxCountOverflow = s.maxCountOverflow
  stopped : s'.stopped = s.stopped
  buffering : s'.buffering = s.buffering
  capacity : s'.txWindow.capacity = s.txWindow.capacity
  wellFormed : s.txWindow.WellFormed → s'.txWindow.WellFormed

lemma SameControl.refl (s : PdcpTxEntity) : SameControl s s := ⟨rfl, rfl, rfl, rfl, rfl, rfl, rfl, id⟩

lemma SameControl.trans (h : SameControl s t) (h' : SameControl t s') : SameControl s s' where
  txNext := h'.txNext.trans h.txNext
  txTransCrypto := h'.txTransCrypto.trans h.txTransCrypto
  desiredBufferSize := h'.desiredBufferSize.trans h.desiredBufferSize
  maxCountOverflow := h'.maxCountOverflow.trans h.maxCountOverflow
  stopped := h'.stopped.trans h.stopped
  buffering := h'.buffering.trans h.buffering
  capacity := h'.capacity.trans h.capacity
  wellFormed := h'.wellFormed ∘ h.wellFormed

lemma sameControl_discardTimer (s : PdcpTxEntity) (timer : UniqueTimer) : SameControl s { s with discardTimer := timer } :=
  ⟨rfl, rfl, rfl, rfl, rfl, rfl, rfl, id⟩

lemma sameControl_edges (s : PdcpTxEntity) (nextAck trans : Nat) :
    SameControl s { s with txNextAck := nextAck, txTrans := trans } := ⟨rfl, rfl, rfl, rfl, rfl, rfl, rfl, id⟩

section Removal

@[simp] lemma removeSdu_inWindow (j : Nat) :
    (s.removeSdu count).inWindow j = if j = count then none else s.inWindow j := by
  unfold removeSdu inWindow
  split
  case h_1 hnone =>
    split
    case isTrue hj =>
      rw [hj]
      exact hnone
    case isFalse => rfl
  case h_2 => exact CircularMap.erase_find? j

lemma sameControl_removeSdu (s : PdcpTxEntity) (count : Nat) : SameControl s (s.removeSdu count) := by
  unfold removeSdu
  split
  · exact SameControl.refl s
  · exact ⟨rfl, rfl, rfl, rfl, rfl, rfl, CircularMap.capacity_erase, CircularMap.erase_wellFormed⟩

@[simp] lemma removeSdu_txNextAck : (s.removeSdu count).txNextAck = s.txNextAck := by
  unfold removeSdu
  split <;> rfl

@[simp] lemma removeSdu_txTrans : (s.removeSdu count).txTrans = s.txTrans := by
  unfold removeSdu
  split <;> rfl

@[simp] lemma removeSdu_discardTimer : (s.removeSdu count).discardTimer = s.discardTimer := by
  unfold removeSdu
  split <;> rfl

lemma sameControl_passOldest (s : PdcpTxEntity) : SameControl s s.passOldest :=
  (sameControl_removeSdu s s.txNextAck).trans (sameControl_edges _ _ _)

lemma passOldest_spec (s : PdcpTxEntity) : s.passOldest.txNextAck = s.txNextAck + 1 ∧ s.passOldest.txTrans = s.txTrans ∧
    s.passOldest.discardTimer = s.discardTimer ∧
    ∀ j, s.passOldest.inWindow j = if j = s.txNextAck then none else s.inWindow j :=
  ⟨congrArg (· + 1) removeSdu_txNextAck, removeSdu_txTrans, removeSdu_discardTimer, removeSdu_inWindow⟩

lemma removeUpTo_spec (n : Nat) (s : PdcpTxEntity) : SameControl s (removeUpTo n s) ∧
    (removeUpTo n s).txNextAck = s.txNextAck + n ∧ (removeUpTo n s).txTrans = s.txTrans ∧
    (removeUpTo n s).discardTimer = s.discardTimer ∧ ∀ j, (removeUpTo n s).inWindow j =
      if s.txNextAck ≤ j ∧ j < s.txNextAck + n then none else s.inWindow j := by
  induction n generalizing s with
  | zero =>
    refine ⟨SameControl.refl s, rfl, rfl, rfl, fun j => ?_⟩
    rw [if_neg (by omega)]
    rfl
  | succ n ih =>
    obtain ⟨hack', htrans', htimer', hwindow'⟩ := passOldest_spec s
    obtain ⟨hsame, hack, htrans, htimer, hwindow⟩ := ih s.passOldest
    unfold removeUpTo
    refine ⟨(sameControl_passOldest s).trans hsame, ?_, htrans.trans htrans', htimer.trans htimer', fun j => ?_⟩
    · rw [hack, hack']
      omega
    · rw [hwindow, hwindow', hack']
      split_ifs <;> first | rfl | omega

end Removal

/-- A notification has stopped the discard timers of the SDUs up to a COUNT, and the timer runs for the oldest SDU that
is left, if it is finite. -/
structure TimerStopped (cfg : PdcpTxConfig) (s : PdcpTxEntity) (highestCount : Nat) (s' : PdcpTxEntity) : Prop where
  same : SameControl s s'
  inRange : s.txNextAck ≤ highestCount ∧ highestCount < s.txNext
  present : ∃ elem, s.inWindow s.txNextAck = some elem
  inWindow_eq : ∀ j, s'.inWindow j = if s.txNextAck ≤ j ∧ j ≤ highestCount then none else s.inWindow j
  txNextAck_eq : s'.txNextAck = highestCount + 1
  txTrans_eq : s'.txTrans = max s.txTrans (highestCount + 1)
  now_eq : s'.discardTimer.now = s.discardTimer.now
  restarted : ∀ timeout, cfg.discardTimer = some (.ms timeout) → if highestCount + 1 = s.txNext then
    s'.discardTimer = s.discardTimer.stop else ∃ elem arrival, s.inWindow (highestCount + 1) = some elem ∧
      elem.tickPointOfArrival = some arrival ∧ s.discardTimer.now ≤ arrival + timeout ∧
      s'.discardTimer = s.discardTimer.start (arrival + timeout - s.discardTimer.now)

lemma oldestArrival_eq_ok {arrival : Nat} : s.oldestArrival = .ok arrival ↔
    ∃ elem, s.inWindow s.txNextAck = some elem ∧ elem.tickPointOfArrival = some arrival := by
  unfold oldestArrival SduWindow.atSn
  change _ ↔ ∃ elem, s.txWindow.find? s.txNextAck = some elem ∧ _
  cases hfind : s.txWindow.find? s.txNextAck with
  | none =>
    constructor
    · intro h
      cases h
    · rintro ⟨_, h, -⟩
      cases h
  | some elem =>
    dsimp only [bind, Except.bind, Except.mapError]
    cases htick : elem.tickPointOfArrival with
    | none =>
      constructor
      · intro h
        cases h
      · rintro ⟨_, h, harrival⟩
        rw [← Option.some.inj h, htick] at harrival
        cases harrival
    | some tick =>
      constructor
      · intro h
        exact ⟨elem, rfl, htick.trans (congrArg some (Except.ok.inj h))⟩
      · rintro ⟨_, h, harrival⟩
        rw [← Option.some.inj h, htick] at harrival
        exact congrArg Except.ok (Option.some.inj harrival)

/-- A notification takes effect for a COUNT in the window, if the oldest SDU of the window is there. -/
def StopsTimers (cfg : PdcpTxConfig) (s : PdcpTxEntity) (highestCount : Nat) : Prop :=
  cfg.discardTimer.isSome = true ∧ s.txNextAck ≤ highestCount ∧ highestCount < s.txNext ∧
    (s.inWindow s.txNextAck).isSome = true

instance (cfg : PdcpTxConfig) (s : PdcpTxEntity) (highestCount : Nat) : Decidable (StopsTimers cfg s highestCount) :=
  inferInstanceAs (Decidable (_ ∧ _ ∧ _ ∧ _))

lemma stopDiscardTimer_ignored (h : ¬StopsTimers cfg s highestCount) : s.stopDiscardTimer cfg highestCount = .ok s := by
  unfold stopDiscardTimer
  cases htimer : cfg.discardTimer with
  | none => rfl
  | some timer =>
    dsimp only
    by_cases hout : highestCount < s.txNextAck ∨ s.txNext ≤ highestCount
    · rw [if_pos hout]
    · rw [if_neg hout]
      have habsent : SduWindow.hasSn s.txWindow s.txNextAck = false := by
        rw [hasSn_eq_false, ← Option.not_isSome_iff_eq_none]
        intro hpresent
        exact h ⟨by rw [htimer]; rfl, by omega, by omega, hpresent⟩
      rw [if_pos habsent]

lemma stopDiscardTimer_spec (heffect : StopsTimers cfg s highestCount) (h : s.stopDiscardTimer cfg highestCount = .ok s') :
    TimerStopped cfg s highestCount s' := by
  obtain ⟨hsome, hge, hlt, hoccupied⟩ := heffect
  have hpresent := Option.isSome_iff_exists.mp hoccupied
  obtain ⟨timer, htimer⟩ := Option.isSome_iff_exists.mp hsome
  unfold stopDiscardTimer at h
  rw [htimer] at h
  dsimp only at h
  have hsn : ¬SduWindow.hasSn s.txWindow s.txNextAck = false := by
    rw [hasSn_eq_true.mpr hpresent]
    exact Bool.noConfusion
  rw [if_neg (by omega), if_neg hsn] at h
  obtain ⟨hsame, hack, htrans, hstopped, hwindow⟩ :=
    removeUpTo_spec (highestCount + 1 - s.txNextAck) { s with discardTimer := s.discardTimer.stop }
  generalize hu : removeUpTo (highestCount + 1 - s.txNextAck) { s with discardTimer := s.discardTimer.stop } = u at *
  have hsame' : SameControl s u := (sameControl_discardTimer s s.discardTimer.stop).trans hsame
  have hack' : u.txNextAck = highestCount + 1 := by
    rw [hack]
    change s.txNextAck + (highestCount + 1 - s.txNextAck) = _
    omega
  have hwindow' : ∀ j, u.inWindow j = if s.txNextAck ≤ j ∧ j ≤ highestCount then none else s.inWindow j := by
    intro j
    rw [hwindow]
    change (if s.txNextAck ≤ j ∧ j < s.txNextAck + (highestCount + 1 - s.txNextAck) then none else s.inWindow j) = _
    split_ifs <;> first | rfl | omega
  have htrans' : max u.txTrans u.txNextAck = max s.txTrans (highestCount + 1) := by rw [htrans, hack']
  -- The entity is the same but for its timer, whether or not that is started anew.
  have hbase : ∀ timer', (timer'.now = s.discardTimer.now) → (∀ timeout, cfg.discardTimer = some (.ms timeout) → _) →
      TimerStopped cfg s highestCount
        { u with txTrans := max u.txTrans u.txNextAck, discardTimer := timer' } := fun timer' hnow hrestarted =>
    { same := hsame'.trans ⟨rfl, rfl, rfl, rfl, rfl, rfl, rfl, id⟩
      inRange := ⟨hge, hlt⟩
      present := hpresent
      inWindow_eq := hwindow'
      txNextAck_eq := hack'
      txTrans_eq := htrans'
      now_eq := hnow
      restarted := hrestarted }
  cases timer with
  | infinity =>
    obtain rfl := Except.ok.inj h
    refine (hbase u.discardTimer (by rw [hstopped]; rfl) fun timeout hms => ?_)
    rw [htimer] at hms
    cases hms
  | ms timeout =>
    dsimp only at h
    by_cases hend : u.txNextAck = u.txNext
    · rw [if_pos hend] at h
      obtain rfl := Except.ok.inj h
      refine (hbase u.discardTimer (by rw [hstopped]; rfl) fun timeout' hms => ?_)
      rw [hack', hsame'.txNext] at hend
      rw [if_pos hend]
      exact hstopped
    · rw [if_neg hend] at h
      obtain ⟨arrival, harrival, h⟩ := bind_eq_ok.mp h
      obtain ⟨elem, helem, htick⟩ := oldestArrival_eq_ok.mp harrival
      by_cases hlate : arrival + timeout < u.discardTimer.now
      · rw [if_pos hlate] at h
        cases h
      rw [if_neg hlate] at h
      obtain rfl := Except.ok.inj h
      have hnow : u.discardTimer.now = s.discardTimer.now := by rw [hstopped]; rfl
      refine (hbase _ hnow fun timeout' hms => ?_)
      rw [htimer] at hms
      cases hms
      rw [hack', hsame'.txNext] at hend
      rw [if_neg hend]
      have helem' : s.inWindow (highestCount + 1) = some elem := by
        have hnext : u.inWindow (highestCount + 1) = s.inWindow (highestCount + 1) := by
          rw [hwindow', if_neg (by omega)]
        rw [← hnext, ← hack']
        exact helem
      refine ⟨elem, arrival, helem', htick, by omega, ?_⟩
      rw [UniqueTimer.start, UniqueTimer.start, hstopped]
      rfl

/-- A notification does not abort if the window is empty after it, or its oldest SDU is there and is not late. -/
lemma stopDiscardTimer_isOk {timeout : Nat} (htimer : cfg.discardTimer = some (.ms timeout))
    (heffect : StopsTimers cfg s highestCount) (hnext : highestCount + 1 = s.txNext ∨
      ∃ elem arrival, s.inWindow (highestCount + 1) = some elem ∧ elem.tickPointOfArrival = some arrival ∧
        s.discardTimer.now ≤ arrival + timeout) : ∃ s', s.stopDiscardTimer cfg highestCount = .ok s' := by
  obtain ⟨-, hge, hlt, hoccupied⟩ := heffect
  unfold stopDiscardTimer
  rw [htimer]
  dsimp only
  have hsn : ¬SduWindow.hasSn s.txWindow s.txNextAck = false := by
    rw [hasSn_eq_true.mpr (Option.isSome_iff_exists.mp hoccupied)]
    exact Bool.noConfusion
  rw [if_neg (by omega), if_neg hsn]
  obtain ⟨hsame, hack, -, hstopped, hwindow⟩ :=
    removeUpTo_spec (highestCount + 1 - s.txNextAck) { s with discardTimer := s.discardTimer.stop }
  generalize removeUpTo (highestCount + 1 - s.txNextAck) { s with discardTimer := s.discardTimer.stop } = u at *
  have hack' : u.txNextAck = highestCount + 1 := by
    rw [hack]
    change s.txNextAck + (highestCount + 1 - s.txNextAck) = _
    omega
  by_cases hend : u.txNextAck = u.txNext
  · rw [if_pos hend]
    exact ⟨_, rfl⟩
  rw [if_neg hend]
  have hnext' : highestCount + 1 ≠ s.txNext := by
    rw [← hack', show s.txNext = u.txNext from hsame.txNext.symm]
    exact hend
  obtain ⟨elem, arrival, helem, harrival, htime⟩ := hnext.resolve_left hnext'
  have hold : ({ u with txTrans := max u.txTrans u.txNextAck } : PdcpTxEntity).oldestArrival = .ok arrival := by
    refine oldestArrival_eq_ok.mpr ⟨elem, ?_, harrival⟩
    change u.inWindow u.txNextAck = some elem
    rw [hack', hwindow, if_neg]
    · exact helem
    · change ¬(_ ∧ highestCount + 1 < s.txNextAck + (highestCount + 1 - s.txNextAck))
      omega
  rw [hold]
  have hnow : u.discardTimer.now = s.discardTimer.now := by rw [hstopped]; rfl
  exact ⟨_, if_neg (by rw [hnow]; omega)⟩

lemma stopDiscardTimer_cases (h : s.stopDiscardTimer cfg highestCount = .ok s') :
    s' = s ∨ TimerStopped cfg s highestCount s' := by
  by_cases heffect : StopsTimers cfg s highestCount
  · exact .inr (stopDiscardTimer_spec heffect h)
  · rw [stopDiscardTimer_ignored heffect] at h
    exact .inl (Except.ok.inj h).symm

lemma stopDiscardTimer_txTrans_le (h : s.stopDiscardTimer cfg highestCount = .ok s') : s.txTrans ≤ s'.txTrans := by
  rcases stopDiscardTimer_cases h with rfl | hstopped
  · exact Nat.le_refl _
  · rw [hstopped.txTrans_eq]
    exact Nat.le_max_left _ _

section Discard

def OldestPresent (s : PdcpTxEntity) : Prop := s.txNextAck = s.txNext ∨ (s.inWindow s.txNextAck).isSome = true

/-- SDUs are taken out of the window, all that are named and no others. The lower edge does not pass an SDU that
stays, and the discard timer is not touched. -/
structure Swept (s : PdcpTxEntity) (named : Nat → Prop) (s' : PdcpTxEntity) : Prop where
  same : SameControl s s'
  discardTimer_eq : s'.discardTimer = s.discardTimer
  kept : ∀ j, ¬(s.txNextAck ≤ j ∧ j < s.txNext ∧ named j) → s'.inWindow j = s.inWindow j
  gone : ∀ j, s.txNextAck ≤ j → j < s.txNext → named j → s'.inWindow j = none
  txNextAck_le : s.txNextAck ≤ s'.txNextAck
  le_txNext : s.txNextAck ≤ s.txNext → s'.txNextAck ≤ s.txNext
  passed : ∀ j, s.txNextAck ≤ j → j < s'.txNextAck → s'.inWindow j = none
  oldest : OldestPresent s → OldestPresent s'
  txTrans_le : s.txTrans ≤ s'.txTrans

lemma Swept.refl (h : ∀ j, s.txNextAck ≤ j → j < s.txNext → named j → s.inWindow j = none) : Swept s named s where
  same := SameControl.refl s
  discardTimer_eq := rfl
  kept := fun _ _ => rfl
  gone := h
  txNextAck_le := Nat.le_refl _
  le_txNext := id
  passed := fun _ hge hlt => absurd hlt (Nat.not_lt.mpr hge)
  oldest := id
  txTrans_le := Nat.le_refl _

lemma Swept.absent (h : Swept s named s') (hj : s.inWindow j = none) : s'.inWindow j = none := by
  by_cases hnamed : s.txNextAck ≤ j ∧ j < s.txNext ∧ named j
  · exact h.gone j hnamed.1 hnamed.2.1 hnamed.2.2
  · rw [h.kept j hnamed]
    exact hj

lemma Swept.present {elem : PdcpTxWindowElement} (h : Swept s named s') (hj : s'.inWindow j = some elem) :
    s.inWindow j = some elem := by
  by_cases hnamed : s.txNextAck ≤ j ∧ j < s.txNext ∧ named j
  · rw [h.gone j hnamed.1 hnamed.2.1 hnamed.2.2] at hj
    cases hj
  · rw [← h.kept j hnamed]
    exact hj

lemma Swept.trans (h : Swept s named t) (h' : Swept t named' s') : Swept s (fun j => named j ∨ named' j) s' where
  same := h.same.trans h'.same
  discardTimer_eq := h'.discardTimer_eq.trans h.discardTimer_eq
  kept := by
    intro j hj
    have hfirst := h.kept j fun hnamed => hj ⟨hnamed.1, hnamed.2.1, .inl hnamed.2.2⟩
    rw [← hfirst]
    apply h'.kept
    rintro ⟨hge, hlt, hnamed⟩
    exact hj ⟨h.txNextAck_le.trans hge, h.same.txNext ▸ hlt, .inr hnamed⟩
  gone := by
    rintro j hge hlt (hnamed | hnamed)
    · exact h'.absent (h.gone j hge hlt hnamed)
    · by_cases hpassed : j < t.txNextAck
      · exact h'.absent (h.passed j hge hpassed)
      · exact h'.gone j (Nat.not_lt.mp hpassed) (h.same.txNext.symm ▸ hlt) hnamed
  txNextAck_le := h.txNextAck_le.trans h'.txNextAck_le
  le_txNext := by
    intro hle
    rw [← h.same.txNext]
    apply h'.le_txNext
    rw [h.same.txNext]
    exact h.le_txNext hle
  passed := by
    intro j hge hlt
    by_cases hpassed : j < t.txNextAck
    · exact h'.absent (h.passed j hge hpassed)
    · exact h'.passed j (Nat.not_lt.mp hpassed) hlt
  oldest := h'.oldest ∘ h.oldest
  txTrans_le := h.txTrans_le.trans h'.txTrans_le

lemma Swept.congr (h : Swept s named s') (hiff : ∀ j, s.txNextAck ≤ j → j < s.txNext → (named j ↔ named' j)) :
    Swept s named' s' where
  same := h.same
  discardTimer_eq := h.discardTimer_eq
  kept := by
    intro j hj
    apply h.kept
    rintro ⟨hge, hlt, hnamed⟩
    exact hj ⟨hge, hlt, (hiff j hge hlt).mp hnamed⟩
  gone := fun j hge hlt hnamed => h.gone j hge hlt ((hiff j hge hlt).mpr hnamed)
  txNextAck_le := h.txNextAck_le
  le_txNext := h.le_txNext
  passed := h.passed
  oldest := h.oldest
  txTrans_le := h.txTrans_le

lemma advanceNextAck_spec (n : Nat) (s : PdcpTxEntity) : ∃ nextAck, advanceNextAck n s = { s with txNextAck := nextAck } ∧
    s.txNextAck ≤ nextAck ∧ nextAck ≤ s.txNextAck + n ∧
    (∀ j, s.txNextAck ≤ j → j < nextAck → s.inWindow j = none) ∧
    (nextAck = s.txNextAck + n ∨ (s.inWindow nextAck).isSome = true) := by
  induction n generalizing s with
  | zero => exact ⟨s.txNextAck, rfl, Nat.le_refl _, Nat.le_refl _, fun j hge hlt => by omega, .inl rfl⟩
  | succ n ih =>
    unfold advanceNextAck
    by_cases hpresent : SduWindow.hasSn s.txWindow s.txNextAck = true
    · rw [if_pos hpresent]
      exact ⟨s.txNextAck, rfl, Nat.le_refl _, Nat.le_add_right _ _, fun j hge hlt => by omega,
        .inr (Option.isSome_iff_exists.mpr (hasSn_eq_true.mp hpresent))⟩
    · rw [if_neg hpresent]
      have habsent : s.inWindow s.txNextAck = none := hasSn_eq_false.mp (Bool.not_eq_true _ ▸ hpresent)
      obtain ⟨nextAck, heq, hle, hge, hpassed, hend⟩ := ih { s with txNextAck := s.txNextAck + 1 }
      dsimp only at hle hge hpassed hend
      refine ⟨nextAck, heq, by omega, by omega, fun j hj hlt => ?_, ?_⟩
      · rcases Nat.eq_or_lt_of_le hj with rfl | hgt
        · exact habsent
        · exact hpassed j hgt hlt
      · rcases hend with hend | hend
        · exact .inl (by omega)
        · exact .inr hend

lemma discardPdu_ignored (h : count < s.txNextAck ∨ s.txNext ≤ count ∨ s.inWindow count = none) :
    s.discardPdu cfg count = (s, none) := by
  unfold discardPdu
  by_cases htimer : cfg.discardTimer.isNone = true
  · rw [if_pos htimer]
  rw [if_neg htimer]
  by_cases hout : count < s.txNextAck ∨ s.txNext ≤ count
  · rw [if_pos hout]
  rw [if_neg hout, if_pos]
  rw [hasSn_eq_false]
  rcases h with h | h | h
  · exact absurd (.inl h) hout
  · exact absurd (.inr h) hout
  · exact h

lemma discardPdu_eq (htimer : cfg.discardTimer.isSome = true) (hge : s.txNextAck ≤ count) (hlt : count < s.txNext)
    (hpresent : (s.inWindow count).isSome = true) : ∃ nextAck, s.discardPdu cfg count =
      ({ s.removeSdu count with txNextAck := nextAck, txTrans := max s.txTrans nextAck },
        some (pdcpComputeSn count cfg.snSize)) ∧ s.txNextAck ≤ nextAck ∧ nextAck ≤ s.txNext ∧
      (∀ j, s.txNextAck ≤ j → j < nextAck → (s.removeSdu count).inWindow j = none) ∧
      (nextAck = s.txNext ∨ ((s.removeSdu count).inWindow nextAck).isSome = true) := by
  have hrounds : (s.removeSdu count).txNext - (s.removeSdu count).txNextAck = s.txNext - s.txNextAck := by
    rw [(sameControl_removeSdu s count).txNext, removeSdu_txNextAck]
  obtain ⟨nextAck, heq, hle, hend, hpassed, hoccupied⟩ :=
    advanceNextAck_spec (s.txNext - s.txNextAck) (s.removeSdu count)
  rw [removeSdu_txNextAck] at hle hend hpassed hoccupied
  refine ⟨nextAck, ?_, hle, by omega, hpassed, ?_⟩
  · have hsome : ¬cfg.discardTimer.isNone = true := by
      rw [Option.isNone_iff_eq_none, ← Option.not_isSome_iff_eq_none]
      exact not_not.mpr htimer
    have hsn : ¬SduWindow.hasSn s.txWindow count = false := by
      rw [hasSn_eq_true.mpr (Option.isSome_iff_exists.mp hpresent)]
      exact Bool.noConfusion
    unfold discardPdu
    rw [if_neg hsome, if_neg (by omega), if_neg hsn]
    dsimp only
    rw [hrounds, heq]
    dsimp only
    rw [removeSdu_txTrans]
  · rcases hoccupied with hoccupied | hoccupied
    · exact .inl (by omega)
    · exact .inr hoccupied

lemma discardPdu_swept (htimer : cfg.discardTimer.isSome = true) (count : Nat) (s : PdcpTxEntity) :
    Swept s (· = count) (s.discardPdu cfg count).1 := by
  by_cases hignored : count < s.txNextAck ∨ s.txNext ≤ count ∨ s.inWindow count = none
  · rw [discardPdu_ignored hignored]
    apply Swept.refl
    rintro j hge hlt rfl
    rcases hignored with h | h | h
    · exact absurd h (Nat.not_lt.mpr hge)
    · exact absurd hlt (Nat.not_lt.mpr h)
    · exact h
  · have hpresent : (s.inWindow count).isSome = true := by
      rw [← Option.ne_none_iff_isSome]
      exact fun h => hignored (.inr (.inr h))
    obtain ⟨nextAck, heq, hle, hend, hpassed, hoccupied⟩ :=
      discardPdu_eq htimer (by omega) (by omega) hpresent
    rw [heq]
    have hnext : (s.removeSdu count).txNext = s.txNext := (sameControl_removeSdu s count).txNext
    constructor
    · exact (sameControl_removeSdu s count).trans (sameControl_edges _ _ _)
    · exact removeSdu_discardTimer
    · intro j hj
      refine (removeSdu_inWindow j).trans (if_neg ?_)
      rintro rfl
      exact hj ⟨by omega, by omega, rfl⟩
    · rintro j - - rfl
      exact (removeSdu_inWindow j).trans (if_pos rfl)
    · exact hle
    · exact fun _ => hend
    · exact hpassed
    · intro _
      rcases hoccupied with hoccupied | hoccupied
      · exact .inl (hoccupied.trans hnext.symm)
      · exact .inr hoccupied
    · exact Nat.le_max_left _ _

/-- SDUs that arrived in one tick are discarded, and the timer runs for the oldest SDU after them, if there is one. -/
structure Expired (s : PdcpTxEntity) (oldest : Nat) (s' : PdcpTxEntity) (counts : List Nat) : Prop where
  swept : Swept s (· ∈ counts) { s' with discardTimer := s.discardTimer }
  arrived : ∀ count ∈ counts, ∃ elem, s.inWindow count = some elem ∧ elem.tickPointOfArrival = some oldest
  rest : (s'.discardTimer = s.discardTimer ∧ (s'.inWindow s'.txNextAck = none ∨ s'.txNext ≤ s'.txNextAck)) ∨
    ∃ elem arrival, s'.inWindow s'.txNextAck = some elem ∧ elem.tickPointOfArrival = some arrival ∧ oldest < arrival ∧
      s'.discardTimer = s.discardTimer.start (arrival - oldest)

lemma oldestArrival_cases (hpresent : (s.inWindow s.txNextAck).isSome = true) :
    (∃ arrival, s.oldestArrival = .ok arrival) ∨ ∃ elem, s.inWindow s.txNextAck = some elem ∧ elem.tickPointOfArrival = none := by
  obtain ⟨elem, helem⟩ := Option.isSome_iff_exists.mp hpresent
  cases harrival : elem.tickPointOfArrival with
  | none => exact .inr ⟨elem, helem, harrival⟩
  | some arrival => exact .inl ⟨arrival, oldestArrival_eq_ok.mpr ⟨elem, helem, harrival⟩⟩

/-- A window with which the loop of `discard_callback` goes on: no SDU is without an arrival or has an earlier one. -/
def ArrivedFrom (s : PdcpTxEntity) (oldest : Nat) : Prop :=
  ∀ j elem, s.inWindow j = some elem → ∃ arrival, elem.tickPointOfArrival = some arrival ∧ oldest ≤ arrival

lemma Swept.arrivedFrom {oldest : Nat} (h : Swept s named s') (hs : ArrivedFrom s oldest) : ArrivedFrom s' oldest :=
  fun j elem hj => hs j elem (h.present hj)

lemma discardOldest_cases (htimer : cfg.discardTimer.isSome = true) {oldest : Nat} (n : Nat) (s : PdcpTxEntity)
    (hn : s.txNext - s.txNextAck ≤ n) (hrange : n = 0 ∨ s.txNextAck < s.txNext)
    (hpresent : ∃ elem, s.inWindow s.txNextAck = some elem ∧ elem.tickPointOfArrival = some oldest) :
    (∃ s' counts, discardOldest cfg oldest n s = .ok (s', counts) ∧ Expired s oldest s' counts) ∨
      (¬ArrivedFrom s oldest ∧ ∃ a, discardOldest cfg oldest n s = .error a) := by
  induction n generalizing s with
  | zero =>
    refine .inl ⟨s, [], rfl, Swept.refl fun _ _ _ h => absurd h List.not_mem_nil, fun _ h => absurd h List.not_mem_nil, ?_⟩
    exact .inl ⟨rfl, .inr (by omega)⟩
  | succ n ih =>
    have hlt : s.txNextAck < s.txNext := hrange.resolve_left (Nat.succ_ne_zero n)
    obtain ⟨first, hfirst, harrived⟩ := hpresent
    have hswept := discardPdu_swept htimer s.txNextAck s
    have hnamed : Swept s (· ∈ [s.txNextAck]) (s.discardPdu cfg s.txNextAck).1 :=
      hswept.congr fun j _ _ => List.mem_singleton.symm
    generalize hu : (s.discardPdu cfg s.txNextAck).1 = u at hswept hnamed
    have harrivedAll : ∀ count ∈ [s.txNextAck], ∃ elem, s.inWindow count = some elem ∧
        elem.tickPointOfArrival = some oldest := by
      intro count hcount
      obtain rfl := List.mem_singleton.mp hcount
      exact ⟨first, hfirst, harrived⟩
    -- The edge has moved, since the SDU there is gone.
    have hmoved : s.txNextAck < u.txNextAck ∨ u.inWindow u.txNextAck = none := by
      rcases Nat.lt_or_eq_of_le hswept.txNextAck_le with hlt' | heq
      · exact .inl hlt'
      · rw [← heq]
        exact .inr (hswept.gone _ (Nat.le_refl _) hlt rfl)
    unfold discardOldest
    dsimp only
    rw [hu]
    by_cases hend : SduWindow.hasSn u.txWindow u.txNextAck = false
    · rw [if_pos hend]
      refine .inl ⟨u, [s.txNextAck], rfl, ?_, harrivedAll, .inl ⟨hswept.discardTimer_eq, .inl (hasSn_eq_false.mp hend)⟩⟩
      rw [← hswept.discardTimer_eq]
      exact hnamed
    rw [if_neg hend]
    have hpresent' : (u.inWindow u.txNextAck).isSome = true :=
      Option.isSome_iff_exists.mpr (hasSn_eq_true.mp (Bool.not_eq_false _ ▸ hend))
    rcases oldestArrival_cases hpresent' with ⟨arrival, harrival⟩ | ⟨elem, helem, hnone⟩
    swap
    · refine .inr ⟨fun hs => ?_, ?_⟩
      · obtain ⟨arrival, harrival, -⟩ := hs _ _ (hswept.present helem)
        rw [hnone] at harrival
        cases harrival
      · cases hold : u.oldestArrival with
        | error a => exact ⟨a, rfl⟩
        | ok arrival =>
          obtain ⟨elem', helem', harrival⟩ := oldestArrival_eq_ok.mp hold
          rw [helem] at helem'
          obtain rfl := Option.some.inj helem'
          rw [hnone] at harrival
          cases harrival
    rw [harrival]
    obtain ⟨elem, helem, helemArrival⟩ := oldestArrival_eq_ok.mp harrival
    change (∃ s' counts, (if arrival ≠ oldest then _ else _) = _ ∧ _) ∨ (_ ∧ ∃ a, (if arrival ≠ oldest then _ else _) = _)
    by_cases hne : arrival ≠ oldest
    · rw [if_pos hne]
      by_cases hearlier : arrival < oldest
      · rw [if_pos hearlier]
        refine .inr ⟨fun hs => ?_, _, rfl⟩
        obtain ⟨arrival', harrival', hge⟩ := hs _ _ (hswept.present helem)
        rw [helemArrival] at harrival'
        cases harrival'
        omega
      · rw [if_neg hearlier]
        refine .inl ⟨_, [s.txNextAck], rfl, ?_, harrivedAll, .inr ⟨elem, arrival, helem, helemArrival, by omega, ?_⟩⟩
        · rw [← hswept.discardTimer_eq]
          exact hnamed
        · rw [← hswept.discardTimer_eq]
    · rw [if_neg hne]
      have heq : arrival = oldest := not_not.mp hne
      by_cases hlast : u.txNextAck = u.txNext
      · rw [if_pos hlast]
        refine .inl ⟨u, [s.txNextAck], rfl, ?_, harrivedAll, .inl ⟨hswept.discardTimer_eq, .inr (Nat.le_of_eq hlast.symm)⟩⟩
        rw [← hswept.discardTimer_eq]
        exact hnamed
      · rw [if_neg hlast]
        have hlt' : u.txNextAck < u.txNext :=
          Nat.lt_of_le_of_ne (hswept.same.txNext ▸ hswept.le_txNext (Nat.le_of_lt hlt)) hlast
        have hrounds : u.txNext - u.txNextAck ≤ n := by
          rw [hswept.same.txNext]
          rcases hmoved with hmoved | hmoved
          · omega
          · rw [hmoved] at hpresent'
            cases hpresent'
        rcases ih u hrounds (.inr hlt') ⟨elem, helem, heq ▸ helemArrival⟩ with ⟨s', counts, hok, hexpired⟩ | ⟨hnot, a, herror⟩
        · have hall : Swept s (· ∈ s.txNextAck :: counts) { s' with discardTimer := s.discardTimer } := by
            have htrans := hnamed.trans hexpired.swept
            rw [hswept.discardTimer_eq] at htrans
            refine htrans.congr fun j _ _ => ?_
            rw [← List.mem_append]
            rfl
          refine .inl ⟨s', s.txNextAck :: counts, ?_, hall, ?_, ?_⟩
          · rw [hok]
            rfl
          · intro count hcount
            rcases List.mem_cons.mp hcount with rfl | hcount
            · exact ⟨first, hfirst, harrived⟩
            · obtain ⟨elem', helem', harrival'⟩ := hexpired.arrived count hcount
              exact ⟨elem', hswept.present helem', harrival'⟩
          · rw [← hswept.discardTimer_eq]
            exact hexpired.rest
        · refine .inr ⟨fun hs => hnot (hswept.arrivedFrom hs), a, ?_⟩
          rw [herror]
          rfl

lemma discardCallback_cases (htimer : cfg.discardTimer.isSome = true) (s : PdcpTxEntity) :
    ((s.stopped = true ∨ s.inWindow s.txNextAck = none) ∧ s.discardCallback cfg = .ok (s, [])) ∨
    (∃ oldest s' counts, s.discardCallback cfg = .ok (s', counts) ∧
      (∃ elem, s.inWindow s.txNextAck = some elem ∧ elem.tickPointOfArrival = some oldest) ∧ Expired s oldest s' counts) ∨
    ((s.inWindow s.txNextAck).isSome = true ∧
      (∀ oldest, (∃ elem, s.inWindow s.txNextAck = some elem ∧ elem.tickPointOfArrival = some oldest) →
        ¬ArrivedFrom s oldest) ∧ ∃ a, s.discardCallback cfg = .error a) := by
  unfold discardCallback
  by_cases hstopped : s.stopped = true
  · rw [if_pos hstopped]
    exact .inl ⟨.inl hstopped, rfl⟩
  rw [if_neg hstopped]
  by_cases habsent : SduWindow.hasSn s.txWindow s.txNextAck = false
  · rw [if_pos habsent]
    exact .inl ⟨.inr (hasSn_eq_false.mp habsent), rfl⟩
  rw [if_neg habsent]
  refine .inr ?_
  have hpresent : (s.inWindow s.txNextAck).isSome = true :=
    Option.isSome_iff_exists.mpr (hasSn_eq_true.mp (Bool.not_eq_false _ ▸ habsent))
  cases hold : s.oldestArrival with
  | error a =>
    refine .inr ⟨hpresent, fun oldest hoccupied => ?_, a, rfl⟩
    rw [oldestArrival_eq_ok.mpr hoccupied] at hold
    cases hold
  | ok oldest =>
    have hoccupied := oldestArrival_eq_ok.mp hold
    rcases discardOldest_cases htimer (s.txNext - s.txNextAck) s (Nat.le_refl _) (by omega) hoccupied with
      ⟨s', counts, hok, hexpired⟩ | ⟨hnot, a, herror⟩
    · exact .inl ⟨oldest, s', counts, hok, hoccupied, hexpired⟩
    · refine .inr ⟨hpresent, fun oldest' hoccupied' => ?_, a, herror⟩
      rw [oldestArrival_eq_ok.mpr hoccupied'] at hold
      exact Except.ok.inj hold ▸ hnot

end Discard

end PdcpTxEntity

end OwlsRan.Pdcp
