import OwlsRan.Lib.EventRun
import OwlsRan.Pdcp.PdcpEntityRx

/-!
# Runs of the receiving entity

PDUs arrive, are deciphered in any order or dropped, and t-Reordering expires.
-/

namespace OwlsRan.Pdcp
open OwlsRan.Lib OwlsRan.Rlc OwlsRan.Adt

inductive PdcpRxEvent where
  | dataPdu (pdu : List UInt8)
  /-- The PDU in the given place among those that are being deciphered has been, or it is dropped. -/
  | deciphered (place : Nat) (buf : Option (List UInt8))
  | tReorderingExpiry
deriving DecidableEq

structure PdcpRxRun where
  entity : PdcpRxEntity
  deciphering : List Nat

namespace PdcpRxRun

variable (cfg : PdcpRxConfig)

def start : PdcpRxRun := ⟨.start cfg, []⟩

variable (s : PdcpRxRun)

def step : PdcpRxEvent → Except RlcAbort PdcpRxRun
  | .dataPdu pdu =>
    let (entity, _, count) := s.entity.handleDataPdu cfg pdu
    .ok ⟨entity, s.deciphering ++ count.toList⟩
  | .deciphered place buf => match s.deciphering[place]?, buf with
    | none, _ => .ok s
    | some _, none => .ok { s with deciphering := s.deciphering.eraseIdx place }
    | some count, some buf => do
      let (entity, _) ← s.entity.applyReordering cfg ⟨buf, count⟩
      .ok ⟨entity, s.deciphering.eraseIdx place⟩
  | .tReorderingExpiry =>
    if s.entity.reorderingTimerRunning then
      .ok { s with entity := ({ s.entity with reorderingTimerRunning := false }.handleTReorderingExpire cfg).1 }
    else .ok s

end PdcpRxRun

namespace PdcpRxEntity

variable {cfg : PdcpRxConfig} {s s' t : PdcpRxEntity} {j n : Nat}

/-- SDUs have been delivered, or passed if they were missing, in the order of their COUNTs. -/
structure Delivered (s s' : PdcpRxEntity) : Prop where
  rxNext : s'.rxNext = s.rxNext
  rxReord : s'.rxReord = s.rxReord
  running : s'.reorderingTimerRunning = s.reorderingTimerRunning
  rxDeliv_le : s.rxDeliv ≤ s'.rxDeliv
  window : ∀ j, s'.rxWindow.find? j = if s.rxDeliv ≤ j ∧ j < s'.rxDeliv then none else s.rxWindow.find? j
  wellFormed : s.rxWindow.WellFormed → s'.rxWindow.WellFormed

lemma Delivered.refl (s : PdcpRxEntity) : Delivered s s where
  rxNext := rfl
  rxReord := rfl
  running := rfl
  rxDeliv_le := Nat.le_refl _
  window := fun j => (if_neg (by omega)).symm
  wellFormed := id

lemma Delivered.trans (h : Delivered s t) (h' : Delivered t s') : Delivered s s' where
  rxNext := h'.rxNext.trans h.rxNext
  rxReord := h'.rxReord.trans h.rxReord
  running := h'.running.trans h.running
  rxDeliv_le := h.rxDeliv_le.trans h'.rxDeliv_le
  window := by
    intro j
    have hle := h.rxDeliv_le
    have hle' := h'.rxDeliv_le
    rw [h'.window, h.window]
    split_ifs <;> first | rfl | omega
  wellFormed := h'.wellFormed ∘ h.wellFormed

lemma delivered_erase (s : PdcpRxEntity) :
    Delivered s { s with rxWindow := s.rxWindow.erase s.rxDeliv, rxDeliv := s.rxDeliv + 1 } where
  rxNext := rfl
  rxReord := rfl
  running := rfl
  rxDeliv_le := Nat.le_succ _
  window := by
    intro j
    refine (CircularMap.erase_find? j).trans ?_
    dsimp only
    split_ifs <;> first | rfl | omega
  wellFormed := CircularMap.erase_wellFormed

lemma delivered_passed (h : s.rxWindow.find? s.rxDeliv = none) : Delivered s { s with rxDeliv := s.rxDeliv + 1 } where
  rxNext := rfl
  rxReord := rfl
  running := rfl
  rxDeliv_le := Nat.le_succ _
  window := by
    intro j
    dsimp only
    by_cases hj : s.rxDeliv ≤ j ∧ j < s.rxDeliv + 1
    · have heq : j = s.rxDeliv := by omega
      rw [if_pos hj, heq, h]
    · rw [if_neg hj]
  wellFormed := id

lemma deliverConsecutive_spec (n : Nat) (s : PdcpRxEntity) : Delivered s (deliverConsecutive n s).1 ∧
    (deliverConsecutive n s).1.rxDeliv ≤ s.rxDeliv + n ∧ ((deliverConsecutive n s).1.rxDeliv = s.rxDeliv + n ∨
      (deliverConsecutive n s).1.rxWindow.find? (deliverConsecutive n s).1.rxDeliv = none) := by
  induction n generalizing s with
  | zero => exact ⟨Delivered.refl s, Nat.le_refl _, .inl rfl⟩
  | succ n ih =>
    unfold deliverConsecutive
    split
    case h_1 hnone => exact ⟨Delivered.refl s, Nat.le_add_right _ _, .inr hnone⟩
    case h_2 info hsome =>
      obtain ⟨hdelivered, hle, hend⟩ := ih { s with rxWindow := s.rxWindow.erase s.rxDeliv, rxDeliv := s.rxDeliv + 1 }
      refine ⟨(delivered_erase s).trans hdelivered, ?_, ?_⟩
      · refine hle.trans ?_
        dsimp only
        omega
      · rcases hend with hend | hend
        · refine .inl (hend.trans ?_)
          dsimp only
          omega
        · exact .inr hend

lemma deliverUpTo_spec (n : Nat) (s : PdcpRxEntity) :
    Delivered s (deliverUpTo n s).1 ∧ (deliverUpTo n s).1.rxDeliv = s.rxDeliv + n := by
  induction n generalizing s with
  | zero => exact ⟨Delivered.refl s, rfl⟩
  | succ n ih =>
    unfold deliverUpTo
    split
    case h_1 hnone =>
      obtain ⟨hdelivered, heq⟩ := ih { s with rxDeliv := s.rxDeliv + 1 }
      refine ⟨(delivered_passed hnone).trans hdelivered, heq.trans ?_⟩
      dsimp only
      omega
    case h_2 info hsome =>
      obtain ⟨hdelivered, heq⟩ := ih { s with rxWindow := s.rxWindow.erase s.rxDeliv, rxDeliv := s.rxDeliv + 1 }
      refine ⟨(delivered_erase s).trans hdelivered, heq.trans ?_⟩
      dsimp only
      omega

structure Between (cfg : PdcpRxConfig) (s : PdcpRxEntity) : Prop where
  wellFormed : s.rxWindow.WellFormed
  deliv_le : s.rxDeliv ≤ s.rxNext
  next_le : s.rxNext ≤ cfg.maxCount.hard.toNat
  window_ge : ∀ j info, s.rxWindow.find? j = some info → s.rxDeliv ≤ j
  window_lt : ∀ j info, s.rxWindow.find? j = some info → j < s.rxNext
  reord_le : s.reorderingTimerRunning = true → s.rxReord ≤ s.rxNext

/-- The SDU at RX_DELIV is missing, and t-Reordering runs only for COUNTs from there on. -/
structure InOrder (cfg : PdcpRxConfig) (s : PdcpRxEntity) : Prop extends Between cfg s where
  missing : s.rxWindow.find? s.rxDeliv = none
  deliv_le_reord : s.reorderingTimerRunning = true → s.rxDeliv ≤ s.rxReord

lemma inOrder_start (cfg : PdcpRxConfig) : InOrder cfg (.start cfg) where
  wellFormed := CircularMap.new_wellFormed _ _
  deliv_le := Nat.le_refl _
  next_le := Nat.zero_le _
  window_ge := fun _ _ _ => Nat.zero_le _
  window_lt := by
    intro j info h
    rw [show (PdcpRxEntity.start cfg).rxWindow.find? j = none from CircularMap.new_find? _ _] at h
    cases h
  reord_le := Bool.noConfusion
  missing := CircularMap.new_find? _ _
  deliv_le_reord := Bool.noConfusion

lemma Delivered.between (h : Delivered s s') (hs : Between cfg s) (hle : s'.rxDeliv ≤ s.rxNext) : Between cfg s' where
  wellFormed := h.wellFormed hs.wellFormed
  deliv_le := h.rxNext ▸ hle
  next_le := h.rxNext ▸ hs.next_le
  window_ge := by
    intro j info hj
    rw [h.window] at hj
    split at hj
    case isTrue => cases hj
    case isFalse hout =>
      have hge := hs.window_ge j info hj
      omega
  window_lt := by
    intro j info hj
    rw [h.window] at hj
    rw [h.rxNext]
    split at hj
    case isTrue => cases hj
    case isFalse => exact hs.window_lt j info hj
  reord_le := by
    rw [h.running, h.rxReord, h.rxNext]
    exact hs.reord_le

lemma find?_rxNext (h : Between cfg s) : s.rxWindow.find? s.rxNext = none := by
  cases hfind : s.rxWindow.find? s.rxNext with
  | none => rfl
  | some info => exact absurd (h.window_lt _ _ hfind) (Nat.lt_irrefl _)

lemma deliverAllConsecutiveCounts_spec (hs : Between cfg s) : Between cfg s.deliverAllConsecutiveCounts.1 ∧
    s.deliverAllConsecutiveCounts.1.rxWindow.find? s.deliverAllConsecutiveCounts.1.rxDeliv = none ∧
    s.deliverAllConsecutiveCounts.1.reorderingTimerRunning = s.reorderingTimerRunning ∧
    s.deliverAllConsecutiveCounts.1.rxReord = s.rxReord ∧ s.deliverAllConsecutiveCounts.1.rxNext = s.rxNext := by
  have hle := hs.deliv_le
  obtain ⟨hdelivered, hend, hmissing⟩ := deliverConsecutive_spec (s.rxNext - s.rxDeliv) s
  unfold deliverAllConsecutiveCounts
  refine ⟨hdelivered.between hs (by omega), ?_, hdelivered.running, hdelivered.rxReord, hdelivered.rxNext⟩
  rcases hmissing with hmissing | hmissing
  · have hnext : (deliverConsecutive (s.rxNext - s.rxDeliv) s).1.rxDeliv = s.rxNext := by omega
    rw [hdelivered.window, hnext, if_neg (by omega)]
    exact find?_rxNext hs
  · exact hmissing

lemma Between.restart (h : Between cfg s) (hmissing : s.rxWindow.find? s.rxDeliv = none) :
    InOrder cfg { s with rxReord := s.rxNext, reorderingTimerRunning := true } where
  wellFormed := h.wellFormed
  deliv_le := h.deliv_le
  next_le := h.next_le
  window_ge := h.window_ge
  window_lt := h.window_lt
  reord_le := fun _ => Nat.le_refl _
  missing := hmissing
  deliv_le_reord := fun _ => h.deliv_le

lemma Between.stopped (h : Between cfg s) : Between cfg { s with reorderingTimerRunning := false } where
  wellFormed := h.wellFormed
  deliv_le := h.deliv_le
  next_le := h.next_le
  window_ge := h.window_ge
  window_lt := h.window_lt
  reord_le := Bool.noConfusion

lemma handleTReorderingExpire_inOrder (hs : Between cfg s) (hreord : s.rxReord ≤ s.rxNext)
    (hrunning : s.reorderingTimerRunning = true → s.rxReord = s.rxNext) :
    InOrder cfg (s.handleTReorderingExpire cfg).1 := by
  have hle := hs.deliv_le
  obtain ⟨hpassed, heq⟩ := deliverUpTo_spec (s.rxReord - s.rxDeliv) s
  generalize hu : (deliverUpTo (s.rxReord - s.rxDeliv) s).1 = u at hpassed heq
  obtain ⟨hbetween, hmissing, hrunning', hreord', hnext'⟩ :=
    deliverAllConsecutiveCounts_spec (hpassed.between hs (by omega))
  unfold handleTReorderingExpire
  dsimp only
  rw [hu]
  split
  case isTrue => exact hbetween.restart hmissing
  case isFalse =>
    refine ⟨hbetween, hmissing, fun h => ?_⟩
    have hend := hbetween.deliv_le
    have heq' := hrunning (hpassed.running.symm.trans (hrunning'.symm.trans h))
    rw [hnext', hpassed.rxNext] at hend
    rw [hreord', hpassed.rxReord, heq']
    exact hend

lemma handleReorderingTimers_inOrder (hs : Between cfg s) (hmissing : s.rxWindow.find? s.rxDeliv = none) :
    InOrder cfg (s.handleReorderingTimers cfg).1 := by
  unfold handleReorderingTimers
  dsimp only
  -- The timer is stopped if RX_DELIV has reached its COUNT.
  have hstop : ∃ t : PdcpRxEntity, (if s.reorderingTimerRunning ∧ s.rxReord ≤ s.rxDeliv then
      { s with reorderingTimerRunning := false } else s) = t ∧ InOrder cfg t := by
    split
    case isTrue => exact ⟨_, rfl, hs.stopped, hmissing, Bool.noConfusion⟩
    case isFalse hnot =>
      refine ⟨_, rfl, hs, hmissing, fun hrunning => ?_⟩
      rw [not_and, Nat.not_le] at hnot
      exact Nat.le_of_lt (hnot hrunning)
  obtain ⟨t, ht, hin⟩ := hstop
  rw [ht]
  split
  case h_1 => exact hin
  case h_2 =>
    apply handleTReorderingExpire_inOrder (s := { t with rxReord := t.rxNext })
    · exact ⟨hin.wellFormed, hin.deliv_le, hin.next_le, hin.window_ge, hin.window_lt, fun _ => Nat.le_refl _⟩
    · exact Nat.le_refl _
    · exact fun _ => rfl
  case h_3 =>
    split
    case isTrue => exact hin.restart hin.missing
    case isFalse => exact hin

lemma Between.store {window : SduWindow PdcpRxSduInfo} {info : PdcpRxSduInfo} (hs : Between cfg s)
    (hw : window.WellFormed) (hold : ∀ j v, window.find? j = some v → s.rxWindow.find? j = some v)
    (hge : s.rxDeliv ≤ info.count) (hcount : info.count < cfg.maxCount.hard.toNat) :
    Between cfg { s with
      rxWindow := window.overwrite info.count info, rxNext := if s.rxNext ≤ info.count then info.count + 1 else s.rxNext } := by
  have hfound : ∀ j v, (window.overwrite info.count info).find? j = some v → j = info.count ∨ s.rxWindow.find? j = some v := by
    intro j v hj
    rw [CircularMap.overwrite_find? hw] at hj
    split_ifs at hj with hkey hslot
    · exact .inl hkey
    · exact .inr (hold j v hj)
  have hnext : s.rxNext ≤ (if s.rxNext ≤ info.count then info.count + 1 else s.rxNext) ∧
      info.count < (if s.rxNext ≤ info.count then info.count + 1 else s.rxNext) := by
    split_ifs <;> omega
  refine ⟨CircularMap.overwrite_wellFormed hw, hs.deliv_le.trans hnext.1, ?_, fun j v hj => ?_, fun j v hj => ?_, fun h => ?_⟩
  · have hle := hs.next_le
    dsimp only
    split_ifs <;> omega
  · rcases hfound j v hj with rfl | hj
    · exact hge
    · exact hs.window_ge j v hj
  · rcases hfound j v hj with rfl | hj
    · exact hnext.2
    · exact (hs.window_lt j v hj).trans_le hnext.1
  · exact (hs.reord_le h).trans hnext.1

lemma applyReordering_inOrder (info : PdcpRxSduInfo) (hs : InOrder cfg s) (hcount : info.count < cfg.maxCount.hard.toNat) :
    ∃ r, s.applyReordering cfg info = .ok r ∧ InOrder cfg r.1 := by
  unfold applyReordering
  by_cases hpassed : info.count < s.rxDeliv
  · rw [if_pos hpassed]
    exact ⟨_, rfl, hs⟩
  rw [if_neg hpassed]
  dsimp only
  by_cases hstored : (s.rxWindow.find? info.count).any (·.count = info.count) = true
  · rw [if_pos hstored]
    exact ⟨_, rfl, hs⟩
  rw [if_neg hstored]
  generalize hwindow : (if (s.rxWindow.find? info.count).isSome = true then s.rxWindow.erase info.count
    else s.rxWindow) = window
  have hw : window.WellFormed := by
    rw [← hwindow]
    split
    · exact CircularMap.erase_wellFormed hs.wellFormed
    · exact hs.wellFormed
  have hold : ∀ j v, window.find? j = some v → s.rxWindow.find? j = some v := by
    intro j v hj
    rw [← hwindow] at hj
    split at hj
    · rw [CircularMap.erase_find?] at hj
      split at hj
      · cases hj
      · exact hj
    · exact hj
  have hfree : SduWindow.hasSn window info.count = false := by
    rw [SduWindow.hasSn_eq_false_iff, ← hwindow]
    split
    case isTrue => rw [CircularMap.erase_find?, if_pos rfl]
    case isFalse hnone => exact Option.not_isSome_iff_eq_none.mp hnone
  have hadd : SduWindow.addSn window info.count info = .ok (window.overwrite info.count info) := by
    unfold SduWindow.addSn
    rw [hfree]
    rfl
  rw [hadd]
  have hbetween := hs.toBetween.store hw hold (Nat.not_lt.mp hpassed) hcount
  refine ⟨_, rfl, ?_⟩
  dsimp only
  apply handleReorderingTimers_inOrder
  · split
    · exact (deliverAllConsecutiveCounts_spec hbetween).1
    · exact hbetween
  · split
    case isTrue => exact (deliverAllConsecutiveCounts_spec hbetween).2.1
    case isFalse hne =>
      change (window.overwrite info.count info).find? s.rxDeliv = none
      rw [CircularMap.overwrite_find? hw, if_neg (Ne.symm hne)]
      split
      · rfl
      · cases hfind : window.find? s.rxDeliv with
        | none => rfl
        | some v => rw [← hs.missing, hold _ _ hfind]

end PdcpRxEntity

namespace PdcpRxRun

open PdcpRxEntity

variable {cfg : PdcpRxConfig} {s s' : PdcpRxRun} {e : PdcpRxEvent} {es : List PdcpRxEvent}

def Ok (cfg : PdcpRxConfig) (s : PdcpRxRun) : Prop :=
  InOrder cfg s.entity ∧ ∀ count ∈ s.deciphering, count < cfg.maxCount.hard.toNat

lemma handleDataPdu_inOrder {s : PdcpRxEntity} (hs : InOrder cfg s) (pdu : List UInt8) :
    InOrder cfg (s.handleDataPdu cfg pdu).1 ∧
      ∀ count ∈ (s.handleDataPdu cfg pdu).2.2, count < cfg.maxCount.hard.toNat := by
  have hflags : ∀ notified overflow, InOrder cfg { s with maxCountNotified := notified, maxCountOverflow := overflow } :=
    fun _ _ => ⟨⟨hs.wellFormed, hs.deliv_le, hs.next_le, hs.window_ge, hs.window_lt, hs.reord_le⟩, hs.missing,
      hs.deliv_le_reord⟩
  unfold PdcpRxEntity.handleDataPdu
  split
  case h_1 => exact ⟨hs, fun count hcount => nomatch hcount⟩
  case h_2 sn _ =>
    dsimp only
    split
    case isTrue => exact ⟨hflags _ _, fun count hcount => nomatch hcount⟩
    case isFalse hlt =>
      refine ⟨hflags _ _, fun count hcount => ?_⟩
      rw [← Option.some.inj hcount]
      exact Nat.not_le.mp hlt

lemma step_ok (hs : s.Ok cfg) (e : PdcpRxEvent) : ∃ s', s.step cfg e = .ok s' ∧ s'.Ok cfg := by
  obtain ⟨hin, hlt⟩ := hs
  cases e with
  | dataPdu pdu =>
    obtain ⟨hin', hlt'⟩ := handleDataPdu_inOrder hin pdu
    refine ⟨_, rfl, hin', fun count hcount => ?_⟩
    rcases List.mem_append.mp hcount with hcount | hcount
    · exact hlt count hcount
    · exact hlt' count (Option.mem_toList.mp hcount)
  | deciphered place buf =>
    have herase : ∀ count ∈ s.deciphering.eraseIdx place, count < cfg.maxCount.hard.toNat :=
      fun count hcount => hlt count (List.mem_of_mem_eraseIdx hcount)
    unfold step
    dsimp only
    cases hplace : s.deciphering[place]? with
    | none => exact ⟨_, rfl, hin, hlt⟩
    | some count =>
      cases buf with
      | none => exact ⟨_, rfl, hin, herase⟩
      | some buf =>
        obtain ⟨r, hr, hin'⟩ := applyReordering_inOrder ⟨buf, count⟩ hin (hlt count (List.mem_of_getElem? hplace))
        refine ⟨⟨r.1, s.deciphering.eraseIdx place⟩, ?_, hin', herase⟩
        change (s.entity.applyReordering cfg ⟨buf, count⟩ >>= _) = _
        rw [hr]
        rfl
  | tReorderingExpiry =>
    unfold step
    dsimp only
    by_cases hrunning : s.entity.reorderingTimerRunning = true
    · rw [if_pos hrunning]
      exact ⟨_, rfl, handleTReorderingExpire_inOrder hin.toBetween.stopped (hin.reord_le hrunning) Bool.noConfusion, hlt⟩
    · rw [if_neg hrunning]
      exact ⟨_, rfl, hin, hlt⟩

lemma run_ok (h : runEvents (step cfg) (start cfg) es = .ok s) : s.Ok cfg := by
  have hstart : (start cfg).Ok cfg := ⟨inOrder_start cfg, fun count hcount => nomatch hcount⟩
  refine runEvents_invariant (Ok cfg) (fun s e s' hs hstep => ?_) hstart h
  obtain ⟨t, ht, hok⟩ := step_ok hs e
  rw [ht] at hstep
  rw [← Except.ok.inj hstep]
  exact hok

end PdcpRxRun

end OwlsRan.Pdcp
