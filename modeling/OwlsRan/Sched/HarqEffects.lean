import OwlsRan.Sched.HarqInvariant

/-!
# What the calls of the HARQ repository do to the processes

Each call changes the process that it is for, and a slot indication deletes the processes that it reports.
-/

namespace OwlsRan.Sched
open OwlsRan.Lib OwlsRan.Ran

def HarqTrace.deleted : HarqTrace → Option HarqRef
  | .ackTimeout h _ _ _ => some h
  | .retxTrapped h => some h
  | .ackDeadline _ _ _ => none

namespace CellHarqRepository

variable {Snr : Type} {cfg : HarqConfig} {s s' t : CellHarqRepository Snr} {h : HarqRef}

/-- The reports of the calls between two states name exactly the processes that were deleted. -/
structure Reports (s s' : CellHarqRepository Snr) : Prop where
  nof : ∀ u, (s'.ues u).nofHarqs = (s.ues u).nofHarqs
  trace : ∃ new, s'.trace = s.trace ++ new ∧ (∀ g, g ∉ new.filterMap HarqTrace.deleted → s'.harq g = s.harq g) ∧
    (∀ g ∈ new.filterMap HarqTrace.deleted, s.hasHarq g ∧ (s.harq g).status ≠ .empty ∧ (s'.harq g).status = .empty) ∧
    (new.filterMap HarqTrace.deleted).Nodup

section Reports

lemma Reports.refl (s : CellHarqRepository Snr) : Reports s s where
  nof _ := rfl
  trace := ⟨[], by simp, fun _ _ => rfl, by simp, by simp⟩

lemma Reports.trans (h1 : Reports s s') (h2 : Reports s' t) : Reports s t where
  nof u := (h2.nof u).trans (h1.nof u)
  trace := by
    obtain ⟨new1, htrace1, hsame1, hgone1, hnodup1⟩ := h1.trace
    obtain ⟨new2, htrace2, hsame2, hgone2, hnodup2⟩ := h2.trace
    refine ⟨new1 ++ new2, by rw [htrace2, htrace1, List.append_assoc], fun g hg => ?_, fun g hg => ?_, ?_⟩
    · rw [List.filterMap_append, List.mem_append, not_or] at hg
      rw [hsame2 g hg.2, hsame1 g hg.1]
    · rw [List.filterMap_append, List.mem_append] at hg
      by_cases hg2 : g ∈ new2.filterMap HarqTrace.deleted
      · obtain ⟨hhas, hst, hst'⟩ := hgone2 g hg2
        by_cases hg1 : g ∈ new1.filterMap HarqTrace.deleted
        · exact absurd (hgone1 g hg1).2.2 hst
        · rw [hsame1 g hg1] at hst
          refine ⟨?_, hst, hst'⟩
          unfold hasHarq at hhas ⊢
          rwa [h1.nof] at hhas
      · obtain ⟨hhas, hst, hst'⟩ := hgone1 g (hg.resolve_right hg2)
        exact ⟨hhas, hst, by rw [hsame2 g hg2, hst']⟩
    · rw [List.filterMap_append, List.nodup_append]
      refine ⟨hnodup1, hnodup2, fun g hg1 g' hg2 heq => ?_⟩
      apply (hgone2 g' hg2).2.1
      rw [← heq]
      exact (hgone1 g hg1).2.2

lemma Reports.of_dealloced {e : HarqTrace} (hdel : e.deleted = some h) (hh : s.hasHarq h)
    (hst : (s.harq h).status ≠ .empty) (hd : Dealloced h s s') : Reports s (s'.record e) where
  nof := hd.moves.nof
  trace := by
    refine ⟨[e], by simp [record, hd.trace], fun g hg => ?_, fun g hg => ?_, by simp [hdel]⟩
    · exact hd.moves.harq g (by simpa [hdel] using hg)
    · obtain rfl : g = h := by simpa [hdel] using hg
      exact ⟨hh, hst, hd.status⟩

lemma timeoutLoop_reports {sl : SlotPoint} {fuel : Nat} (hI : s.HarqInv cfg) (hok : timeoutLoop cfg sl fuel s = .ok t) :
    t.HarqInv cfg ∧ Reports s t := by
  induction fuel generalizing s with
  | zero =>
    unfold timeoutLoop at hok
    split at hok
    case h_1 =>
      cases hok
      exact ⟨hI, .refl _⟩
    case h_2 => cases hok
    case h_3 => contradiction
  | succ fuel ih =>
    unfold timeoutLoop at hok
    split at hok
    case h_1 =>
      cases hok
      exact ⟨hI, .refl _⟩
    case h_2 => contradiction
    case h_3 h rest fuel' hcons hfuel =>
      cases hfuel
      have hmem : h ∈ s.harqTimeoutWheel (cfg.wheelIdx sl) := by simp [hcons]
      have hh := hI.hasHarq_of_wheel hmem
      obtain ⟨s1, hone, hok⟩ := bind_eq_ok.mp hok
      unfold handleHarqAckTimeout at hone
      split at hone
      case isTrue => cases hone
      case isFalse hst =>
        obtain ⟨s2, hd, hone⟩ := bind_eq_ok.mp hone
        cases hone
        obtain ⟨hI2, hd2⟩ := deallocHarq_spec hI hh hd
        obtain ⟨hIt, hrep⟩ := ih (record_inv hI2 _) hok
        exact ⟨hIt, (Reports.of_dealloced rfl hh hst hd2).trans hrep⟩

lemma trappedRetxLoop_reports {fuel : Nat} (hI : s.HarqInv cfg) (hok : trappedRetxLoop cfg fuel s = .ok t) :
    t.HarqInv cfg ∧ Reports s t := by
  induction fuel generalizing s with
  | zero =>
    unfold trappedRetxLoop at hok
    split at hok
    case h_1 =>
      cases hok
      exact ⟨hI, .refl _⟩
    case h_2 => cases hok
    case h_3 => contradiction
  | succ fuel ih =>
    unfold trappedRetxLoop at hok
    split at hok
    case h_1 =>
      cases hok
      exact ⟨hI, .refl _⟩
    case h_2 => contradiction
    case h_3 h rest fuel' hcons hfuel =>
      cases hfuel
      split at hok
      case isTrue => cases hok
      case isFalse hst =>
        dsimp only at hok
        split at hok
        case isTrue =>
          cases hok
          exact ⟨hI, .refl _⟩
        case isFalse =>
          obtain ⟨s1, hone, hok⟩ := bind_eq_ok.mp hok
          have hh : s.hasHarq h := ((hI.linked h).pending.mp (by simp [hcons])).1
          obtain ⟨hI1, hd⟩ := deallocHarq_spec hI hh hone
          obtain ⟨hIt, hrep⟩ := ih (record_inv hI1 (.retxTrapped h)) hok
          have hne : (s.harq h).status ≠ .empty := by
            rw [not_not.mp hst]
            simp
          exact ⟨hIt, (Reports.of_dealloced rfl hh hne hd).trans hrep⟩

lemma slotIndication_reports {sl : SlotPoint} (hI : s.HarqInv cfg) (hok : s.slotIndication cfg sl = .ok t) :
    t.HarqInv cfg ∧ Reports s t := by
  unfold slotIndication at hok
  obtain ⟨s1, hto, hok⟩ := bind_eq_ok.mp hok
  obtain ⟨hI1, hrep1⟩ := timeoutLoop_reports (withLastSlInd_inv hI sl) hto
  obtain ⟨hIt, hrep2⟩ := trappedRetxLoop_reports hI1 hok
  obtain ⟨hnof, htrace⟩ := hrep1.trans hrep2
  exact ⟨hIt, hnof, htrace⟩

end Reports

section Effects

variable {u : Nat}

private lemma anyCore : ∀ c : HarqCore, c.status = .empty → True := fun _ _ => trivial

private lemma withAny (hI : s.HarqInv cfg) : s.HarqInvWith cfg fun _ => True := ⟨hI, fun _ _ => trivial⟩

lemma destroyUe_effect (hI : s.HarqInv cfg) (hok : s.destroyUe cfg u = .ok t) :
    t.HarqInv cfg ∧ (t.ues u).nofHarqs = 0 ∧ (∀ g : HarqRef, g.ueIdx = u → (t.harq g).status = .empty) ∧
      ∀ v ≠ u, (t.ues v).nofHarqs = (s.ues v).nofHarqs ∧ ∀ i, t.harq ⟨v, i⟩ = s.harq ⟨v, i⟩ := by
  refine ⟨(destroyUe_keeps anyCore (withAny hI) hok).1, ?_⟩
  unfold destroyUe at hok
  obtain ⟨s1, hd, hok⟩ := bind_eq_ok.mp hok
  cases hok
  obtain ⟨-, hd1⟩ := deallocAll_keeps anyCore (withAny hI) (fun h hh => (mem_ueHarqRefs.mp hh).2) hd
  refine ⟨by simp, ?_, fun v hv => ⟨?_, fun i => ?_⟩⟩
  · rintro g rfl
    simp [harq, HarqProcess.init]
  · rw [ues_modifyUe_ne _ hv, hd1.nof]
  · have hnot : (⟨v, i⟩ : HarqRef) ∉ s.ueHarqRefs u := fun hmem => hv (mem_ueHarqRefs.mp hmem).1
    rw [← hd1.frame _ hnot]
    unfold harq
    rw [ues_modifyUe_ne _ hv]

lemma reserveUeHarqs_effect {rnti n : Nat} (hI : s.HarqInv cfg) (hok : s.reserveUeHarqs cfg u rnti n = .ok t) :
    t.HarqInv cfg ∧ (t.ues u).nofHarqs = n ∧ (∀ g : HarqRef, g.ueIdx = u → (t.harq g).status = .empty) ∧
      ∀ v ≠ u, (t.ues v).nofHarqs = (s.ues v).nofHarqs ∧ ∀ i, t.harq ⟨v, i⟩ = s.harq ⟨v, i⟩ := by
  refine ⟨(reserveUeHarqs_keeps anyCore (withAny hI) hok).1, ?_⟩
  unfold reserveUeHarqs at hok
  split at hok
  · cases hok
  split at hok
  · cases hok
  split at hok
  · cases hok
  cases hok
  refine ⟨by simp, ?_, fun v hv => ⟨?_, fun i => ?_⟩⟩
  · rintro g rfl
    unfold harq
    rw [ues_modifyUe_self]
    simp only
    split <;> rfl
  · rw [ues_modifyUe_ne _ hv]
  · unfold harq
    rw [ues_modifyUe_ne _ hv]

lemma allocHarq_effect {slTx slAck : SlotPoint} {m : Nat} (hI : s.HarqInv cfg)
    (hok : s.allocHarq cfg u slTx slAck m = .ok (t, some h)) :
    t.HarqInv cfg ∧ OnlyMoves h s t ∧ h.ueIdx = u ∧ s.hasHarq h ∧ (t.harq h).status = .waitingAck := by
  unfold allocHarq at hok
  split at hok
  case h_1 => cases hok
  case h_2 hId rest hfree =>
    dsimp only at hok
    split at hok
    case isFalse => cases hok
    case isTrue =>
      cases hok
      obtain ⟨hinv, hr, -⟩ := startNewTx_spec (h := ⟨u, hId⟩) slTx slAck m hI hfree
      have hhas := ((hI.linked ⟨u, hId⟩).free.mp (by simp [hfree])).1
      refine ⟨hinv, hr.moves, rfl, hhas, ?_⟩
      rw [hr.proc]
      rfl

lemma handleAck_effect {ack : Bool} (hI : s.HarqInv cfg) (hh : s.hasHarq h) (hok : s.handleAck cfg h ack = .ok t) :
    t.HarqInv cfg ∧ OnlyMoves h s t := by
  refine ⟨(handleAck_keeps anyCore (withAny hI) hh (fun _ _ _ => trivial) hok).1, ?_⟩
  unfold handleAck at hok
  split at hok
  case isTrue => exact (deallocHarq_spec hI hh hok).2.moves
  case isFalse =>
    cases hst : (s.harq h).status with
    | empty =>
      unfold setPendingRetx at hok
      rw [hst] at hok
      cases hok
    | pendingRetx =>
      unfold setPendingRetx at hok
      rw [hst] at hok
      cases hok
      exact .refl h s
    | waitingAck => exact (setPendingRetx_spec hI hh hst hok).2.2.moves

lemma ulCrcInfo_effect {ack r : Bool} (hI : s.HarqInv cfg) (hh : s.hasHarq h)
    (hok : s.ulCrcInfo cfg h ack = .ok (t, r)) : t.HarqInv cfg ∧ OnlyMoves h s t := by
  unfold ulCrcInfo at hok
  split at hok
  case isTrue =>
    obtain ⟨s1, hack, hok⟩ := bind_eq_ok.mp hok
    cases hok
    exact handleAck_effect hI hh hack
  case isFalse =>
    cases hok
    exact ⟨hI, .refl h s⟩

lemma handleNewRetx_effect {slTx slAck : SlotPoint} {b : Bool} (hI : s.HarqInv cfg) (hh : s.hasHarq h)
    (hok : s.handleNewRetx cfg h slTx slAck = .ok (t, b)) :
    t.HarqInv cfg ∧ OnlyMoves h s t ∧ ((s.harq h).status ≠ .empty → (t.harq h).status ≠ .empty) := by
  cases b with
  | true =>
    obtain ⟨-, hinv, hr, -⟩ := startRetx_spec hI hh hok
    refine ⟨hinv, hr.moves, fun _ => ?_⟩
    rw [hr.proc]
    simp [newRetxProcess, HarqProcess.newRetx]
  | false =>
    unfold handleNewRetx at hok
    split at hok
    case isTrue =>
      obtain ⟨s1, -, hok⟩ := bind_eq_ok.mp hok
      obtain ⟨s2, -, hok⟩ := bind_eq_ok.mp hok
      cases hok
    case isFalse =>
      cases hok
      exact ⟨hI, .refl h s, id⟩

end Effects

end CellHarqRepository

end OwlsRan.Sched
