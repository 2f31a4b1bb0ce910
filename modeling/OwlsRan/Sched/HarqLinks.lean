import OwlsRan.Sched.CellHarqRepository
import Mathlib.Data.List.Nodup

/-!
# The links of a HARQ process

Every call touches one process at a time.
-/

namespace OwlsRan.Sched
open OwlsRan.Lib OwlsRan.Ran

namespace CellHarqRepository

variable {Snr : Type} {cfg : HarqConfig} {s s' t : CellHarqRepository Snr} {h g : HarqRef}

structure Linked (cfg : HarqConfig) (s : CellHarqRepository Snr) (h : HarqRef) : Prop where
  ids : s.hasHarq h → (s.harq h).ueIdx = h.ueIdx ∧ (s.harq h).hId = h.hId
  free : h.hId ∈ (s.ues h.ueIdx).freeHarqIds ↔ s.hasHarq h ∧ (s.harq h).status = .empty
  wheel : ∀ b, h ∈ s.harqTimeoutWheel b ↔
    s.hasHarq h ∧ (s.harq h).status ≠ .empty ∧ b = cfg.wheelIdx (s.harq h).slotTimeout
  pending : h ∈ s.harqPendingRetxList ↔ s.hasHarq h ∧ (s.harq h).status = .pendingRetx

structure NoDuplicates (s : CellHarqRepository Snr) : Prop where
  free : ∀ u, (s.ues u).freeHarqIds.Nodup
  wheel : ∀ b, (s.harqTimeoutWheel b).Nodup
  pending : s.harqPendingRetxList.Nodup

structure HarqInv (cfg : HarqConfig) (s : CellHarqRepository Snr) : Prop where
  linked : ∀ h, s.Linked cfg h
  nodup : s.NoDuplicates
  range : ∀ u, cfg.maxUes ≤ u → (s.ues u).nofHarqs = 0

/-- `s'` differs from `s` in the process `h` and its links only. -/
structure OnlyMoves (h : HarqRef) (s s' : CellHarqRepository Snr) : Prop where
  nof : ∀ u, (s'.ues u).nofHarqs = (s.ues u).nofHarqs
  harq : ∀ g, g ≠ h → s'.harq g = s.harq g
  free : ∀ g, g ≠ h → (g.hId ∈ (s'.ues g.ueIdx).freeHarqIds ↔ g.hId ∈ (s.ues g.ueIdx).freeHarqIds)
  wheel : ∀ g, g ≠ h → ∀ b, g ∈ s'.harqTimeoutWheel b ↔ g ∈ s.harqTimeoutWheel b
  pending : ∀ g, g ≠ h → (g ∈ s'.harqPendingRetxList ↔ g ∈ s.harqPendingRetxList)

section Views

@[simp] lemma harq_modifyHarq_self (f : HarqProcess Snr → HarqProcess Snr) :
    (s.modifyHarq h f).harq h = f (s.harq h) := by
  simp [modifyHarq, modifyUe, harq]

lemma harq_modifyHarq_ne (f : HarqProcess Snr → HarqProcess Snr) (hg : g ≠ h) :
    (s.modifyHarq h f).harq g = s.harq g := by
  unfold modifyHarq modifyUe harq
  by_cases hu : g.ueIdx = h.ueIdx
  · have hid : g.hId ≠ h.hId := by
      intro hid
      cases g
      cases h
      simp_all
    simp [hu, hid]
  · simp [hu]

@[simp] lemma nofHarqs_modifyHarq (f : HarqProcess Snr → HarqProcess Snr) (u : Nat) :
    ((s.modifyHarq h f).ues u).nofHarqs = (s.ues u).nofHarqs := by
  unfold modifyHarq modifyUe
  by_cases hu : u = h.ueIdx
  · subst hu
    simp
  · simp [hu]

@[simp] lemma freeHarqIds_modifyHarq (f : HarqProcess Snr → HarqProcess Snr) (u : Nat) :
    ((s.modifyHarq h f).ues u).freeHarqIds = (s.ues u).freeHarqIds := by
  unfold modifyHarq modifyUe
  by_cases hu : u = h.ueIdx
  · subst hu
    simp
  · simp [hu]

@[simp] lemma wheel_modifyHarq (f : HarqProcess Snr → HarqProcess Snr) :
    (s.modifyHarq h f).harqTimeoutWheel = s.harqTimeoutWheel := rfl

@[simp] lemma pending_modifyHarq (f : HarqProcess Snr → HarqProcess Snr) :
    (s.modifyHarq h f).harqPendingRetxList = s.harqPendingRetxList := rfl

@[simp] lemma hasHarq_modifyHarq (f : HarqProcess Snr → HarqProcess Snr) :
    (s.modifyHarq h f).hasHarq g ↔ s.hasHarq g := by
  unfold hasHarq
  rw [nofHarqs_modifyHarq]

@[simp] lemma wheel_modifyUe (u : Nat) (f : UeHarqEntity Snr → UeHarqEntity Snr) :
    (s.modifyUe u f).harqTimeoutWheel = s.harqTimeoutWheel := rfl

@[simp] lemma pending_modifyUe (u : Nat) (f : UeHarqEntity Snr → UeHarqEntity Snr) :
    (s.modifyUe u f).harqPendingRetxList = s.harqPendingRetxList := rfl

@[simp] lemma ues_modifyUe_self (u : Nat) (f : UeHarqEntity Snr → UeHarqEntity Snr) :
    (s.modifyUe u f).ues u = f (s.ues u) := by
  simp [modifyUe]

lemma ues_modifyUe_ne {u v : Nat} (f : UeHarqEntity Snr → UeHarqEntity Snr) (huv : v ≠ u) :
    (s.modifyUe u f).ues v = s.ues v := by
  simp [modifyUe, huv]

@[simp] lemma nofHarqs_modifyUe (u v : Nat) (f : UeHarqEntity Snr → UeHarqEntity Snr)
    (hf : (f (s.ues u)).nofHarqs = (s.ues u).nofHarqs) :
    ((s.modifyUe u f).ues v).nofHarqs = (s.ues v).nofHarqs := by
  by_cases huv : v = u
  · subst huv
    rw [ues_modifyUe_self, hf]
  · rw [ues_modifyUe_ne f huv]

lemma harq_modifyUe (u : Nat) (f : UeHarqEntity Snr → UeHarqEntity Snr)
    (hf : (f (s.ues u)).harqs = (s.ues u).harqs) : (s.modifyUe u f).harq g = s.harq g := by
  unfold harq
  by_cases hu : g.ueIdx = u
  · subst hu
    rw [ues_modifyUe_self, hf]
  · rw [ues_modifyUe_ne f hu]

lemma freeHarqIds_modifyUe (u v : Nat) (f : UeHarqEntity Snr → UeHarqEntity Snr)
    (hf : (f (s.ues u)).freeHarqIds = (s.ues u).freeHarqIds) :
    ((s.modifyUe u f).ues v).freeHarqIds = (s.ues v).freeHarqIds := by
  by_cases huv : v = u
  · subst huv
    rw [ues_modifyUe_self, hf]
  · rw [ues_modifyUe_ne f huv]

end Views

namespace OnlyMoves

lemma refl (h : HarqRef) (s : CellHarqRepository Snr) : OnlyMoves h s s where
  nof _ := rfl
  harq _ _ := rfl
  free _ _ := Iff.rfl
  wheel _ _ _ := Iff.rfl
  pending _ _ := Iff.rfl

lemma trans (h1 : OnlyMoves h s s') (h2 : OnlyMoves h s' t) : OnlyMoves h s t where
  nof u := (h2.nof u).trans (h1.nof u)
  harq g hg := (h2.harq g hg).trans (h1.harq g hg)
  free g hg := (h2.free g hg).trans (h1.free g hg)
  wheel g hg b := (h2.wheel g hg b).trans (h1.wheel g hg b)
  pending g hg := (h2.pending g hg).trans (h1.pending g hg)

lemma hasHarq (hm : OnlyMoves h s s') (g : HarqRef) : s'.hasHarq g ↔ s.hasHarq g := by
  unfold CellHarqRepository.hasHarq
  rw [hm.nof]

lemma linked (hm : OnlyMoves h s s') (hg : g ≠ h) (hl : s.Linked cfg g) : s'.Linked cfg g where
  ids := by
    rw [hm.hasHarq, hm.harq g hg]
    exact hl.ids
  free := by
    rw [hm.hasHarq, hm.harq g hg, hm.free g hg]
    exact hl.free
  wheel b := by
    rw [hm.hasHarq, hm.harq g hg, hm.wheel g hg b]
    exact hl.wheel b
  pending := by
    rw [hm.hasHarq, hm.harq g hg, hm.pending g hg]
    exact hl.pending

lemma inv (hm : OnlyMoves h s s') (hI : s.HarqInv cfg) (hl : s'.Linked cfg h) (hn : s'.NoDuplicates) :
    s'.HarqInv cfg where
  linked g := by
    by_cases hg : g = h
    · exact hg ▸ hl
    · exact hm.linked hg (hI.linked g)
  nodup := hn
  range u hu := (hm.nof u).trans (hI.range u hu)

end OnlyMoves

section Primitives

lemma onlyMoves_modifyHarq (f : HarqProcess Snr → HarqProcess Snr) : OnlyMoves h s (s.modifyHarq h f) where
  nof _ := nofHarqs_modifyHarq f _
  harq _ hg := harq_modifyHarq_ne f hg
  free g _ := by rw [freeHarqIds_modifyHarq]
  wheel _ _ _ := Iff.rfl
  pending _ _ := Iff.rfl

lemma onlyMoves_updateLastSlots (u : Nat) (slTx slAck : SlotPoint) :
    OnlyMoves h s (s.updateLastSlots u slTx slAck) where
  nof v := nofHarqs_modifyUe u v _ rfl
  harq _ _ := harq_modifyUe u _ rfl
  free g _ := by rw [updateLastSlots, freeHarqIds_modifyUe u g.ueIdx _ rfl]
  wheel _ _ _ := Iff.rfl
  pending _ _ := Iff.rfl

@[simp] lemma wheel_setWheelEntry (b : Nat) (l : List HarqRef) :
    (s.setWheelEntry b l).harqTimeoutWheel = Function.update s.harqTimeoutWheel b l := rfl

lemma ues_pushTimeout (deadline : SlotPoint) : (s.pushTimeout cfg h deadline).ues =
    (s.modifyHarq h fun p => { p with slotTimeout := deadline }).ues := rfl

lemma harq_congr (hu : s.ues = s'.ues) (g : HarqRef) : s.harq g = s'.harq g := by
  unfold harq
  rw [hu]

lemma onlyMoves_pushTimeout (deadline : SlotPoint) : OnlyMoves h s (s.pushTimeout cfg h deadline) where
  nof u := by rw [ues_pushTimeout, nofHarqs_modifyHarq]
  harq g hg := (harq_congr (ues_pushTimeout deadline) g).trans (harq_modifyHarq_ne _ hg)
  free g _ := by rw [ues_pushTimeout, freeHarqIds_modifyHarq]
  wheel g hg b := by
    unfold pushTimeout
    by_cases hb : b = cfg.wheelIdx deadline
    · subst hb
      simp [hg]
    · simp [hb]
  pending _ _ := Iff.rfl

lemma onlyMoves_pushPendingRetx : OnlyMoves h s (s.pushPendingRetx h) where
  nof _ := rfl
  harq _ _ := rfl
  free _ _ := Iff.rfl
  wheel _ _ _ := Iff.rfl
  pending g hg := by simp [pushPendingRetx, hg]

lemma popLinked_ok {l l' : List HarqRef} (hok : popLinked l h = .ok l') : h ∈ l ∧ l' = l.erase h := by
  unfold popLinked at hok
  split at hok
  case isTrue hmem => exact ⟨hmem, (Except.ok.inj hok).symm⟩
  case isFalse => cases hok

lemma popTimeout_ok (hok : s.popTimeout cfg h = .ok s') :
    h ∈ s.harqTimeoutWheel (cfg.wheelIdx (s.harq h).slotTimeout) ∧
      s' = s.setWheelEntry (cfg.wheelIdx (s.harq h).slotTimeout)
        ((s.harqTimeoutWheel (cfg.wheelIdx (s.harq h).slotTimeout)).erase h) := by
  unfold popTimeout at hok
  dsimp only at hok
  cases hpop : popLinked (s.harqTimeoutWheel (cfg.wheelIdx (s.harq h).slotTimeout)) h with
  | error a =>
    rw [hpop] at hok
    cases hok
  | ok l =>
    rw [hpop] at hok
    cases hok
    obtain ⟨hmem, rfl⟩ := popLinked_ok hpop
    exact ⟨hmem, rfl⟩

lemma popPendingRetx_ok (hok : s.popPendingRetx h = .ok s') :
    h ∈ s.harqPendingRetxList ∧ s' = { s with harqPendingRetxList := s.harqPendingRetxList.erase h } := by
  unfold popPendingRetx at hok
  cases hpop : popLinked s.harqPendingRetxList h with
  | error a =>
    rw [hpop] at hok
    cases hok
  | ok l =>
    rw [hpop] at hok
    cases hok
    obtain ⟨hmem, rfl⟩ := popLinked_ok hpop
    exact ⟨hmem, rfl⟩

/-- What unlinking the timer of `h` leaves behind. -/
structure TimerUnlinked (h : HarqRef) (s s' : CellHarqRepository Snr) : Prop where
  moves : OnlyMoves h s s'
  ues : s'.ues = s.ues
  pending : s'.harqPendingRetxList = s.harqPendingRetxList
  lastSlInd : s'.lastSlInd = s.lastSlInd
  trace : s'.trace = s.trace
  nodup : ∀ b, (s'.harqTimeoutWheel b).Nodup
  unlinked : ∀ b, h ∉ s'.harqTimeoutWheel b

lemma popTimeout_spec (hn : ∀ b, (s.harqTimeoutWheel b).Nodup)
    (hw : ∀ b, h ∈ s.harqTimeoutWheel b → b = cfg.wheelIdx (s.harq h).slotTimeout)
    (hok : s.popTimeout cfg h = .ok s') : TimerUnlinked h s s' := by
  obtain ⟨hmem, rfl⟩ := popTimeout_ok hok
  generalize hb0 : cfg.wheelIdx (s.harq h).slotTimeout = b0 at *
  refine ⟨⟨fun _ => rfl, fun _ _ => rfl, fun _ _ => Iff.rfl, fun g hg b => ?_, fun _ _ => Iff.rfl⟩,
    rfl, rfl, rfl, rfl, fun b => ?_, fun b => ?_⟩
  · by_cases hb : b = b0
    · subst hb
      simp [List.mem_erase_of_ne hg]
    · simp [hb]
  · by_cases hb : b = b0
    · subst hb
      simpa using (hn b).erase h
    · simpa [hb] using hn b
  · by_cases hb : b = b0
    · subst hb
      simpa using (hn b).not_mem_erase
    · simpa [hb] using fun hmem' => hb (hw b hmem')

lemma popTimeout_progress (hmem : h ∈ s.harqTimeoutWheel (cfg.wheelIdx (s.harq h).slotTimeout)) :
    ∃ s', s.popTimeout cfg h = .ok s' := by
  unfold popTimeout popLinked
  dsimp only
  rw [if_pos hmem]
  exact ⟨_, rfl⟩

lemma popPendingRetx_progress (hmem : h ∈ s.harqPendingRetxList) : ∃ s', s.popPendingRetx h = .ok s' := by
  unfold popPendingRetx popLinked
  rw [if_pos hmem]
  exact ⟨_, rfl⟩

/-- What unlinking `h` from the pending retransmissions leaves behind. -/
structure RetxUnlinked (h : HarqRef) (s s' : CellHarqRepository Snr) : Prop where
  moves : OnlyMoves h s s'
  ues : s'.ues = s.ues
  wheel : s'.harqTimeoutWheel = s.harqTimeoutWheel
  lastSlInd : s'.lastSlInd = s.lastSlInd
  trace : s'.trace = s.trace
  nodup : s'.harqPendingRetxList.Nodup
  unlinked : h ∉ s'.harqPendingRetxList

lemma popPendingRetx_spec (hn : s.harqPendingRetxList.Nodup) (hok : s.popPendingRetx h = .ok s') :
    RetxUnlinked h s s' := by
  obtain ⟨hmem, rfl⟩ := popPendingRetx_ok hok
  exact ⟨⟨fun _ => rfl, fun _ _ => rfl, fun _ _ => Iff.rfl, fun _ _ _ => Iff.rfl,
    fun g hg => List.mem_erase_of_ne hg⟩, rfl, rfl, rfl, rfl, hn.erase h, hn.not_mem_erase⟩

lemma nodup_pushTimeout (deadline : SlotPoint) (hn : ∀ b, (s.harqTimeoutWheel b).Nodup)
    (hw : ∀ b, h ∉ s.harqTimeoutWheel b) (b : Nat) : ((s.pushTimeout cfg h deadline).harqTimeoutWheel b).Nodup := by
  unfold pushTimeout
  by_cases hb : b = cfg.wheelIdx deadline
  · subst hb
    simpa using ⟨hw _, hn _⟩
  · simpa [hb] using hn b

lemma mem_pushTimeout (deadline : SlotPoint) (hw : ∀ b, h ∉ s.harqTimeoutWheel b) (b : Nat) :
    h ∈ (s.pushTimeout cfg h deadline).harqTimeoutWheel b ↔ b = cfg.wheelIdx deadline := by
  unfold pushTimeout
  by_cases hb : b = cfg.wheelIdx deadline
  · subst hb
    simp
  · simpa [hb] using hw b

@[simp] lemma harq_pushTimeout_self (deadline : SlotPoint) :
    (s.pushTimeout cfg h deadline).harq h = { s.harq h with slotTimeout := deadline } := by
  rw [harq_congr (ues_pushTimeout deadline), harq_modifyHarq_self]

@[simp] lemma freeHarqIds_pushTimeout (deadline : SlotPoint) (u : Nat) :
    ((s.pushTimeout cfg h deadline).ues u).freeHarqIds = (s.ues u).freeHarqIds := by
  rw [ues_pushTimeout, freeHarqIds_modifyHarq]

@[simp] lemma pending_pushTimeout (deadline : SlotPoint) :
    (s.pushTimeout cfg h deadline).harqPendingRetxList = s.harqPendingRetxList := rfl

end Primitives

section Calls

lemma onlyMoves_modifyUe (f : UeHarqEntity Snr → UeHarqEntity Snr)
    (hnof : (f (s.ues h.ueIdx)).nofHarqs = (s.ues h.ueIdx).nofHarqs)
    (hharqs : (f (s.ues h.ueIdx)).harqs = (s.ues h.ueIdx).harqs)
    (hfree : ∀ i, i ≠ h.hId → (i ∈ (f (s.ues h.ueIdx)).freeHarqIds ↔ i ∈ (s.ues h.ueIdx).freeHarqIds)) :
    OnlyMoves h s (s.modifyUe h.ueIdx f) where
  nof v := nofHarqs_modifyUe h.ueIdx v f hnof
  harq _ _ := harq_modifyUe h.ueIdx f hharqs
  free g hg := by
    by_cases hu : g.ueIdx = h.ueIdx
    · have hid : g.hId ≠ h.hId := by
        intro hid
        exact hg (by cases g; cases h; simp_all)
      rw [hu, ues_modifyUe_self]
      exact hfree g.hId hid
    · rw [ues_modifyUe_ne f hu]
  wheel _ _ _ := Iff.rfl
  pending _ _ := Iff.rfl

/-- Effect of a call that leaves `h` empty. -/
structure Dealloced (h : HarqRef) (s s' : CellHarqRepository Snr) : Prop where
  moves : OnlyMoves h s s'
  status : (s'.harq h).status = .empty
  lastSlInd : s'.lastSlInd = s.lastSlInd
  trace : s'.trace = s.trace

/-- Effect of a call that leaves `h` as `p`, linked to the timer wheel by the deadline of `p`. -/
structure Rearmed (h : HarqRef) (p : HarqProcess Snr) (s s' : CellHarqRepository Snr) : Prop where
  moves : OnlyMoves h s s'
  proc : s'.harq h = p
  lastSlInd : s'.lastSlInd = s.lastSlInd

lemma HarqInv.wheel_only (hI : s.HarqInv cfg) (b : Nat) (hb : h ∈ s.harqTimeoutWheel b) :
    b = cfg.wheelIdx (s.harq h).slotTimeout :=
  (((hI.linked h).wheel b).mp hb).2.2

lemma HarqInv.hasHarq_of_wheel (hI : s.HarqInv cfg) {b : Nat} (hb : h ∈ s.harqTimeoutWheel b) : s.hasHarq h :=
  (((hI.linked h).wheel b).mp hb).1

lemma HarqInv.in_wheel (hI : s.HarqInv cfg) (hh : s.hasHarq h) (hst : (s.harq h).status ≠ .empty) :
    h ∈ s.harqTimeoutWheel (cfg.wheelIdx (s.harq h).slotTimeout) :=
  ((hI.linked h).wheel _).mpr ⟨hh, hst, rfl⟩

lemma onlyMoves_releaseHarq (hids : (s.harq h).ueIdx = h.ueIdx ∧ (s.harq h).hId = h.hId) :
    OnlyMoves h s (s.releaseHarq h) := by
  unfold releaseHarq
  simp only [harq_modifyHarq_self, hids.1, hids.2]
  refine (onlyMoves_modifyHarq _).trans (onlyMoves_modifyUe _ rfl rfl ?_)
  intro i hi
  simp [hi]

lemma harq_releaseHarq (g : HarqRef) : (s.releaseHarq h).harq g =
    (s.modifyHarq h fun p => { p with slotTimeout := .invalid, status := .empty }).harq g := by
  unfold releaseHarq
  exact harq_modifyUe _ _ rfl

lemma freeHarqIds_releaseHarq (hids : (s.harq h).ueIdx = h.ueIdx ∧ (s.harq h).hId = h.hId) :
    ((s.releaseHarq h).ues h.ueIdx).freeHarqIds = h.hId :: (s.ues h.ueIdx).freeHarqIds := by
  unfold releaseHarq
  simp only [harq_modifyHarq_self, hids.1, hids.2, ues_modifyUe_self, freeHarqIds_modifyHarq]

lemma releaseHarq_spec (cfg : HarqConfig) (hh : s.hasHarq h) (hids : (s.harq h).ueIdx = h.ueIdx ∧ (s.harq h).hId = h.hId)
    (hfree : h.hId ∉ (s.ues h.ueIdx).freeHarqIds) (hn : s.NoDuplicates)
    (hw : ∀ b, h ∉ s.harqTimeoutWheel b) (hp : h ∉ s.harqPendingRetxList) :
    Dealloced h s (s.releaseHarq h) ∧ (s.releaseHarq h).Linked cfg h ∧ (s.releaseHarq h).NoDuplicates := by
  have hm := onlyMoves_releaseHarq hids
  have hhas : (s.releaseHarq h).hasHarq h := (hm.hasHarq h).mpr hh
  have hproc : (s.releaseHarq h).harq h = { s.harq h with slotTimeout := .invalid, status := .empty } :=
    (harq_releaseHarq h).trans (harq_modifyHarq_self _)
  have hst : ((s.releaseHarq h).harq h).status = .empty := by rw [hproc]
  refine ⟨⟨hm, hst, rfl, rfl⟩, ⟨fun _ => ?_, ?_, fun b => ?_, ?_⟩, ⟨fun u => ?_, hn.wheel, hn.pending⟩⟩
  · rw [hproc]
    exact hids
  · rw [freeHarqIds_releaseHarq hids]
    simp [hhas, hst]
  · simp only [hst, ne_eq, not_true_eq_false, false_and, and_false, iff_false]
    exact hw b
  · simp only [hst, reduceCtorEq, and_false, iff_false]
    exact hp
  · by_cases hu : u = h.ueIdx
    · subst hu
      rw [freeHarqIds_releaseHarq hids]
      exact List.nodup_cons.mpr ⟨hfree, hn.free _⟩
    · have hother : ((s.releaseHarq h).ues u).freeHarqIds = (s.ues u).freeHarqIds := by
        unfold releaseHarq
        simp only [harq_modifyHarq_self, hids.1]
        rw [ues_modifyUe_ne _ hu, freeHarqIds_modifyHarq]
      rw [hother]
      exact hn.free u

lemma HarqInv.popTimeout_retx (hI : s.HarqInv cfg) (h1 : RetxUnlinked h s s') (hok : s'.popTimeout cfg h = .ok t) :
    TimerUnlinked h s' t := by
  refine popTimeout_spec (fun b => h1.wheel ▸ hI.nodup.wheel b) (fun b hb => ?_) hok
  rw [harq_congr h1.ues]
  exact hI.wheel_only b (h1.wheel ▸ hb)

lemma deallocHarq_spec (hI : s.HarqInv cfg) (hh : s.hasHarq h) (hok : s.deallocHarq cfg h = .ok s') :
    s'.HarqInv cfg ∧ Dealloced h s s' := by
  have hl := hI.linked h
  have hids := hl.ids hh
  unfold deallocHarq at hok
  cases hst : (s.harq h).status with
  | empty =>
    rw [hst] at hok
    cases hok
    exact ⟨hI, OnlyMoves.refl h s, hst, rfl, rfl⟩
  | pendingRetx =>
    rw [hst] at hok
    obtain ⟨s1, hpop1, hok⟩ := bind_eq_ok.mp hok
    obtain ⟨s2, hpop2, hok⟩ := bind_eq_ok.mp hok
    cases hok
    have h1 := popPendingRetx_spec hI.nodup.pending hpop1
    have h2 := hI.popTimeout_retx h1 hpop2
    have hm := h1.moves.trans h2.moves
    have hues : s2.ues = s.ues := h2.ues.trans h1.ues
    have hfree : h.hId ∉ (s2.ues h.ueIdx).freeHarqIds := by
      rw [hues]
      intro hmem
      have := (hl.free.mp hmem).2
      rw [hst] at this
      cases this
    have hn : s2.NoDuplicates := ⟨fun u => hues ▸ hI.nodup.free u, h2.nodup, h2.pending ▸ h1.nodup⟩
    obtain ⟨h3, hl3, hn3⟩ := releaseHarq_spec cfg ((hm.hasHarq h).mpr hh)
      (harq_congr hues h ▸ hids) hfree hn h2.unlinked (h2.pending ▸ h1.unlinked)
    exact ⟨(hm.trans h3.moves).inv hI hl3 hn3, hm.trans h3.moves, h3.status,
      h3.lastSlInd.trans (h2.lastSlInd.trans h1.lastSlInd), h3.trace.trans (h2.trace.trans h1.trace)⟩
  | waitingAck =>
    rw [hst] at hok
    obtain ⟨s2, hpop2, hok⟩ := bind_eq_ok.mp hok
    cases hok
    have h2 := popTimeout_spec hI.nodup.wheel hI.wheel_only hpop2
    have hfree : h.hId ∉ (s2.ues h.ueIdx).freeHarqIds := by
      rw [h2.ues]
      intro hmem
      have := (hl.free.mp hmem).2
      rw [hst] at this
      cases this
    have hp : h ∉ s2.harqPendingRetxList := by
      rw [h2.pending, hl.pending, hst]
      simp
    have hn : s2.NoDuplicates := ⟨fun u => h2.ues ▸ hI.nodup.free u, h2.nodup, h2.pending ▸ hI.nodup.pending⟩
    obtain ⟨h3, hl3, hn3⟩ := releaseHarq_spec cfg ((h2.moves.hasHarq h).mpr hh)
      (harq_congr h2.ues h ▸ hids) hfree hn h2.unlinked hp
    exact ⟨(h2.moves.trans h3.moves).inv hI hl3 hn3, h2.moves.trans h3.moves, h3.status,
      h3.lastSlInd.trans h2.lastSlInd, h3.trace.trans h2.trace⟩

lemma deallocHarq_progress (hI : s.HarqInv cfg) (hh : s.hasHarq h) : ∃ s', s.deallocHarq cfg h = .ok s' := by
  unfold deallocHarq
  cases hst : (s.harq h).status with
  | empty => exact ⟨s, rfl⟩
  | pendingRetx =>
    obtain ⟨s1, hpop1⟩ := popPendingRetx_progress (((hI.linked h).pending).mpr ⟨hh, hst⟩)
    have h1 := popPendingRetx_spec hI.nodup.pending hpop1
    have hmem : h ∈ s1.harqTimeoutWheel (cfg.wheelIdx (s1.harq h).slotTimeout) := by
      rw [h1.wheel, harq_congr h1.ues]
      exact hI.in_wheel hh (by rw [hst]; simp)
    obtain ⟨s2, hpop2⟩ := popTimeout_progress hmem
    exact ⟨s2.releaseHarq h, bind_eq_ok.mpr ⟨s1, hpop1, bind_eq_ok.mpr ⟨s2, hpop2, rfl⟩⟩⟩
  | waitingAck =>
    obtain ⟨s2, hpop2⟩ := popTimeout_progress (hI.in_wheel hh (by rw [hst]; simp))
    exact ⟨s2.releaseHarq h, bind_eq_ok.mpr ⟨s2, hpop2, rfl⟩⟩

lemma HarqInv.rearm {p : HarqProcess Snr} (hI : s.HarqInv cfg) (hr : Rearmed h p s s') (hh : s.hasHarq h)
    (hids : p.ueIdx = h.ueIdx ∧ p.hId = h.hId) (hst : p.status ≠ .empty)
    (hfree : h.hId ∉ (s'.ues h.ueIdx).freeHarqIds)
    (hw : ∀ b, h ∈ s'.harqTimeoutWheel b ↔ b = cfg.wheelIdx p.slotTimeout)
    (hp : h ∈ s'.harqPendingRetxList ↔ p.status = .pendingRetx) (hn : s'.NoDuplicates) : s'.HarqInv cfg := by
  have hhas : s'.hasHarq h := (hr.moves.hasHarq h).mpr hh
  refine hr.moves.inv hI ⟨fun _ => ?_, ?_, fun b => ?_, ?_⟩ hn
  · rw [hr.proc]
    exact hids
  · rw [hr.proc]
    simp [hst, hfree]
  · rw [hr.proc]
    simp [hhas, hst, hw b]
  · rw [hr.proc]
    simp [hhas, hp]

lemma HarqInv.modifyHarq (hI : s.HarqInv cfg) {f : HarqProcess Snr → HarqProcess Snr}
    (hids : (f (s.harq h)).ueIdx = (s.harq h).ueIdx ∧ (f (s.harq h)).hId = (s.harq h).hId)
    (hst : (f (s.harq h)).status = (s.harq h).status)
    (hto : (f (s.harq h)).slotTimeout = (s.harq h).slotTimeout) : (s.modifyHarq h f).HarqInv cfg := by
  have hl := hI.linked h
  refine (onlyMoves_modifyHarq f).inv hI ⟨fun hh => ?_, ?_, fun b => ?_, ?_⟩ ⟨fun u => ?_, hI.nodup.wheel, hI.nodup.pending⟩
  · rw [harq_modifyHarq_self, hids.1, hids.2]
    exact hl.ids ((hasHarq_modifyHarq f).mp hh)
  · rw [freeHarqIds_modifyHarq, hasHarq_modifyHarq, harq_modifyHarq_self, hst]
    exact hl.free
  · rw [wheel_modifyHarq, hasHarq_modifyHarq, harq_modifyHarq_self, hst, hto]
    exact hl.wheel b
  · rw [pending_modifyHarq, hasHarq_modifyHarq, harq_modifyHarq_self, hst]
    exact hl.pending
  · rw [freeHarqIds_modifyHarq]
    exact hI.nodup.free u

lemma record_inv (hI : s.HarqInv cfg) (t : HarqTrace) : (s.record t).HarqInv cfg :=
  ⟨fun h => ⟨(hI.linked h).ids, (hI.linked h).free, (hI.linked h).wheel, (hI.linked h).pending⟩,
    ⟨hI.nodup.free, hI.nodup.wheel, hI.nodup.pending⟩, hI.range⟩

lemma rearmed_record {p : HarqProcess Snr} (hr : Rearmed h p s s') (t : HarqTrace) :
    Rearmed h p s (s'.record t) :=
  ⟨⟨hr.moves.nof, hr.moves.harq, hr.moves.free, hr.moves.wheel, hr.moves.pending⟩, hr.proc, hr.lastSlInd⟩

def newTxProcess (cfg : HarqConfig) (p : HarqProcess Snr) (slTx slAck : SlotPoint) (maxNofHarqRetxs : Nat) :
    HarqProcess Snr :=
  { p.newTx slTx slAck maxNofHarqRetxs with
    slotTimeout := (slAck.add cfg.maxAckWaitInSlots).sub cfg.ntnCsKoffset }

def newRetxProcess (cfg : HarqConfig) (p : HarqProcess Snr) (slTx slAck : SlotPoint) : HarqProcess Snr :=
  { p.newRetx slTx slAck with slotTimeout := slAck.add cfg.maxAckWaitInSlots }

lemma startNewTx_spec {rest : List Nat} (slTx slAck : SlotPoint) (m : Nat) (hI : s.HarqInv cfg)
    (hfree : (s.ues h.ueIdx).freeHarqIds = h.hId :: rest) :
    (s.startNewTx cfg h rest slTx slAck m).HarqInv cfg ∧
      Rearmed h (newTxProcess cfg (s.harq h) slTx slAck m) s (s.startNewTx cfg h rest slTx slAck m) ∧
      (s.startNewTx cfg h rest slTx slAck m).trace = s.trace ++
        [.ackDeadline h slAck ((slAck.add cfg.maxAckWaitInSlots).sub cfg.ntnCsKoffset)] := by
  have hl := hI.linked h
  have hmem : h.hId ∈ (s.ues h.ueIdx).freeHarqIds := by simp [hfree]
  obtain ⟨hh, hempty⟩ := hl.free.mp hmem
  have hnodup : h.hId ∉ rest ∧ rest.Nodup := List.nodup_cons.mp (hfree ▸ hI.nodup.free h.ueIdx)
  have hunlinked : ∀ b, h ∉ s.harqTimeoutWheel b := by
    intro b hb
    exact ((hl.wheel b).mp hb).2.1 hempty
  unfold startNewTx
  dsimp only
  generalize hd : (slAck.add cfg.maxAckWaitInSlots).sub cfg.ntnCsKoffset = deadline
  let s1 := s.modifyUe h.ueIdx fun ue => { ue with freeHarqIds := rest }
  let s2 := (s1.modifyHarq h fun p => p.newTx slTx slAck m).updateLastSlots h.ueIdx slTx slAck
  have hm1 : OnlyMoves h s s1 := onlyMoves_modifyUe _ rfl rfl (by intro i hi; simp [hfree, hi])
  have hm2 : OnlyMoves h s1 s2 := (onlyMoves_modifyHarq _).trans (onlyMoves_updateLastSlots _ _ _)
  have hharq2 : s2.harq h = (s.harq h).newTx slTx slAck m := by
    change (CellHarqRepository.updateLastSlots _ _ _ _).harq h = _
    rw [updateLastSlots, harq_modifyUe _ _ rfl, harq_modifyHarq_self]
    rw [show s1.harq h = s.harq h from harq_modifyUe _ _ rfl]
  have hfree2 : ∀ u, (s2.ues u).freeHarqIds = if u = h.ueIdx then rest else (s.ues u).freeHarqIds := by
    intro u
    change ((CellHarqRepository.updateLastSlots _ _ _ _).ues u).freeHarqIds = _
    rw [updateLastSlots, freeHarqIds_modifyUe _ _ _ rfl, freeHarqIds_modifyHarq]
    split
    case isTrue hu => rw [hu, ues_modifyUe_self]
    case isFalse hu => rw [ues_modifyUe_ne _ hu]
  have hr : Rearmed h (newTxProcess cfg (s.harq h) slTx slAck m) s (s2.pushTimeout cfg h deadline) := by
    refine ⟨hm1.trans (hm2.trans (onlyMoves_pushTimeout deadline)), ?_, rfl⟩
    rw [harq_pushTimeout_self, hharq2, newTxProcess, hd]
  have hw2 : ∀ b, h ∉ s2.harqTimeoutWheel b := hunlinked
  have hinv : (s2.pushTimeout cfg h deadline).HarqInv cfg := by
    refine hI.rearm hr hh (hl.ids hh) (by simp [newTxProcess, HarqProcess.newTx]) ?_ ?_ ?_ ⟨fun u => ?_, ?_, ?_⟩
    · rw [freeHarqIds_pushTimeout, hfree2, if_pos rfl]
      exact hnodup.1
    · intro b
      rw [mem_pushTimeout deadline hw2, newTxProcess, hd]
    · have hp : h ∉ s.harqPendingRetxList := by simp [hl.pending, hempty]
      exact ⟨fun hmem => absurd hmem hp, fun hst => absurd hst (by simp [newTxProcess, HarqProcess.newTx])⟩
    · rw [freeHarqIds_pushTimeout, hfree2]
      split
      · exact hnodup.2
      · exact hI.nodup.free u
    · exact nodup_pushTimeout deadline hI.nodup.wheel hw2
    · exact hI.nodup.pending
  exact ⟨record_inv hinv _, rearmed_record hr _, rfl⟩

lemma startRetx_spec {slTx slAck : SlotPoint} (hI : s.HarqInv cfg) (hh : s.hasHarq h)
    (hok : s.handleNewRetx cfg h slTx slAck = .ok (t, true)) :
    (s.harq h).status = .pendingRetx ∧ t.HarqInv cfg ∧
      Rearmed h (newRetxProcess cfg (s.harq h) slTx slAck) s t ∧
      t.trace = s.trace ++ [.ackDeadline h slAck (slAck.add cfg.maxAckWaitInSlots)] := by
  have hl := hI.linked h
  unfold handleNewRetx at hok
  split at hok
  case isFalse => cases hok
  case isTrue hst =>
    obtain ⟨s1, hpop1, hok⟩ := bind_eq_ok.mp hok
    obtain ⟨s2, hpop2, hok⟩ := bind_eq_ok.mp hok
    cases hok
    have h1 := popPendingRetx_spec hI.nodup.pending hpop1
    have h2 := hI.popTimeout_retx h1 hpop2
    have hues : s2.ues = s.ues := h2.ues.trans h1.ues
    unfold startRetx
    dsimp only
    generalize hd : slAck.add cfg.maxAckWaitInSlots = deadline
    let s3 := s2.modifyHarq h fun p => p.newRetx slTx slAck
    let s4 := s3.updateLastSlots (s3.harq h).ueIdx slTx slAck
    have hm4 : OnlyMoves h s s4 := h1.moves.trans (h2.moves.trans
      ((onlyMoves_modifyHarq _).trans (onlyMoves_updateLastSlots _ _ _)))
    have hharq4 : s4.harq h = (s.harq h).newRetx slTx slAck := by
      change (CellHarqRepository.updateLastSlots _ _ _ _).harq h = _
      rw [updateLastSlots, harq_modifyUe _ _ rfl, harq_modifyHarq_self, harq_congr hues]
    have hfree4 : ∀ u, (s4.ues u).freeHarqIds = (s.ues u).freeHarqIds := by
      intro u
      change ((CellHarqRepository.updateLastSlots _ _ _ _).ues u).freeHarqIds = _
      rw [updateLastSlots, freeHarqIds_modifyUe _ _ _ rfl, freeHarqIds_modifyHarq, hues]
    have hw4 : ∀ b, h ∉ s4.harqTimeoutWheel b := h2.unlinked
    have hpending4 : s4.harqPendingRetxList = s1.harqPendingRetxList := h2.pending
    have hr : Rearmed h (newRetxProcess cfg (s.harq h) slTx slAck) s (s4.pushTimeout cfg h deadline) := by
      refine ⟨hm4.trans (onlyMoves_pushTimeout deadline), ?_, h2.lastSlInd.trans h1.lastSlInd⟩
      rw [harq_pushTimeout_self, hharq4, newRetxProcess, hd]
    have hinv : (s4.pushTimeout cfg h deadline).HarqInv cfg := by
      refine hI.rearm hr hh (hl.ids hh) (by simp [newRetxProcess, HarqProcess.newRetx]) ?_ ?_ ?_
        ⟨fun u => ?_, ?_, ?_⟩
      · rw [freeHarqIds_pushTimeout, hfree4]
        intro hmem
        exact absurd ((hl.free.mp hmem).2.symm.trans hst) (by simp)
      · intro b
        rw [mem_pushTimeout deadline hw4, newRetxProcess, hd]
      · rw [pending_pushTimeout, hpending4]
        exact ⟨fun hmem => absurd hmem h1.unlinked,
          fun hst => absurd hst (by simp [newRetxProcess, HarqProcess.newRetx])⟩
      · rw [freeHarqIds_pushTimeout, hfree4]
        exact hI.nodup.free u
      · exact nodup_pushTimeout deadline h2.nodup hw4
      · rw [pending_pushTimeout, hpending4]
        exact h1.nodup
    have htrace : s2.trace = s.trace := h2.trace.trans h1.trace
    exact ⟨hst, record_inv hinv _, rearmed_record hr _, congrArg (· ++ _) htrace⟩

lemma relink_spec (hI : s.HarqInv cfg) (hh : s.hasHarq h) (hst : (s.harq h).status = .waitingAck)
    (hok : s.popTimeout cfg h = .ok t) (deadline : SlotPoint) :
    (t.pushTimeout cfg h deadline).HarqInv cfg ∧
      Rearmed h { s.harq h with slotTimeout := deadline } s (t.pushTimeout cfg h deadline) ∧
      t.lastSlInd = s.lastSlInd ∧ t.trace = s.trace := by
  have hl := hI.linked h
  have h2 := popTimeout_spec hI.nodup.wheel hI.wheel_only hok
  have hr : Rearmed h { s.harq h with slotTimeout := deadline } s (t.pushTimeout cfg h deadline) := by
    refine ⟨h2.moves.trans (onlyMoves_pushTimeout deadline), ?_, h2.lastSlInd⟩
    rw [harq_pushTimeout_self, harq_congr h2.ues]
  refine ⟨hI.rearm hr hh (hl.ids hh) (by simp [hst]) ?_ ?_ ?_ ⟨fun u => ?_, ?_, ?_⟩, hr, h2.lastSlInd, h2.trace⟩
  · rw [freeHarqIds_pushTimeout, h2.ues]
    intro hmem
    exact absurd ((hl.free.mp hmem).2.symm.trans hst) (by simp)
  · intro b
    exact mem_pushTimeout deadline h2.unlinked b
  · rw [pending_pushTimeout, h2.pending, hl.pending]
    simp [hst]
  · rw [freeHarqIds_pushTimeout, h2.ues]
    exact hI.nodup.free u
  · exact nodup_pushTimeout deadline h2.nodup h2.unlinked
  · rw [pending_pushTimeout, h2.pending]
    exact hI.nodup.pending

lemma markPendingRetx_inv (hI : s.HarqInv cfg) (hh : s.hasHarq h) (hst : (s.harq h).status = .waitingAck) :
    ((s.pushPendingRetx h).modifyHarq h fun p => { p with status := .pendingRetx }).HarqInv cfg := by
  have hl := hI.linked h
  have hnot : h ∉ s.harqPendingRetxList := by simp [hl.pending, hst]
  have hr : Rearmed h { s.harq h with status := .pendingRetx } s
      ((s.pushPendingRetx h).modifyHarq h fun p => { p with status := .pendingRetx }) :=
    ⟨onlyMoves_pushPendingRetx.trans (onlyMoves_modifyHarq _), harq_modifyHarq_self _, rfl⟩
  refine hI.rearm hr hh (hl.ids hh) (by simp) ?_ ?_ ?_ ⟨fun u => ?_, hI.nodup.wheel, ?_⟩
  · rw [freeHarqIds_modifyHarq]
    intro hmem
    exact absurd ((hl.free.mp hmem).2.symm.trans hst) (by simp)
  · intro b
    rw [wheel_modifyHarq]
    exact (hl.wheel b).trans ⟨fun hb => hb.2.2, fun hb => ⟨hh, by simp [hst], hb⟩⟩
  · simp [pushPendingRetx]
  · rw [freeHarqIds_modifyHarq]
    exact hI.nodup.free u
  · rw [pending_modifyHarq]
    refine List.nodup_append.mpr ⟨hI.nodup.pending, List.nodup_singleton h, fun g hg g' hg' heq => ?_⟩
    rw [heq, List.mem_singleton.mp hg'] at hg
    exact hnot hg

lemma setPendingRetx_spec (hI : s.HarqInv cfg) (hh : s.hasHarq h) (hst : (s.harq h).status = .waitingAck)
    (hok : s.setPendingRetx cfg h = .ok t) :
    t.HarqInv cfg ∧ t.trace = s.trace ∧ Rearmed h
      { s.harq h with slotTimeout := s.lastSlInd.add cfg.harqRetxTimeout, status := .pendingRetx } s t := by
  unfold setPendingRetx at hok
  rw [hst] at hok
  obtain ⟨s1, hpop, hok⟩ := bind_eq_ok.mp hok
  cases hok
  obtain ⟨hinv, hr, hlast, htrace⟩ := relink_spec hI hh hst hpop (s1.lastSlInd.add cfg.harqRetxTimeout)
  have hst1 : ((s1.pushTimeout cfg h (s1.lastSlInd.add cfg.harqRetxTimeout)).harq h).status = .waitingAck := by
    rw [hr.proc]
    exact hst
  refine ⟨markPendingRetx_inv hinv ((hr.moves.hasHarq h).mpr hh) hst1, htrace,
    hr.moves.trans (onlyMoves_pushPendingRetx.trans (onlyMoves_modifyHarq _)), ?_, hlast⟩
  rw [harq_modifyHarq_self]
  change { (s1.pushTimeout cfg h _).harq h with status := .pendingRetx } = _
  rw [hr.proc, hlast]

end Calls

end CellHarqRepository

end OwlsRan.Sched
