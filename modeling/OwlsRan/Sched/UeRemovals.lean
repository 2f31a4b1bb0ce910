import OwlsRan.Sched.UeLifecycle

/-!
# Removals by the own request

A request names the UE by its index only.
-/

namespace OwlsRan.Sched

open Lib Adt Ran

namespace UeRepository

variable {cfg : UeRepositoryConfig} {s t : UeRepository}

def MarksOnce (s : UeRepository) : UeRepositoryEvent → Prop
  | .scheduleUeRem ueIndex => s.ues.contains ueIndex = true → ∀ p ∈ s.pending, p.2.ueIndex ≠ ueIndex
  | .addUe _ _ _ => True
  | .reconfigureUe _ _ => True
  | .slotIndication _ _ => True
  | .handleCellDeactivation _ => True

instance (s : UeRepository) : ∀ e, Decidable (s.MarksOnce e)
  | .scheduleUeRem _ => inferInstanceAs (Decidable (_ = true → ∀ p ∈ _, _))
  | .addUe _ _ _ => inferInstanceAs (Decidable True)
  | .reconfigureUe _ _ => inferInstanceAs (Decidable True)
  | .slotIndication _ _ => inferInstanceAs (Decidable True)
  | .handleCellDeactivation _ => inferInstanceAs (Decidable True)

def MarkedBy (s : UeRepository) (event ue : ℕ) : Prop := ∃ m ∈ s.marks, m.event = event ∧ m.ue.number = ue

structure OwnMarks (s : UeRepository) : Prop where
  own : ∀ p ∈ s.pending, ∀ n, s.numberAt p.2.ueIndex = some n → s.MarkedBy p.2.number n
  indexes : (s.pending.map fun p => p.2.ueIndex).Nodup
  finished : ∀ m ∈ s.marks, m.event ∈ s.completed → ∀ i, s.numberAt i ≠ some m.ue.number
  removed : ∀ r ∈ s.removed, ∀ n activeCells, r.cause = .event n activeCells → s.MarkedBy n r.ue.number

def Awaited (s : UeRepository) : Prop := ∀ p ∈ s.pending, (s.numberAt p.2.ueIndex).isSome = true

lemma numberAt_isSome (s : UeRepository) (i : ℕ) : (s.numberAt i).isSome = s.ues.contains i := by
  rw [numberAt, Option.isSome_map]
  rfl

lemma OwnMarks.remUe (h : OwnMarks s) {u : Ue} {cause : RemovalCause}
    (hcause : ∀ n activeCells, cause = .event n activeCells → s.MarkedBy n u.number)
    (ht : s.remUe u cause = .ok t) : OwnMarks t := by
  have hnumber := remUe_numberAt ht
  obtain ⟨cellUes, -, rfl⟩ := remUe_ok ht
  refine ⟨fun p hp n hn => ?_, h.indexes, fun m hm hev i hi => ?_, fun r hr n activeCells hn => ?_⟩
  · rw [hnumber] at hn
    exact h.own p hp n (numberAt_of_update hn).2
  · rw [hnumber] at hi
    exact h.finished m hm hev i (numberAt_of_update hi).2
  · rcases List.mem_append.mp hr with hr | hr
    · exact h.removed r hr n activeCells hn
    · rw [List.mem_singleton.mp hr] at hn ⊢
      exact hcause n activeCells hn

variable {i ueIndex : ℕ}

lemma OwnMarks.resetEvent (h : OwnMarks s) {slot : SlotPoint} {ev : UeConfigDeleteEvent}
    (hi : s.uesToRem[i]? = some (slot, some ev))
    (hgone : ∀ m ∈ s.marks, m.event = ev.number → ∀ i, s.numberAt i ≠ some m.ue.number) :
    OwnMarks (s.resetEvent i slot ev) := by
  have hperm := pending_resetEvent hi
  refine ⟨fun p hp => h.own p (hperm.mem_iff.mpr (List.mem_cons_of_mem _ hp)), ?_, fun m hm hev => ?_, h.removed⟩
  · have hnodup := (hperm.map fun p => p.2.ueIndex).nodup_iff.mp h.indexes
    exact (List.nodup_cons.mp hnodup).2
  · rcases List.mem_append.mp hev with hev | hev
    · exact h.finished m hm hev
    · exact hgone m hm (List.mem_singleton.mp hev)

lemma Sound.gone_of_none (h : Sound cfg s) {m : RemovalMark} (hm : m ∈ s.marks)
    (hnone : s.numberAt m.ue.ueIndex = none) (i : ℕ) : s.numberAt i ≠ some m.ue.number := by
  intro hi
  rw [(h.recorded.markedUes m hm).2 i hi, hnone] at hi
  cases hi

lemma Sound.mark_unique (h : Sound cfg s) {m m' : RemovalMark} (hm : m ∈ s.marks) (hm' : m' ∈ s.marks)
    (hevent : m.event = m'.event) : m = m' :=
  List.inj_on_of_nodup_map h.recorded.markedEvents.1 hm hm' hevent

lemma Sound.mark_index (h : Sound cfg s) {p : SlotPoint × UeConfigDeleteEvent} (hp : p ∈ s.pending) {m : RemovalMark}
    (hm : m ∈ s.marks) (hevent : m.event = p.2.number) : m.ue.ueIndex = p.2.ueIndex := by
  obtain ⟨m', hm', hevent', hindex, -⟩ := h.recorded.marked p hp
  rw [h.mark_unique hm hm' (hevent.trans hevent'.symm)]
  exact hindex

structure Owned (cfg : UeRepositoryConfig) (s : UeRepository) : Prop where
  sound : Sound cfg s
  marks : OwnMarks s
  awaited : Awaited s

lemma processRemoval_owned (h : Owned cfg s) {activeHarqs : ℕ → ℕ → Bool}
    (ht : processRemoval (slotAt cfg s.now) activeHarqs s i = .ok t) : Owned cfg t := by
  have hsound := (processRemoval_sound h.sound ht).1
  rcases processRemoval_ok ht with rfl | ⟨slot, ev, hi, -, -, ⟨hnone, rfl⟩ | ⟨u, s', hu, -, hs', rfl⟩⟩
  · exact h
  · have hawaited := h.awaited _ (mem_pending_of_get hi)
    rw [numberAt, hnone] at hawaited
    cases hawaited
  · obtain ⟨hindex, hnumber⟩ := numberAt_of_find? h.sound.lookups hu
    have hp := mem_pending_of_get hi
    have hown := h.marks.own _ hp u.number (by rw [hindex]; exact hnumber)
    have hnumbers := remUe_numberAt hs'
    have hring : s'.uesToRem[i]? = some (slot, some ev) := by
      rw [remUe_ring hs']
      exact hi
    have hmarks : s'.marks = s.marks := by
      obtain ⟨cellUes, -, rfl⟩ := remUe_ok hs'
      rfl
    have hpending : s'.pending = s.pending := by rw [pending, pending, remUe_ring hs']
    refine ⟨hsound, (h.marks.remUe (fun n activeCells hn => ?_) hs').resetEvent hring fun m hm hevent j hj => ?_,
      fun p hp' => ?_⟩
    · obtain ⟨rfl, -⟩ := RemovalCause.event.inj hn
      exact hown
    · rw [hnumbers] at hj
      obtain ⟨hne, hj⟩ := numberAt_of_update hj
      rw [hmarks] at hm
      refine hne (((h.sound.recorded.markedUes m hm).2 j hj).trans ?_)
      exact (h.sound.mark_index hp hm hevent).trans hindex
    · have hperm := pending_resetEvent hring
      have hp'' : p ∈ s.pending := by
        rw [← hpending]
        exact hperm.mem_iff.mpr (List.mem_cons_of_mem _ hp')
      have hne : p.2.ueIndex ≠ u.ueIndex := by
        have hnodup : (s'.pending.map fun p => p.2.ueIndex).Nodup := by
          rw [hpending]
          exact h.marks.indexes
        have hhead := (List.nodup_cons.mp ((hperm.map fun p => p.2.ueIndex).nodup_iff.mp hnodup)).1
        intro heq
        exact hhead (List.mem_map.mpr ⟨p, hp', heq.trans hindex.symm⟩)
      change (s'.numberAt p.2.ueIndex).isSome = true
      rw [hnumbers, Function.update_of_ne hne]
      exact h.awaited p hp''

lemma slotIndication_owned (h : Owned cfg s) {slots : ℕ} {activeHarqs : ℕ → ℕ → Bool}
    (ht : s.slotIndication cfg slots activeHarqs = .ok t) : Owned cfg t := by
  have hsound := slotIndication_sound h.sound ht
  obtain ⟨s', hloop, rfl⟩ := map_eq_ok.mp ht
  have hstart : Owned cfg { s with lastSlTx := slotAt cfg (s.now + slots), now := s.now + slots } :=
    ⟨h.sound.advance slots, ⟨h.marks.own, h.marks.indexes, h.marks.finished, h.marks.removed⟩, h.awaited⟩
  obtain ⟨hend, -⟩ := (yields_foldlM (E := fun _ => True)
    (I := fun r => Owned cfg r ∧ r.now = s.now + slots) ⟨hstart, rfl⟩ fun r i _ hr => by
      refine yields_iff.mpr ⟨fun r' hr' => ?_, fun _ _ => trivial⟩
      rw [← hr.2] at hr'
      exact ⟨processRemoval_owned hr.1 hr', (processRemoval_sound hr.1.sound hr').2.trans hr.2⟩).of_ok hloop
  have hpending : pending { s' with uesToRem := s'.uesToRem.dropWhile fun p => p.2.isNone } = s'.pending :=
    pending_dropWhile _
  refine ⟨hsound, ⟨?_, ?_, hend.marks.finished, hend.marks.removed⟩, ?_⟩
  · rw [hpending]
    exact hend.marks.own
  · rw [hpending]
    exact hend.marks.indexes
  · unfold Awaited
    rw [hpending]
    exact hend.awaited

lemma addUe_owned (h : Owned cfg s) {crnti : ℕ} {cells : List ℕ} (ht : s.addUe ueIndex crnti cells = .ok t) :
    Owned cfg t := by
  have hsound := addUe_sound h.sound ht
  obtain ⟨hnone, hnumber⟩ := addUe_numberAt ht
  obtain ⟨-, -, -, cellUes, -, rfl⟩ := addUe_ok ht
  have hold : ∀ p ∈ s.pending, p.2.ueIndex ≠ ueIndex := by
    intro p hp heq
    have hawaited := h.awaited p hp
    rw [heq, hnone] at hawaited
    cases hawaited
  refine ⟨hsound, ⟨fun p hp n hn => ?_, h.marks.indexes, fun m hm hev i hi => ?_, h.marks.removed⟩, fun p hp => ?_⟩
  · rw [hnumber, Function.update_of_ne (hold p hp)] at hn
    exact h.marks.own p hp n hn
  · rw [hnumber] at hi
    by_cases hne : i = ueIndex
    · subst hne
      rw [Function.update_self] at hi
      have hlt := (h.sound.recorded.markedUes m hm).1
      rw [← Option.some.inj hi] at hlt
      exact Nat.lt_irrefl _ hlt
    · rw [Function.update_of_ne hne] at hi
      exact h.marks.finished m hm hev i hi
  · rw [hnumber, Function.update_of_ne (hold p hp)]
    exact h.awaited p hp

lemma reconfigureUe_owned (h : Owned cfg s) {cells : List ℕ}
    (ht : s.reconfigureUe ueIndex cells = .ok t) : Owned cfg t := by
  have hsound := reconfigureUe_sound h.sound ht
  have hnumber := reconfigureUe_numberAt ht
  obtain ⟨u, -, left, joined, -, -, rfl⟩ := reconfigureUe_ok ht
  refine ⟨hsound, ⟨?_, h.marks.indexes, ?_, h.marks.removed⟩, ?_⟩
  · rw [hnumber]
    exact h.marks.own
  · rw [hnumber]
    exact h.marks.finished
  · unfold Awaited
    rw [hnumber]
    exact h.awaited

lemma scheduleUeRem_owned (h : Owned cfg s) (hC : s.MarksOnce (.scheduleUeRem ueIndex))
    (ht : s.scheduleUeRem cfg ueIndex = .ok t) : Owned cfg t := by
  have hsound := scheduleUeRem_sound h.sound ht
  have hfresh : s.nofEvents ∉ s.completed := by
    intro hmem
    have hn := h.sound.recorded.events s.nofEvents
    have := List.count_pos_iff.mpr hmem
    rw [if_neg (Nat.lt_irrefl _)] at hn
    omega
  rcases scheduleUeRem_ok ht with ⟨-, rfl⟩ | ⟨u, hu, rfl⟩
  · refine ⟨hsound, ⟨h.marks.own, h.marks.indexes, fun m hm hev => ?_, h.marks.removed⟩, h.awaited⟩
    rcases List.mem_append.mp hev with hev | hev
    · exact h.marks.finished m hm hev
    · have := h.sound.recorded.markedEvents.2 m hm
      rw [List.mem_singleton.mp hev] at this
      exact absurd this (Nat.lt_irrefl _)
  · obtain ⟨hindex, hnumber⟩ := numberAt_of_find? h.sound.lookups hu
    set m : RemovalMark := ⟨s.nofEvents, u, s.now, removalDelay cfg u⟩ with hm
    set ev : UeConfigDeleteEvent := ⟨s.nofEvents, ueIndex⟩ with hev
    set slot := s.lastSlTx.add (removalDelay cfg u) with hslot
    have hpending : ∀ r : UeRepository, r.uesToRem = s.uesToRem ++ [(slot, some ev)] →
        r.pending = s.pending ++ [(slot, ev)] := by
      intro r hr
      rw [pending, pending, hr, List.filterMap_append]
      rfl
    refine ⟨hsound, ⟨fun p hp n hn => ?_, ?_, fun m' hm' hcompleted => ?_, fun r hr n activeCells hn => ?_⟩,
      fun p hp => ?_⟩
    · rw [hpending _ rfl] at hp
      rcases List.mem_append.mp hp with hp | hp
      · obtain ⟨m', hm', hrest⟩ := h.marks.own p hp n hn
        exact ⟨m', List.mem_append_left _ hm', hrest⟩
      · rw [List.mem_singleton.mp hp] at hn ⊢
        refine ⟨m, List.mem_append_right _ List.mem_cons_self, rfl, ?_⟩
        change s.numberAt ueIndex = some n at hn
        rw [hindex, hnumber] at hn
        exact Option.some.inj hn
    · rw [hpending _ rfl, List.map_append]
      refine h.marks.indexes.append (List.nodup_singleton _) fun i hi hi' => ?_
      obtain ⟨p, hp, rfl⟩ := List.mem_map.mp hi
      rw [List.map_singleton, List.mem_singleton] at hi'
      exact hC (FlatMap.contains_iff.mpr ⟨u, hu⟩) p hp hi'
    · rcases List.mem_append.mp hm' with hm' | hm'
      · exact h.marks.finished m' hm' hcompleted
      · rw [List.mem_singleton.mp hm'] at hcompleted
        exact absurd hcompleted hfresh
    · obtain ⟨m', hm', hrest⟩ := h.marks.removed r hr n activeCells hn
      exact ⟨m', List.mem_append_left _ hm', hrest⟩
    · rw [hpending _ rfl] at hp
      rcases List.mem_append.mp hp with hp | hp
      · exact h.awaited p hp
      · rw [List.mem_singleton.mp hp]
        change (s.numberAt ueIndex).isSome = true
        rw [hindex, hnumber]
        rfl

lemma deactivateCellOf_ownMarks (hsound : Sound cfg s) (h : OwnMarks s) {cellIndex : ℕ}
    (ht : deactivateCellOf cellIndex s i = .ok t) : OwnMarks t := by
  rcases deactivateCellOf_ok ht with rfl | ⟨u, hu, -, ht⟩
  · exact h
  · exact h.remUe (fun _ _ hn => RemovalCause.noConfusion hn) ht

lemma resetOrphans_owned (hsound : Sound cfg s) (h : OwnMarks s) : Owned cfg s.resetOrphans := by
  have hpending := pending_resetOrphans s
  refine ⟨resetOrphans_sound hsound, ⟨?_, ?_, fun m hm hev => ?_, h.removed⟩, ?_⟩
  · rw [hpending]
    exact fun p hp => h.own p (List.mem_of_mem_filter hp)
  · rw [hpending]
    exact h.indexes.sublist ((List.filter_sublist).map _)
  · rcases List.mem_append.mp hev with hev | hev
    · exact h.finished m hm hev
    · obtain ⟨ev, hev, hnumber⟩ := List.mem_map.mp hev
      obtain ⟨hring, habsent⟩ := List.mem_filter.mp hev
      obtain ⟨p, hp, hsome⟩ := List.mem_filterMap.mp hring
      have hwaits : (p.1, ev) ∈ s.pending := List.mem_filterMap.mpr ⟨p, hp, by rw [hsome]; rfl⟩
      refine hsound.gone_of_none hm ?_
      rw [hsound.mark_index hwaits hm hnumber.symm]
      have hnone : (s.numberAt ev.ueIndex).isSome = false := by
        rw [numberAt_isSome]
        simpa using habsent
      simpa using hnone
  · unfold Awaited
    rw [hpending]
    intro p hp
    change (s.numberAt p.2.ueIndex).isSome = true
    rw [numberAt_isSome]
    exact (List.mem_filter.mp hp).2

lemma handleCellDeactivation_owned (h : Owned cfg s) {cellIndex : ℕ}
    (ht : s.handleCellDeactivation cellIndex = .ok t) : Owned cfg t := by
  obtain ⟨s', hloop, rfl⟩ := map_eq_ok.mp ht
  obtain ⟨hsound, hmarks⟩ := (yields_foldlM (E := fun _ => True) (I := fun r => Sound cfg r ∧ OwnMarks r)
    ⟨h.sound, h.marks⟩ fun r i _ hr => yields_iff.mpr
      ⟨fun r' hr' => ⟨deactivateCellOf_sound hr.1 hr', deactivateCellOf_ownMarks hr.1 hr.2 hr'⟩,
        fun _ _ => trivial⟩).of_ok hloop
  exact resetOrphans_owned hsound hmarks

lemma step_owned (h : Owned cfg s) {e : UeRepositoryEvent} (hC : s.MarksOnce e) (ht : step cfg s e = .ok t) :
    Owned cfg t := by
  cases e with
  | addUe ueIndex crnti cells => exact addUe_owned h ht
  | reconfigureUe ueIndex cells => exact reconfigureUe_owned h ht
  | scheduleUeRem ueIndex => exact scheduleUeRem_owned h hC ht
  | slotIndication slots activeHarqs => exact slotIndication_owned h ht
  | handleCellDeactivation cellIndex => exact handleCellDeactivation_owned h ht

end UeRepository

section Lifecycle

open UeRepository

/-- A UE is removed at most once, by a request for its index, a full delay after the request and with no active HARQ
process, or by the deactivation of a cell, and an event waits or was completed once. -/
structure RemovedInOrder (cfg : UeRepositoryConfig) (s : UeRepository) : Prop where
  once : (s.removed.map fun r => r.ue.number).Nodup
  gone : ∀ r ∈ s.removed, ∀ i u, s.ues.find? i = some u → u.number ≠ r.ue.number
  justified : ∀ r ∈ s.removed, s.Justified cfg r
  completed : s.completed.Nodup
  waits : ∀ n, n < s.nofEvents ↔ n ∈ s.completed ∨ ∃ p ∈ s.pending, p.2.number = n
  exclusive : ∀ p ∈ s.pending, p.2.number ∉ s.completed

/-- The request that removed a UE was made for this UE, and it is completed when its UE has gone. -/
structure RemovedByOwnRequest (cfg : UeRepositoryConfig) (s : UeRepository) : Prop where
  own : ∀ r ∈ s.removed, ∀ n activeCells, r.cause = .event n activeCells →
    ∃ m ∈ s.marks, m.event = n ∧ m.ue.number = r.ue.number ∧ m.slot + removalDelay cfg m.ue ≤ r.slot
  completed : ∀ m ∈ s.marks, m.event ∈ s.completed ↔ ∀ i u, s.ues.find? i = some u → u.number ≠ m.ue.number

variable {cfg : UeRepositoryConfig} {s : UeRepository}

lemma UeRepository.Sound.removedInOrder (h : Sound cfg s) : RemovedInOrder cfg s := by
  have hle : ∀ n, (s.pending.map fun p => p.2.number).count n + s.completed.count n ≤ 1 := by
    intro n
    rw [h.recorded.events n]
    split <;> omega
  refine ⟨h.recorded.once, fun r hr i u hu heq => ?_, h.recorded.justified, ?_, fun n => ?_, fun p hp hmem => ?_⟩
  · refine (h.recorded.gone r hr).2 i ?_
    rw [numberAt, hu, ← heq]
    rfl
  · exact List.nodup_iff_count_le_one.mpr fun n => le_trans (Nat.le_add_left _ _) (hle n)
  · have hn := h.recorded.events n
    have hpending : (∃ p ∈ s.pending, p.2.number = n) ↔ 0 < (s.pending.map fun p => p.2.number).count n := by
      rw [List.count_pos_iff, List.mem_map]
    rw [hpending, ← List.count_pos_iff]
    split at hn
    case isTrue hlt =>
      constructor
      · intro
        omega
      · exact fun _ => hlt
    case isFalse hge =>
      constructor
      · exact fun hlt => absurd hlt hge
      · intro
        omega
  · have hn := hle p.2.number
    have hc := List.count_pos_iff.mpr hmem
    have hq := List.count_pos_iff.mpr (List.mem_map.mpr ⟨p, hp, rfl⟩ : p.2.number ∈ s.pending.map fun p => p.2.number)
    omega

lemma UeRepository.Owned.removedByOwnRequest (h : Owned cfg s) : RemovedByOwnRequest cfg s := by
  have hpresent : ∀ n, (∀ i u, s.ues.find? i = some u → u.number ≠ n) ↔ ∀ i, s.numberAt i ≠ some n := by
    intro n
    constructor
    · intro hgone i hi
      obtain ⟨u, hu, hn⟩ := Option.map_eq_some_iff.mp hi
      exact hgone i u hu hn
    · intro hgone i u hu hn
      exact hgone i (by rw [numberAt, hu, ← hn]; rfl)
  refine ⟨fun r hr n activeCells hn => ?_, fun m hm => ?_⟩
  · obtain ⟨m, hm, hevent, hnumber⟩ := h.marks.removed r hr n activeCells hn
    have hjustified := h.sound.recorded.justified r hr
    unfold UeRepository.Justified at hjustified
    rw [hn] at hjustified
    obtain ⟨-, m', hm', hevent', -, hslot⟩ := hjustified
    obtain rfl := h.sound.mark_unique hm hm' (hevent.trans hevent'.symm)
    exact ⟨m, hm, hevent, hnumber, hslot⟩
  · rw [hpresent]
    constructor
    · exact h.marks.finished m hm
    · intro hgone
      rcases (h.sound.removedInOrder.waits m.event).mp (h.sound.recorded.markedEvents.2 m hm) with hc | ⟨p, hp, hpm⟩
      · exact hc
      · obtain ⟨n, hn⟩ := Option.isSome_iff_exists.mp (h.awaited p hp)
        obtain ⟨m', hm', hevent, hnumber⟩ := h.marks.own p hp n hn
        obtain rfl := h.sound.mark_unique hm hm' (hpm.symm.trans hevent.symm)
        rw [← hnumber] at hn
        exact absurd hn (hgone _)

lemma init_cellUes (cfg : UeRepositoryConfig) (c : ℕ) (repo : UeCellRepository)
    (h : (init cfg).cellUes.find? c = some repo) : repo = UeCellRepository.init c := by
  have hfold : ∀ (cells : List ℕ) (m : FlatMap UeCellRepository),
      (∀ c repo, m.find? c = some repo → repo = UeCellRepository.init c) →
      ∀ c repo, (cells.foldl (fun m c => m.emplace c (UeCellRepository.init c)) m).find? c = some repo →
        repo = UeCellRepository.init c := by
    intro cells
    induction cells with
    | nil => exact fun _ hm => hm
    | cons c₀ cells ih =>
      intro m hm
      refine ih _ fun c repo hrepo => ?_
      dsimp only at hrepo
      by_cases hnone : m.find? c₀ = none
      · rw [FlatMap.find?_emplace hnone] at hrepo
        split at hrepo
        case isTrue hc =>
          subst hc
          exact (Option.some.inj hrepo).symm
        case isFalse => exact hm c repo hrepo
      · obtain ⟨w, hw⟩ := Option.ne_none_iff_exists'.mp hnone
        rw [FlatMap.emplace_of_some hw] at hrepo
        exact hm c repo hrepo
  exact hfold cfg.cells FlatMap.empty (fun c repo hrepo => by simp at hrepo) c repo h

lemma init_owned (cfg : UeRepositoryConfig) : Owned cfg (init cfg) := by
  have hempty : ∀ {α : Type} (key : α → ℕ), Indexes (FlatMap.empty : FlatMap α).find? key
      (FlatMap.empty : FlatMap ℕ).find? := by
    intro α key k i
    simp
  refine ⟨⟨⟨fun i u hu => ?_, hempty _, fun c repo hrepo => ?_⟩, ?_⟩, ⟨?_, List.nodup_nil, ?_, ?_⟩, ?_⟩
  · cases hu
  · obtain rfl := init_cellUes cfg c repo hrepo
    exact ⟨rfl, rfl, hempty _⟩
  · refine ⟨?_, ?_, ?_, List.nodup_nil, fun n => rfl, ?_, ⟨List.nodup_nil, ?_⟩, ?_, ?_, Or.inr rfl, ?_⟩ <;>
      simp [init, pending, numberAt]
  · simp [init, pending]
  · simp [init]
  · simp [init]
  · simp [Awaited, init, pending]

/-- In every run the lookups lead exactly to the UEs that are present, each removal is in order, and when no UE is marked
again while its removal waits, each removal is that of the UE that was marked. -/
theorem ue_repository_lifecycle (cfg : UeRepositoryConfig) (es : List UeRepositoryEvent) (s : UeRepository)
    (hrun : runEvents (step cfg) (init cfg) es = .ok s) :
    LookupsExact s ∧ RemovedInOrder cfg s ∧
    (RunsWithin (step cfg) MarksOnce (init cfg) es → RemovedByOwnRequest cfg s) := by
  have hsound : Sound cfg s :=
    runEvents_invariant (Sound cfg) (fun _ _ _ h ht => step_sound h ht) (init_owned cfg).sound hrun
  refine ⟨hsound.lookups, hsound.removedInOrder, fun hC => ?_⟩
  exact (runsWithin_invariant (Owned cfg) (fun _ _ _ h hc ht => step_owned h hc ht) (init_owned cfg) hC
    hrun).removedByOwnRequest

lemma zero_lt_numerologies : 0 < NOF_NUMEROLOGIES := by decide

def twoCells : UeRepositoryConfig := ⟨0, zero_lt_numerologies, [0, 1], fun _ => 0, fun _ => Nat.zero_le _⟩

/-- A UE loses a cell while it is marked, waits for its HARQ processes, and its index is used again. -/
def removalRun : List UeRepositoryEvent :=
  [.slotIndication 1 fun _ _ => false, .addUe 0 17921 [0, 1], .scheduleUeRem 0, .reconfigureUe 0 [0],
    .slotIndication 40 fun _ _ => true, .slotIndication 1 fun _ _ => false, .addUe 0 17922 [1]]

theorem ue_repository_lifecycle_removal : ∃ s, runEvents (step twoCells) (init twoCells) removalRun = .ok s ∧
    s.removed.length = 1 ∧ LookupsExact s ∧ RemovedInOrder twoCells s ∧ RemovedByOwnRequest twoCells s := by
  have hrun : ∃ s, runEvents (step twoCells) (init twoCells) removalRun = .ok s ∧ s.removed.length = 1 :=
    ⟨_, rfl, rfl⟩
  obtain ⟨s, hs, hlength⟩ := hrun
  obtain ⟨hlookups, horder, hown⟩ := ue_repository_lifecycle twoCells removalRun s hs
  exact ⟨s, hs, hlength, hlookups, horder, hown (by decide +kernel)⟩

/-- The deactivation of a cell removes a marked UE at once. -/
theorem marked_ue_removed_early : ∃ s,
    runEvents (step twoCells) (init twoCells) [.slotIndication 1 fun _ _ => false, .addUe 0 17921 [0],
      .scheduleUeRem 0, .handleCellDeactivation 0] = .ok s ∧
    ∃ r ∈ s.removed, ∃ m ∈ s.marks, m.ue.number = r.ue.number ∧
      r.slot < m.slot + (getMaxSlotUlAllocDelay (twoCells.ntnCsKoffset 0) + 1) :=
  ⟨_, rfl, ⟨⟨0, 17921, 0, [0], [0]⟩, 1, .cellDeactivation 0⟩, by decide,
    ⟨0, ⟨0, 17921, 0, [0], [0]⟩, 1, getMaxSlotUlAllocDelay 0 + 1⟩, by decide, rfl, by decide⟩

end Lifecycle

end OwlsRan.Sched
