import Mathlib.Data.List.Nodup
import Mathlib.Data.List.Count
import OwlsRan.Lib.Outcome
import OwlsRan.Sched.UeRepository

/-!
# Lifecycle of the UEs

A removal request waits in the ring until its event is completed.
-/

namespace OwlsRan.Sched

open Lib Adt Ran

namespace UeRepository

def pending (s : UeRepository) : List (SlotPoint × UeConfigDeleteEvent) :=
  s.uesToRem.filterMap fun p => p.2.map fun ev => (p.1, ev)

def numberAt (s : UeRepository) (i : ℕ) : Option ℕ := (s.ues.find? i).map Ue.number

variable (cfg : UeRepositoryConfig)

/-- A removal request: it is made by an event for the UE of its index, a full delay earlier, with no HARQ process
active. A deactivation: the UE has or had the cell. -/
def Justified (s : UeRepository) (r : UeRemoval) : Prop :=
  match r.cause with
  | .event n activeCells => activeCells = [] ∧
      ∃ m ∈ s.marks, m.event = n ∧ m.ue.ueIndex = r.ue.ueIndex ∧ m.slot + removalDelay cfg m.ue ≤ r.slot
  | .cellDeactivation c => c ∈ r.ue.ueDuCells

structure Recorded (s : UeRepository) : Prop where
  numbered : ∀ i n, s.numberAt i = some n → n < s.nofUes
  distinct : ∀ i j n, s.numberAt i = some n → s.numberAt j = some n → i = j
  gone : ∀ r ∈ s.removed, r.ue.number < s.nofUes ∧ ∀ i, s.numberAt i ≠ some r.ue.number
  once : (s.removed.map fun r => r.ue.number).Nodup
  events : ∀ n, (s.pending.map fun p => p.2.number).count n + s.completed.count n = if n < s.nofEvents then 1 else 0
  marked : ∀ p ∈ s.pending, ∃ m ∈ s.marks, m.event = p.2.number ∧ m.ue.ueIndex = p.2.ueIndex ∧ m.slot ≤ s.now ∧
    (p.1.numerology = cfg.numerology → p.1 = slotAt cfg (m.slot + removalDelay cfg m.ue))
  markedEvents : (s.marks.map RemovalMark.event).Nodup ∧ ∀ m ∈ s.marks, m.event < s.nofEvents
  markedUes : ∀ m ∈ s.marks, m.ue.number < s.nofUes ∧ ∀ i, s.numberAt i = some m.ue.number → i = m.ue.ueIndex
  delay : ∀ m ∈ s.marks, m.delay = removalDelay cfg m.ue
  slot : s.lastSlTx = slotAt cfg s.now ∨ s.lastSlTx = SlotPoint.invalid
  justified : ∀ r ∈ s.removed, s.Justified cfg r

variable {cfg} {s t : UeRepository}

/-! ### The ring -/

variable {i ueIndex cellIndex : ℕ} {slot : SlotPoint} {ev : UeConfigDeleteEvent}

lemma pending_reset {l : List (SlotPoint × Option UeConfigDeleteEvent)} (hi : l[i]? = some (slot, some ev)) :
    (l.filterMap fun p => p.2.map fun ev => (p.1, ev)).Perm
      ((slot, ev) :: (l.set i (slot, none)).filterMap fun p => p.2.map fun ev => (p.1, ev)) := by
  induction l generalizing i with
  | nil => cases hi
  | cons p l ih =>
    cases i with
    | zero =>
      obtain rfl := Option.some.inj hi
      exact List.Perm.refl _
    | succ i =>
      have hrest := ih hi
      obtain ⟨slot', none | ev'⟩ := p
      · exact hrest
      · exact (hrest.cons _).trans (List.Perm.swap _ _ _)

lemma pending_dropWhile (l : List (SlotPoint × Option UeConfigDeleteEvent)) :
    ((l.dropWhile fun p => p.2.isNone).filterMap fun p => p.2.map fun ev => (p.1, ev)) =
      l.filterMap fun p => p.2.map fun ev => (p.1, ev) := by
  induction l with
  | nil => rfl
  | cons p l ih =>
    obtain ⟨slot, none | ev⟩ := p
    · exact ih
    · rfl

lemma pending_filter (keep : UeConfigDeleteEvent → Bool) (l : List (SlotPoint × Option UeConfigDeleteEvent)) :
    ((l.map fun p => (p.1, p.2.filter keep)).filterMap fun p => p.2.map fun ev => (p.1, ev)) =
      (l.filterMap fun p => p.2.map fun ev => (p.1, ev)).filter fun p => keep p.2 := by
  induction l with
  | nil => rfl
  | cons p l ih =>
    obtain ⟨slot, none | ev⟩ := p
    · exact ih
    · by_cases hev : keep ev = true
      · simp only [List.map_cons, Option.filter_some, hev, if_true, List.filterMap_cons, Option.map_some,
          List.filter_cons, ih]
      · simp only [List.map_cons, Option.filter_some, hev, Bool.false_eq_true, if_false, List.filterMap_cons,
          Option.map_none, Option.map_some, List.filter_cons, ih]

lemma pending_resetEvent (hi : s.uesToRem[i]? = some (slot, some ev)) :
    s.pending.Perm ((slot, ev) :: (s.resetEvent i slot ev).pending) := pending_reset hi

lemma pending_resetOrphans (s : UeRepository) :
    s.resetOrphans.pending = s.pending.filter fun p => s.ues.contains p.2.ueIndex := pending_filter _ _

/-! ### What each operation does to the record -/

lemma Recorded.resetEvent (h : Recorded cfg s)
    (hi : s.uesToRem[i]? = some (slot, some ev)) : Recorded cfg (s.resetEvent i slot ev) := by
  have hperm := pending_resetEvent hi
  refine { h with
    events := fun n => ?_
    marked := fun p hp => h.marked p (hperm.mem_iff.mpr (List.mem_cons_of_mem _ hp)) }
  have hn := h.events n
  rw [(hperm.map _).count_eq, List.map_cons, List.count_cons] at hn
  dsimp only at hn
  change _ + (s.completed ++ [ev.number]).count n = _
  rw [List.count_append, List.count_singleton]
  have hnof : (s.resetEvent i slot ev).nofEvents = s.nofEvents := rfl
  rw [hnof]
  omega

variable {cause : RemovalCause}

lemma remUe_numberAt {u : Ue} (ht : s.remUe u cause = .ok t) :
    t.numberAt = Function.update s.numberAt u.ueIndex none := by
  obtain ⟨cellUes, -, rfl⟩ := remUe_ok ht
  funext i
  change ((s.ues.erase u.ueIndex).find? i).map Ue.number = _
  rw [FlatMap.find?_erase_eq_update]
  by_cases hi : i = u.ueIndex
  · subst hi
    simp
  · rw [Function.update_of_ne hi, Function.update_of_ne hi]
    rfl

lemma numberAt_of_update {f : ℕ → Option ℕ} {j n : ℕ} (h : Function.update f i none j = some n) :
    j ≠ i ∧ f j = some n := by
  by_cases hj : j = i
  · rw [hj, Function.update_self] at h
    cases h
  · exact ⟨hj, by rwa [Function.update_of_ne hj] at h⟩

lemma Recorded.remUe (h : Recorded cfg s) {u : Ue} (hu : s.numberAt u.ueIndex = some u.number)
    (hcause : s.Justified cfg ⟨u, s.now, cause⟩) (ht : s.remUe u cause = .ok t) : Recorded cfg t := by
  have hnumber := remUe_numberAt ht
  obtain ⟨cellUes, -, rfl⟩ := remUe_ok ht
  refine { h with
    numbered := fun i n hn => ?_
    distinct := fun i j n hi hj => ?_
    gone := fun r hr => ?_
    once := ?_
    markedUes := fun m hm => ⟨(h.markedUes m hm).1, fun i hi => ?_⟩
    justified := fun r hr => ?_ }
  · rw [hnumber] at hn
    exact h.numbered i n (numberAt_of_update hn).2
  · rw [hnumber] at hi hj
    exact h.distinct i j n (numberAt_of_update hi).2 (numberAt_of_update hj).2
  · rw [hnumber]
    rcases List.mem_append.mp hr with hr | hr
    · obtain ⟨hlt, hgone⟩ := h.gone r hr
      exact ⟨hlt, fun i hi => hgone i (numberAt_of_update hi).2⟩
    · rw [List.mem_singleton.mp hr]
      refine ⟨h.numbered _ _ hu, fun i hi => ?_⟩
      obtain ⟨hne, hi⟩ := numberAt_of_update hi
      exact hne (h.distinct _ _ _ hi hu)
  · change ((s.removed ++ [(⟨u, s.now, cause⟩ : UeRemoval)]).map fun r => r.ue.number).Nodup
    rw [List.map_append]
    refine h.once.append (List.nodup_singleton _) fun n hn hn' => ?_
    obtain ⟨r, hr, rfl⟩ := List.mem_map.mp hn
    rw [List.map_singleton, List.mem_singleton] at hn'
    rw [← hn'] at hu
    exact (h.gone r hr).2 _ hu
  · rw [hnumber] at hi
    exact (h.markedUes m hm).2 i (numberAt_of_update hi).2
  · rcases List.mem_append.mp hr with hr | hr
    · exact h.justified r hr
    · rw [List.mem_singleton.mp hr]
      exact hcause

lemma numberAt_of_find? (h : LookupsExact s) {u : Ue} (hu : s.ues.find? i = some u) :
    i = u.ueIndex ∧ s.numberAt u.ueIndex = some u.number := by
  obtain rfl := h.index i u hu
  exact ⟨rfl, by rw [numberAt, hu]; rfl⟩

lemma removalDelay_half (cfg : UeRepositoryConfig) (u : Ue) :
    2 * removalDelay cfg u < (⟨cfg.numerology, 0⟩ : SlotPoint).nofSlotsPerHyperSystemFrame := by
  have hle := cfg.ntnCsKoffset_le (u.ueCells.headD 0)
  have hpow := Nat.one_le_two_pow (n := cfg.numerology)
  rw [SlotPoint.hyperFrame_eq]
  unfold NTN_CELL_SPECIFIC_KOFFSET_MAX at hle
  unfold removalDelay getMaxSlotUlAllocDelay SCHEDULER_MAX_K0 SCHEDULER_MAX_K1 SCHEDULER_MAX_K2 MAX_MSG3_DELTA
  dsimp only
  omega

lemma removal_due {m : RemovalMark} {now : ℕ} (hslot : m.slot ≤ now)
    (hdue : (slotAt cfg (m.slot + removalDelay cfg m.ue)).gt (slotAt cfg now) = false) :
    m.slot + removalDelay cfg m.ue ≤ now := by
  by_contra hlt
  have hhalf := removalDelay_half cfg m.ue
  have hgt := SlotPoint.add_gt_add (s := ⟨cfg.numerology, 0⟩) (i := m.slot + removalDelay cfg m.ue) (j := now)
    (by omega) (by omega)
  unfold slotAt at hdue
  rw [hgt] at hdue
  cases hdue

variable {activeHarqs : ℕ → ℕ → Bool}

lemma processRemoval_ok {slTx : SlotPoint} (ht : processRemoval slTx activeHarqs s i = .ok t) :
    t = s ∨ ∃ slot ev, s.uesToRem[i]? = some (slot, some ev) ∧ slot.numerology = slTx.numerology ∧
      slot.gt slTx = false ∧
      ((s.ues.find? ev.ueIndex = none ∧ t = s.resetEvent i slot ev) ∨
      ∃ u s', s.ues.find? ev.ueIndex = some u ∧ u.isReadyForRemoval activeHarqs = true ∧
        s.remUe u (.event ev.number (u.ueCells.filter (activeHarqs u.ueIndex))) = .ok s' ∧
        t = s'.resetEvent i slot ev) := by
  unfold processRemoval at ht
  split at ht
  case h_1 => exact Or.inl (Except.ok.inj ht).symm
  case h_2 => exact Or.inl (Except.ok.inj ht).symm
  case h_3 slot ev hi =>
    split at ht
    case isTrue => cases ht
    case isFalse hnum =>
      split at ht
      case isTrue => exact Or.inl (Except.ok.inj ht).symm
      case isFalse hdue =>
        have hdue' : slot.gt slTx = false := by simpa using hdue
        split at ht
        case h_1 hnone =>
          exact Or.inr ⟨slot, ev, hi, not_not.mp hnum, hdue', Or.inl ⟨hnone, (Except.ok.inj ht).symm⟩⟩
        case h_2 u hu =>
          split at ht
          case isTrue hready =>
            obtain ⟨s', hs', rfl⟩ := map_eq_ok.mp ht
            exact Or.inr ⟨slot, ev, hi, not_not.mp hnum, hdue', Or.inr ⟨u, s', hu, hready, hs', rfl⟩⟩
          case isFalse => exact Or.inl (Except.ok.inj ht).symm

lemma remUe_ring {u : Ue} (ht : s.remUe u cause = .ok t) : t.uesToRem = s.uesToRem := by
  obtain ⟨cellUes, -, rfl⟩ := remUe_ok ht
  rfl

lemma mem_pending_of_get (hi : s.uesToRem[i]? = some (slot, some ev)) : (slot, ev) ∈ s.pending :=
  List.mem_filterMap.mpr ⟨(slot, some ev), List.mem_of_getElem? hi, rfl⟩

lemma filter_eq_nil_of_ready {u : Ue} (h : u.isReadyForRemoval activeHarqs = true) :
    u.ueCells.filter (activeHarqs u.ueIndex) = [] := by
  rw [List.filter_eq_nil_iff]
  intro c hc
  have := List.all_eq_true.mp h c hc
  simpa using this

structure Sound (cfg : UeRepositoryConfig) (s : UeRepository) : Prop where
  lookups : LookupsExact s
  recorded : Recorded cfg s

lemma processRemoval_sound (h : Sound cfg s)
    (ht : processRemoval (slotAt cfg s.now) activeHarqs s i = .ok t) : Sound cfg t ∧ t.now = s.now := by
  rcases processRemoval_ok ht with rfl | ⟨slot, ev, hi, hnum, hdue, ⟨-, rfl⟩ | ⟨u, s', hu, hready, hs', rfl⟩⟩
  · exact ⟨h, rfl⟩
  · exact ⟨⟨h.lookups.congr rfl rfl rfl, h.recorded.resetEvent hi⟩, rfl⟩
  · obtain ⟨hindex, hnumber⟩ := numberAt_of_find? h.lookups hu
    obtain ⟨m, hm, hevent, hue, hslot, hdelay⟩ := h.recorded.marked _ (mem_pending_of_get hi)
    dsimp only at hevent hue hdelay
    have hcause : s.Justified cfg ⟨u, s.now, .event ev.number (u.ueCells.filter (activeHarqs u.ueIndex))⟩ := by
      refine ⟨filter_eq_nil_of_ready hready, m, hm, hevent, hue.trans hindex, ?_⟩
      rw [hdelay hnum] at hdue
      exact removal_due hslot hdue
    have hrem := h.recorded.remUe hnumber hcause hs'
    have hnow : s'.now = s.now := by
      obtain ⟨cellUes, -, rfl⟩ := remUe_ok hs'
      rfl
    refine ⟨⟨(remUe_lookups h.lookups hu hs').congr rfl rfl rfl, hrem.resetEvent ?_⟩, hnow⟩
    rw [remUe_ring hs']
    exact hi

lemma Sound.advance (h : Sound cfg s) (slots : ℕ) :
    Sound cfg { s with lastSlTx := slotAt cfg (s.now + slots), now := s.now + slots } := by
  refine ⟨h.lookups.congr rfl rfl rfl, { h.recorded with marked := fun p hp => ?_, slot := Or.inl rfl }⟩
  obtain ⟨m, hm, hevent, hue, hslot, hdelay⟩ := h.recorded.marked p hp
  exact ⟨m, hm, hevent, hue, hslot.trans (Nat.le_add_right _ _), hdelay⟩

lemma slotIndication_sound (h : Sound cfg s) {slots : ℕ}
    (ht : s.slotIndication cfg slots activeHarqs = .ok t) : Sound cfg t := by
  obtain ⟨s', hloop, rfl⟩ := map_eq_ok.mp ht
  obtain ⟨hend, -⟩ := (yields_foldlM (E := fun _ => True)
    (I := fun r => Sound cfg r ∧ r.now = s.now + slots) ⟨h.advance slots, rfl⟩ fun r i _ hr => by
      refine yields_iff.mpr ⟨fun r' hr' => ?_, fun _ _ => trivial⟩
      rw [← hr.2] at hr'
      obtain ⟨hsound, hnow⟩ := processRemoval_sound hr.1 hr'
      exact ⟨hsound, hnow.trans hr.2⟩).of_ok hloop
  refine ⟨hend.lookups.congr rfl rfl rfl, ?_⟩
  have hpending : pending { s' with uesToRem := s'.uesToRem.dropWhile fun p => p.2.isNone } = s'.pending :=
    pending_dropWhile _
  refine { hend.recorded with events := ?_, marked := ?_ }
  · rw [hpending]
    exact hend.recorded.events
  · rw [hpending]
    exact hend.recorded.marked

variable {cells : List ℕ}

lemma addUe_numberAt {crnti : ℕ} (ht : s.addUe ueIndex crnti cells = .ok t) :
    s.numberAt ueIndex = none ∧ t.numberAt = Function.update s.numberAt ueIndex (some s.nofUes) := by
  obtain ⟨-, hindex, -, cellUes, -, rfl⟩ := addUe_ok ht
  refine ⟨by rw [numberAt, hindex]; rfl, ?_⟩
  funext i
  change ((s.ues.emplace ueIndex _).find? i).map Ue.number = _
  rw [FlatMap.find?_emplace_eq_update hindex]
  by_cases hi : i = ueIndex
  · subst hi
    simp
  · rw [Function.update_of_ne hi, Function.update_of_ne hi]
    rfl

lemma addUe_sound (h : Sound cfg s) {crnti : ℕ} (ht : s.addUe ueIndex crnti cells = .ok t) : Sound cfg t := by
  refine ⟨addUe_lookups h.lookups ht, ?_⟩
  obtain ⟨hnone, hnumber⟩ := addUe_numberAt ht
  obtain ⟨-, -, -, cellUes, -, rfl⟩ := addUe_ok ht
  have hcases : ∀ i n, Function.update s.numberAt ueIndex (some s.nofUes) i = some n →
      (i = ueIndex ∧ n = s.nofUes) ∨ (i ≠ ueIndex ∧ s.numberAt i = some n) := by
    intro i n hn
    by_cases hi : i = ueIndex
    · subst hi
      rw [Function.update_self] at hn
      exact Or.inl ⟨rfl, (Option.some.inj hn).symm⟩
    · rw [Function.update_of_ne hi] at hn
      exact Or.inr ⟨hi, hn⟩
  refine { h.recorded with
    numbered := fun i n hn => ?_
    distinct := fun i j n hi hj => ?_
    gone := fun r hr => ?_
    markedUes := fun m hm => ?_ }
  · rw [hnumber] at hn
    rcases hcases i n hn with ⟨-, rfl⟩ | ⟨-, hn⟩
    · exact Nat.lt_succ_self _
    · exact Nat.lt_succ_of_lt (h.recorded.numbered i n hn)
  · rw [hnumber] at hi hj
    rcases hcases i n hi with ⟨rfl, rfl⟩ | ⟨-, hi'⟩
    · rcases hcases j _ hj with ⟨rfl, -⟩ | ⟨-, hj'⟩
      · rfl
      · exact absurd (h.recorded.numbered j _ hj') (Nat.lt_irrefl _)
    · rcases hcases j n hj with ⟨rfl, rfl⟩ | ⟨-, hj'⟩
      · exact absurd (h.recorded.numbered i _ hi') (Nat.lt_irrefl _)
      · exact h.recorded.distinct i j n hi' hj'
  · obtain ⟨hlt, hgone⟩ := h.recorded.gone r hr
    refine ⟨Nat.lt_succ_of_lt hlt, fun i hi => ?_⟩
    rw [hnumber] at hi
    rcases hcases i _ hi with ⟨-, hn⟩ | ⟨-, hi⟩
    · omega
    · exact hgone i hi
  · obtain ⟨hlt, hown⟩ := h.recorded.markedUes m hm
    refine ⟨Nat.lt_succ_of_lt hlt, fun i hi => ?_⟩
    rw [hnumber] at hi
    rcases hcases i _ hi with ⟨-, hn⟩ | ⟨-, hi⟩
    · omega
    · exact hown i hi

lemma reconfigureUe_numberAt (ht : s.reconfigureUe ueIndex cells = .ok t) : t.numberAt = s.numberAt := by
  obtain ⟨u, hu, left, joined, -, -, rfl⟩ := reconfigureUe_ok ht
  funext i
  change ((s.ues.modify ueIndex fun u => u.setConfig cells).find? i).map Ue.number = _
  rw [FlatMap.find?_modify_eq_update hu]
  by_cases hi : i = ueIndex
  · subst hi
    rw [Function.update_self, numberAt, hu]
    rfl
  · rw [Function.update_of_ne hi]
    rfl

lemma reconfigureUe_sound (h : Sound cfg s) (ht : s.reconfigureUe ueIndex cells = .ok t) : Sound cfg t := by
  refine ⟨reconfigureUe_lookups h.lookups ht, ?_⟩
  have hnumber := reconfigureUe_numberAt ht
  obtain ⟨u, -, left, joined, -, -, rfl⟩ := reconfigureUe_ok ht
  refine { h.recorded with numbered := ?_, distinct := ?_, gone := ?_, markedUes := ?_ }
  · rw [hnumber]
    exact h.recorded.numbered
  · rw [hnumber]
    exact h.recorded.distinct
  · rw [hnumber]
    exact h.recorded.gone
  · rw [hnumber]
    exact h.recorded.markedUes

lemma scheduleUeRem_ok (ht : s.scheduleUeRem cfg ueIndex = .ok t) :
    (s.ues.find? ueIndex = none ∧
      t = { s with nofEvents := s.nofEvents + 1, completed := s.completed ++ [s.nofEvents] }) ∨
    ∃ u, s.ues.find? ueIndex = some u ∧ t = { s with
      uesToRem := s.uesToRem ++ [(s.lastSlTx.add (removalDelay cfg u), some ⟨s.nofEvents, ueIndex⟩)]
      nofEvents := s.nofEvents + 1
      marks := s.marks ++ [⟨s.nofEvents, u, s.now, removalDelay cfg u⟩] } := by
  unfold scheduleUeRem at ht
  split at ht
  case h_1 hnone => exact Or.inl ⟨hnone, (Except.ok.inj ht).symm⟩
  case h_2 u hu =>
    split at ht
    case isTrue => exact Or.inr ⟨u, hu, (Except.ok.inj ht).symm⟩
    case isFalse => cases ht

lemma count_range_succ (n k : ℕ) :
    (if n < k + 1 then 1 else 0) = (if n < k then 1 else 0) + if (k == n) = true then 1 else 0 := by
  rcases Nat.lt_trichotomy n k with h | rfl | h
  · simp [h, Nat.lt_succ_of_lt h, Nat.ne_of_gt h]
  · simp
  · have h1 : ¬n < k + 1 := by omega
    have h2 : ¬n < k := by omega
    simp [h1, h2, Nat.ne_of_lt h]

lemma scheduleUeRem_sound (h : Sound cfg s) (ht : s.scheduleUeRem cfg ueIndex = .ok t) : Sound cfg t := by
  rcases scheduleUeRem_ok ht with ⟨-, rfl⟩ | ⟨u, hu, rfl⟩
  · refine ⟨h.lookups.congr rfl rfl rfl, { h.recorded with events := fun n => ?_, markedEvents := ?_ }⟩
    · have hn := h.recorded.events n
      have hrange := count_range_succ n s.nofEvents
      change _ + (s.completed ++ [s.nofEvents]).count n = _
      rw [List.count_append, List.count_singleton, hrange, ← hn]
      exact (Nat.add_assoc _ _ _).symm
    · exact ⟨h.recorded.markedEvents.1, fun m hm => Nat.lt_succ_of_lt (h.recorded.markedEvents.2 m hm)⟩
  · obtain ⟨hindex, hnumber⟩ := numberAt_of_find? h.lookups hu
    set m : RemovalMark := ⟨s.nofEvents, u, s.now, removalDelay cfg u⟩ with hm
    set ev : UeConfigDeleteEvent := ⟨s.nofEvents, ueIndex⟩ with hev
    set slot := s.lastSlTx.add (removalDelay cfg u) with hslot
    have hpending : pending { s with uesToRem := s.uesToRem ++ [(slot, some ev)] } = s.pending ++ [(slot, ev)] := by
      rw [pending, pending, List.filterMap_append]
      rfl
    have hsame : slot.numerology = cfg.numerology → slot = slotAt cfg (s.now + removalDelay cfg u) := by
      intro hnum
      rcases h.recorded.slot with hlast | hlast
      · rw [hslot, hlast]
        exact SlotPoint.add_add _ _ _
      · rw [hslot, hlast] at hnum
        have := cfg.numerology_valid
        rw [← hnum] at this
        exact absurd this (Nat.lt_irrefl _)
    have hold : ∀ r, s.Justified cfg r → Justified cfg { s with marks := s.marks ++ [m] } r := by
      intro r hr
      unfold Justified at hr ⊢
      split
      case h_1 n activeCells hcause =>
        rw [hcause] at hr
        obtain ⟨hactive, m', hm', hrest⟩ := hr
        exact ⟨hactive, m', List.mem_append_left _ hm', hrest⟩
      case h_2 c hcause =>
        rw [hcause] at hr
        exact hr
    refine ⟨h.lookups.congr rfl rfl rfl, { h.recorded with
      events := fun n => ?_
      marked := fun p hp => ?_
      markedEvents := ⟨?_, fun m' hm' => ?_⟩
      markedUes := fun m' hm' => ?_
      delay := fun m' hm' => ?_
      justified := fun r hr => hold r (h.recorded.justified r hr) }⟩
    · have hn := h.recorded.events n
      have hrange := count_range_succ n s.nofEvents
      change ((pending { s with uesToRem := s.uesToRem ++ [(slot, some ev)] }).map fun p => p.2.number).count n +
        s.completed.count n = if n < s.nofEvents + 1 then 1 else 0
      rw [hpending, List.map_append, List.count_append, List.map_singleton, List.count_singleton, hrange, ← hn]
      have hev : ev.number = s.nofEvents := rfl
      rw [hev]
      omega
    · change p ∈ pending { s with uesToRem := s.uesToRem ++ [(slot, some ev)] } at hp
      rw [hpending] at hp
      rcases List.mem_append.mp hp with hp | hp
      · obtain ⟨m', hm', hrest⟩ := h.recorded.marked p hp
        exact ⟨m', List.mem_append_left _ hm', hrest⟩
      · rw [List.mem_singleton.mp hp]
        exact ⟨m, List.mem_append_right _ List.mem_cons_self, rfl, hindex.symm, le_refl _, hsame⟩
    · rw [List.map_append]
      refine h.recorded.markedEvents.1.append (List.nodup_singleton _) fun n hn hn' => ?_
      obtain ⟨m', hm', rfl⟩ := List.mem_map.mp hn
      rw [List.map_singleton, List.mem_singleton] at hn'
      have := h.recorded.markedEvents.2 m' hm'
      rw [hn'] at this
      exact Nat.lt_irrefl _ this
    · rcases List.mem_append.mp hm' with hm' | hm'
      · exact Nat.lt_succ_of_lt (h.recorded.markedEvents.2 m' hm')
      · rw [List.mem_singleton.mp hm']
        exact Nat.lt_succ_self _
    · rcases List.mem_append.mp hm' with hm' | hm'
      · exact h.recorded.markedUes m' hm'
      · rw [List.mem_singleton.mp hm']
        exact ⟨h.recorded.numbered _ _ hnumber, fun i hi => h.recorded.distinct _ _ _ hi hnumber⟩
    · rcases List.mem_append.mp hm' with hm' | hm'
      · exact h.recorded.delay m' hm'
      · rw [List.mem_singleton.mp hm']

lemma deactivateCellOf_ok (ht : deactivateCellOf cellIndex s i = .ok t) :
    t = s ∨ ∃ u, s.ues.find? i = some u ∧ cellIndex ∈ u.ueDuCells ∧
      s.remUe u (.cellDeactivation cellIndex) = .ok t := by
  unfold deactivateCellOf at ht
  split at ht
  case h_1 => exact Or.inl (Except.ok.inj ht).symm
  case h_2 u hu =>
    split at ht
    case isTrue hcell => exact Or.inr ⟨u, hu, hcell, ht⟩
    case isFalse => exact Or.inl (Except.ok.inj ht).symm

lemma deactivateCellOf_sound (h : Sound cfg s) (ht : deactivateCellOf cellIndex s i = .ok t) : Sound cfg t := by
  rcases deactivateCellOf_ok ht with rfl | ⟨u, hu, hcell, ht⟩
  · exact h
  · have hcause : s.Justified cfg ⟨u, s.now, .cellDeactivation cellIndex⟩ := hcell
    exact ⟨remUe_lookups h.lookups hu ht, h.recorded.remUe (numberAt_of_find? h.lookups hu).2 hcause ht⟩

lemma count_filter_add (keep : SlotPoint × UeConfigDeleteEvent → Bool) (l : List (SlotPoint × UeConfigDeleteEvent))
    (n : ℕ) : ((l.filter keep).map fun p => p.2.number).count n +
      ((l.filter fun p => !keep p).map fun p => p.2.number).count n = (l.map fun p => p.2.number).count n := by
  rw [← List.count_append, ← List.map_append]
  exact ((List.filter_append_perm keep l).map _).count_eq n

lemma resetOrphans_sound (h : Sound cfg s) : Sound cfg s.resetOrphans := by
  have hpending := pending_resetOrphans s
  refine ⟨h.lookups.congr rfl rfl rfl, { h.recorded with events := fun n => ?_, marked := fun p hp => ?_ }⟩
  · have hcompleted : ((s.uesToRem.filterMap Prod.snd).filter fun ev => !s.ues.contains ev.ueIndex).map
        UeConfigDeleteEvent.number =
        (s.pending.filter fun p => !s.ues.contains p.2.ueIndex).map fun p => p.2.number := by
      have hsnd : s.uesToRem.filterMap Prod.snd = s.pending.map Prod.snd := by
        rw [pending, List.map_filterMap]
        congr 1
        funext p
        cases p.2 <;> rfl
      rw [hsnd, List.filter_map, List.map_map]
      rfl
    have hn := h.recorded.events n
    have hsplit := count_filter_add (fun p => s.ues.contains p.2.ueIndex) s.pending n
    rw [hpending]
    change _ + (s.completed ++ _).count n = if n < s.nofEvents then 1 else 0
    rw [List.count_append, hcompleted, ← hn]
    omega
  · rw [hpending] at hp
    exact h.recorded.marked p (List.mem_of_mem_filter hp)

lemma handleCellDeactivation_sound (h : Sound cfg s)
    (ht : s.handleCellDeactivation cellIndex = .ok t) : Sound cfg t := by
  obtain ⟨s', hloop, rfl⟩ := map_eq_ok.mp ht
  refine resetOrphans_sound ((yields_foldlM (E := fun _ => True) (I := Sound cfg) h fun r i _ hr => ?_).of_ok hloop)
  exact yields_iff.mpr ⟨fun r' hr' => deactivateCellOf_sound hr hr', fun _ _ => trivial⟩

lemma step_sound (h : Sound cfg s) {e : UeRepositoryEvent} (ht : step cfg s e = .ok t) : Sound cfg t := by
  cases e with
  | addUe ueIndex crnti cells => exact addUe_sound h ht
  | reconfigureUe ueIndex cells => exact reconfigureUe_sound h ht
  | scheduleUeRem ueIndex => exact scheduleUeRem_sound h ht
  | slotIndication slots activeHarqs => exact slotIndication_sound h ht
  | handleCellDeactivation cellIndex => exact handleCellDeactivation_sound h ht

end UeRepository

end OwlsRan.Sched
