import OwlsRan.Lib.Outcome
import OwlsRan.Sched.ResourceGrid
import Mathlib.Logic.Function.Basic

/-!
# The ring of the resource grid and the slots it stands for

Seen from outside, a cell has one grid for each slot, counted from the first slot indicated, and no grid is ever
cleared (`GridHistory`). In the window of the slots that are kept or can be allocated, the ring shows just that.
-/

namespace OwlsRan.Sched
open OwlsRan.Lib OwlsRan.Adt OwlsRan.Ran

/-- What has been scheduled in each slot; `now` is the number of the last slot indicated. -/
structure GridHistory (γ : Type) where
  now : Nat
  resources : Nat → SlotResources γ

namespace GridHistory

variable {γ : Type}

def start (cfg : CellConfiguration) (first : SlotPoint) : GridHistory γ := ⟨0, fun j => .fresh cfg (first.add j)⟩

def step (h : GridHistory γ) : GridEvent γ → GridHistory γ
  | .slotIndication _ => { h with now := h.now + 1 }
  | .allocate slotDelay write =>
    { h with resources := Function.update h.resources (h.now + slotDelay) (write (h.resources (h.now + slotDelay))) }

end GridHistory

/-- The ring together with, for each entry, the number of times it has been cleared since it stood for another slot. -/
structure CountedRing (γ : Type) where
  ring : CellResourceAllocator γ
  clears : Nat → Nat

namespace CountedRing

variable {γ : Type}

def init (cfg : CellConfiguration) : CountedRing γ := ⟨.init cfg, fun _ => 0⟩

def countReset (cfg : CellConfiguration) (s : CircularVector (CellSlotResourceAllocator γ) × (Nat → Nat))
    (r : SlotReset) : CircularVector (CellSlotResourceAllocator γ) × (Nat → Nat) :=
  let i := r.index.count % s.1.size
  (CellResourceAllocator.resetSlot cfg s.1 r,
    Function.update s.2 i (if (s.1.get r.index.count).slot = r.newSlot then s.2 i + 1 else 1))

def countClears (cfg : CellConfiguration) (s : CountedRing γ) : GridEvent γ → Nat → Nat
  | .slotIndication slTx => ((s.ring.resets slTx).foldl (countReset cfg) (s.ring.slots, s.clears)).2
  | .allocate .. => s.clears

def step (cfg : CellConfiguration) (s : CountedRing γ) (e : GridEvent γ) : Except GridAbort (CountedRing γ) := do
  let ring ← s.ring.step cfg e
  .ok ⟨ring, s.countClears cfg e⟩

def run (cfg : CellConfiguration) (es : List (GridEvent γ)) : Except GridAbort (CountedRing γ) :=
  runEvents (step cfg) (init cfg) es

end CountedRing

/-- How often the entry of slot `j` has been cleared for it when slot `now` has been indicated. The last slots that the
first indication sets up are set up again by the ones that follow. -/
def clearsOf (cfg : CellConfiguration) (now j : Nat) : Nat :=
  if cfg.ringSize < j + RING_MAX_HISTORY_SIZE ∧ j < cfg.ringSize ∧ j + RING_MAX_HISTORY_SIZE ≤ now + cfg.ringSize then 2
  else 1

section Alignment

variable {γ : Type} {cfg : CellConfiguration} {first : SlotPoint}

/-- The sizes that the alignment depends on: the ring divides the hyper frame, is smaller, and holds the window. -/
structure RingSized (cfg : CellConfiguration) (first : SlotPoint) : Prop where
  dvd : cfg.ringSize ∣ first.nofSlotsPerHyperSystemFrame
  lt : cfg.ringSize < first.nofSlotsPerHyperSystemFrame
  window : RING_MAX_HISTORY_SIZE + cfg.maxUlSlotAllocDelay ≤ cfg.ringSize

lemma ringSized_of_window (h : 2 * cfg.windowSize ≤ first.nofSlotsPerHyperSystemFrame) : RingSized cfg first := by
  have hhalf : 2 * cfg.ringSize ≤ first.nofSlotsPerHyperSystemFrame := ringSize_le_half h
  have hpos : 0 < cfg.ringSize := ringSize_pos _ _
  have hfits : RingFits cfg.ringSize first.nofSlotsPerHyperSystemFrame := ringSize_fits cfg.windowSize first
  refine ⟨hfits.resolve_right (by omega), by omega, le_ringSize _ _⟩

lemma RingSized.index (h : RingSized cfg first) (j : Nat) :
    (first.add j).count % cfg.ringSize = (first.count + j) % cfg.ringSize := by
  rw [SlotPoint.add_count, Nat.mod_mod_of_dvd _ h.dvd]

lemma RingSized.index_ne (h : RingSized cfg first) {i j : Nat} (hlt : i < j) (hR : j < i + cfg.ringSize) :
    (first.add i).count % cfg.ringSize ≠ (first.add j).count % cfg.ringSize := by
  rw [h.index, h.index]
  have hne := ring_entry_ne (E := cfg.ringSize) (a := first.count + i) (d := j - i) (by omega) (by omega)
  have hsum : first.count + i + (j - i) = first.count + j := by omega
  rw [hsum] at hne
  exact hne.symm

lemma RingSized.index_add (h : RingSized cfg first) (j : Nat) :
    (first.add (j + cfg.ringSize)).count % cfg.ringSize = (first.add j).count % cfg.ringSize := by
  rw [h.index, h.index, ← Nat.add_assoc, Nat.add_mod_right]

/-- The ring shows the history: each of its entries stands for the slot it has to, and has been cleared for it. -/
structure GridAligned (cfg : CellConfiguration) (first : SlotPoint) (s : CountedRing γ) (h : GridHistory γ) : Prop where
  last : s.ring.lastSlotInd = first.add h.now
  size : s.ring.slots.size = cfg.ringSize
  entries : ∀ j, h.now - 15 ≤ j → j < h.now - 15 + cfg.ringSize →
    s.ring.slots.get (first.add j).count = ⟨first.add j, h.resources j⟩ ∧
      s.clears ((first.add j).count % cfg.ringSize) = clearsOf cfg h.now j
  untouched : ∀ j, h.now + cfg.maxUlSlotAllocDelay < j → h.resources j = .fresh cfg (first.add j)

lemma firstResets_spec (hsized : RingSized cfg first) {slots : CircularVector (CellSlotResourceAllocator γ)}
    (clears : Nat → Nat) (hsize : slots.size = cfg.ringSize) (hother : ∀ i j, (slots.get i).slot ≠ first.add j) (n : Nat)
    (hn : n ≤ cfg.ringSize) :
    let s := ((List.range n).map fun i => (⟨first.add i, first.add i⟩ : SlotReset)).foldl (CountedRing.countReset cfg)
      (slots, clears)
    s.1.size = cfg.ringSize ∧
      (∀ j < n, s.1.get (first.add j).count = ⟨first.add j, .fresh cfg (first.add j)⟩ ∧
        s.2 ((first.add j).count % cfg.ringSize) = 1) ∧
      ∀ j, n ≤ j → j < cfg.ringSize → ∀ k, (s.1.get (first.add j).count).slot ≠ first.add k := by
  induction n with
  | zero => exact ⟨hsize, fun j hj => absurd hj (Nat.not_lt_zero j), fun j _ _ k => hother _ k⟩
  | succ n ih =>
    obtain ⟨hsize', hdone, hleft⟩ := ih (by omega)
    dsimp only
    rw [List.range_succ, List.map_append, List.map_singleton, List.foldl_append, List.foldl_cons, List.foldl_nil]
    revert hsize' hdone hleft
    generalize ((List.range n).map fun i => (⟨first.add i, first.add i⟩ : SlotReset)).foldl
      (CountedRing.countReset cfg) (slots, clears) = s
    intro hsize' hdone hleft
    have hget : ∀ j, (CountedRing.countReset cfg s ⟨first.add n, first.add n⟩).1.get (first.add j).count =
        if (first.add j).count % cfg.ringSize = (first.add n).count % cfg.ringSize then
          ⟨first.add n, .fresh cfg (first.add n)⟩ else s.1.get (first.add j).count := by
      intro j
      refine (CircularVector.get_modify _).trans ?_
      rw [hsize']
      rfl
    have hcount : ∀ i, (CountedRing.countReset cfg s ⟨first.add n, first.add n⟩).2 i =
        if i = (first.add n).count % cfg.ringSize then 1 else s.2 i := by
      intro i
      unfold CountedRing.countReset
      dsimp only
      rw [Function.update_apply, hsize', if_neg (hleft n le_rfl (by omega) n)]
    refine ⟨CircularVector.size_modify.trans hsize', fun j hj => ?_, fun j hj hR k => ?_⟩
    · rw [hget, hcount]
      by_cases hjn : j = n
      · rw [hjn, if_pos rfl, if_pos rfl]
        exact ⟨rfl, rfl⟩
      · have hne := hsized.index_ne (i := j) (j := n) (by omega) (by omega)
        rw [if_neg hne, if_neg hne]
        exact hdone j (by omega)
    · have hne := hsized.index_ne (i := n) (j := j) (by omega) (by omega)
      rw [hget, if_neg hne.symm]
      exact hleft j (by omega) hR k

lemma foldl_countReset_fst (rs : List SlotReset) (s : CircularVector (CellSlotResourceAllocator γ) × (Nat → Nat)) :
    (rs.foldl (CountedRing.countReset cfg) s).1 = rs.foldl (CellResourceAllocator.resetSlot cfg) s.1 := by
  induction rs generalizing s with
  | nil => rfl
  | cons r rs ih => exact ih _

lemma first_valid (hnum : first.numerology = cfg.numerology.val) (j : Nat) : (first.add j).valid := by
  unfold SlotPoint.valid
  rw [SlotPoint.add_numerology, hnum]
  exact cfg.numerology.isLt

lemma slotIndication_spec (s : CountedRing γ) (slTx : SlotPoint) :
    Yields (s.step cfg (.slotIndication slTx))
      (fun s' => (s.ring.lastSlotInd.valid → s.ring.lastSlotInd.add 1 = slTx) ∧ slTx.numerology = cfg.numerology.val ∧
        s'.ring.lastSlotInd = slTx ∧
        (s'.ring.slots, s'.clears) = (s.ring.resets slTx).foldl (CountedRing.countReset cfg) (s.ring.slots, s.clears))
      (· ≠ .uninitializedGrid) := by
  refine yields_bind (Q := fun ring => (s.ring.lastSlotInd.valid → s.ring.lastSlotInd.add 1 = slTx) ∧
    slTx.numerology = cfg.numerology.val ∧
    ring = ⟨slTx, (s.ring.resets slTx).foldl (CellResourceAllocator.resetSlot cfg) s.ring.slots⟩) ?_ ?_
  · refine yields_ite (fun _ => nofun) fun hnext => yields_ite (fun _ => nofun) fun hnum => ?_
    exact ⟨fun hvalid => by_contra fun hne => hnext ⟨hvalid, hne⟩, not_not.mp hnum, rfl⟩
  · rintro ring ⟨hnext, hnum, rfl⟩
    refine ⟨hnext, hnum, rfl, Prod.ext ?_ rfl⟩
    exact (foldl_countReset_fst _ (s.ring.slots, s.clears)).symm

lemma firstIndication_aligned (hsized : RingSized cfg first) (hwf : first.WellFormed) :
    Yields ((CountedRing.init cfg).step cfg (.slotIndication first : GridEvent γ))
      (fun s => first.numerology = cfg.numerology.val ∧ GridAligned cfg first s (.start cfg first))
      (· ≠ .uninitializedGrid) := by
  refine (slotIndication_spec _ first).post fun s h => ?_
  obtain ⟨-, hnum, hlast, hfold⟩ := h
  have hsize : (CountedRing.init cfg : CountedRing γ).ring.slots.size = cfg.ringSize :=
    CircularVector.size_ofFn _ (ringSize_pos _ _) _
  have hother : ∀ i j, ((CountedRing.init cfg : CountedRing γ).ring.slots.get i).slot ≠ first.add j := by
    intro i j heq
    have hslot : ((CountedRing.init cfg : CountedRing γ).ring.slots.get i).slot = .invalid :=
      congrArg CellSlotResourceAllocator.slot (CircularVector.get_ofFn _ (ringSize_pos _ _) _ i)
    apply SlotPoint.not_valid_invalid
    rw [← hslot, heq]
    exact first_valid hnum j
  have hresets : (CountedRing.init cfg : CountedRing γ).ring.resets first =
      (List.range cfg.ringSize).map fun i => ⟨first.add i, first.add i⟩ := by
    refine (if_pos SlotPoint.not_valid_invalid).trans ?_
    rw [hsize]
  obtain ⟨hsize', hdone, -⟩ :=
    firstResets_spec hsized (CountedRing.init cfg : CountedRing γ).clears hsize hother cfg.ringSize le_rfl
  rw [hresets] at hfold
  rw [← hfold] at hsize' hdone
  have hzero : first.add 0 = first := by
    unfold SlotPoint.add
    rw [Nat.add_zero, Nat.mod_eq_of_lt hwf]
  refine ⟨hnum, hlast.trans hzero.symm, hsize', fun j _ hj => ?_, fun j _ => rfl⟩
  have hstart : (GridHistory.start cfg first : GridHistory γ).now = 0 := rfl
  rw [hstart] at hj ⊢
  obtain ⟨hentry, hclears⟩ := hdone j (by omega)
  refine ⟨hentry, hclears.trans ?_⟩
  unfold clearsOf RING_MAX_HISTORY_SIZE
  rw [if_neg (by omega)]

/-- The slot whose entry is set up for slot `n + 1`, counted from the first one, when that one is indicated. -/
lemma slotToReset_eq (hsized : RingSized cfg first) (n : Nat) :
    ((first.add (n + 1)).sub RING_MAX_HISTORY_SIZE).add cfg.ringSize = first.add (n + cfg.ringSize - 15) ∧
      ((first.add (n + 1)).sub RING_MAX_HISTORY_SIZE).count % cfg.ringSize =
        (first.add (n + cfg.ringSize - 15)).count % cfg.ringSize := by
  have hwindow := hsized.window
  have hlt := hsized.lt
  have hpos := first.hyperFrame_pos
  unfold RING_MAX_HISTORY_SIZE at hwindow ⊢
  -- one hyper frame ahead there are sixteen slots to go back by
  have hahead : first.add (n + 1) = first.add (n + 1 + first.nofSlotsPerHyperSystemFrame) :=
    SlotPoint.add_congr (by rw [Nat.add_mod_right])
  have hsub : (first.add (n + 1)).sub 16 = first.add (n + 1 + first.nofSlotsPerHyperSystemFrame - 16) := by
    rw [hahead, SlotPoint.add_sub (by omega)]
  rw [hsub, SlotPoint.add_add]
  have hadd : first.add (n + 1 + first.nofSlotsPerHyperSystemFrame - 16 + cfg.ringSize) =
      first.add (n + cfg.ringSize - 15) := by
    apply SlotPoint.add_congr
    have hsum : n + 1 + first.nofSlotsPerHyperSystemFrame - 16 + cfg.ringSize =
        n + cfg.ringSize - 15 + first.nofSlotsPerHyperSystemFrame := by omega
    rw [hsum, Nat.add_mod_right]
  refine ⟨hadd, ?_⟩
  rw [← hadd]
  exact (hsized.index_add _).symm

variable {s : CountedRing γ} {h : GridHistory γ}

lemma slotIndication_aligned (hsized : RingSized cfg first) (hnum : first.numerology = cfg.numerology.val)
    (hs : GridAligned cfg first s h) (slTx : SlotPoint) :
    Yields (s.step cfg (.slotIndication slTx)) (fun s' => GridAligned cfg first s' (h.step (.slotIndication slTx)))
      (· ≠ .uninitializedGrid) := by
  refine (slotIndication_spec s slTx).post fun s' hs' => ?_
  obtain ⟨hnext, -, hlast, hfold⟩ := hs'
  have hvalid : s.ring.lastSlotInd.valid := hs.last ▸ first_valid hnum _
  have hslTx : slTx = first.add (h.now + 1) := by
    rw [← hnext hvalid, hs.last, SlotPoint.add_add]
  have hwindow := hsized.window
  obtain ⟨hnew, hindex⟩ := slotToReset_eq hsized h.now
  have hresets : s.ring.resets slTx =
      [⟨slTx.sub RING_MAX_HISTORY_SIZE, first.add (h.now + cfg.ringSize - 15)⟩] := by
    unfold CellResourceAllocator.resets
    rw [if_neg (not_not.mpr hvalid), hs.size, hslTx]
    dsimp only
    rw [hnew]
  rw [hresets, List.foldl_cons, List.foldl_nil] at hfold
  obtain ⟨hslots, hclears⟩ := Prod.ext_iff.mp hfold
  dsimp only at hslots hclears
  rw [hslTx] at hslots hclears
  have hget : ∀ j, s'.ring.slots.get (first.add j).count =
      if (first.add j).count % cfg.ringSize = (first.add (h.now + cfg.ringSize - 15)).count % cfg.ringSize then
        ⟨first.add (h.now + cfg.ringSize - 15), .fresh cfg (first.add (h.now + cfg.ringSize - 15))⟩
      else s.ring.slots.get (first.add j).count := by
    intro j
    rw [hslots]
    refine (CircularVector.get_modify _).trans ?_
    rw [hs.size, hindex]
    rfl
  have hcount : ∀ i, s'.clears i = if i = (first.add (h.now + cfg.ringSize - 15)).count % cfg.ringSize then
      (if (s.ring.slots.get (first.add (h.now + cfg.ringSize - 15)).count).slot = first.add (h.now + cfg.ringSize - 15)
        then s.clears i + 1 else 1) else s.clears i := by
    intro i
    rw [hclears]
    unfold CountedRing.countReset
    dsimp only
    rw [Function.update_apply, hs.size, hindex]
    have hsame : s.ring.slots.get ((first.add (h.now + 1)).sub RING_MAX_HISTORY_SIZE).count =
        s.ring.slots.get (first.add (h.now + cfg.ringSize - 15)).count := by
      apply CircularVector.get_congr
      rw [hs.size, hindex]
    rw [hsame]
    split
    case isTrue hi => rw [hi]
    case isFalse => rfl
  have hR : 16 ≤ cfg.ringSize := by
    unfold RING_MAX_HISTORY_SIZE at hwindow
    omega
  unfold RING_MAX_HISTORY_SIZE at hwindow
  refine ⟨hlast.trans hslTx, ?_, fun j hlo hhi => ?_, fun j hj => ?_⟩
  · rw [hslots]
    exact CircularVector.size_modify.trans hs.size
  · change h.now + 1 - 15 ≤ j at hlo
    change j < h.now + 1 - 15 + cfg.ringSize at hhi
    change _ = (⟨_, h.resources j⟩ : CellSlotResourceAllocator γ) ∧ _ = clearsOf cfg (h.now + 1) j
    rw [hget, hcount]
    by_cases hj : j = h.now + cfg.ringSize - 15
    · rw [← hj, if_pos rfl, if_pos rfl, hs.untouched j (by omega)]
      refine ⟨rfl, ?_⟩
      by_cases hearly : h.now < 15
      · -- the entry has been set up for this slot already
        obtain ⟨hentry, hcleared⟩ := hs.entries j (by omega) (by omega)
        rw [hentry, if_pos rfl, hcleared]
        unfold clearsOf RING_MAX_HISTORY_SIZE
        rw [if_neg (by omega), if_pos (by omega)]
      · obtain ⟨hentry, -⟩ := hs.entries (h.now - 15) (by omega) (by omega)
        have hsame : s.ring.slots.get (first.add j).count = s.ring.slots.get (first.add (h.now - 15)).count := by
          apply CircularVector.get_congr
          rw [hs.size, show j = h.now - 15 + cfg.ringSize by omega]
          exact hsized.index_add _
        have hne : first.add (h.now - 15) ≠ first.add j := by
          intro heq
          have hmod := SlotPoint.add_eq_add_iff.mp heq
          have := eq_of_mod_eq_of_lt (by omega) (by have := hsized.lt; omega) hmod
          omega
        rw [hsame, hentry, if_neg hne]
        unfold clearsOf RING_MAX_HISTORY_SIZE
        rw [if_neg (by omega)]
    · have hne : (first.add j).count % cfg.ringSize ≠ (first.add (h.now + cfg.ringSize - 15)).count % cfg.ringSize := by
        by_cases hlt : j < h.now + cfg.ringSize - 15
        · exact hsized.index_ne hlt (by omega)
        · exact (hsized.index_ne (by omega) (by omega)).symm
      rw [if_neg hne, if_neg hne]
      obtain ⟨hentry, hcleared⟩ := hs.entries j (by omega) (by omega)
      refine ⟨hentry, hcleared.trans ?_⟩
      unfold clearsOf RING_MAX_HISTORY_SIZE
      by_cases hcond : cfg.ringSize < j + 16 ∧ j < cfg.ringSize ∧ j + 16 ≤ h.now + cfg.ringSize
      · rw [if_pos hcond, if_pos (by omega)]
      · rw [if_neg hcond, if_neg (by omega)]
  · change h.now + 1 + cfg.maxUlSlotAllocDelay < j at hj
    exact hs.untouched j (by omega)

lemma allocate_aligned (hsized : RingSized cfg first)
    (hs : GridAligned cfg first s h) (slotDelay : Nat) (write : SlotResources γ → SlotResources γ) :
    Yields (s.step cfg (.allocate slotDelay write))
      (fun s' => GridAligned cfg first s' (h.step (.allocate slotDelay write))) (· ≠ .uninitializedGrid) := by
  have hwindow := hsized.window
  unfold RING_MAX_HISTORY_SIZE at hwindow
  refine yields_bind (Q := fun ring => slotDelay ≤ cfg.maxUlSlotAllocDelay ∧ ring = { s.ring with
    slots := s.ring.slots.modify (first.add (h.now + slotDelay)).count fun e =>
      { e with resources := write e.resources } }) ?_ ?_
  · refine yields_ite (fun _ => nofun) fun hdelay => yields_ite (fun hslot => absurd ?_ hslot) fun _ => ⟨by omega, ?_⟩
    · obtain ⟨hentry, -⟩ := hs.entries (h.now + slotDelay) (by omega) (by omega)
      rw [hs.last, SlotPoint.add_add, hentry]
    · rw [hs.last, SlotPoint.add_add, ← hs.last]
  · rintro ring ⟨hdelay, rfl⟩
    refine ⟨hs.last, CircularVector.size_modify.trans hs.size, fun j hlo hhi => ?_, fun j hj => ?_⟩
    · obtain ⟨hj, hcleared⟩ := hs.entries j hlo hhi
      refine ⟨?_, hcleared⟩
      refine (CircularVector.get_modify _).trans ?_
      rw [hs.size, hj]
      change _ = (⟨_, Function.update h.resources _ _ j⟩ : CellSlotResourceAllocator γ)
      by_cases hjn : j = h.now + slotDelay
      · rw [hjn, if_pos rfl, Function.update_self]
      · have hne : (first.add j).count % cfg.ringSize ≠ (first.add (h.now + slotDelay)).count % cfg.ringSize := by
          change h.now - 15 ≤ j at hlo
          change j < h.now - 15 + cfg.ringSize at hhi
          by_cases hlt : j < h.now + slotDelay
          · exact hsized.index_ne hlt (by omega)
          · exact (hsized.index_ne (by omega) (by omega)).symm
        rw [if_neg hne, Function.update_of_ne hjn]
    · change h.now + cfg.maxUlSlotAllocDelay < j at hj
      change Function.update h.resources _ _ j = _
      rw [Function.update_of_ne (by omega)]
      exact hs.untouched j hj

lemma run_aligned (hsized : RingSized cfg first) (hnum : first.numerology = cfg.numerology.val)
    (hs : GridAligned cfg first s h) (es : List (GridEvent γ)) :
    Yields (runEvents (CountedRing.step cfg) s es) (fun s' => GridAligned cfg first s' (es.foldl GridHistory.step h))
      (· ≠ .uninitializedGrid) := by
  induction es generalizing s h with
  | nil => exact hs
  | cons e es ih =>
    refine yields_bind (Q := fun s' => GridAligned cfg first s' (h.step e)) ?_ fun s' hs' => ih hs'
    cases e with
    | slotIndication slTx => exact slotIndication_aligned hsized hnum hs slTx
    | allocate slotDelay write => exact allocate_aligned hsized hs slotDelay write

/-- After any run that starts with a slot indication for `first`, each slot of the window that is not before `first` has
its entry, which holds all that has been scheduled in the slot and has been cleared once for it, or twice for the last
slots that the first indication sets up. An access to a slot of the window never finds the entry of another slot. -/
theorem resource_grid_aligned (cfg : CellConfiguration) (first : SlotPoint)
    (hwindow : 2 * cfg.windowSize ≤ first.nofSlotsPerHyperSystemFrame) (hwf : first.WellFormed)
    (es : List (GridEvent γ)) :
    Yields (CountedRing.run cfg (.slotIndication first :: es))
      (fun s =>
        let h := es.foldl GridHistory.step (.start cfg first)
        s.ring.lastSlotInd = first.add h.now ∧
        ∀ j, h.now < j + RING_MAX_HISTORY_SIZE → j ≤ h.now + cfg.maxUlSlotAllocDelay →
          s.ring.slots.get (first.add j).count = ⟨first.add j, h.resources j⟩ ∧
          s.clears ((first.add j).count % cfg.ringSize) =
            if cfg.ringSize < j + RING_MAX_HISTORY_SIZE ∧ j < cfg.ringSize then 2 else 1)
      (· ≠ .uninitializedGrid) := by
  have hsized := ringSized_of_window hwindow
  have hR := hsized.window
  refine yields_bind (firstIndication_aligned hsized hwf) fun s₀ h₀ => ?_
  refine (run_aligned hsized h₀.1 h₀.2 es).post fun s hs => ⟨hs.last, fun j hlo hhi => ?_⟩
  unfold RING_MAX_HISTORY_SIZE at hR hlo
  obtain ⟨hentry, hclears⟩ := hs.entries j (by omega) (by omega)
  refine ⟨hentry, hclears.trans ?_⟩
  unfold clearsOf RING_MAX_HISTORY_SIZE
  by_cases hcond : cfg.ringSize < j + 16 ∧ j < cfg.ringSize
  · rw [if_pos hcond, if_pos ⟨hcond.1, hcond.2, by omega⟩]
  · rw [if_neg hcond, if_neg fun h => hcond ⟨h.1, h.2.1⟩]

lemma zero_lt_nofNumerologies : 0 < NOF_NUMEROLOGIES := by decide

def terrestrialCell : CellConfiguration := ⟨0, ⟨0, zero_lt_nofNumerologies⟩, fun _ => 14, fun _ => 14, [4], by simp⟩

def wrapAroundRun : List (GridEvent Nat) :=
  [.slotIndication ⟨0, 0⟩, .allocate 3 fun r => { r with result.ul.puschs := [7] }, .slotIndication ⟨0, 1⟩]

theorem resource_grid_aligned_wrapAround :
    ∃ s : CountedRing Nat, CountedRing.run terrestrialCell (.slotIndication ⟨0, 10239⟩ :: wrapAroundRun) = .ok s ∧
      (s.ring.slots.get 3).slot = ⟨0, 3⟩ ∧ (s.ring.slots.get 3).resources.result.ul.puschs = [7] ∧ s.clears 3 = 1 := by
  have hwindow : 2 * terrestrialCell.windowSize ≤ (⟨0, 10239⟩ : SlotPoint).nofSlotsPerHyperSystemFrame := by
    rw [SlotPoint.hyperFrame_eq]
    decide +kernel
  have hwf : (⟨0, 10239⟩ : SlotPoint).WellFormed := by decide +kernel
  have haligned := fun es : List (GridEvent Nat) => resource_grid_aligned terrestrialCell _ hwindow hwf es
  cases hrun : CountedRing.run terrestrialCell (.slotIndication ⟨0, 10239⟩ :: wrapAroundRun) with
  | error a =>
    have hreturns : (CountedRing.run terrestrialCell
        (.slotIndication ⟨0, 10239⟩ :: wrapAroundRun)).toOption.isSome = true := by decide +kernel
    rw [hrun] at hreturns
    cases hreturns
  | ok s =>
  refine ⟨s, rfl, ?_⟩
  obtain ⟨hentry, hclears⟩ := ((haligned _).of_ok hrun).2 4 (by decide +kernel) (by decide +kernel)
  refine ⟨?_, ?_, hclears⟩
  · exact congrArg CellSlotResourceAllocator.slot hentry
  · exact congrArg (fun e => e.resources.result.ul.puschs) hentry

/-- When the first slot has been indicated, the entry of the slot before it stands for another slot; and when the second
one has, the entry of slot 165 has been cleared twice since it stood for no slot. -/
theorem resource_grid_not_aligned :
    (∃ c : CellResourceAllocator Nat,
      CellResourceAllocator.run terrestrialCell [.slotIndication ⟨0, 100⟩] = .ok c ∧
        c.lastSlotInd.sub 1 = ⟨0, 99⟩ ∧ (c.slots.get 99).slot = ⟨0, 179⟩) ∧
    ∃ s : CountedRing Nat,
      CountedRing.run terrestrialCell [.slotIndication ⟨0, 100⟩, .slotIndication ⟨0, 101⟩] = .ok s ∧
        (s.ring.slots.get 165).slot = ⟨0, 165⟩ ∧ s.clears (165 % terrestrialCell.ringSize) = 2 :=
  ⟨⟨_, rfl, by decide +kernel, by decide +kernel⟩, _, rfl, by decide +kernel, by decide +kernel⟩

end Alignment

end OwlsRan.Sched
