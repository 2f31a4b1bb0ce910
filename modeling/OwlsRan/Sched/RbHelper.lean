import OwlsRan.Adt.BitsetRange
import OwlsRan.Adt.UnsignedInterval

/-!
# Search for free resource blocks

`find_empty_interval_of_length` looks for a run of free RBs inside a window. After a gap that is too short the window
is displaced behind the gap and keeps its width, so that its right edge leaves the limits of the search.
-/

namespace OwlsRan.Sched

open OwlsRan.Adt

inductive RbSearchAbort where
  | bitset (reason : BitsetAbort)
  | endless
deriving DecidableEq

variable {N : Nat}

def findNextEmptyInterval (usedRbBitmap : BoundedBitset N) (searchLimits : UnsignedInterval) :
    Except BitsetAbort UnsignedInterval := do
  let searchLimits := searchLimits.intersect (.ofStartAndLen 0 usedRbBitmap.size)
  match ← usedRbBitmap.findLowest searchLimits.start searchLimits.stop false with
  | none => return .default
  | some rbStart =>
    match ← usedRbBitmap.findLowest (rbStart + 1) searchLimits.stop true with
    | some rbEnd => return .ofStartAndLen rbStart (rbEnd - rbStart)
    | none => return .ofStartAndLen rbStart (searchLimits.stop - rbStart)

/-- The `do … while` of `find_empty_interval_of_length`. -/
def emptyIntervalLoop (usedRbBitmap : BoundedBitset N) (nofRbs : Nat) :
    Nat → UnsignedInterval → UnsignedInterval → Except RbSearchAbort UnsignedInterval
  | 0, _, _ => .error .endless
  | fuel + 1, searchLimits, maxInterv =>
    match findNextEmptyInterval usedRbBitmap searchLimits with
    | .error reason => .error (.bitset reason)
    | .ok interv =>
      if interv.empty then .ok maxInterv
      else if nofRbs ≤ interv.length then .ok (.ofStartAndLen interv.start nofRbs)
      else
        let maxInterv := if maxInterv.length < interv.length then interv else maxInterv
        let searchLimits := searchLimits.displaceTo (interv.stop + 1)
        if searchLimits.empty then .ok maxInterv
        else emptyIntervalLoop usedRbBitmap nofRbs fuel searchLimits maxInterv

def bitmapLimits (usedRbBitmap : BoundedBitset N) (searchLimits : UnsignedInterval) : UnsignedInterval :=
  searchLimits.intersect (.ofStartAndLen 0 usedRbBitmap.size)

/-- `find_empty_interval_of_length`. Every turn of the loop starts behind the place where the last one started, so
that the size of the bitmap bounds the number of turns. -/
def findEmptyIntervalOfLength (usedRbBitmap : BoundedBitset N) (nofRbs : Nat) (searchLimits : UnsignedInterval) :
    Except RbSearchAbort UnsignedInterval :=
  emptyIntervalLoop usedRbBitmap nofRbs (usedRbBitmap.size + 1) (bitmapLimits usedRbBitmap searchLimits) .default

section Gaps

variable (used : BoundedBitset N)

/-- The RBs of `i` are free. -/
def AllFree (i : UnsignedInterval) : Prop := i.stop ≤ used.size ∧ ∀ p, i.Mem p → used.bit p = false

/-- `i` is the first run of free RBs in `[s, e)`, cut at `e` and at the end of the bitmap. -/
structure FirstGap (s e : Nat) (i : UnsignedInterval) : Prop where
  nonempty : i.start < i.stop
  atLeast : s ≤ i.start
  atMost : i.stop ≤ e
  allFree : AllFree used i
  usedBefore : ∀ p, s ≤ p → p < i.start → used.bit p = true
  maximal : i.stop < e → i.stop < used.size → used.bit i.stop = true

/-- The gaps that a window of `width` RBs meets when it starts at `s` and is moved behind each gap in turn. -/
inductive Meets (width : Nat) : Nat → UnsignedInterval → Prop
  | here {s : Nat} {i : UnsignedInterval} : FirstGap used s (s + width) i → Meets width s i
  | next {s : Nat} {i j : UnsignedInterval} : FirstGap used s (s + width) i → Meets width (i.stop + 1) j → Meets width s j

/-- `len` free RBs from `s` on, inside the limits and the bitmap. -/
def FreeRun (lims : UnsignedInterval) (s len : Nat) : Prop :=
  lims.start ≤ s ∧ s + len ≤ lims.stop ∧ s + len ≤ used.size ∧ ∀ p, s ≤ p → p < s + len → used.bit p = false

/-- What the search is for: the first `nofRbs` of the leftmost run that has room for them, else a longest run. -/
structure BestGap (nofRbs : Nat) (lims i : UnsignedInterval) : Prop where
  inside : ∀ p, i.Mem p → lims.Mem p ∧ p < used.size
  free : ∀ p, i.Mem p → used.bit p = false
  short : i.length ≤ nofRbs
  leftmost : (∃ s, FreeRun used lims s nofRbs) →
    i.length = nofRbs ∧ FreeRun used lims i.start nofRbs ∧ ∀ s, FreeRun used lims s nofRbs → i.start ≤ s
  longest : (¬ ∃ s, FreeRun used lims s nofRbs) → ∀ s len, FreeRun used lims s len → len ≤ i.length

end Gaps

/-!
## What the search for free resource blocks finds

The search meets every free run of its limits in one piece.
-/

open OwlsRan.Adt

variable {N : Nat} {used : BoundedBitset N}

section FirstGap

/-- `find_next_empty_interval` never leaves the bitmap, and what it returns is the first gap of its window. -/
lemma findNextEmptyInterval_spec (used : BoundedBitset N) (s width : Nat) :
    ∃ i, findNextEmptyInterval used (.ofStartAndLen s width) = .ok i ∧
      (FirstGap used s (s + width) i ∨
        i.empty = true ∧ ∀ p, s ≤ p → p < s + width → p < used.size → used.bit p = true) := by
  let lims := (UnsignedInterval.ofStartAndLen s width).intersect (.ofStartAndLen 0 used.size)
  have hmem : ∀ p, lims.Mem p ↔ (s ≤ p ∧ p < s + width) ∧ p < used.size := by
    intro p
    change ((UnsignedInterval.ofStartAndLen s width).intersect (.ofStartAndLen 0 used.size)).Mem p ↔ _
    rw [UnsignedInterval.mem_intersect]
    simp [UnsignedInterval.Mem]
  have hvalid := lims.valid
  have hsize : lims.stop ≤ used.size := by
    have := UnsignedInterval.intersect_stop_le (.ofStartAndLen s width) (.ofStartAndLen 0 used.size)
    simpa using this
  rcases BoundedBitset.findLowest_spec hvalid hsize false with ⟨hnone, hall⟩ | ⟨x, hx, hsx, hxe, hfree, hbefore⟩
  · refine ⟨.default, ?_, Or.inr ⟨rfl, ?_⟩⟩
    · change (used.findLowest lims.start lims.stop false >>= _) = _
      rw [hnone]
      rfl
    · intro p hsp hpw hpn
      have hin := (hmem p).mpr ⟨⟨hsp, hpw⟩, hpn⟩
      exact hall p hin.1 hin.2
  · have hxin := (hmem x).mp ⟨hsx, hxe⟩
    have hstart : ∀ p, s ≤ p → p < x → used.bit p = true := by
      intro p hsp hpx
      have hp := (hmem p).mpr ⟨⟨hsp, by omega⟩, by omega⟩
      exact hbefore p hp.1 hpx
    have hfrom : ∀ y, x < y → y ≤ lims.stop → (∀ p, x + 1 ≤ p → p < y → used.bit p = false) →
        (y < lims.stop → used.bit y = true) → FirstGap used s (s + width) (.ofStartAndLen x (y - x)) := by
      intro y hxy hy hrun hend
      have hlast := (hmem (y - 1)).mp ⟨by omega, by omega⟩
      have hstop : (UnsignedInterval.ofStartAndLen x (y - x)).stop = y := by
        rw [UnsignedInterval.ofStartAndLen_stop]
        omega
      refine ⟨by rw [hstop]; exact hxy, hxin.1.1, by rw [hstop]; omega, ⟨by rw [hstop]; omega, ?_⟩, hstart, ?_⟩
      · intro p hp
        unfold UnsignedInterval.Mem at hp
        rw [hstop] at hp
        rcases Nat.eq_or_lt_of_le hp.1 with heq | hlt
        · rw [← heq]
          exact hfree
        · exact hrun p hlt hp.2
      · rw [hstop]
        intro hyw hyn
        have hyin := (hmem y).mpr ⟨⟨by omega, hyw⟩, hyn⟩
        exact hend hyin.2
    rcases BoundedBitset.findLowest_spec (by omega : x + 1 ≤ lims.stop) hsize true with
      ⟨hnone, hall⟩ | ⟨y, hy, hxy, hye, hused, hrun⟩
    · refine ⟨.ofStartAndLen x (lims.stop - x), ?_, Or.inl (hfrom lims.stop hxe (Nat.le_refl _) hall (by omega))⟩
      change (used.findLowest lims.start lims.stop false >>= _) = _
      rw [hx]
      change (used.findLowest (x + 1) lims.stop true >>= _) = _
      rw [hnone]
      rfl
    · refine ⟨.ofStartAndLen x (y - x), ?_, Or.inl (hfrom y hxy (Nat.le_of_lt hye) hrun fun _ => hused)⟩
      change (used.findLowest lims.start lims.stop false >>= _) = _
      rw [hx]
      change (used.findLowest (x + 1) lims.stop true >>= _) = _
      rw [hy]
      rfl

lemma FirstGap.unique {s e : Nat} {i j : UnsignedInterval} (hi : FirstGap used s e i) (hj : FirstGap used s e j) :
    i = j := by
  have hstart : ∀ {i j : UnsignedInterval}, FirstGap used s e i → FirstGap used s e j → j.start ≤ i.start := by
    intro i j hi hj
    by_contra hlt
    have hset := hj.usedBefore i.start hi.atLeast (by omega)
    rw [hi.allFree.2 i.start ⟨Nat.le_refl _, hi.nonempty⟩] at hset
    cases hset
  have hs : i.start = j.start := Nat.le_antisymm (hstart hj hi) (hstart hi hj)
  have hstop : ∀ {i j : UnsignedInterval}, FirstGap used s e i → FirstGap used s e j → i.start = j.start →
      j.stop ≤ i.stop := by
    intro i j hi hj hs
    by_contra hlt
    have hset := hi.maximal (by have := hj.atMost; omega) (by have := hj.allFree.1; omega)
    rw [hj.allFree.2 i.stop ⟨by have := hi.nonempty; omega, by omega⟩] at hset
    cases hset
  have he : i.stop = j.stop := Nat.le_antisymm (hstop hj hi hs.symm) (hstop hi hj hs)
  cases i
  cases j
  simp only at hs he
  subst hs he
  rfl

end FirstGap

section Meets

variable {width s : Nat} {i j : UnsignedInterval}

lemma meets_gap (h : Meets used width s i) : s ≤ i.start ∧ i.start < i.stop ∧ AllFree used i := by
  induction h with
  | here hgap => exact ⟨hgap.atLeast, hgap.nonempty, hgap.allFree⟩
  | next hgap _ ih =>
    refine ⟨?_, ih.2⟩
    have := hgap.atLeast
    have := hgap.nonempty
    omega

lemma meets_length_le (h : Meets used width s i) : i.length ≤ width := by
  induction h with
  | here hgap =>
    have := hgap.atLeast
    have := hgap.atMost
    unfold UnsignedInterval.length
    omega
  | next _ _ ih => exact ih

lemma meets_iff (hgap : FirstGap used s (s + width) i) :
    Meets used width s j ↔ j = i ∨ Meets used width (i.stop + 1) j := by
  constructor
  · intro h
    cases h with
    | here hgap' => exact Or.inl (hgap'.unique hgap)
    | next hgap' hnext =>
      rw [hgap'.unique hgap] at hnext
      exact Or.inr hnext
  · rintro (rfl | h)
    · exact .here hgap
    · exact .next hgap h

lemma not_firstGap {e : Nat} (h : ∀ p, s ≤ p → p < e → p < used.size → used.bit p = true) : ¬ FirstGap used s e i := by
  intro hgap
  have := hgap.nonempty
  have := hgap.atMost
  have hset := h i.start hgap.atLeast (by omega) (by have := hgap.allFree.1; omega)
  rw [hgap.allFree.2 i.start ⟨Nat.le_refl _, hgap.nonempty⟩] at hset
  cases hset

lemma not_meets (h : ∀ p, s ≤ p → p < s + width → p < used.size → used.bit p = true) :
    ¬ Meets used width s j := by
  intro hj
  cases hj with
  | here hgap => exact not_firstGap h hgap
  | next hgap _ => exact not_firstGap h hgap

lemma freeRun_meets (lims : UnsignedInterval) (hwidth : lims.stop ≤ lims.start + width) (len : Nat) (hlen : 0 < len)
    {r : Nat} (hrun : FreeRun used lims r len) (hs : lims.start ≤ s) (hsr : s ≤ r) :
    ∃ i, Meets used width s i ∧ i.start ≤ r ∧ r + len ≤ i.stop := by
  obtain ⟨hlo, hhi, hsize, hfree⟩ := hrun
  induction hd : r - s using Nat.strongRecOn generalizing s with
  | _ d ih =>
    obtain ⟨i, -, hgap | ⟨-, hnone⟩⟩ := findNextEmptyInterval_spec used s width
    · have hbefore : i.start ≤ r := by
        by_contra hlt
        have hset := hgap.usedBefore r hsr (by omega)
        rw [hfree r (Nat.le_refl _) (by omega)] at hset
        cases hset
      by_cases hcover : r + len ≤ i.stop
      · exact ⟨i, .here hgap, hbefore, hcover⟩
      · have hset := hgap.maximal (by omega) (by omega)
        have hbehind : i.stop < r := by
          by_contra hge
          rw [hfree i.stop (by omega) (by omega)] at hset
          cases hset
        have := hgap.atLeast
        have := hgap.nonempty
        obtain ⟨j, hj, hjr⟩ := ih (r - (i.stop + 1)) (by omega) (s := i.stop + 1) (by omega) (by omega) rfl
        exact ⟨j, .next hgap hj, hjr⟩
    · -- the run itself is free in the window
      have hset := hnone r hsr (by omega) (by omega)
      rw [hfree r (Nat.le_refl _) (by omega)] at hset
      cases hset

end Meets

section Loop

variable {width nofRbs s : Nat} {m r : UnsignedInterval}

/-- What the loop returns from the window that starts at `s`, when `m` is the longest gap so far. -/
inductive SearchOutcome (used : BoundedBitset N) (width nofRbs s : Nat) (m : UnsignedInterval) : UnsignedInterval → Prop
  | fits (i : UnsignedInterval) : Meets used width s i → nofRbs ≤ i.length →
      (∀ j, Meets used width s j → nofRbs ≤ j.length → i.start ≤ j.start) →
      SearchOutcome used width nofRbs s m (.ofStartAndLen i.start nofRbs)
  | kept : (∀ j, Meets used width s j → j.length < nofRbs ∧ j.length ≤ m.length) →
      SearchOutcome used width nofRbs s m m
  | longer (i : UnsignedInterval) : Meets used width s i → m.length < i.length →
      (∀ j, Meets used width s j → j.length < nofRbs ∧ j.length ≤ i.length) →
      (∀ j, Meets used width s j → j.length = i.length → i.start ≤ j.start) →
      SearchOutcome used width nofRbs s m i

lemma SearchOutcome.cons {i : UnsignedInterval} (hgap : FirstGap used s (s + width) i) (hshort : i.length < nofRbs)
    (h : SearchOutcome used width nofRbs (i.stop + 1) (if m.length < i.length then i else m) r) :
    SearchOutcome used width nofRbs s m r := by
  have hbehind : ∀ j, Meets used width (i.stop + 1) j → i.start ≤ j.start := by
    intro j hj
    have := (meets_gap hj).1
    have := hgap.nonempty
    omega
  have hmeets : ∀ j, Meets used width s j ↔ j = i ∨ Meets used width (i.stop + 1) j := fun j => meets_iff hgap
  cases h with
  | fits j hj hfits hfirst =>
    apply SearchOutcome.fits j ((hmeets j).mpr (Or.inr hj)) hfits
    intro k hk hlong
    rcases (hmeets k).mp hk with rfl | hk
    · omega
    · exact hfirst k hk hlong
  | kept hall =>
    split at hall
    case isTrue hlonger =>
      rw [if_pos hlonger]
      apply SearchOutcome.longer i ((hmeets i).mpr (Or.inl rfl)) hlonger
      · intro k hk
        rcases (hmeets k).mp hk with rfl | hk
        · exact ⟨hshort, Nat.le_refl _⟩
        · exact hall k hk
      · intro k hk _
        rcases (hmeets k).mp hk with rfl | hk
        · exact Nat.le_refl _
        · exact hbehind k hk
    case isFalse hnot =>
      rw [if_neg hnot]
      apply SearchOutcome.kept
      intro k hk
      rcases (hmeets k).mp hk with rfl | hk
      · exact ⟨hshort, by omega⟩
      · exact hall k hk
  | longer _ hj hlonger hall hfirst =>
    have hbest : m.length < r.length ∧ i.length < r.length := by
      split at hlonger <;> omega
    apply SearchOutcome.longer r ((hmeets r).mpr (Or.inr hj)) hbest.1
    · intro k hk
      rcases (hmeets k).mp hk with rfl | hk
      · exact ⟨hshort, by omega⟩
      · exact hall k hk
    · intro k hk hsame
      rcases (hmeets k).mp hk with rfl | hk
      · omega
      · exact hfirst k hk hsame

lemma emptyIntervalLoop_spec (used : BoundedBitset N) (width nofRbs fuel s : Nat) (m : UnsignedInterval)
    (hfuel : 0 < fuel) (hsize : used.size < s + fuel) :
    ∃ r, emptyIntervalLoop used nofRbs fuel (.ofStartAndLen s width) m = .ok r ∧
      SearchOutcome used width nofRbs s m r := by
  induction fuel generalizing s m with
  | zero => omega
  | succ fuel ih =>
    obtain ⟨i, hi, hgap | ⟨hempty, hnone⟩⟩ := findNextEmptyInterval_spec used s width
    · have hne : i.empty = false := by
        rw [Bool.eq_false_iff]
        intro hempty
        have := (UnsignedInterval.empty_iff i).mp hempty
        have := hgap.nonempty
        omega
      by_cases hlong : nofRbs ≤ i.length
      · refine ⟨.ofStartAndLen i.start nofRbs, ?_, .fits i (.here hgap) hlong ?_⟩
        · simp only [emptyIntervalLoop, hi, hne, if_pos hlong]
          rfl
        · intro j hj _
          rcases (meets_iff hgap).mp hj with rfl | hj
          · exact Nat.le_refl _
          · have := (meets_gap hj).1
            have := hgap.nonempty
            omega
      · have hstart := hgap.atLeast
        have hnonempty := hgap.nonempty
        have hstop := hgap.allFree.1
        have hwidth : ((UnsignedInterval.ofStartAndLen s width).displaceTo (i.stop + 1)).empty = false := by
          rw [Bool.eq_false_iff]
          intro hempty
          have hle := (UnsignedInterval.empty_iff _).mp hempty
          have := hgap.atMost
          simp only [UnsignedInterval.displaceTo, UnsignedInterval.ofStartAndLen_length, UnsignedInterval.ofStartAndLen_stop,
            UnsignedInterval.ofStartAndLen_start] at hle
          omega
        obtain ⟨r, hr, hout⟩ := ih (i.stop + 1) (if m.length < i.length then i else m) (by omega) (by omega)
        refine ⟨r, ?_, hout.cons hgap (by omega)⟩
        simp only [emptyIntervalLoop, hi, hne, if_neg hlong, hwidth]
        simpa [UnsignedInterval.displaceTo] using hr
    · refine ⟨m, ?_, .kept fun j hj => absurd hj (not_meets hnone)⟩
      simp only [emptyIntervalLoop, hi, hempty]
      rfl

end Loop

section Limits

variable {lims i : UnsignedInterval} {nofRbs s len : Nat}

def MeetsFrom (used : BoundedBitset N) (lims i : UnsignedInterval) : Prop :=
  Meets used (bitmapLimits used lims).length (bitmapLimits used lims).start i

def StaysInLimits (used : BoundedBitset N) (nofRbs : Nat) (lims : UnsignedInterval) : Prop :=
  (∃ s, FreeRun used lims s nofRbs) ∨
    ∀ i, MeetsFrom used lims i → lims.stop < i.stop → ∃ s, FreeRun used lims s i.length

lemma FreeRun.mono {len' : Nat} (h : FreeRun used lims s len) (hle : len' ≤ len) : FreeRun used lims s len' :=
  ⟨h.1, by have := h.2.1; omega, by have := h.2.2.1; omega, fun p hsp hp => h.2.2.2 p hsp (by omega)⟩

lemma mem_bitmapLimits (p : Nat) : (bitmapLimits used lims).Mem p ↔ lims.Mem p ∧ p < used.size := by
  unfold bitmapLimits
  rw [UnsignedInterval.mem_intersect]
  simp [UnsignedInterval.Mem]

lemma FreeRun.covered (h : FreeRun used lims s len) (hlen : 0 < len) :
    ∃ i, MeetsFrom used lims i ∧ i.start ≤ s ∧ s + len ≤ i.stop := by
  obtain ⟨hlo, hhi, hsize, hfree⟩ := h
  have hfirst : (bitmapLimits used lims).Mem s := (mem_bitmapLimits s).mpr ⟨⟨hlo, by omega⟩, by omega⟩
  have hlast : (bitmapLimits used lims).Mem (s + len - 1) :=
    (mem_bitmapLimits (s + len - 1)).mpr ⟨⟨by omega, by omega⟩, by omega⟩
  apply freeRun_meets (bitmapLimits used lims) (Nat.le_of_eq (UnsignedInterval.start_add_length _).symm) len hlen
  · exact ⟨hfirst.1, by have := hlast.2; omega, hsize, hfree⟩
  · exact Nat.le_refl _
  · exact hfirst.1

lemma freeRun_of_gap (h : MeetsFrom used lims i) (hstop : i.stop ≤ lims.stop) : FreeRun used lims i.start i.length := by
  obtain ⟨hstart, hne, hsize, hfree⟩ := meets_gap h
  have hwidth := meets_length_le h
  have hadd := UnsignedInterval.start_add_length i
  have hsum := UnsignedInterval.start_add_length (bitmapLimits used lims)
  have hmem := (mem_bitmapLimits (bitmapLimits used lims).start).mp ⟨Nat.le_refl _, by omega⟩
  exact ⟨Nat.le_trans hmem.1.1 hstart, by omega, by omega, fun p hsp hp => hfree p ⟨hsp, by omega⟩⟩

lemma bestGap_of_fits (hnof : 0 < nofRbs) (hrun : ∃ s, FreeRun used lims s nofRbs) (hi : MeetsFrom used lims i)
    (hlong : nofRbs ≤ i.length)
    (hfirst : ∀ j, MeetsFrom used lims j → nofRbs ≤ j.length → i.start ≤ j.start) :
    BestGap used nofRbs lims (.ofStartAndLen i.start nofRbs) := by
  have hleft : ∀ s, FreeRun used lims s nofRbs → i.start ≤ s := by
    intro s hs
    obtain ⟨j, hj, hjs, hjstop⟩ := hs.covered hnof
    have := UnsignedInterval.start_add_length j
    have := hfirst j hj (by omega)
    omega
  obtain ⟨s, hs⟩ := hrun
  have hsum := UnsignedInterval.start_add_length i
  have hbound := hleft s hs
  obtain ⟨-, hne, hsize, hfree⟩ := meets_gap hi
  have hmine : FreeRun used lims i.start nofRbs := by
    refine ⟨?_, by have := hs.2.1; omega, by omega, fun p hsp hp => hfree p ⟨hsp, by omega⟩⟩
    have hwidth := meets_length_le hi
    have hwide := UnsignedInterval.start_add_length (bitmapLimits used lims)
    have hmem := (mem_bitmapLimits (bitmapLimits used lims).start).mp ⟨Nat.le_refl _, by omega⟩
    exact Nat.le_trans hmem.1.1 (meets_gap hi).1
  obtain ⟨hlo, hhi, hbits, hbit⟩ := hmine
  constructor
  case inside =>
    intro p hp
    unfold UnsignedInterval.Mem at hp
    simp only [UnsignedInterval.ofStartAndLen_start, UnsignedInterval.ofStartAndLen_stop] at hp
    exact ⟨⟨by omega, by omega⟩, by omega⟩
  case free =>
    intro p hp
    exact hbit p hp.1 hp.2
  case short => simp
  case leftmost => exact fun _ => ⟨by simp, ⟨hlo, hhi, hbits, hbit⟩, hleft⟩
  case longest => exact fun hno => absurd ⟨s, hs⟩ hno

lemma bestGap_of_longest (hnone : ¬ ∃ s, FreeRun used lims s nofRbs) (hi : MeetsFrom used lims i)
    (hstop : i.stop ≤ lims.stop) (hshort : i.length < nofRbs)
    (hlongest : ∀ j, MeetsFrom used lims j → j.length ≤ i.length) : BestGap used nofRbs lims i := by
  obtain ⟨hlo, hhi, hbits, hbit⟩ := freeRun_of_gap hi hstop
  have hsum := UnsignedInterval.start_add_length i
  constructor
  case inside =>
    intro p hp
    exact ⟨⟨Nat.le_trans hlo hp.1, Nat.lt_of_lt_of_le hp.2 hstop⟩, by have := hp.2; omega⟩
  case free =>
    intro p hp
    exact hbit p hp.1 (by have := hp.2; omega)
  case short => exact Nat.le_of_lt hshort
  case leftmost => exact fun h => absurd h hnone
  case longest =>
    intro _ s len hrun
    rcases Nat.eq_zero_or_pos len with rfl | hlen
    · exact Nat.zero_le _
    · obtain ⟨j, hj, hjs, hjstop⟩ := hrun.covered hlen
      have := UnsignedInterval.start_add_length j
      have := hlongest j hj
      omega

lemma BestGap.freeRun (h : BestGap used nofRbs lims i) (hne : 0 < i.length) : FreeRun used lims i.start i.length := by
  have hsum := UnsignedInterval.start_add_length i
  have hfirst := h.inside i.start ⟨Nat.le_refl _, by omega⟩
  have hlast := h.inside (i.stop - 1) ⟨by omega, by omega⟩
  exact ⟨hfirst.1.1, by have := hlast.1.2; omega, by have := hlast.2; omega, fun p hsp hp => h.free p ⟨hsp, by omega⟩⟩

end Limits

lemma findEmptyIntervalOfLength_spec (used : BoundedBitset N) (nofRbs : Nat) (lims : UnsignedInterval) :
    ∃ r, findEmptyIntervalOfLength used nofRbs lims = .ok r ∧ SearchOutcome used (bitmapLimits used lims).length nofRbs
      (bitmapLimits used lims).start .default r := by
  have hwindow : UnsignedInterval.ofStartAndLen (bitmapLimits used lims).start (bitmapLimits used lims).length =
      bitmapLimits used lims := by
    have hsum := UnsignedInterval.start_add_length (bitmapLimits used lims)
    unfold UnsignedInterval.ofStartAndLen
    congr
  obtain ⟨r, hr, hout⟩ := emptyIntervalLoop_spec used (bitmapLimits used lims).length nofRbs
    (used.size + 1) (bitmapLimits used lims).start .default (by omega) (by omega)
  rw [hwindow] at hr
  exact ⟨r, hr, hout⟩

/-- What is found is free and not too long, and something is found if an RB inside the limits is free. -/
lemma findEmptyIntervalOfLength_free (used : BoundedBitset N) (nofRbs : Nat) (lims : UnsignedInterval) :
    ∃ r, findEmptyIntervalOfLength used nofRbs lims = .ok r ∧ AllFree used r ∧ r.length ≤ nofRbs ∧
      (0 < nofRbs → (∃ p, lims.Mem p ∧ p < used.size ∧ used.bit p = false) → 0 < r.length) := by
  obtain ⟨r, hr, hout⟩ := findEmptyIntervalOfLength_spec used nofRbs lims
  have hmet : 0 < nofRbs → (∃ p, lims.Mem p ∧ p < used.size ∧ used.bit p = false) →
      ∃ i, MeetsFrom used lims i ∧ 0 < i.length := by
    rintro - ⟨p, hp, hsize, hfree⟩
    have hrun : FreeRun used lims p 1 :=
      ⟨hp.1, hp.2, hsize, fun q hpq hq => by rwa [show q = p by omega]⟩
    obtain ⟨i, hi, his, histop⟩ := hrun.covered Nat.one_pos
    have := UnsignedInterval.start_add_length i
    exact ⟨i, hi, by omega⟩
  refine ⟨r, hr, ?_⟩
  cases hout with
  | fits i hi hlong hfirst =>
    obtain ⟨-, -, hsize, hfree⟩ := meets_gap hi
    have := UnsignedInterval.start_add_length i
    refine ⟨⟨by simp only [UnsignedInterval.ofStartAndLen_stop]; omega, fun p hp => hfree p ⟨hp.1, ?_⟩⟩, by simp,
      fun hnof _ => by simpa using hnof⟩
    have := hp.2
    simp only [UnsignedInterval.ofStartAndLen_stop] at this
    omega
  | kept hall =>
    refine ⟨⟨Nat.zero_le _, fun p hp => absurd hp.2 (Nat.not_lt_zero p)⟩, Nat.zero_le _, fun hnof hsome => ?_⟩
    obtain ⟨i, hi, hpos⟩ := hmet hnof hsome
    exact absurd (hall i hi).2 (Nat.not_le.mpr hpos)
  | longer _ hi hlonger hall _ =>
    refine ⟨(meets_gap hi).2.2, Nat.le_of_lt (hall _ hi).1, fun _ _ => ?_⟩
    exact Nat.lt_of_le_of_lt (Nat.zero_le _) hlonger

lemma findEmptyIntervalOfLength_reach (used : BoundedBitset N) (nofRbs : Nat) (lims : UnsignedInterval) {r : UnsignedInterval}
    (hr : findEmptyIntervalOfLength used nofRbs lims = .ok r) {size : Nat} (hpos : 0 < size) (hsize : size ≤ nofRbs) :
    size ≤ r.length ↔ ∃ gap, MeetsFrom used lims gap ∧ size ≤ gap.length := by
  obtain ⟨r', hr', hout⟩ := findEmptyIntervalOfLength_spec used nofRbs lims
  obtain rfl := Except.ok.inj (hr.symm.trans hr')
  cases hout with
  | fits i hi hlong _ =>
    rw [UnsignedInterval.ofStartAndLen_length]
    exact ⟨fun _ => ⟨i, hi, Nat.le_trans hsize hlong⟩, fun _ => hsize⟩
  | kept hall =>
    rw [UnsignedInterval.default_length] at *
    constructor
    · intro h
      omega
    · rintro ⟨gap, hgap, hle⟩
      exact Nat.le_trans hle (hall gap hgap).2
  | longer _ hi _ hall _ =>
    constructor
    · exact fun h => ⟨r, hi, h⟩
    · rintro ⟨gap, hgap, hle⟩
      exact Nat.le_trans hle (hall gap hgap).2

lemma freeRun_zero {used : BoundedBitset N} : FreeRun used (.ofStartAndLen 0 N) 0 0 :=
  ⟨Nat.le_refl _, Nat.zero_le _, Nat.zero_le _, fun p _ hp => absurd hp (Nat.not_lt_zero p)⟩

lemma findEmptyIntervalOfLength_fits {used : BoundedBitset N} {n : Nat} {r : UnsignedInterval}
    (h : findEmptyIntervalOfLength used n (.ofStartAndLen 0 N) = .ok r) :
    AllFree used r ∧ r.length ≤ n ∧ (n ≤ r.length ↔ ∃ s, FreeRun used (.ofStartAndLen 0 N) s n) := by
  obtain ⟨r', hr', hfree, hshort, -⟩ := findEmptyIntervalOfLength_free used n (.ofStartAndLen 0 N)
  obtain rfl := Except.ok.inj (h.symm.trans hr')
  refine ⟨hfree, hshort, ?_⟩
  rcases Nat.eq_zero_or_pos n with rfl | hpos
  · exact ⟨fun _ => ⟨0, freeRun_zero⟩, fun _ => Nat.zero_le _⟩
  · rw [findEmptyIntervalOfLength_reach used n (.ofStartAndLen 0 N) h hpos (Nat.le_refl n)]
    constructor
    · rintro ⟨gap, hgap, hlong⟩
      have hbound : used.size ≤ (UnsignedInterval.ofStartAndLen 0 N).stop := used.bounded.trans (by simp)
      exact ⟨gap.start, (freeRun_of_gap hgap ((meets_gap hgap).2.2.1.trans hbound)).mono hlong⟩
    · rintro ⟨s, hrun⟩
      obtain ⟨gap, hgap, hstart, hstop⟩ := hrun.covered hpos
      have := UnsignedInterval.start_add_length gap
      exact ⟨gap, hgap, by omega⟩

/-- The search ends with the gap it is for exactly when the window meets nothing better beyond the limits. -/
theorem findEmptyIntervalOfLength_best_iff (used : BoundedBitset N) (nofRbs : Nat) (lims : UnsignedInterval)
    (hnof : 0 < nofRbs) :
    ∃ i, findEmptyIntervalOfLength used nofRbs lims = .ok i ∧
      (BestGap used nofRbs lims i ↔ StaysInLimits used nofRbs lims) := by
  obtain ⟨r, hr, hout⟩ := findEmptyIntervalOfLength_spec used nofRbs lims
  refine ⟨r, hr, ?_⟩
  by_cases hrun : ∃ s, FreeRun used lims s nofRbs
  · -- the gap that holds the run is long enough, so that the loop ends there at the latest
    refine iff_of_true ?_ (Or.inl hrun)
    have hcover : ∃ j, MeetsFrom used lims j ∧ nofRbs ≤ j.length := by
      obtain ⟨s, hs⟩ := hrun
      obtain ⟨j, hj, hjs, hjstop⟩ := hs.covered hnof
      have := UnsignedInterval.start_add_length j
      exact ⟨j, hj, by omega⟩
    obtain ⟨j, hj, hjlong⟩ := hcover
    cases hout with
    | fits i hi hlong hfirst => exact bestGap_of_fits hnof hrun hi hlong hfirst
    | kept hall =>
      have := (hall j hj).1
      omega
    | longer _ _ _ hall _ =>
      have := (hall j hj).1
      omega
  · have hstays : StaysInLimits used nofRbs lims ↔
        ∀ i, MeetsFrom used lims i → lims.stop < i.stop → ∃ s, FreeRun used lims s i.length :=
      or_iff_right hrun
    rw [hstays]
    cases hout with
    | fits i hi hlong _ =>
      apply iff_of_false
      · intro hbest
        have := hbest.freeRun (by simpa using hnof)
        simp only [UnsignedInterval.ofStartAndLen_start, UnsignedInterval.ofStartAndLen_length] at this
        exact hrun ⟨i.start, this⟩
      · intro hall
        by_cases hstop : i.stop ≤ lims.stop
        · exact hrun ⟨i.start, (freeRun_of_gap hi hstop).mono hlong⟩
        · obtain ⟨s, hs⟩ := hall i hi (by omega)
          exact hrun ⟨s, hs.mono hlong⟩
    | kept hall =>
      have hnone : ∀ j, ¬ MeetsFrom used lims j := by
        intro j hj
        have := (meets_gap hj).2.1
        have := (hall j hj).2
        have := UnsignedInterval.start_add_length j
        rw [UnsignedInterval.default_length] at *
        omega
      apply iff_of_true
      · constructor
        case inside => exact fun p hp => absurd hp.2 (Nat.not_lt_zero p)
        case free => exact fun p hp => absurd hp.2 (Nat.not_lt_zero p)
        case short => exact Nat.zero_le _
        case leftmost => exact fun h => absurd h hrun
        case longest =>
          intro _ s len hs
          by_contra hlen
          obtain ⟨j, hj, -⟩ := hs.covered (by omega)
          exact hnone j hj
      · exact fun i hi => absurd hi (hnone i)
    | longer _ hi hlonger hall hfirst =>
      constructor
      · intro hbest i hi' _
        have hlen : 0 < r.length := by omega
        exact ⟨r.start, (hbest.freeRun hlen).mono (hall i hi').2⟩
      · intro hbeyond
        apply bestGap_of_longest hrun hi _ (hall r hi).1 (fun j hj => (hall j hj).2)
        by_contra hstop
        -- a run as long as `r` inside the limits is a gap of its own, and it was met before
        obtain ⟨s, hs⟩ := hbeyond r hi (by omega)
        obtain ⟨j, hj, hjs, hjstop⟩ := hs.covered (by omega)
        have hjsum := UnsignedInterval.start_add_length j
        have hrsum := UnsignedInterval.start_add_length r
        have hjlen := (hall j hj).2
        have hjfirst := hfirst j hj (by omega)
        have := hs.2.1
        omega

def fragmentedRbs : BoundedBitset 275 :=
  ⟨[false, true, true, true, false, false, true, true, true, true], by decide⟩

def lowerRbs : UnsignedInterval := ⟨0, 4, by decide⟩

theorem findEmptyIntervalOfLength_best_iff_fragmented : 0 < 1 ∧
    ∃ i, findEmptyIntervalOfLength fragmentedRbs 1 lowerRbs = .ok i ∧
      (BestGap fragmentedRbs 1 lowerRbs i ↔ StaysInLimits fragmentedRbs 1 lowerRbs) :=
  ⟨Nat.one_pos, findEmptyIntervalOfLength_best_iff fragmentedRbs 1 lowerRbs Nat.one_pos⟩

/-- The window starts at RB 0, is moved to RB 2 behind the first gap, and then reaches RB 5. -/
theorem findEmptyIntervalOfLength_leaves_limits :
    findEmptyIntervalOfLength fragmentedRbs 2 lowerRbs = .ok ⟨4, 6, by decide⟩ ∧
      ¬ ∃ i, findEmptyIntervalOfLength fragmentedRbs 2 lowerRbs = .ok i ∧ BestGap fragmentedRbs 2 lowerRbs i := by
  have hfound : findEmptyIntervalOfLength fragmentedRbs 2 lowerRbs = .ok ⟨4, 6, by decide⟩ := rfl
  refine ⟨hfound, ?_⟩
  rintro ⟨i, hi, hbest⟩
  rw [hfound] at hi
  cases hi
  have hin := hbest.inside 4 ⟨by decide, by decide⟩
  exact absurd hin.1.2 (by decide)

end OwlsRan.Sched
