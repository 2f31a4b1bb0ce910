import Mathlib.Algebra.GroupWithZero.Nat
import OwlsRan.Sched.CarrierResourceGrid
import OwlsRan.Sched.IntraSliceScheduler
import OwlsRan.Sched.RbHelper

/-!
# The distribution of the RBs of a slice among its grants

Every grant gets an equal share of the RBs, and what one grant leaves goes to the next.
-/

namespace OwlsRan.Sched
open OwlsRan.Adt OwlsRan.Lib

variable {N : Nat} {Ctx : Type}

section Preselect

variable {expectedNofRbs : Ctx → Nat} {lims : PreselectionLimits} {cs : List (SliceCandidate Ctx)}
variable {st : Preselection Ctx}

lemma preselect_cons (expectedNofRbs : Ctx → Nat) (lims : PreselectionLimits) (st : Preselection Ctx) (c : SliceCandidate Ctx) (cs : List (SliceCandidate Ctx)) :
    ∃ st' : Preselection Ctx,
      (st'.rbCount = st.rbCount ∧ st'.pending = st.pending ∨
        ∃ ctx, c.answer = .granted ctx ∧ st'.rbCount = st.rbCount + min (expectedNofRbs ctx) lims.maxRbsPerGrant ∧
          st'.pending = st.pending ++ [⟨c.ueIndex, ctx⟩]) ∧
      (preselect expectedNofRbs lims st (c :: cs) = st' ∨
        preselect expectedNofRbs lims st (c :: cs) = preselect expectedNofRbs lims st' cs ∧
          (st.rbCount < lims.rbsToAlloc → st'.rbCount < lims.rbsToAlloc)) := by
  simp only [preselect]
  by_cases hskip : (st.pucchGrantLimitExceeded && !c.hasLaterUciSlot) = true
  · rw [if_pos hskip]
    exact ⟨st, Or.inl ⟨rfl, rfl⟩, Or.inr ⟨rfl, id⟩⟩
  · rw [if_neg hskip]
    cases hanswer : c.answer with
    | granted ctx =>
      simp only
      split_ifs with hfull hmost hlast
      · exact ⟨_, Or.inr ⟨ctx, rfl, rfl, rfl⟩, Or.inl rfl⟩
      · exact ⟨_, Or.inr ⟨ctx, rfl, rfl, rfl⟩, Or.inl rfl⟩
      · exact ⟨_, Or.inr ⟨ctx, rfl, rfl, rfl⟩, Or.inl rfl⟩
      · exact ⟨_, Or.inr ⟨ctx, rfl, rfl, rfl⟩, Or.inr ⟨rfl, fun _ => by simp only; omega⟩⟩
    | skipSlot => exact ⟨st, Or.inl ⟨rfl, rfl⟩, Or.inl rfl⟩
    | uciAllocFailed =>
      simp only
      split_ifs
      · refine ⟨_, ?_, Or.inl rfl⟩
        exact Or.inl ⟨rfl, rfl⟩
      · refine ⟨_, ?_, Or.inr ⟨rfl, id⟩⟩
        exact Or.inl ⟨rfl, rfl⟩
    | failed =>
      simp only
      split_ifs
      · refine ⟨_, ?_, Or.inl rfl⟩
        exact Or.inl ⟨rfl, rfl⟩
      · refine ⟨_, ?_, Or.inr ⟨rfl, id⟩⟩
        exact Or.inl ⟨rfl, rfl⟩

lemma mem_preselect {b : GrantBuilder Ctx} (hb : b ∈ (preselect expectedNofRbs lims st cs).pending) :
    b ∈ st.pending ∨ ∃ c ∈ cs, c.ueIndex = b.ueIndex ∧ c.answer = .granted b.context := by
  induction cs generalizing st with
  | nil => exact Or.inl hb
  | cons c cs ih =>
    obtain ⟨st', hturn, hgoesOn⟩ := preselect_cons expectedNofRbs lims st c cs
    have hnew : b ∈ st'.pending → b ∈ st.pending ∨ c.ueIndex = b.ueIndex ∧ c.answer = .granted b.context := by
      intro hin
      rcases hturn with ⟨-, hsame⟩ | ⟨ctx, hanswer, -, hpush⟩
      · rw [hsame] at hin
        exact Or.inl hin
      · rw [hpush] at hin
        rcases List.mem_append.mp hin with hold | hb
        · exact Or.inl hold
        · rw [List.mem_singleton] at hb
          subst hb
          exact Or.inr ⟨rfl, hanswer⟩
    have hwiden : b ∈ st'.pending →
        b ∈ st.pending ∨ ∃ d ∈ c :: cs, d.ueIndex = b.ueIndex ∧ d.answer = .granted b.context :=
      fun hin => (hnew hin).imp_right fun hc => ⟨c, List.mem_cons_self, hc⟩
    rcases hgoesOn with hends | ⟨hrest, -⟩
    · rw [hends] at hb
      exact hwiden hb
    · rw [hrest] at hb
      rcases ih hb with hin | ⟨d, hd, hanswer⟩
      · exact hwiden hin
      · exact Or.inr ⟨d, List.mem_cons_of_mem c hd, hanswer⟩

lemma preselect_length_le (hasks : ∀ c ∈ cs, ∀ ctx, c.answer = .granted ctx → 0 < expectedNofRbs ctx)
    (hsize : 0 < lims.maxRbsPerGrant) (hst : st.pending.length ≤ st.rbCount) (hroom : st.rbCount < lims.rbsToAlloc) :
    (preselect expectedNofRbs lims st cs).pending.length ≤ lims.rbsToAlloc := by
  induction cs generalizing st with
  | nil => exact Nat.le_of_lt (Nat.lt_of_le_of_lt hst hroom)
  | cons c cs ih =>
    obtain ⟨st', hturn, hgoesOn⟩ := preselect_cons expectedNofRbs lims st c cs
    have hcount : st'.pending.length ≤ st'.rbCount ∧ st'.pending.length ≤ lims.rbsToAlloc := by
      rcases hturn with ⟨hsame, hpending⟩ | ⟨ctx, hanswer, hadd, hpush⟩
      · rw [hsame, hpending]
        omega
      · have := hasks c List.mem_cons_self ctx hanswer
        rw [hadd, hpush, List.length_append, List.length_singleton]
        omega
    rcases hgoesOn with hends | ⟨hrest, hless⟩
    · rw [hends]
      exact hcount.2
    · rw [hrest]
      exact ih (fun d hd => hasks d (List.mem_cons_of_mem c hd)) hcount.1 (hless hroom)

lemma pendingDlNewtxs_length_le {attemptsCount : Nat} {candidates : List (SliceCandidate DlSchedContext)}
    (hrbs : 0 < lims.rbsToAlloc) (hsize : 0 < lims.maxRbsPerGrant)
    (hasks : ∀ c ∈ candidates, ∀ ctx, c.answer = .granted ctx → 0 < ctx.expectedNofRbs) :
    (pendingDlNewtxs lims attemptsCount candidates).length ≤ lims.rbsToAlloc :=
  preselect_length_le hasks hsize (Nat.zero_le _) hrbs

lemma pendingUlNewtxs_length_le {attemptsCount : Nat} {candidates : List (SliceCandidate UlSchedContext)}
    (hrbs : 0 < lims.rbsToAlloc) (hsize : 0 < lims.maxRbsPerGrant)
    (hasks : ∀ c ∈ candidates, ∀ ctx, c.answer = .granted ctx → 0 < ctx.expectedNofRbs) :
    (pendingUlNewtxs lims attemptsCount candidates).length ≤ lims.rbsToAlloc :=
  preselect_length_le hasks hsize (Nat.zero_le _) hrbs

end Preselect

namespace RbDistribution

def grantedRbs (d : RbDistribution N) : Nat := (d.allocVrbs.map fun vrbs => (vrbs.map UnsignedInterval.length).getD 0).sum

/-- The RBs granted are not more than there are to give away, and the next grant may have some. -/
def InBudget (rbsToAlloc nofGrants : Nat) (d : RbDistribution N) : Prop :=
  d.grantedRbs ≤ rbsToAlloc ∧ (d.allocCount < nofGrants → 0 < d.maxGrantSize rbsToAlloc nofGrants)

def room (rbsToAlloc nofGrants : Nat) (d : RbDistribution N) : Int :=
  if d.allocCount + 1 = nofGrants then (rbsToAlloc : Int) - d.rbCount
  else if d.allocCount + 2 = nofGrants then (rbsToAlloc : Int) - d.rbCount - 1
  else d.maxGrantSize rbsToAlloc nofGrants + ((rbsToAlloc / nofGrants : Nat) : Int) - 1

def addCancelled (d : RbDistribution N) : RbDistribution N :=
  { d with allocCount := d.allocCount + 1, allocVrbs := d.allocVrbs ++ [none] }

/-- The distribution behind a grant that could have had `maxGrantSize` RBs. -/
def addGrant (d : RbDistribution N) (usedVrbs : BoundedBitset N) (maxGrantSize : Int) (vrbs : UnsignedInterval) :
    RbDistribution N where
  usedVrbs := usedVrbs
  allocCount := d.allocCount + 1
  rbCount := d.rbCount + vrbs.length
  rbsMissing := maxGrantSize - vrbs.length
  allocVrbs := d.allocVrbs ++ [some vrbs]

/-- What holds of the counters whatever the search finds: the grants so far and what is missing to their share add up to
no more than their share. -/
structure Balanced (rbsToAlloc nofGrants : Nat) (d : RbDistribution N) : Prop where
  sum : d.grantedRbs = d.rbCount
  share : d.allocCount < nofGrants →
    (d.rbCount : Int) + d.rbsMissing ≤ ((d.allocCount * (rbsToAlloc / nofGrants) : Nat) : Int)

section Step

variable {search : Ctx → BoundedBitset N → Nat → Except NewtxAbort UnsignedInterval} {onEmpty : Except NewtxAbort Unit}
variable {rbs n : Nat} {d : RbDistribution N} {b : GrantBuilder Ctx} {usedVrbs : BoundedBitset N}
variable {vrbs : UnsignedInterval}

@[simp] lemma grantedRbs_addCancelled (d : RbDistribution N) : d.addCancelled.grantedRbs = d.grantedRbs := by
  simp [grantedRbs, addCancelled]

@[simp] lemma grantedRbs_addGrant (d : RbDistribution N) (m : Int) :
    (d.addGrant usedVrbs m vrbs).grantedRbs = d.grantedRbs + vrbs.length := by
  simp [grantedRbs, addGrant]

lemma step_outcome (onEmpty : Except NewtxAbort Unit) (b : GrantBuilder Ctx)
    (hsearch : ∃ r, search b.context d.usedVrbs (d.maxGrantSize rbs n).toNat = .ok r ∧
      AllFree d.usedVrbs r) (hpos : 0 < d.maxGrantSize rbs n) :
    ∃ r, search b.context d.usedVrbs (d.maxGrantSize rbs n).toNat = .ok r ∧
      (r.length = 0 ∧ step search onEmpty rbs n d b = onEmpty.map (fun _ => d.addCancelled) ∨
        0 < r.length ∧ ∃ usedVrbs, d.usedVrbs.fill r.start r.stop true = .ok usedVrbs ∧
          step search onEmpty rbs n d b = .ok (d.addGrant usedVrbs (d.maxGrantSize rbs n) r)) := by
  obtain ⟨r, hr, hfree⟩ := hsearch
  have hadd := UnsignedInterval.start_add_length r
  refine ⟨r, hr, ?_⟩
  unfold step
  rw [if_neg (Int.not_le.mpr hpos)]
  change _ ∧ (search _ _ _ >>= _) = _ ∨ _ ∧ ∃ _, _ ∧ (search _ _ _ >>= _) = _
  rw [hr]
  change _ ∧ (if r.empty = true then _ else _) = _ ∨ _ ∧ ∃ _, _ ∧ (if r.empty = true then _ else _) = _
  by_cases hempty : r.empty = true
  · have hstop := (UnsignedInterval.empty_iff r).mp hempty
    left
    rw [if_pos hempty]
    refine ⟨by omega, ?_⟩
    cases onEmpty <;> rfl
  · have hstop : ¬ r.stop ≤ r.start := fun hle => hempty ((UnsignedInterval.empty_iff r).mpr hle)
    obtain ⟨usedVrbs, hfill, -⟩ := BoundedBitset.fill_spec r.valid hfree.1 true
    right
    rw [if_neg hempty]
    refine ⟨by omega, usedVrbs, hfill, ?_⟩
    rw [hfill]
    rfl

lemma Balanced.addCancelled (h : Balanced rbs n d) : Balanced rbs n d.addCancelled := by
  constructor
  case sum => exact (grantedRbs_addCancelled d).trans h.sum
  case share =>
    intro hlt
    have hlt : d.allocCount + 1 < n := hlt
    have hshare := h.share (by omega)
    have hnext : d.allocCount * (rbs / n) ≤ (d.allocCount + 1) * (rbs / n) := Nat.mul_le_mul_right _ (Nat.le_succ _)
    change (d.rbCount : Int) + d.rbsMissing ≤ (((d.allocCount + 1) * (rbs / n) : Nat) : Int)
    omega

lemma Balanced.addGrant (h : Balanced rbs n d) : Balanced rbs n (d.addGrant usedVrbs (d.maxGrantSize rbs n) vrbs) := by
  constructor
  case sum => rw [grantedRbs_addGrant, h.sum]; rfl
  case share =>
    intro hlt
    have hlt : d.allocCount + 1 < n := hlt
    have hshare := h.share (by omega)
    have hnext := Nat.add_one_mul d.allocCount (rbs / n)
    have hmax : d.maxGrantSize rbs n = ((rbs / n : Nat) : Int) + d.rbsMissing := if_neg (by omega)
    change ((d.rbCount + vrbs.length : Nat) : Int) + (d.maxGrantSize rbs n - vrbs.length) ≤
      (((d.allocCount + 1) * (rbs / n) : Nat) : Int)
    omega

lemma Balanced.shares_left (h : Balanced rbs n d) (hlt : d.allocCount < n) (k : Nat) (hk : d.allocCount + k ≤ n) :
    (d.rbCount : Int) + d.rbsMissing + ((k * (rbs / n) : Nat) : Int) ≤ rbs := by
  have hshare := h.share hlt
  have hall : n * (rbs / n) ≤ rbs := Nat.mul_div_le rbs n
  have hsome : (d.allocCount + k) * (rbs / n) ≤ n * (rbs / n) := Nat.mul_le_mul_right _ hk
  rw [Nat.add_mul] at hsome
  omega

lemma share_pos (hlt : d.allocCount < n) (hn : n ≤ rbs) : 0 < rbs / n := Nat.div_pos hn (by omega)

lemma maxGrantSize_le_room (h : Balanced rbs n d) (hlt : d.allocCount < n) (hn : n ≤ rbs) :
    d.maxGrantSize rbs n ≤ d.room rbs n := by
  have hpos := share_pos hlt hn
  unfold room
  split_ifs with hlast hnext
  · have hmax : d.maxGrantSize rbs n = (rbs : Int) - d.rbCount := if_pos (by omega)
    exact Int.le_of_eq hmax
  · have hleft := h.shares_left hlt 2 (by omega)
    unfold maxGrantSize
    rw [if_neg (by omega)]
    omega
  · omega

lemma inBudget_addGrant_iff (h : Balanced rbs n d) (hlt : d.allocCount < n) :
    (d.addGrant usedVrbs (d.maxGrantSize rbs n) vrbs).InBudget rbs n ↔ (vrbs.length : Int) ≤ d.room rbs n := by
  unfold InBudget
  rw [grantedRbs_addGrant, h.sum]
  change _ ∧ (d.allocCount + 1 < n → _) ↔ _
  unfold room
  split_ifs with hlast hnext
  · constructor
    · intro hin
      omega
    · exact fun hfits => ⟨by omega, fun hmore => by omega⟩
  · have hmax : (d.addGrant usedVrbs (d.maxGrantSize rbs n) vrbs).maxGrantSize rbs n =
        (rbs : Int) - ((d.rbCount + vrbs.length : Nat) : Int) := if_pos (show d.allocCount + 1 = n - 1 by omega)
    rw [hmax]
    constructor
    · intro hin
      have := hin.2 (by omega)
      omega
    · exact fun hfits => ⟨by omega, fun _ => by omega⟩
  · have hmax : (d.addGrant usedVrbs (d.maxGrantSize rbs n) vrbs).maxGrantSize rbs n =
        ((rbs / n : Nat) : Int) + (d.maxGrantSize rbs n - vrbs.length) :=
      if_neg (show ¬ d.allocCount + 1 = n - 1 by omega)
    have hthis : d.maxGrantSize rbs n = ((rbs / n : Nat) : Int) + d.rbsMissing := if_neg (by omega)
    have hleft := h.shares_left hlt 2 (by omega)
    rw [hmax]
    constructor
    · intro hin
      have := hin.2 (by omega)
      omega
    · exact fun hfits => ⟨by omega, fun _ => by omega⟩

lemma inBudget_addCancelled (h : Balanced rbs n d) (hmissing : 0 ≤ d.rbsMissing) (hlt : d.allocCount < n) (hn : n ≤ rbs)
    (hin : d.InBudget rbs n) : d.addCancelled.InBudget rbs n := by
  have hpos := share_pos hlt hn
  unfold InBudget
  rw [grantedRbs_addCancelled]
  refine ⟨hin.1, ?_⟩
  change d.allocCount + 1 < n → _
  intro hmore
  have hleft := h.shares_left hlt 2 (by omega)
  unfold maxGrantSize
  change 0 < if d.allocCount + 1 = n - 1 then (rbs : Int) - d.rbCount else ((rbs / n : Nat) : Int) + d.rbsMissing
  split_ifs <;> omega

end Step

end RbDistribution

section Searches

lemma findAvailableDlVrbs_spec (ctx : DlSchedContext) (used : BoundedBitset N) (maxRbs : Nat) :
    ∃ r, findAvailableDlVrbs ctx used maxRbs = .ok r ∧ AllFree used r ∧ r.length ≤ maxRbs := by
  obtain ⟨r, hr, hfree, hshort, -⟩ :=
    findEmptyIntervalOfLength_free used (min ctx.expectedNofRbs maxRbs) (.ofStartAndLen 0 N)
  refine ⟨r, ?_, hfree, by omega⟩
  unfold findAvailableDlVrbs
  rw [hr]
  rfl

lemma getNofPrbsLowerBound_spec {nofPrb : Nat} (hpos : 0 < nofPrb) (hle : nofPrb ≤ 276) :
    ∃ n, getNofPrbsLowerBound nofPrb = some n ∧ n ∈ validNofPrbs ∧ 0 < n ∧ n ≤ nofPrb ∧
      ∀ m ∈ validNofPrbs, m ≤ nofPrb → m ≤ n := by
  unfold getNofPrbsLowerBound
  rw [if_neg (by omega)]
  have hone : 1 ∈ validNofPrbs := by decide
  cases hfind : (List.range (nofPrb + 1)).reverse.find? fun n => decide (n ∈ validNofPrbs) with
  | none =>
    rw [List.find?_eq_none] at hfind
    exact absurd (by simpa using hone) (hfind 1 (by simp; omega))
  | some n =>
    obtain ⟨hlt, hvalid, hmost⟩ := find?_reverse_range_eq_some hfind
    have hleast := hmost 1 (by omega) (by simpa using hone)
    refine ⟨n, rfl, by simpa using hvalid, hleast, by omega, ?_⟩
    intro m hm hle
    exact hmost m (by omega) (by simpa using hm)

/-- A number of RBs beyond `limit` that a UL grant can get: it is not above the smallest grant of the UE, it is valid for
the waveform, and the search meets a gap that holds it. -/
def ForcesMoreThan (limit : Int) (ctx : UlSchedContext) (used : BoundedBitset N) : Prop :=
  ∃ size : Nat, limit < size ∧ size ≤ ctx.nofRbLims.start ∧ (ctx.useTransformPrecoder = true → size ∈ validNofPrbs) ∧
    ∃ gap, MeetsFrom used ctx.vrbLims gap ∧ size ≤ gap.length

lemma findAvailableUlVrbs_spec (ctx : UlSchedContext) (used : BoundedBitset MAX_NOF_PRBS) (maxRbs : Nat) (limit : Int)
    (hlimit : maxRbs ≤ limit) :
    ∃ r, findAvailableUlVrbs ctx used maxRbs = .ok r ∧ AllFree used r ∧
      ((r.length : Int) ≤ limit ↔ ¬ ForcesMoreThan limit ctx used) := by
  obtain ⟨r, hr, hfree, hshort, -⟩ :=
    findEmptyIntervalOfLength_free used (ctx.nofRbLims.clamp (min ctx.expectedNofRbs maxRbs)) ctx.vrbLims
  have hsum := UnsignedInterval.start_add_length r
  have hfound : findAvailableUlVrbs ctx used maxRbs =
      if r.empty then .ok .default
      else if ctx.useTransformPrecoder then
        (getNofPrbsLowerBound r.length).elim (.ok .default) fun validNofRbs => .ok (r.resize validNofRbs)
      else .ok r := by
    unfold findAvailableUlVrbs
    change ((findEmptyIntervalOfLength _ _ _).mapError _ >>= _) = _
    rw [hr]
    change (if r.empty = true then _ else _) = _
    split_ifs with hempty htransform
    · rfl
    · cases getNofPrbsLowerBound r.length <;> rfl
    · rfl
  -- the number found is the largest that the waveform admits
  have hlen : ∀ L ≤ r.length, (ctx.useTransformPrecoder = true → 0 < L → L ∈ validNofPrbs) →
      (∀ size, 0 < size → (ctx.useTransformPrecoder = true → size ∈ validNofPrbs) → size ≤ r.length → size ≤ L) →
      ((L : Int) ≤ limit ↔ ¬ ForcesMoreThan limit ctx used) := by
    intro L hL hvalid hmost
    constructor
    · rintro hfits ⟨size, hsize, hstart, hok, hgap⟩
      have hclamp : size ≤ ctx.nofRbLims.clamp (min ctx.expectedNofRbs maxRbs) :=
        Nat.le_trans hstart (Nat.le_max_right _ _)
      have hlong := (findEmptyIntervalOfLength_reach used _ ctx.vrbLims hr (by omega) hclamp).mpr hgap
      have := hmost size (by omega) hok hlong
      omega
    · intro hnot
      by_contra hmore
      apply hnot
      have hclamp : L ≤ ctx.nofRbLims.start := by
        have hle := Nat.le_trans hL hshort
        unfold UnsignedInterval.clamp at hle
        omega
      refine ⟨L, by omega, hclamp, fun ht => hvalid ht (by omega), ?_⟩
      exact (findEmptyIntervalOfLength_reach used _ ctx.vrbLims hr (by omega) (Nat.le_trans hL hshort)).mp hL
  rw [hfound]
  by_cases hempty : r.empty = true
  · have hstop := (UnsignedInterval.empty_iff r).mp hempty
    rw [if_pos hempty]
    refine ⟨.default, rfl, ⟨Nat.zero_le _, fun p hp => absurd hp.2 (Nat.not_lt_zero p)⟩, ?_⟩
    apply hlen 0 (Nat.zero_le _) (fun _ hpos => absurd hpos (Nat.lt_irrefl 0))
    intro size hpos _ hle
    omega
  · have hstop : ¬ r.stop ≤ r.start := fun hle => hempty ((UnsignedInterval.empty_iff r).mpr hle)
    rw [if_neg hempty]
    by_cases htransform : ctx.useTransformPrecoder = true
    · have hbound : r.length ≤ 276 := by
        have hsize := hfree.1
        have hbits := used.bounded
        unfold MAX_NOF_PRBS at hbits
        unfold BoundedBitset.size at hsize
        omega
      obtain ⟨n, hn, hvalid, hpos, hle, hmost⟩ := getNofPrbsLowerBound_spec (by omega) hbound
      rw [if_pos htransform, hn]
      refine ⟨r.resize n, rfl, ⟨?_, ?_⟩, ?_⟩
      · have hsize := hfree.1
        change r.start + n ≤ used.size
        omega
      · intro p hp
        have hlast : p < r.start + n := hp.2
        exact hfree.2 p ⟨hp.1, by omega⟩
      · rw [show (r.resize n).length = n from UnsignedInterval.ofStartAndLen_length _ _]
        exact hlen n hle (fun _ _ => hvalid) fun size _ hok hsize => hmost size (hok htransform) hsize
    · rw [if_neg htransform]
      exact ⟨r, rfl, hfree, hlen r.length (Nat.le_refl _) (fun ht => absurd ht htransform) fun _ _ _ hle => hle⟩

lemma findAvailableUlVrbs_free (ctx : UlSchedContext) (used : BoundedBitset MAX_NOF_PRBS) (maxRbs : Nat) :
    ∃ r, findAvailableUlVrbs ctx used maxRbs = .ok r ∧ AllFree used r := by
  obtain ⟨r, hr, hfree, -⟩ := findAvailableUlVrbs_spec ctx used maxRbs maxRbs (Int.le_refl _)
  exact ⟨r, hr, hfree⟩

end Searches

namespace RbDistribution

section Runs

variable {search : Ctx → BoundedBitset N → Nat → Except NewtxAbort UnsignedInterval} {onEmpty : Except NewtxAbort Unit}
variable {rbs n : Nat} {d d' : RbDistribution N} {b : GrantBuilder Ctx} {bs : List (GrantBuilder Ctx)}

lemma step_invalidGrantSize (b : GrantBuilder Ctx) (h : d.maxGrantSize rbs n ≤ 0) :
    step search onEmpty rbs n d b = .error .invalidGrantSize := by
  unfold step
  rw [if_pos h]
  rfl

lemma step_cases (hsearch : ∀ ctx used k, ∃ r, search ctx used k = .ok r ∧ AllFree used r)
    (h : step search onEmpty rbs n d b = .ok d') :
    onEmpty = .ok () ∧ d' = d.addCancelled ∨
      ∃ r usedVrbs, search b.context d.usedVrbs (d.maxGrantSize rbs n).toNat = .ok r ∧
        d' = d.addGrant usedVrbs (d.maxGrantSize rbs n) r := by
  by_cases hpos : 0 < d.maxGrantSize rbs n
  · obtain ⟨r, hr, ⟨-, hstep⟩ | ⟨-, usedVrbs, -, hstep⟩⟩ := step_outcome onEmpty b (hsearch _ _ _) hpos
    · rw [hstep] at h
      obtain ⟨_, hempty, rfl⟩ := map_eq_ok.mp h
      exact Or.inl ⟨hempty, rfl⟩
    · rw [hstep] at h
      exact Or.inr ⟨r, usedVrbs, hr, (Except.ok.inj h).symm⟩
  · rw [step_invalidGrantSize b (Int.not_lt.mp hpos)] at h
    cases h

lemma runsWithin_allocCount (hsearch : ∀ ctx used k, ∃ r, search ctx used k = .ok r ∧ AllFree used r)
    (hlen : d.allocCount + bs.length ≤ n) :
    RunsWithin (step search onEmpty rbs n) (fun d _ => d.allocCount < n) d bs := by
  induction bs generalizing d with
  | nil => trivial
  | cons b bs ih =>
    rw [List.length_cons] at hlen
    refine ⟨by omega, fun d' hd' => ih ?_⟩
    have hcount : d'.allocCount = d.allocCount + 1 := by
      rcases step_cases hsearch hd' with ⟨-, rfl⟩ | ⟨r, usedVrbs, -, rfl⟩ <;> rfl
    omega

lemma balanced_start (used : BoundedBitset N) : Balanced rbs n (.start used) := ⟨rfl, fun _ => by simp [start]⟩

lemma inBudget_start (used : BoundedBitset N) (hn : n ≤ rbs) : (start used).InBudget rbs n := by
  refine ⟨Nat.zero_le _, ?_⟩
  change 0 < n → 0 < if 0 = n - 1 then (rbs : Int) - (0 : Nat) else ((rbs / n : Nat) : Int) + 0
  intro hpos
  have := Nat.div_pos hn hpos
  split_ifs <;> omega

end Runs

structure Steady (rbsToAlloc nofGrants : Nat) (d : RbDistribution N) : Prop where
  balanced : Balanced rbsToAlloc nofGrants d
  inBudget : d.InBudget rbsToAlloc nofGrants
  missing : d.allocCount < nofGrants → 0 ≤ d.rbsMissing

section Steady

variable {search : Ctx → BoundedBitset N → Nat → Except NewtxAbort UnsignedInterval} {rbs n : Nat} {d : RbDistribution N}

lemma step_steady (b : GrantBuilder Ctx)
    (hsearch : ∃ r, search b.context d.usedVrbs (d.maxGrantSize rbs n).toNat = .ok r ∧ AllFree d.usedVrbs r ∧
      r.length ≤ (d.maxGrantSize rbs n).toNat) (hd : Steady rbs n d) (hlt : d.allocCount < n) (hn : n ≤ rbs) :
    ∃ r, search b.context d.usedVrbs (d.maxGrantSize rbs n).toNat = .ok r ∧
      (r.length = 0 ∧ step search onEmptyPdschVrbs rbs n d b = .ok d.addCancelled ∧ Steady rbs n d.addCancelled ∨
        0 < r.length ∧ ∃ usedVrbs, d.usedVrbs.fill r.start r.stop true = .ok usedVrbs ∧
          step search onEmptyPdschVrbs rbs n d b = .ok (d.addGrant usedVrbs (d.maxGrantSize rbs n) r) ∧
          Steady rbs n (d.addGrant usedVrbs (d.maxGrantSize rbs n) r)) := by
  obtain ⟨hbal, hin, hmissing⟩ := hd
  have hpos := hin.2 hlt
  obtain ⟨r, hr, hfree, hshort⟩ := hsearch
  obtain ⟨r', hr', hout⟩ := step_outcome onEmptyPdschVrbs b ⟨r, hr, hfree⟩ hpos
  obtain rfl := Except.ok.inj (hr.symm.trans hr')
  refine ⟨r, hr, ?_⟩
  rcases hout with ⟨hzero, hstep⟩ | ⟨hgot, usedVrbs, hfill, hstep⟩
  · have hcancelled := inBudget_addCancelled hbal (hmissing hlt) hlt hn hin
    exact Or.inl ⟨hzero, hstep, hbal.addCancelled, hcancelled, fun _ => hmissing hlt⟩
  · have hroom := maxGrantSize_le_room hbal hlt hn
    refine Or.inr ⟨hgot, usedVrbs, hfill, hstep, hbal.addGrant, (inBudget_addGrant_iff hbal hlt).mpr (by omega), fun _ => ?_⟩
    change 0 ≤ d.maxGrantSize rbs n - r.length
    omega

lemma steady_start (used : BoundedBitset N) (hn : n ≤ rbs) : Steady rbs n (.start used) :=
  ⟨balanced_start used, inBudget_start used hn, fun _ => Int.le_refl 0⟩

lemma steady_run (hsearch : ∀ ctx used k, ∃ r, search ctx used k = .ok r ∧ AllFree used r ∧ r.length ≤ k)
    (used : BoundedBitset N) (pending : List (GrantBuilder Ctx)) (hn : pending.length ≤ rbs) :
    HoldsThroughout (step search onEmptyPdschVrbs rbs pending.length) (Steady rbs pending.length) (.start used) pending ∧
      ∃ d, runEvents (step search onEmptyPdschVrbs rbs pending.length) (.start used) pending = .ok d := by
  have hfree : ∀ ctx used k, ∃ r, search ctx used k = .ok r ∧ AllFree used r :=
    fun ctx used k => (hsearch ctx used k).imp fun r hr => ⟨hr.1, hr.2.1⟩
  have hcount : RunsWithin (step search onEmptyPdschVrbs rbs pending.length) (fun d _ => d.allocCount < pending.length)
      (.start used) pending := runsWithin_allocCount hfree (by simp [start])
  have hrun := runsWithin_yields (E := fun _ => False) (Steady rbs pending.length) ?_ hcount (steady_start used hn)
  · refine ⟨hrun.1, ?_⟩
    cases hend : runEvents (step search onEmptyPdschVrbs rbs pending.length) (.start used) pending with
    | ok d => exact ⟨d, rfl⟩
    | error a => exact (hrun.2.of_error hend).elim
  · intro d b hlt hd
    obtain ⟨r, -, ⟨-, hstep, hnext⟩ | ⟨-, usedVrbs, -, hstep, hnext⟩⟩ := step_steady b (hsearch _ _ _) hd hlt hn
    · rw [hstep]
      exact hnext
    · rw [hstep]
      exact hnext

end Steady

lemma dl_inBudget (rbs : Nat) (used : BoundedBitset N) (pending : List (GrantBuilder DlSchedContext))
    (hn : pending.length ≤ rbs) :
    HoldsThroughout (dlStage2Step rbs pending.length) (InBudget rbs pending.length) (.start used) pending ∧
      ∃ d, distributeDlRbs rbs used pending = .ok d := by
  obtain ⟨hsteady, hend⟩ := steady_run findAvailableDlVrbs_spec used pending hn
  exact ⟨holdsThroughout_mono (fun d hd => hd.inBudget) hsteady, hend⟩

lemma ul_inBudget_iff (rbs : Nat) (used : BoundedBitset MAX_NOF_PRBS) (pending : List (GrantBuilder UlSchedContext))
    (hn : pending.length ≤ rbs) :
    HoldsThroughout (ulStage2Step rbs pending.length) (InBudget rbs pending.length) (.start used) pending ↔
      RunsWithin (ulStage2Step rbs pending.length)
        (fun d b => ¬ ForcesMoreThan (d.room rbs pending.length) b.context d.usedVrbs) (.start used) pending := by
  have hsearch := findAvailableUlVrbs_free
  have hfound : ∀ (d : RbDistribution MAX_NOF_PRBS) (b : GrantBuilder UlSchedContext) (r : UnsignedInterval),
      Balanced rbs pending.length d → d.allocCount < pending.length → 0 < d.maxGrantSize rbs pending.length →
      findAvailableUlVrbs b.context d.usedVrbs (d.maxGrantSize rbs pending.length).toNat = .ok r →
      ((r.length : Int) ≤ d.room rbs pending.length ↔
        ¬ ForcesMoreThan (d.room rbs pending.length) b.context d.usedVrbs) := by
    intro d b r hbal hlt hpos hr
    have hroom := maxGrantSize_le_room hbal hlt hn
    obtain ⟨r', hr', -, hforced⟩ := findAvailableUlVrbs_spec b.context d.usedVrbs
      (d.maxGrantSize rbs pending.length).toNat (d.room rbs pending.length) (by omega)
    obtain rfl := Except.ok.inj (hr.symm.trans hr')
    exact hforced
  apply holdsThroughout_iff_runsWithin_of (B := fun d _ => d.allocCount < pending.length)
    (Balanced rbs pending.length)
  · intro d b d' hbal hlt _ hstep
    rcases step_cases hsearch hstep with ⟨-, rfl⟩ | ⟨r, usedVrbs, -, rfl⟩
    · exact hbal.addCancelled
    · exact hbal.addGrant
  · intro d b d' hbal hlt hin hstep
    rcases step_cases hsearch hstep with ⟨hempty, -⟩ | ⟨r, usedVrbs, hr, rfl⟩
    · cases hempty
    · rw [inBudget_addGrant_iff hbal hlt]
      exact hfound d b r hbal hlt (hin.2 hlt) hr
  · intro d b a hbal hlt hin hstep
    obtain ⟨r, hr, ⟨hzero, -⟩ | ⟨-, usedVrbs, -, hgrant⟩⟩ :=
      step_outcome onEmptyPuschVrbs b (hsearch _ _ _) (hin.2 hlt)
    · have hroom := maxGrantSize_le_room hbal hlt hn
      have hpos := hin.2 hlt
      exact (hfound d b r hbal hlt hpos hr).mp (by omega)
    · unfold ulStage2Step at hstep
      rw [hgrant] at hstep
      cases hstep
  · exact balanced_start used
  · exact runsWithin_allocCount hsearch (by simp [start])
  · exact inBudget_start used hn

lemma ul_valid_of_inBudget {rbs : Nat} {used : BoundedBitset MAX_NOF_PRBS} {pending : List (GrantBuilder UlSchedContext)}
    (h : HoldsThroughout (ulStage2Step rbs pending.length) (InBudget rbs pending.length) (.start used) pending) :
    distributeUlRbs rbs used pending ≠ .error .invalidGrantSize := by
  intro hrun
  obtain ⟨pre, b, post, d, hsplit, hpre, hstep⟩ := runEvents_error hrun
  have hin := holdsThroughout_iff_prefix.mp h pre (b :: post) d hsplit hpre
  have hlt : d.allocCount < pending.length := by
    have hcount : RunsWithin (ulStage2Step rbs pending.length) (fun d _ => d.allocCount < pending.length)
        (.start used) pending := runsWithin_allocCount findAvailableUlVrbs_free (by simp [start])
    subst hsplit
    have := runsWithin_at hcount hpre
    exact this
  obtain ⟨r, -, ⟨-, hempty⟩ | ⟨-, usedVrbs, -, hgrant⟩⟩ :=
    step_outcome onEmptyPuschVrbs b (findAvailableUlVrbs_free _ _ _) (hin.2 hlt)
  · unfold ulStage2Step at hstep
    rw [hempty] at hstep
    cases hstep
  · unfold ulStage2Step at hstep
    rw [hgrant] at hstep
    cases hstep

end RbDistribution

/-- A DL distribution ends and keeps its budget. A UL distribution keeps its budget exactly if no grant is forced beyond
its room, and then no grant is without a size. -/
theorem distribution_in_budget (lims : PreselectionLimits) (hrbs : 0 < lims.rbsToAlloc) (hsize : 0 < lims.maxRbsPerGrant)
    (attemptsCount : Nat) :
    (∀ (candidates : List (SliceCandidate DlSchedContext)) (used : BoundedBitset MAX_NOF_PRBS),
      (∀ c ∈ candidates, ∀ ctx, c.answer = .granted ctx → 0 < ctx.expectedNofRbs) →
      let pending := pendingDlNewtxs lims attemptsCount candidates
      HoldsThroughout (dlStage2Step lims.rbsToAlloc pending.length)
          (RbDistribution.InBudget lims.rbsToAlloc pending.length) (.start used) pending ∧
        ∃ d, distributeDlRbs lims.rbsToAlloc used pending = .ok d) ∧
    ∀ (candidates : List (SliceCandidate UlSchedContext)) (used : BoundedBitset MAX_NOF_PRBS),
      (∀ c ∈ candidates, ∀ ctx, c.answer = .granted ctx → 0 < ctx.expectedNofRbs) →
      let pending := pendingUlNewtxs lims attemptsCount candidates
      (HoldsThroughout (ulStage2Step lims.rbsToAlloc pending.length)
          (RbDistribution.InBudget lims.rbsToAlloc pending.length) (.start used) pending ↔
        RunsWithin (ulStage2Step lims.rbsToAlloc pending.length)
          (fun d b => ¬ ForcesMoreThan (d.room lims.rbsToAlloc pending.length) b.context d.usedVrbs) (.start used) pending) ∧
      (HoldsThroughout (ulStage2Step lims.rbsToAlloc pending.length)
          (RbDistribution.InBudget lims.rbsToAlloc pending.length) (.start used) pending →
        distributeUlRbs lims.rbsToAlloc used pending ≠ .error .invalidGrantSize) := by
  constructor
  · intro candidates used hasks pending
    exact RbDistribution.dl_inBudget lims.rbsToAlloc used pending (pendingDlNewtxs_length_le hrbs hsize hasks)
  · intro candidates used hasks pending
    have hn : pending.length ≤ lims.rbsToAlloc := pendingUlNewtxs_length_le hrbs hsize hasks
    exact ⟨RbDistribution.ul_inBudget_iff lims.rbsToAlloc used pending hn, RbDistribution.ul_valid_of_inBudget⟩

def wideGrants (nofUes bandwidth : Nat) (h : 8 ≤ bandwidth) : List (SliceCandidate UlSchedContext) :=
  (List.range nofUes).map fun ueIndex => ⟨ueIndex, true, .granted {
    vrbLims := .ofStartAndLen 0 bandwidth
    nofRbLims := ⟨8, bandwidth, h⟩
    expectedNofRbs := 8
    useTransformPrecoder := false }⟩

def freeRbs (n : Nat) (h : n ≤ MAX_NOF_PRBS) : BoundedBitset MAX_NOF_PRBS := ⟨List.replicate n false, by simpa using h⟩

def twoDlCandidates : List (SliceCandidate DlSchedContext) :=
  [⟨0, true, .granted ⟨8, fun vrbs => 50 * vrbs.length⟩⟩, ⟨1, false, .granted ⟨20, fun vrbs => 50 * vrbs.length⟩⟩]

theorem distribution_in_budget_twelve : (0 < 12 ∧ 0 < 4) ∧
    (∃ d, distributeDlRbs 12 (freeRbs 12 (by decide)) (pendingDlNewtxs ⟨12, 4, 8, 16⟩ 0 twoDlCandidates) = .ok d) ∧
    ¬ RunsWithin (ulStage2Step 12 3) (fun d b => ¬ ForcesMoreThan (d.room 12 3) b.context d.usedVrbs)
      (.start (freeRbs 12 (by decide))) (pendingUlNewtxs ⟨12, 4, 8, 16⟩ 0 (wideGrants 12 12 (by decide))) := by
  have hmain := distribution_in_budget ⟨12, 4, 8, 16⟩ (by decide) (by decide) 0
  refine ⟨by decide, ?_, ?_⟩
  · have hasks : ∀ c ∈ twoDlCandidates, ∀ ctx, c.answer = .granted ctx → 0 < ctx.expectedNofRbs := by
      simp [twoDlCandidates]
    exact (hmain.1 twoDlCandidates (freeRbs 12 (by decide)) hasks).2
  · have hasks : ∀ c ∈ wideGrants 12 12 (by decide), ∀ ctx, c.answer = .granted ctx → 0 < ctx.expectedNofRbs := by
      intro c hc ctx hctx
      obtain ⟨ueIndex, -, rfl⟩ := List.mem_map.mp hc
      cases hctx
      decide
    obtain ⟨hiff, hvalid⟩ := hmain.2 (wideGrants 12 12 (by decide)) (freeRbs 12 (by decide)) hasks
    intro hwithin
    exact hvalid (hiff.mpr hwithin) rfl

/-- With 12 RBs for 3 grants, the first grant takes 8 instead of 4, and nothing is left to the second. With 10 RBs for 2
grants, both take 8. -/
theorem distribution_in_budget_fails :
    getMaxGrantsAndRbGrantSize 12 (some ⟨48, 12⟩) 0 12 (freeRbs 12 (by decide)) 8 = (12, 4) ∧
      distributeUlRbs 12 (freeRbs 12 (by decide)) (pendingUlNewtxs ⟨12, 4, 8, 16⟩ 0 (wideGrants 12 12 (by decide))) =
        .error .invalidGrantSize ∧
      getMaxGrantsAndRbGrantSize 8 (some ⟨48, 24⟩) 0 10 (freeRbs 24 (by decide)) 8 = (10, 5) ∧
      ∃ d, distributeUlRbs 10 (freeRbs 24 (by decide))
          (pendingUlNewtxs ⟨10, 5, 8, 16⟩ 0 (wideGrants 8 24 (by decide))) = .ok d ∧
        d.grantedRbs = 16 :=
  ⟨by decide, by rfl, by decide, _, rfl, by decide⟩

end OwlsRan.Sched
