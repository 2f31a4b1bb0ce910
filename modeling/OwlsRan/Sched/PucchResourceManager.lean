import OwlsRan.Sched.PucchResources

/-!
# Ownership of PUCCH resources in a slot

`pucch_resource_manager` records which UE uses which dedicated resource, `pucch_collision_manager` which resources are
in use. Both are changed through a guard, which takes its reservations back unless they are committed.
-/

namespace OwlsRan.Sched

@[ext] structure PucchSlotResources where
  uesUsingPucchRes : Nat → Option Nat
  currentState : Nat → Bool

namespace PucchSlotResources

def empty : PucchSlotResources := ⟨fun _ => none, fun _ => false⟩

variable (cell : PucchCellConfiguration) (m : PucchSlotResources)

def allocResource (resIdx : Nat) : Option PucchSlotResources :=
  if (List.range cell.resources.length).any fun j => cell.collisionMatrix resIdx j && m.currentState j then none
  else some { m with currentState := Function.update m.currentState resIdx true }

def freeResource (resIdx : Nat) : PucchSlotResources :=
  { m with currentState := Function.update m.currentState resIdx false }

def setOwner (cellResId : Nat) (rnti : Option Nat) : PucchSlotResources :=
  { m with uesUsingPucchRes := Function.update m.uesUsingPucchRes cellResId rnti }

/-- `alloc_ded`, and the owner of the resource. -/
def allocDed (rnti cellResId : Nat) : Option PucchSlotResources :=
  (m.allocResource cell (NOF_COMMON_RES + cellResId)).map fun m' => m'.setOwner cellResId (some rnti)

/-- `free_ded`, and the resource has no owner any more. -/
def freeDed (cellResId : Nat) : PucchSlotResources :=
  (m.setOwner cellResId none).freeResource (NOF_COMMON_RES + cellResId)

/-- `is_harq_common_resource_available`: the resource is allocated and freed again. -/
def isHarqCommonResourceAvailable (rPucch : Nat) : Bool := (m.allocResource cell rPucch).isSome

/-- `reserve_harq_common_resource`: the result of the allocation is not looked at. -/
def reserveHarqCommonResource (rPucch : Nat) : PucchSlotResources := (m.allocResource cell rPucch).getD m

end PucchSlotResources

inductive PucchResSetIdx where
  | set0
  | set1
deriving DecidableEq

/-- With Formats 0 and 2, the last two resources of a set are for the slots of the SR and of the CSI. -/
def PucchCellConfiguration.eligibleResources (cell : PucchCellConfiguration) (resSet : List PucchResource) :
    List PucchResource :=
  if cell.isPucchF0AndF2 then resSet.take (resSet.length - 2) else resSet

/-- `pucch_config` of a UE, as it is built for the cell. The resource sets, the SR and the CSI resource are given as
the resources that their ids stand for; `harqNofPrbs` is `get_pucch_format2_nof_prbs` and `get_pucch_format3_nof_prbs`
at the code rate of the UE. -/
structure UePucchConfig (cell : PucchCellConfiguration) where
  pucchResSet0 : List PucchResource
  pucchResSet1 : List PucchResource
  srRes : PucchResource
  csiRes : Option PucchResource
  formatMaxPayload : PucchFormat → Nat
  harqNofPrbs : PucchResource → Nat → Nat
  /-- The resources that are reserved in the managers are distinct resources of the cell. -/
  mem_cell : ∀ r ∈ srRes :: csiRes.toList ++ cell.eligibleResources pucchResSet0 ++ cell.eligibleResources pucchResSet1,
    cell.dedPucchResources[r.cellResId]? = some r
  nodup : (srRes :: csiRes.toList ++ cell.eligibleResources pucchResSet0 ++
    cell.eligibleResources pucchResSet1).Nodup
  sr_format : srRes.format.isFormat0Or1 = true
  set0_format : ∀ r ∈ pucchResSet0, r.format = srRes.format
  set1_format : ∀ r ∈ pucchResSet1, r.format.isFormat0Or1 = false
  csi_format : ∀ r ∈ csiRes, r.format.isFormat0Or1 = false
  csi_nofPrbs : ∀ r ∈ csiRes, 0 < r.formatParams.nofPrbs
  harqNofPrbs_le : ∀ r nofBits, harqNofPrbs r nofBits ≤ r.formatParams.nofPrbs
  harqNofPrbs_pos : ∀ r ∈ pucchResSet1, ∀ nofBits, 0 < nofBits → 0 < harqNofPrbs r nofBits

namespace UePucchConfig

variable {cell : PucchCellConfiguration} (ue : UePucchConfig cell)

def pucchResSet : PucchResSetIdx → List PucchResource
  | .set0 => ue.pucchResSet0
  | .set1 => ue.pucchResSet1

def eligibleResources (set : PucchResSetIdx) : List PucchResource := cell.eligibleResources (ue.pucchResSet set)

end UePucchConfig

inductive ResourceUsageType where
  | harqSet0
  | harqSet1
  | sr
  | csi
deriving DecidableEq

def resourceUsageTypes : List ResourceUsageType := [.harqSet0, .harqSet1, .sr, .csi]

lemma mem_resourceUsageTypes (u : ResourceUsageType) : u ∈ resourceUsageTypes := by
  cases u <;> simp [resourceUsageTypes]

def PucchResSetIdx.usage : PucchResSetIdx → ResourceUsageType
  | .set0 => .harqSet0
  | .set1 => .harqSet1

structure PucchHarqResourceAllocRecord where
  resource : PucchResource
  pucchResIndicator : Nat
deriving DecidableEq

/-- `ue_reservation_guard`: the managers, and what was reserved through the guard for each usage. -/
structure UeReservationGuard where
  mgr : PucchSlotResources
  reservations : ResourceUsageType → Option Nat

namespace UeReservationGuard

def create (m : PucchSlotResources) : UeReservationGuard := ⟨m, fun _ => none⟩

variable {cell : PucchCellConfiguration} (ue : UePucchConfig cell) (rnti : Nat) (g : UeReservationGuard)

/-- The part that all `reserve_` functions share: a resource of the UE is returned as it is, one of another UE is
not, and one of no UE is allocated and recorded. -/
def reserve (cell : PucchCellConfiguration) (rnti : Nat) (g : UeReservationGuard) (usage : ResourceUsageType)
    (r : PucchResource) : Option PucchResource × UeReservationGuard :=
  match g.mgr.uesUsingPucchRes r.cellResId with
  | some owner => (if owner = rnti then some r else none, g)
  | none =>
    match g.mgr.allocDed cell rnti r.cellResId with
    | some m => (some r, ⟨m, Function.update g.reservations usage (some r.cellResId)⟩)
    | none => (none, g)

def reserveSrResource : Option PucchResource × UeReservationGuard := g.reserve cell rnti .sr ue.srRes

/-- `reserve_csi_resource`, of a UE with a CSI resource. -/
def reserveCsiResource (cell : PucchCellConfiguration) (rnti : Nat) (g : UeReservationGuard)
    (csiRes : PucchResource) : Option PucchResource × UeReservationGuard :=
  g.reserve cell rnti .csi csiRes

def reserveHarqResourceByResIndicator (dPri : Nat) (set : PucchResSetIdx) :
    Option PucchResource × UeReservationGuard :=
  match (ue.pucchResSet set)[dPri]? with
  | none => (none, g)
  | some r =>
    -- The resources of the SR and CSI slots are not reserved in the manager.
    if cell.isPucchF0AndF2 ∧ (ue.pucchResSet set).length - 2 ≤ dPri then (some r, g)
    else g.reserve cell rnti set.usage r

/-- The indicator of the first resource of the set that the UE has already, or else of the first one that can be
allocated. -/
def nextAvailableRes (set : PucchResSetIdx) : Option Nat :=
  ((ue.eligibleResources set).findIdx? fun r => g.mgr.uesUsingPucchRes r.cellResId == some rnti).or
    ((ue.eligibleResources set).findIdx? fun r =>
      g.mgr.uesUsingPucchRes r.cellResId == none && (g.mgr.allocDed cell rnti r.cellResId).isSome)

def reserveNextHarqResAvailable (set : PucchResSetIdx) :
    Option PucchHarqResourceAllocRecord × UeReservationGuard :=
  match g.nextAvailableRes ue rnti set with
  | none => (none, g)
  | some rPucch =>
    match (ue.eligibleResources set)[rPucch]? with
    | none => (none, g)
    | some r =>
      ((g.reserve cell rnti set.usage r).1.map fun r => ⟨r, rPucch⟩, (g.reserve cell rnti set.usage r).2)

/-- The part that all `release_` functions share. -/
def release (usage : ResourceUsageType) (r : PucchResource) : UeReservationGuard :=
  if g.mgr.uesUsingPucchRes r.cellResId = some rnti then
    ⟨g.mgr.freeDed r.cellResId, Function.update g.reservations usage none⟩
  else g

def releaseSrResource : UeReservationGuard := g.release rnti .sr ue.srRes

def releaseCsiResource (csiRes : PucchResource) : UeReservationGuard := g.release rnti .csi csiRes

/-- `release_harq_resource`: the first resource of the set that the UE has. -/
def releaseHarqResource (set : PucchResSetIdx) : UeReservationGuard :=
  match (ue.eligibleResources set).find? fun r => g.mgr.uesUsingPucchRes r.cellResId == some rnti with
  | some r => g.release rnti set.usage r
  | none => g

/-- `commit`: when resources of both sets were reserved, only the one of set 1 is kept. -/
def commit : PucchSlotResources :=
  match g.reservations .harqSet0, g.reservations .harqSet1 with
  | some cellResId, some _ => g.mgr.freeDed cellResId
  | _, _ => g.mgr

def rollback : PucchSlotResources :=
  resourceUsageTypes.foldl (fun m u => (g.reservations u).elim m m.freeDed) g.mgr

end UeReservationGuard

section Allocation

variable {cell : PucchCellConfiguration} {m m' : PucchSlotResources}

lemma PucchSlotResources.allocResource_eq_some {resIdx : Nat} (h : m.allocResource cell resIdx = some m') :
    m' = { m with currentState := Function.update m.currentState resIdx true } ∧
      ∀ j < cell.resources.length, m.currentState j = true → cell.collisionMatrix resIdx j = false := by
  unfold allocResource at h
  split at h
  case isTrue => cases h
  case isFalse hany =>
    refine ⟨(Option.some.inj h).symm, fun j hj hused => ?_⟩
    by_contra hcol
    apply hany
    rw [List.any_eq_true]
    exact ⟨j, List.mem_range.mpr hj, by simp [hused, Bool.not_eq_false _ ▸ hcol]⟩

lemma PucchSlotResources.currentState_of_allocResource {resIdx : Nat} (h : m.allocResource cell resIdx = some m')
    (hlt : resIdx < cell.resources.length) : m.currentState resIdx = false := by
  by_contra hused
  have hcol := (allocResource_eq_some h).2 resIdx hlt (by simpa using hused)
  rw [cell.collisionMatrix_self] at hcol
  cases hcol

lemma PucchSlotResources.allocDed_eq_some {rnti cellResId : Nat} (h : m.allocDed cell rnti cellResId = some m') :
    m' = ⟨Function.update m.uesUsingPucchRes cellResId (some rnti),
        Function.update m.currentState (NOF_COMMON_RES + cellResId) true⟩ ∧
      ∀ j < cell.resources.length, m.currentState j = true →
        cell.collisionMatrix (NOF_COMMON_RES + cellResId) j = false := by
  obtain ⟨n, hn, rfl⟩ := Option.map_eq_some_iff.mp h
  obtain ⟨rfl, hfree⟩ := allocResource_eq_some hn
  exact ⟨rfl, hfree⟩

lemma PucchSlotResources.currentState_of_allocDed {rnti cellResId : Nat} (h : m.allocDed cell rnti cellResId = some m')
    (hlt : cellResId < cell.dedPucchResources.length) : m.currentState (NOF_COMMON_RES + cellResId) = false := by
  obtain ⟨n, hn, -⟩ := Option.map_eq_some_iff.mp h
  apply currentState_of_allocResource hn
  rw [cell.length_resources]
  omega

lemma PucchSlotResources.foldl_freeDed (ids : List Nat) (m : PucchSlotResources) :
    (∀ c, (ids.foldl freeDed m).uesUsingPucchRes c = if c ∈ ids then none else m.uesUsingPucchRes c) ∧
      ∀ i, (ids.foldl freeDed m).currentState i =
        if ∃ c ∈ ids, i = NOF_COMMON_RES + c then false else m.currentState i := by
  induction ids generalizing m with
  | nil => simp
  | cons id ids ih =>
    obtain ⟨howner, hstate⟩ := ih (m.freeDed id)
    refine ⟨fun c => ?_, fun i => ?_⟩
    · rw [List.foldl_cons, howner]
      by_cases hc : c = id
      · simp [hc, freeDed, freeResource, setOwner]
      · simp [hc, freeDed, freeResource, setOwner]
    · rw [List.foldl_cons, hstate]
      by_cases hi : i = NOF_COMMON_RES + id
      · simp [hi, freeDed, freeResource, setOwner]
      · simp [hi, freeDed, freeResource, setOwner]

end Allocation

namespace UeReservationGuard

variable {cell : PucchCellConfiguration} {ue : UePucchConfig cell} {rnti : Nat} {m : PucchSlotResources}
  {g : UeReservationGuard}

def Reserved (g : UeReservationGuard) (cellResId : Nat) : Prop := ∃ usage, g.reservations usage = some cellResId

instance (g : UeReservationGuard) (cellResId : Nat) : Decidable (g.Reserved cellResId) :=
  decidable_of_iff (∃ usage ∈ resourceUsageTypes, g.reservations usage = some cellResId)
    ⟨fun ⟨usage, _, h⟩ => ⟨usage, h⟩, fun ⟨usage, h⟩ => ⟨usage, mem_resourceUsageTypes usage, h⟩⟩

/-- The managers are as they were in `m`, but for the reservations, which were free. -/
structure Tracks (rnti : Nat) (m : PucchSlotResources) (g : UeReservationGuard) : Prop where
  owner : ∀ c, g.mgr.uesUsingPucchRes c = if g.Reserved c then some rnti else m.uesUsingPucchRes c
  state : ∀ i, g.mgr.currentState i = true ↔ m.currentState i = true ∨ ∃ c, g.Reserved c ∧ i = NOF_COMMON_RES + c
  fresh : ∀ c, g.Reserved c → m.uesUsingPucchRes c = none ∧ m.currentState (NOF_COMMON_RES + c) = false

lemma tracks_create (rnti : Nat) (m : PucchSlotResources) : Tracks rnti m (create m) := by
  have hnone (c : Nat) : ¬(create m).Reserved c := by simp [Reserved, create]
  refine ⟨fun c => ?_, fun i => ?_, fun c hc => absurd hc (hnone c)⟩
  · rw [if_neg (hnone c)]
    rfl
  · simp only [hnone, false_and, exists_false, or_false]
    rfl

lemma reserve_cases (cell : PucchCellConfiguration) (rnti : Nat) (g : UeReservationGuard) (usage : ResourceUsageType)
    (r : PucchResource) :
    g.reserve cell rnti usage r = (none, g) ∨
      (g.mgr.uesUsingPucchRes r.cellResId = some rnti ∧ g.reserve cell rnti usage r = (some r, g)) ∨
      (g.mgr.uesUsingPucchRes r.cellResId = none ∧ ∃ m', g.mgr.allocDed cell rnti r.cellResId = some m' ∧
        g.reserve cell rnti usage r =
          (some r, ⟨m', Function.update g.reservations usage (some r.cellResId)⟩)) := by
  unfold reserve
  cases howner : g.mgr.uesUsingPucchRes r.cellResId with
  | some owner =>
    by_cases h : owner = rnti
    · exact .inr (.inl ⟨congrArg some h, by simp [h]⟩)
    · exact .inl (by simp [h])
  | none =>
    cases halloc : g.mgr.allocDed cell rnti r.cellResId with
    | none => exact .inl rfl
    | some m' => exact .inr (.inr ⟨rfl, m', rfl, rfl⟩)

lemma reserve_fst {usage : ResourceUsageType} {r r' : PucchResource}
    (h : (g.reserve cell rnti usage r).1 = some r') : r' = r := by
  rcases reserve_cases cell rnti g usage r with hn | ⟨-, hs⟩ | ⟨-, m', -, hs⟩
  · rw [hn] at h
    cases h
  · rw [hs] at h
    exact (Option.some.inj h).symm
  · rw [hs] at h
    exact (Option.some.inj h).symm

lemma Tracks.reserve (h : Tracks rnti m g) {usage : ResourceUsageType} {r : PucchResource}
    (hr : r.cellResId < cell.dedPucchResources.length) (hu : g.reservations usage = none) :
    Tracks rnti m (g.reserve cell rnti usage r).2 := by
  rcases reserve_cases cell rnti g usage r with hn | ⟨-, hs⟩ | ⟨hnone, m', hm, hs⟩
  · rw [hn]
    exact h
  · rw [hs]
    exact h
  have hbit := PucchSlotResources.currentState_of_allocDed hm hr
  obtain ⟨rfl, -⟩ := PucchSlotResources.allocDed_eq_some hm
  rw [hs]
  have hres (c : Nat) : Reserved ⟨⟨Function.update g.mgr.uesUsingPucchRes r.cellResId (some rnti),
      Function.update g.mgr.currentState (NOF_COMMON_RES + r.cellResId) true⟩,
      Function.update g.reservations usage (some r.cellResId)⟩ c ↔ c = r.cellResId ∨ g.Reserved c := by
    constructor
    · rintro ⟨u, hc⟩
      by_cases hne : u = usage
      · subst hne
        exact .inl (by simpa using hc.symm)
      · exact .inr ⟨u, by simpa [hne] using hc⟩
    · rintro (rfl | ⟨u, hc⟩)
      · exact ⟨usage, by simp⟩
      · have hne : u ≠ usage := by
          rintro rfl
          rw [hu] at hc
          cases hc
        exact ⟨u, by simpa [hne] using hc⟩
  have hfree : ¬g.Reserved r.cellResId := by
    intro hc
    have howner := h.owner r.cellResId
    rw [if_pos hc, hnone] at howner
    cases howner
  refine ⟨fun c => ?_, fun i => ?_, fun c hc => ?_⟩
  · by_cases hc : c = r.cellResId
    · simp [hres, hc]
    · simp [hres, hc, h.owner c]
  · by_cases hi : i = NOF_COMMON_RES + r.cellResId
    · subst hi
      simp [hres]
    · simp [hres, hi, h.state i]
  · rcases (hres c).mp hc with rfl | hc
    · have howner := h.owner r.cellResId
      rw [if_neg hfree, hnone] at howner
      refine ⟨howner.symm, ?_⟩
      by_contra hset
      rw [(h.state _).mpr (.inl (by simpa using hset))] at hbit
      cases hbit
    · exact h.fresh c hc

lemma rollback_eq_foldl (g : UeReservationGuard) :
    g.rollback = (resourceUsageTypes.filterMap g.reservations).foldl PucchSlotResources.freeDed g.mgr := by
  simp only [UeReservationGuard.rollback, resourceUsageTypes, List.foldl_cons, List.foldl_nil, List.filterMap_cons,
    List.filterMap_nil]
  cases g.reservations .harqSet0 <;> cases g.reservations .harqSet1 <;> cases g.reservations .sr <;>
    cases g.reservations .csi <;> rfl

lemma mem_reservations {c : Nat} : c ∈ resourceUsageTypes.filterMap g.reservations ↔ g.Reserved c := by
  simp [List.mem_filterMap, mem_resourceUsageTypes, Reserved]

/-- A guard that is not committed leaves the managers as it found them. -/
theorem Tracks.rollback (h : Tracks rnti m g) : g.rollback = m := by
  obtain ⟨howner, hstate⟩ := PucchSlotResources.foldl_freeDed (resourceUsageTypes.filterMap g.reservations) g.mgr
  ext c
  · rw [rollback_eq_foldl, howner, h.owner]
    by_cases hc : g.Reserved c
    · rw [if_pos (mem_reservations.mpr hc), (h.fresh c hc).1]
    · rw [if_neg (mt mem_reservations.mp hc), if_neg hc]
  · rw [rollback_eq_foldl, hstate]
    by_cases hc : ∃ c', g.Reserved c' ∧ c = NOF_COMMON_RES + c'
    · obtain ⟨c', hc', rfl⟩ := hc
      have hex : ∃ c'' ∈ resourceUsageTypes.filterMap g.reservations, NOF_COMMON_RES + c' = NOF_COMMON_RES + c'' :=
        ⟨c', mem_reservations.mpr hc', rfl⟩
      rw [if_pos hex, (h.fresh c' hc').2]
    · have hno : ¬∃ c' ∈ resourceUsageTypes.filterMap g.reservations, c = NOF_COMMON_RES + c' := by
        rintro ⟨c', hc', rfl⟩
        exact hc ⟨c', mem_reservations.mp hc', rfl⟩
      rw [if_neg hno]
      apply Bool.eq_iff_iff.mpr
      rw [h.state c]
      simp [hc]

section Operations

variable {set : PucchResSetIdx} {dPri : Nat} {r : PucchResource}

lemma getElem?_of_reserveHarqResourceByResIndicator
    (h : (g.reserveHarqResourceByResIndicator ue rnti dPri set).1 = some r) :
    (ue.pucchResSet set)[dPri]? = some r := by
  unfold UeReservationGuard.reserveHarqResourceByResIndicator at h
  cases hr : (ue.pucchResSet set)[dPri]? with
  | none =>
    rw [hr] at h
    cases h
  | some r' =>
    simp only [hr] at h
    split at h
    · exact h
    · rw [reserve_fst h]

lemma reserveNextHarqResAvailable_cases (ue : UePucchConfig cell) (rnti : Nat) (g : UeReservationGuard)
    (set : PucchResSetIdx) :
    g.reserveNextHarqResAvailable ue rnti set = (none, g) ∨
      ∃ rPucch r, (ue.eligibleResources set)[rPucch]? = some r ∧
        g.reserveNextHarqResAvailable ue rnti set =
          ((g.reserve cell rnti set.usage r).1.map fun r => ⟨r, rPucch⟩, (g.reserve cell rnti set.usage r).2) := by
  unfold reserveNextHarqResAvailable
  split
  case h_1 => exact .inl rfl
  case h_2 rPucch _ =>
    split
    case h_1 => exact .inl rfl
    case h_2 r hr => exact .inr ⟨rPucch, r, hr, rfl⟩

end Operations

end UeReservationGuard

end OwlsRan.Sched
