import OwlsRan.Lib.EventRun
import OwlsRan.Lib.Outcome
import OwlsRan.Sched.PucchResourceManager

/-!
# Calls through a reservation guard

A guard keeps one reservation for each usage. Its functions are called in any order and any number of times, for a UE
whose resources may be the same for several usages. Failed assertions abort.
-/

namespace OwlsRan.Sched
open OwlsRan.Lib

structure PucchResId where
  cellResId : Nat
  ueResId : Nat
deriving DecidableEq

/-- What a guard reads of the configuration of a UE. A resource of the list comes with its `ue_res_id`. -/
structure PucchUeResources where
  pucchResList : List (Nat × PucchResource)
  pucchResSet0 : List PucchResId
  pucchResSet1 : List PucchResId
  srCellResId : Nat
  /-- `get_csi_cell_res_id` -/
  csiCellResId : Option Nat

inductive PucchGuardAbort where
  /-- The id of a resource exceeds the size of the cell resource array. -/
  | cellResId
  | resource
  | csiResource
  | eligibleResources
  | outOfBounds
deriving DecidableEq

namespace PucchUeResources

variable (cell : PucchCellConfiguration) (ue : PucchUeResources) (rnti : Nat) (g : UeReservationGuard)

def pucchResSet : PucchResSetIdx → List PucchResId
  | .set0 => ue.pucchResSet0
  | .set1 => ue.pucchResSet1

/-- The first resource of the list with a `cell_res_id`. -/
def findResource (cellResId : Nat) : Option PucchResource :=
  (ue.pucchResList.find? fun r => r.2.cellResId == cellResId).map Prod.snd

def reserveDed (usage : ResourceUsageType) (cellResId : Nat) :
    Except PucchGuardAbort (Option PucchResource × UeReservationGuard) :=
  if cell.dedPucchResources.length ≤ cellResId then .error .cellResId
  else if g.mgr.uesUsingPucchRes cellResId ≠ none ∧ g.mgr.uesUsingPucchRes cellResId ≠ some rnti then .ok (none, g)
  else
    match ue.findResource cellResId with
    | none => .error .resource
    | some r => .ok (g.reserve cell rnti usage r)

def reserveSrResource : Except PucchGuardAbort (Option PucchResource × UeReservationGuard) :=
  ue.reserveDed cell rnti g .sr ue.srCellResId

def reserveCsiResource : Except PucchGuardAbort (Option PucchResource × UeReservationGuard) :=
  match ue.csiCellResId with
  | none => .error .csiResource
  | some cellResId => ue.reserveDed cell rnti g .csi cellResId

/-- `size() - 2U` is a large number for less than two resources. -/
def slotResource (set : PucchResSetIdx) (dPri : Nat) : Prop :=
  cell.isPucchF0AndF2 = true ∧ 2 ≤ (ue.pucchResSet set).length ∧ (ue.pucchResSet set).length - 2 ≤ dPri

instance (set : PucchResSetIdx) (dPri : Nat) : Decidable (ue.slotResource cell set dPri) :=
  inferInstanceAs (Decidable (_ ∧ _))

def reserveHarqResourceByResIndicator (dPri : Nat) (set : PucchResSetIdx) :
    Except PucchGuardAbort (Option PucchResource × UeReservationGuard) :=
  match (ue.pucchResSet set)[dPri]? with
  | none => .ok (none, g)
  | some pucchResId =>
    -- The resources of the SR and CSI slots are not reserved in the manager.
    if ue.slotResource cell set dPri then
      .ok ((ue.pucchResList.find? fun r => r.1 == pucchResId.ueResId).map Prod.snd, g)
    else ue.reserveDed cell rnti g set.usage pucchResId.cellResId

def eligibleResources (set : PucchResSetIdx) : List PucchResId :=
  if cell.isPucchF0AndF2 ∧ 2 ≤ (ue.pucchResSet set).length then
    (ue.pucchResSet set).take ((ue.pucchResSet set).length - 2)
  else ue.pucchResSet set

/-- What follows the last resource: the number of eligible resources may exceed the size of the set. -/
def endOfResources (set : PucchResSetIdx) : Except PucchGuardAbort Unit :=
  if cell.isPucchF0AndF2 ∧ (ue.pucchResSet set).length < 2 then .error .outOfBounds else .ok ()

/-- The first resource, from `rPucch` on, that belongs to the UE. -/
def findAllocated (atEnd : Except PucchGuardAbort Unit) : Nat → List PucchResId → Except PucchGuardAbort (Option Nat)
  | _, [] => atEnd.map fun _ => none
  | rPucch, id :: ids =>
    if cell.dedPucchResources.length ≤ id.cellResId then .error .cellResId
    else if g.mgr.uesUsingPucchRes id.cellResId = some rnti then .ok (some rPucch)
    else findAllocated atEnd (rPucch + 1) ids

/-- The first resource, from `rPucch` on, that can be allocated. -/
def allocFirst (usage : ResourceUsageType) (atEnd : Except PucchGuardAbort Unit) :
    Nat → List PucchResId → Except PucchGuardAbort (Option Nat × UeReservationGuard)
  | _, [] => atEnd.map fun _ => (none, g)
  | rPucch, id :: ids =>
    if cell.dedPucchResources.length ≤ id.cellResId then .error .cellResId
    else if g.mgr.uesUsingPucchRes id.cellResId = none then
      match g.mgr.allocDed cell rnti id.cellResId with
      | some m => .ok (some rPucch, ⟨m, Function.update g.reservations usage (some id.cellResId)⟩)
      | none => allocFirst usage atEnd (rPucch + 1) ids
    else allocFirst usage atEnd (rPucch + 1) ids

def allocRecord (set : PucchResSetIdx) : Option Nat → Except PucchGuardAbort (Option PucchHarqResourceAllocRecord)
  | none => .ok none
  | some rPucch =>
    match (ue.pucchResSet set)[rPucch]?.bind fun id => ue.findResource id.cellResId with
    | none => .error .resource
    | some r => .ok (some ⟨r, rPucch⟩)

def availableRes (set : PucchResSetIdx) : Except PucchGuardAbort (Option Nat × UeReservationGuard) := do
  let atEnd := ue.endOfResources cell set
  match ← findAllocated cell rnti g atEnd 0 (ue.eligibleResources cell set) with
  | some rPucch => .ok (some rPucch, g)
  | none => allocFirst cell rnti g set.usage atEnd 0 (ue.eligibleResources cell set)

def reserveNextHarqResAvailable (set : PucchResSetIdx) :
    Except PucchGuardAbort (Option PucchHarqResourceAllocRecord × UeReservationGuard) :=
  if ue.eligibleResources cell set = [] ∧ ue.endOfResources cell set = .ok () then .error .eligibleResources
  else do
    let (availableRes, g) ← ue.availableRes cell rnti g set
    let record ← ue.allocRecord set availableRes
    .ok (record, g)

def Serves : ResourceUsageType → Nat → Prop
  | .sr, cellResId => cellResId = ue.srCellResId
  | .csi, cellResId => ue.csiCellResId = some cellResId
  | .harqSet0, cellResId => ∃ id ∈ ue.eligibleResources cell .set0, id.cellResId = cellResId
  | .harqSet1, cellResId => ∃ id ∈ ue.eligibleResources cell .set1, id.cellResId = cellResId

end PucchUeResources

inductive ReserveCall where
  | nextAvailable (set : PucchResSetIdx)
  | byResIndicator (dPri : Nat) (set : PucchResSetIdx)
  | sr
  | csi
deriving DecidableEq

namespace ReserveCall

def usage : ReserveCall → ResourceUsageType
  | .nextAvailable set => set.usage
  | .byResIndicator _ set => set.usage
  | .sr => .sr
  | .csi => .csi

end ReserveCall

namespace UeReservationGuard

def step (cell : PucchCellConfiguration) (rnti : Nat) (ue : PucchUeResources) (g : UeReservationGuard) :
    ReserveCall → Except PucchGuardAbort UeReservationGuard
  | .nextAvailable set => (ue.reserveNextHarqResAvailable cell rnti g set).map Prod.snd
  | .byResIndicator dPri set => (ue.reserveHarqResourceByResIndicator cell rnti g dPri set).map Prod.snd
  | .sr => (ue.reserveSrResource cell rnti g).map Prod.snd
  | .csi => (ue.reserveCsiResource cell rnti g).map Prod.snd

section Calls

variable {cell : PucchCellConfiguration} {rnti : Nat} {ue : PucchUeResources} {g g' : UeReservationGuard}
  {m : PucchSlotResources}

structure Takes (cell : PucchCellConfiguration) (rnti : Nat) (g : UeReservationGuard) (usage : ResourceUsageType)
    (cellResId : Nat) (g' : UeReservationGuard) : Prop where
  inside : cellResId < cell.dedPucchResources.length
  unowned : g.mgr.uesUsingPucchRes cellResId = none
  taken : ∃ m', g.mgr.allocDed cell rnti cellResId = some m' ∧
    g' = ⟨m', Function.update g.reservations usage (some cellResId)⟩

/-- The call finds a free resource by its indicator, while one of the same set has been reserved before. -/
def Overwrites (cell : PucchCellConfiguration) (rnti : Nat) (ue : PucchUeResources) (g : UeReservationGuard) :
    ReserveCall → Prop
  | .byResIndicator dPri set => g.reservations set.usage ≠ none ∧ ¬ ue.slotResource cell set dPri ∧
      ∃ id, (ue.pucchResSet set)[dPri]? = some id ∧ g.mgr.uesUsingPucchRes id.cellResId = none ∧
        (g.mgr.allocDed cell rnti id.cellResId).isSome = true
  | _ => False

lemma reserveDed_spec (usage : ResourceUsageType) (cellResId : Nat) :
    Yields (ue.reserveDed cell rnti g usage cellResId)
      (fun res => res.2 = g ∨ Takes cell rnti g usage cellResId res.2) fun _ => True := by
  unfold PucchUeResources.reserveDed
  apply yields_ite
  · exact fun _ => trivial
  intro hinside
  apply yields_ite
  · exact fun _ => .inl rfl
  intro _
  cases hfound : ue.findResource cellResId with
  | none => trivial
  | some r =>
    have hid : r.cellResId = cellResId := by
      obtain ⟨x, hx, rfl⟩ := Option.map_eq_some_iff.mp hfound
      have heq := List.find?_some hx
      exact beq_iff_eq.mp heq
    rcases reserve_cases cell rnti g usage r with hkept | ⟨-, hkept⟩ | ⟨hnone, m', hm', htaken⟩
    · exact .inl (congrArg Prod.snd hkept)
    · exact .inl (congrArg Prod.snd hkept)
    · rw [hid] at hnone hm' htaken
      exact .inr ⟨Nat.not_le.mp hinside, hnone, m', hm', congrArg Prod.snd htaken⟩

lemma reserveDed_takes {usage : ResourceUsageType} {cellResId : Nat} {res : Option PucchResource × UeReservationGuard}
    (hnone : g.mgr.uesUsingPucchRes cellResId = none) (halloc : (g.mgr.allocDed cell rnti cellResId).isSome = true)
    (hres : ue.reserveDed cell rnti g usage cellResId = .ok res) : Takes cell rnti g usage cellResId res.2 := by
  rcases (reserveDed_spec usage cellResId).of_ok hres with hkept | htakes
  swap
  · exact htakes
  obtain ⟨m', hm'⟩ := Option.isSome_iff_exists.mp halloc
  unfold PucchUeResources.reserveDed at hres
  split at hres
  case isTrue => cases hres
  rw [if_neg fun h => h.1 hnone] at hres
  cases hfound : ue.findResource cellResId with
  | none =>
    rw [hfound] at hres
    cases hres
  | some r =>
    have hid : r.cellResId = cellResId := by
      obtain ⟨x, hx, rfl⟩ := Option.map_eq_some_iff.mp hfound
      have heq := List.find?_some hx
      exact beq_iff_eq.mp heq
    rw [hfound] at hres
    obtain rfl := Except.ok.inj hres
    unfold reserve at hkept
    rw [hid, hnone] at hkept
    dsimp only at hkept
    rw [hm'] at hkept
    have hmgr := congrArg (fun g => g.mgr.uesUsingPucchRes cellResId) hkept
    dsimp only at hmgr
    rw [(PucchSlotResources.allocDed_eq_some hm').1, hnone] at hmgr
    simp at hmgr

lemma findAllocated_spec {atEnd : Except PucchGuardAbort Unit} {ids : List PucchResId} (rPucch : Nat) :
    Yields (PucchUeResources.findAllocated cell rnti g atEnd rPucch ids)
      (fun res => res = none → ∀ id ∈ ids, g.mgr.uesUsingPucchRes id.cellResId ≠ some rnti) fun _ => True := by
  induction ids generalizing rPucch with
  | nil =>
    unfold PucchUeResources.findAllocated
    cases atEnd with
    | error _ => trivial
    | ok _ => exact fun _ _ hid => nomatch hid
  | cons id ids ih =>
    unfold PucchUeResources.findAllocated
    apply yields_ite
    · exact fun _ => trivial
    intro _
    apply yields_ite
    · exact fun _ h => nomatch h
    intro hother
    refine (ih _).post fun res hres hnone x hx => ?_
    obtain rfl | hx := List.mem_cons.mp hx
    · exact hother
    · exact hres hnone x hx

lemma allocFirst_spec (usage : ResourceUsageType) {atEnd : Except PucchGuardAbort Unit} {ids : List PucchResId}
    (rPucch : Nat) : Yields (PucchUeResources.allocFirst cell rnti g usage atEnd rPucch ids)
      (fun res => res.2 = g ∨ ∃ id ∈ ids, Takes cell rnti g usage id.cellResId res.2) fun _ => True := by
  induction ids generalizing rPucch with
  | nil =>
    unfold PucchUeResources.allocFirst
    cases atEnd with
    | error _ => trivial
    | ok _ => exact .inl rfl
  | cons id ids ih =>
    have hrest := (ih (rPucch + 1)).post fun res hres => hres.imp_right fun ⟨x, hx, htakes⟩ =>
      (⟨x, List.mem_cons_of_mem id hx, htakes⟩ : ∃ id' ∈ id :: ids, Takes cell rnti g usage id'.cellResId res.2)
    unfold PucchUeResources.allocFirst
    apply yields_ite
    · exact fun _ => trivial
    intro hinside
    apply yields_ite
    · intro hnone
      cases hm : g.mgr.allocDed cell rnti id.cellResId with
      | none => exact hrest
      | some m => exact .inr ⟨id, List.mem_cons_self, Nat.not_le.mp hinside, hnone, m, hm, rfl⟩
    · exact fun _ => hrest

lemma mem_eligibleResources {set : PucchResSetIdx} {dPri : Nat} {id : PucchResId}
    (hid : (ue.pucchResSet set)[dPri]? = some id) (hslot : ¬ ue.slotResource cell set dPri) :
    id ∈ ue.eligibleResources cell set := by
  unfold PucchUeResources.eligibleResources
  split
  case isFalse => exact List.mem_of_getElem? hid
  case isTrue hf =>
    have hlt : dPri < (ue.pucchResSet set).length - 2 := by
      by_contra hle
      exact hslot ⟨hf.1, hf.2, Nat.not_lt.mp hle⟩
    apply List.mem_of_getElem? (i := dPri)
    rw [List.getElem?_take_of_lt hlt, hid]

lemma serves_of_eligible {set : PucchResSetIdx} {id : PucchResId} (h : id ∈ ue.eligibleResources cell set) :
    ue.Serves cell set.usage id.cellResId := by
  cases set <;> exact ⟨id, h, rfl⟩

/-- What a call does: it leaves the guard as it is, or it takes one resource. Only a call by indicator takes one while
the UE has another that the call could have returned. -/
lemma step_spec (call : ReserveCall) : Yields (step cell rnti ue g call) (fun g' => g' = g ∨ ∃ c,
    Takes cell rnti g call.usage c g' ∧ ue.Serves cell call.usage c ∧ (Overwrites cell rnti ue g call ∨
      g.reservations call.usage = none ∨
        ∀ c, ue.Serves cell call.usage c → g.mgr.uesUsingPucchRes c ≠ some rnti)) fun _ => True := by
  cases call with
  | sr =>
    refine yields_map ((reserveDed_spec .sr ue.srCellResId).post fun res hres => ?_)
    refine hres.imp_right fun htakes => ⟨_, htakes, rfl, .inr (.inr ?_)⟩
    rintro c rfl howner
    rw [htakes.unowned] at howner
    cases howner
  | csi =>
    unfold step PucchUeResources.reserveCsiResource
    cases hcsi : ue.csiCellResId with
    | none => trivial
    | some c =>
      refine yields_map ((reserveDed_spec .csi c).post fun res hres => ?_)
      refine hres.imp_right fun htakes => ⟨_, htakes, hcsi, .inr (.inr ?_)⟩
      rintro c' hc' howner
      obtain rfl := Option.some.inj (hcsi.symm.trans hc')
      rw [htakes.unowned] at howner
      cases howner
  | byResIndicator dPri set =>
    unfold step PucchUeResources.reserveHarqResourceByResIndicator
    dsimp only
    cases hid : (ue.pucchResSet set)[dPri]? with
    | none => exact .inl rfl
    | some id =>
      dsimp only
      by_cases hslot : ue.slotResource cell set dPri
      · rw [if_pos hslot]
        exact .inl rfl
      · rw [if_neg hslot]
        refine yields_map ((reserveDed_spec set.usage id.cellResId).post fun res hres => ?_)
        refine hres.imp_right fun htakes => ?_
        refine ⟨_, htakes, serves_of_eligible (mem_eligibleResources hid hslot), ?_⟩
        by_cases hfirst : g.reservations set.usage = none
        · exact .inr (.inl hfirst)
        · obtain ⟨m', hm', -⟩ := htakes.taken
          exact .inl ⟨hfirst, hslot, id, hid, htakes.unowned, Option.isSome_iff_exists.mpr ⟨m', hm'⟩⟩
  | nextAvailable set =>
    have havailable : Yields (ue.availableRes cell rnti g set) (fun res => res.2 = g ∨
        ∃ c, Takes cell rnti g set.usage c res.2 ∧ ue.Serves cell set.usage c ∧
          ∀ c, ue.Serves cell set.usage c → g.mgr.uesUsingPucchRes c ≠ some rnti) fun _ => True := by
      refine yields_bind (findAllocated_spec 0) fun found hfound => ?_
      cases found with
      | some rPucch => exact .inl rfl
      | none =>
        refine (allocFirst_spec set.usage 0).post fun res hres => ?_
        refine hres.imp_right fun ⟨id, hid, htakes⟩ => ⟨_, htakes, serves_of_eligible hid, fun c hc => ?_⟩
        obtain ⟨x, hx, rfl⟩ : ∃ x ∈ ue.eligibleResources cell set, x.cellResId = c := by
          cases set <;> exact hc
        exact hfound rfl x hx
    refine yields_map (yields_ite (fun _ => trivial) fun _ => yields_bind havailable fun res hres => ?_)
    refine yields_bind (yields_true _) fun _ _ => ?_
    exact hres.imp_right fun ⟨c, htakes, hserves, hother⟩ => ⟨c, htakes, hserves, .inr (.inr hother)⟩

end Calls

end UeReservationGuard

end OwlsRan.Sched
