import OwlsRan.Lib.KeyedList
import OwlsRan.Sched.LogicalChannelScope
import OwlsRan.Sched.ResourceGridUtil

/-!
# UE repository

The UEs of the scheduler, with an index by RNTI, a repository for each cell, and a ring of pending removals. UEs and
removal requests are numbered, and what was marked, removed and completed is recorded.
-/

namespace OwlsRan.Sched

open Lib Adt Ran

structure UeRepositoryConfig where
  numerology : ℕ
  numerology_valid : numerology < NOF_NUMEROLOGIES
  cells : List ℕ
  ntnCsKoffset : ℕ → ℕ
  ntnCsKoffset_le : ∀ c, ntnCsKoffset c ≤ NTN_CELL_SPECIFIC_KOFFSET_MAX

/-- What a cell repository keeps of a UE: a pointer to the cell of the UE with the given number. -/
structure UeCell where
  ueIndex : ℕ
  crnti : ℕ
  cellIndex : ℕ
  ue : ℕ
deriving DecidableEq

/-- A UE, with the cells of its configuration and the cells that it has an instance of. -/
structure Ue where
  ueIndex : ℕ
  crnti : ℕ
  number : ℕ
  ueCells : List ℕ
  ueDuCells : List ℕ
deriving DecidableEq

namespace Ue

def cell (u : Ue) (c : ℕ) : UeCell := ⟨u.ueIndex, u.crnti, c, u.number⟩

/-- `set_config`: no instance of a removed cell is deleted. -/
def setConfig (u : Ue) (cells : List ℕ) : Ue := { u with ueCells := cells, ueDuCells := u.ueDuCells ∪ cells }

def isReadyForRemoval (u : Ue) (activeHarqs : ℕ → ℕ → Bool) : Bool := u.ueCells.all fun c => !activeHarqs u.ueIndex c

end Ue

inductive UeRepositoryAbort where
  | duplicateIndex | duplicateRnti | badAccess | noPCell | ringFull | differentNumerologies
deriving DecidableEq

structure UeCellRepository where
  cellIdx : ℕ
  ues : FlatMap UeCell
  rntiToUeIndexLookup : FlatMap ℕ

namespace UeCellRepository

def init (cellIdx : ℕ) : UeCellRepository := ⟨cellIdx, FlatMap.empty, FlatMap.empty⟩

def addUe (r : UeCellRepository) (u : UeCell) : Except UeRepositoryAbort UeCellRepository :=
  if r.ues.contains u.ueIndex then .error .duplicateIndex
  else if r.rntiToUeIndexLookup.contains u.crnti then .error .duplicateRnti
  else .ok { r with
    ues := r.ues.emplace u.ueIndex u
    rntiToUeIndexLookup := r.rntiToUeIndexLookup.emplace u.crnti u.ueIndex }

def remUe (r : UeCellRepository) (ueIndex : ℕ) : Except UeRepositoryAbort UeCellRepository :=
  match r.ues.find? ueIndex with
  | none => .error .badAccess
  | some u => .ok { r with
      ues := r.ues.erase u.ueIndex
      rntiToUeIndexLookup := r.rntiToUeIndexLookup.erase u.crnti }

end UeCellRepository

/-- A valid `ue_config_delete_event`. -/
structure UeConfigDeleteEvent where
  number : ℕ
  ueIndex : ℕ
deriving DecidableEq

structure RemovalMark where
  event : ℕ
  ue : Ue
  slot : ℕ
  delay : ℕ
deriving DecidableEq

/-- The cells of the UE with an active HARQ process are recorded with the event that removed it. -/
inductive RemovalCause where
  | event (number : ℕ) (activeCells : List ℕ)
  | cellDeactivation (cell : ℕ)
deriving DecidableEq

structure UeRemoval where
  ue : Ue
  slot : ℕ
  cause : RemovalCause
deriving DecidableEq

/-- The repository and the record of the run. The slots of the record are counted without wrapping around. -/
structure UeRepository where
  ues : FlatMap Ue
  rntiToUeIndexLookup : FlatMap ℕ
  cellUes : FlatMap UeCellRepository
  uesToRem : List (SlotPoint × Option UeConfigDeleteEvent)
  lastSlTx : SlotPoint
  now : ℕ
  nofUes : ℕ
  nofEvents : ℕ
  marks : List RemovalMark
  removed : List UeRemoval
  completed : List ℕ

/-- The environment says which HARQ processes are active when a slot is indicated, by UE index and cell. -/
inductive UeRepositoryEvent where
  | addUe (ueIndex crnti : ℕ) (cells : List ℕ)
  | reconfigureUe (ueIndex : ℕ) (cells : List ℕ)
  | scheduleUeRem (ueIndex : ℕ)
  | slotIndication (slots : ℕ) (activeHarqs : ℕ → ℕ → Bool)
  | handleCellDeactivation (cellIndex : ℕ)

namespace UeRepository

variable (cfg : UeRepositoryConfig)

def init : UeRepository where
  ues := FlatMap.empty
  rntiToUeIndexLookup := FlatMap.empty
  cellUes := cfg.cells.foldl (fun m c => m.emplace c (UeCellRepository.init c)) FlatMap.empty
  uesToRem := []
  lastSlTx := SlotPoint.invalid
  now := 0
  nofUes := 0
  nofEvents := 0
  marks := []
  removed := []
  completed := []

def slotAt (slot : ℕ) : SlotPoint := (⟨cfg.numerology, 0⟩ : SlotPoint).add slot

def forEachCell (f : ℕ → UeCellRepository → Except UeRepositoryAbort UeCellRepository) (cells : List ℕ)
    (m : FlatMap UeCellRepository) : Except UeRepositoryAbort (FlatMap UeCellRepository) :=
  cells.foldlM (fun m c =>
    match m.find? c with
    | none => .error .badAccess
    | some repo => (f c repo).map fun repo' => m.modify c fun _ => repo') m

def addUe (s : UeRepository) (ueIndex crnti : ℕ) (cells : List ℕ) : Except UeRepositoryAbort UeRepository :=
  let u : Ue := ⟨ueIndex, crnti, s.nofUes, cells, cells⟩
  if cells = [] then .error .noPCell
  else if MAX_NOF_DU_UES ≤ ueIndex then .error .badAccess
  else if s.ues.contains ueIndex then .error .duplicateIndex
  else if s.rntiToUeIndexLookup.contains crnti then .error .duplicateRnti
  else (forEachCell (fun c repo => repo.addUe (u.cell c)) cells s.cellUes).map fun cellUes =>
    { s with
      ues := s.ues.emplace ueIndex u
      rntiToUeIndexLookup := s.rntiToUeIndexLookup.emplace crnti ueIndex
      cellUes
      nofUes := s.nofUes + 1 }

def reconfigureUe (s : UeRepository) (ueIndex : ℕ) (cells : List ℕ) : Except UeRepositoryAbort UeRepository :=
  match s.ues.find? ueIndex with
  | none => .error .badAccess
  | some u =>
    if cells = [] then .error .noPCell
    else do
      let cellUes ← s.cellUes.mapValuesM fun repo =>
        if repo.ues.contains ueIndex && !cells.contains repo.cellIdx then repo.remUe ueIndex else .ok repo
      let cellUes ← forEachCell (fun c repo =>
        if repo.ues.contains ueIndex then .ok repo else repo.addUe (u.cell c)) cells cellUes
      .ok { s with ues := s.ues.modify ueIndex fun u => u.setConfig cells, cellUes }

def removalDelay (u : Ue) : ℕ := getMaxSlotUlAllocDelay (cfg.ntnCsKoffset (u.ueCells.headD 0)) + 1

def scheduleUeRem (s : UeRepository) (ueIndex : ℕ) : Except UeRepositoryAbort UeRepository :=
  let ev : UeConfigDeleteEvent := ⟨s.nofEvents, ueIndex⟩
  match s.ues.find? ueIndex with
  | none => .ok { s with nofEvents := s.nofEvents + 1, completed := s.completed ++ [ev.number] }
  | some u =>
    if s.uesToRem.length < MAX_NOF_DU_UES then .ok { s with
      uesToRem := s.uesToRem ++ [(s.lastSlTx.add (removalDelay cfg u), some ev)]
      nofEvents := s.nofEvents + 1
      marks := s.marks ++ [⟨ev.number, u, s.now, removalDelay cfg u⟩] }
    else .error .ringFull

def remUe (s : UeRepository) (u : Ue) (cause : RemovalCause) : Except UeRepositoryAbort UeRepository :=
  (forEachCell (fun _ repo => repo.remUe u.ueIndex) u.ueCells s.cellUes).map fun cellUes =>
    { s with
      ues := s.ues.erase u.ueIndex
      rntiToUeIndexLookup := s.rntiToUeIndexLookup.erase u.crnti
      cellUes
      removed := s.removed ++ [⟨u, s.now, cause⟩] }

/-- `reset` of the event at a position of the ring. -/
def resetEvent (s : UeRepository) (i : ℕ) (slot : SlotPoint) (ev : UeConfigDeleteEvent) : UeRepository :=
  { s with uesToRem := s.uesToRem.set i (slot, none), completed := s.completed ++ [ev.number] }

/-- One round of the loop over the ring. -/
def processRemoval (slTx : SlotPoint) (activeHarqs : ℕ → ℕ → Bool) (s : UeRepository) (i : ℕ) :
    Except UeRepositoryAbort UeRepository :=
  match s.uesToRem[i]? with
  | none => .ok s
  | some (_, none) => .ok s
  | some (slot, some ev) =>
    if slot.numerology ≠ slTx.numerology then .error .differentNumerologies
    else if slot.gt slTx then .ok s
    else
      match s.ues.find? ev.ueIndex with
      | none => .ok (s.resetEvent i slot ev)
      | some u =>
        if u.isReadyForRemoval activeHarqs then
          (s.remUe u (.event ev.number (u.ueCells.filter (activeHarqs u.ueIndex)))).map fun s => s.resetEvent i slot ev
        else .ok s

def slotIndication (s : UeRepository) (slots : ℕ) (activeHarqs : ℕ → ℕ → Bool) :
    Except UeRepositoryAbort UeRepository :=
  let slTx := slotAt cfg (s.now + slots)
  let s := { s with lastSlTx := slTx, now := s.now + slots }
  ((List.range s.uesToRem.length).foldlM (processRemoval slTx activeHarqs) s).map fun s =>
    { s with uesToRem := s.uesToRem.dropWhile fun p => p.2.isNone }

def deactivateCellOf (cellIndex : ℕ) (s : UeRepository) (i : ℕ) : Except UeRepositoryAbort UeRepository :=
  match s.ues.find? i with
  | none => .ok s
  | some u => if cellIndex ∈ u.ueDuCells then s.remUe u (.cellDeactivation cellIndex) else .ok s

def resetOrphans (s : UeRepository) : UeRepository :=
  { s with
    uesToRem := s.uesToRem.map fun p => (p.1, p.2.filter fun ev => s.ues.contains ev.ueIndex)
    completed := s.completed ++
      ((s.uesToRem.filterMap Prod.snd).filter fun ev => !s.ues.contains ev.ueIndex).map UeConfigDeleteEvent.number }

def handleCellDeactivation (s : UeRepository) (cellIndex : ℕ) : Except UeRepositoryAbort UeRepository :=
  (s.ues.keys.foldlM (deactivateCellOf cellIndex) s).map resetOrphans

def step (s : UeRepository) : UeRepositoryEvent → Except UeRepositoryAbort UeRepository
  | .addUe ueIndex crnti cells => s.addUe ueIndex crnti cells
  | .reconfigureUe ueIndex cells => s.reconfigureUe ueIndex cells
  | .scheduleUeRem ueIndex => s.scheduleUeRem cfg ueIndex
  | .slotIndication slots activeHarqs => s.slotIndication cfg slots activeHarqs
  | .handleCellDeactivation cellIndex => s.handleCellDeactivation cellIndex

end UeRepository

/-!
## The lookups of the UE repository

Each repository of UEs is a table with an index by RNTI. The table of a cell holds the UEs that are configured with it.
-/

open Lib Adt

def cellUsers (ues : ℕ → Option Ue) (c : ℕ) (i : ℕ) : Option UeCell :=
  (ues i).bind fun u => if c ∈ u.ueCells then some (u.cell c) else none

namespace UeCellRepository

structure Holds (r : UeCellRepository) (users : ℕ → Option UeCell) : Prop where
  ues : r.ues.find? = users
  lookup : Indexes users UeCell.crnti r.rntiToUeIndexLookup.find?

lemma addUe_holds {r r' : UeCellRepository} {users : ℕ → Option UeCell} {u : UeCell} (h : r.Holds users)
    (hadd : r.addUe u = .ok r') :
    users u.ueIndex = none ∧ r'.cellIdx = r.cellIdx ∧ r'.Holds (Function.update users u.ueIndex (some u)) := by
  unfold addUe at hadd
  split at hadd
  case isTrue => cases hadd
  case isFalse hindex =>
    split at hadd
    case isTrue => cases hadd
    case isFalse hrnti =>
      cases hadd
      have hnone : r.ues.find? u.ueIndex = none := FlatMap.contains_eq_false_iff.mp (by simpa using hindex)
      have hfree : r.rntiToUeIndexLookup.find? u.crnti = none :=
        FlatMap.contains_eq_false_iff.mp (by simpa using hrnti)
      have hues : (r.ues.emplace u.ueIndex u).find? = Function.update users u.ueIndex (some u) := by
        rw [FlatMap.find?_emplace_eq_update hnone, h.ues]
      rw [h.ues] at hnone
      refine ⟨hnone, rfl, hues, ?_⟩
      change Indexes _ _ (r.rntiToUeIndexLookup.emplace u.crnti u.ueIndex).find?
      rw [FlatMap.find?_emplace_eq_update hfree]
      exact h.lookup.insert hnone hfree

lemma remUe_holds {r r' : UeCellRepository} {users : ℕ → Option UeCell} {i : ℕ} (h : r.Holds users)
    (hindex : ∀ u, users i = some u → u.ueIndex = i) (hrem : r.remUe i = .ok r') :
    (users i).isSome = true ∧ r'.cellIdx = r.cellIdx ∧ r'.Holds (Function.update users i none) := by
  unfold remUe at hrem
  split at hrem
  case h_1 => cases hrem
  case h_2 u hu =>
    cases hrem
    rw [h.ues] at hu
    have hui := hindex u hu
    have hues : (r.ues.erase u.ueIndex).find? = Function.update users i none := by
      rw [FlatMap.find?_erase_eq_update, h.ues, hui]
    refine ⟨by rw [hu]; rfl, rfl, hues, ?_⟩
    change Indexes _ _ (r.rntiToUeIndexLookup.erase u.crnti).find?
    rw [FlatMap.find?_erase_eq_update]
    exact h.lookup.erase hu

end UeCellRepository

namespace UeRepository

variable {cells : List ℕ}

lemma forEachCell_spec {f : ℕ → UeCellRepository → Except UeRepositoryAbort UeCellRepository}
    {P Q : ℕ → UeCellRepository → Prop} (hfirst : ∀ c r r', P c r → f c r = .ok r' → Q c r')
    (hagain : ∀ c r r', Q c r → f c r = .ok r' → Q c r') {m m' : FlatMap UeCellRepository}
    (hrun : forEachCell f cells m = .ok m') {d : List ℕ}
    (hm : ∀ c r, m.find? c = some r → if c ∈ d then Q c r else P c r) :
    ∀ c r, m'.find? c = some r → if c ∈ d ++ cells then Q c r else P c r := by
  induction cells generalizing m d with
  | nil =>
    cases hrun
    simpa using hm
  | cons c₀ cells ih =>
    rw [forEachCell, List.foldlM_cons] at hrun
    obtain ⟨m₁, hone, hrest⟩ := bind_eq_ok.mp hrun
    split at hone
    case h_1 => cases hone
    case h_2 repo hrepo =>
      obtain ⟨repo', hf, rfl⟩ := map_eq_ok.mp hone
      have hstep : ∀ c r, (m.modify c₀ fun _ => repo').find? c = some r →
          if c ∈ d ++ [c₀] then Q c r else P c r := by
        intro c r hr
        rw [FlatMap.find?_modify] at hr
        by_cases hc : c = c₀
        · subst hc
          rw [hrepo, if_pos rfl] at hr
          obtain rfl := Option.some.inj hr
          rw [if_pos (by simp)]
          have hbefore := hm c repo hrepo
          split at hbefore
          case isTrue => exact hagain c repo repo' hbefore hf
          case isFalse => exact hfirst c repo repo' hbefore hf
        · have hr' : m.find? c = some r := by
            rw [← hr]
            cases m.find? c <;> simp [hc]
          simpa [hc] using hm c r hr'
      have := ih hrest hstep
      rwa [List.append_assoc] at this

/-- The RNTI lookup leads exactly to the UEs, and the repository of each cell holds the UEs that are configured
with it. -/
structure LookupsExact (s : UeRepository) : Prop where
  index : ∀ i u, s.ues.find? i = some u → u.ueIndex = i
  lookup : Indexes s.ues.find? Ue.crnti s.rntiToUeIndexLookup.find?
  cells : ∀ c repo, s.cellUes.find? c = some repo → repo.cellIdx = c ∧ repo.Holds (cellUsers s.ues.find? c)

lemma cellUsers_update (ues : ℕ → Option Ue) (i : ℕ) (u : Option Ue) (c : ℕ) :
    cellUsers (Function.update ues i u) c =
      Function.update (cellUsers ues c) i (u.bind fun u => if c ∈ u.ueCells then some (u.cell c) else none) := by
  funext j
  by_cases hj : j = i
  · subst hj
    simp [cellUsers]
  · simp [cellUsers, hj]

lemma cellUsers_index {ues : ℕ → Option Ue} (h : ∀ i u, ues i = some u → u.ueIndex = i) (c : ℕ) :
    ∀ i uc, cellUsers ues c i = some uc → uc.ueIndex = i := by
  intro i uc huc
  obtain ⟨u, hu, hcell⟩ := Option.bind_eq_some_iff.mp huc
  split at hcell
  case isTrue =>
    cases hcell
    exact h i u hu
  case isFalse => cases hcell

variable {s t : UeRepository}

lemma LookupsExact.congr (h : LookupsExact s) (hues : t.ues = s.ues)
    (hlookup : t.rntiToUeIndexLookup = s.rntiToUeIndexLookup) (hcells : t.cellUes = s.cellUes) : LookupsExact t := by
  refine ⟨?_, ?_, ?_⟩
  · rw [hues]
    exact h.index
  · rw [hues, hlookup]
    exact h.lookup
  · rw [hues, hcells]
    exact h.cells

variable {ueIndex : ℕ}

lemma addUe_ok {crnti : ℕ} (ht : s.addUe ueIndex crnti cells = .ok t) :
    cells ≠ [] ∧ s.ues.find? ueIndex = none ∧ s.rntiToUeIndexLookup.find? crnti = none ∧
    ∃ cellUes, forEachCell (fun c repo => repo.addUe (Ue.cell ⟨ueIndex, crnti, s.nofUes, cells, cells⟩ c)) cells
      s.cellUes = .ok cellUes ∧
    t = { s with
      ues := s.ues.emplace ueIndex ⟨ueIndex, crnti, s.nofUes, cells, cells⟩
      rntiToUeIndexLookup := s.rntiToUeIndexLookup.emplace crnti ueIndex
      cellUes
      nofUes := s.nofUes + 1 } := by
  unfold addUe at ht
  split at ht
  case isTrue => cases ht
  case isFalse hcells =>
    split at ht
    case isTrue => cases ht
    case isFalse =>
      split at ht
      case isTrue => cases ht
      case isFalse hindex =>
        split at ht
        case isTrue => cases ht
        case isFalse hrnti =>
          obtain ⟨cellUes, hloop, rfl⟩ := map_eq_ok.mp ht
          exact ⟨hcells, FlatMap.contains_eq_false_iff.mp (by simpa using hindex),
            FlatMap.contains_eq_false_iff.mp (by simpa using hrnti), cellUes, hloop, rfl⟩

lemma addUe_lookups (h : LookupsExact s) {crnti : ℕ} (ht : s.addUe ueIndex crnti cells = .ok t) : LookupsExact t := by
  obtain ⟨-, hindex, hrnti, cellUes, hloop, rfl⟩ := addUe_ok ht
  set u : Ue := ⟨ueIndex, crnti, s.nofUes, cells, cells⟩ with hu
  have hues := FlatMap.find?_emplace_eq_update hindex u
  refine ⟨fun i v hv => ?_, ?_, fun c repo hrepo => ?_⟩
  · rw [hues] at hv
    by_cases hi : i = ueIndex
    · subst hi
      rw [Function.update_self] at hv
      obtain rfl := Option.some.inj hv
      rfl
    · rw [Function.update_of_ne hi] at hv
      exact h.index i v hv
  · change Indexes (s.ues.emplace ueIndex u).find? _ (s.rntiToUeIndexLookup.emplace crnti ueIndex).find?
    rw [hues, FlatMap.find?_emplace_eq_update hrnti]
    exact h.lookup.insert hindex hrnti
  · have hspec := forEachCell_spec (P := fun c r => r.cellIdx = c ∧ r.Holds (cellUsers s.ues.find? c))
      (Q := fun c r => r.cellIdx = c ∧
        r.Holds (Function.update (cellUsers s.ues.find? c) ueIndex (some (u.cell c))))
      (fun c r r' hr hadd => by
        obtain ⟨-, hidx, hholds⟩ := UeCellRepository.addUe_holds hr.2 hadd
        exact ⟨hidx.trans hr.1, hholds⟩)
      (fun c r r' hr hadd => by
        obtain ⟨hnone, -, -⟩ := UeCellRepository.addUe_holds hr.2 hadd
        have hself : (u.cell c).ueIndex = ueIndex := rfl
        rw [hself, Function.update_self] at hnone
        cases hnone)
      hloop (d := []) (fun c r hr => by simpa using h.cells c r hr) c repo hrepo
    change repo.cellIdx = c ∧ repo.Holds (cellUsers (s.ues.emplace ueIndex u).find? c)
    rw [hues, cellUsers_update, Option.bind_some]
    rw [List.nil_append] at hspec
    split at hspec
    case isTrue hc =>
      rw [if_pos hc]
      exact hspec
    case isFalse hc =>
      have hnone : cellUsers s.ues.find? c ueIndex = none := by simp [cellUsers, hindex]
      rw [if_neg hc, Function.update_eq_self_iff.mpr hnone.symm]
      exact hspec

lemma remUe_ok {u : Ue} {cause : RemovalCause} (ht : s.remUe u cause = .ok t) :
    ∃ cellUes, forEachCell (fun _ repo => repo.remUe u.ueIndex) u.ueCells s.cellUes = .ok cellUes ∧
    t = { s with
      ues := s.ues.erase u.ueIndex
      rntiToUeIndexLookup := s.rntiToUeIndexLookup.erase u.crnti
      cellUes
      removed := s.removed ++ [⟨u, s.now, cause⟩] } := by
  obtain ⟨cellUes, hloop, rfl⟩ := map_eq_ok.mp ht
  exact ⟨cellUes, hloop, rfl⟩

lemma remUe_lookups (h : LookupsExact s) {i : ℕ} {u : Ue} (hu : s.ues.find? i = some u) {cause : RemovalCause}
    (ht : s.remUe u cause = .ok t) : LookupsExact t := by
  obtain ⟨cellUes, hloop, rfl⟩ := remUe_ok ht
  obtain rfl := h.index i u hu
  have hues := FlatMap.find?_erase_eq_update s.ues u.ueIndex
  refine ⟨fun j v hv => ?_, ?_, fun c repo hrepo => ?_⟩
  · rw [hues] at hv
    by_cases hj : j = u.ueIndex
    · subst hj
      rw [Function.update_self] at hv
      cases hv
    · rw [Function.update_of_ne hj] at hv
      exact h.index j v hv
  · change Indexes (s.ues.erase u.ueIndex).find? _ (s.rntiToUeIndexLookup.erase u.crnti).find?
    rw [hues, FlatMap.find?_erase_eq_update]
    exact h.lookup.erase hu
  · have hindex := cellUsers_index h.index
    have hgone : ∀ users : ℕ → Option UeCell, (∀ j v, users j = some v → v.ueIndex = j) →
        ∀ j v, Function.update users u.ueIndex none j = some v → v.ueIndex = j := by
      intro users husers j v hv
      by_cases hj : j = u.ueIndex
      · subst hj
        rw [Function.update_self] at hv
        cases hv
      · rw [Function.update_of_ne hj] at hv
        exact husers j v hv
    have hspec := forEachCell_spec (P := fun c r => r.cellIdx = c ∧ r.Holds (cellUsers s.ues.find? c))
      (Q := fun c r => r.cellIdx = c ∧ r.Holds (Function.update (cellUsers s.ues.find? c) u.ueIndex none))
      (fun c r r' hr hrem => by
        obtain ⟨-, hidx, hholds⟩ := UeCellRepository.remUe_holds hr.2 (hindex c _) hrem
        exact ⟨hidx.trans hr.1, hholds⟩)
      (fun c r r' hr hrem => by
        obtain ⟨hsome, -, -⟩ := UeCellRepository.remUe_holds hr.2 (hgone _ (hindex c) _) hrem
        rw [Function.update_self] at hsome
        cases hsome)
      hloop (d := []) (fun c r hr => by simpa using h.cells c r hr) c repo hrepo
    change repo.cellIdx = c ∧ repo.Holds (cellUsers (s.ues.erase u.ueIndex).find? c)
    rw [hues, cellUsers_update, Option.bind_none]
    rw [List.nil_append] at hspec
    split at hspec
    case isTrue => exact hspec
    case isFalse hc =>
      have hnone : cellUsers s.ues.find? c u.ueIndex = none := by simp [cellUsers, hu, hc]
      rw [Function.update_eq_self_iff.mpr hnone.symm]
      exact hspec

lemma reconfigureUe_ok (ht : s.reconfigureUe ueIndex cells = .ok t) :
    ∃ u, s.ues.find? ueIndex = some u ∧ ∃ left joined,
      s.cellUes.mapValuesM (fun repo => if repo.ues.contains ueIndex && !cells.contains repo.cellIdx then
        repo.remUe ueIndex else .ok repo) = .ok left ∧
      forEachCell (fun c repo => if repo.ues.contains ueIndex then .ok repo else repo.addUe (u.cell c)) cells left =
        .ok joined ∧
      t = { s with ues := s.ues.modify ueIndex fun u => u.setConfig cells, cellUes := joined } := by
  unfold reconfigureUe at ht
  split at ht
  case h_1 => cases ht
  case h_2 u hu =>
    split at ht
    case isTrue => cases ht
    case isFalse =>
      obtain ⟨left, hleft, ht⟩ := bind_eq_ok.mp ht
      obtain ⟨joined, hjoined, ht⟩ := bind_eq_ok.mp ht
      exact ⟨u, hu, left, joined, hleft, hjoined, (Except.ok.inj ht).symm⟩

lemma reconfigureUe_lookups (h : LookupsExact s) (ht : s.reconfigureUe ueIndex cells = .ok t) : LookupsExact t := by
  obtain ⟨u, hu, left, joined, hleft, hjoined, rfl⟩ := reconfigureUe_ok ht
  have hues := FlatMap.find?_modify_eq_update hu fun u => u.setConfig cells
  have hui := h.index ueIndex u hu
  -- the users of a cell between the two loops
  set mid : ℕ → ℕ → Option UeCell := fun c =>
    if c ∈ cells then cellUsers s.ues.find? c else Function.update (cellUsers s.ues.find? c) ueIndex none with hmid
  have hown : ∀ c uc, mid c ueIndex = some uc → uc = u.cell c := by
    intro c uc huc
    simp only [hmid] at huc
    split at huc
    case isTrue =>
      simp only [cellUsers, hu, Option.bind_some] at huc
      split at huc
      case isTrue => exact (Option.some.inj huc).symm
      case isFalse => cases huc
    case isFalse =>
      rw [Function.update_self] at huc
      cases huc
  have hbetween : ∀ c r, left.find? c = some r → r.cellIdx = c ∧ r.Holds (mid c) := by
    intro c r hr
    rcases FlatMap.find?_mapValuesM hleft c with ⟨-, hnone⟩ | ⟨a, b, ha, hab, hb⟩
    · rw [hnone] at hr
      cases hr
    · rw [hb] at hr
      obtain rfl := Option.some.inj hr
      obtain ⟨hidx, hholds⟩ := h.cells c a ha
      simp only [hmid]
      by_cases hc : c ∈ cells
      · rw [if_neg (by simp [hidx, hc])] at hab
        cases hab
        rw [if_pos hc]
        exact ⟨hidx, hholds⟩
      · rw [if_neg hc]
        split at hab
        case isTrue =>
          obtain ⟨-, hidx', hholds'⟩ := UeCellRepository.remUe_holds hholds (cellUsers_index h.index c _) hab
          exact ⟨hidx'.trans hidx, hholds'⟩
        case isFalse hcontains =>
          cases hab
          have hnone : cellUsers s.ues.find? c ueIndex = none := by
            rw [← hholds.ues]
            refine FlatMap.contains_eq_false_iff.mp ?_
            simpa [hidx, hc] using hcontains
          rw [Function.update_eq_self_iff.mpr hnone.symm]
          exact ⟨hidx, hholds⟩
  have hstay : ∀ c (r : UeCellRepository), r.Holds (mid c) → r.ues.contains ueIndex = true →
      Function.update (mid c) ueIndex (some (u.cell c)) = mid c := by
    intro c r hr hcontains
    obtain ⟨uc, huc⟩ := FlatMap.contains_iff.mp hcontains
    rw [hr.ues] at huc
    rw [Function.update_eq_self_iff, huc, hown c uc huc]
  refine ⟨fun i v hv => ?_, ?_, fun c repo hrepo => ?_⟩
  · change (s.ues.modify ueIndex fun u => u.setConfig cells).find? i = some v at hv
    rw [hues] at hv
    by_cases hi : i = ueIndex
    · subst hi
      rw [Function.update_self] at hv
      obtain rfl := Option.some.inj hv
      exact hui
    · rw [Function.update_of_ne hi] at hv
      exact h.index i v hv
  · change Indexes (s.ues.modify ueIndex fun u => u.setConfig cells).find? _ _
    rw [hues]
    exact h.lookup.replace hu rfl
  · have hspec := forEachCell_spec (P := fun c r => r.cellIdx = c ∧ r.Holds (mid c))
      (Q := fun c r => r.cellIdx = c ∧ r.Holds (Function.update (mid c) ueIndex (some (u.cell c))))
      (fun c r r' hr hjoin => by
        split at hjoin
        case isTrue hcontains =>
          cases hjoin
          rw [hstay c r hr.2 hcontains]
          exact hr
        case isFalse =>
          obtain ⟨-, hidx, hholds⟩ := UeCellRepository.addUe_holds hr.2 hjoin
          have hself : (u.cell c).ueIndex = ueIndex := hui
          rw [hself] at hholds
          exact ⟨hidx.trans hr.1, hholds⟩)
      (fun c r r' hr hjoin => by
        have hcontains : r.ues.contains ueIndex = true := by
          rw [FlatMap.contains_iff, hr.2.ues]
          exact ⟨u.cell c, Function.update_self ..⟩
        rw [if_pos hcontains] at hjoin
        cases hjoin
        exact hr)
      hjoined (d := []) (fun c r hr => by simpa using hbetween c r hr) c repo hrepo
    change repo.cellIdx = c ∧ repo.Holds (cellUsers (s.ues.modify ueIndex fun u => u.setConfig cells).find? c)
    have hcell : (u.setConfig cells).cell c = u.cell c := rfl
    have hcells : (u.setConfig cells).ueCells = cells := rfl
    rw [hues, cellUsers_update, Option.bind_some, hcell, hcells]
    rw [List.nil_append] at hspec
    simp only [hmid] at hspec
    split at hspec
    case isTrue hc =>
      rw [if_pos hc]
      exact hspec
    case isFalse hc =>
      rw [if_neg hc]
      exact hspec

end UeRepository

end OwlsRan.Sched
