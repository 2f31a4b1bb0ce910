import OwlsRan.Lib.OrderedList
import OwlsRan.Lib.PeriodicWheel
import OwlsRan.Sched.PucchResources

/-!
# The placement of SR and CSI

`du_pucch_resource_manager` gives every UE an offset for SR and one for CSI reports, from lists of free ones. A counter
for each slot of the common cycle of the two periods keeps the PUCCH grants of a slot within a limit, and the CSI report
has to fit in its PUCCH together with an SR of the same slot.
-/

namespace OwlsRan.Du

open OwlsRan.Lib OwlsRan.Sched

/-- The parameters of the format for CSI in `pucch_builder_params`. -/
inductive F2OrF3OrF4Params where
  | f2 (maxNofRbs nofSymbols : Nat)
  | f3 (maxNofRbs nofSymbols : Nat) (intraslotFreqHopping additionalDmrs pi2Bpsk : Bool)
  | f4 (nofSymbols : Nat) (intraslotFreqHopping additionalDmrs pi2Bpsk : Bool) (occLength : Nat)
deriving DecidableEq

/-- `pucch_builder_params`, with the numbers of resources from which the index of a resource in the list follows. -/
structure PucchBuilderParams where
  resSet0Size : Nat
  resSet1Size : Nat
  nofCellResSetConfigs : Nat
  nofCellSrResources : Nat
  f2OrF3OrF4Params : F2OrF3OrF4Params
deriving DecidableEq

structure PucchPayloads (Rate : Type*) where
  getPucchFormat2MaxPayload : Nat → Nat → Rate → Nat
  getPucchFormat3MaxPayload : Nat → Nat → Rate → Bool → Bool → Bool → Nat
  getPucchFormat4MaxPayload : Nat → Rate → Bool → Bool → Bool → Nat → Nat

/-- What is read of `csi_meas_config`: the occasions of the CSI-RS, and the size of part 1 of a report. -/
structure CsiMeasConfig where
  csiRsPeriod : Nat
  csiRsOffset : Nat
  part1Size : Nat
  csiRsPeriod_pos : 0 < csiRsPeriod
deriving DecidableEq

/-- The manager, as it is constructed. `defaultPucchResList` is the list of the resources of the cell, by index, and
`maxCodeRate` the code rate of the format for CSI in the default configuration. -/
structure DuPucchResourceManager (Rate : Type*) where
  userDefinedPucchCfg : PucchBuilderParams
  defaultPucchResList : Nat → PucchResource
  maxCodeRate : Rate
  maxPucchGrantsPerSlot : Nat
  srPeriodSlots : Nat
  csiPeriodSlots : Nat
  srPeriodSlots_pos : 0 < srPeriodSlots
  csiPeriodSlots_pos : 0 < csiPeriodSlots

structure ResOffset (period : Nat) where
  resIdx : Nat
  offset : Nat
  offset_lt : offset < period
deriving DecidableEq

namespace DuPucchResourceManager

variable {Rate : Type*} (m : DuPucchResourceManager Rate)

def lcmCsiSrPeriod : Nat := Nat.lcm m.srPeriodSlots m.csiPeriodSlots

def csiDuResIdxToPucchResIdx (csiDuResIdx : Nat) : Nat :=
  let cfg := m.userDefinedPucchCfg
  cfg.resSet0Size * cfg.nofCellResSetConfigs + cfg.nofCellSrResources + cfg.resSet1Size * cfg.nofCellResSetConfigs +
    csiDuResIdx

def csiOffsetExceedsGrantCnt (pucchGrantsPerSlotCnt : Nat → Nat) (offsetCandidate : Nat) : Bool :=
  (wheelOffsets m.lcmCsiSrPeriod m.csiPeriodSlots offsetCandidate).any fun csiOff =>
    decide (m.maxPucchGrantsPerSlot ≤ pucchGrantsPerSlotCnt csiOff)

def csiOffsetCollidesWithSr (srOffset csiOffset : Nat) : Bool :=
  (wheelOffsets m.lcmCsiSrPeriod m.csiPeriodSlots csiOffset).any fun csiOff =>
    (wheelOffsets m.lcmCsiSrPeriod m.srPeriodSlots srOffset).any fun srOff => csiOff == srOff

/-- The constant of `find_optimal_csi_report_slot_offset`. -/
def minimumCsiRsReportDistance : Nat := 4

/-- The slots from the end of the minimum distance after the CSI-RS to the report, in `unsigned` arithmetic. -/
def csiRsReportDelay (csi : CsiMeasConfig) (csiOffset : Nat) : Nat :=
  (((csi.csiRsPeriod + csiOffset : Int) - csi.csiRsOffset - minimumCsiRsReportDistance) % 2 ^ 32).toNat % csi.csiRsPeriod

def symbolsOf (res : PucchResource) : Interval := ⟨res.startingSymIdx, res.startingSymIdx + res.nofSymbols⟩

def isDisjointFormat0And2 (srResCfg candidateCsiResCfg : PucchResource) : Bool :=
  srResCfg.formatParams.format == .format0 && candidateCsiResCfg.formatParams.format == .format2 &&
    !(symbolsOf candidateCsiResCfg).overlaps (symbolsOf srResCfg)

section Placement

variable (cnt : Nat → Nat) (csi : CsiMeasConfig) (candidateSrOffset : Nat) (srResCfg : PucchResource)

def returnsEarly (candidate : ResOffset m.csiPeriodSlots) : Bool :=
  isDisjointFormat0And2 srResCfg (m.defaultPucchResList (m.csiDuResIdxToPucchResIdx candidate.resIdx))

def exceedsGrantCnt (candidate : ResOffset m.csiPeriodSlots) : Bool := m.csiOffsetExceedsGrantCnt cnt candidate.offset

def weightFunction (candidate : ResOffset m.csiPeriodSlots) : Nat :=
  let weight := csiRsReportDelay csi candidate.offset
  if m.returnsEarly srResCfg candidate then weight + 2 * csi.csiRsPeriod
  else
    let weight := if m.csiOffsetCollidesWithSr candidateSrOffset candidate.offset then weight + csi.csiRsPeriod else weight
    if m.exceedsGrantCnt cnt candidate then weight + 2 * csi.csiRsPeriod else weight

/-- `find_optimal_csi_report_slot_offset`. The end of the list is dereferenced when the list is empty. -/
def findOptimalCsiReportSlotOffset (available : List (ResOffset m.csiPeriodSlots)) :
    Option (Option (ResOffset m.csiPeriodSlots)) :=
  (minElement (m.weightFunction cnt csi candidateSrOffset srResCfg) available).map fun optimal =>
    if m.exceedsGrantCnt cnt optimal then none else some optimal

def maxPayload (payloads : PucchPayloads Rate) : Nat :=
  match m.userDefinedPucchCfg.f2OrF3OrF4Params with
  | .f2 maxNofRbs nofSymbols => payloads.getPucchFormat2MaxPayload maxNofRbs nofSymbols m.maxCodeRate
  | .f3 maxNofRbs nofSymbols intraslotFreqHopping additionalDmrs pi2Bpsk =>
    payloads.getPucchFormat3MaxPayload maxNofRbs nofSymbols m.maxCodeRate intraslotFreqHopping additionalDmrs pi2Bpsk
  | .f4 nofSymbols intraslotFreqHopping additionalDmrs pi2Bpsk occLength =>
    payloads.getPucchFormat4MaxPayload nofSymbols m.maxCodeRate intraslotFreqHopping additionalDmrs pi2Bpsk occLength

/-- The test of `get_csi_resource_offset` for an SR and a CSI report in one slot. -/
def srCsiOnTheSameSlot (csiOffset : Nat) : Bool :=
  let lowestPeriod := min m.srPeriodSlots m.csiPeriodSlots
  candidateSrOffset % lowestPeriod == csiOffset % lowestPeriod

def getCsiResourceOffset (payloads : PucchPayloads Rate) (freeCsiList : List (ResOffset m.csiPeriodSlots)) :
    Option (Option (ResOffset m.csiPeriodSlots)) :=
  (m.findOptimalCsiReportSlotOffset cnt csi candidateSrOffset srResCfg freeCsiList).map fun optimal =>
    optimal.filter fun optimal =>
      let candidateUciBits := (m.srCsiOnTheSameSlot candidateSrOffset optimal.offset).toNat + csi.part1Size
      decide (candidateUciBits ≤ m.maxPayload payloads)

end Placement

end DuPucchResourceManager

/-!
## Offsets for SR and CSI

The weights keep the candidates with a full slot behind the others, but for the pairs of Formats 0 and 2 that return
early, with the weight of the last resort.
-/

open OwlsRan.Lib OwlsRan.Sched

namespace DuPucchResourceManager

variable {Rate : Type*} (m : DuPucchResourceManager Rate)

def Coincide (sr : ResOffset m.srPeriodSlots) (csi : ResOffset m.csiPeriodSlots) : Prop :=
  ∃ slot, slot % m.srPeriodSlots = sr.offset ∧ slot % m.csiPeriodSlots = csi.offset

section Occasions

variable {m} {sr : ResOffset m.srPeriodSlots} {csi : ResOffset m.csiPeriodSlots}

lemma csiOffsetCollidesWithSr_iff : m.csiOffsetCollidesWithSr sr.offset csi.offset = true ↔ m.Coincide sr csi := by
  unfold csiOffsetCollidesWithSr
  simp only [List.any_eq_true, beq_iff_eq, mem_wheelOffsets_iff_mod csi.offset_lt, mem_wheelOffsets_iff_mod sr.offset_lt]
  constructor
  · rintro ⟨slot, ⟨-, hcsi⟩, _, ⟨-, hsr⟩, rfl⟩
    exact ⟨slot, hsr, hcsi⟩
  · rintro ⟨slot, hsr, hcsi⟩
    have hlt : slot % m.lcmCsiSrPeriod < m.lcmCsiSrPeriod :=
      Nat.mod_lt _ (Nat.lcm_pos m.srPeriodSlots_pos m.csiPeriodSlots_pos)
    have hsr' : slot % m.lcmCsiSrPeriod % m.srPeriodSlots = sr.offset := by
      rw [lcmCsiSrPeriod, Nat.mod_mod_of_dvd _ (Nat.dvd_lcm_left _ _), hsr]
    have hcsi' : slot % m.lcmCsiSrPeriod % m.csiPeriodSlots = csi.offset := by
      rw [lcmCsiSrPeriod, Nat.mod_mod_of_dvd _ (Nat.dvd_lcm_right _ _), hcsi]
    exact ⟨_, ⟨hlt, hcsi'⟩, _, ⟨hlt, hsr'⟩, rfl⟩

end Occasions

section Weights

variable {m} {cnt : Nat → Nat} {csi : CsiMeasConfig} {srOffset : Nat} {srResCfg : PucchResource}
  {free : List (ResOffset m.csiPeriodSlots)} {c : ResOffset m.csiPeriodSlots}

lemma csiRsReportDelay_lt (csi : CsiMeasConfig) (offset : Nat) : csiRsReportDelay csi offset < csi.csiRsPeriod :=
  Nat.mod_lt _ csi.csiRsPeriod_pos

/-- The delay of a candidate of last resort, with a period of the CSI-RS more where a collision with the SR is seen. -/
def lastResortDelay (m : DuPucchResourceManager Rate) (csi : CsiMeasConfig) (srOffset : Nat) (srResCfg : PucchResource)
    (c : ResOffset m.csiPeriodSlots) : Nat :=
  csiRsReportDelay csi c.offset +
    if m.returnsEarly srResCfg c = false ∧ m.csiOffsetCollidesWithSr srOffset c.offset = true then csi.csiRsPeriod else 0

lemma weightFunction_of_lastResort (h : m.exceedsGrantCnt cnt c = true ∨ m.returnsEarly srResCfg c = true) :
    m.weightFunction cnt csi srOffset srResCfg c = m.lastResortDelay csi srOffset srResCfg c + 2 * csi.csiRsPeriod := by
  unfold weightFunction lastResortDelay
  cases hearly : m.returnsEarly srResCfg c with
  | true => simp
  | false =>
    have hexceeds := h.resolve_right (by rw [hearly]; exact Bool.false_ne_true)
    rw [hexceeds]
    cases hcollides : m.csiOffsetCollidesWithSr srOffset c.offset with
    | true => simp
    | false => simp

lemma weightFunction_lt (hexceeds : m.exceedsGrantCnt cnt c = false) (hearly : m.returnsEarly srResCfg c = false) :
    m.weightFunction cnt csi srOffset srResCfg c < 2 * csi.csiRsPeriod := by
  have hdelay := csiRsReportDelay_lt csi c.offset
  unfold weightFunction
  rw [hexceeds, hearly]
  cases m.csiOffsetCollidesWithSr srOffset c.offset with
  | true =>
    simp only [if_true, Bool.false_eq_true, if_false]
    omega
  | false =>
    simp only [Bool.false_eq_true, if_false]
    omega

lemma findOptimal_eq_none_iff : m.findOptimalCsiReportSlotOffset cnt csi srOffset srResCfg free = some none ↔
    ∃ c, FirstMinimum (m.weightFunction cnt csi srOffset srResCfg) free c ∧ m.exceedsGrantCnt cnt c = true := by
  unfold findOptimalCsiReportSlotOffset
  rw [Option.map_eq_some_iff]
  simp only [minElement_eq_some_iff, ite_eq_left_iff, reduceCtorEq, imp_false, Bool.not_eq_true, Bool.not_eq_false]

lemma findOptimal_eq_some_iff : m.findOptimalCsiReportSlotOffset cnt csi srOffset srResCfg free = some (some c) ↔
    FirstMinimum (m.weightFunction cnt csi srOffset srResCfg) free c ∧ m.exceedsGrantCnt cnt c = false := by
  unfold findOptimalCsiReportSlotOffset
  rw [Option.map_eq_some_iff]
  simp only [minElement_eq_some_iff]
  constructor
  · rintro ⟨c', hmin, hc⟩
    split at hc
    case isTrue => cases hc
    case isFalse hexceeds =>
      obtain rfl := Option.some.inj hc
      exact ⟨hmin, Bool.eq_false_of_not_eq_true hexceeds⟩
  · rintro ⟨hmin, hexceeds⟩
    exact ⟨c, hmin, by rw [hexceeds]; rfl⟩

end Weights

section Claims

variable (payloads : PucchPayloads Rate) (cnt : Nat → Nat) (csi : CsiMeasConfig) (sr : ResOffset m.srPeriodSlots)
  (srResCfg : PucchResource) (free : List (ResOffset m.csiPeriodSlots))

/-- The end of the list is returned when no candidate keeps the limit of grants, else a candidate that keeps it. A pair
that is accepted has room for an SR beside part 1 of the report wherever their occasions coincide. -/
structure PlacementSound : Prop where
  full : m.findOptimalCsiReportSlotOffset cnt csi sr.offset srResCfg free = some none →
    ∀ c ∈ free, m.exceedsGrantCnt cnt c = true
  found : ∀ c, m.findOptimalCsiReportSlotOffset cnt csi sr.offset srResCfg free = some (some c) →
    c ∈ free ∧ m.exceedsGrantCnt cnt c = false
  payload : ∀ c, m.getCsiResourceOffset cnt csi sr.offset srResCfg payloads free = some (some c) → m.Coincide sr c →
    csi.part1Size + 1 ≤ m.maxPayload payloads

/-- The limit decides: every candidate exceeds it, or one that does not exceed it returns no early weight, or it comes
before every candidate that exceeds the limit in the order of the last resort. -/
def LimitDecides : Prop :=
  (∀ c ∈ free, m.exceedsGrantCnt cnt c = true) ∨
    (∃ c ∈ free, m.exceedsGrantCnt cnt c = false ∧ m.returnsEarly srResCfg c = false) ∨
    ∃ before c after, free = before ++ c :: after ∧ m.exceedsGrantCnt cnt c = false ∧
      (∀ d ∈ before, m.exceedsGrantCnt cnt d = true →
        m.lastResortDelay csi sr.offset srResCfg c < m.lastResortDelay csi sr.offset srResCfg d) ∧
      ∀ d ∈ after, m.exceedsGrantCnt cnt d = true →
        m.lastResortDelay csi sr.offset srResCfg c ≤ m.lastResortDelay csi sr.offset srResCfg d

/-- The SR is counted: the largest payload is not just that of part 1, or the first candidate in the order of the weights
coincides with the SR only where the remainders by the lowest period say so. -/
def SrCounted : Prop :=
  csi.part1Size ≠ m.maxPayload payloads ∨
    ∀ c, FirstMinimum (m.weightFunction cnt csi sr.offset srResCfg) free c → m.exceedsGrantCnt cnt c = false →
      m.csiOffsetCollidesWithSr sr.offset c.offset = true → m.srCsiOnTheSameSlot sr.offset c.offset = true

variable {m payloads cnt csi sr srResCfg free}

lemma weightFunction_eq_lastResort (hlast : ∀ d ∈ free, m.exceedsGrantCnt cnt d = false → m.returnsEarly srResCfg d = true)
    {d : ResOffset m.csiPeriodSlots} (hd : d ∈ free) : m.weightFunction cnt csi sr.offset srResCfg d =
      m.lastResortDelay csi sr.offset srResCfg d + 2 * csi.csiRsPeriod := by
  apply weightFunction_of_lastResort
  cases hexceeds : m.exceedsGrantCnt cnt d with
  | true => exact .inl rfl
  | false => exact .inr (hlast d hd hexceeds)

lemma exceeds_eq_false_of_order {c d : ResOffset m.csiPeriodSlots} {before after : List (ResOffset m.csiPeriodSlots)}
    (hlast : ∀ e ∈ before ++ d :: after, m.exceedsGrantCnt cnt e = false → m.returnsEarly srResCfg e = true)
    (hd : m.exceedsGrantCnt cnt d = false)
    (hbefore : ∀ e ∈ before, m.exceedsGrantCnt cnt e = true →
      m.lastResortDelay csi sr.offset srResCfg d < m.lastResortDelay csi sr.offset srResCfg e)
    (hafter : ∀ e ∈ after, m.exceedsGrantCnt cnt e = true →
      m.lastResortDelay csi sr.offset srResCfg d ≤ m.lastResortDelay csi sr.offset srResCfg e)
    (hmin : FirstMinimum (m.weightFunction cnt csi sr.offset srResCfg) (before ++ d :: after) c) :
    m.exceedsGrantCnt cnt c = false := by
  have hmem : d ∈ before ++ d :: after := List.mem_append_right _ List.mem_cons_self
  have hweight : m.weightFunction cnt csi sr.offset srResCfg d = _ := weightFunction_eq_lastResort hlast hmem
  have hle := hmin.le hmem
  rw [weightFunction_eq_lastResort hlast hmin.mem, hweight] at hle
  by_contra hexceeds
  rw [Bool.not_eq_false] at hexceeds
  rcases hmin.cases with hc | rfl | ⟨hc, hlt⟩
  · have := hbefore c hc hexceeds
    omega
  · rw [hd] at hexceeds
    cases hexceeds
  · rw [weightFunction_eq_lastResort hlast hmin.mem, hweight] at hlt
    have := hafter c hc hexceeds
    omega

lemma full_iff :
    (m.findOptimalCsiReportSlotOffset cnt csi sr.offset srResCfg free = some none →
      ∀ c ∈ free, m.exceedsGrantCnt cnt c = true) ↔ m.LimitDecides cnt csi sr srResCfg free := by
  constructor
  · intro hfull
    by_cases hall : ∀ c ∈ free, m.exceedsGrantCnt cnt c = true
    · exact .inl hall
    · by_cases hfirst : ∃ c ∈ free, m.exceedsGrantCnt cnt c = false ∧ m.returnsEarly srResCfg c = false
      · exact .inr (.inl hfirst)
      · have hlast : ∀ d ∈ free, m.exceedsGrantCnt cnt d = false → m.returnsEarly srResCfg d = true := by
          intro d hd hexceeds
          by_contra hearly
          exact hfirst ⟨d, hd, hexceeds, Bool.eq_false_of_not_eq_true hearly⟩
        have hne : free ≠ [] := fun hnil => hall (by rw [hnil]; exact fun c hc => absurd hc List.not_mem_nil)
        cases hmin : minElement (m.weightFunction cnt csi sr.offset srResCfg) free with
        | none => exact absurd hmin (minElement_ne_none hne)
        | some c =>
          have hc := minElement_eq_some_iff.mp hmin
          have hexceeds : m.exceedsGrantCnt cnt c = false := by
            by_contra hexceeds
            exact hall (hfull (findOptimal_eq_none_iff.mpr ⟨c, hc, Bool.eq_true_of_not_eq_false hexceeds⟩))
          obtain ⟨before, after, rfl, hbefore, hafter⟩ := hc
          refine .inr (.inr ⟨before, c, after, rfl, hexceeds, fun d hd _ => ?_, fun d hd _ => ?_⟩)
          · have hlt := hbefore d hd
            rw [weightFunction_eq_lastResort hlast (List.mem_append_right _ List.mem_cons_self),
              weightFunction_eq_lastResort hlast (List.mem_append_left _ hd)] at hlt
            omega
          · have hle := hafter d hd
            rw [weightFunction_eq_lastResort hlast (List.mem_append_right _ List.mem_cons_self),
              weightFunction_eq_lastResort hlast (List.mem_append_right _ (List.mem_cons_of_mem c hd))] at hle
            omega
  · intro hdecides hend
    obtain ⟨c, hmin, hexceeds⟩ := findOptimal_eq_none_iff.mp hend
    -- A candidate that keeps the limit and has a weight below the last resort is preferred.
    have hlast : ∀ d ∈ free, m.exceedsGrantCnt cnt d = false → m.returnsEarly srResCfg d = true := by
      intro d hd hwithin
      by_contra hearly
      have hlt : m.weightFunction cnt csi sr.offset srResCfg d < _ :=
        weightFunction_lt hwithin (Bool.eq_false_of_not_eq_true hearly)
      have hle := hmin.le hd
      rw [weightFunction_of_lastResort (.inl hexceeds)] at hle
      omega
    rcases hdecides with hall | ⟨d, hd, hwithin, hearly⟩ | ⟨before, d, after, rfl, hwithin, hbefore, hafter⟩
    · exact hall
    · rw [hlast d hd hwithin] at hearly
      cases hearly
    · rw [exceeds_eq_false_of_order hlast hwithin hbefore hafter hmin] at hexceeds
      cases hexceeds

lemma payload_iff :
    (∀ c, m.getCsiResourceOffset cnt csi sr.offset srResCfg payloads free = some (some c) → m.Coincide sr c →
      csi.part1Size + 1 ≤ m.maxPayload payloads) ↔ m.SrCounted payloads cnt csi sr srResCfg free := by
  have haccepted (c : ResOffset m.csiPeriodSlots) :
      m.getCsiResourceOffset cnt csi sr.offset srResCfg payloads free = some (some c) ↔
        (FirstMinimum (m.weightFunction cnt csi sr.offset srResCfg) free c ∧ m.exceedsGrantCnt cnt c = false) ∧
          (m.srCsiOnTheSameSlot sr.offset c.offset).toNat + csi.part1Size ≤ m.maxPayload payloads := by
    rw [← findOptimal_eq_some_iff, getCsiResourceOffset, Option.map_eq_some_iff]
    constructor
    · rintro ⟨optimal, hfind, hfilter⟩
      obtain ⟨rfl, hfits⟩ := Option.filter_eq_some_iff.mp hfilter
      exact ⟨hfind, of_decide_eq_true hfits⟩
    · rintro ⟨hfind, hfits⟩
      exact ⟨some c, hfind, Option.filter_eq_some_iff.mpr ⟨rfl, decide_eq_true hfits⟩⟩
  constructor
  · intro hpayload
    by_cases hsize : csi.part1Size = m.maxPayload payloads
    · refine .inr fun c hmin hwithin hcollides => ?_
      by_contra hdiffer
      have hfits : (m.srCsiOnTheSameSlot sr.offset c.offset).toNat + csi.part1Size ≤ m.maxPayload payloads := by
        rw [Bool.eq_false_of_not_eq_true hdiffer, Bool.toNat_false, hsize]
        omega
      have hroom := hpayload c ((haccepted c).mpr ⟨⟨hmin, hwithin⟩, hfits⟩) (csiOffsetCollidesWithSr_iff.mp hcollides)
      omega
    · exact .inl hsize
  · intro hcounted c hget hcoincide
    obtain ⟨⟨hmin, hwithin⟩, hfits⟩ := (haccepted c).mp hget
    cases hsame : m.srCsiOnTheSameSlot sr.offset c.offset with
    | true =>
      rw [hsame, Bool.toNat_true] at hfits
      omega
    | false =>
      rw [hsame, Bool.toNat_false] at hfits
      rcases hcounted with hsize | hcounted
      · omega
      · have hcollides := csiOffsetCollidesWithSr_iff.mpr hcoincide
        rw [hcounted c hmin hwithin hcollides] at hsame
        cases hsame

/-- The placement is sound where the limit decides and the SR is counted. -/
theorem placement_sound_iff : m.PlacementSound payloads cnt csi sr srResCfg free ↔
    m.LimitDecides cnt csi sr srResCfg free ∧ m.SrCounted payloads cnt csi sr srResCfg free := by
  constructor
  · intro h
    exact ⟨full_iff.mp h.full, payload_iff.mp h.payload⟩
  · rintro ⟨hlimit, hcounted⟩
    refine ⟨full_iff.mpr hlimit, fun c hfind => ?_, payload_iff.mpr hcounted⟩
    obtain ⟨hmin, hwithin⟩ := findOptimal_eq_some_iff.mp hfind
    exact ⟨hmin.mem, hwithin⟩

end Claims

/-! Cells with a limit of one grant in a slot, for the two defects. -/

namespace PlacementExample

def srRes : PucchResource := ⟨0, 0, none, 2, 12, .format0 0⟩

def csiRes : PucchResource := ⟨1, 1, none, 2, 0, .format2 1⟩

def manager (srPeriodSlots csiPeriodSlots : Nat) (hsr : 0 < srPeriodSlots) (hcsi : 0 < csiPeriodSlots) :
    DuPucchResourceManager Nat :=
  ⟨⟨0, 0, 1, 1, .f2 1 1⟩, fun i => if i = 0 then srRes else csiRes, 25, 1, srPeriodSlots, csiPeriodSlots, hsr, hcsi⟩

def payloads : PucchPayloads Nat where
  getPucchFormat2MaxPayload maxNofPrbs nofSymbols maxCodeRate :=
    let capacity := 8 * nofSymbols * 2 * maxNofPrbs * maxCodeRate / 100
    if capacity < 18 then min capacity 11 else if capacity < 31 then min (capacity - 6) 19 else capacity - 11
  getPucchFormat3MaxPayload _ _ _ _ _ _ := 0
  getPucchFormat4MaxPayload _ _ _ _ _ _ := 0

def csi : CsiMeasConfig := ⟨20, 0, 4, by decide⟩

def equalPeriods : DuPucchResourceManager Nat := manager 20 20 (by decide) (by decide)

lemma eight_pos : 0 < 8 := by decide

def otherPeriods : DuPucchResourceManager Nat := manager 8 20 eight_pos (by decide)

def grantInSlot4 (slot : Nat) : Nat := if slot = 4 then 1 else 0

end PlacementExample

open PlacementExample in
/-- Offset 4 is full, and preferred to offset 5. With periods of 8 and 20, the occasions of offsets 0 and 4 meet in slot 24,
and a report of 4 bits is accepted for a payload of 4 bits. -/
theorem placement_not_sound :
    ¬equalPeriods.PlacementSound payloads grantInSlot4 csi ⟨0, 0, by decide⟩ srRes
        [⟨0, 4, by decide⟩, ⟨0, 5, by decide⟩] ∧
      ¬otherPeriods.PlacementSound payloads (fun _ => 0) csi ⟨0, 0, by decide⟩ srRes [⟨0, 4, by decide⟩] := by
  constructor
  · intro h
    have hfull := h.full (by decide +kernel) ⟨0, 5, by decide⟩ (List.mem_cons_of_mem _ List.mem_cons_self)
    revert hfull
    decide +kernel
  · intro h
    have hroom := h.payload ⟨0, 4, by decide⟩ (by decide +kernel) ⟨24, rfl, rfl⟩
    revert hroom
    decide

end DuPucchResourceManager

end OwlsRan.Du
