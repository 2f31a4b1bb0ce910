import Mathlib.Tactic.Lemma
import Mathlib.Tactic.TypeStar
import OwlsRan.Adt.BitsetRange
import OwlsRan.Adt.UnsignedInterval
import OwlsRan.Sched.CarrierResourceGrid
import OwlsRan.Sched.ResourceGrid

/-!
# Free CRBs of a slot

The grid of a slot is the set of the elements that it has filled. `used_crbs` has a bit for each RB of the carrier and
reads it as a CRB, so that a search for free CRBs is for a carrier without an offset.
-/

namespace OwlsRan.Sched

open OwlsRan.Adt

/-- The elements of a `grant_info`. -/
def grantElements (numerology : Nat) (symbols crbs : UnsignedInterval) : Finset ResourceElement :=
  (Finset.range symbols.length ×ˢ Finset.range crbs.length).image fun p =>
    ⟨numerology, symbols.start + p.1, crbs.start + p.2⟩

def isRbUsed (carrier : ScsSpecificCarrier) (numerology : Nat) (grid : Finset ResourceElement) (symbols : UnsignedInterval)
    (rb : Nat) : Bool :=
  (CarrierResourceGrid.symbolList symbols).any fun symbol =>
    decide (⟨numerology, symbol, carrier.offsetToCarrier + rb⟩ ∈ grid)

/-- `used_crbs`: what is outside the limits is used, too. -/
def usedCrbs (carrier : ScsSpecificCarrier) (numerology : Nat) (grid : Finset ResourceElement)
    (crbLims symbols : UnsignedInterval) : BoundedBitset MAX_NOF_PRBS where
  bits := (List.range carrier.carrierBandwidth).map fun rb =>
    !crbLims.contains rb || isRbUsed carrier numerology grid symbols rb
  bounded := by
    rw [List.length_map, List.length_range]
    exact carrier.bandwidth_le

section Used

variable {carrier : ScsSpecificCarrier} {numerology : Nat} {grid : Finset ResourceElement}
  {crbLims symbols crbs : UnsignedInterval} {rb : Nat}

lemma size_usedCrbs : (usedCrbs carrier numerology grid crbLims symbols).size = carrier.carrierBandwidth := by
  unfold usedCrbs BoundedBitset.size
  rw [List.length_map, List.length_range]

lemma bit_usedCrbs (hrb : rb < carrier.carrierBandwidth) :
    (usedCrbs carrier numerology grid crbLims symbols).bit rb =
      (!crbLims.contains rb || isRbUsed carrier numerology grid symbols rb) := by
  unfold usedCrbs BoundedBitset.bit
  rw [List.getD_eq_getElem?_getD, List.getElem?_map, List.getElem?_range hrb]
  rfl

end Used

/-!
## The PRBs of a transport block

`get_nof_prbs` starts from an estimate of the PRBs and searches linearly for the PRBs whose TBS holds the payload. The TBS
of PRBs and the estimate are parameters.
-/

open OwlsRan.Adt

variable {Mcs : Type*}

/-- `prbs_calculator_sch_config`, with a scaling field of 0. -/
structure PrbsCalculatorSchConfig (Mcs : Type*) where
  payloadSizeBytes : Nat
  nofSymbSh : Nat
  nofDmrsPrb : Nat
  nofOhPrb : Nat
  mcsDescr : Mcs
  nofLayers : Nat

/-- `tbs_calculator_configuration`, with a scaling field of 0. -/
structure TbsCalculatorConfiguration (Mcs : Type*) where
  nofSymbSh : Nat
  nofDmrsPrb : Nat
  nofOhPrb : Nat
  mcsDescr : Mcs
  nofLayers : Nat
  nPrb : Nat

/-- `tbs_calculator_calculate` and `estimate_required_nof_prbs` -/
structure TbsCalculator (Mcs : Type*) where
  calculate : TbsCalculatorConfiguration Mcs → Nat
  estimateRequiredNofPrbs : PrbsCalculatorSchConfig Mcs → Nat → Nat

structure SchPrbsTbs where
  nofPrbs : Nat
  tbsBytes : Nat
deriving DecidableEq

structure PdschTimeDomainResourceAllocation where
  k0 : Nat
  symbols : UnsignedInterval
deriving DecidableEq

/-- The functions for the PDSCH of a cell. `makeDmrsInfoCommon` is for a row of a time domain list. -/
structure PdschFunctions (Mcs Dmrs : Type) where
  pdschMcsGetConfig : Nat → Mcs
  makeDmrsInfoCommon : PdschTimeDomainResourceAllocation → Dmrs
  calculateNofDmrsPerRb : Dmrs → Nat
  tbs : TbsCalculator Mcs

namespace PrbsCalculatorSchConfig

def tbsCfg (cfg : PrbsCalculatorSchConfig Mcs) (nPrb : Nat) : TbsCalculatorConfiguration Mcs :=
  ⟨cfg.nofSymbSh, cfg.nofDmrsPrb, cfg.nofOhPrb, cfg.mcsDescr, cfg.nofLayers, nPrb⟩

end PrbsCalculatorSchConfig

def NOF_BITS_PER_BYTE : Nat := 8

/-- The default of `max_nof_available_rbs`. -/
def maxNofAvailableRbs : Nat := 273

def maxPrbIncIterations : Nat := 5

namespace TbsCalculator

variable (tbs : TbsCalculator Mcs) (cfg : PrbsCalculatorSchConfig Mcs) (estimate : Nat)

def tbsBits (nPrb : Nat) : Nat := tbs.calculate (cfg.tbsCfg nPrb)

def payloadSizeBits : Nat := cfg.payloadSizeBytes * NOF_BITS_PER_BYTE

/-- The first loop of `linear_search_nof_prbs_upper_bound`, with the TBS of the PRBs of the last turn. The result is
returned at once when the TBS has become too small. -/
def decreaseLoop : Nat → Nat → Nat → Nat → SchPrbsTbs ⊕ Nat × Nat
  | 0, _, nPrb, tbsBitsUb => .inr (nPrb, tbsBitsUb)
  | fuel + 1, nofPrbDec, nPrb, tbsBitsUb =>
    if nofPrbDec < nPrb ∧ payloadSizeBits cfg ≤ tbsBitsUb then
      let nPrb := estimate - nofPrbDec
      let tbsBitsLb := tbs.tbsBits cfg nPrb
      if tbsBitsLb < payloadSizeBits cfg then .inl ⟨nPrb + 1, tbsBitsUb / NOF_BITS_PER_BYTE⟩
      else decreaseLoop fuel (nofPrbDec + 1) nPrb tbsBitsLb
    else .inr (nPrb, tbsBitsUb)

def increaseLoop : Nat → Nat → Nat → Nat → Nat × Nat
  | 0, _, nPrb, tbsBitsUb => (nPrb, tbsBitsUb)
  | fuel + 1, nofPrbInc, nPrb, tbsBitsUb =>
    if nofPrbInc < maxPrbIncIterations ∧ tbsBitsUb < payloadSizeBits cfg ∧ nPrb < maxNofAvailableRbs then
      let nPrb := estimate + nofPrbInc
      increaseLoop fuel (nofPrbInc + 1) nPrb (tbs.tbsBits cfg nPrb)
    else (nPrb, tbsBitsUb)

/-- `linear_search_nof_prbs_upper_bound`. The first loop takes a PRB away in each turn. -/
def linearSearchNofPrbsUpperBound : SchPrbsTbs :=
  match tbs.decreaseLoop cfg estimate estimate 1 estimate (tbs.tbsBits cfg estimate) with
  | .inl res => res
  | .inr (nPrb, tbsBitsUb) =>
    let res := tbs.increaseLoop cfg estimate maxPrbIncIterations 1 nPrb tbsBitsUb
    ⟨res.1, res.2 / NOF_BITS_PER_BYTE⟩

def getNofPrbs : SchPrbsTbs :=
  tbs.linearSearchNofPrbsUpperBound cfg (tbs.estimateRequiredNofPrbs cfg maxNofAvailableRbs)

variable {tbs cfg estimate} {fuel nofPrbDec nofPrbInc nPrb tbsBitsUb : Nat}

lemma decreaseLoop_spec (hprb : nPrb + nofPrbDec = estimate + 1) (hub : tbsBitsUb = tbs.tbsBits cfg nPrb) :
    (∀ res, tbs.decreaseLoop cfg estimate fuel nofPrbDec nPrb tbsBitsUb = .inl res →
      res.tbsBytes = tbs.tbsBits cfg res.nofPrbs / NOF_BITS_PER_BYTE) ∧
      ∀ res, tbs.decreaseLoop cfg estimate fuel nofPrbDec nPrb tbsBitsUb = .inr res → res.2 = tbs.tbsBits cfg res.1 := by
  induction fuel generalizing nofPrbDec nPrb tbsBitsUb with
  | zero =>
    refine ⟨(fun res h => nomatch h), fun res h => ?_⟩
    rw [← Sum.inr.inj h]
    exact hub
  | succ fuel ih =>
    rw [decreaseLoop]
    by_cases hturn : nofPrbDec < nPrb ∧ payloadSizeBits cfg ≤ tbsBitsUb
    · rw [if_pos hturn]
      dsimp only
      by_cases hsmall : tbs.tbsBits cfg (estimate - nofPrbDec) < payloadSizeBits cfg
      · rw [if_pos hsmall]
        have hprev : estimate - nofPrbDec + 1 = nPrb := by omega
        refine ⟨fun res h => ?_, (fun res h => nomatch h)⟩
        rw [← Sum.inl.inj h, hprev, hub]
      · rw [if_neg hsmall]
        exact ih (by omega) rfl
    · rw [if_neg hturn]
      refine ⟨(fun res h => nomatch h), fun res h => ?_⟩
      rw [← Sum.inr.inj h]
      exact hub

lemma increaseLoop_spec (hub : tbsBitsUb = tbs.tbsBits cfg nPrb) :
    (tbs.increaseLoop cfg estimate fuel nofPrbInc nPrb tbsBitsUb).2 =
      tbs.tbsBits cfg (tbs.increaseLoop cfg estimate fuel nofPrbInc nPrb tbsBitsUb).1 := by
  induction fuel generalizing nofPrbInc nPrb tbsBitsUb with
  | zero => exact hub
  | succ fuel ih =>
    rw [increaseLoop]
    split
    · exact ih rfl
    · exact hub

/-- The TBS is that of the PRBs. -/
theorem getNofPrbs_tbsBytes (tbs : TbsCalculator Mcs) (cfg : PrbsCalculatorSchConfig Mcs) :
    (tbs.getNofPrbs cfg).tbsBytes = tbs.tbsBits cfg (tbs.getNofPrbs cfg).nofPrbs / NOF_BITS_PER_BYTE := by
  unfold getNofPrbs linearSearchNofPrbsUpperBound
  split
  case h_1 res hres => exact (decreaseLoop_spec rfl rfl).1 res hres
  case h_2 nPrb tbsBitsUb hres =>
    have hub : tbsBitsUb = tbs.tbsBits cfg nPrb := (decreaseLoop_spec rfl rfl).2 _ hres
    dsimp only
    rw [increaseLoop_spec hub]

end TbsCalculator

end OwlsRan.Sched
