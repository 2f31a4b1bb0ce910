import OwlsRan.Sched.PdcchSlotAllocator
import OwlsRan.Sched.PuschCfgValidation
import OwlsRan.Sched.RaScheduler

/-!
# Retransmissions of Msg3

`schedule_msg3_retx` goes through the PUSCH time domain resources. An attempt takes a PDCCH, RBs of the PUSCH slot and
the HARQ process one after the other.
-/

namespace OwlsRan.Sched

open OwlsRan.Adt OwlsRan.Lib OwlsRan.Ran

inductive DciUlRntiConfigType where
  | tcRntiF00
  | cRntiF00
  | cRntiF01
deriving DecidableEq

/-- `dci_0_0_tc_rnti_configuration` -/
structure DciF00TcRnti where
  payloadSize : Nat
  nUlHop : Nat
  hoppingOffset : Nat
  frequencyHoppingFlag : Nat
  frequencyResource : Nat
  timeResource : Nat
  modulationCodingScheme : Nat
  redundancyVersion : Nat
  tpcCommand : Nat
deriving DecidableEq

/-- `pdcch_ul_information`, without the CCE. -/
structure Msg3Pdcch where
  rnti : Nat
  dci : Option DciF00TcRnti
deriving DecidableEq

/-- `pusch_information`, without the fields that are the same for all Msg3s of a cell. -/
structure Msg3PuschInformation where
  rnti : Nat
  rbs : UnsignedInterval
  symbols : UnsignedInterval
  mcsIndex : Nat
  rvIndex : Nat
  harqId : Nat
  newData : Bool
  tbSizeBytes : Nat
deriving DecidableEq

/-- `ul_sched_info` -/
structure Msg3SchedInfo where
  ssId : Nat
  k2 : Nat
  nofRetxs : Nat
  puschCfg : Msg3PuschInformation
deriving DecidableEq

structure UlGrantParams where
  dciCfgType : DciUlRntiConfigType
  tbsBytes : Nat
  mcs : Nat
  rbs : UnsignedInterval
  nofSymbols : Nat
deriving DecidableEq

/-- The cell, and what is precomputed for Msg3s. A TDD pattern is given by the symbols of each slot; `pdcchRequest` are
the candidates of the RA search space, at aggregation level 4. -/
structure Msg3Config where
  nofDlSymbolPerSlot : SlotPoint → Nat
  nofUlSymbolPerSlot : SlotPoint → Nat
  ntnCsKoffset : Nat
  initUlBwpNumerology : Nat
  initUlBwpCrbs : UnsignedInterval
  dciPayloadSize : Nat
  puschTdAllocList : List PuschTimeDomainResourceAllocation
  msg3Pusch : Nat → Msg3PuschInformation
  raSearchSpaceId : Nat
  raFirstSymbolIndex : Nat
  isPdcchMonitoringActive : SlotPoint → Bool
  pdcchRequest : PdcchRequest
  harq : HarqConfig
  /-- `precompute_msg3_pdus` -/
  msg3Pusch_symbols : ∀ (i : Nat) (td : PuschTimeDomainResourceAllocation), puschTdAllocList[i]? = some td →
    (msg3Pusch i).symbols = td.symbols

structure Msg3UlSlot where
  puschs : List Msg3SchedInfo
  ulResGrid : Finset ResourceElement
deriving DecidableEq

/-- What `schedule_msg3_retx` works on: the PDCCHs of the current slot with their DCIs, the UL slots by their distance
from the current one, and the HARQs. -/
structure Msg3Resources where
  pdcch : PdcchSlot
  ulPdcchs : List Msg3Pdcch
  ulSlots : Nat → Msg3UlSlot
  harqs : CellHarqRepository Unit
  grantParams : HarqRef → UlGrantParams

inductive Msg3Abort where
  | pdcch (a : PdcchAbort)
  | harq (a : HarqAbort)
  | dciTypeChanged
  | tbsChanged
deriving DecidableEq

def slivFromSAndL (n s l : Nat) : Nat := if l - 1 ≤ n / 2 then n * (l - 1) + s else n * (n - l + 1) + (n - 1 - s)

namespace Msg3Config

variable (cfg : Msg3Config)

def isDlEnabled (sl : SlotPoint) : Bool := decide (0 < cfg.nofDlSymbolPerSlot sl)

def isUlEnabled (sl : SlotPoint) : Bool := decide (0 < cfg.nofUlSymbolPerSlot sl)

def msg3VrbToCrb (vrbs : UnsignedInterval) : UnsignedInterval :=
  ⟨vrbs.start + cfg.initUlBwpCrbs.start, vrbs.stop + cfg.initUlBwpCrbs.start, Nat.add_le_add_right vrbs.valid _⟩

def grantElements (symbols crbs : UnsignedInterval) : Finset ResourceElement :=
  (Finset.range symbols.length ×ˢ Finset.range crbs.length).image fun p =>
    ⟨cfg.initUlBwpNumerology, symbols.start + p.1, crbs.start + p.2⟩

/-- `build_dci_f0_0_tc_rnti`, for CRBs in the BWP. -/
def buildDciF00TcRnti (crbs : UnsignedInterval) (timeResource mcsIndex rv : Nat) : DciF00TcRnti where
  payloadSize := cfg.dciPayloadSize
  nUlHop := 0
  hoppingOffset := 0
  frequencyHoppingFlag := 0
  frequencyResource := slivFromSAndL cfg.initUlBwpCrbs.length (crbs.start - cfg.initUlBwpCrbs.start) crbs.length
  timeResource := timeResource
  modulationCodingScheme := mcsIndex
  redundancyVersion := rv
  tpcCommand := 1

def puschDelay (td : PuschTimeDomainResourceAllocation) : Nat := td.k2 + cfg.ntnCsKoffset

end Msg3Config

def MSG3_RV : Nat := 0

namespace Msg3Resources

variable (cfg : Msg3Config) (slot : SlotPoint) (tcRnti : Nat) (h : HarqRef) (s : Msg3Resources)

def ulSlot (td : PuschTimeDomainResourceAllocation) : Msg3UlSlot := s.ulSlots (cfg.puschDelay td)

def grantOf (td : PuschTimeDomainResourceAllocation) : Finset ResourceElement :=
  cfg.grantElements td.symbols (cfg.msg3VrbToCrb (s.grantParams h).rbs)

def canUse (td : PuschTimeDomainResourceAllocation) : Bool :=
  let puschSlot := slot.add (cfg.puschDelay td)
  cfg.isUlEnabled puschSlot &&
    decide (NOF_OFDM_SYM_PER_SLOT_NORMAL_CP - cfg.nofUlSymbolPerSlot puschSlot ≤ td.symbols.start) &&
    decide (td.symbols.length = (s.grantParams h).nofSymbols) &&
    decide ((s.ulSlot cfg td).puschs.length < MAX_PUSCH_PDUS_PER_SLOT) &&
    decide (Disjoint (s.grantOf cfg h td) (s.ulSlot cfg td).ulResGrid)

/-- `alloc_ul_pdcch_common`. The DCI of the new PDCCH is not set. -/
def allocUlPdcchCommon : Except Msg3Abort (Bool × Msg3Resources) :=
  if cfg.isPdcchMonitoringActive slot then
    match s.pdcch.allocUlPdcchHelper cfg.pdcchRequest with
    | .error a => .error (.pdcch a)
    | .ok (true, pdcch) => .ok (true, { s with pdcch, ulPdcchs := s.ulPdcchs ++ [⟨tcRnti, none⟩] })
    | .ok (false, pdcch) => .ok (false, { s with pdcch })
  else .ok (false, s)

def setUlSlot (delay : Nat) (ul : Msg3UlSlot) : Msg3Resources :=
  { s with ulSlots := fun d => if d = delay then ul else s.ulSlots d }

def setDci (dci : DciF00TcRnti) : Msg3Resources :=
  { s with ulPdcchs := s.ulPdcchs.modify (s.ulPdcchs.length - 1) fun p => { p with dci := some dci } }

def retxPusch (i : Nat) : Msg3PuschInformation :=
  { cfg.msg3Pusch i with rnti := tcRnti, rbs := (s.grantParams h).rbs, rvIndex := MSG3_RV, newData := false }

/-- `save_grant_params`, of a retransmission. -/
def saveGrantParams (pusch : Msg3PuschInformation) : Except Msg3Abort Msg3Resources :=
  let prev := s.grantParams h
  if prev.dciCfgType ≠ .tcRntiF00 then .error .dciTypeChanged
  else if prev.tbsBytes ≠ pusch.tbSizeBytes then .error .tbsChanged
  else
    .ok { s with
      grantParams := fun g =>
        if g = h then { prev with mcs := pusch.mcsIndex, rbs := pusch.rbs, nofSymbols := pusch.symbols.length }
        else s.grantParams g }

def fillRetx (i : Nat) (td : PuschTimeDomainResourceAllocation) : Except Msg3Abort Msg3Resources :=
  let crbs := cfg.msg3VrbToCrb (s.grantParams h).rbs
  let pusch := s.retxPusch cfg tcRnti h i
  let info : Msg3SchedInfo := ⟨cfg.raSearchSpaceId, td.k2, (s.harqs.harq h).nofRetxs, pusch⟩
  let s := s.setDci (cfg.buildDciF00TcRnti crbs i (s.grantParams h).mcs MSG3_RV)
  let ul := s.ulSlot cfg td
  (s.setUlSlot (cfg.puschDelay td) { ul with puschs := ul.puschs ++ [info] }).saveGrantParams h pusch

/-- The loop over the resources. -/
def retxLoop : List (PuschTimeDomainResourceAllocation × Nat) → Msg3Resources → Except Msg3Abort Msg3Resources
  | [], s => .ok s
  | (td, i) :: rest, s =>
    if s.canUse cfg slot h td = false then retxLoop rest s
    else
      match s.allocUlPdcchCommon cfg slot tcRnti with
      | .error a => .error a
      | .ok (false, s) => retxLoop rest s
      | .ok (true, s) =>
        if cfg.nofDlSymbolPerSlot slot < cfg.raFirstSymbolIndex + cfg.pdcchRequest.duration then .ok s
        else
          let ul := s.ulSlot cfg td
          let s := s.setUlSlot (cfg.puschDelay td) { ul with ulResGrid := ul.ulResGrid ∪ s.grantOf cfg h td }
          let puschSlot := slot.add (cfg.puschDelay td)
          match s.harqs.handleNewRetx cfg.harq h puschSlot puschSlot with
          | .error a => .error (.harq a)
          | .ok (harqs, false) => retxLoop rest { s with harqs }
          | .ok (harqs, true) => { s with harqs }.fillRetx cfg tcRnti h i td

def scheduleMsg3Retx : Except Msg3Abort Msg3Resources :=
  if cfg.isDlEnabled slot = false then .ok s
  else if MAX_UL_PDCCH_PDUS_PER_SLOT ≤ s.pdcch.ulPdcchs.length then .ok s
  else retxLoop cfg slot tcRnti h cfg.puschTdAllocList.zipIdx s

end Msg3Resources

end OwlsRan.Sched
