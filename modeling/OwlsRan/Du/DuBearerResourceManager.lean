import OwlsRan.Adt.FlatMap
import OwlsRan.Pdcp.PdcpSn
import Mathlib.Data.List.Sort

/-!
# The bearers of a DU UE

The DU gives each DRB of a UE a logical channel id, and the configuration that belongs to its 5QI. Failed assertions
abort.
-/

namespace OwlsRan.Du
open OwlsRan.Adt OwlsRan.Lib OwlsRan.Pdcp

def LCID_SRB2 : Nat := 2

def LCID_MIN_DRB : Nat := 4

def LCID_MAX_DRB : Nat := 32

def INVALID_LCID : Nat := 64

def MAX_NOF_DRBS : Nat := 29

inductive RlcMode where
  | tm
  | umBidir
  | umUnidirUl
  | umUnidirDl
  | am
deriving DecidableEq

/-- `rlc_config`, of which the other parameters are only copied. An invalid SN size is `none`. -/
structure RlcConfig where
  mode : RlcMode
  umTxPdcpSnLen : Option PdcpSnSize
  amTxPdcpSnLen : Option PdcpSnSize
deriving DecidableEq

def makeDefaultSrbRlcConfig : RlcConfig := ⟨.am, none, some .size12bits⟩

structure MacLcConfig where
  priority : Nat
  /-- In kB/s, `INFINITY_PBR` for no limit. -/
  pbr : Nat
  bsd : Nat
  lcgId : Nat
  lcSrMask : Bool
  srId : Nat
  lcSrDelayApplied : Bool
deriving DecidableEq

def INFINITY_PBR : Nat := 65537

def makeDefaultSrbMacLcConfig (lcid : Nat) : MacLcConfig :=
  ⟨if lcid = LCID_SRB2 then 3 else 1, INFINITY_PBR, 5, 0, false, 0, false⟩

def makeDefaultDrbMacLcConfig : MacLcConfig := ⟨5, 0, 300, 2, false, 0, false⟩

def pbrKBps : List Nat := [0, 8, 16, 32, 64, 128, 256, 512, 1024, 2048, 4096, 8192, 16384, 32768, 65536]

def getPbrCeil (bitrateBps : Nat) : Nat :=
  (pbrKBps.find? fun pbr => decide (bitrateBps / (1000 * 8) ≤ pbr)).getD INFINITY_PBR

structure GbrQosFlowInformation where
  maxBrDl : Nat
  maxBrUl : Nat
  gbrDl : Nat
  gbrUl : Nat
deriving DecidableEq

def makeGbrDrbMacLcConfig (info : GbrQosFlowInformation) : MacLcConfig :=
  { makeDefaultDrbMacLcConfig with priority := 4, lcgId := 1, pbr := getPbrCeil info.gbrUl }

def makeNonGbrDrbMacLcConfig : MacLcConfig := { makeDefaultDrbMacLcConfig with pbr := 8 }

structure QosFlowLevelQosParameters where
  /-- `get_5qi` -/
  fiveQi : Nat
  gbrQosInfo : Option GbrQosFlowInformation
deriving DecidableEq

structure SNssai where
  sst : Nat
  sd : Nat
deriving DecidableEq

structure F1uConfig where
  tNotify : Nat
  rlcQueueBytesLimit : Nat
  warnOnDrop : Bool
  bufferUlOnStartup : Bool
  ulBufferSize : Nat
deriving DecidableEq

structure DuQosConfig where
  rlc : RlcConfig
  f1u : F1uConfig
deriving DecidableEq

structure UpTransportLayerInfo where
  tpAddress : String
  gtpTeid : Nat
deriving DecidableEq

structure F1apDrbToSetup where
  drbId : Nat
  mode : RlcMode
  uluptnlInfoList : List UpTransportLayerInfo
  pdcpSnLen : Option PdcpSnSize
  drbQos : QosFlowLevelQosParameters
  sNssai : SNssai
deriving DecidableEq

structure F1apDrbToModify where
  drbId : Nat
  uluptnlInfoList : List UpTransportLayerInfo
deriving DecidableEq

structure DuUeSrbConfig where
  srbId : Nat
  rlcCfg : RlcConfig
  macCfg : MacLcConfig
deriving DecidableEq

structure DuUeDrbConfig where
  drbId : Nat
  lcid : Nat
  pdcpSnLen : Option PdcpSnSize
  sNssai : SNssai
  qos : QosFlowLevelQosParameters
  f1u : F1uConfig
  rlcCfg : RlcConfig
  macCfg : MacLcConfig
deriving DecidableEq

/-- The bearers of `du_ue_resource_config`; a table indexed by an id is a map whose iteration follows the ids. -/
structure DuUeResourceConfig where
  srbs : FlatMap DuUeSrbConfig
  drbs : FlatMap DuUeDrbConfig
deriving DecidableEq

inductive BearerAbort where
  /-- More DRBs than `used_lcids` has room for. -/
  | usedLcids
  | qosConfig
deriving DecidableEq

/-- What `std::adjacent_find` finds. -/
def adjacentFind (p : Nat → Nat → Bool) : List Nat → Option Nat
  | l :: r :: rest => if p l r then some l else adjacentFind p (r :: rest)
  | _ => none

def findEmptyLcid (drbs : FlatMap DuUeDrbConfig) : Except BearerAbort Nat :=
  if MAX_NOF_DRBS < drbs.size then .error .usedLcids
  else
    match (drbs.entries.map fun drb => drb.2.lcid).insertionSort (· ≤ ·) with
    | [] => .ok LCID_MIN_DRB
    | first :: usedLcids =>
      if LCID_MIN_DRB < first then .ok LCID_MIN_DRB
      else
        -- the beginning of the first gap, or the last value
        let it := (adjacentFind (fun l r => decide (l + 1 < r)) (first :: usedLcids)).getD
          ((first :: usedLcids).getLast (List.cons_ne_nil _ _))
        if LCID_MAX_DRB < (it + 1) % 2 ^ 16 then .ok INVALID_LCID else .ok ((it + 1) % 2 ^ 16)

inductive DrbRequestError where
  | fiveQi
  | rlcMode
  | noUlUpTnlInfo
  | exists
  | notFound
deriving DecidableEq

def validateDrbSetupRequest (drb : F1apDrbToSetup) (drbList : FlatMap DuUeDrbConfig) (qosConfig : FlatMap DuQosConfig) :
    Option DrbRequestError :=
  match qosConfig.find? drb.drbQos.fiveQi with
  | none => some .fiveQi
  | some qos =>
    if qos.rlc.mode ≠ drb.mode then some .rlcMode
    else if drb.uluptnlInfoList = [] then some .noUlUpTnlInfo
    else if drbList.contains drb.drbId then some .exists
    else none

def validateDrbModificationRequest (drb : F1apDrbToModify) (drbList : FlatMap DuUeDrbConfig) : Option DrbRequestError :=
  if drbList.contains drb.drbId = false then some .notFound
  else if drb.uluptnlInfoList = [] then some .noUlUpTnlInfo
  else none

/-- `emplace` of a table indexed by an id, which overwrites an element that is there. -/
def tableEmplace {α : Type} (table : FlatMap α) (id : Nat) (elem : α) : FlatMap α := (table.erase id).emplace id elem

def reestablishContext (newUeCfg oldUeCfg : DuUeResourceConfig) : DuUeResourceConfig where
  srbs := oldUeCfg.srbs.entries.foldl (fun srbs srb => tableEmplace srbs srb.1 srb.2) newUeCfg.srbs
  drbs := oldUeCfg.drbs.entries.foldl (fun drbs drb => tableEmplace drbs drb.1 drb.2) newUeCfg.drbs

structure DuUeBearerResourceUpdateRequest where
  srbsToSetup : List Nat
  drbsToSetup : List F1apDrbToSetup
  drbsToMod : List F1apDrbToModify
  drbsToRem : List Nat
deriving DecidableEq

structure DuUeBearerResourceUpdateResponse where
  drbsFailedToSetup : List Nat
  drbsFailedToMod : List Nat
deriving DecidableEq

structure DuBearerResourceManager where
  srbConfig : FlatMap RlcConfig
  qosConfig : FlatMap DuQosConfig

namespace DuBearerResourceManager

variable (m : DuBearerResourceManager)

def setupSrb (srbs : FlatMap DuUeSrbConfig) (srbId : Nat) : FlatMap DuUeSrbConfig :=
  if srbs.contains srbId then srbs
  else
    tableEmplace srbs srbId
      ⟨srbId, (m.srbConfig.find? srbId).getD makeDefaultSrbRlcConfig, makeDefaultSrbMacLcConfig srbId⟩

def setupSrbs (ueCfg : DuUeResourceConfig) (srbsToSetup : List Nat) : DuUeResourceConfig :=
  { ueCfg with srbs := srbsToSetup.foldl m.setupSrb ueCfg.srbs }

/-- The configuration of a new DRB. -/
def newDrb (drb : F1apDrbToSetup) (lcid : Nat) (qos : DuQosConfig) : DuUeDrbConfig where
  drbId := drb.drbId
  lcid := lcid
  pdcpSnLen := drb.pdcpSnLen
  sNssai := drb.sNssai
  qos := drb.drbQos
  f1u := qos.f1u
  rlcCfg :=
    match qos.rlc.mode with
    | .am => { qos.rlc with amTxPdcpSnLen := drb.pdcpSnLen }
    | .umBidir | .umUnidirDl => { qos.rlc with umTxPdcpSnLen := drb.pdcpSnLen }
    | .tm | .umUnidirUl => qos.rlc
  macCfg :=
    match drb.drbQos.gbrQosInfo with
    | some info => makeGbrDrbMacLcConfig info
    | none => makeNonGbrDrbMacLcConfig

/-- The body of the loop of `setup_drbs`: whether the DRB was set up. -/
def setupDrb (ueCfg : DuUeResourceConfig) (drb : F1apDrbToSetup) : Except BearerAbort (Bool × DuUeResourceConfig) :=
  if (validateDrbSetupRequest drb ueCfg.drbs m.qosConfig).isSome then .ok (false, ueCfg)
  else do
    let lcid ← findEmptyLcid ueCfg.drbs
    if LCID_MAX_DRB < lcid then .ok (false, ueCfg)
    else
      match m.qosConfig.find? drb.drbQos.fiveQi with
      | none => .error .qosConfig
      | some qos => .ok (true, { ueCfg with drbs := tableEmplace ueCfg.drbs drb.drbId (newDrb drb lcid qos) })

def setupDrbs : DuUeResourceConfig → List F1apDrbToSetup → Except BearerAbort (List Nat × DuUeResourceConfig)
  | ueCfg, [] => .ok ([], ueCfg)
  | ueCfg, drb :: drbs => do
    let (isSetup, ueCfg) ← m.setupDrb ueCfg drb
    let (failedDrbs, ueCfg) ← setupDrbs ueCfg drbs
    .ok (if isSetup then failedDrbs else drb.drbId :: failedDrbs, ueCfg)

def modifyDrbs (ueCfg : DuUeResourceConfig) (drbsToMod : List F1apDrbToModify) : List Nat :=
  (drbsToMod.filter fun drb => (validateDrbModificationRequest drb ueCfg.drbs).isSome).map F1apDrbToModify.drbId

def remDrbs (ueCfg : DuUeResourceConfig) (drbsToRem : List Nat) : DuUeResourceConfig :=
  { ueCfg with
    drbs := drbsToRem.foldl (fun drbs drbId => if drbs.contains drbId then drbs.erase drbId else drbs) ueCfg.drbs }

def restoredConfig (ueCfg : DuUeResourceConfig) : Option DuUeResourceConfig → DuUeResourceConfig
  | some old => reestablishContext ueCfg old
  | none => ueCfg

def prepared (ueCfg : DuUeResourceConfig) (updReq : DuUeBearerResourceUpdateRequest) : DuUeResourceConfig :=
  m.setupSrbs (remDrbs ueCfg updReq.drbsToRem) updReq.srbsToSetup

def update (ueCfg : DuUeResourceConfig) (updReq : DuUeBearerResourceUpdateRequest)
    (reestablishedContext : Option DuUeResourceConfig) :
    Except BearerAbort (DuUeBearerResourceUpdateResponse × DuUeResourceConfig) := do
  let ueCfg := m.prepared (restoredConfig ueCfg reestablishedContext) updReq
  let (drbsFailedToSetup, ueCfg) ← m.setupDrbs ueCfg updReq.drbsToSetup
  .ok (⟨drbsFailedToSetup, modifyDrbs ueCfg updReq.drbsToMod⟩, ueCfg)

end DuBearerResourceManager

end OwlsRan.Du
