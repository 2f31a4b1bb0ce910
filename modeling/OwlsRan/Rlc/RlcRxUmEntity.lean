import OwlsRan.Rlc.RlcRxAmEntity
import OwlsRan.Rlc.RlcUmPdu

/-!
# The receiving side of RLC UM

`rlc_rx_um_entity`. The SDUs that it passes to the upper layer are returned.
-/

namespace OwlsRan.Rlc
open OwlsRan.Lib OwlsRan.Adt

structure RlcRxUmConfig where
  snFieldLength : RlcUmSnSize
  tReassembly : Nat
deriving DecidableEq

/-- The segments are those of AM, and `store_segment` and the inventory are the same. -/
abbrev RlcRxUmSduSegment := RlcRxAmSduSegment

structure RlcRxUmSduInfo where
  fullyReceived : Bool
  hasGap : Bool
  segments : List RlcRxUmSduSegment
deriving DecidableEq

structure RlcRxUmState where
  rxNextReassembly : Nat
  rxTimerTrigger : Nat
  rxNextHighest : Nat
deriving DecidableEq

structure RlcRxUmEntity where
  st : RlcRxUmState
  rxWindow : SduWindow RlcRxUmSduInfo
  reassemblyTimerRunning : Bool

namespace RlcRxUmConfig

variable (cfg : RlcRxUmConfig)

def mod : Nat := cfg.snFieldLength.modulus

def umWindowSize : Nat := cfg.snFieldLength.umWindowSize

lemma mod_eq : cfg.mod = 2 * cfg.umWindowSize := by
  unfold mod umWindowSize
  cases cfg.snFieldLength <;> rfl

lemma umWindowSize_pos : 0 < cfg.umWindowSize := by
  unfold umWindowSize
  cases cfg.snFieldLength <;> decide

end RlcRxUmConfig

namespace RlcRxUmSduInfo

def default : RlcRxUmSduInfo := ⟨false, false, []⟩

def storeSegment (sduInfo : RlcRxUmSduInfo) (new : RlcRxUmSduSegment) : RlcRxUmSduInfo :=
  match trimSegment [] new sduInfo.segments with
  | none => sduInfo
  | some (set, new) => { sduInfo with segments := insertSegment new set }

def updateSegmentInventory (rxSdu : RlcRxUmSduInfo) : RlcRxUmSduInfo :=
  let (hasGap, fullyReceived) := segmentInventory 0 rxSdu.segments
  { rxSdu with hasGap := hasGap, fullyReceived := fullyReceived }

def reassembleSdu (sduInfo : RlcRxUmSduInfo) : List UInt8 := sduInfo.segments.flatMap RlcRxAmSduSegment.payload

end RlcRxUmSduInfo

namespace RlcRxUmEntity

def init (cfg : RlcRxUmConfig) : RlcRxUmEntity where
  st := ⟨0, 0, 0⟩
  rxWindow := .new cfg.umWindowSize cfg.umWindowSize_pos
  reassemblyTimerRunning := false

section Window

variable (cfg : RlcRxUmConfig) (s : RlcRxUmEntity)

def rxModBase (sn : Nat) : Nat := modBase cfg.mod (s.st.rxNextHighest + cfg.umWindowSize) sn

/-- `rx_next_highest - um_window_size`, in 32 bits. -/
def lowerEdge : Nat := (s.st.rxNextHighest + 2 ^ 32 - cfg.umWindowSize) % 2 ^ 32

def snInReassemblyWindow (sn : Nat) : Bool :=
  s.rxModBase cfg (s.lowerEdge cfg) ≤ s.rxModBase cfg sn && s.rxModBase cfg sn < s.rxModBase cfg s.st.rxNextHighest

def snInvalidForRxBuffer (sn : Nat) : Bool :=
  s.rxModBase cfg (s.lowerEdge cfg) ≤ s.rxModBase cfg sn && s.rxModBase cfg sn < s.rxModBase cfg s.st.rxNextReassembly

end Window

def fullyReceivedSn (w : SduWindow RlcRxUmSduInfo) (sn : Nat) : Bool :=
  match w.find? sn with
  | some info => info.fullyReceived
  | none => false

/-- The loops that move an SN forward while a condition holds, and remove what they pass from the window. None of them
takes as many rounds as there are SNs. -/
def sweep (cfg : RlcRxUmConfig) (goesOn : SduWindow RlcRxUmSduInfo → Nat → Bool) :
    Nat → SduWindow RlcRxUmSduInfo → Nat → SduWindow RlcRxUmSduInfo × Nat
  | 0, w, snUpd => (w, snUpd)
  | n + 1, w, snUpd =>
    if goesOn w snUpd then sweep cfg goesOn n (w.erase snUpd) ((snUpd + 1) % cfg.mod) else (w, snUpd)

variable (cfg : RlcRxUmConfig) (s : RlcRxUmEntity)

def belowHighest (w : SduWindow RlcRxUmSduInfo) (sn : Nat) : Bool :=
  s.rxModBase cfg sn < s.rxModBase cfg s.st.rxNextHighest && fullyReceivedSn w sn

def outsideWindow (_ : SduWindow RlcRxUmSduInfo) (sn : Nat) : Bool := !s.snInReassemblyWindow cfg sn

/-- Up to the first SDU from `rx_timer_trigger` on that is not fully received. -/
def belowTrigger (w : SduWindow RlcRxUmSduInfo) (sn : Nat) : Bool :=
  s.rxModBase cfg sn < s.rxModBase cfg s.st.rxNextHighest &&
    (s.rxModBase cfg sn < s.rxModBase cfg s.st.rxTimerTrigger || fullyReceivedSn w sn)

def handleSegmentDataSdu (w : SduWindow RlcRxUmSduInfo) (header : RlcUmPduHeader) (payload : List UInt8) :
    Except RlcAbort (SduWindow RlcRxUmSduInfo) := do
  let w ← if SduWindow.hasSn w header.sn then .ok w else SduWindow.addSn w header.sn .default
  SduWindow.modifySn w header.sn fun rxSdu =>
    (rxSdu.storeSegment ⟨header.si, header.so, payload⟩).updateSegmentInventory

/-- What happens to the window and the state variables when a PDU is in the reception buffer. -/
def updateState (sn : Nat) : RlcRxUmEntity × Option (List UInt8) :=
  match s.rxWindow.find? sn with
  | some sduInfo =>
    if sduInfo.fullyReceived then
      let w := s.rxWindow.modify sn fun info => { info with segments := [] }
      let sdu := sduInfo.reassembleSdu
      if sn = s.st.rxNextReassembly then
        let (w, snUpd) := sweep cfg (s.belowHighest cfg) cfg.mod w (s.st.rxNextReassembly % cfg.mod)
        ({ s with rxWindow := w, st := { s.st with rxNextReassembly := snUpd } }, some sdu)
      else ({ s with rxWindow := w }, some sdu)
    else (updateHighest s, none)
  | none => (updateHighest s, none)
where
  updateHighest (s : RlcRxUmEntity) : RlcRxUmEntity :=
    if s.snInReassemblyWindow cfg sn then s
    else
      let s := { s with st := { s.st with rxNextHighest := (sn + 1) % cfg.mod } }
      let (w, snUpd) := sweep cfg (s.outsideWindow cfg) cfg.mod s.rxWindow (s.st.rxNextReassembly % cfg.mod)
      let (w, snUpd) := sweep cfg (s.belowHighest cfg) cfg.mod w snUpd
      { s with rxWindow := w, st := { s.st with rxNextReassembly := snUpd } }

def gapAt (sn : Nat) : Option Bool := (s.rxWindow.find? sn).map RlcRxUmSduInfo.hasGap

def stopsReassemblyTimer : Bool :=
  s.st.rxTimerTrigger ≤ s.st.rxNextReassembly ||
    (!s.snInReassemblyWindow cfg s.st.rxTimerTrigger && s.st.rxTimerTrigger ≠ s.st.rxNextHighest) ||
      (s.st.rxNextHighest = s.st.rxNextReassembly + 1 && s.gapAt s.st.rxNextHighest = some false)

def startsReassemblyTimer : Bool :=
  s.rxModBase cfg s.st.rxNextHighest > s.rxModBase cfg (s.st.rxNextReassembly + 1) ||
    (s.rxModBase cfg s.st.rxNextHighest = s.rxModBase cfg (s.st.rxNextReassembly + 1) &&
      s.gapAt s.st.rxNextHighest = some true)

def restartReassemblyTimer : Except RlcAbort RlcRxUmEntity :=
  if !s.reassemblyTimerRunning && s.startsReassemblyTimer cfg then
    if cfg.tReassembly = 0 then .error .timerUnset
    else .ok { s with reassemblyTimerRunning := true, st := { s.st with rxTimerTrigger := s.st.rxNextHighest } }
  else .ok s

/-- The end of `handle_pdu`. -/
def updateReassemblyTimer : Except RlcAbort RlcRxUmEntity :=
  restartReassemblyTimer cfg
    { s with reassemblyTimerRunning := s.reassemblyTimerRunning && !s.stopsReassemblyTimer cfg }

/-- `handle_pdu` for a PDU with a header and a payload, up to the check of t-Reassembly: none if it returns before. -/
def placePdu (header : RlcUmPduHeader) (payload : List UInt8) :
    Except RlcAbort (Option (RlcRxUmEntity × Option (List UInt8))) :=
  if s.snInvalidForRxBuffer cfg header.sn then .ok none
  else do
    let w ← handleSegmentDataSdu s.rxWindow header payload
    .ok (some ({ s with rxWindow := w }.updateState cfg header.sn))

def handlePdu (buf : List UInt8) : Except RlcAbort (RlcRxUmEntity × Option (List UInt8)) :=
  match rlcUmReadDataPduHeader buf cfg.snFieldLength with
  | .error _ => .ok (s, none)
  | .ok (header, _) =>
    if buf.length ≤ rlcUmNrPackedLength header then .ok (s, none)
    else
      let payload := buf.drop (rlcUmNrPackedLength header)
      if header.si = .fullSdu then .ok (s, some payload)
      else do
        match ← placePdu cfg s header payload with
        | none => .ok (s, none)
        | some (s, sdu) =>
          let s ← updateReassemblyTimer cfg s
          .ok (s, sdu)

/-- `on_expired_reassembly_timer` up to the start of the timer. -/
def passTrigger : RlcRxUmEntity :=
  let (w, snUpd) := sweep cfg (s.belowTrigger cfg) cfg.mod s.rxWindow s.st.rxNextReassembly
  { s with rxWindow := w, st := { s.st with rxNextReassembly := snUpd } }

def onExpiredReassemblyTimer : Except RlcAbort RlcRxUmEntity :=
  restartReassemblyTimer cfg (passTrigger cfg { s with reassemblyTimerRunning := false })

end RlcRxUmEntity

end OwlsRan.Rlc
