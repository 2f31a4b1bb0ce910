import Mathlib.Algebra.Group.Nat.Defs
import Mathlib.Data.List.Basic
import Mathlib.Tactic.Lemma

/-!
# The downlink U-Plane data flow

`enqueue_section_type_1_message_symbol_burst` writes the IQ data of a range of OFDM symbols into the frame buffers that
the pool hands out, one section in each message. The sizes of the buffers are the input of the loop.
-/

namespace OwlsRan.Ofh

def MAX_NOF_PRBS : ℕ := 275

def NOF_SUBCARRIERS_PER_RB : ℕ := 12

def MIN_ETH_FRAME_LENGTH : ℕ := 64

def MAX_ETH_FRAME_LENGTH : ℕ := 9600

def ETH_HEADER_SIZE : ℕ := 14

def ETH_VLAN_TAG_SIZE : ℕ := 4

def ECPRI_IQ_DATA_HEADER_SIZE : ℕ := 4 + 4

inductive CompressionType where
  | none | bfp | blockScaling | muLaw | modulation | bfpSelective | modSelective | reserved
deriving DecidableEq

/-- `ru_compression_params`, with a width that the size table of the fragment calculator has an entry for. -/
structure RuCompressionParams where
  type : CompressionType
  dataWidth : ℕ
  dataWidth_pos : 0 < dataWidth
  dataWidth_le : dataWidth ≤ 16

def bitsToBytes (bits : ℕ) : ℕ := (bits + 7) / 8

def getPrbDataSize (params : RuCompressionParams) : ℕ :=
  bitsToBytes (params.dataWidth * NOF_SUBCARRIERS_PER_RB * 2) +
    if params.type = .none ∨ params.type = .modulation then 0 else 1

def isCompressionParamPresent (type : CompressionType) : Bool :=
  decide (type = .bfp ∨ type = .muLaw ∨ type = .bfpSelective ∨ type = .modSelective)

def getCompressedPrbSize (params : RuCompressionParams) : ℕ :=
  bitsToBytes (NOF_SUBCARRIERS_PER_RB * 2 * params.dataWidth + if isCompressionParamPresent params.type then 8 else 0)

def isSelective (type : CompressionType) : Bool :=
  decide (type = .bfpSelective ∨ type = .modSelective)

structure UplaneDownlinkConfig where
  vlanTag : Bool
  dynamicCompression : Bool
  udCompLengthSupport : Bool
  comprParams : RuCompressionParams
  ruNofPrbs : ℕ
  nofSymbolsPerSlot : ℕ
  ruNofPrbs_pos : 0 < ruNofPrbs
  ruNofPrbs_le : ruNofPrbs ≤ MAX_NOF_PRBS

namespace UplaneDownlinkConfig

variable (cfg : UplaneDownlinkConfig)

def ethHeaderSize : ℕ := ETH_HEADER_SIZE + if cfg.vlanTag then ETH_VLAN_TAG_SIZE else 0

/-- `get_header_size` of the message builder. -/
def uplaneHeaderSize : ℕ :=
  (if cfg.dynamicCompression then 10 else 8) + if isSelective cfg.comprParams.type then 2 else 0

def headersSize : ℕ := cfg.ethHeaderSize + ECPRI_IQ_DATA_HEADER_SIZE + cfg.uplaneHeaderSize

/-- The bytes that `build_message` writes in front of the IQ data: the radio application header, the section header, the
compression header, and the length when it is supported. -/
def writtenHeaderSize : ℕ :=
  4 + 4 + (if cfg.dynamicCompression then 2 else 0) +
    if cfg.udCompLengthSupport && isSelective cfg.comprParams.type then 2 else 0

def usedSize (nofPrbs : ℕ) : ℕ :=
  cfg.ethHeaderSize + (ECPRI_IQ_DATA_HEADER_SIZE +
    (cfg.writtenHeaderSize + getCompressedPrbSize cfg.comprParams * nofPrbs))

end UplaneDownlinkConfig

structure FragmentSizeCalculator where
  startPrb : ℕ
  nofPrbs : ℕ
  prbSize : ℕ
  nextFragmentStartPrbIndex : ℕ
deriving DecidableEq

namespace FragmentSizeCalculator

def init (startPrb nofPrbs : ℕ) (params : RuCompressionParams) : FragmentSizeCalculator :=
  ⟨startPrb, nofPrbs, getPrbDataSize params, startPrb⟩

def calculateFragmentSize (c : FragmentSizeCalculator) (frameSize : ℕ) : Bool × ℕ × ℕ × FragmentSizeCalculator :=
  if frameSize < c.prbSize then (false, c.nextFragmentStartPrbIndex, 0, c)
  else
    let nofPrbsFitInFrame := frameSize / c.prbSize
    let remainingPrbs := c.nofPrbs - (c.nextFragmentStartPrbIndex - c.startPrb)
    if remainingPrbs ≤ nofPrbsFitInFrame then
      (true, c.nextFragmentStartPrbIndex, remainingPrbs,
        { c with nextFragmentStartPrbIndex := c.nextFragmentStartPrbIndex + remainingPrbs })
    else
      (false, c.nextFragmentStartPrbIndex, nofPrbsFitInFrame,
        { c with nextFragmentStartPrbIndex := c.nextFragmentStartPrbIndex + nofPrbsFitInFrame })

end FragmentSizeCalculator

def buildSection1Header (startPrb nofPrb : ℕ) : List UInt8 :=
  [0, ((0 : UInt8) <<< 3) ||| ((0 : UInt8) <<< 2) ||| (UInt8.ofNat (startPrb >>> 8) &&& 3), UInt8.ofNat startPrb,
    UInt8.ofNat (if 255 < nofPrb then 0 else nofPrb)]

/-- The first PRB and the number of PRBs that a section header stands for: a number of 0 means all PRBs of the carrier. -/
def readSection1Header (carrierPrbs : ℕ) : List UInt8 → ℕ × ℕ
  | [_, octet, startPrb, nofPrb] =>
    if nofPrb = 0 then (0, carrierPrbs) else ((octet &&& 3).toNat * 256 + startPrb.toNat, nofPrb.toNat)
  | _ => (0, 0)

/-- A message: its section header, the PRBs of its IQ data, its size and the size of its frame buffer. -/
structure UplaneMessage where
  symbolId : ℕ
  sectionHeader : List UInt8
  iqStartPrb : ℕ
  iqNofPrbs : ℕ
  size : ℕ
  bufferSize : ℕ
deriving DecidableEq

/-- `ofdm_symbol_range`: the symbols `start, …, stop - 1`. -/
structure OfdmSymbolRange where
  start : ℕ
  stop : ℕ
  le : start ≤ stop

def OfdmSymbolRange.length (range : OfdmSymbolRange) : ℕ := range.stop - range.start

inductive BurstStatus where
  | running
  | returned
  | ranOut
  | aborted
deriving DecidableEq

structure SymbolBurst where
  symbolId : ℕ
  calculator : FragmentSizeCalculator
  status : BurstStatus
  messages : List UplaneMessage
deriving DecidableEq

namespace SymbolBurst

/-- The head of the loop over the symbols. The constructor of `slot_symbol_point` asserts that the slot has the symbol. -/
def enterSymbol (cfg : UplaneDownlinkConfig) (range : OfdmSymbolRange) (symbolId : ℕ) (messages : List UplaneMessage) :
    SymbolBurst :=
  ⟨symbolId, .init 0 cfg.ruNofPrbs cfg.comprParams,
    if symbolId = range.length then .returned
    else if symbolId < cfg.nofSymbolsPerSlot then .running
    else .aborted, messages⟩

def init (cfg : UplaneDownlinkConfig) (range : OfdmSymbolRange) : SymbolBurst :=
  enterSymbol cfg range range.start []

/-- `data.size() - headers_size` as a 32-bit number. -/
def frameSize (cfg : UplaneDownlinkConfig) (dataSize : ℕ) : ℕ :=
  if cfg.headersSize ≤ dataSize then (dataSize - cfg.headersSize) % 2 ^ 32 else 2 ^ 32 + dataSize - cfg.headersSize

/-- The body of the loop with the frame buffer that the pool hands out, or without one. -/
def step (cfg : UplaneDownlinkConfig) (range : OfdmSymbolRange) (b : SymbolBurst) : Option ℕ → SymbolBurst
  | none => if b.status = .running then { b with status := .ranOut } else b
  | some dataSize =>
    if b.status ≠ .running then b
    else
      let (isLast, startPrb, nofPrbs, calculator) := b.calculator.calculateFragmentSize (frameSize cfg dataSize)
      if nofPrbs = 0 then
        if isLast then enterSymbol cfg range (b.symbolId + 1) b.messages else { b with calculator }
      else if MAX_ETH_FRAME_LENGTH < cfg.usedSize nofPrbs then { b with status := .aborted }
      else
        let messages := b.messages ++ [⟨b.symbolId, buildSection1Header startPrb nofPrbs, startPrb, nofPrbs,
          max (cfg.usedSize nofPrbs) MIN_ETH_FRAME_LENGTH, dataSize⟩]
        if isLast then enterSymbol cfg range (b.symbolId + 1) messages else { b with calculator, messages }

/-- The state after `n` answers of the pool. -/
def after (cfg : UplaneDownlinkConfig) (range : OfdmSymbolRange) (pool : ℕ → Option ℕ) : ℕ → SymbolBurst
  | 0 => init cfg range
  | n + 1 => (after cfg range pool n).step cfg range (pool n)

end SymbolBurst

end OwlsRan.Ofh
