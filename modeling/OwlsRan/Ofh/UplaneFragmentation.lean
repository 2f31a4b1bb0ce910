import OwlsRan.Lib.IntervalTiling
import OwlsRan.Ofh.UplaneDownlinkData
import Mathlib.Data.Nat.Find

/-!
# The fragments of a symbol partition its PRBs

The loop is correct exactly when every frame buffer has room for the headers and for a minimal frame, no part of a
symbol has more PRBs than the header can count, the pool does not go on with buffers that are too small for a PRB, and
the range begins with the first symbol of the slot.
-/

namespace OwlsRan.Ofh

open OwlsRan.Lib

section Sizes

variable (cfg : UplaneDownlinkConfig)

lemma getPrbDataSize_bounds (params : RuCompressionParams) :
    getCompressedPrbSize params ≤ getPrbDataSize params ∧ 3 ≤ getCompressedPrbSize params ∧
      getPrbDataSize params ≤ 49 := by
  obtain ⟨type, width, hpos, hle⟩ := params
  unfold getPrbDataSize getCompressedPrbSize isCompressionParamPresent bitsToBytes NOF_SUBCARRIERS_PER_RB
  cases type <;> simp <;> omega

lemma headersSize_bounds : cfg.ethHeaderSize + ECPRI_IQ_DATA_HEADER_SIZE + cfg.writtenHeaderSize ≤ cfg.headersSize ∧
    cfg.headersSize ≤ cfg.ethHeaderSize + ECPRI_IQ_DATA_HEADER_SIZE + cfg.writtenHeaderSize + 2 ∧
    cfg.headersSize ≤ 38 := by
  unfold UplaneDownlinkConfig.headersSize UplaneDownlinkConfig.uplaneHeaderSize UplaneDownlinkConfig.writtenHeaderSize
    UplaneDownlinkConfig.ethHeaderSize ETH_HEADER_SIZE ETH_VLAN_TAG_SIZE ECPRI_IQ_DATA_HEADER_SIZE
  cases cfg.vlanTag <;> cases cfg.dynamicCompression <;> cases cfg.udCompLengthSupport <;>
    cases isSelective cfg.comprParams.type <;> simp

lemma usedSize_le {nofPrbs dataSize : ℕ} (hsize : cfg.headersSize ≤ dataSize)
    (hfit : nofPrbs * getPrbDataSize cfg.comprParams ≤ dataSize - cfg.headersSize) : cfg.usedSize nofPrbs ≤ dataSize := by
  have hheaders := (headersSize_bounds cfg).1
  have hprb : getCompressedPrbSize cfg.comprParams * nofPrbs ≤ nofPrbs * getPrbDataSize cfg.comprParams := by
    rw [Nat.mul_comm]
    exact Nat.mul_le_mul_left _ (getPrbDataSize_bounds cfg.comprParams).1
  unfold UplaneDownlinkConfig.usedSize
  omega

lemma headersSize_lt_usedSize {nofPrbs : ℕ} (hpos : 0 < nofPrbs) : cfg.headersSize < cfg.usedSize nofPrbs := by
  have hheaders := (headersSize_bounds cfg).2.1
  have hprb : 3 * 1 ≤ getCompressedPrbSize cfg.comprParams * nofPrbs :=
    Nat.mul_le_mul (getPrbDataSize_bounds cfg.comprParams).2.1 hpos
  unfold UplaneDownlinkConfig.usedSize
  omega

end Sizes

section Header

lemma startPrb_read : ∀ startPrb < 1024,
    ((((0 : UInt8) <<< 3) ||| ((0 : UInt8) <<< 2) ||| (UInt8.ofNat (startPrb >>> 8) &&& 3)) &&& 3).toNat * 256 +
      (UInt8.ofNat startPrb).toNat = startPrb := by
  decide +kernel

lemma readSection1Header_eq_iff {startPrb nofPrb carrierPrbs : ℕ} (hpos : 0 < nofPrb)
    (hle : startPrb + nofPrb ≤ carrierPrbs) (hmax : carrierPrbs ≤ MAX_NOF_PRBS) :
    readSection1Header carrierPrbs (buildSection1Header startPrb nofPrb) = (startPrb, nofPrb) ↔
      nofPrb ≤ 255 ∨ nofPrb = carrierPrbs := by
  unfold MAX_NOF_PRBS at hmax
  unfold readSection1Header buildSection1Header
  by_cases hlarge : 255 < nofPrb
  · have hzero : UInt8.ofNat 0 = 0 := rfl
    simp only [hlarge, if_true, hzero, Prod.mk.injEq]
    omega
  · have hmod : (UInt8.ofNat nofPrb).toNat = nofPrb := by
      rw [UInt8.toNat_ofNat']
      omega
    have hne : UInt8.ofNat nofPrb ≠ 0 := by
      intro h
      have hval := congrArg UInt8.toNat h
      rw [hmod] at hval
      exact absurd hval (by simp; omega)
    simp only [hlarge, if_false, hne, hmod, startPrb_read startPrb (by omega)]
    simp
    omega

end Header

def headerPrbs (cfg : UplaneDownlinkConfig) (messages : List UplaneMessage) (symbolId : ℕ) : List (ℕ × ℕ) :=
  (messages.filter fun m => decide (m.symbolId = symbolId)).map fun m =>
    readSection1Header cfg.ruNofPrbs m.sectionHeader

def MessageRight (cfg : UplaneDownlinkConfig) (range : OfdmSymbolRange) (m : UplaneMessage) : Prop :=
  (range.start ≤ m.symbolId ∧ m.symbolId < range.stop) ∧
    readSection1Header cfg.ruNofPrbs m.sectionHeader = (m.iqStartPrb, m.iqNofPrbs) ∧ m.size ≤ m.bufferSize

/-- The burst returns, with right messages for symbols of the range only; those of each symbol partition the PRBs of the
RU, up to the symbol at which the pool runs out. -/
structure BurstRight (cfg : UplaneDownlinkConfig) (range : OfdmSymbolRange) (pool : ℕ → Option ℕ) : Prop where
  returns : ∃ n, (SymbolBurst.after cfg range pool n).status = .returned ∨
    (SymbolBurst.after cfg range pool n).status = .ranOut
  messages : ∀ n, ∀ m ∈ (SymbolBurst.after cfg range pool n).messages, MessageRight cfg range m
  symbols : ∀ n symbolId, range.start ≤ symbolId → symbolId < range.stop →
    (SymbolBurst.after cfg range pool n).status = .returned ∨
      (SymbolBurst.after cfg range pool n).status = .ranOut ∧
        symbolId < (SymbolBurst.after cfg range pool n).symbolId →
    Partitions (headerPrbs cfg (SymbolBurst.after cfg range pool n).messages symbolId) cfg.ruNofPrbs

def nextFragment (cfg : UplaneDownlinkConfig) (b : SymbolBurst) (dataSize : ℕ) : ℕ :=
  min (SymbolBurst.frameSize cfg dataSize / getPrbDataSize cfg.comprParams)
    (cfg.ruNofPrbs - b.calculator.nextFragmentStartPrbIndex)

/-- The frame buffer holds the headers. If it holds a PRB, the symbol is in the range, the buffer holds a minimal frame,
the frame is no longer than a frame may be, and the header can count the PRBs of the fragment. -/
def FrameFits (cfg : UplaneDownlinkConfig) (range : OfdmSymbolRange) (b : SymbolBurst) (dataSize : ℕ) : Prop :=
  cfg.headersSize ≤ dataSize ∧
    (getPrbDataSize cfg.comprParams ≤ SymbolBurst.frameSize cfg dataSize →
      b.symbolId < range.stop ∧ MIN_ETH_FRAME_LENGTH ≤ dataSize ∧
        cfg.usedSize (nextFragment cfg b dataSize) ≤ MAX_ETH_FRAME_LENGTH ∧
        (nextFragment cfg b dataSize ≤ 255 ∨ nextFragment cfg b dataSize = cfg.ruNofPrbs))

namespace SymbolBurst

variable {cfg : UplaneDownlinkConfig} {range : OfdmSymbolRange} {b : SymbolBurst} {pool : ℕ → Option ℕ}

def iqPrbs (b : SymbolBurst) (symbolId : ℕ) : List (ℕ × ℕ) :=
  (b.messages.filter fun m => decide (m.symbolId = symbolId)).map fun m => (m.iqStartPrb, m.iqNofPrbs)

def fragmentMessage (cfg : UplaneDownlinkConfig) (b : SymbolBurst) (nofPrbs dataSize : ℕ) : UplaneMessage :=
  ⟨b.symbolId, buildSection1Header b.calculator.nextFragmentStartPrbIndex nofPrbs,
    b.calculator.nextFragmentStartPrbIndex, nofPrbs, max (cfg.usedSize nofPrbs) MIN_ETH_FRAME_LENGTH, dataSize⟩

/-- The fragments of the symbols so far. -/
structure Fragmented (cfg : UplaneDownlinkConfig) (range : OfdmSymbolRange) (b : SymbolBurst) : Prop where
  startPrb : b.calculator.startPrb = 0
  nofPrbs : b.calculator.nofPrbs = cfg.ruNofPrbs
  prbSize : b.calculator.prbSize = getPrbDataSize cfg.comprParams
  next_lt : b.calculator.nextFragmentStartPrbIndex < cfg.ruNofPrbs
  start_le : range.start ≤ b.symbolId
  done : ∀ s, range.start ≤ s → s < b.symbolId → Tiles 0 (b.iqPrbs s) cfg.ruNofPrbs
  current : Tiles 0 (b.iqPrbs b.symbolId) b.calculator.nextFragmentStartPrbIndex
  later : ∀ s, b.symbolId < s → b.iqPrbs s = []
  right : ∀ m ∈ b.messages, MessageRight cfg range m
  running : b.status = .running → b.symbolId ≠ range.length ∧ b.symbolId < cfg.nofSymbolsPerSlot
  returned : b.status = .returned → b.symbolId = range.length ∧ b.iqPrbs b.symbolId = [] ∧
    (b.symbolId ≤ cfg.nofSymbolsPerSlot ∨ b.symbolId = range.start)

lemma step_cases (h : Fragmented cfg range b) (hrun : b.status = .running) (dataSize : ℕ) :
    let nof := nextFragment cfg b dataSize
    (frameSize cfg dataSize < getPrbDataSize cfg.comprParams ∧ b.step cfg range (some dataSize) = b) ∨
      (getPrbDataSize cfg.comprParams ≤ frameSize cfg dataSize ∧ 0 < nof ∧
        ((MAX_ETH_FRAME_LENGTH < cfg.usedSize nof ∧ b.step cfg range (some dataSize) = { b with status := .aborted }) ∨
          cfg.usedSize nof ≤ MAX_ETH_FRAME_LENGTH ∧
            ((b.calculator.nextFragmentStartPrbIndex + nof = cfg.ruNofPrbs ∧ b.step cfg range (some dataSize) =
                enterSymbol cfg range (b.symbolId + 1) (b.messages ++ [fragmentMessage cfg b nof dataSize])) ∨
              b.calculator.nextFragmentStartPrbIndex + nof < cfg.ruNofPrbs ∧ b.step cfg range (some dataSize) =
                { b with
                  calculator := { b.calculator with
                    nextFragmentStartPrbIndex := b.calculator.nextFragmentStartPrbIndex + nof }
                  messages := b.messages ++ [fragmentMessage cfg b nof dataSize] }))) := by
  have hprb : 0 < getPrbDataSize cfg.comprParams := by
    have := getPrbDataSize_bounds cfg.comprParams
    omega
  have hlt := h.next_lt
  simp only [step, hrun, FragmentSizeCalculator.calculateFragmentSize, h.prbSize, h.startPrb, h.nofPrbs, Nat.sub_zero]
  by_cases hsmall : frameSize cfg dataSize < getPrbDataSize cfg.comprParams
  · left
    refine ⟨hsmall, ?_⟩
    simp only [hsmall, if_true]
    simp [← hrun]
  right
  have hroom : 0 < frameSize cfg dataSize / getPrbDataSize cfg.comprParams := Nat.div_pos (by omega) hprb
  refine ⟨by omega, by unfold nextFragment; omega, ?_⟩
  by_cases hlast : cfg.ruNofPrbs - b.calculator.nextFragmentStartPrbIndex ≤
      frameSize cfg dataSize / getPrbDataSize cfg.comprParams
  · have hnof : nextFragment cfg b dataSize = cfg.ruNofPrbs - b.calculator.nextFragmentStartPrbIndex := by
      unfold nextFragment
      omega
    have hne : cfg.ruNofPrbs - b.calculator.nextFragmentStartPrbIndex ≠ 0 := by omega
    rw [hnof]
    by_cases hmax : MAX_ETH_FRAME_LENGTH < cfg.usedSize (cfg.ruNofPrbs - b.calculator.nextFragmentStartPrbIndex)
    · left
      simp [hsmall, hlast, hne, hmax]
    · right
      refine ⟨by omega, Or.inl ⟨by omega, ?_⟩⟩
      simp [hsmall, hlast, hne, hmax, fragmentMessage]
  · have hnof : nextFragment cfg b dataSize = frameSize cfg dataSize / getPrbDataSize cfg.comprParams := by
      unfold nextFragment
      omega
    have hne : frameSize cfg dataSize / getPrbDataSize cfg.comprParams ≠ 0 := by omega
    rw [hnof]
    by_cases hmax : MAX_ETH_FRAME_LENGTH < cfg.usedSize (frameSize cfg dataSize / getPrbDataSize cfg.comprParams)
    · left
      simp only [hsmall, hlast, hne, hmax, if_true, if_false]
      simp
    · right
      refine ⟨by omega, Or.inr ⟨by omega, ?_⟩⟩
      simp only [hsmall, hlast, hne, hmax, if_false]
      simp [fragmentMessage]

variable {nof dataSize n : ℕ}

lemma fragmentMessage_right_iff (h : Fragmented cfg range b) (hpos : 0 < nof)
    (hle : b.calculator.nextFragmentStartPrbIndex + nof ≤ cfg.ruNofPrbs) :
    MessageRight cfg range (fragmentMessage cfg b nof dataSize) ↔
      b.symbolId < range.stop ∧ (nof ≤ 255 ∨ nof = cfg.ruNofPrbs) ∧ cfg.usedSize nof ≤ dataSize ∧
        MIN_ETH_FRAME_LENGTH ≤ dataSize := by
  have hread := readSection1Header_eq_iff hpos hle cfg.ruNofPrbs_le
  have hstart := h.start_le
  unfold MessageRight fragmentMessage
  simp only [hread, Nat.max_le]
  omega

lemma frameFits_iff (h : Fragmented cfg range b) (dataSize : ℕ) :
    FrameFits cfg range b dataSize ↔ (getPrbDataSize cfg.comprParams ≤ frameSize cfg dataSize →
      cfg.usedSize (nextFragment cfg b dataSize) ≤ MAX_ETH_FRAME_LENGTH ∧
        MessageRight cfg range (fragmentMessage cfg b (nextFragment cfg b dataSize) dataSize)) := by
  have hprb := getPrbDataSize_bounds cfg.comprParams
  have hlt := h.next_lt
  have hheaders := (headersSize_bounds cfg).2.2
  by_cases hlarge : getPrbDataSize cfg.comprParams ≤ frameSize cfg dataSize
  · have hroom : 0 < frameSize cfg dataSize / getPrbDataSize cfg.comprParams := Nat.div_pos hlarge (by omega)
    have hpos : 0 < nextFragment cfg b dataSize := by
      unfold nextFragment
      omega
    have hle : b.calculator.nextFragmentStartPrbIndex + nextFragment cfg b dataSize ≤ cfg.ruNofPrbs := by
      unfold nextFragment
      omega
    have hused : cfg.headersSize ≤ dataSize → cfg.usedSize (nextFragment cfg b dataSize) ≤ dataSize := by
      intro hsize
      refine usedSize_le cfg hsize ?_
      have hfit : nextFragment cfg b dataSize * getPrbDataSize cfg.comprParams ≤ frameSize cfg dataSize :=
        Nat.le_trans (Nat.mul_le_mul_right _ (Nat.min_le_left _ _)) (Nat.div_mul_le_self _ _)
      unfold frameSize at hfit
      rw [if_pos hsize] at hfit
      exact Nat.le_trans hfit (Nat.mod_le _ _)
    have hmore := headersSize_lt_usedSize cfg hpos
    unfold FrameFits
    rw [fragmentMessage_right_iff h hpos hle]
    constructor
    · rintro ⟨hsize, hfit⟩ -
      obtain ⟨hsym, hmin, hmax, hcount⟩ := hfit hlarge
      exact ⟨hmax, hsym, hcount, hused hsize, hmin⟩
    · intro hright
      obtain ⟨hmax, hsym, hcount, hfits, hmin⟩ := hright hlarge
      exact ⟨by omega, fun _ => ⟨hsym, hmin, hmax, hcount⟩⟩
  · refine ⟨fun _ hc => absurd hc hlarge, fun _ => ⟨?_, fun hc => absurd hc hlarge⟩⟩
    by_contra hsize
    unfold frameSize at hlarge
    rw [if_neg hsize] at hlarge
    omega

lemma iqPrbs_append (m : UplaneMessage) (s : ℕ) (calculator : FragmentSizeCalculator) (symbolId : ℕ)
    (status : BurstStatus) :
    iqPrbs ⟨symbolId, calculator, status, b.messages ++ [m]⟩ s =
      if m.symbolId = s then b.iqPrbs s ++ [(m.iqStartPrb, m.iqNofPrbs)] else b.iqPrbs s := by
  unfold iqPrbs
  by_cases hs : m.symbolId = s <;> simp [hs]

lemma fragmented_init : Fragmented cfg range (init cfg range) := by
  refine ⟨rfl, rfl, rfl, cfg.ruNofPrbs_pos, Nat.le_refl _, ?_, .nil 0, fun _ _ => rfl, by simp [init, enterSymbol], ?_,
    ?_⟩
  · intro s hle hlt
    exact absurd hlt (Nat.not_lt.mpr hle)
  · unfold init enterSymbol
    split
    · simp
    · split <;> simp_all
  · unfold init enterSymbol
    split
    case isTrue heq => exact fun _ => ⟨heq, rfl, Or.inr rfl⟩
    · split <;> simp

lemma fragmented_append (h : Fragmented cfg range b) (hpos : 0 < nof)
    (hright : MessageRight cfg range (fragmentMessage cfg b nof dataSize)) (calculator : FragmentSizeCalculator)
    (symbolId : ℕ) (status : BurstStatus) :
    let b' : SymbolBurst := ⟨symbolId, calculator, status, b.messages ++ [fragmentMessage cfg b nof dataSize]⟩
    (∀ s, range.start ≤ s → s < b.symbolId → Tiles 0 (b'.iqPrbs s) cfg.ruNofPrbs) ∧
      Tiles 0 (b'.iqPrbs b.symbolId) (b.calculator.nextFragmentStartPrbIndex + nof) ∧
      (∀ s, b.symbolId < s → b'.iqPrbs s = []) ∧ ∀ m ∈ b'.messages, MessageRight cfg range m := by
  simp only [iqPrbs_append]
  have hsym : (fragmentMessage cfg b nof dataSize).symbolId = b.symbolId := rfl
  refine ⟨fun s hle hlt => ?_, ?_, fun s hlt => ?_, fun m hm => ?_⟩
  · rw [hsym, if_neg (by omega)]
    exact h.done s hle hlt
  · rw [hsym, if_pos rfl]
    exact tiles_concat h.current hpos
  · rw [hsym, if_neg (by omega)]
    exact h.later s hlt
  · rcases List.mem_append.mp hm with hm | hm
    · exact h.right m hm
    · rw [List.mem_singleton.mp hm]
      exact hright

lemma fragmented_enterSymbol (h : Fragmented cfg range b) (hrun : b.status = .running)
    (hpos : 0 < nof) (hright : MessageRight cfg range (fragmentMessage cfg b nof dataSize))
    (hlast : b.calculator.nextFragmentStartPrbIndex + nof = cfg.ruNofPrbs) :
    Fragmented cfg range
      (enterSymbol cfg range (b.symbolId + 1) (b.messages ++ [fragmentMessage cfg b nof dataSize])) := by
  obtain ⟨hdone, hcurrent, hlater, hmessages⟩ := fragmented_append h hpos hright
    (.init 0 cfg.ruNofPrbs cfg.comprParams) (b.symbolId + 1)
    (enterSymbol cfg range (b.symbolId + 1) (b.messages ++ [fragmentMessage cfg b nof dataSize])).status
  have hsymbols := (h.running hrun).2
  have hempty := hlater (b.symbolId + 1) (by omega)
  have hstart := h.start_le
  refine ⟨rfl, rfl, rfl, cfg.ruNofPrbs_pos, ?_, fun s hle hlt => ?_, ?_, fun s hlt => hlater s ?_, hmessages, ?_, ?_⟩
  · change range.start ≤ b.symbolId + 1
    omega
  · have hlt' : s < b.symbolId + 1 := hlt
    by_cases hs : s < b.symbolId
    · exact hdone s hle hs
    · obtain rfl : s = b.symbolId := by omega
      rw [← hlast]
      exact hcurrent
  · have htiles : Tiles 0 [] 0 := .nil 0
    rw [← hempty] at htiles
    exact htiles
  · have hlt' : b.symbolId + 1 < s := hlt
    omega
  · unfold enterSymbol
    split
    · simp
    · split <;> simp_all
  · intro hret
    refine ⟨?_, hempty, Or.inl hsymbols⟩
    unfold enterSymbol at hret ⊢
    split at hret
    case isTrue heq => exact heq
    · split at hret <;> simp at hret

lemma step_of_not_running (h : b.status ≠ .running) (answer : Option ℕ) : b.step cfg range answer = b := by
  cases answer with
  | none => simp [step, h]
  | some dataSize => simp [step, h]

lemma fragmented_step (h : Fragmented cfg range b) (answer : Option ℕ)
    (hfits : b.status = .running → ∀ dataSize, answer = some dataSize → FrameFits cfg range b dataSize) :
    Fragmented cfg range (b.step cfg range answer) := by
  cases answer with
  | none =>
    by_cases hrun : b.status = .running
    · simp only [step, hrun, if_true]
      exact ⟨h.startPrb, h.nofPrbs, h.prbSize, h.next_lt, h.start_le, h.done, h.current, h.later, h.right, by simp,
        by simp⟩
    · rw [step_of_not_running hrun]
      exact h
  | some dataSize =>
    by_cases hrun : b.status = .running
    · have hright := (frameFits_iff h dataSize).mp (hfits hrun dataSize rfl)
      rcases step_cases h hrun dataSize with ⟨-, hstep⟩ | ⟨hlarge, hpos, hcases⟩
      · rw [hstep]
        exact h
      obtain ⟨hmax, hmessage⟩ := hright hlarge
      rcases hcases with ⟨habort, -⟩ | ⟨-, ⟨hlast, hstep⟩ | ⟨hpart, hstep⟩⟩
      · omega
      · rw [hstep]
        exact fragmented_enterSymbol h hrun hpos hmessage hlast
      · obtain ⟨hdone, hcurrent, hlater, hmessages⟩ := fragmented_append h hpos hmessage
          { b.calculator with
            nextFragmentStartPrbIndex := b.calculator.nextFragmentStartPrbIndex + nextFragment cfg b dataSize }
          b.symbolId b.status
        rw [hstep]
        exact ⟨h.startPrb, h.nofPrbs, h.prbSize, hpart, h.start_le, hdone, hcurrent, hlater, hmessages, h.running,
          fun hret => absurd (hrun.symm.trans hret) (by decide)⟩
    · rw [step_of_not_running hrun]
      exact h

lemma after_of_stopped (h : (after cfg range pool n).status ≠ .running) {k : ℕ} (hnk : n ≤ k) :
    after cfg range pool k = after cfg range pool n := by
  induction k, hnk using Nat.le_induction with
  | base => rfl
  | succ k _ ih => rw [after, ih, step_of_not_running h]

def FramesFit (cfg : UplaneDownlinkConfig) (range : OfdmSymbolRange) (pool : ℕ → Option ℕ) : Prop :=
  ∀ n dataSize, (after cfg range pool n).status = .running → pool n = some dataSize →
    FrameFits cfg range (after cfg range pool n) dataSize

def Starved (cfg : UplaneDownlinkConfig) (range : OfdmSymbolRange) (pool : ℕ → Option ℕ) : Prop :=
  ∃ n, (after cfg range pool n).status = .running ∧
    ∀ k, n ≤ k → ∃ dataSize, pool k = some dataSize ∧ frameSize cfg dataSize < getPrbDataSize cfg.comprParams

def RunsOut (cfg : UplaneDownlinkConfig) (range : OfdmSymbolRange) (pool : ℕ → Option ℕ) : Prop :=
  ∃ n, (after cfg range pool n).status = .running ∧ pool n = none

lemma fragmented_after (hfits : FramesFit cfg range pool) (n : ℕ) : Fragmented cfg range (after cfg range pool n) := by
  induction n with
  | zero => exact fragmented_init
  | succ n ih => exact fragmented_step ih _ fun hrun dataSize hpool => hfits n dataSize hrun hpool

def remaining (cfg : UplaneDownlinkConfig) (b : SymbolBurst) : ℕ :=
  (cfg.nofSymbolsPerSlot - b.symbolId) * (cfg.ruNofPrbs + 1) +
    (cfg.ruNofPrbs - b.calculator.nextFragmentStartPrbIndex)

lemma remaining_step (h : Fragmented cfg range b) (hrun : b.status = .running)
    (hlarge : getPrbDataSize cfg.comprParams ≤ frameSize cfg dataSize) :
    (b.step cfg range (some dataSize)).status ≠ .running ∨
      remaining cfg (b.step cfg range (some dataSize)) < remaining cfg b := by
  have hsymbol := (h.running hrun).2
  rcases step_cases h hrun dataSize with ⟨hsmall, -⟩ | ⟨-, hpos, ⟨-, hstep⟩ | ⟨-, ⟨-, hstep⟩ | ⟨hpart, hstep⟩⟩⟩
  · omega
  · left
    rw [hstep]
    simp
  · right
    obtain ⟨c, hc⟩ : ∃ c, cfg.nofSymbolsPerSlot - b.symbolId = c + 1 := ⟨cfg.nofSymbolsPerSlot - b.symbolId - 1, by omega⟩
    have hc' : cfg.nofSymbolsPerSlot - (b.symbolId + 1) = c := by omega
    rw [hstep]
    simp only [remaining, enterSymbol, FragmentSizeCalculator.init, hc, hc', Nat.succ_mul]
    omega
  · right
    rw [hstep]
    simp only [remaining]
    omega

lemma after_of_small (h : Fragmented cfg range (after cfg range pool n))
    (hrun : (after cfg range pool n).status = .running) (d : ℕ) (hsmall : ∀ i < d, ∃ dataSize,
      pool (n + i) = some dataSize ∧ frameSize cfg dataSize < getPrbDataSize cfg.comprParams) :
    after cfg range pool (n + d) = after cfg range pool n := by
  induction d with
  | zero => rfl
  | succ d ih =>
    obtain ⟨dataSize, hpool, hlt⟩ := hsmall d (Nat.lt_succ_self d)
    rw [← Nat.add_assoc, after, ih fun i hi => hsmall i (Nat.lt_succ_of_lt hi), hpool]
    rcases step_cases h hrun dataSize with ⟨-, hstep⟩ | ⟨hlarge, -⟩
    · exact hstep
    · omega

lemma exists_stopped (hfits : FramesFit cfg range pool) (hstarved : ¬Starved cfg range pool) (m n : ℕ)
    (hm : remaining cfg (after cfg range pool n) < m) : ∃ k, (after cfg range pool k).status ≠ .running := by
  induction m generalizing n with
  | zero => omega
  | succ m ih =>
    by_cases hrun : (after cfg range pool n).status = .running
    · have hex : ∃ d, ¬∃ dataSize, pool (n + d) = some dataSize ∧
          frameSize cfg dataSize < getPrbDataSize cfg.comprParams := by
        by_contra hall
        refine hstarved ⟨n, hrun, fun k hk => ?_⟩
        obtain ⟨d, rfl⟩ := Nat.exists_eq_add_of_le hk
        exact Classical.not_not.mp (not_exists.mp hall d)
      classical
      -- the buffers before the first one of use leave the state as it is
      have hsame := after_of_small (fragmented_after hfits n) hrun (Nat.find hex) fun i hi => Classical.not_not.mp (Nat.find_min hex hi)
      have huse := Nat.find_spec hex
      have hnext : after cfg range pool (n + Nat.find hex + 1) =
          (after cfg range pool n).step cfg range (pool (n + Nat.find hex)) := by
        rw [after, hsame]
      cases hpool : pool (n + Nat.find hex) with
      | none =>
        refine ⟨n + Nat.find hex + 1, ?_⟩
        rw [hnext, hpool]
        simp [step, hrun]
      | some dataSize =>
        have hlarge : getPrbDataSize cfg.comprParams ≤ frameSize cfg dataSize := by
          by_contra hsmall
          exact huse ⟨dataSize, hpool, by omega⟩
        rcases remaining_step (fragmented_after hfits n) hrun hlarge with hstop | hless
        · exact ⟨n + Nat.find hex + 1, by rw [hnext, hpool]; exact hstop⟩
        · exact ih (n + Nat.find hex + 1) (by rw [hnext, hpool]; omega)
    · exact ⟨n, hrun⟩

lemma stops (hfits : FramesFit cfg range pool) (hstarved : ¬Starved cfg range pool) :
    ∃ k, (after cfg range pool k).status ≠ .running :=
  exists_stopped hfits hstarved _ 0 (Nat.lt_succ_self _)

lemma not_aborted (hfits : FramesFit cfg range pool) (hstart : range.start = 0)
    (hstop : range.stop ≤ cfg.nofSymbolsPerSlot) (n : ℕ) :
    (after cfg range pool n).status ≠ .aborted ∧ (after cfg range pool n).symbolId ≤ range.length := by
  have henter : ∀ symbolId messages, symbolId ≤ range.length →
      (enterSymbol cfg range symbolId messages).status ≠ .aborted := by
    intro symbolId messages hle
    unfold OfdmSymbolRange.length at hle
    unfold enterSymbol OfdmSymbolRange.length
    split
    · simp
    · rw [if_pos (by omega)]
      simp
  induction n with
  | zero =>
    have hzero : range.start ≤ range.length := by omega
    exact ⟨henter _ _ hzero, hzero⟩
  | succ n ih =>
    rw [after]
    have hfrag := fragmented_after hfits n
    by_cases hrun : (after cfg range pool n).status = .running
    · cases hpool : pool n with
      | none => simpa [step, hrun] using ih.2
      | some dataSize =>
        have hne := (hfrag.running hrun).1
        have hright := (frameFits_iff hfrag dataSize).mp (hfits n dataSize hrun hpool)
        rcases step_cases hfrag hrun dataSize with ⟨-, hstep⟩ | ⟨hlarge, -, ⟨habort, -⟩ | ⟨-, ⟨-, hstep⟩ | ⟨-, hstep⟩⟩⟩
        · rw [hstep]
          exact ih
        · have hmax := (hright hlarge).1
          omega
        · have hle : (after cfg range pool n).symbolId + 1 ≤ range.length := by omega
          rw [hstep]
          exact ⟨henter _ _ hle, hle⟩
        · rw [hstep]
          exact ih
    · rw [step_of_not_running hrun]
      exact ih

lemma enterSymbol_status_ne (symbolId : ℕ) (messages : List UplaneMessage) :
    (enterSymbol cfg range symbolId messages).status ≠ .ranOut := by
  unfold enterSymbol
  split
  · simp
  · split <;> simp

lemma runsOut_of_ranOut (hfits : FramesFit cfg range pool)
    (h : (after cfg range pool n).status = .ranOut) : RunsOut cfg range pool := by
  induction n with
  | zero => exact absurd h (enterSymbol_status_ne _ _)
  | succ n ih =>
    rw [after] at h
    by_cases hrun : (after cfg range pool n).status = .running
    · cases hpool : pool n with
      | none => exact ⟨n, hrun, hpool⟩
      | some dataSize =>
        rw [hpool] at h
        rcases step_cases (fragmented_after hfits n) hrun dataSize with
          ⟨-, hstep⟩ | ⟨-, -, ⟨-, hstep⟩ | ⟨-, ⟨-, hstep⟩ | ⟨-, hstep⟩⟩⟩
        · exact ih (hstep ▸ h)
        · simp [hstep] at h
        · rw [hstep] at h
          exact absurd h (enterSymbol_status_ne _ _)
        · simp [hstep, hrun] at h
    · rw [step_of_not_running hrun] at h
      exact ih h

lemma headerPrbs_eq (h : Fragmented cfg range b) (symbolId : ℕ) : headerPrbs cfg b.messages symbolId = b.iqPrbs symbolId := by
  unfold headerPrbs iqPrbs
  apply List.map_congr_left
  intro m hm
  exact (h.right m (List.mem_of_mem_filter hm)).2.1

end SymbolBurst

open SymbolBurst in
/-- The burst is right exactly when every frame buffer fits, the loop is not starved, and the range begins with the
first symbol of the slot, unless the pool runs out before that matters. -/
theorem symbol_burst_right_iff (cfg : UplaneDownlinkConfig) (range : OfdmSymbolRange) (pool : ℕ → Option ℕ) :
    BurstRight cfg range pool ↔
      FramesFit cfg range pool ∧ ¬Starved cfg range pool ∧
        (range.start = 0 ∧ range.stop ≤ cfg.nofSymbolsPerSlot ∨ RunsOut cfg range pool) := by
  constructor
  · intro hright
    obtain ⟨k, hk⟩ := hright.returns
    have hstopped : (after cfg range pool k).status ≠ .running := by rcases hk with hk | hk <;> simp [hk]
    have hnever : ∀ n, (after cfg range pool n).status ≠ .aborted := by
      intro n habort
      rcases Nat.le_total n k with hle | hle
      · rw [after_of_stopped (by simp [habort]) hle, habort] at hk
        simp at hk
      · rw [after_of_stopped hstopped hle] at habort
        rw [habort] at hk
        simp at hk
    have hfits : FramesFit cfg range pool := by
      intro n
      induction n using Nat.strong_induction_on with
      | _ n ih =>
        intro dataSize hrun hpool
        have hfrag : Fragmented cfg range (after cfg range pool n) := by
          clear hrun hpool
          induction n with
          | zero => exact fragmented_init
          | succ n ihn =>
            refine fragmented_step (ihn fun m hm => ih m (Nat.lt_succ_of_lt hm)) _ fun hrun dataSize hpool => ?_
            exact ih n (Nat.lt_succ_self n) dataSize hrun hpool
        have hnext : after cfg range pool (n + 1) = (after cfg range pool n).step cfg range (some dataSize) := by
          rw [after, hpool]
        refine (frameFits_iff hfrag dataSize).mpr fun hlarge => ?_
        rcases step_cases hfrag hrun dataSize with ⟨hsmall, -⟩ | ⟨-, -, ⟨-, hstep⟩ | ⟨hmax, hstep⟩⟩
        · omega
        · exact absurd (by rw [hnext, hstep]) (hnever (n + 1))
        · refine ⟨hmax, hright.messages (n + 1) _ ?_⟩
          rw [hnext]
          rcases hstep with ⟨-, hstep⟩ | ⟨-, hstep⟩ <;> rw [hstep] <;> simp [enterSymbol]
    refine ⟨hfits, ?_, ?_⟩
    · rintro ⟨n, hrun, hsmall⟩
      have hlate : (after cfg range pool (n + k)).status ≠ .running := by
        rw [after_of_stopped hstopped (by omega)]
        exact hstopped
      rw [after_of_small (fragmented_after hfits n) hrun k fun i _ => hsmall (n + i) (by omega)] at hlate
      exact hlate hrun
    · rcases hk with hk | hk
      · left
        have hfrag := fragmented_after hfits k
        obtain ⟨hsym, hempty, hslot⟩ := hfrag.returned hk
        have hle := hfrag.start_le
        have hrange := range.le
        unfold OfdmSymbolRange.length at hsym
        -- a symbol at or behind the last one that the loop has come to holds no message
        have hnone : ∀ s, (after cfg range pool k).symbolId ≤ s → range.start ≤ s → ¬s < range.stop := by
          intro s hs hstart hstop
          have hpart := hright.symbols k s hstart hstop (Or.inl hk)
          rw [headerPrbs_eq hfrag] at hpart
          rcases Nat.eq_or_lt_of_le hs with rfl | hlt
          · rw [hempty] at hpart
            exact not_partitions_nil cfg.ruNofPrbs_pos hpart
          · rw [hfrag.later s hlt] at hpart
            exact not_partitions_nil cfg.ruNofPrbs_pos hpart
        have hend := hnone (after cfg range pool k).symbolId (Nat.le_refl _) hle
        omega
      · exact Or.inr (runsOut_of_ranOut hfits hk)
  · rintro ⟨hfits, hstarved, hend⟩
    refine ⟨?_, fun n m hm => (fragmented_after hfits n).right m hm, ?_⟩
    · rcases hend with ⟨hstart, hstop⟩ | ⟨n, hrun, hpool⟩
      · obtain ⟨k, hk⟩ := stops hfits hstarved
        have habort := (not_aborted hfits hstart hstop k).1
        refine ⟨k, ?_⟩
        cases hst : (after cfg range pool k).status with
        | running => exact absurd hst hk
        | returned => exact Or.inl rfl
        | ranOut => exact Or.inr rfl
        | aborted => exact absurd hst habort
      · refine ⟨n + 1, Or.inr ?_⟩
        rw [after, hpool]
        simp [step, hrun]
    · intro n s hstart hstop hwhen
      have hfrag := fragmented_after hfits n
      rw [headerPrbs_eq hfrag]
      refine partitions_of_tiles (hfrag.done s hstart ?_)
      rcases hwhen with hret | ⟨-, hlt⟩
      · have hsym := (hfrag.returned hret).1
        rcases hend with ⟨hzero, -⟩ | ⟨k, hrun, hpool⟩
        · unfold OfdmSymbolRange.length at hsym
          omega
        · exfalso
          have hout : (after cfg range pool (k + 1)).status = .ranOut := by
            rw [after, hpool]
            simp [step, hrun]
          rcases Nat.le_total n k with hle | hle
          · rw [after_of_stopped (by simp [hret]) hle, hret] at hrun
            simp at hrun
          · rcases Nat.eq_or_lt_of_le hle with rfl | hgt
            · rw [hret] at hrun
              simp at hrun
            · rw [after_of_stopped (by simp [hout]) hgt, hout] at hret
              simp at hret
      · exact hlt

instance (cfg : UplaneDownlinkConfig) (range : OfdmSymbolRange) (b : SymbolBurst) (dataSize : ℕ) :
    Decidable (FrameFits cfg range b dataSize) :=
  inferInstanceAs (Decidable (_ ∧ _))

def wideCarrier : UplaneDownlinkConfig where
  vlanTag := false
  dynamicCompression := false
  udCompLengthSupport := false
  comprParams := ⟨.bfp, 8, by decide, by decide⟩
  ruNofPrbs := 273
  nofSymbolsPerSlot := 14
  ruNofPrbs_pos := by decide
  ruNofPrbs_le := by decide

/-- Symbol 2 of the symbols 1 and 2 is left out. A part of 259 PRBs reads as the whole carrier. A buffer that is smaller
than the headers takes a whole symbol, one of 60 bytes a frame of 64, and a pool of buffers for the headers alone keeps
the loop going forever. -/
theorem symbol_burst_wrong :
    ¬BurstRight wideCarrier ⟨1, 3, by decide⟩ (fun _ => some 9000) ∧
      ¬BurstRight wideCarrier ⟨0, 1, by decide⟩ (fun _ => some 6520) ∧
      ¬BurstRight wideCarrier ⟨0, 1, by decide⟩ (fun _ => some 20) ∧
      ¬BurstRight wideCarrier ⟨0, 1, by decide⟩ (fun _ => some 60) ∧
      ¬BurstRight wideCarrier ⟨0, 1, by decide⟩ (fun _ => some 40) := by
  simp only [symbol_burst_right_iff]
  refine ⟨?_, ?_, ?_, ?_, ?_⟩
  · rintro ⟨-, -, ⟨hstart, -⟩ | ⟨n, -, hpool⟩⟩
    · exact absurd hstart (by decide)
    · exact absurd hpool (by simp)
  · rintro ⟨hfits, -, -⟩
    exact absurd (hfits 0 6520 (by decide) rfl) (by decide +kernel)
  · rintro ⟨hfits, -, -⟩
    exact absurd (hfits 0 20 (by decide) rfl) (by decide +kernel)
  · rintro ⟨hfits, -, -⟩
    exact absurd (hfits 0 60 (by decide) rfl) (by decide +kernel)
  · rintro ⟨-, hstarved, -⟩
    exact hstarved ⟨0, by decide, fun k _ => ⟨40, rfl, by decide +kernel⟩⟩

end OwlsRan.Ofh
