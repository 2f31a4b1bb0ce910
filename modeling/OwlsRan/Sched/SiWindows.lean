import OwlsRan.Sched.RbHelper
import OwlsRan.Sched.SiMessageScheduler

/-!
# SI windows and SI grants

A window that ends keeps the slot from opening the next one.
-/

namespace OwlsRan.Sched

open OwlsRan.Adt OwlsRan.Lib OwlsRan.Ran

section Starts

variable {numerology : Nat} (cfg : SiSchedulingConfig numerology) (i : Nat) (msg : SiMessageSchedulingConfig)
  (first : SlotPoint)

namespace SiSchedulingConfig

def WindowsShorter : Prop := ∀ msg ∈ cfg.siMessages, cfg.siWindowLenSlots < msg.periodRadioFrames * slotsPerFrame numerology

/-- The offset of the SI window of entry number `n` of the list, or of its window position. -/
def windowPosition (n : Nat) : Nat := (msg.siWindowPosition.getD n - 1) * cfg.siWindowLenSlots

/-- TS 38.331, clause 5.2.2.3.2: the SI window starts at slot `x` mod `N` in the radio frame for which SFN mod `T` is
⌊`x` / `N`⌋. -/
def StartsWindow (sl : SlotPoint) : Prop :=
  slotIndex sl = cfg.windowPosition msg (i + 1) % slotsPerFrame numerology ∧
    sl.sfn % msg.periodRadioFrames = cfg.windowPosition msg (i + 1) / slotsPerFrame numerology

/-- The `k`-th slot is in an SI window that starts in one of the slots up to it. -/
def InWindow (k : Nat) : Prop := ∃ a ≤ k, k < a + cfg.siWindowLenSlots ∧ cfg.StartsWindow i msg (first.add a)

variable {cfg i msg first}

lemma isWindowStart_iff {sl : SlotPoint} (hsl : sl.numerology = numerology) :
    cfg.isWindowStart i msg sl = true ↔ cfg.StartsWindow i msg sl := by
  have hframe : sl.nofSlotsPerFrame = slotsPerFrame numerology := by
    unfold slotsPerFrame SlotPoint.nofSlotsPerFrame SlotPoint.nofSlotsPerSubframe
    rw [hsl]
  have hoffset : cfg.windowOffset i msg = cfg.windowPosition msg (i + 1) := by
    unfold windowOffset windowPosition
    cases msg.siWindowPosition with
    | none => rfl
    | some position => rfl
  unfold isWindowStart StartsWindow
  dsimp only
  rw [hoffset, hframe, Bool.and_eq_true, decide_eq_true_eq, decide_eq_true_eq]

lemma mod_of_startsWindow {sl : SlotPoint} (h : cfg.StartsWindow i msg sl) (hsl : sl.numerology = numerology) :
    sl.count % (slotsPerFrame numerology * msg.periodRadioFrames) =
      cfg.windowPosition msg (i + 1) % slotsPerFrame numerology +
        slotsPerFrame numerology * (cfg.windowPosition msg (i + 1) / slotsPerFrame numerology) := by
  have hframe : sl.nofSlotsPerFrame = slotsPerFrame numerology := by
    unfold slotsPerFrame SlotPoint.nofSlotsPerFrame SlotPoint.nofSlotsPerSubframe
    rw [hsl]
  obtain ⟨hindex, hsfn⟩ := h
  unfold slotIndex at hindex
  unfold SlotPoint.sfn at hsfn
  rw [hframe] at hindex hsfn
  rw [Nat.mod_mod_of_dvd _ msg.period_dvd] at hsfn
  rw [Nat.mod_mul, hindex, hsfn]

lemma period_le_of_starts (hfirst : first.numerology = numerology) {a b : Nat} (hab : a < b)
    (ha : cfg.StartsWindow i msg (first.add a)) (hb : cfg.StartsWindow i msg (first.add b)) :
    msg.periodRadioFrames * slotsPerFrame numerology ≤ b - a := by
  have hframe : first.nofSlotsPerFrame = slotsPerFrame numerology := by
    unfold slotsPerFrame SlotPoint.nofSlotsPerFrame SlotPoint.nofSlotsPerSubframe
    rw [hfirst]
  have hmod := (mod_of_startsWindow ha hfirst).trans (mod_of_startsWindow hb hfirst).symm
  have hdvd : slotsPerFrame numerology * msg.periodRadioFrames ∣ first.nofSlotsPerHyperSystemFrame := by
    unfold SlotPoint.nofSlotsPerHyperSystemFrame
    rw [hframe]
    exact Nat.mul_dvd_mul_left _ msg.period_dvd
  rw [SlotPoint.add_count, SlotPoint.add_count, Nat.mod_mod_of_dvd _ hdvd, Nat.mod_mod_of_dvd _ hdvd] at hmod
  have hdvd' := (Nat.modEq_iff_dvd' (by omega)).mp (show _ ≡ _ [MOD _] from hmod)
  rw [Nat.add_sub_add_left] at hdvd'
  rw [Nat.mul_comm]
  exact Nat.le_of_dvd (by omega) hdvd'

lemma start_unique (hfirst : first.numerology = numerology) (hmsg : msg ∈ cfg.siMessages) {a b k : Nat} (ha : a ≤ k)
    (hb : b ≤ k) (hka : k < a + cfg.siWindowLenSlots) (hkb : k < b + cfg.siWindowLenSlots)
    (hsa : cfg.StartsWindow i msg (first.add a)) (hsb : cfg.StartsWindow i msg (first.add b)) : a = b := by
  have hlen := cfg.len_le msg hmsg
  rcases Nat.lt_trichotomy a b with hlt | heq | hlt
  · have := period_le_of_starts hfirst hlt hsa hsb
    omega
  · exact heq
  · have := period_le_of_starts hfirst hlt hsb hsa
    omega

end SiSchedulingConfig

end Starts

section Grants

variable {Mcs Dmrs : Type} {numerology : Nat} (cell : SiCell Mcs Dmrs numerology)

def allCrbs : UnsignedInterval := .ofStartAndLen 0 MAX_NOF_PRBS

namespace SiCell

def HasSpace (msgLen : Nat) (res : SiSlot) : Prop :=
  (∃ row, cell.getSiRntiType0ACommonPdschTimeDomainList[timeResource]? = some row ∧
    ∃ s, FreeRun (cell.usedCrbsOf res row) allCrbs s (cell.siPrbsTbs msgLen row).nofPrbs) ∧
    ∃ pdcch, res.pdcch.allocDlPdcchHelper cell.pdcchRequest = .ok (true, pdcch)

/-- The TBS that a receiver computes from the DCI, for a row of the time domain list and a number of PRBs. -/
def receivedTbs (dci : Dci10SiRnti) (row : PdschTimeDomainResourceAllocation) (nPrb : Nat) : Nat :=
  cell.functions.tbs.calculate {
    nofSymbSh := row.symbols.length
    nofDmrsPrb := cell.functions.calculateNofDmrsPerRb (cell.functions.makeDmrsInfoCommon row)
    nofOhPrb := 0
    mcsDescr := cell.functions.pdschMcsGetConfig dci.modulationCodingScheme
    nofLayers := 1
    nPrb := nPrb } / NOF_BITS_PER_BYTE

/-- The DCI has the MCS and the row from which the PRBs, the symbols and the TBS of the PDSCH were computed. -/
structure Describes (msgLen : Nat) (tx : SiTransmission Dmrs) (row : PdschTimeDomainResourceAllocation) : Prop where
  isRow : cell.getSiRntiType0ACommonPdschTimeDomainList[tx.dci.timeResource]? = some row
  mcs : tx.dci.modulationCodingScheme = cell.siMessageMcsIndex
  symbols : tx.sib.pdschCfg.symbols = row.symbols
  prbs : tx.sib.pdschCfg.rbs.length = (cell.siPrbsTbs msgLen row).nofPrbs
  tbs : tx.sib.pdschCfg.tbSizeBytes = (cell.siPrbsTbs msgLen row).tbsBytes
  received : cell.receivedTbs tx.dci row tx.sib.pdschCfg.rbs.length = tx.sib.pdschCfg.tbSizeBytes

def SharesSib1Grant : Prop :=
  cell.sib1McsIndex = cell.siMessageMcsIndex ∧
    cell.getSiRntiPdschTimeDomainList[timeResource]?.map PdschTimeDomainResourceAllocation.symbols =
      cell.getSiRntiType0ACommonPdschTimeDomainList[timeResource]?.map PdschTimeDomainResourceAllocation.symbols

variable {cell}

lemma crbLims_le_of_free {res : SiSlot} {row : PdschTimeDomainResourceAllocation} {crbs : UnsignedInterval}
    (hfree : AllFree (cell.usedCrbsOf res row) crbs) (hne : crbs.start < crbs.stop) :
    cell.crbLims.start ≤ crbs.start := by
  have hin : crbs.start < cell.carrier.carrierBandwidth := by
    have hstop := hfree.1
    rw [SiCell.usedCrbsOf, size_usedCrbs] at hstop
    omega
  have hbit := hfree.2 crbs.start ⟨Nat.le_refl _, hne⟩
  rw [SiCell.usedCrbsOf, bit_usedCrbs hin, Bool.or_eq_false_iff, Bool.not_eq_false'] at hbit
  unfold UnsignedInterval.contains at hbit
  rw [Bool.and_eq_true, decide_eq_true_eq] at hbit
  exact hbit.1.1

lemma length_crbToVrb {crbs : UnsignedInterval} (h : crbs.start < crbs.stop → cell.coresetStartCrb ≤ crbs.start) :
    (cell.crbToVrb crbs).length = crbs.length := by
  have hvalid := crbs.valid
  unfold SiCell.crbToVrb UnsignedInterval.length
  dsimp only
  by_cases hne : crbs.start < crbs.stop
  · have := h hne
    omega
  · omega

lemma receivedTbs_eq {dci : Dci10SiRnti} {row : PdschTimeDomainResourceAllocation} {msgLen : Nat}
    (hmcs : dci.modulationCodingScheme = cell.siMessageMcsIndex) :
    cell.receivedTbs dci row (cell.siPrbsTbs msgLen row).nofPrbs = (cell.siPrbsTbs msgLen row).tbsBytes := by
  unfold siPrbsTbs
  rw [TbsCalculator.getNofPrbs_tbsBytes, receivedTbs, hmcs]
  rfl

section Allocation

variable {version i msgLen : Nat} {ctx : MessageWindowContext} {res res' : SiSlot} {out : Option (SiTransmission Dmrs)}

lemma fillSiGrant_describes_iff {crbs : UnsignedInterval} {row : PdschTimeDomainResourceAllocation}
    {tx : SiTransmission Dmrs} (hrow : cell.getSiRntiType0ACommonPdschTimeDomainList[timeResource]? = some row)
    (hlen : crbs.length = (cell.siPrbsTbs msgLen row).nofPrbs)
    (hstart : crbs.start < crbs.stop → cell.coresetStartCrb ≤ crbs.start)
    (h : cell.fillSiGrant version i ctx crbs (cell.functions.makeDmrsInfoCommon row)
      (cell.siPrbsTbs msgLen row).tbsBytes = .ok tx) : (∃ row', cell.Describes msgLen tx row') ↔ cell.SharesSib1Grant := by
  unfold fillSiGrant at h
  dsimp only at h
  split at h
  case h_1 => cases h
  case h_2 default hdefault =>
    obtain rfl := Except.ok.inj h
    unfold SharesSib1Grant
    rw [hrow, hdefault]
    constructor
    · rintro ⟨row', hdescribes⟩
      obtain rfl := Option.some.inj (hrow.symm.trans hdescribes.isRow)
      exact ⟨hdescribes.mcs, congrArg some hdescribes.symbols⟩
    · rintro ⟨hmcs, hsymbols⟩
      have hprbs : (cell.crbToVrb crbs).length = (cell.siPrbsTbs msgLen row).nofPrbs := (length_crbToVrb hstart).trans hlen
      refine ⟨row, hrow, hmcs, Option.some.inj hsymbols, hprbs, rfl, ?_⟩
      change cell.receivedTbs _ row (cell.crbToVrb crbs).length = (cell.siPrbsTbs msgLen row).tbsBytes
      rw [hprbs]
      exact receivedTbs_eq hmcs

lemma allocateSiMessage_spec (h : cell.allocateSiMessage version i msgLen ctx res = .ok (out, res')) :
    (out ≠ none ↔ cell.HasSpace msgLen res) ∧
      ∀ tx, out = some tx → ((∃ row, cell.Describes msgLen tx row) ↔ cell.SharesSib1Grant) := by
  unfold allocateSiMessage at h
  split at h
  case h_1 => cases h
  case h_2 row hrow =>
    dsimp only at h
    split at h
    case h_1 => cases h
    case h_2 crbs hcrbs =>
      obtain ⟨hfree, hshort, hfits⟩ := findEmptyIntervalOfLength_fits hcrbs
      split at h
      case isTrue hlt =>
        obtain ⟨rfl, rfl⟩ := Prod.mk.inj (Except.ok.inj h)
        refine ⟨⟨fun hne => absurd rfl hne, ?_⟩, fun tx htx => nomatch htx⟩
        rintro ⟨⟨row', hrow', hrun⟩, -⟩
        obtain rfl := Option.some.inj (hrow.symm.trans hrow')
        exact absurd (hfits.mpr hrun) (Nat.not_le_of_lt hlt)
      case isFalse hlong =>
        have hrun := hfits.mp (Nat.le_of_not_lt hlong)
        split at h
        case h_1 => cases h
        case h_2 pdcch hpdcch =>
          obtain ⟨rfl, rfl⟩ := Prod.mk.inj (Except.ok.inj h)
          refine ⟨⟨fun hne => absurd rfl hne, ?_⟩, fun tx htx => nomatch htx⟩
          rintro ⟨-, pdcch', hpdcch'⟩
          rw [hpdcch] at hpdcch'
          cases hpdcch'
        case h_3 pdcch hpdcch =>
          split at h
          case isTrue => cases h
          case isFalse =>
            obtain ⟨tx, htx, heq⟩ := map_eq_ok.mp h
            obtain ⟨rfl, rfl⟩ := Prod.mk.inj heq
            refine ⟨⟨fun _ => ⟨⟨row, hrow, hrun⟩, pdcch, hpdcch⟩, fun _ => Option.some_ne_none _⟩, ?_⟩
            intro tx' htx'
            obtain rfl := Option.some.inj htx'
            have hlen : crbs.length = (cell.siPrbsTbs msgLen row).nofPrbs :=
              Nat.le_antisymm hshort (Nat.le_of_not_lt hlong)
            exact fillSiGrant_describes_iff hrow hlen
              (fun hne => cell.coresetStartCrb_le.trans (crbLims_le_of_free hfree hne)) htx

end Allocation

end SiCell

end Grants

section Turns

variable {Mcs Dmrs : Type} {numerology : Nat} {cell : SiCell Mcs Dmrs numerology} {version i : Nat} {sl : SlotPoint}
  {res : SiSlot}

namespace SiMessageScheduler

lemma scheduleMessage_spec {msg : SiMessageSchedulingConfig} {ctx : MessageWindowContext}
    {out : Option (SiTransmission Dmrs) × SiSlot} (h : scheduleMessage cell version sl i msg ctx res = .ok out) :
    (out.1 ≠ none ↔ ctx.window ≠ none ∧ ctx.nofTxInCurrentWindow = 0 ∧
      isPdcchMonitoringActive sl cell.monitoring = true ∧ cell.HasSpace msg.msgLen res) ∧
      ∀ tx, out.1 = some tx → ((∃ row, cell.Describes msg.msgLen tx row) ↔ cell.SharesSib1Grant) := by
  unfold scheduleMessage at h
  split at h
  case isTrue hclosed =>
    obtain rfl := Except.ok.inj h
    refine ⟨⟨fun hne => absurd rfl hne, ?_⟩, fun tx htx => nomatch htx⟩
    rintro ⟨hopen, hzero, -⟩
    rcases hclosed with hnone | hpos
    · exact absurd hnone hopen
    · omega
  case isFalse hopen =>
    rw [not_or, Nat.not_lt, Nat.le_zero] at hopen
    split at h
    case isTrue hinactive =>
      obtain rfl := Except.ok.inj h
      refine ⟨⟨fun hne => absurd rfl hne, ?_⟩, fun tx htx => nomatch htx⟩
      rintro ⟨-, -, hactive, -⟩
      rw [hinactive] at hactive
      cases hactive
    case isFalse hactive =>
      obtain ⟨hspace, hdescribes⟩ := SiCell.allocateSiMessage_spec h
      refine ⟨hspace.trans ⟨fun hs => ⟨hopen.1, hopen.2, Bool.eq_true_of_not_eq_false hactive, hs⟩, fun hs => hs.2.2.2⟩,
        hdescribes⟩

lemma scheduleLoop_spec {l : List (SiMessageSchedulingConfig × MessageWindowContext)} {out : List (SiTurn Dmrs) × SiSlot}
    (h : scheduleLoop cell version sl i l res = .ok out) :
    out.1.length = l.length ∧ ∀ j msg ctx, l[j]? = some (msg, ctx) → ∃ turn, out.1[j]? = some turn ∧ turn.context = ctx ∧
      ∃ res', scheduleMessage cell version sl (i + j) msg ctx turn.resources = .ok (turn.transmitted, res') := by
  induction l generalizing i res out with
  | nil =>
    obtain rfl := Except.ok.inj h
    exact ⟨rfl, fun j msg ctx hj => nomatch hj⟩
  | cons m l ih =>
    obtain ⟨first, hfirst, h⟩ := bind_eq_ok.mp h
    obtain ⟨more, hmore, h⟩ := bind_eq_ok.mp h
    obtain rfl := Except.ok.inj h
    obtain ⟨hlen, hturns⟩ := ih hmore
    refine ⟨congrArg Nat.succ hlen, fun j msg ctx hj => ?_⟩
    cases j with
    | zero =>
      obtain rfl := Option.some.inj hj
      exact ⟨_, rfl, rfl, first.2, hfirst⟩
    | succ j =>
      obtain ⟨turn, hturn, hctx, hres⟩ := hturns j msg ctx hj
      rw [Nat.add_right_comm] at hres
      exact ⟨turn, hturn, hctx, hres⟩

lemma runSlot_spec {s : SiMessageScheduler numerology} {cfg : SiSchedulingConfig numerology}
    {out : List (SiTurn Dmrs) × SiMessageScheduler numerology × SiSlot} (hcfg : s.siSchedCfg = some cfg)
    (hlen : s.pendingMessages.length = cfg.siMessages.length) (h : s.runSlot cell sl res = .ok out) :
    out.2.1 = { s with pendingMessages := out.1.map SiTurn.contextAfter } ∧ out.1.length = cfg.siMessages.length ∧
      ∀ i msg ctx, cfg.siMessages[i]? = some msg → s.pendingMessages[i]? = some ctx → ∃ turn, out.1[i]? = some turn ∧
        turn.context = cfg.updateWindow sl i msg ctx ∧
        ∃ res', scheduleMessage cell s.version sl i msg turn.context turn.resources = .ok (turn.transmitted, res') := by
  unfold runSlot at h
  rw [hcfg] at h
  obtain ⟨loop, hloop, h⟩ := bind_eq_ok.mp h
  obtain rfl := Except.ok.inj h
  obtain ⟨hturns, hturn⟩ := scheduleLoop_spec hloop
  refine ⟨by rw [hcfg], ?_, fun i msg ctx hmsg hctx => ?_⟩
  · rw [hturns, updateSiMessageWindows, List.length_mapIdx, messages, List.length_zip, hlen, Nat.min_self]
  · have hget : (s.updateSiMessageWindows cfg sl)[i]? = some (msg, cfg.updateWindow sl i msg ctx) := by
      have hzip : (s.messages cfg)[i]? = some (msg, ctx) := List.getElem?_zip_eq_some.mpr ⟨hmsg, hctx⟩
      rw [updateSiMessageWindows, List.getElem?_mapIdx, hzip]
      rfl
    obtain ⟨turn, hi, hcontext, hout⟩ := hturn i msg _ hget
    rw [Nat.zero_add, ← hcontext] at hout
    exact ⟨turn, hi, hcontext, hout⟩

end SiMessageScheduler

end Turns

namespace SiRun

variable {Mcs Dmrs : Type} {numerology : Nat}

/-- The turn of a message of the configuration, `k` slots after the last update. -/
structure TurnAt (r : SiRun Dmrs numerology) (cfg : SiSchedulingConfig numerology) (k i : Nat)
    (msg : SiMessageSchedulingConfig) (turn : SiTurn Dmrs) : Prop where
  message : cfg.siMessages[i]? = some msg
  turn : (r.slots[k]?.bind fun turns => turns[i]?) = some turn

def SentAt (slots : List (List (SiTurn Dmrs))) (i k : Nat) : Prop :=
  ∃ turn, (slots[k]?.bind fun turns => turns[i]?) = some turn ∧ turn.transmitted ≠ none

def SentBefore (r : SiRun Dmrs numerology) (cfg : SiSchedulingConfig numerology) (i k : Nat)
    (msg : SiMessageSchedulingConfig) : Prop :=
  ∃ a, cfg.StartsWindow i msg (r.first.add a) ∧ k < a + cfg.siWindowLenSlots ∧ ∃ j, a ≤ j ∧ j < k ∧ SentAt r.slots i j

/-- What holds of the turn of a message in the `k`-th slot: its window is open in the slots of its SI windows, it is
transmitted in the first slot of a window in which the PDCCH is monitored and there is space, and its DCI describes it. -/
structure TurnFollows (cell : SiCell Mcs Dmrs numerology) (r : SiRun Dmrs numerology) (cfg : SiSchedulingConfig numerology)
    (k i : Nat) (msg : SiMessageSchedulingConfig) (turn : SiTurn Dmrs) : Prop where
  window : turn.context.window ≠ none ↔ cfg.InWindow i msg r.first k
  transmitted : turn.transmitted ≠ none ↔ cfg.InWindow i msg r.first k ∧ ¬r.SentBefore cfg i k msg ∧
    isPdcchMonitoringActive (r.first.add k) cell.monitoring = true ∧ cell.HasSpace msg.msgLen turn.resources
  described : ∀ tx, turn.transmitted = some tx → ∃ row, cell.Describes msg.msgLen tx row

/-- What holds of the slots since the last update: a message has a turn in every slot, and it is not transmitted twice in
a window. -/
structure FollowsWindows (cell : SiCell Mcs Dmrs numerology) (r : SiRun Dmrs numerology)
    (cfg : SiSchedulingConfig numerology) : Prop where
  complete : ∀ k i msg, k < r.slots.length → cfg.siMessages[i]? = some msg → ∃ turn, r.TurnAt cfg k i msg turn
  follows : ∀ k i msg turn, r.TurnAt cfg k i msg turn → r.TurnFollows cell cfg k i msg turn
  once : ∀ i msg a j k, cfg.siMessages[i]? = some msg → cfg.StartsWindow i msg (r.first.add a) → a ≤ j → j < k →
    k < a + cfg.siWindowLenSlots → SentAt r.slots i j → ¬SentAt r.slots i k

def Sound (cell : SiCell Mcs Dmrs numerology) (r : SiRun Dmrs numerology) : Prop :=
  ∀ cfg, r.scheduler.siSchedCfg = some cfg → r.FollowsWindows cell cfg

def WindowsApart (r : SiRun Dmrs numerology) : SiEvent numerology → Prop
  | .runSlot _ => ∀ cfg, r.scheduler.siSchedCfg = some cfg → ∀ i msg ctx window,
    cfg.siMessages[i]? = some msg → r.scheduler.pendingMessages[i]? = some ctx → ctx.window = some window →
      window.stop = r.slot → ¬cfg.StartsWindow i msg r.slot
  | .update .. => True

section Contexts

variable {cfg : SiSchedulingConfig numerology} {i n : Nat} {msg : SiMessageSchedulingConfig}
  {slots : List (List (SiTurn Dmrs))} {turns : List (SiTurn Dmrs)} {first : SlotPoint} {ctx : MessageWindowContext}

/-- The window of a context starts at the `a`-th slot; its counter says whether the message was transmitted since. -/
structure OpenSince (cfg : SiSchedulingConfig numerology) (i : Nat) (msg : SiMessageSchedulingConfig) (first : SlotPoint)
    (slots : List (List (SiTurn Dmrs))) (ctx : MessageWindowContext) (a : Nat) : Prop where
  starts : cfg.StartsWindow i msg (first.add a)
  window : ctx.window = some ⟨first.add a, first.add (a + cfg.siWindowLenSlots)⟩
  counter : ctx.nofTxInCurrentWindow = 0 ↔ ∀ j, a ≤ j → j < slots.length → ¬SentAt slots i j

/-- Before the windows are updated for the next slot. A window that has ended is still there. -/
def Waits (cfg : SiSchedulingConfig numerology) (i : Nat) (msg : SiMessageSchedulingConfig) (first : SlotPoint)
    (slots : List (List (SiTurn Dmrs))) (ctx : MessageWindowContext) : Prop :=
  (ctx.window = none ∧ ∀ a < slots.length, cfg.StartsWindow i msg (first.add a) →
      a + cfg.siWindowLenSlots ≤ slots.length) ∨
    ∃ a < slots.length, slots.length ≤ a + cfg.siWindowLenSlots ∧ OpenSince cfg i msg first slots ctx a

def Updated (cfg : SiSchedulingConfig numerology) (i : Nat) (msg : SiMessageSchedulingConfig) (first : SlotPoint)
    (slots : List (List (SiTurn Dmrs))) (ctx : MessageWindowContext) : Prop :=
  (ctx.window = none ∧ ¬cfg.InWindow i msg first slots.length) ∨
    ∃ a ≤ slots.length, slots.length < a + cfg.siWindowLenSlots ∧ OpenSince cfg i msg first slots ctx a

lemma sentAt_concat_lt {j : Nat} (hj : j < slots.length) : SentAt (slots ++ [turns]) i j ↔ SentAt slots i j := by
  unfold SentAt
  rw [List.getElem?_append_left hj]

lemma sentAt_concat_self : SentAt (slots ++ [turns]) i slots.length ↔
    ∃ turn, turns[i]? = some turn ∧ turn.transmitted ≠ none := by
  unfold SentAt
  rw [List.getElem?_concat_length]
  rfl

lemma ends_iff (cfg : SiSchedulingConfig numerology) {a : Nat} (ha : a < n) (hn : n ≤ a + cfg.siWindowLenSlots) :
    (first.add (a + cfg.siWindowLenSlots) = first.add n ∨
      (first.add (a + cfg.siWindowLenSlots)).lt (first.add n) = true) ↔ n = a + cfg.siWindowLenSlots := by
  have hmax := cfg.len_le_max
  unfold maxSiWindowLenSlots at hmax
  have hhyper : 10240 ≤ first.nofSlotsPerHyperSystemFrame := by
    rw [SlotPoint.hyperFrame_eq]
    exact Nat.le_mul_of_pos_right _ (Nat.two_pow_pos _)
  constructor
  · rintro (heq | hlt)
    · by_contra hne
      have hbefore : (first.add n).lt (first.add (a + cfg.siWindowLenSlots)) = true :=
        (SlotPoint.add_lt_add_iff (by omega) (by omega)).mpr (by omega)
      rw [heq, SlotPoint.add_lt_add_iff (by omega) (by omega)] at hbefore
      omega
    · have := (SlotPoint.add_lt_add_iff (by omega) (by omega)).mp hlt
      omega
  · exact fun heq => .inl (by rw [heq])

variable (hfirst : first.numerology = numerology) (hmsg : msg ∈ cfg.siMessages)

include hfirst in
lemma updated_of_closed (hnone : ctx.window = none)
    (hbefore : ∀ a < slots.length, cfg.StartsWindow i msg (first.add a) → a + cfg.siWindowLenSlots ≤ slots.length) :
    Updated cfg i msg first slots (cfg.updateWindow (first.add slots.length) i msg ctx) := by
  have hpos := cfg.len_pos
  have hiff : cfg.isWindowStart i msg (first.add slots.length) = true ↔ cfg.StartsWindow i msg (first.add slots.length) :=
    SiSchedulingConfig.isWindowStart_iff hfirst
  unfold SiSchedulingConfig.updateWindow
  rw [hnone]
  dsimp only
  split
  case isTrue hstart =>
    have hstarts := hiff.mp hstart
    refine .inr ⟨slots.length, Nat.le_refl _, by omega, hstarts, ?_, ?_⟩
    · dsimp only
      rw [SlotPoint.add_add]
    · exact ⟨fun _ j hle hlt => absurd hlt (Nat.not_lt_of_le hle), fun _ => rfl⟩
  case isFalse hstart =>
    refine .inl ⟨hnone, ?_⟩
    rintro ⟨a, hle, hlt, hstarts⟩
    rcases Nat.lt_or_eq_of_le hle with hbefore' | rfl
    · have := hbefore a hbefore' hstarts
      omega
    · exact hstart (hiff.mpr hstarts)

include hfirst hmsg in
lemma not_inWindow_of_ends {a : Nat} (hstarts : cfg.StartsWindow i msg (first.add a))
    (hend : n = a + cfg.siWindowLenSlots) (hapart : ¬cfg.StartsWindow i msg (first.add n)) :
    ¬cfg.InWindow i msg first n := by
  rintro ⟨b, hle, hlt, hb⟩
  have hlen := cfg.len_le msg hmsg
  rcases Nat.lt_or_eq_of_le hle with hbn | rfl
  · have hab : a < b := by omega
    have := SiSchedulingConfig.period_le_of_starts hfirst hab hstarts hb
    omega
  · exact hapart hb

include hfirst hmsg in
lemma updated_of_waits (h : Waits cfg i msg first slots ctx)
    (hapart : ∀ window, ctx.window = some window → window.stop = first.add slots.length →
      ¬cfg.StartsWindow i msg (first.add slots.length)) :
    Updated cfg i msg first slots (cfg.updateWindow (first.add slots.length) i msg ctx) := by
  rcases h with ⟨hnone, hbefore⟩ | ⟨a, ha, hn, hopen⟩
  · exact updated_of_closed hfirst hnone hbefore
  · unfold SiSchedulingConfig.updateWindow
    rw [hopen.window]
    dsimp only
    split
    case isTrue hends =>
      have hend := (ends_iff cfg ha hn).mp hends
      refine .inl ⟨rfl, not_inWindow_of_ends hfirst hmsg hopen.starts hend ?_⟩
      apply hapart _ hopen.window
      dsimp only
      rw [hend]
    case isFalse hends =>
      have hne : slots.length ≠ a + cfg.siWindowLenSlots := fun heq => hends ((ends_iff cfg ha hn).mpr heq)
      exact .inr ⟨a, ha.le, by omega, hopen⟩

lemma Updated.window_iff (h : Updated cfg i msg first slots ctx) :
    ctx.window ≠ none ↔ cfg.InWindow i msg first slots.length := by
  rcases h with ⟨hnone, hout⟩ | ⟨a, ha, hn, hopen⟩
  · exact ⟨fun hne => absurd hnone hne, fun hin => absurd hin hout⟩
  · refine ⟨fun _ => ⟨a, ha, hn, hopen.starts⟩, fun _ => ?_⟩
    rw [hopen.window]
    exact Option.some_ne_none _

lemma window_contextAfter (turn : SiTurn Dmrs) : turn.contextAfter.window = turn.context.window := by
  unfold SiTurn.contextAfter
  split
  · rfl
  · rfl

lemma counter_contextAfter (turn : SiTurn Dmrs) : turn.contextAfter.nofTxInCurrentWindow = 0 ↔
    turn.context.nofTxInCurrentWindow = 0 ∧ turn.transmitted = none := by
  unfold SiTurn.contextAfter
  cases turn.transmitted with
  | none => simp
  | some tx => simp

lemma waits_of_updated {turn : SiTurn Dmrs} (h : Updated cfg i msg first slots turn.context) (hturn : turns[i]? = some turn) :
    Waits cfg i msg first (slots ++ [turns]) turn.contextAfter := by
  have hlen : (slots ++ [turns]).length = slots.length + 1 := by rw [List.length_append, List.length_singleton]
  unfold Waits
  rw [hlen]
  rcases h with ⟨hnone, hout⟩ | ⟨a, ha, hn, hopen⟩
  · refine .inl ⟨(window_contextAfter turn).trans hnone, fun a ha hstarts => ?_⟩
    by_contra hlong
    exact hout ⟨a, by omega, by omega, hstarts⟩
  · refine .inr ⟨a, by omega, by omega, hopen.starts, (window_contextAfter turn).trans hopen.window, ?_⟩
    rw [counter_contextAfter, hopen.counter, hlen]
    have hself : SentAt (slots ++ [turns]) i slots.length ↔ turn.transmitted ≠ none := by
      rw [sentAt_concat_self, hturn]
      simp
    constructor
    · rintro ⟨hbefore, hnone⟩ j hle hlt
      rcases Nat.lt_or_eq_of_le (Nat.le_of_lt_succ hlt) with hj | rfl
      · rw [sentAt_concat_lt hj]
        exact hbefore j hle hj
      · rw [hself]
        exact fun hne => hne hnone
    · intro hall
      refine ⟨fun j hle hlt => ?_, ?_⟩
      · have := hall j hle (by omega)
        rwa [sentAt_concat_lt hlt] at this
      · by_contra hne
        exact hall slots.length ha (Nat.lt_succ_self _) (hself.mpr hne)

lemma Updated.unsent_iff {r : SiRun Dmrs numerology} (hr : r.first.numerology = numerology) (hmsg : msg ∈ cfg.siMessages)
    (h : Updated cfg i msg r.first r.slots ctx) : ctx.window ≠ none ∧ ctx.nofTxInCurrentWindow = 0 ↔
      cfg.InWindow i msg r.first r.slots.length ∧ ¬r.SentBefore cfg i r.slots.length msg := by
  rw [h.window_iff]
  apply and_congr_right
  intro hin
  rcases h with ⟨-, hout⟩ | ⟨a, ha, hn, hopen⟩
  · exact absurd hin hout
  · rw [hopen.counter]
    constructor
    · rintro hall ⟨b, hb, hnb, j, hbj, hj, hsent⟩
      obtain rfl := SiSchedulingConfig.start_unique hr hmsg ha (hbj.trans hj.le) hn hnb hopen.starts hb
      exact hall j hbj hj hsent
    · intro hunsent j hle hlt hsent
      exact hunsent ⟨a, hopen.starts, hn, j, hle, hlt, hsent⟩

end Contexts

section History

variable {cell : SiCell Mcs Dmrs numerology} {r r' : SiRun Dmrs numerology} {cfg : SiSchedulingConfig numerology}
  {turns : List (SiTurn Dmrs)} {k i : Nat} {msg : SiMessageSchedulingConfig} {turn : SiTurn Dmrs}

lemma turnAt_concat (hslots : r'.slots = r.slots ++ [turns]) (h : r'.TurnAt cfg k i msg turn) :
    r.TurnAt cfg k i msg turn ∨ k = r.slots.length ∧ turns[i]? = some turn := by
  obtain ⟨hmsg, hturn⟩ := h
  rw [hslots] at hturn
  rcases Nat.lt_trichotomy k r.slots.length with hlt | rfl | hgt
  · rw [List.getElem?_append_left hlt] at hturn
    exact .inl ⟨hmsg, hturn⟩
  · rw [List.getElem?_concat_length] at hturn
    exact .inr ⟨rfl, hturn⟩
  · rw [List.getElem?_eq_none (by simp; omega)] at hturn
    cases hturn

lemma lt_of_turnAt (h : r.TurnAt cfg k i msg turn) : k < r.slots.length := by
  by_contra hlong
  have hturn := h.turn
  rw [List.getElem?_eq_none (Nat.le_of_not_lt hlong)] at hturn
  cases hturn

lemma sentBefore_concat (hfirst : r'.first = r.first) (hslots : r'.slots = r.slots ++ [turns]) (hk : k ≤ r.slots.length) :
    r'.SentBefore cfg i k msg ↔ r.SentBefore cfg i k msg := by
  unfold SentBefore
  rw [hfirst, hslots]
  have hsent : ∀ j < k, SentAt (r.slots ++ [turns]) i j ↔ SentAt r.slots i j :=
    fun j hj => sentAt_concat_lt (hj.trans_le hk)
  constructor
  · rintro ⟨a, hstarts, hlt, j, haj, hjk, hj⟩
    exact ⟨a, hstarts, hlt, j, haj, hjk, (hsent j hjk).mp hj⟩
  · rintro ⟨a, hstarts, hlt, j, haj, hjk, hj⟩
    exact ⟨a, hstarts, hlt, j, haj, hjk, (hsent j hjk).mpr hj⟩

lemma TurnFollows.concat (h : r.TurnFollows cell cfg k i msg turn) (hfirst : r'.first = r.first)
    (hslots : r'.slots = r.slots ++ [turns]) (hk : k ≤ r.slots.length) : r'.TurnFollows cell cfg k i msg turn := by
  refine ⟨?_, ?_, h.described⟩
  · rw [hfirst]
    exact h.window
  · rw [sentBefore_concat hfirst hslots hk, hfirst]
    exact h.transmitted

lemma once_of_follows (h : ∀ k i msg turn, r.TurnAt cfg k i msg turn → r.TurnFollows cell cfg k i msg turn) {a j : Nat}
    (hmsg : cfg.siMessages[i]? = some msg) (hstarts : cfg.StartsWindow i msg (r.first.add a)) (haj : a ≤ j) (hjk : j < k)
    (hk : k < a + cfg.siWindowLenSlots) (hj : SentAt r.slots i j) : ¬SentAt r.slots i k := by
  rintro ⟨turn, hturn, hsent⟩
  have hfollows := h k i msg turn ⟨hmsg, hturn⟩
  exact (hfollows.transmitted.mp hsent).2.1 ⟨a, hstarts, hk, j, haj, hjk, hj⟩

lemma FollowsWindows.concat (h : r.FollowsWindows cell cfg) (hfirst : r'.first = r.first)
    (hslots : r'.slots = r.slots ++ [turns]) (hlen : turns.length = cfg.siMessages.length)
    (hlast : ∀ i msg turn, cfg.siMessages[i]? = some msg → turns[i]? = some turn →
      r.TurnFollows cell cfg r.slots.length i msg turn) : r'.FollowsWindows cell cfg := by
  have hfollows : ∀ k i msg turn, r'.TurnAt cfg k i msg turn → r'.TurnFollows cell cfg k i msg turn := by
    intro k i msg turn hturn
    rcases turnAt_concat hslots hturn with hold | ⟨rfl, hnew⟩
    · exact (h.follows k i msg turn hold).concat hfirst hslots (lt_of_turnAt hold).le
    · exact (hlast i msg turn hturn.message hnew).concat hfirst hslots (Nat.le_refl _)
  refine ⟨?_, hfollows, fun i msg a j k hmsg hstarts haj hjk hk hj =>
    once_of_follows hfollows hmsg hstarts haj hjk hk hj⟩
  intro k i msg hk hmsg
  rw [hslots, List.length_append, List.length_singleton] at hk
  rcases Nat.lt_or_eq_of_le (Nat.le_of_lt_succ hk) with hlt | rfl
  · obtain ⟨turn, hturn⟩ := h.complete k i msg hlt hmsg
    refine ⟨turn, hmsg, ?_⟩
    rw [hslots, List.getElem?_append_left hlt]
    exact hturn.turn
  · have hi : i < turns.length := hlen.symm ▸ (List.getElem?_eq_some_iff.mp hmsg).1
    refine ⟨turns[i], hmsg, ?_⟩
    rw [hslots, List.getElem?_concat_length]
    exact List.getElem?_eq_getElem hi

lemma followsWindows_nil (h : r.slots = []) : r.FollowsWindows cell cfg := by
  have hnone : ∀ k i msg turn, ¬r.TurnAt cfg k i msg turn := by
    intro k i msg turn hturn
    have := lt_of_turnAt hturn
    rw [h] at this
    exact Nat.not_lt_zero k this
  have hfollows : ∀ k i msg turn, r.TurnAt cfg k i msg turn → r.TurnFollows cell cfg k i msg turn :=
    fun k i msg turn hturn => absurd hturn (hnone k i msg turn)
  refine ⟨fun k i msg hk => ?_, hfollows, fun i msg a j k hmsg hstarts haj hjk hk hj =>
    once_of_follows hfollows hmsg hstarts haj hjk hk hj⟩
  rw [h] at hk
  exact absurd hk (Nat.not_lt_zero k)

end History

section Runs

variable {cell : SiCell Mcs Dmrs numerology}

/-- The invariant of a run: beside what is claimed, every context waits for the next slot. -/
structure Inv (cell : SiCell Mcs Dmrs numerology) (r : SiRun Dmrs numerology) : Prop where
  sound : r.Sound cell
  length : ∀ cfg, r.scheduler.siSchedCfg = some cfg → r.scheduler.pendingMessages.length = cfg.siMessages.length
  waits : ∀ cfg, r.scheduler.siSchedCfg = some cfg → ∀ i msg ctx, cfg.siMessages[i]? = some msg →
    r.scheduler.pendingMessages[i]? = some ctx → Waits cfg i msg r.first r.slots ctx

variable {r r' : SiRun Dmrs numerology}

lemma inv_of_updated {version : Nat} {siSchedCfg : Option (SiSchedulingConfig numerology)}
    (hs : r.scheduler = .updated version siSchedCfg) (hslots : r.slots = []) : r.Inv cell := by
  have hpending : ∀ cfg, r.scheduler.siSchedCfg = some cfg →
      r.scheduler.pendingMessages = cfg.siMessages.map fun _ => .init := by
    intro cfg hcfg
    rw [hs] at hcfg ⊢
    obtain rfl : siSchedCfg = some cfg := hcfg
    rfl
  refine ⟨fun cfg _ => followsWindows_nil hslots, fun cfg hcfg => ?_, fun cfg hcfg i msg ctx _ hctx => ?_⟩
  · rw [hpending cfg hcfg, List.length_map]
  · rw [hpending cfg hcfg, List.getElem?_map] at hctx
    obtain ⟨_, -, rfl⟩ := Option.map_eq_some_iff.mp hctx
    refine .inl ⟨rfl, fun a ha => ?_⟩
    rw [hslots] at ha
    exact absurd ha (Nat.not_lt_zero a)

lemma inv_runSlot (hcell : cell.SharesSib1Grant) {resources : SiSlot} (h : r.Inv cell)
    (hapart : r.WindowsApart (.runSlot resources)) (hstep : r.step cell (.runSlot resources) = .ok r') : r'.Inv cell := by
  obtain ⟨out, hout, hr'⟩ := bind_eq_ok.mp hstep
  obtain rfl := Except.ok.inj hr'
  cases hcfg : r.scheduler.siSchedCfg with
  | none =>
    unfold SiMessageScheduler.runSlot at hout
    rw [hcfg] at hout
    obtain rfl := Except.ok.inj hout
    have hnone : ∀ cfg, r.scheduler.siSchedCfg ≠ some cfg := fun cfg heq => by
      rw [hcfg] at heq
      cases heq
    exact ⟨fun cfg heq => absurd heq (hnone cfg), fun cfg heq => absurd heq (hnone cfg),
      fun cfg heq => absurd heq (hnone cfg)⟩
  | some cfg =>
    obtain ⟨hs, hlen, hturns⟩ := SiMessageScheduler.runSlot_spec hcfg (h.length cfg hcfg) hout
    have hturn : ∀ i msg turn, cfg.siMessages[i]? = some msg → out.1[i]? = some turn →
        Updated cfg i msg r.first r.slots turn.context ∧ r.TurnFollows cell cfg r.slots.length i msg turn := by
      intro i msg turn hmsg hi
      have hmem := List.mem_of_getElem? hmsg
      have hlt : i < r.scheduler.pendingMessages.length :=
        (h.length cfg hcfg).symm ▸ (List.getElem?_eq_some_iff.mp hmsg).1
      have hctx := List.getElem?_eq_getElem hlt
      obtain ⟨turn', hi', hcontext, res', hschedule⟩ := hturns i msg _ hmsg hctx
      obtain rfl := Option.some.inj (hi.symm.trans hi')
      have hupdated : Updated cfg i msg r.first r.slots turn.context := by
        rw [hcontext]
        exact updated_of_waits r.first_numerology hmem (h.waits cfg hcfg i msg _ hmsg hctx)
          fun window hwindow hstop => hapart cfg hcfg i msg _ window hmsg hctx hwindow hstop
      obtain ⟨hsent, hdescribed⟩ := SiMessageScheduler.scheduleMessage_spec hschedule
      refine ⟨hupdated, hupdated.window_iff, ?_, fun tx htx => (hdescribed tx htx).mpr hcell⟩
      rw [hsent, ← and_assoc, hupdated.unsent_iff r.first_numerology hmem, and_assoc]
      rfl
    have hin : ∀ cfg', out.2.1.siSchedCfg = some cfg' → cfg' = cfg := by
      intro cfg' hcfg'
      rw [hs] at hcfg'
      exact Option.some.inj (hcfg'.symm.trans hcfg)
    refine ⟨fun cfg' hcfg' => ?_, fun cfg' hcfg' => ?_, fun cfg' hcfg' i msg ctx hmsg hctx => ?_⟩
    · obtain rfl := hin cfg' hcfg'
      exact (h.sound cfg' hcfg).concat rfl rfl hlen fun i msg turn hmsg hi => (hturn i msg turn hmsg hi).2
    · obtain rfl := hin cfg' hcfg'
      change out.2.1.pendingMessages.length = _
      rw [hs, List.length_map, hlen]
    · obtain rfl := hin cfg' hcfg'
      change out.2.1.pendingMessages[i]? = some ctx at hctx
      rw [hs, List.getElem?_map] at hctx
      obtain ⟨turn, hi, rfl⟩ := Option.map_eq_some_iff.mp hctx
      exact waits_of_updated (hturn i msg turn hmsg hi).1 hi

lemma siSchedCfg_of_runSlot {resources : SiSlot} (hstep : r.step cell (.runSlot resources) = .ok r') :
    r'.scheduler.siSchedCfg = r.scheduler.siSchedCfg := by
  obtain ⟨out, hout, hr'⟩ := bind_eq_ok.mp hstep
  obtain rfl := Except.ok.inj hr'
  unfold SiMessageScheduler.runSlot at hout
  cases hcfg : r.scheduler.siSchedCfg with
  | none =>
    rw [hcfg] at hout
    obtain rfl := Except.ok.inj hout
    exact hcfg
  | some cfg =>
    rw [hcfg] at hout
    obtain ⟨loop, -, hloop⟩ := bind_eq_ok.mp hout
    obtain rfl := Except.ok.inj hloop
    rfl

lemma inv_step (hcell : cell.SharesSib1Grant) {e : SiEvent numerology} (h : r.Inv cell) (hapart : r.WindowsApart e)
    (hstep : r.step cell e = .ok r') : r'.Inv cell := by
  cases e with
  | update version siSchedCfg =>
    obtain rfl := Except.ok.inj hstep
    exact inv_of_updated rfl rfl
  | runSlot resources => exact inv_runSlot hcell h hapart hstep

lemma windowsApart_of_shorter (h : r.Inv cell)
    (hshorter : ∀ cfg, r.scheduler.siSchedCfg = some cfg → cfg.WindowsShorter) (e : SiEvent numerology) :
    r.WindowsApart e := by
  cases e with
  | update version siSchedCfg => trivial
  | runSlot resources =>
    intro cfg hcfg i msg ctx window hmsg hctx hwindow hstop hstarts
    have hmem := List.mem_of_getElem? hmsg
    rcases h.waits cfg hcfg i msg ctx hmsg hctx with ⟨hnone, -⟩ | ⟨a, ha, hn, hopen⟩
    · rw [hnone] at hwindow
      cases hwindow
    · obtain rfl := Option.some.inj (hopen.window.symm.trans hwindow)
      have hend := (ends_iff cfg ha hn).mp (.inl hstop)
      have hperiod := SiSchedulingConfig.period_le_of_starts r.first_numerology ha hopen.starts hstarts
      have hlen := hshorter cfg hcfg msg hmem
      omega

/-- Where the windows of all configurations are shorter than the periods, they stay apart. -/
theorem runsWithin_windowsApart (hcell : cell.SharesSib1Grant) {count : Nat}
    {siSchedCfg : Option (SiSchedulingConfig numerology)} {es : List (SiEvent numerology)}
    (hstart : ∀ cfg, siSchedCfg = some cfg → cfg.WindowsShorter)
    (hes : ∀ version cfg, .update version (some cfg) ∈ es → cfg.WindowsShorter) :
    RunsWithin (step cell) WindowsApart (start count siSchedCfg) es := by
  have hrun : HoldsThroughout (step cell) (fun _ => True) (start count siSchedCfg) es ∧
      RunsWithin (step cell) WindowsApart (start count siSchedCfg) es := by
    apply runsWithin_establishes
      (fun r => r.Inv cell ∧ ∀ cfg, r.scheduler.siSchedCfg = some cfg → cfg.WindowsShorter) (fun _ _ => trivial)
      _ (fun r e h _ => windowsApart_of_shorter h.1 h.2 e) ⟨inv_of_updated rfl rfl, hstart⟩
      (runsWithin_of_forall (C := fun e => ∀ version cfg, e = .update version (some cfg) → cfg.WindowsShorter)
        fun e he version cfg heq => hes version cfg (heq ▸ he))
    intro r e r' h hC hstep
    refine ⟨inv_step hcell h.1 (windowsApart_of_shorter h.1 h.2 e) hstep, fun cfg hcfg => ?_⟩
    cases e with
    | update version siSchedCfg =>
      obtain rfl := Except.ok.inj hstep
      obtain rfl : siSchedCfg = some cfg := hcfg
      exact hC version cfg rfl
    | runSlot resources =>
      apply h.2
      rw [← hcfg]
      exact (siSchedCfg_of_runSlot hstep).symm
  exact hrun.2

/-- Where SI messages share the grant of SIB1 and no window ends in the slot in which the next one starts, all the slots
since the last update follow the SI windows. -/
theorem si_windows_sound (cell : SiCell Mcs Dmrs numerology) (hcell : cell.SharesSib1Grant) (count : Nat)
    (siSchedCfg : Option (SiSchedulingConfig numerology)) (es : List (SiEvent numerology))
    (hapart : RunsWithin (step cell) WindowsApart (start count siSchedCfg) es) :
    HoldsThroughout (step cell) (Sound cell) (start count siSchedCfg) es := by
  have hrun : HoldsThroughout (step cell) (Sound cell) (start count siSchedCfg) es ∧
      RunsWithin (step cell) (fun _ _ => True) (start count siSchedCfg) es :=
    runsWithin_establishes (Inv cell) (fun _ h => h.sound) (fun _ _ _ h hC hstep => inv_step hcell h hC hstep)
      (fun _ _ _ _ => trivial) (inv_of_updated rfl rfl) hapart
  exact hrun.1

end Runs

section Instances

lemma oneSymbol_pos : 0 < 1 := by decide

/-- A cell of 24 PRBs in which SI messages have MCS 5. A PRB has 10 bytes. -/
def siCell (sib1McsIndex : Nat) : SiCell Nat Unit 0 where
  carrier := ⟨0, 24, by decide⟩
  monitoring := ⟨160, 0, 1⟩
  pdcchRequest := ⟨0, 1, [0], [[0, 1, 2, 3, 4, 5]], oneSymbol_pos, by decide⟩
  crbLims := ⟨0, 24, by decide⟩
  coresetStartCrb := 0
  coreset0Length := 24
  pdschTdAllocList := []
  defaultATable := [⟨0, ⟨2, 14, by decide⟩⟩]
  sib1McsIndex := sib1McsIndex
  siMessageMcsIndex := 5
  functions := {
    pdschMcsGetConfig := fun mcs => mcs
    makeDmrsInfoCommon := fun _ => ()
    calculateNofDmrsPerRb := fun _ => 12
    tbs := { calculate := fun cfg => 80 * cfg.nPrb, estimateRequiredNofPrbs := fun _ _ => 2 } }
  coresetStartCrb_le := by decide

def siCfg (windowLen : Nat) (hpos : 0 < windowLen) (hle : windowLen ≤ 80) : SiSchedulingConfig 0 where
  siMessages := [⟨20, 8, none, by decide⟩]
  siWindowLenSlots := windowLen
  len_pos := hpos
  len_le_max := hle.trans (by decide)
  len_le := fun msg hmsg => by
    obtain rfl := List.mem_singleton.mp hmsg
    exact hle

def freeSlots (n : Nat) : List (SiEvent 0) := List.replicate n (.runSlot ⟨.start ∅, 0⟩)

/-- In a window of half a period the message is sent in the first slot. -/
theorem si_windows_sound_of_half :
    HoldsThroughout (step (siCell 5)) (Sound (siCell 5)) (start 0 (some (siCfg 40 (by decide) (by decide)))) (freeSlots 2) ∧
      (runEvents (step (siCell 5)) (start 0 (some (siCfg 40 (by decide) (by decide)))) (freeSlots 2)).toOption.any
        (fun r => r.slots.map (List.map fun turn => turn.transmitted.isSome) = [[true], [false]]) = true := by
  have hcell : (siCell 5).SharesSib1Grant := ⟨rfl, rfl⟩
  constructor
  · apply si_windows_sound (siCell 5) hcell
    apply runsWithin_windowsApart hcell
    · intro cfg hcfg msg hmsg
      obtain rfl := Option.some.inj hcfg
      obtain rfl := List.mem_singleton.mp hmsg
      decide
    · intro version cfg hmem
      cases List.eq_of_mem_replicate hmem
  · decide +kernel

lemma of_freeSlots {cell : SiCell Nat Unit 0} {s r : SiRun Unit 0} {n : Nat}
    (hrun : runEvents (step cell) s (freeSlots n) = .ok r) :
    r.scheduler.siSchedCfg = s.scheduler.siSchedCfg ∧ r.first = s.first := by
  have hslots : RunsWithin (step cell) (fun _ e => ∃ resources, e = .runSlot resources) s (freeSlots n) :=
    runsWithin_of_forall fun e he => ⟨_, List.eq_of_mem_replicate he⟩
  apply runsWithin_invariant (fun t => t.scheduler.siSchedCfg = s.scheduler.siSchedCfg ∧ t.first = s.first) _
    ⟨rfl, rfl⟩ hslots hrun
  rintro t e t' ⟨hcfg, hfirst⟩ ⟨resources, rfl⟩ hstep
  refine ⟨(siSchedCfg_of_runSlot hstep).trans hcfg, ?_⟩
  obtain ⟨out, -, ht'⟩ := bind_eq_ok.mp hstep
  obtain rfl := Except.ok.inj ht'
  exact hfirst

lemma follows_of_freeSlots {cell : SiCell Nat Unit 0} {cfg : SiSchedulingConfig 0} {n k : Nat} {P : SiTurn Unit → Bool}
    (h : HoldsThroughout (step cell) (Sound cell) (start 0 (some cfg)) (freeSlots n))
    (hrun : (runEvents (step cell) (start 0 (some cfg)) (freeSlots n)).toOption.any (fun r =>
      (r.slots[k]?.bind fun turns => turns[0]?).any P) = true) {msg : SiMessageSchedulingConfig}
    (hmsg : cfg.siMessages[0]? = some msg) :
    ∃ r turn, r.first = ⟨0, 0⟩ ∧ P turn = true ∧ TurnFollows cell r cfg k 0 msg turn := by
  cases hr : runEvents (step cell) (start 0 (some cfg)) (freeSlots n) with
  | error a =>
    rw [hr] at hrun
    cases hrun
  | ok r =>
    rw [hr] at hrun
    change (r.slots[k]?.bind fun turns => turns[0]?).any P = true at hrun
    obtain ⟨turn, hturn, hP⟩ := (Option.any_eq_true _ _).mp hrun
    obtain ⟨hcfg, hfirst⟩ := of_freeSlots hr
    have hsound := holdsThroughout_iff_prefix.mp h _ [] r (List.append_nil _).symm hr
    exact ⟨r, turn, hfirst, hP, (hsound cfg hcfg).follows k 0 msg turn ⟨hmsg, hturn⟩⟩

/-- A window as long as the period does not open again when it ends, and SIB1's MCS is in the DCI of an SI message. -/
theorem si_windows_not_sound :
    ¬HoldsThroughout (step (siCell 5)) (Sound (siCell 5)) (start 0 (some (siCfg 80 (by decide) (by decide))))
        (freeSlots 81) ∧
      ¬HoldsThroughout (step (siCell 0)) (Sound (siCell 0)) (start 0 (some (siCfg 40 (by decide) (by decide))))
        (freeSlots 1) := by
  constructor
  · intro h
    obtain ⟨r, turn, hfirst, hclosed, hfollows⟩ := follows_of_freeSlots (k := 80)
      (P := fun turn => turn.context.window.isNone) h (by decide +kernel) rfl
    have hin : (siCfg 80 (by decide) (by decide)).InWindow 0 ⟨20, 8, none, by decide⟩ r.first 80 := by
      rw [hfirst]
      exact ⟨80, Nat.le_refl _, by decide, by decide, by decide⟩
    exact hfollows.window.mpr hin (Option.isNone_iff_eq_none.mp hclosed)
  · intro h
    obtain ⟨r, turn, -, hsent, hfollows⟩ := follows_of_freeSlots (k := 0)
      (P := fun turn => turn.transmitted.any fun tx => tx.dci.modulationCodingScheme = 0) h (by decide +kernel) rfl
    obtain ⟨tx, htx, hmcs⟩ := (Option.any_eq_true _ _).mp hsent
    obtain ⟨row, hrow⟩ := hfollows.described tx htx
    have := hrow.mcs
    rw [of_decide_eq_true hmcs] at this
    cases this

end Instances

end SiRun

end OwlsRan.Sched
