import Mathlib.Algebra.Group.Nat.Defs
import OwlsRan.F1u.F1uBearer
import OwlsRan.Lib.EventRun

/-!
# Discarded PDCP SNs on their way from the CU-UP to the DU

The SNs travel as blocks with a size of eight bits.
-/

namespace OwlsRan.F1u
open OwlsRan.Lib

/-- The bearers of a DRB at the CU-UP and at the DU, the frames between them, and what the DU passed to the RLC. -/
structure DiscardPath where
  cuUp : CuUpF1uBearer
  nru : List NruDlMessage
  du : DuF1uBearer
  notified : List DuNotification

inductive DiscardPathEvent where
  | discardSdu (pdcpSn : UInt32)
  | handleSdu (sdu : List UInt8) (isRetx : Bool)
  | dlNotifTimerExpired
  /-- The transport delivers the oldest frame to the DU. -/
  | deliver (w : StatusStores)
deriving DecidableEq

namespace NruDlMessage

def blocks (msg : NruDlMessage) : List NruPdcpSnDiscardBlock := msg.dlUserData.discardBlocks.getD []

end NruDlMessage

namespace DiscardPath

def init (cfg : DuF1uConfig) : DiscardPath := ⟨{}, [], .init cfg, []⟩

variable (s : DiscardPath)

def sent (r : CuUpF1uBearer × List NruDlMessage) : DiscardPath := { s with cuUp := r.1, nru := s.nru ++ r.2 }

def deliver (w : StatusStores) : DiscardPath :=
  match s.nru with
  | [] => s
  | msg :: nru =>
    let (du, notified, _) := s.du.handlePduImpl msg w
    { s with nru := nru, du := du, notified := s.notified ++ notified }

def step : DiscardPathEvent → Except CuUpAbort DiscardPath
  | .discardSdu pdcpSn => do return s.sent (← s.cuUp.discardSdu pdcpSn)
  | .handleSdu sdu isRetx => return s.sent (s.cuUp.handleSdu sdu isRetx)
  | .dlNotifTimerExpired =>
    return if s.cuUp.dlNotifTimerRunning then s.sent s.cuUp.onExpiredDlNotifTimer else s
  | .deliver w => return s.deliver w

/-- The arguments of the calls of `on_discard_sdu`, in order. -/
def discarded : List UInt32 :=
  s.notified.filterMap fun
    | .onDiscardSdu pdcpSn => some pdcpSn
    | .onNewSdu _ _ => none

/-- The arguments of the calls of `discard_sdu` in a run, in order. -/
def requested (es : List DiscardPathEvent) : List UInt32 :=
  es.filterMap fun
    | .discardSdu pdcpSn => some pdcpSn
    | _ => none

end DiscardPath

section Blocks

namespace NruPdcpSnDiscardBlock

variable {b : NruPdcpSnDiscardBlock}

def Sound (b : NruPdcpSnDiscardBlock) : Prop := b.pdcpSnStart.toNat + b.blockSize.toNat < 2 ^ 32

lemma pdcpSnEnd_toNat : b.pdcpSnEnd.toNat = (b.pdcpSnStart.toNat + b.blockSize.toNat) % 2 ^ 32 := by
  simp [pdcpSnEnd]

lemma length_pdcpSns : b.pdcpSns.length = b.pdcpSnEnd.toNat - b.pdcpSnStart.toNat := by
  simp [pdcpSns]

@[simp] lemma expanded_pdcpSnStart : b.expanded.pdcpSnStart = b.pdcpSnStart := rfl

@[simp] lemma single_pdcpSnStart (pdcpSn : UInt32) : (single pdcpSn).pdcpSnStart = pdcpSn := rfl

lemma expanded_blockSize_toNat : b.expanded.blockSize.toNat = (b.blockSize.toNat + 1) % 256 := by
  simp [expanded]

lemma toNat_eq_max {pdcpSn : UInt32} : pdcpSn = 0xffffffff ↔ pdcpSn.toNat = 2 ^ 32 - 1 := by
  rw [← UInt32.toNat_inj]
  rfl

lemma blockSize_eq_max : b.blockSize = 255 ↔ b.blockSize.toNat = 255 := by
  rw [← UInt8.toNat_inj]
  rfl

lemma sound_single {pdcpSn : UInt32} (h : pdcpSn ≠ 0xffffffff) : (single pdcpSn).Sound := by
  have hlt := pdcpSn.toNat_lt
  rw [ne_eq, toNat_eq_max] at h
  simp only [Sound, single, UInt8.reduceToNat]
  omega

lemma pdcpSns_single {pdcpSn : UInt32} (h : pdcpSn ≠ 0xffffffff) : (single pdcpSn).pdcpSns = [pdcpSn] := by
  have hend : (single pdcpSn).pdcpSnEnd.toNat = pdcpSn.toNat + 1 := by
    rw [pdcpSnEnd_toNat]
    exact Nat.mod_eq_of_lt (sound_single h)
  simp [pdcpSns, hend]

lemma pdcpSns_single_max : (single 0xffffffff).pdcpSns = [] := rfl

lemma sound_expanded (hb : b.Sound) (hend : b.pdcpSnEnd ≠ 0xffffffff) (hsize : b.blockSize ≠ 255) :
    b.expanded.Sound := by
  have hlt := b.blockSize.toNat_lt
  rw [ne_eq, toNat_eq_max, pdcpSnEnd_toNat] at hend
  rw [ne_eq, blockSize_eq_max] at hsize
  simp only [Sound, expanded_blockSize_toNat, expanded_pdcpSnStart] at hb ⊢
  omega

lemma pdcpSns_expanded (hb : b.Sound) (hend : b.pdcpSnEnd ≠ 0xffffffff) (hsize : b.blockSize ≠ 255) :
    b.expanded.pdcpSns = b.pdcpSns ++ [b.pdcpSnEnd] := by
  have hlt := b.blockSize.toNat_lt
  have h₀ : b.pdcpSnEnd.toNat = b.pdcpSnStart.toNat + b.blockSize.toNat := by
    rw [pdcpSnEnd_toNat]
    exact Nat.mod_eq_of_lt hb
  have h₁ : b.expanded.pdcpSnEnd.toNat = b.pdcpSnEnd.toNat + 1 := by
    rw [pdcpSnEnd_toNat, Nat.mod_eq_of_lt (sound_expanded hb hend hsize), expanded_blockSize_toNat, h₀,
      expanded_pdcpSnStart]
    rw [ne_eq, blockSize_eq_max] at hsize
    omega
  have hlen : b.expanded.pdcpSnEnd.toNat - b.pdcpSnStart.toNat = b.pdcpSnEnd.toNat - b.pdcpSnStart.toNat + 1 := by
    omega
  have hlast : b.pdcpSnStart.toNat + (b.pdcpSnEnd.toNat - b.pdcpSnStart.toNat) = b.pdcpSnEnd.toNat := by omega
  unfold pdcpSns
  rw [expanded_pdcpSnStart, hlen, List.range'_concat, List.map_append, Nat.one_mul, hlast]
  simp

lemma length_expanded_le : b.expanded.pdcpSns.length ≤ b.pdcpSns.length + 1 := by
  have h₁ := b.blockSize.toNat_lt
  have h₂ := b.pdcpSnStart.toNat_lt
  rw [length_pdcpSns, length_pdcpSns, pdcpSnEnd_toNat, pdcpSnEnd_toNat, expanded_blockSize_toNat,
    expanded_pdcpSnStart]
  omega

lemma length_expanded_le_of_wraps (h : b.pdcpSnEnd = 0xffffffff ∨ b.blockSize = 255) :
    b.expanded.pdcpSns.length ≤ b.pdcpSns.length := by
  have h₁ := b.blockSize.toNat_lt
  have h₂ := b.pdcpSnStart.toNat_lt
  rw [toNat_eq_max, blockSize_eq_max, pdcpSnEnd_toNat] at h
  rw [length_pdcpSns, length_pdcpSns, pdcpSnEnd_toNat, pdcpSnEnd_toNat, expanded_blockSize_toNat,
    expanded_pdcpSnStart]
  omega

end NruPdcpSnDiscardBlock

def spell (blocks : List NruPdcpSnDiscardBlock) : List UInt32 := blocks.flatMap (·.pdcpSns)

@[simp] lemma spell_nil : spell [] = [] := rfl

@[simp] lemma spell_append (bs cs : List NruPdcpSnDiscardBlock) : spell (bs ++ cs) = spell bs ++ spell cs := by
  simp [spell]

@[simp] lemma spell_cons (b : NruPdcpSnDiscardBlock) (bs : List NruPdcpSnDiscardBlock) :
    spell (b :: bs) = b.pdcpSns ++ spell bs := rfl

def recordDiscard (blocks : List NruPdcpSnDiscardBlock) (pdcpSn : UInt32) : List NruPdcpSnDiscardBlock :=
  match blocks.getLast? with
  | none => [.single pdcpSn]
  | some lastBlock =>
    if lastBlock.pdcpSnEnd = pdcpSn then blocks.dropLast ++ [lastBlock.expanded] else blocks ++ [.single pdcpSn]

@[simp] lemma recordDiscard_nil (pdcpSn : UInt32) : recordDiscard [] pdcpSn = [.single pdcpSn] := rfl

@[simp] lemma recordDiscard_concat (blocks : List NruPdcpSnDiscardBlock) (b : NruPdcpSnDiscardBlock) (pdcpSn : UInt32) :
    recordDiscard (blocks ++ [b]) pdcpSn =
      if b.pdcpSnEnd = pdcpSn then blocks ++ [b.expanded] else blocks ++ [b] ++ [.single pdcpSn] := by
  simp [recordDiscard]

def CanRecord (blocks : List NruPdcpSnDiscardBlock) (pdcpSn : UInt32) : Prop :=
  pdcpSn ≠ 0xffffffff ∧ ∀ lastBlock ∈ blocks.getLast?, lastBlock.pdcpSnEnd = pdcpSn → lastBlock.blockSize ≠ 255

/-- The blocks name exactly the SNs that were discarded, as long as the arithmetic of no block wraps. -/
lemma spell_recordDiscard {blocks : List NruPdcpSnDiscardBlock} {pdcpSn : UInt32} (hb : ∀ b ∈ blocks, b.Sound)
    (h : CanRecord blocks pdcpSn) :
    spell (recordDiscard blocks pdcpSn) = spell blocks ++ [pdcpSn] ∧ ∀ b ∈ recordDiscard blocks pdcpSn, b.Sound := by
  obtain ⟨hmax, hlast⟩ := h
  have hsingle := NruPdcpSnDiscardBlock.pdcpSns_single hmax
  have hsound := NruPdcpSnDiscardBlock.sound_single hmax
  rcases blocks.eq_nil_or_concat' with rfl | ⟨bs, b, rfl⟩
  · simp [hsingle, hsound]
  · rw [recordDiscard_concat]
    by_cases hend : b.pdcpSnEnd = pdcpSn
    · have hbb : b.Sound := hb b (by simp)
      have hmax' : b.pdcpSnEnd ≠ 0xffffffff := by rwa [hend]
      have hsize : b.blockSize ≠ 255 := hlast b (by simp) hend
      rw [if_pos hend]
      constructor
      · simp [NruPdcpSnDiscardBlock.pdcpSns_expanded hbb hmax' hsize, hend]
      · intro c hc
        rcases List.mem_append.mp hc with hc | hc
        · exact hb c (by simp [hc])
        · rw [List.mem_singleton.mp hc]
          exact NruPdcpSnDiscardBlock.sound_expanded hbb hmax' hsize
    · rw [if_neg hend]
      constructor
      · simp [hsingle]
      · intro c hc
        rcases List.mem_append.mp hc with hc | hc
        · exact hb c hc
        · rw [List.mem_singleton.mp hc]
          exact hsound

lemma length_pdcpSns_single_le {pdcpSn : UInt32} : (NruPdcpSnDiscardBlock.single pdcpSn).pdcpSns.length ≤ 1 := by
  by_cases h : pdcpSn = 0xffffffff
  · simp [h, NruPdcpSnDiscardBlock.pdcpSns_single_max]
  · simp [NruPdcpSnDiscardBlock.pdcpSns_single h]

lemma length_recordDiscard_le (blocks : List NruPdcpSnDiscardBlock) (pdcpSn : UInt32) :
    (spell (recordDiscard blocks pdcpSn)).length ≤ (spell blocks).length + 1 := by
  have hsingle := @length_pdcpSns_single_le pdcpSn
  rcases blocks.eq_nil_or_concat' with rfl | ⟨bs, b, rfl⟩
  · simpa using hsingle
  · have hexp := b.length_expanded_le
    rw [recordDiscard_concat]
    split
    · simp only [spell_append, spell_cons, spell_nil, List.length_append, List.length_nil]
      omega
    · simp only [spell_append, spell_cons, spell_nil, List.length_append, List.length_nil]
      omega

lemma length_recordDiscard_le_of_not_canRecord {blocks : List NruPdcpSnDiscardBlock} {pdcpSn : UInt32}
    (h : ¬CanRecord blocks pdcpSn) : (spell (recordDiscard blocks pdcpSn)).length ≤ (spell blocks).length := by
  have hcases : pdcpSn = 0xffffffff ∨
      ∃ b ∈ blocks.getLast?, b.pdcpSnEnd = pdcpSn ∧ b.blockSize = 255 := by
    by_contra hc
    push Not at hc
    exact h hc
  have hmax := NruPdcpSnDiscardBlock.pdcpSns_single_max
  rcases blocks.eq_nil_or_concat' with rfl | ⟨bs, b, rfl⟩
  · have : pdcpSn = 0xffffffff := by simpa using hcases
    simp [this, hmax]
  · have hexp := @NruPdcpSnDiscardBlock.length_expanded_le_of_wraps b
    simp only [List.getLast?_concat, Option.mem_def, Option.some.injEq, exists_eq_left'] at hcases
    rw [recordDiscard_concat]
    by_cases hend : b.pdcpSnEnd = pdcpSn
    · have hwraps : b.pdcpSnEnd = 0xffffffff ∨ b.blockSize = 255 := by
        rcases hcases with h | h
        · exact Or.inl (hend.trans h)
        · exact Or.inr h.2
      have := hexp hwraps
      rw [if_pos hend]
      simp only [spell_append, spell_cons, spell_nil, List.length_append, List.length_nil]
      omega
    · have : pdcpSn = 0xffffffff := by
        rcases hcases with h | h
        · exact h
        · exact absurd h.1 hend
      rw [if_neg hend, this]
      simp [hmax]

end Blocks

section CuUp

namespace CuUpF1uBearer

variable {b : CuUpF1uBearer}

structure Collecting (b : CuUpF1uBearer) : Prop where
  notFull : b.discardBlocks.length < nruMaxNofPdcpSnDiscardBlocks
  running : b.dlNotifTimerRunning = false → b.discardBlocks = []

lemma collecting_init : Collecting {} := ⟨by decide, fun _ => rfl⟩

lemma flushDiscardBlocks_spec (b : CuUpF1uBearer) :
    Collecting b.flushDiscardBlocks.1 ∧ b.flushDiscardBlocks.1.discardBlocks = [] ∧
      b.flushDiscardBlocks.2.flatMap (·.blocks) = b.discardBlocks := by
  unfold flushDiscardBlocks fillDiscardBlocks
  by_cases h : b.discardBlocks = []
  · simp only [h, ne_eq, not_true_eq_false, if_false]
    exact ⟨⟨by simp [nruMaxNofPdcpSnDiscardBlocks], fun _ => rfl⟩, rfl, rfl⟩
  · simp only [h, ne_eq, not_false_eq_true, if_true]
    exact ⟨⟨by simp [nruMaxNofPdcpSnDiscardBlocks], fun _ => rfl⟩, rfl, by simp [NruDlMessage.blocks]⟩

lemma handleSdu_spec (b : CuUpF1uBearer) (sdu : List UInt8) (isRetx : Bool) :
    Collecting (b.handleSdu sdu isRetx).1 ∧
      (b.handleSdu sdu isRetx).2.flatMap (·.blocks) ++ (b.handleSdu sdu isRetx).1.discardBlocks = b.discardBlocks := by
  unfold handleSdu fillDiscardBlocks
  by_cases h : b.discardBlocks = []
  · simp only [h, ne_eq, not_true_eq_false, if_false]
    exact ⟨⟨by simp [nruMaxNofPdcpSnDiscardBlocks], fun _ => rfl⟩, by simp [NruDlMessage.blocks]⟩
  · simp only [h, ne_eq, not_false_eq_true, if_true]
    exact ⟨⟨by simp [nruMaxNofPdcpSnDiscardBlocks], fun _ => rfl⟩, by simp [NruDlMessage.blocks]⟩

lemma discardSdu_spec (hb : b.Collecting) (pdcpSn : UInt32) :
    ∃ b' sent, b.discardSdu pdcpSn = .ok (b', sent) ∧ b'.Collecting ∧
      sent.flatMap (·.blocks) ++ b'.discardBlocks = recordDiscard b.discardBlocks pdcpSn := by
  obtain ⟨hlen, -⟩ := hb
  unfold discardSdu pushDiscardBlock
  rcases b.discardBlocks.eq_nil_or_concat' with h | ⟨bs, last, h⟩
  · simp only [h, List.getLast?_nil, List.length_nil, nruMaxNofPdcpSnDiscardBlocks, Nat.zero_lt_succ, if_true,
      List.nil_append, recordDiscard_nil, bind, Except.bind, pure, Except.pure]
    exact ⟨_, [], rfl, ⟨by simp [nruMaxNofPdcpSnDiscardBlocks], nofun⟩, rfl⟩
  · rw [h] at hlen
    simp only [h, List.getLast?_concat, recordDiscard_concat, List.dropLast_concat]
    by_cases hend : last.pdcpSnEnd = pdcpSn
    · rw [if_pos hend, if_pos hend]
      refine ⟨_, [], rfl, ⟨?_, nofun⟩, rfl⟩
      simpa using hlen
    · rw [if_neg hend, if_neg hend, if_pos hlen]
      simp only [bind, Except.bind, pure, Except.pure]
      split
      · let full : CuUpF1uBearer :=
          { b with dlNotifTimerRunning := true, discardBlocks := bs ++ [last] ++ [.single pdcpSn] }
        obtain ⟨hc, hempty, hsent⟩ := flushDiscardBlocks_spec full
        refine ⟨full.flushDiscardBlocks.1, full.flushDiscardBlocks.2, rfl, hc, ?_⟩
        rw [hempty, List.append_nil]
        exact hsent
      case isFalse hfull =>
        refine ⟨_, [], rfl, ⟨?_, nofun⟩, rfl⟩
        simp only [List.length_append, List.length_cons, List.length_nil] at hlen hfull ⊢
        omega

end CuUpF1uBearer

end CuUp

namespace DiscardPath

section Steps

variable {s s' : DiscardPath} {e : DiscardPathEvent}

/-- A discarded SN is not the last number of 32 bits, and it does not make the last block longer than 255 SNs. -/
def Representable (s : DiscardPath) : DiscardPathEvent → Prop
  | .discardSdu pdcpSn => CanRecord s.cuUp.discardBlocks pdcpSn
  | _ => True

def blocks (s : DiscardPath) : List NruPdcpSnDiscardBlock := s.nru.flatMap (·.blocks) ++ s.cuUp.discardBlocks

/-- The SNs that the DU has discarded or will discard when no further event happens at the CU-UP. -/
def spelled (s : DiscardPath) : List UInt32 := s.discarded ++ spell s.blocks

lemma discarded_handlePduImpl (du : DuF1uBearer) (msg : NruDlMessage) (w : StatusStores) :
    ((du.handlePduImpl msg w).2.1.filterMap fun
      | .onDiscardSdu pdcpSn => some pdcpSn
      | .onNewSdu _ _ => none) = spell msg.blocks := by
  have hsdu : ((DuF1uBearer.deliverTPdu msg).filterMap fun
      | .onDiscardSdu pdcpSn => some pdcpSn
      | .onNewSdu _ _ => none) = [] := by
    unfold DuF1uBearer.deliverTPdu
    split <;> rfl
  have hblocks : ((DuF1uBearer.handleDiscardBlocks msg.dlUserData.discardBlocks).filterMap fun
      | .onDiscardSdu pdcpSn => some pdcpSn
      | .onNewSdu _ _ => none) = spell msg.blocks := by
    unfold NruDlMessage.blocks spell
    cases msg.dlUserData.discardBlocks with
    | none => rfl
    | some blocks =>
      simp only [DuF1uBearer.handleDiscardBlocks, Option.getD_some]
      induction blocks with
      | nil => rfl
      | cons block blocks ih =>
        rw [List.flatMap_cons, List.filterMap_append, ih, List.flatMap_cons, List.filterMap_map]
        simp
  unfold DuF1uBearer.handlePduImpl
  simp only [List.filterMap_append, hsdu, hblocks, List.nil_append]

lemma deliver_spelled (s : DiscardPath) (w : StatusStores) :
    (s.deliver w).spelled = s.spelled ∧ (s.deliver w).cuUp = s.cuUp ∧ (s.deliver w).nru = s.nru.tail := by
  unfold deliver
  cases h : s.nru with
  | nil => simp [h]
  | cons msg nru =>
    have hdu := discarded_handlePduImpl s.du msg w
    refine ⟨?_, rfl, rfl⟩
    simp [spelled, discarded, blocks, h, hdu]

lemma sent_blocks (s : DiscardPath) (r : CuUpF1uBearer × List NruDlMessage) :
    (s.sent r).blocks = s.nru.flatMap (·.blocks) ++ (r.2.flatMap (·.blocks) ++ r.1.discardBlocks) := by
  simp [sent, blocks]

/-- Only the call of `discard_sdu` changes what the DU is going to discard. -/
theorem step_spec (hs : s.cuUp.Collecting) (e : DiscardPathEvent) :
    ∃ s', s.step e = .ok s' ∧ s'.cuUp.Collecting ∧
      (∀ pdcpSn, e = .discardSdu pdcpSn → s'.discarded = s.discarded ∧
        s'.blocks = s.nru.flatMap (·.blocks) ++ recordDiscard s.cuUp.discardBlocks pdcpSn) ∧
      (requested [e] = [] → s'.spelled = s.spelled ∧ s'.blocks <:+ s.blocks) := by
  cases e with
  | discardSdu pdcpSn =>
    obtain ⟨b, sent, hb, hc, hrec⟩ := CuUpF1uBearer.discardSdu_spec hs pdcpSn
    refine ⟨s.sent (b, sent), by simp [step, hb, bind, Except.bind, pure, Except.pure], hc, ?_, nofun⟩
    rintro _ ⟨⟩
    refine ⟨rfl, ?_⟩
    rw [sent_blocks, hrec]
  | handleSdu sdu isRetx =>
    obtain ⟨hc, hblocks⟩ := CuUpF1uBearer.handleSdu_spec s.cuUp sdu isRetx
    have hsame : (s.sent (s.cuUp.handleSdu sdu isRetx)).blocks = s.blocks := by
      rw [sent_blocks, hblocks]
      rfl
    refine ⟨_, rfl, hc, nofun, fun _ => ⟨?_, hsame ▸ List.suffix_refl _⟩⟩
    rw [spelled, hsame]
    rfl
  | dlNotifTimerExpired =>
    by_cases hrun : s.cuUp.dlNotifTimerRunning
    · obtain ⟨hc, hempty, hsent⟩ := CuUpF1uBearer.flushDiscardBlocks_spec s.cuUp
      have hsame : (s.sent s.cuUp.onExpiredDlNotifTimer).blocks = s.blocks := by
        rw [sent_blocks, CuUpF1uBearer.onExpiredDlNotifTimer, hsent, hempty, List.append_nil]
        rfl
      refine ⟨s.sent s.cuUp.onExpiredDlNotifTimer, by simp [step, hrun, pure, Except.pure], hc, nofun,
        fun _ => ⟨?_, hsame ▸ List.suffix_refl _⟩⟩
      rw [spelled, hsame]
      rfl
    · exact ⟨s, by simp [step, hrun, pure, Except.pure], hs, nofun, fun _ => ⟨rfl, List.suffix_refl _⟩⟩
  | deliver w =>
    obtain ⟨hspelled, hcu, hnru⟩ := deliver_spelled s w
    refine ⟨_, rfl, by rwa [hcu], nofun, fun _ => ⟨hspelled, ?_⟩⟩
    unfold blocks
    rw [hcu, hnru]
    cases s.nru with
    | nil => exact List.suffix_refl _
    | cons msg nru => exact ⟨msg.blocks, by simp⟩

lemma step_collecting (hs : s.cuUp.Collecting) (h : s.step e = .ok s') : s'.cuUp.Collecting := by
  obtain ⟨s'', hs'', hc, -⟩ := step_spec hs e
  obtain rfl := Except.ok.inj (hs''.symm.trans h)
  exact hc

lemma requested_cons (e : DiscardPathEvent) (es : List DiscardPathEvent) :
    requested (e :: es) = requested [e] ++ requested es := by
  unfold requested
  rw [← List.singleton_append, List.filterMap_append]

lemma step_exact (hs : s.cuUp.Collecting) (hsound : ∀ b ∈ s.blocks, b.Sound) (hrep : s.Representable e)
    (h : s.step e = .ok s') : s'.spelled = s.spelled ++ requested [e] ∧ ∀ b ∈ s'.blocks, b.Sound := by
  obtain ⟨s'', hs'', -, hdiscard, hother⟩ := step_spec hs e
  obtain rfl := Except.ok.inj (hs''.symm.trans h)
  by_cases hreq : requested [e] = []
  · obtain ⟨hspelled, hsuffix⟩ := hother hreq
    exact ⟨by rw [hspelled, hreq, List.append_nil], fun b hb => hsound b (hsuffix.subset hb)⟩
  · cases e with
    | discardSdu pdcpSn =>
      obtain ⟨hdis, hblocks⟩ := hdiscard pdcpSn rfl
      obtain ⟨hspell, hrecSound⟩ := spell_recordDiscard
        (fun b hb => hsound b (List.mem_append_right _ hb)) hrep
      constructor
      · rw [spelled, hdis, hblocks, spell_append, hspell, spelled, blocks, spell_append]
        simp [requested]
      · intro b hb
        rw [hblocks] at hb
        rcases List.mem_append.mp hb with hb | hb
        · exact hsound b (List.mem_append_left _ hb)
        · exact hrecSound b hb
    | handleSdu sdu isRetx => exact absurd rfl hreq
    | dlNotifTimerExpired => exact absurd rfl hreq
    | deliver w => exact absurd rfl hreq

lemma step_length (hs : s.cuUp.Collecting) (h : s.step e = .ok s') :
    s'.spelled.length ≤ s.spelled.length + (requested [e]).length ∧
      (¬s.Representable e → s'.spelled.length < s.spelled.length + (requested [e]).length) := by
  obtain ⟨s'', hs'', -, hdiscard, hother⟩ := step_spec hs e
  obtain rfl := Except.ok.inj (hs''.symm.trans h)
  cases e with
  | discardSdu pdcpSn =>
    obtain ⟨hdis, hblocks⟩ := hdiscard pdcpSn rfl
    have hle := length_recordDiscard_le s.cuUp.discardBlocks pdcpSn
    have hreq : (requested [.discardSdu pdcpSn]).length = 1 := rfl
    have hlen : s''.spelled.length = s.discarded.length + (spell (s.nru.flatMap (·.blocks))).length +
        (spell (recordDiscard s.cuUp.discardBlocks pdcpSn)).length := by
      rw [spelled, hdis, hblocks, spell_append, List.length_append, List.length_append, Nat.add_assoc]
    have hlen₀ : s.spelled.length = s.discarded.length + (spell (s.nru.flatMap (·.blocks))).length +
        (spell s.cuUp.discardBlocks).length := by
      rw [spelled, blocks, spell_append, List.length_append, List.length_append, Nat.add_assoc]
    rw [hreq]
    refine ⟨by omega, fun hrep => ?_⟩
    have hlt := length_recordDiscard_le_of_not_canRecord hrep
    omega
  | handleSdu sdu isRetx => simp [(hother rfl).1, Representable]
  | dlNotifTimerExpired => simp [(hother rfl).1, Representable]
  | deliver w => simp [(hother rfl).1, Representable]

end Steps

section Runs

variable {s t : DiscardPath} {es : List DiscardPathEvent}

lemma run_collecting (hs : s.cuUp.Collecting) (es : List DiscardPathEvent) :
    ∃ t, runEvents step s es = .ok t ∧ t.cuUp.Collecting := by
  induction es generalizing s with
  | nil => exact ⟨s, rfl, hs⟩
  | cons e es ih =>
    obtain ⟨s', hs', hc, -⟩ := step_spec hs e
    obtain ⟨t, ht, hct⟩ := ih hc
    exact ⟨t, runEvents_cons_ok.mpr ⟨s', hs', ht⟩, hct⟩

lemma run_exact (hs : s.cuUp.Collecting) (hsound : ∀ b ∈ s.blocks, b.Sound)
    (hrep : RunsWithin step Representable s es) (hrun : runEvents step s es = .ok t) :
    t.spelled = s.spelled ++ requested es := by
  induction es generalizing s with
  | nil =>
    cases hrun
    exact (List.append_nil _).symm
  | cons e es ih =>
    obtain ⟨s', hs', hrest⟩ := runEvents_cons_ok.mp hrun
    obtain ⟨hspelled, hsound'⟩ := step_exact hs hsound hrep.1 hs'
    rw [ih (step_collecting hs hs') hsound' (hrep.2 s' hs') hrest, hspelled, requested_cons e es, List.append_assoc]

lemma run_length (hs : s.cuUp.Collecting) (hrun : runEvents step s es = .ok t) :
    t.spelled.length ≤ s.spelled.length + (requested es).length ∧
      (¬RunsWithin step Representable s es → t.spelled.length < s.spelled.length + (requested es).length) := by
  induction es generalizing s with
  | nil =>
    cases hrun
    exact ⟨Nat.le_add_right _ _, fun h => absurd trivial h⟩
  | cons e es ih =>
    obtain ⟨s', hs', hrest⟩ := runEvents_cons_ok.mp hrun
    obtain ⟨hle, hlt⟩ := step_length hs hs'
    obtain ⟨hle', hlt'⟩ := ih (step_collecting hs hs') hrest
    rw [requested_cons, List.length_append]
    refine ⟨by omega, fun hrep => ?_⟩
    by_cases he : s.Representable e
    · have hlater : ¬RunsWithin step Representable s' es := by
        intro hw
        refine hrep ⟨he, fun s'' hs'' => ?_⟩
        obtain rfl := Except.ok.inj (hs''.symm.trans hs')
        exact hw
      have := hlt' hlater
      omega
    · have := hlt he
      omega

lemma run_spelled_iff (hs : s.cuUp.Collecting) (hsound : ∀ b ∈ s.blocks, b.Sound)
    (hrun : runEvents step s es = .ok t) :
    t.spelled = s.spelled ++ requested es ↔ RunsWithin step Representable s es := by
  constructor
  · intro h
    by_contra hrep
    have hlt := (run_length hs hrun).2 hrep
    rw [h, List.length_append] at hlt
    exact Nat.lt_irrefl _ hlt
  · exact fun hrep => run_exact hs hsound hrep hrun

lemma run_deliver_all (s : DiscardPath) :
    ∃ t, runEvents step s (List.replicate s.nru.length (.deliver {})) = .ok t ∧ t.nru = [] ∧
      t.spelled = s.spelled ∧ t.cuUp = s.cuUp := by
  induction h : s.nru.length generalizing s with
  | zero => exact ⟨s, rfl, List.length_eq_zero_iff.mp h, rfl, rfl⟩
  | succ n ih =>
    obtain ⟨hspelled, hcu, hnru⟩ := deliver_spelled s {}
    have hlen : (s.deliver {}).nru.length = n := by
      rw [hnru, List.length_tail, h]
      rfl
    obtain ⟨t, ht, hempty, hspelled', hcu'⟩ := ih (s.deliver {}) hlen
    rw [List.replicate_succ]
    exact ⟨t, runEvents_cons_ok.mpr ⟨_, rfl, ht⟩, hempty, hspelled'.trans hspelled, hcu'.trans hcu⟩

lemma discarded_of_idle (hnru : t.nru = []) (hblocks : t.cuUp.discardBlocks = []) : t.discarded = t.spelled := by
  simp [spelled, blocks, hnru, hblocks]

lemma step_expired (hs : s.cuUp.Collecting) (h : s.step .dlNotifTimerExpired = .ok t) :
    t.cuUp.discardBlocks = [] := by
  by_cases hrun : s.cuUp.dlNotifTimerRunning
  · obtain ⟨-, hempty, -⟩ := CuUpF1uBearer.flushDiscardBlocks_spec s.cuUp
    simp only [step, hrun, if_true, pure, Except.pure, Except.ok.injEq] at h
    subst h
    exact hempty
  · simp only [step, hrun, if_false, pure, Except.pure, Except.ok.injEq, Bool.false_eq_true] at h
    subst h
    exact hs.running (by simpa using hrun)

/-- After any run, let the timer expire and the transport deliver what is in flight: the DU has then discarded the SNs
that the CU-UP was told to discard, in order and each once, exactly when in every step of the run the blocks could
record the SN. -/
theorem discarded_eq_requested_iff (cfg : DuF1uConfig) (es : List DiscardPathEvent) :
    ∃ t t', runEvents step (init cfg) (es ++ [.dlNotifTimerExpired]) = .ok t ∧
      runEvents step t (List.replicate t.nru.length (.deliver {})) = .ok t' ∧ t'.nru = [] ∧
      (t'.discarded = requested es ↔ RunsWithin step Representable (init cfg) es) := by
  have hinit : (init cfg).cuUp.Collecting := CuUpF1uBearer.collecting_init
  obtain ⟨s, hs, hc⟩ := run_collecting hinit es
  obtain ⟨t, ht, -, -, hother⟩ := step_spec hc .dlNotifTimerExpired
  obtain ⟨t', ht', hempty, hspelled, hcu⟩ := run_deliver_all t
  refine ⟨t, t', runEvents_concat_ok.mpr ⟨s, hs, ht⟩, ht', hempty, ?_⟩
  have hidle : t'.discarded = s.spelled := by
    rw [discarded_of_idle hempty (by rw [hcu, step_expired hc ht]), hspelled, (hother rfl).1]
  have hstart : (init cfg).spelled = [] := rfl
  have hiff := run_spelled_iff hinit nofun hs
  rw [hstart, List.nil_append] at hiff
  rw [hidle]
  exact hiff

/-- 256 consecutive SNs are discarded, and the DU discards none. -/
theorem consecutive_discards_lost :
    ¬∀ (cfg : DuF1uConfig) (es : List DiscardPathEvent) (t t' : DiscardPath),
      runEvents step (init cfg) (es ++ [.dlNotifTimerExpired]) = .ok t →
      runEvents step t (List.replicate t.nru.length (.deliver {})) = .ok t' → t'.discarded = requested es := by
  intro h
  let es : List DiscardPathEvent := (List.range 256).map fun n => .discardSdu (.ofNat n)
  have hrun : ((runEvents step (init ⟨0, false, 0⟩) (es ++ [.dlNotifTimerExpired])).bind fun t =>
      runEvents step t (List.replicate t.nru.length (.deliver {}))).toOption.any (·.discarded = []) = true := by
    decide +kernel
  cases ht : runEvents step (init ⟨0, false, 0⟩) (es ++ [.dlNotifTimerExpired]) with
  | error a =>
    rw [ht] at hrun
    simp [Except.bind, Except.toOption] at hrun
  | ok t =>
    rw [ht] at hrun
    cases ht' : runEvents step t (List.replicate t.nru.length (.deliver {})) with
    | error a => simp [Except.bind, ht', Except.toOption] at hrun
    | ok t' =>
      have hnone : t'.discarded = [] := by simpa [Except.bind, ht', Except.toOption] using hrun
      have hall := h _ es t t' ht ht'
      rw [hnone] at hall
      exact absurd hall (by decide)

end Runs

end DiscardPath

end OwlsRan.F1u
