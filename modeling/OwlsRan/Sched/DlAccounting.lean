import OwlsRan.Sched.LcFrames

/-!
# The DL bytes of a slice

The bytes that a UE has pending in a slice are kept by differences.
-/

namespace OwlsRan.Sched
open OwlsRan.Lib OwlsRan.Adt OwlsRan.Ran

/-- What a channel adds to the pending bytes of the slice `s`. -/
def countedBytes (ue : UeView) (active : Bool) (sliceId : Option Nat) (bufSt s : Nat) : Nat :=
  if active = true ∧ sliceId = some s ∧ ue.fallbackState = false then getMacSduRequiredBytes bufSt else 0

def dlTotal (ue : UeView) (channels : FlatMap DlLogicalChannelContext) (s : Nat) : Nat :=
  channels.weight fun _ ch => countedBytes ue ch.active ch.sliceId ch.bufSt s

/-- The map of pending bytes and the bits of the UE `idx` both tell `total`. -/
structure PendingMatches (idx : Nat) (pending : FlatMap Nat) (slices : FlatMap RanSliceContext) (total : Nat → Nat) :
    Prop where
  value : ∀ s v, pending.find? s = some v → v = total s
  bit : ∀ s, dlBit slices s idx = decide (0 < (pending.find? s).getD 0)
  known : ∀ s, pending.contains s = true → slices.contains s = true

structure DlFrame (idx : Nat) (slices slices' : FlatMap RanSliceContext) : Prop where
  bit : ∀ s i, i ≠ idx → dlBit slices' s i = dlBit slices s i
  known : ∀ s, slices.contains s = true → slices'.contains s = true

structure DlAccounted (ue : UeView) (x : LcScope) : Prop where
  attached : ∀ lcid ch s, x.lc.channels.find? lcid = some ch → ch.sliceId = some s →
    x.lc.dlPendingBytesPerSlice.contains s = true
  pending : PendingMatches ue.ueIndex x.lc.dlPendingBytesPerSlice x.slices (dlTotal ue x.lc.channels)
  /-- Buffer states and their number are bounded, so the sums fit in 32 bits. -/
  bufSt : ∀ lcid ch, x.lc.channels.find? lcid = some ch → ch.bufSt ≤ maxBufferStatus
  few : x.lc.channels.size ≤ MAX_NOF_RB_LCIDS
  /-- As long as no LCG gets a slice, the code of the UL stays away from the pending bytes of the DL. -/
  lcgSlice : ∀ lcgid lcg, x.lc.lcgs.find? lcgid = some lcg → lcg.sliceId = none

def DlKept (ue : UeView) (x x' : LcScope) : Prop := DlAccounted ue x' ∧ DlFrame ue.ueIndex x.slices x'.slices

section Counting

variable {ue : UeView} {channels : FlatMap DlLogicalChannelContext}

@[simp] lemma countedBytes_none (active : Bool) (bufSt s : Nat) : countedBytes ue active none bufSt s = 0 := by
  simp [countedBytes]

@[simp] lemma countedBytes_inactive (sliceId : Option Nat) (bufSt s : Nat) :
    countedBytes ue false sliceId bufSt s = 0 := by
  simp [countedBytes]

@[simp] lemma countedBytes_zero (active : Bool) (sliceId : Option Nat) (s : Nat) :
    countedBytes ue active sliceId 0 s = 0 := by
  simp [countedBytes]

lemma countedBytes_le (ue : UeView) (active : Bool) (sliceId : Option Nat) (bufSt s : Nat) :
    countedBytes ue active sliceId bufSt s ≤ bufSt + 3 := by
  have := getMacSduRequiredBytes_le bufSt
  unfold countedBytes
  split <;> omega

lemma dlTotal_le (ue : UeView) (hbuf : ∀ lcid ch, channels.find? lcid = some ch → ch.bufSt ≤ maxBufferStatus)
    (hfew : channels.size ≤ MAX_NOF_RB_LCIDS) (s : Nat) : dlTotal ue channels s ≤ 553648227 := by
  have hle : dlTotal ue channels s ≤ channels.size * 16777219 := FlatMap.weight_le fun lcid ch hch => by
    have := countedBytes_le ue ch.active ch.sliceId ch.bufSt s
    have := hbuf lcid ch hch
    unfold maxBufferStatus at this
    omega
  calc dlTotal ue channels s ≤ channels.size * 16777219 := hle
    _ ≤ MAX_NOF_RB_LCIDS * 16777219 := Nat.mul_le_mul_right _ hfew
    _ = 553648227 := rfl

lemma dlTotal_eq_zero {s : Nat} (h : ∀ lcid ch, channels.find? lcid = some ch → ch.sliceId ≠ some s) :
    dlTotal ue channels s = 0 :=
  FlatMap.weight_eq_zero fun lcid ch hch => by
    unfold countedBytes
    rw [if_neg]
    exact fun hc => h lcid ch hch hc.2.1

lemma dlTotal_modify (ue : UeView) {lcid : Nat} {ch : DlLogicalChannelContext} (hch : channels.find? lcid = some ch)
    (f : DlLogicalChannelContext → DlLogicalChannelContext) (s : Nat) :
    dlTotal ue (channels.modify lcid f) s + countedBytes ue ch.active ch.sliceId ch.bufSt s =
      dlTotal ue channels s + countedBytes ue (f ch).active (f ch).sliceId (f ch).bufSt s :=
  FlatMap.weight_modify hch f

end Counting

section Slices

variable {slices : FlatMap RanSliceContext}

lemma DlFrame.refl (idx : Nat) (slices : FlatMap RanSliceContext) : DlFrame idx slices slices :=
  ⟨fun _ _ _ => rfl, fun _ h => h⟩

lemma DlFrame.trans {idx : Nat} {slices' slices'' : FlatMap RanSliceContext} (h : DlFrame idx slices slices')
    (h' : DlFrame idx slices' slices'') : DlFrame idx slices slices'' :=
  ⟨fun s i hi => (h'.bit s i hi).trans (h.bit s i hi), fun s hs => h'.known s (h.known s hs)⟩

lemma dlBit_modify (f : RanSliceContext → RanSliceContext) (sliceId s i : Nat) :
    dlBit (slices.modify sliceId f) s i =
      match slices.find? s with
      | some ctx => (if s = sliceId then f ctx else ctx).pendingDlUes.bit i
      | none => false := by
  unfold dlBit
  rw [FlatMap.find?_modify]
  cases slices.find? s with
  | none => by_cases h : s = sliceId <;> simp [h]
  | some ctx => by_cases h : s = sliceId <;> simp [h]

lemma setPendingDlUe_spec (sliceId idx : Nat) (val : Bool) :
    Yields (setPendingDlUe slices sliceId idx val)
      (fun slices' => (∀ s i, dlBit slices' s i = if s = sliceId ∧ i = idx then val else dlBit slices s i) ∧
        ∀ s, slices'.contains s = slices.contains s) DlSafe := by
  unfold setPendingDlUe
  refine yields_bind (yields_atKey _ _) fun ctx hctx => yields_bind (yields_lift dlSafe_bitset) fun bits hbits => ?_
  refine ⟨fun s i => ?_, fun s => FlatMap.contains_modify _ _ _ _⟩
  rw [dlBit_modify]
  unfold dlBit
  by_cases hs : s = sliceId
  · rw [hs, hctx]
    simp only [if_true, true_and]
    exact BoundedBitset.bit_set hbits i
  · cases slices.find? s <;> simp [hs]

lemma setPendingUlUe_spec (sliceId idx : Nat) (val : Bool) :
    Yields (setPendingUlUe slices sliceId idx val)
      (fun slices' => (∀ s i, dlBit slices' s i = dlBit slices s i) ∧
        ∀ s, slices'.contains s = slices.contains s) DlSafe := by
  unfold setPendingUlUe
  refine yields_bind (yields_atKey _ _) fun ctx _ => yields_bind (yields_lift dlSafe_bitset) fun bits _ => ?_
  refine ⟨fun s i => ?_, fun s => FlatMap.contains_modify _ _ _ _⟩
  rw [dlBit_modify]
  unfold dlBit
  cases slices.find? s with
  | none => rfl
  | some ctx => by_cases hs : s = sliceId <;> simp [hs]

lemma resetPendingDl_spec (idx : Nat) (pending : FlatMap Nat) :
    Yields (LcScope.resetPendingUe setPendingDlUe idx pending slices)
      (fun slices' => (∀ s i, dlBit slices' s i =
          (dlBit slices s i && !(decide (i = idx) && decide (0 < (pending.find? s).getD 0)))) ∧
        ∀ s, slices'.contains s = slices.contains s) DlSafe := by
  have hloop : ∀ (es : List (Nat × Nat)) (slices : FlatMap RanSliceContext),
      Yields (es.foldlM (fun slices e => if e.2 > 0 then setPendingDlUe slices e.1 idx false else .ok slices) slices)
        (fun slices' => (∀ s i, dlBit slices' s i =
            (dlBit slices s i && !(decide (i = idx) && es.any fun e => e.1 = s ∧ 0 < e.2))) ∧
          ∀ s, slices'.contains s = slices.contains s) DlSafe := by
    intro es
    induction es with
    | nil =>
      intro slices
      simp
    | cons e es ih =>
      intro slices
      rw [List.foldlM_cons]
      have hhead : Yields (if e.2 > 0 then setPendingDlUe slices e.1 idx false else .ok slices)
          (fun slices' => (∀ s i, dlBit slices' s i =
              (dlBit slices s i && !(decide (i = idx) && decide (e.1 = s ∧ 0 < e.2)))) ∧
            ∀ s, slices'.contains s = slices.contains s) DlSafe := by
        refine yields_ite (fun hpos => ?_) fun hpos => ?_
        · refine (setPendingDlUe_spec e.1 idx false).post fun slices' h => ⟨fun s i => ?_, h.2⟩
          rw [h.1 s i]
          by_cases hs : e.1 = s <;> by_cases hi : i = idx <;> simp [hs, hi, hpos, eq_comm (a := s)]
        · exact ⟨fun s i => by simp [hpos], fun _ => rfl⟩
      refine yields_bind hhead fun slices₁ h₁ => (ih slices₁).post fun slices' h => ⟨fun s i => ?_, fun s => ?_⟩
      · rw [h.1 s i, h₁.1 s i, List.any_cons, Bool.and_assoc, Bool.and_or_distrib_left, Bool.not_or]
      · exact (h.2 s).trans (h₁.2 s)
  unfold LcScope.resetPendingUe
  refine (hloop pending.entries slices).post fun slices' h => ⟨fun s i => ?_, h.2⟩
  have hany : (pending.entries.any fun e => e.1 = s ∧ 0 < e.2) = decide (0 < (pending.find? s).getD 0) := by
    rw [Bool.eq_iff_iff, List.any_eq_true, decide_eq_true_iff]
    constructor
    · rintro ⟨e, he, hpos⟩
      obtain ⟨rfl, hlt⟩ := of_decide_eq_true hpos
      rw [FlatMap.find?_eq_some_iff.mpr he]
      exact hlt
    · intro hpos
      cases hv : pending.find? s with
      | none =>
        rw [hv] at hpos
        exact absurd hpos (lt_irrefl 0)
      | some v =>
        rw [hv] at hpos
        exact ⟨(s, v), FlatMap.find?_eq_some_iff.mp hv, decide_eq_true ⟨rfl, hpos⟩⟩
  rw [h.1 s i, hany]

lemma resetPendingUl_spec (idx : Nat) (pending : FlatMap Nat) :
    Yields (LcScope.resetPendingUe setPendingUlUe idx pending slices)
      (fun slices' => (∀ s i, dlBit slices' s i = dlBit slices s i) ∧
        ∀ s, slices'.contains s = slices.contains s) DlSafe := by
  unfold LcScope.resetPendingUe
  refine yields_foldlM ⟨fun _ _ => rfl, fun _ => rfl⟩ fun slices' e _ h => yields_ite (fun _ => ?_) fun _ => h
  refine (setPendingUlUe_spec e.1 idx false).post fun slices'' h' => ?_
  exact ⟨fun s i => (h'.1 s i).trans (h.1 s i), fun s => (h'.2 s).trans (h.2 s)⟩

end Slices

section Channels

variable {ue : UeView} {x : LcScope}

/-- The differential update takes `total` to any `total'` that differs from it by the two buffer states. -/
lemma onSingleChannelBufStUpdate_spec {active : Bool} {sliceId : Option Nat} {newBufSt prevBufSt : Nat}
    (total total' : Nat → Nat)
    (h : PendingMatches ue.ueIndex x.lc.dlPendingBytesPerSlice x.slices total)
    (hslice : ∀ s, sliceId = some s → x.lc.dlPendingBytesPerSlice.contains s = true)
    (htotal : ∀ s, total' s + countedBytes ue active sliceId prevBufSt s =
      total s + countedBytes ue active sliceId newBufSt s)
    (hbound : ∀ s, total s + countedBytes ue active sliceId newBufSt s < 4294967296) :
    Yields (x.onSingleChannelBufStUpdate ue active sliceId newBufSt prevBufSt)
      (fun x' => ∃ pending slices, x' = { x with lc.dlPendingBytesPerSlice := pending, slices := slices } ∧
        PendingMatches ue.ueIndex pending slices total' ∧
        (∀ s, pending.contains s = x.lc.dlPendingBytesPerSlice.contains s) ∧
        DlFrame ue.ueIndex x.slices slices) DlSafe := by
  have hsame : (∀ b s, countedBytes ue active sliceId b s = 0) → ∃ pending slices,
      x = { x with lc.dlPendingBytesPerSlice := pending, slices := slices } ∧
        PendingMatches ue.ueIndex pending slices total' ∧
        (∀ s, pending.contains s = x.lc.dlPendingBytesPerSlice.contains s) ∧
        DlFrame ue.ueIndex x.slices slices := by
    intro hzero
    have heq : total' = total := by
      funext s
      simpa [hzero] using htotal s
    exact ⟨_, _, rfl, heq ▸ h, fun _ => rfl, DlFrame.refl _ _⟩
  unfold LcScope.onSingleChannelBufStUpdate
  split
  case h_1 => exact hsame fun b s => countedBytes_none _ _ _
  case h_2 s =>
    refine yields_ite (fun hinactive => ?_) fun hactive => yields_ite (fun hfallback => ?_) fun hfallback => ?_
    · have ha : active = false := by simpa using hinactive
      exact hsame fun b s => by rw [ha, countedBytes_inactive]
    · exact hsame fun b s => if_neg fun h => by simp [hfallback] at h
    have hcounted : ∀ b s', countedBytes ue active (some s) b s' =
        if s' = s then getMacSduRequiredBytes b else 0 := by
      intro b s'
      have ha : active = true := by simpa using hactive
      have hf : ue.fallbackState = false := by simpa using hfallback
      unfold countedBytes
      simp only [ha, hf, Option.some.injEq, eq_comm (a := s), true_and, and_true]
    obtain ⟨v, hv⟩ := FlatMap.contains_iff.mp (hslice s rfl)
    have hvs := h.value s v hv
    have hs := htotal s
    have hb := hbound s
    rw [hcounted, hcounted, if_pos rfl, if_pos rfl] at hs
    rw [hcounted, if_pos rfl] at hb
    rw [hv]
    dsimp only
    have hwrap : wrap32 (v + wrap32 (getMacSduRequiredBytes newBufSt +
        (4294967296 - getMacSduRequiredBytes prevBufSt))) = total' s := by
      unfold wrap32
      omega
    have hsafe : ¬wrap32 (v + getMacSduRequiredBytes newBufSt) < getMacSduRequiredBytes prevBufSt := by
      unfold wrap32
      omega
    rw [if_neg hsafe, hwrap]
    -- the map, whatever becomes of the bit
    have hvalue : ∀ s' v', (x.lc.dlPendingBytesPerSlice.modify s fun _ => total' s).find? s' = some v' →
        v' = total' s' := by
      intro s' v' hv'
      rw [FlatMap.find?_modify] at hv'
      split at hv'
      case isTrue heq =>
        rw [heq, hv] at hv'
        rw [heq]
        exact (Option.some.inj hv').symm
      case isFalse hne =>
        have := htotal s'
        rw [hcounted, hcounted, if_neg hne, if_neg hne] at this
        rw [h.value s' v' hv']
        omega
    have hget : ∀ s', ((x.lc.dlPendingBytesPerSlice.modify s fun _ => total' s).find? s').getD 0 =
        if s' = s then total' s else (x.lc.dlPendingBytesPerSlice.find? s').getD 0 := by
      intro s'
      rw [FlatMap.find?_modify]
      by_cases heq : s' = s <;> simp [heq, hv]
    have hold : dlBit x.slices s ue.ueIndex = decide (0 < v) := by
      rw [h.bit s, hv]
      rfl
    refine yields_ite (fun hcross => ?_) fun hcross => ?_
    · refine yields_bind (setPendingDlUe_spec s ue.ueIndex _) fun slices hslices => ?_
      refine ⟨_, slices, rfl, ⟨hvalue, fun s' => ?_, fun s' hs' => ?_⟩, fun s' => FlatMap.contains_modify _ _ _ _, ?_⟩
      · rw [hslices.1, hget]
        by_cases heq : s' = s
        · simp [heq]
        · simp [heq, h.bit s']
      · rw [FlatMap.contains_modify] at hs'
        rw [hslices.2]
        exact h.known s' hs'
      · refine ⟨fun s' i hi => ?_, fun s' hs' => ?_⟩
        · rw [hslices.1, if_neg fun hc => hi hc.2]
        · rw [hslices.2]
          exact hs'
    · refine ⟨_, x.slices, rfl, ⟨hvalue, fun s' => ?_, fun s' hs' => ?_⟩, fun s' => FlatMap.contains_modify _ _ _ _,
        DlFrame.refl _ _⟩
      · rw [hget]
        split
        case isTrue heq =>
          rw [heq, hold]
          rw [ne_eq, not_not] at hcross
          exact hcross
        case isFalse => exact h.bit s'
      · rw [FlatMap.contains_modify] at hs'
        exact h.known s' hs'

lemma DlAccounted.bound (h : DlAccounted ue x) {bufSt : Nat} (hb : bufSt ≤ maxBufferStatus) (active : Bool)
    (sliceId : Option Nat) (s : Nat) :
    dlTotal ue x.lc.channels s + countedBytes ue active sliceId bufSt s < 4294967296 := by
  have := dlTotal_le ue h.bufSt h.few s
  have := countedBytes_le ue active sliceId bufSt s
  unfold maxBufferStatus at hb
  omega

lemma DlKept.trans {x' x'' : LcScope} (h : DlKept ue x x') (h' : DlKept ue x' x'') : DlKept ue x x'' :=
  ⟨h'.1, h.2.trans h'.2⟩

lemma DlAccounted.kept_of_eq (h : DlAccounted ue x) {x' : LcScope} (hch : x'.lc.channels = x.lc.channels)
    (hp : x'.lc.dlPendingBytesPerSlice = x.lc.dlPendingBytesPerSlice) (hs : x'.slices = x.slices)
    (hlcg : ∀ lcgid lcg, x'.lc.lcgs.find? lcgid = some lcg → lcg.sliceId = none) : DlKept ue x x' := by
  refine ⟨⟨?_, ?_, ?_, ?_, hlcg⟩, ?_⟩
  · rw [hch, hp]
    exact h.attached
  · rw [hch, hp, hs]
    exact h.pending
  · rw [hch]
    exact h.bufSt
  · rw [hch]
    exact h.few
  · rw [hs]
    exact DlFrame.refl _ _

lemma DlAccounted.kept_refl (h : DlAccounted ue x) : DlKept ue x x := ⟨h, DlFrame.refl _ _⟩

variable {ch : DlLogicalChannelContext} {f : DlLogicalChannelContext → DlLogicalChannelContext}

lemma DlAccounted.rewriteChannel (h : DlAccounted ue x) {lcid : Nat} (hch : x.lc.channels.find? lcid = some ch)
    {pending : FlatMap Nat} {slices : FlatMap RanSliceContext}
    (hpend : PendingMatches ue.ueIndex pending slices (dlTotal ue (x.lc.channels.modify lcid f)))
    (hcont : ∀ s, x.lc.dlPendingBytesPerSlice.contains s = true → pending.contains s = true)
    (hatt : ∀ s, (f ch).sliceId = some s → pending.contains s = true) (hbuf : (f ch).bufSt ≤ maxBufferStatus) :
    DlAccounted ue { x with
      lc.channels := x.lc.channels.modify lcid f, lc.dlPendingBytesPerSlice := pending, slices := slices } := by
  refine ⟨fun l c s hc hs => ?_, hpend, fun l c hc => ?_, ?_, h.lcgSlice⟩
  · rw [FlatMap.find?_modify] at hc
    split at hc
    case isTrue heq =>
      rw [heq, hch] at hc
      obtain rfl := Option.some.inj hc
      exact hatt s hs
    case isFalse => exact hcont s (h.attached l c s hc hs)
  · rw [FlatMap.find?_modify] at hc
    split at hc
    case isTrue heq =>
      rw [heq, hch] at hc
      obtain rfl := Option.some.inj hc
      exact hbuf
    case isFalse => exact h.bufSt l c hc
  · exact (FlatMap.size_modify f).le.trans h.few

lemma DlAccounted.updateChannel (h : DlAccounted ue x) (x₁ : LcScope) {lcid : Nat}
    (hch : x.lc.channels.find? lcid = some ch)
    {active : Bool} {sliceId : Option Nat} {newBufSt prevBufSt : Nat}
    (hx₁ : x₁ = { x with lc.channels := x₁.lc.channels })
    (hslice : ∀ s, sliceId = some s → x.lc.dlPendingBytesPerSlice.contains s = true)
    (hatt : ∀ s, (f ch).sliceId = some s → x.lc.dlPendingBytesPerSlice.contains s = true)
    (hbuf : (f ch).bufSt ≤ maxBufferStatus) (hnew : newBufSt ≤ maxBufferStatus)
    (hcount : ∀ s, countedBytes ue (f ch).active (f ch).sliceId (f ch).bufSt s +
        countedBytes ue active sliceId prevBufSt s =
      countedBytes ue ch.active ch.sliceId ch.bufSt s + countedBytes ue active sliceId newBufSt s) :
    Yields (x₁.onSingleChannelBufStUpdate ue active sliceId newBufSt prevBufSt)
      (fun x' => (∃ pending slices, x' = { x₁ with lc.dlPendingBytesPerSlice := pending, slices := slices }) ∧
        DlKept ue x { x' with lc.channels := x.lc.channels.modify lcid f }) DlSafe := by
  have hpend : x₁.lc.dlPendingBytesPerSlice = x.lc.dlPendingBytesPerSlice := by rw [hx₁]
  have hslices : x₁.slices = x.slices := by rw [hx₁]
  refine (onSingleChannelBufStUpdate_spec (dlTotal ue x.lc.channels)
    (dlTotal ue (x.lc.channels.modify lcid f)) ?_ ?_ (fun s => ?_) (fun s => ?_)).post ?_
  · rw [hpend, hslices]
    exact h.pending
  · rw [hpend]
    exact hslice
  · have := dlTotal_modify ue hch f s
    have := hcount s
    omega
  · exact h.bound hnew active sliceId s
  · rintro x' ⟨pending, slices, rfl, hmatch, hcont, hframe⟩
    rw [hpend] at hcont
    rw [hslices] at hframe
    refine ⟨⟨pending, slices, rfl⟩, ?_, hframe⟩
    rw [hx₁]
    exact h.rewriteChannel hch hmatch (fun s hs => (hcont s).trans hs) (fun s hs => (hcont s).trans (hatt s hs)) hbuf

lemma DlAccounted.touchChannel (h : DlAccounted ue x) {lcid : Nat} (hch : x.lc.channels.find? lcid = some ch)
    (hslice : (f ch).sliceId = ch.sliceId) (hbuf : (f ch).bufSt = ch.bufSt) (hactive : (f ch).active = ch.active) :
    DlKept ue x { x with lc.channels := x.lc.channels.modify lcid f } := by
  have htotal : dlTotal ue (x.lc.channels.modify lcid f) = dlTotal ue x.lc.channels := by
    funext s
    have := dlTotal_modify ue hch f s
    rw [hslice, hbuf, hactive] at this
    omega
  refine ⟨h.rewriteChannel hch (htotal ▸ h.pending) (fun s hs => hs) (fun s hs => ?_) ?_, DlFrame.refl _ _⟩
  · exact h.attached lcid ch s hch (hslice ▸ hs)
  · rw [hbuf]
    exact h.bufSt lcid ch hch

lemma dropDlSlice_kept (h : DlAccounted ue x) (prev : Nat) : DlKept ue x (x.dropDlSlice prev) := by
  unfold LcScope.dropDlSlice
  split
  case isTrue => exact h.kept_refl
  case isFalse hany =>
    have hnone : ∀ lcid ch, x.lc.channels.find? lcid = some ch → ch.sliceId ≠ some prev := by
      intro lcid ch hch hs
      apply hany
      rw [List.any_eq_true]
      exact ⟨(lcid, ch), FlatMap.find?_eq_some_iff.mp hch, decide_eq_true hs⟩
    refine ⟨⟨fun lcid ch s hch hs => ?_, ⟨fun s v hv => ?_, fun s => ?_, fun s hs => ?_⟩, h.bufSt, h.few, h.lcgSlice⟩,
      DlFrame.refl _ _⟩
    · have hne : s ≠ prev := by
        rintro rfl
        exact hnone lcid ch hch hs
      rw [FlatMap.contains_erase, decide_eq_true hne]
      exact h.attached lcid ch s hch hs
    · rw [FlatMap.find?_erase] at hv
      split at hv
      case isTrue => cases hv
      case isFalse => exact h.pending.value s v hv
    · rw [h.pending.bit s, FlatMap.find?_erase]
      by_cases hs : s = prev
      · -- the sum over no channels is zero, so the bit is off already
        subst hs
        rw [if_pos rfl]
        cases hv : x.lc.dlPendingBytesPerSlice.find? s with
        | none => rfl
        | some v =>
          have := h.pending.value s v hv
          rw [dlTotal_eq_zero hnone] at this
          rw [this]
          rfl
      · rw [if_neg hs]
    · rw [FlatMap.contains_erase, Bool.and_eq_true] at hs
      exact h.pending.known s hs.2

lemma deregisterLcRanSlice_kept (h : DlAccounted ue x) (lcid : Nat) :
    Yields (x.deregisterLcRanSlice ue lcid)
      (fun x' => DlKept ue x x' ∧ (∀ ch, x.lc.channels.find? lcid = some ch →
        x'.lc.channels.find? lcid = some { ch with sliceId := none })) DlSafe := by
  unfold LcScope.deregisterLcRanSlice
  split
  case h_1 hnone =>
    refine ⟨h.kept_refl, fun ch hch => ?_⟩
    rw [hnone] at hch
    cases hch
  case h_2 ch hch =>
    have hone : ∀ ch', x.lc.channels.find? lcid = some ch' → ch = ch' := fun ch' hch' =>
      Option.some.inj (hch.symm.trans hch')
    refine yields_bind (h.updateChannel x hch (f := fun c => { c with sliceId := none }) rfl
      (fun s hs => h.attached lcid ch s hch hs) (fun s hs => nomatch hs) (h.bufSt lcid ch hch) (Nat.zero_le _)
      fun s => ?_) ?_
    · rw [countedBytes_none, countedBytes_zero]
      omega
    · rintro x' ⟨⟨pending, slices, rfl⟩, hkept⟩
      split
      case h_1 hnone =>
        -- a channel without a slice stays as it is
        have hsame : x.lc.channels.modify lcid (fun c => { c with sliceId := none }) = x.lc.channels := by
          refine FlatMap.modify_eq_self fun c hc => ?_
          obtain rfl := hone c hc
          cases ch
          cases hnone
          rfl
        rw [hsame] at hkept
        refine ⟨hkept, fun ch' hch' => ?_⟩
        obtain rfl := hone ch' hch'
        dsimp only
        rw [hch, ← hnone]
      case h_2 prev hprev =>
        refine ⟨hkept.trans (dropDlSlice_kept hkept.1 prev), fun ch' hch' => ?_⟩
        obtain rfl := hone ch' hch'
        unfold LcScope.dropDlSlice
        split <;> simp [hch]

lemma addDlSlice_kept (h : DlAccounted ue x) (configuredUes : BoundedBitset MAX_NOF_DU_UES) (sliceId : Nat) :
    Yields (x.addDlSlice configuredUes sliceId)
      (fun x' => DlKept ue x x' ∧ x'.lc.channels = x.lc.channels ∧
        x'.lc.dlPendingBytesPerSlice.contains sliceId = true) DlSafe := by
  unfold LcScope.addDlSlice
  refine yields_ite (fun hc => ⟨h.kept_refl, rfl, hc⟩) fun hc => ?_
  refine yields_bind (yields_emplaceWithin _ _ _ _) ?_
  rintro pending (⟨hc', -⟩ | ⟨hnone, -, rfl⟩)
  · exact absurd hc' hc
  have hcreate : (∀ s i, dlBit (LcScope.createSlice configuredUes sliceId x.slices) s i = dlBit x.slices s i) ∧
      ∀ s, (LcScope.createSlice configuredUes sliceId x.slices).contains s =
        (decide (s = sliceId) || x.slices.contains s) := by
    unfold LcScope.createSlice
    split
    case isTrue hin =>
      refine ⟨fun _ _ => rfl, fun s => ?_⟩
      by_cases hs : s = sliceId <;> simp [hs, hin]
    case isFalse hin =>
      have hnew : x.slices.find? sliceId = none := FlatMap.contains_eq_false_iff.mp (by simpa using hin)
      refine ⟨fun s i => ?_, FlatMap.contains_emplace hnew _⟩
      unfold dlBit
      rw [FlatMap.find?_emplace hnew]
      by_cases hs : s = sliceId
      · simp [hs, hnew]
      · rw [if_neg hs]
  refine ⟨⟨⟨fun lcid ch s hch hs => ?_, ⟨fun s v hv => ?_, fun s => ?_, fun s hs => ?_⟩, h.bufSt, h.few, h.lcgSlice⟩,
    fun s i _ => hcreate.1 s i, fun s hs => ?_⟩, rfl, ?_⟩
  · rw [FlatMap.contains_emplace hnone, h.attached lcid ch s hch hs, Bool.or_true]
  · dsimp only at hv
    rw [FlatMap.find?_emplace hnone] at hv
    split at hv
    case isTrue heq =>
      -- no channel is attached to a slice that the UE does not have
      rw [← Option.some.inj hv, heq]
      refine (dlTotal_eq_zero fun lcid ch hch hs => ?_).symm
      exact hc (h.attached lcid ch sliceId hch hs)
    case isFalse => exact h.pending.value s v hv
  · rw [hcreate.1, h.pending.bit s, FlatMap.find?_emplace hnone]
    by_cases hs : s = sliceId
    · rw [hs, if_pos rfl, hnone]
      rfl
    · rw [if_neg hs]
  · dsimp only at hs
    rw [FlatMap.contains_emplace hnone, Bool.or_eq_true] at hs
    rw [hcreate.2, Bool.or_eq_true]
    exact hs.imp_right (h.pending.known s)
  · rw [hcreate.2, hs, Bool.or_true]
  · simp [FlatMap.contains_emplace hnone]

lemma setLcidRanSlice_kept (h : DlAccounted ue x) (configuredUes : BoundedBitset MAX_NOF_DU_UES)
    (lcid sliceId : Nat) : Yields (x.setLcidRanSlice ue configuredUes lcid sliceId) (DlKept ue x) DlSafe := by
  unfold LcScope.setLcidRanSlice
  split
  case h_1 => exact ⟨nofun, nofun⟩
  case h_2 ch hch =>
    refine yields_ite (fun _ => h.kept_refl) fun _ => ?_
    refine yields_bind (deregisterLcRanSlice_kept h lcid) ?_
    rintro x₁ ⟨h₁, hch₁⟩
    refine yields_bind (addDlSlice_kept h₁.1 configuredUes sliceId) ?_
    rintro x₂ ⟨h₂, hsame, hin⟩
    have hch₂ : x₂.lc.channels.find? lcid = some { ch with sliceId := none } := by
      rw [hsame]
      exact hch₁ ch hch
    refine (h₂.1.updateChannel { x₂ with lc.channels := _ } hch₂
      (f := fun c => { c with sliceId := some sliceId }) rfl ?_ ?_ ?_ ?_ fun s => ?_).post ?_
    · rintro s hs
      exact Option.some.inj hs ▸ hin
    · rintro s hs
      exact Option.some.inj hs ▸ hin
    · exact h.bufSt lcid ch hch
    · exact h.bufSt lcid ch hch
    · dsimp only
      rw [countedBytes_none, countedBytes_zero]
      omega
    · rintro x' ⟨⟨pending, slices, rfl⟩, hkept⟩
      exact h₁.trans (h₂.trans hkept)

lemma handleDlBufferStatusIndication_kept (h : DlAccounted ue x) (lcid bufferStatus : Nat) (holToa : SlotPoint) :
    Yields (x.handleDlBufferStatusIndication ue lcid bufferStatus holToa) (DlKept ue x) DlSafe := by
  unfold LcScope.handleDlBufferStatusIndication
  refine yields_ite (fun _ => ⟨nofun, nofun⟩) fun _ => ?_
  split
  case h_1 => exact h.kept_refl
  case h_2 ch hch =>
    refine (h.updateChannel { x with lc.channels := _ } hch
      (f := fun c => { c with bufSt := min bufferStatus maxBufferStatus, holToa := holToa }) rfl
      (fun s hs => h.attached lcid ch s hch hs) (fun s hs => h.attached lcid ch s hch hs) (Nat.min_le_right _ _)
      (Nat.min_le_right _ _) fun s => Nat.add_comm _ _).post ?_
    rintro x' ⟨⟨pending, slices, rfl⟩, hkept⟩
    exact hkept

/-- A scheduled channel never ends up with more than it had: an SDU that leaves bytes behind carries more than the
overhead that is added. -/
lemma bufStAfterSched_le {lcid bufSt pending remBytes : Nat}
    (hpending : pending = getMacSduRequiredBytes bufSt)
    (hrem : ¬remBytes < getMacSduWithSubhdrAndRlcHdrEstim lcid 1) :
    LcScope.bufStAfterSched lcid bufSt
      (min (getMacSduSize (macSduAllocBytes (getMacSduWithSubhdrAndRlcHdrEstim lcid 1) pending remBytes)) bufSt) ≤
        bufSt := by
  have hle := le_getMacSduRequiredBytes bufSt
  unfold LcScope.bufStAfterSched
  dsimp only
  split
  case isFalse => omega
  case isTrue hcond =>
    have hmin : getMacSduWithSubhdrAndRlcHdrEstim lcid 1 = 6 := by
      unfold getMacSduWithSubhdrAndRlcHdrEstim
      rw [if_pos ⟨hcond.1, Nat.one_pos⟩]
      rfl
    rw [hmin] at hrem ⊢
    have halloc : 6 ≤ macSduAllocBytes 6 pending remBytes := by
      unfold macSduAllocBytes MAC_SDU_SUBHEADER_LENGTH_THRES MIN_MAC_SDU_SUBHEADER_SIZE
      dsimp only
      split <;> split <;> omega
    have hsize : 3 ≤ getMacSduSize (macSduAllocBytes 6 pending remBytes) := by
      unfold getMacSduSize MAC_SDU_SUBHEADER_LENGTH_THRES MIN_MAC_SDU_SUBHEADER_SIZE
      rw [if_neg (by omega)]
      dsimp only
      split <;> omega
    have hpos := hcond.2
    rw [hmin] at hpos
    unfold RLC_SEGMENTATION_OVERHEAD
    omega

lemma allocateMacSduOf_kept (h : DlAccounted ue x) (subpdu : DlMsgLcInfo) (lcid remBytes : Nat) :
    Yields (x.allocateMacSduOf ue subpdu lcid remBytes) (fun r => DlKept ue x r.2) DlSafe := by
  unfold LcScope.allocateMacSduOf
  split
  case isFalse => exact ⟨nofun, nofun⟩
  case isTrue =>
    refine yields_ite (fun _ => h.kept_refl) fun hrem => ?_
    split
    case h_1 => exact h.kept_refl
    case h_2 ch hch =>
      refine yields_ite (fun _ => h.kept_refl) fun hpos => ?_
      have hactive : pendingBytesOfChannel ch = getMacSduRequiredBytes ch.bufSt := by
        unfold pendingBytesOfChannel at hpos ⊢
        split
        case isTrue => rfl
        case isFalse hinactive => exact absurd (if_neg hinactive) hpos
      have hbuf := (bufStAfterSched_le hactive hrem).trans (h.bufSt lcid ch hch)
      dsimp only
      generalize LcScope.bufStAfterSched lcid ch.bufSt _ = newBufSt at hbuf ⊢
      refine yields_bind (h.updateChannel { x with lc.channels := _ } hch
        (f := fun c => { c with bufSt := newBufSt }) rfl
        (fun s hs => h.attached lcid ch s hch hs) (fun s hs => h.attached lcid ch s hch hs) hbuf hbuf
        fun s => Nat.add_comm _ _) ?_
      rintro x' ⟨⟨pending, slices, rfl⟩, hkept⟩
      split
      case h_1 => exact hkept
      case h_2 rid _ =>
        refine yields_bind (yields_rowAt _ _) fun _ _ => ?_
        exact hkept.trans (hkept.1.kept_of_eq rfl rfl rfl hkept.1.lcgSlice)

lemma allocateMacSdu_kept (h : DlAccounted ue x) (subpdu : DlMsgLcInfo) (remBytes lcid : Nat) :
    Yields (x.allocateMacSdu ue subpdu remBytes lcid) (fun r => DlKept ue x r.2) DlSafe := by
  unfold LcScope.allocateMacSdu
  exact yields_ite (fun _ => h.kept_refl) fun _ => allocateMacSduOf_kept h _ _ _

end Channels

section Lcgs

variable {ue : UeView} {x : LcScope}

def NoLcgSlice (x : LcScope) : Prop := ∀ lcgid lcg, x.lc.lcgs.find? lcgid = some lcg → lcg.sliceId = none

/-- `x'` differs from `x` at most in its LCGs and their QoS, and no LCG has a slice. -/
def LcgsOnly (x x' : LcScope) : Prop :=
  (∃ lcgs qosLcgs, x' = { x with lc.lcgs := lcgs, qosLcgs := qosLcgs }) ∧ NoLcgSlice x'

lemma LcgsOnly.kept (h : DlAccounted ue x) {x' : LcScope} (hx' : LcgsOnly x x') : DlKept ue x x' := by
  obtain ⟨⟨lcgs, qosLcgs, rfl⟩, hslice⟩ := hx'
  exact h.kept_of_eq rfl rfl rfl hslice

lemma LcgsOnly.trans {x' x'' : LcScope} (h : LcgsOnly x x') (h' : LcgsOnly x' x'') : LcgsOnly x x'' := by
  obtain ⟨⟨lcgs, qosLcgs, rfl⟩, -⟩ := h
  obtain ⟨⟨lcgs', qosLcgs', rfl⟩, hslice⟩ := h'
  exact ⟨⟨_, _, rfl⟩, hslice⟩

lemma noLcgSlice_modify (h : NoLcgSlice x) (lcgid : Nat)
    {f : UlLogicalChannelGroupContext → UlLogicalChannelGroupContext} (hf : ∀ lcg, (f lcg).sliceId = lcg.sliceId) :
    LcgsOnly x { x with lc.lcgs := x.lc.lcgs.modify lcgid f } := by
  refine ⟨⟨_, x.qosLcgs, rfl⟩, fun g lcg hg => ?_⟩
  rw [FlatMap.find?_modify] at hg
  split at hg
  case isTrue =>
    obtain ⟨lcg', hlcg', rfl⟩ := Option.map_eq_some_iff.mp hg
    rw [hf]
    exact h g lcg' hlcg'
  case isFalse => exact h g lcg hg

lemma deregisterLcgRanSlice_eq (h : NoLcgSlice x) (lcgid : Nat) : x.deregisterLcgRanSlice ue lcgid = .ok x := by
  unfold LcScope.deregisterLcgRanSlice
  split
  case h_1 => rfl
  case h_2 lcg hlcg =>
    rw [h lcgid lcg hlcg]
    rfl

lemma removeLcg_only (h : NoLcgSlice x) (lcgid ueLcg : Nat) : Yields (x.removeLcg ue lcgid ueLcg) (LcgsOnly x) DlSafe := by
  unfold LcScope.removeLcg
  refine yields_bind (yields_atKey _ _) fun lcg _ => yields_ite (fun _ => ⟨nofun, nofun⟩) fun _ => ?_
  refine yields_bind (yields_eraseRow _ _) fun qosLcgs _ => ?_
  have hslice : NoLcgSlice { x with qosLcgs := qosLcgs } := h
  rw [deregisterLcgRanSlice_eq hslice]
  refine ⟨⟨_, qosLcgs, rfl⟩, fun g lcg hg => ?_⟩
  dsimp only at hg
  rw [FlatMap.find?_erase] at hg
  split at hg
  case isTrue => cases hg
  case isFalse => exact h g lcg hg

lemma countDown_only (h : NoLcgSlice x) (lcgid ueLcg count : Nat) :
    Yields (if count = 0 then
        LcScope.removeLcg ue lcgid ueLcg
          { x with lc.lcgs := x.lc.lcgs.modify ueLcg fun c => { c with lcCount := count } }
      else .ok { x with lc.lcgs := x.lc.lcgs.modify ueLcg fun c => { c with lcCount := count } })
      (LcgsOnly x) DlSafe := by
  have hcount := noLcgSlice_modify h ueLcg (f := fun c => { c with lcCount := count }) fun _ => rfl
  exact yields_ite (fun _ => (removeLcg_only hcount.2 _ _).post fun _ h' => hcount.trans h') fun _ => hcount

end Lcgs

section Configuration

variable {ue : UeView} {x : LcScope}

lemma removeLc_kept (h : DlAccounted ue x) (oldLc : LogicalChannelConfig) :
    Yields (x.removeLc ue oldLc) (DlKept ue x) DlSafe := by
  unfold LcScope.removeLc
  refine yields_bind (yields_atKey _ _) fun ch hch => yields_bind (yields_eraseRow _ _) fun qosChannels _ => ?_
  have h₀ : DlKept ue x { x with qosChannels := qosChannels } := h.kept_of_eq rfl rfl rfl h.lcgSlice
  refine yields_bind (deregisterLcRanSlice_kept h₀.1 oldLc.lcid) ?_
  rintro x₁ ⟨h₁, hch₁⟩
  have hgone := hch₁ ch hch
  -- the channel is attached to nothing, so the sums do not see it go
  have h₂ : DlKept ue x₁ { x₁ with lc.channels := x₁.lc.channels.erase oldLc.lcid } := by
    have htotal : dlTotal ue (x₁.lc.channels.erase oldLc.lcid) = dlTotal ue x₁.lc.channels := by
      funext s
      have := FlatMap.weight_erase (f := fun _ ch => countedBytes ue ch.active ch.sliceId ch.bufSt s) hgone
      rw [countedBytes_none] at this
      exact this
    refine ⟨⟨fun lcid c s hc hs => ?_, htotal ▸ h₁.1.pending, fun lcid c hc => ?_, ?_, h₁.1.lcgSlice⟩,
      DlFrame.refl _ _⟩
    · rw [FlatMap.find?_erase] at hc
      split at hc
      case isTrue => cases hc
      case isFalse => exact h₁.1.attached lcid c s hc hs
    · rw [FlatMap.find?_erase] at hc
      split at hc
      case isTrue => cases hc
      case isFalse => exact h₁.1.bufSt lcid c hc
    · exact FlatMap.size_erase_le.trans h₁.1.few
  refine yields_bind (yields_atKey _ _) fun lcg _ => ?_
  exact (countDown_only h₂.1.lcgSlice _ _ _).post fun x' hx' =>
    h₀.trans (h₁.trans (h₂.trans (hx'.kept h₂.1)))

lemma removeOldLcs_kept (h : DlAccounted ue x) (oldCfgs : Option LogicalChannelConfigList)
    (cfgs : LogicalChannelConfigList) : Yields (x.removeOldLcs ue oldCfgs cfgs) (DlKept ue x) DlSafe := by
  unfold LcScope.removeOldLcs
  split
  case h_1 => exact h.kept_refl
  case h_2 old =>
    refine yields_foldlM h.kept_refl fun x' oldLc _ hx' => yields_ite (fun _ => hx') fun _ => ?_
    exact (removeLc_kept hx'.1 oldLc).post fun x'' hx'' => hx'.trans hx''

lemma addChannel_kept (h : DlAccounted ue x) (lcid : Nat) :
    Yields (emplaceWithin MAX_NOF_RB_LCIDS x.lc.channels lcid DlLogicalChannelContext.init)
      (fun channels => DlKept ue x { x with lc.channels := channels }) DlSafe := by
  refine (yields_emplaceWithin _ _ _ _).post ?_
  rintro channels (⟨-, rfl⟩ | ⟨hnone, hsize, rfl⟩)
  · exact h.kept_refl
  have htotal : dlTotal ue (x.lc.channels.emplace lcid DlLogicalChannelContext.init) = dlTotal ue x.lc.channels := by
    funext s
    exact FlatMap.weight_emplace hnone
  refine ⟨⟨fun l c s hc hs => ?_, htotal ▸ h.pending, fun l c hc => ?_, ?_, h.lcgSlice⟩, DlFrame.refl _ _⟩
  · dsimp only at hc
    rw [FlatMap.find?_emplace hnone] at hc
    split at hc
    case isTrue =>
      obtain rfl := Option.some.inj hc
      cases hs
    case isFalse => exact h.attached l c s hc hs
  · dsimp only at hc
    rw [FlatMap.find?_emplace hnone] at hc
    split at hc
    case isTrue =>
      obtain rfl := Option.some.inj hc
      exact Nat.zero_le _
    case isFalse => exact h.bufSt l c hc
  · rw [FlatMap.size_emplace hnone]
    exact hsize

lemma attachLcg_kept (h : DlAccounted ue x) (oldCfgs : Option LogicalChannelConfigList)
    (chCfg : LogicalChannelConfig) : Yields (x.attachLcg ue oldCfgs chCfg) (DlKept ue x) DlSafe := by
  unfold LcScope.attachLcg
  refine yields_bind (addChannel_kept h chCfg.lcid) fun channels hx => ?_
  have hjoin := noLcgSlice_modify hx.1.lcgSlice chCfg.lcGroup
    (f := fun c => { c with lcCount := wrap8 (c.lcCount + 1) }) fun _ => rfl
  refine yields_ite (fun _ => ?_) fun _ => yields_ite (fun _ => hx.trans (hjoin.kept hx.1)) fun _ => ?_
  · refine yields_bind (yields_emplaceWithin _ _ _ _) ?_
    rintro lcgs (⟨-, rfl⟩ | ⟨hnone, -, rfl⟩)
    · exact hx
    refine hx.trans (hx.1.kept_of_eq rfl rfl rfl fun g lcg hg => ?_)
    dsimp only at hg
    rw [FlatMap.find?_emplace hnone] at hg
    split at hg
    case isTrue =>
      obtain rfl := Option.some.inj hg
      rfl
    case isFalse => exact hx.1.lcgSlice g lcg hg
  · split
    case h_1 => exact hx
    case h_2 old =>
      split
      case h_1 => exact dlSafe_keyNotFound
      case h_2 oldLc _ =>
        refine yields_ite (fun _ => hx) fun _ => yields_bind (yields_atKey _ _) fun oldLcg _ => ?_
        exact (countDown_only hjoin.2 _ _ _).post fun x' hx' => hx.trans ((hjoin.trans hx').kept hx.1)

lemma activate_kept (h : DlAccounted ue x) (chCfg : LogicalChannelConfig) :
    Yields (x.activate ue chCfg) (DlKept ue x) DlSafe := by
  unfold LcScope.activate
  refine yields_bind (yields_atKey _ _) fun lcg hlcg => yields_bind (yields_atKey _ _) fun ch hch => ?_
  have hchannel : Yields (if !ch.active then x.onSingleChannelBufStUpdate ue true ch.sliceId ch.bufSt 0 else .ok x)
      (fun x' => (∃ pending slices, x' = { x with lc.dlPendingBytesPerSlice := pending, slices := slices }) ∧
        DlKept ue x { x' with lc.channels := x.lc.channels.modify chCfg.lcid fun c => { c with active := true } })
      DlSafe := by
    refine yields_ite (fun hinactive => ?_) fun hactive => ?_
    · have ha : ch.active = false := by simpa using hinactive
      refine h.updateChannel x hch rfl (fun s hs => h.attached _ ch s hch hs)
        (fun s hs => h.attached _ ch s hch hs) (h.bufSt _ ch hch) (h.bufSt _ ch hch) fun s => ?_
      dsimp only
      rw [ha, countedBytes_inactive, countedBytes_zero]
      omega
    · have ha : ch.active = true := by simpa using hactive
      exact ⟨⟨_, _, rfl⟩, h.touchChannel hch rfl rfl ha.symm⟩
  refine yields_bind hchannel ?_
  rintro x' ⟨⟨pending, slices, rfl⟩, hx'⟩
  rw [h.lcgSlice _ lcg hlcg]
  refine yields_bind (Q := (· = _)) (yields_ite (fun _ => rfl) fun _ => rfl) ?_
  rintro x'' rfl
  have hlcg' := noLcgSlice_modify hx'.1.lcgSlice chCfg.lcGroup (f := fun c => { c with active := true })
    fun _ => rfl
  exact hx'.trans (hlcg'.kept hx'.1)

lemma trackQos_kept (h : DlAccounted ue x) (chCfg : LogicalChannelConfig) :
    Yields (x.trackQos ue chCfg) (DlKept ue x) DlSafe := by
  -- whatever becomes of the rows, the contexts change in `qosRow` alone
  have htouch : ∀ (chRow lcgRow : Option Nat) (qosChannels : SoaTable QosContext) (qosLcgs : SoaTable LcgQosContext) ch,
      x.lc.channels.find? chCfg.lcid = some ch → DlKept ue x { x with
        lc.channels := x.lc.channels.modify chCfg.lcid fun c => { c with qosRow := chRow }
        lc.lcgs := x.lc.lcgs.modify chCfg.lcGroup fun c => { c with qosRow := lcgRow }
        qosChannels := qosChannels
        qosLcgs := qosLcgs } := by
    intro chRow lcgRow qosChannels qosLcgs ch hch
    have hrow := h.touchChannel hch (f := fun c => { c with qosRow := chRow }) rfl rfl rfl
    have hlcgs := noLcgSlice_modify hrow.1.lcgSlice chCfg.lcGroup
      (f := fun c => { c with qosRow := lcgRow }) fun _ => rfl
    exact hrow.trans (hrow.1.kept_of_eq rfl rfl rfl hlcgs.2)
  unfold LcScope.trackQos
  refine yields_bind (yields_atKey _ _) fun ch hch => yields_bind (yields_atKey _ _) fun lcg _ => ?_
  refine yields_ite (fun _ => ?_) fun _ => ?_
  · split
    case h_1 => exact ⟨nofun, nofun⟩
    case h_2 winSizeMsec _ =>
      refine yields_bind (yields_rowAt _ _) fun _ _ => yields_bind (yields_rowAt _ _) fun _ _ => ?_
      exact htouch _ _ _ _ ch hch
  · refine yields_bind (yields_eraseRow _ _) fun qosChannels _ => yields_bind (yields_eraseRow _ _) fun qosLcgs _ => ?_
    exact htouch _ _ _ _ ch hch

lemma configure_kept (h : DlAccounted ue x) (cfgs : LogicalChannelConfigList) :
    Yields (x.configure ue cfgs) (DlKept ue x) DlSafe := by
  unfold LcScope.configure
  have h₀ : DlKept ue x { x with lc.channelConfigs := some cfgs } := h.kept_of_eq rfl rfl rfl h.lcgSlice
  refine yields_bind (removeOldLcs_kept h₀.1 _ _) fun x₁ h₁ => ?_
  refine yields_bind (Q := DlKept ue x) (yields_foldlM (h₀.trans h₁) fun x₂ chCfg _ h₂ => ?_) fun x₂ h₂ => ?_
  · unfold LcScope.applyLc
    refine yields_bind (attachLcg_kept h₂.1 _ chCfg) fun x₃ h₃ => ?_
    refine yields_bind (activate_kept h₃.1 chCfg) fun x₄ h₄ => ?_
    exact (trackQos_kept h₄.1 chCfg).post fun x₅ h₅ => h₂.trans (h₃.trans (h₄.trans h₅))
  · refine yields_ite (fun _ => dlSafe_capacityExceeded) fun _ => ?_
    exact h₂.trans (h₂.1.kept_of_eq rfl rfl rfl h₂.1.lcgSlice)

end Configuration

section Activity

variable {ue ue' : UeView} {x : LcScope}

lemma eraseRows_yields {α β : Type} (rowOf : β → Option Nat) (es : List (Nat × β)) (t : SoaTable α) :
    Yields (es.foldlM (fun t e => eraseRow t (rowOf e.2)) t) (fun _ => True) DlSafe :=
  yields_foldlM trivial fun t _ _ _ => (yields_eraseRow t _).post fun _ _ => trivial

lemma PendingMatches.bit_reset {idx : Nat} {pending : FlatMap Nat} {slices slices' : FlatMap RanSliceContext}
    {total : Nat → Nat} (h : PendingMatches idx pending slices total)
    (hreset : ∀ s i, dlBit slices' s i =
      (dlBit slices s i && !(decide (i = idx) && decide (0 < (pending.find? s).getD 0)))) (s : Nat) :
    dlBit slices' s idx = false := by
  rw [hreset, h.bit s]
  simp

lemma dlFrame_of_reset {idx : Nat} {pending : FlatMap Nat} {slices slices' : FlatMap RanSliceContext}
    (hreset : ∀ s i, dlBit slices' s i =
      (dlBit slices s i && !(decide (i = idx) && decide (0 < (pending.find? s).getD 0))))
    (hcont : ∀ s, slices'.contains s = slices.contains s) : DlFrame idx slices slices' := by
  refine ⟨fun s i hi => ?_, fun s hs => (hcont s).trans hs⟩
  rw [hreset, decide_eq_false hi]
  simp

lemma deactivateBearers_kept (h : DlAccounted ue x) :
    Yields (x.deactivateBearers ue)
      (fun x' => DlKept ue x x' ∧ ∀ s, dlBit x'.slices s ue.ueIndex = false) DlSafe := by
  unfold LcScope.deactivateBearers
  refine yields_bind (eraseRows_yields _ _ _) fun qosChannels _ => ?_
  refine yields_bind (eraseRows_yields _ _ _) fun qosLcgs _ => ?_
  refine yields_bind (resetPendingDl_spec _ _) fun slices hslices => ?_
  refine yields_bind (resetPendingUl_spec _ _) fun slices' hslices' => ?_
  have hreset : ∀ s i, dlBit slices' s i = (dlBit x.slices s i &&
      !(decide (i = ue.ueIndex) && decide (0 < (x.lc.dlPendingBytesPerSlice.find? s).getD 0))) :=
    fun s i => (hslices'.1 s i).trans (hslices.1 s i)
  have hcont : ∀ s, slices'.contains s = x.slices.contains s := fun s => (hslices'.2 s).trans (hslices.2 s)
  have hoff := h.pending.bit_reset hreset
  refine ⟨⟨⟨fun lcid ch s hch hs => ?_, ⟨fun s v hv => (nomatch hv), hoff, fun s hs => (nomatch hs)⟩,
    fun lcid ch hch => ?_, ?_, fun lcgid lcg hlcg => ?_⟩, dlFrame_of_reset hreset hcont⟩, hoff⟩
  · rw [FlatMap.find?_mapValues] at hch
    obtain ⟨ch', -, rfl⟩ := Option.map_eq_some_iff.mp hch
    cases hs
  · rw [FlatMap.find?_mapValues] at hch
    obtain ⟨ch', hch', rfl⟩ := Option.map_eq_some_iff.mp hch
    exact h.bufSt lcid ch' hch'
  · exact (FlatMap.size_mapValues _).le.trans h.few
  · dsimp only at hlcg
    rw [FlatMap.find?_mapValues] at hlcg
    obtain ⟨lcg', -, rfl⟩ := Option.map_eq_some_iff.mp hlcg
    rfl

lemma enterFallback_kept (h : DlAccounted ue x) (hidx : ue'.ueIndex = ue.ueIndex) (hfallback : ue'.fallbackState = true) :
    Yields (x.enterFallback ue') (DlKept ue' x) DlSafe := by
  unfold LcScope.enterFallback
  refine yields_bind (resetPendingDl_spec _ _) fun slices hslices => ?_
  refine yields_bind (resetPendingUl_spec _ _) fun slices' hslices' => ?_
  rw [hidx] at hslices
  have hreset : ∀ s i, dlBit slices' s i = (dlBit x.slices s i &&
      !(decide (i = ue.ueIndex) && decide (0 < (x.lc.dlPendingBytesPerSlice.find? s).getD 0))) :=
    fun s i => (hslices'.1 s i).trans (hslices.1 s i)
  have hcont : ∀ s, slices'.contains s = x.slices.contains s := fun s => (hslices'.2 s).trans (hslices.2 s)
  have hzero : ∀ s, dlTotal ue' x.lc.channels s = 0 := fun s => FlatMap.weight_eq_zero fun _ ch _ => by
    simp [countedBytes, hfallback]
  refine ⟨⟨fun lcid ch s hch hs => ?_, ⟨fun s v hv => ?_, fun s => ?_, fun s hs => ?_⟩, h.bufSt, h.few, h.lcgSlice⟩, ?_⟩
  · exact (FlatMap.contains_mapValues _ _ _).trans (h.attached lcid ch s hch hs)
  · dsimp only at hv
    rw [FlatMap.find?_mapValues] at hv
    obtain ⟨v', -, rfl⟩ := Option.map_eq_some_iff.mp hv
    exact (hzero s).symm
  · rw [hidx, h.pending.bit_reset hreset s, FlatMap.find?_mapValues]
    cases x.lc.dlPendingBytesPerSlice.find? s <;> rfl
  · rw [FlatMap.contains_mapValues] at hs
    rw [hcont]
    exact h.pending.known s hs
  · rw [hidx]
    exact dlFrame_of_reset hreset hcont

lemma recountChannels_spec (es : List (Nat × DlLogicalChannelContext)) {x : LcScope} {total : Nat → Nat}
    (h : PendingMatches ue.ueIndex x.lc.dlPendingBytesPerSlice x.slices total)
    (hslice : ∀ e ∈ es, ∀ s, e.2.sliceId = some s → x.lc.dlPendingBytesPerSlice.contains s = true)
    (hbound : ∀ s, total s + (es.map fun e => countedBytes ue e.2.active e.2.sliceId e.2.bufSt s).sum < 4294967296) :
    Yields (es.foldlM (fun x e => x.onSingleChannelBufStUpdate ue e.2.active e.2.sliceId e.2.bufSt 0) x)
      (fun x' => ∃ pending slices, x' = { x with lc.dlPendingBytesPerSlice := pending, slices := slices } ∧
        PendingMatches ue.ueIndex pending slices
          (fun s => total s + (es.map fun e => countedBytes ue e.2.active e.2.sliceId e.2.bufSt s).sum) ∧
        (∀ s, pending.contains s = x.lc.dlPendingBytesPerSlice.contains s) ∧
        DlFrame ue.ueIndex x.slices slices) DlSafe := by
  induction es generalizing x total with
  | nil => exact ⟨_, _, rfl, h, fun _ => rfl, DlFrame.refl _ _⟩
  | cons e es ih =>
    have hsum : ∀ s, total s + ((e :: es).map fun e => countedBytes ue e.2.active e.2.sliceId e.2.bufSt s).sum =
        total s + countedBytes ue e.2.active e.2.sliceId e.2.bufSt s +
          (es.map fun e => countedBytes ue e.2.active e.2.sliceId e.2.bufSt s).sum := by
      intro s
      rw [List.map_cons, List.sum_cons, Nat.add_assoc]
    simp only [hsum] at hbound ⊢
    rw [List.foldlM_cons]
    refine yields_bind (onSingleChannelBufStUpdate_spec total
      (fun s => total s + countedBytes ue e.2.active e.2.sliceId e.2.bufSt s) h
      (hslice e List.mem_cons_self) (fun s => ?_) fun s => ?_) ?_
    · rw [countedBytes_zero]
      omega
    · have := hbound s
      omega
    · rintro x₁ ⟨pending, slices, rfl, hmatch, hcont, hframe⟩
      refine (ih hmatch (fun e' he' s hs => ?_) hbound).post ?_
      · exact (hcont s).trans (hslice e' (List.mem_cons_of_mem e he') s hs)
      · rintro x' ⟨pending', slices', rfl, hmatch', hcont', hframe'⟩
        exact ⟨pending', slices', rfl, hmatch', fun s => (hcont' s).trans (hcont s), hframe.trans hframe'⟩

lemma exitFallback_kept (h : DlAccounted ue x) (hidx : ue'.ueIndex = ue.ueIndex) (hold : ue.fallbackState = true) :
    Yields (x.exitFallback ue') (DlKept ue' x) DlSafe := by
  have hzero : ∀ s, dlTotal ue x.lc.channels s = 0 := fun s => FlatMap.weight_eq_zero fun _ ch _ => by
    simp [countedBytes, hold]
  unfold LcScope.exitFallback
  have hstart : PendingMatches ue'.ueIndex x.lc.dlPendingBytesPerSlice x.slices fun _ => 0 := by
    have := h.pending
    rwa [← hidx, funext hzero] at this
  refine yields_bind (recountChannels_spec x.lc.channels.entries hstart (fun e he s hs => ?_) fun s => ?_) ?_
  · exact h.attached e.1 e.2 s (FlatMap.find?_eq_some_iff.mpr he) hs
  · have hle : (x.lc.channels.entries.map fun e => countedBytes ue' e.2.active e.2.sliceId e.2.bufSt s).sum ≤
        553648227 := dlTotal_le _ h.bufSt h.few s
    omega
  · rintro x₁ ⟨pending, slices, rfl, hmatch, hcont, hframe⟩
    have htotal : (fun s => 0 + (x.lc.channels.entries.map fun e =>
        countedBytes ue' e.2.active e.2.sliceId e.2.bufSt s).sum) = dlTotal ue' x.lc.channels := by
      funext s
      exact Nat.zero_add _
    rw [htotal] at hmatch
    refine yields_foldlM ⟨⟨fun lcid ch s hch hs => ?_, hmatch, h.bufSt, h.few, h.lcgSlice⟩, hframe⟩ ?_
    · exact (hcont s).trans (h.attached lcid ch s hch hs)
    · rintro x₂ e he hx₂
      rw [h.lcgSlice e.1 e.2 (FlatMap.find?_eq_some_iff.mpr he)]
      exact hx₂

lemma handleBsrIndication_kept (h : DlAccounted ue x) (msg : UlBsrIndicationMessage) :
    Yields (x.handleBsrIndication ue msg) (DlKept ue x) DlSafe := by
  unfold LcScope.handleBsrIndication
  refine yields_foldlM h.kept_refl fun x₁ report _ h₁ => ?_
  unfold LcScope.handleLcgReport
  split
  case h_1 => exact h₁
  case h_2 lcg hlcg =>
    refine yields_ite (fun _ => ?_) fun _ => h₁
    have hbuf := noLcgSlice_modify h₁.1.lcgSlice report.lcgId
      (f := fun c => { c with bufSt := min report.nofBytes maxBufferStatus }) fun _ => rfl
    have hkept := h₁.trans (hbuf.kept h₁.1)
    rw [h₁.1.lcgSlice _ lcg hlcg]
    refine yields_bind (Q := DlKept ue x) ?_ fun x₂ h₂ => h₂
    split
    case h_1 => exact hkept
    case h_2 rid _ =>
      refine yields_bind (yields_rowAt _ _) fun _ _ => ?_
      exact hkept.trans (hkept.1.kept_of_eq rfl rfl rfl hkept.1.lcgSlice)

lemma handleUlGrant_kept (h : DlAccounted ue x) (grantSize : Nat) :
    Yields (x.handleUlGrant grantSize) (DlKept ue x) DlSafe := by
  unfold LcScope.handleUlGrant
  refine yields_bind (Q := fun _ => True) (yields_foldlM trivial fun s e _ _ => ?_) fun s _ => ?_
  · unfold LcScope.attributeGrant
    refine yields_ite (fun _ => trivial) fun _ => ?_
    split
    case h_1 => trivial
    case h_2 rid _ =>
      refine yields_ite (fun _ => yields_bind (yields_rowAt _ _) fun _ _ => ?_) fun _ => trivial
      exact yields_ite (fun _ => trivial) fun _ => trivial
  · exact h.kept_of_eq rfl rfl rfl h.lcgSlice

end Activity

end OwlsRan.Sched
