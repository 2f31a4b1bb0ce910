import OwlsRan.Rlc.RxAmRun

/-!
# Control of t-Reassembly

Under which conditions `handle_data_pdu` stops t-Reassembly, and whether it is running afterwards.
-/

namespace OwlsRan.Rlc
open OwlsRan.Lib OwlsRan.Adt

def HasGap (set : List RlcRxAmSduSegment) : Prop :=
  ∃ before segm behind, set = before ++ segm :: behind ∧ segm.so.toNat ≠ (before.map fun b => b.payload.length).sum

/-- Whether a PDU completes an SDU of which `old` is known. -/
def completesSdu (old : Option RlcRxAmSduInfo) (header : RlcAmPduHeader) (payload : List UInt8) : Bool :=
  header.si = .fullSdu ||
    (segmentInventory 0
      (segmentSet (storeSegment (old.getD .default) ⟨header.si, header.so, payload⟩).2.sduData)).2

namespace RlcRxAmEntity

/-- `handle_data_pdu` up to the check of t-Reassembly: none if it returns before. -/
def placeDataPdu (cfg : RlcRxAmConfig) (s : RlcRxAmEntity) (header : RlcAmPduHeader) (payload : List UInt8) :
    Except RlcAbort (Option (RlcRxAmEntity × Option (List UInt8) × Bool)) :=
  if !s.insideRxWindow cfg header.sn then .ok none
  else if s.fullyReceivedSn header.sn then .ok none
  else do
    let (w, statusChanged) ← placePdu s.rxWindow header payload
    let s := updateRxNextHighest cfg { s with rxWindow := w } header.sn
    let (s, sdu) ← deliverSdu cfg s header.sn
    .ok (some (s, sdu, statusChanged))

def stopsTimer (cfg : RlcRxAmConfig) (s : RlcRxAmEntity) (buf : List UInt8) : Except RlcAbort Bool :=
  match rlcAmReadDataPduHeader buf cfg.snFieldLength with
  | .error _ => .ok false
  | .ok header =>
    if buf.length ≤ header.getPackedSize then .ok false
    else do
      match ← placeDataPdu cfg s header (buf.drop header.getPackedSize) with
      | none => .ok false
      | some (s, _, _) => if s.reassemblyTimerRunning then stopsReassemblyTimer cfg s else .ok false

lemma receivePdu_eq (cfg : RlcRxAmConfig) (s : RlcRxAmEntity) (header : RlcAmPduHeader) (payload : List UInt8) :
    receivePdu cfg s header payload = (placeDataPdu cfg s header payload).bind fun
      | none => .ok (s, none, false)
      | some (s₁, sdu, statusChanged) => (updateReassemblyTimer cfg s₁).map fun s' => (s', sdu, statusChanged) := by
  unfold receivePdu placeDataPdu
  by_cases hin : (!s.insideRxWindow cfg header.sn) = true
  · rw [if_pos hin, if_pos hin]
    rfl
  rw [if_neg hin, if_neg hin]
  by_cases hfull : s.fullyReceivedSn header.sn = true
  · rw [if_pos hfull, if_pos hfull]
    rfl
  rw [if_neg hfull, if_neg hfull]
  generalize placePdu s.rxWindow header payload = placed
  cases placed with
  | error a => rfl
  | ok res =>
    obtain ⟨w, statusChanged⟩ := res
    have hok : ∀ {α β : Type} (a : α) (f : α → Except RlcAbort β), (Except.ok a >>= f) = f a := fun _ _ => rfl
    have hbind : ∀ {α β : Type} (a : α) (f : α → Except RlcAbort β), (Except.ok a).bind f = f a := fun _ _ => rfl
    rw [hok, hok]
    dsimp only
    generalize deliverSdu cfg (updateRxNextHighest cfg { s with rxWindow := w } header.sn) header.sn = delivered
    cases delivered with
    | error a => rfl
    | ok res =>
      rw [hok, hok, hbind]
      dsimp only
      generalize updateReassemblyTimer cfg res.1 = updated
      cases updated <;> rfl

def GapAt (s : RlcRxAmEntity) (sn : Nat) : Prop :=
  ∃ info set, s.rxWindow.find? sn = some info ∧ info.sduData = .segments set ∧ HasGap set

def QuotedStop (cfg : RlcRxAmConfig) (s : RlcRxAmEntity) (trigger : Nat) : Prop :=
  trigger = s.st.rxNext ∨ (trigger = (s.st.rxNext + 1) % cfg.mod ∧ ¬ s.GapAt s.st.rxNext) ∨
    (s.insideRxWindow cfg trigger = false ∧ trigger ≠ (s.st.rxNext + cfg.amWindowSize) % cfg.mod)

def NeedsTimer (cfg : RlcRxAmConfig) (s : RlcRxAmEntity) : Prop :=
  1 < s.rxModBase cfg s.st.rxNextHighest ∨ s.GapAt s.st.rxNext

/-- t-Reassembly after a data PDU that led from `s` to `s'`. -/
structure TimerControlled (cfg : RlcRxAmConfig) (s : RlcRxAmEntity) (buf : List UInt8) (s' : RlcRxAmEntity) : Prop where
  stopped : s.stopsTimer cfg buf = .ok true ↔
    s.reassemblyTimerRunning = true ∧ QuotedStop cfg s' s.st.rxNextStatusTrigger
  running : NeedsTimer cfg s' → s'.reassemblyTimerRunning = true

def Places (cfg : RlcRxAmConfig) (s : RlcRxAmEntity) (buf : List UInt8) (header : RlcAmPduHeader) : Prop :=
  rlcAmReadDataPduHeader buf cfg.snFieldLength = .ok header ∧ header.getPackedSize < buf.length ∧
    s.insideRxWindow cfg header.sn = true ∧ s.fullyReceivedSn header.sn = false

/-- A PDU that is placed while t-Reassembly is running with a trigger at the upper edge of the window completes the SDU
of `rx_next`; a PDU that is not placed finds t-Reassembly running where it is needed. -/
def TimerCondition (cfg : RlcRxAmConfig) (s : RlcRxAmEntity) (buf : List UInt8) : Prop :=
  (∀ header, s.Places cfg buf header → s.reassemblyTimerRunning = true →
    s.st.rxNextStatusTrigger = (s.st.rxNext + cfg.amWindowSize) % cfg.mod →
      header.sn = s.st.rxNext ∧
        completesSdu (s.rxWindow.find? header.sn) header (buf.drop header.getPackedSize) = true) ∧
  ((∀ header, ¬ s.Places cfg buf header) → NeedsTimer cfg s → s.reassemblyTimerRunning = true)

/-- What the inventory says of the SDUs that are not fully received is what is stored of them. -/
def Inventoried (s : RlcRxAmEntity) : Prop :=
  ∀ sn info, s.rxWindow.find? sn = some info → info.fullyReceived = false →
    ∃ set, info.sduData = .segments set ∧ segmentInventory 0 set = (info.hasGap, false)

section Inventory

variable {cfg : RlcRxAmConfig} {s s' : RlcRxAmEntity} {sn : Nat} {header : RlcAmPduHeader} {payload : List UInt8}
  {info : RlcRxAmSduInfo}

lemma segmentInventory_gap {set : List RlcRxAmSduSegment} (nextByte : Nat)
    (h : (segmentInventory nextByte set).2 = false) :
    (segmentInventory nextByte set).1 = true ↔ ∃ before segm behind, set = before ++ segm :: behind ∧
      segm.so.toNat ≠ nextByte + (before.map fun b => b.payload.length).sum := by
  induction set generalizing nextByte with
  | nil =>
    constructor
    · intro hgap
      cases hgap
    · rintro ⟨before, segm, behind, hsplit, -⟩
      cases before <;> cases hsplit
  | cons segm rest ih =>
    unfold segmentInventory at h ⊢
    by_cases hso : segm.so.toNat ≠ nextByte
    · rw [if_pos hso]
      exact ⟨fun _ => ⟨[], segm, rest, rfl, hso⟩, fun _ => rfl⟩
    rw [if_neg hso] at h ⊢
    by_cases hlast : segm.si = .lastSegment
    · rw [if_pos hlast] at h
      cases h
    rw [if_neg hlast] at h ⊢
    rw [ih _ h]
    constructor
    · rintro ⟨before, x, behind, rfl, hx⟩
      refine ⟨segm :: before, x, behind, rfl, ?_⟩
      rw [List.map_cons, List.sum_cons]
      omega
    · rintro ⟨before, x, behind, hsplit, hx⟩
      cases before with
      | nil =>
        cases hsplit
        exact absurd hx hso
      | cons b before =>
        cases hsplit
        rw [List.map_cons, List.sum_cons] at hx
        exact ⟨before, x, behind, rfl, by omega⟩

lemma Inventoried.hasGap_iff (h : s.Inventoried) (hinfo : s.rxWindow.find? sn = some info)
    (hmissing : s.fullyReceivedSn sn = false) : info.hasGap = true ↔ s.GapAt sn := by
  have hfull : info.fullyReceived = false := by
    unfold fullyReceivedSn at hmissing
    rwa [hinfo] at hmissing
  obtain ⟨set, hset, hinventory⟩ := h sn info hinfo hfull
  have hgap := segmentInventory_gap 0 (congrArg Prod.snd hinventory)
  rw [hinventory] at hgap
  simp only [Nat.zero_add] at hgap
  rw [hgap]
  constructor
  · exact fun hsplit => ⟨info, set, hinfo, hset, hsplit⟩
  · rintro ⟨info', set', hinfo', hset', hsplit⟩
    cases hinfo.symm.trans hinfo'
    cases hset.symm.trans hset'
    exact hsplit

lemma Stored.inventory {old : Option RlcRxAmSduInfo} (h : Stored old header payload info) :
    info.fullyReceived = completesSdu old header payload ∧ (info.fullyReceived = false →
      ∃ set, info.sduData = .segments set ∧ segmentInventory 0 set = (info.hasGap, false)) := by
  unfold completesSdu
  cases h with
  | full hsi =>
    refine ⟨?_, fun hfull => nomatch hfull⟩
    rw [decide_eq_true hsi]
    rfl
  | segment hsi _ h =>
    obtain ⟨set, hset⟩ := storeSegment_segments (old.getD .default) ⟨header.si, header.so, payload⟩
    rw [updateSegmentInventory_segments hset] at h
    obtain rfl := Except.ok.inj h
    refine ⟨?_, fun hfull => ⟨set, hset, Prod.ext rfl hfull⟩⟩
    rw [decide_eq_false hsi, hset, Bool.false_or]
    rfl

lemma Inventoried.congr (h : s.Inventoried) (hw : s'.rxWindow = s.rxWindow) : s'.Inventoried := by
  intro sn info hinfo
  rw [hw] at hinfo
  exact h sn info hinfo

lemma Inventoried.written {w : SduWindow RlcRxAmSduInfo} {old : Option RlcRxAmSduInfo} (h : s.Inventoried)
    (hstored : Stored old header payload info) (hw : Written s.rxWindow w header.sn info) (hs' : s'.rxWindow = w) :
    s'.Inventoried := by
  intro sn v hv hfull
  rw [hs', hw.find?] at hv
  split at hv
  · cases hv
    exact hstored.inventory.2 hfull
  · exact h sn v hv hfull

lemma Inventoried.delivery {sdu : Option (List UInt8)} (h : s.Inventoried) (hdelivery : Delivery cfg s sn s' sdu) :
    s'.Inventoried := by
  cases hdelivery with
  | kept => exact h
  | passed info r d hinfo hfull hw hadvanced =>
    intro j v hv hmissing
    have hold := ((hadvanced.find? j v).mp hv).1
    change (_ : SduWindow RlcRxAmSduInfo).find? j = some v at hold
    rw [hw.find?] at hold
    split at hold
    · cases hold
      rw [hfull] at hmissing
      cases hmissing
    · exact h j v hold hmissing

end Inventory

section Control

variable {cfg : RlcRxAmConfig} {s s₁ s' : RlcRxAmEntity} {header : RlcAmPduHeader} {payload : List UInt8} {x k : Nat}

lemma eq_add_iff (hx : x < cfg.mod) (hk : k < cfg.mod) : x = (s.st.rxNext + k) % cfg.mod ↔ s.dist cfg x = k := by
  have hdist : s.dist cfg ((s.st.rxNext + k) % cfg.mod) = k := by
    unfold dist
    rw [snDist_mod_right]
    exact snDist_add hk
  constructor
  · rintro rfl
    exact hdist
  · intro h
    exact dist_inj hx (Nat.mod_lt _ cfg.mod_pos) (h.trans hdist.symm)

lemma insideRxWindow_iff (hnext : s.st.rxNext < cfg.mod) :
    s.insideRxWindow cfg x = true ↔ s.dist cfg x < cfg.amWindowSize := by
  unfold insideRxWindow
  rw [rxModBase_eq hnext, decide_eq_true_iff]

lemma stopsReassemblyTimer_iff (h : s.RxSettled cfg) (hi : s.Inventoried) (hrun : s.reassemblyTimerRunning = true) :
    ∃ stop, stopsReassemblyTimer cfg s = .ok stop ∧ (stop = true ↔ s.st.rxNextStatusTrigger = s.st.rxNext ∨
      (s.st.rxNextStatusTrigger = (s.st.rxNext + 1) % cfg.mod ∧ ¬ s.GapAt s.st.rxNext) ∨
        s.insideRxWindow cfg s.st.rxNextStatusTrigger = false) := by
  have hW := cfg.one_lt_amWindowSize
  have hmod := cfg.mod_eq
  have hone := eq_add_iff (s := s) (k := 1) h.trigger_lt (by omega)
  unfold stopsReassemblyTimer
  rw [rxModBase_eq h.rxNext_lt, rxModBase_eq h.rxNext_lt, dist_one]
  by_cases hnext : s.dist cfg s.st.rxNextStatusTrigger = 1
  case neg =>
    refine ⟨_, by rw [if_neg hnext]; rfl, ?_⟩
    rw [hone]
    simp [hnext]
  case pos =>
    obtain hzero | hlarge | ⟨-, -, j, v, hjv, hj⟩ := h.trigger hrun
    · omega
    · omega
    have hat : j = s.st.rxNext := dist_eq_zero (h.window.inWindow j v hjv).1 h.rxNext_lt (by omega)
    rw [hat] at hjv
    have hgap := hi.hasGap_iff hjv h.rxNext_missing
    have hread : SduWindow.atSn s.rxWindow s.st.rxNext = .ok v := by
      unfold SduWindow.atSn
      rw [hjv]
    refine ⟨_, by rw [if_pos hnext, hread]; rfl, ?_⟩
    rw [hone, ← hgap]
    simp [hnext, or_assoc]

lemma startsReassemblyTimer_iff (h : s.RxSettled cfg) (hi : s.Inventoried) :
    s.startsReassemblyTimer cfg s.st.rxNext = true ↔ NeedsTimer cfg s := by
  have hone : s.rxModBase cfg (s.st.rxNext + 1) = 1 := by rw [rxModBase_eq h.rxNext_lt, dist_one]
  have hgapAt : s.hasGapAt s.st.rxNext = true ↔ s.GapAt s.st.rxNext := by
    unfold hasGapAt
    cases hinfo : s.rxWindow.find? s.st.rxNext with
    | none =>
      refine ⟨fun hgap => (nomatch hgap), ?_⟩
      rintro ⟨info, set, hinfo', -⟩
      cases hinfo.symm.trans hinfo'
    | some info => exact hi.hasGap_iff hinfo h.rxNext_missing
  have hpos : s.GapAt s.st.rxNext → 1 ≤ s.rxModBase cfg s.st.rxNextHighest := by
    rintro ⟨info, set, hinfo, -⟩
    have hlt := (h.window.inWindow _ info hinfo).2
    rw [rxModBase_eq h.rxNext_lt]
    omega
  unfold startsReassemblyTimer NeedsTimer
  rw [hone, Bool.or_eq_true, Bool.and_eq_true, decide_eq_true_iff, decide_eq_true_iff, hgapAt]
  constructor
  · rintro (hlt | ⟨-, hgap⟩)
    · exact Or.inl hlt
    · exact Or.inr hgap
  · rintro (hlt | hgap)
    · exact Or.inl hlt
    · have := hpos hgap
      by_cases hlt : 1 < s.rxModBase cfg s.st.rxNextHighest
      · exact Or.inl hlt
      · exact Or.inr ⟨by omega, hgap⟩

def Quiet (cfg : RlcRxAmConfig) (s : RlcRxAmEntity) : Prop :=
  s.reassemblyTimerRunning = true → ¬ QuotedStop cfg s s.st.rxNextStatusTrigger

lemma quotedStop_iff (hx : x < cfg.mod) : QuotedStop cfg s x ↔
    (x = s.st.rxNext ∨ (x = (s.st.rxNext + 1) % cfg.mod ∧ ¬ s.GapAt s.st.rxNext) ∨ s.insideRxWindow cfg x = false) ∧
      s.dist cfg x ≠ cfg.amWindowSize := by
  have hW := cfg.one_lt_amWindowSize
  have hmod := cfg.mod_eq
  have hone := eq_add_iff (s := s) (k := 1) hx (by omega)
  have hedge := eq_add_iff (s := s) (k := cfg.amWindowSize) hx (by omega)
  have hzero : x = s.st.rxNext → s.dist cfg x = 0 := by
    rintro rfl
    exact dist_rxNext
  unfold QuotedStop
  rw [Ne, hedge, hone]
  constructor
  · rintro (heq | ⟨heq, hgap⟩ | ⟨hout, hne⟩)
    · exact ⟨Or.inl heq, by have := hzero heq; omega⟩
    · exact ⟨Or.inr (Or.inl ⟨heq, hgap⟩), by omega⟩
    · exact ⟨Or.inr (Or.inr hout), hne⟩
  · rintro ⟨heq | ⟨heq, hgap⟩ | hout, hne⟩
    · exact Or.inl heq
    · exact Or.inr (Or.inl ⟨heq, hgap⟩)
    · exact Or.inr (Or.inr ⟨hout, hne⟩)

lemma TimerSet.congr (cfg : RlcRxAmConfig) (h : TimerSet s₁ s') : s'.rxWindow = s₁.rxWindow ∧ s'.st.rxNext = s₁.st.rxNext ∧
    (∀ x, QuotedStop cfg s' x ↔ QuotedStop cfg s₁ x) ∧ (NeedsTimer cfg s' ↔ NeedsTimer cfg s₁) := by
  obtain ⟨b, t, rfl⟩ := h
  exact ⟨rfl, rfl, fun _ => Iff.rfl, Iff.rfl⟩

lemma not_quotedStop_of_needed (h : s.RxBase cfg) (hneeded : NeedsTimer cfg s) :
    ¬ QuotedStop cfg s s.st.rxNextHighest := by
  have hW := h.nextHighest_le
  have hmod := cfg.mod_eq
  have hWpos := cfg.one_lt_amWindowSize
  have hone := eq_add_iff (s := s) (k := 1) h.nextHighest_lt (by omega)
  have hpos : 1 ≤ s.dist cfg s.st.rxNextHighest := by
    rcases hneeded with hlt | ⟨info, set, hinfo, -⟩
    · rw [rxModBase_eq h.rxNext_lt] at hlt
      omega
    · have := (h.window.inWindow _ info hinfo).2
      omega
  unfold NeedsTimer at hneeded
  rw [rxModBase_eq h.rxNext_lt] at hneeded
  rw [quotedStop_iff h.nextHighest_lt, hone]
  rintro ⟨heq | ⟨heq, hgap⟩ | hout, hne⟩
  · rw [heq, dist_rxNext] at hpos
    omega
  · rcases hneeded with hlt | hgap'
    · omega
    · exact hgap hgap'
  · have hin : s.insideRxWindow cfg s.st.rxNextHighest = true := (insideRxWindow_iff h.rxNext_lt).mpr (by omega)
    rw [hin] at hout
    cases hout

lemma restartReassemblyTimer_control (h : s.RxSettled cfg) (hi : s.Inventoried) {b : Bool}
    (hb : b = true → ¬ QuotedStop cfg s s.st.rxNextStatusTrigger) :
    Yields (restartReassemblyTimer cfg { s with reassemblyTimerRunning := b })
      (fun s' => (NeedsTimer cfg s' → s'.reassemblyTimerRunning = true) ∧ Quiet cfg s') rxAborts := by
  have hstarts := startsReassemblyTimer_iff h hi
  unfold restartReassemblyTimer
  apply yields_ite
  · intro hstart
    have hahead := not_quotedStop_of_needed h.toRxBase (hstarts.mp (Bool.and_eq_true .. ▸ hstart).2)
    unfold runReassemblyTimer
    apply yields_ite
    · exact fun _ => Or.inr rfl
    · exact fun _ => ⟨fun _ => rfl, fun _ => hahead⟩
  · intro hstay
    refine ⟨fun hneeded => ?_, hb⟩
    have hstart : s.startsReassemblyTimer cfg s.st.rxNext = true := hstarts.mpr hneeded
    cases b with
    | true => rfl
    | false => exact absurd (Bool.and_eq_true_iff.mpr ⟨rfl, hstart⟩) hstay

lemma updateReassemblyTimer_control (h : s.RxSettled cfg) (hi : s.Inventoried) :
    Yields (updateReassemblyTimer cfg s)
      (fun s' => (NeedsTimer cfg s' → s'.reassemblyTimerRunning = true) ∧ Quiet cfg s') rxAborts := by
  unfold updateReassemblyTimer
  apply yields_ite
  · intro hrun
    obtain ⟨stop, hstop, hiff⟩ := stopsReassemblyTimer_iff h hi hrun
    rw [hstop]
    apply restartReassemblyTimer_control h hi
    intro hgo hquoted
    rw [quotedStop_iff h.trigger_lt, ← hiff] at hquoted
    rw [hquoted.1] at hgo
    cases hgo
  · intro hrun
    have hstill : s = { s with reassemblyTimerRunning := false } := by
      rw [Bool.not_eq_true] at hrun
      rw [← hrun]
    rw [hstill]
    exact restartReassemblyTimer_control h hi fun hb => nomatch hb

/-- The state in which t-Reassembly is checked. -/
structure AtTimer (cfg : RlcRxAmConfig) (s : RlcRxAmEntity) (header : RlcAmPduHeader) (payload : List UInt8)
    (s₁ : RlcRxAmEntity) : Prop where
  settled : s₁.RxSettled cfg
  inventory : s₁.Inventoried
  running : s₁.reassemblyTimerRunning = s.reassemblyTimerRunning
  trigger : s₁.st.rxNextStatusTrigger = s.st.rxNextStatusTrigger
  /-- The trigger is at the upper edge of the window if it was and `rx_next` stays. -/
  edge : s.reassemblyTimerRunning = true → (s₁.dist cfg s.st.rxNextStatusTrigger = cfg.amWindowSize ↔
    s.dist cfg s.st.rxNextStatusTrigger = cfg.amWindowSize ∧
      ¬ (header.sn = s.st.rxNext ∧ completesSdu (s.rxWindow.find? header.sn) header payload = true))

lemma Delivery.edge {w : SduWindow RlcRxAmSduInfo} {info : RlcRxAmSduInfo} {sdu : Option (List UInt8)} (h : s.RxInv cfg)
    (hin : s.dist cfg header.sn < cfg.amWindowSize)
    (hstored : Stored (s.rxWindow.find? header.sn) header payload info) (hw : Written s.rxWindow w header.sn info)
    (hplaced : (updateRxNextHighest cfg { s with rxWindow := w } header.sn).RxPlaced cfg header.sn)
    (hdelivery : Delivery cfg (updateRxNextHighest cfg { s with rxWindow := w } header.sn) header.sn s₁ sdu)
    (hrun : s.reassemblyTimerRunning = true) :
    s₁.dist cfg s.st.rxNextStatusTrigger = cfg.amWindowSize ↔ s.dist cfg s.st.rxNextStatusTrigger = cfg.amWindowSize ∧
      ¬ (header.sn = s.st.rxNext ∧ completesSdu (s.rxWindow.find? header.sn) header payload = true) := by
  have hmod := cfg.mod_eq
  have hWpos := cfg.amWindowSize_pos
  obtain ⟨hpos, hle, -⟩ := h.trigger hrun
  have hhighest := h.nextHighest_le
  obtain ⟨x, hx, hdist, heq⟩ := updateRxNextHighest_spec (w := w) h.toRxBase hin
  rw [heq] at hplaced hdelivery
  have hself : w.find? header.sn = some info := (hw.find? header.sn).trans (if_pos rfl)
  rw [← hstored.inventory.1]
  cases hdelivery with
  | kept hmissing =>
    unfold fullyReceivedSn at hmissing
    dsimp only at hmissing
    rw [hself] at hmissing
    dsimp only at hmissing
    rw [hmissing]
    exact ⟨fun hedge => ⟨hedge, fun hnext => nomatch hnext.2⟩, fun hedge => hedge.1⟩
  | passed info' r d hinfo hfull hcleared hadvanced =>
    cases hself.symm.trans hinfo
    rw [hfull]
    have hd : d ≤ cfg.amWindowSize := hadvanced.le.trans hplaced.nextHighest_le
    -- nothing is passed unless the SDU of `rx_next` is complete
    have hmoves : header.sn = s.st.rxNext ↔ 0 < d := by
      constructor
      · intro hnext
        by_contra hzero
        obtain rfl : d = 0 := by omega
        have hmissing := hadvanced.missing
        have hstays := hadvanced.rxNext
        rw [Nat.add_zero] at hstays
        have hfound : s₁.rxWindow.find? s₁.st.rxNext = some { info with sduData := .payload [] } := by
          rw [hadvanced.find?, hstays]
          refine ⟨?_, Nat.zero_le _⟩
          change (_ : SduWindow RlcRxAmSduInfo).find? (s.st.rxNext % cfg.mod) = _
          rw [Nat.mod_eq_of_lt h.rxNext_lt, hcleared.find?, if_pos hnext.symm]
        rw [fullyReceivedSn_iff.mpr ⟨_, hfound, hfull⟩] at hmissing
        cases hmissing
      · intro hpassed
        have hreceived := hadvanced.received s.st.rxNext h.rxNext_lt (dist_rxNext.trans_lt hpassed)
        by_contra hne
        obtain ⟨v, hv, hvFull⟩ := fullyReceivedSn_iff.mp hreceived
        change (_ : SduWindow RlcRxAmSduInfo).find? s.st.rxNext = _ at hv
        rw [hcleared.find?, if_neg (Ne.symm hne)] at hv
        change w.find? s.st.rxNext = _ at hv
        rw [hw.find?, if_neg (Ne.symm hne)] at hv
        have hmissing := h.rxNext_missing
        rw [fullyReceivedSn_iff.mpr ⟨v, hv, hvFull⟩] at hmissing
        cases hmissing
    rw [hmoves]
    have hrebased : s₁.dist cfg s.st.rxNextStatusTrigger = if d ≤ s.dist cfg s.st.rxNextStatusTrigger then
        s.dist cfg s.st.rxNextStatusTrigger - d else s.dist cfg s.st.rxNextStatusTrigger + cfg.mod - d := by
      have hnext := hadvanced.rxNext
      unfold dist
      rw [hnext, snDist_mod_left]
      split
      case isTrue hle => exact snDist_rebase cfg.mod_pos hle
      case isFalse hlt => exact snDist_rebase_of_lt cfg.mod_pos (Nat.not_le.mp hlt) (by omega)
    rw [hrebased]
    simp only [and_true]
    split <;> omega

lemma placeDataPdu_spec (h : s.RxInv cfg) (hi : s.Inventoried) (hsn : header.sn < cfg.mod) :
    Yields (placeDataPdu cfg s header payload) (fun res =>
      (res = none ∧ ¬ (s.insideRxWindow cfg header.sn = true ∧ s.fullyReceivedSn header.sn = false)) ∨
        ∃ s₁ sdu changed, res = some (s₁, sdu, changed) ∧ s.insideRxWindow cfg header.sn = true ∧
          s.fullyReceivedSn header.sn = false ∧ AtTimer cfg s header payload s₁) rxAborts := by
  unfold placeDataPdu
  apply yields_ite
  · intro hout
    refine Or.inl ⟨rfl, fun hboth => ?_⟩
    rw [hboth.1] at hout
    cases hout
  intro hin
  have hinside : s.insideRxWindow cfg header.sn = true := by simpa using hin
  have hdist := (insideRxWindow_iff h.rxNext_lt).mp hinside
  apply yields_ite
  · intro hfull
    refine Or.inl ⟨rfl, fun hboth => ?_⟩
    rw [hboth.2] at hfull
    cases hfull
  intro hmissing
  apply yields_bind (place_spec h.toRxBase hsn hdist)
  rintro ⟨w, changed⟩ ⟨info, hstored, hw⟩
  have hplaced := placed_spec h hsn hdist hstored hw
  apply yields_bind (deliverSdu_spec hplaced)
  rintro ⟨s₁, sdu⟩ ⟨hsettled, hdelivery⟩
  refine Or.inr ⟨s₁, sdu, changed, rfl, hinside, Bool.not_eq_true _ ▸ hmissing, ?_⟩
  have hsame := updateRxNextHighest_spec (w := w) h.toRxBase hdist
  have hinventory : (updateRxNextHighest cfg { s with rxWindow := w } header.sn).Inventoried := by
    obtain ⟨x, -, -, heq⟩ := hsame
    rw [heq]
    exact hi.written hstored hw rfl
  have hkept : s₁.reassemblyTimerRunning = s.reassemblyTimerRunning ∧
      s₁.st.rxNextStatusTrigger = s.st.rxNextStatusTrigger := by
    obtain ⟨x, -, -, heq⟩ := hsame
    rw [heq] at hdelivery
    cases hdelivery with
    | kept => exact ⟨rfl, rfl⟩
    | passed info' r d hinfo hfull hcleared hadvanced =>
      obtain ⟨w', x', rfl⟩ := hadvanced.others
      exact ⟨rfl, rfl⟩
  exact ⟨hsettled, hinventory.delivery hdelivery, hkept.1, hkept.2,
    Delivery.edge h hdist hstored hw hplaced hdelivery⟩

lemma ReportSet.congr (cfg : RlcRxAmConfig) (h : ReportSet s₁ s') : s'.rxWindow = s₁.rxWindow ∧
    s'.reassemblyTimerRunning = s₁.reassemblyTimerRunning ∧
    (∀ x, QuotedStop cfg s' x ↔ QuotedStop cfg s₁ x) ∧ (NeedsTimer cfg s' ↔ NeedsTimer cfg s₁) ∧
    (Quiet cfg s₁ → Quiet cfg s') := by
  obtain ⟨p, q, b, rfl⟩ := h
  exact ⟨rfl, rfl, fun _ => Iff.rfl, Iff.rfl, fun hquiet => hquiet⟩

lemma refreshStatusReport_set : Yields (s.refreshStatusReport cfg) (ReportSet s) fun _ => True := by
  unfold refreshStatusReport
  exact yields_bind (yields_true _) fun _ _ => ⟨_, _, _, rfl⟩

lemma report_spec {sdu : Option (List UInt8)} {res : RlcRxAmEntity × Option (List UInt8)} {changed p : Bool}
    {k : RlcRxAmEntity → Except RlcAbort (RlcRxAmEntity × Option (List UInt8))}
    (hk : ∀ s, k s = .ok ({ s with doStatus := s.doStatus || p }, sdu))
    (hres : (if changed || p then s₁.refreshStatusReport cfg >>= k else Except.ok s₁ >>= k) = Except.ok res) :
    ReportSet s₁ res.1 := by
  split at hres
  · obtain ⟨s₂, hs₂, hok⟩ := bind_eq_ok.mp hres
    obtain ⟨_, _, _, rfl⟩ := refreshStatusReport_set.of_ok hs₂
    rw [hk] at hok
    obtain rfl := Except.ok.inj hok
    exact ⟨_, _, _, rfl⟩
  · obtain ⟨s₂, hs₂, hok⟩ := bind_eq_ok.mp hres
    obtain rfl := Except.ok.inj hs₂
    rw [hk] at hok
    obtain rfl := Except.ok.inj hok
    exact ⟨_, _, _, rfl⟩

lemma notPlaced_control {buf : List UInt8} (hquiet : Quiet cfg s) (hstops : s.stopsTimer cfg buf = .ok false)
    (hplaces : ∀ header, ¬ s.Places cfg buf header) (hreport : ReportSet s s') :
    Quiet cfg s' ∧ (TimerControlled cfg s buf s' ↔ TimerCondition cfg s buf) := by
  obtain ⟨-, hrun, hquoted, hneeds, hstays⟩ := hreport.congr cfg
  refine ⟨hstays hquiet, fun hcontrolled => ⟨fun header hheader => absurd hheader (hplaces header), ?_⟩,
    fun hcondition => ⟨?_, ?_⟩⟩
  · intro _ hneeded
    rw [← hrun]
    exact hcontrolled.running (hneeds.mpr hneeded)
  · rw [hstops, hquoted]
    exact ⟨fun hstop => (nomatch hstop), fun hboth => absurd hboth.2 (hquiet hboth.1)⟩
  · intro hneeded
    rw [hrun]
    exact hcondition.2 hplaces (hneeds.mp hneeded)

lemma AtTimer.control {buf : List UInt8} {s₂ : RlcRxAmEntity} (h : s.RxInv cfg)
    (hplaces : s.Places cfg buf header) (hat : AtTimer cfg s header (buf.drop header.getPackedSize) s₁)
    (hstops : s.stopsTimer cfg buf = if s₁.reassemblyTimerRunning then stopsReassemblyTimer cfg s₁ else .ok false)
    (hupdated : updateReassemblyTimer cfg s₁ = .ok s₂) (hreport : ReportSet s₂ s') :
    Quiet cfg s' ∧ (TimerControlled cfg s buf s' ↔ TimerCondition cfg s buf) := by
  have hmod := cfg.mod_eq
  have hWpos := cfg.amWindowSize_pos
  obtain ⟨hneeded, hquiet⟩ := (updateReassemblyTimer_control hat.settled hat.inventory).of_ok hupdated
  obtain ⟨-, -, hquoted₂, hneeds₂⟩ := ((updateReassemblyTimer_spec hat.settled).of_ok hupdated).2.congr cfg
  obtain ⟨-, hrun, hquoted, hneeds, hstays⟩ := hreport.congr cfg
  have htrigger := hat.trigger
  have hedge := eq_add_iff (s := s) (k := cfg.amWindowSize) h.trigger_lt (by omega)
  -- what is stopped is what is quoted, unless the trigger is at the edge of the window
  have hstopped : (s.stopsTimer cfg buf = .ok true ↔ s.reassemblyTimerRunning = true ∧
      QuotedStop cfg s' s.st.rxNextStatusTrigger) ↔
        (s.reassemblyTimerRunning = true → s₁.dist cfg s.st.rxNextStatusTrigger ≠ cfg.amWindowSize) := by
    rw [hquoted, hquoted₂, hstops, ← hat.running]
    cases hrunning : s₁.reassemblyTimerRunning with
    | false => simp
    | true =>
      obtain ⟨stop, hstop, hiff⟩ := stopsReassemblyTimer_iff hat.settled hat.inventory hrunning
      have hcode := quotedStop_iff (s := s₁) hat.settled.trigger_lt
      rw [← hiff, htrigger] at hcode
      rw [if_pos rfl, hstop, hcode]
      constructor
      · intro hsame _ hat'
        have hout : s₁.insideRxWindow cfg s₁.st.rxNextStatusTrigger = false := by
          rw [← Bool.not_eq_true, insideRxWindow_iff hat.settled.rxNext_lt, htrigger]
          omega
        exact (hsame.mp (congrArg Except.ok (hiff.mpr (Or.inr (Or.inr hout))))).2.2 hat'
      · intro hne
        constructor
        · exact fun htrue => ⟨rfl, Except.ok.inj htrue, hne rfl⟩
        · exact fun hboth => congrArg Except.ok hboth.2.1
  refine ⟨hstays hquiet, fun hcontrolled => ⟨?_, fun hnone => absurd hplaces (hnone header)⟩,
    fun hcondition => ⟨?_, ?_⟩⟩
  · intro header' hplaces' hrunning htriggerEdge
    cases hplaces.1.symm.trans hplaces'.1
    by_contra hnot
    exact hstopped.mp hcontrolled.stopped hrunning ((hat.edge hrunning).mpr ⟨hedge.mp htriggerEdge, hnot⟩)
  · rw [hstopped]
    intro hrunning hdist
    obtain ⟨hold, hnot⟩ := (hat.edge hrunning).mp hdist
    exact hnot (hcondition.1 header hplaces hrunning (hedge.mpr hold))
  · intro hneed
    rw [hrun]
    exact hneeded (hneeds.mp hneed)

lemma handleDataPdu_control {buf : List UInt8} {res : RlcRxAmEntity × Option (List UInt8)} (h : s.RxInv cfg)
    (hi : s.Inventoried) (hquiet : Quiet cfg s) (hres : s.handleDataPdu cfg buf = .ok res) :
    res.1.Inventoried ∧ Quiet cfg res.1 ∧ (TimerControlled cfg s buf res.1 ↔ TimerCondition cfg s buf) := by
  unfold handleDataPdu at hres
  cases hread : rlcAmReadDataPduHeader buf cfg.snFieldLength with
  | error e =>
    have hstops : s.stopsTimer cfg buf = .ok false := by
      unfold stopsTimer
      rw [hread]
    rw [hread] at hres
    obtain rfl := Except.ok.inj hres
    refine ⟨hi, notPlaced_control hquiet hstops ?_ ⟨_, _, _, rfl⟩⟩
    rintro header ⟨hheader, -⟩
    cases hread.symm.trans hheader
  | ok header =>
    rw [hread] at hres
    dsimp only at hres
    by_cases hshort : buf.length ≤ header.getPackedSize
    · have hstops : s.stopsTimer cfg buf = .ok false := by
        unfold stopsTimer
        rw [hread]
        exact if_pos hshort
      rw [if_pos hshort] at hres
      obtain rfl := Except.ok.inj hres
      refine ⟨hi, notPlaced_control hquiet hstops ?_ ⟨_, _, _, rfl⟩⟩
      rintro header' ⟨hheader, hlong, -⟩
      cases hread.symm.trans hheader
      exact absurd hshort (Nat.not_le.mpr hlong)
    rw [if_neg hshort] at hres
    obtain ⟨⟨s₂, sdu, changed⟩, hreceived, hreport⟩ := bind_eq_ok.mp hres
    have hset := report_spec (fun _ => rfl) hreport
    rw [receivePdu_eq] at hreceived
    obtain ⟨placed, hplaced, htimer⟩ := bind_eq_ok.mp hreceived
    have hstops : s.stopsTimer cfg buf = (Except.ok placed >>= fun placed =>
        match placed with
        | none => .ok false
        | some (s, _, _) => if s.reassemblyTimerRunning then stopsReassemblyTimer cfg s else .ok false) := by
      unfold stopsTimer
      rw [hread]
      dsimp only
      rw [if_neg hshort, hplaced]
    rcases (placeDataPdu_spec h hi (rlcAmReadDataPduHeader_sn_lt hread)).of_ok hplaced with
      ⟨rfl, hnot⟩ | ⟨s₁, sdu₁, changed₁, rfl, hin, hmissing, hat⟩
    · cases Except.ok.inj htimer
      refine ⟨hi.congr (hset.congr cfg).1, notPlaced_control hquiet hstops ?_ hset⟩
      rintro header' ⟨hheader, -, hplaces⟩
      cases hread.symm.trans hheader
      exact hnot hplaces
    · obtain ⟨s₃, hupdated, heq⟩ := map_eq_ok.mp htimer
      cases heq
      have hwindow := ((updateReassemblyTimer_spec hat.settled).of_ok hupdated).2.congr cfg
      refine ⟨hat.inventory.congr ((hset.congr cfg).1.trans hwindow.1), ?_⟩
      exact AtTimer.control h ⟨hread, Nat.not_le.mp hshort, hin, hmissing⟩ hat hstops hupdated hset

/-- Where t-Reassembly starts again when it expires, something is missing behind `rx_next`. -/
lemma reassemblyTimerExpires_quiet (h : s.RxInv cfg) (hquiet : Quiet cfg s) :
    Yields (reassemblyTimerExpires cfg s) (Quiet cfg) fun _ => True := by
  unfold reassemblyTimerExpires
  apply yields_ite
  case hf => exact fun _ => hquiet
  intro hrun
  obtain ⟨hpos, hle, -⟩ := h.trigger hrun
  have hbase : RxBase cfg { s with reassemblyTimerRunning := false } :=
    ⟨h.rxNext_lt, h.highestStatus_lt, h.nextHighest_lt, h.trigger_lt, h.highestStatus_le, h.nextHighest_le,
      ⟨h.window.wellFormed, h.window.capacity, h.window.inWindow, h.window.segments⟩, h.ends⟩
  have hmod := cfg.mod_eq
  have hW := h.nextHighest_le
  have hWpos := cfg.amWindowSize_pos
  have hstopped : ∀ {s : RlcRxAmEntity}, s.reassemblyTimerRunning = false → Quiet cfg s := by
    intro s hs hrunning
    rw [hs] at hrunning
    cases hrunning
  unfold onExpiredReassemblyTimer
  dsimp only
  rw [if_neg Bool.false_ne_true]
  apply yields_ite
  · exact fun _ => hstopped rfl
  intro _
  have hfuel : s.dist cfg s.st.rxNextHighest - s.dist cfg s.st.rxNextStatusTrigger < cfg.mod := by omega
  apply yields_bind (firstNotReceived_spec hbase h.trigger_lt hle hfuel)
  rintro snUpd ⟨hsnUpd, hge, hsnLe, -⟩
  change s.dist cfg s.st.rxNextStatusTrigger ≤ s.dist cfg snUpd at hge
  change s.dist cfg snUpd ≤ s.dist cfg s.st.rxNextHighest at hsnLe
  apply yields_ite
  · exact fun _ => trivial
  intro _
  have hreported : ∀ s' : RlcRxAmEntity, Quiet cfg s' →
      Yields (do let s ← refreshStatusReport cfg s'; .ok { s with doStatus := true }) (Quiet cfg) fun _ => True := by
    intro s' hs'
    apply yields_bind refreshStatusReport_set
    rintro _ ⟨p, q, b, rfl⟩
    exact hs'
  apply yields_ite
  · intro hstart
    have hbase' : RxBase cfg { s with reassemblyTimerRunning := false, st := { s.st with rxHighestStatus := snUpd } } :=
      ⟨h.rxNext_lt, hsnUpd, h.nextHighest_lt, h.trigger_lt, hsnLe, h.nextHighest_le,
        ⟨h.window.wellFormed, h.window.capacity, h.window.inWindow, h.window.segments⟩, h.ends⟩
    have hdist : s.dist cfg snUpd < cfg.amWindowSize + 1 := by omega
    have hlt := lt_nextHighest_of_starts hbase' hdist hstart
    change s.dist cfg snUpd < s.dist cfg s.st.rxNextHighest at hlt
    have hneeded : NeedsTimer cfg { s with reassemblyTimerRunning := false } := by
      left
      change 1 < s.rxModBase cfg s.st.rxNextHighest
      rw [rxModBase_eq h.rxNext_lt]
      omega
    have hahead := not_quotedStop_of_needed hbase hneeded
    unfold runReassemblyTimer
    split
    · trivial
    · exact hreported _ fun _ => hahead
  · exact fun _ => hreported _ (hstopped rfl)

structure TimerInv (cfg : RlcRxAmConfig) (s : RlcRxAmEntity) : Prop where
  state : s.RxInv cfg
  inventory : s.Inventoried
  quiet : Quiet cfg s

lemma timerInv_init : TimerInv cfg (init cfg) := by
  refine ⟨init_rxInv, fun sn info hinfo => ?_, fun hrun => nomatch hrun⟩
  have hnone : (init cfg).rxWindow.find? sn = none := CircularMap.new_find? _ cfg.amWindowSize_pos
  cases hnone.symm.trans hinfo

lemma step_timerInv {e : RxAmEvent} (h : TimerInv cfg s) (hstep : step cfg s e = .ok s') : TimerInv cfg s' := by
  have hinv := (step_rxInv h.state e).of_ok hstep
  cases e with
  | handlePdu buf =>
    obtain ⟨res, hres, rfl⟩ := map_eq_ok.mp hstep
    unfold handlePdu at hres
    cases hcontrol : RlcAmStatusPdu.isControlPdu buf with
    | error _ =>
      rw [hcontrol] at hres
      obtain rfl := Except.ok.inj hres
      exact h
    | ok control =>
      rw [hcontrol] at hres
      cases control with
      | true =>
        dsimp only at hres
        split at hres
        · obtain rfl := Except.ok.inj hres
          exact h
        · obtain rfl := Except.ok.inj hres
          exact h
      | false =>
        obtain ⟨res', hres', heq⟩ := bind_eq_ok.mp hres
        obtain rfl := Except.ok.inj heq
        obtain ⟨hinventory, hquiet, -⟩ := handleDataPdu_control h.state h.inventory h.quiet hres'
        exact ⟨hinv, hinventory, hquiet⟩
  | reassemblyTimerExpires =>
    have hwindow := ((reassemblyTimerExpires_spec h.state).of_ok hstep).2.2.2
    exact ⟨hinv, h.inventory.congr hwindow, (reassemblyTimerExpires_quiet h.state h.quiet).of_ok hstep⟩
  | getStatusPdu =>
    obtain rfl := Except.ok.inj hstep
    exact ⟨hinv, h.inventory, h.quiet⟩
  | statusProhibitTimerExpires =>
    obtain rfl := Except.ok.inj hstep
    exact ⟨hinv, h.inventory, h.quiet⟩

end Control

/-- In every reachable state, and for every data PDU that is handled, t-Reassembly is stopped and running as the quoted
conditions say if and only if a PDU that finds the trigger at the upper edge of the window completes the SDU of `rx_next`,
and a PDU that is discarded finds t-Reassembly running where it is needed. -/
theorem reassembly_timer_controlled_iff (cfg : RlcRxAmConfig) (es : List RxAmEvent) (s : RlcRxAmEntity)
    (hs : runEvents (step cfg) (init cfg) es = .ok s) (buf : List UInt8) (res : RlcRxAmEntity × Option (List UInt8))
    (hres : s.handleDataPdu cfg buf = .ok res) : TimerControlled cfg s buf res.1 ↔ TimerCondition cfg s buf := by
  have h : TimerInv cfg s :=
    runEvents_invariant (TimerInv cfg) (fun _ _ _ hinv hstep => step_timerInv hinv hstep) timerInv_init hs
  exact (handleDataPdu_control h.state h.inventory h.quiet hres).2.2

def twelveBits : RlcRxAmConfig := ⟨.size12bits, 35, 0, none, fun _ h => nomatch h⟩

/-- SDU 1 arrives before SDU 0. -/
theorem reassembly_timer_controlled_iff_reordered :
    ∃ s, runEvents (step twelveBits) (init twelveBits) [.handlePdu [0x80, 1, 7]] = .ok s ∧
      ∃ res, s.handleDataPdu twelveBits [0x80, 0, 7] = .ok res ∧
        (TimerControlled twelveBits s [0x80, 0, 7] res.1 ↔ TimerCondition twelveBits s [0x80, 0, 7]) := by
  have hrun : ∃ s, runEvents (step twelveBits) (init twelveBits) [.handlePdu [0x80, 1, 7]] = .ok s ∧
      ∃ res, s.handleDataPdu twelveBits [0x80, 0, 7] = .ok res ∧ True := by
    decide +kernel
  obtain ⟨s, hs, res, hres, -⟩ := hrun
  exact ⟨s, hs, res, hres, reassembly_timer_controlled_iff twelveBits _ s hs _ res hres⟩

/-- The last SN of the window is received first, and the trigger is at its upper edge. The next PDU stops t-Reassembly,
which starts again with the same trigger. -/
theorem reassembly_timer_not_controlled :
    ∃ s, runEvents (step twelveBits) (init twelveBits) [.handlePdu [0x87, 0xff, 7]] = .ok s ∧
      s.reassemblyTimerRunning = true ∧ s.st.rxNext = 0 ∧ s.st.rxNextStatusTrigger = twelveBits.amWindowSize ∧
      s.stopsTimer twelveBits [0x80, 5, 7] = .ok true ∧ ∃ res, s.handleDataPdu twelveBits [0x80, 5, 7] = .ok res ∧
        res.1.reassemblyTimerRunning = true ∧ res.1.st = s.st ∧ ¬ TimerControlled twelveBits s [0x80, 5, 7] res.1 := by
  have hrun : ∃ s, runEvents (step twelveBits) (init twelveBits) [.handlePdu [0x87, 0xff, 7]] = .ok s ∧
      s.reassemblyTimerRunning = true ∧ s.st.rxNext = 0 ∧ s.st.rxNextStatusTrigger = twelveBits.amWindowSize ∧
      (∃ stops, s.stopsTimer twelveBits [0x80, 5, 7] = .ok stops ∧ stops = true) ∧
      ∃ res, s.handleDataPdu twelveBits [0x80, 5, 7] = .ok res ∧ res.1.reassemblyTimerRunning = true ∧
        res.1.st = s.st := by
    decide +kernel
  obtain ⟨s, hs, hrunning, hnext, htrigger, ⟨_, hstops, rfl⟩, res, hres, hrestarted, hst⟩ := hrun
  refine ⟨s, hs, hrunning, hnext, htrigger, hstops, res, hres, hrestarted, hst, fun hcontrolled => ?_⟩
  obtain ⟨-, hquoted⟩ := hcontrolled.stopped.mp hstops
  unfold QuotedStop at hquoted
  rw [hst, hnext, htrigger] at hquoted
  rcases hquoted with hat | ⟨hat, -⟩ | ⟨-, hne⟩
  · exact absurd hat (by decide)
  · exact absurd hat (by decide)
  · exact hne rfl

end RlcRxAmEntity

end OwlsRan.Rlc
