import OwlsRan.Lib.EventRun
import OwlsRan.Pdcp.DiscardMoves
import OwlsRan.Pdcp.PdcpRxRun

/-!
# Status reports

The receiver compiles a report of what it has, and the transmitter discards what the report names. A report is read bit
by bit, and bits that are not there do not name anything.
-/

/-!
## Runs of the transmitting entity

SDUs, notifications, status reports and expiries of the discard timer come in any order. The callback of an expiry runs
before the next tick.
-/

namespace OwlsRan.Pdcp
open OwlsRan.Lib OwlsRan.Rlc OwlsRan.Support

inductive PdcpTxEvent where
  | sdu (buf : List UInt8) (alloc : SduAllocation)
  | transmitNotification (sn : Nat)
  | deliveryNotification (sn : Nat)
  | statusReport (status : List UInt8)
  | desiredBufferSizeNotification (desiredBs : Nat)
  | configureSecurity (integrityEnabled : Bool)
  /-- The PDUs below a COUNT have been ciphered and passed on to the lower layer. -/
  | reorderCrypto (count : Nat)
  | tick
  | expiry
deriving DecidableEq

/-- An SDU that `discard_callback` discards, with the tick. -/
structure Discard where
  elem : PdcpTxWindowElement
  tick : Nat
deriving DecidableEq

structure PdcpTxRun where
  entity : PdcpTxEntity
  discards : List Discard

namespace PdcpTxRun

open PdcpTxEntity

variable (cfg : PdcpTxConfig)

def start (now : Nat) : PdcpTxRun := ⟨.start cfg now, []⟩

variable (s : PdcpTxRun)

def discardsOf (counts : List Nat) : List Discard :=
  counts.filterMap fun count => (s.entity.inWindow count).map fun elem => ⟨elem, s.entity.discardTimer.now⟩

def expire : Except PdcpAbort PdcpTxRun := do
  let (entity, counts) ← { s.entity with discardTimer := s.entity.discardTimer.stop }.discardCallback cfg
  .ok ⟨entity, s.discards ++ s.discardsOf counts⟩

/-- A tick waits for a callback that is due, and there is no expiry if none is. -/
def step : PdcpTxEvent → Except PdcpAbort PdcpTxRun
  | .sdu buf alloc => (s.entity.handleSdu cfg buf alloc).map fun r => { s with entity := r.entity }
  | .transmitNotification sn => (s.entity.handleTransmitNotification cfg sn).map fun entity => { s with entity := entity }
  | .deliveryNotification sn => (s.entity.handleDeliveryNotification cfg sn).map fun entity => { s with entity := entity }
  | .statusReport status => .ok { s with entity := (s.entity.handleStatusReport cfg status).1 }
  | .desiredBufferSizeNotification desiredBs =>
    .ok { s with entity := if s.entity.stopped then s.entity else { s.entity with desiredBufferSize := desiredBs } }
  | .configureSecurity integrityEnabled => .ok { s with entity := { s.entity with integrityEnabled := integrityEnabled } }
  | .reorderCrypto count =>
    .ok { s with entity := { s.entity with txTransCrypto := max s.entity.txTransCrypto (min count s.entity.txNext) } }
  | .tick =>
    if s.entity.discardTimer.Due then .ok s
    else .ok { s with entity := { s.entity with discardTimer := s.entity.discardTimer.tick } }
  | .expiry => if s.entity.discardTimer.Due then s.expire cfg else .ok s

end PdcpTxRun

def IsStatusReport (status : List UInt8) : Prop :=
  bitsValue 1 (bitString status) = 0 ∧ bitsValue 3 ((bitString status).drop 1) = 0 ∧
    bitsValue 4 ((bitString status).drop 4) = 0

def reportFmc (status : List UInt8) : Nat := bitsValue 32 ((bitString status).drop 8)

def reportBitmap (status : List UInt8) : List Nat := (bitString status).drop 40

def Marked (fmc : Nat) (bitmap : List Nat) (count : Nat) : Prop :=
  ∃ i, bitmap[i]? = some 1 ∧ count = (fmc + 1 + i) % 2 ^ 32

instance (fmc : Nat) (bitmap : List Nat) (count : Nat) : Decidable (Marked fmc bitmap count) :=
  decidable_of_iff (∃ i < bitmap.length, bitmap[i]? = some 1 ∧ count = (fmc + 1 + i) % 2 ^ 32)
    ⟨fun ⟨i, _, h⟩ => ⟨i, h⟩, fun ⟨i, h⟩ => ⟨i, (List.getElem?_eq_some_iff.mp h.1).1, h⟩⟩

def ReportNames (status : List UInt8) (count : Nat) : Prop :=
  IsStatusReport status ∧ (count < reportFmc status ∨ Marked (reportFmc status) (reportBitmap status) count)

instance (status : List UInt8) : Decidable (IsStatusReport status) := inferInstanceAs (Decidable (_ ∧ _ ∧ _))

instance (status : List UInt8) (count : Nat) : Decidable (ReportNames status count) :=
  inferInstanceAs (Decidable (_ ∧ (_ ∨ _)))

section Transmitter

namespace PdcpTxEntity

variable {cfg : PdcpTxConfig} {s : PdcpTxEntity}

lemma discardBelow_swept (htimer : cfg.discardTimer.isSome = true) (counts : List Nat) (s : PdcpTxEntity) :
    Swept s (· ∈ counts) (discardBelow cfg counts s).1 := by
  induction counts generalizing s with
  | nil => exact Swept.refl fun _ _ _ h => absurd h List.not_mem_nil
  | cons count counts ih =>
    have hfirst := discardPdu_swept htimer count s
    exact (hfirst.trans (ih (s.discardPdu cfg count).1)).congr fun j _ _ => List.mem_cons.symm

lemma discardMarked_swept (htimer : cfg.discardTimer.isSome = true) (n fmc : Nat) (dec : BitDecoder) (s : PdcpTxEntity)
    (hdec : dec.offset < 8) (hn : dec.remaining.length ≤ n) :
    Swept s (Marked fmc dec.remaining) (discardMarked cfg n fmc dec s).1 := by
  induction n generalizing fmc dec s with
  | zero =>
    have hempty : dec.remaining = [] := List.eq_nil_of_length_eq_zero (Nat.le_zero.mp hn)
    rw [hempty]
    apply Swept.refl
    rintro j - - ⟨i, hi, -⟩
    cases hi
  | succ n ih =>
    obtain ⟨dec', hunpack, hdec', hdrop⟩ := BitDecoder.unpack_eq hdec 1
    unfold discardMarked
    cases hbits : dec.remaining with
    | nil =>
      rw [hbits] at hunpack
      rw [hunpack]
      apply Swept.refl
      rintro j - - ⟨i, hi, -⟩
      cases hi
    | cons bit bits =>
      rw [hbits] at hunpack hdrop hn
      have hvalue : bitsValue 1 (bit :: bits) = bit := by simp [bitsValue]
      have htrue : decide (1 ≤ (bit :: bits).length) = true := by simp
      rw [hvalue, htrue] at hunpack
      rw [hunpack]
      dsimp only
      have hrest := ih ((fmc + 1) % 2 ^ 32) dec' (if bit = 1 then s.discardPdu cfg ((fmc + 1) % 2 ^ 32) else (s, none)).1
        hdec' (by rw [hdrop]; exact Nat.le_of_succ_le_succ hn)
      rw [hdrop] at hrest
      have hfirst : Swept s (fun j => bit = 1 ∧ j = (fmc + 1) % 2 ^ 32)
          (if bit = 1 then s.discardPdu cfg ((fmc + 1) % 2 ^ 32) else (s, none)).1 := by
        by_cases hbit : bit = 1
        · rw [if_pos hbit]
          exact (discardPdu_swept htimer _ s).congr fun j _ _ => ⟨fun h => ⟨hbit, h⟩, fun h => h.2⟩
        · rw [if_neg hbit]
          exact Swept.refl fun _ _ _ h => absurd h.1 hbit
      refine (hfirst.trans hrest).congr fun j _ _ => ⟨?_, ?_⟩
      · rintro (⟨rfl, rfl⟩ | ⟨i, hi, rfl⟩)
        · exact ⟨0, rfl, rfl⟩
        · exact ⟨i + 1, hi, by omega⟩
      · rintro ⟨i, hi, rfl⟩
        cases i with
        | zero => exact .inl ⟨Option.some.inj hi, rfl⟩
        | succ i => exact .inr ⟨i, hi, by omega⟩

lemma handleStatusReport_swept (htimer : cfg.discardTimer.isSome = true) (status : List UInt8) (s : PdcpTxEntity) :
    Swept s (ReportNames status) (s.handleStatusReport cfg status).1 := by
  obtain ⟨d₁, hdc, hd₁, hr₁⟩ := BitDecoder.unpack_eq (d := .ofBytes status) (Nat.zero_lt_succ _) 1
  obtain ⟨d₂, hcpt, hd₂, hr₂⟩ := BitDecoder.unpack_eq hd₁ 3
  obtain ⟨d₃, hreserved, hd₃, hr₃⟩ := BitDecoder.unpack_eq hd₂ 4
  obtain ⟨d₄, hfmc, hd₄, hr₄⟩ := BitDecoder.unpack_eq hd₃ 32
  rw [BitDecoder.remaining_ofBytes] at hdc hr₁
  rw [hr₁] at hcpt hr₂
  rw [hr₂, List.drop_drop] at hreserved hr₃
  rw [hr₃, List.drop_drop] at hfmc hr₄
  rw [List.drop_drop] at hr₄
  have hinvalid : ∀ {h : ¬IsStatusReport status}, Swept s (ReportNames status) s := fun {h} =>
    Swept.refl fun _ _ _ hnamed => absurd hnamed.1 h
  unfold handleStatusReport
  rw [hdc]
  dsimp only
  by_cases hdc' : bitsValue 1 (bitString status) ≠ 0
  · rw [if_pos hdc']
    exact hinvalid (h := fun h => hdc' h.1)
  rw [if_neg hdc', hcpt]
  dsimp only
  by_cases hcpt' : bitsValue 3 ((bitString status).drop 1) ≠ 0
  · rw [if_pos hcpt']
    exact hinvalid (h := fun h => hcpt' h.2.1)
  rw [if_neg hcpt', hreserved]
  dsimp only
  by_cases hreserved' : bitsValue 4 ((bitString status).drop 4) ≠ 0
  · rw [if_pos hreserved']
    exact hinvalid (h := fun h => hreserved' h.2.2)
  rw [if_neg hreserved', hfmc]
  dsimp only
  have hvalid : IsStatusReport status := ⟨not_not.mp hdc', not_not.mp hcpt', not_not.mp hreserved'⟩
  have hbelow := discardBelow_swept htimer (List.range' s.txNextAck (reportFmc status - s.txNextAck)) s
  have hlength : d₄.remaining.length ≤ 8 * d₄.buffer.length := by
    rw [BitDecoder.remaining, List.length_drop, length_bitString]
    exact Nat.sub_le _ _
  have hmarked := discardMarked_swept htimer (8 * d₄.buffer.length) (reportFmc status) d₄
    (discardBelow cfg (List.range' s.txNextAck (reportFmc status - s.txNextAck)) s).1 hd₄ hlength
  rw [hr₄] at hmarked
  refine (hbelow.trans hmarked).congr fun j hge _ => ?_
  have hmem : j ∈ List.range' s.txNextAck (reportFmc status - s.txNextAck) ↔ j < reportFmc status := by
    rw [List.mem_range'_1]
    omega
  rw [hmem]
  exact ⟨fun h => ⟨hvalid, h⟩, fun h => h.2⟩

lemma handleStatusReport_ignored (htimer : cfg.discardTimer.isSome = false) (status : List UInt8) (s : PdcpTxEntity) :
    (s.handleStatusReport cfg status).1 = s := by
  have hpdu : ∀ s : PdcpTxEntity, ∀ count, s.discardPdu cfg count = (s, none) := by
    intro s count
    unfold discardPdu
    rw [if_pos]
    rw [Option.isNone_iff_eq_none, ← Option.not_isSome_iff_eq_none, htimer]
    exact Bool.false_ne_true
  have hbelow : ∀ counts, ∀ s : PdcpTxEntity, (discardBelow cfg counts s).1 = s := by
    intro counts
    induction counts with
    | nil => exact fun s => rfl
    | cons count counts ih =>
      intro s
      unfold discardBelow
      dsimp only
      rw [hpdu, ih]
  have hmarked : ∀ n fmc dec, ∀ s : PdcpTxEntity, (discardMarked cfg n fmc dec s).1 = s := by
    intro n
    induction n with
    | zero => exact fun fmc dec s => rfl
    | succ n ih =>
      intro fmc dec s
      unfold discardMarked
      split
      case h_1 => rfl
      case h_2 =>
        dsimp only
        rw [hpdu, ite_self, ih]
  unfold handleStatusReport
  dsimp only
  split_ifs
  · rfl
  · rfl
  · rfl
  · rw [hmarked, hbelow]

end PdcpTxEntity

end Transmitter

section Receiver

namespace PdcpRxEntity

variable {cfg : PdcpRxConfig} {s : PdcpRxEntity} {count : Nat}

def Reports (s : PdcpRxEntity) (count : Nat) : Prop :=
  count < s.rxDeliv ∨
    (SduWindow.hasSn s.rxWindow count = true ∧ count - (s.rxDeliv + 1) < (pdcpControlPduMaxSize - 5) * 8)

instance (s : PdcpRxEntity) (count : Nat) : Decidable (s.Reports count) := inferInstanceAs (Decidable (_ ∨ _))

def bitmap (s : PdcpRxEntity) : List Nat :=
  (List.range' ((s.rxDeliv + 1) % 2 ^ 32) (s.bitmapEnd - (s.rxDeliv + 1) % 2 ^ 32)).map fun i =>
    (SduWindow.hasSn s.rxWindow i).toNat

lemma holds_bitmap (is : List Nat) (enc : BitEncoder) (bits : List Nat) (h : enc.Holds bits) :
    (is.foldl (fun enc i => enc.pack (SduWindow.hasSn s.rxWindow i).toNat 1) enc).Holds
      (bits ++ is.map fun i => (SduWindow.hasSn s.rxWindow i).toNat) := by
  induction is generalizing enc bits with
  | nil =>
    rw [List.map_nil, List.append_nil]
    exact h
  | cons i is ih =>
    have hbit : bitsOf 1 (SduWindow.hasSn s.rxWindow i).toNat = [(SduWindow.hasSn s.rxWindow i).toNat] := by
      cases SduWindow.hasSn s.rxWindow i <;> rfl
    have hpack := h.pack (SduWindow.hasSn s.rxWindow i).toNat 1
    rw [hbit] at hpack
    have hrest := ih _ _ hpack
    rw [List.append_assoc] at hrest
    exact hrest

lemma bitString_compileStatusReport (s : PdcpRxEntity) : ∃ padding, bitString s.compileStatusReport =
    List.replicate 8 0 ++ (bitsOf 32 s.rxDeliv ++ (s.bitmap ++ List.replicate padding 0)) := by
  have hheader := ((BitEncoder.holds_empty.pack 0 1).pack 0 3).pack 0 4
  have hall := holds_bitmap (s := s) (List.range' ((s.rxDeliv + 1) % 2 ^ 32) (s.bitmapEnd - (s.rxDeliv + 1) % 2 ^ 32)) _ _
    (hheader.pack s.rxDeliv 32)
  obtain ⟨padding, hdata⟩ := hall.bitString_data
  refine ⟨padding, hdata.trans ?_⟩
  rw [List.append_assoc, List.append_assoc]
  rfl

lemma isStatusReport_compile (s : PdcpRxEntity) : IsStatusReport s.compileStatusReport := by
  obtain ⟨padding, hbits⟩ := s.bitString_compileStatusReport
  unfold IsStatusReport
  rw [hbits]
  exact ⟨rfl, rfl, rfl⟩

lemma reportFmc_compile (hlt : s.rxDeliv < 2 ^ 32) : reportFmc s.compileStatusReport = s.rxDeliv := by
  obtain ⟨padding, hbits⟩ := s.bitString_compileStatusReport
  unfold reportFmc
  rw [hbits, List.drop_left' List.length_replicate, bitsValue_bitsOf, Nat.mod_eq_of_lt hlt]

lemma reportBitmap_compile (s : PdcpRxEntity) :
    ∃ padding, reportBitmap s.compileStatusReport = s.bitmap ++ List.replicate padding 0 := by
  obtain ⟨padding, hbits⟩ := s.bitString_compileStatusReport
  refine ⟨padding, ?_⟩
  unfold reportBitmap
  rw [hbits, ← List.append_assoc, List.drop_left']
  rw [List.length_append, List.length_replicate, length_bitsOf]

lemma bitmap_padded {padding i : Nat} : (s.bitmap ++ List.replicate padding 0)[i]? = some 1 ↔
    i < s.bitmapEnd - (s.rxDeliv + 1) % 2 ^ 32 ∧ SduWindow.hasSn s.rxWindow ((s.rxDeliv + 1) % 2 ^ 32 + i) = true := by
  have hlength : s.bitmap.length = s.bitmapEnd - (s.rxDeliv + 1) % 2 ^ 32 := by
    rw [bitmap, List.length_map, List.length_range']
  by_cases hi : i < s.bitmapEnd - (s.rxDeliv + 1) % 2 ^ 32
  · rw [List.getElem?_append_left (hlength.symm ▸ hi), bitmap, List.getElem?_map, List.getElem?_range' hi, Nat.one_mul,
      Option.map_some, Option.some.injEq, Bool.toNat_eq_one]
    exact ⟨fun h => ⟨hi, h⟩, fun h => h.2⟩
  · rw [List.getElem?_append_right (by omega)]
    refine iff_of_false (fun h => ?_) fun h => hi h.1
    have hmem := List.eq_of_mem_replicate (List.mem_of_getElem? h)
    cases hmem

lemma reportNames_compile (hin : InOrder cfg s) : ReportNames s.compileStatusReport count ↔ s.Reports count := by
  have hhard : cfg.maxCount.hard.toNat < 2 ^ 32 := cfg.maxCount.hard.toNat_lt
  have hdeliv := hin.deliv_le
  have hnext := hin.next_le
  have hstored : ∀ j, SduWindow.hasSn s.rxWindow j = true → s.rxDeliv < j ∧ j < s.rxNext := by
    intro j hj
    obtain ⟨info, hinfo⟩ := SduWindow.hasSn_iff.mp hj
    refine ⟨Nat.lt_of_le_of_ne (hin.window_ge j info hinfo) ?_, hin.window_lt j info hinfo⟩
    rintro rfl
    rw [hin.missing] at hinfo
    cases hinfo
  obtain ⟨padding, hbitmap⟩ := s.reportBitmap_compile
  unfold ReportNames Reports Marked
  rw [reportFmc_compile (by omega), hbitmap]
  constructor
  · rintro ⟨-, hbelow | ⟨i, hi, rfl⟩⟩
    · exact .inl hbelow
    · obtain ⟨hlt, hsn⟩ := bitmap_padded.mp hi
      have hrange := hstored _ hsn
      have hcount : (s.rxDeliv + 1 + i) % 2 ^ 32 = (s.rxDeliv + 1) % 2 ^ 32 + i := by omega
      rw [hcount]
      refine .inr ⟨hsn, ?_⟩
      unfold bitmapEnd at hlt
      dsimp only at hlt
      split at hlt <;> omega
  · rintro (hbelow | ⟨hsn, hlimit⟩)
    · exact ⟨s.isStatusReport_compile, .inl hbelow⟩
    · have hrange := hstored count hsn
      refine ⟨s.isStatusReport_compile, .inr ⟨count - (s.rxDeliv + 1), bitmap_padded.mpr ⟨?_, ?_⟩, by omega⟩⟩
      · unfold bitmapEnd
        dsimp only
        split <;> omega
      · have hcount : (s.rxDeliv + 1) % 2 ^ 32 + (count - (s.rxDeliv + 1)) = count := by omega
        rw [hcount]
        exact hsn

end PdcpRxEntity

end Receiver

open PdcpTxEntity

/-- In the window of a transmitter with a discard timer, the report of a receiver discards the SDUs that the receiver
has, within the limit of the bitmap. Any string discards only what it names. Without a discard timer, reports are
ignored. -/
theorem statusReport_discards :
    (∀ (rcfg : PdcpRxConfig) es r, runEvents (PdcpRxRun.step rcfg) (.start rcfg) es = .ok r →
      ∀ (cfg : PdcpTxConfig) (s : PdcpTxEntity), cfg.discardTimer.isSome = true →
        ∀ count, s.txNextAck ≤ count → count < s.txNext →
          (s.handleStatusReport cfg r.entity.compileStatusReport).1.inWindow count =
            if r.entity.Reports count then none else s.inWindow count) ∧
    (∀ (cfg : PdcpTxConfig) (s : PdcpTxEntity) status count,
      (s.handleStatusReport cfg status).1.inWindow count ≠ s.inWindow count →
        s.txNextAck ≤ count ∧ count < s.txNext ∧ ReportNames status count) ∧
    ∀ (cfg : PdcpTxConfig) (s : PdcpTxEntity) status, cfg.discardTimer.isSome = false →
      (s.handleStatusReport cfg status).1 = s := by
  refine ⟨?_, ?_, fun cfg s status htimer => handleStatusReport_ignored htimer status s⟩
  · intro rcfg es r hrun cfg s htimer count hge hlt
    have hswept := handleStatusReport_swept htimer r.entity.compileStatusReport s
    have hnames : ReportNames r.entity.compileStatusReport count ↔ r.entity.Reports count :=
      PdcpRxEntity.reportNames_compile (PdcpRxRun.run_ok hrun).1
    by_cases hreports : r.entity.Reports count
    · rw [if_pos hreports]
      exact hswept.gone count hge hlt (hnames.mpr hreports)
    · rw [if_neg hreports]
      exact hswept.kept count fun h => hreports (hnames.mp h.2.2)
  · intro cfg s status count hchanged
    cases htimer : cfg.discardTimer.isSome with
    | false => exact absurd (congrArg (inWindow · count) (handleStatusReport_ignored htimer status s)) hchanged
    | true =>
      by_contra hnot
      exact hchanged ((handleStatusReport_swept htimer status s).kept count hnot)

/-- The receiver has the first SDU, and the report names it. -/
theorem statusReport_discards_first :
    let rx : PdcpRxConfig := ⟨.size12bits, .ms 35, ⟨0xc0000000, 0xd0000000⟩⟩
    let tx : PdcpTxConfig := ⟨.drb, .am, .size12bits, some (.ms 10), ⟨0xc0000000, 0xfffffffe⟩⟩
    ∃ r, runEvents (PdcpRxRun.step rx) (.start rx) [.dataPdu [0x80, 0, 1], .deciphered 0 (some [1])] = .ok r ∧
      ∃ s, runEvents (PdcpTxRun.step tx) (.start tx 0) [.desiredBufferSizeNotification 100, .sdu [1] ⟨true, true⟩] = .ok s ∧
        s.entity.inWindow 0 = some ⟨[1], 0, some 0, 1⟩ ∧
        (s.entity.handleStatusReport tx r.entity.compileStatusReport).1.inWindow 0 = none ∧
        ReportNames r.entity.compileStatusReport 0 ∧
        (s.entity.handleStatusReport { tx with discardTimer := none } r.entity.compileStatusReport).1 = s.entity := by
  intro rx tx
  obtain ⟨r, hr, hreports⟩ : ∃ r, runEvents (PdcpRxRun.step rx) (.start rx)
      [.dataPdu [0x80, 0, 1], .deciphered 0 (some [1])] = .ok r ∧ r.entity.Reports 0 := by decide +kernel
  obtain ⟨s, hs, hge, hlt, hwindow⟩ : ∃ s, runEvents (PdcpTxRun.step tx) (.start tx 0)
      [.desiredBufferSizeNotification 100, .sdu [1] ⟨true, true⟩] = .ok s ∧ s.entity.txNextAck ≤ 0 ∧
      0 < s.entity.txNext ∧ s.entity.inWindow 0 = some ⟨[1], 0, some 0, 1⟩ := by decide +kernel
  have hgone : (s.entity.handleStatusReport tx r.entity.compileStatusReport).1.inWindow 0 = none := by
    rw [statusReport_discards.1 rx _ r hr tx s.entity rfl 0 hge hlt, if_pos hreports]
  have hchanged : (s.entity.handleStatusReport tx r.entity.compileStatusReport).1.inWindow 0 ≠ s.entity.inWindow 0 := by
    rw [hgone, hwindow]
    exact nofun
  exact ⟨r, hr, s, hs, hwindow, hgone, (statusReport_discards.2.1 tx s.entity _ 0 hchanged).2.2,
    statusReport_discards.2.2 _ s.entity _ rfl⟩

/-- Without a discard timer, the SDU that the receiver has stays in the window. -/
theorem statusReport_leaves :
    let rx : PdcpRxConfig := ⟨.size12bits, .ms 35, ⟨0xc0000000, 0xd0000000⟩⟩
    let tx : PdcpTxConfig := ⟨.drb, .am, .size12bits, none, ⟨0xc0000000, 0xfffffffe⟩⟩
    ∃ r, runEvents (PdcpRxRun.step rx) (.start rx) [.dataPdu [0x80, 0, 1], .deciphered 0 (some [1])] = .ok r ∧
      ∃ s, runEvents (PdcpTxRun.step tx) (.start tx 0) [.desiredBufferSizeNotification 100, .sdu [1] ⟨true, true⟩] = .ok s ∧
        r.entity.Reports 0 ∧
        (s.entity.handleStatusReport tx r.entity.compileStatusReport).1.inWindow 0 = some ⟨[], 0, none, 1⟩ := by
  decide +kernel

end OwlsRan.Pdcp
