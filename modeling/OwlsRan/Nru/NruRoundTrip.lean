import OwlsRan.Nru.NruPacking

/-!
# Round trip of the NR-U codec

A frame is described by its bits: the writer appends them, and the reader of these bits returns the frame.
-/

namespace OwlsRan.Nru
open OwlsRan.Support OwlsRan.Support.BitReader
open OwlsRan.F1u (NruPdcpSnDiscardBlock nruMaxNofPdcpSnDiscardBlocks)

section Limits

def IsSn (sn : UInt32) : Prop := sn.toNat < 2 ^ 24

instance (sn : UInt32) : Decidable (IsSn sn) := inferInstanceAs (Decidable (_ < _))

structure NruDlUserData.WithinLimits (m : NruDlUserData) : Prop where
  nruSn : IsSn m.nruSn
  dlDiscardPdcpSn : ∀ sn ∈ m.dlDiscardPdcpSn, IsSn sn
  nofDiscardBlocks : ∀ blocks ∈ m.discardBlocks, blocks.length ≤ nruMaxNofPdcpSnDiscardBlocks
  discardBlocks : ∀ blocks ∈ m.discardBlocks, ∀ block ∈ blocks, IsSn block.pdcpSnStart
  dlReportPdcpSn : IsSn m.dlReportPdcpSn

structure NruDlDataDeliveryStatus.WithinLimits (s : NruDlDataDeliveryStatus) : Prop where
  nofLostNruSnRanges : ∀ ranges ∈ s.lostNruSnRanges, ranges.length ≤ nruMaxNofLostNruSnRanges
  lostNruSnRanges : ∀ ranges ∈ s.lostNruSnRanges, ∀ range ∈ ranges, IsSn range.nruSnStart ∧ IsSn range.nruSnEnd
  highestDeliveredPdcpSn : ∀ sn ∈ s.highestDeliveredPdcpSn, IsSn sn
  highestTransmittedPdcpSn : ∀ sn ∈ s.highestTransmittedPdcpSn, IsSn sn
  highestDeliveredRetransmittedPdcpSn : ∀ sn ∈ s.highestDeliveredRetransmittedPdcpSn, IsSn sn
  highestRetransmittedPdcpSn : ∀ sn ∈ s.highestRetransmittedPdcpSn, IsSn sn

def NruDlUserData.withoutEmptyBlocks (m : NruDlUserData) : NruDlUserData :=
  { m with discardBlocks := m.discardBlocks.filter fun blocks => !blocks.isEmpty }

def NruDlUserData.carried (m : NruDlUserData) : NruDlUserData :=
  { m.withoutEmptyBlocks with dlReportPdcpSn := if m.reportDelivered then m.dlReportPdcpSn else 0 }

end Limits

section Octets

variable {outBuf : List UInt8} {startLen n : Nat} {bits : List Nat} {e : BitEncoder}

lemma addPadding_spec (hn : (4 - (outBuf.length - startLen + 2) % 4) % 4 ≤ n) (hstart : startLen ≤ outBuf.length) :
    ∃ k, addPadding startLen n outBuf = outBuf ++ List.replicate k 0 ∧
      (outBuf.length + k - startLen + 2) % 4 = 0 := by
  induction n generalizing outBuf with
  | zero => exact ⟨0, (List.append_nil _).symm, by omega⟩
  | succ n ih =>
    rw [addPadding]
    by_cases hlen : (outBuf.length - startLen + 2) % 4 ≠ 0
    · rw [if_pos hlen]
      have hlen' : (outBuf ++ [0]).length = outBuf.length + 1 := List.length_append
      obtain ⟨k, heq, hk⟩ := @ih (outBuf ++ [0]) (by rw [hlen']; omega) (by rw [hlen']; omega)
      refine ⟨k + 1, ?_, ?_⟩
      · rw [heq, List.append_assoc, List.replicate_succ]
        rfl
      · rw [hlen'] at hk
        omega
    · rw [if_neg hlen]
      exact ⟨0, (List.append_nil _).symm, by omega⟩

lemma addPadding_encoded (h : e.Holds (bitString outBuf ++ bits)) :
    ∃ encoded, addPadding outBuf.length 4 e.data = outBuf ++ encoded ∧ (encoded.length + 2) % 4 = 0 ∧
      ∃ rest, bitString encoded = bits ++ rest := by
  obtain ⟨padding, hdata⟩ := h.bitString_data
  rw [List.append_assoc] at hdata
  obtain ⟨octets, hoctets, hbits⟩ := eq_append_of_bitString hdata
  have hlen : e.data.length = outBuf.length + octets.length := by rw [hoctets, List.length_append]
  have hstart : outBuf.length ≤ e.data.length := by omega
  obtain ⟨k, hpad, hk⟩ := addPadding_spec (by omega : (4 - (e.data.length - outBuf.length + 2) % 4) % 4 ≤ 4) hstart
  refine ⟨octets ++ List.replicate k 0, ?_, ?_, List.replicate padding 0 ++ bitString (List.replicate k 0), ?_⟩
  · rw [hpad, hoctets, List.append_assoc]
  · rw [List.length_append, List.length_replicate]
    omega
  · rw [bitString_append, hbits, List.append_assoc]

lemma hasValidLength_of_mod {container : List UInt8} (h : (container.length + 2) % 4 = 0) :
    hasValidLength container = true := by
  cases container with
  | nil => cases h
  | cons b container => simpa [hasValidLength] using h

end Octets

section Fields

variable {e : BitEncoder} {bits : List Nat}

lemma toNat_flag_lt (b : Bool) : b.toNat < 2 ^ 1 := by cases b <;> decide

lemma toNat_flag_ne_zero (b : Bool) : (b.toNat != 0) = b := by cases b <;> rfl

lemma reads_flag (b : Bool) : flag.Reads (bitsOf 1 b.toNat) b := by
  have hread : flag.Reads (bitsOf 1 b.toNat) (b.toNat != 0) := (reads_field (toNat_flag_lt b)).map
  rw [toNat_flag_ne_zero] at hread
  exact hread

lemma reads_uncheckedFlag (b : Bool) : uncheckedFlag.Reads (bitsOf 1 b.toNat) b := by
  have hread : uncheckedFlag.Reads (bitsOf 1 b.toNat) (b.toNat != 0) := (reads_uncheckedField (toNat_flag_lt b)).map
  rw [toNat_flag_ne_zero] at hread
  exact hread

lemma reads_present {α : Type} {n : Nat} {o : Option α} {toNat : α → Nat} (h : ∀ a ∈ o, toNat a < 2 ^ n) :
    (optional o.isSome (field n)).Reads (optionalBits n (o.map toNat)) (o.map toNat) := by
  have hread := @reads_optionalField n (o.map toNat) fun val hval => by
    obtain ⟨a, ha, rfl⟩ := Option.map_eq_some_iff.mp hval
    exact h a ha
  rw [Option.isSome_map] at hread
  exact hread

lemma ofNat_toNat_sn (o : Option UInt32) : (o.map UInt32.toNat).map UInt32.ofNat = o := by
  cases o with
  | none => rfl
  | some sn => rw [Option.map_some, Option.map_some, UInt32.ofNat_toNat]

lemma ofNat_toNat_cause (o : Option UInt8) : (o.map UInt8.toNat).map UInt8.ofNat = o := by
  cases o with
  | none => rfl
  | some cause => rw [Option.map_some, Option.map_some, UInt8.ofNat_toNat]

def discardBlockBits (block : NruPdcpSnDiscardBlock) : List Nat :=
  bitsOf 24 block.pdcpSnStart.toNat ++ bitsOf 8 block.blockSize.toNat

def discardBlocksBits (blocks : List NruPdcpSnDiscardBlock) : List Nat :=
  bitsOf 8 blocks.length ++ blocks.flatMap discardBlockBits

lemma holds_writeDiscardBlocks (h : e.Holds bits) (blocks : List NruPdcpSnDiscardBlock) :
    (writeDiscardBlocks e blocks).Holds (bits ++ discardBlocksBits blocks) := by
  have hblocks := (h.pack blocks.length 8).foldl discardBlockBits
    (fun e bits block he => by
      have hblock := (he.pack block.pdcpSnStart.toNat 24).pack block.blockSize.toNat 8
      rw [List.append_assoc] at hblock
      exact hblock) blocks
  rw [List.append_assoc] at hblocks
  exact hblocks

lemma reads_discardBlock {block : NruPdcpSnDiscardBlock} (h : IsSn block.pdcpSnStart) :
    readDiscardBlock.Reads (discardBlockBits block) block := by
  have hend := reads_pure block
  refine (reads_field h).bind ((reads_field block.blockSize.toNat_lt).bind_last ?_)
  rw [UInt32.ofNat_toNat, UInt8.ofNat_toNat]
  exact hend

lemma reads_discardBlocks {blocks : List NruPdcpSnDiscardBlock} (hlen : blocks.length ≤ nruMaxNofPdcpSnDiscardBlocks)
    (h : ∀ block ∈ blocks, IsSn block.pdcpSnStart) : readDiscardBlocks.Reads (discardBlocksBits blocks) blocks := by
  have hsmall : blocks.length < 2 ^ 8 := by
    unfold nruMaxNofPdcpSnDiscardBlocks at hlen
    omega
  refine (reads_field hsmall).bind ((reads_guard hlen).bind_nil ?_)
  exact reads_replicate fun block hblock => reads_discardBlock (h block hblock)

def lostNruSnRangeBits (range : NruLostNruSnRange) : List Nat :=
  bitsOf 24 range.nruSnStart.toNat ++ bitsOf 24 range.nruSnEnd.toNat

def lostNruSnRangesBits (ranges : List NruLostNruSnRange) : List Nat :=
  bitsOf 8 ranges.length ++ ranges.flatMap lostNruSnRangeBits

lemma holds_writeLostNruSnRanges (h : e.Holds bits) (ranges : List NruLostNruSnRange) :
    (writeLostNruSnRanges e ranges).Holds (bits ++ lostNruSnRangesBits ranges) := by
  have hranges := (h.pack ranges.length 8).foldl lostNruSnRangeBits
    (fun e bits range he => by
      have hrange := (he.pack range.nruSnStart.toNat 24).pack range.nruSnEnd.toNat 24
      rw [List.append_assoc] at hrange
      exact hrange) ranges
  rw [List.append_assoc] at hranges
  exact hranges

lemma reads_lostNruSnRange {range : NruLostNruSnRange} (h : IsSn range.nruSnStart ∧ IsSn range.nruSnEnd) :
    readLostNruSnRange.Reads (lostNruSnRangeBits range) range := by
  have hend := reads_pure range
  refine (reads_field h.1).bind ((reads_field h.2).bind_last ?_)
  rw [UInt32.ofNat_toNat, UInt32.ofNat_toNat]
  exact hend

lemma reads_lostNruSnRanges {ranges : List NruLostNruSnRange} (hlen : ranges.length ≤ nruMaxNofLostNruSnRanges)
    (h : ∀ range ∈ ranges, IsSn range.nruSnStart ∧ IsSn range.nruSnEnd) :
    readLostNruSnRanges.Reads (lostNruSnRangesBits ranges) ranges := by
  have hsmall : ranges.length < 2 ^ 8 := by
    unfold nruMaxNofLostNruSnRanges at hlen
    omega
  refine (reads_field hsmall).bind ((reads_guard hlen).bind_nil ?_)
  exact reads_replicate fun range hrange => reads_lostNruSnRange (h range hrange)

lemma isSn_ofNat {sn : Nat} (h : sn < 2 ^ 24) : IsSn (.ofNat sn) := by
  rw [IsSn, UInt32.toNat_ofNat_of_lt' (Nat.lt_trans h (by decide))]
  exact h

lemma isSn_of_read {o : Option Nat} (h : ∀ val ∈ o, val < 2 ^ 24) : ∀ sn ∈ (o.map UInt32.ofNat).or none, IsSn sn := by
  intro sn hsn
  rw [Option.or_none] at hsn
  obtain ⟨val, hval, rfl⟩ := Option.map_eq_some_iff.mp hsn
  exact isSn_ofNat (h val hval)

lemma mem_of_read {α : Type} {o : Option α} {P : α → Prop} (h : ∀ a ∈ o, P a) : ∀ a ∈ o.or none, P a := by
  rw [Option.or_none]
  exact h

lemma returns_discardBlocks : readDiscardBlocks.Returns fun blocks =>
    blocks.length ≤ nruMaxNofPdcpSnDiscardBlocks ∧ ∀ block ∈ blocks, IsSn block.pdcpSnStart := by
  have hblock : readDiscardBlock.Returns fun block => IsSn block.pdcpSnStart :=
    (returns_field 24).bind fun _ hsn => (returns_field 8).bind fun _ _ => returns_pure (isSn_ofNat hsn)
  refine (returns_field 8).bind fun nof _ => returns_guard.bind fun _ hnof => ?_
  refine (returns_replicate hblock nof).imp ?_
  rintro blocks ⟨rfl, hblocks⟩
  exact ⟨hnof, hblocks⟩

lemma returns_lostNruSnRanges : readLostNruSnRanges.Returns fun ranges =>
    ranges.length ≤ nruMaxNofLostNruSnRanges ∧ ∀ range ∈ ranges, IsSn range.nruSnStart ∧ IsSn range.nruSnEnd := by
  have hrange : readLostNruSnRange.Returns fun range => IsSn range.nruSnStart ∧ IsSn range.nruSnEnd :=
    (returns_field 24).bind fun _ hstart => (returns_field 24).bind fun _ hend =>
      returns_pure ⟨isSn_ofNat hstart, isSn_ofNat hend⟩
  refine (returns_field 8).bind fun nof _ => returns_guard.bind fun _ hnof => ?_
  refine (returns_replicate hrange nof).imp ?_
  rintro ranges ⟨rfl, hranges⟩
  exact ⟨hnof, hranges⟩

end Fields

section DlUserData

variable {m : NruDlUserData} {e : BitEncoder} {bits : List Nat}

def NruDlUserData.announced (m : NruDlUserData) : Option (List NruPdcpSnDiscardBlock) :=
  m.withoutEmptyBlocks.discardBlocks

def NruDlUserData.reportedSn (m : NruDlUserData) : Option UInt32 :=
  if m.reportDelivered then some m.dlReportPdcpSn else none

def dlUserDataBits (m : NruDlUserData) : List Nat :=
  bitsOf 4 (nruPduTypeToUint .dlUserData) ++ (bitsOf 1 0 ++ (bitsOf 1 m.announced.isSome.toNat ++
    (bitsOf 1 m.dlDiscardPdcpSn.isSome.toNat ++ (bitsOf 1 m.reportPolling.toNat ++ (bitsOf 3 0 ++
    (bitsOf 1 m.requestOutOfSeqReport.toNat ++ (bitsOf 1 m.reportDelivered.toNat ++
    (bitsOf 1 m.userDataExistenceFlag.toNat ++ (bitsOf 1 m.assistInfoReportPollingFlag.toNat ++
    (bitsOf 1 m.retransmissionFlag.toNat ++ (bitsOf 24 m.nruSn.toNat ++
    (optionalBits 24 (m.dlDiscardPdcpSn.map UInt32.toNat) ++ (m.announced.elim [] discardBlocksBits ++
    optionalBits 24 (m.reportedSn.map UInt32.toNat))))))))))))))

lemma announced_isSome (m : NruDlUserData) :
    (m.discardBlocks.isSome && !(m.discardBlocks.getD []).isEmpty) = m.announced.isSome := by
  unfold NruDlUserData.announced NruDlUserData.withoutEmptyBlocks
  cases m.discardBlocks with
  | none => rfl
  | some blocks => cases blocks <;> rfl

lemma announced_eq_some {blocks : List NruPdcpSnDiscardBlock} (h : m.announced = some blocks) :
    m.discardBlocks = some blocks := (Option.filter_eq_some_iff.mp h).1

lemma holds_announced (h : e.Holds bits) (m : NruDlUserData) :
    (if m.announced.isSome then writeDiscardBlocks e (m.discardBlocks.getD []) else e).Holds
      (bits ++ m.announced.elim [] discardBlocksBits) := by
  cases hann : m.announced with
  | none =>
    rw [Option.elim_none, List.append_nil]
    exact h
  | some blocks =>
    rw [announced_eq_some hann]
    exact holds_writeDiscardBlocks h blocks

lemma holds_reportedSn (h : e.Holds bits) (m : NruDlUserData) :
    (if m.reportDelivered then e.pack m.dlReportPdcpSn.toNat 24 else e).Holds
      (bits ++ optionalBits 24 (m.reportedSn.map UInt32.toNat)) := by
  rw [NruDlUserData.reportedSn]
  by_cases hreport : m.reportDelivered = true
  · rw [if_pos hreport, if_pos hreport, Option.map_some, optionalBits, Option.elim_some]
    exact h.pack _ 24
  · rw [if_neg hreport, if_neg hreport, Option.map_none, optionalBits, Option.elim_none, List.append_nil]
    exact h

lemma holds_writeDlUserData (h : e.Holds bits) (m : NruDlUserData) :
    (writeDlUserData e m).Holds (bits ++ dlUserDataBits m) := by
  have hheader := (((((((((((h.pack (nruPduTypeToUint .dlUserData) 4).pack 0 1).pack m.announced.isSome.toNat 1).pack
    m.dlDiscardPdcpSn.isSome.toNat 1).pack m.reportPolling.toNat 1).pack 0 3).pack m.requestOutOfSeqReport.toNat 1).pack
    m.reportDelivered.toNat 1).pack m.userDataExistenceFlag.toNat 1).pack m.assistInfoReportPollingFlag.toNat 1).pack
    m.retransmissionFlag.toNat 1).pack m.nruSn.toNat 24
  have hflush := hheader.packOptional (m.dlDiscardPdcpSn.map UInt32.toNat) 24
  have hall := holds_reportedSn (holds_announced hflush m) m
  simp only [List.append_assoc] at hall
  rw [dlUserDataBits]
  simp only [writeDlUserData, announced_isSome]
  exact hall

lemma reads_dlUserData (h : m.WithinLimits) : (readDlUserData {}).Reads (dlUserDataBits m) m.carried := by
  have hend := reads_pure m.carried
  have hblocks : (optional m.announced.isSome readDiscardBlocks).Reads (m.announced.elim [] discardBlocksBits)
      m.announced :=
    reads_optional fun blocks hblocks => reads_discardBlocks (h.nofDiscardBlocks blocks (announced_eq_some hblocks))
      (h.discardBlocks blocks (announced_eq_some hblocks))
  have hreported : (optional m.reportDelivered (field 24)).Reads (optionalBits 24 (m.reportedSn.map UInt32.toNat))
      (m.reportedSn.map UInt32.toNat) := by
    have hread := @reads_present UInt32 24 m.reportedSn UInt32.toNat fun sn hsn => by
      unfold NruDlUserData.reportedSn at hsn
      obtain ⟨-, hsome⟩ := Option.ite_none_right_eq_some.mp hsn
      rw [← Option.some.inj hsome]
      exact h.dlReportPdcpSn
    have hsome : m.reportedSn.isSome = m.reportDelivered := by
      unfold NruDlUserData.reportedSn
      cases m.reportDelivered <;> rfl
    rw [hsome] at hread
    exact hread
  have hsn : m.reportedSn.getD 0 = m.carried.dlReportPdcpSn := by
    unfold NruDlUserData.reportedSn NruDlUserData.carried
    cases m.reportDelivered <;> rfl
  refine (reads_field (by decide)).bind ((reads_guard rfl).bind_nil ?_)
  refine (reads_field (by decide)).bind ((reads_guard rfl).bind_nil ?_)
  refine (reads_flag _).bind ((reads_flag _).bind ((reads_flag _).bind ?_))
  refine (reads_field (by decide)).bind ((reads_guard rfl).bind_nil ?_)
  refine (reads_uncheckedFlag _).bind ((reads_uncheckedFlag _).bind ((reads_uncheckedFlag _).bind
    ((reads_uncheckedFlag _).bind ((reads_flag _).bind ((reads_field h.nruSn).bind ?_)))))
  refine (reads_present h.dlDiscardPdcpSn).bind (hblocks.bind (hreported.bind_last ?_))
  simp only [ofNat_toNat_sn, UInt32.ofNat_toNat, Option.or_none, hsn]
  exact hend

lemma returns_dlUserData :
    (readDlUserData {}).Returns fun m => m.WithinLimits ∧ (m.reportDelivered = false → m.dlReportPdcpSn = 0) := by
  refine (returns_field 4).bind fun _ _ => returns_guard.bind fun _ _ => ?_
  refine (returns_field 1).bind fun _ _ => returns_guard.bind fun _ _ => ?_
  refine returns_any.bind fun discardFlag _ => returns_any.bind fun flushFlag _ => returns_any.bind fun _ _ => ?_
  refine (returns_field 3).bind fun _ _ => returns_guard.bind fun _ _ => ?_
  refine returns_any.bind fun _ _ => returns_any.bind fun reportDelivered _ => returns_any.bind fun _ _ =>
    returns_any.bind fun _ _ => returns_any.bind fun _ _ => ?_
  refine (returns_field 24).bind fun nruSn hsn => ?_
  refine (returns_optional (returns_field 24) flushFlag).bind fun discardSn hdiscardSn => ?_
  refine (returns_optional returns_discardBlocks discardFlag).bind fun blocks hblocks => ?_
  refine (returns_optional (returns_field 24) reportDelivered).bind fun reportSn hreport => ?_
  refine returns_pure ⟨⟨isSn_ofNat hsn, isSn_of_read hdiscardSn.2, mem_of_read fun bs hbs => (hblocks.2 bs hbs).1,
    mem_of_read fun bs hbs => (hblocks.2 bs hbs).2, ?_⟩, ?_⟩
  · cases reportSn with
    | none => exact (by decide : IsSn 0)
    | some val => exact isSn_ofNat (hreport.2 val rfl)
  · intro hflag
    cases reportSn with
    | none => rfl
    | some val =>
      have htrue : reportDelivered = true := hreport.1.symm
      exact absurd (htrue.symm.trans hflag) (by decide)

end DlUserData

section DlDataDeliveryStatus

variable {s : NruDlDataDeliveryStatus} {e : BitEncoder} {bits : List Nat}

def dlDataDeliveryStatusBits (s : NruDlDataDeliveryStatus) : List Nat :=
  bitsOf 4 (nruPduTypeToUint .dlDataDeliveryStatus) ++ (bitsOf 1 s.highestTransmittedPdcpSn.isSome.toNat ++
    (bitsOf 1 s.highestDeliveredPdcpSn.isSome.toNat ++ (bitsOf 1 s.finalFrameInd.toNat ++
    (bitsOf 1 s.lostNruSnRanges.isSome.toNat ++ (bitsOf 4 0 ++ (bitsOf 1 s.desiredDataRate.isSome.toNat ++
    (bitsOf 1 s.highestRetransmittedPdcpSn.isSome.toNat ++
    (bitsOf 1 s.highestDeliveredRetransmittedPdcpSn.isSome.toNat ++ (bitsOf 1 s.causeValue.isSome.toNat ++
    (bitsOf 32 s.desiredBufferSizeForDrb.toNat ++ (optionalBits 32 (s.desiredDataRate.map UInt32.toNat) ++
    (s.lostNruSnRanges.elim [] lostNruSnRangesBits ++
    (optionalBits 24 (s.highestDeliveredPdcpSn.map UInt32.toNat) ++
    (optionalBits 24 (s.highestTransmittedPdcpSn.map UInt32.toNat) ++ (optionalBits 8 (s.causeValue.map UInt8.toNat) ++
    (optionalBits 24 (s.highestDeliveredRetransmittedPdcpSn.map UInt32.toNat) ++
    optionalBits 24 (s.highestRetransmittedPdcpSn.map UInt32.toNat)))))))))))))))))

lemma holds_lostNruSnRanges (h : e.Holds bits) (o : Option (List NruLostNruSnRange)) :
    (match o with
      | none => e
      | some ranges => writeLostNruSnRanges e ranges).Holds (bits ++ o.elim [] lostNruSnRangesBits) := by
  cases o with
  | none =>
    rw [Option.elim_none, List.append_nil]
    exact h
  | some ranges => exact holds_writeLostNruSnRanges h ranges

lemma holds_writeDlDataDeliveryStatus (h : e.Holds bits) (s : NruDlDataDeliveryStatus) :
    (writeDlDataDeliveryStatus e s).Holds (bits ++ dlDataDeliveryStatusBits s) := by
  have hheader := ((((((((((h.pack (nruPduTypeToUint .dlDataDeliveryStatus) 4).pack
    s.highestTransmittedPdcpSn.isSome.toNat 1).pack s.highestDeliveredPdcpSn.isSome.toNat 1).pack
    s.finalFrameInd.toNat 1).pack s.lostNruSnRanges.isSome.toNat 1).pack 0 4).pack s.desiredDataRate.isSome.toNat 1).pack
    s.highestRetransmittedPdcpSn.isSome.toNat 1).pack s.highestDeliveredRetransmittedPdcpSn.isSome.toNat 1).pack
    s.causeValue.isSome.toNat 1).pack s.desiredBufferSizeForDrb.toNat 32
  have hranges := holds_lostNruSnRanges (hheader.packOptional (s.desiredDataRate.map UInt32.toNat) 32) s.lostNruSnRanges
  have hall := ((((hranges.packOptional (s.highestDeliveredPdcpSn.map UInt32.toNat) 24).packOptional
    (s.highestTransmittedPdcpSn.map UInt32.toNat) 24).packOptional (s.causeValue.map UInt8.toNat) 8).packOptional
    (s.highestDeliveredRetransmittedPdcpSn.map UInt32.toNat) 24).packOptional
    (s.highestRetransmittedPdcpSn.map UInt32.toNat) 24
  simp only [List.append_assoc] at hall
  rw [dlDataDeliveryStatusBits]
  simp only [writeDlDataDeliveryStatus]
  exact hall

lemma reads_dlDataDeliveryStatus (h : s.WithinLimits) :
    (readDlDataDeliveryStatus {}).Reads (dlDataDeliveryStatusBits s) s := by
  have hend := reads_pure s
  have hranges : (optional s.lostNruSnRanges.isSome readLostNruSnRanges).Reads
      (s.lostNruSnRanges.elim [] lostNruSnRangesBits) s.lostNruSnRanges :=
    reads_optional fun ranges hmem => reads_lostNruSnRanges (h.nofLostNruSnRanges ranges hmem)
      (h.lostNruSnRanges ranges hmem)
  have hrate := @reads_present UInt32 32 s.desiredDataRate UInt32.toNat fun rate _ => rate.toNat_lt
  have hcause := @reads_present UInt8 8 s.causeValue UInt8.toNat fun cause _ => cause.toNat_lt
  refine (reads_field (by decide)).bind ((reads_guard rfl).bind_nil ?_)
  refine (reads_flag _).bind ((reads_flag _).bind ((reads_flag _).bind ((reads_flag _).bind ?_)))
  refine (reads_field (by decide)).bind ((reads_guard rfl).bind_nil ?_)
  refine (reads_flag _).bind ((reads_flag _).bind ((reads_flag _).bind ((reads_flag _).bind ?_)))
  refine (reads_field s.desiredBufferSizeForDrb.toNat_lt).bind (hrate.bind (hranges.bind ?_))
  refine (reads_present h.highestDeliveredPdcpSn).bind ((reads_present h.highestTransmittedPdcpSn).bind ?_)
  refine hcause.bind ((reads_present h.highestDeliveredRetransmittedPdcpSn).bind ?_)
  refine (reads_present h.highestRetransmittedPdcpSn).bind_last ?_
  simp only [ofNat_toNat_sn, ofNat_toNat_cause, UInt32.ofNat_toNat, Option.or_none]
  exact hend

lemma returns_dlDataDeliveryStatus : (readDlDataDeliveryStatus {}).Returns NruDlDataDeliveryStatus.WithinLimits := by
  refine (returns_field 4).bind fun _ _ => returns_guard.bind fun _ _ => ?_
  refine returns_any.bind fun transmittedFlag _ => returns_any.bind fun deliveredFlag _ => returns_any.bind fun _ _ =>
    returns_any.bind fun lostFlag _ => ?_
  refine (returns_field 4).bind fun _ _ => returns_guard.bind fun _ _ => ?_
  refine returns_any.bind fun _ _ => returns_any.bind fun retransmittedFlag _ =>
    returns_any.bind fun deliveredRetransmittedFlag _ => returns_any.bind fun _ _ => ?_
  refine returns_any.bind fun _ _ => returns_any.bind fun _ _ => ?_
  refine (returns_optional returns_lostNruSnRanges lostFlag).bind fun ranges hranges => ?_
  refine (returns_optional (returns_field 24) deliveredFlag).bind fun delivered hdelivered => ?_
  refine (returns_optional (returns_field 24) transmittedFlag).bind fun transmitted htransmitted => ?_
  refine returns_any.bind fun _ _ => ?_
  refine (returns_optional (returns_field 24) deliveredRetransmittedFlag).bind fun retxDelivered hretxDelivered => ?_
  refine (returns_optional (returns_field 24) retransmittedFlag).bind fun retx hretx => ?_
  exact returns_pure ⟨mem_of_read fun rs hrs => (hranges.2 rs hrs).1, mem_of_read fun rs hrs => (hranges.2 rs hrs).2,
    isSn_of_read hdelivered.2, isSn_of_read htransmitted.2, isSn_of_read hretxDelivered.2, isSn_of_read hretx.2⟩

end DlDataDeliveryStatus

section RoundTrip

variable {m : NruDlUserData} {s : NruDlDataDeliveryStatus} {container : List UInt8}

lemma packDlUserData_spec (outBuf : List UInt8) (h : m.WithinLimits) :
    ∃ encoded, packDlUserData outBuf m = outBuf ++ encoded ∧ (encoded.length + 2) % 4 = 0 ∧
      unpackDlUserData {} encoded = some m.carried := by
  obtain ⟨encoded, hpack, hlen, rest, hbits⟩ :=
    addPadding_encoded (holds_writeDlUserData (BitEncoder.holds_bytes outBuf) m)
  refine ⟨encoded, hpack, hlen, ?_⟩
  rw [unpackDlUserData, if_pos (hasValidLength_of_mod hlen)]
  exact run'_of_reads (reads_dlUserData h) hbits

lemma packDlDataDeliveryStatus_spec (outBuf : List UInt8) (h : s.WithinLimits) :
    ∃ encoded, packDlDataDeliveryStatus outBuf s = outBuf ++ encoded ∧ (encoded.length + 2) % 4 = 0 ∧
      unpackDlDataDeliveryStatus {} encoded = some s := by
  obtain ⟨encoded, hpack, hlen, rest, hbits⟩ :=
    addPadding_encoded (holds_writeDlDataDeliveryStatus (BitEncoder.holds_bytes outBuf) s)
  refine ⟨encoded, hpack, hlen, ?_⟩
  rw [unpackDlDataDeliveryStatus, if_pos (hasValidLength_of_mod hlen)]
  exact run'_of_reads (reads_dlDataDeliveryStatus h) hbits

lemma unpackDlUserData_spec (h : unpackDlUserData {} container = some m) :
    m.WithinLimits ∧ m.carried = m.withoutEmptyBlocks := by
  unfold unpackDlUserData at h
  obtain ⟨-, hrun⟩ := Option.ite_none_right_eq_some.mp h
  obtain ⟨hlimits, hreport⟩ := returned_of_run' returns_dlUserData hrun
  refine ⟨hlimits, ?_⟩
  unfold NruDlUserData.carried
  cases hflag : m.reportDelivered with
  | true => rfl
  | false =>
    have hzero : (if false = true then m.dlReportPdcpSn else 0) = m.withoutEmptyBlocks.dlReportPdcpSn :=
      (hreport hflag).symm
    rw [hzero]

lemma unpackDlDataDeliveryStatus_spec (h : unpackDlDataDeliveryStatus {} container = some s) : s.WithinLimits := by
  unfold unpackDlDataDeliveryStatus at h
  obtain ⟨-, hrun⟩ := Option.ite_none_right_eq_some.mp h
  exact returned_of_run' returns_dlDataDeliveryStatus hrun

/-- The octets that are appended for a value have a length of n * 4 - 2, and are decoded to what they carry of it. -/
def RoundTrips {α : Type} (pack : List UInt8 → α → List UInt8) (unpack : List UInt8 → Option α) (limits : α → Prop)
    (carried : α → α) : Prop :=
  ∀ outBuf a, limits a → ∃ encoded n, pack outBuf a = outBuf ++ encoded ∧ 0 < n ∧ encoded.length = n * 4 - 2 ∧
    unpack encoded = some (carried a)

def Reencodes {α : Type} (pack : List UInt8 → α → List UInt8) (unpack : List UInt8 → Option α) (same : α → α) : Prop :=
  ∀ container a, unpack container = some a → unpack (pack [] a) = some (same a)

theorem nru_codec_round_trip :
    RoundTrips packDlUserData (unpackDlUserData {}) NruDlUserData.WithinLimits NruDlUserData.carried ∧
      RoundTrips packDlDataDeliveryStatus (unpackDlDataDeliveryStatus {}) NruDlDataDeliveryStatus.WithinLimits id ∧
      Reencodes packDlUserData (unpackDlUserData {}) NruDlUserData.withoutEmptyBlocks ∧
      Reencodes packDlDataDeliveryStatus (unpackDlDataDeliveryStatus {}) id := by
  refine ⟨?_, ?_, ?_, ?_⟩
  · intro outBuf m h
    obtain ⟨encoded, hpack, hlen, hunpack⟩ := packDlUserData_spec outBuf h
    exact ⟨encoded, (encoded.length + 2) / 4, hpack, by omega, by omega, hunpack⟩
  · intro outBuf s h
    obtain ⟨encoded, hpack, hlen, hunpack⟩ := packDlDataDeliveryStatus_spec outBuf h
    exact ⟨encoded, (encoded.length + 2) / 4, hpack, by omega, by omega, hunpack⟩
  · intro container m hdecoded
    obtain ⟨hlimits, hcarried⟩ := unpackDlUserData_spec hdecoded
    obtain ⟨encoded, hpack, -, hunpack⟩ := packDlUserData_spec [] hlimits
    rw [hpack, List.nil_append, hunpack, hcarried]
  · intro container s hdecoded
    obtain ⟨encoded, hpack, -, hunpack⟩ := packDlDataDeliveryStatus_spec [] (unpackDlDataDeliveryStatus_spec hdecoded)
    rw [hpack, List.nil_append, hunpack, id]

/-- A frame with one block after an octet that was in the buffer. -/
theorem nru_codec_round_trip_block :
    ∃ encoded n, packDlUserData [255] { nruSn := 7, discardBlocks := some [⟨3, 2⟩] } = [255] ++ encoded ∧ 0 < n ∧
      encoded.length = n * 4 - 2 ∧
      unpackDlUserData {} encoded = some { nruSn := 7, discardBlocks := some [⟨3, 2⟩] } :=
  nru_codec_round_trip.1 [255] { nruSn := 7, discardBlocks := some [⟨3, 2⟩] }
    ⟨by decide, (fun _ h => nomatch h), by decide, by decide, by decide⟩

end RoundTrip

end OwlsRan.Nru
