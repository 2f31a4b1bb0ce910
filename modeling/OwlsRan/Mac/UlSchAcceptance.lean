import Mathlib.Data.List.Nodup
import OwlsRan.Mac.UlSchGrammar

/-!
# Which PDUs are unpacked as the grammar says

The code and the standard read the same subPDUs until an LCID comes whose size they do not agree on.
-/

namespace OwlsRan.Mac
open OwlsRan.Lib

section Bsr

variable {format : BsrFormat} {bitmap : UInt8} {i : Fin MAX_NOF_LCGS} {is : List (Fin MAX_NOF_LCGS)} {r r' : ByteReader}
  {report list : List LcgBsrReport} {payload : List UInt8}

def LcgBit (bitmap : UInt8) (i : Fin MAX_NOF_LCGS) : Prop := bitmap.toNat &&& (0x1 <<< i.val) ≠ 0

lemma decodeLcg_reports (h : decodeLcg format bitmap i r = .ok (report, r')) :
    report.map (·.lcgId) = [i] ∨ (report = [] ∧ ¬LcgBit bitmap i) := by
  unfold decodeLcg at h
  split at h
  case isTrue hbit =>
    split at h
    case isTrue hlength =>
      obtain ⟨⟨b, r₁⟩, -, h⟩ := bind_eq_ok.mp h
      obtain ⟨-, -, h⟩ := bind_eq_ok.mp h
      obtain ⟨rfl, -⟩ := Prod.mk.inj (Except.ok.inj h)
      exact Or.inl rfl
    case isFalse hlength =>
      split at h
      · obtain ⟨rfl, -⟩ := Prod.mk.inj (Except.ok.inj h)
        exact Or.inl rfl
      · cases h
  case isFalse hbit =>
    split at h
    · obtain ⟨rfl, -⟩ := Prod.mk.inj (Except.ok.inj h)
      exact Or.inl rfl
    · obtain ⟨rfl, -⟩ := Prod.mk.inj (Except.ok.inj h)
      exact Or.inr ⟨rfl, hbit⟩

lemma decodeLcg_ne_pastEnd : decodeLcg format bitmap i r ≠ .error .pastEnd := by
  unfold decodeLcg
  split
  · split
    case isTrue hlength =>
      obtain ⟨b, r, rfl⟩ := List.exists_cons_of_length_pos hlength
      by_cases hvalid : b.toNat ≠ 255
      · simp only [ByteReader.next, rejectUnless, bind, Except.bind, if_pos hvalid]
        exact fun h => nomatch h
      · simp only [ByteReader.next, rejectUnless, bind, Except.bind, if_neg hvalid]
        exact fun h => nomatch h
    case isFalse => split <;> simp
  · split <;> simp

lemma decodeLcgs_reports (h : decodeLcgs format bitmap is r = .ok list) :
    (list.map (·.lcgId)).Sublist is ∧ ∀ i ∈ is, LcgBit bitmap i → i ∈ list.map (·.lcgId) := by
  induction is generalizing r list with
  | nil =>
    obtain rfl := Except.ok.inj h
    exact ⟨List.Sublist.refl [], fun i hi => absurd hi List.not_mem_nil⟩
  | cons i is ih =>
    obtain ⟨⟨report, r₁⟩, hlcg, h⟩ := bind_eq_ok.mp h
    obtain ⟨list', htail, h⟩ := bind_eq_ok.mp h
    obtain rfl := Except.ok.inj h
    obtain ⟨hsub, hall⟩ := ih htail
    rw [List.map_append]
    rcases decodeLcg_reports hlcg with hreport | ⟨rfl, hbit⟩
    · rw [hreport]
      refine ⟨hsub.cons_cons i, fun j hj hb => ?_⟩
      exact (List.mem_cons.mp hj).elim (fun he => he ▸ List.mem_cons_self) fun hj => List.mem_cons_of_mem i (hall j hj hb)
    · refine ⟨hsub.cons i, fun j hj hb => ?_⟩
      exact (List.mem_cons.mp hj).elim (fun he => absurd (he ▸ hb) hbit) fun hj => hall j hj hb

lemma decodeLcgs_ne_pastEnd : decodeLcgs format bitmap is r ≠ .error .pastEnd := by
  induction is generalizing r with
  | nil => exact fun h => nomatch h
  | cons i is ih =>
    rw [decodeLcgs]
    cases hlcg : decodeLcg format bitmap i r with
    | error e =>
      intro h
      obtain rfl := Except.error.inj h
      exact decodeLcg_ne_pastEnd hlcg
    | ok res =>
      cases htail : decodeLcgs format bitmap is res.2 with
      | error e =>
        intro h
        simp only [bind, Except.bind, htail] at h
        obtain rfl := Except.error.inj h
        exact ih htail
      | ok list' =>
        intro h
        simp only [bind, Except.bind, htail] at h
        cases h

/-- A Long BSR is read beyond its end exactly when it is empty. -/
theorem decodeLbsr_pastEnd_iff : decodeLbsr format payload = .error .pastEnd ↔ payload = [] := by
  cases payload with
  | nil => exact ⟨fun _ => rfl, fun _ => rfl⟩
  | cons bitmap r =>
    simp only [decodeLbsr, ByteReader.next, bind, Except.bind, reduceCtorEq, iff_false]
    split
    · exact fun h => nomatch h
    · exact decodeLcgs_ne_pastEnd

/-- A decoded Long BSR has one report for each bit of its bitmap. -/
theorem decodeLbsr_one_report (h : decodeLbsr format (bitmap :: r) = .ok list) (hbit : LcgBit bitmap i) :
    (list.map (·.lcgId)).count i = 1 := by
  have hne : bitmap ≠ 0 := by
    rintro rfl
    exact hbit (Nat.zero_and _)
  simp only [decodeLbsr, ByteReader.next, bind, Except.bind, hne, if_false] at h
  obtain ⟨hsub, hall⟩ := decodeLcgs_reports h
  exact List.count_eq_one_of_mem (hsub.nodup (List.nodup_finRange _)) (hall i (List.mem_finRange i) hbit)

end Bsr

section Pdu

variable {sizes sizes' : CeSizes} {x : MacUlSchSubPdu} {xs ys : List MacUlSchSubPdu} {bs rest : List UInt8}

def Tiled (xs : List MacUlSchSubPdu) (bs : List UInt8) : Prop :=
  ∃ headers : List (List UInt8), headers.map (·.length) = xs.map (·.headerLength) ∧
    bs = (List.zipWith (fun header x => header ++ x.payload) headers xs).flatten

lemma frames_tiled (h : Frames (UlSubPdu sizes) xs bs []) : Tiled xs bs := by
  generalize hrest : ([] : List UInt8) = rest at h
  induction h with
  | nil bs => exact ⟨[], rfl, hrest.symm⟩
  | cons hcut htail ih =>
    obtain ⟨header, hheader, -, rfl⟩ := hcut.bytes
    obtain ⟨headers, hheaders, rfl⟩ := ih hrest
    exact ⟨header :: headers, by rw [List.map_cons, List.map_cons, hheader, hheaders], rfl⟩

lemma UlSubPdu.mono (h : UlSubPdu sizes x bs rest) (hsizes : sizes x.lcid ≠ none → sizes' x.lcid = sizes x.lcid) :
    UlSubPdu sizes' x bs rest := by
  cases h with
  | short _ hlcid hf hlen => exact UlSubPdu.short rest hlcid hf hlen
  | long _ hlcid hf hlen => exact UlSubPdu.long rest hlcid hf hlen
  | fixed _ hlcid hlen =>
    refine UlSubPdu.fixed rest hlcid ((hsizes ?_).trans hlen)
    rw [hlen]
    exact Option.some_ne_none _
  | padding _ hlcid => exact UlSubPdu.padding _ hlcid

lemma unpackLoop_cons (b : UInt8) (room : Nat) :
    unpackLoop ys (room + 1) (b :: bs) =
      match MacUlSchSubPdu.unpack (b :: bs) with
      | .error e => ⟨[], .error e⟩
      | .ok (x, r) => unpackLoop (ys ++ [x]) room r := rfl

lemma unpackLoop_of_frames {room : Nat} (h : Frames (UlSubPdu unpackedCeSizes) xs bs []) (hroom : xs.length ≤ room) :
    unpackLoop ys room bs = ⟨ys ++ xs, .ok ()⟩ := by
  induction xs generalizing ys room bs with
  | nil =>
    obtain rfl := frames_nil_iff.mp h
    rw [unpackLoop, List.append_nil]
  | cons x xs ih =>
    obtain ⟨mid, hcut, htail⟩ := frames_cons_iff.mp h
    have hread := (cutSubPdu_eq_some_iff rfl).mpr hcut
    obtain ⟨b, bs, rfl⟩ : ∃ b bs', bs = b :: bs' := by
      cases bs with
      | nil => cases hread
      | cons b bs => exact ⟨b, bs, rfl⟩
    cases room with
    | zero => cases hroom
    | succ room =>
      rcases unpack_spec (b :: bs) with ⟨y, r, hy, hunpack⟩ | ⟨hnone, -⟩
      · obtain ⟨rfl, rfl⟩ := Prod.mk.inj (Option.some.inj (hread.symm.trans hy))
        rw [unpackLoop_cons, hunpack]
        simp only
        rw [ih htail (Nat.le_of_succ_le_succ hroom), List.append_assoc]
        rfl
      · rw [hread] at hnone
        cases hnone

lemma unpackLoop_spec (ys : List MacUlSchSubPdu) (room : Nat) (bs : List UInt8) :
    (∃ xs rest, unpackLoop ys room bs = ⟨ys ++ xs, .ok ()⟩ ∧ Frames (UlSubPdu unpackedCeSizes) xs bs rest ∧
        (rest = [] ∨ xs.length = room)) ∨
      ∃ cause, unpackLoop ys room bs = ⟨[], .error (.failed cause)⟩ := by
  induction room generalizing ys bs with
  | zero =>
    refine Or.inl ⟨[], bs, ?_, Frames.nil bs, Or.inr rfl⟩
    rw [List.append_nil]
    cases bs <;> rfl
  | succ room ih =>
    cases bs with
    | nil =>
      refine Or.inl ⟨[], [], ?_, Frames.nil [], Or.inl rfl⟩
      rw [List.append_nil]
      rfl
    | cons b bs =>
      rcases unpack_spec (b :: bs) with ⟨x, r, hx, hunpack⟩ | ⟨-, cause, hunpack⟩
      · have hcut := (cutSubPdu_eq_some_iff rfl).mp hx
        rw [unpackLoop_cons, hunpack]
        rcases ih (ys ++ [x]) r with ⟨xs, rest, hloop, hframes, hend⟩ | ⟨cause, hloop⟩
        · refine Or.inl ⟨x :: xs, rest, ?_, Frames.cons hcut hframes, hend.imp_right (congrArg (· + 1))⟩
          simp only
          rw [hloop, List.append_assoc]
          rfl
        · exact Or.inr ⟨cause, hloop⟩
      · refine Or.inr ⟨cause, ?_⟩
        rw [unpackLoop_cons, hunpack]

def BelowLimit (bs : List UInt8) : Prop :=
  ∀ xs rest, Frames (UlSubPdu unpackedCeSizes) xs bs rest → xs.length = MAX_SUBPDUS_PER_PDU → rest = []

lemma belowLimit_of_length (h : bs.length < MAX_SUBPDUS_PER_PDU) : BelowLimit bs := by
  intro xs rest hframes hlen
  have hle := (ulSubPdu_format rfl).length_frames hframes
  omega

/-- Below the limit, `unpack` accepts the sequences of subPDUs of its own table. -/
theorem unpack_eq_ok_iff (hlimit : BelowLimit bs) :
    MacUlSchPdu.unpack bs = ⟨xs, .ok ()⟩ ↔ Frames (UlSubPdu unpackedCeSizes) xs bs [] := by
  constructor
  · intro h
    rcases unpackLoop_spec [] MAX_SUBPDUS_PER_PDU bs with ⟨ys, rest, hloop, hframes, hend⟩ | ⟨cause, hloop⟩
    · obtain ⟨hys, -⟩ := MacUlSchPdu.mk.inj (hloop.symm.trans h)
      obtain rfl : ys = xs := hys
      obtain rfl : rest = [] := hend.elim id (hlimit ys rest hframes)
      exact hframes
    · cases hloop.symm.trans h
  · intro h
    refine unpackLoop_of_frames h ?_
    by_contra hlong
    -- The first subPDUs would fill the list, and others would follow.
    have hsplit := List.take_append_drop MAX_SUBPDUS_PER_PDU xs
    rw [← hsplit] at h
    obtain ⟨mid, hfirst, hothers⟩ := frames_append_iff.mp h
    have hmid := hlimit _ mid hfirst (List.length_take_of_le (by omega))
    subst hmid
    have hle := (ulSubPdu_format rfl).length_frames hothers
    rw [List.length_drop] at hle
    simp only [List.length_nil] at hle
    omega

end Pdu

section Conformance

variable {x : MacUlSchSubPdu} {xs : List MacUlSchSubPdu} {bs rest : List UInt8}

/-- What unpacking should be: `unpack` accepts the sequences of subPDUs of the standard, delimits them without gaps, keeps
nothing when it fails, and the Long BSRs that it delimits are decoded from their own bytes. -/
structure Conforms (bs : List UInt8) : Prop where
  accepts : ∀ xs, MacUlSchPdu.unpack bs = ⟨xs, .ok ()⟩ ↔ Frames (UlSubPdu standardCeSizes) xs bs []
  tiles : ∀ xs, MacUlSchPdu.unpack bs = ⟨xs, .ok ()⟩ → Tiled xs bs
  discards : ∀ e, (MacUlSchPdu.unpack bs).ret = .error e → (MacUlSchPdu.unpack bs).subPdus = [] ∧ e ≠ .pastEnd
  decodes : ∀ xs, MacUlSchPdu.unpack bs = ⟨xs, .ok ()⟩ → ∀ x ∈ xs, ∀ format, longBsrFormat x.lcid = some format →
    decodeLbsr format x.payload ≠ .error .pastEnd ∧
      ∀ bitmap r list i, x.payload = bitmap :: r → decodeLbsr format x.payload = .ok list → LcgBit bitmap i →
        (list.map (·.lcgId)).count i = 1

/-- LCIDs that the code takes for empty control elements: the recommended bit rate query, and three that
`lcid_ul_sch_t` does not have. -/
def Misread (lcid : LcidUlSch) : Prop := 53 ≤ lcid.val ∧ lcid.val ≤ 56

instance (lcid : LcidUlSch) : Decidable (Misread lcid) := inferInstanceAs (Decidable (_ ∧ _))

def sharedCeSizes : CeSizes := fun lcid => if Misread lcid then none else standardCeSizes lcid

/-- Where the first misread LCID is reached, the rest of the PDU is malformed: when the code goes on right after the
header, and for a bit rate query also when the standard goes on two octets later. -/
def MalformedWhenMisread (bs : List UInt8) : Prop :=
  ∀ xs header tail, Frames (UlSubPdu sharedCeSizes) xs bs (header :: tail) → Misread (headerLcid header) →
    (¬∃ ys, Frames (UlSubPdu unpackedCeSizes) ys tail []) ∧
      (headerLcid header = .BIT_RATE_QUERY →
        ¬∃ rate rest ys, rate.length = 2 ∧ tail = rate ++ rest ∧ Frames (UlSubPdu standardCeSizes) ys rest [])

def NoEmptyLongBsr (bs : List UInt8) : Prop :=
  ∀ xs, Frames (UlSubPdu standardCeSizes) xs bs [] → ∀ x ∈ xs, longBsrFormat x.lcid ≠ none → x.payload ≠ []

lemma shared_eq_standard : ∀ lcid : LcidUlSch, ¬Misread lcid → sharedCeSizes lcid = standardCeSizes lcid := by decide

lemma shared_eq_unpacked : ∀ lcid : LcidUlSch, ¬Misread lcid → sharedCeSizes lcid = unpackedCeSizes lcid := by decide

lemma shared_eq_none : ∀ lcid : LcidUlSch, Misread lcid → sharedCeSizes lcid = none := by decide

lemma misread_kind : ∀ lcid : LcidUlSch, Misread lcid → ¬HasLengthField lcid ∧ lcid ≠ .PADDING ∧
    unpackedCeSizes lcid = some 0 ∧ standardCeSizes lcid = if lcid = .BIT_RATE_QUERY then some 2 else none := by decide

lemma Frames.shared_mono {sizes : CeSizes} (h : Frames (UlSubPdu sharedCeSizes) xs bs rest)
    (hsizes : ∀ lcid, ¬Misread lcid → sharedCeSizes lcid = sizes lcid) : Frames (UlSubPdu sizes) xs bs rest := by
  refine h.mono fun x _ bs rest hcut => hcut.mono fun hne => (hsizes x.lcid fun hmisread => ?_).symm
  exact hne (shared_eq_none _ hmisread)

lemma frames_shared_or_misread {sizes : CeSizes} (hsizes : ∀ lcid, ¬Misread lcid → sharedCeSizes lcid = sizes lcid)
    (h : Frames (UlSubPdu sizes) xs bs []) :
    Frames (UlSubPdu sharedCeSizes) xs bs [] ∨ ∃ pre x post mid mid', xs = pre ++ x :: post ∧
      Frames (UlSubPdu sharedCeSizes) pre bs mid ∧ Misread x.lcid ∧ UlSubPdu sizes x mid mid' ∧
        Frames (UlSubPdu sizes) post mid' [] := by
  have hshare : ∀ {ys : List MacUlSchSubPdu} {bs rest : List UInt8}, (∀ y ∈ ys, ¬Misread y.lcid) →
      Frames (UlSubPdu sizes) ys bs rest → Frames (UlSubPdu sharedCeSizes) ys bs rest :=
    fun hys hframes => hframes.mono fun y hy _ _ hcut => hcut.mono fun _ => hsizes y.lcid (hys y hy)
  rcases frames_split (fun x => ¬Misread x.lcid) h with hall | ⟨pre, x, post, mid, mid', hxs, hpre, hx, hframes, hcut, hpost⟩
  · exact Or.inl (hshare hall h)
  · exact Or.inr ⟨pre, x, post, mid, mid', hxs, hshare hpre hframes, not_not.mp hx, hcut, hpost⟩

lemma UlSubPdu.of_misread {sizes : CeSizes} (h : UlSubPdu sizes x bs rest) (hmisread : Misread x.lcid) :
    ∃ header, headerLcid header = x.lcid ∧ bs = header :: (x.payload ++ rest) ∧ sizes x.lcid = some x.payload.length := by
  obtain ⟨hlength, hpadding, -, -⟩ := misread_kind _ hmisread
  cases h with
  | short _ hlcid _ _ => exact absurd hlcid hlength
  | long _ hlcid _ _ => exact absurd hlcid hlength
  | @fixed header payload _ hlcid hlen => exact ⟨header, rfl, rfl, hlen⟩
  | padding _ hlcid => exact absurd hlcid hpadding

lemma frames_iff_of_malformed (h : MalformedWhenMisread bs) :
    Frames (UlSubPdu unpackedCeSizes) xs bs [] ↔ Frames (UlSubPdu standardCeSizes) xs bs [] := by
  constructor
  · intro hframes
    rcases frames_shared_or_misread shared_eq_unpacked hframes with
      hshared | ⟨pre, x, post, mid, mid', -, hpre, hmisread, hcut, hpost⟩
    · exact Frames.shared_mono hshared shared_eq_standard
    · obtain ⟨header, hlcid, rfl, hlen⟩ := hcut.of_misread hmisread
      rw [(misread_kind _ hmisread).2.2.1] at hlen
      obtain hnil := List.length_eq_zero_iff.mp (Option.some.inj hlen).symm
      rw [hnil, List.nil_append] at hpre
      exact absurd ⟨post, hpost⟩ (h pre header mid' hpre (hlcid ▸ hmisread)).1
  · intro hframes
    rcases frames_shared_or_misread shared_eq_standard hframes with
      hshared | ⟨pre, x, post, mid, mid', -, hpre, hmisread, hcut, hpost⟩
    · exact Frames.shared_mono hshared shared_eq_unpacked
    · obtain ⟨header, hlcid, rfl, hlen⟩ := hcut.of_misread hmisread
      rw [(misread_kind _ hmisread).2.2.2] at hlen
      split at hlen
      case isTrue hquery =>
        have hrate : x.payload.length = 2 := (Option.some.inj hlen).symm
        exact absurd ⟨x.payload, mid', post, hrate, rfl, hpost⟩
          ((h pre header _ hpre (hlcid ▸ hmisread)).2 (hlcid.trans hquery))
      case isFalse => cases hlen

lemma malformed_of_frames_iff
    (h : ∀ xs, Frames (UlSubPdu unpackedCeSizes) xs bs [] ↔ Frames (UlSubPdu standardCeSizes) xs bs []) :
    MalformedWhenMisread bs := by
  intro xs header tail hpre hmisread
  obtain ⟨hlength, -, hunpacked, hstandard⟩ := misread_kind _ hmisread
  have hpreC := Frames.shared_mono hpre shared_eq_unpacked
  have hpreG := Frames.shared_mono hpre shared_eq_standard
  -- Both cut off a subPDU at the misread LCID, with payloads of different lengths.
  have hclash : ∀ x y ys zs rest rest', UlSubPdu unpackedCeSizes x (header :: tail) rest →
      UlSubPdu standardCeSizes y (header :: tail) rest' → xs ++ x :: ys = xs ++ y :: zs → False := by
    intro x y ys zs rest rest' hx hy heq
    obtain ⟨rfl, -⟩ := List.cons.inj (List.append_cancel_left heq)
    have hlcid : x.lcid = headerLcid header := by
      cases hx <;> rfl
    rw [← hlcid] at hmisread hunpacked hstandard
    obtain ⟨-, -, -, hlen⟩ := hx.of_misread hmisread
    obtain ⟨-, -, -, hlen'⟩ := hy.of_misread hmisread
    rw [hunpacked] at hlen
    rw [hstandard, ← Option.some.inj hlen] at hlen'
    split at hlen' <;> cases hlen'
  constructor
  · rintro ⟨ys, hys⟩
    have hcut : UlSubPdu unpackedCeSizes ⟨headerLcid header, 1, headerF header, []⟩ (header :: tail) tail :=
      @UlSubPdu.fixed unpackedCeSizes header [] tail hlength hunpacked
    have hall := frames_append_iff.mpr ⟨_, hpreC, Frames.cons hcut hys⟩
    have hrest := (ulSubPdu_format rfl).frames_tail hpreG ((h _).mp hall)
    obtain ⟨mid, hcut', -⟩ := frames_cons_iff.mp hrest
    exact hclash _ _ ys ys _ _ hcut hcut' rfl
  · rintro hquery ⟨rate, rest, ys, hrate, rfl, hys⟩
    rw [if_pos hquery, ← hrate] at hstandard
    have hcut : UlSubPdu standardCeSizes ⟨headerLcid header, 1, headerF header, rate⟩ (header :: (rate ++ rest)) rest :=
      UlSubPdu.fixed rest hlength hstandard
    have hall := frames_append_iff.mpr ⟨_, hpreG, Frames.cons hcut hys⟩
    have hrest := (ulSubPdu_format rfl).frames_tail hpreC ((h _).mpr hall)
    obtain ⟨mid, hcut', -⟩ := frames_cons_iff.mp hrest
    exact hclash _ _ ys ys _ _ hcut' hcut rfl

/-- Below the limit of subPDUs, a PDU is unpacked as the grammar says exactly when it is malformed where a misread LCID is
reached, and has no empty Long BSR. -/
theorem conforms_iff (bs : List UInt8) (hlimit : BelowLimit bs) :
    Conforms bs ↔ MalformedWhenMisread bs ∧ NoEmptyLongBsr bs := by
  constructor
  · intro h
    refine ⟨malformed_of_frames_iff fun xs => (unpack_eq_ok_iff hlimit).symm.trans (h.accepts xs), ?_⟩
    intro xs hxs x hx hformat hempty
    obtain ⟨format, hformat⟩ := Option.ne_none_iff_exists'.mp hformat
    exact (h.decodes xs ((h.accepts xs).mpr hxs) x hx format hformat).1 (decodeLbsr_pastEnd_iff.mpr hempty)
  · rintro ⟨hmalformed, hbsr⟩
    have haccepts : ∀ xs, MacUlSchPdu.unpack bs = ⟨xs, .ok ()⟩ ↔ Frames (UlSubPdu standardCeSizes) xs bs [] :=
      fun xs => (unpack_eq_ok_iff hlimit).trans (frames_iff_of_malformed hmalformed)
    refine ⟨haccepts, fun xs hxs => frames_tiled ((haccepts xs).mp hxs), ?_, ?_⟩
    · intro e he
      rcases unpackLoop_spec [] MAX_SUBPDUS_PER_PDU bs with ⟨xs, rest, hloop, -⟩ | ⟨cause, hloop⟩
      · rw [MacUlSchPdu.unpack, hloop] at he
        cases he
      · rw [MacUlSchPdu.unpack, hloop] at he ⊢
        obtain rfl := Except.error.inj he
        exact ⟨rfl, fun hpast => nomatch hpast⟩
    · intro xs hxs x hx format hformat
      have hne : x.payload ≠ [] := hbsr xs ((haccepts xs).mp hxs) x hx (by rw [hformat]; exact Option.some_ne_none _)
      refine ⟨fun hpast => hne (decodeLbsr_pastEnd_iff.mp hpast), ?_⟩
      intro bitmap r list i hpayload hdecode hbit
      rw [hpayload] at hdecode
      exact decodeLbsr_one_report hdecode hbit

/-- A Short BSR and padding. -/
theorem conforms_iff_short_bsr :
    Conforms [61, 0x25, 63, 0] ↔ MalformedWhenMisread [61, 0x25, 63, 0] ∧ NoEmptyLongBsr [61, 0x25, 63, 0] :=
  conforms_iff [61, 0x25, 63, 0] (belowLimit_of_length (by decide))

/-- A recommended bit rate query is rejected, since its two octets are taken for a CCCH SDU. An empty Long BSR is accepted,
and its bitmap is read beyond its end. -/
theorem bit_rate_query_and_empty_bsr_misread :
    (Frames (UlSubPdu standardCeSizes) [⟨.BIT_RATE_QUERY, 1, false, [0, 0]⟩] [53, 0, 0] [] ∧
        ¬(MacUlSchPdu.unpack [53, 0, 0]).ret.isOk) ∧
      MacUlSchPdu.unpack [62, 0] = ⟨[⟨.LONG_BSR, 2, false, []⟩], .ok ()⟩ ∧
        decodeLbsr .LONG_BSR [] = .error .pastEnd ∧ ¬Conforms [53, 0, 0] ∧ ¬Conforms [62, 0] := by
  have hquery : Frames (UlSubPdu standardCeSizes) [⟨.BIT_RATE_QUERY, 1, false, [0, 0]⟩] [53, 0, 0] [] :=
    Frames.cons (@UlSubPdu.fixed standardCeSizes 53 [0, 0] [] (by decide) (by decide)) (Frames.nil [])
  have hrejected : ¬(MacUlSchPdu.unpack [53, 0, 0]).ret.isOk := by decide +kernel
  have hempty : MacUlSchPdu.unpack [62, 0] = ⟨[⟨.LONG_BSR, 2, false, []⟩], .ok ()⟩ := by decide +kernel
  refine ⟨⟨hquery, hrejected⟩, hempty, rfl, fun h => ?_, fun h => ?_⟩
  · rw [(h.accepts _).mpr hquery] at hrejected
    exact hrejected rfl
  · exact (h.decodes _ hempty _ List.mem_cons_self .LONG_BSR rfl).1 rfl

end Conformance

end OwlsRan.Mac
