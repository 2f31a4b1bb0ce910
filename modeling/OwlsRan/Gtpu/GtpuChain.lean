import OwlsRan.Gtpu.GtpuRoundTrip
import OwlsRan.Lib.FrameSequence

/-!
# Chains of extension headers

A chain is read with the octet that says the type of the next header in front.
-/

namespace OwlsRan.Gtpu
open OwlsRan.Lib OwlsRan.Support GtpuExtensionHeaderType

section Chain

/-- An extension header with all the octets that its length octet announces, one unit of four at least, and the octet
that says the type of the next one. -/
inductive ExtensionCut : GtpuExtensionHeader → List UInt8 → List UInt8 → Prop
  | mk {type : GtpuExtensionHeaderType} {length : UInt8} {container rest : List UInt8}
      (htype : type ≠ noMoreExtensionHeaders) (hlen : length.toNat * 4 = container.length + 2) (hrest : rest ≠ []) :
    ExtensionCut ⟨type, container⟩ (type :: length :: (container ++ rest)) rest

/-- After the type of an extension header, there is no length octet, fewer octets than it says, or not the next type, or
the length octet is zero, which stands for 65534 octets. The chain is read on at the second list. -/
inductive Misread : List UInt8 → List UInt8 → Prop
  | noLength : Misread [] []
  | short {length : UInt8} {bs : List UInt8} (h : bs.length < announced length) : Misread (length :: bs) bs
  | noNext {length : UInt8} {bs : List UInt8} (h : bs.length = announced length) : Misread (length :: bs) []
  | zero {bs : List UInt8} (h : announced 0 < bs.length) : Misread (0 :: bs) (bs.drop (announced 0))

def LenientCut (type : GtpuExtensionHeaderType) (bs rest : List UInt8) : Prop :=
  type ≠ noMoreExtensionHeaders ∧ ((∃ container, ExtensionCut ⟨type, container⟩ bs rest) ∨
    ∃ tail, bs = type :: tail ∧ Misread tail rest)

variable {ext : GtpuExtensionHeader} {exts : List GtpuExtensionHeader} {types : List GtpuExtensionHeaderType}
  {type : GtpuExtensionHeaderType} {bs rest out tail : List UInt8} {passed : Nat}

theorem extensionCut_format : FrameFormat ExtensionCut := by
  refine ⟨?_, ?_⟩
  · intro x y bs rest rest' h h'
    cases h with
    | @mk type length container _ htype hlen hrest =>
      generalize hbs : type :: length :: (container ++ rest) = bs at h'
      cases h' with
      | @mk type' length' container' _ htype' hlen' hrest' =>
        simp only [List.cons.injEq] at hbs
        obtain ⟨rfl, rfl, hbs⟩ := hbs
        obtain ⟨rfl, rfl⟩ := List.append_inj hbs (by omega)
        exact ⟨rfl, rfl⟩
  · intro x bs rest h
    cases h with
    | mk htype hlen hrest =>
      simp only [List.length_cons, List.length_append]
      omega

lemma extensionCut_or_misread (htype : type ≠ noMoreExtensionHeaders) (bs : List UInt8) :
    (∃ container rest, ExtensionCut ⟨type, container⟩ (type :: bs) rest) ∨ ∃ rest, Misread bs rest := by
  cases bs with
  | nil => exact Or.inr ⟨[], Misread.noLength⟩
  | cons length bs =>
    rcases Nat.lt_trichotomy bs.length (announced length) with hlt | heq | hgt
    · exact Or.inr ⟨bs, Misread.short hlt⟩
    · exact Or.inr ⟨[], Misread.noNext heq⟩
    · by_cases hzero : length = 0
      · subst hzero
        exact Or.inr ⟨_, Misread.zero hgt⟩
      · have hpos : length.toNat ≠ 0 := fun h => hzero (UInt8.toNat_inj.mp h)
        have hlen : length.toNat * 4 = announced length + 2 := by
          have hcases := announced_cases length
          omega
        have htake : (bs.take (announced length)).length = announced length := List.length_take_of_le (by omega)
        have hdrop : bs.drop (announced length) ≠ [] := by
          intro h
          have := congrArg List.length h
          rw [List.length_drop, List.length_nil] at this
          omega
        have hcut := @ExtensionCut.mk type length (bs.take (announced length)) (bs.drop (announced length)) htype
          (by rw [htake]; exact hlen) hdrop
        rw [List.take_append_drop] at hcut
        exact Or.inl ⟨_, _, hcut⟩

lemma not_misread_of_extensionCut (h : ExtensionCut ext (type :: bs) rest) : ¬Misread bs out := by
  generalize hcons : type :: bs = cs at h
  cases h with
  | @mk type' length container _ htype hlen hrest =>
    obtain ⟨rfl, rfl⟩ := List.cons.inj hcons
    have hannounced := announced_eq hlen
    have hpos : 0 < rest.length := List.length_pos_iff.mpr hrest
    intro hmis
    generalize hbs : length :: (container ++ rest) = cs at hmis
    cases hmis with
    | noLength => cases hbs
    | short hlt =>
      obtain ⟨rfl, rfl⟩ := List.cons.inj hbs
      rw [List.length_append] at hlt
      omega
    | noNext heq =>
      obtain ⟨rfl, rfl⟩ := List.cons.inj hbs
      rw [List.length_append] at heq
      omega
    | zero hgt =>
      obtain ⟨rfl, -⟩ := List.cons.inj hbs
      have hzero : (0 : UInt8).toNat = 0 := rfl
      omega

end Chain

section Reader

variable {types : List GtpuExtensionHeaderType} {type : GtpuExtensionHeaderType} {bs rest out tail : List UInt8}
  {container : List UInt8} {passed : Nat}

lemma readType (bs : List UInt8) (passed : Nat) :
    ∃ passed', gtpuUnpackExtHeaderType ⟨bs, 0, passed⟩ = (bs.headD noMoreExtensionHeaders, ⟨bs.tail, 0, passed'⟩) := by
  cases bs with
  | nil => exact ⟨passed, rfl⟩
  | cons b bs => exact ⟨passed + 1, unpackExtHeaderType_eq b⟩

lemma view_short {n : Nat} (h : bs.length < n) (passed : Nat) :
    (BitDecoder.mk bs 0 passed).unpackAlignedBytes n = ([], ⟨bs, 0, passed⟩) := by
  simp only [BitDecoder.unpackAlignedBytes, BitDecoder.alignBytes, ne_eq, not_true, if_false]
  rw [if_neg (by omega), if_pos h]

lemma view_long {n : Nat} (hpos : n ≠ 0) (h : n ≤ bs.length) (passed : Nat) :
    (BitDecoder.mk bs 0 passed).unpackAlignedBytes n = (bs.take n, ⟨bs.drop n, 0, passed + n⟩) := by
  simp only [BitDecoder.unpackAlignedBytes, BitDecoder.alignBytes, ne_eq, not_true, if_false]
  rw [if_neg hpos, if_neg (Nat.not_lt.mpr h)]

lemma announced_ne_zero (length : UInt8) : announced length ≠ 0 := by
  have hcases := announced_cases length
  omega

lemma readExtHeader_of_cut (h : ExtensionCut ⟨type, container⟩ (type :: bs) rest) (passed : Nat) :
    ∃ passed', gtpuReadExtHeader ⟨bs, 0, passed⟩ =
      (container, rest.headD noMoreExtensionHeaders, ⟨rest.tail, 0, passed'⟩) := by
  cases h with
  | mk htype hlen hrest =>
    obtain ⟨next, rest, rfl⟩ := List.exists_cons_of_ne_nil hrest
    exact ⟨_, readExtHeader_eq hlen next⟩

lemma readExtHeader_of_misread (h : Misread bs out) (passed : Nat) :
    ∃ container passed', gtpuReadExtHeader ⟨bs, 0, passed⟩ =
      (container, out.headD noMoreExtensionHeaders, ⟨out.tail, 0, passed'⟩) := by
  cases h with
  | noLength => exact ⟨[], passed, rfl⟩
  | @short length _ hlt =>
    obtain ⟨passed', hnext⟩ := readType out (passed + 1)
    exact ⟨[], passed', readExtHeader_cons (view_short hlt _) hnext⟩
  | @noNext length bs heq =>
    obtain ⟨passed', hnext⟩ := readType (bs.drop (announced length)) (passed + 1 + announced length)
    refine ⟨bs.take (announced length), passed', ?_⟩
    rw [readExtHeader_cons (view_long (announced_ne_zero length) (Nat.le_of_eq heq.symm) _) hnext, ← heq, List.drop_length]
  | @zero bs hgt =>
    obtain ⟨passed', hnext⟩ := readType (bs.drop (announced 0)) (passed + 1 + announced 0)
    exact ⟨bs.take (announced 0), passed', readExtHeader_cons (view_long (announced_ne_zero 0) (Nat.le_of_lt hgt) _) hnext⟩

/-- The code reads a chain to its end in just these ways: header after header, misread or not, all of types that it
comprehends and no more of them than it has space for. -/
theorem readExtensions_isSome_iff (room : Nat) (htype : type ≠ noMoreExtensionHeaders) (passed : Nat) :
    (∃ r, gtpuReadExtensions room type ⟨tail, 0, passed⟩ = some r) ↔
      ∃ types rest, Frames LenientCut types (type :: tail) rest ∧
        rest.headD noMoreExtensionHeaders = noMoreExtensionHeaders ∧ types.length ≤ room ∧
        ∀ t ∈ types, gtpuExtensionHeaderComprehensionCheck t = true := by
  induction room generalizing type tail passed with
  | zero =>
    constructor
    · rintro ⟨r, hr⟩
      cases hr
    · rintro ⟨types, rest, hframes, hend, hlen, -⟩
      obtain rfl := List.length_eq_zero_iff.mp (Nat.le_zero.mp hlen)
      obtain rfl := frames_nil_iff.mp hframes
      exact absurd hend htype
  | succ room ih =>
    constructor
    · rintro ⟨r, hr⟩
      obtain ⟨container, out, passed', hread, hcut⟩ : ∃ container out passed', gtpuReadExtHeader ⟨tail, 0, passed⟩ =
          (container, out.headD noMoreExtensionHeaders, ⟨out.tail, 0, passed'⟩) ∧ LenientCut type (type :: tail) out := by
        rcases extensionCut_or_misread htype tail with ⟨container, out, hcut⟩ | ⟨out, hmis⟩
        · obtain ⟨passed', hread⟩ := readExtHeader_of_cut hcut passed
          exact ⟨container, out, passed', hread, htype, Or.inl ⟨container, hcut⟩⟩
        · obtain ⟨container, passed', hread⟩ := readExtHeader_of_misread hmis passed
          exact ⟨container, out, passed', hread, htype, Or.inr ⟨tail, rfl, hmis⟩⟩
      rw [readExtensions_succ hread] at hr
      split at hr
      case isFalse => cases hr
      case isTrue hcomp =>
        split at hr
        case isTrue hend =>
          refine ⟨[type], out, Frames.cons hcut (Frames.nil out), hend, Nat.le_add_left 1 room, ?_⟩
          exact fun t ht => (List.mem_singleton.mp ht) ▸ hcomp
        case isFalse hmore =>
          obtain ⟨r', hr', -⟩ := Option.map_eq_some_iff.mp hr
          obtain ⟨types, rest, hframes, hend, hlen, hall⟩ := (ih hmore passed').mp ⟨r', hr'⟩
          have hout : out.headD noMoreExtensionHeaders :: out.tail = out := by
            cases out with
            | nil => exact absurd rfl hmore
            | cons next out => rfl
          rw [hout] at hframes
          refine ⟨type :: types, rest, Frames.cons hcut hframes, hend, Nat.succ_le_succ hlen, ?_⟩
          exact fun t ht => (List.mem_cons.mp ht).elim (fun he => he ▸ hcomp) (hall t)
    · rintro ⟨types, rest, hframes, hend, hlen, hall⟩
      cases hframes with
      | nil => exact absurd hend htype
      | @cons t types _ out _ hcut htail =>
        obtain ⟨container, passed', hread, rfl⟩ : ∃ container passed', gtpuReadExtHeader ⟨tail, 0, passed⟩ =
            (container, out.headD noMoreExtensionHeaders, ⟨out.tail, 0, passed'⟩) ∧ t = type := by
          rcases hcut.2 with ⟨container, hwell⟩ | ⟨tail', htail', hmis⟩
          · have ht : t = type := by
              generalize hcons : type :: tail = cs at hwell
              cases hwell with
              | mk _ _ _ => exact (List.cons.inj hcons).1.symm
            subst ht
            obtain ⟨passed', hread⟩ := readExtHeader_of_cut hwell passed
            exact ⟨container, passed', hread, rfl⟩
          · obtain ⟨rfl, rfl⟩ := List.cons.inj htail'
            obtain ⟨container, passed', hread⟩ := readExtHeader_of_misread hmis passed
            exact ⟨container, passed', hread, rfl⟩
        have hcomp := hall t List.mem_cons_self
        rw [readExtensions_succ hread, if_pos hcomp]
        by_cases hmore : out.headD noMoreExtensionHeaders = noMoreExtensionHeaders
        · rw [if_pos hmore]
          exact ⟨_, rfl⟩
        · have hout : out.headD noMoreExtensionHeaders :: out.tail = out := by
            cases out with
            | nil => exact absurd rfl hmore
            | cons next out => rfl
          have hothers : ∃ r, gtpuReadExtensions room (out.headD noMoreExtensionHeaders) ⟨out.tail, 0, passed'⟩ = some r := by
            refine (ih hmore passed').mpr ⟨types, rest, ?_, hend, Nat.le_of_succ_le_succ hlen, ?_⟩
            · rw [hout]
              exact htail
            · exact fun t' ht' => hall t' (List.mem_cons_of_mem _ ht')
          obtain ⟨r, hr⟩ := hothers
          rw [if_neg hmore, hr]
          exact ⟨_, rfl⟩

end Reader

section Acceptance

variable {pdu : List UInt8}

def ExtensionFlag (pdu : List UInt8) : Prop := (gtpuUnpackBaseHeader (.ofBytes pdu)).1.flags.extHdr = true

/-- The checks before the extension headers: the optional fields are there, the flags are supported and the length is the
one in the header. -/
def BaseAccepted (pdu : List UInt8) : Prop :=
  GTPU_EXTENDED_HEADER_LEN ≤ pdu.length ∧ gtpuSupportedFlagsCheck (gtpuUnpackBaseHeader (.ofBytes pdu)).1 = true ∧
    (gtpuUnpackBaseHeader (.ofBytes pdu)).1.length = .ofNat (pdu.length - GTPU_BASE_HEADER_LEN)

lemma pdu_eq_fields (h : 12 ≤ pdu.length) :
    ∃ (flags type : UInt8) (length teid seq : Nat) (nPdu next : UInt8) (tail : List UInt8),
      pdu = flags :: type :: (bigEndian 2 length ++ (bigEndian 4 teid ++ (bigEndian 2 seq ++ nPdu :: next :: tail))) := by
  match pdu, h with
  | b₀ :: b₁ :: b₂ :: b₃ :: b₄ :: b₅ :: b₆ :: b₇ :: b₈ :: b₉ :: b₁₀ :: b₁₁ :: tail, _ =>
    obtain ⟨length, -, hlength⟩ := exists_bigEndian [b₂, b₃]
    obtain ⟨teid, -, hteid⟩ := exists_bigEndian [b₄, b₅, b₆, b₇]
    obtain ⟨seq, -, hseq⟩ := exists_bigEndian [b₈, b₉]
    refine ⟨b₀, b₁, length, teid, seq, b₁₀, b₁₁, tail, ?_⟩
    have hbytes : b₀ :: b₁ :: ([b₂, b₃] ++ ([b₄, b₅, b₆, b₇] ++ ([b₈, b₉] ++ b₁₀ :: b₁₁ :: tail))) =
        b₀ :: b₁ :: b₂ :: b₃ :: b₄ :: b₅ :: b₆ :: b₇ :: b₈ :: b₉ :: b₁₀ :: b₁₁ :: tail := rfl
    rw [← hbytes, hlength, hteid, hseq]
    rfl

lemma dissect_of_short (hflag : ExtensionFlag pdu) (h : pdu.length < 12) : gtpuDissectPdu pdu = none := by
  have hoptional : gtpuUnpackOptional pdu.length (gtpuUnpackBaseHeader (.ofBytes pdu)).1
      (gtpuUnpackBaseHeader (.ofBytes pdu)).2 = none := by
    unfold ExtensionFlag at hflag
    rw [gtpuUnpackOptional, hflag, Bool.true_or, Bool.true_or, if_pos rfl]
    exact if_pos h
  unfold gtpuDissectPdu
  simp only [hoptional, Option.bind_none, ite_self]

/-- A PDU with the E flag is accepted when its base header is, and when its chain is read to its end. -/
theorem dissect_isSome_iff (hflag : ExtensionFlag pdu) :
    (∃ d, gtpuDissectPdu pdu = some d) ↔
      BaseAccepted pdu ∧ ∃ type tail, pdu.drop 11 = type :: tail ∧ type ≠ noMoreExtensionHeaders ∧
        ∃ r, gtpuReadExtensions GTPU_MAX_NUM_HEADER_EXTENSIONS type ⟨tail, 0, 12⟩ = some r := by
  by_cases hlen : 12 ≤ pdu.length
  · obtain ⟨flags, type, length, teid, seq, nPdu, next, tail, rfl⟩ := pdu_eq_fields hlen
    have hbase := @unpackBaseHeader_eq (bigEndian 2 seq ++ nPdu :: next :: tail) flags type length teid
    have hsize : (flags :: type :: (bigEndian 2 length ++ (bigEndian 4 teid ++
        (bigEndian 2 seq ++ nPdu :: next :: tail)))).length - GTPU_BASE_HEADER_LEN =
        (bigEndian 2 seq ++ nPdu :: next :: tail).length := by
      simp only [List.length_cons, List.length_append, length_bigEndian, GTPU_BASE_HEADER_LEN]
      omega
    have hdrop : (flags :: type :: (bigEndian 2 length ++ (bigEndian 4 teid ++
        (bigEndian 2 seq ++ nPdu :: next :: tail)))).drop 11 = next :: tail := rfl
    have hext : (baseHeader flags type (.ofNat length) (.ofNat teid)).flags.extHdr = true := by
      unfold ExtensionFlag at hflag
      rw [hbase] at hflag
      exact hflag
    have hopt : ((baseHeader flags type (.ofNat length) (.ofNat teid)).flags.extHdr ||
        (baseHeader flags type (.ofNat length) (.ofNat teid)).flags.seqNumber ||
        (baseHeader flags type (.ofNat length) (.ofNat teid)).flags.nPdu) = true := by
      rw [hext]
      rfl
    have htotal : 12 ≤ 8 + (bigEndian 2 seq ++ nPdu :: next :: tail).length := by
      rw [List.length_append, length_bigEndian, List.length_cons, List.length_cons]
      omega
    have hread := @unpackOptional_eq tail (baseHeader flags type (.ofNat length) (.ofNat teid)) hopt _ htotal seq nPdu next
    have haccepted : BaseAccepted (flags :: type :: (bigEndian 2 length ++ (bigEndian 4 teid ++
        (bigEndian 2 seq ++ nPdu :: next :: tail)))) ↔
        gtpuSupportedFlagsCheck (baseHeader flags type (.ofNat length) (.ofNat teid)) = true ∧
          UInt16.ofNat length = .ofNat (bigEndian 2 seq ++ nPdu :: next :: tail).length := by
      rw [BaseAccepted, hbase, hsize]
      exact ⟨fun h => ⟨h.2.1, h.2.2⟩, fun h => ⟨hlen, h.1, h.2⟩⟩
    rw [dissect_eq, hdrop, haccepted, hread]
    by_cases hchecks : gtpuSupportedFlagsCheck (baseHeader flags type (.ofNat length) (.ofNat teid)) = true ∧
        UInt16.ofNat length = .ofNat (bigEndian 2 seq ++ nPdu :: next :: tail).length
    · rw [if_pos hchecks]
      by_cases hcomp : gtpuExtensionHeaderComprehensionCheck next = true
      · rw [if_pos hcomp, Option.bind_some]
        simp only [gtpuDissectExtensions, hext, if_true]
        by_cases hnext : next = noMoreExtensionHeaders
        · rw [if_pos hnext]
          constructor
          · rintro ⟨d, hd⟩
            cases hd
          · rintro ⟨-, t, tail', hcons, hmore, -⟩
            exact absurd ((List.cons.inj hcons).1 ▸ hnext) hmore
        · rw [if_neg hnext]
          constructor
          · rintro ⟨d, hd⟩
            obtain ⟨r, hr, -⟩ := Option.map_eq_some_iff.mp hd
            exact ⟨hchecks, next, tail, rfl, hnext, r, hr⟩
          · rintro ⟨-, t, tail', hcons, -, r, hr⟩
            obtain ⟨rfl, rfl⟩ := List.cons.inj hcons
            rw [hr]
            exact ⟨_, rfl⟩
      · rw [if_neg hcomp]
        constructor
        · rintro ⟨d, hd⟩
          cases hd
        · rintro ⟨-, t, tail', hcons, -, r, hr⟩
          obtain ⟨rfl, rfl⟩ := List.cons.inj hcons
          rw [GTPU_MAX_NUM_HEADER_EXTENSIONS, gtpuReadExtensions, if_neg hcomp] at hr
          cases hr
    · rw [if_neg hchecks]
      constructor
      · rintro ⟨d, hd⟩
        cases hd
      · exact fun h => absurd h.1 hchecks
  · rw [dissect_of_short hflag (Nat.not_le.mp hlen)]
    constructor
    · rintro ⟨d, hd⟩
      cases hd
    · rintro ⟨hbase, -⟩
      exact absurd hbase.1 hlen

def ChainInside (pdu : List UInt8) : Prop :=
  ExtensionFlag pdu → ∃ exts msg, Frames ExtensionCut exts (pdu.drop 11) (noMoreExtensionHeaders :: msg)

/-- Where the chain of a PDU reaches a header that is not well formed, the chain that is read on behind it has a type that
is not comprehended, or comes to too many headers. -/
def RefusedBehindMisread (pdu : List UInt8) : Prop :=
  ∀ exts type tail out, Frames ExtensionCut exts (pdu.drop 11) (type :: tail) → type ≠ noMoreExtensionHeaders →
    Misread tail out → ¬∃ types rest, Frames LenientCut types out rest ∧
      rest.headD noMoreExtensionHeaders = noMoreExtensionHeaders ∧
      exts.length + 1 + types.length ≤ GTPU_MAX_NUM_HEADER_EXTENSIONS ∧
      (∀ ext ∈ exts, gtpuExtensionHeaderComprehensionCheck ext.extensionHeaderType = true) ∧
      gtpuExtensionHeaderComprehensionCheck type = true ∧ ∀ t ∈ types, gtpuExtensionHeaderComprehensionCheck t = true

variable {exts : List GtpuExtensionHeader} {types : List GtpuExtensionHeaderType} {bs rest : List UInt8}

lemma ExtensionCut.cons {ext : GtpuExtensionHeader} (h : ExtensionCut ext bs rest) :
    ∃ tail, bs = ext.extensionHeaderType :: tail ∧ ext.extensionHeaderType ≠ noMoreExtensionHeaders ∧ rest ≠ [] := by
  cases h with
  | mk htype hlen hrest => exact ⟨_, rfl, htype, hrest⟩

lemma rest_ne_nil (h : Frames ExtensionCut exts bs rest) (hne : bs ≠ []) : rest ≠ [] := by
  induction h with
  | nil bs => exact hne
  | cons hcut htail ih =>
    obtain ⟨tail, -, -, hmid⟩ := hcut.cons
    exact ih hmid

lemma lenient_of_frames (h : Frames ExtensionCut exts bs rest) :
    Frames LenientCut (exts.map (·.extensionHeaderType)) bs rest := by
  induction h with
  | nil bs => exact Frames.nil bs
  | @cons ext exts bs mid rest hcut htail ih =>
    obtain ⟨tail, -, htype, -⟩ := hcut.cons
    exact Frames.cons ⟨htype, Or.inl ⟨ext.container, hcut⟩⟩ ih

lemma frames_or_misread (h : Frames LenientCut types bs rest) :
    (∃ exts, Frames ExtensionCut exts bs rest ∧ types = exts.map (·.extensionHeaderType)) ∨
      ∃ exts type tail out types', types = exts.map (·.extensionHeaderType) ++ type :: types' ∧
        Frames ExtensionCut exts bs (type :: tail) ∧ type ≠ noMoreExtensionHeaders ∧ Misread tail out ∧
        Frames LenientCut types' out rest := by
  induction h with
  | nil bs => exact Or.inl ⟨[], Frames.nil bs, rfl⟩
  | @cons type types bs mid rest hcut htail ih =>
    obtain ⟨htype, ⟨container, hwell⟩ | ⟨tail, rfl, hmis⟩⟩ := hcut
    · rcases ih with ⟨exts, hexts, rfl⟩ | ⟨exts, t, tail, out, types', rfl, hexts, ht, hmis, hothers⟩
      · exact Or.inl ⟨_, Frames.cons hwell hexts, rfl⟩
      · exact Or.inr ⟨_, t, tail, out, types', rfl, Frames.cons hwell hexts, ht, hmis, hothers⟩
    · exact Or.inr ⟨[], type, tail, mid, types, rfl, Frames.nil _, htype, hmis, htail⟩

lemma not_inside_of_misread {type : GtpuExtensionHeaderType} {tail out msg : List UInt8}
    (h : Frames ExtensionCut exts bs (type :: tail)) (htype : type ≠ noMoreExtensionHeaders) (hmis : Misread tail out) :
    ¬∃ exts', Frames ExtensionCut exts' bs (noMoreExtensionHeaders :: msg) := by
  rintro ⟨exts', h'⟩
  rcases extensionCut_format.frames_compare h h' with ⟨more, -, hmore⟩ | ⟨more, -, hmore⟩
  · cases hmore with
    | nil => exact htype rfl
    | cons hcut _ => exact not_misread_of_extensionCut hcut hmis
  · cases hmore with
    | nil => exact htype rfl
    | cons hcut _ =>
      obtain ⟨tail', hcons, hmore, -⟩ := hcut.cons
      exact hmore (List.cons.inj hcons).1.symm

/-- The PDUs that are accepted have all their extension headers, exactly when a misread one has them refused. -/
theorem accepted_inside_iff (pdu : List UInt8) :
    ((∃ d, gtpuDissectPdu pdu = some d) → ChainInside pdu) ↔
      (ExtensionFlag pdu → BaseAccepted pdu → RefusedBehindMisread pdu) := by
  constructor
  · rintro hinside hflag hbase exts type tail out hexts htype hmis ⟨types, rest, hothers, hend, hroom, hcomp, hcomp', hcomps⟩
    have hall : Frames LenientCut (exts.map (·.extensionHeaderType) ++ type :: types) (pdu.drop 11) rest :=
      frames_append_iff.mpr ⟨_, lenient_of_frames hexts, Frames.cons ⟨htype, Or.inr ⟨tail, rfl, hmis⟩⟩ hothers⟩
    have hcomps' : ∀ t ∈ exts.map (·.extensionHeaderType) ++ type :: types,
        gtpuExtensionHeaderComprehensionCheck t = true := by
      intro t ht
      rcases List.mem_append.mp ht with ht | ht
      · obtain ⟨ext, hext, rfl⟩ := List.mem_map.mp ht
        exact hcomp ext hext
      · exact (List.mem_cons.mp ht).elim (fun he => he ▸ hcomp') (hcomps t)
    obtain ⟨first, cursor, hfirst, hfirsttype⟩ : ∃ first cursor, pdu.drop 11 = first :: cursor ∧
        first ≠ noMoreExtensionHeaders := by
      generalize pdu.drop 11 = cs at hexts
      cases hexts with
      | nil => exact ⟨type, tail, rfl, htype⟩
      | cons hcut _ =>
        obtain ⟨cursor, hcons, hmore, -⟩ := hcut.cons
        exact ⟨_, cursor, hcons, hmore⟩
    have haccept : ∃ d, gtpuDissectPdu pdu = some d := by
      refine (dissect_isSome_iff hflag).mpr ⟨hbase, first, cursor, hfirst, hfirsttype, ?_⟩
      refine (readExtensions_isSome_iff _ hfirsttype 12).mpr ⟨_, rest, hfirst ▸ hall, hend, ?_, hcomps'⟩
      rw [List.length_append, List.length_map, List.length_cons]
      omega
    obtain ⟨exts', msg, hexts'⟩ := hinside haccept hflag
    exact not_inside_of_misread hexts htype hmis ⟨exts', hexts'⟩
  · intro hrefused haccept hflag
    obtain ⟨hbase, type, tail, hdrop, htype, hread⟩ := (dissect_isSome_iff hflag).mp haccept
    obtain ⟨types, rest, hframes, hend, hroom, hcomps⟩ := (readExtensions_isSome_iff _ htype 12).mp hread
    rw [← hdrop] at hframes
    rcases frames_or_misread hframes with ⟨exts, hexts, rfl⟩ | ⟨exts, t, tail', out, types', rfl, hexts, ht, hmis, hothers⟩
    · have hne : rest ≠ [] := rest_ne_nil hexts (by rw [hdrop]; exact List.cons_ne_nil _ _)
      obtain ⟨last, msg, rfl⟩ := List.exists_cons_of_ne_nil hne
      obtain rfl : last = noMoreExtensionHeaders := hend
      exact ⟨exts, msg, hexts⟩
    · refine absurd ⟨types', rest, hothers, hend, ?_, ?_, ?_, ?_⟩ (hrefused hflag hbase exts t tail' out hexts ht hmis)
      · rw [List.length_append, List.length_map, List.length_cons] at hroom
        omega
      · exact fun ext hext => hcomps _ (List.mem_append_left _ (List.mem_map_of_mem hext))
      · exact hcomps t (List.mem_append_right _ List.mem_cons_self)
      · exact fun t' ht' => hcomps t' (List.mem_append_right _ (List.mem_cons_of_mem _ ht'))

/-- The header codec: a supported header is read back exactly when the size of each extension header fits its length
octet, and the PDUs that are accepted have all their extension headers, exactly when a misread one has them refused. -/
theorem codec_iff (header : GtpuHeader) (sdu pdu : List UInt8) :
    (Supported header sdu → (RoundTrips header sdu ↔ ∀ ext ∈ header.extList, Short ext)) ∧
      (((∃ d, gtpuDissectPdu pdu = some d) → ChainInside pdu) ↔
        (ExtensionFlag pdu → BaseAccepted pdu → RefusedBehindMisread pdu)) :=
  ⟨fun h => roundTrips_iff h, accepted_inside_iff pdu⟩

def echoHeader : GtpuHeader :=
  ⟨⟨1, 1, false, true, false⟩, GTPU_MSG_ECHO_REQUEST, 0, 0, 7, 0, noMoreExtensionHeaders, []⟩

def largeHeader : GtpuHeader :=
  ⟨⟨1, 1, true, false, false⟩, GTPU_MSG_DATA_PDU, 0, 1, 0, 0, pduSessionContainer,
    [⟨pduSessionContainer, List.replicate 254 0⟩]⟩

/-- An echo request is read back. -/
theorem codec_iff_echo : RoundTrips echoHeader [] ↔ ∀ ext ∈ echoHeader.extList, Short ext :=
  (codec_iff echoHeader [] []).1 ⟨by decide, by decide, by decide, by decide, by decide, by decide⟩

/-- An extension header of 256 octets is supported, but not read back. A PDU with a zero-length extension header, and one
that ends after the type of an extension header, are accepted. -/
theorem large_and_malformed_extensions :
    (Supported largeHeader [] ∧ ¬RoundTrips largeHeader []) ∧
      ((∃ d, gtpuDissectPdu [0x34, 255, 0, 6, 0, 0, 0, 1, 0, 0, 0, 0x85, 0, 0] = some d) ∧
        ¬ChainInside [0x34, 255, 0, 6, 0, 0, 0, 1, 0, 0, 0, 0x85, 0, 0]) ∧
      (∃ d, gtpuDissectPdu [0x34, 255, 0, 4, 0, 0, 0, 1, 0, 0, 0, 0x85] = some d) ∧
        ¬ChainInside [0x34, 255, 0, 4, 0, 0, 0, 1, 0, 0, 0, 0x85] := by
  have hsupported : Supported largeHeader [] :=
    ⟨by decide, by decide, by decide, by decide, by decide +kernel, by decide +kernel⟩
  have hmore : pduSessionContainer ≠ noMoreExtensionHeaders := by decide
  refine ⟨⟨hsupported, fun h => ?_⟩, ⟨?_, fun h => ?_⟩, ?_, fun h => ?_⟩
  · have hshort := (roundTrips_iff hsupported).mp h _ List.mem_cons_self
    unfold Short at hshort
    exact absurd hshort (by decide +kernel)
  · exact Option.isSome_iff_exists.mp (by decide +kernel)
  · have hframes : Frames ExtensionCut [] (pduSessionContainer :: [0, 0]) (pduSessionContainer :: [0, 0]) := Frames.nil _
    have hmis : Misread [0, 0] [0] := Misread.short (by decide)
    obtain ⟨exts, msg, hexts⟩ := h (by unfold ExtensionFlag; decide +kernel)
    exact not_inside_of_misread hframes hmore hmis ⟨exts, hexts⟩
  · exact Option.isSome_iff_exists.mp (by decide +kernel)
  · have hframes : Frames ExtensionCut [] [pduSessionContainer] [pduSessionContainer] := Frames.nil _
    obtain ⟨exts, msg, hexts⟩ := h (by unfold ExtensionFlag; decide +kernel)
    exact not_inside_of_misread hframes hmore Misread.noLength ⟨exts, hexts⟩

end Acceptance

end OwlsRan.Gtpu
