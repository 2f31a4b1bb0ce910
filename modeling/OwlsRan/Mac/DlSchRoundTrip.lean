import Mathlib.Algebra.GroupWithZero.Nat
import OwlsRan.Lib.EventRun
import OwlsRan.Mac.DlSchEncoding

/-!
# The receiver of a DL-SCH MAC PDU reads what was put into it

The subPDUs that a transport block should carry are said without bytes: what is left of the block after each of them
decides what comes next.
-/

namespace OwlsRan.Mac
open OwlsRan.Lib OwlsRan.Ran DlSchPdu

section Contents

namespace SubPdu

def octets : SubPdu → Nat
  | ueConResId _ => 7
  | taCmd _ _ => 2
  | sdu _ payload => (if payload.length < 256 then 2 else 3) + payload.length
  | padding length => 1 + length

lemma length_encoded (x : SubPdu) : x.encoded.length = x.octets := by
  cases x with
  | ueConResId id =>
    simp only [encoded, octets, List.length_cons, id.property]
  | taCmd tagId cmd => rfl
  | sdu lcid payload =>
    rw [encoded, octets, List.length_append, sduSubheader, MAC_SDU_SUBHEADER_LENGTH_THRES]
    by_cases hshort : payload.length < 256
    · rw [if_pos hshort, if_neg (Nat.not_le.mpr hshort)]
      rfl
    · rw [if_neg hshort, if_pos (Nat.not_lt.mp hshort)]
      rfl
  | padding n =>
    simp only [encoded, octets, List.length_cons, List.length_replicate]
    omega

lemma octets_sdu (lcid : Lcid) {payload : List UInt8} (hne : payload ≠ []) :
    (sdu lcid payload).octets = getMacSduRequiredBytes payload.length := by
  have hn : payload.length ≠ 0 := fun h0 => hne (List.length_eq_zero_iff.mp h0)
  unfold getMacSduRequiredBytes getMacSduSubheaderSize MAC_SDU_SUBHEADER_LENGTH_THRES MAX_MAC_SDU_SUBHEADER_SIZE
    MIN_MAC_SDU_SUBHEADER_SIZE
  simp only [octets, hn, if_false]
  split <;> split <;> omega

end SubPdu

def octets (xs : List SubPdu) : Nat := (xs.map (·.octets)).sum

lemma length_encoded (xs : List SubPdu) : (xs.flatMap (·.encoded)).length = octets xs := by
  simp only [List.length_flatMap, SubPdu.length_encoded, octets]

/-- A logical channel with `rem` bytes sends SDUs until its bytes are too few or it has nothing to send. -/
def sentSdus (lcid : Lcid) (rem : Nat) : List TxSdu → List SubPdu
  | [] => []
  | answer :: answers =>
    if rem < minMacSubhdrAndSduSpaceRequired lcid then []
    else
      let sdu := answer.val (getMacSduPayloadSize rem)
      if sdu = [] then [] else .sdu lcid sdu :: sentSdus lcid (rem - getMacSduRequiredBytes sdu.length) answers

/-- The subPDUs that an operation should put into a block with `rem` free bytes. -/
def DlSchOp.items (rem : Nat) : DlSchOp → List SubPdu
  | ueConResId conRes => [.ueConResId conRes]
  | taCmd tagId cmd => [.taCmd tagId cmd]
  | sdus lcid schedBytes answers => sentSdus lcid (min (getMacSduRequiredBytes schedBytes) rem) answers
  | addSdu lcid sdu _ =>
    if minMacSubhdrAndSduSpaceRequired lcid ≤ rem ∧ getMacSduRequiredBytes sdu.length ≤ rem then [.sdu lcid sdu] else []

/-- What a block with `rem` free bytes should carry in the end: its padding is what is left. -/
def contents (rem : Nat) : List DlSchOp → List SubPdu
  | [] => if 0 < rem then [.padding (rem - 1)] else []
  | op :: ops => op.items rem ++ contents (rem - octets (op.items rem)) ops

def CesFit (rem : Nat) : List DlSchOp → Prop
  | [] => True
  | op :: ops => octets (op.items rem) ≤ rem ∧ CesFit (rem - octets (op.items rem)) ops

/-- An SDU that does not fit is copied beyond the block: there is space for an SDU, but not for this one. With 256 bytes
into 258 it only runs to the end of the block. -/
def DlSchOp.Overflows (rem : Nat) : DlSchOp → Prop
  | addSdu lcid sdu _ =>
    minMacSubhdrAndSduSpaceRequired lcid ≤ rem ∧ rem < getMacSduRequiredBytes sdu.length ∧
      ¬(sdu.length = 256 ∧ rem = 258)
  | _ => False

def Faithful (rem : Nat) : List DlSchOp → Prop
  | [] => True
  | op :: ops =>
    ¬op.Overflows rem ∧ (∀ x ∈ op.items rem, x.Representable) ∧ Faithful (rem - octets (op.items rem)) ops

end Contents

namespace DlSchPdu

variable {p p' p'' : DlSchPdu} {bs : List UInt8} {lcid : Lcid} {op : DlSchOp} {ops : List DlSchOp}

def InTb (p : DlSchPdu) : Prop := p.byteOffset ≤ p.size

lemma Extends.inTb (h : Extends p p' bs) (hp : p.InTb) : p'.InTb := by
  obtain ⟨-, hoffset, htake⟩ := h
  have hlen := congrArg List.length htake
  simp only [List.length_append, List.length_take] at hlen
  unfold InTb size at *
  omega

lemma Extends.nofEmptyBytes (h : Extends p p' bs) : p'.nofEmptyBytes = p.nofEmptyBytes - bs.length := by
  obtain ⟨hsize, hoffset, -⟩ := h
  unfold DlSchPdu.nofEmptyBytes
  omega

section Operations

lemma three_le_minSpace (lcid : Lcid) : 3 ≤ minMacSubhdrAndSduSpaceRequired lcid := Nat.le_add_right _ _

lemma getSduEncoder_of_lt {n : Nat} (h : p.nofEmptyBytes < minMacSubhdrAndSduSpaceRequired lcid) :
    p.getSduEncoder lcid n = none := by
  simp only [getSduEncoder, h, if_true, ite_self]

lemma getSduEncoder_of_le (hp : p.InTb) {n : Nat} (hn : n ≠ 0)
    (h : minMacSubhdrAndSduSpaceRequired lcid ≤ p.nofEmptyBytes) :
    ∃ enc, p.getSduEncoder lcid n = some enc ∧ enc.lcid = lcid ∧
      enc.maxSduSize = getMacSduPayloadSize (min p.nofEmptyBytes (getMacSduRequiredBytes n)) ∧ p.Encodes enc := by
  have hspace : 3 ≤ min p.nofEmptyBytes (getMacSduRequiredBytes n) := by
    have hmin := three_le_minSpace lcid
    have hreq : 3 ≤ getMacSduRequiredBytes n := by
      have hpos := subheaderSize_pos hn
      unfold getMacSduRequiredBytes
      omega
    omega
  obtain ⟨hpos, hle⟩ := payloadSize_le hspace
  let sduSpaceEstim := getMacSduPayloadSize (min p.nofEmptyBytes (getMacSduRequiredBytes n))
  refine ⟨⟨lcid, getMacSduSubheaderSize sduSpaceEstim, sduSpaceEstim⟩, ?_, rfl, rfl, rfl, hpos, ?_⟩
  · rw [getSduEncoder, if_neg hn, if_neg (Nat.not_lt.mpr h)]
  · have hempty : min p.nofEmptyBytes (getMacSduRequiredBytes n) ≤ p.size - p.byteOffset := Nat.min_le_left _ _
    unfold InTb at hp
    dsimp only [sduSpaceEstim]
    omega

lemma addUeConResId_spec (id : UeConResId) (h : p.byteOffset + 7 ≤ p.size) :
    ∃ p', p.addUeConResId id = .ok p' ∧ Extends p p' (SubPdu.ueConResId id).encoded := by
  have hheader : p.byteOffset + [headerByte false .UE_CON_RES_ID].length ≤ p.size := by
    simp only [List.length_singleton]
    omega
  obtain ⟨p₁, happend, hext⟩ := append_spec hheader
  have hid : p₁.byteOffset + id.val.length ≤ p₁.size := by
    rw [hext.1, hext.2.1, id.property, List.length_singleton]
    omega
  obtain ⟨p', happend', hext'⟩ := append_spec hid
  refine ⟨p', ?_, hext.trans hext'⟩
  rw [addUeConResId, encodeSubheader, happend]
  exact happend'

lemma addTagCmd_spec (tagId : Fin 4) (cmd : Fin 64) (h : p.byteOffset + 2 ≤ p.size) :
    ∃ p', p.addTagCmd tagId cmd = .ok p' ∧ Extends p p' (SubPdu.taCmd tagId cmd).encoded := by
  have hheader : p.byteOffset + [headerByte false .TA_CMD].length ≤ p.size := by
    simp only [List.length_singleton]
    omega
  obtain ⟨p₁, happend, hext⟩ := append_spec hheader
  have hcmd : p₁.byteOffset + [tagCmdByte tagId cmd].length ≤ p₁.size := by
    rw [hext.1, hext.2.1, List.length_singleton, List.length_singleton]
    omega
  obtain ⟨p', happend', hext'⟩ := append_spec hcmd
  refine ⟨p', ?_, hext.trans hext'⟩
  rw [addTagCmd, encodeSubheader, happend]
  exact happend'

lemma addPadding_spec (h : p.byteOffset < p.size) :
    ∃ p', p.addPadding (p.size - p.byteOffset) = .ok p' ∧
      Extends p p' (SubPdu.padding (p.size - p.byteOffset - 1)).encoded := by
  have hheader : p.byteOffset + [headerByte false .PADDING].length ≤ p.size := h
  obtain ⟨p₁, happend, hext⟩ := append_spec hheader
  have hzeros : p₁.byteOffset + (List.replicate (p.size - p.byteOffset - 1) (0 : UInt8)).length ≤ p₁.size := by
    rw [hext.1, hext.2.1, List.length_replicate, List.length_singleton]
    omega
  obtain ⟨p', happend', hext'⟩ := append_spec hzeros
  refine ⟨p', ?_, hext.trans hext'⟩
  rw [addPadding, encodeSubheader, happend]
  exact happend'

lemma addSdu_spec (hp : p.InTb) {sdu : List UInt8} (hne : sdu ≠ [])
    (hmin : minMacSubhdrAndSduSpaceRequired lcid ≤ p.nofEmptyBytes)
    (hreq : getMacSduRequiredBytes sdu.length ≤ p.nofEmptyBytes) :
    ∃ n p', p.addSdu lcid sdu = .ok (n, p') ∧ Extends p p' (SubPdu.sdu lcid sdu).encoded := by
  have hn : sdu.length ≠ 0 := fun h0 => hne (List.length_eq_zero_iff.mp h0)
  obtain ⟨enc, henc, rfl, hmax, hencodes⟩ := getSduEncoder_of_le hp hn hmin
  rw [Nat.min_eq_right hreq, payloadSize_requiredBytes hn] at hmax
  obtain ⟨p₁, p', hwrite, hencode, hext⟩ := encodeSdu_spec hencodes hne (Nat.le_of_eq hmax.symm)
  refine ⟨getMacSduRequiredBytes sdu.length, p', ?_, hext⟩
  rw [addSdu, if_neg hne]
  simp only [henc, bind, Except.bind, hwrite, hencode]

lemma addSdu_of_not_fits (hp : p.InTb) {sdu : List UInt8} (hne : sdu ≠ [])
    (hreq : p.nofEmptyBytes < minMacSubhdrAndSduSpaceRequired lcid ∨ (sdu.length = 256 ∧ p.nofEmptyBytes = 258)) :
    ∃ n p', p.addSdu lcid sdu = .ok (n, p') ∧ Extends p p' [] := by
  by_cases hmin : p.nofEmptyBytes < minMacSubhdrAndSduSpaceRequired lcid
  · refine ⟨0, p, ?_, Extends.refl p⟩
    rw [addSdu, if_neg hne, getSduEncoder_of_lt hmin]
  · obtain ⟨hlen, hempty⟩ := hreq.resolve_left hmin
    have hn : sdu.length ≠ 0 := by omega
    obtain ⟨enc, henc, rfl, hmax, hencodes⟩ := getSduEncoder_of_le hp hn (Nat.not_lt.mp hmin)
    rw [hempty, hlen] at hmax
    have hmax : enc.maxSduSize = 255 := hmax
    have hsubhr : enc.subhrLen = 2 := by
      rw [hencodes.subhrLen, hmax]
      rfl
    have hin : p.byteOffset + enc.subhrLen + sdu.length ≤ p.pdu.length := by
      unfold nofEmptyBytes size at hempty
      omega
    have hwrite : p.write (p.sduOffset enc) sdu =
        .ok { p with pdu := overwrite p.pdu (p.byteOffset + enc.subhrLen) sdu } := if_pos hin
    have htake : (overwrite p.pdu (p.byteOffset + enc.subhrLen) sdu).take p.byteOffset = p.pdu.take p.byteOffset :=
      take_overwrite_of_le (Nat.le_add_right _ _) hin
    refine ⟨0, { p with pdu := overwrite p.pdu (p.byteOffset + enc.subhrLen) sdu }, ?_, length_overwrite hin, rfl, ?_⟩
    · rw [addSdu, if_neg hne]
      simp only [henc, bind, Except.bind, hwrite]
      exact if_pos (Or.inr (by omega))
    · rw [List.append_nil]
      exact htake

lemma addSdu_of_overflows (hp : p.InTb) {sdu : List UInt8} (hne : sdu ≠ [])
    (h : (DlSchOp.addSdu lcid sdu hne).Overflows p.nofEmptyBytes) : p.addSdu lcid sdu = .error .outsideTb := by
  obtain ⟨hmin, hreq, hexcept⟩ := h
  have hn : sdu.length ≠ 0 := fun h0 => hne (List.length_eq_zero_iff.mp h0)
  obtain ⟨enc, henc, rfl, hmax, hencodes⟩ := getSduEncoder_of_le hp hn hmin
  rw [Nat.min_eq_left (Nat.le_of_lt hreq)] at hmax
  have hthree := three_le_minSpace enc.lcid
  have hout : ¬p.byteOffset + enc.subhrLen + sdu.length ≤ p.size := by
    have hsubhr := hencodes.subhrLen
    rw [hmax] at hsubhr
    unfold getMacSduRequiredBytes at hreq
    unfold getMacSduPayloadSize getMacSduSubheaderSize MAC_SDU_SUBHEADER_LENGTH_THRES MAX_MAC_SDU_SUBHEADER_SIZE
      MIN_MAC_SDU_SUBHEADER_SIZE at *
    unfold nofEmptyBytes at *
    unfold InTb at hp
    grind
  rw [addSdu, if_neg hne]
  simp only [henc, bind, Except.bind]
  rw [write, sduOffset, if_neg hout]

end Operations

section Runs

lemma requiredBytes_le_of_le_payloadSize {rem n : Nat} (hrem : 3 ≤ rem) (hn : n ≠ 0) (h : n ≤ getMacSduPayloadSize rem) :
    getMacSduRequiredBytes n ≤ rem := by
  obtain ⟨-, hle⟩ := payloadSize_le hrem
  have hmono := subheaderSize_mono hn h
  unfold getMacSduRequiredBytes
  omega

lemma getSduEncoder_loop (hp : p.InTb) {rem : Nat} (hmin : minMacSubhdrAndSduSpaceRequired lcid ≤ rem)
    (hrem : rem ≤ p.nofEmptyBytes) :
    ∃ enc, p.getSduEncoder lcid (getMacSduPayloadSize rem) = some enc ∧ enc.lcid = lcid ∧
      enc.maxSduSize = getMacSduPayloadSize rem ∧ p.Encodes enc := by
  have hthree : 3 ≤ rem := Nat.le_trans (three_le_minSpace lcid) hmin
  obtain ⟨hpos, -⟩ := payloadSize_le hthree
  have hn : getMacSduPayloadSize rem ≠ 0 := by omega
  obtain ⟨enc, henc, hlcid, hmax, hencodes⟩ := getSduEncoder_of_le hp hn (Nat.le_trans hmin hrem)
  have hreq := requiredBytes_le_of_le_payloadSize hthree hn (Nat.le_refl _)
  rw [Nat.min_eq_right (Nat.le_trans hreq hrem), payloadSize_requiredBytes hn] at hmax
  exact ⟨enc, henc, hlcid, hmax, hencodes⟩

lemma assembleSdusLoop_spec {answers : List TxSdu} {rem : Nat} (hp : p.InTb) (hrem : rem ≤ p.nofEmptyBytes) :
    ∃ p', p.assembleSdusLoop lcid rem answers = .ok p' ∧
      Extends p p' ((sentSdus lcid rem answers).flatMap (·.encoded)) := by
  induction answers generalizing p rem with
  | nil => exact ⟨p, rfl, Extends.refl p⟩
  | cons answer answers ih =>
    rw [assembleSdusLoop, sentSdus]
    by_cases hmin : rem < minMacSubhdrAndSduSpaceRequired lcid
    · rw [if_pos hmin, if_pos hmin]
      exact ⟨p, rfl, Extends.refl p⟩
    · rw [if_neg hmin, if_neg hmin]
      obtain ⟨enc, henc, rfl, hmax, hencodes⟩ := getSduEncoder_loop hp (Nat.not_lt.mp hmin) hrem
      simp only [henc, hmax]
      by_cases hne : answer.val (getMacSduPayloadSize rem) = []
      · rw [if_pos hne, if_pos hne]
        exact ⟨p, rfl, Extends.refl p⟩
      · rw [if_neg hne, if_neg hne]
        have hle := answer.property (getMacSduPayloadSize rem)
        generalize answer.val (getMacSduPayloadSize rem) = sdu at hne hle
        have hn : sdu.length ≠ 0 := fun h0 => hne (List.length_eq_zero_iff.mp h0)
        have hthree : 3 ≤ rem := Nat.le_trans (three_le_minSpace enc.lcid) (Nat.not_lt.mp hmin)
        have hreq := requiredBytes_le_of_le_payloadSize hthree hn hle
        obtain ⟨p₁, p₂, hwrite, hencode, hext⟩ := encodeSdu_spec hencodes hne (by rw [hmax]; exact hle)
        have hrem₂ : rem - getMacSduRequiredBytes sdu.length ≤ p₂.nofEmptyBytes := by
          rw [hext.nofEmptyBytes, SubPdu.length_encoded, SubPdu.octets_sdu _ hne]
          omega
        obtain ⟨p', hloop, hext'⟩ := ih (hext.inTb hp) hrem₂
        refine ⟨p', ?_, hext.trans hext'⟩
        have hpos : getMacSduRequiredBytes sdu.length ≠ 0 := by
          have := le_getMacSduRequiredBytes sdu.length
          omega
        simp only [hwrite, hencode, bind, Except.bind, hpos, if_false, Nat.not_lt.mpr hreq]
        exact hloop

/-- What an operation puts into the block, when it does not run beyond it. -/
theorem run_spec (hp : p.InTb) (hfit : octets (op.items p.nofEmptyBytes) ≤ p.nofEmptyBytes)
    (hover : ¬op.Overflows p.nofEmptyBytes) :
    ∃ p', p.run op = .ok p' ∧ Extends p p' ((op.items p.nofEmptyBytes).flatMap (·.encoded)) := by
  have hempty : p.nofEmptyBytes = p.size - p.byteOffset := rfl
  cases op with
  | ueConResId id =>
    simp only [DlSchOp.items, octets, SubPdu.octets, List.map_cons, List.map_nil, List.sum_cons, List.sum_nil] at hfit
    simp only [DlSchOp.items, List.flatMap_singleton]
    exact addUeConResId_spec id (by unfold InTb at hp; omega)
  | taCmd tagId cmd =>
    simp only [DlSchOp.items, octets, SubPdu.octets, List.map_cons, List.map_nil, List.sum_cons, List.sum_nil] at hfit
    simp only [DlSchOp.items, List.flatMap_singleton]
    exact addTagCmd_spec tagId cmd (by unfold InTb at hp; omega)
  | sdus lcid schedBytes answers => exact assembleSdusLoop_spec hp (Nat.min_le_right _ _)
  | addSdu lcid sdu hne =>
    by_cases hfits : minMacSubhdrAndSduSpaceRequired lcid ≤ p.nofEmptyBytes ∧
        getMacSduRequiredBytes sdu.length ≤ p.nofEmptyBytes
    · obtain ⟨n, p', hadd, hext⟩ := addSdu_spec hp hne hfits.1 hfits.2
      refine ⟨p', by rw [run, hadd]; rfl, ?_⟩
      rw [DlSchOp.items, if_pos hfits, List.flatMap_singleton]
      exact hext
    · have hout : p.nofEmptyBytes < minMacSubhdrAndSduSpaceRequired lcid ∨
          (sdu.length = 256 ∧ p.nofEmptyBytes = 258) := by
        by_contra hout
        rw [not_or] at hout
        refine hover ⟨Nat.not_lt.mp hout.1, ?_, hout.2⟩
        by_contra hreq
        exact hfits ⟨Nat.not_lt.mp hout.1, Nat.not_lt.mp hreq⟩
      obtain ⟨n, p', hadd, hext⟩ := addSdu_of_not_fits hp hne hout
      refine ⟨p', by rw [run, hadd]; rfl, ?_⟩
      rw [DlSchOp.items, if_neg hfits]
      exact hext

lemma run_of_overflows (hp : p.InTb) (hover : op.Overflows p.nofEmptyBytes) : p.run op = .error .outsideTb := by
  cases op with
  | addSdu lcid sdu hne => rw [run, addSdu_of_overflows hp hne hover]; rfl
  | _ => exact absurd hover id

lemma items_ne_padding (rem : Nat) : ∀ x ∈ op.items rem, ∀ n, x ≠ .padding n := by
  have hsent : ∀ (lcid : Lcid) (answers : List TxSdu) (rem : Nat), ∀ x ∈ sentSdus lcid rem answers,
      ∀ n, x ≠ .padding n := by
    intro lcid answers
    induction answers with
    | nil => exact fun rem x hx => absurd hx List.not_mem_nil
    | cons answer answers ih =>
      intro rem x hx n
      simp only [sentSdus] at hx
      split at hx
      · cases hx
      · split at hx
        · cases hx
        · rcases List.mem_cons.mp hx with rfl | hx
          · exact fun h => SubPdu.noConfusion h
          · exact ih _ x hx n
  intro x hx n
  cases op with
  | sdus lcid schedBytes answers => exact hsent _ _ _ x hx n
  | addSdu lcid sdu hne =>
    simp only [DlSchOp.items] at hx
    split at hx
    · obtain rfl := List.mem_singleton.mp hx
      exact fun h => SubPdu.noConfusion h
    · cases hx
  | _ =>
    obtain rfl := List.mem_singleton.mp hx
    exact fun h => SubPdu.noConfusion h

lemma finish_spec (hp : p.InTb) :
    ∃ bytes, p.finish = .ok bytes ∧ bytes.length = p.size ∧
      bytes = p.pdu.take p.byteOffset ++ (contents p.nofEmptyBytes []).flatMap (·.encoded) := by
  unfold InTb at hp
  rw [finish, contents, nofEmptyBytes]
  by_cases hlt : p.byteOffset < p.size
  · obtain ⟨p', hpadding, hsize, hoffset, htake⟩ := addPadding_spec hlt
    rw [if_pos hlt, if_pos (by omega), hpadding, List.flatMap_singleton]
    refine ⟨p'.pdu.take p'.byteOffset, rfl, ?_, htake⟩
    rw [SubPdu.length_encoded, SubPdu.octets] at hoffset
    rw [List.length_take]
    unfold size at *
    omega
  · rw [if_neg hlt, if_neg (by omega), if_neg (by omega)]
    refine ⟨p.pdu.take p.byteOffset, rfl, ?_, (List.append_nil _).symm⟩
    rw [List.length_take]
    unfold size at *
    omega

/-- A run of operations either leaves the block, or puts all its subPDUs but the padding into it. -/
theorem foldlM_run_spec (hp : p.InTb) (hfit : CesFit p.nofEmptyBytes ops) :
    (ops.foldlM run p = .error .outsideTb ∧ ¬Faithful p.nofEmptyBytes ops) ∨
      ∃ p' xs, ops.foldlM run p = .ok p' ∧ p'.InTb ∧ Extends p p' (xs.flatMap (·.encoded)) ∧
        contents p.nofEmptyBytes ops = xs ++ contents p'.nofEmptyBytes [] ∧ (∀ x ∈ xs, ∀ n, x ≠ .padding n) ∧
        (Faithful p.nofEmptyBytes ops ↔ ∀ x ∈ xs, x.Representable) := by
  induction ops generalizing p with
  | nil =>
    exact Or.inr ⟨p, [], rfl, hp, Extends.refl p, rfl, fun x hx => absurd hx List.not_mem_nil,
      fun _ x hx => absurd hx List.not_mem_nil, fun _ => trivial⟩
  | cons op ops ih =>
    obtain ⟨hop, hops⟩ := hfit
    rw [List.foldlM_cons]
    by_cases hover : op.Overflows p.nofEmptyBytes
    · exact Or.inl ⟨by rw [run_of_overflows hp hover]; rfl, fun h => h.1 hover⟩
    · obtain ⟨p₁, hrun, hext⟩ := run_spec hp hop hover
      have hp₁ := hext.inTb hp
      have hempty : p₁.nofEmptyBytes = p.nofEmptyBytes - octets (op.items p.nofEmptyBytes) := by
        rw [hext.nofEmptyBytes, length_encoded]
      rw [← hempty] at hops
      simp only [hrun, contents, Faithful, bind, Except.bind, ← hempty]
      rcases ih hp₁ hops with ⟨herror, hnot⟩ | ⟨p', xs, hfold, hp', hext', hcontents, hpadding, hiff⟩
      · exact Or.inl ⟨herror, fun h => hnot h.2.2⟩
      · refine Or.inr ⟨p', op.items p.nofEmptyBytes ++ xs, hfold, hp', ?_, ?_, ?_, ?_⟩
        · rw [List.flatMap_append]
          exact hext.trans hext'
        · rw [hcontents, List.append_assoc]
          rfl
        · intro x hx
          exact (List.mem_append.mp hx).elim (items_ne_padding p.nofEmptyBytes x) (hpadding x)
        · rw [hiff, List.forall_mem_append]
          exact ⟨fun h => ⟨h.2.1, h.2.2⟩, fun h => ⟨hover, h.1, h.2⟩⟩

end Runs

lemma parse_contents_nil (rem : Nat) :
    parsePdu ((contents rem []).flatMap (·.encoded)) = some (contents rem []) := by
  rw [contents]
  split
  · rw [List.flatMap_singleton, parsePdu_of_some (parse_padding _)]
    rfl
  · rfl

end DlSchPdu

/-- The bytes fill the transport block and a receiver reads from them what was put in, exactly when all TAG ids are zero,
all SDUs are shorter than `2 ^ 16` bytes and no SDU is copied beyond the block. -/
theorem pdu_read_back_iff (buffer : List UInt8) (ops : List DlSchOp) (hfit : CesFit buffer.length ops) :
    (∃ bytes, assembleNewtxPdu buffer ops = .ok bytes ∧ bytes.length = buffer.length ∧
        parsePdu bytes = some (contents buffer.length ops)) ↔
      Faithful buffer.length ops := by
  have hp : (⟨buffer, 0⟩ : DlSchPdu).InTb := Nat.zero_le _
  have hempty : (⟨buffer, 0⟩ : DlSchPdu).nofEmptyBytes = buffer.length := rfl
  rw [← hempty] at hfit ⊢
  rcases foldlM_run_spec hp hfit with ⟨herror, hnot⟩ | ⟨p', xs, hfold, hp', hext, hcontents, hpadding, hiff⟩
  · refine ⟨?_, fun h => absurd h hnot⟩
    rintro ⟨bytes, hbytes, -⟩
    rw [assembleNewtxPdu, herror] at hbytes
    cases hbytes
  · obtain ⟨bytes, hfinish, hlen, hbytes⟩ := finish_spec hp'
    have hassemble : assembleNewtxPdu buffer ops = .ok bytes := by
      rw [assembleNewtxPdu, hfold]
      exact hfinish
    have hread : bytes = xs.flatMap (·.encoded) ++ (contents p'.nofEmptyBytes []).flatMap (·.encoded) := by
      rw [hbytes, hext.2.2]
      rfl
    rw [hiff, hcontents]
    constructor
    · rintro ⟨bytes', hbytes', -, hparse⟩
      obtain rfl := Except.ok.inj (hassemble.symm.trans hbytes')
      rw [hread] at hparse
      exact ((parse_flatMap_encoded hpadding).mp hparse).1
    · intro hrep
      refine ⟨bytes, hassemble, hlen.trans hext.1, ?_⟩
      rw [hread]
      exact (parse_flatMap_encoded hpadding).mpr ⟨hrep, parse_contents_nil _⟩

/-- A block for a contention resolution, an SDU and padding. -/
theorem pdu_read_back_iff_thirteen :
    (∃ bytes, assembleNewtxPdu (List.replicate 13 0)
          [.ueConResId ⟨[1, 2, 3, 4, 5, 6], rfl⟩, .addSdu 0 [7, 8] (by decide)] = .ok bytes ∧
        bytes.length = (List.replicate 13 (0 : UInt8)).length ∧
        parsePdu bytes = some (contents (List.replicate 13 (0 : UInt8)).length
          [.ueConResId ⟨[1, 2, 3, 4, 5, 6], rfl⟩, .addSdu 0 [7, 8] (by decide)])) ↔
      Faithful (List.replicate 13 (0 : UInt8)).length
        [.ueConResId ⟨[1, 2, 3, 4, 5, 6], rfl⟩, .addSdu 0 [7, 8] (by decide)] :=
  pdu_read_back_iff (List.replicate 13 0) _ ⟨by decide, by decide, trivial⟩

/-- A timing advance command for the TAG 1 is read as one for the TAG 0. An SDU of five bytes is copied beyond a block of
six bytes instead of being left out. -/
theorem subPdu_not_read_back :
    (CesFit 4 [.taCmd 1 5] ∧ ¬∃ bytes, assembleNewtxPdu [0, 0, 0, 0] [.taCmd 1 5] = .ok bytes ∧
        parsePdu bytes = some (contents 4 [.taCmd 1 5])) ∧
      assembleNewtxPdu (List.replicate 6 0) [.addSdu 0 [1, 2, 3, 4, 5] (by decide)] = .error .outsideTb := by
  refine ⟨⟨⟨by decide, trivial⟩, ?_⟩, by decide +kernel⟩
  rintro ⟨bytes, hbytes, hparse⟩
  have hwritten : assembleNewtxPdu [0, 0, 0, 0] [.taCmd 1 5] = .ok [61, 5, 63, 0] := by decide +kernel
  obtain rfl := Except.ok.inj (hwritten.symm.trans hbytes)
  have hread : parsePdu [61, 5, 63, 0] = some [.taCmd 0 5, .padding 1] := by decide +kernel
  have hcontents : contents 4 [.taCmd 1 5] = [.taCmd 1 5, .padding 1] := by decide +kernel
  rw [hread, hcontents] at hparse
  exact absurd hparse (by decide)

end OwlsRan.Mac
