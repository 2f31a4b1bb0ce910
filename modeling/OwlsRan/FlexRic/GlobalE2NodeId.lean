import Mathlib.Data.Int.Notation
import Mathlib.Data.List.Basic

/-!
# E2 nodes and their addresses

The comparisons of node identities send the larger key to the left, those of addresses the smaller one.
-/

/-!
## Identifiers of E2AP requests

Comparisons answer `Ordering.lt` where the source answers `1`.
-/

namespace OwlsRan.FlexRic

structure RicGenId where
  ricReqId : ℕ
  ricInstId : ℕ
  ranFuncId : ℕ
  deriving DecidableEq

def cmpRicGenId : RicGenId → RicGenId → Ordering :=
  compareLex (compareOn RicGenId.ranFuncId) (compareLex (compareOn RicGenId.ricInstId) (compareOn RicGenId.ricReqId))

def eqRicGenId (m0 m1 : RicGenId) : Bool :=
  m0.ricReqId == m1.ricReqId && m0.ricInstId == m1.ricInstId && m0.ranFuncId == m1.ranFuncId

instance : Std.TransCmp cmpRicGenId := inferInstanceAs (Std.TransCmp (compareLex _ _))

lemma cmpRicGenId_eq_iff {m0 m1 : RicGenId} : cmpRicGenId m0 m1 = .eq ↔ m0 = m1 := by
  obtain ⟨req0, inst0, func0⟩ := m0
  obtain ⟨req1, inst1, func1⟩ := m1
  simp only [cmpRicGenId, compareLex_eq_eq, compareOn, Nat.compare_eq_eq, RicGenId.mk.injEq]
  omega

lemma eqRicGenId_iff {m0 m1 : RicGenId} : eqRicGenId m0 m1 = true ↔ m0 = m1 := by
  obtain ⟨req0, inst0, func0⟩ := m0
  obtain ⟨req1, inst1, func1⟩ := m1
  simp only [eqRicGenId, Bool.and_eq_true, beq_iff_eq, RicGenId.mk.injEq]
  omega

/-- `pending_event_t`, less the events of the xApp. -/
inductive PendingEvent
  | setupRequest
  | controlRequestAgent
  | subscriptionRequest
  | subscriptionDeleteRequest
  | controlRequest
  deriving DecidableEq

def cmpPendingEvent : PendingEvent → PendingEvent → Ordering := compareOn PendingEvent.ctorIdx

instance : Std.TransCmp cmpPendingEvent := inferInstanceAs (Std.TransCmp (compareOn _))

lemma cmpPendingEvent_eq_iff {ev1 ev2 : PendingEvent} : cmpPendingEvent ev1 ev2 = .eq ↔ ev1 = ev2 := by
  cases ev1 <;> cases ev2 <;> decide

/-- File descriptors; `0` stands for no timer. -/
def cmpFd : ℕ → ℕ → Ordering := compare

instance : Std.TransCmp cmpFd := inferInstanceAs (Std.TransCmp (compare : ℕ → ℕ → Ordering))

lemma cmpFd_eq_iff {fd1 fd2 : ℕ} : cmpFd fd1 fd2 = .eq ↔ fd1 = fd2 := Nat.compare_eq_eq

/-- A comparison that answers `1` for the larger key. -/
def compareOnDesc {α : Type} (f : α → ℕ) (m0 m1 : α) : Ordering := compareOn f m1 m0

instance {α : Type} (f : α → ℕ) : Std.TransCmp (compareOnDesc f) :=
  inferInstanceAs (Std.TransCmp fun m0 m1 => compareOn f m1 m0)

@[simp] lemma compareOnDesc_eq_eq {α : Type} {f : α → ℕ} {m0 m1 : α} : compareOnDesc f m0 m1 = .eq ↔ f m0 = f m1 := by
  rw [compareOnDesc, compareOn, Nat.compare_eq_eq, eq_comm]

inductive E2apNgranNode
  | eNB
  | ngENB
  | gNB
  | eNBCU
  | ngENBCU
  | gNBCU
  | eNBDU
  | gNBDU
  | eNBMbmsSta
  | gNBCUCP
  | gNBCUUP
  deriving DecidableEq

/-- `E2AP_NODE_IS_CU`, `E2AP_NODE_IS_CUUP` or `E2AP_NODE_IS_DU` -/
def E2apNgranNode.isCuOrDu : E2apNgranNode → Bool
  | .eNBCU | .ngENBCU | .gNBCU | .gNBCUCP | .gNBCUUP | .eNBDU | .gNBDU => true
  | .eNB | .ngENB | .gNB | .eNBMbmsSta => false

structure E2apPlmn where
  mcc : ℕ
  mnc : ℕ
  mncDigitLen : ℕ
  deriving DecidableEq

structure E2apGnbId where
  nbId : ℕ
  unused : ℕ
  deriving DecidableEq

/-- `global_e2_node_id_t`: the decoder gives a `cu_du_id` to the nodes that are split, and to no other. -/
@[ext] structure GlobalE2NodeId where
  type : E2apNgranNode
  plmn : E2apPlmn
  nbId : E2apGnbId
  cuDuId : Option ℕ
  split : cuDuId.isSome = type.isCuOrDu
  deriving DecidableEq

def cmpE2apPlmn : E2apPlmn → E2apPlmn → Ordering :=
  compareLex (compareOnDesc (·.mcc)) (compareLex (compareOnDesc (·.mnc)) (compareOnDesc (·.mncDigitLen)))

instance : Std.TransCmp cmpE2apPlmn := inferInstanceAs (Std.TransCmp (compareLex _ _))

lemma cmpE2apPlmn_eq_iff {m0 m1 : E2apPlmn} : cmpE2apPlmn m0 m1 = .eq ↔ m0 = m1 := by
  obtain ⟨mcc0, mnc0, len0⟩ := m0
  obtain ⟨mcc1, mnc1, len1⟩ := m1
  simp only [cmpE2apPlmn, compareLex_eq_eq, compareOnDesc_eq_eq, E2apPlmn.mk.injEq]

def comparePlmn (m0 m1 : GlobalE2NodeId) : Ordering := cmpE2apPlmn m0.plmn m1.plmn

instance : Std.TransCmp comparePlmn where
  eq_swap {a b} := @Std.OrientedCmp.eq_swap _ cmpE2apPlmn _ a.plmn b.plmn
  isLE_trans {a b c} := @Std.TransCmp.isLE_trans _ cmpE2apPlmn _ a.plmn b.plmn c.plmn

def cmpGlobalE2NodeId : GlobalE2NodeId → GlobalE2NodeId → Ordering :=
  compareLex (compareOnDesc (·.type.ctorIdx)) (compareLex comparePlmn (compareLex (compareOnDesc (·.nbId.nbId))
    (compareLex (compareOn (·.nbId.unused))
      (compareOnDesc fun m => if m.type.isCuOrDu then m.cuDuId.getD 0 else 0))))

instance : Std.TransCmp cmpGlobalE2NodeId := inferInstanceAs (Std.TransCmp (compareLex _ _))

def eqGlobalE2NodeId (m0 m1 : GlobalE2NodeId) : Bool :=
  m0.type == m1.type && m0.plmn == m1.plmn && m0.nbId == m1.nbId &&
    (!m0.type.isCuOrDu || m0.cuDuId == m1.cuDuId)

lemma E2apNgranNode.ctorIdx_inj {t0 t1 : E2apNgranNode} (h : t0.ctorIdx = t1.ctorIdx) : t0 = t1 := by
  cases t0 <;> cases t1 <;> first | rfl | exact absurd h (by decide)

variable {m0 m1 : GlobalE2NodeId}

lemma GlobalE2NodeId.eq_of_fields (htype : m0.type = m1.type) (hplmn : m0.plmn = m1.plmn)
    (hnbId : m0.nbId = m1.nbId) (hsplit : m0.type.isCuOrDu = true → m0.cuDuId = m1.cuDuId) : m0 = m1 := by
  refine GlobalE2NodeId.ext htype hplmn hnbId ?_
  by_cases h : m0.type.isCuOrDu = true
  · exact hsplit h
  · have h0 : m0.cuDuId = none := by simpa [h] using m0.split
    have h1 : m1.cuDuId = none := by simpa [← htype, h] using m1.split
    rw [h0, h1]

lemma eqGlobalE2NodeId_iff : eqGlobalE2NodeId m0 m1 = true ↔ m0 = m1 := by
  constructor
  · intro h
    simp only [eqGlobalE2NodeId, Bool.and_eq_true, beq_iff_eq, Bool.or_eq_true, Bool.not_eq_true'] at h
    obtain ⟨⟨⟨htype, hplmn⟩, hnbId⟩, hid⟩ := h
    refine GlobalE2NodeId.eq_of_fields htype hplmn hnbId fun hsplit => ?_
    rcases hid with hid | hid
    · rw [hsplit] at hid
      cases hid
    · exact hid
  · rintro rfl
    simp [eqGlobalE2NodeId]

lemma cmpGlobalE2NodeId_eq_iff : cmpGlobalE2NodeId m0 m1 = .eq ↔ m0 = m1 := by
  constructor
  · intro h
    simp only [cmpGlobalE2NodeId, compareLex_eq_eq, compareOnDesc_eq_eq, compareOn, Nat.compare_eq_eq, comparePlmn,
      cmpE2apPlmn_eq_iff] at h
    obtain ⟨htype, hplmn, hnbId, hunused, hid⟩ := h
    have htype' := E2apNgranNode.ctorIdx_inj htype
    refine GlobalE2NodeId.eq_of_fields htype' hplmn ?_ fun hsplit => ?_
    · cases hm0 : m0.nbId
      cases hm1 : m1.nbId
      simp_all
    · have h0 : m0.cuDuId.isSome = true := m0.split.trans hsplit
      have h1 : m1.cuDuId.isSome = true := m1.split.trans (htype' ▸ hsplit)
      obtain ⟨i0, hi0⟩ := Option.isSome_iff_exists.mp h0
      obtain ⟨i1, hi1⟩ := Option.isSome_iff_exists.mp h1
      rw [if_pos hsplit, if_pos (htype' ▸ hsplit), hi0, hi1] at hid
      rw [hi0, hi1]
      exact congrArg some hid
  · rintro rfl
    exact Std.ReflCmp.compare_self

/-- `struct sockaddr_in` -/
structure SockaddrIn where
  sinPort : ℕ
  sinAddr : ℕ
  sinFamily : ℕ
  deriving DecidableEq

/-- `sctp_info_t`: an address and the association and stream that a message came by. -/
structure SctpInfo where
  addr : SockaddrIn
  sri : ℕ
  deriving DecidableEq

def cmpSockaddrIn : SockaddrIn → SockaddrIn → Ordering :=
  compareLex (compareOn SockaddrIn.sinPort) (compareLex (compareOn SockaddrIn.sinAddr) (compareOn SockaddrIn.sinFamily))

instance : Std.TransCmp cmpSockaddrIn := inferInstanceAs (Std.TransCmp (compareLex _ _))

def cmpSctpInfo (m0 m1 : SctpInfo) : Ordering := cmpSockaddrIn m0.addr m1.addr

instance : Std.TransCmp cmpSctpInfo where
  eq_swap {a b} := @Std.OrientedCmp.eq_swap _ cmpSockaddrIn _ a.addr b.addr
  isLE_trans {a b c} := @Std.TransCmp.isLE_trans _ cmpSockaddrIn _ a.addr b.addr c.addr

lemma cmpSctpInfo_eq_iff {m0 m1 : SctpInfo} : cmpSctpInfo m0 m1 = .eq ↔ m0.addr = m1.addr := by
  obtain ⟨⟨port0, addr0, family0⟩, -⟩ := m0
  obtain ⟨⟨port1, addr1, family1⟩, -⟩ := m1
  simp only [cmpSctpInfo, cmpSockaddrIn, compareLex_eq_eq, compareOn, Nat.compare_eq_eq, SockaddrIn.mk.injEq]

end OwlsRan.FlexRic
