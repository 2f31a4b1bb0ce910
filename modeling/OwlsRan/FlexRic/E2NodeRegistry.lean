import OwlsRan.Adt.BiMap
import OwlsRan.FlexRic.GlobalE2NodeId
import OwlsRan.Lib.EventRun
import Mathlib.Data.List.Nodup

/-!
# The E2 nodes that the near-RT RIC knows

A setup request enters its node into the address map of the endpoint, the registry of the iApp and the array of
connected nodes; a shutdown takes one entry out of each. The three agree with the associations that are up as long as
no node and no address enters twice.
-/

namespace OwlsRan.FlexRic

open OwlsRan.Adt OwlsRan.Lib

inductive RegistryAbort
  | noRanFunctions
  | badComponents
  | alreadyRegistered
  | biMap
  | nodeNotFound
  deriving DecidableEq

/-- `e2_setup_request_t`, with the ids of the RAN functions and the interfaces of the components. -/
structure E2SetupRequest where
  transId : ℕ
  id : GlobalE2NodeId
  ranFuncItem : List ℕ
  compConfAdd : List ℕ
  deriving DecidableEq

structure E2SetupResponse where
  transId : ℕ
  plmn : E2apPlmn
  accepted : List ℕ
  compConfigAddAck : List ℕ
  deriving DecidableEq

structure PairRfCca where
  ranFunc : List ℕ
  compConfAdd : List ℕ
  deriving DecidableEq

structure E2Node where
  id : GlobalE2NodeId
  accepted : List ℕ
  deriving DecidableEq

/-- What `near_ric_t` and its iApp keep about E2 nodes. -/
structure E2NodeRegistry where
  smDs : List ℕ
  e2Nodes : BiMap cmpGlobalE2NodeId cmpSctpInfo
  nodeToRf : AssocRbTree cmpGlobalE2NodeId PairRfCca
  connE2Nodes : List E2Node
  sent : List (SctpInfo × E2SetupResponse)

namespace E2NodeRegistry

def start (smDs : List ℕ) : E2NodeRegistry := ⟨smDs, .init, .init, [], []⟩

/-- `accept_ran_func`: a function that no service model knows keeps the `0` of its slot. -/
def acceptRanFunc (smDs : List ℕ) (req : E2SetupRequest) : List ℕ :=
  req.ranFuncItem.map fun id => if smDs.contains id then id else 0

def generateSetupResponse (smDs : List ℕ) (req : E2SetupRequest) : Except RegistryAbort E2SetupResponse :=
  if 0 < req.compConfAdd.length ∧ req.compConfAdd.length < 1025 then
    .ok ⟨req.transId, req.id.plmn, acceptRanFunc smDs req, req.compConfAdd⟩
  else .error .badComponents

def addMapE2NodeSad (r : E2NodeRegistry) (id : GlobalE2NodeId) (s : SctpInfo) : E2NodeRegistry :=
  { r with e2Nodes := r.e2Nodes.insert id s }

def addRegE2Node (r : E2NodeRegistry) (id : GlobalE2NodeId) (ranFunc compConfAdd : List ℕ) :
    Except RegistryAbort E2NodeRegistry :=
  if compConfAdd.length = 0 then .error .badComponents
  else if (r.nodeToRf.findIf (eqGlobalE2NodeId id)).isSome then .error .alreadyRegistered
  else .ok { r with nodeToRf := r.nodeToRf.insert id ⟨ranFunc, compConfAdd⟩ }

def addE2NodeIapp (r : E2NodeRegistry) (id : GlobalE2NodeId) (ranFunc compConfAdd : List ℕ) :
    Except RegistryAbort E2NodeRegistry :=
  if ranFunc.length = 0 then .error .noRanFunctions else r.addRegE2Node id ranFunc compConfAdd

def handleSetupRequest (r : E2NodeRegistry) (req : E2SetupRequest) :
    Except RegistryAbort (E2NodeRegistry × E2SetupResponse) := do
  let r ← r.addE2NodeIapp req.id req.ranFuncItem req.compConfAdd
  let ans ← generateSetupResponse r.smDs req
  return ({ r with connE2Nodes := r.connE2Nodes ++ [⟨req.id, ans.accepted⟩] }, ans)

/-- `sctp_msg_arrived_event` for a setup request that came from `info`. -/
def setupRequestArrived (r : E2NodeRegistry) (req : E2SetupRequest) (info : SctpInfo) :
    Except RegistryAbort E2NodeRegistry := do
  let (r, ans) ← (r.addMapE2NodeSad req.id info).handleSetupRequest req
  return { r with sent := r.sent ++ [(info, ans)] }

def rmMapSadE2Node (r : E2NodeRegistry) (s : SctpInfo) : Except RegistryAbort (GlobalE2NodeId × E2NodeRegistry) :=
  match r.e2Nodes.extractRight s with
  | none => .error .biMap
  | some (id, m) => .ok (id, { r with e2Nodes := m })

def eraseConnE2Node (r : E2NodeRegistry) (id : GlobalE2NodeId) : Except RegistryAbort E2NodeRegistry :=
  if r.connE2Nodes.any fun n => eqGlobalE2NodeId n.id id then
    .ok { r with connE2Nodes := r.connE2Nodes.eraseP fun n => eqGlobalE2NodeId n.id id }
  else .error .nodeNotFound

def rmRegE2Node (r : E2NodeRegistry) (id : GlobalE2NodeId) : Except RegistryAbort E2NodeRegistry :=
  match r.nodeToRf.removeIf (eqGlobalE2NodeId id) with
  | none => .error .nodeNotFound
  | some t => .ok { r with nodeToRf := t }

/-- `notification_handle_ric` for a shutdown of the association `info`. -/
def notificationHandle (r : E2NodeRegistry) (info : SctpInfo) : Except RegistryAbort E2NodeRegistry := do
  let (id, r) ← r.rmMapSadE2Node info
  let r ← r.eraseConnE2Node id
  r.rmRegE2Node id

def findMapE2NodeSad (r : E2NodeRegistry) (id : GlobalE2NodeId) : Except RegistryAbort SctpInfo :=
  match r.e2Nodes.left.findIf (eqGlobalE2NodeId id) with
  | none => .error .nodeNotFound
  | some (_, s) => .ok s

inductive Event
  | setupRequest (req : E2SetupRequest) (info : SctpInfo)
  | shutdown (info : SctpInfo)
  deriving DecidableEq

def step (r : E2NodeRegistry) : Event → Except RegistryAbort E2NodeRegistry
  | .setupRequest req info => r.setupRequestArrived req info
  | .shutdown info => r.notificationHandle info

def associate (l : List (GlobalE2NodeId × SctpInfo)) : Event → List (GlobalE2NodeId × SctpInfo)
  | .setupRequest req info => (req.id, info) :: l.filter fun p => p.1 ≠ req.id
  | .shutdown info => l.filter fun p => p.2.addr ≠ info.addr

def associations (es : List Event) : List (GlobalE2NodeId × SctpInfo) := es.foldl associate []

/-- Every node with an association has one entry in the array, one in the registry and one pair in the map, which leads
to the address of its association, and no other node has any. -/
structure Matches (r : E2NodeRegistry) (l : List (GlobalE2NodeId × SctpInfo)) : Prop where
  once : (l.map Prod.fst).Nodup
  connected : (r.connE2Nodes.map E2Node.id).Perm (l.map Prod.fst)
  registered : (r.nodeToRf.toList.map Prod.fst).Perm (l.map Prod.fst)
  holds : r.e2Nodes.Holds l
  found : ∀ p ∈ l, r.findMapE2NodeSad p.1 = .ok p.2

def Offered : Event → Prop
  | .setupRequest req _ =>
    0 < req.ranFuncItem.length ∧ 0 < req.compConfAdd.length ∧ req.compConfAdd.length < 1025
  | .shutdown _ => True

/-- A setup request comes from a node without an entry, over an association without one; a shutdown is that of an
association with an entry. -/
def Fresh (r : E2NodeRegistry) : Event → Prop
  | .setupRequest req info =>
    (∀ n ∈ r.connE2Nodes, n.id ≠ req.id) ∧ ∀ p ∈ r.e2Nodes.right.toList, p.1.addr ≠ info.addr
  | .shutdown info => ∃ p ∈ r.e2Nodes.right.toList, p.1.addr = info.addr

section Steps

variable {r r' : E2NodeRegistry} {l : List (GlobalE2NodeId × SctpInfo)}

/-- `Matches`, with addresses that differ. -/
structure Consistent (r : E2NodeRegistry) (l : List (GlobalE2NodeId × SctpInfo)) : Prop where
  once : (l.map Prod.fst).Nodup
  addrs : (l.map fun p => p.2.addr).Nodup
  connected : (r.connE2Nodes.map E2Node.id).Perm (l.map Prod.fst)
  registered : (r.nodeToRf.toList.map Prod.fst).Perm (l.map Prod.fst)
  holds : r.e2Nodes.Holds l

lemma Consistent.eq_of_id (h : Consistent r l) {p q : GlobalE2NodeId × SctpInfo} (hp : p ∈ l) (hq : q ∈ l)
    (heq : p.1 = q.1) : p = q := List.inj_on_of_nodup_map h.once hp hq heq

lemma Consistent.eq_of_addr (h : Consistent r l) {p q : GlobalE2NodeId × SctpInfo} (hp : p ∈ l) (hq : q ∈ l)
    (heq : p.2.addr = q.2.addr) : p = q := List.inj_on_of_nodup_map h.addrs hp hq heq

lemma Consistent.toMatches (h : Consistent r l) : r.Matches l where
  once := h.once
  connected := h.connected
  registered := h.registered
  holds := h.holds
  found := by
    rintro ⟨id, s⟩ hp
    unfold findMapE2NodeSad
    cases hfind : r.e2Nodes.left.findIf (eqGlobalE2NodeId id) with
    | none =>
      have hne := AssocRbTree.findIf_eq_none.mp hfind (id, s) (h.holds.mem_left.mpr hp)
      rw [eqGlobalE2NodeId_iff.mpr rfl] at hne
      cases hne
    | some q =>
      obtain ⟨id', s'⟩ := q
      obtain ⟨hmem, heq⟩ := AssocRbTree.mem_of_findIf hfind
      have hq := h.eq_of_id (h.holds.mem_left.mp hmem) hp (eqGlobalE2NodeId_iff.mp heq).symm
      obtain ⟨rfl, rfl⟩ := by simpa using hq
      rfl

lemma Consistent.setupRequest (h : Consistent r l) {req : E2SetupRequest} {info : SctpInfo}
    (hoffered : Offered (.setupRequest req info)) (hfresh : r.Fresh (.setupRequest req info)) :
    ∃ r', r.step (.setupRequest req info) = .ok r' ∧ Consistent r' (associate l (.setupRequest req info)) := by
  obtain ⟨hrf, hpos, hmax⟩ := hoffered
  obtain ⟨hid, haddr⟩ := hfresh
  have hid' : ∀ p ∈ l, p.1 ≠ req.id := by
    intro p hp heq
    have hmem : p.1 ∈ r.connE2Nodes.map E2Node.id := h.connected.mem_iff.mpr (List.mem_map_of_mem hp)
    obtain ⟨n, hn, hnid⟩ := List.mem_map.mp hmem
    exact hid n hn (hnid.trans heq)
  have haddr' : ∀ p ∈ l, p.2.addr ≠ info.addr := fun p hp => haddr (p.2, p.1) (h.holds.mem_right.mpr hp)
  have hnew : r.nodeToRf.findIf (eqGlobalE2NodeId req.id) = none := by
    rw [AssocRbTree.findIf_eq_none]
    intro a ha
    have hmem : a.1 ∈ l.map Prod.fst := h.registered.mem_iff.mp (List.mem_map_of_mem ha)
    obtain ⟨p, hp, hpa⟩ := List.mem_map.mp hmem
    have hne : ¬eqGlobalE2NodeId req.id a.1 = true := fun heq =>
      hid' p hp (hpa.trans (eqGlobalE2NodeId_iff.mp heq).symm)
    simpa using hne
  have hkeep : l.filter (fun p => p.1 ≠ req.id) = l := List.filter_eq_self.mpr (by simpa using hid')
  have hrf' : ¬req.ranFuncItem.length = 0 := by omega
  have hcca : ¬req.compConfAdd.length = 0 := by omega
  refine ⟨{
      smDs := r.smDs
      e2Nodes := r.e2Nodes.insert req.id info
      nodeToRf := r.nodeToRf.insert req.id ⟨req.ranFuncItem, req.compConfAdd⟩
      connE2Nodes := r.connE2Nodes ++ [⟨req.id, acceptRanFunc r.smDs req⟩]
      sent := r.sent ++ [(info, ⟨req.transId, req.id.plmn, acceptRanFunc r.smDs req, req.compConfAdd⟩)] }, ?_, ?_⟩
  · simp [step, setupRequestArrived, handleSetupRequest, addE2NodeIapp, hrf', addRegE2Node, hcca, addMapE2NodeSad,
      hnew, generateSetupResponse, hpos, hmax, bind, Except.bind, pure, Except.pure]
  · rw [associate, hkeep]
    exact {
      once := List.nodup_cons.mpr ⟨fun hmem => by
        obtain ⟨p, hp, hpid⟩ := List.mem_map.mp hmem
        exact hid' p hp hpid, h.once⟩
      addrs := List.nodup_cons.mpr ⟨fun hmem => by
        obtain ⟨p, hp, hpaddr⟩ := List.mem_map.mp hmem
        exact haddr' p hp hpaddr, h.addrs⟩
      connected := by
        rw [List.map_append, List.map_cons, List.map_nil, List.map_cons]
        exact (List.perm_append_singleton ..).trans (h.connected.cons _)
      registered := (AssocRbTree.perm_insert.map _).trans (h.registered.cons _)
      holds := h.holds.insert req.id info }

lemma Consistent.shutdown (h : Consistent r l) {info : SctpInfo} (hfresh : r.Fresh (.shutdown info)) :
    ∃ r', r.step (.shutdown info) = .ok r' ∧ Consistent r' (associate l (.shutdown info)) := by
  obtain ⟨⟨s, id⟩, hmemR, haddr⟩ := hfresh
  have hmem : (id, s) ∈ l := h.holds.mem_right.mp hmemR
  have hright : r.e2Nodes.right.find? info = some (s, id) := by
    apply AssocRbTree.find?_eq_some_of_unique hmemR (cmpSctpInfo_eq_iff.mpr (Eq.symm haddr))
    rintro ⟨s', id'⟩ hmem' heq
    have heq' := h.eq_of_addr (h.holds.mem_right.mp hmem') hmem ((cmpSctpInfo_eq_iff.mp heq).symm.trans (Eq.symm haddr))
    simp_all
  have hleft : r.e2Nodes.left.find? id = some (id, s) := by
    apply AssocRbTree.find?_eq_some_of_unique (h.holds.mem_left.mpr hmem) (cmpGlobalE2NodeId_eq_iff.mpr rfl)
    rintro ⟨id', s'⟩ hmem' heq
    exact h.eq_of_id (h.holds.mem_left.mp hmem') hmem (cmpGlobalE2NodeId_eq_iff.mp heq).symm
  obtain ⟨m, hextract, rest, hperm, hholds⟩ := h.holds.extractRight hright hleft
  obtain ⟨hrest, -⟩ := perm_filter_ne h.addrs hperm
  -- The array loses the only node with the id.
  have hids : (r.connE2Nodes.map E2Node.id).Perm (id :: rest.map Prod.fst) := h.connected.trans (hperm.map Prod.fst)
  obtain ⟨n, hn, hnid⟩ := List.mem_map.mp (hids.mem_iff.mpr (List.mem_cons_self ..))
  have hany : r.connE2Nodes.any (fun n => eqGlobalE2NodeId n.id id) = true :=
    List.any_eq_true.mpr ⟨n, hn, eqGlobalE2NodeId_iff.mpr hnid⟩
  obtain ⟨n', l₁, l₂, -, hn', hconn, herase⟩ :=
    List.exists_of_eraseP (p := fun n => eqGlobalE2NodeId n.id id) hn (eqGlobalE2NodeId_iff.mpr hnid)
  have hconn' : ((r.connE2Nodes.eraseP fun n => eqGlobalE2NodeId n.id id).map E2Node.id).Perm (rest.map Prod.fst) := by
    rw [hconn, List.map_append, List.map_cons, eqGlobalE2NodeId_iff.mp hn'] at hids
    rw [herase, List.map_append]
    exact (List.perm_middle.symm.trans hids).cons_inv
  -- So does the registry.
  have hreg : (r.nodeToRf.toList.map Prod.fst).Perm (id :: rest.map Prod.fst) :=
    h.registered.trans (hperm.map Prod.fst)
  obtain ⟨t, hremove, hreg'⟩ : ∃ t, r.nodeToRf.removeIf (eqGlobalE2NodeId id) = some t ∧
      (t.toList.map Prod.fst).Perm (rest.map Prod.fst) := by
    cases hfind : r.nodeToRf.findIf (eqGlobalE2NodeId id) with
    | none =>
      obtain ⟨a, ha, haid⟩ := List.mem_map.mp (hreg.mem_iff.mpr (List.mem_cons_self ..))
      have hne := AssocRbTree.findIf_eq_none.mp hfind a ha
      rw [eqGlobalE2NodeId_iff.mpr (Eq.symm haid)] at hne
      cases hne
    | some a =>
      obtain ⟨id', rf⟩ := a
      obtain ⟨t, hremove, hpt⟩ := AssocRbTree.removeIf_eq_some hfind
      have hid' : id = id' := eqGlobalE2NodeId_iff.mp (AssocRbTree.mem_of_findIf hfind).2
      subst hid'
      exact ⟨t, hremove, ((hpt.map Prod.fst).symm.trans hreg).cons_inv⟩
  refine ⟨{ r with
    e2Nodes := m, connE2Nodes := r.connE2Nodes.eraseP fun n => eqGlobalE2NodeId n.id id, nodeToRf := t }, ?_, ?_⟩
  · simp [step, notificationHandle, rmMapSadE2Node, hextract, eraseConnE2Node, hany, rmRegE2Node, hremove, bind,
      Except.bind]
  · rw [associate, ← show s.addr = info.addr from haddr]
    exact {
      once := h.once.sublist (List.filter_sublist.map _)
      addrs := h.addrs.sublist (List.filter_sublist.map _)
      connected := hconn'.trans (hrest.map _)
      registered := hreg'.trans (hrest.map _)
      holds := hholds.perm hrest }

lemma Consistent.step (h : Consistent r l) {e : Event} (he : Offered e ∧ r.Fresh e) :
    ∃ r', r.step e = .ok r' ∧ Consistent r' (associate l e) := by
  cases e with
  | setupRequest req info => exact h.setupRequest he.1 he.2
  | shutdown info => exact h.shutdown he.2

lemma consistent_start (smDs : List ℕ) : Consistent (start smDs) [] :=
  ⟨List.nodup_nil, List.nodup_nil, .nil, .nil, BiMap.holds_init⟩

/-- In every run in which neither a node nor an address enters a second time before it has left, no assert fails and the
registry matches the associations that are up. -/
theorem registry_matches_associations (smDs : List ℕ) (es : List Event)
    (hrun : RunsWithin E2NodeRegistry.step (fun r e => Offered e ∧ r.Fresh e) (start smDs) es) :
    ∃ r, runEvents E2NodeRegistry.step (start smDs) es = .ok r ∧ r.Matches (associations es) := by
  have hsim : ∀ r l e, Consistent r l → Offered e ∧ r.Fresh e →
      ∃ r', E2NodeRegistry.step r e = .ok r' ∧ Consistent r' (associate l e) := fun _ _ _ h he => h.step he
  obtain ⟨r, hes, h⟩ := runsWithin_simulates _ hsim (consistent_start smDs) hrun
  exact ⟨r, hes, h.toMatches⟩

end Steps

instance (e : Event) : Decidable (Offered e) :=
  match e with
  | .setupRequest req _ => inferInstanceAs (Decidable (0 < req.ranFuncItem.length ∧ _))
  | .shutdown _ => isTrue trivial

instance (r : E2NodeRegistry) (e : Event) : Decidable (r.Fresh e) :=
  match e with
  | .setupRequest req _ => inferInstanceAs (Decidable ((∀ n ∈ r.connE2Nodes, n.id ≠ req.id) ∧ _))
  | .shutdown info => inferInstanceAs (Decidable (∃ p ∈ r.e2Nodes.right.toList, p.1.addr = info.addr))

section Example

def gNBSetup : E2SetupRequest := ⟨0, ⟨.gNB, ⟨1, 1, 2⟩, ⟨3584, 0⟩, none, rfl⟩, [142], [0]⟩

def gNBAddress (port : ℕ) : SctpInfo := ⟨⟨port, 2130706433, 2⟩, 1⟩

/-- The node leaves and comes back from another port. -/
theorem registry_matches_associations_reconnected :
    ∃ r, runEvents step (start [142]) [.setupRequest gNBSetup (gNBAddress 40000), .shutdown (gNBAddress 40000),
        .setupRequest gNBSetup (gNBAddress 40001)] = .ok r ∧
      r.Matches (associations [.setupRequest gNBSetup (gNBAddress 40000), .shutdown (gNBAddress 40000),
        .setupRequest gNBSetup (gNBAddress 40001)]) :=
  registry_matches_associations [142] _ (by decide +kernel)

def gNBDuSetup : E2SetupRequest := ⟨0, ⟨.gNBDU, ⟨1, 1, 2⟩, ⟨3584, 0⟩, some 7, rfl⟩, [142], [0]⟩

/-- The setup request that the agent sends again after three seconds stops the RIC, and of two nodes that have set up
over one association, one is still there when the association is gone. -/
theorem registry_not_matches_associations :
    (Offered (.setupRequest gNBSetup (gNBAddress 40000)) ∧
      runEvents step (start [142]) [.setupRequest gNBSetup (gNBAddress 40000),
        .setupRequest gNBSetup (gNBAddress 40000)] = .error .alreadyRegistered) ∧
    Offered (.setupRequest gNBDuSetup (gNBAddress 40000)) ∧
      ∃ r, runEvents step (start [142]) [.setupRequest gNBSetup (gNBAddress 40000),
          .setupRequest gNBDuSetup (gNBAddress 40000), .shutdown (gNBAddress 40000)] = .ok r ∧
        ¬r.Matches (associations [.setupRequest gNBSetup (gNBAddress 40000),
          .setupRequest gNBDuSetup (gNBAddress 40000), .shutdown (gNBAddress 40000)]) := by
  refine ⟨⟨by decide, rfl⟩, by decide, _, rfl, fun h => ?_⟩
  have hlen := h.connected.length_eq
  revert hlen
  decide +kernel

end Example

end E2NodeRegistry

end OwlsRan.FlexRic
