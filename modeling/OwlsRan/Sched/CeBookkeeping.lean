import OwlsRan.Sched.CeQueue

namespace OwlsRan.Sched
open OwlsRan.Lib OwlsRan.Adt OwlsRan.Ran

def UeRow.ceView (u : UeRow) : Nat × Bool × Nat × Option Nat :=
  (u.ueIndex, u.fallbackState, u.pendingCeBytes, u.pendingCes)

/-- `st'` has the CEs of `st`. -/
structure SameCes (st st' : LogicalChannelSystem) : Prop where
  pendingCes : st'.pendingCes = st.pendingCes
  uesWithPendingCes : st'.uesWithPendingCes = st.uesWithPendingCes
  configuredUes : st'.configuredUes = st.configuredUes
  rows : ∀ rid, (st'.ues.row? rid).map UeRow.ceView = (st.ues.row? rid).map UeRow.ceView

namespace LogicalChannelSystem

variable {st st' : LogicalChannelSystem} {rid : Nat}

lemma row?_modify_ceView {f : UeRow → UeRow} (hf : ∀ u, (f u).ceView = u.ceView) (r : Nat) :
    ((st.ues.modify rid f).row? r).map UeRow.ceView = (st.ues.row? r).map UeRow.ceView := by
  rw [SoaTable.row?_modify]
  split
  case isTrue =>
    rw [Option.map_map]
    congr 1
    funext u
    exact hf u
  case isFalse => rfl

lemma withScope_sameCes (x : LcScope) : SameCes st (st.withScope rid x) :=
  ⟨rfl, rfl, rfl, row?_modify_ceView fun _ => rfl⟩

lemma updateLcs_sameCes {f : UeView → LcScope → Except LcAbort LcScope} (h : st.updateLcs rid f = .ok st') :
    SameCes st st' := by
  obtain ⟨u, x, -, -, rfl⟩ := updateLcs_ok h
  exact withScope_sameCes x

lemma resetSrIndication_sameCes (h : st.resetSrIndication rid = .ok st') : SameCes st st' := by
  obtain ⟨u, -, h⟩ := bind_eq_ok.mp h
  obtain ⟨bits, -, h⟩ := bind_eq_ok.mp h
  cases h
  exact ⟨rfl, rfl, rfl, fun _ => rfl⟩

/-- Every UE has its list in `L`, the lists are disjoint, and no one else has a bit. -/
structure CeConsistent (st : LogicalChannelSystem) (L : Nat → List Nat) (logs : Nat → CeLog) : Prop where
  queue : ∀ rid u, st.ues.row? rid = some u →
    CeQueue st.pendingCes (st.uesWithPendingCes.bit u.ueIndex) u (L rid) (logs rid)
  disjoint : ∀ rid rid' u u', st.ues.row? rid = some u → st.ues.row? rid' = some u' → rid ≠ rid' →
    ∀ r ∈ L rid, r ∉ L rid'
  configured : ∀ rid u, st.ues.row? rid = some u → st.configuredUes.bit u.ueIndex = true
  unique : ∀ rid rid' u u', st.ues.row? rid = some u → st.ues.row? rid' = some u' → u.ueIndex = u'.ueIndex → rid = rid'
  idle : ∀ i, st.configuredUes.bit i = false → st.uesWithPendingCes.bit i = false
  size : st.uesWithPendingCes.size = st.configuredUes.size

variable {L : Nat → List Nat} {logs : Nat → CeLog}

lemma init_ceConsistent : CeConsistent init (fun _ => []) (fun _ => .empty) :=
  ⟨fun _ _ h => by simp [init] at h, fun _ _ _ _ h => by simp [init] at h, fun _ _ h => by simp [init] at h,
    fun _ _ _ _ h => by simp [init] at h, fun _ _ => rfl, rfl⟩

lemma CeConsistent.sameCes (h : CeConsistent st L logs) (hs : SameCes st st') : CeConsistent st' L logs := by
  have hold : ∀ r u', st'.ues.row? r = some u' → ∃ u, st.ues.row? r = some u ∧ u.ueIndex = u'.ueIndex ∧
      u'.fallbackState = u.fallbackState ∧ u'.pendingCeBytes = u.pendingCeBytes ∧ u'.pendingCes = u.pendingCes := by
    intro r u' hu'
    have hrow := hs.rows r
    rw [hu'] at hrow
    obtain ⟨u, hu, hview⟩ := Option.map_eq_some_iff.mp hrow.symm
    unfold UeRow.ceView at hview
    rw [Prod.mk.injEq, Prod.mk.injEq, Prod.mk.injEq] at hview
    exact ⟨u, hu, hview.1, hview.2.1.symm, hview.2.2.1.symm, hview.2.2.2.symm⟩
  refine ⟨fun r u' hu' => ?_, fun r r' u u' hu hu' hne => ?_, fun r u' hu' => ?_, fun r r' u u' hu hu' heq => ?_, ?_, ?_⟩
  · obtain ⟨u, hu, hidx, hfb, hbytes, hces⟩ := hold r u' hu'
    rw [hs.pendingCes, hs.uesWithPendingCes, ← hidx]
    exact (h.queue r u hu).congr (fun _ _ => rfl) hces hbytes hfb
  · obtain ⟨v, hv, -⟩ := hold r u hu
    obtain ⟨v', hv', -⟩ := hold r' u' hu'
    exact h.disjoint r r' v v' hv hv' hne
  · obtain ⟨u, hu, hidx, -⟩ := hold r u' hu'
    rw [hs.configuredUes, ← hidx]
    exact h.configured r u hu
  · obtain ⟨v, hv, hidx, -⟩ := hold r u hu
    obtain ⟨v', hv', hidx', -⟩ := hold r' u' hu'
    exact h.unique r r' v v' hv hv' (by omega)
  · rw [hs.configuredUes, hs.uesWithPendingCes]
    exact h.idle
  · rw [hs.configuredUes, hs.uesWithPendingCes]
    exact h.size

/-- One UE gets a new list, made of its old rows and of fresh ones; the rows of the other UEs stay. -/
lemma CeConsistent.replace (h : CeConsistent st L logs) (u' : UeRow) (l' : List Nat) {log' : CeLog} {u : UeRow}
    (hu : st.ues.row? rid = some u) (hrows : ∀ r, st'.ues.row? r = if r = rid then some u' else st.ues.row? r)
    (hidx : u'.ueIndex = u.ueIndex) (hconf : st'.configuredUes = st.configuredUes)
    (hbits : ∀ i, i ≠ u.ueIndex → st'.uesWithPendingCes.bit i = st.uesWithPendingCes.bit i)
    (hsize : st'.uesWithPendingCes.size = st.uesWithPendingCes.size)
    (htable : ∀ r a, r ∉ L rid → st.pendingCes.row? r = some a → st'.pendingCes.row? r = some a)
    (hl' : ∀ r ∈ l', r ∈ L rid ∨ st.pendingCes.row? r = none)
    (hq : CeQueue st'.pendingCes (st'.uesWithPendingCes.bit u.ueIndex) u' l' log') :
    CeConsistent st' (Function.update L rid l') (Function.update logs rid log') := by
  -- the list of another UE holds neither an old row of this one nor a fresh one
  have hother : ∀ r v, st.ues.row? r = some v → r ≠ rid → ∀ x ∈ L r, x ∉ l' := by
    intro r v hv hne x hx hx'
    rcases hl' x hx' with hin | hfresh
    · exact h.disjoint r rid v u hv hu hne x hx hin
    · obtain ⟨a, ha⟩ := (h.queue r v hv).linked.row x hx
      rw [hfresh] at ha
      cases ha
  have hold : ∀ r v, st'.ues.row? r = some v → r ≠ rid → st.ues.row? r = some v := by
    intro r v hv hne
    rwa [hrows, if_neg hne] at hv
  have hself : ∀ v, st'.ues.row? rid = some v → v = u' := by
    intro v hv
    rw [hrows, if_pos rfl] at hv
    exact (Option.some.inj hv).symm
  have hindex : ∀ r v, st'.ues.row? r = some v → ∃ v₀, st.ues.row? r = some v₀ ∧ v₀.ueIndex = v.ueIndex := by
    intro r v hv
    by_cases hr : r = rid
    · subst hr
      exact ⟨u, hu, by rw [hself v hv, hidx]⟩
    · exact ⟨v, hold r v hv hr, rfl⟩
  refine ⟨fun r v hv => ?_, fun r r' v v' hv hv' hne x hx => ?_, fun r v hv => ?_, fun r r' v v' hv hv' heq => ?_,
    fun i hi => ?_, ?_⟩
  · by_cases hr : r = rid
    · subst hr
      rw [Function.update_self, Function.update_self, hself v hv, hidx]
      exact hq
    · rw [Function.update_of_ne hr, Function.update_of_ne hr]
      have hv₀ := hold r v hv hr
      have hne : v.ueIndex ≠ u.ueIndex := fun heq => hr (h.unique r rid v u hv₀ hu heq)
      rw [hbits _ hne]
      refine (h.queue r v hv₀).congr (fun x hx => ?_) rfl rfl rfl
      obtain ⟨a, ha⟩ := (h.queue r v hv₀).linked.row x hx
      rw [ha]
      exact htable x a (h.disjoint r rid v u hv₀ hu hr x hx) ha
  · by_cases hr : r = rid
    · subst hr
      have hr' : r' ≠ r := Ne.symm hne
      rw [Function.update_self] at hx
      rw [Function.update_of_ne hr']
      exact fun hx' => hother r' v' (hold r' v' hv' hr') hr' x hx' hx
    · rw [Function.update_of_ne hr] at hx
      by_cases hr' : r' = rid
      · subst hr'
        rw [Function.update_self]
        exact hother r v (hold r v hv hr) hr x hx
      · rw [Function.update_of_ne hr']
        exact h.disjoint r r' v v' (hold r v hv hr) (hold r' v' hv' hr') hne x hx
  · obtain ⟨v₀, hv₀, heq⟩ := hindex r v hv
    rw [hconf, ← heq]
    exact h.configured r v₀ hv₀
  · obtain ⟨v₀, hv₀, heq₀⟩ := hindex r v hv
    obtain ⟨v₀', hv₀', heq₀'⟩ := hindex r' v' hv'
    exact h.unique r r' v₀ v₀' hv₀ hv₀' (by omega)
  · rw [hconf] at hi
    have hne : i ≠ u.ueIndex := by
      rintro rfl
      rw [h.configured rid u hu] at hi
      cases hi
    rw [hbits i hne]
    exact h.idle i hi
  · rw [hsize, hconf]
    exact h.size

lemma CeConsistent.replaceSame (h : CeConsistent st L logs) (u' : UeRow) {u : UeRow} (hu : st.ues.row? rid = some u)
    (hrows : ∀ r, st'.ues.row? r = if r = rid then some u' else st.ues.row? r)
    (hidx : u'.ueIndex = u.ueIndex) (hconf : st'.configuredUes = st.configuredUes)
    (hbits : ∀ i, i ≠ u.ueIndex → st'.uesWithPendingCes.bit i = st.uesWithPendingCes.bit i)
    (hsize : st'.uesWithPendingCes.size = st.uesWithPendingCes.size)
    (htable : ∀ r a, r ∉ L rid → st.pendingCes.row? r = some a → st'.pendingCes.row? r = some a)
    (hq : CeQueue st'.pendingCes (st'.uesWithPendingCes.bit u.ueIndex) u' (L rid) (logs rid)) :
    CeConsistent st' L logs := by
  have := h.replace u' _ hu hrows hidx hconf hbits hsize htable (fun r hr => Or.inl hr) hq
  rwa [Function.update_eq_self, Function.update_eq_self] at this

/-- The conditions under which a CE may arrive: a UE in fallback gets no new list entry, and the bytes fit in their
counter. -/
def CeTimely (st : LogicalChannelSystem) : LcEvent → Prop
  | .handleMacCeIndication rid ce =>
    match st.ues.row? rid with
    | none => True
    | some u =>
      ce.ceLcid = LcidDlSch.UE_CON_RES_ID ∨ overwritesTaCmd st u ce = true ∨
        (u.fallbackState = false ∧ u.pendingCeBytes + ceRequiredBytes ce.ceLcid < 4294967296)
  | _ => True

instance (st : LogicalChannelSystem) : ∀ e, Decidable (CeTimely st e)
  | .handleMacCeIndication rid ce => by
    dsimp only [CeTimely]
    exact Option.casesOn (st.ues.row? rid) (isTrue trivial) fun _ => inferInstance
  | .slotIndication | .createUe .. | .removeUe _ | .configure .. | .deactivate _ | .setFallbackState ..
  | .setLcidRanSlice .. | .setLcgRanSlice .. | .resetLcidRanSlice .. | .resetLcgRanSlice ..
  | .handleDlBufferStatusIndication .. | .handleBsrIndication .. | .handleSrIndication _ | .resetSrIndication _
  | .allocateMacSdu .. | .allocateMacCe .. | .allocateUeConResIdMacCe .. | .handleUlGrant .. => isTrue trivial

/-- What a call adds to the logs. -/
def logStep (st : LogicalChannelSystem) (logs : Nat → CeLog) : LcEvent → Nat → CeLog
  | .createUe .. => Function.update logs st.ues.nextRowId .empty
  | .deactivate rid => Function.update logs rid .empty
  | .removeUe rid => Function.update logs rid .empty
  | .handleMacCeIndication rid ce =>
    if ce.ceLcid = LcidDlSch.UE_CON_RES_ID then logs else Function.update logs rid ((logs rid).arrive ce)
  | .allocateMacCe rid subpdu remBytes =>
    match st.allocateMacCe rid subpdu remBytes with
    | .error _ => logs
    | .ok (alloc, _) =>
      if alloc.allocBytes = 0 ∨ alloc.subpdu.lcid = LcidDlSch.UE_CON_RES_ID then logs
      else Function.update logs rid ((logs rid).emit ⟨alloc.subpdu.lcid, alloc.subpdu.cePayload⟩)
  | _ => logs

def stepLogged (s : LogicalChannelSystem × (Nat → CeLog)) (e : LcEvent) :
    Except LcAbort (LogicalChannelSystem × (Nat → CeLog)) := do
  let st ← s.1.step e
  .ok (st, logStep s.1 s.2 e)

section Arrival

lemma CeLog.arrive_queue {log : CeLog} {queue : List MacCeInfo} (h : log.arrived = log.emitted ++ queue)
    (ce : MacCeInfo) : (log.arrive ce).arrived = (log.arrive ce).emitted ++ enqueueCe queue ce := by
  unfold CeLog.arrive
  dsimp only
  rw [h, List.drop_left]

variable {u : UeRow}

lemma CeConsistent.overwrite (h : CeConsistent st L logs) (hu : st.ues.row? rid = some u) {ce : MacCeInfo}
    {r : Nat} {ctx : MacCeContext} (hr : r ∈ L rid) (hrow : st.pendingCes.row? r = some ctx)
    (hta : isTaCmd ctx.info = true) (hce : isTaCmd ce = true) :
    CeConsistent
      { st with pendingCes := st.pendingCes.modify r fun c => { c with info.cePayload := ce.cePayload } }
      L (Function.update logs rid ((logs rid).arrive ce)) := by
  have hq := h.queue rid u hu
  have hany : (ceInfos st.pendingCes (L rid)).any isTaCmd = true :=
    List.any_eq_true.mpr ⟨ctx.info, mem_ceInfos.mpr ⟨r, hr, ctx, hrow, rfl⟩, hta⟩
  have henqueue : enqueueCe (ceInfos st.pendingCes (L rid)) ce =
      (ceInfos st.pendingCes (L rid)).map (overwriteTaCmd ce) := by
    unfold enqueueCe
    rw [hce, hany]
    rfl
  -- the walk stopped at the only TA_CMD of the list
  have hinfos : ceInfos (st.pendingCes.modify r fun c => { c with info.cePayload := ce.cePayload }) (L rid) =
      (ceInfos st.pendingCes (L rid)).map (overwriteTaCmd ce) := by
    refine ceInfos_map fun r' hr' => ?_
    rw [SoaTable.row?_modify]
    by_cases heq : r' = r
    · rw [if_pos heq, heq, hrow]
      simp [overwriteTaCmd, hta]
    · rw [if_neg heq]
      cases hrow' : st.pendingCes.row? r' with
      | none => rfl
      | some ctx' =>
        have hno : isTaCmd ctx'.info ≠ true := fun hta' =>
          heq (taCmd_unique hq.taCmd hr' hr hrow' hrow hta' hta)
        simp [overwriteTaCmd, hno]
  rw [← Function.update_eq_self rid L]
  refine h.replace u (L rid) hu (fun r' => ?_) rfl rfl (fun _ _ => rfl) rfl ?_ (fun _ hx => Or.inl hx) ?_
  · by_cases heq : r' = rid
    · rw [if_pos heq, heq, hu]
    · rw [if_neg heq]
  · intro x a hx ha
    have hne : x ≠ r := by
      rintro rfl
      exact hx hr
    dsimp only
    rw [SoaTable.row?_modify, if_neg hne]
    exact ha
  · dsimp only
    constructor
    · refine hq.linked.relabel fun x hx a ha => ?_
      rw [SoaTable.row?_modify]
      by_cases heq : x = r
      · rw [if_pos heq, ha]
        exact ⟨_, rfl, rfl⟩
      · rw [if_neg heq]
        exact ⟨a, ha, rfl⟩
    · exact hq.nodup
    · rw [hinfos, hq.bytes]
      unfold ceBytes
      rw [List.map_map]
      congr 1
      apply List.map_congr_left
      intro c _
      simp
    · exact hq.small
    · rw [hinfos, List.countP_map]
      have hsame : isTaCmd ∘ overwriteTaCmd ce = isTaCmd := by
        funext c
        exact isTaCmd_overwriteTaCmd ce c
      rw [hsame]
      exact hq.taCmd
    · rw [hinfos, ← henqueue]
      exact CeLog.arrive_queue hq.fifo ce
    · rw [hinfos]
      intro c hc
      obtain ⟨c₀, hc₀, rfl⟩ := List.mem_map.mp hc
      rw [overwriteTaCmd_ceLcid]
      exact hq.noConRes c₀ hc₀
    · exact hq.bit

lemma appendCe_uesWithPendingCes (rid : Nat) (ce : MacCeInfo) (prev : Option Nat) :
    (st.appendCe rid ce prev).uesWithPendingCes = st.uesWithPendingCes := by
  unfold appendCe
  cases prev <;> rfl

lemma CeConsistent.nextRowId_not_mem (h : CeConsistent st L logs) (hu : st.ues.row? rid = some u) :
    st.pendingCes.nextRowId ∉ L rid := by
  intro hin
  obtain ⟨a, ha⟩ := (h.queue rid u hu).linked.row _ hin
  rw [st.pendingCes.row?_nextRowId] at ha
  cases ha

lemma CeConsistent.appendCe_spec (h : CeConsistent st L logs) (hu : st.ues.row? rid = some u) (ce : MacCeInfo) :
    ∃ head, (∀ r, (st.appendCe rid ce (L rid).getLast?).ues.row? r =
        if r = rid then some { u with pendingCes := head } else st.ues.row? r) ∧
      (st.appendCe rid ce (L rid).getLast?).configuredUes = st.configuredUes ∧
      (∀ r a, r ∉ L rid → st.pendingCes.row? r = some a →
        (st.appendCe rid ce (L rid).getLast?).pendingCes.row? r = some a) ∧
      Linked MacCeContext.nextUeCe (st.appendCe rid ce (L rid).getLast?).pendingCes head
        (L rid ++ [st.pendingCes.nextRowId]) ∧
      ceInfos (st.appendCe rid ce (L rid).getLast?).pendingCes (L rid ++ [st.pendingCes.nextRowId]) =
        ceInfos st.pendingCes (L rid) ++ [ce] := by
  have hq := h.queue rid u hu
  have hfresh := st.pendingCes.row?_nextRowId
  have hnotin := h.nextRowId_not_mem hu
  have hold : ∀ r a, st.pendingCes.row? r = some a → r ≠ st.pendingCes.nextRowId := by
    rintro r a ha rfl
    rw [hfresh] at ha
    cases ha
  cases hlast : (L rid).getLast? with
  | none =>
    have hnil : L rid = [] := List.getLast?_eq_none_iff.mp hlast
    have hnew : (st.pendingCes.insert ⟨ce, none⟩).1.row? st.pendingCes.nextRowId = some ⟨ce, none⟩ := by
      rw [SoaTable.row?_insert, if_pos rfl]
    refine ⟨some st.pendingCes.nextRowId, row?_modify_of_some hu, rfl, fun r a _ ha => ?_, ?_, ?_⟩
    · change (st.pendingCes.insert ⟨ce, none⟩).1.row? r = some a
      rw [SoaTable.row?_insert, if_neg (hold r a ha)]
      exact ha
    · rw [hnil]
      exact ⟨rfl, _, hnew, rfl⟩
    · rw [hnil]
      exact ceInfos_cons hnew
  | some prev =>
    have hprev : prev ∈ L rid := List.mem_of_getLast? hlast
    obtain ⟨p, hp⟩ := hq.linked.row prev hprev
    have hrow : ∀ r, (st.appendCe rid ce (some prev)).pendingCes.row? r =
        if r = prev then some { p with nextUeCe := some st.pendingCes.nextRowId }
        else if r = st.pendingCes.nextRowId then some ⟨ce, none⟩ else st.pendingCes.row? r := by
      intro r
      refine (SoaTable.row?_modify _ r).trans ?_
      by_cases hr : r = prev
      · rw [if_pos hr, if_pos hr, hr, SoaTable.row?_insert, if_neg (hold prev p hp), hp]
        rfl
      · rw [if_neg hr, if_neg hr, SoaTable.row?_insert]
    have hne : st.pendingCes.nextRowId ≠ prev := fun heq => hold prev p hp heq.symm
    have hnew : (st.appendCe rid ce (some prev)).pendingCes.row? st.pendingCes.nextRowId = some ⟨ce, none⟩ := by
      rw [hrow, if_neg hne, if_pos rfl]
    refine ⟨u.pendingCes, fun r => ?_, rfl, fun r a hr ha => ?_, ?_, ?_⟩
    · by_cases hr : r = rid
      · rw [if_pos hr, hr]
        exact hu
      · rw [if_neg hr]
        rfl
    · have hrp : r ≠ prev := by
        rintro rfl
        exact hr hprev
      rw [hrow, if_neg hrp, if_neg (hold r a ha)]
      exact ha
    · refine hq.linked.concat hq.nodup hlast hnew rfl (fun r hr hrp => ?_) ⟨_, (hrow prev).trans (if_pos rfl), rfl⟩
      have hrn : r ≠ st.pendingCes.nextRowId := by
        rintro rfl
        exact hnotin hr
      rw [hrow, if_neg hrp, if_neg hrn]
    · rw [ceInfos_concat hnew]
      congr 1
      have hid : ceInfos st.pendingCes (L rid) = (ceInfos st.pendingCes (L rid)).map id := (List.map_id _).symm
      rw [hid]
      refine ceInfos_map fun r hr => ?_
      have hrn : r ≠ st.pendingCes.nextRowId := by
        rintro rfl
        exact hnotin hr
      rw [hrow]
      by_cases hrp : r = prev
      · rw [if_pos hrp, hrp, hp]
        rfl
      · rw [if_neg hrp, if_neg hrn]
        rfl

lemma CeConsistent.append (h : CeConsistent st L logs) (hu : st.ues.row? rid = some u) {ce : MacCeInfo}
    (hconRes : ce.ceLcid ≠ LcidDlSch.UE_CON_RES_ID)
    (hta : ¬(isTaCmd ce = true ∧ (ceInfos st.pendingCes (L rid)).any isTaCmd = true))
    (hfallback : u.fallbackState = false) (hsmall : u.pendingCeBytes + ceRequiredBytes ce.ceLcid < 4294967296)
    {bits : BoundedBitset MAX_NOF_DU_UES} (hbits : st.uesWithPendingCes.set u.ueIndex true = .ok bits) :
    CeConsistent
      { (st.appendCe rid ce (L rid).getLast?).modifyUe rid fun u =>
          { u with pendingCeBytes := wrap32 (u.pendingCeBytes + ceRequiredBytes ce.ceLcid) } with
        uesWithPendingCes := bits }
      (Function.update L rid (L rid ++ [st.pendingCes.nextRowId])) (Function.update logs rid ((logs rid).arrive ce)) := by
  have hq := h.queue rid u hu
  have hfresh := st.pendingCes.row?_nextRowId
  have hnotin := h.nextRowId_not_mem hu
  obtain ⟨head, hrows, hconf, htable, hlinked, hinfos⟩ := h.appendCe_spec hu ce
  have hwrap : wrap32 (u.pendingCeBytes + ceRequiredBytes ce.ceLcid) = u.pendingCeBytes + ceRequiredBytes ce.ceLcid :=
    Nat.mod_eq_of_lt hsmall
  refine h.replace { u with
      pendingCes := head, pendingCeBytes := wrap32 (u.pendingCeBytes + ceRequiredBytes ce.ceLcid) }
    _ hu (fun r => ?_) rfl hconf (fun i hi => ?_) (BoundedBitset.size_set hbits) htable (fun r hr => ?_) ?_
  · refine (SoaTable.row?_modify _ r).trans ?_
    by_cases hr : r = rid
    · rw [if_pos hr, if_pos hr, hrows, if_pos hr]
      rfl
    · rw [if_neg hr, if_neg hr, hrows, if_neg hr]
  · dsimp only
    rw [BoundedBitset.bit_set hbits, if_neg hi]
  · rcases List.mem_append.mp hr with hr | hr
    · exact Or.inl hr
    · rw [List.mem_singleton.mp hr]
      exact Or.inr hfresh
  · constructor
    · exact hlinked
    · rw [List.nodup_append]
      refine ⟨hq.nodup, List.nodup_singleton _, fun a ha b hb => ?_⟩
      rw [List.mem_singleton.mp hb]
      rintro rfl
      exact hnotin ha
    · change wrap32 _ = ceBytes (ceInfos (st.appendCe rid ce (L rid).getLast?).pendingCes _)
      rw [hwrap, hinfos, hq.bytes]
      simp [ceBytes]
    · change wrap32 _ < _
      rw [hwrap]
      exact hsmall
    · change (ceInfos (st.appendCe rid ce (L rid).getLast?).pendingCes _).countP isTaCmd ≤ 1
      rw [hinfos, List.countP_append, List.countP_singleton]
      split
      case isTrue hce =>
        have hzero : (ceInfos st.pendingCes (L rid)).countP isTaCmd = 0 := by
          rw [List.countP_eq_zero]
          intro c hc hctrue
          exact hta ⟨hce, List.any_eq_true.mpr ⟨c, hc, hctrue⟩⟩
        omega
      case isFalse => exact hq.taCmd
    · change ((logs rid).arrive ce).arrived =
        ((logs rid).arrive ce).emitted ++ ceInfos (st.appendCe rid ce (L rid).getLast?).pendingCes _
      rw [hinfos, CeLog.arrive_queue hq.fifo ce]
      congr 1
      unfold enqueueCe
      rw [if_neg]
      rwa [Bool.and_eq_true]
    · change ∀ c ∈ ceInfos (st.appendCe rid ce (L rid).getLast?).pendingCes _, _
      rw [hinfos]
      intro c hc
      rcases List.mem_append.mp hc with hc | hc
      · exact hq.noConRes c hc
      · rw [List.mem_singleton.mp hc]
        exact hconRes
    · dsimp only
      rw [BoundedBitset.bit_set hbits, if_pos rfl, hfallback]
      simp

lemma CeConsistent.ceRows_eq (h : CeConsistent st L logs) (hu : st.ues.row? rid = some u) : ceRows st u = L rid :=
  (h.queue rid u hu).linked.followRows_eq (h.queue rid u hu).length_le

lemma handleMacCeIndication_ceConsistent (h : CeConsistent st L logs) {ce : MacCeInfo}
    (hC : CeTimely st (.handleMacCeIndication rid ce)) (hs : st.handleMacCeIndication rid ce = .ok st') :
    ∃ L', CeConsistent st' L' (logStep st logs (.handleMacCeIndication rid ce)) := by
  obtain ⟨u, hu, hs⟩ := bind_eq_ok.mp hs
  replace hu : st.ues.row? rid = some u := (yields_rowAt _ _).of_ok hu
  unfold logStep
  dsimp only
  by_cases hconRes : ce.ceLcid = LcidDlSch.UE_CON_RES_ID
  · rw [if_pos hconRes] at hs ⊢
    obtain rfl := Except.ok.inj hs
    exact ⟨L, h.sameCes ⟨rfl, rfl, rfl, row?_modify_ceView fun _ => rfl⟩⟩
  rw [if_neg hconRes] at hs ⊢
  have hq := h.queue rid u hu
  rcases findCeSlot_spec ce.ceLcid hq.linked hq.length_le none with
    ⟨hslot, hta⟩ | ⟨r, ctx, hslot, hr, hrow, hctx, hce⟩
  · obtain ⟨slot, hslot', hs⟩ := bind_eq_ok.mp hs
    obtain rfl := Except.ok.inj (hslot.symm.trans hslot')
    obtain ⟨bits, hbits, hs⟩ := bind_eq_ok.mp hs
    obtain rfl := Except.ok.inj hs
    have hset : st.uesWithPendingCes.set u.ueIndex true = .ok bits := by
      rw [← appendCe_uesWithPendingCes rid ce]
      exact mapError_eq_ok.mp hbits
    have hta' : ¬(isTaCmd ce = true ∧ (ceInfos st.pendingCes (L rid)).any isTaCmd = true) := by
      simpa [isTaCmd] using hta
    -- not an overwrite, so the arrival is one that may enter the list
    have hnew : u.fallbackState = false ∧ u.pendingCeBytes + ceRequiredBytes ce.ceLcid < 4294967296 := by
      unfold CeTimely at hC
      dsimp only at hC
      rw [hu] at hC
      rcases hC with hC | hC | hC
      · exact absurd hC hconRes
      · unfold overwritesTaCmd queuedCes at hC
        rw [h.ceRows_eq hu, Bool.and_eq_true] at hC
        exact absurd hC hta'
      · exact hC
    rw [Option.or_none]
    exact ⟨_, h.append hu hconRes hta' hnew.1 hnew.2 hset⟩
  · obtain ⟨slot, hslot', hs⟩ := bind_eq_ok.mp hs
    obtain rfl := Except.ok.inj (hslot.symm.trans hslot')
    obtain rfl := Except.ok.inj hs
    exact ⟨L, h.overwrite hu hr hrow hctx (by simpa [isTaCmd] using hce)⟩

end Arrival

section Departure

lemma popCe_ceConsistent (h : CeConsistent st L logs) {u : UeRow} (hu : st.ues.row? rid = some u) {ceRid : Nat}
    {ctx : MacCeContext} (hhead : u.pendingCes = some ceRid) (hctx : st.pendingCes.row? ceRid = some ctx)
    (hs : st.popCe rid ceRid ctx = .ok st') :
    ∃ L', CeConsistent st' L' (Function.update logs rid ((logs rid).emit ctx.info)) := by
  have hq := h.queue rid u hu
  obtain ⟨rest, hl⟩ : ∃ rest, L rid = ceRid :: rest := by
    cases hl : L rid with
    | nil =>
      have := hq.linked.head_isNone_iff.mpr hl
      rw [hhead] at this
      cases this
    | cons r rest =>
      have hlinked := hq.linked
      rw [hl, hhead] at hlinked
      exact ⟨rest, by rw [Option.some.inj hlinked.1]⟩
  obtain ⟨hlinked, hnodup⟩ : Linked MacCeContext.nextUeCe st.pendingCes ctx.nextUeCe rest ∧
      ceRid ∉ rest ∧ rest.Nodup := by
    have hlinked := hq.linked
    have hnodup := hq.nodup
    rw [hl] at hlinked hnodup
    obtain ⟨-, ctx', hctx', hrest⟩ := hlinked
    obtain rfl := Option.some.inj (hctx.symm.trans hctx')
    exact ⟨hrest, List.nodup_cons.mp hnodup⟩
  have hinfos : ceInfos st.pendingCes (L rid) = ctx.info :: ceInfos st.pendingCes rest := by
    rw [hl]
    exact ceInfos_cons hctx
  obtain ⟨u₀, hu₀, hs⟩ := bind_eq_ok.mp hs
  obtain rfl := Option.some.inj (((yields_rowAt _ _).of_ok hu₀ : st.ues.row? rid = some u₀).symm.trans hu)
  obtain ⟨⟨table, erased⟩, herase, hs⟩ := bind_eq_ok.mp hs
  have htable := SoaTable.row?_erase (mapError_eq_ok.mp herase)
  have hsame : ∀ r ∈ rest, table.row? r = st.pendingCes.row? r := by
    intro r hr
    have hne : r ≠ ceRid := by
      rintro rfl
      exact hnodup.1 hr
    rw [htable, if_neg hne]
  -- the counter loses what it had been given for the CE
  have hbytes : wrap32 (u₀.pendingCeBytes + (4294967296 - ceRequiredBytes ctx.info.ceLcid)) =
      ceBytes (ceInfos st.pendingCes rest) := by
    have hsum := hq.bytes
    have hsmall := hq.small
    rw [hinfos] at hsum
    have hcons : ceBytes (ctx.info :: ceInfos st.pendingCes rest) =
        ceRequiredBytes ctx.info.ceLcid + ceBytes (ceInfos st.pendingCes rest) := by
      simp [ceBytes]
    unfold wrap32
    omega
  have hpop : ∀ {st₁ : LogicalChannelSystem}, st₁.pendingCes = table → st₁.configuredUes = st.configuredUes →
      (∀ i, i ≠ u₀.ueIndex → st₁.uesWithPendingCes.bit i = st.uesWithPendingCes.bit i) →
      st₁.uesWithPendingCes.size = st.uesWithPendingCes.size →
      (∀ r, st₁.ues.row? r = if r = rid then some { u₀ with
          pendingCes := ctx.nextUeCe
          pendingCeBytes := wrap32 (u₀.pendingCeBytes + (4294967296 - ceRequiredBytes ctx.info.ceLcid)) }
        else st.ues.row? r) →
      st₁.uesWithPendingCes.bit u₀.ueIndex = (!rest.isEmpty && !u₀.fallbackState) →
      ∃ L', CeConsistent st₁ L' (Function.update logs rid ((logs rid).emit ctx.info)) := by
    intro st₁ htab hconf hbits hsize hrows hbit
    refine ⟨_, h.replace _ rest hu hrows rfl hconf hbits hsize (fun r a hr ha => ?_) (fun r hr => Or.inl ?_) ?_⟩
    · have hne : r ≠ ceRid := by
        rintro rfl
        exact hr (by simp [hl])
      rw [htab, htable, if_neg hne]
      exact ha
    · rw [hl]
      exact List.mem_cons_of_mem _ hr
    · have hinfos' : ceInfos st₁.pendingCes rest = ceInfos st.pendingCes rest := by
        rw [htab]
        exact ceInfos_congr hsame
      constructor
      · rw [htab]
        exact hlinked.congr hsame
      · exact hnodup.2
      · rw [hinfos']
        exact hbytes
      · exact Nat.mod_lt _ (by omega)
      · have hcount := hq.taCmd
        rw [hinfos, List.countP_cons] at hcount
        rw [hinfos']
        omega
      · rw [hinfos']
        have hfifo := hq.fifo
        rw [hinfos] at hfifo
        unfold CeLog.emit
        dsimp only
        rw [hfifo, List.append_assoc]
        rfl
      · rw [hinfos']
        intro c hc
        exact hq.noConRes c (by rw [hinfos]; exact List.mem_cons_of_mem _ hc)
      · exact hbit
  dsimp only at hs
  by_cases hnone : ctx.nextUeCe.isNone = true
  · rw [if_pos hnone] at hs
    obtain ⟨bits, hbits, hs⟩ := bind_eq_ok.mp hs
    obtain rfl := Except.ok.inj hs
    have hset := BoundedBitset.bit_set (mapError_eq_ok.mp hbits)
    refine hpop rfl rfl (fun i hi => (hset i).trans (if_neg hi)) (BoundedBitset.size_set (mapError_eq_ok.mp hbits)) (row?_modify_of_some hu) ?_
    rw [hset, if_pos rfl, hlinked.head_isNone_iff.mp (Option.isNone_iff_eq_none.mp hnone)]
    rfl
  · rw [if_neg hnone] at hs
    obtain rfl := Except.ok.inj hs
    refine hpop rfl rfl (fun _ _ => rfl) rfl (row?_modify_of_some hu) ?_
    have hrest : rest.isEmpty = false := by
      cases rest with
      | nil =>
        have hnil : ctx.nextUeCe = none := hlinked
        rw [hnil] at hnone
        exact absurd rfl hnone
      | cons r rs => rfl
    change st.uesWithPendingCes.bit u₀.ueIndex = _
    rw [hq.bit, hl, hrest]
    rfl

lemma allocateUeConResIdMacCe_cases {subpdu : DlMsgLcInfo} {remBytes : Nat} {r : SubpduAlloc × LogicalChannelSystem}
    (hs : st.allocateUeConResIdMacCe rid subpdu remBytes = .ok r) :
    (r.1.allocBytes = 0 ∧ r.2 = st) ∨
      (0 < r.1.allocBytes ∧ r.1.subpdu.lcid = LcidDlSch.UE_CON_RES_ID ∧ SameCes st r.2) := by
  obtain ⟨u, -, hs⟩ := bind_eq_ok.mp hs
  split at hs
  · cases hs
    exact Or.inl ⟨rfl, rfl⟩
  · dsimp only at hs
    split at hs
    · cases hs
      exact Or.inl ⟨rfl, rfl⟩
    · cases hs
      exact Or.inr ⟨Nat.lt_add_left _ Nat.one_pos, rfl, ⟨rfl, rfl, rfl, row?_modify_ceView fun _ => rfl⟩⟩

lemma allocateMacCe_ceConsistent (h : CeConsistent st L logs) {subpdu : DlMsgLcInfo} {remBytes : Nat}
    {r : SubpduAlloc × LogicalChannelSystem} (hs : st.allocateMacCe rid subpdu remBytes = .ok r) :
    ∃ L', CeConsistent r.2 L' (logStep st logs (.allocateMacCe rid subpdu remBytes)) := by
  unfold logStep
  dsimp only
  rw [hs]
  obtain ⟨alloc, st₂⟩ := r
  dsimp only
  replace hs := bind_eq_ok.mp hs
  obtain ⟨⟨conRes, st₁⟩, hconRes, hs⟩ := hs
  dsimp only at hs
  rcases allocateUeConResIdMacCe_cases hconRes with ⟨hzero, hst⟩ | ⟨hpos, hlcid, hsame⟩
  · obtain rfl : st₁ = st := hst
    replace hzero : conRes.allocBytes = 0 := hzero
    rw [if_neg (by omega)] at hs
    obtain ⟨u, hu, hs⟩ := bind_eq_ok.mp hs
    replace hu : st₁.ues.row? rid = some u := (yields_rowAt _ _).of_ok hu
    split at hs
    case h_1 =>
      cases hs
      rw [if_pos (Or.inl hzero)]
      exact ⟨L, h⟩
    case h_2 ceRid hhead =>
      obtain ⟨ctx, hctx, hs⟩ := bind_eq_ok.mp hs
      replace hctx : st₁.pendingCes.row? ceRid = some ctx := (yields_rowAt _ _).of_ok hctx
      split at hs
      case isTrue =>
        cases hs
        rw [if_pos (Or.inl hzero)]
        exact ⟨L, h⟩
      case isFalse =>
        obtain ⟨st₃, hpop, hs⟩ := bind_eq_ok.mp hs
        cases hs
        have hmem : ctx.info ∈ ceInfos st₁.pendingCes (L rid) := by
          have hlinked := (h.queue rid u hu).linked
          rw [hhead] at hlinked
          refine mem_ceInfos.mpr ⟨ceRid, ?_, ctx, hctx, rfl⟩
          cases hl : L rid with
          | nil =>
            rw [hl] at hlinked
            cases hlinked
          | cons x xs =>
            rw [hl] at hlinked
            rw [Option.some.inj hlinked.1]
            exact List.mem_cons_self
        have hlcid := (h.queue rid u hu).noConRes _ hmem
        have hpos := ceRequiredBytes_pos ctx.info.ceLcid
        rw [if_neg (not_or.mpr ⟨by dsimp only; omega, hlcid⟩)]
        exact popCe_ceConsistent h hu hhead hctx hpop
  · replace hpos : 0 < conRes.allocBytes := hpos
    rw [if_pos hpos] at hs
    cases hs
    rw [if_pos (Or.inr hlcid)]
    exact ⟨L, h.sameCes hsame⟩

end Departure

section Lifetime

lemma clearCes_ceConsistent (h : CeConsistent st L logs) (hs : st.clearCes rid = .ok st') :
    CeConsistent st' (Function.update L rid []) (Function.update logs rid .empty) := by
  obtain ⟨u, hu, hs⟩ := bind_eq_ok.mp hs
  replace hu : st.ues.row? rid = some u := (yields_rowAt _ _).of_ok hu
  have hq := h.queue rid u hu
  obtain ⟨table, hok, htable⟩ := eraseCes_spec hq.linked hq.nodup hq.length_le
  obtain ⟨table', hok', hs⟩ := bind_eq_ok.mp hs
  obtain rfl := Except.ok.inj (hok.symm.trans hok')
  obtain ⟨bits, hbits, hs⟩ := bind_eq_ok.mp hs
  obtain rfl := Except.ok.inj hs
  have hset := BoundedBitset.bit_set (mapError_eq_ok.mp hbits)
  refine h.replace _ [] hu (row?_modify_of_some hu) rfl rfl (fun i hi => (hset i).trans (if_neg hi))
    (BoundedBitset.size_set (mapError_eq_ok.mp hbits)) (fun r a hr ha => ?_) (fun r hr => absurd hr List.not_mem_nil) ?_
  · dsimp only
    rw [htable, if_neg hr]
    exact ha
  · refine ⟨rfl, List.nodup_nil, rfl, Nat.zero_lt_succ _, Nat.zero_le _, rfl, fun c hc => absurd hc List.not_mem_nil, ?_⟩
    exact (hset _).trans (if_pos rfl)

lemma deactivate_ueIndex (hs : st.deactivate rid = .ok st') (r : Nat) :
    (st'.ues.row? r).map UeRow.ueIndex = (st.ues.row? r).map UeRow.ueIndex := by
  obtain ⟨st₁, h₁, hs⟩ := bind_eq_ok.mp hs
  obtain ⟨st₂, h₂, hs⟩ := bind_eq_ok.mp hs
  have hlcs := ((clearCes_sameLcs.of_ok h₁).trans (resetSrIndication_sameLcs.of_ok h₂)).rows r
  have hces := (updateLcs_sameCes hs).rows r
  have hview : UeRow.ueIndex = (fun p : UeView × UeLcState => p.1.ueIndex) ∘ fun u => (u.view, u.lc) := rfl
  have hceView : UeRow.ueIndex = Prod.fst ∘ UeRow.ceView := rfl
  calc (st'.ues.row? r).map UeRow.ueIndex
      = (st₂.ues.row? r).map UeRow.ueIndex := by rw [hceView, ← Option.map_map, hces, Option.map_map]
    _ = (st.ues.row? r).map UeRow.ueIndex := by rw [hview, ← Option.map_map, hlcs, Option.map_map]

lemma deactivate_ceConsistent (h : CeConsistent st L logs) (hs : st.deactivate rid = .ok st') :
    CeConsistent st' (Function.update L rid []) (Function.update logs rid .empty) := by
  obtain ⟨st₁, h₁, hs⟩ := bind_eq_ok.mp hs
  obtain ⟨st₂, h₂, hs⟩ := bind_eq_ok.mp hs
  exact ((clearCes_ceConsistent h h₁).sameCes (resetSrIndication_sameCes h₂)).sameCes (updateLcs_sameCes hs)

lemma CeConsistent.resized (h : CeConsistent st L logs) {n : Nat} (hr : Resized n st st')
    (hn : ∀ i, st.configuredUes.bit i = true → i < n) : CeConsistent st' L logs := by
  have hcut : ∀ rid u, st.ues.row? rid = some u → decide (u.ueIndex < n) = true := fun rid u hu =>
    decide_eq_true (hn _ (h.configured rid u hu))
  refine ⟨fun rid u hu => ?_, ?_, fun rid u hu => ?_, ?_, fun i hi => ?_, hr.size.2.trans hr.size.1.symm⟩
  · rw [hr.ues] at hu
    rw [hr.pendingCes, hr.uesWithPendingCes, hcut rid u hu, Bool.true_and]
    exact h.queue rid u hu
  · rw [hr.ues]
    exact h.disjoint
  · rw [hr.ues] at hu
    rw [hr.configuredUes, hcut rid u hu, h.configured rid u hu]
    rfl
  · rw [hr.ues]
    exact h.unique
  · rw [hr.configuredUes] at hi
    rw [hr.uesWithPendingCes]
    by_cases hlt : i < n
    · rw [decide_eq_true hlt, Bool.true_and] at hi ⊢
      exact h.idle i hi
    · rw [decide_eq_false hlt, Bool.false_and]

lemma removeUe_ceConsistent (h : CeConsistent st L logs) (hs : st.removeUe rid = .ok st') :
    CeConsistent st' (Function.update L rid []) (Function.update logs rid .empty) := by
  obtain ⟨u, hu, hs⟩ := bind_eq_ok.mp hs
  replace hu : st.ues.row? rid = some u := (yields_rowAt _ _).of_ok hu
  split at hs
  case isTrue => cases hs
  case isFalse hconf =>
    obtain ⟨st₁, h₁, hs⟩ := bind_eq_ok.mp hs
    obtain ⟨⟨ues, erased⟩, herase, hs⟩ := bind_eq_ok.mp hs
    obtain ⟨configuredUes, hreset, hs⟩ := bind_eq_ok.mp hs
    have hc := deactivate_ceConsistent h h₁
    have hkept := deactivate_ueIndex h₁ rid
    rw [hu] at hkept
    obtain ⟨u₁, hu₁, hidx⟩ := Option.map_eq_some_iff.mp hkept
    have hrows := SoaTable.row?_erase (mapError_eq_ok.mp herase)
    have hset := BoundedBitset.bit_set (mapError_eq_ok.mp hreset)
    have hold : ∀ r v, ues.row? r = some v → st₁.ues.row? r = some v ∧ v.ueIndex ≠ u.ueIndex := by
      intro r v hv
      rw [hrows] at hv
      split at hv
      case isTrue => cases hv
      case isFalse hne => exact ⟨hv, fun heq => hne (hc.unique r rid v u₁ hv hu₁ (heq.trans hidx.symm))⟩
    have hgone : CeConsistent { st₁ with ues := ues, configuredUes := configuredUes }
        (Function.update L rid []) (Function.update logs rid .empty) := by
      refine ⟨fun r v hv => hc.queue r v (hold r v hv).1, fun r r' v v' hv hv' => ?_, fun r v hv => ?_,
        fun r r' v v' hv hv' => ?_, fun i hi => ?_,
        hc.size.trans (BoundedBitset.size_set (mapError_eq_ok.mp hreset)).symm⟩
      · exact hc.disjoint r r' v v' (hold r v hv).1 (hold r' v' hv').1
      · exact (hset _).trans ((if_neg (hold r v hv).2).trans (hc.configured r v (hold r v hv).1))
      · exact hc.unique r r' v v' (hold r v hv).1 (hold r' v' hv').1
      · by_cases heq : i = u.ueIndex
        · -- the list of the UE is empty by now, so its bit is off
          have hbit := (hc.queue rid u₁ hu₁).bit
          rw [Function.update_self] at hbit
          rw [heq, ← hidx]
          exact hbit
        · exact hc.idle i ((hset i).trans (if_neg heq) ▸ hi)
    rcases stripUes_spec.of_ok hs with rfl | ⟨n, hr, hn⟩
    · exact hgone
    · exact hgone.resized hr hn

lemma CeConsistent.addUe (h : CeConsistent st L logs) {ueIndex new : Nat} {u : UeRow}
    (hnew : st.configuredUes.bit ueIndex = false) (hfresh : st.ues.row? new = none)
    (hrows : ∀ r, st'.ues.row? r = if r = new then some u else st.ues.row? r)
    (hidx : u.ueIndex = ueIndex) (hces : u.pendingCes = none) (hbytes : u.pendingCeBytes = 0)
    (htable : st'.pendingCes = st.pendingCes)
    (hconf : ∀ i, st'.configuredUes.bit i = (decide (i = ueIndex) || st.configuredUes.bit i))
    (hbits : ∀ i, st'.uesWithPendingCes.bit i = st.uesWithPendingCes.bit i)
    (hsize : st'.uesWithPendingCes.size = st'.configuredUes.size) :
    CeConsistent st' (Function.update L new []) (Function.update logs new .empty) := by
  have hother : ∀ r v, st.ues.row? r = some v → v.ueIndex ≠ ueIndex ∧ r ≠ new := by
    intro r v hv
    constructor
    · intro heq
      rw [← heq, h.configured r v hv] at hnew
      cases hnew
    · rintro rfl
      rw [hfresh] at hv
      cases hv
  have hcases : ∀ r v, st'.ues.row? r = some v → (r = new ∧ v = u) ∨ (r ≠ new ∧ st.ues.row? r = some v) := by
    intro r v hv
    rw [hrows] at hv
    by_cases hr : r = new
    · rw [if_pos hr] at hv
      exact Or.inl ⟨hr, (Option.some.inj hv).symm⟩
    · rw [if_neg hr] at hv
      exact Or.inr ⟨hr, hv⟩
  refine ⟨fun r v hv => ?_, fun r r' v v' hv hv' hne x hx => ?_, fun r v hv => ?_, fun r r' v v' hv hv' heq => ?_,
    fun i hi => ?_, ?_⟩
  · rcases hcases r v hv with ⟨rfl, rfl⟩ | ⟨hr, hv⟩
    · rw [Function.update_self, Function.update_self]
      refine ⟨hces, List.nodup_nil, hbytes, by omega, Nat.zero_le _, rfl, fun c hc => absurd hc List.not_mem_nil, ?_⟩
      rw [hbits, hidx]
      exact h.idle ueIndex hnew
    · rw [Function.update_of_ne hr, Function.update_of_ne hr, htable, hbits]
      exact h.queue r v hv
  · rcases hcases r v hv with ⟨rfl, -⟩ | ⟨hr, hv⟩
    · rw [Function.update_self] at hx
      exact absurd hx List.not_mem_nil
    · rw [Function.update_of_ne hr] at hx
      rcases hcases r' v' hv' with ⟨rfl, -⟩ | ⟨hr', hv'⟩
      · rw [Function.update_self]
        exact List.not_mem_nil
      · rw [Function.update_of_ne hr']
        exact h.disjoint r r' v v' hv hv' hne x hx
  · rw [hconf]
    rcases hcases r v hv with ⟨-, rfl⟩ | ⟨-, hv⟩
    · rw [hidx, decide_eq_true rfl, Bool.true_or]
    · rw [h.configured r v hv, Bool.or_true]
  · rcases hcases r v hv with ⟨hr, rfl⟩ | ⟨-, hv⟩ <;> rcases hcases r' v' hv' with ⟨hr', rfl⟩ | ⟨-, hv'⟩
    · rw [hr, hr']
    · exact absurd (heq.symm.trans hidx) (hother r' v' hv').1
    · exact absurd (heq.trans hidx) (hother r v hv).1
    · exact h.unique r r' v v' hv hv' heq
  · rw [hconf, Bool.or_eq_false_iff] at hi
    rw [hbits]
    exact h.idle i hi.2
  · exact hsize

lemma createUe_ceConsistent (h : CeConsistent st L logs) {ueIndex scsCommon : Nat} {startsInFallback : Bool}
    {cfgs : Option LogicalChannelConfigList} (hs : st.createUe ueIndex scsCommon startsInFallback cfgs = .ok st') :
    CeConsistent st' (Function.update L st.ues.nextRowId []) (Function.update logs st.ues.nextRowId .empty) := by
  unfold createUe at hs
  by_cases hnew : st.configuredUes.bit ueIndex = true
  · rw [if_pos hnew] at hs
    cases hs
  rw [if_neg hnew] at hs
  replace hnew : st.configuredUes.bit ueIndex = false := by simpa using hnew
  obtain ⟨st₁, hgrow, hs⟩ := bind_eq_ok.mp hs
  obtain ⟨configuredUes, hset, hs⟩ := bind_eq_ok.mp hs
  have hgrown := (growUes_spec ueIndex).of_ok hgrow
  replace hset := mapError_eq_ok.mp hset
  have hadd : CeConsistent { st₁ with configuredUes := configuredUes }
      (Function.update L st.ues.nextRowId []) (Function.update logs st.ues.nextRowId .empty) := by
    refine h.addUe (u := .create ueIndex scsCommon startsInFallback) hnew st.ues.row?_nextRowId
      (fun r => ?_) rfl rfl rfl hgrown.pendingCes (fun i => ?_)
      (fun i => hgrown.uesWithPendingCes i (h.idle i)) ((hgrown.size h.size).trans (BoundedBitset.size_set hset).symm)
    · dsimp only
      rw [hgrown.ues]
      exact SoaTable.row?_insert _ r
    · rw [BoundedBitset.bit_set hset, hgrown.configuredUes]
      by_cases hi : i = ueIndex
      · simp [hi]
      · simp [hi, addUeRow]
  cases cfgs with
  | none =>
    cases hs
    exact hadd
  | some cfgs => exact hadd.sameCes (updateLcs_sameCes hs)

lemma setFallbackState_ceConsistent (h : CeConsistent st L logs) {enterFallback : Bool}
    (hs : st.setFallbackState rid enterFallback = .ok st') : CeConsistent st' L logs := by
  obtain ⟨u, hu, hs⟩ := bind_eq_ok.mp hs
  replace hu : st.ues.row? rid = some u := (yields_rowAt _ _).of_ok hu
  have hq := h.queue rid u hu
  by_cases hsame : u.fallbackState = enterFallback
  · rw [if_pos hsame] at hs
    cases hs
    exact h
  rw [if_neg hsame] at hs
  -- the state before the bit is brought up to date differs from `st` in the flag of the UE
  have hswitch : ∀ {st₁ st₂ : LogicalChannelSystem} {f : UeView → LcScope → Except LcAbort LcScope},
      (st.modifyUe rid fun u => { u with fallbackState := enterFallback }).updateLcs rid f = .ok st₁ →
      st₂.ues = st₁.ues → st₂.pendingCes = st₁.pendingCes → st₂.configuredUes = st₁.configuredUes →
      (∀ i, st₂.uesWithPendingCes.bit i =
        if i = u.ueIndex then !(L rid).isEmpty && !enterFallback else st₁.uesWithPendingCes.bit i) →
      st₂.uesWithPendingCes.size = st₁.uesWithPendingCes.size → CeConsistent st₂ L logs := by
    intro st₁ st₂ f hlcs hues hces hconf hbits hsize
    obtain ⟨v, x, hv, -, rfl⟩ := updateLcs_ok hlcs
    have hmod : ∀ r, (st.modifyUe rid fun u => { u with fallbackState := enterFallback }).ues.row? r =
        if r = rid then some { u with fallbackState := enterFallback } else st.ues.row? r :=
      row?_modify_of_some hu
    obtain rfl := Option.some.inj (((hmod rid).trans (if_pos rfl)).symm.trans hv)
    refine h.replaceSame { u with fallbackState := enterFallback, lc := x.lc } hu (fun r => ?_) rfl hconf
      (fun i hi => (hbits i).trans (if_neg hi)) hsize (fun r a _ ha => ?_) ?_
    · rw [hues, row?_withScope, hmod]
      by_cases hr : r = rid
      · rw [if_pos hr, if_pos hr, if_pos hr]
        rfl
      · rw [if_neg hr, if_neg hr, if_neg hr]
    · rw [hces]
      exact ha
    · rw [hces, hbits, if_pos rfl]
      exact ⟨hq.linked, hq.nodup, hq.bytes, hq.small, hq.taCmd, hq.fifo, hq.noConRes, rfl⟩
  cases enterFallback with
  | true =>
    obtain ⟨st₁, hlcs, hs⟩ := bind_eq_ok.mp hs
    obtain ⟨bits, hreset, hs⟩ := bind_eq_ok.mp hs
    cases hs
    refine hswitch hlcs rfl rfl rfl (fun i => ?_) (BoundedBitset.size_set (mapError_eq_ok.mp hreset))
    rw [Bool.not_true, Bool.and_false]
    exact BoundedBitset.bit_set (mapError_eq_ok.mp hreset) i
  | false =>
    obtain ⟨st₁, hlcs, hs⟩ := bind_eq_ok.mp hs
    have hhead := hq.linked.head_isNone_iff
    by_cases hsome : u.pendingCes.isSome = true
    · rw [if_pos hsome] at hs
      obtain ⟨bits, hset, hs⟩ := bind_eq_ok.mp hs
      cases hs
      refine hswitch hlcs rfl rfl rfl (fun i => ?_) (BoundedBitset.size_set (mapError_eq_ok.mp hset))
      have hne : (L rid).isEmpty = false := by
        cases hl : L rid with
        | nil =>
          rw [hhead.mpr hl] at hsome
          cases hsome
        | cons r rs => rfl
      rw [hne]
      exact BoundedBitset.bit_set (mapError_eq_ok.mp hset) i
    · rw [if_neg hsome] at hs
      cases hs
      have hnil : L rid = [] := hhead.mp (by simpa using hsome)
      refine hswitch hlcs rfl rfl rfl (fun i => ?_) rfl
      by_cases hi : i = u.ueIndex
      · obtain ⟨v, x, -, -, rfl⟩ := updateLcs_ok hlcs
        have hbit := hq.bit
        rw [hnil] at hbit ⊢
        rw [if_pos hi, hi]
        exact hbit
      · rw [if_neg hi]

end Lifetime

section Run

lemma slotIndication_sameCes (hs : st.slotIndication = .ok st') : SameCes st st' := by
  obtain ⟨qosChannels, -, hs⟩ := bind_eq_ok.mp hs
  cases hs
  exact ⟨rfl, rfl, rfl, fun _ => rfl⟩

lemma handleSrIndication_sameCes (hs : st.handleSrIndication rid = .ok st') : SameCes st st' := by
  obtain ⟨u, -, hs⟩ := bind_eq_ok.mp hs
  obtain ⟨bits, -, hs⟩ := bind_eq_ok.mp hs
  cases hs
  exact ⟨rfl, rfl, rfl, fun _ => rfl⟩

lemma allocateMacSdu_sameCes {subpdu : DlMsgLcInfo} {remBytes lcid : Nat} {r : SubpduAlloc × LogicalChannelSystem}
    (hs : st.allocateMacSdu rid subpdu remBytes lcid = .ok r) : SameCes st r.2 := by
  obtain ⟨u, -, hs⟩ := bind_eq_ok.mp hs
  obtain ⟨⟨alloc, x⟩, -, hs⟩ := bind_eq_ok.mp hs
  cases hs
  exact withScope_sameCes x

lemma handleUlGrant_sameCes {grantSize : Nat} (hs : st.handleUlGrant rid grantSize = .ok st') :
    ∃ st₁, SameCes st st₁ ∧ SameCes st₁ st' := by
  obtain ⟨st₁, h₁, hs⟩ := bind_eq_ok.mp hs
  exact ⟨st₁, resetSrIndication_sameCes h₁, updateLcs_sameCes hs⟩

lemma step_ceConsistent (h : CeConsistent st L logs) {e : LcEvent} (hC : CeTimely st e) (hs : st.step e = .ok st') :
    ∃ L', CeConsistent st' L' (logStep st logs e) := by
  unfold step at hs
  cases e with
  | slotIndication => exact ⟨L, h.sameCes (slotIndication_sameCes hs)⟩
  | createUe ueIndex scsCommon startsInFallback cfgs => exact ⟨_, createUe_ceConsistent h hs⟩
  | removeUe rid => exact ⟨_, removeUe_ceConsistent h hs⟩
  | deactivate rid => exact ⟨_, deactivate_ceConsistent h hs⟩
  | setFallbackState rid enterFallback => exact ⟨L, setFallbackState_ceConsistent h hs⟩
  | configure rid cfgs => exact ⟨L, h.sameCes (updateLcs_sameCes hs)⟩
  | setLcidRanSlice rid lcid sliceId => exact ⟨L, h.sameCes (updateLcs_sameCes hs)⟩
  | setLcgRanSlice rid lcgid sliceId => exact ⟨L, h.sameCes (updateLcs_sameCes hs)⟩
  | resetLcidRanSlice rid lcid => exact ⟨L, h.sameCes (updateLcs_sameCes hs)⟩
  | resetLcgRanSlice rid lcgid => exact ⟨L, h.sameCes (updateLcs_sameCes hs)⟩
  | handleDlBufferStatusIndication rid lcid bufferStatus holToa => exact ⟨L, h.sameCes (updateLcs_sameCes hs)⟩
  | handleMacCeIndication rid ce => exact handleMacCeIndication_ceConsistent h hC hs
  | handleBsrIndication rid msg => exact ⟨L, h.sameCes (updateLcs_sameCes hs)⟩
  | handleSrIndication rid => exact ⟨L, h.sameCes (handleSrIndication_sameCes hs)⟩
  | resetSrIndication rid => exact ⟨L, h.sameCes (resetSrIndication_sameCes hs)⟩
  | allocateMacSdu rid subpdu remBytes lcid =>
    obtain ⟨r, hr, hs⟩ := bind_eq_ok.mp hs
    obtain rfl := Except.ok.inj hs
    exact ⟨L, h.sameCes (allocateMacSdu_sameCes hr)⟩
  | allocateMacCe rid subpdu remBytes =>
    obtain ⟨r, hr, hs⟩ := bind_eq_ok.mp hs
    obtain rfl := Except.ok.inj hs
    exact allocateMacCe_ceConsistent h hr
  | allocateUeConResIdMacCe rid subpdu remBytes =>
    obtain ⟨r, hr, hs⟩ := bind_eq_ok.mp hs
    obtain rfl := Except.ok.inj hs
    rcases allocateUeConResIdMacCe_cases hr with ⟨-, hst⟩ | ⟨-, -, hsame⟩
    · rw [hst]
      exact ⟨L, h⟩
    · exact ⟨L, h.sameCes hsame⟩
  | handleUlGrant rid grantSize =>
    obtain ⟨st₁, h₁, h₂⟩ := handleUlGrant_sameCes hs
    exact ⟨L, (h.sameCes h₁).sameCes h₂⟩

lemma stepLogged_ok {s s' : LogicalChannelSystem × (Nat → CeLog)} {e : LcEvent} (h : stepLogged s e = .ok s') :
    ∃ st', s.1.step e = .ok st' ∧ s' = (st', logStep s.1 s.2 e) := by
  obtain ⟨st', hs, h⟩ := bind_eq_ok.mp h
  exact ⟨st', hs, (Except.ok.inj h).symm⟩

lemma stepLogged_of_ok {s : LogicalChannelSystem × (Nat → CeLog)} {e : LcEvent} (h : s.1.step e = .ok st') :
    stepLogged s e = .ok (st', logStep s.1 s.2 e) :=
  bind_eq_ok.mpr ⟨st', h, rfl⟩

/-- The list of the CEs of each UE, its counter, its bit and the order in which its CEs leave. -/
def CeBookkeeping (s : LogicalChannelSystem × (Nat → CeLog)) : Prop :=
  (∀ rid u, s.1.ues.row? rid = some u →
    Linked MacCeContext.nextUeCe s.1.pendingCes u.pendingCes (ceRows s.1 u) ∧ (ceRows s.1 u).Nodup ∧
    u.pendingCeBytes = ceBytes (queuedCes s.1 u) ∧
    (queuedCes s.1 u).countP isTaCmd ≤ 1 ∧
    (s.2 rid).arrived = (s.2 rid).emitted ++ queuedCes s.1 u ∧
    (s.1.uesWithPendingCes.bit u.ueIndex = true ↔ u.pendingCes ≠ none ∧ u.fallbackState = false)) ∧
  ∀ rid rid' u u', s.1.ues.row? rid = some u → s.1.ues.row? rid' = some u' → rid ≠ rid' →
    List.Disjoint (ceRows s.1 u) (ceRows s.1 u')

lemma CeConsistent.bookkeeping (h : CeConsistent st L logs) : CeBookkeeping (st, logs) := by
  refine ⟨fun rid u hu => ?_, fun rid rid' u u' hu hu' hne r hr hr' => ?_⟩
  · dsimp only at hu ⊢
    have hq := h.queue rid u hu
    have hqueued : queuedCes st u = ceInfos st.pendingCes (L rid) := by
      unfold queuedCes
      rw [h.ceRows_eq hu]
    rw [h.ceRows_eq hu, hqueued]
    refine ⟨hq.linked, hq.nodup, hq.bytes, hq.taCmd, hq.fifo, ?_⟩
    have hhead := hq.linked.head_isNone_iff
    rw [hq.bit, Ne, hhead]
    simp
  · dsimp only at hu hu' hr hr'
    rw [h.ceRows_eq hu] at hr
    rw [h.ceRows_eq hu'] at hr'
    exact h.disjoint rid rid' u u' hu hu' hne r hr hr'

lemma handleMacCeIndication_ok (h : CeConsistent st L logs) {u : UeRow} (hu : st.ues.row? rid = some u)
    (ce : MacCeInfo) : ∃ st', st.handleMacCeIndication rid ce = .ok st' := by
  have hrow : st.getUe rid = .ok u := by
    unfold getUe rowAt
    rw [hu]
  have hq := h.queue rid u hu
  unfold handleMacCeIndication
  rw [hrow]
  by_cases hconRes : ce.ceLcid = LcidDlSch.UE_CON_RES_ID
  · exact ⟨_, if_pos hconRes⟩
  · refine (exists_congr fun _ => Eq.congr_left (if_neg hconRes)).mpr ?_
    rcases findCeSlot_spec ce.ceLcid hq.linked hq.length_le none with ⟨hslot, -⟩ | ⟨r, ctx, hslot, -⟩
    · rw [hslot]
      have hlt : u.ueIndex < st.uesWithPendingCes.size := by
        rw [h.size]
        by_contra hge
        have := h.configured rid u hu
        rw [BoundedBitset.bit_of_size_le (by omega)] at this
        cases this
      obtain ⟨bits, hbits⟩ := BoundedBitset.set_of_lt hlt true
      refine ⟨_, bind_eq_ok.mpr ⟨_, rfl, bind_eq_ok.mpr ⟨bits, ?_, rfl⟩⟩⟩
      refine mapError_eq_ok.mpr (Eq.trans ?_ hbits)
      exact congrArg (fun b => BoundedBitset.set b u.ueIndex true) (appendCe_uesWithPendingCes rid ce _)
    · rw [hslot]
      exact ⟨_, rfl⟩

lemma ceTimely_of_bookkeeping (h : CeConsistent st L logs) {ce : MacCeInfo} {logs' : Nat → CeLog}
    (hs : st.handleMacCeIndication rid ce = .ok st') (hP : CeBookkeeping (st', logs')) :
    CeTimely st (.handleMacCeIndication rid ce) := by
  obtain ⟨u, hu, hs⟩ := bind_eq_ok.mp hs
  replace hu : st.ues.row? rid = some u := (yields_rowAt _ _).of_ok hu
  have hq := h.queue rid u hu
  unfold CeTimely
  dsimp only
  rw [hu]
  by_cases hconRes : ce.ceLcid = LcidDlSch.UE_CON_RES_ID
  · exact Or.inl hconRes
  rw [if_neg hconRes] at hs
  refine Or.inr ?_
  rcases findCeSlot_spec ce.ceLcid hq.linked hq.length_le none with
    ⟨hslot, -⟩ | ⟨r, ctx, -, hr, hrow, hctx, hce⟩
  · refine Or.inr ?_
    obtain ⟨slot, hslot', hs⟩ := bind_eq_ok.mp hs
    obtain rfl := Except.ok.inj (hslot.symm.trans hslot')
    obtain ⟨bits, hbits, hs⟩ := bind_eq_ok.mp hs
    obtain rfl := Except.ok.inj hs
    rw [Option.or_none] at hP
    obtain ⟨head, hrows, -, -, hlinked, hinfos⟩ := h.appendCe_spec hu ce
    have hrow := (row?_modify_of_some (f := fun u =>
      { u with pendingCeBytes := wrap32 (u.pendingCeBytes + ceRequiredBytes ce.ceLcid) })
      ((hrows rid).trans (if_pos rfl)) rid).trans (if_pos rfl)
    obtain ⟨hlinked', -, hbytes, -, -, hbit⟩ := hP.1 rid _ hrow
    have hqueued := congrArg (ceInfos (st.appendCe rid ce (L rid).getLast?).pendingCes) (hlinked'.unique hlinked)
    rw [hinfos] at hqueued
    replace hbytes : wrap32 (u.pendingCeBytes + ceRequiredBytes ce.ceLcid) = ceBytes _ := hbytes.trans (congrArg _ hqueued)
    replace hbit := hbit.mp ((BoundedBitset.bit_set (mapError_eq_ok.mp hbits) u.ueIndex).trans (if_pos rfl))
    refine ⟨hbit.2, ?_⟩
    have hsum : ceBytes (ceInfos st.pendingCes (L rid) ++ [ce]) = u.pendingCeBytes + ceRequiredBytes ce.ceLcid := by
      rw [hq.bytes]
      simp [ceBytes]
    rw [hsum] at hbytes
    unfold wrap32 at hbytes
    omega
  · refine Or.inl ?_
    unfold overwritesTaCmd queuedCes
    rw [h.ceRows_eq hu, Bool.and_eq_true]
    exact ⟨by simpa [isTaCmd] using hce,
      List.any_eq_true.mpr ⟨ctx.info, mem_ceInfos.mpr ⟨r, hr, ctx, hrow, rfl⟩, hctx⟩⟩

/-- The CEs are in order throughout a run exactly if no CE enters the list of a UE in fallback and no counter
overflows. -/
theorem pending_ces_in_order (es : List LcEvent) :
    HoldsThroughout stepLogged CeBookkeeping (init, fun _ => .empty) es ↔
      RunsWithin stepLogged (fun s e => CeTimely s.1 e) (init, fun _ => .empty) es := by
  refine holdsThroughout_iff_runsWithin (fun s => ∃ L, CeConsistent s.1 L s.2) ?_ ?_ ?_
    ⟨_, init_ceConsistent⟩ init_ceConsistent.bookkeeping
  · rintro ⟨st, logs⟩ e s' ⟨L, h⟩ hC hs
    obtain ⟨st', hst, rfl⟩ := stepLogged_ok hs
    exact step_ceConsistent h hC hst
  · rintro ⟨st, logs⟩ e s' ⟨L, h⟩ - hs
    obtain ⟨st', hst, rfl⟩ := stepLogged_ok hs
    constructor
    · intro hP
      cases e with
      | handleMacCeIndication rid ce => exact ceTimely_of_bookkeeping h hst hP
      | _ => trivial
    · intro hC
      obtain ⟨L', h'⟩ := step_ceConsistent h hC hst
      exact h'.bookkeeping
  · rintro ⟨st, logs⟩ e a ⟨L, h⟩ - herror
    cases e with
    | handleMacCeIndication rid ce =>
      unfold CeTimely
      dsimp only
      split
      case h_1 => trivial
      case h_2 u hu =>
        obtain ⟨st', hok⟩ := handleMacCeIndication_ok h hu ce
        have hstep : st.step (.handleMacCeIndication rid ce) = .ok st' := hok
        exact nomatch (stepLogged_of_ok hstep).symm.trans herror
    | _ => trivial

/-- A UE that is created in fallback and gets a TA_CMD has its bit set. -/
theorem pending_ces_not_in_order :
    ∃ s u, runEvents stepLogged (init, fun _ => .empty)
        [.createUe 0 0 true none, .handleMacCeIndication 0 ⟨LcidDlSch.TA_CMD, .taCmd 0 31⟩] = .ok s ∧
      s.1.ues.row? 0 = some u ∧ u.fallbackState = true ∧ s.1.uesWithPendingCes.bit u.ueIndex = true ∧
      ¬CeBookkeeping s := by
  refine ⟨_, _, rfl, rfl, rfl, rfl, fun h => ?_⟩
  have hbit := (h.1 0 _ rfl).2.2.2.2.2.mp rfl
  exact absurd hbit.2 Bool.noConfusion

end Run

end LogicalChannelSystem

end OwlsRan.Sched
