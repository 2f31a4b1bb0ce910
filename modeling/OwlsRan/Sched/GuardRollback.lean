import OwlsRan.Sched.PucchAllocator
import OwlsRan.Sched.PucchGuardCalls

/-!
# Rollback and commit of a reservation guard

A guard that is not committed leaves the managers as it found them, unless a second resource of one set was reserved by
its indicator: the record of the first one is lost.
-/

namespace OwlsRan.Sched
open OwlsRan.Lib

namespace UeReservationGuard

section Statement

variable (cell : PucchCellConfiguration) (rnti : Nat) (ue : PucchUeResources) (m : PucchSlotResources)
  (calls : List ReserveCall)

def ReservedBy (usage : ResourceUsageType) (cellResId : Nat) : Prop :=
  ∃ before call behind g₁ g₂, calls = before ++ call :: behind ∧
    runEvents (step cell rnti ue) (create m) before = .ok g₁ ∧ step cell rnti ue g₁ call = .ok g₂ ∧ call.usage = usage ∧
      g₁.mgr.uesUsingPucchRes cellResId = none ∧ g₂.mgr.uesUsingPucchRes cellResId = some rnti

def KeptBy (cellResId : Nat) : Prop :=
  ∃ usage, ReservedBy cell rnti ue m calls usage cellResId ∧
    ¬ (usage = .harqSet0 ∧ ∃ other, ReservedBy cell rnti ue m calls .harqSet1 other)

/-- The managers `m'` differ from `m` by the resources that are kept. -/
structure Committed (m' : PucchSlotResources) : Prop where
  owner : ∀ c, KeptBy cell rnti ue m calls c → m'.uesUsingPucchRes c = some rnti
  owner_other : ∀ c, ¬ KeptBy cell rnti ue m calls c → m'.uesUsingPucchRes c = m.uesUsingPucchRes c
  state : ∀ i, m'.currentState i = true ↔
    m.currentState i = true ∨ ∃ c, KeptBy cell rnti ue m calls c ∧ i = NOF_COMMON_RES + c

structure Recorded (g : UeReservationGuard) : Prop where
  tracks : Tracks rnti m g
  serves : ∀ u c, g.reservations u = some c → ue.Serves cell u c
  inj : ∀ u u' c, g.reservations u = some c → g.reservations u' = some c → u = u'
  reservedBy : ∀ u c, ReservedBy cell rnti ue m calls u c ↔ g.reservations u = some c

def Leaks (g : UeReservationGuard) : Prop :=
  ∃ c, m.uesUsingPucchRes c = none ∧ g.mgr.uesUsingPucchRes c = some rnti ∧ ¬ g.Reserved c

end Statement

variable {cell : PucchCellConfiguration} {rnti : Nat} {ue : PucchUeResources} {m : PucchSlotResources}
  {calls : List ReserveCall} {call : ReserveCall} {g g' : UeReservationGuard} {u : ResourceUsageType} {c : Nat}

section Taking

lemma Takes.owner (h : Takes cell rnti g u c g') (j : Nat) :
    g'.mgr.uesUsingPucchRes j = if j = c then some rnti else g.mgr.uesUsingPucchRes j := by
  obtain ⟨m', hm', rfl⟩ := h.taken
  rw [(PucchSlotResources.allocDed_eq_some hm').1]
  by_cases hj : j = c
  · simp [hj]
  · simp [hj]

lemma Takes.reservations (h : Takes cell rnti g u c g') (v : ResourceUsageType) :
    g'.reservations v = if v = u then some c else g.reservations v := by
  obtain ⟨m', -, rfl⟩ := h.taken
  exact Function.update_apply _ _ _ _

lemma Takes.eq_reserve (h : Takes cell rnti g u c g') (r : PucchResource) (hr : r.cellResId = c) :
    g' = (g.reserve cell rnti u r).2 := by
  obtain ⟨m', hm', rfl⟩ := h.taken
  unfold reserve
  rw [hr, h.unowned]
  dsimp only
  rw [hm']

lemma Takes.tracks (h : Takes cell rnti g u c g') (htracks : Tracks rnti m g) (hu : g.reservations u = none) :
    Tracks rnti m g' := by
  rw [h.eq_reserve ⟨c, 0, none, 0, 0, .format2 0⟩ rfl]
  exact htracks.reserve h.inside hu

lemma reservedBy_concat (hrun : runEvents (step cell rnti ue) (create m) calls = .ok g)
    (hstep : step cell rnti ue g call = .ok g') : ReservedBy cell rnti ue m (calls ++ [call]) u c ↔
      ReservedBy cell rnti ue m calls u c ∨
        (call.usage = u ∧ g.mgr.uesUsingPucchRes c = none ∧ g'.mgr.uesUsingPucchRes c = some rnti) := by
  constructor
  · rintro ⟨before, call', behind, g₁, g₂, hcalls, hbefore, hcall, husage, hnone, howner⟩
    rcases List.eq_nil_or_concat behind with rfl | ⟨behind, last, rfl⟩
    · obtain ⟨rfl, hlast⟩ := List.append_inj' hcalls rfl
      obtain rfl := List.singleton_inj.mp hlast
      cases hbefore.symm.trans hrun
      cases hcall.symm.trans hstep
      exact .inr ⟨husage, hnone, howner⟩
    · rw [List.concat_eq_append, ← List.cons_append, ← List.append_assoc] at hcalls
      obtain ⟨hcalls, -⟩ := List.append_inj' hcalls rfl
      exact .inl ⟨before, call', behind, g₁, g₂, hcalls, hbefore, hcall, husage, hnone, howner⟩
  · rintro (⟨before, call', behind, g₁, g₂, rfl, h⟩ | ⟨husage, hnone, howner⟩)
    · exact ⟨before, call', behind ++ [call], g₁, g₂, by simp, h⟩
    · exact ⟨calls, call, [], g, g', rfl, hrun, hstep, husage, hnone, howner⟩

lemma recorded_create : Recorded cell rnti ue m [] (create m) := by
  refine ⟨tracks_create rnti m, fun _ _ h => (nomatch h), fun _ _ _ h => (nomatch h), fun u c => ⟨?_, fun h => (nomatch h)⟩⟩
  rintro ⟨before, call, behind, -, -, hnil, -⟩
  cases before <;> cases hnil

lemma Recorded.owned (h : Recorded cell rnti ue m calls g) (hc : g.reservations u = some c) :
    g.mgr.uesUsingPucchRes c = some rnti := by
  rw [h.tracks.owner c, if_pos ⟨u, hc⟩]

lemma Recorded.takes (h : Recorded cell rnti ue m calls g)
    (hrun : runEvents (step cell rnti ue) (create m) calls = .ok g) (hstep : step cell rnti ue g call = .ok g')
    (htakes : Takes cell rnti g call.usage c g') (hserves : ue.Serves cell call.usage c)
    (hu : g.reservations call.usage = none) : Recorded cell rnti ue m (calls ++ [call]) g' := by
  have hnew : ∀ v, g.reservations v ≠ some c := by
    intro v hv
    have howner := h.owned hv
    rw [htakes.unowned] at howner
    cases howner
  refine ⟨htakes.tracks h.tracks hu, fun v d hd => ?_, fun v v' d hd hd' => ?_, fun v d => ?_⟩
  · rw [htakes.reservations] at hd
    split at hd
    case isTrue hv =>
      cases hd
      rw [hv]
      exact hserves
    case isFalse => exact h.serves v d hd
  · rw [htakes.reservations] at hd hd'
    split at hd
    case isTrue hv =>
      cases hd
      split at hd'
      case isTrue hv' => rw [hv, hv']
      case isFalse => exact absurd hd' (hnew v')
    case isFalse hv =>
      split at hd'
      case isTrue =>
        cases hd'
        exact absurd hd (hnew v)
      case isFalse => exact h.inj v v' d hd hd'
  · rw [reservedBy_concat hrun hstep, h.reservedBy, htakes.reservations, htakes.owner]
    by_cases hv : v = call.usage
    · rw [if_pos hv, hv, hu]
      constructor
      · rintro (hd | ⟨-, hnone, howner⟩)
        · cases hd
        · split at howner
          case isTrue hdc => rw [hdc]
          case isFalse =>
            rw [hnone] at howner
            cases howner
      · intro hd
        cases hd
        exact .inr ⟨rfl, htakes.unowned, if_pos rfl⟩
    · rw [if_neg hv]
      exact or_iff_left fun hnew' => hv hnew'.1.symm

lemma Recorded.kept (h : Recorded cell rnti ue m calls g)
    (hrun : runEvents (step cell rnti ue) (create m) calls = .ok g) (hstep : step cell rnti ue g call = .ok g) :
    Recorded cell rnti ue m (calls ++ [call]) g := by
  refine ⟨h.tracks, h.serves, h.inj, fun v d => ?_⟩
  rw [reservedBy_concat hrun hstep, h.reservedBy]
  refine or_iff_left fun ⟨_, hnone, howner⟩ => ?_
  rw [hnone] at howner
  cases howner

end Taking

section Overwriting

lemma Overwrites.takes (h : Overwrites cell rnti ue g call) (hstep : step cell rnti ue g call = .ok g') :
    ∃ c d, Takes cell rnti g call.usage c g' ∧ g.reservations call.usage = some d := by
  cases call with
  | byResIndicator dPri set =>
    obtain ⟨hrecorded, hslot, id, hid, hnone, halloc⟩ := h
    obtain ⟨d, hd⟩ := Option.ne_none_iff_exists'.mp hrecorded
    unfold step PucchUeResources.reserveHarqResourceByResIndicator at hstep
    dsimp only at hstep
    rw [hid] at hstep
    dsimp only at hstep
    rw [if_neg hslot] at hstep
    obtain ⟨res, hres, rfl⟩ := map_eq_ok.mp hstep
    exact ⟨id.cellResId, d, reserveDed_takes hnone halloc hres, hd⟩
  | nextAvailable set => exact h.elim
  | sr => exact h.elim
  | csi => exact h.elim

lemma Recorded.leaks (h : Recorded cell rnti ue m calls g) (hstep : step cell rnti ue g call = .ok g')
    (hover : Overwrites cell rnti ue g call) : Leaks rnti m g' := by
  obtain ⟨c, d, htakes, hd⟩ := hover.takes hstep
  have howner := h.owned hd
  have hne : d ≠ c := by
    rintro rfl
    rw [htakes.unowned] at howner
    cases howner
  refine ⟨d, (h.tracks.fresh d ⟨_, hd⟩).1, ?_, ?_⟩
  · rw [htakes.owner, if_neg hne, howner]
  · rintro ⟨v, hv⟩
    rw [htakes.reservations] at hv
    split at hv
    case isTrue =>
      cases hv
      exact hne rfl
    case isFalse hu => exact hu (h.inj v call.usage d hv hd)

lemma Leaks.step (h : Leaks rnti m g) (hstep : step cell rnti ue g call = .ok g') : Leaks rnti m g' := by
  obtain ⟨d, hfree, howner, hlost⟩ := h
  rcases (step_spec call).of_ok hstep with rfl | ⟨c, htakes, -⟩
  · exact ⟨d, hfree, howner, hlost⟩
  have hne : d ≠ c := by
    rintro rfl
    rw [htakes.unowned] at howner
    cases howner
  refine ⟨d, hfree, by rw [htakes.owner, if_neg hne, howner], ?_⟩
  rintro ⟨v, hv⟩
  rw [htakes.reservations] at hv
  split at hv
  case isTrue =>
    cases hv
    exact hne rfl
  case isFalse => exact hlost ⟨v, hv⟩

lemma rollback_owner (g : UeReservationGuard) (c : Nat) :
    g.rollback.uesUsingPucchRes c = if g.Reserved c then none else g.mgr.uesUsingPucchRes c := by
  rw [rollback_eq_foldl, (PucchSlotResources.foldl_freeDed _ g.mgr).1 c]
  by_cases hc : g.Reserved c
  · rw [if_pos hc, if_pos (mem_reservations.mpr hc)]
  · rw [if_neg hc, if_neg (mt mem_reservations.mp hc)]

lemma Leaks.rollback (h : Leaks rnti m g) : g.rollback ≠ m := by
  obtain ⟨c, hfree, howner, hlost⟩ := h
  intro heq
  have hc := rollback_owner g c
  rw [heq, if_neg hlost, hfree, howner] at hc
  cases hc

lemma Recorded.keptBy_iff (h : Recorded cell rnti ue m calls g) : KeptBy cell rnti ue m calls c ↔
    ∃ u, g.reservations u = some c ∧ ¬ (u = .harqSet0 ∧ ∃ other, g.reservations .harqSet1 = some other) := by
  unfold KeptBy
  simp only [h.reservedBy]

lemma Recorded.committed_all (h : Recorded cell rnti ue m calls g)
    (hkept : ∀ c, KeptBy cell rnti ue m calls c ↔ g.Reserved c) : Committed cell rnti ue m calls g.mgr := by
  refine ⟨fun c hc => ?_, fun c hc => ?_, fun i => ?_⟩
  · rw [h.tracks.owner, if_pos ((hkept c).mp hc)]
  · rw [h.tracks.owner, if_neg (mt (hkept c).mpr hc)]
  · simp only [hkept]
    exact h.tracks.state i

lemma Recorded.committed_free {c₀ : Nat} (h : Recorded cell rnti ue m calls g)
    (h₀ : g.reservations .harqSet0 = some c₀) (hkept : ∀ c, KeptBy cell rnti ue m calls c ↔ g.Reserved c ∧ c ≠ c₀) :
    Committed cell rnti ue m calls (g.mgr.freeDed c₀) := by
  obtain ⟨howner₀, hstate₀⟩ := h.tracks.fresh c₀ ⟨_, h₀⟩
  have howner : ∀ c, (g.mgr.freeDed c₀).uesUsingPucchRes c = if c = c₀ then none else g.mgr.uesUsingPucchRes c :=
    fun c => Function.update_apply _ _ _ _
  have hstate : ∀ i, (g.mgr.freeDed c₀).currentState i =
      if i = NOF_COMMON_RES + c₀ then false else g.mgr.currentState i := fun i => Function.update_apply _ _ _ _
  refine ⟨fun c hc => ?_, fun c hc => ?_, fun i => ?_⟩
  · obtain ⟨hreserved, hne⟩ := (hkept c).mp hc
    rw [howner, if_neg hne, h.tracks.owner, if_pos hreserved]
  · rw [howner]
    by_cases hc₀ : c = c₀
    · rw [if_pos hc₀, hc₀, howner₀]
    · rw [if_neg hc₀, h.tracks.owner, if_neg fun hreserved => hc ((hkept c).mpr ⟨hreserved, hc₀⟩)]
  · rw [hstate]
    by_cases hi : i = NOF_COMMON_RES + c₀
    · rw [if_pos hi, hi, hstate₀]
      refine ⟨fun hfalse => (by cases hfalse), ?_⟩
      rintro (hfalse | ⟨c, hc, heq⟩)
      · cases hfalse
      · exact absurd (Nat.add_left_cancel heq).symm ((hkept c).mp hc).2
    · rw [if_neg hi, h.tracks.state]
      refine or_congr_right ⟨?_, ?_⟩
      · rintro ⟨c, hreserved, rfl⟩
        exact ⟨c, (hkept c).mpr ⟨hreserved, fun heq => hi (by rw [heq])⟩, rfl⟩
      · rintro ⟨c, hc, heq⟩
        exact ⟨c, ((hkept c).mp hc).1, heq⟩

lemma Recorded.committed (h : Recorded cell rnti ue m calls g) : Committed cell rnti ue m calls g.commit := by
  cases h₀ : g.reservations .harqSet0 with
  | none =>
    have hcommit : g.commit = g.mgr := by
      unfold commit
      rw [h₀]
    rw [hcommit]
    refine h.committed_all fun c => h.keptBy_iff.trans ⟨fun hkept => hkept.imp fun _ hu => hu.1, fun hres => hres.imp fun u hu => ⟨hu, ?_⟩⟩
    rintro ⟨rfl, -⟩
    rw [h₀] at hu
    cases hu
  | some c₀ =>
    cases h₁ : g.reservations .harqSet1 with
    | none =>
      have hcommit : g.commit = g.mgr := by
        unfold commit
        rw [h₀, h₁]
      rw [hcommit]
      refine h.committed_all fun c => h.keptBy_iff.trans ⟨fun hkept => hkept.imp fun _ hu => hu.1, fun hres => hres.imp fun u hu => ⟨hu, ?_⟩⟩
      rintro ⟨-, other, hother⟩
      rw [h₁] at hother
      cases hother
    | some c₁ =>
      have hcommit : g.commit = g.mgr.freeDed c₀ := by
        unfold commit
        rw [h₀, h₁]
      rw [hcommit]
      refine h.committed_free h₀ fun c => h.keptBy_iff.trans ⟨?_, ?_⟩
      · rintro ⟨u, hu, hkept⟩
        refine ⟨⟨u, hu⟩, ?_⟩
        rintro rfl
        exact hkept ⟨h.inj u .harqSet0 c hu h₀, c₁, h₁⟩
      · rintro ⟨⟨u, hu⟩, hne⟩
        refine ⟨u, hu, ?_⟩
        rintro ⟨rfl, -⟩
        exact hne (Option.some.inj (hu.symm.trans h₀))

lemma recorded_or_leaks (hrun : runEvents (step cell rnti ue) (create m) calls = .ok g) :
    (Recorded cell rnti ue m calls g ∧
      RunsWithin (step cell rnti ue) (fun g call => ¬ Overwrites cell rnti ue g call) (create m) calls) ∨
    (Leaks rnti m g ∧
      ¬ RunsWithin (step cell rnti ue) (fun g call => ¬ Overwrites cell rnti ue g call) (create m) calls) := by
  induction calls using List.reverseRecOn generalizing g with
  | nil =>
    cases hrun
    exact .inl ⟨recorded_create, trivial⟩
  | append_singleton calls call ih =>
    obtain ⟨g₁, hcalls, hstep⟩ := runEvents_concat_ok.mp hrun
    rw [runsWithin_concat hcalls]
    rcases ih hcalls with ⟨hrecorded, hwithin⟩ | ⟨hleaks, hnot⟩
    · by_cases hover : Overwrites cell rnti ue g₁ call
      · exact .inr ⟨hrecorded.leaks hstep hover, fun hand => hand.2 hover⟩
      · left
        refine ⟨?_, hwithin, hover⟩
        rcases (step_spec call).of_ok hstep with rfl | ⟨c, htakes, hserves, hrecord⟩
        · exact hrecorded.kept hcalls hstep
        · apply hrecorded.takes hcalls hstep htakes hserves
          rcases hrecord with hover' | hnone | hother
          · exact absurd hover' hover
          · exact hnone
          · -- a record would be of a resource that the call returns
            cases hu : g₁.reservations call.usage with
            | none => rfl
            | some d => exact absurd (hrecorded.owned hu) (hother d (hrecorded.serves _ d hu))
    · exact .inr ⟨hleaks.step hstep, fun hand => hnot hand.1⟩

end Overwriting

/-- A guard that is destroyed leaves the managers as it found them, and one that is committed leaves them with what was
reserved through it, if and only if no call by indicator finds a free resource of a set of which one has been reserved. -/
theorem guard_rolls_back_iff (cell : PucchCellConfiguration) (rnti : Nat) (ue : PucchUeResources)
    (m : PucchSlotResources) (calls : List ReserveCall) (g : UeReservationGuard)
    (hrun : runEvents (step cell rnti ue) (create m) calls = .ok g) :
    (g.rollback = m ∧ Committed cell rnti ue m calls g.commit) ↔
      RunsWithin (step cell rnti ue) (fun g call => ¬ Overwrites cell rnti ue g call) (create m) calls := by
  rcases recorded_or_leaks hrun with ⟨hrecorded, hwithin⟩ | ⟨hleaks, hnot⟩
  · exact ⟨fun _ => hwithin, fun _ => ⟨hrecorded.tracks.rollback, hrecorded.committed⟩⟩
  · exact ⟨fun h => absurd h.1 hleaks.rollback, fun h => absurd h hnot⟩

def guardedUe : PucchUeResources where
  pucchResList := [(0, PucchExample.format1Res 0 10), (1, PucchExample.format1Res 1 11),
    (2, PucchExample.format1Res 2 12), (3, PucchExample.format2Res 3 20 0)]
  pucchResSet0 := [⟨0, 0⟩, ⟨1, 1⟩]
  pucchResSet1 := [⟨3, 3⟩]
  srCellResId := 2
  csiCellResId := none

/-- The next resources of both sets are reserved. -/
theorem guard_rolls_back_iff_both_sets :
    ∃ g, runEvents (step (PucchExample.cell 8) 1 guardedUe) (create .empty)
      [.nextAvailable .set0, .nextAvailable .set1] = .ok g ∧ g.rollback = .empty ∧
        Committed (PucchExample.cell 8) 1 guardedUe .empty [.nextAvailable .set0, .nextAvailable .set1] g.commit := by
  have hrun : ∃ g, runEvents (step (PucchExample.cell 8) 1 guardedUe) (create .empty)
      [.nextAvailable .set0, .nextAvailable .set1] = .ok g ∧ True := by
    decide +kernel
  obtain ⟨g, hg, -⟩ := hrun
  have hwithin : RunsWithin (step (PucchExample.cell 8) 1 guardedUe)
      (fun g call => ¬ Overwrites (PucchExample.cell 8) 1 guardedUe g call) (create .empty)
      [.nextAvailable .set0, .nextAvailable .set1] := ⟨id, fun _ _ => ⟨id, fun _ _ => trivial⟩⟩
  exact ⟨g, hg, (guard_rolls_back_iff (PucchExample.cell 8) 1 guardedUe .empty _ g hg).mpr hwithin⟩

/-- Both resources of set 0 are reserved by their indicators. The first one remains reserved when the guard is destroyed. -/
theorem guard_leaks_resource :
    ∃ g, runEvents (step (PucchExample.cell 8) 1 guardedUe) (create .empty)
      [.byResIndicator 0 .set0, .byResIndicator 1 .set0] = .ok g ∧ g.rollback.uesUsingPucchRes 0 = some 1 ∧
        g.rollback ≠ .empty := by
  have hrun : ∃ g, runEvents (step (PucchExample.cell 8) 1 guardedUe) (create .empty)
      [.byResIndicator 0 .set0, .byResIndicator 1 .set0] = .ok g ∧ g.rollback.uesUsingPucchRes 0 = some 1 := by
    decide +kernel
  obtain ⟨g, hg, howner⟩ := hrun
  refine ⟨g, hg, howner, fun hempty => ?_⟩
  rw [hempty] at howner
  cases howner

end UeReservationGuard

end OwlsRan.Sched
