import OwlsRan.Lib.SequenceNumber
import OwlsRan.Sched.UeDrxController

/-!
# The DRX active time

The slot that the controller keeps is the end of a timer, or of the on-duration window that the current slot lies in.
-/

namespace OwlsRan.Sched
open OwlsRan.Lib OwlsRan.Ran

namespace DrxConfig

variable (cfg : DrxConfig) (k : Nat)

/-- The on-duration window that starts at slot `a` contains slot `s`; a subframe has `k` slots. -/
def WindowAt (a s : Nat) : Prop :=
  a ≤ s ∧ s < a + cfg.onDurationTimer * k ∧ a % (10240 * k) % (cfg.longCycle * k) = cfg.longStartOffset * k

def InWindow (s : Nat) : Prop := ∃ a, cfg.WindowAt k a s

def position (s : Nat) : Nat := s % (10240 * k) % (cfg.longCycle * k)

def windowStop : Nat := cfg.longStartOffset * k + cfg.onDurationTimer * k

/-- The slot lies before the start offset of its cycle, and in a window, or at a position that a window reaches behind
the end of its cycle. -/
def Wrapped (s : Nat) : Prop :=
  cfg.position k s < cfg.longStartOffset * k ∧
    (cfg.InWindow k s ∨
      (cfg.longCycle * k ≤ cfg.windowStop k ∧ cfg.position k s < cfg.windowStop k % (cfg.longCycle * k)))

section Positions

variable {cfg : DrxConfig} {k a s : Nat}

lemma sub_mod_of_le {x j m : Nat} (h : j ≤ x % m) : (x - j) % m = x % m - j := by
  rcases Nat.eq_zero_or_pos m with rfl | hm
  · simp only [Nat.mod_zero]
  · have hx := Nat.div_add_mod x m
    have hlt := Nat.mod_lt x hm
    have heq : x - j = m * (x / m) + (x % m - j) := by omega
    rw [heq, Nat.mul_add_mod, Nat.mod_eq_of_lt (by omega)]

lemma position_sub {j : Nat} (h : j ≤ cfg.position k s) : cfg.position k (s - j) = cfg.position k s - j := by
  have hj : j ≤ s % (10240 * k) := h.trans (Nat.mod_le _ _)
  unfold position at h ⊢
  rw [sub_mod_of_le hj, sub_mod_of_le h]

lemma windowAt_own (h : cfg.longStartOffset * k ≤ cfg.position k s) (hstop : cfg.position k s < cfg.windowStop k) :
    cfg.WindowAt k (s - (cfg.position k s - cfg.longStartOffset * k)) s := by
  have hle : cfg.position k s ≤ s := (Nat.mod_le _ _).trans (Nat.mod_le _ _)
  have hpos : cfg.position k (s - (cfg.position k s - cfg.longStartOffset * k)) = _ := position_sub (Nat.sub_le _ _)
  unfold windowStop at hstop
  refine ⟨Nat.sub_le _ _, by omega, ?_⟩
  change cfg.position k _ = _
  rw [hpos]
  omega

lemma WindowAt.position_lt (h : cfg.WindowAt k a s) : cfg.position k s < cfg.windowStop k := by
  obtain ⟨hle, hlt, hstart⟩ := h
  change cfg.position k a = _ at hstart
  unfold windowStop
  by_contra hbeyond
  have hback : cfg.position k (s - (s - a)) = cfg.position k s - (s - a) := position_sub (by omega)
  rw [Nat.sub_sub_self hle] at hback
  omega

end Positions

end DrxConfig

section Ends

variable {base : SlotPoint} {cfg : DrxConfig} {now s e t : Nat} {ends : List Nat} {E : Option SlotPoint}

def Near (k now e : Nat) : Prop := now < e + 1280 * k ∧ e < now + 3840 * k

lemma base_hyperFrame (base : SlotPoint) :
    base.nofSlotsPerHyperSystemFrame = 10240 * base.nofSlotsPerSubframe := base.hyperFrame_eq

lemma subframe_pos (base : SlotPoint) : 0 < base.nofSlotsPerSubframe := Nat.two_pow_pos _

lemma Near.lt_iff (he : Near base.nofSlotsPerSubframe now e) (ht : Near base.nofSlotsPerSubframe now t) :
    (base.add e).lt (base.add t) = true ↔ e < t := by
  obtain ⟨he₁, he₂⟩ := he
  obtain ⟨ht₁, ht₂⟩ := ht
  have hH := base_hyperFrame base
  apply SlotPoint.add_lt_add_iff
  · omega
  · omega

/-- `e` is the end of the active time: no timer ends behind it, and it is past, the end of a timer, or the end of the
window of the current slot. -/
structure EndsAt (base : SlotPoint) (cfg : Option DrxConfig) (now : Nat) (ends : List Nat) (o : Option Nat) : Prop where
  bound : ∀ e, o = some e → e < now + 3840 * base.nofSlotsPerSubframe
  covers : ∀ t ∈ ends, now < t → ∃ e, o = some e ∧ t ≤ e
  recent : cfg.isSome → ∀ e, o = some e → now < e + 1280 * base.nofSlotsPerSubframe
  cause : ∀ c, cfg = some c → ∀ e, o = some e → e ≤ now + 1 ∨ e ∈ ends ∨
    ∃ a, c.WindowAt base.nofSlotsPerSubframe a now ∧ e = a + c.onDurationTimer * base.nofSlotsPerSubframe

lemma EndsAt.near {o : Option Nat} (h : EndsAt base (some cfg) now ends o) (ho : o = some e) :
    Near base.nofSlotsPerSubframe now e := ⟨h.recent rfl e ho, h.bound e ho⟩

def extended (E : Option SlotPoint) (newEnd : SlotPoint) : Option SlotPoint :=
  match E with
  | none => some newEnd
  | some e => if e.lt newEnd then some newEnd else some e

lemma EndsAt.extend {o : Option Nat} (h : EndsAt base (some cfg) now ends o) (ht : Near base.nofSlotsPerSubframe now t) :
    ∃ o', extended (o.map base.add) (base.add t) = o'.map base.add ∧ EndsAt base (some cfg) now (t :: ends) o' := by
  have hnew : (∀ t' ∈ ends, now < t' → t' ≤ t) → EndsAt base (some cfg) now (t :: ends) (some t) := by
    intro hall
    refine ⟨?_, fun t' ht' hlt => ?_, ?_, ?_⟩
    · rintro e ⟨⟩
      exact ht.2
    · rcases List.mem_cons.mp ht' with rfl | ht'
      · exact ⟨_, rfl, le_refl _⟩
      · exact ⟨t, rfl, hall t' ht' hlt⟩
    · rintro - e ⟨⟩
      exact ht.1
    · rintro c - e ⟨⟩
      exact .inr (.inl List.mem_cons_self)
  cases o with
  | none =>
    refine ⟨some t, rfl, hnew fun t' ht' hlt => ?_⟩
    obtain ⟨e, he, -⟩ := h.covers t' ht' hlt
    cases he
  | some e =>
    have hlt := (h.near rfl).lt_iff ht
    by_cases het : e < t
    · refine ⟨some t, if_pos (hlt.mpr het), hnew fun t' ht' hnow => ?_⟩
      obtain ⟨e', he', hle⟩ := h.covers t' ht' hnow
      cases he'
      exact hle.trans het.le
    · refine ⟨some e, if_neg fun hltt => het (hlt.mp hltt), h.bound, fun t' ht' hnow => ?_, h.recent, ?_⟩
      · rcases List.mem_cons.mp ht' with rfl | ht'
        · exact ⟨e, rfl, Nat.not_lt.mp het⟩
        · exact h.covers t' ht' hnow
      · intro c hc e' he'
        rcases h.cause c hc e' he' with hpast | htimer | hwindow
        · exact .inl hpast
        · exact .inr (.inl (List.mem_cons_of_mem t htimer))
        · exact .inr (.inr hwindow)

lemma EndsAt.congr {ends' : List Nat} {o : Option Nat} {c : Option DrxConfig} (h : EndsAt base c now ends o)
    (hmem : ∀ t, t ∈ ends' ↔ t ∈ ends) : EndsAt base c now ends' o := by
  refine ⟨h.bound, fun t ht => h.covers t ((hmem t).mp ht), h.recent, fun c' hc e he => ?_⟩
  rcases h.cause c' hc e he with hpast | htimer | hwindow
  · exact .inl hpast
  · exact .inr (.inl ((hmem e).mpr htimer))
  · exact .inr (.inr hwindow)

lemma EndsAt.running {o : Option Nat} (h : EndsAt base (some cfg) now ends o) :
    (∃ e, o = some e ∧ now + 1 < e ∧
      (o.map base.add).filter (fun e => !(base.add (now + 1)).ge e) = some (base.add e)) ∨
    ((o.map base.add).filter (fun e => !(base.add (now + 1)).ge e) = none ∧ ∀ t ∈ ends, ¬ now + 1 < t) := by
  have hk := subframe_pos base
  cases o with
  | none =>
    refine .inr ⟨rfl, fun t ht hlt => ?_⟩
    obtain ⟨e, he, -⟩ := h.covers t ht (by omega)
    cases he
  | some e =>
    have hnext : Near base.nofSlotsPerSubframe now (now + 1) := ⟨by omega, by omega⟩
    have hlt := hnext.lt_iff (h.near rfl)
    rw [Option.map_some]
    by_cases hrun : now + 1 < e
    · refine .inl ⟨e, rfl, hrun, ?_⟩
      rw [Option.filter_some_pos]
      rw [SlotPoint.ge, Bool.not_not]
      exact hlt.mpr hrun
    · refine .inr ⟨?_, fun t ht hlt' => ?_⟩
      · rw [Option.filter_some_neg]
        rw [SlotPoint.ge, Bool.not_not]
        exact Bool.eq_false_of_not_eq_true fun hbefore => hrun (hlt.mp hbefore)
      · obtain ⟨e', he', hle⟩ := h.covers t ht (by omega)
        cases he'
        omega

structure Indicated (base : SlotPoint) (cfg : DrxConfig) (now : Nat) (ends : List Nat) (o : Option Nat) : Prop where
  endsAt : EndsAt base (some cfg) now ends o
  ahead : ∀ e, o = some e → now < e
  cause : ∀ e, o = some e → e ∈ ends ∨
    ∃ a, cfg.WindowAt base.nofSlotsPerSubframe a now ∧ e = a + cfg.onDurationTimer * base.nofSlotsPerSubframe
  active : o.isSome = true ↔ cfg.InWindow base.nofSlotsPerSubframe now ∨ ∃ t ∈ ends, now < t

lemma Indicated.continued (h : EndsAt base (some cfg) now ends (some e)) (he : now + 1 < e) :
    Indicated base cfg (now + 1) ends (some e) := by
  have hbound := h.bound e rfl
  have hcause : e ∈ ends ∨ ∃ a, cfg.WindowAt base.nofSlotsPerSubframe a (now + 1) ∧
      e = a + cfg.onDurationTimer * base.nofSlotsPerSubframe := by
    rcases h.cause cfg rfl e rfl with hpast | htimer | ⟨a, ⟨hle, -, hstart⟩, rfl⟩
    · omega
    · exact .inl htimer
    · exact .inr ⟨a, ⟨by omega, he, hstart⟩, rfl⟩
  refine ⟨⟨?_, fun t ht hlt => h.covers t ht (by omega), ?_, ?_⟩, ?_, ?_, ⟨fun _ => ?_, fun _ => rfl⟩⟩
  · rintro e' ⟨⟩
    omega
  · rintro - e' ⟨⟩
    omega
  · rintro c ⟨⟩ e' ⟨⟩
    exact .inr hcause
  · rintro e' ⟨⟩
    exact he
  · rintro e' ⟨⟩
    exact hcause
  · rcases hcause with htimer | ⟨a, hwindow, -⟩
    · exact .inr ⟨e, htimer, he⟩
    · exact .inl ⟨a, hwindow⟩

lemma onDuration_le (cfg : DrxConfig) (k : Nat) : cfg.onDurationTimer * k ≤ 1600 * k :=
  Nat.mul_le_mul_right k cfg.onDurationTimer_le_max

lemma Indicated.entered {a : Nat} (hwindow : cfg.WindowAt base.nofSlotsPerSubframe a now) (hidle : ∀ t ∈ ends, ¬ now < t) :
    Indicated base cfg now ends (some (a + cfg.onDurationTimer * base.nofSlotsPerSubframe)) := by
  have hdur := onDuration_le cfg base.nofSlotsPerSubframe
  have hk := subframe_pos base
  have ⟨hle, hlt, _⟩ := hwindow
  refine ⟨⟨?_, fun t ht hnow => absurd hnow (hidle t ht), ?_, ?_⟩, ?_, ?_,
    ⟨fun _ => .inl ⟨a, hwindow⟩, fun _ => rfl⟩⟩
  · rintro e ⟨⟩
    omega
  · rintro - e ⟨⟩
    omega
  · rintro c ⟨⟩ e ⟨⟩
    exact .inr (.inr ⟨a, hwindow, rfl⟩)
  · rintro e ⟨⟩
    exact hlt
  · rintro e ⟨⟩
    exact .inr ⟨a, hwindow, rfl⟩

lemma Indicated.idle (hno : ¬ cfg.InWindow base.nofSlotsPerSubframe now) (hidle : ∀ t ∈ ends, ¬ now < t) :
    Indicated base cfg now ends none := by
  refine ⟨⟨fun _ h => (by cases h), fun t ht hnow => absurd hnow (hidle t ht), fun _ _ h => (by cases h),
    fun _ _ _ h => (by cases h)⟩, fun _ h => (by cases h), fun _ h => (by cases h), fun h => (by cases h), ?_⟩
  rintro (hwindow | ⟨t, ht, hlt⟩)
  · exact absurd hwindow hno
  · exact absurd hlt (hidle t ht)

end Ends

namespace UeDrxController

variable {c : UeDrxController} {cfg : DrxConfig}

structure Converted (c : UeDrxController) (cfg : DrxConfig) : Prop where
  period : c.activeWindowPeriod = cfg.longCycle * c.nofSlotsPerSf
  start : c.activeWindowStart = cfg.longStartOffset * c.nofSlotsPerSf
  stop : c.activeWindowStop = cfg.windowStop c.nofSlotsPerSf
  inactivity : c.inactivityDur = cfg.inactivityTimer * c.nofSlotsPerSf

end UeDrxController

namespace DrxConfig

variable {cfg : DrxConfig} {k s : Nat}

lemma inWindow_iff (h : ¬ cfg.Wrapped k s) :
    cfg.InWindow k s ↔ cfg.longStartOffset * k ≤ cfg.position k s ∧ cfg.position k s < cfg.windowStop k := by
  constructor
  · rintro ⟨a, hwindow⟩
    have hstart : cfg.longStartOffset * k ≤ cfg.position k s := by
      by_contra hbefore
      exact h ⟨Nat.not_le.mp hbefore, .inl ⟨a, hwindow⟩⟩
    exact ⟨hstart, hwindow.position_lt⟩
  · rintro ⟨hstart, hstop⟩
    exact ⟨_, windowAt_own hstart hstop⟩

lemma windowAt_previous (hk : 0 < k) (hcycle : cfg.longCycle = 10240) (hs : 10240 * k ≤ s)
    (hpos : cfg.position k s < cfg.longStartOffset * k) (hstop : cfg.position k s + 10240 * k < cfg.windowStop k) :
    cfg.WindowAt k (s - cfg.position k s - (10240 * k - cfg.longStartOffset * k)) s := by
  have hoffset : cfg.longStartOffset * k < 10240 * k :=
    Nat.mul_lt_mul_of_pos_right (hcycle ▸ cfg.longStartOffset_lt) hk
  unfold position windowStop at *
  unfold WindowAt
  rw [hcycle, Nat.mod_mod] at hpos hstop ⊢
  rw [Nat.mod_mod]
  generalize 10240 * k = H at *
  generalize cfg.longStartOffset * k = start at *
  have hH : 0 < H := by omega
  have hdiv := Nat.div_add_mod s H
  have hlt : s % H < H := Nat.mod_lt s hH
  obtain ⟨q, hq⟩ := Nat.exists_eq_add_of_le (Nat.div_pos hs hH)
  rw [hq, Nat.mul_add, Nat.mul_one] at hdiv
  have hback : s - s % H - (H - start) = H * q + start := by omega
  rw [hback]
  refine ⟨by omega, by omega, ?_⟩
  rw [Nat.mul_add_mod]
  exact Nat.mod_eq_of_lt (by omega)

lemma windowStop_lt (hk : 0 < k) : cfg.windowStop k < cfg.longCycle * k + cfg.longCycle * k := by
  have hstart := Nat.mul_lt_mul_of_pos_right cfg.longStartOffset_lt hk
  have hdur := Nat.mul_le_mul_right k cfg.onDurationTimer_le
  unfold windowStop
  omega

lemma windowStop_mod (hk : 0 < k) (h : cfg.longCycle * k ≤ cfg.windowStop k) :
    cfg.windowStop k % (cfg.longCycle * k) = cfg.windowStop k - cfg.longCycle * k := by
  have hlt : cfg.windowStop k < _ := windowStop_lt hk
  rw [Nat.mod_eq_sub_mod h, Nat.mod_eq_of_lt (by omega)]

lemma wrapped_stop (hk : 0 < k) (hcycle : cfg.longCycle = 10240) (h : cfg.Wrapped k s) :
    cfg.position k s + 10240 * k < cfg.windowStop k := by
  obtain ⟨hpos, ⟨a, hle, hlt, hstart⟩ | ⟨hlong, hstop⟩⟩ := h
  · unfold position windowStop at *
    rw [hcycle, Nat.mod_mod] at hpos hstart ⊢
    have hs := Nat.div_add_mod s (10240 * k)
    have ha := Nat.div_add_mod a (10240 * k)
    generalize 10240 * k = H at *
    have hnext : a / H + 1 ≤ s / H := by
      by_contra hsame
      have := Nat.mul_le_mul_left H (Nat.le_of_lt_succ (Nat.lt_of_not_le hsame))
      omega
    have := Nat.mul_le_mul_left H hnext
    rw [Nat.mul_add, Nat.mul_one] at this
    omega
  · rw [windowStop_mod hk hlong, hcycle] at hstop
    omega

end DrxConfig

namespace UeDrxController

variable {c : UeDrxController} {cfg : DrxConfig} {now : Nat} {ends : List Nat} {o : Option Nat}

def clockBase (c : UeDrxController) : SlotPoint := ⟨c.scsCommon, 0⟩

def withEnd (c : UeDrxController) (o : Option Nat) : UeDrxController :=
  { c with activeTimeEnd := o.map c.clockBase.add }

lemma clockBase_position (c : UeDrxController) (cfg : DrxConfig) (s : Nat) :
    (c.clockBase.add s).count % (cfg.longCycle * c.nofSlotsPerSf) = cfg.position c.nofSlotsPerSf s := by
  rw [SlotPoint.add_count, base_hyperFrame]
  unfold DrxConfig.position
  rw [show c.clockBase.count + s = s from Nat.zero_add s]
  rfl

lemma Converted.isSlotInOnDurationTimerWindow_iff (h : Converted c cfg) {p : Nat} :
    c.isSlotInOnDurationTimerWindow p = true ↔
      (cfg.longStartOffset * c.nofSlotsPerSf ≤ p ∧ p < cfg.windowStop c.nofSlotsPerSf) ∨
        (cfg.longCycle * c.nofSlotsPerSf ≤ cfg.windowStop c.nofSlotsPerSf ∧
          p < cfg.windowStop c.nofSlotsPerSf % (cfg.longCycle * c.nofSlotsPerSf)) := by
  unfold isSlotInOnDurationTimerWindow
  rw [h.start, h.stop, h.period]
  split
  · rename_i hin
    exact ⟨fun _ => .inl hin, fun _ => rfl⟩
  · rename_i hout
    split
    · rename_i hlong
      rw [decide_eq_true_eq]
      exact ⟨fun hp => .inr ⟨hlong, hp⟩, fun hor => (hor.resolve_left hout).2⟩
    · rename_i hshort
      exact ⟨fun hf => (nomatch hf), fun hor => absurd (hor.resolve_left hout).1 hshort⟩

lemma nofSlotsPerSf_pos (c : UeDrxController) : 0 < c.nofSlotsPerSf := Nat.two_pow_pos _

lemma slotIndication_spec (hcfg : c.drxCfg = some cfg) (hconv : Converted c cfg)
    (hE : c.activeTimeEnd = o.map c.clockBase.add) (h : EndsAt c.clockBase (some cfg) now ends o)
    (hnow : 10240 * c.nofSlotsPerSf ≤ now)
    (hC : c.runningEnd (c.clockBase.add (now + 1)) = none →
      ¬ cfg.Wrapped c.nofSlotsPerSf (now + 1) ∨ cfg.longCycle = 10240) :
    ∃ o', c.slotIndication (c.clockBase.add (now + 1)) = c.withEnd o' ∧
      Indicated c.clockBase cfg (now + 1) ends o' := by
  have hk := c.nofSlotsPerSf_pos
  unfold slotIndication
  rw [if_neg (by rw [hcfg]; exact Option.some_ne_none cfg)]
  have hrunning := h.running
  unfold runningEnd at hC ⊢
  rw [hE] at hC ⊢
  rcases hrunning with ⟨e, ho, hlt, hfilter⟩ | ⟨hfilter, hidle⟩
  · rw [ho] at h
    rw [hfilter]
    exact ⟨some e, rfl, Indicated.continued h hlt⟩
  · rw [hfilter]
    dsimp only
    suffices hset : ∃ o', (if c.isSlotInOnDurationTimerWindow ((c.clockBase.add (now + 1)).count % c.activeWindowPeriod)
        then some ((c.clockBase.add (now + 1)).add
          (c.activeWindowStop - (c.clockBase.add (now + 1)).count % c.activeWindowPeriod))
        else none) = o'.map c.clockBase.add ∧ Indicated c.clockBase cfg (now + 1) ends o' by
      obtain ⟨o', hset, hindicated⟩ := hset
      refine ⟨o', ?_, hindicated⟩
      unfold withEnd
      rw [hset]
    rw [hconv.period, clockBase_position, hconv.stop, SlotPoint.add_add]
    have hwindow := hconv.isSlotInOnDurationTimerWindow_iff (p := cfg.position c.nofSlotsPerSf (now + 1))
    by_cases hwrapped : cfg.Wrapped c.nofSlotsPerSf (now + 1)
    · -- the cycle is a whole hyper system frame, so that the end is right modulo the frame
      have hcycle := (hC hfilter).resolve_left (not_not_intro hwrapped)
      have hstop := DrxConfig.wrapped_stop hk hcycle hwrapped
      have hin := DrxConfig.windowAt_previous hk hcycle (by omega) hwrapped.1 hstop
      have hlong : cfg.longCycle * c.nofSlotsPerSf ≤ cfg.windowStop c.nofSlotsPerSf := by
        rw [hcycle]
        omega
      have htail : cfg.position c.nofSlotsPerSf (now + 1) <
          cfg.windowStop c.nofSlotsPerSf % (cfg.longCycle * c.nofSlotsPerSf) := by
        rw [DrxConfig.windowStop_mod hk hlong, hcycle]
        omega
      rw [if_pos (hwindow.mpr (.inr ⟨hlong, htail⟩))]
      refine ⟨_, ?_, Indicated.entered hin hidle⟩
      have hsame : c.clockBase.add (now + 1 + (cfg.windowStop c.nofSlotsPerSf - cfg.position c.nofSlotsPerSf (now + 1))) =
          c.clockBase.add (now + 1 - cfg.position c.nofSlotsPerSf (now + 1) -
            (10240 * c.nofSlotsPerSf - cfg.longStartOffset * c.nofSlotsPerSf) +
              cfg.onDurationTimer * c.nofSlotsPerSf) := by
        apply SlotPoint.add_congr
        rw [base_hyperFrame]
        change _ % (10240 * c.nofSlotsPerSf) = _ % (10240 * c.nofSlotsPerSf)
        have hpos := hwrapped.1
        have hturn : now + 1 + (cfg.windowStop c.nofSlotsPerSf - cfg.position c.nofSlotsPerSf (now + 1)) =
            now + 1 - cfg.position c.nofSlotsPerSf (now + 1) -
              (10240 * c.nofSlotsPerSf - cfg.longStartOffset * c.nofSlotsPerSf) +
                cfg.onDurationTimer * c.nofSlotsPerSf + 10240 * c.nofSlotsPerSf := by
          have hoffset := Nat.mul_le_mul_right c.nofSlotsPerSf (hcycle ▸ cfg.longStartOffset_lt.le)
          unfold DrxConfig.windowStop at hstop ⊢
          omega
        rw [hturn, Nat.add_mod_right]
      rw [hsame]
      rfl
    · have hiff := DrxConfig.inWindow_iff hwrapped
      by_cases hin : cfg.longStartOffset * c.nofSlotsPerSf ≤ cfg.position c.nofSlotsPerSf (now + 1) ∧
          cfg.position c.nofSlotsPerSf (now + 1) < cfg.windowStop c.nofSlotsPerSf
      · rw [if_pos (hwindow.mpr (.inl hin))]
        refine ⟨_, ?_, Indicated.entered (DrxConfig.windowAt_own hin.1 hin.2) hidle⟩
        have hle : cfg.position c.nofSlotsPerSf (now + 1) ≤ now + 1 := (Nat.mod_le _ _).trans (Nat.mod_le _ _)
        have hsame : now + 1 + (cfg.windowStop c.nofSlotsPerSf - cfg.position c.nofSlotsPerSf (now + 1)) =
            now + 1 - (cfg.position c.nofSlotsPerSf (now + 1) - cfg.longStartOffset * c.nofSlotsPerSf) +
              cfg.onDurationTimer * c.nofSlotsPerSf := by
          unfold DrxConfig.windowStop at hin ⊢
          omega
        rw [hsame]
        rfl
      · have hout : c.isSlotInOnDurationTimerWindow (cfg.position c.nofSlotsPerSf (now + 1)) ≠ true := by
          intro htrue
          obtain ⟨hlong, htail⟩ := (hwindow.mp htrue).resolve_left hin
          apply hwrapped
          refine ⟨?_, .inr ⟨hlong, htail⟩⟩
          have hdur := Nat.mul_le_mul_right c.nofSlotsPerSf cfg.onDurationTimer_le
          rw [DrxConfig.windowStop_mod hk hlong] at htail
          unfold DrxConfig.windowStop at htail
          omega
        rw [if_neg hout]
        exact ⟨none, rfl, Indicated.idle (fun hw => hin (hiff.mp hw)) hidle⟩

lemma extend_eq (c : UeDrxController) (newEnd : SlotPoint) :
    c.extend newEnd = { c with activeTimeEnd := extended c.activeTimeEnd newEnd } := by
  unfold extend extended
  cases hE : c.activeTimeEnd with
  | none => rfl
  | some e =>
    dsimp only
    split
    · rfl
    · rw [← hE]

lemma extend_withEnd (h : EndsAt c.clockBase (some cfg) now ends o) {t : Nat} (ht : Near c.nofSlotsPerSf now t) :
    ∃ o', (c.withEnd o).extend (c.clockBase.add t) = c.withEnd o' ∧ EndsAt c.clockBase (some cfg) now (t :: ends) o' := by
  obtain ⟨o', hextended, hends⟩ := h.extend ht
  refine ⟨o', ?_, hends⟩
  rw [extend_eq]
  unfold withEnd
  rw [hextended]

lemma foldl_extend_withEnd {ts : List Nat} (h : EndsAt c.clockBase (some cfg) now ends o)
    (hts : ∀ t ∈ ts, Near c.nofSlotsPerSf now t) :
    ∃ o', ts.foldl (fun c' t => c'.extend (c.clockBase.add t)) (c.withEnd o) = c.withEnd o' ∧
      EndsAt c.clockBase (some cfg) now (ts ++ ends) o' := by
  induction ts generalizing ends o with
  | nil => exact ⟨o, rfl, h⟩
  | cons t ts ih =>
    obtain ⟨o', hextend, hends⟩ := extend_withEnd h (hts t List.mem_cons_self)
    obtain ⟨o'', hfold, hends'⟩ := ih hends fun t' ht' => hts t' (List.mem_cons_of_mem t ht')
    refine ⟨o'', ?_, hends'.congr fun t' => ?_⟩
    · rw [List.foldl_cons, hextend]
      exact hfold
    · rw [List.cons_append, List.mem_cons, List.mem_append, List.mem_append, List.mem_cons]
      exact or_left_comm

end UeDrxController

namespace DrxRun

variable (r : DrxRun)

def Close (n : Nat) : Prop := r.now < n + 1280 * r.ctrl.nofSlotsPerSf ∧ n < r.now + 1280 * r.ctrl.nofSlotsPerSf

/-- The condition on an event. No window of an earlier configuration is running at a reconfiguration, and no active time
begins in the part of a window behind the end of its cycle, unless the cycle is a whole hyper system frame. -/
def Condition : DrxEvent → Prop
  | .slotIndication => ∀ cfg, r.ctrl.drxCfg = some cfg → r.ctrl.runningEnd (r.slotAt (r.now + 1)) = none →
      ¬ cfg.Wrapped r.ctrl.nofSlotsPerSf (r.now + 1) ∨ cfg.longCycle = 10240
  | .reconfigure newCfg => newCfg = none ∨ r.ctrl.drxCfg = newCfg ∨ ∀ endSlot, r.ctrl.activeTimeEnd = some endSlot →
      ∃ e, endSlot = r.slotAt e ∧ Near r.ctrl.nofSlotsPerSf r.now e ∧ (e ≤ r.now + 1 ∨ e ∈ r.timerEnds)
  | .onNewDlPdcchAlloc pdcchSlot => r.Close pdcchSlot
  | .onNewUlPdcchAlloc pdcchSlot puschSlot => r.Close pdcchSlot ∧ r.Close puschSlot
  | .onDlHarqNack uciSlot => r.Close uciSlot
  | .onConResStart => ∀ slotRx, r.ulCcchSlotRx = some slotRx → r.Close slotRx
  | .setPendingSr _ => True

/-- The runs whose events meet their condition. The clock starts a hyper system frame before the controller, whose
contention resolution timer is at most 64 ms. -/
inductive Reached : DrxRun → Prop where
  | created {scsCommon conresTimer drxCfg ulCcchSlotRx now} (hconres : conresTimer ≤ 64)
      (hnow : 10240 * 2 ^ scsCommon ≤ now) : Reached (.create scsCommon conresTimer drxCfg ulCcchSlotRx now)
  | step {r : DrxRun} {e : DrxEvent} (h : Reached r) (hC : r.Condition e) : Reached (r.step e)

structure Inv : Prop where
  now : 10240 * r.ctrl.nofSlotsPerSf ≤ r.now
  conres : r.ctrl.conresTimer ≤ 64
  ulCcch : r.ctrl.ulCcchSlotRx = r.ulCcchSlotRx.map r.ctrl.clockBase.add
  converted : ∀ cfg, r.ctrl.drxCfg = some cfg → UeDrxController.Converted r.ctrl cfg
  ends : ∃ o : Option Nat, r.ctrl.activeTimeEnd = o.map r.ctrl.clockBase.add ∧
    EndsAt r.ctrl.clockBase r.ctrl.drxCfg r.now r.timerEnds o

section Steps

variable {r : DrxRun}

def Moved (r : DrxRun) (e : DrxEvent) : Prop :=
  ∃ o, r.ctrlStep e = r.ctrl.withEnd o ∧
    EndsAt r.ctrl.clockBase r.ctrl.drxCfg (r.step e).now (r.step e).timerEnds o

lemma Inv.of_moved (h : r.Inv) {e : DrxEvent} (hmoved : r.Moved e) : (r.step e).Inv := by
  obtain ⟨o, hctrl, hends⟩ := hmoved
  have hstep : (r.step e).ctrl = r.ctrl.withEnd o := hctrl
  have hnow : r.now ≤ (r.step e).now := by
    change r.now ≤ if e = .slotIndication then r.now + 1 else r.now
    split <;> omega
  refine ⟨?_, ?_, ?_, ?_, o, ?_, ?_⟩
  · rw [hstep]
    exact h.now.trans hnow
  · rw [hstep]
    exact h.conres
  · rw [hstep]
    exact h.ulCcch
  · rw [hstep]
    intro cfg hcfg
    obtain ⟨hperiod, hstart, hstop, hinactivity⟩ := h.converted cfg hcfg
    exact ⟨hperiod, hstart, hstop, hinactivity⟩
  · rw [hstep]
    rfl
  · rw [hstep]
    exact hends

lemma withEnd_self {o : Option Nat} (hE : r.ctrl.activeTimeEnd = o.map r.ctrl.clockBase.add) :
    r.ctrl.withEnd o = r.ctrl := by
  unfold UeDrxController.withEnd
  rw [← hE]

lemma step_now {e : DrxEvent} (hne : e ≠ .slotIndication) : (r.step e).now = r.now := if_neg hne

lemma Inv.moved_same (h : r.Inv) {e : DrxEvent} (hne : e ≠ .slotIndication) (hctrl : r.ctrlStep e = r.ctrl)
    (hstarted : r.startedTimers e = []) : r.Moved e := by
  obtain ⟨o, hE, hends⟩ := h.ends
  refine ⟨o, hctrl.trans (withEnd_self hE).symm, ?_⟩
  rw [step_now hne]
  change EndsAt _ _ _ (r.startedTimers e ++ r.timerEnds) o
  rw [hstarted]
  exact hends

lemma Inv.moved_timers (h : r.Inv) {cfg : DrxConfig} (hcfg : r.ctrl.drxCfg = some cfg) {e : DrxEvent}
    (hne : e ≠ .slotIndication) (hnear : ∀ t ∈ r.startedTimers e, Near r.ctrl.nofSlotsPerSf r.now t)
    (hctrl : r.ctrlStep e = (r.startedTimers e).foldl (fun c t => c.extend (r.ctrl.clockBase.add t)) r.ctrl) :
    r.Moved e := by
  obtain ⟨o, hE, hends⟩ := h.ends
  rw [hcfg] at hends
  obtain ⟨o', hfold, hends'⟩ := UeDrxController.foldl_extend_withEnd hends hnear
  rw [withEnd_self hE] at hfold
  refine ⟨o', hctrl.trans hfold, ?_⟩
  rw [step_now hne, hcfg]
  exact hends'

lemma Close.near {n d : Nat} (h : r.Close n) (hd : d ≤ 2560 * r.ctrl.nofSlotsPerSf) :
    Near r.ctrl.nofSlotsPerSf r.now (n + d) := by
  obtain ⟨hpast, hfuture⟩ := h
  exact ⟨by omega, by omega⟩

lemma Inv.inactivity_le (h : r.Inv) {cfg : DrxConfig} (hcfg : r.ctrl.drxCfg = some cfg) :
    r.ctrl.inactivityDur ≤ 2560 * r.ctrl.nofSlotsPerSf := by
  rw [(h.converted cfg hcfg).inactivity]
  exact Nat.mul_le_mul_right _ cfg.inactivityTimer_le_max

lemma retx_le {d : Nat} (r : DrxRun) (h : d ≤ 320) : d ≤ 2560 * r.ctrl.nofSlotsPerSf := by
  have := r.ctrl.nofSlotsPerSf_pos
  omega

lemma Inv.moved_unconfigured (h : r.Inv) (hcfg : r.ctrl.drxCfg = none) {e : DrxEvent}
    (hctrl : r.ctrlStep e = r.ctrl) : r.Moved e := by
  obtain ⟨o, hE, hends⟩ := h.ends
  have hstarted : r.startedTimers e = [] := by
    unfold startedTimers
    rw [hcfg]
  have hnow : r.now ≤ (r.step e).now := by
    change r.now ≤ if e = .slotIndication then r.now + 1 else r.now
    split <;> omega
  refine ⟨o, hctrl.trans (withEnd_self hE).symm, ?_⟩
  rw [hcfg] at hends ⊢
  change EndsAt _ _ _ (r.startedTimers e ++ r.timerEnds) o
  rw [hstarted]
  refine ⟨fun e' he' => ?_, fun t ht hlt => hends.covers t ht (by omega), fun hsome => (nomatch hsome),
    fun c hc => (nomatch hc)⟩
  have := hends.bound e' he'
  omega

lemma updateInactivityTimer_eq (r : DrxRun) (c : UeDrxController) (n : Nat)
    (hdur : c.inactivityDur = r.ctrl.inactivityDur) :
    c.updateInactivityTimer (r.slotAt n) =
      (if r.ctrl.inactivityDur ≠ 0 then [n + r.ctrl.inactivityDur] else []).foldl
        (fun c t => c.extend (r.ctrl.clockBase.add t)) c := by
  unfold UeDrxController.updateInactivityTimer
  rw [hdur]
  split
  · change c.extend ((r.ctrl.clockBase.add n).add _) = _
    rw [SlotPoint.add_add]
    rfl
  · rfl

section Calls

variable {cfg : DrxConfig}

lemma Inv.moved_onNewDlPdcchAlloc (h : r.Inv) (hcfg : r.ctrl.drxCfg = some cfg) {pdcchSlot : Nat}
    (hclose : r.Close pdcchSlot) : r.Moved (.onNewDlPdcchAlloc pdcchSlot) := by
  have hstarted : r.startedTimers (.onNewDlPdcchAlloc pdcchSlot) =
      if r.ctrl.isActiveTime r.hasPendingSr ∧ r.ctrl.inactivityDur ≠ 0 then [pdcchSlot + r.ctrl.inactivityDur]
      else [] := by
    unfold startedTimers
    rw [hcfg]
  apply h.moved_timers hcfg DrxEvent.noConfusion
  · intro t ht
    rw [hstarted] at ht
    split at ht
    · rw [List.mem_singleton.mp ht]
      exact hclose.near (h.inactivity_le hcfg)
    · cases ht
  · rw [hstarted]
    change r.ctrl.onNewDlPdcchAlloc r.hasPendingSr (r.slotAt pdcchSlot) = _
    unfold UeDrxController.onNewDlPdcchAlloc
    rw [if_neg (by rw [hcfg]; exact Option.some_ne_none cfg)]
    by_cases hactive : r.ctrl.isActiveTime r.hasPendingSr = true
    · rw [if_neg (by rw [hactive]; exact Bool.noConfusion), updateInactivityTimer_eq r r.ctrl pdcchSlot rfl]
      simp only [hactive, true_and]
    · rw [if_pos (Bool.eq_false_of_not_eq_true hactive), if_neg fun hand => hactive hand.1]
      rfl

lemma Inv.moved_onNewUlPdcchAlloc (h : r.Inv) (hcfg : r.ctrl.drxCfg = some cfg) {pdcchSlot puschSlot : Nat}
    (hclose : r.Close pdcchSlot ∧ r.Close puschSlot) : r.Moved (.onNewUlPdcchAlloc pdcchSlot puschSlot) := by
  have hstarted : r.startedTimers (.onNewUlPdcchAlloc pdcchSlot puschSlot) =
      if r.ctrl.isActiveTime r.hasPendingSr then
        (if r.ctrl.inactivityDur ≠ 0 then [pdcchSlot + r.ctrl.inactivityDur] else []) ++
          if cfg.retxTimerUl ≠ 0 then [puschSlot + cfg.retxTimerUl] else []
      else [] := by
    unfold startedTimers
    rw [hcfg]
  apply h.moved_timers hcfg DrxEvent.noConfusion
  · intro t ht
    rw [hstarted] at ht
    split at ht
    · rcases List.mem_append.mp ht with ht | ht
      · split at ht
        · rw [List.mem_singleton.mp ht]
          exact hclose.1.near (h.inactivity_le hcfg)
        · cases ht
      · split at ht
        · rw [List.mem_singleton.mp ht]
          exact hclose.2.near (retx_le r cfg.retxTimerUl_le_max)
        · cases ht
    · cases ht
  · rw [hstarted]
    change r.ctrl.onNewUlPdcchAlloc r.hasPendingSr (r.slotAt pdcchSlot) (r.slotAt puschSlot) = _
    unfold UeDrxController.onNewUlPdcchAlloc
    rw [hcfg]
    dsimp only
    by_cases hactive : r.ctrl.isActiveTime r.hasPendingSr = true
    · rw [if_neg (by rw [hactive]; exact Bool.noConfusion), if_pos hactive, List.foldl_append,
        ← updateInactivityTimer_eq r r.ctrl pdcchSlot rfl]
      split
      · change UeDrxController.extend _ ((r.ctrl.clockBase.add puschSlot).add _) = _
        rw [SlotPoint.add_add]
        rfl
      · rfl
    · rw [if_pos (Bool.eq_false_of_not_eq_true hactive), if_neg hactive]
      rfl

lemma Inv.moved_onDlHarqNack (h : r.Inv) (hcfg : r.ctrl.drxCfg = some cfg) {uciSlot : Nat} (hclose : r.Close uciSlot) :
    r.Moved (.onDlHarqNack uciSlot) := by
  have hstarted : r.startedTimers (.onDlHarqNack uciSlot) =
      if cfg.retxTimerDl ≠ 0 then [uciSlot + cfg.retxTimerDl] else [] := by
    unfold startedTimers
    rw [hcfg]
  apply h.moved_timers hcfg DrxEvent.noConfusion
  · intro t ht
    rw [hstarted] at ht
    split at ht
    · rw [List.mem_singleton.mp ht]
      exact hclose.near (retx_le r cfg.retxTimerDl_le_max)
    · cases ht
  · rw [hstarted]
    change r.ctrl.onDlHarqNack (r.slotAt uciSlot) = _
    unfold UeDrxController.onDlHarqNack
    rw [hcfg]
    dsimp only
    split
    · change UeDrxController.extend _ ((r.ctrl.clockBase.add uciSlot).add _) = _
      rw [SlotPoint.add_add]
      rfl
    · rfl

lemma Inv.moved_onConResStart (h : r.Inv) (hcfg : r.ctrl.drxCfg = some cfg)
    (hclose : ∀ slotRx, r.ulCcchSlotRx = some slotRx → r.Close slotRx) : r.Moved .onConResStart := by
  have hstarted : r.startedTimers .onConResStart =
      (r.ulCcchSlotRx.map fun slotRx => slotRx + r.ctrl.conresTimer * r.ctrl.nofSlotsPerSf).toList := by
    unfold startedTimers
    rw [hcfg]
  have hctrl : r.ctrlStep .onConResStart =
      match r.ctrl.ulCcchSlotRx with
      | none => r.ctrl
      | some slotRx => r.ctrl.extend (slotRx.add (r.ctrl.conresTimer * r.ctrl.nofSlotsPerSf)) :=
    if_neg (by rw [hcfg]; exact Option.some_ne_none cfg)
  rw [h.ulCcch] at hctrl
  apply h.moved_timers hcfg DrxEvent.noConfusion
  · intro t ht
    rw [hstarted] at ht
    cases hul : r.ulCcchSlotRx with
    | none =>
      rw [hul] at ht
      cases ht
    | some slotRx =>
      rw [hul] at ht
      rw [List.mem_singleton.mp ht]
      apply (hclose slotRx hul).near
      exact Nat.mul_le_mul_right _ (h.conres.trans (by decide))
  · rw [hctrl, hstarted]
    cases r.ulCcchSlotRx with
    | none => rfl
    | some slotRx =>
      change r.ctrl.extend ((r.ctrl.clockBase.add slotRx).add _) = _
      rw [SlotPoint.add_add]
      rfl

end Calls

lemma Inv.indicated (h : r.Inv) (hC : r.Condition .slotIndication) {cfg : DrxConfig}
    (hcfg : r.ctrl.drxCfg = some cfg) :
    ∃ o, r.ctrlStep .slotIndication = r.ctrl.withEnd o ∧ Indicated r.ctrl.clockBase cfg (r.now + 1) r.timerEnds o := by
  obtain ⟨o, hE, hends⟩ := h.ends
  rw [hcfg] at hends
  exact UeDrxController.slotIndication_spec hcfg (h.converted cfg hcfg) hE hends h.now (hC cfg hcfg)

lemma startedTimers_slotIndication (r : DrxRun) : r.startedTimers .slotIndication = [] := by
  unfold startedTimers
  split
  · rfl
  · rfl

lemma Inv.moved_slotIndication (h : r.Inv) (hC : r.Condition .slotIndication) : r.Moved .slotIndication := by
  cases hcfg : r.ctrl.drxCfg with
  | none => exact h.moved_unconfigured hcfg (if_pos hcfg)
  | some cfg =>
    obtain ⟨o, hctrl, hindicated⟩ := h.indicated hC hcfg
    refine ⟨o, hctrl, ?_⟩
    change EndsAt _ _ (r.now + 1) (r.startedTimers .slotIndication ++ r.timerEnds) o
    rw [startedTimers_slotIndication, hcfg]
    exact hindicated.endsAt

lemma eq_of_slotAt_eq {e e' : Nat} (hslot : r.ctrl.clockBase.add e = r.ctrl.clockBase.add e')
    (hle : e < e' + 10240 * r.ctrl.nofSlotsPerSf) (hle' : e' < e + 10240 * r.ctrl.nofSlotsPerSf) : e = e' := by
  have hmod := SlotPoint.add_eq_add_iff.mp hslot
  rw [base_hyperFrame] at hmod
  change e % (10240 * r.ctrl.nofSlotsPerSf) = e' % (10240 * r.ctrl.nofSlotsPerSf) at hmod
  rcases Nat.le_total e e' with h | h
  · exact eq_of_mod_eq_of_lt h hle' hmod
  · exact (eq_of_mod_eq_of_lt h hle hmod.symm).symm

lemma Inv.ends_reconfigure (h : r.Inv) {cfg : DrxConfig}
    (hC : ∀ endSlot, r.ctrl.activeTimeEnd = some endSlot →
      ∃ e, endSlot = r.slotAt e ∧ Near r.ctrl.nofSlotsPerSf r.now e ∧ (e ≤ r.now + 1 ∨ e ∈ r.timerEnds)) :
    ∃ o : Option Nat, r.ctrl.activeTimeEnd = o.map r.ctrl.clockBase.add ∧
      EndsAt r.ctrl.clockBase (some cfg) r.now r.timerEnds o := by
  obtain ⟨o, hE, hends⟩ := h.ends
  cases o with
  | none =>
    refine ⟨none, hE, fun _ he => (by cases he), hends.covers, fun _ _ he => (by cases he), fun _ _ _ he => (by cases he)⟩
  | some e =>
    obtain ⟨e', hslot, hnear, hcause⟩ := hC _ hE
    have hbound := hends.bound e rfl
    refine ⟨some e', ?_, ?_, fun t ht hlt => ?_, ?_, ?_⟩
    · rw [hE]
      exact congrArg some hslot
    · rintro _ ⟨⟩
      exact hnear.2
    · obtain ⟨e'', he'', hle⟩ := hends.covers t ht hlt
      cases he''
      have hsame : e = e' := by
        have hnear₁ := hnear.1
        have hnear₂ := hnear.2
        change e < r.now + 3840 * r.ctrl.nofSlotsPerSf at hbound
        exact eq_of_slotAt_eq hslot (by omega) (by omega)
      exact ⟨e', rfl, hsame ▸ hle⟩
    · rintro - _ ⟨⟩
      exact hnear.1
    · rintro c - _ ⟨⟩
      exact hcause.imp id .inl

lemma Inv.reconfigure (h : r.Inv) {newCfg : Option DrxConfig} (hC : r.Condition (.reconfigure newCfg)) :
    (r.step (.reconfigure newCfg)).Inv := by
  have hstarted : r.startedTimers (.reconfigure newCfg) = [] := by
    unfold startedTimers
    split
    · rfl
    · rfl
  by_cases hsame : r.ctrl.drxCfg = newCfg
  · exact h.of_moved (h.moved_same DrxEvent.noConfusion (if_pos hsame) hstarted)
  · have htimers : (r.step (.reconfigure newCfg)).timerEnds = r.timerEnds := by
      change r.startedTimers _ ++ _ = _
      rw [hstarted]
      rfl
    cases newCfg with
    | none =>
      have hctrl : (r.step (.reconfigure none)).ctrl = { r.ctrl with drxCfg := none } := if_neg hsame
      obtain ⟨o, hE, hends⟩ := h.ends
      refine ⟨?_, ?_, ?_, ?_, o, ?_, ?_⟩
      · rw [hctrl]
        exact h.now
      · rw [hctrl]
        exact h.conres
      · rw [hctrl]
        exact h.ulCcch
      · rw [hctrl]
        exact fun _ hcfg => (nomatch hcfg)
      · rw [hctrl]
        exact hE
      · rw [hctrl, htimers]
        exact ⟨hends.bound, hends.covers, fun hsome => (nomatch hsome), fun _ hcfg => (nomatch hcfg)⟩
    | some cfg =>
      have hctrl : (r.step (.reconfigure (some cfg))).ctrl =
          { r.ctrl with
            drxCfg := some cfg
            activeWindowPeriod := cfg.longCycle * r.ctrl.nofSlotsPerSf
            activeWindowStart := cfg.longStartOffset * r.ctrl.nofSlotsPerSf
            activeWindowStop := cfg.longStartOffset * r.ctrl.nofSlotsPerSf + cfg.onDurationTimer * r.ctrl.nofSlotsPerSf
            inactivityDur := cfg.inactivityTimer * r.ctrl.nofSlotsPerSf } := if_neg hsame
      have hrunning := (hC.resolve_left (Option.some_ne_none cfg)).resolve_left hsame
      obtain ⟨o, hE, hends⟩ : ∃ o : Option Nat, r.ctrl.activeTimeEnd = o.map r.ctrl.clockBase.add ∧
          EndsAt r.ctrl.clockBase (some cfg) r.now r.timerEnds o := h.ends_reconfigure hrunning
      refine ⟨?_, ?_, ?_, ?_, o, ?_, ?_⟩
      · rw [hctrl]
        exact h.now
      · rw [hctrl]
        exact h.conres
      · rw [hctrl]
        exact h.ulCcch
      · rw [hctrl]
        rintro c ⟨⟩
        exact ⟨rfl, rfl, rfl, rfl⟩
      · rw [hctrl]
        exact hE
      · rw [hctrl, htimers]
        exact hends

lemma Inv.step (h : r.Inv) {e : DrxEvent} (hC : r.Condition e) : (r.step e).Inv := by
  cases e with
  | slotIndication => exact h.of_moved (h.moved_slotIndication hC)
  | reconfigure newCfg => exact h.reconfigure hC
  | setPendingSr pending =>
    apply h.of_moved (h.moved_same DrxEvent.noConfusion rfl _)
    unfold startedTimers
    split
    · rfl
    · rfl
  | onNewDlPdcchAlloc pdcchSlot =>
    cases hcfg : r.ctrl.drxCfg with
    | none => exact h.of_moved (h.moved_unconfigured hcfg (if_pos hcfg))
    | some cfg => exact h.of_moved (h.moved_onNewDlPdcchAlloc hcfg hC)
  | onNewUlPdcchAlloc pdcchSlot puschSlot =>
    cases hcfg : r.ctrl.drxCfg with
    | none =>
      apply h.of_moved (h.moved_unconfigured hcfg _)
      unfold ctrlStep UeDrxController.onNewUlPdcchAlloc
      rw [hcfg]
    | some cfg => exact h.of_moved (h.moved_onNewUlPdcchAlloc hcfg hC)
  | onDlHarqNack uciSlot =>
    cases hcfg : r.ctrl.drxCfg with
    | none =>
      apply h.of_moved (h.moved_unconfigured hcfg _)
      unfold ctrlStep UeDrxController.onDlHarqNack
      rw [hcfg]
    | some cfg => exact h.of_moved (h.moved_onDlHarqNack hcfg hC)
  | onConResStart =>
    cases hcfg : r.ctrl.drxCfg with
    | none => exact h.of_moved (h.moved_unconfigured hcfg (if_pos hcfg))
    | some cfg => exact h.of_moved (h.moved_onConResStart hcfg hC)

lemma Inv.created {scsCommon conresTimer now : Nat} {drxCfg : Option DrxConfig} {ulCcchSlotRx : Option Nat}
    (hconres : conresTimer ≤ 64) (hnow : 10240 * 2 ^ scsCommon ≤ now) :
    (create scsCommon conresTimer drxCfg ulCcchSlotRx now).Inv := by
  have hends : ∀ c, EndsAt ⟨scsCommon, 0⟩ c now [] none := fun c =>
    ⟨fun _ he => (by cases he), fun _ ht => (by cases ht), fun _ _ he => (by cases he), fun _ _ _ he => (by cases he)⟩
  cases drxCfg with
  | none => exact ⟨hnow, hconres, rfl, fun _ hcfg => (by cases hcfg), none, rfl, hends _⟩
  | some cfg =>
    refine ⟨hnow, hconres, rfl, ?_, none, rfl, hends _⟩
    rintro c ⟨⟩
    exact ⟨rfl, rfl, rfl, rfl⟩

lemma Reached.inv (h : Reached r) : r.Inv := by
  induction h with
  | created hconres hnow => exact Inv.created hconres hnow
  | step _ hC ih => exact ih.step hC

/-- What the active time is: the on-duration windows of the configuration, the timers, and the pending SRs. -/
def ActiveTime (r : DrxRun) (cfg : DrxConfig) : Prop :=
  cfg.InWindow r.ctrl.nofSlotsPerSf r.now ∨ (∃ t ∈ r.timerEnds, r.now < t) ∨ r.hasPendingSr = true

/-- In every run whose events meet their condition, the controller reports active time after a slot indication exactly
in the on-duration windows of its configuration, before the end of a timer, and while an SR is pending; and active time
inside a window without a timer ends at the end of that window. -/
theorem active_time_iff (h : Reached r) (hC : r.Condition .slotIndication) {cfg : DrxConfig}
    (hcfg : r.ctrl.drxCfg = some cfg) :
    ((r.step .slotIndication).ctrl.isPdcchEnabled (r.step .slotIndication).hasPendingSr = true ↔
      (r.step .slotIndication).ActiveTime cfg) ∧
      (cfg.InWindow r.ctrl.nofSlotsPerSf (r.now + 1) → (∀ t ∈ r.timerEnds, t ≤ r.now + 1) →
        ∃ a, cfg.WindowAt r.ctrl.nofSlotsPerSf a (r.now + 1) ∧
          (r.step .slotIndication).ctrl.activeTimeEnd =
            some (r.slotAt (a + cfg.onDurationTimer * r.ctrl.nofSlotsPerSf))) := by
  obtain ⟨o, hctrl, hindicated⟩ := h.inv.indicated hC hcfg
  have hstep : (r.step .slotIndication).ctrl = r.ctrl.withEnd o := hctrl
  have htimers : (r.step .slotIndication).timerEnds = r.timerEnds := by
    change r.startedTimers _ ++ _ = _
    rw [startedTimers_slotIndication]
    rfl
  have hactive : (o.map r.ctrl.clockBase.add).isSome = true ↔
      cfg.InWindow r.ctrl.nofSlotsPerSf (r.now + 1) ∨ ∃ t ∈ r.timerEnds, r.now + 1 < t := by
    rw [Option.isSome_map]
    exact hindicated.active
  constructor
  · unfold ActiveTime
    rw [htimers, hstep]
    change (r.ctrl.drxCfg.isNone || ((o.map r.ctrl.clockBase.add).isSome || r.hasPendingSr)) = true ↔
      cfg.InWindow r.ctrl.nofSlotsPerSf (r.now + 1) ∨ (∃ t ∈ r.timerEnds, r.now + 1 < t) ∨ r.hasPendingSr = true
    rw [hcfg, Option.isNone_some, Bool.false_or, Bool.or_eq_true, hactive, or_assoc]
  · intro hwindow hidle
    have hsome : o.isSome = true := hindicated.active.mpr (.inl hwindow)
    obtain ⟨e, he⟩ := Option.isSome_iff_exists.mp hsome
    have hahead := hindicated.ahead e he
    rcases hindicated.cause e he with htimer | ⟨a, ha, hend⟩
    · exact absurd (hidle e htimer) (Nat.not_le.mpr hahead)
    · refine ⟨a, ha, ?_⟩
      rw [hstep, he, hend]
      rfl

end Steps

section Runs

/-- A cycle of 20 ms with 10 ms of on-duration. -/
def shortCycle (offset : Nat) (h : offset < 20) : DrxConfig where
  longCycle := 20
  longStartOffset := offset
  onDurationTimer := 10
  inactivityTimer := 10
  retxTimerDl := 4
  retxTimerUl := 4
  longStartOffset_lt := h
  onDurationTimer_le := by decide
  longCycle_le := by decide
  onDurationTimer_le_max := by decide
  inactivityTimer_le_max := by decide
  retxTimerDl_le_max := by decide
  retxTimerUl_le_max := by decide

def beforeWindow : DrxRun := .create 0 64 (some (shortCycle 10 (by decide))) none 10249

theorem active_time_window :
    (beforeWindow.step .slotIndication).ctrl.isPdcchEnabled false = true ∧
      (beforeWindow.step .slotIndication).ctrl.activeTimeEnd = some (beforeWindow.slotAt 10260) := by
  have hcond : beforeWindow.Condition .slotIndication := by
    rintro cfg ⟨⟩ -
    exact .inl fun hwrapped => absurd hwrapped.1 (by decide)
  have hwindow : (shortCycle 10 (by decide)).WindowAt 1 10250 10250 := ⟨by decide, by decide, by decide⟩
  have hreached : Reached beforeWindow := .created (by decide) (by decide)
  obtain ⟨hiff, hend⟩ := active_time_iff hreached hcond rfl
  refine ⟨hiff.mpr (.inl ⟨_, hwindow⟩), ?_⟩
  obtain ⟨a, ⟨hle, hlt, hstart⟩, hends⟩ := hend ⟨_, hwindow⟩ fun _ ht => (nomatch ht)
  have ha : a = 10250 := by
    change a ≤ 10250 at hle
    change 10250 < a + 10 at hlt
    change a % 10240 % 20 = 10 at hstart
    omega
  rw [hends, ha]
  rfl

def wrappedTail : DrxRun :=
  [.slotIndication, .slotIndication, .slotIndication, .slotIndication, .slotIndication, .slotIndication].foldl
    DrxRun.step (.create 0 64 (some (shortCycle 15 (by decide))) none 10259)

/-- The window that started at slot 10255 ends at slot 10265, where the controller goes on. -/
theorem active_time_wrapped :
    wrappedTail.now = 10265 ∧ wrappedTail.ctrl.drxCfg = some (shortCycle 15 (by decide)) ∧
      wrappedTail.ctrl.isPdcchEnabled wrappedTail.hasPendingSr = true ∧
      ¬ wrappedTail.ActiveTime (shortCycle 15 (by decide)) := by
  refine ⟨by decide, by decide, by decide, ?_⟩
  rintro (⟨a, hle, hlt, hstart⟩ | ⟨t, ht, -⟩ | hpending)
  · change a ≤ 10265 at hle
    change 10265 < a + 10 at hlt
    change a % 10240 % 20 = 15 at hstart
    omega
  · have hnone : wrappedTail.timerEnds = [] := by decide
    rw [hnone] at ht
    cases ht
  · exact absurd hpending (by decide)

end Runs

end DrxRun

end OwlsRan.Sched
