import Ndhc.Config.Actions

/-!
# The delays between probes

`arp_probe_wait` is the delay after the first probe, and every later one is drawn by
`arp_gen_probe_wait` between `arp_probe_min` and `arp_probe_max`.  The range drawn from is never
less than a second, whatever the bounds are, and the delay is kept in sixteen bits: only settings
that neither of the two changes are respected (`probe_delays_iff`).
-/

namespace Ndhc

open Prog

/-! ## Statement -/

inductive ProbeSetting where
  | wait
  | min
  | max
  deriving DecidableEq, Repr

def ProbeSetting.opt : ProbeSetting → Opt
  | .wait => .arpProbeWait
  | .min => .arpProbeMin
  | .max => .arpProbeMax

/-- The settings after these options, each with the text of its value. -/
def applyProbes (w : CfgWorld) (options : List (ProbeSetting × List UInt8)) : Option Settings :=
  options.foldlM (fun st o => o.1.opt.action w o.2 .nothing st) .initial

/-- The value an option was given last. -/
def lastGiven (options : List (ProbeSetting × List UInt8)) (key : ProbeSetting) (default : Int) : Int :=
  ((options.filter fun o => o.1 = key).getLast?.map fun o => atoi (cstr o.2)).getD default

/-- The smaller and the larger of the bounds last given. -/
def lowGiven (options : List (ProbeSetting × List UInt8)) : Int :=
  min (lastGiven options .min 1000) (lastGiven options .max 2000)

def highGiven (options : List (ProbeSetting × List UInt8)) : Int :=
  max (lastGiven options .min 1000) (lastGiven options .max 2000)

/-- `range` in `arp_gen_probe_wait` -/
def ProbeConfig.range (p : ProbeConfig) : Int := if p.max - p.min < 1000 then 1000 else p.max - p.min

/-- No `int` overflows in `arp_gen_probe_wait`. -/
def ProbeConfig.NoOverflow (p : ProbeConfig) : Prop :=
  p.max - p.min ≤ INT_MAX ∧ p.min + (p.range - 1) ≤ INT_MAX

/-- With these settings, in every state and whatever is drawn: the delay after the first probe is
`arp_probe_wait`, one after a later probe is at least `lo` and at most `hi`, and the timer is
never set to a time before the last probe was sent. -/
def DelaysKept (p : ProbeConfig) (lo hi : Int) : Prop :=
  p.NoOverflow ∧ ∀ (env : Env) (cfg : ClientConfig) (s t : Sys),
    (∀ packet, arpCheck env (cfg.withProbes p) packet s = .ok 0 t →
      t.garp.probeWaitTime = p.wait ∧ t.garp.collisionStats.ts ≤ t.garp.wakeTs.collisionCheck) ∧
    ∀ nowts, arpCollisionTimeout env (cfg.withProbes p) nowts s = .ok .ok t →
      t.garp.collisionStats.ts ≤ t.garp.wakeTs.collisionCheck ∧
      (s.garp.collisionStats.ts + s.garp.probeWaitTime ≤ nowts →
        lo ≤ t.garp.probeWaitTime ∧ t.garp.probeWaitTime ≤ hi)

/-- All delays that may be drawn, cut to sixteen bits, are between `lo` and `hi`: either these allow
any such number, or none of the delays is cut in a way that separates it from the others. -/
def ProbeConfig.Between (p : ProbeConfig) (lo hi : Int) : Prop :=
  (lo ≤ 0 ∧ 65535 ≤ hi) ∨
    (p.min % 65536 + p.range ≤ 65536 ∧ lo ≤ p.min % 65536 ∧ p.min % 65536 + (p.range - 1) ≤ hi)

/-! ## Lemmas -/

section
variable (env : Env) (cfg : ClientConfig) (s : Sys)

theorem arpCheck_waits (packet : DhcpMsg) :
    wp (arpCheck env cfg packet)
      (fun r t => r = 0 → t.garp.probeWaitTime = (cfg.arpProbeWait % 65536).toNat ∧
        t.garp.wakeTs.collisionCheck = t.garp.collisionStats.ts + t.garp.probeWaitTime)
      (fun _ _ => True) s := by
  unfold arpCheck
  simp only [wp_bind, wp_modify, wp_ite]
  refine wp_all _ _ _ _ (fun r t => ?_) fun _ _ => trivial
  split
  · simp
  · refine wp_all _ _ _ _ (fun r t => ?_) fun _ _ => trivial
    split
    · simp
    · simp [emit]

theorem arpCollisionTimeout_probes (nowts : Int) :
    wp (arpCollisionTimeout env cfg nowts)
      (fun r t => r = .ok →
        t.garp.wakeTs.collisionCheck = t.garp.collisionStats.ts + t.garp.probeWaitTime ∧
        (s.garp.collisionStats.ts + s.garp.probeWaitTime ≤ nowts →
          t.garp.probeWaitTime = (arpGenProbeWait env cfg % 65536).toNat))
      (fun _ _ => True) s := by
  unfold arpCollisionTimeout
  simp only [wp_bind, wp_get, wp_ite]
  split
  · apply wp_mono _ _ _ _ _ _ (arpLeaseObtained_ends env cfg s) _ fun _ _ _ => trivial
    rintro r t ⟨hfree, -⟩ hok
    rw [hfree] at hok
    cases hok
  · split
    · next hlt =>
      rw [wp_modify, wp_pure]
      exact fun _ => ⟨rfl, fun hle => absurd hlt (Int.not_lt.mpr hle)⟩
    · refine wp_all _ _ _ _ (fun r t => ?_) fun _ _ => trivial
      split
      · simp
      · rw [wp_modify, wp_pure]
        exact fun _ => ⟨rfl, fun _ => rfl⟩

end

/-- A client that has sent a probe at 0 ms and is to send the next at once. -/
def probingNow : Sys := { exampleStart with cs.arpFd := 3 }

/-- `calmEnv` where `r` is drawn. -/
def drawing (r : UInt32) : Env := { calmEnv with random := fun _ => r }

section
variable (p : ProbeConfig)

theorem arpCheck_runs : ∃ t, arpCheck calmEnv (exampleConfig.withProbes p) .zero probingNow = .ok 0 t :=
  ⟨_, rfl⟩

/-- Any delay can be drawn. -/
theorem probe_runs (hnum : 0 < p.num) (r : UInt32) :
    ∃ t, arpCollisionTimeout (drawing r) (exampleConfig.withProbes p) 0 probingNow = .ok .ok t := by
  have hover : ¬ arpWaitOver (exampleConfig.withProbes p) 0 probingNow := by
    rintro (h | h)
    · exact absurd h (by decide)
    · exact absurd h (Int.not_le.mpr hnum)
  have hwp : wp (arpCollisionTimeout (drawing r) (exampleConfig.withProbes p) 0) (fun r _ => r = .ok)
      (fun _ _ => False) probingNow := by
    unfold arpCollisionTimeout
    rw [wp_bind, wp_get, wp_ite, if_neg hover, wp_ite, if_neg (by decide)]
    rfl
  obtain ⟨_, t, hrun, rfl⟩ := exists_of_wp _ _ _ hwp
  exact ⟨t, hrun⟩

theorem arpGenProbeWait_eq (r : UInt32) :
    arpGenProbeWait (drawing r) (exampleConfig.withProbes p) = p.min + r.toNat % p.range := rfl

theorem range_pos : 1000 ≤ p.range := by
  unfold ProbeConfig.range
  split <;> omega

theorem range_le (h : p.NoOverflow) : p.range < 2 ^ 31 := by
  obtain ⟨hle, -⟩ := h
  unfold ProbeConfig.range
  unfold INT_MAX at hle
  split <;> omega

/-- The delays that can be drawn are those of the range. -/
theorem forall_drawn (h : p.NoOverflow) (P : Int → Prop) :
    (∀ r : UInt32, P (p.min + r.toNat % p.range)) ↔ ∀ k, 0 ≤ k → k < p.range → P (p.min + k) := by
  have hlt := range_le p h
  have hpos := range_pos p
  constructor
  · intro hr k hk0 hk
    have hnat : (k.toNat.toUInt32.toNat : Int) = k := by
      rw [Nat.toUInt32_eq, UInt32.toNat_ofNat', Nat.mod_eq_of_lt (by omega), Int.toNat_of_nonneg hk0]
    have := hr k.toNat.toUInt32
    rwa [hnat, Int.emod_eq_of_lt hk0 hk] at this
  · intro hk r
    exact hk _ (Int.emod_nonneg _ (by omega)) (Int.emod_lt_of_pos _ (by omega))

theorem between_iff (lo hi : Int) :
    (∀ k, 0 ≤ k → k < p.range → lo ≤ (p.min + k) % 65536 ∧ (p.min + k) % 65536 ≤ hi) ↔ p.Between lo hi := by
  have hpos := range_pos p
  unfold ProbeConfig.Between
  constructor
  · intro h
    by_cases hwrap : p.min % 65536 + p.range ≤ 65536
    · have hfirst := h 0 (by omega) (by omega)
      have hlast := h (p.range - 1) (by omega) (by omega)
      refine .inr ⟨hwrap, ?_, ?_⟩ <;> omega
    · -- the largest number of sixteen bits is drawn, and the next delay is zero
      have htop := h (65535 - p.min % 65536) (by omega) (by omega)
      have hzero := h (65536 - p.min % 65536) (by omega) (by omega)
      refine .inl ⟨?_, ?_⟩ <;> omega
  · rintro (h | h) k hk0 hk
    · omega
    · omega

/-- The delays are kept exactly if nothing overflows, the first fits sixteen bits and all others
stay within the bounds when they are cut. -/
theorem delaysKept_iff (hnum : 0 < p.num) (lo hi : Int) :
    DelaysKept p lo hi ↔ p.NoOverflow ∧ p.wait < 65536 ∧ p.Between lo hi := by
  have hwait := p.wait_nonneg
  refine and_congr_right fun hno => ?_
  rw [← between_iff p lo hi, ← forall_drawn p hno fun v => lo ≤ v % 65536 ∧ v % 65536 ≤ hi]
  constructor
  · intro h
    refine ⟨?_, fun r => ?_⟩
    · obtain ⟨t, ht⟩ := arpCheck_runs p
      have hspec := (wp_ok_iff _ _ _ _ _ _ ht).mp (arpCheck_waits _ _ _ _) rfl
      have hkept := ((h _ _ _ _).1 _ ht).1
      rw [hspec.1] at hkept
      replace hkept : ((p.wait % 65536).toNat : Int) = p.wait := hkept
      omega
    · obtain ⟨t, ht⟩ := probe_runs p hnum r
      have hspec := (wp_ok_iff _ _ _ _ _ _ ht).mp (arpCollisionTimeout_probes _ _ _ _) rfl
      have hkept := ((h _ _ _ _).2 _ ht).2 (Int.le_refl 0)
      rw [hspec.2 (Int.le_refl 0), arpGenProbeWait_eq] at hkept
      omega
  · rintro ⟨hlt, hdrawn⟩ env cfg s t
    refine ⟨fun packet ht => ?_, fun nowts ht => ?_⟩
    · obtain ⟨hw, hts⟩ := (wp_ok_iff _ _ _ _ _ _ ht).mp (arpCheck_waits _ _ _ _) rfl
      have hw' : t.garp.probeWaitTime = (p.wait % 65536).toNat := hw
      omega
    · obtain ⟨hts, hgen⟩ := (wp_ok_iff _ _ _ _ _ _ ht).mp (arpCollisionTimeout_probes _ _ _ _) rfl
      refine ⟨by omega, fun hdue => ?_⟩
      have hv := hdrawn (env.random .probeWait)
      have hg : t.garp.probeWaitTime = ((p.min + (env.random .probeWait).toNat % p.range) % 65536).toNat := hgen hdue
      omega

end

/-! ## The settings -/

/-- None of the three options is refused, and none changes the number of probes. -/
theorem applyProbes_num (w : CfgWorld) (options : List (ProbeSetting × List UInt8)) :
    ∃ st, applyProbes w options = some st ∧ st.probes.num = 3 := by
  suffices ∀ st : Settings, st.probes.num = 3 → ∃ st',
      options.foldlM (fun st o => o.1.opt.action w o.2 .nothing st) st = some st' ∧ st'.probes.num = 3 from
    this .initial rfl
  induction options with
  | nil => exact fun st hst => ⟨st, rfl, hst⟩
  | cons o options ih =>
    intro st hst
    obtain ⟨st', hact, hnum⟩ : ∃ st', o.1.opt.action w o.2 .nothing st = some st' ∧ st'.probes.num = 3 := by
      cases o.1 with
      | wait =>
        refine ⟨_, rfl, ?_⟩
        simp only [ProbeConfig.set]
        split <;> exact hst
      | min =>
        refine ⟨_, rfl, ?_⟩
        simp only [ProbeConfig.set]
        split <;> exact hst
      | max =>
        refine ⟨_, rfl, ?_⟩
        simp only [ProbeConfig.set]
        split <;> exact hst
    rw [List.foldlM_cons, hact]
    exact ih st' hnum

/-- The bounds in force are kept if they allow any number of sixteen bits, or are not negative, leave
a range of a second and fit. -/
theorem between_self_iff (p : ProbeConfig) :
    p.Between p.min p.max ↔ (p.min ≤ 0 ∧ 65535 ≤ p.max) ∨
      (0 ≤ p.min ∧ p.min + p.range ≤ 65536 ∧ p.min + 999 ≤ p.max) := by
  have hle := p.ordered
  unfold ProbeConfig.Between ProbeConfig.range
  split <;> omega

/-- **Probe delays respect the configured range**, exactly if the wait and the delays drawn fit
sixteen bits and the bounds leave a range of a second.  Stated for the bounds in force, and for
those last given: the two differ when a bound was given while the other was on its wrong side. -/
theorem probe_delays_iff (w : CfgWorld) (options : List (ProbeSetting × List UInt8)) :
    ∃ st, applyProbes w options = some st ∧
      (DelaysKept st.probes st.probes.min st.probes.max ↔
        st.probes.NoOverflow ∧ st.probes.wait < 65536 ∧
          ((st.probes.min ≤ 0 ∧ 65535 ≤ st.probes.max) ∨
            (0 ≤ st.probes.min ∧ st.probes.min + st.probes.range ≤ 65536 ∧
              st.probes.min + 999 ≤ st.probes.max))) ∧
      (DelaysKept st.probes (lowGiven options) (highGiven options) ↔
        st.probes.NoOverflow ∧ st.probes.wait < 65536 ∧
          st.probes.Between (lowGiven options) (highGiven options)) := by
  obtain ⟨st, happly, hnum⟩ := applyProbes_num w options
  have hpos : 0 < st.probes.num := by omega
  refine ⟨st, happly, ?_, delaysKept_iff st.probes hpos _ _⟩
  rw [delaysKept_iff st.probes hpos, between_self_iff]

/-- With `arp-probe-max = 1500` and `arp-probe-min` left at 1000, 1999 may be drawn. -/
theorem narrow_range_exceeded :
    ∃ st t, applyProbes bareHost [(.max, Bytes.ascii "1500")] = some st ∧
      st.probes.min = 1000 ∧ st.probes.max = 1500 ∧
      arpCollisionTimeout (drawing 999) (exampleConfig.withProbes st.probes) 0 probingNow = .ok .ok t ∧
      t.garp.probeWaitTime = 1999 := by
  obtain ⟨st, happly, hmin, hmax, hnum⟩ : ∃ st, applyProbes bareHost [(.max, Bytes.ascii "1500")] = some st ∧
      st.probes.min = 1000 ∧ st.probes.max = 1500 ∧ st.probes.num = 3 :=
    ⟨_, rfl, by decide, by decide, by decide⟩
  obtain ⟨t, ht⟩ := probe_runs st.probes (by omega) 999
  have hspec := (wp_ok_iff _ _ _ _ _ _ ht).mp (arpCollisionTimeout_probes _ _ _ _) rfl
  refine ⟨st, t, happly, hmin, hmax, ht, ?_⟩
  rw [hspec.2 (Int.le_refl 0), arpGenProbeWait_eq, ProbeConfig.range, hmin, hmax]
  decide

end Ndhc
