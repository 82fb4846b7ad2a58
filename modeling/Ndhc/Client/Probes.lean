import Ndhc.Client.Declines
import Ndhc.Client.Descriptors

/-!
# How many probes precede a bind

`arp_collision_timeout` takes an address as free once `arp_probe_num` probes were sent, and also
once two seconds have passed since the first of them.  The count it compares is that of the probes
sent since the ACK was accepted (`enough_iff_counted`), so an address is bound on too few probes
exactly where the time decides; whatever the options are, it can, unless one probe is enough
(`enough_probes_iff`).
-/

namespace Ndhc

open Prog

/-! ## The options -/

/-- `arp_probe_wait`, `arp_probe_num`, `arp_probe_min` and `arp_probe_max`. -/
structure ProbeConfig where
  wait : Int
  num : Int
  min : Int
  max : Int
  wait_nonneg : 0 ≤ wait
  num_nonneg : 0 ≤ num
  ordered : min ≤ max

theorem initial_wait_nonneg : (0 : Int) ≤ 1000 := by decide

theorem initial_num_nonneg : (0 : Int) ≤ 3 := by decide

theorem initial_ordered : (1000 : Int) ≤ 2000 := by decide

/-- The values they have without an option. -/
def ProbeConfig.initial : ProbeConfig :=
  ⟨1000, 3, 1000, 2000, initial_wait_nonneg, initial_num_nonneg, initial_ordered⟩

/-- An option, with what `atoi` makes of its value. -/
inductive ProbeOption where
  | wait (t : Int)
  | num (t : Int)
  | min (t : Int)
  | max (t : Int)
  deriving DecidableEq, Repr

/-- The actions of the configuration parser: a negative wait or number is ignored, and bounds in
the wrong order are exchanged. -/
def ProbeConfig.set (c : ProbeConfig) : ProbeOption → ProbeConfig
  | .wait t => if h : 0 ≤ t then { c with wait := t, wait_nonneg := h } else c
  | .num t => if h : 0 ≤ t then { c with num := t, num_nonneg := h } else c
  | .min t =>
    if h : c.max < t then { c with min := c.max, max := t, ordered := Int.le_of_lt h }
    else { c with min := t, ordered := Int.not_lt.mp h }
  | .max t =>
    if h : t < c.min then { c with min := t, max := c.min, ordered := Int.le_of_lt h }
    else { c with max := t, ordered := Int.not_lt.mp h }

def parseProbes (opts : List ProbeOption) : ProbeConfig := opts.foldl ProbeConfig.set .initial

/-- The configuration with the options given. -/
def ClientConfig.withProbes (cfg : ClientConfig) (p : ProbeConfig) : ClientConfig :=
  { cfg with arpProbeWait := p.wait, arpProbeNum := p.num, arpProbeMin := p.min, arpProbeMax := p.max }

/-! ## Statement -/

section
variable (cfg : ClientConfig)

/-- How many probes for `a` the steps send. -/
def probesSent (a : UInt32) : List Step → Sys → Nat
  | [], _ => 0
  | st :: steps, s => (st.next cfg s).out.count (.arp 0 a) + probesSent a steps (st.next cfg s)

/-- Since the last ACK was accepted, `arp_probe_num` probes for `a` were sent. -/
def EnoughProbes (a : UInt32) (steps : List Step) (s : Sys) : Prop :=
  ∃ pre env inp rest, steps = pre ++ .handle env inp :: rest ∧
    (Step.handle env inp).TakesAck (run cfg pre s) ∧
    Along cfg (fun _ t => t.pc = .probing) rest ((Step.handle env inp).next cfg (run cfg pre s)) ∧
    cfg.arpProbeNum ≤ probesSent cfg a (.handle env inp :: rest) (run cfg pre s)

/-- The ARP timeout of a call is that of `arp_get_wake_ts`. -/
def Step.ArpOnTime : Step → Sys → Prop
  | .handle _ inp, s => inp.arpTimeout = decide (arpGetWakeTs s.garp ≤ inp.nowts)
  | _, _ => True

/-- The steps are those of `do_ndhc_work` from `now` on. -/
def OnTime (steps : List Step) (now : Int) (s : Sys) : Prop :=
  Timely cfg steps now s ∧ Along cfg Step.ArpOnTime steps s

theorem OnTime.call (env : Env) (inp : Input) (steps : List Step) (now : Int) (s : Sys) (hnow : now ≤ inp.nowts)
    (hclock : ∀ site, inp.nowts ≤ env.curms site) (hdhcp : inp.dhcpTimeout = decide (s.cs.dhcpWakeTs ≤ inp.nowts))
    (harp : inp.arpTimeout = decide (arpGetWakeTs s.garp ≤ inp.nowts))
    (h : OnTime cfg steps inp.nowts ((Step.handle env inp).next cfg s)) : OnTime cfg (.handle env inp :: steps) now s :=
  ⟨⟨hnow, hclock, hdhcp, h.1⟩, harp, h.2⟩

end

/-! ## Before the ACK no probe is counted -/

@[reducible] def probeCount (s : Sys) : Int := s.garp.collisionStats.count

section
variable {α : Type} (env : Env) (site : Site)

instance : Keeps probeCount 0 (suicide : M α) := ⟨fun _ h => h⟩

instance (o : Option α) : Keeps probeCount 0 (ask o) := by
  cases o with
  | none =>
    unfold ask
    infer_instance
  | some a =>
    unfold ask
    infer_instance

instance (e : Effect) : Keeps probeCount 0 (emit e) := ⟨fun _ h => h⟩

instance (l : Label) : Keeps probeCount 0 (goto l : M α) := ⟨fun _ h => h⟩

instance (code : Int) (pc : Pc) : Keeps probeCount 0 (scrReturn code pc : M α) := ⟨fun _ h => h⟩

instance (m : Sent) : Keeps probeCount 0 (sendDhcp env site m) := by
  unfold sendDhcp
  infer_instance

instance : Keeps probeCount 0 (startDhcpListen env site) := by
  unfold startDhcpListen
  infer_instance

instance : Keeps probeCount 0 reinitSharedDeconfig where
  ends s _ := wp_mono _ _ s _ _ _ (reinitSharedDeconfig_anew s) (fun _ _ h => h.2.2.1) (fun _ _ h => h.elim)

instance (timeout : Int) : Keeps probeCount 0 (reinitSelecting env timeout) := by
  unfold reinitSelecting
  infer_instance

instance : Keeps probeCount 0 printRelease := by
  unfold printRelease stopDhcpListen
  infer_instance

instance (packet : DhcpMsg) (srcaddr : UInt32) : Keeps probeCount 0 (selectingOffer env packet srcaddr) := by
  unfold selectingOffer
  split <;> infer_instance

instance (packet : DhcpMsg) (srcaddr : UInt32) : Keeps probeCount 0 (selectingAck env packet srcaddr) := by
  unfold selectingAck noteServer getLeasetime withLease
  split <;> infer_instance

end

section
variable (env : Env) (cfg : ClientConfig) (inp : Input)

instance : Keeps probeCount 0 (onRelease inp) := by
  unfold onRelease
  infer_instance

instance : Keeps probeCount 0 (selectingDhcp env inp) := by
  unfold selectingDhcp selectingPacket
  infer_instance

instance : Keeps probeCount 0 (selectingTimer env cfg inp) := by
  unfold selectingTimer selectingTimeout onNoLease freshXid sendDiscover awaitReply
  infer_instance

instance : Keeps probeCount 0 (selectingPass env cfg inp) := by
  unfold selectingPass
  infer_instance

instance : Keeps probeCount 0 (reinitPass env cfg inp) := by
  unfold reinitPass
  infer_instance

instance (pc : Pc) : Keeps probeCount 0 (requestTimer env inp pc) := by
  unfold requestTimer requestingTimeout sendSelecting awaitReply
  infer_instance

/-- A request that no packet comes in with. -/
theorem requestingPass_keeps (h : inp.sevDhcp = false) : Keeps probeCount 0 (requestingPass env cfg inp) := by
  unfold requestingPass requestingDhcp
  rw [h]
  exact inferInstanceAs (Keeps probeCount 0 (do
    onRelease inp
    pure ()
    requestTimer env inp .requesting))

end

/-- No probe is counted before an ACK. -/
def Unprobed (s : Sys) : Prop := s.pc = .init ∨ s.pc = .selecting ∨ s.pc = .requesting → probeCount s = 0

/-- How a pass ends: a jump back to SELECTING or on to REQUESTING finds no probe counted. -/
def UnprobedEnds : Stop → Sys → Prop
  | .goto l, t => l = .released ∨ probeCount t = 0
  | _, t => Unprobed t

theorem Unprobed.of_pc (t : Sys) (pc : Pc) (ht : t.pc = pc) (hpc : pc ≠ .init ∧ pc ≠ .selecting ∧ pc ≠ .requesting) :
    Unprobed t := by
  subst ht
  rintro (h | h | h)
  · exact absurd h hpc.1
  · exact absurd h hpc.2.1
  · exact absurd h hpc.2.2

theorem UnprobedEnds.of_zero (e : Stop) (t : Sys) (h : probeCount t = 0) : UnprobedEnds e t := by
  cases e with
  | ret code => exact fun _ => h
  | goto l => exact Or.inr h
  | exit => exact fun _ => h

theorem unprobedEnds_of_keeps (m : M Unit) [Keeps probeCount 0 m] (s : Sys) (hs : probeCount s = 0) :
    wp m (fun _ _ => True) UnprobedEnds s :=
  wp_mono _ _ s _ _ _ (Keeps.ends probeCount 0 m s hs) (fun _ _ _ => trivial) UnprobedEnds.of_zero

instance (env : Env) : ExitsWith env fun l t => l = .reinit → probeCount t = 0 where
  reinit timeout s := wp_mono _ _ s _ _ _ (reinitSelecting_anew env timeout s) (fun _ _ h _ => h.probes)
    (fun _ _ _ => trivial)
  released s := by
    apply wp_all _ _ s _ _ (fun _ _ => trivial)
    intro _ t h
    cases h

section
variable (env : Env) (cfg : ClientConfig) (inp : Input)

theorem TimerDone.probeCount (s t : Sys) (h : TimerDone env inp s t) : probeCount t = probeCount s := by
  rcases h with ⟨-, -, -, h⟩ | ⟨-, -, h⟩
  · exact congrArg Quest.probes h
  · exact congrArg Quest.probes h

theorem unprobedEnds_of_quest (s : Sys) (hs : s.pc = .requesting → probeCount s = 0) (e : Stop) (t : Sys)
    (h : (∃ code, e = .ret code ∧ Goes env cfg inp s t) ∨ QuestEnds inp s e t) : UnprobedEnds e t := by
  rcases h with ⟨code, rfl, hgoes⟩ | ⟨-, hends⟩
  · cases hgoes with
    | waits hpc _ h => exact fun _ => (h.probeCount env inp s t).trans (hs hpc)
    | acks _ h => exact .of_pc t .probing h.pc (by decide)
    | conflicts _ ht => exact .of_pc t .probing ht (by decide)
    | probes _ ht => exact .of_pc t .probing ht (by decide)
  · match e, hends with
    | .ret code, ht => exact .of_pc t .bound ht (by decide)
    | .goto _, Or.inl h => exact Or.inr h.2
    | .goto _, Or.inr h => exact Or.inl h.1
    | .exit, ht => exact .of_pc t .dead ht (by decide)

theorem releasedPass_unprobed (s : Sys) : wp (releasedPass env inp) (fun _ _ => True) UnprobedEnds s := by
  unfold releasedPass frenew
  rw [wp_ite]
  split
  · rw [wp_bind]
    show wp (reinitSelecting env 0 >>= fun _ => pure 0) _ _ s
    rw [wp_bind]
    apply wp_mono _ _ s _ _ _ (reinitSelecting_anew env 0 s)
    · exact fun _ _ h => Or.inr h.probes
    · rintro e t ⟨rfl, ht, -⟩
      exact .of_pc t .dead ht (by decide)
  · exact .of_pc _ .released rfl (by decide)

theorem target_unprobed (l : Label) (s : Sys) (hs : UnprobedEnds (.goto l) s) :
    wp (target env cfg inp l) (fun _ _ => True) UnprobedEnds s := by
  cases l with
  | reinit =>
    exact unprobedEnds_of_keeps (reinitPass env cfg { inp with sevDhcp := false }) s (hs.resolve_left nofun)
  | requesting =>
    have := requestingPass_keeps env cfg { inp with sevDhcp := false } rfl
    exact unprobedEnds_of_keeps (requestingPass env cfg { inp with sevDhcp := false }) s (hs.resolve_left nofun)
  | released => exact releasedPass_unprobed env _ s

theorem resume_unprobed (s : Sys) (hs : Unprobed s) :
    wp (resume env cfg inp s.pc) (fun _ _ => True) UnprobedEnds { s with out := [] } := by
  have hbound := boundPass_ends env cfg inp s { s with out := [] } rfl rfl
  have hpc : ({ s with out := [] } : Sys).pc = s.pc := rfl
  unfold Unprobed at hs
  have hcount : probeCount ({ s with out := [] } : Sys) = probeCount s := rfl
  generalize ({ s with out := [] } : Sys) = u at *
  rw [← hcount] at hs
  generalize s.pc = pc at *
  cases pc with
  | init => exact unprobedEnds_of_keeps (reinitPass env cfg inp) u (hs (Or.inl rfl))
  | selecting => exact unprobedEnds_of_keeps (selectingPass env cfg inp) u (hs (Or.inr (Or.inl rfl)))
  | requesting =>
    exact wp_mono _ _ u _ _ _ (requestingPass_quest env cfg inp u hpc) (fun _ _ _ => trivial)
      (unprobedEnds_of_quest env cfg inp u fun _ => hs (Or.inr (Or.inr rfl)))
  | probing =>
    exact wp_mono _ _ u _ _ _ (probingPass_quest env cfg inp u hpc) (fun _ _ _ => trivial)
      (unprobedEnds_of_quest env cfg inp u fun h => nomatch hpc.symm.trans h)
  | bound =>
    have hjump := Upholds.ends (P := fun _ => True) (E := JumpsWith fun l t => l = .reinit → probeCount t = 0)
      (m := boundPass env cfg inp) u trivial
    apply wp_mono _ _ u _ _ _ (wp_and _ _ u _ _ _ hbound hjump) (fun _ _ _ => trivial)
    rintro e t ⟨hends, hj⟩
    match e, hends with
    | .ret code, ⟨_, _, Or.inl ht⟩ => exact .of_pc t .bound ht (by decide)
    | .ret code, ⟨_, _, Or.inr ht⟩ => exact .of_pc t .newlease ht.1 (by decide)
    | .goto .reinit, _ => exact Or.inr (hj .reinit rfl rfl)
    | .goto .released, _ => exact Or.inl rfl
    | .exit, h => exact .of_pc t .dead h.2 (by decide)
  | newlease =>
    apply wp_restart_anew
    · exact fun t h => Or.inr h.probes
    · exact fun t ht _ => .of_pc t .dead ht (by decide)
  | released => exact releasedPass_unprobed env inp u
  | dead => exact .of_pc _ .dead rfl (by decide)

theorem dhcpHandle_unprobed (s : Sys) (hs : Unprobed s) : Unprobed (final (dhcpHandle env cfg inp) s) := by
  have hends : wp (dhcpHandle env cfg inp) (fun _ _ => True) UnprobedEnds s := by
    rw [wp_dhcpHandle env cfg inp _ _ s s.pc rfl]
    exact wp_follow_ends env cfg inp _ _ (target_unprobed env cfg inp) 2 _ _ (resume_unprobed env cfg inp s hs)
  apply final_of_wp (dhcpHandle env cfg inp) s Unprobed
  apply wp_mono _ _ s _ _ _ (wp_and _ _ s _ _ _ hends (dhcpHandle_settles env cfg inp s)) (fun _ _ h => h.2.elim)
  rintro e t ⟨h, hjump⟩
  cases e with
  | ret code => exact h
  | goto l => exact absurd rfl (hjump l)
  | exit => exact h

end

section
variable (cfg : ClientConfig)

theorem Step.unprobed (st : Step) (s : Sys) (hs : Unprobed s) : Unprobed (st.next cfg s) := by
  rcases st.read_or_call with hread | ⟨env, inp, rfl⟩
  · obtain ⟨hquest, -, hpc | hpc⟩ := st.quest_of_read cfg s hread
    · rw [Unprobed, hpc, show probeCount (st.next cfg s) = probeCount s from congrArg Quest.probes hquest]
      exact hs
    · exact .of_pc _ .dead hpc (by decide)
  · exact dhcpHandle_unprobed env cfg inp s hs

theorem unprobed_run (b : Startup) (steps : List Step) : Unprobed (run cfg steps (.start b)) := by
  induction steps using List.reverseRecOn with
  | nil => exact fun _ => rfl
  | append_singleton steps st ih =>
    rw [run_append]
    exact st.unprobed cfg _ ih

/-! ## The count of the probes -/

/-- A request is no probe. -/
theorem TimerDone.count_arp (env : Env) (inp : Input) (a : UInt32) (s t : Sys) (h : TimerDone env inp s t) :
    t.out.count (.arp 0 a) = s.out.count (.arp 0 a) := by
  rcases h with ⟨-, -, hout, -⟩ | ⟨-, hout, -⟩
  · rw [hout, List.count_append]
    simp
  · rw [hout]

/-- The ARP timer counts the probe it sends. -/
theorem ProbeDone.counts (s t : Sys) (h : ProbeDone s t) (hs : s.out = []) :
    probeCount t = probeCount s + t.out.count (.arp 0 (probed s)) := by
  rcases h with ⟨hout, h⟩ | ⟨hout, h⟩
  · rw [show probeCount t = probeCount s from congrArg Quest.probes h, hout, hs]
    simp
  · rw [show probeCount t = probeCount s + 1 from congrArg Quest.probes h, hout, hs]
    simp

theorem probed_of_terms (s t : Sys) (h : (quest t).terms = (quest s).terms) : probed t = probed s :=
  congrArg (fun q => q.1.yiaddr) h

/-- A step of the phase counts the probes it sends. -/
theorem Step.counts (st : Step) (s : Sys) (hs : s.pc = .probing) (ht : (st.next cfg s).pc = .probing) :
    probed (st.next cfg s) = probed s ∧
      probeCount (st.next cfg s) = probeCount s + (st.next cfg s).out.count (.arp 0 (probed s)) := by
  cases st.onward cfg s (Or.inr ht) with
  | reads _ _ _ hquest hout =>
    refine ⟨probed_of_terms s _ (by rw [hquest]), ?_⟩
    rw [show probeCount (st.next cfg s) = probeCount s from congrArg Quest.probes hquest, hout]
    simp
  | offers env inp h => cases h.pc.symm.trans ht
  | goes env inp _ h =>
    generalize (Step.handle env inp).next cfg s = t at *
    cases h with
    | waits _ ht' _ => cases ht'.symm.trans ht
    | acks hs' _ => cases hs.symm.trans hs'
    | conflicts _ _ _ hquest hout =>
      refine ⟨probed_of_terms s _ (by rw [hquest]), ?_⟩
      rw [show probeCount t = probeCount s from congrArg Quest.probes hquest, hout]
      simp
    | probes _ _ _ u hprobe h =>
      have hcount := hprobe.counts { s with out := [] } u rfl
      have hterms := hprobe.terms { s with out := [] } u
      have hlater : (quest t).terms = (quest u).terms ∧ probeCount t = probeCount u ∧
          t.out.count (.arp 0 (probed s)) = u.out.count (.arp 0 (probed s)) := by
        rcases h with h | ⟨hout, h⟩
        · exact ⟨h.terms env inp u t, h.probeCount env inp u t, h.count_arp env inp _ u t⟩
        · exact ⟨by rw [h], congrArg Quest.probes h, by rw [hout]⟩
      refine ⟨probed_of_terms s t (hlater.1.trans hterms), ?_⟩
      rw [hlater.2.1, hlater.2.2]
      exact hcount

theorem probing_of_along (steps : List Step) (s : Sys) (h : Along cfg (fun _ t => t.pc = .probing) steps s)
    (hend : (run cfg steps s).pc = .probing) : s.pc = .probing := by
  cases steps with
  | nil => exact hend
  | cons st steps => exact h.1

/-- Over a stretch of the phase the count grows by the probes sent. -/
theorem counts_run (steps : List Step) (s : Sys) (h : Along cfg (fun _ t => t.pc = .probing) steps s)
    (hend : (run cfg steps s).pc = .probing) :
    probed (run cfg steps s) = probed s ∧
      probeCount (run cfg steps s) = probeCount s + probesSent cfg (probed s) steps s := by
  induction steps generalizing s with
  | nil => exact ⟨rfl, (Int.add_zero _).symm⟩
  | cons st steps ih =>
    have hnext := probing_of_along cfg steps _ h.2 hend
    obtain ⟨hprobed, hcount⟩ := st.counts cfg s h.1 hnext
    obtain ⟨hprobed', hcount'⟩ := ih _ h.2 hend
    refine ⟨hprobed'.trans hprobed, ?_⟩
    show probeCount (run cfg steps (st.next cfg s)) = _
    rw [hcount', hcount, hprobed, probesSent]
    omega

/-- The call that accepts an ACK sends the first probe. -/
theorem ack_counts (env : Env) (inp : Input) (s : Sys) (hs : Unprobed s) (htakes : (Step.handle env inp).TakesAck s)
    (hnext : ((Step.handle env inp).next cfg s).pc = .probing) :
    probeCount ((Step.handle env inp).next cfg s) = 1 ∧
      ((Step.handle env inp).next cfg s).out.count (.arp 0 (probed ((Step.handle env inp).next cfg s))) = 1 := by
  have hzero : probeCount s = 0 := hs (Or.inr (Or.inr htakes.1))
  cases (Step.handle env inp).onward cfg s (Or.inr hnext) with
  | reads _ hread => exact absurd rfl (hread env inp)
  | offers _ _ h => cases h.pc.symm.trans hnext
  | goes _ _ _ h =>
    generalize (Step.handle env inp).next cfg s = t at *
    cases h with
    | waits _ ht _ => cases ht.symm.trans hnext
    | acks _ h =>
      obtain ⟨sid, -, hquest⟩ := h.quest
      have hprobed : probed t = inp.dhcpPacket.yiaddr := congrArg (fun q => q.dhcpPacket.yiaddr) hquest
      constructor
      · rw [show probeCount t = probeCount s + 1 from congrArg Quest.probes hquest, hzero]
        rfl
      · rw [hprobed, h.out]
        simp
    | conflicts hs' => cases htakes.1.symm.trans hs'
    | probes hs' => cases htakes.1.symm.trans hs'

/-- **The count is that of the probes sent since the ACK.** -/
theorem probes_counted (b : Startup) (pre : List Step) (env : Env) (inp : Input) (rest : List Step)
    (htakes : (Step.handle env inp).TakesAck (run cfg pre (.start b)))
    (halong : Along cfg (fun _ t => t.pc = .probing) rest ((Step.handle env inp).next cfg (run cfg pre (.start b))))
    (hpc : (run cfg (pre ++ .handle env inp :: rest) (.start b)).pc = .probing) :
    1 ≤ probeCount (run cfg (pre ++ .handle env inp :: rest) (.start b)) ∧
      probeCount (run cfg (pre ++ .handle env inp :: rest) (.start b)) =
        probesSent cfg (probed (run cfg (pre ++ .handle env inp :: rest) (.start b))) (.handle env inp :: rest)
          (run cfg pre (.start b)) := by
  rw [run_append] at hpc ⊢
  have hs := unprobed_run cfg b pre
  generalize run cfg pre (.start b) = s at *
  obtain ⟨hone, hsent⟩ := ack_counts cfg env inp s hs htakes (probing_of_along cfg rest _ halong hpc)
  obtain ⟨hprobed, hcount⟩ := counts_run cfg rest _ halong hpc
  rw [show run cfg (.handle env inp :: rest) s = run cfg rest ((Step.handle env inp).next cfg s) from rfl, hprobed,
    hcount, hone, probesSent, hsent]
  omega

theorem one_le_probeCount (b : Startup) (steps : List Step) (hpc : (run cfg steps (.start b)).pc = .probing) :
    1 ≤ probeCount (run cfg steps (.start b)) := by
  obtain ⟨ack, ⟨pre, env, inp, rest, rfl, -, htakes, halong⟩, -⟩ := knows_run cfg (.start b) nofun steps hpc
  exact (probes_counted cfg b pre env inp rest htakes halong hpc).1

theorem enough_iff_counted (b : Startup) (steps : List Step) (hpc : (run cfg steps (.start b)).pc = .probing) :
    EnoughProbes cfg (probed (run cfg steps (.start b))) steps (.start b) ↔
      cfg.arpProbeNum ≤ probeCount (run cfg steps (.start b)) := by
  constructor
  · rintro ⟨pre, env, inp, rest, rfl, htakes, halong, hnum⟩
    rw [(probes_counted cfg b pre env inp rest htakes halong hpc).2]
    exact hnum
  · intro hnum
    obtain ⟨ack, ⟨pre, env, inp, rest, rfl, -, htakes, halong⟩, -⟩ := knows_run cfg (.start b) nofun steps hpc
    refine ⟨pre, env, inp, rest, rfl, htakes, halong, ?_⟩
    rw [← (probes_counted cfg b pre env inp rest htakes halong hpc).2]
    exact hnum

/-- What is bound is the address probed. -/
theorem Step.probed_of_bind (st : Step) (a : UInt32) (s : Sys) (h : Effect.bind a ∈ (st.next cfg s).out) :
    s.pc = .probing ∧ probed s = a := by
  have hpc : s.pc = .probing := not_not.mp fun hpc => st.unbound cfg a s hpc h
  exact ⟨hpc, st.bind_of_mem cfg a s hpc h⟩

end

/-! ## A run in which time decides

With sockets handed out and sends that succeed an offer and its ACK lead to probing, whatever the
configuration; a call made late enough then takes the address as free. -/

section
variable (cfg : ClientConfig) (inp : Input)

theorem requestTimer_calm (pc : Pc) (s : Sys) (hnum : s.cs.numDhcpRequests = 0) :
    wp (requestTimer calmEnv inp pc) (fun _ _ => False) (fun e t => (∃ code, e = .ret code) ∧ t.pc = pc) s := by
  unfold requestTimer requestingTimeout
  rw [wp_ite]
  split
  · rw [wp_bind, wp_bind, wp_get, wp_ite, if_neg (by omega)]
    exact ⟨⟨COR_SUCCESS, rfl⟩, rfl⟩
  · exact ⟨⟨COR_SUCCESS, rfl⟩, rfl⟩

theorem arpOpenFd_calm (site : Site) (defense : Bool) (s : Sys) :
    wp (arpOpenFd calmEnv site defense) (fun r t => r = 0 ∧ 0 ≤ t.cs.arpFd) (fun _ _ => False) s := by
  have hfd : (0 : Int) ≤ 3 := by decide
  unfold arpOpenFd
  rw [wp_bind, wp_get, wp_ite]
  split
  · next h => exact ⟨rfl, h.1⟩
  · unfold arpMinCloseFd
    rw [wp_bind, wp_bind, wp_get, wp_ite]
    split
    · exact ⟨rfl, hfd⟩
    · exact ⟨rfl, hfd⟩

theorem arpCheck_calm (packet : DhcpMsg) (s : Sys) :
    wp (arpCheck calmEnv cfg packet) (fun r _ => r = 0) (fun _ _ => False) s := by
  unfold arpCheck
  rw [wp_bind, wp_modify, wp_bind]
  apply wp_mono _ _ _ _ _ _ (arpOpenFd_calm _ _ _) _ (fun _ _ h => h)
  rintro _ t ⟨rfl, hfd⟩
  rw [wp_ite, if_neg (by decide)]
  unfold arpIpAnonPing arpSend
  rw [wp_bind, wp_bind, wp_bind, wp_get, wp_ite, if_neg (not_lt.mpr hfd)]
  rfl

theorem selectingPacket_calm (s : Sys) (h : TakesAck inp s) :
    wp (selectingPacket calmEnv inp.dhcpPacket inp.dhcpMsgtype inp.dhcpSrcaddr true) (fun r _ => r = .checkIp)
      (fun _ _ => False) s := by
  obtain ⟨-, -, htype, haddr, hsid⟩ := h
  obtain ⟨sid, hsid⟩ := Option.ne_none_iff_exists'.mp hsid
  unfold selectingPacket selectingAck noteServer
  rw [wp_bind, wp_get, wp_ite, if_neg (by simp), wp_ite, if_pos ⟨rfl, htype, haddr⟩, hsid]
  simp only
  rw [wp_bind, wp_bind, wp_get, wp_ite]
  split
  · rfl
  · rfl

theorem requestingDhcp_calm (s : Sys) (h : TakesAck inp s) :
    wp (requestingDhcp calmEnv cfg inp) (fun _ _ => False)
      (fun e t => (∃ code, e = .ret code) ∧ t.pc = .probing) s := by
  unfold requestingDhcp
  rw [wp_ite, if_pos h.2.1, wp_bind]
  apply wp_mono _ _ _ _ _ _ (selectingPacket_calm inp s h) _ (fun _ _ h => h.elim)
  rintro _ t rfl
  rw [wp_ite, if_neg (by decide), wp_ite, if_pos rfl, wp_bind]
  apply wp_mono _ _ _ _ _ _ (arpCheck_calm cfg inp.dhcpPacket t) _ (fun _ _ h => h.elim)
  rintro _ u rfl
  exact ⟨⟨COR_SUCCESS, rfl⟩, rfl⟩

theorem offer_calm (s : Sys) (h : TakesOffer inp s) :
    ((Step.handle calmEnv inp).next cfg s).pc = .requesting ∧
      ((Step.handle calmEnv inp).next cfg s).cs.clientAddr = inp.dhcpPacket.yiaddr := by
  have hrequests : ((Step.handle calmEnv inp).next cfg s).pc = .requesting := by
    apply final_of_wp (dhcpHandle calmEnv cfg inp) s fun t => t.pc = .requesting
    obtain ⟨hpc, hsig, hdhcp, htype, hsid⟩ := h
    have hpass : ∀ u, wp (follow calmEnv cfg inp 2 (selectingPass calmEnv cfg inp)) (fun _ t => t.pc = .requesting)
        (fun _ t => t.pc = .requesting) u := by
      intro u
      rw [wp_follow]
      apply wp_mono _ _ u _ _ _ (selectingPass_offered calmEnv cfg inp u hsig hdhcp htype hsid) (fun _ _ h => h.elim)
      rintro _ t ⟨rfl, -, hnum, -⟩
      show wp (follow calmEnv cfg inp 1 (requestingPass calmEnv cfg { inp with sevDhcp := false })) _ _ t
      rw [wp_follow]
      unfold requestingPass
      rw [wp_bind_idle _ _ _ _ _ (onRelease_of_not { inp with sevDhcp := false } t hsig)]
      show wp (requestTimer calmEnv { inp with sevDhcp := false } .requesting) _ _ t
      apply wp_mono _ _ t _ _ _ (requestTimer_calm _ .requesting t hnum) (fun _ _ h => h.elim)
      rintro _ u ⟨⟨code, rfl⟩, hu⟩
      exact hu
    rcases hpc with hpc | hpc
    · rw [wp_dhcpHandle calmEnv cfg inp _ _ s .init hpc, wp_follow]
      show wp (selectingPass calmEnv cfg inp) _ _ { s with out := [], cs.xid := calmEnv.random .reinit }
      rw [← wp_follow]
      exact hpass _
    · rw [wp_dhcpHandle calmEnv cfg inp _ _ s .selecting hpc]
      exact hpass _
  refine ⟨hrequests, ?_⟩
  rcases offer_handle calmEnv cfg inp s h with hwaits | hpast
  · exact hwaits.clientAddr
  · exact absurd (Or.inl hrequests) (not_inQuest _ (Or.inr hpast))

theorem ack_calm (s : Sys) (h : (Step.handle calmEnv inp).TakesAck s) :
    ((Step.handle calmEnv inp).next cfg s).pc = .probing := by
  apply final_of_wp (dhcpHandle calmEnv cfg inp) s fun t => t.pc = .probing
  rw [wp_dhcpHandle calmEnv cfg inp _ _ s .requesting h.1, wp_follow]
  show wp (requestingPass calmEnv cfg inp) _ _ _
  unfold requestingPass
  rw [wp_bind_idle _ _ _ _ _ (onRelease_of_not inp _ h.2.1)]
  rw [wp_bind]
  apply wp_mono _ _ _ _ _ _ (requestingDhcp_calm cfg inp { s with out := [] } h.2) (fun _ _ h => h.elim)
  rintro _ t ⟨⟨code, rfl⟩, ht⟩
  exact ht

/-- A call at zero that is handed a packet. -/
def packetInput (s : Sys) (packet : DhcpMsg) (msgtype : UInt8) : Input :=
  callInput s packet 0 false ⟨some (msgtype, 0xc0a80101), false, .none, .none, .none⟩

def packetCall (s : Sys) (packet : DhcpMsg) (msgtype : UInt8) : Step := .handle calmEnv (packetInput s packet msgtype)

/-- A call without an event, when the ARP timer is due and two seconds have passed. -/
def lateTime (s : Sys) : Int := max 0 (max (arpGetWakeTs s.garp) (s.garp.arpCheckStartTs + ANNOUNCE_WAIT))

def lateCall (s : Sys) : Step := .handle (envAt (lateTime s)) (callInput s .zero (lateTime s) false .empty)

theorem lateCall_binds (s : Sys) (hpc : s.pc = .probing) : Effect.bind (probed s) ∈ ((lateCall s).next cfg s).out := by
  rw [mem_out_iff _ _ rfl]
  have hwake : arpGetWakeTs s.garp ≤ lateTime s := le_max_of_le_right (le_max_left _ _)
  have hwait : s.garp.arpCheckStartTs + ANNOUNCE_WAIT ≤ lateTime s := le_max_of_le_right (le_max_right _ _)
  rcases probing_handle cfg (envAt (lateTime s)) (callInput s .zero (lateTime s) false .empty) s hpc with
    ⟨hrec, -⟩ | ⟨-, -, h⟩ | ⟨-, hover, -⟩
  · exact nomatch hrec.2.1
  · rw [show core ((lateCall s).next cfg s) = core (final _ s) from rfl, h.1]
    exact List.mem_singleton_self _
  · exact absurd ⟨nofun, decide_eq_true hwake, Or.inl hwait⟩ hover

/-- An offer, its ACK and the late call: the address is bound on one probe. -/
theorem late_run (b : Startup) : ∃ steps last a, OnTime cfg (steps ++ [last]) 0 (.start b) ∧
    Effect.bind a ∈ (last.next cfg (run cfg steps (.start b))).out ∧ probeCount (run cfg steps (.start b)) = 1 := by
  obtain ⟨s, hs⟩ : ∃ s, s = Sys.start b := ⟨_, rfl⟩
  obtain ⟨t, ht⟩ : ∃ t, t = (packetCall s exampleOffer DHCPOFFER).next cfg s := ⟨_, rfl⟩
  obtain ⟨u, hu⟩ : ∃ u, u = (packetCall t exampleAck DHCPACK).next cfg t := ⟨_, rfl⟩
  have hserver : getOptionServerid exampleOffer ≠ none := by decide +kernel
  have hserver' : getOptionServerid exampleAck ≠ none := by decide +kernel
  have hsame : exampleAck.yiaddr = exampleOffer.yiaddr := by decide +kernel
  obtain ⟨hrequesting, haddr⟩ := offer_calm cfg (packetInput s exampleOffer DHCPOFFER) s
    ⟨Or.inl (hs ▸ rfl), nofun, rfl, rfl, hserver⟩
  have hack : (packetCall t exampleAck DHCPACK).TakesAck t := by
    refine ⟨ht ▸ hrequesting, nofun, rfl, rfl, ?_, hserver'⟩
    rw [ht]
    exact hsame.trans haddr.symm
  have hprobing : u.pc = .probing := hu ▸ ack_calm cfg _ t hack
  have hunprobed : Unprobed t := by
    rw [ht, hs]
    exact unprobed_run cfg b [packetCall (.start b) exampleOffer DHCPOFFER]
  refine ⟨[packetCall s exampleOffer DHCPOFFER, packetCall t exampleAck DHCPACK], lateCall u, probed u, ?_, ?_, ?_⟩
  · rw [← hs]
    apply OnTime.call cfg _ _ _ _ _ (Int.le_refl 0) (fun _ => Int.le_refl 0) rfl rfl
    rw [show (Step.handle calmEnv _).next cfg s = t from ht.symm]
    apply OnTime.call cfg _ _ _ _ _ (Int.le_refl 0) (fun _ => Int.le_refl 0) rfl rfl
    rw [show (Step.handle calmEnv _).next cfg t = u from hu.symm]
    exact OnTime.call cfg _ _ _ _ _ (le_max_left _ _) (fun _ => Int.le_refl _) rfl rfl ⟨trivial, trivial⟩
  · show _ ∈ ((lateCall u).next cfg ((packetCall t exampleAck DHCPACK).next cfg
      ((packetCall s exampleOffer DHCPOFFER).next cfg (.start b)))).out
    rw [← hs, ← ht, ← hu]
    exact lateCall_binds cfg u hprobing
  · show probeCount ((packetCall t exampleAck DHCPACK).next cfg
      ((packetCall s exampleOffer DHCPOFFER).next cfg (.start b))) = 1
    rw [← hs, ← ht]
    exact (ack_counts cfg _ _ t hunprobed hack (hu ▸ hprobing)).1

end

/-- **Enough probes precede a bind**, whatever the options: an address was probed `arp_probe_num`
times when it is bound exactly if the count and not the time alone decided; and for this to be so in
every run on time, one probe must be enough. -/
theorem enough_probes_iff (cfg : ClientConfig) (opts : List ProbeOption) (hnum : 1 ≤ (parseProbes opts).num)
    (c : ClientConfig) (hc : c = cfg.withProbes (parseProbes opts)) :
    (∀ b steps (last : Step) a, Effect.bind a ∈ (last.next c (run c steps (.start b))).out →
      (EnoughProbes c a steps (.start b) ↔ c.arpProbeNum ≤ probeCount (run c steps (.start b)))) ∧
    ((∀ b steps last a now, OnTime c (steps ++ [last]) now (.start b) →
        Effect.bind a ∈ (last.next c (run c steps (.start b))).out → EnoughProbes c a steps (.start b)) ↔
      (parseProbes opts).num = 1) := by
  have hcfg : c.arpProbeNum = (parseProbes opts).num := hc ▸ rfl
  have hcounted : ∀ b steps (last : Step) a, Effect.bind a ∈ (last.next c (run c steps (.start b))).out →
      (EnoughProbes c a steps (.start b) ↔ c.arpProbeNum ≤ probeCount (run c steps (.start b))) := by
    intro b steps last a hbind
    obtain ⟨hpc, rfl⟩ := last.probed_of_bind c a _ hbind
    exact enough_iff_counted c b steps hpc
  refine ⟨hcounted, fun h => ?_, fun hone b steps last a now _ hbind => ?_⟩
  · -- an address bound late was probed once
    obtain ⟨steps, last, a, htime, hbind, hcount⟩ := late_run c ⟨0, false, false, 3, true, by decide⟩
    have henough := (hcounted _ steps last a hbind).mp (h _ steps last a 0 htime hbind)
    omega
  · rw [hcounted b steps last a hbind, hcfg, hone]
    exact one_le_probeCount c b steps (last.probed_of_bind c a _ hbind).1

/-! ## The default options -/

/-- A discover message, the offer and its ACK, with the timeouts as they fall due. -/
def acceptedRun : List Step := [
  .handle calmEnv { timerInput 0 with dhcpTimeout := true },
  .handle calmEnv { timerInput 0 with
    sevDhcp := true, dhcpPacket := exampleOffer, dhcpMsgtype := DHCPOFFER, dhcpSrcaddr := 0xc0a80101 },
  .handle calmEnv { timerInput 0 with
    sevDhcp := true, dhcpPacket := exampleAck, dhcpMsgtype := DHCPACK, dhcpSrcaddr := 0xc0a80101,
    dhcpTimeout := true }]

/-- A call for the ARP timer at `t`. -/
def arpAt (t : Int) : Step := .handle (envAt t) (timerInput t)

def oneProbe : ClientConfig := exampleConfig.withProbes (parseProbes [.num 1])

theorem acceptedRun_onTime : OnTime oneProbe (acceptedRun ++ [arpAt 1000]) 0 exampleStart := by
  apply OnTime.call oneProbe _ _ _ _ _ (by decide) (fun _ => Int.le_refl 0) (by decide +kernel) (by decide +kernel)
  apply OnTime.call oneProbe _ _ _ _ _ (by decide) (fun _ => Int.le_refl 0) (by decide +kernel) (by decide +kernel)
  apply OnTime.call oneProbe _ _ _ _ _ (by decide) (fun _ => Int.le_refl 0) (by decide +kernel) (by decide +kernel)
  apply OnTime.call oneProbe _ _ _ _ _ (by decide) (fun _ => Int.le_refl 1000) (by decide +kernel) (by decide +kernel)
  exact ⟨trivial, trivial⟩

theorem one_probe_enough : EnoughProbes oneProbe leasedAddr acceptedRun exampleStart :=
  (enough_probes_iff exampleConfig [.num 1] (by decide) oneProbe rfl).2.mpr rfl
    ⟨0, false, false, 3, true, by decide⟩ acceptedRun (arpAt 1000) leasedAddr 0 acceptedRun_onTime (by decide +kernel)

/-- With the default options and every call made when it is due, the second wait ends when two
seconds are over: the address is bound on two probes and not on three. -/
theorem two_probes_bound :
    exampleConfig = exampleConfig.withProbes (parseProbes []) ∧
      OnTime exampleConfig (acceptedRun ++ [arpAt 1000, arpAt 2000]) 0 exampleStart ∧
      Effect.bind leasedAddr ∈
        ((arpAt 2000).next exampleConfig (run exampleConfig (acceptedRun ++ [arpAt 1000]) exampleStart)).out ∧
      ¬ EnoughProbes exampleConfig leasedAddr (acceptedRun ++ [arpAt 1000]) exampleStart := by
  refine ⟨rfl, ?_, by decide +kernel, fun h => ?_⟩
  · apply OnTime.call exampleConfig _ _ _ _ _ (by decide) (fun _ => Int.le_refl 0) (by decide +kernel) (by decide +kernel)
    apply OnTime.call exampleConfig _ _ _ _ _ (by decide) (fun _ => Int.le_refl 0) (by decide +kernel) (by decide +kernel)
    apply OnTime.call exampleConfig _ _ _ _ _ (by decide) (fun _ => Int.le_refl 0) (by decide +kernel) (by decide +kernel)
    apply OnTime.call exampleConfig _ _ _ _ _ (by decide) (fun _ => Int.le_refl 1000) (by decide +kernel) (by decide +kernel)
    apply OnTime.call exampleConfig _ _ _ _ _ (by decide) (fun _ => Int.le_refl 2000) (by decide +kernel) (by decide +kernel)
    exact ⟨trivial, trivial⟩
  · have hpc : (run exampleConfig (acceptedRun ++ [arpAt 1000]) exampleStart).pc = .probing := by decide +kernel
    have hprobed : leasedAddr = probed (run exampleConfig (acceptedRun ++ [arpAt 1000]) exampleStart) := by decide +kernel
    have hnum : ¬ exampleConfig.arpProbeNum ≤
        probeCount (run exampleConfig (acceptedRun ++ [arpAt 1000]) exampleStart) := by
      decide +kernel
    rw [hprobed] at h
    exact hnum ((enough_iff_counted exampleConfig ⟨0, false, false, 3, true, by decide⟩ _ hpc).mp h)

end Ndhc
