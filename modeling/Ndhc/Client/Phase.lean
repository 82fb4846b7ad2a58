import Ndhc.Client.Expiry

/-!
# The phase with a lease

What the parts of the BOUND loop leave alone of each other's data, and what is left behind
when the phase is over: every way out of it clears the fingerprint and the defense timer, and
nothing sets them again before the next lease is taken (`reset_outside`).
-/

namespace Ndhc

open Prog

/-! ## Returning from a pass -/

/-! What is asked of a call that ends with `scrReturn` holds if it ends in another way. -/

theorem Stop.exit_ret_elim {P : Prop} (code : Int) (h : Stop.exit = .ret code) : P := by
  cases h

theorem Stop.goto_ret_elim {P : Prop} {l : Label} (code : Int) (h : Stop.goto l = .ret code) : P := by
  cases h

/-- If the call ends with `scrReturn`, all is as it was. -/
def OnReturn {κ : Type} (e : Stop) (c d : κ) : Prop := ∀ code, e = .ret code → d = c

section
variable {α κ : Type} (f : Sys → κ)

/-- A subroutine does not end the call by `scrReturn`. -/
instance (priority := low) (m : M α) [hc : Routine core Dies m] [hf : Routine f AnyWay m] :
    Routine f OnReturn m where
  ends s := by
    apply wp_mono _ _ s _ _ _ (wp_and _ _ s m _ _ (hc.ends s) (hf.ends s))
    · exact fun _ _ h => h.2
    · rintro e t ⟨⟨rfl, -⟩, -⟩ code h
      cases h

instance (env : Env) [hf : Routine f AnyWay (ifchangeDeconfig env)] :
    Routine f OnReturn (ifchangeDeconfig env) where
  ends s := by
    apply wp_mono _ _ s _ _ _ (wp_and _ _ s _ _ _ (ifchangeDeconfig_returns env s) (hf.ends s))
    · exact fun _ _ h => h.2
    · rintro e t ⟨⟨rfl, -⟩, -⟩ code h
      cases h

instance (env : Env) (cfg : ClientConfig) (packet : DhcpMsg)
    [hf : Routine f AnyWay (arpCheck env cfg packet)] :
    Routine f OnReturn (arpCheck env cfg packet) where
  ends s := by
    apply wp_mono _ _ s _ _ _ (wp_and _ _ s _ _ _ (arpCheck_ends env cfg packet s) (hf.ends s))
    · exact fun _ _ h => h.2
    · rintro e t ⟨⟨rfl, -⟩, -⟩ code h
      cases h

instance (l : Label) : Routine f OnReturn (goto l : M α) where
  ends s := by
    intro code h
    cases h

instance (env : Env) (timeout : Int) : Routine f OnReturn (restart env timeout : M α) where
  ends s := by
    apply wp_restart
    · intro t _ code h
      cases h
    · intro t _ code h
      cases h

instance (env : Env) : Routine f OnReturn (gwLost env) where
  ends s := by
    apply wp_restart
    · intro t _ code h
      cases h
    · intro t _ code h
      cases h

end

/-! ## Clearing up -/

/-- What a lease leaves traces in: the fingerprint, whether it is asked for or checked, and the
defense timer. -/
@[reducible] def traces (s : Sys) : Bool × Bool × Bool × Bool × Int :=
  (s.cs.sentGwQuery, s.cs.gotRouterArp, s.cs.gotServerArp, s.cs.checkFingerprint,
    s.garp.wakeTs.defense)

@[reducible] def noTraces : Bool × Bool × Bool × Bool × Int := (false, false, false, false, -1)

/-- What the ARP side of a lease keeps: its timers but for that of the probes, the pings and
announcements sent, and what is asked for, known and awaited. -/
structure Alarms where
  idle : Int
  announce : Int
  queryGwSend : Int
  gwCheck : Int
  gwQuery : Int
  defense : Int
  gwPingStats : ArpStats
  announceStats : ArpStats
  gwCheckInitpings : Int
  routerReplied : Bool
  serverReplied : Bool
  sentGwQuery : Bool
  gotRouterArp : Bool
  gotServerArp : Bool
  checkFingerprint : Bool
  sentFirstAnnounce : Bool
  sentSecondAnnounce : Bool
  deriving DecidableEq

@[reducible] def alarms (s : Sys) : Alarms :=
  ⟨s.garp.wakeTs.none, s.garp.wakeTs.announce, s.garp.wakeTs.queryGwSend, s.garp.wakeTs.gwCheck,
    s.garp.wakeTs.gwQuery, s.garp.wakeTs.defense, s.garp.gwPingStats, s.garp.announceStats,
    s.garp.gwCheckInitpings, s.garp.routerReplied, s.garp.serverReplied, s.cs.sentGwQuery,
    s.cs.gotRouterArp, s.cs.gotServerArp, s.cs.checkFingerprint, s.cs.sentFirstAnnounce,
    s.cs.sentSecondAnnounce⟩

@[reducible] def noAlarms : Alarms :=
  ⟨-1, -1, -1, -1, -1, -1, ⟨0, 0⟩, ⟨0, 0⟩, 0, false, false, false, false, false, false, false, false⟩

/-- The part of the alarms that `traces` shows. -/
@[reducible] def tracesOf (a : Alarms) : Bool × Bool × Bool × Bool × Int :=
  (a.sentGwQuery, a.gotRouterArp, a.gotServerArp, a.checkFingerprint, a.defense)

/-- `m` leaves the alarms alone or resets them. -/
abbrev Resets {α : Type} (m : M α) : Prop := Prog.Moves alarms (fun _ b => b = noAlarms) m

section
variable {α : Type} (env : Env) (site : Site)

theorem resets_cases (m : M α) [h : Resets m] (s : Sys) :
    wp m (fun _ t => alarms t = alarms s ∨ alarms t = noAlarms)
      (fun _ t => alarms t = alarms s ∨ alarms t = noAlarms) s := by
  have hlast : ∀ t, Relation.ReflTransGen (fun _ b => b = noAlarms) (alarms s) (alarms t) →
      alarms t = alarms s ∨ alarms t = noAlarms :=
    fun t ht => ht.cases_tail.imp_right fun ⟨_, _, hb⟩ => hb
  exact wp_mono _ _ s _ _ _ (h.ends s) (fun _ t => hlast t) (fun _ t => hlast t)

/-- What is read off the alarms stays as a reset leaves it. -/
theorem resets_keep {κ : Type} (g : Alarms → κ) (m : M α) [Resets m] (s : Sys)
    (hs : g (alarms s) = g noAlarms) :
    wp m (fun _ t => g (alarms t) = g noAlarms) (fun _ t => g (alarms t) = g noAlarms) s := by
  have hkept : ∀ t, alarms t = alarms s ∨ alarms t = noAlarms → g (alarms t) = g noAlarms := by
    rintro t (ht | ht)
    · rw [ht]
      exact hs
    · rw [ht]
  exact wp_mono _ _ s _ _ _ (resets_cases m s) (fun _ t => hkept t) (fun _ t => hkept t)

instance : Resets (suicide : M α) := ⟨fun _ => .refl⟩

instance (o : Option α) : Resets (ask o) := by
  cases o with
  | none => exact inferInstanceAs (Resets suicide)
  | some a => exact inferInstanceAs (Resets (pure a))

instance (e : Effect) : Resets (emit e) := ⟨fun _ => .refl⟩

instance (l : Label) : Resets (goto l : M α) := ⟨fun _ => .refl⟩

instance (code : Int) (pc : Pc) : Resets (scrReturn code pc : M α) := ⟨fun _ => .refl⟩

instance (m : Sent) : Resets (sendDhcp env site m) := by
  unfold sendDhcp
  infer_instance

instance : Resets (startDhcpListen env site) := by
  unfold startDhcpListen
  infer_instance

instance : Resets arpMinCloseFd := by
  unfold arpMinCloseFd
  infer_instance

instance (defense : Bool) : Resets (arpOpenFd env site defense) := by
  unfold arpOpenFd
  infer_instance

/-- Whatever the alarms are. -/
theorem reinitSharedDeconfig_resets (s : Sys) :
    wp reinitSharedDeconfig (fun _ t => alarms t = noAlarms) (fun _ _ => False) s := by
  unfold reinitSharedDeconfig arpResetState arpCloseFd arpMinCloseFd
  simp only [wp_bind, wp_modify, wp_get, wp_ite, wp_pure]
  split
  · rfl
  · rfl

instance : Resets reinitSharedDeconfig where
  ends s := wp_mono _ _ s _ _ _ (reinitSharedDeconfig_resets s) (fun _ _ h => .single h) (fun _ _ h => h.elim)

theorem reinitSelecting_resets (timeout : Int) (s : Sys) :
    wp (reinitSelecting env timeout) (fun _ t => alarms t = noAlarms) (fun _ t => alarms t = noAlarms) s := by
  unfold reinitSelecting
  rw [wp_bind]
  apply wp_mono _ _ s _ _ _ (reinitSharedDeconfig_resets s) ?_ (fun _ _ h => h.elim)
  intro _ t ht
  exact resets_keep id (do
    modify fun s => { s with cs.dhcpWakeTs := env.curms .reinitSelecting + timeout }
    startDhcpListen env .reinitSelecting) t ht

instance (timeout : Int) : Resets (reinitSelecting env timeout) where
  ends s := wp_mono _ _ s _ _ _ (reinitSelecting_resets env timeout s) (fun _ _ h => .single h) (fun _ _ h => .single h)

theorem restart_resets (timeout : Int) (s : Sys) :
    wp (restart env timeout : M α) (fun _ _ => False) (fun _ t => alarms t = noAlarms) s := by
  unfold restart
  rw [wp_bind]
  exact wp_mono _ _ s _ _ _ (reinitSelecting_resets env timeout s) (fun _ _ h => h) (fun _ _ h => h)

theorem printRelease_resets (s : Sys) :
    wp printRelease (fun _ t => alarms t = noAlarms) (fun _ _ => False) s := by
  unfold printRelease
  rw [wp_bind]
  exact wp_mono _ _ s _ _ _ (reinitSharedDeconfig_resets s) (fun _ _ h => h) (fun _ _ h => h)

instance : Resets printRelease where
  ends s := wp_mono _ _ s _ _ _ (printRelease_resets s) (fun _ _ h => .single h) (fun _ _ h => h.elim)

end

/-- A subroutine that does not end the process has returned. -/
theorem final_returned {α : Type} (m : M α) [Routine core Dies m] (s : Sys) (P : Sys → Prop)
    (h : wp m (fun _ t => P t) (fun _ _ => True) s) : (final m s).pc ≠ .dead → P (final m s) := by
  apply final_of_wp m s fun t => t.pc ≠ .dead → P t
  apply wp_routine core Dies
  apply wp_mono _ _ s _ _ _ h
  · exact fun _ _ ht _ _ => ht
  · rintro e t - ⟨-, hd⟩ hpc
    exact absurd (congrArg Core.pc hd) hpc

theorem final_stays {α κ : Type} (f : Sys → κ) (m : M α) [Routine core Dies m]
    [hf : Routine f AnyWay m] (s : Sys) : (final m s).pc ≠ .dead → f (final m s) = f s :=
  final_returned m s (fun t => f t = f s) (hf.ends s)

/-- If the pass returns, it does so with `P`. -/
def Returning (P : Sys → Prop) (e : Stop) (t : Sys) : Prop := ∀ code, e = .ret code → P t

section
variable (env : Env) (cfg : ClientConfig) (inp : Input)

/-- A pass up to the ARP frame. -/
def toDefense : M Unit := do
  boundSignal env inp
  boundDhcp env cfg inp

/-- A pass, by its stages. -/
theorem wp_boundPass (Q : Unit → Sys → Prop) (E : Stop → Sys → Prop) (s : Sys) :
    wp (boundPass env cfg inp) Q E s ↔
      wp (toDefense env cfg inp) (fun _ t => wp (boundArp env cfg inp) (fun _ u =>
        wp (do boundArpTimeout env inp; boundIfup env inp; boundTimer env inp) Q E u) E t) E s := by
  unfold boundPass toDefense
  simp only [wp_bind]

/-- A call that ends without a lease has left the phase. -/
theorem EndsIdle.not_inLease (c : Core) (e : Stop) (t : Sys) (h : EndsIdle c e t) : ¬ InLease t := by
  rintro (hb | hb)
  · rcases h.pc c e t with h | h | h <;> exact nomatch h.symm.trans hb
  · rcases h.pc c e t with h | h | h <;> exact nomatch h.symm.trans hb

/-- A call stays in the phase if its pass returns, and leaves it if the pass jumps. -/
theorem wp_lease_call (P : Stop → Sys → Prop) (s : Sys) (hpc : s.pc = .bound)
    (hpass : wp (boundPass env cfg inp) (fun _ _ => True) P { s with out := [] }) :
    wp (dhcpHandle env cfg inp) (fun _ _ => False)
      (fun e t => (InLease t ∧ (∃ code, e = .ret code) ∧ P e t) ∨
        (¬ InLease t ∧ (t.pc = .dead ∨ ∃ l u, P (.goto l) u))) s := by
  rw [wp_dhcpHandle env cfg inp _ _ s .bound hpc, wp_follow]
  apply wp_mono _ _ _ _ _ _ (wp_and _ _ _ _ _ _
    (boundPass_ends env cfg inp s { s with out := [] } rfl rfl) hpass) (fun _ _ h => h.1.elim)
  rintro e t ⟨hend, hret⟩
  have hrefl : Calm [] (core t) (core t) := Calm.of_core _ _ t.pc rfl
  match e, hend with
  | .ret code, hend => exact Or.inl ⟨hend.2.2.imp_right And.left, ⟨code, rfl⟩, hret⟩
  | .goto .reinit, _ =>
    apply wp_mono _ _ t _ _ _ (reinit_call env cfg inp 0 _ t hrefl) (fun _ _ h => h.elim)
    exact fun e u h => Or.inr ⟨h.not_inLease _ e u, Or.inr ⟨_, _, hret⟩⟩
  | .goto .released, hend =>
    apply wp_mono _ _ t _ _ _ (released_call env cfg inp 1 _ t hrefl hend.2.1) (fun _ _ h => h.elim)
    exact fun e u h => Or.inr ⟨h.not_inLease _ e u, Or.inr ⟨_, _, hret⟩⟩
  | .exit, hend =>
    refine Or.inr ⟨?_, Or.inl hend.2⟩
    rintro (hb | hb)
    · exact nomatch hend.2.symm.trans hb
    · exact nomatch hend.2.symm.trans hb

/-- To know a call that stays in the phase is to know how its pass returns. -/
theorem wp_lease_stays (P : Stop → Sys → Prop) (s : Sys) (hpc : s.pc = .bound)
    (hpass : wp (boundPass env cfg inp) (fun _ _ => True) P { s with out := [] }) :
    wp (dhcpHandle env cfg inp) (fun _ _ => False) (fun e t => InLease t → (∃ code, e = .ret code) ∧ P e t) s := by
  apply wp_mono _ _ s _ _ _ (wp_lease_call env cfg inp P s hpc hpass) (fun _ _ h => h)
  rintro e t (⟨-, h⟩ | ⟨hout, -⟩) hlease
  · exact h
  · exact absurd hlease hout

theorem lease_stays (P : Sys → Prop) (s : Sys) (hpc : s.pc = .bound)
    (hpass : wp (boundPass env cfg inp) (fun _ _ => True) (Returning P) { s with out := [] }) :
    InLease (final (dhcpHandle env cfg inp) s) → P (final (dhcpHandle env cfg inp) s) := by
  apply final_of_wp _ s fun t => InLease t → P t
  apply wp_mono _ _ s _ _ _ (wp_lease_stays env cfg inp _ s hpc hpass) (fun _ _ h => h.elim)
  intro e t h hlease
  obtain ⟨⟨code, he⟩, hret⟩ := h hlease
  exact hret code he

theorem bound_stays (P : Sys → Prop) (s : Sys) (hpc : s.pc = .bound)
    (hpass : wp (boundPass env cfg inp) (fun _ _ => True) (Returning P) { s with out := [] }) :
    (final (dhcpHandle env cfg inp) s).pc = .bound → P (final (dhcpHandle env cfg inp) s) :=
  fun hb => lease_stays env cfg inp P s hpc hpass (Or.inl hb)

end

/-! ## The DHCP side -/

section
variable {κ : Type} (f : Sys → κ) [Deaf f] (env : Env) (site : Site)

instance : Routine f AnyWay (sendRebind env site) := by
  unfold sendRebind
  infer_instance

instance : Routine f AnyWay (sendRelease env site) := by
  unfold sendRelease
  infer_instance

/-- A release that is not sent changes nothing. -/
theorem xmitRelease_keeps (s : Sys) :
    wp (xmitRelease env) (fun r t => r = 0 ∨ f t = f s) (fun _ _ => True) s := by
  unfold xmitRelease
  apply wp_call f AnyWay _ _ s _ _ ?_ (fun _ _ h => h)
  intro r t ht
  rw [wp_ite]
  split
  · exact Or.inr ht
  · exact wp_bind_all _ _ t _ _ (fun _ _ => Or.inl rfl) (fun _ _ => trivial)

end

/-- A view of the state that does not show messages, the listening socket, the DHCP timer, the
terms of the lease and where the coroutine resumes. -/
class Offline {κ : Type} (f : Sys → κ) : Prop extends Deaf f where
  pc : ∀ s p, f { s with pc := p } = f s
  listen : ∀ s fd bpf, f { s with cs.listenFd := fd, cs.usingDhcpBpf := bpf } = f s
  wake : ∀ s ts, f { s with cs.dhcpWakeTs := ts } = f s
  lease : ∀ env packet s, f (withLease env packet s) = f s

instance : Offline traces where
  eq _ _ := rfl
  pc _ _ := rfl
  listen _ _ _ := rfl
  wake _ _ := rfl
  lease _ _ _ := rfl

section
variable {α κ : Type} (f : Sys → κ) [Offline f] (env : Env) (inp : Input) (site : Site)

instance (code : Int) (pc : Pc) : Routine f OnReturn (scrReturn code pc : M α) :=
  ⟨fun s _ _ => Offline.pc s pc⟩

instance : Routine f AnyWay (startDhcpListen env site) := by
  have hlisten : ∀ (r : Int × Bool) s,
      Same (f { s with cs.listenFd := r.1, cs.usingDhcpBpf := r.2 }) (f s) :=
    fun r s => ⟨Offline.listen s r.1 r.2⟩
  unfold startDhcpListen
  infer_instance

instance : Routine f AnyWay stopDhcpListen where
  ends s := Offline.listen s (-1) s.cs.usingDhcpBpf

instance : Routine f AnyWay (frenew env true) := by
  show Routine f AnyWay (startDhcpListen env .frenew >>= fun _ => _)
  infer_instance

instance (send : M Int) (limit : ClientState → Int) (nowts : Int) [Routine f AnyWay send] :
    Routine f AnyWay (requestExtension env site send limit nowts) := by
  have hwake : ∀ s, Same
      (f { s with cs.dhcpWakeTs := min (retryTime env site nowts) (limit s.cs) }) (f s) :=
    fun s => ⟨Offline.wake s _⟩
  unfold requestExtension
  infer_instance

/-! ### Signals and the lease timer -/

instance : Routine f OnReturn (boundSignal env inp) := by
  unfold boundSignal
  split
  · constructor
    intro s
    apply wp_sub_of _ _ s _ _ ?_ (fun _ _ => Stop.exit_ret_elim)
    apply wp_mono _ _ s _ _ _ (xmitRelease_keeps f env s) ?_ (fun _ _ h => h)
    intro r t ht
    rw [wp_ite]
    split
    · next hr => exact fun _ _ => (Offline.pc t _).trans (ht.resolve_left hr)
    · exact Stop.goto_ret_elim
  · infer_instance

/-- A packet that is not a NAK changes nothing but terms, socket and DHCP timer. -/
theorem extendPacket_keeps (packet : DhcpMsg) (msgtype : UInt8) (s : Sys)
    [Routine f AnyWay (arpSetDefenseMode env)] :
    wp (extendPacket env packet msgtype) (fun r t => r = .rejected ∨ f t = f s)
      (fun e _ => e = .exit) s := by
  unfold extendPacket
  rw [wp_bind, wp_get, wp_ite]
  split
  · rw [wp_ite]
    split
    · exact Or.inr rfl
    · have hlease : f (withLease env packet s) = f s := Offline.lease env packet s
      show wp (if packet.yiaddr ≠ s.cs.clientAddr then pure Anp.checkIp else _) _ _
        (withLease env packet s)
      rw [wp_ite]
      split
      · exact Or.inr hlease
      · rw [wp_bind]
        apply wp_routine core Dies
        apply wp_routine f AnyWay
        apply wp_all
        · exact fun _ t ht _ => Or.inr ((Offline.listen t (-1) t.cs.usingDhcpBpf).trans (ht.trans hlease))
        · exact fun _ _ _ hd => hd.1
  · rw [wp_ite]
    split
    · rw [wp_ite]
      split
      · exact Or.inr rfl
      · apply wp_sub
        · exact fun _ _ _ => Or.inl rfl
        · exact fun _ _ => rfl
    · exact Or.inr rfl

instance (cfg : ClientConfig) [Routine f AnyWay (arpSetDefenseMode env)]
    [hcheck : ∀ packet, Routine f AnyWay (arpCheck env cfg packet)] :
    Routine f OnReturn (boundDhcp env cfg inp) where
  ends s := by
    unfold boundDhcp
    rw [wp_bind, wp_get, wp_ite]
    split
    · rw [wp_bind]
      apply wp_mono _ _ s _ _ _ (extendPacket_keeps f env inp.dhcpPacket inp.dhcpMsgtype s)
      · intro r t ht
        cases r with
        | ignore => exact ht.resolve_left (by decide)
        | success => exact ht.resolve_left (by decide)
        | rejected => exact Stop.goto_ret_elim
        | checkIp =>
          rw [← ht.resolve_left (by decide)]
          exact Routine.ends (f := f) (X := OnReturn) (m := arpCheck env cfg inp.dhcpPacket >>= fun r =>
            if r < 0 then restart env 3000 else pure ()) t
      · rintro e t rfl code h
        cases h
    · rfl

/-- The lease is given up and cleared, or `f` of the state is as it was. -/
def TimerLeaves (s : Sys) : Bto → Sys → Prop
  | .expired, t => traces t = noTraces
  | _, t => f t = f s

theorem requestExtension_keeps (send : M Int) (limit : ClientState → Int) (nowts : Int) (s : Sys)
    [Routine f AnyWay send] :
    wp (requestExtension env site send limit nowts) (TimerLeaves f s) (fun _ _ => True) s := by
  apply wp_routine f AnyWay
  apply wp_mono _ _ s _ _ _ (requestExtension_not_expired env nowts site send limit False s)
  · intro r t hr ht
    cases r with
    | wait => exact ht
    | expired => exact (hr rfl).elim
    | hardfail => exact ht
  · exact fun _ _ _ _ => trivial

theorem rebindingTimeout_keeps (nowts : Int) (s : Sys) :
    wp (rebindingTimeout env nowts) (TimerLeaves f s) (fun _ _ => True) s := by
  unfold rebindingTimeout
  rw [wp_bind, wp_get, wp_ite]
  split
  · rw [wp_bind]
    exact wp_mono _ _ s _ _ _ (reinitSelecting_resets env 0 s) (fun _ _ h => congrArg tracesOf h) (fun _ _ _ => trivial)
  · exact requestExtension_keeps f env _ _ _ nowts s

theorem renewingTimeout_keeps (nowts : Int) (s : Sys) :
    wp (renewingTimeout env nowts) (TimerLeaves f s) (fun _ _ => True) s := by
  unfold renewingTimeout
  rw [wp_bind, wp_get, wp_ite]
  split
  · exact rebindingTimeout_keeps f env nowts s
  · exact requestExtension_keeps f env _ _ _ nowts s

theorem leaseTimeout_keeps (nowts : Int) (s : Sys) :
    wp (leaseTimeout env nowts) (TimerLeaves f s) (fun _ _ => True) s := by
  unfold leaseTimeout boundTimeout
  rw [wp_bind, wp_get, wp_ite]
  split
  · exact rebindingTimeout_keeps f env nowts s
  · rw [wp_ite]
    split
    · exact renewingTimeout_keeps f env nowts s
    · rw [wp_bind, wp_get, wp_ite]
      split
      · exact Offline.wake s _
      · exact renewingTimeout_keeps f env nowts s

instance : Routine f OnReturn (boundTimer env inp) := by
  unfold boundTimer
  split
  · constructor
    intro s
    apply wp_sub_of _ _ s _ _ ?_ (fun _ _ => Stop.exit_ret_elim)
    apply wp_mono _ _ s _ _ _ (leaseTimeout_keeps f env inp.nowts s) ?_ (fun _ _ h => h)
    intro r t ht
    cases r with
    | wait => exact fun _ _ => (Offline.pc t _).trans ht
    | expired => exact Stop.goto_ret_elim
    | hardfail => exact fun _ _ => (Offline.pc t _).trans ht
  · infer_instance

end

/-! ## The ARP side -/

/-- What the ARP functions leave alone, except for those that defend the address. -/
structure Steady where
  listenFd : Int
  lastConflictTs : Int
  defense : Int
  relentlessDef : Bool

@[reducible] def steady (s : Sys) : Steady :=
  ⟨s.cs.listenFd, s.garp.lastConflictTs, s.garp.wakeTs.defense, s.garp.relentlessDef⟩

instance : Deaf steady := ⟨fun _ _ => rfl⟩

/-- With the announcements that were sent. -/
@[reducible] def still (s : Sys) : Steady × ArpStats := (steady s, s.garp.announceStats)

instance : Deaf still := ⟨fun _ _ => rfl⟩

instance (priority := low) {α : Type} (m : M α) [h : Routine still AnyWay m] :
    Routine steady AnyWay m where
  ends s := wp_mono _ _ s _ _ _ (h.ends s) (fun _ _ ht => congrArg Prod.fst ht) (fun _ _ h => h)

section
variable (env : Env) (cfg : ClientConfig) (site : Site) (nowts : Int)

instance (testIp : UInt32) : Routine still AnyWay (arpPing env site testIp) := by
  unfold arpPing
  infer_instance

instance (replied : Bool) (testIp : UInt32) :
    Routine still AnyWay (pingUnless env replied site testIp) := by
  unfold pingUnless
  infer_instance

instance : Routine still AnyWay arpMinCloseFd := by
  unfold arpMinCloseFd
  infer_instance

instance (defense : Bool) : Routine still AnyWay (arpOpenFd env site defense) := by
  unfold arpOpenFd
  infer_instance

instance : Routine still AnyWay (arpSetDefenseMode env) := by
  unfold arpSetDefenseMode
  infer_instance

set_option synthInstance.maxSize 256 in
instance (packet : DhcpMsg) : Routine still AnyWay (arpCheck env cfg packet) := by
  unfold arpCheck arpIpAnonPing
  infer_instance

instance : Routine still AnyWay (gwCheckPings env) := by
  unfold gwCheckPings gwCheckRouter
  infer_instance

instance : Routine still AnyWay (arpGwCheck env) := by
  unfold arpGwCheck
  infer_instance

instance : Routine still AnyWay (gwHwaddrPings env) := by
  unfold gwHwaddrPings gwHwaddrRouter
  infer_instance

instance : Routine still AnyWay (arpGetGwHwaddr env) := by
  unfold arpGetGwHwaddr
  infer_instance

instance : Routine still AnyWay (arpQueryGatewayTimeout env nowts) := by
  unfold arpQueryGatewayTimeout arpQueryGateway
  infer_instance

instance : Routine still AnyWay (gwQueryDone env) := by
  unfold gwQueryDone
  infer_instance

instance : Routine still AnyWay (arpDoGwQuery env cfg) := by
  unfold arpDoGwQuery gwQueryServer
  infer_instance

instance : Routine still AnyWay (arpGwQueryTimeout env nowts) := by
  unfold arpGwQueryTimeout
  infer_instance

instance : Routine still AnyWay (arpGwCheckTimeout env nowts) := by
  unfold arpGwCheckTimeout
  infer_instance

instance : Routine still AnyWay (ifupAction env) := by
  unfold ifupAction
  infer_instance

instance : Routine still AnyWay (ifchangeDeconfig env) := by
  unfold ifchangeDeconfig
  infer_instance

/-! ### Announcing -/

instance : Routine steady AnyWay (arpAnnouncement env site) := by
  unfold arpAnnouncement
  infer_instance

instance : Routine steady AnyWay (arpAnnounce env) := by
  unfold arpAnnounce
  infer_instance

instance : Routine steady AnyWay (arpAnnounceTimeout env nowts) := by
  unfold arpAnnounceTimeout
  infer_instance

instance : Routine steady AnyWay (arpGwSuccess env) := by
  unfold arpGwSuccess
  infer_instance

instance : Routine steady AnyWay (gwCheckServer env) := by
  unfold gwCheckServer
  infer_instance

instance : Routine steady AnyWay (arpDoGwCheck env cfg) := by
  unfold arpDoGwCheck
  infer_instance

end

/-! ## Between two leases -/

section
variable {α : Type} (env : Env) (cfg : ClientConfig) (inp : Input)

/-! ### Passes without a lease -/

instance : Resets (onRelease inp) := by
  unfold onRelease
  infer_instance

instance (timeout : Int) : Resets (restart env timeout : M α) := by
  unfold restart
  infer_instance

instance (packet : DhcpMsg) (srcaddr : UInt32) : Resets (selectingOffer env packet srcaddr) := by
  unfold selectingOffer
  split
  · infer_instance
  · infer_instance

instance (packet : DhcpMsg) : Resets (getLeasetime env packet) := ⟨fun _ => .refl⟩

instance (packet : DhcpMsg) (srcaddr : UInt32) : Resets (selectingAck env packet srcaddr) := by
  unfold selectingAck noteServer
  split
  · infer_instance
  · infer_instance

instance (packet : DhcpMsg) (msgtype : UInt8) (srcaddr : UInt32) (isRequesting : Bool) :
    Resets (selectingPacket env packet msgtype srcaddr isRequesting) := by
  unfold selectingPacket
  infer_instance

instance (nowts : Int) : Resets (selectingTimeout env cfg nowts) := by
  unfold selectingTimeout onNoLease freshXid sendDiscover awaitReply
  infer_instance

instance : Resets (selectingPass env cfg inp) := by
  unfold selectingPass selectingDhcp selectingTimer
  infer_instance

instance : Resets (reinitPass env cfg inp) := by
  unfold reinitPass
  infer_instance

instance (pc : Pc) : Resets (requestTimer env inp pc) := by
  unfold requestTimer requestingTimeout sendSelecting awaitReply
  infer_instance

set_option synthInstance.maxSize 256 in
instance (packet : DhcpMsg) : Resets (arpCheck env cfg packet) := by
  unfold arpCheck arpIpAnonPing arpSend
  infer_instance

instance : Resets (requestingPass env cfg inp) := by
  unfold requestingPass requestingDhcp
  infer_instance

instance : Resets (probingArp env cfg inp) := by
  unfold probingArp arpDoCollisionCheck sendDecline
  infer_instance

instance : Resets (releasedPass env inp) := by
  show Resets (if inp.sevSignal = .renew then
    (reinitSelecting env 0 >>= fun _ => pure 0) >>= fun r =>
      if r ≠ 0 then scrReturn COR_ERROR .released else goto .reinit
    else scrReturn COR_SUCCESS .released)
  infer_instance

instance (l : Label) : Resets (target env cfg inp l) := by
  cases l with
  | reinit => exact inferInstanceAs (Resets (reinitPass env cfg _))
  | requesting => exact inferInstanceAs (Resets (requestingPass env cfg _))
  | released => exact inferInstanceAs (Resets (releasedPass env _))

instance (packet : DhcpMsg) : Resets (ifchangeBind env packet) := by
  unfold ifchangeBind
  infer_instance

set_option synthInstance.maxSize 256 in
instance : Resets (arpLeaseObtained env cfg) := by
  unfold arpLeaseObtained stopDhcpListen
  infer_instance

instance (nowts : Int) : Resets (arpCollisionTimeout env cfg nowts) := by
  unfold arpCollisionTimeout arpIpAnonPing arpSend
  infer_instance

/-! ### Ways out of the phase -/

end

/-- A jump is made with `P` of its label. -/
def JumpsWith (P : Label → Sys → Prop) (e : Stop) (t : Sys) : Prop := ∀ l, e = .goto l → P l t

/-- What `reinit_selecting` and `print_release` bring about before their jumps. -/
class ExitsWith (env : Env) (P : Label → Sys → Prop) : Prop where
  reinit : ∀ timeout s, wp (reinitSelecting env timeout) (fun _ t => P .reinit t) (fun _ _ => True) s
  released : ∀ s, wp printRelease (fun _ t => P .released t) (fun _ _ => True) s

section
variable {α : Type} (env : Env) (cfg : ClientConfig) (inp : Input) (P : Label → Sys → Prop)

instance (priority := low) (m : M α) [h : Routine core Dies m] : Leaves (JumpsWith P) m where
  ends s _ := by
    apply wp_mono _ _ s _ _ _ (h.ends s) (fun _ _ _ => trivial)
    rintro e t ⟨rfl, -⟩ l h
    cases h

instance (code : Int) (pc : Pc) : Leaves (JumpsWith P) (scrReturn code pc : M α) where
  ends s _ := by
    intro l h
    cases h

instance (e : Effect) : Leaves (JumpsWith P) (emit e) := ⟨fun _ _ => trivial⟩

instance : Leaves (JumpsWith P) (ifchangeDeconfig env) := by
  unfold ifchangeDeconfig
  infer_instance

set_option synthInstance.maxSize 256 in
instance (packet : DhcpMsg) : Leaves (JumpsWith P) (arpCheck env cfg packet) := by
  unfold arpCheck
  infer_instance

/-- A subroutine is called that makes no jump. -/
theorem wp_jump_sub {β : Type} (m : M β) (k : β → M α) [Routine core Dies m] (Q : α → Sys → Prop)
    (R : β → Sys → Prop) (s : Sys) (hm : wp m R (fun _ _ => True) s)
    (hk : ∀ b t, R b t → wp (k b) Q (JumpsWith P) t) : wp (m >>= k) Q (JumpsWith P) s := by
  apply wp_sub_of _ _ s _ _ ?_ (fun _ _ => nofun)
  exact wp_mono _ _ s _ _ _ hm hk (fun _ _ h => h)

variable [hexits : ExitsWith env P]

instance (timeout : Int) : Leaves (JumpsWith P) (restart env timeout : M α) where
  ends s _ := by
    unfold restart
    apply wp_jump_sub _ _ _ _ _ s (hexits.reinit timeout s)
    rintro _ t ht l h
    cases h
    exact ht

instance : Leaves (JumpsWith P) (boundSignal env inp) := by
  unfold boundSignal
  split
  · constructor
    intro s _
    apply wp_jump_sub _ _ _ _ (fun r t => r = 0 → P .released t)
    · unfold xmitRelease
      apply wp_bind_all _ _ s _ _ _ (fun _ _ => trivial)
      intro r t
      rw [wp_ite]
      split
      · exact fun h => absurd h (by decide)
      · rw [wp_bind]
        exact wp_mono _ _ t _ _ _ (hexits.released t) (fun _ _ h _ => h) (fun _ _ h => h)
    · intro r t ht
      rw [wp_ite]
      split
      · intro l h
        cases h
      · next hr =>
        intro l h
        cases h
        exact ht (not_not.mp hr)
  · infer_instance

theorem extendPacket_rejects (packet : DhcpMsg) (msgtype : UInt8) (s : Sys) :
    wp (extendPacket env packet msgtype) (fun r t => r = .rejected → P .reinit t) (JumpsWith P) s := by
  unfold extendPacket
  rw [wp_bind, wp_get, wp_ite]
  split
  · rw [wp_ite]
    split
    · exact nofun
    · show wp (if packet.yiaddr ≠ s.cs.clientAddr then pure Anp.checkIp else _) _ _
        (withLease env packet s)
      rw [wp_ite]
      split
      · exact nofun
      · exact wp_jump_sub _ _ _ _ (fun _ _ => True) _
          (wp_all _ _ _ _ (fun _ _ => trivial) (fun _ _ => trivial)) (fun _ _ _ => nofun)
  · rw [wp_ite]
    split
    · rw [wp_ite]
      split
      · exact nofun
      · exact wp_jump_sub _ _ _ _ _ s (hexits.reinit 3000 s) (fun _ _ ht _ => ht)
    · exact nofun

instance : Leaves (JumpsWith P) (boundDhcp env cfg inp) where
  ends s _ := by
    unfold boundDhcp
    rw [wp_bind, wp_get, wp_ite]
    split
    · rw [wp_bind]
      apply wp_mono _ _ s _ _ _ (extendPacket_rejects env P _ _ s) ?_ (fun _ _ h => h)
      intro r t ht
      rw [wp_ite]
      split
      · trivial
      · rw [wp_ite]
        split
        · next hr =>
          intro l h
          cases h
          exact ht hr
        · exact Upholds.ends t trivial
    · trivial

/-- Where the lease is given up, `reinit_selecting` was called. -/
theorem leaseTimeout_expires (nowts : Int) (s : Sys) :
    wp (leaseTimeout env nowts) (fun r t => r = .expired → P .reinit t) (fun _ _ => True) s := by
  have hextend : ∀ site send limit, [Routine core Dies send] → wp (requestExtension env site send limit nowts)
      (fun r t => r = .expired → P .reinit t) (fun _ _ => True) s := by
    intro site send limit _
    apply wp_mono _ _ s _ _ _ (requestExtension_not_expired env nowts site send limit False s) ?_ (fun _ _ h => h)
    exact fun _ _ h hexp => (h hexp).elim
  have hrebind : wp (rebindingTimeout env nowts) (fun r t => r = .expired → P .reinit t) (fun _ _ => True) s := by
    unfold rebindingTimeout
    rw [wp_bind, wp_get, wp_ite]
    split
    · rw [wp_bind]
      exact wp_mono _ _ s _ _ _ (hexits.reinit 0 s) (fun _ _ h _ => h) (fun _ _ h => h)
    · exact hextend _ _ _
  have hrenew : wp (renewingTimeout env nowts) (fun r t => r = .expired → P .reinit t) (fun _ _ => True) s := by
    unfold renewingTimeout
    rw [wp_bind, wp_get, wp_ite]
    split
    · exact hrebind
    · exact hextend _ _ _
  unfold leaseTimeout boundTimeout
  rw [wp_bind, wp_get, wp_ite]
  split
  · exact hrebind
  · rw [wp_ite]
    split
    · exact hrenew
    · rw [wp_bind, wp_get, wp_ite]
      split
      · exact nofun
      · exact hrenew

instance : Leaves (JumpsWith P) (boundTimer env inp) := by
  unfold boundTimer
  split
  · constructor
    intro s _
    apply wp_jump_sub _ _ _ _ _ s (leaseTimeout_expires env P inp.nowts s)
    intro r t ht
    cases r with
    | wait =>
      intro l h
      cases h
    | expired =>
      intro l h
      cases h
      exact ht rfl
    | hardfail =>
      intro l h
      cases h
  · infer_instance

instance : Leaves (JumpsWith P) (gwLost env) := by
  unfold gwLost
  infer_instance

instance : Leaves (JumpsWith P) (boundDefense env cfg) := by
  unfold boundDefense
  infer_instance

instance : Leaves (JumpsWith P) (boundGwQuery env cfg) := by
  unfold boundGwQuery
  infer_instance

instance : Leaves (JumpsWith P) (boundGwCheck env cfg) := by
  unfold boundGwCheck
  infer_instance

instance : Leaves (JumpsWith P) (boundArp env cfg inp) := by
  unfold boundArp
  infer_instance

instance : Leaves (JumpsWith P) (boundGwTimeout env inp) := by
  unfold boundGwTimeout
  infer_instance

instance : Leaves (JumpsWith P) (boundArpTimeout env inp) := by
  unfold boundArpTimeout
  infer_instance

instance : Leaves (JumpsWith P) (boundIfup env inp) := by
  unfold boundIfup
  infer_instance

set_option synthInstance.maxSize 256 in
instance : Leaves (JumpsWith P) (boundPass env cfg inp) := by
  unfold boundPass
  infer_instance

end

instance (env : Env) : ExitsWith env fun _ t => alarms t = noAlarms where
  reinit timeout s := wp_mono _ _ s _ _ _ (reinitSelecting_resets env timeout s) (fun _ _ h => h) (fun _ _ _ => trivial)
  released s := wp_mono _ _ s _ _ _ (printRelease_resets s) (fun _ _ h => h) (fun _ _ _ => trivial)

section
variable (env : Env) (cfg : ClientConfig) (inp : Input)

/-! ### Calls and runs -/

/-- There are no traces of a lease, or there is one. -/
def Clear (s : Sys) : Prop := traces s = noTraces ∨ InLease s ∨ s.pc = .dead

/-- What follows on the taking of a lease. -/
def bindTail : M Unit := do
  let _ ← arpQueryGateway env
  let _ ← arpAnnounce env
  scrReturn COR_SUCCESS .bound

/-- `I` holds at the end, or the call goes on without traces. -/
def EndsIn (I : Sys → Prop) : Stop → Sys → Prop
  | .goto _, t => traces t = noTraces
  | _, t => I t

section
variable {κ : Type} (g : Alarms → κ) (I : Sys → Prop)

/-- `I` holds at the end, or the call goes on with `g` of the alarms as a reset leaves it. -/
def EndsReset : Stop → Sys → Prop
  | .goto _, t => g (alarms t) = g noAlarms
  | _, t => I t

/-- The lease is taken, or the process ends. -/
theorem wp_bindTail_reset (hdead : ∀ t, t.pc = .dead → I t) (u : Sys)
    (h : wp (arpQueryGateway env) (fun _ v => wp (arpAnnounce env) (fun _ w => I { w with pc := .bound })
      (fun _ _ => True) v) (fun _ _ => True) u) : wp (bindTail env) (fun _ _ => False) (EndsReset g I) u := by
  have hdie : ∀ v t, core t = { core v with pc := .dead } → EndsReset g I .exit t :=
    fun _ t ht => hdead t (congrArg Core.pc ht)
  unfold bindTail
  apply wp_sub_of _ _ u _ _ ?_ (hdie u)
  apply wp_mono _ _ u _ _ _ h ?_ (fun _ _ h => h)
  intro _ v hv
  apply wp_sub_of _ _ v _ _ ?_ (hdie v)
  exact hv

variable (hclear : ∀ t, g (alarms t) = g noAlarms → I t)
include hclear

theorem EndsReset.of_clear (e : Stop) (t : Sys) (ht : g (alarms t) = g noAlarms) : EndsReset g I e t := by
  cases e with
  | ret => exact hclear t ht
  | goto => exact ht
  | exit => exact hclear t ht

theorem endsReset_of_resets (m : M Unit) [Resets m] (s : Sys) (hs : g (alarms s) = g noAlarms) :
    wp m (fun _ t => I t) (EndsReset g I) s :=
  wp_mono _ _ s _ _ _ (resets_keep g m s hs) (fun _ t ht => hclear t ht) (EndsReset.of_clear g I hclear)

theorem follow_rule (n : Nat) (m : M Unit) (s : Sys) (hm : wp m (fun _ t => I t) (EndsReset g I) s) :
    wp (follow env cfg inp n m) (fun _ t => I t) (fun _ t => I t) s := by
  have hends := wp_follow_ends env cfg inp (fun _ t => I t) (EndsReset g I)
    (fun l => endsReset_of_resets g I hclear (target env cfg inp l)) n m s hm
  apply wp_mono _ _ s _ _ _ hends (fun _ _ h => h)
  intro e t ht
  cases e with
  | ret => exact ht
  | goto => exact hclear t ht
  | exit => exact ht

theorem wp_resets {β : Type} (m : M β) (k : β → M Unit) [Resets m]
    (Q : Unit → Sys → Prop) (s : Sys) (hs : g (alarms s) = g noAlarms)
    (hk : ∀ b t, g (alarms t) = g noAlarms → wp (k b) Q (EndsReset g I) t) :
    wp (m >>= k) Q (EndsReset g I) s := by
  rw [wp_bind]
  exact wp_mono _ _ s _ _ _ (resets_keep g m s hs) hk (EndsReset.of_clear g I hclear)

/-- A pass of the probing loop leaves the alarms reset, or a lease is taken. -/
theorem probingPass_rule (s : Sys) (hs : g (alarms s) = g noAlarms)
    (hbind : ∀ u, g (alarms u) = g noAlarms → wp (bindTail env) (fun _ _ => False) (EndsReset g I) u) :
    wp (probingPass env cfg inp) (fun _ t => I t) (EndsReset g I) s := by
  unfold probingPass probingArpTimeout
  apply wp_resets g I hclear _ _ _ s hs
  intro _ t ht
  apply wp_resets g I hclear _ _ _ t ht
  intro _ u hu
  rw [wp_bind, wp_ite]
  split
  · apply wp_resets g I hclear _ _ _ u hu
    intro r v hv
    cases r with
    | free => exact wp_mono _ _ v _ _ _ (hbind v hv) (fun _ _ h => h.elim) (fun _ _ h => h)
    | ok => exact endsReset_of_resets g I hclear (requestTimer env inp .probing) v hv
    | conflict => exact hclear { v with pc := .dead } hv
    | fail => exact hclear { v with pc := .probing } hv
  · exact endsReset_of_resets g I hclear (requestTimer env inp .probing) u hu

/-- **A call, by what it does with a lease.**  What holds with the alarms reset, of a lease just
taken and after a pass of the BOUND loop holds after every call. -/
theorem dhcpHandle_reset_rule (s : Sys) (hs : g (alarms s) = g noAlarms ∨ InLease s ∨ s.pc = .dead)
    (hdead : ∀ t, t.pc = .dead → I t)
    (hbind : ∀ u, g (alarms u) = g noAlarms → wp (bindTail env) (fun _ _ => False) (EndsReset g I) u)
    (hbound : s.pc = .bound → wp (boundPass env cfg inp) (fun _ _ => True) (Returning I)
      { s with out := [] }) :
    I (final (dhcpHandle env cfg inp) s) := by
  apply final_of_wp _ s
  rw [wp_dhcpHandle env cfg inp _ _ s s.pc rfl]
  apply follow_rule env cfg inp g I hclear
  have hstart : s.pc ≠ .bound → s.pc ≠ .newlease → s.pc ≠ .dead →
      g (alarms { s with out := [] }) = g noAlarms := by
    intro hbound hnew hdead
    rcases hs with hs | (hs | hs) | hs
    · exact hs
    · exact absurd hs hbound
    · exact absurd hs hnew
    · exact absurd hs hdead
  have hends := boundPass_ends env cfg inp s { s with out := [] } rfl rfl
  generalize ({ s with out := [] } : Sys) = u at hstart hbound hends ⊢
  cases hpc : s.pc with
  | init =>
    rw [hpc] at hstart
    exact endsReset_of_resets g I hclear (reinitPass env cfg inp) u (hstart nofun nofun nofun)
  | selecting =>
    rw [hpc] at hstart
    exact endsReset_of_resets g I hclear (selectingPass env cfg inp) u (hstart nofun nofun nofun)
  | requesting =>
    rw [hpc] at hstart
    exact endsReset_of_resets g I hclear (requestingPass env cfg inp) u (hstart nofun nofun nofun)
  | probing =>
    rw [hpc] at hstart
    exact probingPass_rule env cfg inp g I hclear u (hstart nofun nofun nofun) hbind
  | bound =>
    have hjump := Upholds.ends (P := fun _ => True) (E := JumpsWith fun _ t => alarms t = noAlarms)
      (m := boundPass env cfg inp) u trivial
    have hret := hbound hpc
    apply wp_mono _ _ u _ _ _ (wp_and _ _ u _ _ _ hends (wp_and _ _ u _ _ _ hjump hret))
    · exact fun _ _ h => h.1.elim
    · rintro e t ⟨hend, hj, hr⟩
      cases e with
      | ret code => exact hr code rfl
      | goto l => exact congrArg g (hj l rfl)
      | exit => exact hdead t hend.2
  | newlease =>
    exact wp_mono _ _ u _ _ _ (restart_resets env 0 u) (fun _ _ h => h.elim)
      (fun e t h => EndsReset.of_clear g I hclear e t (congrArg g h))
  | released =>
    rw [hpc] at hstart
    exact endsReset_of_resets g I hclear (releasedPass env inp) u (hstart nofun nofun nofun)
  | dead => exact hdead _ rfl

end

section
variable (I : Sys → Prop)

theorem endsReset_traces (e : Stop) (t : Sys) : EndsReset tracesOf I e t ↔ EndsIn I e t := by
  cases e <;> exact Iff.rfl

theorem wp_bindTail (hdead : ∀ t, t.pc = .dead → I t) (u : Sys)
    (h : wp (arpQueryGateway env) (fun _ v => wp (arpAnnounce env) (fun _ w => I { w with pc := .bound })
      (fun _ _ => True) v) (fun _ _ => True) u) : wp (bindTail env) (fun _ _ => False) (EndsIn I) u :=
  wp_mono _ _ u _ _ _ (wp_bindTail_reset env tracesOf I hdead u h) (fun _ _ h => h)
    (fun e t => (endsReset_traces I e t).mp)

/-- The same for what is left in traces. -/
theorem dhcpHandle_rule (hclear : ∀ t, traces t = noTraces → I t) (s : Sys) (hs : Clear s)
    (hdead : ∀ t, t.pc = .dead → I t)
    (hbind : ∀ u, traces u = noTraces → wp (bindTail env) (fun _ _ => False) (EndsIn I) u)
    (hbound : s.pc = .bound → wp (boundPass env cfg inp) (fun _ _ => True) (Returning I)
      { s with out := [] }) :
    I (final (dhcpHandle env cfg inp) s) :=
  dhcpHandle_reset_rule env cfg inp tracesOf I hclear s hs hdead
    (fun u hu => wp_mono _ _ u _ _ _ (hbind u hu) (fun _ _ h => h) (fun e t => (endsReset_traces I e t).mpr)) hbound

end

/-- Where no lease is held, `g` of the alarms is as a reset leaves it. -/
def ResetOutside {κ : Type} (g : Alarms → κ) (s : Sys) : Prop :=
  g (alarms s) = g noAlarms ∨ InLease s ∨ s.pc = .dead

theorem dhcpHandle_resetOutside {κ : Type} (g : Alarms → κ) (s : Sys) (hs : ResetOutside g s) :
    ResetOutside g (final (dhcpHandle env cfg inp) s) := by
  apply dhcpHandle_reset_rule env cfg inp g (ResetOutside g) (fun _ => Or.inl) s hs
    (fun _ h => Or.inr (Or.inr h))
  · intro u _
    apply wp_bindTail_reset env g (ResetOutside g) (fun _ h => Or.inr (Or.inr h)) u
    apply wp_all _ _ u _ ?_ (fun _ _ => trivial)
    intro _ v
    exact wp_all _ _ v _ (fun _ _ => Or.inr (Or.inl (Or.inl rfl))) (fun _ _ => trivial)
  · intro _
    apply wp_mono _ _ _ _ _ _ (boundPass_ends env cfg inp s { s with out := [] } rfl rfl)
      (fun _ _ h => h.elim)
    rintro _ t h code rfl
    exact Or.inr (Or.inl (h.2.2.imp_right And.left))

instance (stale : ArpMsg) (rd : ReadResult) :
    Resets (arpPacketGet env cfg stale rd) := by
  cases rd with
  | again => exact inferInstanceAs (Resets (pure false))
  | error =>
    unfold arpPacketGet
    infer_instance
  | data frame =>
    unfold arpPacketGet
    infer_instance

instance (ck : NetChecksum) (rd : ReadResult) (buf : DhcpMsg) :
    Resets (dhcpPacketGet env cfg ck rd buf) := by
  unfold dhcpPacketGet stopDhcpListen
  infer_instance

end

section
variable (cfg : ClientConfig)

theorem Step.resetOutside {κ : Type} (g : Alarms → κ) (st : Step) (s : Sys) (hs : ResetOutside g s) :
    ResetOutside g (st.next cfg s) := by
  by_cases hhandle : ∃ env inp, st = .handle env inp
  · obtain ⟨env, inp, rfl⟩ := hhandle
    exact dhcpHandle_resetOutside env cfg inp g s hs
  · obtain ⟨pc, hcore, hpc⟩ := st.core_of_read cfg s fun env inp h => hhandle ⟨env, inp, h⟩
    have hnext : (st.next cfg s).pc = pc := congrArg Core.pc hcore
    rcases hs with hs | hs | hs
    · left
      cases st with
      | idle => exact hs
      | exit => exact hs
      | arp env stale rd =>
        exact final_of_wp _ _ (fun t => g (alarms t) = g noAlarms)
          (resets_keep g (arpPacketGet env cfg stale rd) { s with out := [] } hs)
      | dhcp env ck rd buf =>
        exact final_of_wp _ _ (fun t => g (alarms t) = g noAlarms)
          (resets_keep g (dhcpPacketGet env cfg ck rd buf) { s with out := [] } hs)
      | handle env inp => exact absurd ⟨env, inp, rfl⟩ hhandle
    · right
      unfold InLease
      rw [hnext]
      rcases hpc with rfl | rfl
      · exact Or.inl hs
      · exact Or.inr rfl
    · right
      right
      rw [hnext]
      rcases hpc with rfl | rfl
      · exact hs
      · rfl

/-- **Between two leases the alarms are reset.** -/
theorem reset_outside (b : Startup) (steps : List Step) : ResetOutside id (run cfg steps (.start b)) := by
  have hrun : ∀ s, ResetOutside id s → ResetOutside id (run cfg steps s) := by
    induction steps with
    | nil => exact fun _ hs => hs
    | cons st steps ih => exact fun s hs => ih _ (st.resetOutside cfg id s hs)
  exact hrun _ (Or.inl rfl)

theorem Step.clear (st : Step) (s : Sys) (hs : Clear s) : Clear (st.next cfg s) :=
  st.resetOutside cfg tracesOf s hs

theorem clear_outside (b : Startup) (steps : List Step) : Clear (run cfg steps (.start b)) :=
  (reset_outside cfg b steps).imp_left (congrArg tracesOf)

end

end Ndhc
