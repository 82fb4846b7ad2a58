import Ndhc.Client.ArpSocket
import Ndhc.Client.Forced
import Ndhc.Client.Revalidation

/-!
# Phases and descriptors

Which sockets are open and which timers armed is set piecemeal, by the functions that lead from
one state of `dhcp_handle` to the next.  `Agree` says what each state relies on; every way out of a
pass re-establishes it for the state it leads to (`AgreeEnds`), so that it holds whenever a call
returns (`descriptors_agree`).  In the phase with a lease the listening socket opens with a
request and stays open until the answer is accepted.
-/

namespace Ndhc

open Prog

/-! ## Agreement -/

section
variable (closed : Int → Prop)

/-- Asking for an address: the client listens, and ARP is not in use. -/
def Seeking (s : Sys) : Prop := 0 ≤ s.cs.listenFd ∧ closed s.cs.arpFd ∧ s.garp.wakeTs = .unarmed

/-- Probing an address: the client listens, and to ARP replies as well. -/
def Probes (s : Sys) : Prop := 0 ≤ s.cs.listenFd ∧ 0 ≤ s.cs.arpFd ∧ s.cs.arpIsDefense = false

/-- Nothing is open and nothing armed. -/
def Resting (s : Sys) : Prop :=
  s.cs.listenFd = -1 ∧ closed s.cs.arpFd ∧ s.cs.dhcpWakeTs = -1 ∧ s.garp.wakeTs = .unarmed

/-- The descriptors and timers fit the state, with `closed` for an ARP socket that is not open. -/
def Agree (s : Sys) : Prop :=
  match s.pc with
  | .init => Seeking closed s
  | .selecting => Seeking closed s
  | .requesting => Seeking closed s
  | .probing => Probes s
  | .released => Resting closed s
  | .bound => True
  | .newlease => True
  | .dead => True

end

/-- A pass ends in agreement, or jumps to a pass that will. -/
def AgreeEnds : Stop → Sys → Prop
  | .ret _, t => Agree (· < 0) t
  | .goto .released, t => Resting (· < 0) t
  | .goto _, t => Seeking (· < 0) t
  | .exit, t => t.pc = .dead

/-- The process ends. -/
def Died (e : Stop) (t : Sys) : Prop := e = .exit ∧ t.pc = .dead

theorem Died.agrees (e : Stop) (t : Sys) (h : Died e t) : AgreeEnds e t := by
  obtain ⟨rfl, ht⟩ := h
  exact ht

theorem agree_of_dead (closed : Int → Prop) (t : Sys) (h : t.pc = .dead) : Agree closed t := by
  unfold Agree
  rw [h]
  trivial

/-! ## Subroutines -/

/-- What `f` shows is kept, or the process ends. -/
abbrev Quiet {α κ : Type} (f : Sys → κ) (v : κ) (m : M α) : Prop := Upholds (fun s => f s = v) Died m

/-- The open sockets. -/
@[reducible] def doors (s : Sys) : Int × Int × Bool := (s.cs.listenFd, s.cs.arpFd, s.cs.arpIsDefense)

/-- The open sockets and the ARP timers. -/
@[reducible] def plugs (s : Sys) : (Int × Int × Bool) × WakeTs := (doors s, s.garp.wakeTs)

instance : Deaf doors := ⟨fun _ _ => rfl⟩

instance : Deaf plugs := ⟨fun _ _ => rfl⟩

section
variable {α κ : Type} (f : Sys → κ) (v : κ) (env : Env) (cfg : ClientConfig) (inp : Input) (site : Site)

instance : Quiet f v (suicide : M α) := ⟨fun _ _ => ⟨rfl, rfl⟩⟩

instance (o : Option α) : Quiet f v (ask o) := by
  cases o <;> (unfold ask; infer_instance)

instance [Deaf f] (e : Effect) : Quiet f v (emit e) := ⟨fun s h => (Deaf.eq s _).trans h⟩

instance [Deaf f] (m : Sent) : Quiet f v (sendDhcp env site m) := by
  unfold sendDhcp
  infer_instance

instance (w : (Int × Int × Bool) × WakeTs) (packet : DhcpMsg) : Quiet plugs w (getLeasetime env packet) :=
  ⟨fun _ h => h⟩

instance (w : (Int × Int × Bool) × WakeTs) (packet : DhcpMsg) (msgtype : UInt8) (srcaddr : UInt32)
    (isRequesting : Bool) : Quiet plugs w (selectingPacket env packet msgtype srcaddr isRequesting) := by
  unfold selectingPacket selectingOffer selectingAck noteServer
  cases getOptionServerid packet <;> infer_instance

instance (w : (Int × Int × Bool) × WakeTs) (nowts : Int) : Quiet plugs w (selectingTimeout env cfg nowts) := by
  unfold selectingTimeout onNoLease freshXid sendDiscover awaitReply
  infer_instance

instance (w : Int × Int × Bool) (sip dip : UInt32) : Quiet doors w (arpSend env site sip dip) := by
  unfold arpSend
  infer_instance

instance (w : Int × Int × Bool) (testIp : UInt32) : Quiet doors w (arpIpAnonPing env testIp) := by
  unfold arpIpAnonPing
  infer_instance

instance (w : Int × Int × Bool) : Quiet doors w (arpDoCollisionCheck env cfg) := by
  unfold arpDoCollisionCheck sendDecline
  infer_instance

/-- A subroutine is called of which nothing else matters. -/
theorem wp_quiet {β : Type} (m : M β) (k : β → M α) [h : ∀ v, Quiet f v m] (Q : α → Sys → Prop) (s : Sys)
    (hk : ∀ b t, f t = f s → wp (k b) Q AgreeEnds t) : wp (m >>= k) Q AgreeEnds s := by
  rw [wp_bind]
  exact wp_mono _ _ s m _ _ ((h (f s)).ends s rfl) hk Died.agrees

end

/-! ## Ways from one state to another -/

section
variable {α : Type} (env : Env) (cfg : ClientConfig) (inp : Input)

theorem startDhcpListen_seeks (site : Site) (s : Sys) (harp : s.cs.arpFd < 0)
    (hwake : s.garp.wakeTs = .unarmed) :
    wp (startDhcpListen env site) (fun _ t => Seeking (· < 0) t) Died s := by
  unfold startDhcpListen
  rw [wp_bind, wp_get, wp_ite]
  split
  · next hfd => exact ⟨hfd, harp, hwake⟩
  · rw [wp_bind]
    cases hr : env.sockd site with
    | none => exact ⟨rfl, rfl⟩
    | some r =>
      show wp (if r.1 < 0 then suicide else pure ()) _ _ _
      rw [wp_ite]
      split
      · exact ⟨rfl, rfl⟩
      · next hfd => exact ⟨not_lt.mp hfd, harp, hwake⟩

theorem arpMinCloseFd_closes (s : Sys) :
    wp arpMinCloseFd (fun _ t => t.cs.listenFd = s.cs.listenFd ∧ t.cs.arpFd < 0) (fun _ _ => False) s := by
  unfold arpMinCloseFd
  rw [wp_bind, wp_get, wp_ite]
  split
  · next h => exact ⟨rfl, h⟩
  · exact ⟨rfl, (by decide : (-1 : Int) < 0)⟩

/-- Whatever was open before. -/
theorem reinitSharedDeconfig_closes (s : Sys) :
    wp reinitSharedDeconfig (fun _ t => t.cs.arpFd < 0 ∧ t.garp.wakeTs = .unarmed) (fun _ _ => False) s := by
  unfold reinitSharedDeconfig arpResetState arpCloseFd
  rw [wp_bind, wp_modify, wp_bind, wp_bind]
  exact wp_mono _ _ _ _ _ _ (arpMinCloseFd_closes _) (fun _ _ h => ⟨h.2, rfl⟩) (fun _ _ h => h)

theorem reinitSelecting_seeks (timeout : Int) (s : Sys) :
    wp (reinitSelecting env timeout) (fun _ t => Seeking (· < 0) t) Died s := by
  unfold reinitSelecting
  rw [wp_bind]
  apply wp_mono _ _ s _ _ _ (reinitSharedDeconfig_closes s) _ (fun _ _ h => h.elim)
  intro _ t ht
  rw [wp_bind, wp_modify]
  exact startDhcpListen_seeks env .reinitSelecting _ ht.1 ht.2

theorem restart_seeks (timeout : Int) (s : Sys) :
    wp (restart env timeout : M α) (fun _ _ => False) AgreeEnds s := by
  unfold restart
  rw [wp_bind]
  exact wp_mono _ _ s _ _ _ (reinitSelecting_seeks env timeout s) (fun _ _ h => h) Died.agrees

theorem printRelease_rests (s : Sys) :
    wp printRelease (fun _ t => Resting (· < 0) t) (fun _ _ => False) s := by
  unfold printRelease
  rw [wp_bind]
  apply wp_mono _ _ s _ _ _ (reinitSharedDeconfig_closes s) _ (fun _ _ h => h)
  exact fun _ t ht => ⟨rfl, ht.1, rfl, ht.2⟩

/-- A release signal before there is a lease. -/
theorem onRelease_ends (s : Sys) : wp (onRelease inp) (fun _ t => t = s) AgreeEnds s := by
  unfold onRelease
  rw [wp_ite]
  split
  · rw [wp_bind]
    exact wp_mono _ _ s _ _ _ (printRelease_rests s) (fun _ _ h => h) (fun _ _ h => h.elim)
  · rfl

/-! ## SELECTING and REQUESTING -/

theorem Seeking.of_plugs (s t : Sys) (h : Seeking (· < 0) s) (hp : plugs t = plugs s) :
    Seeking (· < 0) t := by
  have hd : doors t = doors s := congrArg Prod.fst hp
  have hlisten : t.cs.listenFd = s.cs.listenFd := congrArg Prod.fst hd
  have harp : t.cs.arpFd = s.cs.arpFd := congrArg (fun d => d.2.1) hd
  have hwake : t.garp.wakeTs = s.garp.wakeTs := congrArg Prod.snd hp
  unfold Seeking
  rw [hlisten, harp, hwake]
  exact h

theorem selectingPass_agrees (s : Sys) (hs : Seeking (· < 0) s) :
    wp (selectingPass env cfg inp) (fun _ _ => False) AgreeEnds s := by
  unfold selectingPass
  rw [wp_bind]
  apply wp_mono _ _ s _ _ _ (onRelease_ends inp s) _ (fun _ _ h => h)
  rintro _ t rfl
  have htimer : ∀ u, Seeking (· < 0) u → wp (selectingTimer env cfg inp) (fun _ _ => False) AgreeEnds u := by
    intro u hu
    unfold selectingTimer
    rw [wp_ite]
    split
    · apply wp_quiet plugs
      intro r v hv
      rw [wp_ite]
      split
      · exact hu.of_plugs u v hv
      · exact hu.of_plugs u v hv
    · exact hu
  rw [wp_bind]
  unfold selectingDhcp
  rw [wp_ite]
  split
  · apply wp_quiet plugs
    intro r u hu
    rw [wp_ite]
    split
    · exact hs.of_plugs t u hu
    · exact htimer u (hs.of_plugs t u hu)
  · exact htimer t hs

/-- Five requests were without answer and the client starts over, or one more is sent. -/
theorem requestingTimeout_agrees (nowts : Int) (s : Sys) :
    wp (requestingTimeout env nowts)
      (fun r t => (r = .timeout ∧ Seeking (· < 0) t) ∨ (r ≠ .timeout ∧ plugs t = plugs s)) Died s := by
  unfold requestingTimeout
  rw [wp_bind, wp_get, wp_ite]
  split
  · rw [wp_bind]
    exact wp_mono _ _ s _ _ _ (reinitSelecting_seeks env 0 s) (fun _ _ h => Or.inl ⟨rfl, h⟩) (fun _ _ h => h)
  · unfold sendSelecting
    rw [wp_bind, wp_bind, wp_get]
    apply wp_mono _ _ s _ _ _ (Upholds.ends (P := fun t => plugs t = plugs s) (E := Died) s rfl) _ (fun _ _ h => h)
    intro r t ht
    rw [wp_ite]
    split
    · exact Or.inr ⟨by decide, ht⟩
    · exact Or.inr ⟨by decide, ht⟩

theorem requestTimer_agrees (pc : Pc) (s : Sys) (hret : ∀ t, plugs t = plugs s → Agree (· < 0) { t with pc := pc }) :
    wp (requestTimer env inp pc) (fun _ _ => False) AgreeEnds s := by
  unfold requestTimer
  rw [wp_ite]
  split
  · rw [wp_bind]
    apply wp_mono _ _ s _ _ _ (requestingTimeout_agrees env inp.nowts s) _ Died.agrees
    intro r t ht
    cases r with
    | timeout => exact ht.elim And.right fun h => absurd rfl h.1
    | success => exact hret t (ht.elim (fun h => nomatch h.1) And.right)
    | fail => exact hret t (ht.elim (fun h => nomatch h.1) And.right)
  · exact hret s rfl

/-- The ARP socket is open in the mode asked for, and the listening socket is left alone. -/
theorem arpOpenFd_opens (site : Site) (defense : Bool) (s : Sys) :
    wp (arpOpenFd env site defense)
      (fun r t => t.cs.listenFd = s.cs.listenFd ∧
        (¬ r < 0 → 0 ≤ t.cs.arpFd ∧ t.cs.arpIsDefense = defense)) Died s := by
  unfold arpOpenFd
  rw [wp_bind, wp_get, wp_ite]
  split
  · next h => exact ⟨rfl, fun _ => ⟨h.1, h.2.symm⟩⟩
  · rw [wp_bind]
    apply wp_mono _ _ s _ _ _ (arpMinCloseFd_closes s) _ (fun _ _ h => h.elim)
    intro _ t ht
    rw [wp_bind]
    cases env.sockd site with
    | none => exact ⟨rfl, rfl⟩
    | some r =>
      show wp (if r.1 < 0 then pure (-1) else pure 0) _ _ _
      rw [wp_ite]
      split
      · exact ⟨ht.1, fun h => absurd (by decide) h⟩
      · next hr => exact ⟨ht.1, fun _ => ⟨not_lt.mp hr, rfl⟩⟩

theorem arpCheck_probes (packet : DhcpMsg) (s : Sys) (hs : 0 ≤ s.cs.listenFd) :
    wp (arpCheck env cfg packet) (fun r t => ¬ r < 0 → Probes t) Died s := by
  unfold arpCheck
  rw [wp_bind, wp_modify, wp_bind]
  apply wp_mono _ _ _ _ _ _ (arpOpenFd_opens env .arpCheckOpen false _) _ (fun _ _ h => h)
  intro r t ht
  rw [wp_ite]
  split
  · exact fun h => absurd (by decide) h
  · next hr =>
    have hprobes : Probes t := by
      obtain ⟨hlisten, hopen⟩ := ht
      exact ⟨by rw [hlisten]; exact hs, hopen hr⟩
    rw [wp_bind]
    apply wp_mono _ _ t _ _ _ (Upholds.ends (P := fun u => doors u = doors t) (E := Died) t rfl) _ (fun _ _ h => h)
    intro r u hu
    have hprobes' : Probes u := by
      unfold Probes
      rw [show u.cs.listenFd = t.cs.listenFd from congrArg Prod.fst hu,
        show u.cs.arpFd = t.cs.arpFd from congrArg (fun d => d.2.1) hu,
        show u.cs.arpIsDefense = t.cs.arpIsDefense from congrArg (fun d => d.2.2) hu]
      exact hprobes
    rw [wp_ite]
    split
    · exact fun h => absurd (by decide) h
    · exact fun _ => hprobes'

theorem requestingPass_agrees (s : Sys) (hs : Seeking (· < 0) s) :
    wp (requestingPass env cfg inp) (fun _ _ => False) AgreeEnds s := by
  unfold requestingPass
  rw [wp_bind]
  apply wp_mono _ _ s _ _ _ (onRelease_ends inp s) _ (fun _ _ h => h)
  rintro _ t rfl
  have htimer : ∀ u, plugs u = plugs t → wp (requestTimer env inp .requesting) (fun _ _ => False) AgreeEnds u :=
    fun u hu => requestTimer_agrees env inp .requesting u fun v hv => hs.of_plugs t v (hv.trans hu)
  rw [wp_bind]
  unfold requestingDhcp
  rw [wp_ite]
  split
  · apply wp_quiet plugs
    intro r u hu
    rw [wp_ite]
    split
    · exact htimer u hu
    · rw [wp_ite]
      split
      · rw [wp_bind]
        apply wp_mono _ _ u _ _ _ (arpCheck_probes env cfg _ u (hs.of_plugs t u hu).1) _ Died.agrees
        intro r v hv
        rw [wp_ite]
        split
        · exact wp_mono _ _ v _ _ _ (restart_seeks env 3000 v) (fun _ _ h => h.elim) (fun _ _ h => h)
        · next hr => exact hv hr
      · exact rfl
  · exact htimer t rfl

/-! ## Probing -/

theorem Probes.of_doors (s t : Sys) (h : Probes s) (hd : doors t = doors s) : Probes t := by
  have hlisten : t.cs.listenFd = s.cs.listenFd := congrArg Prod.fst hd
  have harp : t.cs.arpFd = s.cs.arpFd := congrArg (fun d => d.2.1) hd
  have hmode : t.cs.arpIsDefense = s.cs.arpIsDefense := congrArg (fun d => d.2.2) hd
  unfold Probes
  rw [hlisten, harp, hmode]
  exact h

/-- The lease is taken, or the sockets stay as they are. -/
theorem arpCollisionTimeout_agrees (nowts : Int) (s : Sys) :
    wp (arpCollisionTimeout env cfg nowts) (fun r t => r = .free ∨ doors t = doors s) Died s := by
  unfold arpCollisionTimeout
  rw [wp_bind, wp_get, wp_ite]
  split
  · exact wp_mono _ _ s _ _ _ (arpLeaseObtained_ends env cfg s) (fun _ _ h => Or.inl h.1)
      (fun _ _ h => ⟨h.1, h.2.1⟩)
  · rw [wp_ite]
    split
    · exact Or.inr rfl
    · rw [wp_bind]
      apply wp_mono _ _ s _ _ _ (Upholds.ends (P := fun t => doors t = doors s) (E := Died) s rfl) _ (fun _ _ h => h)
      intro r t ht
      rw [wp_ite]
      split
      · exact Or.inr ht
      · exact Or.inr ht

theorem wp_routine_agrees {β : Type} (m : M β) (k : β → M α) [Routine core Dies m] (Q : α → Sys → Prop) (s : Sys)
    (hk : ∀ b t, wp (k b) Q AgreeEnds t) : wp (m >>= k) Q AgreeEnds s :=
  wp_sub _ _ s m k (fun b t _ => hk b t) (fun _ ht => congrArg Core.pc ht)

theorem probingPass_agrees (s : Sys) (hs : Probes s) :
    wp (probingPass env cfg inp) (fun _ _ => False) AgreeEnds s := by
  unfold probingPass
  rw [wp_bind]
  apply wp_mono _ _ s _ _ _ (onRelease_ends inp s) _ (fun _ _ h => h)
  rintro _ t rfl
  have htimer : ∀ u, Probes u → wp (requestTimer env inp .probing) (fun _ _ => False) AgreeEnds u :=
    fun u hu => requestTimer_agrees env inp .probing u fun v hv => hu.of_doors u v (congrArg Prod.fst hv)
  have harp : ∀ u, Probes u → wp (do probingArpTimeout env cfg inp; requestTimer env inp .probing)
      (fun _ _ => False) AgreeEnds u := by
    intro u hu
    rw [wp_bind]
    unfold probingArpTimeout
    rw [wp_ite]
    split
    · rw [wp_bind]
      apply wp_mono _ _ u _ _ _ (arpCollisionTimeout_agrees env cfg inp.nowts u) _ Died.agrees
      intro r v hv
      cases r with
      | free =>
        apply wp_routine_agrees
        intro _ w
        apply wp_routine_agrees
        exact fun _ _ => trivial
      | ok => exact htimer v (hu.of_doors u v (hv.resolve_left (by decide)))
      | fail => exact hu.of_doors u v (hv.resolve_left (by decide))
      | conflict => exact rfl
    · exact htimer u hu
  rw [wp_bind]
  unfold probingArp
  rw [wp_ite]
  split
  · apply wp_quiet doors
    intro r u hu
    have hprobes := hs.of_doors t u hu
    cases r with
    | ok => exact harp u hprobes
    | conflict => exact wp_mono _ _ u _ _ _ (restart_seeks env 0 u) (fun _ _ h => h.elim) (fun _ _ h => h)
    | fail => exact hprobes
    | free => exact rfl
  · exact harp t hs

/-! ## RELEASED -/

theorem releasedPass_agrees (s : Sys) (hs : Resting (· < 0) s) :
    wp (releasedPass env inp) (fun _ _ => False) AgreeEnds s := by
  unfold releasedPass
  rw [wp_ite]
  split
  · unfold frenew
    rw [wp_bind]
    show wp (reinitSelecting env 0 >>= fun _ => pure 0) _ _ s
    rw [wp_bind]
    apply wp_mono _ _ s _ _ _ (reinitSelecting_seeks env 0 s) _ Died.agrees
    exact fun _ _ h => h
  · exact hs

/-! ## The phase with a lease

There is nothing to agree with while it lasts, so only its ways out matter. -/

instance : ExitsWith env fun l t => AgreeEnds (.goto l) t where
  reinit timeout s := wp_mono _ _ s _ _ _ (reinitSelecting_seeks env timeout s) (fun _ _ h => h) (fun _ _ _ => trivial)
  released s := wp_mono _ _ s _ _ _ (printRelease_rests s) (fun _ _ h => h) (fun _ _ _ => trivial)

theorem boundPass_agrees (s : Sys) :
    wp (boundPass env cfg inp) (fun _ _ => True) AgreeEnds { s with out := [] } := by
  have hjump := Upholds.ends (P := fun _ => True) (E := JumpsWith fun l t => AgreeEnds (.goto l) t)
    (m := boundPass env cfg inp) { s with out := [] } trivial
  apply wp_mono _ _ _ _ _ _ (wp_and _ _ _ _ _ _
    (boundPass_ends env cfg inp s { s with out := [] } rfl rfl) hjump) (fun _ _ _ => trivial)
  rintro e t ⟨hend, hj⟩
  cases e with
  | ret code =>
    show Agree (· < 0) t
    unfold Agree
    rcases hend.2.2 with hpc | ⟨hpc, -⟩
    · rw [hpc]
      trivial
    · rw [hpc]
      trivial
  | goto l => exact hj l rfl
  | exit => exact hend.2

/-! ## Calls -/

theorem reinitPass_agrees (s : Sys) (hs : Seeking (· < 0) s) :
    wp (reinitPass env cfg inp) (fun _ _ => False) AgreeEnds s := by
  unfold reinitPass
  rw [wp_bind, wp_modify]
  exact selectingPass_agrees env cfg inp _ hs

theorem target_agrees (l : Label) (s : Sys) (hs : AgreeEnds (.goto l) s) :
    wp (target env cfg inp l) (fun _ _ => False) AgreeEnds s := by
  cases l with
  | reinit => exact reinitPass_agrees env cfg _ s hs
  | requesting => exact requestingPass_agrees env cfg _ s hs
  | released => exact releasedPass_agrees env _ s hs

theorem follow_agrees (n : Nat) (m : M Unit) (s : Sys) (hm : wp m (fun _ _ => True) AgreeEnds s) :
    wp (follow env cfg inp n m) (fun _ _ => True) AgreeEnds s := by
  apply wp_follow_ends env cfg inp _ _ ?_ n m s hm
  intro l t ht
  exact wp_mono _ _ t _ _ _ (target_agrees env cfg inp l t ht) (fun _ _ h => h.elim) (fun _ _ h => h)

theorem resume_agrees (s : Sys) (pc : Pc) (hpc : s.pc = pc) (hs : Agree (· < 0) s) :
    wp (resume env cfg inp pc) (fun _ _ => True) AgreeEnds { s with out := [] } := by
  have pass : ∀ (m : M Unit), wp m (fun _ _ => False) AgreeEnds { s with out := [] } →
      wp m (fun _ _ => True) AgreeEnds { s with out := [] } :=
    fun m h => wp_mono _ _ _ m _ _ h (fun _ _ h => h.elim) (fun _ _ h => h)
  unfold Agree at hs
  rw [hpc] at hs
  cases pc with
  | init => exact pass _ (reinitPass_agrees env cfg inp _ hs)
  | selecting => exact pass _ (selectingPass_agrees env cfg inp _ hs)
  | requesting => exact pass _ (requestingPass_agrees env cfg inp _ hs)
  | probing => exact pass _ (probingPass_agrees env cfg inp _ hs)
  | bound => exact boundPass_agrees env cfg inp s
  | newlease => exact pass _ (restart_seeks env 0 _)
  | released => exact pass _ (releasedPass_agrees env inp _ hs)
  | dead => exact rfl

theorem EndsIdle.no_jump (c : Core) (e : Stop) (t : Sys) (h : EndsIdle c e t) (l : Label) : e ≠ .goto l := by
  rintro rfl
  exact h

/-- From `reinit` and from `released` a call comes to its end. -/
theorem idle_settles (n : Nat) (l : Label) (s : Sys)
    (hl : l = .reinit ∨ (l = .released ∧ inp.sevSignal = .release)) :
    wp (follow env cfg inp (n + 1) (target env cfg inp l)) (fun _ _ => False) (fun e _ => ∀ l, e ≠ .goto l) s := by
  have hcalm : Calm [] (core s) (core s) := Calm.of_core _ _ s.pc rfl
  rcases hl with rfl | ⟨rfl, hsig⟩
  · exact wp_mono _ _ s _ _ _ (reinit_call env cfg inp n (core s) s hcalm) (fun _ _ h => h) (EndsIdle.no_jump _)
  · exact wp_mono _ _ s _ _ _ (released_call env cfg inp (n + 1) (core s) s hcalm hsig) (fun _ _ h => h)
      (EndsIdle.no_jump _)

theorem probing_settles (s : Sys) (hpc : s.pc = .probing) :
    wp (dhcpHandle env cfg inp) (fun _ _ => False) (fun e _ => ∀ l, e ≠ .goto l) s := by
  rw [wp_dhcpHandle env cfg inp _ _ s .probing hpc, wp_follow]
  show wp (probingPass env cfg inp) _ _ _
  by_cases hrec : Recognises cfg inp { s with out := [] }
  · apply wp_mono _ _ _ _ _ _ (probingPass_conflict env cfg inp _ hrec) (fun _ _ h => h)
    intro e t h
    cases e with
    | ret code => exact fun _ => nofun
    | exit => exact fun _ => nofun
    | goto l => exact idle_settles env cfg inp 0 l t (Or.inl h.2.2.1)
  · by_cases hover : WaitOver cfg inp { s with out := [] }
    · apply wp_mono _ _ _ _ _ _ (probingPass_lease env cfg inp _ hrec hover) (fun _ _ h => h)
      intro e t h
      cases e with
      | ret code => exact fun _ => nofun
      | exit => exact fun _ => nofun
      | goto l => exact h.2.elim
    · apply wp_mono _ _ _ _ _ _ (probingPass_probe env cfg inp _ hrec hover) (fun _ _ h => h)
      intro e t h
      match e, h with
      | .ret _, _ => exact fun _ => nofun
      | .exit, _ => exact fun _ => nofun
      | .goto .reinit, _ => exact idle_settles env cfg inp 0 _ t (Or.inl rfl)
      | .goto .released, h => exact idle_settles env cfg inp 0 _ t (Or.inr ⟨rfl, h.2⟩)

theorem bound_settles (s : Sys) (hpc : s.pc = .bound) :
    wp (dhcpHandle env cfg inp) (fun _ _ => False) (fun e _ => ∀ l, e ≠ .goto l) s := by
  rw [wp_dhcpHandle env cfg inp _ _ s .bound hpc, wp_follow]
  apply wp_mono _ _ _ _ _ _ (boundPass_ends env cfg inp s { s with out := [] } rfl rfl) (fun _ _ h => h)
  intro e t h
  match e, h with
  | .ret _, _ => exact fun _ => nofun
  | .exit, _ => exact fun _ => nofun
  | .goto .reinit, _ => exact idle_settles env cfg inp 0 _ t (Or.inl rfl)
  | .goto .released, h => exact idle_settles env cfg inp 0 _ t (Or.inr ⟨rfl, h.2.1⟩)

/-- **No call ends with a jump pending**: two are all it takes. -/
theorem dhcpHandle_settles (s : Sys) :
    wp (dhcpHandle env cfg inp) (fun _ _ => False) (fun e _ => ∀ l, e ≠ .goto l) s := by
  by_cases hprobing : s.pc = .probing
  · exact probing_settles env cfg inp s hprobing
  · by_cases hbound : s.pc = .bound
    · exact bound_settles env cfg inp s hbound
    · apply wp_mono _ _ s _ _ _ (leaseless_call env cfg inp s hprobing hbound) (fun _ _ h => h)
      rintro e t h l rfl
      exact h

theorem dhcpHandle_agrees (s : Sys) (hs : Agree (· < 0) s) :
    Agree (· < 0) (final (dhcpHandle env cfg inp) s) := by
  have hends : wp (dhcpHandle env cfg inp) (fun _ _ => True) AgreeEnds s := by
    rw [wp_dhcpHandle env cfg inp _ _ s s.pc rfl]
    exact follow_agrees env cfg inp 2 _ _ (resume_agrees env cfg inp s s.pc rfl hs)
  apply final_of_wp (dhcpHandle env cfg inp) s fun t => Agree (· < 0) t
  apply wp_mono _ _ s _ _ _ (wp_and _ _ s _ _ _ hends (dhcpHandle_settles env cfg inp s))
  · exact fun _ _ h => h.2.elim
  · intro e t ⟨hagree, hjump⟩
    cases e with
    | ret code => exact hagree
    | exit => exact agree_of_dead _ t hagree
    | goto l => exact absurd rfl (hjump l)

end

/-! ## Reads and runs -/

section
variable (cfg : ClientConfig)

/-- `arp_packet_get` is called for an event of the ARP socket. -/
def Step.Dispatched : Step → Sys → Prop
  | .arp _ _ _, s => 0 ≤ s.cs.arpFd
  | _, _ => True

/-- Without an open ARP socket there is nothing to probe with. -/
theorem Agree.of_arpFd (s t : Sys) (h : Agree (· < 0) s) (hfd : 0 ≤ s.cs.arpFd) (hpc : t.pc = s.pc)
    (hprobes : Probes s → Probes t) : Agree (· < 0) t := by
  unfold Agree at h ⊢
  rw [hpc]
  cases hs : s.pc with
  | probing =>
    rw [hs] at h
    exact hprobes h
  | init => rw [hs] at h; exact absurd h.2.1 (not_lt.mpr hfd)
  | selecting => rw [hs] at h; exact absurd h.2.1 (not_lt.mpr hfd)
  | requesting => rw [hs] at h; exact absurd h.2.1 (not_lt.mpr hfd)
  | released => rw [hs] at h; exact absurd h.2.1 (not_lt.mpr hfd)
  | bound => trivial
  | newlease => trivial
  | dead => trivial

/-- A socket opened again after an error hears replies. -/
theorem arpPacketGet_probes (env : Env) (stale : ArpMsg) (rd : ReadResult) (s : Sys) (hfd : 0 ≤ s.cs.arpFd) :
    wp (arpPacketGet env cfg stale rd) (fun _ t => Probes s → Probes t) (fun _ _ => True) s := by
  cases rd with
  | again => exact id
  | error =>
    unfold arpPacketGet arpMinCloseFd
    rw [wp_bind, wp_bind, wp_get, wp_ite, if_neg (not_lt.mpr hfd), wp_modify, wp_bind, wp_get, wp_bind]
    apply wp_mono _ _ _ _ _ _ (arpOpenFd_opens env .arpReopen false _) _ (fun _ _ _ => trivial)
    intro r t ht
    rw [wp_ite]
    split
    · trivial
    · next hr => exact fun h => ⟨h.1.trans (le_of_eq ht.1.symm), ht.2 hr⟩
  | data frame =>
    unfold arpPacketGet
    rw [wp_bind, wp_get, wp_ite]
    split
    · exact id
    · rw [wp_ite]
      split
      · exact id
      · exact id

/-- The listening socket is still open, and nothing else has changed. -/
theorem Agree.of_listenFd (s t : Sys) (h : Agree (· < 0) s) (hs : 0 ≤ s.cs.listenFd) (ht : 0 ≤ t.cs.listenFd)
    (hpc : t.pc = s.pc) (harp : t.cs.arpFd = s.cs.arpFd) (hmode : t.cs.arpIsDefense = s.cs.arpIsDefense)
    (hwake : t.garp.wakeTs = s.garp.wakeTs) : Agree (· < 0) t := by
  have hseek : Seeking (· < 0) s → Seeking (· < 0) t := by
    rintro ⟨-, h2, h3⟩
    exact ⟨ht, by rw [harp]; exact h2, hwake.trans h3⟩
  have hprobes : Probes s → Probes t := by
    rintro ⟨-, h2, h3⟩
    exact ⟨ht, by rw [harp]; exact h2, hmode.trans h3⟩
  have hrest : Resting (· < 0) s → Resting (· < 0) t := by
    rintro ⟨h1, -⟩
    rw [h1] at hs
    exact absurd hs (by decide)
  unfold Agree at h ⊢
  rw [hpc]
  cases hp : s.pc with
  | init => rw [hp] at h; exact hseek h
  | selecting => rw [hp] at h; exact hseek h
  | requesting => rw [hp] at h; exact hseek h
  | probing => rw [hp] at h; exact hprobes h
  | released => rw [hp] at h; exact hrest h
  | bound => trivial
  | newlease => trivial
  | dead => trivial

theorem dhcpPacketGet_agrees (env : Env) (ck : NetChecksum) (rd : ReadResult) (buf : DhcpMsg) (s : Sys)
    (hs : Agree (· < 0) s) :
    wp (dhcpPacketGet env cfg ck rd buf) (fun _ t => Agree (· < 0) t) (fun _ t => t.pc = .dead) s := by
  unfold dhcpPacketGet
  rw [wp_bind, wp_get, wp_ite]
  split
  · exact hs
  · next hfd =>
    rw [wp_ite]
    split
    · unfold startDhcpListen stopDhcpListen
      rw [wp_bind, wp_modify, wp_bind, wp_bind, wp_get, wp_ite, if_neg (by decide : ¬ (0 : Int) ≤ -1), wp_bind]
      cases env.sockd .dhcpReopen with
      | none => exact rfl
      | some r =>
        show wp (if r.1 < 0 then suicide else pure ()) _ _ _
        rw [wp_ite]
        split
        · exact rfl
        · next hr => exact hs.of_listenFd s _ (not_lt.mp hfd) (not_lt.mp hr) rfl rfl rfl rfl
    · exact hs

theorem Step.agrees (st : Step) (s : Sys) (hd : st.Dispatched s) (hs : Agree (· < 0) s) :
    Agree (· < 0) (st.next cfg s) := by
  cases st with
  | idle => exact hs
  | exit => exact trivial
  | arp env stale rd =>
    by_cases hdead : (final (arpPacketGet env cfg stale rd) { s with out := [] }).pc = .dead
    · exact agree_of_dead _ _ hdead
    · refine Agree.of_arpFd { s with out := [] } _ hs hd ?_ ?_
      · rcases final_routine (arpPacketGet env cfg stale rd) { s with out := [] } with h | h
        · exact congrArg Core.pc h
        · exact absurd (congrArg Core.pc h) hdead
      · exact final_returned _ _ (fun t => Probes { s with out := [] } → Probes t)
          (arpPacketGet_probes cfg env stale rd { s with out := [] } hd) hdead
  | dhcp env ck rd buf =>
    apply final_of_wp _ _ fun t => Agree (· < 0) t
    exact wp_mono _ _ _ _ _ _ (dhcpPacketGet_agrees cfg env ck rd buf { s with out := [] } hs)
      (fun _ _ h => h) (fun _ t h => agree_of_dead _ t h)
  | handle env inp => exact dhcpHandle_agrees env cfg inp s hs

theorem run_agrees (steps : List Step) (s : Sys) (hd : Along cfg Step.Dispatched steps s)
    (hs : Agree (· < 0) s) : Agree (· < 0) (run cfg steps s) := by
  induction steps generalizing s with
  | nil => exact hs
  | cons st steps ih => exact ih _ hd.2 (st.agrees cfg s hd.1 hs)

/-! ### Closed descriptors -/

/-- An ARP descriptor that is not open is `-1`. -/
def Closed (a : Int × Bool) : Prop := a.1 = -1 ∨ 0 ≤ a.1

theorem SockdWorks.keeps (env : Env) (h : SockdWorks env) (a b : Int × Bool) (hmove : SocketMove env a b)
    (_ : Closed a) : Closed b := by
  cases hmove with
  | close hclosed => exact Or.inl hclosed
  | take site _ hans => exact Or.inr (not_lt.mp fun hneg => h site ⟨b, hans, hneg⟩)

theorem final_closed {α : Type} (env : Env) (m : M α) [MovesSocket env m] (h : SockdWorks env)
    (s : Sys) (hs : Closed (socket s)) : Closed (socket (final m s)) :=
  final_of_wp m s (fun t => Closed (socket t))
    (Moves.keeps socket (SocketMove env) m Closed (h.keeps env) s hs)

theorem Step.closed (st : Step) (h : st.SockdWorks) (s : Sys) (hs : Closed (socket s)) :
    Closed (socket (st.next cfg s)) := by
  cases st with
  | idle => exact hs
  | exit => exact hs
  | arp env stale rd => exact final_closed env (arpPacketGet env cfg stale rd) h _ hs
  | dhcp env ck rd buf => exact final_closed env (dhcpPacketGet env cfg ck rd buf) h _ hs
  | handle env inp => exact final_closed env (dhcpHandle env cfg inp) h _ hs

theorem run_closed (steps : List Step) (s : Sys) (h : ∀ st ∈ steps, st.SockdWorks)
    (hs : Closed (socket s)) : Closed (socket (run cfg steps s)) := by
  induction steps generalizing s with
  | nil => exact hs
  | cons st steps ih =>
    exact ih _ (fun x hx => h x (List.mem_cons_of_mem _ hx)) (st.closed cfg (h st List.mem_cons_self) s hs)

theorem Agree.exact (s : Sys) (h : Agree (· < 0) s) (hclosed : Closed (socket s)) : Agree (· = -1) s := by
  have hexact : s.cs.arpFd < 0 → s.cs.arpFd = -1 := by
    intro hneg
    rcases hclosed with h | h
    · exact h
    · exact absurd hneg (not_lt.mpr h)
  unfold Agree at h ⊢
  cases hp : s.pc with
  | init => rw [hp] at h; exact ⟨h.1, hexact h.2.1, h.2.2⟩
  | selecting => rw [hp] at h; exact ⟨h.1, hexact h.2.1, h.2.2⟩
  | requesting => rw [hp] at h; exact ⟨h.1, hexact h.2.1, h.2.2⟩
  | probing => rw [hp] at h; exact h
  | released => rw [hp] at h; exact ⟨h.1, hexact h.2.1, h.2.2⟩
  | bound => trivial
  | newlease => trivial
  | dead => trivial

end

/-! ## Waiting for the answer to a request -/

section
variable (env : Env) (cfg : ClientConfig) (inp : Input)

/-- A pass up to the lease timer. -/
def toTimer : M Unit := do
  toIfup env cfg inp
  boundIfup env inp

/-- The call sends a request for the lease to be extended, and accepts no ACK behind it: a
signal has it sent, or the lease timer. -/
inductive Asks (s : Sys) : Prop
  | signal (hsig : inp.sevSignal = .renew) (hsent : ¬ SendFails env .frenew) (hno : ¬ Accepts inp DHCPACK s)
  | timer (u : Sys) (hu : returned (toTimer env cfg inp) { s with out := [] } = some u)
      (hsent : (final (dhcpHandle env cfg inp) s).out ≠ u.out)

theorem wp_toTimer (Q : Unit → Sys → Prop) (E : Stop → Sys → Prop) (s : Sys) :
    wp (boundPass env cfg inp) Q E s ↔
      wp (toTimer env cfg inp) (fun _ t => wp (boundTimer env inp) Q E t) E s := by
  unfold boundPass toTimer toIfup toTimers toDefense
  simp only [wp_bind]

/-- Where the lease timer sends, it has opened the socket. -/
theorem leaseTimeout_asks (nowts : Int) (s : Sys) :
    wp (leaseTimeout env nowts) (fun r t => r = .expired ∨ 0 ≤ t.cs.listenFd ∨ t.out = s.out)
      (fun _ _ => True) s := by
  have hopens : ∀ m : M Bto, wp m (fun r t => r = .expired ∨ 0 ≤ t.cs.listenFd) (fun _ _ => True) s →
      wp m (fun r t => r = .expired ∨ 0 ≤ t.cs.listenFd ∨ t.out = s.out) (fun _ _ => True) s :=
    fun m h => wp_mono _ _ s m _ _ h (fun _ _ h => h.imp_right Or.inl) (fun _ _ h => h)
  unfold leaseTimeout boundTimeout
  rw [wp_bind, wp_get, wp_ite]
  split
  · exact hopens _ (rebindingTimeout_opens env nowts s)
  · rw [wp_ite]
    split
    · exact hopens _ (renewingTimeout_opens env nowts s)
    · rw [wp_bind, wp_get, wp_ite]
      split
      · exact Or.inr (Or.inr rfl)
      · exact hopens _ (renewingTimeout_opens env nowts s)

theorem boundTimer_asks (s : Sys) :
    wp (boundTimer env inp) (fun _ _ => True) (Returning fun t => 0 ≤ t.cs.listenFd ∨ t.out = s.out) s := by
  unfold boundTimer
  rw [wp_ite]
  split
  · apply wp_sub_of _ _ s _ _ ?_ (fun _ _ => Stop.exit_ret_elim)
    apply wp_mono _ _ s _ _ _ (leaseTimeout_asks env inp.nowts s) ?_ (fun _ _ h => h)
    intro r t ht
    cases r with
    | wait => exact fun _ _ => ht.resolve_left (by decide)
    | expired => exact Stop.goto_ret_elim
    | hardfail => exact fun _ _ => ht.resolve_left (by decide)
  · exact fun _ _ => Or.inr rfl

/-- A call that asks and stays in the phase listens. -/
theorem Asks.listens (s : Sys) (hpc : s.pc = .bound) (h : Asks env cfg inp s)
    (hstays : InLease (final (dhcpHandle env cfg inp) s)) :
    0 ≤ (final (dhcpHandle env cfg inp) s).cs.listenFd := by
  cases h with
  | signal hsig _ hno =>
    exact Step.listens cfg (.handle env inp) s (Or.inl hpc) hno (Or.inr ⟨env, inp, rfl, hsig⟩) hstays
  | timer u hu hsent =>
    obtain ⟨a, hrun⟩ := returned_of_ok _ _ _ hu
    have hpass : wp (boundPass env cfg inp) (fun _ _ => True)
        (Returning fun t => 0 ≤ t.cs.listenFd ∨ t.out = u.out) { s with out := [] } := by
      rw [wp_toTimer, wp_ok_iff _ _ _ _ a u hrun]
      exact boundTimer_asks env inp u
    have hend := lease_stays env cfg inp (fun t => 0 ≤ t.cs.listenFd ∨ t.out = u.out) s hpc hpass hstays
    exact hend.resolve_right hsent

end

/-- **Phases and descriptors agree** whenever a call returns, and after a request the client listens
until an ACK is accepted or the phase with a lease is left. -/
theorem descriptors_agree (cfg : ClientConfig) (b : Startup) (steps : List Step)
    (hsockd : ∀ st ∈ steps, st.SockdWorks) (hd : Along cfg Step.Dispatched steps (.start b)) :
    Agree (· = -1) (run cfg steps (.start b)) ∧
      ∀ pre env inp mid, steps = pre ++ .handle env inp :: mid →
        (run cfg pre (.start b)).pc = .bound → Asks env cfg inp (run cfg pre (.start b)) →
        Along cfg (fun st s => InLease s ∧ ¬ st.Accepts s) mid
          ((Step.handle env inp).next cfg (run cfg pre (.start b))) →
        InLease (run cfg steps (.start b)) → 0 ≤ (run cfg steps (.start b)).cs.listenFd := by
  constructor
  · have hagree := run_agrees cfg steps (.start b) hd ⟨b.opened, (by decide : (-1 : Int) < 0), rfl⟩
    exact hagree.exact _ (run_closed cfg steps (.start b) hsockd (Or.inl rfl))
  · rintro pre env inp mid rfl hpc hasks hmid hlease
    have hsplit : run cfg (pre ++ .handle env inp :: mid) (.start b) =
        run cfg mid ((Step.handle env inp).next cfg (run cfg pre (.start b))) := by
      unfold run
      rw [List.foldl_append]
      rfl
    rw [hsplit] at hlease ⊢
    have hnext : InLease ((Step.handle env inp).next cfg (run cfg pre (.start b))) := by
      cases mid with
      | nil => exact hlease
      | cons st mid => exact hmid.1.1
    exact run_listens cfg mid _ hmid hlease (hasks.listens env cfg inp _ hpc hnext)

/-- From the start to a lease, and to a renewal asked for a minute later. -/
def askedRun : List Step := boundRun ++ [.handle forcedEnv forcedInput]

theorem descriptors_agree_asked : 0 ≤ (run exampleConfig askedRun exampleStart).cs.listenFd := by
  have hsockd : ∀ st ∈ askedRun, st.SockdWorks :=
    List.forall_mem_append.mpr ⟨boundRun_sockd, List.forall_mem_singleton.mpr (calm_sockd _)⟩
  have hdispatched : Along exampleConfig Step.Dispatched askedRun exampleStart :=
    ⟨trivial, trivial, trivial, trivial, trivial, trivial, trivial⟩
  have h := descriptors_agree exampleConfig ⟨0, false, false, 3, true, by decide⟩ askedRun hsockd hdispatched
  have hbound : (run exampleConfig boundRun exampleStart).pc = .bound := by decide +kernel
  have hasks : Asks forcedEnv exampleConfig forcedInput (run exampleConfig boundRun exampleStart) :=
    .signal rfl (calm_sends .frenew) (fun hack => Bool.noConfusion hack.1)
  have hstays : InLease (run exampleConfig askedRun exampleStart) := Or.inl (by decide +kernel)
  have hopen := h.2 boundRun forcedEnv forcedInput [] rfl hbound hasks trivial hstays
  rw [show exampleStart = .start ⟨0, false, false, 3, true, by decide⟩ from rfl]
  exact hopen

end Ndhc
