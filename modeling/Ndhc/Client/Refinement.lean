import Ndhc.Client.Descriptors
import Ndhc.Client.Packets
import Ndhc.Client.Protocol
import Ndhc.Lib.Refine

/-!
# The code follows the protocol

`view` forgets of the state what `Client` does not have.  Each pass of `dhcp_handle` takes the
view of its state only along acts of its stage and leaves to the stage that `scrReturn`, the jump
or the end of the process stands for; so a call is a run of acts, and a run of the client is a
sequence of such runs.
-/

namespace Ndhc

open Prog Relation

@[reducible] def view (s : Sys) : Client :=
  ⟨s.cs.xid, s.cs.clientAddr, s.cs.serverAddr, s.cs.srcAddr, s.cs.routerAddr, s.cs.dhcpWakeTs,
    s.cs.numDhcpRequests, s.cs.leaseStartTime, s.cs.renewTime, s.cs.rebindTime, s.cs.lease,
    s.garp.dhcpPacket, s.cfgPacket, s.cs.ifDeconfig, s.out⟩

/-- The client in stage `g`: the place where the coroutine resumes is set only when it is left. -/
@[reducible] def staged (g : Stage) (s : Sys) : Stage × Client := (g, view s)

def Pc.stage : Pc → Stage
  | .init => .selecting
  | .selecting => .selecting
  | .requesting => .requesting
  | .probing => .probing
  | .bound => .bound
  | .newlease => .stalled
  | .released => .released
  | .dead => .stopped

/-- What a state between two calls stands for. -/
def protocol (s : Sys) : Stage × Client := (s.pc.stage, view s)

/-- What a state stands for where a pass is left. -/
def after : Stop → Sys → Stage × Client
  | .ret _, t => protocol t
  | .goto .reinit, t => (.selecting, view t)
  | .goto .requesting, t => (.requesting, view t)
  | .goto .released, t => (.released, view t)
  | .exit, t => protocol t

section
variable (env : Env) (inp : Input)

/-- A run of acts. -/
abbrev Acts : Stage × Client → Stage × Client → Prop := ReflTransGen (Act env inp)

/-- `m` keeps to the acts, started in stage `g`. -/
abbrev Follows {α : Type} (g : Stage) (m : M α) : Prop := Refines (staged g) (Act env inp) after m

variable {env inp}

theorem Acts.exits {c : Stage × Client} {g : Stage} {v : Client} (h : Acts env inp c (g, v)) (t : Sys)
    (ht : t.pc = .dead) (hout : t.out = v.out) : Acts env inp c (after .exit t) := by
  show Acts env inp c (t.pc.stage, view t)
  rw [ht]
  exact h.tail (.exit g v (view t) hout)

theorem Acts.dies {c : Stage × Client} {g : Stage} {s : Sys} (h : Acts env inp c (staged g s)) (t : Sys)
    (ht : t.pc = .dead) (hout : t.out = s.out) : Acts env inp c (after .exit t) := h.exits t ht hout

end

/-! ## Routines that do not show -/

/-- `m` keeps the view, or ends the process with nothing more done. -/
abbrev Unseen {α : Type} (v : Client) (m : M α) : Prop :=
  Upholds (fun s => view s = v) (fun e t => e = .exit ∧ t.pc = .dead ∧ t.out = v.out) m

section
variable {α : Type} (v : Client) (env : Env)

instance : Unseen v (suicide : M α) := ⟨fun _ h => ⟨rfl, rfl, congrArg Client.out h⟩⟩

instance (o : Option α) : Unseen v (ask o) := by
  cases o <;> (unfold ask; infer_instance)

instance (site : Site) : Unseen v (startDhcpListen env site) := by
  unfold startDhcpListen
  infer_instance

instance : Unseen v stopDhcpListen := by
  unfold stopDhcpListen
  infer_instance

instance : Unseen v arpMinCloseFd := by
  unfold arpMinCloseFd
  infer_instance

instance (site : Site) (defense : Bool) : Unseen v (arpOpenFd env site defense) := by
  unfold arpOpenFd
  infer_instance

instance : Unseen v (arpSetDefenseMode env) := by
  unfold arpSetDefenseMode
  infer_instance

instance (cfg : ClientConfig) : Unseen v (onNoLease cfg) := by
  unfold onNoLease
  infer_instance

end

section
variable {α : Type} (m : M α) [h : ∀ v, Unseen v m]

theorem wp_unseen (s : Sys) (Q : α → Sys → Prop) (E : Stop → Sys → Prop)
    (hQ : ∀ a t, view t = view s → Q a t) (hdie : ∀ t, t.pc = .dead → t.out = s.out → E .exit t) :
    wp m Q E s := by
  refine wp_mono _ _ s m _ _ ((h (view s)).ends s rfl) hQ ?_
  rintro e t ⟨rfl, ht, hout⟩
  exact hdie t ht hout

instance (priority := low) (env : Env) (inp : Input) (g : Stage) : Follows env inp g m where
  ends s := by
    apply wp_unseen
    · intro _ t ht
      show Acts env inp (staged g s) (g, view t)
      rw [ht]
    · exact Acts.dies .refl

end

/-! ## What a call of a subroutine comes to -/

section
variable (env : Env) (inp : Input) {α : Type}

/-- A send that succeeds is what the continuation hears of; one that fails has done nothing. -/
theorem wp_sendDhcp_out (site : Site) (m : Sent) (s : Sys) (Q : Int → Sys → Prop) (E : Stop → Sys → Prop)
    (hfail : ∀ r : Int, r < 0 → Q r s)
    (hsent : ∀ r : Int, ¬ r < 0 → Q r { s with out := s.out ++ [.dhcp m] })
    (hdie : ∀ t, t.pc = .dead → t.out = s.out → E .exit t) : wp (sendDhcp env site m) Q E s := by
  unfold sendDhcp
  rw [wp_bind]
  cases hr : env.send site with
  | none => exact hdie _ rfl rfl
  | some r =>
    show wp (if r < 0 then pure r else do emit (.dhcp m); pure r) Q E s
    rw [wp_ite]
    split
    · next h => exact hfail r h
    · next h => exact hsent r h

theorem wp_arpSend_out (site : Site) (sip dip : UInt32) (s : Sys) (Q : Int → Sys → Prop)
    (E : Stop → Sys → Prop) (hfail : ∀ r : Int, r < 0 → Q r s)
    (hsent : ∀ r : Int, ¬ r < 0 → Q r { s with out := s.out ++ [.arp sip dip] })
    (hdie : ∀ t, t.pc = .dead → t.out = s.out → E .exit t) : wp (arpSend env site sip dip) Q E s := by
  unfold arpSend
  rw [wp_bind, wp_get, wp_ite]
  split
  · exact hfail _ (by decide)
  · rw [wp_bind]
    cases env.send site with
    | none => exact hdie _ rfl rfl
    | some r =>
      show wp (if r < 0 then _ else _) _ _ s
      rw [wp_ite]
      split
      · next h => exact hfail r h
      · next h =>
        refine hsent _ ?_
        split
        · decide
        · exact h

theorem wp_reinitSharedDeconfig (s : Sys) (Q : Unit → Sys → Prop) (E : Stop → Sys → Prop)
    (h : ∀ t, view t = { view s with addr := 0, requests := 0 } → Q () t) :
    wp reinitSharedDeconfig Q E s := by
  unfold reinitSharedDeconfig
  rw [wp_bind, wp_modify]
  unfold arpResetState arpCloseFd arpMinCloseFd
  simp only [wp_bind, wp_modify, wp_get, wp_ite, wp_pure]
  split
  · exact h _ rfl
  · exact h _ rfl

theorem wp_reinitSelecting (timeout : Int) (s : Sys) (Q : Unit → Sys → Prop) (E : Stop → Sys → Prop)
    (h : ∀ t, view t = (view s).restart (env.curms .reinitSelecting + timeout) → Q () t)
    (hdie : ∀ t, t.pc = .dead → t.out = s.out → E .exit t) : wp (reinitSelecting env timeout) Q E s := by
  unfold reinitSelecting
  rw [wp_bind]
  apply wp_reinitSharedDeconfig
  intro t ht
  rw [wp_bind, wp_modify]
  have hout : t.out = s.out := congrArg Client.out ht
  apply wp_unseen
  · intro _ u hu
    apply h
    rw [hu]
    exact congrArg (fun v : Client => { v with wake := env.curms .reinitSelecting + timeout }) ht
  · exact fun u hu hu' => hdie u hu (hu'.trans hout)

theorem wp_printRelease (s : Sys) (Q : Unit → Sys → Prop) (E : Stop → Sys → Prop)
    (h : ∀ t, view t = (view s).restart (-1) → Q () t) : wp printRelease Q E s := by
  unfold printRelease
  rw [wp_bind]
  apply wp_reinitSharedDeconfig
  intro t ht
  exact h _ (congrArg (fun v : Client => { v with wake := -1 }) ht)

end

/-! ## Holding a lease -/

section
variable (env : Env) (inp : Input) (nowts : Int)

/-- Frames from the address held. -/
theorem wp_arpSend_addr (site : Site) (dip : UInt32) (s : Sys) :
    wp (arpSend env site s.cs.clientAddr dip) (fun _ t => Acts env inp (staged .bound s) (staged .bound t))
      (fun e t => Acts env inp (staged .bound s) (after e t)) s := by
  apply wp_arpSend_out
  · intro _ _
    exact .refl
  · intro _ _
    exact .single (.arp (view s) dip)
  · exact Acts.dies .refl

instance (site : Site) (testIp : UInt32) : Follows env inp .bound (arpPing env site testIp) where
  ends s := by
    unfold arpPing
    rw [wp_bind, wp_get, wp_bind]
    refine wp_mono _ _ s _ _ _ (wp_arpSend_addr env inp site testIp s) (fun r t ht => ?_) (fun _ _ ht => ht)
    rw [wp_ite]
    split
    · exact ht
    · exact ht

instance (site : Site) : Follows env inp .bound (arpAnnouncement env site) where
  ends s := by
    unfold arpAnnouncement
    rw [wp_bind, wp_get, wp_bind]
    refine wp_mono _ _ s _ _ _ (wp_arpSend_addr env inp site s.cs.clientAddr s) (fun r t ht => ?_)
      (fun _ _ ht => ht)
    rw [wp_ite]
    split
    · exact ht
    · exact ht

instance : Follows env inp .bound (arpAnnounce env) := by
  unfold arpAnnounce
  infer_instance

instance : Follows env inp .bound (arpAnnounceTimeout env nowts) := by
  unfold arpAnnounceTimeout
  infer_instance

instance : Follows env inp .bound (arpDefenseTimeout env) := by
  unfold arpDefenseTimeout
  infer_instance

instance : Follows env inp .bound (gwCheckRouter env) := by
  unfold gwCheckRouter
  infer_instance

instance : Follows env inp .bound (gwCheckPings env) := by
  unfold gwCheckPings
  infer_instance

instance : Follows env inp .bound (arpGwCheck env) := by
  unfold arpGwCheck
  infer_instance

instance : Follows env inp .bound (gwHwaddrRouter env) := by
  unfold gwHwaddrRouter
  infer_instance

instance : Follows env inp .bound (gwHwaddrPings env) := by
  unfold gwHwaddrPings
  infer_instance

instance : Follows env inp .bound (arpGetGwHwaddr env) := by
  unfold arpGetGwHwaddr
  infer_instance

instance : Follows env inp .bound (arpQueryGateway env) := by
  unfold arpQueryGateway
  infer_instance

instance : Follows env inp .bound (arpQueryGatewayTimeout env nowts) := by
  unfold arpQueryGatewayTimeout
  infer_instance

instance : Follows env inp .bound (arpGwSuccess env) := by
  unfold arpGwSuccess
  infer_instance

instance : Follows env inp .bound (gwQueryDone env) := by
  unfold gwQueryDone
  infer_instance

instance : Follows env inp .bound (gwQueryServer env) := by
  unfold gwQueryServer
  infer_instance

instance (cfg : ClientConfig) : Follows env inp .bound (arpDoGwQuery env cfg) := by
  unfold arpDoGwQuery
  infer_instance

instance : Follows env inp .bound (gwCheckServer env) := by
  unfold gwCheckServer
  infer_instance

instance (cfg : ClientConfig) : Follows env inp .bound (arpDoGwCheck env cfg) := by
  unfold arpDoGwCheck
  infer_instance

instance (replied : Bool) (site : Site) (testIp : UInt32) :
    Follows env inp .bound (pingUnless env replied site testIp) := by
  unfold pingUnless
  infer_instance

instance : Follows env inp .bound (arpGwQueryTimeout env nowts) := by
  unfold arpGwQueryTimeout
  infer_instance

instance : Follows env inp .bound (arpGwCheckTimeout env nowts) := by
  unfold arpGwCheckTimeout
  infer_instance

end

/-! ## Leaving a pass -/

section
variable (env : Env) (inp : Input) {α : Type}

instance (code : Int) : Follows env inp .selecting (scrReturn code .selecting : M α) := ⟨fun _ => .refl⟩

instance (code : Int) : Follows env inp .bound (scrReturn code .bound : M α) := ⟨fun _ => .refl⟩

/-- Back to SELECTING by an act that restarts. -/
theorem wp_restart_acts (timeout : Int) (c : Stage × Client) (s : Sys) (Q : α → Sys → Prop)
    (h : Acts env inp c (.selecting, (view s).restart (env.curms .reinitSelecting + timeout))) :
    wp (restart env timeout : M α) Q (fun e t => Acts env inp c (after e t)) s := by
  unfold restart
  rw [wp_bind]
  apply wp_reinitSelecting
  · intro t ht
    show Acts env inp c (.selecting, view t)
    rw [ht]
    exact h
  · exact Acts.exits h

theorem wp_restart_now (c : Stage × Client) (s : Sys) (Q : α → Sys → Prop)
    (h : Acts env inp c (.selecting, (view s).restart (env.curms .reinitSelecting))) :
    wp (restart env 0 : M α) Q (fun e t => Acts env inp c (after e t)) s := by
  apply wp_restart_acts
  rw [Int.add_zero]
  exact h

/-- A release signal before there is a lease. -/
theorem onRelease_follows (g : Stage) (hg : g.leaseless = true) : Follows env inp g (onRelease inp) where
  ends s := by
    unfold onRelease
    rw [wp_ite]
    split
    · next hsig =>
      rw [wp_bind]
      apply wp_printRelease
      intro t ht
      show Acts env inp _ (.released, view t)
      rw [ht]
      exact .single (.cancel g _ hg hsig)
    · exact .refl

instance : Follows env inp .selecting (onRelease inp) := onRelease_follows env inp _ rfl

instance : Follows env inp .requesting (onRelease inp) := onRelease_follows env inp _ rfl

instance : Follows env inp .probing (onRelease inp) := onRelease_follows env inp _ rfl

end

/-! ## SELECTING -/

section
variable (env : Env) (cfg : ClientConfig) (inp : Input)

instance : Follows env inp .selecting (freshXid env) where
  ends s := by
    unfold freshXid
    rw [wp_bind, wp_get, wp_ite]
    split
    · exact .single (.transaction _ _)
    · exact .refl

theorem selectingTimeout_follows (hdue : inp.dhcpTimeout = true) :
    Follows env inp .selecting (selectingTimeout env cfg inp.nowts) where
  ends s := by
    unfold selectingTimeout
    apply wp_refines_bind (staged .selecting) _ _ _ _ _ s _ .refl
    intro _ t ht
    apply wp_refines_bind (staged .selecting) _ _ _ _ _ t _ ht
    intro _ t ht
    rw [wp_bind]
    apply wp_sendDhcp_out
    · intro r hr
      rw [wp_ite, if_pos hr]
      exact ht
    · intro r hr
      rw [wp_ite, if_neg hr]
      exact ht.tail (.discover (view t) hdue)
    · exact Acts.dies ht

instance : Follows env inp .selecting (selectingTimer env cfg inp) := by
  unfold selectingTimer
  split
  · next hdue =>
    have := selectingTimeout_follows env cfg inp hdue
    infer_instance
  · infer_instance

/-- An offer with a server's identifier leads to REQUESTING. -/
theorem wp_selectingOffer (hhere : inp.sevDhcp = true) (htype : inp.dhcpMsgtype = DHCPOFFER) (s : Sys) :
    wp (selectingOffer env inp.dhcpPacket inp.dhcpSrcaddr)
      (fun r t => if r = .success then Acts env inp (staged .selecting s) (staged .requesting t) else t = s)
      (fun _ _ => False) s := by
  unfold selectingOffer
  cases hsid : getOptionServerid inp.dhcpPacket with
  | none => rfl
  | some sid => exact .single (.offer (view s) sid ⟨hhere, htype, hsid⟩)

instance : Follows env inp .selecting (selectingDhcp env inp) where
  ends s := by
    unfold selectingDhcp
    rw [wp_ite]
    split
    · next hhere =>
      unfold selectingPacket
      rw [wp_bind, wp_bind, wp_get, wp_ite]
      split
      · next hoffer =>
        refine wp_mono _ _ s _ _ _ (wp_selectingOffer env inp hhere hoffer.2 s) (fun r t ht => ?_)
          (fun _ _ h => h.elim)
        rw [wp_ite]
        split
        · next hr =>
          rw [if_pos hr] at ht
          exact ht
        · next hr =>
          rw [if_neg hr] at ht
          rw [ht]
          exact .refl
      · rw [wp_ite, if_neg (by rintro ⟨h, _⟩; cases h)]
        exact .refl
    · exact .refl

instance : Follows env inp .selecting (selectingPass env cfg inp) := by
  unfold selectingPass
  infer_instance

instance : Follows env inp .selecting (reinitPass env cfg inp) where
  ends s := by
    unfold reinitPass
    rw [wp_bind, wp_modify]
    exact wp_refines (staged .selecting) _ _ _ _ _ (.single (.transaction (view s) _))

end

/-! ## REQUESTING and probing -/

section
variable (env : Env) (cfg : ClientConfig) (inp : Input)

/-- The timer sends a request, or gives the offer up after five. -/
theorem wp_requestingTimeout (g : Stage) (hg : g.asking = true) (hdue : inp.dhcpTimeout = true) (s : Sys) :
    wp (requestingTimeout env inp.nowts)
      (fun r t => Acts env inp (staged g s) (staged (if r = .timeout then .selecting else g) t))
      (fun e t => Acts env inp (staged g s) (after e t)) s := by
  unfold requestingTimeout
  rw [wp_bind, wp_get, wp_ite]
  split
  · next hmany =>
    have hact : Acts env inp (staged g s)
        (.selecting, (view s).restart (env.curms .reinitSelecting + 0)) := by
      rw [Int.add_zero]
      exact .single (.giveUp g (view s) hg hdue hmany)
    rw [wp_bind]
    apply wp_reinitSelecting
    · intro t ht
      show Acts env inp _ (.selecting, view t)
      rw [ht]
      exact hact
    · exact Acts.exits hact
  · next hfew =>
    rw [wp_bind]
    apply wp_sendDhcp_out
    · intro r hr
      rw [wp_ite, if_pos hr]
      exact .refl
    · intro r hr
      rw [wp_ite, if_neg hr]
      exact .single (.request g (view s) hg hdue (Nat.not_le.mp hfew))
    · exact Acts.dies .refl

theorem requestTimer_follows (g : Stage) (pc : Pc) (hg : g.asking = true) (hpc : pc.stage = g) :
    Follows env inp g (requestTimer env inp pc) where
  ends s := by
    have hret : ∀ t : Sys, protocol { t with pc := pc } = staged g t := by
      intro t
      unfold protocol
      rw [hpc]
    unfold requestTimer
    rw [wp_ite]
    split
    · next hdue =>
      rw [wp_bind]
      refine wp_mono _ _ s _ _ _ (wp_requestingTimeout env inp g hg hdue s) (fun r t ht => ?_)
        (fun _ _ ht => ht)
      cases r with
      | success =>
        show Acts env inp _ (protocol _)
        rw [hret]
        exact ht
      | timeout => exact ht
      | fail =>
        show Acts env inp _ (protocol _)
        rw [hret]
        exact ht
    · show Acts env inp _ (protocol _)
      rw [hret]

instance : Follows env inp .requesting (requestTimer env inp .requesting) :=
  requestTimer_follows env inp _ _ rfl rfl

instance : Follows env inp .probing (requestTimer env inp .probing) :=
  requestTimer_follows env inp _ _ rfl rfl

/-- `arp_check` remembers the packet; if it returns zero, a probe went out. -/
theorem wp_arpCheck_view (packet : DhcpMsg) (s : Sys) (Q : Int → Sys → Prop) (E : Stop → Sys → Prop)
    (hfail : ∀ r t, r < 0 → view t = (view s).tests packet → Q r t)
    (hprobed : ∀ r t, ¬ r < 0 → view t = (view s).probes packet → Q r t)
    (hdie : ∀ t, t.pc = .dead → t.out = s.out → E .exit t) : wp (arpCheck env cfg packet) Q E s := by
  unfold arpCheck
  rw [wp_bind, wp_modify, wp_bind]
  apply wp_unseen
  · intro r t ht
    rw [wp_ite]
    split
    · exact hfail _ _ (by decide) ht
    · unfold arpIpAnonPing
      rw [wp_bind, wp_bind]
      apply wp_arpSend_out
      · intro r hr
        rw [wp_ite, if_pos hr, wp_pure, wp_ite, if_pos hr]
        exact hfail _ _ (by decide) ht
      · intro r hr
        rw [wp_ite, if_neg hr, wp_bind, wp_modify, wp_pure, wp_ite, if_neg (by decide)]
        exact hprobed _ _ (by decide) (congrArg (fun v : Client =>
          (v.does (.arp 0 packet.yiaddr)).does (.arpCheck packet.yiaddr)) ht)
      · exact fun u hu hu' => hdie u hu (hu'.trans (congrArg Client.out ht))
  · exact hdie

theorem wp_selectingAck (packet : DhcpMsg) (srcaddr : UInt32) (s : Sys) (Q : Anp → Sys → Prop)
    (E : Stop → Sys → Prop) (hignore : Q .ignore s)
    (hack : ∀ sid t, getOptionServerid packet = some sid →
      view t = ((view s).heeds sid srcaddr).granted (env.curms .getLeasetime) packet → Q .checkIp t) :
    wp (selectingAck env packet srcaddr) Q E s := by
  unfold selectingAck
  cases hsid : getOptionServerid packet with
  | none => exact hignore
  | some sid =>
    unfold noteServer
    simp only [wp_bind, wp_get, wp_ite]
    split
    · next hne =>
      refine hack sid _ hsid ?_
      rw [show (view s).heeds sid srcaddr = { view s with server := sid, src := srcaddr } from if_pos hne]
      rfl
    · next heq =>
      refine hack sid _ hsid ?_
      rw [show (view s).heeds sid srcaddr = view s from if_neg heq]
      rfl

instance : Follows env inp .requesting (requestingDhcp env cfg inp) where
  ends s := by
    unfold requestingDhcp selectingPacket
    rw [wp_ite]
    split
    · next hhere =>
      rw [wp_bind, wp_bind, wp_get, wp_ite, if_neg (by rintro ⟨h, _⟩; cases h), wp_ite]
      split
      · next hack =>
        obtain ⟨_, htype, haddr⟩ := hack
        apply wp_selectingAck
        · exact .refl
        · intro sid t hsid ht
          rw [wp_ite, if_neg (by decide), wp_ite, if_pos rfl, wp_bind]
          have hans : Reply inp DHCPACK sid := ⟨hhere, htype, hsid⟩
          apply wp_arpCheck_view
          · intro r u hr hu
            rw [wp_ite, if_pos hr]
            apply wp_restart_acts
            rw [hu, ht]
            exact .single (.ackUntested (view s) sid hans haddr)
          · intro r u hr hu
            rw [wp_ite, if_neg hr]
            show Acts env inp _ (.probing, view u)
            rw [hu, ht]
            exact .single (.ack (view s) sid hans haddr)
          · intro u hu hout
            obtain ⟨src, hsrc⟩ := (view s).heeds_eq sid inp.dhcpSrcaddr
            rw [hsrc] at ht
            exact Acts.dies .refl u hu (hout.trans (congrArg Client.out ht))
      · exact .refl
    · exact .refl

instance : Follows env inp .requesting (requestingPass env cfg inp) := by
  unfold requestingPass
  infer_instance

instance : Follows env inp .probing (probingArp env cfg inp) where
  ends s := by
    unfold probingArp arpDoCollisionCheck
    rw [wp_ite]
    split
    · next hframe =>
      rw [wp_bind, wp_bind, wp_get, wp_ite]
      split
      · exact .refl
      · rw [wp_ite]
        split
        · rw [wp_bind, wp_modify, wp_bind]
          show wp (_ >>= _) _ _ _
          rw [wp_bind]
          apply wp_sendDhcp_out
          · intro r hr
            rw [wp_ite, if_pos hr]
            exact .single (.undeclined (view s) hframe)
          · intro r hr
            rw [wp_ite, if_neg hr]
            show wp (restart env 0) _ _ _
            apply wp_restart_now
            exact .single (.decline (view s) hframe)
          · exact fun t ht hout => Acts.exits (.single (.undeclined (view s) hframe)) t ht hout
        · exact .refl
    · exact .refl

/-- The lease is taken where the wait is over. -/
theorem wp_arpLeaseObtained (hdue : inp.arpTimeout = true) (s : Sys) :
    wp (arpLeaseObtained env cfg)
      (fun r t => r = .free ∧ Acts env inp (staged .probing s) (staged .bound t))
      (fun e t => Acts env inp (staged .probing s) (after e t)) s := by
  have hexit : ∀ t : Sys, t.pc = .dead → t.out = s.out ++ [.bind s.garp.dhcpPacket.yiaddr] →
      Acts env inp (staged .probing s) (after .exit t) := by
    intro t ht hout
    show Acts env inp _ (t.pc.stage, view t)
    rw [ht]
    exact .single (.unbound (view s) (view t) hdue hout)
  unfold arpLeaseObtained ifchangeBind
  rw [wp_bind, wp_get, wp_bind, wp_modify, wp_bind, wp_bind]
  show wp (_ >>= _) _ _ _
  rw [wp_bind, wp_get, wp_ite]
  split
  · exact hexit _ rfl rfl
  · rw [wp_bind]
    cases env.ifch .bind with
    | none => exact hexit _ rfl rfl
    | some r =>
      show wp (if r < 0 then _ else _) _ _ _
      rw [wp_ite]
      split
      · next hr =>
        rw [wp_pure, wp_ite, if_pos hr]
        exact hexit _ rfl rfl
      · next hr =>
        rw [wp_bind, wp_modify, wp_pure, wp_ite, if_neg hr, wp_bind, wp_modify, wp_bind]
        show wp (if _ then _ else _) _ _ _
        rw [wp_ite]
        split
        · exact hexit _ rfl rfl
        · exact ⟨rfl, .single (.bind (view s) hdue)⟩

instance : Follows env inp .probing (probingArpTimeout env cfg inp) where
  ends s := by
    unfold probingArpTimeout arpCollisionTimeout
    rw [wp_ite]
    split
    · next hdue =>
      rw [wp_bind, wp_bind, wp_get, wp_ite]
      split
      · refine wp_mono _ _ s _ _ _ (wp_arpLeaseObtained env cfg inp hdue s) (fun r t ht => ?_)
          (fun _ _ ht => ht)
        rw [ht.1, wp_ite, if_pos rfl]
        -- the rest of the pass is one of BOUND
        apply wp_refines_bind (staged .bound) _ _ _ _ _ t _ ht.2
        intro _ t ht
        apply wp_refines_bind (staged .bound) _ _ _ _ _ t _ ht
        intro _ t ht
        exact ht
      · rw [wp_ite]
        split
        · exact .refl
        · unfold arpIpAnonPing
          rw [wp_bind, wp_bind]
          apply wp_arpSend_out
          · intro r hr
            rw [wp_ite, if_pos hr, wp_pure, wp_ite, if_pos hr]
            exact .refl
          · intro r hr
            rw [wp_ite, if_neg hr, wp_bind, wp_modify, wp_pure, wp_ite, if_neg (by decide)]
            exact .single (.probe (view s) hdue)
          · exact Acts.dies .refl
    · exact .refl

instance : Follows env inp .probing (probingPass env cfg inp) := by
  unfold probingPass
  infer_instance

end

/-! ## BOUND -/

section
variable (env : Env) (cfg : ClientConfig) (inp : Input)

instance : Follows env inp .bound (boundSignal env inp) where
  ends s := by
    unfold boundSignal xmitRelease frenew
    rw [wp_ite]
    split
    · next hsig =>
      rw [wp_bind, wp_bind]
      apply wp_sendDhcp_out
      · intro r hr
        rw [wp_ite, if_pos hr, wp_pure, wp_ite, if_pos (by decide)]
        exact .refl
      · intro r hr
        rw [wp_ite, if_neg hr, wp_bind]
        apply wp_printRelease
        intro t ht
        rw [wp_pure, wp_ite, if_neg (by decide)]
        show Acts env inp _ (.released, view t)
        rw [ht]
        exact .single (.release (view s) _ hsig)
      · exact Acts.dies .refl
    · rw [wp_ite]
      split
      · next hsig =>
        rw [wp_bind, if_pos rfl]
        apply wp_refines_bind (staged .bound) _ _ _ _ _ s _ .refl
        intro _ t ht
        rw [wp_bind]
        apply wp_sendDhcp_out
        · intro r hr
          rw [wp_ite, if_pos hr, wp_pure, wp_ite, if_pos (by decide)]
          exact ht
        · intro r hr
          rw [wp_ite, if_neg hr, wp_pure, wp_ite, if_neg (by decide)]
          exact ht.tail (.forcedRenew (view t) hsig)
        · exact Acts.dies ht
      · exact .refl

theorem answer_of_validate (msgtype : UInt8) (s : Sys) (hhere : inp.sevDhcp = true)
    (htype : inp.dhcpMsgtype = msgtype) (hv : ¬ (!validateServerid s.cs inp.dhcpPacket) = true) :
    Reply inp msgtype (view s).server := by
  refine ⟨hhere, htype, ?_⟩
  apply (validateServerid_iff s.cs inp.dhcpPacket).mp
  simpa using hv

instance : Follows env inp .bound (boundDhcp env cfg inp) where
  ends s := by
    unfold boundDhcp
    rw [wp_bind, wp_get, wp_ite]
    split
    · next hren =>
      obtain ⟨hhere, hfrom⟩ := hren
      unfold extendPacket
      rw [wp_bind, wp_bind, wp_get, wp_ite]
      split
      · next htype =>
        rw [wp_ite]
        split
        · exact .refl
        · next hv =>
          have hans := answer_of_validate inp DHCPACK s hhere htype hv
          rw [wp_bind]
          unfold getLeasetime
          rw [wp_modify, wp_ite]
          split
          · next haddr =>
            show wp (if _ then _ else _) _ _ _
            rw [wp_ite, if_neg (by decide), wp_ite, if_neg (by decide), wp_bind]
            apply wp_arpCheck_view
            · intro r u hr hu
              rw [wp_ite, if_pos hr]
              apply wp_restart_acts
              rw [hu]
              exact .single (.checkUntested (view s) hans hfrom haddr)
            · intro r u hr hu
              rw [wp_ite, if_neg hr]
              show Acts env inp _ (.bound, view u)
              rw [hu]
              exact .single (.check (view s) hans hfrom haddr)
            · exact fun t ht hout => Acts.dies .refl t ht hout
          · next haddr =>
            have hext : Acts env inp (staged .bound s)
                (staged .bound (withLease env inp.dhcpPacket s)) :=
              .single (.extend (view s) hans hfrom (Decidable.not_not.mp haddr))
            apply wp_refines_bind (staged .bound) _ _ _ _ _ _ _ hext
            intro _ t ht
            exact ht
      · rw [wp_ite]
        split
        · next htype =>
          rw [wp_ite]
          split
          · exact .refl
          · next hv =>
            have hans := answer_of_validate inp DHCPNAK s hhere htype hv
            rw [wp_bind]
            apply wp_reinitSelecting
            · intro t ht
              show Acts env inp _ (.selecting, view t)
              rw [ht]
              exact .single (.nak (view s) hans hfrom)
            · exact Acts.dies .refl
        · exact .refl
    · exact .refl

instance : Follows env inp .bound (boundGwQuery env cfg) := by
  unfold boundGwQuery
  infer_instance

/-- The network is another one. -/
theorem gwLost_follows (harp : inp.sevArp = true ∨ inp.arpTimeout = true) :
    Follows env inp .bound (gwLost env) where
  ends s := by
    unfold gwLost
    rw [wp_bind, wp_modify]
    apply wp_restart_now
    exact .single (.lose (view s) harp)

theorem boundGwCheck_follows (hframe : inp.sevArp = true) : Follows env inp .bound (boundGwCheck env cfg) := by
  have := gwLost_follows env inp (Or.inl hframe)
  unfold boundGwCheck
  infer_instance

theorem boundDefense_follows (hframe : inp.sevArp = true) : Follows env inp .bound (boundDefense env cfg) where
  ends s := by
    unfold boundDefense arpDoDefense
    rw [wp_bind, wp_bind, wp_get, wp_ite]
    split
    · exact .refl
    · rw [wp_bind, wp_modify, wp_ite]
      split
      · apply wp_refines_bind (staged .bound) _ _ _ _ _ _ _ .refl
        intro r t ht
        rw [wp_ite]
        split
        · exact ht
        · exact ht
      · rw [wp_ite]
        split
        · rw [wp_bind]
          apply wp_sendDhcp_out
          · intro r hr
            show wp (restart env 0) _ _ _
            apply wp_restart_now
            exact .single (.lose (view s) (Or.inl hframe))
          · intro r hr
            show wp (restart env 0) _ _ _
            apply wp_restart_now
            exact .single (.surrender (view s) _ hframe)
          · exact Acts.dies .refl
        · exact .refl

instance : Follows env inp .bound (boundArp env cfg inp) := by
  unfold boundArp
  split
  · next hframe =>
    have := boundDefense_follows env cfg inp hframe
    have := boundGwCheck_follows env cfg inp hframe
    infer_instance
  · infer_instance

instance : Follows env inp .bound (boundAnnounce env inp) := by
  unfold boundAnnounce
  infer_instance

theorem boundGwTimeout_follows (hdue : inp.arpTimeout = true) : Follows env inp .bound (boundGwTimeout env inp) := by
  have := gwLost_follows env inp (Or.inr hdue)
  unfold boundGwTimeout
  infer_instance

instance : Follows env inp .bound (boundArpTimeout env inp) := by
  unfold boundArpTimeout
  split
  · next hdue =>
    have := boundGwTimeout_follows env inp hdue
    infer_instance
  · infer_instance

/-- Deconfigured, or as before. -/
theorem wp_ifchangeDeconfig_view (s : Sys) (Q : Int → Sys → Prop) (E : Stop → Sys → Prop)
    (hfail : ∀ r : Int, r < 0 → Q r s) (hdone : ∀ r t, ¬ r < 0 → view t = (view s).deconfigures → Q r t)
    (hdie : ∀ t, t.pc = .dead → t.out = s.out → E .exit t) : wp (ifchangeDeconfig env) Q E s := by
  unfold ifchangeDeconfig
  rw [wp_bind, wp_get, wp_ite]
  split
  · next h => exact hdone _ _ (by decide) (if_pos h).symm
  · next h =>
    rw [wp_bind]
    cases env.ifch .deconfig with
    | none => exact hdie _ rfl rfl
    | some r =>
      show wp (if r < 0 then _ else _) _ _ _
      rw [wp_ite]
      split
      · next hr => exact hfail r hr
      · next hr => exact hdone r _ hr (if_neg h).symm

instance : Follows env inp .bound (boundIfup env inp) where
  ends s := by
    unfold boundIfup ifupAction
    rw [wp_ite]
    split
    · next hforce =>
      rw [wp_bind, wp_bind, wp_get, wp_ite]
      split
      · rw [wp_ite]
        split
        · exact Acts.dies .refl _ rfl rfl
        · apply wp_refines_bind (staged .bound) _ _ _ _ _ s _ .refl
          intro r t ht
          rw [wp_ite]
          split
          · exact ht
          · exact ht
      · next hpeer =>
        have hpeer : (view s).router = 0 ∨ (view s).server = 0 := by
          by_contra hne
          exact hpeer ⟨fun h => hne (Or.inl h), fun h => hne (Or.inr h)⟩
        rw [wp_pure, wp_ite, if_neg (by decide), wp_ite, if_pos rfl, wp_bind]
        apply wp_ifchangeDeconfig_view
        · intro r hr
          rw [wp_ite, if_pos hr]
          exact .single (.stall (view s) hforce hpeer)
        · intro r t hr ht
          rw [wp_ite, if_neg hr]
          apply wp_restart_now
          rw [ht]
          exact .single (.remove (view s) hforce hpeer)
        · exact Acts.dies .refl
    · exact .refl

/-- A request to extend the lease, and when to send the next. -/
theorem wp_requestExtension_acts (site ssite : Site) (m : Client → Sent) (limit : ClientState → Int) (s : Sys)
    (hact : ∀ t, view t = view s → Act env inp (staged .bound t) (.bound,
      { (view t).sends (m (view t)) with wake := min (retryTime env site inp.nowts) (limit t.cs) })) :
    wp (requestExtension env site (do let s ← get; sendDhcp env ssite (m (view s))) limit inp.nowts)
      (fun r t => r ≠ .expired ∧ Acts env inp (staged .bound s) (staged .bound t))
      (fun e t => Acts env inp (staged .bound s) (after e t)) s := by
  unfold requestExtension
  rw [wp_bind]
  apply wp_unseen
  · intro _ t ht
    have hstart : Acts env inp (staged .bound s) (staged .bound t) := by
      show Acts env inp _ (.bound, view t)
      rw [ht]
    rw [wp_bind, wp_bind, wp_get]
    apply wp_sendDhcp_out
    · intro r hr
      rw [wp_ite, if_pos hr]
      exact ⟨by decide, hstart⟩
    · intro r hr
      rw [wp_ite, if_neg hr]
      exact ⟨by decide, hstart.tail (hact t ht)⟩
    · exact Acts.dies hstart
  · exact Acts.dies .refl

/-- Where a timeout of the lease leads. -/
def Bto.stage : Bto → Stage
  | .expired => .selecting
  | _ => .bound

/-- A timeout of the lease, started at `s`. -/
abbrev Timed (s : Sys) (m : M Bto) : Prop :=
  wp m (fun r t => Acts env inp (staged .bound s) (staged r.stage t))
    (fun e t => Acts env inp (staged .bound s) (after e t)) s

theorem rebindingTimeout_timed (hdue : inp.dhcpTimeout = true) (s : Sys)
    (hfrom : (view s).rebindAt ≤ inp.nowts) : Timed env inp s (rebindingTimeout env inp.nowts) := by
  unfold Timed rebindingTimeout
  rw [wp_bind, wp_get, wp_ite]
  split
  · next hend =>
    rw [wp_bind]
    apply wp_reinitSelecting
    · intro t ht
      show Acts env inp _ (.selecting, view t)
      rw [ht, Int.add_zero]
      exact .single (.expire (view s) hdue hfrom hend)
    · exact Acts.dies .refl
  · next hend =>
    refine wp_mono _ _ s _ _ _ (wp_requestExtension_acts env inp .rebindingTimeout .rebindingTimeout
      Client.rebinding leaseEnd s fun t ht => ?_) (fun r t hr => ?_) (fun _ _ h => h)
    · rw [← ht] at hfrom
      have hto : inp.nowts < (view t).endAt := by
        rw [ht]
        exact Int.not_le.mp hend
      exact .rebind (view t) hdue hfrom hto
    · cases r with
      | wait => exact hr.2
      | expired => exact absurd rfl hr.1
      | hardfail => exact hr.2

theorem renewingTimeout_timed (hdue : inp.dhcpTimeout = true) (s : Sys)
    (hfrom : (view s).renewAt ≤ inp.nowts) : Timed env inp s (renewingTimeout env inp.nowts) := by
  unfold Timed renewingTimeout
  rw [wp_bind, wp_get, wp_ite]
  split
  · next hreb => exact rebindingTimeout_timed env inp hdue s hreb
  · next hreb =>
    refine wp_mono _ _ s _ _ _ (wp_requestExtension_acts env inp .renewingTimeout .renewingTimeout
      Client.renewal (fun cs => cs.leaseStartTime + cs.rebindTime * 1000) s fun t ht => ?_)
      (fun r t hr => ?_) (fun _ _ h => h)
    · rw [← ht] at hfrom
      have hto : inp.nowts < (view t).rebindAt := by
        rw [ht]
        exact Int.not_le.mp hreb
      exact .renew (view t) hdue hfrom hto
    · cases r with
      | wait => exact hr.2
      | expired => exact absurd rfl hr.1
      | hardfail => exact hr.2

theorem leaseTimeout_timed (hdue : inp.dhcpTimeout = true) (s : Sys) :
    Timed env inp s (leaseTimeout env inp.nowts) := by
  unfold Timed leaseTimeout
  rw [wp_bind, wp_get, wp_ite]
  split
  · next hreb => exact rebindingTimeout_timed env inp hdue s hreb
  · rw [wp_ite]
    split
    · next hren => exact renewingTimeout_timed env inp hdue s hren
    · next hren =>
      have hnow : inp.nowts < s.cs.leaseStartTime + s.cs.renewTime * 1000 := Int.not_le.mp hren
      unfold boundTimeout
      rw [wp_bind, wp_get, wp_ite, if_pos hnow]
      exact .single (.wait (view s) hdue hnow)

instance : Follows env inp .bound (boundTimer env inp) where
  ends s := by
    unfold boundTimer
    rw [wp_ite]
    split
    · next hdue =>
      rw [wp_bind]
      refine wp_mono _ _ s _ _ _ (leaseTimeout_timed env inp hdue s) (fun r t ht => ?_) (fun _ _ h => h)
      cases r with
      | wait => exact ht
      | expired => exact ht
      | hardfail => exact ht
    · exact .refl

instance : Follows env inp .bound (boundPass env cfg inp) := by
  unfold boundPass
  infer_instance

/-! ## A call -/

instance : Follows env inp .stalled (restart env 0 : M Unit) where
  ends s := by
    apply wp_restart_now
    exact .single (.recover (view s))

instance : Follows env inp .released (releasedPass env inp) where
  ends s := by
    unfold releasedPass frenew
    rw [wp_ite]
    split
    · next hsig =>
      rw [if_neg (by decide), wp_bind, wp_bind]
      apply wp_reinitSelecting
      · intro t ht
        rw [wp_pure, wp_ite, if_neg (by decide)]
        show Acts env inp _ (.selecting, view t)
        rw [ht, Int.add_zero]
        exact .single (.resume (view s) hsig)
      · exact Acts.dies .refl
    · exact .refl

end

section
variable (env : Env) (cfg : ClientConfig) (inp : Input)

/-- What is done without the packet may be done with it. -/
theorem Act.of_no_packet (c d : Stage × Client)
    (h : Act env { inp with sevDhcp := false } c d) : Act env inp c d := by
  have hno : ∀ msgtype sid, ¬ Reply { inp with sevDhcp := false } msgtype sid := by
    intro msgtype sid ha
    cases ha.here
  cases h with
  | exit g v v' hout => exact .exit g v v' hout
  | transaction v x => exact .transaction v x
  | discover v hdue => exact .discover v hdue
  | offer v sid hans => exact absurd hans (hno _ _)
  | request g v hg hdue hfew => exact .request g v hg hdue hfew
  | giveUp g v hg hdue hmany => exact .giveUp g v hg hdue hmany
  | ack v sid hans => exact absurd hans (hno _ _)
  | ackUntested v sid hans => exact absurd hans (hno _ _)
  | probe v hdue => exact .probe v hdue
  | decline v hframe => exact .decline v hframe
  | undeclined v hframe => exact .undeclined v hframe
  | bind v hdue => exact .bind v hdue
  | unbound v v' hdue hout => exact .unbound v v' hdue hout
  | arp v dip => exact .arp v dip
  | wait v hdue hnow => exact .wait v hdue hnow
  | renew v hdue hfrom hto => exact .renew v hdue hfrom hto
  | rebind v hdue hfrom hto => exact .rebind v hdue hfrom hto
  | forcedRenew v hsig => exact .forcedRenew v hsig
  | extend v hans => exact absurd hans (hno _ _)
  | check v hans => exact absurd hans (hno _ _)
  | checkUntested v hans => exact absurd hans (hno _ _)
  | nak v hans => exact absurd hans (hno _ _)
  | expire v hdue hrebind hend => exact .expire v hdue hrebind hend
  | surrender v x hframe => exact .surrender v x hframe
  | lose v harp => exact .lose v harp
  | remove v hforce hpeer => exact .remove v hforce hpeer
  | stall v hforce hpeer => exact .stall v hforce hpeer
  | recover v => exact .recover v
  | cancel g v hg hsig => exact .cancel g v hg hsig
  | release v x hsig => exact .release v x hsig
  | resume v hsig => exact .resume v hsig

/-- The pass a jump leads to continues the run. -/
theorem target_acts (l : Label) (c : Stage × Client) (t : Sys)
    (hc : Acts env inp c (after (.goto l) t)) :
    wp (target env cfg inp l) (fun _ _ => True) (fun e u => Acts env inp c (after e u)) t := by
  have hcont : ∀ (g : Stage) (m : M Unit), Follows env { inp with sevDhcp := false } g m →
      Acts env inp c (staged g t) →
      wp m (fun _ _ => True) (fun e u => Acts env inp c (after e u)) t := by
    intro g m hm hstart
    refine wp_mono _ _ t m _ _ (hm.ends t) (fun _ _ _ => trivial) (fun e u hu => hstart.trans ?_)
    exact ReflTransGen.mono (Act.of_no_packet env inp) _ _ hu
  cases l with
  | reinit => exact hcont .selecting (reinitPass env cfg { inp with sevDhcp := false }) inferInstance hc
  | requesting =>
    exact hcont .requesting (requestingPass env cfg { inp with sevDhcp := false }) inferInstance hc
  | released => exact hcont .released (releasedPass env { inp with sevDhcp := false }) inferInstance hc

/-- The pass a call resumes in. -/
theorem resume_acts (s : Sys) :
    wp (resume env cfg inp s.pc) (fun _ _ => True)
      (fun e t => Acts env inp (protocol s) (after e t)) s := by
  have hpass : ∀ (g : Stage) (m : M Unit), Follows env inp g m → s.pc.stage = g →
      wp m (fun _ _ => True) (fun e t => Acts env inp (protocol s) (after e t)) s := by
    intro g m hm hg
    unfold protocol
    rw [hg]
    exact wp_mono _ _ s m _ _ (hm.ends s) (fun _ _ _ => trivial) (fun _ _ h => h)
  cases hpc : s.pc with
  | init => exact hpass .selecting (reinitPass env cfg inp) inferInstance (hpc ▸ rfl)
  | selecting => exact hpass .selecting (selectingPass env cfg inp) inferInstance (hpc ▸ rfl)
  | requesting => exact hpass .requesting (requestingPass env cfg inp) inferInstance (hpc ▸ rfl)
  | probing => exact hpass .probing (probingPass env cfg inp) inferInstance (hpc ▸ rfl)
  | bound => exact hpass .bound (boundPass env cfg inp) inferInstance (hpc ▸ rfl)
  | newlease => exact hpass .stalled (restart env 0) inferInstance (hpc ▸ rfl)
  | released => exact hpass .released (releasedPass env inp) inferInstance (hpc ▸ rfl)
  | dead =>
    exact hpass .stopped suicide inferInstance (hpc ▸ rfl)

/-- **A call is a run of acts.** -/
theorem dhcpHandle_acts (s : Sys) :
    Acts env inp (s.pc.stage, (view s).fresh) (protocol (final (dhcpHandle env cfg inp) s)) := by
  have hcall : wp (dhcpHandle env cfg inp) (fun _ _ => True)
      (fun e t => Acts env inp (s.pc.stage, (view s).fresh) (after e t)) s := by
    rw [wp_dhcpHandle env cfg inp _ _ s s.pc rfl]
    apply wp_follow_ends
    · intro l t ht
      exact target_acts env cfg inp l _ t ht
    · exact resume_acts env cfg inp { s with out := [] }
  apply final_of_wp (dhcpHandle env cfg inp) s fun t => Acts env inp _ (protocol t)
  apply wp_mono _ _ s _ _ _ (wp_and _ _ s _ _ _ hcall (dhcpHandle_settles env cfg inp s))
  · exact fun _ _ h => h.2.elim
  · intro e t ⟨hacts, hjump⟩
    cases e with
    | ret code => exact hacts
    | exit => exact hacts
    | goto l => exact absurd rfl (hjump l)

end

/-! ## Runs -/

section
variable (cfg : ClientConfig)

instance (v : Client) (env : Env) (stale : ArpMsg) (rd : ReadResult) :
    Unseen v (arpPacketGet env cfg stale rd) := by
  cases rd with
  | again => exact inferInstanceAs (Unseen v (pure false))
  | error =>
    unfold arpPacketGet
    infer_instance
  | data frame =>
    unfold arpPacketGet
    infer_instance

instance (v : Client) (env : Env) (ck : NetChecksum) (rd : ReadResult) (buf : DhcpMsg) :
    Unseen v (dhcpPacketGet env cfg ck rd buf) := by
  unfold dhcpPacketGet
  infer_instance

/-- What a step may make of a client: a call is a run of acts, and reading changes nothing or ends
the process. -/
def Step.Allows : Step → Stage × Client → Stage × Client → Prop
  | .handle env inp, c, d => Acts env inp (c.1, c.2.fresh) d
  | _, c, d => (d.1 = c.1 ∧ d.2 = c.2.fresh) ∨ (d.1 = .stopped ∧ d.2.out = [])

theorem read_allowed {α : Type} (m : M α) [Routine core Dies m] [h : ∀ v, Unseen v m] (s : Sys) :
    let t := final m { s with out := [] }
    (t.pc.stage = s.pc.stage ∧ view t = (view s).fresh) ∨ (t.pc.stage = .stopped ∧ t.out = []) := by
  apply final_of_wp m _ fun t =>
    (t.pc.stage = s.pc.stage ∧ view t = (view s).fresh) ∨ (t.pc.stage = .stopped ∧ t.out = [])
  apply wp_routine core Dies
  apply wp_unseen
  · intro _ t ht hcore
    have hpc : t.pc = s.pc := congrArg Core.pc hcore
    exact Or.inl ⟨congrArg Pc.stage hpc, ht⟩
  · intro t ht hout _
    exact Or.inr ⟨congrArg Pc.stage ht, hout⟩

theorem Step.next_allowed (st : Step) (s : Sys) : st.Allows (protocol s) (protocol (st.next cfg s)) := by
  cases st with
  | idle => exact Or.inl ⟨rfl, rfl⟩
  | exit => exact Or.inr ⟨rfl, rfl⟩
  | arp env stale rd => exact read_allowed (arpPacketGet env cfg stale rd) s
  | dhcp env ck rd buf => exact read_allowed (dhcpPacketGet env cfg ck rd buf) s
  | handle env inp => exact dhcpHandle_acts env cfg inp s

/-- **The client follows the protocol.**  Whatever packets, frames, timeouts, signals and failures a
run meets, from any state, each of its calls of `dhcp_handle` is a run of acts of the protocol on
what the state stands for, and its reads change nothing of it. -/
theorem client_refines_protocol (steps : List Step) (s : Sys) :
    Along cfg (fun st s => st.Allows (protocol s) (protocol (st.next cfg s))) steps s := by
  induction steps generalizing s with
  | nil => trivial
  | cons st steps ih => exact ⟨st.next_allowed cfg s, ih _⟩

end

end Ndhc
