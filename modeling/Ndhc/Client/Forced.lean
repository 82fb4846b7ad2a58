import Ndhc.Client.Renewal
import Ndhc.Wire.Build

/-!
# A renewal asked for by a signal

SIGUSR1 has the client listen and ask its server to renew the lease at once.  The branch for
packets is closed before renewal time, so the answer takes effect only if it comes at that time
or later, although it is read (`forced_renewal_iff`).
-/

namespace Ndhc

open Prog

/-! ## The listening socket -/

@[reducible] def listening (s : Sys) : Int := s.cs.listenFd

instance : Deaf listening := ⟨fun _ _ => rfl⟩

section
variable {α : Type} (env : Env) (cfg : ClientConfig) (inp : Input)

instance (priority := low) (m : M α) [h : Routine steady AnyWay m] : Routine listening AnyWay m where
  ends s := wp_mono _ _ s _ _ _ (h.ends s) (fun _ _ ht => congrArg Steady.listenFd ht) (fun _ _ h => h)

instance (code : Int) (pc : Pc) : Routine listening OnReturn (scrReturn code pc : M α) :=
  ⟨fun _ _ _ => rfl⟩

instance : Routine listening AnyWay (arpDoDefense env cfg) := by
  unfold arpDoDefense sendRelease
  infer_instance

instance : Routine listening AnyWay (arpDefenseTimeout env) := by
  unfold arpDefenseTimeout
  infer_instance

instance : Routine listening AnyWay (boundAnnounce env inp) := by
  unfold boundAnnounce
  infer_instance

instance : Routine listening OnReturn (boundDefense env cfg) := by
  unfold boundDefense
  infer_instance

instance : Routine listening OnReturn (boundGwQuery env cfg) := by
  unfold boundGwQuery
  infer_instance

instance : Routine listening OnReturn (boundGwCheck env cfg) := by
  unfold boundGwCheck
  infer_instance

instance : Routine listening OnReturn (boundArp env cfg inp) := by
  unfold boundArp
  infer_instance

instance : Routine listening OnReturn (boundGwTimeout env inp) := by
  unfold boundGwTimeout
  infer_instance

instance : Routine listening OnReturn (boundArpTimeout env inp) := by
  unfold boundArpTimeout
  infer_instance

instance : Routine listening OnReturn (boundIfup env inp) := by
  unfold boundIfup
  infer_instance

/-- The call stays where the answer left it: not listening, with the terms of `T`. -/
def Refreshed (T : Int × UInt32 × Int × Int) (s : Sys) : Prop :=
  s.cs.listenFd = -1 ∧ leaseTerms s = T

theorem wp_refreshed {β : Type} (T : Int × UInt32 × Int × Int) (m : M β) (k : β → M α)
    [hl : Routine listening OnReturn m] [ht : Routine leaseTerms SameTerms m] (Q : α → Sys → Prop)
    (s : Sys) (hs : Refreshed T s)
    (hk : ∀ b t, Refreshed T t → wp (k b) Q (fun e t => ∀ code, e = .ret code → t.cs.listenFd = -1) t) :
    wp (m >>= k) Q (fun e t => ∀ code, e = .ret code → t.cs.listenFd = -1) s := by
  rw [wp_bind]
  apply wp_mono _ _ s _ _ _ (wp_and _ _ s m _ _ (hl.ends s) (ht.ends s))
  · exact fun b t h => hk b t ⟨h.1.trans hs.1, h.2.trans hs.2⟩
  · exact fun e t h code he => (h.1 code he).trans hs.1

/-- A lease taken now is not due for renewal. -/
theorem not_isRenewing_withLease (packet : DhcpMsg) (s : Sys) (nowts : Int)
    (hnow : nowts ≤ env.curms .getLeasetime) :
    ¬ isRenewing (withLease env packet s).cs nowts ∧ ¬ isRebinding (withLease env packet s).cs nowts := by
  have hrenew := withLease_renewTime env packet s
  have hrebind := withLease_rebindTime env packet s
  have hlease : 60 ≤ (withLease env packet s).cs.lease.toNat := leaseOf_ge _
  have hstart : (withLease env packet s).cs.leaseStartTime = env.curms .getLeasetime := rfl
  unfold isRenewing isRebinding
  constructor
  · omega
  · omega

/-- Before renewal time the timer of the lease is only set. -/
theorem boundTimer_refreshed (s t : Sys) (packet : DhcpMsg)
    (ht : Refreshed (leaseTerms (withLease env packet s)) t)
    (hnow : inp.nowts ≤ env.curms .getLeasetime) :
    wp (boundTimer env inp) (fun _ _ => True)
      (fun e u => ∀ code, e = .ret code → u.cs.listenFd = -1) t := by
  obtain ⟨hfd, hterms⟩ := ht
  obtain ⟨hrenew, hrebind⟩ := not_isRenewing_withLease env packet s inp.nowts hnow
  have hstart : t.cs.leaseStartTime = (withLease env packet s).cs.leaseStartTime :=
    congrArg Prod.fst hterms
  have hrenewTime : t.cs.renewTime = (withLease env packet s).cs.renewTime :=
    congrArg (fun T => T.2.2.1) hterms
  have hrebindTime : t.cs.rebindTime = (withLease env packet s).cs.rebindTime :=
    congrArg (fun T => T.2.2.2) hterms
  have hr : ¬ isRenewing t.cs inp.nowts := by
    unfold isRenewing at hrenew ⊢
    rw [hstart, hrenewTime]
    exact hrenew
  have hb : ¬ isRebinding t.cs inp.nowts := by
    unfold isRebinding at hrebind ⊢
    rw [hstart, hrebindTime]
    exact hrebind
  unfold boundTimer
  rw [wp_ite]
  split
  · unfold leaseTimeout boundTimeout
    rw [wp_bind, wp_bind, wp_get, wp_ite, if_neg hb, wp_ite, if_neg hr, wp_bind, wp_get, wp_ite,
      if_pos (Int.not_le.mp hr)]
    exact fun _ _ => hfd
  · exact fun _ _ => hfd

theorem boundSignal_none (s : Sys) (Q : Unit → Sys → Prop) (E : Stop → Sys → Prop)
    (hsig : inp.sevSignal = .none) : wp (boundSignal env inp) Q E s ↔ Q () s := by
  unfold boundSignal
  rw [if_neg (by rw [hsig]; decide), if_neg (by rw [hsig]; decide)]
  exact Iff.rfl

/-- After an ACK for the address held, the pass no longer listens. -/
theorem boundPass_ack (s t : Sys) (hstart : core t = (core s).fresh)
    (haddr : t.cs.clientAddr = s.cs.clientAddr) (hsig : inp.sevSignal = .none)
    (hack : Accepts inp DHCPACK s) (hip : inp.dhcpPacket.yiaddr = s.cs.clientAddr)
    (hnow : inp.nowts ≤ env.curms .getLeasetime) :
    wp (boundPass env cfg inp) (fun _ _ => True)
      (fun e u => ∀ code, e = .ret code → u.cs.listenFd = -1) t := by
  obtain ⟨hdhcp, hren, htype, hours⟩ := hack
  rw [← isRenewing_congr s t inp.nowts hstart] at hren
  rw [← validateServerid_congr s t inp.dhcpPacket hstart] at hours
  rw [← haddr] at hip
  have hrest : ∀ u, Refreshed (leaseTerms (withLease env inp.dhcpPacket t)) u →
      wp (boundArp env cfg inp >>= fun _ => boundArpTimeout env inp >>= fun _ =>
        boundIfup env inp >>= fun _ => boundTimer env inp) (fun _ _ => True)
        (fun e u => ∀ code, e = .ret code → u.cs.listenFd = -1) u := by
    intro u hu
    apply wp_refreshed _ _ _ _ u hu
    intro _ v hv
    apply wp_refreshed _ _ _ _ v hv
    intro _ w hw
    apply wp_refreshed _ _ _ _ w hw
    intro _ x hx
    exact boundTimer_refreshed env inp t x inp.dhcpPacket hx hnow
  unfold boundPass
  rw [wp_bind, boundSignal_none env inp t _ _ hsig]
  unfold boundDhcp extendPacket
  rw [wp_bind, wp_bind, wp_get, wp_ite, if_pos ⟨hdhcp, hren⟩, wp_bind, wp_bind, wp_get, wp_ite,
    if_pos htype, wp_ite, if_neg (by simp [hours]), wp_bind]
  show wp _ _ _ (withLease env inp.dhcpPacket t)
  rw [wp_ite, if_neg (not_not.mpr hip), wp_bind]
  apply wp_routine leaseTerms SameTerms
  apply wp_routine core Dies
  apply wp_all
  · intro _ u _ hterms
    exact hrest { u with cs.listenFd := -1 } ⟨rfl, hterms⟩
  · rintro e u ⟨rfl, -⟩ - code h
    cases h

/-- From `reinit` on, without a signal to release, the call ends in SELECTING. -/
theorem reinit_selecting (n : Nat) (s : Sys) (hsig : inp.sevSignal ≠ .release) :
    wp (follow env cfg inp n (target env cfg inp .reinit)) (fun _ _ => False)
      (fun e t => (∀ l, e ≠ .goto l) ∧ (t.pc = .selecting ∨ t.pc = .dead)) s := by
  apply wp_follow_last env cfg inp n _ _ _ s ?_ (fun l _ h => h.1 l rfl)
  show wp (selectingPass env cfg { inp with sevDhcp := false }) _ _
    { s with cs.xid := env.random .reinit }
  apply wp_mono _ _ _ _ _ _ (selectingPass_ends env cfg _ _) (fun _ _ h => h)
  intro e t h
  match e, h with
  | .ret _, h => exact ⟨nofun, Or.inl (congrArg Core.pc h)⟩
  | .goto .released, h => exact absurd h.2 hsig
  | .goto .requesting, h => exact nomatch h.2.2.1
  | .exit, h => exact ⟨nofun, Or.inr (congrArg Core.pc h)⟩

/-- A NAK of our server sends the pass back to the start. -/
theorem boundPass_nak (s t : Sys) (hstart : core t = (core s).fresh) (hsig : inp.sevSignal = .none)
    (hnak : Accepts inp DHCPNAK s) :
    wp (boundPass env cfg inp) (fun _ _ => False)
      (fun e u => e = .goto .reinit ∨ (e = .exit ∧ u.pc = .dead)) t := by
  obtain ⟨hdhcp, hren, htype, hours⟩ := hnak
  rw [← isRenewing_congr s t inp.nowts hstart] at hren
  rw [← validateServerid_congr s t inp.dhcpPacket hstart] at hours
  unfold boundPass
  rw [wp_bind, boundSignal_none env inp t _ _ hsig]
  unfold boundDhcp extendPacket
  rw [wp_bind, wp_bind, wp_get, wp_ite, if_pos ⟨hdhcp, hren⟩, wp_bind, wp_bind, wp_get, wp_ite,
    if_neg (by rw [htype]; decide), wp_ite, if_pos htype, wp_ite, if_neg (by simp [hours])]
  apply wp_sub
  · exact fun _ _ _ => Or.inl rfl
  · exact fun u hu => Or.inr ⟨rfl, congrArg Core.pc hu⟩

theorem bound_nak (s : Sys) (hpc : s.pc = .bound) (hsig : inp.sevSignal = .none)
    (hnak : Accepts inp DHCPNAK s) :
    (final (dhcpHandle env cfg inp) s).pc = .selecting ∨ (final (dhcpHandle env cfg inp) s).pc = .dead := by
  apply final_of_wp _ s fun t => t.pc = .selecting ∨ t.pc = .dead
  rw [wp_dhcpHandle env cfg inp _ _ s .bound hpc, wp_follow]
  apply wp_mono _ _ _ _ _ _ (boundPass_nak env cfg inp s _ rfl hsig hnak) (fun _ _ h => h.elim)
  rintro e t (rfl | ⟨rfl, hdead⟩)
  · exact wp_mono _ _ t _ _ _ (reinit_selecting env cfg inp 1 t (by rw [hsig]; decide))
      (fun _ _ h => h.elim) (fun _ _ h => h.2)
  · exact Or.inr hdead

theorem bound_ack_closed (s : Sys) (hpc : s.pc = .bound) (hsig : inp.sevSignal = .none)
    (hack : Accepts inp DHCPACK s) (hip : inp.dhcpPacket.yiaddr = s.cs.clientAddr)
    (hnow : inp.nowts ≤ env.curms .getLeasetime) :
    (final (dhcpHandle env cfg inp) s).pc = .bound →
      (final (dhcpHandle env cfg inp) s).cs.listenFd = -1 :=
  bound_stays env cfg inp (fun t => t.cs.listenFd = -1) s hpc
    (boundPass_ack env cfg inp s { s with out := [] } rfl rfl hsig hack hip hnow)

/-- Before renewal time a packet is not looked at. -/
theorem bound_unheard (s : Sys) (hpc : s.pc = .bound) (nowts : Int) (packet : DhcpMsg) (msgtype : UInt8)
    (hearly : ¬ isRenewing s.cs nowts) :
    (final (dhcpHandle env cfg { quietInput nowts with
      sevDhcp := true, dhcpPacket := packet, dhcpMsgtype := msgtype }) s).pc = .bound := by
  apply final_of_wp _ s fun t => t.pc = .bound
  rw [wp_dhcpHandle env cfg _ _ _ s .bound hpc, wp_follow]
  show wp (boundPass env cfg _) _ _ _
  unfold boundPass
  rw [wp_bind, boundSignal_none env _ _ _ _ rfl]
  unfold boundDhcp
  rw [wp_bind, wp_bind, wp_get, wp_ite, if_neg (fun h => hearly h.2)]
  rfl

end

theorem length_optionField (calls : List OptionCall)
    (h : (calls.flatMap OptionCall.encode).length < optionsSize) :
    (optionField calls).length = optionsSize := by
  simp only [optionField, List.length_append, List.length_cons, List.length_replicate]
  omega

/-- The options of a NAK. -/
def nakOptions (server : UInt32) : List OptionCall :=
  [.u8 ⟨DCODE_MSGTYPE, by decide, by decide⟩ DHCPNAK,
    .u32 ⟨DCODE_SERVER_ID, by decide, by decide⟩ server]

/-- A NAK of the given server. -/
def nakFrom (server : UInt32) : DhcpMsg :=
  (reply [0, 0, 0, 0] [255] (by decide +kernel)).withOptions (optionField (nakOptions server))
    (length_optionField _ (show 9 < optionsSize by decide))

theorem holds_nakFrom (server : UInt32) : Holds (nakFrom server) (nakOptions server) where
  options := DhcpMsg.withOptions_options _ _ _
  short := by
    intro call hcall
    simp only [nakOptions, List.mem_cons, List.not_mem_nil, or_false] at hcall
    rcases hcall with rfl | rfl
    · decide
    · exact (length_htonl server).le.trans (by decide)
  file := (DhcpMsg.withOptions_file _ _ _).trans (by decide +kernel)
  sname := (DhcpMsg.withOptions_sname _ _ _).trans (by decide +kernel)

theorem nakFrom_valid (cs : ClientState) :
    validateServerid cs (nakFrom cs.serverAddr) = true ∧
      getOptionMsgtype (nakFrom cs.serverAddr) = DHCPNAK := by
  have hholds := holds_nakFrom cs.serverAddr
  have hsid : getDhcpOpt (nakFrom cs.serverAddr) DCODE_SERVER_ID MAX_DOPT_SIZE = htonl cs.serverAddr :=
    hholds.getDhcpOpt _ _ DCODE_SERVER_ID
  have htype : getDhcpOpt (nakFrom cs.serverAddr) DCODE_MSGTYPE MAX_DOPT_SIZE = [DHCPNAK] :=
    hholds.getDhcpOpt _ _ DCODE_MSGTYPE
  constructor
  · unfold validateServerid getOptionServerid getOption32
    simp only [hsid, length_htonl, word32_htonl, if_true, beq_self_eq_true]
  · unfold getOptionMsgtype
    simp only [htype]
    rfl

section
variable (cfg : ClientConfig)

/-- The step hands over no DHCP packet. -/
def Step.NoPacket : Step → Prop
  | .handle _ inp => inp.sevDhcp = false
  | _ => True

/-- The call is given a packet of our server, and no signal. -/
structure Answer (env : Env) (inp : Input) (s : Sys) : Prop where
  signal : inp.sevSignal = .none
  packet : inp.sevDhcp = true
  msgtype : inp.dhcpMsgtype = getOptionMsgtype inp.dhcpPacket
  server : validateServerid s.cs inp.dhcpPacket = true
  -- `get_leasetime` reads the clock after the call was given its time
  clock : inp.nowts ≤ env.curms .getLeasetime

/-- An answer that comes at `nowts` takes effect: an ACK for the address held refreshes the
lease and closes the listening socket, a NAK leads back to SELECTING. -/
def TakesEffect (s : Sys) (nowts : Int) : Prop :=
  ∀ env inp, Answer env inp s → inp.nowts = nowts →
    (inp.dhcpMsgtype = DHCPACK → inp.dhcpPacket.yiaddr = s.cs.clientAddr →
      leaseTerms ((Step.handle env inp).next cfg s) = leaseTerms (withLease env inp.dhcpPacket s) ∧
        (((Step.handle env inp).next cfg s).pc = .bound →
          ((Step.handle env inp).next cfg s).cs.listenFd = -1)) ∧
    (inp.dhcpMsgtype = DHCPNAK →
      ((Step.handle env inp).next cfg s).pc = .selecting ∨
        ((Step.handle env inp).next cfg s).pc = .dead)

theorem takesEffect_iff (s : Sys) (nowts : Int) (hpc : s.pc = .bound) :
    TakesEffect cfg s nowts ↔ isRenewing s.cs nowts := by
  constructor
  · intro heffect
    by_contra hearly
    obtain ⟨hvalid, htype⟩ := nakFrom_valid s.cs
    have hnak := (heffect { calmEnv with curms := fun _ => nowts }
      { quietInput nowts with
        sevDhcp := true, dhcpPacket := nakFrom s.cs.serverAddr, dhcpMsgtype := DHCPNAK }
      ⟨rfl, rfl, htype.symm, hvalid, Int.le_refl nowts⟩ rfl).2 rfl
    have hstays := bound_unheard { calmEnv with curms := fun _ => nowts } cfg s hpc nowts
      (nakFrom s.cs.serverAddr) DHCPNAK hearly
    rcases hnak with h | h
    · exact nomatch h.symm.trans hstays
    · exact nomatch h.symm.trans hstays
  · rintro hrenew env inp hans rfl
    refine ⟨fun htype hip => ?_, fun htype => ?_⟩
    · have hack : Accepts inp DHCPACK s := ⟨hans.packet, hrenew, htype, hans.server⟩
      refine ⟨(bound_terms env cfg inp s hpc).1 ⟨Or.inl hans.signal, hack⟩, ?_⟩
      exact bound_ack_closed env cfg inp s hpc hans.signal hack hip hans.clock
    · exact bound_nak env cfg inp s hpc hans.signal ⟨hans.packet, hrenew, htype, hans.server⟩

/-- Without a packet the terms stay as they are. -/
theorem run_terms (steps : List Step) (s : Sys)
    (h : Along cfg (fun st s => s.pc = .bound ∧ st.NoPacket) steps s) :
    leaseTerms (run cfg steps s) = leaseTerms s := by
  induction steps generalizing s with
  | nil => rfl
  | cons st steps ih =>
    obtain ⟨⟨hpc, hno⟩, hrest⟩ := h
    refine (ih _ hrest).trans ?_
    by_contra hne
    obtain ⟨env, inp, rfl, -, hext, -⟩ := st.terms_ne cfg s (Or.inl hpc) hne
    have hdhcp : inp.sevDhcp = false := hno
    exact nomatch hdhcp.symm.trans hext.2.1

/-! ### Listening for the answer -/

section
variable (env : Env) (inp : Input)

/-- The process goes on only with the listening socket open. -/
def Listens (e : Stop) (t : Sys) : Prop := ∀ code, e = .ret code → 0 ≤ t.cs.listenFd

theorem startDhcpListen_opens (site : Site) (s : Sys) :
    wp (startDhcpListen env site) (fun _ t => 0 ≤ t.cs.listenFd)
      (fun e t => e = .exit ∧ t.pc = .dead) s := by
  unfold startDhcpListen
  rw [wp_bind, wp_get, wp_ite]
  split
  · next hfd => exact hfd
  · rw [wp_bind]
    cases env.sockd site with
    | none => exact ⟨rfl, rfl⟩
    | some r =>
      show wp (if r.1 < 0 then suicide else pure ()) _ _ _
      rw [wp_ite]
      split
      · exact ⟨rfl, rfl⟩
      · next hfd => exact Int.not_lt.mp hfd

/-- A message sent behind `start_dhcp_listen` leaves the socket it opened. -/
theorem wp_listen_send {α : Type} (site : Site) (send : M Int) (next : Int → M α) (Q : α → Sys → Prop) (s : Sys)
    [Routine listening AnyWay send] (h : ∀ r u, 0 ≤ u.cs.listenFd → wp (next r) Q (fun _ _ => True) u) :
    wp (startDhcpListen env site >>= fun _ => send >>= next) Q (fun _ _ => True) s := by
  rw [wp_bind]
  apply wp_mono _ _ s _ _ _ (startDhcpListen_opens env site s) ?_ (fun _ _ _ => trivial)
  intro _ t ht
  apply wp_call listening AnyWay _ _ t _ _ ?_ (fun _ _ h => h)
  intro r u hu
  exact h r u (ht.trans (le_of_eq hu.symm))

theorem frenew_opens (s : Sys) :
    wp (frenew env true) (fun _ t => 0 ≤ t.cs.listenFd) (fun _ _ => True) s := by
  apply wp_listen_send env .frenew
  intro r u hopen
  rw [wp_ite]
  split
  · exact hopen
  · exact hopen

theorem requestExtension_opens (site : Site) (send : M Int) (limit : ClientState → Int) (nowts : Int)
    (s : Sys) [Routine listening AnyWay send] :
    wp (requestExtension env site send limit nowts) (fun r t => r = .expired ∨ 0 ≤ t.cs.listenFd)
      (fun _ _ => True) s := by
  unfold requestExtension
  apply wp_listen_send env site
  intro r u hopen
  rw [wp_ite]
  split
  · exact Or.inr hopen
  · exact Or.inr hopen

theorem rebindingTimeout_opens (nowts : Int) (s : Sys) :
    wp (rebindingTimeout env nowts) (fun r t => r = .expired ∨ 0 ≤ t.cs.listenFd)
      (fun _ _ => True) s := by
  unfold rebindingTimeout
  rw [wp_bind, wp_get, wp_ite]
  split
  · exact wp_bind_all _ _ s _ _ (fun _ _ => Or.inl rfl) (fun _ _ => trivial)
  · exact requestExtension_opens env _ _ _ nowts s

theorem renewingTimeout_opens (nowts : Int) (s : Sys) :
    wp (renewingTimeout env nowts) (fun r t => r = .expired ∨ 0 ≤ t.cs.listenFd)
      (fun _ _ => True) s := by
  unfold renewingTimeout
  rw [wp_bind, wp_get, wp_ite]
  split
  · exact rebindingTimeout_opens env nowts s
  · exact requestExtension_opens env _ _ _ nowts s

theorem leaseTimeout_opens (nowts : Int) (s : Sys) (hs : 0 ≤ s.cs.listenFd) :
    wp (leaseTimeout env nowts) (fun r t => r = .expired ∨ 0 ≤ t.cs.listenFd) (fun _ _ => True) s := by
  unfold leaseTimeout boundTimeout
  rw [wp_bind, wp_get, wp_ite]
  split
  · exact rebindingTimeout_opens env nowts s
  · rw [wp_ite]
    split
    · exact renewingTimeout_opens env nowts s
    · rw [wp_bind, wp_get, wp_ite]
      split
      · exact Or.inr hs
      · exact renewingTimeout_opens env nowts s

theorem boundSignal_listens (s : Sys) (hs : inp.sevSignal = .renew ∨ 0 ≤ s.cs.listenFd) :
    wp (boundSignal env inp) (fun _ t => 0 ≤ t.cs.listenFd) Listens s := by
  unfold boundSignal
  rw [wp_ite]
  split
  · next hsig =>
    have hfd : 0 ≤ s.cs.listenFd := hs.resolve_left (by rw [hsig]; decide)
    apply wp_sub_of _ _ s _ _ ?_ (fun _ _ => Stop.exit_ret_elim)
    apply wp_mono _ _ s _ _ _ (xmitRelease_keeps listening env s) ?_ (fun _ _ h => h)
    intro r t ht
    rw [wp_ite]
    split
    · next hr => exact fun _ _ => hfd.trans (le_of_eq (ht.resolve_left hr).symm)
    · exact Stop.goto_ret_elim
  · rw [wp_ite]
    split
    · apply wp_sub_of _ _ s _ _ ?_ (fun _ _ => Stop.exit_ret_elim)
      apply wp_mono _ _ s _ _ _ (frenew_opens env s) ?_ (fun _ _ h => h)
      intro r t ht
      rw [wp_ite]
      split
      · exact fun _ _ => ht
      · exact ht
    · next hsig => exact hs.resolve_left hsig

theorem boundTimer_listens (s : Sys) (hs : 0 ≤ s.cs.listenFd) :
    wp (boundTimer env inp) (fun _ t => 0 ≤ t.cs.listenFd) Listens s := by
  unfold boundTimer
  rw [wp_ite]
  split
  · apply wp_sub_of _ _ s _ _ ?_ (fun _ _ => Stop.exit_ret_elim)
    apply wp_mono _ _ s _ _ _ (leaseTimeout_opens env inp.nowts s hs) ?_ (fun _ _ h => h)
    intro r t ht
    cases r with
    | wait => exact fun _ _ => ht.resolve_left nofun
    | expired => exact Stop.goto_ret_elim
    | hardfail => exact fun _ _ => ht.resolve_left nofun
  · exact fun _ _ => hs

theorem wp_listens {β : Type} (m : M β) (k : β → M Unit) [h : Routine listening OnReturn m] (s : Sys)
    (hs : 0 ≤ s.cs.listenFd)
    (hk : ∀ b t, 0 ≤ t.cs.listenFd → wp (k b) (fun _ t => 0 ≤ t.cs.listenFd) Listens t) :
    wp (m >>= k) (fun _ t => 0 ≤ t.cs.listenFd) Listens s := by
  rw [wp_bind]
  apply wp_mono _ _ s _ _ _ (h.ends s)
  · exact fun b t ht => hk b t (hs.trans (le_of_eq ht.symm))
  · exact fun e t ht code he => hs.trans (le_of_eq (ht code he).symm)

/-- Only an ACK that is accepted closes the socket. -/
theorem boundDhcp_listens (s : Sys) (hs : 0 ≤ s.cs.listenFd) (hno : ¬ Accepts inp DHCPACK s) :
    wp (boundDhcp env cfg inp) (fun _ t => 0 ≤ t.cs.listenFd) Listens s := by
  unfold boundDhcp
  rw [wp_bind, wp_get, wp_ite]
  split
  · next hin =>
    rw [wp_bind]
    apply wp_mono _ _ s _ _ _ (extendPacket_returns env inp.dhcpPacket inp.dhcpMsgtype s)
    · intro r t ht
      have hack : ∀ P : Prop, inp.dhcpMsgtype = DHCPACK → validateServerid s.cs inp.dhcpPacket = true → P :=
        fun _ htype hserver => absurd ⟨hin.1, hin.2, htype, hserver⟩ hno
      cases r with
      | ignore =>
        obtain ⟨rfl, -⟩ := ht
        exact hs
      | success => exact hack _ ht.1 ht.2.1
      | checkIp => exact hack _ ht.1 ht.2.1
      | rejected => exact Stop.goto_ret_elim
    · rintro e t ⟨rfl, -⟩
      exact Stop.exit_ret_elim
  · exact hs

/-- Without an ACK that is accepted a pass keeps the socket open. -/
theorem boundPass_listens (s : Sys) (hs : inp.sevSignal = .renew ∨ 0 ≤ s.cs.listenFd)
    (hno : ¬ Accepts inp DHCPACK s) :
    wp (boundPass env cfg inp) (fun _ t => 0 ≤ t.cs.listenFd) Listens { s with out := [] } := by
  unfold boundPass
  rw [wp_bind]
  have hsignal := wp_and _ _ _ _ _ _ (boundSignal_listens env inp { s with out := [] } hs)
    (boundSignal_ends env cfg inp s { s with out := [] } rfl)
  apply wp_mono _ _ _ _ _ _ hsignal ?_ (fun _ _ h => h.1)
  rintro _ t ⟨ht, hcore, -⟩
  have hno' : ¬ Accepts inp DHCPACK t := by
    intro h
    apply hno
    have hstart : core t = (core s).fresh := hcore
    exact ⟨h.1, (isRenewing_congr s t inp.nowts hstart).mp h.2.1, h.2.2.1,
      (validateServerid_congr s t inp.dhcpPacket hstart).symm.trans h.2.2.2⟩
  rw [wp_bind]
  apply wp_mono _ _ t _ _ _ (boundDhcp_listens cfg env inp t ht hno') ?_ (fun _ _ h => h)
  intro _ t ht
  apply wp_listens _ _ t ht
  intro _ u hu
  apply wp_listens _ _ u hu
  intro _ v hv
  apply wp_listens _ _ v hv
  intro _ w hw
  exact boundTimer_listens env inp w hw

end

instance (env : Env) (stale : ArpMsg) (rd : ReadResult) :
    Routine listening AnyWay (arpPacketGet env cfg stale rd) := by
  cases rd with
  | again => exact inferInstanceAs (Routine listening AnyWay (pure false))
  | error =>
    unfold arpPacketGet
    infer_instance
  | data frame =>
    unfold arpPacketGet
    infer_instance

theorem dhcpPacketGet_listens (env : Env) (ck : NetChecksum) (rd : ReadResult) (buf : DhcpMsg)
    (s : Sys) (hs : 0 ≤ s.cs.listenFd) :
    wp (dhcpPacketGet env cfg ck rd buf) (fun _ t => 0 ≤ t.cs.listenFd) (fun _ t => t.pc = .dead) s := by
  unfold dhcpPacketGet
  rw [wp_bind, wp_get, wp_ite]
  split
  · exact hs
  · rw [wp_ite]
    split
    · show wp (startDhcpListen env .dhcpReopen >>= fun _ => pure (buf, none)) _ _ _
      rw [wp_bind]
      exact wp_mono _ _ _ _ _ _ (startDhcpListen_opens env .dhcpReopen _) (fun _ _ h => h)
        (fun _ _ h => h.2)
    · exact hs

/-- The step accepts an ACK. -/
def Step.Accepts : Step → Sys → Prop
  | .handle _ inp, s => Ndhc.Accepts inp DHCPACK s
  | _, _ => False

theorem Step.NoPacket.not_accepts (st : Step) (h : st.NoPacket) (s : Sys) : ¬ st.Accepts s := by
  cases st with
  | handle env inp => exact fun ha => Bool.false_ne_true (h.symm.trans ha.1)
  | _ => exact id

/-- A step in the phase that accepts no ACK keeps the socket open, or opens it. -/
theorem Step.listens (st : Step) (s : Sys) (hpc : InLease s) (hno : ¬ st.Accepts s)
    (hs : 0 ≤ s.cs.listenFd ∨ ∃ env inp, st = .handle env inp ∧ inp.sevSignal = .renew)
    (hstays : InLease (st.next cfg s)) : 0 ≤ (st.next cfg s).cs.listenFd := by
  have hlive : (st.next cfg s).pc ≠ .dead := by
    rintro hd
    rcases hstays with h | h <;> exact nomatch hd.symm.trans h
  cases st with
  | idle =>
    rcases hs with hs | ⟨_, _, h, -⟩
    · exact hs
    · cases h
  | exit => exact absurd rfl hlive
  | arp env stale rd =>
    rcases hs with hs | ⟨_, _, h, -⟩
    · have hread := final_stays listening (arpPacketGet env cfg stale rd) { s with out := [] } hlive
      exact hs.trans (le_of_eq hread.symm)
    · cases h
  | dhcp env ck rd buf =>
    rcases hs with hs | ⟨_, _, h, -⟩
    · refine final_of_wp (dhcpPacketGet env cfg ck rd buf) { s with out := [] }
        (fun t => t.pc ≠ .dead → 0 ≤ t.cs.listenFd) ?_ hlive
      exact wp_mono _ _ _ _ _ _ (dhcpPacketGet_listens cfg env ck rd buf { s with out := [] } hs)
        (fun _ _ h _ => h) (fun _ _ h hb => absurd h hb)
    · cases h
  | handle env inp =>
    rcases hpc with hpc | hpc
    · refine lease_stays env cfg inp (fun t => 0 ≤ t.cs.listenFd) s hpc ?_ hstays
      refine wp_mono _ _ _ _ _ _ (boundPass_listens cfg env inp s ?_ hno)
        (fun _ _ _ => trivial) (fun _ _ h => h)
      rcases hs with hs | ⟨_, _, h, hsig⟩
      · exact Or.inr hs
      · cases h
        exact Or.inl hsig
    · -- behind a failed `ifchange_deconfig` the next call leaves the phase
      refine absurd hstays (final_of_wp (dhcpHandle env cfg inp) s (fun t => ¬ InLease t) ?_)
      exact wp_mono _ _ s _ _ _ (newlease_call env cfg inp s hpc) (fun _ _ h => h.elim)
        (EndsIdle.not_inLease _)

theorem run_listens (steps : List Step) (s : Sys)
    (h : Along cfg (fun st s => InLease s ∧ ¬ st.Accepts s) steps s)
    (hpc : InLease (run cfg steps s)) (hs : 0 ≤ s.cs.listenFd) :
    0 ≤ (run cfg steps s).cs.listenFd := by
  induction steps generalizing s with
  | nil => exact hs
  | cons st steps ih =>
    obtain ⟨⟨hlease, hno⟩, hrest⟩ := h
    have hnext : InLease (st.next cfg s) := by
      cases steps with
      | nil => exact hpc
      | cons st' steps => exact hrest.1.1
    exact ih _ hrest hpc (st.listens cfg s hlease hno (Or.inl hs) hnext)

/-- **A forced renewal takes effect**, exactly if its answer comes at renewal time or later; the
client listens for it in either case. -/
theorem forced_renewal_iff (b : Startup) (pre mid : List Step) (env : Env) (inp : Input) (nowts : Int)
    (hsignal : inp.sevSignal = .renew)
    (hquiet : Along cfg (fun st s => s.pc = .bound ∧ st.NoPacket) (.handle env inp :: mid)
      (run cfg pre (.start b)))
    (hbound : (run cfg (.handle env inp :: mid) (run cfg pre (.start b))).pc = .bound) :
    0 ≤ (run cfg (.handle env inp :: mid) (run cfg pre (.start b))).cs.listenFd ∧
      (TakesEffect cfg (run cfg (.handle env inp :: mid) (run cfg pre (.start b))) nowts ↔
        isRenewing (run cfg pre (.start b)).cs nowts) := by
  generalize run cfg pre (.start b) = s at hquiet hbound ⊢
  constructor
  · obtain ⟨⟨hpc, hno⟩, hmid⟩ := hquiet
    have hnext : ((Step.handle env inp).next cfg s).pc = .bound := by
      cases mid with
      | nil => exact hbound
      | cons st mid => exact hmid.1.1
    have hopen := Step.listens cfg (.handle env inp) s (Or.inl hpc) (hno.not_accepts _ s)
      (Or.inr ⟨env, inp, rfl, hsignal⟩) (Or.inl hnext)
    have hphase : Along cfg (fun st s => InLease s ∧ ¬ st.Accepts s) mid _ :=
      Along.mono cfg _ _ (fun st t h => ⟨Or.inl h.1, h.2.not_accepts st t⟩) mid _ hmid
    exact run_listens cfg mid _ hphase (Or.inl hbound) hopen
  · have hterms := run_terms cfg _ s hquiet
    rw [takesEffect_iff cfg _ nowts hbound]
    have hstart := congrArg Prod.fst hterms
    have hrenew := congrArg (fun T => T.2.2.1) hterms
    unfold isRenewing
    simp only at hstart hrenew
    rw [hstart, hrenew]

end

def forcedEnv : Env := { calmEnv with curms := fun _ => 60000 }

/-- A minute into the lease a signal asks for its renewal. -/
def forcedInput : Input := { quietInput 60000 with sevSignal := .renew }

/-- The renewal is asked for, and its answer awaited. -/
def forcedState : Sys :=
  run exampleConfig [.handle forcedEnv forcedInput] (run exampleConfig boundRun exampleStart)

theorem forced_renewal_at_half : TakesEffect exampleConfig forcedState 1800000 := by
  have h := forced_renewal_iff exampleConfig ⟨0, false, false, 3, true, by decide⟩ boundRun []
    forcedEnv forcedInput 1800000 rfl ⟨⟨by decide +kernel, rfl⟩, trivial⟩ (by decide +kernel)
  exact h.2.mpr (by decide +kernel)

/-- A second after the signal the server acknowledges; the lease stays as it was. -/
theorem forced_renewal_unheard : ¬ TakesEffect exampleConfig forcedState 61000 := by
  intro h
  have hack := (h { calmEnv with curms := fun _ => 61000 }
    { quietInput 61000 with sevDhcp := true, dhcpPacket := exampleAck, dhcpMsgtype := DHCPACK }
    ⟨rfl, rfl, by decide +kernel, by decide +kernel, by decide⟩ rfl).1 rfl (by decide +kernel)
  exact absurd hack.1 (by decide +kernel)

end Ndhc
