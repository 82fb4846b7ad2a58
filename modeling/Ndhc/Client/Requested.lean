import Ndhc.Client.Revalidation

/-!
# Whether a bound address was requested

Between an offer and the ACK stands the request that `requesting_timeout` sends.  The packet is
looked at before the timer, so an ACK for the offered address that comes in ahead of the first
timeout is accepted without one, and the address is probed and bound (`bind_requested_iff`).
-/

open Prog

namespace Ndhc

/-! ## Statement -/

/-- The call takes an offer: `selecting_packet` returns `ANP_SUCCESS`. -/
def TakesOffer (inp : Input) (s : Sys) : Prop :=
  (s.pc = .init ∨ s.pc = .selecting) ∧ inp.sevSignal ≠ .release ∧ inp.sevDhcp = true ∧
    inp.dhcpMsgtype = DHCPOFFER ∧ getOptionServerid inp.dhcpPacket ≠ none

/-- The call takes an ACK: `selecting_packet` returns `ANP_CHECK_IP`. -/
def TakesAck (inp : Input) (s : Sys) : Prop :=
  inp.sevSignal ≠ .release ∧ inp.sevDhcp = true ∧ inp.dhcpMsgtype = DHCPACK ∧
    inp.dhcpPacket.yiaddr = s.cs.clientAddr ∧ getOptionServerid inp.dhcpPacket ≠ none

def Step.TakesAck : Step → Sys → Prop
  | .handle _ inp, s => s.pc = .requesting ∧ Ndhc.TakesAck inp s
  | _, _ => False

/-- A timeout of the call has a request sent. -/
def TimerSends (env : Env) (inp : Input) : Prop :=
  inp.dhcpTimeout = true ∧ ¬ SendFails env .requestingTimeout

def Step.TimerSends : Step → Prop
  | .handle env inp => Ndhc.TimerSends env inp
  | _ => False

/-- The step sends a request for `a`. -/
def Step.Requests (cfg : ClientConfig) (a : UInt32) (st : Step) (s : Sys) : Prop :=
  ∃ xid sid, Effect.dhcp ⟨DHCPREQUEST, xid, 0, some a, some sid⟩ ∈ (st.next cfg s).out

section
variable (env : Env) (cfg : ClientConfig) (inp : Input)

/-! ## A call that requests -/

/-- The call waits on for an ACK for `a`, with a request sent exactly if the timer does. -/
structure Waits (a : UInt32) (t : Sys) : Prop where
  pc : t.pc = .requesting
  clientAddr : t.cs.clientAddr = a
  out : (TimerSends env inp ∧ ∃ xid sid, t.out = [.dhcp ⟨DHCPREQUEST, xid, 0, some a, some sid⟩]) ∨
    (¬ TimerSends env inp ∧ t.out = [])

theorem requestTimer_waits (s : Sys) (hout : s.out = []) :
    wp (requestTimer env inp .requesting) (fun _ _ => False) (Returning fun t => Waits env inp s.cs.clientAddr t) s := by
  unfold requestTimer
  rw [wp_ite]
  split
  · next htimeout =>
    unfold requestingTimeout
    rw [wp_bind, wp_bind, wp_get, wp_ite]
    split
    · exact wp_sub _ _ s _ _ (fun _ _ _ => Stop.goto_ret_elim) (fun _ _ => Stop.exit_ret_elim)
    · unfold sendSelecting sendDhcp
      rw [wp_bind, wp_bind, wp_get, wp_bind]
      cases hsend : env.send .requestingTimeout with
      | none => exact Stop.exit_ret_elim
      | some r =>
        show wp (if r < 0 then pure r else _) _ _ s
        rw [wp_ite]
        split
        · next hr =>
          show wp (if r < 0 then pure Req.fail else _) _ _ s
          rw [if_pos hr]
          exact fun _ _ => ⟨rfl, rfl, Or.inr ⟨fun h => h.2 ⟨r, hsend, hr⟩, hout⟩⟩
        · next hr =>
          show wp (if r < 0 then pure Req.fail else _) _ _ _
          rw [if_neg hr]
          have hsent : s.out ++ [Effect.dhcp ⟨DHCPREQUEST, s.cs.xid, 0, some s.cs.clientAddr, some s.cs.serverAddr⟩] =
              [.dhcp ⟨DHCPREQUEST, s.cs.xid, 0, some s.cs.clientAddr, some s.cs.serverAddr⟩] := by
            rw [hout, List.nil_append]
          exact fun _ _ => ⟨rfl, rfl,
            Or.inl ⟨⟨htimeout, not_sendFails env _ r hsend hr⟩, s.cs.xid, s.cs.serverAddr, hsent⟩⟩
  · next htimeout => exact fun _ _ => ⟨rfl, rfl, Or.inr ⟨fun h => htimeout h.1, hout⟩⟩

/-- The ACK is accepted and its address about to be probed. -/
def Acked (s t : Sys) : Prop := t.pc = .probing ∧ TakesAck inp s ∧ probed t = s.cs.clientAddr

theorem selectingPacket_acked (s : Sys) :
    wp (selectingPacket env inp.dhcpPacket inp.dhcpMsgtype inp.dhcpSrcaddr true)
      (fun r t => (r = .ignore ∧ t = s) ∨ (r = .checkIp ∧ inp.dhcpMsgtype = DHCPACK ∧
        inp.dhcpPacket.yiaddr = s.cs.clientAddr ∧ getOptionServerid inp.dhcpPacket ≠ none))
      (fun e _ => e = .exit) s := by
  unfold selectingPacket
  rw [wp_bind, wp_get, wp_ite, if_neg (by simp), wp_ite]
  split
  · next h =>
    unfold selectingAck
    split
    · exact Or.inl ⟨rfl, rfl⟩
    · next sid hsid =>
      rw [wp_bind]
      apply wp_mono _ _ s _ _ _ (noteServer_ends sid inp.dhcpSrcaddr s) _ (fun _ _ h => h.elim)
      intro _ t _
      exact Or.inr ⟨rfl, h.2.1, h.2.2, by rw [hsid]; exact Option.some_ne_none sid⟩
  · exact Or.inl ⟨rfl, rfl⟩

theorem requestingPass_waits (s : Sys) (hout : s.out = []) :
    wp (requestingPass env cfg inp) (fun _ _ => False)
      (Returning fun t => Waits env inp s.cs.clientAddr t ∨ Acked inp s t) s := by
  have htimer : wp (requestTimer env inp .requesting) (fun _ _ => False)
      (Returning fun t => Waits env inp s.cs.clientAddr t ∨ Acked inp s t) s :=
    wp_mono _ _ s _ _ _ (requestTimer_waits env inp s hout) (fun _ _ h => h)
      (fun _ _ h code hret => Or.inl (h code hret))
  unfold requestingPass
  by_cases hsig : inp.sevSignal = .release
  · rw [wp_bind]
    unfold onRelease
    rw [if_pos hsig]
    exact wp_sub _ _ s _ _ (fun _ _ _ => Stop.goto_ret_elim) (fun _ _ => Stop.exit_ret_elim)
  · rw [wp_bind_idle _ _ _ _ _ (onRelease_of_not inp s hsig)]
    unfold requestingDhcp
    rw [wp_bind, wp_ite]
    split
    · next hdhcp =>
      rw [wp_bind]
      apply wp_mono _ _ s _ _ _ (selectingPacket_acked env inp s) _
        (fun _ _ h => by rw [h]; exact Stop.exit_ret_elim)
      rintro r u (⟨rfl, rfl⟩ | ⟨rfl, hack⟩)
      · exact htimer
      · show wp (arpCheck env cfg inp.dhcpPacket >>= _) _ _ u
        rw [wp_bind]
        apply wp_mono _ _ u _ _ _ (arpCheck_ends env cfg inp.dhcpPacket u) _
          (fun _ _ h => by rw [h.1]; exact Stop.exit_ret_elim)
        rintro r v (⟨hr, -⟩ | ⟨hr, hv⟩)
        · show wp (if r < 0 then restart env 3000 else _) _ _ v
          rw [if_pos hr]
          exact wp_restart _ _ v env 3000 (fun _ _ => Stop.goto_ret_elim) (fun _ _ => Stop.exit_ret_elim)
        · show wp (if r < 0 then restart env 3000 else _) _ _ v
          rw [if_neg hr]
          have hprobed : probed v = inp.dhcpPacket.yiaddr := congrArg (fun c => c.dhcpPacket.yiaddr) hv
          exact fun _ _ => Or.inr ⟨rfl, ⟨hsig, hdhcp, hack⟩, hprobed.trans hack.2.1⟩
    · exact htimer

/-! ## Calls -/

/-- The address is not to be bound any more, unless it is offered again. -/
def Past (s : Sys) : Prop := s.pc = .bound ∨ s.pc = .newlease ∨ s.pc = .released ∨ s.pc = .dead

theorem EndsIdle.past (c : Core) (e : Stop) (t : Sys) (h : EndsIdle c e t) : t.pc = .selecting ∨ Past t := by
  rcases h.pc c e t with h | h | h
  · exact Or.inl h
  · exact Or.inr (Or.inr (Or.inr (Or.inl h)))
  · exact Or.inr (Or.inr (Or.inr (Or.inr h)))

/-- What a call of REQUESTING comes to. -/
def RequestingCall (s t : Sys) : Prop :=
  Waits env inp s.cs.clientAddr t ∨ Acked inp s t ∨ t.pc = .selecting ∨ Past t

theorem requesting_handle (s : Sys) (hpc : s.pc = .requesting) :
    RequestingCall env inp s (final (dhcpHandle env cfg inp) s) := by
  apply final_of_wp
  have hidle : ∀ {m : M Unit} c t, wp m (fun _ _ => False) (EndsIdle c) t →
      wp m (fun _ t => RequestingCall env inp s t) (fun _ t => RequestingCall env inp s t) t :=
    fun c t h => wp_mono _ _ t _ _ _ h (fun _ _ h => h.elim)
      (fun e u hu => Or.inr (Or.inr (hu.past c e u)))
  have hcalm : ∀ t, Calm [] (core t) (core t) := fun t => Calm.of_core _ _ t.pc rfl
  rw [wp_dhcpHandle env cfg inp _ _ s .requesting hpc, wp_follow]
  apply wp_mono _ _ _ _ _ _ (wp_and _ _ _ _ _ _ (requestingPass_ends env cfg inp { s with out := [] })
    (requestingPass_waits env cfg inp { s with out := [] } rfl)) (fun _ _ h => h.1.elim)
  rintro e t ⟨hends, hret⟩
  match e, hends with
  | .ret code, _ => exact (hret code rfl).imp_right Or.inl
  | .goto .released, h => exact hidle _ t (released_call env cfg inp 1 _ t (hcalm t) h.2)
  | .goto .reinit, _ => exact hidle _ t (reinit_call env cfg inp 0 _ t (hcalm t))
  | .exit, h => exact Or.inr (Or.inr (Or.inr (Or.inr (Or.inr (Or.inr h.2)))))

theorem selectingPass_offered (s : Sys) (hsig : inp.sevSignal ≠ .release) (hdhcp : inp.sevDhcp = true)
    (htype : inp.dhcpMsgtype = DHCPOFFER) (hsid : getOptionServerid inp.dhcpPacket ≠ none) :
    wp (selectingPass env cfg inp) (fun _ _ => False)
      (fun e t => e = .goto .requesting ∧ t.cs.clientAddr = inp.dhcpPacket.yiaddr ∧
        t.cs.numDhcpRequests = 0 ∧ t.out = s.out) s := by
  obtain ⟨sid, hsid⟩ := Option.ne_none_iff_exists'.mp hsid
  unfold selectingPass
  rw [wp_bind_idle _ _ _ _ _ (onRelease_of_not inp s hsig)]
  unfold selectingDhcp selectingPacket selectingOffer
  rw [wp_bind, wp_ite, if_pos hdhcp, wp_bind, wp_bind, wp_get, wp_ite, if_pos ⟨rfl, htype⟩, hsid]
  exact ⟨rfl, rfl, rfl, rfl⟩

/-- The jump to REQUESTING comes to the timer. -/
theorem follow_offered (s : Sys) (hsig : inp.sevSignal ≠ .release) (hnum : s.cs.numDhcpRequests = 0)
    (hout : s.out = []) :
    wp (follow env cfg inp 1 (target env cfg inp .requesting)) (fun _ _ => False)
      (fun _ t => Waits env inp s.cs.clientAddr t ∨ Past t) s := by
  rw [wp_follow]
  apply wp_mono _ _ _ _ _ _ (wp_and _ _ _ _ _ _ (requestingPass_ends env cfg { inp with sevDhcp := false } s)
    (requestingPass_waits env cfg { inp with sevDhcp := false } s hout)) (fun _ _ h => h.1)
  rintro e t ⟨hends, hret⟩
  match e, hends with
  | .ret code, _ =>
    rcases hret code rfl with hwaits | ⟨-, hack, -⟩
    · exact Or.inl ⟨hwaits.pc, hwaits.clientAddr, hwaits.out⟩
    · exact absurd hack.2.1 Bool.false_ne_true
  | .goto .released, h => exact absurd h.2 hsig
  | .goto .reinit, h =>
    rcases h.2.2.2 with hdhcp | hmany
    · exact absurd hdhcp Bool.false_ne_true
    · omega
  | .exit, h => exact Or.inr (Or.inr (Or.inr (Or.inr h.2)))

theorem offer_handle (s : Sys) (h : TakesOffer inp s) :
    Waits env inp inp.dhcpPacket.yiaddr (final (dhcpHandle env cfg inp) s) ∨
      Past (final (dhcpHandle env cfg inp) s) := by
  obtain ⟨hpc, hsig, hdhcp, htype, hsid⟩ := h
  apply final_of_wp (dhcpHandle env cfg inp) s fun t => Waits env inp inp.dhcpPacket.yiaddr t ∨ Past t
  have hselect : ∀ u, u.out = [] → wp (follow env cfg inp 2 (selectingPass env cfg inp)) (fun _ _ => False)
      (fun _ t => Waits env inp inp.dhcpPacket.yiaddr t ∨ Past t) u := by
    intro u hu
    rw [wp_follow]
    apply wp_mono _ _ _ _ _ _ (selectingPass_offered env cfg inp u hsig hdhcp htype hsid) (fun _ _ h => h)
    rintro e t ⟨rfl, haddr, hnum, hout⟩
    rw [← haddr]
    exact follow_offered env cfg inp t hsig hnum (hout.trans hu)
  rcases hpc with hpc | hpc
  · rw [wp_dhcpHandle env cfg inp _ _ s .init hpc, wp_follow]
    show wp (selectingPass env cfg inp) _ _ { s with out := [], cs.xid := env.random .reinit }
    rw [← wp_follow]
    exact wp_mono _ _ _ _ _ _ (hselect _ rfl) (fun _ _ h => h.elim) (fun _ _ h => h)
  · rw [wp_dhcpHandle env cfg inp _ _ s .selecting hpc]
    exact wp_mono _ _ _ _ _ _ (hselect { s with out := [] } rfl) (fun _ _ h => h.elim) (fun _ _ h => h)

end

/-! ## A call with a lease binds nothing -/

def Effect.isBind : Effect → Bool
  | .bind _ => true
  | _ => false

/-- The addresses bound in the call. -/
@[reducible] def bindings (s : Sys) : List Effect := s.out.filter Effect.isBind

theorem bindings_eq_marks (s : Sys) : bindings s = (core s).marks.filter Effect.isBind := by
  show _ = (s.out.filter Effect.isMark).filter Effect.isBind
  rw [List.filter_filter]
  apply List.filter_congr
  intro e _
  cases e <;> rfl

theorem bindings_nil_of_marks (s t : Sys) (hmarks : (core t).marks = (core s).marks) (hs : bindings s = []) :
    bindings t = [] := by
  rw [bindings_eq_marks] at hs ⊢
  rw [hmarks]
  exact hs

theorem bind_not_mem (a : UInt32) (s : Sys) (h : bindings s = []) : Effect.bind a ∉ s.out := by
  intro hmem
  have hbind : Effect.bind a ∈ bindings s := List.mem_filter.mpr ⟨hmem, rfl⟩
  rw [h] at hbind
  exact List.not_mem_nil hbind

theorem keeps_emit (e : Effect) (h : e.isBind = false) : Keeps bindings [] (emit e) where
  ends s hs := by
    show (s.out ++ [e]).filter Effect.isBind = []
    have hnil : s.out.filter Effect.isBind = [] := hs
    rw [List.filter_append, hnil, List.filter_singleton, h]
    rfl

section
variable {α : Type} (env : Env) (cfg : ClientConfig) (inp : Input)

instance (priority := low) (m : M α) [h : Routine core Dies m] : Keeps bindings [] m where
  ends s hs := by
    apply wp_mono _ _ s _ _ _ (h.ends s)
    · intro _ t ht
      have hmarks : (core t).marks = (core s).marks := congrArg Core.marks ht
      exact bindings_nil_of_marks s t hmarks hs
    · rintro _ t ⟨-, hd⟩
      have hmarks : (core t).marks = (core s).marks := by rw [hd]
      exact bindings_nil_of_marks s t hmarks hs

instance (l : Label) : Keeps bindings [] (goto l : M α) := ⟨fun _ h => h⟩

instance (code : Int) (pc : Pc) : Keeps bindings [] (scrReturn code pc : M α) := ⟨fun _ h => h⟩

instance (a : UInt32) : Keeps bindings [] (emit (.arpCheck a)) := keeps_emit _ rfl

instance : Keeps bindings [] (emit .deconfig) := keeps_emit _ rfl

instance (packet : DhcpMsg) : Keeps bindings [] (getLeasetime env packet) := ⟨fun _ h => h⟩

set_option synthInstance.maxSize 256 in
instance (packet : DhcpMsg) : Keeps bindings [] (arpCheck env cfg packet) := by
  unfold arpCheck
  infer_instance

instance : Keeps bindings [] (ifchangeDeconfig env) := by
  unfold ifchangeDeconfig
  infer_instance

instance (timeout : Int) : Keeps bindings [] (restart env timeout : M α) := by
  unfold restart
  infer_instance

instance (packet : DhcpMsg) (msgtype : UInt8) : Keeps bindings [] (extendPacket env packet msgtype) := by
  unfold extendPacket
  infer_instance

instance : Keeps bindings [] (boundSignal env inp) := by
  unfold boundSignal
  infer_instance

instance : Keeps bindings [] (boundDhcp env cfg inp) := by
  unfold boundDhcp
  infer_instance

instance : Keeps bindings [] (boundDefense env cfg) := by
  unfold boundDefense
  infer_instance

instance : Keeps bindings [] (boundGwQuery env cfg) := by
  unfold boundGwQuery
  infer_instance

instance : Keeps bindings [] (gwLost env) := by
  unfold gwLost
  infer_instance

instance : Keeps bindings [] (boundGwCheck env cfg) := by
  unfold boundGwCheck
  infer_instance

instance : Keeps bindings [] (boundArp env cfg inp) := by
  unfold boundArp
  infer_instance

instance : Keeps bindings [] (boundAnnounce env inp) := by
  unfold boundAnnounce
  infer_instance

instance : Keeps bindings [] (boundGwTimeout env inp) := by
  unfold boundGwTimeout
  infer_instance

instance : Keeps bindings [] (boundArpTimeout env inp) := by
  unfold boundArpTimeout
  infer_instance

instance : Keeps bindings [] (boundIfup env inp) := by
  unfold boundIfup
  infer_instance

instance : Keeps bindings [] (boundTimer env inp) := by
  unfold boundTimer
  infer_instance

instance : Keeps bindings [] (boundPass env cfg inp) := by
  unfold boundPass
  infer_instance

theorem EndsIdle.bindings (c : Core) (e : Stop) (t : Sys) (h : EndsIdle c e t)
    (hc : c.marks.filter Effect.isBind = []) : bindings t = [] := by
  rw [bindings_eq_marks, (h.calm c e t).marks, List.append_nil]
  exact hc

/-- Once the ACK's address is bound or given up, nothing is bound. -/
theorem past_handle (s : Sys) (h : Past s) :
    bindings (final (dhcpHandle env cfg inp) s) = [] ∧
      ((final (dhcpHandle env cfg inp) s).pc = .selecting ∨ Past (final (dhcpHandle env cfg inp) s)) := by
  apply final_of_wp (dhcpHandle env cfg inp) s fun t => bindings t = [] ∧ (t.pc = .selecting ∨ Past t)
  rcases h with hpc | hpc
  · have hidle : ∀ {m : M Unit} t, bindings t = [] → wp m (fun _ _ => False) (EndsIdle (core t)) t →
        wp m (fun _ u => bindings u = [] ∧ (u.pc = .selecting ∨ Past u))
          (fun _ u => bindings u = [] ∧ (u.pc = .selecting ∨ Past u)) t := by
      intro m t ht hm
      apply wp_mono _ _ t _ _ _ hm (fun _ _ h => h.elim)
      exact fun e u hu => ⟨hu.bindings _ e u (by rw [← bindings_eq_marks]; exact ht), hu.past _ e u⟩
    have hcalm : ∀ t, Calm [] (core t) (core t) := fun t => Calm.of_core _ _ t.pc rfl
    rw [wp_dhcpHandle env cfg inp _ _ s .bound hpc, wp_follow]
    have hpass := wp_and _ _ _ _ _ _ (boundPass_ends env cfg inp s { s with out := [] } rfl rfl)
      (Keeps.ends bindings [] (boundPass env cfg inp) { s with out := [] } rfl)
    apply wp_mono _ _ _ _ _ _ hpass (fun _ _ h => h.1.elim)
    rintro e t ⟨hends, hnone⟩
    match e, hends with
    | .ret code, h => exact ⟨hnone, Or.inr (h.2.2.imp_right fun h => Or.inl h.1)⟩
    | .goto .released, h => exact hidle t hnone (released_call env cfg inp 1 _ t (hcalm t) h.2.1)
    | .goto .reinit, _ => exact hidle t hnone (reinit_call env cfg inp 0 _ t (hcalm t))
    | .exit, h => exact ⟨hnone, Or.inr (Or.inr (Or.inr (Or.inr h.2)))⟩
  · apply wp_mono _ _ s _ _ _ (idle_call env cfg inp s hpc) (fun _ _ h => h.elim)
    exact fun e t ht => ⟨ht.bindings _ e t rfl, ht.past _ e t⟩

end

/-! ## Steps -/

/-- What is asked for, and the messages sent. -/
@[reducible] def asking (s : Sys) : UInt32 × List Effect := (s.cs.clientAddr, s.out)

section
variable (env : Env) (cfg : ClientConfig)

instance (site : Site) (defense : Bool) : Routine asking AnyWay (arpOpenFd env site defense) := by
  unfold arpOpenFd arpMinCloseFd
  infer_instance

instance (site : Site) : Routine asking AnyWay (startDhcpListen env site) := by
  unfold startDhcpListen
  infer_instance

instance (stale : ArpMsg) (rd : ReadResult) : Routine asking AnyWay (arpPacketGet env cfg stale rd) := by
  cases rd with
  | again => exact inferInstanceAs (Routine asking AnyWay (pure false))
  | error =>
    unfold arpPacketGet arpMinCloseFd
    infer_instance
  | data frame =>
    unfold arpPacketGet
    infer_instance

instance (ck : NetChecksum) (rd : ReadResult) (buf : DhcpMsg) :
    Routine asking AnyWay (dhcpPacketGet env cfg ck rd buf) := by
  unfold dhcpPacketGet stopDhcpListen
  infer_instance

end

section
variable (cfg : ClientConfig)

/-- A read sends nothing and changes nothing that is asked for. -/
theorem Step.asking_of_read (st : Step) (s : Sys) (h : ∀ env inp, st ≠ .handle env inp)
    (hlive : (st.next cfg s).pc ≠ .dead) : asking (st.next cfg s) = (s.cs.clientAddr, []) := by
  cases st with
  | idle => rfl
  | exit => exact absurd rfl hlive
  | arp env stale rd =>
    exact final_returned (arpPacketGet env cfg stale rd) { s with out := [] } (fun t => asking t = (s.cs.clientAddr, []))
      (Routine.ends (f := asking) (X := AnyWay) { s with out := [] }) hlive
  | dhcp env ck rd buf =>
    exact final_returned (dhcpPacketGet env cfg ck rd buf) { s with out := [] } (fun t => asking t = (s.cs.clientAddr, []))
      (Routine.ends (f := asking) (X := AnyWay) { s with out := [] }) hlive
  | handle env inp => exact absurd rfl (h env inp)

theorem Step.pc_of_read (st : Step) (s : Sys) (h : ∀ env inp, st ≠ .handle env inp) :
    bindings (st.next cfg s) = [] ∧ ((st.next cfg s).pc = s.pc ∨ (st.next cfg s).pc = .dead) := by
  obtain ⟨pc, hcore, hpc⟩ := st.core_of_read cfg s h
  have hmarks : (core (st.next cfg s)).marks = [] := by rw [hcore]
  have hnext : (st.next cfg s).pc = pc := congrArg Core.pc hcore
  rw [bindings_eq_marks, hmarks, hnext]
  exact ⟨rfl, hpc⟩

theorem Step.past (st : Step) (s : Sys) (h : Past s) :
    bindings (st.next cfg s) = [] ∧ ((st.next cfg s).pc = .selecting ∨ Past (st.next cfg s)) := by
  rcases st.read_or_call with hread | ⟨env, inp, rfl⟩
  · obtain ⟨hnone, hpc | hpc⟩ := st.pc_of_read cfg s hread
    · refine ⟨hnone, Or.inr ?_⟩
      unfold Past
      rw [hpc]
      exact h
    · exact ⟨hnone, Or.inr (Or.inr (Or.inr (Or.inr hpc)))⟩
  · exact past_handle env cfg inp s h

/-- Where a step of the probing phase leads. -/
theorem Step.probing_next (st : Step) (s : Sys) (hpc : s.pc = .probing) :
    (st.next cfg s).pc = .probing ∨ (st.next cfg s).pc = .selecting ∨ Past (st.next cfg s) := by
  rcases st.read_or_call with hread | ⟨env, inp, rfl⟩
  · rcases (st.pc_of_read cfg s hread).2 with h | h
    · exact Or.inl (h.trans hpc)
    · exact Or.inr (Or.inr (Or.inr (Or.inr (Or.inr h))))
  · rcases probing_handle cfg env inp s hpc with ⟨-, e, h⟩ | ⟨-, -, h⟩ | ⟨-, -, h⟩
    · rcases h with ⟨-, hstay, -⟩ | ⟨-, c, -, hidle⟩
      · exact Or.inl hstay
      · exact Or.inr (hidle.past c e _)
    · exact Or.inr (Or.inr (h.2.imp id fun h => Or.inr (Or.inr h)))
    · rcases h.2 with h | h | h | h
      · exact Or.inl h.1
      · exact Or.inr (Or.inl h)
      · exact Or.inr (Or.inr (Or.inr (Or.inr (Or.inl h))))
      · exact Or.inr (Or.inr (Or.inr (Or.inr (Or.inr h))))

theorem Waits.requests_iff (env : Env) (inp : Input) (a : UInt32) (s : Sys)
    (h : Waits env inp a ((Step.handle env inp).next cfg s)) :
    (Step.handle env inp).Requests cfg a s ↔ (Step.handle env inp).TimerSends := by
  unfold Step.Requests
  rcases h.out with ⟨hsends, xid, sid, hout⟩ | ⟨hno, hout⟩
  · rw [hout]
    exact ⟨fun _ => hsends, fun _ => ⟨xid, sid, List.mem_singleton_self _⟩⟩
  · rw [hout]
    exact ⟨fun ⟨_, _, hmem⟩ => absurd hmem List.not_mem_nil, fun h => absurd h hno⟩

/-- A step of REQUESTING waits on, and then sends a request exactly if its timer does; or it
accepts the ACK; or it gives up. -/
theorem Step.requesting_next (st : Step) (s : Sys) (hpc : s.pc = .requesting) :
    ((st.next cfg s).pc = .requesting ∧ (st.next cfg s).cs.clientAddr = s.cs.clientAddr ∧
      (st.Requests cfg s.cs.clientAddr s ↔ st.TimerSends)) ∨
    ((st.next cfg s).pc = .probing ∧ st.TakesAck s ∧ probed (st.next cfg s) = s.cs.clientAddr) ∨
    (st.next cfg s).pc = .selecting ∨ Past (st.next cfg s) := by
  rcases st.read_or_call with hread | ⟨env, inp, rfl⟩
  · rcases (st.pc_of_read cfg s hread).2 with h | h
    · have hlive : (st.next cfg s).pc ≠ .dead := by
        rw [h, hpc]
        decide
      have hasking := st.asking_of_read cfg s hread hlive
      refine Or.inl ⟨h.trans hpc, congrArg Prod.fst hasking, ?_⟩
      have hsilent : ¬ st.Requests cfg s.cs.clientAddr s := by
        rintro ⟨xid, sid, hmem⟩
        rw [show (st.next cfg s).out = [] from congrArg Prod.snd hasking] at hmem
        exact List.not_mem_nil hmem
      have hidle : ¬ st.TimerSends := by
        cases st with
        | handle env inp => exact absurd rfl (hread env inp)
        | idle => exact id
        | exit => exact id
        | arp => exact id
        | dhcp => exact id
      exact iff_of_false hsilent hidle
    · exact Or.inr (Or.inr (Or.inr (Or.inr (Or.inr (Or.inr h)))))
  · rcases requesting_handle env cfg inp s hpc with h | h | h
    · exact Or.inl ⟨h.pc, h.clientAddr, h.requests_iff cfg env inp _ s⟩
    · exact Or.inr (Or.inl ⟨h.1, ⟨hpc, h.2.1⟩, h.2.2⟩)
    · exact Or.inr (Or.inr h)

/-- Only a step of the probing phase binds. -/
theorem Step.unbound (st : Step) (a : UInt32) (s : Sys) (hprobing : s.pc ≠ .probing) :
    Effect.bind a ∉ (st.next cfg s).out := by
  apply bind_not_mem
  by_cases hbound : s.pc = .bound
  · exact (st.past cfg s (Or.inl hbound)).1
  rcases st.read_or_call with hread | ⟨env, inp, rfl⟩
  · exact (st.pc_of_read cfg s hread).1
  · apply final_of_wp (dhcpHandle env cfg inp) s fun t => bindings t = []
    apply wp_mono _ _ s _ _ _ (leaseless_call env cfg inp s hprobing hbound) (fun _ _ h => h.elim)
    intro e t h
    rw [bindings_eq_marks]
    rcases h.cases _ e t rfl with ⟨hmarks, -⟩ | ⟨addr, hmarks⟩
    · rw [hmarks]
      rfl
    · rw [hmarks]
      rfl

/-! ## Runs -/

theorem Step.bind_of_mem (st : Step) (a : UInt32) (s : Sys) (hpc : s.pc = .probing)
    (h : Effect.bind a ∈ (st.next cfg s).out) : probed s = a := by
  rw [mem_out_iff _ _ rfl] at h
  rcases (st.probing_cases cfg s hpc).1 with ⟨-, hmarks⟩ | ⟨-, -, hmarks⟩ | ⟨-, -, hmarks⟩
  · rw [hmarks] at h
    exact absurd (List.mem_singleton.mp h) nofun
  · rw [hmarks] at h
    exact (Effect.bind.inj (List.mem_singleton.mp h)).symm
  · rw [hmarks] at h
    exact absurd h List.not_mem_nil

theorem run_past (a : UInt32) (mid : List Step) (last : Step) (s : Sys) (hs : Past s)
    (hsel : Along cfg (fun _ t => t.pc ≠ .selecting) (mid ++ [last]) s) :
    Effect.bind a ∉ (last.next cfg (run cfg mid s)).out := by
  induction mid generalizing s with
  | nil => exact bind_not_mem a _ (last.past cfg s hs).1
  | cons st mid ih =>
    have hnext : (st.next cfg s).pc ≠ .selecting := by
      cases mid with
      | nil => exact hsel.2.1
      | cons => exact hsel.2.1
    exact ih _ ((st.past cfg s hs).2.resolve_left hnext) hsel.2

/-- What is bound is the address that was probed. -/
theorem run_probed (a : UInt32) (mid : List Step) (last : Step) (s : Sys) (hpc : s.pc = .probing)
    (hsel : Along cfg (fun _ t => t.pc ≠ .selecting) (mid ++ [last]) s)
    (hbind : Effect.bind a ∈ (last.next cfg (run cfg mid s)).out) : probed s = a := by
  induction mid generalizing s with
  | nil => exact last.bind_of_mem cfg a s hpc hbind
  | cons st mid ih =>
    have hnext : (st.next cfg s).pc ≠ .selecting := by
      cases mid with
      | nil => exact hsel.2.1
      | cons => exact hsel.2.1
    rcases st.probing_next cfg s hpc with h | h | h
    · rw [← (st.probing_cases cfg s hpc).2 h]
      exact ih _ h hsel.2 hbind
    · exact absurd h hnext
    · exact absurd hbind (run_past cfg a mid last _ h hsel.2)

/-- A bind finds the ACK behind it, and the timeouts before that which had a request sent. -/
theorem run_acked (a : UInt32) (mid : List Step) (last : Step) (s : Sys) (hpc : s.pc = .requesting)
    (hsel : Along cfg (fun _ t => t.pc ≠ .selecting) (mid ++ [last]) s)
    (hbind : Effect.bind a ∈ (last.next cfg (run cfg mid s)).out) :
    s.cs.clientAddr = a ∧ ∃ wait ack rest, mid = wait ++ ack :: rest ∧ ack.TakesAck (run cfg wait s) ∧
      (Sometime cfg (Step.Requests cfg a) wait s ↔ ∃ st ∈ wait, st.TimerSends) := by
  induction mid generalizing s with
  | nil => exact absurd hbind (last.unbound cfg a s (by rw [hpc]; decide))
  | cons st mid ih =>
    have hnext : (st.next cfg s).pc ≠ .selecting := by
      cases mid with
      | nil => exact hsel.2.1
      | cons => exact hsel.2.1
    rcases st.requesting_next cfg s hpc with ⟨hstay, haddr, hsends⟩ | ⟨hprobing, hack, hprobed⟩ | h | h
    · obtain ⟨ha, wait, ack, rest, rfl, hack, hiff⟩ := ih _ hstay hsel.2 hbind
      rw [haddr] at ha
      refine ⟨ha, st :: wait, ack, rest, rfl, hack, ?_⟩
      rw [ha] at hsends
      rw [List.exists_mem_cons_iff]
      exact or_congr hsends hiff
    · refine ⟨?_, [], st, mid, rfl, hack, ?_⟩
      · rw [← hprobed]
        exact run_probed cfg a mid last _ hprobing hsel.2 hbind
      · exact iff_of_false id fun ⟨_, hmem, _⟩ => absurd hmem List.not_mem_nil
    · exact absurd h hnext
    · exact absurd hbind (run_past cfg a mid last _ h hsel.2)

end

/-- **No address is bound without having been requested**, exactly if a timeout has a request sent
between the offer and the ACK. -/
theorem bind_requested_iff (cfg : ClientConfig) (b : Startup) (pre mid : List Step) (env : Env) (inp : Input)
    (last : Step) (a : UInt32) (hoffer : TakesOffer inp (run cfg pre (.start b)))
    (hsel : Along cfg (fun _ t => t.pc ≠ .selecting) (mid ++ [last])
      ((Step.handle env inp).next cfg (run cfg pre (.start b))))
    (hbind : Effect.bind a ∈
      (last.next cfg (run cfg mid ((Step.handle env inp).next cfg (run cfg pre (.start b))))).out) :
    ∃ wait ack rest, mid = wait ++ ack :: rest ∧
      ack.TakesAck (run cfg (.handle env inp :: wait) (run cfg pre (.start b))) ∧
      (Sometime cfg (Step.Requests cfg a) (.handle env inp :: wait) (run cfg pre (.start b)) ↔
        ∃ st ∈ Step.handle env inp :: wait, st.TimerSends) := by
  generalize run cfg pre (.start b) = s at *
  rcases offer_handle env cfg inp s hoffer with h | h
  · obtain ⟨haddr, wait, ack, rest, hmid, hack, hiff⟩ := run_acked cfg a mid last _ h.pc hsel hbind
    have ha : inp.dhcpPacket.yiaddr = a := h.clientAddr.symm.trans haddr
    refine ⟨wait, ack, rest, hmid, hack, ?_⟩
    rw [ha] at h
    rw [List.exists_mem_cons_iff]
    exact or_congr (h.requests_iff cfg env inp a s) hiff
  · exact absurd hbind (run_past cfg a mid last _ h hsel)

/-! ## With and without a request -/

/-- A discover message, and the offer that answers it. -/
def offerRun : List Step := [.handle calmEnv { quietInput 0 with dhcpTimeout := true }]

def offerInput : Input := { quietInput 0 with
  sevDhcp := true, dhcpPacket := exampleOffer, dhcpMsgtype := DHCPOFFER, dhcpSrcaddr := 0xc0a80101 }

/-- The timer is due with the ACK, as `dhcp_wake_ts` was set to the time of the offer. -/
def ackStep : Step := .handle calmEnv { quietInput 0 with
  sevDhcp := true, dhcpPacket := exampleAck, dhcpMsgtype := DHCPACK, dhcpSrcaddr := 0xc0a80101,
  dhcpTimeout := true }

def requestStep : Step := .handle calmEnv { quietInput 0 with dhcpTimeout := true }

def bindStep : Step := .handle calmEnv { quietInput 2000 with arpTimeout := true }

/-- The address of the offer and the ACK. -/
def leasedAddr : UInt32 := exampleAck.yiaddr

theorem offer_taken : TakesOffer offerInput (run exampleConfig offerRun exampleStart) :=
  ⟨Or.inr (by decide +kernel), by decide, rfl, rfl, by decide +kernel⟩

/-- The timer sends a request, and the ACK comes after it. -/
theorem request_before_bind :
    Sometime exampleConfig (Step.Requests exampleConfig leasedAddr) [.handle calmEnv offerInput, requestStep]
      (run exampleConfig offerRun exampleStart) := by
  obtain ⟨wait, ack, rest, hmid, hack, hiff⟩ := bind_requested_iff exampleConfig
    ⟨0, false, false, 3, true, by decide⟩ offerRun [requestStep, ackStep] calmEnv offerInput bindStep leasedAddr
    offer_taken ⟨by decide +kernel, by decide +kernel, by decide +kernel, trivial⟩ (by decide +kernel)
  cases wait with
  | nil =>
    obtain ⟨rfl, -⟩ := List.cons.inj hmid
    exact absurd hack.2.2.1 Bool.false_ne_true
  | cons st wait =>
    obtain ⟨rfl, -⟩ := List.cons.inj hmid
    cases wait with
    | nil => exact hiff.mpr ⟨requestStep, by simp, rfl, calm_sends .requestingTimeout⟩
    | cons st wait =>
      have hlen := congrArg List.length hmid
      simp only [List.length_cons, List.length_nil, List.length_append] at hlen
      omega

def Effect.isDhcp : Effect → Bool
  | .dhcp _ => true
  | _ => false

theorem not_requests_of_silent (a : UInt32) (st : Step) (s : Sys)
    (h : ∀ e ∈ (st.next exampleConfig s).out, e.isDhcp = false) : ¬ st.Requests exampleConfig a s := by
  rintro ⟨xid, sid, hmem⟩
  exact absurd (h _ hmem) (by simp [Effect.isDhcp])

/-- The ACK comes right behind the offer: it is accepted and its address bound, and no request was
ever sent. -/
theorem bind_without_request :
    TakesOffer offerInput (run exampleConfig offerRun exampleStart) ∧
      ackStep.TakesAck (run exampleConfig [.handle calmEnv offerInput] (run exampleConfig offerRun exampleStart)) ∧
      Effect.bind leasedAddr ∈ (bindStep.next exampleConfig
        (run exampleConfig [.handle calmEnv offerInput, ackStep] (run exampleConfig offerRun exampleStart))).out ∧
      ¬ Sometime exampleConfig (Step.Requests exampleConfig leasedAddr)
        [.handle calmEnv offerInput, ackStep, bindStep] (run exampleConfig offerRun exampleStart) := by
  refine ⟨offer_taken, ⟨by decide +kernel, by decide, rfl, rfl, by decide +kernel, by decide +kernel⟩,
    by decide +kernel, ?_⟩
  rintro (h | h | h | h)
  · exact not_requests_of_silent _ _ _ (by decide +kernel) h
  · exact not_requests_of_silent _ _ _ (by decide +kernel) h
  · exact not_requests_of_silent _ _ _ (by decide +kernel) h
  · exact h

end Ndhc
