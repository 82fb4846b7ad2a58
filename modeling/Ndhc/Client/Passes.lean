import Ndhc.Client.Handle

/-!
# Calls without a lease

How a pass of SELECTING, REQUESTING and RELEASED ends, and from that how a call of
`dhcp_handle` ends that starts in one of these states: it never binds, leaves the interface
as it is, and stays without a lease unless it starts probing an acknowledged address
(`leaseless_call`).
-/

namespace Ndhc

open Prog

/-- The send reports failure. -/
def SendFails (env : Env) (site : Site) : Prop := ∃ r, env.send site = some r ∧ r < 0

theorem not_sendFails (env : Env) (site : Site) (r : Int) (hsend : env.send site = some r)
    (hr : ¬ r < 0) : ¬ SendFails env site := by
  rintro ⟨r', hr', hneg⟩
  rw [hsend] at hr'
  cases hr'
  exact hr hneg

/-! ## Control -/

section
variable {α β : Type} (Q : α → Sys → Prop) (E : Stop → Sys → Prop) (s : Sys)

/-- A subroutine is called. -/
theorem wp_sub (m : M β) (k : β → M α) [Routine core Dies m]
    (hk : ∀ b t, core t = core s → wp (k b) Q E t)
    (hdie : ∀ t, core t = { core s with pc := .dead } → E .exit t) : wp (m >>= k) Q E s := by
  apply wp_call core Dies m k s Q E hk
  rintro e t ⟨rfl, ht⟩
  exact hdie t ht

/-- A subroutine is called of which it is known how it returns. -/
theorem wp_sub_of (m : M β) (k : β → M α) [Routine core Dies m]
    (hm : wp m (fun b t => wp (k b) Q E t) (fun _ _ => True) s)
    (hdie : ∀ t, core t = { core s with pc := .dead } → E .exit t) : wp (m >>= k) Q E s := by
  rw [wp_bind]
  apply wp_routine core Dies
  apply wp_mono _ _ s _ _ _ hm
  · exact fun _ _ h _ => h
  · rintro e t - ⟨rfl, ht⟩
    exact hdie t ht

/-- Something beyond a message happens. -/
theorem wp_mark (e : Effect) (k : M α) (he : e.isMark = true)
    (hk : ∀ t, core t = { core s with marks := (core s).marks ++ [e] } → wp k Q E t) :
    wp (emit e >>= fun _ => k) Q E s := by
  apply hk
  show core { s with out := s.out ++ [e] } = _
  simp [core, he]

/-- A DHCP message is sent: what the send returned, or the process ends. -/
theorem wp_sendDhcp (env : Env) (site : Site) (m : Sent) (Q : Int → Sys → Prop)
    (hk : ∀ r t, env.send site = some r → core t = core s → Q r t)
    (hdie : ∀ t, env.send site = none → core t = { core s with pc := .dead } → E .exit t) :
    wp (sendDhcp env site m) Q E s := by
  apply wp_routine core Dies
  unfold sendDhcp
  rw [wp_bind]
  cases hsend : env.send site with
  | none => exact fun hd => hdie _ hsend hd.2
  | some r =>
    show wp (if r < 0 then pure r else _) _ _ s
    rw [wp_ite]
    split
    · exact fun ht => hk r _ hsend ht
    · exact fun ht => hk r _ hsend ht

theorem wp_restart (env : Env) (timeout : Int) (hgo : ∀ t, core t = core s → E (.goto .reinit) t)
    (hdie : ∀ t, core t = { core s with pc := .dead } → E .exit t) :
    wp (restart env timeout : M α) Q E s :=
  wp_sub Q E s _ _ (fun _ t ht => hgo t ht) hdie

end

/-! ## What happens without a lease -/

/-- The lease's instants are in order. -/
def Core.Ordered (c : Core) : Prop := c.rebindTime ≤ c.lease.toNat

/-- The interface is left as it is, and beyond messages only `marks` happened. -/
structure Calm (marks : List Effect) (c d : Core) : Prop where
  ifDeconfig : d.ifDeconfig = c.ifDeconfig
  cfgPacket : d.cfgPacket = c.cfgPacket
  ordered : c.Ordered → d.Ordered
  marks : d.marks = c.marks ++ marks

theorem Calm.of_core (c d : Core) (pc : Pc) (h : d = { c with pc := pc }) : Calm [] c d := by
  subst h
  exact ⟨rfl, rfl, fun ho => ho, (List.append_nil _).symm⟩

theorem Calm.trans (m n : List Effect) (c d e : Core) (h : Calm m c d) (h' : Calm n d e) :
    Calm (m ++ n) c e where
  ifDeconfig := h'.ifDeconfig.trans h.ifDeconfig
  cfgPacket := h'.cfgPacket.trans h.cfgPacket
  ordered ho := h'.ordered (h.ordered ho)
  marks := by rw [h'.marks, h.marks, List.append_assoc]

theorem Calm.keep (m : List Effect) (c d e : Core) (pc : Pc) (h : Calm m c d)
    (he : e = { d with pc := pc }) : Calm m c e := by
  subst he
  exact ⟨h.ifDeconfig, h.cfgPacket, h.ordered, h.marks⟩

section
variable (env : Env) (cfg : ClientConfig) (inp : Input)

/-! ## SELECTING -/

theorem calm_server (sid : UInt32) (c d : Core) (h : d = { c with serverAddr := sid }) :
    Calm [] c d := by
  subst h
  exact ⟨rfl, rfl, fun ho => ho, (List.append_nil _).symm⟩

/-- Either the packet is ignored, or its server is chosen. -/
theorem selectingPacket_offer (packet : DhcpMsg) (msgtype : UInt8) (srcaddr : UInt32) (s : Sys) :
    wp (selectingPacket env packet msgtype srcaddr false)
      (fun r t => (r = .ignore ∧ t = s) ∨
        (r = .success ∧ Calm [] (core s) (core t) ∧ t.cs.numDhcpRequests = 0))
      (fun _ _ => False) s := by
  unfold selectingPacket selectingOffer
  rw [wp_bind, wp_get, wp_ite]
  split
  · split
    · exact Or.inl ⟨rfl, rfl⟩
    · next sid _ => exact Or.inr ⟨rfl, calm_server sid _ _ rfl, rfl⟩
  · rw [wp_ite, if_neg (by simp)]
    exact Or.inl ⟨rfl, rfl⟩

/-- How a pass of SELECTING ends. -/
def SelectingEnds (c : Core) : Stop → Sys → Prop
  | .ret _, t => core t = { c with pc := .selecting }
  | .goto .released, t => core t = c ∧ inp.sevSignal = .release
  | .goto .requesting, t =>
    Calm [] c (core t) ∧ inp.sevSignal ≠ .release ∧ inp.sevDhcp = true ∧ t.cs.numDhcpRequests = 0
  | .goto .reinit, _ => False
  | .exit, t => core t = { c with pc := .dead }

theorem selectingTimer_ends (s : Sys) :
    wp (selectingTimer env cfg inp) (fun _ _ => False) (SelectingEnds inp (core s)) s := by
  unfold selectingTimer
  rw [wp_ite]
  split
  · apply wp_sub
    · intro r t ht
      rw [wp_ite]
      split
      · exact core_at .selecting s t ht
      · exact core_at .selecting s t ht
    · intro t ht
      exact ht
  · rfl

theorem selectingPass_ends (s : Sys) :
    wp (selectingPass env cfg inp) (fun _ _ => False) (SelectingEnds inp (core s)) s := by
  unfold selectingPass onRelease selectingDhcp
  rw [wp_bind, wp_ite]
  split
  · next hsig => exact wp_sub _ _ s _ _ (fun _ t ht => ⟨ht, hsig⟩) (fun t ht => ht)
  · next hsig =>
    rw [wp_pure, wp_bind, wp_ite]
    split
    · next hdhcp =>
      rw [wp_bind]
      apply wp_mono _ _ s _ _ _ (selectingPacket_offer env _ _ _ s) ?_ (fun _ _ h => h.elim)
      rintro r t (⟨rfl, rfl⟩ | ⟨rfl, hcalm, hnum⟩)
      · exact selectingTimer_ends env cfg inp t
      · exact ⟨hcalm, hsig, hdhcp, hnum⟩
    · exact selectingTimer_ends env cfg inp s

/-! ## REQUESTING -/

theorem withLease_ordered (packet : DhcpMsg) (s : Sys) : (core (withLease env packet s)).Ordered := by
  show (withLease env packet s).cs.rebindTime ≤ (withLease env packet s).cs.lease.toNat
  rw [withLease_rebindTime]
  omega

theorem calm_withLease (packet : DhcpMsg) (s : Sys) :
    Calm [] (core s) (core (withLease env packet s)) :=
  ⟨rfl, rfl, fun _ => withLease_ordered env packet s, (List.append_nil _).symm⟩

theorem noteServer_ends (sid srcaddr : UInt32) (s : Sys) :
    wp (noteServer sid srcaddr) (fun _ t => core t = { core s with serverAddr := sid })
      (fun _ _ => False) s := by
  unfold noteServer
  rw [wp_bind, wp_get, wp_ite]
  split
  · rfl
  · next h =>
    have hsid : s.cs.serverAddr = sid := by simpa using h
    subst hsid
    rfl

/-- Either the packet is ignored, or its lease is taken down. -/
theorem selectingPacket_ack (packet : DhcpMsg) (msgtype : UInt8) (srcaddr : UInt32) (s : Sys) :
    wp (selectingPacket env packet msgtype srcaddr true)
      (fun r t => (r = .ignore ∧ t = s) ∨ (r = .checkIp ∧ Calm [] (core s) (core t) ∧ t.pc = s.pc))
      (fun e t => e = .exit ∧ core t = { core s with pc := .dead }) s := by
  unfold selectingPacket selectingAck
  rw [wp_bind, wp_get, wp_ite, if_neg (by simp), wp_ite]
  split
  · split
    · exact Or.inl ⟨rfl, rfl⟩
    · next sid _ =>
      rw [wp_bind]
      apply wp_mono _ _ s _ _ _ (noteServer_ends sid srcaddr s) ?_ (fun _ _ h => h.elim)
      intro _ t ht
      refine Or.inr ⟨rfl, ?_, congrArg Core.pc ht⟩
      exact (calm_server sid _ _ ht).trans [] [] _ _ _ (calm_withLease env packet t)
  · exact Or.inl ⟨rfl, rfl⟩

/-- `arp_check` notes the packet, and if it can send its first probe the check has begun. -/
theorem arpCheck_ends (packet : DhcpMsg) (s : Sys) :
    wp (arpCheck env cfg packet)
      (fun r t => (r < 0 ∧ core t = { core s with dhcpPacket := packet }) ∨
        (¬ r < 0 ∧ core t = { core s with
          dhcpPacket := packet, marks := (core s).marks ++ [.arpCheck packet.yiaddr] }))
      (fun e t => e = .exit ∧ core t = { core s with dhcpPacket := packet, pc := .dead }) s := by
  unfold arpCheck
  rw [wp_bind, wp_modify]
  apply wp_sub
  · intro r t ht
    rw [wp_ite]
    split
    · exact Or.inl ⟨by decide, ht⟩
    · apply wp_sub
      · intro r u hu
        rw [wp_ite]
        split
        · exact Or.inl ⟨by decide, hu.trans ht⟩
        · apply wp_mark
          · rfl
          · intro v hv
            refine Or.inr ⟨by decide, ?_⟩
            show core v = _
            rw [hv, hu, ht]
      · intro u hu
        exact ⟨rfl, by rw [hu, ht]⟩
  · intro t ht
    exact ⟨rfl, ht⟩

theorem calm_arpCheck (packet : DhcpMsg) (pc : Pc) (c d : Core)
    (h : d = { c with dhcpPacket := packet, pc := pc }) : Calm [] c d := by
  subst h
  exact ⟨rfl, rfl, fun ho => ho, (List.append_nil _).symm⟩

theorem requestingTimeout_ends (nowts : Int) (s : Sys) :
    wp (requestingTimeout env nowts)
      (fun r t => core t = core s ∧ (r = .timeout → 5 ≤ s.cs.numDhcpRequests))
      (fun e t => e = .exit ∧ core t = { core s with pc := .dead }) s := by
  apply wp_routine core Dies
  unfold requestingTimeout
  rw [wp_bind, wp_get, wp_ite]
  split
  · next h => exact wp_all _ _ s _ (fun _ _ ht => ⟨ht, fun _ => h⟩) (fun _ _ hd => hd)
  · apply wp_bind_all
    · intro r t
      rw [wp_ite]
      split
      · exact fun ht => ⟨ht, fun h => nomatch h⟩
      · exact fun ht => ⟨ht, fun h => nomatch h⟩
    · exact fun _ _ hd => hd

/-- How the timer of REQUESTING and probing ends a pass. -/
def RequestTimerEnds (pc : Pc) (s : Sys) : Stop → Sys → Prop
  | .ret _, t => core t = { core s with pc := pc }
  | .goto .reinit, t => core t = core s ∧ 5 ≤ s.cs.numDhcpRequests
  | .goto _, _ => False
  | .exit, t => core t = { core s with pc := .dead }

theorem requestTimer_ends (pc : Pc) (s : Sys) :
    wp (requestTimer env inp pc) (fun _ _ => False) (RequestTimerEnds pc s) s := by
  unfold requestTimer
  rw [wp_ite]
  split
  · rw [wp_bind]
    apply wp_mono _ _ s _ _ _ (requestingTimeout_ends env inp.nowts s)
    · rintro r t ⟨ht, hnum⟩
      cases r with
      | success => exact core_at pc s t ht
      | timeout => exact ⟨ht, hnum rfl⟩
      | fail => exact core_at pc s t ht
    · rintro e t ⟨rfl, ht⟩
      exact ht
  · rfl

/-- How a pass of REQUESTING ends. -/
def RequestingEnds (s : Sys) : Stop → Sys → Prop
  | .ret _, t => core t = { core s with pc := .requesting } ∨
      (∃ a, Calm [.arpCheck a] (core s) (core t)) ∧ t.pc = .probing
  | .goto .released, t => core t = core s ∧ inp.sevSignal = .release
  | .goto .requesting, _ => False
  | .goto .reinit, t => Calm [] (core s) (core t) ∧ t.pc = s.pc ∧ inp.sevSignal ≠ .release ∧
      (inp.sevDhcp = true ∨ 5 ≤ s.cs.numDhcpRequests)
  | .exit, t => Calm [] (core s) (core t) ∧ t.pc = .dead

theorem requestTimer_requesting (s : Sys) (hsig : inp.sevSignal ≠ .release) :
    wp (requestTimer env inp .requesting) (fun _ _ => False) (RequestingEnds inp s) s := by
  apply wp_mono _ _ s _ _ _ (requestTimer_ends env inp .requesting s) (fun _ _ h => h)
  intro e t h
  match e, h with
  | .ret _, h => exact Or.inl h
  | .goto .reinit, h => exact ⟨Calm.of_core _ _ s.pc h.1, congrArg Core.pc h.1, hsig, Or.inr h.2⟩
  | .exit, h => exact ⟨Calm.of_core _ _ _ h, congrArg Core.pc h⟩

theorem requestingPass_ends (s : Sys) :
    wp (requestingPass env cfg inp) (fun _ _ => False) (RequestingEnds inp s) s := by
  unfold requestingPass onRelease requestingDhcp
  rw [wp_bind, wp_ite]
  split
  · next hsig =>
    apply wp_sub
    · exact fun _ t ht => ⟨ht, hsig⟩
    · exact fun t ht => ⟨Calm.of_core _ _ _ ht, congrArg Core.pc ht⟩
  · next hsig =>
    rw [wp_pure, wp_bind, wp_ite]
    split
    · next hdhcp =>
      rw [wp_bind]
      apply wp_mono _ _ s _ _ _ (selectingPacket_ack env _ _ _ s)
      · rintro r t (⟨rfl, rfl⟩ | ⟨rfl, hcalm, hpc⟩)
        · exact requestTimer_requesting env inp t hsig
        · rw [wp_ite, if_neg (by decide), wp_ite, if_pos rfl, wp_bind]
          apply wp_mono _ _ t _ _ _ (arpCheck_ends env cfg inp.dhcpPacket t)
          · rintro r u (⟨hr, hu⟩ | ⟨hr, hu⟩)
            · rw [wp_ite, if_pos hr]
              apply wp_restart
              · intro v hv
                have hv' := hv.trans hu
                exact ⟨hcalm.trans [] [] _ _ _ (calm_arpCheck _ _ _ _ hv'),
                  (congrArg Core.pc hv').trans hpc, hsig, Or.inl hdhcp⟩
              · intro v hv
                rw [hu] at hv
                exact ⟨hcalm.trans [] [] _ _ _ (calm_arpCheck _ _ _ _ hv), congrArg Core.pc hv⟩
            · rw [wp_ite, if_neg hr]
              refine Or.inr ⟨⟨inp.dhcpPacket.yiaddr, hcalm.trans [] _ _ _ _ ?_⟩, rfl⟩
              show Calm _ (core t) { core u with pc := .probing }
              rw [hu]
              exact ⟨rfl, rfl, fun ho => ho, rfl⟩
          · rintro e u ⟨rfl, hu⟩
            exact ⟨hcalm.trans [] [] _ _ _ (calm_arpCheck _ _ _ _ hu), congrArg Core.pc hu⟩
      · rintro e t ⟨rfl, ht⟩
        exact ⟨Calm.of_core _ _ _ ht, congrArg Core.pc ht⟩
    · exact requestTimer_requesting env inp s hsig

/-! ## RELEASED -/

/-- How a pass of RELEASED ends. -/
def ReleasedEnds (c : Core) : Stop → Sys → Prop
  | .ret _, t => core t = { c with pc := .released } ∧ inp.sevSignal ≠ .renew
  | .goto .reinit, t => core t = c ∧ inp.sevSignal = .renew
  | .goto _, _ => False
  | .exit, t => core t = { c with pc := .dead }

theorem frenew_released (s : Sys) :
    wp (frenew env false) (fun r _ => r = 0) (fun _ _ => True) s := by
  show wp (reinitSelecting env 0 >>= fun _ => pure 0) _ _ s
  apply wp_bind_all
  · exact fun _ _ => rfl
  · exact fun _ _ => trivial

theorem releasedPass_ends (s : Sys) :
    wp (releasedPass env inp) (fun _ _ => False) (ReleasedEnds inp (core s)) s := by
  unfold releasedPass
  rw [wp_ite]
  split
  · next hsig =>
    rw [wp_bind]
    apply wp_routine core Dies
    apply wp_mono _ _ s _ _ _ (frenew_released env s)
    · rintro r t rfl ht
      rw [wp_ite, if_neg (by decide)]
      exact ⟨ht, hsig⟩
    · rintro e t - ⟨rfl, ht⟩
      exact ht
  · next hsig => exact ⟨rfl, hsig⟩

/-! ## Jumps -/

theorem wp_follow (n : Nat) (m : M Unit) (Q : Unit → Sys → Prop) (E : Stop → Sys → Prop) (s : Sys) :
    wp (follow env cfg inp (n + 1) m) Q E s ↔
      wp m Q (fun e t => match e with
        | .goto l => wp (follow env cfg inp n (target env cfg inp l)) Q E t
        | e => E e t) s := by
  simp only [wp, follow]
  cases m s with
  | ok a t => rfl
  | error e t =>
    cases e with
    | ret c => rfl
    | goto l => rfl
    | exit => rfl

/-- How every pass ends that a jump leads to, a call ends. -/
theorem wp_follow_ends (Q : Unit → Sys → Prop) (E : Stop → Sys → Prop)
    (htarget : ∀ l t, E (.goto l) t → wp (target env cfg inp l) Q E t) (n : Nat) (m : M Unit) (s : Sys)
    (hm : wp m Q E s) : wp (follow env cfg inp n m) Q E s := by
  induction n generalizing m s with
  | zero => exact hm
  | succ n ih =>
    rw [wp_follow]
    apply wp_mono _ _ s m _ _ hm (fun _ _ h => h)
    intro e t ht
    cases e with
    | ret code => exact ht
    | goto l => exact ih _ t (htarget l t ht)
    | exit => exact ht

theorem wp_follow_last (n : Nat) (m : M Unit) (Q : Unit → Sys → Prop) (E : Stop → Sys → Prop)
    (s : Sys) (hm : wp m Q E s) (hgo : ∀ l t, ¬ E (.goto l) t) :
    wp (follow env cfg inp n m) Q E s := by
  cases n with
  | zero => exact hm
  | succ n =>
    rw [wp_follow]
    apply wp_mono _ _ s _ _ _ hm (fun _ _ h => h)
    intro e t h
    match e, h with
    | .ret _, h => exact h
    | .goto l, h => exact absurd h (hgo l t)
    | .exit, h => exact h

/-- A call ends in SELECTING or RELEASED; what happened before is in `c`. -/
def EndsIdle (c : Core) : Stop → Sys → Prop
  | .ret _, t => Calm [] c (core t) ∧ (t.pc = .selecting ∨ t.pc = .released)
  | .goto _, _ => False
  | .exit, t => Calm [] c (core t) ∧ t.pc = .dead

theorem EndsIdle.calm (c : Core) (e : Stop) (t : Sys) (h : EndsIdle c e t) : Calm [] c (core t) := by
  match e, h with
  | .ret _, h => exact h.1
  | .exit, h => exact h.1

theorem EndsIdle.pc (c : Core) (e : Stop) (t : Sys) (h : EndsIdle c e t) :
    t.pc = .selecting ∨ t.pc = .released ∨ t.pc = .dead := by
  match e, h with
  | .ret _, h => exact h.2.imp_right Or.inl
  | .exit, h => exact Or.inr (Or.inr h.2)

theorem released_call (n : Nat) (c : Core) (s : Sys) (hcalm : Calm [] c (core s))
    (hsig : inp.sevSignal = .release) :
    wp (follow env cfg inp n (target env cfg inp .released)) (fun _ _ => False) (EndsIdle c) s := by
  apply wp_follow_last env cfg inp n _ _ _ s ?_ (fun _ _ h => h)
  apply wp_mono _ _ s _ _ _ (releasedPass_ends env { inp with sevDhcp := false } s) (fun _ _ h => h)
  intro e t h
  match e, h with
  | .ret _, h => exact ⟨hcalm.keep [] _ _ _ _ h.1, Or.inr (congrArg Core.pc h.1)⟩
  | .goto .reinit, h => exact nomatch hsig.symm.trans h.2
  | .exit, h => exact ⟨hcalm.keep [] _ _ _ _ h, congrArg Core.pc h⟩

/-- From `reinit` on, no packet is left to handle. -/
theorem reinit_call (n : Nat) (c : Core) (s : Sys) (hcalm : Calm [] c (core s)) :
    wp (follow env cfg inp (n + 1) (target env cfg inp .reinit)) (fun _ _ => False)
      (EndsIdle c) s := by
  rw [wp_follow]
  show wp (selectingPass env cfg { inp with sevDhcp := false }) _ _
    { s with cs.xid := env.random .reinit }
  apply wp_mono _ _ _ _ _ _ (selectingPass_ends env cfg _ _) (fun _ _ h => h)
  intro e t h
  match e, h with
  | .ret _, h => exact ⟨hcalm.keep [] _ _ _ _ h, Or.inl (congrArg Core.pc h)⟩
  | .goto .released, h =>
    exact released_call env cfg inp n c t (hcalm.keep [] _ _ _ s.pc h.1) h.2
  | .goto .requesting, h => exact nomatch h.2.2.1
  | .exit, h => exact ⟨hcalm.keep [] _ _ _ _ h, congrArg Core.pc h⟩

/-- A call ends without a lease. -/
def EndsLeaseless (c : Core) : Stop → Sys → Prop
  | .ret _, t => (Calm [] c (core t) ∧ (t.pc = .selecting ∨ t.pc = .requesting ∨ t.pc = .released)) ∨
      (∃ a, Calm [.arpCheck a] c (core t)) ∧ t.pc = .probing
  | .goto _, _ => False
  | .exit, t => Calm [] c (core t) ∧ t.pc = .dead

theorem EndsIdle.leaseless (c : Core) (e : Stop) (t : Sys) (h : EndsIdle c e t) :
    EndsLeaseless c e t := by
  match e, h with
  | .ret _, ⟨hc, hpc⟩ => exact Or.inl ⟨hc, hpc.imp_right Or.inr⟩
  | .exit, h => exact h

/-- The request for an offer that was just taken is the first one. -/
theorem requesting_call (n : Nat) (c : Core) (s : Sys) (hcalm : Calm [] c (core s))
    (hsig : inp.sevSignal ≠ .release) (hnum : s.cs.numDhcpRequests = 0) :
    wp (follow env cfg inp n (target env cfg inp .requesting)) (fun _ _ => False)
      (EndsLeaseless c) s := by
  apply wp_follow_last env cfg inp n _ _ _ s ?_ (fun _ _ h => h)
  apply wp_mono _ _ s _ _ _ (requestingPass_ends env cfg { inp with sevDhcp := false } s)
    (fun _ _ h => h)
  intro e t h
  match e, h with
  | .ret _, Or.inl h =>
    exact Or.inl ⟨hcalm.keep [] _ _ _ _ h,
      Or.inr (Or.inl (congrArg Core.pc h))⟩
  | .ret _, Or.inr ⟨⟨a, ha⟩, hpc⟩ => exact Or.inr ⟨⟨a, hcalm.trans [] _ _ _ _ ha⟩, hpc⟩
  | .goto .released, h => exact absurd h.2 hsig
  | .goto .reinit, h =>
    rcases h.2.2.2 with h | h
    · exact nomatch h
    · omega
  | .exit, h => exact ⟨hcalm.trans [] [] _ _ _ h.1, h.2⟩

/-! ## Calls -/

/-- The SELECTING pass a call starts with, or comes to from the top of the coroutine. -/
theorem selecting_call (n : Nat) (c : Core) (s : Sys) (hcalm : Calm [] c (core s)) :
    wp (follow env cfg inp (n + 1) (selectingPass env cfg inp)) (fun _ _ => False)
      (EndsLeaseless c) s := by
  rw [wp_follow]
  apply wp_mono _ _ _ _ _ _ (selectingPass_ends env cfg inp s) (fun _ _ h => h)
  intro e t h
  match e, h with
  | .ret _, h =>
    exact Or.inl ⟨hcalm.keep [] _ _ _ _ h, Or.inl (congrArg Core.pc h)⟩
  | .goto .released, h =>
    exact wp_mono _ _ t _ _ _ (released_call env cfg inp n c t (hcalm.keep [] _ _ _ s.pc h.1) h.2)
      (fun _ _ h => h) (EndsIdle.leaseless c)
  | .goto .requesting, h =>
    exact requesting_call env cfg inp n c t (hcalm.trans [] [] _ _ _ h.1) h.2.1 h.2.2.2
  | .exit, h => exact ⟨hcalm.keep [] _ _ _ _ h, congrArg Core.pc h⟩

theorem wp_dhcpHandle (Q : Unit → Sys → Prop) (E : Stop → Sys → Prop) (s : Sys) (pc : Pc)
    (hpc : s.pc = pc) :
    wp (dhcpHandle env cfg inp) Q E s ↔
      wp (follow env cfg inp 2 (resume env cfg inp pc)) Q E { s with out := [] } := by
  subst hpc
  rfl

/-- Behind a failed `ifchange_deconfig` the client starts over. -/
theorem newlease_call (s : Sys) (hpc : s.pc = .newlease) :
    wp (dhcpHandle env cfg inp) (fun _ _ => False) (EndsIdle (core s).fresh) s := by
  have hstart : Calm [] (core s).fresh (core { s with out := [] }) :=
    Calm.of_core _ _ s.pc rfl
  rw [wp_dhcpHandle env cfg inp _ _ s .newlease hpc, wp_follow]
  apply wp_restart
  · intro t ht
    exact reinit_call env cfg inp 0 _ t (hstart.keep [] _ _ _ s.pc ht)
  · intro t ht
    exact ⟨hstart.keep [] _ _ _ _ ht, congrArg Core.pc ht⟩

/-- A call that resumes where nothing is asked for or held ends so. -/
theorem idle_call (s : Sys) (hpc : s.pc = .newlease ∨ s.pc = .released ∨ s.pc = .dead) :
    wp (dhcpHandle env cfg inp) (fun _ _ => False) (EndsIdle (core s).fresh) s := by
  have hstart : Calm [] (core s).fresh (core { s with out := [] }) :=
    Calm.of_core _ _ s.pc rfl
  rcases hpc with hpc | hpc | hpc
  · exact newlease_call env cfg inp s hpc
  · rw [wp_dhcpHandle env cfg inp _ _ s .released hpc, wp_follow]
    apply wp_mono _ _ _ _ _ _ (releasedPass_ends env inp { s with out := [] }) (fun _ _ h => h)
    intro e t h
    match e, h with
    | .ret _, h => exact ⟨hstart.keep [] _ _ _ _ h.1, Or.inr (congrArg Core.pc h.1)⟩
    | .goto .reinit, h => exact reinit_call env cfg inp 0 _ t (hstart.keep [] _ _ _ s.pc h.1)
    | .exit, h => exact ⟨hstart.keep [] _ _ _ _ h, congrArg Core.pc h⟩
  · rw [wp_dhcpHandle env cfg inp _ _ s .dead hpc]
    exact ⟨hstart.keep [] _ _ _ _ rfl, rfl⟩

/-- **A call without a lease** does not bind and leaves the interface alone. -/
theorem leaseless_call (s : Sys) (hprobing : s.pc ≠ .probing) (hbound : s.pc ≠ .bound) :
    wp (dhcpHandle env cfg inp) (fun _ _ => False) (EndsLeaseless (core s).fresh) s := by
  have hidle : ∀ {m : M Unit} t, wp m (fun _ _ => False) (EndsIdle (core s).fresh) t →
      wp m (fun _ _ => False) (EndsLeaseless (core s).fresh) t :=
    fun t h => wp_mono _ _ t _ _ _ h (fun _ _ h => h) (EndsIdle.leaseless _)
  by_cases hrest : s.pc = .newlease ∨ s.pc = .released ∨ s.pc = .dead
  · exact hidle s (idle_call env cfg inp s hrest)
  rw [wp_dhcpHandle env cfg inp _ _ s s.pc rfl]
  have hstart : Calm [] (core s).fresh (core { s with out := [] }) :=
    Calm.of_core _ _ s.pc rfl
  generalize ({ s with out := [] } : Sys) = u at hstart ⊢
  cases hpc : s.pc with
  | init =>
    rw [wp_follow]
    show wp (selectingPass env cfg inp) _ _ { u with cs.xid := env.random .reinit }
    rw [← wp_follow]
    exact selecting_call env cfg inp 1 _ _ hstart
  | selecting => exact selecting_call env cfg inp 1 _ _ hstart
  | requesting =>
    rw [wp_follow]
    apply wp_mono _ _ _ _ _ _ (requestingPass_ends env cfg inp u) (fun _ _ h => h)
    intro e t h
    match e, h with
    | .ret _, Or.inl h =>
      exact Or.inl ⟨hstart.keep [] _ _ _ _ h, Or.inr (Or.inl (congrArg Core.pc h))⟩
    | .ret _, Or.inr ⟨⟨a, ha⟩, hpc⟩ => exact Or.inr ⟨⟨a, hstart.trans [] _ _ _ _ ha⟩, hpc⟩
    | .goto .released, h =>
      exact hidle t (released_call env cfg inp 1 _ t (hstart.keep [] _ _ _ u.pc h.1) h.2)
    | .goto .reinit, h =>
      exact hidle t (reinit_call env cfg inp 0 _ t (hstart.trans [] [] _ _ _ h.1))
    | .exit, h => exact ⟨hstart.trans [] [] _ _ _ h.1, h.2⟩
  | probing => exact absurd hpc hprobing
  | bound => exact absurd hpc hbound
  | newlease => exact absurd (Or.inl hpc) hrest
  | released => exact absurd (Or.inr (Or.inl hpc)) hrest
  | dead => exact absurd (Or.inr (Or.inr hpc)) hrest

end

end Ndhc
