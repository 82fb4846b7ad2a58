import Ndhc.Client.Peers

/-!
# Calls with a lease

How a pass of the BOUND loop ends, told by what the call was given.  Ahead of the lease timer
stand the error returns of `Hindered`; `Loses` lists the ways in which the lease is lost
without the interface being deconfigured.  `bound_call` says that a call stays in the phase only if
it was hindered, or the lease was extended or is not over, and leaves it with the address still
configured only if it was lost.
-/

namespace Ndhc

open Prog

section
variable (env : Env) (cfg : ClientConfig) (inp : Input)

/-! ## What a call is given -/

/-- The call takes a packet of the given type from our server. -/
def Accepts (msgtype : UInt8) (s : Sys) : Prop :=
  inp.sevDhcp = true ∧ isRenewing s.cs inp.nowts ∧ inp.dhcpMsgtype = msgtype ∧
    validateServerid s.cs inp.dhcpPacket = true

/-- The lease is over and the DHCP timer due. -/
def Due (s : Sys) : Prop := inp.dhcpTimeout = true ∧ Expired s.cs inp.nowts

/-- An error return of the loop is in the way of the lease timer. -/
inductive Hindered (s : Sys) : Prop
  | release (hsig : inp.sevSignal = .release) (hsend : SendFails env .xmitRelease)
  | renew (hsig : inp.sevSignal = .renew) (hsend : SendFails env .frenew)
  | defense (harp : inp.sevArp = true) (hconf : (peers s).Conflicting cfg)
      (hann : (peers s).Announces env) (hsend : FrameFails env .doDefense s)
  | gwQuery (harp : inp.sevArp = true) (hunknown : gwUnknown s.cs) (hfrom : FromPeer cfg s)
      (hopen : OpenFails env .gwQueryOpen)
  | gwCheck (harp : inp.sevArp = true) (hknown : ¬ gwUnknown s.cs)
      (hcheck : s.cs.checkFingerprint = true) (hfrom : FromPeer cfg s)
      (hfail : OpenFails env .gwSuccessOpen ∨ SendFails env .gwSuccess)
  | gwQueryTimeout (htimeout : inp.arpTimeout = true) (hsent : s.cs.sentGwQuery = true)
      (hunknown : gwUnknown s.cs) (hdue : (peers s).PingDue inp.nowts)
      (hsend : FrameFails env .gwQueryRouter s ∨ FrameFails env .gwQueryServer s)
  | gwCheckTimeout (htimeout : inp.arpTimeout = true) (hsent : s.cs.sentGwQuery = true)
      (hcheck : s.cs.checkFingerprint = true) (hdue : (peers s).PingDue inp.nowts)
      (hsend : FrameFails env .gwTimeoutRouter s ∨ FrameFails env .gwTimeoutServer s)
  | ifup (hforce : inp.forceFingerprint = true) (hchecked : ¬ Unchecked s.cs)
      (hfail : RevalidateFails env)
  | deconfig (hforce : inp.forceFingerprint = true) (hunchecked : Unchecked s.cs)
      (hconfig : s.cs.ifDeconfig = false) (hfail : DeconfigFails env)

/-- The lease is lost, or about to be, and the interface not deconfigured. -/
inductive Loses (s : Sys) : Prop
  | release (hsig : inp.sevSignal = .release) (hsent : ¬ SendFails env .xmitRelease)
  | nak (h : Accepts inp DHCPNAK s)
  | check (h : Accepts inp DHCPACK s) (hip : inp.dhcpPacket.yiaddr ≠ s.cs.clientAddr)
      (hfail : OpenFails env .arpCheckOpen ∨ SendFails env .collisionPing)
  | conflict (harp : inp.sevArp = true) (hconf : (peers s).Conflicting cfg)
      (hgives : (peers s).GivesUp env)
  | gwCheck (harp : inp.sevArp = true) (hknown : ¬ gwUnknown s.cs)
      (hcheck : s.cs.checkFingerprint = true) (hother : Mismatch cfg s)
  | gwCheckTimeout (htimeout : inp.arpTimeout = true) (hsent : s.cs.sentGwQuery = true)
      (hcheck : s.cs.checkFingerprint = true) (hnone : (peers s).Unanswered)
  | deconfig (hforce : inp.forceFingerprint = true) (hunchecked : Unchecked s.cs)
      (hconfig : s.cs.ifDeconfig = false) (hfail : DeconfigFails env)
  | expired (hno : ¬ Accepts inp DHCPACK s) (hdue : Due inp s)
  -- a clock that goes back can make a lease just extended look over
  | clock (hack : Accepts inp DHCPACK s) (htimeout : inp.dhcpTimeout = true)
      (hback : env.curms .getLeasetime < inp.nowts)

/-! ## In the middle of a pass -/

/-- The pass that began in `s` has come to `t`. -/
structure Mid (s t : Sys) : Prop where
  ordered : (core s).Ordered → (core t).Ordered
  routerAddr : t.cs.routerAddr = s.cs.routerAddr
  serverAddr : t.cs.serverAddr = s.cs.serverAddr
  ifDeconfig : t.cs.ifDeconfig = s.cs.ifDeconfig
  lease : (¬ Accepts inp DHCPACK s ∧ ∀ n, Expired t.cs n ↔ Expired s.cs n) ∨
    (Accepts inp DHCPACK s ∧ ∀ n, Expired t.cs n → env.curms .getLeasetime < n)

/-- What is known of the lease's instants is not lost. -/
abbrev OrderKept (s t : Sys) : Prop := (core s).Ordered → (core t).Ordered

/-- How a pass ends that began in `s`. -/
def BoundEnds (s : Sys) : Stop → Sys → Prop
  | .ret _, t => OrderKept s t ∧
      (Accepts inp DHCPACK s ∨ Hindered env cfg inp s ∨ ¬ Due inp s) ∧
      (t.pc = .bound ∨ (t.pc = .newlease ∧ Loses env cfg inp s))
  | .goto .reinit, t => OrderKept s t ∧ (Loses env cfg inp s ∨ t.cs.ifDeconfig = true)
  | .goto .released, t => OrderKept s t ∧ inp.sevSignal = .release ∧ Loses env cfg inp s
  | .goto .requesting, _ => False
  | .exit, t => OrderKept s t ∧ t.pc = .dead

theorem expired_congr (s t : Sys) (nowts : Int) (hstart : t.cs.leaseStartTime = s.cs.leaseStartTime)
    (hrebind : t.cs.rebindTime = s.cs.rebindTime) (hlease : t.cs.lease = s.cs.lease) :
    Expired t.cs nowts ↔ Expired s.cs nowts := by
  unfold Expired isRebinding leaseEnd
  rw [hstart, hrebind, hlease]

theorem expired_of_core (s t : Sys) (nowts : Int) (h : core t = core s) :
    Expired t.cs nowts ↔ Expired s.cs nowts :=
  expired_congr s t nowts (congrArg Core.leaseStartTime h) (congrArg Core.rebindTime h)
    (congrArg Core.lease h)

theorem Mid.keep (s t u : Sys) (h : Mid env inp s t) (hcore : core u = core t) : Mid env inp s u where
  ordered ho := hcore ▸ h.ordered ho
  routerAddr := (congrArg Core.routerAddr hcore).trans h.routerAddr
  serverAddr := (congrArg Core.serverAddr hcore).trans h.serverAddr
  ifDeconfig := (congrArg Core.ifDeconfig hcore).trans h.ifDeconfig
  lease := by
    rcases h.lease with ⟨hno, hsame⟩ | ⟨hack, hback⟩
    · exact Or.inl ⟨hno, fun n => (expired_of_core t u n hcore).trans (hsame n)⟩
    · exact Or.inr ⟨hack, fun n hx => hback n ((expired_of_core t u n hcore).mp hx)⟩

section
variable {α : Type} (Q : α → Sys → Prop) (s t : Sys)

theorem OrderKept.of_core (pc : Pc) (u : Sys) (h : OrderKept s t) (hu : core u = { core t with pc := pc }) :
    OrderKept s u := by
  intro ho
  have := h ho
  rw [hu]
  exact this

theorem OrderKept.dies (u : Sys) (h : OrderKept s t) (hu : core u = { core t with pc := .dead }) :
    BoundEnds env cfg inp s .exit u := ⟨h.of_core s t .dead u hu, congrArg Core.pc hu⟩

theorem OrderKept.wp_stall (h : OrderKept s t)
    (hwhy : Accepts inp DHCPACK s ∨ Hindered env cfg inp s) :
    wp (scrReturn COR_ERROR .bound : M α) Q (BoundEnds env cfg inp s) t :=
  ⟨h, hwhy.imp_right Or.inl, Or.inl rfl⟩

theorem OrderKept.wp_lose (timeout : Int) (h : OrderKept s t) (hwhy : Loses env cfg inp s) :
    wp (restart env timeout : M α) Q (BoundEnds env cfg inp s) t := by
  apply wp_restart
  · intro u hu
    exact ⟨h.of_core s t t.pc u hu, Or.inl hwhy⟩
  · intro u hu
    exact h.dies env cfg inp s t u hu

/-- A subroutine is called in the middle of a pass. -/
theorem Mid.wp_sub {β : Type} (m : M β) (k : β → M α) [Routine core Dies m] (h : Mid env inp s t)
    (R : β → Sys → Prop) (hm : wp m R (fun _ _ => True) t)
    (hk : ∀ b u, R b u → Mid env inp s u → wp (k b) Q (BoundEnds env cfg inp s) u) :
    wp (m >>= k) Q (BoundEnds env cfg inp s) t := by
  rw [wp_bind]
  apply wp_routine core Dies
  apply wp_mono _ _ t _ _ _ hm
  · intro b u hR hu
    exact hk b u hR (h.keep env inp s t u hu)
  · rintro e u - ⟨rfl, hu⟩
    exact OrderKept.dies env cfg inp s t u h.ordered hu

end

/-! ## Signals -/

theorem xmitRelease_returns (s : Sys) :
    wp (xmitRelease env)
      (fun r t => core t = core s ∧ ((r ≠ 0 ∧ SendFails env .xmitRelease) ∨
        (r = 0 ∧ ¬ SendFails env .xmitRelease)))
      (fun e t => e = .exit ∧ core t = { core s with pc := .dead }) s := by
  apply wp_routine core Dies
  unfold xmitRelease sendRelease
  rw [wp_bind, wp_bind, wp_get]
  apply wp_sendDhcp
  · intro r t hr _
    rw [wp_ite]
    split
    · next hneg => exact fun ht => ⟨ht, Or.inl ⟨by decide, r, hr, hneg⟩⟩
    · next hpos =>
      apply wp_bind_all
      · exact fun _ _ ht => ⟨ht, Or.inr ⟨rfl, not_sendFails env _ r hr hpos⟩⟩
      · exact fun _ _ hd => hd
  · exact fun _ _ _ hd => hd

theorem frenew_returns (s : Sys) :
    wp (frenew env true) (fun r _ => r ≠ 0 ↔ SendFails env .frenew) (fun _ _ => True) s := by
  show wp (startDhcpListen env .frenew >>= fun _ => _) _ _ s
  apply wp_bind_all _ _ s _ _ _ (fun _ _ => trivial)
  intro _ t
  unfold sendRenew
  rw [wp_bind, wp_bind, wp_get]
  apply wp_sendDhcp
  · intro r u hr _
    rw [wp_ite]
    split
    · next hneg => exact ⟨fun _ => ⟨r, hr, hneg⟩, fun _ => by decide⟩
    · next hpos => exact ⟨fun h => absurd rfl h, fun h => absurd h (not_sendFails env _ r hr hpos)⟩
  · exact fun _ _ _ => trivial

theorem boundSignal_ends (s t : Sys) (hstart : core t = (core s).fresh) :
    wp (boundSignal env inp) (fun _ u => core u = core t ∧ line u = line t)
      (BoundEnds env cfg inp s) t := by
  have hord : OrderKept s t := fun ho => by rw [hstart]; exact ho
  unfold boundSignal
  rw [wp_ite]
  split
  · next hsig =>
    rw [wp_bind]
    apply wp_mono _ _ t _ _ _ (xmitRelease_returns env t)
    · rintro r u ⟨hu, ⟨hr, hsend⟩ | ⟨hr, hsent⟩⟩
      · rw [wp_ite, if_pos hr]
        exact (hord.of_core s t t.pc u hu).wp_stall env cfg inp _ s u (Or.inr (.release hsig hsend))
      · rw [wp_ite, if_neg (not_not.mpr hr)]
        exact ⟨hord.of_core s t t.pc u hu, hsig, .release hsig hsent⟩
    · rintro e u ⟨rfl, hu⟩
      exact hord.dies env cfg inp s t u hu
  · rw [wp_ite]
    split
    · next hsig =>
      rw [wp_bind]
      apply wp_routine core Dies
      apply wp_routine line AnyWay
      apply wp_mono _ _ t _ _ _ (frenew_returns env t)
      · intro r u hr hline hu
        rw [wp_ite]
        split
        · next hne =>
          exact (hord.of_core s t t.pc u hu).wp_stall env cfg inp _ s u (Or.inr (.renew hsig (hr.mp hne)))
        · exact ⟨hu, hline⟩
      · rintro e u - - ⟨rfl, hu⟩
        exact hord.dies env cfg inp s t u hu
    · exact ⟨rfl, rfl⟩

/-! ## Packets -/

theorem leaseOf_ge (v : UInt32) : 60 ≤ (leaseOf v).toNat := by
  unfold leaseOf
  split
  · decide
  · split
    · decide
    · next h =>
      rw [UInt32.lt_iff_toNat_lt] at h
      exact Nat.not_lt.mp h

/-- A lease taken now is not over before now. -/
theorem expired_withLease (packet : DhcpMsg) (s : Sys) (nowts : Int)
    (h : Expired (withLease env packet s).cs nowts) : env.curms .getLeasetime < nowts := by
  have hrebind := withLease_rebindTime env packet s
  have hlease : 60 ≤ (withLease env packet s).cs.lease.toNat := leaseOf_ge _
  have hstart : (withLease env packet s).cs.leaseStartTime = env.curms .getLeasetime := rfl
  have hx := h.1
  unfold isRebinding at hx
  omega

/-- How `extend_packet` returns. -/
def ExtendReturns (packet : DhcpMsg) (msgtype : UInt8) (s : Sys) : Anp → Sys → Prop
  | .ignore, t => t = s ∧ ¬ (msgtype = DHCPACK ∧ validateServerid s.cs packet = true)
  | .success, t => msgtype = DHCPACK ∧ validateServerid s.cs packet = true ∧
      core t = core (withLease env packet s) ∧ peers t = peers s
  | .checkIp, t => msgtype = DHCPACK ∧ validateServerid s.cs packet = true ∧
      packet.yiaddr ≠ s.cs.clientAddr ∧ t = withLease env packet s
  | .rejected, t => msgtype = DHCPNAK ∧ validateServerid s.cs packet = true ∧ core t = core s

theorem extendPacket_returns (packet : DhcpMsg) (msgtype : UInt8) (s : Sys) :
    wp (extendPacket env packet msgtype) (ExtendReturns env packet msgtype s)
      (fun e t => e = .exit ∧ OrderKept s t ∧ t.pc = .dead) s := by
  unfold extendPacket
  rw [wp_bind, wp_get, wp_ite]
  split
  · next hack =>
    rw [wp_ite]
    split
    · next hother => exact ⟨rfl, fun h => absurd h.2 (by simpa using hother)⟩
    · next hours =>
      have hvalid : validateServerid s.cs packet = true := by simpa using hours
      show wp (if packet.yiaddr ≠ s.cs.clientAddr then pure Anp.checkIp else _) _ _
        (withLease env packet s)
      rw [wp_ite]
      split
      · next hip => exact ⟨hack, hvalid, hip, rfl⟩
      · rw [wp_bind]
        apply wp_routine core Dies
        apply wp_routine peers AnyWay
        apply wp_all
        · intro _ t hpeers ht
          exact ⟨hack, hvalid, ht, hpeers⟩
        · rintro e t - ⟨rfl, ht⟩
          refine ⟨rfl, fun _ => ?_, congrArg Core.pc ht⟩
          have hord := withLease_ordered env packet s
          rw [ht]
          exact hord
  · next hack =>
    rw [wp_ite]
    split
    · next hnak =>
      rw [wp_ite]
      split
      · exact ⟨rfl, fun h => hack h.1⟩
      · next hours =>
        apply wp_sub
        · exact fun _ t ht => ⟨hnak, by simpa using hours, ht⟩
        · intro t ht
          exact ⟨rfl, OrderKept.of_core s s .dead t id ht, congrArg Core.pc ht⟩
    · exact ⟨rfl, fun h => hack h.1⟩

/-- The lease was extended. -/
theorem mid_extended (s t u : Sys) (d : DhcpMsg) (marks : List Effect) (packet : DhcpMsg)
    (hstart : core t = (core s).fresh) (hack : Accepts inp DHCPACK s)
    (hu : core u = { core (withLease env packet t) with dhcpPacket := d, marks := marks }) :
    Mid env inp s u where
  ordered _ := by
    have hord := withLease_ordered env packet t
    rw [hu]
    exact hord
  routerAddr := (congrArg Core.routerAddr hu).trans (congrArg Core.routerAddr hstart)
  serverAddr := (congrArg Core.serverAddr hu).trans (congrArg Core.serverAddr hstart)
  ifDeconfig := (congrArg Core.ifDeconfig hu).trans (congrArg Core.ifDeconfig hstart)
  lease := by
    refine Or.inr ⟨hack, fun n hx => expired_withLease env packet t n ?_⟩
    exact (expired_congr _ u n (congrArg Core.leaseStartTime hu) (congrArg Core.rebindTime hu)
      (congrArg Core.lease hu)).mp hx

/-- Nothing was accepted. -/
theorem mid_unextended (s t : Sys) (hstart : core t = (core s).fresh)
    (hno : ¬ Accepts inp DHCPACK s) : Mid env inp s t where
  ordered ho := by rw [hstart]; exact ho
  routerAddr := congrArg Core.routerAddr hstart
  serverAddr := congrArg Core.serverAddr hstart
  ifDeconfig := congrArg Core.ifDeconfig hstart
  lease := Or.inl ⟨hno, fun n => expired_congr s t n (congrArg Core.leaseStartTime hstart)
    (congrArg Core.rebindTime hstart) (congrArg Core.lease hstart)⟩

theorem isRenewing_congr (s t : Sys) (nowts : Int) (hstart : core t = (core s).fresh) :
    isRenewing t.cs nowts ↔ isRenewing s.cs nowts := by
  have hlease : t.cs.leaseStartTime = s.cs.leaseStartTime := congrArg Core.leaseStartTime hstart
  have hrenew : t.cs.renewTime = s.cs.renewTime := congrArg Core.renewTime hstart
  unfold isRenewing
  rw [hlease, hrenew]

theorem validateServerid_congr (s t : Sys) (packet : DhcpMsg)
    (hstart : core t = (core s).fresh) :
    validateServerid t.cs packet = validateServerid s.cs packet := by
  have hserver : t.cs.serverAddr = s.cs.serverAddr := congrArg Core.serverAddr hstart
  unfold validateServerid
  rw [hserver]

/-- The lease was extended under another address, which is probed first. -/
theorem boundCheck_ends (s t : Sys) (hstart : core t = (core s).fresh) (hpeers : peers t = peers s)
    (hack : Accepts inp DHCPACK s) (hip : inp.dhcpPacket.yiaddr ≠ s.cs.clientAddr) :
    wp (arpCheck env cfg inp.dhcpPacket >>= fun r => if r < 0 then restart env 3000 else pure ())
      (fun _ u => Mid env inp s u ∧ peers u = peers s ∧ (Accepts inp DHCPACK s ∨ Wired s u))
      (BoundEnds env cfg inp s) (withLease env inp.dhcpPacket t) := by
  rw [wp_bind]
  apply wp_routine peers AnyWay
  apply wp_mono _ _ _ _ _ _ (wp_and _ _ _ _ _ _ (arpCheck_ends env cfg inp.dhcpPacket _)
    (arpCheck_fails env cfg inp.dhcpPacket _))
  · rintro r u ⟨⟨hr, hu⟩ | ⟨hr, hu⟩, hfail⟩ hup
    · have hmid : Mid env inp s u := mid_extended env inp s t u _ _ _ hstart hack hu
      rw [wp_ite, if_pos hr]
      exact OrderKept.wp_lose env cfg inp _ s u 3000 hmid.ordered (.check hack hip (hfail hr))
    · rw [wp_ite, if_neg hr]
      exact ⟨mid_extended env inp s t u _ _ _ hstart hack hu, hup.trans hpeers, Or.inl hack⟩
  · rintro e u ⟨⟨rfl, hu⟩, -⟩ -
    refine ⟨fun _ => ?_, congrArg Core.pc hu⟩
    have hkept := withLease_ordered env inp.dhcpPacket t
    rw [hu]
    exact hkept

theorem boundDhcp_ends (s t : Sys) (hstart : core t = (core s).fresh)
    (hline : line t = line s) :
    wp (boundDhcp env cfg inp)
      (fun _ u => Mid env inp s u ∧ peers u = peers s ∧ (Accepts inp DHCPACK s ∨ Wired s u))
      (BoundEnds env cfg inp s) t := by
  have hord : OrderKept s t := fun ho => by rw [hstart]; exact ho
  have hpeers : peers t = peers s := congrArg Prod.fst hline
  have hwired : Wired s t := Or.inr (congrArg Prod.snd hline)
  have hvalid := validateServerid_congr s t inp.dhcpPacket hstart
  unfold boundDhcp
  rw [wp_bind, wp_get, wp_ite]
  split
  · next h =>
    obtain ⟨hdhcp, hrenew⟩ := h
    rw [isRenewing_congr s t inp.nowts hstart] at hrenew
    rw [wp_bind]
    apply wp_mono _ _ t _ _ _ (extendPacket_returns env inp.dhcpPacket inp.dhcpMsgtype t)
    · intro r u hr
      cases r with
      | ignore =>
        obtain ⟨rfl, hno⟩ := hr
        refine ⟨mid_unextended env inp s u hstart fun ha => hno ⟨ha.2.2.1, ?_⟩, hpeers, Or.inr hwired⟩
        rw [hvalid]
        exact ha.2.2.2
      | success =>
        obtain ⟨htype, hours, hu, hup⟩ := hr
        rw [hvalid] at hours
        have hack : Accepts inp DHCPACK s := ⟨hdhcp, hrenew, htype, hours⟩
        exact ⟨mid_extended env inp s t u _ _ _ hstart hack hu, hup.trans hpeers, Or.inl hack⟩
      | rejected =>
        obtain ⟨htype, hours, hu⟩ := hr
        rw [hvalid] at hours
        exact ⟨hord.of_core s t t.pc u hu, Or.inl (.nak ⟨hdhcp, hrenew, htype, hours⟩)⟩
      | checkIp =>
        obtain ⟨htype, hours, hip, rfl⟩ := hr
        rw [hvalid] at hours
        have hack : Accepts inp DHCPACK s := ⟨hdhcp, hrenew, htype, hours⟩
        have haddr : t.cs.clientAddr = s.cs.clientAddr := congrArg Peers.clientAddr hpeers
        rw [haddr] at hip
        exact boundCheck_ends env cfg inp s t hstart hpeers hack hip
    · rintro e u ⟨rfl, hu, hpc⟩
      exact ⟨fun ho => hu (hord ho), hpc⟩
  · next h =>
    have hno : ¬ Accepts inp DHCPACK s := fun ha =>
      h ⟨ha.1, (isRenewing_congr s t inp.nowts hstart).mpr ha.2.1⟩
    exact ⟨mid_unextended env inp s t hstart hno, hpeers, Or.inr hwired⟩

/-! ## Frames -/

theorem frameFails_entry (site : Site) (s t : Sys) (hw : Accepts inp DHCPACK s ∨ Wired s t)
    (h : FrameFails env site t) : Accepts inp DHCPACK s ∨ FrameFails env site s := by
  rcases h with hfd | hsend
  · rcases hw with hack | hopen | hsame
    · exact Or.inl hack
    · exact absurd hfd (Int.not_lt.mpr hopen)
    · exact Or.inr (Or.inl (hsame ▸ hfd))
  · exact Or.inr (Or.inr hsend)

theorem boundDefense_ends (s t : Sys) (harp : inp.sevArp = true) (hmid : Mid env inp s t)
    (hpeers : peers t = peers s) (hw : Accepts inp DHCPACK s ∨ Wired s t) :
    wp (boundDefense env cfg)
      (fun _ u => Mid env inp s u ∧ (∃ ts, peers u = { peers s with lastConflictTs := ts }) ∧
        (Accepts inp DHCPACK s ∨ Wired s u)) (BoundEnds env cfg inp s) t := by
  unfold boundDefense
  rw [wp_bind]
  apply wp_mono _ _ t _ _ _ (arpDoDefense_returns env cfg t)
  · rintro r u ⟨hu, hr⟩
    have hmu := hmid.keep env inp s t u hu
    rw [hpeers] at hr
    cases r with
    | ok =>
      obtain ⟨hfd, ts, hup⟩ := hr
      exact ⟨hmu, ⟨ts, hup⟩, hw.imp_right fun h => h.trans s t u (Or.inr hfd)⟩
    | free => exact hr.elim
    | conflict => exact OrderKept.wp_lose env cfg inp _ s u 0 hmu.ordered (.conflict harp hr.1 hr.2)
    | fail =>
      refine OrderKept.wp_stall env cfg inp _ s u hmu.ordered ?_
      exact (frameFails_entry env inp _ s t hw hr.2.2).imp_right (.defense harp hr.1 hr.2.1)
  · rintro e u ⟨rfl, hu⟩
    exact OrderKept.dies env cfg inp s t u hmid.ordered hu

/-- A defense leaves the fingerprint alone. -/
theorem later_of_defense (s t : Sys) (ts : Int)
    (hpeers : peers t = { peers s with lastConflictTs := ts }) : (peers s).Later (peers t) := by
  rw [hpeers]
  exact ⟨rfl, rfl, rfl, id, id⟩

theorem Mid.fromPeer (s t : Sys) (ts : Int) (h : Mid env inp s t)
    (hpeers : peers t = { peers s with lastConflictTs := ts }) (hf : FromPeer cfg t) :
    FromPeer cfg s := by
  have hreply : t.garp.reply = s.garp.reply := congrArg Peers.reply hpeers
  have hsrc : t.cs.srcAddr = s.cs.srcAddr := congrArg Peers.srcAddr hpeers
  unfold FromPeer at hf ⊢
  rw [hreply, hsrc, h.routerAddr] at hf
  exact hf

theorem Mid.mismatch (s t : Sys) (ts : Int) (h : Mid env inp s t)
    (hpeers : peers t = { peers s with lastConflictTs := ts }) (hm : Mismatch cfg t) :
    Mismatch cfg s := by
  have hreply : t.garp.reply = s.garp.reply := congrArg Peers.reply hpeers
  have hsrc : t.cs.srcAddr = s.cs.srcAddr := congrArg Peers.srcAddr hpeers
  have hrouter : t.cs.routerArp = s.cs.routerArp := congrArg Peers.routerArp hpeers
  have hserver : t.cs.serverArp = s.cs.serverArp := congrArg Peers.serverArp hpeers
  unfold Mismatch at hm ⊢
  rw [hreply, hsrc, hrouter, hserver, h.routerAddr] at hm
  exact hm

theorem boundGwQuery_ends (s t : Sys) (ts : Int) (harp : inp.sevArp = true) (hmid : Mid env inp s t)
    (hpeers : peers t = { peers s with lastConflictTs := ts })
    (hw : Accepts inp DHCPACK s ∨ Wired s t) (hunknown : gwUnknown t.cs) :
    wp (boundGwQuery env cfg)
      (fun _ u => Mid env inp s u ∧ (peers s).Later (peers u) ∧ (Accepts inp DHCPACK s ∨ Wired s u))
      (BoundEnds env cfg inp s) t := by
  have hlater := later_of_defense s t ts hpeers
  unfold boundGwQuery
  apply hmid.wp_sub env cfg inp _ s t _ _ _ (arpDoGwQuery_returns env cfg t)
  rintro r u (⟨rfl, hfrom, hopen⟩ | ⟨rfl | rfl, hl, hwu⟩) hmu
  · refine OrderKept.wp_stall env cfg inp _ s u hmu.ordered (Or.inr ?_)
    exact .gwQuery harp (hlater.unknown hunknown) (hmid.fromPeer env cfg inp s t ts hpeers hfrom) hopen
  · exact ⟨hmu, hlater.trans _ _ _ hl, hw.imp_right fun h => h.trans s t u hwu⟩
  · refine ⟨hmu.keep env inp s u _ rfl, hlater.trans _ _ _ hl, ?_⟩
    exact hw.imp_right fun h => h.trans s t u hwu

theorem boundGwCheck_ends (s t : Sys) (ts : Int) (harp : inp.sevArp = true) (hmid : Mid env inp s t)
    (hpeers : peers t = { peers s with lastConflictTs := ts })
    (hw : Accepts inp DHCPACK s ∨ Wired s t) (hknown : ¬ gwUnknown s.cs)
    (hcheck : s.cs.checkFingerprint = true) :
    wp (boundGwCheck env cfg)
      (fun _ u => Mid env inp s u ∧ (peers s).Later (peers u) ∧ (Accepts inp DHCPACK s ∨ Wired s u))
      (BoundEnds env cfg inp s) t := by
  unfold boundGwCheck gwLost
  apply hmid.wp_sub env cfg inp _ s t _ _ _ (arpDoGwCheck_returns env cfg t)
  rintro r u (⟨rfl, hfrom, hfail⟩ | ⟨rfl, hm⟩ | ⟨rfl | rfl, hup, hwu⟩) hmu
  · refine OrderKept.wp_stall env cfg inp _ s u hmu.ordered (Or.inr ?_)
    exact .gwCheck harp hknown hcheck (hmid.fromPeer env cfg inp s t ts hpeers hfrom) hfail
  · refine OrderKept.wp_lose env cfg inp _ s _ 0 hmu.ordered ?_
    exact .gwCheck harp hknown hcheck (hmid.mismatch env cfg inp s t ts hpeers hm)
  · refine ⟨hmu, ?_, hw.imp_right fun h => h.trans s t u hwu⟩
    rw [hup, hpeers]
    exact ⟨rfl, rfl, rfl, id, id⟩
  · refine ⟨hmu.keep env inp s u _ rfl, ?_, hw.imp_right fun h => h.trans s t u hwu⟩
    show (peers s).Later { peers u with checkFingerprint := false }
    rw [hup, hpeers]
    exact ⟨rfl, rfl, rfl, id, nofun⟩

theorem boundArp_ends (s t : Sys) (hmid : Mid env inp s t) (hpeers : peers t = peers s)
    (hw : Accepts inp DHCPACK s ∨ Wired s t) :
    wp (boundArp env cfg inp)
      (fun _ u => Mid env inp s u ∧ (peers s).Later (peers u) ∧ (Accepts inp DHCPACK s ∨ Wired s u))
      (BoundEnds env cfg inp s) t := by
  unfold boundArp
  rw [wp_ite]
  split
  · next harp =>
    rw [wp_bind]
    apply wp_mono _ _ t _ _ _ (boundDefense_ends env cfg inp s t harp hmid hpeers hw) ?_ (fun _ _ h => h)
    rintro _ u ⟨hmu, ⟨ts, hup⟩, hwu⟩
    have hlater := later_of_defense s u ts hup
    rw [wp_bind, wp_get, wp_ite]
    split
    · next hunknown => exact boundGwQuery_ends env cfg inp s u ts harp hmu hup hwu hunknown
    · next hknown =>
      have hgot : ¬ gwUnknown s.cs := by
        have hr : u.cs.gotRouterArp = s.cs.gotRouterArp := congrArg Peers.gotRouterArp hup
        have hs : u.cs.gotServerArp = s.cs.gotServerArp := congrArg Peers.gotServerArp hup
        unfold gwUnknown at hknown ⊢
        rw [hr, hs] at hknown
        exact hknown
      rw [wp_ite]
      split
      · next hcheck =>
        exact boundGwCheck_ends env cfg inp s u ts harp hmu hup hwu hgot
          (hlater.checkFingerprint hcheck)
      · exact ⟨hmu, hlater, hwu⟩
  · refine ⟨hmid, ?_, hw⟩
    rw [hpeers]
    exact .refl _

/-! ## The ARP timers -/

/-- The timer of the query or of the check is served, whichever is next. -/
theorem wp_boundGwTimeout (Q : Unit → Sys → Prop) (E : Stop → Sys → Prop) (s : Sys)
    (hquery : s.cs.sentGwQuery = false →
      wp (arpQueryGatewayTimeout env inp.nowts >>= fun _ => pure ()) Q E s)
    (hrepeat : s.cs.sentGwQuery = true → gwUnknown s.cs →
      wp (arpGwQueryTimeout env inp.nowts >>= fun r =>
        if r = .ok then pure ()
        else if r = .fail then scrReturn COR_ERROR .bound
        else suicide) Q E s)
    (hcheck : s.cs.sentGwQuery = true → ¬ gwUnknown s.cs → s.cs.checkFingerprint = true →
      wp (arpGwCheckTimeout env inp.nowts >>= fun r =>
        if r = .ok then pure ()
        else if r = .conflict then gwLost env
        else if r = .fail then scrReturn COR_ERROR .bound
        else suicide) Q E s)
    (hrest : s.cs.sentGwQuery = true → ¬ gwUnknown s.cs → s.cs.checkFingerprint = false → Q () s) :
    wp (boundGwTimeout env inp) Q E s := by
  unfold boundGwTimeout
  rw [wp_bind, wp_get, wp_ite]
  split
  · next hsent => exact hquery (by simpa using hsent)
  · next hsent =>
    have hsent : s.cs.sentGwQuery = true := by simpa using hsent
    rw [wp_ite]
    split
    · next hunknown => exact hrepeat hsent hunknown
    · next hknown =>
      rw [wp_ite]
      split
      · next hchecking => exact hcheck hsent hknown hchecking
      · next hchecking => exact hrest hsent hknown (Bool.eq_false_iff.mpr hchecking)

theorem boundGwTimeout_ends (s t : Sys) (htimeout : inp.arpTimeout = true) (hmid : Mid env inp s t)
    (hlater : (peers s).Later (peers t)) (hw : Accepts inp DHCPACK s ∨ Wired s t) :
    wp (boundGwTimeout env inp) (fun _ u => Mid env inp s u) (BoundEnds env cfg inp s) t := by
  have hframe : ∀ router server, FrameFails env router t ∨ FrameFails env server t →
      Accepts inp DHCPACK s ∨ (FrameFails env router s ∨ FrameFails env server s) := by
    rintro router server (h | h)
    · exact (frameFails_entry env inp _ s t hw h).imp_right Or.inl
    · exact (frameFails_entry env inp _ s t hw h).imp_right Or.inr
  have hping : (peers t).PingDue inp.nowts → (peers s).PingDue inp.nowts := by
    unfold Peers.PingDue
    rw [hlater.gwPingStats]
    exact id
  have hsent : t.cs.sentGwQuery = true → s.cs.sentGwQuery = true := by
    rw [show t.cs.sentGwQuery = s.cs.sentGwQuery from hlater.sentGwQuery]
    exact id
  apply wp_boundGwTimeout
  · intro _
    exact hmid.wp_sub env cfg inp _ s t _ _ _
      (wp_all _ _ t _ (fun _ _ => trivial) (fun _ _ => trivial)) (fun _ _ (_ : True) hmu => hmu)
  · intro hquery hunknown
    apply hmid.wp_sub env cfg inp _ s t _ _ _ (arpGwQueryTimeout_returns env inp.nowts t)
    rintro r u (rfl | ⟨rfl, hdue, hfail⟩) hmu
    · exact hmu
    · refine OrderKept.wp_stall env cfg inp _ s u hmu.ordered ?_
      exact (hframe _ _ hfail).imp_right
        (.gwQueryTimeout htimeout (hsent hquery) (hlater.unknown hunknown) (hping hdue))
  · intro hquery _ hchecking
    have hcheck := hlater.checkFingerprint hchecking
    unfold gwLost
    apply hmid.wp_sub env cfg inp _ s t _ _ _ (arpGwCheckTimeout_returns env inp.nowts t)
    rintro r u (rfl | ⟨rfl, hnone⟩ | ⟨rfl, hdue, hfail⟩) hmu
    · exact hmu
    · refine OrderKept.wp_lose env cfg inp _ s _ 0 hmu.ordered ?_
      refine .gwCheckTimeout htimeout (hsent hquery) hcheck ?_
      unfold Peers.Unanswered at hnone ⊢
      rw [hlater.gwPingStats, hlater.gwCheckInitpings] at hnone
      exact hnone
    · refine OrderKept.wp_stall env cfg inp _ s u hmu.ordered ?_
      exact (hframe _ _ hfail).imp_right (.gwCheckTimeout htimeout (hsent hquery) hcheck (hping hdue))
  · exact fun _ _ _ => hmid

theorem boundArpTimeout_ends (s t : Sys) (hmid : Mid env inp s t) (hlater : (peers s).Later (peers t))
    (hw : Accepts inp DHCPACK s ∨ Wired s t) :
    wp (boundArpTimeout env inp) (fun _ u => Mid env inp s u) (BoundEnds env cfg inp s) t := by
  unfold boundArpTimeout
  rw [wp_ite]
  split
  · next htimeout =>
    apply hmid.wp_sub env cfg inp _ s t _ _ (fun _ u => line u = line t)
    · exact wp_mono _ _ t _ _ _ (Routine.ends (f := line) (X := AnyWay) t) (fun _ _ h => h)
        (fun _ _ h => h)
    · intro _ u hline hmu
      apply boundGwTimeout_ends env cfg inp s u htimeout hmu
      · rw [show peers u = peers t from congrArg Prod.fst hline]
        exact hlater
      · exact hw.imp_right fun h => h.trans s t u (Or.inr (congrArg Prod.snd hline))
  · exact hmid

/-! ## Carrier up -/

theorem boundIfup_ends (s t : Sys) (hmid : Mid env inp s t) :
    wp (boundIfup env inp) (fun _ u => Mid env inp s u) (BoundEnds env cfg inp s) t := by
  have hunchecked : Unchecked t.cs ↔ Unchecked s.cs := by
    unfold Unchecked
    rw [hmid.routerAddr, hmid.serverAddr]
  unfold boundIfup
  rw [wp_ite]
  split
  · next hforce =>
    apply hmid.wp_sub env cfg inp _ s t _ _ _ (ifupAction_returns env t)
    rintro r u (rfl | ⟨rfl, hnew⟩ | ⟨rfl, hchecked, hfail⟩) hmu
    · exact hmu
    · show wp (ifchangeDeconfig env >>= fun r =>
        if r < 0 then scrReturn COR_ERROR .newlease else restart env 0) _ _ u
      rw [wp_bind]
      apply wp_mono _ _ u _ _ _ (ifchangeDeconfig_returns env u)
      · rintro r v (⟨hr, hv, hconfig, hfail⟩ | ⟨hr, hdone, hv⟩)
        · rw [hmu.ifDeconfig] at hconfig
          rw [wp_ite, if_pos hr]
          refine ⟨(hmu.keep env inp s u v hv).ordered, Or.inr (Or.inl ?_), Or.inr ⟨rfl, ?_⟩⟩
          · exact .deconfig hforce (hunchecked.mp hnew) hconfig hfail
          · exact .deconfig hforce (hunchecked.mp hnew) hconfig hfail
        · have hord : OrderKept s v := fun ho => hv (hmu.ordered ho)
          rw [wp_ite, if_neg hr]
          apply wp_restart
          · intro w hw
            exact ⟨hord.of_core s v v.pc w hw, Or.inr ((congrArg Core.ifDeconfig hw).trans hdone)⟩
          · intro w hw
            exact hord.dies env cfg inp s v w hw
      · rintro e v ⟨rfl, hv⟩
        exact OrderKept.dies env cfg inp s u v hmu.ordered hv
    · refine OrderKept.wp_stall env cfg inp _ s u hmu.ordered (Or.inr ?_)
      exact .ifup hforce (fun h => hchecked (hunchecked.mpr h)) hfail
  · exact hmid

/-! ## The lease timer -/

theorem Mid.not_due (s t : Sys) (h : Mid env inp s t) (hnot : ¬ Expired t.cs inp.nowts) :
    Accepts inp DHCPACK s ∨ Hindered env cfg inp s ∨ ¬ Due inp s := by
  rcases h.lease with ⟨-, hsame⟩ | ⟨hack, -⟩
  · exact Or.inr (Or.inr fun hdue => hnot ((hsame _).mpr hdue.2))
  · exact Or.inl hack

theorem boundTimer_ends (s t : Sys) (hmid : Mid env inp s t) :
    wp (boundTimer env inp) (fun _ _ => False) (BoundEnds env cfg inp s) t := by
  unfold boundTimer
  rw [wp_ite]
  split
  · next htimeout =>
    apply hmid.wp_sub env cfg inp _ s t _ _ _ (leaseTimeout_returns env inp.nowts t)
    intro r u hr hmu
    cases r with
    | wait => exact ⟨hmu.ordered, hmid.not_due env cfg inp s t (hr.not.mp nofun), Or.inl rfl⟩
    | expired =>
      refine ⟨hmu.ordered, Or.inl ?_⟩
      rcases hmid.lease with ⟨hno, hsame⟩ | ⟨hack, hback⟩
      · exact .expired hno ⟨htimeout, (hsame _).mp (hr.mp rfl)⟩
      · exact .clock hack htimeout (hback _ (hr.mp rfl))
    | hardfail => exact ⟨hmu.ordered, hmid.not_due env cfg inp s t (hr.not.mp nofun), Or.inl rfl⟩
  · next htimeout =>
    exact ⟨hmid.ordered, Or.inr (Or.inr fun hdue => htimeout hdue.1), Or.inl rfl⟩

/-! ## A pass and a call -/

theorem boundPass_ends (s t : Sys) (hstart : core t = (core s).fresh)
    (hline : line t = line s) :
    wp (boundPass env cfg inp) (fun _ _ => False) (BoundEnds env cfg inp s) t := by
  unfold boundPass
  rw [wp_bind]
  apply wp_mono _ _ t _ _ _ (boundSignal_ends env cfg inp s t hstart) ?_ (fun _ _ h => h)
  rintro _ t1 ⟨hcore, hl⟩
  rw [wp_bind]
  apply wp_mono _ _ t1 _ _ _
    (boundDhcp_ends env cfg inp s t1 (hcore.trans hstart) (hl.trans hline)) ?_ (fun _ _ h => h)
  rintro _ t2 ⟨hmid, hpeers, hw⟩
  rw [wp_bind]
  apply wp_mono _ _ t2 _ _ _ (boundArp_ends env cfg inp s t2 hmid hpeers hw) ?_ (fun _ _ h => h)
  rintro _ t3 ⟨hmid, hlater, hw⟩
  rw [wp_bind]
  apply wp_mono _ _ t3 _ _ _ (boundArpTimeout_ends env cfg inp s t3 hmid hlater hw) ?_ (fun _ _ h => h)
  intro _ t4 hmid
  rw [wp_bind]
  apply wp_mono _ _ t4 _ _ _ (boundIfup_ends env cfg inp s t4 hmid) ?_ (fun _ _ h => h)
  intro _ t5 hmid
  exact boundTimer_ends env cfg inp s t5 hmid

/-- How a call ends that began in BOUND. -/
structure BoundCall (s t : Sys) : Prop where
  stays : t.pc = .bound ∨ t.pc = .newlease →
    Accepts inp DHCPACK s ∨ Hindered env cfg inp s ∨ ¬ Due inp s
  stuck : t.pc = .newlease → Loses env cfg inp s
  leaves : t.pc = .selecting ∨ t.pc = .released → Loses env cfg inp s ∨ t.cs.ifDeconfig = true
  pc : t.pc = .bound ∨ t.pc = .newlease ∨ t.pc = .selecting ∨ t.pc = .released ∨ t.pc = .dead

theorem BoundCall.of_dead (s t : Sys) (h : t.pc = .dead) : BoundCall env cfg inp s t where
  stays hpc := by rw [h] at hpc; exact hpc.elim nofun nofun
  stuck hpc := nomatch h.symm.trans hpc
  leaves hpc := by rw [h] at hpc; exact hpc.elim nofun nofun
  pc := Or.inr (Or.inr (Or.inr (Or.inr h)))

theorem BoundCall.of_idle (s t u : Sys) (e : Stop) (h : EndsIdle (core t) e u)
    (hwhy : Loses env cfg inp s ∨ t.cs.ifDeconfig = true) : BoundCall env cfg inp s u := by
  match e, h with
  | .ret _, ⟨hcalm, hpc⟩ =>
    refine ⟨fun hb => ?_, fun hb => ?_, fun _ => ?_, Or.inr (Or.inr (hpc.imp_right Or.inl))⟩
    · rcases hpc with hpc | hpc <;> (rw [hpc] at hb; exact hb.elim nofun nofun)
    · rcases hpc with hpc | hpc <;> exact nomatch hpc.symm.trans hb
    · exact hwhy.imp_right fun hd => hcalm.ifDeconfig.trans hd
  | .exit, ⟨_, hpc⟩ => exact .of_dead env cfg inp s u hpc

/-- **A call with a lease**: why it stays in the phase, and why it leaves it with the address
configured. -/
theorem bound_call (s : Sys) (hpc : s.pc = .bound) :
    wp (dhcpHandle env cfg inp) (fun _ _ => False) (fun _ t => BoundCall env cfg inp s t) s := by
  rw [wp_dhcpHandle env cfg inp _ _ s .bound hpc, wp_follow]
  apply wp_mono _ _ _ _ _ _ (boundPass_ends env cfg inp s { s with out := [] } rfl rfl) (fun _ _ h => h)
  intro e t h
  have hrefl : Calm [] (core t) (core t) := Calm.of_core _ _ t.pc rfl
  match e, h with
  | .ret _, ⟨_, hwhy, hpc⟩ =>
    refine ⟨fun _ => hwhy, fun hn => ?_, fun hi => ?_, hpc.imp_right fun h => Or.inl h.1⟩
    · rcases hpc with hpc | hpc
      · exact nomatch hpc.symm.trans hn
      · exact hpc.2
    · rcases hpc with hpc | ⟨hpc, -⟩ <;> (rw [hpc] at hi; exact hi.elim nofun nofun)
  | .goto .reinit, ⟨_, hwhy⟩ =>
    exact wp_mono _ _ t _ _ _ (reinit_call env cfg inp 0 (core t) t hrefl) (fun _ _ h => h)
      (fun e u hu => .of_idle env cfg inp s t u e hu hwhy)
  | .goto .released, ⟨_, hsig, hlost⟩ =>
    exact wp_mono _ _ t _ _ _ (released_call env cfg inp 1 (core t) t hrefl hsig) (fun _ _ h => h)
      (fun e u hu => .of_idle env cfg inp s t u e hu (Or.inl hlost))
  | .exit, ⟨_, hdead⟩ => exact .of_dead env cfg inp s t hdead

end

end Ndhc
