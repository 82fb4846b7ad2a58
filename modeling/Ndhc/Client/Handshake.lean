import Ndhc.Client.Probes
import Ndhc.Client.Timeouts

/-!
# A server that answers

What the program is for: from SELECTING, with an offer, an acknowledgement of the offered address
within four iterations, and an ARP timer that falls due often enough without anybody answering the
probes, the address is configured.  The outside is only asked to do its part (`Obliging`), at any
times and with any random numbers; between the messages the main loop may wake for nothing any
number of times (`Exchange`).  `exchange_obtains` is about every state in which the program can be in
SELECTING.
-/

namespace Ndhc

open Prog

/-! ## An outside that does its part -/

/-- Sends succeed, sockets are handed out, the interface is configured as asked, and the clock does
not show a time below zero. -/
class Obliging (env : Env) : Prop where
  sends : ∀ site, ∃ r, env.send site = some r ∧ 0 ≤ r
  sockets : ∀ site, ∃ r, env.sockd site = some r ∧ 0 ≤ r.1
  configures : ∀ site, ∃ r, env.ifch site = some r ∧ 0 ≤ r
  clock : ∀ site, 0 ≤ env.curms site

section
variable (env : Env) [h : Obliging env]

theorem wp_sendDhcp_obliged (site : Site) (m : Sent) (Q : Int → Sys → Prop) (E : Stop → Sys → Prop) (s : Sys)
    (hQ : ∀ r, 0 ≤ r → Q r { s with out := s.out ++ [.dhcp m] }) : wp (sendDhcp env site m) Q E s := by
  obtain ⟨r, hr, hpos⟩ := h.sends site
  unfold sendDhcp
  rw [hr, wp_bind]
  show wp (if r < 0 then pure r else _) Q E s
  rw [wp_ite, if_neg (Int.not_lt.mpr hpos)]
  exact hQ r hpos

theorem wp_arpSend_obliged (site : Site) (sip dip : UInt32) (Q : Int → Sys → Prop) (E : Stop → Sys → Prop) (s : Sys)
    (hfd : 0 ≤ s.cs.arpFd) (hQ : ∀ r, 0 ≤ r → Q r { s with out := s.out ++ [.arp sip dip] }) :
    wp (arpSend env site sip dip) Q E s := by
  obtain ⟨r, hr, hpos⟩ := h.sends site
  unfold arpSend
  rw [wp_bind, wp_get, wp_ite, if_neg (Int.not_lt.mpr hfd), hr, wp_bind]
  show wp (if r < 0 then pure r else _) Q E s
  rw [wp_ite, if_neg (Int.not_lt.mpr hpos)]
  refine hQ _ ?_
  split
  · exact Int.le_refl 0
  · exact hpos

/-- The socket is open, whatever it was before. -/
theorem wp_arpOpenFd_obliged (site : Site) (defense : Bool) (Q : Int → Sys → Prop) (E : Stop → Sys → Prop) (s : Sys)
    (hQ : ∀ fd bpf, 0 ≤ fd →
      Q 0 { s with garp.usingBpf := bpf, cs.arpIsDefense := defense, cs.arpFd := fd }) :
    wp (arpOpenFd env site defense) Q E s := by
  obtain ⟨r, hr, hpos⟩ := h.sockets site
  unfold arpOpenFd arpMinCloseFd
  rw [wp_bind, wp_get, wp_ite]
  split
  · next hopen =>
    have hsame := hQ s.cs.arpFd s.garp.usingBpf hopen.1
    rw [hopen.2] at hsame
    exact hsame
  · rw [hr, wp_bind, wp_bind, wp_get, wp_ite]
    have hend := hQ r.1 r.2 hpos
    split
    · show wp (if r.1 < 0 then pure (-1) else pure 0) Q E _
      rw [wp_ite, if_neg (Int.not_lt.mpr hpos)]
      exact hend
    · show wp (if r.1 < 0 then pure (-1) else pure 0) Q E _
      rw [wp_ite, if_neg (Int.not_lt.mpr hpos)]
      exact hend

end

/-! ## The three states -/

/-- An offer of `a` is being requested, `n` times at most so far; `config` is what the interface has. -/
structure Asking (a : UInt32) (config : DhcpMsg) (n : Nat) (s : Sys) : Prop where
  pc : s.pc = .requesting
  addr : s.cs.clientAddr = a
  config : s.cfgPacket = config
  few : s.cs.numDhcpRequests ≤ n
  unprobed : 0 ≤ s.garp.collisionStats.count

/-- The acknowledged address is being tested, with `k` probes at least, for a lease from `start`. -/
structure Testing (ack config : DhcpMsg) (start k : Int) (s : Sys) : Prop where
  pc : s.pc = .probing
  packet : s.garp.dhcpPacket = ack
  config : s.cfgPacket = config
  opened : 0 ≤ s.cs.arpFd
  probes : k ≤ s.garp.collisionStats.count
  timer : s.garp.wakeTs.collisionCheck = s.garp.collisionStats.ts + s.garp.probeWaitTime
  clock : 0 ≤ s.garp.collisionStats.ts
  begun : s.cs.leaseStartTime = start
  lease : s.cs.lease = leaseOf (getOptionLeasetime ack)
  renews : s.cs.dhcpWakeTs = start + (leaseOf (getOptionLeasetime ack) >>> 1).toNat * 1000

/-- The lease is taken: its terms, and the interface, are those of the acknowledgement. -/
@[reducible] def Taken (ack : DhcpMsg) (start : Int) (s : Sys) : Prop :=
  s.cs.clientAddr = ack.yiaddr ∧ s.cfgPacket = ack ∧ s.cs.ifDeconfig = false ∧ s.cs.leaseStartTime = start ∧
    s.cs.lease = leaseOf (getOptionLeasetime ack) ∧ Effect.bind ack.yiaddr ∈ s.out

/-! ## Requesting -/

section
variable (env : Env) [h : Obliging env] (cfg : ClientConfig) (inp : Input)

theorem requestTimer_asking (a : UInt32) (config : DhcpMsg) (n : Nat) (s : Sys) (hn : n < 5)
    (hs : Asking a config n { s with pc := .requesting }) :
    wp (requestTimer env inp .requesting) (fun _ _ => False) (fun e t => (∀ l, e ≠ .goto l) ∧ Asking a config (n + 1) t) s := by
  have hfew : s.cs.numDhcpRequests ≤ n := hs.few
  unfold requestTimer
  rw [wp_ite]
  split
  · unfold requestingTimeout sendSelecting
    rw [wp_bind, wp_bind, wp_get, wp_ite, if_neg (by omega), wp_bind, wp_bind, wp_get]
    apply wp_sendDhcp_obliged
    intro r hr
    rw [wp_ite, if_neg (Int.not_lt.mpr hr)]
    exact ⟨nofun, rfl, hs.addr, hs.config, Nat.succ_le_succ hfew, hs.unprobed⟩
  · exact ⟨nofun, rfl, hs.addr, hs.config, Nat.le_succ_of_le hfew, hs.unprobed⟩

/-- A call without a packet or a signal. -/
theorem requestingPass_asking (a : UInt32) (config : DhcpMsg) (n : Nat) (s : Sys) (hn : n < 5)
    (hsev : inp.sevDhcp = false) (hsig : inp.sevSignal = .none) (hs : Asking a config n { s with pc := .requesting }) :
    wp (requestingPass env cfg inp) (fun _ _ => False)
      (fun e t => (∀ l, e ≠ .goto l) ∧ Asking a config (n + 1) t) s := by
  unfold requestingPass onRelease requestingDhcp
  rw [hsig, hsev, wp_bind, wp_ite, if_neg (by decide), wp_pure, wp_bind, wp_ite, if_neg (by decide), wp_pure]
  exact requestTimer_asking env inp a config n s hn hs

/-- **A call that waits for the ACK.** -/
theorem call_waits (a : UInt32) (config : DhcpMsg) (n : Nat) (s : Sys) (hn : n < 5) (hsev : inp.sevDhcp = false)
    (hsig : inp.sevSignal = .none) (hs : Asking a config n s) :
    Asking a config (n + 1) (final (dhcpHandle env cfg inp) s) := by
  apply final_of_wp
  rw [wp_dhcpHandle env cfg inp _ _ s .requesting hs.pc]
  refine wp_mono _ _ _ _ _ _ (wp_follow_last env cfg inp 2 _ (fun _ _ => False)
    (fun e t => (∀ l, e ≠ .goto l) ∧ Asking a config (n + 1) t) _ ?_ ?_) (fun _ _ hf => hf.elim) (fun _ _ ht => ht.2)
  · exact requestingPass_asking env cfg inp a config n { s with out := [] } hn hsev hsig
      ⟨rfl, hs.addr, hs.config, hs.few, hs.unprobed⟩
  · exact fun l t ht => ht.1 l rfl

/-- **A call with an offer** goes on to request it, at once if the timer is due. -/
theorem call_offered (s : Sys) (sid : UInt32) (hpc : s.pc = .selecting) (hans : Reply inp DHCPOFFER sid)
    (hsig : inp.sevSignal = .none) (hcount : 0 ≤ s.garp.collisionStats.count) :
    Asking inp.dhcpPacket.yiaddr s.cfgPacket 1 (final (dhcpHandle env cfg inp) s) := by
  apply final_of_wp
  rw [wp_dhcpHandle env cfg inp _ _ s .selecting hpc, wp_follow]
  show wp (selectingPass env cfg inp) _ _ _
  unfold selectingPass onRelease selectingDhcp selectingPacket selectingOffer
  rw [hsig, hans.here, hans.type, hans.server, wp_bind, wp_ite, if_neg (by decide), wp_pure, wp_bind, wp_ite, if_pos rfl,
    wp_bind, wp_bind, wp_get, wp_ite, if_pos (by decide)]
  show wp (follow env cfg inp 1 (target env cfg inp .requesting)) _ _ _
  refine wp_mono _ _ _ _ _ _ (wp_follow_last env cfg inp 1 _ (fun _ _ => False)
    (fun e t => (∀ l, e ≠ .goto l) ∧ Asking inp.dhcpPacket.yiaddr s.cfgPacket 1 t) _ ?_ ?_)
    (fun _ _ hf => hf.elim) (fun _ _ ht => ht.2)
  · exact requestingPass_asking env cfg { inp with sevDhcp := false } _ _ 0 _ (by decide) rfl hsig
      ⟨rfl, rfl, rfl, Nat.le_refl 0, hcount⟩
  · exact fun l t ht => ht.1 l rfl

omit h in
/-- The terms of the ACK are noted, and perhaps another server. -/
theorem wp_selectingPacket_ack (packet : DhcpMsg) (srcaddr sid : UInt32) (s : Sys) (hsid : getOptionServerid packet = some sid)
    (haddr : packet.yiaddr = s.cs.clientAddr) (Q : Anp → Sys → Prop) (E : Stop → Sys → Prop)
    (hQ : ∀ server src, Q .checkIp (withLease env packet { s with cs.serverAddr := server, cs.srcAddr := src })) :
    wp (selectingPacket env packet DHCPACK srcaddr true) Q E s := by
  unfold selectingPacket selectingAck noteServer getLeasetime
  rw [hsid, wp_bind, wp_get, wp_ite, if_neg (by decide), wp_ite, if_pos ⟨rfl, rfl, haddr⟩, wp_bind, wp_bind, wp_get, wp_ite]
  split
  · exact hQ sid srcaddr
  · exact hQ s.cs.serverAddr s.cs.srcAddr

theorem arpCheck_testing (packet : DhcpMsg) (start : Int) (s : Sys) (hcount : 0 ≤ s.garp.collisionStats.count)
    (hstart : s.cs.leaseStartTime = start) (hlease : s.cs.lease = leaseOf (getOptionLeasetime packet))
    (hwake : s.cs.dhcpWakeTs = start + (leaseOf (getOptionLeasetime packet) >>> 1).toNat * 1000) :
    wp (arpCheck env cfg packet) (fun r t => 0 ≤ r ∧ Testing packet s.cfgPacket start 1 { t with pc := .probing })
      (fun _ _ => False) s := by
  unfold arpCheck arpIpAnonPing
  rw [wp_bind, wp_modify, wp_bind]
  apply wp_arpOpenFd_obliged
  intro fd bpf hfd
  rw [wp_ite, if_neg (by decide), wp_bind, wp_bind]
  apply wp_arpSend_obliged
  · exact hfd
  · intro r hr
    rw [wp_ite, if_neg (Int.not_lt.mpr hr)]
    have hone : 1 ≤ s.garp.collisionStats.count + 1 := by omega
    exact ⟨Int.le_refl 0, rfl, rfl, rfl, hfd, hone, rfl, h.clock .collisionPing, hstart, hlease, hwake⟩

/-- **A call with an ACK** of the address asked for sends the first probe. -/
theorem call_acked (s : Sys) (sid a : UInt32) (config : DhcpMsg) (n : Nat) (hans : Reply inp DHCPACK sid)
    (haddr : inp.dhcpPacket.yiaddr = a) (hsig : inp.sevSignal = .none) (hs : Asking a config n s) :
    Testing inp.dhcpPacket config (env.curms .getLeasetime) 1 (final (dhcpHandle env cfg inp) s) := by
  apply final_of_wp
  rw [wp_dhcpHandle env cfg inp _ _ s .requesting hs.pc, wp_follow]
  show wp (requestingPass env cfg inp) _ _ _
  unfold requestingPass onRelease requestingDhcp
  rw [hsig, hans.here, hans.type, wp_bind, wp_ite, if_neg (by decide), wp_pure, wp_bind, wp_ite, if_pos rfl, wp_bind]
  apply wp_selectingPacket_ack env _ _ sid { s with out := [] } hans.server (haddr.trans hs.addr.symm)
  intro server src
  rw [wp_ite, if_neg (by decide), wp_ite, if_pos rfl, wp_bind]
  refine wp_mono _ _ _ _ _ _ (arpCheck_testing env cfg inp.dhcpPacket (env.curms .getLeasetime) _ hs.unprobed rfl rfl rfl)
    (fun r t ⟨hr, ht⟩ => ?_) (fun _ _ hf => hf.elim)
  rw [wp_ite, if_neg (Int.not_lt.mpr hr)]
  exact hs.config ▸ ht

/-! ## Testing -/

end

section
variable (env : Env) [h : Obliging env] (ack : DhcpMsg) (start : Int)

instance (P : Sys → Prop) (site : Site) : Upholds P (fun _ _ => False) (ask (env.send site)) where
  ends s hs := by
    obtain ⟨r, hr, -⟩ := h.sends site
    rw [hr]
    exact hs

instance (P : Sys → Prop) (site : Site) : Upholds P (fun _ _ => False) (ask (env.sockd site)) where
  ends s hs := by
    obtain ⟨r, hr, -⟩ := h.sockets site
    rw [hr]
    exact hs

instance (e : Effect) : Upholds (Taken ack start) (fun _ _ => False) (emit e) where
  ends s hs := by
    obtain ⟨haddr, hconfig, hdec, hbegun, hlease, hout⟩ := hs
    exact ⟨haddr, hconfig, hdec, hbegun, hlease, List.mem_append_left _ hout⟩

instance (site : Site) (sip dip : UInt32) : Upholds (Taken ack start) (fun _ _ => False) (arpSend env site sip dip) := by
  unfold arpSend
  infer_instance

instance (site : Site) (testIp : UInt32) : Upholds (Taken ack start) (fun _ _ => False) (arpPing env site testIp) := by
  unfold arpPing
  infer_instance

instance (site : Site) (defense : Bool) : Upholds (Taken ack start) (fun _ _ => False) (arpOpenFd env site defense) := by
  unfold arpOpenFd arpMinCloseFd
  infer_instance

instance : Upholds (Taken ack start) (fun _ _ => False) (gwHwaddrPings env) := by
  unfold gwHwaddrPings gwHwaddrRouter
  infer_instance

instance : Upholds (Taken ack start) (fun _ _ => False) (arpGetGwHwaddr env) := by
  unfold arpGetGwHwaddr
  infer_instance

instance : Upholds (Taken ack start) (fun _ _ => False) (arpQueryGateway env) := by
  unfold arpQueryGateway
  infer_instance

instance : Upholds (Taken ack start) (fun _ _ => False) (arpAnnounce env) := by
  unfold arpAnnounce arpAnnouncement
  infer_instance

end

section
variable (env : Env) [h : Obliging env] (cfg : ClientConfig)

theorem ifchangeBind_obliged (packet : DhcpMsg) (s : Sys) (hnew : bindBuffer s.cfgPacket packet ≠ []) :
    wp (ifchangeBind env packet)
      (fun r t => 0 ≤ r ∧ t = { s with
        cs.ifDeconfig := false, cfgPacket := packet, out := s.out ++ [.bind packet.yiaddr] })
      (fun _ _ => False) s := by
  obtain ⟨r, hr, hpos⟩ := h.configures .bind
  unfold ifchangeBind emit
  rw [wp_bind, wp_modify, wp_bind, wp_get, wp_ite, if_neg hnew, hr, wp_bind]
  show wp (if r < 0 then pure r else _) _ _ _
  rw [wp_ite, if_neg (Int.not_lt.mpr hpos)]
  exact ⟨hpos, rfl⟩

variable (ack config : DhcpMsg) (start k : Int) (hquit : cfg.quitAfterLease = false) (hnew : bindBuffer config ack ≠ [])
include hquit hnew

/-- The lease is taken. -/
theorem arpLeaseObtained_taken (s : Sys) (hs : Testing ack config start k { s with pc := .probing }) :
    wp (arpLeaseObtained env cfg) (fun r t => r = .free ∧ Taken ack start t) (fun _ _ => False) s := by
  have hpacket : s.garp.dhcpPacket = ack := hs.packet
  have hconfig : s.cfgPacket = config := hs.config
  unfold arpLeaseObtained
  rw [wp_bind, wp_get, wp_bind, wp_modify, wp_bind, hpacket]
  refine wp_mono _ _ _ _ _ _ (ifchangeBind_obliged env ack _ ?_) ?_ (fun _ _ hf => hf)
  · show bindBuffer s.cfgPacket ack ≠ []
    rw [hconfig]
    exact hnew
  · rintro r t ⟨hr, rfl⟩
    rw [wp_ite, if_neg (Int.not_lt.mpr hr), hquit]
    exact ⟨rfl, hpacket ▸ rfl, rfl, rfl, hs.begun, hs.lease, List.mem_append_right _ List.mem_cons_self⟩

/-- The timer of the test: the lease is taken, it is too early for the next probe, or one is sent. -/
theorem arpCollisionTimeout_testing (nowts : Int) (s : Sys) (hs : Testing ack config start k { s with pc := .probing }) :
    wp (arpCollisionTimeout env cfg nowts)
      (fun r t => (r = .free ∧ Taken ack start t) ∨
        (r = .ok ∧ nowts < s.garp.wakeTs.collisionCheck ∧ Testing ack config start k { t with pc := .probing }) ∨
        (r = .ok ∧ k < cfg.arpProbeNum ∧ Testing ack config start (k + 1) { t with pc := .probing }))
      (fun _ _ => False) s := by
  have htimer : s.garp.wakeTs.collisionCheck = s.garp.collisionStats.ts + s.garp.probeWaitTime := hs.timer
  have hprobes : k ≤ s.garp.collisionStats.count := hs.probes
  unfold arpCollisionTimeout
  rw [wp_bind, wp_get, wp_ite]
  split
  · exact wp_mono _ _ s _ _ _ (arpLeaseObtained_taken env cfg ack config start k hquit hnew s hs)
      (fun _ _ ht => Or.inl ht) (fun _ _ hf => hf)
  · next hover =>
    obtain ⟨-, hfew⟩ := not_or.mp hover
    rw [wp_ite]
    split
    · next hearly =>
      refine Or.inr (Or.inl ⟨rfl, htimer ▸ hearly, rfl, hs.packet, hs.config, hs.opened, hprobes, rfl, hs.clock, hs.begun,
        hs.lease, hs.renews⟩)
    · unfold arpIpAnonPing
      rw [wp_bind, wp_bind]
      apply wp_arpSend_obliged
      · exact hs.opened
      · intro r hr
        rw [wp_ite, if_neg (Int.not_lt.mpr hr)]
        have hmore : k + 1 ≤ s.garp.collisionStats.count + 1 := by omega
        exact Or.inr (Or.inr ⟨rfl, by omega, rfl, hs.packet, hs.config, hs.opened, hmore, rfl, h.clock _, hs.begun,
          hs.lease, hs.renews⟩)

variable (inp : Input) (hsig : inp.sevSignal = .none) (harp : inp.sevArp = false) (hwait : inp.dhcpTimeout = false)
include hsig harp hwait

/-- **A quiet call of the test**: if its timer is due the lease is taken or another probe sent. -/
theorem call_tests (s : Sys) (hs : Testing ack config start k s)
    (hdue : s.garp.wakeTs.collisionCheck ≤ inp.nowts → inp.arpTimeout = true) :
    let t := final (dhcpHandle env cfg inp) s
    (t.pc = .bound ∧ Taken ack start t) ∨ (inp.nowts < s.garp.wakeTs.collisionCheck ∧ Testing ack config start k t) ∨
      (k < cfg.arpProbeNum ∧ Testing ack config start (k + 1) t) := by
  intro t
  apply final_of_wp (dhcpHandle env cfg inp) s fun t => (t.pc = .bound ∧ Taken ack start t) ∨
    (inp.nowts < s.garp.wakeTs.collisionCheck ∧ Testing ack config start k t) ∨
      (k < cfg.arpProbeNum ∧ Testing ack config start (k + 1) t)
  have hfresh : Testing ack config start k { s with out := [], pc := .probing } :=
    ⟨rfl, hs.packet, hs.config, hs.opened, hs.probes, hs.timer, hs.clock, hs.begun, hs.lease, hs.renews⟩
  rw [wp_dhcpHandle env cfg inp _ _ s .probing hs.pc, wp_follow]
  show wp (probingPass env cfg inp) _ _ _
  unfold probingPass onRelease probingArp probingArpTimeout requestTimer
  rw [hsig, harp, hwait, wp_bind, wp_ite, if_neg (by decide), wp_pure, wp_bind, wp_ite, if_neg (by decide), wp_pure,
    wp_bind, wp_ite]
  split
  · rw [wp_bind]
    refine wp_mono _ _ _ _ _ _ (arpCollisionTimeout_testing env cfg ack config start k hquit hnew inp.nowts _ hfresh) ?_
      (fun _ _ hf => hf.elim)
    rintro r t (⟨rfl, ht⟩ | ⟨rfl, hearly, ht⟩ | ⟨rfl, hfew, ht⟩)
    · rw [wp_ite, if_pos rfl, wp_bind]
      refine wp_mono _ _ _ _ _ _ (Upholds.ends (P := Taken ack start) (E := fun _ _ => False) t ht) (fun _ u hu => ?_)
        (fun _ _ hf => hf.elim)
      rw [wp_bind]
      exact wp_mono _ _ _ _ _ _ (Upholds.ends (P := Taken ack start) (E := fun _ _ => False) u hu)
        (fun _ _ hv => Or.inl ⟨rfl, hv⟩) (fun _ _ hf => hf.elim)
    · exact Or.inr (Or.inl ⟨hearly, ht⟩)
    · exact Or.inr (Or.inr ⟨hfew, ht⟩)
  · next hnot => exact Or.inr (Or.inl ⟨by by_contra hle; exact hnot (hdue (by omega)), hfresh.pc, hfresh.packet, hfresh.config,
      hfresh.opened, hfresh.probes, hfresh.timer, hfresh.clock, hfresh.begun, hfresh.lease, hfresh.renews⟩)

end

/-! ## Iterations -/

/-- The interface is up, and the outside does its part. -/
structure Iteration.Smooth (it : Iteration) : Prop where
  obliging : Obliging it.env
  up : it.carrierIsup = true

section
variable (ck : NetChecksum) (cfg : ClientConfig)

/-- The iteration hands over a packet of this type. -/
def Hands (it : Iteration) (w : Work) (msgtype : UInt8) (packet : DhcpMsg) : Prop :=
  (workCall ck cfg it w).map (fun inp => (inp.sevDhcp, inp.dhcpMsgtype, inp.dhcpPacket)) = some (true, msgtype, packet)

theorem work_of_read (it : Iteration) (w : Work) (hlive : w.sys.pc ≠ .dead) (buf : DhcpMsg) (ev : Events) (t : Sys)
    (hr : readEvent ck cfg it.env w.dhcpPacket it.event { w.sys with out := [] } = .ok (buf, ev) t) :
    work ck cfg it w = handleEvents cfg it w buf ev t := by
  unfold work
  rw [if_neg hlive, hr]

/-- Nothing was reported. -/
theorem work_quiet (it : Iteration) (w : Work) (hev : it.event = .none) (hup : it.carrierIsup = true)
    (hradio : w.rfkillSet = false) (hlive : w.sys.pc ≠ .dead) :
    (work ck cfg it w).rfkillSet = false ∧ (work ck cfg it w).sys = final (dhcpHandle it.env cfg
      (callInput { w.sys with out := [] } w.dhcpPacket it.nowts false .empty)) { w.sys with out := [] } := by
  have hlatch : latches w it.carrierUnblocked .empty = (false, w.rfkillNlCarrierWentup, false) := by
    unfold latches
    rw [hradio]
    rfl
  have husable : usable it w .empty := by
    unfold usable
    rw [hlatch]
    exact ⟨rfl, hup⟩
  have hread : readEvent ck cfg it.env w.dhcpPacket it.event { w.sys with out := [] } =
      .ok (w.dhcpPacket, .empty) { w.sys with out := [] } := by
    rw [hev]
    rfl
  rw [work_of_read ck cfg it w hlive _ _ _ hread]
  unfold handleEvents
  rw [if_pos husable, hlatch]
  exact ⟨rfl, rfl⟩

/-- Only the event for the DHCP socket hands over a packet, one that was received, and reading it
changes nothing else. -/
theorem readEvent_hands (env : Env) (buf : DhcpMsg) (ev : Event) (s : Sys) :
    wp (readEvent ck cfg env buf ev)
      (fun r t => r.2.sevDhcp.isSome = true →
        t = s ∧ r.2.sevSignal = .none ∧ r.2.sevRfk = .none ∧ r.2.sevNl = .none ∧
          ∃ rd, (r.1, r.2.sevDhcp) = receive ck cfg s.cs.xid s.cs.usingDhcpBpf rd buf)
      (fun _ _ => True) s := by
  cases ev with
  | none => exact nofun
  | signal si =>
    unfold readEvent
    exact wp_bind_all _ _ s _ _ (fun _ _ => nofun) fun _ _ => trivial
  | dhcp rd =>
    unfold readEvent dhcpPacketGet
    rw [wp_bind, wp_bind, wp_get, wp_ite]
    split
    · exact nofun
    · rw [wp_ite]
      split
      · refine wp_bind_all _ _ s _ _ (fun _ t => ?_) fun _ _ => trivial
        exact wp_bind_all _ _ t _ _ (fun _ _ => nofun) fun _ _ => trivial
      · exact fun _ => ⟨rfl, rfl, rfl, rfl, rd, rfl⟩
  | arp stale rd =>
    unfold readEvent
    exact wp_bind_all _ _ s _ _ (fun _ _ => nofun) fun _ _ => trivial
  | netlink state =>
    unfold readEvent
    rw [wp_ite]
    split
    · trivial
    · exact nofun
  | rfkill ev => exact nofun
  | hangup => trivial

/-- The call of an iteration that hands over a packet. -/
theorem work_hands (it : Iteration) (w : Work) (msgtype : UInt8) (packet : DhcpMsg)
    (h : Hands ck cfg it w msgtype packet) :
    w.rfkillSet = false ∧ (work ck cfg it w).rfkillSet = false ∧ ∃ inp, inp.sevDhcp = true ∧ inp.dhcpMsgtype = msgtype ∧
      inp.dhcpPacket = packet ∧ inp.sevSignal = .none ∧
      (work ck cfg it w).sys = final (dhcpHandle it.env cfg inp) { w.sys with out := [] } := by
  obtain ⟨inp, hcall, heq⟩ := Option.map_eq_some_iff.mp h
  obtain ⟨hsev, heq⟩ := Prod.mk.inj heq
  obtain ⟨htype, hpacket⟩ := Prod.mk.inj heq
  have hread := readEvent_hands ck cfg it.env w.dhcpPacket it.event { w.sys with out := [] }
  unfold workCall at hcall
  split at hcall
  · cases hcall
  · next hlive =>
    split at hcall
    · cases hcall
    · next buf ev t hr =>
      rw [wp_ok_iff _ _ _ _ _ _ hr] at hread
      rw [work_of_read ck cfg it w hlive buf ev t hr]
      split at hcall
      · next husable =>
        cases hcall
        obtain ⟨rfl, hsig, hrfk, hnl, -⟩ := hread hsev
        have hlatch : latches w it.carrierUnblocked ev = (w.rfkillSet, w.rfkillNlCarrierWentup, false) := by
          unfold latches
          rw [hrfk, hnl]
          simp
        have hradio := husable.1
        rw [hlatch] at hradio
        refine ⟨hradio, ?_, _, hsev, htype, hpacket, hsig, if_pos husable⟩
        show (latches w it.carrierUnblocked ev).1 = false
        rw [hlatch]
        exact hradio
      · cases hcall

/-- How many iterations find the timer of the test due. -/
def dueTests : List Iteration → Work → Nat
  | [], _ => 0
  | it :: its, w => (if w.sys.garp.wakeTs.collisionCheck ≤ it.nowts then 1 else 0) + dueTests its (work ck cfg it w)

/-- Iterations while the ACK is awaited. -/
theorem waits_asking (a : UInt32) (config : DhcpMsg) (n : Nat) (its : List Iteration) (w : Work)
    (hsmooth : ∀ it ∈ its, it.Smooth) (hquiet : ∀ it ∈ its, it.event = .none) (hfew : n + its.length ≤ 5)
    (hradio : w.rfkillSet = false) (hw : Asking a config n w.sys) :
    (works ck cfg its w).rfkillSet = false ∧ Asking a config (n + its.length) (works ck cfg its w).sys := by
  induction its generalizing n w with
  | nil => exact ⟨hradio, hw⟩
  | cons it its ih =>
    obtain ⟨hit, hits⟩ := List.forall_mem_cons.mp hsmooth
    obtain ⟨hev, hevs⟩ := List.forall_mem_cons.mp hquiet
    rw [List.length_cons] at hfew ⊢
    have hlive : w.sys.pc ≠ .dead := by
      rw [hw.pc]
      decide
    obtain ⟨hradio', hsys⟩ := work_quiet ck cfg it w hev hit.up hradio hlive
    have := hit.obliging
    have hnext := call_waits it.env cfg (callInput { w.sys with out := [] } w.dhcpPacket it.nowts false .empty) a config n
      { w.sys with out := [] } (by omega) rfl rfl
      ⟨hw.pc, hw.addr, hw.config, hw.few, hw.unprobed⟩
    rw [← hsys] at hnext
    have hrest := ih (n + 1) (work ck cfg it w) hits hevs (by omega) hradio' hnext
    rw [show n + (its.length + 1) = n + 1 + its.length by omega]
    exact hrest

section
variable (ack config : DhcpMsg) (start : Int) (hquit : cfg.quitAfterLease = false) (hnew : bindBuffer config ack ≠ [])
include hquit hnew

/-- **A test comes to an end**: it has as many probes as its timer was due, and not more than asked
for. -/
theorem tests_end (k : Int) (its : List Iteration) (w : Work) (hsmooth : ∀ it ∈ its, it.Smooth)
    (hquiet : ∀ it ∈ its, it.event = .none)
    (hearly : ∀ it ∈ its, it.nowts < start + (leaseOf (getOptionLeasetime ack) >>> 1).toNat * 1000)
    (hradio : w.rfkillSet = false) (hw : Testing ack config start k w.sys) (hone : 1 ≤ dueTests ck cfg its w)
    (hdue : cfg.arpProbeNum < k + dueTests ck cfg its w) :
    ∃ n, n ≤ its.length ∧ (works ck cfg (its.take n) w).sys.pc = .bound ∧ Taken ack start (works ck cfg (its.take n) w).sys := by
  induction its generalizing k w with
  | nil => exact absurd hone (Nat.not_succ_le_zero 0)
  | cons it its ih =>
    obtain ⟨hit, hits⟩ := List.forall_mem_cons.mp hsmooth
    obtain ⟨hev, hevs⟩ := List.forall_mem_cons.mp hquiet
    obtain ⟨hnow, hnows⟩ := List.forall_mem_cons.mp hearly
    have hlive : w.sys.pc ≠ .dead := by
      rw [hw.pc]
      decide
    obtain ⟨hradio', hsys⟩ := work_quiet ck cfg it w hev hit.up hradio hlive
    have := hit.obliging
    have hcall := call_tests it.env cfg ack config start k hquit hnew
      (callInput { w.sys with out := [] } w.dhcpPacket it.nowts false .empty) rfl rfl
      (decide_eq_false (Int.not_le.mpr (hw.renews ▸ hnow))) { w.sys with out := [] }
      ⟨hw.pc, hw.packet, hw.config, hw.opened, hw.probes, hw.timer, hw.clock, hw.begun, hw.lease, hw.renews⟩ ?_
    · rw [← hsys] at hcall
      -- an iteration on which the induction goes on
      have hgo : ∀ k', Testing ack config start k' (work ck cfg it w).sys → 1 ≤ dueTests ck cfg its (work ck cfg it w) →
          cfg.arpProbeNum < k' + dueTests ck cfg its (work ck cfg it w) →
          ∃ n, n ≤ (it :: its).length ∧ (works ck cfg ((it :: its).take n) w).sys.pc = .bound ∧
            Taken ack start (works ck cfg ((it :: its).take n) w).sys := by
        intro k' hk' hone' hdue'
        obtain ⟨n, hn, hbound⟩ := ih k' (work ck cfg it w) hits hevs hnows hradio' hk' hone' hdue'
        exact ⟨n + 1, Nat.succ_le_succ hn, hbound⟩
      unfold dueTests at hone hdue
      rcases hcall with hbound | ⟨hwait, htest⟩ | ⟨hfew, htest⟩
      · exact ⟨1, Nat.succ_le_succ (Nat.zero_le _), hbound⟩
      · have hwait : it.nowts < w.sys.garp.wakeTs.collisionCheck := hwait
        rw [if_neg (Int.not_le.mpr hwait)] at hone hdue
        exact hgo k htest (by omega) (by push_cast at hdue; omega)
      · refine hgo (k + 1) htest ?_ ?_
        · split at hdue <;> (push_cast at hdue; omega)
        · split at hdue <;> (push_cast at hdue; omega)
    · -- the timer of the test is one of those that wake the loop
      intro hcheck
      have harmed : 0 ≤ w.sys.garp.wakeTs.collisionCheck := by
        have := hw.timer
        have := hw.clock
        omega
      have hle := arpGetWakeTs_le w.sys.garp w.sys.garp.wakeTs.collisionCheck (by simp [WakeTs.toList]) harmed
      exact decide_eq_true (hle.2.trans hcheck)

end

/-! ## The exchange -/

/-- An exchange from `w` on: an offer, at most four iterations without an event, an acknowledgement
of the offered address, and iterations without an event ahead of renewal time in which the timer of
the test falls due as often as probes are asked for. -/
structure Exchange (w : Work) (offerIt : Iteration) (waits : List Iteration) (ackIt : Iteration) (tests : List Iteration)
    (offer ack : DhcpMsg) : Prop where
  smooth : ∀ it ∈ offerIt :: waits ++ ackIt :: tests, it.Smooth
  quiet : ∀ it ∈ waits ++ tests, it.event = .none
  offered : Hands ck cfg offerIt w DHCPOFFER offer
  offerer : (getOptionServerid offer).isSome = true
  few : waits.length ≤ 4
  acked : Hands ck cfg ackIt (works ck cfg (offerIt :: waits) w) DHCPACK ack
  acker : (getOptionServerid ack).isSome = true
  same : ack.yiaddr = offer.yiaddr
  early : ∀ it ∈ tests,
    it.nowts < ackIt.env.curms .getLeasetime + (leaseOf (getOptionLeasetime ack) >>> 1).toNat * 1000
  once : 1 ≤ dueTests ck cfg tests (works ck cfg (offerIt :: waits ++ [ackIt]) w)
  due : cfg.arpProbeNum ≤ dueTests ck cfg tests (works ck cfg (offerIt :: waits ++ [ackIt]) w)

theorem works_append (as bs : List Iteration) (w : Work) :
    works ck cfg (as ++ bs) w = works ck cfg bs (works ck cfg as w) := List.foldl_append

/-- Iterations of the main loop are a run. -/
theorem works_run (its : List Iteration) (w : Work) : ∃ steps, (works ck cfg its w).sys = run cfg steps w.sys := by
  induction its generalizing w with
  | nil => exact ⟨[], rfl⟩
  | cons it its ih =>
    obtain ⟨first, hfirst⟩ := work_steps ck cfg it w
    obtain ⟨rest, hrest⟩ := ih (work ck cfg it w)
    refine ⟨first ++ rest, ?_⟩
    rw [run_append, ← hfirst]
    exact hrest

end

/-! ## An exchange -/

/-- A reply for transaction 7 of a hardware address, about 192.168.1.10. -/
def replyPayload (mac opts : List UInt8) : List UInt8 :=
  [2, 1, 6, 0, 0, 0, 0, 7] ++ List.replicate 8 0 ++ [192, 168, 1, 10] ++ List.replicate 8 0 ++
    mac ++ List.replicate 202 0 ++ [0x63, 0x82, 0x53, 0x63] ++ opts

/-- It in a datagram of the server 192.168.1.1. -/
def replyDatagram (mac opts : List UInt8) : List UInt8 :=
  let payload := replyPayload mac opts
  let size (extra : Nat) := [((payload.length + extra) / 256).toUInt8, (payload.length + extra).toUInt8]
  let header (check : List UInt8) := [0x45, 0] ++ size 28 ++ [0, 0, 0, 0, 64, 17] ++ check ++
    [192, 168, 1, 1, 255, 255, 255, 255]
  let sum := (inetChecksum.sum (header [0, 0])).toNat
  header [(sum / 256).toUInt8, sum.toUInt8] ++ [0, 67, 0, 68] ++ size 8 ++ [0, 0] ++ payload

def offerOptions : List UInt8 := [53, 1, 2, 54, 4, 192, 168, 1, 1, 255]

/-- A lease of a minute. -/
def ackOptions : List UInt8 := [53, 1, 5, 51, 4, 0, 0, 0, 60, 54, 4, 192, 168, 1, 1, 255]

/-- At `now` everything answers, and the random numbers are all 7. -/
def smoothIteration (now : Int) (event : Event) : Iteration :=
  ⟨{ envAt now with random := fun _ => 7 }, event, now, true, true⟩

def offerAt (now : Int) (mac : List UInt8) : Iteration :=
  smoothIteration now (.dhcp (.data (replyDatagram mac offerOptions)))

def ackAt (now : Int) (mac : List UInt8) : Iteration :=
  smoothIteration now (.dhcp (.data (replyDatagram mac ackOptions)))

theorem smoothIteration_smooth (now : Int) (event : Event) (h : 0 ≤ now) : (smoothIteration now event).Smooth :=
  ⟨⟨fun _ => ⟨60, rfl, by decide⟩, fun _ => ⟨(3, true), rfl, by decide⟩, fun _ => ⟨0, rfl, by decide⟩, fun _ => h⟩, rfl⟩

def minuteOffer : DhcpMsg := DhcpMsg.zero.overlay (replyPayload [2, 0, 0, 0, 0, 1] offerOptions) (by decide +kernel)

def minuteAck : DhcpMsg := DhcpMsg.zero.overlay (replyPayload [2, 0, 0, 0, 0, 1] ackOptions) (by decide +kernel)

/-- The client once its first message is out. -/
def discovering : Work := works inetChecksum exampleConfig [smoothIteration 0 .none] exampleWork

/-- Offer, request and acknowledgement, and the timer of the test three times. -/
theorem minute_exchange : Exchange inetChecksum exampleConfig discovering (offerAt 0 [2, 0, 0, 0, 0, 1])
    [smoothIteration 0 .none] (ackAt 0 [2, 0, 0, 0, 0, 1])
    [smoothIteration 1000 .none, smoothIteration 3000 .none, smoothIteration 4000 .none] minuteOffer minuteAck where
  smooth it hit := by
    simp only [List.cons_append, List.nil_append, List.mem_cons, List.not_mem_nil, or_false] at hit
    rcases hit with rfl | rfl | rfl | rfl | rfl | rfl <;> exact smoothIteration_smooth _ _ (by decide)
  quiet it hit := by
    simp only [List.cons_append, List.nil_append, List.mem_cons, List.not_mem_nil, or_false] at hit
    rcases hit with rfl | rfl | rfl | rfl <;> rfl
  offered := by
    unfold Hands
    decide +kernel
  offerer := by decide +kernel
  few := by decide
  acked := by
    unfold Hands
    decide +kernel
  acker := by decide +kernel
  same := by decide +kernel
  early it hit := by
    have hlate : it.nowts ≤ 4000 := by
      simp only [List.mem_cons, List.not_mem_nil, or_false] at hit
      rcases hit with rfl | rfl | rfl <;> decide
    have hrenew : (leaseOf (getOptionLeasetime minuteAck) >>> 1).toNat = 30 := by decide +kernel
    rw [hrenew]
    show it.nowts < 0 + _
    omega
  once := by decide +kernel
  due := by decide +kernel

end Ndhc
