import Ndhc.Client.Requested
import Ndhc.Client.Messages

/-!
# Acquiring an address

The messages by which an address is acquired are the DISCOVER of `selecting_timeout`, the REQUEST of
`requesting_timeout` and the DECLINE of `arp_do_collision_check`; nothing else sends one (`bids`).
What a pass of REQUESTING or probing that returns has done is said once, by its effects and by
what it leaves of the data the three work with (`Quest`).
-/

namespace Ndhc

open Prog

/-! ## Bids -/

/-- A message for an address the client does not hold. -/
def Effect.isBid : Effect → Bool
  | .dhcp m => m.msgtype == DHCPDISCOVER || m.msgtype == DHCPDECLINE || m.serverid.isSome && m.msgtype == DHCPREQUEST
  | _ => false

@[reducible] def bids (s : Sys) : List Effect := s.out.filter Effect.isBid

theorem keeps_bids_emit (v : List Effect) (e : Effect) (h : e.isBid = false) : Keeps bids v (emit e) where
  ends s hs := by
    show (s.out ++ [e]).filter Effect.isBid = v
    rw [List.filter_append, List.filter_singleton, h]
    exact (List.append_nil _).trans hs

section
variable {α : Type} (v : List Effect) (env : Env) (site : Site)

instance : Keeps bids v (suicide : M α) := ⟨fun _ h => h⟩

instance (o : Option α) : Keeps bids v (ask o) := by
  cases o with
  | none => exact inferInstanceAs (Keeps bids v suicide)
  | some a => exact inferInstanceAs (Keeps bids v (pure a))

instance (l : Label) : Keeps bids v (goto l : M α) := ⟨fun _ h => h⟩

instance (code : Int) (pc : Pc) : Keeps bids v (scrReturn code pc : M α) := ⟨fun _ h => h⟩

instance (sip dip : UInt32) : Keeps bids v (emit (.arp sip dip)) := keeps_bids_emit v _ rfl

instance (a : UInt32) : Keeps bids v (emit (.arpCheck a)) := keeps_bids_emit v _ rfl

instance (a : UInt32) : Keeps bids v (emit (.bind a)) := keeps_bids_emit v _ rfl

instance : Keeps bids v (emit .deconfig) := keeps_bids_emit v _ rfl

instance (xid a : UInt32) (r : Option UInt32) : Keeps bids v (emit (.dhcp ⟨DHCPREQUEST, xid, a, r, none⟩)) :=
  keeps_bids_emit v _ rfl

instance (xid a : UInt32) (r i : Option UInt32) : Keeps bids v (emit (.dhcp ⟨DHCPRELEASE, xid, a, r, i⟩)) :=
  keeps_bids_emit v _ (by cases i <;> rfl)

/-! ### Sockets and sends -/

instance : Keeps bids v (sendRenew env site) := by
  unfold sendRenew sendDhcp
  infer_instance

instance : Keeps bids v (sendRebind env site) := by
  unfold sendRebind sendDhcp
  infer_instance

instance : Keeps bids v (sendRelease env site) := by
  unfold sendRelease sendDhcp
  infer_instance

instance : Keeps bids v (startDhcpListen env site) := by
  unfold startDhcpListen
  infer_instance

instance : Keeps bids v stopDhcpListen := by
  unfold stopDhcpListen
  infer_instance

instance : Keeps bids v arpMinCloseFd := by
  unfold arpMinCloseFd
  infer_instance

instance (defense : Bool) : Keeps bids v (arpOpenFd env site defense) := by
  unfold arpOpenFd
  infer_instance

instance (sip dip : UInt32) : Keeps bids v (arpSend env site sip dip) := by
  unfold arpSend
  infer_instance

instance (testIp : UInt32) : Keeps bids v (arpPing env site testIp) := by
  unfold arpPing
  infer_instance

instance : Keeps bids v (arpAnnouncement env site) := by
  unfold arpAnnouncement
  infer_instance

instance (replied : Bool) (testIp : UInt32) : Keeps bids v (pingUnless env replied site testIp) := by
  unfold pingUnless
  infer_instance

instance (packet : DhcpMsg) : Keeps bids v (ifchangeBind env packet) := by
  unfold ifchangeBind
  infer_instance

instance : Keeps bids v (ifchangeDeconfig env) := by
  unfold ifchangeDeconfig
  infer_instance

/-! ### Back to SELECTING -/

instance : Keeps bids v reinitSharedDeconfig := by
  unfold reinitSharedDeconfig arpResetState arpCloseFd
  infer_instance

instance (timeout : Int) : Keeps bids v (reinitSelecting env timeout) := by
  unfold reinitSelecting
  infer_instance

instance (timeout : Int) : Keeps bids v (restart env timeout : M α) := by
  unfold restart
  infer_instance

instance : Keeps bids v printRelease := by
  unfold printRelease
  infer_instance

/-! ### Checking, announcing and the gateway -/

instance (packet : DhcpMsg) : Keeps bids v (getLeasetime env packet) := ⟨fun _ h => h⟩

set_option synthInstance.maxSize 256 in
instance (cfg : ClientConfig) : Keeps bids v (arpLeaseObtained env cfg) := by
  unfold arpLeaseObtained
  infer_instance

instance (testIp : UInt32) : Keeps bids v (arpIpAnonPing env testIp) := by
  unfold arpIpAnonPing
  infer_instance

set_option synthInstance.maxSize 256 in
instance (cfg : ClientConfig) (packet : DhcpMsg) : Keeps bids v (arpCheck env cfg packet) := by
  unfold arpCheck
  infer_instance

instance (cfg : ClientConfig) (nowts : Int) : Keeps bids v (arpCollisionTimeout env cfg nowts) := by
  unfold arpCollisionTimeout
  infer_instance

instance : Keeps bids v (arpAnnounce env) := by
  unfold arpAnnounce
  infer_instance

instance : Keeps bids v (gwHwaddrPings env) := by
  unfold gwHwaddrPings gwHwaddrRouter
  infer_instance

instance : Keeps bids v (arpGetGwHwaddr env) := by
  unfold arpGetGwHwaddr
  infer_instance

instance : Keeps bids v (arpQueryGateway env) := by
  unfold arpQueryGateway
  infer_instance

instance : Keeps bids v (gwQueryDone env) := by
  unfold gwQueryDone
  infer_instance

instance : Keeps bids v (arpGwSuccess env) := by
  unfold arpGwSuccess
  infer_instance

instance : Keeps bids v (gwCheckServer env) := by
  unfold gwCheckServer
  infer_instance

instance : Keeps bids v (gwCheckPings env) := by
  unfold gwCheckPings gwCheckRouter
  infer_instance

instance : Keeps bids v (arpGwCheck env) := by
  unfold arpGwCheck
  infer_instance

end

/-! ### A pass with a lease -/

section
variable (v : List Effect) (env : Env) (cfg : ClientConfig) (inp : Input)

instance : Keeps bids v (frenew env true) := by
  show Keeps bids v (startDhcpListen env .frenew >>= fun _ => _)
  infer_instance

instance : Keeps bids v (boundSignal env inp) := by
  unfold boundSignal xmitRelease
  infer_instance

instance (packet : DhcpMsg) (msgtype : UInt8) : Keeps bids v (extendPacket env packet msgtype) := by
  unfold extendPacket arpSetDefenseMode
  infer_instance

instance : Keeps bids v (boundDhcp env cfg inp) := by
  unfold boundDhcp
  infer_instance

instance : Keeps bids v (boundDefense env cfg) := by
  unfold boundDefense arpDoDefense
  infer_instance

instance : Keeps bids v (boundGwQuery env cfg) := by
  unfold boundGwQuery arpDoGwQuery gwQueryServer
  infer_instance

instance : Keeps bids v (gwLost env) := by
  unfold gwLost
  infer_instance

instance : Keeps bids v (boundGwCheck env cfg) := by
  unfold boundGwCheck arpDoGwCheck
  infer_instance

instance : Keeps bids v (boundArp env cfg inp) := by
  unfold boundArp
  infer_instance

instance : Keeps bids v (boundAnnounce env inp) := by
  unfold boundAnnounce arpDefenseTimeout arpAnnounceTimeout
  infer_instance

instance (nowts : Int) : Keeps bids v (arpGwQueryTimeout env nowts) := by
  unfold arpGwQueryTimeout
  infer_instance

instance (nowts : Int) : Keeps bids v (arpGwCheckTimeout env nowts) := by
  unfold arpGwCheckTimeout
  infer_instance

instance : Keeps bids v (boundGwTimeout env inp) := by
  unfold boundGwTimeout arpQueryGatewayTimeout
  infer_instance

instance : Keeps bids v (boundArpTimeout env inp) := by
  unfold boundArpTimeout
  infer_instance

instance : Keeps bids v (boundIfup env inp) := by
  unfold boundIfup ifupAction
  infer_instance

instance (site : Site) (send : M Int) (limit : ClientState → Int) (nowts : Int) [Keeps bids v send] :
    Keeps bids v (requestExtension env site send limit nowts) := by
  unfold requestExtension
  infer_instance

instance (nowts : Int) : Keeps bids v (rebindingTimeout env nowts) := by
  unfold rebindingTimeout
  infer_instance

instance : Keeps bids v (boundTimer env inp) := by
  unfold boundTimer leaseTimeout boundTimeout renewingTimeout
  infer_instance

instance : Keeps bids v (boundPass env cfg inp) := by
  unfold boundPass
  infer_instance

instance : Keeps bids v (releasedPass env inp) := by
  unfold releasedPass frenew
  simp only [Bool.false_eq_true, if_false]
  infer_instance

end

/-! ### By type -/

/-- A bid of message type `t`. -/
def Effect.isBidOf (t : UInt8) : Effect → Bool
  | .dhcp m => (Effect.dhcp m).isBid && m.msgtype == t
  | _ => false

@[reducible] def bidsOf (t : UInt8) (s : Sys) : List Effect := s.out.filter (Effect.isBidOf t)

theorem bidsOf_eq (t : UInt8) (s : Sys) : bidsOf t s = (bids s).filter (Effect.isBidOf t) := by
  show _ = (s.out.filter Effect.isBid).filter (Effect.isBidOf t)
  rw [List.filter_filter]
  apply List.filter_congr
  intro e _
  cases e with
  | dhcp m => cases h : (Effect.dhcp m).isBid <;> simp [Effect.isBidOf, h]
  | _ => rfl

instance (priority := low) {α : Type} (t : UInt8) (v : List Effect) (m : M α) [∀ w, Keeps bids w m] :
    Keeps (bidsOf t) v m where
  ends s hs := by
    have hkept : ∀ u, bids u = bids s → bidsOf t u = v := by
      intro u hu
      rw [bidsOf_eq, hu, ← bidsOf_eq]
      exact hs
    exact wp_mono _ _ s _ _ _ (Keeps.ends bids (bids s) m s rfl) (fun _ u hu => hkept u hu) (fun _ u hu => hkept u hu)

section
variable (v : List Effect) (env : Env) (cfg : ClientConfig) (inp : Input)

/-- A message of another type. -/
theorem keeps_send (t : UInt8) (site : Site) (m : Sys → Sent) (h : ∀ s, (m s).msgtype ≠ t) :
    Keeps (bidsOf t) v (get >>= fun s => sendDhcp env site (m s)) := by
  have : ∀ s, Keeps (bidsOf t) v (emit (.dhcp (m s))) := by
    intro s
    have hother : (Effect.dhcp (m s)).isBidOf t = false := by
      simp only [Effect.isBidOf, beq_false_of_ne (h s), Bool.and_false]
    constructor
    intro u hu
    show (u.out ++ [Effect.dhcp (m s)]).filter (Effect.isBidOf t) = v
    rw [List.filter_append, List.filter_singleton, hother]
    exact (List.append_nil _).trans hu
  unfold sendDhcp
  infer_instance

instance (site : Site) : Keeps (bidsOf DHCPDECLINE) v (sendDiscover env site) :=
  keeps_send v env _ site (fun s => Message.discover.sent s.cs) (fun _ => show DHCPDISCOVER ≠ _ by decide)

instance (site : Site) : Keeps (bidsOf DHCPREQUEST) v (sendDiscover env site) :=
  keeps_send v env _ site (fun s => Message.discover.sent s.cs) (fun _ => show DHCPDISCOVER ≠ _ by decide)

instance (site : Site) : Keeps (bidsOf DHCPDECLINE) v (sendSelecting env site) :=
  keeps_send v env _ site (fun s => Message.selecting.sent s.cs) (fun _ => show DHCPREQUEST ≠ _ by decide)

instance (site : Site) : Keeps (bidsOf DHCPDISCOVER) v (sendSelecting env site) :=
  keeps_send v env _ site (fun s => Message.selecting.sent s.cs) (fun _ => show DHCPREQUEST ≠ _ by decide)

instance (site : Site) (server : UInt32) : Keeps (bidsOf DHCPREQUEST) v (sendDecline env site server) :=
  keeps_send v env _ site (fun s => (Message.decline server).sent s.cs) (fun _ => show DHCPDECLINE ≠ _ by decide)

instance (site : Site) (server : UInt32) : Keeps (bidsOf DHCPDISCOVER) v (sendDecline env site server) :=
  keeps_send v env _ site (fun s => (Message.decline server).sent s.cs) (fun _ => show DHCPDECLINE ≠ _ by decide)

instance (a : UInt32) : Keeps bids v (emit (.conflict a)) := keeps_bids_emit v _ rfl

instance (packet : DhcpMsg) (msgtype : UInt8) (srcaddr : UInt32) (isRequesting : Bool) :
    Keeps bids v (selectingPacket env packet msgtype srcaddr isRequesting) := by
  unfold selectingPacket selectingOffer selectingAck noteServer
  cases getOptionServerid packet <;> infer_instance

instance : Keeps bids v (onRelease inp) := by
  unfold onRelease
  infer_instance

instance : Keeps bids v (requestingDhcp env cfg inp) := by
  unfold requestingDhcp
  infer_instance

instance : Keeps bids v (selectingDhcp env inp) := by
  unfold selectingDhcp
  infer_instance

instance : Keeps bids v (probingArpTimeout env cfg inp) := by
  unfold probingArpTimeout
  infer_instance

section
variable (t : UInt8) [∀ site, Keeps (bidsOf t) v (sendDiscover env site)]

instance (nowts : Int) : Keeps (bidsOf t) v (selectingTimeout env cfg nowts) := by
  unfold selectingTimeout onNoLease freshXid awaitReply
  infer_instance

instance : Keeps (bidsOf t) v (selectingPass env cfg inp) := by
  unfold selectingPass selectingTimer
  infer_instance

end

section
variable (t : UInt8) [∀ site, Keeps (bidsOf t) v (sendSelecting env site)]

instance (nowts : Int) : Keeps (bidsOf t) v (requestingTimeout env nowts) := by
  unfold requestingTimeout awaitReply
  infer_instance

instance (pc : Pc) : Keeps (bidsOf t) v (requestTimer env inp pc) := by
  unfold requestTimer
  infer_instance

instance : Keeps (bidsOf t) v (requestingPass env cfg inp) := by
  unfold requestingPass
  infer_instance

end

section
variable (t : UInt8) [∀ site server, Keeps (bidsOf t) v (sendDecline env site server)]

instance : Keeps (bidsOf t) v (probingArp env cfg inp) := by
  unfold probingArp arpDoCollisionCheck
  infer_instance

instance [∀ site, Keeps (bidsOf t) v (sendSelecting env site)] : Keeps (bidsOf t) v (probingPass env cfg inp) := by
  unfold probingPass
  infer_instance

end

end

/-! ## The data of a quest -/

/-- What acquiring an address works with: the address and the server, the requests sent and the
time of the next, the ACK, the probes sent and when they began. -/
structure Quest where
  clientAddr : UInt32
  serverAddr : UInt32
  numDhcpRequests : Nat
  dhcpWakeTs : Int
  dhcpPacket : DhcpMsg
  probes : Int
  startTs : Int
  deriving DecidableEq

@[reducible] def quest (s : Sys) : Quest :=
  ⟨s.cs.clientAddr, s.cs.serverAddr, s.cs.numDhcpRequests, s.cs.dhcpWakeTs, s.garp.dhcpPacket,
    s.garp.collisionStats.count, s.garp.arpCheckStartTs⟩

/-- T1 of the lease an ACK brings, when `dhcp_wake_ts` is due then. -/
def leaseTimer (env : Env) (packet : DhcpMsg) : Int :=
  env.curms .getLeasetime + ((leaseOf (getOptionLeasetime packet) >>> 1).toNat : Int) * 1000

/-- The quest, the effects so far, and where the coroutine resumes. -/
@[reducible] def scene (s : Sys) : Quest × List Effect × Pc := (quest s, s.out, s.pc)

/-- The process ends, with nothing else changed. -/
def Quits (e : Stop) (c d : Quest × List Effect × Pc) : Prop := e = .exit ∧ d = (c.1, c.2.1, .dead)

section
variable {α : Type} (env : Env) (site : Site)

instance : Routine scene Quits (suicide : M α) := ⟨fun _ => ⟨rfl, rfl⟩⟩

instance (o : Option α) : Routine scene Quits (ask o) := by
  cases o with
  | none => exact inferInstanceAs (Routine scene Quits suicide)
  | some a => exact inferInstanceAs (Routine scene Quits (pure a))

instance : Routine scene Quits (startDhcpListen env site) := by
  unfold startDhcpListen
  infer_instance

instance (defense : Bool) : Routine scene Quits (arpOpenFd env site defense) := by
  unfold arpOpenFd arpMinCloseFd
  infer_instance

end

/-! ### Starting over -/

/-- The quest begins anew, `timeout` from now. -/
structure Anew (env : Env) (timeout : Int) (s t : Sys) : Prop where
  clientAddr : t.cs.clientAddr = 0
  numDhcpRequests : t.cs.numDhcpRequests = 0
  dhcpWakeTs : t.cs.dhcpWakeTs = env.curms .reinitSelecting + timeout
  probes : t.garp.collisionStats.count = 0
  out : t.out = s.out
  pc : t.pc = s.pc

section
variable (env : Env) (cfg : ClientConfig) (inp : Input)

theorem reinitSharedDeconfig_anew (s : Sys) :
    wp reinitSharedDeconfig (fun _ t => t.cs.clientAddr = 0 ∧ t.cs.numDhcpRequests = 0 ∧
      t.garp.collisionStats.count = 0 ∧ t.out = s.out ∧ t.pc = s.pc) (fun _ _ => False) s := by
  unfold reinitSharedDeconfig arpResetState arpCloseFd arpMinCloseFd
  rw [wp_bind, wp_modify, wp_bind, wp_bind, wp_bind, wp_get, wp_ite]
  split
  · exact ⟨rfl, rfl, rfl, rfl, rfl⟩
  · exact ⟨rfl, rfl, rfl, rfl, rfl⟩

theorem reinitSelecting_anew (timeout : Int) (s : Sys) :
    wp (reinitSelecting env timeout) (fun _ t => Anew env timeout s t)
      (fun e t => e = .exit ∧ t.pc = .dead ∧ t.out = s.out) s := by
  unfold reinitSelecting
  rw [wp_bind]
  apply wp_mono _ _ s _ _ _ (reinitSharedDeconfig_anew s) _ (fun _ _ h => h.elim)
  rintro _ t ⟨haddr, hnum, hprobes, hout, hpc⟩
  rw [wp_bind, wp_modify]
  apply wp_mono _ _ _ _ _ _ (Routine.ends (f := scene) (X := Quits) _)
  · intro _ u hu
    have hquest : quest u = _ := congrArg Prod.fst hu
    refine ⟨?_, ?_, ?_, ?_, ?_, ?_⟩
    · exact (congrArg Quest.clientAddr hquest).trans haddr
    · exact (congrArg Quest.numDhcpRequests hquest).trans hnum
    · exact congrArg Quest.dhcpWakeTs hquest
    · exact (congrArg Quest.probes hquest).trans hprobes
    · exact (congrArg (fun c => c.2.1) hu).trans hout
    · exact (congrArg (fun c => c.2.2) hu).trans hpc
  · rintro e u ⟨he, hu⟩
    exact ⟨he, congrArg (fun c => c.2.2) hu, (congrArg (fun c => c.2.1) hu).trans hout⟩

/-- A jump to `reinit` behind `reinit_selecting`. -/
theorem wp_restart_anew {α : Type} (timeout : Int) (Q : α → Sys → Prop) (E : Stop → Sys → Prop) (s : Sys)
    (hgo : ∀ t, Anew env timeout s t → E (.goto .reinit) t)
    (hdie : ∀ t, t.pc = .dead → t.out = s.out → E .exit t) : wp (restart env timeout : M α) Q E s := by
  unfold restart
  rw [wp_bind]
  apply wp_mono _ _ s _ _ _ (reinitSelecting_anew env timeout s)
  · exact fun _ t ht => hgo t ht
  · rintro e t ⟨rfl, hpc, hout⟩
    exact hdie t hpc hout

/-! ### The timer of a request -/

/-- The timer sends a request, or it does nothing. -/
def TimerDone (s t : Sys) : Prop :=
  (TimerSends env inp ∧ s.cs.numDhcpRequests < 5 ∧ t.out = s.out ++ [.dhcp (Message.selecting.sent s.cs)] ∧
    quest t = { quest s with
      numDhcpRequests := s.cs.numDhcpRequests + 1
      dhcpWakeTs := inp.nowts + delayTimeout env s.cs.numDhcpRequests }) ∨
  (¬ TimerSends env inp ∧ t.out = s.out ∧ quest t = quest s)

/-- How the timer ends a pass. -/
def TimerEnds (pc : Pc) (s : Sys) : Stop → Sys → Prop
  | .ret _, t => t.pc = pc ∧ TimerDone env inp s t
  | .goto l, t => l = .reinit ∧ inp.dhcpTimeout = true ∧ 5 ≤ s.cs.numDhcpRequests ∧ Anew env 0 s t
  | .exit, t => t.pc = .dead ∧ t.out = s.out

theorem requestTimer_done (pc : Pc) (s : Sys) :
    wp (requestTimer env inp pc) (fun _ _ => False) (TimerEnds env inp pc s) s := by
  unfold requestTimer
  rw [wp_ite]
  split
  · next htimeout =>
    unfold requestingTimeout
    rw [wp_bind, wp_bind, wp_get, wp_ite]
    split
    · next hnum =>
      rw [wp_bind]
      apply wp_mono _ _ s _ _ _ (reinitSelecting_anew env 0 s)
      · exact fun _ t ht => ⟨rfl, htimeout, hnum, ht⟩
      · rintro e t ⟨rfl, hpc, hout⟩
        exact ⟨hpc, hout⟩
    · next hnum =>
      unfold sendSelecting sendDhcp
      rw [wp_bind, wp_bind, wp_get, wp_bind]
      cases hsend : env.send .requestingTimeout with
      | none => exact ⟨rfl, rfl⟩
      | some r =>
        show wp (if r < 0 then pure r else _) _ _ s
        rw [wp_ite]
        split
        · next hr =>
          show wp (if r < 0 then pure Req.fail else _) _ _ s
          rw [if_pos hr]
          exact ⟨rfl, Or.inr ⟨fun h => h.2 ⟨r, hsend, hr⟩, rfl, rfl⟩⟩
        · next hr =>
          show wp (if r < 0 then pure Req.fail else _) _ _ _
          rw [if_neg hr]
          exact ⟨rfl, Or.inl ⟨⟨htimeout, not_sendFails env _ r hsend hr⟩, Nat.not_le.mp hnum, rfl, rfl⟩⟩
  · next htimeout => exact ⟨rfl, Or.inr ⟨fun h => htimeout h.1, rfl, rfl⟩⟩

/-! ### REQUESTING -/

/-- The ACK is accepted, with a first probe for its address. -/
structure Acks (s t : Sys) : Prop where
  pc : t.pc = .probing
  takes : TakesAck inp s
  out : t.out = s.out ++ [.arp 0 inp.dhcpPacket.yiaddr, .arpCheck inp.dhcpPacket.yiaddr]
  quest : ∃ sid, getOptionServerid inp.dhcpPacket = some sid ∧ quest t = { quest s with
    serverAddr := sid
    dhcpWakeTs := leaseTimer env inp.dhcpPacket
    dhcpPacket := inp.dhcpPacket
    probes := s.garp.collisionStats.count + 1
    startTs := env.curms .collisionPing }
  wake : t.garp.wakeTs.collisionCheck = env.curms .collisionPing + (cfg.arpProbeWait % 65536).toNat

theorem arpSend_done (site : Site) (sip dip : UInt32) (s : Sys) :
    wp (arpSend env site sip dip)
      (fun r t => (r < 0 ∧ t = s) ∨ (¬ r < 0 ∧ t = { s with out := s.out ++ [.arp sip dip] }))
      (fun e t => e = .exit ∧ t = { s with pc := .dead }) s := by
  unfold arpSend
  rw [wp_bind, wp_get, wp_ite]
  split
  · exact Or.inl ⟨by decide, rfl⟩
  · rw [wp_bind]
    cases env.send site with
    | none => exact ⟨rfl, rfl⟩
    | some r =>
      show wp (if r < 0 then pure r else _) _ _ s
      rw [wp_ite]
      split
      · next hr => exact Or.inl ⟨hr, rfl⟩
      · next hr =>
        have hsent : ¬ (if r = arpMsgSize then 0 else r) < 0 := by
          split
          · decide
          · exact hr
        exact Or.inr ⟨hsent, rfl⟩

/-- The state once a probe was sent. -/
@[reducible] def withProbe (a : UInt32) (s : Sys) : Sys :=
  { s with
    out := s.out ++ [.arp 0 a]
    garp.collisionStats := ⟨env.curms .collisionPing, s.garp.collisionStats.count + 1⟩ }

theorem arpIpAnonPing_done (a : UInt32) (s : Sys) :
    wp (arpIpAnonPing env a) (fun r t => (r < 0 ∧ t = s) ∨ (¬ r < 0 ∧ t = withProbe env a s))
      (fun e t => e = .exit ∧ t = { s with pc := .dead }) s := by
  unfold arpIpAnonPing
  rw [wp_bind]
  apply wp_mono _ _ s _ _ _ (arpSend_done env .collisionPing 0 a s) _ (fun _ _ h => h)
  rintro r t (⟨hr, rfl⟩ | ⟨hr, rfl⟩)
  · rw [wp_ite, if_pos hr]
    exact Or.inl ⟨hr, rfl⟩
  · rw [wp_ite, if_neg hr]
    exact Or.inr ⟨by decide, rfl⟩

/-- `arp_check` sends the first probe. -/
theorem arpCheck_done (packet : DhcpMsg) (s : Sys) :
    wp (arpCheck env cfg packet)
      (fun r t => (r < 0 ∧ t.out = s.out ∧ t.pc = s.pc) ∨ (¬ r < 0 ∧ t.pc = s.pc ∧
        t.out = s.out ++ [.arp 0 packet.yiaddr, .arpCheck packet.yiaddr] ∧
        quest t = { quest s with
          dhcpPacket := packet
          probes := s.garp.collisionStats.count + 1
          startTs := env.curms .collisionPing } ∧
        t.garp.wakeTs.collisionCheck = env.curms .collisionPing + (cfg.arpProbeWait % 65536).toNat))
      (fun e t => e = .exit ∧ t.pc = .dead) s := by
  unfold arpCheck
  rw [wp_bind, wp_modify]
  apply wp_call scene Quits
  · intro r t ht
    have hquest : quest t = { quest s with dhcpPacket := packet } := congrArg Prod.fst ht
    have hout : t.out = s.out := congrArg (fun c => c.2.1) ht
    have hpc : t.pc = s.pc := congrArg (fun c => c.2.2) ht
    rw [wp_ite]
    split
    · exact Or.inl ⟨by decide, hout, hpc⟩
    · rw [wp_bind]
      apply wp_mono _ _ t _ _ _ (arpIpAnonPing_done env packet.yiaddr t)
      · rintro r u (⟨hr, rfl⟩ | ⟨hr, rfl⟩)
        · rw [wp_ite, if_pos hr]
          exact Or.inl ⟨by decide, hout, hpc⟩
        · rw [wp_ite, if_neg hr]
          refine Or.inr ⟨by decide, hpc, ?_, ?_, rfl⟩
          · show t.out ++ [_] ++ [_] = _
            rw [hout, List.append_assoc]
            rfl
          · exact congrArg (fun q : Quest => { q with probes := q.probes + 1, startTs := env.curms .collisionPing })
              hquest
      · rintro e u ⟨rfl, rfl⟩
        exact ⟨rfl, rfl⟩
  · rintro e t ⟨rfl, ht⟩
    exact ⟨rfl, congrArg (fun c => c.2.2) ht⟩

/-- An ACK for the address asked for is taken down; anything else is ignored. -/
theorem selectingPacket_done (s : Sys) :
    wp (selectingPacket env inp.dhcpPacket inp.dhcpMsgtype inp.dhcpSrcaddr true)
      (fun r t => (r = .ignore ∧ t = s) ∨ (r = .checkIp ∧ inp.dhcpMsgtype = DHCPACK ∧
        inp.dhcpPacket.yiaddr = s.cs.clientAddr ∧ t.out = s.out ∧ t.pc = s.pc ∧
        ∃ sid, getOptionServerid inp.dhcpPacket = some sid ∧
          quest t = { quest s with serverAddr := sid, dhcpWakeTs := leaseTimer env inp.dhcpPacket }))
      (fun _ _ => False) s := by
  unfold selectingPacket
  rw [wp_bind, wp_get, wp_ite, if_neg (by simp), wp_ite]
  split
  · next h =>
    unfold selectingAck
    split
    · exact Or.inl ⟨rfl, rfl⟩
    · next sid hsid =>
      unfold noteServer
      rw [wp_bind, wp_bind, wp_get, wp_ite]
      split
      · exact Or.inr ⟨rfl, h.2.1, h.2.2, rfl, rfl, sid, hsid, rfl⟩
      · next hsame =>
        refine Or.inr ⟨rfl, h.2.1, h.2.2, rfl, rfl, sid, hsid, ?_⟩
        rw [← not_not.mp hsame]
        rfl
  · exact Or.inl ⟨rfl, rfl⟩

/-- How the packet ends a pass of REQUESTING. -/
def AckEnds (s : Sys) : Stop → Sys → Prop
  | .ret _, t => Acks env cfg inp s t
  | .goto l, t => l = .reinit ∧ inp.sevDhcp = true ∧ ∃ u, u.out = s.out ∧ u.pc = s.pc ∧ Anew env 3000 u t
  | .exit, t => t.pc = .dead

theorem requestingDhcp_done (s : Sys) (hsig : inp.sevSignal ≠ .release) :
    wp (requestingDhcp env cfg inp) (fun _ t => t = s) (AckEnds env cfg inp s) s := by
  unfold requestingDhcp
  rw [wp_ite]
  split
  · next hdhcp =>
    rw [wp_bind]
    apply wp_mono _ _ s _ _ _ (selectingPacket_done env inp s) _ (fun _ _ h => h.elim)
    rintro r t (⟨rfl, rfl⟩ | ⟨rfl, htype, haddr, hout, hpc, sid, hsid, hquest⟩)
    · rfl
    · rw [wp_ite, if_neg (by decide), wp_ite, if_pos rfl, wp_bind]
      apply wp_mono _ _ t _ _ _ (arpCheck_done env cfg inp.dhcpPacket t)
      · rintro r u (⟨hr, hout', hpc'⟩ | ⟨hr, hpc', hout', hquest', hwake⟩)
        · rw [wp_ite, if_pos hr]
          apply wp_restart_anew
          · exact fun v hv => ⟨rfl, hdhcp, u, hout'.trans hout, hpc'.trans hpc, hv⟩
          · exact fun v hv _ => hv
        · rw [wp_ite, if_neg hr]
          refine ⟨rfl, ⟨hsig, hdhcp, htype, haddr, ?_⟩, ?_, ⟨sid, hsid, ?_⟩, hwake⟩
          · rw [hsid]
            exact Option.some_ne_none sid
          · rw [hout] at hout'
            exact hout'
          · have hprobes : t.garp.collisionStats.count = s.garp.collisionStats.count :=
              congrArg Quest.probes hquest
            rw [hquest, hprobes] at hquest'
            exact hquest'
      · rintro e u ⟨rfl, hu⟩
        exact hu
  · rfl

/-! ### Probing -/

/-- How a frame that counts as a conflict ends a pass of probing. -/
def ConflictDone (s : Sys) : Stop → Sys → Prop
  | .ret _, t => t.pc = .probing ∧ quest t = quest s ∧ t.out = s.out ++ [.conflict (probed s)]
  | .goto l, t => l = .reinit ∧ ∃ u, u.pc = s.pc ∧ Anew env 0 u t ∧
      u.out = s.out ++ [.conflict (probed s), .dhcp ((Message.decline (probed s)).sent s.cs)]
  | .exit, t => t.pc = .dead ∧ (t.out = s.out ++ [.conflict (probed s)] ∨
      t.out = s.out ++ [.conflict (probed s), .dhcp ((Message.decline (probed s)).sent s.cs)])

theorem probingArp_declines (s : Sys) (harp : inp.sevArp = true) (h : Counts cfg s.garp) :
    wp (probingArp env cfg inp) (fun _ _ => False) (ConflictDone env s) s := by
  obtain ⟨hq, hc⟩ := h
  unfold probingArp arpDoCollisionCheck sendDecline sendDhcp
  rw [wp_ite, if_pos harp, wp_bind, wp_bind, wp_get, wp_ite, if_neg hq, wp_ite, if_pos hc, wp_bind, wp_modify, wp_bind]
  show wp _ _ _ { s with
    garp.totalConflicts := s.garp.totalConflicts + 1
    garp.wakeTs.collisionCheck := -1
    out := s.out ++ [Effect.conflict (probed s)] }
  rw [wp_bind, wp_bind, wp_get, wp_bind]
  cases env.send .decline with
  | none => exact ⟨rfl, Or.inl rfl⟩
  | some r =>
    show wp (if r < 0 then pure r else _) _ _ _
    rw [wp_ite]
    split
    · next hr =>
      show wp (if r < 0 then pure Arpr.fail else _) _ _ _
      rw [if_pos hr]
      exact ⟨rfl, rfl, rfl⟩
    · next hr =>
      show wp (if r < 0 then pure Arpr.fail else _) _ _ _
      rw [if_neg hr, wp_pure, wp_ite, if_neg (by decide), wp_ite, if_pos rfl]
      have hout : (s.out ++ [Effect.conflict (probed s)]) ++ [.dhcp ((Message.decline (probed s)).sent s.cs)] =
          s.out ++ [Effect.conflict (probed s), .dhcp ((Message.decline (probed s)).sent s.cs)] := List.append_assoc _ _ _
      apply wp_restart_anew
      · intro t ht
        refine ⟨rfl, _, ?_, ht, hout⟩
        rfl
      · exact fun t hpc ht => ⟨hpc, Or.inr (ht.trans hout)⟩

/-- The ARP timer sends a probe, or it does nothing. -/
def ProbeDone (s t : Sys) : Prop :=
  (t.out = s.out ∧ quest t = quest s) ∨
  (t.out = s.out ++ [.arp 0 (probed s)] ∧ quest t = { quest s with probes := s.garp.collisionStats.count + 1 })

/-- How the ARP timer ends a pass that does not take the lease. -/
def ProbeTimerEnds (s : Sys) : Stop → Sys → Prop
  | .ret _, t => t.pc = .probing ∧ t.out = s.out ∧ quest t = quest s
  | .goto _, _ => False
  | .exit, t => t.pc = .dead

theorem probingArpTimeout_done (s : Sys) (h : ¬ (inp.arpTimeout = true ∧ arpWaitOver cfg inp.nowts s)) :
    wp (probingArpTimeout env cfg inp) (fun _ t => t.pc = s.pc ∧ ProbeDone s t) (ProbeTimerEnds s) s := by
  unfold probingArpTimeout arpCollisionTimeout
  rw [wp_ite]
  split
  · next htimeout =>
    rw [wp_bind, wp_bind, wp_get, wp_ite, if_neg fun hover => h ⟨htimeout, hover⟩, wp_ite]
    split
    · exact ⟨rfl, Or.inl ⟨rfl, rfl⟩⟩
    · rw [wp_bind]
      apply wp_mono _ _ s _ _ _ (arpIpAnonPing_done env s.garp.dhcpPacket.yiaddr s)
      · rintro r t (⟨hr, rfl⟩ | ⟨hr, rfl⟩)
        · rw [wp_ite, if_pos hr]
          exact ⟨rfl, rfl, rfl⟩
        · rw [wp_ite, if_neg hr]
          exact ⟨rfl, Or.inr ⟨rfl, rfl⟩⟩
      · rintro e t ⟨rfl, rfl⟩
        rfl
  · exact ⟨rfl, Or.inl ⟨rfl, rfl⟩⟩

/-! ## Calls of REQUESTING and probing -/

/-- An address was offered and is neither bound nor given up. -/
def InQuest (s : Sys) : Prop := s.pc = .requesting ∨ s.pc = .probing

/-- A pass does not go on with the quest, and sends no request. -/
def QuestEnds (s : Sys) (e : Stop) (t : Sys) : Prop :=
  bidsOf DHCPREQUEST t = bidsOf DHCPREQUEST s ∧
    match e with
    | .ret _ => t.pc = .bound
    | .goto l => (l = .reinit ∧ t.garp.collisionStats.count = 0) ∨ (l = .released ∧ inp.sevSignal = .release)
    | .exit => t.pc = .dead

/-- A pass goes on with the quest. -/
inductive Goes (s t : Sys) : Prop
  | waits (hs : s.pc = .requesting) (ht : t.pc = .requesting) (h : TimerDone env inp s t)
  | acks (hs : s.pc = .requesting) (h : Acks env cfg inp s t)
  | conflicts (hs : s.pc = .probing) (ht : t.pc = .probing) (hcounts : Recognises cfg inp s) (h : quest t = quest s)
      (hout : t.out = s.out ++ [.conflict (probed s)])
  | probes (hs : s.pc = .probing) (ht : t.pc = .probing) (hno : ¬ Recognises cfg inp s) (u : Sys) (hprobe : ProbeDone s u)
      (h : TimerDone env inp u t ∨ (t.out = u.out ∧ quest t = quest u))

/-- A release signal sends no bid. -/
theorem onRelease_leaves (t : UInt8) (s : Sys) (hsig : inp.sevSignal = .release) :
    wp (onRelease inp) (fun _ _ => False)
      (fun e u => bidsOf t u = bidsOf t s ∧ (e = .goto .released ∨ (e = .exit ∧ u.pc = .dead))) s := by
  unfold onRelease
  rw [wp_ite, if_pos hsig, wp_bind]
  apply wp_routine core Dies
  apply wp_mono _ _ s _ _ _ (Keeps.ends (bidsOf t) _ printRelease s rfl)
  · exact fun _ u hu _ => ⟨hu, Or.inl rfl⟩
  · rintro e u hu ⟨rfl, hd⟩
    exact ⟨hu, Or.inr ⟨rfl, congrArg Core.pc hd⟩⟩

theorem onRelease_quest (s : Sys) (hsig : inp.sevSignal = .release) :
    wp (onRelease inp) (fun _ _ => False) (QuestEnds inp s) s := by
  apply wp_mono _ _ s _ _ _ (onRelease_leaves inp DHCPREQUEST s hsig) (fun _ _ h => h)
  rintro e t ⟨hbids, rfl | ⟨rfl, hdead⟩⟩
  · exact ⟨hbids, Or.inr ⟨rfl, hsig⟩⟩
  · exact ⟨hbids, hdead⟩

theorem requestTimer_quest (pc : Pc) (s : Sys) :
    wp (requestTimer env inp pc) (fun _ _ => False)
      (fun e t => (∃ code, e = .ret code ∧ t.pc = pc ∧ TimerDone env inp s t) ∨ QuestEnds inp s e t) s := by
  apply wp_mono _ _ s _ _ _ (requestTimer_done env inp pc s) (fun _ _ h => h)
  intro e t h
  match e, h with
  | .ret code, h => exact Or.inl ⟨code, rfl, h⟩
  | .goto _, ⟨hl, _, _, hanew⟩ => exact Or.inr ⟨by rw [bidsOf, hanew.out], Or.inl ⟨hl, hanew.probes⟩⟩
  | .exit, ⟨hpc, hout⟩ => exact Or.inr ⟨by rw [bidsOf, hout], hpc⟩

theorem requestingPass_quest (s : Sys) (hpc : s.pc = .requesting) :
    wp (requestingPass env cfg inp) (fun _ _ => False)
      (fun e t => (∃ code, e = .ret code ∧ Goes env cfg inp s t) ∨ QuestEnds inp s e t) s := by
  unfold requestingPass
  by_cases hsig : inp.sevSignal = .release
  · rw [wp_bind]
    exact wp_mono _ _ s _ _ _ (onRelease_quest inp s hsig) (fun _ _ h => h.elim) (fun _ _ h => Or.inr h)
  · rw [wp_bind_idle _ _ _ _ _ (onRelease_of_not inp s hsig)]
    rw [wp_bind]
    apply wp_mono _ _ s _ _ _ (wp_and _ _ _ _ _ _ (requestingDhcp_done env cfg inp s hsig)
      (Keeps.ends (bidsOf DHCPREQUEST) _ (requestingDhcp env cfg inp) s rfl))
    · rintro _ u ⟨rfl, -⟩
      apply wp_mono _ _ u _ _ _ (requestTimer_quest env inp .requesting u) (fun _ _ h => h)
      exact fun e v h => h.imp_left fun ⟨code, he, hv, hdone⟩ => ⟨code, he, .waits hpc hv hdone⟩
    · rintro e u ⟨h, hbids⟩
      match e, h with
      | .ret code, h => exact Or.inl ⟨code, rfl, .acks hpc h⟩
      | .goto _, ⟨hl, _, _, _, _, hanew⟩ => exact Or.inr ⟨hbids, Or.inl ⟨hl, hanew.probes⟩⟩
      | .exit, h => exact Or.inr ⟨hbids, h⟩

theorem probingPass_quest (s : Sys) (hpc : s.pc = .probing) :
    wp (probingPass env cfg inp) (fun _ _ => False)
      (fun e t => (∃ code, e = .ret code ∧ Goes env cfg inp s t) ∨ QuestEnds inp s e t) s := by
  unfold probingPass
  by_cases hsig : inp.sevSignal = .release
  · rw [wp_bind]
    exact wp_mono _ _ s _ _ _ (onRelease_quest inp s hsig) (fun _ _ h => h.elim) (fun _ _ h => Or.inr h)
  · rw [wp_bind_idle _ _ _ _ _ (onRelease_of_not inp s hsig)]
    by_cases hrec : inp.sevArp = true ∧ Counts cfg s.garp
    · rw [wp_bind]
      apply wp_mono _ _ s _ _ _ (wp_and _ _ _ _ _ _ (probingArp_declines env cfg inp s hrec.1 hrec.2)
        (Keeps.ends (bidsOf DHCPREQUEST) _ (probingArp env cfg inp) s rfl)) (fun _ _ h => h.1.elim)
      rintro e u ⟨h, hbids⟩
      match e, h with
      | .ret code, ⟨hu, hquest, hout⟩ => exact Or.inl ⟨code, rfl, .conflicts hpc hu ⟨hsig, hrec⟩ hquest hout⟩
      | .goto _, ⟨hl, _, _, hanew, _⟩ => exact Or.inr ⟨hbids, Or.inl ⟨hl, hanew.probes⟩⟩
      | .exit, h => exact Or.inr ⟨hbids, h.1⟩
    · have hno : ¬ Recognises cfg inp s := fun h => hrec h.2
      rw [wp_bind_idle _ _ _ _ _ (probingArp_of_not env cfg inp s hrec)]
      rw [wp_bind]
      by_cases hover : inp.arpTimeout = true ∧ arpWaitOver cfg inp.nowts s
      · apply wp_mono _ _ s _ _ _ (wp_and _ _ _ _ _ _ (probingArpTimeout_lease env cfg inp s hover.1 hover.2)
          (Keeps.ends (bidsOf DHCPREQUEST) _ (probingArpTimeout env cfg inp) s rfl)) (fun _ _ h => h.1.elim)
        rintro e v ⟨h, hbids⟩
        match e, h with
        | .ret _, h => exact Or.inr ⟨hbids, h.2⟩
        | .exit, h => exact Or.inr ⟨hbids, h.2⟩
      · apply wp_mono _ _ s _ _ _ (wp_and _ _ _ _ _ _ (probingArpTimeout_done env cfg inp s hover)
          (Keeps.ends (bidsOf DHCPREQUEST) _ (probingArpTimeout env cfg inp) s rfl))
        · rintro _ v ⟨⟨hv, hprobe⟩, hbids⟩
          apply wp_mono _ _ v _ _ _ (requestTimer_quest env inp .probing v) (fun _ _ h => h)
          rintro e w (⟨code, rfl, hw, hdone⟩ | hends)
          · exact Or.inl ⟨code, rfl, .probes hpc hw hno v hprobe (Or.inl hdone)⟩
          · exact Or.inr ⟨hends.1.trans hbids, hends.2⟩
        · rintro e v ⟨h, hbids⟩
          match e, h with
          | .ret code, ⟨hv, hout, hquest⟩ =>
            exact Or.inl ⟨code, rfl, .probes hpc hv hno s (Or.inl ⟨rfl, rfl⟩) (Or.inr ⟨hout, hquest⟩)⟩
          | .exit, h => exact Or.inr ⟨hbids, h⟩

/-! ### Jumps out of the quest -/

/-- What the passes keep, a call keeps. -/
theorem keeps_follow {κ : Type} (f : Sys → κ) (v : κ) (htarget : ∀ l, Keeps f v (target env cfg inp l)) (n : Nat)
    (m : M Unit) [Keeps f v m] : Keeps f v (follow env cfg inp n m) := by
  constructor
  intro s hs
  apply wp_follow_ends env cfg inp _ _ ?_ n m s (Keeps.ends f v m s hs)
  intro l t ht
  have := htarget l
  exact Keeps.ends f v (target env cfg inp l) t ht

theorem not_inQuest (s : Sys) (h : s.pc = .selecting ∨ Past s) : ¬ InQuest s := by
  rintro (hs | hs)
  · rcases h with h | h | h | h | h
    all_goals cases hs.symm.trans h
  · rcases h with h | h | h | h | h
    all_goals cases hs.symm.trans h

section
variable (t : UInt8) (v : List Effect) [∀ site, Keeps (bidsOf t) v (sendDiscover env site)]

omit [∀ site, Keeps (bidsOf t) v (sendDiscover env site)] in
theorem follow_released (n : Nat) (s : Sys) (hs : bidsOf t s = v) (hsig : inp.sevSignal = .release) :
    wp (follow env cfg inp n (target env cfg inp .released)) (fun _ _ => False)
      (fun _ u => bidsOf t u = v ∧ (u.pc = .released ∨ u.pc = .dead)) s := by
  have hpass : wp (target env cfg inp .released) (fun _ _ => False)
      (fun e u => (∀ l, e ≠ .goto l) ∧ bidsOf t u = v ∧ (u.pc = .released ∨ u.pc = .dead)) s := by
    apply wp_mono _ _ s _ _ _ (wp_and _ _ _ _ _ _ (releasedPass_ends env { inp with sevDhcp := false } s)
      (Keeps.ends (bidsOf t) v (releasedPass env { inp with sevDhcp := false }) s hs)) (fun _ _ h => h.1.elim)
    rintro e u ⟨h, hbids⟩
    match e, h with
    | .ret _, h => exact ⟨nofun, hbids, Or.inl (congrArg Core.pc h.1)⟩
    | .goto .reinit, h => exact nomatch hsig.symm.trans h.2
    | .exit, h => exact ⟨nofun, hbids, Or.inr (congrArg Core.pc h)⟩
  apply wp_mono _ _ s _ _ _ (wp_follow_last env cfg inp n _ _ _ s hpass fun l u h => h.1 l rfl) (fun _ _ h => h)
  exact fun _ _ h => h.2

theorem follow_reinit (n : Nat) (s : Sys) (hs : bidsOf t s = v) :
    wp (follow env cfg inp (n + 1) (target env cfg inp .reinit)) (fun _ _ => False)
      (fun _ u => bidsOf t u = v ∧ ¬ InQuest u) s := by
  rw [wp_follow]
  show wp (selectingPass env cfg { inp with sevDhcp := false }) _ _ { s with cs.xid := env.random .reinit }
  have hxid : bidsOf t { s with cs.xid := env.random .reinit } = v := hs
  generalize ({ s with cs.xid := env.random .reinit } : Sys) = s' at hxid
  apply wp_mono _ _ s' _ _ _ (wp_and _ _ _ _ _ _ (selectingPass_ends env cfg { inp with sevDhcp := false } s')
    (Keeps.ends (bidsOf t) v (selectingPass env cfg { inp with sevDhcp := false }) s' hxid)) (fun _ _ h => h.1.elim)
  rintro e u ⟨h, hbids⟩
  match e, h with
  | .ret _, h => exact ⟨hbids, not_inQuest u (Or.inl (congrArg Core.pc h))⟩
  | .goto .released, h =>
    exact wp_mono _ _ u _ _ _ (follow_released env cfg inp t v n u hbids h.2) (fun _ _ h => h)
      (fun _ w h => ⟨h.1, not_inQuest w (Or.inr (Or.inr (Or.inr h.2)))⟩)
  | .goto .requesting, h => exact nomatch h.2.2.1
  | .exit, h => exact ⟨hbids, not_inQuest u (Or.inr (Or.inr (Or.inr (Or.inr (congrArg Core.pc h)))))⟩

end

/-- **A call of REQUESTING or probing** goes on with the quest, or leaves it and sends no request. -/
theorem quest_call (s : Sys) (h : InQuest s) :
    Goes env cfg inp { s with out := [] } (final (dhcpHandle env cfg inp) s) ∨
      (bidsOf DHCPREQUEST (final (dhcpHandle env cfg inp) s) = [] ∧ ¬ InQuest (final (dhcpHandle env cfg inp) s)) := by
  apply final_of_wp (dhcpHandle env cfg inp) s fun t => Goes env cfg inp { s with out := [] } t ∨
    (bidsOf DHCPREQUEST t = [] ∧ ¬ InQuest t)
  have hfollow : ∀ m, wp m (fun _ _ => False) (fun e t => (∃ code, e = .ret code ∧ Goes env cfg inp { s with out := [] } t) ∨
      QuestEnds inp { s with out := [] } e t) { s with out := [] } → wp (follow env cfg inp 2 m) (fun _ _ => False)
        (fun _ t => Goes env cfg inp { s with out := [] } t ∨ (bidsOf DHCPREQUEST t = [] ∧ ¬ InQuest t))
        { s with out := [] } := by
    intro m hm
    rw [wp_follow]
    apply wp_mono _ _ _ _ _ _ hm (fun _ _ h => h)
    rintro e t (⟨code, rfl, hgoes⟩ | ⟨hbids, hends⟩)
    · exact Or.inl hgoes
    · match e, hends with
      | .ret _, hends => exact Or.inr ⟨hbids, not_inQuest t (Or.inr (Or.inl hends))⟩
      | .goto _, Or.inl ⟨rfl, _⟩ =>
        exact wp_mono _ _ t _ _ _ (follow_reinit env cfg inp DHCPREQUEST [] 0 t hbids) (fun _ _ h => h)
          (fun _ _ h => Or.inr h)
      | .goto _, Or.inr ⟨rfl, hsig⟩ =>
        exact wp_mono _ _ t _ _ _ (follow_released env cfg inp DHCPREQUEST [] 1 t hbids hsig) (fun _ _ h => h)
          (fun _ u h => Or.inr ⟨h.1, not_inQuest u (Or.inr (Or.inr (Or.inr h.2)))⟩)
      | .exit, hends => exact Or.inr ⟨hbids, not_inQuest t (Or.inr (Or.inr (Or.inr (Or.inr hends))))⟩
  rcases h with hpc | hpc
  · rw [wp_dhcpHandle env cfg inp _ _ s .requesting hpc]
    exact wp_mono _ _ _ _ _ _ (hfollow _ (requestingPass_quest env cfg inp { s with out := [] } hpc))
      (fun _ _ h => h.elim) (fun _ _ h => h)
  · rw [wp_dhcpHandle env cfg inp _ _ s .probing hpc]
    exact wp_mono _ _ _ _ _ _ (hfollow _ (probingPass_quest env cfg inp { s with out := [] } hpc))
      (fun _ _ h => h.elim) (fun _ _ h => h)

/-! ## Calls of SELECTING -/

/-- The offer is taken down as the quest to go on. -/
def OfferTaken (s t : Sys) : Prop :=
  inp.sevSignal ≠ .release ∧ inp.sevDhcp = true ∧ inp.dhcpMsgtype = DHCPOFFER ∧ t.out = s.out ∧
    ∃ sid, getOptionServerid inp.dhcpPacket = some sid ∧ quest t = { quest s with
      clientAddr := inp.dhcpPacket.yiaddr
      serverAddr := sid
      numDhcpRequests := 0
      dhcpWakeTs := env.curms .selectingPacket }

/-- The call takes an offer and comes to the timer with it. -/
structure Offers (s t : Sys) : Prop where
  pc : t.pc = .requesting
  takes : TakesOffer inp s
  asks : ∃ u, OfferTaken env inp { s with out := [] } u ∧ TimerDone env inp u t

theorem selectingPass_offers (s : Sys) :
    wp (selectingPass env cfg inp) (fun _ _ => False)
      (fun e t => e = .goto .requesting → OfferTaken env inp s t) s := by
  unfold selectingPass
  by_cases hsig : inp.sevSignal = .release
  · rw [wp_bind]
    unfold onRelease
    rw [wp_ite, if_pos hsig, wp_bind]
    apply wp_routine core Dies
    apply wp_all
    · exact fun _ _ _ => nofun
    · rintro e t ⟨rfl, -⟩ h
      cases h
  · rw [wp_bind_idle _ _ _ _ _ (onRelease_of_not inp s hsig)]
    have htimer : wp (selectingTimer env cfg inp) (fun _ _ => False)
        (fun e u => e = .goto .requesting → OfferTaken env inp s u) s := by
      unfold selectingTimer
      rw [wp_ite]
      split
      · apply wp_sub
        · intro r u _
          rw [wp_ite]
          split
          · exact fun h => nomatch h
          · exact fun h => nomatch h
        · exact fun u _ h => nomatch h
      · exact fun h => nomatch h
    unfold selectingDhcp
    rw [wp_bind, wp_ite]
    split
    · next hdhcp =>
      unfold selectingPacket selectingOffer
      rw [wp_bind, wp_bind, wp_get, wp_ite]
      split
      · next hoffer =>
        split
        · exact htimer
        · next sid hsid => exact fun _ => ⟨hsig, hdhcp, hoffer.2, rfl, sid, hsid, rfl⟩
      · rw [wp_ite, if_neg (by simp)]
        exact htimer
    · exact htimer

/-- From the jump to REQUESTING on there is only the timer, and no request was sent before. -/
theorem follow_requesting (n : Nat) (s : Sys) (hsig : inp.sevSignal ≠ .release) (hnum : s.cs.numDhcpRequests = 0) :
    wp (follow env cfg inp n (target env cfg inp .requesting)) (fun _ _ => False)
      (fun _ t => (t.pc = .requesting ∧ TimerDone env inp s t) ∨ (t.out = s.out ∧ t.pc = .dead)) s := by
  have hpass : wp (target env cfg inp .requesting) (fun _ _ => False) (fun e t => (∀ l, e ≠ .goto l) ∧
      ((t.pc = .requesting ∧ TimerDone env inp s t) ∨ (t.out = s.out ∧ t.pc = .dead))) s := by
    show wp (requestingPass env cfg { inp with sevDhcp := false }) _ _ s
    unfold requestingPass
    rw [wp_bind_idle _ _ _ _ _ (onRelease_of_not { inp with sevDhcp := false } s hsig)]
    show wp (requestTimer env { inp with sevDhcp := false } .requesting) _ _ s
    apply wp_mono _ _ s _ _ _ (requestTimer_done env { inp with sevDhcp := false } .requesting s) (fun _ _ h => h)
    intro e u h
    match e, h with
    | .ret _, h => exact ⟨nofun, Or.inl h⟩
    | .goto _, h =>
      have hmany := h.2.2.1
      omega
    | .exit, h => exact ⟨nofun, Or.inr ⟨h.2, h.1⟩⟩
  apply wp_mono _ _ s _ _ _ (wp_follow_last env cfg inp n _ _ _ s hpass fun l u h => h.1 l rfl) (fun _ _ h => h)
  exact fun _ _ h => h.2

/-- **A call of SELECTING** takes an offer, or there is none to go on with and it sends no request. -/
theorem select_call (s : Sys) (hpc : s.pc = .init ∨ s.pc = .selecting) :
    Offers env inp s (final (dhcpHandle env cfg inp) s) ∨
      (bidsOf DHCPREQUEST (final (dhcpHandle env cfg inp) s) = [] ∧ ¬ InQuest (final (dhcpHandle env cfg inp) s)) := by
  apply final_of_wp (dhcpHandle env cfg inp) s fun t => Offers env inp s t ∨ (bidsOf DHCPREQUEST t = [] ∧ ¬ InQuest t)
  have hselect : ∀ u, quest u = quest s → u.out = [] → wp (follow env cfg inp 2 (selectingPass env cfg inp))
      (fun _ _ => False) (fun _ t => Offers env inp s t ∨ (bidsOf DHCPREQUEST t = [] ∧ ¬ InQuest t)) u := by
    intro u hquest hout
    have hnone : bidsOf DHCPREQUEST u = [] := by
      rw [bidsOf, hout]
      rfl
    rw [wp_follow]
    apply wp_mono _ _ _ _ _ _ (wp_and _ _ _ _ _ _ (selectingPass_ends env cfg inp u)
      (wp_and _ _ _ _ _ _ (selectingPass_offers env cfg inp u)
        (Keeps.ends (bidsOf DHCPREQUEST) [] (selectingPass env cfg inp) u hnone))) (fun _ _ h => h.1)
    rintro e t ⟨hends, hoffers, hbids⟩
    match e, hends with
    | .ret _, h => exact Or.inr ⟨hbids, not_inQuest t (Or.inl (congrArg Core.pc h))⟩
    | .goto .released, h =>
      exact wp_mono _ _ t _ _ _ (follow_released env cfg inp DHCPREQUEST [] 1 t hbids h.2) (fun _ _ h => h)
        (fun _ v h => Or.inr ⟨h.1, not_inQuest v (Or.inr (Or.inr (Or.inr h.2)))⟩)
    | .goto .requesting, h =>
      obtain ⟨hsig, hdhcp, htype, hout', sid, hsid, hquest'⟩ := hoffers rfl
      have htaken : OfferTaken env inp { s with out := [] } t := by
        refine ⟨hsig, hdhcp, htype, hout'.trans hout, sid, hsid, ?_⟩
        rw [hquest', hquest]
      apply wp_mono _ _ t _ _ _ (follow_requesting env cfg inp 1 t hsig h.2.2.2) (fun _ _ h => h)
      rintro _ v (hv | ⟨hout'', hdead⟩)
      · refine Or.inl ⟨hv.1, ⟨hpc, hsig, hdhcp, htype, ?_⟩, t, htaken, hv.2⟩
        rw [hsid]
        exact Option.some_ne_none sid
      · refine Or.inr ⟨?_, not_inQuest v (Or.inr (Or.inr (Or.inr (Or.inr hdead))))⟩
        rw [bidsOf, hout'']
        exact hbids
    | .exit, h => exact Or.inr ⟨hbids, not_inQuest t (Or.inr (Or.inr (Or.inr (Or.inr (congrArg Core.pc h)))))⟩
  rcases hpc with hpc | hpc
  · rw [wp_dhcpHandle env cfg inp _ _ s .init hpc, wp_follow]
    show wp (selectingPass env cfg inp) _ _ { s with out := [], cs.xid := env.random .reinit }
    rw [← wp_follow]
    exact wp_mono _ _ _ _ _ _ (hselect { s with out := [], cs.xid := env.random .reinit } rfl rfl)
      (fun _ _ h => h.elim) (fun _ _ h => h)
  · rw [wp_dhcpHandle env cfg inp _ _ s .selecting hpc]
    exact wp_mono _ _ _ _ _ _ (hselect { s with out := [] } rfl rfl) (fun _ _ h => h.elim) (fun _ _ h => h)

end

/-! ## Steps -/

section
variable (env : Env) (cfg : ClientConfig)

instance (stale : ArpMsg) (rd : ReadResult) : Routine scene Quits (arpPacketGet env cfg stale rd) := by
  cases rd with
  | again => exact inferInstanceAs (Routine scene Quits (pure false))
  | error =>
    unfold arpPacketGet arpMinCloseFd
    infer_instance
  | data frame =>
    unfold arpPacketGet
    infer_instance

instance (ck : NetChecksum) (rd : ReadResult) (buf : DhcpMsg) :
    Routine scene Quits (dhcpPacketGet env cfg ck rd buf) := by
  unfold dhcpPacketGet stopDhcpListen
  infer_instance

/-- A read leaves the quest alone and sends nothing. -/
theorem Step.quest_of_read (st : Step) (s : Sys) (h : ∀ env inp, st ≠ .handle env inp) :
    quest (st.next cfg s) = quest s ∧ (st.next cfg s).out = [] ∧
      ((st.next cfg s).pc = s.pc ∨ (st.next cfg s).pc = .dead) := by
  have hread : ∀ {α : Type} (m : M α) [Routine scene Quits m], quest (final m { s with out := [] }) = quest s ∧
      (final m { s with out := [] }).out = [] ∧
      ((final m { s with out := [] }).pc = s.pc ∨ (final m { s with out := [] }).pc = .dead) := by
    intro α m _
    apply final_of_wp m { s with out := [] } fun t => quest t = quest s ∧ t.out = [] ∧ (t.pc = s.pc ∨ t.pc = .dead)
    apply wp_mono _ _ _ _ _ _ (Routine.ends (f := scene) (X := Quits) { s with out := [] })
    · intro _ t ht
      exact ⟨congrArg Prod.fst ht, congrArg (fun c => c.2.1) ht, Or.inl (congrArg (fun c => c.2.2) ht)⟩
    · rintro e t ⟨-, ht⟩
      exact ⟨congrArg Prod.fst ht, congrArg (fun c => c.2.1) ht, Or.inr (congrArg (fun c => c.2.2) ht)⟩
  cases st with
  | idle => exact ⟨rfl, rfl, Or.inl rfl⟩
  | exit => exact ⟨rfl, rfl, Or.inr rfl⟩
  | arp env stale rd => exact hread (arpPacketGet env cfg stale rd)
  | dhcp env ck rd buf => exact hread (dhcpPacketGet env cfg ck rd buf)
  | handle env inp => exact absurd rfl (h env inp)

end

/-- A step that leads to REQUESTING or probing. -/
inductive Onward (cfg : ClientConfig) (s t : Sys) : Step → Prop
  | reads (st : Step) (hread : ∀ env inp, st ≠ .handle env inp) (hpc : t.pc = s.pc) (hquest : quest t = quest s)
      (hout : t.out = []) : Onward cfg s t st
  | offers (env : Env) (inp : Input) (h : Offers env inp s t) : Onward cfg s t (.handle env inp)
  | goes (env : Env) (inp : Input) (hs : InQuest s) (h : Goes env cfg inp { s with out := [] } t) :
      Onward cfg s t (.handle env inp)

/-- **Who is in a quest** was in it before, or was just offered an address. -/
theorem Step.onward (cfg : ClientConfig) (st : Step) (s : Sys) (h : InQuest (st.next cfg s)) :
    Onward cfg s (st.next cfg s) st := by
  rcases st.read_or_call with hread | ⟨env, inp, rfl⟩
  · obtain ⟨hquest, hout, hpc | hdead⟩ := st.quest_of_read cfg s hread
    · exact .reads st hread hpc hquest hout
    · exact absurd h (not_inQuest _ (Or.inr (Or.inr (Or.inr (Or.inr hdead)))))
  · have hpast : Past s → ¬ InQuest ((Step.handle env inp).next cfg s) :=
      fun hs => not_inQuest _ (past_handle env cfg inp s hs).2
    have hselect : s.pc = .init ∨ s.pc = .selecting → Onward cfg s ((Step.handle env inp).next cfg s) (.handle env inp) :=
      fun hs => (select_call env cfg inp s hs).elim (.offers env inp) fun hno => absurd h hno.2
    have hquest : InQuest s → Onward cfg s ((Step.handle env inp).next cfg s) (.handle env inp) :=
      fun hs => (quest_call env cfg inp s hs).elim (.goes env inp hs) fun hno => absurd h hno.2
    cases hpc : s.pc with
    | init => exact hselect (Or.inl hpc)
    | selecting => exact hselect (Or.inr hpc)
    | requesting => exact hquest (Or.inl hpc)
    | probing => exact hquest (Or.inr hpc)
    | bound => exact absurd h (hpast (Or.inl hpc))
    | newlease => exact absurd h (hpast (Or.inr (Or.inl hpc)))
    | released => exact absurd h (hpast (Or.inr (Or.inr (Or.inl hpc))))
    | dead => exact absurd h (hpast (Or.inr (Or.inr (Or.inr hpc))))

/-! ## Runs on time -/

/-- The calls of a run as `do_ndhc_work` makes them from `now` on: the clock does not go back, and
the timeout is that of `dhcp_wake_ts`. -/
def Timely (cfg : ClientConfig) : List Step → Int → Sys → Prop
  | [], _, _ => True
  | .handle env inp :: steps, now, s => now ≤ inp.nowts ∧ (∀ site, inp.nowts ≤ env.curms site) ∧
      inp.dhcpTimeout = decide (s.cs.dhcpWakeTs ≤ inp.nowts) ∧
      Timely cfg steps inp.nowts ((Step.handle env inp).next cfg s)
  | st :: steps, now, s => Timely cfg steps now (st.next cfg s)

end Ndhc
