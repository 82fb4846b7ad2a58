import Ndhc.Client.Arp

/-!
# What the messages and the ARP functions leave alone

Apart from the two calls that change the interface, `arp_check` and the taking of a lease,
no function of arp.c touches the lease, its gateway and server, the interface's configuration,
the packet under test or the place where the coroutine resumes, and none binds.  `core` collects these; a function
that leaves it alone and can only end the process is a `Routine core Dies`.
-/

namespace Ndhc

open Prog

/-- Effects other than messages. -/
def Effect.isMark : Effect → Bool
  | .dhcp _ => false
  | .arp _ _ => false
  | _ => true

structure Core where
  leaseStartTime : Int
  renewTime : Int
  rebindTime : Int
  lease : UInt32
  routerAddr : UInt32
  serverAddr : UInt32
  ifDeconfig : Bool
  cfgPacket : DhcpMsg
  dhcpPacket : DhcpMsg
  pc : Pc
  marks : List Effect

@[reducible] def core (s : Sys) : Core :=
  ⟨s.cs.leaseStartTime, s.cs.renewTime, s.cs.rebindTime, s.cs.lease, s.cs.routerAddr,
    s.cs.serverAddr, s.cs.ifDeconfig, s.cfgPacket, s.garp.dhcpPacket, s.pc,
    s.out.filter Effect.isMark⟩

/-- With nothing done yet. -/
abbrev Core.fresh (c : Core) : Core := { c with marks := [] }

theorem core_at (pc : Pc) (s t : Sys) (h : core t = core s) :
    core { t with pc := pc } = { core s with pc := pc } :=
  congrArg (fun c : Core => { c with pc := pc }) h

/-- The only way out of a subroutine is the end of the process. -/
def Dies (e : Stop) (c d : Core) : Prop := e = .exit ∧ d = { c with pc := .dead }

/-! ## Leaving early -/

section
variable {α : Type}

instance : Routine core Dies (suicide : M α) := ⟨fun _ => ⟨rfl, rfl⟩⟩

instance (o : Option α) : Routine core Dies (ask o) := by
  cases o with
  | none => exact inferInstanceAs (Routine core Dies suicide)
  | some a => exact inferInstanceAs (Routine core Dies (pure a))

end

/-! ## Messages -/

theorem routine_emit (e : Effect) (h : e.isMark = false) : Routine core Dies (emit e) where
  ends s := by
    show core { s with out := s.out ++ [e] } = core s
    simp [h]

instance (m : Sent) : Routine core Dies (emit (.dhcp m)) := routine_emit _ rfl

instance (sip dip : UInt32) : Routine core Dies (emit (.arp sip dip)) := routine_emit _ rfl

section
variable (env : Env) (site : Site)

instance (m : Sent) : Routine core Dies (sendDhcp env site m) := by
  unfold sendDhcp
  infer_instance

instance : Routine core Dies (sendDiscover env site) := by
  unfold sendDiscover
  infer_instance

instance : Routine core Dies (sendSelecting env site) := by
  unfold sendSelecting
  infer_instance

instance : Routine core Dies (sendRenew env site) := by
  unfold sendRenew
  infer_instance

instance : Routine core Dies (sendRebind env site) := by
  unfold sendRebind
  infer_instance

instance (server : UInt32) : Routine core Dies (sendDecline env site server) := by
  unfold sendDecline
  infer_instance

instance : Routine core Dies (sendRelease env site) := by
  unfold sendRelease
  infer_instance

instance : Routine core Dies (startDhcpListen env site) := by
  unfold startDhcpListen
  infer_instance

instance : Routine core Dies stopDhcpListen := by
  unfold stopDhcpListen
  infer_instance

/-! ## Sockets and frames -/

instance : Routine core Dies arpMinCloseFd := by
  unfold arpMinCloseFd
  infer_instance

instance : Routine core Dies arpCloseFd := by
  unfold arpCloseFd
  infer_instance

instance : Routine core Dies arpResetState := by
  unfold arpResetState
  infer_instance

instance (defense : Bool) : Routine core Dies (arpOpenFd env site defense) := by
  unfold arpOpenFd
  infer_instance

instance (sip dip : UInt32) : Routine core Dies (arpSend env site sip dip) := by
  unfold arpSend
  infer_instance

instance (testIp : UInt32) : Routine core Dies (arpPing env site testIp) := by
  unfold arpPing
  infer_instance

instance (testIp : UInt32) : Routine core Dies (arpIpAnonPing env testIp) := by
  unfold arpIpAnonPing
  infer_instance

instance : Routine core Dies (arpAnnouncement env site) := by
  unfold arpAnnouncement
  infer_instance

/-! ## Announcing and defending -/

instance : Routine core Dies (arpAnnounce env) := by
  unfold arpAnnounce
  infer_instance

instance (nowts : Int) : Routine core Dies (arpAnnounceTimeout env nowts) := by
  unfold arpAnnounceTimeout
  infer_instance

instance : Routine core Dies (arpDefenseTimeout env) := by
  unfold arpDefenseTimeout
  infer_instance

instance (cfg : ClientConfig) : Routine core Dies (arpDoDefense env cfg) := by
  unfold arpDoDefense
  infer_instance

/-! ## The gateway and the server -/

instance : Routine core Dies (gwCheckRouter env) := by
  unfold gwCheckRouter
  infer_instance

instance : Routine core Dies (gwCheckPings env) := by
  unfold gwCheckPings
  infer_instance

instance : Routine core Dies (arpGwCheck env) := by
  unfold arpGwCheck
  infer_instance

instance : Routine core Dies (gwHwaddrRouter env) := by
  unfold gwHwaddrRouter
  infer_instance

instance : Routine core Dies (gwHwaddrPings env) := by
  unfold gwHwaddrPings
  infer_instance

instance : Routine core Dies (arpGetGwHwaddr env) := by
  unfold arpGetGwHwaddr
  infer_instance

instance : Routine core Dies (arpQueryGateway env) := by
  unfold arpQueryGateway
  infer_instance

instance (nowts : Int) : Routine core Dies (arpQueryGatewayTimeout env nowts) := by
  unfold arpQueryGatewayTimeout
  infer_instance

instance : Routine core Dies (arpSetDefenseMode env) := by
  unfold arpSetDefenseMode
  infer_instance

instance : Routine core Dies (arpGwSuccess env) := by
  unfold arpGwSuccess
  infer_instance

instance : Routine core Dies (gwQueryDone env) := by
  unfold gwQueryDone
  infer_instance

instance : Routine core Dies (gwQueryServer env) := by
  unfold gwQueryServer
  infer_instance

instance (cfg : ClientConfig) : Routine core Dies (arpDoGwQuery env cfg) := by
  unfold arpDoGwQuery
  infer_instance

instance : Routine core Dies (gwCheckServer env) := by
  unfold gwCheckServer
  infer_instance

instance (cfg : ClientConfig) : Routine core Dies (arpDoGwCheck env cfg) := by
  unfold arpDoGwCheck
  infer_instance

instance (replied : Bool) (testIp : UInt32) : Routine core Dies (pingUnless env replied site testIp) := by
  unfold pingUnless
  infer_instance

instance (nowts : Int) : Routine core Dies (arpGwQueryTimeout env nowts) := by
  unfold arpGwQueryTimeout
  infer_instance

instance (nowts : Int) : Routine core Dies (arpGwCheckTimeout env nowts) := by
  unfold arpGwCheckTimeout
  infer_instance

end

end Ndhc
