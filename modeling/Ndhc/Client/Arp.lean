import Ndhc.Client.State
import Ndhc.Ifch.Command

/-!
# Messages, the interface and address resolution

The sends of dhcp.c, the two calls of ifchange.c that change the interface, and arp.c on the
client's state: probing for conflicts before a lease is taken, announcing and defending it,
and fingerprinting the network by the hardware addresses of gateway and server.
-/

namespace Ndhc

def ARP_RETRANS_DELAY : Int := 5000
def ANNOUNCE_WAIT : Int := 2000
def DEFEND_INTERVAL : Int := 10000

def DHCPDISCOVER : UInt8 := 1
def DHCPOFFER : UInt8 := 2
def DHCPREQUEST : UInt8 := 3
def DHCPDECLINE : UInt8 := 4
def DHCPACK : UInt8 := 5
def DHCPNAK : UInt8 := 6
def DHCPRELEASE : UInt8 := 7

/-- `ARPR_OK`, `ARPR_FREE`, `ARPR_CONFLICT`, `ARPR_FAIL` -/
inductive Arpr where
  | ok
  | free
  | conflict
  | fail
  deriving DecidableEq, Repr

section
variable (env : Env)

/-! ## Sending and listening -/

/-- A DHCP message through one of sockd's sockets. -/
def sendDhcp (site : Site) (m : Sent) : M Int := do
  let r ← ask (env.send site)
  if r < 0 then pure r
  else do
    emit (.dhcp m)
    pure r

def sendDiscover (site : Site) : M Int := do
  let s ← get
  sendDhcp env site ⟨DHCPDISCOVER, s.cs.xid, 0,
    if s.cs.clientAddr ≠ 0 then some s.cs.clientAddr else none, none⟩

def sendSelecting (site : Site) : M Int := do
  let s ← get
  sendDhcp env site ⟨DHCPREQUEST, s.cs.xid, 0, some s.cs.clientAddr, some s.cs.serverAddr⟩

def sendRenew (site : Site) : M Int := do
  let s ← get
  sendDhcp env site ⟨DHCPREQUEST, s.cs.xid, s.cs.clientAddr, none, none⟩

def sendRebind (site : Site) : M Int := do
  let s ← get
  sendDhcp env site ⟨DHCPREQUEST, s.cs.xid, s.cs.clientAddr, some s.cs.clientAddr, none⟩

def sendDecline (site : Site) (server : UInt32) : M Int := do
  let s ← get
  sendDhcp env site ⟨DHCPDECLINE, s.cs.xid, 0, some s.cs.clientAddr, some server⟩

def sendRelease (site : Site) : M Int := do
  let s ← get
  sendDhcp env site
    ⟨DHCPRELEASE, env.random site, s.cs.clientAddr, some s.cs.clientAddr, some s.cs.serverAddr⟩

def startDhcpListen (site : Site) : M Unit := do
  let s ← get
  if 0 ≤ s.cs.listenFd then pure ()
  else do
    let r ← ask (env.sockd site)
    modify fun s => { s with cs.listenFd := r.1, cs.usingDhcpBpf := r.2 }
    if r.1 < 0 then suicide else pure ()

def stopDhcpListen : M Unit := modify fun s => { s with cs.listenFd := -1 }

/-! ## The interface -/

def ifchangeDeconfig : M Int := do
  let s ← get
  if s.cs.ifDeconfig then pure 0
  else do
    let ret ← ask (env.ifch .deconfig)
    if ret < 0 then pure ret
    else do
      emit .deconfig
      modify fun s => { s with cs.ifDeconfig := true, cfgPacket := .zero }
      pure ret

def ifchangeBind (packet : DhcpMsg) : M Int := do
  emit (.bind packet.yiaddr)
  let s ← get
  if bindBuffer s.cfgPacket packet = [] then pure (-1)
  else do
    let ret ← ask (env.ifch .bind)
    if ret < 0 then pure ret
    else do
      modify fun s => { s with cs.ifDeconfig := false, cfgPacket := packet }
      pure ret

/-! ## Sockets and packets -/

def arpMinCloseFd : M Unit := do
  let s ← get
  if s.cs.arpFd < 0 then pure ()
  else modify fun s => { s with cs.arpFd := -1, cs.arpIsDefense := false }

def arpCloseFd : M Unit := do
  arpMinCloseFd
  modify fun s => { s with garp.wakeTs := .unarmed }

def arpResetState : M Unit := do
  arpCloseFd
  modify fun s => { s with
    garp.reply := .zero
    garp.lastConflictTs := 0
    garp.gwCheckInitpings := 0
    garp.arpCheckStartTs := 0
    garp.totalConflicts := 0
    garp.probeWaitTime := 0
    garp.serverReplied := false
    garp.routerReplied := false
    garp.collisionStats := ⟨0, 0⟩
    garp.gwPingStats := ⟨0, 0⟩
    garp.announceStats := ⟨0, 0⟩ }

def arpOpenFd (site : Site) (defense : Bool) : M Int := do
  let s ← get
  if 0 ≤ s.cs.arpFd ∧ defense = s.cs.arpIsDefense then pure 0
  else do
    arpMinCloseFd
    let r ← ask (env.sockd site)
    modify fun s => { s with garp.usingBpf := r.2, cs.arpIsDefense := defense, cs.arpFd := r.1 }
    if r.1 < 0 then pure (-1) else pure 0

def arpSend (site : Site) (sip dip : UInt32) : M Int := do
  let s ← get
  if s.cs.arpFd < 0 then pure (-1)
  else do
    let r ← ask (env.send site)
    if r < 0 then pure r
    else do
      emit (.arp sip dip)
      pure (if r = arpMsgSize then 0 else r)

def arpPing (site : Site) (testIp : UInt32) : M Int := do
  let s ← get
  let r ← arpSend env site s.cs.clientAddr testIp
  if r < 0 then pure r
  else do
    modify fun s => { s with garp.gwPingStats := ⟨env.curms site, s.garp.gwPingStats.count + 1⟩ }
    pure 0

def arpIpAnonPing (testIp : UInt32) : M Int := do
  let r ← arpSend env .collisionPing 0 testIp
  if r < 0 then pure r
  else do
    modify fun s => { s with
      garp.collisionStats := ⟨env.curms .collisionPing, s.garp.collisionStats.count + 1⟩ }
    pure 0

def arpAnnouncement (site : Site) : M Int := do
  let s ← get
  let r ← arpSend env site s.cs.clientAddr s.cs.clientAddr
  if r < 0 then pure r
  else do
    modify fun s => { s with
      garp.announceStats := ⟨env.curms site, s.garp.announceStats.count + 1⟩ }
    pure 0

/-! ## Checking an address -/

def arpCheck (cfg : ClientConfig) (packet : DhcpMsg) : M Int := do
  modify fun s => { s with garp.dhcpPacket := packet }
  let r ← arpOpenFd env .arpCheckOpen false
  if r < 0 then pure (-1)
  else do
    let r ← arpIpAnonPing env packet.yiaddr
    if r < 0 then pure (-1)
    else do
      emit (.arpCheck packet.yiaddr)
      modify fun s => { s with
        garp.arpCheckStartTs := s.garp.collisionStats.ts
        garp.probeWaitTime := (cfg.arpProbeWait % 65536).toNat
        garp.wakeTs.collisionCheck := s.garp.collisionStats.ts + (cfg.arpProbeWait % 65536).toNat }
      pure 0

def arpDoCollisionCheck (cfg : ClientConfig) : M Arpr := do
  let s ← get
  if arpIsQueryReply cfg.arp s.garp.reply = 0 then pure .ok
  else if s.garp.reply.sip4 = htonl s.garp.dhcpPacket.yiaddr ∧ cfg.arp.bytes = s.garp.reply.smac then do
    modify fun s => { s with
      garp.totalConflicts := s.garp.totalConflicts + 1
      garp.wakeTs.collisionCheck := -1 }
    emit (.conflict s.garp.dhcpPacket.yiaddr)
    let r ← sendDecline env .decline s.garp.dhcpPacket.yiaddr
    if r < 0 then pure .fail else pure .conflict
  else pure .ok

def arpGenProbeWait (cfg : ClientConfig) : Int :=
  let range := if cfg.arpProbeMax - cfg.arpProbeMin < 1000 then 1000
    else cfg.arpProbeMax - cfg.arpProbeMin
  cfg.arpProbeMin + (env.random .probeWait).toNat % range

/-- `arp_collision_timeout` once the wait is over: the lease is taken. -/
def arpLeaseObtained (cfg : ClientConfig) : M Arpr := do
  let s ← get
  modify fun s => { s with
    cs.clientAddr := s.garp.dhcpPacket.yiaddr
    cs.programInit := false
    garp.lastConflictTs := 0
    garp.wakeTs.collisionCheck := -1 }
  let r ← ifchangeBind env s.garp.dhcpPacket
  if r < 0 then suicide
  else do
    modify fun s => { s with cs.routerAddr := getOptionRouter s.garp.dhcpPacket }
    stopDhcpListen
    -- `quit_after_lease_handler` announces until it succeeds or a minute is over, then exits
    if cfg.quitAfterLease then suicide else pure .free

/-- Whether `arp_collision_timeout` takes the lease. -/
def arpWaitOver (cfg : ClientConfig) (nowts : Int) (s : Sys) : Prop :=
  s.garp.arpCheckStartTs + ANNOUNCE_WAIT ≤ nowts ∨ cfg.arpProbeNum ≤ s.garp.collisionStats.count

instance (cfg : ClientConfig) (nowts : Int) (s : Sys) : Decidable (arpWaitOver cfg nowts s) :=
  inferInstanceAs (Decidable (_ ∨ _))

def arpCollisionTimeout (cfg : ClientConfig) (nowts : Int) : M Arpr := do
  let s ← get
  if arpWaitOver cfg nowts s then arpLeaseObtained env cfg
  else if nowts < s.garp.collisionStats.ts + s.garp.probeWaitTime then do
    modify fun s => { s with
      garp.wakeTs.collisionCheck := s.garp.collisionStats.ts + s.garp.probeWaitTime }
    pure .ok
  else do
    let r ← arpIpAnonPing env s.garp.dhcpPacket.yiaddr
    if r < 0 then pure .fail
    else do
      modify fun s => { s with
        garp.probeWaitTime := (arpGenProbeWait env cfg % 65536).toNat
        garp.wakeTs.collisionCheck :=
          s.garp.collisionStats.ts + (arpGenProbeWait env cfg % 65536).toNat }
      pure .ok

/-! ## Announcing and defending -/

def arpAnnounce : M Arpr := do
  let s ← get
  if s.cs.sentFirstAnnounce ∧ s.cs.sentSecondAnnounce then do
    modify fun s => { s with garp.wakeTs.announce := -1 }
    pure .ok
  else do
    let r ← arpAnnouncement env .announce
    if r < 0 then do
      modify fun s => { s with
        garp.wakeTs.announce := env.curms .announceNext + ARP_RETRANS_DELAY }
      pure .fail
    else do
      -- the first of the two flags that is not yet set
      modify fun s => { s with
        cs.sentFirstAnnounce := true
        cs.sentSecondAnnounce := s.cs.sentFirstAnnounce || s.cs.sentSecondAnnounce
        garp.wakeTs.announce := if s.cs.sentFirstAnnounce || s.cs.sentSecondAnnounce then -1
          else env.curms .announceNext + ARP_RETRANS_DELAY }
      pure .ok

def arpAnnounceTimeout (nowts : Int) : M Int := do
  let s ← get
  if s.garp.wakeTs.announce = -1 then pure 0
  else if nowts < s.garp.wakeTs.announce then pure 1
  else do
    let r ← arpAnnounce env
    pure (if r = .ok then 0 else -1)

def arpDefenseTimeout : M Int := do
  let s ← get
  if s.garp.wakeTs.defense ≠ -1 then do
    modify fun s => { s with garp.wakeTs.defense := -1 }
    arpAnnouncement env .defenseTimeout
  else pure 0

def arpDoDefense (cfg : ClientConfig) : M Arpr := do
  let s ← get
  if arpValidateBpfDefense s.cs.clientAddr cfg.arp s.garp.reply = 0 then pure .ok
  else do
    modify fun s => { s with garp.wakeTs.defense := -1 }
    if s.garp.lastConflictTs = 0 ∨
        env.curms .conflictSeen - s.garp.lastConflictTs < DEFEND_INTERVAL then do
      let r ← arpAnnouncement env .doDefense
      if r < 0 then pure .fail
      else do
        modify fun s => { s with
          garp.totalConflicts := s.garp.totalConflicts + 1
          garp.lastConflictTs := env.curms .conflictSeen }
        pure .ok
    else if s.garp.relentlessDef = false then do
      let _ ← sendRelease env .defenseRelease
      pure .conflict
    else do
      modify fun s => { s with
        garp.wakeTs.defense := s.garp.announceStats.ts + DEFEND_INTERVAL
        garp.totalConflicts := s.garp.totalConflicts + 1
        garp.lastConflictTs := env.curms .conflictSeen }
      pure .ok

/-! ## The gateway and the server -/

/-- The gateway's part of `arp_gw_check`. -/
def gwCheckRouter : M Int := do
  let s ← get
  if s.cs.routerAddr ≠ 0 then do
    modify fun s => { s with garp.routerReplied := false }
    arpPing env .gwCheckRouter s.cs.routerAddr
  else do
    modify fun s => { s with garp.routerReplied := true }
    pure 0

/-- The pings of `arp_gw_check`. -/
def gwCheckPings : M Int := do
  let s ← get
  let r ← arpPing env .gwCheckServer s.cs.srcAddr
  if r < 0 then pure r else gwCheckRouter env

def arpGwCheck : M Int := do
  let r ← arpOpenFd env .gwCheckOpen false
  if r < 0 then pure (-1)
  else do
    modify fun s => { s with
      garp.gwCheckInitpings := s.garp.gwPingStats.count
      garp.serverReplied := false
      cs.checkFingerprint := true }
    let r ← gwCheckPings env
    if r < 0 then pure r
    else do
      modify fun s => { s with
        garp.wakeTs.gwCheck := s.garp.gwPingStats.ts + ARP_RETRANS_DELAY + 250 }
      pure 0

/-- The gateway's part of `arp_get_gw_hwaddr`. -/
def gwHwaddrRouter : M Int := do
  let s ← get
  if s.cs.routerAddr ≠ 0 then do
    modify fun s => { s with cs.gotRouterArp := false }
    arpPing env .gwHwaddrRouter s.cs.routerAddr
  else do
    modify fun s => { s with cs.gotRouterArp := true }
    pure 0

/-- The pings of `arp_get_gw_hwaddr`. -/
def gwHwaddrPings : M Int := do
  let s ← get
  let r ← arpPing env .gwHwaddrServer s.cs.srcAddr
  if r < 0 then pure r else gwHwaddrRouter env

def arpGetGwHwaddr : M Int := do
  let r ← arpOpenFd env .gwHwaddrOpen false
  if r < 0 then pure (-1)
  else do
    modify fun s => { s with cs.gotServerArp := false }
    let r ← gwHwaddrPings env
    if r < 0 then pure (-1)
    else do
      modify fun s => { s with
        garp.wakeTs.gwQuery := s.garp.gwPingStats.ts + ARP_RETRANS_DELAY + 250 }
      pure 0

def arpQueryGateway : M Arpr := do
  let s ← get
  if s.cs.sentGwQuery then do
    modify fun s => { s with garp.wakeTs.queryGwSend := -1 }
    pure .ok
  else do
    let r ← arpGetGwHwaddr env
    if r < 0 then do
      modify fun s => { s with
        garp.wakeTs.queryGwSend := env.curms .queryGateway + ARP_RETRANS_DELAY }
      pure .fail
    else do
      modify fun s => { s with
        cs.sentGwQuery := true
        cs.initFingerprintInprogress := true
        garp.wakeTs.queryGwSend := -1 }
      pure .ok

def arpQueryGatewayTimeout (nowts : Int) : M Int := do
  let s ← get
  if s.garp.wakeTs.queryGwSend = -1 then pure 0
  else if nowts < s.garp.wakeTs.queryGwSend then pure 1
  else do
    let r ← arpQueryGateway env
    pure (if r = .ok then 0 else -1)

def arpSetDefenseMode : M Int := arpOpenFd env .defenseMode true

def arpGwSuccess : M Arpr := do
  let r ← arpOpenFd env .gwSuccessOpen true
  if r < 0 then pure .fail
  else do
    modify fun s => { s with garp.wakeTs.gwCheck := -1 }
    let r ← arpAnnouncement env .gwSuccess
    if r < 0 then pure .fail else pure .free

/-- Both hardware addresses are known. -/
def gwQueryDone : M Arpr := do
  modify fun s => { s with garp.wakeTs.gwQuery := -1 }
  let r ← arpOpenFd env .gwQueryOpen true
  if r < 0 then pure .fail else pure .free

/-- `server_is_router` in `arp_do_gw_query` -/
def gwQueryServer : M Arpr := do
  modify fun s => { s with cs.serverArp := s.garp.reply.smac, cs.gotServerArp := true }
  let s ← get
  if s.cs.gotRouterArp then gwQueryDone env else pure .ok

def arpDoGwQuery (cfg : ClientConfig) : M Arpr := do
  let s ← get
  if arpIsQueryReply cfg.arp s.garp.reply = 0 then pure .ok
  else if s.garp.reply.sip4 = htonl s.cs.routerAddr then do
    modify fun s => { s with cs.routerArp := s.garp.reply.smac, cs.gotRouterArp := true }
    if s.cs.routerAddr = s.cs.srcAddr then gwQueryServer env
    else if s.cs.gotServerArp then gwQueryDone env
    else pure .ok
  else if s.garp.reply.sip4 = htonl s.cs.srcAddr then gwQueryServer env
  else pure .ok

/-- `server_is_router` in `arp_do_gw_check` -/
def gwCheckServer : M Arpr := do
  let s ← get
  if s.cs.serverArp = s.garp.reply.smac then do
    modify fun s => { s with garp.serverReplied := true }
    if s.garp.routerReplied then arpGwSuccess env else pure .ok
  else do
    modify fun s => { s with garp.wakeTs.gwCheck := -1 }
    pure .conflict

def arpDoGwCheck (cfg : ClientConfig) : M Arpr := do
  let s ← get
  if arpIsQueryReply cfg.arp s.garp.reply = 0 then pure .ok
  else if s.garp.reply.sip4 = htonl s.cs.routerAddr then
    if s.cs.routerArp = s.garp.reply.smac then do
      modify fun s => { s with garp.routerReplied := true }
      if s.cs.routerAddr = s.cs.srcAddr then gwCheckServer env
      else if s.garp.serverReplied then arpGwSuccess env
      else pure .ok
    else do
      modify fun s => { s with garp.wakeTs.gwCheck := -1 }
      pure .conflict
  else if s.garp.reply.sip4 = htonl s.cs.srcAddr then gwCheckServer env
  else pure .ok

/-- A ping to a party that has not answered. -/
def pingUnless (replied : Bool) (site : Site) (testIp : UInt32) : M Int :=
  if replied then pure 0 else arpPing env site testIp

def arpGwQueryTimeout (nowts : Int) : M Arpr := do
  let s ← get
  if nowts < s.garp.gwPingStats.ts + ARP_RETRANS_DELAY then do
    modify fun s => { s with garp.wakeTs.gwQuery := s.garp.gwPingStats.ts + ARP_RETRANS_DELAY }
    pure .ok
  else do
    let r ← pingUnless env s.cs.gotRouterArp .gwQueryRouter s.cs.routerAddr
    if r < 0 then pure .fail
    else do
      let r ← pingUnless env s.cs.gotServerArp .gwQueryServer s.cs.srcAddr
      if r < 0 then pure .fail
      else do
        modify fun s => { s with
          garp.wakeTs.gwQuery := s.garp.gwPingStats.ts + ARP_RETRANS_DELAY }
        pure .ok

def arpGwCheckTimeout (nowts : Int) : M Arpr := do
  let s ← get
  if s.garp.gwCheckInitpings + 6 ≤ s.garp.gwPingStats.count then do
    modify fun s => { s with garp.wakeTs.gwCheck := -1 }
    pure .conflict
  else if nowts < s.garp.gwPingStats.ts + ARP_RETRANS_DELAY then do
    modify fun s => { s with garp.wakeTs.gwCheck := s.garp.gwPingStats.ts + ARP_RETRANS_DELAY }
    pure .ok
  else do
    let r ← pingUnless env s.garp.routerReplied .gwTimeoutRouter s.cs.routerAddr
    if r < 0 then pure .fail
    else do
      let r ← pingUnless env s.garp.serverReplied .gwTimeoutServer s.cs.srcAddr
      if r < 0 then pure .fail
      else do
        modify fun s => { s with
          garp.wakeTs.gwCheck := s.garp.gwPingStats.ts + ARP_RETRANS_DELAY }
        pure .ok

/-- `arp_get_wake_ts`: the earliest armed timer, `-1` if none is. -/
def arpGetWakeTs (garp : ArpData) : Int :=
  garp.wakeTs.toList.foldl (fun mt w => if w < 0 then mt else if mt < 0 ∨ w < mt then w else mt) (-1)

end

end Ndhc
