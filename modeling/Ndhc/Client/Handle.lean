import Ndhc.Client.Lease

/-!
# The DHCP state machine

`dhcp_handle` of state.c.  It is a coroutine: each call runs one pass of the loop it was left
in, and a `goto` continues the same call in another loop.  A pass is a program that never
returns normally; it ends by `scrReturn`, a jump or the end of the process.  `dhcpHandle`
follows the jumps, of which no call makes more than two.
-/

namespace Ndhc

open Prog

/-- `SIGNAL_NONE`, `SIGNAL_RENEW`, `SIGNAL_RELEASE` -/
inductive Signal where
  | none
  | renew
  | release
  deriving DecidableEq, Repr

/-- The arguments of `dhcp_handle`. -/
structure Input where
  nowts : Int
  sevDhcp : Bool
  dhcpPacket : DhcpMsg
  dhcpMsgtype : UInt8
  dhcpSrcaddr : UInt32
  sevArp : Bool
  forceFingerprint : Bool
  dhcpTimeout : Bool
  arpTimeout : Bool
  sevSignal : Signal
  deriving DecidableEq

/-- `SEL_SUCCESS`, `SEL_FAIL` -/
inductive Sel where
  | success
  | fail
  deriving DecidableEq, Repr

/-- `REQ_SUCCESS`, `REQ_TIMEOUT`, `REQ_FAIL` -/
inductive Req where
  | success
  | timeout
  | fail
  deriving DecidableEq, Repr

/-- `ANP_SUCCESS`, `ANP_IGNORE`, `ANP_REJECTED`, `ANP_CHECK_IP` -/
inductive Anp where
  | success
  | ignore
  | rejected
  | checkIp
  deriving DecidableEq, Repr

/-- `IFUP_REVALIDATE`, `IFUP_NEWLEASE`, `IFUP_FAIL` -/
inductive Ifup where
  | revalidate
  | newlease
  | fail
  deriving DecidableEq, Repr

def goto {α : Type} (l : Label) : M α := throw (.goto l)

/-! ## Signals -/

def printRelease : M Unit := do
  reinitSharedDeconfig
  modify fun s => { s with cs.dhcpWakeTs := -1 }
  stopDhcpListen

section
variable (env : Env)

def xmitRelease : M Int := do
  let r ← sendRelease env .xmitRelease
  if r < 0 then pure (-1)
  else do
    printRelease
    pure 0

def frenew (isBound : Bool) : M Int :=
  if isBound then do
    startDhcpListen env .frenew
    let r ← sendRenew env .frenew
    if r < 0 then pure (-1) else pure 0
  else do
    reinitSelecting env 0
    pure 0

/-! ## Timeouts before a lease -/

def delayTimeout (numpackets : Nat) : Int :=
  [4, 8, 16, 32, 64].getD numpackets 64 * 1000 + (env.random .delayTimeout % 1000).toNat

/-- A request went out; wait longer for each. -/
def awaitReply (nowts : Int) : M Unit := modify fun s => { s with
  cs.dhcpWakeTs := nowts + delayTimeout env s.cs.numDhcpRequests
  cs.numDhcpRequests := s.cs.numDhcpRequests + 1 }

/-- `selecting_timeout` with no lease after two requests: go to the background or give up. -/
def onNoLease (cfg : ClientConfig) : M Unit := do
  let s ← get
  if s.cs.programInit ∧ 2 ≤ s.cs.numDhcpRequests then
    if cfg.backgroundIfNoLease then modify fun s => { s with cs.programInit := false }
    else if cfg.abortIfNoLease then suicide
    else pure ()
  else pure ()

/-- The first request of a series has a transaction id of its own. -/
def freshXid : M Unit := do
  let s ← get
  if s.cs.numDhcpRequests = 0 then
    modify fun s => { s with cs.xid := env.random .selectingTimeout }
  else pure ()

def selectingTimeout (cfg : ClientConfig) (nowts : Int) : M Sel := do
  onNoLease cfg
  freshXid env
  let r ← sendDiscover env .selectingTimeout
  if r < 0 then pure .fail
  else do
    awaitReply env nowts
    pure .success

def requestingTimeout (nowts : Int) : M Req := do
  let s ← get
  if 5 ≤ s.cs.numDhcpRequests then do
    reinitSelecting env 0
    pure .timeout
  else do
    let r ← sendSelecting env .requestingTimeout
    if r < 0 then pure .fail
    else do
      awaitReply env nowts
      pure .success

/-! ## Packets -/

def validateServerid (cs : ClientState) (packet : DhcpMsg) : Bool :=
  match getOptionServerid packet with
  | none => false
  | some sid => cs.serverAddr == sid

def extendPacket (packet : DhcpMsg) (msgtype : UInt8) : M Anp := do
  let s ← get
  if msgtype = DHCPACK then
    if !validateServerid s.cs packet then pure .ignore
    else do
      getLeasetime env packet
      if packet.yiaddr ≠ s.cs.clientAddr then pure .checkIp
      else do
        let _ ← arpSetDefenseMode env
        stopDhcpListen
        pure .success
  else if msgtype = DHCPNAK then
    if !validateServerid s.cs packet then pure .ignore
    else do
      reinitSelecting env 3000
      pure .rejected
  else pure .ignore

/-- `selecting_packet` for an offer. -/
def selectingOffer (packet : DhcpMsg) (srcaddr : UInt32) : M Anp :=
  match getOptionServerid packet with
  | none => pure .ignore
  | some sid => do
    modify fun s => { s with
      cs.clientAddr := packet.yiaddr
      cs.serverAddr := sid
      cs.srcAddr := srcaddr
      cs.dhcpWakeTs := env.curms .selectingPacket
      cs.numDhcpRequests := 0 }
    pure .success

/-- The server that answered, if it is not the one chosen. -/
def noteServer (sid srcaddr : UInt32) : M Unit := do
  let s ← get
  if s.cs.serverAddr ≠ sid then modify fun s => { s with cs.serverAddr := sid, cs.srcAddr := srcaddr }
  else pure ()

/-- `selecting_packet` for an ACK of the address asked for. -/
def selectingAck (packet : DhcpMsg) (srcaddr : UInt32) : M Anp :=
  match getOptionServerid packet with
  | none => pure .ignore
  | some sid => do
    noteServer sid srcaddr
    getLeasetime env packet
    pure .checkIp

def selectingPacket (packet : DhcpMsg) (msgtype : UInt8) (srcaddr : UInt32) (isRequesting : Bool) :
    M Anp := do
  let s ← get
  if !isRequesting ∧ msgtype = DHCPOFFER then selectingOffer env packet srcaddr
  else if isRequesting ∧ msgtype = DHCPACK ∧ packet.yiaddr = s.cs.clientAddr then
    selectingAck env packet srcaddr
  else pure .ignore

/-! ## Carrier -/

def ifupAction : M Ifup := do
  let s ← get
  if s.cs.routerAddr ≠ 0 ∧ s.cs.serverAddr ≠ 0 then
    if s.cs.initFingerprintInprogress then suicide
    else do
      let r ← arpGwCheck env
      if 0 ≤ r then pure .revalidate else pure .fail
  else pure .newlease

end

section
variable (env : Env) (cfg : ClientConfig) (inp : Input)

/-! ## SELECTING, REQUESTING and probing -/

/-- A release signal before there is a lease. -/
def onRelease : M Unit :=
  if inp.sevSignal = .release then do
    printRelease
    goto .released
  else pure ()

/-- `reinit_selecting` and a jump to `reinit`. -/
def restart {α : Type} (timeout : Int) : M α := do
  reinitSelecting env timeout
  goto .reinit

def selectingDhcp : M Unit :=
  if inp.sevDhcp then do
    let r ← selectingPacket env inp.dhcpPacket inp.dhcpMsgtype inp.dhcpSrcaddr false
    if r = .success then goto .requesting else pure ()
  else pure ()

/-- The end of a pass of SELECTING. -/
def selectingTimer : M Unit :=
  if inp.dhcpTimeout then do
    let r ← selectingTimeout env cfg inp.nowts
    if r = .success then scrReturn COR_SUCCESS .selecting else scrReturn COR_ERROR .selecting
  else scrReturn COR_SUCCESS .selecting

def selectingPass : M Unit := do
  onRelease inp
  selectingDhcp env inp
  selectingTimer env cfg inp

def requestingDhcp : M Unit :=
  if inp.sevDhcp then do
    let r ← selectingPacket env inp.dhcpPacket inp.dhcpMsgtype inp.dhcpSrcaddr true
    if r = .ignore then pure ()
    else if r = .checkIp then do
      let r ← arpCheck env cfg inp.dhcpPacket
      if r < 0 then restart env 3000 else scrReturn COR_SUCCESS .probing
    else suicide
  else pure ()

/-- The end of a pass of REQUESTING or probing. -/
def requestTimer (pc : Pc) : M Unit :=
  if inp.dhcpTimeout then do
    let r ← requestingTimeout env inp.nowts
    if r = .success then scrReturn COR_SUCCESS pc
    else if r = .timeout then goto .reinit
    else scrReturn COR_ERROR pc
  else scrReturn COR_SUCCESS pc

def requestingPass : M Unit := do
  onRelease inp
  requestingDhcp env cfg inp
  requestTimer env inp .requesting

def probingArp : M Unit :=
  if inp.sevArp then do
    let r ← arpDoCollisionCheck env cfg
    if r = .ok then pure ()
    else if r = .conflict then restart env 0
    else if r = .fail then scrReturn COR_ERROR .probing
    else suicide
  else pure ()

def probingArpTimeout : M Unit :=
  if inp.arpTimeout then do
    let r ← arpCollisionTimeout env cfg inp.nowts
    if r = .free then do
      let _ ← arpQueryGateway env
      let _ ← arpAnnounce env
      scrReturn COR_SUCCESS .bound
    else if r = .ok then pure ()
    else if r = .fail then scrReturn COR_ERROR .probing
    else suicide
  else pure ()

def probingPass : M Unit := do
  onRelease inp
  probingArp env cfg inp
  probingArpTimeout env cfg inp
  requestTimer env inp .probing

/-! ## BOUND, RENEWING and REBINDING -/

def boundSignal : M Unit :=
  if inp.sevSignal = .release then do
    let r ← xmitRelease env
    if r ≠ 0 then scrReturn COR_ERROR .bound else goto .released
  else if inp.sevSignal = .renew then do
    let r ← frenew env true
    if r ≠ 0 then scrReturn COR_ERROR .bound else pure ()
  else pure ()

def boundDhcp : M Unit := do
  let s ← get
  if inp.sevDhcp ∧ isRenewing s.cs inp.nowts then do
    let r ← extendPacket env inp.dhcpPacket inp.dhcpMsgtype
    if r = .success ∨ r = .ignore then pure ()
    else if r = .rejected then goto .reinit
    else do
      let r ← arpCheck env cfg inp.dhcpPacket
      if r < 0 then restart env 3000 else pure ()
  else pure ()

def boundDefense : M Unit := do
  let r ← arpDoDefense env cfg
  if r = .ok then pure ()
  else if r = .conflict then restart env 0
  else if r = .fail then scrReturn COR_ERROR .bound
  else suicide

def boundGwQuery : M Unit := do
  let r ← arpDoGwQuery env cfg
  if r = .ok then pure ()
  else if r = .free then modify fun s => { s with cs.initFingerprintInprogress := false }
  else if r = .fail then scrReturn COR_ERROR .bound
  else suicide

/-- The check failed: the network is another one. -/
def gwLost : M Unit := do
  modify fun s => { s with cs.checkFingerprint := false }
  restart env 0

def boundGwCheck : M Unit := do
  let r ← arpDoGwCheck env cfg
  if r = .ok then pure ()
  else if r = .free then modify fun s => { s with cs.checkFingerprint := false }
  else if r = .conflict then gwLost env
  else scrReturn COR_ERROR .bound

/-- The fingerprint is not complete. -/
def gwUnknown (cs : ClientState) : Prop := cs.gotRouterArp = false ∨ cs.gotServerArp = false

instance (cs : ClientState) : Decidable (gwUnknown cs) := inferInstanceAs (Decidable (_ ∨ _))

def boundArp : M Unit :=
  if inp.sevArp then do
    boundDefense env cfg
    let s ← get
    if gwUnknown s.cs then boundGwQuery env cfg
    else if s.cs.checkFingerprint then boundGwCheck env cfg
    else pure ()
  else pure ()

def boundAnnounce : M Unit := do
  let s ← get
  if s.cs.sentFirstAnnounce ∧ s.cs.sentSecondAnnounce then do
    let _ ← arpDefenseTimeout env
    pure ()
  else do
    let _ ← arpAnnounceTimeout env inp.nowts
    pure ()

def boundGwTimeout : M Unit := do
  let s ← get
  if !s.cs.sentGwQuery then do
    let _ ← arpQueryGatewayTimeout env inp.nowts
    pure ()
  else if gwUnknown s.cs then do
    let r ← arpGwQueryTimeout env inp.nowts
    if r = .ok then pure ()
    else if r = .fail then scrReturn COR_ERROR .bound
    else suicide
  else if s.cs.checkFingerprint then do
    let r ← arpGwCheckTimeout env inp.nowts
    if r = .ok then pure ()
    else if r = .conflict then gwLost env
    else if r = .fail then scrReturn COR_ERROR .bound
    else suicide
  else pure ()

def boundArpTimeout : M Unit :=
  if inp.arpTimeout then do
    boundAnnounce env inp
    boundGwTimeout env inp
  else pure ()

def boundIfup : M Unit :=
  if inp.forceFingerprint then do
    let r ← ifupAction env
    if r = .revalidate then pure ()
    else if r = .newlease then do
      let r ← ifchangeDeconfig env
      if r < 0 then scrReturn COR_ERROR .newlease else restart env 0
    else scrReturn COR_ERROR .bound
  else pure ()

def boundTimer : M Unit :=
  if inp.dhcpTimeout then do
    let r ← leaseTimeout env inp.nowts
    if r = .wait then scrReturn COR_SUCCESS .bound
    else if r = .expired then goto .reinit
    else scrReturn COR_ERROR .bound
  else scrReturn COR_SUCCESS .bound

def boundPass : M Unit := do
  boundSignal env inp
  boundDhcp env cfg inp
  boundArp env cfg inp
  boundArpTimeout env inp
  boundIfup env inp
  boundTimer env inp

/-! ## RELEASED -/

def releasedPass : M Unit :=
  if inp.sevSignal = .renew then do
    let r ← frenew env false
    if r ≠ 0 then scrReturn COR_ERROR .released else goto .reinit
  else scrReturn COR_SUCCESS .released

/-! ## A call -/

def reinitPass : M Unit := do
  modify fun s => { s with cs.xid := env.random .reinit }
  selectingPass env cfg inp

/-- Where a call resumes. -/
def resume : Pc → M Unit
  | .init => reinitPass env cfg inp
  | .selecting => selectingPass env cfg inp
  | .requesting => requestingPass env cfg inp
  | .probing => probingPass env cfg inp
  | .bound => boundPass env cfg inp
  | .newlease => restart env 0
  | .released => releasedPass env inp
  | .dead => suicide

/-- Where a jump goes.  Each `goto` is preceded by `sev_dhcp = false`, or leads to a pass that
does not look at the packet. -/
def target : Label → M Unit
  | .reinit => reinitPass env cfg { inp with sevDhcp := false }
  | .requesting => requestingPass env cfg { inp with sevDhcp := false }
  | .released => releasedPass env { inp with sevDhcp := false }

/-- Follow up to `n` jumps. -/
def follow : Nat → M Unit → M Unit
  | 0, m => m
  | n + 1, m => fun s =>
    match m s with
    | .error (.goto l) t => follow n (target env cfg inp l) t
    | r => r

def dhcpHandle : M Unit := do
  modify fun s => { s with out := [] }
  let s ← get
  follow env cfg inp 2 (resume env cfg inp s.pc)

end

/-! ## What the subroutines leave alone -/

section
variable (env : Env) (nowts : Int)

instance : Routine core Dies printRelease := by
  unfold printRelease
  infer_instance

instance : Routine core Dies (xmitRelease env) := by
  unfold xmitRelease
  infer_instance

instance (isBound : Bool) : Routine core Dies (frenew env isBound) := by
  unfold frenew
  infer_instance

instance : Routine core Dies (awaitReply env nowts) := by
  unfold awaitReply
  infer_instance

instance (cfg : ClientConfig) : Routine core Dies (onNoLease cfg) := by
  unfold onNoLease
  infer_instance

instance : Routine core Dies (freshXid env) := by
  unfold freshXid
  infer_instance

instance (cfg : ClientConfig) : Routine core Dies (selectingTimeout env cfg nowts) := by
  unfold selectingTimeout
  infer_instance

instance : Routine core Dies (requestingTimeout env nowts) := by
  unfold requestingTimeout
  infer_instance

instance : Routine core Dies (ifupAction env) := by
  unfold ifupAction
  infer_instance

end

end Ndhc
