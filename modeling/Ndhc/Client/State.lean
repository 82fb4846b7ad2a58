import Ndhc.Filter.ArpFilter
import Ndhc.Lib.Prog
import Ndhc.Wire.Receive

/-!
# The client's state and the world around it

`struct client_state_t`, `struct arp_data` and the configuration packet of ifchange.c, with
the place where the coroutine `dhcp_handle` resumes.  A piece of the client is a program on
this state (`M`) that may be left early: by `scrReturn`, by a jump to a label of
`dhcp_handle`, or by the end of the process.

What the outside answers is an `Env`: clocks, random numbers, sends, sockets from sockd and
replies of ifch, each by the place that asks.  No place is passed twice in one call.
-/

namespace Ndhc

/-! ## State -/

structure ClientState where
  leaseStartTime : Int
  renewTime : Int
  rebindTime : Int
  dhcpWakeTs : Int
  ifDeconfig : Bool
  listenFd : Int
  arpFd : Int
  numDhcpRequests : Nat
  clientAddr : UInt32
  serverAddr : UInt32
  srcAddr : UInt32
  routerAddr : UInt32
  lease : UInt32
  xid : UInt32
  routerArp : List UInt8
  serverArp : List UInt8
  usingDhcpBpf : Bool
  gotRouterArp : Bool
  gotServerArp : Bool
  arpIsDefense : Bool
  checkFingerprint : Bool
  programInit : Bool
  sentGwQuery : Bool
  sentFirstAnnounce : Bool
  sentSecondAnnounce : Bool
  initFingerprintInprogress : Bool
  deriving DecidableEq

/-- `struct arp_stats` -/
structure ArpStats where
  ts : Int
  count : Int
  deriving DecidableEq

/-- `garp.wake_ts`, by `arp_state_t`. -/
structure WakeTs where
  none : Int
  announce : Int
  collisionCheck : Int
  queryGwSend : Int
  gwCheck : Int
  gwQuery : Int
  defense : Int
  deriving DecidableEq

def WakeTs.unarmed : WakeTs := ⟨-1, -1, -1, -1, -1, -1, -1⟩

def WakeTs.toList (w : WakeTs) : List Int :=
  [w.none, w.announce, w.collisionCheck, w.queryGwSend, w.gwCheck, w.gwQuery, w.defense]

/-- `struct arp_data` -/
structure ArpData where
  dhcpPacket : DhcpMsg
  reply : ArpMsg
  collisionStats : ArpStats
  gwPingStats : ArpStats
  announceStats : ArpStats
  wakeTs : WakeTs
  lastConflictTs : Int
  arpCheckStartTs : Int
  totalConflicts : Nat
  gwCheckInitpings : Int
  probeWaitTime : Nat
  usingBpf : Bool
  relentlessDef : Bool
  routerReplied : Bool
  serverReplied : Bool
  deriving DecidableEq

/-- Where `dhcp_handle` resumes: at its start, at the top of the loop of a state, behind the
`scrReturn` that follows a failed `ifchange_deconfig`, or nowhere once the process ended. -/
inductive Pc where
  | init
  | selecting
  | requesting
  | probing
  | bound
  | newlease
  | released
  | dead
  deriving DecidableEq, Repr

/-- A DHCP message sent: its type, transaction, `ciaddr`, requested address and server id. -/
structure Sent where
  msgtype : UInt8
  xid : UInt32
  ciaddr : UInt32
  reqip : Option UInt32
  serverid : Option UInt32
  deriving DecidableEq, Repr

/-- What a call does to the outside. -/
inductive Effect where
  | dhcp (m : Sent)
  | arp (sip dip : UInt32)
  | arpCheck (addr : UInt32)
  | conflict (addr : UInt32)
  | bind (addr : UInt32)
  | deconfig
  deriving DecidableEq, Repr

structure Sys where
  cs : ClientState
  garp : ArpData
  cfgPacket : DhcpMsg
  pc : Pc
  out : List Effect
  deriving DecidableEq

/-- What the command line and the start of the program leave open: an address to ask for,
whether to defend relentlessly, whether the interface was deconfigured because the carrier
was down, and the listening socket. -/
structure Startup where
  clientAddr : UInt32
  relentlessDef : Bool
  ifDeconfig : Bool
  listenFd : Int
  usingDhcpBpf : Bool
  opened : 0 ≤ listenFd

/-- The state as the loop of `do_ndhc_work` is entered. -/
def Sys.start (b : Startup) : Sys where
  cs := {
    leaseStartTime := 0
    renewTime := 0
    rebindTime := 0
    dhcpWakeTs := -1
    ifDeconfig := b.ifDeconfig
    listenFd := b.listenFd
    arpFd := -1
    numDhcpRequests := 0
    clientAddr := b.clientAddr
    serverAddr := 0
    srcAddr := 0
    routerAddr := 0
    lease := 0
    xid := 0
    routerArp := List.replicate 6 0
    serverArp := List.replicate 6 0
    usingDhcpBpf := b.usingDhcpBpf
    gotRouterArp := false
    gotServerArp := false
    arpIsDefense := false
    checkFingerprint := false
    programInit := true
    sentGwQuery := false
    sentFirstAnnounce := false
    sentSecondAnnounce := false
    initFingerprintInprogress := false }
  garp := {
    dhcpPacket := .zero
    reply := .zero
    collisionStats := ⟨0, 0⟩
    gwPingStats := ⟨0, 0⟩
    announceStats := ⟨0, 0⟩
    wakeTs := .unarmed
    lastConflictTs := 0
    arpCheckStartTs := 0
    totalConflicts := 0
    gwCheckInitpings := 0
    probeWaitTime := 0
    usingBpf := false
    relentlessDef := b.relentlessDef
    routerReplied := false
    serverReplied := false }
  cfgPacket := .zero
  pc := .init
  out := []

/-! ## The outside -/

/-- The places that ask. -/
inductive Site where
  | reinit
  | reinitSelecting
  | getLeasetime
  | selectingPacket
  | selectingTimeout
  | delayTimeout
  | requestingTimeout
  | renewingTimeout
  | rebindingTimeout
  | xmitRelease
  | frenew
  | arpCheckOpen
  | collisionPing
  | probeWait
  | decline
  | bind
  | quitAfterLease
  | deconfig
  | gwHwaddrOpen
  | gwHwaddrServer
  | gwHwaddrRouter
  | queryGateway
  | announce
  | announceNext
  | defenseMode
  | conflictSeen
  | doDefense
  | defenseRelease
  | defenseTimeout
  | gwQueryOpen
  | gwSuccessOpen
  | gwSuccess
  | gwQueryRouter
  | gwQueryServer
  | gwTimeoutRouter
  | gwTimeoutServer
  | gwCheckOpen
  | gwCheckServer
  | gwCheckRouter
  | arpReopen
  | dhcpReopen
  deriving DecidableEq, Repr

/-- The answers: `send` what a send returns, `sockd` a descriptor and whether a BPF is
installed on it, `ifch` what `ifchwrite` returns; `none` ends the process. -/
structure Env where
  curms : Site → Int
  random : Site → UInt32
  send : Site → Option Int
  sockd : Site → Option (Int × Bool)
  ifch : Site → Option Int

/-! ## Programs -/

inductive Label where
  | reinit
  | requesting
  | released
  deriving DecidableEq, Repr

/-- Ways to leave a piece of `dhcp_handle`. -/
inductive Stop where
  | ret (code : Int)
  | goto (l : Label)
  | exit
  deriving DecidableEq, Repr

abbrev M := EStateM Stop Sys

def COR_SUCCESS : Int := 0
def COR_ERROR : Int := -1

/-- `scrReturn`, resuming at `pc`. -/
def scrReturn {α : Type} (code : Int) (pc : Pc) : M α := do
  modify fun s => { s with pc := pc }
  throw (.ret code)

/-- `suicide` and `exit` -/
def suicide {α : Type} : M α := do
  modify fun s => { s with pc := .dead }
  throw .exit

/-- An answer that may end the process. -/
def ask {α : Type} : Option α → M α
  | some a => pure a
  | none => suicide

def emit (e : Effect) : M Unit := modify fun s => { s with out := s.out ++ [e] }

end Ndhc
