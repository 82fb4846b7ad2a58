import Ndhc.Client.Handle

/-!
# The protocol the client follows

What `dhcp_handle` is for, without its sockets, ARP bookkeeping and control flow: a client in
one of six stages with the address it asks for or holds, the server it deals with, the terms of
its lease, what the interface is configured with, and one timer.  `Act` has a constructor for
each thing such a client may do, with what allows it; `Client/Refinement.lean` shows that the
code does nothing else.  Sends that fail are no acts.  Of a client that stopped, only what it did
is looked at.
-/

namespace Ndhc

/-- The stages of a client.  It is `stalled` where the interface could not be deconfigured. -/
inductive Stage where
  | selecting
  | requesting
  | probing
  | bound
  | stalled
  | released
  | stopped
  deriving DecidableEq, Repr

/-- There is no lease yet. -/
def Stage.leaseless : Stage → Bool
  | .selecting => true
  | .requesting => true
  | .probing => true
  | _ => false

/-- An offer is being requested; the requests go on while its address is probed. -/
def Stage.asking : Stage → Bool
  | .requesting => true
  | .probing => true
  | _ => false

structure Client where
  xid : UInt32
  addr : UInt32
  server : UInt32
  src : UInt32
  router : UInt32
  wake : Int
  requests : Nat
  leaseStart : Int
  renewTime : Int
  rebindTime : Int
  lease : UInt32
  pending : DhcpMsg
  config : DhcpMsg
  deconfigured : Bool
  out : List Effect

namespace Client

/-! ## Messages -/

def discover (v : Client) : Sent :=
  ⟨DHCPDISCOVER, v.xid, 0, if v.addr ≠ 0 then some v.addr else none, none⟩

def request (v : Client) : Sent := ⟨DHCPREQUEST, v.xid, 0, some v.addr, some v.server⟩

def renewal (v : Client) : Sent := ⟨DHCPREQUEST, v.xid, v.addr, none, none⟩

def rebinding (v : Client) : Sent := ⟨DHCPREQUEST, v.xid, v.addr, some v.addr, none⟩

def decline (v : Client) : Sent := ⟨DHCPDECLINE, v.xid, 0, some v.addr, some v.pending.yiaddr⟩

def release (v : Client) (x : UInt32) : Sent := ⟨DHCPRELEASE, x, v.addr, some v.addr, some v.server⟩

/-! ## Changes -/

def does (v : Client) (e : Effect) : Client := { v with out := v.out ++ [e] }

def sends (v : Client) (m : Sent) : Client := v.does (.dhcp m)

/-- Nothing done yet in this call. -/
def fresh (v : Client) : Client := { v with out := [] }

/-- Wait for a reply until `ts`. -/
def await (v : Client) (ts : Int) : Client := { v with wake := ts, requests := v.requests + 1 }

/-- Without an address, to act at `ts`. -/
def restart (v : Client) (ts : Int) : Client := { v with addr := 0, requests := 0, wake := ts }

/-- The terms an ACK grants, with the timer at the time to renew. -/
def granted (v : Client) (start : Int) (packet : DhcpMsg) : Client :=
  let lease := leaseOf (getOptionLeasetime packet)
  let renewTime : Int := (lease >>> 1).toNat
  { v with
    lease := lease
    leaseStart := start
    renewTime := renewTime
    rebindTime := ((lease >>> 3) * 7).toNat
    wake := start + renewTime * 1000 }

/-- The server whose answer counts. -/
def heeds (v : Client) (sid srcaddr : UInt32) : Client :=
  if v.server ≠ sid then { v with server := sid, src := srcaddr } else v

/-- Nothing but the server is changed. -/
theorem heeds_eq (v : Client) (sid srcaddr : UInt32) :
    ∃ src, v.heeds sid srcaddr = { v with server := sid, src := src } := by
  unfold heeds
  split
  · exact ⟨srcaddr, rfl⟩
  · next h =>
    rw [← Decidable.not_not.mp h]
    exact ⟨v.src, rfl⟩

def tests (v : Client) (packet : DhcpMsg) : Client := { v with pending := packet }

/-- A first probe for the packet's address. -/
def probes (v : Client) (packet : DhcpMsg) : Client :=
  ((v.tests packet).does (.arp 0 packet.yiaddr)).does (.arpCheck packet.yiaddr)

/-- The packet under test becomes the configuration of the interface. -/
def binds (v : Client) : Client :=
  { v.does (.bind v.pending.yiaddr) with
    addr := v.pending.yiaddr
    router := getOptionRouter v.pending
    config := v.pending
    deconfigured := false }

def deconfigures (v : Client) : Client :=
  if v.deconfigured then v else { v.does .deconfig with config := .zero, deconfigured := true }

/-! ## Times -/

def renewAt (v : Client) : Int := v.leaseStart + v.renewTime * 1000

def rebindAt (v : Client) : Int := v.leaseStart + v.rebindTime * 1000

/-- The end of the lease as the client computes it, the product one of `uint32_t`. -/
def endAt (v : Client) : Int := v.leaseStart + (v.lease * 1000).toNat

end Client

/-! ## Acts -/

section
variable (env : Env) (inp : Input)

/-- The packet of a call is an answer of type `msgtype` by the server `sid`. -/
structure Reply (msgtype : UInt8) (sid : UInt32) : Prop where
  here : inp.sevDhcp = true
  type : inp.dhcpMsgtype = msgtype
  server : getOptionServerid inp.dhcpPacket = some sid

/-- What a client may do in a call of `dhcp_handle`. -/
inductive Act : Stage × Client → Stage × Client → Prop
  | exit (g : Stage) (v v' : Client) (hout : v'.out = v.out) : Act (g, v) (.stopped, v')
  -- looking for a server
  | transaction (v : Client) (x : UInt32) : Act (.selecting, v) (.selecting, { v with xid := x })
  | discover (v : Client) (hdue : inp.dhcpTimeout = true) :
    Act (.selecting, v)
      (.selecting, (v.sends v.discover).await (inp.nowts + delayTimeout env v.requests))
  | offer (v : Client) (sid : UInt32) (hans : Reply inp DHCPOFFER sid) :
    Act (.selecting, v) (.requesting, { v with
      addr := inp.dhcpPacket.yiaddr
      server := sid
      src := inp.dhcpSrcaddr
      wake := env.curms .selectingPacket
      requests := 0 })
  -- requesting what was offered
  | request (g : Stage) (v : Client) (hg : g.asking = true) (hdue : inp.dhcpTimeout = true)
    (hfew : v.requests < 5) :
    Act (g, v) (g, (v.sends v.request).await (inp.nowts + delayTimeout env v.requests))
  | giveUp (g : Stage) (v : Client) (hg : g.asking = true) (hdue : inp.dhcpTimeout = true)
    (hmany : 5 ≤ v.requests) :
    Act (g, v) (.selecting, v.restart (env.curms .reinitSelecting))
  | ack (v : Client) (sid : UInt32) (hans : Reply inp DHCPACK sid)
    (haddr : inp.dhcpPacket.yiaddr = v.addr) :
    Act (.requesting, v) (.probing, ((v.heeds sid inp.dhcpSrcaddr).granted
      (env.curms .getLeasetime) inp.dhcpPacket).probes inp.dhcpPacket)
  | ackUntested (v : Client) (sid : UInt32) (hans : Reply inp DHCPACK sid)
    (haddr : inp.dhcpPacket.yiaddr = v.addr) :
    Act (.requesting, v) (.selecting, (((v.heeds sid inp.dhcpSrcaddr).granted
      (env.curms .getLeasetime) inp.dhcpPacket).tests inp.dhcpPacket).restart
        (env.curms .reinitSelecting + 3000))
  -- probing for the address
  | probe (v : Client) (hdue : inp.arpTimeout = true) :
    Act (.probing, v) (.probing, v.does (.arp 0 v.pending.yiaddr))
  | decline (v : Client) (hframe : inp.sevArp = true) :
    Act (.probing, v) (.selecting, ((v.does (.conflict v.pending.yiaddr)).sends v.decline).restart
      (env.curms .reinitSelecting))
  | undeclined (v : Client) (hframe : inp.sevArp = true) :
    Act (.probing, v) (.probing, v.does (.conflict v.pending.yiaddr))
  | bind (v : Client) (hdue : inp.arpTimeout = true) : Act (.probing, v) (.bound, v.binds)
  | unbound (v v' : Client) (hdue : inp.arpTimeout = true)
    (hout : v'.out = v.out ++ [.bind v.pending.yiaddr]) : Act (.probing, v) (.stopped, v')
  -- holding the lease
  | arp (v : Client) (dip : UInt32) : Act (.bound, v) (.bound, v.does (.arp v.addr dip))
  | wait (v : Client) (hdue : inp.dhcpTimeout = true) (hnow : inp.nowts < v.renewAt) :
    Act (.bound, v) (.bound, { v with wake := v.renewAt })
  | renew (v : Client) (hdue : inp.dhcpTimeout = true) (hfrom : v.renewAt ≤ inp.nowts)
    (hto : inp.nowts < v.rebindAt) :
    Act (.bound, v) (.bound, { v.sends v.renewal with
      wake := min (retryTime env .renewingTimeout inp.nowts) v.rebindAt })
  | rebind (v : Client) (hdue : inp.dhcpTimeout = true) (hfrom : v.rebindAt ≤ inp.nowts)
    (hto : inp.nowts < v.endAt) :
    Act (.bound, v) (.bound, { v.sends v.rebinding with
      wake := min (retryTime env .rebindingTimeout inp.nowts) v.endAt })
  | forcedRenew (v : Client) (hsig : inp.sevSignal = .renew) :
    Act (.bound, v) (.bound, v.sends v.renewal)
  | extend (v : Client) (hans : Reply inp DHCPACK v.server) (hfrom : v.renewAt ≤ inp.nowts)
    (haddr : inp.dhcpPacket.yiaddr = v.addr) :
    Act (.bound, v) (.bound, v.granted (env.curms .getLeasetime) inp.dhcpPacket)
  | check (v : Client) (hans : Reply inp DHCPACK v.server) (hfrom : v.renewAt ≤ inp.nowts)
    (haddr : inp.dhcpPacket.yiaddr ≠ v.addr) :
    Act (.bound, v)
      (.bound, (v.granted (env.curms .getLeasetime) inp.dhcpPacket).probes inp.dhcpPacket)
  -- losing the lease
  | checkUntested (v : Client) (hans : Reply inp DHCPACK v.server) (hfrom : v.renewAt ≤ inp.nowts)
    (haddr : inp.dhcpPacket.yiaddr ≠ v.addr) :
    Act (.bound, v) (.selecting,
      ((v.granted (env.curms .getLeasetime) inp.dhcpPacket).tests inp.dhcpPacket).restart
        (env.curms .reinitSelecting + 3000))
  | nak (v : Client) (hans : Reply inp DHCPNAK v.server) (hfrom : v.renewAt ≤ inp.nowts) :
    Act (.bound, v) (.selecting, v.restart (env.curms .reinitSelecting + 3000))
  | expire (v : Client) (hdue : inp.dhcpTimeout = true) (hrebind : v.rebindAt ≤ inp.nowts)
    (hend : v.endAt ≤ inp.nowts) :
    Act (.bound, v) (.selecting, v.restart (env.curms .reinitSelecting))
  | surrender (v : Client) (x : UInt32) (hframe : inp.sevArp = true) :
    Act (.bound, v) (.selecting, (v.sends (v.release x)).restart (env.curms .reinitSelecting))
  | lose (v : Client) (harp : inp.sevArp = true ∨ inp.arpTimeout = true) :
    Act (.bound, v) (.selecting, v.restart (env.curms .reinitSelecting))
  | remove (v : Client) (hforce : inp.forceFingerprint = true) (hpeer : v.router = 0 ∨ v.server = 0) :
    Act (.bound, v) (.selecting, v.deconfigures.restart (env.curms .reinitSelecting))
  | stall (v : Client) (hforce : inp.forceFingerprint = true) (hpeer : v.router = 0 ∨ v.server = 0) :
    Act (.bound, v) (.stalled, v)
  | recover (v : Client) : Act (.stalled, v) (.selecting, v.restart (env.curms .reinitSelecting))
  -- asked by the user
  | cancel (g : Stage) (v : Client) (hg : g.leaseless = true) (hsig : inp.sevSignal = .release) :
    Act (g, v) (.released, v.restart (-1))
  | release (v : Client) (x : UInt32) (hsig : inp.sevSignal = .release) :
    Act (.bound, v) (.released, (v.sends (v.release x)).restart (-1))
  | resume (v : Client) (hsig : inp.sevSignal = .renew) :
    Act (.released, v) (.selecting, v.restart (env.curms .reinitSelecting))

end

end Ndhc
