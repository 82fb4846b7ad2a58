import Ndhc.Ifch.Ip4set
import Ndhc.Ifch.Sequence

/-!
# The commands that reach the kernel

`ip4`, `routr`, `mtu` and `carrier` down to the system calls of ifset.c and nl.c.  What the calls of
one command come to is a `NlCalls`: any descriptor or failure of `socket`, any outcome of each
`sendto` and each `recvmsg`.

`perform_ip_subnet_bcast`, `perform_router` and `perform_mtu` begin with a return value of -99 for
an argument that is no value, and still hold it when a system call fails.
-/

namespace Ndhc

open Bytes

/-! ## Messages and calls -/

/-- An address the kernel lists: `ifaddrmsg` with its attributes. -/
structure IfAddr where
  index : UInt32
  inet : Bool
  permanent : Bool
  scopeUniverse : Bool
  prefixlen : Nat
  address : Option UInt32
  broadcast : Option UInt32

inductive NlBody where
  /-- `NLMSG_ERROR`, with what `nlmsg_get_error` reads from it -/
  | error (nlerr : Int)
  | done
  /-- any other type below `NLMSG_MIN_TYPE` -/
  | control
  | newlink (index : UInt32) (flags : UInt32)
  | newaddr (a : IfAddr)
  | other

/-- A message; `answers` unless `nl_foreach_nlmsg` skips it for its sequence number. -/
structure NlMsg where
  answers : Bool
  body : NlBody

/-- What `recvmsg` comes to: `EAGAIN`, another error, a datagram cut off, one of no bytes, or one
with the messages it holds, `named` if its sender has a netlink address. -/
inductive NlRecv where
  | again
  | fails
  | truncated
  | empty
  | bytes (named : Bool) (msgs : List NlMsg)

/-- The system calls of a command, in order: what `socket` returns, whether each `sendto` takes the
whole request, what each `recvmsg` finds for `rtnl_do_send` and what for `nl_recv_buf`.  Past the
end of a list a `sendto` fails and a `recvmsg` finds nothing. -/
structure NlCalls where
  socket : Int
  sends : List Bool
  acks : List NlRecv
  dumps : List NlRecv

namespace NlCalls

def sendto (c : NlCalls) : NlCalls × Bool := ({ c with sends := c.sends.tail }, c.sends.headD false)

def recvmsg (c : NlCalls) : NlCalls × NlRecv := ({ c with acks := c.acks.tail }, c.acks.headD .again)

end NlCalls

/-! ## nl.c -/

/-- `nl_sendgetlink`, `nl_sendgetaddr4` -/
def nlSendget (c : NlCalls) : NlCalls × Int :=
  let (c, whole) := c.sendto
  (c, if whole then 0 else -1)

section
variable {α : Type} (pfn : NlCalls → α → NlBody → NlCalls × α)

/-- The messages of a buffer; `none` for the `return -1` at an error message. -/
def nlForeachNlmsg : List NlMsg → NlCalls → α → NlCalls × Option α
  | [], c, a => (c, some a)
  | m :: ms, c, a =>
    if m.answers then
      match m.body with
      | .error _ => (c, none)
      | .done => (c, some a)
      | .control => nlForeachNlmsg ms c a
      | body => nlForeachNlmsg ms (pfn c a body).1 (pfn c a body).2
    else nlForeachNlmsg ms c a

/-- The loop of `link_flags_get` and `ipbcpfx_clear_others` over what `nl_recv_buf` finds: -2 if it
fails, -3 at an error message. -/
def nlReadLoop : List NlRecv → NlCalls → α → NlCalls × Except Int α
  | [], c, a => ({ c with dumps := [] }, .ok a)
  | r :: rs, c, a =>
    match r with
    | .again | .empty => ({ c with dumps := rs }, .ok a)
    | .fails | .truncated | .bytes false _ => ({ c with dumps := rs }, .error (-2))
    | .bytes true ms =>
      match nlForeachNlmsg pfn ms c a with
      | (c, none) => ({ c with dumps := rs }, .error (-3))
      | (c, some a) => nlReadLoop rs c a

def nlRead (c : NlCalls) (a : α) : NlCalls × Except Int α := nlReadLoop pfn c.dumps c a

end

/-! ## ifset.c -/

def rtnlDoSend (c : NlCalls) : NlCalls × Int :=
  let (c, whole) := c.sendto
  if whole then
    let (c, r) := c.recvmsg
    match r with
    | .bytes _ (m :: _) =>
      match m.body with
      | .error nlerr => (c, if nlerr = 0 then 0 else if nlerr = 132 then -3 else -1)
      | .done => (c, -2)
      | _ => (c, -1)
    | _ => (c, -1)
  else (c, -1)

def IFF_UP : UInt32 := 0x1
def IFF_RUNNING : UInt32 := 0x40

section
variable (ifindex : UInt32)

def linkFlagsGetDo (flags : Option UInt32) : NlBody → Option UInt32
  | .newlink index newflags => if index = ifindex then some newflags else flags
  | _ => flags

/-- The flags, or one of the four negative return values. -/
def linkFlagsGet (c : NlCalls) : NlCalls × Except Int UInt32 :=
  let (c, r) := nlSendget c
  if r < 0 then (c, .error (-1))
  else
    match nlRead (fun c flags body => (c, linkFlagsGetDo ifindex flags body)) c none with
    | (c, .error r) => (c, .error r)
    | (c, .ok none) => (c, .error (-4))
    | (c, .ok (some flags)) => (c, .ok flags)

def performCarrier (c : NlCalls) : NlCalls × Int :=
  if c.socket < 0 then (c, -1)
  else
    match linkFlagsGet ifindex c with
    | (c, .error _) => (c, -1)
    | (c, .ok flags) => (c, if flags &&& IFF_RUNNING ≠ 0 ∧ flags &&& IFF_UP ≠ 0 then 0 else -1)

def linkSetFlags (c : NlCalls) (flags : UInt32) : NlCalls × Int :=
  match linkFlagsGet ifindex c with
  | (c, .error _) => (c, -1)
  | (c, .ok oldflags) => if oldflags &&& flags = flags then (c, 1) else rtnlDoSend c

def rtnlAddrBroadcastSend (c : NlCalls) (ipaddr bcast : Option UInt32) : NlCalls × Int :=
  if ipaddr.isNone && bcast.isNone then (c, -1) else rtnlDoSend c

/-- Whether the address listed is the one requested. -/
def IfAddr.same (a : IfAddr) (req : AddrRequest) : Bool :=
  a.permanent && a.scopeUniverse && a.prefixlen == req.prefixlen && a.address == some req.ipaddr &&
    a.broadcast == some req.bcast

def ipbcpfxClearOthersDo (req : AddrRequest) (c : NlCalls) (alreadyOk : Bool) : NlBody → NlCalls × Bool
  | .newaddr a =>
    if a.index ≠ ifindex ∨ a.inet = false then (c, alreadyOk)
    else if a.same req then (c, true)
    -- that it could not be deleted is only logged
    else ((rtnlAddrBroadcastSend c a.address a.broadcast).1, alreadyOk)
  | _ => (c, alreadyOk)

def ipbcpfxClearOthers (c : NlCalls) (req : AddrRequest) : NlCalls × Int :=
  let (c, r) := nlSendget c
  if r < 0 then (c, -1)
  else
    match nlRead (ipbcpfxClearOthersDo ifindex req) c false with
    | (c, .error r) => (c, r)
    | (c, .ok alreadyOk) => (c, if alreadyOk then 1 else 0)

/-- `perform_ip_subnet_bcast` once the addresses are read.  A list that ends in an error message
(-3) is gone on from. -/
def setAddress (c : NlCalls) (req : AddrRequest) : NlCalls × Int :=
  if c.socket < 0 then (c, -99)
  else
    let (c, r) := ipbcpfxClearOthers ifindex c req
    if r < 0 ∧ -3 < r then (c, -99)
    else
      let (c, r) := if r < 1 then rtnlAddrBroadcastSend c (some req.ipaddr) (some req.bcast) else (c, r)
      if r < 0 then (c, -99)
      else
        let (c, r) := linkSetFlags ifindex c (IFF_UP ||| IFF_RUNNING)
        (c, if r < 0 then -1 else 0)

def performRouter (c : NlCalls) (str : List UInt8) : NlCalls × Int :=
  if str.length < 7 then (c, -99)
  else
    match inetPton str with
    | none => (c, -99)
    | some _ =>
      if c.socket < 0 then (c, -99)
      else
        let (c, r) := rtnlDoSend c
        (c, if r < 0 then -99 else 0)

def rtnlIfMtuSet (c : NlCalls) : NlCalls × Int :=
  match linkFlagsGet ifindex c with
  | (c, .error _) => (c, -1)
  | (c, .ok _) => rtnlDoSend c

def isSpace (c : UInt8) : Bool := c == 32 || (9 ≤ c && c ≤ 13)

/-- `strtol(str, &estr, 10)`, `none` if it takes no digit.  Its bounds are outside those
`perform_mtu` sets the number. -/
def strtol (str : List UInt8) : Option Int :=
  let (neg, digits) :=
    match str.dropWhile isSpace with
    | 45 :: cs => (true, cs.takeWhile isDigit)
    | 43 :: cs => (false, cs.takeWhile isDigit)
    | cs => (false, cs.takeWhile isDigit)
  let n : Int := digits.foldl (fun (n : Int) d => n * 10 + (d.toNat - 48 : Nat)) 0
  if digits = [] then none else some (if neg then -n else n)

def performMtu (c : NlCalls) (str : List UInt8) : NlCalls × Int :=
  if str.length < 2 then (c, -99)
  else
    match strtol str with
    | none => (c, -99)
    | some tmtu =>
      if (INT_MAX : Int) < tmtu then (c, -99)
      else if tmtu < 68 then (c, -99)
      else if c.socket < 0 then (c, -99)
      else
        let (c, r) := rtnlIfMtuSet ifindex c
        (c, if r < 0 then -99 else 0)

/-! ## When they return -99 -/

/-- `perform_ip_subnet_bcast` fails before the link is set up: there is no socket, the addresses
cannot be asked for or received, or the new one is not taken. -/
def AddressFails (c : NlCalls) (req : AddrRequest) : Prop :=
  c.socket < 0 ∨ (ipbcpfxClearOthers ifindex c req).2 = -1 ∨ (ipbcpfxClearOthers ifindex c req).2 = -2 ∨
    ((ipbcpfxClearOthers ifindex c req).2 < 1 ∧
      (rtnlAddrBroadcastSend (ipbcpfxClearOthers ifindex c req).1 (some req.ipaddr) (some req.bcast)).2 < 0)

theorem setAddress_fatal_iff (c : NlCalls) (req : AddrRequest) :
    (setAddress ifindex c req).2 = -99 ↔ AddressFails ifindex c req := by
  have hlink (r : Int) : (if r < 0 then -1 else 0 : Int) ≠ -99 := by
    split <;> decide
  unfold setAddress AddressFails
  by_cases hfd : c.socket < 0
  · simp [hfd]
  · rw [if_neg hfd, or_iff_right hfd]
    obtain ⟨c', r⟩ := ipbcpfxClearOthers ifindex c req
    simp only
    by_cases hlist : r < 0 ∧ -3 < r
    · rw [if_pos hlist]
      exact iff_of_true rfl (by omega)
    · rw [if_neg hlist]
      by_cases hnew : r < 1
      · by_cases hsend : (rtnlAddrBroadcastSend c' (some req.ipaddr) (some req.bcast)).2 < 0
        · simp [hsend, hnew]
        · simp only [if_pos hnew, if_neg hsend]
          exact iff_of_false (hlink _) (by omega)
      · simp only [if_neg hnew, show ¬ r < 0 by omega, if_false]
        exact iff_of_false (hlink _) (by omega)

theorem performRouter_fatal_iff (c : NlCalls) (str : List UInt8) (hlen : 7 ≤ str.length) :
    (performRouter c str).2 = -99 ↔
      (inetPton str).isSome = false ∨ c.socket < 0 ∨ (rtnlDoSend c).2 < 0 := by
  unfold performRouter
  rw [if_neg (by omega)]
  cases inetPton str with
  | none => simp
  | some addr =>
    by_cases hfd : c.socket < 0
    · simp [hfd]
    · by_cases hsend : (rtnlDoSend c).2 < 0 <;> simp [hfd, hsend]

/-- What `perform_mtu` takes. -/
def MtuValue (str : List UInt8) : Prop := ∃ n, strtol str = some n ∧ 68 ≤ n ∧ n ≤ INT_MAX

theorem performMtu_fatal_iff (c : NlCalls) (str : List UInt8) (hlen : 2 ≤ str.length) :
    (performMtu ifindex c str).2 = -99 ↔
      ¬ MtuValue str ∨ c.socket < 0 ∨ (rtnlIfMtuSet ifindex c).2 < 0 := by
  unfold performMtu MtuValue
  rw [if_neg (by omega)]
  cases strtol str with
  | none => simp
  | some n =>
    by_cases hmax : (INT_MAX : Int) < n
    · simp [hmax, Int.not_le.2 hmax]
    · by_cases hmin : n < 68
      · simp [hmax, hmin, Int.not_le.2 hmin]
      · have hvalue : 68 ≤ n ∧ n ≤ INT_MAX := ⟨by omega, by omega⟩
        by_cases hfd : c.socket < 0
        · simp [hmax, hmin, hfd]
        · by_cases hset : (rtnlIfMtuSet ifindex c).2 < 0 <;> simp [hmax, hmin, hfd, hset, hvalue]

theorem performCarrier_ne (c : NlCalls) : (performCarrier ifindex c).2 ≠ -99 := by
  unfold performCarrier
  split
  · exact (by decide : (-1 : Int) ≠ -99)
  · split
    · exact (by decide : (-1 : Int) ≠ -99)
    · simp only
      split <;> decide

end

/-! ## Arguments -/

/-- The request an `ip4` argument makes, if its address and its mask are addresses. -/
def ip4Request (arg : List UInt8) : Option AddrRequest :=
  match Ip4Exec.run arg .init with
  | none => none
  | some x =>
    match inetPton x.ip4Addr, inetPton x.ip4Subnet with
    | some ipaddr, some subnet =>
      let prefixlen := subnet4ToPrefixlen (word32 subnet)
      some ⟨word32 ipaddr, prefixlen, standardBcast (word32 ipaddr) prefixlen⟩
    | _, _ => none

/-- On an argument of its grammar, `perform_ip4set` makes that request or returns -99. -/
theorem performIp4set_takes {τ : Type} (kernel : τ → AddrRequest → τ × Int) (u : τ) (arg : List UInt8)
    (harg : Ip4Exec.grammar.Takes arg) :
    performIp4set kernel u arg =
      match ip4Request arg with
      | some req => kernel u req
      | none => (u, -99) := by
  obtain ⟨q, hf, hq⟩ := harg
  obtain ⟨x, hrun, hip, hsn, hbc⟩ := Ip4Exec.run_cutting arg .init q Ip4Exec.cutting_init hf hq
  unfold performIp4set ip4Request
  simp only [hrun, hip, hsn, hbc, performIpSubnetBcast]
  cases inetPton x.ip4Addr with
  | none => rfl
  | some ipaddr => cases inetPton x.ip4Subnet <;> rfl

/-- The bytes of the addresses behind a position, at least. -/
def ArgPos.behind : ArgPos → Nat
  | .addr commas dots digits => 8 * commas + 2 * dots + min digits 1
  | _ => 0

theorem behind_next (lo : Nat) (hi : Option Nat) (q q' : ArgPos) (c : UInt8)
    (hn : (ArgKind.addrs lo hi).next q c = some q') : q'.behind ≤ q.behind + 1 := by
  obtain ⟨commas, dots, digits, rfl, hmove⟩ := ArgKind.next_addrs lo hi q q' c hn
  rcases hmove with ⟨-, -, rfl⟩ | ⟨-, -, hd, rfl⟩ | ⟨-, rfl, hd, rfl⟩
  all_goals
    simp only [ArgPos.behind]
    omega

theorem behind_feed (lo : Nat) (hi : Option Nat) (q q' : ArgPos) (as : List UInt8)
    (hf : (ArgKind.addrs lo hi).feed q as = some q') : q'.behind ≤ q.behind + as.length := by
  induction as generalizing q with
  | nil =>
    cases hf
    exact Nat.le_refl _
  | cons c as ih =>
    obtain ⟨-, q1, hq1, hf⟩ := ArgKind.feed_cons _ q q' c as hf
    have hrest := ih q1 hf
    have hstep := behind_next lo hi q q1 c hq1
    rw [List.length_cons]
    omega

/-- An address has seven bytes. -/
theorem length_of_addrs (lo : Nat) (hi : Option Nat) (as : List UInt8)
    (htakes : (ArgKind.addrs lo hi).Takes as) : 7 ≤ as.length := by
  obtain ⟨q, hf, hq⟩ := htakes
  have hlen := behind_feed lo hi _ q as hf
  cases q with
  | addr commas dots digits =>
    simp only [ArgKind.accepts, decide_eq_true_eq] at hq
    simp only [ArgKind.start, ArgPos.behind] at hlen
    omega
  | str seen => cases hq
  | extend left => cases hq
  | none => cases hq

theorem length_of_feed_extend (n left : Nat) (q : ArgPos) (as : List UInt8)
    (hf : (ArgKind.extend n).feed (.extend left) as = some q)
    (hq : (ArgKind.extend n).accepts q = true) : as.length = left := by
  induction as generalizing left with
  | nil =>
    cases hf
    exact (beq_iff_eq.1 hq).symm
  | cons c as ih =>
    obtain ⟨-, q1, hq1, hf⟩ := ArgKind.feed_cons _ _ q c as hf
    simp only [ArgKind.next] at hq1
    split at hq1
    · cases hq1
    · next hleft =>
      cases hq1
      have hrest := ih (left - 1) hf
      rw [List.length_cons]
      omega

theorem length_of_extend (n : Nat) (as : List UInt8) (htakes : (ArgKind.extend n).Takes as) :
    as.length = n := by
  obtain ⟨q, hf, hq⟩ := htakes
  exact length_of_feed_extend n n q as hf hq

end Ndhc
