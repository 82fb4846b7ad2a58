import Ndhc.Ifch.Netlink

/-!
# One socket, two readers

`perform_ip_subnet_bcast` on the socket it opens, as the queue of datagrams that it is: the parts of
a dump stand in it in order, and every request that asks for an acknowledgement puts one behind them.
`nl_recv_buf`, which reads the dump, and `rtnl_do_send`, which waits for its acknowledgement, both
take whatever is first.
-/

namespace Ndhc

/-! ## The kernel's side -/

inductive AddrChange where
  | deladdr
  | newaddr
  deriving DecidableEq

/-- The requests, with what they say. -/
inductive NlRequest where
  | getaddr
  | addr (type : AddrChange) (permanent scopeUniverse : Bool) (ipaddr bcast : Option UInt32) (prefixlen : Nat)
  | getlink
  | setlink (flags : UInt32)
  deriving DecidableEq

/-- A datagram of the kernel; each message has its header. -/
structure NlPart where
  size : Nat
  bodies : List NlBody
  filled : bodies ≠ []
  headers : 16 * bodies.length ≤ size

/-- How a dump of addresses is split into datagrams. -/
structure AddrDump where
  addrs : List IfAddr
  parts : List NlPart
  whole : parts.flatMap NlPart.bodies = addrs.map .newaddr ++ [.done]

/-- Whether `socket` returns a descriptor, the requests that `sendto` takes, the error code in the
acknowledgement of each, and the answers to the two dump requests. -/
structure NlKernel where
  opens : Bool
  takes : NlRequest → Bool
  nlerr : NlRequest → Int
  addrs : AddrDump
  links : List NlPart

/-- An acknowledgement; with an error it holds the request too. -/
def ackPart (nlerr : Int) : NlPart where
  size := if nlerr = 0 then 36 else 60
  bodies := [.error nlerr]
  filled := List.cons_ne_nil _ _
  headers := by
    rw [List.length_singleton]
    split <;> omega

/-! ## The socket -/

/-- Datagrams that wait, with the sequence number they answer, the next number, and what was sent. -/
structure NlSocket where
  queue : List (Nat × NlPart)
  seq : Nat
  sent : List NlRequest

namespace NlSocket

/-- A new socket; `ifset_nl_seq` goes on from before. -/
def fresh (seq : Nat) : NlSocket := ⟨[], seq, []⟩

variable (k : NlKernel)

/-- `sendto`, with the datagrams a request that is taken is answered by. -/
def sendto (s : NlSocket) (r : NlRequest) (answer : List NlPart) : NlSocket × Bool :=
  if k.takes r then
    (⟨s.queue ++ answer.map fun d => (s.seq, d), s.seq + 1, s.sent ++ [r]⟩, true)
  else ({ s with seq := s.seq + 1 }, false)

/-- `recvmsg`; `none` for `EAGAIN`. -/
def recvmsg (s : NlSocket) : NlSocket × Option NlPart :=
  ({ s with queue := s.queue.tail }, s.queue.head?.map (·.2))

/-- `sizeof response` -/
def responseSize : Nat := 80

/-- `sizeof nlbuf` -/
def nlbufSize : Nat := 8192

def rtnlDoSend (s : NlSocket) (r : NlRequest) : NlSocket × Int :=
  let (s, whole) := s.sendto k r [ackPart (k.nlerr r)]
  if whole then
    match s.recvmsg with
    | (s, none) => (s, -1)
    | (s, some d) =>
      if responseSize < d.size then (s, -1)
      else
        match d.bodies.head? with
        | some (.error nlerr) => (s, if nlerr = 0 then 0 else if nlerr = 132 then -3 else -1)
        | some .done => (s, -2)
        | _ => (s, -1)
  else (s, -1)

def rtnlAddrBroadcastSend (s : NlSocket) (type : AddrChange) (permanent scopeUniverse : Bool)
    (ipaddr bcast : Option UInt32) (prefixlen : Nat) : NlSocket × Int :=
  if ipaddr.isNone && bcast.isNone then (s, -1)
  else s.rtnlDoSend k (.addr type permanent scopeUniverse ipaddr bcast prefixlen)

/-- Something is sent and something taken, or nothing. -/
theorem rtnlDoSend_fst (s : NlSocket) (r : NlRequest) :
    (s.rtnlDoSend k r).1 =
      if k.takes r then
        ⟨(s.queue ++ [(s.seq, ackPart (k.nlerr r))]).tail, s.seq + 1, s.sent ++ [r]⟩
      else { s with seq := s.seq + 1 } := by
  unfold rtnlDoSend sendto recvmsg
  cases k.takes r with
  | false => rfl
  | true =>
    simp only [if_true, List.map_cons, List.map_nil]
    cases (s.queue ++ [(s.seq, ackPart (k.nlerr r))]).head?.map (·.2) with
    | none => rfl
    | some d =>
      simp only
      repeat' split
      all_goals rfl

theorem rtnlDoSend_length (s : NlSocket) (r : NlRequest) :
    (s.rtnlDoSend k r).1.queue.length = s.queue.length := by
  rw [rtnlDoSend_fst]
  split
  · simp
  · rfl

/-! ## Reading a dump -/

/-- What is done with a message; it leaves no more datagrams waiting than before. -/
structure Pfn (α : Type) where
  call : NlSocket → α → NlBody → NlSocket × α
  keeps : ∀ s a body, (call s a body).1.queue.length ≤ s.queue.length

section
variable {α : Type} (f : Pfn α)

/-- `nl_foreach_nlmsg` on messages that are not skipped; `none` for the `return -1` at an error. -/
def foreach : List NlBody → NlSocket → α → NlSocket × Option α
  | [], s, a => (s, some a)
  | body :: bodies, s, a =>
    match body with
    | .error _ => (s, none)
    | .done => (s, some a)
    | .control => foreach bodies s a
    | body => foreach bodies (f.call s a body).1 (f.call s a body).2

theorem foreach_length (bodies : List NlBody) (s : NlSocket) (a : α) :
    (foreach f bodies s a).1.queue.length ≤ s.queue.length := by
  induction bodies generalizing s a with
  | nil => exact Nat.le_refl _
  | cons body bodies ih =>
    cases body with
    | error nlerr => exact Nat.le_refl _
    | done => exact Nat.le_refl _
    | control => exact ih s a
    | newlink index flags => exact (ih _ _).trans (f.keeps s a _)
    | newaddr x => exact (ih _ _).trans (f.keeps s a _)
    | other => exact (ih _ _).trans (f.keeps s a _)

/-- The messages of a datagram, if they answer the request. -/
def foreachNlmsg (seq : Nat) (d : Nat × NlPart) (s : NlSocket) (a : α) : NlSocket × Option α :=
  if d.1 = seq then foreach f d.2.bodies s a else (s, some a)

theorem foreachNlmsg_length (seq : Nat) (d : Nat × NlPart) (s : NlSocket) (a : α) :
    (foreachNlmsg f seq d s a).1.queue.length ≤ s.queue.length := by
  unfold foreachNlmsg
  split
  · exact foreach_length f _ s a
  · exact Nat.le_refl _

/-- The loop of `link_flags_get` and `ipbcpfx_clear_others`: -2 if a datagram is too long, -3 at an
error message.  It ends when nothing waits. -/
def nlRead (seq : Nat) (s : NlSocket) (a : α) : NlSocket × Except Int α :=
  match _hq : s.queue with
  | [] => (s, .ok a)
  | d :: queue =>
    if nlbufSize < d.2.size then ({ s with queue := queue }, .error (-2))
    else
      let r := foreachNlmsg f seq d { s with queue := queue } a
      match r.2 with
      | none => (r.1, .error (-3))
      | some a' => nlRead seq r.1 a'
termination_by s.queue.length
decreasing_by
  rw [_hq, List.length_cons]
  exact Nat.lt_succ_of_le (foreachNlmsg_length f seq d _ _)

theorem nlRead_nil (seq : Nat) (s : NlSocket) (a : α) (hq : s.queue = []) : nlRead f seq s a = (s, .ok a) := by
  rw [nlRead]
  split
  · rfl
  · next d queue h => rw [hq] at h; cases h

theorem nlRead_cons (seq : Nat) (s : NlSocket) (a : α) (d : Nat × NlPart) (queue : List (Nat × NlPart))
    (hq : s.queue = d :: queue) :
    nlRead f seq s a =
      if nlbufSize < d.2.size then ({ s with queue := queue }, .error (-2))
      else
        match foreachNlmsg f seq d { s with queue := queue } a with
        | (t, none) => (t, .error (-3))
        | (t, some a') => nlRead f seq t a' := by
  rw [nlRead]
  split
  · next h => rw [hq] at h; cases h
  · next d' queue' h =>
    rw [hq] at h
    obtain ⟨rfl, rfl⟩ := List.cons.inj h
    split
    · rfl
    · generalize foreachNlmsg f seq d { s with queue := queue } a = r
      obtain ⟨t, _ | a'⟩ := r
      · rfl
      · rfl

/-- What is sent while a dump is read is what `f` sends. -/
theorem nlRead_sent (hf : ∀ s a body, (f.call s a body).1.sent = s.sent) (seq : Nat) (s : NlSocket) (a : α) :
    (nlRead f seq s a).1.sent = s.sent := by
  have hforeach : ∀ bodies s a, (foreach f bodies s a).1.sent = s.sent := by
    intro bodies
    induction bodies with
    | nil => intro s a; rfl
    | cons body bodies ih =>
      intro s a
      cases body with
      | error nlerr => rfl
      | done => rfl
      | control => exact ih s a
      | newlink index flags => exact (ih _ _).trans (hf s a _)
      | newaddr x => exact (ih _ _).trans (hf s a _)
      | other => exact (ih _ _).trans (hf s a _)
  induction hn : s.queue.length using Nat.strong_induction_on generalizing s a with
  | _ n ih =>
    cases hq : s.queue with
    | nil => rw [nlRead_nil f seq s a hq]
    | cons d queue =>
      have hsent : (foreachNlmsg f seq d { s with queue := queue } a).1.sent = s.sent := by
        unfold foreachNlmsg
        split
        · exact hforeach _ _ _
        · rfl
      have hlen := foreachNlmsg_length f seq d { s with queue := queue } a
      rw [nlRead_cons f seq s a d queue hq]
      split
      · rfl
      · generalize foreachNlmsg f seq d { s with queue := queue } a = r at hsent hlen
        obtain ⟨t, _ | a'⟩ := r
        · exact hsent
        · have hlt : t.queue.length < n := by
            rw [← hn, hq, List.length_cons]
            exact Nat.lt_succ_of_le hlen
          exact (ih _ hlt t a' rfl).trans hsent

end

/-! ## ifset.c -/

variable (ifindex : UInt32)

/-- `link_flags_get_do` -/
def linkFlagsPfn : Pfn (Option UInt32) where
  call s flags body := (s, linkFlagsGetDo ifindex flags body)
  keeps _ _ _ := Nat.le_refl _

def linkFlagsGet (s : NlSocket) : NlSocket × Except Int UInt32 :=
  match s.sendto k .getlink k.links with
  | (t, false) => (t, .error (-1))
  | (t, true) =>
    match nlRead (linkFlagsPfn ifindex) s.seq t none with
    | (t, .error r) => (t, .error r)
    | (t, .ok none) => (t, .error (-4))
    | (t, .ok (some flags)) => (t, .ok flags)

def linkSetFlags (s : NlSocket) (flags : UInt32) : NlSocket × Int :=
  match s.linkFlagsGet k ifindex with
  | (s, .error _) => (s, -1)
  | (s, .ok oldflags) =>
    if oldflags &&& flags = flags then (s, 1) else s.rtnlDoSend k (.setlink (flags ||| oldflags))

variable (req : AddrRequest)

def ipbcpfxClearOthersDo (s : NlSocket) (alreadyOk : Bool) : NlBody → NlSocket × Bool
  | .newaddr a =>
    if a.index ≠ ifindex ∨ a.inet = false then (s, alreadyOk)
    else if a.same req then (s, true)
    -- that it could not be deleted is only logged
    else ((s.rtnlAddrBroadcastSend k .deladdr a.permanent a.scopeUniverse a.address a.broadcast a.prefixlen).1,
      alreadyOk)
  | _ => (s, alreadyOk)

theorem rtnlAddrBroadcastSend_length (s : NlSocket) (type : AddrChange) (permanent scopeUniverse : Bool)
    (ipaddr bcast : Option UInt32) (prefixlen : Nat) :
    (s.rtnlAddrBroadcastSend k type permanent scopeUniverse ipaddr bcast prefixlen).1.queue.length =
      s.queue.length := by
  unfold rtnlAddrBroadcastSend
  split
  · rfl
  · exact rtnlDoSend_length k s _

def clearOthersPfn : Pfn Bool where
  call := ipbcpfxClearOthersDo k ifindex req
  keeps s alreadyOk body := by
    unfold ipbcpfxClearOthersDo
    repeat' split
    · exact Nat.le_refl _
    · exact Nat.le_refl _
    · exact Nat.le_of_eq (rtnlAddrBroadcastSend_length k s _ _ _ _ _ _)
    · exact Nat.le_refl _

def ipbcpfxClearOthers (s : NlSocket) : NlSocket × Int :=
  match s.sendto k .getaddr k.addrs.parts with
  | (t, false) => (t, -1)
  | (t, true) =>
    match nlRead (clearOthersPfn k ifindex req) s.seq t false with
    | (t, .error r) => (t, r)
    | (t, .ok alreadyOk) => (t, if alreadyOk then 1 else 0)

/-- The address is added unless `ipbcpfx_clear_others` returned 1. -/
def addUnlessOk (s : NlSocket) (r : Int) : NlSocket × Int :=
  if r < 1 then s.rtnlAddrBroadcastSend k .newaddr true true (some req.ipaddr) (some req.bcast) req.prefixlen
  else (s, r)

end NlSocket

/-- `perform_ip_subnet_bcast` once the addresses are read.  A list that ends in an error message
(-3) is gone on from. -/
def NlKernel.setAddress (k : NlKernel) (ifindex : UInt32) (s : NlSocket) (req : AddrRequest) : NlSocket × Int :=
  if k.opens = false then (s, -99)
  else
    let (s, r) := s.ipbcpfxClearOthers k ifindex req
    if r < 0 ∧ -3 < r then (s, -99)
    else
      let (s, r) := s.addUnlessOk k req r
      if r < 0 then (s, -99)
      else
        let (s, r) := s.linkSetFlags k ifindex (IFF_UP ||| IFF_RUNNING)
        (s, if r < 0 then -1 else 0)

end Ndhc
