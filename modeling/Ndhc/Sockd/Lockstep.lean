import Ndhc.Client.ArpSocket
import Ndhc.Ifch.Parse

/-!
# ndhc and sockd

ndhc asks sockd for a socket by one datagram and waits for the reply that carries it.  Nothing in
a request says how long it is: `execute_sockd` takes as many bytes as the command should have, and
what it leaves over stays in a static buffer that is never shifted.  The two processes are a
`Link`, with what is under way between them and what each has seen so far; every interleaving of
their steps keeps them in step (`lockstep`).
-/

namespace Ndhc

open Bytes

/-! ## Requests -/

def chr (c : Char) : UInt8 := c.toNat.toUInt8

/-- The callers of `request_sockd_fd`, with what they put into the request. -/
inductive SockRequest where
  | rawListen
  | arpBasic
  | arpDefense (clientAddr : UInt32) (arp : Mac)
  | udpUnicast (clientAddr : UInt32)
  | rawBroadcast
  deriving DecidableEq

/-- The datagram of `get_raw_listen_socket`, `get_arp_basic_socket`, `get_arp_defense_socket`,
`get_udp_unicast_socket` and `get_raw_broadcast_socket`. -/
def SockRequest.encode : SockRequest → List UInt8
  | .rawListen => [chr 'L']
  | .arpBasic => [chr 'a']
  | .arpDefense clientAddr arp => chr 'd' :: (htonl clientAddr ++ arp.bytes)
  | .udpUnicast clientAddr => chr 'u' :: htonl clientAddr
  | .rawBroadcast => [chr 's']

/-- A reply: the character, and the descriptor in the control message. -/
structure SockReply where
  repc : Char
  fd : Int
  deriving DecidableEq

/-- What a caller gets: the descriptor and, of some sockets, whether they are filtered. -/
structure SockAnswer where
  fd : Int
  usingBpf : Option Bool
  deriving DecidableEq

/-- `using_dhcp_bpf` as `get_raw_listen_socket` reads the reply. -/
def listenBpfOf (resp : Char) : Option Bool :=
  if resp = 'L' then some true else if resp = 'l' then some false else none

/-- What the caller makes of the reply; `none` where it calls `suicide`. -/
def SockRequest.accept (req : SockRequest) (reply : SockReply) : Option SockAnswer :=
  match req with
  | .rawListen => (listenBpfOf reply.repc).map fun b => ⟨reply.fd, some b⟩
  | .arpBasic => (usingBpfOf false reply.repc).map fun b => ⟨reply.fd, some b⟩
  | .arpDefense _ _ => (usingBpfOf true reply.repc).map fun b => ⟨reply.fd, some b⟩
  -- without a place for the response it has to be the command itself
  | _ => if chr reply.repc ≠ at0 req.encode 0 then none else some ⟨reply.fd, none⟩

/-! ## sockd -/

/-- The sockets `execute_sockd` makes, with the arguments it reads. -/
inductive SockCommand where
  | rawListen
  | arpBasic
  | arpDefense (clientAddr : UInt32) (clientMac : List UInt8)
  | udp (clientAddr : UInt32)
  | rawBroadcast
  deriving DecidableEq

/-- The character that goes with the socket. -/
def SockCommand.repc (usingBpf : Bool) : SockCommand → Char
  | .rawListen => if usingBpf then 'L' else 'l'
  | .arpBasic => if usingBpf then 'A' else 'a'
  | .arpDefense _ _ => if usingBpf then 'D' else 'd'
  | .udp _ => 'u'
  | .rawBroadcast => 's'

/-- The command `execute_sockd` reads and the bytes it takes for it; `none` where it calls
`suicide`. -/
def executeSockd (buf : List UInt8) (buflen : Nat) : Option (SockCommand × Nat) :=
  let c := at0 buf 0
  if c = chr 'L' then some (.rawListen, 1)
  else if c = chr 'a' then some (.arpBasic, 1)
  else if c = chr 'd' then
    if buflen < 1 + 4 + 6 then none else some (.arpDefense (word32 (slice buf 1 4)) (slice buf (1 + 4) 6), 11)
  else if c = chr 's' then some (.rawBroadcast, 1)
  else if c = chr 'u' then
    if buflen < 1 + 4 then none else some (.udp (word32 (slice buf 1 4)), 5)
  else none

/-- `buf` and `buflen` of `process_client_socket`. -/
structure SockdBuf where
  buf : List UInt8
  buflen : Nat
  size_eq : buf.length = MAX_BUF
  buflen_le : buflen ≤ MAX_BUF

def SockdBuf.empty : SockdBuf := ⟨List.replicate MAX_BUF 0, 0, List.length_replicate, Nat.zero_le _⟩

/-- What the kernel does in a call of `process_client_socket`: whether `recv` fails otherwise than
with `EAGAIN`, the socket that is made, and whether `sendmsg` fails. -/
structure ServeCalls where
  recvFails : Bool
  fd : Int
  usingBpf : Bool
  sendFails : Bool

/-- The bytes received, behind those in the buffer. -/
def SockdBuf.recv (s : SockdBuf) (datagram : List UInt8) : List UInt8 :=
  s.buf.take s.buflen ++ overlay (s.buf.drop s.buflen) (datagram.take (MAX_BUF - s.buflen))

theorem SockdBuf.length_recv (s : SockdBuf) (datagram : List UInt8) : (s.recv datagram).length = MAX_BUF := by
  have hle := s.buflen_le
  rw [SockdBuf.recv, List.length_append, length_overlay]
  · simp only [List.length_take, List.length_drop, s.size_eq]
    omega
  · simp only [List.length_take, List.length_drop, s.size_eq]
    omega

/-- How a call of `process_client_socket` ends: the process does, or there was nothing to read, or a
command was read and its socket handed over. -/
inductive Served where
  | ends
  | idle
  | hands (command : SockCommand) (reply : SockReply) (s : SockdBuf)

def Sockd.processClientSocket (w : ServeCalls) (s : SockdBuf) (datagram : Option (List UInt8)) : Served :=
  if s.buflen = MAX_BUF then .ends
  else if w.recvFails then .ends
  else
    match datagram with
    | none => .idle
    | some d =>
      let r := (d.take (MAX_BUF - s.buflen)).length
      -- an empty read is taken for the end of ndhc
      if r = 0 then .ends
      else
        match executeSockd (s.recv d) (s.buflen + r) with
        | none => .ends
        | some (command, n) =>
          -- `sendmsg` does not take a descriptor that is none
          if w.fd < 0 ∨ w.sendFails then .ends
          else .hands command ⟨command.repc w.usingBpf, w.fd⟩ {
            buf := s.recv d
            buflen := s.buflen + r - n
            size_eq := s.length_recv d
            buflen_le := by
              have hr : r ≤ MAX_BUF - s.buflen := List.length_take_le _ _
              have := s.buflen_le
              omega }

/-! ## The two processes -/

inductive Asker where
  | ready
  | waiting (req : SockRequest)
  | dead
  deriving DecidableEq

/-- Both processes, the datagrams between them, and what was asked, carried out and answered. -/
structure Link where
  ndhc : Asker
  sockd : Option SockdBuf
  requests : List (List UInt8)
  replies : List SockReply
  asked : List SockRequest
  carriedOut : List SockCommand
  answers : List (SockRequest × SockAnswer)

def Link.start : Link := ⟨.ready, some .empty, [], [], [], [], []⟩

/-- A step of either process: a caller of `request_sockd_fd` writes its request, with what `write`
returns; sockd is woken; ndhc takes a reply. -/
inductive LinkStep where
  | request (req : SockRequest) (written : Int)
  | serve (w : ServeCalls)
  | receive

def Link.request (l : Link) (req : SockRequest) (written : Int) : Link :=
  match l.ndhc with
  | .ready =>
    if written = req.encode.length then { l with
      ndhc := .waiting req
      requests := l.requests ++ [req.encode]
      asked := l.asked ++ [req] }
    else { l with ndhc := .dead }
  -- the call before has not returned
  | _ => l

def Link.serve (l : Link) (w : ServeCalls) : Link :=
  match l.sockd with
  | none => l
  | some s =>
    match Sockd.processClientSocket w s l.requests.head? with
    | .ends => { l with sockd := none }
    | .idle => l
    | .hands command reply s => { l with
      sockd := some s
      requests := l.requests.tail
      replies := l.replies ++ [reply]
      carriedOut := l.carriedOut ++ [command] }

def Link.receive (l : Link) : Link :=
  match l.ndhc, l.replies with
  | .waiting req, reply :: replies =>
    match req.accept reply with
    | none => { l with ndhc := .dead, replies := replies }
    | some answer => { l with ndhc := .ready, replies := replies, answers := l.answers ++ [(req, answer)] }
  -- `recvmsg` blocks
  | _, _ => l

def Link.step (l : Link) : LinkStep → Link
  | .request req written => l.request req written
  | .serve w => l.serve w
  | .receive => l.receive

def Link.run (steps : List LinkStep) (l : Link) : Link := steps.foldl Link.step l

/-- The request goes out as one datagram; the socket is made and can be handed over. -/
def LinkStep.Works : LinkStep → Prop
  | .request req written => written = req.encode.length
  | .serve w => w.recvFails = false ∧ 0 ≤ w.fd ∧ w.sendFails = false
  | .receive => True

/-- The command a request stands for. -/
def SockRequest.command : SockRequest → SockCommand
  | .rawListen => .rawListen
  | .arpBasic => .arpBasic
  | .arpDefense clientAddr arp => .arpDefense clientAddr arp.bytes
  | .udpUnicast clientAddr => .udp clientAddr
  | .rawBroadcast => .rawBroadcast

/-- Both live, sockd's buffer is empty, what it has carried out are the requests in order but for
one that is still to be read, a reply under way is one the caller accepts, and all requests are
answered but for the one that is waited for. -/
structure Link.InLockstep (l : Link) : Prop where
  ndhc : l.ndhc ≠ .dead
  sockd : ∃ s, l.sockd = some s ∧ s.buflen = 0
  decoded : ∃ unread : List SockRequest, unread.length ≤ 1 ∧ l.requests = unread.map SockRequest.encode ∧
    l.asked.map SockRequest.command = l.carriedOut ++ unread.map SockRequest.command
  accepted : ∀ reply ∈ l.replies, ∃ req, l.ndhc = .waiting req ∧ (req.accept reply).isSome
  answered : (l.ndhc = .ready ∧ l.asked = l.answers.map Prod.fst) ∨
    ∃ req, l.ndhc = .waiting req ∧ l.asked = l.answers.map Prod.fst ++ [req]

/-! ## One request -/

theorem SockRequest.encode_pos (req : SockRequest) : 0 < req.encode.length := by
  cases req with
  | rawListen => decide
  | arpBasic => decide
  | arpDefense clientAddr arp => exact Nat.succ_pos _
  | udpUnicast clientAddr => exact Nat.succ_pos _
  | rawBroadcast => decide

theorem SockRequest.encode_le (req : SockRequest) : req.encode.length ≤ 11 := by
  cases req with
  | rawListen => decide
  | arpBasic => decide
  | arpDefense clientAddr arp =>
    rw [encode, List.length_cons, List.length_append, length_htonl, arp.size_eq]
  | udpUnicast clientAddr =>
    rw [encode, List.length_cons, length_htonl]
    decide
  | rawBroadcast => decide

/-- A request is read back as the command it stands for, whatever is behind it in the buffer. -/
theorem executeSockd_encode (req : SockRequest) (rest : List UInt8) :
    executeSockd (req.encode ++ rest) req.encode.length = some (req.command, req.encode.length) := by
  have hbehind : ∀ (c : UInt8) (bs : List UInt8) off len, slice (c :: bs) (1 + off) len = slice bs off len :=
    fun c bs off len => slice_append_right [c] bs 1 off len rfl
  cases req with
  | rawListen => rfl
  | arpBasic => rfl
  | arpDefense clientAddr arp =>
    have hlen : (SockRequest.arpDefense clientAddr arp).encode.length = 11 := by
      rw [SockRequest.encode, List.length_cons, List.length_append, length_htonl, arp.size_eq]
    have haddr : slice (chr 'd' :: (htonl clientAddr ++ arp.bytes) ++ rest) 1 4 = htonl clientAddr := by
      rw [List.cons_append, List.append_assoc, hbehind _ _ 0 4, slice_append_self _ _ 4 rfl]
    have hmac : slice (chr 'd' :: (htonl clientAddr ++ arp.bytes) ++ rest) (1 + 4) 6 = arp.bytes := by
      rw [List.cons_append, List.append_assoc, hbehind, slice_append_right _ _ 4 0 6 rfl,
        slice_append_self _ _ 6 arp.size_eq]
    rw [hlen]
    show some (SockCommand.arpDefense (word32 (slice (chr 'd' :: (htonl clientAddr ++ arp.bytes) ++ rest) 1 4))
      (slice (chr 'd' :: (htonl clientAddr ++ arp.bytes) ++ rest) (1 + 4) 6), 11) = _
    rw [haddr, hmac, word32_htonl]
    rfl
  | udpUnicast clientAddr =>
    have haddr : slice (chr 'u' :: htonl clientAddr ++ rest) 1 4 = htonl clientAddr := by
      rw [List.cons_append, hbehind _ _ 0 4, slice_append_self _ _ 4 rfl]
    show some (SockCommand.udp (word32 (slice (chr 'u' :: htonl clientAddr ++ rest) 1 4)), 5) = _
    rw [haddr, word32_htonl]
    rfl
  | rawBroadcast => rfl

/-- Over an empty buffer a request is carried out, and the buffer is empty again. -/
theorem Sockd.processClientSocket_encode (w : ServeCalls) (hw : (LinkStep.serve w).Works) (s : SockdBuf)
    (hs : s.buflen = 0) (req : SockRequest) :
    ∃ s', Sockd.processClientSocket w s (some req.encode) =
      .hands req.command ⟨req.command.repc w.usingBpf, w.fd⟩ s' ∧ s'.buflen = 0 := by
  obtain ⟨hrecv, hfd, hsend⟩ := hw
  have hpos := req.encode_pos
  have hle := req.encode_le
  have htake : req.encode.take (MAX_BUF - s.buflen) = req.encode := by
    apply List.take_of_length_le
    rw [hs]
    unfold MAX_BUF
    omega
  have hread : executeSockd (s.recv req.encode) (s.buflen + req.encode.length) =
      some (req.command, req.encode.length) := by
    rw [SockdBuf.recv, htake, hs, List.take_zero, List.nil_append, Nat.zero_add]
    exact executeSockd_encode req _
  unfold Sockd.processClientSocket
  rw [if_neg (by rw [hs]; decide), if_neg (by rw [hrecv]; decide)]
  simp only [htake, hread]
  rw [if_neg (Nat.ne_of_gt hpos), if_neg (by rw [hsend]; simpa using hfd)]
  refine ⟨_, rfl, ?_⟩
  show s.buflen + req.encode.length - req.encode.length = 0
  omega

/-- A caller accepts the reply to its own request. -/
theorem SockRequest.accept_reply (req : SockRequest) (usingBpf : Bool) (fd : Int) :
    ∃ answer, req.accept ⟨req.command.repc usingBpf, fd⟩ = some answer := by
  cases req <;> cases usingBpf <;> exact ⟨_, rfl⟩

/-! ## All requests -/

/-- Where the two stand: nothing is under way, or the request is, or its reply. -/
inductive Link.InStep (l : Link) : Prop
  | ready (s : SockdBuf) (hndhc : l.ndhc = .ready) (hsockd : l.sockd = some s) (hempty : s.buflen = 0)
      (hrequests : l.requests = []) (hreplies : l.replies = [])
      (hdone : l.asked.map SockRequest.command = l.carriedOut) (hanswers : l.asked = l.answers.map Prod.fst)
  | sent (req : SockRequest) (s : SockdBuf) (hndhc : l.ndhc = .waiting req) (hsockd : l.sockd = some s)
      (hempty : s.buflen = 0) (hrequests : l.requests = [req.encode]) (hreplies : l.replies = [])
      (hdone : l.asked.map SockRequest.command = l.carriedOut ++ [req.command])
      (hanswers : l.asked = l.answers.map Prod.fst ++ [req])
  | replied (req : SockRequest) (s : SockdBuf) (usingBpf : Bool) (fd : Int) (hndhc : l.ndhc = .waiting req)
      (hsockd : l.sockd = some s) (hempty : s.buflen = 0) (hrequests : l.requests = [])
      (hreplies : l.replies = [⟨req.command.repc usingBpf, fd⟩])
      (hdone : l.asked.map SockRequest.command = l.carriedOut)
      (hanswers : l.asked = l.answers.map Prod.fst ++ [req])

namespace Link.InStep

variable (l : Link) (h : l.InStep)
include h

theorem request (req : SockRequest) (written : Int) (hw : (LinkStep.request req written).Works) :
    (l.request req written).InStep := by
  unfold Link.request
  cases h with
  | ready s hndhc hsockd hempty hrequests hreplies hdone hanswers =>
    simp only [hndhc]
    rw [if_pos (show written = _ from hw)]
    refine .sent req s rfl hsockd hempty ?_ hreplies ?_ ?_
    · rw [hrequests, List.nil_append]
    · rw [List.map_append, hdone, List.map_singleton]
    · rw [hanswers]
  | sent req' s hndhc hsockd hempty hrequests hreplies hdone hanswers =>
    simp only [hndhc]
    exact .sent req' s hndhc hsockd hempty hrequests hreplies hdone hanswers
  | replied req' s usingBpf fd hndhc hsockd hempty hrequests hreplies hdone hanswers =>
    simp only [hndhc]
    exact .replied req' s usingBpf fd hndhc hsockd hempty hrequests hreplies hdone hanswers

/-- sockd finds nothing to read, or it carries out the request; none is left. -/
theorem serve (w : ServeCalls) (hw : (LinkStep.serve w).Works) :
    (l.serve w).InStep ∧ (l.serve w).requests = [] := by
  have hidle : ∀ s, l.sockd = some s → s.buflen = 0 → l.requests = [] → l.serve w = l := by
    intro s hsockd hempty hrequests
    simp only [Link.serve, hsockd, hrequests, List.head?_nil, Sockd.processClientSocket, hw.1]
    rw [if_neg (by rw [hempty]; decide), if_neg (by decide)]
  cases h with
  | ready s hndhc hsockd hempty hrequests hreplies hdone hanswers =>
    rw [hidle s hsockd hempty hrequests]
    exact ⟨.ready s hndhc hsockd hempty hrequests hreplies hdone hanswers, hrequests⟩
  | sent req s hndhc hsockd hempty hrequests hreplies hdone hanswers =>
    obtain ⟨s', hserved, hempty'⟩ := Sockd.processClientSocket_encode w hw s hempty req
    simp only [Link.serve, hsockd, hrequests, List.head?_cons, hserved, List.tail_cons, hreplies, List.nil_append]
    exact ⟨.replied req s' w.usingBpf w.fd hndhc rfl hempty' rfl rfl hdone hanswers, trivial⟩
  | replied req s usingBpf fd hndhc hsockd hempty hrequests hreplies hdone hanswers =>
    rw [hidle s hsockd hempty hrequests]
    exact ⟨.replied req s usingBpf fd hndhc hsockd hempty hrequests hreplies hdone hanswers, hrequests⟩

/-- A caller whose request is no longer to be read has its answer. -/
theorem receive : l.receive.InStep ∧ (l.requests = [] → l.receive.ndhc = .ready) := by
  unfold Link.receive
  cases h with
  | ready s hndhc hsockd hempty hrequests hreplies hdone hanswers =>
    simp only [hndhc]
    exact ⟨.ready s hndhc hsockd hempty hrequests hreplies hdone hanswers, fun _ => trivial⟩
  | sent req s hndhc hsockd hempty hrequests hreplies hdone hanswers =>
    simp only [hndhc, hreplies]
    refine ⟨.sent req s hndhc hsockd hempty hrequests hreplies hdone hanswers, fun hnone => ?_⟩
    rw [hrequests] at hnone
    cases hnone
  | replied req s usingBpf fd hndhc hsockd hempty hrequests hreplies hdone hanswers =>
    obtain ⟨answer, haccept⟩ := req.accept_reply usingBpf fd
    simp only [hndhc, hreplies, haccept]
    refine ⟨.ready s rfl hsockd hempty hrequests rfl hdone ?_, fun _ => trivial⟩
    rw [hanswers, List.map_append, List.map_singleton]

theorem step (st : LinkStep) (hw : st.Works) : (l.step st).InStep := by
  cases st with
  | request req written => exact h.request l req written hw
  | serve w => exact (h.serve l w hw).1
  | receive => exact (h.receive l).1

theorem run (steps : List LinkStep) (hw : ∀ st ∈ steps, st.Works) : (Link.run steps l).InStep := by
  induction steps generalizing l with
  | nil => exact h
  | cons st steps ih =>
    exact ih _ (h.step l st (hw st List.mem_cons_self)) fun st' hst' => hw st' (List.mem_cons_of_mem _ hst')

theorem inLockstep : l.InLockstep := by
  cases h with
  | ready s hndhc hsockd hempty hrequests hreplies hdone hanswers =>
    refine ⟨by rw [hndhc]; decide, ⟨s, hsockd, hempty⟩, ⟨[], Nat.zero_le 1, hrequests, ?_⟩, ?_, Or.inl ⟨hndhc, hanswers⟩⟩
    · rw [hdone, List.map_nil, List.append_nil]
    · rw [hreplies]
      exact nofun
  | sent req s hndhc hsockd hempty hrequests hreplies hdone hanswers =>
    refine ⟨by rw [hndhc]; exact nofun, ⟨s, hsockd, hempty⟩, ⟨[req], Nat.le_refl 1, hrequests, hdone⟩, ?_,
      Or.inr ⟨req, hndhc, hanswers⟩⟩
    rw [hreplies]
    exact nofun
  | replied req s usingBpf fd hndhc hsockd hempty hrequests hreplies hdone hanswers =>
    refine ⟨by rw [hndhc]; exact nofun, ⟨s, hsockd, hempty⟩, ⟨[], Nat.zero_le 1, hrequests, ?_⟩, ?_,
      Or.inr ⟨req, hndhc, hanswers⟩⟩
    · rw [hdone, List.map_nil, List.append_nil]
    · rw [hreplies]
      intro reply hreply
      obtain ⟨answer, haccept⟩ := req.accept_reply usingBpf fd
      rw [List.mem_singleton.mp hreply]
      exact ⟨req, hndhc, by rw [haccept]; rfl⟩

end Link.InStep

theorem Link.inStep_start : Link.start.InStep := .ready .empty rfl rfl rfl rfl rfl rfl rfl

/-- **ndhc and sockd stay in lockstep.**  After every sequence of their steps, in which requests go out
as one datagram and sockets are made, both live and sockd's buffer is empty, and the requests are
decoded and answered in order; and sockd need only be woken for the caller that waits to return. -/
theorem lockstep (steps : List LinkStep) (hw : ∀ st ∈ steps, st.Works) :
    (Link.run steps .start).InLockstep ∧
      ∀ w, (LinkStep.serve w).Works → ((Link.run steps .start).serve w).receive.ndhc = .ready := by
  have h := Link.inStep_start.run .start steps hw
  refine ⟨h.inLockstep, fun w hserve => ?_⟩
  obtain ⟨hserved, hnone⟩ := h.serve _ w hserve
  exact (hserved.receive _).2 hnone

/-- The client starts to defend its address and renews by unicast. -/
theorem lockstep_defense_unicast :
    (Link.run [.request (.arpDefense 0xc0a8010a ⟨[2, 0, 0, 0, 0, 1], rfl⟩) 11, .serve ⟨false, 5, true, false⟩, .receive,
      .serve ⟨false, 6, false, false⟩, .request (.udpUnicast 0xc0a8010a) 5, .serve ⟨false, 7, false, false⟩]
      .start).InLockstep := by
  refine (lockstep _ ?_).1
  simp only [List.forall_mem_cons]
  exact ⟨rfl, ⟨rfl, by decide, rfl⟩, trivial, ⟨rfl, by decide, rfl⟩, rfl, ⟨rfl, by decide, rfl⟩, nofun⟩

/-! ## ARP sockets -/

def ArpRequest.sockRequest : ArpRequest → SockRequest
  | .basic => .arpBasic
  | .defense clientAddr clientMac => .arpDefense clientAddr clientMac

/-- The reply for an ARP socket is that of its command, with what was made of its filter. -/
theorem ArpSocket.reply_repc (k : ArpSocket) :
    k.reply = k.request.sockRequest.command.repc (arpSetBpf k.calls) := by
  obtain ⟨request, calls⟩ := k
  cases request with
  | basic => rfl
  | defense clientAddr clientMac => rfl

end Ndhc
