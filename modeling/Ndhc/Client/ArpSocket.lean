import Ndhc.Client.Conflict

/-!
# The ARP socket and its filter

sockd makes the ARP socket, attaches a BPF program to it and locks it, and tells ndhc by a reply
character whether both went well; `arp_packet_get` then leaves the checks of a frame to the
kernel.  The socket a descriptor stands for is an `ArpSocket`, with the kernel's answers to the
two calls; frames reach the client through its program if there is one.  Over a run `using_bpf` is
what was reported for the socket in use (`run_reported`).  `arp_set_bpf_basic` and
`arp_set_bpf_defense` test the truth value of a comparison where they mean to test whether
attaching failed, so a socket whose program was not attached can be reported as filtered
(`acted_on_validated_iff`).
-/

namespace Ndhc

open Prog Bytes Bpf

/-! ## sockd -/

/-- How the kernel took `SO_ATTACH_FILTER` and `SO_LOCK_FILTER`. -/
structure FilterCalls where
  attached : Bool
  locked : Bool
  deriving DecidableEq, Repr

/-- What `setsockopt` returns. -/
def setsockopt (ok : Bool) : Int := if ok then 0 else -1

/-- What `arp_set_bpf_basic` and `arp_set_bpf_defense` do with their program. -/
def arpSetBpf (calls : FilterCalls) : Bool :=
  -- `ret` is assigned the truth value of `setsockopt(...) != -1`
  let ret : Int := if setsockopt calls.attached ≠ -1 then 1 else 0
  if 0 ≤ ret then
    let ret := setsockopt calls.locked
    decide (0 ≤ ret)
  else false

/-- The requests for an ARP socket: `"a"`, and `"d"` with address and hardware address. -/
inductive ArpRequest where
  | basic
  | defense (clientAddr : UInt32) (clientMac : Mac)

def ArpRequest.isDefense : ArpRequest → Bool
  | .basic => false
  | .defense _ _ => true

def ArpRequest.program (e : Endian) : ArpRequest → List Insn
  | .basic => arpSetBpfBasic
  | .defense clientAddr clientMac => arpSetBpfDefense e clientAddr clientMac

/-- A socket of `create_arp_basic_socket` or `create_arp_defense_socket`. -/
structure ArpSocket where
  request : ArpRequest
  calls : FilterCalls

/-- The reply of `execute_sockd`. -/
def ArpSocket.reply (k : ArpSocket) : Char :=
  match k.request with
  | .basic => if arpSetBpf k.calls then 'A' else 'a'
  | .defense _ _ => if arpSetBpf k.calls then 'D' else 'd'

/-- `using_bpf` as `get_arp_basic_socket` and `get_arp_defense_socket` read the reply; any other
reply ends the process. -/
def usingBpfOf (defense : Bool) (resp : Char) : Option Bool :=
  if defense then
    if resp = 'D' then some true else if resp = 'd' then some false else none
  else if resp = 'A' then some true else if resp = 'a' then some false else none

/-- What a socket lets through of a frame: as many octets as its program returns. -/
def ArpSocket.deliver (e : Endian) (k : ArpSocket) (frame : List UInt8) : Option (List UInt8) :=
  if k.calls.attached then
    if Bpf.filter (k.request.program e) frame = 0 then none
    else some (frame.take (Bpf.filter (k.request.program e) frame))
  else some frame

/-- The reply says what `arp_set_bpf_*` returned. -/
theorem usingBpfOf_reply (k : ArpSocket) :
    usingBpfOf k.request.isDefense k.reply = some (arpSetBpf k.calls) := by
  obtain ⟨request, calls⟩ := k
  cases request with
  | basic => cases h : arpSetBpf calls <;> simp [usingBpfOf, ArpSocket.reply, ArpRequest.isDefense, h]
  | defense addr mac =>
    cases h : arpSetBpf calls <;> simp [usingBpfOf, ArpSocket.reply, ArpRequest.isDefense, h]

/-- The test for a failed attach never fails. -/
theorem arpSetBpf_eq_locked (calls : FilterCalls) : arpSetBpf calls = calls.locked := by
  obtain ⟨attached, locked⟩ := calls
  cases attached <;> cases locked <;> rfl

/-! ## The programs -/

theorem basicFilter_pos_iff (f : List UInt8) (hf : ARP_MSG_SIZE ≤ f.length) :
    0 < Bpf.filter arpSetBpfBasic f ↔ slice f 12 8 = arpHeader := by
  rw [← arpHeader_eq_iff f hf]
  unfold ARP_MSG_SIZE at hf
  unfold Bpf.filter arpSetBpfBasic arpHeaderTests
  simp only [List.cons_append, List.nil_append]
  rw [run_ldAbs _ _ _ _ _ (by simp only [Size.bytes]; omega), run_expect,
    run_ldAbs _ _ _ _ _ (by simp only [Size.bytes]; omega), run_expect, run_retK]
  simp only [Size.bytes]
  by_cases h12 : be (slice f 12 4) = ETH_P_ARP <<< 16 ||| ARPHRD_ETHER
  · by_cases h16 : be (slice f 16 4) = ETH_P_IP <<< 16 ||| 0x0604 <;> simp [h12, h16]
  · simp [h12]

/-- Either program lets through only frames with an ARP header. -/
theorem program_header (e : Endian) (request : ArpRequest) (f : List UInt8)
    (hf : ARP_MSG_SIZE ≤ f.length) (h : Bpf.filter (request.program e) f ≠ 0) :
    slice f 12 8 = arpHeader := by
  have hpos := Nat.pos_of_ne_zero h
  cases request with
  | basic => exact (basicFilter_pos_iff f hf).mp hpos
  | defense addr mac => exact ((defenseFilter_pos_iff e addr mac f hf).mp hpos).1

/-- What comes through an attached program has an ARP header. -/
theorem ArpSocket.deliver_header (e : Endian) (k : ArpSocket) (frame f : List UInt8)
    (hattached : k.calls.attached = true) (h : k.deliver e frame = some f)
    (hf : ARP_MSG_SIZE ≤ f.length) : slice f 12 8 = arpHeader := by
  unfold ArpSocket.deliver at h
  rw [if_pos hattached] at h
  split at h
  · cases h
  · next hpass =>
    have hframe : f = frame.take (Bpf.filter (k.request.program e) frame) := (Option.some.inj h).symm
    have hlen := hf
    rw [hframe, List.length_take] at hlen
    have hheader := program_header e k.request frame (le_trans hlen (min_le_right _ _)) hpass
    rw [← hheader, hframe]
    unfold ARP_MSG_SIZE at hlen
    conv_rhs => rw [← List.take_append_drop (Bpf.filter (k.request.program e) frame) frame]
    rw [slice_append_left _ _ _ _ (by rw [List.length_take]; omega)]

/-! ## The socket in use -/

/-- The places that ask for an ARP socket. -/
def Site.opensArp : Site → Bool
  | .arpCheckOpen => true
  | .gwHwaddrOpen => true
  | .defenseMode => true
  | .gwQueryOpen => true
  | .gwSuccessOpen => true
  | .gwCheckOpen => true
  | .arpReopen => true
  | _ => false

class ArpSite (site : Site) : Prop where
  opens : site.opensArp = true

instance : ArpSite .arpCheckOpen := ⟨rfl⟩
instance : ArpSite .gwHwaddrOpen := ⟨rfl⟩
instance : ArpSite .defenseMode := ⟨rfl⟩
instance : ArpSite .gwQueryOpen := ⟨rfl⟩
instance : ArpSite .gwSuccessOpen := ⟨rfl⟩
instance : ArpSite .gwCheckOpen := ⟨rfl⟩
instance : ArpSite .arpReopen := ⟨rfl⟩

/-- The ARP descriptor and what is noted of its filter. -/
@[reducible] def socket (s : Sys) : Int × Bool := (s.cs.arpFd, s.garp.usingBpf)

/-- The socket is closed, or what sockd answers is taken. -/
inductive SocketMove (env : Env) (a b : Int × Bool) : Prop
  | close (h : b.1 = -1)
  | take (site : Site) (hsite : site.opensArp = true) (h : env.sockd site = some b)

/-- A program changes the socket only so. -/
abbrev MovesSocket {α : Type} (env : Env) (m : M α) : Prop := Moves socket (SocketMove env) m

section
variable {α : Type} (env : Env) (cfg : ClientConfig) (inp : Input) (site : Site) (nowts : Int)

instance : MovesSocket env (suicide : M α) := ⟨fun _ => .refl⟩

instance (o : Option α) : MovesSocket env (ask o) := by
  cases o <;> (unfold ask; infer_instance)

instance (e : Effect) : MovesSocket env (emit e) := ⟨fun _ => .refl⟩

instance (l : Label) : MovesSocket env (goto l : M α) := ⟨fun _ => .refl⟩

instance (code : Int) (pc : Pc) : MovesSocket env (scrReturn code pc : M α) := ⟨fun _ => .refl⟩

instance (m : Sent) : MovesSocket env (sendDhcp env site m) := by
  unfold sendDhcp
  infer_instance

instance : MovesSocket env (startDhcpListen env site) := by
  unfold startDhcpListen
  infer_instance

instance : MovesSocket env stopDhcpListen := by
  unfold stopDhcpListen
  infer_instance

instance : MovesSocket env arpMinCloseFd where
  ends s := by
    unfold arpMinCloseFd
    rw [wp_bind, wp_get, wp_ite]
    split
    · exact .refl
    · exact .single (.close rfl)

instance (defense : Bool) [hsite : ArpSite site] : MovesSocket env (arpOpenFd env site defense) where
  ends s := by
    unfold arpOpenFd
    rw [wp_bind, wp_get, wp_ite]
    split
    · exact .refl
    · rw [wp_bind]
      refine wp_mono _ _ s _ _ _ (Moves.ends (f := socket) (r := SocketMove env) s) (fun _ t ht => ?_)
        (fun _ _ ht => ht)
      rw [wp_bind]
      cases hr : env.sockd site with
      | none => exact ht
      | some r =>
        have htake : Relation.ReflTransGen (SocketMove env) (socket s) r :=
          ht.tail (.take site hsite.opens hr)
        show wp (if r.1 < 0 then pure (-1) else pure 0) _ _ _
        rw [wp_ite]
        split
        · exact htake
        · exact htake

/-! ### Messages and pings -/

instance (sip dip : UInt32) : MovesSocket env (arpSend env site sip dip) := by
  unfold arpSend
  infer_instance

instance (testIp : UInt32) : MovesSocket env (arpPing env site testIp) := by
  unfold arpPing
  infer_instance

instance (testIp : UInt32) : MovesSocket env (arpIpAnonPing env testIp) := by
  unfold arpIpAnonPing
  infer_instance

instance : MovesSocket env (arpAnnouncement env site) := by
  unfold arpAnnouncement
  infer_instance

instance (replied : Bool) (testIp : UInt32) : MovesSocket env (pingUnless env replied site testIp) := by
  unfold pingUnless
  infer_instance

/-! ### The functions of arp.c -/

instance (packet : DhcpMsg) : MovesSocket env (arpCheck env cfg packet) := by
  unfold arpCheck
  infer_instance

instance : MovesSocket env (arpDoCollisionCheck env cfg) := by
  unfold arpDoCollisionCheck sendDecline
  infer_instance

instance (packet : DhcpMsg) : MovesSocket env (ifchangeBind env packet) := by
  unfold ifchangeBind
  infer_instance

set_option synthInstance.maxSize 256 in
instance : MovesSocket env (arpLeaseObtained env cfg) := by
  unfold arpLeaseObtained
  infer_instance

instance : MovesSocket env (arpCollisionTimeout env cfg nowts) := by
  unfold arpCollisionTimeout
  infer_instance

instance : MovesSocket env (arpAnnounce env) := by
  unfold arpAnnounce
  infer_instance

instance : MovesSocket env (arpDoDefense env cfg) := by
  unfold arpDoDefense sendRelease
  infer_instance

instance : MovesSocket env (gwCheckPings env) := by
  unfold gwCheckPings gwCheckRouter
  infer_instance

instance : MovesSocket env (arpGwCheck env) := by
  unfold arpGwCheck
  infer_instance

instance : MovesSocket env (gwHwaddrPings env) := by
  unfold gwHwaddrPings gwHwaddrRouter
  infer_instance

instance : MovesSocket env (arpGetGwHwaddr env) := by
  unfold arpGetGwHwaddr
  infer_instance

instance : MovesSocket env (arpQueryGateway env) := by
  unfold arpQueryGateway
  infer_instance

instance : MovesSocket env (gwQueryDone env) := by
  unfold gwQueryDone
  infer_instance

instance : MovesSocket env (gwQueryServer env) := by
  unfold gwQueryServer
  infer_instance

instance : MovesSocket env (arpDoGwQuery env cfg) := by
  unfold arpDoGwQuery
  infer_instance

instance : MovesSocket env (arpGwSuccess env) := by
  unfold arpGwSuccess
  infer_instance

instance : MovesSocket env (gwCheckServer env) := by
  unfold gwCheckServer
  infer_instance

instance : MovesSocket env (arpDoGwCheck env cfg) := by
  unfold arpDoGwCheck
  infer_instance

instance : MovesSocket env (arpGwQueryTimeout env nowts) := by
  unfold arpGwQueryTimeout
  infer_instance

instance : MovesSocket env (arpGwCheckTimeout env nowts) := by
  unfold arpGwCheckTimeout
  infer_instance

/-! ### The state machine -/

instance : MovesSocket env reinitSharedDeconfig := by
  unfold reinitSharedDeconfig arpResetState arpCloseFd
  infer_instance

instance (timeout : Int) : MovesSocket env (reinitSelecting env timeout) := by
  unfold reinitSelecting
  infer_instance

instance (timeout : Int) : MovesSocket env (restart env timeout : M α) := by
  unfold restart
  infer_instance

instance : MovesSocket env printRelease := by
  unfold printRelease
  infer_instance

instance : MovesSocket env (onRelease inp) := by
  unfold onRelease
  infer_instance

instance (isBound : Bool) : MovesSocket env (frenew env isBound) := by
  unfold frenew sendRenew
  infer_instance

instance (packet : DhcpMsg) : MovesSocket env (getLeasetime env packet) := ⟨fun _ => .refl⟩

instance (packet : DhcpMsg) (msgtype : UInt8) (srcaddr : UInt32) (isRequesting : Bool) :
    MovesSocket env (selectingPacket env packet msgtype srcaddr isRequesting) := by
  unfold selectingPacket selectingOffer selectingAck noteServer
  cases getOptionServerid packet <;> infer_instance

instance : MovesSocket env (selectingTimeout env cfg nowts) := by
  unfold selectingTimeout onNoLease freshXid sendDiscover awaitReply
  infer_instance

instance (pc : Pc) : MovesSocket env (requestTimer env inp pc) := by
  unfold requestTimer requestingTimeout sendSelecting awaitReply
  infer_instance

instance (packet : DhcpMsg) (msgtype : UInt8) : MovesSocket env (extendPacket env packet msgtype) := by
  unfold extendPacket arpSetDefenseMode
  infer_instance

instance (send : M Int) (limit : ClientState → Int) [MovesSocket env send] :
    MovesSocket env (requestExtension env site send limit nowts) := by
  unfold requestExtension
  infer_instance

instance : MovesSocket env (rebindingTimeout env nowts) := by
  unfold rebindingTimeout sendRebind
  infer_instance

instance : MovesSocket env (renewingTimeout env nowts) := by
  unfold renewingTimeout sendRenew
  infer_instance

instance : MovesSocket env (leaseTimeout env nowts) := by
  unfold leaseTimeout boundTimeout
  infer_instance

instance : MovesSocket env (selectingPass env cfg inp) := by
  unfold selectingPass selectingDhcp selectingTimer
  infer_instance

instance : MovesSocket env (reinitPass env cfg inp) := by
  unfold reinitPass
  infer_instance

instance : MovesSocket env (requestingPass env cfg inp) := by
  unfold requestingPass requestingDhcp
  infer_instance

instance : MovesSocket env (probingArp env cfg inp) := by
  unfold probingArp
  infer_instance

instance : MovesSocket env (probingArpTimeout env cfg inp) := by
  unfold probingArpTimeout
  infer_instance

instance : MovesSocket env (probingPass env cfg inp) := by
  unfold probingPass
  infer_instance

instance : MovesSocket env (releasedPass env inp) := by
  unfold releasedPass
  infer_instance

instance : MovesSocket env (boundSignal env inp) := by
  unfold boundSignal xmitRelease sendRelease
  infer_instance

instance : MovesSocket env (boundDhcp env cfg inp) := by
  unfold boundDhcp
  infer_instance

instance : MovesSocket env (gwLost env) := by
  unfold gwLost
  infer_instance

instance : MovesSocket env (boundArp env cfg inp) := by
  unfold boundArp boundDefense boundGwQuery boundGwCheck
  infer_instance

instance : MovesSocket env (boundAnnounce env inp) := by
  unfold boundAnnounce arpDefenseTimeout arpAnnounceTimeout
  infer_instance

instance : MovesSocket env (boundGwTimeout env inp) := by
  unfold boundGwTimeout arpQueryGatewayTimeout
  infer_instance

instance : MovesSocket env (boundArpTimeout env inp) := by
  unfold boundArpTimeout
  infer_instance

instance : MovesSocket env (ifchangeDeconfig env) := by
  unfold ifchangeDeconfig
  infer_instance

instance : MovesSocket env (boundIfup env inp) := by
  unfold boundIfup ifupAction
  infer_instance

instance : MovesSocket env (boundTimer env inp) := by
  unfold boundTimer
  infer_instance

instance : MovesSocket env (boundPass env cfg inp) := by
  unfold boundPass
  infer_instance

instance (pc : Pc) : MovesSocket env (resume env cfg inp pc) := by
  cases pc <;> (unfold resume; infer_instance)

instance (l : Label) : MovesSocket env (target env cfg inp l) := by
  cases l <;> (unfold target; infer_instance)

instance (n : Nat) (m : M Unit) [hm : MovesSocket env m] : MovesSocket env (follow env cfg inp n m) := by
  induction n generalizing m with
  | zero => exact hm
  | succ n ih =>
    refine ⟨fun s => ?_⟩
    rw [wp_follow]
    refine wp_mono _ _ s m _ _ (hm.ends s) (fun _ _ ht => ht) (fun e t ht => ?_)
    cases e with
    | ret code => exact ht
    | exit => exact ht
    | goto l =>
      have hl := (ih (target env cfg inp l)).ends t
      exact wp_mono _ _ t _ _ _ hl (fun _ _ hu => ht.trans hu) (fun _ _ hu => ht.trans hu)

instance : MovesSocket env (dhcpHandle env cfg inp) := by
  unfold dhcpHandle
  infer_instance

instance (stale : ArpMsg) (rd : ReadResult) : MovesSocket env (arpPacketGet env cfg stale rd) := by
  cases rd <;> (unfold arpPacketGet; infer_instance)

instance (ck : NetChecksum) (rd : ReadResult) (buf : DhcpMsg) :
    MovesSocket env (dhcpPacketGet env cfg ck rd buf) := by
  unfold dhcpPacketGet
  infer_instance

end

/-! ## Runs -/

section
variable (e : Endian) (cfg : ClientConfig) (sock : Int → ArpSocket)

/-- Each descriptor sockd hands out for ARP stands for its socket, and came with that socket's
reply. -/
def Serves (env : Env) : Prop :=
  ∀ site fd bpf, site.opensArp = true → env.sockd site = some (fd, bpf) → 0 ≤ fd →
    usingBpfOf (sock fd).request.isDefense (sock fd).reply = some bpf

def Step.Served : Step → Prop
  | .idle => True
  | .exit => True
  | .arp env _ _ => Serves sock env
  | .dhcp env _ _ _ => Serves sock env
  | .handle env _ => Serves sock env

/-- What is noted of the socket in use is what `arp_set_bpf_*` returned for it. -/
def Reported (a : Int × Bool) : Prop := 0 ≤ a.1 → a.2 = arpSetBpf (sock a.1).calls

theorem Serves.keeps (env : Env) (h : Serves sock env) (a b : Int × Bool) (hmove : SocketMove env a b)
    (_ : Reported sock a) : Reported sock b := by
  intro hb
  cases hmove with
  | close hclosed => omega
  | take site hsite hans =>
    have hreply := h site b.1 b.2 hsite hans hb
    rw [usingBpfOf_reply] at hreply
    exact (Option.some.inj hreply).symm

theorem final_reported {α : Type} (env : Env) (m : M α) [MovesSocket env m] (h : Serves sock env)
    (s : Sys) (hs : Reported sock (socket s)) : Reported sock (socket (final m s)) :=
  final_of_wp m s (fun t => Reported sock (socket t))
    (Moves.keeps socket (SocketMove env) m (Reported sock) (h.keeps sock env) s hs)

theorem Step.reported (st : Step) (h : st.Served sock) (s : Sys) (hs : Reported sock (socket s)) :
    Reported sock (socket (st.next cfg s)) := by
  cases st with
  | idle => exact hs
  | exit => exact hs
  | arp env stale rd => exact final_reported sock env (arpPacketGet env cfg stale rd) h _ hs
  | dhcp env ck rd buf => exact final_reported sock env (dhcpPacketGet env cfg ck rd buf) h _ hs
  | handle env inp => exact final_reported sock env (dhcpHandle env cfg inp) h _ hs

/-- **`using_bpf` is the report for the socket in use**, in every run. -/
theorem run_reported (b : Startup) (steps : List Step) (h : ∀ st ∈ steps, st.Served sock) :
    Reported sock (socket (run cfg steps (.start b))) := by
  have key : ∀ s, Reported sock (socket s) → Reported sock (socket (run cfg steps s)) := by
    induction steps with
    | nil => exact fun s hs => hs
    | cons st steps ih =>
      intro s hs
      exact ih (fun x hx => h x (List.mem_cons_of_mem _ hx)) _
        (st.reported cfg sock (h st List.mem_cons_self) s hs)
  exact key _ fun hfd => absurd hfd (by decide : ¬ (0 : Int) ≤ -1)

/-! ## Frames -/

/-- When `arp_packet_get` returns true, the frame is long enough, and it passed the checks unless
the kernel is said to make them. -/
theorem arpPacketGet_true (env : Env) (stale : ArpMsg) (f : List UInt8) (s t : Sys)
    (h : arpPacketGet env cfg stale (.data f) s = .ok true t) :
    ARP_MSG_SIZE ≤ f.length ∧ t.garp.reply = stale.recv f ∧
      (s.garp.usingBpf = true ∨ arpValidateBpf (stale.recv f) ≠ 0) := by
  have hwp : wp (arpPacketGet env cfg stale (.data f))
      (fun r t => r = true → ARP_MSG_SIZE ≤ f.length ∧ t.garp.reply = stale.recv f ∧
        (s.garp.usingBpf = true ∨ arpValidateBpf (stale.recv f) ≠ 0)) (fun _ _ => True) s := by
    unfold arpPacketGet
    rw [wp_bind, wp_get, wp_ite]
    split
    · intro hr
      cases hr
    · next hlen =>
      rw [wp_ite]
      split
      · intro hr
        cases hr
      · next hpass =>
        intro _
        refine ⟨by omega, rfl, ?_⟩
        by_contra hno
        rw [not_or, ne_eq, not_not, Bool.not_eq_true] at hno
        exact hpass ⟨by rw [hno.1]; rfl, Or.inl hno.2⟩
  unfold wp at hwp
  rw [h] at hwp
  exact hwp rfl

theorem arpValidateBpf_zero_or_one (am : ArpMsg) (h : arpValidateBpf am ≠ 0) : arpValidateBpf am = 1 := by
  revert h
  unfold arpValidateBpf
  split_ifs <;> simp

/-- Every frame that `arp_packet_get` accepts from a socket is long enough and passes
`arp_validate_bpf`. -/
def Validated (s : Sys) : Prop :=
  ∀ (env : Env) (stale : ArpMsg) (frame f : List UInt8) (t : Sys),
    (sock s.cs.arpFd).deliver e frame = some f →
    arpPacketGet env cfg stale (.data f) s = .ok true t →
    ARP_MSG_SIZE ≤ f.length ∧ arpValidateBpf t.garp.reply = 1

/-- The socket in use is reported as filtered only if the program was attached and locked. -/
def ReportedTruly (s : Sys) : Prop :=
  usingBpfOf (sock s.cs.arpFd).request.isDefense (sock s.cs.arpFd).reply = some true →
    (sock s.cs.arpFd).calls.attached = true ∧ (sock s.cs.arpFd).calls.locked = true

/-- **Frames acted on are validated**, and filtered sockets truly reported, exactly if the program
was attached to the socket in use or could not be locked. -/
theorem acted_on_validated_iff (b : Startup) (steps : List Step) (h : ∀ st ∈ steps, st.Served sock)
    (hopen : 0 ≤ (run cfg steps (.start b)).cs.arpFd) :
    (Validated e cfg sock (run cfg steps (.start b)) ∧ ReportedTruly sock (run cfg steps (.start b))) ↔
      (sock (run cfg steps (.start b)).cs.arpFd).calls.attached = true ∨
        (sock (run cfg steps (.start b)).cs.arpFd).calls.locked = false := by
  have hbpf := run_reported cfg sock b steps h hopen
  generalize run cfg steps (.start b) = s at hbpf ⊢
  have hlocked : s.garp.usingBpf = (sock s.cs.arpFd).calls.locked :=
    hbpf.trans (arpSetBpf_eq_locked _)
  unfold ReportedTruly
  rw [usingBpfOf_reply, arpSetBpf_eq_locked]
  constructor
  · rintro ⟨-, htrue⟩
    cases hl : (sock s.cs.arpFd).calls.locked with
    | false => exact Or.inr rfl
    | true =>
      rw [hl] at htrue
      exact Or.inl (htrue rfl).1
  · intro hgood
    refine ⟨fun env stale frame f t hdel hget => ?_, fun hsome => ?_⟩
    · obtain ⟨hlen, hreply, hchecked⟩ := arpPacketGet_true cfg env stale f s t hget
      refine ⟨hlen, ?_⟩
      rw [hreply]
      rcases hchecked with husing | hvalid
      · -- the kernel checked: it had the program
        have hattached : (sock s.cs.arpFd).calls.attached = true :=
          hgood.resolve_right (by rw [← hlocked, husing]; decide)
        rw [arpValidateBpf_iff, ArpMsg.slice_recv]
        · exact ArpSocket.deliver_header e _ frame f hattached hdel hlen
        · unfold ARP_MSG_SIZE at hlen
          omega
        · decide
      · exact arpValidateBpf_zero_or_one _ hvalid
    · have hl := Option.some.inj hsome
      exact ⟨hgood.resolve_right (by rw [hl]; decide), hl⟩

end

/-! ## A socket without its filter -/

/-- Every descriptor stands for a basic socket with the given answers of the kernel. -/
def basicSocket (calls : FilterCalls) (_ : Int) : ArpSocket := ⟨.basic, calls⟩

theorem probingRun_served (calls : FilterCalls) (hlocked : calls.locked = true) :
    ∀ st ∈ probingRun, st.Served (basicSocket calls) := by
  have hserves : Serves (basicSocket calls) calmEnv := by
    intro site fd bpf _ hans _
    rw [usingBpfOf_reply, arpSetBpf_eq_locked]
    show some calls.locked = some bpf
    rw [hlocked]
    exact congrArg some (congrArg Prod.snd (Option.some.inj hans))
  intro st hst
  simp only [probingRun, List.mem_cons, List.not_mem_nil, or_false] at hst
  rcases hst with rfl | rfl | rfl | rfl | rfl
  all_goals exact hserves

theorem filtered_frames_validated :
    Validated .little exampleConfig (basicSocket ⟨true, true⟩) probingState ∧
      ReportedTruly (basicSocket ⟨true, true⟩) probingState :=
  (acted_on_validated_iff .little exampleConfig (basicSocket ⟨true, true⟩)
    ⟨0, false, false, 3, true, by decide⟩ probingRun (probingRun_served _ rfl) (by decide +kernel)).mpr
    (Or.inl rfl)

/-- Attaching fails and locking does not: the socket passes a frame of zeros, is reported as
filtered, and the frame is accepted unchecked. -/
theorem unfiltered_frame_accepted :
    (∀ st ∈ probingRun, st.Served (basicSocket ⟨false, true⟩)) ∧
      ¬ ReportedTruly (basicSocket ⟨false, true⟩) probingState ∧
      (basicSocket ⟨false, true⟩ probingState.cs.arpFd).deliver .little (List.replicate 42 0) =
        some (List.replicate 42 0) ∧
      wp (arpPacketGet calmEnv exampleConfig .zero (.data (List.replicate 42 0)))
        (fun r t => r = true ∧ arpValidateBpf t.garp.reply = 0) (fun _ _ => False) probingState := by
  refine ⟨probingRun_served _ rfl, fun h => absurd (h (by decide)).1 (by decide), by decide, ?_⟩
  unfold arpPacketGet
  rw [wp_bind, wp_get, wp_ite, if_neg (by decide), wp_ite, if_neg (by decide +kernel)]
  exact ⟨rfl, by decide +kernel⟩

end Ndhc
