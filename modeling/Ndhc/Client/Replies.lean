import Ndhc.Client.Datagram
import Ndhc.Client.Handshake
import Ndhc.Filter.DhcpFilter
import Ndhc.Wire.Accept

/-!
# A well-formed reply is heard

What the checks between the wire and `dhcp_handle` let through: the filter of the listen socket,
`get_raw_packet`, `validate_dhcp_packet` and the main loop.  A server is free in the header of IP,
in whether it sums up UDP, in the options and their order and in what it puts behind the END.
Whatever it chooses, a reply to this client and to its transaction that does not overload its fields
is handed to the state machine with its type, and the fields and options found in the reused buffer
are its own (`replies_heard`).
-/

namespace Ndhc

open Bytes Prog Tlv

/-! ## Datagrams of a server -/

/-- What a server is free to choose in the headers. -/
structure ReplyHeaders where
  tos : UInt8
  id : UInt16
  dontFragment : Bool
  ttl : UInt8
  saddr : UInt32
  daddr : UInt32
  udpSummed : Bool

namespace ReplyHeaders

variable (h : ReplyHeaders)

def addresses : List UInt8 := htonl h.saddr ++ htonl h.daddr

/-- A header of IP without options, not of a fragment. -/
def ip (totLen : Nat) (check : List UInt8) : List UInt8 :=
  [0x45, h.tos] ++ htons totLen ++ htons h.id.toNat ++
    [if h.dontFragment then 0x40 else 0, 0, h.ttl, IPPROTO_UDP] ++ check ++ h.addresses

def udp (len : Nat) (check : List UInt8) : List UInt8 :=
  htons DHCP_SERVER_PORT ++ htons DHCP_CLIENT_PORT ++ htons len ++ check

/-- The words of the pseudo header, whose order does not matter, as the receiver has them. -/
def pseudo (len : Nat) : List UInt8 := [0, 0] ++ htons len ++ [0, 0, 0, 0, 0, IPPROTO_UDP, 0, 0] ++ h.addresses

/-- A payload in a datagram. -/
def datagram (e : Endian) (ck : NetChecksum) (payload : List UInt8) : List UInt8 :=
  let len := 8 + payload.length
  let ipCheck := stored16 e (ck.sum (h.ip (20 + len) [0, 0]))
  let udpCheck := stored16 e (ck.add (ck.sum (udp len [0, 0] ++ payload)) (ck.sum (h.pseudo len)))
  h.ip (20 + len) ipCheck ++ (udp len (if h.udpSummed then udpCheck else [0, 0]) ++ payload)

section
variable (a b c d : UInt8) (body dgram : List UInt8)
  (hd : dgram = h.ip (20 + (8 + body.length)) [a, b] ++ (udp (8 + body.length) [c, d] ++ body))
  (hlen : body.length ≤ dhcpmsgSize)
include hd

theorem length_dgram : dgram.length = 28 + body.length := by
  rw [hd]
  show body.length + 28 = _
  omega

include hlen

theorem dgram_tests : commonTests dgram ∧ kernelTests dgram ∧ be (slice dgram 2 2) = 28 + body.length := by
  have hsize : dhcpmsgSize = 548 := rfl
  have htot : be (slice dgram 2 2) = 28 + body.length := by
    rw [hd]
    show be (htons _) = _
    rw [be_htons _ (by omega)]
    omega
  have hudp : be (slice dgram 24 2) = 8 + body.length := by
    rw [hd]
    exact be_htons _ (by omega)
  have hfrom : be (slice dgram 20 2) = DHCP_SERVER_PORT := by
    rw [hd]
    exact be_htons _ (by decide)
  have hto : be (slice dgram 22 2) = DHCP_CLIENT_PORT := by
    rw [hd]
    exact be_htons _ (by decide)
  refine ⟨⟨by rw [hd]; rfl, by rw [hd]; rfl, hto, by omega⟩, ⟨?_, hfrom⟩, htot⟩
  rw [hd]
  show be [if h.dontFragment then 0x40 else 0, 0] &&& 0x3fff = 0
  cases h.dontFragment <;> rfl

/-- The checks of `get_raw_packet` are passed, with the filter in the kernel or without. -/
theorem rawPayload_dgram (ck : NetChecksum) (bpf : Bool) (hpos : 0 < body.length)
    (hip : ck.sum (h.ip (20 + (8 + body.length)) [a, b]) = 0)
    (hudp : [c, d] = [0, 0] ∨
      ck.add (ck.sum (udp (8 + body.length) [c, d] ++ body)) (ck.sum (h.pseudo (8 + body.length))) = 0) :
    rawPayload ck bpf dgram = some (body, h.saddr) := by
  have hsizes : iphdrSize = 20 ∧ udphdrSize = 8 ∧ dhcpmsgSize = 548 ∧ iudpSize = 576 := ⟨rfl, rfl, rfl, rfl⟩
  have hdlen := length_dgram h a b c d body dgram hd
  obtain ⟨hcommon, -, htot⟩ := dgram_tests h a b c d body dgram hd hlen
  have hslice (off len : Nat) (h : off + len ≤ 28 + body.length) :
      slice (IpUdpDhcpPacket.recv dgram).bytes off len = slice dgram off len :=
    IpUdpDhcpPacket.slice_recv dgram off len (by omega) (by omega)
  have hlenBytes : slice (IpUdpDhcpPacket.recv dgram).bytes 24 2 = htons (8 + body.length) := by
    rw [hslice 24 2 (by omega), hd]
    rfl
  have hsaddr : (IpUdpDhcpPacket.recv dgram).saddr = htonl h.saddr := (hslice 12 4 (by omega)).trans (by rw [hd]; rfl)
  have hpseudo : pseudoHeader (IpUdpDhcpPacket.recv dgram) = h.pseudo (8 + body.length) := by
    have hproto : (IpUdpDhcpPacket.recv dgram).protocol = IPPROTO_UDP :=
      (IpUdpDhcpPacket.at0_recv dgram 9 (by omega) (by decide)).trans (by rw [hd]; rfl)
    have hdaddr : (IpUdpDhcpPacket.recv dgram).daddr = htonl h.daddr :=
      (hslice 16 4 (by omega)).trans (by rw [hd]; rfl)
    rw [pseudoHeader, hlenBytes, hproto, hsaddr, hdaddr]
    rfl
  have hbody : slice dgram 28 body.length = body := by
    rw [hd, ← List.append_assoc]
    exact (slice_append_right _ body 28 0 _ rfl).trans (slice_self _ _ rfl)
  have hcheck : (IpUdpDhcpPacket.recv dgram).udpCheck = be [c, d] :=
    congrArg be ((hslice 26 2 (by omega)).trans (by rw [hd]; rfl))
  have hudpLen : (IpUdpDhcpPacket.recv dgram).udpLen = 8 + body.length :=
    (congrArg be hlenBytes).trans (be_htons _ (by omega))
  have htotLen : (IpUdpDhcpPacket.recv dgram).totLen = 28 + body.length :=
    (congrArg be (hslice 2 2 (by omega))).trans htot
  have hipOk : ipChecksum ck (IpUdpDhcpPacket.recv dgram) = true := by
    unfold ipChecksum
    rw [hslice 0 iphdrSize (by omega), hd]
    exact beq_iff_eq.mpr hip
  have hudpOk : [c, d] = [0, 0] ∨ udpChecksum ck (IpUdpDhcpPacket.recv dgram) = true := by
    refine hudp.imp_right fun hsum => ?_
    unfold udpChecksum
    rw [hudpLen, Nat.min_eq_left (by omega), hslice iphdrSize _ (by omega), hpseudo, hd]
    have hfrom := slice_append_right (h.ip (20 + (8 + body.length)) [a, b]) (udp (8 + body.length) [c, d] ++ body) 20 0
      (8 + body.length) rfl
    rw [slice_self _ _ (by show body.length + 8 = _; omega)] at hfrom
    exact beq_iff_eq.mpr ((congrArg (fun x => ck.add (ck.sum x) _) hfrom).trans hsum)
  unfold rawPayload
  simp only [htotLen, hipOk, (validate_iff dgram (by omega)).mpr hcommon, hcheck]
  rw [if_neg (by omega), if_neg (by simp), if_neg (by simp), if_neg (by omega), if_neg (by omega), if_neg]
  · rw [hslice _ _ (by omega), show 28 + body.length - iphdrSize - udphdrSize = body.length by omega, hsaddr,
      word32_htonl]
    exact congrArg some (Prod.ext hbody rfl)
  · rcases hudpOk with hzero | hsum
    · rw [hzero]
      simp [be]
    · simp [hsum]

end

/-- What the listen socket hands over of a datagram, and what `get_raw_packet` makes of it. -/
theorem datagram_passes (e : Endian) (ck : NetChecksum) (hck : InternetChecksum e ck) (payload : List UInt8)
    (hpos : 0 < payload.length) (hlen : payload.length ≤ dhcpmsgSize) :
    (0 < Bpf.filter sfDhcp (h.datagram e ck payload) ∧
      (h.datagram e ck payload).take (Bpf.filter sfDhcp (h.datagram e ck payload)) = h.datagram e ck payload) ∧
      ∀ bpf, rawPayload ck bpf (h.datagram e ck payload) = some (payload, h.saddr) := by
  obtain ⟨a, b, hab⟩ := stored16_pair e (ck.sum (h.ip (20 + (8 + payload.length)) [0, 0]))
  obtain ⟨c, d, hcd⟩ := stored16_pair e
    (ck.add (ck.sum (udp (8 + payload.length) [0, 0] ++ payload)) (ck.sum (h.pseudo (8 + payload.length))))
  have hip : ck.sum (h.ip (20 + (8 + payload.length)) [a, b]) = 0 := by
    have hsum := sum_checked e ck hck ([0x45, h.tos] ++ htons (20 + (8 + payload.length)) ++ htons h.id.toNat ++
      [if h.dontFragment then 0x40 else 0, 0, h.ttl, IPPROTO_UDP]) h.addresses ⟨5, rfl⟩
    exact hab ▸ hsum
  have hudp : ck.add (ck.sum (udp (8 + payload.length) [c, d] ++ payload)) (ck.sum (h.pseudo (8 + payload.length))) = 0 := by
    have hsum := add_checked e ck hck (htons DHCP_SERVER_PORT ++ htons DHCP_CLIENT_PORT ++ htons (8 + payload.length))
      payload (h.pseudo (8 + payload.length)) ⟨3, rfl⟩
    exact hcd ▸ hsum
  obtain ⟨c', d', hd, hudp'⟩ : ∃ c' d', h.datagram e ck payload =
      h.ip (20 + (8 + payload.length)) [a, b] ++ (udp (8 + payload.length) [c', d'] ++ payload) ∧
      ([c', d'] = [0, 0] ∨ ck.add (ck.sum (udp (8 + payload.length) [c', d'] ++ payload))
        (ck.sum (h.pseudo (8 + payload.length))) = 0) := by
    unfold datagram
    simp only [hab, hcd]
    cases h.udpSummed with
    | false => exact ⟨0, 0, rfl, Or.inl rfl⟩
    | true => exact ⟨c, d, rfl, Or.inr hudp⟩
  have hdlen := length_dgram h a b c' d' payload _ hd
  obtain ⟨hcommon, hkernel, htot⟩ := dgram_tests h a b c' d' payload _ hd hlen
  refine ⟨?_, fun bpf => rawPayload_dgram h a b c' d' payload _ hd hlen ck bpf hpos hip hudp'⟩
  rw [sfDhcp_eq _ (by omega), if_pos ⟨hcommon, hkernel⟩, htot]
  exact ⟨by omega, List.take_of_length_le (by omega)⟩

end ReplyHeaders

/-! ## Messages of a server -/

/-- A message: the fields up to the cookie, the options, and what is behind the END. -/
structure ServerReply where
  fixed : List UInt8
  options : List (UInt8 × List UInt8)
  rest : List UInt8
  fixed_length : fixed.length = 236
  writable : Writable DCODE_PADDING DCODE_END options
  fits : 241 + (encode options).length + rest.length ≤ dhcpmsgSize

/-- The walk of `get_end_option_idx` finds the END behind written options. -/
theorem endWalk_encode (opts : List (UInt8 × List UInt8)) (h : Writable DCODE_PADDING DCODE_END opts)
    (rest : List UInt8) (i : Nat) : endWalk (encode opts ++ DCODE_END :: rest) 0 i ≠ none := by
  induction opts generalizing i with
  | nil => exact nofun
  | cons o opts ih =>
    obtain ⟨hpad, hstop, hlen⟩ := h o List.mem_cons_self
    have hbytes : encode (o :: opts) ++ DCODE_END :: rest =
        o.1 :: o.2.length.toUInt8 :: o.2 ++ (encode opts ++ DCODE_END :: rest) := by
      simp [encode]
    rw [hbytes, endWalk_option _ _ _ hpad hstop hlen]
    exact ih (fun o' ho' => h o' (List.mem_cons_of_mem _ ho')) _

theorem overloadBits_none (opts : List (UInt8 × List UInt8)) (h : ∀ o ∈ opts, o.1 ≠ DCODE_OVERLOAD) :
    overloadBits opts = 0 := by
  induction opts with
  | nil => rfl
  | cons o opts ih =>
    rw [overloadBits, List.foldr_cons, if_neg fun ho => h o List.mem_cons_self ho.1]
    exact ih fun o' ho' => h o' (List.mem_cons_of_mem _ ho')

namespace ServerReply

variable (r : ServerReply)

def payload : List UInt8 := r.fixed ++ htonl DHCP_MAGIC.toUInt32 ++ (encode r.options ++ DCODE_END :: r.rest)

/-- A reply of type `t` to this client in the transaction `xid`. -/
structure For (cfg : ClientConfig) (xid : UInt32) (t : UInt8) : Prop where
  xid_eq : slice r.fixed 4 4 = htonl xid
  chaddr : slice r.fixed 28 6 = cfg.arp.bytes
  msgtype : valueOf DCODE_MSGTYPE r.options = [t]
  msgtype_ne : t ≠ 0
  clientid : valueOf DCODE_CLIENT_ID r.options = [] ∨ valueOf DCODE_CLIENT_ID r.options = ownClientid cfg
  overload : ∀ o ∈ r.options, o.1 ≠ DCODE_OVERLOAD

theorem length_payload : r.payload.length = 241 + (encode r.options).length + r.rest.length := by
  simp only [payload, List.length_append, r.fixed_length, length_htonl, List.length_cons]
  omega

theorem payload_fits : r.payload.length ≤ dhcpmsgSize := r.length_payload ▸ r.fits

theorem drop_payload : r.payload.drop optionsOffset = encode r.options ++ DCODE_END :: r.rest := by
  apply List.drop_left'
  rw [List.length_append, r.fixed_length, length_htonl]
  rfl

theorem slice_payload (off len : Nat) (h : off + len ≤ 236) : slice r.payload off len = slice r.fixed off len := by
  rw [payload, List.append_assoc, slice_append_left _ _ _ _ (by rw [r.fixed_length]; exact h)]

/-- The message in a buffer that held another one. -/
def copied (b : DhcpMsg) : DhcpMsg := b.overlay r.payload r.payload_fits

variable (b : DhcpMsg)

theorem options_copied :
    (r.copied b).options = encode r.options ++ DCODE_END :: (r.rest ++ b.bytes.drop r.payload.length) := by
  have hlong := r.length_payload
  rw [copied, overlay_options _ _ _ (by rw [hlong, optionsOffset]; omega), drop_payload, List.append_assoc]
  rfl

variable {cfg : ClientConfig} {xid : UInt32} {t : UInt8} (hfor : r.For cfg xid t)
include hfor

theorem getDhcpOpt_copied (code : UInt8) : getDhcpOpt (r.copied b) code MAX_DOPT_SIZE = valueOf code r.options := by
  have hopts : fieldOptions (r.copied b).options = r.options := by
    rw [options_copied]
    exact parse_encode _ _ (by decide) _ r.writable _
  have hnone : referenceOverload (r.copied b) = 0 := by
    unfold referenceOverload
    rw [hopts, overloadBits_none _ hfor.overload]
    show 0 ||| overloadBits (fieldOptions []) = 0
    rw [fieldOptions, parse]
    rfl
  rw [getDhcpOpt_of_capacity _ _ _ (Nat.le_refl _), referenceOpt, hopts, hnone]
  simp

theorem validateDhcpPacket_copied : validateDhcpPacket cfg xid r.payload.length (r.copied b) = some t := by
  have hlong := r.length_payload
  have hhead : dhcpHeaderOk cfg xid r.payload.length (r.copied b) = true := by
    have hcookie : slice r.payload 236 4 = htonl DHCP_MAGIC.toUInt32 := by
      rw [payload, List.append_assoc]
      exact (slice_append_right _ _ 236 0 4 r.fixed_length).trans (slice_append_self _ _ 4 rfl)
    rw [copied, dhcpHeaderOk_overlay, payloadHeaderOk, hcookie, r.slice_payload 4 4 (by decide), hfor.xid_eq, word32_htonl,
      slice_slice _ _ _ _ _ (by decide), r.slice_payload 28 6 (by decide), hfor.chaddr]
    have hmagic : be (htonl DHCP_MAGIC.toUInt32) = DHCP_MAGIC := by
      rw [be_htonl]
      rfl
    simp only [hmagic, beq_self_eq_true, Bool.and_true, decide_eq_true_eq]
    rw [hlong, optionsOffset]
    omega
  have hend : getEndOptionIdx (r.copied b) ≠ none := by
    have hwalk := endWalk_encode r.options r.writable (r.rest ++ b.bytes.drop r.payload.length) 0
    rw [← options_copied] at hwalk
    exact hwalk
  have htype : getOptionMsgtype (r.copied b) = t := by
    rw [getOptionMsgtype, r.getDhcpOpt_copied b hfor, hfor.msgtype]
    rfl
  have hid : getOptionClientid (r.copied b) MAX_DOPT_SIZE = valueOf DCODE_CLIENT_ID r.options :=
    r.getDhcpOpt_copied b hfor DCODE_CLIENT_ID
  unfold validateDhcpPacket
  rw [if_neg (by rw [hhead]; decide), if_neg hend, htype, hid]
  simp only [if_neg hfor.msgtype_ne]
  split
  · rfl
  · next hsome =>
    rcases hfor.clientid with hnone | hown
    · exact absurd (by rw [hnone]; rfl) hsome
    · -- of our own identifier every beginning is one of the configured bytes
      rw [hown, ownClientid, List.take_take, Nat.min_eq_left (Nat.min_le_right _ _), if_neg (not_not_intro rfl)]

end ServerReply

/-! ## Through the loop -/

/-- **A well-formed reply is heard.**  In any state of a live client that listens, with the radio on
and the carrier up, a reply to its transaction passes the listen filter whole and is handed to
`dhcp_handle`, with its own type, fields and options, whatever the buffer held before. -/
theorem replies_heard (e : Endian) (ck : NetChecksum) (hck : InternetChecksum e ck) (cfg : ClientConfig)
    (h : ReplyHeaders) (r : ServerReply) (t : UInt8) (it : Iteration) (w : Work) (hfor : r.For cfg w.sys.cs.xid t)
    (hlive : w.sys.pc ≠ .dead) (hlisten : ¬ w.sys.cs.listenFd < 0) (hradio : w.rfkillSet = false)
    (hup : it.carrierIsup = true) (hev : it.event = .dhcp (.data (h.datagram e ck r.payload))) :
    (0 < Bpf.filter sfDhcp (h.datagram e ck r.payload) ∧
      (h.datagram e ck r.payload).take (Bpf.filter sfDhcp (h.datagram e ck r.payload)) = h.datagram e ck r.payload) ∧
    ∃ packet, Hands ck cfg it w t packet ∧
      (∀ code, getDhcpOpt packet code MAX_DOPT_SIZE = valueOf code r.options) ∧
      ∀ off len, off + len ≤ 236 → slice packet.bytes off len = slice r.fixed off len := by
  have hlong := r.length_payload
  obtain ⟨hfilter, hraw⟩ := h.datagram_passes e ck hck r.payload (by omega) r.payload_fits
  refine ⟨hfilter, r.copied w.dhcpPacket, ?_, r.getDhcpOpt_copied w.dhcpPacket hfor, fun off len hoff => ?_⟩
  · have hgot := getRawPacket_data ck _ _ _ _ (hraw w.sys.cs.usingDhcpBpf) w.dhcpPacket
    have hreceive : receive ck cfg w.sys.cs.xid w.sys.cs.usingDhcpBpf (.data (h.datagram e ck r.payload)) w.dhcpPacket =
        (r.copied w.dhcpPacket, some (t, h.saddr)) := by
      unfold receive
      rw [hgot]
      exact congrArg (fun o => (_, Option.map _ o)) (r.validateDhcpPacket_copied w.dhcpPacket hfor)
    have hread : readEvent ck cfg it.env w.dhcpPacket it.event { w.sys with out := [] } =
        .ok (r.copied w.dhcpPacket, { Events.empty with sevDhcp := some (t, h.saddr) }) { w.sys with out := [] } := by
      have hget : dhcpPacketGet it.env cfg ck (.data (h.datagram e ck r.payload)) w.dhcpPacket { w.sys with out := [] } =
          .ok (r.copied w.dhcpPacket, some (t, h.saddr)) { w.sys with out := [] } := by
        unfold dhcpPacketGet
        show (ite (w.sys.cs.listenFd < 0) _ _ : M _) { w.sys with out := [] } = _
        rw [if_neg hlisten, if_neg (by rw [hgot]; exact nofun), ← hreceive]
        rfl
      rw [hev]
      unfold readEvent
      simp only [bind, EStateM.bind, hget]
      rfl
    have husable : usable it w { Events.empty with sevDhcp := some (t, h.saddr) } := ⟨hradio, hup⟩
    unfold Hands workCall
    rw [if_neg hlive, hread]
    simp only [if_pos husable]
    rfl
  · rw [ServerReply.copied, overlay_slice _ _ _ _ _ (by omega), r.slice_payload off len hoff]

/-- A lease of 192.168.1.10 for a minute, with bytes behind the END. -/
def minuteReply : ServerReply where
  fixed := [2, 1, 6, 0, 0, 0, 0, 7] ++ List.replicate 8 0 ++ [192, 168, 1, 10] ++ List.replicate 8 0 ++
    [2, 0, 0, 0, 0, 1] ++ List.replicate 202 0
  options := [(DCODE_LEASET, [0, 0, 0, 60]), (DCODE_SERVER_ID, [192, 168, 1, 1]), (DCODE_MSGTYPE, [DHCPACK])]
  rest := [DCODE_OVERLOAD, 1, 3]
  fixed_length := by decide +kernel
  writable := by unfold Writable; decide
  fits := by decide

/-- It arrives in a datagram that may not be fragmented and whose UDP is summed up. -/
def minuteHeard : Iteration :=
  smoothIteration 0 (.dhcp (.data (ReplyHeaders.datagram ⟨16, 9, true, 255, 0xc0a80101, 0xffffffff, true⟩ .big
    inetChecksum minuteReply.payload)))

theorem replies_heard_minute : ∃ packet, Hands inetChecksum exampleConfig minuteHeard discovering DHCPACK packet ∧
    getDhcpOpt packet DCODE_LEASET MAX_DOPT_SIZE = [0, 0, 0, 60] := by
  have hfor : minuteReply.For exampleConfig discovering.sys.cs.xid DHCPACK :=
    ⟨by decide +kernel, by decide +kernel, by decide, by decide, by decide, by decide⟩
  obtain ⟨-, packet, hhands, hopt, -⟩ := replies_heard .big inetChecksum inetChecksum_onesComplement exampleConfig _
    minuteReply DHCPACK minuteHeard discovering hfor (by decide +kernel) (by decide +kernel) (by decide +kernel) rfl rfl
  exact ⟨packet, hhands, hopt DCODE_LEASET⟩

end Ndhc
