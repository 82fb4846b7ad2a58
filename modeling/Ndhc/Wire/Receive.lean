import Ndhc.Wire.Options

/-!
# Receiving a DHCP datagram

`getRawPacket` reads a datagram into a zeroed packet, checks it, and copies as many
payload bytes as the datagram has over the message buffer its caller reuses;
`validateDhcpPacket` then reads the whole buffer.  So what the pair accepts can depend on
bytes an earlier datagram left behind.  `received_stable_iff` says for exactly which
datagrams it does not: those whose option walk never leaves the received bytes.

The checksum functions of the library ndhc links are the parameter `NetChecksum`.
-/

namespace Ndhc

open Bytes

/-- `client_config`, with the probe settings that are global variables of arp.c. -/
structure ClientConfig where
  arp : Mac
  clientid : List UInt8
  clientidLen : Nat
  quitAfterLease : Bool
  abortIfNoLease : Bool
  backgroundIfNoLease : Bool
  arpProbeWait : Int
  arpProbeNum : Int
  arpProbeMin : Int
  arpProbeMax : Int
  deriving DecidableEq

/-- `net_checksum161c` and `net_checksum161c_add`. -/
structure NetChecksum where
  sum : List UInt8 → UInt16
  add : UInt16 → UInt16 → UInt16

/-- What a non-blocking read gave. -/
inductive ReadResult where
  | data (bs : List UInt8)
  | again
  | error
  deriving DecidableEq

/-- Result of `get_raw_packet`: `-1`, `-2`, or the payload length with what was stored. -/
inductive RawResult where
  | fatal
  | transient
  | got (l : Nat) (payload : DhcpMsg) (srcaddr : UInt32)
  deriving DecidableEq

def IPVERSION : Nat := 4
def IPPROTO_UDP : UInt8 := 17
def DHCP_SERVER_PORT : Nat := 67
def DHCP_CLIENT_PORT : Nat := 68
def DHCP_MAGIC : Nat := 0x63825363

/-! ## Definitions -/

def getRawPacketValidateBpf (p : IpUdpDhcpPacket) : Int :=
  if p.version ≠ IPVERSION then 0
  else if p.ihl ≠ iphdrSize >>> 2 then 0
  else if p.protocol ≠ IPPROTO_UDP then 0
  else if p.udpDest ≠ DHCP_CLIENT_PORT then 0
  -- the subtraction is one of `size_t`: below 20 it wraps to a value no length has
  else if p.udpLen ≠ (p.totLen + (2 ^ 64 - iphdrSize)) % 2 ^ 64 then 0
  else 1

def ipChecksum (ck : NetChecksum) (p : IpUdpDhcpPacket) : Bool :=
  ck.sum (slice p.bytes 0 iphdrSize) == 0

/-- The pseudo header `ph`: an `iphdr` with addresses, protocol and UDP length set. -/
def pseudoHeader (p : IpUdpDhcpPacket) : List UInt8 :=
  [0, 0] ++ slice p.bytes 24 2 ++ [0, 0, 0, 0, 0, p.protocol, 0, 0] ++ p.saddr ++ p.daddr

def udpChecksum (ck : NetChecksum) (p : IpUdpDhcpPacket) : Bool :=
  let udpcs := ck.sum (slice p.bytes iphdrSize (min p.udpLen (iudpSize - iphdrSize)))
  let hdrcs := ck.sum (pseudoHeader p)
  ck.add udpcs hdrcs == 0

/-- The payload of a datagram that passes every check of `get_raw_packet`, with the
source address. -/
def rawPayload (ck : NetChecksum) (usingDhcpBpf : Bool) (d : List UInt8) :
    Option (List UInt8 × UInt32) :=
  let p := IpUdpDhcpPacket.recv d
  let inc := min d.length iudpSize
  let iphdrlen := p.totLen
  if inc < iphdrlen then none
  else if !usingDhcpBpf && getRawPacketValidateBpf p == 0 then none
  else if !ipChecksum ck p then none
  else if iphdrlen ≤ iphdrSize + udphdrSize then none
  else if dhcpmsgSize < iphdrlen - iphdrSize - udphdrSize then none
  else if p.udpCheck ≠ 0 && !udpChecksum ck p then none
  else some (slice p.bytes (iphdrSize + udphdrSize) (iphdrlen - iphdrSize - udphdrSize),
    word32 p.saddr)

/-- `get_raw_packet`: the payload overwrites only its own length of the buffer. -/
def getRawPacket (ck : NetChecksum) (usingDhcpBpf : Bool) (rd : ReadResult) (payload : DhcpMsg) :
    RawResult :=
  match rd with
  | .again => .transient
  | .error => .fatal
  | .data d =>
    match rawPayload ck usingDhcpBpf d with
    | none => .transient
    | some (pl, src) =>
      if h : pl.length ≤ dhcpmsgSize then .got pl.length (payload.overlay pl h) src else .transient

/-- The tests of `validate_dhcp_packet` ahead of the option walks. -/
def dhcpHeaderOk (cfg : ClientConfig) (xid : UInt32) (len : Nat) (m : DhcpMsg) : Bool :=
  decide (optionsOffset ≤ len) && m.cookie == DHCP_MAGIC && m.xid == xid &&
    slice m.chaddr 0 6 == cfg.arp.bytes

/-- `validate_dhcp_packet`: the message type of an accepted packet. -/
def validateDhcpPacket (cfg : ClientConfig) (xid : UInt32) (len : Nat) (m : DhcpMsg) :
    Option UInt8 :=
  if !dhcpHeaderOk cfg xid len m then none
  else if getEndOptionIdx m = none then none
  else
    let msgtype := getOptionMsgtype m
    if msgtype = 0 then none
    else
      let cid := getOptionClientid m MAX_DOPT_SIZE
      if cid.length = 0 then some msgtype
      else
        let n := min cid.length cfg.clientidLen
        if cfg.clientid.take n ≠ cid.take n then none else some msgtype

/-- `get_raw_packet` followed by `validate_dhcp_packet` on the reused buffer: the buffer,
and the message type and source address of an accepted packet. -/
def receive (ck : NetChecksum) (cfg : ClientConfig) (xid : UInt32) (usingDhcpBpf : Bool)
    (rd : ReadResult) (buf : DhcpMsg) : DhcpMsg × Option (UInt8 × UInt32) :=
  match getRawPacket ck usingDhcpBpf rd buf with
  | .got l m src => (m, (validateDhcpPacket cfg xid l m).map fun t => (t, src))
  | _ => (buf, none)

/-- The verdict is a function of the header tests, the END marker and the options. -/
theorem validateDhcpPacket_congr (cfg : ClientConfig) (xid : UInt32) (len : Nat) (m m' : DhcpMsg)
    (hh : dhcpHeaderOk cfg xid len m = dhcpHeaderOk cfg xid len m')
    (he : getEndOptionIdx m = getEndOptionIdx m')
    (ho : ∀ code dlen, getDhcpOpt m code dlen = getDhcpOpt m' code dlen) :
    validateDhcpPacket cfg xid len m = validateDhcpPacket cfg xid len m' := by
  have hm : getOptionMsgtype m = getOptionMsgtype m' := by unfold getOptionMsgtype; rw [ho]
  have hc : getOptionClientid m MAX_DOPT_SIZE = getOptionClientid m' MAX_DOPT_SIZE := by
    unfold getOptionClientid; rw [ho]
  unfold validateDhcpPacket
  rw [hh, he, hm, hc]

/-! ## What the walks read of the received bytes -/

/-- The walk over the `bs` option bytes a datagram brought goes on into the `rest` bytes
of the field after them, where it can meet END. -/
def leavesDatagram : List UInt8 → Nat → Nat → Bool
  | [], k, rest => decide (k < rest)
  | _ :: bs, k + 1, rest => leavesDatagram bs k rest
  | b :: bs, 0, rest =>
    if b = DCODE_END then false
    else if b = DCODE_PADDING then leavesDatagram bs 0 rest
    -- the length byte is the first of the rest, so END is at best the second
    else if bs.length = 0 then decide (2 ≤ rest)
    else leavesDatagram bs ((at0 bs 0).toNat + 1) rest

/-- Skipping up to `rest` or more bytes of a field of `rest` bytes finds no END. -/
theorem endWalk_skip_all (post : List UInt8) (k i : Nat) (h : post.length ≤ k) :
    endWalk post k i = none := by
  induction post generalizing k i with
  | nil => rfl
  | cons b bs ih =>
    cases k with
    | zero => simp at h
    | succ k => exact ih k (i + 1) (by simpa using h)

/-- A walk that stays inside the datagram meets END there, or on no continuation. -/
theorem endWalk_of_stays (bs : List UInt8) (k i rest : Nat) (h : leavesDatagram bs k rest = false) :
    (∃ e, endWalk bs k i = some e) ∨
      ∀ post : List UInt8, post.length = rest → endWalk (bs ++ post) k i = none := by
  induction bs generalizing k i with
  | nil =>
    right
    intro post hp
    simp only [leavesDatagram, decide_eq_false_iff_not] at h
    exact endWalk_skip_all post k i (by omega)
  | cons b bs ih =>
    cases k with
    | succ k => exact ih k (i + 1) h
    | zero =>
      simp only [leavesDatagram] at h
      simp only [List.cons_append, endWalk]
      split at h
      · next hb => left; exact ⟨i, by simp [hb]⟩
      · next hb =>
        simp only [if_neg hb]
        split at h
        · next hp => simp only [if_pos hp]; exact ih 0 (i + 1) h
        · next hp =>
          simp only [if_neg hp]
          split at h
          · next hz =>
            right
            intro post hpl
            have hb0 : bs = [] := List.eq_nil_of_length_eq_zero hz
            subst hb0
            simp only [decide_eq_false_iff_not] at h
            simp only [List.nil_append]
            split
            · rfl
            · exact endWalk_skip_all post _ _ (by omega)
          · next hz =>
            rcases ih ((at0 bs 0).toNat + 1) (i + 1) h with ⟨e, he⟩ | hno
            · left; exact ⟨e, by rw [if_neg hz]; exact he⟩
            · right
              intro post hpl
              rw [if_neg (by simp only [List.length_append]; omega),
                at0_append_left _ _ _ (by omega)]
              exact hno post hpl

/-- A field of `rest` bytes with END at `k`. -/
def endAt (k rest : Nat) : List UInt8 := List.replicate k DCODE_PADDING ++ List.replicate (rest - k) DCODE_END

theorem endWalk_endAt (k i rest : Nat) (h : k < rest) : endWalk (endAt k rest) k i = some (i + k) := by
  unfold endAt
  induction k generalizing i rest with
  | zero =>
    obtain ⟨r, rfl⟩ : ∃ r, rest = r + 1 := ⟨rest - 1, by omega⟩
    simp [List.replicate_succ, endWalk]
  | succ k ih =>
    obtain ⟨r, rfl⟩ : ∃ r, rest = r + 1 := ⟨rest - 1, by omega⟩
    simp only [List.replicate_succ, List.cons_append, endWalk, Nat.add_sub_add_right]
    rw [ih (i + 1) r (by omega)]
    congr 1
    omega

/-- A walk that leaves the datagram meets an END that some continuation supplies. -/
theorem endWalk_of_leaves (bs : List UInt8) (k i rest : Nat) (h : leavesDatagram bs k rest = true) :
    ∃ post : List UInt8, post.length = rest ∧
      ∃ e, endWalk (bs ++ post) k i = some e ∧ i + bs.length ≤ e := by
  induction bs generalizing k i with
  | nil =>
    simp only [leavesDatagram, decide_eq_true_eq] at h
    refine ⟨endAt k rest, by simp [endAt]; omega, i + k, ?_, by simp⟩
    exact endWalk_endAt k i rest h
  | cons b bs ih =>
    cases k with
    | succ k =>
      obtain ⟨post, hl, e, he, hle⟩ := ih k (i + 1) h
      exact ⟨post, hl, e, he, by simp only [List.length_cons]; omega⟩
    | zero =>
      simp only [leavesDatagram] at h
      simp only [List.cons_append, endWalk]
      split at h
      · cases h
      · next hb =>
        simp only [if_neg hb]
        split at h
        · next hp =>
          simp only [if_pos hp]
          obtain ⟨post, hl, e, he, hle⟩ := ih 0 (i + 1) h
          exact ⟨post, hl, e, he, by simp only [List.length_cons]; omega⟩
        · next hp =>
          simp only [if_neg hp]
          split at h
          · next hz =>
            have hb0 : bs = [] := List.eq_nil_of_length_eq_zero hz
            subst hb0
            simp only [decide_eq_true_eq] at h
            -- a zero length byte, then END
            refine ⟨endAt 1 rest, by simp [endAt]; omega, i + 1 + 1, ?_, by simp⟩
            have hne : (endAt 1 rest).length ≠ 0 := by simp [endAt]
            have h0 : at0 (endAt 1 rest) 0 = 0 := rfl
            simp only [List.nil_append]
            rw [if_neg hne, h0]
            exact endWalk_endAt 1 (i + 1) rest (by omega)
          · next hz =>
            obtain ⟨post, hl, e, he, hle⟩ := ih ((at0 bs 0).toNat + 1) (i + 1) h
            refine ⟨post, hl, e, ?_, by simp only [List.length_cons]; omega⟩
            rw [if_neg (by simp only [List.length_append]; omega), at0_append_left _ _ _ (by omega)]
            exact he

/-! ## The buffer after a copy -/

theorem rawPayload_length (ck : NetChecksum) (bpf : Bool) (d pl : List UInt8) (src : UInt32)
    (h : rawPayload ck bpf d = some (pl, src)) : pl.length ≤ dhcpmsgSize := by
  unfold rawPayload at h
  simp only [] at h
  repeat' split at h
  all_goals first | (cases h; done) | skip
  next hlong _ =>
    simp only [Option.some.injEq, Prod.mk.injEq] at h
    rw [← h.1]
    unfold slice
    rw [List.length_take]
    omega

/-- What an accepted payload leaves in the buffer. -/
theorem getRawPacket_data (ck : NetChecksum) (bpf : Bool) (d pl : List UInt8) (src : UInt32)
    (h : rawPayload ck bpf d = some (pl, src)) (b : DhcpMsg) :
    getRawPacket ck bpf (.data d) b =
      .got pl.length (b.overlay pl (rawPayload_length ck bpf d pl src h)) src := by
  simp only [getRawPacket, h]
  rw [dif_pos (rawPayload_length ck bpf d pl src h)]

/-- The header tests on the payload itself. -/
def payloadHeaderOk (cfg : ClientConfig) (xid : UInt32) (pl : List UInt8) : Bool :=
  decide (optionsOffset ≤ pl.length) && be (slice pl 236 4) == DHCP_MAGIC &&
    word32 (slice pl 4 4) == xid && slice (slice pl 28 16) 0 6 == cfg.arp.bytes

section
variable (pl : List UInt8) (hpl : pl.length ≤ dhcpmsgSize) (b : DhcpMsg)

theorem overlay_slice (off len : Nat) (h : off + len ≤ pl.length) :
    slice (b.overlay pl hpl).bytes off len = slice pl off len :=
  slice_append_left pl _ off len h

theorem overlay_options (h : optionsOffset ≤ pl.length) :
    (b.overlay pl hpl).options = pl.drop optionsOffset ++ b.bytes.drop pl.length := by
  show (pl ++ b.bytes.drop pl.length).drop optionsOffset = _
  rw [List.drop_append_of_le_length h]

theorem getEndOptionIdx_overlay (h : optionsOffset ≤ pl.length) :
    getEndOptionIdx (b.overlay pl hpl) =
      endWalk (pl.drop optionsOffset ++ b.bytes.drop pl.length) 0 0 := by
  unfold getEndOptionIdx
  rw [overlay_options pl hpl b h]

theorem dhcpHeaderOk_overlay (cfg : ClientConfig) (xid : UInt32) :
    dhcpHeaderOk cfg xid pl.length (b.overlay pl hpl) = payloadHeaderOk cfg xid pl := by
  unfold dhcpHeaderOk payloadHeaderOk DhcpMsg.cookie DhcpMsg.xid DhcpMsg.chaddr
  by_cases h : optionsOffset ≤ pl.length
  · have h' : 240 ≤ pl.length := h
    rw [overlay_slice pl hpl b 236 4 (by omega), overlay_slice pl hpl b 4 4 (by omega),
      overlay_slice pl hpl b 28 16 (by omega)]
  · simp [h]

end

/-! ## When the answer depends on the datagram alone -/

/-- What the client sees of a received packet: the message type and every option. -/
def observe (r : DhcpMsg × Option (UInt8 × UInt32)) : Option (UInt8 × (UInt8 → List UInt8)) :=
  r.2.map fun t => (t.1, fun code => getDhcpOpt r.1 code MAX_DOPT_SIZE)

/-- No earlier content of the buffer changes the answer or supplies the END marker. -/
def ReceivedStable (ck : NetChecksum) (cfg : ClientConfig) (xid : UInt32) (bpf : Bool)
    (rd : ReadResult) : Prop :=
  (∀ b b' : DhcpMsg, observe (receive ck cfg xid bpf rd b) = observe (receive ck cfg xid bpf rd b')) ∧
  (∀ (b : DhcpMsg) (l : Nat) (m : DhcpMsg) (src : UInt32), getRawPacket ck bpf rd b = .got l m src →
    dhcpHeaderOk cfg xid l m = true → ∀ e, getEndOptionIdx m = some e → optionsOffset + e < l)

/-- The payload is refused before its options are walked, or the walk over the option
bytes it brought does not go on into the rest of the field. -/
def OptionsConfined (ck : NetChecksum) (cfg : ClientConfig) (xid : UInt32) (bpf : Bool)
    (rd : ReadResult) : Prop :=
  ∀ d pl src, rd = .data d → rawPayload ck bpf d = some (pl, src) →
    payloadHeaderOk cfg xid pl = true →
    leavesDatagram (pl.drop optionsOffset) 0 (dhcpmsgSize - pl.length) = false

theorem payloadHeaderOk_length (cfg : ClientConfig) (xid : UInt32) (pl : List UInt8)
    (h : payloadHeaderOk cfg xid pl = true) : optionsOffset ≤ pl.length := by
  unfold payloadHeaderOk at h
  simp only [Bool.and_eq_true, decide_eq_true_eq] at h
  exact h.1.1.1

/-- With END inside the payload no option depends on the rest of the buffer. -/
theorem getDhcpOpt_overlay (pl : List UInt8) (hpl : pl.length ≤ dhcpmsgSize) (b b' : DhcpMsg)
    (h240 : optionsOffset ≤ pl.length) (e : Nat) (he : endWalk (pl.drop optionsOffset) 0 0 = some e)
    (code : UInt8) (dlen : Nat) :
    getDhcpOpt (b.overlay pl hpl) code dlen = getDhcpOpt (b'.overlay pl hpl) code dlen := by
  have h240' : 240 ≤ pl.length := h240
  have hlen : (b.bytes.drop pl.length).length = (b'.bytes.drop pl.length).length := by
    simp [b.size_eq, b'.size_eq]
  have hfile : (b.overlay pl hpl).file = (b'.overlay pl hpl).file := by
    unfold DhcpMsg.file
    rw [overlay_slice pl hpl b 108 128 (by omega), overlay_slice pl hpl b' 108 128 (by omega)]
  have hsname : (b.overlay pl hpl).sname = (b'.overlay pl hpl).sname := by
    unfold DhcpMsg.sname
    rw [overlay_slice pl hpl b 44 64 (by omega), overlay_slice pl hpl b' 44 64 (by omega)]
  have hol : overloadValue (b.overlay pl hpl) = overloadValue (b'.overlay pl hpl) := by
    unfold overloadValue
    rw [overlay_options pl hpl b h240, overlay_options pl hpl b' h240, hfile, hsname,
      doOverloadValue_append _ _ _ hlen 0 0 e 0 he]
  unfold getDhcpOpt
  rw [overlay_options pl hpl b h240, overlay_options pl hpl b' h240, hfile, hsname, hol,
    doGetDhcpOpt_append _ _ _ hlen code dlen 0 0 e [] he]

section
variable (ck : NetChecksum) (cfg : ClientConfig) (xid : UInt32) (bpf : Bool) (d pl : List UInt8)
  (src : UInt32) (hraw : rawPayload ck bpf d = some (pl, src))
include hraw

theorem receivedStable_of_refused (hhdr : ¬ payloadHeaderOk cfg xid pl = true) :
    ReceivedStable ck cfg xid bpf (.data d) := by
  constructor
  · intro b b'
    simp [receive, getRawPacket_data ck bpf d pl src hraw, observe, validateDhcpPacket,
      dhcpHeaderOk_overlay, hhdr]
  · intro b l m src' hgot hok
    rw [getRawPacket_data ck bpf d pl src hraw b] at hgot
    cases hgot
    rw [dhcpHeaderOk_overlay] at hok
    exact absurd hok hhdr

/-- Whatever the buffer holds, the walk finds no END. -/
theorem receivedStable_of_endless
    (hnone : ∀ b : DhcpMsg,
      getEndOptionIdx (b.overlay pl (rawPayload_length ck bpf d pl src hraw)) = none) :
    ReceivedStable ck cfg xid bpf (.data d) := by
  constructor
  · intro b b'
    simp only [receive, getRawPacket_data ck bpf d pl src hraw, observe, validateDhcpPacket,
      dhcpHeaderOk_overlay, hnone, if_true]
    simp
  · intro b l m src' hgot _ e he
    rw [getRawPacket_data ck bpf d pl src hraw b] at hgot
    cases hgot
    rw [hnone b] at he
    cases he

/-- The payload brings its own END. -/
theorem receivedStable_of_ended (h240 : optionsOffset ≤ pl.length) (e : Nat)
    (he : endWalk (pl.drop optionsOffset) 0 0 = some e) : ReceivedStable ck cfg xid bpf (.data d) := by
  have hpl := rawPayload_length ck bpf d pl src hraw
  have hfound (b : DhcpMsg) : getEndOptionIdx (b.overlay pl hpl) = some e := by
    rw [getEndOptionIdx_overlay pl hpl b h240]
    exact endWalk_append _ _ 0 0 e he
  constructor
  · intro b b'
    have hopt := getDhcpOpt_overlay pl hpl b b' h240 e he
    have hval := validateDhcpPacket_congr cfg xid pl.length _ _
      ((dhcpHeaderOk_overlay pl hpl b cfg xid).trans (dhcpHeaderOk_overlay pl hpl b' cfg xid).symm)
      ((hfound b).trans (hfound b').symm) hopt
    simp only [receive, getRawPacket_data ck bpf d pl src hraw, observe, hval, hopt]
  · intro b l m src' hgot _ e' he'
    rw [getRawPacket_data ck bpf d pl src hraw b] at hgot
    cases hgot
    rw [hfound b] at he'
    cases he'
    have := (endWalk_bounds _ _ _ _ he).2.2
    rw [List.length_drop] at this
    omega

/-- A payload whose walk leaves it meets a buffer that supplies the END. -/
theorem leaves_unstable (hhdr : payloadHeaderOk cfg xid pl = true)
    (hleaves : leavesDatagram (pl.drop optionsOffset) 0 (dhcpmsgSize - pl.length) = true) :
    ¬ ReceivedStable ck cfg xid bpf (.data d) := by
  rintro ⟨-, hend⟩
  have hpl := rawPayload_length ck bpf d pl src hraw
  have h240 := payloadHeaderOk_length cfg xid pl hhdr
  obtain ⟨post, hpost, e, he, hle⟩ := endWalk_of_leaves _ 0 0 _ hleaves
  -- the offending continuation after the payload's length
  let b : DhcpMsg := ⟨List.replicate pl.length 0 ++ post, by
    rw [List.length_append, List.length_replicate, hpost]; omega⟩
  have hb : b.bytes.drop pl.length = post := by
    show (List.replicate pl.length 0 ++ post).drop pl.length = post
    rw [List.drop_left' (by simp)]
  have hidx : getEndOptionIdx (b.overlay pl hpl) = some e := by
    rw [getEndOptionIdx_overlay pl hpl b h240, hb]
    exact he
  have := hend b _ _ _ (getRawPacket_data ck bpf d pl src hraw b)
    (by rw [dhcpHeaderOk_overlay]; exact hhdr) e hidx
  rw [List.length_drop] at hle
  omega

end

/-- **The reused buffer.**  What is accepted, and as what, depends on the received
datagram alone exactly when its option walk stays inside it. -/
theorem received_stable_iff (ck : NetChecksum) (cfg : ClientConfig) (xid : UInt32) (bpf : Bool)
    (rd : ReadResult) : ReceivedStable ck cfg xid bpf rd ↔ OptionsConfined ck cfg xid bpf rd := by
  constructor
  · rintro hstable d pl src rfl hraw hhdr
    by_contra hleaves
    exact leaves_unstable ck cfg xid bpf d pl src hraw hhdr (by simpa using hleaves) hstable
  · intro hconf
    cases rd with
    | again => exact ⟨fun b b' => rfl, fun b l m src h => by simp [getRawPacket] at h⟩
    | error => exact ⟨fun b b' => rfl, fun b l m src h => by simp [getRawPacket] at h⟩
    | data d =>
      cases hraw : rawPayload ck bpf d with
      | none =>
        refine ⟨fun b b' => ?_, fun b l m src h => ?_⟩
        · simp [receive, getRawPacket, hraw, observe]
        · simp [getRawPacket, hraw] at h
      | some q =>
        obtain ⟨pl, src⟩ := q
        by_cases hhdr : payloadHeaderOk cfg xid pl = true
        · have h240 := payloadHeaderOk_length cfg xid pl hhdr
          rcases endWalk_of_stays _ 0 0 _ (hconf d pl src rfl hraw hhdr) with ⟨e, he⟩ | hno
          · exact receivedStable_of_ended ck cfg xid bpf d pl src hraw h240 e he
          · refine receivedStable_of_endless ck cfg xid bpf d pl src hraw fun b => ?_
            rw [getEndOptionIdx_overlay pl _ b h240]
            exact hno _ (by rw [List.length_drop, b.size_eq])
        · exact receivedStable_of_refused ck cfg xid bpf d pl src hraw hhdr

/-! ## A datagram completed by its predecessor -/

/-- One's complement sum of 16-bit words, an odd last byte padded with zero. -/
def onesSum : List UInt8 → Nat → Nat
  | [], acc => acc
  | [b], acc => let s := acc + be [b, 0]; s % 2 ^ 16 + s / 2 ^ 16
  | b :: c :: bs, acc => let s := acc + be [b, c]; onesSum bs (s % 2 ^ 16 + s / 2 ^ 16)

/-- The Internet checksum and the combination of two of them. -/
def inetChecksum : NetChecksum where
  sum bs := (2 ^ 16 - 1 - onesSum bs 0).toUInt16
  add a b :=
    let s := (2 ^ 16 - 1 - a.toNat) + (2 ^ 16 - 1 - b.toNat)
    (2 ^ 16 - 1 - (s % 2 ^ 16 + s / 2 ^ 16)).toUInt16

def exampleConfig : ClientConfig where
  arp := ⟨[2, 0, 0, 0, 0, 1], rfl⟩
  clientid := []
  clientidLen := 0
  quitAfterLease := false
  abortIfNoLease := false
  backgroundIfNoLease := false
  arpProbeWait := 1000
  arpProbeNum := 3
  arpProbeMin := 1000
  arpProbeMax := 2000

/-- A DHCP reply for transaction 7 with the given option bytes. -/
def replyBytes (yiaddr opts : List UInt8) : List UInt8 :=
  [2, 1, 6, 0, 0, 0, 0, 7] ++ List.replicate 8 0 ++ yiaddr ++ List.replicate 8 0 ++
    exampleConfig.arp.bytes ++ List.replicate 202 0 ++ [0x63, 0x82, 0x53, 0x63] ++ opts

/-- A datagram of 271 bytes whose DHCPACK message type is its last option byte. -/
def truncatedAck : List UInt8 :=
  [0x45, 0, 1, 15, 0, 0, 0, 0, 64, 17, 0xb8, 0x35, 192, 168, 1, 1, 255, 255, 255, 255] ++
    [0, 67, 0, 68, 0, 251, 0, 0] ++ replyBytes [192, 168, 1, 10] [53, 1, 5]

/-- The truncated reply is refused on a fresh buffer and accepted after a datagram whose
END marker stayed behind. -/
theorem truncatedAck_not_stable : ¬ ReceivedStable inetChecksum exampleConfig 7 true (.data truncatedAck) := by
  intro h
  let stale : DhcpMsg := ⟨List.replicate 243 0 ++ [DCODE_END] ++ List.replicate 304 0, by decide +kernel⟩
  have hs : (receive inetChecksum exampleConfig 7 true (.data truncatedAck) stale).2 =
      some (5, 0xc0a80101) := by decide +kernel
  have hz : (receive inetChecksum exampleConfig 7 true (.data truncatedAck) .zero).2 = none := by
    decide +kernel
  have := h.1 stale .zero
  simp [observe, hs, hz] at this

end Ndhc
