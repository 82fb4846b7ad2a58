import Ndhc.Client.Messages
import Ndhc.Lib.OnesComplement

/-!
# The datagrams the client broadcasts

`send_dhcp_raw` puts the headers of IP and UDP before a message and fills in the two checksums.
The one of UDP covers a pseudo header, which the code lays out in a `struct iphdr` whose other
fields are zero, on both sides.  What is sent passes the checks `get_raw_packet` makes on what is
received, also where the length is odd (`sent_datagram_verifies`).
-/

namespace Ndhc

open Bytes

/-! ## Definitions -/

def IPDEFTTL : UInt8 := 64
def INADDR_ANY : List UInt8 := [0, 0, 0, 0]
def INADDR_BROADCAST : List UInt8 := [255, 255, 255, 255]

/-- The memory of a `uint16_t`. -/
def stored16 (e : Endian) (v : UInt16) : List UInt8 := e.order (htons v.toNat)

/-- A `struct iphdr` of the sender; `version` and `ihl` are the two halves of its first byte. -/
def iphdr (verIhl ttl : UInt8) (totLen : Nat) (check : List UInt8) : List UInt8 :=
  [verIhl, 0] ++ htons totLen ++ [0, 0, 0, 0, ttl, IPPROTO_UDP] ++ check ++ INADDR_ANY ++ INADDR_BROADCAST

def udphdr (len : Nat) (check : List UInt8) : List UInt8 :=
  htons DHCP_CLIENT_PORT ++ htons DHCP_SERVER_PORT ++ htons len ++ check

/-- `iudmsg.ip` up to its checksum. -/
def iudmsgIp (iudLen : Nat) (check : List UInt8) : List UInt8 :=
  iphdr (IPVERSION * 16 + iphdrSize >>> 2).toUInt8 IPDEFTTL iudLen check

section
variable (e : Endian) (ck : NetChecksum)

/-- `iudmsg.udp.check` -/
def udpCheckField (udLen : Nat) (payload : DhcpMsg) : List UInt8 :=
  let udpcs := ck.sum ((udphdr udLen [0, 0] ++ payload.bytes).take udLen)
  let phcs := ck.sum (iphdr 0 0 udLen [0, 0])
  stored16 e (ck.add udpcs phcs)

/-- `iudmsg.ip.check` -/
def ipCheckField (iudLen : Nat) : List UInt8 := stored16 e (ck.sum (iudmsgIp iudLen [0, 0]))

/-- The headers of `iudmsg`, where `el` bytes of the options are sent. -/
def rawHeaders (el : Nat) (payload : DhcpMsg) : List UInt8 :=
  let padding := optionsSize - el
  let iudLen := iudpSize - padding
  let udLen := iudpSize - iphdrSize - padding
  iudmsgIp iudLen (ipCheckField e ck iudLen) ++ udphdr udLen (udpCheckField e ck udLen payload)

/-- What `send_dhcp_raw` sends; `none` where there is no END marker. -/
def sendDhcpRaw (payload : DhcpMsg) : Option (List UInt8) :=
  (endLength payload).bind fun el => rawDatagram (rawHeaders e ck el payload) payload

/-- `net_checksum161c` is the complement of the one's complement sum of the words of memory, and
`net_checksum161c_add` of two of them that of the words of both. -/
structure InternetChecksum : Prop where
  sum : ∀ bs, (ck.sum bs).toNat = 65535 - OnesComplement.sum 65535 (OnesComplement.words e bs)
  add : ∀ as bs, (ck.add (ck.sum as) (ck.sum bs)).toNat =
    65535 - OnesComplement.sum 65535 (OnesComplement.words e as ++ OnesComplement.words e bs)

end

/-! ## Checksum fields -/

theorem be_htons (v : Nat) (h : v < 65536) : be (htons v) = v := by
  simp only [htons, be, Nat.toUInt8, UInt8.toNat_ofNat', List.length_cons, List.length_nil]
  omega

section
open OnesComplement
variable (e : Endian)

theorem words_stored16 (v : UInt16) : words e (stored16 e v) = [v.toNat] := by
  have hv : [be (htons v.toNat)] = [v.toNat] := by rw [be_htons v.toNat v.toNat_lt]
  -- a word is read in the order in which it was stored
  cases e with
  | little => exact hv
  | big => exact hv

theorem words_zeros : words e [0, 0] = [0] := by
  cases e <;> rfl

theorem length_stored16 (v : UInt16) : (stored16 e v).length = 2 := by
  rw [stored16, e.length_order]
  rfl

variable (ck : NetChecksum) (hck : InternetChecksum e ck)
include hck

/-- A checksum stored where the bytes summed up had zeros. -/
theorem sum_checked (pre post : List UInt8) (hpre : 2 ∣ pre.length) :
    ck.sum (pre ++ stored16 e (ck.sum (pre ++ [0, 0] ++ post)) ++ post) = 0 := by
  have hwords (c : List UInt8) (hc : c.length = 2) :
      words e (pre ++ c ++ post) = words e pre ++ (words e c ++ words e post) := by
    rw [List.append_assoc, words_append e pre _ hpre, words_append e c _ (by rw [hc])]
  apply UInt16.toNat_inj.1
  rw [hck.sum, hwords _ (length_stored16 e _), words_stored16, hck.sum, hwords _ rfl, words_zeros]
  show 65535 - sum 65535 (words e pre ++ (65535 - sum 65535 (words e pre ++ 0 :: words e post)) :: words e post) = 0
  rw [sum_check_word 65535 _ _ (words_le e pre) (words_le e post)]

/-- The same where further bytes are summed up beside them. -/
theorem add_checked (pre post ph : List UInt8) (hpre : 2 ∣ pre.length) :
    ck.add (ck.sum (pre ++ stored16 e (ck.add (ck.sum (pre ++ [0, 0] ++ post)) (ck.sum ph)) ++ post))
      (ck.sum ph) = 0 := by
  have hwords (c : List UInt8) (hc : c.length = 2) :
      words e (pre ++ c ++ post) ++ words e ph = words e pre ++ (words e c ++ (words e post ++ words e ph)) := by
    rw [List.append_assoc pre, words_append e pre _ hpre, words_append e c _ (by rw [hc])]
    simp only [List.append_assoc]
  have hpost : ∀ w ∈ words e post ++ words e ph, w ≤ 65535 := by
    intro w hw
    rcases List.mem_append.1 hw with hw | hw
    · exact words_le e post w hw
    · exact words_le e ph w hw
  apply UInt16.toNat_inj.1
  rw [hck.add, hwords _ (length_stored16 e _), words_stored16, hck.add, hwords _ rfl, words_zeros]
  show 65535 - sum 65535 (words e pre ++ (65535 - sum 65535 (words e pre ++ 0 :: (words e post ++ words e ph))) ::
    (words e post ++ words e ph)) = 0
  rw [sum_check_word 65535 _ _ (words_le e pre) hpost]

end

/-! ## The datagram -/

/-- The lengths of a datagram of which `el` bytes are options. -/
theorem endLength_bounds (payload : DhcpMsg) (el : Nat) (h : endLength payload = some el) :
    1 ≤ el ∧ el ≤ optionsSize := by
  unfold endLength at h
  split at h
  · cases h
  · dsimp only at h
    split at h
    · cases h
    · cases h
      omega

/-- A message whose END marker is found is sent. -/
theorem endLength_of_end (payload : DhcpMsg) (i : Nat) (h : getEndOptionIdx payload = some i) :
    endLength payload = some (i + 1) := by
  have hb := (endWalk_bounds payload.options 0 0 i h).2.2
  rw [payload.length_options] at hb
  unfold endLength
  rw [h]
  exact if_neg (by omega)

section
variable (e : Endian) (ck : NetChecksum)

theorem length_iudmsgIp (n : Nat) (v : UInt16) : (iudmsgIp n (stored16 e v)).length = iphdrSize := by
  simp only [iudmsgIp, iphdr, htons, INADDR_ANY, INADDR_BROADCAST, List.length_append, length_stored16,
    List.length_cons, List.length_nil]
  rfl

theorem length_udphdr (n : Nat) (v : UInt16) : (udphdr n (stored16 e v)).length = udphdrSize := by
  simp only [udphdr, htons, List.length_append, length_stored16, List.length_cons, List.length_nil]
  rfl

/-- The datagram, in three parts. -/
theorem sendDhcpRaw_eq (payload : DhcpMsg) (el : Nat) (h : endLength payload = some el) :
    sendDhcpRaw e ck payload =
      some (iudmsgIp (268 + el) (ipCheckField e ck (268 + el)) ++
        (udphdr (248 + el) (udpCheckField e ck (248 + el) payload) ++ payload.bytes.take (240 + el))) := by
  obtain ⟨h1, h308⟩ := endLength_bounds payload el h
  simp only [optionsSize] at h308
  have hiud : iudpSize - (optionsSize - el) = 268 + el := by
    simp only [iudpSize, optionsSize]
    omega
  have hud : iudpSize - iphdrSize - (optionsSize - el) = 248 + el := by
    simp only [iudpSize, iphdrSize, optionsSize]
    omega
  have hlen : (rawHeaders e ck el payload).length = 28 := by
    simp only [rawHeaders, ipCheckField, udpCheckField, List.length_append, length_iudmsgIp, length_udphdr]
    rfl
  unfold sendDhcpRaw rawDatagram
  rw [h, Option.bind_some, Option.map_some, hiud, List.take_append, List.take_of_length_le (by omega), hlen]
  simp only [rawHeaders, hiud, hud, List.append_assoc]
  congr 5
  omega

end

/-- What the receiver reads of the headers, with any checksums in them. -/
theorem recv_headers (n n' : Nat) (a b c d : UInt8) (body dgram : List UInt8)
    (hd : dgram = iudmsgIp n' [a, b] ++ (udphdr n [c, d] ++ body)) (hn : n = 8 + body.length)
    (hlen : body.length ≤ dhcpmsgSize) :
    let p := IpUdpDhcpPacket.recv dgram
    slice p.bytes 0 iphdrSize = iudmsgIp n' [a, b] ∧ pseudoHeader p = iphdr 0 0 n [0, 0] ∧
      slice p.bytes iphdrSize (min p.udpLen (iudpSize - iphdrSize)) = udphdr n [c, d] ++ body := by
  intro p
  have hsizes : iphdrSize = 20 ∧ dhcpmsgSize = 548 ∧ iudpSize = 576 := ⟨rfl, rfl, rfl⟩
  have hdlen : dgram.length = 28 + body.length := by
    rw [hd]
    show body.length + 28 = _
    omega
  have hslice (off len : Nat) (h : off + len ≤ 28 + body.length) : slice p.bytes off len = slice dgram off len :=
    IpUdpDhcpPacket.slice_recv dgram off len (by omega) (by omega)
  have hlenBytes : slice p.bytes 24 2 = htons n := by
    rw [hslice 24 2 (by omega), hd]
    rfl
  have hudpLen : p.udpLen = n := by
    show be (slice p.bytes 24 2) = n
    rw [hlenBytes, be_htons n (by omega)]
  refine ⟨?_, ?_, ?_⟩
  · rw [hslice 0 iphdrSize (by omega), hd]
    rfl
  · have hproto : p.protocol = IPPROTO_UDP := by
      show at0 p.bytes 9 = _
      rw [IpUdpDhcpPacket.at0_recv dgram 9 (by omega) (by decide), hd]
      rfl
    have hsaddr : p.saddr = INADDR_ANY := by
      show slice p.bytes 12 4 = _
      rw [hslice 12 4 (by omega), hd]
      rfl
    have hdaddr : p.daddr = INADDR_BROADCAST := by
      show slice p.bytes 16 4 = _
      rw [hslice 16 4 (by omega), hd]
      rfl
    rw [pseudoHeader, hlenBytes, hproto, hsaddr, hdaddr]
    rfl
  · rw [hudpLen, Nat.min_eq_left (by omega), hslice iphdrSize n (by omega), hd]
    show slice _ (20 + 0) n = _
    rw [slice_append_right _ _ 20 0 n rfl, slice_self _ n]
    show body.length + 8 = n
    omega

theorem stored16_pair (e : Endian) (v : UInt16) : ∃ a b, stored16 e v = [a, b] := by
  cases e with
  | little => exact ⟨_, _, rfl⟩
  | big => exact ⟨_, _, rfl⟩

section
variable (e : Endian) (ck : NetChecksum) (hck : InternetChecksum e ck)
include hck

theorem iudmsgIp_checked (n : Nat) : ck.sum (iudmsgIp n (ipCheckField e ck n)) = 0 := by
  have h := sum_checked e ck hck
    ([(IPVERSION * 16 + iphdrSize >>> 2).toUInt8, 0] ++ htons n ++ [0, 0, 0, 0, IPDEFTTL, IPPROTO_UDP])
    (INADDR_ANY ++ INADDR_BROADCAST) ⟨5, rfl⟩
  simp only [← List.append_assoc] at h
  exact h

theorem udphdr_checked (n : Nat) (payload : DhcpMsg) (hn : 8 ≤ n) :
    ck.add (ck.sum (udphdr n (udpCheckField e ck n payload) ++ payload.bytes.take (n - 8)))
      (ck.sum (iphdr 0 0 n [0, 0])) = 0 := by
  have htake : (udphdr n [0, 0] ++ payload.bytes).take n = udphdr n [0, 0] ++ payload.bytes.take (n - 8) := by
    rw [List.take_append, List.take_of_length_le (show (udphdr n [0, 0]).length ≤ n from hn)]
    rfl
  unfold udpCheckField
  rw [htake]
  exact add_checked e ck hck (htons DHCP_CLIENT_PORT ++ htons DHCP_SERVER_PORT ++ htons n) (payload.bytes.take (n - 8))
    (iphdr 0 0 n [0, 0]) ⟨3, rfl⟩

end

/-! ## The checksum of the Internet -/

theorem add_carry (a b : Nat) (ha : a ≤ 65535) (hb : b ≤ 65535) :
    (a + b) % 2 ^ 16 + (a + b) / 2 ^ 16 = OnesComplement.add 65535 a b := by
  unfold OnesComplement.add
  split <;> omega

theorem onesSum_eq (bs : List UInt8) (acc : Nat) (hacc : acc ≤ 65535) :
    onesSum bs acc = (OnesComplement.words .big bs).foldl (OnesComplement.add 65535) acc := by
  induction bs, acc using onesSum.induct with
  | case1 acc => rfl
  | case2 b acc =>
    simp only [onesSum]
    exact add_carry acc _ hacc (OnesComplement.host_pair_le .big b 0)
  | case3 b c bs acc s ih =>
    have hpair := OnesComplement.host_pair_le .big b c
    have hcarry : s % 2 ^ 16 + s / 2 ^ 16 = OnesComplement.add 65535 acc (be [b, c]) := add_carry acc _ hacc hpair
    have hle := OnesComplement.add_le 65535 acc (be [b, c]) hacc hpair
    simp only [onesSum]
    rw [ih (by omega), hcarry]
    rfl

/-- Read in network order, it is one. -/
theorem inetChecksum_onesComplement : InternetChecksum .big inetChecksum := by
  have hsum (bs : List UInt8) : (inetChecksum.sum bs).toNat =
      65535 - OnesComplement.sum 65535 (OnesComplement.words .big bs) := by
    show (2 ^ 16 - 1 - onesSum bs 0).toUInt16.toNat = _
    rw [onesSum_eq bs 0 (by omega), Nat.toUInt16_eq, UInt16.toNat_ofNat']
    exact Nat.mod_eq_of_lt (by omega)
  refine ⟨hsum, ?_⟩
  intro as bs
  have has := OnesComplement.words_le .big as
  have hbs := OnesComplement.words_le .big bs
  have hla := OnesComplement.sum_le 65535 _ has
  have hlb := OnesComplement.sum_le 65535 _ hbs
  have hcompl (bs : List UInt8) (h : OnesComplement.sum 65535 (OnesComplement.words .big bs) ≤ 65535) :
      2 ^ 16 - 1 - (inetChecksum.sum bs).toNat = OnesComplement.sum 65535 (OnesComplement.words .big bs) := by
    rw [hsum]
    omega
  rw [OnesComplement.sum_append 65535 _ _ has hbs, ← add_carry _ _ hla hlb, ← hcompl as hla, ← hcompl bs hlb]
  show (Nat.toUInt16 _).toNat = _
  rw [Nat.toUInt16_eq, UInt16.toNat_ofNat']
  exact Nat.mod_eq_of_lt (by omega)

/-! ## Main result -/

/-- **Sent datagrams verify on reception.**  Whatever the byte order of the host, what
`send_dhcp_raw` makes of a message with an END marker passes `ip_checksum` and `udp_checksum` as
the receiver finds it in its packet, whether its length is even or odd. -/
theorem sent_datagram_verifies (e : Endian) (ck : NetChecksum) (hck : InternetChecksum e ck) (payload : DhcpMsg)
    (hend : getEndOptionIdx payload ≠ none) :
    ∃ d, sendDhcpRaw e ck payload = some d ∧ d.length ≤ iudpSize ∧
      ipChecksum ck (IpUdpDhcpPacket.recv d) = true ∧
      ((IpUdpDhcpPacket.recv d).udpCheck = 0 ∨ udpChecksum ck (IpUdpDhcpPacket.recv d) = true) := by
  obtain ⟨i, hi⟩ := Option.ne_none_iff_exists'.1 hend
  have hel := endLength_of_end payload i hi
  obtain ⟨h1, h308⟩ := endLength_bounds payload (i + 1) hel
  have hbody : (payload.bytes.take (240 + (i + 1))).length = 240 + (i + 1) := by
    have hsize := payload.size_eq
    simp only [dhcpmsgSize, optionsSize] at hsize h308
    rw [List.length_take]
    omega
  obtain ⟨a, b, hip⟩ : ∃ a b, ipCheckField e ck (268 + (i + 1)) = [a, b] := stored16_pair e _
  obtain ⟨c, d, hudp⟩ : ∃ c d, udpCheckField e ck (248 + (i + 1)) payload = [c, d] := stored16_pair e _
  have hipChecked := iudmsgIp_checked e ck hck (268 + (i + 1))
  have hudpChecked := udphdr_checked e ck hck (248 + (i + 1)) payload (by omega)
  have hsent := sendDhcpRaw_eq e ck payload (i + 1) hel
  rw [hip] at hipChecked hsent
  rw [hudp] at hudpChecked hsent
  obtain ⟨hhead, hpseudo, hbytes⟩ := recv_headers (248 + (i + 1)) (268 + (i + 1)) a b c d
    (payload.bytes.take (240 + (i + 1))) _ rfl (by omega) (by simp only [dhcpmsgSize, optionsSize] at *; omega)
  refine ⟨_, hsent, ?_, ?_, .inr ?_⟩
  · show (payload.bytes.take (240 + (i + 1))).length + 28 ≤ 576
    simp only [optionsSize] at h308
    omega
  · rw [ipChecksum, hhead, hipChecked]
    rfl
  · simp only [udpChecksum, hpseudo, hbytes]
    rw [show 240 + (i + 1) = 248 + (i + 1) - 8 by omega, hudpChecked]
    rfl

/-- The shortest message: a UDP length of 249. -/
theorem sent_datagram_verifies_empty :
    ∃ d, sendDhcpRaw .big inetChecksum (emptyPacket 7) = some d ∧
      ipChecksum inetChecksum (IpUdpDhcpPacket.recv d) = true ∧
      ((IpUdpDhcpPacket.recv d).udpCheck = 0 ∨ udpChecksum inetChecksum (IpUdpDhcpPacket.recv d) = true) := by
  obtain ⟨d, hd, -, hverifies⟩ :=
    sent_datagram_verifies .big inetChecksum inetChecksum_onesComplement (emptyPacket 7) (by decide +kernel)
  exact ⟨d, hd, hverifies⟩

end Ndhc
