import Ndhc.Lib.Bytes

/-!
# Messages as they lie in memory

`struct dhcpmsg` (548 bytes), `struct arpMsg` (60 bytes) and
`struct ip_udp_dhcp_packet` (576 bytes) as byte strings of their C size, with the
field accessors at the C offsets.  A multi-byte field that the code compares with
`htons(v)`, or copies with `memcpy`, is its bytes in memory; one it passes through
`ntohs`/`ntohl` is the number `be` of them.  IPv4 addresses and transaction ids,
which are only copied and compared, are held as the number of their four bytes.
-/

namespace Ndhc

open Bytes

/-- Bytes of a 16-bit quantity in network order: the memory image of `htons(v)`. -/
def htons (v : Nat) : List UInt8 := [(v / 256).toUInt8, v.toUInt8]

/-- Bytes of a 32-bit quantity in network order: the memory image of `htonl(v)`. -/
def htonl (v : UInt32) : List UInt8 :=
  [(v.toNat / 2 ^ 24).toUInt8, (v.toNat / 2 ^ 16).toUInt8, (v.toNat / 2 ^ 8).toUInt8, v.toNat.toUInt8]

theorem length_htonl (v : UInt32) : (htonl v).length = 4 := rfl

/-- Four bytes of memory as one 32-bit value. -/
def word32 (bs : List UInt8) : UInt32 := (be bs).toUInt32

theorem be_htonl (v : UInt32) : be (htonl v) = v.toNat := by
  have hlt : v.toNat < 2 ^ 32 := v.toNat_lt
  simp only [htonl, be, Nat.toUInt8, UInt8.toNat_ofNat', List.length_cons, List.length_nil]
  omega

theorem word32_htonl (v : UInt32) : word32 (htonl v) = v := by
  rw [word32, be_htonl]
  exact UInt32.ofNat_toNat

theorem htonl_word32 (bs : List UInt8) (h : bs.length = 4) : htonl (word32 bs) = bs := by
  have hlt := be_lt bs
  rw [h] at hlt
  apply be_inj _ _ (by rw [length_htonl, h])
  rw [be_htonl, word32, Nat.toUInt32_eq, UInt32.toNat_ofNat', Nat.mod_eq_of_lt (by omega)]

/-! ## DHCP messages -/

def dhcpmsgSize : Nat := 548
def optionsOffset : Nat := 240
def optionsSize : Nat := 308

/-- `struct dhcpmsg`. -/
structure DhcpMsg where
  bytes : List UInt8
  size_eq : bytes.length = dhcpmsgSize
  deriving DecidableEq

namespace DhcpMsg

/-- `memset(&m, 0, sizeof m)` -/
def zero : DhcpMsg := ⟨List.replicate dhcpmsgSize 0, List.length_replicate⟩

instance : Inhabited DhcpMsg := ⟨zero⟩

def xid (m : DhcpMsg) : UInt32 := word32 (slice m.bytes 4 4)
def yiaddr (m : DhcpMsg) : UInt32 := word32 (slice m.bytes 16 4)
def chaddr (m : DhcpMsg) : List UInt8 := slice m.bytes 28 16
def sname (m : DhcpMsg) : List UInt8 := slice m.bytes 44 64
def file (m : DhcpMsg) : List UInt8 := slice m.bytes 108 128
def cookie (m : DhcpMsg) : Nat := be (slice m.bytes 236 4)
def options (m : DhcpMsg) : List UInt8 := m.bytes.drop optionsOffset

@[simp] theorem length_options (m : DhcpMsg) : m.options.length = optionsSize := by
  simp [options, m.size_eq, dhcpmsgSize, optionsOffset, optionsSize]

theorem length_sname (m : DhcpMsg) : m.sname.length = 64 := by
  simp [sname, slice, m.size_eq, dhcpmsgSize]

theorem length_file (m : DhcpMsg) : m.file.length = 128 := by
  simp [file, slice, m.size_eq, dhcpmsgSize]

/-- `memcpy(m, src, l)` for `l` bytes that fit the message. -/
def overlay (m : DhcpMsg) (src : List UInt8) (h : src.length ≤ dhcpmsgSize) : DhcpMsg :=
  ⟨Bytes.overlay m.bytes src, by rw [length_overlay _ _ (by rw [m.size_eq]; exact h), m.size_eq]⟩

end DhcpMsg

/-! ## ARP frames -/

/-- A hardware address. -/
structure Mac where
  bytes : List UInt8
  size_eq : bytes.length = 6
  deriving DecidableEq

instance : Inhabited Mac := ⟨⟨[0, 0, 0, 0, 0, 0], rfl⟩⟩

def arpMsgSize : Nat := 60

/-- `ARP_MSG_SIZE`: an Ethernet and ARP header without padding. -/
def ARP_MSG_SIZE : Nat := 0x2a

/-- `struct arpMsg`. -/
structure ArpMsg where
  bytes : List UInt8
  size_eq : bytes.length = arpMsgSize
  deriving DecidableEq

namespace ArpMsg

def zero : ArpMsg := ⟨List.replicate arpMsgSize 0, List.length_replicate⟩

instance : Inhabited ArpMsg := ⟨zero⟩

def hDest (am : ArpMsg) : List UInt8 := slice am.bytes 0 6
def hProto (am : ArpMsg) : List UInt8 := slice am.bytes 12 2
def htype (am : ArpMsg) : List UInt8 := slice am.bytes 14 2
def ptype (am : ArpMsg) : List UInt8 := slice am.bytes 16 2
def hlen (am : ArpMsg) : UInt8 := at0 am.bytes 18
def plen (am : ArpMsg) : UInt8 := at0 am.bytes 19
def operation (am : ArpMsg) : List UInt8 := slice am.bytes 20 2
def smac (am : ArpMsg) : List UInt8 := slice am.bytes 22 6
def sip4 (am : ArpMsg) : List UInt8 := slice am.bytes 28 4
def dmac (am : ArpMsg) : List UInt8 := slice am.bytes 32 6

/-- A frame read into the message: at most 60 of its bytes, over what the memory held. -/
def recv (am : ArpMsg) (frame : List UInt8) : ArpMsg :=
  ⟨Bytes.overlay am.bytes (frame.take arpMsgSize), by
    rw [length_overlay _ _ (by rw [am.size_eq, List.length_take]; omega), am.size_eq]⟩

/-- Fields inside the bytes read come from the frame. -/
theorem slice_recv (am : ArpMsg) (frame : List UInt8) (off len : Nat)
    (hl : off + len ≤ frame.length) (h60 : off + len ≤ arpMsgSize) :
    slice (am.recv frame).bytes off len = slice frame off len := by
  show slice (Bytes.overlay am.bytes (frame.take arpMsgSize)) off len = _
  unfold Bytes.overlay
  rw [slice_append_left _ _ _ _ (by simp only [List.length_take]; omega)]
  conv => rhs; rw [← List.take_append_drop arpMsgSize frame]
  rw [slice_append_left _ _ _ _ (by simp only [List.length_take]; omega)]

end ArpMsg

/-! ## IP datagrams -/

/-- `sizeof(struct ip_udp_dhcp_packet)` -/
def iudpSize : Nat := 576

/-- `sizeof(struct iphdr)`, `sizeof(struct udphdr)` -/
def iphdrSize : Nat := 20
def udphdrSize : Nat := 8

/-- `struct ip_udp_dhcp_packet`. -/
structure IpUdpDhcpPacket where
  bytes : List UInt8
  size_eq : bytes.length = iudpSize
  deriving DecidableEq

namespace IpUdpDhcpPacket

/-- The zeroed packet with a datagram read into it. -/
def recv (d : List UInt8) : IpUdpDhcpPacket :=
  ⟨Bytes.overlay (List.replicate iudpSize 0) (d.take iudpSize), by
    rw [length_overlay _ _ (by simp only [List.length_take, List.length_replicate]; omega),
      List.length_replicate]⟩

-- `version` and `ihl` are the two halves of the first byte
def version (p : IpUdpDhcpPacket) : Nat := (at0 p.bytes 0).toNat / 16
def ihl (p : IpUdpDhcpPacket) : Nat := (at0 p.bytes 0).toNat % 16
def totLen (p : IpUdpDhcpPacket) : Nat := be (slice p.bytes 2 2)
def protocol (p : IpUdpDhcpPacket) : UInt8 := at0 p.bytes 9
def saddr (p : IpUdpDhcpPacket) : List UInt8 := slice p.bytes 12 4
def daddr (p : IpUdpDhcpPacket) : List UInt8 := slice p.bytes 16 4
def udpDest (p : IpUdpDhcpPacket) : Nat := be (slice p.bytes 22 2)
def udpLen (p : IpUdpDhcpPacket) : Nat := be (slice p.bytes 24 2)
def udpCheck (p : IpUdpDhcpPacket) : Nat := be (slice p.bytes 26 2)

/-- Fields inside the bytes read come from the datagram. -/
theorem slice_recv (d : List UInt8) (off len : Nat) (hl : off + len ≤ d.length)
    (hs : off + len ≤ iudpSize) : slice (recv d).bytes off len = slice d off len := by
  show slice (Bytes.overlay _ (d.take iudpSize)) off len = _
  unfold Bytes.overlay
  rw [slice_append_left _ _ _ _ (by simp only [List.length_take]; omega)]
  conv => rhs; rw [← List.take_append_drop iudpSize d]
  rw [slice_append_left _ _ _ _ (by simp only [List.length_take]; omega)]

theorem at0_recv (d : List UInt8) (i : Nat) (hl : i < d.length) (hs : i < iudpSize) :
    at0 (recv d).bytes i = at0 d i := by
  show at0 (Bytes.overlay _ (d.take iudpSize)) i = _
  unfold Bytes.overlay
  rw [at0_append_left _ _ _ (by simp only [List.length_take]; omega)]
  conv => rhs; rw [← List.take_append_drop iudpSize d]
  rw [at0_append_left _ _ _ (by simp only [List.length_take]; omega)]

end IpUdpDhcpPacket

end Ndhc
