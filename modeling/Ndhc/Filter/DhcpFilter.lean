import Ndhc.Lib.Bpf
import Ndhc.Wire.Receive

/-!
# DHCP listen filter: the kernel program and its userspace emulation

`sfDhcp` is the program sockd attaches to the raw listen socket,
`getRawPacketValidateBpf` the check `getRawPacket` makes when it is not in use.  The
program tests more than the emulation: that the datagram is no fragment and that it came
from the server port.  `sfDhcp_pos_iff` and `validate_iff` give the two tests,
`listenFilter_agrees_iff` exactly the datagrams on which they coincide, which is also when
`get_raw_packet` gives the same answer in both modes.
-/

namespace Ndhc

open Bytes Bpf

/-- `sf_dhcp` of `create_raw_listen_socket`. -/
def sfDhcp : List Insn := [
  .ldAbs .b 0,
  .jmpK .jeq 0x45 1 0,
  .retK 0,
  .ldAbs .b 9,
  .jmpK .jeq IPPROTO_UDP.toNat 1 0,
  .retK 0,
  .ldAbs .h 6,
  .jmpK .jset 0x3fff 0 1,
  .retK 0,
  .ldxMsh 0,
  .ldInd .w 0,
  .jmpK .jeq (DHCP_SERVER_PORT <<< 16 + DHCP_CLIENT_PORT) 1 0,
  .retK 0,
  .ldInd .h 4,
  .tax,
  .ldAbs .h 2,
  .st 0,
  .subK 20,
  .jmpX .jeq 1 0,
  .retK 0,
  .ldMem 0,
  .retA]

/-! ## What each side tests -/

/-- The tests both sides make: IPv4 without options, UDP, to the client port, with
consistent lengths. -/
def commonTests (d : List UInt8) : Prop :=
  at0 d 0 = 0x45 ∧ at0 d 9 = IPPROTO_UDP ∧ be (slice d 22 2) = DHCP_CLIENT_PORT ∧
    be (slice d 2 2) = be (slice d 24 2) + 20

/-- The tests only the kernel program makes: no fragment, from the server port. -/
def kernelTests (d : List UInt8) : Prop :=
  be (slice d 6 2) &&& 0x3fff = 0 ∧ be (slice d 20 2) = DHCP_SERVER_PORT

instance (d : List UInt8) : Decidable (commonTests d) := by unfold commonTests; infer_instance
instance (d : List UInt8) : Decidable (kernelTests d) := by unfold kernelTests; infer_instance

section
variable (d : List UInt8) (hd : 28 ≤ d.length)
include hd

theorem be_slice_one (i : Nat) (hi : i < 28) : be (slice d i 1) = (at0 d i).toNat := by
  rw [slice_one d i (by omega)]
  simp [be]

theorem be_slice_lt (off : Nat) (h : off + 2 ≤ 28) : be (slice d off 2) < 65536 := by
  have := be_lt (slice d off 2)
  rwa [length_slice _ _ _ (by omega)] at this

/-- The two ports as the one word the program loads. -/
theorem ports_eq_iff : be (slice d 20 4) = DHCP_SERVER_PORT <<< 16 + DHCP_CLIENT_PORT ↔
    be (slice d 20 2) = DHCP_SERVER_PORT ∧ be (slice d 22 2) = DHCP_CLIENT_PORT := by
  have hw : be (slice d 20 4) = be (slice d 20 2) * 65536 + be (slice d 22 2) := by
    rw [slice_add d 20 2 2, be_append, length_slice _ _ _ (by omega)]
    rfl
  have h20 := be_slice_lt d hd 20 (by omega)
  have h22 := be_slice_lt d hd 22 (by omega)
  rw [hw]
  unfold DHCP_SERVER_PORT DHCP_CLIENT_PORT
  omega

/-- The value the program returns. -/
theorem sfDhcp_eq : Bpf.filter sfDhcp d =
    if commonTests d ∧ kernelTests d then be (slice d 2 2) else 0 := by
  have h24 := be_slice_lt d hd 24 (by omega)
  have h2 := be_slice_lt d hd 2 (by omega)
  unfold Bpf.filter sfDhcp
  rw [run_ldAbs _ _ _ _ _ (by simp only [Size.bytes]; omega), run_expect]
  by_cases h0 : at0 d 0 = 0x45
  · have hb0 : be (slice d 0 Size.b.bytes) = 0x45 := by
      rw [show Size.b.bytes = 1 from rfl, be_slice_one d hd 0 (by omega), h0]; rfl
    simp only [hb0, if_true]
    rw [run_ldAbs _ _ _ _ _ (by simp only [Size.bytes]; omega), run_expect]
    by_cases h9 : at0 d 9 = IPPROTO_UDP
    · have hb9 : be (slice d 9 Size.b.bytes) = IPPROTO_UDP.toNat := by
        rw [show Size.b.bytes = 1 from rfl, be_slice_one d hd 9 (by omega), h9]
      simp only [hb9, if_true]
      rw [run_ldAbs _ _ _ _ _ (by simp only [Size.bytes]; omega), run_refuse]
      simp only [show Size.h.bytes = 2 from rfl]
      by_cases h6 : be (slice d 6 2) &&& 0x3fff = 0
      · rw [if_pos h6, run_ldxMsh _ _ _ _ (by omega)]
        -- the header length nibble is 5, so `X` is past the header
        have hx : 4 * (be (slice d 0 1) &&& 0xf) = 20 := by
          rw [be_slice_one d hd 0 (by omega), h0]; rfl
        rw [hx, run_ldInd _ _ _ _ _ (by simp only [Size.bytes]; omega), run_expect]
        simp only [Nat.add_zero, show Size.w.bytes = 4 from rfl]
        by_cases hp : be (slice d 20 4) = DHCP_SERVER_PORT <<< 16 + DHCP_CLIENT_PORT
        · obtain ⟨hs, hc⟩ := (ports_eq_iff d hd).1 hp
          rw [if_pos hp, run_ldInd _ _ _ _ _ (by simp only [Size.bytes]; omega), run_tax,
            run_ldAbs _ _ _ _ _ (by simp only [Size.bytes]; omega), run_st, run_subK, run_expectX,
            run_ldMem, run_retA]
          simp only [show Size.h.bytes = 2 from rfl, if_true]
          have hsub : (be (slice d 2 2) + (2 ^ 32 - 20)) % 2 ^ 32 = be (slice d (20 + 4) 2) ↔
              be (slice d 2 2) = be (slice d 24 2) + 20 := by
            rw [show 20 + 4 = 24 from rfl]
            omega
          simp only [hsub, commonTests, kernelTests, h0, h9, h6, hs, hc, true_and, and_true]
        · rw [if_neg hp, if_neg]
          rintro ⟨⟨-, -, hc, -⟩, -, hs⟩
          exact hp ((ports_eq_iff d hd).2 ⟨hs, hc⟩)
      · rw [if_neg h6, if_neg]
        rintro ⟨-, h, -⟩
        exact h6 h
    · have hb9 : be (slice d 9 Size.b.bytes) ≠ IPPROTO_UDP.toNat := by
        rw [show Size.b.bytes = 1 from rfl, be_slice_one d hd 9 (by omega)]
        exact fun h => h9 (UInt8.toNat_inj.1 h)
      rw [if_neg hb9, if_neg]
      rintro ⟨⟨-, h, -⟩, -⟩
      exact h9 h
  · have hb0 : be (slice d 0 Size.b.bytes) ≠ 0x45 := by
      rw [show Size.b.bytes = 1 from rfl, be_slice_one d hd 0 (by omega)]
      exact fun h => h0 (UInt8.toNat_inj.1 h)
    rw [if_neg hb0, if_neg]
    rintro ⟨⟨h, -⟩, -⟩
    exact h0 h

theorem sfDhcp_pos_iff : 0 < Bpf.filter sfDhcp d ↔ commonTests d ∧ kernelTests d := by
  rw [sfDhcp_eq d hd]
  split
  · next h =>
    have := h.1.2.2.2
    exact ⟨fun _ => h, fun _ => by omega⟩
  · next h => exact ⟨fun h0 => absurd h0 (by omega), fun h' => absurd h' h⟩

theorem validate_iff : getRawPacketValidateBpf (.recv d) = 1 ↔ commonTests d := by
  have hs (off len : Nat) (h : off + len ≤ 28) :
      slice (IpUdpDhcpPacket.recv d).bytes off len = slice d off len :=
    IpUdpDhcpPacket.slice_recv d off len (by omega) (by unfold iudpSize; omega)
  have hb (i : Nat) (h : i < 28) : at0 (IpUdpDhcpPacket.recv d).bytes i = at0 d i :=
    IpUdpDhcpPacket.at0_recv d i (by omega) (by unfold iudpSize; omega)
  have h24 := be_slice_lt d hd 24 (by omega)
  have h2 := be_slice_lt d hd 2 (by omega)
  have hnib : ((at0 d 0).toNat / 16 = IPVERSION ∧ (at0 d 0).toNat % 16 = iphdrSize >>> 2) ↔
      at0 d 0 = 0x45 := by
    rw [← UInt8.toNat_inj]
    show _ ↔ (at0 d 0).toNat = 69
    simp only [show IPVERSION = 4 from rfl, show iphdrSize >>> 2 = 5 from rfl]
    omega
  have hlen : be (slice d 24 2) = (be (slice d 2 2) + (2 ^ 64 - iphdrSize)) % 2 ^ 64 ↔
      be (slice d 2 2) = be (slice d 24 2) + 20 := by
    unfold iphdrSize
    omega
  unfold getRawPacketValidateBpf IpUdpDhcpPacket.version IpUdpDhcpPacket.ihl
    IpUdpDhcpPacket.protocol IpUdpDhcpPacket.udpDest IpUdpDhcpPacket.udpLen IpUdpDhcpPacket.totLen
  rw [hb 0 (by omega), hb 9 (by omega), hs 22 2 (by omega), hs 24 2 (by omega), hs 2 2 (by omega)]
  unfold commonTests
  rw [← hnib, ← hlen]
  exact (allTests_iff _ _ _ _ _).trans (by rw [and_assoc])

end

/-! ## When the two agree -/

/-- `get_raw_packet` behind the filter: the kernel drops the datagram or passes as many of
its bytes as the program returned. -/
def filteredPayload (ck : NetChecksum) (d : List UInt8) : Option (List UInt8 × UInt32) :=
  if Bpf.filter sfDhcp d = 0 then none else rawPayload ck true (d.take (Bpf.filter sfDhcp d))

/-- The two verdicts on a datagram are the same, and so is what `get_raw_packet` accepts. -/
def ListenFilterAgrees (ck : NetChecksum) (d : List UInt8) : Prop :=
  (0 < Bpf.filter sfDhcp d ↔ getRawPacketValidateBpf (.recv d) = 1) ∧
    filteredPayload ck d = rawPayload ck false d

theorem slice_take (d : List UInt8) (t off len : Nat) (h : off + len ≤ t) :
    slice (d.take t) off len = slice d off len := by
  unfold slice
  rw [List.drop_take, List.take_take, Nat.min_eq_left (by omega)]

/-- A packet cut at `t` bytes has the fields that end by then. -/
theorem slice_recv_take (d : List UInt8) (t off len : Nat) (ht : t ≤ d.length) (h576 : t ≤ iudpSize)
    (h : off + len ≤ t) :
    slice (IpUdpDhcpPacket.recv (d.take t)).bytes off len =
      slice (IpUdpDhcpPacket.recv d).bytes off len := by
  rw [IpUdpDhcpPacket.slice_recv _ _ _ (by rw [List.length_take]; omega) (by omega),
    IpUdpDhcpPacket.slice_recv _ _ _ (by omega) (by omega), slice_take d t off len h]

theorem validate_cases (p : IpUdpDhcpPacket) :
    getRawPacketValidateBpf p = 0 ∨ getRawPacketValidateBpf p = 1 := by
  unfold getRawPacketValidateBpf
  repeat' split
  all_goals simp

/-- Cutting a datagram at its own total length changes nothing `get_raw_packet` looks at,
when the UDP length ends there too. -/
theorem rawPayload_take (ck : NetChecksum) (d : List UInt8) (hd : 28 ≤ d.length)
    (hc : commonTests d) : rawPayload ck true (d.take (be (slice d 2 2))) = rawPayload ck false d := by
  obtain ⟨t, ht⟩ : ∃ t, be (slice d 2 2) = t := ⟨_, rfl⟩
  have hval := (validate_iff d hd).2 hc
  have hudp : be (slice d 24 2) + 20 = t := by rw [← ht]; exact hc.2.2.2.symm
  have htot : (IpUdpDhcpPacket.recv d).totLen = t := by
    rw [← ht]
    unfold IpUdpDhcpPacket.totLen
    rw [IpUdpDhcpPacket.slice_recv d 2 2 (by omega) (by unfold iudpSize; omega)]
  have hul : (IpUdpDhcpPacket.recv d).udpLen + 20 = t := by
    rw [← hudp]
    unfold IpUdpDhcpPacket.udpLen
    rw [IpUdpDhcpPacket.slice_recv d 24 2 (by omega) (by unfold iudpSize; omega)]
  have htot' : (IpUdpDhcpPacket.recv (d.take t)).totLen = t := by
    rw [← ht]
    unfold IpUdpDhcpPacket.totLen
    rw [IpUdpDhcpPacket.slice_recv _ 2 2 (by rw [List.length_take]; omega) (by unfold iudpSize; omega),
      slice_take d _ 2 2 (by omega)]
  rw [ht]
  by_cases hlong : min d.length iudpSize < t
  · have hlong' : min (d.take t).length iudpSize < t := by rw [List.length_take]; omega
    unfold rawPayload
    simp only [htot, htot', hlong, hlong', if_true]
  · have htl : t ≤ d.length := by omega
    have h576 : t ≤ iudpSize := by omega
    have hs (off len : Nat) (h : off + len ≤ t) := slice_recv_take d t off len htl h576 h
    have hip : ipChecksum ck (.recv (d.take t)) = ipChecksum ck (.recv d) := by
      unfold ipChecksum iphdrSize
      rw [hs 0 20 (by omega)]
    have hshort : ¬ min (d.take t).length iudpSize < t := by rw [List.length_take]; omega
    have hv : (getRawPacketValidateBpf (.recv d) == 0) = false := by rw [hval]; rfl
    unfold rawPayload
    simp only [htot, htot', hlong, hshort, hip, hv, if_false, Bool.not_true, Bool.not_false,
      Bool.false_and, Bool.true_and, Bool.false_eq_true]
    -- past the length test every field read ends by `t`
    by_cases h28 : t ≤ iphdrSize + udphdrSize
    · simp only [h28, if_true]
    · unfold iphdrSize udphdrSize at h28
      have hpr : (IpUdpDhcpPacket.recv (d.take t)).protocol = (IpUdpDhcpPacket.recv d).protocol := by
        have := hs 9 1 (by omega)
        rw [slice_one _ _ (by rw [IpUdpDhcpPacket.size_eq]; unfold iudpSize; omega),
          slice_one _ _ (by rw [IpUdpDhcpPacket.size_eq]; unfold iudpSize; omega)] at this
        exact List.singleton_inj.1 this
      have hudpck : udpChecksum ck (.recv (d.take t)) = udpChecksum ck (.recv d) := by
        have hul' : (IpUdpDhcpPacket.recv (d.take t)).udpLen = (IpUdpDhcpPacket.recv d).udpLen := by
          unfold IpUdpDhcpPacket.udpLen
          rw [hs 24 2 (by omega)]
        unfold udpChecksum pseudoHeader IpUdpDhcpPacket.saddr IpUdpDhcpPacket.daddr
        rw [hul', hpr, hs 24 2 (by omega), hs 12 4 (by omega), hs 16 4 (by omega),
          hs iphdrSize _ (by unfold iphdrSize iudpSize; omega)]
      unfold IpUdpDhcpPacket.udpCheck IpUdpDhcpPacket.saddr iphdrSize udphdrSize
      rw [hudpck, hs 26 2 (by omega), hs 12 4 (by omega), hs (20 + 8) _ (by omega)]

/-- A minimal DHCP-sized datagram to the client port, from port `sp`. -/
def fromPort (sp : UInt8) : List UInt8 :=
  [0x45, 0, 0, 29, 0, 0, 0, 0, 64, 17, 0, 0, 192, 168, 1, 1, 255, 255, 255, 255] ++
    [0, sp, 0, 68, 0, 9, 0, 0, 0]

/-- **The listen filter.**  Kernel and emulation agree on a datagram, and `get_raw_packet`
accepts it alike in both modes, exactly when it passes the tests only the kernel makes or
fails one that both make. -/
theorem listenFilter_agrees_iff (ck : NetChecksum) (d : List UInt8) (hd : 28 ≤ d.length) :
    ListenFilterAgrees ck d ↔ kernelTests d ∨ ¬ commonTests d := by
  unfold ListenFilterAgrees
  rw [sfDhcp_pos_iff d hd, validate_iff d hd]
  constructor
  · rintro ⟨h, -⟩
    by_cases hc : commonTests d
    · exact Or.inl (h.2 hc).2
    · exact Or.inr hc
  · intro h
    have hiff : commonTests d ∧ kernelTests d ↔ commonTests d := by
      rcases h with h | h
      · exact ⟨fun h' => h'.1, fun h' => ⟨h', h⟩⟩
      · exact ⟨fun h' => h'.1, fun h' => absurd h' h⟩
    refine ⟨hiff, ?_⟩
    unfold filteredPayload
    rw [sfDhcp_eq d hd]
    by_cases hc : commonTests d
    · have hpos : be (slice d 2 2) ≠ 0 := by
        have := hc.2.2.2
        omega
      rw [if_pos (hiff.2 hc), if_neg hpos]
      exact rawPayload_take ck d hd hc
    · have hno : ¬ (commonTests d ∧ kernelTests d) := fun h' => hc h'.1
      rw [if_neg hno, if_pos rfl]
      have hv : getRawPacketValidateBpf (.recv d) = 0 := by
        rcases validate_cases (.recv d) with h0 | h1
        · exact h0
        · exact absurd ((validate_iff d hd).1 h1) hc
      unfold rawPayload
      simp [hv]

/-- What a server sends from its own port is judged alike. -/
theorem listenFilter_agrees_serverPort :
    28 ≤ (fromPort 67).length ∧ ListenFilterAgrees inetChecksum (fromPort 67) :=
  ⟨by decide, (listenFilter_agrees_iff inetChecksum (fromPort 67) (by decide)).2
    (Or.inl (by decide +kernel))⟩

/-- A datagram from port 69 is dropped by the kernel program and passes the emulation. -/
theorem listenFilter_disagrees :
    28 ≤ (fromPort 69).length ∧ Bpf.filter sfDhcp (fromPort 69) = 0 ∧
      getRawPacketValidateBpf (.recv (fromPort 69)) = 1 ∧
      ¬ ListenFilterAgrees inetChecksum (fromPort 69) := by
  have hf : Bpf.filter sfDhcp (fromPort 69) = 0 := by decide +kernel
  have hv : getRawPacketValidateBpf (.recv (fromPort 69)) = 1 := by decide +kernel
  refine ⟨by decide, hf, hv, fun h => ?_⟩
  have := h.1.2 hv
  omega

end Ndhc
