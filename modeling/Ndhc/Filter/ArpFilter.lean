import Ndhc.Lib.Bpf
import Ndhc.Wire.Layout

/-!
# ARP filters: the kernel programs and their userspace emulation

`arpSetBpfBasic` and `arpSetBpfDefense` are the programs sockd attaches to the ARP
socket, `arpValidateBpf` and `arpValidateBpfDefense` the checks ndhc runs itself when
no program is locked in.  The defense program compares network-order loads with
integers that were copied from network-order memory, so what it tests depends on the
byte order of the host: `defenseFilter_pos_iff` says what, and
`arpDefenseFilter_agrees_iff` exactly when that is what the emulation tests.
-/

namespace Ndhc

open Bytes Bpf

def ETH_P_ARP : Nat := 0x0806
def ETH_P_IP : Nat := 0x0800
def ARPHRD_ETHER : Nat := 1
def ARPOP_REPLY : Nat := 2

/-! ## Kernel programs -/

/-- The Ethernet and ARP header tests both programs begin with. -/
def arpHeaderTests : List Insn := [
  -- ethernet protocol type ARP, ARP hardware type Ethernet
  .ldAbs .w 12,
  .jmpK .jeq (ETH_P_ARP <<< 16 ||| ARPHRD_ETHER) 1 0,
  .retK 0,
  -- ARP protocol type IP, hardware address length 6, protocol address length 4
  .ldAbs .w 16,
  .jmpK .jeq (ETH_P_IP <<< 16 ||| 0x0604) 1 0,
  .retK 0]

def arpSetBpfBasic : List Insn := arpHeaderTests ++ [
  .retK 0x7fffffff]

/-- `client_addr`, `mac4b` and `mac2b` are host integers filled by `memcpy`. -/
def arpSetBpfDefense (e : Endian) (clientAddr : UInt32) (clientMac : Mac) : List Insn :=
  let mac4b := e.host (slice clientMac.bytes 0 4)
  let mac2b := e.host (slice clientMac.bytes 4 2)
  arpHeaderTests ++ [
    -- not sent from our address: of no interest
    .ldAbs .w 28,
    .jmpK .jeq (e.host (htonl clientAddr)) 1 0,
    .retK 0,
    -- first four bytes of the sender differ from ours: a conflict
    .ldAbs .w 22,
    .jmpK .jeq mac4b 1 0,
    .retK 0x7fffffff,
    -- last two bytes differ: a conflict
    .ldAbs .h 26,
    .jmpK .jeq mac2b 1 0,
    .retK 0x7fffffff,
    -- our own announcement
    .retK 0]

/-! ## Userspace -/

def arpValidateBpf (am : ArpMsg) : Int :=
  if am.hProto ≠ htons ETH_P_ARP then 0
  else if am.htype ≠ htons ARPHRD_ETHER then 0
  else if am.ptype ≠ htons ETH_P_IP then 0
  else if am.hlen ≠ 6 then 0
  else if am.plen ≠ 4 then 0
  else 1

def arpValidateBpfDefense (clientAddr : UInt32) (arp : Mac) (am : ArpMsg) : Int :=
  if am.sip4 ≠ htonl clientAddr then 0
  else if am.smac = arp.bytes then 0
  else 1

def arpIsQueryReply (arp : Mac) (am : ArpMsg) : Int :=
  if am.operation ≠ htons ARPOP_REPLY then 0
  else if am.hDest ≠ arp.bytes then 0
  else if am.dmac ≠ arp.bytes then 0
  else 1

/-! ## What each side tests -/

/-- The header bytes of an Ethernet/IPv4 ARP packet. -/
def arpHeader : List UInt8 := [8, 6, 0, 1, 8, 0, 6, 4]

theorem arpHeader_eq_iff (f : List UInt8) (hf : ARP_MSG_SIZE ≤ f.length) :
    (be (slice f 12 4) = ETH_P_ARP <<< 16 ||| ARPHRD_ETHER ∧
      be (slice f 16 4) = ETH_P_IP <<< 16 ||| 0x0604) ↔ slice f 12 8 = arpHeader := by
  have h12 : (slice f 12 4).length = 4 := length_slice _ _ _ (by unfold ARP_MSG_SIZE at hf; omega)
  have h16 : (slice f 16 4).length = 4 := length_slice _ _ _ (by unfold ARP_MSG_SIZE at hf; omega)
  have e1 : ETH_P_ARP <<< 16 ||| ARPHRD_ETHER = be [8, 6, 0, 1] := by decide
  have e2 : ETH_P_IP <<< 16 ||| 0x0604 = be [8, 0, 6, 4] := by decide
  rw [e1, e2, be_eq_iff _ _ h12, be_eq_iff _ _ h16, slice_add f 12 4 4]
  constructor
  · rintro ⟨h1, h2⟩
    rw [h1, h2]; rfl
  · intro h
    exact List.append_inj h h12

/-- The defense program lets a frame through iff it carries the ARP header, was sent
from our address as the host's byte order spells it, and not from our swapped MAC. -/
theorem defenseFilter_pos_iff (e : Endian) (addr : UInt32) (mac : Mac) (f : List UInt8)
    (hf : ARP_MSG_SIZE ≤ f.length) :
    0 < Bpf.filter (arpSetBpfDefense e addr mac) f ↔
      slice f 12 8 = arpHeader ∧ slice f 28 4 = e.order (htonl addr) ∧
        ¬ (slice f 22 4 = e.order (slice mac.bytes 0 4) ∧
          slice f 26 2 = e.order (slice mac.bytes 4 2)) := by
  rw [← arpHeader_eq_iff f hf]
  unfold ARP_MSG_SIZE at hf
  have hm := mac.size_eq
  have key (off len : Nat) (bs : List UInt8) (h : off + len ≤ f.length) (hl : bs.length = len) :
      be (slice f off len) = e.host bs ↔ slice f off len = e.order bs :=
    e.be_eq_host_iff _ _ (by rw [length_slice _ _ _ h, hl])
  rw [← key 28 4 _ (by omega) (length_htonl addr),
    ← key 22 4 _ (by omega) (length_slice _ _ _ (by omega)),
    ← key 26 2 _ (by omega) (length_slice _ _ _ (by omega))]
  unfold Bpf.filter arpSetBpfDefense arpHeaderTests
  simp only [List.cons_append, List.nil_append]
  rw [run_ldAbs _ _ _ _ _ (by simp only [Size.bytes]; omega), run_expect,
    run_ldAbs _ _ _ _ _ (by simp only [Size.bytes]; omega), run_expect,
    run_ldAbs _ _ _ _ _ (by simp only [Size.bytes]; omega), run_expect,
    run_ldAbs _ _ _ _ _ (by simp only [Size.bytes]; omega), run_expect,
    run_ldAbs _ _ _ _ _ (by simp only [Size.bytes]; omega), run_expect, run_retK]
  simp only [Size.bytes]
  by_cases h12 : be (slice f 12 4) = ETH_P_ARP <<< 16 ||| ARPHRD_ETHER
  · by_cases h16 : be (slice f 16 4) = ETH_P_IP <<< 16 ||| 0x0604
    · by_cases h28 : be (slice f 28 4) = e.host (htonl addr)
      · by_cases h22 : be (slice f 22 4) = e.host (slice mac.bytes 0 4)
        · by_cases h26 : be (slice f 26 2) = e.host (slice mac.bytes 4 2) <;>
            simp [h12, h16, h28, h22, h26]
        · simp [h12, h16, h28, h22]
      · simp [h12, h16, h28]
    · simp [h12, h16]
  · simp [h12]

/-- The five fields the emulation tests are the eight header bytes. -/
theorem arpValidateBpf_iff (am : ArpMsg) : arpValidateBpf am = 1 ↔ slice am.bytes 12 8 = arpHeader := by
  have hsize : am.bytes.length = 60 := am.size_eq
  have hsplit : slice am.bytes 12 8 = am.hProto ++ (am.htype ++ (am.ptype ++ ([am.hlen] ++ [am.plen]))) := by
    unfold ArpMsg.hProto ArpMsg.htype ArpMsg.ptype ArpMsg.hlen ArpMsg.plen
    rw [← slice_one _ 18 (by omega), ← slice_one _ 19 (by omega), ← slice_add am.bytes 18 1 1,
      ← slice_add am.bytes 16 2 2, ← slice_add am.bytes 14 2 4, ← slice_add am.bytes 12 2 6]
  have hheader : arpHeader = htons ETH_P_ARP ++ (htons ARPHRD_ETHER ++ (htons ETH_P_IP ++ ([6] ++ [4]))) := by
    decide
  rw [hsplit, hheader]
  refine (allTests_iff _ _ _ _ _).trans ⟨?_, fun h => ?_⟩
  · rintro ⟨h1, h2, h3, h4, h5⟩
    rw [h1, h2, h3, h4, h5]
  · obtain ⟨h1, h⟩ := List.append_inj h (length_slice _ _ _ (by omega))
    obtain ⟨h2, h⟩ := List.append_inj h (length_slice _ _ _ (by omega))
    obtain ⟨h3, h⟩ := List.append_inj h (length_slice _ _ _ (by omega))
    obtain ⟨h4, h5⟩ := List.append_inj h rfl
    exact ⟨h1, h2, h3, List.singleton_inj.mp h4, List.singleton_inj.mp h5⟩

theorem arpValidateBpfDefense_iff (addr : UInt32) (mac : Mac) (am : ArpMsg) :
    arpValidateBpfDefense addr mac am = 1 ↔ am.sip4 = htonl addr ∧ am.smac ≠ mac.bytes := by
  unfold arpValidateBpfDefense
  by_cases hip : am.sip4 = htonl addr
  · by_cases hmac : am.smac = mac.bytes
    · simp [hip, hmac]
    · simp [hip, hmac]
  · simp [hip]

/-- The emulation accepts a received frame iff it carries the ARP header and was sent
from our address but not from our MAC. -/
theorem arpValidate_iff (addr : UInt32) (mac : Mac) (am : ArpMsg) (f : List UInt8)
    (hf : ARP_MSG_SIZE ≤ f.length) :
    (arpValidateBpf (am.recv f) = 1 ∧ arpValidateBpfDefense addr mac (am.recv f) = 1) ↔
      slice f 12 8 = arpHeader ∧ slice f 28 4 = htonl addr ∧ slice f 22 6 ≠ mac.bytes := by
  unfold ARP_MSG_SIZE at hf
  have hs (off len : Nat) (h : off + len ≤ 42) :
      slice (am.recv f).bytes off len = slice f off len :=
    am.slice_recv f off len (by omega) (by unfold arpMsgSize; omega)
  rw [arpValidateBpf_iff, arpValidateBpfDefense_iff]
  unfold ArpMsg.sip4 ArpMsg.smac
  rw [hs 12 8 (by omega), hs 28 4 (by omega), hs 22 6 (by omega)]

/-! ## When the two agree -/

/-- Bytes that read the same in both orders. -/
def Palindromic (bs : List UInt8) : Prop := bs.reverse = bs

instance (bs : List UInt8) : Decidable (Palindromic bs) :=
  inferInstanceAs (Decidable (bs.reverse = bs))

/-- The kernel's verdict on a frame is the emulation's, whatever the read buffer held. -/
def DefenseFilterAgrees (e : Endian) (addr : UInt32) (mac : Mac) (f : List UInt8) : Prop :=
  ∀ am : ArpMsg, 0 < Bpf.filter (arpSetBpfDefense e addr mac) f ↔
    arpValidateBpf (am.recv f) = 1 ∧ arpValidateBpfDefense addr mac (am.recv f) = 1

/-- An ARP packet from hardware address `m` and protocol address `a`. -/
def arpFrom (m a : List UInt8) : List UInt8 :=
  List.replicate 12 0 ++ (arpHeader ++ ([0, 1] ++ (m ++ (a ++ List.replicate 10 0))))

theorem arpFrom_fields (m a : List UInt8) (hm : m.length = 6) (ha : a.length = 4) :
    (arpFrom m a).length = 42 ∧ slice (arpFrom m a) 12 8 = arpHeader ∧
      slice (arpFrom m a) 22 6 = m ∧ slice (arpFrom m a) 28 4 = a := by
  unfold arpFrom
  refine ⟨by simp [arpHeader, hm, ha], ?_, ?_, ?_⟩
  · rw [slice_append_right _ _ 12 0 8 rfl]
    exact slice_append_self _ _ 8 rfl
  · rw [slice_append_right _ _ 12 10 6 rfl, slice_append_right _ _ 8 2 6 rfl,
      slice_append_right _ _ 2 0 6 rfl]
    exact slice_append_self _ _ 6 hm
  · rw [slice_append_right _ _ 12 16 4 rfl, slice_append_right _ _ 8 8 4 rfl,
      slice_append_right _ _ 2 6 4 rfl, slice_append_right _ _ 6 0 4 hm]
    exact slice_append_self _ _ 4 ha

theorem Mac.eq_iff_parts (mac : Mac) (m : List UInt8) (hm : m.length = 6) :
    m = mac.bytes ↔ slice m 0 4 = slice mac.bytes 0 4 ∧ slice m 4 2 = slice mac.bytes 4 2 := by
  have whole (bs : List UInt8) (h : bs.length = 6) : bs = slice bs 0 4 ++ slice bs 4 2 := by
    rw [← slice_add bs 0 4 2, slice_self bs 6 h]
  constructor
  · rintro rfl
    exact ⟨rfl, rfl⟩
  · rintro ⟨h1, h2⟩
    rw [whole m hm, whole mac.bytes mac.size_eq, h1, h2]

theorem Mac.exists_ne (mac : Mac) : ∃ m : List UInt8, m.length = 6 ∧ m ≠ mac.bytes := by
  by_cases h : mac.bytes = List.replicate 6 0
  · exact ⟨List.replicate 6 1, rfl, by rw [h]; decide⟩
  · exact ⟨List.replicate 6 0, rfl, fun he => h he.symm⟩

/-- What agreement on a little endian host says of each sender. -/
theorem littleFilter_agrees (addr : UInt32) (mac : Mac)
    (h : ∀ f : List UInt8, ARP_MSG_SIZE ≤ f.length → DefenseFilterAgrees .little addr mac f)
    (m a : List UInt8) (h6 : m.length = 6) (h4 : a.length = 4) :
    (a = (htonl addr).reverse ∧ ¬ (slice m 0 4 = (slice mac.bytes 0 4).reverse ∧
      slice m 4 2 = (slice mac.bytes 4 2).reverse)) ↔ (a = htonl addr ∧ m ≠ mac.bytes) := by
  obtain ⟨hl, hh, hs, hip⟩ := arpFrom_fields m a h6 h4
  have hf : ARP_MSG_SIZE ≤ (arpFrom m a).length := by rw [hl]; rfl
  have := h _ hf .zero
  rw [defenseFilter_pos_iff _ _ _ _ hf, arpValidate_iff _ _ _ _ hf, hh, hip,
    ← slice_slice (arpFrom m a) 22 6 0 4 (by omega),
    ← slice_slice (arpFrom m a) 22 6 4 2 (by omega), hs] at this
  simpa [Endian.order] using this

/-- The filter and its emulation pass the same frames exactly on a big endian host, or
when swapping bytes changes neither the address nor the two parts the MAC is compared in. -/
theorem arpDefenseFilter_agrees_iff (e : Endian) (addr : UInt32) (mac : Mac) :
    (∀ f : List UInt8, ARP_MSG_SIZE ≤ f.length → DefenseFilterAgrees e addr mac f) ↔
      e = .big ∨ (Palindromic (htonl addr) ∧ Palindromic (slice mac.bytes 0 4) ∧
        Palindromic (slice mac.bytes 4 2)) := by
  have hm := mac.size_eq
  constructor
  · intro h
    cases e with
    | big => exact Or.inl rfl
    | little =>
      right
      have probe := littleFilter_agrees addr mac h
      -- a conflict from any other MAC shows the address is its own reversal
      have haddr : Palindromic (htonl addr) := by
        obtain ⟨m, h6, hne⟩ := mac.exists_ne
        exact ((probe m _ h6 (length_htonl addr)).2 ⟨rfl, hne⟩).1.symm
      -- a frame from the swapped MAC is dropped, so that MAC must be ours
      let m : List UInt8 := (slice mac.bytes 0 4).reverse ++ (slice mac.bytes 4 2).reverse
      have l4 : (slice mac.bytes 0 4).reverse.length = 4 := by
        rw [List.length_reverse, length_slice _ _ _ (by omega)]
      have h6 : m.length = 6 := by
        simp only [m, List.length_append, l4, List.length_reverse]
        rw [length_slice _ _ _ (by omega)]
      have p4 : slice m 0 4 = (slice mac.bytes 0 4).reverse := slice_append_self _ _ 4 l4
      have p2 : slice m 4 2 = (slice mac.bytes 4 2).reverse := by
        rw [slice_append_right _ _ 4 0 2 l4]
        exact slice_self _ 2 (by rw [List.length_reverse, length_slice _ _ _ (by omega)])
      have hown : m = mac.bytes := by
        by_contra hne
        exact ((probe m _ h6 (length_htonl addr)).2 ⟨rfl, hne⟩).2 ⟨p4, p2⟩
      obtain ⟨q4, q2⟩ := (mac.eq_iff_parts m h6).1 hown
      exact ⟨haddr, p4.symm.trans q4, p2.symm.trans q2⟩
  · intro hc f hf am
    have hord : e.order (htonl addr) = htonl addr ∧
        e.order (slice mac.bytes 0 4) = slice mac.bytes 0 4 ∧
        e.order (slice mac.bytes 4 2) = slice mac.bytes 4 2 := by
      rcases hc with rfl | ⟨h1, h2, h3⟩
      · exact ⟨rfl, rfl, rfl⟩
      · cases e with
        | big => exact ⟨rfl, rfl, rfl⟩
        | little => exact ⟨h1, h2, h3⟩
    have hl : (slice f 22 6).length = 6 := length_slice _ _ _ (by unfold ARP_MSG_SIZE at hf; omega)
    rw [defenseFilter_pos_iff _ _ _ _ hf, arpValidate_iff _ _ _ _ hf, hord.1, hord.2.1, hord.2.2,
      ne_eq, mac.eq_iff_parts _ hl, slice_slice f 22 6 0 4 (by omega),
      slice_slice f 22 6 4 2 (by omega)]

/-- On a little endian host the filter of 192.168.1.10 drops the frame of a host that
uses that address, which the emulation reports as a conflict. -/
theorem arpDefenseFilter_drops_conflict :
    ARP_MSG_SIZE ≤ (arpFrom [2, 0, 0, 0, 0, 9] [192, 168, 1, 10]).length ∧
      ¬ DefenseFilterAgrees .little 0xc0a8010a ⟨[2, 0, 0, 0, 0, 1], rfl⟩
        (arpFrom [2, 0, 0, 0, 0, 9] [192, 168, 1, 10]) := by
  refine ⟨by decide, fun h => ?_⟩
  have := h .zero
  revert this
  decide

end Ndhc
