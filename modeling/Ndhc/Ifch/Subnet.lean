import Ndhc.Ifch.Ip4set

/-!
# Masks, prefix lengths and broadcast addresses

`trailz` isolates the last set bit of a word and looks its position up in a table of the
residues modulo 37.  `subnet4_to_prefixlen` takes the mask as it lies in memory, and
`perform_ip_subnet_bcast` fills the host part of the address with ones; both convert between
the byte orders of host and network.  On a contiguous mask the prefix length describes the
mask, and the address so made is the broadcast address of the subnet, on hosts of either byte
order (`subnet_arithmetic`).
-/

namespace Ndhc

open Bytes

/-! ## Words of a host -/

/-- `s_addr`: what a host reads where an address lies in memory. -/
def sAddr (e : Endian) (addr : List UInt8) : UInt32 := word32 (e.order addr)

/-- `ntohl`, and so `htonl`, as a function on words. -/
def ntohl (e : Endian) (v : UInt32) : UInt32 := word32 (e.order (htonl v))

/-- `subnet4_to_prefixlen`, of a mask in network order. -/
def subnet4Prefixlen (e : Endian) (sn : UInt32) : Nat := 32 - trailz (ntohl e sn)

/-- `bcast.s_addr` where none is given. -/
def derivedBcast (e : Endian) (ipaddr : UInt32) (prefixlen : Nat) : UInt32 :=
  ipaddr ||| ntohl e (0xffffffff >>> prefixlen).toUInt32

/-! ## What they are for -/

/-- Bit `k` is the last set bit of `v`; past its end if there is none. -/
def TrailingZeros (v : UInt32) (k : Nat) : Prop :=
  (∀ i < k, v.toNat.testBit i = false) ∧ (if v = 0 then k = 32 else v.toNat.testBit k = true)

/-- No zero bit above a one. -/
def ContiguousMask (m : UInt32) : Prop :=
  ∀ i j, i ≤ j → j < 32 → m.toNat.testBit i = true → m.toNat.testBit j = true

/-- The mask of `p` leading one bits. -/
def leadingOnes (p : Nat) : UInt32 := (2 ^ 32 - 2 ^ (32 - p) : Nat).toUInt32

/-! ## Trailing zeros -/

theorem zeroBits_le (n v : Nat) : zeroBits n v ≤ n := by
  induction n generalizing v with
  | zero => exact Nat.le_refl 0
  | succ n ih =>
    unfold zeroBits
    split
    · have := ih (v / 2)
      omega
    · omega

theorem testBit_of_lt_zeroBits (n v i : Nat) (h : i < zeroBits n v) : v.testBit i = false := by
  induction n generalizing v i with
  | zero => exact absurd h (Nat.not_lt_zero i)
  | succ n ih =>
    unfold zeroBits at h
    split at h
    · next heven =>
      cases i with
      | zero => simp [heven]
      | succ i =>
        rw [Nat.testBit_succ]
        exact ih (v / 2) i (by omega)
    · exact absurd h (Nat.not_lt_zero i)

theorem testBit_zeroBits (n v : Nat) (h : zeroBits n v < n) : v.testBit (zeroBits n v) = true := by
  induction n generalizing v with
  | zero => exact absurd h (Nat.not_lt_zero _)
  | succ n ih =>
    unfold zeroBits at h ⊢
    split
    · next heven =>
      rw [if_pos heven] at h
      rw [Nat.testBit_succ]
      exact ih (v / 2) (by omega)
    · next hodd =>
      have : v % 2 = 1 := by omega
      simp [this]

theorem trailz_trailingZeros (v : UInt32) : TrailingZeros v (trailz v) := by
  rw [trailz_eq]
  refine ⟨fun i hi => testBit_of_lt_zeroBits 32 v.toNat i hi, ?_⟩
  split
  · next h0 =>
    rw [h0]
    decide
  · next h0 =>
    have hpos : 0 < v.toNat := Nat.pos_of_ne_zero fun h => h0 (UInt32.toNat_inj.1 h)
    exact testBit_zeroBits 32 v.toNat (and_neg_eq 32 v.toNat hpos v.toNat_lt).2

theorem trailz_le (v : UInt32) : trailz v ≤ 32 := by
  rw [trailz_eq]
  exact zeroBits_le 32 v.toNat

/-! ## Contiguous masks -/

section
variable (m : UInt32) (hm : ContiguousMask m)
include hm

theorem testBit_mask (i : Nat) : m.toNat.testBit i = decide (trailz m ≤ i ∧ i < 32) := by
  obtain ⟨hlow, hlast⟩ := trailz_trailingZeros m
  by_cases hi : i < 32
  · by_cases hk : trailz m ≤ i
    · -- the last set bit is at or below `i`, and none above it is clear
      have hne : m ≠ 0 := by
        intro h0
        rw [if_pos h0] at hlast
        omega
      rw [if_neg hne] at hlast
      rw [hm _ i hk hi hlast, decide_eq_true ⟨hk, hi⟩]
    · rw [hlow i (by omega), decide_eq_false (fun h => hk h.1)]
  · rw [Nat.testBit_lt_two_pow (Nat.lt_of_lt_of_le m.toNat_lt (Nat.pow_le_pow_right (by decide) (by omega))),
      decide_eq_false (fun h => hi h.2)]

theorem toNat_mask : m.toNat = 2 ^ 32 - 2 ^ trailz m := by
  have hle : 2 ^ trailz m ≤ 2 ^ 32 := Nat.pow_le_pow_right (by decide) (trailz_le m)
  have hpos : 0 < 2 ^ trailz m := Nat.pow_pos (by decide)
  have hsub : 2 ^ 32 - 2 ^ trailz m = 2 ^ 32 - (2 ^ trailz m - 1 + 1) := by
    rw [Nat.sub_add_cancel hpos]
  apply Nat.eq_of_testBit_eq
  intro i
  rw [testBit_mask m hm, hsub, Nat.testBit_two_pow_sub_succ (by omega), Nat.testBit_two_pow_sub_one]
  by_cases hi : i < 32
  · by_cases hk : trailz m ≤ i
    · simp [hi, hk]
    · have hlt : i < trailz m := by omega
      simp [hi, hlt]
  · simp [hi]

/-- The prefix length describes the mask. -/
theorem mask_eq_leadingOnes : m = leadingOnes (subnet4ToPrefixlen m) := by
  have hle := trailz_le m
  have hsub : 32 - subnet4ToPrefixlen m = trailz m := by
    unfold subnet4ToPrefixlen
    omega
  unfold leadingOnes
  rw [hsub, ← toNat_mask m hm]
  exact UInt32.ofNat_toNat.symm

/-- The host part of an address. -/
theorem hostBits_eq_not : (0xffffffff >>> subnet4ToPrefixlen m : Nat).toUInt32 = ~~~m := by
  have hle := trailz_le m
  have hsum : 32 = trailz m + subnet4ToPrefixlen m := by
    unfold subnet4ToPrefixlen
    omega
  have hbits : 0xffffffff >>> subnet4ToPrefixlen m = 2 ^ trailz m - 1 := by
    apply Nat.eq_of_testBit_eq
    intro i
    rw [Nat.testBit_shiftRight, show (0xffffffff : Nat) = 2 ^ 32 - 1 from rfl, Nat.testBit_two_pow_sub_one,
      Nat.testBit_two_pow_sub_one]
    exact decide_eq_decide.2 (by omega)
  have hpos : 0 < 2 ^ trailz m := Nat.pow_pos (by decide)
  have hle' : 2 ^ trailz m ≤ 2 ^ 32 := Nat.pow_le_pow_right (by decide) hle
  rw [hbits]
  apply UInt32.toNat_inj.1
  rw [UInt32.toNat_not, toNat_mask m hm, Nat.toUInt32_eq, UInt32.toNat_ofNat', Nat.mod_eq_of_lt (by omega)]
  simp only [UInt32.size]
  omega

end

theorem or_not_eq (a m : UInt32) : a ||| ~~~m = (a &&& m) ||| ~~~m := by
  apply UInt32.eq_of_toBitVec_eq
  apply BitVec.eq_of_getLsbD_eq
  intro i hi
  simp only [UInt32.toBitVec_or, UInt32.toBitVec_and, UInt32.toBitVec_not, BitVec.getLsbD_or, BitVec.getLsbD_and,
    BitVec.getLsbD_not]
  cases m.toBitVec.getLsbD i <;> simp [hi]

/-- The broadcast address of the subnet. -/
theorem standardBcast_mask (a m : UInt32) (hm : ContiguousMask m) :
    standardBcast a (subnet4ToPrefixlen m) = (a &&& m) ||| ~~~m := by
  rw [standardBcast, hostBits_eq_not m hm, or_not_eq]

/-! ## Byte order -/

theorem order_order (e : Endian) (bs : List UInt8) : e.order (e.order bs) = bs := by
  cases e with
  | little => exact List.reverse_reverse bs
  | big => rfl

theorem ntohl_sAddr (e : Endian) (addr : List UInt8) (h : addr.length = 4) : ntohl e (sAddr e addr) = word32 addr := by
  rw [ntohl, sAddr, htonl_word32 _ (by rw [e.length_order, h]), order_order]

theorem ntohl_ntohl (e : Endian) (v : UInt32) : ntohl e (ntohl e v) = v := by
  rw [ntohl, ntohl, htonl_word32 _ (by rw [e.length_order, length_htonl]), order_order, word32_htonl]

theorem toNat_word32 (bs : List UInt8) (h : bs.length = 4) : (word32 bs).toNat = be bs := by
  rw [← be_htonl, htonl_word32 bs h]

theorem be_zipWith_or (as bs : List UInt8) (h : as.length = bs.length) :
    be (List.zipWith (· ||| ·) as bs) = be as ||| be bs := by
  induction as generalizing bs with
  | nil =>
    cases bs with
    | nil => rfl
    | cons b bs => simp at h
  | cons a as ih =>
    cases bs with
    | nil => simp at h
    | cons b bs =>
      have hl : as.length = bs.length := by simpa using h
      have ha := be_lt as
      have hb := be_lt bs
      rw [show (256 : Nat) = 2 ^ 8 from rfl, ← Nat.pow_mul] at ha hb
      rw [hl] at ha
      have hzip : (List.zipWith (· ||| ·) as bs).length = bs.length := by simp [hl]
      have hor := Nat.or_lt_two_pow ha hb
      simp only [List.zipWith_cons_cons, be, ih bs hl, hzip, hl, UInt8.toNat_or]
      rw [show (256 : Nat) = 2 ^ 8 from rfl, ← Nat.pow_mul, ← Nat.shiftLeft_eq, ← Nat.shiftLeft_eq, ← Nat.shiftLeft_eq,
        Nat.shiftLeft_add_eq_or_of_lt hor, Nat.shiftLeft_add_eq_or_of_lt ha, Nat.shiftLeft_add_eq_or_of_lt hb,
        Nat.shiftLeft_or_distrib]
      ac_rfl

theorem htonl_or (v w : UInt32) : htonl (v ||| w) = List.zipWith (· ||| ·) (htonl v) (htonl w) := by
  apply be_inj _ _ (by simp [length_htonl])
  rw [be_zipWith_or _ _ (by simp [length_htonl]), be_htonl, be_htonl, be_htonl, UInt32.toNat_or]

/-- Disjunction does not see the byte order. -/
theorem ntohl_or (e : Endian) (v w : UInt32) : ntohl e (v ||| w) = ntohl e v ||| ntohl e w := by
  have hlen : (htonl v).length = (htonl w).length := rfl
  have horder : e.order (List.zipWith (· ||| ·) (htonl v) (htonl w)) =
      List.zipWith (· ||| ·) (e.order (htonl v)) (e.order (htonl w)) := by
    cases e with
    | little => exact (List.reverse_zipWith hlen).symm
    | big => rfl
  apply UInt32.toNat_inj.1
  unfold ntohl
  rw [htonl_or, horder, UInt32.toNat_or, toNat_word32 _ (by simp [e.length_order, length_htonl]),
    be_zipWith_or _ _ (by simp [e.length_order, length_htonl]), toNat_word32 _ (by simp [e.length_order, length_htonl]),
    toNat_word32 _ (by simp [e.length_order, length_htonl])]

/-- The word a host stores is the address the request names. -/
theorem ntohl_derivedBcast (e : Endian) (ipaddr : UInt32) (prefixlen : Nat) :
    ntohl e (derivedBcast e ipaddr prefixlen) = standardBcast (ntohl e ipaddr) prefixlen := by
  rw [derivedBcast, ntohl_or, ntohl_ntohl, standardBcast]

/-! ## Main result -/

/-- **Subnet arithmetic is right.**  The table of `trailz` is never left and tells the number
of trailing zeros of every word.  On a contiguous mask, as a host of either byte order reads
it, the prefix length counts the ones of the mask, and the address derived where none is given
is `(address & mask) | ~mask`; it is the one `perform_ip_subnet_bcast` asks of the kernel. -/
theorem subnet_arithmetic (e : Endian) :
    (∀ v : UInt32, (-v &&& v).toNat % 37 < bpm37.length ∧ TrailingZeros v (trailz v)) ∧
    ∀ ip mask : List UInt8, ip.length = 4 → mask.length = 4 → ContiguousMask (word32 mask) →
      let p := subnet4Prefixlen e (sAddr e mask)
      word32 mask = leadingOnes p ∧ p ≤ 32 ∧
      ntohl e (derivedBcast e (sAddr e ip) p) = (word32 ip &&& word32 mask) ||| ~~~word32 mask ∧
      ∀ (τ : Type) (kernel : τ → AddrRequest → τ × Int) (u : τ) (strIpaddr strSubnet : List UInt8),
        inetPton strIpaddr = some ip → inetPton strSubnet = some mask →
        performIpSubnetBcast kernel u strIpaddr strSubnet none =
          kernel u ⟨word32 ip, p, ntohl e (derivedBcast e (sAddr e ip) p)⟩ := by
  refine ⟨fun v => ⟨Nat.mod_lt _ (by decide), trailz_trailingZeros v⟩, ?_⟩
  intro ip mask hip hmask hcont p
  have hp : p = subnet4ToPrefixlen (word32 mask) := by
    show 32 - trailz (ntohl e (sAddr e mask)) = _
    rw [ntohl_sAddr e mask hmask, subnet4ToPrefixlen]
  have hbcast : ntohl e (derivedBcast e (sAddr e ip) p) = standardBcast (word32 ip) p := by
    rw [ntohl_derivedBcast, ntohl_sAddr e ip hip]
  refine ⟨?_, ?_, ?_, ?_⟩
  · rw [hp]
    exact mask_eq_leadingOnes (word32 mask) hcont
  · exact Nat.sub_le 32 _
  · rw [hbcast, hp]
    exact standardBcast_mask (word32 ip) (word32 mask) hcont
  · intro τ kernel u strIpaddr strSubnet hstr hstr'
    rw [hbcast, hp, performIpSubnetBcast, hstr, hstr']

theorem subnet_arithmetic_slash22 :
    ContiguousMask (word32 [255, 255, 252, 0]) ∧
    subnet4Prefixlen .little (sAddr .little [255, 255, 252, 0]) = 22 ∧
    ntohl .little (derivedBcast .little (sAddr .little [10, 1, 2, 3]) 22) = word32 [10, 1, 3, 255] := by
  have hmask : ContiguousMask (word32 [255, 255, 252, 0]) := by
    intro i j hij hj
    have hall : ∀ j < 32, ∀ i ≤ j, (word32 [255, 255, 252, 0]).toNat.testBit i = true →
        (word32 [255, 255, 252, 0]).toNat.testBit j = true := by
      decide +kernel
    exact hall j hj i hij
  have hp : subnet4Prefixlen .little (sAddr .little [255, 255, 252, 0]) = 22 := by decide +kernel
  have h := (subnet_arithmetic .little).2 [10, 1, 2, 3] [255, 255, 252, 0] rfl rfl hmask
  rw [hp] at h
  exact ⟨hmask, hp, h.2.2.1.trans (by decide +kernel)⟩

end Ndhc
