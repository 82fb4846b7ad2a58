import Mathlib.Data.Nat.Bitwise
import Ndhc.Ifch.Steer

/-!
# The address command

`perform_ip4set` cuts the argument of `ip4:` into its addresses with a Ragel machine of its
own and hands them to `perform_ip_subnet_bcast`, which turns them into the request to the
kernel.  Address and prefix arrive as the server sent them.  The broadcast address never
does: the action that leaves it sets `have_ip` where it should set `have_bcast`, so the
standard broadcast address is requested in its place (`address_as_sent_iff`).
-/

namespace Ndhc

open Bytes

/-! ## Text to address -/

/-- The loop of `inet_pton(AF_INET, ...)`: the octets complete, the one under way, and
whether a digit of it was seen. -/
def inetPtonLoop : List UInt8 → List UInt8 → Nat → Bool → Option (List UInt8)
  | [], octets, cur, seen =>
    if seen = true ∧ octets.length = 3 then some (octets ++ [cur.toUInt8]) else none
  | c :: cs, octets, cur, seen =>
    if isDigit c then
      -- no leading zeros
      if seen = true ∧ cur = 0 then none
      else if 255 < cur * 10 + (c.toNat - 48) then none
      else inetPtonLoop cs octets (cur * 10 + (c.toNat - 48)) true
    else if c = 46 ∧ seen = true ∧ octets.length < 3 then
      inetPtonLoop cs (octets ++ [cur.toUInt8]) 0 false
    else none

def inetPton (text : List UInt8) : Option (List UInt8) := inetPtonLoop text [] 0 false

/-! ## Prefix lengths -/

def bpm37 : List Nat := [
  32, 0, 1, 26, 2, 23, 27, 0, 3, 16, 24, 30, 28, 11, 0, 13, 4, 7, 17,
  0, 25, 22, 31, 15, 29, 10, 12, 6, 0, 21, 14, 9, 5, 20, 8, 19, 18]

def trailz (v : UInt32) : Nat := bpm37.getD ((-v &&& v).toNat % 37) 0

/-- `subnet4_to_prefixlen`, of a mask in host order. -/
def subnet4ToPrefixlen (sn : UInt32) : Nat := 32 - trailz sn

/-! ## The request -/

/-- What `perform_ip_subnet_bcast` asks of the kernel. -/
structure AddrRequest where
  ipaddr : UInt32
  prefixlen : Nat
  bcast : UInt32
  deriving DecidableEq, Repr

/-- The shift is one of `unsigned long`, wider than any prefix length. -/
def standardBcast (ipaddr : UInt32) (prefixlen : Nat) : UInt32 :=
  ipaddr ||| (0xffffffff >>> prefixlen).toUInt32

section
variable {τ : Type} (kernel : τ → AddrRequest → τ × Int)

def performIpSubnetBcast (u : τ) (strIpaddr strSubnet : List UInt8) (strBcast : Option (List UInt8)) :
    τ × Int :=
  match inetPton strIpaddr, inetPton strSubnet with
  | some ipaddr, some subnet =>
    let prefixlen := subnet4ToPrefixlen (word32 subnet)
    match strBcast with
    | some str =>
      match inetPton str with
      | some bcast => kernel u ⟨word32 ipaddr, prefixlen, word32 bcast⟩
      | none => (u, -99)
    | none => kernel u ⟨word32 ipaddr, prefixlen, standardBcast (word32 ipaddr) prefixlen⟩
  | _, _ => (u, -99)

end

/-! ## ipv4set_parser -/

def INET_ADDRSTRLEN : Nat := 16

/-- The machine's position, the bytes since `arg_start`, and the variables of
`perform_ip4set`. -/
structure Ip4Exec where
  pos : ArgPos
  arg : List UInt8
  haveIp : Bool
  haveSubnet : Bool
  haveBcast : Bool
  ip4Addr : List UInt8
  ip4Subnet : List UInt8
  ip4Bcast : List UInt8
  deriving DecidableEq, Repr

namespace Ip4Exec

def init : Ip4Exec := ⟨.addr 0 0 0, [], false, false, false, [], [], []⟩

/-- Whether the argument fits its buffer. -/
def fits (x : Ip4Exec) : Prop := 0 < x.arg.length ∧ x.arg.length < INET_ADDRSTRLEN

instance (x : Ip4Exec) : Decidable x.fits := inferInstanceAs (Decidable (_ ∧ _))

def ipEn (x : Ip4Exec) : Ip4Exec :=
  if x.fits then { x with haveIp := true, ip4Addr := x.arg } else x

def snEn (x : Ip4Exec) : Ip4Exec :=
  if x.fits then { x with haveSubnet := true, ip4Subnet := x.arg } else x

/-- Sets `have_ip`, as `IpEn` does. -/
def bcEn (x : Ip4Exec) : Ip4Exec :=
  if x.fits then { x with haveIp := true, ip4Bcast := x.arg } else x

/-- The action on leaving an address, by the commas before it. -/
def leave (x : Ip4Exec) : Ip4Exec :=
  match x.pos with
  | .addr 0 _ _ => x.ipEn
  | .addr 1 _ _ => x.snEn
  | .addr _ _ _ => x.bcEn
  | _ => x

/-- The bytes since `arg_start`; `XSt` on the first of an address. -/
def extended (x : Ip4Exec) (c : UInt8) : List UInt8 :=
  match x.pos with
  | .addr _ 0 0 => [c]
  | _ => x.arg ++ [c]

/-- The two forms of the command are the argument grammar of `ip4:`. -/
def grammar : ArgKind := .addrs 1 (some 2)

def step (x : Ip4Exec) (c : UInt8) : Option Ip4Exec :=
  match grammar.next x.pos c with
  | none => none
  | some q => if c = 44 then some { x.leave with pos := q } else some { x with pos := q, arg := x.extended c }

/-- To the end of the text, where a final state leaves its last address. -/
def run : List UInt8 → Ip4Exec → Option Ip4Exec
  | [], x => if grammar.accepts x.pos then some x.leave else none
  | c :: cs, x =>
    match x.step c with
    | none => none
    | some y => run cs y

end Ip4Exec

def performIp4set {τ : Type} (kernel : τ → AddrRequest → τ × Int) (u : τ) (buf : List UInt8) : τ × Int :=
  match Ip4Exec.run buf .init with
  | none => (u, -1)
  | some x =>
    if x.haveIp = false then (u, -1)
    else if x.haveSubnet = false then (u, -1)
    else performIpSubnetBcast kernel u x.ip4Addr x.ip4Subnet
      (if x.haveBcast then some x.ip4Bcast else none)

/-! ## The mask's last bit -/

/-- The zero bits of a number of `n` bits below its last set bit; all of them if it is `0`. -/
def zeroBits : Nat → Nat → Nat
  | 0, _ => 0
  | n + 1, v => if v % 2 = 0 then zeroBits n (v / 2) + 1 else 0

/-- The length of a prefix with this mask: up to its last set bit. -/
def prefixLength (mask : UInt32) : Nat := 32 - zeroBits 32 mask.toNat

theorem and_complement (n v : Nat) (hv : v < 2 ^ n) : (2 ^ n - (v + 1)) &&& v = 0 := by
  apply Nat.eq_of_testBit_eq
  intro i
  rw [Nat.testBit_and, Nat.testBit_two_pow_sub_succ hv, Nat.zero_testBit]
  cases v.testBit i <;> simp

theorem and_neg_eq (n v : Nat) (h0 : 0 < v) (hv : v < 2 ^ n) :
    (2 ^ n - v) &&& v = 2 ^ zeroBits n v ∧ zeroBits n v < n := by
  induction n generalizing v with
  | zero => omega
  | succ n ih =>
    rw [Nat.pow_succ] at hv ⊢
    unfold zeroBits
    split
    · next heven =>
      obtain ⟨hand, hlt⟩ := ih (v / 2) (by omega) (by omega)
      have hbits := Nat.land_bit false (2 ^ n - v / 2) false (v / 2)
      simp only [Nat.bit_false_apply, Bool.and_false] at hbits
      have h1 : 2 ^ n * 2 - v = 2 * (2 ^ n - v / 2) := by omega
      have h2 : v = 2 * (v / 2) := by omega
      refine ⟨?_, by omega⟩
      conv_lhs => rw [h1]; rhs; rw [h2]
      rw [hbits, hand, Nat.pow_succ, Nat.mul_comm]
    · next hodd =>
      have hbits := Nat.land_bit true (2 ^ n - (v / 2 + 1)) true (v / 2)
      simp only [Nat.bit_true_apply, Bool.and_true, and_complement n (v / 2) (by omega)] at hbits
      have h1 : 2 ^ n * 2 - v = 2 * (2 ^ n - (v / 2 + 1)) + 1 := by omega
      have h2 : v = 2 * (v / 2) + 1 := by omega
      refine ⟨?_, by omega⟩
      conv_lhs => rw [h1]; rhs; rw [h2]
      exact hbits

theorem bpm37_two_pow : ∀ k < 32, bpm37.getD (2 ^ k % 37) 0 = k := by
  decide

/-- The table is right about every word. -/
theorem trailz_eq (v : UInt32) : trailz v = zeroBits 32 v.toNat := by
  have hlt := v.toNat_lt
  unfold trailz
  rw [UInt32.toNat_and, UInt32.toNat_neg]
  rcases Nat.eq_zero_or_pos v.toNat with h0 | h0
  · rw [h0]
    decide
  · obtain ⟨hand, hk⟩ := and_neg_eq 32 v.toNat h0 hlt
    have hneg : (UInt32.size - v.toNat) % UInt32.size = 2 ^ 32 - v.toNat :=
      Nat.mod_eq_of_lt (by simp only [UInt32.size]; omega)
    rw [hneg, hand, bpm37_two_pow _ hk]

theorem subnet4ToPrefixlen_eq (sn : UInt32) : subnet4ToPrefixlen sn = prefixLength sn := by
  rw [subnet4ToPrefixlen, trailz_eq, prefixLength]

/-- A mask of `n` leading bits has prefix length `n`. -/
theorem prefixLength_mask : ∀ n ≤ 32, prefixLength (2 ^ 32 - 2 ^ (32 - n) : Nat).toUInt32 = n := by
  decide +kernel

/-! ## Addresses and their text -/

/-- Digits of one octet. -/
def octetDigits : List UInt8 → Nat → Bool → Option Nat
  | [], cur, seen => if seen then some cur else none
  | c :: cs, cur, seen =>
    if isDigit c = false ∨ seen = true ∧ cur = 0 ∨ 255 < cur * 10 + (c.toNat - 48) then none
    else octetDigits cs (cur * 10 + (c.toNat - 48)) true

theorem inetPtonLoop_digits (ds rest octets : List UInt8) (cur n : Nat) (seen : Bool)
    (h : octetDigits ds cur seen = some n) :
    inetPtonLoop (ds ++ rest) octets cur seen = inetPtonLoop rest octets n true := by
  induction ds generalizing cur seen with
  | nil =>
    simp only [octetDigits] at h
    split at h
    · next hs =>
      cases h
      rw [hs]
      rfl
    · cases h
  | cons c ds ih =>
    simp only [octetDigits] at h
    split at h
    · cases h
    · next hc =>
      simp only [not_or, Bool.not_eq_false] at hc
      rw [List.cons_append, inetPtonLoop, if_pos hc.1, if_neg hc.2.1, if_neg hc.2.2]
      exact ih _ _ h

theorem octetDigits_decimal : ∀ n < 256, octetDigits (decimal n) 0 false = some n := by
  decide +kernel

theorem inetPtonLoop_octet (b : UInt8) (rest octets : List UInt8) :
    inetPtonLoop (decimal b.toNat ++ rest) octets 0 false = inetPtonLoop rest octets b.toNat true :=
  inetPtonLoop_digits _ rest octets 0 _ false (octetDigits_decimal _ b.toNat_lt)

theorem inetPtonLoop_dot (b : UInt8) (rest octets : List UInt8) (h : octets.length < 3) :
    inetPtonLoop (46 :: rest) octets b.toNat true = inetPtonLoop rest (octets ++ [b]) 0 false := by
  have hd : isDigit 46 = false := by decide
  have hb : b.toNat.toUInt8 = b := UInt8.ofNat_toNat
  simp [inetPtonLoop, hd, h, hb]

/-- What `inet_ntop` writes, `inet_pton` reads. -/
theorem inetPton_inetNtop (bs : List UInt8) :
    inetPton (inetNtop bs) = some [at0 bs 0, at0 bs 1, at0 bs 2, at0 bs 3] := by
  have hend (b : UInt8) (octets : List UInt8) (h : octets.length = 3) :
      inetPtonLoop [] octets b.toNat true = some (octets ++ [b]) := by
    have hb : b.toNat.toUInt8 = b := UInt8.ofNat_toNat
    simp [inetPtonLoop, h, hb]
  unfold inetPton inetNtop
  simp only [List.append_assoc, List.cons_append]
  rw [inetPtonLoop_octet, inetPtonLoop_dot _ _ _ (by decide), inetPtonLoop_octet,
    inetPtonLoop_dot _ _ _ (by simp), inetPtonLoop_octet, inetPtonLoop_dot _ _ _ (by simp),
    ← List.append_nil (decimal (at0 bs 3).toNat), inetPtonLoop_octet, hend _ _ (by simp)]
  rfl

theorem inetNtop_take (bs : List UInt8) : inetNtop (bs.take 4) = inetNtop bs := by
  have h (i : Nat) (hi : i < 4) : at0 (bs.take 4) i = at0 bs i := by
    simp only [at0, List.getD_eq_getElem?_getD, List.getElem?_take, if_pos hi]
  unfold inetNtop
  rw [h 0 (by decide), h 1 (by decide), h 2 (by decide), h 3 (by decide)]

theorem four_bytes (bs : List UInt8) (h : bs.length = 4) :
    [at0 bs 0, at0 bs 1, at0 bs 2, at0 bs 3] = bs := by
  match bs, h with
  | [a, b, c, d], _ => rfl

theorem inetPton_inetNtop_self (bs : List UInt8) (h : bs.length = 4) :
    inetPton (inetNtop bs) = some bs := by
  rw [inetPton_inetNtop, four_bytes bs h]

/-! ## The machine on addresses -/

namespace Ip4Exec

/-- Past the first byte of an address. -/
def Inside : ArgPos → Prop
  | .addr _ dots digits => 0 < dots + digits
  | _ => False

theorem inside_next (q q' : ArgPos) (c : UInt8) (hc : c ≠ 44) (h : grammar.next q c = some q') :
    Inside q' := by
  obtain ⟨commas, dots, digits, -, ⟨-, -, rfl⟩ | ⟨-, -, -, rfl⟩ | ⟨hcomma, -⟩⟩ := ArgKind.next_addrs _ _ q q' c h
  · show 0 < dots + (digits + 1)
    omega
  · show 0 < dots + 1 + 0
    omega
  · exact absurd hcomma hc

theorem extended_of_inside (x : Ip4Exec) (c : UInt8) (h : Inside x.pos) : x.extended c = x.arg ++ [c] := by
  unfold extended
  split
  · next hp =>
    rw [hp] at h
    exact absurd h (Nat.lt_irrefl 0)
  · rfl

theorem run_inside (as rest : List UInt8) (x : Ip4Exec) (q : ArgPos) (hx : Inside x.pos)
    (h44 : 44 ∉ as) (hf : grammar.feed x.pos as = some q) :
    run (as ++ rest) x = run rest { x with pos := q, arg := x.arg ++ as } := by
  induction as generalizing x with
  | nil =>
    cases hf
    rw [List.append_nil]
    rfl
  | cons c as ih =>
    obtain ⟨hc, h44⟩ := List.ne_and_not_mem_of_not_mem_cons h44
    obtain ⟨-, q1, hq1, hf⟩ := grammar.feed_cons x.pos q c as hf
    have hstep : x.step c = some { x with pos := q1, arg := x.arg ++ [c] } := by
      rw [step, hq1]
      simp only [if_neg (Ne.symm hc), x.extended_of_inside c hx]
    have hin := inside_next x.pos q1 c (Ne.symm hc) hq1
    simp only [List.cons_append, run, hstep]
    rw [ih { x with pos := q1, arg := x.arg ++ [c] } hin h44 hf]
    simp

/-- Over one address, from its first byte to its end. -/
theorem run_address (bs rest : List UInt8) (x : Ip4Exec) (commas : Nat) (hx : x.pos = .addr commas 0 0) :
    ∃ d, 1 ≤ d ∧
      run (inetNtop bs ++ rest) x = run rest { x with pos := .addr commas 3 d, arg := inetNtop bs } := by
  obtain ⟨d, hd, hf⟩ := feed_inetNtop 1 (some 2) commas bs
  obtain ⟨c, as, has⟩ := List.exists_cons_of_ne_nil (inetNtop_ne_nil bs)
  have h44 := comma_not_mem_inetNtop bs
  refine ⟨d, hd, ?_⟩
  rw [has] at hf h44 ⊢
  obtain ⟨hc, h44⟩ := List.ne_and_not_mem_of_not_mem_cons h44
  obtain ⟨-, q1, hq1, hf⟩ := ArgKind.feed_cons _ _ _ c as hf
  have hext : x.extended c = [c] := by
    unfold extended
    rw [hx]
    rfl
  have hstep : x.step c = some { x with pos := q1, arg := [c] } := by
    rw [step, hx]
    show (match grammar.next (.addr commas 0 0) c with | none => none | some q => _) = _
    rw [show grammar.next (.addr commas 0 0) c = some q1 from hq1]
    simp only [if_neg (Ne.symm hc), hext]
  simp only [List.cons_append, run, hstep]
  rw [run_inside as rest { x with pos := q1, arg := [c] } _ (inside_next _ q1 c (Ne.symm hc) hq1)
    h44 hf]
  rfl

/-- The comma behind an address that is not the last. -/
theorem run_comma (rest : List UInt8) (x : Ip4Exec) (commas d : Nat) (hd : 1 ≤ d) (hc : commas < 2)
    (hx : x.pos = .addr commas 3 d) :
    run (44 :: rest) x = run rest { x.leave with pos := .addr (commas + 1) 0 0 } := by
  have hnd : isDigit 44 = false := by decide
  have hn : grammar.next x.pos 44 = some (.addr (commas + 1) 0 0) := by
    rw [hx]
    simp [grammar, ArgKind.next, hnd, hd, hc]
  simp only [run, step, hn, if_true]

theorem fits_inetNtop (x : Ip4Exec) (bs : List UInt8) (h : x.arg = inetNtop bs) : x.fits := by
  have hl := length_inetNtop_le bs
  have hp := List.length_pos_iff.2 (inetNtop_ne_nil bs)
  unfold fits
  rw [h]
  exact ⟨hp, Nat.lt_succ_of_le hl⟩

/-- Up to the end of the mask. -/
theorem run_mask (a b rest : List UInt8) :
    ∃ d, 1 ≤ d ∧ run (inetNtop a ++ 44 :: (inetNtop b ++ rest)) init =
      run rest ⟨.addr 1 3 d, inetNtop b, true, false, false, inetNtop a, [], []⟩ := by
  obtain ⟨d, hd, hip⟩ := run_address a (44 :: (inetNtop b ++ rest)) init 0 rfl
  obtain ⟨d', hd', hsn⟩ := run_address b rest
    ⟨.addr 1 0 0, inetNtop a, true, false, false, inetNtop a, [], []⟩ 1 rfl
  refine ⟨d', hd', ?_⟩
  rw [hip, run_comma _ _ 0 d hd (by decide) rfl]
  have hleave : ({ init with pos := .addr 0 3 d, arg := inetNtop a } : Ip4Exec).leave =
      ⟨.addr 0 3 d, inetNtop a, true, false, false, inetNtop a, [], []⟩ := by
    show (if _ then _ else _) = _
    rw [if_pos (fits_inetNtop _ a rfl)]
    rfl
  rw [hleave]
  exact hsn

/-- Address and mask. -/
theorem run_two (a b : List UInt8) :
    ∃ pos, run (inetNtop a ++ 44 :: inetNtop b) init =
      some ⟨pos, inetNtop b, true, true, false, inetNtop a, inetNtop b, []⟩ := by
  obtain ⟨d, hd, h⟩ := run_mask a b []
  rw [List.append_nil] at h
  refine ⟨.addr 1 3 d, ?_⟩
  have hacc : grammar.accepts (.addr 1 3 d) = true := by
    simp [grammar, ArgKind.accepts, hd]
  rw [h, run, if_pos hacc]
  show some (if _ then _ else _) = _
  rw [if_pos (fits_inetNtop _ b rfl)]

/-- Address, mask and broadcast address. -/
theorem run_three (a b c : List UInt8) :
    ∃ pos, run (inetNtop a ++ 44 :: (inetNtop b ++ 44 :: inetNtop c)) init =
      some ⟨pos, inetNtop c, true, true, false, inetNtop a, inetNtop b, inetNtop c⟩ := by
  obtain ⟨d, hd, h⟩ := run_mask a b (44 :: inetNtop c)
  obtain ⟨d', hd', hbc⟩ := run_address c []
    ⟨.addr 2 0 0, inetNtop b, true, true, false, inetNtop a, inetNtop b, []⟩ 2 rfl
  refine ⟨.addr 2 3 d', ?_⟩
  have hleave : (⟨.addr 1 3 d, inetNtop b, true, false, false, inetNtop a, [], []⟩ : Ip4Exec).leave =
      ⟨.addr 1 3 d, inetNtop b, true, true, false, inetNtop a, inetNtop b, []⟩ := by
    show (if _ then _ else _) = _
    rw [if_pos (fits_inetNtop _ b rfl)]
  have hacc : grammar.accepts (.addr 2 3 d') = true := by
    simp [grammar, ArgKind.accepts, hd']
  rw [h, run_comma _ _ 1 d hd (by decide) rfl, hleave]
  rw [List.append_nil] at hbc
  rw [hbc, run, if_pos hacc]
  show some (if _ then _ else _) = _
  rw [if_pos (fits_inetNtop _ c rfl)]

/-- What the machine has by its position: the address under way fits its buffer once complete, and
the addresses before it were taken. -/
def Cutting (x : Ip4Exec) : Prop :=
  ∃ commas dots digits, x.pos = .addr commas dots digits ∧ dots ≤ 3 ∧ digits ≤ 3 ∧
    (0 < dots + digits → 0 < x.arg.length ∧ x.arg.length ≤ 4 * dots + digits) ∧
    (1 ≤ commas → x.haveIp = true) ∧ (2 ≤ commas → x.haveSubnet = true) ∧ x.haveBcast = false

theorem leave_of_cutting (x : Ip4Exec) (hx : Cutting x) (hlast : ∃ commas digits,
    x.pos = .addr commas 3 digits ∧ 1 ≤ digits) :
    x.leave.haveIp = true ∧ x.leave.haveBcast = false ∧
      ∀ commas dots digits, x.pos = .addr commas dots digits → 1 ≤ commas → x.leave.haveSubnet = true := by
  obtain ⟨commas, dots, digits, hpos, -, hdigits, hlen, hip, hsn, hbc⟩ := hx
  obtain ⟨commas', digits', hpos', hd⟩ := hlast
  rw [hpos] at hpos'
  cases hpos'
  have hfits : x.fits := by
    obtain ⟨h0, h1⟩ := hlen (by omega)
    exact ⟨h0, by rw [INET_ADDRSTRLEN]; omega⟩
  match commas with
  | 0 =>
    simp only [leave, hpos, ipEn, if_pos hfits, hbc, true_and]
    intro _ _ _ hq hc
    cases hq
    exact absurd hc (by decide)
  | 1 => simp [leave, hpos, snEn, hfits, hbc, hip]
  | commas + 2 => simp [leave, hpos, bcEn, hfits, hbc, hsn]

theorem length_extended (x : Ip4Exec) (c : UInt8) (commas dots digits : Nat)
    (hpos : x.pos = .addr commas dots digits)
    (hlen : 0 < dots + digits → 0 < x.arg.length ∧ x.arg.length ≤ 4 * dots + digits) :
    0 < (x.extended c).length ∧ (x.extended c).length ≤ 4 * dots + digits + 1 := by
  rcases Nat.eq_zero_or_pos (dots + digits) with h0 | h0
  · obtain ⟨rfl, rfl⟩ : dots = 0 ∧ digits = 0 := by omega
    unfold extended
    rw [hpos]
    simp
  · rw [x.extended_of_inside c (by rw [hpos]; exact h0), List.length_append, List.length_singleton]
    have hx := hlen h0
    omega

theorem step_cutting (x : Ip4Exec) (c : UInt8) (q : ArgPos) (hx : Cutting x)
    (hq : grammar.next x.pos c = some q) : ∃ y, x.step c = some y ∧ y.pos = q ∧ Cutting y := by
  have hcut := hx
  obtain ⟨commas, dots, digits, hpos, hdots, hdigits, hlen, hip, hsn, hbc⟩ := hx
  obtain ⟨hpositive, hbound⟩ := x.length_extended c commas dots digits hpos hlen
  obtain ⟨_, _, _, hpos', hmove⟩ := ArgKind.next_addrs _ _ x.pos q c hq
  cases hpos.symm.trans hpos'
  rw [step, hq]
  rcases hmove with ⟨hdigit, hroom, rfl⟩ | ⟨rfl, hroom, -, rfl⟩ | ⟨rfl, rfl, hd, rfl⟩
  · have hc : c ≠ 44 := by
      rintro rfl
      exact absurd hdigit (by decide)
    exact ⟨_, if_neg hc, rfl, commas, dots, digits + 1, rfl, hdots, hroom, fun _ => ⟨hpositive, hbound⟩,
      hip, hsn, hbc⟩
  · have hfits : (x.extended 46).length ≤ 4 * (dots + 1) + 0 := by omega
    exact ⟨_, if_neg (by decide), rfl, commas, dots + 1, 0, rfl, hroom, Nat.zero_le 3,
      fun _ => ⟨hpositive, hfits⟩, hip, hsn, hbc⟩
  · obtain ⟨h1, h2, h3⟩ := leave_of_cutting x hcut ⟨commas, digits, hpos, hd⟩
    exact ⟨_, if_pos rfl, rfl, commas + 1, 0, 0, rfl, Nat.zero_le 3, Nat.zero_le 3,
      fun h0 => absurd h0 (Nat.lt_irrefl 0), fun _ => h1,
      fun h => h3 commas 3 digits hpos (Nat.le_of_succ_le_succ h), h2⟩

/-- **Any argument of the grammar** is cut, into an address and a mask at least. -/
theorem run_cutting (as : List UInt8) (x : Ip4Exec) (q : ArgPos) (hx : Cutting x)
    (hf : grammar.feed x.pos as = some q) (hq : grammar.accepts q = true) :
    ∃ y, run as x = some y ∧ y.haveIp = true ∧ y.haveSubnet = true ∧ y.haveBcast = false := by
  induction as generalizing x with
  | nil =>
    cases hf
    have hcut := hx
    have hacc := hq
    obtain ⟨commas, dots, digits, hpos, -⟩ := hx
    rw [hpos] at hacc
    simp only [grammar, ArgKind.accepts, decide_eq_true_eq] at hacc
    obtain ⟨rfl, hd, hc⟩ := hacc
    obtain ⟨h1, h2, h3⟩ := leave_of_cutting x hcut ⟨commas, digits, hpos, hd⟩
    exact ⟨x.leave, if_pos hq, h1, h3 commas 3 digits hpos hc, h2⟩
  | cons c as ih =>
    obtain ⟨-, q', hq', hf⟩ := grammar.feed_cons x.pos q c as hf
    obtain ⟨y, hstep, hpos, hy⟩ := step_cutting x c q' hx hq'
    rw [← hpos] at hf
    simp only [run, hstep]
    exact ih y hy hf

theorem cutting_init : Cutting init :=
  ⟨0, 0, 0, rfl, by decide, by decide, fun h => absurd h (by decide), fun h => absurd h (by decide),
    fun h => absurd h (by decide), rfl⟩

end Ip4Exec

/-- Address and mask reach the kernel; a broadcast address does not. -/
theorem performIp4set_eq {τ : Type} (kernel : τ → AddrRequest → τ × Int) (u : τ) (a b : List UInt8)
    (c : Option (List UInt8)) (ha : a.length = 4) (hb : b.length = 4) :
    performIp4set kernel u (inetNtop a ++ 44 :: (inetNtop b ++ (c.elim [] fun c => 44 :: inetNtop c))) =
      kernel u ⟨word32 a, subnet4ToPrefixlen (word32 b),
        standardBcast (word32 a) (subnet4ToPrefixlen (word32 b))⟩ := by
  have hreq : performIpSubnetBcast kernel u (inetNtop a) (inetNtop b) none =
      kernel u ⟨word32 a, subnet4ToPrefixlen (word32 b),
        standardBcast (word32 a) (subnet4ToPrefixlen (word32 b))⟩ := by
    simp only [performIpSubnetBcast, inetPton_inetNtop_self _ ha, inetPton_inetNtop_self _ hb]
  unfold performIp4set
  cases c with
  | none =>
    obtain ⟨pos, hrun⟩ := Ip4Exec.run_two a b
    rw [Option.elim_none, List.append_nil, hrun]
    exact hreq
  | some c =>
    obtain ⟨pos, hrun⟩ := Ip4Exec.run_three a b c
    rw [Option.elim_some, hrun]
    exact hreq

/-! ## From packet to request -/

section
variable (p : DhcpMsg)

/-- The mask `send_client_ip` sends. -/
def sentMask : List UInt8 :=
  if 4 ≤ (option p DCODE_SUBNET).length then (option p DCODE_SUBNET).take 4 else [255, 255, 255, 0]

/-- The broadcast address it sends. -/
def sentBcast : Option (List UInt8) :=
  if 4 ≤ (option p DCODE_BROADCAST).length then some ((option p DCODE_BROADCAST).take 4) else none

theorem length_sentMask : (sentMask p).length = 4 := by
  unfold sentMask
  split
  · next h => rw [List.length_take, Nat.min_eq_left h]
  · rfl

theorem length_yiaddr : (slice p.bytes 16 4).length = 4 :=
  length_slice p.bytes 16 4 (by rw [p.size_eq]; decide)

/-- The argument of the `ip4` command. -/
def ip4Arg : List UInt8 :=
  inetNtop (slice p.bytes 16 4) ++ 44 ::
    (inetNtop (sentMask p) ++ ((sentBcast p).elim [] fun bc => 44 :: inetNtop bc))

theorem matches_ip4Arg : (ArgKind.addrs 1 (some 2)).Matches (ip4Arg p) := by
  unfold ip4Arg
  cases sentBcast p with
  | none =>
    rw [Option.elim_none, List.append_nil]
    exact oneCommand_addrs _ _
  | some bc =>
    have h := oneCommand_addrs_bcast (slice p.bytes 16 4) (sentMask p) bc
    rw [List.append_assoc] at h
    exact h

theorem length_ip4Arg_le : (ip4Arg p).length ≤ 47 := by
  have h1 := length_inetNtop_le (slice p.bytes 16 4)
  have h2 := length_inetNtop_le (sentMask p)
  unfold ip4Arg
  cases sentBcast p with
  | none =>
    simp only [Option.elim_none, List.append_nil, List.length_append, List.length_cons]
    omega
  | some bc =>
    have h3 := length_inetNtop_le bc
    simp only [Option.elim_some, List.length_append, List.length_cons]
    omega

variable (cfgPacket : DhcpMsg)

/-- What makes `send_client_ip` write its command. -/
def addrChanged : Prop :=
  slice p.bytes 16 4 ≠ slice cfgPacket.bytes 16 4 ∨
    (4 ≤ (option p DCODE_SUBNET).length ∧ option p DCODE_SUBNET ≠ option cfgPacket DCODE_SUBNET) ∨
    (4 ≤ (option p DCODE_BROADCAST).length ∧
      option p DCODE_BROADCAST ≠ option cfgPacket DCODE_BROADCAST)

instance : Decidable (addrChanged p cfgPacket) := inferInstanceAs (Decidable (_ ∨ _ ∨ _))

theorem addrOption_eq (code : UInt8) : addrOption cfgPacket p code =
    if 4 ≤ (option p code).length then
      some (inetNtop (option p code), decide (option p code ≠ option cfgPacket code))
    else none := rfl

theorem addrOption_any (code : UInt8) : (addrOption cfgPacket p code).any (·.2) = true ↔
    4 ≤ (option p code).length ∧ option p code ≠ option cfgPacket code := by
  rw [addrOption_eq]
  split
  · next h => simp [h]
  · next h => simp [h]

theorem addrOption_subnet : ((addrOption cfgPacket p DCODE_SUBNET).map (·.1)).getD
    (ascii "255.255.255.0") = inetNtop (sentMask p) := by
  rw [addrOption_eq, sentMask]
  split
  · exact (inetNtop_take _).symm
  · decide

theorem addrOption_bcast :
    (addrOption cfgPacket p DCODE_BROADCAST).map (·.1) = (sentBcast p).map inetNtop := by
  rw [addrOption_eq, sentBcast]
  split
  · rw [Option.map_some, Option.map_some, inetNtop_take]
  · rfl

theorem sendClientIp_eq : sendClientIp cfgPacket p bindBufSize =
    if addrChanged p cfgPacket then ascii "ip4:" ++ ip4Arg p ++ [59] else [] := by
  have hl := length_ip4Arg_le p
  have h4 : (ascii "ip4:").length = 4 := rfl
  have hroom : ¬ bindBufSize ≤ (ascii "ip4:" ++ ip4Arg p ++ [59]).length := by
    simp only [bindBufSize, List.length_append, List.length_cons, List.length_nil]
    omega
  have hcond : (!decide (slice p.bytes 16 4 ≠ slice cfgPacket.bytes 16 4) &&
      !(addrOption cfgPacket p DCODE_SUBNET).any (·.2) &&
      !(addrOption cfgPacket p DCODE_BROADCAST).any (·.2)) = true ↔ ¬ addrChanged p cfgPacket := by
    rw [Bool.and_eq_true, Bool.and_eq_true, Bool.not_eq_true', Bool.not_eq_true', Bool.not_eq_true',
      ← Bool.not_eq_true, ← Bool.not_eq_true, ← Bool.not_eq_true, addrOption_any, addrOption_any,
      decide_eq_true_eq, addrChanged, not_or, not_or, and_assoc]
  have hbc := addrOption_bcast p cfgPacket
  unfold sendClientIp
  simp only [hcond, addrOption_subnet]
  by_cases hch : addrChanged p cfgPacket
  · rw [if_neg (not_not.2 hch), if_pos hch]
    cases ha : addrOption cfgPacket p DCODE_BROADCAST with
    | none =>
      rw [ha, Option.map_none] at hbc
      have htext : ascii "ip4:" ++ inetNtop (slice p.bytes 16 4) ++ 44 :: inetNtop (sentMask p) ++ [59] =
          ascii "ip4:" ++ ip4Arg p ++ [59] := by
        simp [ip4Arg, Option.map_eq_none_iff.1 hbc.symm]
      simp only [htext, if_neg hroom]
    | some bc =>
      rw [ha, Option.map_some] at hbc
      obtain ⟨bs, hbs, hbc⟩ := Option.map_eq_some_iff.1 hbc.symm
      have htext : ascii "ip4:" ++ inetNtop (slice p.bytes 16 4) ++ 44 :: inetNtop (sentMask p) ++
          44 :: bc.1 ++ [59] = ascii "ip4:" ++ ip4Arg p ++ [59] := by
        simp [ip4Arg, hbs, hbc]
      simp only [htext, if_neg hroom]
  · rw [if_pos hch, if_neg hch]

/-! ## Statement -/

/-- The request the server's packet calls for. -/
def wantedRequest : AddrRequest :=
  let prefixlen := prefixLength (word32 (sentMask p))
  ⟨p.yiaddr, prefixlen,
    ((sentBcast p).map word32).getD (standardBcast p.yiaddr prefixlen)⟩

/-- `Dispatch` with a record of the requests; what the kernel and the other commands do is
open. -/
def ip4Dispatch {ω : Type} (kernel : ω → AddrRequest → ω × Int)
    (others : ω → IfchdState → List UInt8 → ω × Int) (u : ω × List AddrRequest) (st : IfchdState)
    (arg : List UInt8) : (ω × List AddrRequest) × Int :=
  if st = .ip4set then
    performIp4set (fun u r => (((kernel u.1 r).1, u.2 ++ [r]), (kernel u.1 r).2)) u arg
  else (((others u.1 st arg).1, u.2), (others u.1 st arg).2)

end

section
variable {ω : Type} (kernel : ω → AddrRequest → ω × Int)
  (others : ω → IfchdState → List UInt8 → ω × Int) (w : ω) (cfgPacket p : DhcpMsg)

/-- The requests ifch makes as it executes the buffer of a bind. -/
def bindRequests : List AddrRequest :=
  (executeBuffer (ip4Dispatch kernel others) [] (bindBuffer cfgPacket p) (w, [])).2.2.2

/-- A dispatch makes one request more or none. -/
theorem ip4Dispatch_isPrefix (u : ω × List AddrRequest) (st : IfchdState) (arg : List UInt8) :
    u.2 <+: (ip4Dispatch kernel others u st arg).1.2 := by
  unfold ip4Dispatch
  split
  · unfold performIp4set performIpSubnetBcast
    repeat' split
    all_goals first | exact List.prefix_refl _ | exact List.prefix_append _ _
  · exact List.prefix_refl _

theorem zero_not_mem_bindBuffer : 0 ∉ bindBuffer cfgPacket p := by
  rw [bindBuffer_eq, List.mem_append, not_or]
  refine ⟨(oneCommand_sendClientIp cfgPacket p bindBufSize).2, ?_⟩
  intro h
  obtain ⟨code, hc, h0⟩ := List.mem_flatMap.1 h
  exact zero_not_mem_cmdText cfgPacket p code hc h0

/-- The first request is for address and mask of the packet and the standard broadcast
address. -/
theorem bindRequests_head (h : addrChanged p cfgPacket) :
    (bindRequests kernel others w cfgPacket p).head? =
      some ⟨p.yiaddr, prefixLength (word32 (sentMask p)),
        standardBcast p.yiaddr (prefixLength (word32 (sentMask p)))⟩ := by
  have hdispatch : (ip4Dispatch kernel others (w, []) .ip4set (ip4Arg p)).1.2 =
      [⟨p.yiaddr, prefixLength (word32 (sentMask p)),
        standardBcast p.yiaddr (prefixLength (word32 (sentMask p)))⟩] := by
    rw [ip4Dispatch, if_pos rfl, ip4Arg, performIp4set_eq _ _ _ _ _ (length_yiaddr p) (length_sentMask p),
      subnet4ToPrefixlen_eq]
    rfl
  have hrun : (ip4Dispatch kernel others (w, []) .ip4set (ip4Arg p)).1.2 <+:
      bindRequests kernel others w cfgPacket p := by
    unfold bindRequests
    rw [executeBuffer_user _ _ _ (zero_not_mem_bindBuffer cfgPacket p)
      (length_bindBuffer_lt cfgPacket p), bindBuffer_eq, sendClientIp_eq, if_pos h, List.append_assoc]
    have hl := length_ip4Arg_le p
    have hcmd := exec_command (ip4Dispatch kernel others)
      (ascii "ip4:", .ip4set, .addrs 1 (some 2)) (by simp [commands]) (ip4Arg p)
      (bindCodes.flatMap (cmdText cfgPacket p)) (.init (w, [])) rfl (matches_ip4Arg p)
      (by simp only [MAX_BUF]; omega)
    rw [List.singleton_append, hcmd]
    split
    · exact List.prefix_refl _
    · have hrest := exec_related _ (fun u v : ω × List AddrRequest => u.2 <+: v.2)
        (fun _ => List.prefix_refl _) (ip4Dispatch_isPrefix kernel others)
        (fun _ _ _ => List.IsPrefix.trans) (bindCodes.flatMap (cmdText cfgPacket p))
      exact hrest ⟨.final, .ip4set, [], _, (ip4Dispatch kernel others (w, []) .ip4set (ip4Arg p)).1⟩
  rw [hdispatch] at hrun
  obtain ⟨rest, hrest⟩ := hrun
  rw [← hrest]
  rfl

/-- **The address is configured as the server sent it if and only if it sent no broadcast
address**, or the one that follows from address and mask. -/
theorem address_as_sent_iff (h : sendClientIp cfgPacket p bindBufSize ≠ []) :
    (bindRequests kernel others w cfgPacket p).head? = some (wantedRequest p) ↔
      ((option p DCODE_BROADCAST).length < 4 ∨
        word32 ((option p DCODE_BROADCAST).take 4) =
          standardBcast p.yiaddr (prefixLength (word32 (sentMask p)))) := by
  have hch : addrChanged p cfgPacket := by
    by_contra hch
    rw [sendClientIp_eq, if_neg hch] at h
    exact h rfl
  rw [bindRequests_head kernel others w cfgPacket p hch, wantedRequest, sentBcast]
  by_cases h4 : 4 ≤ (option p DCODE_BROADCAST).length
  · simp only [if_pos h4, Option.map_some, Option.getD_some, Option.some.injEq, AddrRequest.mk.injEq,
      true_and]
    constructor
    · intro heq
      exact Or.inr heq.symm
    · rintro (hlt | heq)
      · omega
      · exact heq.symm
  · simp only [if_neg h4, Option.map_none, Option.getD_none, true_iff]
    exact Or.inl (by omega)

end

/-- An ACK for 192.168.1.10/24 with broadcast address 192.168.1.127. -/
def ackBcast : DhcpMsg :=
  ackWith ([1, 4, 255, 255, 255, 0] ++ [28, 4, 192, 168, 1, 127] ++ [255]) (by decide +kernel)

/-- An ACK for 192.168.1.10/20 with the standard broadcast address. -/
def ackStandardBcast : DhcpMsg :=
  ackWith ([1, 4, 255, 255, 240, 0] ++ [28, 4, 192, 168, 15, 255] ++ [255]) (by decide +kernel)

/-- The broadcast address sent is not the one requested. -/
theorem bcast_not_as_sent :
    sendClientIp .zero ackBcast bindBufSize ≠ [] ∧
    (bindRequests (fun _ _ => ((), 0)) (fun _ _ _ => ((), 0)) () .zero ackBcast).head? ≠
      some (wantedRequest ackBcast) := by
  decide +kernel

theorem standardBcast_as_sent :
    (bindRequests (fun _ _ => ((), 0)) (fun _ _ _ => ((), 0)) () .zero ackStandardBcast).head? =
      some (wantedRequest ackStandardBcast) :=
  (address_as_sent_iff _ _ _ .zero ackStandardBcast (by decide +kernel)).2 (by decide +kernel)

end Ndhc
