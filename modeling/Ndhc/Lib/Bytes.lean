import Mathlib.Data.List.Basic
import Mathlib.Tactic.Ring

/-!
# Byte strings

Memory is a list of bytes.  `slice` is the part a `memcpy` or a struct field
covers, `be` the number a byte string denotes in network order, `Endian.host`
the number a host of either byte order reads from the same memory.  The facts
the rest needs: equal lengths make `be` (hence `host`) injective, a slice is
decided by the bytes under it.
-/

namespace Bytes

/-- `len` bytes from offset `off`. -/
def slice (bs : List UInt8) (off len : Nat) : List UInt8 := (bs.drop off).take len

/-- The byte at `i`; `0` outside. -/
def at0 (bs : List UInt8) (i : Nat) : UInt8 := bs.getD i 0

/-- Memory `dst` after `src` has been copied to its start. -/
def overlay (dst src : List UInt8) : List UInt8 := src ++ dst.drop src.length

/-- The number denoted in network (big endian) order. -/
def be : List UInt8 → Nat
  | [] => 0
  | b :: bs => b.toNat * 256 ^ bs.length + be bs

/-- Byte order of a host. -/
inductive Endian where
  | little
  | big
  deriving DecidableEq, Repr

/-- The integer a host reads from memory holding `bs`. -/
def Endian.host : Endian → List UInt8 → Nat
  | .big, bs => be bs
  | .little, bs => be bs.reverse

/-- `bs` as a host lays out the number that `bs` denotes in network order. -/
def Endian.order : Endian → List UInt8 → List UInt8
  | .big, bs => bs
  | .little, bs => bs.reverse

/-- An ASCII string as the bytes a C program holds. -/
def ascii (s : String) : List UInt8 := s.toList.map fun c => c.toNat.toUInt8

/-! ## Slices -/

theorem length_slice (bs : List UInt8) (off len : Nat) (h : off + len ≤ bs.length) :
    (slice bs off len).length = len := by
  simp only [slice, List.length_take, List.length_drop]
  omega

theorem slice_append_left (as bs : List UInt8) (off len : Nat) (h : off + len ≤ as.length) :
    slice (as ++ bs) off len = slice as off len := by
  unfold slice
  rw [List.drop_append_of_le_length (by omega), List.take_append_of_le_length (by simp; omega)]

theorem slice_append_right (as bs : List UInt8) (n off len : Nat) (h : as.length = n) :
    slice (as ++ bs) (n + off) len = slice bs off len := by
  unfold slice
  rw [← h, ← List.drop_drop, List.drop_left]

theorem slice_append_self (as bs : List UInt8) (n : Nat) (h : as.length = n) :
    slice (as ++ bs) 0 n = as := by
  unfold slice
  rw [List.drop_zero, ← h, List.take_left]

theorem slice_self (bs : List UInt8) (n : Nat) (h : bs.length = n) : slice bs 0 n = bs := by
  unfold slice
  rw [List.drop_zero, List.take_of_length_le (by omega)]

theorem slice_slice (bs : List UInt8) (a b off len : Nat) (h : off + len ≤ b) :
    slice (slice bs a b) off len = slice bs (a + off) len := by
  unfold slice
  rw [List.drop_take, List.take_take, List.drop_drop, Nat.min_eq_left (by omega)]

theorem at0_append_left (as bs : List UInt8) (i : Nat) (h : i < as.length) :
    at0 (as ++ bs) i = at0 as i := by
  simp only [at0, List.getD_eq_getElem?_getD]
  rw [List.getElem?_append_left h]

/-- Two adjacent slices are one. -/
theorem slice_add (bs : List UInt8) (off l m : Nat) :
    slice bs off (l + m) = slice bs off l ++ slice bs (off + l) m := by
  simp only [slice, List.take_add, List.drop_drop]

theorem at0_drop (bs : List UInt8) (i j : Nat) (h : i + j < bs.length) : at0 (bs.drop i) j = bs[i + j] := by
  simp only [at0, List.getD_eq_getElem?_getD, List.getElem?_drop, List.getElem?_eq_getElem h, Option.getD_some]

theorem slice_one (bs : List UInt8) (i : Nat) (h : i < bs.length) : slice bs i 1 = [at0 bs i] := by
  unfold slice at0
  rw [List.drop_eq_getElem_cons h, List.take_succ_cons, List.take_zero]
  simp [List.getD_eq_getElem?_getD, h]

theorem length_overlay (dst src : List UInt8) (h : src.length ≤ dst.length) :
    (overlay dst src).length = dst.length := by
  simp only [overlay, List.length_append, List.length_drop]
  omega

/-- One more behind a list with separators. -/
theorem intercalate_concat {α : Type} (sep : List α) (xs : List (List α)) (x : List α) (h : xs ≠ []) :
    sep.intercalate (xs ++ [x]) = sep.intercalate xs ++ sep ++ x := by
  induction xs with
  | nil => exact absurd rfl h
  | cons a xs ih =>
    cases xs with
    | nil => simp [List.intercalate_cons_cons]
    | cons b xs =>
      rw [List.cons_append, List.cons_append, List.intercalate_cons_cons, ← List.cons_append, ih (by simp),
        List.intercalate_cons_cons]
      simp only [List.append_assoc]

/-! ## Numbers -/

theorem be_lt (bs : List UInt8) : be bs < 256 ^ bs.length := by
  induction bs with
  | nil => simp [be]
  | cons b bs ih =>
    have hb : b.toNat + 1 ≤ 256 := b.toNat_lt
    calc be (b :: bs) < (b.toNat + 1) * 256 ^ bs.length := by
          simp only [be]
          rw [Nat.add_mul, Nat.one_mul]
          omega
      _ ≤ 256 * 256 ^ bs.length := Nat.mul_le_mul_right _ hb
      _ = 256 ^ (b :: bs).length := by rw [List.length_cons, pow_succ, Nat.mul_comm]

theorem be_append (as bs : List UInt8) : be (as ++ bs) = be as * 256 ^ bs.length + be bs := by
  induction as with
  | nil => simp [be]
  | cons a as ih =>
    simp only [List.cons_append, be, List.length_append, ih, pow_add]
    ring

/-- Network order loses nothing. -/
theorem be_inj (as bs : List UInt8) (hl : as.length = bs.length) (h : be as = be bs) : as = bs := by
  induction as generalizing bs with
  | nil =>
    cases bs with
    | nil => rfl
    | cons b bs => simp at hl
  | cons a as ih =>
    cases bs with
    | nil => simp at hl
    | cons b bs =>
      have hl' : as.length = bs.length := by simpa using hl
      simp only [be, hl'] at h
      have ha := be_lt as
      have hb := be_lt bs
      rw [hl'] at ha
      have hpos : 0 < 256 ^ bs.length := Nat.pow_pos (by omega)
      -- the leading byte is the quotient by `256 ^ length`, the tail the remainder
      have hdiv : a.toNat = b.toNat := by
        have h1 := congrArg (· / 256 ^ bs.length) h
        simp only [Nat.mul_comm _ (256 ^ bs.length), Nat.mul_add_div hpos,
          Nat.div_eq_of_lt ha, Nat.div_eq_of_lt hb, Nat.add_zero] at h1
        exact h1
      have htail : be as = be bs := by
        rw [hdiv] at h
        omega
      rw [UInt8.toNat_inj.1 hdiv, ih bs hl' htail]

theorem be_eq_iff (as bs : List UInt8) (hl : as.length = bs.length) : be as = be bs ↔ as = bs :=
  ⟨be_inj as bs hl, fun h => by rw [h]⟩

theorem Endian.length_order (e : Endian) (bs : List UInt8) : (e.order bs).length = bs.length := by
  cases e <;> simp [Endian.order]

theorem Endian.host_eq_be (e : Endian) (bs : List UInt8) : e.host bs = be (e.order bs) := by
  cases e <;> rfl

/-- A number loaded in network order equals a host integer iff the bytes are swapped alike. -/
theorem Endian.be_eq_host_iff (e : Endian) (as bs : List UInt8) (hl : as.length = bs.length) :
    be as = e.host bs ↔ as = e.order bs := by
  rw [e.host_eq_be, be_eq_iff _ _ (by rw [e.length_order, hl])]

end Bytes
