import Mathlib.Algebra.BigOperators.Group.List.Basic
import Mathlib.Data.Nat.ModEq
import Ndhc.Lib.Bytes

/-!
# One's complement sums

Addition of words of which `m` is the largest, with the carry brought round to the low end.  It is
addition modulo `m` with two zeros, `0` and `m`, and a sum is the zero `0` only if all its words
are.  So a word that holds the complement of the sum of the rest makes the whole sum `m`, whatever
the words (`sum_check_word`).

`words` are the 16-bit words of memory as a host of either byte order reads them.
-/

namespace OnesComplement

open Bytes

/-- Addition with the end-around carry. -/
def add (m a b : Nat) : Nat := if a + b ≤ m then a + b else a + b - m

/-- The sum of a sequence of words. -/
def sum (m : Nat) (ws : List Nat) : Nat := ws.foldl (add m) 0

/-- The 16-bit words of memory, a zero byte behind the last one of an odd number. -/
def words (e : Endian) : List UInt8 → List Nat
  | [] => []
  | [a] => [e.host [a, 0]]
  | a :: b :: bs => e.host [a, b] :: words e bs

/-! ## Sums -/

section
variable (m : Nat)

theorem add_le (a b : Nat) (ha : a ≤ m) (hb : b ≤ m) : add m a b ≤ m := by
  unfold add
  split <;> omega

theorem add_modEq (a b : Nat) : add m a b ≡ a + b [MOD m] := by
  unfold add
  split
  · rfl
  · next h =>
    have hsum : a + b - m + m = a + b := by omega
    calc a + b - m ≡ a + b - m + m [MOD m] := (Nat.add_modEq_right).symm
      _ = a + b := hsum

theorem add_eq_zero_iff (a b : Nat) : add m a b = 0 ↔ a + b = 0 := by
  unfold add
  split <;> omega

theorem foldl_add_le (ws : List Nat) (acc : Nat) (hacc : acc ≤ m) (hws : ∀ w ∈ ws, w ≤ m) :
    ws.foldl (add m) acc ≤ m := by
  induction ws generalizing acc with
  | nil => exact hacc
  | cons w ws ih =>
    obtain ⟨hw, hws⟩ := List.forall_mem_cons.1 hws
    exact ih (add m acc w) (add_le m acc w hacc hw) hws

theorem foldl_add_modEq (ws : List Nat) (acc : Nat) : ws.foldl (add m) acc ≡ acc + ws.sum [MOD m] := by
  induction ws generalizing acc with
  | nil => rfl
  | cons w ws ih =>
    calc (w :: ws).foldl (add m) acc ≡ add m acc w + ws.sum [MOD m] := ih (add m acc w)
      _ ≡ acc + w + ws.sum [MOD m] := (add_modEq m acc w).add_right _
      _ = acc + (w :: ws).sum := by rw [List.sum_cons, Nat.add_assoc]

theorem foldl_add_eq_zero_iff (ws : List Nat) (acc : Nat) : ws.foldl (add m) acc = 0 ↔ acc + ws.sum = 0 := by
  induction ws generalizing acc with
  | nil => exact Iff.rfl
  | cons w ws ih =>
    have hhead := add_eq_zero_iff m acc w
    rw [List.foldl_cons, ih, List.sum_cons]
    omega

theorem sum_le (ws : List Nat) (h : ∀ w ∈ ws, w ≤ m) : sum m ws ≤ m :=
  foldl_add_le m ws 0 (Nat.zero_le m) h

/-- A sum is a sum modulo `m`. -/
theorem sum_modEq (ws : List Nat) : sum m ws ≡ ws.sum [MOD m] := by
  have h := foldl_add_modEq m ws 0
  rwa [Nat.zero_add] at h

theorem sum_eq_zero_iff (ws : List Nat) : sum m ws = 0 ↔ ws.sum = 0 := by
  have h := foldl_add_eq_zero_iff m ws 0
  rwa [Nat.zero_add] at h

/-- Remainder and zero decide a word. -/
theorem eq_of_modEq (x y : Nat) (hx : x ≤ m) (hy : y ≤ m) (hmod : x ≡ y [MOD m]) (hzero : x = 0 ↔ y = 0) : x = y := by
  by_cases h0 : x = 0
  · rw [h0, hzero.1 h0]
  · have hy0 : y ≠ 0 := fun h => h0 (hzero.2 h)
    have hpred : x - 1 ≡ y - 1 [MOD m] := by
      apply Nat.ModEq.add_right_cancel' 1
      rwa [Nat.sub_add_cancel (by omega), Nat.sub_add_cancel (by omega)]
    have heq := hpred.eq_of_lt_of_lt (by omega) (by omega)
    omega

/-- Two sums added are the sum of both sequences. -/
theorem sum_append (as bs : List Nat) (ha : ∀ w ∈ as, w ≤ m) (hb : ∀ w ∈ bs, w ≤ m) :
    sum m (as ++ bs) = add m (sum m as) (sum m bs) := by
  have hboth : ∀ w ∈ as ++ bs, w ≤ m := by
    intro w hw
    rcases List.mem_append.1 hw with hw | hw
    · exact ha w hw
    · exact hb w hw
  apply eq_of_modEq m _ _ (sum_le m _ hboth) (add_le m _ _ (sum_le m as ha) (sum_le m bs hb))
  · calc sum m (as ++ bs) ≡ (as ++ bs).sum [MOD m] := sum_modEq m (as ++ bs)
      _ = as.sum + bs.sum := List.sum_append
      _ ≡ sum m as + sum m bs [MOD m] := ((sum_modEq m as).add (sum_modEq m bs)).symm
      _ ≡ add m (sum m as) (sum m bs) [MOD m] := (add_modEq m _ _).symm
  · have h1 := sum_eq_zero_iff m as
    have h2 := sum_eq_zero_iff m bs
    rw [sum_eq_zero_iff, add_eq_zero_iff, List.sum_append]
    omega

/-- The complement of a sum, put in the place of a zero word, completes it to `m`. -/
theorem sum_check_word (pre post : List Nat) (hpre : ∀ w ∈ pre, w ≤ m) (hpost : ∀ w ∈ post, w ≤ m) :
    sum m (pre ++ (m - sum m (pre ++ 0 :: post)) :: post) = m := by
  generalize hs : sum m (pre ++ 0 :: post) = s
  have hbound (c : Nat) (hc : c ≤ m) : sum m (pre ++ c :: post) ≤ m := by
    apply sum_le
    intro w hw
    rcases List.mem_append.1 hw with hw | hw
    · exact hpre w hw
    · rcases List.mem_cons.1 hw with rfl | hw
      · exact hc
      · exact hpost w hw
  have hle : s ≤ m := hs ▸ hbound 0 (Nat.zero_le m)
  have hle' : sum m (pre ++ (m - s) :: post) ≤ m := hbound (m - s) (Nat.sub_le m s)
  have htotal : (pre ++ (m - s) :: post).sum = (pre ++ 0 :: post).sum + (m - s) := by
    simp only [List.sum_append, List.sum_cons]
    omega
  -- modulo `m` the two add up to nothing
  have hmod : sum m (pre ++ (m - s) :: post) ≡ 0 [MOD m] := by
    have h0 := sum_modEq m (pre ++ 0 :: post)
    rw [hs] at h0
    calc sum m (pre ++ (m - s) :: post) ≡ (pre ++ 0 :: post).sum + (m - s) [MOD m] := htotal ▸ sum_modEq m _
      _ ≡ s + (m - s) [MOD m] := h0.symm.add_right _
      _ = m := by omega
      _ ≡ 0 [MOD m] := by simp [Nat.ModEq]
  have hdvd := (Nat.modEq_zero_iff_dvd).1 hmod
  -- and the sum is not the other zero: if all words were, `s` would be, and its complement not
  rcases Nat.eq_zero_or_pos (sum m (pre ++ (m - s) :: post)) with h0 | hpos
  · have hz := (sum_eq_zero_iff m _).1 h0
    have hs0 : s = 0 := by
      rw [← hs, sum_eq_zero_iff]
      omega
    omega
  · exact Nat.le_antisymm hle' (Nat.le_of_dvd hpos hdvd)

end

/-! ## Words of memory -/

section
variable (e : Endian)

theorem words_append (as bs : List UInt8) (h : 2 ∣ as.length) : words e (as ++ bs) = words e as ++ words e bs := by
  induction as using words.induct with
  | case1 => rfl
  | case2 a => simp at h
  | case3 a b as ih =>
    have hrest : 2 ∣ as.length := by
      simp only [List.length_cons] at h
      omega
    simp only [List.cons_append, words, ih hrest]

theorem host_pair_le (a b : UInt8) : e.host [a, b] ≤ 65535 := by
  have ha := a.toNat_lt
  have hb := b.toNat_lt
  cases e with
  | little =>
    show b.toNat * 256 ^ 1 + (a.toNat * 256 ^ 0 + 0) ≤ 65535
    omega
  | big =>
    show a.toNat * 256 ^ 1 + (b.toNat * 256 ^ 0 + 0) ≤ 65535
    omega

theorem words_le (bs : List UInt8) : ∀ w ∈ words e bs, w ≤ 65535 := by
  induction bs using words.induct with
  | case1 => simp [words]
  | case2 a =>
    intro w hw
    rw [List.mem_singleton.1 hw]
    exact host_pair_le e a 0
  | case3 a b bs ih =>
    intro w hw
    rcases List.mem_cons.1 hw with rfl | hw
    · exact host_pair_le e a b
    · exact ih w hw

end

end OnesComplement
