import Mathlib.Data.List.Basic

/-!
# Memory

Memory without end, as a function from places to bytes.  `store` is what a `memcpy` or an
assignment does to it, `load` and `bytesAt` are parts of it as byte strings.  The facts the rest
needs: what was stored is read back, and everything else is as it was.
-/

namespace Ndhc

/-- The first `n` bytes. -/
def load (mem : Nat → UInt8) (n : Nat) : List UInt8 := (List.range n).map mem

/-- `bs` written at `off`. -/
def store (mem : Nat → UInt8) (off : Nat) (bs : List UInt8) : Nat → UInt8 := fun i =>
  if off ≤ i ∧ i < off + bs.length then bs.getD (i - off) 0 else mem i

theorem length_load (mem : Nat → UInt8) (n : Nat) : (load mem n).length = n := by simp [load]

theorem load_add_one (mem : Nat → UInt8) (n : Nat) : load mem (n + 1) = load mem n ++ [mem n] := by
  simp [load, List.range_succ]

/-- What was there up to `off`, and then what was written. -/
theorem load_store (mem : Nat → UInt8) (off : Nat) (bs : List UInt8) :
    load (store mem off bs) (off + bs.length) = load mem off ++ bs := by
  apply List.ext_getElem
  · simp [length_load]
  · intro i hi hi'
    rw [length_load] at hi
    simp only [load, List.getElem_map, List.getElem_range, store]
    by_cases h : i < off
    · rw [if_neg (by omega), List.getElem_append_left (by simpa using h)]
      simp
    · rw [if_pos (by omega), List.getElem_append_right (by simpa using h)]
      simp [List.getD_eq_getElem?_getD, List.getElem?_eq_getElem (show i - off < bs.length by omega)]

theorem store_of_lt (mem : Nat → UInt8) (off : Nat) (bs : List UInt8) (i : Nat) (h : i < off) :
    store mem off bs i = mem i := by
  simp only [store]
  exact if_neg (by omega)

theorem store_of_ge (mem : Nat → UInt8) (off : Nat) (bs : List UInt8) (i : Nat) (h : off + bs.length ≤ i) :
    store mem off bs i = mem i := by
  simp only [store]
  exact if_neg (by omega)

theorem load_congr (mem mem' : Nat → UInt8) (n : Nat) (h : ∀ i < n, mem i = mem' i) : load mem n = load mem' n := by
  unfold load
  apply List.map_congr_left
  intro i hi
  exact h i (List.mem_range.1 hi)

theorem load_store_of_le (mem : Nat → UInt8) (off : Nat) (bs : List UInt8) (n : Nat) (h : n ≤ off) :
    load (store mem off bs) n = load mem n := by
  apply load_congr
  intro i hi
  exact store_of_lt mem off bs i (by omega)

/-! ## Parts of it -/

/-- `n` bytes from `p` on. -/
def bytesAt (mem : Nat → UInt8) (p n : Nat) : List UInt8 := (List.range n).map fun i => mem (p + i)

theorem length_bytesAt (mem : Nat → UInt8) (p n : Nat) : (bytesAt mem p n).length = n := by simp [bytesAt]

theorem load_add (mem : Nat → UInt8) (n m : Nat) : load mem (n + m) = load mem n ++ bytesAt mem n m := by
  simp [load, bytesAt, List.range_add, Function.comp_def]

theorem bytesAt_congr (mem mem' : Nat → UInt8) (p n : Nat) (h : ∀ i, p ≤ i → i < p + n → mem i = mem' i) :
    bytesAt mem p n = bytesAt mem' p n := by
  unfold bytesAt
  apply List.map_congr_left
  intro i hi
  have hlt := List.mem_range.1 hi
  exact h (p + i) (by omega) (by omega)

theorem store_add (mem : Nat → UInt8) (off : Nat) (bs : List UInt8) (i : Nat) (h : i < bs.length) :
    store mem off bs (off + i) = bs.getD i 0 := by
  simp only [store]
  rw [if_pos (by omega), Nat.add_sub_cancel_left]

theorem bytesAt_store (mem : Nat → UInt8) (off : Nat) (bs : List UInt8) :
    bytesAt (store mem off bs) off bs.length = bs := by
  apply List.ext_getElem (length_bytesAt _ _ _)
  intro i hi hi'
  simp only [bytesAt, List.getElem_map, List.getElem_range]
  rw [store_add mem off bs i hi', List.getD_eq_getElem?_getD, List.getElem?_eq_getElem hi', Option.getD_some]

end Ndhc
