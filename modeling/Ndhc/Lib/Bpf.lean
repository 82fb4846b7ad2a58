import Ndhc.Lib.Bytes

/-!
# The classic BPF machine

The instructions, registers and jumps of the packet filter of the socket layer:
accumulator `A`, index register `X`, scratch words `M[]`.  Absolute and indirect
loads read the packet in network order; a load outside the packet ends the
program with `0`, which drops the packet.  Jump offsets are relative to the next
instruction, so a run is a fold over the program with a count of instructions
still to skip and needs no fuel.
-/

namespace Bpf

open Bytes

/-- Width of a load. -/
inductive Size where
  | b
  | h
  | w
  deriving DecidableEq, Repr

def Size.bytes : Size → Nat
  | .b => 1
  | .h => 2
  | .w => 4

/-- Jump tests. -/
inductive Cond where
  | jeq
  | jset
  deriving DecidableEq, Repr

def Cond.test : Cond → Nat → Nat → Bool
  | .jeq, a, k => a == k
  | .jset, a, k => a &&& k != 0

inductive Insn where
  /-- `A <- pkt[k : size]` -/
  | ldAbs (sz : Size) (k : Nat)
  /-- `A <- pkt[X + k : size]` -/
  | ldInd (sz : Size) (k : Nat)
  /-- `X <- 4 * (pkt[k : 1] & 0xf)` -/
  | ldxMsh (k : Nat)
  /-- `A <- M[k]` -/
  | ldMem (k : Nat)
  /-- `M[k] <- A` -/
  | st (k : Nat)
  /-- `X <- A` -/
  | tax
  /-- `A <- A - k`, modulo `2 ^ 32` -/
  | subK (k : Nat)
  | jmpK (c : Cond) (k jt jf : Nat)
  | jmpX (c : Cond) (jt jf : Nat)
  | retK (k : Nat)
  | retA
  deriving DecidableEq, Repr

structure Regs where
  A : Nat
  X : Nat
  M : Nat → Nat

/-- All registers and scratch words start as zero. -/
def Regs.init : Regs := ⟨0, 0, fun _ => 0⟩

/-- A load in network order; `none` outside the packet. -/
def load (pkt : List UInt8) (off : Nat) (sz : Size) : Option Nat :=
  if off + sz.bytes ≤ pkt.length then some (be (slice pkt off sz.bytes)) else none

/-- What one instruction does: go on (skipping some instructions) or end. -/
inductive Next where
  | skip (n : Nat) (r : Regs)
  | ret (k : Nat)

def step (pkt : List UInt8) (r : Regs) : Insn → Next
  | .ldAbs sz k =>
    match load pkt k sz with
    | some v => .skip 0 { r with A := v }
    | none => .ret 0
  | .ldInd sz k =>
    match load pkt (r.X + k) sz with
    | some v => .skip 0 { r with A := v }
    | none => .ret 0
  | .ldxMsh k =>
    match load pkt k .b with
    | some v => .skip 0 { r with X := 4 * (v &&& 0xf) }
    | none => .ret 0
  | .ldMem k => .skip 0 { r with A := r.M k }
  | .st k => .skip 0 { r with M := fun i => if i = k then r.A else r.M i }
  | .tax => .skip 0 { r with X := r.A }
  | .subK k => .skip 0 { r with A := (r.A + (2 ^ 32 - k)) % 2 ^ 32 }
  | .jmpK c k jt jf => .skip (if c.test r.A k then jt else jf) r
  | .jmpX c jt jf => .skip (if c.test r.A r.X then jt else jf) r
  | .retK k => .ret k
  | .retA => .ret r.A

/-- Run the program, skipping its first `n` instructions. -/
def run (pkt : List UInt8) : List Insn → Nat → Regs → Nat
  | [], _, _ => 0
  | _ :: p, n + 1, r => run pkt p n r
  | i :: p, 0, r =>
    match step pkt r i with
    | .skip n r' => run pkt p n r'
    | .ret k => k

/-- The number of bytes of `pkt` the program lets through; `0` drops it. -/
def filter (prog : List Insn) (pkt : List UInt8) : Nat := run pkt prog 0 .init

/-! ## How a run unfolds -/

section
variable (pkt : List UInt8) (p : List Insn) (r : Regs)

@[simp] theorem run_skip (i : Insn) (n : Nat) : run pkt (i :: p) (n + 1) r = run pkt p n r := rfl

@[simp] theorem run_retK (k : Nat) : run pkt (.retK k :: p) 0 r = k := rfl

@[simp] theorem run_retA : run pkt (.retA :: p) 0 r = r.A := rfl

@[simp] theorem run_ldMem (k : Nat) :
    run pkt (.ldMem k :: p) 0 r = run pkt p 0 { r with A := r.M k } := rfl

@[simp] theorem run_st (k : Nat) : run pkt (.st k :: p) 0 r =
    run pkt p 0 { r with M := fun i => if i = k then r.A else r.M i } := rfl

@[simp] theorem run_tax : run pkt (.tax :: p) 0 r = run pkt p 0 { r with X := r.A } := rfl

@[simp] theorem run_subK (k : Nat) : run pkt (.subK k :: p) 0 r =
    run pkt p 0 { r with A := (r.A + (2 ^ 32 - k)) % 2 ^ 32 } := rfl

theorem load_of_le (off : Nat) (sz : Size) (h : off + sz.bytes ≤ pkt.length) :
    load pkt off sz = some (be (slice pkt off sz.bytes)) := if_pos h

theorem run_ldAbs (sz : Size) (k : Nat) (h : k + sz.bytes ≤ pkt.length) :
    run pkt (.ldAbs sz k :: p) 0 r = run pkt p 0 { r with A := be (slice pkt k sz.bytes) } := by
  simp only [run, step, load_of_le pkt k sz h]

theorem run_ldInd (sz : Size) (k : Nat) (h : r.X + k + sz.bytes ≤ pkt.length) :
    run pkt (.ldInd sz k :: p) 0 r =
      run pkt p 0 { r with A := be (slice pkt (r.X + k) sz.bytes) } := by
  simp only [run, step, load_of_le pkt (r.X + k) sz h]

theorem run_ldxMsh (k : Nat) (h : k + 1 ≤ pkt.length) :
    run pkt (.ldxMsh k :: p) 0 r =
      run pkt p 0 { r with X := 4 * (be (slice pkt k 1) &&& 0xf) } := by
  simp only [run, step, load_of_le pkt k .b h, Size.bytes]

theorem run_jmpK (c : Cond) (k jt jf : Nat) :
    run pkt (.jmpK c k jt jf :: p) 0 r = run pkt p (if c.test r.A k then jt else jf) r := rfl

theorem run_jmpX (c : Cond) (jt jf : Nat) :
    run pkt (.jmpX c jt jf :: p) 0 r = run pkt p (if c.test r.A r.X then jt else jf) r := rfl

/-- `jeq k, 1, 0; ret d`: go on past the return when `A = k`, else end with `d`. -/
theorem run_expect (k d : Nat) : run pkt (.jmpK .jeq k 1 0 :: .retK d :: p) 0 r =
    if r.A = k then run pkt p 0 r else d := by
  rw [run_jmpK]
  by_cases h : r.A = k <;> simp [Cond.test, h]

/-- The same against `X`. -/
theorem run_expectX (d : Nat) : run pkt (.jmpX .jeq 1 0 :: .retK d :: p) 0 r =
    if r.A = r.X then run pkt p 0 r else d := by
  rw [run_jmpX]
  by_cases h : r.A = r.X <;> simp [Cond.test, h]

/-- `jset k, 0, 1; ret d`: end with `d` when `A` has a bit of `k`. -/
theorem run_refuse (k d : Nat) : run pkt (.jmpK .jset k 0 1 :: .retK d :: p) 0 r =
    if r.A &&& k = 0 then run pkt p 0 r else d := by
  rw [run_jmpK]
  by_cases h : r.A &&& k = 0 <;> simp [Cond.test, h]

end

/-! ## Checks in userspace -/

/-- Five tests in a row, each of which ends the function with `0`. -/
theorem allTests_iff (a b c e f : Prop) [Decidable a] [Decidable b] [Decidable c] [Decidable e]
    [Decidable f] :
    (if ¬ a then (0 : Int) else if ¬ b then 0 else if ¬ c then 0 else if ¬ e then 0
      else if ¬ f then 0 else 1) = 1 ↔ a ∧ b ∧ c ∧ e ∧ f := by
  by_cases ha : a <;> by_cases hb : b <;> by_cases hc : c <;> by_cases he : e <;>
    by_cases hf : f <;> simp [ha, hb, hc, he, hf]

end Bpf
