import Mathlib.Data.List.Induction
import Ndhc.Ifch.Command
import Ndhc.Lib.Memory

/-!
# Joining the arguments

The loop of `parse_cmdline` that writes the arguments one behind the other into `argb`, with a NUL
between them.  Each is checked against the size of the whole buffer, not against what is left of it,
and the length that is added up is the one `snprintf` would have liked to write: once the arguments
together no longer fit, the loop goes on behind the end of the buffer, and the space left wraps
around (`joining_inside_iff`).
-/

namespace Ndhc

/-! ## The loop -/

/-- `sizeof argb` -/
def argbSize : Nat := 8192

/-- `argb`, with the memory behind it, and `argbl`. -/
structure Joining where
  mem : Nat → UInt8
  argbl : Nat

/-- `sizeof argb - argbl` in a `size_t` -/
def Joining.space (s : Joining) : Nat := (2 ^ 64 + argbSize - s.argbl) % 2 ^ 64

/-- What `snprintf` of a text leaves in memory: as much of it as `size` allows, and a NUL.  (A library
that refuses sizes above `INT_MAX` differs only where `argbl` is already outside of the buffer.) -/
def snprintfMem (mem : Nat → UInt8) (off size : Nat) (text : List UInt8) : Nat → UInt8 :=
  if size = 0 then mem else store mem off (text.take (size - 1) ++ [0])

/-- What it returns. -/
def snprintfRet (text : List UInt8) : Int := if INT_MAX < text.length then -1 else text.length

/-- What is written for an argument, the first or another. -/
def argText (first : Bool) (arg : List UInt8) : List UInt8 := if first then arg else 0 :: arg

/-- One iteration; `none` where the process ends. -/
def joinArg (first : Bool) (s : Joining) (arg : List UInt8) : Option Joining :=
  let text := argText first arg
  let snl := snprintfRet text
  if snl < 0 ∨ (argbSize : Int) ≤ snl then none
  else some ⟨snprintfMem s.mem s.argbl s.space text, (s.argbl + snl.toNat) % 2 ^ 64⟩

/-- The loop from `argv[1]` on. -/
def joinArgs : List (List UInt8) → Bool → Joining → Option Joining
  | [], _, s => some s
  | arg :: args, first, s => (joinArg first s arg).bind (joinArgs args false)

/-! ## Statement -/

/-- The arguments with a NUL between them. -/
def joined (args : List (List UInt8)) : List UInt8 := [0].intercalate args

/-- After an iteration: `argbl` is inside the buffer, which holds the arguments so far and a NUL. -/
structure Joined (args : List (List UInt8)) (s : Joining) : Prop where
  inside : s.argbl < argbSize
  held : load s.mem (s.argbl + 1) = joined args ++ [0]

/-- After each iteration that does not end the process, the buffer holds the arguments so far, and
the iteration wrote with the space that was left. -/
def JoiningInside (mem : Nat → UInt8) (args : List (List UInt8)) : Prop :=
  ∀ pre arg post s t, args = pre ++ arg :: post → joinArgs pre true ⟨mem, 0⟩ = some s →
    joinArg pre.isEmpty s arg = some t →
    (s.argbl ≤ argbSize ∧ s.space = argbSize - s.argbl) ∧ Joined (pre ++ [arg]) t

/-- No argument is too long for the whole buffer. -/
def NoneTooLong (args : List (List UInt8)) : Prop :=
  ∀ pre arg post, args = pre ++ arg :: post → (argText pre.isEmpty arg).length < argbSize

/-! ## One argument -/

theorem joined_concat (args : List (List UInt8)) (arg : List UInt8) :
    joined (args ++ [arg]) = joined args ++ argText args.isEmpty arg := by
  unfold joined
  cases args with
  | nil => simp [argText]
  | cons a args =>
    rw [Bytes.intercalate_concat _ _ _ (by simp), List.append_assoc]
    rfl

/-- Arguments that fit fit without the last one. -/
theorem joined_lt_of_concat (args : List (List UInt8)) (arg : List UInt8)
    (h : (joined (args ++ [arg])).length < argbSize) : (joined args).length < argbSize := by
  rw [joined_concat, List.length_append] at h
  omega

/-- Behind each argument a NUL. -/
theorem joined_append_nul (args : List (List UInt8)) (h : args ≠ []) :
    joined args ++ [0] = args.flatMap fun arg => arg ++ [0] := by
  unfold joined
  induction args with
  | nil => exact absurd rfl h
  | cons a args ih =>
    cases args with
    | nil => simp
    | cons b args =>
      have hrest := ih (by simp)
      rw [List.intercalate_cons_cons, List.append_assoc, hrest]
      simp only [List.flatMap_cons]

/-- An iteration goes on exactly for a text shorter than the whole buffer. -/
theorem joinArg_eq_some_iff (first : Bool) (s t : Joining) (arg : List UInt8) :
    joinArg first s arg = some t ↔ (argText first arg).length < argbSize ∧
      t = ⟨snprintfMem s.mem s.argbl s.space (argText first arg),
        (s.argbl + (argText first arg).length) % 2 ^ 64⟩ := by
  simp only [joinArg, snprintfRet]
  by_cases hl : INT_MAX < (argText first arg).length
  · have : ¬ (argText first arg).length < argbSize := by simp only [INT_MAX, argbSize] at *; omega
    simp [hl, this]
  · by_cases hs : (argText first arg).length < argbSize
    · simp [hl, hs, eq_comm]
    · have hyes : (argbSize : Int) ≤ ((argText first arg).length : Int) := by omega
      simp [hl, hs, hyes]

theorem space_of_le (s : Joining) (h : s.argbl ≤ argbSize) : s.space = argbSize - s.argbl := by
  simp only [Joining.space, argbSize] at *
  omega

/-- The text fits behind what is held: all of it is written, with its NUL. -/
theorem load_snprintfMem (mem : Nat → UInt8) (off size : Nat) (text : List UInt8)
    (h : text.length < size) :
    load (snprintfMem mem off size text) (off + text.length + 1) = load mem off ++ text ++ [0] := by
  have htake : text.take (size - 1) = text := List.take_of_length_le (by omega)
  have hlen : off + text.length + 1 = off + (text ++ [0]).length := by
    simp only [List.length_append, List.length_singleton]
    omega
  rw [snprintfMem, if_neg (by omega), htake, hlen, load_store, List.append_assoc]

/-- What the loop keeps while the arguments fit. -/
structure Holding (args : List (List UInt8)) (s : Joining) : Prop where
  argbl : s.argbl = (joined args).length
  held : load s.mem s.argbl = joined args

theorem Holding.nil (mem : Nat → UInt8) : Holding [] ⟨mem, 0⟩ where
  argbl := by simp [joined]
  held := by simp [joined, load]

theorem Joined.toHolding {args : List (List UInt8)} {s : Joining} (h : Joined args s) : Holding args s := by
  have heq : load s.mem s.argbl = joined args := by
    have hh := h.held
    rw [load_add_one] at hh
    exact (List.append_inj' hh rfl).1
  exact ⟨by rw [← heq, length_load], heq⟩

/-- One more argument that fits. -/
theorem Holding.joinArg {args : List (List UInt8)} {arg : List UInt8} {s t : Joining} (h : Holding args s)
    (hfit : (joined (args ++ [arg])).length < argbSize)
    (ht : Ndhc.joinArg args.isEmpty s arg = some t) : Joined (args ++ [arg]) t := by
  obtain ⟨-, rfl⟩ := (joinArg_eq_some_iff _ _ _ _).mp ht
  have hb := h.argbl
  have hsum : s.argbl + (argText args.isEmpty arg).length < argbSize := by
    rw [joined_concat, List.length_append] at hfit
    omega
  have hmod : (s.argbl + (argText args.isEmpty arg).length) % 2 ^ 64
      = s.argbl + (argText args.isEmpty arg).length :=
    Nat.mod_eq_of_lt (Nat.lt_trans hsum (by decide))
  have hsp : (argText args.isEmpty arg).length < s.space := by
    rw [space_of_le s (by omega)]
    omega
  constructor
  · rw [hmod]
    exact hsum
  · simp only [hmod]
    rw [load_snprintfMem _ _ _ _ hsp, h.held, joined_concat]

/-! ## The whole loop -/

theorem joinArgs_append (pre post : List (List UInt8)) (first : Bool) (s : Joining) :
    joinArgs (pre ++ post) first s
      = (joinArgs pre first s).bind (joinArgs post (first && pre.isEmpty)) := by
  induction pre generalizing first s with
  | nil => simp [joinArgs]
  | cons arg pre ih =>
    simp only [List.cons_append, joinArgs, List.isEmpty_cons, Bool.and_false]
    cases joinArg first s arg with
    | none => rfl
    | some t => simp [ih]

theorem joinArgs_concat (pre : List (List UInt8)) (arg : List UInt8) (s : Joining) :
    joinArgs (pre ++ [arg]) true s
      = (joinArgs pre true s).bind fun t => joinArg pre.isEmpty t arg := by
  rw [joinArgs_append, Bool.true_and]
  congr 1
  funext t
  simp [joinArgs]

theorem NoneTooLong.of_concat {pre : List (List UInt8)} {arg : List UInt8}
    (h : NoneTooLong (pre ++ [arg])) :
    NoneTooLong pre ∧ (argText pre.isEmpty arg).length < argbSize := by
  refine ⟨?_, h pre arg [] rfl⟩
  intro p a q hp
  exact h p a (q ++ [arg]) (by simp [hp])

/-- The loop ends the process only for an argument that is too long by itself. -/
theorem joinArgs_isSome (args : List (List UInt8)) (s : Joining) (h : NoneTooLong args) :
    ∃ t, joinArgs args true s = some t := by
  induction args using List.reverseRecOn with
  | nil => exact ⟨s, rfl⟩
  | append_singleton pre arg ih =>
    obtain ⟨hpre, harg⟩ := h.of_concat
    obtain ⟨t, ht⟩ := ih hpre
    rw [joinArgs_concat, ht]
    exact ⟨_, (joinArg_eq_some_iff _ _ _ _).mpr ⟨harg, rfl⟩⟩

/-- Nothing too long was met where the loop went through. -/
theorem noneTooLong_of_joinArgs (args : List (List UInt8)) (s t : Joining)
    (h : joinArgs args true s = some t) : NoneTooLong args := by
  intro pre arg post heq
  have hpost : args = (pre ++ [arg]) ++ post := by simp [heq]
  rw [hpost, joinArgs_append, joinArgs_concat] at h
  obtain ⟨v, hv, -⟩ := Option.bind_eq_some_iff.mp h
  obtain ⟨u, -, hu⟩ := Option.bind_eq_some_iff.mp hv
  exact ((joinArg_eq_some_iff _ _ _ _).mp hu).1

/-- A run over arguments that fit together. -/
theorem joinArgs_held (mem : Nat → UInt8) (args : List (List UInt8)) (t : Joining)
    (hfit : (joined args).length < argbSize) (h : joinArgs args true ⟨mem, 0⟩ = some t) :
    Holding args t := by
  induction args using List.reverseRecOn generalizing t with
  | nil =>
    obtain rfl : (⟨mem, 0⟩ : Joining) = t := by simpa [joinArgs] using h
    exact Holding.nil mem
  | append_singleton pre arg ih =>
    rw [joinArgs_concat] at h
    obtain ⟨s, hs, ht⟩ := Option.bind_eq_some_iff.mp h
    have hpre := joined_lt_of_concat pre arg hfit
    exact ((ih s hpre hs).joinArg hfit ht).toHolding

/-- The loop goes through such arguments. -/
theorem noneTooLong_of_fits (args : List (List UInt8)) (hfit : (joined args).length < argbSize) :
    NoneTooLong args := by
  induction args using List.reverseRecOn with
  | nil => intro pre arg post heq; simp at heq
  | append_singleton pre arg ih =>
    rw [joined_concat, List.length_append] at hfit
    intro p a q heq
    rcases List.eq_nil_or_concat q with rfl | ⟨q, z, rfl⟩
    · obtain ⟨rfl, h⟩ := List.append_inj' heq rfl
      obtain ⟨rfl, -⟩ := List.cons.inj h
      omega
    · rw [List.concat_eq_append, ← List.cons_append, ← List.append_assoc] at heq
      exact ih (by omega) p a q (List.append_inj' heq rfl).1

/-- `argb` behind the loop. -/
theorem joinArgs_of_fits (mem : Nat → UInt8) (args : List (List UInt8)) (hne : args ≠ [])
    (hfit : (joined args).length < argbSize) :
    ∃ s, joinArgs args true ⟨mem, 0⟩ = some s ∧ Joined args s := by
  obtain ⟨t, ht⟩ := joinArgs_isSome args ⟨mem, 0⟩ (noneTooLong_of_fits args hfit)
  refine ⟨t, ht, ?_⟩
  rcases List.eq_nil_or_concat args with rfl | ⟨pre, arg, rfl⟩
  · exact absurd rfl hne
  · rw [List.concat_eq_append] at *
    rw [joinArgs_concat] at ht
    obtain ⟨s, hs, hst⟩ := Option.bind_eq_some_iff.mp ht
    have hpre := joined_lt_of_concat pre arg hfit
    exact (joinArgs_held mem pre s hpre hs).joinArg hfit hst

/-- Where all iterations stay inside, what was joined is shorter than the buffer. -/
theorem JoiningInside.length_lt {mem : Nat → UInt8} {args pre : List (List UInt8)}
    (h : JoiningInside mem args) (hpre : pre <+: args) (hlong : NoneTooLong pre) :
    (joined pre).length < argbSize := by
  induction pre using List.reverseRecOn with
  | nil => decide
  | append_singleton pre arg _ =>
    obtain ⟨post, hpost⟩ := hpre
    obtain ⟨hlong, harg⟩ := hlong.of_concat
    obtain ⟨s, hs⟩ := joinArgs_isSome pre ⟨mem, 0⟩ hlong
    have ht := (joinArg_eq_some_iff pre.isEmpty s _ arg).mpr ⟨harg, rfl⟩
    obtain ⟨-, hj⟩ := h pre arg post s _ (by simp [← hpost]) hs ht
    rw [← hj.toHolding.argbl]
    exact hj.inside

/-- Two arguments that pass the check one by one and not together. -/
theorem not_joiningInside_pair (mem : Nat → UInt8) (a b : List UInt8) (ha : a.length < argbSize)
    (hb : b.length + 1 < argbSize) (hab : argbSize ≤ a.length + b.length + 1) :
    ¬ JoiningInside mem [a, b] := by
  intro h
  have hlong : NoneTooLong [a, b] := by
    intro pre arg post heq
    rcases pre with _ | ⟨p, _ | ⟨q, pre⟩⟩
    · obtain ⟨rfl, -⟩ := List.cons.inj heq
      exact ha
    · simp only [List.cons_append, List.nil_append, List.cons.injEq] at heq
      obtain ⟨-, rfl, -⟩ := heq
      exact hb
    · simp at heq
  have hlt := h.length_lt (List.prefix_refl _) hlong
  simp only [joined, List.intercalate_cons_cons, List.intercalate_singleton, List.length_append,
    List.length_singleton] at hlt
  omega

/-- **Joining stays inside exactly for vectors that fit.**  Every iteration that goes on leaves
`argbl` in the buffer, the arguments so far before it, and was given the space that was left, if and
only if the arguments up to there are together shorter than the buffer whenever each of them is. -/
theorem joining_inside_iff (mem : Nat → UInt8) (args : List (List UInt8)) :
    JoiningInside mem args ↔
      ∀ pre, pre <+: args → NoneTooLong pre → (joined pre).length < argbSize := by
  constructor
  · intro h pre hpre hlong
    exact h.length_lt hpre hlong
  · intro h pre arg post s t heq hs ht
    have hrun : joinArgs (pre ++ [arg]) true ⟨mem, 0⟩ = some t := by
      rw [joinArgs_concat, hs]
      exact ht
    have hfit := h (pre ++ [arg]) ⟨post, by simp [heq]⟩ (noneTooLong_of_joinArgs _ _ _ hrun)
    have hpre := joined_lt_of_concat pre arg hfit
    have hheld := joinArgs_held mem pre s hpre hs
    have hle : s.argbl ≤ argbSize := by
      rw [hheld.argbl]
      exact hpre.le
    exact ⟨⟨hle, space_of_le s hle⟩, hheld.joinArg hfit ht⟩

/-- Two arguments of 5000 bytes: each passes the check, and `argbl` ends at 10001. -/
theorem two_long_arguments_leave :
    ¬ JoiningInside (fun _ => 0) [List.replicate 5000 97, List.replicate 5000 97] := by
  apply not_joiningInside_pair <;> rw [List.length_replicate] <;> decide

end Ndhc
