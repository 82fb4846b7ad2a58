import Ndhc.Lib.Bytes

/-!
# Fields of coded options

A field of bytes is read from left to right: a byte of padding, an end mark, or an option, which
is a code, the length of its data and the data.  `parse` gives the options that lie whole in the
field, up to the end mark, the end of the field or the first option that overruns it; `upToStop`
are the bytes it looks at (`parse_upToStop`).
-/

namespace Tlv

variable (pad stop : UInt8)

/-- The options of a field, each with its data. -/
def parse : List UInt8 → List (UInt8 × List UInt8)
  | [] => []
  | [_] => []
  | c :: n :: rest =>
    if c = pad then parse (n :: rest)
    else if c = stop then []
    else if rest.length < n.toNat then []
    else (c, rest.take n.toNat) :: parse (rest.drop n.toNat)
termination_by bs => bs.length
decreasing_by
  · exact Nat.lt_succ_self _
  · rw [List.length_drop, List.length_cons, List.length_cons]
    omega

/-- The bytes of a field up to its end mark, or all of them. -/
def upToStop : List UInt8 → List UInt8
  | [] => []
  | [c] => [c]
  | c :: n :: rest =>
    if c = pad then c :: upToStop (n :: rest)
    else if c = stop then [c]
    else if rest.length < n.toNat then c :: n :: rest
    else c :: n :: (rest.take n.toNat ++ upToStop (rest.drop n.toNat))
termination_by bs => bs.length
decreasing_by
  · exact Nat.lt_succ_self _
  · rw [List.length_drop, List.length_cons, List.length_cons]
    omega

/-- The data of the options with code `c`, one after another. -/
def valueOf (c : UInt8) (opts : List (UInt8 × List UInt8)) : List UInt8 :=
  (opts.filter fun o => o.1 = c).flatMap Prod.snd

theorem valueOf_cons (c : UInt8) (o : UInt8 × List UInt8) (opts : List (UInt8 × List UInt8)) :
    valueOf c (o :: opts) = (if o.1 = c then o.2 else []) ++ valueOf c opts := by
  unfold valueOf
  rw [List.filter_cons]
  split
  · next h => rw [if_pos (of_decide_eq_true h), List.flatMap_cons]
  · next h => rw [if_neg (by simpa using h), List.nil_append]

/-- Where each code occurs once, its data is that of its option. -/
theorem valueOf_eq_lookup (c : UInt8) (opts : List (UInt8 × List UInt8)) (h : (opts.map Prod.fst).Nodup) :
    valueOf c opts = (opts.lookup c).getD [] := by
  induction opts with
  | nil => rfl
  | cons o opts ih =>
    obtain ⟨hout, hrest⟩ := List.nodup_cons.mp h
    rw [valueOf_cons, List.lookup_cons]
    by_cases hc : o.1 = c
    · subst hc
      have hnone : opts.filter (fun o' => o'.1 = o.1) = [] := by
        rw [List.filter_eq_nil_iff]
        intro o' ho' heq
        exact hout (List.mem_map.mpr ⟨o', ho', of_decide_eq_true heq⟩)
      rw [if_pos rfl, valueOf, hnone, beq_self_eq_true]
      exact List.append_nil _
    · rw [if_neg hc, beq_false_of_ne (Ne.symm hc), List.nil_append]
      exact ih hrest

/-- The data of a field's options lies in the field. -/
theorem length_valueOf_parse (c : UInt8) (bs : List UInt8) :
    (valueOf c (parse pad stop bs)).length ≤ bs.length := by
  fun_induction parse pad stop bs with
  | case1 => exact Nat.le_refl _
  | case2 => exact Nat.zero_le _
  | case3 n rest ih => exact Nat.le_succ_of_le ih
  | case4 => exact Nat.zero_le _
  | case5 => exact Nat.zero_le _
  | case6 b n rest hpad hstop hin ih =>
    have hdata : (if b = c then rest.take n.toNat else []).length ≤ n.toNat := by
      split
      · exact List.length_take_le _ _
      · exact Nat.zero_le _
    rw [valueOf_cons, List.length_append]
    simp only [List.length_cons, List.length_drop] at ih ⊢
    omega

theorem upToStop_ne_nil (bs : List UInt8) (h : bs ≠ []) : upToStop pad stop bs ≠ [] := by
  fun_cases upToStop pad stop bs with
  | case1 => exact absurd rfl h
  | _ => exact List.cons_ne_nil _ _

/-- Behind the end mark nothing is read. -/
theorem parse_upToStop (bs : List UInt8) : parse pad stop (upToStop pad stop bs) = parse pad stop bs := by
  fun_induction upToStop pad stop bs with
  | case1 => rfl
  | case2 c => rfl
  | case3 n rest ih =>
    obtain ⟨b, cs, hb⟩ := List.exists_cons_of_ne_nil (upToStop_ne_nil pad stop (n :: rest) (List.cons_ne_nil _ _))
    rw [hb] at ih ⊢
    rw [parse, if_pos rfl, ih]
    conv => rhs; rw [parse, if_pos rfl]
  | case4 n rest hpad =>
    rw [parse, parse, if_neg hpad, if_pos rfl]
  | case5 c n rest hpad hstop hlen => rfl
  | case6 c n rest hpad hstop hlen ih =>
    have htake : (rest.take n.toNat).length = n.toNat := by
      rw [List.length_take]
      omega
    have hroom : ¬ (rest.take n.toNat ++ upToStop pad stop (rest.drop n.toNat)).length < n.toNat := by
      rw [List.length_append]
      omega
    rw [parse, if_neg hpad, if_neg hstop, if_neg hroom, List.take_left' htake, List.drop_left' htake, ih]
    conv => rhs; rw [parse, if_neg hpad, if_neg hstop, if_neg hlen]

/-! ## Writing options -/

/-- The bytes of options, one after another. -/
def encode (opts : List (UInt8 × List UInt8)) : List UInt8 :=
  opts.flatMap fun o => o.1 :: o.2.length.toUInt8 :: o.2

/-- The codes are neither of the marks, and each length is a byte. -/
def Writable (opts : List (UInt8 × List UInt8)) : Prop :=
  ∀ o ∈ opts, o.1 ≠ pad ∧ o.1 ≠ stop ∧ o.2.length ≤ 255

/-- What is written is read back, whatever is behind the end mark. -/
theorem parse_encode (hmarks : stop ≠ pad) (opts : List (UInt8 × List UInt8)) (h : Writable pad stop opts)
    (rest : List UInt8) : parse pad stop (encode opts ++ stop :: rest) = opts := by
  induction opts with
  | nil =>
    cases rest with
    | nil =>
      show parse pad stop [stop] = []
      rw [parse]
    | cons n rest =>
      show parse pad stop (stop :: n :: rest) = []
      rw [parse, if_neg hmarks, if_pos rfl]
  | cons o opts ih =>
    obtain ⟨hpad, hstop, hlen⟩ := h o List.mem_cons_self
    have hsize : o.2.length.toUInt8.toNat = o.2.length := by
      rw [Nat.toUInt8, UInt8.toNat_ofNat']
      omega
    have hbytes : encode (o :: opts) ++ stop :: rest =
        o.1 :: o.2.length.toUInt8 :: (o.2 ++ (encode opts ++ stop :: rest)) := by
      simp [encode]
    rw [hbytes, parse, if_neg hpad, if_neg hstop, hsize, if_neg (by rw [List.length_append]; omega),
      List.take_left, List.drop_left, ih fun o' ho' => h o' (List.mem_cons_of_mem _ ho')]

end Tlv
