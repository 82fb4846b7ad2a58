import Ndhc.Lib.Tlv
import Ndhc.Wire.Options

/-!
# What an option's value is

`get_dhcp_opt` against a reference that knows no walker: the fields are parsed into their options
(`Tlv.parse`), and the value of a code is the data of its options in `options`, then in `file` and
in `sname` if the overload value has their bits.  The walks of options.c are also given by index,
with every read and copy checked against its bounds, so that a read outside a field would be seen.

    getDhcpOpt m code MAX_DOPT_SIZE = referenceOpt m code          (getDhcpOpt_eq_reference)
-/

namespace Ndhc

open Bytes Tlv

/-! ## The reference -/

/-- The options of a field. -/
def fieldOptions (field : List UInt8) : List (UInt8 × List UInt8) := parse DCODE_PADDING DCODE_END field

/-- The OVERLOAD options of one byte, ORed. -/
def overloadBits (opts : List (UInt8 × List UInt8)) : Nat :=
  opts.foldr (fun o acc => if o.1 = DCODE_OVERLOAD ∧ o.2.length = 1 then (at0 o.2 0).toNat ||| acc else acc) 0

section
variable (m : DhcpMsg)

/-- The field an overload value designates first. -/
def designated (ol : Nat) : List UInt8 :=
  if ol &&& 1 ≠ 0 then m.file else if ol &&& 2 ≠ 0 then m.sname else []

/-- The overload value: of `options`, and of the field these designate first. -/
def referenceOverload : Nat :=
  let ol := overloadBits (fieldOptions m.options)
  ol ||| overloadBits (fieldOptions (designated m ol))

/-- The data of all options with the code, field by field. -/
def referenceOpt (code : UInt8) : List UInt8 :=
  valueOf code (fieldOptions m.options) ++
    (if referenceOverload m &&& 1 ≠ 0 then valueOf code (fieldOptions m.file) else []) ++
    (if referenceOverload m &&& 2 ≠ 0 then valueOf code (fieldOptions m.sname) else [])

/-- The message has the same bytes up to the END of `options` and of the fields designated. -/
structure SameToRead (m' : DhcpMsg) : Prop where
  options : upToStop DCODE_PADDING DCODE_END m'.options = upToStop DCODE_PADDING DCODE_END m.options
  file : referenceOverload m &&& 1 ≠ 0 →
    upToStop DCODE_PADDING DCODE_END m'.file = upToStop DCODE_PADDING DCODE_END m.file
  sname : referenceOverload m &&& 2 ≠ 0 →
    upToStop DCODE_PADDING DCODE_END m'.sname = upToStop DCODE_PADDING DCODE_END m.sname

end

/-! ## The walks by index -/

/-- The loop of `do_overload_value`; `none` for a read outside the field. -/
def overloadLoop (buf : List UInt8) (i overload : Nat) : Option Nat :=
  if h : i < buf.length then do
    let b ← buf[i]?
    if b = DCODE_PADDING then overloadLoop buf (i + 1) overload
    else if b = DCODE_END then some overload
    else if buf.length ≤ i + 2 then some overload
    else do
      let n ← buf[i + 1]?
      if b = DCODE_OVERLOAD ∧ n = 1 then do
        let v ← buf[i + 2]?
        overloadLoop buf (i + 3) (overload ||| v.toNat)
      else overloadLoop buf (i + (n.toNat + 2)) overload
  else some overload
termination_by buf.length - i

/-- `memcpy(dbuf + didx, sbuf + off, len)`; `none` where it leaves either buffer. -/
def copyOpt (dlen : Nat) (sbuf : List UInt8) (off len : Nat) (dbuf : List UInt8) : Option (List UInt8) :=
  if off + len ≤ sbuf.length ∧ dbuf.length + len ≤ dlen then some (dbuf ++ slice sbuf off len) else none

/-- The loop of `do_get_dhcp_opt`. -/
def getOptLoop (code : UInt8) (dlen : Nat) (sbuf : List UInt8) (i : Nat) (dbuf : List UInt8) :
    Option (List UInt8) :=
  if h : i < sbuf.length then do
    let b ← sbuf[i]?
    if b = DCODE_PADDING then getOptLoop code dlen sbuf (i + 1) dbuf
    else if b = DCODE_END then some dbuf
    else if sbuf.length ≤ i + 2 then some dbuf
    else do
      let n ← sbuf[i + 1]?
      let soptsiz := n.toNat
      if b = code then
        if dlen < soptsiz + dbuf.length then some dbuf
        else if sbuf.length < soptsiz + i + 2 then some dbuf
        else do
          let dbuf ← copyOpt dlen sbuf (i + 2) soptsiz dbuf
          getOptLoop code dlen sbuf (i + (soptsiz + 2)) dbuf
      else getOptLoop code dlen sbuf (i + (soptsiz + 2)) dbuf
  else some dbuf
termination_by sbuf.length - i

section
variable (m : DhcpMsg)

def overloadChecked : Option Nat := do
  let ol ← overloadLoop m.options 0 0
  if ol &&& 1 ≠ 0 ∧ ol &&& 2 ≠ 0 then some ol
  else if ol &&& 1 ≠ 0 then do
    let file ← overloadLoop m.file 0 ol
    some (ol ||| file)
  else if ol &&& 2 ≠ 0 then do
    let sname ← overloadLoop m.sname 0 ol
    some (ol ||| sname)
  else some ol

/-- `get_dhcp_opt` with every read and copy checked. -/
def getDhcpOptChecked (code : UInt8) (dlen : Nat) : Option (List UInt8) := do
  let ol ← overloadChecked m
  let dbuf ← getOptLoop code dlen m.options 0 []
  let dbuf ← if ol &&& 1 ≠ 0 then getOptLoop code dlen m.file 0 dbuf else some dbuf
  if ol &&& 2 ≠ 0 then getOptLoop code dlen m.sname 0 dbuf else some dbuf

end

/-! ### They read what the walks over lists read -/

theorem doOverloadValue_drop (bs : List UInt8) (k overload : Nat) :
    doOverloadValue bs k overload = doOverloadValue (bs.drop k) 0 overload := by
  induction k generalizing bs with
  | zero => rfl
  | succ k ih =>
    cases bs with
    | nil => rfl
    | cons b bs => exact ih bs

theorem doGetDhcpOpt_drop (code : UInt8) (dlen : Nat) (bs : List UInt8) (k : Nat) (dbuf : List UInt8) :
    doGetDhcpOpt code dlen bs k dbuf = doGetDhcpOpt code dlen (bs.drop k) 0 dbuf := by
  induction k generalizing bs with
  | zero => rfl
  | succ k ih =>
    cases bs with
    | nil => rfl
    | cons b bs => exact ih bs

theorem overloadLoop_eq (buf : List UInt8) (i overload : Nat) :
    overloadLoop buf i overload = some (doOverloadValue (buf.drop i) 0 overload) := by
  induction hn : buf.length - i using Nat.strong_induction_on generalizing i overload with
  | _ n ih =>
    subst hn
    rw [overloadLoop]
    split
    · next h =>
      have hlen : (buf.drop (i + 1)).length = buf.length - (i + 1) := List.length_drop
      rw [List.drop_eq_getElem_cons h, List.getElem?_eq_getElem h]
      simp only [Option.bind_eq_bind, Option.bind_some, doOverloadValue]
      split
      · exact ih _ (by omega) _ _ rfl
      · split
        · rfl
        · split
          · next hend => rw [if_pos (by omega)]
          · next hend =>
            have h1 : i + 1 < buf.length := by omega
            have h2 : i + 2 < buf.length := by omega
            have hb1 : at0 (buf.drop (i + 1)) 0 = buf[i + 1] := at0_drop buf (i + 1) 0 h1
            have hb2 : at0 (buf.drop (i + 1)) 1 = buf[i + 2] := at0_drop buf (i + 1) 1 h2
            rw [if_neg (by omega), List.getElem?_eq_getElem h1, hb1, hb2]
            simp only [Option.bind_some]
            split
            · rw [List.getElem?_eq_getElem h2, Option.bind_some, ih _ (by omega) _ _ rfl,
                doOverloadValue_drop _ 2, List.drop_drop]
            · rw [ih _ (by omega) _ _ rfl, doOverloadValue_drop _ (_ + 1), List.drop_drop]
              congr 3
              omega
    · next h =>
      rw [List.drop_eq_nil_of_le (by omega)]
      rfl

theorem getOptLoop_eq (code : UInt8) (dlen : Nat) (sbuf : List UInt8) (i : Nat) (dbuf : List UInt8) :
    getOptLoop code dlen sbuf i dbuf = some (doGetDhcpOpt code dlen (sbuf.drop i) 0 dbuf) := by
  induction hn : sbuf.length - i using Nat.strong_induction_on generalizing i dbuf with
  | _ n ih =>
    subst hn
    rw [getOptLoop]
    split
    · next h =>
      have hlen : (sbuf.drop (i + 1)).length = sbuf.length - (i + 1) := List.length_drop
      rw [List.drop_eq_getElem_cons h, List.getElem?_eq_getElem h]
      simp only [Option.bind_eq_bind, Option.bind_some, doGetDhcpOpt]
      split
      · exact ih _ (by omega) _ _ rfl
      · split
        · rfl
        · split
          · next hend => rw [if_pos (by omega)]
          · next hend =>
            have h1 : i + 1 < sbuf.length := by omega
            have hb1 : at0 (sbuf.drop (i + 1)) 0 = sbuf[i + 1] := at0_drop sbuf (i + 1) 0 h1
            have hnext : ∀ d, getOptLoop code dlen sbuf (i + (sbuf[i + 1].toNat + 2)) d =
                some (doGetDhcpOpt code dlen (sbuf.drop (i + 1)) (sbuf[i + 1].toNat + 1) d) := by
              intro d
              rw [ih _ (by omega) _ _ rfl, doGetDhcpOpt_drop _ _ _ (_ + 1), List.drop_drop]
              congr 3
              omega
            rw [if_neg (by omega), List.getElem?_eq_getElem h1, hb1]
            simp only [Option.bind_some, hnext]
            split
            · split
              · rfl
              · next hroom =>
                split
                · next hover => rw [if_pos (by omega)]
                · next hover =>
                  have hslice : slice sbuf (i + 2) sbuf[i + 1].toNat =
                      slice (sbuf.drop (i + 1)) 1 sbuf[i + 1].toNat := by
                    simp only [slice, List.drop_drop]
                  rw [if_neg (by omega), copyOpt, if_pos (by omega), Option.bind_some, hslice]
            · rfl
    · next h =>
      rw [List.drop_eq_nil_of_le (by omega)]
      rfl

theorem overloadChecked_eq (m : DhcpMsg) : overloadChecked m = some (overloadValue m) := by
  simp only [overloadChecked, overloadValue, overloadLoop_eq, List.drop_zero, Option.bind_eq_bind,
    Option.bind_some]
  split_ifs <;> rfl

/-- Every read and copy is inside its buffer. -/
theorem getDhcpOptChecked_eq (m : DhcpMsg) (code : UInt8) (dlen : Nat) :
    getDhcpOptChecked m code dlen = some (getDhcpOpt m code dlen) := by
  simp only [getDhcpOptChecked, getDhcpOpt, overloadChecked_eq, getOptLoop_eq, List.drop_zero,
    Option.bind_eq_bind, Option.bind_some]
  split_ifs <;> rfl

/-! ## The walks against the parse -/

/-- In a buffer with room for the whole field, the walk appends the field's value. -/
theorem doGetDhcpOpt_parse (code : UInt8) (dlen : Nat) (bs dbuf : List UInt8)
    (hroom : dbuf.length + bs.length ≤ dlen) :
    doGetDhcpOpt code dlen bs 0 dbuf = dbuf ++ valueOf code (fieldOptions bs) := by
  unfold fieldOptions
  fun_induction parse DCODE_PADDING DCODE_END bs generalizing dbuf with
  | case1 => exact (List.append_nil _).symm
  | case2 b => simp [doGetDhcpOpt, valueOf]
  | case3 n rest ih =>
    rw [List.length_cons] at hroom
    rw [doGetDhcpOpt, if_pos rfl]
    exact ih dbuf (by omega)
  | case4 n rest hpad =>
    rw [doGetDhcpOpt, if_neg hpad, if_pos rfl]
    exact (List.append_nil _).symm
  | case5 c n rest hpad hstop hover =>
    -- the option overruns the field: its data is refused, or the walk ends behind the field
    have hskip : doGetDhcpOpt code dlen (n :: rest) (n.toNat + 1) dbuf = dbuf := by
      rw [doGetDhcpOpt_drop, List.drop_succ_cons, List.drop_eq_nil_of_le (by omega)]
      rfl
    have hat : at0 (n :: rest) 0 = n := rfl
    rw [doGetDhcpOpt, if_neg hpad, if_neg hstop]
    simp only [hat, hskip, List.length_cons, if_pos (Nat.succ_lt_succ hover), ite_self]
    exact (List.append_nil _).symm
  | case6 c n rest hpad hstop hin ih =>
    have hat : at0 (n :: rest) 0 = n := rfl
    have hdata : slice (n :: rest) 1 n.toNat = rest.take n.toNat := rfl
    have htake : (rest.take n.toNat).length = n.toNat := by
      rw [List.length_take]
      omega
    simp only [List.length_cons] at hroom
    rw [doGetDhcpOpt, if_neg hpad, if_neg hstop, valueOf_cons]
    split
    · next hshort =>
      -- the last two bytes: an option without data, which the walk does not look at
      have hnil : rest = [] := List.eq_nil_of_length_eq_zero (by simp only [List.length_cons] at hshort; omega)
      subst hnil
      simp [parse, valueOf]
    · simp only [hat, hdata]
      split
      · next hc =>
        rw [if_neg (by omega), if_neg (by simp only [List.length_cons]; omega), doGetDhcpOpt_drop,
          List.drop_succ_cons,
          ih _ (by rw [List.length_append, List.length_drop]; omega), List.append_assoc]
      · next hc =>
        rw [doGetDhcpOpt_drop, List.drop_succ_cons, ih _ (by rw [List.length_drop]; omega), List.nil_append]

theorem doOverloadValue_parse (bs : List UInt8) (overload : Nat) :
    doOverloadValue bs 0 overload = overload ||| overloadBits (fieldOptions bs) := by
  unfold fieldOptions
  fun_induction parse DCODE_PADDING DCODE_END bs generalizing overload with
  | case1 => exact (Nat.or_zero _).symm
  | case2 b => simp [doOverloadValue, overloadBits]
  | case3 n rest ih =>
    rw [doOverloadValue, if_pos rfl]
    exact ih overload
  | case4 n rest hpad =>
    rw [doOverloadValue, if_neg hpad, if_pos rfl]
    exact (Nat.or_zero _).symm
  | case5 c n rest hpad hstop hover =>
    have hskip : doOverloadValue (n :: rest) (n.toNat + 1) overload = overload := by
      rw [doOverloadValue_drop, List.drop_succ_cons, List.drop_eq_nil_of_le (by omega)]
      rfl
    have hat : at0 (n :: rest) 0 = n := rfl
    rw [doOverloadValue, if_neg hpad, if_neg hstop]
    split
    · exact (Nat.or_zero _).symm
    · next hlong =>
      -- an option of one byte would lie in the field
      have hne : ¬ (c = DCODE_OVERLOAD ∧ n = 1) := by
        rintro ⟨-, rfl⟩
        simp only [List.length_cons] at hlong
        have : (1 : UInt8).toNat = 1 := rfl
        omega
      rw [hat, if_neg hne, hskip]
      exact (Nat.or_zero _).symm
  | case6 c n rest hpad hstop hin ih =>
    have hat : at0 (n :: rest) 0 = n := rfl
    have htake : (rest.take n.toNat).length = n.toNat := by
      rw [List.length_take]
      omega
    have hone : (rest.take n.toNat).length = 1 ↔ n = 1 := by
      rw [htake]
      exact ⟨fun h => UInt8.toNat_inj.mp h, fun h => by rw [h]; rfl⟩
    rw [doOverloadValue, if_neg hpad, if_neg hstop, overloadBits, List.foldr_cons]
    simp only [hat, hone]
    split
    · next hshort =>
      have hnil : rest = [] := List.eq_nil_of_length_eq_zero (by simp only [List.length_cons] at hshort; omega)
      subst hnil
      have hn0 : n ≠ 1 := by
        rintro rfl
        exact hin (by decide)
      simp [parse, hn0]
    · split
      · next hov =>
        obtain ⟨rfl, rfl⟩ := hov
        obtain ⟨v, rest, rfl⟩ := List.exists_cons_of_ne_nil (l := rest) (by rintro rfl; exact hin (by decide))
        rw [doOverloadValue_drop, show ((1 : UInt8) :: v :: rest).drop 2 = rest by rfl]
        exact (ih (overload ||| v.toNat)).trans (Nat.or_assoc _ _ _)
      · rw [doOverloadValue_drop, List.drop_succ_cons, ih]
        rfl

/-- A field gives the same options when its bytes up to END are the same. -/
theorem fieldOptions_congr (bs bs' : List UInt8)
    (h : upToStop DCODE_PADDING DCODE_END bs' = upToStop DCODE_PADDING DCODE_END bs) :
    fieldOptions bs' = fieldOptions bs := by
  unfold fieldOptions
  rw [← parse_upToStop, h, parse_upToStop]

/-! ## The overload value -/

section
variable (m : DhcpMsg)

theorem or_and_ne_zero (a b c : Nat) (h : a &&& c ≠ 0) : (a ||| b) &&& c ≠ 0 := by
  rw [Nat.and_or_distrib_right]
  exact fun h0 => h (Nat.or_eq_zero_iff.mp h0).1

/-- With both bits in `options` the code does not look into `file`, and `file` has nothing to add. -/
theorem overloadValue_bits : (overloadValue m &&& 1 ≠ 0 ↔ referenceOverload m &&& 1 ≠ 0) ∧
    (overloadValue m &&& 2 ≠ 0 ↔ referenceOverload m &&& 2 ≠ 0) := by
  unfold overloadValue referenceOverload designated
  simp only [doOverloadValue_parse, Nat.zero_or]
  split
  · next h => exact ⟨iff_of_true h.1 (or_and_ne_zero _ _ _ h.1), iff_of_true h.2 (or_and_ne_zero _ _ _ h.2)⟩
  · next h =>
    split
    · rw [← Nat.or_assoc, Nat.or_self]
      exact ⟨Iff.rfl, Iff.rfl⟩
    · split
      · rw [← Nat.or_assoc, Nat.or_self]
        exact ⟨Iff.rfl, Iff.rfl⟩
      · rw [show overloadBits (fieldOptions []) = 0 by simp [fieldOptions, parse, overloadBits], Nat.or_zero]
        exact ⟨Iff.rfl, Iff.rfl⟩

variable {m} {m' : DhcpMsg} (h : SameToRead m m')
include h

theorem SameToRead.referenceOverload : referenceOverload m' = referenceOverload m := by
  have hopt := fieldOptions_congr _ _ h.options
  have hdes : fieldOptions (designated m' (overloadBits (fieldOptions m.options))) =
      fieldOptions (designated m (overloadBits (fieldOptions m.options))) := by
    unfold designated
    split
    · next hb => exact fieldOptions_congr _ _ (h.file (or_and_ne_zero _ _ _ hb))
    · split
      · next hb => exact fieldOptions_congr _ _ (h.sname (or_and_ne_zero _ _ _ hb))
      · rfl
  unfold Ndhc.referenceOverload
  simp only [hopt, hdes]

theorem SameToRead.referenceOpt (code : UInt8) : referenceOpt m' code = referenceOpt m code := by
  unfold Ndhc.referenceOpt
  rw [fieldOptions_congr _ _ h.options, h.referenceOverload]
  congr 1
  · congr 1
    split
    · next hb => rw [fieldOptions_congr _ _ (h.file hb)]
    · rfl
  · split
    · next hb => rw [fieldOptions_congr _ _ (h.sname hb)]
    · rfl

end

/-! ## The value of an option -/

section
variable (m : DhcpMsg) (code : UInt8)

/-- With the capacity of all three fields the value is that of the reference. -/
theorem getDhcpOpt_of_capacity (dlen : Nat) (h : MAX_DOPT_SIZE ≤ dlen) :
    getDhcpOpt m code dlen = referenceOpt m code := by
  obtain ⟨h1, h2⟩ := overloadValue_bits m
  have hcap : MAX_DOPT_SIZE = 308 + 128 + 64 := rfl
  have hfile : m.file.length = 128 := m.length_file
  have hsname : m.sname.length = 64 := m.length_sname
  have hopts : m.options.length = 308 := m.length_options
  have hl := length_valueOf_parse DCODE_PADDING DCODE_END code m.options
  have hl' := length_valueOf_parse DCODE_PADDING DCODE_END code m.file
  have hroom : ([] : List UInt8).length + m.options.length ≤ dlen := by
    rw [List.length_nil]
    omega
  have hroom' : (valueOf code (fieldOptions m.options)).length + m.file.length ≤ dlen := by
    unfold fieldOptions
    omega
  have hroom'' : (valueOf code (fieldOptions m.options) ++
      (if referenceOverload m &&& 1 ≠ 0 then valueOf code (fieldOptions m.file) else [])).length +
        m.sname.length ≤ dlen := by
    unfold fieldOptions
    rw [List.length_append]
    split
    · omega
    · rw [List.length_nil]
      omega
  have hadd : ∀ (p : Prop) [Decidable p] (a b : List UInt8), (if p then a ++ b else a) = a ++ if p then b else [] := by
    intro p _ a b
    split <;> simp
  simp only [getDhcpOpt, referenceOpt, h1, h2, doGetDhcpOpt_parse code dlen _ _ hroom, List.nil_append,
    doGetDhcpOpt_parse code dlen _ _ hroom', hadd, doGetDhcpOpt_parse code dlen _ _ hroom'']

/-- **Options are concatenated across the fields the overload value designates.**  What
`get_dhcp_opt` gives at `MAX_DOPT_SIZE` is the reference; every read and copy stays in its buffer;
a larger buffer would give no more; and only the bytes up to END of `options` and of the fields
designated have a say. -/
theorem getDhcpOpt_eq_reference :
    getDhcpOpt m code MAX_DOPT_SIZE = referenceOpt m code ∧
      getDhcpOptChecked m code MAX_DOPT_SIZE = some (referenceOpt m code) ∧
      (∀ dlen, MAX_DOPT_SIZE ≤ dlen → getDhcpOpt m code dlen = getDhcpOpt m code MAX_DOPT_SIZE) ∧
      ∀ m', SameToRead m m' → getDhcpOpt m' code MAX_DOPT_SIZE = getDhcpOpt m code MAX_DOPT_SIZE := by
  have href := fun m : DhcpMsg => getDhcpOpt_of_capacity m code MAX_DOPT_SIZE (Nat.le_refl _)
  refine ⟨href m, ?_, fun dlen h => ?_, fun m' h => ?_⟩
  · rw [getDhcpOptChecked_eq, href]
  · rw [getDhcpOpt_of_capacity m code dlen h, href]
  · rw [href, href, h.referenceOpt]

end

end Ndhc
