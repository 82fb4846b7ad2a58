import Ndhc.Ifch.Parse

/-!
# The command codec

What `ifchd_cmd` writes against what `ifchd_parser` reads.  The encoders' texts (decimal
numbers, dotted quads, comma-joined lists, option bytes) are placed in the argument
grammars; `codec_agrees_iff` then says for which option values the command of each option
that `ifchange_bind` sends reaches its handler with the encoded value.
-/

namespace Ndhc

open Bytes

/-! ## Decimal text -/

theorem isDigit_of_mem_decimal (n : Nat) (c : UInt8) (hc : c ∈ decimal n) : isDigit c = true := by
  obtain ⟨d, hd, rfl⟩ := List.mem_map.1 hc
  have h := Nat.isDigit_of_mem_toDigits (by decide) (by decide) hd
  simp only [Char.isDigit, Bool.and_eq_true, decide_eq_true_eq, ge_iff_le, UInt32.le_iff_toNat_le] at h
  have h0 : 48 ≤ d.toNat ∧ d.toNat ≤ 57 := h
  simp only [isDigit, Bool.and_eq_true, decide_eq_true_eq, UInt8.le_iff_toNat_le]
  have hm : d.toNat.toUInt8.toNat = d.toNat := by
    simp only [Nat.toUInt8_eq, UInt8.toNat_ofNat']
    omega
  rw [hm]
  exact h0

theorem length_decimal_pos (n : Nat) : 1 ≤ (decimal n).length := by
  rw [decimal, List.length_map]
  exact Nat.length_toDigits_pos

theorem length_decimal_le_iff (n k : Nat) (hk : 0 < k) :
    (decimal n).length ≤ k ↔ n < 10 ^ k := by
  rw [decimal, List.length_map]
  exact Nat.length_toDigits_le_iff (by decide) hk

theorem length_decimal_byte (b : UInt8) : (decimal b.toNat).length ≤ 3 :=
  (length_decimal_le_iff _ 3 (by decide)).2 (by have := b.toNat_lt; omega)

theorem length_inetNtop_le (bs : List UInt8) : (inetNtop bs).length ≤ 15 := by
  have h0 := length_decimal_byte (at0 bs 0)
  have h1 := length_decimal_byte (at0 bs 1)
  have h2 := length_decimal_byte (at0 bs 2)
  have h3 := length_decimal_byte (at0 bs 3)
  simp only [inetNtop, List.length_append, List.length_cons]
  omega

theorem length_iplistRest_le (bs : List UInt8) : (iplistRest bs).length ≤ 4 * bs.length := by
  induction bs using iplistRest.induct with
  | case1 a b c d bs ih =>
    have := length_inetNtop_le [a, b, c, d]
    simp only [iplistRest, List.length_append, List.length_cons]
    omega
  | case2 bs h => simp [iplistRest]

theorem length_iplistText_le (od : List UInt8) (h : od.length ≤ MAX_DOPT_SIZE) :
    (iplistText od).length ≤ 2015 := by
  have h1 := length_inetNtop_le (od.take 4)
  have h2 := length_iplistRest_le (od.drop 4)
  simp only [MAX_DOPT_SIZE] at h
  simp only [iplistText, List.length_append, List.length_drop] at h2 ⊢
  omega

/-! ## Encoded text in the argument grammars -/

theorem isDigit_ne (c : UInt8) (hc : isDigit c = true) : c ≠ 59 ∧ c ≠ 0 := by
  constructor
  · rintro rfl
    revert hc
    decide
  · rintro rfl
    revert hc
    decide

section
variable (lo : Nat) (hi : Option Nat)

theorem feed_digits (commas dots digits : Nat) (ds : List UInt8)
    (hd : ∀ c ∈ ds, isDigit c = true) (hl : digits + ds.length ≤ 3) :
    (ArgKind.addrs lo hi).feed (.addr commas dots digits) ds =
      some (.addr commas dots (digits + ds.length)) := by
  induction ds generalizing digits with
  | nil => rfl
  | cons c ds ih =>
    have hc := hd c List.mem_cons_self
    have hlt : digits < 3 := by simp only [List.length_cons] at hl; omega
    simp only [ArgKind.feed, (isDigit_ne c hc).1, and_false, if_false, ArgKind.next, hc, if_true, hlt]
    rw [ih (digits + 1) (fun c' hc' => hd c' (List.mem_cons_of_mem _ hc'))
      (by simp only [List.length_cons] at hl; omega)]
    simp only [List.length_cons]
    congr 2
    omega

/-- A decimal byte fills the current group. -/
theorem feed_decimal (commas dots : Nat) (b : UInt8) :
    (ArgKind.addrs lo hi).feed (.addr commas dots 0) (decimal b.toNat) =
      some (.addr commas dots (decimal b.toNat).length) := by
  have h := feed_digits lo hi commas dots 0 (decimal b.toNat)
    (fun c hc => isDigit_of_mem_decimal _ c hc) (by have := length_decimal_byte b; omega)
  rwa [Nat.zero_add] at h

theorem feed_dot (commas dots digits : Nat) (as : List UInt8) (hd : dots < 3) (h1 : 1 ≤ digits) :
    (ArgKind.addrs lo hi).feed (.addr commas dots digits) (46 :: as) =
      (ArgKind.addrs lo hi).feed (.addr commas (dots + 1) 0) as := by
  have hnd : isDigit 46 = false := by decide
  simp [ArgKind.feed, ArgKind.next, hnd, hd, h1]

theorem feed_comma (commas digits : Nat) (as : List UInt8) (h1 : 1 ≤ digits)
    (hh : ∀ m ∈ hi, commas < m) :
    (ArgKind.addrs lo hi).feed (.addr commas 3 digits) (44 :: as) =
      (ArgKind.addrs lo hi).feed (.addr (commas + 1) 0 0) as := by
  have hnd : isDigit 44 = false := by decide
  have hn : (ArgKind.addrs lo hi).next (.addr commas 3 digits) 44 =
      some (.addr (commas + 1) 0 0) := by
    simpa [ArgKind.next, hnd, h1] using hh
  simp [ArgKind.feed, hn]

theorem feed_inetNtop (commas : Nat) (bs : List UInt8) :
    ∃ d, 1 ≤ d ∧ (ArgKind.addrs lo hi).feed (.addr commas 0 0) (inetNtop bs) =
      some (.addr commas 3 d) := by
  refine ⟨(decimal (at0 bs 3).toNat).length, length_decimal_pos _, ?_⟩
  simp only [inetNtop, List.append_assoc, List.cons_append, ArgKind.feed_append, feed_decimal,
    Option.bind_some]
  rw [feed_dot lo hi _ _ _ _ (by decide) (length_decimal_pos _), ArgKind.feed_append, feed_decimal,
    Option.bind_some, feed_dot lo hi _ _ _ _ (by decide) (length_decimal_pos _),
    ArgKind.feed_append, feed_decimal, Option.bind_some,
    feed_dot lo hi _ _ _ _ (by decide) (length_decimal_pos _), feed_decimal]

end

theorem feed_iplistRest (commas digits : Nat) (bs : List UInt8) (h1 : 1 ≤ digits) :
    ∃ m d, 1 ≤ d ∧ (ArgKind.addrs 0 none).feed (.addr commas 3 digits) (iplistRest bs) =
      some (.addr m 3 d) := by
  induction bs using iplistRest.induct generalizing commas digits with
  | case1 a b c d bs ih =>
    obtain ⟨d1, hd1, hf⟩ := feed_inetNtop 0 none (commas + 1) [a, b, c, d]
    obtain ⟨m, d2, hd2, hr⟩ := ih (commas + 1) d1 hd1
    refine ⟨m, d2, hd2, ?_⟩
    rw [iplistRest, List.cons_append, feed_comma 0 none _ _ _ h1 (by simp), ArgKind.feed_append, hf,
      Option.bind_some, hr]
  | case2 bs h =>
    refine ⟨commas, digits, h1, ?_⟩
    rw [iplistRest]
    · rfl
    · exact h

theorem inetNtop_ne_nil (bs : List UInt8) : inetNtop bs ≠ [] := by
  simp [inetNtop]

theorem matches_inetNtop (hi : Option Nat) (bs : List UInt8) :
    (ArgKind.addrs 0 hi).Matches (inetNtop bs) := by
  obtain ⟨d, hd, hf⟩ := feed_inetNtop 0 hi 0 bs
  exact ⟨inetNtop_ne_nil bs, _, hf, by simp [ArgKind.accepts, hd]⟩

theorem matches_iplistText (od : List UInt8) : (ArgKind.addrs 0 none).Matches (iplistText od) := by
  obtain ⟨d, hd, hf⟩ := feed_inetNtop 0 none 0 (od.take 4)
  obtain ⟨m, d2, hd2, hr⟩ := feed_iplistRest 0 d (od.drop 4) hd
  refine ⟨by simp [iplistText, inetNtop_ne_nil], .addr m 3 d2, ?_, by simp [ArgKind.accepts, hd2]⟩
  rw [iplistText, ArgKind.feed_append]
  show ((ArgKind.addrs 0 none).feed (.addr 0 0 0) _).bind _ = _
  rw [hf, Option.bind_some, hr]

theorem feed_str (as : List UInt8) (seen : Bool) (h : ∀ c ∈ as, c ≠ 59 ∧ c ≠ 0) :
    ArgKind.str.feed (.str seen) as = some (.str (seen || !as.isEmpty)) := by
  induction as generalizing seen with
  | nil => simp [ArgKind.feed]
  | cons c as ih =>
    obtain ⟨h59, h0⟩ := h c List.mem_cons_self
    have hn : ArgKind.str.next (.str seen) c = some (.str true) := by
      simp [ArgKind.next, h59, h0]
    simp only [ArgKind.feed, h59, and_false, if_false, hn]
    rw [ih true fun c' hc' => h c' (List.mem_cons_of_mem _ hc')]
    simp

theorem matches_str (as : List UInt8) (hne : as ≠ []) (h : ∀ c ∈ as, c ≠ 59 ∧ c ≠ 0) :
    ArgKind.str.Matches as := by
  refine ⟨hne, _, feed_str as false h, ?_⟩
  simpa [ArgKind.accepts] using hne

theorem feed_extend (n left : Nat) (as : List UInt8) (h : as.length ≤ left) :
    (ArgKind.extend n).feed (.extend left) as = some (.extend (left - as.length)) := by
  induction as generalizing left with
  | nil => rfl
  | cons c as ih =>
    simp only [List.length_cons] at h
    have h0 : left ≠ 0 := by omega
    have ha : ((ArgKind.extend n).accepts (.extend left) = true ∧ c = 59) = False := by
      simp [ArgKind.accepts, h0]
    simp only [ArgKind.feed, ha, if_false, ArgKind.next, h0]
    rw [ih (left - 1) (by omega)]
    simp only [List.length_cons]
    congr 2
    omega

theorem matches_extend (n : Nat) (as : List UInt8) (hne : as ≠ []) (h : as.length = n) :
    (ArgKind.extend n).Matches as := by
  refine ⟨hne, _, feed_extend n n as (by omega), ?_⟩
  simp [ArgKind.accepts, h]

/-! ## The command of an encoder -/

/-- Over every buffer size, `ifcmd_raw` writes one text or nothing, and some size fits it. -/
theorem forall_ifcmdRaw_iff (name data : List UInt8) (P : List UInt8 → Prop)
    (hd : data.length ≤ INT_MAX) :
    (∀ bl text, ifcmdRaw bl name data = some text → P text) ↔
      P (name ++ 58 :: cstr data ++ [59]) := by
  have hle := length_cstr_le data
  constructor
  · intro h
    apply h (name.length + data.length + 3)
    have hlen : (name ++ 58 :: cstr data ++ [59]).length < name.length + data.length + 3 := by
      simp only [List.length_append, List.length_cons, List.length_nil]
      omega
    simp only [ifcmdRaw, if_neg (by omega : ¬ INT_MAX < data.length), Nat.lt_irrefl, if_false,
      if_neg (by omega : ¬ name.length + data.length + 3 ≤ (name ++ 58 :: cstr data ++ [59]).length)]
  · intro h bl text htext
    simp only [ifcmdRaw] at htext
    split at htext
    · cases htext
    · split at htext
      · cases htext
      · split at htext
        · cases htext
        · cases htext
          exact h

/-! ## What a text dispatches -/

/-- The commands dispatched, with their arguments. -/
abbrev Log := List (IfchdState × List UInt8)

/-- A `Dispatch` that records its command and succeeds. -/
def logDispatch (l : Log) (st : IfchdState) (arg : List UInt8) : Log × Int := (l ++ [(st, arg)], 0)

/-- `execute_buffer` on an empty `cl.ibuf` accepts `text` and dispatches `st` once, with `arg`. -/
def DispatchesOnce (text : List UInt8) (st : IfchdState) (arg : List UInt8) : Prop :=
  executeBuffer logDispatch [] text [] = (0, [], [(st, arg)])

instance (text : List UInt8) (st : IfchdState) (arg : List UInt8) :
    Decidable (DispatchesOnce text st arg) :=
  inferInstanceAs (Decidable (_ = _))

/-- Dispatched commands stay in the log. -/
theorem log_isPrefix (text : List UInt8) (x : Exec Log) :
    x.user <+: (exec logDispatch text x).user :=
  exec_related logDispatch (· <+: ·) List.prefix_refl
    (fun u st as => List.prefix_append u [(st, as)]) (fun _ _ _ => List.IsPrefix.trans) text x

theorem executeBuffer_eq {σ : Type} (h : σ → IfchdState → List UInt8 → σ × Int)
    (text : List UInt8) (u : σ) (h0 : 0 ∉ text) (hl : text.length < MAX_BUF * 2) :
    executeBuffer h [] text u =
      match exec h text (.init u) with
      | .done x => (if x.pos = .final then (if x.cmdf then -1 else 0) else -99, [], x.user)
      | .err x rest => (-99, rest.take (MAX_BUF - 1), x.user)
      | .abort u' => (-99, [], u') := by
  have hl' : ¬ MAX_BUF * 2 ≤ text.length := by omega
  unfold executeBuffer
  cases hx : exec h text (.init u) with
  | done x => simp only [List.nil_append, cstr_eq_self text h0, if_neg hl', hx]
  | err x rest => simp only [List.nil_append, cstr_eq_self text h0, if_neg hl', hx]
  | abort u' => simp only [List.nil_append, cstr_eq_self text h0, if_neg hl', hx]

theorem executeBuffer_user {σ : Type} (h : σ → IfchdState → List UInt8 → σ × Int)
    (text : List UInt8) (u : σ) (h0 : 0 ∉ text) (hl : text.length < MAX_BUF * 2) :
    (executeBuffer h [] text u).2.2 = (exec h text (.init u)).user := by
  rw [executeBuffer_eq h text u h0 hl]
  split <;> next hx => rw [hx]; rfl

/-- A command text is dispatched once if its argument is of the grammar and fits. -/
theorem dispatchesOnce_of_matches (e : List UInt8 × IfchdState × ArgKind) (he : e ∈ commands)
    (as : List UInt8) (hm : e.2.2.Matches as) (hlen : as.length ≤ MAX_BUF - 1)
    (h0 : 0 ∉ e.1 ++ as ++ [59]) (hl : (e.1 ++ as ++ [59]).length < MAX_BUF * 2) :
    DispatchesOnce (e.1 ++ as ++ [59]) e.2.1 as := by
  unfold DispatchesOnce
  rw [executeBuffer_eq logDispatch _ _ h0 hl,
    exec_command logDispatch e he as [] (.init []) rfl hm hlen]
  rfl

/-- A list too long for the argument buffer is refused. -/
theorem not_dispatchesOnce_of_long (e : List UInt8 × IfchdState × ArgKind) (he : e ∈ commands)
    (as arg : List UInt8) (st : IfchdState) (hm : e.2.2.Matches as) (hlen : MAX_BUF - 1 < as.length)
    (h0 : 0 ∉ e.1 ++ as ++ [59]) (hl : (e.1 ++ as ++ [59]).length < MAX_BUF * 2) :
    ¬ DispatchesOnce (e.1 ++ as ++ [59]) st arg := by
  unfold DispatchesOnce
  rw [executeBuffer_eq logDispatch _ _ h0 hl,
    exec_command_long logDispatch e he as [] (.init []) rfl hm hlen]
  simp

/-! ## Which values each encoder carries -/

/-- The part of option bytes that `str_arg` takes: up to a NUL or a `;`. -/
def strPart (od : List UInt8) : List UInt8 := od.takeWhile fun c => c ≠ 0 && c ≠ 59

theorem strPart_mem (od : List UInt8) (c : UInt8) (hc : c ∈ strPart od) : c ≠ 59 ∧ c ≠ 0 := by
  have h := List.mem_takeWhile_imp hc
  simp only [Bool.and_eq_true, decide_eq_true_eq] at h
  exact ⟨h.2, h.1⟩

theorem length_strPart_le (od : List UInt8) : (strPart od).length ≤ od.length :=
  (List.takeWhile_prefix _).length_le

/-- However the option bytes go on, the command's first `;` stands right after that part. -/
theorem exists_cstr_eq_strPart (od : List UInt8) :
    ∃ rest, cstr od ++ [59] = strPart od ++ 59 :: rest := by
  induction od with
  | nil => exact ⟨[], rfl⟩
  | cons c od ih =>
    by_cases h0 : c = 0
    · exact ⟨[], by simp [cstr, strPart, h0]⟩
    · by_cases h59 : c = 59
      · exact ⟨cstr od ++ [59], by simp [cstr, strPart, h59]⟩
      · obtain ⟨rest, hr⟩ := ih
        refine ⟨rest, ?_⟩
        have h1 : cstr (c :: od) = c :: cstr od := by simp [cstr, h0]
        have h2 : strPart (c :: od) = c :: strPart od := by simp [strPart, h0, h59]
        rw [h1, h2, List.cons_append, List.cons_append, hr]

section
variable (e : List UInt8 × IfchdState × ArgKind) (he : e ∈ commands)
include he

theorem zero_not_mem_word : 0 ∉ e.1 := by
  simp only [commands, List.mem_cons, List.not_mem_nil, or_false] at he
  rcases he with rfl | rfl | rfl | rfl | rfl | rfl | rfl | rfl | rfl | rfl | rfl | rfl <;> decide

theorem length_word_le : e.1.length ≤ 8 := by
  simp only [commands, List.mem_cons, List.not_mem_nil, or_false] at he
  rcases he with rfl | rfl | rfl | rfl | rfl | rfl | rfl | rfl | rfl | rfl | rfl | rfl <;> decide

theorem zero_not_mem_text (as : List UInt8) (h0 : 0 ∉ as) : 0 ∉ e.1 ++ as ++ [59] := by
  simp [zero_not_mem_word e he, h0]

theorem length_text_lt (as : List UInt8) (hl : as.length ≤ 2015) :
    (e.1 ++ as ++ [59]).length < MAX_BUF * 2 := by
  have := length_word_le e he
  simp only [List.length_append, List.length_cons, List.length_nil, MAX_BUF]
  omega

/-- Text of the argument's grammar is carried if and only if it fits the argument buffer. -/
theorem dispatchesOnce_matches_iff (as : List UInt8) (hm : e.2.2.Matches as) (h0 : 0 ∉ as)
    (hl : as.length ≤ 2015) :
    DispatchesOnce (e.1 ++ as ++ [59]) e.2.1 as ↔ as.length ≤ MAX_BUF - 1 := by
  have hz := zero_not_mem_text e he as h0
  have hlt := length_text_lt e he as hl
  constructor
  · intro hd
    by_contra hlen
    exact not_dispatchesOnce_of_long e he as as e.2.1 hm (by omega) hz hlt hd
  · intro hlen
    exact dispatchesOnce_of_matches e he as hm hlen hz hlt

/-- Option bytes are carried whole if and only if there are some and none ends the C string
or the command. -/
theorem dispatchesOnce_str_iff (hk : e.2.2 = .str) (od : List UInt8)
    (hl : od.length ≤ MAX_DOPT_SIZE) :
    DispatchesOnce (e.1 ++ cstr od ++ [59]) e.2.1 od ↔ od ≠ [] ∧ ∀ c ∈ od, c ≠ 59 ∧ c ≠ 0 := by
  have hl' := length_cstr_le od
  simp only [MAX_DOPT_SIZE] at hl
  have hz := zero_not_mem_text e he _ (zero_not_mem_cstr od)
  have hlt := length_text_lt e he (cstr od) (by omega)
  constructor
  · intro hd
    have hlog : (exec logDispatch (e.1 ++ cstr od ++ [59]) (.init [])).user = [(e.2.1, od)] := by
      rw [← executeBuffer_user logDispatch _ _ hz hlt, hd]
    obtain ⟨rest, hr⟩ := exists_cstr_eq_strPart od
    have hple := length_strPart_le od
    rw [List.append_assoc, hr] at hlog
    by_cases hne : strPart od = []
    · -- the word is followed by its `;` at once: the error state, nothing dispatched
      rw [hne, List.nil_append, exec_word logDispatch e he _ _ rfl, hk] at hlog
      exact absurd hlog (by simp [exec, stepByte, argStep, ArgKind.accepts, ArgKind.start,
        ArgKind.next, Ended.user, Exec.init])
    · have hm : e.2.2.Matches (strPart od) := by
        rw [hk]
        exact matches_str _ hne (strPart_mem od)
      rw [← List.append_assoc,
        exec_command logDispatch e he _ rest _ rfl hm (by simp only [MAX_BUF]; omega)] at hlog
      have hp : [(e.2.1, strPart od)] <+: [(e.2.1, od)] := by
        rw [← hlog]
        exact log_isPrefix rest ⟨.final, e.2.1, [], false, [(e.2.1, strPart od)]⟩
      have heq : strPart od = od := by
        simpa using hp
      rw [heq] at hne
      exact ⟨hne, fun c hc => strPart_mem od c (by rwa [heq])⟩
  · rintro ⟨hne, hod⟩
    have h0 : 0 ∉ od := fun h => (hod 0 h).2 rfl
    rw [cstr_eq_self od h0]
    refine (dispatchesOnce_matches_iff e he od ?_ h0 (by omega)).2 (by simp only [MAX_BUF]; omega)
    rw [hk]
    exact matches_str od hne hod

/-- Decimal text is carried by an `extend{n}` argument if and only if it has `n` characters. -/
theorem dispatchesOnce_extend_iff (n : Nat) (hk : e.2.2 = .extend n) (hn : 1 ≤ n) (v : Nat)
    (hl : (decimal v).length ≤ 1023) :
    DispatchesOnce (e.1 ++ decimal v ++ [59]) e.2.1 (decimal v) ↔ (decimal v).length = n := by
  have hdig : ∀ c ∈ decimal v, c ≠ 59 ∧ c ≠ 0 := fun c hc =>
    isDigit_ne c (isDigit_of_mem_decimal v c hc)
  have h0 : 0 ∉ decimal v := fun h => (hdig 0 h).2 rfl
  have hz := zero_not_mem_text e he _ h0
  have hlt := length_text_lt e he (decimal v) (by omega)
  have hpos := length_decimal_pos v
  have hne : decimal v ≠ [] := by
    intro h
    simp [h] at hpos
  constructor
  · intro hd
    unfold DispatchesOnce at hd
    rw [executeBuffer_eq logDispatch _ _ hz hlt, List.append_assoc,
      exec_word logDispatch e he _ _ rfl] at hd
    obtain ⟨c, ds, hcds⟩ := List.exists_cons_of_ne_nil hne
    rcases Nat.lt_trichotomy (decimal v).length n with hlt' | heq | hgt
    · -- the `;` is taken as one of the `n` characters
      have hf : e.2.2.feed e.2.2.start (c :: (ds ++ [59])) =
          some (.extend (n - (decimal v ++ [59]).length)) := by
        rw [hk, ← List.cons_append, ← hcds]
        exact feed_extend n n _ (by simp; omega)
      have := exec_argStart logDispatch e.2.1 e.2.2 c (ds ++ [59]) [] _
        { (Exec.init ([] : Log)) with pos := .argStart e.2.1 e.2.2, state := .nothing } rfl hf
      rw [hcds, List.cons_append, ← List.append_nil (ds ++ [59]), ← List.cons_append, this] at hd
      simp [exec] at hd
    · exact heq
    · -- a digit stands where the `;` is due
      obtain ⟨as, b, bs, hsplit, has⟩ : ∃ as b bs, decimal v = as ++ b :: bs ∧ as.length = n :=
        ⟨(decimal v).take n, (decimal v)[n], (decimal v).drop (n + 1),
          by rw [← List.drop_eq_getElem_cons hgt, List.take_append_drop], by simp; omega⟩
      obtain ⟨a, as', rfl⟩ := List.exists_cons_of_ne_nil (by
        intro h
        rw [h] at has
        simp at has
        omega : as ≠ [])
      have hf : e.2.2.feed e.2.2.start (a :: as') = some (.extend 0) := by
        rw [hk]
        have := feed_extend n n (a :: as') (by omega)
        rwa [has, Nat.sub_self] at this
      have hb : b ≠ 59 := (hdig b (by rw [hsplit]; simp)).1
      have := exec_argStart logDispatch e.2.1 e.2.2 a as' (b :: bs ++ [59]) _
        { (Exec.init ([] : Log)) with pos := .argStart e.2.1 e.2.2, state := .nothing } rfl hf
      rw [hsplit, List.append_assoc, this, hk] at hd
      simp [exec, stepByte, argStep, hb, ArgKind.next] at hd
  · intro hlen
    refine (dispatchesOnce_matches_iff e he _ ?_ h0 (by omega)).2 (by simp only [MAX_BUF]; omega)
    rw [hk]
    exact matches_extend n _ hne hlen

end

/-! ## The codec -/

/-- The state matching an option that `ifchange_bind` sends. -/
def stateOf (code : UInt8) : IfchdState :=
  if code = DCODE_ROUTER then .router
  else if code = DCODE_DNS then .dns
  else if code = DCODE_HOSTNAME then .hostname
  else if code = DCODE_DOMAIN then .domain
  else if code = DCODE_MTU then .mtu
  else if code = DCODE_WINS then .wins
  else .nothing

/-- The value an option stands for, as text: a dotted quad, a comma-joined list, the
option's bytes, or a decimal number. -/
def encodedValue (code : UInt8) (od : List UInt8) : List UInt8 :=
  if code = DCODE_ROUTER then inetNtop (od.take 4)
  else if code = DCODE_DNS ∨ code = DCODE_WINS then iplistText od
  else if code = DCODE_MTU then decimal (be (od.take 2))
  else od

/-- Whatever `ifchd_cmd` writes for the option is dispatched once, to the matching state, with
the value. -/
def CodecAgrees (code : UInt8) (od : List UInt8) : Prop :=
  ∀ bl text, ifchdCmd bl od code = some text →
    DispatchesOnce text (stateOf code) (encodedValue code od)

/-- The values the codec carries: every router; lists whose text fits the argument buffer;
non-empty strings without NUL or `;`; two-digit MTUs.  Values too short for their encoder
produce no command. -/
def Encodable (code : UInt8) (od : List UInt8) : Prop :=
  if code = DCODE_ROUTER then True
  else if code = DCODE_DNS ∨ code = DCODE_WINS then
    4 ≤ od.length → (iplistText od).length ≤ MAX_BUF - 1
  else if code = DCODE_MTU then
    2 ≤ od.length → 10 ≤ be (od.take 2) ∧ be (od.take 2) ≤ 99
  else od ≠ [] ∧ ∀ c ∈ od, c ≠ 59 ∧ c ≠ 0

/-- An encoder that hands `data` to `ifcmd_raw` under the word of `e`, if it has enough bytes. -/
theorem codecAgrees_iff_of_raw (code : UInt8) (od name data : List UInt8)
    (e : List UInt8 × IfchdState × ArgKind) (n : Nat) (hd : data.length ≤ INT_MAX)
    (hword : e.1 = name ++ [58]) (hst : stateOf code = e.2.1)
    (hcmd : ∀ bl, ifchdCmd bl od code =
      if od.length < n then none else ifcmdRaw bl name data) :
    CodecAgrees code od ↔
      (n ≤ od.length → DispatchesOnce (e.1 ++ cstr data ++ [59]) e.2.1 (encodedValue code od)) := by
  unfold CodecAgrees
  rw [hst, hword]
  simp only [hcmd]
  by_cases hn : od.length < n
  · simp only [if_pos hn]
    constructor
    · intro _ hle
      omega
    · intro _ bl text htext
      cases htext
  · simp only [if_neg hn]
    rw [forall_ifcmdRaw_iff name data (fun t => DispatchesOnce t e.2.1 (encodedValue code od)) hd]
    have hle : n ≤ od.length := by omega
    simp [hle]

theorem zero_not_mem_inetNtop (bs : List UInt8) : 0 ∉ inetNtop bs := by
  have h : ∀ b : UInt8, (0 : UInt8) ∉ decimal b.toNat := fun b hb =>
    (isDigit_ne 0 (isDigit_of_mem_decimal _ 0 hb)).2 rfl
  simp [inetNtop, h]

theorem zero_not_mem_iplistText (od : List UInt8) : 0 ∉ iplistText od := by
  have h : ∀ bs, 0 ∉ iplistRest bs := by
    intro bs
    induction bs using iplistRest.induct with
    | case1 a b c d bs ih => simp [iplistRest, zero_not_mem_inetNtop, ih]
    | case2 bs hbs => simp [iplistRest]
  simp [iplistText, zero_not_mem_inetNtop, h]

theorem codecAgrees_router (od : List UInt8) : CodecAgrees DCODE_ROUTER od := by
  have hl := length_inetNtop_le (od.take 4)
  refine (codecAgrees_iff_of_raw DCODE_ROUTER od (ascii "routr") (inetNtop (od.take 4))
    (ascii "routr:", .router, .addrs 0 (some 0)) 4 (by simp only [INT_MAX]; omega) rfl rfl
    (fun _ => rfl)).2 fun _ => ?_
  rw [cstr_eq_self _ (zero_not_mem_inetNtop _)]
  exact (dispatchesOnce_matches_iff _ (by simp [commands]) _ (matches_inetNtop _ _)
    (zero_not_mem_inetNtop _) (by omega)).2 (by simp only [MAX_BUF]; omega)

/-- The list encoders. -/
theorem codecAgrees_iplist_iff (code : UInt8) (od name : List UInt8) (st : IfchdState)
    (he : (name ++ [58], st, ArgKind.addrs 0 none) ∈ commands) (hst : stateOf code = st)
    (hv : encodedValue code od = iplistText od)
    (hcmd : ∀ bl, ifchdCmd bl od code = ifcmdIplist bl name od) (hl : od.length ≤ MAX_DOPT_SIZE) :
    CodecAgrees code od ↔ (4 ≤ od.length → (iplistText od).length ≤ MAX_BUF - 1) := by
  have hlen := length_iplistText_le od hl
  rw [codecAgrees_iff_of_raw code od name (iplistText od) (name ++ [58], st, .addrs 0 none) 4
    (by simp only [INT_MAX]; omega) rfl hst hcmd, cstr_eq_self _ (zero_not_mem_iplistText od), hv,
    dispatchesOnce_matches_iff _ he _ (matches_iplistText od) (zero_not_mem_iplistText od) hlen]

/-- The string encoders. -/
theorem codecAgrees_str_iff (code : UInt8) (od name : List UInt8) (st : IfchdState)
    (he : (name ++ [58], st, ArgKind.str) ∈ commands) (hst : stateOf code = st)
    (hv : encodedValue code od = od) (hcmd : ∀ bl, ifchdCmd bl od code = ifcmdBytes bl name od)
    (hl : od.length ≤ MAX_DOPT_SIZE) :
    CodecAgrees code od ↔ od ≠ [] ∧ ∀ c ∈ od, c ≠ 59 ∧ c ≠ 0 := by
  have hd : od.length ≤ INT_MAX := by simp only [INT_MAX, MAX_DOPT_SIZE] at hl ⊢; omega
  rw [codecAgrees_iff_of_raw code od name od (name ++ [58], st, .str) 0 hd rfl hst
    (fun bl => by rw [hcmd, if_neg (Nat.not_lt_zero _)]; rfl), hv,
    dispatchesOnce_str_iff _ he rfl od hl]
  simp

theorem length_decimal_eq_two_iff (v : Nat) : (decimal v).length = 2 ↔ 10 ≤ v ∧ v ≤ 99 := by
  have h1 := length_decimal_le_iff v 1 (by decide)
  have h2 := length_decimal_le_iff v 2 (by decide)
  constructor
  · intro h
    omega
  · rintro ⟨hlo, hhi⟩
    omega

theorem codecAgrees_mtu_iff (od : List UInt8) :
    CodecAgrees DCODE_MTU od ↔
      (2 ≤ od.length → 10 ≤ be (od.take 2) ∧ be (od.take 2) ≤ 99) := by
  have hv : be (od.take 2) < 10 ^ 5 := by
    have hlt := be_lt (od.take 2)
    have hle : (od.take 2).length ≤ 2 := by simp
    have hpow : 256 ^ (od.take 2).length ≤ 256 ^ 2 := Nat.pow_le_pow_right (by decide) hle
    omega
  have hlen := (length_decimal_le_iff _ 5 (by decide)).2 hv
  have h0 : 0 ∉ decimal (be (od.take 2)) := fun h =>
    (isDigit_ne 0 (isDigit_of_mem_decimal _ 0 h)).2 rfl
  rw [codecAgrees_iff_of_raw DCODE_MTU od (ascii "mtu") (decimal (be (od.take 2)))
    (ascii "mtu:", .mtu, .extend 2) 2 (by simp only [INT_MAX]; omega) rfl rfl (fun _ => rfl),
    cstr_eq_self _ h0]
  have hx := dispatchesOnce_extend_iff (ascii "mtu:", .mtu, .extend 2) (by simp [commands]) 2 rfl
    (by decide) (be (od.take 2)) (by omega)
  rw [length_decimal_eq_two_iff] at hx
  exact imp_congr_right fun _ => hx

/-- **The command codec.**  For every option that `ifchange_bind` sends and every value of it,
the command `ifchd_cmd` writes is accepted by `execute_buffer` and dispatched once, to the
matching state and with the encoded value, if and only if the value is `Encodable`. -/
theorem codec_agrees_iff (code : UInt8) (hc : code ∈ bindCodes) (od : List UInt8)
    (hl : od.length ≤ MAX_DOPT_SIZE) : CodecAgrees code od ↔ Encodable code od := by
  simp only [bindCodes, List.mem_cons, List.not_mem_nil, or_false] at hc
  rcases hc with rfl | rfl | rfl | rfl | rfl | rfl
  · exact ⟨fun _ => trivial, fun _ => codecAgrees_router od⟩
  · exact codecAgrees_iplist_iff DCODE_DNS od (ascii "dns") .dns (by decide) rfl rfl
      (fun _ => rfl) hl
  · exact codecAgrees_str_iff DCODE_HOSTNAME od (ascii "host") .hostname (by decide) rfl rfl
      (fun _ => rfl) hl
  · exact codecAgrees_str_iff DCODE_DOMAIN od (ascii "dom") .domain (by decide) rfl rfl
      (fun _ => rfl) hl
  · exact codecAgrees_mtu_iff od
  · exact codecAgrees_iplist_iff DCODE_WINS od (ascii "wins") .wins (by decide) rfl rfl
      (fun _ => rfl) hl

theorem codec_agrees_hostname :
    (DCODE_HOSTNAME ∈ bindCodes ∧ (ascii "pc").length ≤ MAX_DOPT_SIZE) ∧
      CodecAgrees DCODE_HOSTNAME (ascii "pc") := by
  have hcode : DCODE_HOSTNAME ∈ bindCodes := by decide
  have hlen : (ascii "pc").length ≤ MAX_DOPT_SIZE := by decide
  refine ⟨⟨hcode, hlen⟩, (codec_agrees_iff DCODE_HOSTNAME hcode (ascii "pc") hlen).2 ?_⟩
  show ascii "pc" ≠ [] ∧ ∀ c ∈ ascii "pc", c ≠ 59 ∧ c ≠ 0
  decide +kernel

/-- An MTU of 1500 is sent as `mtu:1500;`, of which the grammar takes two characters. -/
theorem codec_mtu_1500_refused : ¬ CodecAgrees DCODE_MTU [0x05, 0xdc] := by
  intro h
  have hd := h 2048 (ascii "mtu:1500;") (by decide)
  revert hd
  decide

end Ndhc
