import Ndhc.Config.Line

/-!
# Reading the configuration file

`parse_cfgfile` reads into a buffer of 1023 bytes, runs the machine on every line in it, moves what
is left behind the last newline to the front and reads on.  Where that newline was is kept as an
index in which 0 stands for none at all.  So a full buffer whose only newline is its first byte is
taken for a line that is too long: a blank line and 1022 bytes of the next
(`cfgfile_by_lines_iff`).  Read any other way a file is its lines one after the other.
-/

namespace Ndhc

open Bytes Machine

section
variable (w : CfgWorld)

/-! ## The loop -/

/-- The inner loop over `l`, with the line up to `lend` and the last newline seen. -/
def scanLines : List UInt8 → List UInt8 → Nat → Nat → CfgParse → Option (CfgParse × Nat)
  | [], _, _, consumed, p => some (p, consumed)
  | b :: bs, line, lend, consumed, p =>
    if b = 10 then (runLine w p line).bind fun p => scanLines bs [] (lend + 1) lend p
    else scanLines bs (line ++ [b]) (lend + 1) consumed p

/-- The outer loop, with what the file still has and what is in `l`; `none` where the process ends. -/
def parseLoop (rest l : List UInt8) (p : CfgParse) : Option CfgParse :=
  if _ : MAX_BUF ≤ l.length + 1 then none
  else if heof : rest = [] then (scanLines w (l ++ [10]) [] 0 0 p).map (·.1)
  else
    let l' := l ++ rest.take (MAX_BUF - 1 - l.length)
    match scanLines w l' [] 0 0 p with
    | none => none
    | some (p, consumed) =>
      if consumed = 0 ∧ MAX_BUF - 1 ≤ l'.length then none
      else if l'.length < consumed + 1 then none
      else
        parseLoop (rest.drop (MAX_BUF - 1 - l.length)) (if consumed ≠ 0 then l'.drop (consumed + 1) else l') p
termination_by rest.length
decreasing_by
  have := List.length_pos_iff.mpr heof
  rw [List.length_drop]
  omega

/-- `parse_cfgfile` on the content of the file. -/
def parseCfgfile (content : List UInt8) (st : Settings) : Option Settings :=
  (parseLoop w content [] (.start st)).map (·.st)

/-! ## Statement -/

/-- The lines of a file, the last one perhaps without its newline. -/
def cfgLines (content : List UInt8) : List (List UInt8) := content.splitOn 10

/-- The lines one after the other, each with its action. -/
def applyLines (lines : List (List UInt8)) (st : Settings) : Option Settings := lines.foldlM (applyLine w) st

end

/-- What is left of `u` once a full buffer of it has been worked off up to its last newline. -/
def Refill (u v : List UInt8) : Prop :=
  MAX_BUF - 1 ≤ u.length ∧ ∃ as bs, u.take (MAX_BUF - 1) = as ++ 10 :: bs ∧ 10 ∉ bs ∧ as ≠ [] ∧
    v = u.drop (as.length + 1)

/-- A blank line and at least 1022 bytes of the next. -/
def Stuck (u : List UInt8) : Prop :=
  MAX_BUF - 1 ≤ u.length ∧ ∃ bs, u.take (MAX_BUF - 1) = 10 :: bs ∧ 10 ∉ bs

/-- No refill ever finds that. -/
def Free (u : List UInt8) : Prop := ∀ v, Relation.ReflTransGen Refill u v → ¬ Stuck v

theorem Free.of_short (u : List UInt8) (h : u.length < MAX_BUF - 1) : Free u := by
  intro v hv hstuck
  rcases hv.cases_head with rfl | ⟨x, hx, -⟩
  · exact absurd hstuck.1 (Nat.not_le.mpr h)
  · exact absurd hx.1 (Nat.not_le.mpr h)

theorem last_newline_unique (as bs as' bs' : List UInt8) (h : as ++ 10 :: bs = as' ++ 10 :: bs')
    (hbs : 10 ∉ bs) (hbs' : 10 ∉ bs') : as = as' := by
  -- the longer of the two would have the other newline behind its own
  have hle : ∀ cs ds es : List UInt8, 10 :: cs = ds ++ 10 :: es → 10 ∉ cs → ds = [] := by
    intro cs ds es heq hcs
    cases ds with
    | nil => rfl
    | cons d ds =>
      cases heq
      exact absurd (by simp) hcs
  rcases List.append_eq_append_iff.mp h with ⟨ds, rfl, hd⟩ | ⟨ds, rfl, hd⟩
  · rw [hle _ _ _ hd hbs, List.append_nil]
  · rw [hle _ _ _ hd hbs', List.append_nil]

/-- Past a buffer that is worked off the same is asked of the rest. -/
theorem free_iff_of_refill (u v : List UInt8) (h : Refill u v) : Free u ↔ Free v := by
  refine ⟨fun hu x hx => hu x (hx.head h), fun hv x hx hstuck => ?_⟩
  obtain ⟨-, as, bs, htake, hbs, has, rfl⟩ := h
  rcases hx.cases_head with rfl | ⟨y, ⟨-, as', bs', htake', hbs', -, rfl⟩, hy⟩
  · obtain ⟨-, cs, hcs, hnot⟩ := hstuck
    exact has (last_newline_unique as bs [] cs (by rw [← htake, hcs]; rfl) hbs hnot)
  · rw [last_newline_unique as' bs' as bs (by rw [← htake', htake]) hbs' hbs] at hy
    exact hv x hy hstuck

/-! ## Lines -/

theorem newline_not_mem_line (content : List UInt8) : ∀ line ∈ cfgLines content, 10 ∉ line := by
  induction content with
  | nil => simp [cfgLines]
  | cons b content ih =>
    unfold cfgLines at ih ⊢
    rw [List.splitOn_cons_eq_if_modifyHead]
    split
    · simpa using ih
    · next hb =>
      obtain ⟨l, ls, hl⟩ := List.exists_cons_of_ne_nil (List.splitOn_ne_nil 10 content)
      rw [hl] at ih ⊢
      have hne : (10 : UInt8) ≠ b := fun h => hb (by simp [h])
      rw [List.forall_mem_cons] at ih
      rw [List.modifyHead_cons, List.forall_mem_cons, List.mem_cons, not_or]
      exact ⟨⟨hne, ih.1⟩, ih.2⟩

theorem cfgLines_append (as bs : List UInt8) : cfgLines (as ++ 10 :: bs) = cfgLines as ++ cfgLines bs :=
  List.splitOn_append_cons_self ..

theorem last_newline (u : List UInt8) (h : 10 ∈ u) : ∃ as bs, u = as ++ 10 :: bs ∧ 10 ∉ bs := by
  obtain ⟨as, bs, hu, hnot⟩ := List.eq_append_cons_of_mem (List.mem_reverse.mpr h)
  refine ⟨bs.reverse, as.reverse, ?_, by simpa using hnot⟩
  rw [← List.reverse_inj, hu]
  simp

/-- The line a file starts with is no shorter than what comes before any newline. -/
theorem exists_line_ge (as bs : List UInt8) (h : 10 ∉ as) : ∃ line ∈ cfgLines (as ++ bs), as.length ≤ line.length := by
  by_cases hb : 10 ∈ bs
  · obtain ⟨cs, ds, rfl, hcs⟩ := List.eq_append_cons_of_mem hb
    refine ⟨as ++ cs, ?_, by simp⟩
    rw [← List.append_assoc, cfgLines_append, cfgLines, List.splitOn_eq_singleton (by simp [h, hcs])]
    simp
  · exact ⟨as ++ bs, by simp [cfgLines, List.splitOn_eq_singleton (show 10 ∉ as ++ bs by simp [h, hb])], by simp⟩

theorem last_newline_of_tail (u : List UInt8) (h : 10 ∈ u.tail) :
    ∃ as bs, u = as ++ 10 :: bs ∧ 10 ∉ bs ∧ as ≠ [] := by
  cases u with
  | nil => cases h
  | cons c u =>
    obtain ⟨as, bs, hu, hbs⟩ := last_newline u h
    exact ⟨c :: as, bs, by rw [List.cons_append, ← hu], hbs, by simp⟩

/-- A full buffer of lines that fit has a newline; if only its first byte is one, it is stuck. -/
theorem stuck_of_full (u : List UInt8) (hlines : ∀ line ∈ cfgLines u, line.length ≤ MAX_BUF - 2)
    (hfull : MAX_BUF - 1 ≤ u.length) (h : 10 ∉ (u.take (MAX_BUF - 1)).tail) : Stuck u := by
  refine ⟨hfull, ?_⟩
  cases htake : u.take (MAX_BUF - 1) with
  | nil =>
    have hlen := congrArg List.length htake
    rw [List.length_take, List.length_nil] at hlen
    unfold MAX_BUF at *
    omega
  | cons c bs =>
    rw [htake] at h
    refine ⟨bs, ?_, h⟩
    by_contra hc
    have hnot : 10 ∉ u.take (MAX_BUF - 1) := by
      rw [htake, List.mem_cons, not_or]
      exact ⟨fun h10 => hc (by rw [h10]), h⟩
    obtain ⟨line, hline, hle⟩ := exists_line_ge _ (u.drop (MAX_BUF - 1)) hnot
    rw [List.take_append_drop] at hline
    have := hlines line hline
    rw [List.length_take] at hle
    unfold MAX_BUF at *
    omega

/-! ## The inner loop -/

section
variable (w : CfgWorld)

theorem scanLines_none (bs line : List UInt8) (lend consumed : Nat) (p : CfgParse) (h : 10 ∉ bs) :
    scanLines w bs line lend consumed p = some (p, consumed) := by
  induction bs generalizing line lend with
  | nil => rfl
  | cons b bs ih =>
    rw [List.mem_cons, not_or] at h
    rw [scanLines, if_neg (Ne.symm h.1)]
    exact ih _ _ h.2

/-- The machine runs on each line up to the last newline. -/
theorem scanLines_some (as bs line : List UInt8) (lend consumed : Nat) (p : CfgParse) (hbs : 10 ∉ bs)
    (hline : 10 ∉ line) :
    scanLines w (as ++ 10 :: bs) line lend consumed p =
      ((cfgLines (line ++ as)).foldlM (runLine w) p).map fun p => (p, lend + as.length) := by
  induction as generalizing line lend consumed p with
  | nil =>
    rw [List.nil_append, List.append_nil, scanLines, if_pos rfl, cfgLines, List.splitOn_eq_singleton hline]
    simp only [List.foldlM_cons, List.foldlM_nil, List.length_nil]
    cases runLine w p line with
    | none => rfl
    | some p => exact scanLines_none w bs [] _ _ p hbs
  | cons a as ih =>
    rw [List.cons_append, scanLines]
    split
    · next ha =>
      rw [ha, cfgLines_append, cfgLines, List.splitOn_eq_singleton hline, List.singleton_append, List.foldlM_cons]
      cases runLine w p line with
      | none => rfl
      | some p =>
        show scanLines w (as ++ 10 :: bs) [] (lend + 1) lend p = _
        rw [ih [] (lend + 1) lend p (by simp), List.nil_append, List.length_cons, Nat.add_right_comm, Nat.add_assoc]
        rfl
    · next ha =>
      rw [ih (line ++ [a]) (lend + 1) consumed p (by simp [hline, Ne.symm ha]), List.append_assoc,
        List.singleton_append, List.length_cons, Nat.add_right_comm, Nat.add_assoc]

theorem foldlM_runLine (lines : List (List UInt8)) (p : CfgParse) (hl : ∀ line ∈ lines, 10 ∉ line)
    (hlen : ∀ line ∈ lines, line.length ≤ MAX_BUF - 2) :
    (lines.foldlM (runLine w) p).map (·.st) = applyLines w lines p.st := by
  induction lines generalizing p with
  | nil => rfl
  | cons line lines ih =>
    rw [List.forall_mem_cons] at hl hlen
    have hline := runLine_eq w p line hl.1 (by have := hlen.1; unfold MAX_BUF at *; omega)
    rw [applyLines, List.foldlM_cons, List.foldlM_cons, ← hline]
    cases runLine w p line with
    | none => rfl
    | some p => exact ih p hl.2 hlen.2

/-- A newline in the first byte leaves the index where it was. -/
theorem scanLines_zero (bs : List UInt8) (p : CfgParse) (h : 10 ∉ bs.tail) :
    scanLines w bs [] 0 0 p = some (p, 0) := by
  by_cases hmem : 10 ∈ bs
  · obtain ⟨cs, rfl⟩ : ∃ cs, bs = 10 :: cs := by
      cases bs with
      | nil => cases hmem
      | cons b cs => exact ⟨cs, by rw [(List.mem_cons.mp hmem).resolve_right h]⟩
    rw [scanLines, if_pos rfl]
    exact scanLines_none w cs [] _ _ p h
  · exact scanLines_none w bs [] _ _ p hmem

/-! ## The outer loop -/

section
variable (rest l : List UInt8) (p : CfgParse) (hl : l.length + 1 < MAX_BUF)
include hl

theorem parseLoop_eof : parseLoop w [] l p = (cfgLines l).foldlM (runLine w) p := by
  rw [parseLoop, dif_neg (by omega), dif_pos rfl, scanLines_some w l [] [] 0 0 p (by simp) (by simp),
    List.nil_append]
  cases (cfgLines l).foldlM (runLine w) p <;> rfl

/-- The buffer after a read is the start of what was left. -/
theorem buffer_eq : l ++ rest.take (MAX_BUF - 1 - l.length) = (l ++ rest).take (MAX_BUF - 1) := by
  rw [List.take_append, List.take_of_length_le (show l.length ≤ MAX_BUF - 1 by omega)]

/-- What is left behind the last newline of the buffer. -/
theorem eq_of_take (as bs : List UInt8) (h : (l ++ rest).take (MAX_BUF - 1) = as ++ 10 :: bs) :
    l ++ rest = as ++ 10 :: (bs ++ rest.drop (MAX_BUF - 1 - l.length)) := by
  have hdrop : (l ++ rest).drop (MAX_BUF - 1) = rest.drop (MAX_BUF - 1 - l.length) := by
    rw [List.drop_append, List.drop_eq_nil_of_le (by omega), List.nil_append]
  rw [← List.take_append_drop (MAX_BUF - 1) (l ++ rest), h, hdrop]
  simp

variable (hrest : rest ≠ [])
include hrest

/-- Lines that end in the buffer are worked off. -/
theorem parseLoop_lines (as bs : List UInt8) (hbuf : (l ++ rest).take (MAX_BUF - 1) = as ++ 10 :: bs)
    (hbs : 10 ∉ bs) (has : as ≠ []) :
    parseLoop w rest l p = ((cfgLines as).foldlM (runLine w) p).bind
      fun p => parseLoop w (rest.drop (MAX_BUF - 1 - l.length)) bs p := by
  have hpos := List.length_pos_iff.mpr has
  rw [parseLoop, dif_neg (by omega), dif_neg hrest]
  simp only
  rw [buffer_eq rest l hl, hbuf, scanLines_some w as bs [] 0 0 p hbs (by simp), List.nil_append]
  cases (cfgLines as).foldlM (runLine w) p with
  | none => rfl
  | some p =>
    simp only [Option.map_some, Option.bind_some, Nat.zero_add]
    rw [if_neg (by omega), if_neg (by simp), if_pos (by omega)]
    simp

/-- A buffer with no newline behind its first byte is kept, unless it is full. -/
theorem parseLoop_kept (hbuf : 10 ∉ ((l ++ rest).take (MAX_BUF - 1)).tail) :
    parseLoop w rest l p =
      if MAX_BUF - 1 ≤ (l ++ rest).length then none
      else parseLoop w [] (l ++ rest) p := by
  have hpos := List.length_pos_iff.mpr hrest
  rw [parseLoop, dif_neg (by omega), dif_neg hrest]
  simp only
  rw [buffer_eq rest l hl, scanLines_zero w _ p hbuf]
  by_cases hfull : MAX_BUF - 1 ≤ (l ++ rest).length
  · rw [if_pos hfull]
    exact if_pos ⟨rfl, by rw [List.length_take]; omega⟩
  · have htake : (l ++ rest).take (MAX_BUF - 1) = l ++ rest := List.take_of_length_le (by omega)
    rw [List.length_append] at hfull
    have hdrop : rest.drop (MAX_BUF - 1 - l.length) = [] := List.drop_eq_nil_of_le (by omega)
    simp only [htake, hdrop, true_and, List.length_append, if_neg hfull]
    exact if_neg (by omega)

end

theorem applyLines_append (ls ms : List (List UInt8)) (st : Settings) :
    applyLines w (ls ++ ms) st = (applyLines w ls st).bind (applyLines w ms) := by
  rw [applyLines, List.foldlM_append]
  rfl

/-- A file whose lines fit is read by lines as long as no buffer is stuck, and the process ends where
one is. -/
theorem parseLoop_spec (rest l : List UInt8) (p : CfgParse) (hl : l.length + 1 < MAX_BUF)
    (hlines : ∀ line ∈ cfgLines (l ++ rest), line.length ≤ MAX_BUF - 2) :
    (Free (l ++ rest) → (parseLoop w rest l p).map (·.st) = applyLines w (cfgLines (l ++ rest)) p.st) ∧
    (¬ Free (l ++ rest) → parseLoop w rest l p = none) := by
  induction hn : rest.length using Nat.strong_induction_on generalizing rest l p with
  | h n ih =>
  -- what the machine makes of lines that are all there
  have hrun : ∀ (as : List UInt8) (p : CfgParse), (∀ line ∈ cfgLines as, line.length ≤ MAX_BUF - 2) →
      ((cfgLines as).foldlM (runLine w) p).map (·.st) = applyLines w (cfgLines as) p.st :=
    fun as p h => foldlM_runLine w _ p (newline_not_mem_line as) h
  by_cases hrest : rest = []
  · subst hrest
    rw [List.append_nil] at hlines ⊢
    refine ⟨fun _ => ?_, fun h => absurd (Free.of_short l (by omega)) h⟩
    rw [parseLoop_eof w l p hl]
    exact hrun l p hlines
  · by_cases hbuf : 10 ∈ ((l ++ rest).take (MAX_BUF - 1)).tail
    · obtain ⟨as, bs, htake, hbs, has⟩ := last_newline_of_tail _ hbuf
      have hu := eq_of_take rest l hl as bs htake
      have hlen := congrArg List.length htake
      rw [List.length_take, List.length_append, List.length_append, List.length_cons] at hlen
      have hpos := List.length_pos_iff.mpr hrest
      have hlines' := hlines
      rw [hu, cfgLines_append, List.forall_mem_append] at hlines'
      have hsmall : (rest.drop (MAX_BUF - 1 - l.length)).length < n := by
        rw [List.length_drop]
        omega
      have hnext := fun p => ih _ hsmall (rest.drop (MAX_BUF - 1 - l.length)) bs p (by omega) hlines'.2 rfl
      have hfree : Free (l ++ rest) ↔ Free (bs ++ rest.drop (MAX_BUF - 1 - l.length)) := by
        by_cases hfull : MAX_BUF - 1 ≤ (l ++ rest).length
        · refine free_iff_of_refill _ _ ⟨hfull, as, bs, htake, hbs, has, ?_⟩
          rw [hu, List.drop_append]
          simp
        · rw [List.length_append] at hfull
          have hshort : (bs ++ rest.drop (MAX_BUF - 1 - l.length)).length < MAX_BUF - 1 := by
            rw [List.length_append, List.length_drop]
            omega
          exact iff_of_true (Free.of_short _ (by rw [List.length_append]; omega)) (Free.of_short _ hshort)
      rw [hfree, parseLoop_lines w rest l p hl hrest as bs htake hbs has, hu, cfgLines_append, applyLines_append,
        ← hrun as p hlines'.1]
      cases (cfgLines as).foldlM (runLine w) p with
      | none => exact ⟨fun _ => rfl, fun _ => rfl⟩
      | some p => exact hnext p
    · rw [parseLoop_kept w rest l p hl hrest hbuf]
      split
      · next hfull =>
        have hstuck : Stuck (l ++ rest) := stuck_of_full _ hlines hfull hbuf
        exact ⟨fun h => absurd hstuck (h _ .refl), fun _ => rfl⟩
      · next hroom =>
        refine ⟨fun _ => ?_, fun h => absurd (Free.of_short _ (by omega)) h⟩
        rw [parseLoop_eof w _ p (by omega)]
        exact hrun _ p hlines

end

/-- **Configuration files are read line by line**, exactly if some line ends the process anyway or no
refill finds a blank line in front of one of 1022 bytes. -/
theorem cfgfile_by_lines_iff (w : CfgWorld) (content : List UInt8) (st : Settings)
    (hlines : ∀ line ∈ cfgLines content, line.length ≤ MAX_BUF - 2) :
    parseCfgfile w content st = applyLines w (cfgLines content) st ↔
      applyLines w (cfgLines content) st = none ∨
        Free content := by
  obtain ⟨hread, hstuck⟩ := parseLoop_spec w content [] (.start st) (by decide) hlines
  rw [List.nil_append] at hread hstuck
  by_cases hfree : Free content
  · exact ⟨fun _ => .inr hfree, fun _ => hread hfree⟩
  · have hnone : parseCfgfile w content st = none := by
      rw [parseCfgfile, hstuck hfree]
      rfl
    simp [hnone, hfree, eq_comm]

def smallFile : List UInt8 := ascii "interface = eth1\n\nnow = true\nhostname=box"

theorem smallFile_by_lines :
    parseCfgfile bareHost smallFile .initial = applyLines bareHost (cfgLines smallFile) .initial :=
  (cfgfile_by_lines_iff bareHost smallFile .initial (by decide +kernel)).mpr (.inr (.of_short _ (by decide +kernel)))

/-- A blank line and a line of 1022 bytes. -/
def pathFile : List UInt8 := 10 :: (ascii "pidfile=" ++ List.replicate 1014 97)

/-- The blank line makes the process end over a file whose lines are all in order. -/
theorem blank_line_rejected :
    (∀ line ∈ cfgLines pathFile, line.length ≤ MAX_BUF - 2) ∧
      (applyLines bareHost (cfgLines pathFile) .initial).isSome = true ∧
      parseCfgfile bareHost pathFile .initial = none := by
  have hlines : ∀ line ∈ cfgLines pathFile, line.length ≤ MAX_BUF - 2 := by decide +kernel
  have hstuck : Stuck pathFile := by
    refine ⟨by decide +kernel, ascii "pidfile=" ++ List.replicate 1014 97, ?_, ?_⟩
    · exact List.take_of_length_le (by decide +kernel)
    · decide +kernel
  refine ⟨hlines, by decide +kernel, ?_⟩
  have hnone := (parseLoop_spec bareHost pathFile [] (.start .initial) (by decide) hlines).2 fun h => h _ .refl hstuck
  rw [parseCfgfile, hnone]
  rfl

end Ndhc
