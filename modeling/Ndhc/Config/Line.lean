import Ndhc.Config.Actions
import Ndhc.Lib.Machine

/-!
# A line of the configuration file

The machine `file_cfg`, which `parse_cfgfile` runs on one line and its newline.  Behind the key and
the `=` blanks belong to the delimiter or already to the value, and the machine follows both: each
blank starts the value anew, so that a value has lost its leading blanks, and one that is all
blanks is the last of them.  `runLine_eq`: it reads a line as `readLine` does, and then runs the
action of its option once.
-/

namespace Ndhc

open Bytes Machine

/-! ## The machine -/

/-- `spc` -/
def isBlank (b : UInt8) : Bool := b == 32 || b == 9

def cfgKeys : List (List UInt8 × Opt) := Opt.all.map fun o => (o.name, o)

/-- `truval` and `falsval` -/
def boolWords : List (List UInt8 × Ternary) :=
  [(ascii "true", .yes), (ascii "1", .yes), (ascii "false", .no), (ascii "0", .no)]

/-- Where the machine is: in a key, in the blanks behind it, behind the `=` of a value or a switch,
in blanks that may be the value, in a value, in the word of a switch, behind the newline. -/
inductive FileState where
  | word (k : List UInt8)
  | key (o : Opt)
  | value (o : Opt)
  | switch (o : Opt)
  | blanks (o : Opt)
  | string (o : Opt)
  | bool (o : Opt) (v : List UInt8)
  | final
  deriving DecidableEq

/-- Behind the `=`. -/
def FileState.equals (o : Opt) : FileState := if o.isSwitch then .switch o else .value o

section
variable (w : CfgWorld)

/-- A byte of the value that may be its first. -/
def beginValue (o : Opt) (p : CfgParse) (b : UInt8) : Option (FileState × CfgParse) :=
  (p.begin b).map fun p => (if isBlank b then .blanks o else .string o, p)

/-- The newline behind a value or a switch. -/
def endLine (o : Opt) (p : CfgParse) : Option (FileState × CfgParse) := (p.act w o).map fun p => (.final, p)

def fileStep : FileState × CfgParse → UInt8 → Option (FileState × CfgParse)
  | (.word k, p), b =>
    if b = 10 ∧ k = [] then some (.final, p)
    else if isBlank b then (find cfgKeys k).map fun o => (.key o, p)
    else if b = 61 then (find cfgKeys k).map fun o => (.equals o, p)
    else (readWord cfgKeys k b).map fun k => (.word k, p)
  | (.key o, p), b =>
    if isBlank b then some (.key o, p) else if b = 61 then some (.equals o, p) else none
  | (.value o, p), b => if b = 10 then none else beginValue o p b
  | (.blanks o, p), b => if b = 10 then endLine w o p else beginValue o p b
  | (.string o, p), b => if b = 10 then endLine w o p else (p.append b).map fun p => (.string o, p)
  | (.switch o, p), b =>
    if isBlank b then some (.switch o, p) else (readWord boolWords [] b).map fun v => (.bool o v, p)
  | (.bool o v, p), b =>
    if b = 10 then (find boolWords v).bind fun t => endLine w o { p with ternary := t }
    else (readWord boolWords v b).map fun v => (.bool o v, p)
  | (.final, _), _ => none

/-- `%% write init; %% write exec;` on a line and its newline; `none` where the process ends. -/
def runLine (p : CfgParse) (line : List UInt8) : Option CfgParse :=
  (consume (fileStep w) (.word [], p) (line ++ [10])).bind fun s => if s.1 = .final then some s.2 else none

end

/-! ## What a line says -/

inductive LineMeaning where
  | blank
  | value (o : Opt) (v : List UInt8)
  | switch (o : Opt) (t : Ternary)
  deriving DecidableEq

/-- A value without its leading blanks; the last of them if it has nothing else. -/
def trimValue (v : List UInt8) : List UInt8 :=
  if v.all isBlank then v.drop (v.length - 1) else v.dropWhile isBlank

/-- Bytes that may be part of a key. -/
def isKeyByte (b : UInt8) : Bool := !isBlank b && b != 61

/-- What stands behind the key: an `=` with blanks around it and a value. -/
def readValue (o : Opt) (rest : List UInt8) : Option LineMeaning :=
  match rest.dropWhile isBlank with
  | [] => none
  | c :: v =>
    if c ≠ 61 then none
    else if o.isSwitch then (find boolWords (v.dropWhile isBlank)).map (.switch o)
    else if v = [] then none
    else some (.value o (trimValue v))

/-- The meaning of a line; `none` if it is malformed. -/
def readLine (line : List UInt8) : Option LineMeaning :=
  if line = [] then some .blank
  else (find cfgKeys (line.takeWhile isKeyByte)).bind fun o => readValue o (line.dropWhile isKeyByte)

/-- The action of the line's option, if it has one. -/
def LineMeaning.apply (w : CfgWorld) (st : Settings) : LineMeaning → Option Settings
  | .blank => some st
  | .value o v => o.action w v .nothing st
  | .switch o t => o.action w [] t st

def applyLine (w : CfgWorld) (st : Settings) (line : List UInt8) : Option Settings :=
  (readLine line).bind (LineMeaning.apply w st)

/-! ## The machine reads lines -/

theorem newline_not_in_key : ∀ e ∈ cfgKeys, 10 ∉ e.1 := by decide

theorem newline_not_in_bool : ∀ e ∈ boolWords, 10 ∉ e.1 := by decide

/-- A newline ends every word. -/
theorem readWord_newline {α : Type} (table : List (List UInt8 × α)) (h : ∀ e ∈ table, 10 ∉ e.1) (k : List UInt8) :
    readWord table k 10 = none := by
  rw [readWord, if_neg]
  intro hb
  obtain ⟨e, he, hpre⟩ := (begins_iff table _).mp hb
  exact h e he (hpre.subset (by simp))

theorem trimValue_singleton (c : UInt8) : trimValue [c] = [c] := by
  unfold trimValue
  cases h : isBlank c <;> simp [h]

theorem trimValue_blank (c : UInt8) (v : List UInt8) (hc : isBlank c = true) (hv : v ≠ []) :
    trimValue (c :: v) = trimValue v := by
  obtain ⟨d, v, rfl⟩ := List.exists_cons_of_ne_nil hv
  simp [trimValue, hc]

theorem trimValue_of_not_blank (c : UInt8) (v : List UInt8) (hc : isBlank c = false) :
    trimValue (c :: v) = c :: v := by
  simp [trimValue, hc]

/-- The settings at the end of a line. -/
def outcome (r : Option (FileState × CfgParse)) : Option Settings :=
  r.bind fun s => if s.1 = .final then some s.2.st else none

section
variable (w : CfgWorld) (o : Opt) (p : CfgParse)

theorem outcome_endLine : outcome (endLine w o p) = o.action w p.buf p.ternary p.st := by
  unfold outcome endLine CfgParse.act
  cases o.action w p.buf p.ternary p.st <;> rfl

theorem consume_string (v : List UInt8) (hv : 10 ∉ v) (hlen : p.buf.length + v.length < MAX_BUF) :
    consume (fileStep w) (.string o, p) (v ++ [10]) = endLine w o { p with buf := p.buf ++ v } := by
  have hstep : ∀ b ∈ v, ∀ p : CfgParse,
      fileStep w (.string o, p) b = (p.append b).map fun p => (.string o, p) := by
    intro b hb p
    have hne : b ≠ 10 := by
      rintro rfl
      exact hv hb
    rw [fileStep, if_neg hne]
  rw [consume_append, CfgParse.consume_append _ _ v hstep p hlen]
  simp [fileStep]

/-- The value from a byte on that may be its first. -/
theorem consume_beginValue (c : UInt8) (v : List UInt8) (hv : 10 ∉ v) (hlen : v.length + 1 < MAX_BUF) :
    (beginValue o p c).bind (fun s => consume (fileStep w) s (v ++ [10])) =
      endLine w o ⟨trimValue (c :: v), .nothing, p.st⟩ := by
  induction v generalizing c p with
  | nil =>
    rw [beginValue, CfgParse.begin_eq, trimValue_singleton]
    cases isBlank c <;> simp [fileStep]
  | cons d v ih =>
    have hv' := hv
    rw [List.mem_cons, not_or] at hv'
    rw [List.length_cons] at hlen
    rw [beginValue, CfgParse.begin_eq]
    cases hc : isBlank c with
    | true =>
      -- the next byte begins the value anew
      have hnext := ih ⟨[c], .nothing, p.st⟩ d hv'.2 (by omega)
      rw [trimValue_blank c _ hc (by simp)]
      simpa [hc, fileStep, Ne.symm hv'.1] using hnext
    | false =>
      have hrest := consume_string w o ⟨[c], .nothing, p.st⟩ (d :: v) hv
        (by rw [List.length_singleton, List.length_cons]; omega)
      rw [trimValue_of_not_blank c _ hc]
      simpa [hc] using hrest

theorem consume_switch (v : List UInt8) (hv : 10 ∉ v) :
    consume (fileStep w) (.switch o, p) (v ++ [10]) =
      (find boolWords (v.dropWhile isBlank)).bind fun t => endLine w o { p with ternary := t } := by
  induction v with
  | nil =>
    rw [List.nil_append, consume_singleton, fileStep, if_neg (by decide),
      readWord_newline boolWords newline_not_in_bool]
    rfl
  | cons b v ih =>
    rw [List.mem_cons, not_or] at hv
    cases hb : isBlank b with
    | true => simpa [fileStep, hb] using ih hv.2
    | false =>
      -- from here on the machine reads a word
      have hword : ∀ c ∈ b :: v, ∀ u,
          fileStep w (.bool o u, p) c = (readWord boolWords u c).map fun u => (.bool o u, p) := by
        intro c hc u
        have hne : c ≠ 10 := by
          rintro rfl
          exact absurd hc (by simp [hv.1, hv.2])
        rw [fileStep, if_neg hne]
      have hfirst : consume (fileStep w) (.switch o, p) (b :: v ++ [10]) =
          consume (fileStep w) (.bool o [], p) (b :: v ++ [10]) := by
        rw [List.cons_append, consume_cons, consume_cons, hword b List.mem_cons_self, fileStep,
          if_neg (by simp [hb])]
      rw [hfirst, consume_append, consume_map _ (readWord boolWords) (fun u => (FileState.bool o u, p)) _ hword,
        List.dropWhile_cons_of_neg (by simp [hb]), ← consume_readWord_bind_find boolWords (b :: v)]
      cases consume (readWord boolWords) [] (b :: v) with
      | none => rfl
      | some u => simp [fileStep]

/-- Behind the `=`. -/
theorem outcome_equals (v : List UInt8) (hv : 10 ∉ v) (hlen : v.length < MAX_BUF) :
    outcome (consume (fileStep w) (.equals o, p) (v ++ [10])) =
      (readValue o (61 :: v)).bind (LineMeaning.apply w p.st) := by
  unfold FileState.equals readValue
  simp only [List.dropWhile_cons_of_neg (show ¬ isBlank 61 = true by decide), ne_eq, not_true_eq_false, if_false]
  cases ho : o.isSwitch with
  | true =>
    simp only [if_true]
    rw [consume_switch w o p v hv]
    cases find boolWords (v.dropWhile isBlank) with
    | none => rfl
    | some t =>
      simp only [Option.bind_some, Option.map_some, LineMeaning.apply, outcome_endLine]
      exact o.action_congr w _ _ _ _ _ (by simp [ho])
  | false =>
    simp only [Bool.false_eq_true, if_false]
    cases v with
    | nil => rfl
    | cons b v =>
      rw [List.mem_cons, not_or] at hv
      rw [List.cons_append, consume_cons, fileStep, if_neg (Ne.symm hv.1),
        consume_beginValue w o p b v hv.2 hlen, outcome_endLine]
      rfl

/-- Behind the key. -/
theorem outcome_key (rest : List UInt8) (hr : 10 ∉ rest) (hlen : rest.length < MAX_BUF) :
    outcome (consume (fileStep w) (.key o, p) (rest ++ [10])) = (readValue o rest).bind (LineMeaning.apply w p.st) := by
  induction rest with
  | nil => rfl
  | cons b rest ih =>
    rw [List.mem_cons, not_or] at hr
    rw [List.length_cons] at hlen
    cases hb : isBlank b with
    | true =>
      have hskip : readValue o (b :: rest) = readValue o rest := by
        rw [readValue, readValue, List.dropWhile_cons_of_pos hb]
      rw [hskip, ← ih hr.2 (by omega), List.cons_append, consume_cons, fileStep, if_pos hb]
      rfl
    | false =>
      by_cases heq : b = 61
      · rw [heq, List.cons_append, consume_cons, fileStep, if_neg (by decide), if_pos rfl]
        exact outcome_equals w o p rest hr.2 (by omega)
      · have hnone : readValue o (b :: rest) = none := by
          rw [readValue, List.dropWhile_cons_of_neg (by simp [hb])]
          simp [heq]
        rw [hnone, List.cons_append, consume_cons, fileStep, if_neg (by simp [hb]), if_neg heq]
        rfl

end

/-- From the key on. -/
theorem outcome_word (w : CfgWorld) (p : CfgParse) (k rest : List UInt8) (hr : 10 ∉ rest)
    (hlen : rest.length < MAX_BUF) (hkey : k ≠ [] ∨ rest ≠ []) (hhead : ∀ b ∈ rest.head?, isKeyByte b = false) :
    outcome (consume (fileStep w) (.word k, p) (rest ++ [10])) =
      ((find cfgKeys k).bind fun o => readValue o rest).bind (LineMeaning.apply w p.st) := by
  cases rest with
  | nil =>
    have hk : k ≠ [] := hkey.resolve_right fun h => h rfl
    have hnone : ((find cfgKeys k).bind fun o => readValue o []) = none := by
      cases find cfgKeys k <;> rfl
    rw [hnone, List.nil_append, consume_singleton, fileStep, if_neg (by simp [hk]), if_neg (by decide),
      if_neg (by decide), readWord_newline cfgKeys newline_not_in_key]
    rfl
  | cons b rest =>
    have hb : isKeyByte b = false := hhead b (by simp)
    -- with the word known the machine goes on as behind it
    have hstep : fileStep w (.word k, p) b = (find cfgKeys k).bind fun o => fileStep w (.key o, p) b := by
      have hne : b ≠ 10 := fun h => hr (h ▸ List.mem_cons_self)
      rw [fileStep, if_neg (by simp [hne])]
      cases hblank : isBlank b with
      | true => cases find cfgKeys k <;> simp [fileStep, hblank]
      | false =>
        have h61 : b = 61 := by simpa [isKeyByte, hblank] using hb
        rw [h61] at hblank
        cases find cfgKeys k <;> simp [fileStep, hblank, h61]
    rw [List.cons_append, consume_cons, hstep]
    cases find cfgKeys k with
    | none => rfl
    | some o => exact outcome_key w o p (b :: rest) hr hlen

/-- The machine reads a line as `readLine` does. -/
theorem runLine_eq (w : CfgWorld) (p : CfgParse) (line : List UInt8) (hl : 10 ∉ line) (hlen : line.length < MAX_BUF) :
    (runLine w p line).map (·.st) = applyLine w p.st line := by
  have hout : (runLine w p line).map (·.st) = outcome (consume (fileStep w) (.word [], p) (line ++ [10])) := by
    unfold runLine outcome
    cases consume (fileStep w) (.word [], p) (line ++ [10]) with
    | none => rfl
    | some s =>
      simp only [Option.bind_some]
      split <;> rfl
  rw [hout, applyLine, readLine]
  by_cases hnil : line = []
  · rw [hnil]
    rfl
  · rw [if_neg hnil]
    have hsplit := List.takeWhile_append_dropWhile (p := isKeyByte) (l := line)
    generalize hk : line.takeWhile isKeyByte = k at hsplit ⊢
    generalize hr : line.dropWhile isKeyByte = rest at hsplit ⊢
    have hword : ∀ b ∈ k, ∀ u, fileStep w (.word u, p) b = (readWord cfgKeys u b).map fun u => (.word u, p) := by
      intro b hb u
      have hkey : isKeyByte b = true := by
        rw [← hk] at hb
        exact List.mem_takeWhile_imp hb
      have hne : b ≠ 10 := by
        rintro rfl
        exact hl (hsplit ▸ List.mem_append_left _ hb)
      rw [isKeyByte, Bool.and_eq_true, Bool.not_eq_true', bne_iff_ne] at hkey
      rw [fileStep, if_neg (by simp [hne]), if_neg (by simp [hkey.1]), if_neg hkey.2]
    have hhead : ∀ b ∈ rest.head?, isKeyByte b = false := by
      intro b hb
      have := List.head?_dropWhile_not isKeyByte line
      rw [hr, hb] at this
      exact this
    rw [← hsplit, List.append_assoc, consume_append,
      consume_map _ (readWord cfgKeys) (fun u => (FileState.word u, p)) _ hword,
      ← consume_readWord_bind_find cfgKeys k]
    rw [← hsplit] at hl hlen hnil
    cases hrun : consume (readWord cfgKeys) [] k with
    | none => rfl
    | some t =>
      have ht : t = k := consume_readWord_eq cfgKeys k [] t hrun
      subst ht
      rw [List.length_append] at hlen
      exact outcome_word w p t rest (fun h => hl (List.mem_append_right _ h)) (by omega)
        (not_and_or.mp (by simpa using hnil)) hhead

end Ndhc
