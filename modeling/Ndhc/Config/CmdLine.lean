import Ndhc.Config.Argv
import Ndhc.Config.File

/-!
# The command line

The machine `cmd_cfg`, which `parse_cmdline` runs on the joined arguments.  The action of a switch
runs on the NUL behind its word, as every action of an option does; `ccfg.ternary = 1`, which it
reads, is set on leaving that NUL and so comes one option late.  `parseCmdline_eq`: the machine runs
the actions of the options in order, a switch with `ternary` set only directly behind another one.
So a flag takes effect only there (`flags_take_effect_iff`).
-/

namespace Ndhc

open Bytes Machine

/-! ## Words -/

/-- The options of the command line. -/
inductive CmdOpt where
  | opt (o : Opt)
  | cfgfile
  | version
  | help
  deriving DecidableEq, Repr

/-- The short word of an option, behind its hyphen. -/
def Opt.short : Opt → List UInt8
  | .clientid => ascii "I"
  | .background => ascii "b"
  | .pidfile => ascii "p"
  | .hostname => ascii "h"
  | .interface => ascii "i"
  | .now => ascii "n"
  | .quit => ascii "q"
  | .request => ascii "r"
  | .vendorid => ascii "V"
  | .user => ascii "u"
  | .ifchUser => ascii "U"
  | .sockdUser => ascii "D"
  | .chroot => ascii "C"
  | .stateDir => ascii "s"
  | .seccompEnforce => ascii "S"
  | .relentlessDefense => ascii "d"
  | .arpProbeWait => ascii "w"
  | .arpProbeNum => ascii "W"
  | .arpProbeMin => ascii "m"
  | .arpProbeMax => ascii "M"
  | .gwMetric => ascii "t"
  | .resolvConf => ascii "R"
  | .dhcpSetHostname => ascii "H"
  | .rfkillIdx => ascii "K"

namespace CmdOpt

def all : List CmdOpt := cfgfile :: Opt.all.map opt ++ [version, help]

def short : CmdOpt → List UInt8
  | opt o => o.short
  | cfgfile => ascii "c"
  | version => ascii "v"
  | help => ascii "?"

def name : CmdOpt → List UInt8
  | opt o => o.name
  | cfgfile => ascii "config"
  | version => ascii "version"
  | help => ascii "help"

/-- Either word. -/
def word (o : CmdOpt) (long : Bool) : List UInt8 :=
  if long then ascii "--" ++ o.name else ascii "-" ++ o.short

/-- Whether an `argval` follows. -/
def hasValue : CmdOpt → Bool
  | opt o => !o.isSwitch
  | cfgfile => true
  | version => false
  | help => false

end CmdOpt

def cmdWords : List (List UInt8 × CmdOpt) :=
  CmdOpt.all.flatMap fun o => [(o.word false, o), (o.word true, o)]

/-! ## The machine -/

/-- The files that can be opened, besides what the actions ask for. -/
structure CmdWorld extends CfgWorld where
  files : List UInt8 → Option (List UInt8)

/-- Where the machine is: before an option, behind the NUL of a switch, in a word, before and in a
value. -/
inductive CmdState where
  | top
  | flag
  | word (k : List UInt8)
  | argStart (o : CmdOpt)
  | arg (o : CmdOpt)
  deriving DecidableEq

/-- The states in which an option may end. -/
def CmdState.isFinal : CmdState → Bool
  | .top | .flag => true
  | _ => false

/-- The action of an option; `none` where the process ends. -/
def CmdOpt.action (w : CmdWorld) (buf : List UInt8) (ternary : Ternary) (st : Settings) :
    CmdOpt → Option Settings
  | .opt o => o.action w.toCfgWorld buf ternary st
  | .cfgfile => (w.files (cstr buf)).bind fun content => parseCfgfile w.toCfgWorld content st
  | .version => none
  | .help => none

section
variable (w : CmdWorld)

def CfgParse.cmdAct (o : CmdOpt) (p : CfgParse) : Option CfgParse :=
  (o.action w p.buf p.ternary p.st).map fun st => { p with st := st }

/-- The NUL behind a word. -/
def endWord (o : CmdOpt) (p : CfgParse) : Option (CmdState × CfgParse) :=
  if o.hasValue then some (.argStart o, p) else (p.cmdAct w o).map fun p => (.flag, p)

def cmdStep : CmdState × CfgParse → UInt8 → Option (CmdState × CfgParse)
  | (.top, p), b => (readWord cmdWords [] b).map fun k => (.word k, p)
  -- `%tbv`
  | (.flag, p), b => (readWord cmdWords [] b).map fun k => (.word k, { p with ternary := .yes })
  | (.word k, p), b =>
    if b = 0 then (find cmdWords k).bind fun o => endWord w o p
    else (readWord cmdWords k b).map fun k => (.word k, p)
  | (.argStart o, p), b => if b = 0 then none else (p.begin b).map fun p => (.arg o, p)
  | (.arg o, p), b =>
    if b = 0 then (p.cmdAct w o).map fun p => (.top, p)
    else (p.append b).map fun p => (.arg o, p)

/-- `parse_cmdline`, with what the stack held where `argb` is.  At the end of the input only
`ccfg.ternary` is still set. -/
def parseCmdline (mem : Nat → UInt8) (args : List (List UInt8)) (st : Settings) : Option Settings :=
  (joinArgs args true ⟨mem, 0⟩).bind fun s =>
    if s.argbl = 0 then some st
    else (consume (cmdStep w) (.top, .start st) (load s.mem (s.argbl + 1))).bind fun r =>
      if r.1.isFinal then some r.2.st else none

end

/-! ## Options as they are given -/

/-- An option with one of its words, and its value if it has one. -/
structure Given where
  opt : CmdOpt
  long : Bool
  value : List UInt8

namespace Given

def args (g : Given) : List (List UInt8) :=
  if g.opt.hasValue then [g.opt.word g.long, g.value] else [g.opt.word g.long]

/-- The arguments as they stand in `argb`. -/
def bytes (g : Given) : List UInt8 := g.args.flatMap fun arg => arg ++ [0]

/-- The grammar has a value, and the parser space for it. -/
def WellFormed (g : Given) : Prop :=
  g.opt.hasValue = true → g.value ≠ [] ∧ 0 ∉ g.value ∧ g.value.length < MAX_BUF

end Given

/-- `ccfg.ternary` at a switch, directly behind another one or not. -/
def ternaryBehind (behind : Bool) : Ternary := if behind then .yes else .nothing

/-- The actions of the options in order. -/
def applyGiven (w : CmdWorld) : List Given → Bool → Settings → Option Settings
  | [], _, st => some st
  | g :: gs, behind, st =>
    (g.opt.action w g.value (ternaryBehind behind) st).bind (applyGiven w gs (!g.opt.hasValue))

/-! ## The machine reads options -/

theorem nul_not_in_word : ∀ e ∈ cmdWords, 0 ∉ e.1 := by decide +kernel

theorem CmdOpt.mem_all (o : CmdOpt) : o ∈ CmdOpt.all := by
  cases o with
  | opt o => simp [all, o.mem_all]
  | cfgfile => simp [all]
  | version => simp [all]
  | help => simp [all]

theorem word_mem (o : CmdOpt) (long : Bool) : (o.word long, o) ∈ cmdWords := by
  rw [cmdWords, List.mem_flatMap]
  refine ⟨o, o.mem_all, ?_⟩
  cases long <;> simp

theorem find_word (o : CmdOpt) (long : Bool) : find cmdWords (o.word long) = some o :=
  find_of_mem cmdWords _ _ (by decide +kernel) (word_mem o long)

theorem word_ne_nil (o : CmdOpt) (long : Bool) : o.word long ≠ [] := by
  cases long <;> simp [CmdOpt.word, ascii]

/-- An option without a value does not read it, the others not the switch. -/
theorem CmdOpt.action_congr (w : CmdWorld) (o : CmdOpt) (buf buf' : List UInt8) (t t' : Ternary)
    (st : Settings) (h : if o.hasValue then buf = buf' else t = t') :
    o.action w buf t st = o.action w buf' t' st := by
  cases o with
  | opt o =>
    apply o.action_congr
    cases ho : o.isSwitch <;> simpa [hasValue, ho] using h
  | cfgfile =>
    obtain rfl : buf = buf' := by simpa [hasValue] using h
    rfl
  | version => rfl
  | help => rfl

/-- Where the machine is before an option. -/
def CmdState.before (behind : Bool) : CmdState := if behind then .flag else .top

section
variable (w : CmdWorld) (o : CmdOpt) (p : CfgParse)

theorem consume_word (long behind : Bool) :
    consume (cmdStep w) (.before behind, p) (o.word long ++ [0]) =
      endWord w o (if behind then { p with ternary := .yes } else p) := by
  generalize hq : (if behind then { p with ternary := .yes } else p : CfgParse) = q
  have hnul : 0 ∉ o.word long := nul_not_in_word _ (word_mem o long)
  have hword : ∀ b ∈ o.word long, ∀ k,
      cmdStep w (.word k, q) b = (readWord cmdWords k b).map fun k => (.word k, q) := by
    intro b hb k
    have hne : b ≠ 0 := by
      rintro rfl
      exact hnul hb
    rw [cmdStep, if_neg hne]
  obtain ⟨b, rest, hcons⟩ := List.exists_cons_of_ne_nil (word_ne_nil o long)
  -- the first byte leaves the option before
  have hfirst : consume (cmdStep w) (.before behind, p) (o.word long ++ [0]) =
      consume (cmdStep w) (.word [], q) (o.word long ++ [0]) := by
    have hb := hword b (by rw [hcons]; exact List.mem_cons_self) []
    rw [hcons, List.cons_append, consume_cons, consume_cons, hb, ← hq]
    cases behind <;> rfl
  have hread : consume (readWord cmdWords) [] (o.word long) = some (o.word long) :=
    consume_readWord_of_mem cmdWords (o.word long) [] o (word_mem o long)
  rw [hfirst, consume_append, consume_map _ (readWord cmdWords) (fun k => (CmdState.word k, q)) _ hword, hread]
  simp [cmdStep, find_word]

theorem consume_arg (v : List UInt8) (hv : 0 ∉ v) (hlen : p.buf.length + v.length < MAX_BUF) :
    consume (cmdStep w) (.arg o, p) (v ++ [0]) =
      (CfgParse.cmdAct w o { p with buf := p.buf ++ v }).map fun p => (.top, p) := by
  have hstep : ∀ b ∈ v, ∀ p : CfgParse,
      cmdStep w (.arg o, p) b = (p.append b).map fun p => (.arg o, p) := by
    intro b hb p
    have hne : b ≠ 0 := by
      rintro rfl
      exact hv hb
    rw [cmdStep, if_neg hne]
  rw [consume_append, CfgParse.consume_append _ _ v hstep p hlen]
  simp [cmdStep]

theorem consume_value (v : List UInt8) (hne : v ≠ []) (hv : 0 ∉ v) (hlen : v.length < MAX_BUF) :
    consume (cmdStep w) (.argStart o, p) (v ++ [0]) =
      (CfgParse.cmdAct w o ⟨v, .nothing, p.st⟩).map fun p => (.top, p) := by
  obtain ⟨b, v, rfl⟩ := List.exists_cons_of_ne_nil hne
  rw [List.mem_cons, not_or] at hv
  rw [List.length_cons] at hlen
  rw [List.cons_append, consume_cons, cmdStep, if_neg (Ne.symm hv.1), CfgParse.begin_eq]
  have := consume_arg w o ⟨[b], .nothing, p.st⟩ v hv.2
    (by rw [List.length_singleton]; omega)
  simpa using this

end

/-- One option: its action with what the one before left in `ternary`. -/
theorem consume_given (w : CmdWorld) (g : Given) (hg : g.WellFormed) (behind : Bool) (p : CfgParse)
    (hp : behind = false → p.ternary = .nothing) :
    ∃ buf t, (g.opt.hasValue = true → t = .nothing) ∧
      consume (cmdStep w) (.before behind, p) g.bytes =
        (g.opt.action w g.value (ternaryBehind behind) p.st).map fun st =>
          (.before (!g.opt.hasValue), ⟨buf, t, st⟩) := by
  cases hval : g.opt.hasValue with
  | true =>
    obtain ⟨hne, hnul, hlen⟩ := hg hval
    refine ⟨g.value, .nothing, fun _ => rfl, ?_⟩
    have hbytes : g.bytes = (g.opt.word g.long ++ [0]) ++ (g.value ++ [0]) := by
      simp [Given.bytes, Given.args, hval]
    have hst : (if behind then { p with ternary := .yes } else p : CfgParse).st = p.st := by
      cases behind <;> rfl
    rw [hbytes, consume_append, consume_word, endWord, if_pos hval, Option.bind_some,
      consume_value w g.opt _ g.value hne hnul hlen, hst,
      g.opt.action_congr w g.value g.value (ternaryBehind behind) .nothing _ (by simp [hval]),
      CfgParse.cmdAct, Option.map_map]
    rfl
  | false =>
    refine ⟨p.buf, ternaryBehind behind, fun h => absurd h (by simp), ?_⟩
    have hbytes : g.bytes = g.opt.word g.long ++ [0] := by simp [Given.bytes, Given.args, hval]
    have hleft : (if behind then { p with ternary := .yes } else p : CfgParse) =
        ⟨p.buf, ternaryBehind behind, p.st⟩ := by
      cases behind with
      | true => rfl
      | false =>
        show p = ⟨p.buf, .nothing, p.st⟩
        rw [← hp rfl]
    rw [hbytes, consume_word, hleft, endWord, if_neg (by simp [hval]),
      g.opt.action_congr w g.value p.buf (ternaryBehind behind) (ternaryBehind behind) _ (by simp [hval]),
      CfgParse.cmdAct, Option.map_map]
    rfl

/-- All options. -/
theorem consume_givens (w : CmdWorld) (gs : List Given) (hgs : ∀ g ∈ gs, g.WellFormed) (behind : Bool)
    (p : CfgParse) (hp : behind = false → p.ternary = .nothing) :
    ((consume (cmdStep w) (.before behind, p) (gs.flatMap Given.bytes)).bind fun r =>
      if r.1.isFinal then some r.2.st else none) = applyGiven w gs behind p.st := by
  induction gs generalizing behind p with
  | nil => cases behind <;> rfl
  | cons g gs ih =>
    obtain ⟨buf, t, ht, hrun⟩ := consume_given w g (hgs g List.mem_cons_self) behind p hp
    rw [List.flatMap_cons, consume_append, hrun, applyGiven]
    cases g.opt.action w g.value (ternaryBehind behind) p.st with
    | none => rfl
    | some st =>
      exact ih (fun g hg => hgs g (List.mem_cons_of_mem _ hg)) (!g.opt.hasValue) ⟨buf, t, st⟩ (by simpa using ht)

/-- The arguments of all options. -/
def cmdArgs (gs : List Given) : List (List UInt8) := gs.flatMap Given.args

theorem Given.exists_args (g : Given) : ∃ rest, g.args = g.opt.word g.long :: rest := by
  unfold args
  split
  · exact ⟨_, rfl⟩
  · exact ⟨_, rfl⟩

/-- `parse_cmdline` runs the actions of the options in order. -/
theorem parseCmdline_eq (w : CmdWorld) (mem : Nat → UInt8) (gs : List Given) (hgs : ∀ g ∈ gs, g.WellFormed)
    (hfit : (joined (cmdArgs gs)).length < argbSize) (st : Settings) :
    parseCmdline w mem (cmdArgs gs) st = applyGiven w gs false st := by
  rcases gs with _ | ⟨g, gs⟩
  · rfl
  · obtain ⟨rest, hrest⟩ := g.exists_args
    have hargs : cmdArgs (g :: gs) = g.opt.word g.long :: (rest ++ cmdArgs gs) := by
      rw [cmdArgs, List.flatMap_cons, hrest]
      rfl
    have hne : cmdArgs (g :: gs) ≠ [] := by
      rw [hargs]
      exact List.cons_ne_nil _ _
    obtain ⟨s, hs, hj⟩ := joinArgs_of_fits mem _ hne hfit
    have hpos : s.argbl ≠ 0 := by
      have hlen := congrArg List.length (joined_append_nul _ hne)
      have hword := List.length_pos_iff.mpr (word_ne_nil g.opt g.long)
      rw [hargs, List.flatMap_cons] at hlen
      simp only [List.length_append, List.length_singleton] at hlen
      rw [hj.toHolding.argbl, hargs]
      omega
    have hbytes : load s.mem (s.argbl + 1) = (g :: gs).flatMap Given.bytes := by
      rw [hj.held, joined_append_nul _ hne, cmdArgs, List.flatMap_assoc]
      rfl
    rw [parseCmdline, hs, Option.bind_some, if_neg hpos, hbytes]
    exact consume_givens w (g :: gs) hgs false (.start st) fun _ => rfl

/-! ## Flags -/

/-- The switches that set something. -/
def flagOpts : List Opt := [.background, .now, .quit, .relentlessDefense, .dhcpSetHostname]

/-- What a flag sets. -/
def Settings.flagValues (st : Settings) : Opt → List Bool
  | .background => [st.backgroundIfNoLease, st.gflagsDetach]
  | .now => [st.abortIfNoLease]
  | .quit => [st.quitAfterLease]
  | .relentlessDefense => [st.relentlessDef]
  | .dhcpSetHostname => [st.allowHostname]
  | _ => []

/-- Exactly these flags are set. -/
def FlagsAre (st : Settings) (On : Opt → Prop) : Prop := ∀ f, ∀ v ∈ st.flagValues f, v = true ↔ On f

def Occurs (gs : List Given) (o : Opt) : Prop := ∃ g ∈ gs, g.opt = .opt o

/-- Directly behind an option without a value. -/
def OccursBehindSwitch (gs : List Given) (o : Opt) : Prop :=
  ∃ pre g g' post, gs = pre ++ g :: g' :: post ∧ g.opt.hasValue = false ∧ g'.opt = .opt o

/-- An option that does not open a file or end the process, with a value its action takes. -/
structure Given.Fits (w : CmdWorld) (g : Given) : Prop where
  plain : ∃ o, g.opt = .opt o
  wellFormed : g.WellFormed
  taken : (g.opt.action w g.value .nothing .initial).isSome = true

/-- `parse_cmdline` returns, with exactly the flags set that occur. -/
def FlagsIndependent (w : CmdWorld) (mem : Nat → UInt8) (gs : List Given) : Prop :=
  ∃ st, parseCmdline w mem (cmdArgs gs) .initial = some st ∧ FlagsAre st (Occurs gs)

theorem flagValues_initial (f : Opt) : ∀ v ∈ Settings.initial.flagValues f, v = false := by
  cases f <;> decide

theorem exists_flagValue (st : Settings) (f : Opt) (hf : f ∈ flagOpts) : ∃ v, v ∈ st.flagValues f := by
  simp only [flagOpts, List.mem_cons, List.not_mem_nil, or_false] at hf
  rcases hf with rfl | rfl | rfl | rfl | rfl
  all_goals exact ⟨_, List.mem_cons_self⟩

theorem mem_flagOpts_of_flagValue (st : Settings) (f : Opt) (v : Bool) (h : v ∈ st.flagValues f) : f ∈ flagOpts := by
  cases f <;> first | exact absurd h List.not_mem_nil | decide

/-- An action changes the flags of its own option only. -/
theorem action_flagValues (w : CfgWorld) (o : Opt) (buf : List UInt8) (t : Ternary) (st st' : Settings)
    (h : o.action w buf t st = some st') (f : Opt) :
    st'.flagValues f = if f = o then (st.flagValues f).map t.set else st.flagValues f := by
  cases o <;> simp only [Opt.action, Option.map_eq_some_iff, Option.some.injEq] at h
  all_goals first | obtain rfl := h | obtain ⟨v, -, rfl⟩ := h
  all_goals cases f <;> rfl

/-- Whether an action takes a value depends on nothing else. -/
theorem action_isSome (w : CfgWorld) (o : Opt) (buf : List UInt8) (t t' : Ternary) (st st' : Settings) :
    (o.action w buf t st).isSome = (o.action w buf t' st').isSome := by
  cases o <;> simp [Opt.action]

/-- The flags set by the options, the first of them behind a switch or not. -/
def SetBehind : List Given → Bool → Opt → Prop
  | [], _, _ => False
  | g :: gs, behind, f => (behind = true ∧ g.opt = .opt f) ∨ SetBehind gs (!g.opt.hasValue) f

theorem setBehind_iff (gs : List Given) (behind : Bool) (f : Opt) :
    SetBehind gs behind f ↔
      (behind = true ∧ ∃ g post, gs = g :: post ∧ g.opt = .opt f) ∨ OccursBehindSwitch gs f := by
  induction gs generalizing behind with
  | nil => simp [SetBehind, OccursBehindSwitch]
  | cons g gs ih =>
    -- a flag behind a switch is the first of the rest, or behind a switch there
    have hsplit : OccursBehindSwitch (g :: gs) f ↔
        (g.opt.hasValue = false ∧ ∃ g' post, gs = g' :: post ∧ g'.opt = .opt f) ∨ OccursBehindSwitch gs f := by
      constructor
      · rintro ⟨pre, x, y, post, heq, hx, hy⟩
        cases pre with
        | nil =>
          obtain ⟨rfl, rfl⟩ := List.cons.inj heq
          exact Or.inl ⟨hx, y, post, rfl, hy⟩
        | cons a pre =>
          obtain ⟨rfl, rfl⟩ := List.cons.inj heq
          exact Or.inr ⟨pre, x, y, post, rfl, hx, hy⟩
      · rintro (⟨hg, y, post, rfl, hy⟩ | ⟨pre, x, y, post, rfl, hx, hy⟩)
        · exact ⟨[], g, y, post, rfl, hg, hy⟩
        · exact ⟨g :: pre, x, y, post, rfl, hx, hy⟩
    rw [SetBehind, ih, hsplit]
    simp

/-- One option. -/
theorem FlagsAre.action {w : CfgWorld} {o : Opt} {buf : List UInt8} {behind : Bool} {st st' : Settings}
    {On : Opt → Prop} (h : FlagsAre st On) (hact : o.action w buf (ternaryBehind behind) st = some st') :
    FlagsAre st' fun f => On f ∨ (behind = true ∧ o = f) := by
  intro f v hv
  rw [action_flagValues w o buf _ st st' hact f] at hv
  by_cases hf : f = o
  · rw [if_pos hf] at hv
    obtain ⟨u, hu, rfl⟩ := List.mem_map.mp hv
    have hon := h f u hu
    cases behind <;> simp [ternaryBehind, Ternary.set, hon, hf]
  · rw [if_neg hf] at hv
    simp [h f v hv, Ne.symm hf]

/-- All options: the process goes on, and the flags behind a switch are set. -/
theorem applyGiven_flags (w : CmdWorld) (gs : List Given) (hgs : ∀ g ∈ gs, g.Fits w) (behind : Bool)
    (st : Settings) (On : Opt → Prop) (h : FlagsAre st On) :
    ∃ st', applyGiven w gs behind st = some st' ∧ FlagsAre st' fun f => On f ∨ SetBehind gs behind f := by
  induction gs generalizing behind st On with
  | nil => exact ⟨st, rfl, by simpa [SetBehind] using h⟩
  | cons g gs ih =>
    obtain ⟨⟨o, ho⟩, -, htaken⟩ := hgs g List.mem_cons_self
    rw [ho, CmdOpt.action, action_isSome _ _ _ _ (ternaryBehind behind) _ st] at htaken
    obtain ⟨st₁, hact⟩ := Option.isSome_iff_exists.mp htaken
    obtain ⟨st', hrun, hflags⟩ :=
      ih (fun g hg => hgs g (List.mem_cons_of_mem _ hg)) (!g.opt.hasValue) st₁ _ (h.action hact)
    refine ⟨st', ?_, ?_⟩
    · rw [applyGiven, ho, CmdOpt.action, hact, Option.bind_some, ← ho]
      exact hrun
    · simpa [SetBehind, ho, or_assoc] using hflags

/-- The flags at the end. -/
theorem parseCmdline_flags (w : CmdWorld) (mem : Nat → UInt8) (gs : List Given) (hgs : ∀ g ∈ gs, g.Fits w)
    (hfit : (joined (cmdArgs gs)).length < argbSize) :
    ∃ st, parseCmdline w mem (cmdArgs gs) .initial = some st ∧ FlagsAre st (OccursBehindSwitch gs) := by
  have hinit : FlagsAre .initial fun _ => False := by
    intro f v hv
    simp [flagValues_initial f v hv]
  obtain ⟨st, hrun, hflags⟩ := applyGiven_flags w gs hgs false .initial _ hinit
  refine ⟨st, ?_, ?_⟩
  · rw [parseCmdline_eq w mem gs (fun g hg => (hgs g hg).wellFormed) hfit]
    exact hrun
  · simpa [setBehind_iff] using hflags

/-- **Flags depend on the option before them.**  `parse_cmdline` sets exactly the flags that occur, if
and only if each of them occurs somewhere directly behind a switch. -/
theorem flags_take_effect_iff (w : CmdWorld) (mem : Nat → UInt8) (gs : List Given) (hgs : ∀ g ∈ gs, g.Fits w)
    (hfit : (joined (cmdArgs gs)).length < argbSize) :
    FlagsIndependent w mem gs ↔ ∀ f ∈ flagOpts, Occurs gs f → OccursBehindSwitch gs f := by
  obtain ⟨st, hrun, hflags⟩ := parseCmdline_flags w mem gs hgs hfit
  constructor
  · rintro ⟨st', hrun', hoccurs⟩ f hf hocc
    obtain rfl : st = st' := Option.some.inj (hrun ▸ hrun')
    obtain ⟨v, hv⟩ := exists_flagValue st f hf
    exact (hflags f v hv).mp ((hoccurs f v hv).mpr hocc)
  · intro h
    refine ⟨st, hrun, ?_⟩
    intro f v hv
    rw [hflags f v hv]
    constructor
    · rintro ⟨pre, x, y, post, rfl, -, hy⟩
      exact ⟨y, by simp, hy⟩
    · exact h f (mem_flagOpts_of_flagValue st f v hv)

/-! ## Two command lines -/

/-- A host without users and files. -/
def bareCmdHost : CmdWorld := ⟨bareHost, fun _ => none⟩

def givenFlag (o : Opt) : Given := ⟨.opt o, true, []⟩

theorem givenFlag_fits (o : Opt) (ho : o.isSwitch = true) : (givenFlag o).Fits bareCmdHost where
  plain := ⟨o, rfl⟩
  wellFormed := by
    intro h
    simp [givenFlag, CmdOpt.hasValue, ho] at h
  taken := by
    cases o <;> first | rfl | simp [Opt.isSwitch] at ho

/-- `--seccomp-enforce --background` -/
theorem background_behind_switch :
    FlagsIndependent bareCmdHost (fun _ => 0) [givenFlag .seccompEnforce, givenFlag .background] := by
  refine (flags_take_effect_iff bareCmdHost (fun _ => 0) _ ?_ (by decide +kernel)).mpr ?_
  · intro g hg
    simp only [List.mem_cons, List.not_mem_nil, or_false] at hg
    rcases hg with rfl | rfl
    · exact givenFlag_fits .seccompEnforce rfl
    · exact givenFlag_fits .background rfl
  · rintro f hf ⟨g, hg, hgf⟩
    simp only [List.mem_cons, List.not_mem_nil, or_false] at hg
    rcases hg with rfl | rfl
    · obtain rfl := CmdOpt.opt.inj hgf
      exact absurd hf (by decide)
    · obtain rfl := CmdOpt.opt.inj hgf
      exact ⟨[], _, _, [], rfl, rfl, rfl⟩

/-- `--background` alone: nothing is set. -/
theorem lone_background_ignored :
    (∀ g ∈ [givenFlag .background], g.Fits bareCmdHost) ∧
      ∃ st, parseCmdline bareCmdHost (fun _ => 0) [ascii "--background"] .initial = some st ∧
        st.backgroundIfNoLease = false ∧ st.gflagsDetach = false := by
  have hfits : ∀ g ∈ [givenFlag .background], g.Fits bareCmdHost := by
    intro g hg
    obtain rfl := List.mem_singleton.mp hg
    exact givenFlag_fits .background rfl
  refine ⟨hfits, ?_⟩
  have hrun := parseCmdline_eq bareCmdHost (fun _ => 0) [givenFlag .background]
    (fun g hg => (hfits g hg).wellFormed) (by decide +kernel) .initial
  exact ⟨_, hrun, rfl, rfl⟩

end Ndhc
