import Ndhc.Ifch.Parse

/-!
# Sequences of commands

What `execute_buffer` accepts, and what it returns for it.  A text is a sequence of commands
(`Commands`) if it is a command word, an argument of the word's grammar and `;`, once or more
often.  `executeBuffer_commands` says that such a text is its commands dispatched in order, up to
the first that returns -99; `executeBuffer_rejects` that any other text is returned -99 for.

The first is the rule of one command, command by command.  The second is by an invariant of the
machine's steps (`ReadSoFar`): what was read is a sequence of commands and the part of a command the
machine's position stands for.
-/

namespace Ndhc

open Bytes

/-- A whole argument of the sub-grammar. -/
def ArgKind.Takes (k : ArgKind) (as : List UInt8) : Prop :=
  ∃ q, k.feed k.start as = some q ∧ k.accepts q = true

/-- A command: an entry of the table and an argument its grammar takes and `tb` holds. -/
structure Cmd where
  entry : List UInt8 × IfchdState × ArgKind
  arg : List UInt8
  entry_mem : entry ∈ commands
  takes : entry.2.2.Takes arg
  short : arg.length ≤ MAX_BUF - 1

namespace Cmd

def state (c : Cmd) : IfchdState := c.entry.2.1

def text (c : Cmd) : List UInt8 := c.entry.1 ++ c.arg ++ [59]

end Cmd

/-- The text is that of the commands, of which there is one. -/
def Commands (text : List UInt8) (cmds : List Cmd) : Prop := cmds ≠ [] ∧ text = cmds.flatMap Cmd.text

section
variable {σ : Type} (h : σ → IfchdState → List UInt8 → σ × Int)

def Cmd.dispatch (c : Cmd) (u : σ) : σ × Int := h u c.state c.arg

/-- The commands in order, up to one that returns -99: what `execute_buffer` then returns, and the
handler's state. -/
def dispatchAll : List Cmd → Bool → σ → Int × σ
  | [], cmdf, u => (if cmdf then -1 else 0, u)
  | c :: cs, cmdf, u =>
    if (c.dispatch h u).2 = -99 then (-99, (c.dispatch h u).1)
    else dispatchAll cs (cmdf || (c.dispatch h u).2 != 0) (c.dispatch h u).1

/-- The commands that are dispatched, each with the state it is dispatched in. -/
def dispatched : List Cmd → σ → List (σ × Cmd)
  | [], _ => []
  | c :: cs, u =>
    (u, c) :: if (c.dispatch h u).2 = -99 then [] else dispatched cs (c.dispatch h u).1

/-! ## What is returned for a sequence -/

theorem exists_dispatched_cons (P : σ × Cmd → Prop) (c : Cmd) (cs : List Cmd) (u : σ)
    (hc : (c.dispatch h u).2 ≠ -99) :
    (∃ p ∈ dispatched h (c :: cs) u, P p) ↔
      P (u, c) ∨ ∃ p ∈ dispatched h cs (c.dispatch h u).1, P p := by
  simp only [dispatched, if_neg hc, List.mem_cons, exists_eq_or_imp]

theorem dispatchAll_values (cmds : List Cmd) (cmdf : Bool) (u : σ) :
    (dispatchAll h cmds cmdf u).1 = -99 ∨ (dispatchAll h cmds cmdf u).1 = -1 ∨
      (dispatchAll h cmds cmdf u).1 = 0 := by
  induction cmds generalizing cmdf u with
  | nil => cases cmdf <;> simp [dispatchAll]
  | cons c cs ih =>
    unfold dispatchAll
    split
    · exact Or.inl rfl
    · exact ih _ _

/-- It is -99 when that of a command is. -/
theorem dispatchAll_fatal_iff (cmds : List Cmd) (cmdf : Bool) (u : σ) :
    (dispatchAll h cmds cmdf u).1 = -99 ↔
      ∃ p ∈ dispatched h cmds u, (p.2.dispatch h p.1).2 = -99 := by
  induction cmds generalizing cmdf u with
  | nil => cases cmdf <;> simp [dispatchAll, dispatched]
  | cons c cs ih =>
    unfold dispatchAll
    by_cases hc : (c.dispatch h u).2 = -99
    · rw [if_pos hc]
      exact iff_of_true rfl ⟨(u, c), List.mem_cons_self, hc⟩
    · rw [if_neg hc, ih, exists_dispatched_cons h _ c cs u hc, or_iff_right hc]

/-- It is `0` when that of every command is. -/
theorem dispatchAll_zero_iff (cmds : List Cmd) (cmdf : Bool) (u : σ) :
    (dispatchAll h cmds cmdf u).1 = 0 ↔
      cmdf = false ∧ ¬ ∃ p ∈ dispatched h cmds u, (p.2.dispatch h p.1).2 ≠ 0 := by
  induction cmds generalizing cmdf u with
  | nil => cases cmdf <;> simp [dispatchAll, dispatched]
  | cons c cs ih =>
    unfold dispatchAll
    by_cases hc : (c.dispatch h u).2 = -99
    · rw [if_pos hc]
      have hne : (-99 : Int) ≠ 0 := by decide
      exact iff_of_false hne fun hzero => hzero.2 ⟨(u, c), List.mem_cons_self, hc ▸ hne⟩
    · rw [if_neg hc, ih, exists_dispatched_cons h _ c cs u hc, not_or, Bool.or_eq_false_iff,
        bne_eq_false_iff_eq, not_not, and_assoc]

/-- Every command is dispatched if none returns -99. -/
theorem dispatched_all (cmds : List Cmd) (u : σ)
    (hno : ∀ p ∈ dispatched h cmds u, (p.2.dispatch h p.1).2 ≠ -99) :
    (dispatched h cmds u).map Prod.snd = cmds := by
  induction cmds generalizing u with
  | nil => rfl
  | cons c cs ih =>
    have hc : (c.dispatch h u).2 ≠ -99 := hno (u, c) List.mem_cons_self
    simp only [dispatched, if_neg hc, List.mem_cons, List.map_cons] at hno ⊢
    rw [ih _ fun p hp => hno p (Or.inr hp)]

theorem mem_of_dispatched (cmds : List Cmd) (u : σ) (p : σ × Cmd) (hp : p ∈ dispatched h cmds u) :
    p.2 ∈ cmds := by
  induction cmds generalizing u with
  | nil => cases hp
  | cons c cs ih =>
    simp only [dispatched, List.mem_cons] at hp
    rcases hp with rfl | hp
    · exact List.mem_cons_self
    · split at hp
      · cases hp
      · exact List.mem_cons_of_mem _ (ih _ hp)

/-- Only the last command dispatched returns -99. -/
theorem dispatched_fatal_unique (cmds : List Cmd) (u : σ) (p p' : σ × Cmd)
    (hp : p ∈ dispatched h cmds u) (hfatal : (p.2.dispatch h p.1).2 = -99)
    (hp' : p' ∈ dispatched h cmds u) (hfatal' : (p'.2.dispatch h p'.1).2 = -99) : p = p' := by
  induction cmds generalizing u with
  | nil => cases hp
  | cons c cs ih =>
    by_cases hc : (c.dispatch h u).2 = -99
    · simp only [dispatched, if_pos hc, List.mem_singleton] at hp hp'
      rw [hp, hp']
    · simp only [dispatched, if_neg hc, List.mem_cons] at hp hp'
      rcases hp with rfl | hp
      · exact absurd hfatal hc
      · rcases hp' with rfl | hp'
        · exact absurd hfatal' hc
        · exact ih _ hp hp'

/-! ## Running over a sequence -/

theorem exec_cmd (c : Cmd) (rest : List UInt8) (x : Exec σ) (hx : x.pos.between = true) :
    exec h (c.text ++ rest) x =
      if (c.dispatch h x.user).2 = -99 then .abort (c.dispatch h x.user).1
      else exec h rest ⟨.final, c.state, [], x.cmdf || (c.dispatch h x.user).2 != 0,
        (c.dispatch h x.user).1⟩ := by
  obtain ⟨q, hf, hq⟩ := c.takes
  have htext : c.text ++ rest = c.entry.1 ++ c.arg ++ 59 :: rest := by simp [Cmd.text]
  by_cases hnil : c.arg = []
  · -- the `;` right behind the word leaves the empty argument
    rw [hnil] at hf
    cases hf
    have hd : c.dispatch h x.user = h x.user c.entry.2.1 [] := by rw [Cmd.dispatch, hnil]; rfl
    rw [htext, hnil, List.append_nil, exec_word h c.entry c.entry_mem _ x hx, hd]
    simp only [exec, stepByte, argStep, hq, and_self, if_true, dispatch]
    by_cases hpr : (h x.user c.entry.2.1 []).2 = -99 <;> simp [hpr, Cmd.state, MAX_BUF]
  · rw [htext]
    exact exec_command h c.entry c.entry_mem c.arg rest x hx ⟨hnil, q, hf, hq⟩ c.short

/-- The run over a sequence of commands, from between two. -/
theorem exec_cmds (cmds : List Cmd) (x : Exec σ) (hx : x.pos.between = true) :
    (exec h (cmds.flatMap Cmd.text) x = .abort (dispatchAll h cmds x.cmdf x.user).2 ∧
        (dispatchAll h cmds x.cmdf x.user).1 = -99) ∨
      ∃ y, exec h (cmds.flatMap Cmd.text) x = .done y ∧ (cmds ≠ [] → y.pos = .final) ∧
        (if y.cmdf then -1 else 0, y.user) = dispatchAll h cmds x.cmdf x.user := by
  induction cmds generalizing x with
  | nil => exact Or.inr ⟨x, rfl, fun hne => absurd rfl hne, rfl⟩
  | cons c cs ih =>
    rw [List.flatMap_cons, exec_cmd h c _ x hx]
    unfold dispatchAll
    by_cases hfatal : (c.dispatch h x.user).2 = -99
    · rw [if_pos hfatal, if_pos hfatal]
      exact Or.inl ⟨rfl, rfl⟩
    · rw [if_neg hfatal, if_neg hfatal]
      rcases ih ⟨.final, c.state, [], x.cmdf || (c.dispatch h x.user).2 != 0,
        (c.dispatch h x.user).1⟩ rfl with hend | ⟨y, hy, hpos, hret⟩
      · exact Or.inl hend
      · refine Or.inr ⟨y, hy, fun _ => ?_, hret⟩
        by_cases hcs : cs = []
        · subst hcs
          cases hy
          rfl
        · exact hpos hcs

/-! ## What was read -/

/-- The text read is a sequence of commands, with what the machine's position says of the one
under way. -/
def ReadSoFar (text : List UInt8) (x : Exec σ) : Prop :=
  ∃ cmds : List Cmd,
    match x.pos with
    | .start => text = []
    | .final => Commands text cmds
    | .word w => text = cmds.flatMap Cmd.text ++ w
    | .argStart st k => ∃ e ∈ commands, e.2 = (st, k) ∧ text = cmds.flatMap Cmd.text ++ e.1
    | .arg k q => ∃ e ∈ commands, e.2 = (x.state, k) ∧ k.feed k.start x.arg = some q ∧
        text = cmds.flatMap Cmd.text ++ e.1 ++ x.arg

theorem wordPos_eq (w : List UInt8) (p : Pos) (hp : wordPos w = some p) :
    (∃ e ∈ commands, e.1 = w ∧ p = .argStart e.2.1 e.2.2) ∨ p = .word w := by
  unfold wordPos at hp
  split at hp
  · next e he =>
    cases hp
    have hw := List.find?_some he
    exact Or.inl ⟨e, List.mem_of_find?_eq_some he, by simpa using hw, rfl⟩
  · split at hp
    · cases hp
      exact Or.inr rfl
    · cases hp

theorem reads_word (cmds : List Cmd) (text w : List UInt8) (x : Exec σ)
    (htext : text = cmds.flatMap Cmd.text ++ w) (hp : wordPos w = some x.pos) : ReadSoFar text x := by
  rcases wordPos_eq w x.pos hp with ⟨e, he, hw, hpos⟩ | hpos
  · refine ⟨cmds, ?_⟩
    rw [hpos]
    exact ⟨e, he, rfl, by rw [htext, hw]⟩
  · refine ⟨cmds, ?_⟩
    rw [hpos]
    exact htext

/-- A byte inside an argument, or the `;` behind it. -/
theorem argStep_reads (cmds : List Cmd) (e : List UInt8 × IfchdState × ArgKind) (he : e ∈ commands)
    (q : ArgPos) (x x' : Exec σ) (c : UInt8) (hst : e.2.1 = x.state)
    (hf : e.2.2.feed e.2.2.start x.arg = some q) (hgo : argStep h e.2.2 q x c = .go x') :
    ReadSoFar (cmds.flatMap Cmd.text ++ e.1 ++ x.arg ++ [c]) x' := by
  unfold argStep at hgo
  split at hgo
  · next hterm =>
    obtain ⟨hacc, rfl⟩ := hterm
    unfold dispatch at hgo
    split at hgo
    · cases hgo
    · next hlen =>
      simp only at hgo
      split at hgo
      · cases hgo
      · cases hgo
        refine ⟨cmds ++ [⟨e, x.arg, he, ⟨q, hf, hacc⟩, by omega⟩], ?_, ?_⟩
        · exact List.concat_ne_nil _ _
        · simp [Cmd.text]
  · next hterm =>
    split at hgo
    · next q' hq' =>
      cases hgo
      refine ⟨cmds, e, he, Prod.ext hst rfl, ?_, by simp⟩
      rw [ArgKind.feed_append, hf]
      simp only [Option.bind_some, ArgKind.feed, if_neg hterm, hq']
    · cases hgo

theorem stepByte_reads (text : List UInt8) (x x' : Exec σ) (c : UInt8) (hr : ReadSoFar text x)
    (hgo : stepByte h x c = .go x') : ReadSoFar (text ++ [c]) x' := by
  obtain ⟨cmds, hr⟩ := hr
  unfold stepByte at hgo
  cases hpos : x.pos with
  | start =>
    simp only [hpos] at hr hgo
    split at hgo
    · next p hp =>
      cases hgo
      exact reads_word [] _ [c] _ (by rw [hr]; rfl) hp
    · cases hgo
  | final =>
    simp only [hpos] at hr hgo
    split at hgo
    · next p hp =>
      cases hgo
      exact reads_word cmds _ [c] _ (by rw [hr.2]) hp
    · cases hgo
  | word w =>
    simp only [hpos] at hr hgo
    split at hgo
    · next p hp =>
      cases hgo
      exact reads_word cmds _ (w ++ [c]) _ (by rw [hr, List.append_assoc]) hp
    · cases hgo
  | argStart st k =>
    simp only [hpos] at hr hgo
    obtain ⟨⟨word, st', k'⟩, he, hst, htext⟩ := hr
    cases hst
    have hstep := argStep_reads h cmds _ he k.start
      { x with pos := .argStart st k, state := st, arg := [] } x' c rfl rfl hgo
    rw [htext]
    simpa using hstep
  | arg k q =>
    simp only [hpos] at hr hgo
    obtain ⟨⟨word, st', k'⟩, he, hst, hf, htext⟩ := hr
    cases hst
    rw [htext]
    exact argStep_reads h cmds _ he q x x' c rfl hf hgo

theorem exec_reads (text rest : List UInt8) (x y : Exec σ) (hr : ReadSoFar text x)
    (hdone : exec h rest x = .done y) : ReadSoFar (text ++ rest) y := by
  induction rest generalizing text x with
  | nil =>
    cases hdone
    rwa [List.append_nil]
  | cons c cs ih =>
    unfold exec at hdone
    split at hdone
    · next x' hgo =>
      have hrest := ih (text ++ [c]) x' (stepByte_reads h text x x' c hr hgo) hdone
      rwa [List.append_assoc] at hrest
    · cases hdone
    · cases hdone

/-- A text whose run ends in the machine's final state is a sequence of commands. -/
theorem commands_of_final (text : List UInt8) (u : σ) (y : Exec σ)
    (hdone : exec h text (.init u) = .done y) (hfinal : y.pos = .final) :
    ∃ cmds, Commands text cmds := by
  obtain ⟨cmds, hr⟩ := exec_reads h [] text (.init u) y ⟨[], rfl⟩ hdone
  rw [hfinal] at hr
  exact ⟨cmds, hr⟩

/-! ## execute_buffer -/

/-- The commands of a buffer, if it is a sequence of commands and holds them all. -/
def BufferCommands (ibuf newbuf : List UInt8) (cmds : List Cmd) : Prop :=
  Commands (ibuf ++ cstr newbuf) cmds ∧ (ibuf ++ cstr newbuf).length < MAX_BUF * 2

/-- **A sequence of commands** is dispatched in order. -/
theorem executeBuffer_commands (ibuf newbuf : List UInt8) (cmds : List Cmd) (u : σ)
    (hc : BufferCommands ibuf newbuf cmds) :
    ((executeBuffer h ibuf newbuf u).1, (executeBuffer h ibuf newbuf u).2.2) =
      dispatchAll h cmds false u := by
  obtain ⟨⟨hne, htext⟩, hlen⟩ := hc
  unfold executeBuffer
  rw [if_neg (by omega), htext]
  rcases exec_cmds h cmds (.init u) rfl with ⟨hend, hret⟩ | ⟨y, hy, hpos, hret⟩
  · rw [hend]
    exact Prod.ext hret.symm rfl
  · rw [hy]
    simp only [hpos hne, if_true]
    exact hret

/-- **Anything else** is returned -99 for. -/
theorem executeBuffer_rejects (ibuf newbuf : List UInt8) (u : σ)
    (hc : ¬ ∃ cmds, BufferCommands ibuf newbuf cmds) : (executeBuffer h ibuf newbuf u).1 = -99 := by
  unfold executeBuffer
  simp only
  split
  · rfl
  · next hlen =>
    cases hend : exec h (ibuf ++ cstr newbuf) (.init u) with
    | done y =>
      have hnot : y.pos ≠ .final := fun hfinal =>
        have ⟨cmds, hcmds⟩ := commands_of_final h _ u y hend hfinal
        hc ⟨cmds, hcmds, by omega⟩
      simp only [if_neg hnot]
    | err y rest => rfl
    | abort v => rfl

end

end Ndhc
