import Ndhc.Ifch.Command

/-!
# The command parser of ifch

`ifchd_parser` of ifchd-parse.rl as the deterministic machine its grammar denotes, run one
byte at a time by `exec`.  A command is a word of `commands` followed by its argument and
`;`.  The actions stand where Ragel places them: `Reset` on the first byte of a command, the
word's leaving action (set `cl.state`) and `ArgSt` on the first byte after it, `ArgEn` and
then `Dispatch` on the `;` that leaves an argument in one of its final states.

The machine is generic in what `Dispatch` does: a handler on a state of any type.
`exec_command` is the rule for one well-formed command in front of any text.
-/

namespace Ndhc

open Bytes

/-- `enum ifchd_states` -/
inductive IfchdState where
  | nothing
  | ip4set
  | timezone
  | router
  | dns
  | lprsvr
  | hostname
  | domain
  | ipttl
  | mtu
  | ntpsvr
  | wins
  | carrier
  deriving DecidableEq, Repr

def MAX_BUF : Nat := 1024

/-! ## Argument grammars -/

/-- The argument sub-grammars: addresses joined by between `lo` and `hi` commas
(`ip_arg`, `ip4set_arg`, `iplist_arg`), `str_arg`, `extend{n}`, and none. -/
inductive ArgKind where
  | addrs (lo : Nat) (hi : Option Nat)
  | str
  | extend (n : Nat)
  | none
  deriving DecidableEq, Repr

/-- Where the machine stands inside an argument: commas, dots and digits of the current
group seen; whether a character was seen; characters still to come. -/
inductive ArgPos where
  | addr (commas dots digits : Nat)
  | str (seen : Bool)
  | extend (left : Nat)
  | none
  deriving DecidableEq, Repr

def isDigit (c : UInt8) : Bool := 48 ≤ c && c ≤ 57

namespace ArgKind

def start : ArgKind → ArgPos
  | .addrs _ _ => .addr 0 0 0
  | .str => .str false
  | .extend n => .extend n
  | .none => .none

/-- The final states of the sub-grammar. -/
def accepts : ArgKind → ArgPos → Bool
  | .addrs lo _, .addr commas dots digits => decide (dots = 3 ∧ 1 ≤ digits ∧ lo ≤ commas)
  | .str, .str seen => seen
  | .extend _, .extend left => left == 0
  | .none, .none => true
  | _, _ => false

/-- The transition of the sub-grammar on a byte. -/
def next : ArgKind → ArgPos → UInt8 → Option ArgPos
  | .addrs _ hi, .addr commas dots digits, c =>
    if isDigit c then
      if digits < 3 then some (.addr commas dots (digits + 1)) else Option.none
    else if c = 46 then
      if dots < 3 ∧ 1 ≤ digits then some (.addr commas (dots + 1) 0) else Option.none
    else if c = 44 then
      if dots = 3 ∧ 1 ≤ digits ∧ (∀ h ∈ hi, commas < h) then some (.addr (commas + 1) 0 0)
      else Option.none
    else Option.none
  | .str, .str _, c => if c = 59 ∨ c = 0 then Option.none else some (.str true)
  | .extend _, .extend left, _ => if left = 0 then Option.none else some (.extend (left - 1))
  | _, _, _ => Option.none

/-- The argument bytes `as` taken from position `q`, none of them a terminator. -/
def feed (k : ArgKind) : ArgPos → List UInt8 → Option ArgPos
  | q, [] => some q
  | q, c :: as =>
    if k.accepts q = true ∧ c = 59 then Option.none
    else
      match k.next q c with
      | some q' => k.feed q' as
      | Option.none => Option.none

/-- A whole non-empty argument of the sub-grammar. -/
def Matches (k : ArgKind) (as : List UInt8) : Prop :=
  as ≠ [] ∧ ∃ q, k.feed k.start as = some q ∧ k.accepts q = true

/-- A byte taken is no terminator. -/
theorem feed_cons (k : ArgKind) (q q' : ArgPos) (c : UInt8) (as : List UInt8)
    (hf : k.feed q (c :: as) = some q') :
    ¬ (k.accepts q = true ∧ c = 59) ∧ ∃ q₁, k.next q c = some q₁ ∧ k.feed q₁ as = some q' := by
  simp only [feed] at hf
  split at hf
  · cases hf
  · next hterm =>
    split at hf
    · next q₁ hq₁ => exact ⟨hterm, q₁, hq₁, hf⟩
    · cases hf

/-- The three moves inside a list of addresses: a digit, a dot, a comma. -/
theorem next_addrs (lo : Nat) (hi : Option Nat) (q q' : ArgPos) (c : UInt8)
    (hn : (ArgKind.addrs lo hi).next q c = some q') :
    ∃ commas dots digits, q = .addr commas dots digits ∧
      ((isDigit c = true ∧ digits < 3 ∧ q' = .addr commas dots (digits + 1)) ∨
        (c = 46 ∧ dots < 3 ∧ 1 ≤ digits ∧ q' = .addr commas (dots + 1) 0) ∨
        (c = 44 ∧ dots = 3 ∧ 1 ≤ digits ∧ q' = .addr (commas + 1) 0 0)) := by
  cases q with
  | addr commas dots digits =>
    refine ⟨commas, dots, digits, rfl, ?_⟩
    simp only [next] at hn
    split at hn
    · next hdigit =>
      split at hn
      · next hroom => exact Or.inl ⟨hdigit, hroom, (Option.some.inj hn).symm⟩
      · cases hn
    · split at hn
      · next hdot =>
        split at hn
        · next hroom => exact Or.inr (Or.inl ⟨hdot, hroom.1, hroom.2, (Option.some.inj hn).symm⟩)
        · cases hn
      · split at hn
        · next hcomma =>
          split at hn
          · next hroom => exact Or.inr (Or.inr ⟨hcomma, hroom.1, hroom.2.1, (Option.some.inj hn).symm⟩)
          · cases hn
        · cases hn
  | str seen => cases hn
  | extend left => cases hn
  | none => cases hn

theorem feed_append (k : ArgKind) (q : ArgPos) (as bs : List UInt8) :
    k.feed q (as ++ bs) = (k.feed q as).bind fun q' => k.feed q' bs := by
  induction as generalizing q with
  | nil => rfl
  | cons c as ih =>
    simp only [List.cons_append, feed]
    split
    · rfl
    · split
      · next q' _ => exact ih q'
      · rfl

end ArgKind

/-! ## The machine -/

/-- Every command word with the state its leaving action sets and its argument. -/
def commands : List (List UInt8 × IfchdState × ArgKind) := [
  (ascii "routr:", .router, .addrs 0 (some 0)),
  (ascii "ip4:", .ip4set, .addrs 1 (some 2)),
  (ascii "dns:", .dns, .addrs 0 none),
  (ascii "lpr:", .lprsvr, .addrs 0 none),
  (ascii "ntp:", .ntpsvr, .addrs 0 none),
  (ascii "wins:", .wins, .addrs 0 none),
  (ascii "host:", .hostname, .str),
  (ascii "dom:", .domain, .str),
  (ascii "tzone:", .timezone, .extend 4),
  (ascii "mtu:", .mtu, .extend 2),
  (ascii "ipttl:", .ipttl, .extend 1),
  (ascii "carrier:", .carrier, .none)]

/-- The machine's current state `cs`. -/
inductive Pos where
  | start
  | word (w : List UInt8)
  | argStart (st : IfchdState) (k : ArgKind)
  | arg (k : ArgKind) (q : ArgPos)
  | final
  deriving DecidableEq, Repr

/-- A run's variables: `cs`, `cl.state`, the bytes since `arg_start`, whether a command
failed (`cmdf`), and what the handler works on. -/
structure Exec (σ : Type) where
  pos : Pos
  state : IfchdState
  arg : List UInt8
  cmdf : Bool
  user : σ

/-- What one byte does: a transition, the error state, or a `return -99` in an action. -/
inductive Moved (σ : Type) where
  | go (x : Exec σ)
  | err (x : Exec σ)
  | abort (u : σ)

/-- What is then in the handler's state. -/
def Moved.user {σ : Type} : Moved σ → σ
  | .go x => x.user
  | .err x => x.user
  | .abort u => u

/-- The machine inside a command word of which `w` was read. -/
def wordPos (w : List UInt8) : Option Pos :=
  match commands.find? (fun e => e.1 == w) with
  | some e => some (.argStart e.2.1 e.2.2)
  | none => if commands.any (fun e => w.isPrefixOf e.1) then some (.word w) else none

section
variable {σ : Type} (h : σ → IfchdState → List UInt8 → σ × Int)

/-- `ArgEn`, then `Dispatch`. -/
def dispatch (x : Exec σ) : Moved σ :=
  if MAX_BUF - 1 < x.arg.length then .abort x.user
  else
    let (u, pr) := h x.user x.state x.arg
    if pr = -99 then .abort u
    else .go { x with pos := .final, arg := [], cmdf := x.cmdf || pr != 0, user := u }

/-- A transition on `c` inside an argument. -/
def argStep (k : ArgKind) (q : ArgPos) (x : Exec σ) (c : UInt8) : Moved σ :=
  if k.accepts q = true ∧ c = 59 then dispatch h x
  else
    match k.next q c with
    | some q' => .go { x with pos := .arg k q', arg := x.arg ++ [c] }
    | none => .err x

def stepByte (x : Exec σ) (c : UInt8) : Moved σ :=
  match x.pos with
  | .start | .final =>
    match wordPos [c] with
    | some p => .go { x with pos := p, state := .nothing }
    | none => .err x
  | .word w =>
    match wordPos (w ++ [c]) with
    | some p => .go { x with pos := p }
    | none => .err x
  | .argStart st k => argStep h k k.start { x with state := st, arg := [] } c
  | .arg k q => argStep h k q x c

/-- How a run over a text ends: at its end, in the error state with the rest unread, or
by a `return -99`. -/
inductive Ended (σ : Type) where
  | done (x : Exec σ)
  | err (x : Exec σ) (rest : List UInt8)
  | abort (u : σ)

def Ended.user {σ : Type} : Ended σ → σ
  | .done x => x.user
  | .err x _ => x.user
  | .abort u => u

def exec : List UInt8 → Exec σ → Ended σ
  | [], x => .done x
  | c :: cs, x =>
    match stepByte h x c with
    | .go x' => exec cs x'
    | .err x' => .err x' (c :: cs)
    | .abort u => .abort u

def Exec.init (u : σ) : Exec σ := ⟨.start, .nothing, [], false, u⟩

/-- `execute_buffer`: the return value, what `cl.ibuf` then holds, and the handler's state. -/
def executeBuffer (ibuf newbuf : List UInt8) (u : σ) : Int × List UInt8 × σ :=
  let buf := ibuf ++ cstr newbuf
  if MAX_BUF * 2 ≤ buf.length then (-99, ibuf, u)
  else
    match exec h buf (.init u) with
    | .done x => (if x.pos = .final then (if x.cmdf then -1 else 0) else -99, ibuf, x.user)
    | .err x rest => (-99, rest.take (MAX_BUF - 1), x.user)
    | .abort u' => (-99, ibuf, u')

end

/-! ## Running over a command -/

section
variable {σ : Type} (h : σ → IfchdState → List UInt8 → σ × Int)

/-- Whether the machine is between commands. -/
def Pos.between : Pos → Bool
  | .start | .final => true
  | _ => false

theorem exec_word (e : List UInt8 × IfchdState × ArgKind) (he : e ∈ commands) (rest : List UInt8)
    (x : Exec σ) (hx : x.pos.between = true) :
    exec h (e.1 ++ rest) x = exec h rest { x with pos := .argStart e.2.1 e.2.2, state := .nothing } := by
  obtain ⟨pos, state, arg, cmdf, user⟩ := x
  have hpos : pos = .start ∨ pos = .final := by
    cases pos <;> simp [Pos.between] at hx ⊢
  simp only [commands, List.mem_cons, List.not_mem_nil, or_false] at he
  rcases hpos with rfl | rfl <;>
    rcases he with rfl | rfl | rfl | rfl | rfl | rfl | rfl | rfl | rfl | rfl | rfl | rfl <;> rfl

theorem exec_arg (k : ArgKind) (q q' : ArgPos) (as rest : List UInt8) (x : Exec σ)
    (hx : x.pos = .arg k q) (hf : k.feed q as = some q') :
    exec h (as ++ rest) x = exec h rest { x with pos := .arg k q', arg := x.arg ++ as } := by
  induction as generalizing q x with
  | nil =>
    simp only [ArgKind.feed, Option.some.injEq] at hf
    subst hf
    obtain ⟨pos, state, arg, cmdf, user⟩ := x
    simp only at hx
    subst hx
    simp
  | cons c as ih =>
    obtain ⟨hterm, q1, hq1, hf⟩ := k.feed_cons q q' c as hf
    have hstep : stepByte h x c = .go { x with pos := .arg k q1, arg := x.arg ++ [c] } := by
      simp only [stepByte, hx, argStep, if_neg hterm, hq1]
    simp only [List.cons_append, exec, hstep]
    rw [ih q1 _ rfl hf]
    simp

/-- The first byte of an argument, with the word's leaving action. -/
theorem exec_argStart (st : IfchdState) (k : ArgKind) (c : UInt8) (as rest : List UInt8)
    (q' : ArgPos) (x : Exec σ) (hx : x.pos = .argStart st k)
    (hf : k.feed k.start (c :: as) = some q') :
    exec h (c :: as ++ rest) x =
      exec h rest { x with pos := .arg k q', state := st, arg := c :: as } := by
  obtain ⟨hterm, q1, hq1, hf⟩ := k.feed_cons _ q' c as hf
  have hstep : stepByte h x c = .go { x with pos := .arg k q1, state := st, arg := [c] } := by
    simp only [stepByte, hx, argStep, if_neg hterm, hq1, List.nil_append]
  simp only [List.cons_append, exec, hstep]
  rw [exec_arg h k q1 q' as rest _ rfl hf]
  simp

/-- A complete argument's `;`. -/
theorem exec_terminator (k : ArgKind) (q : ArgPos) (rest : List UInt8) (x : Exec σ)
    (hx : x.pos = .arg k q) (hq : k.accepts q = true) :
    exec h (59 :: rest) x =
      match dispatch h x with
      | .go x' => exec h rest x'
      | .err x' => .err x' (59 :: rest)
      | .abort u => .abort u := by
  simp only [exec, stepByte, hx, argStep, hq, and_self, if_true]

/-- A word with an argument of its grammar, up to the `;`. -/
theorem exec_command_dispatch (e : List UInt8 × IfchdState × ArgKind) (he : e ∈ commands)
    (as rest : List UInt8) (x : Exec σ) (hx : x.pos.between = true) (hm : e.2.2.Matches as) :
    ∃ q, exec h (e.1 ++ as ++ 59 :: rest) x =
      match dispatch h { x with pos := .arg e.2.2 q, state := e.2.1, arg := as } with
      | .go x' => exec h rest x'
      | .err x' => .err x' (59 :: rest)
      | .abort u => .abort u := by
  obtain ⟨hne, q, hf, hq⟩ := hm
  obtain ⟨c, as', rfl⟩ := List.exists_cons_of_ne_nil hne
  refine ⟨q, ?_⟩
  rw [List.append_assoc, exec_word h e he _ x hx, exec_argStart h e.2.1 e.2.2 c as' _ q _ rfl hf,
    exec_terminator h e.2.2 q rest _ rfl hq]

/-- **One command.**  A word with an argument of its grammar is dispatched once, with that
argument, and the run goes on after it. -/
theorem exec_command (e : List UInt8 × IfchdState × ArgKind) (he : e ∈ commands)
    (as rest : List UInt8) (x : Exec σ) (hx : x.pos.between = true) (hm : e.2.2.Matches as)
    (hlen : as.length ≤ MAX_BUF - 1) :
    exec h (e.1 ++ as ++ 59 :: rest) x =
      if (h x.user e.2.1 as).2 = -99 then .abort (h x.user e.2.1 as).1
      else exec h rest ⟨.final, e.2.1, [], x.cmdf || (h x.user e.2.1 as).2 != 0,
        (h x.user e.2.1 as).1⟩ := by
  obtain ⟨q, hq⟩ := exec_command_dispatch h e he as rest x hx hm
  rw [hq]
  have hd : ¬ MAX_BUF - 1 < as.length := by omega
  simp only [dispatch, if_neg hd]
  by_cases hpr : (h x.user e.2.1 as).2 = -99
  · simp only [if_pos hpr]
  · simp only [if_neg hpr]

/-- An argument too long for the buffer ends the run before it is dispatched. -/
theorem exec_command_long (e : List UInt8 × IfchdState × ArgKind) (he : e ∈ commands)
    (as rest : List UInt8) (x : Exec σ) (hx : x.pos.between = true) (hm : e.2.2.Matches as)
    (hlen : MAX_BUF - 1 < as.length) : exec h (e.1 ++ as ++ 59 :: rest) x = .abort x.user := by
  obtain ⟨q, hq⟩ := exec_command_dispatch h e he as rest x hx hm
  rw [hq]
  simp only [dispatch, if_pos hlen]

end

/-! ## What every run keeps -/

section
variable {σ : Type} (h : σ → IfchdState → List UInt8 → σ × Int) (R : σ → σ → Prop)
  (hrefl : ∀ u, R u u) (hh : ∀ u st as, R u (h u st as).1)
include hrefl hh

theorem argStep_related (k : ArgKind) (q : ArgPos) (x : Exec σ) (c : UInt8) :
    R x.user (argStep h k q x c).user := by
  unfold argStep
  split
  · unfold dispatch
    split
    · exact hrefl _
    · have hu := hh x.user x.state x.arg
      by_cases hpr : (h x.user x.state x.arg).2 = -99
      · simpa only [if_pos hpr, Moved.user] using hu
      · simpa only [if_neg hpr, Moved.user] using hu
  · split <;> exact hrefl _

theorem stepByte_related (x : Exec σ) (c : UInt8) : R x.user (stepByte h x c).user := by
  unfold stepByte
  split
  · split <;> exact hrefl _
  · split <;> exact hrefl _
  · split <;> exact hrefl _
  · next st k _ => exact argStep_related h R hrefl hh k k.start { x with state := st, arg := [] } c
  · next k q _ => exact argStep_related h R hrefl hh k q x c

/-- What every dispatch keeps, a whole run keeps. -/
theorem exec_related (htrans : ∀ u v w, R u v → R v w → R u w) (text : List UInt8) (x : Exec σ) :
    R x.user (exec h text x).user := by
  induction text generalizing x with
  | nil => exact hrefl _
  | cons c cs ih =>
    have hs := stepByte_related h R hrefl hh x c
    unfold exec
    split
    · next x' hx' =>
      rw [hx'] at hs
      exact htrans _ _ _ hs (ih x')
    · next x' hx' =>
      rw [hx'] at hs
      exact hs
    · next u hu =>
      rw [hu] at hs
      exact hs

end

/-! ## Two runs over one text -/

section
variable {σ ρ : Type} (h : σ → IfchdState → List UInt8 → σ × Int)
  (g : ρ → IfchdState → List UInt8 → ρ × Int) (R : σ → ρ → Prop)

/-- Runs at the same place of the grammar, on related states. -/
def ExecRel (x : Exec σ) (y : Exec ρ) : Prop :=
  x.arg = y.arg ∧ R x.user y.user ∧
    (x.pos = y.pos ∧ x.state = y.state ∨ x.pos.between = true ∧ y.pos.between = true)

/-- What a byte does to two such runs. -/
def MovedRel : Moved σ → Moved ρ → Prop
  | .go x, .go y => ExecRel R x y
  | .err x, .err y => R x.user y.user
  | .abort u, .abort v => R u v
  | _, _ => False

variable (hR : ∀ u v st as, R u v → R (h u st as).1 (g v st as).1 ∧
  ((h u st as).2 = -99 ↔ (g v st as).2 = -99))
include hR

theorem argStep_rel (k : ArgKind) (q : ArgPos) (x : Exec σ) (y : Exec ρ) (c : UInt8)
    (hs : x.state = y.state) (ha : x.arg = y.arg) (hu : R x.user y.user) :
    MovedRel R (argStep h k q x c) (argStep g k q y c) := by
  unfold argStep
  split
  · unfold dispatch
    rw [ha]
    split
    · exact hu
    · obtain ⟨h1, h2⟩ := hR _ _ y.state y.arg hu
      simp only [hs]
      by_cases hpr : (h x.user y.state y.arg).2 = -99
      · rw [if_pos hpr, if_pos (h2.1 hpr)]
        exact h1
      · rw [if_neg hpr, if_neg fun h' => hpr (h2.2 h')]
        exact ⟨rfl, h1, Or.inl ⟨rfl, rfl⟩⟩
  · split
    · exact ⟨by simp only [ha], hu, Or.inl ⟨rfl, hs⟩⟩
    · exact hu

theorem stepByte_rel (x : Exec σ) (y : Exec ρ) (c : UInt8) (hxy : ExecRel R x y) :
    MovedRel R (stepByte h x c) (stepByte g y c) := by
  obtain ⟨ha, hu, hpos⟩ := hxy
  have between : x.pos.between = true → y.pos.between = true →
      MovedRel R (stepByte h x c) (stepByte g y c) := by
    intro hx hy
    have hstep {ζ : Type} (f : ζ → IfchdState → List UInt8 → ζ × Int) (z : Exec ζ)
        (hz : z.pos.between = true) : stepByte f z c =
          match wordPos [c] with
          | some p => .go { z with pos := p, state := .nothing }
          | none => .err z := by
      unfold stepByte
      cases hp : z.pos <;> simp [hp, Pos.between] at hz ⊢
    rw [hstep h x hx, hstep g y hy]
    split
    · exact ⟨ha, hu, Or.inl ⟨rfl, rfl⟩⟩
    · exact hu
  rcases hpos with ⟨hp, hs⟩ | ⟨hx, hy⟩
  · cases hq : y.pos with
    | start => exact between (by rw [hp, hq]; rfl) (by rw [hq]; rfl)
    | final => exact between (by rw [hp, hq]; rfl) (by rw [hq]; rfl)
    | word w =>
      simp only [stepByte, hp, hq]
      split
      · exact ⟨ha, hu, Or.inl ⟨rfl, hs⟩⟩
      · exact hu
    | argStart st k =>
      simp only [stepByte, hp, hq]
      exact argStep_rel h g R hR k k.start _ _ c rfl rfl hu
    | arg k q =>
      simp only [stepByte, hp, hq]
      exact argStep_rel h g R hR k q x y c hs ha hu
  · exact between hx hy

/-- What dispatching the same command keeps related, running the same text does. -/
theorem exec_rel (text : List UInt8) (x : Exec σ) (y : Exec ρ) (hxy : ExecRel R x y) :
    R (exec h text x).user (exec g text y).user := by
  induction text generalizing x y with
  | nil => exact hxy.2.1
  | cons c cs ih =>
    have hs := stepByte_rel h g R hR x y c hxy
    unfold exec
    cases hx : stepByte h x c <;> cases hy : stepByte g y c <;> rw [hx, hy] at hs
    case go.go x' y' => exact ih x' y' hs
    case err.err x' y' => exact hs
    case abort.abort u v => exact hs
    all_goals exact hs.elim

end

end Ndhc
