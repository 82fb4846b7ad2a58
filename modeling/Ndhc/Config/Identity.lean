import Mathlib.Logic.Relation
import Ndhc.Config.ClientId

/-!
# The identity over restarts and crashes

`get_clientid` keeps what it makes up: an IAID for each hardware address and one DUID, in files of the
state directory.  A file that can be opened is trusted, whatever is in it, and one that cannot is
created first and written then.  So an identity never changes once a run has completed.  A run that is
killed between creating a file and the end of its `write`, though, leaves a file that is too short, and
so is the identity of every run after it (`identity_survives_iff`).
-/

namespace Ndhc

open Bytes Relation

/-! ## Files -/

/-- `%2.2x` -/
def hexByte (b : UInt8) : List UInt8 :=
  [b.toNat / 16, b.toNat % 16].map fun n => if n < 10 then (48 + n).toUInt8 else (87 + n).toUInt8

/-- `get_iaid_path`, from the state directory on. -/
def iaidPath (hwaddr : Mac) : List UInt8 := ascii "IAID-" ++ [58].intercalate (hwaddr.bytes.map hexByte)

def duidPath : List UInt8 := ascii "DUID"

/-- The state directory: the content of each file that is there. -/
structure StateDir where
  content : List UInt8 → Option (List UInt8)

namespace StateDir

def empty : StateDir := ⟨fun _ => none⟩

def set (d : StateDir) (file bs : List UInt8) : StateDir := ⟨fun f => if f = file then some bs else d.content f⟩

end StateDir

/-! ## A run -/

/-- Where a run is with one of its files: it goes to open it for reading, to create it, has written
`n` bytes of a new one, or has what it needs. -/
inductive FilePhase where
  | opening
  | creating
  | writing (n : Nat)
  | got (bs : List UInt8)
  deriving DecidableEq

/-- The operations on one file, for which `generated` would be made up.  A `write` may take any part of
what is left; opening and reading, which leave the directory alone, are one. -/
inductive FileStep (file generated : List UInt8) : StateDir × FilePhase → StateDir × FilePhase → Prop
  | read (d : StateDir) (bs : List UInt8) (h : d.content file = some bs) :
      FileStep file generated (d, .opening) (d, .got (bs.take clientidSize))
  | absent (d : StateDir) (h : d.content file = none) : FileStep file generated (d, .opening) (d, .creating)
  | create (d : StateDir) : FileStep file generated (d, .creating) (d.set file [], .writing 0)
  | write (d : StateDir) (n k : Nat) (hk : 0 < k) (hle : n + k ≤ generated.length) :
      FileStep file generated (d, .writing n) (d.set file (generated.take (n + k)), .writing (n + k))
  | written (d : StateDir) : FileStep file generated (d, .writing generated.length) (d, .got generated)

/-- Where a run of `get_clientid` is. -/
inductive IdPhase where
  | iaid (f : FilePhase)
  | duid (iaid : List UInt8) (f : FilePhase)
  | complete (clientid : List UInt8)
  deriving DecidableEq

/-- `get_clientid` where no client id is configured, step by step. -/
inductive IdStep (hwaddr : Mac) (w : IdWorld) : StateDir × IdPhase → StateDir × IdPhase → Prop
  | iaid (d d' : StateDir) (f f' : FilePhase) (h : FileStep (iaidPath hwaddr) w.generateIaid (d, f) (d', f')) :
      IdStep hwaddr w (d, .iaid f) (d', .iaid f')
  | next (d : StateDir) (iaid : List UInt8) : IdStep hwaddr w (d, .iaid (.got iaid)) (d, .duid iaid .opening)
  | duid (d d' : StateDir) (iaid : List UInt8) (f f' : FilePhase)
      (h : FileStep duidPath w.generateDuid (d, f) (d', f')) : IdStep hwaddr w (d, .duid iaid f) (d', .duid iaid f')
  | complete (d : StateDir) (iaid duid : List UInt8) (h : 1 + iaid.length + duid.length ≤ clientidSize) :
      IdStep hwaddr w (d, .duid iaid (.got duid)) (d, .complete (255 :: iaid ++ duid))

/-- A run from `d` on that has got to `s`; killed there, it leaves its directory. -/
def Runs (hwaddr : Mac) (w : IdWorld) (d : StateDir) (s : StateDir × IdPhase) : Prop :=
  ReflTransGen (IdStep hwaddr w) (d, .iaid .opening) s

/-- A run that completes. -/
def Completes (hwaddr : Mac) (w : IdWorld) (d d' : StateDir) (clientid : List UInt8) : Prop :=
  Runs hwaddr w d (d', .complete clientid)

/-- One run after another, on any hardware addresses, each to its end or killed at some point. -/
inductive RunsAfter : StateDir → StateDir → Prop
  | refl (d : StateDir) : RunsAfter d d
  | run (d d' : StateDir) (s : StateDir × IdPhase) (hwaddr : Mac) (w : IdWorld) (h : RunsAfter d d')
      (hrun : Runs hwaddr w d' s) : RunsAfter d s.1

/-! ## Statement -/

/-- Two runs that complete, the second one any number of runs after the first, give one client id: the
type byte, an IAID of four bytes and a DUID of 18. -/
def IdentitySurvives (d : StateDir) (hwaddr : Mac) : Prop :=
  ∀ w w' d1 d2 d3 id id', Completes hwaddr w d d1 id → RunsAfter d1 d2 → Completes hwaddr w' d2 d3 id' →
    id = id' ∧ ∃ iaid duid, iaid.length = 4 ∧ duid.length = 18 ∧ id = 255 :: iaid ++ duid

/-- Neither of the two files is there with a part of its content only. -/
structure Whole (d : StateDir) (hwaddr : Mac) : Prop where
  iaid : ∀ bs, d.content (iaidPath hwaddr) = some bs → bs.length = 4
  duid : ∀ bs, d.content duidPath = some bs → bs.length = 18

/-! ## One file -/

theorem iaidPath_ne_duidPath (hwaddr : Mac) : iaidPath hwaddr ≠ duidPath := by
  intro h
  have hhead : some (73 : UInt8) = some 68 := congrArg List.head? h
  exact absurd hhead (by decide)

theorem length_generateIaid (w : IdWorld) : w.generateIaid.length = 4 := by
  rw [IdWorld.generateIaid, w.endian.length_order, length_htonl]

theorem length_generateDuid (w : IdWorld) : w.generateDuid.length = 18 := by
  simp [IdWorld.generateDuid, List.range_succ, htons, w.endian.length_order, length_htonl]

namespace StateDir

theorem set_self (d : StateDir) (file bs : List UInt8) : (d.set file bs).content file = some bs := if_pos rfl

theorem set_of_ne (d : StateDir) (file bs f : List UInt8) (h : f ≠ file) : (d.set file bs).content f = d.content f :=
  if_neg h

theorem content_set (d : StateDir) (file bs f : List UInt8) :
    (d.set file bs).content f = d.content f ∨ f = file ∧ (d.set file bs).content f = some bs := by
  by_cases hf : f = file
  · rw [hf]
    exact .inr ⟨rfl, d.set_self file bs⟩
  · exact .inl (d.set_of_ne file bs f hf)

theorem set_set (d : StateDir) (file bs bs' : List UInt8) : (d.set file bs).set file bs' = d.set file bs' := by
  unfold set
  congr 1
  funext f
  dsimp only
  split <;> rfl

end StateDir

/-- Where the operations on a file can have got to, and what they have done. -/
def FileReached (file generated : List UInt8) (d : StateDir) : StateDir × FilePhase → Prop
  | (d', .opening) => d' = d
  | (d', .creating) => d.content file = none ∧ d' = d
  | (d', .writing n) => d.content file = none ∧ n ≤ generated.length ∧ d' = d.set file (generated.take n)
  | (d', .got bs) => (∃ c, d.content file = some c ∧ d' = d ∧ bs = c.take clientidSize) ∨
      d.content file = none ∧ d' = d.set file generated ∧ bs = generated

theorem FileReached.step {file generated : List UInt8} {d : StateDir} {s s' : StateDir × FilePhase}
    (h : FileReached file generated d s) (hs : FileStep file generated s s') : FileReached file generated d s' := by
  cases hs with
  | read d' bs hbs =>
    obtain rfl : d' = d := h
    exact .inl ⟨bs, hbs, rfl, rfl⟩
  | absent d' hnone =>
    obtain rfl : d' = d := h
    exact ⟨hnone, rfl⟩
  | create d' =>
    obtain ⟨hnone, rfl⟩ := h
    exact ⟨hnone, Nat.zero_le _, rfl⟩
  | write d' n k hk hle =>
    obtain ⟨hnone, -, rfl⟩ := h
    exact ⟨hnone, hle, StateDir.set_set d file _ _⟩
  | written d' =>
    obtain ⟨hnone, -, rfl⟩ := h
    exact .inr ⟨hnone, by rw [List.take_length], rfl⟩

/-- A file that is there is never touched, and no other is. -/
theorem FileReached.keeps {file generated : List UInt8} {d : StateDir} {s : StateDir × FilePhase}
    (h : FileReached file generated d s) (f c : List UInt8) (hc : d.content f = some c) : s.1.content f = some c := by
  have hset (hnone : d.content file = none) (bs : List UInt8) : (d.set file bs).content f = some c := by
    have hne : f ≠ file := by
      rintro rfl
      rw [hnone] at hc
      cases hc
    rw [StateDir.set_of_ne d file bs f hne, hc]
  obtain ⟨d', f⟩ := s
  cases f with
  | opening =>
    obtain rfl : d' = d := h
    exact hc
  | creating =>
    obtain ⟨-, rfl⟩ := h
    exact hc
  | writing n =>
    obtain ⟨hnone, -, rfl⟩ := h
    exact hset hnone _
  | got bs =>
    rcases h with ⟨-, -, rfl, -⟩ | ⟨hnone, rfl, -⟩
    · exact hc
    · exact hset hnone _

/-- What is in a file was there before or has been written. -/
theorem FileReached.content {file generated : List UInt8} {d d' : StateDir} {p : FilePhase}
    (h : FileReached file generated d (d', p)) (P : List UInt8 → Prop) (hgen : P generated)
    (hwriting : ∀ n, p = .writing n → P (generated.take n)) (f : List UInt8) :
    d'.content f = d.content f ∨ f = file ∧ ∃ bs, d'.content f = some bs ∧ P bs := by
  cases p with
  | opening =>
    obtain rfl : d' = d := h
    exact .inl rfl
  | creating =>
    obtain ⟨-, rfl⟩ := h
    exact .inl rfl
  | writing n =>
    obtain ⟨-, -, rfl⟩ := h
    exact (d.content_set file _ f).imp_right fun ⟨hf, heq⟩ => ⟨hf, _, heq, hwriting n rfl⟩
  | got bs =>
    rcases h with ⟨-, -, rfl, -⟩ | ⟨-, rfl, -⟩
    · exact .inl rfl
    · exact (d.content_set file generated f).imp_right fun ⟨hf, heq⟩ => ⟨hf, _, heq, hgen⟩

/-- With what it needed from a file, a run leaves it there; a new one is whole. -/
theorem FileReached.got {file generated bs : List UInt8} {d d' : StateDir}
    (h : FileReached file generated d (d', .got bs)) (hgen : generated.length ≤ clientidSize) :
    ∃ c, d'.content file = some c ∧ bs = c.take clientidSize ∧
      (d.content file = some c ∨ d.content file = none ∧ c = generated) := by
  rcases h with ⟨c, hc, rfl, hbs⟩ | ⟨hnone, rfl, rfl⟩
  · exact ⟨c, hc, hbs, .inl hc⟩
  · exact ⟨bs, d.set_self file bs, (List.take_of_length_le hgen).symm, .inr ⟨hnone, rfl⟩⟩

/-- Nothing but being killed keeps a run from getting it. -/
theorem file_completes (file generated : List UInt8) (d : StateDir) :
    ∃ d' bs, ReflTransGen (FileStep file generated) (d, .opening) (d', .got bs) := by
  cases hd : d.content file with
  | some c => exact ⟨d, _, .single (.read d c hd)⟩
  | none =>
    have hcreated : ReflTransGen (FileStep file generated) (d, .opening) (d.set file [], .writing 0) :=
      (ReflTransGen.single (.absent d hd)).tail (.create d)
    rcases Nat.eq_zero_or_pos generated.length with h0 | hpos
    · have hwritten : FileStep file generated (d.set file [], .writing generated.length) _ := .written _
      rw [h0] at hwritten
      exact ⟨_, generated, hcreated.tail hwritten⟩
    · have hwrite : FileStep file generated _ _ :=
        .write (d.set file []) 0 generated.length hpos (Nat.zero_add _).le
      rw [Nat.zero_add] at hwrite
      exact ⟨_, generated, (hcreated.tail hwrite).tail (.written _)⟩

/-! ## One run -/

section
variable (hwaddr : Mac) (w : IdWorld) (d : StateDir)

/-- Where a run can have got to. -/
def RunReached : StateDir × IdPhase → Prop
  | (d', .iaid f) => FileReached (iaidPath hwaddr) w.generateIaid d (d', f)
  | (d', .duid iaid f) => ∃ d1, FileReached (iaidPath hwaddr) w.generateIaid d (d1, .got iaid) ∧
      FileReached duidPath w.generateDuid d1 (d', f)
  | (d', .complete id) => ∃ d1 iaid duid, FileReached (iaidPath hwaddr) w.generateIaid d (d1, .got iaid) ∧
      FileReached duidPath w.generateDuid d1 (d', .got duid) ∧
      1 + iaid.length + duid.length ≤ clientidSize ∧ id = 255 :: iaid ++ duid

theorem runReached_of_runs (s : StateDir × IdPhase) (h : Runs hwaddr w d s) : RunReached hwaddr w d s := by
  induction h with
  | refl => exact (rfl : d = d)
  | tail _ hstep ih =>
    cases hstep with
    | iaid d' d'' f f' hfile => exact FileReached.step ih hfile
    | next d' iaid => exact ⟨d', ih, rfl⟩
    | duid d' d'' iaid f f' hfile =>
      obtain ⟨d1, hiaid, hduid⟩ := ih
      exact ⟨d1, hiaid, hduid.step hfile⟩
    | complete d' iaid duid hle =>
      obtain ⟨d1, hiaid, hduid⟩ := ih
      exact ⟨d1, iaid, duid, hiaid, hduid, hle, rfl⟩

/-- A run goes over at most two files, one after the other, and is in one of them. -/
theorem RunReached.files {s : StateDir × IdPhase} (h : RunReached hwaddr w d s) :
    ∃ d1 f f', FileReached (iaidPath hwaddr) w.generateIaid d (d1, f) ∧
      FileReached duidPath w.generateDuid d1 (s.1, f') ∧
      (∀ n, f = .writing n → s.2 = .iaid (.writing n)) ∧
      (∀ n, f' = .writing n → ∃ iaid, s.2 = .duid iaid (.writing n)) := by
  obtain ⟨d', p⟩ := s
  cases p with
  | iaid f => exact ⟨d', f, .opening, h, rfl, fun n hf => (by rw [hf]), fun n hf => (by cases hf)⟩
  | duid iaid f =>
    obtain ⟨d1, hiaid, hduid⟩ := h
    exact ⟨d1, .got iaid, f, hiaid, hduid, fun n hf => (by cases hf), fun n hf => ⟨iaid, by rw [hf]⟩⟩
  | complete id =>
    obtain ⟨d1, iaid, duid, hiaid, hduid, -⟩ := h
    exact ⟨d1, .got iaid, .got duid, hiaid, hduid, fun n hf => (by cases hf), fun n hf => (by cases hf)⟩

end

theorem FileReached.content_duid {hwaddr : Mac} {generated : List UInt8} {d d' : StateDir} {p : FilePhase}
    (h : FileReached (iaidPath hwaddr) generated d (d', p)) : d'.content duidPath = d.content duidPath := by
  rcases h.content (fun _ => True) trivial (fun _ _ => trivial) duidPath with heq | ⟨heq, -⟩
  · exact heq
  · exact absurd heq.symm (iaidPath_ne_duidPath hwaddr)

/-- **No run changes a file that is there.** -/
theorem Runs.keeps {hwaddr : Mac} {w : IdWorld} {d : StateDir} {s : StateDir × IdPhase} (h : Runs hwaddr w d s)
    (f c : List UInt8) (hc : d.content f = some c) : s.1.content f = some c := by
  obtain ⟨d1, _, _, hiaid, hduid, -, -⟩ := (runReached_of_runs hwaddr w d s h).files
  exact hduid.keeps f c (hiaid.keeps f c hc)

theorem RunsAfter.keeps {d d' : StateDir} (h : RunsAfter d d') (f c : List UInt8) (hc : d.content f = some c) :
    d'.content f = some c := by
  induction h with
  | refl => exact hc
  | run d' s hwaddr w _ hrun ih => exact hrun.keeps f c ih

/-- A run that completes has both files, new ones whole, and its id is what they say. -/
theorem Completes.files {hwaddr : Mac} {w : IdWorld} {d d' : StateDir} {id : List UInt8}
    (h : Completes hwaddr w d d' id) :
    ∃ iaid duid, d'.content (iaidPath hwaddr) = some iaid ∧ d'.content duidPath = some duid ∧
      id = 255 :: iaid.take clientidSize ++ duid.take clientidSize ∧
      (d.content (iaidPath hwaddr) = some iaid ∨ d.content (iaidPath hwaddr) = none ∧ iaid.length = 4) ∧
      (d.content duidPath = some duid ∨ d.content duidPath = none ∧ duid.length = 18) := by
  obtain ⟨d1, _, _, hiaid, hduid, -, rfl⟩ := runReached_of_runs hwaddr w d _ h
  have hg1 := length_generateIaid w
  have hg2 := length_generateDuid w
  have hsize : clientidSize = 64 := rfl
  obtain ⟨iaid, hc1, rfl, hold1⟩ := hiaid.got (by omega)
  obtain ⟨duid, hc2, rfl, hold2⟩ := hduid.got (by omega)
  -- what was done to the one file left the other alone
  rw [hiaid.content_duid] at hold2
  refine ⟨iaid, duid, hduid.keeps _ _ hc1, hc2, rfl, ?_, ?_⟩
  · exact hold1.imp_right fun ⟨hnone, heq⟩ => ⟨hnone, by rw [heq, hg1]⟩
  · exact hold2.imp_right fun ⟨hnone, heq⟩ => ⟨hnone, by rw [heq, hg2]⟩

/-- **An identity does not change.** -/
theorem identity_same (hwaddr : Mac) (w w' : IdWorld) (d d1 d2 d3 : StateDir) (id id' : List UInt8)
    (h : Completes hwaddr w d d1 id) (hbetween : RunsAfter d1 d2) (h' : Completes hwaddr w' d2 d3 id') : id = id' := by
  obtain ⟨iaid, duid, hiaid, hduid, rfl, -, -⟩ := h.files
  obtain ⟨iaid', duid', hiaid', hduid', rfl, -, -⟩ := h'.files
  have heq : some iaid = some iaid' := by
    rw [← hiaid', Runs.keeps h' _ _ (hbetween.keeps _ _ hiaid)]
  have heq' : some duid = some duid' := by
    rw [← hduid', Runs.keeps h' _ _ (hbetween.keeps _ _ hduid)]
  cases heq
  cases heq'
  rfl

/-! ## The same as one function -/

/-- What `get_clientid` finds of a file. -/
def idFileOf : Option (List UInt8) → IdFile
  | some bs => .content bs
  | none => .absent

def worldOf (d : StateDir) (hwaddr : Mac) (w : IdWorld) : IdWorld :=
  { w with iaidFile := idFileOf (d.content (iaidPath hwaddr)), duidFile := idFileOf (d.content duidPath) }

theorem FileReached.get {file generated bs : List UInt8} {d d' : StateDir}
    (h : FileReached file generated d (d', .got bs)) : IdWorld.get (idFileOf (d.content file)) generated = some bs := by
  rcases h with ⟨c, hc, -, rfl⟩ | ⟨hnone, -, rfl⟩
  · rw [hc]
    rfl
  · rw [hnone]
    rfl

/-- A run that completes gives the client id of `getClientid`. -/
theorem Completes.getClientid {hwaddr : Mac} {w : IdWorld} {d d' : StateDir} {id : List UInt8}
    (h : Completes hwaddr w d d' id) :
    ∃ c, Ndhc.getClientid (worldOf d hwaddr w) .initial = some c ∧ c.used = id := by
  obtain ⟨d1, iaid, duid, hiaid, hduid, hle, rfl⟩ := runReached_of_runs hwaddr w d _ h
  have hget : (worldOf d hwaddr w).iaid = some iaid := hiaid.get
  have hget' : (worldOf d hwaddr w).duid = some duid := by
    rw [← hduid.get, hiaid.content_duid]
    rfl
  obtain ⟨c, hc⟩ : ∃ c, Ndhc.getClientid (worldOf d hwaddr w) .initial = some c := by
    unfold Ndhc.getClientid
    rw [if_neg (by decide), hget, hget']
    exact ⟨_, dif_pos hle⟩
  refine ⟨c, hc, ?_⟩
  have hmeant := (getClientid_generated (worldOf d hwaddr w) [] .initial c rfl hc).meant
  generalize c.used = used at hmeant
  cases hmeant with
  | string s hs => cases hs
  | hwaddr s hs => cases hs
  | generated iaid' duid' hi hd =>
    rw [hget] at hi
    rw [hget'] at hd
    cases hi
    cases hd
    rfl

/-! ## Files left short -/

/-- No file is longer than what is made up for it. -/
structure Short (d : StateDir) : Prop where
  iaid : ∀ hwaddr bs, d.content (iaidPath hwaddr) = some bs → bs.length ≤ 4
  duid : ∀ bs, d.content duidPath = some bs → bs.length ≤ 18

theorem short_empty : Short .empty where
  iaid := fun _ _ h => by cases h
  duid := fun _ h => by cases h

/-- What holds of a file that is there, and of all that a run may leave in a new one, holds of what is
there after it. -/
theorem Runs.contents {hwaddr' : Mac} {w : IdWorld} {d : StateDir} {s : StateDir × IdPhase} (h : Runs hwaddr' w d s)
    (P Q : List UInt8 → Prop) (hP : P w.generateIaid) (hQ : Q w.generateDuid)
    (hiaid : ∀ n, s.2 = .iaid (.writing n) → P (w.generateIaid.take n))
    (hduid : ∀ iaid n, s.2 = .duid iaid (.writing n) → Q (w.generateDuid.take n)) :
    (∀ hwaddr, (∀ bs, d.content (iaidPath hwaddr) = some bs → P bs) →
      ∀ bs, s.1.content (iaidPath hwaddr) = some bs → P bs) ∧
    ((∀ bs, d.content duidPath = some bs → Q bs) → ∀ bs, s.1.content duidPath = some bs → Q bs) := by
  obtain ⟨d1, f, f', hr, hr', hf, hf'⟩ := (runReached_of_runs hwaddr' w d s h).files
  have hcontent := hr.content P hP fun n hn => hiaid n (hf n hn)
  have hcontent' := hr'.content Q hQ fun n hn => by
    obtain ⟨iaid, heq⟩ := hf' n hn
    exact hduid iaid n heq
  constructor
  · intro hwaddr hd bs hbs
    rcases hcontent' (iaidPath hwaddr) with heq | ⟨heq, -⟩
    · rw [heq] at hbs
      rcases hcontent (iaidPath hwaddr) with heq | ⟨-, bs', heq, hbs'⟩
      · exact hd bs (heq ▸ hbs)
      · rw [heq] at hbs
        cases hbs
        exact hbs'
    · exact absurd heq (iaidPath_ne_duidPath hwaddr)
  · intro hd bs hbs
    rcases hcontent' duidPath with heq | ⟨-, bs', heq, hbs'⟩
    · rw [heq, hr.content_duid] at hbs
      exact hd bs hbs
    · rw [heq] at hbs
      cases hbs
      exact hbs'

theorem Runs.short {hwaddr : Mac} {w : IdWorld} {d : StateDir} {s : StateDir × IdPhase} (h : Runs hwaddr w d s)
    (hd : Short d) : Short s.1 := by
  have hg1 := length_generateIaid w
  have hg2 := length_generateDuid w
  obtain ⟨hiaid, hduid⟩ := h.contents (·.length ≤ 4) (·.length ≤ 18) hg1.le hg2.le
    (fun n _ => hg1 ▸ List.length_take_le' n _) (fun _ n _ => hg2 ▸ List.length_take_le' n _)
  exact ⟨fun hwaddr' => hiaid hwaddr' (hd.iaid hwaddr'), hduid hd.duid⟩

theorem RunsAfter.short {d d' : StateDir} (h : RunsAfter d d') (hd : Short d) : Short d' := by
  induction h with
  | refl => exact hd
  | run d' s hwaddr w _ hrun ih => exact hrun.short ih

/-- From such a directory a run completes if nothing kills it. -/
theorem exists_completes (hwaddr : Mac) (w : IdWorld) (d : StateDir) (hd : Short d) :
    ∃ d' id, Completes hwaddr w d d' id := by
  obtain ⟨d1, iaid, hfile⟩ := file_completes (iaidPath hwaddr) w.generateIaid d
  obtain ⟨d2, duid, hfile'⟩ := file_completes duidPath w.generateDuid d1
  have hiaid : Runs hwaddr w d (d1, .iaid (.got iaid)) :=
    ReflTransGen.lift (fun s : StateDir × FilePhase => (s.1, IdPhase.iaid s.2))
      (fun s s' h => IdStep.iaid s.1 s'.1 s.2 s'.2 h) _ _ hfile
  have hduid : ReflTransGen (IdStep hwaddr w) (d1, .duid iaid .opening) (d2, .duid iaid (.got duid)) :=
    ReflTransGen.lift (fun s : StateDir × FilePhase => (s.1, IdPhase.duid iaid s.2))
      (fun s s' h => IdStep.duid s.1 s'.1 iaid s.2 s'.2 h) _ _ hfile'
  have hrun : Runs hwaddr w d (d2, .duid iaid (.got duid)) := (hiaid.tail (.next d1 iaid)).trans hduid
  have hshort := hrun.short hd
  obtain ⟨d1', hr, hr'⟩ := runReached_of_runs hwaddr w d _ hrun
  have hg1 := length_generateIaid w
  have hg2 := length_generateDuid w
  have hsize : clientidSize = 64 := rfl
  obtain ⟨c, hc, rfl, -⟩ := hr.got (by omega)
  obtain ⟨c', hc', rfl, -⟩ := hr'.got (by omega)
  have hl1 := hshort.iaid hwaddr c (hr'.keeps _ _ hc)
  have hl2 := hshort.duid c' hc'
  refine ⟨d2, _, hrun.tail (.complete d2 _ _ ?_)⟩
  rw [List.length_take, List.length_take]
  omega

/-- Only a run killed while it writes leaves a file short. -/
theorem Runs.whole {hwaddr hwaddr' : Mac} {w : IdWorld} {d : StateDir} {s : StateDir × IdPhase}
    (h : Runs hwaddr' w d s) (hd : Whole d hwaddr) (hiaid : ∀ n < 4, s.2 ≠ .iaid (.writing n))
    (hduid : ∀ iaid, ∀ n < 18, s.2 ≠ .duid iaid (.writing n)) : Whole s.1 hwaddr := by
  have hg1 := length_generateIaid w
  have hg2 := length_generateDuid w
  have hn (n : Nat) (heq : s.2 = .iaid (.writing n)) : (w.generateIaid.take n).length = 4 := by
    have hle : 4 ≤ n := Nat.le_of_not_lt fun hlt => hiaid n hlt heq
    rw [List.length_take, hg1, Nat.min_eq_right hle]
  have hn' (iaid : List UInt8) (n : Nat) (heq : s.2 = .duid iaid (.writing n)) :
      (w.generateDuid.take n).length = 18 := by
    have hle : 18 ≤ n := Nat.le_of_not_lt fun hlt => hduid iaid n hlt heq
    rw [List.length_take, hg2, Nat.min_eq_right hle]
  obtain ⟨hwhole, hwhole'⟩ := h.contents (·.length = 4) (·.length = 18) hg1 hg2 hn hn'
  exact ⟨hwhole hwaddr hd.iaid, hwhole' hd.duid⟩

/-! ## Main result -/

def freshIds : IdWorld := ⟨.absent, .absent, .little, 0, fun _ => 0⟩

/-- **The identity survives exactly if no file was left short.**  From every directory that runs have
left, each of which may have been killed at any point, two runs that complete on one hardware address
give the same client id, of a type byte, an IAID and a DUID of their full lengths, if and only if the
IAID file of that address and the DUID file are each missing or whole. -/
theorem identity_survives_iff (d : StateDir) (h : RunsAfter .empty d) (hwaddr : Mac) :
    IdentitySurvives d hwaddr ↔ Whole d hwaddr := by
  have hshort := h.short short_empty
  have hsize : clientidSize = 64 := rfl
  constructor
  · intro hsurvives
    obtain ⟨d1, id, hrun⟩ := exists_completes hwaddr freshIds d hshort
    have hshort1 := Runs.short hrun hshort
    obtain ⟨d2, id', hrun'⟩ := exists_completes hwaddr freshIds d1 hshort1
    obtain ⟨-, iaid, duid, hl, hl', hid⟩ := hsurvives _ _ d1 d1 d2 id id' hrun (.refl d1) hrun'
    obtain ⟨x, y, hx, hy, hxy, -, -⟩ := hrun.files
    have hx4 := hshort1.iaid hwaddr x hx
    have hy18 := hshort1.duid y hy
    -- neither is longer than it should be, so together they have their lengths only if each does
    have hsum := congrArg List.length (hxy.symm.trans hid)
    simp only [List.length_append, List.length_cons, List.length_take] at hsum
    constructor
    · intro bs hbs
      have heq := Runs.keeps hrun _ _ hbs
      rw [hx] at heq
      cases heq
      omega
    · intro bs hbs
      have heq := Runs.keeps hrun _ _ hbs
      rw [hy] at heq
      cases heq
      omega
  · intro hwhole w w' d1 d2 d3 id id' hrun hbetween hrun'
    refine ⟨identity_same hwaddr w w' d d1 d2 d3 id id' hrun hbetween hrun', ?_⟩
    obtain ⟨x, y, hx, hy, rfl, hold, hold'⟩ := hrun.files
    have hx4 : x.length = 4 := by
      rcases hold with hc | ⟨-, hc⟩
      · exact hwhole.iaid x hc
      · exact hc
    have hy18 : y.length = 18 := by
      rcases hold' with hc | ⟨-, hc⟩
      · exact hwhole.duid y hc
      · exact hc
    refine ⟨x, y, hx4, hy18, ?_⟩
    rw [List.take_of_length_le (by omega), List.take_of_length_le (by omega)]

def someHwaddr : Mac := ⟨[2, 0, 0, 0, 0, 7], rfl⟩

theorem fresh_identity_survives : IdentitySurvives .empty someHwaddr := by
  refine (identity_survives_iff .empty (.refl _) someHwaddr).2 ⟨?_, ?_⟩
  · intro bs hbs
    cases hbs
  · intro bs hbs
    cases hbs

/-- What a first run leaves that is killed when it has created the IAID file. -/
def createdOnly : StateDir := StateDir.empty.set (iaidPath someHwaddr) []

/-- The runs after it have no IAID: the type byte is followed by the DUID. -/
theorem killed_run_leaves_no_iaid :
    RunsAfter .empty createdOnly ∧
    Completes someHwaddr freshIds createdOnly (createdOnly.set duidPath freshIds.generateDuid)
      (255 :: freshIds.generateDuid) ∧
    ¬ IdentitySurvives createdOnly someHwaddr := by
  have hkilled : Runs someHwaddr freshIds .empty (createdOnly, .iaid (.writing 0)) :=
    (ReflTransGen.single (.iaid _ _ _ _ (.absent _ rfl))).tail (.iaid _ _ _ _ (.create _))
  have hafter : RunsAfter .empty createdOnly := .run _ _ _ _ _ (.refl _) hkilled
  have hnone : createdOnly.content duidPath = none :=
    StateDir.empty.set_of_ne _ _ _ (iaidPath_ne_duidPath someHwaddr).symm
  have hiaid : Runs someHwaddr freshIds createdOnly (createdOnly, .duid [] .opening) :=
    (ReflTransGen.single (.iaid _ _ _ _ (.read _ [] (StateDir.empty.set_self _ [])))).tail (.next _ _)
  have hcreated : Runs someHwaddr freshIds createdOnly (createdOnly.set duidPath [], .duid [] (.writing 0)) :=
    (hiaid.tail (.duid _ _ _ _ _ (.absent _ hnone))).tail (.duid _ _ _ _ _ (.create _))
  have hwritten := hcreated.tail (.duid _ _ _ _ _ (.write _ 0 18 (by decide) (by decide)))
  rw [StateDir.set_set] at hwritten
  have hrun : Completes someHwaddr freshIds createdOnly (createdOnly.set duidPath freshIds.generateDuid)
      (255 :: freshIds.generateDuid) :=
    (hwritten.tail (.duid _ _ _ _ _ (.written _))).tail (.complete _ _ _ (by decide))
  refine ⟨hafter, hrun, fun h => ?_⟩
  obtain ⟨d, id, hrun'⟩ := exists_completes someHwaddr freshIds _ (Runs.short hrun (hafter.short short_empty))
  obtain ⟨-, iaid, duid, hl, hl', heq⟩ := h _ _ _ _ _ _ _ hrun (.refl _) hrun'
  have hsum := congrArg List.length heq
  rw [List.length_cons, length_generateDuid, List.length_append, List.length_cons] at hsum
  omega

end Ndhc
