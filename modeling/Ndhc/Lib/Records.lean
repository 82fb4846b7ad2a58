import Mathlib.Algebra.Group.Nat.Defs
import Mathlib.Tactic.Common

/-!
# Walks over records

Records stand one behind the other in memory, each beginning with a header that says how long it is.
A walk keeps its place and an unsigned count of the bytes left, and goes on by the rounded length of
the record it is at.  Where that is more than what is left the count wraps around and limits the walk
no longer: from there on it stops only at a record that says to (`Stray`).  `inside_iff_fits`: a walk
ends with all it looked at inside of the bytes given to it exactly if it `Fits`, which is told
without the counter.
-/

namespace Records

/-- How records lie in memory: the size of a header, the length that a record says, what the walk
moves by, and the records it ends at. -/
structure Layout where
  hdr : Nat
  len : Nat → Nat
  skip : Nat → Nat
  stop : Nat → Bool

/-- A place and the bytes left, less than `2 ^ w`. -/
@[ext] structure Cursor where
  pos : Nat
  left : Nat

section
variable (w : Nat) (L : Layout)

/-- The record is there as far as the bytes left tell. -/
def ok (c : Cursor) : Prop := L.hdr ≤ c.left ∧ L.hdr ≤ L.len c.pos ∧ L.len c.pos ≤ c.left

instance (c : Cursor) : Decidable (ok L c) := inferInstanceAs (Decidable (_ ∧ _ ∧ _))

def next (c : Cursor) : Cursor := ⟨c.pos + L.skip c.pos, (2 ^ w + c.left - L.skip c.pos) % 2 ^ w⟩

/-- One iteration; `none` at the end of the walk. -/
def step (c : Cursor) : Option Cursor := if ok L c ∧ L.stop c.pos = false then some (next w L c) else none

def steps : Nat → Cursor → Option Cursor
  | 0, c => some c
  | k + 1, c => (step w L c).bind (steps k)

/-- The headers looked at and the records found there end before `n`. -/
def Inside (n : Nat) (c : Cursor) : Prop :=
  ∀ k d, steps w L k c = some d →
    (L.hdr ≤ d.left → d.pos + L.hdr ≤ n) ∧ (ok L d → d.pos + L.len d.pos ≤ n)

def EndsBy (b : Nat) (c : Cursor) : Prop := ∃ k ≤ b, ∃ d, steps w L k c = some d ∧ step w L d = none

/-- The walk visits the records at these places, and ends. -/
inductive Visits : Cursor → List Nat → Prop
  | done (c : Cursor) (hend : ¬ ok L c) : Visits c []
  | stop (c : Cursor) (hok : ok L c) (hstop : L.stop c.pos = true) : Visits c [c.pos]
  | next (c : Cursor) (ps : List Nat) (hok : ok L c) (hstop : L.stop c.pos = false)
      (hrest : Visits (next w L c) ps) : Visits c (c.pos :: ps)

end

/-! ## Without the counter -/

section
variable (L : Layout) (n : Nat)

/-- A walk that nothing limits stops in time. -/
inductive Stray : Nat → Prop
  | short (pos : Nat) (hin : pos + L.hdr ≤ n) (hlen : L.len pos < L.hdr) : Stray pos
  | stop (pos : Nat) (hin : pos + L.hdr ≤ n) (hrec : pos + L.len pos ≤ n) (hstop : L.stop pos = true) :
      Stray pos
  | next (pos : Nat) (hin : pos + L.hdr ≤ n) (hlen : L.hdr ≤ L.len pos) (hrec : pos + L.len pos ≤ n)
      (hstop : L.stop pos = false) (hskip : 0 < L.skip pos) (hrest : Stray (pos + L.skip pos)) : Stray pos

/-- A walk with `left` bytes: each record it goes past is no longer than them when rounded, or the walk
stops in time from there on. -/
inductive Fits : Nat → Nat → Prop
  | done (pos left : Nat) (hdone : ok L ⟨pos, left⟩ → L.stop pos = true) : Fits pos left
  | next (pos left : Nat) (hok : ok L ⟨pos, left⟩) (hstop : L.stop pos = false) (hskip : 0 < L.skip pos)
      (hle : L.skip pos ≤ left) (hrest : Fits (pos + L.skip pos) (left - L.skip pos)) : Fits pos left
  | stray (pos left : Nat) (hok : ok L ⟨pos, left⟩) (hstop : L.stop pos = false)
      (hlt : left < L.skip pos) (hrest : Stray L n (pos + L.skip pos)) : Fits pos left

end

/-! ## Steps -/

section
variable {w : Nat} {L : Layout}

theorem step_eq_none_iff (c : Cursor) : step w L c = none ↔ (ok L c → L.stop c.pos = true) := by
  unfold step
  by_cases hok : ok L c
  · cases L.stop c.pos <;> simp [hok]
  · simp [hok]

theorem step_eq_some_iff (c d : Cursor) :
    step w L c = some d ↔ ok L c ∧ L.stop c.pos = false ∧ d = next w L c := by
  unfold step
  by_cases h : ok L c ∧ L.stop c.pos = false
  · simp [h, eq_comm]
  · rw [if_neg h]
    constructor
    · intro h'
      cases h'
    · rintro ⟨hok, hstop, -⟩
      exact absurd ⟨hok, hstop⟩ h

/-- What is left does not wrap. -/
theorem next_of_le (c : Cursor) (hleft : c.left < 2 ^ w) (h : L.skip c.pos ≤ c.left) :
    next w L c = ⟨c.pos + L.skip c.pos, c.left - L.skip c.pos⟩ := by
  have hsub : 2 ^ w + c.left - L.skip c.pos = 2 ^ w + (c.left - L.skip c.pos) := by omega
  rw [next, hsub, Nat.add_mod_left, Nat.mod_eq_of_lt (by omega)]

/-- What is left wraps. -/
theorem next_of_lt (c : Cursor) (h : c.left < L.skip c.pos) (hskip : L.skip c.pos ≤ 2 ^ w) :
    next w L c = ⟨c.pos + L.skip c.pos, 2 ^ w + c.left - L.skip c.pos⟩ := by
  rw [next, Nat.mod_eq_of_lt (by omega)]

theorem Inside.here {n : Nat} {c : Cursor} (h : Inside w L n c) :
    (L.hdr ≤ c.left → c.pos + L.hdr ≤ n) ∧ (ok L c → c.pos + L.len c.pos ≤ n) := h 0 c rfl

theorem Inside.step {n : Nat} {c d : Cursor} (h : Inside w L n c) (hd : Records.step w L c = some d) :
    Inside w L n d := by
  intro k e he
  apply h (k + 1) e
  rw [steps, hd]
  exact he

/-- A walk is inside if its first record is and the rest of it. -/
theorem Inside.cons {n : Nat} {c : Cursor}
    (hhere : (L.hdr ≤ c.left → c.pos + L.hdr ≤ n) ∧ (ok L c → c.pos + L.len c.pos ≤ n))
    (hrest : ∀ d, Records.step w L c = some d → Inside w L n d) : Inside w L n c := by
  intro k e he
  cases k with
  | zero =>
    obtain rfl : c = e := Option.some.inj he
    exact hhere
  | succ k =>
    obtain ⟨d, hd, he⟩ := Option.bind_eq_some_iff.mp he
    exact hrest d hd k e he

/-- The walk ends at its first record. -/
theorem Inside.last {n : Nat} {c : Cursor}
    (hhere : (L.hdr ≤ c.left → c.pos + L.hdr ≤ n) ∧ (ok L c → c.pos + L.len c.pos ≤ n))
    (hend : Records.step w L c = none) : Inside w L n c := by
  apply Inside.cons hhere
  intro d hd
  rw [hend] at hd
  cases hd

/-- It goes on. -/
theorem Inside.next {n : Nat} {c d : Cursor}
    (hhere : (L.hdr ≤ c.left → c.pos + L.hdr ≤ n) ∧ (ok L c → c.pos + L.len c.pos ≤ n))
    (hd : Records.step w L c = some d) (hrest : Inside w L n d) : Inside w L n c := by
  apply Inside.cons hhere
  intro e he
  rw [hd] at he
  obtain rfl := Option.some.inj he
  exact hrest

theorem EndsBy.zero {b : Nat} {c : Cursor} (h : Records.step w L c = none) : EndsBy w L b c :=
  ⟨0, Nat.zero_le _, c, rfl, h⟩

theorem EndsBy.succ {b b' : Nat} {c d : Cursor} (hd : Records.step w L c = some d) (h : EndsBy w L b d)
    (hb : b + 1 ≤ b') : EndsBy w L b' c := by
  obtain ⟨k, hk, e, he, hend⟩ := h
  refine ⟨k + 1, by omega, e, ?_, hend⟩
  rw [steps, hd]
  exact he

end

/-! ## The records visited -/

section
variable {w : Nat} {L : Layout}

theorem Visits.hdr_le {c : Cursor} {ps : List Nat} (h : Visits w L c ps) : ∀ p ∈ ps, L.hdr ≤ L.len p := by
  induction h with
  | done c hend => exact fun p hp => absurd hp List.not_mem_nil
  | stop c hok hstop =>
    intro p hp
    rw [List.mem_singleton.1 hp]
    exact hok.2.1
  | next c ps hok hstop hrest ih =>
    intro p hp
    rcases List.mem_cons.1 hp with rfl | hp
    · exact hok.2.1
    · exact ih p hp

/-- Records of one size. -/
theorem Visits.getElem?_of_skip {c : Cursor} {ps : List Nat} (h : Visits w L c ps) (d : Nat)
    (hskip : ∀ p ∈ ps, L.skip p = d) (j : Nat) (hj : j < ps.length) : ps[j]? = some (c.pos + d * j) := by
  induction h generalizing j with
  | done c hend => exact absurd hj (Nat.not_lt_zero j)
  | stop c hok hstop =>
    obtain rfl : j = 0 := Nat.lt_one_iff.1 hj
    rfl
  | next c ps hok hstop hrest ih =>
    obtain ⟨hd, hskip⟩ := List.forall_mem_cons.1 hskip
    cases j with
    | zero => rfl
    | succ j =>
      have hrest := ih hskip j (Nat.lt_of_succ_lt_succ hj)
      have hpos : (Records.next w L c).pos = c.pos + d := by rw [Records.next, hd]
      rw [List.getElem?_cons_succ, hrest, hpos, Nat.mul_succ, Nat.add_assoc, Nat.add_comm d]

end

/-! ## Inside exactly if it fits -/

section
variable {w : Nat} {L : Layout} {n m : Nat} (hlen : ∀ pos, L.len pos ≤ m) (hskip : ∀ pos, L.skip pos ≤ m)
  (hword : n + m + m + L.hdr ≤ 2 ^ w) (hpos : 0 < L.hdr)

include hlen hskip hword

/-- A cursor behind a wrap: the bytes left reach to the end of memory. -/
theorem Stray.inside {pos : Nat} (h : Stray L n pos) (left : Nat) (hleft : left < 2 ^ w)
    (hsum : 2 ^ w ≤ pos + left) :
    Inside w L n ⟨pos, left⟩ ∧ EndsBy w L (n - pos) ⟨pos, left⟩ := by
  induction h generalizing left with
  | short pos hin hshort =>
    have hno : ¬ ok L ⟨pos, left⟩ := fun hok => absurd hok.2.1 (by simpa using hshort)
    have hend : step w L ⟨pos, left⟩ = none := (step_eq_none_iff _).mpr fun hok => absurd hok hno
    exact ⟨Inside.last ⟨fun _ => hin, fun hok => absurd hok hno⟩ hend, EndsBy.zero hend⟩
  | stop pos hin hrec hstop =>
    have hend : step w L ⟨pos, left⟩ = none := (step_eq_none_iff _).mpr fun _ => hstop
    exact ⟨Inside.last ⟨fun _ => hin, fun _ => hrec⟩ hend, EndsBy.zero hend⟩
  | next pos hin hhdr hrec hstop hmove _ ih =>
    have hl := hlen pos
    have hs := hskip pos
    have hok : ok L ⟨pos, left⟩ := ⟨by show L.hdr ≤ left; omega, hhdr, by show L.len pos ≤ left; omega⟩
    have hnext : step w L ⟨pos, left⟩ = some ⟨pos + L.skip pos, left - L.skip pos⟩ := by
      rw [step_eq_some_iff]
      exact ⟨hok, hstop, (next_of_le ⟨pos, left⟩ hleft (by show L.skip pos ≤ left; omega)).symm⟩
    obtain ⟨hin', hend'⟩ := ih (left - L.skip pos) (by omega) (by omega)
    refine ⟨Inside.next ⟨fun _ => hin, fun _ => hrec⟩ hnext hin', EndsBy.succ hnext hend' ?_⟩
    have := hin'.here.1
    simp only at this
    omega

/-- What it takes to stay inside behind a wrap. -/
theorem stray_of_inside (k : Nat) (c d : Cursor) (hin : Inside w L n c) (hrun : steps w L k c = some d)
    (hend : step w L d = none) (hleft : c.left < 2 ^ w) (hsum : 2 ^ w ≤ c.pos + c.left)
    (hplace : c.pos ≤ n + m) : Stray L n c.pos := by
  induction k generalizing c with
  | zero =>
    obtain rfl : c = d := Option.some.inj hrun
    have hhead := hin.here.1 (by omega)
    by_cases hshort : L.len c.pos < L.hdr
    · exact Stray.short c.pos hhead hshort
    · have hl := hlen c.pos
      have hok : ok L c := ⟨by omega, by omega, by omega⟩
      exact Stray.stop c.pos hhead (hin.here.2 hok) ((step_eq_none_iff _).mp hend hok)
  | succ k ih =>
    obtain ⟨e, he, hrun⟩ := Option.bind_eq_some_iff.mp hrun
    obtain ⟨hok, hstop, heq⟩ := (step_eq_some_iff _ _).mp he
    have hhead := hin.here.1 (by omega)
    have hs := hskip c.pos
    rw [next_of_le c hleft (by omega)] at heq
    have hpos' : e.pos = c.pos + L.skip c.pos := congrArg Cursor.pos heq
    have hleft' : e.left = c.left - L.skip c.pos := congrArg Cursor.left heq
    have hrest := ih e (hin.step he) hrun (by omega) (by omega) (by omega)
    rw [hpos'] at hrest
    by_cases hmove : 0 < L.skip c.pos
    · exact Stray.next c.pos hhead hok.2.1 (hin.here.2 hok) hstop hmove hrest
    · -- the walk does not move, and the rest of it is the walk again
      obtain hzero : L.skip c.pos = 0 := by omega
      simpa [hzero] using hrest

include hpos in
theorem Fits.inside {pos left : Nat} (h : Fits L n pos left) (hsum : pos + left ≤ n) :
    Inside w L n ⟨pos, left⟩ ∧ EndsBy w L (n - pos) ⟨pos, left⟩ := by
  have hhere : ∀ pos left, pos + left ≤ n →
      (L.hdr ≤ left → pos + L.hdr ≤ n) ∧ (ok L ⟨pos, left⟩ → pos + L.len pos ≤ n) := by
    intro pos left hsum
    refine ⟨fun h => by omega, fun hok => ?_⟩
    have : L.len pos ≤ left := hok.2.2
    omega
  induction h with
  | done pos left hdone =>
    have hend : step w L ⟨pos, left⟩ = none := (step_eq_none_iff _).mpr hdone
    exact ⟨Inside.last (hhere pos left hsum) hend, EndsBy.zero hend⟩
  | next pos left hok hstop hmove hle _ ih =>
    have hnext : step w L ⟨pos, left⟩ = some ⟨pos + L.skip pos, left - L.skip pos⟩ := by
      rw [step_eq_some_iff]
      exact ⟨hok, hstop, (next_of_le ⟨pos, left⟩ (by show left < 2 ^ w; omega) hle).symm⟩
    obtain ⟨hin', hend'⟩ := ih (by omega)
    exact ⟨Inside.next (hhere pos left hsum) hnext hin', EndsBy.succ hnext hend' (by omega)⟩
  | stray pos left hok hstop hlt hrest =>
    have hs := hskip pos
    have hnext : step w L ⟨pos, left⟩ = some ⟨pos + L.skip pos, 2 ^ w + left - L.skip pos⟩ := by
      rw [step_eq_some_iff]
      exact ⟨hok, hstop, (next_of_lt ⟨pos, left⟩ hlt (by show L.skip pos ≤ 2 ^ w; omega)).symm⟩
    obtain ⟨hin', hend'⟩ := hrest.inside hlen hskip hword (2 ^ w + left - L.skip pos) (by omega) (by omega)
    have hhead : pos + L.skip pos + L.hdr ≤ n := hin'.here.1 (by show L.hdr ≤ 2 ^ w + left - L.skip pos; omega)
    exact ⟨Inside.next (hhere pos left hsum) hnext hin', EndsBy.succ hnext hend' (by omega)⟩

include hpos in
theorem fits_of_inside (k : Nat) (c d : Cursor) (hin : Inside w L n c) (hrun : steps w L k c = some d)
    (hend : step w L d = none) (hsum : c.pos + c.left ≤ n) : Fits L n c.pos c.left := by
  induction k generalizing c with
  | zero =>
    obtain rfl : c = d := Option.some.inj hrun
    exact Fits.done c.pos c.left ((step_eq_none_iff _).mp hend)
  | succ k ih =>
    obtain ⟨e, he, hrun⟩ := Option.bind_eq_some_iff.mp hrun
    obtain ⟨hok, hstop, heq⟩ := (step_eq_some_iff _ _).mp he
    have hs := hskip c.pos
    by_cases hle : L.skip c.pos ≤ c.left
    · rw [next_of_le c (by omega) hle] at heq
      have hpos' : e.pos = c.pos + L.skip c.pos := congrArg Cursor.pos heq
      have hleft' : e.left = c.left - L.skip c.pos := congrArg Cursor.left heq
      have hrest := ih e (hin.step he) hrun (by omega)
      rw [hpos', hleft'] at hrest
      by_cases hmove : 0 < L.skip c.pos
      · exact Fits.next c.pos c.left hok hstop hmove hle hrest
      · obtain hzero : L.skip c.pos = 0 := by omega
        simpa [hzero] using hrest
    · rw [next_of_lt c (by omega) (by omega)] at heq
      have hpos' : e.pos = c.pos + L.skip c.pos := congrArg Cursor.pos heq
      have hleft' : e.left = 2 ^ w + c.left - L.skip c.pos := congrArg Cursor.left heq
      have hrest := stray_of_inside hlen hskip hword k e d (hin.step he) hrun hend (by omega) (by omega) (by omega)
      rw [hpos'] at hrest
      exact Fits.stray c.pos c.left hok hstop (by omega) hrest

include hpos in
/-- A walk with the bytes up to `n` at most. -/
theorem inside_iff_fits (c : Cursor) (hsum : c.pos + c.left ≤ n) :
    (Inside w L n c ∧ EndsBy w L n c) ↔ Fits L n c.pos c.left := by
  constructor
  · rintro ⟨hin, k, -, d, hrun, hend⟩
    exact fits_of_inside hlen hskip hword hpos k c d hin hrun hend hsum
  · intro h
    obtain ⟨hin, k, hk, hend⟩ := h.inside hlen hskip hword hpos hsum
    exact ⟨hin, k, by omega, hend⟩

/-- A walk whose count has wrapped before it began. -/
theorem inside_iff_stray (c : Cursor) (hleft : c.left < 2 ^ w) (hsum : 2 ^ w ≤ c.pos + c.left)
    (hplace : c.pos ≤ n + m) : (Inside w L n c ∧ EndsBy w L n c) ↔ Stray L n c.pos := by
  constructor
  · rintro ⟨hin, k, -, d, hrun, hend⟩
    exact stray_of_inside hlen hskip hword k c d hin hrun hend hleft hsum hplace
  · intro h
    obtain ⟨hin, k, hk, hend⟩ := h.inside hlen hskip hword c.left hleft hsum
    exact ⟨hin, k, by omega, hend⟩

end

end Records
