import Mathlib.Logic.Relation
import Mathlib.Tactic.Common

/-!
# Programs with state and early exits

`EStateM ε σ` as the language of a step that works on a state and may be left early.
`wp m Q E s`: started in `s`, the program returns with `Q` or leaves with `E`.  The
`wp_*` lemmas run a program symbolically, `wp_mono` weakens what is known of its end,
`Routine f X m` says that `m` leaves `f` of the state alone unless it leaves early as `X` has it,
`Upholds P E m` that it keeps `P` unless it leaves early with `E`, `Moves f r m` that it takes
`f` of the state only along `r`, and `Adds c m n` that it adds at most `n` to the counter `c`.
-/

namespace Prog

variable {ε σ α β κ : Type}

def wp (m : EStateM ε σ α) (Q : α → σ → Prop) (E : ε → σ → Prop) (s : σ) : Prop :=
  match m s with
  | .ok a s' => Q a s'
  | .error e s' => E e s'

/-! ## Rules -/

section
variable (Q : α → σ → Prop) (E : ε → σ → Prop) (s : σ)

@[simp] theorem wp_pure (a : α) : wp (pure a : EStateM ε σ α) Q E s ↔ Q a s := Iff.rfl

@[simp] theorem wp_get (Q : σ → σ → Prop) : wp (get : EStateM ε σ σ) Q E s ↔ Q s s := Iff.rfl

@[simp] theorem wp_modify (f : σ → σ) (Q : PUnit → σ → Prop) :
    wp (modify f : EStateM ε σ PUnit) Q E s ↔ Q ⟨⟩ (f s) := Iff.rfl

@[simp] theorem wp_bind (m : EStateM ε σ β) (k : β → EStateM ε σ α) :
    wp (m >>= k) Q E s ↔ wp m (fun b s' => wp (k b) Q E s') E s := by
  show wp (EStateM.bind m k) Q E s ↔ _
  unfold wp EStateM.bind
  cases m s <;> rfl

@[simp] theorem wp_ite (c : Prop) [Decidable c] (m n : EStateM ε σ α) :
    wp (if c then m else n) Q E s ↔ if c then wp m Q E s else wp n Q E s := by
  split <;> rfl

theorem wp_mono (m : EStateM ε σ α) (Q' : α → σ → Prop) (E' : ε → σ → Prop)
    (h : wp m Q E s) (hQ : ∀ a s', Q a s' → Q' a s') (hE : ∀ e s', E e s' → E' e s') :
    wp m Q' E' s := by
  unfold wp at h ⊢
  split at h
  · exact hQ _ _ h
  · exact hE _ _ h

theorem wp_and (m : EStateM ε σ α) (Q' : α → σ → Prop) (E' : ε → σ → Prop) (h : wp m Q E s)
    (h' : wp m Q' E' s) : wp m (fun a t => Q a t ∧ Q' a t) (fun e t => E e t ∧ E' e t) s := by
  unfold wp at h h' ⊢
  split
  · next hm =>
    rw [hm] at h h'
    exact ⟨h, h'⟩
  · next hm =>
    rw [hm] at h h'
    exact ⟨h, h'⟩

theorem wp_all (m : EStateM ε σ α) (hQ : ∀ a t, Q a t) (hE : ∀ e t, E e t) : wp m Q E s := by
  unfold wp
  split
  · exact hQ _ _
  · exact hE _ _

/-- A program that returns and leaves the state as it is can be passed over. -/
theorem wp_bind_idle (m : EStateM ε σ Unit) (k : Unit → EStateM ε σ α)
    (h : wp m (fun _ t => t = s) (fun _ _ => False) s) : wp (m >>= k) Q E s ↔ wp (k ()) Q E s := by
  rw [wp_bind]
  unfold wp at h ⊢
  cases hm : m s with
  | ok u t =>
    rw [hm] at h
    rw [show t = s from h]
  | error e t =>
    rw [hm] at h
    exact h.elim

/-- Nothing need be known of how `m` ends. -/
theorem wp_bind_all (m : EStateM ε σ β) (k : β → EStateM ε σ α) (hk : ∀ b t, wp (k b) Q E t)
    (hE : ∀ e t, E e t) : wp (m >>= k) Q E s := by
  rw [wp_bind]
  exact wp_all _ _ s m hk hE

/-- A program that cannot leave early returns. -/
theorem exists_of_wp (m : EStateM ε σ α) (h : wp m Q (fun _ _ => False) s) :
    ∃ a t, m s = .ok a t ∧ Q a t := by
  unfold wp at h
  split at h
  · next a t hm => exact ⟨a, t, hm, h⟩
  · exact h.elim

theorem wp_ok_iff (m : EStateM ε σ α) (a : α) (t : σ) (hm : m s = .ok a t) : wp m Q E s ↔ Q a t := by
  unfold wp
  rw [hm]

theorem wp_error_iff (m : EStateM ε σ α) (e : ε) (t : σ) (hm : m s = .error e t) :
    wp m Q E s ↔ E e t := by
  unfold wp
  rw [hm]

end

/-! ## Routines

What a program leaves alone is found by its shape: the instances follow pure, bind, ite and
the rest, so that a fact about a routine is one about its parts. -/

/-- Equal, by computation. -/
class Same (a b : κ) : Prop where
  eq : a = b

instance (a : κ) : Same a a := ⟨rfl⟩

/-- `m` returns with `f` of the state as it was, or leaves early as `X` allows. -/
class Routine (f : σ → κ) (X : ε → κ → κ → Prop) (m : EStateM ε σ α) : Prop where
  ends : ∀ s, wp m (fun _ t => f t = f s) (fun e t => X e (f s) (f t)) s

section
variable (f : σ → κ) (X : ε → κ → κ → Prop)

instance (a : α) : Routine f X (pure a : EStateM ε σ α) := ⟨fun _ => rfl⟩

instance : Routine f X (get : EStateM ε σ σ) := ⟨fun _ => rfl⟩

instance (g : σ → σ) [h : ∀ s, Same (f (g s)) (f s)] :
    Routine f X (modify g : EStateM ε σ PUnit) := ⟨fun s => (h s).eq⟩

instance (m : EStateM ε σ β) (k : β → EStateM ε σ α) [hm : Routine f X m]
    [hk : ∀ b, Routine f X (k b)] : Routine f X (m >>= k) where
  ends s := by
    rw [wp_bind]
    refine wp_mono _ _ s m _ _ (hm.ends s) (fun b t ht => ?_) (fun _ _ ht => ht)
    rw [← ht]
    exact (hk b).ends t

instance (c : Prop) [Decidable c] (m n : EStateM ε σ α) [hm : Routine f X m]
    [hn : Routine f X n] : Routine f X (if c then m else n) := by
  split
  · exact hm
  · exact hn

/-- A call of a routine. -/
theorem wp_routine (m : EStateM ε σ α) [h : Routine f X m] (s : σ) (Q : α → σ → Prop)
    (E : ε → σ → Prop)
    (hm : wp m (fun a t => f t = f s → Q a t) (fun e t => X e (f s) (f t) → E e t) s) :
    wp m Q E s := by
  have hk := h.ends s
  unfold wp at hm hk ⊢
  split
  · next hr =>
    rw [hr] at hm hk
    exact hm hk
  · next hr =>
    rw [hr] at hm hk
    exact hm hk

/-- A call of a routine about which nothing else is known. -/
theorem wp_call (m : EStateM ε σ β) (k : β → EStateM ε σ α) [Routine f X m] (s : σ)
    (Q : α → σ → Prop) (E : ε → σ → Prop) (hk : ∀ b t, f t = f s → wp (k b) Q E t)
    (hE : ∀ e t, X e (f s) (f t) → E e t) : wp (m >>= k) Q E s := by
  rw [wp_bind]
  exact wp_routine f X m s _ _ (wp_all _ _ s m hk hE)

end

/-! ## Invariants and ways out -/

/-- Started with `P`, `m` returns with `P` or leaves early with `E`. -/
class Upholds (P : σ → Prop) (E : ε → σ → Prop) (m : EStateM ε σ α) : Prop where
  ends : ∀ s, P s → wp m (fun _ t => P t) E s

section
variable (P : σ → Prop) (E : ε → σ → Prop)

instance (a : α) : Upholds P E (pure a : EStateM ε σ α) := ⟨fun _ h => h⟩

instance : Upholds P E (get : EStateM ε σ σ) := ⟨fun _ h => h⟩

instance (g : σ → σ) [hg : ∀ s, Same (P (g s)) (P s)] :
    Upholds P E (modify g : EStateM ε σ PUnit) := ⟨fun s h => (hg s).eq.mpr h⟩

instance (m : EStateM ε σ β) (k : β → EStateM ε σ α) [hm : Upholds P E m]
    [hk : ∀ b, Upholds P E (k b)] : Upholds P E (m >>= k) where
  ends s h := by
    rw [wp_bind]
    exact wp_mono _ _ s m _ _ (hm.ends s h) (fun b t ht => (hk b).ends t ht) (fun _ _ ht => ht)

instance (c : Prop) [Decidable c] (m n : EStateM ε σ α) [hm : Upholds P E m]
    [hn : Upholds P E n] : Upholds P E (if c then m else n) := by
  split
  · exact hm
  · exact hn

end

/-- `m` keeps `f` of the state at `v`, however it ends. -/
abbrev Keeps (f : σ → κ) (v : κ) (m : EStateM ε σ α) : Prop :=
  Upholds (fun s => f s = v) (fun _ t => f t = v) m

theorem Keeps.ends (f : σ → κ) (v : κ) (m : EStateM ε σ α) [h : Keeps f v m] (s : σ) (hs : f s = v) :
    wp m (fun _ t => f t = v) (fun _ t => f t = v) s := Upholds.ends s hs

/-- `m` leaves early only as `E` has it. -/
abbrev Leaves (E : ε → σ → Prop) (m : EStateM ε σ α) : Prop := Upholds (fun _ => True) E m

/-! ## Moves -/

/-- `m` takes `f` of the state along steps of `r`, however it ends. -/
class Moves (f : σ → κ) (r : κ → κ → Prop) (m : EStateM ε σ α) : Prop where
  ends : ∀ s, wp m (fun _ t => Relation.ReflTransGen r (f s) (f t))
    (fun _ t => Relation.ReflTransGen r (f s) (f t)) s

section
variable (f : σ → κ) (r : κ → κ → Prop)

instance (a : α) : Moves f r (pure a : EStateM ε σ α) := ⟨fun _ => .refl⟩

instance : Moves f r (get : EStateM ε σ σ) := ⟨fun _ => .refl⟩

instance (g : σ → σ) [h : ∀ s, Same (f (g s)) (f s)] :
    Moves f r (modify g : EStateM ε σ PUnit) where
  ends s := by
    show Relation.ReflTransGen r (f s) (f (g s))
    rw [(h s).eq]

instance (m : EStateM ε σ β) (k : β → EStateM ε σ α) [hm : Moves f r m] [hk : ∀ b, Moves f r (k b)] :
    Moves f r (m >>= k) where
  ends s := by
    rw [wp_bind]
    refine wp_mono _ _ s m _ _ (hm.ends s) (fun b t ht => ?_) (fun _ _ ht => ht)
    exact wp_mono _ _ t _ _ _ ((hk b).ends t) (fun _ _ hu => ht.trans hu) (fun _ _ hu => ht.trans hu)

instance (c : Prop) [Decidable c] (m n : EStateM ε σ α) [hm : Moves f r m] [hn : Moves f r n] :
    Moves f r (if c then m else n) := by
  split
  · exact hm
  · exact hn

/-- What each step of `r` keeps, a program keeps that only makes such steps. -/
theorem Moves.keeps (m : EStateM ε σ α) [h : Moves f r m] (I : κ → Prop)
    (hI : ∀ a b, r a b → I a → I b) (s : σ) (hs : I (f s)) :
    wp m (fun _ t => I (f t)) (fun _ t => I (f t)) s := by
  have along : ∀ b, Relation.ReflTransGen r (f s) b → I b := by
    intro b hb
    induction hb with
    | refl => exact hs
    | tail _ hbc ih => exact hI _ _ hbc ih
  exact wp_mono _ _ s m _ _ (h.ends s) (fun _ _ ht => along _ ht) (fun _ _ ht => along _ ht)

end

/-! ## Counters -/

/-- `m` adds at most `n` to `c` of the state, however it ends.  The bound is found by the shape of
`m`. -/
class Adds (c : σ → Nat) (m : EStateM ε σ α) (n : outParam Nat) : Prop where
  ends : ∀ s, wp m (fun _ t => c t ≤ c s + n) (fun _ t => c t ≤ c s + n) s

section
variable (c : σ → Nat)

instance (a : α) : Adds c (pure a : EStateM ε σ α) 0 := ⟨fun _ => Nat.le_refl _⟩

instance : Adds c (get : EStateM ε σ σ) 0 := ⟨fun _ => Nat.le_refl _⟩

instance (g : σ → σ) [h : ∀ s, Same (c (g s)) (c s)] :
    Adds c (modify g : EStateM ε σ PUnit) 0 := ⟨fun s => Nat.le_of_eq (h s).eq⟩

instance (m : EStateM ε σ β) (k : β → EStateM ε σ α) (n n' : Nat) [hm : Adds c m n]
    [hk : ∀ b, Adds c (k b) n'] : Adds c (m >>= k) (n + n') where
  ends s := by
    rw [wp_bind]
    refine wp_mono _ _ s m _ _ (hm.ends s) (fun b t ht => ?_) (fun _ _ ht => by omega)
    exact wp_mono _ _ t _ _ _ ((hk b).ends t) (fun _ _ hu => by omega) (fun _ _ hu => by omega)

theorem Adds.mono (m : EStateM ε σ α) (n n' : Nat) [h : Adds c m n] (hn : n ≤ n') : Adds c m n' where
  ends s := wp_mono _ _ s m _ _ (h.ends s) (fun _ _ ht => by omega) (fun _ _ ht => by omega)

instance (p : Prop) [Decidable p] (m m' : EStateM ε σ α) (n n' : Nat) [hm : Adds c m n]
    [hm' : Adds c m' n'] : Adds c (if p then m else m') (max n n') := by
  split
  · exact hm.mono c m n _ (Nat.le_max_left n n')
  · exact hm'.mono c m' n' _ (Nat.le_max_right n n')

end

end Prog
