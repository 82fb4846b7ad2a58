import Ndhc.Lib.Prog

/-!
# Programs that refine a machine

A machine is a relation on what a state stands for.  `Refines abs step out m`: the program `m`
takes `abs` of its state only along steps of the machine; where it is left early, `out` tells
from the exit and the state what they stand for.  Routines refine by their shape, and where the
machine moves with the result of a call, `wp_refines_bind` continues from the call's end.
-/

namespace Prog

open Relation

variable {ε σ α β κ : Type}

class Refines (abs : σ → κ) (step : κ → κ → Prop) (out : ε → σ → κ) (m : EStateM ε σ α) : Prop where
  ends : ∀ s, wp m (fun _ t => ReflTransGen step (abs s) (abs t))
    (fun e t => ReflTransGen step (abs s) (out e t)) s

section
variable (abs : σ → κ) (step : κ → κ → Prop) (out : ε → σ → κ)

/-- A call in the middle of a run that began at `c`. -/
theorem wp_refines (m : EStateM ε σ α) [h : Refines abs step out m] (c : κ) (s : σ)
    (hc : ReflTransGen step c (abs s)) :
    wp m (fun _ t => ReflTransGen step c (abs t)) (fun e t => ReflTransGen step c (out e t)) s :=
  wp_mono _ _ s m _ _ (h.ends s) (fun _ _ ht => hc.trans ht) (fun _ _ ht => hc.trans ht)

theorem wp_refines_bind (m : EStateM ε σ β) (k : β → EStateM ε σ α) [Refines abs step out m] (c : κ)
    (s : σ) (Q : α → σ → Prop) (hc : ReflTransGen step c (abs s))
    (hk : ∀ b t, ReflTransGen step c (abs t) →
      wp (k b) Q (fun e t => ReflTransGen step c (out e t)) t) :
    wp (m >>= k) Q (fun e t => ReflTransGen step c (out e t)) s := by
  rw [wp_bind]
  exact wp_mono _ _ s m _ _ (wp_refines abs step out m c s hc) hk (fun _ _ ht => ht)

instance (a : α) : Refines abs step out (pure a : EStateM ε σ α) := ⟨fun _ => .refl⟩

instance : Refines abs step out (get : EStateM ε σ σ) := ⟨fun _ => .refl⟩

instance (g : σ → σ) [h : ∀ s, Same (abs (g s)) (abs s)] :
    Refines abs step out (modify g : EStateM ε σ PUnit) where
  ends s := by
    show ReflTransGen step (abs s) (abs (g s))
    rw [(h s).eq]

instance (m : EStateM ε σ β) (k : β → EStateM ε σ α) [Refines abs step out m]
    [hk : ∀ b, Refines abs step out (k b)] : Refines abs step out (m >>= k) where
  ends s := wp_refines_bind abs step out m k _ s _ .refl fun b t ht =>
    wp_refines abs step out (k b) _ t ht

instance (p : Prop) [Decidable p] (m n : EStateM ε σ α) [hm : Refines abs step out m]
    [hn : Refines abs step out n] : Refines abs step out (if p then m else n) := by
  split
  · exact hm
  · exact hn

end

end Prog
