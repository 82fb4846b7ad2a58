import Mathlib

/-!
# Leases

A server grants resources for some time.  A holder learns of a grant with a delay and counts its
lease from then, so it may count on the resource for that delay longer than the server does.  A
server that waits as long behind the end of a grant before it grants the resource to another never
has two holders count on it at one time.
-/

namespace Leases

/-- What the server notes. -/
structure Grant (H R T : Type) where
  holder : H
  resource : R
  start : T
  stop : T

/-- What a holder counts on. -/
structure Lease (R T : Type) where
  resource : R
  start : T
  stop : T
  deriving DecidableEq

variable {H R T : Type} [Preorder T] [Add T]

/-- The resource at every time at which it is counted on. -/
def Lease.tenure (l : Lease R T) : Set (R × T) := {l.resource} ×ˢ Set.Ico l.start l.stop

/-- A new grant respects an old one of another holder. -/
def Grant.Respects (delay : T) (new old : Grant H R T) : Prop :=
  old.resource = new.resource → old.holder ≠ new.holder → old.stop + delay ≤ new.start

/-- Every grant respects those before it; the newest comes first. -/
def Exclusive (delay : T) (log : List (Grant H R T)) : Prop := log.Pairwise (Grant.Respects delay)

/-- The lease of `h` rests on a grant. -/
def Backed (delay : T) (log : List (Grant H R T)) (h : H) (l : Lease R T) : Prop :=
  ∃ g ∈ log, g.holder = h ∧ g.resource = l.resource ∧ g.start ≤ l.start ∧ l.stop ≤ g.stop + delay

section
variable {delay : T} {log : List (Grant H R T)}

theorem Exclusive.cons (h : Exclusive delay log) (g : Grant H R T) (hg : ∀ old ∈ log, g.Respects delay old) :
    Exclusive delay (g :: log) := List.pairwise_cons.mpr ⟨hg, h⟩

/-- Of two grants of a resource to different holders, one is over when the other begins. -/
theorem Exclusive.pair (h : Exclusive delay log) (g g' : Grant H R T) (hg : g ∈ log) (hg' : g' ∈ log)
    (hres : g.resource = g'.resource) (hne : g.holder ≠ g'.holder) :
    g.stop + delay ≤ g'.start ∨ g'.stop + delay ≤ g.start := by
  have hsym : Std.Symm fun new old : Grant H R T => new.Respects delay old ∨ old.Respects delay new :=
    ⟨fun _ _ => Or.symm⟩
  have hpair : log.Pairwise fun new old => new.Respects delay old ∨ old.Respects delay new := h.imp Or.inl
  rcases hpair.forall hg hg' (fun heq => hne (congrArg Grant.holder heq)) with hr | hr
  · exact Or.inr (hr hres.symm hne.symm)
  · exact Or.inl (hr hres hne)

/-- **Leases that rest on exclusive grants do not overlap.** -/
theorem Exclusive.disjoint (h : Exclusive delay log) (a b : H) (l m : Lease R T) (hne : a ≠ b)
    (hl : Backed delay log a l) (hm : Backed delay log b m) : Disjoint l.tenure m.tenure := by
  obtain ⟨g, hg, rfl, hgres, hgstart, hgstop⟩ := hl
  obtain ⟨g', hg', rfl, hgres', hgstart', hgstop'⟩ := hm
  rw [Set.disjoint_left]
  rintro ⟨r, now⟩ ⟨hr, hfrom, hto⟩ ⟨hr', hfrom', hto'⟩
  have hres : g.resource = g'.resource := by rw [hgres, hgres', ← hr, ← hr']
  rcases h.pair g g' hg hg' hres hne with hover | hover
  · exact absurd (hto.trans_le ((hgstop.trans hover).trans (hgstart'.trans hfrom'))) (lt_irrefl _)
  · exact absurd (hto'.trans_le ((hgstop'.trans hover).trans (hgstart.trans hfrom))) (lt_irrefl _)

end

end Leases
