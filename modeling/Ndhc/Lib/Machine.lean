import Mathlib.Data.List.Infix
import Mathlib.Data.List.Nodup

/-!
# Machines that read byte by byte

A machine is a step that may fail, run over its input from left to right.  `readWord` is the part
of such a machine that recognises the words of a table: it goes on as long as some word begins with
what it has read, so that what it has read at the end decides which word it was
(`consume_readWord_bind_find`).
-/

namespace Machine

variable {σ τ β α : Type}

/-! ## Runs -/

def consume (step : σ → β → Option σ) (s : σ) (bs : List β) : Option σ := bs.foldlM step s

section
variable (step : σ → β → Option σ) (s : σ)

@[simp] theorem consume_nil : consume step s [] = some s := rfl

@[simp] theorem consume_cons (b : β) (bs : List β) :
    consume step s (b :: bs) = (step s b).bind fun t => consume step t bs := rfl

theorem consume_append (as bs : List β) :
    consume step s (as ++ bs) = (consume step s as).bind fun t => consume step t bs := by
  rw [consume, List.foldlM_append]
  rfl

theorem consume_singleton (b : β) : consume step s [b] = step s b := by
  rw [consume_cons]
  cases step s b <;> rfl

/-- A machine that works on `f` of another's state reads what that one reads. -/
theorem consume_map (step' : τ → β → Option τ) (f : τ → σ) (bs : List β)
    (h : ∀ b ∈ bs, ∀ t, step (f t) b = (step' t b).map f) (t : τ) :
    consume step (f t) bs = (consume step' t bs).map f := by
  induction bs generalizing t with
  | nil => rfl
  | cons b bs ih =>
    rw [consume_cons, consume_cons, h b List.mem_cons_self]
    cases step' t b with
    | none => rfl
    | some u => exact ih (fun b hb => h b (List.mem_cons_of_mem _ hb)) u

end

/-! ## Words -/

section
variable [DecidableEq β] (table : List (List β × α))

/-- The entry of a word. -/
def find (w : List β) : Option α := (table.find? fun e => e.1 = w).map (·.2)

/-- Whether a word of the table begins with `w`. -/
def begins (w : List β) : Bool := table.any fun e => w.isPrefixOf e.1

def readWord (w : List β) (b : β) : Option (List β) := if begins table (w ++ [b]) then some (w ++ [b]) else none

theorem mem_of_find (w : List β) (a : α) (h : find table w = some a) : (w, a) ∈ table := by
  unfold find at h
  obtain ⟨e, he, rfl⟩ := Option.map_eq_some_iff.mp h
  have hw : e.1 = w := by simpa using List.find?_some he
  rw [← hw]
  exact List.mem_of_find?_eq_some he

/-- In a table that has no word twice. -/
theorem find_of_mem (w : List β) (a : α) (hnodup : (table.map Prod.fst).Nodup) (h : (w, a) ∈ table) :
    find table w = some a := by
  have hsome : (table.find? fun e => e.1 = w).isSome = true := List.find?_isSome.mpr ⟨(w, a), h, by simp⟩
  obtain ⟨e, he⟩ := Option.isSome_iff_exists.mp hsome
  have hw : e.1 = w := by simpa using List.find?_some he
  have heq : e = (w, a) := List.inj_on_of_nodup_map hnodup (List.mem_of_find?_eq_some he) h hw
  rw [find, he, heq]
  rfl

theorem begins_of_mem (w v : List β) (a : α) (h : (w ++ v, a) ∈ table) : begins table w = true := by
  rw [begins, List.any_eq_true]
  exact ⟨_, h, by simp⟩

theorem begins_iff (w : List β) : begins table w = true ↔ ∃ e ∈ table, w <+: e.1 := by
  simp [begins]

/-- Words of the table are read to their end. -/
theorem consume_readWord_of_mem (v w : List β) (a : α) (h : (w ++ v, a) ∈ table) :
    consume (readWord table) w v = some (w ++ v) := by
  induction v generalizing w with
  | nil => simp
  | cons b v ih =>
    have h' : ((w ++ [b]) ++ v, a) ∈ table := by simpa using h
    rw [consume_cons, readWord, if_pos (begins_of_mem table _ v a h')]
    simpa using ih (w ++ [b]) h'

theorem consume_readWord_eq (v w t : List β) (h : consume (readWord table) w v = some t) : t = w ++ v := by
  induction v generalizing w with
  | nil => simpa using h.symm
  | cons b v ih =>
    rw [consume_cons, readWord] at h
    split at h
    · simpa using ih (w ++ [b]) h
    · cases h

/-- What has been read at the end decides. -/
theorem consume_readWord_bind_find (v : List β) : (consume (readWord table) [] v).bind (find table) = find table v := by
  cases hrun : consume (readWord table) [] v with
  | some t =>
    have ht := consume_readWord_eq table v [] t hrun
    rw [List.nil_append] at ht
    rw [ht, Option.bind_some]
  | none =>
    cases hfind : find table v with
    | none => rfl
    | some a =>
      rw [consume_readWord_of_mem table v [] a (mem_of_find table v a hfind)] at hrun
      cases hrun

end

end Machine
