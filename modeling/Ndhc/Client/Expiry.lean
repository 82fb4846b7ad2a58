import Ndhc.Client.BoundPass
import Ndhc.Client.Conflict

/-!
# The end of a lease

Whether a lease is given up when it is over, and whether the interface then loses its address,
over whole runs.  Ahead of the lease timer the BOUND loop returns at the first failure of a
send or a socket, so a lease can be kept past its end (`expired_lease_left` says when not); and
of the ways out of the loop only the one for a carrier that came up without a known gateway
calls `ifchange_deconfig` (`lost_lease_removed`).
-/

namespace Ndhc

open Prog

/-! ## The lease's instants stay in order -/

/-- What `Core.Ordered` is about. -/
@[reducible] def term (s : Sys) : Int × UInt32 := (s.cs.rebindTime, s.cs.lease)

def SameTerm (_ : Stop) (c d : Int × UInt32) : Prop := d = c

section
variable {α : Type} (env : Env) (cfg : ClientConfig) (inp : Input)

instance (priority := low) (m : M α) [h : Routine core Dies m] : Routine term SameTerm m where
  ends s := by
    apply wp_mono _ _ s _ _ _ (h.ends s)
    · exact fun _ _ ht => congrArg (fun c : Core => (c.rebindTime, c.lease)) ht
    · rintro _ t ⟨-, ht⟩
      exact congrArg (fun c : Core => (c.rebindTime, c.lease)) ht

instance (e : Effect) : Routine term SameTerm (emit e) := ⟨fun _ => rfl⟩

instance (l : Label) : Routine term SameTerm (goto l : M α) := ⟨fun _ => rfl⟩

instance (code : Int) (pc : Pc) : Routine term SameTerm (scrReturn code pc : M α) := ⟨fun _ => rfl⟩

instance (packet : DhcpMsg) : Routine term SameTerm (ifchangeBind env packet) := by
  unfold ifchangeBind
  infer_instance

set_option synthInstance.maxSize 256 in
instance : Routine term SameTerm (arpLeaseObtained env cfg) := by
  unfold arpLeaseObtained
  infer_instance

instance (nowts : Int) : Routine term SameTerm (arpCollisionTimeout env cfg nowts) := by
  unfold arpCollisionTimeout
  infer_instance

instance : Routine term SameTerm (arpDoCollisionCheck env cfg) := by
  unfold arpDoCollisionCheck
  infer_instance

instance (timeout : Int) : Routine term SameTerm (restart env timeout : M α) := by
  unfold restart
  infer_instance

instance : Routine term SameTerm (probingArp env cfg inp) := by
  unfold probingArp
  infer_instance

instance : Routine term SameTerm (probingArpTimeout env cfg inp) := by
  unfold probingArpTimeout
  infer_instance

instance (pc : Pc) : Routine term SameTerm (requestTimer env inp pc) := by
  unfold requestTimer
  infer_instance

instance : Routine term SameTerm (probingPass env cfg inp) := by
  unfold probingPass onRelease
  infer_instance

theorem SelectingEnds.ordered (s t : Sys) (e : Stop) (h : SelectingEnds inp (core s) e t) :
    OrderKept s t := by
  match e, h with
  | .ret _, h => exact OrderKept.of_core s s _ t id h
  | .goto .released, h => exact OrderKept.of_core s s s.pc t id h.1
  | .goto .requesting, h => exact h.1.ordered
  | .exit, h => exact OrderKept.of_core s s _ t id h

theorem RequestingEnds.ordered (s t : Sys) (e : Stop) (h : RequestingEnds inp s e t) :
    OrderKept s t := by
  match e, h with
  | .ret _, Or.inl h => exact OrderKept.of_core s s _ t id h
  | .ret _, Or.inr ⟨⟨_, h⟩, _⟩ => exact h.ordered
  | .goto .released, h => exact OrderKept.of_core s s s.pc t id h.1
  | .goto .reinit, h => exact h.1.ordered
  | .exit, h => exact h.1.ordered

theorem ReleasedEnds.ordered (s t : Sys) (e : Stop) (h : ReleasedEnds inp (core s) e t) :
    OrderKept s t := by
  match e, h with
  | .ret _, h => exact OrderKept.of_core s s _ t id h.1
  | .goto .reinit, h => exact OrderKept.of_core s s s.pc t id h.1
  | .exit, h => exact OrderKept.of_core s s _ t id h

theorem BoundEnds.ordered (s t : Sys) (e : Stop) (h : BoundEnds env cfg inp s e t) :
    OrderKept s t := by
  match e, h with
  | .ret _, h => exact h.1
  | .goto .reinit, h => exact h.1
  | .goto .released, h => exact h.1
  | .exit, h => exact h.1

/-- The program keeps the order, however it ends. -/
def KeepsOrder (m : M Unit) : Prop :=
  ∀ s, wp m (fun _ t => OrderKept s t) (fun _ t => OrderKept s t) s

theorem keepsOrder_of_ends (m : M Unit) (E : Sys → Stop → Sys → Prop)
    (hm : ∀ s, wp m (fun _ _ => False) (E s) s) (hE : ∀ s e t, E s e t → OrderKept s t) :
    KeepsOrder m :=
  fun s => wp_mono _ _ s _ _ _ (hm s) (fun _ _ h => h.elim) (hE s)

theorem keepsOrder_of_routine (m : M Unit) [h : Routine term SameTerm m] : KeepsOrder m := by
  have hterm : ∀ s t : Sys, term t = term s → OrderKept s t := by
    intro s t ht ho
    have hrebind : t.cs.rebindTime = s.cs.rebindTime := congrArg Prod.fst ht
    have hlease : t.cs.lease = s.cs.lease := congrArg Prod.snd ht
    show t.cs.rebindTime ≤ t.cs.lease.toNat
    rw [hrebind, hlease]
    exact ho
  exact fun s => wp_mono _ _ s _ _ _ (h.ends s) (fun _ t ht => hterm s t ht) (fun _ t ht => hterm s t ht)

theorem selectingPass_keepsOrder : KeepsOrder (selectingPass env cfg inp) :=
  keepsOrder_of_ends _ _ (selectingPass_ends env cfg inp) fun s e t => SelectingEnds.ordered inp s t e

theorem requestingPass_keepsOrder : KeepsOrder (requestingPass env cfg inp) :=
  keepsOrder_of_ends _ _ (requestingPass_ends env cfg inp) fun s e t => RequestingEnds.ordered inp s t e

theorem releasedPass_keepsOrder : KeepsOrder (releasedPass env inp) :=
  keepsOrder_of_ends _ _ (releasedPass_ends env inp) fun s e t => ReleasedEnds.ordered inp s t e

theorem reinitPass_keepsOrder : KeepsOrder (reinitPass env cfg inp) :=
  fun s => selectingPass_keepsOrder env cfg inp { s with cs.xid := env.random .reinit }

theorem target_keepsOrder (l : Label) : KeepsOrder (target env cfg inp l) := by
  cases l with
  | reinit => exact reinitPass_keepsOrder env cfg _
  | requesting => exact requestingPass_keepsOrder env cfg _
  | released => exact releasedPass_keepsOrder env _

theorem resume_keepsOrder (pc : Pc) (hpc : pc ≠ .bound) : KeepsOrder (resume env cfg inp pc) := by
  cases pc with
  | init => exact reinitPass_keepsOrder env cfg inp
  | selecting => exact selectingPass_keepsOrder env cfg inp
  | requesting => exact requestingPass_keepsOrder env cfg inp
  | probing => exact keepsOrder_of_routine (probingPass env cfg inp)
  | bound => exact absurd rfl hpc
  | newlease => exact keepsOrder_of_routine (restart env 0)
  | released => exact releasedPass_keepsOrder env inp
  | dead => exact keepsOrder_of_routine suicide

theorem follow_keepsOrder (n : Nat) (m : M Unit) (s t : Sys)
    (hm : wp m (fun _ u => OrderKept s u) (fun _ u => OrderKept s u) t) :
    wp (follow env cfg inp n m) (fun _ u => OrderKept s u) (fun _ u => OrderKept s u) t := by
  induction n generalizing m t with
  | zero => exact hm
  | succ n ih =>
    rw [wp_follow]
    apply wp_mono _ _ t _ _ _ hm (fun _ _ h => h)
    intro e u hu
    cases e with
    | ret => exact hu
    | exit => exact hu
    | goto l =>
      apply ih
      apply wp_mono _ _ u _ _ _ (target_keepsOrder env cfg inp l u)
      · exact fun _ _ h ho => h (hu ho)
      · exact fun _ _ h ho => h (hu ho)

/-- No call brings the lease's instants out of order. -/
theorem dhcpHandle_keepsOrder : KeepsOrder (dhcpHandle env cfg inp) := by
  intro s
  by_cases hpc : s.pc = .bound
  · rw [wp_dhcpHandle env cfg inp _ _ s .bound hpc]
    apply follow_keepsOrder
    exact wp_mono _ _ _ _ _ _ (boundPass_ends env cfg inp s { s with out := [] } rfl rfl)
      (fun _ _ h => h.elim) (fun e t => BoundEnds.ordered env cfg inp s t e)
  · rw [wp_dhcpHandle env cfg inp _ _ s s.pc rfl]
    apply follow_keepsOrder
    exact resume_keepsOrder env cfg inp s.pc hpc { s with out := [] }

end

section
variable (cfg : ClientConfig)

theorem Step.keepsOrder (st : Step) (s : Sys) : OrderKept s (st.next cfg s) := by
  by_cases hhandle : ∃ env inp, st = .handle env inp
  · obtain ⟨env, inp, rfl⟩ := hhandle
    exact final_of_wp _ s (fun t => OrderKept s t) (dhcpHandle_keepsOrder env cfg inp s)
  · obtain ⟨pc, hcore, -⟩ := st.core_of_read cfg s fun env inp h => hhandle ⟨env, inp, h⟩
    exact OrderKept.of_core s { s with out := [] } pc _ id hcore

theorem bound_handle (env : Env) (inp : Input) (s : Sys) (hpc : s.pc = .bound) :
    BoundCall env cfg inp s (final (dhcpHandle env cfg inp) s) :=
  final_of_wp _ s _ (wp_mono _ _ s _ _ _ (bound_call env cfg inp s hpc) (fun _ _ h => h.elim)
    (fun _ _ h => h))

/-! ## A lease is given up when it is over -/

/-- The BOUND, RENEWING and REBINDING states. -/
def InLease (s : Sys) : Prop := s.pc = .bound ∨ s.pc = .newlease

/-- SELECTING or RELEASED. -/
def Idle (s : Sys) : Prop := s.pc = .selecting ∨ s.pc = .released

/-- The call comes when the lease is over, with the DHCP timer due and no ACK to extend it. -/
def Step.Overdue : Step → Sys → Prop
  | .handle _ inp, s => InLease s ∧ exactEnd s.cs ≤ inp.nowts ∧ inp.dhcpTimeout = true ∧
      ¬ Accepts inp DHCPACK s
  | _, _ => False

/-- An error return of the BOUND loop is in the way. -/
def Step.Hindered : Step → Sys → Prop
  | .handle env inp, s => s.pc = .bound ∧ Ndhc.Hindered env cfg inp s
  | _, _ => False

/-- Every call that comes when the lease is over leaves the phase, or the process ends. -/
def LeftInTime : List Step → Sys → Prop :=
  Along cfg fun st s => st.Overdue s → Idle (st.next cfg s) ∨ (st.next cfg s).pc = .dead

/-- No call that comes when the lease is over is hindered. -/
def NoneHindered : List Step → Sys → Prop :=
  Along cfg fun st s => st.Overdue s → ¬ st.Hindered cfg s

theorem leaseEnd_le_exactEnd (cs : ClientState) : leaseEnd cs ≤ exactEnd cs := by
  unfold leaseEnd exactEnd
  have h1000 : (1000 : UInt32).toNat = 1000 := rfl
  have hmod := Nat.mod_le (cs.lease.toNat * 1000) (2 ^ 32)
  rw [UInt32.toNat_mul, h1000]
  omega

/-- At its exact end, a lease with its instants in order is over for the timers too. -/
theorem expired_of_exactEnd (s : Sys) (nowts : Int) (ho : (core s).Ordered)
    (h : exactEnd s.cs ≤ nowts) : Expired s.cs nowts := by
  have hle := leaseEnd_le_exactEnd s.cs
  have hrebind : s.cs.rebindTime ≤ s.cs.lease.toNat := ho
  refine ⟨?_, by omega⟩
  unfold exactEnd at h
  unfold isRebinding
  omega

theorem Step.leaves_in_time (st : Step) (s : Sys) (ho : (core s).Ordered) (hover : st.Overdue s)
    (hfree : ¬ st.Hindered cfg s) : Idle (st.next cfg s) ∨ (st.next cfg s).pc = .dead := by
  cases st with
  | handle env inp =>
    obtain ⟨hin, hend, htimeout, hno⟩ := hover
    rcases hin with hpc | hpc
    · have hcall := bound_handle cfg env inp s hpc
      have hstay : ¬ (Accepts inp DHCPACK s ∨ Ndhc.Hindered env cfg inp s ∨ ¬ Due inp s) := by
        rintro (h | h | h)
        · exact hno h
        · exact hfree ⟨hpc, h⟩
        · exact h ⟨htimeout, expired_of_exactEnd s inp.nowts ho hend⟩
      rcases hcall.pc with h | h | h | h | h
      · exact absurd (hcall.stays (Or.inl h)) hstay
      · exact absurd (hcall.stays (Or.inr h)) hstay
      · exact Or.inl (Or.inl h)
      · exact Or.inl (Or.inr h)
      · exact Or.inr h
    · apply final_of_wp _ s (fun t => Idle t ∨ t.pc = .dead)
      apply wp_mono _ _ s _ _ _ (newlease_call env cfg inp s hpc) (fun _ _ h => h.elim)
      intro e t h
      exact or_assoc.mpr (h.pc _ e t)
  | idle => exact hover.elim
  | exit => exact hover.elim
  | arp => exact hover.elim
  | dhcp => exact hover.elim

/-- **A lease is not kept past its end** in any run whose calls are not hindered. -/
theorem expired_lease_left (b : Startup) (steps : List Step)
    (h : NoneHindered cfg steps (.start b)) : LeftInTime cfg steps (.start b) := by
  apply Along.of_invariant cfg _ _ (fun s => (core s).Ordered) ?_ steps _ ?_ h
  · intro st s ho hfree
    exact ⟨st.keepsOrder cfg s ho, fun hover => st.leaves_in_time cfg s ho hover (hfree hover)⟩
  · exact Int.le_refl 0

end

/-- The lease of `exampleAck` is taken when the wait is over. -/
def boundRun : List Step := probingRun ++ [.handle calmEnv { quietInput 2000 with arpTimeout := true }]

/-- An hour later the DHCP timer is due. -/
def expiryRun : List Step :=
  boundRun ++ [.handle calmEnv { quietInput 3600000 with dhcpTimeout := true }]

theorem expiryRun_left : LeftInTime exampleConfig expiryRun exampleStart := by
  apply expired_lease_left
  refine ⟨?_, ?_, ?_, ?_, ?_, ?_, trivial⟩
  · exact fun h => absurd h.1 (by unfold InLease; decide +kernel)
  · exact fun h => absurd h.1 (by unfold InLease; decide +kernel)
  · exact fun h => absurd h.1 (by unfold InLease; decide +kernel)
  · exact fun h => absurd h.1 (by unfold InLease; decide +kernel)
  · exact fun h => absurd h.1 (by unfold InLease; decide +kernel)
  · rintro - ⟨-, h⟩
    cases h <;> contradiction

/-- The renewal that a signal asks for cannot be sent. -/
def renewFailsEnv : Env :=
  { calmEnv with send := fun site => if site = .frenew then some (-1) else some 60 }

/-- A signal to renew comes when the lease is over; its request cannot be sent, and the client
keeps the lease. -/
theorem hindered_lease_kept :
    ¬ LeftInTime exampleConfig
      (boundRun ++ [.handle renewFailsEnv
        { quietInput 3600000 with dhcpTimeout := true, sevSignal := .renew }]) exampleStart := by
  intro h
  obtain ⟨-, -, -, -, -, h, -⟩ := h
  have hleft := h ⟨Or.inl (by decide +kernel), by decide +kernel, rfl, fun ha => nomatch ha.1⟩
  exact absurd hleft (by unfold Idle; decide +kernel)

/-! ## A lost lease is removed from the interface -/

section
variable (cfg : ClientConfig)

/-- The lease is lost without the interface being deconfigured. -/
def Step.Loses : Step → Sys → Prop
  | .handle env inp, s => Ndhc.Loses env cfg inp s
  | _, _ => False

/-- Whenever a step leaves the phase, the interface is deconfigured. -/
def RemovedOnLeaving : List Step → Sys → Prop :=
  Along cfg fun st s => InLease s → Idle (st.next cfg s) → (st.next cfg s).cs.ifDeconfig = true

/-- No call loses the lease in a way that forgets the interface. -/
def NoneLost : List Step → Sys → Prop :=
  Along cfg fun st s => s.pc = .bound → ¬ st.Loses cfg s

/-- A call outside BOUND does not end behind a failed `ifchange_deconfig`. -/
theorem handle_ne_newlease (env : Env) (inp : Input) (s : Sys) (hpc : s.pc ≠ .bound) :
    (final (dhcpHandle env cfg inp) s).pc ≠ .newlease := by
  by_cases hprobing : s.pc = .probing
  · rcases probing_handle cfg env inp s hprobing with ⟨-, e, h⟩ | ⟨-, -, h⟩ | ⟨-, -, h⟩
    · rcases h with ⟨-, h, -⟩ | ⟨-, c, -, h⟩
      · rw [h]; decide
      · rcases h.pc c e _ with h | h | h <;> (rw [h]; decide)
    · rcases h.2 with h | h <;> (rw [h]; decide)
    · rcases h.2 with ⟨h, -⟩ | h | h | h <;> (rw [h]; decide)
  · apply final_of_wp _ s (fun t => t.pc ≠ .newlease)
    apply wp_mono _ _ s _ _ _ (leaseless_call env cfg inp s hprobing hpc) (fun _ _ h => h.elim)
    intro e t h
    match e, h with
    | .ret _, Or.inl ⟨_, h⟩ => rcases h with h | h | h <;> (rw [h]; decide)
    | .ret _, Or.inr ⟨_, h⟩ => rw [h]; decide
    | .exit, ⟨_, h⟩ => rw [h]; decide

theorem Step.removes (st : Step) (s : Sys) (hpc : s.pc ≠ .newlease)
    (hkeep : s.pc = .bound → ¬ st.Loses cfg s) :
    (st.next cfg s).pc ≠ .newlease ∧
      (InLease s → Idle (st.next cfg s) → (st.next cfg s).cs.ifDeconfig = true) := by
  by_cases hhandle : ∃ env inp, st = .handle env inp
  · obtain ⟨env, inp, rfl⟩ := hhandle
    by_cases hbound : s.pc = .bound
    · have hcall := bound_handle cfg env inp s hbound
      refine ⟨fun h => hkeep hbound (hcall.stuck h), fun _ hidle => ?_⟩
      exact (hcall.leaves hidle).resolve_left (hkeep hbound)
    · refine ⟨handle_ne_newlease cfg env inp s hbound, fun hin => ?_⟩
      rcases hin with h | h
      · exact absurd h hbound
      · exact absurd h hpc
  · obtain ⟨pc, hcore, hsame⟩ := st.core_of_read cfg s fun env inp h => hhandle ⟨env, inp, h⟩
    have hnext : (st.next cfg s).pc = pc := congrArg Core.pc hcore
    unfold Idle
    rw [hnext]
    rcases hsame with rfl | rfl
    · refine ⟨hpc, fun hin hidle => ?_⟩
      have hbound : s.pc = .bound := hin.resolve_right hpc
      rw [hbound] at hidle
      exact hidle.elim nofun nofun
    · exact ⟨nofun, fun _ hidle => hidle.elim nofun nofun⟩

/-- **A lost lease is removed from the interface** in any run in which no call loses it
otherwise. -/
theorem lost_lease_removed (b : Startup) (steps : List Step) (h : NoneLost cfg steps (.start b)) :
    RemovedOnLeaving cfg steps (.start b) := by
  apply Along.of_invariant cfg _ _ (fun s => s.pc ≠ .newlease) ?_ steps _ ?_ h
  · intro st s hpc hkeep
    exact st.removes cfg s hpc hkeep
  · exact nofun

end

/-- An acknowledgement without a gateway. -/
def bareAck : DhcpMsg :=
  reply [192, 168, 1, 10] [53, 1, 5, 51, 4, 0, 0, 14, 16, 54, 4, 192, 168, 1, 1, 255] (by decide +kernel)

/-- The carrier comes up on a lease without a gateway. -/
def carrierRun : List Step := probingRun.take 3 ++ [
  .handle calmEnv { quietInput 0 with
    sevDhcp := true, dhcpPacket := bareAck, dhcpMsgtype := DHCPACK, dhcpSrcaddr := 0xc0a80101 },
  .handle calmEnv { quietInput 2000 with arpTimeout := true },
  .handle calmEnv { quietInput 5000 with forceFingerprint := true }]

theorem carrierRun_removed : RemovedOnLeaving exampleConfig carrierRun exampleStart := by
  apply lost_lease_removed
  refine ⟨?_, ?_, ?_, ?_, ?_, ?_, trivial⟩
  · exact fun h => absurd h (by decide +kernel)
  · exact fun h => absurd h (by decide +kernel)
  · exact fun h => absurd h (by decide +kernel)
  · exact fun h => absurd h (by decide +kernel)
  · exact fun h => absurd h (by decide +kernel)
  · rintro - h
    cases h with
    | deconfig _ _ _ hfail =>
      obtain ⟨r, ⟨⟩, hr⟩ := hfail
      exact absurd hr (by decide)
    | nak h => exact nomatch h.1
    | check h => exact nomatch h.1
    | expired _ h => exact nomatch h.1
    | _ => contradiction

/-- The lease runs out, and the address stays on the interface. -/
theorem expired_lease_configured : ¬ RemovedOnLeaving exampleConfig expiryRun exampleStart := by
  intro h
  obtain ⟨-, -, -, -, -, h, -⟩ := h
  have hremoved := h (Or.inl (by decide +kernel)) (Or.inl (by decide +kernel))
  exact absurd hremoved (by decide +kernel)

end Ndhc
