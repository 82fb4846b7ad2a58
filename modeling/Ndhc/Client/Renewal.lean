import Ndhc.Client.Phase

/-!
# Extending a lease

What a call in BOUND does to the terms of the lease.  `get_leasetime` runs before the address
of an ACK is looked at, so an ACK for another address changes them too, and the client goes on
with its own address (`terms_own_iff`).
-/

namespace Ndhc

open Prog

/-- What `get_leasetime` sets. -/
@[reducible] def leaseTerms (s : Sys) : Int × UInt32 × Int × Int :=
  (s.cs.leaseStartTime, s.cs.lease, s.cs.renewTime, s.cs.rebindTime)

def SameTerms (_ : Stop) (c d : Int × UInt32 × Int × Int) : Prop := d = c

theorem leaseTerms_of_core (s t : Sys) (pc : Pc) (h : core t = { core s with pc := pc }) :
    leaseTerms t = leaseTerms s :=
  congrArg (fun c : Core => (c.leaseStartTime, c.lease, c.renewTime, c.rebindTime)) h

/-! ## What leaves the terms alone -/

section
variable {α : Type} (env : Env) (cfg : ClientConfig) (inp : Input)

instance (priority := low) (m : M α) [h : Routine core Dies m] : Routine leaseTerms SameTerms m where
  ends s := by
    apply wp_mono _ _ s _ _ _ (h.ends s)
    · exact fun _ t ht => leaseTerms_of_core s t s.pc ht
    · rintro _ t ⟨-, ht⟩
      exact leaseTerms_of_core s t .dead ht

instance (e : Effect) : Routine leaseTerms SameTerms (emit e) := ⟨fun _ => rfl⟩

instance (l : Label) : Routine leaseTerms SameTerms (goto l : M α) := ⟨fun _ => rfl⟩

instance (code : Int) (pc : Pc) : Routine leaseTerms SameTerms (scrReturn code pc : M α) :=
  ⟨fun _ => rfl⟩

instance (timeout : Int) : Routine leaseTerms SameTerms (restart env timeout : M α) := by
  unfold restart
  infer_instance

instance : Routine leaseTerms SameTerms (ifchangeDeconfig env) := by
  unfold ifchangeDeconfig
  infer_instance

set_option synthInstance.maxSize 256 in
instance (packet : DhcpMsg) : Routine leaseTerms SameTerms (arpCheck env cfg packet) := by
  unfold arpCheck
  infer_instance

instance : Routine leaseTerms SameTerms (selectingPass env cfg { inp with sevDhcp := false }) := by
  unfold selectingPass onRelease selectingTimer
  rw [show selectingDhcp env { inp with sevDhcp := false } = pure () from rfl]
  infer_instance

instance (pc : Pc) : Routine leaseTerms SameTerms (requestTimer env inp pc) := by
  unfold requestTimer
  infer_instance

instance (l : Label) : Routine leaseTerms SameTerms (target env cfg inp l) := by
  cases l with
  | reinit =>
    show Routine leaseTerms SameTerms (reinitPass env cfg { inp with sevDhcp := false })
    unfold reinitPass
    infer_instance
  | requesting =>
    show Routine leaseTerms SameTerms (requestingPass env cfg { inp with sevDhcp := false })
    unfold requestingPass onRelease
    rw [show requestingDhcp env cfg { inp with sevDhcp := false } = pure () from rfl]
    infer_instance
  | released =>
    show Routine leaseTerms SameTerms (releasedPass env { inp with sevDhcp := false })
    unfold releasedPass
    infer_instance

instance : Routine leaseTerms SameTerms (boundSignal env inp) := by
  unfold boundSignal
  infer_instance

instance : Routine leaseTerms SameTerms (gwLost env) := by
  unfold gwLost
  infer_instance

instance : Routine leaseTerms SameTerms (boundDefense env cfg) := by
  unfold boundDefense
  infer_instance

instance : Routine leaseTerms SameTerms (boundGwQuery env cfg) := by
  unfold boundGwQuery
  infer_instance

instance : Routine leaseTerms SameTerms (boundGwCheck env cfg) := by
  unfold boundGwCheck
  infer_instance

instance : Routine leaseTerms SameTerms (boundArp env cfg inp) := by
  unfold boundArp
  infer_instance

instance : Routine leaseTerms SameTerms (boundGwTimeout env inp) := by
  unfold boundGwTimeout
  infer_instance

instance : Routine leaseTerms SameTerms (boundArpTimeout env inp) := by
  unfold boundArpTimeout boundAnnounce
  infer_instance

instance : Routine leaseTerms SameTerms (boundIfup env inp) := by
  unfold boundIfup
  infer_instance

instance : Routine leaseTerms SameTerms (boundTimer env inp) := by
  unfold boundTimer
  infer_instance

end

/-! ## The terms after a call -/

section
variable (env : Env) (cfg : ClientConfig) (inp : Input)

/-- `frenew` in BOUND succeeds: there is a socket to listen on, and the request goes out. -/
def RenewSent (s : Sys) : Prop :=
  (0 ≤ s.cs.listenFd ∨ ∃ r, env.sockd .frenew = some r ∧ 0 ≤ r.1) ∧
    ∃ r, env.send .frenew = some r ∧ 0 ≤ r

/-- The signal, if there is one, lets the call come to its packet. -/
def Proceeds (s : Sys) : Prop :=
  inp.sevSignal = .none ∨ (inp.sevSignal = .renew ∧ RenewSent env s)

/-- The call takes down the lease of an ACK. -/
def Extends (s : Sys) : Prop := Proceeds env inp s ∧ Accepts inp DHCPACK s

/-- The terms are those of the packet if `p` holds, and else as they were. -/
def TermsIf (p : Prop) (s t : Sys) : Prop :=
  (p → leaseTerms t = leaseTerms (withLease env inp.dhcpPacket s)) ∧
    (¬ p → leaseTerms t = leaseTerms s)

theorem frenew_sent (s : Sys) :
    wp (frenew env true) (fun r _ => r = 0 ↔ RenewSent env s) (fun _ _ => ¬ RenewSent env s) s := by
  have hsend : ∀ t, (0 ≤ s.cs.listenFd ∨ ∃ r, env.sockd .frenew = some r ∧ 0 ≤ r.1) →
      wp (sendRenew env .frenew >>= fun r => if r < 0 then pure (-1) else pure 0)
        (fun r _ => r = 0 ↔ RenewSent env s) (fun _ _ => ¬ RenewSent env s) t := by
    intro t hlisten
    unfold sendRenew
    rw [wp_bind, wp_bind, wp_get]
    apply wp_sendDhcp
    · intro r u hr _
      rw [wp_ite]
      split
      · next hneg =>
        refine ⟨fun h => absurd h (by decide), fun ⟨_, r', hr', hpos⟩ => ?_⟩
        rw [hr] at hr'
        cases hr'
        omega
      · next hpos => exact ⟨fun _ => ⟨hlisten, r, hr, Int.not_lt.mp hpos⟩, fun _ => rfl⟩
    · rintro u hr - ⟨-, r', hr', -⟩
      rw [hr] at hr'
      cases hr'
  show wp (startDhcpListen env .frenew >>= fun _ => _) _ _ s
  unfold startDhcpListen
  rw [wp_bind, wp_bind, wp_get, wp_ite]
  split
  · next hfd => exact hsend s (Or.inl hfd)
  · next hfd =>
    rw [wp_bind]
    cases hsock : env.sockd .frenew with
    | none =>
      rintro ⟨h | ⟨r, hr, -⟩, -⟩
      · exact hfd h
      · rw [hsock] at hr
        cases hr
    | some r =>
      show wp (if r.1 < 0 then suicide else pure ()) _ _ _
      rw [wp_ite]
      split
      · next hneg =>
        rintro ⟨h | ⟨r', hr', hpos⟩, -⟩
        · exact hfd h
        · rw [hsock] at hr'
          cases hr'
          omega
      · next hpos => exact hsend _ (Or.inr ⟨r, hsock, Int.not_lt.mp hpos⟩)

theorem boundSignal_proceeds (s : Sys) :
    wp (boundSignal env inp) (fun _ t => Proceeds env inp s ∧ core t = core s)
      (fun _ t => ¬ Proceeds env inp s ∧ leaseTerms t = leaseTerms s) s := by
  unfold boundSignal
  rw [wp_ite]
  split
  · next hsig =>
    have hno : ¬ Proceeds env inp s := by
      rintro (h | ⟨h, -⟩)
      · exact nomatch hsig.symm.trans h
      · exact nomatch hsig.symm.trans h
    apply wp_sub
    · intro r t ht
      rw [wp_ite]
      split
      · exact ⟨hno, leaseTerms_of_core s t s.pc ht⟩
      · exact ⟨hno, leaseTerms_of_core s t s.pc ht⟩
    · exact fun t ht => ⟨hno, leaseTerms_of_core s t .dead ht⟩
  · next hrelease =>
    rw [wp_ite]
    split
    · next hsig =>
      have hsent : Proceeds env inp s ↔ RenewSent env s := by
        refine ⟨fun h => ?_, fun h => Or.inr ⟨hsig, h⟩⟩
        rcases h with h | h
        · exact nomatch hsig.symm.trans h
        · exact h.2
      rw [wp_bind, hsent]
      apply wp_routine core Dies
      apply wp_mono _ _ s _ _ _ (frenew_sent env s)
      · intro r t hr ht
        rw [wp_ite]
        split
        · next hne => exact ⟨fun h => hne (hr.mpr h), leaseTerms_of_core s t s.pc ht⟩
        · next hzero => exact ⟨hr.mp (not_not.mp hzero), ht⟩
      · rintro e t hno ⟨rfl, ht⟩
        exact ⟨hno, leaseTerms_of_core s t .dead ht⟩
    · next hrenew =>
      refine ⟨Or.inl ?_, rfl⟩
      cases hsig : inp.sevSignal with
      | none => rfl
      | renew => exact absurd hsig hrenew
      | release => exact absurd hsig hrelease

theorem termsIf_of_routine {α : Type} (p : Prop) (s t : Sys) (m : M α)
    [h : Routine leaseTerms SameTerms m] (ht : TermsIf env inp p s t) :
    wp m (fun _ u => TermsIf env inp p s u) (fun _ u => TermsIf env inp p s u) t := by
  have hkeep : ∀ u, leaseTerms u = leaseTerms t → TermsIf env inp p s u :=
    fun u hu => ⟨fun hp => hu.trans (ht.1 hp), fun hp => hu.trans (ht.2 hp)⟩
  exact wp_mono _ _ t _ _ _ (h.ends t) (fun _ u hu => hkeep u hu) (fun _ u hu => hkeep u hu)

/-- `extend_packet` for an ACK of our server, and what is done about its result: the terms are
those of the packet, whichever address it names. -/
theorem boundDhcp_terms (s t : Sys) (hstart : core t = (core s).fresh) :
    wp (boundDhcp env cfg inp) (fun _ u => TermsIf env inp (Accepts inp DHCPACK s) s u)
      (fun _ u => TermsIf env inp (Accepts inp DHCPACK s) s u) t := by
  have hrenew := isRenewing_congr s t inp.nowts hstart
  have hvalid := validateServerid_congr s t inp.dhcpPacket hstart
  have hterms : leaseTerms t = leaseTerms s := leaseTerms_of_core { s with out := [] } t s.pc hstart
  by_cases hack : Accepts inp DHCPACK s
  · obtain ⟨hdhcp, hren, htype, hours⟩ := hack
    rw [← hrenew] at hren
    rw [← hvalid] at hours
    have hnew : TermsIf env inp (Accepts inp DHCPACK s) s (withLease env inp.dhcpPacket t) :=
      ⟨fun _ => rfl, fun hno => absurd ⟨hdhcp, hrenew.mp hren, htype, hvalid ▸ hours⟩ hno⟩
    unfold boundDhcp extendPacket
    rw [wp_bind, wp_get, wp_ite, if_pos ⟨hdhcp, hren⟩, wp_bind, wp_bind, wp_get, wp_ite,
      if_pos htype, wp_ite, if_neg (by simp [hours]), wp_bind]
    show wp _ _ _ (withLease env inp.dhcpPacket t)
    rw [← wp_bind]
    exact termsIf_of_routine env inp _ s _ _ hnew
  · have hold : TermsIf env inp (Accepts inp DHCPACK s) s t := ⟨fun h => absurd h hack, fun _ => hterms⟩
    unfold boundDhcp extendPacket
    rw [wp_bind, wp_get, wp_ite]
    split
    · next h =>
      rw [wp_bind, wp_bind, wp_get, wp_ite]
      split
      · next htype =>
        have hother : (!validateServerid t.cs inp.dhcpPacket) = true := by
          rw [hvalid]
          have hno := fun hv => hack ⟨h.1, hrenew.mp h.2, htype, hv⟩
          simpa using hno
        rw [wp_ite, if_pos hother, wp_pure]
        exact hold
      · rw [← wp_bind]
        exact termsIf_of_routine env inp _ s t _ hold
    · exact hold

/-- How a pass of BOUND leaves the terms. -/
theorem boundPass_terms (s t : Sys) (hstart : core t = (core s).fresh) (hfd : t.cs.listenFd = s.cs.listenFd) :
    wp (boundPass env cfg inp) (fun _ u => TermsIf env inp (Extends env inp s) s u)
      (fun _ u => TermsIf env inp (Extends env inp s) s u) t := by
  have hproceeds : Proceeds env inp t ↔ Proceeds env inp s := by
    unfold Proceeds RenewSent
    rw [hfd]
  unfold boundPass
  rw [wp_bind]
  apply wp_mono _ _ t _ _ _ (boundSignal_proceeds env inp t)
  · rintro _ u ⟨hgo, hu⟩
    have hsame : Extends env inp s ↔ Accepts inp DHCPACK s :=
      ⟨fun h => h.2, fun h => ⟨hproceeds.mp hgo, h⟩⟩
    rw [wp_bind, hsame]
    apply wp_mono _ _ u _ _ _ (boundDhcp_terms env cfg inp s u (hu.trans hstart)) ?_ (fun _ _ h => h)
    intro _ v hv
    exact termsIf_of_routine env inp _ s v _ hv
  · rintro e u ⟨hno, hu⟩
    refine ⟨fun h => absurd (hproceeds.mpr h.1) hno, fun _ => hu.trans ?_⟩
    exact leaseTerms_of_core { s with out := [] } t s.pc hstart

/-- Jumps leave the terms alone. -/
theorem follow_terms (n : Nat) (m : M Unit) (p : Prop) (s t : Sys)
    (hm : wp m (fun _ u => TermsIf env inp p s u) (fun _ u => TermsIf env inp p s u) t) :
    wp (follow env cfg inp n m) (fun _ u => TermsIf env inp p s u)
      (fun _ u => TermsIf env inp p s u) t := by
  induction n generalizing m t with
  | zero => exact hm
  | succ n ih =>
    rw [wp_follow]
    apply wp_mono _ _ t _ _ _ hm (fun _ _ h => h)
    intro e u hu
    cases e with
    | ret => exact hu
    | exit => exact hu
    | goto l => exact ih _ u (termsIf_of_routine env inp p s u _ hu)

theorem bound_terms (s : Sys) (hpc : s.pc = .bound) :
    TermsIf env inp (Extends env inp s) s (final (dhcpHandle env cfg inp) s) := by
  apply final_of_wp _ s
  rw [wp_dhcpHandle env cfg inp _ _ s .bound hpc]
  apply follow_terms
  exact boundPass_terms env cfg inp s _ rfl rfl

theorem newlease_terms (s : Sys) (hpc : s.pc = .newlease) :
    leaseTerms (final (dhcpHandle env cfg inp) s) = leaseTerms s := by
  have hkept : TermsIf env inp False s (final (dhcpHandle env cfg inp) s) := by
    apply final_of_wp _ s
    rw [wp_dhcpHandle env cfg inp _ _ s .newlease hpc]
    apply follow_terms
    exact termsIf_of_routine env inp False s _ (restart env 0) ⟨False.elim, fun _ => rfl⟩
  exact hkept.2 id

end

/-! ## Only an ACK for the address held extends the lease -/

section
variable (cfg : ClientConfig)

/-- The call is given an ACK of our server for the address held. -/
def Step.OwnAck : Step → Sys → Prop
  | .handle _ inp, s => inp.sevDhcp = true ∧ inp.dhcpMsgtype = DHCPACK ∧
      validateServerid s.cs inp.dhcpPacket = true ∧ inp.dhcpPacket.yiaddr = s.cs.clientAddr
  | _, _ => False

/-- The call takes an ACK of our server for another address, with other terms. -/
def Step.ForeignAck : Step → Sys → Prop
  | .handle env inp, s => s.pc = .bound ∧ Extends env inp s ∧
      inp.dhcpPacket.yiaddr ≠ s.cs.clientAddr ∧
      leaseTerms (withLease env inp.dhcpPacket s) ≠ leaseTerms s
  | _, _ => False

/-- While there is a lease, its terms change only by an ACK for the address held. -/
def TermsFromOwnAck : List Step → Sys → Prop :=
  Along cfg fun st s => InLease s → leaseTerms (st.next cfg s) ≠ leaseTerms s → st.OwnAck s

theorem Step.terms_of_read (st : Step) (s : Sys) (h : ∀ env inp, st ≠ .handle env inp) :
    leaseTerms (st.next cfg s) = leaseTerms s := by
  obtain ⟨pc, hcore, -⟩ := st.core_of_read cfg s h
  exact leaseTerms_of_core { s with out := [] } _ pc hcore

/-- The only way in which the terms change. -/
theorem Step.terms_ne (st : Step) (s : Sys) (hin : InLease s)
    (hne : leaseTerms (st.next cfg s) ≠ leaseTerms s) :
    ∃ env inp, st = .handle env inp ∧ s.pc = .bound ∧ Extends env inp s ∧
      leaseTerms (withLease env inp.dhcpPacket s) ≠ leaseTerms s := by
  by_cases hhandle : ∃ env inp, st = .handle env inp
  · obtain ⟨env, inp, rfl⟩ := hhandle
    rcases hin with hpc | hpc
    · obtain ⟨hnew, hold⟩ := bound_terms env cfg inp s hpc
      by_cases hext : Extends env inp s
      · exact ⟨env, inp, rfl, hpc, hext, hnew hext ▸ hne⟩
      · exact absurd (hold hext) hne
    · exact absurd (newlease_terms env cfg inp s hpc) hne
  · exact absurd (st.terms_of_read cfg s fun env inp h => hhandle ⟨env, inp, h⟩) hne

theorem Step.own_iff (st : Step) (s : Sys) :
    (InLease s → leaseTerms (st.next cfg s) ≠ leaseTerms s → st.OwnAck s) ↔ ¬ st.ForeignAck s := by
  constructor
  · intro hown hforeign
    cases st with
    | handle env inp =>
      obtain ⟨hpc, hext, hip, hne⟩ := hforeign
      have hnext := (bound_terms env cfg inp s hpc).1 hext
      have hack := hown (Or.inl hpc) (fun h => hne (hnext.symm.trans h))
      exact hip hack.2.2.2
    | idle => exact hforeign
    | exit => exact hforeign
    | arp => exact hforeign
    | dhcp => exact hforeign
  · intro hno hin hne
    obtain ⟨env, inp, rfl, hpc, hext, hterms⟩ := st.terms_ne cfg s hin hne
    have hack := hext.2
    refine ⟨hack.1, hack.2.2.1, hack.2.2.2, ?_⟩
    by_contra hip
    exact hno ⟨hpc, hext, hip, hterms⟩

/-- **Only an ACK for the address held extends the lease**, exactly in the runs in which the
client takes no ACK for another address. -/
theorem terms_own_iff (b : Startup) (steps : List Step) :
    TermsFromOwnAck cfg steps (.start b) ↔ Along cfg (fun st s => ¬ st.ForeignAck s) steps (.start b) :=
  Along.congr cfg _ _ (fun st s => st.own_iff cfg s) steps _

end

/-- An ACK for 192.168.1.20, with a lease of 7200 seconds. -/
def otherAck : DhcpMsg :=
  reply [192, 168, 1, 20] [53, 1, 5, 51, 4, 0, 0, 28, 32, 54, 4, 192, 168, 1, 1, 255] (by decide +kernel)

/-- The lease of 192.168.1.10 comes to its renewal time. -/
def renewalEnv : Env := { calmEnv with curms := fun _ => 1800000 }

def otherAckRun : List Step := boundRun ++ [.handle renewalEnv { quietInput 1800000 with
  sevDhcp := true, dhcpPacket := otherAck, dhcpMsgtype := DHCPACK, dhcpSrcaddr := 0xc0a80101 }]

/-- The client keeps 192.168.1.10, for the 7200 seconds of another address. -/
theorem other_ack_taken :
    ¬ TermsFromOwnAck exampleConfig otherAckRun exampleStart ∧
      (run exampleConfig otherAckRun exampleStart).pc = .bound ∧
      (run exampleConfig otherAckRun exampleStart).cs.clientAddr = 0xc0a8010a ∧
      (run exampleConfig otherAckRun exampleStart).cs.lease = 7200 := by
  refine ⟨?_, by decide +kernel, by decide +kernel, by decide +kernel⟩
  intro h
  obtain ⟨-, -, -, -, -, h, -⟩ := h
  have hown := h (Or.inl (by decide +kernel)) (by decide +kernel)
  exact absurd hown.2.2.2 (by decide +kernel)

end Ndhc
