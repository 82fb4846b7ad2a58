import Ndhc.Client.Probing

/-!
# Conflicts and binding

Whether a conflict found while probing keeps the client from binding the address.

`arp_do_collision_check` compares the sender's hardware address the wrong way round, so it
counts the client's own replies and lets those of other hosts pass: a run respects conflicts
exactly when no own reply is handed over and none of another host's is followed by the end of
the wait (`conflicts_respected_iff`).  And where a conflict was counted, it is only the decline
message that ends the phase: if it cannot be sent, the disarmed timer (`-1`) is due at once and
the address is bound (`flagged_never_bound_iff`).
-/

namespace Ndhc

open Prog

/-! ## Marks -/

theorem mem_out_iff (s : Sys) (e : Effect) (he : e.isMark = true) :
    e ∈ s.out ↔ e ∈ (core s).marks := by
  simp [he]

section
variable (cfg : ClientConfig)

/-! ## What a step of the phase does -/

/-- A reply for the probed address, addressed to us. -/
def Replies (garp : ArpData) : Prop :=
  arpIsQueryReply cfg.arp garp.reply ≠ 0 ∧ garp.reply.sip4 = htonl garp.dhcpPacket.yiaddr

/-- The step hands `arp_do_collision_check` another host's reply for the probed address. -/
def Step.HandsForeign : Step → Sys → Prop
  | .handle _ inp, s => inp.sevSignal ≠ .release ∧ inp.sevArp = true ∧ Replies cfg s.garp ∧
      s.garp.reply.smac ≠ cfg.arp.bytes
  | _, _ => False

/-- The step hands `arp_do_collision_check` our own reply for the probed address. -/
def Step.HandsOwn : Step → Sys → Prop
  | .handle _ inp, s => inp.sevSignal ≠ .release ∧ inp.sevArp = true ∧ Replies cfg s.garp ∧
      s.garp.reply.smac = cfg.arp.bytes
  | _, _ => False

/-- The step finds the ARP timer due and the wait over. -/
def Step.EndsWait : Step → Sys → Prop
  | .handle _ inp, s => WaitOver cfg inp s
  | _, _ => False

theorem recognises_iff (env : Env) (inp : Input) (s : Sys) :
    Recognises cfg inp s ↔ Step.HandsOwn cfg (.handle env inp) s := by
  constructor
  · rintro ⟨hsig, harp, hq, hip, hmac⟩
    exact ⟨hsig, harp, ⟨hq, hip⟩, hmac.symm⟩
  · rintro ⟨hsig, harp, ⟨hq, hip⟩, hmac⟩
    exact ⟨hsig, harp, hq, hip, hmac.symm⟩

/-- Every call of the phase is one of the three kinds. -/
theorem probing_handle (env : Env) (inp : Input) (s : Sys) (hpc : s.pc = .probing) :
    (Recognises cfg inp s ∧ ∃ e, ConflictCall env s e (final (dhcpHandle env cfg inp) s)) ∨
    (¬ Recognises cfg inp s ∧ WaitOver cfg inp s ∧ LeaseCall s (final (dhcpHandle env cfg inp) s)) ∨
    (¬ Recognises cfg inp s ∧ ¬ WaitOver cfg inp s ∧
      ProbeCall s (final (dhcpHandle env cfg inp) s)) := by
  by_cases hrec : Recognises cfg inp s
  · refine Or.inl ⟨hrec, final_of_wp _ s (fun t => ∃ e, ConflictCall env s e t) ?_⟩
    exact wp_mono _ _ s _ _ _ (conflict_call env cfg inp s hpc hrec) (fun _ _ h => h.elim)
      (fun e _ h => ⟨e, h⟩)
  · by_cases hover : WaitOver cfg inp s
    · refine Or.inr (Or.inl ⟨hrec, hover, final_of_wp _ s (LeaseCall s) ?_⟩)
      exact wp_mono _ _ s _ _ _ (lease_call env cfg inp s hpc hrec hover) (fun _ _ h => h.elim)
        (fun _ _ h => h)
    · refine Or.inr (Or.inr ⟨hrec, hover, final_of_wp _ s (ProbeCall s) ?_⟩)
      exact wp_mono _ _ s _ _ _ (probe_call env cfg inp s hpc hrec hover) (fun _ _ h => h.elim)
        (fun _ _ h => h)

theorem ConflictCall.marks (env : Env) (s t : Sys) (e : Stop) (h : ConflictCall env s e t) :
    (core t).marks = [.conflict (probed s)] := by
  rcases h with ⟨-, -, -, h⟩ | ⟨-, c, hc, h⟩
  · exact h
  · rw [(h.calm c e t).marks, hc]
    rfl

theorem ConflictCall.probed (env : Env) (s t : Sys) (e : Stop) (h : ConflictCall env s e t)
    (hpc : t.pc = .probing) : probed t = probed s := by
  rcases h with ⟨-, -, h, -⟩ | ⟨-, c, -, h⟩
  · exact h
  · rcases h.pc c e t with h | h | h <;> exact nomatch hpc.symm.trans h

/-- What a step of the phase comes to, by what it is given. -/
theorem Step.probing_cases (st : Step) (s : Sys) (hpc : s.pc = .probing) :
    ((st.HandsOwn cfg s ∧ (core (st.next cfg s)).marks = [.conflict (probed s)]) ∨
      (¬ st.HandsOwn cfg s ∧ st.EndsWait cfg s ∧ (core (st.next cfg s)).marks = [.bind (probed s)]) ∨
      (¬ st.HandsOwn cfg s ∧ ¬ st.EndsWait cfg s ∧ (core (st.next cfg s)).marks = [])) ∧
    ((st.next cfg s).pc = .probing → probed (st.next cfg s) = probed s) := by
  -- outside a call nothing but reading is done
  have hread : (∀ env inp, st ≠ .handle env inp) →
      (core (st.next cfg s)).marks = [] ∧ probed (st.next cfg s) = probed s := by
    intro h
    obtain ⟨pc, hcore, -⟩ := st.core_of_read cfg s h
    exact ⟨congrArg Core.marks hcore, probed_of_core s _ (by rw [hcore])⟩
  cases st with
  | handle env inp =>
    rw [← recognises_iff cfg env inp s]
    rcases probing_handle cfg env inp s hpc with ⟨hrec, e, h⟩ | ⟨hno, hover, h⟩ | ⟨hno, hover, h⟩
    · exact ⟨Or.inl ⟨hrec, h.marks⟩, h.probed⟩
    · refine ⟨Or.inr (Or.inl ⟨hno, hover, h.1⟩), fun hp => ?_⟩
      rcases h.2 with h | h <;> exact nomatch hp.symm.trans h
    · refine ⟨Or.inr (Or.inr ⟨hno, hover, h.1⟩), fun hp => ?_⟩
      rcases h.2 with h | h | h | h
      · exact h.2
      · exact nomatch hp.symm.trans h
      · exact nomatch hp.symm.trans h
      · exact nomatch hp.symm.trans h
  | idle => exact ⟨Or.inr (Or.inr ⟨id, id, (hread nofun).1⟩), fun _ => (hread nofun).2⟩
  | exit => exact ⟨Or.inr (Or.inr ⟨id, id, (hread nofun).1⟩), fun _ => (hread nofun).2⟩
  | arp => exact ⟨Or.inr (Or.inr ⟨id, id, (hread nofun).1⟩), fun _ => (hread nofun).2⟩
  | dhcp => exact ⟨Or.inr (Or.inr ⟨id, id, (hread nofun).1⟩), fun _ => (hread nofun).2⟩

/-! ## Conflicts are respected -/

/-- In the rest of the phase: once another host's reply for `a` was handed over, `a` is not
bound, and no reply of our own counts as a conflict. -/
def Respected (a : UInt32) : Prop → List Step → Sys → Prop
  | _, [], _ => True
  | seen, st :: steps, s => s.pc = .probing →
    (seen ∨ st.HandsForeign cfg s → Effect.bind a ∉ (st.next cfg s).out) ∧
    (st.HandsOwn cfg s → Effect.conflict a ∉ (st.next cfg s).out) ∧
    Respected a (seen ∨ st.HandsForeign cfg s) steps (st.next cfg s)

/-- In the rest of the phase: no reply of our own is handed over, and once another host's was,
no timeout finds the wait over. -/
def NoneMisjudged : Prop → List Step → Sys → Prop
  | _, [], _ => True
  | seen, st :: steps, s => s.pc = .probing →
    (seen ∨ st.HandsForeign cfg s → ¬ st.EndsWait cfg s) ∧ ¬ st.HandsOwn cfg s ∧
    NoneMisjudged (seen ∨ st.HandsForeign cfg s) steps (st.next cfg s)

/-- Outside the phase there is nothing to respect. -/
theorem respected_iff_of_left (a : UInt32) (seen : Prop) (steps : List Step) (s : Sys)
    (hpc : s.pc ≠ .probing) : Respected cfg a seen steps s ↔ NoneMisjudged cfg seen steps s := by
  cases steps with
  | nil => exact Iff.rfl
  | cons st steps => exact ⟨fun _ h => absurd h hpc, fun _ h => absurd h hpc⟩

theorem respected_iff (seen : Prop) (steps : List Step) (s : Sys) :
    Respected cfg (probed s) seen steps s ↔ NoneMisjudged cfg seen steps s := by
  induction steps generalizing seen s with
  | nil => exact Iff.rfl
  | cons st steps ih =>
    refine forall_congr' fun hpc => ?_
    obtain ⟨hcases, hprobed⟩ := Step.probing_cases cfg st s hpc
    have hrest : Respected cfg (probed s) (seen ∨ st.HandsForeign cfg s) steps (st.next cfg s) ↔
        NoneMisjudged cfg (seen ∨ st.HandsForeign cfg s) steps (st.next cfg s) := by
      by_cases hnext : (st.next cfg s).pc = .probing
      · rw [← hprobed hnext]
        exact ih _ _
      · exact respected_iff_of_left cfg _ _ _ _ hnext
    rw [mem_out_iff _ _ rfl, mem_out_iff _ _ rfl, hrest]
    rcases hcases with ⟨hown, hmarks⟩ | ⟨hown, hwait, hmarks⟩ | ⟨hown, hwait, hmarks⟩
    · rw [hmarks]
      simp [hown]
    · rw [hmarks]
      simp [hown, hwait]
    · rw [hmarks]
      simp [hown, hwait]

/-- **Conflicts found while probing prevent binding**, exactly in the runs in which none is
misjudged. -/
theorem conflicts_respected_iff (steps : List Step) (s : Sys) :
    Respected cfg (probed s) False steps s ↔ NoneMisjudged cfg False steps s :=
  respected_iff cfg False steps s

end

/-! ## Another host's reply is ignored -/

/-- A call with nothing to do. -/
def quietInput (nowts : Int) : Input where
  nowts := nowts
  sevDhcp := false
  dhcpPacket := .zero
  dhcpMsgtype := 0
  dhcpSrcaddr := 0
  sevArp := false
  forceFingerprint := false
  dhcpTimeout := false
  arpTimeout := false
  sevSignal := .none

/-- An ARP timer is due at `now`. -/
def timerInput (now : Int) : Input := { quietInput now with arpTimeout := true }

def exampleOffer : DhcpMsg :=
  reply [192, 168, 1, 10] [53, 1, 2, 54, 4, 192, 168, 1, 1, 255] (by decide +kernel)

/-- Lease of an hour, gateway and server 192.168.1.1. -/
def exampleAck : DhcpMsg :=
  reply [192, 168, 1, 10]
    [53, 1, 5, 51, 4, 0, 0, 14, 16, 54, 4, 192, 168, 1, 1, 1, 4, 255, 255, 255, 0, 3, 4, 192, 168, 1, 1, 255]
    (by decide +kernel)

/-- Discover, offer, request, acknowledgement. -/
def probingRun : List Step := [
  .handle calmEnv { quietInput 0 with dhcpTimeout := true },
  .handle calmEnv { quietInput 0 with
    sevDhcp := true, dhcpPacket := exampleOffer, dhcpMsgtype := DHCPOFFER, dhcpSrcaddr := 0xc0a80101 },
  .handle calmEnv { quietInput 0 with dhcpTimeout := true },
  .handle calmEnv { quietInput 0 with
    sevDhcp := true, dhcpPacket := exampleAck, dhcpMsgtype := DHCPACK, dhcpSrcaddr := 0xc0a80101 }]

def probingState : Sys := run exampleConfig probingRun exampleStart

/-- An ARP reply to us for 192.168.1.10. -/
def arpReplyFrom (smac : List UInt8) : List UInt8 :=
  exampleConfig.arp.bytes ++ smac ++ [8, 6, 0, 1, 8, 0, 6, 4, 0, 2] ++ smac ++ [192, 168, 1, 10] ++
    exampleConfig.arp.bytes ++ [0, 0, 0, 0]

/-- A host with another hardware address answers the probe; two seconds later the address is
bound. -/
theorem foreign_reply_bound :
    ¬ Respected exampleConfig (probed probingState) False
      [.arp calmEnv .zero (.data (arpReplyFrom [2, 0, 0, 0, 0, 9])),
        .handle calmEnv { quietInput 100 with sevArp := true },
        .handle calmEnv { quietInput 2000 with arpTimeout := true }] probingState := by
  intro h
  obtain ⟨-, -, h⟩ := h (by decide +kernel)
  obtain ⟨-, -, h⟩ := h (by decide +kernel)
  obtain ⟨h, -, -⟩ := h (by decide +kernel)
  refine h (Or.inl (Or.inr ⟨by decide, rfl, ⟨?_, ?_⟩, ?_⟩)) ?_
  · decide +kernel
  · decide +kernel
  · decide +kernel
  · decide +kernel

/-! ## A conflict once counted -/

section
variable (ck : NetChecksum) (cfg : ClientConfig)

/-- `a` is not bound in the iterations to come, up to one that starts a new check. -/
def NeverBound (a : UInt32) : List Iteration → Work → Prop
  | [], _ => True
  | it :: its, w => Effect.bind a ∉ (work ck cfg it w).sys.out ∧
    ((∀ b, Effect.arpCheck b ∉ (work ck cfg it w).sys.out) → NeverBound a its (work ck cfg it w))

/-- Iterations in the order of the clock. -/
def InOrder (its : List Iteration) : Prop := its.Pairwise fun i j => i.nowts ≤ j.nowts

/-- No lease is held or about to be taken. -/
def Leaseless (s : Sys) : Prop := s.pc ≠ .probing ∧ s.pc ≠ .bound

theorem EndsLeaseless.cases (c : Core) (e : Stop) (t : Sys) (h : EndsLeaseless c e t)
    (hmarks : c.marks = []) :
    ((core t).marks = [] ∧ Leaseless t) ∨ ∃ a, (core t).marks = [.arpCheck a] := by
  match e, h with
  | .ret _, Or.inl ⟨hcalm, hpc⟩ =>
    refine Or.inl ⟨by rw [hcalm.marks, hmarks]; rfl, ?_⟩
    rcases hpc with h | h | h <;> exact ⟨by rw [h]; decide, by rw [h]; decide⟩
  | .ret _, Or.inr ⟨⟨a, hcalm⟩, _⟩ => exact Or.inr ⟨a, by rw [hcalm.marks, hmarks]; rfl⟩
  | .exit, ⟨hcalm, hpc⟩ =>
    exact Or.inl ⟨by rw [hcalm.marks, hmarks]; rfl, by rw [hpc]; decide, by rw [hpc]; decide⟩

/-- An iteration without a lease at most starts a check. -/
theorem leaseless_work (it : Iteration) (w : Work) (h : Leaseless w.sys) :
    ((core (work ck cfg it w).sys).marks = [] ∧ Leaseless (work ck cfg it w).sys) ∨
      ∃ a, (core (work ck cfg it w).sys).marks = [.arpCheck a] := by
  rcases work_cases ck cfg it w with ⟨pc, hcore, hpc⟩ | ⟨t, inp, hcore, hwork, -⟩
  · left
    refine ⟨congrArg Core.marks hcore, ?_⟩
    have hnext : (work ck cfg it w).sys.pc = pc := congrArg Core.pc hcore
    rcases hpc with rfl | rfl
    · exact ⟨hnext ▸ h.1, hnext ▸ h.2⟩
    · exact ⟨by rw [hnext]; decide, by rw [hnext]; decide⟩
  · have hpc : t.pc = w.sys.pc := congrArg Core.pc hcore
    rw [hwork]
    apply final_of_wp (dhcpHandle it.env cfg inp) t fun t =>
      ((core t).marks = [] ∧ Leaseless t) ∨ ∃ a, (core t).marks = [.arpCheck a]
    apply wp_mono _ _ t _ _ _ (leaseless_call it.env cfg inp t (hpc ▸ h.1) (hpc ▸ h.2))
      (fun _ _ h => h.elim)
    exact fun e u hu => hu.cases _ e u rfl

theorem neverBound_of_leaseless (a : UInt32) (its : List Iteration) (w : Work)
    (h : Leaseless w.sys) : NeverBound ck cfg a its w := by
  induction its generalizing w with
  | nil => trivial
  | cons it its ih =>
    rcases leaseless_work ck cfg it w h with ⟨hmarks, hnext⟩ | ⟨b, hmarks⟩
    · refine ⟨?_, fun _ => ih _ hnext⟩
      rw [mem_out_iff _ _ rfl, hmarks]
      simp
    · refine ⟨?_, fun hno => absurd ?_ (hno b)⟩
      · rw [mem_out_iff _ _ rfl, hmarks]
        simp
      · rw [mem_out_iff _ _ rfl, hmarks]
        simp

/-- The iteration that counted the conflict called `dhcp_handle`, which ended as `conflict_call`
has it. -/
theorem conflict_work (it : Iteration) (w : Work) (hpc : w.sys.pc = .probing)
    (hrec : Effect.conflict (probed w.sys) ∈ (work ck cfg it w).sys.out) :
    (work ck cfg it w).rfkillSet = false ∧
      ∃ t e, probed t = probed w.sys ∧ ConflictCall it.env t e (work ck cfg it w).sys := by
  rw [mem_out_iff _ _ rfl] at hrec
  rcases work_cases ck cfg it w with ⟨pc, hcore, -⟩ | ⟨t, inp, hcore, hwork, hset⟩
  · rw [hcore] at hrec
    cases hrec
  · refine ⟨hset, t, ?_⟩
    rw [hwork] at hrec ⊢
    have ht : t.pc = .probing := (congrArg Core.pc hcore).trans hpc
    rcases probing_handle cfg it.env inp t ht with ⟨-, e, h⟩ | ⟨-, -, h⟩ | ⟨-, -, h⟩
    · exact ⟨e, probed_of_core w.sys t (by rw [hcore]), h⟩
    · rw [h.1] at hrec
      simp at hrec
    · rw [h.1] at hrec
      cases hrec

/-- An iteration without an event, late enough for the wait to be over. -/
def lateIteration (env : Env) (nowts : Int) (s : Sys) : Iteration where
  env := env
  event := .none
  nowts := max nowts (max (arpGetWakeTs s.garp) (s.garp.arpCheckStartTs + ANNOUNCE_WAIT))
  carrierUnblocked := true
  carrierIsup := true

/-- While the client is still probing, time alone makes it bind. -/
theorem lateIteration_binds (env : Env) (nowts : Int) (w : Work) (hpc : w.sys.pc = .probing)
    (hset : w.rfkillSet = false) :
    Effect.bind (probed w.sys) ∈ (work ck cfg (lateIteration env nowts w.sys) w).sys.out := by
  obtain ⟨it, hit⟩ : ∃ it, lateIteration env nowts w.sys = it := ⟨_, rfl⟩
  have hwake : arpGetWakeTs w.sys.garp ≤ it.nowts := by
    rw [← hit]
    exact le_max_of_le_right (le_max_left _ _)
  have hwait : w.sys.garp.arpCheckStartTs + ANNOUNCE_WAIT ≤ it.nowts := by
    rw [← hit]
    exact le_max_of_le_right (le_max_right _ _)
  have hevent : it.event = .none := hit ▸ rfl
  have hisup : it.carrierIsup = true := hit ▸ rfl
  rw [hit, mem_out_iff _ _ rfl]
  unfold work
  rw [if_neg (by rw [hpc]; decide), hevent]
  show _ ∈ (core (if usable it w .empty then final _ { w.sys with out := [] } else _)).marks
  rw [if_pos ⟨hset, hisup⟩]
  rcases probing_handle cfg it.env
    (callInput { w.sys with out := [] } w.dhcpPacket it.nowts
      (latches w it.carrierUnblocked .empty).2.2 .empty)
    { w.sys with out := [] } hpc with ⟨hrec, -⟩ | ⟨-, -, h⟩ | ⟨-, hover, -⟩
  · exact nomatch hrec.2.1
  · rw [h.1]
    exact List.mem_singleton.mpr rfl
  · exact absurd ⟨nofun, decide_eq_true hwake, Or.inl hwait⟩ hover

/-- **A conflict once counted is never bound**, exactly if the decline message does not fail. -/
theorem flagged_never_bound_iff (it : Iteration) (w : Work) (hpc : w.sys.pc = .probing)
    (hrec : Effect.conflict (probed w.sys) ∈ (work ck cfg it w).sys.out) :
    (∀ its, InOrder (it :: its) → NeverBound ck cfg (probed w.sys) its (work ck cfg it w)) ↔
      ¬ DeclineFails it.env := by
  obtain ⟨hset, t, e, hprobed, hcall⟩ := conflict_work ck cfg it w hpc hrec
  constructor
  · intro hnever hfails
    rcases hcall with ⟨-, hstays, hsame, -⟩ | ⟨hok, -⟩
    · have horder : InOrder [it, lateIteration it.env it.nowts (work ck cfg it w).sys] :=
        List.pairwise_pair.mpr (le_max_left _ _)
      apply (hnever _ horder).1
      rw [← hprobed, ← hsame]
      exact lateIteration_binds ck cfg it.env it.nowts _ hstays hset
    · exact hok hfails
  · intro hok its _
    apply neverBound_of_leaseless
    rcases hcall with ⟨hfails, -⟩ | ⟨-, c, -, hidle⟩
    · exact absurd hfails hok
    · rcases hidle.pc c e _ with h | h | h <;> exact ⟨by rw [h]; decide, by rw [h]; decide⟩

end

/-- Probing, with the interface up. -/
def probingWork : Work := ⟨probingState, .zero, false, false⟩

/-- Our own reply is read. -/
def ownReply (env : Env) : Iteration :=
  ⟨env, .arp .zero (.data (arpReplyFrom exampleConfig.arp.bytes)), 100, true, true⟩

def declineFailsEnv : Env :=
  { calmEnv with send := fun site => if site = .decline then some (-1) else some 60 }

theorem declined_never_bound :
    Effect.conflict (probed probingWork.sys) ∈
        (work inetChecksum exampleConfig (ownReply calmEnv) probingWork).sys.out ∧
      ∀ its, InOrder (ownReply calmEnv :: its) →
        NeverBound inetChecksum exampleConfig (probed probingWork.sys) its
          (work inetChecksum exampleConfig (ownReply calmEnv) probingWork) := by
  have hrec : Effect.conflict (probed probingWork.sys) ∈
      (work inetChecksum exampleConfig (ownReply calmEnv) probingWork).sys.out := by decide +kernel
  have hok : ¬ DeclineFails (ownReply calmEnv).env := not_sendFails calmEnv .decline 60 rfl (by decide)
  exact ⟨hrec, (flagged_never_bound_iff inetChecksum exampleConfig (ownReply calmEnv) probingWork
    (by decide +kernel) hrec).mpr hok⟩

/-- The decline message fails, and two seconds later the address is bound. -/
theorem undeclined_bound :
    Effect.conflict (probed probingWork.sys) ∈
        (work inetChecksum exampleConfig (ownReply declineFailsEnv) probingWork).sys.out ∧
      ¬ NeverBound inetChecksum exampleConfig (probed probingWork.sys)
        [⟨calmEnv, .none, 2000, true, true⟩]
        (work inetChecksum exampleConfig (ownReply declineFailsEnv) probingWork) := by
  refine ⟨by decide +kernel, fun h => ?_⟩
  have hbind : Effect.bind (probed probingWork.sys) ∈
      (work inetChecksum exampleConfig ⟨calmEnv, .none, 2000, true, true⟩
        (work inetChecksum exampleConfig (ownReply declineFailsEnv) probingWork)).sys.out := by
    decide +kernel
  exact h.1 hbind

end Ndhc
