import Ndhc.Client.Acquire
import Ndhc.Client.LeaseTimer

/-!
# How often an offer is asked for

Between the offer and the next entry to SELECTING, RELEASED or BOUND the requests of
`requesting_timeout` are counted by `num_dhcp_requests` and kept apart by `dhcp_wake_ts`; an ACK
moves the one far ahead and leaves the other alone, so REQUESTING and probing share both
(`Paced`).  At most five requests are sent, 4000 ms apart, and a sixth takes the client back to
SELECTING (`requests_bounded`).
-/

namespace Ndhc

open Prog

/-! ## Statement -/

section
variable (cfg : ClientConfig)

/-- When the step sent requests for an address that was offered. -/
def Step.requestTimes (st : Step) (s : Sys) : List Int :=
  match st with
  | .handle _ inp => (bidsOf DHCPREQUEST (st.next cfg s)).map fun _ => inp.nowts
  | _ => []

def requestTimes : List Step → Sys → List Int
  | [], _ => []
  | st :: steps, s => st.requestTimes cfg s ++ requestTimes steps (st.next cfg s)

end

section
variable (env : Env) (cfg : ClientConfig) (inp : Input)

/-- A pass of REQUESTING or probing up to its timer. -/
def ahead : Pc → M Unit
  | .requesting => do
    onRelease inp
    requestingDhcp env cfg inp
  | _ => do
    onRelease inp
    probingArp env cfg inp
    probingArpTimeout env cfg inp

/-- The call comes to `requesting_timeout`. -/
def ReachesTimer (s : Sys) : Prop :=
  inp.dhcpTimeout = true ∧ ∃ u, ahead env cfg inp s.pc { s with out := [] } = .ok () u

/-! ## The pace of requests -/

theorem delayTimeout_ge (n : Nat) : 4000 ≤ delayTimeout env n := by
  unfold delayTimeout
  have hsteps : (4 : Int) ≤ [4, 8, 16, 32, 64].getD n 64 := by
    match n with
    | 0 => decide
    | 1 => decide
    | 2 => decide
    | 3 => decide
    | 4 => decide
    | n + 5 => exact show (4 : Int) ≤ 64 by decide
  omega

theorem leaseTimer_ge (packet : DhcpMsg) : env.curms .getLeasetime + 30000 ≤ leaseTimer env packet := by
  unfold leaseTimer
  have hlease := le_leaseOf (getOptionLeasetime packet)
  rw [UInt32.toNat_shiftRight, Nat.shiftRight_eq_div_pow]
  have h1 : 2 ^ ((1 : UInt32).toNat % 32) = 2 := rfl
  rw [h1]
  omega

end

/-- What the requests sent at `times` since the offer leave of the counter and the timer. -/
structure Paced (now : Int) (times : List Int) (s : Sys) : Prop where
  count : s.cs.numDhcpRequests = times.length
  bound : times.length ≤ 5
  past : ∀ r ∈ times, r ≤ now
  due : ∀ r ∈ times, r + 4000 ≤ s.cs.dhcpWakeTs
  apart : times.Pairwise fun r r' => r + 4000 ≤ r'

section
variable (env : Env) (cfg : ClientConfig) (inp : Input) {now : Int} {times : List Int} {s t : Sys}

theorem Paced.of_quest (h : Paced now times s) (later : Int) (hle : now ≤ later)
    (hnum : t.cs.numDhcpRequests = s.cs.numDhcpRequests) (hwake : ∀ r ∈ times, r + 4000 ≤ t.cs.dhcpWakeTs) :
    Paced later times t :=
  ⟨hnum.trans h.count, h.bound, fun r hr => (h.past r hr).trans hle, hwake, h.apart⟩

theorem Paced.keep (h : Paced now times s) (later : Int) (hle : now ≤ later)
    (hnum : t.cs.numDhcpRequests = s.cs.numDhcpRequests) (hwake : t.cs.dhcpWakeTs = s.cs.dhcpWakeTs) :
    Paced later times t :=
  h.of_quest later hle hnum fun r hr => hwake ▸ h.due r hr

/-- A request is sent once those before it are 4000 ms old. -/
theorem Paced.timer (h : Paced now times s) (hle : now ≤ inp.nowts)
    (htimeout : inp.dhcpTimeout = true → ∀ r ∈ times, r + 4000 ≤ inp.nowts) (hs : bidsOf DHCPREQUEST s = [])
    (hdone : TimerDone env inp s t) :
    Paced inp.nowts (times ++ (bidsOf DHCPREQUEST t).map fun _ => inp.nowts) t := by
  rcases hdone with ⟨hsends, hnum, hout, hquest⟩ | ⟨-, hout, hquest⟩
  · have hone : (bidsOf DHCPREQUEST t).map (fun _ => inp.nowts) = [inp.nowts] := by
      rw [bidsOf, hout, List.filter_append, show s.out.filter _ = [] from hs]
      rfl
    have hcount := h.count
    have hnum' : t.cs.numDhcpRequests = s.cs.numDhcpRequests + 1 := congrArg Quest.numDhcpRequests hquest
    have hwake : t.cs.dhcpWakeTs = inp.nowts + delayTimeout env s.cs.numDhcpRequests :=
      congrArg Quest.dhcpWakeTs hquest
    have hdelay := delayTimeout_ge env s.cs.numDhcpRequests
    rw [hone]
    refine ⟨?_, ?_, ?_, ?_, ?_⟩
    · rw [hnum', hcount, List.length_append]
      rfl
    · rw [List.length_append, List.length_singleton]
      omega
    · intro r hr
      rcases List.mem_append.mp hr with hr | hr
      · exact (h.past r hr).trans hle
      · exact Int.le_of_eq (List.mem_singleton.mp hr)
    · intro r hr
      have hr' : r ≤ inp.nowts := by
        rcases List.mem_append.mp hr with hr | hr
        · exact (h.past r hr).trans hle
        · exact Int.le_of_eq (List.mem_singleton.mp hr)
      omega
    · rw [List.pairwise_append]
      refine ⟨h.apart, List.pairwise_singleton _ _, ?_⟩
      intro r hr r' hr'
      rw [List.mem_singleton.mp hr']
      exact htimeout hsends.1 r hr
  · have hnone : (bidsOf DHCPREQUEST t).map (fun _ => inp.nowts) = [] := by
      rw [bidsOf, hout, show s.out.filter _ = [] from hs]
      rfl
    rw [hnone, List.append_nil]
    exact h.keep inp.nowts hle (congrArg Quest.numDhcpRequests hquest) (congrArg Quest.dhcpWakeTs hquest)

/-- A probe does not touch the requests. -/
theorem Paced.probe (h : Paced now times s) (hprobe : ProbeDone s t) : Paced now times t := by
  rcases hprobe with ⟨-, hquest⟩ | ⟨-, hquest⟩
  · exact h.keep now (Int.le_refl now) (congrArg Quest.numDhcpRequests hquest) (congrArg Quest.dhcpWakeTs hquest)
  · exact h.keep now (Int.le_refl now) (congrArg Quest.numDhcpRequests hquest) (congrArg Quest.dhcpWakeTs hquest)

/-- A call that goes on with the quest goes on with the pace. -/
theorem Paced.goes (h : Paced now times s) (hle : now ≤ inp.nowts) (hclock : inp.nowts ≤ env.curms .getLeasetime)
    (htimeout : inp.dhcpTimeout = true → s.cs.dhcpWakeTs ≤ inp.nowts) (hs : s.out = [])
    (hgoes : Goes env cfg inp s t) :
    Paced inp.nowts (times ++ (bidsOf DHCPREQUEST t).map fun _ => inp.nowts) t := by
  have hsilent : ∀ {u : Sys}, bidsOf DHCPREQUEST u = [] →
      times ++ (bidsOf DHCPREQUEST u).map (fun _ => inp.nowts) = times := by
    intro u hu
    rw [hu]
    exact List.append_nil _
  have hdue : inp.dhcpTimeout = true → ∀ r ∈ times, r + 4000 ≤ inp.nowts :=
    fun hto r hr => (h.due r hr).trans (htimeout hto)
  have hnone : bidsOf DHCPREQUEST s = [] := by
    rw [bidsOf, hs]
    rfl
  cases hgoes with
  | waits _ _ hdone => exact h.timer env inp hle hdue hnone hdone
  | acks _ hacks =>
    obtain ⟨sid, -, hquest⟩ := hacks.quest
    rw [hsilent (by rw [bidsOf, hacks.out, hs]; rfl)]
    apply h.of_quest inp.nowts hle (congrArg Quest.numDhcpRequests hquest)
    intro r hr
    have hwake : t.cs.dhcpWakeTs = leaseTimer env inp.dhcpPacket := congrArg Quest.dhcpWakeTs hquest
    have hfar := leaseTimer_ge env inp.dhcpPacket
    have hpast := h.past r hr
    omega
  | conflicts _ _ _ hquest hout =>
    rw [hsilent (by rw [bidsOf, hout, hs]; rfl)]
    exact h.keep inp.nowts hle (congrArg Quest.numDhcpRequests hquest) (congrArg Quest.dhcpWakeTs hquest)
  | probes _ _ _ u hprobe hdone =>
    have hu : bidsOf DHCPREQUEST u = [] := by
      rcases hprobe with ⟨hout, -⟩ | ⟨hout, -⟩
      · rw [bidsOf, hout, hs]
        rfl
      · rw [bidsOf, hout, hs]
        rfl
    rcases hdone with hdone | ⟨hout, hquest⟩
    · exact (h.probe hprobe).timer env inp hle hdue hu hdone
    · rw [hsilent (by rw [bidsOf, hout]; exact hu)]
      exact (h.probe hprobe).keep inp.nowts hle (congrArg Quest.numDhcpRequests hquest)
        (congrArg Quest.dhcpWakeTs hquest)

end

/-! ## The sixth request -/

section
variable {α : Type} (v : UInt32) (env : Env) (cfg : ClientConfig) (inp : Input)

/-- The address asked for. -/
@[reducible] def clientAddr (s : Sys) : UInt32 := s.cs.clientAddr

instance : Keeps clientAddr v (suicide : M α) := ⟨fun _ h => h⟩

instance (o : Option α) : Keeps clientAddr v (ask o) := by
  cases o with
  | none => exact inferInstanceAs (Keeps clientAddr v suicide)
  | some a => exact inferInstanceAs (Keeps clientAddr v (pure a))

instance (l : Label) : Keeps clientAddr v (goto l : M α) := ⟨fun _ h => h⟩

instance (code : Int) (pc : Pc) : Keeps clientAddr v (scrReturn code pc : M α) := ⟨fun _ h => h⟩

instance (e : Effect) : Keeps clientAddr v (emit e) := ⟨fun _ h => h⟩

instance (site : Site) : Keeps clientAddr v (sendDiscover env site) := by
  unfold sendDiscover sendDhcp
  infer_instance

instance (nowts : Int) : Keeps clientAddr v (selectingTimeout env cfg nowts) := by
  unfold selectingTimeout onNoLease freshXid awaitReply
  infer_instance

instance : Keeps clientAddr v (selectingTimer env cfg inp) := by
  unfold selectingTimer
  infer_instance

/-- From `reinit` on, a call without a release signal ends in SELECTING. -/
theorem follow_reinit_clientAddr (n : Nat) (s : Sys) (hsig : inp.sevSignal ≠ .release) (hs : s.cs.clientAddr = v) :
    wp (follow env cfg inp n (target env cfg inp .reinit)) (fun _ _ => False)
      (fun _ t => (t.pc = .selecting ∧ t.cs.clientAddr = v) ∨ t.pc = .dead) s := by
  have hpass : wp (target env cfg inp .reinit) (fun _ _ => False)
      (fun e t => (∀ l, e ≠ .goto l) ∧ ((t.pc = .selecting ∧ t.cs.clientAddr = v) ∨ t.pc = .dead)) s := by
    show wp (selectingPass env cfg { inp with sevDhcp := false }) _ _ { s with cs.xid := env.random .reinit }
    have hxid : clientAddr { s with cs.xid := env.random .reinit } = v := hs
    generalize ({ s with cs.xid := env.random .reinit } : Sys) = s' at hxid
    unfold selectingPass
    rw [wp_bind_idle _ _ _ _ _ (onRelease_of_not { inp with sevDhcp := false } s' hsig)]
    show wp (selectingTimer env cfg { inp with sevDhcp := false }) _ _ s'
    apply wp_mono _ _ s' _ _ _ (wp_and _ _ _ _ _ _ (selectingTimer_ends env cfg { inp with sevDhcp := false } s')
      (Keeps.ends clientAddr v (selectingTimer env cfg { inp with sevDhcp := false }) s' hxid)) (fun _ _ h => h.1)
    rintro e u ⟨h, haddr⟩
    match e, h with
    | .ret _, h => exact ⟨nofun, Or.inl ⟨congrArg Core.pc h, haddr⟩⟩
    | .goto .released, h => exact absurd h.2 hsig
    | .goto .requesting, h => exact nomatch h.2.2.1
    | .exit, h => exact ⟨nofun, Or.inr (congrArg Core.pc h)⟩
  apply wp_mono _ _ s _ _ _ (wp_follow_last env cfg inp n _ _ _ s hpass fun l u h => h.1 l rfl) (fun _ _ h => h)
  exact fun _ _ h => h.2

/-- What a pass does ahead of its timer leaves the count of requests alone. -/
theorem ahead_returns (s : Sys) (hs : InQuest s) :
    wp (ahead env cfg inp s.pc)
      (fun _ u => inp.sevSignal ≠ .release ∧ u.cs.numDhcpRequests = s.cs.numDhcpRequests) (fun _ _ => True) s := by
  have hrelease : ∀ {β : Type} (k : Unit → M β) (Q : β → Sys → Prop), (inp.sevSignal ≠ .release → wp (k ()) Q
      (fun _ _ => True) s) → wp (onRelease inp >>= k) Q (fun _ _ => True) s := by
    intro β k Q hk
    by_cases hsig : inp.sevSignal = .release
    · rw [wp_bind]
      exact wp_mono _ _ s _ _ _ (onRelease_quest inp s hsig) (fun _ _ h => h.elim) (fun _ _ _ => trivial)
    · rw [wp_bind_idle _ _ _ _ _ (onRelease_of_not inp s hsig)]
      exact hk hsig
  rcases hs with hpc | hpc
  · rw [hpc]
    apply hrelease
    intro hsig
    apply wp_mono _ _ s _ _ _ (requestingDhcp_done env cfg inp s hsig) _ (fun _ _ _ => trivial)
    rintro _ t rfl
    exact ⟨hsig, rfl⟩
  · rw [hpc]
    apply hrelease
    intro hsig
    by_cases hrec : inp.sevArp = true ∧ Counts cfg s.garp
    · rw [wp_bind]
      exact wp_mono _ _ s _ _ _ (probingArp_declines env cfg inp s hrec.1 hrec.2) (fun _ _ h => h.elim)
        (fun _ _ _ => trivial)
    · rw [wp_bind_idle _ _ _ _ _ (probingArp_of_not env cfg inp s hrec)]
      by_cases hover : inp.arpTimeout = true ∧ arpWaitOver cfg inp.nowts s
      · exact wp_mono _ _ s _ _ _ (probingArpTimeout_lease env cfg inp s hover.1 hover.2) (fun _ _ h => h.elim)
          (fun _ _ _ => trivial)
      · apply wp_mono _ _ s _ _ _ (probingArpTimeout_done env cfg inp s hover) _ (fun _ _ _ => trivial)
        rintro _ u ⟨-, ⟨-, hquest⟩ | ⟨-, hquest⟩⟩
        · exact ⟨hsig, congrArg Quest.numDhcpRequests hquest⟩
        · exact ⟨hsig, congrArg Quest.numDhcpRequests hquest⟩

theorem resume_ahead (s : Sys) (hs : InQuest s) (Q : Unit → Sys → Prop) (E : Stop → Sys → Prop) (u : Sys) :
    wp (resume env cfg inp s.pc) Q E u ↔
      wp (ahead env cfg inp s.pc) (fun _ t => wp (requestTimer env inp s.pc) Q E t) E u := by
  rcases hs with hpc | hpc
  · rw [hpc]
    show wp (requestingPass env cfg inp) Q E u ↔ _
    simp only [requestingPass, ahead, wp_bind]
  · rw [hpc]
    show wp (probingPass env cfg inp) Q E u ↔ _
    simp only [probingPass, ahead, wp_bind]

/-- **Where a sixth request would be due** the client starts over. -/
theorem sixth_call (s : Sys) (hs : InQuest s) (hnum : 5 ≤ s.cs.numDhcpRequests) (hreach : ReachesTimer env cfg inp s) :
    ((final (dhcpHandle env cfg inp) s).pc = .selecting ∧ (final (dhcpHandle env cfg inp) s).cs.clientAddr = 0) ∨
      (final (dhcpHandle env cfg inp) s).pc = .dead := by
  obtain ⟨htimeout, u, hu⟩ := hreach
  have hahead := ahead_returns env cfg inp { s with out := [] } hs
  rw [wp_ok_iff _ _ _ _ _ _ hu] at hahead
  obtain ⟨hsig, hsame⟩ := hahead
  apply final_of_wp (dhcpHandle env cfg inp) s fun t => (t.pc = .selecting ∧ t.cs.clientAddr = 0) ∨ t.pc = .dead
  rw [wp_dhcpHandle env cfg inp _ _ s s.pc rfl, wp_follow, resume_ahead env cfg inp s hs, wp_ok_iff _ _ _ _ _ _ hu]
  unfold requestTimer requestingTimeout
  rw [wp_ite, if_pos htimeout, wp_bind, wp_bind, wp_get, wp_ite, if_pos (hsame ▸ hnum), wp_bind]
  apply wp_mono _ _ u _ _ _ (reinitSelecting_anew env 0 u)
  · intro _ t ht
    rw [wp_pure, wp_ite, if_neg (by decide), wp_ite, if_pos rfl]
    show wp (follow env cfg inp 1 (target env cfg inp .reinit)) _ _ t
    exact wp_mono _ _ t _ _ _ (follow_reinit_clientAddr 0 env cfg inp 1 t hsig ht.clientAddr) (fun _ _ h => h.elim)
      (fun _ _ h => h)
  · rintro e t ⟨rfl, hpc, -⟩
    exact Or.inr hpc

end

/-! ## Runs -/

section
variable (cfg : ClientConfig) {now : Int} {times : List Int}

/-- A step goes on with the pace, or it ends the quest without a request. -/
theorem Paced.next (st : Step) (steps : List Step) (s : Sys) (h : Paced now times s) (hs : InQuest s)
    (htimely : Timely cfg (st :: steps) now s) :
    (∃ later, Paced later (times ++ st.requestTimes cfg s) (st.next cfg s) ∧ Timely cfg steps later (st.next cfg s)) ∨
      (st.requestTimes cfg s = [] ∧ ¬ InQuest (st.next cfg s)) := by
  rcases st.read_or_call with hread | ⟨env, inp, rfl⟩
  · obtain ⟨hquest, -, -⟩ := st.quest_of_read cfg s hread
    have hnone : st.requestTimes cfg s = [] := by
      cases st with
      | handle env inp => exact absurd rfl (hread env inp)
      | _ => rfl
    have hrest : Timely cfg steps now (st.next cfg s) := by
      cases st with
      | handle env inp => exact absurd rfl (hread env inp)
      | _ => exact htimely
    refine Or.inl ⟨now, ?_, hrest⟩
    rw [hnone, List.append_nil]
    exact h.keep now (Int.le_refl now) (congrArg Quest.numDhcpRequests hquest) (congrArg Quest.dhcpWakeTs hquest)
  · obtain ⟨hle, hclock, htimeout, hrest⟩ := htimely
    rcases quest_call env cfg inp s hs with hgoes | ⟨hnone, hleft⟩
    · have hdue : inp.dhcpTimeout = true → s.cs.dhcpWakeTs ≤ inp.nowts :=
        fun hto => of_decide_eq_true (htimeout.symm.trans hto)
      have hpaced : Paced now times { s with out := [] } := h.keep now (Int.le_refl now) rfl rfl
      exact Or.inl ⟨inp.nowts, hpaced.goes env cfg inp hle (hclock .getLeasetime) hdue rfl hgoes, hrest⟩
    · refine Or.inr ⟨?_, hleft⟩
      show List.map _ (bidsOf DHCPREQUEST (final (dhcpHandle env cfg inp) s)) = []
      rw [hnone]
      rfl

theorem paced_run (steps : List Step) (s : Sys) (h : Paced now times s) (hs : InQuest s)
    (hquest : Along cfg (fun _ t => InQuest t) steps s) (htimely : Timely cfg steps now s) :
    (times ++ requestTimes cfg steps s).length ≤ 5 ∧
      (times ++ requestTimes cfg steps s).Pairwise (fun r r' => r + 4000 ≤ r') ∧
      (InQuest (run cfg steps s) →
        (run cfg steps s).cs.numDhcpRequests = (times ++ requestTimes cfg steps s).length) := by
  induction steps generalizing s now times with
  | nil =>
    show (times ++ []).length ≤ 5 ∧ (times ++ []).Pairwise _ ∧ (_ → s.cs.numDhcpRequests = (times ++ []).length)
    rw [List.append_nil]
    exact ⟨h.bound, h.apart, fun _ => h.count⟩
  | cons st steps ih =>
    show (times ++ (_ ++ _)).length ≤ 5 ∧ (times ++ (_ ++ _)).Pairwise _ ∧ (_ → _ = (times ++ (_ ++ _)).length)
    rw [← List.append_assoc]
    rcases h.next cfg st steps s hs htimely with ⟨later, hpaced, hrest⟩ | ⟨hnone, hleft⟩
    · cases steps with
      | nil =>
        rw [show requestTimes cfg [] _ = [] from rfl, List.append_nil]
        exact ⟨hpaced.bound, hpaced.apart, fun _ => hpaced.count⟩
      | cons st' steps => exact ih _ hpaced hquest.2.1 hquest.2 hrest
    · cases steps with
      | nil =>
        rw [hnone, show requestTimes cfg [] _ = [] from rfl, List.append_nil, List.append_nil]
        exact ⟨h.bound, h.apart, fun hin => absurd hin hleft⟩
      | cons st' steps => exact absurd hquest.2.1 hleft

/-- The offer starts the pace. -/
theorem Offers.paced (env : Env) (inp : Input) (s t : Sys) (h : Offers env inp s t) :
    Paced inp.nowts ((bidsOf DHCPREQUEST t).map fun _ => inp.nowts) t := by
  obtain ⟨u, ⟨-, -, -, hout, sid, -, hquest⟩, hdone⟩ := h.asks
  have hnum : u.cs.numDhcpRequests = 0 := congrArg Quest.numDhcpRequests hquest
  have hnone : bidsOf DHCPREQUEST u = [] := by
    rw [bidsOf, hout]
    rfl
  have hstart : Paced inp.nowts [] u :=
    ⟨hnum, Nat.zero_le 5, List.forall_mem_nil _, List.forall_mem_nil _, List.Pairwise.nil⟩
  exact hstart.timer env inp (Int.le_refl _) (fun _ => List.forall_mem_nil _) hnone hdone

end

/-- **Requests are bounded per offer.**  From the call that takes an offer to the one that leaves
REQUESTING and probing at most five requests are sent, any two at least 4000 ms apart; a call that
comes to `requesting_timeout` when five were sent is back in SELECTING with no address, unless
the process ends. -/
theorem requests_bounded (cfg : ClientConfig) (b : Startup) (pre : List Step) (env : Env) (inp : Input)
    (steps : List Step) (hoffer : TakesOffer inp (run cfg pre (.start b)))
    (hquest : Along cfg (fun _ t => InQuest t) steps ((Step.handle env inp).next cfg (run cfg pre (.start b))))
    (htimely : Timely cfg steps inp.nowts ((Step.handle env inp).next cfg (run cfg pre (.start b)))) :
    (requestTimes cfg (.handle env inp :: steps) (run cfg pre (.start b))).length ≤ 5 ∧
      (requestTimes cfg (.handle env inp :: steps) (run cfg pre (.start b))).Pairwise (fun r r' => r + 4000 ≤ r') ∧
      ∀ s, s = run cfg (.handle env inp :: steps) (run cfg pre (.start b)) → InQuest s →
        (requestTimes cfg (.handle env inp :: steps) (run cfg pre (.start b))).length = 5 →
        ∀ env' inp', ReachesTimer env' cfg inp' s →
          (((Step.handle env' inp').next cfg s).pc = .selecting ∧
            ((Step.handle env' inp').next cfg s).cs.clientAddr = 0) ∨
          ((Step.handle env' inp').next cfg s).pc = .dead := by
  generalize run cfg pre (.start b) = s₀ at *
  rcases select_call env cfg inp s₀ hoffer.1 with htaken | ⟨hnone, hleft⟩
  · obtain ⟨hbound, hapart, hcount⟩ := paced_run cfg steps _ (htaken.paced env inp s₀ _) (Or.inl htaken.pc) hquest htimely
    refine ⟨hbound, hapart, ?_⟩
    rintro s rfl hs hfive env' inp' hreach
    exact sixth_call env' cfg inp' _ hs (Nat.le_of_eq (hfive.symm.trans (hcount hs).symm)) hreach
  · -- the process ended in the call
    have hsteps : steps = [] := by
      cases steps with
      | nil => rfl
      | cons st steps => exact absurd hquest.1 hleft
    subst hsteps
    have htimes : requestTimes cfg [.handle env inp] s₀ = [] := by
      show List.map _ (bidsOf DHCPREQUEST (final (dhcpHandle env cfg inp) s₀)) ++ [] = []
      rw [hnone]
      rfl
    rw [htimes]
    refine ⟨Nat.zero_le 5, List.Pairwise.nil, ?_⟩
    rintro s rfl hs
    exact absurd hs hleft

/-! ## An offer that is never acknowledged -/

/-- A call at `t` whose timeout is due. -/
def requestAt (t : Int) : Step := .handle (envAt t) { quietInput t with dhcpTimeout := true }

def fiveRequests : List Step := [requestAt 0, requestAt 4000, requestAt 12000, requestAt 28000, requestAt 60000]

/-- The state after the offer and five requests. -/
def unanswered : Sys :=
  run exampleConfig (.handle calmEnv offerInput :: fiveRequests) (run exampleConfig offerRun exampleStart)

/-- Five requests, after 4, 8, 16 and 32 seconds; after 64 more the client starts over. -/
theorem five_requests_then_selecting :
    requestTimes exampleConfig (.handle calmEnv offerInput :: fiveRequests) (run exampleConfig offerRun exampleStart) =
      [0, 4000, 12000, 28000, 60000] ∧
      ((((requestAt 124000).next exampleConfig unanswered).pc = .selecting ∧
        ((requestAt 124000).next exampleConfig unanswered).cs.clientAddr = 0) ∨
        ((requestAt 124000).next exampleConfig unanswered).pc = .dead) := by
  have htimes : requestTimes exampleConfig (.handle calmEnv offerInput :: fiveRequests)
      (run exampleConfig offerRun exampleStart) = [0, 4000, 12000, 28000, 60000] := by decide +kernel
  have hquest : Along exampleConfig (fun _ t => InQuest t) fiveRequests
      ((Step.handle calmEnv offerInput).next exampleConfig (run exampleConfig offerRun exampleStart)) :=
    ⟨Or.inl (by decide +kernel), Or.inl (by decide +kernel), Or.inl (by decide +kernel),
      Or.inl (by decide +kernel), Or.inl (by decide +kernel), trivial⟩
  have htimely : Timely exampleConfig fiveRequests offerInput.nowts
      ((Step.handle calmEnv offerInput).next exampleConfig (run exampleConfig offerRun exampleStart)) :=
    ⟨by decide, fun _ => Int.le_refl _, by decide +kernel, by decide, fun _ => Int.le_refl _, by decide +kernel,
      by decide, fun _ => Int.le_refl _, by decide +kernel, by decide, fun _ => Int.le_refl _, by decide +kernel,
      by decide, fun _ => Int.le_refl _, by decide +kernel, trivial⟩
  have hreach : ReachesTimer (envAt 124000) exampleConfig { quietInput 124000 with dhcpTimeout := true }
      unanswered := by
    refine ⟨rfl, ?_⟩
    rw [show unanswered.pc = .requesting by decide +kernel]
    exact ⟨_, rfl⟩
  have hbounds := requests_bounded exampleConfig ⟨0, false, false, 3, true, by decide⟩ offerRun calmEnv offerInput
    fiveRequests offer_taken hquest htimely
  have hfive : (requestTimes exampleConfig (.handle calmEnv offerInput :: fiveRequests)
      (run exampleConfig offerRun exampleStart)).length = 5 := congrArg List.length htimes
  refine ⟨htimes, ?_⟩
  unfold requestAt
  exact hbounds.2.2 unanswered rfl (Or.inl (by decide +kernel)) hfive _ _ hreach

end Ndhc
