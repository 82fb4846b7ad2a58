import Ndhc.Client.Work

/-!
# Probing an acknowledged address

After a DHCPACK the client probes the address by ARP before it binds it.  A call of that phase
does one of three things (`conflict_call`, `lease_call`, `probe_call`): it counts the frame
handed over as a conflict, it takes the lease, or neither.
-/

namespace Ndhc

open Prog

/-- The frame counts as a conflict: `arp_do_collision_check` as it is written. -/
def Counts (cfg : ClientConfig) (garp : ArpData) : Prop :=
  arpIsQueryReply cfg.arp garp.reply ≠ 0 ∧ garp.reply.sip4 = htonl garp.dhcpPacket.yiaddr ∧
    cfg.arp.bytes = garp.reply.smac

instance (cfg : ClientConfig) (garp : ArpData) : Decidable (Counts cfg garp) :=
  inferInstanceAs (Decidable (_ ∧ _))

/-- `send_decline` reports failure. -/
def DeclineFails (env : Env) : Prop := SendFails env .decline

/-- The address being probed. -/
def probed (s : Sys) : UInt32 := s.garp.dhcpPacket.yiaddr

section
variable (env : Env) (cfg : ClientConfig) (inp : Input)

/-! ## The frame -/

theorem arpDoCollisionCheck_of_not (s : Sys) (h : ¬ Counts cfg s.garp) :
    wp (arpDoCollisionCheck env cfg) (fun r t => r = .ok ∧ t = s) (fun _ _ => False) s := by
  unfold arpDoCollisionCheck
  rw [wp_bind, wp_get, wp_ite]
  split
  · exact ⟨rfl, rfl⟩
  · next hq =>
    rw [wp_ite, if_neg fun hc => h ⟨hq, hc⟩]
    exact ⟨rfl, rfl⟩

/-- The conflict is noted in any case; what the check returns is up to `send_decline`. -/
theorem arpDoCollisionCheck_of_counts (s : Sys) (h : Counts cfg s.garp) :
    wp (arpDoCollisionCheck env cfg)
      (fun r t => core t = { core s with marks := (core s).marks ++ [.conflict (probed s)] } ∧
        ((r = .fail ∧ DeclineFails env) ∨ (r = .conflict ∧ ¬ DeclineFails env)))
      (fun e t => e = .exit ∧ ¬ DeclineFails env ∧ core t = { core s with
        pc := .dead, marks := (core s).marks ++ [.conflict (probed s)] }) s := by
  obtain ⟨hq, hc⟩ := h
  unfold arpDoCollisionCheck
  rw [wp_bind, wp_get, wp_ite, if_neg hq, wp_ite, if_pos hc, wp_bind, wp_modify]
  apply wp_mark
  · rfl
  intro t ht
  rw [wp_bind]
  apply wp_sendDhcp
  · intro r u hr hu
    rw [wp_ite]
    split
    · next hneg => exact ⟨hu.trans ht, Or.inl ⟨rfl, r, hr, hneg⟩⟩
    · next hpos => exact ⟨hu.trans ht, Or.inr ⟨rfl, not_sendFails env .decline r hr hpos⟩⟩
  · intro u hr hu
    refine ⟨rfl, ?_, ?_⟩
    · rintro ⟨r', hr', -⟩
      rw [hr] at hr'
      cases hr'
    · rw [hu, ht]
      rfl

theorem probingArp_of_not (s : Sys) (h : ¬ (inp.sevArp = true ∧ Counts cfg s.garp)) :
    wp (probingArp env cfg inp) (fun _ t => t = s) (fun _ _ => False) s := by
  unfold probingArp
  rw [wp_ite]
  split
  · next harp =>
    rw [wp_bind]
    apply wp_mono _ _ s _ _ _ (arpDoCollisionCheck_of_not env cfg s fun hc => h ⟨harp, hc⟩)
      ?_ (fun _ _ h => h)
    rintro r t ⟨rfl, rfl⟩
    rw [wp_ite, if_pos rfl]
    rfl
  · rfl

/-- How a pass of probing ends that counts a conflict. -/
def ConflictEnds (s : Sys) (e : Stop) (t : Sys) : Prop :=
  Calm [.conflict (probed s)] (core s) (core t) ∧ probed t = probed s ∧
    match e with
    | .ret _ => t.pc = .probing ∧ DeclineFails env
    | .goto l => l = .reinit ∧ ¬ DeclineFails env
    | .exit => t.pc = .dead ∧ ¬ DeclineFails env

theorem calm_conflict (s : Sys) (c : Core) (pc : Pc)
    (h : c = { core s with pc := pc, marks := (core s).marks ++ [.conflict (probed s)] }) :
    Calm [.conflict (probed s)] (core s) c := by
  subst h
  exact ⟨rfl, rfl, fun ho => ho, rfl⟩

theorem probed_of_core (s t : Sys) (h : (core t).dhcpPacket = (core s).dhcpPacket) :
    probed t = probed s := congrArg DhcpMsg.yiaddr h

theorem probingArp_of_counts (s : Sys) (harp : inp.sevArp = true) (h : Counts cfg s.garp) :
    wp (probingArp env cfg inp) (fun _ _ => False) (ConflictEnds env s) s := by
  unfold probingArp
  rw [wp_ite, if_pos harp, wp_bind]
  apply wp_mono _ _ s _ _ _ (arpDoCollisionCheck_of_counts env cfg s h)
  · rintro r t ⟨ht, ⟨rfl, hfails⟩ | ⟨rfl, hok⟩⟩
    · rw [wp_ite, if_neg (by decide), wp_ite, if_neg (by decide), wp_ite, if_pos rfl]
      refine ⟨calm_conflict s _ .probing ?_, probed_of_core s t (by rw [ht]), rfl, hfails⟩
      show { core t with pc := .probing } = _
      rw [ht]
    · rw [wp_ite, if_neg (by decide), wp_ite, if_pos rfl]
      apply wp_restart
      · intro u hu
        have hu' := hu.trans ht
        exact ⟨calm_conflict s _ s.pc hu', probed_of_core s u (by rw [hu']), rfl, hok⟩
      · intro u hu
        rw [ht] at hu
        exact ⟨calm_conflict s _ .dead hu, probed_of_core s u (by rw [hu]), congrArg Core.pc hu, hok⟩
  · rintro e t ⟨rfl, hok, ht⟩
    exact ⟨calm_conflict s _ .dead ht, probed_of_core s t (by rw [ht]), congrArg Core.pc ht, hok⟩

/-! ## The timer -/

theorem ifchangeBind_ends (packet : DhcpMsg) (s : Sys) :
    wp (ifchangeBind env packet)
      (fun _ t => (core t).marks = (core s).marks ++ [.bind packet.yiaddr])
      (fun e t => e = .exit ∧ t.pc = .dead ∧
        (core t).marks = (core s).marks ++ [.bind packet.yiaddr]) s := by
  unfold ifchangeBind
  apply wp_mark
  · rfl
  intro t ht
  have hmarks := congrArg Core.marks ht
  rw [wp_bind, wp_get, wp_ite]
  split
  · exact hmarks
  · rw [wp_bind]
    cases env.ifch .bind with
    | none => exact ⟨rfl, rfl, hmarks⟩
    | some ret =>
      show wp (if ret < 0 then pure ret else _) _ _ t
      rw [wp_ite]
      split
      · exact hmarks
      · exact hmarks

/-- Once the wait is over `ifchange_bind` is called; the process ends if it fails. -/
theorem arpLeaseObtained_ends (s : Sys) :
    wp (arpLeaseObtained env cfg)
      (fun r t => r = .free ∧ (core t).marks = (core s).marks ++ [.bind (probed s)])
      (fun e t => e = .exit ∧ t.pc = .dead ∧
        (core t).marks = (core s).marks ++ [.bind (probed s)]) s := by
  unfold arpLeaseObtained
  rw [wp_bind, wp_get, wp_bind, wp_modify, wp_bind]
  apply wp_mono _ _ _ _ _ _ (ifchangeBind_ends env s.garp.dhcpPacket _) ?_ (fun _ _ h => h)
  intro r t ht
  rw [wp_ite]
  split
  · exact ⟨rfl, rfl, ht⟩
  · show wp (if cfg.quitAfterLease then suicide else pure Arpr.free : M Arpr) _ _ _
    rw [wp_ite]
    split
    · exact ⟨rfl, rfl, ht⟩
    · exact ⟨rfl, ht⟩

/-- How a pass of probing ends that takes the lease. -/
def LeaseEnds (s : Sys) (e : Stop) (t : Sys) : Prop :=
  (core t).marks = (core s).marks ++ [.bind (probed s)] ∧
    match e with
    | .ret _ => t.pc = .bound
    | .goto _ => False
    | .exit => t.pc = .dead

theorem probingArpTimeout_lease (s : Sys) (htimeout : inp.arpTimeout = true)
    (hover : arpWaitOver cfg inp.nowts s) :
    wp (probingArpTimeout env cfg inp) (fun _ _ => False) (LeaseEnds s) s := by
  unfold probingArpTimeout arpCollisionTimeout
  rw [wp_ite, if_pos htimeout, wp_bind, wp_bind, wp_get, wp_ite, if_pos hover]
  apply wp_mono _ _ s _ _ _ (arpLeaseObtained_ends env cfg s)
  · rintro r t ⟨rfl, ht⟩
    rw [wp_ite, if_pos rfl]
    apply wp_sub
    · intro _ u hu
      apply wp_sub
      · intro _ v hv
        exact ⟨(congrArg Core.marks (hv.trans hu)).trans ht, rfl⟩
      · intro v hv
        rw [hu] at hv
        exact ⟨(congrArg Core.marks hv).trans ht, congrArg Core.pc hv⟩
    · intro u hu
      exact ⟨(congrArg Core.marks hu).trans ht, congrArg Core.pc hu⟩
  · rintro e t ⟨rfl, hpc, ht⟩
    exact ⟨ht, hpc⟩

/-- How a pass of probing ends that does neither. -/
def ProbeEnds (s : Sys) : Stop → Sys → Prop
  | .ret _, t => core t = { core s with pc := .probing }
  | .goto .released, t => core t = core s ∧ inp.sevSignal = .release
  | .goto .requesting, _ => False
  | .goto .reinit, t => core t = core s
  | .exit, t => core t = { core s with pc := .dead }

theorem probingArpTimeout_probe (s : Sys) (h : ¬ (inp.arpTimeout = true ∧ arpWaitOver cfg inp.nowts s)) :
    wp (probingArpTimeout env cfg inp) (fun _ t => core t = core s) (ProbeEnds inp s) s := by
  unfold probingArpTimeout arpCollisionTimeout
  rw [wp_ite]
  split
  · next htimeout =>
    rw [wp_bind, wp_bind, wp_get, wp_ite, if_neg fun hover => h ⟨htimeout, hover⟩, wp_ite]
    split
    · rfl
    · apply wp_sub
      · intro r t ht
        rw [wp_ite]
        split
        · rw [wp_pure, wp_ite, if_neg (by decide), wp_ite, if_neg (by decide), wp_ite, if_pos rfl]
          exact core_at .probing s t ht
        · exact ht
      · exact fun t ht => ht
  · rfl

/-! ## Calls -/

/-- The call counts the frame it is handed as a conflict. -/
def Recognises (s : Sys) : Prop :=
  inp.sevSignal ≠ .release ∧ inp.sevArp = true ∧ Counts cfg s.garp

/-- The call finds the wait over. -/
def WaitOver (s : Sys) : Prop :=
  inp.sevSignal ≠ .release ∧ inp.arpTimeout = true ∧ arpWaitOver cfg inp.nowts s

theorem onRelease_of_not (s : Sys) (hsig : inp.sevSignal ≠ .release) :
    wp (onRelease inp) (fun _ t => t = s) (fun _ _ => False) s := by
  unfold onRelease
  rw [wp_ite, if_neg hsig]
  rfl

theorem probingPass_conflict (s : Sys) (h : Recognises cfg inp s) :
    wp (probingPass env cfg inp) (fun _ _ => False) (ConflictEnds env s) s := by
  obtain ⟨hsig, harp, hcounts⟩ := h
  unfold probingPass
  rw [wp_bind_idle _ _ _ _ _ (onRelease_of_not inp s hsig)]
  rw [wp_bind]
  exact wp_mono _ _ s _ _ _ (probingArp_of_counts env cfg inp s harp hcounts) (fun _ _ h => h.elim)
    (fun _ _ h => h)

theorem probingPass_lease (s : Sys) (hno : ¬ Recognises cfg inp s) (h : WaitOver cfg inp s) :
    wp (probingPass env cfg inp) (fun _ _ => False) (LeaseEnds s) s := by
  obtain ⟨hsig, htimeout, hover⟩ := h
  unfold probingPass
  rw [wp_bind_idle _ _ _ _ _ (onRelease_of_not inp s hsig)]
  rw [wp_bind_idle _ _ _ _ _ (probingArp_of_not env cfg inp s fun h => hno ⟨hsig, h⟩)]
  rw [wp_bind]
  exact wp_mono _ _ s _ _ _ (probingArpTimeout_lease env cfg inp s htimeout hover)
    (fun _ _ h => h.elim) (fun _ _ h => h)

theorem probingPass_probe (s : Sys) (hno : ¬ Recognises cfg inp s) (h : ¬ WaitOver cfg inp s) :
    wp (probingPass env cfg inp) (fun _ _ => False) (ProbeEnds inp s) s := by
  unfold probingPass
  by_cases hsig : inp.sevSignal = .release
  · rw [wp_bind]
    unfold onRelease
    rw [wp_ite, if_pos hsig]
    exact wp_sub _ _ s _ _ (fun _ t ht => ⟨ht, hsig⟩) (fun t ht => ht)
  · rw [wp_bind_idle _ _ _ _ _ (onRelease_of_not inp s hsig)]
    rw [wp_bind_idle _ _ _ _ _ (probingArp_of_not env cfg inp s fun h => hno ⟨hsig, h⟩)]
    rw [wp_bind]
    apply wp_mono _ _ s _ _ _ (probingArpTimeout_probe env cfg inp s fun hw => h ⟨hsig, hw⟩) ?_
      (fun _ _ h => h)
    intro _ u hu
    apply wp_mono _ _ u _ _ _ (requestTimer_ends env inp .probing u) (fun _ _ h => h)
    intro e v hv
    match e, hv with
    | .ret _, hv => exact hv.trans (core_at .probing _ u hu)
    | .goto .reinit, hv => exact hv.1.trans hu
    | .exit, hv => exact hv.trans (core_at .dead _ u hu)

/-- How a call ends that counts a conflict: it stays in the phase if `send_decline` fails. -/
def ConflictCall (s : Sys) (e : Stop) (t : Sys) : Prop :=
  (DeclineFails env ∧ t.pc = .probing ∧ probed t = probed s ∧
      (core t).marks = [.conflict (probed s)]) ∨
    (¬ DeclineFails env ∧ ∃ c : Core, c.marks = [.conflict (probed s)] ∧ EndsIdle c e t)

theorem conflict_call (s : Sys) (hpc : s.pc = .probing) (h : Recognises cfg inp s) :
    wp (dhcpHandle env cfg inp) (fun _ _ => False) (ConflictCall env s) s := by
  rw [wp_dhcpHandle env cfg inp _ _ s .probing hpc, wp_follow]
  apply wp_mono _ _ _ _ _ _ (probingPass_conflict env cfg inp { s with out := [] } h) (fun _ _ h => h)
  rintro e t ⟨hcalm, hprobed, he⟩
  have hmarks : (core t).marks = [.conflict (probed s)] := hcalm.marks
  have hrefl : Calm [] (core t) (core t) := Calm.of_core _ _ t.pc rfl
  match e, he with
  | .ret _, he => exact Or.inl ⟨he.2, he.1, hprobed, hmarks⟩
  | .goto _, ⟨rfl, hok⟩ =>
    exact wp_mono _ _ t _ _ _ (reinit_call env cfg inp 0 (core t) t hrefl) (fun _ _ h => h)
      (fun _ _ h => Or.inr ⟨hok, _, hmarks, h⟩)
  | .exit, he => exact Or.inr ⟨he.2, core t, hmarks, hrefl, he.1⟩

/-- How a call ends that takes the lease. -/
def LeaseCall (s t : Sys) : Prop :=
  (core t).marks = [.bind (probed s)] ∧ (t.pc = .bound ∨ t.pc = .dead)

theorem lease_call (s : Sys) (hpc : s.pc = .probing) (hno : ¬ Recognises cfg inp s)
    (h : WaitOver cfg inp s) :
    wp (dhcpHandle env cfg inp) (fun _ _ => False) (fun _ t => LeaseCall s t) s := by
  rw [wp_dhcpHandle env cfg inp _ _ s .probing hpc, wp_follow]
  apply wp_mono _ _ _ _ _ _ (probingPass_lease env cfg inp { s with out := [] } hno h) (fun _ _ h => h)
  rintro e t ⟨hmarks, he⟩
  match e, he with
  | .ret _, he => exact ⟨hmarks, Or.inl he⟩
  | .exit, he => exact ⟨hmarks, Or.inr he⟩

/-- How a call ends that does neither. -/
def ProbeCall (s t : Sys) : Prop :=
  (core t).marks = [] ∧
    ((t.pc = .probing ∧ probed t = probed s) ∨ t.pc = .selecting ∨ t.pc = .released ∨ t.pc = .dead)

theorem EndsIdle.probeCall (c : Core) (e : Stop) (s t : Sys) (hmarks : c.marks = [])
    (h : EndsIdle c e t) : ProbeCall s t := by
  refine ⟨?_, Or.inr (h.pc c e t)⟩
  rw [(h.calm c e t).marks, hmarks]
  rfl

theorem probe_call (s : Sys) (hpc : s.pc = .probing) (hno : ¬ Recognises cfg inp s)
    (h : ¬ WaitOver cfg inp s) :
    wp (dhcpHandle env cfg inp) (fun _ _ => False) (fun _ t => ProbeCall s t) s := by
  rw [wp_dhcpHandle env cfg inp _ _ s .probing hpc, wp_follow]
  apply wp_mono _ _ _ _ _ _ (probingPass_probe env cfg inp { s with out := [] } hno h) (fun _ _ h => h)
  intro e t he
  match e, he with
  | .ret _, he =>
    exact ⟨congrArg Core.marks he, Or.inl ⟨congrArg Core.pc he, probed_of_core s t (by rw [he])⟩⟩
  | .goto .released, he =>
    exact wp_mono _ _ t _ _ _
      (released_call env cfg inp 1 (core t) t (Calm.of_core _ _ t.pc rfl) he.2) (fun _ _ h => h)
      (fun e u hu => hu.probeCall (core t) e s u (congrArg Core.marks he.1))
  | .goto .reinit, he =>
    exact wp_mono _ _ t _ _ _
      (reinit_call env cfg inp 0 (core t) t (Calm.of_core _ _ t.pc rfl)) (fun _ _ h => h)
      (fun e u hu => hu.probeCall (core t) e s u (congrArg Core.marks he))
  | .exit, he => exact ⟨congrArg Core.marks he, Or.inr (Or.inr (Or.inr (congrArg Core.pc he)))⟩

end

end Ndhc
