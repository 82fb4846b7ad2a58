import Ndhc.Client.Fingerprint

/-!
# The mode of the ARP socket

While a reply is awaited the socket has to hear replies, and once the fingerprint is complete
it is to hear conflicts only.  `Fits` says so of a state, and each move of the fingerprint keeps
it but for those in `Misfits`: a renewal opens the socket for defense whatever is awaited, and
a socket opened again after an error comes back in the other mode (`arp_mode_fits`).
-/

namespace Ndhc

open Prog

namespace Finger

section
variable (f : Finger)

/-- A reply is awaited, to a query or to a check. -/
def awaits : Bool := (f.sentGwQuery && f.unknown) || f.checkFingerprint

/-- The fingerprint is complete and no check outstanding. -/
def complete : Bool := !f.unknown && !f.checkFingerprint

/-- The socket's mode fits what is awaited. -/
def Fits : Prop :=
  (f.awaits = true → f.arpIsDefense = false) ∧ (f.complete = true → f.arpIsDefense = true)

instance : Decidable f.Fits := inferInstanceAs (Decidable (_ ∧ _))

end

/-! ## Moves -/

section
variable (cfg : ClientConfig) (f : Finger)

theorem fits_opened_true (h : f.awaits = false) : (f.opened true).Fits :=
  ⟨fun ha => (nomatch h.symm.trans ha), fun _ => rfl⟩

theorem fits_opened_false (h : f.complete = false) : (f.opened false).Fits :=
  ⟨fun _ => rfl, fun hc => (nomatch h.symm.trans hc)⟩

theorem fits_of_unknown (hunknown : f.gotServerArp = false) (hmode : f.arpIsDefense = false) : f.Fits := by
  refine ⟨fun _ => hmode, fun h => ?_⟩
  simp [complete, unknown, hunknown] at h

theorem fits_of_check (hcheck : f.checkFingerprint = true) (hmode : f.arpIsDefense = false) : f.Fits := by
  refine ⟨fun _ => hmode, fun h => ?_⟩
  simp [complete, hcheck] at h

/-- A reply to a query, unless it completes the fingerprint during a check. -/
theorem Fits.learn (h : f.Fits) (hunknown : f.unknown = true)
    (hcheck : f.checkFingerprint = true → f.completes cfg = false) : (f.learn cfg).Fits := by
  unfold Fits awaits complete unknown Finger.learn completes at *
  simp only at *
  generalize f.fromRouter cfg = router at *
  generalize f.fromServer cfg = server at *
  revert h hunknown hcheck
  generalize f.gotRouterArp = gotRouter
  generalize f.gotServerArp = gotServer
  generalize f.sentGwQuery = sent
  generalize f.checkFingerprint = check
  generalize f.arpIsDefense = defense
  revert router server gotRouter gotServer sent check defense
  decide

/-- A reply to a check, but not the last. -/
theorem Fits.waits (h : f.Fits) (hmore : f.settles cfg = false) : (f.confirm cfg).Fits := by
  unfold Finger.confirm
  rw [hmore, Bool.or_false]
  exact h

/-- The last reply to a check. -/
theorem fits_settled (hlast : f.settles cfg = true) (hknown : f.unknown = false) :
    { f.confirm cfg with checkFingerprint := false }.Fits := by
  refine ⟨fun h => ?_, fun _ => ?_⟩
  · have : ({ f.confirm cfg with checkFingerprint := false } : Finger).unknown = false := hknown
    simp [awaits, this] at h
  · simp [Finger.confirm, hlast]

end

end Finger

/-! ## A call -/

/-- sockd hands out the sockets it is asked for. -/
def SockdWorks (env : Env) : Prop := ∀ site, ¬ OpenFails env site

section
variable (env : Env) (cfg : ClientConfig) (inp : Input)

/-- A call in BOUND leaves the socket in the wrong mode. -/
inductive Misfits (s : Sys) : Prop
  | extended (hext : Extends env inp s) (hip : inp.dhcpPacket.yiaddr = s.cs.clientAddr)
      (hawaits : (finger s).awaits = true)
  | probed (hext : Extends env inp s) (hip : inp.dhcpPacket.yiaddr ≠ s.cs.clientAddr)
      (hcomplete : (finger s).complete = true)
  | learned (harp : inp.sevArp = true) (hunknown : (finger s).unknown = true)
      (hcheck : s.cs.checkFingerprint = true) (hlast : (finger s).completes cfg = true)
  | unannounced (harp : inp.sevArp = true) (hknown : (finger s).unknown = false)
      (hcheck : s.cs.checkFingerprint = true) (hagrees : (finger s).Agrees cfg)
      (hlast : (finger s).settles cfg = true) (hsend : SendFails env .gwSuccess)

section
variable (s : Sys) (hno : ¬ Misfits env cfg inp s)
include hno

/-- The DHCP side leaves a mode that fits, and nothing else has changed. -/
theorem dhcpMoves_fits (hs : (finger s).Fits) (g : Finger) (h : DhcpMoves env inp s g) :
    g.Fits ∧ ∃ defense, g = (finger s).opened defense := by
  rcases h with rfl | ⟨hext, rfl⟩
  · exact ⟨hs, s.cs.arpIsDefense, rfl⟩
  · refine ⟨?_, _, rfl⟩
    by_cases hip : inp.dhcpPacket.yiaddr = s.cs.clientAddr
    · rw [decide_eq_true hip]
      exact Finger.fits_opened_true _ (Bool.eq_false_of_not_eq_true fun h => hno (.extended hext hip h))
    · rw [decide_eq_false hip]
      exact Finger.fits_opened_false _ (Bool.eq_false_of_not_eq_true fun h => hno (.probed hext hip h))

theorem arpMoves_fits (hsockd : SockdWorks env) (defense : Bool) (f g : Finger) (hf : f.Fits)
    (hsame : f = (finger s).opened defense) (h : ArpMoves env cfg inp f g) : g.Fits := by
  subst hsame
  cases h with
  | stays => exact hf
  | learns harp hunknown =>
    apply hf.learn cfg _ hunknown
    exact fun hcheck => Bool.eq_false_of_not_eq_true fun hlast => hno (.learned harp hunknown hcheck hlast)
  | waits harp hknown hcheck hagrees hmore => exact hf.waits cfg _ hmore
  | settles harp hknown hcheck hagrees hlast => exact Finger.fits_settled cfg _ hlast hknown
  | fails harp hknown hcheck hagrees hlast hfail =>
    rcases hfail with hopen | hsend
    · exact absurd hopen (hsockd _)
    · exact absurd (.unannounced harp hknown hcheck hagrees hlast hsend) hno

end

section
variable (hsockd : SockdWorks env)
include hsockd

theorem Asked.fits (f : Finger) (h : Asked env f) : f.Fits :=
  Finger.fits_of_unknown f (h.2.resolve_left (hsockd _)) h.1

theorem timerMoves_fits (f g : Finger) (hf : f.Fits) (h : TimerMoves env f g) : g.Fits := by
  rcases h with rfl | ⟨-, hasked⟩
  · exact hf
  · exact hasked.fits env hsockd g

theorem ifupMoves_fits (cs : ClientState) (f g : Finger) (hf : f.Fits) (h : IfupMoves env inp cs f g) :
    g.Fits := by
  rcases h with ⟨-, -, ⟨hopen, -⟩ | ⟨replied, rfl, -⟩⟩ | ⟨-, rfl⟩
  · exact absurd hopen (hsockd _)
  · exact Finger.fits_of_check _ rfl rfl
  · exact hf

theorem boundPass_fits (s : Sys) (hs : (finger s).Fits) (hno : ¬ Misfits env cfg inp s) :
    wp (boundPass env cfg inp) (fun _ _ => True) (Returning fun t => (finger t).Fits)
      { s with out := [] } := by
  rw [wp_boundPass]
  apply wp_mono _ _ _ _ _ _ (toDefense_moves env cfg inp s)
  · intro _ t ht
    obtain ⟨ht, defense, hsame⟩ := dhcpMoves_fits env cfg inp s hno hs _ ht
    have harp := arpMoves_fits env cfg inp s hno hsockd defense (finger t)
    apply wp_mono _ _ t _ _ _ (boundArp_moves env cfg inp t)
    · intro _ u hu
      have hu := harp _ ht hsame hu
      rw [wp_bind]
      apply wp_mono _ _ u _ _ _ (boundArpTimeout_moves env inp u)
      · intro _ v hv
        have hv := timerMoves_fits env hsockd _ _ hu hv
        rw [wp_bind]
        apply wp_mono _ _ v _ _ _ (boundIfup_moves env inp v)
        · intro _ w hw
          have hw := ifupMoves_fits env inp hsockd _ _ _ hv hw
          apply wp_mono _ _ w _ _ _ (Routine.ends (f := finger) (X := OnReturn) w) (fun _ _ _ => trivial)
          intro e x hx code he
          rw [hx code he]
          exact hw
        · exact fun e w hw code he => ifupMoves_fits env inp hsockd _ _ _ hv (hw code he)
      · exact fun e v hv code he => timerMoves_fits env hsockd _ _ hu (hv code he)
    · exact fun e u hu code he => harp _ ht hsame (hu code he)
  · intro e t ht code he
    rw [ht code he]
    exact hs

end

/-! ## Runs -/

theorem fits_of_clear (t : Sys) (h : traces t = noTraces) : (finger t).Fits := by
  simp only [Prod.mk.injEq] at h
  obtain ⟨hsent, hrouter, hserver, hcheck, -⟩ := h
  simp [Finger.Fits, Finger.awaits, Finger.complete, Finger.unknown, hsent, hrouter, hserver, hcheck]

/-- The client is at an end, or the mode fits. -/
def FitsAlive (t : Sys) : Prop := t.pc ≠ .dead → (finger t).Fits

theorem bindTail_fits (hsockd : SockdWorks env) (u : Sys) (hu : traces u = noTraces) :
    wp (bindTail env) (fun _ _ => False) (EndsIn FitsAlive) u := by
  have hsent : u.cs.sentGwQuery = false := congrArg Prod.fst hu
  apply wp_bindTail env FitsAlive (fun t hdead hpc => absurd hdead hpc) u
  apply wp_mono _ _ u _ _ _ (arpQueryGateway_asks env u hsent) ?_ (fun _ _ h => h)
  intro _ v hv
  apply wp_mono _ _ v _ _ _ (Routine.ends (f := finger) (X := AnyWay) v) ?_ (fun _ _ h => h)
  intro _ w hw _
  rw [← hw] at hv
  exact hv.fits env hsockd _

theorem dhcpHandle_fits (hsockd : SockdWorks env) (s : Sys) (hclear : Clear s) (hs : FitsAlive s)
    (hno : ¬ (s.pc = .bound ∧ Misfits env cfg inp s)) :
    FitsAlive (final (dhcpHandle env cfg inp) s) := by
  apply dhcpHandle_rule env cfg inp FitsAlive (fun t ht _ => fits_of_clear t ht) s hclear
  · exact fun t hdead hpc => absurd hdead hpc
  · exact bindTail_fits env hsockd
  · intro hpc
    have hfits : (finger s).Fits := hs (by simp [hpc])
    apply wp_mono _ _ _ _ _ _
      (boundPass_fits env cfg inp hsockd s hfits fun h => hno ⟨hpc, h⟩) (fun _ _ h => h)
    exact fun e t ht code he _ => ht code he

theorem arpPacketGet_fits (stale : ArpMsg) (rd : ReadResult) (s : Sys) (hs : (finger s).Fits)
    (hno : ¬ (rd = .error ∧ 0 ≤ s.cs.arpFd ∧ (finger s).complete = true)) :
    wp (arpPacketGet env cfg stale rd) (fun _ t => (finger t).Fits) (fun _ _ => True) s := by
  apply wp_mono _ _ s _ _ _ (arpPacketGet_mode env cfg stale rd s) ?_ (fun _ _ h => h)
  rintro _ t (ht | ⟨am, ht⟩ | ⟨hrd, hfd, ht⟩)
  · rw [ht]
    exact hs
  · rw [ht]
    exact hs
  · rw [ht]
    exact Finger.fits_opened_false _ (Bool.eq_false_of_not_eq_true fun h => hno ⟨hrd, hfd, h⟩)

end

section
variable (cfg : ClientConfig)

def Step.SockdWorks : Step → Prop
  | .handle env _ => Ndhc.SockdWorks env
  | .arp env _ _ => Ndhc.SockdWorks env
  | .dhcp env _ _ _ => Ndhc.SockdWorks env
  | _ => True

/-- A step leaves the socket in the wrong mode. -/
def Step.Misfits : Step → Sys → Prop
  | .handle env inp, s => s.pc = .bound ∧ Ndhc.Misfits env cfg inp s
  | .arp _ _ rd, s => rd = .error ∧ 0 ≤ s.cs.arpFd ∧ (finger s).complete = true
  | _, _ => False

theorem Step.fits (st : Step) (s : Sys) (hclear : Clear s) (hs : FitsAlive s) (hsockd : st.SockdWorks)
    (hno : ¬ st.Misfits cfg s) : FitsAlive (st.next cfg s) := by
  cases st with
  | handle env inp => exact dhcpHandle_fits env cfg inp hsockd s hclear hs hno
  | idle => exact hs
  | exit => exact fun h => absurd rfl h
  | arp env stale rd =>
    intro hpc
    have hlive := Step.alive_of_read cfg (.arp env stale rd) s nofun hpc
    exact final_returned _ _ (fun t => (finger t).Fits)
      (arpPacketGet_fits env cfg stale rd { s with out := [] } (hs hlive) hno) hpc
  | dhcp env ck rd buf =>
    intro hpc
    have hlive := Step.alive_of_read cfg (.dhcp env ck rd buf) s nofun hpc
    rw [show finger (Step.next cfg (.dhcp env ck rd buf) s) = finger s from
      final_stays finger (dhcpPacketGet env cfg ck rd buf) { s with out := [] } hpc]
    exact hs hlive

/-- **The ARP socket's mode fits what is awaited** in every run in which no renewal comes while
a reply is awaited, no ACK for another address and no read error once the fingerprint is
complete, no query ends during a check, and the announcement after a check is sent. -/
theorem arp_mode_fits (b : Startup) (steps : List Step) (hsockd : ∀ st ∈ steps, st.SockdWorks)
    (hno : Along cfg (fun st s => ¬ st.Misfits cfg s) steps (.start b))
    (hlease : InLease (run cfg steps (.start b))) : (finger (run cfg steps (.start b))).Fits := by
  have hrun : ∀ (steps : List Step) (s : Sys), Clear s → FitsAlive s → (∀ st ∈ steps, st.SockdWorks) →
      Along cfg (fun st s => ¬ st.Misfits cfg s) steps s → FitsAlive (run cfg steps s) := by
    intro steps
    induction steps with
    | nil => exact fun _ _ hs _ _ => hs
    | cons st steps ih =>
      intro s hclear hs hsockd hno
      apply ih _ (st.clear cfg s hclear)
      · exact st.fits cfg s hclear hs (hsockd st List.mem_cons_self) hno.1
      · exact fun st hst => hsockd st (List.mem_cons_of_mem _ hst)
      · exact hno.2
  apply hrun steps _ (Or.inl rfl) (fun _ => fits_of_clear _ rfl) hsockd hno
  intro hdead
  rcases hlease with h | h
  · exact nomatch hdead.symm.trans h
  · exact nomatch hdead.symm.trans h

end

theorem calm_sockd (curms : Site → Int) : SockdWorks { calmEnv with curms := curms } := by
  rintro site ⟨r, hr, hneg⟩
  cases hr
  exact absurd hneg (by decide)

theorem boundRun_sockd : ∀ st ∈ boundRun, st.SockdWorks := by
  intro st hst
  simp only [boundRun, probingRun, List.cons_append, List.nil_append, List.mem_cons,
    List.not_mem_nil, or_false] at hst
  rcases hst with rfl | rfl | rfl | rfl | rfl <;> exact calm_sockd calmEnv.curms

/-- An ARP reply to us from 192.168.1.1, gateway and server. -/
def gatewayReply (smac : List UInt8) : List UInt8 :=
  exampleConfig.arp.bytes ++ smac ++ [8, 6, 0, 1, 8, 0, 6, 4, 0, 2] ++ smac ++ [192, 168, 1, 1] ++
    exampleConfig.arp.bytes ++ [0, 0, 0, 0]

/-- The lease is taken, and the gateway answers the query. -/
def answeredRun : List Step := boundRun ++
  [.arp calmEnv .zero (.data (gatewayReply [2, 0, 0, 0, 0, 1])),
    .handle calmEnv { quietInput 3000 with sevArp := true }]

theorem answered_query_defends :
    (finger (run exampleConfig answeredRun exampleStart)).Fits ∧
      (run exampleConfig answeredRun exampleStart).cs.arpIsDefense = true := by
  refine ⟨?_, by decide +kernel⟩
  apply arp_mode_fits exampleConfig ⟨0, false, false, 3, true, by decide⟩ answeredRun
  · refine List.forall_mem_append.mpr ⟨boundRun_sockd, ?_⟩
    exact List.forall_mem_cons.mpr ⟨calm_sockd _, List.forall_mem_singleton.mpr (calm_sockd _)⟩
  · refine ⟨?_, ?_, ?_, ?_, ?_, ?_, ?_, trivial⟩
    · exact fun h => absurd h.1 (by decide +kernel)
    · exact fun h => absurd h.1 (by decide +kernel)
    · exact fun h => absurd h.1 (by decide +kernel)
    · exact fun h => absurd h.1 (by decide +kernel)
    · exact fun h => absurd h.1 (by decide +kernel)
    · exact fun h => nomatch h.1
    · rintro ⟨-, h⟩
      cases h with
      | extended hext => exact nomatch hext.2.1
      | probed hext => exact nomatch hext.2.1
      | learned _ _ hcheck => exact absurd hcheck (by decide +kernel)
      | unannounced _ hknown => exact absurd hknown (by decide +kernel)
  · exact Or.inl (by decide +kernel)

/-- The gateway has not answered when the lease is renewed. -/
def renewedRun : List Step := boundRun ++ [.handle renewalEnv { quietInput 1800000 with
  sevDhcp := true, dhcpPacket := exampleAck, dhcpMsgtype := DHCPACK, dhcpSrcaddr := 0xc0a80101 }]

/-- Its answer is not heard any more: the socket is open for defense. -/
theorem renewal_deafens :
    (∀ st ∈ renewedRun, st.SockdWorks) ∧ InLease (run exampleConfig renewedRun exampleStart) ∧
      (finger (run exampleConfig renewedRun exampleStart)).awaits = true ∧
      ¬ (finger (run exampleConfig renewedRun exampleStart)).Fits := by
  refine ⟨?_, Or.inl (by decide +kernel), by decide +kernel, by decide +kernel⟩
  exact List.forall_mem_append.mpr ⟨boundRun_sockd, List.forall_mem_singleton.mpr (calm_sockd _)⟩

-- after a read error the socket no longer tells conflicts from other frames
example : (finger (run exampleConfig (answeredRun ++ [.arp calmEnv .zero .error]) exampleStart)).complete = true ∧
    (run exampleConfig (answeredRun ++ [.arp calmEnv .zero .error]) exampleStart).cs.arpIsDefense = false := by
  decide +kernel

end Ndhc
