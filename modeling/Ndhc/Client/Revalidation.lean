import Ndhc.Client.ArpMode

/-!
# Checking the network again

When the carrier returns, gateway and server are asked for their hardware addresses again, and
the lease is kept if these are the ones known.  That a check which ends so has heard both rests
on three things: the fingerprint was complete and is not asked for anew (`learn` would change
what the replies are compared with), and the check begins with no reply counted.  `Evidence` is
the invariant, and `revalidation_sound` what it gives for every run.
-/

namespace Ndhc

open Prog

/-! ## What was heard -/

/-- The state in which a program returns. -/
def returned {α : Type} (m : M α) (s : Sys) : Option Sys :=
  match m s with
  | .ok _ t => some t
  | .error _ _ => none

theorem returned_of_ok {α : Type} (m : M α) (s t : Sys) (h : returned m s = some t) :
    ∃ a, m s = .ok a t := by
  unfold returned at h
  split at h
  · next a u hm =>
    cases h
    exact ⟨a, hm⟩
  · cases h

section
variable (env : Env) (cfg : ClientConfig) (inp : Input)

/-- A pass up to the timers. -/
def toTimers : M Unit := do
  toDefense env cfg inp
  boundArp env cfg inp

/-- A pass up to the carrier. -/
def toIfup : M Unit := do
  toTimers env cfg inp
  boundArpTimeout env inp

end

section
variable (cfg : ClientConfig)

/-- The call handles a reply to us from `addr`, sent from `mac`. -/
def Step.Heard (addr : UInt32) (mac : List UInt8) : Step → Sys → Prop
  | .handle _ inp, s => inp.sevArp = true ∧ (finger s).From cfg addr ∧ s.garp.reply.smac = mac
  | _, _ => False

/-- A carrier event is handled in `se`, with a gateway and a server to check. -/
def Step.Carrier (se : Sys) : Step → Sys → Prop
  | .handle env inp, s => s.pc = .bound ∧ inp.forceFingerprint = true ∧
      returned (toIfup env cfg inp) { s with out := [] } = some se ∧ ¬ Unchecked se.cs
  | _, _ => False

/-- The check ends as unchanged. -/
def Step.Unchanged : Step → Sys → Prop
  | .handle env inp, s => s.pc = .bound ∧ s.cs.checkFingerprint = true ∧
      ∃ t, returned (toTimers env cfg inp) { s with out := [] } = some t ∧ t.cs.checkFingerprint = false
  | _, _ => False

/-- `P` holds at some step of a run. -/
def Sometime (P : Step → Sys → Prop) : List Step → Sys → Prop
  | [], _ => False
  | st :: steps, s => P st s ∨ Sometime P steps (st.next cfg s)

end

/-- What a check needs to begin with: a complete fingerprint that was asked for, and no reply of
an earlier check that would count in this one. -/
structure Begins (env : Env) (f : Finger) : Prop where
  sent : f.sentGwQuery = true
  known : f.unknown = false
  opened : OpenFails env .gwCheckOpen → f.checkFingerprint = true →
    f.routerReplied = false ∧ f.serverReplied = false
  pinged : SendFails env .gwCheckServer → f.routerReplied = false

def Step.Begins (cfg : ClientConfig) : Step → Sys → Prop
  | .handle env inp, s => ∀ se, (Step.handle env inp).Carrier cfg se s → Ndhc.Begins env (finger se)
  | _, _ => True

/-! ## The invariant -/

/-- Since the event the fingerprint is that of `f₀`, and a check counts a reply only if `router`
or `server` say that it was heard. -/
structure Evidence (f₀ : Finger) (router server : Prop) (f : Finger) : Prop where
  sent : f.sentGwQuery = true
  known : f.unknown = false
  gateway : f₀.routerAddr ≠ 0
  routerAddr : f.routerAddr = f₀.routerAddr
  srcAddr : f.srcAddr = f₀.srcAddr
  routerArp : f.routerArp = f₀.routerArp
  serverArp : f.serverArp = f₀.serverArp
  routerReplied : f.checkFingerprint = true → f.routerReplied = true → router
  serverReplied : f.checkFingerprint = true → f.serverReplied = true → server

namespace Evidence

section
variable (cfg : ClientConfig) (f₀ f : Finger) (router server : Prop) (h : Evidence f₀ router server f)
include h

theorem opened (defense : Bool) : Evidence f₀ router server (f.opened defense) :=
  ⟨h.sent, h.known, h.gateway, h.routerAddr, h.srcAddr, h.routerArp, h.serverArp, h.routerReplied,
    h.serverReplied⟩

theorem read (am : ArpMsg) : Evidence f₀ router server { f with reply := am } :=
  ⟨h.sent, h.known, h.gateway, h.routerAddr, h.srcAddr, h.routerArp, h.serverArp, h.routerReplied,
    h.serverReplied⟩

theorem mono (router' server' : Prop) (hrouter : router → router') (hserver : server → server') :
    Evidence f₀ router' server' f :=
  ⟨h.sent, h.known, h.gateway, h.routerAddr, h.srcAddr, h.routerArp, h.serverArp,
    fun hc hr => hrouter (h.routerReplied hc hr), fun hc hr => hserver (h.serverReplied hc hr)⟩

/-- A reply that a check counts was heard before, or is the last frame. -/
theorem router_heard (hcheck : f.checkFingerprint = true) (hagrees : f.Agrees cfg)
    (hreplied : (f.routerReplied || f.fromRouter cfg) = true) :
    router ∨ (f.From cfg f₀.routerAddr ∧ f.reply.smac = f₀.routerArp) := by
  rcases (Bool.or_eq_true _ _).mp hreplied with hr | hfrom
  · exact Or.inl (h.routerReplied hcheck hr)
  · right
    rw [← h.routerAddr, ← h.routerArp]
    exact ⟨of_decide_eq_true hfrom, hagrees.1 hfrom⟩

theorem server_heard (hcheck : f.checkFingerprint = true) (hagrees : f.Agrees cfg)
    (hreplied : (f.serverReplied || f.fromServer cfg) = true) :
    server ∨ (f.From cfg f₀.srcAddr ∧ f.reply.smac = f₀.serverArp) := by
  rcases (Bool.or_eq_true _ _).mp hreplied with hr | hfrom
  · exact Or.inl (h.serverReplied hcheck hr)
  · right
    rw [← h.srcAddr, ← h.serverArp]
    exact ⟨of_decide_eq_true hfrom, hagrees.2 hfrom⟩

section
variable (env : Env) (inp : Input) (g : Finger) (hm : ArpMoves env cfg inp f g)
include hm

/-- The last frame counts as heard, if there is one. -/
theorem arpMoves : Evidence f₀
    (router ∨ (inp.sevArp = true ∧ f.From cfg f₀.routerAddr ∧ f.reply.smac = f₀.routerArp))
    (server ∨ (inp.sevArp = true ∧ f.From cfg f₀.srcAddr ∧ f.reply.smac = f₀.serverArp)) g := by
  have hconfirm : inp.sevArp = true → f.checkFingerprint = true → f.Agrees cfg → Evidence f₀
      (router ∨ (inp.sevArp = true ∧ f.From cfg f₀.routerAddr ∧ f.reply.smac = f₀.routerArp))
      (server ∨ (inp.sevArp = true ∧ f.From cfg f₀.srcAddr ∧ f.reply.smac = f₀.serverArp))
      (f.confirm cfg) := by
    intro harp hcheck hagrees
    refine ⟨h.sent, h.known, h.gateway, h.routerAddr, h.srcAddr, h.routerArp, h.serverArp, ?_, ?_⟩
    · exact fun _ hr => (h.router_heard cfg f₀ f _ _ hcheck hagrees hr).imp_right fun hn => ⟨harp, hn⟩
    · exact fun _ hr => (h.server_heard cfg f₀ f _ _ hcheck hagrees hr).imp_right fun hn => ⟨harp, hn⟩
  cases hm with
  | stays => exact h.mono _ _ _ _ _ _ Or.inl Or.inl
  | learns harp hunknown => exact nomatch h.known.symm.trans hunknown
  | waits harp hknown hcheck hagrees => exact hconfirm harp hcheck hagrees
  | settles harp hknown hcheck hagrees =>
    have he := hconfirm harp hcheck hagrees
    exact ⟨he.sent, he.known, he.gateway, he.routerAddr, he.srcAddr, he.routerArp, he.serverArp, nofun, nofun⟩
  | fails harp hknown hcheck hagrees => exact hconfirm harp hcheck hagrees

/-- A check that ends has heard both. -/
theorem both_heard (hpending : f.checkFingerprint = true) (hended : g.checkFingerprint = false) :
    (router ∨ (inp.sevArp = true ∧ f.From cfg f₀.routerAddr ∧ f.reply.smac = f₀.routerArp)) ∧
      (server ∨ (inp.sevArp = true ∧ f.From cfg f₀.srcAddr ∧ f.reply.smac = f₀.serverArp)) := by
  cases hm with
  | stays => exact nomatch hpending.symm.trans hended
  | learns => exact nomatch hpending.symm.trans hended
  | waits => exact nomatch hpending.symm.trans hended
  | fails => exact nomatch hpending.symm.trans hended
  | settles harp hknown hcheck hagrees hlast =>
    rw [Finger.settles, Bool.and_eq_true, Bool.and_eq_true] at hlast
    obtain ⟨⟨-, hrouter⟩, hserver⟩ := hlast
    exact ⟨(h.router_heard cfg f₀ f _ _ hcheck hagrees hrouter).imp_right fun hn => ⟨harp, hn⟩,
      (h.server_heard cfg f₀ f _ _ hcheck hagrees hserver).imp_right fun hn => ⟨harp, hn⟩⟩

end

theorem timerMoves (env : Env) (g : Finger) (hm : TimerMoves env f g) : Evidence f₀ router server g := by
  rcases hm with rfl | ⟨hsent, -⟩
  · exact h
  · exact nomatch h.sent.symm.trans hsent

/-- Another check begins. -/
theorem begun (env : Env) (g : Finger) (hb : Ndhc.Begins env f) (hm : Begun env f g) :
    Evidence f₀ router server g := by
  rcases hm with ⟨-, rfl⟩ | ⟨replied, rfl, hreplied⟩
  · exact h.opened _ _ _ _ _
  · have hnone : replied = false := by
      rcases hreplied with ⟨hsend, rfl⟩ | rfl
      · exact hb.pinged hsend
      · rw [h.routerAddr]
        exact decide_eq_false h.gateway
    exact ⟨h.sent, h.known, h.gateway, h.routerAddr, h.srcAddr, h.routerArp, h.serverArp,
      fun _ hr => (nomatch hnone.symm.trans hr), nofun⟩

end

/-- A check begins with nothing heard. -/
theorem of_begun (env : Env) (f g : Finger) (hgateway : f.routerAddr ≠ 0) (hb : Ndhc.Begins env f)
    (hm : Begun env f g) : Evidence f False False g := by
  rcases hm with ⟨hopen, rfl⟩ | ⟨replied, rfl, hreplied⟩
  · refine ⟨hb.sent, hb.known, hgateway, rfl, rfl, rfl, rfl, ?_, ?_⟩
    · exact fun hc hr => (nomatch (hb.opened hopen hc).1.symm.trans hr)
    · exact fun hc hr => (nomatch (hb.opened hopen hc).2.symm.trans hr)
  · have hnone : replied = false := by
      rcases hreplied with ⟨hsend, rfl⟩ | rfl
      · exact hb.pinged hsend
      · exact decide_eq_false hgateway
    exact ⟨hb.sent, hb.known, hgateway, rfl, rfl, rfl, rfl,
      fun _ hr => (nomatch hnone.symm.trans hr), nofun⟩

end Evidence

/-! ## A call -/

section
variable (env : Env) (cfg : ClientConfig) (inp : Input) (f₀ : Finger) (router server : Prop)

theorem wp_toIfup (Q : Unit → Sys → Prop) (E : Stop → Sys → Prop) (s : Sys) :
    wp (boundPass env cfg inp) Q E s ↔
      wp (toIfup env cfg inp) (fun _ t => wp (do boundIfup env inp; boundTimer env inp) Q E t) E s := by
  unfold boundPass toIfup toTimers toDefense
  simp only [wp_bind]

/-- What is heard by the end of a call. -/
abbrev RouterBy (s : Sys) : Prop :=
  router ∨ (Step.handle env inp).Heard cfg f₀.routerAddr f₀.routerArp s

abbrev ServerBy (s : Sys) : Prop :=
  server ∨ (Step.handle env inp).Heard cfg f₀.srcAddr f₀.serverArp s

theorem dhcpMoves_opened (s : Sys) (g : Finger) (h : DhcpMoves env inp s g) :
    ∃ defense, g = (finger s).opened defense := by
  rcases h with rfl | ⟨-, rfl⟩
  · exact ⟨s.cs.arpIsDefense, rfl⟩
  · exact ⟨_, rfl⟩

section
variable (s : Sys) (hs : Evidence f₀ router server (finger s))
include hs

theorem toTimers_evidence :
    wp (toTimers env cfg inp)
      (fun _ t => Evidence f₀ (RouterBy env cfg inp f₀ router s) (ServerBy env cfg inp f₀ server s) (finger t) ∧
        (s.cs.checkFingerprint = true → t.cs.checkFingerprint = false →
          RouterBy env cfg inp f₀ router s ∧ ServerBy env cfg inp f₀ server s))
      (Returning fun t => Evidence f₀ (RouterBy env cfg inp f₀ router s)
        (ServerBy env cfg inp f₀ server s) (finger t)) { s with out := [] } := by
  unfold toTimers
  rw [wp_bind]
  apply wp_mono _ _ _ _ _ _ (toDefense_moves env cfg inp s)
  · intro _ t ht
    obtain ⟨defense, hsame⟩ := dhcpMoves_opened env inp s _ ht
    have hopened := hs.opened _ _ _ _ defense
    have harp := boundArp_moves env cfg inp t
    rw [hsame] at harp
    apply wp_mono _ _ t _ _ _ harp
    · intro _ u hu
      exact ⟨hopened.arpMoves cfg _ _ _ _ env inp _ hu,
        fun hpending hended => hopened.both_heard cfg _ _ _ _ env inp _ hu hpending hended⟩
    · exact fun e u hu code he => hopened.arpMoves cfg _ _ _ _ env inp _ (hu code he)
  · intro e t ht code he
    rw [ht code he]
    exact hs.mono _ _ _ _ _ _ Or.inl Or.inl

theorem toIfup_evidence :
    wp (toIfup env cfg inp)
      (fun _ t => Evidence f₀ (RouterBy env cfg inp f₀ router s) (ServerBy env cfg inp f₀ server s) (finger t))
      (Returning fun t => Evidence f₀ (RouterBy env cfg inp f₀ router s)
        (ServerBy env cfg inp f₀ server s) (finger t)) { s with out := [] } := by
  unfold toIfup
  rw [wp_bind]
  apply wp_mono _ _ _ _ _ _ (toTimers_evidence env cfg inp f₀ router server s hs) ?_ (fun _ _ h => h)
  rintro _ t ⟨ht, -⟩
  apply wp_mono _ _ t _ _ _ (boundArpTimeout_moves env inp t)
  · exact fun _ u hu => ht.timerMoves _ _ _ _ env _ hu
  · exact fun e u hu code he => ht.timerMoves _ _ _ _ env _ (hu code he)

end

/-- The end of a pass, from where it turns to the carrier. -/
theorem ifup_evidence (t : Sys) (P : Sys → Prop) (hP : ∀ u v, finger v = finger u → P u → P v)
    (h : ∀ u, IfupMoves env inp t.cs (finger t) (finger u) → P u) :
    wp (do boundIfup env inp; boundTimer env inp) (fun _ _ => True) (Returning P) t := by
  rw [wp_bind]
  apply wp_mono _ _ t _ _ _ (boundIfup_moves env inp t)
  · intro _ u hu
    apply wp_mono _ _ u _ _ _ (Routine.ends (f := finger) (X := OnReturn) u) (fun _ _ _ => trivial)
    exact fun e v hv code he => hP u v (hv code he) (h u hu)
  · exact fun e u hu code he => h u (hu code he)

/-- A call that keeps the lease keeps the evidence. -/
theorem handle_evidence (s : Sys) (hs : Evidence f₀ router server (finger s)) (hpc : s.pc = .bound)
    (hb : (Step.handle env inp).Begins cfg s)
    (hnext : ((Step.handle env inp).next cfg s).pc = .bound) :
    Evidence f₀ (RouterBy env cfg inp f₀ router s) (ServerBy env cfg inp f₀ server s)
      (finger ((Step.handle env inp).next cfg s)) := by
  apply bound_stays env cfg inp (fun t => Evidence f₀ (RouterBy env cfg inp f₀ router s)
    (ServerBy env cfg inp f₀ server s) (finger t)) s hpc ?_ hnext
  rw [wp_toIfup]
  have hfirst := toIfup_evidence env cfg inp f₀ router server s hs
  cases hr : toIfup env cfg inp { s with out := [] } with
  | error e t =>
    rw [wp_error_iff _ _ _ _ _ _ hr] at hfirst ⊢
    exact hfirst
  | ok r t =>
    rw [wp_ok_iff _ _ _ _ _ _ hr] at hfirst ⊢
    apply ifup_evidence env inp t
    · intro u v hv hu
      rw [hv]
      exact hu
    · rintro u (⟨hforce, hchecked, hbegun⟩ | ⟨-, hu⟩)
      · have hret : returned (toIfup env cfg inp) { s with out := [] } = some t := by
          unfold returned
          rw [hr]
        exact hfirst.begun _ _ _ _ env _ (hb t ⟨hpc, hforce, hret, hchecked⟩) hbegun
      · rw [hu]
        exact hfirst

/-- The call that handles the event, if it keeps the lease. -/
theorem carrier_evidence (s se : Sys) (hevent : (Step.handle env inp).Carrier cfg se s)
    (hb : (Step.handle env inp).Begins cfg s)
    (hnext : ((Step.handle env inp).next cfg s).pc = .bound) :
    Evidence (finger se) False False (finger ((Step.handle env inp).next cfg s)) := by
  have hbegins := hb se hevent
  obtain ⟨hpc, hforce, hret, hchecked⟩ := hevent
  obtain ⟨r, hr⟩ := returned_of_ok _ _ _ hret
  apply bound_stays env cfg inp (fun t => Evidence (finger se) False False (finger t)) s hpc ?_ hnext
  rw [wp_toIfup, wp_ok_iff _ _ _ _ _ _ hr]
  apply ifup_evidence env inp se
  · intro u v hv hu
    rw [hv]
    exact hu
  · rintro u (⟨-, -, hbegun⟩ | ⟨hno, -⟩)
    · exact .of_begun env _ _ (fun h => hchecked (Or.inl h)) hbegins hbegun
    · exact absurd ⟨hforce, hchecked⟩ hno

/-- The call in which the check ends. -/
theorem unchanged_heard (s : Sys) (hs : Evidence f₀ router server (finger s))
    (hend : (Step.handle env inp).Unchanged cfg s) :
    RouterBy env cfg inp f₀ router s ∧ ServerBy env cfg inp f₀ server s := by
  obtain ⟨-, hpending, t, hret, hended⟩ := hend
  obtain ⟨r, hr⟩ := returned_of_ok _ _ _ hret
  have htimers := toTimers_evidence env cfg inp f₀ router server s hs
  rw [wp_ok_iff _ _ _ _ _ _ hr] at htimers
  exact htimers.2 hpending hended

end

/-! ## Runs -/

section
variable (cfg : ClientConfig) (f₀ : Finger)

/-- A step that keeps the lease keeps the evidence. -/
theorem Step.evidence (st : Step) (s : Sys) (router server : Prop)
    (hs : Evidence f₀ router server (finger s)) (hpc : s.pc = .bound) (hb : st.Begins cfg s)
    (hnext : (st.next cfg s).pc = .bound) :
    Evidence f₀ (router ∨ st.Heard cfg f₀.routerAddr f₀.routerArp s)
      (server ∨ st.Heard cfg f₀.srcAddr f₀.serverArp s) (finger (st.next cfg s)) := by
  have hlive : (st.next cfg s).pc ≠ .dead := by simp [hnext]
  have hmore := hs.mono _ _ _ _ (router ∨ st.Heard cfg f₀.routerAddr f₀.routerArp s)
    (server ∨ st.Heard cfg f₀.srcAddr f₀.serverArp s) Or.inl Or.inl
  cases st with
  | handle env inp => exact handle_evidence env cfg inp f₀ router server s hs hpc hb hnext
  | idle => exact hmore
  | exit => exact hmore
  | arp env stale rd =>
    apply final_returned (arpPacketGet env cfg stale rd) { s with out := [] }
      (fun t => Evidence f₀ _ _ (finger t)) ?_ hlive
    apply wp_mono _ _ _ _ _ _ (arpPacketGet_mode env cfg stale rd { s with out := [] }) ?_
      (fun _ _ h => h)
    rintro _ t (ht | ⟨am, ht⟩ | ⟨-, -, ht⟩)
    · rw [ht]
      exact hmore
    · rw [ht]
      exact hmore.read _ _ _ _ am
    · rw [ht]
      exact hmore.opened _ _ _ _ false
  | dhcp env ck rd buf =>
    rw [show finger (Step.next cfg (.dhcp env ck rd buf) s) = finger s from
      final_stays finger (dhcpPacketGet env cfg ck rd buf) { s with out := [] } hlive]
    exact hmore

/-- By the end of a check both were heard, or had been before. -/
theorem run_heard (mid : List Step) (fin : Step) (s : Sys) (router server : Prop)
    (hs : Evidence f₀ router server (finger s))
    (hphase : Along cfg (fun _ s => s.pc = .bound) (mid ++ [fin]) s)
    (hb : Along cfg (fun st s => st.Begins cfg s) (mid ++ [fin]) s)
    (hend : fin.Unchanged cfg (run cfg mid s)) :
    (router ∨ Sometime cfg (Step.Heard cfg f₀.routerAddr f₀.routerArp) (mid ++ [fin]) s) ∧
      (server ∨ Sometime cfg (Step.Heard cfg f₀.srcAddr f₀.serverArp) (mid ++ [fin]) s) := by
  induction mid generalizing s router server with
  | nil =>
    cases fin with
    | handle env inp =>
      obtain ⟨hrouter, hserver⟩ := unchanged_heard env cfg inp f₀ router server s hs hend
      exact ⟨hrouter.imp_right Or.inl, hserver.imp_right Or.inl⟩
    | idle => exact hend.elim
    | exit => exact hend.elim
    | arp => exact hend.elim
    | dhcp => exact hend.elim
  | cons st mid ih =>
    have hnext : (st.next cfg s).pc = .bound := by
      cases mid with
      | nil => exact hphase.2.1
      | cons => exact hphase.2.1
    have he := st.evidence cfg f₀ s router server hs hphase.1 hb.1 hnext
    obtain ⟨hrouter, hserver⟩ := ih _ _ _ he hphase.2 hb.2 hend
    exact ⟨or_assoc.mp hrouter, or_assoc.mp hserver⟩

/-- **A check that ends as unchanged has heard gateway and server**, each from the hardware
address it had when the carrier returned, in every run whose checks begin with a complete
fingerprint that was asked for and with no reply counted. -/
theorem revalidation_sound (b : Startup) (pre : List Step) (ev : Step) (mid : List Step) (fin : Step) (se : Sys)
    (hevent : ev.Carrier cfg se (run cfg pre (.start b)))
    (hphase : Along cfg (fun _ s => s.pc = .bound) (mid ++ [fin]) (ev.next cfg (run cfg pre (.start b))))
    (hend : fin.Unchanged cfg (run cfg mid (ev.next cfg (run cfg pre (.start b)))))
    (hb : Along cfg (fun st s => st.Begins cfg s) (ev :: mid ++ [fin]) (run cfg pre (.start b))) :
    Sometime cfg (Step.Heard cfg se.cs.routerAddr se.cs.routerArp) (mid ++ [fin])
        (ev.next cfg (run cfg pre (.start b))) ∧
      Sometime cfg (Step.Heard cfg se.cs.srcAddr se.cs.serverArp) (mid ++ [fin])
        (ev.next cfg (run cfg pre (.start b))) := by
  generalize run cfg pre (.start b) = s at *
  have hnext : (ev.next cfg s).pc = .bound := by
    cases mid with
    | nil => exact hphase.1
    | cons => exact hphase.1
  cases ev with
  | handle env inp =>
    have he := carrier_evidence env cfg inp s se hevent hb.1 hnext
    obtain ⟨hrouter, hserver⟩ := run_heard cfg (finger se) mid fin _ False False he hphase hb.2 hend
    exact ⟨hrouter.resolve_left id, hserver.resolve_left id⟩
  | idle => exact hevent.elim
  | exit => exact hevent.elim
  | arp => exact hevent.elim
  | dhcp => exact hevent.elim

end

/-! ### Carriers that return -/

theorem returned_final {α : Type} (m : M α) (s : Sys) (h : (returned m s).isSome = true) :
    returned m s = some (final m s) := by
  unfold returned final at *
  cases hm : m s with
  | ok a t => rfl
  | error e t =>
    rw [hm] at h
    cases h

theorem calm_sends (site : Site) : ¬ SendFails calmEnv site := by
  rintro ⟨r, hr, hneg⟩
  cases hr
  exact absurd hneg (by decide)

/-- The carrier is back. -/
def carrierUp : Step := .handle calmEnv { quietInput 4000 with forceFingerprint := true }

/-- The state in which it is handled. -/
def carrierState (s : Sys) : Sys :=
  final (toIfup calmEnv exampleConfig { quietInput 4000 with forceFingerprint := true }) { s with out := [] }

def readGateway (smac : List UInt8) : Step := .arp calmEnv .zero (.data (gatewayReply smac))

def handleFrame : Step := .handle calmEnv { quietInput 5000 with sevArp := true }

theorem handleFrame_begins (s : Sys) : handleFrame.Begins exampleConfig s := fun _ h => nomatch h.2.1

theorem carrierUp_begins : carrierUp.Begins exampleConfig (run exampleConfig answeredRun exampleStart) := by
  rintro se ⟨-, -, hse, -⟩
  rw [returned_final _ _ (by decide +kernel)] at hse
  rw [← Option.some.inj hse]
  exact ⟨by decide +kernel, by decide +kernel, fun h => absurd h (calm_sockd calmEnv.curms _),
    fun h => absurd h (calm_sends _)⟩

/-- The gateway that answered the query answers again. -/
theorem same_gateway_heard :
    Sometime exampleConfig (Step.Heard exampleConfig 0xc0a80101 [2, 0, 0, 0, 0, 1])
      [readGateway [2, 0, 0, 0, 0, 1], handleFrame]
      (carrierUp.next exampleConfig (run exampleConfig answeredRun exampleStart)) := by
  have hrouter : (carrierState (run exampleConfig answeredRun exampleStart)).cs.routerAddr = 0xc0a80101 := by
    decide +kernel
  have hmac : (carrierState (run exampleConfig answeredRun exampleStart)).cs.routerArp = [2, 0, 0, 0, 0, 1] := by
    decide +kernel
  have hheard := (revalidation_sound exampleConfig ⟨0, false, false, 3, true, by decide⟩ answeredRun carrierUp
    [readGateway [2, 0, 0, 0, 0, 1]] handleFrame (carrierState (run exampleConfig answeredRun exampleStart))
    ⟨by decide +kernel, rfl, returned_final _ _ (by decide +kernel),
      not_or.mpr ⟨by decide +kernel, by decide +kernel⟩⟩
    ⟨by decide +kernel, by decide +kernel, trivial⟩
    ⟨by decide +kernel, by decide +kernel, _, returned_final _ _ (by decide +kernel), by decide +kernel⟩
    ⟨carrierUp_begins, trivial, handleFrame_begins _, trivial⟩).1
  rw [hrouter, hmac] at hheard
  exact hheard

/-- The ping that asks for the server's hardware address is not sent. -/
def unsentEnv : Env :=
  { calmEnv with send := fun site => if site = .gwHwaddrServer then some (-1) else some 60 }

/-- A lease without a fingerprint. -/
def unaskedRun : List Step := probingRun ++ [.handle unsentEnv { quietInput 2000 with arpTimeout := true }]

/-- What answers then is taken for the network known: its first frame is learned, its second
confirmed. -/
theorem any_gateway_confirmed :
    carrierUp.Carrier exampleConfig (carrierState (run exampleConfig unaskedRun exampleStart))
        (run exampleConfig unaskedRun exampleStart) ∧
      Along exampleConfig (fun _ s => s.pc = .bound)
        [readGateway [2, 0, 0, 0, 0, 9], handleFrame, readGateway [2, 0, 0, 0, 0, 9], handleFrame]
        (carrierUp.next exampleConfig (run exampleConfig unaskedRun exampleStart)) ∧
      handleFrame.Unchanged exampleConfig (run exampleConfig
        [readGateway [2, 0, 0, 0, 0, 9], handleFrame, readGateway [2, 0, 0, 0, 0, 9]]
        (carrierUp.next exampleConfig (run exampleConfig unaskedRun exampleStart))) ∧
      ¬ Sometime exampleConfig (Step.Heard exampleConfig
          (carrierState (run exampleConfig unaskedRun exampleStart)).cs.routerAddr
          (carrierState (run exampleConfig unaskedRun exampleStart)).cs.routerArp)
        [readGateway [2, 0, 0, 0, 0, 9], handleFrame, readGateway [2, 0, 0, 0, 0, 9], handleFrame]
        (carrierUp.next exampleConfig (run exampleConfig unaskedRun exampleStart)) := by
  refine ⟨?_, ?_, ?_, ?_⟩
  · exact ⟨by decide +kernel, rfl, returned_final _ _ (by decide +kernel),
      not_or.mpr ⟨by decide +kernel, by decide +kernel⟩⟩
  · exact ⟨by decide +kernel, by decide +kernel, by decide +kernel, by decide +kernel, trivial⟩
  · exact ⟨by decide +kernel, by decide +kernel, _, returned_final _ _ (by decide +kernel),
      by decide +kernel⟩
  · rintro (h | h | h | h | h)
    · exact h
    · exact absurd h.2.2 (by decide +kernel)
    · exact h
    · exact absurd h.2.2 (by decide +kernel)
    · exact h

end Ndhc
