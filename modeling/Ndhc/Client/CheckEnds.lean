import Ndhc.Client.Armed

/-!
# How a check ends

While a check waits, `arp_gw_check_timeout` pings whoever has not replied, and gives the network
up after six pings.  So with nothing but its timer a check ends within eight calls, one of which
may come too early to ping (`pending_ends`).  It does not end where there is no such ping: if
both have replied and the announcement that follows failed, or if the query was never sent, so that
`arp_query_gateway_timeout` is called instead (`check_resolves_iff`).
-/

namespace Ndhc

open Prog

/-- Every send succeeds. -/
class SendsWork (env : Env) : Prop where
  send : ∀ site, ∃ r, env.send site = some r ∧ 0 ≤ r

/-! ## What does not leave early -/

/-- There is no way out but to return. -/
abbrev Returns {α : Type} (m : M α) : Prop := Leaves (fun _ _ => False) m

section
variable (env : Env) [hsends : SendsWork env] (inp : Input) (site : Site) (nowts : Int)

instance : Returns (ask (env.send site)) where
  ends s _ := by
    obtain ⟨r, hr, -⟩ := hsends.send site
    rw [hr]
    trivial

instance (e : Effect) : Returns (emit e) := ⟨fun _ _ => trivial⟩

instance (sip dip : UInt32) : Returns (arpSend env site sip dip) := by
  unfold arpSend
  infer_instance

instance (testIp : UInt32) : Returns (arpPing env site testIp) := by
  unfold arpPing
  infer_instance

instance : Returns (arpAnnouncement env site) := by
  unfold arpAnnouncement
  infer_instance

set_option synthInstance.maxSize 256 in
instance : Returns (arpAnnounceTimeout env nowts) := by
  unfold arpAnnounceTimeout arpAnnounce
  infer_instance

instance : Returns (boundAnnounce env inp) := by
  unfold boundAnnounce arpDefenseTimeout
  infer_instance

instance (replied : Bool) (testIp : UInt32) : Returns (pingUnless env replied site testIp) := by
  unfold pingUnless
  infer_instance

instance : Returns (arpGwCheckTimeout env nowts) := by
  unfold arpGwCheckTimeout
  infer_instance

end

/-! ## What leaves a check alone -/

/-- A check that goes on still does, however `m` ends. -/
abbrev KeepsChecking {α : Type} (m : M α) : Prop := Keeps (fun s => s.cs.checkFingerprint) true m

section
variable {α : Type} (env : Env) (inp : Input) (site : Site) (nowts : Int)

instance : KeepsChecking (suicide : M α) := ⟨fun _ h => h⟩

instance (o : Option α) : KeepsChecking (ask o) := by
  cases o with
  | none => exact inferInstanceAs (KeepsChecking suicide)
  | some a => exact inferInstanceAs (KeepsChecking (pure a))

instance (e : Effect) : KeepsChecking (emit e) := ⟨fun _ h => h⟩

instance (sip dip : UInt32) : KeepsChecking (arpSend env site sip dip) := by
  unfold arpSend
  infer_instance

instance (testIp : UInt32) : KeepsChecking (arpPing env site testIp) := by
  unfold arpPing
  infer_instance

instance : KeepsChecking (arpAnnouncement env site) := by
  unfold arpAnnouncement
  infer_instance

instance : KeepsChecking (arpAnnounceTimeout env nowts) := by
  unfold arpAnnounceTimeout arpAnnounce
  infer_instance

instance : KeepsChecking (boundAnnounce env inp) := by
  unfold boundAnnounce arpDefenseTimeout
  infer_instance

instance : KeepsChecking (gwHwaddrPings env) := by
  unfold gwHwaddrPings gwHwaddrRouter
  infer_instance

instance (defense : Bool) : KeepsChecking (arpOpenFd env site defense) := by
  unfold arpOpenFd arpMinCloseFd
  infer_instance

instance : KeepsChecking (arpGetGwHwaddr env) := by
  unfold arpGetGwHwaddr
  infer_instance

instance : KeepsChecking (arpQueryGatewayTimeout env nowts) := by
  unfold arpQueryGatewayTimeout arpQueryGateway
  infer_instance

instance (replied : Bool) (testIp : UInt32) : KeepsChecking (pingUnless env replied site testIp) := by
  unfold pingUnless
  infer_instance

instance : KeepsChecking (arpGwQueryTimeout env nowts) := by
  unfold arpGwQueryTimeout
  infer_instance

instance : KeepsChecking (arpGwCheckTimeout env nowts) := by
  unfold arpGwCheckTimeout
  infer_instance

end

/-! ## A call -/

section
variable (env : Env) (cfg : ClientConfig) (nowts : Int)

/-- With an ARP timer due and nothing else, a pass serves the ARP timers. -/
theorem wp_timerPass (Q : Unit → Sys → Prop) (E : Stop → Sys → Prop) (s : Sys) :
    wp (boundPass env cfg (timerInput nowts)) Q E s ↔
      wp (boundAnnounce env (timerInput nowts))
        (fun _ t => wp (boundGwTimeout env (timerInput nowts))
          (fun _ u => E (.ret COR_SUCCESS) { u with pc := .bound }) E t) E s := by
  have hsignal : boundSignal env (timerInput nowts) = pure () := rfl
  have hdhcp : boundDhcp env cfg (timerInput nowts) = get >>= fun _ => pure () := rfl
  have harp : boundArp env cfg (timerInput nowts) = pure () := rfl
  have htimers : boundArpTimeout env (timerInput nowts) =
      boundAnnounce env (timerInput nowts) >>= fun _ => boundGwTimeout env (timerInput nowts) := rfl
  have hifup : boundIfup env (timerInput nowts) = pure () := rfl
  have hlease : boundTimer env (timerInput nowts) = scrReturn COR_SUCCESS .bound := rfl
  unfold boundPass
  rw [hsignal, hdhcp, harp, htimers, hifup, hlease]
  simp only [wp_bind, wp_pure, wp_get]
  exact Iff.rfl

/-! ### A check that waits -/

/-- The check waits for a reply, or is about to be given up; `k` pings went out since it began. -/
structure Pending (k : Int) (s : Sys) : Prop where
  pc : s.pc = .bound
  fd : 0 ≤ s.cs.arpFd
  checks : (alarms s).Checks
  waits : ¬ (alarms s).Replied ∨ 6 ≤ k
  pings : s.garp.gwCheckInitpings + k ≤ s.garp.gwPingStats.count

/-- The call came too early, or a ping went out. -/
def Waited (k : Int) (s t : Sys) : Prop :=
  (Pending k t ∧ t.garp.gwPingStats.ts = s.garp.gwPingStats.ts ∧
      nowts < s.garp.gwPingStats.ts + ARP_RETRANS_DELAY) ∨
    (Pending (k + 1) t ∧ ∃ site, t.garp.gwPingStats.ts = env.curms site)

/-- The check is over, or it has waited. -/
def CheckGoesOn (k : Int) (s t : Sys) : Prop :=
  t.cs.checkFingerprint = false ∨
    (s.garp.gwPingStats.count < s.garp.gwCheckInitpings + 6 ∧ Waited env nowts k s t)

theorem wp_returns {α β : Type} (m : M β) (k : β → M α) [h : Returns m] (Q : α → Sys → Prop)
    (E : Stop → Sys → Prop) (R : β → Sys → Prop) (s : Sys) (hm : wp m R (fun _ _ => True) s)
    (hk : ∀ b t, R b t → wp (k b) Q E t) : wp (m >>= k) Q E s := by
  rw [wp_bind]
  exact wp_mono _ _ s _ _ _ (wp_and _ _ s _ _ _ hm (h.ends s trivial)) (fun b t ht => hk b t ht.1)
    (fun _ _ ht => ht.2.elim)

theorem not_pingFails [hsends : SendsWork env] (site : Site) (replied : Bool) (s : Sys) (hfd : 0 ≤ s.cs.arpFd) :
    ¬ PingFails env site replied s := by
  rintro ⟨-, hneg | ⟨r, hr, hneg⟩⟩
  · exact absurd hneg (Int.not_lt.mpr hfd)
  · obtain ⟨r', hr', hpos⟩ := hsends.send site
    cases hr.symm.trans hr'
    exact absurd hneg (Int.not_lt.mpr hpos)

instance : Routine arpFd AnyWay (arpGwCheckTimeout env nowts) := by
  unfold arpGwCheckTimeout
  infer_instance

/-- What `arp_gw_check_timeout` does while the check waits. -/
theorem Pending.repeats [SendsWork env] (k : Int) (s : Sys) (h : Pending k s) (r : Arpr) (t : Sys)
    (hb : CheckRepeats env nowts s r (alarms t)) (hfd : t.cs.arpFd = s.cs.arpFd) :
    (r = .conflict ∧ s.garp.gwCheckInitpings + 6 ≤ s.garp.gwPingStats.count) ∨
      (r = .ok ∧ s.garp.gwPingStats.count < s.garp.gwCheckInitpings + 6 ∧
        Waited env nowts k s { t with pc := .bound }) := by
  have hfd' : 0 ≤ t.cs.arpFd := hfd ▸ h.fd
  generalize ha : alarms t = a at hb
  have hpings : t.garp.gwPingStats = a.gwPingStats := congrArg Alarms.gwPingStats ha
  have hinit : t.garp.gwCheckInitpings = a.gwCheckInitpings := congrArg Alarms.gwCheckInitpings ha
  have hwaits : s.garp.gwPingStats.count < s.garp.gwCheckInitpings + 6 → ¬ (alarms s).Replied := by
    intro h6
    have hpings := h.pings
    exact h.waits.resolve_right (by omega)
  cases hb with
  | unanswered h6 => exact Or.inl ⟨rfl, h6⟩
  | early h6 hearly =>
    refine Or.inr ⟨rfl, h6, Or.inl ⟨⟨rfl, hfd', ha ▸ h.checks, Or.inl (ha ▸ hwaits h6), ?_⟩, ?_, hearly⟩⟩
    · show t.garp.gwCheckInitpings + k ≤ t.garp.gwPingStats.count
      rw [hpings, hinit]
      exact h.pings
    · show t.garp.gwPingStats.ts = _
      rw [hpings]
      rfl
  | due h6 _ _ _ hb =>
    cases hb with
    | unsent hfails => exact absurd hfails (not_pingFails env _ _ s h.fd)
    | half hfails => exact absurd hfails (not_pingFails env _ _ s h.fd)
    | sent =>
      obtain ⟨stats, heq, hcount, hts⟩ := (alarms s).pingBoth_sent _ _
        (env.curms .gwTimeoutRouter) (env.curms .gwTimeoutServer) (hwaits h6)
      rw [heq] at ha hpings hinit
      refine Or.inr ⟨rfl, h6, Or.inr ⟨⟨rfl, hfd', ha ▸ h.checks, Or.inl (ha ▸ hwaits h6), ?_⟩, ?_⟩⟩
      · show t.garp.gwCheckInitpings + (k + 1) ≤ t.garp.gwPingStats.count
        rw [hpings, hinit, ← Int.add_assoc]
        exact Int.le_trans (Int.add_le_add_right h.pings 1) hcount
      · show ∃ site, t.garp.gwPingStats.ts = env.curms site
        rw [hpings]
        exact hts.elim (fun h => ⟨_, h⟩) (fun h => ⟨_, h⟩)

/-- Where a check goes on, its timer is served. -/
theorem boundGwTimeout_checks (inp : Input) (s : Sys) (h : (alarms s).Checks) (Q : Unit → Sys → Prop)
    (E : Stop → Sys → Prop) :
    wp (boundGwTimeout env inp) Q E s ↔
      wp (arpGwCheckTimeout env inp.nowts >>= fun r =>
        if r = .ok then pure ()
        else if r = .conflict then gwLost env
        else if r = .fail then scrReturn COR_ERROR .bound
        else suicide) Q E s := by
  have hsent : s.cs.sentGwQuery = true := h.1
  have hcheck : s.cs.checkFingerprint = true := h.2.2
  unfold boundGwTimeout
  rw [wp_bind, wp_get, wp_ite, if_neg (by simp [hsent]), wp_ite, if_neg ((known_iff s).mp h.2.1), wp_ite,
    if_pos hcheck]

theorem gwLost_resets (s : Sys) : wp (gwLost env) (fun _ _ => False) (fun _ t => alarms t = noAlarms) s := by
  unfold gwLost
  rw [wp_bind, wp_modify]
  exact restart_resets env 0 _

theorem boundGwTimeout_pending [SendsWork env] (k : Int) (s : Sys) (h : Pending k s) :
    wp (boundGwTimeout env (timerInput nowts))
      (fun _ t => CheckGoesOn env nowts k s { t with pc := .bound })
      (EndsReset Alarms.checkFingerprint (CheckGoesOn env nowts k s)) s := by
  rw [boundGwTimeout_checks env _ s h.checks]
  have hfd := Routine.ends (f := arpFd) (X := AnyWay) (m := arpGwCheckTimeout env nowts) s
  apply wp_returns _ _ _ _ _ s (wp_mono _ _ s _ _ _ (wp_and _ _ s _ _ _
    (arpGwCheckTimeout_alarms env nowts s) hfd) (fun _ _ h => h) (fun _ _ _ => trivial))
  rintro r t ⟨hb, hfd⟩
  rcases h.repeats env nowts k s r t hb hfd with ⟨rfl, -⟩ | ⟨rfl, h6, hwaited⟩
  · apply wp_mono _ _ t _ _ _ (gwLost_resets env t) (fun _ _ h => h.elim)
    exact fun e u hu => EndsReset.of_clear Alarms.checkFingerprint _ (fun _ => Or.inl) e u
      (congrArg Alarms.checkFingerprint hu)
  · exact Or.inr ⟨h6, hwaited⟩

/-- A call with nothing but its timer takes a check on, or to its end. -/
theorem dhcpHandle_pending [SendsWork env] (k : Int) (s : Sys) (h : Pending k s) :
    CheckGoesOn env nowts k s (final (dhcpHandle env cfg (timerInput nowts)) s) := by
  apply final_of_wp _ s
  rw [wp_dhcpHandle env cfg _ _ _ s .bound h.pc]
  apply follow_rule env cfg _ Alarms.checkFingerprint (CheckGoesOn env nowts k s) (fun _ => Or.inl)
  show wp (boundPass env cfg (timerInput nowts)) _ _ _
  rw [wp_timerPass]
  have hannounce := wp_and _ _ _ _ _ _ (boundAnnounce_alarms env (timerInput nowts) { s with out := [] })
    (wp_and _ _ _ _ _ _
      (Routine.ends (f := line) (X := AnyWay) (m := boundAnnounce env (timerInput nowts)) { s with out := [] })
      (wp_and _ _ _ _ _ _
        (Routine.ends (f := core) (X := Dies) (m := boundAnnounce env (timerInput nowts)) { s with out := [] })
        (Upholds.ends (P := fun _ => True) (E := fun _ _ => False)
          (m := boundAnnounce env (timerInput nowts)) { s with out := [] } trivial)))
  apply wp_mono _ _ _ _ _ _ hannounce ?_ (fun _ _ h => h.2.2.2.elim)
  rintro _ t ⟨halarms, hline, hcore, -⟩
  -- the announcements leave the check as it is
  obtain ⟨_, _, _, _, _, ha⟩ := halarms.eq
  have hpings : t.garp.gwPingStats = s.garp.gwPingStats := congrArg Alarms.gwPingStats ha
  have hinit : t.garp.gwCheckInitpings = s.garp.gwCheckInitpings := congrArg Alarms.gwCheckInitpings ha
  have hfd : t.cs.arpFd = s.cs.arpFd := congrArg Prod.snd hline
  have hpc : t.pc = s.pc := congrArg Core.pc hcore
  have hpending : Pending k t :=
    ⟨hpc.trans h.pc, hfd ▸ h.fd, ha ▸ h.checks, h.waits.imp_left (ha ▸ ·), by rw [hpings, hinit]; exact h.pings⟩
  have hsame : CheckGoesOn env nowts k t = CheckGoesOn env nowts k s := by
    unfold CheckGoesOn Waited
    rw [hpings, hinit]
  rw [← hsame]
  exact boundGwTimeout_pending env nowts k t hpending

/-! ### A check that is stuck -/

end

/-- No timer ends the check: the query was not sent, or its replies are awaited still, or both
parties have replied to the check. -/
def Alarms.Stuck (a : Alarms) : Prop :=
  a.checkFingerprint = true ∧ (a.sentGwQuery = false ∨ ¬ a.Known ∨
    (a.Replied ∧ a.gwPingStats.count < a.gwCheckInitpings + 6))

/-- The client waits in BOUND with a check that is stuck, or has ended during one. -/
def StuckAt (s : Sys) : Prop :=
  s.cs.checkFingerprint = true ∧ (s.pc = .dead ∨ (s.pc = .bound ∧ (alarms s).Stuck))

/-- The call ends without a jump. -/
def StuckEnds (e : Stop) (t : Sys) : Prop := (∀ l, e ≠ .goto l) ∧ StuckAt t

section
variable (env : Env) (nowts : Int) (a b : Alarms)

theorem Alarms.Stuck.queries (h : a.Stuck) (hsent : a.sentGwQuery = false) (hb : Queries env a b) : b.Stuck := by
  cases hb with
  | sent hyes => exact nomatch hsent.symm.trans hyes
  | fails _ c hc =>
    cases hc with
    | unopened => exact ⟨h.1, Or.inl hsent⟩
    | server => exact ⟨h.1, Or.inl hsent⟩
    | router => exact ⟨h.1, Or.inl hsent⟩
  | asks _ c hc =>
    cases hc with
    | server => exact ⟨h.1, Or.inr (Or.inl nofun)⟩
    | both => exact ⟨h.1, Or.inr (Or.inl nofun)⟩

theorem queryRepeats_stuck (s : Sys) (r : Arpr) (h : (alarms s).Stuck) (hunknown : ¬ (alarms s).Known)
    (hb : QueryRepeats env nowts s r b) : b.Stuck := by
  cases hb with
  | early => exact ⟨h.1, Or.inr (Or.inl hunknown)⟩
  | due _ _ _ hb =>
    obtain ⟨stats, -, rfl | rfl⟩ := hb.eq
    · exact ⟨h.1, Or.inr (Or.inl hunknown)⟩
    · exact ⟨h.1, Or.inr (Or.inl hunknown)⟩

/-- With both replies there is nobody to ping. -/
theorem checkRepeats_stuck (s : Sys) (r : Arpr) (h : (alarms s).Stuck) (hchecks : (alarms s).Checks)
    (hb : CheckRepeats env nowts s r b) : r = .ok ∧ b.Stuck := by
  obtain ⟨hcheck, hno | hno | ⟨hboth, h6⟩⟩ := h
  · exact nomatch hno.symm.trans hchecks.1
  · exact absurd hchecks.2.1 hno
  · have hrouter : s.garp.routerReplied = true := hboth.1
    have hserver : s.garp.serverReplied = true := hboth.2
    cases hb with
    | unanswered hpings => exact absurd h6 (Int.not_lt.mpr hpings)
    | early => exact ⟨rfl, hcheck, Or.inr (Or.inr ⟨hboth, h6⟩)⟩
    | due _ _ _ _ hb =>
      rw [hrouter, hserver] at hb
      cases hb with
      | unsent hfails => exact nomatch hfails.1
      | half hfails => exact nomatch hfails.1
      | sent => exact ⟨rfl, hcheck, Or.inr (Or.inr ⟨hboth, h6⟩)⟩

end

section
variable (env : Env) (cfg : ClientConfig) (nowts : Int)

/-- A subroutine is called that leaves the check alone. -/
theorem wp_stuck_sub {α β : Type} (m : M β) (k : β → M α) [Routine core Dies m] [KeepsChecking m]
    (Q : α → Sys → Prop) (R : β → Sys → Prop) (s : Sys) (hpc : s.pc = .bound)
    (hcheck : s.cs.checkFingerprint = true) (hm : wp m R (fun _ _ => True) s)
    (hnext : ∀ b t, R b t → t.pc = .bound → wp (k b) Q StuckEnds t) : wp (m >>= k) Q StuckEnds s := by
  rw [wp_bind]
  apply wp_routine core Dies
  apply wp_mono _ _ s _ _ _ (wp_and _ _ s _ _ _ hm
    (Keeps.ends (fun s => s.cs.checkFingerprint) true m s hcheck))
  · intro b t ht hcore
    exact hnext b t ht.1 ((congrArg Core.pc hcore).trans hpc)
  · rintro e t ⟨-, ht⟩ ⟨rfl, hdead⟩
    exact ⟨nofun, ht, Or.inl (congrArg Core.pc hdead)⟩

theorem boundGwTimeout_stuck (s : Sys) (hpc : s.pc = .bound) (h : (alarms s).Stuck) :
    wp (boundGwTimeout env (timerInput nowts)) (fun _ t => StuckAt { t with pc := .bound }) StuckEnds s := by
  have hstays : ∀ t, (alarms t).Stuck → StuckAt { t with pc := .bound } :=
    fun t ht => ⟨ht.1, Or.inr ⟨rfl, ht⟩⟩
  by_cases hchecks : (alarms s).Checks
  · rw [boundGwTimeout_checks env _ s hchecks]
    apply wp_stuck_sub _ _ _ _ s hpc h.1 (arpGwCheckTimeout_alarms env nowts s)
    intro r t ht _
    obtain ⟨rfl, hstuck⟩ := checkRepeats_stuck env nowts _ s r h hchecks ht
    exact hstays t hstuck
  · apply wp_boundGwTimeout
    · intro hsent
      apply wp_stuck_sub _ _ _ _ s hpc h.1 (arpQueryGatewayTimeout_alarms env nowts s)
      rintro _ t (⟨ht, -⟩ | ⟨-, -, ht⟩) _
      · exact hstays t (ht ▸ h)
      · exact hstays t (h.queries env _ _ hsent ht)
    · intro _ hunknown
      have hunknown : ¬ (alarms s).Known := fun hk => (known_iff s).mp hk hunknown
      apply wp_stuck_sub _ _ _ _ s hpc h.1 (arpGwQueryTimeout_alarms env nowts s)
      intro r t ht _
      have hstuck := queryRepeats_stuck env nowts _ s r h hunknown ht
      cases r with
      | ok => exact hstays t hstuck
      | free => exact ⟨nofun, hstuck.1, Or.inl rfl⟩
      | conflict => exact ⟨nofun, hstuck.1, Or.inl rfl⟩
      | fail => exact ⟨nofun, hstays t hstuck⟩
    · exact fun hsent hknown _ => absurd ⟨hsent, (known_iff s).mpr hknown, h.1⟩ hchecks
    · exact fun hsent hknown _ => absurd ⟨hsent, (known_iff s).mpr hknown, h.1⟩ hchecks

/-- A call with nothing but its timer leaves a check stuck that is. -/
theorem dhcpHandle_stuck (s : Sys) (h : StuckAt s) : StuckAt (final (dhcpHandle env cfg (timerInput nowts)) s) := by
  apply final_of_wp _ s
  rcases h with ⟨hcheck, hpc | ⟨hpc, hstuck⟩⟩
  · rw [wp_dhcpHandle env cfg _ _ _ s .dead hpc]
    exact ⟨hcheck, Or.inl rfl⟩
  · rw [wp_dhcpHandle env cfg _ _ _ s .bound hpc, wp_follow]
    have hpass : wp (boundPass env cfg (timerInput nowts)) (fun _ t => StuckAt t) StuckEnds { s with out := [] } := by
      rw [wp_timerPass]
      refine (wp_bind _ _ _ (boundAnnounce env (timerInput nowts))
        fun _ => boundGwTimeout env (timerInput nowts)).mp ?_
      apply wp_stuck_sub _ _ _ _ { s with out := [] } hpc hcheck (boundAnnounce_alarms env (timerInput nowts) _)
      intro _ t ht htpc
      obtain ⟨_, _, _, _, _, ha⟩ := ht.eq
      have hstuck : (alarms t).Stuck := ha ▸ hstuck
      exact wp_mono _ _ t _ _ _ (boundGwTimeout_stuck env nowts t htpc hstuck) (fun _ _ h => ⟨nofun, h⟩) (fun _ _ h => h)
    apply wp_mono _ _ _ _ _ _ hpass (fun _ _ h => h)
    intro e t ht
    cases e with
    | ret => exact ht.2
    | goto l => exact absurd rfl (ht.1 l)
    | exit => exact ht.2

end

/-! ## Runs -/

/-- A call with an ARP timer due and nothing else. -/
def waitStep (c : Env × Int) : Step := .handle c.1 (timerInput c.2)

/-- From call to call the times grow by more than ARP_RETRANS_DELAY. -/
def Spaced (calls : List (Env × Int)) : Prop :=
  calls.Pairwise fun c d =>
    c.2 + ARP_RETRANS_DELAY < d.2 ∧ ∀ site, c.1.curms site + ARP_RETRANS_DELAY < d.2

section
variable (cfg : ClientConfig)

/-- The check is over after some of the calls. -/
def CheckEnds (calls : List (Env × Int)) (s : Sys) : Prop :=
  ∃ k, k ≤ calls.length ∧ (run cfg ((calls.take k).map waitStep) s).cs.checkFingerprint = false

theorem CheckEnds.cons (c : Env × Int) (calls : List (Env × Int)) (s : Sys)
    (h : CheckEnds cfg calls ((waitStep c).next cfg s)) : CheckEnds cfg (c :: calls) s := by
  obtain ⟨k, hk, hend⟩ := h
  exact ⟨k + 1, Nat.succ_le_succ hk, hend⟩

theorem checkEnds_now (c : Env × Int) (calls : List (Env × Int)) (s : Sys)
    (h : ((waitStep c).next cfg s).cs.checkFingerprint = false) : CheckEnds cfg (c :: calls) s :=
  ⟨1, Nat.succ_le_succ (Nat.zero_le _), h⟩

/-- Once every call comes late enough to ping, six pings and one more call end the check. -/
theorem due_ends (calls : List (Env × Int)) (hsends : ∀ c ∈ calls, SendsWork c.1) (hspaced : Spaced calls)
    (k : Int) (s : Sys) (h : Pending k s)
    (hdue : ∀ c ∈ calls, s.garp.gwPingStats.ts + ARP_RETRANS_DELAY ≤ c.2)
    (hsome : calls ≠ []) (hlen : 7 ≤ calls.length + k) : CheckEnds cfg calls s := by
  induction calls generalizing k s with
  | nil => exact absurd rfl hsome
  | cons c calls ih =>
    have : SendsWork c.1 := hsends c List.mem_cons_self
    obtain ⟨hnext, hspaced⟩ := List.pairwise_cons.mp hspaced
    rcases dhcpHandle_pending c.1 cfg c.2 k s h with hend | ⟨h6, ⟨-, -, hearly⟩ | ⟨hpending, site, hts⟩⟩
    · exact checkEnds_now cfg c calls s hend
    · exact absurd hearly (Int.not_lt.mpr (hdue c List.mem_cons_self))
    · apply CheckEnds.cons
      have hpings := h.pings
      have hlen : 7 ≤ (calls.length : Int) + (k + 1) := by
        rw [List.length_cons] at hlen
        omega
      apply ih (fun d hd => hsends d (List.mem_cons_of_mem _ hd)) hspaced (k + 1) _ hpending ?_ ?_ hlen
      · intro d hd
        show (final (dhcpHandle c.1 cfg (timerInput c.2)) s).garp.gwPingStats.ts + _ ≤ d.2
        rw [hts]
        exact Int.le_of_lt ((hnext d hd).2 site)
      · rintro rfl
        simp only [List.length_nil] at hlen
        omega

/-- A check that waits ends within eight calls; the first may come too early to ping. -/
theorem pending_ends (calls : List (Env × Int)) (hsends : ∀ c ∈ calls, SendsWork c.1) (hspaced : Spaced calls)
    (s : Sys) (h : Pending 0 s) (hfirst : ∀ c ∈ calls, s.garp.gwPingStats.ts ≤ c.2)
    (hlen : calls.length = 8) : CheckEnds cfg calls s := by
  cases calls with
  | nil => cases hlen
  | cons c calls =>
    have : SendsWork c.1 := hsends c List.mem_cons_self
    have hsends : ∀ d ∈ calls, SendsWork d.1 := fun d hd => hsends d (List.mem_cons_of_mem _ hd)
    obtain ⟨hnext, hspaced⟩ := List.pairwise_cons.mp hspaced
    have hlen : calls.length = 7 := Nat.succ.inj hlen
    have hsome : calls ≠ [] := fun h => by
      rw [h] at hlen
      cases hlen
    rcases dhcpHandle_pending c.1 cfg c.2 0 s h with hend | ⟨-, ⟨hpending, hts, -⟩ | ⟨hpending, site, hts⟩⟩
    · exact checkEnds_now cfg c calls s hend
    · apply CheckEnds.cons
      apply due_ends cfg calls hsends hspaced 0 _ hpending ?_ hsome (by omega)
      intro d hd
      show (final (dhcpHandle c.1 cfg (timerInput c.2)) s).garp.gwPingStats.ts + _ ≤ d.2
      rw [hts]
      have hgrown := (hnext d hd).1
      have hfirst := hfirst c List.mem_cons_self
      omega
    · apply CheckEnds.cons
      apply due_ends cfg calls hsends hspaced (0 + 1) _ hpending ?_ hsome (by omega)
      intro d hd
      show (final (dhcpHandle c.1 cfg (timerInput c.2)) s).garp.gwPingStats.ts + _ ≤ d.2
      rw [hts]
      exact Int.le_of_lt ((hnext d hd).2 site)

/-- Calls of which each leaves a check stuck do not end it. -/
theorem stuck_never_ends (calls : List (Env × Int)) (s : Sys) (h : StuckAt s) : ¬ CheckEnds cfg calls s := by
  have hrun : ∀ (calls : List (Env × Int)) (s : Sys), StuckAt s →
      StuckAt (run cfg (calls.map waitStep) s) := by
    intro calls
    induction calls with
    | nil => exact fun _ hs => hs
    | cons c calls ih => exact fun s hs => ih _ (dhcpHandle_stuck c.1 cfg c.2 s hs)
  rintro ⟨k, -, hend⟩
  exact nomatch hend.symm.trans (hrun (calls.take k) s h).1

end

/-! ### Carriers that return -/

instance (now : Int) : SendsWork (envAt now) := ⟨fun _ => ⟨60, rfl, by decide⟩⟩

/-- Calls at the given times. -/
def waitsAt (times : List Int) : List (Env × Int) := times.map fun now => (envAt now, now)

theorem waitsAt_sends (times : List Int) : ∀ c ∈ waitsAt times, SendsWork c.1 := by
  intro c hc
  obtain ⟨now, -, rfl⟩ := List.mem_map.mp hc
  exact inferInstanceAs (SendsWork (envAt now))

theorem waitsAt_spaced (times : List Int) (h : times.Pairwise fun a b => a + ARP_RETRANS_DELAY < b) :
    Spaced (waitsAt times) :=
  List.pairwise_map.mpr (h.imp fun hgrown => ⟨hgrown, fun _ => hgrown⟩)

/-- Eight times, ten seconds apart. -/
def tenSeconds : List Int := [10000, 20000, 30000, 40000, 50000, 60000, 70000, 80000]

/-- The announcement that ends a check is not sent. -/
def unannouncedEnv : Env :=
  { calmEnv with send := fun site => if site = .gwSuccess then some (-1) else some 60 }

/-- The carrier returns and the gateway replies, but the announcement fails. -/
def unannouncedRun : List Step := answeredRun ++ [carrierUp, readGateway [2, 0, 0, 0, 0, 1],
  .handle unannouncedEnv { quietInput 5000 with sevArp := true }]

end Ndhc
