import Ndhc.Client.Armed

/-!
# Timers nobody serves

`do_ndhc_work` wakes for the earliest timer of `garp.wake_ts`, and the BOUND loop serves each of
them only under some of its flags.  `Orphaned` lists the timers that are due and left as they
are: that of `arp_check`, which only the probing loop serves, the defense timer before both
announcements are out, that of a check while there is no fingerprint to check against, and that of a
check both parties have replied to.  A call with `arp_timeout` leaves no timer due exactly if
there is none of these (`timers_served_iff`).
-/

namespace Ndhc

open Prog

/-- The timer is off, or still to come. -/
def AtRest (nowts w : Int) : Prop := w = -1 ∨ nowts < w

instance (nowts w : Int) : Decidable (AtRest nowts w) := inferInstanceAs (Decidable (_ ∨ _))

/-- The timer of a check is due, and nothing sets it anew. -/
inductive CheckOrphaned (nowts : Int) (a : Alarms) : Prop
  | unserved (h : ¬ a.Checks) (hdue : ¬ AtRest nowts a.gwCheck)
  | replied (h : a.Checks) (hboth : a.Replied) (hdue : ¬ AtRest nowts (a.gwPingStats.ts + ARP_RETRANS_DELAY))

/-- Where a call turns to the ARP timers in `u`, one is due that it does not serve. -/
inductive Orphaned (inp : Input) (u : Sys) : Prop
  | probe (hdue : ¬ AtRest inp.nowts u.garp.wakeTs.collisionCheck)
  | defense (hsent : ¬ (alarms u).SentBoth) (hdue : ¬ AtRest inp.nowts u.garp.wakeTs.defense)
  | check (hforce : inp.forceFingerprint = false) (h : CheckOrphaned inp.nowts (alarms u))

/-! ## The timers -/

section
variable (env : Env) (nowts : Int) (hclock : ∀ site, nowts ≤ env.curms site)
include hclock

theorem atRest_after (site : Site) (d : Int) (hd : 0 < d) : AtRest nowts (env.curms site + d) :=
  Or.inr (Int.lt_of_le_of_lt (hclock site) (Int.lt_add_of_pos_right _ hd))

theorem atRest_pinged (stats : ArpStats) (site₁ site₂ : Site)
    (h : stats.ts = env.curms site₁ ∨ stats.ts = env.curms site₂) :
    AtRest nowts (stats.ts + ARP_RETRANS_DELAY) := by
  rcases h with h | h
  · rw [h]
    exact atRest_after env nowts hclock site₁ _ (by decide)
  · rw [h]
    exact atRest_after env nowts hclock site₂ _ (by decide)

omit hclock in
/-- The announcements do not matter to the timer of a check. -/
theorem checkOrphaned_announcements (a : Alarms) (announce defense : Int) (stats : ArpStats)
    (first second : Bool) :
    CheckOrphaned nowts { a with
      announce := announce, defense := defense, announceStats := stats
      sentFirstAnnounce := first, sentSecondAnnounce := second } ↔ CheckOrphaned nowts a := by
  constructor
  · rintro (⟨h, hdue⟩ | ⟨h, hboth, hdue⟩)
    · exact .unserved h hdue
    · exact .replied h hboth hdue
  · rintro (⟨h, hdue⟩ | ⟨h, hboth, hdue⟩)
    · exact .unserved h hdue
    · exact .replied h hboth hdue

/-- What the announcements leave. -/
theorem AnnounceTimers.atRest (a b : Alarms) (h : AnnounceTimers env nowts a b) (hs : a.Sound) :
    AtRest nowts b.announce ∧ (AtRest nowts b.defense ↔ a.SentBoth ∨ AtRest nowts a.defense) ∧
      b.idle = a.idle ∧ (CheckOrphaned nowts b ↔ CheckOrphaned nowts a) := by
  have hsame := checkOrphaned_announcements nowts a
  rcases h with ⟨hboth, stats, rfl, -⟩ | ⟨hnot, ⟨rfl, hoff⟩ | ⟨-, -, hb⟩⟩
  · exact ⟨Or.inl (hs.announce hboth), ⟨fun _ => Or.inl hboth, fun _ => Or.inl rfl⟩, rfl, hsame _ _ _ _ _⟩
  · exact ⟨hoff, ⟨Or.inr, fun h => h.resolve_left hnot⟩, rfl, Iff.rfl⟩
  · have hnext := atRest_after env nowts hclock .announceNext ARP_RETRANS_DELAY (by decide)
    have hdefense : AtRest nowts a.defense ↔ a.SentBoth ∨ AtRest nowts a.defense :=
      ⟨Or.inr, fun h => h.resolve_left hnot⟩
    cases hb with
    | both hboth => exact absurd hboth hnot
    | fails => exact ⟨hnext, hdefense, rfl, hsame _ _ _ _ _⟩
    | first => exact ⟨hnext, hdefense, rfl, hsame _ _ _ _ _⟩
    | second => exact ⟨Or.inl rfl, hdefense, rfl, hsame _ _ _ _ _⟩

/-- Of the timers only those of query and check were served. -/
structure Rested (a b : Alarms) : Prop where
  idle : b.idle = a.idle
  announce : b.announce = a.announce
  defense : b.defense = a.defense
  query : AtRest nowts b.queryGwSend
  awaited : AtRest nowts b.gwQuery
  check : AtRest nowts b.gwCheck ↔ ¬ CheckOrphaned nowts a

omit hclock in
theorem checkOrphaned_unserved (a : Alarms) (h : ¬ a.Checks) :
    AtRest nowts a.gwCheck ↔ ¬ CheckOrphaned nowts a := by
  constructor
  · rintro hrest (⟨-, hdue⟩ | ⟨hchecks, -, -⟩)
    · exact hdue hrest
    · exact h hchecks
  · intro hno
    by_contra hdue
    exact hno (.unserved h hdue)

omit hclock in
theorem checkOrphaned_served (a : Alarms) (h : a.Checks) :
    CheckOrphaned nowts a ↔ a.Replied ∧ ¬ AtRest nowts (a.gwPingStats.ts + ARP_RETRANS_DELAY) := by
  constructor
  · rintro (⟨hnot, -⟩ | ⟨-, hboth, hdue⟩)
    · exact absurd h hnot
    · exact ⟨hboth, hdue⟩
  · exact fun ⟨hboth, hdue⟩ => .replied h hboth hdue

omit hclock in
theorem Alarms.Sound.unawaited (a : Alarms) (hs : a.Sound) (h : a.sentGwQuery = false ∨ a.Known) :
    a.gwQuery = -1 := by
  by_contra harmed
  obtain ⟨hsent, hunknown⟩ := hs.awaited harmed
  rcases h with h | h
  · exact nomatch h.symm.trans hsent
  · exact hunknown h

theorem Queries.rested (a b : Alarms) (h : Queries env a b) (hs : a.Sound) (hsent : a.sentGwQuery = false) :
    Rested nowts a b := by
  have hcheck := checkOrphaned_unserved nowts a fun hc => nomatch hsent.symm.trans hc.1
  have hnext := fun site => atRest_after env nowts hclock site
  have hoff := hs.unawaited a (Or.inl hsent)
  cases h with
  | sent h => exact nomatch hsent.symm.trans h
  | fails _ c hc =>
    cases hc with
    | unopened => exact ⟨rfl, rfl, rfl, hnext _ _ (by decide), Or.inl hoff, hcheck⟩
    | server => exact ⟨rfl, rfl, rfl, hnext _ _ (by decide), Or.inl hoff, hcheck⟩
    | router => exact ⟨rfl, rfl, rfl, hnext _ _ (by decide), Or.inl hoff, hcheck⟩
  | asks _ c hc =>
    have hawait : ∀ site, AtRest nowts (env.curms site + ARP_RETRANS_DELAY + 250) := fun site => by
      rw [Int.add_assoc]
      exact hnext site _ (by decide)
    cases hc with
    | server => exact ⟨rfl, rfl, rfl, Or.inl rfl, hawait _, hcheck⟩
    | both => exact ⟨rfl, rfl, rfl, Or.inl rfl, hawait _, hcheck⟩

theorem QueryRepeats.rested (u : Sys) (b : Alarms) (h : QueryRepeats env nowts u .ok b) (hs : (alarms u).Sound)
    (hsent : u.cs.sentGwQuery = true) (hunknown : gwUnknown u.cs) : Rested nowts (alarms u) b := by
  have hcheck := checkOrphaned_unserved nowts (alarms u) fun hc => (known_iff u).mp hc.2.1 hunknown
  cases h with
  | early hearly => exact ⟨rfl, rfl, rfl, Or.inl (hs.query hsent), Or.inr hearly, hcheck⟩
  | due _ _ _ hb =>
    cases hb with
    | sent =>
      have hsome : ¬ (u.cs.gotRouterArp = true ∧ u.cs.gotServerArp = true) :=
        fun hk => (known_iff u).mp hk hunknown
      obtain ⟨stats, heq, -, hts⟩ := (alarms u).pingBoth_sent _ _
        (env.curms .gwQueryRouter) (env.curms .gwQueryServer) hsome
      rw [heq]
      exact ⟨rfl, rfl, rfl, Or.inl (hs.query hsent), atRest_pinged env nowts hclock stats _ _ hts, hcheck⟩

theorem CheckRepeats.rested (u : Sys) (b : Alarms) (h : CheckRepeats env nowts u .ok b) (hs : (alarms u).Sound)
    (hchecks : (alarms u).Checks) : Rested nowts (alarms u) b := by
  have hquery := hs.query hchecks.1
  have hoff := hs.unawaited _ (Or.inr hchecks.2.1)
  cases h with
  | early _ hearly =>
    have hrest : AtRest nowts (u.garp.gwPingStats.ts + ARP_RETRANS_DELAY) := Or.inr hearly
    exact ⟨rfl, rfl, rfl, Or.inl hquery, Or.inl hoff, iff_of_true hrest fun h =>
      ((checkOrphaned_served nowts _ hchecks).mp h).2 hrest⟩
  | due _ _ _ _ hb =>
    cases hb with
    | sent =>
      by_cases hboth : (alarms u).Replied
      · have hrouter : u.garp.routerReplied = true := hboth.1
        have hserver : u.garp.serverReplied = true := hboth.2
        rw [hrouter, hserver]
        refine ⟨rfl, rfl, rfl, Or.inl hquery, Or.inl hoff, ?_⟩
        rw [checkOrphaned_served nowts _ hchecks]
        exact ⟨fun hrest h => h.2 hrest, fun h => by_contra fun hdue => h ⟨hboth, hdue⟩⟩
      · obtain ⟨stats, heq, -, hts⟩ := (alarms u).pingBoth_sent _ _
          (env.curms .gwTimeoutRouter) (env.curms .gwTimeoutServer) hboth
        rw [heq]
        exact ⟨rfl, rfl, rfl, Or.inl hquery, Or.inl hoff, iff_of_true (atRest_pinged env nowts hclock stats _ _ hts)
          fun h => hboth ((checkOrphaned_served nowts _ hchecks).mp h).1⟩

/-- What query and check leave. -/
theorem GwTimers.rested (u : Sys) (b : Alarms) (h : GwTimers env nowts u .ok b) (hs : (alarms u).Sound) :
    Rested nowts (alarms u) b := by
  cases h with
  | query hsent _ hb =>
    rcases hb with ⟨rfl, hrest⟩ | ⟨-, -, hb⟩
    · exact ⟨rfl, rfl, rfl, hrest, Or.inl (hs.unawaited _ (Or.inl hsent)),
        checkOrphaned_unserved nowts _ fun hc => nomatch hsent.symm.trans hc.1⟩
    · exact hb.rested env nowts hclock _ b hs hsent
  | repeatQuery hsent hunknown _ _ hb => exact hb.rested env nowts hclock u b hs hsent hunknown
  | repeatCheck hsent hknown hcheck _ _ hb =>
    exact hb.rested env nowts hclock u b hs ⟨hsent, (known_iff u).mpr hknown, hcheck⟩
  | rest hsent hknown hcheck =>
    exact ⟨rfl, rfl, rfl, Or.inl (hs.query hsent), Or.inl (hs.unawaited _ (Or.inr ((known_iff u).mpr hknown))),
      checkOrphaned_unserved nowts _ fun hc => nomatch hcheck.symm.trans hc.2.2⟩

end

/-! ## The timer of the probes -/

/-- Only `arp_check` and the probing loop look after this timer. -/
@[reducible] def probeTimer (s : Sys) : Int := s.garp.wakeTs.collisionCheck

instance : Offline probeTimer where
  eq _ _ := rfl
  pc _ _ := rfl
  listen _ _ _ := rfl
  wake _ _ := rfl
  lease _ _ _ := rfl

section
variable (env : Env) (inp : Input) (site : Site) (nowts : Int)

instance (testIp : UInt32) : Routine probeTimer AnyWay (arpPing env site testIp) := by
  unfold arpPing
  infer_instance

instance (replied : Bool) (testIp : UInt32) :
    Routine probeTimer AnyWay (pingUnless env replied site testIp) := by
  unfold pingUnless
  infer_instance

instance : Routine probeTimer AnyWay arpMinCloseFd := by
  unfold arpMinCloseFd
  infer_instance

instance (defense : Bool) : Routine probeTimer AnyWay (arpOpenFd env site defense) := by
  unfold arpOpenFd
  infer_instance

instance : Routine probeTimer AnyWay (gwCheckPings env) := by
  unfold gwCheckPings gwCheckRouter
  infer_instance

instance : Routine probeTimer AnyWay (arpGwCheck env) := by
  unfold arpGwCheck
  infer_instance

instance : Routine probeTimer AnyWay (gwHwaddrPings env) := by
  unfold gwHwaddrPings gwHwaddrRouter
  infer_instance

instance : Routine probeTimer AnyWay (arpGetGwHwaddr env) := by
  unfold arpGetGwHwaddr
  infer_instance

instance : Routine probeTimer AnyWay (arpQueryGatewayTimeout env nowts) := by
  unfold arpQueryGatewayTimeout arpQueryGateway
  infer_instance

instance : Routine probeTimer AnyWay (arpGwQueryTimeout env nowts) := by
  unfold arpGwQueryTimeout
  infer_instance

instance : Routine probeTimer AnyWay (arpGwCheckTimeout env nowts) := by
  unfold arpGwCheckTimeout
  infer_instance

instance : Routine probeTimer AnyWay (ifupAction env) := by
  unfold ifupAction
  infer_instance

instance : Routine probeTimer AnyWay (ifchangeDeconfig env) := by
  unfold ifchangeDeconfig
  infer_instance

instance : Routine probeTimer AnyWay (arpAnnouncement env site) := by
  unfold arpAnnouncement
  infer_instance

instance : Routine probeTimer AnyWay (arpAnnounceTimeout env nowts) := by
  unfold arpAnnounceTimeout arpAnnounce
  infer_instance

instance : Routine probeTimer AnyWay (arpDefenseTimeout env) := by
  unfold arpDefenseTimeout
  infer_instance

instance : Routine probeTimer AnyWay (boundAnnounce env inp) := by
  unfold boundAnnounce
  infer_instance

instance : Routine probeTimer OnReturn (boundGwTimeout env inp) := by
  unfold boundGwTimeout
  infer_instance

instance : Routine probeTimer OnReturn (boundArpTimeout env inp) := by
  unfold boundArpTimeout
  infer_instance

instance : Routine probeTimer OnReturn (boundIfup env inp) := by
  unfold boundIfup
  infer_instance

end

/-! ## Ways out that are no success -/

/-- The pass is not left with COR_SUCCESS. -/
def Unsuccessful (e : Stop) (_ : Sys) : Prop := e ≠ .ret COR_SUCCESS

section
variable {α : Type} (env : Env) (cfg : ClientConfig) (inp : Input)

instance (priority := low) (m : M α) [h : Leaves Unreturned m] : Leaves Unsuccessful m where
  ends s hs := wp_mono _ _ s _ _ _ (h.ends s hs) (fun _ _ ht => ht) (fun _ _ he => he COR_SUCCESS)

instance (pc : Pc) : Leaves Unsuccessful (scrReturn COR_ERROR pc : M α) where
  ends s _ := by
    intro h
    cases h

instance : Leaves Unsuccessful (boundSignal env inp) := by
  unfold boundSignal
  infer_instance

instance : Leaves Unsuccessful (boundDefense env cfg) := by
  unfold boundDefense
  infer_instance

instance : Leaves Unsuccessful (boundGwQuery env cfg) := by
  unfold boundGwQuery
  infer_instance

instance : Leaves Unsuccessful (boundGwCheck env cfg) := by
  unfold boundGwCheck
  infer_instance

instance : Leaves Unsuccessful (boundArp env cfg inp) := by
  unfold boundArp
  infer_instance

instance : Leaves Unsuccessful (boundGwTimeout env inp) := by
  unfold boundGwTimeout
  infer_instance

instance : Leaves Unsuccessful (boundArpTimeout env inp) := by
  unfold boundArpTimeout
  infer_instance

instance : Leaves Unsuccessful (boundIfup env inp) := by
  unfold boundIfup
  infer_instance

instance : KeepsAlarms Alarms.Sound (toTimers env cfg inp) := by
  unfold toTimers toDefense
  infer_instance

instance : Leaves Unsuccessful (toTimers env cfg inp) := by
  unfold toTimers toDefense
  infer_instance

end

/-! ## A call -/

section
variable (env : Env) (cfg : ClientConfig) (inp : Input)

/-- No timer is due. -/
def NoneDue (nowts : Int) (s : Sys) : Prop := ∀ w ∈ s.garp.wakeTs.toList, w = -1 ∨ nowts < w

/-- The timers, once those of announcements, query and check were served. -/
theorem noneDue_iff (nowts : Int) (s : Sys) (hidle : AtRest nowts s.garp.wakeTs.none)
    (hannounce : AtRest nowts s.garp.wakeTs.announce) (hquery : AtRest nowts s.garp.wakeTs.queryGwSend)
    (hawaited : AtRest nowts s.garp.wakeTs.gwQuery) :
    NoneDue nowts s ↔ AtRest nowts s.garp.wakeTs.collisionCheck ∧ AtRest nowts s.garp.wakeTs.gwCheck ∧
      AtRest nowts s.garp.wakeTs.defense := by
  constructor
  · intro h
    exact ⟨h _ (by simp [WakeTs.toList]), h _ (by simp [WakeTs.toList]), h _ (by simp [WakeTs.toList])⟩
  · rintro ⟨hprobe, hcheck, hdefense⟩ w hw
    simp only [WakeTs.toList, List.mem_cons, List.not_mem_nil, or_false] at hw
    rcases hw with rfl | rfl | rfl | rfl | rfl | rfl | rfl
    · exact hidle
    · exact hannounce
    · exact hprobe
    · exact hquery
    · exact hcheck
    · exact hawaited
    · exact hdefense

theorem not_orphaned_iff (u : Sys) :
    ¬ Orphaned inp u ↔ AtRest inp.nowts u.garp.wakeTs.collisionCheck ∧
      (inp.forceFingerprint = true ∨ ¬ CheckOrphaned inp.nowts (alarms u)) ∧
      ((alarms u).SentBoth ∨ AtRest inp.nowts u.garp.wakeTs.defense) := by
  constructor
  · intro h
    refine ⟨by_contra fun hdue => h (.probe hdue), ?_, ?_⟩
    · by_cases hforce : inp.forceFingerprint = true
      · exact Or.inl hforce
      · exact Or.inr fun hc => h (.check (Bool.eq_false_iff.mpr hforce) hc)
    · by_cases hsent : (alarms u).SentBoth
      · exact Or.inl hsent
      · exact Or.inr (by_contra fun hdue => h (.defense hsent hdue))
  · rintro ⟨hprobe, hcheck, hdefense⟩ (hdue | ⟨hsent, hdue⟩ | ⟨hforce, hc⟩)
    · exact hdue hprobe
    · exact hdue (hdefense.resolve_left hsent)
    · rcases hcheck with hyes | hno
      · exact nomatch hforce.symm.trans hyes
      · exact hno hc

theorem wp_toTimers (Q : Unit → Sys → Prop) (E : Stop → Sys → Prop) (s : Sys) :
    wp (boundPass env cfg inp) Q E s ↔
      wp (toTimers env cfg inp)
        (fun _ t => wp (do boundArpTimeout env inp; boundIfup env inp; boundTimer env inp) Q E t) E s := by
  unfold boundPass toTimers toDefense
  simp only [wp_bind]

/-- If the pass is a success, then with `P`. -/
def Succeeding (P : Sys → Prop) (e : Stop) (t : Sys) : Prop := e = .ret COR_SUCCESS → P t

theorem wp_succeeding {α β : Type} (m : M β) (k : β → M α) [h : Leaves Unsuccessful m]
    (Q : α → Sys → Prop) (P : Sys → Prop) (R : Sys → Prop) (s : Sys)
    (hm : wp m (fun _ t => R t) (fun _ _ => True) s) (hk : ∀ b t, R t → wp (k b) Q (Succeeding P) t) :
    wp (m >>= k) Q (Succeeding P) s := by
  rw [wp_bind]
  apply wp_mono _ _ s _ _ _ (wp_and _ _ s _ _ _ hm (h.ends s trivial))
  · exact fun b t ht => hk b t ht.1
  · exact fun e t ht he => absurd he ht.2

variable (hclock : ∀ site, inp.nowts ≤ env.curms site) (htimeout : inp.arpTimeout = true)
include hclock htimeout

omit htimeout in
/-- What the timers have come to behind a carrier that may have returned. -/
theorem served_timers (u v : Sys) (b c : Alarms) (hs : (alarms u).Sound)
    (hannounce : AnnounceTimers env inp.nowts (alarms u) (alarms v)) (hgw : GwTimers env inp.nowts v .ok b)
    (hifup : (inp.forceFingerprint = false ∧ c = b) ∨ (inp.forceFingerprint = true ∧ StartsCheck b c ∧
      ∃ site, c.gwCheck = env.curms site + ARP_RETRANS_DELAY + 250)) :
    (c.idle = -1 ∧ AtRest inp.nowts c.announce ∧ AtRest inp.nowts c.queryGwSend ∧ AtRest inp.nowts c.gwQuery) ∧
      (AtRest inp.nowts c.gwCheck ↔ inp.forceFingerprint = true ∨ ¬ CheckOrphaned inp.nowts (alarms u)) ∧
      (AtRest inp.nowts c.defense ↔ (alarms u).SentBoth ∨ AtRest inp.nowts (alarms u).defense) := by
  obtain ⟨hrest, hdefense, hidle, horphan⟩ := hannounce.atRest env inp.nowts hclock _ _ hs
  have hv : (alarms v).Sound := hs.announceTimers env inp.nowts _ hannounce
  have hr := hgw.rested env inp.nowts hclock v b hv
  have hcheck := hr.check
  rw [horphan] at hcheck
  have hidle : b.idle = -1 := hr.idle.trans (hidle.trans hs.idle)
  have hrest : AtRest inp.nowts b.announce := hr.announce ▸ hrest
  have hdefense : AtRest inp.nowts b.defense ↔ _ := hr.defense ▸ hdefense
  rcases hifup with ⟨hforce, rfl⟩ | ⟨hforce, ⟨stats, router, timer, rfl, -⟩, site, hsite⟩
  · refine ⟨⟨hidle, hrest, hr.query, hr.awaited⟩, ?_, hdefense⟩
    rw [hcheck, hforce]
    simp
  · refine ⟨⟨hidle, hrest, hr.query, hr.awaited⟩, ?_, hdefense⟩
    rw [hsite, Int.add_assoc]
    exact iff_of_true (atRest_after env inp.nowts hclock site _ (by decide)) (Or.inl hforce)

theorem boundPass_served (s : Sys) (hs : (alarms s).Sound) :
    wp (boundPass env cfg inp) (fun _ _ => True)
      (Succeeding fun t => NoneDue inp.nowts t ↔ ¬ Orphaned inp (final (toTimers env cfg inp) s)) s := by
  rw [wp_toTimers]
  have hfirst := wp_and _ _ s _ _ _ (wp_final (toTimers env cfg inp) s) (wp_and _ _ s _ _ _
    (Upholds.ends (P := fun s => (alarms s).Sound) (E := Returning fun t => (alarms t).Sound)
      (m := toTimers env cfg inp) s hs)
    (Upholds.ends (P := fun _ => True) (E := Unsuccessful) (m := toTimers env cfg inp) s trivial))
  apply wp_mono _ _ s _ _ _ hfirst ?_ (fun e t ht he => absurd he ht.2.2)
  rintro _ u ⟨hu, hsound, -⟩
  rw [← hu]
  have htimers := wp_and _ _ u _ _ _ (boundArpTimeout_alarms env inp u htimeout)
    (Routine.ends (f := probeTimer) (X := OnReturn) (m := boundArpTimeout env inp) u)
  apply wp_succeeding _ _ _ _ (fun v => (∃ w, AnnounceTimers env inp.nowts (alarms u) (alarms w) ∧
      GwTimers env inp.nowts w .ok (alarms v)) ∧ probeTimer v = probeTimer u) u
  · exact wp_mono _ _ u _ _ _ htimers (fun _ _ h => h) (fun _ _ _ => trivial)
  rintro _ v ⟨⟨w, hannounce, hgw⟩, hprobe⟩
  have hifup := wp_and _ _ v _ _ _ (boundIfup_alarms env inp v)
    (Routine.ends (f := probeTimer) (X := OnReturn) (m := boundIfup env inp) v)
  apply wp_succeeding _ _ _ _ (fun t => ((inp.forceFingerprint = false ∧ alarms t = alarms v) ∨
      (inp.forceFingerprint = true ∧ StartsCheck (alarms v) (alarms t) ∧
        ∃ site, (alarms t).gwCheck = env.curms site + ARP_RETRANS_DELAY + 250)) ∧ probeTimer t = probeTimer v) v
  · exact wp_mono _ _ v _ _ _ hifup (fun _ _ h => h) (fun _ _ _ => trivial)
  rintro _ w' ⟨hforce, hprobe'⟩
  obtain ⟨⟨hidle, hrest, hquery, hawaited⟩, hcheck, hdefense⟩ :=
    served_timers env inp hclock u w (alarms v) (alarms w') hsound hannounce hgw hforce
  -- the lease timer leaves them alone
  apply wp_mono _ _ w' _ _ _ (wp_and _ _ w' _ _ _
    (Routine.ends (f := alarms) (X := OnReturn) (m := boundTimer env inp) w')
    (Routine.ends (f := probeTimer) (X := OnReturn) (m := boundTimer env inp) w')) (fun _ _ _ => trivial)
  rintro e t ⟨ha, hp⟩ he
  have ha : alarms t = alarms w' := ha _ he
  have hp : probeTimer t = probeTimer u := (hp _ he).trans (hprobe'.trans hprobe)
  rw [← ha] at hidle hrest hquery hawaited hcheck hdefense
  rw [noneDue_iff inp.nowts t (Or.inl hidle) hrest hquery hawaited, not_orphaned_iff, ← hcheck, ← hdefense]
  show AtRest inp.nowts (probeTimer t) ∧ _ ↔ _
  rw [hp]

end

/-- The client announces itself and learns who its gateway is, asks for renewal at half the lease,
and is acknowledged another address, which it probes. -/
def probedRun : List Step := boundRun ++ [
  .handle (envAt 6000) (timerInput 6000),
  .arp (envAt 7000) .zero (.data (gatewayReply [2, 0, 0, 0, 0, 1])),
  .handle (envAt 7000) { quietInput 7000 with sevArp := true },
  .handle (envAt 1800000) { quietInput 1800000 with dhcpTimeout := true },
  .handle (envAt 1800000) { quietInput 1800000 with
    sevDhcp := true, dhcpPacket := otherAck, dhcpMsgtype := DHCPACK, dhcpSrcaddr := 0xc0a80101 }]

end Ndhc
