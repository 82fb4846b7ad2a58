import Ndhc.Client.Alarms

/-!
# Which timers are armed

The stages of a pass of the BOUND loop, told by what they do to the timers of `alarms`: a rule for
ARP frames, the relation `GwTimers` for the timers, and what a returning carrier does.  They keep
`Sound`, which says which timers can be armed at all, so that it holds in every run
(`alarms_sound`).
-/

namespace Ndhc

open Prog

/-! ## The stages of a pass -/

theorem known_iff (s : Sys) : (alarms s).Known ↔ ¬ gwUnknown s.cs := by
  show (s.cs.gotRouterArp = true ∧ s.cs.gotServerArp = true) ↔ ¬ (_ ∨ _)
  rw [not_or, Bool.not_eq_false, Bool.not_eq_false]

/-- A check is going on, and there is a fingerprint to check against. -/
def Alarms.Checks (a : Alarms) : Prop := a.sentGwQuery = true ∧ a.Known ∧ a.checkFingerprint = true

instance (a : Alarms) : Decidable a.Checks := inferInstanceAs (Decidable (_ ∧ _ ∧ _))

/-- Both parties have replied to a check. -/
def Alarms.Replied (a : Alarms) : Prop := a.routerReplied = true ∧ a.serverReplied = true

instance (a : Alarms) : Decidable a.Replied := inferInstanceAs (Decidable (_ ∧ _))

section
variable {α : Type} (I : Alarms → Prop)

/-- The alarms have `I`, unless the pass leaves the phase. -/
abbrev KeepsAlarms (m : M α) : Prop :=
  Upholds (fun s => I (alarms s)) (Returning fun t => I (alarms t)) m

instance (priority := low) (m : M α) [h : Routine alarms OnReturn m] : KeepsAlarms I m where
  ends s hs := by
    apply wp_mono _ _ s _ _ _ (h.ends s)
    · intro _ t ht
      rw [ht]
      exact hs
    · intro e t ht code he
      rw [ht code he]
      exact hs

/-- A subroutine is called that does not end the call by `scrReturn`. -/
theorem wp_returning_sub {β : Type} (m : M β) (k : β → M α) [Routine core Dies m] (Q : α → Sys → Prop)
    (P : Sys → Prop) (R : β → Sys → Prop) (s : Sys) (hm : wp m R (fun _ _ => True) s)
    (hk : ∀ b t, R b t → wp (k b) Q (Returning P) t) : wp (m >>= k) Q (Returning P) s := by
  apply wp_sub_of _ _ s _ _ ?_ (fun _ _ => Stop.exit_ret_elim)
  exact wp_mono _ _ s _ _ _ hm hk (fun _ _ h => h)

theorem wp_returning_restart (env : Env) (timeout : Int) (Q : α → Sys → Prop) (P : Sys → Prop) (s : Sys) :
    wp (restart env timeout : M α) Q (Returning P) s :=
  wp_restart _ _ s env timeout (fun _ _ => Stop.goto_ret_elim) (fun _ _ => Stop.exit_ret_elim)

end

/-! ### Ways out -/

/-- The pass is not left by `scrReturn`. -/
def Unreturned (e : Stop) (_ : Sys) : Prop := ∀ code, e ≠ .ret code

section
variable {α : Type} (env : Env) (cfg : ClientConfig) (inp : Input)

instance (priority := low) (m : M α) [h : Routine core Dies m] : Leaves Unreturned m where
  ends s _ := by
    apply wp_mono _ _ s _ _ _ (h.ends s) (fun _ _ _ => trivial)
    rintro e t ⟨rfl, -⟩ code hcode
    cases hcode

instance (l : Label) : Leaves Unreturned (goto l : M α) where
  ends s _ := by
    intro code hcode
    cases hcode

instance (timeout : Int) : Leaves Unreturned (restart env timeout : M α) := by
  unfold restart
  infer_instance

instance : Leaves Unreturned (gwLost env) := by
  unfold gwLost
  infer_instance

instance (e : Effect) : Leaves Unreturned (emit e) := ⟨fun _ _ => trivial⟩

instance : Leaves Unreturned (ifchangeDeconfig env) := by
  unfold ifchangeDeconfig
  infer_instance

set_option synthInstance.maxSize 256 in
instance (packet : DhcpMsg) : Leaves Unreturned (arpCheck env cfg packet) := by
  unfold arpCheck
  infer_instance

instance (packet : DhcpMsg) (msgtype : UInt8) : Leaves Unreturned (extendPacket env packet msgtype) := by
  unfold extendPacket getLeasetime
  infer_instance

instance : Leaves Unreturned (boundDhcp env cfg inp) := by
  unfold boundDhcp
  infer_instance

end

section
variable (env : Env) (cfg : ClientConfig) (inp : Input) (I : Alarms → Prop) (s : Sys)

/-! ### Frames -/

theorem boundDefense_rule (hs : I (alarms s))
    (hdefend : (peers s).Conflicting cfg → ∀ b, Defends (alarms s) b → I b) :
    wp (boundDefense env cfg) (fun _ t => I (alarms t)) (Returning fun t => I (alarms t)) s := by
  unfold boundDefense
  apply wp_returning_sub _ _ _ _ (fun _ t => I (alarms t)) s
  · apply wp_mono _ _ s _ _ _ (arpDoDefense_alarms env cfg s) ?_ (fun _ _ h => h)
    rintro r t (⟨-, -, rfl⟩ | ⟨hconf, ht⟩)
    · exact hs
    · exact hdefend hconf _ ht
  · intro r t ht
    cases r with
    | ok => exact ht
    | free => exact fun _ => Stop.exit_ret_elim _
    | conflict => exact wp_returning_restart env 0 _ _ t
    | fail => exact fun _ _ => ht

theorem boundGwQuery_rule (hlearn : ∀ b, Learns (alarms s) b → I b) :
    wp (boundGwQuery env cfg) (fun _ t => I (alarms t)) (Returning fun t => I (alarms t)) s := by
  unfold boundGwQuery
  apply wp_returning_sub _ _ _ _ _ s (arpDoGwQuery_alarms env cfg s)
  intro r t ht
  cases r with
  | ok => exact hlearn _ ht
  | free => exact hlearn _ ht
  | conflict => exact fun _ => Stop.exit_ret_elim _
  | fail => exact fun _ _ => hlearn _ ht

theorem boundGwCheck_rule
    (hhear : ∀ b, Hears (alarms s) b → I b ∧ I { b with checkFingerprint := false }) :
    wp (boundGwCheck env cfg) (fun _ t => I (alarms t)) (Returning fun t => I (alarms t)) s := by
  unfold boundGwCheck gwLost
  apply wp_returning_sub _ _ _ _ _ s (arpDoGwCheck_alarms env cfg s)
  intro r t ht
  cases r with
  | ok => exact (hhear _ ht).1
  | free => exact (hhear _ ht).2
  | conflict => exact wp_returning_restart env 0 _ _ _
  | fail => exact fun _ _ => (hhear _ ht).1

/-- What a pass does with an ARP frame. -/
theorem boundArp_rule (hs : I (alarms s))
    (hdefend : (peers s).Conflicting cfg → ∀ b, Defends (alarms s) b → I b)
    (hlearn : ∀ a b, I a → ¬ a.Known → Learns a b → I b)
    (hhear : ∀ a b, I a → a.checkFingerprint = true → Hears a b →
      I b ∧ I { b with checkFingerprint := false }) :
    wp (boundArp env cfg inp) (fun _ t => I (alarms t)) (Returning fun t => I (alarms t)) s := by
  unfold boundArp
  rw [wp_ite]
  split
  · rw [wp_bind]
    apply wp_mono _ _ s _ _ _ (boundDefense_rule env cfg I s hs hdefend) ?_ (fun _ _ h => h)
    intro _ t ht
    rw [wp_bind, wp_get, wp_ite]
    split
    · next hunknown =>
      exact boundGwQuery_rule env cfg I t fun b =>
        hlearn _ b ht fun h => (known_iff t).mp h hunknown
    · rw [wp_ite]
      split
      · next hcheck => exact boundGwCheck_rule env cfg I t fun b => hhear _ b ht hcheck
      · exact ht
  · exact hs

/-! ### The ARP timers -/

/-- What becomes of query and check, and whether a ping fails. -/
inductive GwTimers (nowts : Int) (s : Sys) : Arpr → Alarms → Prop
  | query (hsent : s.cs.sentGwQuery = false) (b : Alarms)
      (hb : WhenDue nowts Alarms.queryGwSend (Queries env (alarms s)) (alarms s) b) : GwTimers nowts s .ok b
  | repeatQuery (hsent : s.cs.sentGwQuery = true) (hunknown : gwUnknown s.cs) (r : Arpr) (b : Alarms)
      (hb : QueryRepeats env nowts s r b) : GwTimers nowts s r b
  | repeatCheck (hsent : s.cs.sentGwQuery = true) (hknown : ¬ gwUnknown s.cs)
      (hcheck : s.cs.checkFingerprint = true) (r : Arpr) (b : Alarms) (hb : CheckRepeats env nowts s r b) :
    GwTimers nowts s r b
  | rest (hsent : s.cs.sentGwQuery = true) (hknown : ¬ gwUnknown s.cs)
      (hcheck : s.cs.checkFingerprint = false) : GwTimers nowts s .ok (alarms s)

theorem boundGwTimeout_alarms :
    wp (boundGwTimeout env inp) (fun _ t => GwTimers env inp.nowts s .ok (alarms t))
      (Returning fun t => GwTimers env inp.nowts s .fail (alarms t)) s := by
  apply wp_boundGwTimeout
  · intro hsent
    exact wp_returning_sub _ _ _ _ _ s (arpQueryGatewayTimeout_alarms env inp.nowts s)
      (fun _ _ ht => .query hsent _ ht)
  · intro hsent hunknown
    apply wp_returning_sub _ _ _ _ _ s (arpGwQueryTimeout_alarms env inp.nowts s)
    intro r t ht
    cases r with
    | ok => exact .repeatQuery hsent hunknown _ _ ht
    | free => exact fun _ => Stop.exit_ret_elim _
    | conflict => exact fun _ => Stop.exit_ret_elim _
    | fail => exact fun _ _ => .repeatQuery hsent hunknown _ _ ht
  · intro hsent hknown hcheck
    unfold gwLost
    apply wp_returning_sub _ _ _ _ _ s (arpGwCheckTimeout_alarms env inp.nowts s)
    intro r t ht
    cases r with
    | ok => exact .repeatCheck hsent hknown hcheck _ _ ht
    | free => exact fun _ => Stop.exit_ret_elim _
    | conflict => exact wp_returning_restart env 0 _ _ _
    | fail => exact fun _ _ => .repeatCheck hsent hknown hcheck _ _ ht
  · exact fun hsent hknown hcheck => .rest hsent hknown hcheck

/-- What a pass does with its ARP timers. -/
theorem boundArpTimeout_alarms (htimeout : inp.arpTimeout = true) :
    wp (boundArpTimeout env inp)
      (fun _ t => ∃ u, AnnounceTimers env inp.nowts (alarms s) (alarms u) ∧
        GwTimers env inp.nowts u .ok (alarms t))
      (Returning fun t => ∃ u, AnnounceTimers env inp.nowts (alarms s) (alarms u) ∧
        GwTimers env inp.nowts u .fail (alarms t)) s := by
  unfold boundArpTimeout
  rw [wp_ite, if_pos htimeout]
  apply wp_returning_sub _ _ _ _ _ s (boundAnnounce_alarms env inp s)
  intro _ u hu
  exact wp_mono _ _ u _ _ _ (boundGwTimeout_alarms env inp u) (fun _ _ h => ⟨u, hu, h⟩)
    (fun _ _ h code he => ⟨u, hu, h code he⟩)

/-! ### A carrier that returns -/

/-- How `ifup_action` returns. -/
def IfupReturns : Ifup → Sys → Prop
  | .revalidate, t => StartsCheck (alarms s) (alarms t) ∧
      ∃ site, (alarms t).gwCheck = env.curms site + ARP_RETRANS_DELAY + 250
  | .newlease, t => t = s
  | .fail, t => alarms t = alarms s ∨ StartsCheck (alarms s) (alarms t)

theorem ifupAction_alarms : wp (ifupAction env) (IfupReturns env s) (fun _ _ => True) s := by
  unfold ifupAction
  rw [wp_bind, wp_get, wp_ite]
  split
  · rw [wp_ite]
    split
    · trivial
    · rw [wp_bind]
      apply wp_mono _ _ s _ _ _ (arpGwCheck_alarms env s) ?_ (fun _ _ h => h)
      intro r t ht
      rw [wp_ite]
      split
      · next hr =>
        rcases ht with ⟨hneg, -⟩ | ⟨hstart, hsite⟩
        · exact absurd hneg (Int.not_lt.mpr hr)
        · exact ⟨hstart, hsite (Int.not_lt.mpr hr)⟩
      · exact ht.imp And.right And.left
  · rfl

theorem boundIfup_alarms :
    wp (boundIfup env inp)
      (fun _ t => (inp.forceFingerprint = false ∧ alarms t = alarms s) ∨
        (inp.forceFingerprint = true ∧ StartsCheck (alarms s) (alarms t) ∧
          ∃ site, (alarms t).gwCheck = env.curms site + ARP_RETRANS_DELAY + 250))
      (Returning fun t => alarms t = alarms s ∨
        (inp.forceFingerprint = true ∧ StartsCheck (alarms s) (alarms t))) s := by
  unfold boundIfup
  rw [wp_ite]
  split
  · next hforce =>
    apply wp_returning_sub _ _ _ _ _ s (ifupAction_alarms env s)
    intro r t ht
    cases r with
    | revalidate => exact Or.inr ⟨hforce, ht⟩
    | newlease =>
      have ht : t = s := ht
      subst ht
      apply wp_call alarms OnReturn
      · intro r u hu
        rw [wp_ite]
        split
        · exact fun _ _ => Or.inl hu
        · exact wp_returning_restart env 0 _ _ u
      · exact fun _ _ h code he => Or.inl (h code he)
    | fail => exact fun _ _ => ht.imp_right fun h => ⟨hforce, h⟩
  · next hforce => exact Or.inl ⟨Bool.eq_false_iff.mpr hforce, rfl⟩

end

/-! ## Which timers can be armed -/

namespace Alarms

/-- Timers are armed only for what is outstanding, and a check counts the pings since it began. -/
structure Sound (a : Alarms) : Prop where
  idle : a.idle = -1
  announce : a.SentBoth → a.announce = -1
  query : a.sentGwQuery = true → a.queryGwSend = -1
  awaited : a.gwQuery ≠ -1 → a.sentGwQuery = true ∧ ¬ a.Known
  pings : a.gwCheckInitpings ≤ a.gwPingStats.count

variable (env : Env) (nowts : Int) (a b : Alarms)

theorem sound_noAlarms : noAlarms.Sound where
  idle := rfl
  announce := nofun
  query := nofun
  awaited h := absurd rfl h
  pings := Int.le_refl 0

/-- Pings change nothing but the stats. -/
theorem pingUnless_eq (replied : Bool) (ts : Int) :
    ∃ stats, a.pingUnless replied ts = { a with gwPingStats := stats } ∧
      a.gwPingStats.count ≤ stats.count := by
  unfold pingUnless ping
  split
  · exact ⟨_, rfl, Int.le_refl _⟩
  · exact ⟨_, rfl, Int.le_add_one (Int.le_refl _)⟩

theorem pingBoth_eq (replied₁ replied₂ : Bool) (ts₁ ts₂ : Int) :
    ∃ stats, (a.pingUnless replied₁ ts₁).pingUnless replied₂ ts₂ = { a with gwPingStats := stats } ∧
      a.gwPingStats.count ≤ stats.count := by
  obtain ⟨stats, heq, hcount⟩ := a.pingUnless_eq replied₁ ts₁
  obtain ⟨stats', heq', hcount'⟩ := ({ a with gwPingStats := stats } : Alarms).pingUnless_eq replied₂ ts₂
  exact ⟨stats', heq ▸ heq', hcount.trans hcount'⟩

/-- Unless both have answered, a ping goes out. -/
theorem pingBoth_sent (replied₁ replied₂ : Bool) (ts₁ ts₂ : Int) (h : ¬ (replied₁ = true ∧ replied₂ = true)) :
    ∃ stats, (a.pingUnless replied₁ ts₁).pingUnless replied₂ ts₂ = { a with gwPingStats := stats } ∧
      a.gwPingStats.count + 1 ≤ stats.count ∧ (stats.ts = ts₁ ∨ stats.ts = ts₂) := by
  cases replied₁ with
  | false =>
    cases replied₂ with
    | false => exact ⟨_, rfl, Int.le_add_one (Int.le_refl _), Or.inr rfl⟩
    | true => exact ⟨_, rfl, Int.le_refl _, Or.inl rfl⟩
  | true =>
    cases replied₂ with
    | false => exact ⟨_, rfl, Int.le_refl _, Or.inr rfl⟩
    | true => exact absurd ⟨rfl, rfl⟩ h

section
variable {a} (h : a.Sound)
include h

/-- More pings do no harm. -/
theorem Sound.pinged (stats : ArpStats) (hcount : a.gwPingStats.count ≤ stats.count) :
    Sound { a with gwPingStats := stats } :=
  ⟨h.idle, h.announce, h.query, h.awaited, h.pings.trans hcount⟩

theorem Sound.defends (hb : Defends a b) : b.Sound := by
  obtain ⟨timer, stats, rfl⟩ := hb
  exact ⟨h.idle, h.announce, h.query, h.awaited, h.pings⟩

theorem Sound.learns (hunknown : ¬ a.Known) (hb : Learns a b) : b.Sound := by
  obtain ⟨router, server, timer, rfl, htimer⟩ := hb
  refine ⟨h.idle, h.announce, h.query, fun harmed => ?_, h.pings⟩
  rcases htimer with hoff | ⟨hkept, hknown⟩
  · exact absurd hoff harmed
  · have harmed : a.gwQuery ≠ -1 := hkept ▸ harmed
    exact ⟨(h.awaited harmed).1, fun hb => hunknown (hknown hb)⟩

theorem Sound.hears (hb : Hears a b) : b.Sound ∧ { b with checkFingerprint := false }.Sound := by
  obtain ⟨router, server, timer, stats, rfl⟩ := hb
  exact ⟨⟨h.idle, h.announce, h.query, h.awaited, h.pings⟩,
    ⟨h.idle, h.announce, h.query, h.awaited, h.pings⟩⟩

theorem Sound.startsCheck (hb : StartsCheck a b) : b.Sound := by
  obtain ⟨stats, router, timer, rfl, hcount⟩ := hb
  exact ⟨h.idle, h.announce, h.query, h.awaited, hcount⟩

theorem Sound.standsDown (hb : StandsDown a b) : b.Sound := by
  obtain ⟨stats, rfl, -⟩ := hb
  exact ⟨h.idle, h.announce, h.query, h.awaited, h.pings⟩

theorem Sound.announced (hb : Announced env a b) : b.Sound := by
  cases hb with
  | both => exact ⟨h.idle, fun _ => rfl, h.query, h.awaited, h.pings⟩
  | fails hnot => exact ⟨h.idle, fun hboth => absurd hboth hnot, h.query, h.awaited, h.pings⟩
  | first => exact ⟨h.idle, nofun, h.query, h.awaited, h.pings⟩
  | second => exact ⟨h.idle, fun _ => rfl, h.query, h.awaited, h.pings⟩

theorem Sound.queries (hb : Queries env a b) : b.Sound := by
  cases hb with
  | sent => exact ⟨h.idle, h.announce, fun _ => rfl, h.awaited, h.pings⟩
  | fails hsent b hb =>
    have hoff : a.gwQuery = -1 := by
      by_contra harmed
      exact nomatch hsent.symm.trans (h.awaited harmed).1
    have hnot : ∀ {P : Prop}, a.sentGwQuery = true → P := fun hyes => nomatch hsent.symm.trans hyes
    cases hb with
    | unopened => exact ⟨h.idle, h.announce, hnot, h.awaited, h.pings⟩
    | server => exact ⟨h.idle, h.announce, hnot, fun harmed => absurd hoff harmed, h.pings⟩
    | router =>
      exact ⟨h.idle, h.announce, hnot, fun harmed => absurd hoff harmed, Int.le_add_one h.pings⟩
  | asks hsent b hb =>
    cases hb with
    | server => exact ⟨h.idle, h.announce, fun _ => rfl, fun _ => ⟨rfl, nofun⟩, Int.le_add_one h.pings⟩
    | both =>
      exact ⟨h.idle, h.announce, fun _ => rfl, fun _ => ⟨rfl, nofun⟩, Int.le_add_one (Int.le_add_one h.pings)⟩

theorem Sound.announceTimers (hb : AnnounceTimers env nowts a b) : b.Sound := by
  rcases hb with ⟨-, hb⟩ | ⟨-, ⟨rfl, -⟩ | ⟨-, -, hb⟩⟩
  · exact h.standsDown b hb
  · exact h
  · exact h.announced env b hb

end

/-- The timer of a query follows the last ping, while replies are awaited. -/
theorem Sound.awaitQuery (h : a.Sound) (hsent : a.sentGwQuery = true) (hunknown : ¬ a.Known) :
    a.awaitQuery.Sound := ⟨h.idle, h.announce, h.query, fun _ => ⟨hsent, hunknown⟩, h.pings⟩

theorem Sound.awaitCheck (h : a.Sound) : a.awaitCheck.Sound :=
  ⟨h.idle, h.announce, h.query, h.awaited, h.pings⟩

end Alarms

section
variable (env : Env) (nowts : Int) (s : Sys)

/-- Repeated pings change nothing but the stats and what `put` sets. -/
theorem Repeats.eq (replied₁ replied₂ : Bool) (site₁ site₂ : Site) (put : Alarms → Alarms) (r : Arpr)
    (b : Alarms) (hb : Repeats env s replied₁ replied₂ site₁ site₂ put r b) :
    ∃ stats, s.garp.gwPingStats.count ≤ stats.count ∧
      (b = { alarms s with gwPingStats := stats } ∨ b = put { alarms s with gwPingStats := stats }) := by
  cases hb with
  | unsent => exact ⟨_, Int.le_refl _, Or.inl rfl⟩
  | half =>
    obtain ⟨stats, heq, hcount⟩ := (alarms s).pingUnless_eq replied₁ (env.curms site₁)
    exact ⟨stats, hcount, Or.inl heq⟩
  | sent =>
    obtain ⟨stats, heq, hcount⟩ := (alarms s).pingBoth_eq replied₁ replied₂ (env.curms site₁) (env.curms site₂)
    exact ⟨stats, hcount, Or.inr (congrArg put heq)⟩

/-! The announcements are not touched by query and check. -/

theorem Queries.eq (a b : Alarms) (hb : Queries env a b) :
    ∃ queryGwSend gwCheck gwQuery stats sent router server, b = { a with
      queryGwSend := queryGwSend, gwCheck := gwCheck, gwQuery := gwQuery, gwPingStats := stats
      sentGwQuery := sent, gotRouterArp := router, gotServerArp := server } := by
  cases hb with
  | sent => exact ⟨_, _, _, _, _, _, _, rfl⟩
  | fails _ _ hc => cases hc <;> exact ⟨_, _, _, _, _, _, _, rfl⟩
  | asks _ _ hc => cases hc <;> exact ⟨_, _, _, _, _, _, _, rfl⟩

theorem GwTimers.eq (r : Arpr) (b : Alarms) (hb : GwTimers env nowts s r b) :
    ∃ queryGwSend gwCheck gwQuery stats sent router server, b = { alarms s with
      queryGwSend := queryGwSend, gwCheck := gwCheck, gwQuery := gwQuery, gwPingStats := stats
      sentGwQuery := sent, gotRouterArp := router, gotServerArp := server } := by
  cases hb with
  | query _ _ hb =>
    rcases hb with ⟨rfl, -⟩ | ⟨-, -, hb⟩
    · exact ⟨_, _, _, _, _, _, _, rfl⟩
    · exact hb.eq env _ b
  | repeatQuery _ _ _ _ hb =>
    cases hb with
    | early => exact ⟨_, _, _, _, _, _, _, rfl⟩
    | due _ _ _ hb =>
      obtain ⟨stats, -, rfl | rfl⟩ := hb.eq
      · exact ⟨_, _, _, _, _, _, _, rfl⟩
      · exact ⟨_, _, _, _, _, _, _, rfl⟩
  | repeatCheck _ _ _ _ _ hb =>
    cases hb with
    | unanswered => exact ⟨_, _, _, _, _, _, _, rfl⟩
    | early => exact ⟨_, _, _, _, _, _, _, rfl⟩
    | due _ _ _ _ hb =>
      obtain ⟨stats, -, rfl | rfl⟩ := hb.eq
      · exact ⟨_, _, _, _, _, _, _, rfl⟩
      · exact ⟨_, _, _, _, _, _, _, rfl⟩
  | rest => exact ⟨_, _, _, _, _, _, _, rfl⟩

variable (h : (alarms s).Sound)
include h

theorem repeats_sound (replied₁ replied₂ : Bool) (site₁ site₂ : Site) (put : Alarms → Alarms) (r : Arpr)
    (b : Alarms) (hb : Repeats env s replied₁ replied₂ site₁ site₂ put r b)
    (hput : ∀ stats, Alarms.Sound { alarms s with gwPingStats := stats } →
      (put { alarms s with gwPingStats := stats }).Sound) : b.Sound := by
  obtain ⟨stats, hcount, rfl | rfl⟩ := hb.eq
  · exact h.pinged stats hcount
  · exact hput stats (h.pinged stats hcount)

theorem gwTimers_sound (r : Arpr) (b : Alarms) (hb : GwTimers env nowts s r b) : b.Sound := by
  cases hb with
  | query _ _ hb =>
    rcases hb with ⟨rfl, -⟩ | ⟨-, -, hb⟩
    · exact h
    · exact h.queries env b hb
  | repeatQuery hsent hunknown _ _ hb =>
    have hunknown : ¬ (alarms s).Known := fun hk => (known_iff s).mp hk hunknown
    cases hb with
    | early => exact h.awaitQuery _ hsent hunknown
    | due _ _ _ hb =>
      exact repeats_sound env s h _ _ _ _ _ _ _ hb fun stats hs => hs.awaitQuery _ hsent hunknown
  | repeatCheck _ _ _ _ _ hb =>
    cases hb with
    | unanswered => exact ⟨h.idle, h.announce, h.query, h.awaited, h.pings⟩
    | early => exact h.awaitCheck
    | due _ _ _ _ hb => exact repeats_sound env s h _ _ _ _ _ _ _ hb fun stats hs => hs.awaitCheck
  | rest => exact h

end

section
variable (env : Env) (cfg : ClientConfig) (inp : Input)

instance : KeepsAlarms Alarms.Sound (boundArp env cfg inp) where
  ends s hs := boundArp_rule env cfg inp Alarms.Sound s hs (fun _ b => hs.defends b)
    (fun _ b ha => ha.learns b) (fun _ b ha _ => ha.hears b)

instance : KeepsAlarms Alarms.Sound (boundArpTimeout env inp) where
  ends s hs := by
    by_cases htimeout : inp.arpTimeout = true
    · have hmoved : ∀ r t, (∃ u, AnnounceTimers env inp.nowts (alarms s) (alarms u) ∧
          GwTimers env inp.nowts u r (alarms t)) → (alarms t).Sound := by
        rintro r t ⟨u, hu, ht⟩
        exact gwTimers_sound env inp.nowts u (hs.announceTimers env inp.nowts _ hu) r _ ht
      exact wp_mono _ _ s _ _ _ (boundArpTimeout_alarms env inp s htimeout) (fun _ t => hmoved .ok t)
        (fun _ t ht code he => hmoved .fail t (ht code he))
    · unfold boundArpTimeout
      rw [wp_ite, if_neg htimeout]
      exact hs

instance : KeepsAlarms Alarms.Sound (boundIfup env inp) where
  ends s hs := by
    apply wp_mono _ _ s _ _ _ (boundIfup_alarms env inp s)
    · rintro _ t (⟨-, ht⟩ | ⟨-, ht, -⟩)
      · rw [ht]
        exact hs
      · exact hs.startsCheck _ ht
    · intro e t ht code he
      rcases ht code he with ht | ⟨-, ht⟩
      · rw [ht]
        exact hs
      · exact hs.startsCheck _ ht

set_option synthInstance.maxSize 256 in
instance : KeepsAlarms Alarms.Sound (boundPass env cfg inp) := by
  unfold boundPass
  infer_instance

/-! ### Runs -/

/-- The process is at an end, or the alarms are sound. -/
def SoundAlive (s : Sys) : Prop := s.pc ≠ .dead → (alarms s).Sound

theorem bindTail_alarms (I : Sys → Prop) (hdead : ∀ t, t.pc = .dead → I t) (u : Sys) (hu : alarms u = noAlarms)
    (hI : ∀ a b t, Queries env noAlarms a → Announced env a b → t.pc = .bound → alarms t = b → I t) :
    wp (bindTail env) (fun _ _ => False) (EndsReset id I) u := by
  apply wp_bindTail_reset env id I hdead u
  apply wp_mono _ _ u _ _ _ (arpQueryGateway_alarms env u) ?_ (fun _ _ h => h)
  intro _ v hv
  apply wp_mono _ _ v _ _ _ (arpAnnounce_alarms env v) ?_ (fun _ _ h => h)
  intro _ w hw
  rw [hu] at hv
  exact hI _ _ _ hv hw rfl rfl

theorem dhcpHandle_sound (s : Sys) (hout : ResetOutside id s) (hs : SoundAlive s) :
    SoundAlive (final (dhcpHandle env cfg inp) s) := by
  have hdead : ∀ t, t.pc = .dead → SoundAlive t := fun _ h hlive => absurd h hlive
  apply dhcpHandle_reset_rule env cfg inp id SoundAlive ?_ s hout hdead
  · intro u hu
    apply bindTail_alarms env SoundAlive hdead u hu
    intro a b t ha hb _ ht _
    rw [ht]
    exact (Alarms.sound_noAlarms.queries env a ha).announced env b hb
  · intro hpc
    have hsound : (alarms s).Sound := hs fun h => nomatch hpc.symm.trans h
    exact wp_mono _ _ _ _ _ _ (Upholds.ends (P := fun s => (alarms s).Sound)
      (E := Returning fun t => (alarms t).Sound) (m := boundPass env cfg inp) { s with out := [] } hsound)
      (fun _ _ _ => trivial) (fun e t h code he _ => h code he)
  · intro t ht _
    have ht : alarms t = noAlarms := ht
    rw [ht]
    exact Alarms.sound_noAlarms

end

section
variable (cfg : ClientConfig)

instance (env : Env) (stale : ArpMsg) (rd : ReadResult) :
    Routine alarms AnyWay (arpPacketGet env cfg stale rd) := by
  cases rd with
  | again => exact inferInstanceAs (Routine alarms AnyWay (pure false))
  | error =>
    unfold arpPacketGet
    infer_instance
  | data frame =>
    unfold arpPacketGet
    infer_instance

instance (env : Env) (ck : NetChecksum) (rd : ReadResult) (buf : DhcpMsg) :
    Routine alarms AnyWay (dhcpPacketGet env cfg ck rd buf) := by
  unfold dhcpPacketGet
  infer_instance

/-- A step that only reads leaves the alarms alone. -/
theorem Step.alarms_of_read (st : Step) (s : Sys) (h : ∀ env inp, st ≠ .handle env inp)
    (hlive : (st.next cfg s).pc ≠ .dead) : alarms (st.next cfg s) = alarms s := by
  cases st with
  | idle => rfl
  | exit => rfl
  | arp env stale rd => exact final_stays alarms (arpPacketGet env cfg stale rd) { s with out := [] } hlive
  | dhcp env ck rd buf => exact final_stays alarms (dhcpPacketGet env cfg ck rd buf) { s with out := [] } hlive
  | handle env inp => exact absurd rfl (h env inp)

theorem Step.sound (st : Step) (s : Sys) (hout : ResetOutside id s) (hs : SoundAlive s) :
    SoundAlive (st.next cfg s) := by
  rcases st.read_or_call with hread | ⟨env, inp, rfl⟩
  · intro hlive
    rw [st.alarms_of_read cfg s hread hlive]
    exact hs (st.alive_of_read cfg s hread hlive)
  · exact dhcpHandle_sound env cfg inp s hout hs

/-- **In every run the timers are armed only for what is outstanding.** -/
theorem alarms_sound (b : Startup) (steps : List Step) : SoundAlive (run cfg steps (.start b)) := by
  have hrun : ∀ s, ResetOutside id s → SoundAlive s → SoundAlive (run cfg steps s) := by
    induction steps with
    | nil => exact fun _ _ hs => hs
    | cons st steps ih => exact fun s hout hs => ih _ (st.resetOutside cfg id s hout) (st.sound cfg s hout hs)
  exact hrun _ (Or.inl rfl) fun _ => Alarms.sound_noAlarms

end

end Ndhc
