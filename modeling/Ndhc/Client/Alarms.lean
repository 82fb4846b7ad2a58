import Ndhc.Client.Revalidation

/-!
# The ARP timers of a lease

What each function of arp.c that the BOUND loop calls does to the timers, to the pings and
announcements that are counted, and to what is asked for and awaited: the view `alarms`.  One
relation for each function (`AskSent`, `Queries`, `Announced`, …) lists its outcomes, also those of
a send that fails halfway.
-/

namespace Ndhc

open Prog

namespace Alarms

variable (a : Alarms)

/-- A ping goes out at `ts`. -/
def ping (ts : Int) : Alarms := { a with gwPingStats := ⟨ts, a.gwPingStats.count + 1⟩ }

/-- An announcement goes out at `ts`. -/
def announcement (ts : Int) : Alarms := { a with announceStats := ⟨ts, a.announceStats.count + 1⟩ }

/-- A ping goes out to a party that has not answered. -/
def pingUnless (replied : Bool) (ts : Int) : Alarms := if replied then a else a.ping ts

/-- Both hardware addresses are known. -/
def Known : Prop := a.gotRouterArp = true ∧ a.gotServerArp = true

instance : Decidable a.Known := inferInstanceAs (Decidable (_ ∧ _))

def SentBoth : Prop := a.sentFirstAnnounce = true ∧ a.sentSecondAnnounce = true

instance : Decidable a.SentBoth := inferInstanceAs (Decidable (_ ∧ _))

end Alarms

/-! ## Frames -/

section
variable (env : Env) (site : Site)

/-- A frame was sent, and the alarms are `b`, or it was not and they are as in `s`. -/
def Sends (s : Sys) (b : Alarms) (r : Int) (t : Sys) : Prop :=
  t.cs.arpFd = s.cs.arpFd ∧
    ((r < 0 ∧ FrameFails env site s ∧ alarms t = alarms s) ∨
      (¬ r < 0 ∧ ¬ FrameFails env site s ∧ alarms t = b))

theorem arpSend_returns (sip dip : UInt32) (s : Sys) :
    wp (arpSend env site sip dip) (Sends env site s (alarms s)) (fun _ _ => True) s := by
  unfold arpSend
  rw [wp_bind, wp_get, wp_ite]
  split
  · next hfd => exact ⟨rfl, Or.inl ⟨by decide, Or.inl hfd, rfl⟩⟩
  · next hfd =>
    rw [wp_bind]
    cases hsend : env.send site with
    | none => trivial
    | some r =>
      show wp (if r < 0 then pure r else _) _ _ s
      rw [wp_ite]
      split
      · next hr => exact ⟨rfl, Or.inl ⟨hr, Or.inr ⟨r, hsend, hr⟩, rfl⟩⟩
      · next hr =>
        refine ⟨rfl, Or.inr ⟨?_, ?_, rfl⟩⟩
        · split
          · decide
          · exact hr
        · rintro (h | ⟨r', hr', hneg⟩)
          · exact hfd h
          · cases hsend.symm.trans hr'
            exact hr hneg

/-- A frame goes out, then it is counted. -/
theorem wp_arpSend_count (sip dip : UInt32) (g : Sys → Sys) (b : Alarms) (s : Sys)
    (hfd : ∀ t, (g t).cs.arpFd = t.cs.arpFd) (hg : ∀ t, alarms t = alarms s → alarms (g t) = b) :
    wp (arpSend env site sip dip >>= fun r => if r < 0 then pure r else modify g >>= fun _ => pure 0)
      (Sends env site s b) (fun _ _ => True) s := by
  rw [wp_bind]
  apply wp_mono _ _ s _ _ _ (arpSend_returns env site sip dip s) ?_ (fun _ _ h => h)
  rintro r t ⟨ht, ⟨hr, hfail, ha⟩ | ⟨hr, hfail, ha⟩⟩
  · rw [wp_ite, if_pos hr]
    exact ⟨ht, Or.inl ⟨hr, hfail, ha⟩⟩
  · rw [wp_ite, if_neg hr]
    exact ⟨(hfd t).trans ht, Or.inr ⟨by decide, hfail, hg t ha⟩⟩

theorem arpPing_sends (testIp : UInt32) (s : Sys) :
    wp (arpPing env site testIp) (Sends env site s ((alarms s).ping (env.curms site))) (fun _ _ => True) s := by
  refine wp_arpSend_count env site _ _ _ _ s (fun _ => rfl) fun t ht => ?_
  rw [← ht]
  rfl

theorem arpAnnouncement_returns (s : Sys) :
    wp (arpAnnouncement env site) (Sends env site s ((alarms s).announcement (env.curms site)))
      (fun _ _ => True) s := by
  refine wp_arpSend_count env site _ _ _ _ s (fun _ => rfl) fun t ht => ?_
  rw [← ht]
  rfl

/-- A ping fails that is to be sent. -/
def PingFails (replied : Bool) (s : Sys) : Prop := replied = false ∧ FrameFails env site s

theorem pingUnless_returns (replied : Bool) (testIp : UInt32) (s : Sys) :
    wp (pingUnless env replied site testIp)
      (fun r t => t.cs.arpFd = s.cs.arpFd ∧
        ((r < 0 ∧ PingFails env site replied s ∧ alarms t = alarms s) ∨
          (¬ r < 0 ∧ ¬ PingFails env site replied s ∧
            alarms t = (alarms s).pingUnless replied (env.curms site))))
      (fun _ _ => True) s := by
  unfold pingUnless
  cases replied with
  | true => exact ⟨rfl, Or.inr ⟨by decide, fun h => Bool.noConfusion h.1, rfl⟩⟩
  | false =>
    apply wp_mono _ _ s _ _ _ (arpPing_sends env site testIp s) ?_ (fun _ _ h => h)
    rintro r t ⟨hfd, ⟨hr, hfail, ha⟩ | ⟨hr, hfail, ha⟩⟩
    · exact ⟨hfd, Or.inl ⟨hr, ⟨rfl, hfail⟩, ha⟩⟩
    · exact ⟨hfd, Or.inr ⟨hr, fun h => hfail h.2, ha⟩⟩

end

/-! ## What leaves the alarms alone -/

instance : Offline alarms where
  eq _ _ := rfl
  pc _ _ := rfl
  listen _ _ _ := rfl
  wake _ _ := rfl
  lease _ _ _ := rfl

section
variable (env : Env) (cfg : ClientConfig) (site : Site)

instance : Routine alarms AnyWay arpMinCloseFd := by
  unfold arpMinCloseFd
  infer_instance

instance (defense : Bool) : Routine alarms AnyWay (arpOpenFd env site defense) := by
  unfold arpOpenFd
  infer_instance

instance : Routine alarms AnyWay (arpSetDefenseMode env) := by
  unfold arpSetDefenseMode
  infer_instance

set_option synthInstance.maxSize 256 in
instance (packet : DhcpMsg) : Routine alarms AnyWay (arpCheck env cfg packet) := by
  unfold arpCheck arpIpAnonPing
  infer_instance

instance : Routine alarms AnyWay (ifchangeDeconfig env) := by
  unfold ifchangeDeconfig
  infer_instance

end

/-! ## Asking for the fingerprint -/

section
variable (env : Env) (a : Alarms)

/-- `arp_get_gw_hwaddr` fails: without a socket, at the first ping or at the second. -/
inductive AskFails : Alarms → Prop
  | unopened : AskFails a
  | server : AskFails { a with gotServerArp := false }
  | router : AskFails
      { a.ping (env.curms .gwHwaddrServer) with gotServerArp := false, gotRouterArp := false }

/-- `arp_get_gw_hwaddr` asks the server, and the gateway if there is one. -/
inductive AskSent : Alarms → Prop
  | server : AskSent
      { a.ping (env.curms .gwHwaddrServer) with
        gotServerArp := false
        gotRouterArp := true
        gwQuery := env.curms .gwHwaddrServer + ARP_RETRANS_DELAY + 250 }
  | both : AskSent
      { (a.ping (env.curms .gwHwaddrServer)).ping (env.curms .gwHwaddrRouter) with
        gotServerArp := false
        gotRouterArp := false
        gwQuery := env.curms .gwHwaddrRouter + ARP_RETRANS_DELAY + 250 }

/-- `arp_query_gateway` -/
inductive Queries : Alarms → Prop
  | sent (h : a.sentGwQuery = true) : Queries { a with queryGwSend := -1 }
  | fails (h : a.sentGwQuery = false) (b : Alarms) (hb : AskFails env a b) :
    Queries { b with queryGwSend := env.curms .queryGateway + ARP_RETRANS_DELAY }
  | asks (h : a.sentGwQuery = false) (b : Alarms) (hb : AskSent env a b) :
    Queries { b with sentGwQuery := true, queryGwSend := -1 }

/-- `arp_announce`: both announcements were sent, or one is tried. -/
inductive Announced : Alarms → Prop
  | both (h : a.SentBoth) : Announced { a with announce := -1 }
  | fails (h : ¬ a.SentBoth) : Announced { a with announce := env.curms .announceNext + ARP_RETRANS_DELAY }
  | first (h₁ : a.sentFirstAnnounce = false) (h₂ : a.sentSecondAnnounce = false) : Announced
      { a.announcement (env.curms .announce) with
        sentFirstAnnounce := true
        sentSecondAnnounce := false
        announce := env.curms .announceNext + ARP_RETRANS_DELAY }
  | second (h : ¬ a.SentBoth) (h₁ : a.sentFirstAnnounce = true ∨ a.sentSecondAnnounce = true) : Announced
      { a.announcement (env.curms .announce) with
        sentFirstAnnounce := true
        sentSecondAnnounce := true
        announce := -1 }

end

section
variable (env : Env) (s : Sys)

theorem gwHwaddrPings_alarms :
    wp (gwHwaddrPings env)
      (fun r t => (r < 0 ∧ (alarms t = alarms s ∨
          alarms t = { (alarms s).ping (env.curms .gwHwaddrServer) with gotRouterArp := false })) ∨
        (¬ r < 0 ∧ (alarms t = { (alarms s).ping (env.curms .gwHwaddrServer) with gotRouterArp := true } ∨
          alarms t = { ((alarms s).ping (env.curms .gwHwaddrServer)).ping (env.curms .gwHwaddrRouter) with
            gotRouterArp := false })))
      (fun _ _ => True) s := by
  unfold gwHwaddrPings gwHwaddrRouter
  rw [wp_bind, wp_get, wp_bind]
  apply wp_mono _ _ s _ _ _ (arpPing_sends env .gwHwaddrServer s.cs.srcAddr s) ?_ (fun _ _ h => h)
  rintro r t ⟨-, ⟨hr, -, ht⟩ | ⟨hr, -, ht⟩⟩
  · rw [wp_ite, if_pos hr]
    exact Or.inl ⟨hr, Or.inl ht⟩
  · have hset : ∀ b, { alarms t with gotRouterArp := b } =
        { (alarms s).ping (env.curms .gwHwaddrServer) with gotRouterArp := b } :=
      fun b => congrArg (fun a : Alarms => { a with gotRouterArp := b }) ht
    rw [wp_ite, if_neg hr, wp_bind, wp_get, wp_ite]
    split
    · rw [wp_bind, wp_modify]
      apply wp_mono _ _ _ _ _ _ (arpPing_sends env .gwHwaddrRouter t.cs.routerAddr _) ?_ (fun _ _ h => h)
      rintro r' u ⟨-, ⟨hr', -, hu⟩ | ⟨hr', -, hu⟩⟩
      · exact Or.inl ⟨hr', Or.inr (hu.trans (hset false))⟩
      · exact Or.inr ⟨hr', Or.inr (hu.trans (congrArg (fun a => a.ping (env.curms .gwHwaddrRouter)) (hset false)))⟩
    · exact Or.inr ⟨by decide, Or.inl (hset true)⟩

theorem arpGetGwHwaddr_alarms :
    wp (arpGetGwHwaddr env)
      (fun r t => (r < 0 ∧ AskFails env (alarms s) (alarms t)) ∨ (¬ r < 0 ∧ AskSent env (alarms s) (alarms t)))
      (fun _ _ => True) s := by
  unfold arpGetGwHwaddr
  apply wp_call alarms AnyWay _ _ s _ _ ?_ (fun _ _ h => h)
  intro r t ht
  rw [wp_ite]
  split
  · left
    rw [ht]
    exact ⟨by decide, .unopened⟩
  · rw [wp_bind, wp_modify, wp_bind]
    have hasked : alarms { t with cs.gotServerArp := false } = { alarms s with gotServerArp := false } :=
      congrArg (fun a : Alarms => { a with gotServerArp := false }) ht
    apply wp_mono _ _ _ _ _ _ (gwHwaddrPings_alarms env { t with cs.gotServerArp := false }) ?_ (fun _ _ h => h)
    rw [hasked]
    rintro r u (⟨hr, hu | hu⟩ | ⟨hr, hu | hu⟩)
    · rw [wp_ite, if_pos hr, wp_pure, hu]
      exact Or.inl ⟨by decide, .server⟩
    · rw [wp_ite, if_pos hr, wp_pure, hu]
      exact Or.inl ⟨by decide, .router⟩
    · rw [wp_ite, if_neg hr]
      refine Or.inr ⟨by decide, ?_⟩
      show AskSent env (alarms s) { alarms u with gwQuery := (alarms u).gwPingStats.ts + ARP_RETRANS_DELAY + 250 }
      rw [hu]
      exact .server
    · rw [wp_ite, if_neg hr]
      refine Or.inr ⟨by decide, ?_⟩
      show AskSent env (alarms s) { alarms u with gwQuery := (alarms u).gwPingStats.ts + ARP_RETRANS_DELAY + 250 }
      rw [hu]
      exact .both

theorem arpQueryGateway_alarms :
    wp (arpQueryGateway env) (fun _ t => Queries env (alarms s) (alarms t)) (fun _ _ => True) s := by
  unfold arpQueryGateway
  rw [wp_bind, wp_get, wp_ite]
  split
  · next hsent => exact Queries.sent (a := alarms s) hsent
  · next hsent =>
    have hsent : (alarms s).sentGwQuery = false := Bool.eq_false_iff.mpr hsent
    rw [wp_bind]
    apply wp_mono _ _ s _ _ _ (arpGetGwHwaddr_alarms env s) ?_ (fun _ _ h => h)
    rintro r t (⟨hr, ht⟩ | ⟨hr, ht⟩)
    · rw [wp_ite, if_pos hr]
      exact .fails hsent _ ht
    · rw [wp_ite, if_neg hr]
      exact .asks hsent _ ht

theorem arpAnnounce_alarms :
    wp (arpAnnounce env) (fun _ t => Announced env (alarms s) (alarms t)) (fun _ _ => True) s := by
  unfold arpAnnounce
  rw [wp_bind, wp_get, wp_ite]
  split
  · next hboth => exact Announced.both (a := alarms s) hboth
  · next hboth =>
    rw [wp_bind]
    apply wp_mono _ _ s _ _ _ (arpAnnouncement_returns env .announce s) ?_ (fun _ _ h => h)
    rintro r t ⟨-, ⟨hr, -, ht⟩ | ⟨hr, -, ht⟩⟩
    · rw [wp_ite, if_pos hr]
      show Announced env (alarms s) { alarms t with announce := env.curms .announceNext + ARP_RETRANS_DELAY }
      rw [ht]
      exact .fails hboth
    · rw [wp_ite, if_neg hr]
      -- the flags as the announcement found them
      have hone : ((alarms t).sentFirstAnnounce || (alarms t).sentSecondAnnounce) =
          ((alarms s).sentFirstAnnounce || (alarms s).sentSecondAnnounce) := by
        rw [ht]
        rfl
      show Announced env (alarms s) { alarms t with
        sentFirstAnnounce := true
        sentSecondAnnounce := (alarms t).sentFirstAnnounce || (alarms t).sentSecondAnnounce
        announce := if (alarms t).sentFirstAnnounce || (alarms t).sentSecondAnnounce then -1
          else env.curms .announceNext + ARP_RETRANS_DELAY }
      rw [hone, ht]
      cases hflags : (alarms s).sentFirstAnnounce || (alarms s).sentSecondAnnounce with
      | true => exact .second hboth (Bool.or_eq_true_iff.mp hflags)
      | false =>
        obtain ⟨h₁, h₂⟩ := Bool.or_eq_false_iff.mp hflags
        exact .first h₁ h₂

end

/-! ## Timers -/

section
variable (env : Env) (nowts : Int)

/-- A timer that is armed and due brings about `R`, another nothing. -/
def WhenDue (timer : Alarms → Int) (R : Alarms → Prop) (a b : Alarms) : Prop :=
  (b = a ∧ (timer a = -1 ∨ nowts < timer a)) ∨ (timer a ≠ -1 ∧ timer a ≤ nowts ∧ R b)

/-- `arp_defense_timeout`: the timer is off, and an announcement sent only if it was armed. -/
def StandsDown (a b : Alarms) : Prop :=
  ∃ stats, b = { a with defense := -1, announceStats := stats } ∧ (a.defense = -1 → stats = a.announceStats)

/-- The announcements and the defense. -/
def AnnounceTimers (a b : Alarms) : Prop :=
  (a.SentBoth ∧ StandsDown a b) ∨ (¬ a.SentBoth ∧ WhenDue nowts Alarms.announce (Announced env a) a b)

/-! Query and check are not touched by the announcements. -/

theorem Announced.eq (a b : Alarms) (h : Announced env a b) :
    ∃ announce defense stats first second, b = { a with
      announce := announce, defense := defense, announceStats := stats
      sentFirstAnnounce := first, sentSecondAnnounce := second } := by
  cases h <;> exact ⟨_, _, _, _, _, rfl⟩

theorem AnnounceTimers.eq (a b : Alarms) (h : AnnounceTimers env nowts a b) :
    ∃ announce defense stats first second, b = { a with
      announce := announce, defense := defense, announceStats := stats
      sentFirstAnnounce := first, sentSecondAnnounce := second } := by
  rcases h with ⟨-, stats, rfl, -⟩ | ⟨-, ⟨rfl, -⟩ | ⟨-, -, hb⟩⟩
  · exact ⟨_, _, _, _, _, rfl⟩
  · exact ⟨_, _, _, _, _, rfl⟩
  · exact hb.eq env a b

theorem wp_whenDue (timer : Alarms → Int) (R : Alarms → Prop) (m : M Arpr) (s : Sys)
    (hm : wp m (fun _ t => R (alarms t)) (fun _ _ => True) s) :
    wp (do
        let s ← get
        if timer (alarms s) = -1 then pure 0
        else if nowts < timer (alarms s) then pure 1
        else do
          let r ← m
          pure (if r = .ok then 0 else -1) : M Int)
      (fun _ t => WhenDue nowts timer R (alarms s) (alarms t)) (fun _ _ => True) s := by
  rw [wp_bind, wp_get, wp_ite]
  split
  · next hoff => exact Or.inl ⟨rfl, Or.inl hoff⟩
  · next harmed =>
    rw [wp_ite]
    split
    · next hearly => exact Or.inl ⟨rfl, Or.inr hearly⟩
    · next hdue =>
      rw [wp_bind]
      exact wp_mono _ _ s _ _ _ hm (fun _ _ h => Or.inr ⟨harmed, Int.not_lt.mp hdue, h⟩) (fun _ _ h => h)

theorem arpAnnounceTimeout_alarms (s : Sys) :
    wp (arpAnnounceTimeout env nowts)
      (fun _ t => WhenDue nowts Alarms.announce (Announced env (alarms s)) (alarms s) (alarms t))
      (fun _ _ => True) s :=
  wp_whenDue nowts Alarms.announce _ _ s (arpAnnounce_alarms env s)

theorem arpQueryGatewayTimeout_alarms (s : Sys) :
    wp (arpQueryGatewayTimeout env nowts)
      (fun _ t => WhenDue nowts Alarms.queryGwSend (Queries env (alarms s)) (alarms s) (alarms t))
      (fun _ _ => True) s :=
  wp_whenDue nowts Alarms.queryGwSend _ _ s (arpQueryGateway_alarms env s)

theorem arpDefenseTimeout_alarms (s : Sys) :
    wp (arpDefenseTimeout env) (fun _ t => StandsDown (alarms s) (alarms t)) (fun _ _ => True) s := by
  unfold arpDefenseTimeout
  rw [wp_bind, wp_get, wp_ite]
  split
  · next harmed =>
    rw [wp_bind, wp_modify]
    apply wp_mono _ _ _ _ _ _ (arpAnnouncement_returns env .defenseTimeout _) ?_ (fun _ _ h => h)
    rintro r t ⟨-, ⟨-, -, ht⟩ | ⟨-, -, ht⟩⟩
    · exact ⟨_, ht, fun h => absurd h harmed⟩
    · exact ⟨_, ht, fun h => absurd h harmed⟩
  · next hoff =>
    have hoff : (alarms s).defense = -1 := not_not.mp hoff
    exact ⟨_, by rw [← hoff], fun _ => rfl⟩

theorem boundAnnounce_alarms (inp : Input) (s : Sys) :
    wp (boundAnnounce env inp) (fun _ t => AnnounceTimers env inp.nowts (alarms s) (alarms t))
      (fun _ _ => True) s := by
  unfold boundAnnounce
  rw [wp_bind, wp_get, wp_ite]
  split
  · next hboth =>
    rw [wp_bind]
    exact wp_mono _ _ s _ _ _ (arpDefenseTimeout_alarms env s) (fun _ _ h => Or.inl ⟨hboth, h⟩) (fun _ _ h => h)
  · next hboth =>
    rw [wp_bind]
    exact wp_mono _ _ s _ _ _ (arpAnnounceTimeout_alarms env inp.nowts s) (fun _ _ h => Or.inr ⟨hboth, h⟩)
      (fun _ _ h => h)

/-! ### Repeated pings -/

/-- Two parties are pinged unless they have answered, the second only if the first ping went
out; then a timer is set by `put`. -/
inductive Repeats (s : Sys) (replied₁ replied₂ : Bool) (site₁ site₂ : Site) (put : Alarms → Alarms) :
    Arpr → Alarms → Prop
  | unsent (h : PingFails env site₁ replied₁ s) : Repeats s replied₁ replied₂ site₁ site₂ put .fail (alarms s)
  | half (h : PingFails env site₂ replied₂ s) : Repeats s replied₁ replied₂ site₁ site₂ put .fail
      ((alarms s).pingUnless replied₁ (env.curms site₁))
  | sent (h₁ : ¬ PingFails env site₁ replied₁ s) (h₂ : ¬ PingFails env site₂ replied₂ s) :
    Repeats s replied₁ replied₂ site₁ site₂ put .ok
      (put (((alarms s).pingUnless replied₁ (env.curms site₁)).pingUnless replied₂ (env.curms site₂)))

theorem pingFails_congr (replied : Bool) (site : Site) (s t : Sys) (h : t.cs.arpFd = s.cs.arpFd) :
    PingFails env site replied t ↔ PingFails env site replied s := by
  unfold PingFails FrameFails
  rw [h]

theorem wp_repeats (replied₁ replied₂ : Bool) (site₁ site₂ : Site) (ip₁ ip₂ : UInt32) (g : Sys → Sys)
    (put : Alarms → Alarms) (hg : ∀ t, alarms (g t) = put (alarms t)) (s : Sys) :
    wp (pingUnless env replied₁ site₁ ip₁ >>= fun r =>
        if r < 0 then pure .fail
        else pingUnless env replied₂ site₂ ip₂ >>= fun r =>
          if r < 0 then pure .fail else modify g >>= fun _ => pure .ok)
      (fun r t => Repeats env s replied₁ replied₂ site₁ site₂ put r (alarms t)) (fun _ _ => True) s := by
  rw [wp_bind]
  apply wp_mono _ _ s _ _ _ (pingUnless_returns env site₁ replied₁ ip₁ s) ?_ (fun _ _ h => h)
  rintro r t ⟨hfd, ⟨hr, h₁, ht⟩ | ⟨hr, h₁, ht⟩⟩
  · rw [wp_ite, if_pos hr, wp_pure, ht]
    exact .unsent h₁
  · rw [wp_ite, if_neg hr, wp_bind]
    apply wp_mono _ _ t _ _ _ (pingUnless_returns env site₂ replied₂ ip₂ t) ?_ (fun _ _ h => h)
    rw [pingFails_congr env replied₂ site₂ s t hfd, ht]
    rintro r u ⟨-, ⟨hr, h₂, hu⟩ | ⟨hr, h₂, hu⟩⟩
    · rw [wp_ite, if_pos hr, wp_pure, hu]
      exact .half h₂
    · rw [wp_ite, if_neg hr, wp_bind, wp_modify, wp_pure, hg, hu]
      exact .sent h₁ h₂

/-- `garp.wake_ts[AS_GW_QUERY]` follows the last ping. -/
def Alarms.awaitQuery (a : Alarms) : Alarms := { a with gwQuery := a.gwPingStats.ts + ARP_RETRANS_DELAY }

/-- `garp.wake_ts[AS_GW_CHECK]` follows the last ping. -/
def Alarms.awaitCheck (a : Alarms) : Alarms := { a with gwCheck := a.gwPingStats.ts + ARP_RETRANS_DELAY }

/-- `arp_gw_query_timeout` -/
inductive QueryRepeats (s : Sys) : Arpr → Alarms → Prop
  | early (h : nowts < s.garp.gwPingStats.ts + ARP_RETRANS_DELAY) : QueryRepeats s .ok (alarms s).awaitQuery
  | due (h : s.garp.gwPingStats.ts + ARP_RETRANS_DELAY ≤ nowts) (r : Arpr) (b : Alarms)
      (hb : Repeats env s s.cs.gotRouterArp s.cs.gotServerArp .gwQueryRouter .gwQueryServer Alarms.awaitQuery r b) :
    QueryRepeats s r b

/-- `arp_gw_check_timeout` -/
inductive CheckRepeats (s : Sys) : Arpr → Alarms → Prop
  | unanswered (h : s.garp.gwCheckInitpings + 6 ≤ s.garp.gwPingStats.count) :
    CheckRepeats s .conflict { alarms s with gwCheck := -1 }
  | early (hpings : s.garp.gwPingStats.count < s.garp.gwCheckInitpings + 6)
      (h : nowts < s.garp.gwPingStats.ts + ARP_RETRANS_DELAY) : CheckRepeats s .ok (alarms s).awaitCheck
  | due (hpings : s.garp.gwPingStats.count < s.garp.gwCheckInitpings + 6)
      (h : s.garp.gwPingStats.ts + ARP_RETRANS_DELAY ≤ nowts) (r : Arpr) (b : Alarms)
      (hb : Repeats env s s.garp.routerReplied s.garp.serverReplied .gwTimeoutRouter .gwTimeoutServer
        Alarms.awaitCheck r b) : CheckRepeats s r b

theorem arpGwQueryTimeout_alarms (s : Sys) :
    wp (arpGwQueryTimeout env nowts) (fun r t => QueryRepeats env nowts s r (alarms t)) (fun _ _ => True) s := by
  unfold arpGwQueryTimeout
  rw [wp_bind, wp_get, wp_ite]
  split
  · next hearly => exact .early hearly
  · next hdue =>
    exact wp_mono _ _ s _ _ _ (wp_repeats env _ _ _ _ _ _ _ Alarms.awaitQuery (fun _ => rfl) s)
      (fun _ _ h => .due (Int.not_lt.mp hdue) _ _ h) (fun _ _ h => h)

theorem arpGwCheckTimeout_alarms (s : Sys) :
    wp (arpGwCheckTimeout env nowts) (fun r t => CheckRepeats env nowts s r (alarms t)) (fun _ _ => True) s := by
  unfold arpGwCheckTimeout
  rw [wp_bind, wp_get, wp_ite]
  split
  · next hpings => exact .unanswered hpings
  · next hpings =>
    rw [wp_ite]
    split
    · next hearly => exact .early (Int.not_le.mp hpings) hearly
    · next hdue =>
      exact wp_mono _ _ s _ _ _ (wp_repeats env _ _ _ _ _ _ _ Alarms.awaitCheck (fun _ => rfl) s)
        (fun _ _ h => .due (Int.not_le.mp hpings) (Int.not_lt.mp hdue) _ _ h) (fun _ _ h => h)

end

/-! ## Frames that are heard -/

section
variable (env : Env) (cfg : ClientConfig) (s : Sys)

/-- `arp_do_defense` -/
def Defends (a b : Alarms) : Prop := ∃ timer stats, b = { a with defense := timer, announceStats := stats }

/-- `arp_do_gw_query`: with the last reply that is missing the timer is off. -/
def Learns (a b : Alarms) : Prop :=
  ∃ router server timer, b = { a with gotRouterArp := router, gotServerArp := server, gwQuery := timer } ∧
    (timer = -1 ∨ (timer = a.gwQuery ∧ (b.Known → a.Known)))

/-- `arp_do_gw_check` -/
def Hears (a b : Alarms) : Prop :=
  ∃ router server timer stats, b = { a with
    routerReplied := router, serverReplied := server, gwCheck := timer, announceStats := stats }

theorem arpDoDefense_alarms :
    wp (arpDoDefense env cfg)
      (fun r t => (¬ (peers s).Conflicting cfg ∧ r = .ok ∧ t = s) ∨
        ((peers s).Conflicting cfg ∧ Defends (alarms s) (alarms t)))
      (fun _ _ => True) s := by
  unfold arpDoDefense
  rw [wp_bind, wp_get, wp_ite]
  split
  · next hzero => exact Or.inl ⟨fun h => h hzero, rfl, rfl⟩
  · next hconf =>
    rw [wp_bind, wp_modify, wp_ite]
    split
    · rw [wp_bind]
      apply wp_mono _ _ _ _ _ _ (arpAnnouncement_returns env .doDefense _) ?_ (fun _ _ h => h)
      rintro r t ⟨-, ⟨hr, -, ht⟩ | ⟨hr, -, ht⟩⟩
      · rw [wp_ite, if_pos hr]
        exact Or.inr ⟨hconf, _, _, ht⟩
      · rw [wp_ite, if_neg hr]
        exact Or.inr ⟨hconf, _, _, ht⟩
    · rw [wp_ite]
      split
      · apply wp_call alarms AnyWay _ _ _ _ _ ?_ (fun _ _ h => h)
        exact fun _ t ht => Or.inr ⟨hconf, _, _, ht⟩
      · exact Or.inr ⟨hconf, _, _, rfl⟩

theorem gwQueryDone_alarms :
    wp (gwQueryDone env) (fun _ t => alarms t = { alarms s with gwQuery := -1 }) (fun _ _ => True) s := by
  unfold gwQueryDone
  rw [wp_bind, wp_modify]
  apply wp_call alarms AnyWay _ _ _ _ _ ?_ (fun _ _ h => h)
  intro r t ht
  rw [wp_ite]
  split
  · exact ht
  · exact ht

theorem gwQueryServer_alarms :
    wp (gwQueryServer env)
      (fun _ t => ∃ timer, alarms t = { alarms s with gotServerArp := true, gwQuery := timer } ∧
        (timer = -1 ∨ (timer = s.garp.wakeTs.gwQuery ∧ s.cs.gotRouterArp = false)))
      (fun _ _ => True) s := by
  unfold gwQueryServer
  rw [wp_bind, wp_modify, wp_bind, wp_get, wp_ite]
  split
  · exact wp_mono _ _ _ _ _ _ (gwQueryDone_alarms env _) (fun _ _ h => ⟨-1, h, Or.inl rfl⟩) (fun _ _ h => h)
  · next hgot => exact ⟨_, rfl, Or.inr ⟨rfl, Bool.eq_false_iff.mpr hgot⟩⟩

theorem arpDoGwQuery_alarms :
    wp (arpDoGwQuery env cfg) (fun _ t => Learns (alarms s) (alarms t)) (fun _ _ => True) s := by
  have hsame : Learns (alarms s) (alarms s) := ⟨_, _, _, rfl, Or.inr ⟨rfl, id⟩⟩
  apply wp_arpDoGwQuery
  · exact fun _ _ => hsame
  · intro _ _
    apply wp_mono _ _ _ _ _ _ (gwQueryServer_alarms env _) ?_ (fun _ _ h => h)
    rintro _ t ⟨timer, ht, hoff | ⟨-, hgot⟩⟩
    · exact ⟨_, _, _, ht, Or.inl hoff⟩
    · cases hgot
  · intro _ _
    rw [wp_ite]
    split
    · exact wp_mono _ _ _ _ _ _ (gwQueryDone_alarms env _) (fun _ _ h => ⟨_, _, _, h, Or.inl rfl⟩)
        (fun _ _ h => h)
    · next hserver => exact ⟨_, _, _, rfl, Or.inr ⟨rfl, fun h => absurd h.2 hserver⟩⟩
  · intro _ _
    apply wp_mono _ _ _ _ _ _ (gwQueryServer_alarms env _) ?_ (fun _ _ h => h)
    rintro _ t ⟨timer, ht, hoff | ⟨hkept, hgot⟩⟩
    · exact ⟨_, _, _, ht, Or.inl hoff⟩
    · refine ⟨_, _, _, ht, Or.inr ⟨hkept, fun h => ?_⟩⟩
      rw [ht] at h
      exact absurd h.1 (Bool.eq_false_iff.mp hgot)

theorem arpGwSuccess_alarms :
    wp (arpGwSuccess env)
      (fun _ t => ∃ timer stats, alarms t = { alarms s with gwCheck := timer, announceStats := stats })
      (fun _ _ => True) s := by
  unfold arpGwSuccess
  apply wp_call alarms AnyWay _ _ s _ _ ?_ (fun _ _ h => h)
  intro r t ht
  rw [wp_ite]
  split
  · exact ⟨_, _, ht⟩
  · rw [wp_bind, wp_modify, wp_bind]
    have hoff : alarms { t with garp.wakeTs.gwCheck := -1 } = { alarms s with gwCheck := -1 } :=
      congrArg (fun a : Alarms => { a with gwCheck := -1 }) ht
    apply wp_mono _ _ _ _ _ _ (arpAnnouncement_returns env .gwSuccess _) ?_ (fun _ _ h => h)
    rw [hoff]
    rintro r u ⟨-, ⟨hr, -, hu⟩ | ⟨hr, -, hu⟩⟩
    · rw [wp_ite, if_pos hr]
      exact ⟨_, _, hu.trans hoff⟩
    · rw [wp_ite, if_neg hr]
      exact ⟨_, _, hu⟩

/-- The end of a check, if the other party has answered too. -/
theorem gwSuccessIf_alarms (replied : Bool) (a : Alarms) (hs : Hears a (alarms s)) :
    wp (if replied then arpGwSuccess env else pure .ok) (fun _ t => Hears a (alarms t)) (fun _ _ => True) s := by
  rw [wp_ite]
  split
  · apply wp_mono _ _ _ _ _ _ (arpGwSuccess_alarms env s) ?_ (fun _ _ h => h)
    rintro _ t ⟨timer, stats, ht⟩
    obtain ⟨router, server, timer', stats', ha⟩ := hs
    rw [ha] at ht
    exact ⟨_, _, _, _, ht⟩
  · exact hs

theorem gwCheckServer_alarms :
    wp (gwCheckServer env) (fun _ t => Hears (alarms s) (alarms t)) (fun _ _ => True) s := by
  unfold gwCheckServer
  rw [wp_bind, wp_get, wp_ite]
  split
  · rw [wp_bind, wp_modify]
    exact gwSuccessIf_alarms env _ _ _ ⟨_, _, _, _, rfl⟩
  · exact ⟨_, _, _, _, rfl⟩

theorem arpDoGwCheck_alarms :
    wp (arpDoGwCheck env cfg) (fun _ t => Hears (alarms s) (alarms t)) (fun _ _ => True) s := by
  have hsame : Hears (alarms s) (alarms s) := ⟨_, _, _, _, rfl⟩
  unfold arpDoGwCheck
  rw [wp_bind, wp_get, wp_ite]
  split
  · exact hsame
  · rw [wp_ite]
    split
    · rw [wp_ite]
      split
      · rw [wp_bind, wp_modify, wp_ite]
        split
        · apply wp_mono _ _ _ _ _ _ (gwCheckServer_alarms env _) ?_ (fun _ _ h => h)
          rintro _ t ⟨router, server, timer, stats, ht⟩
          exact ⟨_, _, _, _, ht⟩
        · exact gwSuccessIf_alarms env _ _ _ ⟨_, _, _, _, rfl⟩
      · exact ⟨_, _, _, _, rfl⟩
    · rw [wp_ite]
      split
      · exact gwCheckServer_alarms env s
      · exact hsame

end

/-! ## A carrier that returns -/

section
variable (env : Env) (s : Sys)

/-- `arp_gw_check` once it has a socket: earlier pings and replies do not count. -/
def StartsCheck (a b : Alarms) : Prop :=
  ∃ stats router timer, b = { a with
      gwCheckInitpings := a.gwPingStats.count
      serverReplied := false
      checkFingerprint := true
      gwPingStats := stats
      routerReplied := router
      gwCheck := timer } ∧
    a.gwPingStats.count ≤ stats.count

theorem gwCheckPings_alarms :
    wp (gwCheckPings env)
      (fun r t => ∃ stats router, alarms t = { alarms s with gwPingStats := stats, routerReplied := router } ∧
        s.garp.gwPingStats.count ≤ stats.count ∧ (¬ r < 0 → ∃ site, stats.ts = env.curms site))
      (fun _ _ => True) s := by
  unfold gwCheckPings gwCheckRouter
  rw [wp_bind, wp_get, wp_bind]
  apply wp_mono _ _ s _ _ _ (arpPing_sends env .gwCheckServer s.cs.srcAddr s) ?_ (fun _ _ h => h)
  rintro r t ⟨-, ⟨hr, -, ht⟩ | ⟨hr, -, ht⟩⟩
  · rw [wp_ite, if_pos hr]
    exact ⟨_, _, ht, Int.le_refl _, fun h => absurd hr h⟩
  · have hset : ∀ b, { alarms t with routerReplied := b } =
        { (alarms s).ping (env.curms .gwCheckServer) with routerReplied := b } :=
      fun b => congrArg (fun a : Alarms => { a with routerReplied := b }) ht
    have hcount : s.garp.gwPingStats.count ≤ ((alarms s).ping (env.curms .gwCheckServer)).gwPingStats.count :=
      Int.le_add_one (Int.le_refl _)
    rw [wp_ite, if_neg hr, wp_bind, wp_get, wp_ite]
    split
    · rw [wp_bind, wp_modify]
      apply wp_mono _ _ _ _ _ _ (arpPing_sends env .gwCheckRouter t.cs.routerAddr _) ?_ (fun _ _ h => h)
      rintro r' u ⟨-, ⟨hr', -, hu⟩ | ⟨hr', -, hu⟩⟩
      · exact ⟨_, _, hu.trans (hset false), hcount, fun h => absurd hr' h⟩
      · exact ⟨_, _, hu.trans (congrArg (fun a => a.ping (env.curms .gwCheckRouter)) (hset false)),
          Int.le_add_one hcount, fun _ => ⟨_, rfl⟩⟩
    · exact ⟨_, _, hset true, hcount, fun _ => ⟨_, rfl⟩⟩

theorem arpGwCheck_alarms :
    wp (arpGwCheck env)
      (fun r t => (r < 0 ∧ alarms t = alarms s) ∨ (StartsCheck (alarms s) (alarms t) ∧
        (¬ r < 0 → ∃ site, (alarms t).gwCheck = env.curms site + ARP_RETRANS_DELAY + 250)))
      (fun _ _ => True) s := by
  unfold arpGwCheck
  apply wp_call alarms AnyWay _ _ s _ _ ?_ (fun _ _ h => h)
  intro r t ht
  rw [wp_ite]
  split
  · exact Or.inl ⟨by decide, ht⟩
  · rw [wp_bind, wp_modify, wp_bind]
    have hbegun : alarms { t with
        garp.gwCheckInitpings := t.garp.gwPingStats.count
        garp.serverReplied := false
        cs.checkFingerprint := true } = { alarms s with
        gwCheckInitpings := (alarms s).gwPingStats.count
        serverReplied := false
        checkFingerprint := true } :=
      congrArg (fun a : Alarms => { a with
        gwCheckInitpings := a.gwPingStats.count
        serverReplied := false
        checkFingerprint := true }) ht
    apply wp_mono _ _ _ _ _ _ (gwCheckPings_alarms env _) ?_ (fun _ _ h => h)
    rintro r u ⟨stats, router, hu, hcount, hsite⟩
    have hu : alarms u = _ := hu.trans
      (congrArg (fun a : Alarms => { a with gwPingStats := stats, routerReplied := router }) hbegun)
    have hcount : (alarms s).gwPingStats.count ≤ stats.count := by
      rw [← ht]
      exact hcount
    rw [wp_ite]
    split
    · next hr => exact Or.inr ⟨⟨_, _, _, hu, hcount⟩, fun h => absurd hr h⟩
    · next hr =>
      obtain ⟨site, hts⟩ := hsite hr
      refine Or.inr ⟨⟨stats, router, stats.ts + ARP_RETRANS_DELAY + 250, ?_, hcount⟩, fun _ => ⟨site, ?_⟩⟩
      · show { alarms u with gwCheck := (alarms u).gwPingStats.ts + ARP_RETRANS_DELAY + 250 } = _
        rw [hu]
      · show (alarms u).gwPingStats.ts + ARP_RETRANS_DELAY + 250 = _
        rw [hu, ← hts]

end

end Ndhc
