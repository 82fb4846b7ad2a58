import Ndhc.Client.Armed

/-!
# Pings and announcements wait

While a lease is held, without a carrier that returns and without a conflict, gateway and server
are pinged by `arp_query_gateway` and `arp_gw_query_timeout` only, and the address is announced
by `arp_announce` only.  What keeps them waiting is `Paced`: after every frame either nothing is
armed, or a timer that is not due before ARP_RETRANS_DELAY is over.  A call counts at most two pings
and one announcement, also if the process ends in the middle of it, and leaves the alarms paced
(`toIfup_bounded`).
-/

namespace Ndhc

open Prog

/-! ## Stats -/

/-- From `p` to `q`, in a call at `nowts`, at most `n` frames were sent, and none too early. -/
structure Modest (n nowts : Int) (p q : ArpStats) : Prop where
  few : q.count ≤ p.count + n
  apart : p.count < q.count → p.count ≠ 0 → p.ts + ARP_RETRANS_DELAY ≤ nowts

/-- From `p` to `q` at most `n` frames were sent, by a clock that does not go back. -/
structure Advances (n : Int) (p q : ArpStats) : Prop where
  few : q.count ≤ p.count + n
  kept : p.count ≤ q.count
  later : p.count ≠ 0 → p.ts ≤ q.ts

theorem Modest.of_le (n nowts : Int) (p q r : ArpStats) (h : Modest n nowts p q) (hle : r.count ≤ q.count) :
    Modest n nowts p r :=
  ⟨Int.le_trans hle h.few, fun hlt => h.apart (Int.lt_of_lt_of_le hlt hle)⟩

theorem Modest.refl (n nowts : Int) (hn : 0 ≤ n) (p : ArpStats) : Modest n nowts p p :=
  ⟨by omega, fun h => absurd h (Int.lt_irrefl _)⟩

theorem Advances.refl (n : Int) (hn : 0 ≤ n) (p : ArpStats) : Advances n p p :=
  ⟨by omega, Int.le_refl _, fun _ => Int.le_refl _⟩

/-- Frames are sent, up to `ts`. -/
theorem Advances.send (n : Int) (p : ArpStats) (k ts : Int) (hk : 0 ≤ k) (hn : k ≤ n)
    (hlater : p.count ≠ 0 → p.ts ≤ ts) : Advances n p ⟨ts, p.count + k⟩ :=
  ⟨Int.add_le_add_left hn _, Int.le_add_of_nonneg_right hk, hlater⟩

/-- The first frames of all. -/
theorem Advances.modest (n nowts : Int) (p q : ArpStats) (h : Advances n p q) (hnone : p.count = 0) :
    Modest n nowts p q :=
  ⟨h.few, fun _ hsome => absurd hnone hsome⟩

/-! ## What keeps the pace -/

namespace Alarms

/-- Up to `now`, the pings were paced, and will be. -/
structure PingsPaced (now : Int) (a : Alarms) : Prop where
  check : a.checkFingerprint = false
  count : 0 ≤ a.gwPingStats.count
  past : a.gwPingStats.count ≠ 0 → a.gwPingStats.ts ≤ now
  -- a query that failed halfway is not repeated too early
  query : a.sentGwQuery = false → a.gwPingStats.count ≠ 0 →
    a.queryGwSend = -1 ∨ a.gwPingStats.ts + ARP_RETRANS_DELAY ≤ a.queryGwSend

/-- Which announcements were sent. -/
inductive Progress (a : Alarms) : Prop
  | none (h₁ : a.sentFirstAnnounce = false) (h₂ : a.sentSecondAnnounce = false) (h : a.announceStats.count = 0)
  | one (h₁ : a.sentFirstAnnounce = true) (h₂ : a.sentSecondAnnounce = false) (h : a.announceStats.count = 1)
      (hnext : a.announce = -1 ∨ a.announceStats.ts + ARP_RETRANS_DELAY ≤ a.announce)
  | both (h₁ : a.sentFirstAnnounce = true) (h₂ : a.sentSecondAnnounce = true) (h : a.announceStats.count = 2)

theorem Progress.count_of_both (a : Alarms) (h : a.Progress) (h₁ : a.sentFirstAnnounce = true)
    (h₂ : a.sentSecondAnnounce = true) : a.announceStats.count = 2 := by
  cases h with
  | none hno => exact nomatch hno.symm.trans h₁
  | one _ hno => exact nomatch hno.symm.trans h₂
  | both _ _ hcount => exact hcount

/-- Up to `now`, the announcements were paced, and will be. -/
structure AnnouncementsPaced (now : Int) (a : Alarms) : Prop where
  defense : a.defense = -1
  past : a.announceStats.count ≠ 0 → a.announceStats.ts ≤ now
  progress : a.Progress

end Alarms

/-- The clock of a call does not go back. -/
structure Reads (env : Env) (nowts now later : Int) : Prop where
  start : now ≤ nowts
  begun : ∀ site, nowts ≤ env.curms site
  ended : ∀ site, env.curms site ≤ later
  hwaddr : env.curms .gwHwaddrServer ≤ env.curms .gwHwaddrRouter
  query : env.curms .gwHwaddrRouter ≤ env.curms .queryGateway
  announce : env.curms .announce ≤ env.curms .announceNext

section
variable (env : Env) (nowts now later : Int) (hclock : Reads env nowts now later)
include hclock

/-- What was sent before the call was sent before its clock is read. -/
theorem Reads.after (p : ArpStats) (hpast : p.count ≠ 0 → p.ts ≤ now) (site : Site) :
    p.count ≠ 0 → p.ts ≤ env.curms site := fun h =>
  ((hpast h).trans hclock.start).trans (hclock.begun site)

theorem Reads.now_le : now ≤ later := (hclock.start.trans (hclock.begun .announce)).trans (hclock.ended .announce)

theorem Reads.before (p : ArpStats) (hpast : p.count ≠ 0 → p.ts ≤ now) : p.count ≠ 0 → p.ts ≤ later := fun h =>
  (hpast h).trans (hclock.now_le env nowts now later)

/-! ### Announcements -/

/-! The announcements do not matter to the pings. -/

omit hclock in
theorem Announced.pingsPaced (a b : Alarms) (h : Announced env a b) (hs : a.PingsPaced now) :
    b.PingsPaced now ∧ b.gwPingStats = a.gwPingStats := by
  obtain ⟨_, _, _, _, _, rfl⟩ := h.eq
  exact ⟨⟨hs.check, hs.count, hs.past, hs.query⟩, rfl⟩

omit hclock in
theorem AnnounceTimers.pingsPaced (a b : Alarms) (h : AnnounceTimers env nowts a b) (hs : a.PingsPaced now) :
    b.PingsPaced now ∧ b.gwPingStats = a.gwPingStats := by
  obtain ⟨_, _, _, _, _, rfl⟩ := h.eq
  exact ⟨⟨hs.check, hs.count, hs.past, hs.query⟩, rfl⟩

theorem Announced.paced (a b : Alarms) (h : Announced env a b) (hs : a.AnnouncementsPaced now) :
    Advances 1 a.announceStats b.announceStats ∧ b.AnnouncementsPaced later := by
  have hafter := hclock.after env nowts now later a.announceStats hs.past
  have hold := hclock.before env nowts now later a.announceStats hs.past
  cases h with
  | both hboth =>
    have hcount := hs.progress.count_of_both a hboth.1 hboth.2
    exact ⟨.refl 1 (by decide) _, hs.defense, hold, .both hboth.1 hboth.2 hcount⟩
  | fails hnot =>
    refine ⟨.refl 1 (by decide) _, hs.defense, hold, ?_⟩
    cases hs.progress with
    | none h₁ h₂ hcount => exact .none h₁ h₂ hcount
    | one h₁ h₂ hcount =>
      have hsent : a.announceStats.count ≠ 0 := by omega
      exact .one h₁ h₂ hcount (Or.inr (Int.add_le_add_right (hafter .announceNext hsent) _))
    | both h₁ h₂ => exact absurd ⟨h₁, h₂⟩ hnot
  | first h₁ h₂ =>
    cases hs.progress with
    | none _ _ hcount =>
      refine ⟨.send 1 _ 1 _ (by decide) (by decide) (hafter .announce),
        hs.defense, fun _ => hclock.ended .announce, ?_⟩
      refine .one rfl rfl ?_ (Or.inr (Int.add_le_add_right hclock.announce _))
      show a.announceStats.count + 1 = 1
      omega
    | one hyes => exact nomatch h₁.symm.trans hyes
    | both hyes => exact nomatch h₁.symm.trans hyes
  | second hnot hone =>
    cases hs.progress with
    | none h₁ h₂ =>
      rcases hone with hyes | hyes
      · exact nomatch h₁.symm.trans hyes
      · exact nomatch h₂.symm.trans hyes
    | one h₁ h₂ hcount =>
      refine ⟨.send 1 _ 1 _ (by decide) (by decide) (hafter .announce), hs.defense, fun _ => hclock.ended .announce, ?_⟩
      refine .both rfl rfl ?_
      show a.announceStats.count + 1 = 2
      omega
    | both h₁ h₂ => exact absurd ⟨h₁, h₂⟩ hnot

theorem AnnounceTimers.paced (a b : Alarms) (h : AnnounceTimers env nowts a b) (hs : a.AnnouncementsPaced now) :
    Advances 1 a.announceStats b.announceStats ∧ b.AnnouncementsPaced later := by
  have hold := hclock.before env nowts now later a.announceStats hs.past
  rcases h with ⟨hboth, stats, rfl, hstats⟩ | ⟨-, ⟨rfl, -⟩ | ⟨-, -, hb⟩⟩
  · have hstats : stats = a.announceStats := hstats hs.defense
    subst hstats
    have hcount := hs.progress.count_of_both a hboth.1 hboth.2
    exact ⟨.refl 1 (by decide) _, rfl, hold, .both hboth.1 hboth.2 hcount⟩
  · exact ⟨.refl 1 (by decide) _, hs.defense, hold, hs.progress⟩
  · exact hb.paced env nowts now later hclock a b hs

/-! ### Pings -/

theorem Queries.paced (a b : Alarms) (h : Queries env a b) (hs : a.PingsPaced now) :
    Advances 2 a.gwPingStats b.gwPingStats ∧ b.PingsPaced later := by
  have hafter := hclock.after env nowts now later a.gwPingStats hs.past
  have hold := hclock.before env nowts now later a.gwPingStats hs.past
  cases h with
  | sent hsent =>
    exact ⟨.refl 2 (by decide) _, hs.check, hs.count, hold, fun hno => nomatch hsent.symm.trans hno⟩
  | fails hsent c hc =>
    cases hc with
    | unopened =>
      exact ⟨.refl 2 (by decide) _, hs.check, hs.count, hold,
        fun _ hpinged => Or.inr (Int.add_le_add_right (hafter .queryGateway hpinged) _)⟩
    | server =>
      exact ⟨.refl 2 (by decide) _, hs.check, hs.count, hold,
        fun _ hpinged => Or.inr (Int.add_le_add_right (hafter .queryGateway hpinged) _)⟩
    | router =>
      exact ⟨.send 2 _ 1 _ (by decide) (by decide) (hafter .gwHwaddrServer), hs.check,
        Int.le_add_one hs.count, fun _ => hclock.ended .gwHwaddrServer,
        fun _ _ => Or.inr (Int.add_le_add_right (hclock.hwaddr.trans hclock.query) _)⟩
  | asks hsent c hc =>
    cases hc with
    | server =>
      exact ⟨.send 2 _ 1 _ (by decide) (by decide) (hafter .gwHwaddrServer), hs.check,
        Int.le_add_one hs.count, fun _ => hclock.ended .gwHwaddrServer, nofun⟩
    | both =>
      refine ⟨?_, hs.check, Int.le_add_one (Int.le_add_one hs.count), fun _ => hclock.ended .gwHwaddrRouter, nofun⟩
      have hsend := Advances.send 2 a.gwPingStats 2 (env.curms .gwHwaddrRouter) (by decide) (by decide)
        (hafter .gwHwaddrRouter)
      show Advances 2 a.gwPingStats ⟨env.curms .gwHwaddrRouter, a.gwPingStats.count + 1 + 1⟩
      rw [Int.add_assoc]
      exact hsend

theorem Repeats.paced (u : Sys) (replied₁ replied₂ : Bool) (site₁ site₂ : Site) (put : Alarms → Alarms)
    (hput : ∀ a, (put a).gwPingStats = a.gwPingStats) (r : Arpr) (b : Alarms)
    (h : Repeats env u replied₁ replied₂ site₁ site₂ put r b) (hs : (alarms u).PingsPaced now) :
    Advances 2 u.garp.gwPingStats b.gwPingStats ∧
      (b.gwPingStats.count ≠ 0 → b.gwPingStats.ts ≤ later) := by
  have hafter := hclock.after env nowts now later u.garp.gwPingStats hs.past
  have hold := hclock.before env nowts now later u.garp.gwPingStats hs.past
  have hsame : Advances 2 u.garp.gwPingStats u.garp.gwPingStats := .refl 2 (by decide) _
  have hone : ∀ site, Advances 2 u.garp.gwPingStats ⟨env.curms site, u.garp.gwPingStats.count + 1⟩ :=
    fun site => .send 2 _ 1 _ (by decide) (by decide) (hafter site)
  have htwo : Advances 2 u.garp.gwPingStats ⟨env.curms site₂, u.garp.gwPingStats.count + 1 + 1⟩ := by
    rw [Int.add_assoc]
    exact .send 2 _ 2 _ (by decide) (by decide) (hafter site₂)
  cases h with
  | unsent => exact ⟨hsame, hold⟩
  | half =>
    cases replied₁ with
    | true => exact ⟨hsame, hold⟩
    | false => exact ⟨hone site₁, fun _ => hclock.ended site₁⟩
  | sent =>
    rw [hput]
    cases replied₁ with
    | true =>
      cases replied₂ with
      | true => exact ⟨hsame, hold⟩
      | false => exact ⟨hone site₂, fun _ => hclock.ended site₂⟩
    | false =>
      cases replied₂ with
      | true => exact ⟨hone site₁, fun _ => hclock.ended site₁⟩
      | false => exact ⟨htwo, fun _ => hclock.ended site₂⟩

theorem GwTimers.paced (u : Sys) (r : Arpr) (b : Alarms) (h : GwTimers env nowts u r b)
    (hs : (alarms u).PingsPaced now) :
    Advances 2 u.garp.gwPingStats b.gwPingStats ∧ b.PingsPaced later := by
  have hsame : Advances 2 u.garp.gwPingStats u.garp.gwPingStats := .refl 2 (by decide) _
  have hold := hclock.before env nowts now later u.garp.gwPingStats hs.past
  cases h with
  | query hsent _ hb =>
    rcases hb with ⟨rfl, -⟩ | ⟨-, -, hb⟩
    · exact ⟨hsame, hs.check, hs.count, hold, hs.query⟩
    · exact hb.paced env nowts now later hclock _ b hs
  | repeatQuery hsent _ _ _ hb =>
    have hasked : ∀ {P : Prop}, u.cs.sentGwQuery = false → P := fun hno => nomatch hsent.symm.trans hno
    cases hb with
    | early => exact ⟨hsame, hs.check, hs.count, hold, hasked⟩
    | due _ _ _ hb =>
      obtain ⟨hsteps, hpast⟩ := hb.paced env nowts now later hclock u _ _ _ _ Alarms.awaitQuery
        (fun _ => rfl) _ _ hs
      have hcount := hs.count.trans hsteps.kept
      obtain ⟨stats, -, rfl | rfl⟩ := hb.eq
      · exact ⟨hsteps, hs.check, hcount, hpast, hasked⟩
      · exact ⟨hsteps, hs.check, hcount, hpast, hasked⟩
  | repeatCheck _ _ hcheck => exact nomatch hs.check.symm.trans hcheck
  | rest => exact ⟨hsame, hs.check, hs.count, hold, hs.query⟩

/-! Query and check do not matter to the announcements. -/

omit hclock in
theorem Alarms.AnnouncementsPaced.queried (a : Alarms) (hs : a.AnnouncementsPaced now) (queryGwSend gwCheck gwQuery : Int)
    (stats : ArpStats) (sent router server : Bool) :
    Alarms.AnnouncementsPaced now { a with
      queryGwSend := queryGwSend, gwCheck := gwCheck, gwQuery := gwQuery, gwPingStats := stats
      sentGwQuery := sent, gotRouterArp := router, gotServerArp := server } := by
  refine ⟨hs.defense, hs.past, ?_⟩
  cases hs.progress with
  | none h₁ h₂ hcount => exact .none h₁ h₂ hcount
  | one h₁ h₂ hcount hnext => exact .one h₁ h₂ hcount hnext
  | both h₁ h₂ hcount => exact .both h₁ h₂ hcount

omit hclock in
theorem Queries.announcementsPaced (a b : Alarms) (h : Queries env a b) (hs : a.AnnouncementsPaced now) :
    b.AnnouncementsPaced now ∧ b.announceStats = a.announceStats := by
  obtain ⟨_, _, _, _, _, _, _, rfl⟩ := h.eq
  exact ⟨hs.queried now a _ _ _ _ _ _ _, rfl⟩

omit hclock in
theorem GwTimers.announcementsPaced (u : Sys) (r : Arpr) (b : Alarms) (h : GwTimers env nowts u r b)
    (hs : (alarms u).AnnouncementsPaced now) :
    b.AnnouncementsPaced now ∧ b.announceStats = u.garp.announceStats := by
  obtain ⟨_, _, _, _, _, _, _, rfl⟩ := h.eq
  exact ⟨hs.queried now _ _ _ _ _ _ _ _, rfl⟩

end

/-! ## Counting frames -/

/-- A count of pings and announcements, to which a ping adds `p` and an announcement `a`. -/
class Tally (h : ArpStats → ArpStats → Nat) (p a : outParam Nat) : Prop where
  none : h ⟨0, 0⟩ ⟨0, 0⟩ = 0
  ping : ∀ x y ts, h ⟨ts, x.count + 1⟩ y ≤ h x y + p
  announcement : ∀ x y ts, h x ⟨ts, y.count + 1⟩ ≤ h x y + a

instance : Tally (fun x _ => x.count.toNat) 1 0 where
  none := rfl
  ping x _ _ := by
    show (x.count + 1).toNat ≤ x.count.toNat + 1
    omega
  announcement _ _ _ := Nat.le_refl _

instance : Tally (fun _ y => y.count.toNat) 0 1 where
  none := rfl
  ping _ _ _ := Nat.le_refl _
  announcement _ y _ := by
    show (y.count + 1).toNat ≤ y.count.toNat + 1
    omega

@[reducible] def tally (h : ArpStats → ArpStats → Nat) (s : Sys) : Nat :=
  h s.garp.gwPingStats s.garp.announceStats

section
variable {α : Type} (h : ArpStats → ArpStats → Nat) (p a : Nat) [hh : Tally h p a]
variable (env : Env) (cfg : ClientConfig) (inp : Input) (site : Site) (nowts : Int)

/-- A reset takes the count back to zero. -/
instance (priority := low) (m : M α) [Resets m] : Adds (tally h) m 0 where
  ends s := by
    have hreset : ∀ t, alarms t = alarms s ∨ alarms t = noAlarms → tally h t ≤ tally h s := by
      rintro t (ht | ht)
      · exact Nat.le_of_eq (congrArg (fun a : Alarms => h a.gwPingStats a.announceStats) ht)
      · have hzero : tally h t = h ⟨0, 0⟩ ⟨0, 0⟩ :=
          congrArg (fun a : Alarms => h a.gwPingStats a.announceStats) ht
        rw [hzero, hh.none]
        exact Nat.zero_le _
    exact wp_mono _ _ s _ _ _ (resets_cases m s) (fun _ t => hreset t) (fun _ t => hreset t)

instance (sip dip : UInt32) : Adds (tally h) (arpSend env site sip dip) 0 := by
  unfold arpSend
  infer_instance

include hh in
/-- A packet that is counted once it is sent. -/
theorem adds_sent (sip dip : UInt32) (count : Sys → Sys) (q : Nat) (hcount : ∀ t, tally h (count t) ≤ tally h t + q) :
    Adds (tally h) (do
      let r ← arpSend env site sip dip
      if r < 0 then pure r
      else do
        modify count
        pure 0) q where
  ends s := by
    rw [wp_bind]
    refine wp_mono _ _ s _ _ _ (Adds.ends s) ?_ (fun _ t ht => Nat.le_trans ht (Nat.le_add_right _ _))
    intro r t ht
    rw [wp_ite]
    split
    · exact Nat.le_trans ht (Nat.le_add_right _ _)
    · exact Nat.le_trans (hcount t) (Nat.add_le_add_right ht q)

instance (testIp : UInt32) : Adds (tally h) (arpPing env site testIp) p where
  ends s := by
    unfold arpPing
    rw [wp_bind, wp_get]
    exact (adds_sent h p a env site _ _ _ p fun _ => hh.ping _ _ _).ends s

instance : Adds (tally h) (arpAnnouncement env site) a where
  ends s := by
    unfold arpAnnouncement
    rw [wp_bind, wp_get]
    exact (adds_sent h p a env site _ _ _ a fun _ => hh.announcement _ _ _).ends s

instance (replied : Bool) (testIp : UInt32) : Adds (tally h) (pingUnless env replied site testIp) p := by
  unfold pingUnless
  exact Adds.mono _ _ _ p (by omega)

instance : Adds (tally h) (gwHwaddrPings env) (2 * p) := by
  unfold gwHwaddrPings gwHwaddrRouter
  exact Adds.mono _ _ _ (2 * p) (by omega)

instance : Adds (tally h) (arpGetGwHwaddr env) (2 * p) := by
  unfold arpGetGwHwaddr
  exact Adds.mono _ _ _ (2 * p) (by omega)

instance : Adds (tally h) (arpQueryGatewayTimeout env nowts) (2 * p) := by
  unfold arpQueryGatewayTimeout arpQueryGateway
  exact Adds.mono _ _ _ (2 * p) (by omega)

instance : Adds (tally h) (arpGwQueryTimeout env nowts) (2 * p) := by
  unfold arpGwQueryTimeout
  exact Adds.mono _ _ _ (2 * p) (by omega)

instance : Adds (tally h) (arpGwCheckTimeout env nowts) (2 * p) := by
  unfold arpGwCheckTimeout
  exact Adds.mono _ _ _ (2 * p) (by omega)

instance : Adds (tally h) (arpAnnounceTimeout env nowts) a := by
  unfold arpAnnounceTimeout arpAnnounce
  exact Adds.mono _ _ _ a (by omega)

instance : Adds (tally h) (boundAnnounce env inp) a := by
  unfold boundAnnounce arpDefenseTimeout
  exact Adds.mono _ _ _ a (by omega)

instance : Adds (tally h) (gwLost env) 0 := by
  unfold gwLost
  exact Adds.mono _ _ _ 0 (by omega)

instance : Adds (tally h) (boundGwTimeout env inp) (2 * p) := by
  unfold boundGwTimeout
  exact Adds.mono _ _ _ (2 * p) (by omega)

instance : Adds (tally h) (gwQueryDone env) 0 := by
  unfold gwQueryDone
  exact Adds.mono _ _ _ 0 (by omega)

instance : Adds (tally h) (arpDoGwQuery env cfg) 0 := by
  unfold arpDoGwQuery gwQueryServer
  exact Adds.mono _ _ _ 0 (by omega)

instance : Adds (tally h) (boundGwQuery env cfg) 0 := by
  unfold boundGwQuery
  exact Adds.mono _ _ _ 0 (by omega)

instance : Resets (boundSignal env inp) := by
  unfold boundSignal xmitRelease frenew sendRelease sendRenew
  infer_instance

instance (packet : DhcpMsg) (msgtype : UInt8) : Resets (extendPacket env packet msgtype) := by
  unfold extendPacket arpSetDefenseMode stopDhcpListen
  infer_instance

instance : Resets (boundDhcp env cfg inp) := by
  unfold boundDhcp
  infer_instance

instance : Resets (toDefense env cfg inp) := by
  unfold toDefense
  infer_instance

end

/-! ## A call -/

/-- Where the timers are served, the stats are `p` and `q`, and both kinds of frames are paced. -/
structure Alarms.Paced (now : Int) (p q : ArpStats) (a : Alarms) : Prop where
  pings : a.PingsPaced now
  announcements : a.AnnouncementsPaced now
  pinged : a.gwPingStats = p
  announced : a.announceStats = q

section
variable (env : Env) (cfg : ClientConfig) (inp : Input) (now : Int)

/-- A stage sends at most `n` frames, and may. -/
theorem wp_modest {α : Type} (f : Sys → ArpStats) (n : Nat) (nowts : Int) (m : M α) (u : Sys)
    (hadds : wp m (fun _ t => (f t).count.toNat ≤ (f u).count.toNat + n)
      (fun _ t => (f t).count.toNat ≤ (f u).count.toNat + n) u)
    (hcount : 0 ≤ (f u).count) (hapart : (f u).count ≠ 0 → (f u).ts + ARP_RETRANS_DELAY ≤ nowts) :
    wp m (fun _ t => Modest n nowts (f u) (f t)) (fun _ t => Modest n nowts (f u) (f t)) u := by
  have hfew : ∀ t, (f t).count.toNat ≤ (f u).count.toNat + n → Modest n nowts (f u) (f t) :=
    fun t ht => ⟨by omega, fun _ => hapart⟩
  exact wp_mono _ _ u _ _ _ hadds (fun _ t => hfew t) (fun _ t => hfew t)

theorem boundGwTimeout_modest (u : Sys) (hs : (alarms u).PingsPaced now) :
    wp (boundGwTimeout env inp) (fun _ t => Modest 2 inp.nowts u.garp.gwPingStats t.garp.gwPingStats)
      (fun _ t => Modest 2 inp.nowts u.garp.gwPingStats t.garp.gwPingStats) u := by
  have hsame : Modest 2 inp.nowts u.garp.gwPingStats u.garp.gwPingStats := .refl 2 _ (by decide) _
  -- if a timer is due, two pings may go out
  have hdue := wp_modest (fun s => s.garp.gwPingStats) 2 inp.nowts (boundGwTimeout env inp) u
    (Adds.ends (c := tally fun x _ => x.count.toNat) u) hs.count
  by_cases hsent : u.cs.sentGwQuery = true
  · by_cases hearly : inp.nowts < u.garp.gwPingStats.ts + ARP_RETRANS_DELAY
    · unfold boundGwTimeout arpGwQueryTimeout
      rw [wp_bind, wp_get, wp_ite, if_neg (by simp [hsent]), wp_ite]
      split
      · rw [wp_bind, wp_bind, wp_get, wp_ite, if_pos hearly]
        exact hsame
      · have hcheck : ¬ u.cs.checkFingerprint = true := fun h => nomatch hs.check.symm.trans h
        rw [wp_ite, if_neg hcheck]
        exact hsame
    · exact hdue fun _ => Int.not_lt.mp hearly
  · have hsent : u.cs.sentGwQuery = false := Bool.eq_false_iff.mpr hsent
    by_cases hrest : u.garp.wakeTs.queryGwSend = -1 ∨ inp.nowts < u.garp.wakeTs.queryGwSend
    · unfold boundGwTimeout arpQueryGatewayTimeout
      rw [wp_bind, wp_get, wp_ite, if_pos (by simp [hsent]), wp_bind, wp_bind, wp_get, wp_ite]
      split
      · exact hsame
      · next harmed =>
        rw [wp_ite, if_pos (hrest.resolve_left harmed)]
        exact hsame
    · rw [not_or, Int.not_lt] at hrest
      exact hdue fun hsome => ((hs.query hsent hsome).resolve_left hrest.1).trans hrest.2

theorem boundAnnounce_modest (u : Sys) (hs : (alarms u).AnnouncementsPaced now) :
    wp (boundAnnounce env inp)
      (fun _ t => Modest 1 inp.nowts u.garp.announceStats t.garp.announceStats ∧ t.garp.announceStats.count ≤ 2)
      (fun _ t => Modest 1 inp.nowts u.garp.announceStats t.garp.announceStats ∧ t.garp.announceStats.count ≤ 2) u := by
  have hsame : Modest 1 inp.nowts u.garp.announceStats u.garp.announceStats := .refl 1 _ (by decide) _
  have hoff : ¬ u.garp.wakeTs.defense ≠ -1 := fun h => h hs.defense
  -- a first or second announcement may go out
  have hdue : 0 ≤ u.garp.announceStats.count → u.garp.announceStats.count ≤ 1 →
      (u.garp.announceStats.count ≠ 0 → u.garp.announceStats.ts + ARP_RETRANS_DELAY ≤ inp.nowts) →
      wp (boundAnnounce env inp)
        (fun _ t => Modest 1 inp.nowts u.garp.announceStats t.garp.announceStats ∧ t.garp.announceStats.count ≤ 2)
        (fun _ t => Modest 1 inp.nowts u.garp.announceStats t.garp.announceStats ∧ t.garp.announceStats.count ≤ 2)
        u := by
    intro hcount hone hapart
    have hmodest := wp_modest (fun s => s.garp.announceStats) 1 inp.nowts (boundAnnounce env inp) u
      (Adds.ends (c := tally fun _ y => y.count.toNat) u) hcount hapart
    have hfew : ∀ t : Sys, Modest 1 inp.nowts u.garp.announceStats t.garp.announceStats →
        t.garp.announceStats.count ≤ 2 := fun t ht => ht.few.trans (by omega)
    exact wp_mono _ _ u _ _ _ hmodest (fun _ t ht => ⟨ht, hfew t ht⟩) (fun _ t ht => ⟨ht, hfew t ht⟩)
  cases hs.progress with
  | none _ _ hcount =>
    have hcount : u.garp.announceStats.count = 0 := hcount
    exact hdue (by omega) (by omega) fun h => absurd hcount h
  | one h₁ h₂ hcount hnext =>
    have hcount : u.garp.announceStats.count = 1 := hcount
    by_cases hrest : u.garp.wakeTs.announce = -1 ∨ inp.nowts < u.garp.wakeTs.announce
    · have hnot : ¬ (u.cs.sentFirstAnnounce = true ∧ u.cs.sentSecondAnnounce = true) :=
        fun h => nomatch h₂.symm.trans h.2
      unfold boundAnnounce arpAnnounceTimeout
      rw [wp_bind, wp_get, wp_ite, if_neg hnot, wp_bind, wp_bind, wp_get, wp_ite]
      split
      · exact ⟨hsame, by omega⟩
      · next harmed =>
        rw [wp_ite, if_pos (hrest.resolve_left harmed)]
        exact ⟨hsame, by omega⟩
    · rw [not_or, Int.not_lt] at hrest
      exact hdue (by omega) (by omega) fun _ => (hnext.resolve_left hrest.1).trans hrest.2
  | both h₁ h₂ hcount =>
    have hcount : u.garp.announceStats.count = 2 := hcount
    unfold boundAnnounce arpDefenseTimeout
    rw [wp_bind, wp_get, wp_ite, if_pos ⟨h₁, h₂⟩, wp_bind, wp_bind, wp_get, wp_ite, if_neg hoff]
    exact ⟨hsame, by omega⟩

/-! ### Up to the timers -/

/-- Not more frames were sent than `p` and `q` say, and if the pass returns, just these. -/
def Silent (p q : ArpStats) (e : Stop) (t : Sys) : Prop :=
  (t.garp.gwPingStats.count ≤ p.count ∧ t.garp.announceStats.count ≤ q.count) ∧
    Returning (fun t => (alarms t).Paced now p q) e t

theorem Alarms.AnnouncementsPaced.count (a : Alarms) (h : a.AnnouncementsPaced now) :
    0 ≤ a.announceStats.count := by
  cases h.progress <;> omega

section
variable (p q : ArpStats) (s : Sys) (hs : (alarms s).Paced now p q)
include hs

theorem Alarms.Paced.counts : 0 ≤ p.count ∧ 0 ≤ q.count := by
  obtain ⟨hpings, hannouncements, rfl, rfl⟩ := hs
  exact ⟨hpings.count, hannouncements.count now _⟩

theorem toDefense_silent :
    wp (toDefense env cfg inp) (fun _ t => (alarms t).Paced now p q ∧ peers t = peers s)
      (Silent now p q) s := by
  obtain ⟨hp, hq⟩ := hs.counts now p q s
  have hkeeps : Routine alarms OnReturn (toDefense env cfg inp) := by
    unfold toDefense
    infer_instance
  have hpeers : Routine peers OnReturn (toDefense env cfg inp) := by
    unfold toDefense
    infer_instance
  apply wp_mono _ _ s _ _ _ (wp_and _ _ s _ _ _ (hkeeps.ends s)
    (wp_and _ _ s _ _ _ (hpeers.ends s) (resets_cases (toDefense env cfg inp) s)))
  · rintro _ t ⟨ht, hpeers, -⟩
    exact ⟨ht ▸ hs, hpeers⟩
  · rintro e t ⟨ht, -, hreset⟩
    have hret : Returning (fun t => (alarms t).Paced now p q) e t := by
      intro code he
      have ht : alarms t = alarms s := ht code he
      show (alarms t).Paced now p q
      rw [ht]
      exact hs
    refine ⟨?_, hret⟩
    rcases hreset with ht | ht
    · have hpaced : (alarms t).Paced now p q := ht ▸ hs
      exact ⟨Int.le_of_eq (congrArg ArpStats.count hpaced.pinged),
        Int.le_of_eq (congrArg ArpStats.count hpaced.announced)⟩
    · have hpings : t.garp.gwPingStats = ⟨0, 0⟩ := congrArg Alarms.gwPingStats ht
      have hannounced : t.garp.announceStats = ⟨0, 0⟩ := congrArg Alarms.announceStats ht
      rw [hpings, hannounced]
      exact ⟨hp, hq⟩

theorem boundGwQuery_silent :
    wp (boundGwQuery env cfg) (fun _ t => (alarms t).Paced now p q) (Silent now p q) s := by
  obtain ⟨hp, hq⟩ := hs.counts now p q s
  have hpinged : s.garp.gwPingStats = p := hs.pinged
  have hannounced : s.garp.announceStats = q := hs.announced
  have hlearn : ∀ b, Learns (alarms s) b → b.Paced now p q := by
    rintro b ⟨router, server, timer, rfl, -⟩
    exact ⟨⟨hs.pings.check, hs.pings.count, hs.pings.past, hs.pings.query⟩,
      hs.announcements.queried now _ _ _ _ _ _ _ _, hs.pinged, hs.announced⟩
  apply wp_mono _ _ s _ _ _ (wp_and _ _ s _ _ _ (boundGwQuery_rule env cfg _ s hlearn) (wp_and _ _ s _ _ _
    (Adds.ends (c := tally fun x _ => x.count.toNat) (m := boundGwQuery env cfg) s)
    (Adds.ends (c := tally fun _ y => y.count.toNat) (m := boundGwQuery env cfg) s)))
  · exact fun _ _ h => h.1
  · rintro e t ⟨hret, hpings, hannouncements⟩
    have hpings : t.garp.gwPingStats.count.toNat ≤ s.garp.gwPingStats.count.toNat + 0 := hpings
    have hannouncements : t.garp.announceStats.count.toNat ≤ s.garp.announceStats.count.toNat + 0 := hannouncements
    rw [hpinged] at hpings
    rw [hannounced] at hannouncements
    exact ⟨⟨by omega, by omega⟩, hret⟩

variable (hpeace : inp.sevArp = true → ¬ (peers s).Conflicting cfg)
include hpeace

theorem boundArp_silent :
    wp (boundArp env cfg inp) (fun _ t => (alarms t).Paced now p q) (Silent now p q) s := by
  unfold boundArp
  rw [wp_ite]
  split
  · next harp =>
    have hvalid : arpValidateBpfDefense s.cs.clientAddr cfg.arp s.garp.reply = 0 := not_not.mp (hpeace harp)
    have hcheck : ¬ s.cs.checkFingerprint = true := fun h => nomatch hs.pings.check.symm.trans h
    unfold boundDefense arpDoDefense
    rw [wp_bind, wp_bind, wp_bind, wp_get, wp_ite, if_pos hvalid, wp_pure, wp_ite, if_pos rfl, wp_pure,
      wp_bind, wp_get, wp_ite]
    split
    · exact boundGwQuery_silent env cfg now p q s hs
    · exact hs
  · exact hs

theorem toTimers_silent :
    wp (toTimers env cfg inp) (fun _ t => (alarms t).Paced now p q) (Silent now p q) s := by
  unfold toTimers
  rw [wp_bind]
  apply wp_mono _ _ s _ _ _ (toDefense_silent env cfg inp now p q s hs) ?_ (fun _ _ h => h)
  rintro _ t ⟨ht, hpeers⟩
  exact boundArp_silent env cfg inp now p q t ht (hpeers ▸ hpeace)

end

end

/-! ### The timers -/

/-- How many frames a call has sent. -/
structure Bounded (nowts : Int) (p q : ArpStats) (t : Sys) : Prop where
  pings : Modest 2 nowts p t.garp.gwPingStats
  announcements : Modest 1 nowts q t.garp.announceStats
  total : t.garp.announceStats.count ≤ 2

/-- The call returns with what paces the next. -/
structure GoesOn (later : Int) (p q : ArpStats) (a : Alarms) : Prop where
  pings : Advances 2 p a.gwPingStats
  announcements : Advances 1 q a.announceStats
  pingsPaced : a.PingsPaced later
  announcementsPaced : a.AnnouncementsPaced later

section
variable (now later : Int) (h : now ≤ later) (a : Alarms)
include h

theorem Alarms.PingsPaced.mono (ha : a.PingsPaced now) : a.PingsPaced later :=
  ⟨ha.check, ha.count, fun hsome => (ha.past hsome).trans h, ha.query⟩

theorem Alarms.AnnouncementsPaced.mono (ha : a.AnnouncementsPaced now) : a.AnnouncementsPaced later :=
  ⟨ha.defense, fun hsome => (ha.past hsome).trans h, ha.progress⟩

theorem Alarms.Paced.goesOn (p q : ArpStats) (ha : a.Paced now p q) : GoesOn later p q a := by
  obtain ⟨hpings, hannouncements, rfl, rfl⟩ := ha
  exact ⟨.refl 2 (by decide) _, .refl 1 (by decide) _, hpings.mono now later h a, hannouncements.mono now later h a⟩

end

theorem Alarms.AnnouncementsPaced.total (now : Int) (a : Alarms) (h : a.AnnouncementsPaced now) :
    a.announceStats.count ≤ 2 := by
  cases h.progress <;> omega

/-- Nothing more was sent. -/
theorem Bounded.of_le (nowts : Int) (p q : ArpStats) (t : Sys) (hpings : t.garp.gwPingStats.count ≤ p.count)
    (hannouncements : t.garp.announceStats.count ≤ q.count) (htotal : q.count ≤ 2) : Bounded nowts p q t :=
  ⟨.of_le 2 nowts p p _ (.refl 2 nowts (by decide) p) hpings,
    .of_le 1 nowts q q _ (.refl 1 nowts (by decide) q) hannouncements, Int.le_trans hannouncements htotal⟩

section
variable (env : Env) (cfg : ClientConfig) (inp : Input) (now later : Int)
variable (hclock : Reads env inp.nowts now later) (p q : ArpStats) (s : Sys)

/-- Where the announcements were served: the pings are still to come. -/
structure AnnouncementsServed (t : Sys) : Prop where
  pings : (alarms t).PingsPaced now
  pinged : t.garp.gwPingStats = p
  modest : Modest 1 inp.nowts q t.garp.announceStats
  announcements : Advances 1 q t.garp.announceStats
  announcementsPaced : (alarms t).AnnouncementsPaced later

include hclock

theorem boundGwTimeout_bounded (hs : AnnouncementsServed inp now later p q s) :
    wp (boundGwTimeout env inp) (fun _ u => Bounded inp.nowts p q u ∧ GoesOn later p q (alarms u))
      (fun e u => Bounded inp.nowts p q u ∧ Returning (fun u => GoesOn later p q (alarms u)) e u) s := by
  obtain ⟨hpings, rfl, hmodest, hadvances, hpaced⟩ := hs
  have hcount : 0 ≤ s.garp.announceStats.count := hpaced.count later _
  have htotal : s.garp.announceStats.count ≤ 2 := hpaced.total later _
  have hbounded : ∀ u : Sys, Modest 2 inp.nowts s.garp.gwPingStats u.garp.gwPingStats →
      u.garp.announceStats.count.toNat ≤ s.garp.announceStats.count.toNat + 2 * 0 →
      Bounded inp.nowts s.garp.gwPingStats q u := by
    intro u hu hfew
    have hfew : u.garp.announceStats.count ≤ s.garp.announceStats.count := by omega
    exact ⟨hu, hmodest.of_le 1 _ _ _ _ hfew, Int.le_trans hfew htotal⟩
  have hgoes : ∀ r b, GwTimers env inp.nowts s r b → GoesOn later s.garp.gwPingStats q b := by
    intro r b hb
    obtain ⟨hping, hpinged⟩ := hb.paced env inp.nowts now later hclock s r b hpings
    obtain ⟨hannounce, hsame⟩ := hb.announcementsPaced env inp.nowts later s r b hpaced
    exact ⟨hping, hsame ▸ hadvances, hpinged, hannounce⟩
  apply wp_mono _ _ s _ _ _ (wp_and _ _ s _ _ _ (boundGwTimeout_modest env inp now s hpings) (wp_and _ _ s _ _ _
    (Adds.ends (c := tally fun _ y => y.count.toNat) (m := boundGwTimeout env inp) s)
    (boundGwTimeout_alarms env inp s)))
  · rintro _ u ⟨hmodest, hfew, hu⟩
    exact ⟨hbounded u hmodest hfew, hgoes .ok _ hu⟩
  · rintro e u ⟨hmodest, hfew, hu⟩
    exact ⟨hbounded u hmodest hfew, fun code he => hgoes .fail _ (hu code he)⟩

variable (hs : (alarms s).Paced now p q)
include hs

theorem boundArpTimeout_bounded :
    wp (boundArpTimeout env inp) (fun _ u => Bounded inp.nowts p q u ∧ GoesOn later p q (alarms u))
      (fun e u => Bounded inp.nowts p q u ∧ Returning (fun u => GoesOn later p q (alarms u)) e u) s := by
  have hgoes := hs.goesOn now later (hclock.now_le env inp.nowts now later) _ p q
  obtain ⟨hpings, hannouncements, rfl, rfl⟩ := hs
  have htotal : s.garp.announceStats.count ≤ 2 := hannouncements.total now _
  have hcount : 0 ≤ s.garp.gwPingStats.count := hpings.count
  unfold boundArpTimeout
  rw [wp_ite]
  split
  · rw [wp_bind]
    apply wp_mono _ _ s _ _ _ (wp_and _ _ s _ _ _ (boundAnnounce_modest env inp now s hannouncements)
      (wp_and _ _ s _ _ _ (boundAnnounce_alarms env inp s) (wp_and _ _ s _ _ _
        (Adds.ends (c := tally fun x _ => x.count.toNat) (m := boundAnnounce env inp) s)
        (Routine.ends (f := core) (X := Dies) (m := boundAnnounce env inp) s))))
    · rintro _ t ⟨⟨hmodest, -⟩, ht, -, -⟩
      obtain ⟨hadvances, hpaced⟩ := ht.paced env inp.nowts now later hclock _ _ hannouncements
      obtain ⟨hping, hpinged⟩ := ht.pingsPaced env inp.nowts now _ _ hpings
      exact boundGwTimeout_bounded env inp now later hclock _ _ t ⟨hping, hpinged, hmodest, hadvances, hpaced⟩
    · rintro e t ⟨⟨hmodest, htotal⟩, -, hfew, hexit, -⟩
      have hfew : t.garp.gwPingStats.count.toNat ≤ s.garp.gwPingStats.count.toNat + 0 := hfew
      have hle : t.garp.gwPingStats.count ≤ s.garp.gwPingStats.count := by omega
      refine ⟨⟨.of_le 2 _ _ _ _ (.refl 2 _ (by decide) _) hle, hmodest, htotal⟩, fun code he => ?_⟩
      exact nomatch hexit.symm.trans he
  · exact ⟨.of_le _ _ _ s (Int.le_refl _) (Int.le_refl _) htotal, hgoes⟩

theorem toIfup_bounded (hpeace : inp.sevArp = true → ¬ (peers s).Conflicting cfg) :
    wp (toIfup env cfg inp) (fun _ u => Bounded inp.nowts p q u ∧ GoesOn later p q (alarms u))
      (fun e u => Bounded inp.nowts p q u ∧ Returning (fun u => GoesOn later p q (alarms u)) e u) s := by
  have htotal : q.count ≤ 2 := hs.announced ▸ hs.announcements.total now _
  unfold toIfup
  rw [wp_bind]
  apply wp_mono _ _ s _ _ _ (toTimers_silent env cfg inp now p q s hs hpeace)
  · exact fun _ t ht => boundArpTimeout_bounded env inp now later hclock p q t ht
  · rintro e t ⟨⟨hpings, hannouncements⟩, hret⟩
    exact ⟨.of_le _ _ _ t hpings hannouncements htotal,
      fun code he => (hret code he).goesOn now later (hclock.now_le env inp.nowts now later) _ p q⟩

end

end Ndhc
