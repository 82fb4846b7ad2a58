import Ndhc.Client.Pacing

/-!
# Pings and announcements do not flood

A `Burst` is what a call sends of pings, or of announcements.  From the call that takes a lease until
the phase is over, two bursts are ARP_RETRANS_DELAY apart, no call sends more than two pings, and
the lease is announced twice at most (`frames_paced`).
-/

namespace Ndhc

open Prog

/-! ## Bursts -/

/-- What a call sends of pings, or of announcements: how many, when the call began, which is no later
than its first frame, and when the last frame was sent. -/
structure Burst where
  count : Int
  start : Int
  last : Int
  deriving DecidableEq

@[reducible] def pings (s : Sys) : ArpStats := s.garp.gwPingStats

@[reducible] def announcements (s : Sys) : ArpStats := s.garp.announceStats

/-- The frames sent between two counts. -/
def burst (nowts : Int) (p q : ArpStats) : List Burst :=
  if p.count < q.count then [⟨q.count - p.count, nowts, q.ts⟩] else []

/-- `y` begins ARP_RETRANS_DELAY after the last frame of `x`, or later. -/
def Burst.Apart (x y : Burst) : Prop := x.last + ARP_RETRANS_DELAY ≤ y.start

/-- Bursts of at most `n` frames that follow on `p`. -/
structure Spread (n : Int) (p : ArpStats) (ys : List Burst) : Prop where
  few : ∀ y ∈ ys, 0 < y.count ∧ y.count ≤ n
  after : p.count ≠ 0 → ∀ y ∈ ys, p.ts + ARP_RETRANS_DELAY ≤ y.start
  apart : ys.Pairwise Burst.Apart

theorem Spread.nil (n : Int) (p : ArpStats) : Spread n p [] := ⟨nofun, fun _ => nofun, .nil⟩

theorem Spread.cons (n nowts : Int) (p q : ArpStats) (ys : List Burst) (hp : 0 ≤ p.count)
    (hmodest : Modest n nowts p q) (hrest : ys = [] ∨ (Advances n p q ∧ Spread n q ys)) :
    Spread n p (burst nowts p q ++ ys) := by
  have hafter : p.count ≠ 0 → ∀ y ∈ ys, p.ts + ARP_RETRANS_DELAY ≤ y.start := by
    intro hsome y hy
    rcases hrest with rfl | ⟨hadvances, hys⟩
    · cases hy
    · have hlater := hadvances.later hsome
      have hkept := hadvances.kept
      have hstart := hys.after (by omega) y hy
      omega
  have hys : Spread n p ys := by
    rcases hrest with rfl | ⟨-, hys⟩
    · exact .nil n p
    · exact ⟨hys.few, hafter, hys.apart⟩
  unfold burst
  split
  · next hlt =>
    have hfew := hmodest.few
    refine ⟨?_, ?_, ?_⟩
    · intro y hy
      rcases List.mem_cons.mp hy with rfl | hy
      · exact ⟨Int.sub_pos.mpr hlt, by show q.count - p.count ≤ n; omega⟩
      · exact hys.few y hy
    · intro hsome y hy
      rcases List.mem_cons.mp hy with rfl | hy
      · exact hmodest.apart hlt hsome
      · exact hafter hsome y hy
    · refine List.pairwise_cons.mpr ⟨fun y hy => ?_, hys.apart⟩
      rcases hrest with rfl | ⟨-, hrest⟩
      · cases hy
      · exact hrest.after (by omega) y hy
  · exact hys

/-- No more than two frames are sent in all. -/
theorem burst_total (nowts : Int) (p q : ArpStats) (ys : List Burst) (hp : 0 ≤ p.count) (hq : q.count ≤ 2)
    (hrest : ys = [] ∨ (p.count ≤ q.count ∧ q.count + ys.length ≤ 2)) (hpq : p.count ≤ 2) :
    p.count + (burst nowts p q ++ ys).length ≤ 2 := by
  unfold burst
  split
  · rcases hrest with rfl | ⟨hkept, hrest⟩
    · simp only [List.append_nil, List.length_singleton]
      omega
    · simp only [List.cons_append, List.nil_append, List.length_cons]
      omega
  · rcases hrest with rfl | ⟨hkept, hrest⟩
    · simp only [List.append_nil, List.length_nil]
      omega
    · simp only [List.nil_append]
      omega

/-! ## Runs -/

section
variable (cfg : ClientConfig)

/-- The state of a call once its frames were sent: in the phase this is before the lease timer, which
may end the phase and clear the stats. -/
def served (env : Env) (inp : Input) (s : Sys) : Sys :=
  if s.pc = .bound then final (toIfup env cfg inp) { s with out := [] } else final (dhcpHandle env cfg inp) s

/-- Only calls of `dhcp_handle` send. -/
def Step.burst (stats : Sys → ArpStats) : Step → Sys → List Burst
  | .handle env inp, s => Ndhc.burst inp.nowts (stats s) (stats (served cfg env inp s))
  | _, _ => []

/-- The bursts of a run. -/
def bursts (stats : Sys → ArpStats) : List Step → Sys → List Burst
  | [], _ => []
  | st :: steps, s => st.burst cfg stats s ++ bursts stats steps (st.next cfg s)

/-- The carrier does not return, and no ARP frame is a conflict. -/
def Step.Peaceful : Step → Sys → Prop
  | .handle _ inp, s => inp.forceFingerprint = false ∧ (inp.sevArp = true → ¬ (peers s).Conflicting cfg)
  | _, _ => True

/-- From `now` on the clock does not go back. -/
def ClockRuns : List Step → Int → Prop
  | [], _ => True
  | .handle env inp :: steps, now => ∃ later, Reads env inp.nowts now later ∧ ClockRuns steps later
  | _ :: steps, now => ClockRuns steps now

/-- The frames of a run are paced. -/
structure Flows (steps : List Step) (s : Sys) : Prop where
  pinged : Spread 2 (pings s) (bursts cfg pings steps s)
  announced : Spread 1 (announcements s) (bursts cfg announcements steps s)
  total : (announcements s).count + (bursts cfg announcements steps s).length ≤ 2

/-- A call, and what follows on it if it stays in the phase. -/
theorem Flows.call (env : Env) (inp : Input) (steps : List Step) (s : Sys) (later : Int)
    (hpings : 0 ≤ (pings s).count) (hannouncements : 0 ≤ (announcements s).count)
    (hsent : (announcements s).count ≤ 2)
    (hbounded : Bounded inp.nowts (pings s) (announcements s) (served cfg env inp s))
    (hrest : steps = [] ∨
      (alarms (final (dhcpHandle env cfg inp) s) = alarms (served cfg env inp s) ∧
        GoesOn later (pings s) (announcements s) (alarms (served cfg env inp s)) ∧
        Flows cfg steps (final (dhcpHandle env cfg inp) s))) :
    Flows cfg (.handle env inp :: steps) s := by
  rcases hrest with rfl | ⟨hsame, hgoes, hflows⟩
  · exact ⟨.cons 2 inp.nowts _ _ [] hpings hbounded.pings (Or.inl rfl),
      .cons 1 inp.nowts _ _ [] hannouncements hbounded.announcements (Or.inl rfl),
      burst_total inp.nowts _ _ [] hannouncements hbounded.total (Or.inl rfl) hsent⟩
  · have hpinged : pings (final (dhcpHandle env cfg inp) s) = pings (served cfg env inp s) :=
      congrArg Alarms.gwPingStats hsame
    have hannounced : announcements (final (dhcpHandle env cfg inp) s) =
        announcements (served cfg env inp s) := congrArg Alarms.announceStats hsame
    obtain ⟨hping, hannounce, htotal⟩ := hflows
    rw [hpinged] at hping
    rw [hannounced] at hannounce htotal
    exact ⟨.cons 2 inp.nowts _ _ _ hpings hbounded.pings (Or.inr ⟨hgoes.pings, hping⟩),
      .cons 1 inp.nowts _ _ _ hannouncements hbounded.announcements (Or.inr ⟨hgoes.announcements, hannounce⟩),
      burst_total inp.nowts _ _ _ hannouncements hbounded.total (Or.inr ⟨hgoes.announcements.kept, htotal⟩) hsent⟩

/-- A call of the phase. -/
theorem dhcpHandle_paced (env : Env) (inp : Input) (s : Sys) (now later : Int)
    (hclock : Reads env inp.nowts now later) (hpc : s.pc = .bound) (hpings : (alarms s).PingsPaced now)
    (hannouncements : (alarms s).AnnouncementsPaced now) (hpeace : (Step.handle env inp).Peaceful cfg s) :
    Bounded inp.nowts (pings s) (announcements s) (served cfg env inp s) ∧
      ((final (dhcpHandle env cfg inp) s).pc = .bound →
        alarms (final (dhcpHandle env cfg inp) s) = alarms (served cfg env inp s) ∧
        GoesOn later (pings s) (announcements s) (alarms (served cfg env inp s))) := by
  have hserved : served cfg env inp s = final (toIfup env cfg inp) { s with out := [] } := if_pos hpc
  rw [hserved]
  have hpass := toIfup_bounded env cfg inp now later hclock (pings s) (announcements s) { s with out := [] }
    ⟨hpings, hannouncements, rfl, rfl⟩ hpeace.2
  constructor
  · exact final_of_wp _ _ _ (wp_mono _ _ _ _ _ _ hpass (fun _ _ h => h.1) (fun _ _ h => h.1))
  · apply bound_stays env cfg inp (fun t => alarms t = alarms (final (toIfup env cfg inp) { s with out := [] }) ∧
      GoesOn later (pings s) (announcements s) (alarms (final (toIfup env cfg inp) { s with out := [] }))) s hpc
    rw [wp_toIfup]
    apply wp_mono _ _ _ _ _ _ (wp_and _ _ _ _ _ _ (wp_final (toIfup env cfg inp) { s with out := [] }) hpass)
    · rintro _ t ⟨rfl, -, hgoes⟩
      unfold boundIfup
      rw [wp_bind, wp_ite, if_neg (by rw [hpeace.1]; decide), wp_pure]
      apply wp_mono _ _ _ _ _ _ (Routine.ends (f := alarms) (X := OnReturn) (m := boundTimer env inp) _)
        (fun _ _ _ => trivial)
      exact fun e u hu code he => ⟨hu code he, hgoes⟩
    · rintro e t ⟨rfl, -, hgoes⟩ code he
      exact ⟨rfl, hgoes code he⟩

theorem Step.burst_of_read (stats : Sys → ArpStats) (st : Step) (s : Sys) (h : ∀ env inp, st ≠ .handle env inp) :
    st.burst cfg stats s = [] := by
  cases st with
  | idle => rfl
  | exit => rfl
  | arp => rfl
  | dhcp => rfl
  | handle env inp => exact absurd rfl (h env inp)

omit cfg in
theorem clockRuns_of_read (st : Step) (steps : List Step) (now : Int) (h : ∀ env inp, st ≠ .handle env inp)
    (hclock : ClockRuns (st :: steps) now) : ClockRuns steps now := by
  cases st with
  | idle => exact hclock
  | exit => exact hclock
  | arp => exact hclock
  | dhcp => exact hclock
  | handle env inp => exact absurd rfl (h env inp)

/-- Nothing is sent. -/
theorem Flows.nil (s : Sys) (hsent : (announcements s).count ≤ 2) : Flows cfg [] s where
  pinged := .nil 2 _
  announced := .nil 1 _
  total := by
    show (announcements s).count + 0 ≤ 2
    omega

/-- The same bursts follow on the same stats. -/
theorem Flows.congr (steps steps' : List Step) (s s' : Sys) (hsame : alarms s' = alarms s)
    (hbursts : ∀ stats, bursts cfg stats steps s = bursts cfg stats steps' s') (h : Flows cfg steps' s') :
    Flows cfg steps s := by
  have hpinged : pings s = pings s' := congrArg Alarms.gwPingStats hsame.symm
  have hannounced : announcements s = announcements s' := congrArg Alarms.announceStats hsame.symm
  constructor
  · rw [hpinged, hbursts]
    exact h.pinged
  · rw [hannounced, hbursts]
    exact h.announced
  · rw [hannounced, hbursts]
    exact h.total

/-- **While a lease is held, the frames of a run are paced.** -/
theorem phase_flows (steps : List Step) (s : Sys) (now : Int) (hpings : (alarms s).PingsPaced now)
    (hannouncements : (alarms s).AnnouncementsPaced now)
    (hphase : Along cfg (fun st s => s.pc = .bound ∧ st.Peaceful cfg s) steps s) (hclock : ClockRuns steps now) :
    Flows cfg steps s := by
  induction steps generalizing s now with
  | nil => exact .nil cfg s (hannouncements.total now _)
  | cons st steps ih =>
    obtain ⟨⟨hpc, hpeace⟩, hrest⟩ := hphase
    have hstays : steps = [] ∨ (st.next cfg s).pc = .bound := by
      cases steps with
      | nil => exact Or.inl rfl
      | cons st' steps => exact Or.inr hrest.1.1
    rcases st.read_or_call with hread | ⟨env, inp, rfl⟩
    · have hnone : ∀ stats, bursts cfg stats (st :: steps) s = bursts cfg stats steps (st.next cfg s) := by
        intro stats
        show st.burst cfg stats s ++ _ = _
        rw [st.burst_of_read cfg stats s hread, List.nil_append]
      rcases hstays with rfl | hb
      · exact .congr cfg [st] [] s s rfl hnone (.nil cfg s (hannouncements.total now _))
      · have hsame := st.alarms_of_read cfg s hread fun h => nomatch hb.symm.trans h
        exact .congr cfg (st :: steps) steps s _ hsame hnone
          (ih _ now (hsame ▸ hpings) (hsame ▸ hannouncements) hrest (clockRuns_of_read st steps now hread hclock))
    · obtain ⟨later, hreads, hclock⟩ := hclock
      obtain ⟨hbounded, hnext⟩ := dhcpHandle_paced cfg env inp s now later hreads hpc hpings hannouncements hpeace
      apply Flows.call cfg env inp steps s later hpings.count (hannouncements.count now _)
        (hannouncements.total now _) hbounded
      refine hstays.imp_right fun hb => ?_
      obtain ⟨hsame, hgoes⟩ := hnext hb
      have hsame' : alarms ((Step.handle env inp).next cfg s) = alarms (served cfg env inp s) := hsame
      exact ⟨hsame, hgoes, ih _ later (hsame' ▸ hgoes.pingsPaced) (hsame' ▸ hgoes.announcementsPaced) hrest hclock⟩

/-! ## Taking a lease -/

/-- What the call that takes the lease sends. -/
theorem take_goesOn (env : Env) (inp : Input) (s : Sys) (hout : alarms s = noAlarms) (now later : Int)
    (hclock : Reads env inp.nowts now later) (hlease : ¬ InLease s)
    (hb : (final (dhcpHandle env cfg inp) s).pc = .bound) :
    GoesOn later (pings s) (announcements s) (alarms (final (dhcpHandle env cfg inp) s)) := by
  have hpings : pings s = ⟨0, 0⟩ := congrArg Alarms.gwPingStats hout
  have hannouncements : announcements s = ⟨0, 0⟩ := congrArg Alarms.announceStats hout
  rw [hpings, hannouncements]
  have hnone : noAlarms.Paced now ⟨0, 0⟩ ⟨0, 0⟩ :=
    ⟨⟨rfl, Int.le_refl _, fun h => absurd rfl h, fun _ h => absurd rfl h⟩,
      ⟨rfl, fun h => absurd rfl h, .none rfl rfl rfl⟩, rfl, rfl⟩
  revert hb
  apply dhcpHandle_reset_rule env cfg inp id
    (fun t => t.pc = .bound → GoesOn later ⟨0, 0⟩ ⟨0, 0⟩ (alarms t)) ?_ s (Or.inl hout)
  · exact fun t h hb => nomatch h.symm.trans hb
  · intro u hu
    apply bindTail_alarms env _ (fun t h hb => nomatch h.symm.trans hb) u hu
    intro a b t ha hb _ ht _
    obtain ⟨hping, hpings⟩ := ha.paced env inp.nowts now later hclock _ a hnone.pings
    obtain ⟨hannounced, hsame⟩ := ha.announcementsPaced env now _ a hnone.announcements
    obtain ⟨hannounce, hpaced⟩ := hb.paced env inp.nowts now later hclock a b hannounced
    obtain ⟨hpinged, hsame'⟩ := hb.pingsPaced env later a b hpings
    have hsame : a.announceStats = ⟨0, 0⟩ := hsame
    rw [hsame] at hannounce
    rw [ht]
    exact ⟨hsame' ▸ hping, hannounce, hpinged, hpaced⟩
  · exact fun hpc => absurd (Or.inl hpc) hlease
  · intro t ht _
    have ht : alarms t = noAlarms := ht
    rw [ht]
    exact hnone.goesOn now later (hclock.now_le env inp.nowts now later) _ _ _

/-- A client that is dead stays so. -/
theorem Step.alive (st : Step) (s : Sys) (hb : (st.next cfg s).pc = .bound) : s.pc ≠ .dead := by
  rcases st.read_or_call with hread | ⟨env, inp, rfl⟩
  · exact st.alive_of_read cfg s hread fun h => nomatch hb.symm.trans h
  · intro hdead
    apply final_of_wp (dhcpHandle env cfg inp) s (fun t => ¬ InLease t) ?_ (Or.inl hb)
    exact wp_mono _ _ s _ _ _ (idle_call env cfg inp s (Or.inr (Or.inr hdead))) (fun _ _ h => h.elim)
      (fun e t h => h.not_inLease _ e t)

/-- The first lease is taken by a call. -/
theorem Step.takes (st : Step) (s : Sys) (hout : ¬ InLease s) (hb : (st.next cfg s).pc = .bound) :
    ∃ env inp, st = .handle env inp := by
  rcases st.read_or_call with hread | hcall
  · obtain ⟨pc, hcore, hpc⟩ := st.core_of_read cfg s hread
    have hnext : (st.next cfg s).pc = pc := congrArg Core.pc hcore
    rcases hpc with rfl | rfl
    · exact absurd (Or.inl (hnext.symm.trans hb)) hout
    · exact nomatch hnext.symm.trans hb
  · exact hcall

end

/-- **Pings and announcements cannot flood.**  In a run of the phase, from the call that takes the
lease, pings are sent by twos at most, two calls that ping are ARP_RETRANS_DELAY apart, and the
address is announced twice at most, the second time ARP_RETRANS_DELAY after the first. -/
theorem frames_paced (cfg : ClientConfig) (b : Startup) (pre : List Step) (take : Step) (phase : List Step)
    (now : Int) (hout : ¬ InLease (run cfg pre (.start b)))
    (htake : (take.next cfg (run cfg pre (.start b))).pc = .bound)
    (hphase : Along cfg (fun st s => s.pc = .bound ∧ st.Peaceful cfg s) phase
      (take.next cfg (run cfg pre (.start b)))) (hclock : ClockRuns (take :: phase) now) :
    ((∀ x ∈ bursts cfg pings (take :: phase) (run cfg pre (.start b)), x.count ≤ 2) ∧
        (bursts cfg pings (take :: phase) (run cfg pre (.start b))).Pairwise Burst.Apart) ∧
      (∀ x ∈ bursts cfg announcements (take :: phase) (run cfg pre (.start b)), x.count = 1) ∧
      (bursts cfg announcements (take :: phase) (run cfg pre (.start b))).length ≤ 2 ∧
      (bursts cfg announcements (take :: phase) (run cfg pre (.start b))).Pairwise Burst.Apart := by
  have hreset := reset_outside cfg b pre
  generalize run cfg pre (.start b) = s at *
  have hs : alarms s = noAlarms := (hreset.resolve_right fun h => h.elim hout (take.alive cfg s htake))
  obtain ⟨env, inp, rfl⟩ := take.takes cfg s hout htake
  obtain ⟨later, hreads, hclock⟩ := hclock
  have hgoes := take_goesOn cfg env inp s hs now later hreads hout htake
  have hpings : (pings s).count = 0 := congrArg (fun a : Alarms => a.gwPingStats.count) hs
  have hannouncements : (announcements s).count = 0 := congrArg (fun a : Alarms => a.announceStats.count) hs
  have hserved : served cfg env inp s = final (dhcpHandle env cfg inp) s := if_neg fun h => hout (Or.inl h)
  have hflows : Flows cfg (.handle env inp :: phase) s := by
    apply Flows.call cfg env inp phase s later (by omega) (by omega) (by omega)
    · rw [hserved]
      exact ⟨hgoes.pings.modest 2 _ _ _ hpings, hgoes.announcements.modest 1 _ _ _ hannouncements,
        hgoes.announcementsPaced.total later _⟩
    · rw [hserved]
      exact Or.inr ⟨rfl, hgoes, phase_flows cfg phase _ later hgoes.pingsPaced hgoes.announcementsPaced hphase hclock⟩
  have htotal := hflows.total
  refine ⟨⟨fun x hx => (hflows.pinged.few x hx).2, hflows.pinged.apart⟩, fun x hx => ?_, by omega,
    hflows.announced.apart⟩
  obtain ⟨hpos, hone⟩ := hflows.announced.few x hx
  omega

/-- The lease is taken two seconds after the start, and then timers are served. -/
def pacedRun : List Step := [
  .handle (envAt 2000) (timerInput 2000),
  .handle (envAt 7000) (timerInput 7000),
  .handle (envAt 9000) (timerInput 9000),
  .handle (envAt 12000) (timerInput 12000)]

/-- Two announcements and three pairs of pings go out, five seconds apart. -/
theorem pacedRun_paced :
    bursts exampleConfig announcements pacedRun (run exampleConfig probingRun exampleStart) =
        [⟨1, 2000, 2000⟩, ⟨1, 7000, 7000⟩] ∧
      bursts exampleConfig pings pacedRun (run exampleConfig probingRun exampleStart) =
        [⟨2, 2000, 2000⟩, ⟨2, 7000, 7000⟩, ⟨2, 12000, 12000⟩] ∧
      (bursts exampleConfig pings pacedRun (run exampleConfig probingRun exampleStart)).Pairwise Burst.Apart := by
  have hreads : ∀ now later, now ≤ later → Reads (envAt later) later now later := fun now later h =>
    ⟨h, fun _ => Int.le_refl _, fun _ => Int.le_refl _, Int.le_refl _, Int.le_refl _, Int.le_refl _⟩
  refine ⟨by decide +kernel, by decide +kernel, ?_⟩
  refine (frames_paced exampleConfig ⟨0, false, false, 3, true, by decide⟩ probingRun
    (.handle (envAt 2000) (timerInput 2000)) pacedRun.tail 0 ?_ (by decide +kernel) ?_ ?_).1.2
  · rintro (h | h)
    · exact absurd h (by decide +kernel)
    · exact absurd h (by decide +kernel)
  · exact ⟨⟨by decide +kernel, rfl, fun h => nomatch h⟩, ⟨by decide +kernel, rfl, fun h => nomatch h⟩,
      ⟨by decide +kernel, rfl, fun h => nomatch h⟩, trivial⟩
  · exact ⟨2000, hreads 0 2000 (by decide), 7000, hreads 2000 7000 (by decide), 9000, hreads 7000 9000 (by decide),
      12000, hreads 9000 12000 (by decide), trivial⟩

end Ndhc
