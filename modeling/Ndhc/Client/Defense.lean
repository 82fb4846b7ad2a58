import Ndhc.Client.Phase

/-!
# Defending the address

Whether the announcements with which the client defends its address are DEFEND_INTERVAL
apart, and whether it gives the address up to a persistent peer, over the time a lease is held.
`Guard` is the state of the defense alone and `Guard.Moves` what the two functions do to it;
the comparison of `arp_do_defense` is the wrong way round, and `arp_defense_timeout` does not
look at the time it is given, so both fail for a peer that sends often and for a timer of
another kind that comes due first (`defense_rate_limited` says when they hold).
-/

namespace Ndhc

open Prog

/-! ## The guard -/

/-- The state of the defense. -/
structure Guard where
  lastConflictTs : Int
  defense : Int
  announced : Int
  relentlessDef : Bool
  deriving DecidableEq

/-- A call of one of the two functions: the guard and the time it finds, when it announced, and
whether it gave the address up. -/
inductive Call where
  | conflict (g : Guard) (nowts : Int) (sent : Option Int) (gaveUp : Bool)
  | timeout (g : Guard) (nowts : Int) (sent : Option Int)
  deriving DecidableEq

namespace Call

def sent : Call → Option Int
  | .conflict _ _ sent _ => sent
  | .timeout _ _ sent => sent

/-- When a conflict was seen. -/
def seen : Call → Option Int
  | .conflict _ nowts _ _ => some nowts
  | .timeout _ _ _ => none

/-- After an earlier conflict less than DEFEND_INTERVAL ago, the address is given up. -/
def GivesWay : Call → Call → Prop
  | .conflict _ earlier _ _, .conflict g nowts sent gaveUp =>
    nowts - earlier < DEFEND_INTERVAL → g.relentlessDef = false → gaveUp = true ∧ sent = none
  | _, _ => True

/-- A conflict is the first and answered, or comes DEFEND_INTERVAL after the last one; a timer
that is armed is due. -/
def Orderly : Call → Prop
  | .conflict g nowts sent _ => (g.lastConflictTs = 0 ∧ sent ≠ none) ∨
      (g.lastConflictTs ≠ 0 ∧ g.lastConflictTs + DEFEND_INTERVAL ≤ nowts)
  | .timeout g nowts _ => g.defense ≠ -1 → g.defense ≤ nowts

end Call

/-- The defense is rate limited. -/
structure Limited (log : List Call) : Prop where
  apart : (log.filterMap Call.sent).Pairwise fun a b => a + DEFEND_INTERVAL ≤ b
  givesWay : log.Pairwise Call.GivesWay

namespace Guard

/-- `arp_do_defense` announces. -/
def Announces (g : Guard) (nowts : Int) : Prop :=
  g.lastConflictTs = 0 ∨ nowts - g.lastConflictTs < DEFEND_INTERVAL

/-- What a call does to the guard. -/
inductive Moves : Guard → Call → Guard → Prop
  | announce (g : Guard) (nowts ts : Int) (h : g.Announces nowts) :
    Moves g (.conflict g nowts (some ts) false)
      { g with defense := -1, lastConflictTs := nowts, announced := ts }
  | mute (g : Guard) (nowts : Int) (h : g.Announces nowts) :
    Moves g (.conflict g nowts none false) { g with defense := -1 }
  | giveUp (g : Guard) (nowts : Int) (h : ¬ g.Announces nowts) :
    Moves g (.conflict g nowts none true) { g with defense := -1 }
  | arm (g : Guard) (nowts : Int) (h : ¬ g.Announces nowts) :
    Moves g (.conflict g nowts none false)
      { g with defense := g.announced + DEFEND_INTERVAL, lastConflictTs := nowts }
  | fire (g : Guard) (nowts ts : Int) (h : g.defense ≠ -1) :
    Moves g (.timeout g nowts (some ts)) { g with defense := -1, announced := ts }
  | fail (g : Guard) (nowts : Int) : Moves g (.timeout g nowts none) { g with defense := -1 }
  | rest (g : Guard) (nowts : Int) : Moves g (.timeout g nowts none) g

/-- The calls so far, up to `now`, were orderly. -/
structure Sound (log : List Call) (now : Int) (g : Guard) : Prop where
  limited : Limited log
  positive : 0 < now
  sent : ∀ a ∈ log.filterMap Call.sent, a ≤ g.announced ∧ a ≤ now
  armed : g.defense ≠ -1 → ∀ a ∈ log.filterMap Call.sent, a + DEFEND_INTERVAL ≤ g.defense
  fresh : g.lastConflictTs = 0 → g.defense = -1 ∧ log.filterMap Call.sent = []
  seen : ∀ c ∈ log.filterMap Call.seen, g.lastConflictTs ≠ 0 ∧ c ≤ g.lastConflictTs

end Guard

namespace Call

/-- The call finds `g` and announces only when it is to. -/
def Meets (g : Guard) : Call → Prop
  | .conflict g' nowts sent _ => g' = g ∧ (sent ≠ none → g.Announces nowts)
  | .timeout g' nowts sent => g' = g ∧ ∀ ts, sent = some ts → g.defense ≠ -1 ∧ nowts ≤ ts

/-- The call reads the clock between two times. -/
def Between (now later : Int) : Call → Prop
  | .conflict _ nowts sent _ => now ≤ nowts ∧ nowts ≤ later ∧ ∀ ts, sent = some ts → nowts ≤ ts ∧ ts ≤ later
  | .timeout _ _ sent => now ≤ later ∧ ∀ ts, sent = some ts → now ≤ ts ∧ ts ≤ later

def gaveUp : Call → Bool
  | .conflict _ _ _ gaveUp => gaveUp
  | .timeout _ _ _ => false

end Call

theorem sents_of_silent (log : List Call) (c : Call) (hc : c.sent = none) :
    (log ++ [c]).filterMap Call.sent = log.filterMap Call.sent := by
  simp [hc]

theorem mem_sents_append (log : List Call) (c : Call) (a : Int) :
    a ∈ (log ++ [c]).filterMap Call.sent ↔ a ∈ log.filterMap Call.sent ∨ c.sent = some a := by
  simp [List.filterMap_append]

theorem mem_seen_append (log : List Call) (c : Call) (a : Int) :
    a ∈ (log ++ [c]).filterMap Call.seen ↔ a ∈ log.filterMap Call.seen ∨ c.seen = some a := by
  simp [List.filterMap_append]

theorem seen_of_timeout (log : List Call) (g : Guard) (nowts : Int) (sent : Option Int) :
    (log ++ [Call.timeout g nowts sent]).filterMap Call.seen = log.filterMap Call.seen := by
  simp [Call.seen]

namespace Guard

section
variable (log : List Call) (now : Int) (g : Guard) (h : Sound log now g)
include h

/-- An orderly call keeps the defense rate limited. -/
theorem Sound.limited_call (c : Call) (horderly : c.Orderly) (hc : c.Meets g) : Limited (log ++ [c]) := by
  constructor
  · rw [List.filterMap_append, List.pairwise_append]
    refine ⟨h.limited.apart, ?_, ?_⟩
    · cases hs : c.sent <;> simp [hs]
    · intro a ha b hb
      have hsent : c.sent = some b := by simpa using hb
      cases c with
      | conflict g' nowts sent gaveUp =>
        obtain ⟨rfl, hann⟩ := hc
        have hsome : sent ≠ none := by
          rw [show sent = some b from hsent]
          nofun
        rcases horderly with ⟨hzero, -⟩ | ⟨hne, hlate⟩
        · rw [(h.fresh hzero).2] at ha
          exact absurd ha List.not_mem_nil
        · rcases hann hsome with hzero | hearly
          · exact absurd hzero hne
          · omega
      | timeout g' nowts sent =>
        obtain ⟨rfl, hfire⟩ := hc
        obtain ⟨hset, hts⟩ := hfire b hsent
        have hdue := horderly hset
        have hapart := h.armed hset a ha
        omega
  · rw [List.pairwise_append]
    refine ⟨h.limited.givesWay, List.pairwise_singleton _ _, ?_⟩
    intro x hx y hy
    rw [List.mem_singleton] at hy
    subst hy
    cases x with
    | timeout => trivial
    | conflict gx earlier sx ux =>
      cases y with
      | timeout => trivial
      | conflict g' nowts sent gaveUp =>
        obtain ⟨rfl, -⟩ := hc
        have hmem : earlier ∈ log.filterMap Call.seen := List.mem_filterMap.mpr ⟨_, hx, rfl⟩
        obtain ⟨hne, hle⟩ := h.seen earlier hmem
        intro hearly
        rcases horderly with ⟨hzero, -⟩ | ⟨-, hlate⟩
        · exact absurd hzero hne
        · omega

/-- Another function announces. -/
theorem Sound.announce (ts later : Int) (hts : now ≤ ts) (hlater : ts ≤ later) :
    Sound log later { g with announced := ts } where
  limited := h.limited
  positive := by have := h.positive; omega
  sent a ha := by have := h.sent a ha; simp only; omega
  armed := h.armed
  fresh := h.fresh
  seen := h.seen

theorem Sound.later (later : Int) (hlater : now ≤ later) : Sound log later g where
  limited := h.limited
  positive := by have := h.positive; omega
  sent a ha := by have := h.sent a ha; omega
  armed := h.armed
  fresh := h.fresh
  seen := h.seen

/-- The first conflict is announced against. -/
theorem Sound.first (nowts ts later : Int) (hzero : g.lastConflictTs = 0)
    (hlimited : Limited (log ++ [.conflict g nowts (some ts) false])) (hnow : now ≤ nowts) (hts : nowts ≤ ts)
    (hlater : ts ≤ later) : Sound (log ++ [.conflict g nowts (some ts) false]) later
      { g with defense := -1, lastConflictTs := nowts, announced := ts } where
  limited := hlimited
  positive := by have := h.positive; omega
  sent a ha := by
    rcases (mem_sents_append log _ a).mp ha with ha | ha
    · rw [(h.fresh hzero).2] at ha
      exact absurd ha List.not_mem_nil
    · cases ha
      exact ⟨Int.le_refl _, hlater⟩
  armed hset := absurd rfl hset
  fresh hz := by
    have hpos := h.positive
    have : nowts = 0 := hz
    omega
  seen c hc := by
    have hpos := h.positive
    rcases (mem_seen_append log _ c).mp hc with hc | hc
    · exact absurd hzero (h.seen c hc).1
    · cases hc
      exact ⟨by show nowts ≠ 0; omega, Int.le_refl _⟩

/-- A later conflict puts the defense off. -/
theorem Sound.putOff (nowts later : Int) (hlate : g.lastConflictTs ≤ nowts)
    (hlimited : Limited (log ++ [.conflict g nowts none false])) (hnow : now ≤ nowts) (hlater : nowts ≤ later) :
    Sound (log ++ [.conflict g nowts none false]) later
      { g with defense := g.announced + DEFEND_INTERVAL, lastConflictTs := nowts } where
  limited := hlimited
  positive := by have := h.positive; omega
  sent a ha := by
    rw [sents_of_silent log (.conflict g nowts none false) rfl] at ha
    have hsent := h.sent a ha
    exact ⟨hsent.1, by omega⟩
  armed _ a ha := by
    rw [sents_of_silent log (.conflict g nowts none false) rfl] at ha
    have hsent := (h.sent a ha).1
    show a + DEFEND_INTERVAL ≤ g.announced + DEFEND_INTERVAL
    omega
  fresh hz := by
    have hpos := h.positive
    have : nowts = 0 := hz
    omega
  seen c hc := by
    have hpos := h.positive
    rcases (mem_seen_append log _ c).mp hc with hc | hc
    · have hle := (h.seen c hc).2
      exact ⟨by show nowts ≠ 0; omega, by show c ≤ nowts; omega⟩
    · cases hc
      exact ⟨by show nowts ≠ 0; omega, Int.le_refl _⟩

/-- A defense put off is carried out. -/
theorem Sound.fired (nowts ts later : Int) (hset : g.defense ≠ -1)
    (hlimited : Limited (log ++ [.timeout g nowts (some ts)])) (hnow : now ≤ ts) (hlater : ts ≤ later) :
    Sound (log ++ [.timeout g nowts (some ts)]) later { g with defense := -1, announced := ts } where
  limited := hlimited
  positive := by have := h.positive; omega
  sent a ha := by
    rcases (mem_sents_append log _ a).mp ha with ha | ha
    · have hsent := (h.sent a ha).2
      exact ⟨by show a ≤ ts; omega, by omega⟩
    · cases ha
      exact ⟨Int.le_refl _, hlater⟩
  armed hs := absurd rfl hs
  fresh hz := absurd (h.fresh hz).1 hset
  seen := by
    rw [seen_of_timeout]
    exact h.seen

/-- A timeout at which nothing is sent, the defense then given up or still put off. -/
theorem Sound.timedOut (nowts later defense : Int) (hdefense : defense = g.defense ∨ defense = -1)
    (hlimited : Limited (log ++ [.timeout g nowts none])) (hlater : now ≤ later) :
    Sound (log ++ [.timeout g nowts none]) later { g with defense := defense } := by
  have hsents := sents_of_silent log (.timeout g nowts none) rfl
  refine ⟨hlimited, by have := h.positive; omega, ?_, ?_, ?_, ?_⟩
  · rw [hsents]
    exact (h.later log now g later hlater).sent
  · rw [hsents]
    rintro (hset : defense ≠ -1)
    rcases hdefense with rfl | hnone
    · exact h.armed hset
    · exact absurd hnone hset
  · rw [hsents]
    intro hz
    refine ⟨?_, (h.fresh hz).2⟩
    rcases hdefense with rfl | hnone
    · exact (h.fresh hz).1
    · exact hnone
  · rw [seen_of_timeout]
    exact h.seen

/-- An orderly call that does not give the address up leaves the guard sound. -/
theorem Sound.moves (later : Int) (c : Call) (g' : Guard) (hmove : Moves g c g') (hc : c.Meets g)
    (horderly : c.Orderly) (hkept : c.gaveUp = false) (hclock : c.Between now later) :
    Sound (log ++ [c]) later g' := by
  have hlimited := h.limited_call log now g c horderly hc
  cases hmove with
  | announce nowts ts hann =>
    obtain ⟨hnow, hlater, hts⟩ := hclock
    obtain ⟨hts, hlast⟩ := hts ts rfl
    have hzero : g.lastConflictTs = 0 := by
      rcases horderly with h | h
      · exact h.1
      · rcases hann with h0 | h0
        · exact h0
        · omega
    exact h.first log now g nowts ts later hzero hlimited hnow hts hlast
  | mute nowts hann =>
    rcases horderly with ⟨-, hsome⟩ | ⟨hne, hlate⟩
    · exact absurd rfl hsome
    · rcases hann with hzero | hearly
      · exact absurd hzero hne
      · omega
  | giveUp nowts hann => cases hkept
  | arm nowts hann =>
    obtain ⟨hnow, hlater, -⟩ := hclock
    have hlate : g.lastConflictTs ≤ nowts := by
      rcases horderly with ⟨-, hsome⟩ | ⟨-, hlate⟩
      · exact absurd rfl hsome
      · unfold DEFEND_INTERVAL at hlate
        omega
    exact h.putOff log now g nowts later hlate hlimited hnow hlater
  | fire nowts ts hset =>
    obtain ⟨hlater, hts⟩ := hclock
    obtain ⟨hnow, hlast⟩ := hts ts rfl
    exact h.fired log now g nowts ts later hset hlimited hnow hlast
  | fail nowts => exact h.timedOut log now g nowts later (-1) (Or.inr rfl) hlimited hclock.1
  | rest nowts => exact h.timedOut log now g nowts later g.defense (Or.inl rfl) hlimited hclock.1

end

/-- A move finds the guard as it is, and announces when it is to. -/
theorem Moves.meets (g : Guard) (c : Call) (g' : Guard) (h : g.Moves c g')
    (hts : ∀ k nowts ts, c = .timeout k nowts (some ts) → nowts ≤ ts) : c.Meets g := by
  cases h with
  | announce nowts ts hann => exact ⟨rfl, fun _ => hann⟩
  | mute nowts hann => exact ⟨rfl, fun _ => hann⟩
  | giveUp nowts hann => exact ⟨rfl, fun h => absurd rfl h⟩
  | arm nowts hann => exact ⟨rfl, fun h => absurd rfl h⟩
  | fire nowts ts hset =>
    refine ⟨rfl, fun t ht => ⟨hset, ?_⟩⟩
    cases ht
    exact hts _ _ _ rfl
  | fail nowts => exact ⟨rfl, nofun⟩
  | rest nowts => exact ⟨rfl, nofun⟩

end Guard

/-! ## The two functions -/

@[reducible] def guardOf (s : Sys) : Guard :=
  ⟨s.garp.lastConflictTs, s.garp.wakeTs.defense, s.garp.announceStats.ts, s.garp.relentlessDef⟩

/-- With the number of announcements. -/
@[reducible] def watch (s : Sys) : Guard × Int := (guardOf s, s.garp.announceStats.count)

instance : Offline watch where
  eq _ _ := rfl
  pc _ _ := rfl
  listen _ _ _ := rfl
  wake _ _ := rfl
  lease _ _ _ := rfl

/-- The announcement that was sent between two states. -/
def sentBetween (s t : Sys) : Option Int :=
  if t.garp.announceStats.count = s.garp.announceStats.count then none
  else some t.garp.announceStats.ts

theorem sentBetween_of_count (s t : Sys) (h : t.garp.announceStats.count = s.garp.announceStats.count) :
    sentBetween s t = none := if_pos h

theorem sentBetween_of_next (s t : Sys)
    (h : t.garp.announceStats.count = s.garp.announceStats.count + 1) :
    sentBetween s t = some t.garp.announceStats.ts := if_neg (by omega)

section
variable {α : Type} (env : Env) (cfg : ClientConfig) (site : Site) (nowts : Int)

instance (priority := low) (m : M α) [h : Routine still AnyWay m] : Routine watch AnyWay m where
  ends s := by
    apply wp_mono _ _ s _ _ _ (h.ends s) ?_ (fun _ _ h => h)
    intro _ t ht
    exact congrArg (fun v : Steady × ArpStats =>
      ((⟨v.1.lastConflictTs, v.1.defense, v.2.ts, v.1.relentlessDef⟩ : Guard), v.2.count)) ht

/-- An announcement is sent, or all is as it was. -/
theorem arpAnnouncement_sends (s : Sys) :
    wp (arpAnnouncement env site)
      (fun r t => (r < 0 ∧ watch t = watch s) ∨ (¬ r < 0 ∧
        watch t = ({ guardOf s with announced := env.curms site }, s.garp.announceStats.count + 1)))
      (fun _ t => watch t = watch s) s := by
  unfold arpAnnouncement arpSend
  rw [wp_bind, wp_get, wp_bind, wp_bind, wp_get, wp_ite]
  split
  · exact Or.inl ⟨by decide, rfl⟩
  · rw [wp_bind]
    cases env.send site with
    | none => rfl
    | some r =>
      show wp (if r < 0 then pure r else _) _ _ s
      rw [wp_ite]
      split
      · next hr =>
        rw [wp_pure, wp_ite, if_pos hr]
        exact Or.inl ⟨hr, rfl⟩
      · next hr =>
        have hpos : ¬ (if r = arpMsgSize then 0 else r) < 0 := by
          split
          · decide
          · exact hr
        rw [wp_bind]
        show wp (if (if r = arpMsgSize then 0 else r) < 0 then _ else _) _ _ _
        rw [if_neg hpos]
        exact Or.inr ⟨by decide, rfl⟩

theorem sendRelease_watch (s : Sys) :
    wp (sendRelease env site) (fun _ t => watch t = watch s) (fun _ t => watch t = watch s) s := by
  unfold sendRelease sendDhcp
  rw [wp_bind, wp_get, wp_bind]
  cases env.send site with
  | none => rfl
  | some r =>
    show wp (if r < 0 then pure r else _) _ _ s
    rw [wp_ite]
    split
    · rfl
    · rfl

/-- How `arp_do_defense` handles a conflict. -/
theorem arpDoDefense_moves (s : Sys) (hconf : (peers s).Conflicting cfg) :
    wp (arpDoDefense env cfg)
      (fun r t => (guardOf s).Moves
        (.conflict (guardOf s) (env.curms .conflictSeen) (sentBetween s t) (decide (r = .conflict)))
        (guardOf t) ∧ ∀ ts, sentBetween s t = some ts → ts = env.curms .doDefense)
      (fun _ t => sentBetween s t = none) s := by
  unfold arpDoDefense
  rw [wp_bind, wp_get, wp_ite, if_neg hconf, wp_bind, wp_modify, wp_ite]
  split
  · next hann =>
    rw [wp_bind]
    apply wp_mono _ _ _ _ _ _ (arpAnnouncement_sends env .doDefense _)
    · rintro r t (⟨hr, ht⟩ | ⟨hr, ht⟩)
      · have hnone := sentBetween_of_count s t (congrArg Prod.snd ht)
        rw [wp_ite, if_pos hr, wp_pure, hnone, show guardOf t = _ from congrArg Prod.fst ht]
        exact ⟨.mute _ _ hann, nofun⟩
      · have hcount : t.garp.announceStats.count = s.garp.announceStats.count + 1 :=
          congrArg Prod.snd ht
        have hguard : guardOf t = { guardOf s with defense := -1, announced := env.curms .doDefense } :=
          congrArg Prod.fst ht
        have hts : t.garp.announceStats.ts = env.curms .doDefense := congrArg Guard.announced hguard
        rw [wp_ite, if_neg hr, wp_bind, wp_modify, wp_pure]
        show (guardOf s).Moves (.conflict (guardOf s) (env.curms .conflictSeen) (sentBetween s t) false)
          { guardOf t with lastConflictTs := env.curms .conflictSeen } ∧
          ∀ ts, sentBetween s t = some ts → _
        rw [sentBetween_of_next s t hcount, hguard, hts]
        exact ⟨.announce _ _ _ hann, fun ts h => (Option.some.inj h).symm⟩
    · exact fun _ t ht => sentBetween_of_count s t (congrArg Prod.snd ht)
  · next hann =>
    rw [wp_ite]
    split
    · next hrel =>
      rw [wp_bind]
      apply wp_mono _ _ _ _ _ _ (sendRelease_watch env .defenseRelease _)
      · intro r t ht
        have hnone := sentBetween_of_count s t (congrArg Prod.snd ht)
        rw [wp_pure, hnone, show guardOf t = _ from congrArg Prod.fst ht]
        exact ⟨.giveUp _ _ hann, nofun⟩
      · exact fun _ t ht => sentBetween_of_count s t (congrArg Prod.snd ht)
    · rw [wp_bind, wp_modify, wp_pure, sentBetween_of_count]
      · exact ⟨.arm _ _ hann, nofun⟩
      · rfl

theorem arpDefenseTimeout_moves (s : Sys) :
    wp (arpDefenseTimeout env)
      (fun _ t => (guardOf s).Moves (.timeout (guardOf s) nowts (sentBetween s t)) (guardOf t) ∧
        ∀ ts, sentBetween s t = some ts → ts = env.curms .defenseTimeout)
      (fun _ t => sentBetween s t = none) s := by
  unfold arpDefenseTimeout
  rw [wp_bind, wp_get, wp_ite]
  split
  · next hset =>
    rw [wp_bind, wp_modify]
    apply wp_mono _ _ _ _ _ _ (arpAnnouncement_sends env .defenseTimeout _)
    · rintro r t (⟨-, ht⟩ | ⟨-, ht⟩)
      · rw [sentBetween_of_count s t (congrArg Prod.snd ht), show guardOf t = _ from congrArg Prod.fst ht]
        exact ⟨.fail _ _, nofun⟩
      · have hguard : guardOf t =
            { guardOf s with defense := -1, announced := env.curms .defenseTimeout } :=
          congrArg Prod.fst ht
        have hts : t.garp.announceStats.ts = env.curms .defenseTimeout :=
          congrArg Guard.announced hguard
        rw [sentBetween_of_next s t (congrArg Prod.snd ht), hguard, hts]
        exact ⟨.fire _ _ _ hset, fun ts h => (Option.some.inj h).symm⟩
    · exact fun _ t ht => sentBetween_of_count s t (congrArg Prod.snd ht)
  · rw [wp_pure, sentBetween_of_count s s rfl]
    exact ⟨.rest _ _, nofun⟩

end

/-! ## The calls of a run -/

section
variable (env : Env) (cfg : ClientConfig) (inp : Input)

/-- The call of `arp_do_defense`. -/
def conflictCall (s : Sys) : Call :=
  match arpDoDefense env cfg s with
  | .ok r t => .conflict (guardOf s) (env.curms .conflictSeen) (sentBetween s t) (decide (r = .conflict))
  | .error _ t => .conflict (guardOf s) (env.curms .conflictSeen) (sentBetween s t) false

/-- The call of `arp_defense_timeout`. -/
def timeoutCall (s : Sys) : Call :=
  .timeout (guardOf s) inp.nowts (sentBetween s (final (arpDefenseTimeout env) s))

instance (p : Peers) : Decidable (p.Conflicting cfg) := inferInstanceAs (Decidable (¬ _))

/-- The calls that handle a conflict, from where a pass turns to ARP. -/
def conflictCalls (s : Sys) : List Call :=
  if inp.sevArp ∧ (peers s).Conflicting cfg then [conflictCall env cfg s] else []

/-- The calls of the timeout, from where a pass turns to the timers. -/
def timeoutCalls (s : Sys) : List Call :=
  if inp.arpTimeout ∧ s.cs.sentFirstAnnounce ∧ s.cs.sentSecondAnnounce then [timeoutCall env inp s]
  else []

/-- The calls of a pass. -/
def passCalls (s : Sys) : List Call :=
  match toDefense env cfg inp s with
  | .error _ _ => []
  | .ok _ t => conflictCalls env cfg inp t ++
    match boundArp env cfg inp t with
    | .error _ _ => []
    | .ok _ u => timeoutCalls env inp u

end

def Step.calls (cfg : ClientConfig) : Step → Sys → List Call
  | .handle env inp, s => if s.pc = .bound then passCalls env cfg inp { s with out := [] } else []
  | _, _ => []

def calls (cfg : ClientConfig) : List Step → Sys → List Call
  | [], _ => []
  | st :: steps, s => st.calls cfg s ++ calls cfg steps (st.next cfg s)

/-- The clock of a call does not go back. -/
structure Ticks (env : Env) (nowts now later : Int) : Prop where
  start : now ≤ nowts
  seen : nowts ≤ env.curms .conflictSeen
  doDefense : env.curms .conflictSeen ≤ env.curms .doDefense
  gwSuccess : env.curms .doDefense ≤ env.curms .gwSuccess
  announce : env.curms .gwSuccess ≤ env.curms .announce
  announced : env.curms .announce ≤ later
  timeout : env.curms .gwSuccess ≤ env.curms .defenseTimeout
  timedOut : env.curms .defenseTimeout ≤ later

/-- From `now` on, the clock does not go back. -/
def Clock : List Step → Int → Prop
  | [], _ => True
  | .handle env inp :: steps, now => ∃ later, Ticks env inp.nowts now later ∧ Clock steps later
  | _ :: steps, now => Clock steps now

/-! ## A pass -/

section
variable {α : Type} (log : List Call) (now : Int)

@[reducible] def SoundAt (s : Sys) : Prop := Guard.Sound log now (guardOf s)

/-- The end of a pass. -/
def Through (e : Stop) (t : Sys) : Prop := Limited log ∧ ∀ code, e = .ret code → SoundAt log now t

theorem Through.later (later : Int) (h : now ≤ later) (e : Stop) (t : Sys) (ht : Through log now e t) :
    Through log later e t :=
  ⟨ht.1, fun code he => (ht.2 code he).later log now _ later h⟩

section
variable (env : Env) (cfg : ClientConfig) (inp : Input) (site : Site)

instance (priority := low) (m : M α) [h : Routine watch AnyWay m] :
    Upholds (SoundAt log now) (fun _ _ => True) m where
  ends s hs := by
    apply wp_mono _ _ s _ _ _ (h.ends s) ?_ (fun _ _ _ => trivial)
    intro _ t ht
    show Guard.Sound log now (guardOf t)
    rw [show guardOf t = guardOf s from congrArg Prod.fst ht]
    exact hs

/-- Parts of a pass that leave the guard alone. -/
instance (priority := low) (m : M α) [h : Routine watch OnReturn m] :
    Upholds (SoundAt log now) (Through log now) m where
  ends s hs := by
    have hkept : ∀ t, watch t = watch s → SoundAt log now t := by
      intro t ht
      show Guard.Sound log now (guardOf t)
      rw [show guardOf t = guardOf s from congrArg Prod.fst ht]
      exact hs
    apply wp_mono _ _ s _ _ _ (h.ends s)
    · exact fun _ t ht => hkept t ht
    · exact fun e t ht => ⟨hs.limited, fun code he => hkept t (ht code he)⟩

/-- A subroutine ends the process if it does not return. -/
theorem sub_through (m : M α) [hc : Routine core Dies m]
    [hf : Upholds (SoundAt log now) (fun _ _ => True) m] : Upholds (SoundAt log now) (Through log now) m where
  ends s hs := by
    apply wp_mono _ _ s _ _ _ (wp_and _ _ s m _ _ (hc.ends s) (hf.ends s hs))
    · exact fun _ _ h => h.2
    · rintro e t ⟨⟨rfl, -⟩, -⟩
      exact ⟨hs.limited, Stop.exit_ret_elim⟩

instance : Upholds (SoundAt log (env.curms site)) (fun _ _ => True) (arpAnnouncement env site) where
  ends s hs := by
    apply wp_mono _ _ s _ _ _ (arpAnnouncement_sends env site s) ?_ (fun _ _ _ => trivial)
    rintro r t (⟨-, ht⟩ | ⟨-, ht⟩)
    · show Guard.Sound _ _ (guardOf t)
      rw [show guardOf t = guardOf s from congrArg Prod.fst ht]
      exact hs
    · show Guard.Sound _ _ (guardOf t)
      rw [show guardOf t = _ from congrArg Prod.fst ht]
      exact hs.announce _ _ _ _ _ (Int.le_refl _) (Int.le_refl _)

instance : Upholds (SoundAt log (env.curms .gwSuccess)) (fun _ _ => True) (arpGwSuccess env) := by
  unfold arpGwSuccess
  infer_instance

instance : Upholds (SoundAt log (env.curms .gwSuccess)) (fun _ _ => True) (gwCheckServer env) := by
  unfold gwCheckServer
  infer_instance

instance : Upholds (SoundAt log (env.curms .gwSuccess)) (fun _ _ => True) (arpDoGwCheck env cfg) := by
  unfold arpDoGwCheck
  infer_instance

instance : Upholds (SoundAt log (env.curms .announce)) (fun _ _ => True) (arpAnnounce env) := by
  unfold arpAnnounce
  infer_instance

instance (nowts : Int) : Upholds (SoundAt log (env.curms .announce)) (fun _ _ => True)
    (arpAnnounceTimeout env nowts) := by
  unfold arpAnnounceTimeout
  infer_instance

instance : Upholds (SoundAt log (env.curms .gwSuccess)) (Through log (env.curms .gwSuccess))
    (boundGwCheck env cfg) := by
  have := sub_through log (env.curms .gwSuccess) (arpDoGwCheck env cfg)
  unfold boundGwCheck
  infer_instance

instance : Routine watch OnReturn (boundGwQuery env cfg) := by
  unfold boundGwQuery
  infer_instance

instance : Routine watch OnReturn (boundGwTimeout env inp) := by
  unfold boundGwTimeout
  infer_instance

instance : Routine watch OnReturn (boundIfup env inp) := by
  unfold boundIfup
  infer_instance

instance : Routine watch OnReturn (toDefense env cfg inp) := by
  unfold toDefense
  infer_instance

/-! ### The two calls -/

section
variable (s : Sys) (hs : SoundAt log now s)
include hs

theorem boundDefense_sound (hnow : now ≤ env.curms .conflictSeen)
    (hseen : env.curms .conflictSeen ≤ env.curms .doDefense) (hconf : (peers s).Conflicting cfg)
    (horderly : (conflictCall env cfg s).Orderly) :
    wp (boundDefense env cfg)
      (fun _ t => SoundAt (log ++ [conflictCall env cfg s]) (env.curms .doDefense) t)
      (Through (log ++ [conflictCall env cfg s]) (env.curms .doDefense)) s := by
  have hmoves := arpDoDefense_moves env cfg s hconf
  have hdie := Routine.ends (f := core) (X := Dies) (m := arpDoDefense env cfg) s
  unfold boundDefense
  unfold conflictCall at horderly ⊢
  rw [wp_bind]
  cases hr : arpDoDefense env cfg s with
  | ok r t =>
    rw [hr] at horderly
    rw [wp_ok_iff _ _ _ _ _ _ hr] at hmoves ⊢
    obtain ⟨hmove, hts⟩ := hmoves
    have hmeets := hmove.meets _ _ _ nofun
    have hlimited := hs.limited_call _ _ _ _ horderly hmeets
    have hclock : Call.Between now (env.curms .doDefense) (.conflict (guardOf s)
        (env.curms .conflictSeen) (sentBetween s t) (decide (r = .conflict))) := by
      refine ⟨hnow, hseen, fun ts h => ?_⟩
      rw [hts ts h]
      exact ⟨hseen, Int.le_refl _⟩
    cases r with
    | ok => exact hs.moves _ _ _ _ _ _ hmove hmeets horderly rfl hclock
    | conflict =>
      apply wp_restart
      · exact fun _ _ => ⟨hlimited, Stop.goto_ret_elim⟩
      · exact fun _ _ => ⟨hlimited, Stop.exit_ret_elim⟩
    | fail => exact ⟨hlimited, fun _ _ => hs.moves _ _ _ _ _ _ hmove hmeets horderly rfl hclock⟩
    | free => exact ⟨hlimited, Stop.exit_ret_elim⟩
  | error e t =>
    rw [hr] at horderly
    rw [wp_error_iff _ _ _ _ _ _ hr] at hmoves hdie ⊢
    obtain ⟨rfl, -⟩ := hdie
    have hmeets : Call.Meets (guardOf s) (.conflict (guardOf s) (env.curms .conflictSeen)
        (sentBetween s t) false) := ⟨rfl, fun h => absurd hmoves h⟩
    exact ⟨hs.limited_call _ _ _ _ horderly hmeets, Stop.exit_ret_elim⟩

theorem defenseTimeout_sound (later : Int) (hnowts : inp.nowts ≤ env.curms .defenseTimeout)
    (hnow : now ≤ env.curms .defenseTimeout) (hlater : env.curms .defenseTimeout ≤ later)
    (horderly : (timeoutCall env inp s).Orderly) :
    wp (arpDefenseTimeout env) (fun _ t => SoundAt (log ++ [timeoutCall env inp s]) later t)
      (Through (log ++ [timeoutCall env inp s]) later) s := by
  have hmoves := arpDefenseTimeout_moves env inp.nowts s
  have hdie := Routine.ends (f := core) (X := Dies) (m := arpDefenseTimeout env) s
  unfold timeoutCall final at horderly ⊢
  cases hr : arpDefenseTimeout env s with
  | ok r t =>
    rw [hr] at horderly
    rw [wp_ok_iff _ _ _ _ _ _ hr] at hmoves ⊢
    obtain ⟨hmove, hts⟩ := hmoves
    have hmeets := hmove.meets _ _ _ fun k nowts ts h => by
      obtain ⟨-, rfl, hsent⟩ := Call.timeout.inj h
      rw [hts ts hsent]
      exact hnowts
    refine hs.moves _ _ _ _ _ _ hmove hmeets horderly rfl ⟨by omega, fun ts h => ?_⟩
    rw [hts ts h]
    exact ⟨hnow, hlater⟩
  | error e t =>
    rw [hr] at horderly
    rw [wp_error_iff _ _ _ _ _ _ hr] at hmoves hdie ⊢
    obtain ⟨rfl, -⟩ := hdie
    have hmeets : Call.Meets (guardOf s) (.timeout (guardOf s) inp.nowts (sentBetween s t)) :=
      ⟨rfl, fun ts h => nomatch hmoves.symm.trans h⟩
    exact ⟨hs.limited_call _ _ _ _ horderly hmeets, Stop.exit_ret_elim⟩

end

/-! ### The pass -/

theorem conflictCalls_of_conflicting (s : Sys) (harp : inp.sevArp) (hconf : (peers s).Conflicting cfg) :
    conflictCalls env cfg inp s = [conflictCall env cfg s] := if_pos ⟨harp, hconf⟩

theorem conflictCalls_of_peaceful (s : Sys) (h : ¬ (inp.sevArp ∧ (peers s).Conflicting cfg)) :
    conflictCalls env cfg inp s = [] := if_neg h

section
variable (later : Int) (s : Sys) (hs : SoundAt log now s)
include hs

/-- The first thing a pass does with an ARP frame. -/
theorem boundDefense_through (hticks : Ticks env inp.nowts now later) (harp : inp.sevArp)
    (horderly : ∀ c ∈ conflictCalls env cfg inp s, c.Orderly) :
    wp (boundDefense env cfg)
      (fun _ t => SoundAt (log ++ conflictCalls env cfg inp s) (env.curms .gwSuccess) t)
      (Through (log ++ conflictCalls env cfg inp s) (env.curms .gwSuccess)) s := by
  have hnow := hticks.start.trans hticks.seen
  by_cases hconf : (peers s).Conflicting cfg
  · rw [conflictCalls_of_conflicting env cfg inp s harp hconf] at horderly ⊢
    apply wp_mono _ _ s _ _ _ (boundDefense_sound log now env cfg s hs hnow hticks.doDefense hconf
      (horderly _ (List.mem_singleton.mpr rfl)))
    · exact fun _ t ht => ht.later _ _ _ _ hticks.gwSuccess
    · exact fun e t ht => ht.later _ _ _ hticks.gwSuccess e t
  · have hnone : arpValidateBpfDefense s.cs.clientAddr cfg.arp s.garp.reply = 0 := not_not.mp hconf
    rw [conflictCalls_of_peaceful env cfg inp s fun h => hconf h.2, List.append_nil]
    unfold boundDefense arpDoDefense
    rw [wp_bind, wp_bind, wp_get, wp_ite, if_pos hnone]
    exact hs.later _ _ _ _ (hnow.trans (hticks.doDefense.trans hticks.gwSuccess))

theorem boundArp_sound (hticks : Ticks env inp.nowts now later)
    (horderly : ∀ c ∈ conflictCalls env cfg inp s, c.Orderly) :
    wp (boundArp env cfg inp)
      (fun _ t => SoundAt (log ++ conflictCalls env cfg inp s) (env.curms .gwSuccess) t)
      (Through (log ++ conflictCalls env cfg inp s) (env.curms .gwSuccess)) s := by
  unfold boundArp
  rw [wp_ite]
  split
  · next harp =>
    rw [wp_bind]
    apply wp_mono _ _ s _ _ _
      (boundDefense_through log now env cfg inp later s hs hticks harp horderly) ?_ (fun _ _ h => h)
    exact fun _ t ht => Upholds.ends t ht
  · next harp =>
    rw [conflictCalls_of_peaceful env cfg inp s fun h => harp h.1, List.append_nil]
    have hnow := hticks.start.trans hticks.seen
    exact hs.later _ _ _ _ (hnow.trans (hticks.doDefense.trans hticks.gwSuccess))

end

theorem boundArpTimeout_sound (later : Int) (s : Sys) (hs : SoundAt log (env.curms .gwSuccess) s)
    (hticks : Ticks env inp.nowts now later) (horderly : ∀ c ∈ timeoutCalls env inp s, c.Orderly) :
    wp (boundArpTimeout env inp) (fun _ t => SoundAt (log ++ timeoutCalls env inp s) later t)
      (Through (log ++ timeoutCalls env inp s) later) s := by
  have hnowts : inp.nowts ≤ env.curms .defenseTimeout := by
    have h1 := hticks.seen
    have h2 := hticks.doDefense
    have h3 := hticks.gwSuccess
    have h4 := hticks.timeout
    omega
  unfold boundArpTimeout
  rw [wp_ite]
  split
  · next harp =>
    rw [wp_bind]
    suffices h : wp (boundAnnounce env inp) (fun _ t => SoundAt (log ++ timeoutCalls env inp s) later t)
        (Through (log ++ timeoutCalls env inp s) later) s from
      wp_mono _ _ s _ _ _ h (fun _ t ht => Upholds.ends t ht) (fun _ _ h => h)
    unfold boundAnnounce
    rw [wp_bind, wp_get, wp_ite]
    split
    · next hboth =>
      have hcalls : timeoutCalls env inp s = [timeoutCall env inp s] := if_pos ⟨harp, hboth⟩
      rw [hcalls] at horderly ⊢
      rw [wp_bind]
      exact defenseTimeout_sound log _ env inp s hs later hnowts hticks.timeout hticks.timedOut
        (horderly _ (List.mem_singleton.mpr rfl))
    · next hboth =>
      rw [show timeoutCalls env inp s = [] from if_neg fun h => hboth h.2, List.append_nil, wp_bind]
      have hup := sub_through log (env.curms .announce) (arpAnnounceTimeout env inp.nowts)
      apply wp_mono _ _ s _ _ _ (hup.ends s (hs.later _ _ _ _ hticks.announce))
      · exact fun _ t ht => ht.later _ _ _ _ hticks.announced
      · exact fun e t ht => ht.later _ _ _ hticks.announced e t
  · next harp =>
    rw [show timeoutCalls env inp s = [] from if_neg fun h => harp h.1, List.append_nil]
    exact hs.later _ _ _ _ (hticks.announce.trans hticks.announced)

theorem passCalls_of_left (s t : Sys) (e : Stop) (hr : toDefense env cfg inp s = .error e t) :
    passCalls env cfg inp s = [] := by
  unfold passCalls
  rw [hr]

theorem passCalls_of_left_arp (s t u : Sys) (r : Unit) (e : Stop) (hr : toDefense env cfg inp s = .ok r t)
    (ha : boundArp env cfg inp t = .error e u) :
    passCalls env cfg inp s = conflictCalls env cfg inp t := by
  unfold passCalls
  simp only [hr, ha, List.append_nil]

theorem passCalls_of_timers (s t u : Sys) (r r' : Unit) (hr : toDefense env cfg inp s = .ok r t)
    (ha : boundArp env cfg inp t = .ok r' u) :
    passCalls env cfg inp s = conflictCalls env cfg inp t ++ timeoutCalls env inp u := by
  unfold passCalls
  simp only [hr, ha]

theorem mem_passCalls_of_conflict (s t : Sys) (r : Unit) (hr : toDefense env cfg inp s = .ok r t) (c : Call)
    (hc : c ∈ conflictCalls env cfg inp t) : c ∈ passCalls env cfg inp s := by
  unfold passCalls
  simp only [hr]
  exact List.mem_append_left _ hc

/-- A pass whose calls are orderly. -/
theorem boundPass_sound (later : Int) (s : Sys) (hs : SoundAt log now s)
    (hticks : Ticks env inp.nowts now later) (horderly : ∀ c ∈ passCalls env cfg inp s, c.Orderly) :
    wp (boundPass env cfg inp) (fun _ _ => Limited (log ++ passCalls env cfg inp s))
      (Through (log ++ passCalls env cfg inp s) later) s := by
  have hsuccess : env.curms .gwSuccess ≤ later := hticks.announce.trans hticks.announced
  have hnow : now ≤ later := hticks.start.trans (hticks.seen.trans
    (hticks.doDefense.trans (hticks.gwSuccess.trans hsuccess)))
  have hfirst := Upholds.ends (P := SoundAt log now) (E := Through log now)
    (m := toDefense env cfg inp) s hs
  rw [wp_boundPass]
  cases hr : toDefense env cfg inp s with
  | error e t =>
    rw [wp_error_iff _ _ _ _ _ _ hr] at hfirst ⊢
    rw [passCalls_of_left env cfg inp s t e hr, List.append_nil]
    exact hfirst.later _ _ _ hnow e t
  | ok r t =>
    rw [wp_ok_iff _ _ _ _ _ _ hr] at hfirst ⊢
    have harp := boundArp_sound log now env cfg inp later t hfirst hticks fun c hc =>
      horderly c (mem_passCalls_of_conflict env cfg inp s t r hr c hc)
    cases ha : boundArp env cfg inp t with
    | error e u =>
      rw [wp_error_iff _ _ _ _ _ _ ha] at harp ⊢
      rw [passCalls_of_left_arp env cfg inp s t u r e hr ha]
      exact harp.later _ _ _ hsuccess e u
    | ok r' u =>
      rw [wp_ok_iff _ _ _ _ _ _ ha] at harp ⊢
      rw [passCalls_of_timers env cfg inp s t u r r' hr ha] at horderly ⊢
      have htimeout := boundArpTimeout_sound _ now env inp later u harp hticks fun c hc =>
        horderly c (List.mem_append_right _ hc)
      rw [List.append_assoc] at htimeout
      rw [wp_bind]
      apply wp_mono _ _ u _ _ _ htimeout ?_ (fun _ _ h => h)
      intro _ v hv
      apply wp_mono _ _ v _ _ _ (Upholds.ends (P := SoundAt _ later)
        (E := Through (log ++ (conflictCalls env cfg inp t ++ timeoutCalls env inp u)) later) v hv)
      · exact fun _ _ h => h.limited
      · exact fun _ _ h => h

end

/-! ## A lease -/

instance (env : Env) (cfg : ClientConfig) (stale : ArpMsg) (rd : ReadResult) :
    Routine watch AnyWay (arpPacketGet env cfg stale rd) := by
  cases rd with
  | again => exact inferInstanceAs (Routine watch AnyWay (pure false))
  | error =>
    unfold arpPacketGet
    infer_instance
  | data frame =>
    unfold arpPacketGet
    infer_instance

instance (env : Env) (cfg : ClientConfig) (ck : NetChecksum) (rd : ReadResult) (buf : DhcpMsg) :
    Routine watch AnyWay (dhcpPacketGet env cfg ck rd buf) := by
  unfold dhcpPacketGet
  infer_instance

section
variable (cfg : ClientConfig)

/-- Reading leaves the guard alone. -/
theorem Step.watch_of_read (st : Step) (s : Sys) (h : ∀ env inp, st ≠ .handle env inp)
    (hpc : (st.next cfg s).pc = .bound) : watch (st.next cfg s) = watch s := by
  have hlive : (st.next cfg s).pc ≠ .dead := by simp [hpc]
  cases st with
  | idle => rfl
  | exit => rfl
  | arp env stale rd => exact final_stays watch (arpPacketGet env cfg stale rd) { s with out := [] } hlive
  | dhcp env ck rd buf => exact final_stays watch (dhcpPacketGet env cfg ck rd buf) { s with out := [] } hlive
  | handle env inp => exact absurd rfl (h env inp)

theorem limited_of_wp {α : Type} (m : M α) (L : List Call) (later : Int) (s : Sys)
    (h : wp m (fun _ _ => Limited L) (Through L later) s) : Limited L := by
  unfold wp at h
  split at h
  · exact h
  · exact h.1

/-- A call, and what it leaves if the lease is kept. -/
theorem handle_sound (env : Env) (inp : Input) (now later : Int) (s : Sys) (hs : SoundAt log now s)
    (hpc : s.pc = .bound) (hticks : Ticks env inp.nowts now later)
    (horderly : ∀ c ∈ (Step.handle env inp).calls cfg s, c.Orderly) :
    Limited (log ++ (Step.handle env inp).calls cfg s) ∧
      (((Step.handle env inp).next cfg s).pc = .bound →
        SoundAt (log ++ (Step.handle env inp).calls cfg s) later ((Step.handle env inp).next cfg s)) := by
  have hcalls : (Step.handle env inp).calls cfg s = passCalls env cfg inp { s with out := [] } := if_pos hpc
  rw [hcalls] at horderly ⊢
  have hpass := boundPass_sound log now env cfg inp later { s with out := [] } hs hticks horderly
  refine ⟨limited_of_wp _ _ _ _ hpass, ?_⟩
  exact bound_stays env cfg inp (SoundAt (log ++ passCalls env cfg inp { s with out := [] }) later) s hpc
    (wp_mono _ _ _ _ _ _ hpass (fun _ _ _ => trivial) (fun _ _ h => h.2))

/-- While a lease is held and the calls are orderly, the defense is rate limited. -/
theorem run_limited (steps : List Step) (now : Int) (s : Sys) (hs : SoundAt log now s)
    (hphase : Along cfg (fun _ s => s.pc = .bound) steps s) (hclock : Clock steps now)
    (horderly : ∀ c ∈ calls cfg steps s, c.Orderly) : Limited (log ++ calls cfg steps s) := by
  induction steps generalizing log now s with
  | nil =>
    rw [show calls cfg [] s = [] from rfl, List.append_nil]
    exact hs.limited
  | cons st steps ih =>
    obtain ⟨hpc, hrest⟩ := hphase
    rw [show calls cfg (st :: steps) s = st.calls cfg s ++ calls cfg steps (st.next cfg s) from rfl]
      at horderly ⊢
    have hhere : ∀ c ∈ st.calls cfg s, c.Orderly := fun c hc => horderly c (List.mem_append_left _ hc)
    have hlater : ∀ c ∈ calls cfg steps (st.next cfg s), c.Orderly :=
      fun c hc => horderly c (List.mem_append_right _ hc)
    -- the next state matters only if the lease is still held then
    suffices h : Limited (log ++ st.calls cfg s) ∧ ((st.next cfg s).pc = .bound →
        ∃ later, SoundAt (log ++ st.calls cfg s) later (st.next cfg s) ∧ Clock steps later) by
      rw [← List.append_assoc]
      cases steps with
      | nil =>
        rw [show calls cfg [] (st.next cfg s) = [] from rfl, List.append_nil]
        exact h.1
      | cons st' steps =>
        obtain ⟨later, hsound, hclock⟩ := h.2 hrest.1
        exact ih _ later _ hsound hrest hclock hlater
    by_cases hhandle : ∃ env inp, st = .handle env inp
    · obtain ⟨env, inp, rfl⟩ := hhandle
      obtain ⟨later, hticks, hclock⟩ := hclock
      obtain ⟨hlimited, hnext⟩ := handle_sound log cfg env inp now later s hs hpc hticks hhere
      exact ⟨hlimited, fun hb => ⟨later, hnext hb, hclock⟩⟩
    · have hread : ∀ env inp, st ≠ .handle env inp := fun env inp h => hhandle ⟨env, inp, h⟩
      have hcalls : st.calls cfg s = [] := by
        cases st with
        | handle env inp => exact absurd rfl (hread env inp)
        | _ => rfl
      have hclock : Clock steps now := by
        cases st with
        | handle env inp => exact absurd rfl (hread env inp)
        | _ => exact hclock
      rw [hcalls, List.append_nil]
      refine ⟨hs.limited, fun hb => ⟨now, ?_, hclock⟩⟩
      show Guard.Sound log now (guardOf (st.next cfg s))
      rw [show guardOf (st.next cfg s) = guardOf s from congrArg Prod.fst (st.watch_of_read cfg s hread hb)]
      exact hs

end

end

/-! ### Taking the lease -/

instance (env : Env) : Routine steady AnyWay (arpQueryGateway env) := by
  unfold arpQueryGateway
  infer_instance

/-- The timer is not armed when a lease is taken. -/
theorem bindTail_unarmed (env : Env) (u : Sys) (hu : traces u = noTraces) :
    wp (bindTail env) (fun _ _ => False) (EndsIn fun t => t.pc = .bound → t.garp.wakeTs.defense = -1) u := by
  have hnone : (steady u).defense = -1 := congrArg (fun v => v.2.2.2.2) hu
  apply wp_bindTail env _ (fun t hdead hb => nomatch hdead.symm.trans hb) u
  apply wp_mono _ _ u _ _ _ (Routine.ends (f := steady) (X := AnyWay) u) ?_ (fun _ _ h => h)
  intro _ v hv
  apply wp_mono _ _ v _ _ _ (Routine.ends (f := steady) (X := AnyWay) v) ?_ (fun _ _ h => h)
  intro _ w hw _
  exact (congrArg Steady.defense (hw.trans hv)).trans hnone

theorem defense_unarmed (cfg : ClientConfig) (b : Startup) (pre : List Step) (take : Step)
    (hout : (run cfg pre (.start b)).pc ≠ .bound) :
    (take.next cfg (run cfg pre (.start b))).pc = .bound →
      (take.next cfg (run cfg pre (.start b))).garp.wakeTs.defense = -1 := by
  have hclear := clear_outside cfg b pre
  generalize run cfg pre (.start b) = s at hout hclear
  by_cases hhandle : ∃ env inp, take = .handle env inp
  · obtain ⟨env, inp, rfl⟩ := hhandle
    apply dhcpHandle_rule env cfg inp (fun t => t.pc = .bound → t.garp.wakeTs.defense = -1) ?_ s hclear
    · exact fun t hdead hb => nomatch hdead.symm.trans hb
    · exact bindTail_unarmed env
    · exact fun hb => absurd hb hout
    · exact fun t ht _ => congrArg (fun v => v.2.2.2.2) ht
  · obtain ⟨pc, hcore, hpc⟩ := take.core_of_read cfg s fun env inp h => hhandle ⟨env, inp, h⟩
    intro hb
    have hb : pc = .bound := (congrArg Core.pc hcore).symm.trans hb
    rcases hpc with rfl | rfl
    · exact absurd hb hout
    · cases hb

/-! ### A peer -/

instance (c : Call) : Decidable c.Orderly := by
  cases c with
  | conflict => exact inferInstanceAs (Decidable (_ ∨ _))
  | timeout => exact inferInstanceAs (Decidable (_ → _))

instance (c d : Call) : Decidable (c.GivesWay d) := by
  cases c with
  | timeout => exact isTrue trivial
  | conflict =>
    cases d with
    | timeout => exact isTrue trivial
    | conflict => exact inferInstanceAs (Decidable (_ → _))

/-- A peer answers for 192.168.1.10. -/
def conflictAt (nowts : Int) : List Step :=
  [.arp { calmEnv with curms := fun _ => nowts } .zero (.data (arpReplyFrom [2, 0, 0, 0, 0, 9])),
    .handle { calmEnv with curms := fun _ => nowts } { quietInput nowts with sevArp := true }]

/-- The step that takes the lease of 192.168.1.10. -/
def takeLease : Step := .handle calmEnv { quietInput 2000 with arpTimeout := true }

/-- An ARP timer comes due. -/
def timerAt (nowts : Int) : Step :=
  .handle { calmEnv with curms := fun _ => nowts } { quietInput nowts with arpTimeout := true }

-- in the relentless mode a timer of another kind sets off a defense that is not due before 26900
example :
    (calls exampleConfig ([timerAt 5000] ++ conflictAt 6000 ++ conflictAt 16000 ++ [timerAt 16900] ++
        conflictAt 26000 ++ [timerAt 26100])
      (takeLease.next exampleConfig
        (run exampleConfig probingRun (.start ⟨0, true, false, 3, true, by decide⟩)))).filterMap Call.sent =
      [6000, 16900, 26100] := by decide +kernel

end Ndhc
