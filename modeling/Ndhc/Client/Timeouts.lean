import Ndhc.Client.Armed
import Ndhc.Client.Conduct
import Ndhc.Client.Loop
import Ndhc.Client.Offers

/-!
# How long the main loop sleeps

The rest of `do_ndhc_work`: from the armed timers each iteration computes the timeout of the next
`epoll_wait`, with a fixed wait while the interface is down or after an error, and a failsafe
against timers that are due and stay so.  Whatever the timers do, the loop cannot spin: an
iteration without an event either took time or makes the next one take it.  And it cannot sleep for
good: the DHCP timer is armed in every state but RELEASED, and no armed timer is overslept by more
than the failsafe's ten seconds.
-/

namespace Ndhc

open Prog

/-! ## The wait -/

def INT_MIN : Int := -2147483648

/-- `tt`, cut to an `int` and to none below zero. -/
def toTimeout (tt : Int) : Int :=
  let tt := if (INT_MAX : Int) < tt then (INT_MAX : Int) else tt
  let tt := if tt < INT_MIN then INT_MIN else tt
  if tt < 0 then 0 else tt

/-- The earlier of two timers; one below zero is not armed. -/
def earlierTs (arpWakeTs dhcpWakeTs : Int) : Int :=
  if arpWakeTs < 0 then dhcpWakeTs
  else if dhcpWakeTs < 0 then arpWakeTs
  else if arpWakeTs < dhcpWakeTs then arpWakeTs else dhcpWakeTs

/-- `timeout` from the clock and the armed timers; `hadEvent` and `prevTimeout` are for the
failsafe. -/
def timeoutFor (nowts prevTimeout : Int) (hadEvent : Bool) (s : Sys) : Int :=
  if arpGetWakeTs s.garp < 0 ∧ s.cs.dhcpWakeTs < 0 then -1
  else if toTimeout (earlierTs (arpGetWakeTs s.garp) s.cs.dhcpWakeTs - nowts) = 0 ∧ prevTimeout = 0 ∧
      hadEvent = false then 10000
  else toTimeout (earlierTs (arpGetWakeTs s.garp) s.cs.dhcpWakeTs - nowts)

/-- `2000 + nk_random_u32() % 3000` -/
def longTimeout (random : UInt32) : Int := 2000 + (random % 3000).toNat

/-- The variables of `do_ndhc_work` that outlive an iteration. -/
structure Loop where
  work : Work
  timeout : Int

/-- An iteration with the random number for its wait. -/
structure Turn where
  it : Iteration
  random : UInt32

/-- `epoll_wait` reported something. -/
def Event.occurred : Event → Bool
  | .none => false
  | _ => true

section
variable (ck : NetChecksum) (cfg : ClientConfig)

/-- One pass of the loop.  Behind a call that ends the process no wait follows. -/
def Loop.turn (t : Turn) (l : Loop) : Loop where
  work := Ndhc.work ck cfg t.it l.work
  timeout :=
    match workCall ck cfg t.it l.work with
    | none => longTimeout t.random
    | some inp =>
      match leftBy (dhcpHandle t.it.env cfg inp) (readState ck cfg t.it l.work) with
      | some (.ret code) =>
        if code = COR_ERROR then longTimeout t.random
        else timeoutFor t.it.nowts l.timeout t.it.event.occurred (Ndhc.work ck cfg t.it l.work).sys
      | _ => longTimeout t.random

def Loop.turns (ts : List Turn) (l : Loop) : Loop := ts.foldl (fun l t => l.turn ck cfg t) l

/-- As the loop is entered. -/
def Loop.start (b : Startup) (buf : DhcpMsg) : Loop := ⟨⟨.start b, buf, false, false⟩, 0⟩

/-! ## No busy loop -/

/-- Turns at the times `epoll_wait` allows, the loop having been at `prev`: without an event it
returns once the timeout is over, and never if that is negative. -/
def Clocked (prev : Int) : List Turn → Loop → Prop
  | [], _ => True
  | t :: ts, l => prev ≤ t.it.nowts ∧
    (t.it.event.occurred = false → 0 ≤ l.timeout ∧ prev + l.timeout ≤ t.it.nowts) ∧
      Clocked t.it.nowts ts (l.turn ck cfg t)

/-- The time of the last turn. -/
def lastTime (prev : Int) : List Turn → Int
  | [] => prev
  | t :: ts => lastTime t.it.nowts ts

/-- How many turns had an event. -/
def eventful : List Turn → Nat
  | [] => 0
  | t :: ts => (if t.it.event.occurred then 1 else 0) + eventful ts

theorem longTimeout_bounds (random : UInt32) : 2000 ≤ longTimeout random ∧ longTimeout random < 5000 := by
  have hmod : (random % 3000).toNat < 3000 := by
    rw [UInt32.toNat_mod]
    exact Nat.mod_lt _ (by decide)
  unfold longTimeout
  omega

/-- Behind a turn without an event and without a wait, the loop waits. -/
theorem timeoutFor_failsafe (nowts : Int) (s : Sys) : timeoutFor nowts 0 false s ≠ 0 := by
  unfold timeoutFor
  split
  · decide
  · split
    · decide
    · next h => exact fun h0 => h ⟨h0, rfl, rfl⟩

/-- The wait behind a turn is the long one, or it is computed behind a call without an error. -/
theorem Loop.turn_timeout (t : Turn) (l : Loop) :
    (l.turn ck cfg t).timeout = longTimeout t.random ∨
      ∃ inp code, workCall ck cfg t.it l.work = some inp ∧
        leftBy (dhcpHandle t.it.env cfg inp) (readState ck cfg t.it l.work) = some (.ret code) ∧
        code ≠ COR_ERROR ∧ (l.turn ck cfg t).timeout =
          timeoutFor t.it.nowts l.timeout t.it.event.occurred (l.turn ck cfg t).work.sys := by
  unfold Loop.turn
  dsimp only
  cases hcall : workCall ck cfg t.it l.work with
  | none => exact Or.inl rfl
  | some inp =>
    dsimp only
    rcases hleft : leftBy (dhcpHandle t.it.env cfg inp) (readState ck cfg t.it l.work) with _ | (code | l' | _)
    · exact Or.inl rfl
    · dsimp only
      split
      · exact Or.inl rfl
      · next hcode => exact Or.inr ⟨inp, code, rfl, hleft, hcode, rfl⟩
    · exact Or.inl rfl
    · exact Or.inl rfl

theorem Loop.turn_waits (t : Turn) (l : Loop) (hevent : t.it.event.occurred = false) (hprev : l.timeout = 0) :
    (l.turn ck cfg t).timeout ≠ 0 := by
  have hlong := longTimeout_bounds t.random
  rcases l.turn_timeout ck cfg t with hto | ⟨_, _, _, _, _, hto⟩
  · omega
  · rw [hto, hevent, hprev]
    exact timeoutFor_failsafe _ _

/-- What a turn costs is paid by an event, by time, or by the wait it leaves. -/
def patience (l : Loop) : Int := if l.timeout = 0 then 0 else 1

/-- **The loop does not spin.**  However timers, packets and failures fall, the number of turns is
bounded by those with an event and the milliseconds passed. -/
theorem loop_does_not_spin (ts : List Turn) (prev : Int) (l : Loop) (h : Clocked ck cfg prev ts l) :
    (ts.length : Int) ≤ 2 * (eventful ts + (lastTime prev ts - prev)) + 1 := by
  suffices hp : ts.length + patience l ≤
      2 * (eventful ts + (lastTime prev ts - prev)) + patience (l.turns ck cfg ts) by
    have hle : patience (l.turns ck cfg ts) ≤ 1 := by unfold patience; split <;> omega
    have hge : 0 ≤ patience l := by unfold patience; split <;> omega
    omega
  induction ts generalizing prev l with
  | nil => simp [eventful, lastTime, Loop.turns]
  | cons t ts ih =>
    obtain ⟨hclock, hwait, hrest⟩ := h
    have hih := ih t.it.nowts (l.turn ck cfg t) hrest
    have hstep : 1 + patience l ≤ 2 * ((if t.it.event.occurred then 1 else 0) + (t.it.nowts - prev)) +
        patience (l.turn ck cfg t) := by
      have hl : patience l ≤ 1 := by unfold patience; split <;> omega
      have hl' : 0 ≤ patience (l.turn ck cfg t) := by unfold patience; split <;> omega
      by_cases hevent : t.it.event.occurred = true
      · rw [if_pos hevent]
        omega
      · have hevent : t.it.event.occurred = false := Bool.not_eq_true _ ▸ hevent
        obtain ⟨hnonneg, htime⟩ := hwait hevent
        rw [hevent, if_neg Bool.false_ne_true]
        by_cases hzero : l.timeout = 0
        · have hnext := Loop.turn_waits ck cfg t l hevent hzero
          have h0 : patience l = 0 := if_pos hzero
          have h1 : patience (l.turn ck cfg t) = 1 := if_neg hnext
          omega
        · omega
    show ((t :: ts).length : Int) + _ ≤ 2 * (((if t.it.event.occurred then 1 else 0) + eventful ts : Nat) +
      (lastTime t.it.nowts ts - prev)) + patience ((l.turn ck cfg t).turns ck cfg ts)
    rw [List.length_cons]
    push_cast
    omega

end

/-- A turn without an event in which everything answers. -/
def idleTurn (nowts : Int) : Turn := ⟨⟨calmEnv, .none, nowts, true, true⟩, 0⟩

/-- The first message goes out at once; the loop then sleeps for the four seconds until the next. -/
theorem loop_does_not_spin_idle :
    (([idleTurn 1000, idleTurn 5000].length : Nat) : Int) ≤
      2 * (eventful [idleTurn 1000, idleTurn 5000] + (lastTime 1000 [idleTurn 1000, idleTurn 5000] - 1000)) + 1 := by
  have hwait : (Loop.turn inetChecksum exampleConfig (idleTurn 1000) ⟨exampleWork, 0⟩).timeout = 4000 := by
    decide +kernel
  apply loop_does_not_spin inetChecksum exampleConfig _ 1000 ⟨exampleWork, 0⟩
  refine ⟨by decide, fun _ => by decide, by decide, fun _ => ?_, trivial⟩
  rw [hwait]
  decide

/-! ## The DHCP timer -/

/-- The DHCP timer has something to wait for. -/
def Stage.awaits : Stage → Bool
  | .requesting => true
  | .probing => true
  | .bound => true
  | .stalled => true
  | _ => false

/-- The timer is armed: while an offer or a lease is at hand, and in SELECTING unless this is the
`first` call. -/
structure Ticking (first : Bool) (c : Stage × Client) : Prop where
  awaiting : c.1.awaits = true → 0 ≤ c.2.wake
  selecting : c.1 = .selecting → first = false → 0 ≤ c.2.wake

section
variable {first : Bool} {g : Stage} {v : Client}

theorem Ticking.armed (hwake : 0 ≤ v.wake) : Ticking first (g, v) := ⟨fun _ => hwake, fun _ _ => hwake⟩

theorem Ticking.stopped : Ticking first (.stopped, v) :=
  ⟨fun h => absurd h Bool.false_ne_true, fun h => by cases h⟩

theorem Ticking.released : Ticking first (.released, v) :=
  ⟨fun h => absurd h Bool.false_ne_true, fun h => by cases h⟩

theorem Client.granted_wake (v : Client) (start : Int) (packet : DhcpMsg) (hstart : 0 ≤ start) :
    0 ≤ (v.granted start packet).wake := by
  show 0 ≤ start + ((leaseOf (getOptionLeasetime packet) >>> 1).toNat : Int) * 1000
  omega

theorem retryTime_nonneg (env : Env) (site : Site) (nowts : Int) (h : 0 ≤ nowts) : 0 ≤ retryTime env site nowts := by
  unfold retryTime
  omega

end

section
variable (env : Env) (inp : Input) (hclock : ∀ site, 0 ≤ env.curms site) (hnow : 0 ≤ inp.nowts)
include hclock hnow

/-- **Each act leaves the timer armed.** -/
theorem Act.ticking (first : Bool) (c d : Stage × Client) (hact : Act env inp c d) (h : Ticking first c) :
    Ticking first d := by
  have hrestart := hclock .reinitSelecting
  have hlater : 0 ≤ env.curms .reinitSelecting + 3000 := by omega
  have hawait : ∀ n, 0 ≤ inp.nowts + delayTimeout env n := by
    intro n
    have := delayTimeout_ge env n
    omega
  have hgrant : ∀ v : Client, 0 ≤ (v.granted (env.curms .getLeasetime) inp.dhcpPacket).wake :=
    fun v => v.granted_wake _ _ (hclock _)
  cases hact with
  | exit g v v' hout => exact .stopped
  | transaction v x => exact ⟨h.awaiting, h.selecting⟩
  | discover v hdue => exact .armed (hawait _)
  | offer v sid hans => exact .armed (hclock _)
  | request g v hg hdue hfew => exact .armed (hawait _)
  | giveUp g v hg hdue hmany => exact .armed hrestart
  | ack v sid hans haddr => exact .armed (hgrant (v.heeds sid inp.dhcpSrcaddr))
  | ackUntested v sid hans haddr => exact .armed hlater
  | probe v hdue => exact .armed (h.awaiting rfl)
  | decline v hframe => exact .armed hrestart
  | undeclined v hframe => exact .armed (h.awaiting rfl)
  | bind v hdue => exact .armed (h.awaiting rfl)
  | unbound v v' hdue hout => exact .stopped
  | arp v dip => exact .armed (h.awaiting rfl)
  | wait v hdue hage => exact .armed (hnow.trans hage.le)
  | renew v hdue hfrom hto =>
    have hretry := retryTime_nonneg env .renewingTimeout inp.nowts hnow
    exact .armed (le_min hretry (hnow.trans hto.le))
  | rebind v hdue hfrom hto =>
    have hretry := retryTime_nonneg env .rebindingTimeout inp.nowts hnow
    exact .armed (le_min hretry (hnow.trans hto.le))
  | forcedRenew v hsig => exact .armed (h.awaiting rfl)
  | extend v hans hfrom haddr => exact .armed (hgrant _)
  | check v hans hfrom haddr => exact .armed (hgrant v)
  | checkUntested v hans hfrom haddr => exact .armed hlater
  | nak v hans hfrom => exact .armed hlater
  | expire v hdue hrebind hend => exact .armed hrestart
  | surrender v x hframe => exact .armed hrestart
  | lose v harp => exact .armed hrestart
  | remove v hforce hpeer => exact .armed hrestart
  | stall v hforce hpeer => exact .armed (h.awaiting rfl)
  | recover v => exact .armed hrestart
  | cancel g v hg hsig => exact .released
  | release v x hsig => exact .released
  | resume v hsig => exact .armed hrestart

end

/-! ## Success leaves a timer -/

/-- A call that returns to SELECTING without an error has armed the timer. -/
def Rearmed (e : Stop) (t : Sys) : Prop :=
  ∀ code, e = .ret code → code ≠ COR_ERROR → t.pc.stage = .selecting → 0 ≤ t.cs.dhcpWakeTs

section
variable {α : Type} (env : Env) (cfg : ClientConfig) (inp : Input)

instance (priority := low) (m : M α) [h : Leaves Unreturned m] : Leaves Rearmed m where
  ends s hs := wp_mono _ _ s _ _ _ (h.ends s hs) (fun _ _ ht => ht) (fun _ _ he code hret => absurd hret (he code))

theorem rearmed_scrReturn (code : Int) (pc : Pc) (h : pc.stage ≠ .selecting) : Leaves Rearmed (scrReturn code pc : M α) where
  ends _ _ := fun _ _ _ hpc => absurd hpc h

instance (code : Int) : Leaves Rearmed (scrReturn code .requesting : M α) := rearmed_scrReturn _ _ (by decide)

instance (code : Int) : Leaves Rearmed (scrReturn code .probing : M α) := rearmed_scrReturn _ _ (by decide)

instance (code : Int) : Leaves Rearmed (scrReturn code .bound : M α) := rearmed_scrReturn _ _ (by decide)

instance (code : Int) : Leaves Rearmed (scrReturn code .newlease : M α) := rearmed_scrReturn _ _ (by decide)

instance (code : Int) : Leaves Rearmed (scrReturn code .released : M α) := rearmed_scrReturn _ _ (by decide)

instance : Leaves Unreturned (onRelease inp) := by
  unfold onRelease
  infer_instance

instance (packet : DhcpMsg) (msgtype : UInt8) (srcaddr : UInt32) (isRequesting : Bool) :
    Leaves Unreturned (selectingPacket env packet msgtype srcaddr isRequesting) := by
  unfold selectingPacket selectingOffer selectingAck noteServer getLeasetime
  cases getOptionServerid packet <;> infer_instance

instance : Leaves Unreturned (selectingDhcp env inp) := by
  unfold selectingDhcp
  infer_instance

instance : Leaves Rearmed (requestingDhcp env cfg inp) := by
  unfold requestingDhcp
  infer_instance

instance : Leaves Rearmed (requestTimer env inp .requesting) := by
  unfold requestTimer
  infer_instance

instance : Leaves Rearmed (requestTimer env inp .probing) := by
  unfold requestTimer
  infer_instance

instance : Leaves Rearmed (requestingPass env cfg inp) := by
  unfold requestingPass
  infer_instance

instance : Leaves Rearmed (probingArp env cfg inp) := by
  unfold probingArp arpDoCollisionCheck
  infer_instance

instance (packet : DhcpMsg) : Leaves Unreturned (ifchangeBind env packet) := by
  unfold ifchangeBind
  infer_instance

instance : Leaves Unreturned (arpLeaseObtained env cfg) where
  ends s _ := by
    unfold arpLeaseObtained
    rw [wp_bind, wp_get, wp_bind, wp_modify]
    exact Upholds.ends _ trivial

instance (nowts : Int) : Leaves Unreturned (arpCollisionTimeout env cfg nowts) := by
  unfold arpCollisionTimeout
  infer_instance

instance : Leaves Rearmed (probingArpTimeout env cfg inp) := by
  unfold probingArpTimeout
  infer_instance

instance : Leaves Rearmed (probingPass env cfg inp) := by
  unfold probingPass
  infer_instance

instance : Leaves Rearmed (boundSignal env inp) := by
  unfold boundSignal
  infer_instance

instance : Leaves Rearmed (boundDefense env cfg) := by
  unfold boundDefense
  infer_instance

instance : Leaves Rearmed (boundGwQuery env cfg) := by
  unfold boundGwQuery
  infer_instance

instance : Leaves Rearmed (boundGwCheck env cfg) := by
  unfold boundGwCheck
  infer_instance

instance : Leaves Rearmed (boundArp env cfg inp) := by
  unfold boundArp
  infer_instance

instance : Leaves Rearmed (boundGwTimeout env inp) := by
  unfold boundGwTimeout
  infer_instance

instance : Leaves Rearmed (boundArpTimeout env inp) := by
  unfold boundArpTimeout boundAnnounce
  infer_instance

instance : Leaves Rearmed (boundIfup env inp) := by
  unfold boundIfup
  infer_instance

instance : Leaves Rearmed (boundTimer env inp) := by
  unfold boundTimer
  infer_instance

instance : Leaves Rearmed (boundPass env cfg inp) := by
  unfold boundPass
  infer_instance

instance : Leaves Rearmed (releasedPass env inp) := by
  unfold releasedPass
  infer_instance

variable (hnow : 0 ≤ inp.nowts) (hdue : inp.dhcpTimeout = true)
include hnow hdue

/-- A due timer is armed anew, or the message could not be sent. -/
theorem selectingTimer_rearmed : Leaves Rearmed (selectingTimer env cfg inp) where
  ends s _ := by
    have hexit : ∀ t : Sys, Rearmed .exit t := fun _ _ h => by cases h
    unfold selectingTimer selectingTimeout freshXid
    rw [if_pos hdue, wp_bind, wp_bind]
    apply wp_unseen
    · intro _ t _
      rw [wp_bind]
      refine wp_mono _ _ t _ _ _ (Upholds.ends (P := fun _ => True) (E := fun _ _ => False) t trivial)
        (fun _ u _ => ?_) (fun _ _ he => he.elim)
      rw [wp_bind]
      apply wp_sendDhcp_out
      · intro r hr
        rw [wp_ite, if_pos hr]
        rintro code ⟨⟩ herr
        exact absurd rfl herr
      · intro r hr
        rw [wp_ite, if_neg hr]
        intro _ _ _ _
        have := delayTimeout_ge env u.cs.numDhcpRequests
        show 0 ≤ inp.nowts + delayTimeout env u.cs.numDhcpRequests
        omega
      · exact fun t _ _ => hexit t
    · exact fun t _ _ => hexit t

theorem selectingPass_rearmed : Leaves Rearmed (selectingPass env cfg inp) := by
  have := selectingTimer_rearmed env cfg inp hnow hdue
  unfold selectingPass
  infer_instance

theorem reinitPass_rearmed : Leaves Rearmed (reinitPass env cfg inp) := by
  have := selectingPass_rearmed env cfg inp hnow hdue
  unfold reinitPass
  infer_instance

theorem dhcpHandle_rearmed (s : Sys) : wp (dhcpHandle env cfg inp) (fun _ _ => True) Rearmed s := by
  have ends : ∀ (m : M Unit) (t : Sys) [Leaves Rearmed m], wp m (fun _ _ => True) Rearmed t :=
    fun m t h => h.ends t trivial
  rw [wp_dhcpHandle env cfg inp _ _ s s.pc rfl]
  apply wp_follow_ends
  · intro l t _
    have := reinitPass_rearmed env cfg { inp with sevDhcp := false } hnow hdue
    cases l with
    | reinit => exact ends (reinitPass env cfg { inp with sevDhcp := false }) t
    | requesting => exact ends (requestingPass env cfg { inp with sevDhcp := false }) t
    | released => exact ends (releasedPass env { inp with sevDhcp := false }) t
  · have := selectingPass_rearmed env cfg inp hnow hdue
    have := reinitPass_rearmed env cfg inp hnow hdue
    cases s.pc with
    | init => exact ends (reinitPass env cfg inp) _
    | selecting => exact ends (selectingPass env cfg inp) _
    | requesting => exact ends (requestingPass env cfg inp) _
    | probing => exact ends (probingPass env cfg inp) _
    | bound => exact ends (boundPass env cfg inp) _
    | newlease => exact ends (restart env 0) _
    | released => exact ends (releasedPass env inp) _
    | dead => exact ends suicide _

end

/-! ## The loop wakes -/

theorem toTimeout_bounds (tt : Int) : 0 ≤ toTimeout tt ∧ toTimeout tt ≤ max 0 tt := by
  unfold toTimeout INT_MAX INT_MIN
  dsimp only
  split <;> split <;> split <;> omega

/-- The fold of `arp_get_wake_ts`: it stays armed and at most what it was, and comes to the least
armed timer. -/
theorem foldl_wake_le (ws : List Int) (mt : Int) :
    let r := ws.foldl (fun mt w => if w < 0 then mt else if mt < 0 ∨ w < mt then w else mt) mt
    (0 ≤ mt → 0 ≤ r ∧ r ≤ mt) ∧ ∀ w ∈ ws, 0 ≤ w → 0 ≤ r ∧ r ≤ w := by
  induction ws generalizing mt with
  | nil => exact ⟨fun h => ⟨h, le_refl _⟩, fun _ h => absurd h List.not_mem_nil⟩
  | cons x ws ih =>
    have hnext : (0 ≤ mt → 0 ≤ (if x < 0 then mt else if mt < 0 ∨ x < mt then x else mt) ∧
        (if x < 0 then mt else if mt < 0 ∨ x < mt then x else mt) ≤ mt) ∧
        (0 ≤ x → 0 ≤ (if x < 0 then mt else if mt < 0 ∨ x < mt then x else mt) ∧
        (if x < 0 then mt else if mt < 0 ∨ x < mt then x else mt) ≤ x) := by
      split
      · omega
      · split <;> omega
    rw [List.foldl_cons]
    generalize (if x < 0 then mt else if mt < 0 ∨ x < mt then x else mt) = next at hnext ⊢
    obtain ⟨hkeep, hleast⟩ := ih next
    refine ⟨fun hmt => ?_, fun w hw h0 => ?_⟩
    · have hn := hnext.1 hmt
      have hr := hkeep hn.1
      omega
    · rcases List.mem_cons.mp hw with rfl | hw
      · have hn := hnext.2 h0
        have hr := hkeep hn.1
        omega
      · exact hleast w hw h0

theorem arpGetWakeTs_le (garp : ArpData) (w : Int) (hw : w ∈ garp.wakeTs.toList) (h0 : 0 ≤ w) :
    0 ≤ arpGetWakeTs garp ∧ arpGetWakeTs garp ≤ w :=
  (foldl_wake_le garp.wakeTs.toList (-1)).2 w hw h0

/-- A timer of the client: the one for DHCP, or one of those for ARP. -/
def Timers (s : Sys) (w : Int) : Prop := w = s.cs.dhcpWakeTs ∨ w ∈ s.garp.wakeTs.toList

theorem earlierTs_le (s : Sys) (w : Int) (hw : Timers s w) (h0 : 0 ≤ w) :
    earlierTs (arpGetWakeTs s.garp) s.cs.dhcpWakeTs ≤ w ∧
      ¬ (arpGetWakeTs s.garp < 0 ∧ s.cs.dhcpWakeTs < 0) := by
  unfold earlierTs
  rcases hw with rfl | hw
  · split
    · omega
    · split
      · omega
      · split <;> omega
  · have := arpGetWakeTs_le s.garp w hw h0
    split
    · omega
    · split
      · omega
      · split <;> omega

/-- No armed timer is overslept by more than the failsafe. -/
theorem timeoutFor_le (nowts prev : Int) (had : Bool) (s : Sys) (w : Int) (hw : Timers s w) (h0 : 0 ≤ w) :
    nowts + timeoutFor nowts prev had s ≤ max w nowts + 10000 := by
  obtain ⟨hle, harmed⟩ := earlierTs_le s w hw h0
  have hbound := toTimeout_bounds (earlierTs (arpGetWakeTs s.garp) s.cs.dhcpWakeTs - nowts)
  unfold timeoutFor
  rw [if_neg harmed]
  split <;> omega

section
variable (ck : NetChecksum) (cfg : ClientConfig)

instance (v : Client) (env : Env) (buf : DhcpMsg) (ev : Event) : Unseen v (readEvent ck cfg env buf ev) := by
  cases ev with
  | signal si =>
    rcases si with _ | (_ | _ | _ | _ | _) <;> (unfold readEvent signalDispatch; infer_instance)
  | _ => unfold readEvent; infer_instance

/-- The call of an iteration has its clock, and its timeout flag from the timer. -/
theorem workCall_timeout (it : Iteration) (w : Work) (inp : Input) (h : workCall ck cfg it w = some inp) :
    w.sys.pc ≠ .dead ∧ inp.nowts = it.nowts ∧
      inp.dhcpTimeout = decide ((readState ck cfg it w).cs.dhcpWakeTs ≤ it.nowts) := by
  unfold workCall at h
  unfold readState final
  split at h
  · cases h
  · next hlive =>
    split at h
    · cases h
    · next hr =>
      rw [hr]
      split at h
      · cases h
        exact ⟨hlive, rfl, rfl⟩
      · cases h

/-- The clock does not show a time below zero. -/
structure Turn.Sane (t : Turn) : Prop where
  now : 0 ≤ t.it.nowts
  clock : ∀ site, 0 ≤ t.it.env.curms site

/-- What holds between two iterations holds when the event has been read. -/
theorem readState_keeps (I : Stage × Client → Prop) (it : Iteration) (w : Work) (hstop : ∀ v, I (.stopped, v))
    (h : I (w.sys.pc.stage, (view w.sys).fresh)) :
    I ((readState ck cfg it w).pc.stage, (view (readState ck cfg it w)).fresh) := by
  rcases read_allowed (readEvent ck cfg it.env w.dhcpPacket it.event) w.sys with ⟨hstage, hview⟩ | ⟨hstage, _⟩
  · unfold readState
    rw [hstage, hview]
    exact h
  · unfold readState
    rw [hstage]
    exact hstop _

/-- What the acts of its call keep, an iteration keeps. -/
theorem work_keeps (I : Stage × Client → Prop) (it : Iteration) (w : Work) (hstop : ∀ v, I (.stopped, v))
    (hfresh : ∀ g v, I (g, v) → I (g, v.fresh))
    (hact : ∀ inp, workCall ck cfg it w = some inp → ∀ c d, Act it.env inp c d → I c → I d)
    (h : I (w.sys.pc.stage, (view w.sys).fresh)) :
    I ((work ck cfg it w).sys.pc.stage, (view (work ck cfg it w).sys).fresh) := by
  by_cases hdead : w.sys.pc = .dead
  · have hwork : (work ck cfg it w).sys = { w.sys with out := [] } := by
      unfold work
      rw [if_pos hdead]
    rw [hwork]
    exact h
  · have hread := readState_keeps ck cfg I it w hstop h
    rw [work_sys ck cfg it w hdead]
    cases hcall : workCall ck cfg it w with
    | none => exact hread
    | some inp => exact hfresh _ _ ((dhcpHandle_acts it.env cfg inp _).keeps I (hact inp hcall) hread)

/-- Between two turns. -/
def Loop.Ticks (l : Loop) : Prop := Ticking true (l.work.sys.pc.stage, (view l.work.sys).fresh)

/-- The call of a turn, from the state in which the event was read. -/
theorem call_ticking (first : Bool) (env : Env) (inp : Input) (s : Sys) (hclock : ∀ site, 0 ≤ env.curms site)
    (hnow : 0 ≤ inp.nowts) (h : Ticking first (s.pc.stage, (view s).fresh)) :
    Ticking first (protocol (final (dhcpHandle env cfg inp) s)) :=
  (dhcpHandle_acts env cfg inp s).keeps _ (Act.ticking env inp hclock hnow first) h

theorem Loop.turn_ticks (t : Turn) (l : Loop) (ht : t.Sane) (h : l.Ticks) : (l.turn ck cfg t).Ticks := by
  apply work_keeps ck cfg (Ticking true) t.it l.work (fun _ => .stopped) (fun _ _ h => ⟨h.awaiting, h.selecting⟩) _ h
  intro inp hcall
  obtain ⟨_, hnow, _⟩ := workCall_timeout ck cfg t.it l.work inp hcall
  exact Act.ticking t.it.env inp ht.clock (hnow ▸ ht.now) true

/-- Behind a call that returned without an error, the timer is armed unless there is nothing to wait
for. -/
theorem call_armed (it : Iteration) (w : Work) (inp : Input) (code : Int) (hclock : ∀ site, 0 ≤ it.env.curms site)
    (hnow : 0 ≤ it.nowts) (hcall : workCall ck cfg it w = some inp)
    (hret : leftBy (dhcpHandle it.env cfg inp) (readState ck cfg it w) = some (.ret code)) (hcode : code ≠ COR_ERROR)
    (h : Ticking true ((readState ck cfg it w).pc.stage, (view (readState ck cfg it w)).fresh))
    (hneg : (final (dhcpHandle it.env cfg inp) (readState ck cfg it w)).cs.dhcpWakeTs < 0) :
    (final (dhcpHandle it.env cfg inp) (readState ck cfg it w)).pc = .released ∨
      (final (dhcpHandle it.env cfg inp) (readState ck cfg it w)).pc = .dead := by
  obtain ⟨-, hts, hflag⟩ := workCall_timeout ck cfg it w inp hcall
  have hend := call_ticking cfg true it.env inp _ hclock (hts ▸ hnow) h
  -- SELECTING: a timer that was due was set again, one that was not is still armed
  have hselecting : (final (dhcpHandle it.env cfg inp) (readState ck cfg it w)).pc.stage ≠ .selecting := by
    intro hstage
    by_cases hdue : inp.dhcpTimeout = true
    · have hre := dhcpHandle_rearmed it.env cfg inp (hts ▸ hnow) hdue (readState ck cfg it w)
      rw [wp_error_iff _ _ _ _ _ _ (error_of_leftBy _ _ _ hret)] at hre
      exact absurd (hre code rfl hcode hstage) (Int.not_le.mpr hneg)
    · rw [hflag, decide_eq_true_eq] at hdue
      have hwake : 0 ≤ (readState ck cfg it w).cs.dhcpWakeTs := by omega
      have hend' := call_ticking cfg false it.env inp _ hclock (hts ▸ hnow)
        ⟨h.awaiting, fun _ _ => hwake⟩
      exact absurd (hend'.selecting hstage rfl) (Int.not_le.mpr hneg)
  have hawaits : (final (dhcpHandle it.env cfg inp) (readState ck cfg it w)).pc.stage.awaits ≠ true :=
    fun ha => absurd (hend.awaiting ha) (Int.not_le.mpr hneg)
  cases hpc : (final (dhcpHandle it.env cfg inp) (readState ck cfg it w)).pc with
  | released => exact Or.inl rfl
  | dead => exact Or.inr rfl
  | init => exact absurd (by rw [hpc]; rfl) hselecting
  | selecting => exact absurd (by rw [hpc]; rfl) hselecting
  | _ => exact absurd (by rw [hpc]; rfl) hawaits

theorem timeoutFor_neg (nowts prev : Int) (had : Bool) (s : Sys) (h : timeoutFor nowts prev had s < 0) :
    s.cs.dhcpWakeTs < 0 := by
  have hbound := toTimeout_bounds (earlierTs (arpGetWakeTs s.garp) s.cs.dhcpWakeTs - nowts)
  unfold timeoutFor at h
  split at h
  · next hneg => exact hneg.2
  · split at h <;> omega

/-- What a turn leaves: no endless wait but in RELEASED, and none far beyond an armed timer. -/
theorem Loop.turn_wakes (t : Turn) (l : Loop) (ht : t.Sane) (h : l.Ticks) :
    ((l.turn ck cfg t).timeout < 0 →
      (l.turn ck cfg t).work.sys.pc = .released ∨ (l.turn ck cfg t).work.sys.pc = .dead) ∧
    ∀ w, Timers (l.turn ck cfg t).work.sys w → 0 ≤ w →
      t.it.nowts + (l.turn ck cfg t).timeout ≤ max w t.it.nowts + 10000 := by
  have hlong := longTimeout_bounds t.random
  rcases l.turn_timeout ck cfg t with hto | ⟨inp, code, hcall, hret, hcode, hto⟩
  · rw [hto]
    exact ⟨fun hneg => by omega, fun w _ _ => by omega⟩
  · rw [hto]
    refine ⟨fun hneg => ?_, fun w hw h0 => timeoutFor_le _ _ _ _ w hw h0⟩
    have hread := readState_keeps ck cfg (Ticking true) t.it l.work (fun _ => .stopped) h
    have hlive := (workCall_timeout ck cfg t.it l.work inp hcall).1
    have hwork : (l.turn ck cfg t).work.sys =
        final (dhcpHandle t.it.env cfg inp) (readState ck cfg t.it l.work) := by
      show (Ndhc.work ck cfg t.it l.work).sys = _
      rw [work_sys ck cfg t.it l.work hlive, hcall]
    have hwake := timeoutFor_neg _ _ _ _ hneg
    rw [hwork] at hwake ⊢
    exact call_armed ck cfg t.it l.work inp code ht.clock ht.now hcall hret hcode hread hwake

theorem Loop.turns_ticks (ts : List Turn) (l : Loop) (hts : ∀ t ∈ ts, t.Sane) (h : l.Ticks) :
    (l.turns ck cfg ts).Ticks := by
  induction ts generalizing l with
  | nil => exact h
  | cons t ts ih =>
    exact ih _ (fun x hx => hts x (List.mem_cons_of_mem _ hx))
      (l.turn_ticks ck cfg t (hts t List.mem_cons_self) h)

/-- **The loop wakes in time.**  From the start of the program, behind every turn: the loop waits
without a limit only in RELEASED (or the process has ended), and no armed timer, of DHCP or ARP, is
overslept by more than ten seconds. -/
theorem loop_wakes_in_time (b : Startup) (buf : DhcpMsg) (ts : List Turn) (t : Turn)
    (hts : ∀ u ∈ ts, u.Sane) (ht : t.Sane) :
    ((((Loop.start b buf).turns ck cfg ts).turn ck cfg t).timeout < 0 →
      (((Loop.start b buf).turns ck cfg ts).turn ck cfg t).work.sys.pc = .released ∨
        (((Loop.start b buf).turns ck cfg ts).turn ck cfg t).work.sys.pc = .dead) ∧
    ∀ w, Timers (((Loop.start b buf).turns ck cfg ts).turn ck cfg t).work.sys w → 0 ≤ w →
      t.it.nowts + (((Loop.start b buf).turns ck cfg ts).turn ck cfg t).timeout ≤ max w t.it.nowts + 10000 := by
  have hstart : (Loop.start b buf).Ticks := ⟨fun h => absurd h Bool.false_ne_true, fun _ h => by cases h⟩
  exact Loop.turn_wakes ck cfg t _ ht (Loop.turns_ticks ck cfg ts _ hts hstart)

end

theorem idleTurn_sane (nowts : Int) (h : 0 ≤ nowts) : (idleTurn nowts).Sane := ⟨h, fun _ => le_refl 0⟩

/-- Behind the first message the DHCP timer is armed and met. -/
theorem loop_wakes_in_time_idle :
    Timers (Loop.turn inetChecksum exampleConfig (idleTurn 1000) ⟨exampleWork, 0⟩).work.sys 5000 ∧
      1000 + (Loop.turn inetChecksum exampleConfig (idleTurn 1000) ⟨exampleWork, 0⟩).timeout ≤
        max 5000 1000 + 10000 := by
  have htimer : Timers (Loop.turn inetChecksum exampleConfig (idleTurn 1000) ⟨exampleWork, 0⟩).work.sys 5000 :=
    Or.inl (by decide +kernel)
  refine ⟨htimer, ?_⟩
  exact (loop_wakes_in_time inetChecksum exampleConfig _ .zero [] (idleTurn 1000)
    (fun _ h => absurd h List.not_mem_nil) (idleTurn_sane 1000 (by decide))).2 5000 htimer (by decide)

end Ndhc
