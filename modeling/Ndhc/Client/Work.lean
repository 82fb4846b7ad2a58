import Ndhc.Client.Passes

/-!
# Runs of the client

A run is a sequence of reads of the two packet sockets and calls of `dhcp_handle` with any
arguments (`Step`).  `do_ndhc_work` is narrower: an iteration reads one event and computes the
arguments from it, the clock and the armed timers (`work`); each of its iterations is such a
sequence (`work_steps`), so what holds of every run holds of the client.
-/

namespace Ndhc

open Prog

/-! ## Reading -/

section
variable (env : Env) (cfg : ClientConfig)

/-- `arp_packet_get`; `stale` is what the stack held where the frame is read to. -/
def arpPacketGet (stale : ArpMsg) : ReadResult → M Bool
  | .again => pure false
  | .error => do
    arpMinCloseFd
    let s ← get
    let r ← arpOpenFd env .arpReopen s.cs.arpIsDefense
    if r < 0 then suicide else pure false
  | .data frame => do
    let s ← get
    let amsg := stale.recv frame
    if frame.length < ARP_MSG_SIZE then pure false
    else if !s.garp.usingBpf ∧ (arpValidateBpf amsg = 0 ∨
        (s.cs.arpIsDefense ∧ arpValidateBpfDefense s.cs.clientAddr cfg.arp amsg = 0)) then pure false
    else do
      modify fun s => { s with garp.reply := amsg }
      pure true

/-- `dhcp_packet_get`: the buffer, and type and source of an accepted packet. -/
def dhcpPacketGet (ck : NetChecksum) (rd : ReadResult) (buf : DhcpMsg) :
    M (DhcpMsg × Option (UInt8 × UInt32)) := do
  let s ← get
  if s.cs.listenFd < 0 then pure (buf, none)
  else if getRawPacket ck s.cs.usingDhcpBpf rd buf = .fatal then do
    stopDhcpListen
    startDhcpListen env .dhcpReopen
    pure (buf, none)
  else pure (receive ck cfg s.cs.xid s.cs.usingDhcpBpf rd buf)

end

section
variable (env : Env) (cfg : ClientConfig)

instance (stale : ArpMsg) (rd : ReadResult) :
    Routine core Dies (arpPacketGet env cfg stale rd) := by
  cases rd with
  | again => exact inferInstanceAs (Routine core Dies (pure false))
  | error =>
    unfold arpPacketGet
    infer_instance
  | data frame =>
    unfold arpPacketGet
    infer_instance

instance (ck : NetChecksum) (rd : ReadResult) (buf : DhcpMsg) :
    Routine core Dies (dhcpPacketGet env cfg ck rd buf) := by
  unfold dhcpPacketGet
  infer_instance

end

/-! ## Steps and runs -/

inductive Step where
  | idle
  | exit
  | arp (env : Env) (stale : ArpMsg) (rd : ReadResult)
  | dhcp (env : Env) (ck : NetChecksum) (rd : ReadResult) (buf : DhcpMsg)
  | handle (env : Env) (inp : Input)

/-- The state a program leaves, however it ends. -/
def final {α : Type} (m : M α) (s : Sys) : Sys :=
  match m s with
  | .ok _ t => t
  | .error _ t => t

/-- How a program is left, if it does not return. -/
def leftBy {α : Type} (m : M α) (s : Sys) : Option Stop :=
  match m s with
  | .ok _ _ => none
  | .error e _ => some e

theorem error_of_leftBy {α : Type} (m : M α) (s : Sys) (e : Stop) (h : leftBy m s = some e) :
    m s = .error e (final m s) := by
  unfold leftBy at h
  unfold final
  cases hm : m s with
  | ok a t =>
    rw [hm] at h
    cases h
  | error e' t =>
    rw [hm] at h
    cases h
    rfl

theorem final_of_wp {α : Type} (m : M α) (s : Sys) (P : Sys → Prop)
    (h : wp m (fun _ t => P t) (fun _ t => P t) s) : P (final m s) := by
  unfold wp at h
  unfold final
  split
  · next hm =>
    rw [hm] at h
    exact h
  · next hm =>
    rw [hm] at h
    exact h

theorem wp_final {α : Type} (m : M α) (s : Sys) :
    wp m (fun _ t => t = final m s) (fun _ t => t = final m s) s := by
  unfold wp final
  cases m s with
  | ok a t => rfl
  | error e t => rfl

theorem final_routine {α : Type} (m : M α) [h : Routine core Dies m] (s : Sys) :
    core (final m s) = core s ∨ core (final m s) = { core s with pc := .dead } := by
  apply final_of_wp m s fun t => core t = core s ∨ core t = { core s with pc := .dead }
  exact wp_mono _ _ s _ _ _ (h.ends s) (fun _ _ ht => Or.inl ht) (fun _ _ hd => Or.inr hd.2)

section
variable (cfg : ClientConfig)

def Step.next : Step → Sys → Sys
  | .idle, s => { s with out := [] }
  | .exit, s => { s with out := [], pc := .dead }
  | .arp env stale rd, s => final (arpPacketGet env cfg stale rd) { s with out := [] }
  | .dhcp env ck rd buf, s => final (dhcpPacketGet env cfg ck rd buf) { s with out := [] }
  | .handle env inp, s => final (dhcpHandle env cfg inp) s

theorem Step.read_or_call (st : Step) :
    (∀ env inp, st ≠ .handle env inp) ∨ ∃ env inp, st = .handle env inp := by
  cases st with
  | idle => exact Or.inl fun _ _ => nofun
  | exit => exact Or.inl fun _ _ => nofun
  | arp => exact Or.inl fun _ _ => nofun
  | dhcp => exact Or.inl fun _ _ => nofun
  | handle env inp => exact Or.inr ⟨env, inp, rfl⟩

/-- A step other than a call does no more than read. -/
theorem Step.core_of_read (st : Step) (s : Sys) (h : ∀ env inp, st ≠ .handle env inp) :
    ∃ pc, core (st.next cfg s) = { (core s).fresh with pc := pc } ∧ (pc = s.pc ∨ pc = .dead) := by
  have hread : ∀ {α : Type} (m : M α) [Routine core Dies m],
      ∃ pc, core (final m { s with out := [] }) = { (core s).fresh with pc := pc } ∧
        (pc = s.pc ∨ pc = .dead) := by
    intro α m _
    rcases final_routine m { s with out := [] } with hm | hm
    · exact ⟨s.pc, hm, Or.inl rfl⟩
    · exact ⟨.dead, hm, Or.inr rfl⟩
  cases st with
  | idle => exact ⟨s.pc, rfl, Or.inl rfl⟩
  | exit => exact ⟨.dead, rfl, Or.inr rfl⟩
  | arp env stale rd => exact hread (arpPacketGet env cfg stale rd)
  | dhcp env ck rd buf => exact hread (dhcpPacketGet env cfg ck rd buf)
  | handle env inp => exact absurd rfl (h env inp)

/-- A client that is not dead after a read was not before. -/
theorem Step.alive_of_read (st : Step) (s : Sys) (h : ∀ env inp, st ≠ .handle env inp)
    (hlive : (st.next cfg s).pc ≠ .dead) : s.pc ≠ .dead := by
  obtain ⟨pc, hcore, hpc⟩ := st.core_of_read cfg s h
  have hnext : (st.next cfg s).pc = pc := congrArg Core.pc hcore
  rw [hnext] at hlive
  rcases hpc with rfl | rfl
  · exact hlive
  · exact absurd rfl hlive

def run (steps : List Step) (s : Sys) : Sys := steps.foldl (fun s st => st.next cfg s) s

/-- `P` holds at every step of a run. -/
def Along (P : Step → Sys → Prop) : List Step → Sys → Prop
  | [], _ => True
  | st :: steps, s => P st s ∧ Along P steps (st.next cfg s)

theorem Along.mono (P Q : Step → Sys → Prop) (h : ∀ st s, P st s → Q st s) (steps : List Step)
    (s : Sys) (hP : Along cfg P steps s) : Along cfg Q steps s := by
  induction steps generalizing s with
  | nil => trivial
  | cons st steps ih => exact ⟨h st s hP.1, ih _ hP.2⟩

theorem Along.congr (P Q : Step → Sys → Prop) (h : ∀ st s, P st s ↔ Q st s) (steps : List Step)
    (s : Sys) : Along cfg P steps s ↔ Along cfg Q steps s :=
  ⟨Along.mono cfg P Q (fun st s => (h st s).mp) steps s, Along.mono cfg Q P (fun st s => (h st s).mpr) steps s⟩

theorem run_append (as bs : List Step) (s : Sys) : run cfg (as ++ bs) s = run cfg bs (run cfg as s) :=
  List.foldl_append

theorem along_append (P : Step → Sys → Prop) (as bs : List Step) (s : Sys) :
    Along cfg P (as ++ bs) s ↔ Along cfg P as s ∧ Along cfg P bs (run cfg as s) := by
  induction as generalizing s with
  | nil => exact ⟨fun h => ⟨trivial, h⟩, And.right⟩
  | cons st as ih => exact (and_congr_right fun _ => ih _).trans and_assoc.symm

/-- If a step that meets `C` keeps `I` and gives `P`, so does a run whose steps all meet `C`. -/
theorem Along.of_invariant (C P : Step → Sys → Prop) (I : Sys → Prop)
    (hstep : ∀ st s, I s → C st s → I (st.next cfg s) ∧ P st s) (steps : List Step) (s : Sys)
    (hI : I s) (h : Along cfg C steps s) : Along cfg P steps s := by
  induction steps generalizing s with
  | nil => trivial
  | cons st steps ih =>
    obtain ⟨hC, hrest⟩ := h
    obtain ⟨hnext, hP⟩ := hstep st s hI hC
    exact ⟨hP, ih _ hnext hrest⟩

end

/-! ## The main loop -/

/-- The signals `signal_dispatch` tells apart. -/
inductive Signo where
  | usr1
  | usr2
  | chld
  | term
  | other
  deriving DecidableEq, Repr

/-- `IFS_*` -/
inductive Ifs where
  | none
  | up
  | down
  | shut
  | removed
  deriving DecidableEq, Repr

/-- `RFK_*` -/
inductive Rfk where
  | none
  | fail
  | enabled
  | disabled
  deriving DecidableEq, Repr

/-- What `epoll_wait` reported: nothing, or one descriptor, with what reading it gave. -/
inductive Event where
  | none
  | signal (si : Option Signo)
  | dhcp (rd : ReadResult)
  | arp (stale : ArpMsg) (rd : ReadResult)
  | netlink (state : Ifs)
  | rfkill (ev : Rfk)
  | hangup

/-- What the events of an iteration come to. -/
structure Events where
  sevDhcp : Option (UInt8 × UInt32)
  sevArp : Bool
  sevNl : Ifs
  sevRfk : Rfk
  sevSignal : Signal
  deriving DecidableEq

def Events.empty : Events := ⟨.none, false, .none, .none, .none⟩

/-- The state of `do_ndhc_work`. -/
structure Work where
  sys : Sys
  dhcpPacket : DhcpMsg
  rfkillSet : Bool
  rfkillNlCarrierWentup : Bool
  deriving DecidableEq

/-- The outside of one iteration: the event, the clock, and what `carrier_isup` answers at
the two places that ask. -/
structure Iteration where
  env : Env
  event : Event
  nowts : Int
  carrierUnblocked : Bool
  carrierIsup : Bool

section
variable (ck : NetChecksum) (cfg : ClientConfig)

def signalDispatch : Option Signo → M Signal
  | some .usr1 => pure .renew
  | some .usr2 => pure .release
  | some .chld => suicide
  | some .term => suicide
  | some .other => pure .none
  | none => pure .none

/-- The body of the loop over `events`, with the buffer packets are read to. -/
def readEvent (env : Env) (buf : DhcpMsg) : Event → M (DhcpMsg × Events)
  | .none => pure (buf, .empty)
  | .signal si => do
    let sig ← signalDispatch si
    pure (buf, { Events.empty with sevSignal := sig })
  | .dhcp rd => do
    let r ← dhcpPacketGet env cfg ck rd buf
    pure (r.1, { Events.empty with sevDhcp := r.2 })
  | .arp stale rd => do
    let r ← arpPacketGet env cfg stale rd
    pure (buf, { Events.empty with sevArp := r })
  -- an interface that is gone ends the process in `nl_event_carrier_wentup`
  | .netlink state => if state = .removed then suicide else pure (buf, { Events.empty with sevNl := state })
  | .rfkill ev => pure (buf, { Events.empty with sevRfk := ev })
  | .hangup => suicide

/-- `rfkill_set` and `rfkill_nl_carrier_wentup` after the events, and `force_fingerprint`. -/
def latches (w : Work) (carrierUnblocked : Bool) (ev : Events) : Bool × Bool × Bool :=
  let set := if ev.sevRfk = .enabled then true else if ev.sevRfk = .disabled then false else w.rfkillSet
  let wentup := if ev.sevRfk = .enabled then false else w.rfkillNlCarrierWentup
  let force := ev.sevRfk = .disabled ∧ wentup ∧ carrierUnblocked
  if ev.sevNl = .up then if !set then (set, wentup, true) else (set, true, force)
  else (set, wentup, force)

/-- The arguments of the call, the two timeout flags from the armed timers. -/
def callInput (s : Sys) (buf : DhcpMsg) (nowts : Int) (force : Bool) (ev : Events) : Input where
  nowts := nowts
  sevDhcp := ev.sevDhcp.isSome
  dhcpPacket := buf
  dhcpMsgtype := (ev.sevDhcp.map (·.1)).getD 0
  dhcpSrcaddr := (ev.sevDhcp.map (·.2)).getD 0
  sevArp := ev.sevArp
  forceFingerprint := force
  dhcpTimeout := decide (s.cs.dhcpWakeTs ≤ nowts)
  arpTimeout := decide (arpGetWakeTs s.garp ≤ nowts)
  sevSignal := ev.sevSignal

/-- Whether the interface can be used, with the two latches and `force_fingerprint`. -/
def usable (it : Iteration) (w : Work) (ev : Events) : Prop :=
  (latches w it.carrierUnblocked ev).1 = false ∧ it.carrierIsup = true

instance (it : Iteration) (w : Work) (ev : Events) : Decidable (usable it w ev) :=
  inferInstanceAs (Decidable (_ ∧ _))

/-- An iteration behind its events: nothing more while the interface is down. -/
def handleEvents (it : Iteration) (w : Work) (buf : DhcpMsg) (ev : Events) (s : Sys) : Work where
  sys := if usable it w ev
    then final (dhcpHandle it.env cfg
      (callInput s buf it.nowts (latches w it.carrierUnblocked ev).2.2 ev)) s
    else s
  dhcpPacket := buf
  rfkillSet := (latches w it.carrierUnblocked ev).1
  rfkillNlCarrierWentup := (latches w it.carrierUnblocked ev).2.1

/-- One iteration of `do_ndhc_work`.  How long `epoll_wait` then waits is left open: an
iteration may come at any time. -/
def work (it : Iteration) (w : Work) : Work :=
  if w.sys.pc = .dead then { w with sys.out := [] }
  else
    match readEvent ck cfg it.env w.dhcpPacket it.event { w.sys with out := [] } with
    | .error _ s => { w with sys := s }
    | .ok (buf, ev) s => handleEvents cfg it w buf ev s

theorem final_bind_pure {α β : Type} (m : M α) (g : α → β) (s : Sys) :
    final (m >>= fun a => pure (g a)) s = final m s := by
  show final (EStateM.bind m fun a => pure (g a)) s = final m s
  unfold final EStateM.bind
  cases m s <;> rfl

/-- Reading an event is a step. -/
theorem readEvent_step (env : Env) (buf : DhcpMsg) (ev : Event) (s : Sys) :
    ∃ st : Step, final (readEvent ck cfg env buf ev) { s with out := [] } = st.next cfg s := by
  cases ev with
  | none => exact ⟨.idle, rfl⟩
  | signal si =>
    rcases si with _ | (_ | _ | _ | _ | _)
    · exact ⟨.idle, rfl⟩
    · exact ⟨.idle, rfl⟩
    · exact ⟨.idle, rfl⟩
    · exact ⟨.exit, rfl⟩
    · exact ⟨.exit, rfl⟩
    · exact ⟨.idle, rfl⟩
  | dhcp rd => exact ⟨.dhcp env ck rd buf, final_bind_pure _ _ _⟩
  | arp stale rd => exact ⟨.arp env stale rd, final_bind_pure _ _ _⟩
  | netlink state =>
    cases state with
    | removed => exact ⟨.exit, rfl⟩
    | none => exact ⟨.idle, rfl⟩
    | up => exact ⟨.idle, rfl⟩
    | down => exact ⟨.idle, rfl⟩
    | shut => exact ⟨.idle, rfl⟩
  | rfkill ev => exact ⟨.idle, rfl⟩
  | hangup => exact ⟨.exit, rfl⟩

/-- **The main loop runs the client**: an iteration is a sequence of steps. -/
theorem work_steps (it : Iteration) (w : Work) :
    ∃ steps, (work ck cfg it w).sys = run cfg steps w.sys := by
  unfold work
  split
  · exact ⟨[.idle], rfl⟩
  · obtain ⟨st, hst⟩ := readEvent_step ck cfg it.env w.dhcpPacket it.event w.sys
    unfold final at hst
    split at hst
    · next r t hr =>
      obtain ⟨buf, ev⟩ := r
      rw [hr]
      show ∃ steps, (if usable it w ev then _ else t) = run cfg steps w.sys
      split
      · refine ⟨[st, .handle it.env
          (callInput t buf it.nowts (latches w it.carrierUnblocked ev).2.2 ev)], ?_⟩
        show final _ t = final _ (st.next cfg w.sys)
        rw [← hst]
      · exact ⟨[st], hst⟩
    · next e t hr =>
      rw [hr]
      exact ⟨[st], hst⟩

/-! ## What an iteration does -/

instance (env : Env) (buf : DhcpMsg) (ev : Event) :
    Routine core Dies (readEvent ck cfg env buf ev) := by
  cases ev with
  | signal si =>
    rcases si with _ | (_ | _ | _ | _ | _) <;> (unfold readEvent signalDispatch; infer_instance)
  | _ => unfold readEvent; infer_instance

/-- An iteration reads an event and calls `dhcp_handle`, or it does no more than read. -/
theorem work_cases (it : Iteration) (w : Work) :
    (∃ pc, core (work ck cfg it w).sys = { (core w.sys).fresh with pc := pc } ∧
      (pc = w.sys.pc ∨ pc = .dead)) ∨
    ∃ t inp, core t = (core w.sys).fresh ∧
      (work ck cfg it w).sys = final (dhcpHandle it.env cfg inp) t ∧
      (work ck cfg it w).rfkillSet = false := by
  unfold work
  split
  · exact Or.inl ⟨w.sys.pc, rfl, Or.inl rfl⟩
  · have hread := Routine.ends (f := core) (X := Dies)
      (m := readEvent ck cfg it.env w.dhcpPacket it.event) { w.sys with out := [] }
    unfold wp at hread
    split
    · next t hr =>
      rw [hr] at hread
      exact Or.inl ⟨.dead, hread.2, Or.inr rfl⟩
    · next buf ev t hr =>
      rw [hr] at hread
      by_cases hu : usable it w ev
      · exact Or.inr ⟨t, _, hread, if_pos hu, hu.1⟩
      · refine Or.inl ⟨w.sys.pc, ?_, Or.inl rfl⟩
        show core (if usable it w ev then _ else t) = _
        rw [if_neg hu]
        exact hread

end

end Ndhc
