import Ndhc.Client.Conflict

/-!
# What the main loop passes on

The events of an iteration of `do_ndhc_work` are locals of its body, and an iteration that finds
the radio blocked or the carrier down ends before `dhcp_handle`.  `workCall` is the call an
iteration makes; over a sequence of iterations this module compares the user signals read with
the signals passed, and follows the latch that remembers a carrier return while the radio is
blocked.
-/

namespace Ndhc

open Prog

/-! ## Reading the devices -/

/-- What `rfkill_get` looks at in a `struct rfkill_event`. -/
structure RfkillEvent where
  idx : UInt32
  op : UInt8
  soft : UInt8
  hard : UInt8
  deriving DecidableEq, Repr

def RFKILL_OP_CHANGE : UInt8 := 2
def RFKILL_OP_CHANGE_ALL : UInt8 := 3

/-- `rfkill_get`; a read that fails or has another size gives no event. -/
def rfkillGet (checkIdx : Bool) (rfkidx : UInt32) : Option RfkillEvent → Rfk
  | none => .fail
  | some event =>
    if checkIdx ∧ event.idx ≠ rfkidx then .none
    else if event.op ≠ RFKILL_OP_CHANGE ∧ event.op ≠ RFKILL_OP_CHANGE_ALL then .none
    else if event.soft ≠ 0 ∨ event.hard ≠ 0 then .enabled
    else .disabled

/-- A link message of the kernel: `RTM_NEWLINK` with `IFF_UP` and `IFF_RUNNING`, or
`RTM_DELLINK`. -/
inductive LinkMsg where
  | newlink (index : UInt32) (up running : Bool)
  | dellink (index : UInt32)
  deriving DecidableEq, Repr

def nlProcessMsgs (ifindex : UInt32) (ret : Ifs) : LinkMsg → Ifs
  | .newlink index up running =>
    if index ≠ ifindex then ret
    else if up then if running then .up else .down
    else .shut
  | .dellink index => if index ≠ ifindex then ret else .removed

/-- `nl_event_get`, from all the messages that were waiting. -/
def nlEventGet (ifindex : UInt32) (msgs : List LinkMsg) : Ifs :=
  msgs.foldl (nlProcessMsgs ifindex) .none

/-! ## The call of an iteration -/

section
variable (ck : NetChecksum) (cfg : ClientConfig)

/-- The state in which the events of an iteration have been read. -/
def readState (it : Iteration) (w : Work) : Sys :=
  final (readEvent ck cfg it.env w.dhcpPacket it.event) { w.sys with out := [] }

/-- The arguments an iteration calls `dhcp_handle` with, if it does. -/
def workCall (it : Iteration) (w : Work) : Option Input :=
  if w.sys.pc = .dead then none
  else
    match readEvent ck cfg it.env w.dhcpPacket it.event { w.sys with out := [] } with
    | .error _ _ => none
    | .ok (buf, ev) s =>
      if usable it w ev
      then some (callInput s buf it.nowts (latches w it.carrierUnblocked ev).2.2 ev)
      else none

/-- **The call of an iteration is made** in the state its events leave, and nothing else is. -/
theorem work_sys (it : Iteration) (w : Work) (hlive : w.sys.pc ≠ .dead) :
    (work ck cfg it w).sys =
      match workCall ck cfg it w with
      | none => readState ck cfg it w
      | some inp => final (dhcpHandle it.env cfg inp) (readState ck cfg it w) := by
  unfold work workCall readState final
  rw [if_neg hlive, if_neg hlive]
  cases hr : readEvent ck cfg it.env w.dhcpPacket it.event { w.sys with out := [] } with
  | error e s => rfl
  | ok r s =>
    obtain ⟨buf, ev⟩ := r
    by_cases hu : usable it w ev
    · simp only [hu, if_true, handleEvents]
      rfl
    · simp only [hu, if_false, handleEvents]

/-- The client after a sequence of iterations. -/
def works (its : List Iteration) (w : Work) : Work :=
  its.foldl (fun w it => work ck cfg it w) w

/-- A process that ended stays so. -/
theorem works_dead (its : List Iteration) (w : Work) (h : w.sys.pc = .dead) :
    (works ck cfg its w).sys.pc = .dead := by
  induction its generalizing w with
  | nil => exact h
  | cons it its ih =>
    apply ih
    show (work ck cfg it w).sys.pc = .dead
    unfold work
    rw [if_pos h]
    exact h

theorem live_of_works (its : List Iteration) (w : Work)
    (h : (works ck cfg its w).sys.pc ≠ .dead) : w.sys.pc ≠ .dead :=
  fun hd => h (works_dead ck cfg its w hd)

/-! ## Signals -/

/-- The user signal an event hands over. -/
def Event.userSignal : Event → Signal
  | .signal (some .usr1) => .renew
  | .signal (some .usr2) => .release
  | _ => .none

/-- What an event says of the radio switch. -/
def Event.rfk : Event → Rfk
  | .rfkill ev => ev
  | _ => .none

/-- What an event says of the link. -/
def Event.nl : Event → Ifs
  | .netlink state => state
  | _ => .none

/-- A signal as a list, empty for `SIGNAL_NONE`. -/
def Signal.toList : Signal → List Signal
  | .none => []
  | sig => [sig]

/-- The user signals read from the signalfd, in order. -/
def readSignals : List Iteration → Work → List Signal
  | [], _ => []
  | it :: its, w =>
    (if w.sys.pc = .dead then [] else it.event.userSignal.toList) ++
      readSignals its (work ck cfg it w)

/-- The signal an iteration passes to `dhcp_handle`. -/
def passedSignal (it : Iteration) (w : Work) : Signal :=
  ((workCall ck cfg it w).map Input.sevSignal).getD .none

/-- The signals that calls of `dhcp_handle` are passed, in order. -/
def passedSignals : List Iteration → Work → List Signal
  | [], _ => []
  | it :: its, w => (passedSignal ck cfg it w).toList ++ passedSignals its (work ck cfg it w)

/-- The radio is not blocked and the carrier is up in every iteration that reads a user signal. -/
def Heeded : List Iteration → Work → Prop
  | [], _ => True
  | it :: its, w =>
    (w.sys.pc ≠ .dead → it.event.userSignal ≠ .none → w.rfkillSet = false ∧ it.carrierIsup = true) ∧
      Heeded its (work ck cfg it w)

/-- What the events come to, as far as they are no packets, is said by the event read; an event
that ends the process is of no such kind. -/
theorem readEvent_events (env : Env) (buf : DhcpMsg) (ev : Event) (s : Sys) :
    wp (readEvent ck cfg env buf ev)
      (fun r _ => r.2.sevSignal = ev.userSignal ∧ r.2.sevRfk = ev.rfk ∧ r.2.sevNl = ev.nl)
      (fun _ _ => ev.rfk = .none ∧ ev.nl ≠ .up) s := by
  have hother : Rfk.none = .none ∧ Ifs.none ≠ .up := by decide
  have hremoved : Rfk.none = .none ∧ Ifs.removed ≠ .up := by decide
  cases ev with
  | none => exact ⟨rfl, rfl, rfl⟩
  | signal si =>
    rcases si with _ | (_ | _ | _ | _ | _) <;> first | exact ⟨rfl, rfl, rfl⟩ | exact hother
  | dhcp rd => exact wp_bind_all _ _ _ _ _ (fun _ _ => ⟨rfl, rfl, rfl⟩) (fun _ _ => hother)
  | arp stale rd => exact wp_bind_all _ _ _ _ _ (fun _ _ => ⟨rfl, rfl, rfl⟩) (fun _ _ => hother)
  | netlink state => cases state <;> first | exact ⟨rfl, rfl, rfl⟩ | exact hremoved
  | rfkill ev => exact ⟨rfl, rfl, rfl⟩
  | hangup => exact hother

/-- A user signal is read without any other event, so only the latch of earlier iterations and
the carrier decide. -/
theorem workCall_signal (it : Iteration) (w : Work) (hlive : w.sys.pc ≠ .dead)
    (hsig : it.event.userSignal ≠ .none) :
    passedSignal ck cfg it w =
      if w.rfkillSet = false ∧ it.carrierIsup = true then it.event.userSignal else .none := by
  obtain ⟨env, event, nowts, unblocked, isup⟩ := it
  have hu : ∀ sig, usable ⟨env, event, nowts, unblocked, isup⟩ w { Events.empty with sevSignal := sig } ↔
      w.rfkillSet = false ∧ isup = true := fun _ => Iff.rfl
  unfold passedSignal workCall
  rw [if_neg hlive]
  cases event with
  | signal si =>
    rcases si with _ | (_ | _ | _ | _ | _)
    · exact absurd rfl hsig
    · show (Option.map Input.sevSignal
        (if usable _ w { Events.empty with sevSignal := .renew } then _ else none)).getD .none = _
      simp only [hu]
      split <;> rfl
    · show (Option.map Input.sevSignal
        (if usable _ w { Events.empty with sevSignal := .release } then _ else none)).getD .none = _
      simp only [hu]
      split <;> rfl
    · exact absurd rfl hsig
    · exact absurd rfl hsig
    · exact absurd rfl hsig
  | _ => exact absurd rfl hsig

theorem workCall_no_signal (it : Iteration) (w : Work) (hsig : it.event.userSignal = .none) :
    passedSignal ck cfg it w = .none := by
  have hread := readEvent_events ck cfg it.env w.dhcpPacket it.event { w.sys with out := [] }
  unfold wp at hread
  unfold passedSignal workCall
  by_cases hdead : w.sys.pc = .dead
  · rw [if_pos hdead]
    rfl
  · rw [if_neg hdead]
    cases hr : readEvent ck cfg it.env w.dhcpPacket it.event { w.sys with out := [] } with
    | error e s => rfl
    | ok r s =>
      rw [hr] at hread
      by_cases hu : usable it w r.2
      · simp only [hu, if_true]
        exact hread.1.trans hsig
      · simp only [hu, if_false]
        rfl

/-- An iteration passes the signal it read or none. -/
theorem passedSignal_toList (it : Iteration) (w : Work) :
    (passedSignal ck cfg it w).toList =
      if w.sys.pc ≠ .dead ∧ (it.event.userSignal ≠ .none → w.rfkillSet = false ∧ it.carrierIsup = true)
      then it.event.userSignal.toList else [] := by
  by_cases hsig : it.event.userSignal = .none
  · rw [workCall_no_signal ck cfg it w hsig, hsig]
    split <;> rfl
  · by_cases hdead : w.sys.pc = .dead
    · rw [if_neg fun h => h.1 hdead]
      unfold passedSignal workCall
      rw [if_pos hdead]
      rfl
    · rw [workCall_signal ck cfg it w hdead hsig]
      by_cases hok : w.rfkillSet = false ∧ it.carrierIsup = true
      · rw [if_pos hok, if_pos ⟨hdead, fun _ => hok⟩]
      · rw [if_neg hok, if_neg fun h => hok (h.2 hsig)]
        rfl

/-- What is passed was read. -/
theorem passedSignals_sublist (its : List Iteration) (w : Work) :
    (passedSignals ck cfg its w).Sublist (readSignals ck cfg its w) := by
  induction its generalizing w with
  | nil => exact List.Sublist.refl _
  | cons it its ih =>
    apply List.Sublist.append _ (ih _)
    rw [passedSignal_toList]
    by_cases hdead : w.sys.pc = .dead
    · rw [if_neg fun h => h.1 hdead]
      exact List.nil_sublist _
    · rw [if_neg hdead]
      split
      · exact List.Sublist.refl _
      · exact List.nil_sublist _

/-- The signals passed are those read exactly if each was heeded. -/
theorem passedSignals_eq_iff (its : List Iteration) (w : Work) :
    passedSignals ck cfg its w = readSignals ck cfg its w ↔ Heeded ck cfg its w := by
  induction its generalizing w with
  | nil => exact iff_of_true rfl trivial
  | cons it its ih =>
    show (passedSignal ck cfg it w).toList ++ _ = (if _ then _ else _) ++ _ ↔ _ ∧ _
    rw [passedSignal_toList, ← ih]
    by_cases hdead : w.sys.pc = .dead
    · rw [if_neg fun h => h.1 hdead, if_pos hdead]
      exact ⟨fun h => ⟨fun hlive => absurd hdead hlive, h⟩, And.right⟩
    · rw [if_neg hdead]
      by_cases hok : it.event.userSignal ≠ .none → w.rfkillSet = false ∧ it.carrierIsup = true
      · rw [if_pos ⟨hdead, hok⟩, List.append_cancel_left_eq]
        exact ⟨fun h => ⟨fun _ => hok, h⟩, And.right⟩
      · rw [if_neg fun h => hok h.2]
        refine iff_of_false (fun h => ?_) fun h => hok (h.1 hdead)
        -- a signal that is dropped leaves fewer passed than read
        have hle := (passedSignals_sublist ck cfg its (work ck cfg it w)).length_le
        have hlen := congrArg List.length h
        have hone : it.event.userSignal.toList.length = 1 := by
          cases hs : it.event.userSignal with
          | none => exact absurd (fun hne => absurd hs hne) hok
          | renew => rfl
          | release => rfl
        rw [List.nil_append, List.length_append, hone] at hlen
        omega

theorem readSignals_append (its more : List Iteration) (w : Work) :
    readSignals ck cfg (its ++ more) w =
      readSignals ck cfg its w ++ readSignals ck cfg more (works ck cfg its w) := by
  induction its generalizing w with
  | nil => rfl
  | cons it its ih =>
    show _ ++ readSignals ck cfg (its ++ more) _ = (_ ++ readSignals ck cfg its _) ++ _
    rw [ih, List.append_assoc]
    rfl

theorem heeded_append (its more : List Iteration) (w : Work) :
    Heeded ck cfg (its ++ more) w ↔
      Heeded ck cfg its w ∧ Heeded ck cfg more (works ck cfg its w) := by
  induction its generalizing w with
  | nil => exact ⟨fun h => ⟨trivial, h⟩, And.right⟩
  | cons it its ih =>
    show _ ∧ Heeded ck cfg (its ++ more) _ ↔ (_ ∧ Heeded ck cfg its _) ∧ _
    rw [ih, and_assoc]
    rfl

/-- Iterations without a user signal read none and miss none. -/
theorem signals_of_quiet (its : List Iteration) (w : Work)
    (h : ∀ it ∈ its, it.event.userSignal = .none) :
    readSignals ck cfg its w = [] ∧ Heeded ck cfg its w := by
  induction its generalizing w with
  | nil => exact ⟨rfl, trivial⟩
  | cons it its ih =>
    obtain ⟨hread, hheed⟩ := ih (work ck cfg it w) fun x hx => h x (List.mem_cons_of_mem _ hx)
    have hsig := h it List.mem_cons_self
    refine ⟨?_, fun _ hne => absurd hsig hne, hheed⟩
    show (if _ then _ else it.event.userSignal.toList) ++ readSignals ck cfg its _ = []
    rw [hread, hsig]
    split <;> rfl

/-- **Signals that reach the client.**  However the loop goes on, the signals read so far are
each passed to one call, in order, exactly if each was read with the radio unblocked and the
carrier up: a signal is a local of its iteration and is not kept for a later one. -/
theorem signals_passed_iff (its more : List Iteration) (w : Work)
    (hmore : ∀ it ∈ more, it.event.userSignal = .none) :
    passedSignals ck cfg (its ++ more) w = readSignals ck cfg its w ↔ Heeded ck cfg its w := by
  obtain ⟨hread, hheed⟩ := signals_of_quiet ck cfg more (works ck cfg its w) hmore
  have happ := readSignals_append ck cfg its more w
  rw [hread, List.append_nil] at happ
  rw [← happ, passedSignals_eq_iff, heeded_append]
  exact ⟨And.left, fun h => ⟨h, hheed⟩⟩

/-! ## The latch behind the radio switch -/

/-- A carrier return is seen while the radio is blocked. -/
def ReturnSeen : List Iteration → Work → Prop
  | [], _ => False
  | it :: its, w =>
    (w.rfkillSet = true ∧ it.event = .netlink .up) ∨ ReturnSeen its (work ck cfg it w)

/-- The radio is reported blocked, and no carrier return is seen behind that. -/
def Forgets : List Iteration → Work → Prop
  | [], _ => False
  | it :: its, w =>
    (it.event = .rfkill .enabled ∧ ¬ ReturnSeen ck cfg its (work ck cfg it w)) ∨
      Forgets its (work ck cfg it w)

theorem Event.rfk_eq_enabled (ev : Event) (h : ev.rfk = .enabled) : ev = .rfkill .enabled := by
  cases ev with
  | rfkill r => exact congrArg Event.rfkill h
  | _ => cases h

theorem Event.nl_eq_up (ev : Event) (h : ev.nl = .up) : ev = .netlink .up := by
  cases ev with
  | netlink state => exact congrArg Event.netlink h
  | _ => cases h

/-- `rfkill_nl_carrier_wentup` after an iteration is what `latches` makes of its event. -/
theorem work_wentup_eq (it : Iteration) (w : Work) (hlive : w.sys.pc ≠ .dead) :
    (work ck cfg it w).rfkillNlCarrierWentup =
      (latches w it.carrierUnblocked
        { Events.empty with sevRfk := it.event.rfk, sevNl := it.event.nl }).2.1 := by
  have hread := readEvent_events ck cfg it.env w.dhcpPacket it.event { w.sys with out := [] }
  unfold wp at hread
  unfold work
  rw [if_neg hlive]
  cases hr : readEvent ck cfg it.env w.dhcpPacket it.event { w.sys with out := [] } with
  | error e s =>
    rw [hr] at hread
    simp [latches, hread.1, hread.2]
  | ok r s =>
    rw [hr] at hread
    simp only [handleEvents, latches, hread.2.1, hread.2.2]

/-- The latch is set by a return seen while the radio is blocked and cleared by every report
that it is. -/
theorem work_wentup (it : Iteration) (w : Work) (hlive : w.sys.pc ≠ .dead) :
    (work ck cfg it w).rfkillNlCarrierWentup = true ↔
      it.event ≠ .rfkill .enabled ∧
        (w.rfkillNlCarrierWentup = true ∨ (w.rfkillSet = true ∧ it.event = .netlink .up)) := by
  rw [work_wentup_eq ck cfg it w hlive]
  by_cases hen : it.event = .rfkill .enabled
  · rw [hen]
    exact iff_of_false Bool.false_ne_true fun h => h.1 rfl
  · have hrfk : it.event.rfk ≠ .enabled := fun h => hen (Event.rfk_eq_enabled _ h)
    by_cases hup : it.event = .netlink .up
    · cases hset : w.rfkillSet <;> simp [latches, hup, hset, Event.rfk, Event.nl]
    · have hnl : it.event.nl ≠ .up := fun h => hup (Event.nl_eq_up _ h)
      simp [latches, hrfk, hnl, hen, hup]

/-- The latch is set behind iterations exactly if a return was seen, or it was set before, and
no report of the radio being blocked came last. -/
theorem works_wentup (its : List Iteration) (w : Work)
    (hlive : (works ck cfg its w).sys.pc ≠ .dead) :
    (works ck cfg its w).rfkillNlCarrierWentup = true ↔
      (w.rfkillNlCarrierWentup = true ∨ ReturnSeen ck cfg its w) ∧ ¬ Forgets ck cfg its w := by
  induction its generalizing w with
  | nil => exact ⟨fun h => ⟨Or.inl h, id⟩, fun h => h.1.resolve_right id⟩
  | cons it its ih =>
    have hw := live_of_works ck cfg (it :: its) w hlive
    refine (ih (work ck cfg it w) hlive).trans ?_
    rw [work_wentup ck cfg it w hw]
    show _ ↔ (_ ∨ (_ ∨ ReturnSeen ck cfg its (work ck cfg it w))) ∧
      ¬ ((_ ∧ ¬ ReturnSeen ck cfg its (work ck cfg it w)) ∨ Forgets ck cfg its (work ck cfg it w))
    by_cases hen : it.event = .rfkill .enabled
    · have hup : it.event ≠ .netlink .up := by rw [hen]; exact nofun
      tauto
    · tauto

/-- A report that the radio is unblocked, with the carrier up, calls `dhcp_handle` and forces a
check of the network if the latch is set. -/
theorem workCall_unblock (it : Iteration) (w : Work) (hlive : w.sys.pc ≠ .dead)
    (hev : it.event = .rfkill .disabled) (hcarrier : it.carrierUnblocked = true)
    (hisup : it.carrierIsup = true) :
    (∃ inp, workCall ck cfg it w = some inp ∧ inp.forceFingerprint = true) ↔
      w.rfkillNlCarrierWentup = true := by
  have hu : usable it w { Events.empty with sevRfk := .disabled } := ⟨rfl, hisup⟩
  have hcall : workCall ck cfg it w = some (callInput { w.sys with out := [] } w.dhcpPacket it.nowts
      (latches w it.carrierUnblocked { Events.empty with sevRfk := .disabled }).2.2
      { Events.empty with sevRfk := .disabled }) := by
    unfold workCall
    rw [if_neg hlive, hev]
    exact if_pos hu
  have hforce : (latches w it.carrierUnblocked { Events.empty with sevRfk := .disabled }).2.2 =
      w.rfkillNlCarrierWentup := by
    simp [latches, hcarrier, Events.empty]
  rw [hcall, ← hforce]
  exact ⟨fun ⟨_, hinp, hf⟩ => by rw [← Option.some.inj hinp] at hf; exact hf, fun h => ⟨_, rfl, h⟩⟩

end

/-! ## Runs of the loop -/

/-- The loop as it is entered. -/
def exampleWork : Work := ⟨exampleStart, .zero, false, false⟩

/-- An iteration in which everything answers. -/
def calmIteration (event : Event) (carrierIsup : Bool) : Iteration :=
  ⟨calmEnv, event, 1000, true, carrierIsup⟩

theorem signals_passed_carrier_up :
    passedSignals inetChecksum exampleConfig
        ([calmIteration (.signal (some .usr1)) true, calmIteration (.netlink .down) false] ++
          [calmIteration (.netlink .up) true]) exampleWork =
      readSignals inetChecksum exampleConfig
        [calmIteration (.signal (some .usr1)) true, calmIteration (.netlink .down) false] exampleWork := by
  apply (signals_passed_iff inetChecksum exampleConfig _ _ exampleWork _).mpr
  · exact ⟨fun _ _ => ⟨rfl, rfl⟩, fun _ h => absurd rfl h, trivial⟩
  · intro it hit
    rw [List.mem_singleton.mp hit]
    rfl

/-- A release asked for while the carrier is down never happens. -/
theorem signal_lost_carrier_down :
    readSignals inetChecksum exampleConfig [calmIteration (.signal (some .usr2)) false] exampleWork =
        [.release] ∧
      ∀ more : List Iteration, (∀ it ∈ more, it.event.userSignal = .none) →
        passedSignals inetChecksum exampleConfig
          ([calmIteration (.signal (some .usr2)) false] ++ more) exampleWork = [] := by
  refine ⟨by decide +kernel, fun more hmore => ?_⟩
  have hnone : passedSignal inetChecksum exampleConfig (calmIteration (.signal (some .usr2)) false)
      exampleWork = .none := by decide +kernel
  have hrest := passedSignals_sublist inetChecksum exampleConfig more
    (work inetChecksum exampleConfig (calmIteration (.signal (some .usr2)) false) exampleWork)
  rw [(signals_of_quiet inetChecksum exampleConfig more _ hmore).1] at hrest
  show (passedSignal _ _ _ _).toList ++ passedSignals _ _ more _ = []
  rw [hnone, List.sublist_nil.mp hrest]
  rfl

/-- Switch number 0 changes to the given soft and hard blocks. -/
def radio (soft hard : UInt8) : Event :=
  .rfkill (rfkillGet true 0 (some ⟨0, RFKILL_OP_CHANGE, soft, hard⟩))

/-- The loop with the radio blocked by software. -/
def blockedWork : Work :=
  work inetChecksum exampleConfig (calmIteration (radio 1 0) true) exampleWork

/-- The carrier of interface 2 comes up. -/
def carrierUpEvent : Event := .netlink (nlEventGet 2 [.newlink 2 true false, .newlink 2 true true])

end Ndhc
