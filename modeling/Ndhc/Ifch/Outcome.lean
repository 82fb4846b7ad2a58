import Ndhc.Ifch.Netlink

/-!
# What a return value of ifch says

`execute_buffer` returns -99 for a buffer it cannot trust, after which `process_client_socket`
ends ifch, -1 if a command could not be carried out, and `0`.  The outcomes of the system calls of
every command are arbitrary (`CommandCalls`); a failure to copy bytes into resolv.conf ends the
process, and nothing is returned.

The values do not keep the two apart.  A buffer of commands with valid arguments is returned -99 for
when the netlink socket of `ip4`, `routr` or `mtu` cannot be opened or the kernel does not take its
request, and only then (`return_values_iff`).
-/

namespace Ndhc

open Bytes

/-! ## Dispatch with its system calls -/

/-- What the system calls of a command come to: those on netlink, the texts appended to resolv.conf,
whether seeking it, syncing it and copying into it work, and whether `sethostname` does. -/
structure CommandCalls where
  net : NlCalls
  head : List UInt8
  tail : List UInt8
  seekOk : Bool
  syncOk : Bool
  copiesOk : Bool
  hostnameOk : Bool

/-- The configuration of ifch that does not change. -/
structure IfchConfig where
  resolvOpen : Bool
  allowHostname : Bool
  ifindex : UInt32

/-- ifch, and whether it ended inside a command. -/
structure IfchRun where
  ifch : Ifch NlCalls
  ended : Bool

section
variable (cfg : IfchConfig) (calls : Nat → CommandCalls)

def CommandCalls.env (k : CommandCalls) : IfchEnv NlCalls where
  resolvOpen := cfg.resolvOpen
  head := k.head
  tail := k.tail
  seekOk := k.seekOk
  syncOk := k.syncOk
  allowHostname := cfg.allowHostname
  sethostname := fun _ => k.hostnameOk
  performIp4set := performIp4set (setAddress cfg.ifindex)
  performRouter := performRouter
  performMtu := performMtu cfg.ifindex
  performCarrier := performCarrier cfg.ifindex

/-- The calls of the command dispatched next. -/
def IfchRun.callsNow (s : IfchRun) : CommandCalls := calls s.ifch.log.length

/-- Whether `write_resolve_conf` comes to its writes and one of them fails. -/
def CommandCalls.cutShort (k : CommandCalls) (s : Ifch NlCalls) : Bool :=
  cfg.resolvOpen && s.namesvrs != [] && k.seekOk && !k.copiesOk

/-- Whether the command ends the process. -/
def IfchRun.dies (s : IfchRun) (st : IfchdState) (arg : List UInt8) : Bool :=
  match st with
  | .dns => decide (arg.length ≤ MAX_BUF) &&
      (s.callsNow calls).cutShort cfg { s.ifch with namesvrs := arg.take (MAX_BUF - 1) }
  | .domain => decide (arg.length ≤ MAX_BUF) && (s.callsNow calls).cutShort cfg s.ifch
  | _ => false

/-- `Dispatch` with the system calls of the command.  Past the end of the process there is nothing
more: as after -99. -/
def IfchRun.handle (s : IfchRun) (st : IfchdState) (arg : List UInt8) : IfchRun × Int :=
  if s.dies cfg calls st arg then ({ s with ended := true }, -99)
  else
    let (t, pr) := ifchDispatch ((s.callsNow calls).env cfg) { s.ifch with net := (s.callsNow calls).net } st arg
    ({ s with ifch := t }, pr)

/-- What `execute_buffer` returns, if it does. -/
def executed (s : Ifch NlCalls) (ibuf newbuf : List UInt8) : Option Int :=
  let x := executeBuffer (IfchRun.handle cfg calls) ibuf newbuf ⟨s, false⟩
  if x.2.2.ended then none else some x.1

end

/-! ## Statement -/

/-- The argument is a value: an address and a mask, an address, a number that can be an MTU. -/
def Cmd.Valid (c : Cmd) : Prop :=
  match c.state with
  | .ip4set => (ip4Request c.arg).isSome = true
  | .router => (inetPton c.arg).isSome = true
  | .mtu => MtuValue c.arg
  | _ => True

/-- The netlink socket of the command cannot be opened or the kernel does not take its request. -/
def Cmd.NetFails (ifindex : UInt32) (k : NlCalls) (c : Cmd) : Prop :=
  match c.state with
  | .ip4set => ∃ req, ip4Request c.arg = some req ∧ AddressFails ifindex k req
  | .router => k.socket < 0 ∨ (rtnlDoSend k).2 < 0
  | .mtu => k.socket < 0 ∨ (rtnlIfMtuSet ifindex k).2 < 0
  | _ => False

section
variable (cfg : IfchConfig) (calls : Nat → CommandCalls) (s : Ifch NlCalls) (ibuf newbuf : List UInt8)

/-- The commands dispatched, each with ifch as it finds it. -/
def dispatches (cmds : List Cmd) : List (IfchRun × Cmd) :=
  dispatched (IfchRun.handle cfg calls) cmds ⟨s, false⟩

/-- A command was carried out. -/
def Succeeds (p : IfchRun × Cmd) : Prop := (p.2.dispatch (IfchRun.handle cfg calls) p.1).2 = 0

/-- The buffer is a sequence of commands with valid arguments. -/
def Trusted (cmds : List Cmd) : Prop := BufferCommands ibuf newbuf cmds ∧ ∀ c ∈ cmds, c.Valid

/-- What each return value should say. -/
structure SaysWhatHappened (ret : Int) : Prop where
  fatal : ret = -99 → ¬ ∃ cmds, Trusted ibuf newbuf cmds
  failed : ∀ cmds, Trusted ibuf newbuf cmds →
    (∃ p ∈ dispatches cfg calls s cmds, ¬ Succeeds cfg calls p) → ret = -1
  succeeded : ret = 0 ↔ ∃ cmds, BufferCommands ibuf newbuf cmds ∧
    (dispatches cfg calls s cmds).map Prod.snd = cmds ∧
    ∀ p ∈ dispatches cfg calls s cmds, Succeeds cfg calls p

end

/-! ## One command -/

section
variable (cfg : IfchConfig) (calls : Nat → CommandCalls)

theorem handle_of_alive (s : IfchRun) (st : IfchdState) (arg : List UInt8)
    (halive : s.dies cfg calls st arg = false) :
    (s.handle cfg calls st arg).2 = (perform ((s.callsNow calls).env cfg)
      { s.ifch with net := (s.callsNow calls).net, log := s.ifch.log ++ [(st, arg)] } st arg).2 := by
  unfold IfchRun.handle
  rw [if_neg (Bool.not_eq_true _ ▸ halive)]
  rfl

/-- A command that neither reads a value nor asks the kernel for anything. -/
theorem no_cause (c : Cmd) (k : NlCalls) (hother : c.state ∉ [.ip4set, .router, .mtu]) :
    ¬ (¬ c.Valid ∨ c.NetFails cfg.ifindex k) := by
  unfold Cmd.Valid Cmd.NetFails
  split <;> simp_all

/-- **When a command returns -99.** -/
theorem dispatch_fatal_iff (s : IfchRun) (c : Cmd) :
    (c.dispatch (IfchRun.handle cfg calls) s).2 = -99 ↔
      (¬ c.Valid ∨ c.NetFails cfg.ifindex (s.callsNow calls).net) ∨
        s.dies cfg calls c.state c.arg = true := by
  by_cases hdies : s.dies cfg calls c.state c.arg = true
  · refine iff_of_true ?_ (Or.inr hdies)
    simp only [Cmd.dispatch, IfchRun.handle, if_pos hdies]
  · rw [or_iff_left hdies, Cmd.dispatch,
      handle_of_alive cfg calls s c.state c.arg (Bool.eq_false_iff.2 hdies)]
    have hzero : (0 : Int) ≠ -99 := by decide
    have hno := no_cause cfg c (s.callsNow calls).net
    obtain ⟨entry, arg, hmem, htakes, hshort⟩ := c
    simp only [commands, List.mem_cons, List.not_mem_nil, or_false] at hmem
    -- in the order of the table
    rcases hmem with rfl | rfl | rfl | rfl | rfl | rfl | rfl | rfl | rfl | rfl | rfl | rfl
    · have h := performRouter_fatal_iff (s.callsNow calls).net arg (length_of_addrs 0 (some 0) arg htakes)
      simpa [Cmd.Valid, Cmd.NetFails, Cmd.state, perform, performNet, CommandCalls.env] using h
    · have h := performIp4set_takes (setAddress cfg.ifindex) (s.callsNow calls).net arg htakes
      simp only [Cmd.Valid, Cmd.NetFails, Cmd.state, perform, performNet, CommandCalls.env, h]
      cases ip4Request arg with
      | none => simp
      | some req => simpa using setAddress_fatal_iff cfg.ifindex (s.callsNow calls).net req
    · exact iff_of_false (performDns_ne _ _ _) (hno (by simp [Cmd.state]))
    · exact iff_of_false hzero (hno (by simp [Cmd.state]))
    · exact iff_of_false hzero (hno (by simp [Cmd.state]))
    · exact iff_of_false hzero (hno (by simp [Cmd.state]))
    · exact iff_of_false (performHostname_ne _ _ _) (hno (by simp [Cmd.state]))
    · exact iff_of_false (performDomain_ne _ _ _) (hno (by simp [Cmd.state]))
    · exact iff_of_false hzero (hno (by simp [Cmd.state]))
    · have h := performMtu_fatal_iff cfg.ifindex (s.callsNow calls).net arg
        (Nat.le_of_eq (length_of_extend 2 arg htakes).symm)
      exact h
    · exact iff_of_false hzero (hno (by simp [Cmd.state]))
    · exact iff_of_false (performCarrier_ne cfg.ifindex _) (hno (by simp [Cmd.state]))

/-- A command that ends the process is none that asks the kernel. -/
theorem alive_of_netFails (s : IfchRun) (c : Cmd) (k : NlCalls) (hnet : c.NetFails cfg.ifindex k) :
    s.dies cfg calls c.state c.arg = false := by
  unfold Cmd.NetFails at hnet
  unfold IfchRun.dies
  split <;> simp_all

theorem dispatch_ended (s : IfchRun) (c : Cmd) :
    (c.dispatch (IfchRun.handle cfg calls) s).1.ended = (s.ended || s.dies cfg calls c.state c.arg) := by
  unfold Cmd.dispatch IfchRun.handle
  cases s.dies cfg calls c.state c.arg <;> simp

/-! ## A whole buffer -/

/-- ifch ends in a buffer when a command of it ends it. -/
theorem dispatchAll_ended_iff (cmds : List Cmd) (cmdf : Bool) (s : IfchRun) :
    (dispatchAll (IfchRun.handle cfg calls) cmds cmdf s).2.ended = true ↔
      s.ended = true ∨ ∃ p ∈ dispatched (IfchRun.handle cfg calls) cmds s,
        p.1.dies cfg calls p.2.state p.2.arg = true := by
  induction cmds generalizing cmdf s with
  | nil => simp [dispatchAll, dispatched]
  | cons c cs ih =>
    unfold dispatchAll
    by_cases hc : (c.dispatch (IfchRun.handle cfg calls) s).2 = -99
    · simp [hc, dispatched, dispatch_ended]
    · rw [if_neg hc, ih, exists_dispatched_cons _ _ c cs s hc, dispatch_ended, Bool.or_eq_true, or_assoc]

section
variable (s : Ifch NlCalls) (ibuf newbuf : List UInt8)

/-- What is returned for a sequence of commands. -/
theorem executed_commands (cmds : List Cmd) (ret : Int) (hc : BufferCommands ibuf newbuf cmds)
    (hret : executed cfg calls s ibuf newbuf = some ret) :
    ret = (dispatchAll (IfchRun.handle cfg calls) cmds false ⟨s, false⟩).1 ∧
      ∀ p ∈ dispatches cfg calls s cmds, p.1.dies cfg calls p.2.state p.2.arg = false := by
  have hall := executeBuffer_commands (IfchRun.handle cfg calls) ibuf newbuf cmds ⟨s, false⟩ hc
  have hended := dispatchAll_ended_iff cfg calls cmds false ⟨s, false⟩
  rw [← hall] at hended ⊢
  unfold executed at hret
  simp only at hret
  split at hret
  · cases hret
  · next hlive =>
    cases hret
    refine ⟨rfl, fun p hp => Bool.eq_false_iff.2 fun hdies => hlive (hended.2 (Or.inr ⟨p, hp, hdies⟩))⟩

/-- A netlink request that fails leaves ifch running, and makes it return -99. -/
theorem executed_of_netFails (cmds : List Cmd) (p : IfchRun × Cmd) (hc : BufferCommands ibuf newbuf cmds)
    (hp : p ∈ dispatches cfg calls s cmds) (hnet : p.2.NetFails cfg.ifindex (p.1.callsNow calls).net) :
    executed cfg calls s ibuf newbuf = some (-99) := by
  have hfatal := (dispatch_fatal_iff cfg calls p.1 p.2).2 (Or.inl (Or.inr hnet))
  have hall := executeBuffer_commands (IfchRun.handle cfg calls) ibuf newbuf cmds ⟨s, false⟩ hc
  have hret := (dispatchAll_fatal_iff (IfchRun.handle cfg calls) cmds false ⟨s, false⟩).2 ⟨p, hp, hfatal⟩
  have hended := dispatchAll_ended_iff cfg calls cmds false ⟨s, false⟩
  rw [← hall] at hended hret
  have hlive : ¬ (executeBuffer (IfchRun.handle cfg calls) ibuf newbuf ⟨s, false⟩).2.2.ended = true := by
    intro hend
    rcases hended.1 hend with hno | ⟨p', hp', hdies⟩
    · exact absurd hno Bool.false_ne_true
    · have hfatal' := (dispatch_fatal_iff cfg calls p'.1 p'.2).2 (Or.inr hdies)
      have hsame := dispatched_fatal_unique _ cmds _ p p' hp hfatal hp' hfatal'
      rw [← hsame, alive_of_netFails cfg calls p.1 p.2 _ hnet] at hdies
      cases hdies
  unfold executed
  simp only [if_neg hlive]
  exact congrArg some hret

/-- Without one, -99 is not returned for a sequence of commands with valid arguments. -/
theorem executed_not_fatal (cmds : List Cmd) (ret : Int) (htrusted : Trusted ibuf newbuf cmds)
    (hnet : ¬ ∃ p ∈ dispatches cfg calls s cmds, p.2.NetFails cfg.ifindex (p.1.callsNow calls).net)
    (hret : executed cfg calls s ibuf newbuf = some ret) : ret ≠ -99 := by
  obtain ⟨rfl, hlive⟩ := executed_commands cfg calls s ibuf newbuf cmds ret htrusted.1 hret
  intro hfatal
  obtain ⟨p, hp, hp99⟩ := (dispatchAll_fatal_iff _ cmds false _).1 hfatal
  rcases (dispatch_fatal_iff cfg calls p.1 p.2).1 hp99 with (hinvalid | hfails) | hdies
  · exact hinvalid (htrusted.2 p.2 (mem_of_dispatched _ cmds _ p hp))
  · exact hnet ⟨p, hp, hfails⟩
  · exact absurd hdies (Bool.eq_false_iff.1 (hlive p hp))

/-- `0` is returned when all commands were carried out. -/
theorem executed_zero_iff (ret : Int) (hret : executed cfg calls s ibuf newbuf = some ret) :
    ret = 0 ↔ ∃ cmds, BufferCommands ibuf newbuf cmds ∧
      (dispatches cfg calls s cmds).map Prod.snd = cmds ∧
      ∀ p ∈ dispatches cfg calls s cmds, Succeeds cfg calls p := by
  constructor
  · intro hzero
    by_cases hwf : ∃ cmds, BufferCommands ibuf newbuf cmds
    · obtain ⟨cmds, hc⟩ := hwf
      have hret' := (executed_commands cfg calls s ibuf newbuf cmds ret hc hret).1
      have hall := ((dispatchAll_zero_iff _ cmds false _).1 (hret'.symm.trans hzero)).2
      have hsucceed (p : IfchRun × Cmd) (hp : p ∈ dispatches cfg calls s cmds) : Succeeds cfg calls p :=
        Classical.byContradiction fun hfailed => hall ⟨p, hp, hfailed⟩
      refine ⟨cmds, hc, dispatched_all _ cmds _ fun p hp hp99 => ?_, hsucceed⟩
      exact absurd ((hsucceed p hp).symm.trans hp99) (by decide)
    · have hret' := executeBuffer_rejects (IfchRun.handle cfg calls) ibuf newbuf ⟨s, false⟩ hwf
      unfold executed at hret
      simp only at hret
      split at hret
      · cases hret
      · cases hret
        exact absurd (hret'.symm.trans hzero) (by decide)
  · rintro ⟨cmds, hc, -, hall⟩
    have hret' := (executed_commands cfg calls s ibuf newbuf cmds ret hc hret).1
    refine hret'.trans ((dispatchAll_zero_iff _ cmds false _).2 ⟨rfl, ?_⟩)
    rintro ⟨p, hp, hfailed⟩
    exact hfailed (hall p hp)

/-- **Return values.**  What `execute_buffer` returns says what happened, unless it ran over a
sequence of commands with valid arguments of which the netlink request of one failed. -/
theorem return_values_iff :
    (∀ ret, executed cfg calls s ibuf newbuf = some ret →
        SaysWhatHappened cfg calls s ibuf newbuf ret) ↔
      ¬ ∃ cmds, Trusted ibuf newbuf cmds ∧ ∃ p ∈ dispatches cfg calls s cmds,
        p.2.NetFails cfg.ifindex (p.1.callsNow calls).net := by
  constructor
  · rintro htold ⟨cmds, htrusted, p, hp, hnet⟩
    have hret := executed_of_netFails cfg calls s ibuf newbuf cmds p htrusted.1 hp hnet
    exact (htold (-99) hret).fatal rfl ⟨cmds, htrusted⟩
  · intro hnone ret hret
    have hnotFatal (cmds : List Cmd) (htrusted : Trusted ibuf newbuf cmds) : ret ≠ -99 :=
      executed_not_fatal cfg calls s ibuf newbuf cmds ret htrusted (fun hnet => hnone ⟨cmds, htrusted, hnet⟩) hret
    refine ⟨?_, ?_, executed_zero_iff cfg calls s ibuf newbuf ret hret⟩
    · rintro hfatal ⟨cmds, htrusted⟩
      exact hnotFatal cmds htrusted hfatal
    · rintro cmds htrusted ⟨p, hp, hfailed⟩
      have hret' := (executed_commands cfg calls s ibuf newbuf cmds ret htrusted.1 hret).1
      rcases dispatchAll_values (IfchRun.handle cfg calls) cmds false ⟨s, false⟩ with h | h | h
      · exact absurd (hret'.trans h) (hnotFatal cmds htrusted)
      · exact hret'.trans h
      · exact absurd ⟨p, hp, hfailed⟩ ((dispatchAll_zero_iff _ cmds false _).1 h).2

end

end

/-- A command whose netlink socket cannot be opened. -/
def noSocket : CommandCalls := ⟨⟨-1, [], [], []⟩, [], [], true, true, true, true⟩

def routerCmd : Cmd where
  entry := (ascii "routr:", .router, .addrs 0 (some 0))
  arg := ascii "192.168.1.1"
  entry_mem := by decide
  takes := ⟨.addr 0 3 1, by decide, by decide⟩
  short := by decide

/-- A valid router for which `socket` fails is returned -99 for. -/
theorem no_socket_is_fatal :
    let s : Ifch NlCalls := ⟨noSocket.net, [], [], [], []⟩
    let text := ascii "routr:192.168.1.1;"
    Trusted [] text [routerCmd] ∧
      executed ⟨false, false, 2⟩ (fun _ => noSocket) s [] text = some (-99) ∧
      ¬ SaysWhatHappened ⟨false, false, 2⟩ (fun _ => noSocket) s [] text (-99) := by
  intro s text
  have hvalid : (inetPton (ascii "192.168.1.1")).isSome = true := by decide
  have htrusted : Trusted [] text [routerCmd] := by
    refine ⟨⟨⟨List.cons_ne_nil _ _, by decide⟩, by decide⟩, fun c hc => ?_⟩
    rw [List.mem_singleton.1 hc]
    exact hvalid
  exact ⟨htrusted, by decide, fun hsaid => hsaid.fatal rfl ⟨_, htrusted⟩⟩

end Ndhc
