import Ndhc.Client.Probes
import Ndhc.Config.ClientId
import Ndhc.Ifch.Netlink
import Ndhc.Lib.Machine

/-!
# Options and their actions

The options of the configuration file and the command line, and what the action of each does to
the settings: the machine `cfg_actions` that both parsers include.  An action reads the value
collected in `ccfg.buf`, or for a switch `ccfg.ternary`, and may end the process.
-/

namespace Ndhc

open Bytes

/-! ## Settings -/

def IFNAMSIZ : Nat := 16
def PATH_MAX : Nat := 4096

/-- What the options set. -/
structure Settings where
  backgroundIfNoLease : Bool
  gflagsDetach : Bool
  abortIfNoLease : Bool
  quitAfterLease : Bool
  relentlessDef : Bool
  allowHostname : Bool
  writePidEnabled : Bool
  pidfile : List UInt8
  hostname : List UInt8
  interface : List UInt8
  vendor : List UInt8
  chrootDir : List UInt8
  stateDir : List UInt8
  resolvConfD : List UInt8
  clientid : ClientId
  clientAddr : UInt32
  ndhcUser : Nat × Nat
  ifchUser : Nat × Nat
  sockdUser : Nat × Nat
  probes : ProbeConfig
  metric : Int
  rfkillIdx : UInt32
  enableRfkill : Bool

/-- What they are without an option. -/
def Settings.initial : Settings where
  backgroundIfNoLease := false
  gflagsDetach := false
  abortIfNoLease := false
  quitAfterLease := false
  relentlessDef := false
  allowHostname := false
  writePidEnabled := false
  pidfile := []
  hostname := []
  interface := ascii "eth0"
  vendor := []
  chrootDir := []
  stateDir := ascii "/etc/ndhc"
  resolvConfD := []
  clientid := .initial
  clientAddr := 0
  ndhcUser := (0, 0)
  ifchUser := (0, 0)
  sockdUser := (0, 0)
  probes := .initial
  metric := 0
  rfkillIdx := 0
  enableRfkill := false

/-- `nk_uidgidbyname` and `inet_addr` -/
structure CfgWorld where
  uidgidbyname : List UInt8 → Option (Nat × Nat)
  inetAddr : List UInt8 → UInt32

/-- A host that knows no users. -/
def bareHost : CfgWorld := ⟨fun _ => none, fun _ => 0⟩

/-! ## Options -/

inductive Opt where
  | clientid
  | background
  | pidfile
  | hostname
  | interface
  | now
  | quit
  | request
  | vendorid
  | user
  | ifchUser
  | sockdUser
  | chroot
  | stateDir
  | seccompEnforce
  | relentlessDefense
  | arpProbeWait
  | arpProbeNum
  | arpProbeMin
  | arpProbeMax
  | gwMetric
  | resolvConf
  | dhcpSetHostname
  | rfkillIdx
  deriving DecidableEq, Repr

namespace Opt

def all : List Opt :=
  [clientid, background, pidfile, hostname, interface, now, quit, request, vendorid, user, ifchUser, sockdUser,
    chroot, stateDir, seccompEnforce, relentlessDefense, arpProbeWait, arpProbeNum, arpProbeMin, arpProbeMax,
    gwMetric, resolvConf, dhcpSetHostname, rfkillIdx]

theorem mem_all (o : Opt) : o ∈ all := by
  cases o <;> decide

/-- The word for it: the key of a line, and with two hyphens the long word of the command line. -/
def name : Opt → List UInt8
  | clientid => ascii "clientid"
  | background => ascii "background"
  | pidfile => ascii "pidfile"
  | hostname => ascii "hostname"
  | interface => ascii "interface"
  | now => ascii "now"
  | quit => ascii "quit"
  | request => ascii "request"
  | vendorid => ascii "vendorid"
  | user => ascii "user"
  | ifchUser => ascii "ifch-user"
  | sockdUser => ascii "sockd-user"
  | chroot => ascii "chroot"
  | stateDir => ascii "state-dir"
  | seccompEnforce => ascii "seccomp-enforce"
  | relentlessDefense => ascii "relentless-defense"
  | arpProbeWait => ascii "arp-probe-wait"
  | arpProbeNum => ascii "arp-probe-num"
  | arpProbeMin => ascii "arp-probe-min"
  | arpProbeMax => ascii "arp-probe-max"
  | gwMetric => ascii "gw-metric"
  | resolvConf => ascii "resolv-conf"
  | dhcpSetHostname => ascii "dhcp-set-hostname"
  | rfkillIdx => ascii "rfkill-idx"

/-- Switches, which have no value. -/
def isSwitch : Opt → Bool
  | background | now | quit | seccompEnforce | relentlessDefense | dhcpSetHostname => true
  | _ => false

end Opt

/-! ## Actions -/

/-- `ccfg.ternary`: `0`, `+1` and `-1`. -/
inductive Ternary where
  | nothing
  | yes
  | no
  deriving DecidableEq, Repr

/-- The `switch (ccfg.ternary)` of a flag. -/
def Ternary.set (t : Ternary) (flag : Bool) : Bool :=
  match t with
  | .yes => true
  | .no => false
  | .nothing => flag

/-- `copy_cmdarg`: a string that fits its destination with its terminator. -/
def copyCmdarg (src : List UInt8) (destlen : Nat) : Option (List UInt8) :=
  if (cstr src).length < destlen then some (cstr src) else none

/-- `atoi`: what `strtol` gives within the bounds of a `long`, cut to an `int`. -/
def atoi (str : List UInt8) : Int :=
  let l := max (-2 ^ 63) (min (2 ^ 63 - 1) ((strtol str).getD 0))
  (l + 2 ^ 31) % 2 ^ 32 - 2 ^ 31

/-- The number the action `gw_metric` takes. -/
def parseMetric (buf : List UInt8) : Option Int :=
  match strtol buf with
  | none => none
  | some mt => if (INT_MAX : Int) < mt then none else some (max mt 0)

/-- The action of an option on `ccfg.buf`, the bytes appended to it, and `ccfg.ternary`; `none`
where it ends the process. -/
def Opt.action (w : CfgWorld) (buf : List UInt8) (ternary : Ternary) (st : Settings) : Opt → Option Settings
  | .clientid => some { st with clientid := (getClientidString st.clientid buf).1 }
  | .background =>
    some { st with
      backgroundIfNoLease := ternary.set st.backgroundIfNoLease
      gflagsDetach := ternary.set st.gflagsDetach }
  | .pidfile => (copyCmdarg buf PATH_MAX).map fun v => { st with writePidEnabled := true, pidfile := v }
  | .hostname => (copyCmdarg buf 64).map fun v => { st with hostname := v }
  | .interface => (copyCmdarg buf IFNAMSIZ).map fun v => { st with interface := v }
  | .now => some { st with abortIfNoLease := ternary.set st.abortIfNoLease }
  | .quit => some { st with quitAfterLease := ternary.set st.quitAfterLease }
  | .request => some { st with clientAddr := w.inetAddr (cstr buf) }
  | .vendorid => (copyCmdarg buf 64).map fun v => { st with vendor := v }
  | .user => (w.uidgidbyname (cstr buf)).map fun u => { st with ndhcUser := u }
  | .ifchUser => (w.uidgidbyname (cstr buf)).map fun u => { st with ifchUser := u }
  | .sockdUser => (w.uidgidbyname (cstr buf)).map fun u => { st with sockdUser := u }
  | .chroot => (copyCmdarg buf PATH_MAX).map fun v => { st with chrootDir := v }
  | .stateDir => (copyCmdarg buf PATH_MAX).map fun v => { st with stateDir := v }
  | .seccompEnforce => some st
  | .relentlessDefense => some { st with relentlessDef := ternary.set st.relentlessDef }
  | .arpProbeWait => some { st with probes := st.probes.set (.wait (atoi (cstr buf))) }
  | .arpProbeNum => some { st with probes := st.probes.set (.num (atoi (cstr buf))) }
  | .arpProbeMin => some { st with probes := st.probes.set (.min (atoi (cstr buf))) }
  | .arpProbeMax => some { st with probes := st.probes.set (.max (atoi (cstr buf))) }
  | .gwMetric => (parseMetric (cstr buf)).map fun mt => { st with metric := mt }
  | .resolvConf => (copyCmdarg buf PATH_MAX).map fun v => { st with resolvConfD := v }
  | .dhcpSetHostname => some { st with allowHostname := ternary.set st.allowHostname }
  | .rfkillIdx => some { st with rfkillIdx := (atoi (cstr buf) % 2 ^ 32).toNat.toUInt32, enableRfkill := true }

/-- A switch does not read the value, the other options not the switch. -/
theorem Opt.action_congr (w : CfgWorld) (o : Opt) (buf buf' : List UInt8) (t t' : Ternary) (st : Settings)
    (h : if o.isSwitch then t = t' else buf = buf') : o.action w buf t st = o.action w buf' t' st := by
  cases o <;> simp only [isSwitch, if_true, Bool.false_eq_true, if_false] at h <;> subst h <;> rfl

/-! ## The parser's variables -/

/-- `struct cfgparse`, the bytes appended standing for `buf` and `buflen`, and the settings. -/
structure CfgParse where
  buf : List UInt8
  ternary : Ternary
  st : Settings

namespace CfgParse

/-- `memset(&ccfg, 0, sizeof ccfg)` -/
def start (st : Settings) : CfgParse := ⟨[], .nothing, st⟩

def clear (p : CfgParse) : CfgParse := { p with buf := [], ternary := .nothing }

/-- `append`; `none` where the option is too long. -/
def append (p : CfgParse) (b : UInt8) : Option CfgParse :=
  if p.buf.length < MAX_BUF - 1 then some { p with buf := p.buf ++ [b] } else none

/-- `>clear $append` on the first byte of a value. -/
def begin (p : CfgParse) (b : UInt8) : Option CfgParse := p.clear.append b

/-- The action of an option. -/
def act (w : CfgWorld) (o : Opt) (p : CfgParse) : Option CfgParse :=
  (o.action w p.buf p.ternary p.st).map fun st => { p with st := st }

theorem begin_eq (p : CfgParse) (b : UInt8) : p.begin b = some ⟨[b], .nothing, p.st⟩ := by
  rw [begin, append, if_pos (show p.clear.buf.length < MAX_BUF - 1 from Nat.zero_lt_succ _)]
  rfl

/-- A machine that stays where it is and appends has appended all of a value that fits. -/
theorem consume_append {σ : Type} (step : σ × CfgParse → UInt8 → Option (σ × CfgParse)) (q : σ)
    (v : List UInt8) (hstep : ∀ b ∈ v, ∀ p : CfgParse, step (q, p) b = (p.append b).map fun p => (q, p))
    (p : CfgParse) (hlen : p.buf.length + v.length < MAX_BUF) :
    Machine.consume step (q, p) v = some (q, { p with buf := p.buf ++ v }) := by
  induction v generalizing p with
  | nil => simp
  | cons b v ih =>
    rw [List.length_cons] at hlen
    have happ : p.append b = some { p with buf := p.buf ++ [b] } := if_pos (by omega)
    have hrest := ih (fun c hc => hstep c (List.mem_cons_of_mem _ hc)) { p with buf := p.buf ++ [b] }
      (by rw [List.length_append, List.length_singleton]; omega)
    rw [Machine.consume_cons, hstep b List.mem_cons_self, happ]
    simpa using hrest

end CfgParse

end Ndhc
