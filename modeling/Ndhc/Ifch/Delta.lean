import Ndhc.Client.Lease
import Ndhc.Ifch.Ip4set
import Ndhc.Wire.Build

/-!
# Delta configuration

`ifchange_bind` sends only what differs from the configuration packet in force.  Its buffer is
a list of commands (`bindBuffer_text`), each of which overwrites fields of the interface's
record.  Over a sequence of binds a field then holds what the last packet that carries the
option set, so an option that is withdrawn survives; a mask or a broadcast address that is
withdrawn alone is not even noticed.  `delta_eq_full_iff` says for which sequences the
outcome is that of the last packet by itself.
-/

namespace Ndhc

open Bytes

/-! ## Commands -/

inductive BindCmd where
  | ip4 (ip subnet : List UInt8) (bcast : Option (List UInt8))
  | opt (code : UInt8) (arg : List UInt8)
  deriving DecidableEq

/-- The argument a packet's option has in its command, if it is long enough for one. -/
def carried (p : DhcpMsg) (code : UInt8) : Option (List UInt8) :=
  if (option p code).length < (optEncoding code (option p code)).1 then none
  else some (cstr (optEncoding code (option p code)).2.2)

namespace BindCmd

def text : BindCmd → List UInt8
  | .ip4 ip subnet bcast => ascii "ip4:" ++ (inetNtop ip ++ 44 ::
      (inetNtop subnet ++ (bcast.elim [] fun bc => 44 :: inetNtop bc))) ++ [59]
  | .opt code arg => (optEncoding code []).2.1 ++ 58 :: arg ++ [59]

end BindCmd

/-- The command of one option. -/
def optCommand (cfgPacket p : DhcpMsg) (code : UInt8) : Option BindCmd :=
  if sent cfgPacket p code then (carried p code).map (.opt code) else none

/-- The commands a bind emits. -/
def bindCommands (cfgPacket p : DhcpMsg) : List BindCmd :=
  (if addrChanged p cfgPacket then [.ip4 (slice p.bytes 16 4) (sentMask p) (sentBcast p)] else []) ++
    bindCodes.filterMap (optCommand cfgPacket p)

/-! ## The interface -/

structure Iface where
  ip : Option UInt32
  subnet : Option UInt32
  broadcast : Option UInt32
  router : Option (List UInt8)
  dns : Option (List UInt8)
  hostname : Option (List UInt8)
  domain : Option (List UInt8)
  mtu : Option (List UInt8)
  deriving DecidableEq

namespace Iface

def empty : Iface := ⟨none, none, none, none, none, none, none, none⟩

/-- A command overwrites its field; `ip4` without a broadcast address stands for the
standard one. -/
def overwrite (r : Iface) : BindCmd → Iface
  | .ip4 ip subnet bcast =>
    { r with
      ip := some (word32 ip)
      subnet := some (word32 subnet)
      broadcast := some ((bcast.map word32).getD
        (standardBcast (word32 ip) (prefixLength (word32 subnet)))) }
  | .opt code arg =>
    if code = DCODE_ROUTER then { r with router := some arg }
    else if code = DCODE_DNS then { r with dns := some arg }
    else if code = DCODE_HOSTNAME then { r with hostname := some arg }
    else if code = DCODE_DOMAIN then { r with domain := some arg }
    else if code = DCODE_MTU then { r with mtu := some arg }
    else r

/-- The record after a bind on top of `cfgPacket`. -/
def bound (r : Iface) (cfgPacket p : DhcpMsg) : Iface := (bindCommands cfgPacket p).foldl overwrite r

/-- The record after a bind of `p` on a freshly deconfigured interface. -/
def full (p : DhcpMsg) : Iface := empty.bound .zero p

end Iface

/-- Calls of `ifchange_bind` one after another, each successful. -/
def bindSeq : List (Env × DhcpMsg) → Sys → Iface → Option (Sys × Iface)
  | [], s, r => some (s, r)
  | (env, p) :: calls, s, r =>
    match ifchangeBind env p s with
    | .ok ret t => if 0 ≤ ret then bindSeq calls t (r.bound s.cfgPacket p) else none
    | .error _ _ => none

/-! ## The buffer is the commands' text -/

section
variable (cfgPacket p : DhcpMsg)

theorem optEncoding_pos (code : UInt8) (od : List UInt8) : 0 < (optEncoding code od).1 := by
  unfold optEncoding
  repeat' split
  all_goals exact Nat.succ_pos _

theorem optEncoding_word (code : UInt8) (od : List UInt8) :
    (optEncoding code od).2.1 = (optEncoding code []).2.1 := by
  unfold optEncoding
  repeat' split
  all_goals rfl

theorem cmdText_optCommand (code : UInt8) (hc : code ∈ bindCodes) :
    cmdText cfgPacket p code = (optCommand cfgPacket p code).elim [] BindCmd.text := by
  unfold optCommand
  split
  · next h =>
    rw [cmdText_eq cfgPacket p code hc h]
    unfold carried
    split
    · rfl
    · simp only [Option.map_some, Option.elim_some, BindCmd.text, optEncoding_word]
  · next h => exact cmdText_eq_nil cfgPacket p code h

/-- **The buffer is the commands of the bind**, one after the other. -/
theorem bindBuffer_text : bindBuffer cfgPacket p = (bindCommands cfgPacket p).flatMap BindCmd.text := by
  have hopts (codes : List UInt8) (hc : ∀ c ∈ codes, c ∈ bindCodes) :
      codes.flatMap (cmdText cfgPacket p) =
        (codes.filterMap (optCommand cfgPacket p)).flatMap BindCmd.text := by
    induction codes with
    | nil => rfl
    | cons c codes ih =>
      have hrest := ih fun c' hc' => hc c' (List.mem_cons_of_mem _ hc')
      rw [List.flatMap_cons, cmdText_optCommand cfgPacket p c (hc c List.mem_cons_self), hrest]
      cases h : optCommand cfgPacket p c with
      | none => rw [List.filterMap_cons_none h, Option.elim_none, List.nil_append]
      | some cmd => rw [List.filterMap_cons_some h, List.flatMap_cons, Option.elim_some]
  rw [bindBuffer_eq, sendClientIp_eq, hopts bindCodes fun _ h => h, bindCommands, List.flatMap_append]
  congr 1
  split
  · rw [List.flatMap_singleton]
    rfl
  · rfl

end

/-! ## What a bind does to the record -/

/-- The options that have a field. -/
def fieldCodes : List UInt8 := [DCODE_ROUTER, DCODE_DNS, DCODE_HOSTNAME, DCODE_DOMAIN, DCODE_MTU]

namespace Iface

def addr (r : Iface) : Option UInt32 × Option UInt32 × Option UInt32 := (r.ip, r.subnet, r.broadcast)

def field (r : Iface) (code : UInt8) : Option (List UInt8) :=
  if code = DCODE_ROUTER then r.router
  else if code = DCODE_DNS then r.dns
  else if code = DCODE_HOSTNAME then r.hostname
  else if code = DCODE_DOMAIN then r.domain
  else if code = DCODE_MTU then r.mtu
  else none

theorem eq_iff (r r' : Iface) :
    r = r' ↔ r.addr = r'.addr ∧ ∀ code ∈ fieldCodes, r.field code = r'.field code := by
  constructor
  · rintro rfl
    exact ⟨rfl, fun _ _ => rfl⟩
  · rintro ⟨haddr, hfield⟩
    obtain ⟨hip, haddr⟩ := Prod.mk.inj haddr
    obtain ⟨hsn, hbc⟩ := Prod.mk.inj haddr
    have hrouter : r.router = r'.router := hfield DCODE_ROUTER (by decide)
    have hdns : r.dns = r'.dns := hfield DCODE_DNS (by decide)
    have hhost : r.hostname = r'.hostname := hfield DCODE_HOSTNAME (by decide)
    have hdom : r.domain = r'.domain := hfield DCODE_DOMAIN (by decide)
    have hmtu : r.mtu = r'.mtu := hfield DCODE_MTU (by decide)
    cases r
    cases r'
    simp_all

theorem overwrite_opt_addr (r : Iface) (code : UInt8) (arg : List UInt8) :
    (r.overwrite (.opt code arg)).addr = r.addr := by
  simp only [overwrite]
  repeat' split
  all_goals rfl

theorem overwrite_opt_field (r : Iface) (c code : UInt8) (arg : List UInt8) (hc : code ∈ fieldCodes) :
    (r.overwrite (.opt c arg)).field code = if c = code then some arg else r.field code := by
  by_cases heq : c = code
  · subst heq
    rw [if_pos rfl]
    simp only [fieldCodes, List.mem_cons, List.not_mem_nil, or_false] at hc
    rcases hc with rfl | rfl | rfl | rfl | rfl <;> rfl
  · rw [if_neg heq]
    simp only [overwrite]
    simp only [fieldCodes, List.mem_cons, List.not_mem_nil, or_false] at hc
    rcases hc with rfl | rfl | rfl | rfl | rfl <;>
      (repeat' split) <;> first | rfl | contradiction

end Iface

/-- The address triple a packet stands for. -/
def addrOf (p : DhcpMsg) : UInt32 × UInt32 × UInt32 :=
  (p.yiaddr, word32 (sentMask p), ((sentBcast p).map word32).getD
    (standardBcast p.yiaddr (prefixLength (word32 (sentMask p)))))

/-- The addresses in the record, by the packet they were last sent for. -/
def addrSet : Option DhcpMsg → Option UInt32 × Option UInt32 × Option UInt32
  | none => (none, none, none)
  | some p => (some (addrOf p).1, some (addrOf p).2.1, some (addrOf p).2.2)

theorem addrSet_eq_iff (a b : Option DhcpMsg) : addrSet a = addrSet b ↔ a.map addrOf = b.map addrOf := by
  cases a with
  | none =>
    cases b with
    | none => exact ⟨fun _ => rfl, fun _ => rfl⟩
    | some q => simp [addrSet]
  | some p =>
    cases b with
    | none => simp [addrSet]
    | some q => simp [addrSet, Prod.ext_iff]

section
variable (cfgPacket p : DhcpMsg)

theorem foldl_opts_addr (codes : List UInt8) (r : Iface) :
    ((codes.filterMap (optCommand cfgPacket p)).foldl Iface.overwrite r).addr = r.addr := by
  induction codes generalizing r with
  | nil => rfl
  | cons c codes ih =>
    cases h : optCommand cfgPacket p c with
    | none =>
      rw [List.filterMap_cons_none h]
      exact ih r
    | some cmd =>
      obtain ⟨arg, rfl⟩ : ∃ arg, cmd = .opt c arg := by
        unfold optCommand at h
        split at h
        · obtain ⟨arg, -, harg⟩ := Option.map_eq_some_iff.1 h
          exact ⟨arg, harg.symm⟩
        · cases h
      rw [List.filterMap_cons_some h, List.foldl_cons, ih, r.overwrite_opt_addr]

/-- The value a bind on top of `cfgPacket` sends for an option. -/
def sentValue (code : UInt8) : Option (List UInt8) :=
  if sent cfgPacket p code then carried p code else none

theorem foldl_opts_field (code : UInt8) (hc : code ∈ fieldCodes) (codes : List UInt8) (hnd : codes.Nodup)
    (r : Iface) :
    ((codes.filterMap (optCommand cfgPacket p)).foldl Iface.overwrite r).field code =
      if code ∈ codes then (sentValue cfgPacket p code).or (r.field code) else r.field code := by
  induction codes generalizing r with
  | nil => rfl
  | cons c codes ih =>
    obtain ⟨hnotin, hnd⟩ := List.nodup_cons.1 hnd
    have hcmd : optCommand cfgPacket p c = (sentValue cfgPacket p c).map (.opt c) := by
      unfold optCommand sentValue
      split <;> rfl
    cases hv : sentValue cfgPacket p c with
    | none =>
      rw [hv, Option.map_none] at hcmd
      rw [List.filterMap_cons_none hcmd, ih hnd]
      by_cases heq : code = c
      · subst heq
        rw [if_neg hnotin, if_pos List.mem_cons_self, hv, Option.none_or]
      · simp only [List.mem_cons, heq, false_or]
    | some arg =>
      rw [hv, Option.map_some] at hcmd
      rw [List.filterMap_cons_some hcmd, List.foldl_cons, ih hnd, r.overwrite_opt_field c code arg hc]
      by_cases heq : code = c
      · subst heq
        rw [if_neg hnotin, if_pos List.mem_cons_self, if_pos rfl, hv, Option.some_or]
      · simp only [List.mem_cons, heq, false_or, if_neg (Ne.symm heq)]

theorem bound_field (r : Iface) (code : UInt8) (hc : code ∈ fieldCodes) :
    (r.bound cfgPacket p).field code = (sentValue cfgPacket p code).or (r.field code) := by
  have hmem : code ∈ bindCodes := (by decide : fieldCodes ⊆ bindCodes) hc
  unfold Iface.bound bindCommands
  rw [List.foldl_append, foldl_opts_field cfgPacket p code hc bindCodes (by decide), if_pos hmem]
  split
  · rfl
  · rfl

theorem bound_addr (r : Iface) : (r.bound cfgPacket p).addr =
    if addrChanged p cfgPacket then addrSet (some p) else r.addr := by
  unfold Iface.bound bindCommands
  rw [List.foldl_append, foldl_opts_addr]
  split
  · rfl
  · rfl

end

/-! ## Sequences of binds -/

theorem option_zero (code : UInt8) : option .zero code = [] := by
  have hopts : DhcpMsg.zero.options = List.replicate 308 0 := List.drop_replicate
  have hfile : DhcpMsg.zero.file = List.replicate 128 0 := by
    show ((List.replicate 548 (0 : UInt8)).drop 108).take 128 = _
    rw [List.drop_replicate, List.take_replicate]
    rfl
  have hsname : DhcpMsg.zero.sname = List.replicate 64 0 := by
    show ((List.replicate 548 (0 : UInt8)).drop 44).take 64 = _
    rw [List.drop_replicate, List.take_replicate]
    rfl
  unfold option getDhcpOpt
  simp only [hopts, hfile, hsname, doGetDhcpOpt_zeros, ite_self]

theorem carried_nil (p : DhcpMsg) (code : UInt8) (h : option p code = []) : carried p code = none := by
  unfold carried
  rw [h, if_pos]
  exact optEncoding_pos code []

/-- The last packet whose address `send_client_ip` sent. -/
def lastAddr : DhcpMsg → Option DhcpMsg → List DhcpMsg → Option DhcpMsg
  | _, last, [] => last
  | cfgPacket, last, p :: ps => lastAddr p (if addrChanged p cfgPacket then some p else last) ps

/-- The last value the packets carry for an option. -/
def lastCarried (code : UInt8) (ps : List DhcpMsg) (v : Option (List UInt8)) : Option (List UInt8) :=
  ps.foldl (fun v p => (carried p code).or v) v

/-- The record shows what the packet in force carries. -/
def InForce (cfgPacket : DhcpMsg) (r : Iface) : Prop :=
  ∀ code ∈ fieldCodes, ∀ v, carried cfgPacket code = some v → r.field code = some v

/-- Not sending an option that has not changed makes no difference. -/
theorem bound_field_inForce (cfgPacket p : DhcpMsg) (r : Iface) (h : InForce cfgPacket r) (code : UInt8)
    (hc : code ∈ fieldCodes) : (r.bound cfgPacket p).field code = (carried p code).or (r.field code) := by
  rw [bound_field cfgPacket p r code hc, sentValue]
  split
  · rfl
  · next hs =>
    rw [Option.none_or]
    cases hv : carried p code with
    | none => rw [Option.none_or]
    | some v =>
      have hne : option p code ≠ [] := by
        intro h0
        rw [carried_nil p code h0] at hv
        cases hv
      have hold : option cfgPacket code = option p code := by
        by_contra hd
        exact hs ⟨hne, hd⟩
      have hcfg : carried cfgPacket code = some v := by
        rw [← hv]
        unfold carried
        rw [hold]
      rw [h code hc v hcfg, Option.some_or]

theorem ifchangeBind_cfgPacket (env : Env) (p : DhcpMsg) (s t : Sys) (ret : Int)
    (h : ifchangeBind env p s = .ok ret t) (hret : 0 ≤ ret) : t.cfgPacket = p := by
  have hwp : Prog.wp (ifchangeBind env p) (fun r t => 0 ≤ r → t.cfgPacket = p) (fun _ _ => True) s := by
    unfold ifchangeBind emit
    rw [Prog.wp_bind, Prog.wp_modify, Prog.wp_bind, Prog.wp_get, Prog.wp_ite]
    split
    · intro hneg
      exact absurd hneg (by decide)
    · rw [Prog.wp_bind]
      cases env.ifch .bind with
      | none => trivial
      | some r =>
        show Prog.wp (if r < 0 then pure r else _) _ _ _
        rw [Prog.wp_ite]
        split
        · intro hneg
          omega
        · intro _
          rfl
  exact (Prog.wp_ok_iff _ _ s _ ret t h).mp hwp hret

/-- What a sequence of successful binds does to the record. -/
theorem bindSeq_record (calls : List (Env × DhcpMsg)) (s t : Sys) (r r' : Iface) (last : Option DhcpMsg)
    (hr : InForce s.cfgPacket r)
    (hlast : r.addr = addrSet last) (h : bindSeq calls s r = some (t, r')) :
    (∀ code ∈ fieldCodes, r'.field code = lastCarried code (calls.map (·.2)) (r.field code)) ∧
      r'.addr = addrSet (lastAddr s.cfgPacket last (calls.map (·.2))) := by
  induction calls generalizing s r last with
  | nil =>
    cases h
    exact ⟨fun _ _ => rfl, hlast⟩
  | cons call calls ih =>
    obtain ⟨env, p⟩ := call
    simp only [bindSeq] at h
    split at h
    · next ret u hbind =>
      split at h
      · next hret =>
        have hcfg := ifchangeBind_cfgPacket env p s u ret hbind hret
        have hfield := bound_field_inForce s.cfgPacket p r hr
        have hforce : InForce u.cfgPacket (r.bound s.cfgPacket p) := by
          intro code hc v hv
          rw [hcfg] at hv
          rw [hfield code hc, hv, Option.some_or]
        obtain ⟨h1, h2⟩ := ih u (r.bound s.cfgPacket p)
          (if addrChanged p s.cfgPacket then some p else last) hforce (by
            rw [bound_addr, hlast]
            split <;> rfl) h
        refine ⟨fun code hc => ?_, ?_⟩
        · rw [h1 code hc, hfield code hc]
          rfl
        · rw [h2, hcfg]
          rfl
      · cases h
    · cases h

theorem lastCarried_append (code : UInt8) (ps : List DhcpMsg) (p : DhcpMsg) (v : Option (List UInt8)) :
    lastCarried code (ps ++ [p]) v = (carried p code).or (lastCarried code ps v) := by
  simp [lastCarried]

theorem lastCarried_eq_none_iff (code : UInt8) (ps : List DhcpMsg) (v : Option (List UInt8)) :
    lastCarried code ps v = none ↔ v = none ∧ ∀ p ∈ ps, carried p code = none := by
  induction ps generalizing v with
  | nil => simp [lastCarried]
  | cons p ps ih =>
    show lastCarried code ps ((carried p code).or v) = none ↔ _
    rw [ih, Option.or_eq_none_iff, List.forall_mem_cons]
    tauto

/-- **Delta configuration is full configuration** for the sequences in which no option is
withdrawn, and after which the addresses last sent are those of the last packet: the record is
then, and only then, that of the last packet alone. -/
theorem delta_eq_full_iff (s t : Sys) (hs : s.cfgPacket = .zero) (calls : List (Env × DhcpMsg))
    (env : Env) (p : DhcpMsg) (r : Iface)
    (h : bindSeq (calls ++ [(env, p)]) s .empty = some (t, r)) :
    r = .full p ↔
      (∀ code ∈ fieldCodes, (∃ call ∈ calls, carried call.2 code ≠ none) → carried p code ≠ none) ∧
      (lastAddr .zero none (calls.map (·.2) ++ [p])).map addrOf =
        (lastAddr .zero none [p]).map addrOf := by
  have hzero : InForce .zero .empty := by
    intro code _ v hv
    rw [carried_nil .zero code (option_zero code)] at hv
    cases hv
  have hempty (code : UInt8) : Iface.empty.field code = none := by
    unfold Iface.field
    repeat' split
    all_goals rfl
  obtain ⟨hfield, haddr⟩ := bindSeq_record _ s t .empty r none (hs ▸ hzero) rfl h
  rw [List.map_append, hs] at haddr
  have hfull (code : UInt8) (hc : code ∈ fieldCodes) : (Iface.full p).field code = carried p code := by
    rw [Iface.full, bound_field_inForce .zero p .empty hzero code hc, hempty code, Option.or_none]
  have hfullAddr : (Iface.full p).addr = addrSet (lastAddr .zero none [p]) := by
    rw [Iface.full, bound_addr]
    show _ = addrSet (if addrChanged p .zero then some p else none)
    split <;> rfl
  rw [Iface.eq_iff, haddr, hfullAddr, addrSet_eq_iff, and_comm]
  refine and_congr_left fun _ => forall₂_congr fun code hc => ?_
  rw [hfull code hc, hfield code hc, List.map_append, List.map_singleton, lastCarried_append, hempty code]
  cases hp : carried p code with
  | some v => simp
  | none =>
    rw [Option.none_or, lastCarried_eq_none_iff]
    constructor
    · rintro ⟨-, hall⟩ ⟨call, hmem, hne⟩
      exact absurd (hall call.2 (List.mem_map_of_mem hmem)) hne
    · intro hno
      refine ⟨rfl, ?_⟩
      intro q hq
      obtain ⟨call, hmem, rfl⟩ := List.mem_map.1 hq
      by_contra hne
      exact hno ⟨call, hmem, hne⟩ rfl

/-! ## A withdrawn router -/

def ackRouter : DhcpMsg := ackWith ([3, 4, 192, 168, 1, 1] ++ [255]) (by decide +kernel)

def ackDns : DhcpMsg := ackWith ([6, 4, 192, 168, 1, 1] ++ [255]) (by decide +kernel)

def ackBoth : DhcpMsg := ackWith ([3, 4, 192, 168, 1, 1] ++ [6, 4, 192, 168, 1, 1] ++ [255]) (by decide +kernel)

/-- The router of the first packet is still in the record after the second, which has none. -/
theorem withdrawn_router_survives :
    (bindSeq [(calmEnv, ackRouter), (calmEnv, ackDns)] exampleStart .empty).map (·.2.router) =
      some (some (ascii "192.168.1.1")) ∧ (Iface.full ackDns).router = none := by
  decide +kernel

theorem delta_eq_full_both :
    ∃ t r, bindSeq [(calmEnv, ackRouter), (calmEnv, ackBoth)] exampleStart .empty = some (t, r) ∧
      r = .full ackBoth := by
  have hsome : (bindSeq [(calmEnv, ackRouter), (calmEnv, ackBoth)] exampleStart .empty).isSome = true := by
    decide +kernel
  obtain ⟨⟨t, r⟩, h⟩ := Option.isSome_iff_exists.1 hsome
  exact ⟨t, r, h, (delta_eq_full_iff exampleStart t rfl [(calmEnv, ackRouter)] calmEnv ackBoth r h).2
    (by decide +kernel)⟩

end Ndhc
