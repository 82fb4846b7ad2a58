import Ndhc.Client.Handshake
import Ndhc.Lib.Leases
import Ndhc.Wire.Accept

/-!
# Clients of one server

Any number of clients on a network with one server, each of them the main loop of the program, in
any interleaving; messages are lost, repeated and reordered at will, and a client may be started
anew at any time.  The server grants addresses by acknowledgements, and a client counts its lease
from the moment at which it reads one.  Where no acknowledgement is under way for longer than
`delay`, a lease that is held was granted to its holder, who counts on it at most `delay` longer than
the server does (`lease_by_grant`); so no two clients count on one address at one time
(`tenures_disjoint`).

Of the server this asks that it waits for `delay` behind the end of a lease before it gives the
address to another, and that it keeps to one address within a transaction.
-/

namespace Ndhc

open Bytes Prog Relation

/-! ## The server -/

/-- An acknowledgement with the time at which it was sent, the lease as a client reads it. -/
structure Ack where
  time : Int
  chaddr : List UInt8
  xid : UInt32
  yiaddr : UInt32
  lease : UInt32
  deriving DecidableEq

namespace Ack

/-- What a client reads of a packet. -/
def of (time : Int) (p : DhcpMsg) : Ack :=
  ⟨time, slice p.chaddr 0 6, p.xid, p.yiaddr, leaseOf (getOptionLeasetime p)⟩

def grant (a : Ack) : Leases.Grant (List UInt8) UInt32 Int :=
  ⟨a.chaddr, a.yiaddr, a.time, a.time + 1000 * a.lease.toNat⟩

/-- In one transaction there is one address. -/
def Agrees (a b : Ack) : Prop := a.chaddr = b.chaddr → a.xid = b.xid → a.yiaddr = b.yiaddr

end Ack

/-! ## The network -/

/-- What the server has sent, newest first, and the clients. -/
structure Lan (ι : Type) where
  log : List Ack
  clients : ι → Work

/-- The acknowledgement in the arguments of a call. -/
def Input.ack (inp : Input) : Option DhcpMsg :=
  if inp.sevDhcp = true ∧ inp.dhcpMsgtype = DHCPACK then some inp.dhcpPacket else none

/-- The acknowledgement an iteration hands to `dhcp_handle`. -/
def handedAck (ck : NetChecksum) (cfg : ClientConfig) (it : Iteration) (w : Work) : Option DhcpMsg :=
  (workCall ck cfg it w).bind Input.ack

/-- It is one that was sent at most `delay` before. -/
def Punctual (ck : NetChecksum) (cfg : ClientConfig) (delay : Int) (log : List Ack) (it : Iteration) (w : Work) : Prop :=
  ∀ p, handedAck ck cfg it w = some p →
    ∃ time, Ack.of time p ∈ log ∧ time ≤ it.env.curms .getLeasetime ∧ it.env.curms .getLeasetime ≤ time + delay

section
variable {ι : Type} [DecidableEq ι] (ck : NetChecksum) (cfg : ι → ClientConfig) (delay : Int)

inductive Lan.Step : Lan ι → Lan ι → Prop
  | grant (n : Lan ι) (a : Ack) (hrespects : ∀ b ∈ n.log, a.grant.Respects delay b.grant)
    (hagrees : ∀ b ∈ n.log, b.Agrees a) : Lan.Step n { n with log := a :: n.log }
  | client (n : Lan ι) (i : ι) (it : Iteration) (hpunctual : Punctual ck (cfg i) delay n.log it (n.clients i)) :
    Lan.Step n { n with clients := Function.update n.clients i (work ck (cfg i) it (n.clients i)) }
  | restart (n : Lan ι) (i : ι) (b : Startup) (buf : DhcpMsg) :
    Lan.Step n { n with clients := Function.update n.clients i ⟨.start b, buf, false, false⟩ }

/-- Nothing sent yet. -/
def Lan.start (b : ι → Startup) (buf : ι → DhcpMsg) : Lan ι := ⟨[], fun i => ⟨.start (b i), buf i, false, false⟩⟩

end

/-- The lease a client goes by, with the end at which it gives it up. -/
def Sys.lease (s : Sys) : Leases.Lease UInt32 Int :=
  ⟨s.cs.clientAddr, s.cs.leaseStartTime, s.cs.leaseStartTime + (s.cs.lease * 1000).toNat⟩

/-- The address it counts on, at every time at which it does. -/
def Sys.tenure (s : Sys) : Set (UInt32 × Int) := { p | s.pc.stage.holds = true ∧ p ∈ s.lease.tenure }

/-! ## What is handed over -/

section
variable (ck : NetChecksum) (cfg : ClientConfig)

/-- A packet that is accepted carries the transaction and the hardware address of the client. -/
structure Addressed (xid : UInt32) (p : DhcpMsg) : Prop where
  xid : p.xid = xid
  chaddr : slice p.chaddr 0 6 = cfg.arp.bytes

theorem receive_addressed (xid : UInt32) (bpf : Bool) (rd : ReadResult) (buf : DhcpMsg)
    (h : (receive ck cfg xid bpf rd buf).2.isSome = true) : Addressed cfg xid (receive ck cfg xid bpf rd buf).1 := by
  unfold receive at h ⊢
  split at h
  · next len m src _ =>
    obtain ⟨t, ht⟩ : ∃ t, validateDhcpPacket cfg xid len m = some t :=
      Option.isSome_iff_exists.mp (by simpa using h)
    have hhdr := (validateDhcpPacket_some cfg xid len m t ht).1
    simp only [dhcpHeaderOk, Bool.and_eq_true, beq_iff_eq] at hhdr
    exact ⟨hhdr.1.2, hhdr.2⟩
  · cases h

/-- The packet of a call is addressed to the client as it was before the event. -/
theorem workCall_addressed (it : Iteration) (w : Work) (inp : Input) (h : workCall ck cfg it w = some inp)
    (hsev : inp.sevDhcp = true) : Addressed cfg w.sys.cs.xid inp.dhcpPacket := by
  have hread := readEvent_hands ck cfg it.env w.dhcpPacket it.event { w.sys with out := [] }
  unfold workCall at h
  split at h
  · cases h
  · split at h
    · cases h
    · next buf ev s hr =>
      rw [wp_ok_iff _ _ _ _ _ _ hr] at hread
      split at h
      · cases h
        obtain ⟨-, -, -, -, rd, hgot⟩ := hread hsev
        obtain ⟨rfl, hfrom⟩ := Prod.mk.inj hgot
        exact receive_addressed ck cfg _ _ rd _ (hfrom ▸ hsev)
      · cases h

end

/-! ## Leases and grants -/

/-- The terms of a client are those of an acknowledgement of `addr` in its transaction. -/
def Granted (delay : Int) (log : List Ack) (chaddr : List UInt8) (addr : UInt32) (v : Client) : Prop :=
  ∃ a ∈ log, a.chaddr = chaddr ∧ a.xid = v.xid ∧ a.yiaddr = addr ∧ a.lease = v.lease ∧
    a.time ≤ v.leaseStart ∧ v.leaseStart ≤ a.time + delay

/-- The invariant: an address that is tested or held was granted. -/
structure Tenant (delay : Int) (log : List Ack) (chaddr : List UInt8) (c : Stage × Client) : Prop where
  tested : c.1 = .probing → Granted delay log chaddr c.2.pending.yiaddr c.2
  held : c.1.holds = true → Granted delay log chaddr c.2.addr c.2

/-- Where a client that was handed an acknowledgement may take it, it is still in the transaction
`xid`. -/
def Current (acked : Prop) (xid : UInt32) (c : Stage × Client) : Prop := acked → c.1.awaits = true → c.2.xid = xid

section
variable {delay : Int} {log : List Ack} {chaddr : List UInt8} {g g' : Stage} {v w : Client}

theorem Tenant.free (hprobing : g ≠ .probing) (hholds : g.holds = false) : Tenant delay log chaddr (g, v) :=
  ⟨fun h => absurd h hprobing, fun h => absurd (hholds.symm.trans h) Bool.false_ne_true⟩

end

section
variable (env : Env) (inp : Input) (delay : Int) (log : List Ack) (chaddr : List UInt8) (xid : UInt32)
  (hagrees : ∀ a ∈ log, ∀ b ∈ log, a.Agrees b)
  (hack : ∀ p, inp.ack = some p → ∀ v : Client, v.xid = xid →
    Granted delay log chaddr p.yiaddr (v.granted (env.curms .getLeasetime) p))
include hagrees hack

/-- **Each act keeps to what was granted.** -/
theorem Act.tenant (c d : Stage × Client) (hact : Act env inp c d)
    (h : Tenant delay log chaddr c ∧ Current (inp.ack.isSome = true) xid c) :
    Tenant delay log chaddr d ∧ Current (inp.ack.isSome = true) xid d := by
  obtain ⟨h, hcur⟩ := h
  have hreply : ∀ sid, Reply inp DHCPACK sid → inp.ack = some inp.dhcpPacket :=
    fun _ hs => if_pos ⟨hs.here, hs.type⟩
  have htaken : ∀ {g : Stage} {v : Client} (sid : UInt32), Current (inp.ack.isSome = true) xid (g, v) →
      Reply inp DHCPACK sid → g.awaits = true → v.xid = xid ∧
        Granted delay log chaddr inp.dhcpPacket.yiaddr (v.granted (env.curms .getLeasetime) inp.dhcpPacket) := by
    intro g v sid hcur hs hg
    have hxid : v.xid = xid := hcur (hreply sid hs ▸ rfl) hg
    exact ⟨hxid, hack _ (hreply sid hs) v hxid⟩
  -- where no address is tested or held there is nothing to show
  have hrest : ∀ {g : Stage} {v : Client}, g ≠ .probing → g.awaits = false → g.holds = false →
      Tenant delay log chaddr (g, v) ∧ Current (inp.ack.isSome = true) xid (g, v) :=
    fun hp ha hh => ⟨.free hp hh, fun _ hw => absurd (ha.symm.trans hw) Bool.false_ne_true⟩
  -- a client that goes on with its lease
  have hgoes : ∀ {w : Client}, Granted delay log chaddr w.addr w → (inp.ack.isSome = true → w.xid = xid) →
      Tenant delay log chaddr (.bound, w) ∧ Current (inp.ack.isSome = true) xid (.bound, w) :=
    fun hw hx => ⟨⟨nofun, fun _ => hw⟩, fun hs _ => hx hs⟩
  cases hact with
  | exit g v v' hout => exact hrest (by decide) rfl rfl
  | transaction v x => exact hrest (by decide) rfl rfl
  | discover v hdue => exact hrest (by decide) rfl rfl
  | offer v sid hans =>
    refine ⟨.free (by decide) rfl, fun hs _ => ?_⟩
    have hnone : inp.ack = none := if_neg fun hack => absurd (hans.type.symm.trans hack.2) (by decide)
    rw [hnone] at hs
    cases hs
  | request g v hg hdue hfew =>
    exact ⟨⟨h.tested, h.held⟩, hcur⟩
  | giveUp g v hg hdue hmany => exact hrest (by decide) rfl rfl
  | ack v sid hans haddr =>
    obtain ⟨src, hsrc⟩ := v.heeds_eq sid inp.dhcpSrcaddr
    rw [hsrc]
    obtain ⟨hxid, hnew⟩ := htaken sid hcur hans rfl
    exact ⟨⟨fun _ => hnew, nofun⟩, fun _ _ => hxid⟩
  | ackUntested v sid hans haddr => exact hrest (by decide) rfl rfl
  | probe v hdue => exact ⟨⟨h.tested, nofun⟩, hcur⟩
  | decline v hframe => exact hrest (by decide) rfl rfl
  | undeclined v hframe => exact ⟨⟨h.tested, nofun⟩, hcur⟩
  | bind v hdue => exact hgoes (h.tested rfl) fun hs => hcur hs rfl
  | unbound v v' hdue hout => exact hrest (by decide) rfl rfl
  | extend v hans hfrom haddr =>
    obtain ⟨hxid, hnew⟩ := htaken _ hcur hans rfl
    rw [haddr] at hnew
    exact hgoes hnew fun _ => hxid
  | check v hans hfrom haddr =>
    -- the server would have changed the address within the transaction
    obtain ⟨a, ha, hac, hax, hay, -⟩ := h.held rfl
    obtain ⟨-, b, hb, hbc, hbx, hby, -⟩ := htaken _ hcur hans rfl
    have hsame : a.yiaddr = b.yiaddr := hagrees a ha b hb (hac.trans hbc.symm) (hax.trans hbx.symm)
    exact absurd (hby.symm.trans (hsame.symm.trans hay)) haddr
  | checkUntested v hans hfrom haddr => exact hrest (by decide) rfl rfl
  | nak v hans hfrom => exact hrest (by decide) rfl rfl
  | expire v hdue hrebind hend => exact hrest (by decide) rfl rfl
  | surrender v x hframe => exact hrest (by decide) rfl rfl
  | lose v harp => exact hrest (by decide) rfl rfl
  | remove v hforce hpeer => exact hrest (by decide) rfl rfl
  | stall v hforce hpeer => exact ⟨⟨nofun, fun _ => h.held rfl⟩, fun hs _ => hcur hs rfl⟩
  | recover v => exact hrest (by decide) rfl rfl
  | cancel g v hg hsig => exact hrest (by decide) rfl rfl
  | release v x hsig => exact hrest (by decide) rfl rfl
  | resume v hsig => exact hrest (by decide) rfl rfl
  | _ => exact hgoes (h.held rfl) fun hs => hcur hs rfl

end

instance (ck : NetChecksum) (cfg : ClientConfig) (delay : Int) (log : List Ack) (it : Iteration) (w : Work) :
    Decidable (Punctual ck cfg delay log it w) :=
  decidable_of_iff (∀ p ∈ handedAck ck cfg it w, ∃ a ∈ log, Ack.of a.time p = a ∧
      a.time ≤ it.env.curms .getLeasetime ∧ it.env.curms .getLeasetime ≤ a.time + delay)
    ⟨fun h p hp => by
      obtain ⟨a, ha, heq, htime⟩ := h p hp
      exact ⟨a.time, heq ▸ ha, htime⟩,
    fun h p hp => by
      obtain ⟨time, hmem, htime⟩ := h p hp
      exact ⟨_, hmem, rfl, htime⟩⟩

/-! ## Runs of the network -/

section
variable {ι : Type} (ck : NetChecksum) (cfg : ι → ClientConfig) (delay : Int)

structure Lan.Sound (n : Lan ι) : Prop where
  exclusive : Leases.Exclusive delay (n.log.map Ack.grant)
  agrees : ∀ a ∈ n.log, ∀ b ∈ n.log, a.Agrees b
  tenants : ∀ i, Tenant delay n.log (cfg i).arp.bytes
    ((n.clients i).sys.pc.stage, (view (n.clients i).sys).fresh)

theorem Tenant.mono {log log' : List Ack} {chaddr : List UInt8} {c : Stage × Client} (hlog : log ⊆ log')
    (h : Tenant delay log chaddr c) : Tenant delay log' chaddr c := by
  have hgrant : ∀ addr v, Granted delay log chaddr addr v → Granted delay log' chaddr addr v :=
    fun _ _ ⟨a, ha, hrest⟩ => ⟨a, hlog ha, hrest⟩
  exact ⟨fun hp => hgrant _ _ (h.tested hp), fun hh => hgrant _ _ (h.held hh)⟩

/-- An iteration that is handed nothing but what was sent. -/
theorem work_tenant (cfg : ClientConfig) (log : List Ack) (hagrees : ∀ a ∈ log, ∀ b ∈ log, a.Agrees b) (it : Iteration)
    (w : Work) (hpunctual : Punctual ck cfg delay log it w)
    (h : Tenant delay log cfg.arp.bytes (w.sys.pc.stage, (view w.sys).fresh)) :
    Tenant delay log cfg.arp.bytes ((work ck cfg it w).sys.pc.stage, (view (work ck cfg it w).sys).fresh) := by
  refine (work_keeps ck cfg (fun c => Tenant delay log cfg.arp.bytes c ∧
    Current ((handedAck ck cfg it w).isSome = true) w.sys.cs.xid c) it w ?_ ?_ ?_ ⟨h, fun _ _ => rfl⟩).1
  · exact fun v => ⟨.free (by decide) rfl, fun _ hw => absurd hw Bool.false_ne_true⟩
  · exact fun g v hv => ⟨⟨hv.1.tested, hv.1.held⟩, hv.2⟩
  · intro inp hcall
    have hhanded : handedAck ck cfg it w = inp.ack := by
      unfold handedAck
      rw [hcall]
      rfl
    rw [hhanded]
    refine Act.tenant it.env inp delay log cfg.arp.bytes w.sys.cs.xid hagrees fun p hp v hxid => ?_
    obtain ⟨time, hmem, hfrom, hto⟩ := hpunctual p (hhanded.trans hp)
    unfold Input.ack at hp
    split at hp
    · next hsev =>
      cases hp
      obtain ⟨hpx, hpc⟩ := workCall_addressed ck cfg it w inp hcall hsev.1
      exact ⟨_, hmem, hpc, hpx.trans hxid.symm, rfl, rfl, hfrom, hto⟩
    · cases hp

variable [DecidableEq ι]

theorem Lan.Sound.update {n : Lan ι} (h : n.Sound cfg delay) (i : ι) (w : Work)
    (hw : Tenant delay n.log (cfg i).arp.bytes (w.sys.pc.stage, (view w.sys).fresh)) :
    Lan.Sound cfg delay { n with clients := Function.update n.clients i w } := by
  refine ⟨h.exclusive, h.agrees, fun j => ?_⟩
  show Tenant delay n.log (cfg j).arp.bytes ((Function.update n.clients i w j).sys.pc.stage,
    (view (Function.update n.clients i w j).sys).fresh)
  rcases eq_or_ne j i with rfl | hne
  · rw [Function.update_self]
    exact hw
  · rw [Function.update_of_ne hne]
    exact h.tenants j

theorem Tenant.start (log : List Ack) (chaddr : List UInt8) (b : Startup) :
    Tenant delay log chaddr ((Sys.start b).pc.stage, (view (Sys.start b)).fresh) :=
  Tenant.free (show Stage.selecting ≠ .probing by decide) rfl

theorem Lan.Step.sound (n m : Lan ι) (hstep : Lan.Step ck cfg delay n m) (h : n.Sound cfg delay) :
    m.Sound cfg delay := by
  cases hstep with
  | grant a hrespects hagrees =>
    refine ⟨h.exclusive.cons _ ?_, ?_, fun i => (h.tenants i).mono delay (List.subset_cons_self a n.log)⟩
    · intro g hg
      obtain ⟨b, hb, rfl⟩ := List.mem_map.mp hg
      exact hrespects b hb
    · intro b hb c hc hchaddr hxid
      rcases List.mem_cons.mp hc with rfl | hc'
      · rcases List.mem_cons.mp hb with rfl | hb'
        · rfl
        · exact hagrees b hb' hchaddr hxid
      · rcases List.mem_cons.mp hb with rfl | hb'
        · exact (hagrees c hc' hchaddr.symm hxid.symm).symm
        · exact h.agrees b hb' c hc' hchaddr hxid
  | client i it hpunctual =>
    exact h.update cfg delay i _ (work_tenant ck delay (cfg i) n.log h.agrees it _ hpunctual (h.tenants i))
  | restart i b buf => exact h.update cfg delay i _ (Tenant.start delay n.log _ b)

theorem Lan.sound_of_reach (b : ι → Startup) (buf : ι → DhcpMsg) (n : Lan ι)
    (hreach : ReflTransGen (Lan.Step ck cfg delay) (.start b buf) n) : n.Sound cfg delay := by
  induction hreach with
  | refl => exact ⟨List.Pairwise.nil, fun _ h => absurd h List.not_mem_nil, fun i => Tenant.start delay [] _ (b i)⟩
  | tail _ hstep ih => exact hstep.sound ck cfg delay _ _ ih

/-- The end the client computes, in 32 bits, is not behind the one that was granted. -/
theorem lease_stop_le (s : Sys) (a : Ack) (hlease : a.lease = s.cs.lease)
    (hto : s.cs.leaseStartTime ≤ a.time + delay) : s.lease.stop ≤ a.grant.stop + delay := by
  have hwrap : (s.cs.lease * 1000).toNat ≤ s.cs.lease.toNat * 1000 := by
    rw [UInt32.toNat_mul]
    exact Nat.mod_le _ _
  show s.cs.leaseStartTime + (s.cs.lease * 1000).toNat ≤ a.time + 1000 * a.lease.toNat + delay
  rw [hlease]
  omega

/-- **A lease that is held was granted.**  In every state of the network that can be reached, a
client with a lease has it by an acknowledgement which the server sent to its hardware address, of
its address and in its present transaction, at most `delay` before the lease began; and the client
counts on it at most `delay` longer than the server. -/
theorem lease_by_grant (b : ι → Startup) (buf : ι → DhcpMsg) (n : Lan ι)
    (hreach : ReflTransGen (Lan.Step ck cfg delay) (.start b buf) n) (i : ι)
    (hholds : (n.clients i).sys.pc.stage.holds = true) :
    ∃ a ∈ n.log, a.chaddr = (cfg i).arp.bytes ∧ a.yiaddr = (n.clients i).sys.cs.clientAddr ∧
      a.xid = (n.clients i).sys.cs.xid ∧ a.time ≤ (n.clients i).sys.cs.leaseStartTime ∧
      (n.clients i).sys.cs.leaseStartTime ≤ a.time + delay ∧
      (n.clients i).sys.lease.stop ≤ a.grant.stop + delay := by
  obtain ⟨a, ha, hchaddr, hxid, haddr, hlease, hfrom, hto⟩ :=
    ((Lan.sound_of_reach ck cfg delay b buf n hreach).tenants i).held hholds
  exact ⟨a, ha, hchaddr, haddr, hxid, hfrom, hto, lease_stop_le delay _ a hlease hto⟩

theorem Granted.backed {log : List Ack} {chaddr : List UInt8} {s : Sys}
    (h : Granted delay log chaddr s.cs.clientAddr (view s).fresh) :
    Leases.Backed delay (log.map Ack.grant) chaddr s.lease := by
  obtain ⟨a, ha, hchaddr, -, haddr, hlease, hfrom, hto⟩ := h
  exact ⟨a.grant, List.mem_map_of_mem ha, hchaddr, haddr, hfrom, lease_stop_le delay s a hlease hto⟩

/-- Iterations that are handed nothing but what was sent. -/
def PunctualRun (cfg : ClientConfig) (log : List Ack) : List Iteration → Work → Prop
  | [], _ => True
  | it :: its, w => Punctual ck cfg delay log it w ∧ PunctualRun cfg log its (work ck cfg it w)

instance PunctualRun.decide (cfg : ClientConfig) (log : List Ack) (its : List Iteration) (w : Work) :
    Decidable (PunctualRun ck delay cfg log its w) :=
  match its with
  | [] => isTrue trivial
  | it :: its => @instDecidableAnd _ _ _ (PunctualRun.decide cfg log its (work ck cfg it w))

theorem reach_works (its : List Iteration) (n : Lan ι) (i : ι)
    (h : PunctualRun ck delay (cfg i) n.log its (n.clients i)) :
    ReflTransGen (Lan.Step ck cfg delay) n
      { n with clients := Function.update n.clients i (works ck (cfg i) its (n.clients i)) } := by
  induction its generalizing n with
  | nil =>
    rw [show works ck (cfg i) [] (n.clients i) = n.clients i from rfl, Function.update_eq_self]
  | cons it its ih =>
    have hrest := ih { n with clients := Function.update n.clients i (work ck (cfg i) it (n.clients i)) }
    simp only [Function.update_self, Function.update_idem] at hrest
    exact .head (.client n i it h.1) (hrest h.2)

/-- **No two clients count on one address.**  In every state of the network that can be reached, the
tenures of two clients with different hardware addresses are disjoint: at no time do both hold a
lease of one address that is not over by their own account. -/
theorem tenures_disjoint (b : ι → Startup) (buf : ι → DhcpMsg) (n : Lan ι)
    (hreach : ReflTransGen (Lan.Step ck cfg delay) (.start b buf) n) (i j : ι)
    (hne : (cfg i).arp ≠ (cfg j).arp) : Disjoint (n.clients i).sys.tenure (n.clients j).sys.tenure := by
  have hsound := Lan.sound_of_reach ck cfg delay b buf n hreach
  have hmac : (cfg i).arp.bytes ≠ (cfg j).arp.bytes := by
    intro h
    apply hne
    cases hi : (cfg i).arp
    cases hj : (cfg j).arp
    rw [hi, hj] at h
    exact (Mac.mk.injEq _ _ _ _).mpr h
  rw [Set.disjoint_left]
  rintro p ⟨hi, hpi⟩ ⟨hj, hpj⟩
  have hdisj := hsound.exclusive.disjoint _ _ _ _ hmac (Granted.backed delay ((hsound.tenants i).held hi))
    (Granted.backed delay ((hsound.tenants j).held hj))
  exact Set.disjoint_left.mp hdisj hpi hpj

end

/-! ## One address, two clients -/

/-- An address is obtained at `now`, for a minute, and probed for two seconds. -/
def obtaining (now : Int) (mac : List UInt8) : List Iteration :=
  [smoothIteration now .none, offerAt now mac, smoothIteration now .none, ackAt now mac, smoothIteration (now + 2000) .none]

theorem length_otherMac : [2, 0, 0, 0, 0, (2 : UInt8)].length = 6 := rfl

/-- Two hosts. -/
def twoHosts (i : Bool) : ClientConfig :=
  { exampleConfig with arp := if i then exampleConfig.arp else ⟨[2, 0, 0, 0, 0, 2], length_otherMac⟩ }

def grantAt (now : Int) (mac : List UInt8) : Ack := ⟨now, mac, 7, 0xc0a8010a, 60⟩

def firstTenant : Work := works inetChecksum (twoHosts true) (obtaining 0 [2, 0, 0, 0, 0, 1]) exampleWork

def secondTenant : Work := works inetChecksum (twoHosts false) (obtaining 61000 [2, 0, 0, 0, 0, 2]) exampleWork

def bothStarted : Lan Bool := .start (fun _ => ⟨0, false, false, 3, true, Int.zero_le_ofNat 3⟩) fun _ => .zero

/-- The one host after the other, the first not yet aware that its lease is over. -/
def lentTwice : Lan Bool where
  log := [grantAt 61000 [2, 0, 0, 0, 0, 2], grantAt 0 [2, 0, 0, 0, 0, 1]]
  clients := Function.update (Function.update bothStarted.clients true firstTenant) false secondTenant

theorem lentTwice_reach : ReflTransGen (Lan.Step inetChecksum twoHosts 500) bothStarted lentTwice := by
  let n₁ : Lan Bool := { bothStarted with log := [grantAt 0 [2, 0, 0, 0, 0, 1]] }
  let n₂ : Lan Bool := { n₁ with clients := Function.update bothStarted.clients true firstTenant }
  let n₃ : Lan Bool := { n₂ with log := grantAt 61000 [2, 0, 0, 0, 0, 2] :: n₂.log }
  have hgrant₁ : Lan.Step inetChecksum twoHosts 500 bothStarted n₁ :=
    .grant bothStarted _ (fun _ h => absurd h List.not_mem_nil) fun _ h => absurd h List.not_mem_nil
  have hgrant₂ : Lan.Step inetChecksum twoHosts 500 n₂ n₃ := by
    refine .grant n₂ _ ?_ ?_
    · intro b hb _ _
      cases List.mem_singleton.mp hb
      decide
    · intro b hb hchaddr
      cases List.mem_singleton.mp hb
      exact absurd hchaddr (by decide)
  have hfirst : ReflTransGen (Lan.Step inetChecksum twoHosts 500) n₁ n₂ :=
    reach_works inetChecksum twoHosts 500 _ n₁ true (by decide +kernel)
  have hsecond : ReflTransGen (Lan.Step inetChecksum twoHosts 500) n₃ lentTwice :=
    reach_works inetChecksum twoHosts 500 _ n₃ false (by decide +kernel)
  exact ((ReflTransGen.single hgrant₁).trans hfirst).trans ((ReflTransGen.single hgrant₂).trans hsecond)

theorem lease_by_grant_lent :
    (lentTwice.clients false).sys.pc.stage.holds = true ∧
      ∃ a ∈ lentTwice.log, a.chaddr = [2, 0, 0, 0, 0, 2] ∧ a.yiaddr = (lentTwice.clients false).sys.cs.clientAddr := by
  have hholds : (lentTwice.clients false).sys.pc.stage.holds = true := by decide +kernel
  obtain ⟨a, ha, hchaddr, haddr, -⟩ := lease_by_grant inetChecksum twoHosts 500 _ _ lentTwice lentTwice_reach false hholds
  exact ⟨hholds, a, ha, hchaddr, haddr⟩

/-- Both hosts have a lease of 192.168.1.10, which the second one has counted on since 61 seconds. -/
theorem tenures_disjoint_lent :
    (lentTwice.clients true).sys.lease = ⟨0xc0a8010a, 0, 60000⟩ ∧
      (lentTwice.clients false).sys.lease = ⟨0xc0a8010a, 61000, 121000⟩ ∧
      Disjoint (lentTwice.clients true).sys.tenure (lentTwice.clients false).sys.tenure := by
  have hfirst : (lentTwice.clients true).sys.lease = ⟨0xc0a8010a, 0, 60000⟩ := by decide +kernel
  have hsecond : (lentTwice.clients false).sys.lease = ⟨0xc0a8010a, 61000, 121000⟩ := by decide +kernel
  exact ⟨hfirst, hsecond, tenures_disjoint inetChecksum twoHosts 500 _ _ lentTwice lentTwice_reach true false
    (by decide)⟩

end Ndhc
