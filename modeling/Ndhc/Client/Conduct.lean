import Mathlib.Data.List.Induction
import Ndhc.Client.Refinement

/-!
# What the client says of itself

A DHCP message with a `ciaddr` and an ARP frame with a sender address claim that the address is
ours.  Over a whole run of the client, with every message, frame and change of the interface in
one trace, such a claim is only made of the address the interface was last configured with; and a
request that names a server repeats an address that server offered or acknowledged.  Both are
invariants of the protocol, carried over to the code by its refinement.
-/

namespace Ndhc

open Prog Relation

section
variable {env : Env} {inp : Input}

/-- What every act keeps, a run of acts keeps. -/
theorem Acts.keeps {c d : Stage × Client} (h : Acts env inp c d) (I : Stage × Client → Prop)
    (hI : ∀ c d, Act env inp c d → I c → I d) (hc : I c) : I d := by
  induction h with
  | refl => exact hc
  | tail _ hact ih => exact hI _ _ hact ih

end

/-- What the acts of a call keep, a step keeps. -/
theorem Step.keeps (cfg : ClientConfig) (st : Step) (I : Stage × Client → Prop) (s : Sys)
    (hstart : I (s.pc.stage, (view s).fresh)) (hstop : ∀ v : Client, v.out = [] → I (.stopped, v))
    (hact : ∀ env inp, st = .handle env inp → ∀ c d, Act env inp c d → I c → I d) :
    I (protocol (st.next cfg s)) := by
  have hallow := st.next_allowed cfg s
  have hread : (∀ env inp, st ≠ .handle env inp) → I (protocol (st.next cfg s)) := by
    intro hne
    have hcases : ((protocol (st.next cfg s)).1 = s.pc.stage ∧ (protocol (st.next cfg s)).2 = (view s).fresh) ∨
        ((protocol (st.next cfg s)).1 = .stopped ∧ (protocol (st.next cfg s)).2.out = []) := by
      cases st with
      | handle env inp => exact absurd rfl (hne env inp)
      | _ => exact hallow
    rw [← Prod.eta (protocol (st.next cfg s))]
    rcases hcases with ⟨hstage, hview⟩ | ⟨hstage, hout⟩
    · rw [hstage, hview]
      exact hstart
    · rw [hstage]
      exact hstop _ hout
  rcases st.read_or_call with hne | ⟨env, inp, rfl⟩
  · exact hread hne
  · exact hallow.keeps I (hact env inp rfl) hstart

/-- Everything a run does to the outside. -/
def effects (cfg : ClientConfig) : List Step → Sys → List Effect
  | [], _ => []
  | st :: steps, s => (st.next cfg s).out ++ effects cfg steps (st.next cfg s)

/-! ## Addresses -/

/-- The address of the interface after an effect. -/
def Effect.configures (a : UInt32) : Effect → UInt32
  | .bind b => b
  | .deconfig => 0
  | _ => a

def configured (a : UInt32) (es : List Effect) : UInt32 := es.foldl Effect.configures a

/-- An effect claims no address but `a`. -/
def Effect.Claims (a : UInt32) : Effect → Prop
  | .dhcp m => m.ciaddr = 0 ∨ m.ciaddr = a
  | .arp sip _ => sip = 0 ∨ sip = a
  | _ => True

/-- Each effect claims no address but the one configured before it. -/
def Honest : UInt32 → List Effect → Prop
  | _, [] => True
  | a, e :: es => e.Claims a ∧ Honest (e.configures a) es

theorem honest_append (a : UInt32) (es fs : List Effect) :
    Honest a (es ++ fs) ↔ Honest a es ∧ Honest (configured a es) fs := by
  induction es generalizing a with
  | nil => exact ⟨fun h => ⟨trivial, h⟩, And.right⟩
  | cons e es ih => exact (and_congr_right fun _ => ih _).trans and_assoc.symm

theorem configured_append (a : UInt32) (es fs : List Effect) :
    configured a (es ++ fs) = configured (configured a es) fs := List.foldl_append

/-- An address is held. -/
def Stage.holds : Stage → Bool
  | .bound => true
  | .stalled => true
  | _ => false

theorem Stage.asking_free (g : Stage) (h : g.asking = true) : g ≠ .stopped ∧ g.holds = false := by
  cases g with
  | requesting => exact ⟨by decide, rfl⟩
  | probing => exact ⟨by decide, rfl⟩
  | _ => cases h

theorem Stage.leaseless_live (g : Stage) (h : g.leaseless = true) : g ≠ .stopped := by
  rintro rfl
  cases h

/-- The invariant: started with the interface at `a`, all claims so far were of the address then
configured, and the address held is the one configured. -/
structure Faithful (a : UInt32) (c : Stage × Client) : Prop where
  honest : Honest a c.2.out
  config : c.1 ≠ .stopped → c.2.config.yiaddr = configured a c.2.out
  addr : c.1.holds = true → c.2.addr = c.2.config.yiaddr ∧ c.2.deconfigured = false

namespace Faithful

variable {a : UInt32} {g g' : Stage} {v w : Client}

/-- A client that stops claims nothing more. -/
theorem stop (h : Faithful a (g, v)) (es : List Effect) (hout : w.out = v.out ++ es)
    (hes : Honest (configured a v.out) es) : Faithful a (.stopped, w) where
  honest := by
    show Honest a w.out
    rw [hout, honest_append]
    exact ⟨h.honest, hes⟩
  config hne := absurd rfl hne
  addr hg := by cases hg

/-- Effects other than those on the interface, in a stage without an address or with the same. -/
theorem does (h : Faithful a (g, v)) (hg : g ≠ .stopped) (es : List Effect) (hout : w.out = v.out ++ es)
    (hes : ∀ e ∈ es, e.Claims (configured a v.out) ∧ ∀ b, e.configures b = b) (hconfig : w.config = v.config)
    (haddr : g'.holds = true → g.holds = true ∧ w.addr = v.addr ∧ w.deconfigured = v.deconfigured) :
    Faithful a (g', w) := by
  have hstay : ∀ (fs : List Effect) (b : UInt32), (∀ e ∈ fs, e.Claims b ∧ ∀ b, e.configures b = b) →
      Honest b fs ∧ configured b fs = b := by
    intro fs b hfs
    induction fs with
    | nil => exact ⟨trivial, rfl⟩
    | cons e fs ih =>
      obtain ⟨hclaims, hconf⟩ := hfs e List.mem_cons_self
      have hrest := ih fun x hx => hfs x (List.mem_cons_of_mem _ hx)
      unfold configured at hrest ⊢
      rw [List.foldl_cons, hconf]
      refine ⟨⟨hclaims, ?_⟩, hrest.2⟩
      rw [hconf]
      exact hrest.1
  obtain ⟨hhon, hconf⟩ := hstay es _ hes
  refine ⟨?_, fun _ => ?_, fun hg' => ?_⟩
  · show Honest a w.out
    rw [hout, honest_append]
    exact ⟨h.honest, hhon⟩
  · show w.config.yiaddr = configured a w.out
    rw [hout, configured_append, hconf, hconfig]
    exact h.config hg
  · obtain ⟨hheld, ha, hd⟩ := haddr hg'
    show w.addr = w.config.yiaddr ∧ w.deconfigured = false
    rw [ha, hd, hconfig]
    exact h.addr hheld

/-- Nothing done. -/
theorem silent (h : Faithful a (g, v)) (hg : g ≠ .stopped) (hout : w.out = v.out) (hconfig : w.config = v.config)
    (haddr : g'.holds = true → g.holds = true ∧ w.addr = v.addr ∧ w.deconfigured = v.deconfigured) :
    Faithful a (g', w) :=
  h.does hg [] (by rw [hout, List.append_nil]) (fun _ he => absurd he List.not_mem_nil) hconfig haddr

/-- A message that claims no address, or the one held. -/
theorem sends (h : Faithful a (g, v)) (hg : g ≠ .stopped) (m : Sent)
    (hm : m.ciaddr = 0 ∨ (g.holds = true ∧ m.ciaddr = v.addr)) (hout : w.out = v.out ++ [.dhcp m])
    (hconfig : w.config = v.config)
    (haddr : g'.holds = true → g.holds = true ∧ w.addr = v.addr ∧ w.deconfigured = v.deconfigured) :
    Faithful a (g', w) := by
  refine h.does hg [.dhcp m] hout (fun e he => ?_) hconfig haddr
  rw [List.mem_singleton.mp he]
  refine ⟨hm.imp_right fun ⟨hheld, hci⟩ => ?_, fun _ => rfl⟩
  rw [hci, (h.addr hheld).1]
  exact h.config hg

end Faithful

section
variable (env : Env) (inp : Input)

/-- **No act claims an address that is not configured.** -/
theorem Act.faithful (a : UInt32) (c d : Stage × Client) (hact : Act env inp c d) (h : Faithful a c) :
    Faithful a d := by
  -- stages without an address owe nothing for it
  have hfree : ∀ {g g' : Stage} {v w : Client}, g'.holds = false →
      g'.holds = true → g.holds = true ∧ w.addr = v.addr ∧ w.deconfigured = v.deconfigured :=
    fun h0 h1 => absurd (h0.symm.trans h1) Bool.false_ne_true
  have hprobe : ∀ (b dip : UInt32), ∀ e ∈ [Effect.arp 0 dip, .arpCheck dip],
      e.Claims b ∧ ∀ b, e.configures b = b := by
    intro b dip e he
    rcases List.mem_pair.mp he with rfl | rfl
    · exact ⟨Or.inl rfl, fun _ => rfl⟩
    · exact ⟨trivial, fun _ => rfl⟩
  cases hact with
  | exit g v v' hout => exact h.stop [] (by rw [hout, List.append_nil]) trivial
  | transaction v x => exact h.silent (by decide) rfl rfl (hfree rfl)
  | discover v hdue => exact h.sends (by decide) v.discover (Or.inl rfl) rfl rfl (hfree rfl)
  | offer v sid hans => exact h.silent (by decide) rfl rfl (hfree rfl)
  | request g v hg hdue hfew =>
    obtain ⟨hlive, hnone⟩ := g.asking_free hg
    exact h.sends hlive v.request (Or.inl rfl) rfl rfl (hfree hnone)
  | giveUp g v hg hdue hmany => exact h.silent (g.asking_free hg).1 rfl rfl (hfree rfl)
  | ack v sid hans haddr =>
    obtain ⟨src, hsrc⟩ := v.heeds_eq sid inp.dhcpSrcaddr
    rw [hsrc]
    exact h.does (by decide) _ (List.append_assoc _ [_] [_]) (hprobe _ _) rfl (hfree rfl)
  | ackUntested v sid hans haddr =>
    obtain ⟨src, hsrc⟩ := v.heeds_eq sid inp.dhcpSrcaddr
    rw [hsrc]
    exact h.silent (by decide) rfl rfl (hfree rfl)
  | probe v hdue =>
    refine h.does (by decide) [_] rfl (fun e he => ?_) rfl (hfree rfl)
    rw [List.mem_singleton.mp he]
    exact ⟨Or.inl rfl, fun _ => rfl⟩
  | decline v hframe =>
    refine h.does (by decide) [_, _] (List.append_assoc _ [_] [_]) (fun e he => ?_) rfl (hfree rfl)
    rcases List.mem_pair.mp he with rfl | rfl
    · exact ⟨trivial, fun _ => rfl⟩
    · exact ⟨Or.inl rfl, fun _ => rfl⟩
  | undeclined v hframe =>
    refine h.does (by decide) [_] rfl (fun e he => ?_) rfl (hfree rfl)
    rw [List.mem_singleton.mp he]
    exact ⟨trivial, fun _ => rfl⟩
  | bind v hdue =>
    refine ⟨?_, fun _ => ?_, fun _ => ⟨rfl, rfl⟩⟩
    · show Honest a (v.out ++ [.bind v.pending.yiaddr])
      rw [honest_append]
      exact ⟨h.honest, trivial, trivial⟩
    · show v.pending.yiaddr = configured a (v.out ++ [.bind v.pending.yiaddr])
      rw [configured_append]
      rfl
  | unbound v v' hdue hout => exact h.stop [_] hout ⟨trivial, trivial⟩
  | arp v dip =>
    refine h.does (by decide) [_] rfl (fun e he => ?_) rfl fun _ => ⟨rfl, rfl, rfl⟩
    rw [List.mem_singleton.mp he]
    exact ⟨Or.inr ((h.addr rfl).1.trans (h.config nofun)), fun _ => rfl⟩
  | wait v hdue hnow => exact h.silent (by decide) rfl rfl fun _ => ⟨rfl, rfl, rfl⟩
  | renew v hdue hfrom hto =>
    exact h.sends (by decide) v.renewal (Or.inr ⟨rfl, rfl⟩) rfl rfl fun _ => ⟨rfl, rfl, rfl⟩
  | rebind v hdue hfrom hto =>
    exact h.sends (by decide) v.rebinding (Or.inr ⟨rfl, rfl⟩) rfl rfl fun _ => ⟨rfl, rfl, rfl⟩
  | forcedRenew v hsig =>
    exact h.sends (by decide) v.renewal (Or.inr ⟨rfl, rfl⟩) rfl rfl fun _ => ⟨rfl, rfl, rfl⟩
  | extend v hans hfrom haddr => exact h.silent (by decide) rfl rfl fun _ => ⟨rfl, rfl, rfl⟩
  | check v hans hfrom haddr =>
    exact h.does (by decide) _ (List.append_assoc _ [_] [_]) (hprobe _ _) rfl fun _ => ⟨rfl, rfl, rfl⟩
  | checkUntested v hans hfrom haddr => exact h.silent (by decide) rfl rfl (hfree rfl)
  | nak v hans hfrom => exact h.silent (by decide) rfl rfl (hfree rfl)
  | expire v hdue hrebind hend => exact h.silent (by decide) rfl rfl (hfree rfl)
  | surrender v x hframe => exact h.sends (by decide) (v.release x) (Or.inr ⟨rfl, rfl⟩) rfl rfl (hfree rfl)
  | lose v harp => exact h.silent (by decide) rfl rfl (hfree rfl)
  | remove v hforce hpeer =>
    have hdec : v.deconfigured = false := (h.addr rfl).2
    have hw : v.deconfigures = { v.does .deconfig with config := .zero, deconfigured := true } := by
      unfold Client.deconfigures
      rw [hdec]
      rfl
    rw [hw]
    refine ⟨?_, fun _ => ?_, nofun⟩
    · show Honest a (v.out ++ [.deconfig])
      rw [honest_append]
      exact ⟨h.honest, trivial, trivial⟩
    · show DhcpMsg.zero.yiaddr = configured a (v.out ++ [.deconfig])
      rw [configured_append]
      rfl
  | stall v hforce hpeer => exact h.silent (by decide) rfl rfl fun _ => ⟨rfl, rfl, rfl⟩
  | recover v => exact h.silent (by decide) rfl rfl (hfree rfl)
  | cancel g v hg hsig => exact h.silent (g.leaseless_live hg) rfl rfl (hfree rfl)
  | release v x hsig => exact h.sends (by decide) (v.release x) (Or.inr ⟨rfl, rfl⟩) rfl rfl (hfree rfl)
  | resume v hsig => exact h.silent (by decide) rfl rfl (hfree rfl)

end

/-! ## Runs -/

section
variable (cfg : ClientConfig)

/-- Between two steps, with nothing done yet by the next. -/
def Grounded (a : UInt32) (s : Sys) : Prop := Faithful a (s.pc.stage, (view s).fresh)

theorem Step.faithful (st : Step) (a : UInt32) (s : Sys) (h : Grounded a s) :
    Faithful a (protocol (st.next cfg s)) := by
  apply st.keeps cfg (Faithful a) s h
  · intro v hv
    exact h.stop [] hv trivial
  · intro env inp _
    exact Act.faithful env inp a

theorem Faithful.grounded (a : UInt32) (s : Sys) (h : Faithful a (protocol s)) : Grounded (configured a s.out) s :=
  ⟨trivial, h.config, h.addr⟩

theorem run_faithful (steps : List Step) (a : UInt32) (s : Sys) (h : Grounded a s) :
    Honest a (effects cfg steps s) ∧ Grounded (configured a (effects cfg steps s)) (run cfg steps s) := by
  induction steps generalizing a s with
  | nil => exact ⟨trivial, h⟩
  | cons st steps ih =>
    have hstep := st.faithful cfg a s h
    obtain ⟨hhonest, hend⟩ := ih _ _ hstep.grounded
    show Honest a ((st.next cfg s).out ++ _) ∧ Grounded (configured a ((st.next cfg s).out ++ _)) _
    rw [honest_append, configured_append]
    exact ⟨⟨hstep.honest, hhonest⟩, hend⟩

/-- **The client speaks from the address it configured.**  In every run from the start of the
program, each DHCP message with a `ciaddr` and each ARP frame with a sender address carries the
address that the interface was last configured with; a client that holds a lease holds that
address. -/
theorem speaks_as_configured (b : Startup) (steps : List Step) :
    Honest 0 (effects cfg steps (.start b)) ∧
      ((run cfg steps (.start b)).pc = .bound ∨ (run cfg steps (.start b)).pc = .newlease →
        (run cfg steps (.start b)).cs.clientAddr = configured 0 (effects cfg steps (.start b)) ∧
          (run cfg steps (.start b)).cfgPacket.yiaddr = (run cfg steps (.start b)).cs.clientAddr ∧
          (run cfg steps (.start b)).cs.ifDeconfig = false) := by
  have hstart : Grounded 0 (.start b) := ⟨trivial, fun _ => rfl, nofun⟩
  obtain ⟨hhonest, hend⟩ := run_faithful cfg steps 0 _ hstart
  refine ⟨hhonest, fun hpc => ?_⟩
  have hholds : (run cfg steps (.start b)).pc.stage.holds = true ∧ (run cfg steps (.start b)).pc.stage ≠ .stopped := by
    rcases hpc with hpc | hpc
    · rw [hpc]
      decide
    · rw [hpc]
      decide
  obtain ⟨haddr, hdec⟩ := hend.addr hholds.1
  exact ⟨haddr.trans (hend.config hholds.2), haddr.symm, hdec⟩

/-! ## Requests -/

/-- An offer or an acknowledgement of `a` by the server `sid` was handed to the client. -/
def Offered (steps : List Step) (a sid : UInt32) : Prop :=
  ∃ env inp, Step.handle env inp ∈ steps ∧ (Reply inp DHCPOFFER sid ∨ Reply inp DHCPACK sid) ∧
    inp.dhcpPacket.yiaddr = a

/-- A request that names a server repeats what is in `H`. -/
def Sent.Answers (H : UInt32 → UInt32 → Prop) (m : Sent) : Prop :=
  m.msgtype = DHCPREQUEST → ∀ sid, m.serverid = some sid → m.ciaddr = 0 ∧ ∃ a, m.reqip = some a ∧ H a sid

/-- All requests of a call do, and so will those for the offer at hand. -/
structure Answers (H : UInt32 → UInt32 → Prop) (c : Stage × Client) : Prop where
  asking : c.1.asking = true → H c.2.addr c.2.server
  sent : ∀ m, .dhcp m ∈ c.2.out → m.Answers H

namespace Answers

variable {H : UInt32 → UInt32 → Prop} {g g' : Stage} {v w : Client}

theorem does (h : Answers H (g, v)) (es : List Effect) (hout : w.out = v.out ++ es)
    (hes : ∀ m, .dhcp m ∈ es → m.Answers H) (hask : g'.asking = true → H w.addr w.server) :
    Answers H (g', w) := by
  refine ⟨hask, fun m hm => ?_⟩
  rw [show (g', w).2.out = v.out ++ es from hout] at hm
  rcases List.mem_append.mp hm with hm | hm
  · exact h.sent m hm
  · exact hes m hm

theorem silent (h : Answers H (g, v)) (hout : w.out = v.out) (hask : g'.asking = true → H w.addr w.server) :
    Answers H (g', w) :=
  h.does [] (by rw [hout, List.append_nil]) (fun _ hm => absurd hm List.not_mem_nil) hask

/-- Frames and marks. -/
theorem marks (h : Answers H (g, v)) (es : List Effect) (hout : w.out = v.out ++ es)
    (hes : ∀ m, Effect.dhcp m ∉ es) (hask : g'.asking = true → H w.addr w.server) : Answers H (g', w) :=
  h.does es hout (fun m hm => absurd hm (hes m)) hask

theorem sends (h : Answers H (g, v)) (m : Sent) (hout : w.out = v.out ++ [.dhcp m]) (hm : m.Answers H)
    (hask : g'.asking = true → H w.addr w.server) : Answers H (g', w) := by
  refine h.does [.dhcp m] hout (fun m' hm' => ?_) hask
  cases List.mem_singleton.mp hm'
  exact hm

end Answers

theorem answers_of_type (H : UInt32 → UInt32 → Prop) (m : Sent) (t : UInt8) (hm : m.msgtype = t)
    (h : t ≠ DHCPREQUEST) : m.Answers H := fun hreq => absurd (hm.symm.trans hreq) h

theorem answers_of_serverless (H : UInt32 → UInt32 → Prop) (m : Sent) (h : m.serverid = none) : m.Answers H := by
  intro _ sid hsid
  rw [h] at hsid
  cases hsid

/-- **Each act answers what was heard.** -/
theorem Act.answers (env : Env) (inp : Input) (H : UInt32 → UInt32 → Prop)
    (hheard : ∀ sid, Reply inp DHCPOFFER sid ∨ Reply inp DHCPACK sid → H inp.dhcpPacket.yiaddr sid)
    (c d : Stage × Client) (hact : Act env inp c d) (h : Answers H c) : Answers H d := by
  have hrest : ∀ {g : Stage} {v : Client}, g.asking = false → g.asking = true → H v.addr v.server :=
    fun h0 h1 => absurd (h0.symm.trans h1) Bool.false_ne_true
  have hrelease : ∀ (v : Client) (x : UInt32), (v.release x).Answers H :=
    fun v x => answers_of_type H _ DHCPRELEASE rfl (by decide)
  have hprobe : ∀ dip m, Effect.dhcp m ∉ [Effect.arp 0 dip, .arpCheck dip] := by simp
  have hone : ∀ e : Effect, (∀ m, e ≠ .dhcp m) → ∀ m, Effect.dhcp m ∉ [e] :=
    fun e he m hm => he m (List.mem_singleton.mp hm).symm
  cases hact with
  | exit g v v' hout => exact h.silent hout (hrest rfl)
  | transaction v x => exact h.silent rfl (hrest rfl)
  | discover v hdue => exact h.sends v.discover rfl (answers_of_type H _ DHCPDISCOVER rfl (by decide)) (hrest rfl)
  | offer v sid hans => exact h.silent rfl fun _ => hheard sid (Or.inl hans)
  | request g v hg hdue hfew =>
    have hoffer := h.asking hg
    exact h.sends v.request rfl (fun _ sid hsid => ⟨rfl, v.addr, rfl, Option.some.inj hsid ▸ hoffer⟩)
      fun _ => hoffer
  | giveUp g v hg hdue hmany => exact h.silent rfl (hrest rfl)
  | ack v sid hans haddr =>
    have hoffer : H v.addr sid := haddr ▸ hheard sid (Or.inr hans)
    obtain ⟨src, hsrc⟩ := v.heeds_eq sid inp.dhcpSrcaddr
    rw [hsrc]
    exact h.marks _ (List.append_assoc _ [_] [_]) (hprobe _) fun _ => hoffer
  | ackUntested v sid hans haddr =>
    obtain ⟨src, hsrc⟩ := v.heeds_eq sid inp.dhcpSrcaddr
    rw [hsrc]
    exact h.silent rfl (hrest rfl)
  | probe v hdue => exact h.marks [_] rfl (hone _ (by simp)) fun _ => h.asking rfl
  | decline v hframe =>
    have hmark : Answers H (.probing, v.does (.conflict v.pending.yiaddr)) :=
      h.marks [_] rfl (hone _ (by simp)) fun _ => h.asking rfl
    exact hmark.sends v.decline rfl (answers_of_type H _ DHCPDECLINE rfl (by decide)) (hrest rfl)
  | undeclined v hframe => exact h.marks [_] rfl (hone _ (by simp)) fun _ => h.asking rfl
  | bind v hdue => exact h.marks [_] rfl (hone _ (by simp)) (hrest rfl)
  | unbound v v' hdue hout => exact h.marks [_] hout (hone _ (by simp)) (hrest rfl)
  | arp v dip => exact h.marks [_] rfl (hone _ (by simp)) (hrest rfl)
  | wait v hdue hnow => exact h.silent rfl (hrest rfl)
  | renew v hdue hfrom hto => exact h.sends v.renewal rfl (answers_of_serverless H _ rfl) (hrest rfl)
  | rebind v hdue hfrom hto => exact h.sends v.rebinding rfl (answers_of_serverless H _ rfl) (hrest rfl)
  | forcedRenew v hsig => exact h.sends v.renewal rfl (answers_of_serverless H _ rfl) (hrest rfl)
  | extend v hans hfrom haddr => exact h.silent rfl (hrest rfl)
  | check v hans hfrom haddr => exact h.marks _ (List.append_assoc _ [_] [_]) (hprobe _) (hrest rfl)
  | checkUntested v hans hfrom haddr => exact h.silent rfl (hrest rfl)
  | nak v hans hfrom => exact h.silent rfl (hrest rfl)
  | expire v hdue hrebind hend => exact h.silent rfl (hrest rfl)
  | surrender v x hframe => exact h.sends (v.release x) rfl (hrelease v x) (hrest rfl)
  | lose v harp => exact h.silent rfl (hrest rfl)
  | remove v hforce hpeer =>
    unfold Client.deconfigures
    split
    · exact h.silent rfl (hrest rfl)
    · exact h.marks [_] rfl (hone _ (by simp)) (hrest rfl)
  | stall v hforce hpeer => exact h.silent rfl (hrest rfl)
  | recover v => exact h.silent rfl (hrest rfl)
  | cancel g v hg hsig => exact h.silent rfl (hrest rfl)
  | release v x hsig => exact h.sends (v.release x) rfl (hrelease v x) (hrest rfl)
  | resume v hsig => exact h.silent rfl (hrest rfl)

theorem Step.answers (st : Step) (H : UInt32 → UInt32 → Prop) (s : Sys)
    (hheard : ∀ a sid, Offered [st] a sid → H a sid)
    (h : s.pc.stage.asking = true → H s.cs.clientAddr s.cs.serverAddr) :
    Answers H (protocol (st.next cfg s)) := by
  have hnone : ∀ v : Client, v.out = [] → ∀ m, .dhcp m ∈ v.out → m.Answers H := by
    intro v hv m hm
    rw [hv] at hm
    exact absurd hm List.not_mem_nil
  apply st.keeps cfg (Answers H) s ⟨h, hnone _ rfl⟩
  · intro v hv
    exact ⟨nofun, hnone v hv⟩
  · intro env inp hst
    apply Act.answers env inp H
    intro sid hreply
    exact hheard _ _ ⟨env, inp, List.mem_singleton.mpr hst.symm, hreply, rfl⟩

theorem Offered.mono (as bs : List Step) (h : as ⊆ bs) (a sid : UInt32) (ho : Offered as a sid) :
    Offered bs a sid := by
  obtain ⟨env, inp, hmem, hreply⟩ := ho
  exact ⟨env, inp, h hmem, hreply⟩

/-- What is asked for was offered or acknowledged by the server asked. -/
theorem asking_offered (b : Startup) (steps : List Step) :
    (run cfg steps (.start b)).pc.stage.asking = true →
      Offered steps (run cfg steps (.start b)).cs.clientAddr (run cfg steps (.start b)).cs.serverAddr := by
  induction steps using List.reverseRecOn with
  | nil => exact nofun
  | append_singleton pre st ih =>
    rw [run_append]
    have hstep := st.answers cfg (Offered (pre ++ [st])) (run cfg pre (.start b))
      (Offered.mono _ _ (List.subset_append_right pre [st]))
      fun hask => Offered.mono _ _ (List.subset_append_left pre [st]) _ _ (ih hask)
    exact hstep.asking

/-- **Requests answer offers.**  In every run from the start of the program, a request that names a
server leaves `ciaddr` zero and asks for an address which that server offered or acknowledged, in a
packet handed to the client before or in the same step. -/
theorem requests_answer_offers (b : Startup) (pre : List Step) (st : Step) (m : Sent) (sid : UInt32)
    (hsent : .dhcp m ∈ (st.next cfg (run cfg pre (.start b))).out) (htype : m.msgtype = DHCPREQUEST)
    (hsid : m.serverid = some sid) :
    m.ciaddr = 0 ∧ ∃ a, m.reqip = some a ∧ Offered (pre ++ [st]) a sid := by
  have hstep := st.answers cfg (Offered (pre ++ [st])) (run cfg pre (.start b))
    (Offered.mono _ _ (List.subset_append_right pre [st]))
    fun hask => Offered.mono _ _ (List.subset_append_left pre [st]) _ _ (asking_offered cfg b pre hask)
  exact hstep.sent m hsent htype sid hsid

end

/-- The request of an exchange with the server 192.168.1.1. -/
theorem requests_answer_offers_asked :
    Effect.dhcp ⟨DHCPREQUEST, 0, 0, some 0xc0a8010a, some 0xc0a80101⟩ ∈
        ((Step.handle calmEnv { quietInput 0 with dhcpTimeout := true }).next exampleConfig
          (run exampleConfig (probingRun.take 2) exampleStart)).out ∧
      ∃ a, some (0xc0a8010a : UInt32) = some a ∧
        Offered (probingRun.take 2 ++ [.handle calmEnv { quietInput 0 with dhcpTimeout := true }]) a
          0xc0a80101 := by
  have hsent : Effect.dhcp ⟨DHCPREQUEST, 0, 0, some 0xc0a8010a, some 0xc0a80101⟩ ∈
      ((Step.handle calmEnv { quietInput 0 with dhcpTimeout := true }).next exampleConfig
        (run exampleConfig (probingRun.take 2) exampleStart)).out := by
    decide +kernel
  exact ⟨hsent, (requests_answer_offers exampleConfig _ _ _ _ 0xc0a80101 hsent rfl rfl).2⟩

end Ndhc
