import Ndhc.Client.Rebind

/-!
# What taking a lease leaves behind

Once `arp_collision_timeout` has bound the address it notes the gateway of the packet for the
fingerprint and writes the address to the lease file.

The gateway is read by `get_option_router`, which wants an option of exactly four bytes, while the
command that configures it is made by `ifcmd_ip`, which takes the first four bytes of any longer
one: `gateway_agrees_iff`.  The lease file is rewritten only if the line with its newline is
shorter than the buffer for the address alone, so an address of fifteen characters is never
written: `leasefile_holds_iff`.
-/

namespace Ndhc

open Prog Bytes

/-! ## The lease file -/

/-- An open file: its bytes and the offset of the next write. -/
structure OpenFile where
  content : List UInt8
  pos : Nat
  deriving DecidableEq

namespace OpenFile

def ftruncate (f : OpenFile) (len : Nat) : OpenFile :=
  { f with content := f.content.take len ++ List.replicate (len - f.content.length) 0 }

/-- `lseek(fd, off, SEEK_SET)` -/
def lseek (f : OpenFile) (off : Nat) : OpenFile := { f with pos := off }

/-- A write of all of `bs`; a gap before it reads as zeros. -/
def write (f : OpenFile) (bs : List UInt8) : OpenFile where
  content := f.content.take f.pos ++ List.replicate (f.pos - f.content.length) 0 ++ bs ++
    f.content.drop (f.pos + bs.length)
  pos := f.pos + bs.length

end OpenFile

/-- The dotted quad of an address and a newline. -/
def addressLine (addr : UInt32) : List UInt8 := inetNtop (htonl addr) ++ [10]

/-- `write_leasefile` on an open file, its calls succeeding.  The length that is tested is that of
`out`, the size it is tested against that of `ip`. -/
def writeLeasefile (ipnum : UInt32) (f : OpenFile) : OpenFile :=
  let out := addressLine ipnum
  if INET_ADDRSTRLEN ≤ out.length then f else ((f.ftruncate 0).lseek 0).write out

/-- The client and its lease file. -/
structure Host where
  sys : Sys
  leasefile : OpenFile

abbrev HostM := EStateM Stop Host

/-- A program that does not touch the lease file. -/
def onSys {α : Type} (m : M α) : HostM α := fun h =>
  match m h.sys with
  | .ok a t => .ok a { h with sys := t }
  | .error e t => .error e { h with sys := t }

namespace Host

section
variable (env : Env) (cfg : ClientConfig)

/-- `arp_collision_timeout` once the wait is over, with the lease file. -/
def arpLeaseObtained : HostM Arpr := do
  let s ← onSys get
  onSys (modify fun s => { s with
    cs.clientAddr := s.garp.dhcpPacket.yiaddr
    cs.programInit := false
    garp.lastConflictTs := 0
    garp.wakeTs.collisionCheck := -1 })
  let r ← onSys (ifchangeBind env s.garp.dhcpPacket)
  if r < 0 then onSys suicide
  else do
    onSys (modify fun s => { s with cs.routerAddr := getOptionRouter s.garp.dhcpPacket })
    onSys stopDhcpListen
    modify fun h => { h with leasefile := writeLeasefile s.garp.dhcpPacket.yiaddr h.leasefile }
    if cfg.quitAfterLease then onSys suicide else pure .free

def arpCollisionTimeout (nowts : Int) : HostM Arpr := do
  let s ← onSys get
  if arpWaitOver cfg nowts s then arpLeaseObtained env cfg
  else onSys (Ndhc.arpCollisionTimeout env cfg nowts)

end

end Host

/-! ## Lemmas -/

@[simp] theorem wp_onSys {α : Type} (m : M α) (Q : α → Host → Prop) (E : Stop → Host → Prop) (h : Host) :
    wp (onSys m) Q E h ↔ wp m (fun a t => Q a { h with sys := t }) (fun e t => E e { h with sys := t }) h.sys := by
  unfold wp onSys
  cases m h.sys <;> rfl

section
variable (env : Env) (cfg : ClientConfig) (nowts : Int)

/-- But for the file the client does what `arpCollisionTimeout` has it do. -/
theorem Host.arpCollisionTimeout_sys (Q : Arpr → Sys → Prop) (E : Stop → Sys → Prop) (h : Host) :
    wp (Host.arpCollisionTimeout env cfg nowts) (fun r h' => Q r h'.sys) (fun e h' => E e h'.sys) h ↔
      wp (Ndhc.arpCollisionTimeout env cfg nowts) Q E h.sys := by
  unfold Host.arpCollisionTimeout
  simp only [wp_bind, wp_onSys, wp_get, wp_ite]
  split
  · next hover =>
    unfold Host.arpLeaseObtained Ndhc.arpCollisionTimeout Ndhc.arpLeaseObtained
    simp only [wp_bind, wp_onSys, wp_get, wp_ite, wp_modify, wp_pure, if_pos hover]
  · rfl

theorem ifchangeBind_addr (p : DhcpMsg) (s : Sys) :
    wp (ifchangeBind env p) (fun _ t => t.cs.clientAddr = s.cs.clientAddr ∧ t.garp = s.garp)
      (fun _ _ => True) s := by
  unfold ifchangeBind emit
  simp only [wp_bind, wp_modify, wp_get, wp_ite]
  split
  · exact ⟨rfl, rfl⟩
  · cases env.ifch .bind with
    | none => trivial
    | some ret =>
      simp only [ask, wp_pure]
      split
      · exact ⟨trivial, trivial⟩
      · exact ⟨trivial, trivial⟩

/-- Before the wait is over nothing is free. -/
theorem arpCollisionTimeout_waits (s : Sys) (hwait : ¬ arpWaitOver cfg nowts s) :
    wp (Ndhc.arpCollisionTimeout env cfg nowts) (fun r _ => r ≠ .free) (fun _ _ => True) s := by
  unfold Ndhc.arpCollisionTimeout
  simp only [wp_bind, wp_get, wp_ite, if_neg hwait]
  split
  · simp
  · refine wp_all _ _ _ _ (fun r t => ?_) fun _ _ => trivial
    split
    · simp
    · simp

/-- Past the wait the bound address is the client's, its gateway is noted and the file is written. -/
theorem Host.arpCollisionTimeout_free (h : Host) :
    wp (Host.arpCollisionTimeout env cfg nowts)
      (fun r h' => r = .free → h'.sys.cs.clientAddr = h.sys.garp.dhcpPacket.yiaddr ∧
        h'.sys.cs.routerAddr = getOptionRouter h.sys.garp.dhcpPacket ∧
        h'.leasefile = writeLeasefile h.sys.garp.dhcpPacket.yiaddr h.leasefile)
      (fun _ _ => True) h := by
  unfold Host.arpCollisionTimeout
  simp only [wp_bind, wp_onSys, wp_get, wp_ite]
  split
  · unfold Host.arpLeaseObtained
    simp only [wp_bind, wp_onSys, wp_get, wp_modify, wp_ite]
    apply wp_mono _ _ _ _ _ _ (ifchangeBind_addr env _ _) _ fun _ _ h => h
    rintro r t ⟨haddr, hgarp⟩
    split
    · trivial
    · unfold stopDhcpListen
      rw [wp_modify]
      split
      · trivial
      · rw [wp_pure]
        intro _
        refine ⟨haddr, ?_, rfl⟩
        show getOptionRouter t.garp.dhcpPacket = _
        rw [hgarp]
  · next hwait =>
    exact wp_mono _ _ _ _ _ _ (arpCollisionTimeout_waits env cfg nowts h.sys hwait)
      (fun _ _ hr hfree => absurd hfree hr) fun _ _ h => h

theorem Host.obtained (h t : Host) (hfree : Host.arpCollisionTimeout env cfg nowts h = .ok .free t) :
    t.sys.cs.clientAddr = h.sys.garp.dhcpPacket.yiaddr ∧
      t.sys.cs.routerAddr = getOptionRouter h.sys.garp.dhcpPacket ∧
      t.leasefile = writeLeasefile h.sys.garp.dhcpPacket.yiaddr h.leasefile :=
  (wp_ok_iff _ _ _ _ _ _ hfree).mp (Host.arpCollisionTimeout_free env cfg nowts h) rfl

/-- The file aside, whatever the client takes is taken with a file beside it. -/
theorem Host.free_of_sys (h : Host) (t : Sys)
    (hfree : Ndhc.arpCollisionTimeout env cfg nowts h.sys = .ok .free t) :
    ∃ f, Host.arpCollisionTimeout env cfg nowts h = .ok .free ⟨t, f⟩ := by
  have hwp := (Host.arpCollisionTimeout_sys env cfg nowts (fun r u => r = .free ∧ u = t) (fun _ _ => False) h).mpr
    ((wp_ok_iff _ _ _ _ _ _ hfree).mpr ⟨rfl, rfl⟩)
  obtain ⟨_, ⟨_, f⟩, hrun, rfl, rfl⟩ := exists_of_wp _ _ _ hwp
  exact ⟨f, hrun⟩

end

/-! ## The gateway -/

/-- The command that makes `addr` the gateway; none for no gateway. -/
def routrText (addr : UInt32) : List UInt8 :=
  if addr = 0 then [] else ascii "routr:" ++ inetNtop (htonl addr) ++ [59]

/-- `send_cmd` for the gateway of a packet, nothing being configured. -/
theorem sendCmd_router (p : DhcpMsg) :
    sendCmd .zero p bindBufSize DCODE_ROUTER =
      if (option p DCODE_ROUTER).length < 4 then []
      else ascii "routr:" ++ inetNtop ((option p DCODE_ROUTER).take 4) ++ [59] := by
  have hcode : DCODE_ROUTER ∈ bindCodes := by decide
  by_cases hnil : option p DCODE_ROUTER = []
  · rw [show sendCmd .zero p bindBufSize DCODE_ROUTER = cmdText .zero p DCODE_ROUTER from rfl,
      cmdText_eq_nil _ _ _ fun h => h.1 hnil, hnil]
    rfl
  · have hsent : sent .zero p DCODE_ROUTER := ⟨hnil, by rw [option_zero]; exact Ne.symm hnil⟩
    have hz := zero_not_mem_inetNtop ((option p DCODE_ROUTER).take 4)
    rw [show sendCmd .zero p bindBufSize DCODE_ROUTER = cmdText .zero p DCODE_ROUTER from rfl,
      cmdText_eq _ _ _ hcode hsent]
    simp only [optEncoding, if_true, cstr_eq_self _ hz]
    rfl

/-- `get_option_router` and `send_cmd` agree on the options of exactly one address, not zero, and
on those too short for one. -/
theorem sendCmd_router_iff (p : DhcpMsg) :
    sendCmd .zero p bindBufSize DCODE_ROUTER = routrText (getOptionRouter p) ↔
      (option p DCODE_ROUTER).length < 4 ∨
        (option p DCODE_ROUTER).length = 4 ∧ option p DCODE_ROUTER ≠ [0, 0, 0, 0] := by
  have hget : getOptionRouter p =
      if (option p DCODE_ROUTER).length = 4 then word32 (option p DCODE_ROUTER) else 0 := by
    unfold getOptionRouter getOption32 option
    simp only
    split <;> rfl
  rw [sendCmd_router, hget]
  rcases Nat.lt_trichotomy (option p DCODE_ROUTER).length 4 with hlt | heq | hgt
  · simp [hlt, Nat.ne_of_lt hlt, routrText]
  · have hzero : word32 (option p DCODE_ROUTER) = 0 ↔ option p DCODE_ROUTER = [0, 0, 0, 0] := by
      constructor
      · intro h
        rw [← htonl_word32 _ heq, h]
        rfl
      · intro h
        rw [h]
        rfl
    rw [if_neg (by omega), if_pos heq, routrText, htonl_word32 _ heq, List.take_of_length_le (by omega)]
    by_cases h0 : option p DCODE_ROUTER = [0, 0, 0, 0]
    · rw [if_pos (hzero.mpr h0)]
      simp [h0]
    · rw [if_neg (mt hzero.mp h0)]
      simp [heq, h0]
  · simp [Nat.not_lt.mpr (Nat.le_of_lt hgt), Nat.ne_of_gt hgt, routrText]

/-- **The fingerprinted gateway is the configured one**, exactly for packets whose ROUTER option
holds one address that is not zero, or is too short for any.  With two routers listed the first is
configured and none fingerprinted. -/
theorem gateway_agrees_iff (env : Env) (cfg : ClientConfig) (nowts : Int) (s t : Sys)
    (h : arpCollisionTimeout env cfg nowts s = .ok .free t) :
    sendCmd .zero s.garp.dhcpPacket bindBufSize DCODE_ROUTER = routrText t.cs.routerAddr ↔
      (option s.garp.dhcpPacket DCODE_ROUTER).length < 4 ∨
        (option s.garp.dhcpPacket DCODE_ROUTER).length = 4 ∧
          option s.garp.dhcpPacket DCODE_ROUTER ≠ [0, 0, 0, 0] := by
  obtain ⟨f, hfree⟩ := Host.free_of_sys env cfg nowts ⟨s, ⟨[], 0⟩⟩ t h
  obtain ⟨-, hrouter, -⟩ := Host.obtained env cfg nowts _ _ hfree
  rw [hrouter]
  exact sendCmd_router_iff s.garp.dhcpPacket

/-- The address of `exampleAck` with two gateways, 192.168.1.1 and 192.168.1.2. -/
def twoRouters : DhcpMsg :=
  reply [192, 168, 1, 10] [53, 1, 5, 54, 4, 192, 168, 1, 1, 3, 8, 192, 168, 1, 1, 192, 168, 1, 2, 255]
    (by decide +kernel)

/-- A state in which the wait for conflicts on the address of `p` ends at 2000 ms. -/
def waitingFor (p : DhcpMsg) : Sys := { exampleStart with garp.dhcpPacket := p }

/-- The lease of a packet that brings something new is taken, with any lease file. -/
theorem waitingFor_free (p : DhcpMsg) (hp : Changes .zero p) :
    ∃ t, arpCollisionTimeout calmEnv exampleConfig 2000 (waitingFor p) = .ok .free t ∧
      t.cs.routerAddr = getOptionRouter p := by
  have hover : arpWaitOver exampleConfig 2000 (waitingFor p) := Or.inl (Int.le_refl 2000)
  have hne := (bindBuffer_ne_nil_iff .zero p).mpr hp
  have hfree := arpLeaseObtained_ends calmEnv exampleConfig (waitingFor p)
  have hreturns := arpLeaseObtained_returns calmEnv 0 rfl (Int.le_refl 0) exampleConfig rfl (waitingFor p) hne
  have hwp : wp (arpCollisionTimeout calmEnv exampleConfig 2000) (fun r _ => r = .free) (fun _ _ => False)
      (waitingFor p) := by
    unfold arpCollisionTimeout
    rw [wp_bind, wp_get, wp_ite, if_pos hover]
    exact wp_mono _ _ _ _ _ _ (wp_and _ _ _ _ _ _ hfree hreturns) (fun _ _ h => h.1.1) fun _ _ h => h.2
  obtain ⟨_, t, hrun, rfl⟩ := exists_of_wp _ _ _ hwp
  obtain ⟨f, hhost⟩ := Host.free_of_sys _ _ _ ⟨waitingFor p, ⟨[], 0⟩⟩ t hrun
  exact ⟨t, hrun, (Host.obtained _ _ _ _ _ hhost).2.1⟩

theorem one_router_agrees : ∃ t,
    arpCollisionTimeout calmEnv exampleConfig 2000 (waitingFor exampleAck) = .ok .free t ∧
      sendCmd .zero exampleAck bindBufSize DCODE_ROUTER = routrText t.cs.routerAddr := by
  obtain ⟨t, h, -⟩ := waitingFor_free exampleAck (by decide +kernel)
  exact ⟨t, h, (gateway_agrees_iff calmEnv exampleConfig 2000 _ t h).mpr (by decide +kernel)⟩

/-- With two gateways the first is configured; the fingerprint is taken of none. -/
theorem two_routers_differ : ∃ t,
    arpCollisionTimeout calmEnv exampleConfig 2000 (waitingFor twoRouters) = .ok .free t ∧
      t.cs.routerAddr = 0 ∧
      sendCmd .zero twoRouters bindBufSize DCODE_ROUTER = ascii "routr:192.168.1.1;" := by
  obtain ⟨t, h, hrouter⟩ := waitingFor_free twoRouters (by decide +kernel)
  refine ⟨t, h, ?_, by decide +kernel⟩
  rw [hrouter]
  decide +kernel

/-! ## The file -/

/-- A file that is written anew holds what was written. -/
theorem OpenFile.rewrite (f : OpenFile) (bs : List UInt8) : (((f.ftruncate 0).lseek 0).write bs).content = bs := by
  simp [OpenFile.ftruncate, OpenFile.lseek, OpenFile.write]

/-- Only four octets of three digits make a dotted quad of fifteen characters. -/
theorem length_addressLine (addr : UInt32) :
    (addressLine addr).length < INET_ADDRSTRLEN ↔ ∃ b ∈ htonl addr, b < 100 := by
  have hlen : ∀ b : UInt8, (decimal b.toNat).length ≤ 3 ∧ ((decimal b.toNat).length ≤ 2 ↔ b < 100) :=
    fun b => ⟨length_decimal_byte b, length_decimal_le_iff _ 2 (by decide)⟩
  have hsum : ∀ a b c d : UInt8, (inetNtop [a, b, c, d] ++ [10]).length < INET_ADDRSTRLEN ↔
      a < 100 ∨ b < 100 ∨ c < 100 ∨ d < 100 := by
    intro a b c d
    rw [← (hlen a).2, ← (hlen b).2, ← (hlen c).2, ← (hlen d).2]
    have ha := (hlen a).1
    have hb := (hlen b).1
    have hc := (hlen c).1
    have hd := (hlen d).1
    simp only [inetNtop, at0, List.getD_cons_zero, List.getD_cons_succ, List.length_append,
      List.length_cons, List.length_nil, INET_ADDRSTRLEN]
    omega
  unfold addressLine htonl
  rw [hsum]
  simp

/-- **The lease file holds the bound address**, exactly if some octet of it is below 100 or the
file held it already. -/
theorem leasefile_holds_iff (env : Env) (cfg : ClientConfig) (nowts : Int) (h t : Host)
    (hfree : Host.arpCollisionTimeout env cfg nowts h = .ok .free t) :
    t.leasefile.content = addressLine t.sys.cs.clientAddr ↔
      (∃ b ∈ htonl t.sys.cs.clientAddr, b < 100) ∨
        h.leasefile.content = addressLine t.sys.cs.clientAddr := by
  obtain ⟨haddr, -, hfile⟩ := Host.obtained env cfg nowts h t hfree
  rw [hfile, haddr, ← length_addressLine]
  unfold writeLeasefile
  simp only
  split
  · next hlong => simp [hlong]
  · next hshort => simp [OpenFile.rewrite, Nat.not_le.mp hshort]

/-- An empty lease file beside a client that waits for the address of `p`. -/
def hostFor (p : DhcpMsg) : Host := ⟨waitingFor p, ⟨[], 0⟩⟩

theorem hostFor_free (p : DhcpMsg) (hp : Changes .zero p) :
    ∃ t, Host.arpCollisionTimeout calmEnv exampleConfig 2000 (hostFor p) = .ok .free t ∧
      t.sys.cs.clientAddr = p.yiaddr ∧ t.leasefile = writeLeasefile p.yiaddr ⟨[], 0⟩ := by
  obtain ⟨t, hrun, -⟩ := waitingFor_free p hp
  obtain ⟨f, hhost⟩ := Host.free_of_sys _ _ _ (hostFor p) t hrun
  obtain ⟨haddr, -, hfile⟩ := Host.obtained _ _ _ _ _ hhost
  exact ⟨⟨t, f⟩, hhost, haddr, hfile⟩

theorem address_written : ∃ t,
    Host.arpCollisionTimeout calmEnv exampleConfig 2000 (hostFor exampleAck) = .ok .free t ∧
      t.leasefile.content = addressLine t.sys.cs.clientAddr := by
  obtain ⟨t, h, haddr, -⟩ := hostFor_free exampleAck (by decide +kernel)
  refine ⟨t, h, (leasefile_holds_iff calmEnv exampleConfig 2000 _ t h).mpr (.inl ⟨1, ?_⟩)⟩
  rw [haddr]
  decide +kernel

/-- The lease of 192.168.100.100. -/
def longAddress : DhcpMsg := reply [192, 168, 100, 100] [53, 1, 5, 54, 4, 192, 168, 1, 1, 255] (by decide +kernel)

/-- The line of an address of fifteen characters has sixteen, as many as the buffer of the address
takes, and is not written. -/
theorem long_address_not_written : ∃ t,
    Host.arpCollisionTimeout calmEnv exampleConfig 2000 (hostFor longAddress) = .ok .free t ∧
      addressLine t.sys.cs.clientAddr = ascii "192.168.100.100\n" ∧ t.leasefile.content = [] := by
  obtain ⟨t, h, haddr, hfile⟩ := hostFor_free longAddress (by decide +kernel)
  refine ⟨t, h, ?_, ?_⟩
  · rw [haddr]
    decide +kernel
  · rw [hfile]
    decide +kernel

end Ndhc
