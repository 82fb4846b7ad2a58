import Ndhc.Client.Frame

/-!
# The lease and its timers

`get_leasetime` and the three timeouts of state.c.  Renewal and rebinding instants are kept
in `long long`, but the expiry is computed as `cs->lease * 1000` in 32 bits, so for leases
over 4294967 seconds the product wraps and `rebinding_timeout` gives the lease up before its
end (`lease_kept_to_end_iff`).
-/

namespace Ndhc

open Prog

/-- `BTO_WAIT`, `BTO_EXPIRED`, `BTO_HARDFAIL` -/
inductive Bto where
  | wait
  | expired
  | hardfail
  deriving DecidableEq, Repr

/-! ## Back to SELECTING -/

def reinitSharedDeconfig : M Unit := do
  modify fun s => { s with
    cs.clientAddr := 0
    cs.numDhcpRequests := 0
    cs.gotRouterArp := false
    cs.gotServerArp := false
    cs.checkFingerprint := false
    cs.sentGwQuery := false
    cs.sentFirstAnnounce := false
    cs.sentSecondAnnounce := false
    cs.initFingerprintInprogress := false
    cs.routerArp := List.replicate 6 0
    cs.serverArp := List.replicate 6 0 }
  arpResetState

section
variable (env : Env)

def reinitSelecting (timeout : Int) : M Unit := do
  reinitSharedDeconfig
  modify fun s => { s with cs.dhcpWakeTs := env.curms .reinitSelecting + timeout }
  startDhcpListen env .reinitSelecting

/-! ## Timers -/

def isRenewing (cs : ClientState) (nowts : Int) : Prop :=
  cs.leaseStartTime + cs.renewTime * 1000 ≤ nowts

def isRebinding (cs : ClientState) (nowts : Int) : Prop :=
  cs.leaseStartTime + cs.rebindTime * 1000 ≤ nowts

instance (cs : ClientState) (nowts : Int) : Decidable (isRenewing cs nowts) :=
  inferInstanceAs (Decidable (_ ≤ _))

instance (cs : ClientState) (nowts : Int) : Decidable (isRebinding cs nowts) :=
  inferInstanceAs (Decidable (_ ≤ _))

/-- `elt` in `rebinding_timeout`: the product is one of `uint32_t`. -/
def leaseEnd (cs : ClientState) : Int := cs.leaseStartTime + (cs.lease * 1000).toNat

/-- `nowts + (50 + nk_random_u32() % 20) * 1000` -/
def retryTime (site : Site) (nowts : Int) : Int :=
  nowts + ((50 + env.random site % 20) * 1000).toNat

/-- The request of `renewing_timeout` and `rebinding_timeout`, to be repeated at `limit` at
the latest. -/
def requestExtension (site : Site) (send : M Int) (limit : ClientState → Int) (nowts : Int) :
    M Bto := do
  startDhcpListen env site
  let r ← send
  if r < 0 then pure .hardfail
  else do
    modify fun s => { s with cs.dhcpWakeTs := min (retryTime env site nowts) (limit s.cs) }
    pure .wait

def rebindingTimeout (nowts : Int) : M Bto := do
  let s ← get
  if leaseEnd s.cs ≤ nowts then do
    reinitSelecting env 0
    pure .expired
  else requestExtension env .rebindingTimeout (sendRebind env .rebindingTimeout) leaseEnd nowts

def renewingTimeout (nowts : Int) : M Bto := do
  let s ← get
  if isRebinding s.cs nowts then rebindingTimeout env nowts
  else
    requestExtension env .renewingTimeout (sendRenew env .renewingTimeout)
      (fun cs => cs.leaseStartTime + cs.rebindTime * 1000) nowts

def boundTimeout (nowts : Int) : M Bto := do
  let s ← get
  if nowts < s.cs.leaseStartTime + s.cs.renewTime * 1000 then do
    modify fun s => { s with cs.dhcpWakeTs := s.cs.leaseStartTime + s.cs.renewTime * 1000 }
    pure .wait
  else renewingTimeout env nowts

/-- The timeout the BOUND loop chooses. -/
def leaseTimeout (nowts : Int) : M Bto := do
  let s ← get
  if isRebinding s.cs nowts then rebindingTimeout env nowts
  else if isRenewing s.cs nowts then renewingTimeout env nowts
  else boundTimeout env nowts

/-- `cs->lease` as `get_leasetime` sets it from the option's value. -/
def leaseOf (v : UInt32) : UInt32 := if v = 0 then 60 * 60 else if v < 60 then 60 else v

/-- What `get_leasetime` makes of the state. -/
def withLease (packet : DhcpMsg) (s : Sys) : Sys :=
  let lease := leaseOf (getOptionLeasetime packet)
  let renewTime : Int := (lease >>> 1).toNat
  { s with
    cs.lease := lease
    cs.leaseStartTime := env.curms .getLeasetime
    cs.renewTime := renewTime
    cs.rebindTime := ((lease >>> 3) * 7).toNat
    cs.dhcpWakeTs := env.curms .getLeasetime + renewTime * 1000 }

def getLeasetime (packet : DhcpMsg) : M Unit := modify (withLease env packet)

end

/-! ## What they leave alone -/

section
variable (env : Env) (nowts : Int)

instance : Routine core Dies reinitSharedDeconfig := by
  unfold reinitSharedDeconfig
  infer_instance

instance (timeout : Int) : Routine core Dies (reinitSelecting env timeout) := by
  unfold reinitSelecting
  infer_instance

instance (site : Site) (send : M Int) (limit : ClientState → Int) [Routine core Dies send] :
    Routine core Dies (requestExtension env site send limit nowts) := by
  unfold requestExtension
  infer_instance

instance : Routine core Dies (rebindingTimeout env nowts) := by
  unfold rebindingTimeout
  infer_instance

instance : Routine core Dies (renewingTimeout env nowts) := by
  unfold renewingTimeout
  infer_instance

instance : Routine core Dies (boundTimeout env nowts) := by
  unfold boundTimeout
  infer_instance

instance : Routine core Dies (leaseTimeout env nowts) := by
  unfold leaseTimeout
  infer_instance

/-! ## When a lease is given up -/

/-- `P` holds where the call gives the lease up. -/
def OnExpiry (P : Prop) (r : Bto) (_ : Sys) : Prop := r = .expired → P

theorem requestExtension_not_expired (site : Site) (send : M Int) (limit : ClientState → Int)
    (P : Prop) (s : Sys) :
    wp (requestExtension env site send limit nowts) (OnExpiry P) (fun _ _ => True) s := by
  unfold requestExtension
  apply wp_bind_all _ _ s _ _ _ (fun _ _ => trivial)
  intro _ t
  apply wp_bind_all _ _ t _ _ _ (fun _ _ => trivial)
  intro r t
  rw [wp_ite]
  split
  · intro h
    cases h
  · intro h
    cases h

theorem rebindingTimeout_expired (s : Sys) :
    wp (rebindingTimeout env nowts) (OnExpiry (leaseEnd s.cs ≤ nowts)) (fun _ _ => True) s := by
  unfold rebindingTimeout
  rw [wp_bind, wp_get, wp_ite]
  split
  · next h => exact wp_all _ _ s _ (fun _ _ _ => h) (fun _ _ => trivial)
  · exact requestExtension_not_expired env nowts _ _ _ _ s

theorem renewingTimeout_expired (s : Sys) :
    wp (renewingTimeout env nowts) (OnExpiry (leaseEnd s.cs ≤ nowts)) (fun _ _ => True) s := by
  unfold renewingTimeout
  rw [wp_bind, wp_get, wp_ite]
  split
  · exact rebindingTimeout_expired env nowts s
  · exact requestExtension_not_expired env nowts _ _ _ _ s

theorem boundTimeout_expired (s : Sys) :
    wp (boundTimeout env nowts) (OnExpiry (leaseEnd s.cs ≤ nowts)) (fun _ _ => True) s := by
  unfold boundTimeout
  rw [wp_bind, wp_get, wp_ite]
  split
  · intro h
    cases h
  · exact renewingTimeout_expired env nowts s

/-- Back in SELECTING, if the listening socket can be had. -/
theorem reinitSelecting_returns (timeout fd : Int) (bpf : Bool) (s : Sys)
    (hsock : env.sockd .reinitSelecting = some (fd, bpf)) (hfd : 0 ≤ fd) :
    wp (reinitSelecting env timeout) (fun _ _ => True) (fun _ _ => False) s := by
  unfold reinitSelecting startDhcpListen reinitSharedDeconfig arpResetState arpCloseFd
    arpMinCloseFd
  simp only [wp_bind, wp_modify, wp_get, wp_ite, wp_pure, hsock, ask]
  have : ¬ fd < 0 := by omega
  simp [this]

/-- Past rebinding time and past `elt`, the timer of the BOUND state gives the lease up. -/
theorem boundTimeout_gives_up (fd : Int) (bpf : Bool) (s : Sys)
    (hsock : env.sockd .reinitSelecting = some (fd, bpf)) (hfd : 0 ≤ fd)
    (hrenew : isRenewing s.cs nowts) (hrebind : isRebinding s.cs nowts)
    (hend : leaseEnd s.cs ≤ nowts) :
    wp (boundTimeout env nowts) (fun r _ => r = .expired) (fun _ _ => False) s := by
  have hnr : ¬ nowts < s.cs.leaseStartTime + s.cs.renewTime * 1000 := by
    unfold isRenewing at hrenew
    omega
  unfold boundTimeout renewingTimeout rebindingTimeout
  simp only [wp_bind, wp_get, wp_ite, if_neg hnr, if_pos hrebind, if_pos hend, wp_pure]
  exact reinitSelecting_returns env 0 fd bpf s hsock hfd

end

/-! ## A lease is kept to its end -/

/-- The end of the lease, the product taken over the integers. -/
def exactEnd (cs : ClientState) : Int := cs.leaseStartTime + 1000 * cs.lease.toNat

inductive Timer where
  | bound
  | renewing
  | rebinding

def Timer.timeout (env : Env) (nowts : Int) : Timer → M Bto
  | .bound => boundTimeout env nowts
  | .renewing => renewingTimeout env nowts
  | .rebinding => rebindingTimeout env nowts

structure TimerCall where
  env : Env
  timer : Timer
  nowts : Int

/-- In a sequence of timeouts, none gives the lease up before its end. -/
def KeptToEnd : List TimerCall → Sys → Prop
  | [], _ => True
  | c :: calls, s =>
    wp (c.timer.timeout c.env c.nowts)
      (fun r t => (r = .expired → exactEnd s.cs ≤ c.nowts) ∧ KeptToEnd calls t) (fun _ _ => True) s

/-- Whatever is called after a lease was taken from the packet, it is kept to its end. -/
def LeaseKept (packet : DhcpMsg) : Prop :=
  ∀ (env : Env) (calls : List TimerCall) (s : Sys),
    wp (getLeasetime env packet) (fun _ t => KeptToEnd calls t) (fun _ _ => False) s

theorem LeaseKept.of_expired (packet : DhcpMsg) (h : LeaseKept packet) (c : TimerCall) (env : Env)
    (s t : Sys) (hrun : c.timer.timeout c.env c.nowts (withLease env packet s) = .ok .expired t) :
    exactEnd (withLease env packet s).cs ≤ c.nowts := by
  have hcall : KeptToEnd [c] (withLease env packet s) := h env [c] s
  exact ((wp_ok_iff _ _ _ _ _ t hrun).mp hcall).1 rfl

theorem Timer.timeout_expired (env : Env) (nowts : Int) (tm : Timer) (s : Sys) :
    wp (tm.timeout env nowts) (OnExpiry (leaseEnd s.cs ≤ nowts)) (fun _ _ => True) s := by
  cases tm with
  | bound => exact boundTimeout_expired env nowts s
  | renewing => exact renewingTimeout_expired env nowts s
  | rebinding => exact rebindingTimeout_expired env nowts s

instance (env : Env) (nowts : Int) (tm : Timer) : Routine core Dies (tm.timeout env nowts) := by
  cases tm <;> (unfold Timer.timeout; infer_instance)

/-- Up to 4294967 seconds the 32-bit product does not wrap. -/
theorem leaseEnd_eq_exactEnd (cs : ClientState) (h : cs.lease.toNat ≤ 4294967) :
    leaseEnd cs = exactEnd cs := by
  unfold leaseEnd exactEnd
  have h1000 : (1000 : UInt32).toNat = 1000 := rfl
  rw [UInt32.toNat_mul, h1000]
  omega

theorem keptToEnd_of_le (calls : List TimerCall) (s : Sys) (h : s.cs.lease.toNat ≤ 4294967) :
    KeptToEnd calls s := by
  induction calls generalizing s with
  | nil => trivial
  | cons c calls ih =>
    show wp (c.timer.timeout c.env c.nowts) _ _ s
    apply wp_routine core Dies
    apply wp_mono _ _ s _ _ _ (Timer.timeout_expired c.env c.nowts c.timer s)
    · intro r t hr hkeep
      refine ⟨fun he => ?_, ih t ?_⟩
      · rw [← leaseEnd_eq_exactEnd s.cs h]
        exact hr he
      · have hl : t.cs.lease = s.cs.lease := congrArg Core.lease hkeep
        rw [hl]
        exact h
    · intro _ _ _ _
      trivial

theorem leaseOf_le (v : UInt32) (h : v.toNat ≤ 4294967) : (leaseOf v).toNat ≤ 4294967 := by
  unfold leaseOf
  split
  · decide
  · split
    · decide
    · exact h

/-- Beyond that, `elt` has passed at rebinding time and the lease's end has not. -/
theorem wrapped_before_rebinding (v : Nat) (h : 4294967 < v) (hv : v < 2 ^ 32) :
    v * 1000 % 2 ^ 32 ≤ v / 8 * 7 * 1000 ∧ v / 8 * 7 * 1000 < 1000 * v := by
  refine ⟨?_, by omega⟩
  rcases Nat.lt_or_ge v 4908536 with hlt | hge
  · have hmod : v * 1000 % 2 ^ 32 = v * 1000 - 2 ^ 32 := by omega
    omega
  · omega

theorem withLease_renewTime (env : Env) (packet : DhcpMsg) (s : Sys) :
    (withLease env packet s).cs.renewTime =
      ((withLease env packet s).cs.lease.toNat / 2 : Nat) := by
  simp [withLease, UInt32.toNat_shiftRight, Nat.shiftRight_eq_div_pow]

theorem withLease_rebindTime (env : Env) (packet : DhcpMsg) (s : Sys) :
    (withLease env packet s).cs.rebindTime =
      ((withLease env packet s).cs.lease.toNat / 8 * 7 : Nat) := by
  have hsize := (leaseOf (getOptionLeasetime packet)).toNat_lt
  simp only [withLease, UInt32.toNat_mul, UInt32.toNat_shiftRight, Nat.shiftRight_eq_div_pow]
  have h7 : (7 : UInt32).toNat = 7 := rfl
  have h3 : 2 ^ ((3 : UInt32).toNat % 32) = 8 := rfl
  rw [h7, h3]
  omega

theorem leaseOf_long (v : UInt32) (h : 60 ≤ v.toNat) : leaseOf v = v := by
  unfold leaseOf
  rw [if_neg, if_neg]
  · rw [UInt32.lt_iff_toNat_lt]
    exact Nat.not_lt.mpr h
  · intro h0
    rw [h0] at h
    exact absurd h (by decide)

/-- Sockets are handed out, sends succeed, the clock stands at zero. -/
def calmEnv : Env where
  curms _ := 0
  random _ := 0
  send _ := some 60
  sockd _ := some (3, true)
  ifch _ := some 0

/-- The clock stands at `now`. -/
def envAt (now : Int) : Env := { calmEnv with curms := fun _ => now }

def exampleStart : Sys := .start ⟨0, false, false, 3, true, by decide⟩

/-- **A lease is never abandoned early**, exactly for lease times up to 4294967 seconds:
longer ones are given up at rebinding time. -/
theorem lease_kept_to_end_iff (packet : DhcpMsg) :
    LeaseKept packet ↔ (getOptionLeasetime packet).toNat ≤ 4294967 := by
  constructor
  · intro hkept
    by_contra hle
    have hlong : 4294967 < (getOptionLeasetime packet).toNat := Nat.not_le.mp hle
    obtain ⟨hwrap, hearly⟩ := wrapped_before_rebinding _ hlong (getOptionLeasetime packet).toNat_lt
    -- the client's own timer, at rebinding time of a lease taken at time zero
    obtain ⟨s, hs⟩ : ∃ s, withLease calmEnv packet exampleStart = s := ⟨_, rfl⟩
    obtain ⟨nowts, hn⟩ : ∃ n, (getOptionLeasetime packet).toNat / 8 * 7 * 1000 = n := ⟨_, rfl⟩
    rw [hn] at hwrap hearly
    have hstart : s.cs.leaseStartTime = 0 := hs ▸ rfl
    have hlease : s.cs.lease = getOptionLeasetime packet := hs ▸ leaseOf_long _ (by omega)
    have hrenew := withLease_renewTime calmEnv packet exampleStart
    have hrebind := withLease_rebindTime calmEnv packet exampleStart
    rw [hs, hlease] at hrenew hrebind
    have hend : leaseEnd s.cs ≤ nowts := by
      have h1000 : (1000 : UInt32).toNat = 1000 := rfl
      unfold leaseEnd
      rw [hlease, hstart, UInt32.toNat_mul, h1000]
      omega
    obtain ⟨r, t, hrun, rfl⟩ := exists_of_wp _ s _
      (boundTimeout_gives_up calmEnv nowts 3 true s rfl (by decide)
        (by unfold isRenewing; omega) (by unfold isRebinding; omega) hend)
    have hlate : exactEnd s.cs ≤ nowts :=
      hs ▸ hkept.of_expired packet ⟨calmEnv, .bound, nowts⟩ calmEnv exampleStart t (hs ▸ hrun)
    unfold exactEnd at hlate
    rw [hlease, hstart] at hlate
    omega
  · intro h env calls s
    show KeptToEnd calls _
    apply keptToEnd_of_le
    exact leaseOf_le _ h

/-- A DHCP reply with the given option bytes, the rest of the options zero. -/
def reply (yiaddr opts : List UInt8) (h : (replyBytes yiaddr opts).length ≤ dhcpmsgSize) : DhcpMsg :=
  DhcpMsg.zero.overlay (replyBytes yiaddr opts) h

/-- A lease of 4294968 seconds. -/
def longLease : DhcpMsg :=
  reply [192, 168, 1, 10] [53, 1, 5, 51, 4, 0, 65, 137, 56, 54, 4, 192, 168, 1, 1, 255]
    (by decide +kernel)

/-- A lease of 4294968 seconds is given up after 3758097 seconds. -/
theorem longLease_abandoned : ¬ LeaseKept longLease := by
  intro h
  obtain ⟨s, hs⟩ : ∃ s, withLease calmEnv longLease exampleStart = s := ⟨_, rfl⟩
  have hfields : s.cs.leaseStartTime = 0 ∧ s.cs.lease = 4294968 ∧ s.cs.renewTime = 2147484 ∧
      s.cs.rebindTime = 3758097 := by
    rw [← hs]
    decide +kernel
  obtain ⟨hstart, hlease, hrenew, hrebind⟩ := hfields
  obtain ⟨r, t, hrun, rfl⟩ := exists_of_wp _ s _
    (boundTimeout_gives_up calmEnv 3758097000 3 true s rfl (by decide)
      (by unfold isRenewing; omega) (by unfold isRebinding; omega)
      (by unfold leaseEnd; rw [hlease, hstart]; decide))
  have hlate : exactEnd s.cs ≤ 3758097000 :=
    hs ▸ h.of_expired longLease ⟨calmEnv, .bound, 3758097000⟩ calmEnv exampleStart t (hs ▸ hrun)
  unfold exactEnd at hlate
  rw [hlease, hstart] at hlate
  exact absurd hlate (by decide)

end Ndhc
