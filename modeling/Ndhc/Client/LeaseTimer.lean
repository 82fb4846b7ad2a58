import Ndhc.Client.Passes

/-!
# The timer of a lease

Which instant `dhcp_wake_ts` is set to when a timeout of the BOUND loop waits.  The three timeouts
share one shape: the next request in 50 to 70 seconds, or at the next boundary of the lease if that
comes first.  Past T2 the boundary is the end as `rebinding_timeout` computes it in 32 bits;
where that product wraps it lies before T2, so the lease is given up and nothing waits for it
(`leaseEnd_past_rebinding`).
-/

namespace Ndhc

open Prog

/-- The boundary of the phase the lease is in: T1, T2 or its end. -/
def nextBoundary (cs : ClientState) (nowts : Int) : Int :=
  if nowts < cs.leaseStartTime + cs.renewTime * 1000 then cs.leaseStartTime + cs.renewTime * 1000
  else if nowts < cs.leaseStartTime + cs.rebindTime * 1000 then cs.leaseStartTime + cs.rebindTime * 1000
  else exactEnd cs

/-- A timeout that waits is to be repeated later, and no later than the next boundary. -/
def TimerAdvances (cs : ClientState) (nowts : Int) (r : Bto) (t : Sys) : Prop :=
  r = .wait → nowts < t.cs.dhcpWakeTs ∧ t.cs.dhcpWakeTs ≤ nextBoundary cs nowts

section
variable (env : Env) (nowts : Int)

theorem lt_retryTime (site : Site) : nowts < retryTime env site nowts := by
  have hsum : (50 + env.random site % 20).toNat = 50 + (env.random site).toNat % 20 := by
    have h50 : (50 : UInt32).toNat = 50 := rfl
    have h20 : (20 : UInt32).toNat = 20 := rfl
    rw [UInt32.toNat_add, UInt32.toNat_mod, h50, h20]
    omega
  have hprod : ((50 + env.random site % 20) * 1000).toNat = (50 + (env.random site).toNat % 20) * 1000 := by
    have h1000 : (1000 : UInt32).toNat = 1000 := rfl
    rw [UInt32.toNat_mul, hsum, h1000]
    omega
  unfold retryTime
  rw [hprod]
  omega

/-- A request is repeated ahead of the limit, which the sends leave where it was. -/
theorem requestExtension_advances (site : Site) (send : M Int) [Routine core Dies send]
    (limit : ClientState → Int) (s : Sys) (hlimit : ∀ t, core t = core s → limit t.cs = nextBoundary s.cs nowts)
    (hlt : nowts < nextBoundary s.cs nowts) :
    wp (requestExtension env site send limit nowts) (TimerAdvances s.cs nowts) (fun _ _ => True) s := by
  have hretry := lt_retryTime env nowts site
  unfold requestExtension
  apply wp_sub
  · intro _ t ht
    apply wp_sub
    · intro r u hu
      rw [wp_ite]
      split
      · intro h
        cases h
      · intro _
        show nowts < min _ (limit u.cs) ∧ min _ (limit u.cs) ≤ _
        rw [hlimit u (hu.trans ht)]
        omega
    · exact fun _ _ => trivial
  · exact fun _ _ => trivial

theorem rebindingTimeout_advances (s : Sys)
    (hend : nowts < leaseEnd s.cs → leaseEnd s.cs = nextBoundary s.cs nowts) :
    wp (rebindingTimeout env nowts) (TimerAdvances s.cs nowts) (fun _ _ => True) s := by
  unfold rebindingTimeout
  rw [wp_bind, wp_get, wp_ite]
  split
  · apply wp_bind_all
    · intro _ t h
      cases h
    · exact fun _ _ => trivial
  · next hlive =>
    have hlt : nowts < leaseEnd s.cs := Int.not_le.mp hlive
    apply requestExtension_advances
    · intro t ht
      have hstart : t.cs.leaseStartTime = s.cs.leaseStartTime := congrArg Core.leaseStartTime ht
      have hlease : t.cs.lease = s.cs.lease := congrArg Core.lease ht
      rw [← hend hlt, leaseEnd, leaseEnd, hstart, hlease]
    · rw [← hend hlt]
      exact hlt

theorem leaseTimeout_advances (s : Sys) (horder : s.cs.renewTime ≤ s.cs.rebindTime)
    (hend : nowts < leaseEnd s.cs → isRebinding s.cs nowts → leaseEnd s.cs = exactEnd s.cs) :
    wp (leaseTimeout env nowts) (TimerAdvances s.cs nowts) (fun _ _ => True) s := by
  unfold leaseTimeout
  rw [wp_bind, wp_get, wp_ite]
  split
  · next hrebind =>
    -- past T2 the boundary is the end of the lease
    apply rebindingTimeout_advances
    intro hlt
    rw [hend hlt hrebind]
    unfold isRebinding at hrebind
    unfold nextBoundary
    rw [if_neg (by omega), if_neg (by omega)]
  · next hrebind =>
    have hrenewing : isRenewing s.cs nowts → wp (renewingTimeout env nowts) (TimerAdvances s.cs nowts) (fun _ _ => True) s := by
      intro hrenew
      have hT2 : nextBoundary s.cs nowts = s.cs.leaseStartTime + s.cs.rebindTime * 1000 := by
        unfold isRenewing at hrenew
        unfold isRebinding at hrebind
        unfold nextBoundary
        rw [if_neg (by omega), if_pos (by omega)]
      unfold renewingTimeout
      rw [wp_bind, wp_get, wp_ite, if_neg hrebind]
      apply requestExtension_advances
      · intro t ht
        have hstart : t.cs.leaseStartTime = s.cs.leaseStartTime := congrArg Core.leaseStartTime ht
        have htime : t.cs.rebindTime = s.cs.rebindTime := congrArg Core.rebindTime ht
        rw [hT2, hstart, htime]
      · unfold isRebinding at hrebind
        rw [hT2]
        omega
    rw [wp_ite]
    split
    · next hrenew => exact hrenewing hrenew
    · next hrenew =>
      have hT1 : nowts < s.cs.leaseStartTime + s.cs.renewTime * 1000 := Int.not_le.mp hrenew
      unfold boundTimeout
      rw [wp_bind, wp_get, wp_ite, if_pos hT1]
      intro _
      unfold nextBoundary
      rw [if_pos hT1]
      exact ⟨hT1, Int.le_refl _⟩

end

theorem le_leaseOf (v : UInt32) : 60 ≤ (leaseOf v).toNat := by
  unfold leaseOf
  split
  · decide
  · split
    · decide
    · next h =>
      rw [UInt32.lt_iff_toNat_lt] at h
      exact Nat.not_lt.mp h

/-- Of a lease as `get_leasetime` takes it down, the end computed in 32 bits is the end, or it is
past at T2. -/
theorem leaseEnd_past_rebinding (cs : ClientState) (nowts : Int)
    (hrebind : cs.rebindTime = (cs.lease.toNat / 8 * 7 : Nat)) (hlt : nowts < leaseEnd cs)
    (hpast : isRebinding cs nowts) : leaseEnd cs = exactEnd cs := by
  by_cases hle : cs.lease.toNat ≤ 4294967
  · exact leaseEnd_eq_exactEnd cs hle
  · obtain ⟨hwrap, -⟩ := wrapped_before_rebinding _ (Nat.not_le.mp hle) cs.lease.toNat_lt
    have h1000 : (1000 : UInt32).toNat = 1000 := rfl
    unfold leaseEnd at hlt
    unfold isRebinding at hpast
    rw [UInt32.toNat_mul, h1000] at hlt
    omega

/-- **The lease timer advances and skips no boundary.**  `get_leasetime` gives a lease of at least
a minute with T1, T2 and the end in order, none of them wrapped; and a timeout of the BOUND loop
that waits, at any time, sets the timer ahead, to the next of the three at the latest. -/
theorem lease_timer_advances (env env' : Env) (packet : DhcpMsg) (s : Sys) (wake nowts : Int) :
    let cs := (withLease env packet s).cs
    60 ≤ cs.lease.toNat ∧ cs.renewTime = (cs.lease.toNat / 2 : Nat) ∧
      cs.rebindTime = (7 * (cs.lease.toNat / 8) : Nat) ∧ cs.renewTime < cs.rebindTime ∧
      cs.rebindTime < cs.lease.toNat ∧
      wp (leaseTimeout env' nowts) (TimerAdvances cs nowts) (fun _ _ => True)
        { withLease env packet s with cs.dhcpWakeTs := wake } := by
  have hlease : 60 ≤ (withLease env packet s).cs.lease.toNat := le_leaseOf _
  have hrenew := withLease_renewTime env packet s
  have hrebind := withLease_rebindTime env packet s
  refine ⟨hlease, hrenew, ?_, ?_, ?_, ?_⟩
  · rw [hrebind, Nat.mul_comm]
  · rw [hrenew, hrebind]
    omega
  · rw [hrebind]
    omega
  · apply leaseTimeout_advances env' nowts { withLease env packet s with cs.dhcpWakeTs := wake }
    · show (withLease env packet s).cs.renewTime ≤ (withLease env packet s).cs.rebindTime
      rw [hrenew, hrebind]
      omega
    · exact fun hlt hpast => leaseEnd_past_rebinding _ nowts hrebind hlt hpast

end Ndhc
