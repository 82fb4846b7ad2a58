import Ndhc.Client.Expiry
import Ndhc.Ifch.Delta

/-!
# Binding again

`ifchange_bind` starts from `ret = -1` and asks ifch only if it has something to send, so a
packet that changes nothing counts as a failed bind, and `arp_collision_timeout` then ends the
process.  The configuration packet outlives the lease when it expires, is refused or is
released, so a client that is given its old lease again does not survive it.
-/

namespace Ndhc

open Prog

/-! ## Statement -/

/-- The bytes an option needs for a command. -/
def optNeeds (code : UInt8) : Nat := (optEncoding code []).1

/-- Something in the packet is new: its address, or an option that is long enough to be sent. -/
def Changes (cfgPacket p : DhcpMsg) : Prop :=
  addrChanged p cfgPacket ∨
    ∃ code ∈ bindCodes, option cfgPacket code ≠ option p code ∧ optNeeds code ≤ (option p code).length

instance (cfgPacket p : DhcpMsg) : Decidable (Changes cfgPacket p) :=
  inferInstanceAs (Decidable (_ ∨ _))

section
variable (env : Env) (cfg : ClientConfig) (nowts : Int) (p : DhcpMsg) (s : Sys)

/-- `ifchange_bind` reports success, and `arp_collision_timeout` does not end the process when
it takes the lease. -/
def BindsWell : Prop :=
  (∃ ret t, ifchangeBind env p s = .ok ret t ∧ 0 ≤ ret) ∧
    (s.garp.dhcpPacket = p → arpWaitOver cfg nowts s → cfg.quitAfterLease = false →
      ∃ r t, arpCollisionTimeout env cfg nowts s = .ok r t)

end

/-! ## When there is something to send -/

theorem optEncoding_needs (code : UInt8) (od : List UInt8) : (optEncoding code od).1 = optNeeds code := by
  unfold optNeeds optEncoding
  repeat' split
  all_goals rfl

theorem optCommand_ne_none_iff (cfgPacket p : DhcpMsg) (code : UInt8) :
    optCommand cfgPacket p code ≠ none ↔
      option cfgPacket code ≠ option p code ∧ optNeeds code ≤ (option p code).length := by
  have hpos : 0 < optNeeds code := optEncoding_pos code []
  unfold optCommand carried
  rw [optEncoding_needs]
  by_cases hs : sent cfgPacket p code
  · rw [if_pos hs]
    by_cases hlt : (option p code).length < optNeeds code
    · rw [if_pos hlt]
      simp [hlt]
    · rw [if_neg hlt]
      simp [hs.2, Nat.le_of_not_lt hlt]
  · rw [if_neg hs]
    constructor
    · intro h
      exact absurd rfl h
    · rintro ⟨hne, hle⟩
      refine absurd ⟨?_, hne⟩ hs
      intro h0
      rw [h0, List.length_nil] at hle
      omega

theorem bindBuffer_ne_nil_iff (cfgPacket p : DhcpMsg) : bindBuffer cfgPacket p ≠ [] ↔ Changes cfgPacket p := by
  have htext (cmd : BindCmd) : cmd.text ≠ [] := by
    cases cmd <;> simp [BindCmd.text]
  have hnil : bindBuffer cfgPacket p = [] ↔ bindCommands cfgPacket p = [] := by
    rw [bindBuffer_text, List.flatMap_eq_nil_iff]
    constructor
    · intro h
      exact List.eq_nil_iff_forall_not_mem.2 fun cmd hmem => htext cmd (h cmd hmem)
    · intro h cmd hmem
      rw [h] at hmem
      cases hmem
  rw [Ne, hnil, bindCommands, List.append_eq_nil_iff, not_and_or, Changes]
  refine or_congr ?_ ?_
  · split
    · next h => simp [h]
    · next h => simp [h]
  · rw [List.filterMap_eq_nil_iff]
    simp only [not_forall, exists_prop]
    exact exists_congr fun code => and_congr_right fun _ => optCommand_ne_none_iff cfgPacket p code

/-! ## The calls -/

section
variable (env : Env) (ret : Int) (hifch : env.ifch .bind = some ret) (hret : 0 ≤ ret)
include hifch hret

/-- With ifch reporting success, the outcome depends on whether it is asked. -/
theorem ifchangeBind_asked (p : DhcpMsg) (s : Sys) :
    wp (ifchangeBind env p) (fun r _ => r = if bindBuffer s.cfgPacket p = [] then -1 else ret)
      (fun _ _ => False) s := by
  unfold ifchangeBind emit
  rw [wp_bind, wp_modify, wp_bind, wp_get, wp_ite]
  split
  · rfl
  · rw [hifch, wp_bind]
    show wp (if ret < 0 then pure ret else _) _ _ _
    rw [wp_ite, if_neg (by omega)]
    rfl

theorem BindsWell.ne_nil (cfg : ClientConfig) (nowts : Int) (p : DhcpMsg) (s : Sys)
    (h : BindsWell env cfg nowts p s) : bindBuffer s.cfgPacket p ≠ [] := by
  intro hnil
  obtain ⟨⟨r, t, hcall, hr⟩, -⟩ := h
  have hasked := (wp_ok_iff _ _ s _ r t hcall).mp (ifchangeBind_asked env ret hifch hret p s)
  rw [if_pos hnil] at hasked
  omega

theorem arpLeaseObtained_returns (cfg : ClientConfig) (hquit : cfg.quitAfterLease = false) (s : Sys)
    (h : bindBuffer s.cfgPacket s.garp.dhcpPacket ≠ []) :
    wp (arpLeaseObtained env cfg) (fun _ _ => True) (fun _ _ => False) s := by
  unfold arpLeaseObtained
  rw [wp_bind, wp_get, wp_bind, wp_modify, wp_bind]
  apply wp_mono _ _ _ _ _ _ (ifchangeBind_asked env ret hifch hret _ _)
  · intro r t hr
    rw [if_neg h] at hr
    rw [wp_ite, if_neg (by omega), hquit]
    trivial
  · exact fun _ _ hf => hf

end

/-- **A bind succeeds if and only if it changes something**: with ifch reporting success,
whatever configuration packet is in force. -/
theorem bind_succeeds_iff (env : Env) (ret : Int) (hifch : env.ifch .bind = some ret) (hret : 0 ≤ ret)
    (cfg : ClientConfig) (nowts : Int) (p : DhcpMsg) (s : Sys) :
    BindsWell env cfg nowts p s ↔ Changes s.cfgPacket p := by
  rw [← bindBuffer_ne_nil_iff]
  constructor
  · intro h
    exact h.ne_nil env ret hifch hret
  · intro hne
    refine ⟨?_, ?_⟩
    · obtain ⟨r, t, hcall, hr⟩ := exists_of_wp _ s _ (ifchangeBind_asked env ret hifch hret p s)
      rw [if_neg hne] at hr
      exact ⟨r, t, hcall, by omega⟩
    · rintro rfl hwait hquit
      have hwp : wp (arpCollisionTimeout env cfg nowts) (fun _ _ => True) (fun _ _ => False) s := by
        unfold arpCollisionTimeout
        rw [wp_bind, wp_get, wp_ite, if_pos hwait]
        exact arpLeaseObtained_returns env ret hifch hret cfg hquit s hne
      obtain ⟨r, t, hcall, -⟩ := exists_of_wp _ s _ hwp
      exact ⟨r, t, hcall⟩

theorem first_bind_succeeds : BindsWell calmEnv exampleConfig 2000 exampleAck probingState :=
  (bind_succeeds_iff calmEnv 0 rfl (Int.le_refl 0) exampleConfig 2000 exampleAck probingState).2
    (by decide +kernel)

/-! ## The old lease again -/

/-- As `calmEnv`, an hour later. -/
def lateEnv : Env := { calmEnv with curms := fun _ => 3600000 }

/-- The lease expires; the server then grants it again. -/
def reacquireRun : List Step := expiryRun ++ [
  .handle lateEnv { quietInput 3600000 with dhcpTimeout := true },
  .handle lateEnv { quietInput 3600000 with
    sevDhcp := true, dhcpPacket := exampleOffer, dhcpMsgtype := DHCPOFFER, dhcpSrcaddr := 0xc0a80101 },
  .handle lateEnv { quietInput 3600000 with dhcpTimeout := true },
  .handle lateEnv { quietInput 3600000 with
    sevDhcp := true, dhcpPacket := exampleAck, dhcpMsgtype := DHCPACK, dhcpSrcaddr := 0xc0a80101 }]

/-- The probes for it go unanswered, and the process ends instead of taking it: nothing but
`ifchange_bind` having nothing to do has gone wrong. -/
theorem same_lease_again_dies :
    (run exampleConfig reacquireRun exampleStart).pc = .probing ∧
    ¬ BindsWell lateEnv exampleConfig 3602000 exampleAck (run exampleConfig reacquireRun exampleStart) ∧
    (run exampleConfig (reacquireRun ++ [.handle lateEnv { quietInput 3602000 with arpTimeout := true }])
      exampleStart).pc = .dead := by
  refine ⟨by decide +kernel, ?_, by decide +kernel⟩
  intro h
  exact h.ne_nil lateEnv 0 rfl (Int.le_refl 0) exampleConfig 3602000 exampleAck _ (by decide +kernel)

end Ndhc
