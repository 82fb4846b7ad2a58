import Ndhc.Client.Acquire
import Mathlib.Data.List.Induction

/-!
# Whom a DECLINE names

`arp_do_collision_check` hands `send_decline` the address that was acknowledged where the server
is expected.  The address a DECLINE asks about is the one of the ACK it declines, and so is its
server identifier: it names the server only if that is the address itself
(`decline_names_server_iff`).
-/

namespace Ndhc

open Prog

/-! ## Statement -/

section
variable (cfg : ClientConfig)

/-- `ack` was accepted in the run, and the client has been probing since. -/
def ProbesFor (steps : List Step) (s : Sys) (ack : DhcpMsg) : Prop :=
  ∃ pre env inp rest, steps = pre ++ .handle env inp :: rest ∧ inp.dhcpPacket = ack ∧
    (Step.handle env inp).TakesAck (run cfg pre s) ∧
    Along cfg (fun _ t => t.pc = .probing) rest ((Step.handle env inp).next cfg (run cfg pre s))

/-- The step counts a conflict. -/
def Step.Recognises : Step → Sys → Prop
  | .handle _ inp, s => Ndhc.Recognises cfg inp s
  | _, _ => False

end

/-! ## Where a DECLINE is sent -/

section
variable (env : Env) (cfg : ClientConfig) (inp : Input)

theorem target_declines (v : List Effect) (l : Label) : Keeps (bidsOf DHCPDECLINE) v (target env cfg inp l) := by
  cases l with
  | reinit =>
    unfold target reinitPass
    infer_instance
  | requesting =>
    unfold target
    infer_instance
  | released =>
    unfold target
    infer_instance

/-- Of the passes only that of probing sends a DECLINE. -/
theorem resume_declines (v : List Effect) (pc : Pc) (h : pc ≠ .probing) :
    Keeps (bidsOf DHCPDECLINE) v (resume env cfg inp pc) := by
  cases pc with
  | init =>
    unfold resume reinitPass
    infer_instance
  | probing => exact absurd rfl h
  | _ =>
    unfold resume
    infer_instance

/-- The DECLINE for the address that is being probed. -/
def declineOf (s : Sys) : Effect := .dhcp ((Message.decline (probed s)).sent s.cs)

/-- The pass of probing sends a DECLINE only for a conflict. -/
theorem probingPass_declines (s : Sys) (hs : s.out = []) :
    wp (probingPass env cfg inp)
      (fun _ t => bidsOf DHCPDECLINE t = [] ∨ (Recognises cfg inp s ∧ bidsOf DHCPDECLINE t = [declineOf s]))
      (fun _ t => bidsOf DHCPDECLINE t = [] ∨ (Recognises cfg inp s ∧ bidsOf DHCPDECLINE t = [declineOf s])) s := by
  have hnone : bidsOf DHCPDECLINE s = [] := by
    rw [bidsOf, hs]
    rfl
  unfold probingPass
  by_cases hsig : inp.sevSignal = .release
  · rw [wp_bind]
    exact wp_mono _ _ s _ _ _ (wp_and _ _ _ _ _ _ (onRelease_quest inp s hsig)
      (Keeps.ends (bidsOf DHCPDECLINE) [] (onRelease inp) s hnone)) (fun _ _ h => h.1.elim) (fun _ _ h => Or.inl h.2)
  · rw [wp_bind_idle _ _ _ _ _ (onRelease_of_not inp s hsig)]
    by_cases hrec : inp.sevArp = true ∧ Counts cfg s.garp
    · rw [wp_bind]
      apply wp_mono _ _ s _ _ _ (probingArp_declines env cfg inp s hrec.1 hrec.2) (fun _ _ h => h.elim)
      have hsilent : ∀ u : Sys, u.out = s.out ++ [.conflict (probed s)] → bidsOf DHCPDECLINE u = [] := by
        intro u hu
        rw [bidsOf, hu, hs]
        rfl
      have hsent : ∀ u : Sys, u.out = s.out ++ [.conflict (probed s), declineOf s] →
          bidsOf DHCPDECLINE u = [declineOf s] := by
        intro u hu
        rw [bidsOf, hu, hs]
        rfl
      intro e u h
      cases e with
      | ret code => exact Or.inl (hsilent u h.2.2)
      | goto l =>
        obtain ⟨-, v, -, hanew, hout⟩ := h
        exact Or.inr ⟨⟨hsig, hrec⟩, hsent u (hanew.out.trans hout)⟩
      | exit =>
        rcases h with ⟨-, hout | hout⟩
        · exact Or.inl (hsilent u hout)
        · exact Or.inr ⟨⟨hsig, hrec⟩, hsent u hout⟩
    · rw [wp_bind_idle _ _ _ _ _ (probingArp_of_not env cfg inp s hrec)]
      exact wp_mono _ _ s _ _ _ (Keeps.ends (bidsOf DHCPDECLINE) []
        (probingArpTimeout env cfg inp >>= fun _ => requestTimer env inp .probing) s hnone)
        (fun _ _ h => Or.inl h) (fun _ _ h => Or.inl h)

/-- **A DECLINE is sent** by a call of probing that counts a conflict, for the address probed. -/
theorem declines_handle (s : Sys) :
    bidsOf DHCPDECLINE (final (dhcpHandle env cfg inp) s) = [] ∨ (s.pc = .probing ∧ Recognises cfg inp s ∧
      bidsOf DHCPDECLINE (final (dhcpHandle env cfg inp) s) = [declineOf s]) := by
  apply final_of_wp (dhcpHandle env cfg inp) s fun t =>
    bidsOf DHCPDECLINE t = [] ∨ (s.pc = .probing ∧ Recognises cfg inp s ∧ bidsOf DHCPDECLINE t = [declineOf s])
  by_cases hpc : s.pc = .probing
  · rw [wp_dhcpHandle env cfg inp _ _ s .probing hpc, wp_follow]
    have hjump : ∀ v l t, bidsOf DHCPDECLINE t = v → wp (follow env cfg inp 1 (target env cfg inp l))
        (fun _ u => bidsOf DHCPDECLINE u = v) (fun _ u => bidsOf DHCPDECLINE u = v) t := by
      intro v l
      have htarget := target_declines env cfg inp v
      have := htarget l
      have := keeps_follow env cfg inp (bidsOf DHCPDECLINE) v htarget 1 (target env cfg inp l)
      exact Keeps.ends (bidsOf DHCPDECLINE) v (follow env cfg inp 1 (target env cfg inp l))
    apply wp_mono _ _ _ _ _ _ (probingPass_declines env cfg inp { s with out := [] } rfl)
    · exact fun _ _ h => h.imp_right fun h => ⟨hpc, h⟩
    · intro e t h
      match e, h with
      | .ret _, h => exact h.imp_right fun h => ⟨hpc, h⟩
      | .goto l, Or.inl h =>
        exact wp_mono _ _ t _ _ _ (hjump _ l t h) (fun _ _ h => Or.inl h) (fun _ _ h => Or.inl h)
      | .goto l, Or.inr ⟨hrec, h⟩ =>
        exact wp_mono _ _ t _ _ _ (hjump _ l t h) (fun _ _ h => Or.inr ⟨hpc, hrec, h⟩)
          (fun _ _ h => Or.inr ⟨hpc, hrec, h⟩)
      | .exit, h => exact h.imp_right fun h => ⟨hpc, h⟩
  · rw [wp_dhcpHandle env cfg inp _ _ s s.pc rfl]
    have := resume_declines env cfg inp [] s.pc hpc
    have := keeps_follow env cfg inp (bidsOf DHCPDECLINE) [] (target_declines env cfg inp []) 2
      (resume env cfg inp s.pc)
    exact wp_mono _ _ _ _ _ _ (Keeps.ends (bidsOf DHCPDECLINE) []
      (follow env cfg inp 2 (resume env cfg inp s.pc)) { s with out := [] } rfl)
      (fun _ _ h => Or.inl h) (fun _ _ h => Or.inl h)

end

section
variable (cfg : ClientConfig)

theorem Step.declines (st : Step) (s : Sys) (m : Sent) (htype : m.msgtype = DHCPDECLINE)
    (h : Effect.dhcp m ∈ (st.next cfg s).out) :
    s.pc = .probing ∧ st.Recognises cfg s ∧ m = (Message.decline (probed s)).sent s.cs := by
  rcases st.read_or_call with hread | ⟨env, inp, rfl⟩
  · rw [(st.quest_of_read cfg s hread).2.1] at h
    exact absurd h List.not_mem_nil
  · have hmem : Effect.dhcp m ∈ bidsOf DHCPDECLINE ((Step.handle env inp).next cfg s) := by
      apply List.mem_filter.mpr ⟨h, ?_⟩
      simp [Effect.isBidOf, Effect.isBid, htype]
    rcases declines_handle env cfg inp s with hnone | ⟨hpc, hrec, hsent⟩
    · rw [show bidsOf DHCPDECLINE ((Step.handle env inp).next cfg s) = [] from hnone] at hmem
      exact absurd hmem List.not_mem_nil
    · rw [show bidsOf DHCPDECLINE ((Step.handle env inp).next cfg s) = _ from hsent] at hmem
      exact ⟨hpc, hrec, Effect.dhcp.inj (List.mem_singleton.mp hmem)⟩

/-! ## The ACK behind the probes -/

/-- What the client knows of the ACK whose address it probes. -/
structure Knows (s : Sys) (ack : DhcpMsg) : Prop where
  packet : s.garp.dhcpPacket = ack
  clientAddr : s.cs.clientAddr = ack.yiaddr
  serverAddr : getOptionServerid ack = some s.cs.serverAddr

/-- The ACK, the address and the server. -/
@[reducible] def Quest.terms (q : Quest) : DhcpMsg × UInt32 × UInt32 := (q.dhcpPacket, q.clientAddr, q.serverAddr)

theorem Knows.of_terms (s t : Sys) (ack : DhcpMsg) (h : Knows s ack) (hterms : (quest t).terms = (quest s).terms) :
    Knows t ack := by
  obtain ⟨hp, hrest⟩ := Prod.mk.inj hterms
  obtain ⟨hc, hs⟩ := Prod.mk.inj hrest
  refine ⟨hp.trans h.packet, hc.trans h.clientAddr, ?_⟩
  rw [show t.cs.serverAddr = s.cs.serverAddr from hs]
  exact h.serverAddr

theorem TimerDone.terms (env : Env) (inp : Input) (s t : Sys) (h : TimerDone env inp s t) :
    (quest t).terms = (quest s).terms := by
  rcases h with ⟨-, -, -, h⟩ | ⟨-, -, h⟩
  · rw [h]
  · rw [h]

theorem ProbeDone.terms (s t : Sys) (h : ProbeDone s t) : (quest t).terms = (quest s).terms := by
  rcases h with ⟨-, h⟩ | ⟨-, h⟩
  · rw [h]
  · rw [h]

theorem ProbesFor.step (steps : List Step) (s : Sys) (ack : DhcpMsg) (st : Step) (h : ProbesFor cfg steps s ack)
    (hpc : (run cfg steps s).pc = .probing) : ProbesFor cfg (steps ++ [st]) s ack := by
  obtain ⟨pre, env, inp, rest, rfl, hack, htakes, halong⟩ := h
  refine ⟨pre, env, inp, rest ++ [st], by simp, hack, htakes, ?_⟩
  rw [run_append] at hpc
  rw [along_append]
  exact ⟨halong, hpc, trivial⟩

theorem knows_step (steps : List Step) (s : Sys) (st : Step)
    (ih : (run cfg steps s).pc = .probing → ∃ ack, ProbesFor cfg steps s ack ∧ Knows (run cfg steps s) ack)
    (hpc : (st.next cfg (run cfg steps s)).pc = .probing) :
    ∃ ack, ProbesFor cfg (steps ++ [st]) s ack ∧ Knows (st.next cfg (run cfg steps s)) ack := by
  have hkept : (run cfg steps s).pc = .probing →
      (quest (st.next cfg (run cfg steps s))).terms = (quest (run cfg steps s)).terms →
      ∃ ack, ProbesFor cfg (steps ++ [st]) s ack ∧ Knows (st.next cfg (run cfg steps s)) ack := by
    intro hpc' hterms
    obtain ⟨ack, hfor, hknows⟩ := ih hpc'
    exact ⟨ack, hfor.step cfg steps s ack st hpc', hknows.of_terms _ _ ack hterms⟩
  cases st.onward cfg (run cfg steps s) (Or.inr hpc) with
  | reads _ _ hpc' hquest _ => exact hkept (hpc'.symm.trans hpc) (by rw [hquest])
  | offers env inp h => cases h.pc.symm.trans hpc
  | goes env inp _ h =>
    cases h with
    | waits _ ht _ => cases ht.symm.trans hpc
    | acks hs h =>
      obtain ⟨sid, hsid, hquest⟩ := h.quest
      refine ⟨inp.dhcpPacket, ⟨steps, env, inp, [], rfl, rfl, ⟨hs, h.takes⟩, trivial⟩, ?_, ?_, ?_⟩
      · exact congrArg Quest.dhcpPacket hquest
      · exact (congrArg Quest.clientAddr hquest).trans h.takes.2.2.2.1.symm
      · rw [hsid]
        exact congrArg (fun q => some q.serverAddr) hquest.symm
    | conflicts hs _ _ hquest _ => exact hkept hs (by rw [hquest])
    | probes hs _ _ u hprobe h =>
      refine hkept hs (Eq.trans ?_ hprobe.terms)
      rcases h with h | ⟨-, h⟩
      · exact h.terms env inp u _
      · rw [h]

/-- While a client probes, the address, the server and the packet it keeps are those of one ACK. -/
theorem knows_run (s : Sys) (hs : s.pc ≠ .probing) (steps : List Step) (hpc : (run cfg steps s).pc = .probing) :
    ∃ ack, ProbesFor cfg steps s ack ∧ Knows (run cfg steps s) ack := by
  induction steps using List.reverseRecOn with
  | nil => exact absurd hpc hs
  | append_singleton steps st ih =>
    rw [run_append] at hpc ⊢
    exact knows_step cfg steps s st ih hpc

end

/-! ## What the message says -/

section
variable (cfg : SenderConfig) (cs : ClientState) (server : UInt32)

theorem decline_reqip :
    getDhcpOpt ((Message.decline server).packet cfg cs).msg DCODE_REQIP MAX_DOPT_SIZE = htonl cs.clientAddr := by
  rw [Message.getDhcpOpt_packet]
  rfl

theorem decline_serverid :
    getDhcpOpt ((Message.decline server).packet cfg cs).msg DCODE_SERVER_ID MAX_DOPT_SIZE = htonl server := by
  rw [Message.getDhcpOpt_packet]
  rfl

end

/-- **Whom a DECLINE names.**  A DECLINE is sent by a call that counts a conflict, for the address of
the ACK being probed; it names the server of that ACK exactly if the server has that address. -/
theorem decline_names_server_iff (cfg : SenderConfig) (b : Startup) (steps : List Step) (last : Step) (m : Sent)
    (htype : m.msgtype = DHCPDECLINE)
    (hsent : Effect.dhcp m ∈ (last.next cfg.toClientConfig (run cfg.toClientConfig steps (.start b))).out) :
    ∃ ack sid s, s = run cfg.toClientConfig steps (.start b) ∧ last.Recognises cfg.toClientConfig s ∧
      ProbesFor cfg.toClientConfig steps (.start b) ack ∧ getOptionServerid ack = some sid ∧ s.cs.serverAddr = sid ∧
      m = (Message.decline (probed s)).sent s.cs ∧
      getDhcpOpt ((Message.decline (probed s)).packet cfg s.cs).msg DCODE_REQIP MAX_DOPT_SIZE = htonl ack.yiaddr ∧
      (getDhcpOpt ((Message.decline (probed s)).packet cfg s.cs).msg DCODE_SERVER_ID MAX_DOPT_SIZE = htonl sid ↔
        sid = ack.yiaddr) := by
  obtain ⟨hpc, hrec, hm⟩ := last.declines cfg.toClientConfig _ m htype hsent
  obtain ⟨ack, hfor, hknows⟩ := knows_run cfg.toClientConfig (.start b) nofun steps hpc
  refine ⟨ack, _, _, rfl, hrec, hfor, hknows.serverAddr, rfl, hm, ?_, ?_⟩
  · rw [decline_reqip, hknows.clientAddr]
  · rw [decline_serverid, probed, hknows.packet]
    exact ⟨fun h => (htonl_injective _ _ h).symm, fun h => congrArg htonl h.symm⟩

/-! ## A conflict declined -/

def exampleSender : SenderConfig where
  toClientConfig := { exampleConfig with clientid := List.replicate 64 0 }
  hostname := List.replicate 64 0
  vendor := List.replicate 64 0
  clientid_size := rfl
  clientidLen_le := by decide
  hostname_size := rfl
  hostname_nul := by simp
  vendor_size := rfl
  vendor_nul := by simp

/-- Discover, offer, request and ACK, and a reply for the address that is probed. -/
def conflictRun : List Step :=
  probingRun ++ [.arp calmEnv .zero (.data (arpReplyFrom exampleConfig.arp.bytes))]

def conflictStep : Step := .handle calmEnv { quietInput 100 with sevArp := true }

/-- The state in which the reply is handed over. -/
def conflictState : Sys := run exampleSender.toClientConfig conflictRun exampleStart

theorem conflict_declined :
    Effect.dhcp ((Message.decline (probed conflictState)).sent conflictState.cs) ∈
      (conflictStep.next exampleSender.toClientConfig conflictState).out := by
  decide +kernel

/-- The DECLINE for 192.168.1.10 does not name the server, 192.168.1.1. -/
theorem conflict_decline_iff : ∃ ack sid, ProbesFor exampleSender.toClientConfig conflictRun
    (.start ⟨0, false, false, 3, true, by decide⟩) ack ∧ getOptionServerid ack = some sid ∧
      (getDhcpOpt ((Message.decline (probed conflictState)).packet exampleSender conflictState.cs).msg DCODE_SERVER_ID
        MAX_DOPT_SIZE = htonl sid ↔ sid = ack.yiaddr) := by
  obtain ⟨ack, sid, s, hs, -, hfor, hsid, -, -, -, hiff⟩ := decline_names_server_iff exampleSender
    ⟨0, false, false, 3, true, by decide⟩ conflictRun conflictStep
    ((Message.decline (probed conflictState)).sent conflictState.cs) rfl conflict_declined
  rw [show s = conflictState from hs] at hiff
  exact ⟨ack, sid, hfor, hsid, hiff⟩

/-- The ACK came from 192.168.1.1, and the DECLINE for its address names 192.168.1.10. -/
theorem decline_names_address :
    getOptionServerid exampleAck = some 0xc0a80101 ∧ conflictState.cs.serverAddr = 0xc0a80101 ∧
      Effect.dhcp ((Message.decline (probed conflictState)).sent conflictState.cs) ∈
        (conflictStep.next exampleSender.toClientConfig conflictState).out ∧
      getDhcpOpt ((Message.decline (probed conflictState)).packet exampleSender conflictState.cs).msg DCODE_SERVER_ID
        MAX_DOPT_SIZE = [192, 168, 1, 10] := by
  refine ⟨by decide +kernel, by decide +kernel, conflict_declined, ?_⟩
  rw [decline_serverid]
  decide +kernel

end Ndhc
