import Ndhc.Wire.Receive
import Ndhc.Wire.Reference

/-!
# Which packets are accepted as ours

`validate_dhcp_packet` against what it is for.  Cookie, transaction, hardware address, END marker
and message type are all as they should be in a packet it accepts.  Of the client identifier it
compares only the bytes both have, the one in the packet and our own, so a packet for a client
whose identifier begins like ours, or is begun by ours, is accepted too (`accepted_ours_iff`).
-/

namespace Ndhc

open Bytes

/-- The client identifier we send. -/
def ownClientid (cfg : ClientConfig) : List UInt8 := cfg.clientid.take cfg.clientidLen

/-- A packet of message type `t` meant for this client; options as `referenceOpt` reads them. -/
structure Ours (cfg : ClientConfig) (xid : UInt32) (m : DhcpMsg) (t : UInt8) : Prop where
  cookie : m.cookie = DHCP_MAGIC
  xid_eq : m.xid = xid
  chaddr : slice m.chaddr 0 6 = cfg.arp.bytes
  ended : ∃ e, getEndOptionIdx m = some e ∧ m.options[e]? = some DCODE_END
  msgtype : referenceOpt m DCODE_MSGTYPE = [t]
  msgtype_ne : t ≠ 0
  clientid : referenceOpt m DCODE_CLIENT_ID = [] ∨ referenceOpt m DCODE_CLIENT_ID = ownClientid cfg

/-- Where the walk of `get_end_option_idx` stops there is an END. -/
theorem endWalk_end (bs : List UInt8) (k i e : Nat) (h : endWalk bs k i = some e) :
    bs[e - i]? = some DCODE_END := by
  induction bs generalizing k i with
  | nil => cases h
  | cons b bs ih =>
    have hstep : ∀ k, endWalk bs k (i + 1) = some e → (b :: bs)[e - i]? = some DCODE_END := by
      intro k hk
      obtain ⟨_, hle, _⟩ := endWalk_bounds bs k (i + 1) e hk
      rw [show e - i = (e - (i + 1)) + 1 by omega, List.getElem?_cons_succ]
      exact ih k (i + 1) hk
    cases k with
    | succ k => exact hstep k h
    | zero =>
      simp only [endWalk] at h
      split at h
      · next hb =>
        cases h
        rw [Nat.sub_self, List.getElem?_cons_zero, hb]
      · split at h
        · exact hstep 0 h
        · split at h
          · cases h
          · exact hstep _ h

section
variable (cfg : ClientConfig) (xid : UInt32) (len : Nat) (m : DhcpMsg) (t : UInt8)
  (h : validateDhcpPacket cfg xid len m = some t)
include h

/-- What an accepted packet has passed. -/
theorem validateDhcpPacket_some :
    dhcpHeaderOk cfg xid len m = true ∧ (∃ e, getEndOptionIdx m = some e) ∧
      (getOptionMsgtype m = t ∧ t ≠ 0) ∧
      (getOptionClientid m MAX_DOPT_SIZE = [] ∨
        let n := min (getOptionClientid m MAX_DOPT_SIZE).length cfg.clientidLen
        cfg.clientid.take n = (getOptionClientid m MAX_DOPT_SIZE).take n) := by
  unfold validateDhcpPacket at h
  split at h
  · cases h
  · next hhdr =>
    split at h
    · cases h
    · next hend =>
      simp only at h
      split at h
      · cases h
      · next ht =>
        refine ⟨by simpa using hhdr, Option.ne_none_iff_exists'.mp hend, ?_⟩
        split at h
        · next hlen =>
          cases h
          exact ⟨⟨rfl, ht⟩, .inl (List.eq_nil_of_length_eq_zero hlen)⟩
        · split at h
          · cases h
          · next hid =>
            cases h
            exact ⟨⟨rfl, ht⟩, .inr (not_not.mp hid)⟩

/-- **A packet is accepted only if it is ours, but for the length of its client identifier.**
An accepted packet is ours exactly when it names no client, or an identifier of the length of
our own. -/
theorem accepted_ours_iff :
    Ours cfg xid m t ↔ referenceOpt m DCODE_CLIENT_ID = [] ∨
      (referenceOpt m DCODE_CLIENT_ID).length = (ownClientid cfg).length := by
  have hcap := fun code => getDhcpOpt_of_capacity m code MAX_DOPT_SIZE (Nat.le_refl _)
  obtain ⟨hhdr, ⟨e, he⟩, ⟨hmt, ht0⟩, hid⟩ := validateDhcpPacket_some cfg xid len m t h
  simp only [dhcpHeaderOk, Bool.and_eq_true, decide_eq_true_eq, beq_iff_eq] at hhdr
  obtain ⟨⟨⟨_, hcookie⟩, hxid⟩, hmac⟩ := hhdr
  have hcid : getOptionClientid m MAX_DOPT_SIZE = referenceOpt m DCODE_CLIENT_ID := hcap DCODE_CLIENT_ID
  rw [hcid] at hid
  constructor
  · intro ho
    exact ho.clientid.imp_right fun h => by rw [h]
  · intro hlen
    refine ⟨hcookie, hxid, hmac, ⟨e, he, ?_⟩, ?_, ht0, ?_⟩
    · exact endWalk_end m.options 0 0 e he
    · -- a message type that is not zero was read from an option of one byte
      unfold getOptionMsgtype at hmt
      rw [hcap] at hmt
      simp only at hmt
      split at hmt
      · next hone =>
        obtain ⟨b, hb⟩ := List.length_eq_one_iff.mp hone
        rw [hb] at hmt ⊢
        exact congrArg (fun b => [b]) hmt
      · exact absurd hmt.symm ht0
    · rcases hlen with hlen | hlen
      · exact .inl hlen
      · rcases hid with hid | hid
        · exact .inl hid
        · refine .inr ?_
          -- of two of one length all bytes are compared
          have hle : (referenceOpt m DCODE_CLIENT_ID).length ≤ cfg.clientidLen := by
            rw [hlen, ownClientid, List.length_take]
            exact Nat.min_le_left _ _
          simp only [Nat.min_eq_left hle, List.take_length] at hid
          rw [← hid, hlen, ownClientid]
          simp

end

/-- A client whose identifier is its hardware address. -/
def macConfig : ClientConfig := { exampleConfig with clientid := [1, 2, 0, 0, 0, 0, 1], clientidLen := 7 }

/-- A DHCPACK for transaction 7 with the client identifier given. -/
def ackFor (clientid : List UInt8) (h : clientid.length ≤ 100) : DhcpMsg :=
  DhcpMsg.zero.overlay (replyBytes [192, 168, 1, 10]
    ([DCODE_MSGTYPE, 1, 5, DCODE_CLIENT_ID, clientid.length.toUInt8] ++ clientid ++ [DCODE_END])) (by
      simp only [replyBytes, exampleConfig, dhcpmsgSize, List.length_append, List.length_replicate,
        List.length_cons, List.length_nil]
      omega)

theorem accepted_ours_own : Ours macConfig 7 (ackFor [1, 2, 0, 0, 0, 0, 1] (by decide)) 5 :=
  (accepted_ours_iff macConfig 7 548 _ 5 (by decide +kernel)).mpr (.inr (by
    rw [← getDhcpOpt_of_capacity _ _ MAX_DOPT_SIZE (Nat.le_refl _)]
    decide +kernel))

/-- An acknowledgement for the client `01 02` is accepted by the client `01 02 00 00 00 00 01`. -/
theorem other_clientid_accepted : validateDhcpPacket macConfig 7 548 (ackFor [1, 2] (by decide)) = some 5 ∧
    ¬ Ours macConfig 7 (ackFor [1, 2] (by decide)) 5 := by
  refine ⟨by decide +kernel, fun h => ?_⟩
  have hid := h.clientid
  rw [← getDhcpOpt_of_capacity _ _ MAX_DOPT_SIZE (Nat.le_refl _)] at hid
  exact absurd hid (by decide +kernel)

end Ndhc
