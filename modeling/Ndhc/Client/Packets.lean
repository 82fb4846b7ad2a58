import Ndhc.Client.Handle

/-!
# Which packets the client acts on

`selecting_packet` in its two modes and `extend_packet`, the readers of a packet that
`validate_dhcp_packet` let through.  Each either acts on the packet or returns `ANP_IGNORE`, and
then it has not written anything before: the whole state is the one it was called in
(`ignored_unchanged`).
-/

namespace Ndhc

open Prog

/-- Who reads a packet: SELECTING, REQUESTING, or a client that holds a lease. -/
inductive Phase where
  | selecting
  | requesting
  | extending
  deriving DecidableEq, Repr

/-- The call `dhcp_handle` makes for a packet. -/
def handlePacket (env : Env) (packet : DhcpMsg) (msgtype : UInt8) (srcaddr : UInt32) : Phase → M Anp
  | .selecting => selectingPacket env packet msgtype srcaddr false
  | .requesting => selectingPacket env packet msgtype srcaddr true
  | .extending => extendPacket env packet msgtype

/-- What a phase waits for: an offer, an ACK of the address asked for, an answer of our server. -/
def Awaited (cs : ClientState) (packet : DhcpMsg) (msgtype : UInt8) : Phase → Prop
  | .selecting => msgtype = DHCPOFFER
  | .requesting => msgtype = DHCPACK ∧ packet.yiaddr = cs.clientAddr ∧ getOptionServerid packet ≠ none
  | .extending => (msgtype = DHCPACK ∨ msgtype = DHCPNAK) ∧ getOptionServerid packet = some cs.serverAddr

theorem validateServerid_iff (cs : ClientState) (packet : DhcpMsg) :
    validateServerid cs packet = true ↔ getOptionServerid packet = some cs.serverAddr := by
  unfold validateServerid
  cases getOptionServerid packet with
  | none => simp
  | some sid => rw [beq_iff_eq, Option.some_inj, eq_comm]

section
variable (env : Env) (packet : DhcpMsg) (msgtype : UInt8) (srcaddr : UInt32) (phase : Phase) (s : Sys)

/-- A packet that is awaited and names its server is acted on. -/
theorem handlePacket_acts (h : Awaited s.cs packet msgtype phase)
    (hsid : getOptionServerid packet ≠ none) :
    wp (handlePacket env packet msgtype srcaddr phase) (fun r _ => r ≠ .ignore) (fun _ _ => True) s := by
  obtain ⟨sid, hsid⟩ := Option.ne_none_iff_exists'.mp hsid
  have returns : ∀ (r : Anp) (t : Sys), r ≠ .ignore →
      wp (pure r : M Anp) (fun r _ => r ≠ .ignore) (fun _ _ => True) t := fun r t hr => hr
  have ends : ∀ (_ : Stop) (_ : Sys), True := fun _ _ => trivial
  cases phase with
  | selecting =>
    simp only [handlePacket, selectingPacket, selectingOffer, hsid, wp_bind, wp_get, wp_ite]
    rw [if_pos ⟨rfl, h⟩, wp_modify, wp_pure]
    simp
  | requesting =>
    obtain ⟨hack, hy, -⟩ := h
    simp only [handlePacket, selectingPacket, selectingAck, hsid, wp_bind, wp_get, wp_ite]
    rw [if_neg (by simp), if_pos ⟨trivial, hack, hy⟩]
    exact wp_all _ _ _ _ (fun _ t => wp_all _ _ _ _ (fun _ t => returns _ t (by simp)) ends) ends
  | extending =>
    obtain ⟨htype, hserver⟩ := h
    have hv := (validateServerid_iff s.cs packet).mpr hserver
    simp only [handlePacket, extendPacket, wp_bind, wp_get, wp_ite, hv, Bool.not_true,
      Bool.false_eq_true, if_false]
    split
    · refine wp_all _ _ _ _ (fun _ t => ?_) ends
      split
      · exact returns _ t (by simp)
      · exact wp_all _ _ _ _ (fun _ t => wp_all _ _ _ _ (fun _ t => returns _ t (by simp)) ends) ends
    · next hack =>
      rw [if_pos (htype.resolve_left hack)]
      exact wp_all _ _ _ _ (fun _ t => returns _ t (by simp)) ends

/-- A packet that is not awaited, or names no server, is given back with the state untouched. -/
theorem handlePacket_ignores
    (h : ¬ Awaited s.cs packet msgtype phase ∨ getOptionServerid packet = none) :
    handlePacket env packet msgtype srcaddr phase s = .ok .ignore s := by
  have run : ∀ (m : M Anp), wp m (fun r t => r = .ignore ∧ t = s) (fun _ _ => False) s →
      m s = .ok .ignore s := by
    intro m hm
    obtain ⟨r, t, hms, rfl, rfl⟩ := exists_of_wp _ _ _ hm
    exact hms
  apply run
  cases phase with
  | selecting =>
    simp only [handlePacket, selectingPacket, wp_bind, wp_get, wp_ite]
    split
    · next ho =>
      have hnone := h.resolve_left (not_not.mpr ho.2)
      simp only [selectingOffer, hnone, wp_pure, and_self]
    · simp
  | requesting =>
    simp only [handlePacket, selectingPacket, wp_bind, wp_get, wp_ite]
    split
    · simp at *
    · split
      · next ha =>
        have hnone : getOptionServerid packet = none := by
          by_contra hsid
          exact h.elim (fun h => h ⟨ha.2.1, ha.2.2, hsid⟩) hsid
        simp only [selectingAck, hnone, wp_pure, and_self]
      · simp
  | extending =>
    have hserver : (msgtype = DHCPACK ∨ msgtype = DHCPNAK) → validateServerid s.cs packet = false := by
      intro htype
      rw [← Bool.not_eq_true, validateServerid_iff]
      intro hsid
      rcases h with h | h
      · exact h ⟨htype, hsid⟩
      · rw [hsid] at h
        cases h
    simp only [handlePacket, extendPacket, wp_bind, wp_get, wp_ite]
    split
    · next hack => simp [hserver (.inl hack)]
    · split
      · next hnak => simp [hserver (.inr hnak)]
      · simp

/-- **Ignored packets change nothing.**  A call that returns `ANP_IGNORE` returns in the state it
was made in, and every packet the phase does not wait for is ignored. -/
theorem ignored_unchanged :
    (∀ t, handlePacket env packet msgtype srcaddr phase s = .ok .ignore t → t = s) ∧
    (¬ Awaited s.cs packet msgtype phase →
      handlePacket env packet msgtype srcaddr phase s = .ok .ignore s) := by
  have ignores := handlePacket_ignores env packet msgtype srcaddr phase s
  refine ⟨fun t ht => ?_, fun h => ignores (.inl h)⟩
  -- were it awaited with a server named, the call would have acted
  have hnot : ¬ Awaited s.cs packet msgtype phase ∨ getOptionServerid packet = none := by
    by_contra hcon
    rw [not_or, not_not] at hcon
    have hact := handlePacket_acts env packet msgtype srcaddr phase s hcon.1 hcon.2
    rw [wp_ok_iff _ _ _ _ _ _ ht] at hact
    exact hact rfl
  rw [ignores hnot] at ht
  cases ht
  rfl

end

end Ndhc
