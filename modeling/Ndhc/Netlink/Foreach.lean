import Ndhc.Lib.Records

/-!
# Messages and attributes in a buffer

`nl_foreach_nlmsg` walks over the messages of a received buffer and `nl_rtattr_parse` over the
attributes of one, with the kernel's macros and the bytes left in a `size_t`.  A last message or
attribute whose length is no multiple of four, and a message too short for the header its callback
passes, make that count wrap around.  `netlink_inside_iff` says when both loops end inside of the
buffer all the same: no message does so, and behind such an attribute or header the bytes of the
buffer, read as attributes, come to one shorter than its header.
-/

namespace Ndhc

open Records

/-! ## Headers -/

def le16 (mem : Nat → UInt8) (p : Nat) : Nat := (mem p).toNat + 2 ^ 8 * (mem (p + 1)).toNat

def le32 (mem : Nat → UInt8) (p : Nat) : Nat := le16 mem p + 2 ^ 16 * le16 mem (p + 2)

theorem le16_lt (mem : Nat → UInt8) (p : Nat) : le16 mem p < 2 ^ 16 := by
  have h := (mem p).toNat_lt
  have h' := (mem (p + 1)).toNat_lt
  unfold le16
  omega

theorem le32_lt (mem : Nat → UInt8) (p : Nat) : le32 mem p < 2 ^ 32 := by
  have h := le16_lt mem p
  have h' := le16_lt mem (p + 2)
  unfold le32
  omega

/-- `NLMSG_HDRLEN` -/
def NLMSG_HDRLEN : Nat := 16

def NLMSG_ERROR : Nat := 2
def NLMSG_DONE : Nat := 3
def NLMSG_MIN_TYPE : Nat := 16

def RTM_NEWLINK : Nat := 16

/-- `NLMSG_ALIGN` and `RTA_ALIGN` where the sum does not overflow. -/
def nlAlign (len : Nat) : Nat := (len + 3) / 4 * 4

section
variable (mem : Nat → UInt8)

def nlmsgLen (p : Nat) : Nat := le32 mem p
def nlmsgType (p : Nat) : Nat := le16 mem (p + 4)
def nlmsgSeq (p : Nat) : Nat := le32 mem (p + 8)
def nlmsgPid (p : Nat) : Nat := le32 mem (p + 12)

def rtaLen (p : Nat) : Nat := le16 mem p
def rtaType (p : Nat) : Nat := le16 mem (p + 2)

/-! ## The loops -/

/-- What `pfn` passes to `nl_rtattr_parse`: the size of the header behind a message of a type, if it
parses it, and a function that is given the types of the attributes. -/
structure NlCallback where
  header : Nat → Option Nat
  workfn : Nat → Int
  -- the size of a `struct`
  small : ∀ type offset, header type = some offset → offset < 2 ^ 31

variable (seq portid : Nat)

/-- The messages that `nl_foreach_nlmsg` only skips. -/
def nlSkipped (p : Nat) : Bool :=
  (nlmsgPid mem p != 0 && portid != 0 && nlmsgPid mem p != portid) || (seq != 0 && nlmsgSeq mem p != seq)

/-- The messages given to `pfn`. -/
def nlHanded (p : Nat) : Bool := !nlSkipped mem seq portid p && decide (NLMSG_MIN_TYPE ≤ nlmsgType mem p)

/-- `nl_foreach_nlmsg`; `nlmsg_len` is rounded in 32 bits. -/
def nlMessages : Layout where
  hdr := NLMSG_HDRLEN
  len := nlmsgLen mem
  skip p := (nlmsgLen mem p + 3) % 2 ^ 32 / 4 * 4
  stop p := !nlSkipped mem seq portid p && (nlmsgType mem p == NLMSG_ERROR || nlmsgType mem p == NLMSG_DONE)

variable (cb : NlCallback)

/-- `nl_rtattr_parse` -/
def rtAttributes : Layout where
  hdr := 4
  len := rtaLen mem
  skip p := nlAlign (rtaLen mem p)
  stop p := decide (cb.workfn (rtaType mem p) < 0)

/-- `attr` and `rtlen` before its loop. -/
def attrStart (offset p : Nat) : Cursor :=
  ⟨p + NLMSG_HDRLEN + nlAlign offset,
    (2 ^ 64 + (2 ^ 32 + nlmsgLen mem p - NLMSG_HDRLEN) % 2 ^ 32 - nlAlign offset) % 2 ^ 64⟩

/-! ## Statement -/

variable (blen : Nat)

/-- A message of the buffer that the callback parses with a header of this size. -/
def Parsed (p offset : Nat) : Prop :=
  ∃ k c, steps 64 (nlMessages mem seq portid) k ⟨0, blen⟩ = some c ∧ ok (nlMessages mem seq portid) c ∧
    c.pos = p ∧ nlHanded mem seq portid p = true ∧ cb.header (nlmsgType mem p) = some offset

/-- Both loops end after at most `blen` steps, and every header they look at and every message and
attribute they visit lies in the buffer. -/
structure ParsesInside : Prop where
  messages : Inside 64 (nlMessages mem seq portid) blen ⟨0, blen⟩
  messagesEnd : EndsBy 64 (nlMessages mem seq portid) blen ⟨0, blen⟩
  attributes : ∀ p offset, Parsed mem seq portid cb blen p offset →
    Inside 64 (rtAttributes mem cb) blen (attrStart mem offset p)
  attributesEnd : ∀ p offset, Parsed mem seq portid cb blen p offset →
    EndsBy 64 (rtAttributes mem cb) blen (attrStart mem offset p)

/-- The attributes of a message fit into what its header leaves of it; where that is not even there
they have to stop by themselves. -/
def AttributesFit (p offset : Nat) : Prop :=
  if NLMSG_HDRLEN + nlAlign offset ≤ nlmsgLen mem p then
    Fits (rtAttributes mem cb) blen (p + NLMSG_HDRLEN + nlAlign offset)
      (nlmsgLen mem p - NLMSG_HDRLEN - nlAlign offset)
  else Stray (rtAttributes mem cb) blen (p + NLMSG_HDRLEN + nlAlign offset)

end

/-! ## Proof -/

section
variable (mem : Nat → UInt8) (seq portid : Nat) (cb : NlCallback) (blen : Nat)

theorem nlAlign_lt (len : Nat) : nlAlign len < len + 4 := by
  unfold nlAlign
  omega

theorem nlMessages_len_le (p : Nat) : (nlMessages mem seq portid).len p ≤ 2 ^ 32 :=
  Nat.le_of_lt (le32_lt mem p)

theorem nlMessages_skip_le (p : Nat) : (nlMessages mem seq portid).skip p ≤ 2 ^ 32 := by
  show (nlmsgLen mem p + 3) % 2 ^ 32 / 4 * 4 ≤ 2 ^ 32
  omega

theorem rtAttributes_len_le (p : Nat) : (rtAttributes mem cb).len p ≤ 2 ^ 32 := by
  have h := le16_lt mem p
  show le16 mem p ≤ 2 ^ 32
  omega

theorem rtAttributes_skip_le (p : Nat) : (rtAttributes mem cb).skip p ≤ 2 ^ 32 := by
  have h := le16_lt mem p
  have h' := nlAlign_lt (le16 mem p)
  show nlAlign (le16 mem p) ≤ 2 ^ 32
  omega

/-- Where the attributes of a message begin, and what is left for them. -/
theorem attrStart_left (offset p : Nat) (hp : NLMSG_HDRLEN ≤ nlmsgLen mem p) (hoff : offset < 2 ^ 31) :
    (attrStart mem offset p).left =
      if NLMSG_HDRLEN + nlAlign offset ≤ nlmsgLen mem p then nlmsgLen mem p - NLMSG_HDRLEN - nlAlign offset
      else 2 ^ 64 + nlmsgLen mem p - NLMSG_HDRLEN - nlAlign offset := by
  have hlt := le32_lt mem p
  have halign := nlAlign_lt offset
  by_cases hfit : NLMSG_HDRLEN + nlAlign offset ≤ nlmsgLen mem p
  · rw [if_pos hfit]
    simp only [attrStart, nlmsgLen, NLMSG_HDRLEN] at *
    omega
  · rw [if_neg hfit]
    simp only [attrStart, nlmsgLen, NLMSG_HDRLEN] at *
    omega

/-- The attributes of one message. -/
theorem attributes_inside_iff (hblen : blen < 2 ^ 63) (offset p : Nat) (hoff : offset < 2 ^ 31)
    (hp : NLMSG_HDRLEN ≤ nlmsgLen mem p) (hin : p + nlmsgLen mem p ≤ blen) :
    (Inside 64 (rtAttributes mem cb) blen (attrStart mem offset p) ∧
        EndsBy 64 (rtAttributes mem cb) blen (attrStart mem offset p)) ↔
      AttributesFit mem cb blen p offset := by
  have hleft := attrStart_left mem offset p hp hoff
  have hpos : (attrStart mem offset p).pos = p + NLMSG_HDRLEN + nlAlign offset := rfl
  have halign := nlAlign_lt offset
  have hword : blen + 2 ^ 32 + 2 ^ 32 + (rtAttributes mem cb).hdr ≤ 2 ^ 64 := by
    show blen + 2 ^ 32 + 2 ^ 32 + 4 ≤ 2 ^ 64
    omega
  unfold AttributesFit
  by_cases hfit : NLMSG_HDRLEN + nlAlign offset ≤ nlmsgLen mem p
  · rw [if_pos hfit] at hleft ⊢
    rw [← hpos, ← hleft]
    exact inside_iff_fits (rtAttributes_len_le mem cb) (rtAttributes_skip_le mem cb) hword (Nat.succ_pos 3) _
      (by omega)
  · rw [if_neg hfit] at hleft ⊢
    have hlt := le32_lt mem p
    simp only [NLMSG_HDRLEN, nlmsgLen] at *
    rw [← hpos]
    exact inside_iff_stray (rtAttributes_len_le mem cb) (rtAttributes_skip_le mem cb) hword _ (by omega) (by omega)
      (by omega)

/-- **Both loops stay inside exactly if messages and attributes fit.** -/
theorem netlink_inside_iff (hblen : blen < 2 ^ 63) :
    ParsesInside mem seq portid cb blen ↔
      Fits (nlMessages mem seq portid) blen 0 blen ∧
        ∀ p offset, Parsed mem seq portid cb blen p offset → AttributesFit mem cb blen p offset := by
  have hword : blen + 2 ^ 32 + 2 ^ 32 + (nlMessages mem seq portid).hdr ≤ 2 ^ 64 := by
    show blen + 2 ^ 32 + 2 ^ 32 + 16 ≤ 2 ^ 64
    omega
  have hmessages := inside_iff_fits (nlMessages_len_le mem seq portid) (nlMessages_skip_le mem seq portid) hword
    (Nat.succ_pos 15) ⟨0, blen⟩ (Nat.le_of_eq (Nat.zero_add blen))
  -- a parsed message lies in the buffer, whichever side says so
  have hparsed : Inside 64 (nlMessages mem seq portid) blen ⟨0, blen⟩ → ∀ p offset,
      Parsed mem seq portid cb blen p offset →
      offset < 2 ^ 31 ∧ NLMSG_HDRLEN ≤ nlmsgLen mem p ∧ p + nlmsgLen mem p ≤ blen := by
    rintro hin p offset ⟨k, c, hrun, hok, rfl, -, hoff⟩
    exact ⟨cb.small _ _ hoff, hok.2.1, (hin k c hrun).2 hok⟩
  constructor
  · intro h
    refine ⟨hmessages.mp ⟨h.messages, h.messagesEnd⟩, ?_⟩
    intro p offset hp
    obtain ⟨hoff, hlen, hin⟩ := hparsed h.messages p offset hp
    exact (attributes_inside_iff mem cb blen hblen offset p hoff hlen hin).mp
      ⟨h.attributes p offset hp, h.attributesEnd p offset hp⟩
  · rintro ⟨hfits, hattrs⟩
    obtain ⟨hin, hend⟩ := hmessages.mpr hfits
    have hboth : ∀ p offset, Parsed mem seq portid cb blen p offset →
        Inside 64 (rtAttributes mem cb) blen (attrStart mem offset p) ∧
          EndsBy 64 (rtAttributes mem cb) blen (attrStart mem offset p) := by
      intro p offset hp
      obtain ⟨hoff, hlen, hle⟩ := hparsed hin p offset hp
      exact (attributes_inside_iff mem cb blen hblen offset p hoff hlen hle).mpr (hattrs p offset hp)
    exact ⟨hin, hend, fun p offset hp => (hboth p offset hp).1, fun p offset hp => (hboth p offset hp).2⟩

end

/-! ## The callbacks -/

/-- What `rtattr_assign` returns. -/
def rtattrAssign (_type : Nat) : Int := 0

/-- `ipbcpfx_clear_others_do` parses every message behind a `struct ifaddrmsg`. -/
def clearOthersCallback : NlCallback where
  header _ := some 8
  workfn := rtattrAssign
  small := by
    rintro type offset ⟨⟩
    decide

/-- `do_handle_getifdata` parses those about links behind a `struct ifinfomsg`. -/
def getifdataCallback : NlCallback where
  header type := if type = RTM_NEWLINK then some 16 else none
  workfn := rtattrAssign
  small := by
    intro type offset h
    split at h
    · cases h
      decide
    · cases h

/-! ## Two buffers -/

/-- Memory that begins with these bytes. -/
def memOf (bs : List UInt8) : Nat → UInt8 := fun i => bs.getD i 0

/-- The header of a message about an address, the answer to request 1. -/
def addrHeader (len : UInt8) : List UInt8 := [len, 0, 0, 0, 20, 0, 0, 0, 1, 0, 0, 0, 0, 0, 0, 0]

/-- A message of a header and a `struct ifaddrmsg`. -/
def wholeMessage : Nat → UInt8 := memOf (addrHeader 24 ++ List.replicate 8 0)

theorem wholeMessage_inside :
    ParsesInside wholeMessage 1 0 clearOthersCallback 24 := by
  refine (netlink_inside_iff wholeMessage 1 0 clearOthersCallback 24 (by decide)).mpr ⟨?_, ?_⟩
  · refine Fits.next 0 24 (by decide) (by decide) (by decide) (by decide) ?_
    exact Fits.done 24 0 fun hok => absurd hok (by decide)
  · rintro p offset ⟨k, c, hrun, hok, rfl, -, hoff⟩
    obtain rfl : 8 = offset := Option.some.inj hoff
    -- the loop is at the message or behind it
    rcases k with _ | _ | k
    · obtain rfl := Option.some.inj hrun
      rw [AttributesFit, if_pos (by decide)]
      exact Fits.done 24 0 fun hok => absurd hok (by decide)
    · obtain rfl := Option.some.inj hrun
      exact absurd hok (by decide)
    · cases hrun

/-- A message of 25 bytes, and what happens to stand in memory behind it. -/
def unalignedMessage : Nat → UInt8 := memOf (addrHeader 25 ++ List.replicate 12 0 ++ addrHeader 16)

/-- The loop goes on to a message at 28, behind the 25 bytes received. -/
theorem unaligned_message_leaves :
    ∃ c, steps 64 (nlMessages unalignedMessage 1 0) 1 ⟨0, 25⟩ = some c ∧
      ok (nlMessages unalignedMessage 1 0) c ∧ nlHanded unalignedMessage 1 0 c.pos = true ∧ 25 < c.pos := by
  exact ⟨⟨28, 2 ^ 64 - 3⟩, by rfl, by decide, by decide, by decide⟩

end Ndhc
