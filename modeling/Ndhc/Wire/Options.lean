import Ndhc.Wire.Layout

/-!
# DHCP options: the three walkers of options.c

Each walker goes through a field of code/length/data options, with one byte of
padding or END.  The position moves from an option at `i` to `i + 2 + length`, so a
walk is a recursion over the field with a count of bytes still to skip, and ends with
the field.  The walkers differ in how they test for the end of the field, and the
definitions keep each its own test.

`endWalk_append` and `doGetDhcpOpt_append` state what a walk depends on: once END is met
inside a prefix, the bytes after it decide nothing.
-/

namespace Ndhc

open Bytes

def DCODE_PADDING : UInt8 := 0x00
def DCODE_SUBNET : UInt8 := 0x01
def DCODE_TIMEZONE : UInt8 := 0x02
def DCODE_ROUTER : UInt8 := 0x03
def DCODE_DNS : UInt8 := 0x06
def DCODE_LPRSVR : UInt8 := 0x09
def DCODE_HOSTNAME : UInt8 := 0x0c
def DCODE_DOMAIN : UInt8 := 0x0f
def DCODE_IPTTL : UInt8 := 0x17
def DCODE_MTU : UInt8 := 0x1a
def DCODE_BROADCAST : UInt8 := 0x1c
def DCODE_NTPSVR : UInt8 := 0x2a
def DCODE_WINS : UInt8 := 0x2c
def DCODE_REQIP : UInt8 := 0x32
def DCODE_LEASET : UInt8 := 0x33
def DCODE_OVERLOAD : UInt8 := 0x34
def DCODE_MSGTYPE : UInt8 := 0x35
def DCODE_SERVER_ID : UInt8 := 0x36
def DCODE_PARAM_REQ : UInt8 := 0x37
def DCODE_MAX_SIZE : UInt8 := 0x39
def DCODE_VENDOR : UInt8 := 0x3c
def DCODE_CLIENT_ID : UInt8 := 0x3d
def DCODE_END : UInt8 := 0xff

def MAX_DOPT_SIZE : Nat := 500

/-! ## Definitions -/

/-- `do_overload_value`: OR of the one-byte OVERLOAD options before END. -/
def doOverloadValue : List UInt8 → Nat → Nat → Nat
  | [], _, overload => overload
  | _ :: bs, k + 1, overload => doOverloadValue bs k overload
  | b :: bs, 0, overload =>
    if b = DCODE_PADDING then doOverloadValue bs 0 overload
    else if b = DCODE_END then overload
    else if bs.length ≤ 1 then overload
    else if b = DCODE_OVERLOAD ∧ at0 bs 0 = 1 then
      doOverloadValue bs 2 (overload ||| (at0 bs 1).toNat)
    else doOverloadValue bs ((at0 bs 0).toNat + 1) overload

def overloadValue (m : DhcpMsg) : Nat :=
  let ol := doOverloadValue m.options 0 0
  if ol &&& 1 ≠ 0 ∧ ol &&& 2 ≠ 0 then ol
  else if ol &&& 1 ≠ 0 then ol ||| doOverloadValue m.file 0 ol
  else if ol &&& 2 ≠ 0 then ol ||| doOverloadValue m.sname 0 ol
  else ol

/-- `do_get_dhcp_opt`: appends to `dbuf` the data of the options with this code, as long
as they fit `dlen` bytes and lie inside the field. -/
def doGetDhcpOpt (code : UInt8) (dlen : Nat) : List UInt8 → Nat → List UInt8 → List UInt8
  | [], _, dbuf => dbuf
  | _ :: bs, k + 1, dbuf => doGetDhcpOpt code dlen bs k dbuf
  | b :: bs, 0, dbuf =>
    if b = DCODE_PADDING then doGetDhcpOpt code dlen bs 0 dbuf
    else if b = DCODE_END then dbuf
    else if bs.length ≤ 1 then dbuf
    else
      let soptsiz := (at0 bs 0).toNat
      if b = code then
        if dlen < soptsiz + dbuf.length then dbuf
        else if bs.length < soptsiz + 1 then dbuf
        else doGetDhcpOpt code dlen bs (soptsiz + 1) (dbuf ++ slice bs 1 soptsiz)
      else doGetDhcpOpt code dlen bs (soptsiz + 1) dbuf

def getDhcpOpt (m : DhcpMsg) (code : UInt8) (dlen : Nat) : List UInt8 :=
  let ol := overloadValue m
  let dbuf := doGetDhcpOpt code dlen m.options 0 []
  let dbuf := if ol &&& 1 ≠ 0 then doGetDhcpOpt code dlen m.file 0 dbuf else dbuf
  if ol &&& 2 ≠ 0 then doGetDhcpOpt code dlen m.sname 0 dbuf else dbuf

/-- The walk of `get_end_option_idx`, at index `i` of the field. -/
def endWalk : List UInt8 → Nat → Nat → Option Nat
  | [], _, _ => none
  | _ :: bs, k + 1, i => endWalk bs k (i + 1)
  | b :: bs, 0, i =>
    if b = DCODE_END then some i
    else if b = DCODE_PADDING then endWalk bs 0 (i + 1)
    else if bs.length = 0 then none
    else endWalk bs ((at0 bs 0).toNat + 1) (i + 1)

/-- `get_end_option_idx`; `none` for `-1`. -/
def getEndOptionIdx (m : DhcpMsg) : Option Nat := endWalk m.options 0 0

/-- An option of exactly four bytes. -/
def getOption32 (m : DhcpMsg) (code : UInt8) : Option UInt32 :=
  let buf := getDhcpOpt m code MAX_DOPT_SIZE
  if buf.length = 4 then some (word32 buf) else none

def getOptionRouter (m : DhcpMsg) : UInt32 := (getOption32 m DCODE_ROUTER).getD 0

def getOptionMsgtype (m : DhcpMsg) : UInt8 :=
  let buf := getDhcpOpt m DCODE_MSGTYPE MAX_DOPT_SIZE
  if buf.length = 1 then at0 buf 0 else 0

/-- `get_option_serverid`; `none` where `*found` is set to `0`. -/
def getOptionServerid (m : DhcpMsg) : Option UInt32 := getOption32 m DCODE_SERVER_ID

def getOptionLeasetime (m : DhcpMsg) : UInt32 := (getOption32 m DCODE_LEASET).getD 0

def getOptionClientid (m : DhcpMsg) (clen : Nat) : List UInt8 :=
  if clen < 1 then [] else getDhcpOpt m DCODE_CLIENT_ID clen

/-! ## A walk that meets END -/

/-- A walk that meets END has not skipped past the field, and meets it inside. -/
theorem endWalk_bounds (bs : List UInt8) (k i e : Nat) (h : endWalk bs k i = some e) :
    k < bs.length ∧ i + k ≤ e ∧ e < i + bs.length := by
  induction bs generalizing k i with
  | nil => simp [endWalk] at h
  | cons b bs ih =>
    simp only [List.length_cons]
    cases k with
    | succ k =>
      simp only [endWalk] at h
      have := ih k (i + 1) h
      omega
    | zero =>
      simp only [endWalk] at h
      split at h
      · simp at h; omega
      · split at h
        · have := ih _ _ h; omega
        · split at h
          · cases h
          · have := ih _ _ h; omega

/-- END met inside a prefix is met there whatever follows. -/
theorem endWalk_append (bs post : List UInt8) (k i e : Nat) (h : endWalk bs k i = some e) :
    endWalk (bs ++ post) k i = some e := by
  induction bs generalizing k i with
  | nil => simp [endWalk] at h
  | cons b bs ih =>
    cases k with
    | succ k => exact ih k (i + 1) h
    | zero =>
      simp only [List.cons_append, endWalk] at h ⊢
      split at h
      · next hb => rw [if_pos hb]; exact h
      · next hb =>
        rw [if_neg hb]
        split at h
        · next hp => rw [if_pos hp]; exact ih _ _ h
        · next hp =>
          rw [if_neg hp]
          split at h
          · cases h
          · next hl =>
            have hpos : 0 < bs.length := by omega
            rw [if_neg (by simp only [List.length_append]; omega), at0_append_left _ _ _ hpos]
            exact ih _ _ h

section
variable (bs post post' : List UInt8) (hl : post.length = post'.length)
include hl

theorem doOverloadValue_append (k i e ol : Nat) (h : endWalk bs k i = some e) :
    doOverloadValue (bs ++ post) k ol = doOverloadValue (bs ++ post') k ol := by
  induction bs generalizing k i ol with
  | nil => simp [endWalk] at h
  | cons b bs ih =>
    cases k with
    | succ k => exact ih k (i + 1) ol h
    | zero =>
      have hlen : (bs ++ post').length = (bs ++ post).length := by simp [hl]
      simp only [List.cons_append, endWalk, doOverloadValue, hlen] at h ⊢
      split at h
      · next hb => simp [hb, DCODE_END, DCODE_PADDING]
      · next hb =>
        split at h
        · next hp => simp only [hp, if_true]; exact ih _ _ _ h
        · next hp =>
          simp only [if_neg hp, if_neg hb]
          split at h
          · cases h
          · next hne =>
            -- the option's length byte and its data lie before END
            have hk := (endWalk_bounds _ _ _ _ h).1
            have h0 := at0_append_left bs post 0 (by omega)
            have h0' := at0_append_left bs post' 0 (by omega)
            rw [h0, h0']
            split
            · rfl
            · split
              · next hov =>
                have h1 := at0_append_left bs post 1 (by rw [hov.2] at hk; exact Nat.lt_of_succ_lt hk)
                have h1' := at0_append_left bs post' 1 (by rw [hov.2] at hk; exact Nat.lt_of_succ_lt hk)
                rw [h1, h1']
                rw [hov.2] at h
                exact ih 2 (i + 1) _ h
              · exact ih _ _ _ h

theorem doGetDhcpOpt_append (code : UInt8) (dlen k i e : Nat) (dbuf : List UInt8)
    (h : endWalk bs k i = some e) :
    doGetDhcpOpt code dlen (bs ++ post) k dbuf = doGetDhcpOpt code dlen (bs ++ post') k dbuf := by
  induction bs generalizing k i dbuf with
  | nil => simp [endWalk] at h
  | cons b bs ih =>
    cases k with
    | succ k => exact ih k (i + 1) dbuf h
    | zero =>
      have hlen : (bs ++ post').length = (bs ++ post).length := by simp [hl]
      simp only [List.cons_append, endWalk, doGetDhcpOpt, hlen] at h ⊢
      split at h
      · next hb => simp [hb, DCODE_END, DCODE_PADDING]
      · next hb =>
        split at h
        · next hp => simp only [hp, if_true]; exact ih _ _ _ h
        · next hp =>
          simp only [if_neg hp, if_neg hb]
          split at h
          · cases h
          · next hne =>
            have hk := (endWalk_bounds _ _ _ _ h).1
            have h0 := at0_append_left bs post 0 (by omega)
            have h0' := at0_append_left bs post' 0 (by omega)
            rw [h0, h0', slice_append_left bs post _ _ (by omega),
              slice_append_left bs post' _ _ (by omega)]
            split
            · rfl
            · split
              · split
                · rfl
                · split
                  · rfl
                  · exact ih _ _ _ h
              · exact ih _ _ _ h

end

end Ndhc
