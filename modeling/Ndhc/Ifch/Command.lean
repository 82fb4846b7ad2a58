import Mathlib.Data.List.TakeWhile
import Ndhc.Wire.Options

/-!
# Commands from ndhc to ifch

The text `ifchange_bind` builds from a DHCP packet: one `name:argument;` for each setting
that differs from the configuration packet in force.  A buffer is the list of bytes
written to it; an encoder that drops its command returns `none`.
-/

namespace Ndhc

open Bytes

/-! ## Text -/

/-- The C string at the start of `bs`. -/
def cstr (bs : List UInt8) : List UInt8 := bs.takeWhile (· ≠ 0)

theorem cstr_eq_self (bs : List UInt8) (h : 0 ∉ bs) : cstr bs = bs := by
  rw [cstr, List.takeWhile_eq_self_iff]
  intro c hc
  have : c ≠ 0 := fun h0 => h (h0 ▸ hc)
  simp [this]

theorem zero_not_mem_cstr (bs : List UInt8) : 0 ∉ cstr bs := by
  intro h
  simpa using List.mem_takeWhile_imp h

theorem length_cstr_le (bs : List UInt8) : (cstr bs).length ≤ bs.length :=
  (List.takeWhile_prefix _).length_le

/-- `%u` -/
def decimal (n : Nat) : List UInt8 := (Nat.toDigits 10 n).map fun c => c.toNat.toUInt8

/-- `%d` of a 32-bit value -/
def decimalS32 (v : Nat) : List UInt8 :=
  if v < 2 ^ 31 then decimal v else 45 :: decimal (2 ^ 32 - v)

/-- `inet_ntop(AF_INET, ...)` of four bytes -/
def inetNtop (bs : List UInt8) : List UInt8 :=
  decimal (at0 bs 0).toNat ++ 46 :: decimal (at0 bs 1).toNat ++ 46 :: decimal (at0 bs 2).toNat ++
    46 :: decimal (at0 bs 3).toNat

def INT_MAX : Nat := 2 ^ 31 - 1

/-! ## Encoders -/

def ifcmdRaw (buflen : Nat) (optname optdata : List UInt8) : Option (List UInt8) :=
  if INT_MAX < optdata.length then none
  else if buflen < optname.length + optdata.length + 3 then none
  else
    let out := optname ++ 58 :: cstr optdata ++ [59]
    if buflen ≤ out.length then none else some out

def ifcmdBytes (buflen : Nat) (optname optdata : List UInt8) : Option (List UInt8) :=
  ifcmdRaw buflen optname optdata

def ifcmdU8 (buflen : Nat) (optname optdata : List UInt8) : Option (List UInt8) :=
  if optdata.length < 1 then none else ifcmdRaw buflen optname (cstr (optdata.take 1))

def ifcmdU16 (buflen : Nat) (optname optdata : List UInt8) : Option (List UInt8) :=
  if optdata.length < 2 then none else ifcmdRaw buflen optname (decimal (be (optdata.take 2)))

def ifcmdS32 (buflen : Nat) (optname optdata : List UInt8) : Option (List UInt8) :=
  if optdata.length < 4 then none else ifcmdRaw buflen optname (decimalS32 (be (optdata.take 4)))

def ifcmdIp (buflen : Nat) (optname optdata : List UInt8) : Option (List UInt8) :=
  if optdata.length < 4 then none else ifcmdRaw buflen optname (inetNtop (optdata.take 4))

/-- The loop of `ifcmd_iplist` after the first address. -/
def iplistRest : List UInt8 → List UInt8
  | a :: b :: c :: d :: bs => 44 :: inetNtop [a, b, c, d] ++ iplistRest bs
  | _ => []

/-- Comma-joined dotted quads. -/
def iplistText (optdata : List UInt8) : List UInt8 :=
  inetNtop (optdata.take 4) ++ iplistRest (optdata.drop 4)

def ifcmdIplist (buflen : Nat) (optname optdata : List UInt8) : Option (List UInt8) :=
  if optdata.length < 4 then none else ifcmdRaw buflen optname (iplistText optdata)

def ifchdCmd (bl : Nat) (od : List UInt8) (code : UInt8) : Option (List UInt8) :=
  if code = DCODE_ROUTER then ifcmdIp bl (ascii "routr") od
  else if code = DCODE_DNS then ifcmdIplist bl (ascii "dns") od
  else if code = DCODE_LPRSVR then ifcmdIplist bl (ascii "lpr") od
  else if code = DCODE_NTPSVR then ifcmdIplist bl (ascii "ntp") od
  else if code = DCODE_WINS then ifcmdIplist bl (ascii "wins") od
  else if code = DCODE_HOSTNAME then ifcmdBytes bl (ascii "host") od
  else if code = DCODE_DOMAIN then ifcmdBytes bl (ascii "dom") od
  else if code = DCODE_TIMEZONE then ifcmdS32 bl (ascii "tzone") od
  else if code = DCODE_MTU then ifcmdU16 bl (ascii "mtu") od
  else if code = DCODE_IPTTL then ifcmdU8 bl (ascii "ipttl") od
  else none

/-! ## What a bind sends -/

/-- An address option of at least four bytes, as text, and whether it differs from the
one in force. -/
def addrOption (cfgPacket packet : DhcpMsg) (code : UInt8) : Option (List UInt8 × Bool) :=
  let optdata := getDhcpOpt packet code MAX_DOPT_SIZE
  if 4 ≤ optdata.length then
    some (inetNtop optdata, decide (optdata ≠ getDhcpOpt cfgPacket code MAX_DOPT_SIZE))
  else none

def sendClientIp (cfgPacket packet : DhcpMsg) (olen : Nat) : List UInt8 :=
  let changeIpaddr := decide (slice packet.bytes 16 4 ≠ slice cfgPacket.bytes 16 4)
  let ip := inetNtop (slice packet.bytes 16 4)
  let subnet := addrOption cfgPacket packet DCODE_SUBNET
  let bcast := addrOption cfgPacket packet DCODE_BROADCAST
  if !changeIpaddr && !(subnet.any (·.2)) && !(bcast.any (·.2)) then []
  else
    let sn := (subnet.map (·.1)).getD (ascii "255.255.255.0")
    let out := match bcast with
      | some bc => ascii "ip4:" ++ ip ++ 44 :: sn ++ 44 :: bc.1 ++ [59]
      | none => ascii "ip4:" ++ ip ++ 44 :: sn ++ [59]
    if olen ≤ out.length then [] else out

def sendCmd (cfgPacket packet : DhcpMsg) (olen : Nat) (code : UInt8) : List UInt8 :=
  let optdata := getDhcpOpt packet code MAX_DOPT_SIZE
  if optdata.length = 0 then []
  else if getDhcpOpt cfgPacket code MAX_DOPT_SIZE = optdata then []
  else (ifchdCmd olen optdata code).getD []

/-- `sizeof buf` in `ifchange_bind` -/
def bindBufSize : Nat := 2048

/-- One more command behind those already in the buffer. -/
def appendCmd (cfgPacket packet : DhcpMsg) (buf : List UInt8) (code : UInt8) : List UInt8 :=
  buf ++ sendCmd cfgPacket packet (bindBufSize - buf.length) code

/-- The options `ifchange_bind` sends after the address, in order. -/
def bindCodes : List UInt8 :=
  [DCODE_ROUTER, DCODE_DNS, DCODE_HOSTNAME, DCODE_DOMAIN, DCODE_MTU, DCODE_WINS]

/-- The buffer `ifchange_bind` writes to ifch. -/
def bindBuffer (cfgPacket packet : DhcpMsg) : List UInt8 :=
  bindCodes.foldl (appendCmd cfgPacket packet) (sendClientIp cfgPacket packet bindBufSize)

end Ndhc
