import Ndhc.Client.Arp
import Ndhc.Lib.Tlv
import Ndhc.Wire.Build

/-!
# The messages the client sends

The six functions of dhcp.c that build a message and hand it to a socket.  The additions of
options report a failure that none of the six looks at, so that a message is complete is a matter
of space: the options of the longest one take 223 bytes of a field of 308.  `messages_complete`
says it for every message: each addition succeeds, the options read back are those meant and no
others (`Sent.intended`), and what goes out ends with the END marker.
-/

namespace Ndhc

open Bytes Tlv

/-! ## Definitions -/

def strlen (field : List UInt8) : Nat := (cstr field).length

/-- `client_config` as the senders read it: `clientid` of at most 64 bytes, `hostname` and
`vendor` terminated. -/
structure SenderConfig extends ClientConfig where
  hostname : List UInt8
  vendor : List UInt8
  clientid_size : clientid.length = 64
  clientidLen_le : clientidLen ≤ 64
  hostname_size : hostname.length = 64
  hostname_nul : 0 ∈ hostname
  vendor_size : vendor.length = 64
  vendor_nul : 0 ∈ vendor

/-- A message that is being built, and what the additions to it returned. -/
structure Draft where
  msg : DhcpMsg
  returned : List Nat

namespace Draft

def start (xid : UInt32) : Draft := ⟨emptyPacket xid, []⟩

def add (p : Draft) (call : OptionCall) : Draft :=
  ⟨(call.apply p.msg).1, p.returned ++ [(call.apply p.msg).2]⟩

/-- Bytes stored in the header. -/
def store (p : Draft) (off : Nat) (src : List UInt8) : Draft :=
  { p with msg := ⟨poke p.msg.bytes off src, by rw [length_poke, p.msg.size_eq]⟩ }

end Draft

theorem msgtype_ne_padding : DCODE_MSGTYPE ≠ DCODE_PADDING := by decide

theorem msgtype_ne_end : DCODE_MSGTYPE ≠ DCODE_END := by decide

theorem serverid_ne_padding : DCODE_SERVER_ID ≠ DCODE_PADDING := by decide

theorem serverid_ne_end : DCODE_SERVER_ID ≠ DCODE_END := by decide

def OptionCode.msgtype : OptionCode := ⟨DCODE_MSGTYPE, msgtype_ne_padding, msgtype_ne_end⟩

def OptionCode.serverid : OptionCode := ⟨DCODE_SERVER_ID, serverid_ne_padding, serverid_ne_end⟩

def reqdata : List UInt8 :=
  [DCODE_SUBNET, DCODE_ROUTER, DCODE_DNS, DCODE_HOSTNAME, DCODE_DOMAIN, DCODE_BROADCAST]

section
variable (p : Draft)

def addOptionRequestList : Draft := p.add (.string ⟨DCODE_PARAM_REQ, by decide, by decide⟩ reqdata)

def addOptionMsgtype (type : UInt8) : Draft := p.add (.u8 .msgtype type)

def addOptionReqip (ip : UInt32) : Draft := p.add (.u32 ⟨DCODE_REQIP, by decide, by decide⟩ ip)

def addOptionServerid (sid : UInt32) : Draft := p.add (.u32 .serverid sid)

def addOptionClientid (clientid : List UInt8) (clen : Nat) : Draft :=
  p.add (.string ⟨DCODE_CLIENT_ID, by decide, by decide⟩ (clientid.take clen))

def addOptionMaxsize : Draft := p.add (.u16 ⟨DCODE_MAX_SIZE, by decide, by decide⟩ iudpSize.toUInt16)

def addOptionVendor (vendor : List UInt8) (vsize : Nat) : Draft :=
  if vsize ≠ 0 then p.add (.string ⟨DCODE_VENDOR, by decide, by decide⟩ (vendor.take vsize)) else p

def addOptionHostname (hostname : List UInt8) (hsize : Nat) : Draft :=
  if hsize ≠ 0 then p.add (.string ⟨DCODE_HOSTNAME, by decide, by decide⟩ (hostname.take hsize)) else p

end

section
variable (cfg : SenderConfig) (cs : ClientState)

def addOptionsVendorHostname (p : Draft) : Draft :=
  let vlen := strlen cfg.vendor
  let hlen := strlen cfg.hostname
  let p := if vlen ≠ 0 then addOptionVendor p cfg.vendor vlen else addOptionVendor p (ascii "ndhc") 4
  addOptionHostname p cfg.hostname hlen

/-- `init_packet` on a packet with its `xid` set. -/
def initPacket (xid : UInt32) (type : UInt8) : Draft :=
  let p := addOptionMsgtype (Draft.start xid) type
  let p := p.store 28 cfg.arp.bytes
  addOptionClientid p cfg.clientid cfg.clientidLen

/-- `packet.ciaddr = cs->clientAddr` -/
def setCiaddr (p : Draft) : Draft := p.store 12 (htonl cs.clientAddr)

def discoverMsg : Draft :=
  let p := initPacket cfg cs.xid DHCPDISCOVER
  let p := if cs.clientAddr ≠ 0 then addOptionReqip p cs.clientAddr else p
  let p := addOptionMaxsize p
  let p := addOptionRequestList p
  addOptionsVendorHostname cfg p

def selectingMsg : Draft :=
  let p := initPacket cfg cs.xid DHCPREQUEST
  let p := addOptionReqip p cs.clientAddr
  let p := addOptionServerid p cs.serverAddr
  let p := addOptionMaxsize p
  let p := addOptionRequestList p
  addOptionsVendorHostname cfg p

def renewMsg : Draft :=
  let p := initPacket cfg cs.xid DHCPREQUEST
  let p := setCiaddr cs p
  let p := addOptionMaxsize p
  let p := addOptionRequestList p
  addOptionsVendorHostname cfg p

def rebindMsg : Draft :=
  let p := initPacket cfg cs.xid DHCPREQUEST
  let p := setCiaddr cs p
  let p := addOptionReqip p cs.clientAddr
  let p := addOptionMaxsize p
  let p := addOptionRequestList p
  addOptionsVendorHostname cfg p

def declineMsg (server : UInt32) : Draft :=
  let p := initPacket cfg cs.xid DHCPDECLINE
  let p := addOptionReqip p cs.clientAddr
  addOptionServerid p server

/-- The transaction of a release is a random number of its own. -/
def releaseMsg (xid : UInt32) : Draft :=
  let p := initPacket cfg xid DHCPRELEASE
  let p := setCiaddr cs p
  let p := addOptionReqip p cs.clientAddr
  addOptionServerid p cs.serverAddr

end

/-- The bytes of the options field that are sent; `none` where nothing is. -/
def endLength (m : DhcpMsg) : Option Nat :=
  match getEndOptionIdx m with
  | none => none
  | some endloc =>
    let el := endloc + 1
    if optionsSize < el then none else some el

/-- What `send_dhcp_unicast` writes. -/
def unicastPayload (m : DhcpMsg) : Option (List UInt8) :=
  (endLength m).map fun el => m.bytes.take (dhcpmsgSize - (optionsSize - el))

/-- What `send_dhcp_raw` sends behind the headers of IP and UDP. -/
def rawDatagram (headers : List UInt8) (m : DhcpMsg) : Option (List UInt8) :=
  (endLength m).map fun el => (headers ++ m.bytes).take (iudpSize - (optionsSize - el))

/-! ## What a message is meant to say -/

/-- A message: which of the six functions, with what it takes beside the client's state. -/
inductive Message where
  | discover
  | selecting
  | renew
  | rebind
  | decline (server : UInt32)
  | release (xid : UInt32)

namespace Message

def packet (cfg : SenderConfig) (cs : ClientState) : Message → Draft
  | discover => discoverMsg cfg cs
  | selecting => selectingMsg cfg cs
  | renew => renewMsg cfg cs
  | rebind => rebindMsg cfg cs
  | decline server => declineMsg cfg cs server
  | release xid => releaseMsg cfg cs xid

def sent (cs : ClientState) : Message → Sent
  | discover => ⟨DHCPDISCOVER, cs.xid, 0, if cs.clientAddr ≠ 0 then some cs.clientAddr else none, none⟩
  | selecting => ⟨DHCPREQUEST, cs.xid, 0, some cs.clientAddr, some cs.serverAddr⟩
  | renew => ⟨DHCPREQUEST, cs.xid, cs.clientAddr, none, none⟩
  | rebind => ⟨DHCPREQUEST, cs.xid, cs.clientAddr, some cs.clientAddr, none⟩
  | decline server => ⟨DHCPDECLINE, cs.xid, 0, some cs.clientAddr, some server⟩
  | release xid => ⟨DHCPRELEASE, xid, cs.clientAddr, some cs.clientAddr, some cs.serverAddr⟩

/-- The send of the client's model. -/
def send (env : Env) (site : Site) : Message → M Int
  | discover => sendDiscover env site
  | selecting => sendSelecting env site
  | renew => sendRenew env site
  | rebind => sendRebind env site
  | decline server => sendDecline env site server
  | release _ => sendRelease env site

end Message

/-- Requests say what the client would like to know, and what it is. -/
def Sent.asks (m : Sent) : Bool := m.msgtype == DHCPDISCOVER || m.msgtype == DHCPREQUEST

/-- The vendor sent, our own name where none is configured. -/
def vendorText (cfg : SenderConfig) : List UInt8 := if cstr cfg.vendor = [] then ascii "ndhc" else cstr cfg.vendor

/-- The options of a message with the values they are meant to have, empty where it has none. -/
def Sent.entries (cfg : SenderConfig) (m : Sent) : List (UInt8 × List UInt8) :=
  [(DCODE_MSGTYPE, [m.msgtype]),
   (DCODE_CLIENT_ID, cfg.clientid.take cfg.clientidLen),
   (DCODE_REQIP, m.reqip.elim [] htonl),
   (DCODE_SERVER_ID, m.serverid.elim [] htonl),
   (DCODE_MAX_SIZE, if m.asks then htons iudpSize else []),
   (DCODE_PARAM_REQ, if m.asks then reqdata else []),
   (DCODE_VENDOR, if m.asks then vendorText cfg else []),
   (DCODE_HOSTNAME, if m.asks then cstr cfg.hostname else [])]

def Sent.intended (cfg : SenderConfig) (m : Sent) (code : UInt8) : List UInt8 :=
  ((m.entries cfg).lookup code).getD []

/-- The draft is the whole message: no addition failed, header and options are those meant, and
what is sent ends with END. -/
structure Complete (cfg : SenderConfig) (p : Draft) (m : Sent) : Prop where
  returned : ∀ r ∈ p.returned, r ≠ 0
  xid : slice p.msg.bytes 4 4 = htonl m.xid
  ciaddr : slice p.msg.bytes 12 4 = htonl m.ciaddr
  chaddr : slice p.msg.bytes 28 6 = cfg.arp.bytes
  options : ∀ code, getDhcpOpt p.msg code MAX_DOPT_SIZE = m.intended cfg code
  sent : ∃ e, p.msg.options[e]? = some DCODE_END ∧
    unicastPayload p.msg = some (p.msg.bytes.take (optionsOffset + (e + 1))) ∧
    ∀ headers, headers.length = iphdrSize + udphdrSize →
      rawDatagram headers p.msg = some (headers ++ p.msg.bytes.take (optionsOffset + (e + 1)))

/-! ## Stores in the header -/

section
variable (field : List UInt8) (i : Nat) (src : List UInt8) (h : i + src.length ≤ field.length) (off len : Nat)
include h

theorem slice_poke_left (hle : off + len ≤ i) : slice (poke field i src) off len = slice field off len := by
  have hlen : (field.take i).length = i := by
    rw [List.length_take]
    omega
  unfold poke
  rw [List.append_assoc, slice_append_left _ _ _ _ (by omega)]
  conv => rhs; rw [← List.take_append_drop i field]
  rw [slice_append_left _ _ _ _ (by omega)]

theorem slice_poke_right (hle : i + src.length ≤ off) : slice (poke field i src) off len = slice field off len := by
  have hlen : (field.take i ++ src.take (field.length - i)).length = i + src.length := by
    rw [List.length_append, List.length_take, List.length_take]
    omega
  obtain ⟨k, rfl⟩ := Nat.exists_eq_add_of_le hle
  unfold poke
  rw [slice_append_right _ _ _ _ _ hlen]
  unfold slice
  rw [List.drop_drop]

omit off len in
theorem slice_poke_self : slice (poke field i src) i src.length = src := by
  have hlen : (field.take i).length = i := by
    rw [List.length_take]
    omega
  have hsrc : src.take (field.length - i) = src := List.take_of_length_le (by omega)
  have hright := slice_append_right (field.take i) (src ++ field.drop (i + src.length)) i 0 src.length hlen
  unfold poke
  rw [List.append_assoc, hsrc]
  exact hright.trans (slice_append_self _ _ _ rfl)

end

/-! ## Strings -/

theorem take_strlen (field : List UInt8) : field.take (strlen field) = cstr field :=
  (List.prefix_iff_eq_take.mp (List.takeWhile_prefix _)).symm

theorem strlen_lt (field : List UInt8) (h : 0 ∈ field) : strlen field < field.length := by
  refine Nat.lt_of_le_of_ne (List.takeWhile_prefix _).length_le fun heq => ?_
  have hall : cstr field = field := (List.takeWhile_prefix _).eq_of_length heq
  rw [← hall] at h
  exact zero_not_mem_cstr field h

theorem strlen_ne_zero (field : List UInt8) : strlen field ≠ 0 ↔ cstr field ≠ [] := by
  simp [strlen]

/-! ## The calls of a message -/

section
variable (cfg : SenderConfig)

/-- The calls of `init_packet`. -/
def initCalls (type : UInt8) : List OptionCall :=
  [.u8 .msgtype type,
    .string ⟨DCODE_CLIENT_ID, by decide, by decide⟩ (cfg.clientid.take cfg.clientidLen)]

def hostnameCalls : List OptionCall :=
  if cstr cfg.hostname = [] then [] else [.string ⟨DCODE_HOSTNAME, by decide, by decide⟩ (cstr cfg.hostname)]

/-- What all requests end with. -/
def askCalls : List OptionCall :=
  [.u16 ⟨DCODE_MAX_SIZE, by decide, by decide⟩ iudpSize.toUInt16,
    .string ⟨DCODE_PARAM_REQ, by decide, by decide⟩ reqdata,
    .string ⟨DCODE_VENDOR, by decide, by decide⟩ (vendorText cfg)] ++ hostnameCalls cfg

/-- The calls a message is made of. -/
def Sent.calls (m : Sent) : List OptionCall :=
  initCalls cfg m.msgtype ++
    m.reqip.toList.map (fun ip => .u32 ⟨DCODE_REQIP, by decide, by decide⟩ ip) ++
    m.serverid.toList.map (fun sid => .u32 .serverid sid) ++
    if m.asks then askCalls cfg else []

end

/-! ## Drafts -/

/-- A draft with these header fields and options, of at most `n` bytes. -/
structure Drafts (p : Draft) (xid ciaddr : UInt32) (mac : List UInt8) (calls : List OptionCall) (n : Nat) :
    Prop where
  holds : Holds p.msg calls
  returned : ∀ r ∈ p.returned, r ≠ 0
  xid_eq : slice p.msg.bytes 4 4 = htonl xid
  ciaddr_eq : slice p.msg.bytes 12 4 = htonl ciaddr
  mac_eq : slice p.msg.bytes 28 6 = mac
  size : (calls.flatMap OptionCall.encode).length ≤ n

theorem Drafts.start (xid : UInt32) : Drafts (Draft.start xid) xid 0 [0, 0, 0, 0, 0, 0] [] 0 where
  holds := ⟨(blank_emptyPacket xid).options, nofun, (blank_emptyPacket xid).file, (blank_emptyPacket xid).sname⟩
  returned := nofun
  xid_eq := rfl
  ciaddr_eq := rfl
  mac_eq := rfl
  size := Nat.le_refl _

/-- Additions leave the header alone. -/
theorem OptionCall.apply_slice (call : OptionCall) (m : DhcpMsg) (off len : Nat) (h : off + len ≤ optionsOffset) :
    slice (call.apply m).1.bytes off len = slice m.bytes off len := by
  rw [call.apply_eq m]
  split
  · rfl
  · split
    · rfl
    · split
      · rfl
      · exact m.withOptions_slice _ (by rw [length_poke, m.length_options]) off len h

section
variable {p : Draft} {xid ciaddr : UInt32} {mac : List UInt8} {calls : List OptionCall} {n : Nat}
  (h : Drafts p xid ciaddr mac calls n)
include h

/-- An option for which there is room is added. -/
theorem Drafts.add (call : OptionCall) (k : Nat) (hk : call.data.length + 2 ≤ k) (hmax : k ≤ 257)
    (hroom : n + k < optionsSize) : Drafts (p.add call) xid ciaddr mac (calls ++ [call]) (n + k) := by
  have hsize := h.size
  have hadded : (call.apply p.msg).2 ≠ 0 ∧ Holds (call.apply p.msg).1 (calls ++ [call]) := by
    rcases h.holds.apply call p.msg calls with hadded | hrefused
    · exact hadded
    · rw [call.apply_eq p.msg, h.holds.getEndOptionIdx, if_neg (by omega)] at hrefused
      simp only [if_neg (show ¬ optionsSize ≤ (calls.flatMap OptionCall.encode).length +
        (call.data.length + 2) by omega)] at hrefused
      exact absurd (congrArg Prod.snd hrefused) (by simp)
  refine ⟨hadded.2, ?_, ?_, ?_, ?_, ?_⟩
  · intro r hr
    rcases List.mem_append.mp hr with hr | hr
    · exact h.returned r hr
    · rw [List.mem_singleton.mp hr]
      exact hadded.1
  · exact (call.apply_slice p.msg 4 4 (by decide)).trans h.xid_eq
  · exact (call.apply_slice p.msg 12 4 (by decide)).trans h.ciaddr_eq
  · exact (call.apply_slice p.msg 28 6 (by decide)).trans h.mac_eq
  · simp only [List.flatMap_append, List.flatMap_cons, List.flatMap_nil, List.append_nil, List.length_append,
      OptionCall.encode, List.length_cons]
    omega

theorem Drafts.store_holds (off : Nat) (src : List UInt8) (hle : off + src.length ≤ 44) :
    Holds (p.store off src).msg calls := by
  have hlen : off + src.length ≤ p.msg.bytes.length := by
    rw [p.msg.size_eq]
    exact Nat.le_trans hle (by decide)
  refine ⟨?_, h.holds.short, ?_, ?_⟩
  · refine Eq.trans ?_ h.holds.options
    have := slice_poke_right p.msg.bytes off src hlen 240 308 (by omega)
    have hfull : ∀ bs : List UInt8, bs.length = dhcpmsgSize → slice bs 240 308 = bs.drop optionsOffset := by
      intro bs hbs
      unfold slice
      exact List.take_of_length_le (by rw [List.length_drop, hbs]; decide)
    rw [hfull _ (by rw [length_poke, p.msg.size_eq]), hfull _ p.msg.size_eq] at this
    exact this
  · exact (slice_poke_right p.msg.bytes off src hlen 108 128 (by omega)).trans h.holds.file
  · exact (slice_poke_right p.msg.bytes off src hlen 44 64 (by omega)).trans h.holds.sname

theorem Drafts.storeChaddr (a : Mac) : Drafts (p.store 28 a.bytes) xid ciaddr a.bytes calls n := by
  have hlen : 28 + a.bytes.length ≤ p.msg.bytes.length := by
    rw [p.msg.size_eq, a.size_eq]
    decide
  refine ⟨h.store_holds 28 a.bytes (by rw [a.size_eq]; decide), h.returned, ?_, ?_, ?_, h.size⟩
  · exact (slice_poke_left _ _ _ hlen 4 4 (by decide)).trans h.xid_eq
  · exact (slice_poke_left _ _ _ hlen 12 4 (by decide)).trans h.ciaddr_eq
  · have hself := slice_poke_self _ _ _ hlen
    rw [a.size_eq] at hself
    exact hself

theorem Drafts.setCiaddr (cs : ClientState) : Drafts (setCiaddr cs p) xid cs.clientAddr mac calls n := by
  have hlen : 12 + (htonl cs.clientAddr).length ≤ p.msg.bytes.length := by
    rw [p.msg.size_eq, length_htonl]
    decide
  refine ⟨h.store_holds 12 _ (by rw [length_htonl]; decide), h.returned, ?_, ?_, ?_, h.size⟩
  · exact (slice_poke_left _ _ _ hlen 4 4 (by decide)).trans h.xid_eq
  · exact slice_poke_self _ _ _ hlen
  · exact (slice_poke_right _ _ _ hlen 28 6 (by rw [length_htonl]; decide)).trans h.mac_eq

theorem Drafts.mono (k : Nat) (hk : n ≤ k) : Drafts p xid ciaddr mac calls k :=
  { h with size := Nat.le_trans h.size hk }

theorem Drafts.addVendor (cfg : SenderConfig) (hroom : n + 65 < optionsSize) :
    Drafts (if strlen cfg.vendor ≠ 0 then addOptionVendor p cfg.vendor (strlen cfg.vendor)
      else addOptionVendor p (ascii "ndhc") 4) xid ciaddr mac
      (calls ++ [.string ⟨DCODE_VENDOR, by decide, by decide⟩ (vendorText cfg)]) (n + 65) := by
  have hlt := strlen_lt cfg.vendor cfg.vendor_nul
  rw [cfg.vendor_size] at hlt
  unfold vendorText addOptionVendor
  split
  · next hv =>
    rw [take_strlen, if_neg ((strlen_ne_zero _).mp hv)]
    exact h.add _ 65 (Nat.succ_le_succ hlt) (by decide) hroom
  · next hv =>
    rw [if_pos (not_not.mp (mt (strlen_ne_zero _).mpr hv)), if_pos (by decide)]
    exact h.add _ 65 (by decide) (by decide) hroom

theorem Drafts.addHostname (cfg : SenderConfig) (hroom : n + 65 < optionsSize) :
    Drafts (addOptionHostname p cfg.hostname (strlen cfg.hostname)) xid ciaddr mac
      (calls ++ hostnameCalls cfg) (n + 65) := by
  have hlt := strlen_lt cfg.hostname cfg.hostname_nul
  rw [cfg.hostname_size] at hlt
  unfold addOptionHostname hostnameCalls
  split
  · next hn =>
    rw [take_strlen, if_neg ((strlen_ne_zero _).mp hn)]
    exact h.add _ 65 (Nat.succ_le_succ hlt) (by decide) hroom
  · next hn =>
    rw [if_pos (not_not.mp (mt (strlen_ne_zero _).mpr hn)), List.append_nil]
    exact h.mono _ (Nat.le_add_right _ _)

end

section
variable (cfg : SenderConfig)

theorem initPacket_drafts (xid : UInt32) (type : UInt8) :
    Drafts (initPacket cfg xid type) xid 0 cfg.arp.bytes (initCalls cfg type) 69 := by
  have hid : (cfg.clientid.take cfg.clientidLen).length + 2 ≤ 66 := by
    have := cfg.clientidLen_le
    rw [List.length_take]
    omega
  have h := (Drafts.start xid).add (.u8 .msgtype type) 3 (Nat.le_refl _) (by decide)
    (by decide)
  exact (h.storeChaddr cfg.arp).add (.string ⟨DCODE_CLIENT_ID, by decide, by decide⟩ _) 66 hid (by decide) (by decide)

variable {cfg} {p : Draft} {xid ciaddr : UInt32} {mac : List UInt8} {calls : List OptionCall} {n : Nat}
  (h : Drafts p xid ciaddr mac calls n)
include h

theorem Drafts.addAsk (hroom : n + 142 < optionsSize) :
    Drafts (addOptionsVendorHostname cfg (addOptionRequestList (addOptionMaxsize p))) xid ciaddr mac
      (calls ++ askCalls cfg) (n + 142) := by
  have hsize := h.add (.u16 ⟨DCODE_MAX_SIZE, by decide, by decide⟩ iudpSize.toUInt16) 4 (Nat.le_refl _) (by decide)
    (by omega)
  have hlist := hsize.add (.string ⟨DCODE_PARAM_REQ, by decide, by decide⟩ reqdata) 8 (Nat.le_refl _) (by decide)
    (by omega)
  have hall := (hlist.addVendor cfg (by omega)).addHostname cfg (by omega)
  simp only [List.append_assoc, List.cons_append, List.nil_append, Nat.add_assoc, Nat.reduceAdd] at hall
  exact hall

theorem Drafts.addReqip (ip : UInt32) (hroom : n + 6 < optionsSize) :
    Drafts (addOptionReqip p ip) xid ciaddr mac
      (calls ++ [.u32 ⟨DCODE_REQIP, by decide, by decide⟩ ip]) (n + 6) :=
  h.add _ 6 (Nat.le_refl _) (by decide) hroom

theorem Drafts.addServerid (sid : UInt32) (hroom : n + 6 < optionsSize) :
    Drafts (addOptionServerid p sid) xid ciaddr mac
      (calls ++ [.u32 .serverid sid]) (n + 6) :=
  h.add _ 6 (Nat.le_refl _) (by decide) hroom

end

/-! ## The messages -/

/-- What is sent of a message ends with END. -/
theorem Holds.sent (m : DhcpMsg) (calls : List OptionCall) (h : Holds m calls) :
    ∃ e, m.options[e]? = some DCODE_END ∧
      unicastPayload m = some (m.bytes.take (optionsOffset + (e + 1))) ∧
      ∀ headers : List UInt8, headers.length = iphdrSize + udphdrSize →
        rawDatagram headers m = some (headers ++ m.bytes.take (optionsOffset + (e + 1))) := by
  have hlt := h.length_lt
  have hsizes : optionsSize = 308 ∧ optionsOffset = 240 ∧ dhcpmsgSize = 548 ∧ iudpSize = 576 ∧
      iphdrSize + udphdrSize = 28 := ⟨rfl, rfl, rfl, rfl, rfl⟩
  have hel : endLength m = some ((calls.flatMap OptionCall.encode).length + 1) := by
    unfold endLength
    rw [h.getEndOptionIdx]
    exact if_neg (by omega)
  refine ⟨(calls.flatMap OptionCall.encode).length, ?_, ?_, fun headers hh => ?_⟩
  · rw [h.options, optionField, List.getElem?_append_right (Nat.le_refl _), Nat.sub_self, List.getElem?_cons_zero]
  · unfold unicastPayload
    rw [hel, Option.map_some]
    congr 2
    omega
  · unfold rawDatagram
    rw [hel, Option.map_some, List.take_append, List.take_of_length_le (by omega)]
    congr 3
    omega

section
variable (cfg : SenderConfig) (cs : ClientState)

/-- Each of the six functions makes the calls of its message. -/
theorem Message.drafts (msg : Message) :
    Drafts (msg.packet cfg cs) (msg.sent cs).xid (msg.sent cs).ciaddr cfg.arp.bytes ((msg.sent cs).calls cfg) 223 := by
  have hinit := initPacket_drafts cfg
  cases msg with
  | discover =>
    show Drafts (discoverMsg cfg cs) cs.xid 0 _ (Sent.calls cfg ⟨_, _, _, if cs.clientAddr ≠ 0 then _ else _, _⟩) _
    unfold discoverMsg
    split
    · exact (((hinit cs.xid DHCPDISCOVER).addReqip _ (by decide)).addAsk (by decide)).mono _ (by decide)
    · exact ((hinit cs.xid DHCPDISCOVER).addAsk (by decide)).mono _ (by decide)
  | selecting =>
    exact (((hinit cs.xid DHCPREQUEST).addReqip _ (by decide)).addServerid _ (by decide)).addAsk (by decide)
  | renew => exact (((hinit cs.xid DHCPREQUEST).setCiaddr cs).addAsk (by decide)).mono _ (by decide)
  | rebind =>
    exact ((((hinit cs.xid DHCPREQUEST).setCiaddr cs).addReqip _ (by decide)).addAsk (by decide)).mono _ (by decide)
  | decline server =>
    exact (((hinit cs.xid DHCPDECLINE).addReqip _ (by decide)).addServerid server (by decide)).mono _ (by decide)
  | release xid =>
    exact ((((hinit xid DHCPRELEASE).setCiaddr cs).addReqip _ (by decide)).addServerid _ (by decide)).mono _ (by decide)

theorem dataOf_cons (c : UInt8) (call : OptionCall) (calls : List OptionCall) :
    dataOf c (call :: calls) = (if call.code = c then call.data else []) ++ dataOf c calls := by
  by_cases h : call.code = c
  · simp [dataOf, h]
  · simp [dataOf, h]

/-- An option that is there only if it has a value. -/
theorem dataOf_map (c : UInt8) (o : OptionCode) (v : Option UInt32) (calls : List OptionCall) :
    dataOf c (v.toList.map (OptionCall.u32 o) ++ calls) =
      (if o.code = c then v.elim [] htonl else []) ++ dataOf c calls := by
  cases v with
  | none => rw [Option.elim_none, ite_self]; rfl
  | some a => exact dataOf_cons c _ _

theorem dataOf_hostnameCalls (c : UInt8) :
    dataOf c (hostnameCalls cfg) = (if DCODE_HOSTNAME = c then cstr cfg.hostname else []) ++ [] := by
  unfold hostnameCalls
  split
  · next h => rw [h, ite_self]; rfl
  · exact dataOf_cons c _ _

theorem entries_nodup (m : Sent) : ((m.entries cfg).map Prod.fst).Nodup := by
  show [DCODE_MSGTYPE, DCODE_CLIENT_ID, DCODE_REQIP, DCODE_SERVER_ID, DCODE_MAX_SIZE, DCODE_PARAM_REQ, DCODE_VENDOR,
    DCODE_HOSTNAME].Nodup
  decide

/-- The data of a message's calls is what the message is meant to say. -/
theorem dataOf_calls (m : Sent) (c : UInt8) : dataOf c (m.calls cfg) = m.intended cfg c := by
  have hask : dataOf c (if m.asks then askCalls cfg else []) = valueOf c ((m.entries cfg).drop 4) := by
    show _ = valueOf c [_, _, _, _]
    simp only [valueOf_cons]
    cases m.asks with
    | false =>
      simp only [Bool.false_eq_true, if_false, ite_self]
      rfl
    | true =>
      simp only [if_true, askCalls, List.cons_append, List.nil_append, dataOf_cons, dataOf_hostnameCalls]
      rfl
  unfold Sent.intended
  rw [← valueOf_eq_lookup c _ (entries_nodup cfg m)]
  unfold Sent.calls initCalls
  rw [List.append_assoc, List.append_assoc, List.cons_append, List.cons_append, List.nil_append, dataOf_cons,
    dataOf_cons, dataOf_map, dataOf_map, hask]
  show _ = valueOf c (_ :: _ :: _ :: _ :: (m.entries cfg).drop 4)
  rw [valueOf_cons, valueOf_cons, valueOf_cons, valueOf_cons]
  rfl

/-- What the client's model records as sent is the message built. -/
theorem Message.send_eq (env : Env) (site : Site) (msg : Message)
    (hxid : ∀ xid, msg = .release xid → xid = env.random site) :
    msg.send env site = get >>= fun s : Sys => sendDhcp env site (msg.sent s.cs) := by
  cases msg with
  | release xid =>
    rw [hxid xid rfl]
    rfl
  | _ => rfl

/-- A message's options read back as they are meant. -/
theorem Message.getDhcpOpt_packet (msg : Message) (code : UInt8) :
    getDhcpOpt (msg.packet cfg cs).msg code MAX_DOPT_SIZE = (msg.sent cs).intended cfg code := by
  rw [(msg.drafts cfg cs).holds.getDhcpOpt, dataOf_calls]

/-- **Outgoing messages are complete.**  In each of the six messages every addition of an option
succeeds, the options read back with `get_dhcp_opt` are those meant and nothing for any other
code, and what is sent, by UDP or as a raw datagram, ends right behind the END marker. -/
theorem messages_complete (msg : Message) : Complete cfg (msg.packet cfg cs) (msg.sent cs) := by
  have h := msg.drafts cfg cs
  exact ⟨h.returned, h.xid_eq, h.ciaddr_eq, h.mac_eq, msg.getDhcpOpt_packet cfg cs, h.holds.sent⟩

end

end Ndhc
