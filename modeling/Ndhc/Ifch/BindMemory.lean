import Ndhc.Config.Argv
import Ndhc.Ifch.BindText

/-!
# The buffers of a bind

`ifchange_bind` lets each command be written behind the last one, into what `sizeof buf - bo`
leaves; `ifcmd_iplist` first writes its addresses one behind the other into a buffer of its own
and tells `snprintf` the size of the whole of it each time.  Here the buffers are memory that has
more memory behind it, and the ranges written are recorded.  Options are short enough for the
addresses never to reach the end, and what `ifcmd_raw` returns is always less than what it was
given, so the space left never wraps around (`bind_buffers_in_bounds`).
-/

namespace Ndhc

open Bytes

/-! ## Buffers -/

/-- Memory from the start of a buffer on, and the ranges written so far: where, how long. -/
structure Buf where
  mem : Nat → UInt8
  writes : List (Nat × Nat)

namespace Buf

/-- `snprintf(buf + off, size, ...)` of a text -/
def print (b : Buf) (off size : Nat) (text : List UInt8) : Buf :=
  ⟨snprintfMem b.mem off size text,
    b.writes ++ [(off, if size = 0 then 0 else min text.length (size - 1) + 1)]⟩

/-- `memset(buf + off, 0, len)` -/
def clear (b : Buf) (off len : Nat) : Buf :=
  ⟨store b.mem off (List.replicate len 0), b.writes ++ [(off, len)]⟩

/-- Nothing was written behind the first `size` bytes. -/
def Within (b : Buf) (size : Nat) : Prop := ∀ w ∈ b.writes, w.1 + w.2 ≤ size

end Buf

/-! ## ifcmd_iplist -/

/-- `sizeof buf` in `ifcmd_iplist` -/
def iplistBufSize : Nat := 2048

/-- `buf` and `bufoff`. -/
structure Listing where
  buf : Buf
  bufoff : Nat

/-- One address behind its separator; an error where the function returns `-1`. -/
def listAddr (sep optdata : List UInt8) (optoff : Nat) (s : Listing) : Except Buf Listing :=
  let text := sep ++ inetNtop (slice optdata optoff 4)
  let buf := s.buf.print s.bufoff iplistBufSize text
  let wc := snprintfRet text
  if wc < 0 ∨ (iplistBufSize : Int) ≤ wc then .error buf
  else .ok ⟨buf, s.bufoff + wc.toNat⟩

/-- The `while` loop. -/
def listRest (optdata : List UInt8) (optoff : Nat) (s : Listing) : Except Buf Listing :=
  if 4 + optoff ≤ optdata.length then
    match listAddr [44] optdata optoff s with
    | .error b => .error b
    | .ok t => listRest optdata (optoff + 4) t
  else .ok s
termination_by optdata.length - optoff

/-- The function's buffer up to its call of `ifcmd_raw`. -/
def iplistBuf (scratch : Nat → UInt8) (optdata : List UInt8) : Except Buf Listing :=
  match listAddr [] optdata 0 ⟨⟨scratch, []⟩, 0⟩ with
  | .error b => .error b
  | .ok s => listRest optdata 4 s

/-! ## Encoders -/

section
variable (b : Buf) (off bl : Nat)

/-- `ifcmd_raw` on the buffer from `off` on, with what it returns. -/
def ifcmdRawAt (optname optdata : List UInt8) : Buf × Int :=
  if INT_MAX < optdata.length then (b, -1)
  else if bl < optname.length + optdata.length + 3 then (b, -1)
  else
    let text := optname ++ 58 :: cstr optdata ++ [59]
    let olen := snprintfRet text
    if olen < 0 ∨ (bl : Int) ≤ olen then ((b.print off bl text).clear off bl, -1)
    else (b.print off bl text, olen)

/-- The encoders that hand one text to `ifcmd_raw`, from `need` bytes on. -/
def ifcmdTextAt (need : Nat) (optname od text : List UInt8) : Buf × Int :=
  if od.length < need then (b, -1) else ifcmdRawAt b off bl optname text

def ifcmdBytesAt (optname od : List UInt8) : Buf × Int := ifcmdRawAt b off bl optname od

def ifcmdU8At (optname od : List UInt8) : Buf × Int := ifcmdTextAt b off bl 1 optname od (cstr (od.take 1))

def ifcmdU16At (optname od : List UInt8) : Buf × Int :=
  ifcmdTextAt b off bl 2 optname od (decimal (be (od.take 2)))

def ifcmdS32At (optname od : List UInt8) : Buf × Int :=
  ifcmdTextAt b off bl 4 optname od (decimalS32 (be (od.take 4)))

def ifcmdIpAt (optname od : List UInt8) : Buf × Int := ifcmdTextAt b off bl 4 optname od (inetNtop (od.take 4))

/-- `scratch` is what the stack holds where `buf` is put. -/
def ifcmdIplistAt (scratch : Nat → UInt8) (optname od : List UInt8) : Buf × Int :=
  if od.length < 4 then (b, -1)
  else
    match iplistBuf scratch od with
    | .error _ => (b, -1)
    | .ok s => ifcmdRawAt b off bl optname (cstr (load s.buf.mem iplistBufSize))

def ifchdCmdAt (scratch : Nat → UInt8) (od : List UInt8) (code : UInt8) : Buf × Int :=
  if code = DCODE_ROUTER then ifcmdIpAt b off bl (ascii "routr") od
  else if code = DCODE_DNS then ifcmdIplistAt b off bl scratch (ascii "dns") od
  else if code = DCODE_LPRSVR then ifcmdIplistAt b off bl scratch (ascii "lpr") od
  else if code = DCODE_NTPSVR then ifcmdIplistAt b off bl scratch (ascii "ntp") od
  else if code = DCODE_WINS then ifcmdIplistAt b off bl scratch (ascii "wins") od
  else if code = DCODE_HOSTNAME then ifcmdBytesAt b off bl (ascii "host") od
  else if code = DCODE_DOMAIN then ifcmdBytesAt b off bl (ascii "dom") od
  else if code = DCODE_TIMEZONE then ifcmdS32At b off bl (ascii "tzone") od
  else if code = DCODE_MTU then ifcmdU16At b off bl (ascii "mtu") od
  else if code = DCODE_IPTTL then ifcmdU8At b off bl (ascii "ipttl") od
  else (b, -1)

end

/-! ## ifchange_bind -/

section
variable (scratch : UInt8 → Nat → UInt8) (cfgPacket packet : DhcpMsg)

/-- `send_cmd` to `out = buf + off`; `scratch` by the option under way. -/
def sendCmdAt (b : Buf) (off olen : Nat) (code : UInt8) : Buf × Nat :=
  let optdata := getDhcpOpt packet code MAX_DOPT_SIZE
  if optdata.length = 0 then (b, 0)
  else if getDhcpOpt cfgPacket code MAX_DOPT_SIZE = optdata then (b, 0)
  else
    let r := ifchdCmdAt b off olen (scratch code) optdata code
    (r.1, if 0 < r.2 then r.2.toNat else 0)

/-- What `send_client_ip` has printed, if there is something to change. -/
def clientIpText : Option (List UInt8) :=
  let changeIpaddr := decide (slice packet.bytes 16 4 ≠ slice cfgPacket.bytes 16 4)
  let ip := inetNtop (slice packet.bytes 16 4)
  let subnet := addrOption cfgPacket packet DCODE_SUBNET
  let bcast := addrOption cfgPacket packet DCODE_BROADCAST
  if !changeIpaddr && !(subnet.any (·.2)) && !(bcast.any (·.2)) then none
  else
    let sn := (subnet.map (·.1)).getD (ascii "255.255.255.0")
    match bcast with
    | some bc => some (ascii "ip4:" ++ ip ++ 44 :: sn ++ 44 :: bc.1 ++ [59])
    | none => some (ascii "ip4:" ++ ip ++ 44 :: sn ++ [59])

/-- `send_client_ip` to the start of the buffer. -/
def sendClientIpAt (b : Buf) (olen : Nat) : Buf × Nat :=
  match clientIpText cfgPacket packet with
  | none => (b, 0)
  | some text =>
    let snlen := snprintfRet text
    if snlen < 0 ∨ (olen : Int) ≤ snlen then ((b.print 0 olen text).clear 0 olen, 0)
    else (b.print 0 olen text, snlen.toNat)

/-- `sizeof buf - bo` in a `size_t` -/
def bindSpace (bo : Nat) : Nat := (2 ^ 64 + bindBufSize - bo) % 2 ^ 64

/-- `bo += send_cmd(buf + bo, sizeof buf - bo, packet, code)` -/
def bindCmd (s : Buf × Nat) (code : UInt8) : Buf × Nat :=
  let r := sendCmdAt scratch cfgPacket packet s.1 s.2 (bindSpace s.2) code
  (r.1, (s.2 + r.2) % 2 ^ 64)

/-- `buf` and `bo` of `ifchange_bind` once it has sent the address and the options `codes`. -/
def bindUpTo (mem : Nat → UInt8) (codes : List UInt8) : Buf × Nat :=
  codes.foldl (bindCmd scratch cfgPacket packet)
    (sendClientIpAt cfgPacket packet ((⟨mem, []⟩ : Buf).clear 0 bindBufSize) bindBufSize)

end

/-! ## What they are for -/

/-- The first `k` addresses of an option, with commas between them. -/
def quads (optdata : List UInt8) (k : Nat) : List UInt8 :=
  [44].intercalate ((List.range k).map fun i => inetNtop (slice optdata (4 * i) 4))

/-- A call that was given `size` bytes at `off` put `out` there, and wrote nothing behind them. -/
structure Wrote (b : Buf) (off size : Nat) (out : List UInt8) (b' : Buf) : Prop where
  fits : out = [] ∨ out.length < size
  held : load b'.mem (off + out.length) = load b.mem off ++ out
  inside : ∀ n, off + size ≤ n → b.Within n → b'.Within n

/-- What an encoder returns. -/
def cmdRet : Option (List UInt8) → Int
  | none => -1
  | some out => out.length

/-- An encoder that was given `size` bytes at `off` did what the text says. -/
structure Encoded (b : Buf) (off size : Nat) (out : Option (List UInt8)) (r : Buf × Int) : Prop where
  ret : r.2 = cmdRet out
  wrote : Wrote b off size (out.getD []) r.1

/-- After `k` addresses. -/
structure Listed (scratch : Nat → UInt8) (optdata : List UInt8) (k : Nat) (s : Listing) : Prop where
  bufoff : s.bufoff = (quads optdata k).length
  held : load s.buf.mem s.bufoff = quads optdata k
  nul : 0 < k → s.buf.mem s.bufoff = 0
  inside : s.buf.Within iplistBufSize
  frame : ∀ i, iplistBufSize ≤ i → s.buf.mem i = scratch i

/-! ## Memory -/

theorem snprintfMem_of_ge (mem : Nat → UInt8) (off size : Nat) (text : List UInt8) (i : Nat)
    (h : off + text.length + 1 ≤ i) : snprintfMem mem off size text i = mem i := by
  unfold snprintfMem
  split
  · rfl
  · apply store_of_ge
    simp only [List.length_append, List.length_take, List.length_singleton]
    omega

theorem load_snprintfMem_of_le (mem : Nat → UInt8) (off size : Nat) (text : List UInt8) (n : Nat) (h : n ≤ off) :
    load (snprintfMem mem off size text) n = load mem n := by
  unfold snprintfMem
  split
  · rfl
  · exact load_store_of_le mem off _ n h

/-- The text and its NUL. -/
theorem load_snprintfMem_fits (mem : Nat → UInt8) (off size : Nat) (text : List UInt8) (h : text.length < size) :
    load (snprintfMem mem off size text) (off + text.length) = load mem off ++ text ∧
      snprintfMem mem off size text (off + text.length) = 0 := by
  have hload := load_snprintfMem mem off size text h
  rw [load_add_one] at hload
  obtain ⟨htext, hnul⟩ := List.append_inj' hload rfl
  exact ⟨htext, List.singleton_inj.1 hnul⟩

theorem snprintfRet_of_le (text : List UInt8) (h : text.length ≤ INT_MAX) : snprintfRet text = text.length :=
  if_neg (by omega)

namespace Buf

@[simp]
theorem mem_print (b : Buf) (off size : Nat) (text : List UInt8) :
    (b.print off size text).mem = snprintfMem b.mem off size text := rfl

@[simp]
theorem mem_clear (b : Buf) (off len : Nat) : (b.clear off len).mem = store b.mem off (List.replicate len 0) := rfl

theorem within_print (b : Buf) (off size n : Nat) (text : List UInt8)
    (h : off + size ≤ n ∨ off + text.length + 1 ≤ n) (hb : b.Within n) : (b.print off size text).Within n := by
  intro w hw
  rcases List.mem_append.1 hw with hw | hw
  · exact hb w hw
  · rw [List.mem_singleton] at hw
    subst hw
    show off + (if size = 0 then 0 else min text.length (size - 1) + 1) ≤ n
    split <;> omega

theorem within_clear (b : Buf) (off len n : Nat) (h : off + len ≤ n) (hb : b.Within n) :
    (b.clear off len).Within n := by
  intro w hw
  rcases List.mem_append.1 hw with hw | hw
  · exact hb w hw
  · rw [List.mem_singleton] at hw
    subst hw
    exact h

end Buf

theorem Wrote.refl (b : Buf) (off size : Nat) : Wrote b off size [] b where
  fits := .inl rfl
  held := by simp
  inside := fun _ _ hb => hb

/-- A text that fits. -/
theorem Wrote.print (b : Buf) (off size : Nat) (text : List UInt8) (h : text.length < size) :
    Wrote b off size text (b.print off size text) where
  fits := .inr h
  held := (load_snprintfMem_fits b.mem off size text h).1
  inside := fun n hn hb => b.within_print off size n text (.inl hn) hb

/-- A text that does not fit is wiped out again. -/
theorem Wrote.print_clear (b : Buf) (off size : Nat) (text : List UInt8) :
    Wrote b off size [] ((b.print off size text).clear off size) where
  fits := .inl rfl
  held := by
    rw [List.length_nil, Nat.add_zero, List.append_nil]
    rw [Buf.mem_clear, Buf.mem_print, load_store_of_le _ _ _ _ (Nat.le_refl off),
      load_snprintfMem_of_le _ _ _ _ _ (Nat.le_refl off)]
  inside := fun n hn hb =>
    (b.print off size text).within_clear off size n hn (b.within_print off size n text (.inl hn) hb)

theorem Encoded.unwritten (b : Buf) (off size : Nat) : Encoded b off size none (b, -1) :=
  ⟨rfl, Wrote.refl b off size⟩

theorem Encoded.ite {b : Buf} {off size : Nat} {out out' : Option (List UInt8)} {r r' : Buf × Int} (c : Prop)
    [Decidable c] (h : Encoded b off size out r) (h' : Encoded b off size out' r') :
    Encoded b off size (if c then out else out') (if c then r else r') := by
  split
  · exact h
  · exact h'

/-! ## The list of addresses -/

theorem quads_one (od : List UInt8) : quads od 1 = inetNtop (slice od 0 4) := by
  simp [quads]

theorem quads_add_one (od : List UInt8) (k : Nat) (h : 0 < k) :
    quads od (k + 1) = quads od k ++ 44 :: inetNtop (slice od (4 * k) 4) := by
  have hne : ((List.range k).map fun i => inetNtop (slice od (4 * i) 4)) ≠ [] := by
    intro h0
    have := congrArg List.length h0
    simp at this
    omega
  unfold quads
  rw [List.range_succ, List.map_append, List.map_singleton, intercalate_concat _ _ _ hne]
  simp

/-- Sixteen bytes for each address, with the comma or the NUL behind it. -/
theorem length_quads_lt (od : List UInt8) (k : Nat) (h : 0 < k) : (quads od k).length < 16 * k := by
  induction k with
  | zero => exact absurd h (Nat.lt_irrefl 0)
  | succ k ih =>
    have hip := length_inetNtop_le (slice od (4 * k) 4)
    rcases Nat.eq_zero_or_pos k with rfl | hk
    · rw [quads_one]
      have := length_inetNtop_le (slice od 0 4)
      omega
    · have := ih hk
      rw [quads_add_one od k hk, List.length_append, List.length_cons]
      omega

theorem zero_not_mem_quads (od : List UInt8) (k : Nat) : 0 ∉ quads od k := by
  induction k with
  | zero => simp [quads]
  | succ k ih =>
    rcases Nat.eq_zero_or_pos k with rfl | hk
    · rw [quads_one]
      exact zero_not_mem_inetNtop _
    · rw [quads_add_one od k hk]
      simp [ih, zero_not_mem_inetNtop]

theorem iplistRest_eq (od : List UInt8) (k : Nat) (hk : 0 < k) :
    quads od k ++ iplistRest (od.drop (4 * k)) = quads od (max k (od.length / 4)) := by
  induction hn : od.length / 4 - k generalizing k with
  | zero =>
    have hlt : (od.drop (4 * k)).length < 4 := by
      rw [List.length_drop]
      omega
    have hnil : iplistRest (od.drop (4 * k)) = [] := by
      match od.drop (4 * k), hlt with
      | [], _ => rfl
      | [_], _ => rfl
      | [_, _], _ => rfl
      | [_, _, _], _ => rfl
    rw [hnil, List.append_nil, Nat.max_eq_left (by omega)]
  | succ n ih =>
    have hstep : iplistRest (od.drop (4 * k)) =
        44 :: inetNtop (slice od (4 * k) 4) ++ iplistRest (od.drop (4 * (k + 1))) := by
      have hlen : 4 ≤ (od.drop (4 * k)).length := by
        rw [List.length_drop]
        omega
      have hdrop : od.drop (4 * (k + 1)) = (od.drop (4 * k)).drop 4 := by
        rw [List.drop_drop, Nat.mul_add]
      rw [hdrop]
      unfold slice
      match od.drop (4 * k), hlen with
      | a :: b :: c :: d :: bs, _ => rfl
    have hmax : max k (od.length / 4) = max (k + 1) (od.length / 4) := by omega
    rw [hstep, ← List.append_assoc, ← quads_add_one od k hk, ih (k + 1) (by omega) (by omega), hmax]

/-- The text of the other model. -/
theorem iplistText_eq_quads (od : List UInt8) (h : 4 ≤ od.length) : iplistText od = quads od (od.length / 4) := by
  have hrest := iplistRest_eq od 1 (by decide)
  have hmax : max 1 (od.length / 4) = od.length / 4 := Nat.max_eq_right (by omega)
  rw [hmax, quads_one] at hrest
  exact hrest

/-! ## The loop of ifcmd_iplist -/

section
variable (scratch : Nat → UInt8) (od : List UInt8)

theorem listed_zero : Listed scratch od 0 ⟨⟨scratch, []⟩, 0⟩ where
  bufoff := rfl
  held := rfl
  nul := fun h => absurd h (Nat.lt_irrefl 0)
  inside := fun _ hw => absurd hw List.not_mem_nil
  frame := fun _ _ => rfl

/-- One address more, while at most 128 fit. -/
theorem Listed.listAddr {k : Nat} {s : Listing} (h : Listed scratch od k s) (hk : 16 * (k + 1) ≤ iplistBufSize) :
    ∃ t, Ndhc.listAddr (if k = 0 then [] else [44]) od (4 * k) s = .ok t ∧ Listed scratch od (k + 1) t := by
  generalize htext : (if k = 0 then [] else [44]) ++ inetNtop (slice od (4 * k) 4) = text
  have hquads : quads od (k + 1) = quads od k ++ text := by
    rcases Nat.eq_zero_or_pos k with rfl | hpos
    · rw [← htext, quads_one]
      rfl
    · rw [← htext, if_neg (by omega), quads_add_one od k hpos]
      rfl
  have hlen := length_quads_lt od (k + 1) (by omega)
  have hb := h.bufoff
  have hsum : (quads od (k + 1)).length = s.bufoff + text.length := by
    rw [hquads, List.length_append, hb]
  have hsize : iplistBufSize = 2048 := rfl
  have hmax : INT_MAX = 2147483647 := rfl
  have hret := snprintfRet_of_le text (by omega)
  obtain ⟨hheld, hnul⟩ := load_snprintfMem_fits s.buf.mem s.bufoff iplistBufSize text (by omega)
  refine ⟨⟨s.buf.print s.bufoff iplistBufSize text, s.bufoff + text.length⟩, ?_, ?_⟩
  · simp only [Ndhc.listAddr, htext, hret, Int.toNat_natCast]
    exact if_neg (by omega)
  · exact {
      bufoff := hsum.symm
      held := by
        rw [Buf.mem_print, hheld, h.held, hquads]
      nul := fun _ => hnul
      inside := s.buf.within_print _ _ _ _ (.inr (by omega)) h.inside
      frame := fun i hi => by
        rw [Buf.mem_print, snprintfMem_of_ge _ _ _ _ _ (by omega), h.frame i hi] }

/-- The `while` loop from the second address on. -/
theorem Listed.listRest {k : Nat} {s : Listing} (h : Listed scratch od k s) (hpos : 0 < k) (hle : k ≤ od.length / 4)
    (hmax : 16 * (od.length / 4) ≤ iplistBufSize) :
    ∃ t, Ndhc.listRest od (4 * k) s = .ok t ∧ Listed scratch od (od.length / 4) t := by
  induction hn : od.length / 4 - k generalizing k s with
  | zero =>
    have hk : k = od.length / 4 := by omega
    refine ⟨s, ?_, hk ▸ h⟩
    unfold Ndhc.listRest
    exact if_neg (by omega)
  | succ n ih =>
    obtain ⟨t, ht, hlisted⟩ := h.listAddr scratch od (by omega)
    rw [if_neg (by omega)] at ht
    obtain ⟨u, hu, hdone⟩ := ih hlisted (by omega) (by omega) (by omega)
    refine ⟨u, ?_, hdone⟩
    unfold Ndhc.listRest
    rw [if_pos (by omega), ht]
    exact hu

/-- The whole list, with its NUL, inside the buffer. -/
theorem iplistBuf_listed (h4 : 4 ≤ od.length) (hmax : od.length ≤ MAX_DOPT_SIZE) :
    ∃ s, iplistBuf scratch od = .ok s ∧ Listed scratch od (od.length / 4) s := by
  have hsize : iplistBufSize = 2048 := rfl
  simp only [MAX_DOPT_SIZE] at hmax
  obtain ⟨s, hs, h1⟩ := (listed_zero scratch od).listAddr scratch od (by omega)
  obtain ⟨t, ht, hdone⟩ := h1.listRest scratch od (by omega) (by omega) (by omega)
  refine ⟨t, ?_, hdone⟩
  rw [if_pos rfl] at hs
  unfold iplistBuf
  rw [hs]
  exact ht

/-- What `strlen` finds in it. -/
theorem Listed.cstr_load {k : Nat} {s : Listing} (h : Listed scratch od k s) (hpos : 0 < k)
    (hk : 16 * k ≤ iplistBufSize) : cstr (load s.buf.mem iplistBufSize) = quads od k := by
  have hlen := length_quads_lt od k hpos
  have hb := h.bufoff
  obtain ⟨rest, hrest⟩ : ∃ rest, load s.buf.mem iplistBufSize = quads od k ++ 0 :: rest := by
    obtain ⟨m, hm⟩ := Nat.exists_eq_add_of_le (show s.bufoff + 1 ≤ iplistBufSize by omega)
    refine ⟨bytesAt s.buf.mem (s.bufoff + 1) m, ?_⟩
    rw [hm, load_add, load_add_one, h.held, h.nul hpos, List.append_assoc]
    rfl
  have hz := zero_not_mem_quads od k
  rw [hrest, cstr, List.takeWhile_append_of_pos]
  · simp
  · intro c hc
    have : c ≠ 0 := fun h0 => hz (h0 ▸ hc)
    simp [this]

end

/-! ## Encoders -/

section
variable (b : Buf) (off bl : Nat) (hbl : bl ≤ INT_MAX)
include hbl

/-- `ifcmd_raw` writes the text of the other model, inside what it was given. -/
theorem ifcmdRawAt_encoded (optname optdata : List UInt8) :
    Encoded b off bl (ifcmdRaw bl optname optdata) (ifcmdRawAt b off bl optname optdata) := by
  unfold ifcmdRawAt ifcmdRaw
  by_cases h1 : INT_MAX < optdata.length
  · rw [if_pos h1, if_pos h1]
    exact .unwritten b off bl
  rw [if_neg h1, if_neg h1]
  by_cases h2 : bl < optname.length + optdata.length + 3
  · rw [if_pos h2, if_pos h2]
    exact .unwritten b off bl
  rw [if_neg h2, if_neg h2]
  generalize htext : optname ++ 58 :: cstr optdata ++ [59] = text
  have hlen : text.length ≤ optname.length + optdata.length + 2 := by
    have := length_cstr_le optdata
    rw [← htext]
    simp only [List.length_append, List.length_cons, List.length_nil]
    omega
  have hret := snprintfRet_of_le text (by omega)
  have hno : ¬ ((text.length : Int) < 0 ∨ (bl : Int) ≤ text.length) := by omega
  simp only [hret, if_neg hno, if_neg (show ¬ bl ≤ text.length by omega)]
  exact ⟨rfl, Wrote.print b off bl text (by omega)⟩

theorem ifcmdTextAt_encoded (need : Nat) (optname od text : List UInt8) :
    Encoded b off bl (if od.length < need then none else ifcmdRaw bl optname text)
      (ifcmdTextAt b off bl need optname od text) :=
  .ite _ (.unwritten b off bl) (ifcmdRawAt_encoded b off bl hbl optname text)

omit hbl in
/-- The buffer of `ifcmd_iplist` never shows in what it does. -/
theorem ifcmdIplistAt_eq (scratch : Nat → UInt8) (optname od : List UInt8) (hmax : od.length ≤ MAX_DOPT_SIZE) :
    ifcmdIplistAt b off bl scratch optname od = ifcmdTextAt b off bl 4 optname od (iplistText od) := by
  unfold ifcmdIplistAt ifcmdTextAt
  split
  · rfl
  · next h4 =>
    have hsize : iplistBufSize = 2048 := rfl
    obtain ⟨s, hs, hlisted⟩ := iplistBuf_listed scratch od (by omega) hmax
    simp only [MAX_DOPT_SIZE] at hmax
    rw [hs, iplistText_eq_quads od (by omega)]
    show ifcmdRawAt b off bl optname (cstr _) = _
    rw [hlisted.cstr_load scratch od (by omega) (by omega)]

/-- Each command, whatever its encoder. -/
theorem ifchdCmdAt_encoded (scratch : Nat → UInt8) (od : List UInt8) (hmax : od.length ≤ MAX_DOPT_SIZE) (code : UInt8) :
    Encoded b off bl (ifchdCmd bl od code) (ifchdCmdAt b off bl scratch od code) := by
  have htext (need : Nat) (optname text : List UInt8) := ifcmdTextAt_encoded b off bl hbl need optname od text
  have hraw (optname : List UInt8) := ifcmdRawAt_encoded b off bl hbl optname od
  have hlist (optname : List UInt8) :
      Encoded b off bl (ifcmdIplist bl optname od) (ifcmdIplistAt b off bl scratch optname od) := by
    rw [ifcmdIplistAt_eq b off bl scratch optname od hmax]
    exact htext 4 optname _
  unfold ifchdCmdAt ifchdCmd
  refine .ite _ (htext 4 _ _) (.ite _ (hlist _) (.ite _ (hlist _) (.ite _ (hlist _) (.ite _ (hlist _) ?_))))
  refine .ite _ (hraw _) (.ite _ (hraw _) (.ite _ (htext 4 _ _) (.ite _ (htext 2 _ _) (.ite _ (htext 1 _ _) ?_))))
  exact .unwritten b off bl

end

/-! ## The bind -/

section
variable (scratch : UInt8 → Nat → UInt8) (cfgPacket packet : DhcpMsg)

theorem sendCmdAt_wrote (b : Buf) (off olen : Nat) (hbl : olen ≤ INT_MAX) (code : UInt8) :
    (sendCmdAt scratch cfgPacket packet b off olen code).2 = (sendCmd cfgPacket packet olen code).length ∧
      Wrote b off olen (sendCmd cfgPacket packet olen code) (sendCmdAt scratch cfgPacket packet b off olen code).1 := by
  unfold sendCmdAt sendCmd
  by_cases h1 : (getDhcpOpt packet code MAX_DOPT_SIZE).length = 0
  · simp only [if_pos h1]
    exact ⟨rfl, Wrote.refl b off olen⟩
  by_cases h2 : getDhcpOpt cfgPacket code MAX_DOPT_SIZE = getDhcpOpt packet code MAX_DOPT_SIZE
  · simp only [if_neg h1, if_pos h2]
    exact ⟨rfl, Wrote.refl b off olen⟩
  simp only [if_neg h1, if_neg h2]
  obtain ⟨hret, hwrote⟩ := ifchdCmdAt_encoded b off olen hbl (scratch code) (getDhcpOpt packet code MAX_DOPT_SIZE)
    (length_option_le packet code) code
  refine ⟨?_, hwrote⟩
  rw [hret]
  cases ifchdCmd olen (getDhcpOpt packet code MAX_DOPT_SIZE) code with
  | none => rfl
  | some out =>
    show (if (0 : Int) < out.length then (out.length : Int).toNat else 0) = out.length
    split <;> omega

theorem sendClientIp_eq_text (olen : Nat) :
    sendClientIp cfgPacket packet olen =
      match clientIpText cfgPacket packet with
      | none => []
      | some text => if olen ≤ text.length then [] else text := by
  simp only [sendClientIp, clientIpText]
  split
  · rfl
  · cases addrOption cfgPacket packet DCODE_BROADCAST with
    | none => rfl
    | some bc => rfl

theorem sendClientIpAt_wrote (b : Buf) (olen : Nat) (hbl : olen ≤ INT_MAX) :
    (sendClientIpAt cfgPacket packet b olen).2 = (sendClientIp cfgPacket packet olen).length ∧
      Wrote b 0 olen (sendClientIp cfgPacket packet olen) (sendClientIpAt cfgPacket packet b olen).1 := by
  rw [sendClientIp_eq_text]
  unfold sendClientIpAt
  cases clientIpText cfgPacket packet with
  | none => exact ⟨rfl, Wrote.refl b 0 olen⟩
  | some text =>
    by_cases hlen : olen ≤ text.length
    · have hyes : snprintfRet text < 0 ∨ (olen : Int) ≤ snprintfRet text := by
        unfold snprintfRet
        split
        · exact .inl (by decide)
        · exact .inr (by omega)
      simp only [if_pos hyes, if_pos hlen]
      exact ⟨rfl, Wrote.print_clear b 0 olen text⟩
    · have hret := snprintfRet_of_le text (by omega)
      have hno : ¬ ((text.length : Int) < 0 ∨ (olen : Int) ≤ text.length) := by omega
      simp only [hret, if_neg hno, if_neg hlen]
      exact ⟨by simp, Wrote.print b 0 olen text (by omega)⟩

/-- The offset is inside, and before it are the commands so far. -/
structure BoundTo (text : List UInt8) (s : Buf × Nat) : Prop where
  bo : s.2 = text.length
  lt : s.2 < bindBufSize
  held : load s.1.mem s.2 = text
  inside : s.1.Within bindBufSize

theorem bindSpace_of_lt (bo : Nat) (h : bo < bindBufSize) : bindSpace bo = bindBufSize - bo := by
  simp only [bindSpace, bindBufSize] at *
  omega

theorem boundTo_clientIp (mem : Nat → UInt8) :
    BoundTo (sendClientIp cfgPacket packet bindBufSize) (bindUpTo scratch cfgPacket packet mem []) := by
  obtain ⟨hret, hwrote⟩ :=
    sendClientIpAt_wrote cfgPacket packet ((⟨mem, []⟩ : Buf).clear 0 bindBufSize) bindBufSize (by decide)
  have hlt : (sendClientIp cfgPacket packet bindBufSize).length < bindBufSize := by
    rcases hwrote.fits with h0 | hlt
    · rw [h0]
      decide
    · exact hlt
  have hheld := hwrote.held
  rw [Nat.zero_add] at hheld
  refine ⟨hret, ?_, ?_, ?_⟩
  · exact hret ▸ hlt
  · show load _ (sendClientIpAt cfgPacket packet _ bindBufSize).2 = _
    rw [hret]
    exact hheld
  · refine hwrote.inside bindBufSize (by omega) ?_
    exact Buf.within_clear _ 0 bindBufSize bindBufSize (by omega) fun _ hw => absurd hw List.not_mem_nil

/-- One command: it ends inside of what `sizeof buf - bo` left. -/
theorem BoundTo.bindCmd {text : List UInt8} {s : Buf × Nat} (h : BoundTo text s) (code : UInt8) :
    s.2 + (sendCmdAt scratch cfgPacket packet s.1 s.2 (bindSpace s.2) code).2 < bindBufSize ∧
      BoundTo (appendCmd cfgPacket packet text code) (Ndhc.bindCmd scratch cfgPacket packet s code) := by
  have hlt := h.lt
  have hsize : bindBufSize = 2048 := rfl
  have hmax : INT_MAX = 2147483647 := rfl
  have hspace := bindSpace_of_lt s.2 hlt
  obtain ⟨hret, hwrote⟩ :=
    sendCmdAt_wrote scratch cfgPacket packet s.1 s.2 (bindSpace s.2) (by omega) code
  have htext : sendCmd cfgPacket packet (bindSpace s.2) code =
      sendCmd cfgPacket packet (bindBufSize - text.length) code := by
    rw [hspace, h.bo]
  have hend : s.2 + (sendCmdAt scratch cfgPacket packet s.1 s.2 (bindSpace s.2) code).2 < bindBufSize := by
    rw [hret]
    rcases hwrote.fits with h0 | hfit
    · rw [h0]
      exact hlt
    · omega
  have hmod : (s.2 + (sendCmdAt scratch cfgPacket packet s.1 s.2 (bindSpace s.2) code).2) % 2 ^ 64 =
      s.2 + (sendCmd cfgPacket packet (bindSpace s.2) code).length := by
    rw [Nat.mod_eq_of_lt (by omega), hret]
  refine ⟨hend, ⟨?_, ?_, ?_, ?_⟩⟩
  · show _ % _ = _
    rw [hmod, appendCmd, List.length_append, htext, h.bo]
  · show _ % _ < _
    rw [hmod, ← hret]
    exact hend
  · show load _ (_ % _) = _
    rw [hmod]
    refine hwrote.held.trans ?_
    rw [h.held, appendCmd, htext]
  · exact hwrote.inside bindBufSize (by omega) h.inside

/-- Any number of commands. -/
theorem boundTo_bindUpTo (mem : Nat → UInt8) (codes : List UInt8) :
    BoundTo (codes.foldl (appendCmd cfgPacket packet) (sendClientIp cfgPacket packet bindBufSize))
      (bindUpTo scratch cfgPacket packet mem codes) := by
  induction codes using List.reverseRecOn with
  | nil => exact boundTo_clientIp scratch cfgPacket packet mem
  | append_singleton codes code ih =>
    have hstep := (ih.bindCmd scratch cfgPacket packet code).2
    unfold bindUpTo at hstep ⊢
    rw [List.foldl_append, List.foldl_append]
    exact hstep

end

/-! ## Main result -/

/-- **Address lists are formatted in full and in bounds.**  For every option of at least four and
at most `MAX_DOPT_SIZE` bytes `ifcmd_iplist` writes inside its buffer only, and hands the dotted
quads of all its addresses to `ifcmd_raw`.  In `ifchange_bind` each command ends before the end of
the buffer, so `sizeof buf - bo` is the space left, and the buffer holds the commands in order. -/
theorem bind_buffers_in_bounds :
    (∀ (scratch : Nat → UInt8) (od : List UInt8), 4 ≤ od.length → od.length ≤ MAX_DOPT_SIZE →
      (∃ s, iplistBuf scratch od = .ok s ∧ s.buf.Within iplistBufSize ∧
        (∀ i, iplistBufSize ≤ i → s.buf.mem i = scratch i) ∧
        load s.buf.mem (s.bufoff + 1) = quads od (od.length / 4) ++ [0]) ∧
      ∀ (b : Buf) (off outlen : Nat) (optname : List UInt8),
        ifcmdIplistAt b off outlen scratch optname od = ifcmdRawAt b off outlen optname (quads od (od.length / 4)) ∧
        ifcmdIplist outlen optname od =
          if outlen < optname.length + (quads od (od.length / 4)).length + 3 then none
          else some (optname ++ 58 :: quads od (od.length / 4) ++ [59])) ∧
    ∀ (scratch : UInt8 → Nat → UInt8) (cfgPacket packet : DhcpMsg) (mem : Nat → UInt8),
      (∀ (pre : List UInt8) (code : UInt8) (post : List UInt8), bindCodes = pre ++ code :: post →
        let s := bindUpTo scratch cfgPacket packet mem pre
        bindSpace s.2 = bindBufSize - s.2 ∧
        s.2 + (sendCmdAt scratch cfgPacket packet s.1 s.2 (bindSpace s.2) code).2 < bindBufSize) ∧
      ∃ s, bindUpTo scratch cfgPacket packet mem bindCodes = s ∧
        s.2 < bindBufSize ∧ s.1.Within bindBufSize ∧ load s.1.mem s.2 = bindBuffer cfgPacket packet := by
  constructor
  · intro scratch od h4 hmax
    have hpos : 0 < od.length / 4 := by omega
    have htext : iplistText od = quads od (od.length / 4) := iplistText_eq_quads od h4
    obtain ⟨s, hs, hlisted⟩ := iplistBuf_listed scratch od h4 hmax
    refine ⟨⟨s, hs, hlisted.inside, hlisted.frame, ?_⟩, ?_⟩
    · rw [load_add_one, hlisted.held, hlisted.nul hpos]
    · intro b off outlen optname
      constructor
      · rw [ifcmdIplistAt_eq b off outlen scratch optname od hmax, ifcmdTextAt, if_neg (by omega), htext]
      · have hlong := length_iplistText_le od hmax
        rw [htext] at hlong
        rw [ifcmdIplist, if_neg (by omega), htext]
        split
        · next hroom =>
          rw [ifcmdRaw, if_neg (by simp only [INT_MAX]; omega), if_pos hroom]
        · next hroom =>
          rw [ifcmdRaw_of_room _ _ _ (by simp only [INT_MAX]; omega) (by omega),
            cstr_eq_self _ (zero_not_mem_quads od _)]
  · intro scratch cfgPacket packet mem
    constructor
    · intro pre code post _ s
      have hbound := boundTo_bindUpTo scratch cfgPacket packet mem pre
      exact ⟨bindSpace_of_lt s.2 hbound.lt, (hbound.bindCmd scratch cfgPacket packet code).1⟩
    · have hbound := boundTo_bindUpTo scratch cfgPacket packet mem bindCodes
      exact ⟨_, rfl, hbound.lt, hbound.inside, hbound.held⟩

theorem bind_buffers_in_bounds_two :
    (∃ s, iplistBuf (fun _ => 1) [192, 0, 2, 1, 192, 0, 2, 2, 7] = .ok s ∧ s.buf.Within iplistBufSize) ∧
    ifcmdIplist 2048 (ascii "dns") [192, 0, 2, 1, 192, 0, 2, 2, 7] = some (ascii "dns:192.0.2.1,192.0.2.2;") := by
  obtain ⟨⟨s, hs, hin, -⟩, hcmd⟩ :=
    bind_buffers_in_bounds.1 (fun _ => 1) [192, 0, 2, 1, 192, 0, 2, 2, 7] (by decide) (by decide)
  refine ⟨⟨s, hs, hin⟩, (hcmd ⟨fun _ => 0, []⟩ 0 2048 (ascii "dns")).2.trans ?_⟩
  decide +kernel

end Ndhc
