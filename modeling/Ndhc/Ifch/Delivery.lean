import Ndhc.Ifch.Steer

/-!
# From ndhc to ifch

`ifchange_bind` writes its buffer of up to 2047 bytes as one datagram, and `process_client_socket`
receives into a buffer of `MAX_BUF`: what is behind the first `MAX_BUF - 1` bytes of a datagram is
gone.  `bind_delivered_iff` says which binds arrive whole, by the lengths of their commands.
-/

namespace Ndhc

open Bytes

/-- What `safe_recv` leaves of a datagram. -/
def received (datagram : List UInt8) : List UInt8 := datagram.take (MAX_BUF - 1)

/-- `process_client_socket` with a datagram to read: the reply, and ifch unless it ends. -/
def processClientSocket {τ : Type} (env : IfchEnv τ) (ibuf datagram : List UInt8) (s : Ifch τ) :
    Char × Option (List UInt8 × Ifch τ) :=
  let ebr := executeBuffer (ifchDispatch env) ibuf (received datagram) s
  if ebr.1 < 0 then ('-', if ebr.1 = -99 then none else some ebr.2) else ('+', some ebr.2)

section
variable (cfgPacket packet : DhcpMsg)

/-- The bytes of the command for an option: its word, its text up to a NUL, `:` and `;`. -/
def cmdLength (code : UInt8) : Nat :=
  if sent cfgPacket packet code ∧
      (optEncoding code (option packet code)).1 ≤ (option packet code).length
  then (optEncoding code (option packet code)).2.1.length +
    (cstr (optEncoding code (option packet code)).2.2).length + 2
  else 0

/-- The bytes of all commands of a bind. -/
def bindLength : Nat :=
  (sendClientIp cfgPacket packet bindBufSize).length + (bindCodes.map (cmdLength cfgPacket packet)).sum

theorem length_cmdText (code : UInt8) (hc : code ∈ bindCodes) :
    (cmdText cfgPacket packet code).length = cmdLength cfgPacket packet code := by
  unfold cmdLength
  by_cases hs : sent cfgPacket packet code
  · rw [cmdText_eq cfgPacket packet code hc hs]
    by_cases hlen : (option packet code).length < (optEncoding code (option packet code)).1
    · rw [if_pos hlen, if_neg fun h => absurd h.2 (by omega)]
      rfl
    · rw [if_neg hlen, if_pos ⟨hs, by omega⟩]
      simp only [List.length_append, List.length_cons, List.length_nil]
      omega
  · rw [cmdText_eq_nil cfgPacket packet code hs, if_neg fun h => hs h.1]
    rfl

theorem length_bindBuffer : (bindBuffer cfgPacket packet).length = bindLength cfgPacket packet := by
  rw [bindBuffer_eq, List.length_append, List.length_flatMap,
    List.map_congr_left fun c hc => length_cmdText cfgPacket packet c hc]
  rfl

/-- A bind arrives whole: it is no longer than a receive, and what is received is what was sent. -/
def Delivered : Prop :=
  (bindBuffer cfgPacket packet).length ≤ MAX_BUF - 1 ∧
    received (bindBuffer cfgPacket packet) = bindBuffer cfgPacket packet

theorem delivered_iff_length :
    Delivered cfgPacket packet ↔ (bindBuffer cfgPacket packet).length ≤ MAX_BUF - 1 :=
  ⟨And.left, fun h => ⟨h, List.take_of_length_le h⟩⟩

/-- Four bytes of text for each byte of the options are enough. -/
theorem delivered_of_small
    (h : 34 + 4 * (optCost (option packet DCODE_SUBNET) + optCost (option packet DCODE_BROADCAST) +
      (bindCodes.map fun c => optCost (option packet c)).sum) ≤ MAX_BUF - 1) :
    Delivered cfgPacket packet := by
  rw [delivered_iff_length, bindBuffer_eq, List.length_append]
  have hip := length_sendClientIp_le cfgPacket packet
  have hcmds := length_flatMap_cmdText_le cfgPacket packet bindCodes fun _ hc => hc
  omega

/-- **Command buffers that are delivered whole.** -/
theorem bind_delivered_iff :
    Delivered cfgPacket packet ↔ bindLength cfgPacket packet ≤ MAX_BUF - 1 := by
  rw [delivered_iff_length, length_bindBuffer]

end

/-- An acknowledgement with 63 nameservers. -/
def ackServers : DhcpMsg := ackWith ([6, 252] ++ List.replicate 252 200 ++ [255]) (by decide +kernel)

/-- The datagram is cut within the list of nameservers, and ifch ends on the incomplete command. -/
theorem bind_truncated :
    MAX_BUF - 1 < (bindBuffer .zero ackServers).length ∧
      received (bindBuffer .zero ackServers) ≠ bindBuffer .zero ackServers ∧
      (processClientSocket exampleEnv [] (bindBuffer .zero ackServers) exampleIfch).1 = '-' ∧
      (processClientSocket exampleEnv [] (bindBuffer .zero ackServers) exampleIfch).2.isNone = true ∧
      (executeBuffer (ifchDispatch exampleEnv) [] (bindBuffer .zero ackServers) exampleIfch).1 = 0 := by
  decide +kernel

end Ndhc
