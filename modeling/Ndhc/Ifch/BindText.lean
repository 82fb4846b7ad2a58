import Mathlib.Algebra.BigOperators.Group.Finset.Piecewise
import Mathlib.Algebra.Order.BigOperators.Group.Finset
import Ndhc.Ifch.Codec

/-!
# The bind buffer has room

The options of one packet share the 500 bytes of its option fields, and every command's
text takes at most four times the bytes its option does.  So `ifchange_bind` never drops a
command for want of room: its buffer is the commands of the packet one after the other
(`bindBuffer_eq`).
-/

namespace Ndhc

open Bytes

/-! ## The bytes options take up -/

/-- The bytes taken by the options with this code that lie whole inside the field. -/
def optSpace (code : UInt8) : List UInt8 → Nat → Nat
  | [], _ => 0
  | _ :: bs, k + 1 => optSpace code bs k
  | b :: bs, 0 =>
    if b = DCODE_PADDING then optSpace code bs 0
    else if b = DCODE_END then 0
    else if bs.length ≤ 1 then 0
    else
      (if b = code ∧ (at0 bs 0).toNat + 1 ≤ bs.length then (at0 bs 0).toNat + 2 else 0) +
        optSpace code bs ((at0 bs 0).toNat + 1)

/-- An option's data with its code and length bytes; nothing for an absent option. -/
def optCost (od : List UInt8) : Nat := if od = [] then 0 else od.length + 2

theorem optCost_append_le (as bs : List UInt8) : optCost (as ++ bs) ≤ optCost as + (bs.length + 2) := by
  unfold optCost
  by_cases ha : as = []
  · subst ha
    split <;> simp
  · rw [if_neg (by simp [ha]), if_neg ha, List.length_append]
    omega

theorem optCost_doGetDhcpOpt_le (code : UInt8) (dlen : Nat) (bs : List UInt8) (k : Nat)
    (dbuf : List UInt8) :
    optCost (doGetDhcpOpt code dlen bs k dbuf) ≤ optCost dbuf + optSpace code bs k := by
  induction bs generalizing k dbuf with
  | nil => simp [doGetDhcpOpt]
  | cons b bs ih =>
    cases k with
    | succ k => exact ih k dbuf
    | zero =>
      simp only [doGetDhcpOpt, optSpace]
      split
      · exact ih 0 dbuf
      · split
        · omega
        · split
          · omega
          · by_cases hb : b = code
            · rw [if_pos hb]
              split
              · omega
              · split
                · omega
                · next hfit =>
                  have hle : (at0 bs 0).toNat + 1 ≤ bs.length := by omega
                  rw [if_pos ⟨hb, hle⟩]
                  have h1 := ih ((at0 bs 0).toNat + 1) (dbuf ++ slice bs 1 (at0 bs 0).toNat)
                  have h2 := optCost_append_le dbuf (slice bs 1 (at0 bs 0).toNat)
                  rw [length_slice bs 1 _ (by omega)] at h2
                  omega
            · rw [if_neg hb, if_neg (fun h => hb h.1), Nat.zero_add]
              exact ih _ dbuf

/-- Options of different codes take up different bytes of a field. -/
theorem sum_optSpace_le (codes : Finset UInt8) (bs : List UInt8) (k : Nat) :
    ∑ c ∈ codes, optSpace c bs k ≤ bs.length - k := by
  induction bs generalizing k with
  | nil => simp [optSpace]
  | cons b bs ih =>
    cases k with
    | succ k =>
      have := ih k
      simp only [optSpace, List.length_cons]
      omega
    | zero =>
      simp only [optSpace, List.length_cons]
      split
      · have := ih 0
        omega
      · split
        · simp
        · split
          · simp
          · rw [Finset.sum_add_distrib]
            have hrest := ih ((at0 bs 0).toNat + 1)
            by_cases hle : (at0 bs 0).toNat + 1 ≤ bs.length
            · have hone : ∑ c ∈ codes, (if b = c ∧ (at0 bs 0).toNat + 1 ≤ bs.length then
                  (at0 bs 0).toNat + 2 else 0) ≤ (at0 bs 0).toNat + 2 := by
                simp only [hle, and_true, Finset.sum_ite_eq]
                split <;> omega
              omega
            · have hone : ∑ c ∈ codes, (if b = c ∧ (at0 bs 0).toNat + 1 ≤ bs.length then
                  (at0 bs 0).toNat + 2 else 0) = 0 := by
                simp [hle]
              omega

/-- The option of a packet, as `send_cmd` reads it. -/
def option (m : DhcpMsg) (code : UInt8) : List UInt8 := getDhcpOpt m code MAX_DOPT_SIZE

theorem optCost_overloaded_le (code : UInt8) (b : Prop) [Decidable b] (bs dbuf : List UInt8) :
    optCost (if b then doGetDhcpOpt code MAX_DOPT_SIZE bs 0 dbuf else dbuf) ≤
      optCost dbuf + optSpace code bs 0 := by
  split
  · exact optCost_doGetDhcpOpt_le code MAX_DOPT_SIZE bs 0 dbuf
  · omega

theorem optCost_option_le (m : DhcpMsg) (code : UInt8) :
    optCost (option m code) ≤
      optSpace code m.options 0 + optSpace code m.file 0 + optSpace code m.sname 0 := by
  have h1 := optCost_doGetDhcpOpt_le code MAX_DOPT_SIZE m.options 0 []
  have h2 := optCost_overloaded_le code (overloadValue m &&& 1 ≠ 0) m.file
    (doGetDhcpOpt code MAX_DOPT_SIZE m.options 0 [])
  have h3 := optCost_overloaded_le code (overloadValue m &&& 2 ≠ 0) m.sname
    (if overloadValue m &&& 1 ≠ 0 then doGetDhcpOpt code MAX_DOPT_SIZE m.file 0
      (doGetDhcpOpt code MAX_DOPT_SIZE m.options 0 [])
    else doGetDhcpOpt code MAX_DOPT_SIZE m.options 0 [])
  have hnil : optCost [] = 0 := rfl
  simp only [option, getDhcpOpt]
  omega

/-- All options of a packet fit its three fields. -/
theorem sum_optCost_le (m : DhcpMsg) (codes : Finset UInt8) :
    ∑ c ∈ codes, optCost (option m c) ≤ 500 := by
  have hb : ∑ c ∈ codes, optCost (option m c) ≤
      ∑ c ∈ codes, (optSpace c m.options 0 + optSpace c m.file 0 + optSpace c m.sname 0) :=
    Finset.sum_le_sum fun c _ => optCost_option_le m c
  rw [Finset.sum_add_distrib, Finset.sum_add_distrib] at hb
  have h1 := sum_optSpace_le codes m.options 0
  have h2 := sum_optSpace_le codes m.file 0
  have h3 := sum_optSpace_le codes m.sname 0
  have hm := m.size_eq
  have ho : m.options.length = 308 := m.length_options
  have hf : m.file.length ≤ 128 := by
    unfold DhcpMsg.file slice
    rw [List.length_take]
    omega
  have hs : m.sname.length ≤ 64 := by
    unfold DhcpMsg.sname slice
    rw [List.length_take]
    omega
  omega

/-! ## The room a command needs -/

/-- The bytes an option needs, and the word and the text its encoder hands to `ifcmd_raw`. -/
def optEncoding (code : UInt8) (od : List UInt8) : Nat × List UInt8 × List UInt8 :=
  if code = DCODE_ROUTER then (4, ascii "routr", inetNtop (od.take 4))
  else if code = DCODE_DNS then (4, ascii "dns", iplistText od)
  else if code = DCODE_HOSTNAME then (1, ascii "host", od)
  else if code = DCODE_DOMAIN then (1, ascii "dom", od)
  else if code = DCODE_MTU then (2, ascii "mtu", decimal (be (od.take 2)))
  else (4, ascii "wins", iplistText od)

/-- Each encoder `ifchange_bind` uses hands a text to `ifcmd_raw` once it has enough bytes. -/
theorem ifchdCmd_encoding (code : UInt8) (hc : code ∈ bindCodes) (od : List UInt8) (hne : od ≠ [])
    (bl : Nat) :
    ifchdCmd bl od code = if od.length < (optEncoding code od).1 then none
      else ifcmdRaw bl (optEncoding code od).2.1 (optEncoding code od).2.2 := by
  have h1 : ¬ od.length < 1 := fun h => hne (List.length_eq_zero_iff.1 (by omega))
  simp only [bindCodes, List.mem_cons, List.not_mem_nil, or_false] at hc
  rcases hc with rfl | rfl | rfl | rfl | rfl | rfl
  · rfl
  · rfl
  · exact (if_neg h1).symm
  · exact (if_neg h1).symm
  · rfl
  · rfl

/-- The text needs at most four bytes for each one of the option. -/
theorem optEncoding_cost (code : UInt8) (od : List UInt8) (hne : od ≠ []) (hl : od.length ≤ MAX_DOPT_SIZE) :
    0 ∉ (optEncoding code od).2.1 ∧ (optEncoding code od).2.2.length ≤ INT_MAX ∧
      ((optEncoding code od).1 ≤ od.length →
        (optEncoding code od).2.1.length + (optEncoding code od).2.2.length + 2 ≤ 4 * optCost od) := by
  have hcost : optCost od = od.length + 2 := if_neg hne
  have hip := length_inetNtop_le (od.take 4)
  have hrest := length_iplistRest_le (od.drop 4)
  have hlist : 4 ≤ od.length → (iplistText od).length ≤ 4 * od.length - 1 := by
    intro h4
    simp only [iplistText, List.length_append, List.length_drop] at hrest ⊢
    omega
  have hlistMax := length_iplistText_le od hl
  have hdec : (decimal (be (od.take 2))).length ≤ 5 := by
    refine (length_decimal_le_iff _ 5 (by decide)).2 ?_
    have hlt := be_lt (od.take 2)
    have hpow : 256 ^ (od.take 2).length ≤ 256 ^ 2 :=
      Nat.pow_le_pow_right (by decide) (by simp)
    omega
  rw [hcost]
  simp only [MAX_DOPT_SIZE] at hl
  simp only [INT_MAX]
  unfold optEncoding
  repeat' split
  · refine ⟨(by decide : 0 ∉ ascii "routr"), by show (inetNtop (od.take 4)).length ≤ _; omega, ?_⟩
    intro (h4 : 4 ≤ od.length)
    show 5 + (inetNtop (od.take 4)).length + 2 ≤ _
    omega
  · refine ⟨(by decide : 0 ∉ ascii "dns"), by show (iplistText od).length ≤ _; omega, ?_⟩
    intro (h4 : 4 ≤ od.length)
    have := hlist h4
    show 3 + (iplistText od).length + 2 ≤ _
    omega
  · refine ⟨(by decide : 0 ∉ ascii "host"), by show od.length ≤ _; omega, ?_⟩
    intro _
    show 4 + od.length + 2 ≤ _
    omega
  · refine ⟨(by decide : 0 ∉ ascii "dom"), by show od.length ≤ _; omega, ?_⟩
    intro _
    show 3 + od.length + 2 ≤ _
    omega
  · refine ⟨(by decide : 0 ∉ ascii "mtu"), by show (decimal (be (od.take 2))).length ≤ _; omega, ?_⟩
    intro (h2 : 2 ≤ od.length)
    show 3 + (decimal (be (od.take 2))).length + 2 ≤ _
    omega
  · refine ⟨(by decide : 0 ∉ ascii "wins"), by show (iplistText od).length ≤ _; omega, ?_⟩
    intro (h4 : 4 ≤ od.length)
    have := hlist h4
    show 4 + (iplistText od).length + 2 ≤ _
    omega

theorem ifcmdRaw_of_room (bl : Nat) (name data : List UInt8) (hd : data.length ≤ INT_MAX)
    (hbl : name.length + data.length + 3 ≤ bl) :
    ifcmdRaw bl name data = some (name ++ 58 :: cstr data ++ [59]) := by
  have hle := length_cstr_le data
  have hlen : (name ++ 58 :: cstr data ++ [59]).length ≤ name.length + data.length + 2 := by
    simp only [List.length_append, List.length_cons, List.length_nil]
    omega
  simp only [ifcmdRaw, if_neg (by omega : ¬ INT_MAX < data.length),
    if_neg (by omega : ¬ bl < name.length + data.length + 3),
    if_neg (by omega : ¬ bl ≤ (name ++ 58 :: cstr data ++ [59]).length)]

theorem length_option_le (m : DhcpMsg) (code : UInt8) : (option m code).length ≤ MAX_DOPT_SIZE := by
  have h := sum_optCost_le m {code}
  rw [Finset.sum_singleton, optCost] at h
  split at h
  · next h0 => simp [h0]
  · simp only [MAX_DOPT_SIZE]
    omega

/-- The command `send_cmd` writes where there is room for it. -/
def cmdText (cfgPacket packet : DhcpMsg) (code : UInt8) : List UInt8 :=
  sendCmd cfgPacket packet bindBufSize code

section
variable (cfgPacket packet : DhcpMsg)

/-- Whether `send_cmd` has something to write: the option is there and not the one in force. -/
def sent (code : UInt8) : Prop :=
  option packet code ≠ [] ∧ option cfgPacket code ≠ option packet code

instance (code : UInt8) : Decidable (sent cfgPacket packet code) :=
  inferInstanceAs (Decidable (_ ∧ _))

theorem sendCmd_eq (olen : Nat) (code : UInt8) :
    sendCmd cfgPacket packet olen code =
      if sent cfgPacket packet code then (ifchdCmd olen (option packet code) code).getD [] else [] := by
  have h0 : (getDhcpOpt packet code MAX_DOPT_SIZE).length = 0 ↔ option packet code = [] :=
    List.length_eq_zero_iff
  show (if (getDhcpOpt packet code MAX_DOPT_SIZE).length = 0 then []
    else if option cfgPacket code = option packet code then []
    else (ifchdCmd olen (option packet code) code).getD []) = _
  by_cases hne : option packet code = []
  · rw [if_pos (h0.2 hne), if_neg fun h => h.1 hne]
  · rw [if_neg fun h => hne (h0.1 h)]
    by_cases heq : option cfgPacket code = option packet code
    · rw [if_pos heq, if_neg fun h => h.2 heq]
    · rw [if_neg heq, if_pos ⟨hne, heq⟩]

theorem sendCmd_of_room (code : UInt8) (hc : code ∈ bindCodes) (olen : Nat)
    (h : 4 * optCost (option packet code) + 1 ≤ olen) :
    sendCmd cfgPacket packet olen code = cmdText cfgPacket packet code ∧
      (cmdText cfgPacket packet code).length ≤ 4 * optCost (option packet code) := by
  have hmax : 4 * optCost (option packet code) + 1 ≤ bindBufSize := by
    have := sum_optCost_le packet {code}
    rw [Finset.sum_singleton] at this
    simp only [bindBufSize]
    omega
  unfold cmdText
  rw [sendCmd_eq, sendCmd_eq]
  by_cases hs : sent cfgPacket packet code
  · obtain ⟨-, hd, hroom⟩ := optEncoding_cost code (option packet code) hs.1 (length_option_le packet code)
    rw [if_pos hs, if_pos hs, ifchdCmd_encoding code hc _ hs.1, ifchdCmd_encoding code hc _ hs.1]
    split
    · exact ⟨rfl, Nat.zero_le _⟩
    · next hn =>
      have hr := hroom (by omega)
      rw [ifcmdRaw_of_room olen _ _ hd (by omega), ifcmdRaw_of_room bindBufSize _ _ hd (by omega)]
      refine ⟨rfl, ?_⟩
      have := length_cstr_le (optEncoding code (option packet code)).2.2
      simp only [Option.getD_some, List.length_append, List.length_cons, List.length_nil]
      omega
  · rw [if_neg hs, if_neg hs]
    exact ⟨rfl, Nat.zero_le _⟩

theorem foldl_appendCmd (codes buf : List UInt8) (hc : ∀ c ∈ codes, c ∈ bindCodes)
    (h : buf.length + 4 * (codes.map fun c => optCost (option packet c)).sum + 1 ≤ bindBufSize) :
    codes.foldl (appendCmd cfgPacket packet) buf = buf ++ codes.flatMap (cmdText cfgPacket packet) := by
  induction codes generalizing buf with
  | nil => simp
  | cons c codes ih =>
    simp only [List.map_cons, List.sum_cons] at h
    obtain ⟨heq, hlen⟩ := sendCmd_of_room cfgPacket packet c (hc c List.mem_cons_self)
      (bindBufSize - buf.length) (by omega)
    have happ : appendCmd cfgPacket packet buf c = buf ++ cmdText cfgPacket packet c := by
      rw [appendCmd, heq]
    rw [List.foldl_cons, happ, ih _ (fun c' hc' => hc c' (List.mem_cons_of_mem _ hc'))
      (by rw [List.length_append]; omega)]
    simp

theorem length_sendClientIp_le :
    (sendClientIp cfgPacket packet bindBufSize).length ≤
      34 + 4 * (optCost (option packet DCODE_SUBNET) + optCost (option packet DCODE_BROADCAST)) := by
  have hip := length_inetNtop_le (slice packet.bytes 16 4)
  have hcost (code : UInt8) (h : 4 ≤ (option packet code).length) : 6 ≤ optCost (option packet code) := by
    unfold optCost
    split
    · next h0 => rw [h0] at h; simp at h
    · omega
  have haddr (code : UInt8) (a : List UInt8 × Bool) (h : addrOption cfgPacket packet code = some a) :
      a.1.length ≤ 15 ∧ 6 ≤ optCost (option packet code) := by
    unfold addrOption at h
    simp only at h
    split at h
    · next h4 =>
      cases h
      exact ⟨length_inetNtop_le _, hcost code h4⟩
    · cases h
  have hsn : (((addrOption cfgPacket packet DCODE_SUBNET).map (·.1)).getD
      (ascii "255.255.255.0")).length ≤ 13 + 4 * optCost (option packet DCODE_SUBNET) := by
    cases hs : addrOption cfgPacket packet DCODE_SUBNET with
    | none =>
      have : (ascii "255.255.255.0").length = 13 := rfl
      simp only [Option.map_none, Option.getD_none]
      omega
    | some a =>
      have := haddr _ a hs
      simp only [Option.map_some, Option.getD_some]
      omega
  have h4 : (ascii "ip4:").length = 4 := rfl
  unfold sendClientIp
  simp only
  split
  · simp
  · split
    · next bc hbc =>
      have := haddr _ bc hbc
      split
      · simp
      · simp only [List.length_append, List.length_cons, List.length_nil]
        omega
    · split
      · simp
      · simp only [List.length_append, List.length_cons, List.length_nil]
        omega

/-- The options of one packet leave room for all its commands. -/
theorem bind_room :
    (sendClientIp cfgPacket packet bindBufSize).length +
      4 * (bindCodes.map fun c => optCost (option packet c)).sum + 1 ≤ bindBufSize := by
  have hip := length_sendClientIp_le cfgPacket packet
  have hsum := sum_optCost_le packet {DCODE_SUBNET, DCODE_BROADCAST, DCODE_ROUTER, DCODE_DNS,
    DCODE_HOSTNAME, DCODE_DOMAIN, DCODE_MTU, DCODE_WINS}
  rw [Finset.sum_insert (by decide), Finset.sum_insert (by decide), Finset.sum_insert (by decide),
    Finset.sum_insert (by decide), Finset.sum_insert (by decide), Finset.sum_insert (by decide),
    Finset.sum_insert (by decide), Finset.sum_singleton] at hsum
  simp only [bindCodes, List.map_cons, List.map_nil, List.sum_cons, List.sum_nil, bindBufSize] at hip ⊢
  omega

/-- **Nothing is dropped for want of room.** -/
theorem bindBuffer_eq :
    bindBuffer cfgPacket packet =
      sendClientIp cfgPacket packet bindBufSize ++ bindCodes.flatMap (cmdText cfgPacket packet) :=
  foldl_appendCmd cfgPacket packet bindCodes _ (fun _ h => h) (bind_room cfgPacket packet)

theorem length_flatMap_cmdText_le (codes : List UInt8) (hc : ∀ c ∈ codes, c ∈ bindCodes) :
    (codes.flatMap (cmdText cfgPacket packet)).length ≤
      4 * (codes.map fun c => optCost (option packet c)).sum := by
  induction codes with
  | nil => simp
  | cons c codes ih =>
    have h1 := (sendCmd_of_room cfgPacket packet c (hc c List.mem_cons_self) _ (Nat.le_refl _)).2
    have h2 := ih fun c' hc' => hc c' (List.mem_cons_of_mem _ hc')
    simp only [List.flatMap_cons, List.length_append, List.map_cons, List.sum_cons]
    omega

theorem length_bindBuffer_lt : (bindBuffer cfgPacket packet).length < bindBufSize := by
  have h1 := bind_room cfgPacket packet
  have h2 := length_flatMap_cmdText_le cfgPacket packet bindCodes fun _ h => h
  rw [bindBuffer_eq, List.length_append]
  omega

theorem cmdText_eq_nil (code : UInt8) (h : ¬ sent cfgPacket packet code) :
    cmdText cfgPacket packet code = [] := by
  rw [cmdText, sendCmd_eq, if_neg h]

/-- The command of an option that is sent. -/
theorem cmdText_eq (code : UInt8) (hc : code ∈ bindCodes) (h : sent cfgPacket packet code) :
    cmdText cfgPacket packet code =
      if (option packet code).length < (optEncoding code (option packet code)).1 then []
      else (optEncoding code (option packet code)).2.1 ++
        58 :: cstr (optEncoding code (option packet code)).2.2 ++ [59] := by
  obtain ⟨-, hd, hroom⟩ := optEncoding_cost code (option packet code) h.1 (length_option_le packet code)
  have hcost := sum_optCost_le packet {code}
  rw [Finset.sum_singleton] at hcost
  rw [cmdText, sendCmd_eq, if_pos h, ifchdCmd_encoding code hc _ h.1]
  split
  · rfl
  · next hn =>
    have hr := hroom (by omega)
    rw [ifcmdRaw_of_room _ _ _ hd (by simp only [bindBufSize]; omega)]
    rfl

theorem zero_not_mem_cmdText (code : UInt8) (hc : code ∈ bindCodes) :
    0 ∉ cmdText cfgPacket packet code := by
  by_cases h : sent cfgPacket packet code
  · obtain ⟨h0, -, -⟩ := optEncoding_cost code (option packet code) h.1 (length_option_le packet code)
    rw [cmdText_eq cfgPacket packet code hc h]
    split
    · simp
    · simp [h0, zero_not_mem_cstr]
  · simp [cmdText_eq_nil cfgPacket packet code h]

end

end Ndhc
