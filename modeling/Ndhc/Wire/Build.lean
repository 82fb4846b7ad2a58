import Ndhc.Wire.Receive

/-!
# Building the options of a message

`add_option_string` and the `add_u*_option` functions append an option in front of the END
marker they find with `get_end_option_idx`.  Of a message that starts empty the options field
is at any time the accepted options one after another, END, and zeros (`Holds`), whatever
bytes the data are made of, so the walkers of options.c read back what was put in
(`options_read_back`).
-/

namespace Ndhc

open Bytes

/-! ## Definitions -/

/-- `field` with `src` written at index `i`. -/
def poke (field : List UInt8) (i : Nat) (src : List UInt8) : List UInt8 :=
  field.take i ++ src.take (field.length - i) ++ field.drop (i + src.length)

theorem length_poke (field : List UInt8) (i : Nat) (src : List UInt8) :
    (poke field i src).length = field.length := by
  simp only [poke, List.length_append, List.length_take, List.length_drop]
  omega

theorem poke_append (as bs cs src : List UInt8) (h : src.length = bs.length) :
    poke (as ++ (bs ++ cs)) as.length src = as ++ (src ++ cs) := by
  have hdrop : (as ++ (bs ++ cs)).drop (as.length + src.length) = cs := by
    rw [h, ← List.drop_drop, List.drop_left, List.drop_left]
  unfold poke
  rw [List.take_left, hdrop, List.append_assoc, List.take_of_length_le (by
    simp only [List.length_append]
    omega)]

namespace DhcpMsg

/-- The message with another options field. -/
def withOptions (m : DhcpMsg) (field : List UInt8) (h : field.length = optionsSize) : DhcpMsg :=
  ⟨m.bytes.take optionsOffset ++ field, by
    rw [List.length_append, List.length_take, m.size_eq, h]
    rfl⟩

/-- Bytes written to `packet->options + i`. -/
def writeOptions (m : DhcpMsg) (i : Nat) (src : List UInt8) : DhcpMsg :=
  m.withOptions (poke m.options i src) (by rw [length_poke, length_options])

/-- What the senders transmit: nothing behind END, which reads as zeros. -/
def cutAtEnd (m : DhcpMsg) : DhcpMsg :=
  match getEndOptionIdx m with
  | none => m
  | some e => m.writeOptions (e + 1) (List.replicate (optionsSize - (e + 1)) 0)

end DhcpMsg

def sizeofOptionStr (code : UInt8) (datalen : Nat) : Nat :=
  if code = DCODE_PADDING ∨ code = DCODE_END then 1 else 2 + datalen

/-- `add_option_string`: the message and the bytes used, `0` if nothing was added. -/
def addOptionString (m : DhcpMsg) (code : UInt8) (str : List UInt8) : DhcpMsg × Nat :=
  let len := sizeofOptionStr code str.length
  if 255 < str.length ∨ len ≠ str.length + 2 then (m, 0)
  else
    match getEndOptionIdx m with
    | none => (m, 0)
    | some e =>
      if optionsSize ≤ e + len then (m, 0)
      else (m.writeOptions e (code :: str.length.toUInt8 :: str ++ [DCODE_END]), len)

/-- `add_option_check`; `none` for `-1`. -/
def addOptionCheck (m : DhcpMsg) (rlen : Nat) : Option Nat :=
  match getEndOptionIdx m with
  | none => none
  | some e => if optionsSize ≤ e + 2 + rlen then none else some e

/-- The `add_u*_option` functions: an option of the bytes `dp` a number has in memory. -/
def addUOption (m : DhcpMsg) (code : UInt8) (dp : List UInt8) : DhcpMsg × Nat :=
  match addOptionCheck m dp.length with
  | none => (m, 0)
  | some e => (m.writeOptions e (code :: dp.length.toUInt8 :: dp ++ [DCODE_END]), dp.length + 2)

def addU8Option (m : DhcpMsg) (code data : UInt8) : DhcpMsg × Nat := addUOption m code [data]

def addU16Option (m : DhcpMsg) (code : UInt8) (data : UInt16) : DhcpMsg × Nat :=
  addUOption m code (htons data.toNat)

def addU32Option (m : DhcpMsg) (code : UInt8) (data : UInt32) : DhcpMsg × Nat :=
  addUOption m code (htonl data)

/-- The message as `init_packet` has it when it sets `options[0]`. -/
def emptyPacket (xid : UInt32) : DhcpMsg :=
  ⟨[1, 1, 6, 0] ++ htonl xid ++ List.replicate 228 0 ++ htonl DHCP_MAGIC.toUInt32 ++
      DCODE_END :: List.replicate 307 0, by
    simp only [List.length_append, List.length_cons, List.length_replicate, length_htonl]
    rfl⟩

/-! ## Calls -/

/-- A code an option can have. -/
structure OptionCode where
  code : UInt8
  ne_padding : code ≠ DCODE_PADDING
  ne_end : code ≠ DCODE_END

inductive OptionCall where
  | string (c : OptionCode) (str : List UInt8)
  | u8 (c : OptionCode) (data : UInt8)
  | u16 (c : OptionCode) (data : UInt16)
  | u32 (c : OptionCode) (data : UInt32)

namespace OptionCall

def code : OptionCall → UInt8
  | .string c _ | .u8 c _ | .u16 c _ | .u32 c _ => c.code

/-- The data, as it lies in memory. -/
def data : OptionCall → List UInt8
  | .string _ str => str
  | .u8 _ data => [data]
  | .u16 _ data => htons data.toNat
  | .u32 _ data => htonl data

def apply : OptionCall → DhcpMsg → DhcpMsg × Nat
  | .string c str, m => addOptionString m c.code str
  | .u8 c data, m => addU8Option m c.code data
  | .u16 c data, m => addU16Option m c.code data
  | .u32 c data, m => addU32Option m c.code data

end OptionCall

/-- The message after a sequence of calls. -/
def build : List OptionCall → DhcpMsg → DhcpMsg
  | [], m => m
  | call :: calls, m => build calls (call.apply m).1

/-- The calls of a sequence that did not return `0`. -/
def accepted : List OptionCall → DhcpMsg → List OptionCall
  | [], _ => []
  | call :: calls, m =>
    if (call.apply m).2 = 0 then accepted calls (call.apply m).1
    else call :: accepted calls (call.apply m).1

/-- The data of the calls with code `c`, one after another. -/
def dataOf (c : UInt8) (calls : List OptionCall) : List UInt8 :=
  (calls.filter fun call => call.code = c).flatMap OptionCall.data

/-! ## The field -/

/-- An option as it lies in the field. -/
def OptionCall.encode (call : OptionCall) : List UInt8 :=
  call.code :: call.data.length.toUInt8 :: call.data

/-- Options, END, and zeros to the end of the field. -/
def optionField (calls : List OptionCall) : List UInt8 :=
  calls.flatMap OptionCall.encode ++
    DCODE_END :: List.replicate (optionsSize - 1 - (calls.flatMap OptionCall.encode).length) 0

/-- The message holds these options and no others. -/
structure Holds (m : DhcpMsg) (calls : List OptionCall) : Prop where
  options : m.options = optionField calls
  short : ∀ call ∈ calls, call.data.length ≤ 255
  file : m.file = List.replicate 128 0
  sname : m.sname = List.replicate 64 0

namespace DhcpMsg
variable (m : DhcpMsg) (field : List UInt8) (h : field.length = optionsSize)

theorem withOptions_options : (m.withOptions field h).options = field := by
  show (m.bytes.take optionsOffset ++ field).drop optionsOffset = field
  rw [List.drop_left' (by rw [List.length_take, m.size_eq]; rfl)]

theorem withOptions_self (h : m.options.length = optionsSize) : m.withOptions m.options h = m := by
  have hb : m.bytes.take optionsOffset ++ m.options = m.bytes := List.take_append_drop _ _
  unfold withOptions
  simp only [hb]

theorem withOptions_slice (off len : Nat) (hle : off + len ≤ optionsOffset) :
    slice (m.withOptions field h).bytes off len = slice m.bytes off len := by
  have hlen : (m.bytes.take optionsOffset).length = optionsOffset := by
    rw [List.length_take, m.size_eq]
    rfl
  show slice (m.bytes.take optionsOffset ++ field) off len = _
  rw [slice_append_left _ _ _ _ (by omega)]
  conv => rhs; rw [← List.take_append_drop optionsOffset m.bytes]
  rw [slice_append_left _ _ _ _ (by omega)]

theorem withOptions_file : (m.withOptions field h).file = m.file :=
  m.withOptions_slice field h 108 128 (by decide)

theorem withOptions_sname : (m.withOptions field h).sname = m.sname :=
  m.withOptions_slice field h 44 64 (by decide)

end DhcpMsg

/-! ## Walking over an option -/

section
variable (code : UInt8) (data rest : List UInt8)

theorem endWalk_skip (xs : List UInt8) (i : Nat) :
    endWalk (xs ++ rest) xs.length i = endWalk rest 0 (i + xs.length) := by
  induction xs generalizing i with
  | nil => rfl
  | cons x xs ih =>
    show endWalk (xs ++ rest) xs.length (i + 1) = _
    rw [ih, List.length_cons]
    congr 1
    omega

theorem doGetDhcpOpt_skip (c : UInt8) (dlen : Nat) (xs dbuf : List UInt8) :
    doGetDhcpOpt c dlen (xs ++ rest) xs.length dbuf = doGetDhcpOpt c dlen rest 0 dbuf := by
  induction xs with
  | nil => rfl
  | cons x xs ih => exact ih

theorem toNat_length (hlen : data.length ≤ 255) : data.length.toUInt8.toNat = data.length := by
  rw [Nat.toUInt8, UInt8.toNat_ofNat']
  omega

variable (hpad : code ≠ DCODE_PADDING) (hend : code ≠ DCODE_END) (hlen : data.length ≤ 255)
include hpad hend hlen

theorem endWalk_option (i : Nat) :
    endWalk (code :: data.length.toUInt8 :: data ++ rest) 0 i =
      endWalk rest 0 (i + (data.length + 2)) := by
  have hsize := toNat_length data hlen
  simp only [List.cons_append, endWalk, if_neg hpad, if_neg hend, List.length_cons]
  rw [if_neg (by omega)]
  show endWalk (data ++ rest) (data.length.toUInt8).toNat (i + 1 + 1) = _
  rw [hsize, endWalk_skip]
  congr 1
  omega

theorem doGetDhcpOpt_option (c : UInt8) (dlen : Nat) (dbuf : List UInt8) (hrest : rest ≠ [])
    (hroom : data.length + dbuf.length ≤ dlen) :
    doGetDhcpOpt c dlen (code :: data.length.toUInt8 :: data ++ rest) 0 dbuf =
      doGetDhcpOpt c dlen rest 0 (if code = c then dbuf ++ data else dbuf) := by
  have hsize := toNat_length data hlen
  have hpos := List.length_pos_iff.2 hrest
  have hat : at0 (data.length.toUInt8 :: (data ++ rest)) 0 = data.length.toUInt8 := rfl
  have hslice : slice (data.length.toUInt8 :: (data ++ rest)) 1 data.length = data := by
    show ((data ++ rest).take data.length) = data
    exact List.take_left
  simp only [List.cons_append, doGetDhcpOpt, if_neg hpad, if_neg hend, List.length_cons,
    List.length_append, hat, hsize, hslice, doGetDhcpOpt_skip]
  rw [if_neg (by omega)]
  split
  · rw [if_neg (by omega), if_neg (by omega)]
  · rfl

end

theorem OptionCall.code_ne (call : OptionCall) :
    call.code ≠ DCODE_PADDING ∧ call.code ≠ DCODE_END := by
  cases call with
  | string c _ => exact ⟨c.ne_padding, c.ne_end⟩
  | u8 c _ => exact ⟨c.ne_padding, c.ne_end⟩
  | u16 c _ => exact ⟨c.ne_padding, c.ne_end⟩
  | u32 c _ => exact ⟨c.ne_padding, c.ne_end⟩

section
variable (calls : List OptionCall) (rest : List UInt8) (hshort : ∀ call ∈ calls, call.data.length ≤ 255)
include hshort

theorem endWalk_options (i : Nat) :
    endWalk (calls.flatMap OptionCall.encode ++ rest) 0 i =
      endWalk rest 0 (i + (calls.flatMap OptionCall.encode).length) := by
  induction calls generalizing i with
  | nil => rfl
  | cons call calls ih =>
    obtain ⟨hpad, hend⟩ := call.code_ne
    have hfirst := hshort call List.mem_cons_self
    have hlater := fun c hc => hshort c (List.mem_cons_of_mem _ hc)
    rw [List.flatMap_cons, List.append_assoc]
    show endWalk (call.code :: call.data.length.toUInt8 :: call.data ++ _) 0 i = _
    rw [endWalk_option _ _ _ hpad hend hfirst, ih hlater]
    congr 1
    simp only [OptionCall.encode, List.length_append, List.length_cons]
    omega

theorem doGetDhcpOpt_options (c : UInt8) (dlen : Nat) (dbuf : List UInt8) (hrest : rest ≠ [])
    (hroom : (calls.flatMap OptionCall.encode).length + dbuf.length ≤ dlen) :
    doGetDhcpOpt c dlen (calls.flatMap OptionCall.encode ++ rest) 0 dbuf =
      doGetDhcpOpt c dlen rest 0 (dbuf ++ dataOf c calls) := by
  induction calls generalizing dbuf with
  | nil =>
    show doGetDhcpOpt c dlen rest 0 dbuf = doGetDhcpOpt c dlen rest 0 (dbuf ++ [])
    rw [List.append_nil]
  | cons call calls ih =>
    obtain ⟨hpad, hend⟩ := call.code_ne
    have hfirst := hshort call List.mem_cons_self
    have hlater := fun c hc => hshort c (List.mem_cons_of_mem _ hc)
    simp only [List.flatMap_cons, OptionCall.encode, List.length_append, List.length_cons] at hroom
    rw [List.flatMap_cons, List.append_assoc]
    show doGetDhcpOpt c dlen (call.code :: call.data.length.toUInt8 :: call.data ++ _) 0 dbuf = _
    rw [doGetDhcpOpt_option _ _ _ hpad hend hfirst c dlen dbuf (by simp [hrest]) (by omega)]
    by_cases hc : call.code = c
    · rw [if_pos hc, ih hlater _ (by rw [List.length_append]; omega)]
      simp [dataOf, hc]
    · rw [if_neg hc, ih hlater _ (by omega)]
      simp [dataOf, hc]

end

theorem doGetDhcpOpt_zeros (c : UInt8) (dlen n : Nat) (dbuf : List UInt8) :
    doGetDhcpOpt c dlen (List.replicate n 0) 0 dbuf = dbuf := by
  induction n with
  | zero => rfl
  | succ n ih => exact ih

/-! ## What a message holds is read back -/

section
variable (m : DhcpMsg) (calls : List OptionCall) (h : Holds m calls)
include h

theorem Holds.length_lt : (calls.flatMap OptionCall.encode).length < optionsSize := by
  have hl := congrArg List.length h.options
  rw [DhcpMsg.length_options] at hl
  simp only [optionField, List.length_append, List.length_cons, List.length_replicate] at hl
  omega

theorem Holds.getEndOptionIdx : getEndOptionIdx m = some (calls.flatMap OptionCall.encode).length := by
  unfold Ndhc.getEndOptionIdx
  rw [h.options, optionField, endWalk_options calls _ h.short, Nat.zero_add]
  rfl

theorem Holds.getDhcpOpt (c : UInt8) : getDhcpOpt m c MAX_DOPT_SIZE = dataOf c calls := by
  have hlt := h.length_lt
  have hsize : optionsSize ≤ MAX_DOPT_SIZE := by decide
  have hopts : doGetDhcpOpt c MAX_DOPT_SIZE m.options 0 [] = dataOf c calls := by
    rw [h.options, optionField, doGetDhcpOpt_options calls _ h.short c _ [] (by simp)
      (by simp only [List.length_nil]; omega)]
    rfl
  unfold Ndhc.getDhcpOpt
  simp only [hopts, h.file, h.sname, doGetDhcpOpt_zeros, ite_self]

/-- Behind END there is nothing to cut. -/
theorem Holds.cutAtEnd : m.cutAtEnd = m := by
  have hfield : m.options = (calls.flatMap OptionCall.encode ++ [DCODE_END]) ++
      (List.replicate (optionsSize - ((calls.flatMap OptionCall.encode).length + 1)) 0 ++ []) := by
    rw [h.options, optionField, List.append_nil, List.append_assoc, Nat.sub_sub, Nat.add_comm 1]
    rfl
  have hpoke : poke m.options ((calls.flatMap OptionCall.encode).length + 1)
      (List.replicate (optionsSize - ((calls.flatMap OptionCall.encode).length + 1)) 0) =
      m.options := by
    have hp := poke_append (calls.flatMap OptionCall.encode ++ [DCODE_END]) _ [] _
      (rfl : (List.replicate (optionsSize - ((calls.flatMap OptionCall.encode).length + 1))
        (0 : UInt8)).length = _)
    rw [List.length_append] at hp
    rw [← hfield] at hp
    exact hp
  unfold DhcpMsg.cutAtEnd
  rw [h.getEndOptionIdx]
  show m.withOptions (poke m.options _ _) _ = m
  simp only [hpoke]
  exact m.withOptions_self m.length_options

/-- The field with one more option in front of END. -/
theorem Holds.poke (call : OptionCall)
    (hroom : (calls.flatMap OptionCall.encode).length + (call.data.length + 2) < optionsSize) :
    poke m.options (calls.flatMap OptionCall.encode).length (call.encode ++ [DCODE_END]) =
      optionField (calls ++ [call]) := by
  have hsplit : optionsSize - 1 - (calls.flatMap OptionCall.encode).length =
      (call.data.length + 2) +
        (optionsSize - 1 - ((calls.flatMap OptionCall.encode).length + (call.data.length + 2))) := by
    omega
  rw [h.options, optionField, hsplit, List.replicate_add, ← List.cons_append,
    poke_append _ _ _ _ (by simp [OptionCall.encode])]
  simp [optionField, OptionCall.encode]

end

/-! ## Calls keep it so -/

/-- The four functions do the same, apart from the length of the data. -/
theorem OptionCall.apply_eq (call : OptionCall) (m : DhcpMsg) :
    call.apply m =
      if 255 < call.data.length then (m, 0)
      else
        match Ndhc.getEndOptionIdx m with
        | none => (m, 0)
        | some e =>
          if optionsSize ≤ e + (call.data.length + 2) then (m, 0)
          else (m.writeOptions e (call.encode ++ [DCODE_END]), call.data.length + 2) := by
  have hu (code : UInt8) (dp : List UInt8) (hdp : dp.length ≤ 255) : addUOption m code dp =
      if 255 < dp.length then (m, 0)
      else
        match Ndhc.getEndOptionIdx m with
        | none => (m, 0)
        | some e =>
          if optionsSize ≤ e + (dp.length + 2) then (m, 0)
          else (m.writeOptions e (code :: dp.length.toUInt8 :: dp ++ [DCODE_END]), dp.length + 2) := by
    unfold addUOption addOptionCheck
    rw [if_neg (by omega)]
    cases Ndhc.getEndOptionIdx m with
    | none => rfl
    | some e =>
      by_cases hfull : optionsSize ≤ e + (dp.length + 2)
      · simp only [if_pos hfull, if_pos (show optionsSize ≤ e + 2 + dp.length by omega)]
      · simp only [if_neg hfull, if_neg (show ¬ optionsSize ≤ e + 2 + dp.length by omega)]
  cases call with
  | string c str =>
    have hsize : sizeofOptionStr c.code str.length = str.length + 2 := by
      unfold sizeofOptionStr
      rw [if_neg (not_or.2 ⟨c.ne_padding, c.ne_end⟩), Nat.add_comm]
    show addOptionString m c.code str = _
    unfold addOptionString
    simp only [hsize, ne_eq, not_true_eq_false, or_false]
    rfl
  | u8 c data => exact hu c.code [data] (show 1 ≤ 255 by decide)
  | u16 c data => exact hu c.code (htons data.toNat) (show 2 ≤ 255 by decide)
  | u32 c data => exact hu c.code (htonl data) (show 4 ≤ 255 by decide)

/-- A call adds its option, or it returns `0` and changes nothing. -/
theorem Holds.apply (call : OptionCall) (m : DhcpMsg) (calls : List OptionCall) (h : Holds m calls) :
    ((call.apply m).2 ≠ 0 ∧ Holds (call.apply m).1 (calls ++ [call])) ∨ call.apply m = (m, 0) := by
  rw [call.apply_eq m, h.getEndOptionIdx]
  split
  · exact Or.inr rfl
  · next hlen =>
    by_cases hfull : optionsSize ≤ (calls.flatMap OptionCall.encode).length + (call.data.length + 2)
    · exact Or.inr (if_pos hfull)
    · refine Or.inl ?_
      simp only [if_neg hfull]
      refine ⟨by omega, ?_, ?_, ?_, ?_⟩
      · exact (m.withOptions_options _ _).trans (h.poke m calls call (by omega))
      · intro c hc
        rcases List.mem_append.1 hc with hc | hc
        · exact h.short c hc
        · rw [List.mem_singleton.1 hc]
          omega
      · exact (m.withOptions_file _ _).trans h.file
      · exact (m.withOptions_sname _ _).trans h.sname

theorem Holds.build (calls before : List OptionCall) (m : DhcpMsg) (h : Holds m before) :
    Holds (build calls m) (before ++ accepted calls m) := by
  induction calls generalizing m before with
  | nil =>
    rw [accepted, List.append_nil]
    exact h
  | cons call calls ih =>
    rcases h.apply call m before with ⟨hr, hm⟩ | hr
    · have hrest := ih (before ++ [call]) _ hm
      rw [List.append_assoc] at hrest
      rw [accepted, if_neg hr]
      exact hrest
    · have hm : (call.apply m).1 = m := by rw [hr]
      have hz : (call.apply m).2 = 0 := by rw [hr]
      rw [accepted, if_pos hz, Ndhc.build, hm]
      exact ih before m h

theorem OptionCall.apply_refused (call : OptionCall) (m : DhcpMsg) (hr : (call.apply m).2 = 0) :
    (call.apply m).1 = m := by
  rw [call.apply_eq m] at hr ⊢
  split
  · rfl
  · next hlen =>
    rw [if_neg hlen] at hr
    split
    · rfl
    · next e he =>
      rw [he] at hr
      split
      · rfl
      · next hfull =>
        simp only [if_neg hfull] at hr
        omega

/-- No options, and nothing in the fields that options may overload. -/
structure Blank (m : DhcpMsg) : Prop where
  options : m.options = DCODE_END :: List.replicate 307 0
  file : m.file = List.replicate 128 0
  sname : m.sname = List.replicate 64 0

/-- **Options are read back as they were added**, from the message built and from the one the
senders transmit; a call that returns `0` has changed nothing. -/
theorem options_read_back (m : DhcpMsg) (hm : Blank m) (calls : List OptionCall) :
    (∀ (call : OptionCall) (m' : DhcpMsg), (call.apply m').2 = 0 → (call.apply m').1 = m') ∧
    ∀ c : UInt8,
      getDhcpOpt (build calls m) c MAX_DOPT_SIZE = dataOf c (accepted calls m) ∧
      getDhcpOpt (build calls m).cutAtEnd c MAX_DOPT_SIZE = dataOf c (accepted calls m) := by
  have hholds : Holds (build calls m) (accepted calls m) :=
    Holds.build calls [] m ⟨hm.options, nofun, hm.file, hm.sname⟩
  refine ⟨OptionCall.apply_refused, fun c => ⟨hholds.getDhcpOpt _ _ c, ?_⟩⟩
  rw [hholds.cutAtEnd]
  exact hholds.getDhcpOpt _ _ c

/-- `init_packet` starts from a blank message. -/
theorem blank_emptyPacket (xid : UInt32) : Blank (emptyPacket xid) := by
  have hb : (emptyPacket xid).bytes = ([1, 1, 6, 0] ++ htonl xid) ++ (List.replicate 228 0 ++
      (htonl DHCP_MAGIC.toUInt32 ++ DCODE_END :: List.replicate 307 0)) := by
    simp only [emptyPacket, List.append_assoc]
  have hhead : ([1, 1, 6, 0] ++ htonl xid).length = 8 := rfl
  have hzeros : (List.replicate 228 (0 : UInt8)).length = 228 := List.length_replicate
  have hzero (a n : Nat) (h : a + n ≤ 228) :
      slice (emptyPacket xid).bytes (8 + a) n = List.replicate n 0 := by
    unfold slice
    rw [hb, ← List.drop_drop, List.drop_left' hhead,
      List.drop_append_of_le_length (by omega), List.drop_replicate,
      List.take_append_of_le_length (by rw [List.length_replicate]; omega), List.take_replicate,
      Nat.min_eq_left (by omega)]
  refine ⟨?_, hzero 100 128 (by decide), hzero 36 64 (by decide)⟩
  show (emptyPacket xid).bytes.drop (8 + (228 + 4)) = _
  rw [hb, ← List.drop_drop, List.drop_left' hhead, ← List.drop_drop, List.drop_left' hzeros]
  rfl

/-- A parameter whose bytes look like an option and END, added around a number. -/
def exampleCalls : List OptionCall :=
  [.string ⟨61, by decide, by decide⟩ [53, 1, 255, 0], .u32 ⟨50, by decide, by decide⟩ 0x0a000001,
    .u8 ⟨61, by decide, by decide⟩ 255]

theorem options_read_back_example :
    getDhcpOpt (build exampleCalls (emptyPacket 7)).cutAtEnd 61 MAX_DOPT_SIZE =
      [53, 1, 255, 0, 255] := by
  have h := (options_read_back (emptyPacket 7) (blank_emptyPacket 7) exampleCalls).2 61
  rw [h.2]
  decide +kernel

end Ndhc
