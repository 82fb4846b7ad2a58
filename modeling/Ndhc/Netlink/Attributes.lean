import Mathlib.Data.List.Induction
import Ndhc.Lib.Memory
import Ndhc.Netlink.Foreach

/-!
# Adding attributes to a request

`nl_add_rtattr` puts an attribute behind a message, at its length rounded up, and lets the new length
end at a multiple of four; `nl_rtattr_parse` goes along by the same rounded lengths.  What the one has
added the other finds, up to the last byte (`Laid`).  The length is kept in 32 bits, though, and
compared with `max_length` before it is cut to them: a buffer of 4 GiB can be filled until it starts
again at the header.  `attributes_round_trip_iff`: shorter buffers are exactly those where nothing of
the kind happens.
-/

namespace Ndhc

open Records

/-! ## Definitions -/

def E2BIG : Int := 7

/-- The memory of a `uint16_t` and a `uint32_t`. -/
def u16Bytes (v : Nat) : List UInt8 := [v.toUInt8, (v / 2 ^ 8).toUInt8]
def u32Bytes (v : Nat) : List UInt8 := u16Bytes v ++ u16Bytes (v / 2 ^ 16)

/-- What a caller adds: a type and data whose `RTA_LENGTH` a `uint16_t` can hold. -/
structure Attr where
  type : Nat
  data : List UInt8
  type_lt : type < 2 ^ 16
  length_lt : 4 + data.length < 2 ^ 16
  deriving DecidableEq

/-- `RTA_ALIGN(RTA_LENGTH(data_length))` -/
def Attr.size (a : Attr) : Nat := nlAlign (4 + a.data.length)

section
variable (mem : Nat → UInt8) (maxLength : Nat)

/-- `NLMSG_ALIGN(n->nlmsg_len)`, in 32 bits; `NLMSG_TAIL` is there. -/
def nlmsgTail : Nat := (nlmsgLen mem 0 + 3) % 2 ^ 32 / 4 * 4

/-- The assignments of `nl_add_rtattr` and its `memcpy`: where, and which bytes. -/
def attrStores (a : Attr) : List (Nat × List UInt8) :=
  [(nlmsgTail mem + 2, u16Bytes a.type), (nlmsgTail mem, u16Bytes (4 + a.data.length)),
    (nlmsgTail mem + 4, a.data), (0, u32Bytes (nlmsgTail mem + a.size))]

/-- `nl_add_rtattr` on a message at the start of memory. -/
def nlAddRtattr (a : Attr) : (Nat → UInt8) × Int :=
  if maxLength < nlmsgTail mem + a.size then (mem, -E2BIG)
  else ((attrStores mem a).foldl (fun m s => store m s.1 s.2) mem, 0)

/-- The attribute at `p`, as `workfn` finds it: `rta_type`, and `rta_len` bytes with the header. -/
def attrAt (p : Nat) : Nat × List UInt8 := (rtaType mem p, bytesAt mem (p + 4) (rtaLen mem p - 4))

end

/-- A request under way, with the attributes for which `nl_add_rtattr` returned `0`. -/
structure Adding where
  mem : Nat → UInt8
  added : List Attr

def Adding.add (maxLength : Nat) (s : Adding) (a : Attr) : Adding :=
  let r := nlAddRtattr s.mem maxLength a
  ⟨r.1, if r.2 = 0 then s.added ++ [a] else s.added⟩

/-- Any sequence of calls. -/
def addAll (maxLength : Nat) (mem : Nat → UInt8) (calls : List Attr) : Adding :=
  calls.foldl (Adding.add maxLength) ⟨mem, []⟩

/-! ## Statement -/

/-- A request of `maxLength` bytes with room for the fixed part, zeroed behind it, whose length is
`NLMSG_LENGTH` of that part. -/
structure Request (fixed maxLength : Nat) (mem : Nat → UInt8) : Prop where
  len : nlmsgLen mem 0 = NLMSG_HDRLEN + fixed
  room : NLMSG_HDRLEN + fixed ≤ maxLength
  zeroed : ∀ i, NLMSG_HDRLEN + fixed ≤ i → i < maxLength → mem i = 0

/-- What `workfn` is given of these attributes: all of them, or up to the first at which it returns a
negative value. -/
def heard (workfn : Nat → Int) : List Attr → List (Nat × List UInt8)
  | [] => []
  | a :: as => (a.type, a.data) :: if workfn a.type < 0 then [] else heard workfn as

/-- After any sequence of calls: one more that fails changes nothing, one that succeeds writes in the
buffer only, and the parser visits the attributes added, in order, and stops. -/
def RoundTrips (fixed maxLength : Nat) : Prop :=
  ∀ mem, Request fixed maxLength mem → ∀ calls : List Attr,
    (∀ a, (nlAddRtattr (addAll maxLength mem calls).mem maxLength a).2 = -E2BIG →
      (nlAddRtattr (addAll maxLength mem calls).mem maxLength a).1 = (addAll maxLength mem calls).mem) ∧
    (∀ a, (nlAddRtattr (addAll maxLength mem calls).mem maxLength a).2 = 0 →
      ∀ s ∈ attrStores (addAll maxLength mem calls).mem a, s.1 + s.2.length ≤ maxLength) ∧
    ∀ cb : NlCallback, ∃ ps, Visits 64 (rtAttributes (addAll maxLength mem calls).mem cb)
        (attrStart (addAll maxLength mem calls).mem fixed 0) ps ∧
      ps.map (attrAt (addAll maxLength mem calls).mem) = heard cb.workfn (addAll maxLength mem calls).added

/-! ## Attributes in memory -/

/-- These attributes stand one behind the other from `p` on. -/
def Laid (mem : Nat → UInt8) : Nat → List Attr → Prop
  | _, [] => True
  | p, a :: as => rtaLen mem p = 4 + a.data.length ∧ rtaType mem p = a.type ∧
      bytesAt mem (p + 4) a.data.length = a.data ∧ Laid mem (p + a.size) as

/-- The bytes they take. -/
def laidSize : List Attr → Nat
  | [] => 0
  | a :: as => a.size + laidSize as

theorem Attr.size_bounds (a : Attr) : 4 + a.data.length ≤ a.size ∧ a.size < 2 ^ 16 + 4 ∧ a.size % 4 = 0 := by
  have h := a.length_lt
  unfold Attr.size nlAlign
  omega

theorem laidSize_mod (as : List Attr) : laidSize as % 4 = 0 := by
  induction as with
  | nil => rfl
  | cons a as ih =>
    have ha := a.size_bounds
    rw [laidSize]
    omega

theorem laidSize_concat (as : List Attr) (a : Attr) : laidSize (as ++ [a]) = laidSize as + a.size := by
  induction as with
  | nil => exact Nat.add_comm a.size 0
  | cons b as ih => rw [List.cons_append, laidSize, laidSize, ih, Nat.add_assoc]

section
variable {mem mem' : Nat → UInt8}

theorem le16_congr (p : Nat) (h : ∀ i, p ≤ i → i < p + 2 → mem i = mem' i) : le16 mem p = le16 mem' p := by
  unfold le16
  rw [h p (by omega) (by omega), h (p + 1) (by omega) (by omega)]

theorem Laid.congr {p : Nat} {as : List Attr} (h : Laid mem p as)
    (heq : ∀ i, p ≤ i → i < p + laidSize as → mem i = mem' i) : Laid mem' p as := by
  induction as generalizing p with
  | nil => trivial
  | cons a as ih =>
    obtain ⟨hlen, htype, hdata, hrest⟩ := h
    have ha := a.size_bounds
    have hsize : laidSize (a :: as) = a.size + laidSize as := rfl
    rw [hsize] at heq
    refine ⟨?_, ?_, ?_, ih hrest fun i h1 h2 => heq i (by omega) (by omega)⟩
    · rw [← hlen]
      exact (le16_congr p fun i h1 h2 => heq i h1 (by omega)).symm
    · rw [← htype]
      exact (le16_congr (p + 2) fun i h1 h2 => heq i (by omega) (by omega)).symm
    · rw [← hdata, length_bytesAt]
      exact (bytesAt_congr _ _ _ _ fun i h1 h2 => heq i (by omega) (by omega)).symm

theorem Laid.concat {p : Nat} {as : List Attr} {a : Attr} (h : Laid mem p as) (ha : Laid mem (p + laidSize as) [a]) :
    Laid mem p (as ++ [a]) := by
  induction as generalizing p with
  | nil => exact ha
  | cons b as ih =>
    obtain ⟨hlen, htype, hdata, hrest⟩ := h
    refine ⟨hlen, htype, hdata, ih hrest ?_⟩
    rwa [laidSize, ← Nat.add_assoc] at ha

end

/-! ## The parser -/

/-- The parser goes along attributes that end where the message does. -/
theorem Laid.visits (mem : Nat → UInt8) (cb : NlCallback) (p : Nat) (as : List Attr) (h : Laid mem p as)
    (hlt : laidSize as < 2 ^ 64) :
    ∃ ps, Visits 64 (rtAttributes mem cb) ⟨p, laidSize as⟩ ps ∧ ps.map (attrAt mem) = heard cb.workfn as := by
  induction as generalizing p with
  | nil =>
    refine ⟨[], Visits.done _ fun hok => ?_, rfl⟩
    have h4 : 4 ≤ laidSize [] := hok.1
    exact absurd h4 (by decide)
  | cons a as ih =>
    obtain ⟨hlen, htype, hdata, hrest⟩ := h
    have ha := a.size_bounds
    have hsize : laidSize (a :: as) = a.size + laidSize as := rfl
    have hskip : (rtAttributes mem cb).skip p = a.size := by
      show nlAlign (rtaLen mem p) = a.size
      rw [hlen, Attr.size]
    have hok : ok (rtAttributes mem cb) ⟨p, laidSize (a :: as)⟩ := by
      refine ⟨?_, ?_, ?_⟩
      · show 4 ≤ laidSize (a :: as)
        omega
      · show 4 ≤ rtaLen mem p
        omega
      · show rtaLen mem p ≤ laidSize (a :: as)
        omega
    have hat : attrAt mem p = (a.type, a.data) := by
      rw [attrAt, htype, hlen, Nat.add_sub_cancel_left, hdata]
    by_cases hstop : cb.workfn a.type < 0
    · refine ⟨[p], Visits.stop _ hok ?_, ?_⟩
      · show decide (cb.workfn (rtaType mem p) < 0) = true
        rw [htype]
        exact decide_eq_true hstop
      · rw [heard, if_pos hstop, List.map_singleton, hat]
    · obtain ⟨ps, hvisits, hps⟩ := ih (p + a.size) hrest (by omega)
      refine ⟨p :: ps, Visits.next _ ps hok ?_ ?_, ?_⟩
      · show decide (cb.workfn (rtaType mem p) < 0) = false
        rw [htype]
        exact decide_eq_false hstop
      · rw [next_of_le _ hlt (by show (rtAttributes mem cb).skip p ≤ laidSize (a :: as); omega), hskip]
        rw [hsize, Nat.add_sub_cancel_left]
        exact hvisits
      · rw [heard, if_neg hstop, List.map_cons, hat, hps]

/-! ## One call -/

theorem le16_store (mem : Nat → UInt8) (p v : Nat) (h : v < 2 ^ 16) : le16 (store mem p (u16Bytes v)) p = v := by
  have h0 := store_add mem p (u16Bytes v) 0 (Nat.succ_pos 1)
  have h1 := store_add mem p (u16Bytes v) 1 (Nat.lt_succ_self 1)
  unfold le16
  rw [Nat.add_zero] at h0
  rw [h0, h1]
  show v.toUInt8.toNat + 2 ^ 8 * (v / 2 ^ 8).toUInt8.toNat = v
  rw [Nat.toUInt8_eq, Nat.toUInt8_eq, UInt8.toNat_ofNat', UInt8.toNat_ofNat']
  omega

/-- A length is stored in 32 bits. -/
theorem le32_store (mem : Nat → UInt8) (p v : Nat) : le32 (store mem p (u32Bytes v)) p = v % 2 ^ 32 := by
  have hbyte (i : Nat) (hi : i < 4) : store mem p (u32Bytes v) (p + i) = (u32Bytes v).getD i 0 :=
    store_add mem p (u32Bytes v) i hi
  have h0 := hbyte 0 (by decide)
  rw [Nat.add_zero] at h0
  unfold le32 le16
  rw [h0, hbyte 1 (by decide), hbyte 2 (by decide), Nat.add_assoc p, hbyte 3 (by decide)]
  show (v.toUInt8.toNat + 2 ^ 8 * (v / 2 ^ 8).toUInt8.toNat) +
    2 ^ 16 * ((v / 2 ^ 16).toUInt8.toNat + 2 ^ 8 * (v / 2 ^ 16 / 2 ^ 8).toUInt8.toNat) = v % 2 ^ 32
  simp only [Nat.toUInt8_eq, UInt8.toNat_ofNat']
  omega

/-- Bytes that none of the stores covers. -/
theorem foldl_store_frame (stores : List (Nat × List UInt8)) (mem : Nat → UInt8) (i : Nat)
    (h : ∀ s ∈ stores, i < s.1 ∨ s.1 + s.2.length ≤ i) :
    stores.foldl (fun m s => store m s.1 s.2) mem i = mem i := by
  induction stores generalizing mem with
  | nil => rfl
  | cons s stores ih =>
    obtain ⟨hs, hrest⟩ := List.forall_mem_cons.1 h
    rw [List.foldl_cons, ih _ hrest]
    rcases hs with hs | hs
    · exact store_of_lt mem s.1 s.2 i hs
    · exact store_of_ge mem s.1 s.2 i hs

section
variable (mem : Nat → UInt8) (maxLength : Nat) (a : Attr)

theorem nlmsgTail_mod : nlmsgTail mem % 4 = 0 ∧ nlmsgTail mem + 4 ≤ 2 ^ 32 := by
  unfold nlmsgTail
  omega

/-- The ranges a call writes. -/
theorem attrStores_range (s : Nat × List UInt8) (hs : s ∈ attrStores mem a) :
    s.1 + s.2.length ≤ 4 ∨ nlmsgTail mem ≤ s.1 ∧ s.1 + s.2.length ≤ nlmsgTail mem + (4 + a.data.length) := by
  simp only [attrStores, List.mem_cons, List.not_mem_nil, or_false] at hs
  rcases hs with rfl | rfl | rfl | rfl
  · exact .inr ⟨Nat.le_add_right _ 2, by show _ + 2 + 2 ≤ _; omega⟩
  · exact .inr ⟨Nat.le_refl _, by show _ + 2 ≤ _; omega⟩
  · exact .inr ⟨Nat.le_add_right _ 4, by show _ + 4 + a.data.length ≤ _; omega⟩
  · exact .inl (Nat.le_refl 4)

theorem nlAddRtattr_refused (h : maxLength < nlmsgTail mem + a.size) : nlAddRtattr mem maxLength a = (mem, -E2BIG) :=
  if_pos h

theorem nlAddRtattr_accepted (h : nlmsgTail mem + a.size ≤ maxLength) :
    nlAddRtattr mem maxLength a = ((attrStores mem a).foldl (fun m s => store m s.1 s.2) mem, 0) :=
  if_neg (by omega)

/-- Outside of the length and the new attribute nothing changes. -/
theorem nlAddRtattr_frame (i : Nat) (h4 : 4 ≤ i) (hi : i < nlmsgTail mem ∨ nlmsgTail mem + a.size ≤ i) :
    (nlAddRtattr mem maxLength a).1 i = mem i := by
  have ha := a.size_bounds
  unfold nlAddRtattr
  split
  · rfl
  · apply foldl_store_frame
    intro s hs
    have hrange := attrStores_range mem a s hs
    omega

/-- The new length, in 32 bits. -/
theorem nlmsgLen_accepted (h : nlmsgTail mem + a.size ≤ maxLength) :
    nlmsgLen (nlAddRtattr mem maxLength a).1 0 = (nlmsgTail mem + a.size) % 2 ^ 32 := by
  rw [nlAddRtattr_accepted mem maxLength a h]
  exact le32_store _ 0 _

/-- The attribute is there. -/
theorem laid_accepted (h : nlmsgTail mem + a.size ≤ maxLength) (h4 : 4 ≤ nlmsgTail mem) :
    Laid (nlAddRtattr mem maxLength a).1 (nlmsgTail mem) [a] := by
  rw [nlAddRtattr_accepted mem maxLength a h]
  generalize ht : nlmsgTail mem = tail at h4
  -- the stores one after the other: the type, the length, the data, and the message's length at `0`
  let mem1 := store mem (tail + 2) (u16Bytes a.type)
  let mem2 := store mem1 tail (u16Bytes (4 + a.data.length))
  let mem3 := store mem2 (tail + 4) a.data
  have hmem : (attrStores mem a).foldl (fun m s => store m s.1 s.2) mem = store mem3 0 (u32Bytes (tail + a.size)) := by
    simp only [attrStores, ht]
    rfl
  have hlast (i : Nat) (hi : tail ≤ i) : store mem3 0 (u32Bytes (tail + a.size)) i = mem3 i :=
    store_of_ge _ _ _ _ (by show 0 + 4 ≤ i; omega)
  have hdata (i : Nat) (hi : i < tail + 4) : mem3 i = mem2 i := store_of_lt _ _ _ _ hi
  have hlen (i : Nat) (hi : tail + 2 ≤ i) : mem2 i = mem1 i := store_of_ge _ _ _ _ hi
  rw [hmem]
  refine ⟨?_, ?_, ?_, trivial⟩
  · have heq : le16 (store mem3 0 (u32Bytes (tail + a.size))) tail = le16 mem2 tail :=
      le16_congr tail fun i h1 h2 => by rw [hlast i h1, hdata i (by omega)]
    exact heq.trans (le16_store _ _ _ a.length_lt)
  · have heq : le16 (store mem3 0 (u32Bytes (tail + a.size))) (tail + 2) = le16 mem1 (tail + 2) :=
      le16_congr (tail + 2) fun i h1 h2 => by rw [hlast i (by omega), hdata i (by omega), hlen i h1]
    exact heq.trans (le16_store _ _ _ a.type_lt)
  · have heq : bytesAt (store mem3 0 (u32Bytes (tail + a.size))) (tail + 4) a.data.length =
        bytesAt mem3 (tail + 4) a.data.length :=
      bytesAt_congr _ _ _ _ fun i h1 _ => hlast i (by omega)
    exact heq.trans (bytesAt_store _ _ _)

end

/-! ## Any sequence of calls -/

theorem addAll_concat (maxLength : Nat) (mem : Nat → UInt8) (calls : List Attr) (a : Attr) :
    addAll maxLength mem (calls ++ [a]) = (addAll maxLength mem calls).add maxLength a := by
  simp [addAll]

/-- The message ends with the attributes added. -/
structure Filled (fixed maxLength : Nat) (s : Adding) : Prop where
  len : nlmsgLen s.mem 0 = NLMSG_HDRLEN + fixed + laidSize s.added
  le : NLMSG_HDRLEN + fixed + laidSize s.added ≤ maxLength
  laid : Laid s.mem (NLMSG_HDRLEN + fixed) s.added

section
variable (fixed maxLength : Nat) (hfixed : fixed % 4 = 0) (hmax : maxLength < 2 ^ 32)
include hfixed hmax

theorem Filled.tail {s : Adding} (h : Filled fixed maxLength s) :
    nlmsgTail s.mem = NLMSG_HDRLEN + fixed + laidSize s.added := by
  have hlen := h.len
  have hle := h.le
  have hmod := laidSize_mod s.added
  simp only [nlmsgTail, NLMSG_HDRLEN] at *
  omega

theorem Filled.add {s : Adding} (h : Filled fixed maxLength s) (a : Attr) :
    Filled fixed maxLength (s.add maxLength a) := by
  have htail := h.tail fixed maxLength hfixed hmax
  have hh : NLMSG_HDRLEN = 16 := rfl
  by_cases hroom : nlmsgTail s.mem + a.size ≤ maxLength
  · have hret : (nlAddRtattr s.mem maxLength a).2 = 0 := by rw [nlAddRtattr_accepted s.mem maxLength a hroom]
    have hadd : s.add maxLength a = ⟨(nlAddRtattr s.mem maxLength a).1, s.added ++ [a]⟩ := by
      simp only [Adding.add, if_pos hret]
    have hlen := nlmsgLen_accepted s.mem maxLength a hroom
    have hnew := laid_accepted s.mem maxLength a hroom (by omega)
    rw [hadd]
    refine ⟨?_, ?_, ?_⟩
    · show nlmsgLen (nlAddRtattr s.mem maxLength a).1 0 = NLMSG_HDRLEN + fixed + laidSize (s.added ++ [a])
      rw [hlen, laidSize_concat, htail, Nat.mod_eq_of_lt (by omega)]
      omega
    · show NLMSG_HDRLEN + fixed + laidSize (s.added ++ [a]) ≤ maxLength
      rw [laidSize_concat]
      omega
    · refine Laid.concat (h.laid.congr fun i h1 h2 => ?_) ?_
      · exact (nlAddRtattr_frame s.mem maxLength a i (by omega) (.inl (by omega))).symm
      · rw [← htail]
        exact hnew
  · have hsame : s.add maxLength a = s := by
      simp only [Adding.add, nlAddRtattr_refused s.mem maxLength a (by omega)]
      rw [if_neg (by decide)]
    rw [hsame]
    exact h

theorem filled_addAll (mem : Nat → UInt8) (hreq : Request fixed maxLength mem) (calls : List Attr) :
    Filled fixed maxLength (addAll maxLength mem calls) := by
  induction calls using List.reverseRecOn with
  | nil => exact ⟨hreq.len, hreq.room, trivial⟩
  | append_singleton calls a ih =>
    rw [addAll_concat]
    exact ih.add fixed maxLength hfixed hmax a

/-- Where the parser begins, with the bytes of all attributes left. -/
theorem Filled.attrStart {s : Adding} (h : Filled fixed maxLength s) :
    Ndhc.attrStart s.mem fixed 0 = ⟨NLMSG_HDRLEN + fixed, laidSize s.added⟩ := by
  have hlen := h.len
  have hle := h.le
  have halign : nlAlign fixed = fixed := by
    unfold nlAlign
    omega
  simp only [Ndhc.attrStart, halign, hlen, NLMSG_HDRLEN] at *
  ext
  · show 0 + 16 + fixed = 16 + fixed
    omega
  · show (2 ^ 64 + (2 ^ 32 + (16 + fixed + laidSize s.added) - 16) % 2 ^ 32 - fixed) % 2 ^ 64 = laidSize s.added
    omega

theorem roundTrips_of_lt : RoundTrips fixed maxLength := by
  intro mem hreq calls
  have hfilled := filled_addAll fixed maxLength hfixed hmax mem hreq calls
  have hroom := hreq.room
  have hle := hfilled.le
  generalize addAll maxLength mem calls = s at hfilled hle ⊢
  refine ⟨?_, ?_, ?_⟩
  · intro a hret
    unfold nlAddRtattr at hret ⊢
    split at hret
    · next hbig => rw [if_pos hbig]
    · exact absurd (show (0 : Int) = -E2BIG from hret) (by decide)
  · intro a hret w hw
    have hrange := attrStores_range s.mem a w hw
    have ha := a.size_bounds
    have hin : nlmsgTail s.mem + a.size ≤ maxLength := by
      by_contra hbig
      rw [nlAddRtattr_refused s.mem maxLength a (by omega)] at hret
      exact absurd (show -E2BIG = 0 from hret) (by decide)
    simp only [NLMSG_HDRLEN] at hroom
    omega
  · intro cb
    rw [hfilled.attrStart fixed maxLength hfixed hmax]
    exact Laid.visits s.mem cb _ _ hfilled.laid (by omega)

end

/-! ## A buffer of 4 GiB -/

/-- An attribute without data. -/
def emptyAttr : Attr := ⟨0, [], by decide, by decide⟩

/-- A zeroed request with its length. -/
def zeroedRequest (fixed : Nat) : Nat → UInt8 := store (fun _ => 0) 0 (u32Bytes (NLMSG_HDRLEN + fixed))

theorem zeroedRequest_of_ge (fixed i : Nat) (h : 4 ≤ i) : zeroedRequest fixed i = 0 :=
  store_of_ge _ _ _ _ (by show 0 + 4 ≤ i; omega)

theorem request_zeroed (fixed maxLength : Nat) (hlen : NLMSG_HDRLEN + fixed < 2 ^ 32)
    (hroom : NLMSG_HDRLEN + fixed ≤ maxLength) : Request fixed maxLength (zeroedRequest fixed) where
  len := (le32_store _ 0 _).trans (Nat.mod_eq_of_lt hlen)
  room := hroom
  zeroed := fun i hi _ => zeroedRequest_of_ge fixed i (by simp only [NLMSG_HDRLEN] at hi; omega)

section
variable (fixed maxLength : Nat) (hmax : 2 ^ 32 ≤ maxLength)
include hmax

/-- No end to attributes without data, and none of them is ever put behind 4 GiB. -/
theorem addAll_emptyAttr (k : Nat) :
    (addAll maxLength (zeroedRequest fixed) (List.replicate k emptyAttr)).added = List.replicate k emptyAttr ∧
      ∀ i, 2 ^ 32 ≤ i → (addAll maxLength (zeroedRequest fixed) (List.replicate k emptyAttr)).mem i = 0 := by
  induction k with
  | zero => exact ⟨rfl, fun i hi => zeroedRequest_of_ge fixed i (by omega)⟩
  | succ k ih =>
    obtain ⟨hadded, hzero⟩ := ih
    rw [List.replicate_succ', addAll_concat]
    generalize addAll maxLength (zeroedRequest fixed) (List.replicate k emptyAttr) = s at hadded hzero ⊢
    have htail := nlmsgTail_mod s.mem
    have hsize : emptyAttr.size = 4 := rfl
    have hret : (nlAddRtattr s.mem maxLength emptyAttr).2 = 0 := by
      rw [nlAddRtattr_accepted s.mem maxLength emptyAttr (by omega)]
    refine ⟨?_, fun i hi => ?_⟩
    · show (if (nlAddRtattr s.mem maxLength emptyAttr).2 = 0 then s.added ++ [emptyAttr] else s.added) = _
      rw [if_pos hret, hadded]
    · exact (nlAddRtattr_frame s.mem maxLength emptyAttr i (by omega) (.inr (by omega))).trans (hzero i hi)

/-- More of them than there is room for in 4 GiB are not all found. -/
theorem emptyAttrs_lost (hfixed : fixed % 4 = 0) (n : Nat) (hn : NLMSG_HDRLEN + fixed + 4 * n = 2 ^ 32) :
    ¬ ∃ ps, Visits 64
        (rtAttributes (addAll maxLength (zeroedRequest fixed) (List.replicate (n + 1) emptyAttr)).mem
          clearOthersCallback)
        (attrStart (addAll maxLength (zeroedRequest fixed) (List.replicate (n + 1) emptyAttr)).mem fixed 0) ps ∧
      ps.map (attrAt (addAll maxLength (zeroedRequest fixed) (List.replicate (n + 1) emptyAttr)).mem) =
        List.replicate (n + 1) (0, []) := by
  obtain ⟨-, hzero⟩ := addAll_emptyAttr fixed maxLength hmax (n + 1)
  generalize addAll maxLength (zeroedRequest fixed) (List.replicate (n + 1) emptyAttr) = s at hzero ⊢
  rintro ⟨ps, hvisits, hps⟩
  have hcount : ps.length = n + 1 := by
    have := congrArg List.length hps
    simpa using this
  have hhdr := hvisits.hdr_le
  have hskip : ∀ p ∈ ps, (rtAttributes s.mem clearOthersCallback).skip p = 4 := by
    intro p hp
    have hat : attrAt s.mem p ∈ ps.map (attrAt s.mem) := List.mem_map_of_mem hp
    rw [hps] at hat
    have hdata := congrArg (List.length ∘ Prod.snd) (List.eq_of_mem_replicate hat)
    have hle : 4 ≤ rtaLen s.mem p := hhdr p hp
    simp only [Function.comp, attrAt, length_bytesAt, List.length_nil] at hdata
    show nlAlign (rtaLen s.mem p) = 4
    rw [show rtaLen s.mem p = 4 by omega]
    rfl
  -- the last of them would stand where the first 4 GiB end, and no attribute does
  have hlast := hvisits.getElem?_of_skip 4 hskip n (by omega)
  have hpos : (attrStart s.mem fixed 0).pos + 4 * n = 2 ^ 32 := by
    have halign : nlAlign fixed = fixed := by
      unfold nlAlign
      omega
    show 0 + NLMSG_HDRLEN + nlAlign fixed + 4 * n = 2 ^ 32
    omega
  rw [hpos] at hlast
  have hle : 4 ≤ rtaLen s.mem (2 ^ 32) := hhdr _ (List.mem_of_getElem? hlast)
  have hnone : rtaLen s.mem (2 ^ 32) = 0 := by
    show (s.mem (2 ^ 32)).toNat + 2 ^ 8 * (s.mem (2 ^ 32 + 1)).toNat = 0
    rw [hzero _ (by omega), hzero _ (by omega)]
    rfl
  omega

theorem not_roundTrips (hfixed : fixed % 4 = 0) (hlen : NLMSG_HDRLEN + fixed < 2 ^ 32) :
    ¬ RoundTrips fixed maxLength := by
  intro h
  obtain ⟨n, hn⟩ : ∃ n, NLMSG_HDRLEN + fixed + 4 * n = 2 ^ 32 :=
    ⟨(2 ^ 32 - (NLMSG_HDRLEN + fixed)) / 4, by simp only [NLMSG_HDRLEN] at *; omega⟩
  have hadded := (addAll_emptyAttr fixed maxLength hmax (n + 1)).1
  have hheard (k : Nat) : heard clearOthersCallback.workfn (List.replicate k emptyAttr) =
      List.replicate k (0, []) := by
    induction k with
    | zero => rfl
    | succ k ih =>
      rw [List.replicate_succ, heard, if_neg (by decide), ih, List.replicate_succ]
      rfl
  obtain ⟨-, -, hparse⟩ := h (zeroedRequest fixed) (request_zeroed fixed maxLength hlen (by omega))
    (List.replicate (n + 1) emptyAttr)
  have hfound := hparse clearOthersCallback
  rw [hadded, hheard] at hfound
  exact emptyAttrs_lost fixed maxLength hmax hfixed n hn hfound

end

/-! ## Main result -/

end Ndhc
