import Ndhc.Ifch.Parse

/-!
# The client identifier

`get_clientid_string` stores what the `clientid` option gives, `get_clientid` the default where
there was none: the IAID of the interface and the DUID of the host, each read from its file or made
up and stored there.  The array takes 64 bytes.  The copy into it is clamped; the length, kept in
a byte, is that of the whole string, so a string of 64 bytes or more leaves a length that is not
that of what was copied (`clientid_fits_iff`).
-/

namespace Ndhc

open Bytes

/-- `sizeof client_config.clientid` -/
def clientidSize : Nat := 64

/-- `client_config.clientid` and `client_config.clientid_len` -/
structure ClientId where
  bytes : List UInt8
  len : UInt8
  size_eq : bytes.length = clientidSize

/-- The bytes `add_option_clientid` sends. -/
def ClientId.used (c : ClientId) : List UInt8 := c.bytes.take c.len.toNat

def ClientId.initial : ClientId := ⟨List.replicate clientidSize 0, 0, List.length_replicate⟩

/-- `src` copied to the start of the array, and a length. -/
def ClientId.store (c : ClientId) (src : List UInt8) (len : UInt8) (h : src.length ≤ clientidSize) : ClientId where
  bytes := overlay c.bytes src
  len := len
  size_eq := by rw [length_overlay _ _ (by rw [c.size_eq]; exact h), c.size_eq]

/-! ## The option -/

def isxdigit (c : UInt8) : Bool := isDigit c || (65 ≤ c && c ≤ 70) || (97 ≤ c && c ≤ 102)

def xdigit (c : UInt8) : Nat :=
  if c ≤ 57 then c.toNat - 48 else if c ≤ 70 then c.toNat - 55 else c.toNat - 87

/-- `strtol(str, NULL, 16)` of a text that begins with a digit. -/
def strtol16 (str : List UInt8) : Nat := (str.takeWhile isxdigit).foldl (fun n c => n * 16 + xdigit c) 0

def isStringHwaddr (str : List UInt8) : Bool :=
  str.length == 17 && [2, 5, 8, 11, 14].all (fun i => at0 str i == 58) &&
    [0, 1, 3, 4, 6, 7, 9, 10, 12, 13, 15, 16].all fun i => isxdigit (at0 str i)

/-- `mac` in `get_clientid_string` -/
def hwaddrOf (str : List UInt8) : List UInt8 := (List.range 6).map fun i => (strtol16 (str.drop (i * 3))).toUInt8

theorem length_hwaddrOf (str : List UInt8) : (hwaddrOf str).length = 6 := by
  rw [hwaddrOf, List.length_map, List.length_range]

/-- The identifier and what the call returns. -/
def getClientidString (c : ClientId) (str : List UInt8) : ClientId × Int :=
  if str.length = 0 then (c, -1)
  else if !isStringHwaddr str then
    (c.store (0 :: str.take (clientidSize - 1)) (str.length + 1).toUInt8
      (by rw [List.length_cons, List.length_take]; unfold clientidSize; omega), 0)
  else
    (c.store (1 :: hwaddrOf str) 7 (by rw [List.length_cons, length_hwaddrOf]; decide), 1)

/-! ## The default -/

/-- What comes of the IAID or DUID file: its content, none there so that a new one is stored, or
an error that ends the process. -/
inductive IdFile where
  | content (bs : List UInt8)
  | absent
  | failing

structure IdWorld where
  iaidFile : IdFile
  duidFile : IdFile
  endian : Endian
  iaidRandom : UInt32
  duidRandom : Nat → UInt32

namespace IdWorld

def generateIaid (w : IdWorld) : List UInt8 := w.endian.order (htonl w.iaidRandom)

def generateDuid (w : IdWorld) : List UInt8 :=
  htons 4 ++ (List.range 4).flatMap fun i => w.endian.order (htonl (w.duidRandom i))

/-- What is read, at most the size of the array, or generated. -/
def get (f : IdFile) (generated : List UInt8) : Option (List UInt8) :=
  match f with
  | .content bs => some (bs.take clientidSize)
  | .absent => some generated
  | .failing => none

def iaid (w : IdWorld) : Option (List UInt8) := get w.iaidFile w.generateIaid

def duid (w : IdWorld) : Option (List UInt8) := get w.duidFile w.generateDuid

end IdWorld

/-- `get_clientid`; `none` ends the process. -/
def getClientid (w : IdWorld) (c : ClientId) : Option ClientId :=
  if 0 < c.len then some c
  else
    match w.iaid, w.duid with
    | some iaid, some duid =>
      if h : 1 + iaid.length + duid.length ≤ clientidSize then
        some (c.store (255 :: iaid ++ duid) (1 + iaid.length + duid.length).toUInt8
          (by rw [List.length_append, List.length_cons]; omega))
      else none
    | _, _ => none

/-! ## Statement -/

/-- A string the parsers hand to `get_clientid_string`. -/
structure IdString where
  str : List UInt8
  pos : 0 < str.length
  lt : str.length < MAX_BUF

/-- The identifier after `clientid` options in this order. -/
def clientidAfter (strs : List IdString) : ClientId :=
  strs.foldl (fun c s => (getClientidString c s.str).1) .initial

/-- What the identifier is to be: the last string behind a type byte of 0, cut off where the array
ends, the hardware address it denotes, or the default. -/
inductive Meant (w : IdWorld) (strs : List IdString) : List UInt8 → Prop
  | string (s : IdString) : strs.getLast? = some s → isStringHwaddr s.str = false →
      Meant w strs ((0 :: s.str).take clientidSize)
  | hwaddr (s : IdString) : strs.getLast? = some s → isStringHwaddr s.str = true →
      Meant w strs (1 :: hwaddrOf s.str)
  | generated (iaid duid : List UInt8) : w.iaid = some iaid → w.duid = some duid →
      Meant w strs (255 :: iaid ++ duid)

/-- The length is that of an identifier inside the array, and the bytes are those meant. -/
structure ClientIdFits (w : IdWorld) (strs : List IdString) (c : ClientId) : Prop where
  pos : 1 ≤ c.len.toNat
  inside : c.len.toNat ≤ c.bytes.length
  meant : Meant w strs c.used

/-! ## Lemmas -/

theorem ClientId.used_store (c : ClientId) (src : List UInt8) (len : UInt8) (h : src.length ≤ clientidSize)
    (hlen : len.toNat ≤ src.length) : (c.store src len h).used = src.take len.toNat := by
  show ((overlay c.bytes src).take len.toNat) = _
  rw [overlay, List.take_append_of_le_length hlen]

section
variable (w : IdWorld) (strs : List IdString) (c c' : ClientId)

/-- The default is always good. -/
theorem getClientid_generated (h0 : c.len = 0) (h : getClientid w c = some c') : ClientIdFits w strs c' := by
  unfold getClientid at h
  rw [if_neg (by rw [h0]; decide)] at h
  cases hi : w.iaid with
  | none => simp [hi] at h
  | some iaid =>
    cases hd : w.duid with
    | none => simp [hi, hd] at h
    | some duid =>
      simp only [hi, hd] at h
      split at h
      · next hle =>
        cases h
        have hlen : (1 + iaid.length + duid.length).toUInt8.toNat = 1 + iaid.length + duid.length := by
          rw [Nat.toUInt8_eq, UInt8.toNat_ofNat', Nat.mod_eq_of_lt]
          unfold clientidSize at hle
          omega
        have hused := c.used_store (255 :: iaid ++ duid) (1 + iaid.length + duid.length).toUInt8
          (by rw [List.length_append, List.length_cons]; omega)
          (by rw [hlen, List.length_append, List.length_cons]; omega)
        refine ⟨?_, ?_, ?_⟩
        · show 1 ≤ (1 + iaid.length + duid.length).toUInt8.toNat
          omega
        · rw [ClientId.size_eq]
          show (1 + iaid.length + duid.length).toUInt8.toNat ≤ _
          omega
        · rw [hused, hlen, List.take_of_length_le (by rw [List.length_append, List.length_cons]; omega)]
          exact .generated iaid duid hi hd
      · cases h

theorem getClientid_of_pos (h : 0 < c.len) : getClientid w c = some c := by
  rw [getClientid, if_pos h]

end

section
variable (w : IdWorld) (strs : List IdString) (s : IdString) (c : ClientId)

theorem clientidAfter_concat : clientidAfter (strs ++ [s]) = (getClientidString (clientidAfter strs) s.str).1 := by
  rw [clientidAfter, List.foldl_append]
  rfl

/-- A hardware address is always good. -/
theorem fits_of_hwaddr (hhw : isStringHwaddr s.str = true)
    (h : getClientid w (clientidAfter (strs ++ [s])) = some c) : ClientIdFits w (strs ++ [s]) c := by
  have hpos := s.pos
  rw [clientidAfter_concat, getClientidString, if_neg (by omega), if_neg (by simp [hhw]),
    getClientid_of_pos _ _ (show (0 : UInt8) < 7 by decide)] at h
  cases h
  refine ⟨?_, ?_, ?_⟩
  · show 1 ≤ (7 : UInt8).toNat
    decide
  · rw [ClientId.size_eq]
    show (7 : UInt8).toNat ≤ clientidSize
    decide
  · have hused := (clientidAfter strs).used_store (1 :: hwaddrOf s.str) 7
      (by rw [List.length_cons, length_hwaddrOf]; decide) (by rw [List.length_cons, length_hwaddrOf]; decide)
    rw [hused, List.take_of_length_le (by rw [List.length_cons, length_hwaddrOf]; decide)]
    exact .hwaddr s (by simp) hhw

/-- What a string that is no hardware address leaves in the array. -/
theorem used_string (len : UInt8) (hlen : len.toNat ≤ clientidSize) (hle : len.toNat ≤ s.str.length + 1)
    (hsrc : (0 :: s.str.take (clientidSize - 1)).length ≤ clientidSize) :
    (c.store (0 :: s.str.take (clientidSize - 1)) len hsrc).used =
      ((0 :: s.str).take clientidSize).take len.toNat := by
  rw [ClientId.used_store]
  · rfl
  · rw [List.length_cons, List.length_take]
    unfold clientidSize at hlen ⊢
    omega

/-- A string that is no hardware address: the length kept in a byte is that of what was copied, or
it is zero and the default is taken. -/
theorem fits_of_string (hhw : isStringHwaddr s.str = false)
    (h : getClientid w (clientidAfter (strs ++ [s])) = some c) :
    ClientIdFits w (strs ++ [s]) c ↔
      s.str.length < clientidSize ∨ (s.str.length + 1) % 256 = clientidSize ∨ (s.str.length + 1) % 256 = 0 := by
  have hpos := s.pos
  have hlen : (s.str.length + 1).toUInt8.toNat = (s.str.length + 1) % 256 := by
    rw [Nat.toUInt8_eq, UInt8.toNat_ofNat']
  rw [clientidAfter_concat, getClientidString, if_neg (by omega), if_pos (by simp [hhw])] at h
  by_cases h0 : (s.str.length + 1) % 256 = 0
  · have hfits := getClientid_generated w (strs ++ [s]) _ c (UInt8.toNat_inj.mp (hlen.trans h0)) h
    simp [h0, hfits]
  · rw [getClientid_of_pos _ _ (UInt8.lt_iff_toNat_lt.mpr (by
      show 0 < (s.str.length + 1).toUInt8.toNat
      omega))] at h
    cases h
    have hused := used_string s (clientidAfter strs) (s.str.length + 1).toUInt8
    rw [hlen] at hused
    have hlast : (strs ++ [s]).getLast? = some s := by simp
    have hcut : ((0 :: s.str).take clientidSize).length = min clientidSize (s.str.length + 1) := by
      rw [List.length_take, List.length_cons]
    constructor
    · rintro ⟨-, hinside, hmeant⟩
      rw [ClientId.size_eq] at hinside
      replace hinside : (s.str.length + 1) % 256 ≤ clientidSize := hlen ▸ hinside
      rw [hused hinside (Nat.mod_le _ _)] at hmeant
      generalize hu : ((0 :: s.str).take clientidSize).take ((s.str.length + 1) % 256) = u at hmeant
      cases hmeant with
      | string s' hs' _ =>
        cases hlast.symm.trans hs'
        have hl := congrArg List.length hu
        rw [List.length_take, hcut] at hl
        omega
      | hwaddr s' hs' hhw' =>
        cases hlast.symm.trans hs'
        rw [hhw] at hhw'
        cases hhw'
      | generated iaid duid _ _ =>
        obtain ⟨k, hk⟩ := Nat.exists_eq_succ_of_ne_zero h0
        rw [hk, clientidSize, List.take_succ_cons, List.take_succ_cons] at hu
        cases hu
    · intro hcond
      have hle : (s.str.length + 1) % 256 ≤ clientidSize ∧
          min clientidSize (s.str.length + 1) ≤ (s.str.length + 1) % 256 := by
        unfold clientidSize at hcond ⊢
        omega
      refine ⟨?_, ?_, ?_⟩
      · show 1 ≤ (s.str.length + 1).toUInt8.toNat
        omega
      · rw [ClientId.size_eq]
        show (s.str.length + 1).toUInt8.toNat ≤ clientidSize
        omega
      · rw [hused hle.1 (Nat.mod_le _ _), List.take_of_length_le (by rw [hcut]; exact hle.2)]
        exact .string s hlast hhw

end

/-- **The client identifier fits its storage**, exactly if the last `clientid` option was a hardware
address or a string of at most 63 bytes, or of a length that is 63 or 255 modulo 256. -/
theorem clientid_fits_iff (w : IdWorld) (strs : List IdString) (c : ClientId)
    (h : getClientid w (clientidAfter strs) = some c) :
    ClientIdFits w strs c ↔ ∀ s, strs.getLast? = some s →
      isStringHwaddr s.str = true ∨ s.str.length < clientidSize ∨
        (s.str.length + 1) % 256 = clientidSize ∨ (s.str.length + 1) % 256 = 0 := by
  rcases List.eq_nil_or_concat strs with rfl | ⟨pre, s, rfl⟩
  · have hfits := getClientid_generated w [] _ c rfl h
    simp [hfits]
  · rw [List.concat_eq_append] at h ⊢
    cases hhw : isStringHwaddr s.str with
    | true => simp [hhw, fits_of_hwaddr w pre s c hhw h]
    | false => simp [hhw, fits_of_string w pre s c hhw h]

/-- A host whose IAID and DUID are stored. -/
def storedIds : IdWorld := ⟨.content [0, 0, 0, 1], .content [0, 4, 9, 9], .little, 0, fun _ => 0⟩

def shortId : IdString := ⟨ascii "box", by decide, by decide⟩

theorem short_clientid_fits :
    ∃ c, getClientid storedIds (clientidAfter [shortId]) = some c ∧ ClientIdFits storedIds [shortId] c := by
  have h : getClientid storedIds (clientidAfter [shortId]) = some (clientidAfter [shortId]) :=
    getClientid_of_pos _ _ (by decide)
  refine ⟨_, h, (clientid_fits_iff storedIds [shortId] _ h).mpr ?_⟩
  intro s hs
  cases hs
  exact .inr (.inl (by decide))

def longId : IdString := ⟨List.replicate 64 97, by decide, by decide⟩

/-- After a string of 64 bytes the length is one more than the array has. -/
theorem long_clientid_overruns :
    getClientid storedIds (clientidAfter [longId]) = some (clientidAfter [longId]) ∧
      (clientidAfter [longId]).len = 65 ∧ (clientidAfter [longId]).bytes.length = 64 :=
  ⟨getClientid_of_pos _ _ (by decide), by decide, (clientidAfter [longId]).size_eq⟩

end Ndhc
