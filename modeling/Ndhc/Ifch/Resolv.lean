import Ndhc.Ifch.Codec

/-!
# The command handlers of ifch

`Dispatch` of ifchd-parse.rl with the handlers of ifchd.c: resolv.conf is the text
`write_resolve_conf` last wrote, and the commands that reach the kernel through netlink
(`ip4`, `routr`, `mtu`, `carrier`) are functions on a kernel state of any type.

The nameserver lines of a resolv.conf do not depend on the domains written with them, as
long as no domain holds a newline (`nameserverLines_resolvText`).
-/

namespace Ndhc

open Bytes

/-! ## The text of resolv.conf -/

/-- The strings the loops of `write_resolve_conf` cut a comma-separated list into, `cur`
being the one under way. -/
def commaPieces : List UInt8 → List UInt8 → List (List UInt8)
  | cur, [] => if cur = [] then [] else [cur]
  | cur, c :: cs => if c = 44 then cur :: commaPieces [] cs else commaPieces (cur ++ [c]) cs

/-- The list a loop leaves behind: its commas are overwritten by NULs in place. -/
def cutAtComma (bs : List UInt8) : List UInt8 := bs.takeWhile (· ≠ 44)

def nameserverText (namesvrs : List UInt8) : List UInt8 :=
  (commaPieces [] namesvrs).flatMap fun p => ascii "nameserver " ++ p ++ [10]

def domainTail : List (List UInt8) → List UInt8
  | [] => []
  | p :: ps => 10 :: ascii "search " ++ p ++ ps.flatMap fun q => 32 :: q

/-- At most seven domains: the first as `domain`, the others as `search`. -/
def domainText (domains : List UInt8) : List UInt8 :=
  match (commaPieces [] domains).take 7 with
  | [] => []
  | p :: ps => ascii "domain " ++ p ++ domainTail ps

/-! ## Handlers -/

/-- What ifch finds outside: whether resolv.conf is open, the texts of its head and tail
files, whether seeking and syncing it work, `allow_hostname` and what `sethostname` does,
and the netlink commands. -/
structure IfchEnv (τ : Type) where
  resolvOpen : Bool
  head : List UInt8
  tail : List UInt8
  seekOk : Bool
  syncOk : Bool
  allowHostname : Bool
  sethostname : List UInt8 → Bool
  performIp4set : τ → List UInt8 → τ × Int
  performRouter : τ → List UInt8 → τ × Int
  performMtu : τ → List UInt8 → τ × Int
  performCarrier : τ → τ × Int

/-- `struct ifchd_client` as the handlers see it, with the kernel, the text in resolv.conf
and the commands dispatched so far. -/
structure Ifch (τ : Type) where
  net : τ
  namesvrs : List UInt8
  domains : List UInt8
  resolvConf : List UInt8
  log : Log

section
variable {τ : Type} (env : IfchEnv τ)

def resolvText (namesvrs domains : List UInt8) : List UInt8 :=
  env.head ++ nameserverText namesvrs ++ domainText domains ++ 10 :: env.tail

def writeResolveConf (s : Ifch τ) : Ifch τ × Int :=
  if !env.resolvOpen then (s, 0)
  else if s.namesvrs = [] then (s, -1)
  else if !env.seekOk then (s, -1)
  else
    ({ s with
        resolvConf := resolvText env s.namesvrs s.domains
        namesvrs := cutAtComma s.namesvrs
        domains := cutAtComma s.domains },
      if env.syncOk then 0 else -1)

def performDns (s : Ifch τ) (str : List UInt8) : Ifch τ × Int :=
  if !env.resolvOpen then (s, 0)
  else if MAX_BUF < str.length then (s, -1)
  else writeResolveConf env { s with namesvrs := str.take (MAX_BUF - 1) }

def performDomain (s : Ifch τ) (str : List UInt8) : Ifch τ × Int :=
  if !env.resolvOpen then (s, 0)
  else if MAX_BUF < str.length then (s, -1)
  else writeResolveConf env { s with domains := str.take (MAX_BUF - 1) }

def performHostname (s : Ifch τ) (str : List UInt8) : Ifch τ × Int :=
  if !env.allowHostname then (s, 0)
  else (s, if env.sethostname str then 0 else -1)

/-- A command carried out by the kernel. -/
def performNet (f : τ → τ × Int) (s : Ifch τ) : Ifch τ × Int :=
  ({ s with net := (f s.net).1 }, (f s.net).2)

/-- The `switch` of `Dispatch`. -/
def perform (s : Ifch τ) (st : IfchdState) (arg : List UInt8) : Ifch τ × Int :=
  match st with
  | .ip4set => performNet (env.performIp4set · arg) s
  | .router => performNet (env.performRouter · arg) s
  | .mtu => performNet (env.performMtu · arg) s
  | .carrier => performNet env.performCarrier s
  | .dns => performDns env s arg
  | .domain => performDomain env s arg
  | .hostname => performHostname env s arg
  | .timezone | .lprsvr | .ipttl | .ntpsvr | .wins => (s, 0)
  | .nothing => (s, -99)

/-- `Dispatch` with a record of the commands. -/
def ifchDispatch (s : Ifch τ) (st : IfchdState) (arg : List UInt8) : Ifch τ × Int :=
  perform env { s with log := s.log ++ [(st, arg)] } st arg

end

/-! ## Nameserver lines -/

/-- The lines by which a resolver is told its servers. -/
def nameserverLines (text : List UInt8) : List (List UInt8) :=
  (text.splitOn 10).filter fun l => (ascii "nameserver").isPrefixOf l

theorem nameserverLines_append (as bs : List UInt8) :
    nameserverLines (as ++ 10 :: bs) = nameserverLines as ++ nameserverLines bs := by
  rw [nameserverLines, List.splitOn_append_cons_self, List.filter_append]
  rfl

theorem nameserverLines_eq_nil (text : List UInt8) (h10 : 10 ∉ text)
    (hp : (ascii "nameserver").isPrefixOf text = false) : nameserverLines text = [] := by
  rw [nameserverLines, List.splitOn_eq_singleton h10]
  simp [hp]

theorem mem_commaPieces (bs cur p : List UInt8) (c : UInt8) (hp : p ∈ commaPieces cur bs)
    (hc : c ∈ p) : c ∈ cur ∨ c ∈ bs := by
  induction bs generalizing cur with
  | nil =>
    simp only [commaPieces] at hp
    split at hp
    · cases hp
    · rw [List.mem_singleton.1 hp] at hc
      exact Or.inl hc
  | cons b bs ih =>
    simp only [commaPieces] at hp
    split at hp
    · rcases List.mem_cons.1 hp with rfl | hp
      · exact Or.inl hc
      · rcases ih [] hp with h | h
        · cases h
        · exact Or.inr (List.mem_cons_of_mem _ h)
    · rcases ih _ hp with h | h
      · rcases List.mem_append.1 h with h | h
        · exact Or.inl h
        · exact Or.inr (List.mem_singleton.1 h ▸ List.mem_cons_self)
      · exact Or.inr (List.mem_cons_of_mem _ h)

theorem newline_not_mem_pieces (domains p : List UInt8) (h : 10 ∉ domains)
    (hp : p ∈ (commaPieces [] domains).take 7) : 10 ∉ p := by
  intro hc
  rcases mem_commaPieces domains [] p 10 (List.mem_of_mem_take hp) hc with h' | h'
  · cases h'
  · exact h h'

/-- Domains without a newline bring no nameserver line. -/
theorem nameserverLines_domainText (domains : List UInt8) (h : 10 ∉ domains) :
    nameserverLines (domainText domains) = [] := by
  have hp := newline_not_mem_pieces domains
  unfold domainText
  split
  · decide
  · next p ps hps =>
    rw [hps] at hp
    have h1 : 10 ∉ ascii "domain " ++ p := by
      have := hp p h List.mem_cons_self
      simp only [List.mem_append, not_or]
      exact ⟨by decide, this⟩
    have hl1 : nameserverLines (ascii "domain " ++ p) = [] := by
      apply nameserverLines_eq_nil _ h1
      rfl
    cases ps with
    | nil =>
      simp only [domainTail, List.append_nil]
      exact hl1
    | cons q qs =>
      simp only [domainTail, List.cons_append]
      rw [nameserverLines_append, hl1, List.nil_append]
      apply nameserverLines_eq_nil
      · simp only [List.mem_append, List.mem_flatMap, List.mem_cons, not_or, not_exists, not_and]
        refine ⟨⟨by decide, hp q h (by simp)⟩, fun r hr => ⟨by decide, hp r h (by simp [hr])⟩⟩
      · rfl

theorem commaPieces_ne_nil (bs cur : List UInt8) (h : cur ≠ [] ∨ bs ≠ []) :
    commaPieces cur bs ≠ [] := by
  induction bs generalizing cur with
  | nil =>
    simp only [commaPieces]
    rw [if_neg (by simpa using h)]
    simp
  | cons b bs ih =>
    simp only [commaPieces]
    split
    · simp
    · exact ih _ (Or.inl (by simp))

/-- A non-empty list of servers ends its text with a newline. -/
theorem nameserverText_eq (namesvrs : List UInt8) (h : namesvrs ≠ []) :
    ∃ text, nameserverText namesvrs = text ++ [10] := by
  have hne := commaPieces_ne_nil namesvrs [] (Or.inr h)
  unfold nameserverText
  rw [← List.dropLast_append_getLast hne, List.flatMap_append]
  exact ⟨_, by simp only [List.flatMap_cons, List.flatMap_nil, List.append_nil,
    ← List.append_assoc]; rfl⟩

/-- **Domains leave the servers alone.**  The nameserver lines of the text written for a
non-empty server list are those written with no domain at all. -/
theorem nameserverLines_resolvText {τ : Type} (env : IfchEnv τ) (namesvrs domains : List UInt8)
    (hns : namesvrs ≠ []) (h : 10 ∉ domains) :
    nameserverLines (resolvText env namesvrs domains) =
      nameserverLines (resolvText env namesvrs []) := by
  obtain ⟨text, ht⟩ := nameserverText_eq namesvrs hns
  have hsplit (d : List UInt8) : nameserverLines (resolvText env namesvrs d) =
      nameserverLines (env.head ++ text) ++ nameserverLines (domainText d) ++
        nameserverLines env.tail := by
    unfold resolvText
    rw [nameserverLines_append, ht]
    have : env.head ++ (text ++ [10]) ++ domainText d = env.head ++ text ++ 10 :: domainText d := by
      simp
    rw [this, nameserverLines_append]
  rw [hsplit, hsplit, nameserverLines_domainText domains h,
    nameserverLines_domainText [] (by decide)]

end Ndhc
