import Mathlib.Data.List.Induction
import Ndhc.Ifch.Steer

/-!
# resolv.conf over several commands

`write_resolve_conf` cuts the stored lists up in place: it overwrites their commas with NULs
and leaves only the first entry behind.  A list is therefore complete in the file written by
the command that brought it, and cut to one entry in every later one.
`resolvConf_reflects_iff` says after which sequences of `dns` and `dom` commands the file shows
the lists last received.
-/

namespace Ndhc

open Bytes

/-! ## Lists of entries -/

def commaJoin : List (List UInt8) → List UInt8
  | [] => []
  | [e] => e
  | e :: es => e ++ 44 :: commaJoin es

/-- Entries that can be joined and cut. -/
def Plain (es : List (List UInt8)) : Prop := ∀ e ∈ es, e ≠ [] ∧ 44 ∉ e ∧ 0 ∉ e

theorem Plain.take (es : List (List UInt8)) (n : Nat) (h : Plain es) : Plain (es.take n) :=
  fun e he => h e (List.mem_of_mem_take he)

/-- An argument of a list command: entries joined by commas, short enough for its buffer. -/
structure EntryList where
  items : List (List UInt8)
  entry : Plain items
  fits : (commaJoin items).length ≤ MAX_BUF - 1

theorem commaPieces_plain (cur e : List UInt8) (he : 44 ∉ e) :
    commaPieces cur e = if cur ++ e = [] then [] else [cur ++ e] := by
  induction e generalizing cur with
  | nil => simp [commaPieces]
  | cons c e ih =>
    obtain ⟨hc, he⟩ := List.ne_and_not_mem_of_not_mem_cons he
    rw [commaPieces, if_neg (Ne.symm hc), ih _ he, List.append_assoc]
    rfl

theorem commaPieces_comma (cur e rest : List UInt8) (he : 44 ∉ e) :
    commaPieces cur (e ++ 44 :: rest) = (cur ++ e) :: commaPieces [] rest := by
  induction e generalizing cur with
  | nil =>
    rw [List.nil_append, commaPieces, if_pos rfl, List.append_nil]
  | cons c e ih =>
    obtain ⟨hc, he⟩ := List.ne_and_not_mem_of_not_mem_cons he
    rw [List.cons_append, commaPieces, if_neg (Ne.symm hc), ih _ he, List.append_assoc]
    rfl

theorem commaPieces_commaJoin (es : List (List UInt8)) (h : Plain es) :
    commaPieces [] (commaJoin es) = es := by
  induction es with
  | nil => rfl
  | cons e es ih =>
    obtain ⟨hne, hcomma, -⟩ := h e List.mem_cons_self
    have hrest := ih fun e' he' => h e' (List.mem_cons_of_mem _ he')
    cases es with
    | nil =>
      rw [commaJoin, commaPieces_plain [] e hcomma, List.nil_append, if_neg hne]
    | cons e' es =>
      rw [commaJoin, commaPieces_comma [] e _ hcomma, hrest, List.nil_append]
      simp

theorem cutAtComma_commaJoin (es : List (List UInt8)) (h : Plain es) :
    cutAtComma (commaJoin es) = commaJoin (es.take 1) := by
  cases es with
  | nil => rfl
  | cons e es =>
    obtain ⟨-, hcomma, -⟩ := h e List.mem_cons_self
    have hall : ∀ c ∈ e, decide (c ≠ 44) = true := by
      intro c hc
      refine decide_eq_true ?_
      rintro rfl
      exact hcomma hc
    cases es with
    | nil => exact List.takeWhile_eq_self_iff.2 hall
    | cons e' es =>
      show (e ++ 44 :: commaJoin (e' :: es)).takeWhile _ = e
      rw [List.takeWhile_append_of_pos hall, List.takeWhile_cons_of_neg (by decide), List.append_nil]

theorem commaJoin_eq_nil_iff (es : List (List UInt8)) (h : Plain es) :
    commaJoin es = [] ↔ es = [] := by
  constructor
  · intro hnil
    have hp := commaPieces_commaJoin es h
    rw [hnil] at hp
    exact hp.symm
  · rintro rfl
    rfl

/-! ## Commands -/

inductive ListCall where
  | dns (l : EntryList)
  | domain (l : EntryList)

namespace ListCall

/-- The dns list in force after the command. -/
def dnsItems : ListCall → List (List UInt8) → List (List UInt8)
  | .dns l, _ => l.items
  | .domain _, servers => servers

/-- The domain list in force after the command. -/
def domainItems : ListCall → List (List UInt8) → List (List UInt8)
  | .dns _, domains => domains
  | .domain l, _ => l.items

/-- Whether the domain list has been cut after the command, from whether it was and the
servers known before. -/
def cuts : ListCall → List (List UInt8) → Bool → Bool
  | .dns l, _, cut => cut || !l.items.isEmpty
  | .domain _, servers, _ => !servers.isEmpty

end ListCall

/-- The most recent dns list. -/
def lastServers (calls : List ListCall) : List (List UInt8) :=
  calls.foldl (fun servers call => call.dnsItems servers) []

/-- The most recent domain list. -/
def lastDomains (calls : List ListCall) : List (List UInt8) :=
  calls.foldl (fun domains call => call.domainItems domains) []

/-- Whether the file has been written since the most recent domain list came in: by that
command itself, a server being known, or by a later one. -/
def domainsCut (calls : List ListCall) : Bool :=
  (calls.foldl (fun st call => (call.dnsItems st.1, call.cuts st.1 st.2)) (([] : List (List UInt8)), false)).2

theorem lastServers_append (calls : List ListCall) (call : ListCall) :
    lastServers (calls ++ [call]) = call.dnsItems (lastServers calls) := by
  simp [lastServers]

theorem lastDomains_append (calls : List ListCall) (call : ListCall) :
    lastDomains (calls ++ [call]) = call.domainItems (lastDomains calls) := by
  simp [lastDomains]

theorem domainsCut_append (calls : List ListCall) (call : ListCall) :
    domainsCut (calls ++ [call]) = call.cuts (lastServers calls) (domainsCut calls) := by
  have hfst (cs : List ListCall) (st : List (List UInt8) × Bool) :
      (cs.foldl (fun st call => (call.dnsItems st.1, call.cuts st.1 st.2)) st).1 =
        cs.foldl (fun servers call => call.dnsItems servers) st.1 := by
    induction cs generalizing st with
    | nil => rfl
    | cons c cs ih => exact ih _
  unfold domainsCut lastServers
  rw [List.foldl_append, ← hfst calls ([], false)]
  rfl

/-- One `domain` line, and a `search` line for the others. -/
def domainLines : List (List UInt8) → List UInt8
  | [] => []
  | e :: es => ascii "domain " ++ e ++ domainTail es

section
variable {τ : Type} (env : IfchEnv τ)

def ListCall.perform (s : Ifch τ) : ListCall → Ifch τ
  | .dns l => (performDns env s (commaJoin l.items)).1
  | .domain l => (performDomain env s (commaJoin l.items)).1

/-- The file for these lists: a line for each server, and up to seven domains. -/
def listsText (servers domains : List (List UInt8)) : List UInt8 :=
  env.head ++ (servers.flatMap fun e => ascii "nameserver " ++ e ++ [10]) ++
    domainLines (domains.take 7) ++ 10 :: env.tail

/-- The file shows the lists last received. -/
def Reflects (calls : List ListCall) (s : Ifch τ) : Prop :=
  (calls.foldl (ListCall.perform env) s).resolvConf =
    listsText env (lastServers calls) (lastDomains calls)

/-! ## What a command does -/

theorem domainText_commaJoin (domains : List (List UInt8)) (hd : Plain domains) :
    domainText (commaJoin domains) = domainLines (domains.take 7) := by
  unfold domainText
  rw [commaPieces_commaJoin domains hd]
  cases domains.take 7 with
  | nil => rfl
  | cons e es => rfl

theorem resolvText_commaJoin (servers domains : List (List UInt8)) (hs : Plain servers)
    (hd : Plain domains) :
    resolvText env (commaJoin servers) (commaJoin domains) = listsText env servers domains := by
  unfold resolvText nameserverText listsText
  rw [commaPieces_commaJoin servers hs, domainText_commaJoin domains hd]

/-- What the buffers hold of the lists last received. -/
structure Kept (s : Ifch τ) (servers domains : List (List UInt8)) (cut : Bool) : Prop where
  namesvrs_eq : s.namesvrs = commaJoin (servers.take 1)
  domains_eq : s.domains = commaJoin (if cut then domains.take 1 else domains)
  plainServers : Plain servers
  plainDomains : Plain domains

variable (hopen : env.resolvOpen = true) (hseek : env.seekOk = true)
include hopen hseek

theorem writeResolveConf_lists (s : Ifch τ) (servers domains : List (List UInt8)) (hs : Plain servers)
    (hd : Plain domains) (hns : s.namesvrs = commaJoin servers) (hdom : s.domains = commaJoin domains) :
    (writeResolveConf env s).1 =
      if servers = [] then s
      else { s with
        resolvConf := listsText env servers domains
        namesvrs := commaJoin (servers.take 1)
        domains := commaJoin (domains.take 1) } := by
  unfold writeResolveConf
  rw [hopen, hseek, hns, hdom, resolvText_commaJoin env servers domains hs hd,
    cutAtComma_commaJoin servers hs, cutAtComma_commaJoin domains hd]
  by_cases hnil : servers = []
  · rw [if_pos hnil, if_pos ((commaJoin_eq_nil_iff servers hs).2 hnil)]
    rfl
  · rw [if_neg hnil, if_neg fun h => hnil ((commaJoin_eq_nil_iff servers hs).1 h)]
    rfl

/-- The lists the file shows if the command writes it. -/
def ListCall.shown (servers domains : List (List UInt8)) (cut : Bool) : ListCall → List UInt8
  | .dns l => listsText env l.items (if cut then domains.take 1 else domains)
  | .domain l => listsText env (servers.take 1) l.items

omit hopen hseek in
/-- The joined text fits the buffer it is printed to. -/
theorem EntryList.room (l : EntryList) : ¬ MAX_BUF < (commaJoin l.items).length ∧
    (commaJoin l.items).take (MAX_BUF - 1) = commaJoin l.items := by
  have hfits := l.fits
  refine ⟨?_, List.take_of_length_le hfits⟩
  simp only [MAX_BUF] at hfits ⊢
  omega

theorem perform_dns_kept (l : EntryList) (s : Ifch τ) (servers domains : List (List UInt8)) (cut : Bool)
    (h : Kept s servers domains cut) :
    Kept ((ListCall.dns l).perform env s) l.items domains (cut || !l.items.isEmpty) ∧
      ((ListCall.dns l).perform env s).resolvConf =
        if l.items = [] then s.resolvConf else (ListCall.dns l).shown env servers domains cut := by
  have hcutPlain : Plain (if cut then domains.take 1 else domains) := by
    split
    · exact h.plainDomains.take _ _
    · exact h.plainDomains
  have hwrite := writeResolveConf_lists env hopen hseek
    { s with namesvrs := commaJoin l.items } l.items _ l.entry hcutPlain rfl h.domains_eq
  have hperform : (ListCall.dns l).perform env s =
      (writeResolveConf env { s with namesvrs := commaJoin l.items }).1 := by
    show (performDns env s (commaJoin l.items)).1 = _
    unfold performDns
    rw [hopen, l.room.2, if_neg l.room.1]
    rfl
  rw [hperform, hwrite]
  by_cases hnil : l.items = []
  · have hcut : (cut || !l.items.isEmpty) = cut := by
      rw [hnil]
      exact Bool.or_false cut
    rw [if_pos hnil]
    refine ⟨⟨?_, ?_, l.entry, h.plainDomains⟩, (if_pos hnil).symm⟩
    · show commaJoin l.items = commaJoin (l.items.take 1)
      rw [hnil]
      rfl
    · show s.domains = commaJoin (if (cut || !l.items.isEmpty) = true then domains.take 1 else domains)
      rw [hcut]
      exact h.domains_eq
  · have hcut : (cut || !l.items.isEmpty) = true := by simp [hnil]
    rw [if_neg hnil]
    refine ⟨⟨rfl, ?_, l.entry, h.plainDomains⟩, (if_neg hnil).symm⟩
    show commaJoin ((if cut = true then domains.take 1 else domains).take 1) =
      commaJoin (if (cut || !l.items.isEmpty) = true then domains.take 1 else domains)
    rw [if_pos hcut]
    split
    · rw [List.take_take]
      rfl
    · rfl

theorem perform_domain_kept (l : EntryList) (s : Ifch τ) (servers domains : List (List UInt8)) (cut : Bool)
    (h : Kept s servers domains cut) :
    Kept ((ListCall.domain l).perform env s) servers l.items (!servers.isEmpty) ∧
      ((ListCall.domain l).perform env s).resolvConf =
        if servers = [] then s.resolvConf else (ListCall.domain l).shown env servers domains cut := by
  have hwrite := writeResolveConf_lists env hopen hseek
    { s with domains := commaJoin l.items } (servers.take 1) l.items (h.plainServers.take _ _) l.entry
    h.namesvrs_eq rfl
  have hperform : (ListCall.domain l).perform env s =
      (writeResolveConf env { s with domains := commaJoin l.items }).1 := by
    show (performDomain env s (commaJoin l.items)).1 = _
    unfold performDomain
    rw [hopen, l.room.2, if_neg l.room.1]
    rfl
  rw [hperform, hwrite]
  by_cases hnil : servers = []
  · subst hnil
    exact ⟨⟨h.namesvrs_eq, rfl, h.plainServers, l.entry⟩, rfl⟩
  · have hcut : (!servers.isEmpty) = true := by simp [hnil]
    have htake : servers.take 1 ≠ [] := by simpa using hnil
    rw [if_neg htake]
    refine ⟨⟨?_, ?_, h.plainServers, l.entry⟩, (if_neg hnil).symm⟩
    · show commaJoin ((servers.take 1).take 1) = commaJoin (servers.take 1)
      rw [List.take_take]
      rfl
    · show commaJoin (l.items.take 1) = commaJoin (if (!servers.isEmpty) = true then l.items.take 1 else l.items)
      rw [if_pos hcut]

theorem perform_kept (call : ListCall) (s : Ifch τ) (servers domains : List (List UInt8)) (cut : Bool)
    (h : Kept s servers domains cut) :
    Kept (call.perform env s) (call.dnsItems servers) (call.domainItems domains) (call.cuts servers cut) ∧
      (call.perform env s).resolvConf =
        if call.dnsItems servers = [] then s.resolvConf else call.shown env servers domains cut := by
  cases call with
  | dns l => exact perform_dns_kept env hopen hseek l s servers domains cut h
  | domain l => exact perform_domain_kept env hopen hseek l s servers domains cut h

/-- Whatever commands came in: what the buffers hold, and that the file lists some server once
one was received. -/
theorem performs_kept (s : Ifch τ) (hns : s.namesvrs = []) (hdom : s.domains = []) (calls : List ListCall) :
    Kept (calls.foldl (ListCall.perform env) s) (lastServers calls) (lastDomains calls) (domainsCut calls) ∧
      ((∃ l, ListCall.dns l ∈ calls ∧ l.items ≠ []) → ∃ servers domains, servers ≠ [] ∧
        (calls.foldl (ListCall.perform env) s).resolvConf = listsText env servers domains) := by
  induction calls using List.reverseRecOn with
  | nil =>
    refine ⟨⟨hns, hdom, nofun, nofun⟩, ?_⟩
    rintro ⟨l, hl, -⟩
    cases hl
  | append_singleton calls call ih =>
    obtain ⟨hkept, hfile⟩ := ih
    rw [List.foldl_append, lastServers_append, lastDomains_append, domainsCut_append]
    obtain ⟨hkept', hconf⟩ := perform_kept env hopen hseek call _ _ _ _ hkept
    refine ⟨hkept', ?_⟩
    rintro ⟨l, hl, hne⟩
    show ∃ servers domains, servers ≠ [] ∧ (call.perform env _).resolvConf = _
    rw [hconf]
    by_cases hnil : call.dnsItems (lastServers calls) = []
    · -- nothing is written, so the list was received before
      have hbefore : ListCall.dns l ∈ calls := by
        rcases List.mem_append.1 hl with hl | hl
        · exact hl
        · rw [← List.mem_singleton.1 hl] at hnil
          exact absurd hnil hne
      rw [if_pos hnil]
      exact hfile ⟨l, hbefore, hne⟩
    · rw [if_neg hnil]
      cases call with
      | dns l' => exact ⟨_, _, hnil, rfl⟩
      | domain l' =>
        have hservers : lastServers calls ≠ [] := hnil
        exact ⟨(lastServers calls).take 1, _, by simpa using hservers, rfl⟩

omit hopen hseek

/-! ## Comparing files -/

theorem listsText_servers_ne (servers domains domains' : List (List UInt8)) (h : servers ≠ []) :
    listsText env servers domains ≠ listsText env [] domains' := by
  intro heq
  unfold listsText at heq
  simp only [List.append_assoc] at heq
  have hrest := List.append_cancel_left heq
  obtain ⟨e, es, rfl⟩ := List.exists_cons_of_ne_nil h
  -- a `nameserver` line against a `domain` line or the end
  cases hd : domains'.take 7 with
  | nil =>
    rw [hd] at hrest
    exact absurd (List.cons.inj hrest).1 (by decide)
  | cons d ds =>
    rw [hd] at hrest
    exact absurd (List.cons.inj hrest).1 (by decide)

theorem listsText_first_server_iff (servers domains : List (List UInt8)) (h : servers ≠ []) :
    listsText env (servers.take 1) domains = listsText env servers domains ↔ servers.length = 1 := by
  constructor
  · intro heq
    match servers, h with
    | [e], _ => rfl
    | e :: e' :: es, _ =>
      have hlen := congrArg List.length heq
      simp only [listsText, List.take_succ_cons, List.take_zero, List.flatMap_cons, List.flatMap_nil,
        List.length_append, List.length_cons, List.length_nil] at hlen
      omega
  · intro h1
    rw [List.take_of_length_le (by omega)]

theorem listsText_first_domain_iff (servers domains : List (List UInt8)) :
    listsText env servers (domains.take 1) = listsText env servers domains ↔ domains.length ≤ 1 := by
  constructor
  · intro heq
    match domains with
    | [] => exact Nat.zero_le 1
    | [e] => exact Nat.le_refl 1
    | e :: e' :: es =>
      have hlen := congrArg List.length heq
      simp only [listsText, List.take_succ_cons, List.take_zero, List.take_nil, domainLines, domainTail,
        List.length_append, List.length_cons, List.length_nil] at hlen
      omega
  · intro h1
    rw [List.take_of_length_le h1]

include hopen hseek

/-- **resolv.conf reflects the last received lists** if and only if the last dns list is not
empty, and the other list is not a longer one that an earlier command has already cut. -/
theorem resolvConf_reflects_iff (s : Ifch τ) (hns : s.namesvrs = []) (hdom : s.domains = [])
    (calls : List ListCall) (last : ListCall)
    (hdns : ∃ l, ListCall.dns l ∈ calls ++ [last] ∧ l.items ≠ []) :
    Reflects env (calls ++ [last]) s ↔
      lastServers (calls ++ [last]) ≠ [] ∧
        match last with
        | .dns _ => (lastDomains calls).length ≤ 1 ∨ domainsCut calls = false
        | .domain _ => (lastServers calls).length = 1 := by
  obtain ⟨hkept, -⟩ := performs_kept env hopen hseek s hns hdom calls
  obtain ⟨-, hconf⟩ := perform_kept env hopen hseek last _ _ _ _ hkept
  obtain ⟨-, hfile⟩ := performs_kept env hopen hseek s hns hdom (calls ++ [last])
  unfold Reflects
  by_cases hnil : lastServers (calls ++ [last]) = []
  · obtain ⟨servers, domains, hne, htext⟩ := hfile hdns
    rw [htext, hnil]
    constructor
    · intro heq
      exact absurd heq (listsText_servers_ne env servers domains _ hne)
    · rintro ⟨h, -⟩
      exact absurd rfl h
  · have hitems := hnil
    rw [lastServers_append] at hitems
    rw [if_neg hitems] at hconf
    rw [List.foldl_append, List.foldl_cons, List.foldl_nil, hconf, lastServers_append, lastDomains_append]
    rw [and_iff_right hitems]
    cases last with
    | dns l =>
      show listsText env l.items _ = listsText env l.items (lastDomains calls) ↔ _
      cases hcut : domainsCut calls with
      | true =>
        rw [if_pos rfl, listsText_first_domain_iff]
        simp
      | false => simp
    | domain l => exact listsText_first_server_iff env (lastServers calls) l.items hitems

end

/-! ## A domain list after two servers -/

instance (es : List (List UInt8)) : Decidable (Plain es) := inferInstanceAs (Decidable (∀ e ∈ es, _))

def twoServers : EntryList := ⟨[ascii "10.0.0.1", ascii "10.0.0.2"], by decide, by decide⟩

def oneDomain : EntryList := ⟨[ascii "example.org"], by decide, by decide⟩

/-- The second server is gone once the domain has come in. -/
theorem second_server_lost :
    ¬ Reflects exampleEnv [.dns twoServers, .domain oneDomain] exampleIfch := by
  unfold Reflects
  decide +kernel

/-- In the other order both lists are shown. -/
theorem domain_first_reflected :
    Reflects exampleEnv [.domain oneDomain, .dns twoServers] exampleIfch :=
  (resolvConf_reflects_iff exampleEnv rfl rfl exampleIfch rfl rfl [.domain oneDomain] (.dns twoServers)
    ⟨twoServers, by simp, by decide⟩).2 ⟨by decide, Or.inl (by decide)⟩

end Ndhc
