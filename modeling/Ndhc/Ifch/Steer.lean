import Ndhc.Ifch.BindText
import Ndhc.Ifch.Resolv
import Ndhc.Wire.Receive

/-!
# Hostname and domain bytes

Two packets that agree in everything but their HOSTNAME and DOMAIN options, bound by ifch
in the same state.  `bind_not_steered` gives conditions on the two options under which both
binds dispatch the same commands other than `host` and `dom`, and leave the same nameserver
lines in resolv.conf.

The buffers are cut into their commands; what comes before `host` and `dom` is the same text
run from the same state, what comes after is the same text run from states related by
`SameConfig`, which every dispatch keeps.
-/

namespace Ndhc

open Bytes

/-! ## Statement -/

/-- The packets differ at most in their HOSTNAME and DOMAIN options. -/
def SameButNames (p₁ p₂ : DhcpMsg) : Prop :=
  slice p₁.bytes 16 4 = slice p₂.bytes 16 4 ∧
    ∀ code, code ≠ DCODE_HOSTNAME → code ≠ DCODE_DOMAIN → option p₁ code = option p₂ code

def otherCommands (l : Log) : Log := l.filter fun e => e.1 ≠ .hostname && e.1 ≠ .domain

section
variable {τ : Type} (env : IfchEnv τ) (s : Ifch τ) (cfgPacket : DhcpMsg)

/-- ifch after the buffer `ifchange_bind` builds has been executed. -/
def afterBind (p : DhcpMsg) : Ifch τ :=
  (executeBuffer (ifchDispatch env) [] (bindBuffer cfgPacket p) s).2.2

/-- The same commands other than `host` and `dom`, and the same nameserver lines. -/
def NotSteered (p₁ p₂ : DhcpMsg) : Prop :=
  otherCommands (afterBind env s cfgPacket p₁).log =
      otherCommands (afterBind env s cfgPacket p₂).log ∧
    nameserverLines (afterBind env s cfgPacket p₁).resolvConf =
      nameserverLines (afterBind env s cfgPacket p₂).resolvConf

/-- A name that is sent is non-empty up to its first NUL and has no `;` there, a domain no
newline either. -/
def NamesPlain (p : DhcpMsg) : Prop :=
  (sent cfgPacket p DCODE_HOSTNAME →
    cstr (option p DCODE_HOSTNAME) ≠ [] ∧ 59 ∉ cstr (option p DCODE_HOSTNAME)) ∧
  (sent cfgPacket p DCODE_DOMAIN →
    cstr (option p DCODE_DOMAIN) ≠ [] ∧ 59 ∉ cstr (option p DCODE_DOMAIN) ∧
      10 ∉ cstr (option p DCODE_DOMAIN))

/-- Writing resolv.conf again would not change its nameserver lines: it is not kept, or the
bind sends a single server, or it sends none and the file lists the one ifch holds. -/
def ServersSettled (p : DhcpMsg) : Prop :=
  env.resolvOpen = false ∨
    (10 ∉ s.domains ∧
      if sent cfgPacket p DCODE_DNS ∧ 4 ≤ (option p DCODE_DNS).length then
        (option p DCODE_DNS).length < 8
      else 44 ∉ s.namesvrs ∧ (s.namesvrs = [] ∨
        nameserverLines s.resolvConf = nameserverLines (resolvText env s.namesvrs [])))

end

/-! ## One command of a buffer -/

/-- A text that is empty or one command of the entry. -/
def OneCommand (e : List UInt8 × IfchdState × ArgKind) (text : List UInt8) : Prop :=
  text = [] ∨ ∃ as, text = e.1 ++ as ++ [59] ∧ e.2.2.Matches as

/-- Such a text in front of any other ends the run, is skipped, or is dispatched. -/
theorem exec_oneCommand {σ : Type} (h : σ → IfchdState → List UInt8 → σ × Int)
    (e : List UInt8 × IfchdState × ArgKind) (he : e ∈ commands) (text : List UInt8)
    (ht : OneCommand e text) (x : Exec σ) (hx : x.pos.between = true) (ha : x.arg = []) :
    (∃ u, ∀ rest, exec h (text ++ rest) x = .abort u) ∨
      ∃ y, y.pos.between = true ∧ y.arg = [] ∧ (∀ rest, exec h (text ++ rest) x = exec h rest y) ∧
        (text = [] ∧ y.user = x.user ∨
          ∃ as, text = e.1 ++ as ++ [59] ∧ y.user = (h x.user e.2.1 as).1) := by
  rcases ht with rfl | ⟨as, rfl, hm⟩
  · exact Or.inr ⟨x, hx, ha, fun _ => rfl, Or.inl ⟨rfl, rfl⟩⟩
  · have hcons (rest : List UInt8) : e.1 ++ as ++ [59] ++ rest = e.1 ++ as ++ 59 :: rest := by simp
    by_cases hlen : as.length ≤ MAX_BUF - 1
    · by_cases hpr : (h x.user e.2.1 as).2 = -99
      · refine Or.inl ⟨(h x.user e.2.1 as).1, fun rest => ?_⟩
        rw [hcons, exec_command h e he as rest x hx hm hlen, if_pos hpr]
      · refine Or.inr ⟨⟨.final, e.2.1, [], x.cmdf || (h x.user e.2.1 as).2 != 0,
          (h x.user e.2.1 as).1⟩, rfl, rfl, fun rest => ?_, Or.inr ⟨as, rfl, rfl⟩⟩
        rw [hcons, exec_command h e he as rest x hx hm hlen, if_neg hpr]
    · refine Or.inl ⟨x.user, fun rest => ?_⟩
      rw [hcons, exec_command_long h e he as rest x hx hm (by omega)]

theorem oneCommand_addrs (a b : List UInt8) :
    (ArgKind.addrs 1 (some 2)).Matches (inetNtop a ++ 44 :: inetNtop b) := by
  obtain ⟨d, hd, hf⟩ := feed_inetNtop 1 (some 2) 0 a
  obtain ⟨d', hd', hf'⟩ := feed_inetNtop 1 (some 2) 1 b
  refine ⟨by simp, .addr 1 3 d', ?_, by simp [ArgKind.accepts, hd']⟩
  show (ArgKind.addrs 1 (some 2)).feed (.addr 0 0 0) _ = _
  rw [ArgKind.feed_append, hf, Option.bind_some, feed_comma _ _ _ _ _ hd (by simp), hf']

theorem oneCommand_addrs_bcast (a b c : List UInt8) :
    (ArgKind.addrs 1 (some 2)).Matches (inetNtop a ++ 44 :: inetNtop b ++ 44 :: inetNtop c) := by
  obtain ⟨d, hd, hf⟩ := feed_inetNtop 1 (some 2) 0 a
  obtain ⟨d', hd', hf'⟩ := feed_inetNtop 1 (some 2) 1 b
  obtain ⟨d'', hd'', hf''⟩ := feed_inetNtop 1 (some 2) 2 c
  refine ⟨by simp, .addr 2 3 d'', ?_, by simp [ArgKind.accepts, hd'']⟩
  show (ArgKind.addrs 1 (some 2)).feed (.addr 0 0 0) _ = _
  rw [List.append_assoc, ArgKind.feed_append, hf, Option.bind_some, List.cons_append,
    feed_comma _ _ _ _ _ hd (by simp), ArgKind.feed_append, hf', Option.bind_some,
    feed_comma _ _ _ _ _ hd' (by simp), hf'']

section
variable (cfgPacket packet : DhcpMsg)

/-- The address command, and that it is a C string. -/
theorem oneCommand_sendClientIp (olen : Nat) :
    OneCommand (ascii "ip4:", .ip4set, .addrs 1 (some 2)) (sendClientIp cfgPacket packet olen) ∧
      0 ∉ sendClientIp cfgPacket packet olen := by
  have haddr (code : UInt8) (a : List UInt8 × Bool) (h : addrOption cfgPacket packet code = some a) :
      ∃ bs, a.1 = inetNtop bs := by
    unfold addrOption at h
    simp only at h
    split at h
    · cases h
      exact ⟨_, rfl⟩
    · cases h
  obtain ⟨sn, hsn⟩ : ∃ bs, ((addrOption cfgPacket packet DCODE_SUBNET).map (·.1)).getD
      (ascii "255.255.255.0") = inetNtop bs := by
    cases hs : addrOption cfgPacket packet DCODE_SUBNET with
    | none => exact ⟨[255, 255, 255, 0], by decide⟩
    | some a => exact haddr _ a hs
  have h0 : (0 : UInt8) ∉ ascii "ip4:" := by decide
  unfold sendClientIp
  simp only [hsn]
  split
  · exact ⟨Or.inl rfl, by simp⟩
  · split
    · next bc hbc =>
      obtain ⟨bs, hbs⟩ := haddr _ bc hbc
      rw [hbs]
      split
      · exact ⟨Or.inl rfl, by simp⟩
      · refine ⟨Or.inr ⟨_, ?_, oneCommand_addrs_bcast (slice packet.bytes 16 4) sn bs⟩, ?_⟩
        · simp
        · simp [h0, zero_not_mem_inetNtop]
    · split
      · exact ⟨Or.inl rfl, by simp⟩
      · refine ⟨Or.inr ⟨_, ?_, oneCommand_addrs (slice packet.bytes 16 4) sn⟩, ?_⟩
        · simp
        · simp [h0, zero_not_mem_inetNtop]

theorem oneCommand_router :
    OneCommand (ascii "routr:", .router, .addrs 0 (some 0))
      (cmdText cfgPacket packet DCODE_ROUTER) := by
  by_cases h : sent cfgPacket packet DCODE_ROUTER
  · rw [cmdText_eq cfgPacket packet DCODE_ROUTER (by decide) h]
    split
    · exact Or.inl rfl
    · show OneCommand _ (ascii "routr" ++ 58 :: cstr (inetNtop ((option packet DCODE_ROUTER).take 4)) ++ [59])
      rw [cstr_eq_self _ (zero_not_mem_inetNtop _)]
      exact Or.inr ⟨_, rfl, matches_inetNtop _ _⟩
  · exact Or.inl (cmdText_eq_nil cfgPacket packet DCODE_ROUTER h)

theorem cmdText_dns :
    cmdText cfgPacket packet DCODE_DNS =
      if sent cfgPacket packet DCODE_DNS ∧ 4 ≤ (option packet DCODE_DNS).length then
        ascii "dns:" ++ iplistText (option packet DCODE_DNS) ++ [59] else [] := by
  by_cases h : sent cfgPacket packet DCODE_DNS
  · rw [cmdText_eq cfgPacket packet DCODE_DNS (by decide) h]
    show (if (option packet DCODE_DNS).length < 4 then []
      else ascii "dns" ++ 58 :: cstr (iplistText (option packet DCODE_DNS)) ++ [59]) = _
    rw [cstr_eq_self _ (zero_not_mem_iplistText _)]
    by_cases h4 : (option packet DCODE_DNS).length < 4
    · rw [if_pos h4, if_neg fun h' => by omega]
    · rw [if_neg h4, if_pos ⟨h, by omega⟩]
      rfl
  · rw [cmdText_eq_nil cfgPacket packet DCODE_DNS h, if_neg fun h' => h h'.1]

theorem oneCommand_dns :
    OneCommand (ascii "dns:", .dns, .addrs 0 none) (cmdText cfgPacket packet DCODE_DNS) := by
  rw [cmdText_dns]
  split
  · exact Or.inr ⟨_, rfl, matches_iplistText _⟩
  · exact Or.inl rfl

/-- The command of a name: nothing, or the word and the name up to its first NUL. -/
theorem cmdText_name (code : UInt8) (name : List UInt8) (hc : code ∈ bindCodes)
    (henc : optEncoding code (option packet code) = (1, name, option packet code)) :
    cmdText cfgPacket packet code =
      if sent cfgPacket packet code then name ++ 58 :: cstr (option packet code) ++ [59] else [] := by
  by_cases h : sent cfgPacket packet code
  · have hpos : ¬ (option packet code).length < 1 := by
      have := List.length_pos_of_ne_nil h.1
      omega
    rw [cmdText_eq cfgPacket packet code hc h, henc, if_neg hpos, if_pos h]
  · rw [cmdText_eq_nil cfgPacket packet code h, if_neg h]

theorem matches_cstr (od : List UInt8) (hne : cstr od ≠ []) (h59 : 59 ∉ cstr od) :
    ArgKind.str.Matches (cstr od) := by
  refine matches_str _ hne fun c hc => ⟨?_, ?_⟩
  · rintro rfl
    exact h59 hc
  · rintro rfl
    exact zero_not_mem_cstr od hc

end

/-! ## States that differ in names only -/

/-- The same kernel state, servers and nameserver lines, and the same commands other than
`host` and `dom`; the domains are the same or hold no newline. -/
structure SameConfig {τ : Type} (u v : Ifch τ) : Prop where
  net : u.net = v.net
  namesvrs : u.namesvrs = v.namesvrs
  domains : u.domains = v.domains ∨ (10 ∉ u.domains ∧ 10 ∉ v.domains)
  lines : nameserverLines u.resolvConf = nameserverLines v.resolvConf
  log : otherCommands u.log = otherCommands v.log

theorem newline_not_mem_cutAtComma (d : List UInt8) (h : 10 ∉ d) : 10 ∉ cutAtComma d :=
  fun hc => h ((List.takeWhile_prefix _).mem hc)

theorem newline_not_mem_take (d : List UInt8) (n : Nat) (h : 10 ∉ d) : 10 ∉ d.take n :=
  fun hc => h (List.mem_of_mem_take hc)

section
variable {τ : Type} (env : IfchEnv τ)

theorem writeResolveConf_ne (s : Ifch τ) : (writeResolveConf env s).2 ≠ -99 := by
  unfold writeResolveConf
  repeat' split
  all_goals simp

theorem performDns_ne (s : Ifch τ) (str : List UInt8) : (performDns env s str).2 ≠ -99 := by
  unfold performDns
  split
  · simp
  · split
    · simp
    · exact writeResolveConf_ne env _

theorem performDomain_ne (s : Ifch τ) (str : List UInt8) : (performDomain env s str).2 ≠ -99 := by
  unfold performDomain
  split
  · simp
  · split
    · simp
    · exact writeResolveConf_ne env _

theorem performHostname_ne (s : Ifch τ) (str : List UInt8) : (performHostname env s str).2 ≠ -99 := by
  unfold performHostname
  split
  · simp
  · show (if env.sethostname str then (0 : Int) else -1) ≠ -99
    split <;> decide

theorem performHostname_state (s : Ifch τ) (str : List UInt8) : (performHostname env s str).1 = s := by
  unfold performHostname
  split <;> rfl

/-- Servers written with either of two lists of domains show the same lines. -/
theorem nameserverLines_resolvText_eq (namesvrs d d' : List UInt8) (hns : namesvrs ≠ [])
    (hd : d = d' ∨ (10 ∉ d ∧ 10 ∉ d')) :
    nameserverLines (resolvText env namesvrs d) = nameserverLines (resolvText env namesvrs d') := by
  rcases hd with rfl | ⟨h, h'⟩
  · rfl
  · rw [nameserverLines_resolvText env namesvrs d hns h,
      nameserverLines_resolvText env namesvrs d' hns h']

theorem cutAtComma_alike (d d' : List UInt8) (hd : d = d' ∨ (10 ∉ d ∧ 10 ∉ d')) :
    cutAtComma d = cutAtComma d' ∨ (10 ∉ cutAtComma d ∧ 10 ∉ cutAtComma d') := by
  rcases hd with rfl | ⟨h, h'⟩
  · exact Or.inl rfl
  · exact Or.inr ⟨newline_not_mem_cutAtComma d h, newline_not_mem_cutAtComma d' h'⟩

theorem writeResolveConf_same (u v : Ifch τ) (h : SameConfig u v) :
    SameConfig (writeResolveConf env u).1 (writeResolveConf env v).1 := by
  unfold writeResolveConf
  rw [h.namesvrs]
  split
  · exact h
  · split
    · exact h
    · split
      · exact h
      · next hns _ =>
        exact ⟨h.net, rfl, cutAtComma_alike _ _ h.domains,
          nameserverLines_resolvText_eq env _ _ _ hns h.domains, h.log⟩

theorem performDns_same (u v : Ifch τ) (str : List UInt8) (h : SameConfig u v) :
    SameConfig (performDns env u str).1 (performDns env v str).1 := by
  unfold performDns
  split
  · exact h
  · split
    · exact h
    · exact writeResolveConf_same env _ _ ⟨h.net, rfl, h.domains, h.lines, h.log⟩

theorem performDomain_same (u v : Ifch τ) (d d' : List UInt8) (h : SameConfig u v)
    (hl : d.length ≤ MAX_BUF ∧ d'.length ≤ MAX_BUF ∨ d = d')
    (hd : d = d' ∨ (10 ∉ d ∧ 10 ∉ d')) :
    SameConfig (performDomain env u d).1 (performDomain env v d').1 := by
  have hlen : MAX_BUF < d.length ↔ MAX_BUF < d'.length := by
    rcases hl with ⟨h1, h2⟩ | rfl
    · omega
    · exact Iff.rfl
  have htake : d.take (MAX_BUF - 1) = d'.take (MAX_BUF - 1) ∨
      (10 ∉ d.take (MAX_BUF - 1) ∧ 10 ∉ d'.take (MAX_BUF - 1)) := by
    rcases hd with rfl | ⟨h1, h2⟩
    · exact Or.inl rfl
    · exact Or.inr ⟨newline_not_mem_take d _ h1, newline_not_mem_take d' _ h2⟩
  unfold performDomain
  split
  · exact h
  · by_cases hlong : MAX_BUF < d.length
    · rw [if_pos hlong, if_pos (hlen.1 hlong)]
      exact h
    · rw [if_neg hlong, if_neg fun h' => hlong (hlen.2 h')]
      exact writeResolveConf_same env _ _ ⟨h.net, h.namesvrs, htake, h.lines, h.log⟩

theorem otherCommands_append (l : Log) (e : IfchdState × List UInt8) :
    otherCommands (l ++ [e]) = otherCommands l ++ otherCommands [e] := by
  simp [otherCommands]

theorem performNet_same (f : τ → τ × Int) (u v : Ifch τ) (h : SameConfig u v) :
    SameConfig (performNet f u).1 (performNet f v).1 ∧
      ((performNet f u).2 = -99 ↔ (performNet f v).2 = -99) := by
  unfold performNet
  rw [h.net]
  exact ⟨⟨rfl, h.namesvrs, h.domains, h.lines, h.log⟩, Iff.rfl⟩

/-- Dispatching the same command keeps the states alike. -/
theorem ifchDispatch_same (u v : Ifch τ) (st : IfchdState) (arg : List UInt8) (h : SameConfig u v) :
    SameConfig (ifchDispatch env u st arg).1 (ifchDispatch env v st arg).1 ∧
      ((ifchDispatch env u st arg).2 = -99 ↔ (ifchDispatch env v st arg).2 = -99) := by
  have hlog : SameConfig { u with log := u.log ++ [(st, arg)] } { v with log := v.log ++ [(st, arg)] } :=
    ⟨h.net, h.namesvrs, h.domains, h.lines, by
      show otherCommands (u.log ++ [(st, arg)]) = otherCommands (v.log ++ [(st, arg)])
      rw [otherCommands_append, otherCommands_append, h.log]⟩
  unfold ifchDispatch perform
  cases st with
  | ip4set => exact performNet_same _ _ _ hlog
  | router => exact performNet_same _ _ _ hlog
  | mtu => exact performNet_same _ _ _ hlog
  | carrier => exact performNet_same _ _ _ hlog
  | dns =>
    exact ⟨performDns_same env _ _ arg hlog,
      iff_of_false (performDns_ne env _ _) (performDns_ne env _ _)⟩
  | domain =>
    exact ⟨performDomain_same env _ _ arg arg hlog (Or.inr rfl) (Or.inl rfl),
      iff_of_false (performDomain_ne env _ _) (performDomain_ne env _ _)⟩
  | hostname =>
    refine ⟨?_, iff_of_false (performHostname_ne env _ _) (performHostname_ne env _ _)⟩
    show SameConfig (performHostname env _ arg).1 (performHostname env _ arg).1
    rw [performHostname_state, performHostname_state]
    exact hlog
  | timezone | lprsvr | ipttl | ntpsvr | wins | nothing => exact ⟨hlog, Iff.rfl⟩

end

/-! ## The names of a bind -/

section
variable {τ : Type} (env : IfchEnv τ) (cfgPacket : DhcpMsg)

/-- What the `host` and `dom` commands of a packet do to ifch. -/
def afterNames (p : DhcpMsg) (u : Ifch τ) : Ifch τ :=
  let u := if sent cfgPacket p DCODE_HOSTNAME then
      (ifchDispatch env u .hostname (cstr (option p DCODE_HOSTNAME))).1 else u
  if sent cfgPacket p DCODE_DOMAIN then
    (ifchDispatch env u .domain (cstr (option p DCODE_DOMAIN))).1 else u

theorem exec_name (p : DhcpMsg) (code : UInt8) (name : List UInt8) (st : IfchdState)
    (he : (name ++ [58], st, ArgKind.str) ∈ commands) (hcode : code ∈ bindCodes)
    (henc : optEncoding code (option p code) = (1, name, option p code))
    (hplain : sent cfgPacket p code → cstr (option p code) ≠ [] ∧ 59 ∉ cstr (option p code))
    (hpr : ∀ (u : Ifch τ) as, (ifchDispatch env u st as).2 ≠ -99)
    (x : Exec (Ifch τ)) (hx : x.pos.between = true) (ha : x.arg = []) :
    ∃ y : Exec (Ifch τ), y.pos.between = true ∧ y.arg = [] ∧
      (∀ rest, exec (ifchDispatch env) (cmdText cfgPacket p code ++ rest) x =
        exec (ifchDispatch env) rest y) ∧
      y.user = if sent cfgPacket p code then
        (ifchDispatch env x.user st (cstr (option p code))).1 else x.user := by
  rw [cmdText_name cfgPacket p code name hcode henc]
  by_cases h : sent cfgPacket p code
  · obtain ⟨hne, h59⟩ := hplain h
    have hm := matches_cstr (option p code) hne h59
    have hlen : (cstr (option p code)).length ≤ MAX_BUF - 1 := by
      have h1 := length_cstr_le (option p code)
      have h2 := length_option_le p code
      simp only [MAX_DOPT_SIZE, MAX_BUF] at h2 ⊢
      omega
    refine ⟨⟨.final, st, [], x.cmdf || (ifchDispatch env x.user st (cstr (option p code))).2 != 0,
      (ifchDispatch env x.user st (cstr (option p code))).1⟩, rfl, rfl, fun rest => ?_,
      by rw [if_pos h]⟩
    have hc := exec_command (ifchDispatch env) (name ++ [58], st, .str) he _ rest x hx hm hlen
    rw [if_neg (hpr _ _)] at hc
    rw [if_pos h, ← hc]
    simp
  · refine ⟨x, hx, ha, fun rest => ?_, by rw [if_neg h]⟩
    rw [if_neg h, List.nil_append]

theorem exec_names (p : DhcpMsg) (hplain : NamesPlain cfgPacket p) (x : Exec (Ifch τ))
    (hx : x.pos.between = true) (ha : x.arg = []) :
    ∃ y : Exec (Ifch τ), y.pos.between = true ∧ y.arg = [] ∧
      (∀ rest, exec (ifchDispatch env) (cmdText cfgPacket p DCODE_HOSTNAME ++
        (cmdText cfgPacket p DCODE_DOMAIN ++ rest)) x = exec (ifchDispatch env) rest y) ∧
      y.user = afterNames env cfgPacket p x.user := by
  obtain ⟨y, hy, hya, hyr, hyu⟩ := exec_name env cfgPacket p DCODE_HOSTNAME (ascii "host") .hostname
    (by decide) (by decide) rfl hplain.1 (fun _ _ => performHostname_ne env _ _) x hx ha
  obtain ⟨z, hz, hza, hzr, hzu⟩ := exec_name env cfgPacket p DCODE_DOMAIN (ascii "dom") .domain
    (by decide) (by decide) rfl (fun h => ⟨(hplain.2 h).1, (hplain.2 h).2.1⟩)
    (fun _ _ => performDomain_ne env _ _) y hy hya
  refine ⟨z, hz, hza, fun rest => ?_, ?_⟩
  · rw [hyr, hzr]
  · rw [hzu, hyu]
    rfl

/-- Writing resolv.conf again from this state would not change its nameserver lines. -/
def Settled (u : Ifch τ) : Prop :=
  env.resolvOpen = false ∨ (10 ∉ u.domains ∧ 44 ∉ u.namesvrs ∧
    (u.namesvrs = [] ∨ env.seekOk = false ∨
      nameserverLines u.resolvConf = nameserverLines (resolvText env u.namesvrs [])))

theorem cutAtComma_eq_self (bs : List UInt8) (h : 44 ∉ bs) : cutAtComma bs = bs := by
  rw [cutAtComma, List.takeWhile_eq_self_iff]
  intro c hc
  have : c ≠ 44 := fun h' => h (h' ▸ hc)
  simp [this]

/-- In a settled state a `dom` command changes nothing that counts. -/
theorem performDomain_settled (u v : Ifch τ) (d : List UInt8) (huv : SameConfig u v)
    (hs : Settled env v) (hd : 10 ∉ d) : SameConfig (performDomain env u d).1 v := by
  unfold performDomain
  rcases hs with hclosed | ⟨h10, h44, hlines⟩
  · simp only [hclosed, Bool.not_false, if_true]
    exact huv
  · have hdom : SameConfig { u with domains := d.take (MAX_BUF - 1) } v :=
      ⟨huv.net, huv.namesvrs, Or.inr ⟨newline_not_mem_take d _ hd, h10⟩, huv.lines, huv.log⟩
    split
    · exact huv
    · split
      · exact huv
      · unfold writeResolveConf
        split
        · exact hdom
        · split
          · exact hdom
          · split
            · exact hdom
            · next hns hseek =>
              simp only [huv.namesvrs] at hns ⊢
              have hl : nameserverLines v.resolvConf =
                  nameserverLines (resolvText env v.namesvrs []) := by
                rcases hlines with h | h | h
                · exact absurd h hns
                · simp [h] at hseek
                · exact h
              exact ⟨huv.net, cutAtComma_eq_self _ h44,
                Or.inr ⟨newline_not_mem_cutAtComma _ (newline_not_mem_take d _ hd), h10⟩,
                (nameserverLines_resolvText env _ _ hns (newline_not_mem_take d _ hd)).trans hl.symm,
                huv.log⟩

theorem SameConfig.symm {u v : Ifch τ} (h : SameConfig u v) : SameConfig v u :=
  ⟨h.net.symm, h.namesvrs.symm, h.domains.imp Eq.symm And.symm, h.lines.symm, h.log.symm⟩

/-- Logs that grow by `host` and `dom` commands keep a state as it was. -/
theorem SameConfig.of_logs (u : Ifch τ) (l l' : Log) (h : otherCommands l = [])
    (h' : otherCommands l' = []) :
    SameConfig { u with log := u.log ++ l } { u with log := u.log ++ l' } := by
  refine ⟨rfl, rfl, Or.inl rfl, rfl, ?_⟩
  show otherCommands (u.log ++ l) = otherCommands (u.log ++ l')
  unfold otherCommands at h h' ⊢
  rw [List.filter_append, List.filter_append, h, h']

/-- A `host` command adds to the log only. -/
theorem afterHost_eq (p : DhcpMsg) (u : Ifch τ) :
    ∃ l, otherCommands l = [] ∧ (if sent cfgPacket p DCODE_HOSTNAME then
      (ifchDispatch env u .hostname (cstr (option p DCODE_HOSTNAME))).1 else u) =
        { u with log := u.log ++ l } := by
  split
  · exact ⟨[(.hostname, cstr (option p DCODE_HOSTNAME))], rfl, performHostname_state env _ _⟩
  · exact ⟨[], rfl, by rw [List.append_nil]⟩

theorem afterNames_same (p₁ p₂ : DhcpMsg) (h₁ : NamesPlain cfgPacket p₁)
    (h₂ : NamesPlain cfgPacket p₂) (u : Ifch τ)
    (hd : (sent cfgPacket p₁ DCODE_DOMAIN ↔ sent cfgPacket p₂ DCODE_DOMAIN) ∨ Settled env u) :
    SameConfig (afterNames env cfgPacket p₁ u) (afterNames env cfgPacket p₂ u) := by
  obtain ⟨l₁, hl₁, e₁⟩ := afterHost_eq env cfgPacket p₁ u
  obtain ⟨l₂, hl₂, e₂⟩ := afterHost_eq env cfgPacket p₂ u
  have hlen (p : DhcpMsg) : (cstr (option p DCODE_DOMAIN)).length ≤ MAX_BUF := by
    have h1 := length_cstr_le (option p DCODE_DOMAIN)
    have h2 := length_option_le p DCODE_DOMAIN
    simp only [MAX_DOPT_SIZE, MAX_BUF] at h2 ⊢
    omega
  have hlog (l : Log) (d : List UInt8) (hl : otherCommands l = []) :
      otherCommands (l ++ [(.domain, d)]) = [] := by
    rw [otherCommands_append, hl]
    rfl
  have hstate (l : Log) (d : List UInt8) :
      (ifchDispatch env { u with log := u.log ++ l } .domain d).1 =
        (performDomain env { u with log := u.log ++ (l ++ [(.domain, d)]) } d).1 := by
    rw [← List.append_assoc]
    rfl
  unfold afterNames
  simp only [e₁, e₂, hstate]
  by_cases s₁ : sent cfgPacket p₁ DCODE_DOMAIN
  · by_cases s₂ : sent cfgPacket p₂ DCODE_DOMAIN
    · rw [if_pos s₁, if_pos s₂]
      exact performDomain_same env _ _ _ _ (.of_logs u _ _ (hlog l₁ _ hl₁) (hlog l₂ _ hl₂))
        (Or.inl ⟨hlen p₁, hlen p₂⟩) (Or.inr ⟨(h₁.2 s₁).2.2, (h₂.2 s₂).2.2⟩)
    · have hs : Settled env u := hd.resolve_left fun h => s₂ (h.1 s₁)
      rw [if_pos s₁, if_neg s₂]
      exact performDomain_settled env _ _ _ (.of_logs u _ _ (hlog l₁ _ hl₁) hl₂) hs (h₁.2 s₁).2.2
  · by_cases s₂ : sent cfgPacket p₂ DCODE_DOMAIN
    · have hs : Settled env u := hd.resolve_left fun h => s₁ (h.2 s₂)
      rw [if_neg s₁, if_pos s₂]
      exact (performDomain_settled env _ _ _ (.of_logs u _ _ (hlog l₂ _ hl₂) hl₁) hs
        (h₂.2 s₂).2.2).symm
    · rw [if_neg s₁, if_neg s₂]
      exact .of_logs u l₁ l₂ hl₁ hl₂

end

/-! ## The commands before the names -/

section
variable {τ : Type} (env : IfchEnv τ) (cfgPacket : DhcpMsg)

theorem iplistText_single (od : List UInt8) (h : od.length < 8) :
    iplistText od = inetNtop (od.take 4) := by
  have hrest : iplistRest (od.drop 4) = [] := by
    rw [iplistRest]
    intro a b c d bs hbs
    have hl := congrArg List.length hbs
    simp only [List.length_drop, List.length_cons] at hl
    omega
  rw [iplistText, hrest, List.append_nil]

theorem comma_not_mem_inetNtop (bs : List UInt8) : 44 ∉ inetNtop bs := by
  have h : ∀ b : UInt8, (44 : UInt8) ∉ decimal b.toNat := by
    intro b hb
    have := isDigit_of_mem_decimal _ 44 hb
    revert this
    decide
  simp [inetNtop, h]

/-- A single server leaves a settled state. -/
theorem performDns_settled (u : Ifch τ) (od : List UInt8) (h8 : od.length < 8) (h10 : 10 ∉ u.domains) :
    Settled env (performDns env u (iplistText od)).1 := by
  have hl := length_inetNtop_le (od.take 4)
  have hne := inetNtop_ne_nil (od.take 4)
  have h44 := comma_not_mem_inetNtop (od.take 4)
  have htake : (inetNtop (od.take 4)).take (MAX_BUF - 1) = inetNtop (od.take 4) :=
    List.take_of_length_le (by simp only [MAX_BUF]; omega)
  by_cases hopen : env.resolvOpen = false
  · exact Or.inl hopen
  · rw [iplistText_single od h8]
    unfold performDns
    rw [if_neg (by simpa using hopen), if_neg (by simp only [MAX_BUF]; omega), htake]
    unfold writeResolveConf
    rw [if_neg (by simpa using hopen), if_neg hne]
    split
    · next hseek => exact Or.inr ⟨h10, h44, Or.inr (Or.inl (by simpa using hseek))⟩
    · refine Or.inr ⟨newline_not_mem_cutAtComma _ h10, ?_, Or.inr (Or.inr ?_)⟩
      · show 44 ∉ cutAtComma (inetNtop (od.take 4))
        rw [cutAtComma_eq_self _ h44]
        exact h44
      · show nameserverLines (resolvText env (inetNtop (od.take 4)) u.domains) =
          nameserverLines (resolvText env (cutAtComma (inetNtop (od.take 4))) [])
        rw [cutAtComma_eq_self _ h44]
        exact nameserverLines_resolvText env _ _ hne h10

/-- The servers, domains and resolv.conf of a state. -/
def SameFile (u v : Ifch τ) : Prop :=
  u.namesvrs = v.namesvrs ∧ u.domains = v.domains ∧ u.resolvConf = v.resolvConf

theorem settled_of_dns (p : DhcpMsg) (s u v : Ifch τ) (hu : SameFile u s)
    (hs : ServersSettled env s cfgPacket p)
    (hv : cmdText cfgPacket p DCODE_DNS = [] ∧ v = u ∨
      ∃ as, cmdText cfgPacket p DCODE_DNS = ascii "dns:" ++ as ++ [59] ∧
        v = (ifchDispatch env u .dns as).1) : Settled env v := by
  obtain ⟨hn, hdom, hf⟩ := hu
  rcases hs with hclosed | ⟨h10, hs⟩
  · exact Or.inl hclosed
  · rw [cmdText_dns] at hv
    split at hs
    · next hsent =>
      rw [if_pos hsent] at hv
      rcases hv with ⟨h0, -⟩ | ⟨as, has, rfl⟩
      · simp at h0
      · have : as = iplistText (option p DCODE_DNS) := by
          have h1 := List.append_cancel_right has
          exact (List.append_cancel_left h1).symm
        rw [this]
        exact performDns_settled env _ _ hs (by show 10 ∉ u.domains; rw [hdom]; exact h10)
    · next hsent =>
      rw [if_neg hsent] at hv
      rcases hv with ⟨-, rfl⟩ | ⟨as, has, -⟩
      · refine Or.inr ⟨by rw [hdom]; exact h10, by rw [hn]; exact hs.1, ?_⟩
        rcases hs.2 with h | h
        · exact Or.inl (hn.trans h)
        · exact Or.inr (Or.inr (by rw [hf, hn]; exact h))
      · simp at has

theorem ifchDispatch_net_sameFile (u : Ifch τ) (st : IfchdState) (as : List UInt8)
    (hst : st = .ip4set ∨ st = .router) : SameFile (ifchDispatch env u st as).1 u := by
  rcases hst with rfl | rfl
  · exact ⟨rfl, rfl, rfl⟩
  · exact ⟨rfl, rfl, rfl⟩

theorem SameFile.trans {u v w : Ifch τ} (h : SameFile u v) (h' : SameFile v w) : SameFile u w :=
  ⟨h.1.trans h'.1, h.2.1.trans h'.2.1, h.2.2.trans h'.2.2⟩

/-- One of the first two commands, which leave resolv.conf alone. -/
theorem exec_netCommand (e : List UInt8 × IfchdState × ArgKind) (he : e ∈ commands)
    (hst : e.2.1 = .ip4set ∨ e.2.1 = .router) (text : List UInt8) (ht : OneCommand e text)
    (x : Exec (Ifch τ)) (hx : x.pos.between = true) (ha : x.arg = []) :
    (∃ u, ∀ rest, exec (ifchDispatch env) (text ++ rest) x = .abort u) ∨
      ∃ y, y.pos.between = true ∧ y.arg = [] ∧
        (∀ rest, exec (ifchDispatch env) (text ++ rest) x = exec (ifchDispatch env) rest y) ∧
        SameFile y.user x.user := by
  rcases exec_oneCommand (ifchDispatch env) e he text ht x hx ha with h | ⟨y, hy, hya, hr, hu⟩
  · exact Or.inl h
  · refine Or.inr ⟨y, hy, hya, hr, ?_⟩
    rcases hu with ⟨-, hu⟩ | ⟨as, -, hu⟩
    · rw [hu]
      exact ⟨rfl, rfl, rfl⟩
    · rw [hu]
      exact ifchDispatch_net_sameFile env _ _ as hst

/-- The commands before the names end the run, or reach a state that is settled if the bind
found ifch so. -/
theorem exec_beforeNames (p : DhcpMsg) (s : Ifch τ) :
    (∃ u, ∀ rest, exec (ifchDispatch env) (sendClientIp cfgPacket p bindBufSize ++
        (cmdText cfgPacket p DCODE_ROUTER ++ (cmdText cfgPacket p DCODE_DNS ++ rest))) (.init s) =
          .abort u) ∨
      ∃ y : Exec (Ifch τ), y.pos.between = true ∧ y.arg = [] ∧
        (∀ rest, exec (ifchDispatch env) (sendClientIp cfgPacket p bindBufSize ++
          (cmdText cfgPacket p DCODE_ROUTER ++ (cmdText cfgPacket p DCODE_DNS ++ rest))) (.init s) =
            exec (ifchDispatch env) rest y) ∧
        (ServersSettled env s cfgPacket p → Settled env y.user) := by
  rcases exec_netCommand env _ (by decide) (Or.inl rfl) _
    (oneCommand_sendClientIp cfgPacket p bindBufSize).1 (.init s) rfl rfl with
    ⟨u, h⟩ | ⟨x, hx, hxa, hxr, hxs⟩
  · exact Or.inl ⟨u, fun rest => h _⟩
  · rcases exec_netCommand env _ (by decide) (Or.inr rfl) _ (oneCommand_router cfgPacket p) x hx hxa
      with ⟨u, h⟩ | ⟨y, hy, hya, hyr, hys⟩
    · exact Or.inl ⟨u, fun rest => by rw [hxr, h]⟩
    · rcases exec_oneCommand (ifchDispatch env) _ (by decide) _ (oneCommand_dns cfgPacket p) y hy hya
        with ⟨u, h⟩ | ⟨z, hz, hza, hzr, hzu⟩
      · exact Or.inl ⟨u, fun rest => by rw [hxr, hyr, h]⟩
      · refine Or.inr ⟨z, hz, hza, fun rest => by rw [hxr, hyr, hzr], fun hs => ?_⟩
        exact settled_of_dns env cfgPacket p s y.user z.user (hys.trans hxs) hs hzu

end

/-! ## The theorem -/

section
variable {τ : Type} (env : IfchEnv τ) (s : Ifch τ) (cfgPacket : DhcpMsg)

theorem bindBuffer_commands (p : DhcpMsg) :
    bindBuffer cfgPacket p = sendClientIp cfgPacket p bindBufSize ++
      (cmdText cfgPacket p DCODE_ROUTER ++ (cmdText cfgPacket p DCODE_DNS ++
        (cmdText cfgPacket p DCODE_HOSTNAME ++ (cmdText cfgPacket p DCODE_DOMAIN ++
          (cmdText cfgPacket p DCODE_MTU ++ cmdText cfgPacket p DCODE_WINS))))) := by
  rw [bindBuffer_eq]
  simp [bindCodes]

theorem afterBind_eq (p : DhcpMsg) :
    afterBind env s cfgPacket p =
      (exec (ifchDispatch env) (bindBuffer cfgPacket p) (.init s)).user := by
  apply executeBuffer_user
  · rw [bindBuffer_eq, List.mem_append, List.mem_flatMap]
    rintro (h | ⟨c, hc, h⟩)
    · exact (oneCommand_sendClientIp cfgPacket p bindBufSize).2 h
    · exact zero_not_mem_cmdText cfgPacket p c hc h
  · exact length_bindBuffer_lt cfgPacket p

variable (p₁ p₂ : DhcpMsg) (hsame : SameButNames p₁ p₂)
include hsame

theorem cmdText_same (code : UInt8) (hh : code ≠ DCODE_HOSTNAME) (hd : code ≠ DCODE_DOMAIN) :
    cmdText cfgPacket p₁ code = cmdText cfgPacket p₂ code := by
  have ho := hsame.2 code hh hd
  have hs : sent cfgPacket p₁ code ↔ sent cfgPacket p₂ code := by
    unfold sent
    rw [ho]
  unfold cmdText
  rw [sendCmd_eq, sendCmd_eq, ho]
  by_cases h : sent cfgPacket p₁ code
  · rw [if_pos h, if_pos (hs.1 h)]
  · rw [if_neg h, if_neg fun h' => h (hs.2 h')]

theorem sendClientIp_same (olen : Nat) :
    sendClientIp cfgPacket p₁ olen = sendClientIp cfgPacket p₂ olen := by
  have haddr (code : UInt8) (hh : code ≠ DCODE_HOSTNAME) (hd : code ≠ DCODE_DOMAIN) :
      addrOption cfgPacket p₁ code = addrOption cfgPacket p₂ code := by
    have ho : getDhcpOpt p₁ code MAX_DOPT_SIZE = getDhcpOpt p₂ code MAX_DOPT_SIZE := hsame.2 code hh hd
    unfold addrOption
    rw [ho]
  unfold sendClientIp
  rw [hsame.1, haddr DCODE_SUBNET (by decide) (by decide),
    haddr DCODE_BROADCAST (by decide) (by decide)]

end

/-- An ifch that keeps resolv.conf, on a kernel that carries out every command. -/
def exampleEnv : IfchEnv Unit where
  resolvOpen := true
  head := []
  tail := []
  seekOk := true
  syncOk := true
  allowHostname := true
  sethostname := fun _ => true
  performIp4set := fun u _ => (u, 0)
  performRouter := fun u _ => (u, 0)
  performMtu := fun u _ => (u, 0)
  performCarrier := fun u => (u, 0)

def exampleIfch : Ifch Unit := ⟨(), [], [], [], []⟩

/-- A DHCPACK for 192.168.1.10 with the given option bytes after its message type. -/
def ackWith (opts : List UInt8)
    (h : (replyBytes [192, 168, 1, 10] ([53, 1, 5] ++ opts)).length ≤ dhcpmsgSize) : DhcpMsg :=
  DhcpMsg.zero.overlay (replyBytes [192, 168, 1, 10] ([53, 1, 5] ++ opts)) h

def ackHostA : DhcpMsg := ackWith ([12, 1] ++ ascii "a" ++ [255]) (by decide +kernel)
def ackHostB : DhcpMsg := ackWith ([12, 1] ++ ascii "b" ++ [255]) (by decide +kernel)

/-- A hostname that goes on with a command of its own. -/
def ackHostDns : DhcpMsg := ackWith ([12, 13] ++ ascii "a;dns:6.6.6.6" ++ [255]) (by decide +kernel)

/-- Agreement on every code but HOSTNAME, tested code by code. -/
theorem sameButNames_of_codes (p₁ p₂ : DhcpMsg) (hy : slice p₁.bytes 16 4 = slice p₂.bytes 16 4)
    (h : ∀ n : Fin 256, UInt8.ofNat n.val ≠ DCODE_HOSTNAME →
      option p₁ (UInt8.ofNat n.val) = option p₂ (UInt8.ofNat n.val)) : SameButNames p₁ p₂ := by
  refine ⟨hy, fun code hh _ => ?_⟩
  have hc := h ⟨code.toNat, code.toNat_lt⟩
  rw [UInt8.ofNat_toNat] at hc
  exact hc hh

instance (cfgPacket p : DhcpMsg) : Decidable (NamesPlain cfgPacket p) :=
  inferInstanceAs (Decidable (_ ∧ _))

end Ndhc
