import Ndhc.Client.Passes

/-!
# Announcing, defending and fingerprinting

What the ARP functions of the BOUND loop come to: why they fail, when they give the lease up,
and what they leave alone of the things the loop looks at later (`Peers`).
-/

namespace Ndhc

open Prog

/-! ## Failures -/

section
variable (env : Env) (site : Site)

/-- sockd hands out no socket. -/
def OpenFails : Prop := ∃ r, env.sockd site = some r ∧ r.1 < 0

/-- ifch refuses to deconfigure the interface. -/
def DeconfigFails : Prop := ∃ r, env.ifch .deconfig = some r ∧ r < 0

/-- A frame cannot be sent: there is no socket, or the send reports failure. -/
def FrameFails (s : Sys) : Prop := s.cs.arpFd < 0 ∨ SendFails env site

end

/-! ## What is left alone -/

/-- What the BOUND loop knows of its own address, the last frame, and gateway and server. -/
structure Peers where
  clientAddr : UInt32
  srcAddr : UInt32
  routerArp : List UInt8
  serverArp : List UInt8
  gotRouterArp : Bool
  gotServerArp : Bool
  checkFingerprint : Bool
  sentGwQuery : Bool
  reply : ArpMsg
  gwPingStats : ArpStats
  gwCheckInitpings : Int
  lastConflictTs : Int
  relentlessDef : Bool

@[reducible] def peers (s : Sys) : Peers :=
  ⟨s.cs.clientAddr, s.cs.srcAddr, s.cs.routerArp, s.cs.serverArp, s.cs.gotRouterArp,
    s.cs.gotServerArp, s.cs.checkFingerprint, s.cs.sentGwQuery, s.garp.reply, s.garp.gwPingStats,
    s.garp.gwCheckInitpings, s.garp.lastConflictTs, s.garp.relentlessDef⟩

/-- What also the open socket is part of. -/
@[reducible] def line (s : Sys) : Peers × Int := (peers s, s.cs.arpFd)

@[reducible] def arpFd (s : Sys) : Int := s.cs.arpFd

/-- The way out does not matter. -/
def AnyWay {κ : Type} (_ : Stop) (_ _ : κ) : Prop := True

/-- A view of the state that does not show messages. -/
class Deaf {κ : Type} (f : Sys → κ) : Prop where
  eq : ∀ s o, f { s with out := o } = f s

instance : Deaf peers := ⟨fun _ _ => rfl⟩

instance : Deaf line := ⟨fun _ _ => rfl⟩

instance : Deaf arpFd := ⟨fun _ _ => rfl⟩

section
variable {α κ : Type} (f : Sys → κ)

instance : Routine f AnyWay (suicide : M α) := ⟨fun _ => trivial⟩

instance (o : Option α) : Routine f AnyWay (ask o) := by
  cases o with
  | none => exact inferInstanceAs (Routine f AnyWay suicide)
  | some a => exact inferInstanceAs (Routine f AnyWay (pure a))

variable [Deaf f] (env : Env) (site : Site)

instance (e : Effect) : Routine f AnyWay (emit e) := ⟨fun s => Deaf.eq s _⟩

instance (m : Sent) : Routine f AnyWay (sendDhcp env site m) := by
  unfold sendDhcp
  infer_instance

instance : Routine f AnyWay (sendRenew env site) := by
  unfold sendRenew
  infer_instance

instance (sip dip : UInt32) : Routine f AnyWay (arpSend env site sip dip) := by
  unfold arpSend
  infer_instance

end

section
variable (env : Env) (site : Site)

/-! ### Without opening a socket -/

instance : Routine line AnyWay (startDhcpListen env site) := by
  unfold startDhcpListen
  infer_instance

instance : Routine line AnyWay (frenew env true) := by
  show Routine line AnyWay (startDhcpListen env .frenew >>= fun _ => _)
  infer_instance

instance : Routine line AnyWay (arpAnnouncement env site) := by
  unfold arpAnnouncement
  infer_instance

instance : Routine line AnyWay (arpAnnounce env) := by
  unfold arpAnnounce
  infer_instance

instance (nowts : Int) : Routine line AnyWay (arpAnnounceTimeout env nowts) := by
  unfold arpAnnounceTimeout
  infer_instance

instance : Routine line AnyWay (arpDefenseTimeout env) := by
  unfold arpDefenseTimeout
  infer_instance

instance (inp : Input) : Routine line AnyWay (boundAnnounce env inp) := by
  unfold boundAnnounce
  infer_instance

instance (inp : Input) : Routine core Dies (boundAnnounce env inp) := by
  unfold boundAnnounce
  infer_instance

instance (testIp : UInt32) : Routine arpFd AnyWay (arpPing env site testIp) := by
  unfold arpPing
  infer_instance

instance (replied : Bool) (testIp : UInt32) :
    Routine arpFd AnyWay (pingUnless env replied site testIp) := by
  unfold pingUnless
  infer_instance

/-! ### Opening a socket -/

instance : Routine peers AnyWay stopDhcpListen := by
  unfold stopDhcpListen
  infer_instance

instance : Routine peers AnyWay arpMinCloseFd := by
  unfold arpMinCloseFd
  infer_instance

instance (defense : Bool) : Routine peers AnyWay (arpOpenFd env site defense) := by
  unfold arpOpenFd
  infer_instance

instance : Routine peers AnyWay (arpSetDefenseMode env) := by
  unfold arpSetDefenseMode
  infer_instance

instance (testIp : UInt32) : Routine peers AnyWay (arpIpAnonPing env testIp) := by
  unfold arpIpAnonPing
  infer_instance

set_option synthInstance.maxSize 256 in
instance (cfg : ClientConfig) (packet : DhcpMsg) : Routine peers AnyWay (arpCheck env cfg packet) := by
  unfold arpCheck
  infer_instance

/-! ## Why a send fails -/

theorem arpSend_fails (sip dip : UInt32) (s : Sys) :
    wp (arpSend env site sip dip) (fun r _ => r < 0 → FrameFails env site s) (fun _ _ => True) s := by
  unfold arpSend
  rw [wp_bind, wp_get, wp_ite]
  split
  · next hfd => exact fun _ => Or.inl hfd
  · rw [wp_bind]
    cases hsend : env.send site with
    | none => exact trivial
    | some r =>
      show wp (if r < 0 then pure r else _) _ _ s
      rw [wp_ite]
      split
      · next hr => exact fun _ => Or.inr ⟨r, hsend, hr⟩
      · next hr =>
        intro h
        split at h
        · exact absurd h (by decide)
        · exact absurd h hr

/-- A frame goes out, then something is noted. -/
theorem wp_arpSend_note (sip dip : UInt32) (g : Sys → Sys) (s : Sys) :
    wp (arpSend env site sip dip >>= fun r =>
        if r < 0 then pure r else modify g >>= fun _ => pure 0)
      (fun r _ => r < 0 → FrameFails env site s) (fun _ _ => True) s := by
  rw [wp_bind]
  apply wp_mono _ _ s _ _ _ (arpSend_fails env site sip dip s) ?_ (fun _ _ h => h)
  intro r t hr
  rw [wp_ite]
  split
  · exact hr
  · exact fun h => absurd h (by decide)

theorem arpAnnouncement_fails (s : Sys) :
    wp (arpAnnouncement env site) (fun r _ => r < 0 → FrameFails env site s) (fun _ _ => True) s :=
  wp_arpSend_note env site _ _ _ s

theorem arpPing_fails (testIp : UInt32) (s : Sys) :
    wp (arpPing env site testIp) (fun r _ => r < 0 → FrameFails env site s) (fun _ _ => True) s :=
  wp_arpSend_note env site _ _ _ s

theorem arpIpAnonPing_fails (testIp : UInt32) (s : Sys) :
    wp (arpIpAnonPing env testIp) (fun r _ => r < 0 → FrameFails env .collisionPing s)
      (fun _ _ => True) s :=
  wp_arpSend_note env .collisionPing _ _ _ s

theorem pingUnless_fails (replied : Bool) (testIp : UInt32) (s : Sys) :
    wp (pingUnless env replied site testIp)
      (fun r t => (r < 0 → FrameFails env site s) ∧ t.cs.arpFd = s.cs.arpFd) (fun _ _ => True) s := by
  apply wp_routine arpFd AnyWay
  unfold pingUnless
  rw [wp_ite]
  split
  · exact fun hfd => ⟨fun h => absurd h (by decide), hfd⟩
  · exact wp_mono _ _ s _ _ _ (arpPing_fails env site testIp s) (fun _ _ h hfd => ⟨h, hfd⟩)
      (fun _ _ h _ => h)

/-- A socket is there afterwards, or sockd handed out none. -/
theorem arpOpenFd_fails (defense : Bool) (s : Sys) :
    wp (arpOpenFd env site defense)
      (fun r t => (r < 0 ∧ OpenFails env site) ∨ (¬ r < 0 ∧ 0 ≤ t.cs.arpFd)) (fun _ _ => True) s := by
  unfold arpOpenFd
  rw [wp_bind, wp_get, wp_ite]
  split
  · next h => exact Or.inr ⟨by decide, h.1⟩
  · apply wp_bind_all _ _ s _ _ _ (fun _ _ => trivial)
    intro _ t
    rw [wp_bind]
    cases hsock : env.sockd site with
    | none => exact trivial
    | some r =>
      show wp (if r.1 < 0 then pure (-1) else pure 0) _ _ _
      rw [wp_ite]
      split
      · next hr => exact Or.inl ⟨by decide, r, hsock, hr⟩
      · next hr => exact Or.inr ⟨by decide, Int.not_lt.mp hr⟩

theorem arpCheck_fails (cfg : ClientConfig) (packet : DhcpMsg) (s : Sys) :
    wp (arpCheck env cfg packet)
      (fun r _ => r < 0 → OpenFails env .arpCheckOpen ∨ SendFails env .collisionPing)
      (fun _ _ => True) s := by
  unfold arpCheck
  rw [wp_bind, wp_modify, wp_bind]
  apply wp_mono _ _ _ _ _ _ (arpOpenFd_fails env .arpCheckOpen false _) ?_ (fun _ _ h => h)
  rintro r t (⟨hr, hopen⟩ | ⟨hr, hfd⟩)
  · rw [wp_ite, if_pos hr]
    exact fun _ => Or.inl hopen
  · rw [wp_ite, if_neg hr, wp_bind]
    apply wp_mono _ _ t _ _ _ (arpIpAnonPing_fails env packet.yiaddr t) ?_ (fun _ _ h => h)
    intro r u hping
    rw [wp_ite]
    split
    · next hr =>
      rcases hping hr with h | h
      · exact absurd h (Int.not_lt.mpr hfd)
      · exact fun _ => Or.inr h
    · exact fun h => absurd h (by decide)

/-! ## Defending -/

/-- The last frame is a conflict with our address. -/
def Peers.Conflicting (cfg : ClientConfig) (p : Peers) : Prop :=
  arpValidateBpfDefense p.clientAddr cfg.arp p.reply ≠ 0

/-- The conflict is the first, or follows the last one within `DEFEND_INTERVAL`. -/
def Peers.Announces (p : Peers) : Prop :=
  p.lastConflictTs = 0 ∨ env.curms .conflictSeen - p.lastConflictTs < DEFEND_INTERVAL

/-- A later conflict, without `relentless_def`. -/
def Peers.GivesUp (p : Peers) : Prop := ¬ p.Announces env ∧ p.relentlessDef = false

/-- How `arp_do_defense` returns. -/
def DefenseReturns (cfg : ClientConfig) (s : Sys) (r : Arpr) (t : Sys) : Prop :=
  core t = core s ∧
    match r with
    | .ok => t.cs.arpFd = s.cs.arpFd ∧ ∃ ts, peers t = { peers s with lastConflictTs := ts }
    | .free => False
    | .conflict => (peers s).Conflicting cfg ∧ (peers s).GivesUp env
    | .fail => (peers s).Conflicting cfg ∧ (peers s).Announces env ∧ FrameFails env .doDefense s

theorem arpDoDefense_returns (cfg : ClientConfig) (s : Sys) :
    wp (arpDoDefense env cfg) (DefenseReturns env cfg s)
      (fun e t => e = .exit ∧ core t = { core s with pc := .dead }) s := by
  apply wp_routine core Dies
  unfold arpDoDefense
  rw [wp_bind, wp_get, wp_ite]
  split
  · exact fun ht => ⟨ht, rfl, s.garp.lastConflictTs, rfl⟩
  · next hc =>
    rw [wp_bind, wp_modify, wp_ite]
    split
    · next hann =>
      rw [wp_bind]
      apply wp_routine line AnyWay
      apply wp_mono _ _ _ _ _ _ (arpAnnouncement_fails env .doDefense _)
      · intro r t hr hline
        rw [wp_ite]
        split
        · next hneg => exact fun ht => ⟨ht, hc, hann, hr hneg⟩
        · refine fun ht => ⟨ht, congrArg Prod.snd hline, env.curms .conflictSeen, ?_⟩
          exact congrArg (fun l : Peers × Int => { l.1 with lastConflictTs := env.curms .conflictSeen })
            hline
      · exact fun _ _ _ _ hd => hd
    · next hann =>
      rw [wp_ite]
      split
      · next hrel =>
        apply wp_bind_all
        · exact fun _ _ ht => ⟨ht, hc, hann, hrel⟩
        · exact fun _ _ hd => hd
      · exact fun ht => ⟨ht, rfl, env.curms .conflictSeen, rfl⟩

/-! ## The gateway and the server -/

/-- The fingerprint is not complete. -/
def Peers.Unknown (p : Peers) : Prop := p.gotRouterArp = false ∨ p.gotServerArp = false

/-- A query or check has only brought the fingerprint forward. -/
structure Peers.Later (p q : Peers) : Prop where
  sentGwQuery : q.sentGwQuery = p.sentGwQuery
  gwPingStats : q.gwPingStats = p.gwPingStats
  gwCheckInitpings : q.gwCheckInitpings = p.gwCheckInitpings
  unknown : q.Unknown → p.Unknown
  checkFingerprint : q.checkFingerprint = true → p.checkFingerprint = true

theorem Peers.Later.refl (p : Peers) : p.Later p := ⟨rfl, rfl, rfl, id, id⟩

theorem Peers.Later.trans (p q r : Peers) (h : p.Later q) (h' : q.Later r) : p.Later r where
  sentGwQuery := h'.sentGwQuery.trans h.sentGwQuery
  gwPingStats := h'.gwPingStats.trans h.gwPingStats
  gwCheckInitpings := h'.gwCheckInitpings.trans h.gwCheckInitpings
  unknown := h.unknown ∘ h'.unknown
  checkFingerprint := h.checkFingerprint ∘ h'.checkFingerprint

/-- A socket is open, or the one there was before. -/
def Wired (s t : Sys) : Prop := 0 ≤ t.cs.arpFd ∨ t.cs.arpFd = s.cs.arpFd

theorem Wired.trans (s t u : Sys) (h : Wired s t) (h' : Wired t u) : Wired s u := by
  unfold Wired at h h' ⊢
  omega

/-- The frame is a reply of gateway or server. -/
def FromPeer (cfg : ClientConfig) (s : Sys) : Prop :=
  arpIsQueryReply cfg.arp s.garp.reply ≠ 0 ∧
    (s.garp.reply.sip4 = htonl s.cs.routerAddr ∨ s.garp.reply.sip4 = htonl s.cs.srcAddr)

/-- The frame is a reply of gateway or server, with another hardware address than the
fingerprint's. -/
def Mismatch (cfg : ClientConfig) (s : Sys) : Prop :=
  arpIsQueryReply cfg.arp s.garp.reply ≠ 0 ∧
    ((s.garp.reply.sip4 = htonl s.cs.routerAddr ∧ s.cs.routerArp ≠ s.garp.reply.smac) ∨
      (s.garp.reply.sip4 = htonl s.cs.srcAddr ∧ s.cs.serverArp ≠ s.garp.reply.smac))

/-- How `arp_do_gw_query` returns. -/
def QueryReturns (cfg : ClientConfig) (s : Sys) (r : Arpr) (t : Sys) : Prop :=
  (r = .fail ∧ FromPeer cfg s ∧ OpenFails env .gwQueryOpen) ∨
    ((r = .ok ∨ r = .free) ∧ (peers s).Later (peers t) ∧ Wired s t)

theorem gwQueryDone_returns (cfg : ClientConfig) (s t : Sys) (hfrom : FromPeer cfg s)
    (h : (peers s).Later (peers t)) :
    wp (gwQueryDone env) (QueryReturns env cfg s) (fun _ _ => True) t := by
  unfold gwQueryDone
  rw [wp_bind, wp_modify, wp_bind]
  apply wp_routine peers AnyWay
  apply wp_mono _ _ _ _ _ _ (arpOpenFd_fails env .gwQueryOpen true _) ?_ (fun _ _ _ _ => trivial)
  rintro r u (⟨hr, hopen⟩ | ⟨hr, hfd⟩) hpeers
  · rw [wp_ite, if_pos hr]
    exact Or.inl ⟨rfl, hfrom, hopen⟩
  · rw [wp_ite, if_neg hr]
    refine Or.inr ⟨Or.inr rfl, ?_, Or.inl hfd⟩
    rw [hpeers]
    exact h

theorem gwQueryServer_returns (cfg : ClientConfig) (s t : Sys) (hfrom : FromPeer cfg s)
    (h : (peers s).Later (peers t)) (hfd : t.cs.arpFd = s.cs.arpFd) :
    wp (gwQueryServer env) (QueryReturns env cfg s) (fun _ _ => True) t := by
  have hlater : (peers s).Later
      { peers t with serverArp := t.garp.reply.smac, gotServerArp := true } :=
    ⟨h.1, h.2, h.3, fun hu => h.unknown (hu.imp_right nofun), h.5⟩
  unfold gwQueryServer
  rw [wp_bind, wp_modify, wp_bind, wp_get, wp_ite]
  split
  · exact gwQueryDone_returns env cfg s _ hfrom hlater
  · exact Or.inr ⟨Or.inl rfl, hlater, Or.inr hfd⟩

theorem arpDoGwQuery_returns (cfg : ClientConfig) (s : Sys) :
    wp (arpDoGwQuery env cfg) (QueryReturns env cfg s) (fun _ _ => True) s := by
  have hrouter : (peers s).Later
      { peers s with routerArp := s.garp.reply.smac, gotRouterArp := true } :=
    ⟨rfl, rfl, rfl, fun hu => hu.imp_left nofun, id⟩
  unfold arpDoGwQuery
  rw [wp_bind, wp_get, wp_ite]
  split
  · exact Or.inr ⟨Or.inl rfl, .refl _, Or.inr rfl⟩
  · next hq =>
    rw [wp_ite]
    split
    · next hsip =>
      have hfrom : FromPeer cfg s := ⟨hq, Or.inl hsip⟩
      rw [wp_bind, wp_modify, wp_ite]
      split
      · exact gwQueryServer_returns env cfg s _ hfrom hrouter rfl
      · rw [wp_ite]
        split
        · exact gwQueryDone_returns env cfg s _ hfrom hrouter
        · exact Or.inr ⟨Or.inl rfl, hrouter, Or.inr rfl⟩
    · rw [wp_ite]
      split
      · next hsip => exact gwQueryServer_returns env cfg s s ⟨hq, Or.inr hsip⟩ (.refl _) rfl
      · exact Or.inr ⟨Or.inl rfl, .refl _, Or.inr rfl⟩

/-- How `arp_do_gw_check` returns. -/
def CheckReturns (cfg : ClientConfig) (s : Sys) (r : Arpr) (t : Sys) : Prop :=
  (r = .fail ∧ FromPeer cfg s ∧ (OpenFails env .gwSuccessOpen ∨ SendFails env .gwSuccess)) ∨
    (r = .conflict ∧ Mismatch cfg s) ∨
    ((r = .ok ∨ r = .free) ∧ peers t = peers s ∧ Wired s t)

theorem arpGwSuccess_returns (cfg : ClientConfig) (s t : Sys) (hfrom : FromPeer cfg s) (h : peers t = peers s) :
    wp (arpGwSuccess env) (CheckReturns env cfg s) (fun _ _ => True) t := by
  unfold arpGwSuccess
  rw [wp_bind]
  apply wp_routine peers AnyWay
  apply wp_mono _ _ _ _ _ _ (arpOpenFd_fails env .gwSuccessOpen true t) ?_ (fun _ _ _ _ => trivial)
  rintro r u (⟨hr, hopen⟩ | ⟨hr, hfd⟩) hpeers
  · rw [wp_ite, if_pos hr]
    exact Or.inl ⟨rfl, hfrom, Or.inl hopen⟩
  · rw [wp_ite, if_neg hr, wp_bind, wp_modify, wp_bind]
    apply wp_routine line AnyWay
    apply wp_mono _ _ _ _ _ _ (arpAnnouncement_fails env .gwSuccess _) ?_ (fun _ _ _ _ => trivial)
    intro r v hann hline
    rw [wp_ite]
    split
    · next hr =>
      rcases hann hr with hclosed | hsend
      · exact absurd hclosed (Int.not_lt.mpr hfd)
      · exact Or.inl ⟨rfl, hfrom, Or.inr hsend⟩
    · have hv : v.cs.arpFd = u.cs.arpFd := congrArg Prod.snd hline
      refine Or.inr (Or.inr ⟨Or.inr rfl, ?_, Or.inl (hv ▸ hfd)⟩)
      exact (congrArg Prod.fst hline).trans (hpeers.trans h)

theorem gwCheckServer_returns (cfg : ClientConfig) (s t : Sys) (h : peers t = peers s)
    (hfd : t.cs.arpFd = s.cs.arpFd) (hq : arpIsQueryReply cfg.arp s.garp.reply ≠ 0)
    (hsip : s.garp.reply.sip4 = htonl s.cs.srcAddr) :
    wp (gwCheckServer env) (CheckReturns env cfg s) (fun _ _ => True) t := by
  have harp : t.cs.serverArp = s.cs.serverArp := congrArg Peers.serverArp h
  have hreply : t.garp.reply = s.garp.reply := congrArg Peers.reply h
  unfold gwCheckServer
  rw [wp_bind, wp_get, wp_ite]
  split
  · rw [wp_bind, wp_modify, wp_ite]
    split
    · exact arpGwSuccess_returns env cfg s _ ⟨hq, Or.inr hsip⟩ h
    · exact Or.inr (Or.inr ⟨Or.inl rfl, h, Or.inr hfd⟩)
  · next hne =>
    refine Or.inr (Or.inl ⟨rfl, hq, Or.inr ⟨hsip, ?_⟩⟩)
    rw [← harp, ← hreply]
    exact hne

theorem arpDoGwCheck_returns (cfg : ClientConfig) (s : Sys) :
    wp (arpDoGwCheck env cfg) (CheckReturns env cfg s) (fun _ _ => True) s := by
  have hstay : CheckReturns env cfg s .ok s := Or.inr (Or.inr ⟨Or.inl rfl, rfl, Or.inr rfl⟩)
  unfold arpDoGwCheck
  rw [wp_bind, wp_get, wp_ite]
  split
  · exact hstay
  · next hq =>
    rw [wp_ite]
    split
    · next hsip =>
      rw [wp_ite]
      split
      · rw [wp_bind, wp_modify, wp_ite]
        split
        · next hsame => exact gwCheckServer_returns env cfg s _ rfl rfl hq (hsame ▸ hsip)
        · rw [wp_ite]
          split
          · exact arpGwSuccess_returns env cfg s _ ⟨hq, Or.inl hsip⟩ rfl
          · exact Or.inr (Or.inr ⟨Or.inl rfl, rfl, Or.inr rfl⟩)
      · next hne => exact Or.inr (Or.inl ⟨rfl, hq, Or.inl ⟨hsip, hne⟩⟩)
    · rw [wp_ite]
      split
      · next hsip => exact gwCheckServer_returns env cfg s s rfl rfl hq hsip
      · exact hstay

/-- The two pings of a timeout. -/
theorem wp_pings (routerReplied serverReplied : Bool) (router server : Site) (routerIp serverIp : UInt32)
    (k : M Arpr) (Q : Arpr → Sys → Prop) (s : Sys)
    (hfail : FrameFails env router s ∨ FrameFails env server s → ∀ t, Q .fail t)
    (hk : ∀ t, wp k Q (fun _ _ => True) t) :
    wp (pingUnless env routerReplied router routerIp >>= fun r =>
        if r < 0 then pure .fail
        else pingUnless env serverReplied server serverIp >>= fun r =>
          if r < 0 then pure .fail else k) Q (fun _ _ => True) s := by
  rw [wp_bind]
  apply wp_mono _ _ s _ _ _ (pingUnless_fails env router routerReplied routerIp s) ?_ (fun _ _ h => h)
  rintro r t ⟨hr, hfd⟩
  rw [wp_ite]
  split
  · next hneg => exact hfail (Or.inl (hr hneg)) t
  · rw [wp_bind]
    apply wp_mono _ _ t _ _ _ (pingUnless_fails env server serverReplied serverIp t) ?_ (fun _ _ h => h)
    rintro r u ⟨hr, -⟩
    rw [wp_ite]
    split
    · next hneg =>
      refine hfail (Or.inr ?_) u
      rcases hr hneg with h | h
      · exact Or.inl (hfd ▸ h)
      · exact Or.inr h
    · exact hk u

/-- The last ping is long enough ago for another. -/
def Peers.PingDue (p : Peers) (nowts : Int) : Prop := p.gwPingStats.ts + ARP_RETRANS_DELAY ≤ nowts

theorem arpGwQueryTimeout_returns (nowts : Int) (s : Sys) :
    wp (arpGwQueryTimeout env nowts)
      (fun r _ => r = .ok ∨
        (r = .fail ∧ (peers s).PingDue nowts ∧
          (FrameFails env .gwQueryRouter s ∨ FrameFails env .gwQueryServer s)))
      (fun _ _ => True) s := by
  unfold arpGwQueryTimeout
  rw [wp_bind, wp_get, wp_ite]
  split
  · exact Or.inl rfl
  · next hdue =>
    apply wp_pings
    · exact fun h _ => Or.inr ⟨rfl, Int.not_lt.mp hdue, h⟩
    · exact fun _ => Or.inl rfl

/-- Six pings since the check began are without answer. -/
def Peers.Unanswered (p : Peers) : Prop := p.gwCheckInitpings + 6 ≤ p.gwPingStats.count

theorem arpGwCheckTimeout_returns (nowts : Int) (s : Sys) :
    wp (arpGwCheckTimeout env nowts)
      (fun r _ => r = .ok ∨ (r = .conflict ∧ (peers s).Unanswered) ∨
        (r = .fail ∧ (peers s).PingDue nowts ∧
          (FrameFails env .gwTimeoutRouter s ∨ FrameFails env .gwTimeoutServer s)))
      (fun _ _ => True) s := by
  unfold arpGwCheckTimeout
  rw [wp_bind, wp_get, wp_ite]
  split
  · next h => exact Or.inr (Or.inl ⟨rfl, h⟩)
  · rw [wp_ite]
    split
    · exact Or.inl rfl
    · next hdue =>
      apply wp_pings
      · exact fun h _ => Or.inr (Or.inr ⟨rfl, Int.not_lt.mp hdue, h⟩)
      · exact fun _ => Or.inl rfl

/-! ## Carrier up -/

/-- The fingerprint cannot be checked again. -/
def RevalidateFails : Prop :=
  OpenFails env .gwCheckOpen ∨ SendFails env .gwCheckServer ∨ SendFails env .gwCheckRouter

theorem gwCheckPings_fails (s : Sys) (hfd : 0 ≤ s.cs.arpFd) :
    wp (gwCheckPings env)
      (fun r _ => r < 0 → SendFails env .gwCheckServer ∨ SendFails env .gwCheckRouter)
      (fun _ _ => True) s := by
  unfold gwCheckPings gwCheckRouter
  rw [wp_bind, wp_get, wp_bind]
  apply wp_routine arpFd AnyWay
  apply wp_mono _ _ s _ _ _ (arpPing_fails env .gwCheckServer s.cs.srcAddr s) ?_
    (fun _ _ _ _ => trivial)
  intro r t hping ht
  have htfd : 0 ≤ t.cs.arpFd := hfd.trans (le_of_eq ht.symm)
  rw [wp_ite]
  split
  · next hr => exact fun _ => Or.inl ((hping hr).resolve_left (Int.not_lt.mpr hfd))
  · rw [wp_bind, wp_get, wp_ite]
    split
    · rw [wp_bind, wp_modify]
      apply wp_mono _ _ _ _ _ _ (arpPing_fails env .gwCheckRouter t.cs.routerAddr _) ?_ (fun _ _ h => h)
      exact fun _ _ hping hr => Or.inr ((hping hr).resolve_left (Int.not_lt.mpr htfd))
    · exact fun h => absurd h (by decide)

theorem arpGwCheck_fails (s : Sys) :
    wp (arpGwCheck env) (fun r _ => r < 0 → RevalidateFails env) (fun _ _ => True) s := by
  unfold arpGwCheck
  rw [wp_bind]
  apply wp_mono _ _ s _ _ _ (arpOpenFd_fails env .gwCheckOpen false s) ?_ (fun _ _ h => h)
  rintro r t (⟨hr, hopen⟩ | ⟨hr, hfd⟩)
  · rw [wp_ite, if_pos hr]
    exact fun _ => Or.inl hopen
  · rw [wp_ite, if_neg hr, wp_bind, wp_modify, wp_bind]
    refine wp_mono _ _ _ _ _ _ (gwCheckPings_fails env _ ?_) ?_ (fun _ _ h => h)
    · exact hfd
    · intro r u hpings
      rw [wp_ite]
      split
      · exact fun h => Or.inr (hpings h)
      · exact fun h => absurd h (by decide)

/-- The lease came without a gateway or a server to check. -/
def Unchecked (cs : ClientState) : Prop := cs.routerAddr = 0 ∨ cs.serverAddr = 0

theorem ifupAction_returns (s : Sys) :
    wp (ifupAction env)
      (fun r _ => r = .revalidate ∨ (r = .newlease ∧ Unchecked s.cs) ∨
        (r = .fail ∧ ¬ Unchecked s.cs ∧ RevalidateFails env))
      (fun _ _ => True) s := by
  unfold ifupAction
  rw [wp_bind, wp_get, wp_ite]
  split
  · next hboth =>
    rw [wp_ite]
    split
    · exact trivial
    · rw [wp_bind]
      apply wp_mono _ _ s _ _ _ (arpGwCheck_fails env s) ?_ (fun _ _ h => h)
      intro r t hr
      rw [wp_ite]
      split
      · exact Or.inl rfl
      · next hneg =>
        refine Or.inr (Or.inr ⟨rfl, ?_, hr (Int.not_le.mp hneg)⟩)
        rintro (h | h)
        · exact hboth.1 h
        · exact hboth.2 h
  · next hnot =>
    refine Or.inr (Or.inl ⟨rfl, ?_⟩)
    by_cases hrouter : s.cs.routerAddr = 0
    · exact Or.inl hrouter
    · by_cases hserver : s.cs.serverAddr = 0
      · exact Or.inr hserver
      · exact absurd ⟨hrouter, hserver⟩ hnot

theorem ifchangeDeconfig_returns (s : Sys) :
    wp (ifchangeDeconfig env)
      (fun r t => (r < 0 ∧ core t = core s ∧ s.cs.ifDeconfig = false ∧ DeconfigFails env) ∨
        (¬ r < 0 ∧ t.cs.ifDeconfig = true ∧ ((core s).Ordered → (core t).Ordered)))
      (fun e t => e = .exit ∧ core t = { core s with pc := .dead }) s := by
  unfold ifchangeDeconfig
  rw [wp_bind, wp_get, wp_ite]
  split
  · next h => exact Or.inr ⟨by decide, h, id⟩
  · next h =>
    rw [wp_bind]
    cases hifch : env.ifch .deconfig with
    | none => exact ⟨rfl, rfl⟩
    | some r =>
      show wp (if r < 0 then pure r else _) _ _ s
      rw [wp_ite]
      split
      · next hr => exact Or.inl ⟨hr, rfl, by simpa using h, r, hifch, hr⟩
      · next hr => exact Or.inr ⟨hr, rfl, id⟩

/-! ## The timer -/

/-- `rebinding_timeout` is reached and finds the lease over. -/
def Expired (cs : ClientState) (nowts : Int) : Prop := isRebinding cs nowts ∧ leaseEnd cs ≤ nowts

theorem rebindingTimeout_of_end (nowts : Int) (s : Sys) (hend : leaseEnd s.cs ≤ nowts) :
    wp (rebindingTimeout env nowts) (fun r _ => r = .expired) (fun _ _ => True) s := by
  unfold rebindingTimeout
  rw [wp_bind, wp_get, wp_ite, if_pos hend]
  exact wp_bind_all _ _ s _ _ (fun _ _ => rfl) (fun _ _ => trivial)

theorem leaseTimeout_returns (nowts : Int) (s : Sys) :
    wp (leaseTimeout env nowts) (fun r _ => r = .expired ↔ Expired s.cs nowts) (fun _ _ => True) s := by
  unfold leaseTimeout
  rw [wp_bind, wp_get, wp_ite]
  split
  · next hre =>
    by_cases hend : leaseEnd s.cs ≤ nowts
    · exact wp_mono _ _ s _ _ _ (rebindingTimeout_of_end env nowts s hend)
        (fun _ _ h => ⟨fun _ => ⟨hre, hend⟩, fun _ => h⟩) (fun _ _ h => h)
    · exact wp_mono _ _ s _ _ _ (rebindingTimeout_expired env nowts s)
        (fun _ _ h => ⟨fun hr => absurd (h hr) hend, fun hx => absurd hx.2 hend⟩) (fun _ _ h => h)
  · next hre =>
    have hnot : ∀ r t, OnExpiry False r t → (r = .expired ↔ Expired s.cs nowts) :=
      fun _ _ h => ⟨fun hr => (h hr).elim, fun hx => absurd hx.1 hre⟩
    unfold renewingTimeout boundTimeout
    rw [wp_ite]
    split
    · rw [wp_bind, wp_get, wp_ite, if_neg hre]
      exact wp_mono _ _ s _ _ _ (requestExtension_not_expired env nowts _ _ _ False s) hnot
        (fun _ _ h => h)
    · next hrenew =>
      rw [wp_bind, wp_get, wp_ite, if_pos (Int.not_le.mp hrenew)]
      exact hnot .wait s nofun

end

end Ndhc
