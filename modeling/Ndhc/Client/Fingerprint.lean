import Ndhc.Client.Renewal

/-!
# The fingerprint of a network

Gateway and DHCP server are asked for their hardware addresses once a lease is taken, and asked
again when the carrier returns.  `Finger` is all that the two exchanges read and write, `learn`
and `confirm` what a reply does to it, and the lemmas say that the functions of arp.c do this
and in which mode they leave the socket.
-/

namespace Ndhc

open Prog

/-- The fingerprint, what is awaited of it, the last frame and the mode of the ARP socket. -/
structure Finger where
  routerAddr : UInt32
  srcAddr : UInt32
  reply : ArpMsg
  sentGwQuery : Bool
  gotRouterArp : Bool
  gotServerArp : Bool
  checkFingerprint : Bool
  routerReplied : Bool
  serverReplied : Bool
  routerArp : List UInt8
  serverArp : List UInt8
  arpIsDefense : Bool
  deriving DecidableEq

namespace Finger

section
variable (cfg : ClientConfig) (f : Finger)

/-- The last frame is a reply to us from `addr`. -/
def From (addr : UInt32) : Prop := arpIsQueryReply cfg.arp f.reply ≠ 0 ∧ f.reply.sip4 = htonl addr

instance (addr : UInt32) : Decidable (f.From cfg addr) := inferInstanceAs (Decidable (_ ∧ _))

def fromRouter : Bool := decide (f.From cfg f.routerAddr)

def fromServer : Bool := decide (f.From cfg f.srcAddr)

/-- Not both hardware addresses are known. -/
def unknown : Bool := !f.gotRouterArp || !f.gotServerArp

/-- The frame is the last reply a query waits for. -/
def completes : Bool :=
  (f.fromRouter cfg || f.fromServer cfg) && (f.gotRouterArp || f.fromRouter cfg) &&
    (f.gotServerArp || f.fromServer cfg)

/-- A reply to a query. -/
def learn : Finger := { f with
  gotRouterArp := f.gotRouterArp || f.fromRouter cfg
  gotServerArp := f.gotServerArp || f.fromServer cfg
  routerArp := if f.fromRouter cfg then f.reply.smac else f.routerArp
  serverArp := if f.fromServer cfg then f.reply.smac else f.serverArp
  arpIsDefense := f.arpIsDefense || f.completes cfg }

/-- The frame is the last reply a check waits for. -/
def settles : Bool :=
  (f.fromRouter cfg || f.fromServer cfg) && (f.routerReplied || f.fromRouter cfg) &&
    (f.serverReplied || f.fromServer cfg)

/-- The sender of the frame has the hardware address of the fingerprint. -/
def Agrees : Prop :=
  (f.fromRouter cfg = true → f.reply.smac = f.routerArp) ∧
    (f.fromServer cfg = true → f.reply.smac = f.serverArp)

/-- A reply to a check that agrees. -/
def confirm : Finger := { f with
  routerReplied := f.routerReplied || f.fromRouter cfg
  serverReplied := f.serverReplied || f.fromServer cfg
  arpIsDefense := f.arpIsDefense || f.settles cfg }

/-- The socket is opened in the given mode. -/
@[reducible] def opened (defense : Bool) : Finger := { f with arpIsDefense := defense }

end

end Finger

@[reducible] def finger (s : Sys) : Finger :=
  ⟨s.cs.routerAddr, s.cs.srcAddr, s.garp.reply, s.cs.sentGwQuery, s.cs.gotRouterArp,
    s.cs.gotServerArp, s.cs.checkFingerprint, s.garp.routerReplied, s.garp.serverReplied,
    s.cs.routerArp, s.cs.serverArp, s.cs.arpIsDefense⟩

instance : Offline finger where
  eq _ _ := rfl
  pc _ _ := rfl
  listen _ _ _ := rfl
  wake _ _ := rfl
  lease _ _ _ := rfl

instance : Offline peers where
  eq _ _ := rfl
  pc _ _ := rfl
  listen _ _ _ := rfl
  wake _ _ := rfl
  lease _ _ _ := rfl

theorem htonl_injective (a b : UInt32) (h : htonl a = htonl b) : a = b := by
  rw [← word32_htonl a, h, word32_htonl]

/-! ## What leaves the fingerprint alone -/

section
variable (env : Env) (cfg : ClientConfig) (inp : Input) (site : Site) (nowts : Int)

instance (testIp : UInt32) : Routine finger AnyWay (arpPing env site testIp) := by
  unfold arpPing
  infer_instance

instance (replied : Bool) (testIp : UInt32) :
    Routine finger AnyWay (pingUnless env replied site testIp) := by
  unfold pingUnless
  infer_instance

instance : Routine finger AnyWay (arpAnnouncement env site) := by
  unfold arpAnnouncement
  infer_instance

instance : Routine finger AnyWay (arpAnnounce env) := by
  unfold arpAnnounce
  infer_instance

instance : Routine finger AnyWay (boundAnnounce env inp) := by
  unfold boundAnnounce arpDefenseTimeout arpAnnounceTimeout
  infer_instance

instance : Routine finger AnyWay (arpDoDefense env cfg) := by
  unfold arpDoDefense
  infer_instance

instance : Routine finger OnReturn (boundDefense env cfg) := by
  unfold boundDefense
  infer_instance

instance : Routine finger AnyWay (arpGwQueryTimeout env nowts) := by
  unfold arpGwQueryTimeout
  infer_instance

instance : Routine finger AnyWay (arpGwCheckTimeout env nowts) := by
  unfold arpGwCheckTimeout
  infer_instance

instance : Routine finger AnyWay (ifchangeDeconfig env) := by
  unfold ifchangeDeconfig
  infer_instance

instance (ck : NetChecksum) (rd : ReadResult) (buf : DhcpMsg) :
    Routine finger AnyWay (dhcpPacketGet env cfg ck rd buf) := by
  unfold dhcpPacketGet
  infer_instance

/-! ## The socket's mode -/

/-- Opening the socket sets its mode, also if sockd hands out none. -/
theorem arpOpenFd_mode (defense : Bool) (s : Sys) :
    wp (arpOpenFd env site defense) (fun _ t => finger t = (finger s).opened defense)
      (fun _ _ => True) s := by
  unfold arpOpenFd arpMinCloseFd
  rw [wp_bind, wp_get, wp_ite]
  split
  · next h => exact congrArg (finger s).opened h.2.symm
  · have hask : ∀ t, (finger t).opened defense = (finger s).opened defense →
        wp (do
          let r ← ask (env.sockd site)
          modify fun s => { s with garp.usingBpf := r.2, cs.arpIsDefense := defense, cs.arpFd := r.1 }
          if r.1 < 0 then pure (-1) else pure 0)
          (fun _ t => finger t = (finger s).opened defense) (fun _ _ => True) t := by
      intro t hset
      rw [wp_bind]
      cases env.sockd site with
      | none => trivial
      | some r =>
        show wp (if r.1 < 0 then pure (-1) else pure 0) _ _ _
        rw [wp_ite]
        split
        · exact hset
        · exact hset
    rw [wp_bind, wp_bind, wp_get, wp_ite]
    split
    · exact hask s rfl
    · exact hask _ rfl

theorem arpCheck_mode (packet : DhcpMsg) (s : Sys) :
    wp (arpCheck env cfg packet) (fun _ t => finger t = (finger s).opened false) (fun _ _ => True) s := by
  unfold arpCheck arpIpAnonPing
  rw [wp_bind, wp_modify, wp_bind]
  apply wp_mono _ _ _ _ _ _ (arpOpenFd_mode env .arpCheckOpen false _) ?_ (fun _ _ h => h)
  intro r t ht
  rw [← show finger t = (finger s).opened false from ht]
  exact Routine.ends (f := finger) (X := AnyWay) t

/-- An ACK of our server opens the socket for defense, or for probing if it is for another
address. -/
def ModeAfter (s t : Sys) : Prop :=
  finger t = finger s ∨ (Accepts inp DHCPACK s ∧
    finger t = (finger s).opened (decide (inp.dhcpPacket.yiaddr = s.cs.clientAddr)))

theorem extendPacket_mode (packet : DhcpMsg) (msgtype : UInt8) (s : Sys) :
    wp (extendPacket env packet msgtype)
      (fun r t => match r with
        | .success => msgtype = DHCPACK ∧ validateServerid s.cs packet = true ∧
            packet.yiaddr = s.cs.clientAddr ∧ finger t = (finger s).opened true
        | .checkIp => msgtype = DHCPACK ∧ validateServerid s.cs packet = true ∧
            packet.yiaddr ≠ s.cs.clientAddr ∧ finger t = finger s
        | .ignore => finger t = finger s
        | .rejected => True)
      (fun e _ => e = .exit) s := by
  unfold extendPacket
  rw [wp_bind, wp_get, wp_ite]
  split
  · next hack =>
    rw [wp_ite]
    split
    · exact rfl
    · next hvalid =>
      have hours : validateServerid s.cs packet = true := by simpa using hvalid
      show wp (if packet.yiaddr ≠ s.cs.clientAddr then pure Anp.checkIp else _) _ _
        (withLease env packet s)
      rw [wp_ite]
      split
      · next hip => exact ⟨hack, hours, hip, rfl⟩
      · next hip =>
        rw [wp_bind]
        apply wp_routine core Dies
        apply wp_mono _ _ _ _ _ _ (arpOpenFd_mode env .defenseMode true _)
        · exact fun _ t ht _ => ⟨hack, hours, not_not.mp hip, ht⟩
        · exact fun _ _ _ hd => hd.1
  · rw [wp_ite]
    split
    · rw [wp_ite]
      split
      · exact rfl
      · exact wp_sub _ _ s _ _ (fun _ _ _ => trivial) (fun _ _ => rfl)
    · exact rfl

theorem boundDhcp_mode (s : Sys) :
    wp (boundDhcp env cfg inp) (fun _ t => ModeAfter inp s t) (fun e _ => ∀ code, e ≠ .ret code) s := by
  unfold boundDhcp
  rw [wp_bind, wp_get, wp_ite]
  split
  · next hrenew =>
    rw [wp_bind]
    apply wp_mono _ _ s _ _ _ (extendPacket_mode env inp.dhcpPacket inp.dhcpMsgtype s)
    · intro r t ht
      cases r with
      | success =>
        obtain ⟨hack, hours, hip, ht⟩ := ht
        refine Or.inr ⟨⟨hrenew.1, hrenew.2, hack, hours⟩, ?_⟩
        rw [decide_eq_true hip]
        exact ht
      | ignore => exact Or.inl ht
      | rejected => exact Stop.goto_ret_elim
      | checkIp =>
        obtain ⟨hack, hours, hip, ht⟩ := ht
        show wp (arpCheck env cfg inp.dhcpPacket >>= fun r =>
          if r < 0 then restart env 3000 else pure ()) _ _ t
        rw [wp_bind]
        apply wp_mono _ _ t _ _ _
          (wp_and _ _ t _ _ _ (arpCheck_ends env cfg inp.dhcpPacket t) (arpCheck_mode env cfg inp.dhcpPacket t))
        · rintro r u ⟨-, hu⟩
          rw [wp_ite]
          split
          · exact wp_restart _ _ _ _ _ (fun _ _ => Stop.goto_ret_elim) (fun _ _ => Stop.exit_ret_elim)
          · refine Or.inr ⟨⟨hrenew.1, hrenew.2, hack, hours⟩, ?_⟩
            rw [decide_eq_false hip, ← ht]
            exact hu
        · rintro e u ⟨⟨rfl, -⟩, -⟩
          exact Stop.exit_ret_elim
    · rintro e t rfl
      exact Stop.exit_ret_elim
  · exact Or.inl rfl

/-! ## Replies -/

/-- A socket is opened, or that is what fails. -/
theorem wp_open_then {α : Type} (defense : Bool) (failed : α) (k : M α) (Q : α → Sys → Prop) (s : Sys)
    (hfail : ∀ t, OpenFails env site → finger t = (finger s).opened defense → Q failed t)
    (hk : ∀ t, 0 ≤ t.cs.arpFd → finger t = (finger s).opened defense → wp k Q (fun _ _ => True) t) :
    wp (arpOpenFd env site defense >>= fun r => if r < 0 then pure failed else k) Q (fun _ _ => True) s := by
  rw [wp_bind]
  apply wp_mono _ _ s _ _ _ (wp_and _ _ s _ _ _ (arpOpenFd_fails env site defense s)
    (arpOpenFd_mode env site defense s)) ?_ (fun _ _ _ => trivial)
  rintro r t ⟨⟨hr, hopen⟩ | ⟨hr, hfd⟩, ht⟩
  · rw [wp_ite, if_pos hr]
    exact hfail t hopen ht
  · rw [wp_ite, if_neg hr]
    exact hk t hfd ht

/-- Both hardware addresses are known now. -/
theorem gwQueryDone_mode (s : Sys) :
    wp (gwQueryDone env) (fun r t => (r = .free ∨ r = .fail) ∧ finger t = (finger s).opened true)
      (fun _ _ => True) s := by
  unfold gwQueryDone
  rw [wp_bind, wp_modify]
  apply wp_open_then
  · exact fun t _ ht => ⟨Or.inr rfl, ht⟩
  · exact fun t _ ht => ⟨Or.inl rfl, ht⟩

theorem gwQueryServer_learns (s : Sys) :
    wp (gwQueryServer env) (fun r t => r ≠ .conflict ∧ finger t = { finger s with
        serverArp := s.garp.reply.smac, gotServerArp := true,
        arpIsDefense := s.cs.arpIsDefense || s.cs.gotRouterArp })
      (fun _ _ => True) s := by
  unfold gwQueryServer
  rw [wp_bind, wp_modify, wp_bind, wp_get, wp_ite]
  split
  · next hgot =>
    have hgot : s.cs.gotRouterArp = true := hgot
    apply wp_mono _ _ _ _ _ _ (gwQueryDone_mode env _) ?_ (fun _ _ h => h)
    rintro r t ⟨hr, ht⟩
    refine ⟨by rcases hr with rfl | rfl <;> nofun, ht.trans ?_⟩
    simp [hgot]
  · next hgot =>
    have hgot : s.cs.gotRouterArp = false := Bool.eq_false_of_not_eq_true hgot
    refine ⟨nofun, ?_⟩
    simp [hgot]

end

section
variable (cfg : ClientConfig) (s : Sys)

theorem fromRouter_eq (hq : arpIsQueryReply cfg.arp s.garp.reply ≠ 0) :
    (finger s).fromRouter cfg = decide (s.garp.reply.sip4 = htonl s.cs.routerAddr) :=
  decide_eq_decide.mpr ⟨fun h => h.2, fun h => ⟨hq, h⟩⟩

theorem fromServer_eq (hq : arpIsQueryReply cfg.arp s.garp.reply ≠ 0) :
    (finger s).fromServer cfg = decide (s.garp.reply.sip4 = htonl s.cs.srcAddr) :=
  decide_eq_decide.mpr ⟨fun h => h.2, fun h => ⟨hq, h⟩⟩

/-- A frame that is no reply to us says nothing. -/
theorem from_eq_false (addr : UInt32) (hq : arpIsQueryReply cfg.arp s.garp.reply = 0) :
    decide ((finger s).From cfg addr) = false := decide_eq_false fun h => h.1 hq

end

section
variable (env : Env) (cfg : ClientConfig)

/-- A reply to the query is from the router, from the server, from both at once or from neither. -/
theorem wp_arpDoGwQuery (Q : Arpr → Sys → Prop) (E : Stop → Sys → Prop) (s : Sys)
    (hnone : (finger s).fromRouter cfg = false → (finger s).fromServer cfg = false → Q .ok s)
    (hboth : (finger s).fromRouter cfg = true → (finger s).fromServer cfg = true →
      wp (gwQueryServer env) Q E { s with cs.routerArp := s.garp.reply.smac, cs.gotRouterArp := true })
    (hrouter : (finger s).fromRouter cfg = true → (finger s).fromServer cfg = false →
      wp (if s.cs.gotServerArp then gwQueryDone env else pure .ok) Q E
        { s with cs.routerArp := s.garp.reply.smac, cs.gotRouterArp := true })
    (hserver : (finger s).fromRouter cfg = false → (finger s).fromServer cfg = true →
      wp (gwQueryServer env) Q E s) :
    wp (arpDoGwQuery env cfg) Q E s := by
  unfold arpDoGwQuery
  rw [wp_bind, wp_get, wp_ite]
  split
  · next hq => exact hnone (from_eq_false cfg s _ hq) (from_eq_false cfg s _ hq)
  · next hq =>
    rw [fromRouter_eq cfg s hq, fromServer_eq cfg s hq] at hnone hboth hrouter hserver
    rw [wp_ite]
    split
    · next hsip =>
      rw [wp_bind, wp_modify, wp_ite]
      split
      · next hsame => exact hboth (decide_eq_true hsip) (decide_eq_true (hsame ▸ hsip))
      · next hother =>
        exact hrouter (decide_eq_true hsip)
          (decide_eq_false fun h => hother (htonl_injective _ _ (hsip.symm.trans h)))
    · next hsip =>
      rw [wp_ite]
      split
      · next hsrc => exact hserver (decide_eq_false hsip) (decide_eq_true hsrc)
      · next hsrc => exact hnone (decide_eq_false hsip) (decide_eq_false hsrc)

theorem arpDoGwQuery_learns (s : Sys) :
    wp (arpDoGwQuery env cfg) (fun r t => r ≠ .conflict ∧ finger t = (finger s).learn cfg)
      (fun _ _ => True) s := by
  apply wp_arpDoGwQuery
  · intro hrouter hserver
    refine ⟨nofun, ?_⟩
    simp [Finger.learn, Finger.completes, hrouter, hserver]
  · intro hrouter hserver
    apply wp_mono _ _ _ _ _ _ (gwQueryServer_learns env _) ?_ (fun _ _ h => h)
    rintro r t ⟨hr, ht⟩
    refine ⟨hr, ht.trans ?_⟩
    simp [Finger.learn, Finger.completes, hrouter, hserver]
  · intro hrouter hserver
    rw [wp_ite]
    split
    · next hgot =>
      apply wp_mono _ _ _ _ _ _ (gwQueryDone_mode env _) ?_ (fun _ _ h => h)
      rintro r t ⟨hr, ht⟩
      refine ⟨by rcases hr with rfl | rfl <;> nofun, ht.trans ?_⟩
      simp [Finger.learn, Finger.completes, hrouter, hserver, hgot]
    · next hgot =>
      refine ⟨nofun, ?_⟩
      simp [Finger.learn, Finger.completes, hrouter, hserver, hgot]
  · intro hrouter hserver
    apply wp_mono _ _ _ _ _ _ (gwQueryServer_learns env _) ?_ (fun _ _ h => h)
    rintro r t ⟨hr, ht⟩
    refine ⟨hr, ht.trans ?_⟩
    simp [Finger.learn, Finger.completes, hrouter, hserver]

/-- How a check that agrees returns: `done` if it has all its replies. -/
def CheckSettled (done : Bool) : Arpr → Prop
  | .ok => done = false
  | .free => done = true
  | .fail => done = true ∧ (OpenFails env .gwSuccessOpen ∨ SendFails env .gwSuccess)
  | .conflict => False

theorem arpGwSuccess_settles (s : Sys) :
    wp (arpGwSuccess env) (fun r t => CheckSettled env true r ∧ finger t = (finger s).opened true)
      (fun _ _ => True) s := by
  unfold arpGwSuccess
  apply wp_open_then
  · exact fun t hopen ht => ⟨⟨rfl, Or.inl hopen⟩, ht⟩
  · intro t hfd ht
    rw [wp_bind, wp_modify, wp_bind]
    apply wp_routine finger AnyWay
    apply wp_mono _ _ _ _ _ _ (arpAnnouncement_fails env .gwSuccess _) ?_ (fun _ _ _ _ => trivial)
    intro r u hann hu
    have hu : finger u = (finger s).opened true := hu.trans ht
    rw [wp_ite]
    split
    · next hr =>
      rcases hann hr with hclosed | hsend
      · exact absurd hclosed (Int.not_lt.mpr hfd)
      · exact ⟨⟨rfl, Or.inr hsend⟩, hu⟩
    · exact ⟨rfl, hu⟩

theorem gwCheckServer_settles (s : Sys) :
    wp (gwCheckServer env)
      (fun r t => r = .conflict ∨ (s.garp.reply.smac = s.cs.serverArp ∧ CheckSettled env s.garp.routerReplied r ∧
        finger t = { finger s with
          serverReplied := true, arpIsDefense := s.cs.arpIsDefense || s.garp.routerReplied }))
      (fun _ _ => True) s := by
  unfold gwCheckServer
  rw [wp_bind, wp_get, wp_ite]
  split
  · next harp =>
    rw [wp_bind, wp_modify, wp_ite]
    split
    · next hreplied =>
      apply wp_mono _ _ _ _ _ _ (arpGwSuccess_settles env _) ?_ (fun _ _ h => h)
      rintro r t ⟨hr, ht⟩
      refine Or.inr ⟨harp.symm, hreplied ▸ hr, ht.trans ?_⟩
      simp [hreplied]
    · next hreplied =>
      have hreplied : s.garp.routerReplied = false := Bool.eq_false_of_not_eq_true hreplied
      refine Or.inr ⟨harp.symm, hreplied, ?_⟩
      simp [hreplied]
  · exact Or.inl rfl

/-- A reply to a check agrees with the fingerprint, or the check has failed. -/
theorem arpDoGwCheck_settles (s : Sys) :
    wp (arpDoGwCheck env cfg)
      (fun r t => r = .conflict ∨ ((finger s).Agrees cfg ∧ CheckSettled env ((finger s).settles cfg) r ∧
        finger t = (finger s).confirm cfg))
      (fun _ _ => True) s := by
  unfold arpDoGwCheck
  rw [wp_bind, wp_get, wp_ite]
  split
  · next hq =>
    have hrouter : (finger s).fromRouter cfg = false := from_eq_false cfg s _ hq
    have hserver : (finger s).fromServer cfg = false := from_eq_false cfg s _ hq
    refine Or.inr ⟨⟨by simp [hrouter], by simp [hserver]⟩, ?_, ?_⟩
    · simp [CheckSettled, Finger.settles, hrouter, hserver]
    · simp [Finger.confirm, Finger.settles, hrouter, hserver]
  · next hq =>
    have hrouter := fromRouter_eq cfg s hq
    have hserver := fromServer_eq cfg s hq
    rw [wp_ite]
    split
    · next hsip =>
      rw [decide_eq_true hsip] at hrouter
      rw [wp_ite]
      split
      · next harp =>
        rw [wp_bind, wp_modify, wp_ite]
        split
        · next hsame =>
          rw [hsip, hsame, decide_eq_true rfl] at hserver
          apply wp_mono _ _ _ _ _ _ (gwCheckServer_settles env _) ?_ (fun _ _ h => h)
          rintro r t (hr | ⟨hmac, hr, ht⟩)
          · exact Or.inl hr
          · refine Or.inr ⟨⟨fun _ => harp.symm, fun _ => hmac⟩, ?_, ht.trans ?_⟩
            · simpa [Finger.settles, hrouter, hserver] using hr
            · simp [Finger.confirm, Finger.settles, hrouter, hserver]
        · next hother =>
          rw [hsip, decide_eq_false fun h => hother (htonl_injective _ _ h)] at hserver
          have hagrees : (finger s).Agrees cfg := ⟨fun _ => harp.symm, by simp [hserver]⟩
          rw [wp_ite]
          split
          · next hreplied =>
            apply wp_mono _ _ _ _ _ _ (arpGwSuccess_settles env _) ?_ (fun _ _ h => h)
            rintro r t ⟨hr, ht⟩
            refine Or.inr ⟨hagrees, ?_, ht.trans ?_⟩
            · simpa [Finger.settles, hrouter, hserver, hreplied] using hr
            · simp [Finger.confirm, Finger.settles, hrouter, hserver, hreplied]
          · next hreplied =>
            refine Or.inr ⟨hagrees, ?_, ?_⟩
            · simp [CheckSettled, Finger.settles, hrouter, hserver, hreplied]
            · simp [Finger.confirm, Finger.settles, hrouter, hserver, hreplied]
      · exact Or.inl rfl
    · next hsip =>
      rw [decide_eq_false hsip] at hrouter
      rw [wp_ite]
      split
      · next hsip =>
        rw [decide_eq_true hsip] at hserver
        apply wp_mono _ _ _ _ _ _ (gwCheckServer_settles env _) ?_ (fun _ _ h => h)
        rintro r t (hr | ⟨hmac, hr, ht⟩)
        · exact Or.inl hr
        · refine Or.inr ⟨⟨by simp [hrouter], fun _ => hmac⟩, ?_, ht.trans ?_⟩
          · simpa [Finger.settles, hrouter, hserver] using hr
          · simp [Finger.confirm, Finger.settles, hrouter, hserver]
      · next hsip =>
        rw [decide_eq_false hsip] at hserver
        refine Or.inr ⟨⟨by simp [hrouter], by simp [hserver]⟩, ?_, ?_⟩
        · simp [CheckSettled, Finger.settles, hrouter, hserver]
        · simp [Finger.confirm, Finger.settles, hrouter, hserver]

/-! ## Asking -/

/-- All but what is known of the gateway. -/
@[reducible] def serverSide (s : Sys) : Finger := { finger s with gotRouterArp := false }

instance (priority := low) {α : Type} (m : M α) [h : Routine finger AnyWay m] :
    Routine serverSide AnyWay m where
  ends s := wp_mono _ _ s _ _ _ (h.ends s)
    (fun _ _ ht => congrArg (fun f : Finger => { f with gotRouterArp := false }) ht) (fun _ _ h => h)

instance : Routine serverSide AnyWay (gwHwaddrPings env) := by
  unfold gwHwaddrPings gwHwaddrRouter
  infer_instance

/-- A query asks for the server's hardware address anew, with a socket that hears replies. -/
def Asked (f : Finger) : Prop :=
  f.arpIsDefense = false ∧ (OpenFails env .gwHwaddrOpen ∨ f.gotServerArp = false)

theorem arpGetGwHwaddr_asks (s : Sys) :
    wp (arpGetGwHwaddr env) (fun _ t => Asked env (finger t)) (fun _ _ => True) s := by
  unfold arpGetGwHwaddr
  apply wp_open_then
  · exact fun t hopen ht => ⟨congrArg Finger.arpIsDefense ht, Or.inl hopen⟩
  · intro t _ ht
    rw [wp_bind, wp_modify]
    apply wp_call serverSide AnyWay _ _ _ _ _ ?_ (fun _ _ _ => trivial)
    intro r u hu
    have hmode : t.cs.arpIsDefense = false := congrArg Finger.arpIsDefense ht
    have hasked : Asked env (finger u) :=
      ⟨(congrArg Finger.arpIsDefense hu).trans hmode, Or.inr (congrArg Finger.gotServerArp hu)⟩
    rw [wp_ite]
    split
    · exact hasked
    · exact hasked

theorem arpQueryGateway_asks (s : Sys) (hsent : s.cs.sentGwQuery = false) :
    wp (arpQueryGateway env) (fun _ t => Asked env (finger t)) (fun _ _ => True) s := by
  unfold arpQueryGateway
  rw [wp_bind, wp_get, wp_ite, if_neg (by simp [hsent]), wp_bind]
  apply wp_mono _ _ s _ _ _ (arpGetGwHwaddr_asks env s) ?_ (fun _ _ h => h)
  intro r t ht
  rw [wp_ite]
  split
  · exact ht
  · exact ht

/-- A check begins: the socket is open for replies and those of an earlier check do not count,
except that the gateway's does if the ping to the server is not sent. -/
def Begun (f g : Finger) : Prop :=
  (OpenFails env .gwCheckOpen ∧ g = f.opened false) ∨
    ∃ replied, g = { f.opened false with
        checkFingerprint := true, serverReplied := false, routerReplied := replied } ∧
      ((SendFails env .gwCheckServer ∧ replied = f.routerReplied) ∨ replied = decide (f.routerAddr = 0))

theorem gwCheckPings_begins (s : Sys) (hfd : 0 ≤ s.cs.arpFd) :
    wp (gwCheckPings env) (fun _ t => ∃ replied, finger t = { finger s with routerReplied := replied } ∧
        ((SendFails env .gwCheckServer ∧ replied = s.garp.routerReplied) ∨
          replied = decide (s.cs.routerAddr = 0)))
      (fun _ _ => True) s := by
  unfold gwCheckPings gwCheckRouter
  rw [wp_bind, wp_get, wp_bind]
  apply wp_routine finger AnyWay
  apply wp_mono _ _ s _ _ _ (arpPing_fails env .gwCheckServer s.cs.srcAddr s) ?_ (fun _ _ _ _ => trivial)
  intro r t hping ht
  rw [wp_ite]
  split
  · next hr =>
    exact ⟨s.garp.routerReplied, ht, Or.inl ⟨(hping hr).resolve_left (Int.not_lt.mpr hfd), rfl⟩⟩
  · have hrouter : t.cs.routerAddr = s.cs.routerAddr := congrArg Finger.routerAddr ht
    have hset : ∀ b, { finger t with routerReplied := b } = { finger s with routerReplied := b } :=
      fun b => congrArg (fun f : Finger => { f with routerReplied := b }) ht
    rw [wp_bind, wp_get, wp_ite]
    split
    · next hne =>
      rw [wp_bind, wp_modify]
      apply wp_routine finger AnyWay
      apply wp_all
      · intro _ u hu
        refine ⟨false, hu.trans (hset false), Or.inr ?_⟩
        rw [← hrouter, decide_eq_false hne]
      · exact fun _ _ _ => trivial
    · next hzero =>
      refine ⟨true, hset true, Or.inr ?_⟩
      rw [← hrouter, decide_eq_true (not_not.mp hzero)]

theorem arpGwCheck_begins (s : Sys) :
    wp (arpGwCheck env) (fun _ t => Begun env (finger s) (finger t)) (fun _ _ => True) s := by
  unfold arpGwCheck
  apply wp_open_then
  · exact fun t hopen ht => Or.inl ⟨hopen, ht⟩
  · intro t hfd ht
    rw [wp_bind, wp_modify, wp_bind]
    refine wp_mono _ _ _ _ _ _ (gwCheckPings_begins env _ ?_) ?_ (fun _ _ h => h)
    · exact hfd
    · rintro r u ⟨replied, hu, hwhy⟩
      have hbegun : Begun env (finger s) (finger u) := by
        refine Or.inr ⟨replied, hu.trans ?_, ?_⟩
        · exact congrArg (fun f : Finger => { f with
            checkFingerprint := true, serverReplied := false, routerReplied := replied }) ht
        · have hrouter : t.cs.routerAddr = s.cs.routerAddr := congrArg Finger.routerAddr ht
          have hreplied : t.garp.routerReplied = s.garp.routerReplied := congrArg Finger.routerReplied ht
          rcases hwhy with ⟨hsend, h⟩ | h
          · exact Or.inl ⟨hsend, h.trans hreplied⟩
          · refine Or.inr (h.trans ?_)
            show decide (t.cs.routerAddr = 0) = decide (s.cs.routerAddr = 0)
            rw [hrouter]
      rw [wp_ite]
      split
      · exact hbegun
      · exact hbegun

/-- `ifup_action` begins a check, if there are a gateway and a server to check. -/
theorem ifupAction_begins (s : Sys) :
    wp (ifupAction env)
      (fun _ t => (Unchecked s.cs ∧ finger t = finger s) ∨ (¬ Unchecked s.cs ∧ Begun env (finger s) (finger t)))
      (fun _ _ => True) s := by
  unfold ifupAction
  rw [wp_bind, wp_get, wp_ite]
  split
  · next hboth =>
    have hchecked : ¬ Unchecked s.cs := by
      rintro (h | h)
      · exact hboth.1 h
      · exact hboth.2 h
    rw [wp_ite]
    split
    · exact trivial
    · rw [wp_bind]
      apply wp_mono _ _ s _ _ _ (arpGwCheck_begins env s) ?_ (fun _ _ h => h)
      intro r t ht
      rw [wp_ite]
      split
      · exact Or.inr ⟨hchecked, ht⟩
      · exact Or.inr ⟨hchecked, ht⟩
  · next hnot =>
    refine Or.inl ⟨?_, rfl⟩
    by_contra h
    exact hnot ⟨fun h0 => h (Or.inl h0), fun h0 => h (Or.inr h0)⟩

/-! ## Reading -/

/-- A frame is read, or after an error the socket opened again, which closing has put in the
mode for replies. -/
theorem arpPacketGet_mode (stale : ArpMsg) (rd : ReadResult) (s : Sys) :
    wp (arpPacketGet env cfg stale rd)
      (fun _ t => finger t = finger s ∨ (∃ am, finger t = { finger s with reply := am }) ∨
        (rd = .error ∧ 0 ≤ s.cs.arpFd ∧ finger t = (finger s).opened false))
      (fun _ _ => True) s := by
  cases rd with
  | again => exact Or.inl rfl
  | data frame =>
    unfold arpPacketGet
    rw [wp_bind, wp_get, wp_ite]
    split
    · exact Or.inl rfl
    · rw [wp_ite]
      split
      · exact Or.inl rfl
      · exact Or.inr (Or.inl ⟨_, rfl⟩)
  | error =>
    unfold arpPacketGet
    rw [wp_bind]
    unfold arpMinCloseFd
    rw [wp_bind, wp_get, wp_ite]
    split
    · rw [wp_pure, wp_bind, wp_get, wp_bind]
      apply wp_mono _ _ _ _ _ _ (arpOpenFd_mode env .arpReopen _ s) ?_ (fun _ _ h => h)
      intro r t ht
      rw [wp_ite]
      split
      · trivial
      · exact Or.inl ht
    · next hfd =>
      rw [wp_modify, wp_bind, wp_get, wp_bind]
      apply wp_mono _ _ _ _ _ _ (arpOpenFd_mode env .arpReopen _ _) ?_ (fun _ _ h => h)
      intro r t ht
      rw [wp_ite]
      split
      · trivial
      · exact Or.inr (Or.inr ⟨rfl, Int.not_lt.mp hfd, ht⟩)

end

/-! ## A pass -/

section
variable (env : Env) (cfg : ClientConfig) (inp : Input)

/-- What the DHCP side of a call in `s` does: an ACK of our server opens the socket for defense,
or for probing if it is for another address. -/
def DhcpMoves (s : Sys) (g : Finger) : Prop :=
  g = finger s ∨ (Extends env inp s ∧
    g = (finger s).opened (decide (inp.dhcpPacket.yiaddr = s.cs.clientAddr)))

theorem toDefense_moves (s : Sys) :
    wp (toDefense env cfg inp) (fun _ t => DhcpMoves env inp s (finger t))
      (Returning fun t => finger t = finger s) { s with out := [] } := by
  unfold toDefense
  rw [wp_bind]
  apply wp_routine finger OnReturn
  apply wp_routine peers OnReturn
  apply wp_mono _ _ _ _ _ _ (boundSignal_proceeds env inp _)
  · rintro _ t ⟨hgo, hcore⟩ hpeers hfinger
    have haddr : t.cs.clientAddr = s.cs.clientAddr := congrArg Peers.clientAddr hpeers
    apply wp_mono _ _ t _ _ _ (boundDhcp_mode env cfg inp t)
    · rintro _ u (hu | ⟨hack, hu⟩)
      · exact Or.inl (hu.trans hfinger)
      · have hext : Extends env inp s := ⟨hgo, hack.1, (isRenewing_congr s t inp.nowts hcore).mp hack.2.1,
          hack.2.2.1, (validateServerid_congr s t inp.dhcpPacket hcore).symm.trans hack.2.2.2⟩
        refine Or.inr ⟨hext, hu.trans ?_⟩
        rw [haddr]
        exact congrArg (Finger.opened · _) hfinger
    · exact fun e u he code h => absurd h (he code)
  · exact fun e t _ _ hret code he => hret code he

/-- What a pass does with an ARP frame. -/
inductive ArpMoves (f : Finger) : Finger → Prop
  | stays : ArpMoves f f
  | learns (harp : inp.sevArp = true) (hunknown : f.unknown = true) : ArpMoves f (f.learn cfg)
  | waits (harp : inp.sevArp = true) (hknown : f.unknown = false) (hcheck : f.checkFingerprint = true)
      (hagrees : f.Agrees cfg) (hmore : f.settles cfg = false) : ArpMoves f (f.confirm cfg)
  | settles (harp : inp.sevArp = true) (hknown : f.unknown = false) (hcheck : f.checkFingerprint = true)
      (hagrees : f.Agrees cfg) (hlast : f.settles cfg = true) :
    ArpMoves f { f.confirm cfg with checkFingerprint := false }
  -- the check stays pending
  | fails (harp : inp.sevArp = true) (hknown : f.unknown = false) (hcheck : f.checkFingerprint = true)
      (hagrees : f.Agrees cfg) (hlast : f.settles cfg = true)
      (hfail : OpenFails env .gwSuccessOpen ∨ SendFails env .gwSuccess) : ArpMoves f (f.confirm cfg)

theorem unknown_iff (s : Sys) : (finger s).unknown = true ↔ gwUnknown s.cs := by
  simp [Finger.unknown, gwUnknown]

section
variable (s : Sys) (harp : inp.sevArp = true)
include harp

theorem boundGwQuery_moves (hunknown : gwUnknown s.cs) :
    wp (boundGwQuery env cfg) (fun _ t => ArpMoves env cfg inp (finger s) (finger t))
      (Returning fun t => ArpMoves env cfg inp (finger s) (finger t)) s := by
  have hlearn : ∀ t, finger t = (finger s).learn cfg → ArpMoves env cfg inp (finger s) (finger t) := by
    intro t ht
    rw [ht]
    exact .learns harp ((unknown_iff s).mpr hunknown)
  unfold boundGwQuery
  apply wp_sub_of _ _ s _ _ ?_ (fun _ _ => Stop.exit_ret_elim)
  apply wp_mono _ _ s _ _ _ (arpDoGwQuery_learns env cfg s) ?_ (fun _ _ h => h)
  rintro r t ⟨hr, ht⟩
  cases r with
  | ok => exact hlearn t ht
  | free => exact hlearn t ht
  | fail => exact fun _ _ => hlearn t ht
  | conflict => exact absurd rfl hr

theorem boundGwCheck_moves (hknown : ¬ gwUnknown s.cs) (hcheck : s.cs.checkFingerprint = true) :
    wp (boundGwCheck env cfg) (fun _ t => ArpMoves env cfg inp (finger s) (finger t))
      (Returning fun t => ArpMoves env cfg inp (finger s) (finger t)) s := by
  have hknown : (finger s).unknown = false :=
    Bool.eq_false_of_not_eq_true fun h => hknown ((unknown_iff s).mp h)
  unfold boundGwCheck
  apply wp_sub_of _ _ s _ _ ?_ (fun _ _ => Stop.exit_ret_elim)
  apply wp_mono _ _ s _ _ _ (arpDoGwCheck_settles env cfg s) ?_ (fun _ _ h => h)
  intro r t hr
  cases r with
  | ok =>
    obtain ⟨hagrees, hmore, ht⟩ := hr.resolve_left (by decide)
    show ArpMoves env cfg inp (finger s) (finger t)
    rw [ht]
    exact .waits harp hknown hcheck hagrees hmore
  | free =>
    obtain ⟨hagrees, hlast, ht⟩ := hr.resolve_left (by decide)
    show ArpMoves env cfg inp (finger s) { finger t with checkFingerprint := false }
    rw [ht]
    exact .settles harp hknown hcheck hagrees hlast
  | fail =>
    obtain ⟨hagrees, ⟨hlast, hfail⟩, ht⟩ := hr.resolve_left (by decide)
    intro _ _
    show ArpMoves env cfg inp (finger s) (finger t)
    rw [ht]
    exact .fails harp hknown hcheck hagrees hlast hfail
  | conflict => exact wp_restart _ _ _ _ _ (fun _ _ => Stop.goto_ret_elim) (fun _ _ => Stop.exit_ret_elim)

end

theorem boundArp_moves (s : Sys) :
    wp (boundArp env cfg inp) (fun _ t => ArpMoves env cfg inp (finger s) (finger t))
      (Returning fun t => ArpMoves env cfg inp (finger s) (finger t)) s := by
  unfold boundArp
  rw [wp_ite]
  split
  · next harp =>
    apply wp_call finger OnReturn
    · intro _ t ht
      rw [← ht, wp_bind, wp_get, wp_ite]
      split
      · next hunknown => exact boundGwQuery_moves env cfg inp t harp hunknown
      · next hknown =>
        rw [wp_ite]
        split
        · next hcheck => exact boundGwCheck_moves env cfg inp t harp hknown hcheck
        · exact .stays
    · intro e t ht code he
      rw [ht code he]
      exact .stays
  · exact .stays

/-- What the ARP timers do: a query is sent that was not. -/
def TimerMoves (f g : Finger) : Prop := g = f ∨ (f.sentGwQuery = false ∧ Asked env g)

theorem arpQueryGatewayTimeout_moves (nowts : Int) (s : Sys) (hsent : s.cs.sentGwQuery = false) :
    wp (arpQueryGatewayTimeout env nowts) (fun _ t => TimerMoves env (finger s) (finger t))
      (fun _ _ => True) s := by
  unfold arpQueryGatewayTimeout
  rw [wp_bind, wp_get, wp_ite]
  split
  · exact Or.inl rfl
  · rw [wp_ite]
    split
    · exact Or.inl rfl
    · rw [wp_bind]
      exact wp_mono _ _ s _ _ _ (arpQueryGateway_asks env s hsent) (fun _ t ht => Or.inr ⟨hsent, ht⟩)
        (fun _ _ h => h)

theorem boundGwTimeout_moves (s : Sys) :
    wp (boundGwTimeout env inp) (fun _ t => TimerMoves env (finger s) (finger t))
      (Returning fun t => TimerMoves env (finger s) (finger t)) s := by
  unfold boundGwTimeout
  rw [wp_bind, wp_get, wp_ite]
  split
  · next hsent =>
    apply wp_sub_of _ _ s _ _ ?_ (fun _ _ => Stop.exit_ret_elim)
    exact arpQueryGatewayTimeout_moves env inp.nowts s (by simpa using hsent)
  · apply wp_mono _ _ s _ _ _ (Routine.ends (f := finger) (X := OnReturn) s)
    · exact fun _ t ht => Or.inl ht
    · exact fun e t ht code he => Or.inl (ht code he)

theorem boundArpTimeout_moves (s : Sys) :
    wp (boundArpTimeout env inp) (fun _ t => TimerMoves env (finger s) (finger t))
      (Returning fun t => TimerMoves env (finger s) (finger t)) s := by
  unfold boundArpTimeout
  rw [wp_ite]
  split
  · apply wp_call finger OnReturn
    · intro _ t ht
      rw [← ht]
      exact boundGwTimeout_moves env inp t
    · exact fun e t ht code he => Or.inl (ht code he)
  · exact Or.inl rfl

/-- What a returning carrier does. -/
def IfupMoves (cs : ClientState) (f g : Finger) : Prop :=
  (inp.forceFingerprint = true ∧ ¬ Unchecked cs ∧ Begun env f g) ∨
    (¬ (inp.forceFingerprint = true ∧ ¬ Unchecked cs) ∧ g = f)

theorem boundIfup_moves (s : Sys) :
    wp (boundIfup env inp) (fun _ t => IfupMoves env inp s.cs (finger s) (finger t))
      (Returning fun t => IfupMoves env inp s.cs (finger s) (finger t)) s := by
  unfold boundIfup
  rw [wp_ite]
  split
  · next hforce =>
    apply wp_sub_of _ _ s _ _ ?_ (fun _ _ => Stop.exit_ret_elim)
    apply wp_mono _ _ s _ _ _ (ifupAction_begins env s) ?_ (fun _ _ h => h)
    intro r t ht
    have hmoves : ∀ u, finger u = finger t → IfupMoves env inp s.cs (finger s) (finger u) := by
      intro u hu
      rw [hu]
      rcases ht with ⟨hno, ht⟩ | ⟨hchecked, ht⟩
      · exact Or.inr ⟨fun h => h.2 hno, ht⟩
      · exact Or.inl ⟨hforce, hchecked, ht⟩
    apply wp_mono _ _ t _ _ _ (Routine.ends (f := finger) (X := OnReturn) t)
    · exact fun _ u hu => hmoves u hu
    · exact fun e u hu code he => hmoves u (hu code he)
  · next hforce => exact Or.inr ⟨fun h => hforce h.1, rfl⟩

end

end Ndhc
