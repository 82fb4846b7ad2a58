import Ndhc.Client.Armed

/-!
# A carrier that returns

`force_fingerprint` lives for one call, and the BOUND loop looks at it behind everything else.  An
error return ahead of it drops the notification, unless a check goes on anyway, and so does
`ifup_action` where it cannot open the ARP socket or deconfigure the interface.  `Dropped` lists
these ways stage by stage; in every other case a call that does not end the process leaves a check
going on, or has left the phase (`carrier_noticed_iff`).
-/

namespace Ndhc

open Prog

/-! ## Stages -/

/-- `m` returns from `s`, in a state with `D`. -/
def After (m : M Unit) (D : Sys → Prop) (s : Sys) : Prop := ∃ t, returned m s = some t ∧ D t

/-- `F` holds, and no check is going on. -/
def Unchecking (F : Sys → Prop) (s : Sys) : Prop := F s ∧ s.cs.checkFingerprint = false

/-- The pass is left without a check going on exactly if `D`. -/
def Notifies (D : Prop) : Stop → Sys → Prop
  | .ret _, t => t.cs.checkFingerprint = true ↔ ¬ D
  | .goto _, _ => ¬ D
  | .exit, _ => True

theorem after_of_ok (m : M Unit) (D : Sys → Prop) (s t : Sys) (h : m s = .ok () t) : After m D s ↔ D t := by
  have hret : returned m s = some t := by
    unfold returned
    rw [h]
  constructor
  · rintro ⟨u, hu, hD⟩
    cases hret.symm.trans hu
    exact hD
  · exact fun hD => ⟨t, hret, hD⟩

theorem not_after_of_error (m : M Unit) (D : Sys → Prop) (s t : Sys) (e : Stop) (h : m s = .error e t) :
    ¬ After m D s := by
  rintro ⟨u, hu, -⟩
  unfold returned at hu
  rw [h] at hu
  cases hu

theorem after_bind (m k : M Unit) (D : Sys → Prop) (s : Sys) :
    After (m >>= fun _ => k) D s ↔ After m (After k D) s := by
  have hbind : (m >>= fun _ => k) s = EStateM.bind m (fun _ => k) s := rfl
  cases hm : m s with
  | ok a t =>
    have hk : (m >>= fun _ => k) s = k t := by
      rw [hbind]
      unfold EStateM.bind
      rw [hm]
    rw [after_of_ok m _ s t hm]
    unfold After returned
    rw [hk]
  | error e t =>
    have hk : (m >>= fun _ => k) s = .error e t := by
      rw [hbind]
      unfold EStateM.bind
      rw [hm]
    exact iff_of_false (not_after_of_error _ D s t e hk) (not_after_of_error m _ s t e hm)

theorem after_or (m : M Unit) (F D : Sys → Prop) (s : Sys) :
    After m (fun t => F t ∨ D t) s ↔ After m F s ∨ After m D s := by
  constructor
  · rintro ⟨t, ht, hF | hD⟩
    · exact Or.inl ⟨t, ht, hF⟩
    · exact Or.inr ⟨t, ht, hD⟩
  · rintro (⟨t, ht, hF⟩ | ⟨t, ht, hD⟩)
    · exact ⟨t, ht, Or.inl hF⟩
    · exact ⟨t, ht, Or.inr hD⟩

/-- What a stage drops, and what is dropped behind it. -/
theorem wp_stage (m k : M Unit) (F : Prop) (D : Sys → Prop) (s : Sys)
    (hm : wp m (fun _ _ => ¬ F) (Notifies F) s)
    (hk : ∀ t, wp k (fun _ _ => ¬ D t) (Notifies (D t)) t) :
    wp (m >>= fun _ => k) (fun _ _ => ¬ (F ∨ After m D s)) (Notifies (F ∨ After m D s)) s := by
  rw [wp_bind]
  cases hs : m s with
  | ok a t =>
    rw [wp_ok_iff _ _ s m a t hs] at hm ⊢
    have hsame : (F ∨ After m D s) = D t := by
      rw [after_of_ok m D s t hs]
      exact propext (or_iff_right hm)
    rw [hsame]
    exact hk t
  | error e t =>
    rw [wp_error_iff _ _ s m e t hs] at hm ⊢
    have hsame : (F ∨ After m D s) = F := propext (or_iff_left (not_after_of_error m D s t e hs))
    rw [hsame]
    exact hm

/-! ## Ways to drop a notification -/

section
variable (env : Env) (cfg : ClientConfig) (inp : Input)

/-- The answer to a signal is not sent. -/
def SignalFails : Prop :=
  (inp.sevSignal = .release ∧ SendFails env .xmitRelease) ∨ (inp.sevSignal = .renew ∧ SendFails env .frenew)

/-- The address is to be defended, and the announcement not sent. -/
def DefenseFails (s : Sys) : Prop :=
  (peers s).Conflicting cfg ∧ (peers s).Announces env ∧ FrameFails env .doDefense s

/-- The socket is not open in this mode, and sockd hands out none. -/
def Unopened (site : Site) (defense : Bool) (s : Sys) : Prop :=
  ¬ (0 ≤ s.cs.arpFd ∧ defense = s.cs.arpIsDefense) ∧ OpenFails env site

/-- The fingerprint is complete, and the socket cannot be opened for defense. -/
def LearnFails (s : Sys) : Prop :=
  gwUnknown s.cs ∧ (finger s).completes cfg = true ∧ Unopened env .gwQueryOpen true s

/-- A ping is due that would repeat a query, and not sent. -/
def RepeatFails (s : Sys) : Prop :=
  s.cs.sentGwQuery = true ∧ gwUnknown s.cs ∧ s.garp.gwPingStats.ts + ARP_RETRANS_DELAY ≤ inp.nowts ∧
    (PingFails env .gwQueryRouter s.cs.gotRouterArp s ∨ PingFails env .gwQueryServer s.cs.gotServerArp s)

/-- An ARP frame is handled, and answered by an error return. -/
def ArpFails (s : Sys) : Prop :=
  inp.sevArp = true ∧
    (Unchecking (DefenseFails env cfg) s ∨ After (boundDefense env cfg) (Unchecking (LearnFails env cfg)) s)

/-- The ARP timers are served, and answered by an error return. -/
def TimerFails (s : Sys) : Prop :=
  inp.arpTimeout = true ∧ After (boundAnnounce env inp) (Unchecking (RepeatFails env inp)) s

/-- `ifup_action` cannot begin a check, or the lease cannot be dropped. -/
def CarrierFails (s : Sys) : Prop :=
  (¬ Unchecked s.cs ∧ Unopened env .gwCheckOpen false s) ∨
    (Unchecked s.cs ∧ s.cs.ifDeconfig = false ∧ DeconfigFails env)

/-- A pass that begins in `s` drops the notification. -/
inductive Dropped (s : Sys) : Prop
  | signal (h : Unchecking (fun _ => SignalFails env inp) s)
  | arp (h : After (toDefense env cfg inp) (ArpFails env cfg inp) s)
  | timer (h : After (toTimers env cfg inp) (TimerFails env inp) s)
  | carrier (h : After (toIfup env cfg inp) (Unchecking (CarrierFails env)) s)

/-- The same, from stage to stage. -/
theorem dropped_iff (s : Sys) :
    Dropped env cfg inp s ↔ Unchecking (fun _ => SignalFails env inp) s ∨
      After (toDefense env cfg inp) (fun t => ArpFails env cfg inp t ∨
        After (boundArp env cfg inp) (fun u => TimerFails env inp u ∨
          After (boundArpTimeout env inp) (Unchecking (CarrierFails env)) u) t) s := by
  rw [after_or, ← after_bind]
  show _ ↔ _ ∨ _ ∨ After (toTimers env cfg inp) _ s
  rw [after_or, ← after_bind]
  show _ ↔ _ ∨ _ ∨ _ ∨ After (toIfup env cfg inp) _ s
  constructor
  · rintro (h | h | h | h)
    · exact Or.inl h
    · exact Or.inr (Or.inl h)
    · exact Or.inr (Or.inr (Or.inl h))
    · exact Or.inr (Or.inr (Or.inr h))
  · rintro (h | h | h | h)
    · exact .signal h
    · exact .arp h
    · exact .timer h
    · exact .carrier h

end

/-! ## Signals and packets -/

section
variable {α : Type} (env : Env) (cfg : ClientConfig) (inp : Input)

theorem Notifies.of_unreturned (F : Prop) (hF : ¬ F) (e : Stop) (t : Sys) (h : Unreturned e t) :
    Notifies F e t := by
  cases e with
  | ret code => exact absurd rfl (h code)
  | goto l => exact hF
  | exit => trivial

/-- A stage without an error return drops nothing. -/
theorem wp_unreturned (m : M α) [h : Leaves Unreturned m] (F : Prop) (hF : ¬ F) (s : Sys) :
    wp m (fun _ _ => ¬ F) (Notifies F) s :=
  wp_mono _ _ s _ _ _ (h.ends s trivial) (fun _ _ _ => hF) (fun e t => Notifies.of_unreturned F hF e t)

/-- A subroutine is called that has no error return of its own. -/
theorem wp_notifies_sub {β : Type} (m : M β) (k : β → M α) [Routine core Dies m]
    (Q : α → Sys → Prop) (F : Prop) (R : β → Sys → Prop) (E : Stop → Sys → Prop) (s : Sys) (hm : wp m R E s)
    (hk : ∀ b t, R b t → wp (k b) Q (Notifies F) t) : wp (m >>= k) Q (Notifies F) s := by
  rw [wp_bind]
  apply wp_mono _ _ s _ _ _ (wp_and _ _ s _ _ _ hm
    (Routine.ends (f := core) (X := Dies) (m := m) s)) (fun b t ht => hk b t ht.1)
  rintro e t ⟨-, rfl, -⟩
  trivial

omit env inp in
/-- An error return drops the notification if no check is going on. -/
theorem notifies_of_kept (F : Sys → Prop) (s t : Sys) (code : Int) (pc : Pc) (hF : F s)
    (hcheck : t.cs.checkFingerprint = s.cs.checkFingerprint) :
    Notifies (Unchecking F s) (.ret code) { t with pc := pc } := by
  show t.cs.checkFingerprint = true ↔ _
  rw [hcheck]
  constructor
  · rintro hyes ⟨-, hno⟩
    exact nomatch hyes.symm.trans hno
  · exact fun hno => Bool.eq_true_of_not_eq_false fun h => hno ⟨hF, h⟩

theorem boundSignal_notifies (s : Sys) :
    wp (boundSignal env inp) (fun _ _ => ¬ Unchecking (fun _ => SignalFails env inp) s)
      (Notifies (Unchecking (fun _ => SignalFails env inp) s)) s := by
  unfold boundSignal
  rw [wp_ite]
  split
  · next hsig =>
    apply wp_notifies_sub _ _ _ _ _ _ s (wp_and _ _ s _ _ _ (xmitRelease_returns env s)
      (xmitRelease_keeps alarms env s))
    rintro r t ⟨⟨-, ⟨hr, hsend⟩ | ⟨rfl, hsend⟩⟩, hkept⟩
    · rw [wp_ite, if_pos hr]
      exact notifies_of_kept _ s t COR_ERROR .bound (Or.inl ⟨hsig, hsend⟩)
        (congrArg Alarms.checkFingerprint (hkept.resolve_left hr))
    · rintro ⟨⟨-, hfails⟩ | ⟨hrenew, -⟩, -⟩
      · exact hsend hfails
      · exact nomatch hsig.symm.trans hrenew
  · next hrelease =>
    rw [wp_ite]
    split
    · next hsig =>
      apply wp_notifies_sub _ _ _ _ _ _ s (wp_and _ _ s _ _ _ (frenew_returns env s)
        (Routine.ends (f := alarms) (X := AnyWay) (m := frenew env true) s))
      rintro r t ⟨hr, hkept⟩
      rw [wp_ite]
      split
      · next hne =>
        exact notifies_of_kept _ s t COR_ERROR .bound (Or.inr ⟨hsig, hr.mp hne⟩)
          (congrArg Alarms.checkFingerprint hkept)
      · next hok =>
        rintro ⟨⟨hsig, -⟩ | ⟨-, hfails⟩, -⟩
        · exact hrelease hsig
        · exact hok (hr.mpr hfails)
    · next hrenew =>
      rintro ⟨⟨hsig, -⟩ | ⟨hsig, -⟩, -⟩
      · exact hrelease hsig
      · exact hrenew hsig

theorem toDefense_notifies (s : Sys) :
    wp (toDefense env cfg inp) (fun _ _ => ¬ Unchecking (fun _ => SignalFails env inp) s)
      (Notifies (Unchecking (fun _ => SignalFails env inp) s)) s := by
  unfold toDefense
  rw [wp_bind]
  apply wp_mono _ _ s _ _ _ (boundSignal_notifies env inp s) ?_ (fun _ _ h => h)
  exact fun _ t hno => wp_unreturned (boundDhcp env cfg inp) _ hno t

/-! ## Frames -/

theorem arpDoDefense_fails (s : Sys) :
    wp (arpDoDefense env cfg) (fun r t => (r = .fail ↔ DefenseFails env cfg s) ∧ (r = .fail →
      t.cs.checkFingerprint = s.cs.checkFingerprint)) (fun _ _ => True) s := by
  unfold arpDoDefense
  rw [wp_bind, wp_get, wp_ite]
  split
  · next hvalid => exact ⟨⟨nofun, fun h => absurd hvalid h.1⟩, nofun⟩
  · next hconf =>
    rw [wp_bind, wp_modify, wp_ite]
    split
    · next hann =>
      rw [wp_bind]
      apply wp_mono _ _ _ _ _ _ (arpAnnouncement_returns env .doDefense _) ?_ (fun _ _ h => h)
      rintro r t ⟨-, ⟨hr, hfails, ht⟩ | ⟨hr, hfails, -⟩⟩
      · rw [wp_ite, if_pos hr]
        exact ⟨⟨fun _ => ⟨hconf, hann, hfails⟩, fun _ => rfl⟩, fun _ => congrArg Alarms.checkFingerprint ht⟩
      · rw [wp_ite, if_neg hr]
        exact ⟨⟨nofun, fun h => absurd h.2.2 hfails⟩, nofun⟩
    · next hann =>
      rw [wp_ite]
      split
      · exact wp_bind_all _ _ _ _ _ (fun _ _ => ⟨⟨nofun, fun h => absurd h.2.1 hann⟩, nofun⟩) (fun _ _ => trivial)
      · exact ⟨⟨nofun, fun h => absurd h.2.1 hann⟩, nofun⟩

theorem boundDefense_notifies (s : Sys) :
    wp (boundDefense env cfg) (fun _ _ => ¬ Unchecking (DefenseFails env cfg) s)
      (Notifies (Unchecking (DefenseFails env cfg) s)) s := by
  unfold boundDefense
  apply wp_notifies_sub _ _ _ _ _ _ s (arpDoDefense_fails env cfg s)
  rintro r t ⟨hfails, hkept⟩
  have hdone : r ≠ .fail → ¬ Unchecking (DefenseFails env cfg) s := fun hr h => hr (hfails.mpr h.1)
  cases r with
  | ok => exact hdone nofun
  | free => trivial
  | conflict => exact wp_unreturned (restart env 0) _ (hdone nofun) t
  | fail => exact notifies_of_kept _ s t COR_ERROR .bound (hfails.mp rfl) (hkept rfl)

/-! ### Replies to a query -/

theorem arpOpenFd_unopened (site : Site) (defense : Bool) (s : Sys) :
    wp (arpOpenFd env site defense)
      (fun r t => (r < 0 ↔ Unopened env site defense s) ∧ t.cs.checkFingerprint = s.cs.checkFingerprint)
      (fun _ _ => True) s := by
  have hkept := Routine.ends (f := alarms) (X := AnyWay) (m := arpOpenFd env site defense) s
  have hopens : wp (arpOpenFd env site defense) (fun r _ => r < 0 ↔ Unopened env site defense s)
      (fun _ _ => True) s := by
    unfold arpOpenFd
    rw [wp_bind, wp_get, wp_ite]
    split
    · next hopen => exact ⟨fun h => absurd h (by decide), fun h => absurd hopen h.1⟩
    · next hclosed =>
      apply wp_bind_all _ _ s _ _ _ (fun _ _ => trivial)
      intro _ t
      rw [wp_bind]
      cases hsock : env.sockd site with
      | none => trivial
      | some r =>
        show wp (if r.1 < 0 then pure (-1) else pure 0) _ _ _
        rw [wp_ite]
        split
        · next hr => exact ⟨fun _ => ⟨hclosed, r, hsock, hr⟩, fun _ => by decide⟩
        · next hr =>
          refine ⟨fun h => absurd h (by decide), fun ⟨_, r', hr', hneg⟩ => ?_⟩
          cases hsock.symm.trans hr'
          exact absurd hneg hr
  exact wp_mono _ _ s _ _ _ (wp_and _ _ s _ _ _ hopens hkept)
    (fun _ _ h => ⟨h.1, congrArg Alarms.checkFingerprint h.2⟩) (fun _ _ _ => trivial)

/-- A query that may be complete fails if it is and no socket is there. -/
def QueryEnds (done : Bool) (s : Sys) (r : Arpr) (t : Sys) : Prop :=
  (r = .fail ↔ done = true ∧ Unopened env .gwQueryOpen true s) ∧
    t.cs.checkFingerprint = s.cs.checkFingerprint

theorem gwQueryDone_ends (s : Sys) : wp (gwQueryDone env) (QueryEnds env true s) (fun _ _ => True) s := by
  unfold gwQueryDone
  rw [wp_bind, wp_modify, wp_bind]
  apply wp_mono _ _ _ _ _ _ (arpOpenFd_unopened env .gwQueryOpen true _) ?_ (fun _ _ h => h)
  rintro r t ⟨hr, hkept⟩
  rw [wp_ite]
  split
  · next hneg => exact ⟨⟨fun _ => ⟨rfl, hr.mp hneg⟩, fun _ => rfl⟩, hkept⟩
  · next hpos => exact ⟨⟨nofun, fun h => absurd (hr.mpr h.2) hpos⟩, hkept⟩

theorem gwQueryServer_ends (s : Sys) :
    wp (gwQueryServer env) (QueryEnds env s.cs.gotRouterArp s) (fun _ _ => True) s := by
  unfold gwQueryServer
  rw [wp_bind, wp_modify, wp_bind, wp_get, wp_ite]
  split
  · next hgot =>
    have hgot : s.cs.gotRouterArp = true := hgot
    rw [hgot]
    exact gwQueryDone_ends env _
  · next hgot =>
    have hgot : s.cs.gotRouterArp = false := Bool.eq_false_of_not_eq_true hgot
    rw [hgot]
    exact ⟨⟨nofun, fun h => nomatch h.1⟩, rfl⟩

theorem arpDoGwQuery_ends (s : Sys) :
    wp (arpDoGwQuery env cfg) (QueryEnds env ((finger s).completes cfg) s) (fun _ _ => True) s := by
  have hopen : QueryEnds env false s .ok s := ⟨⟨nofun, fun h => nomatch h.1⟩, rfl⟩
  apply wp_arpDoGwQuery
  · intro hrouter hserver
    have hdone : (finger s).completes cfg = false := by simp [Finger.completes, hrouter, hserver]
    rw [hdone]
    exact hopen
  · intro hrouter hserver
    have hdone : (finger s).completes cfg = true := by simp [Finger.completes, hrouter, hserver]
    rw [hdone]
    exact gwQueryServer_ends env _
  · intro hrouter hserver
    have hdone : (finger s).completes cfg = s.cs.gotServerArp := by simp [Finger.completes, hrouter, hserver]
    rw [hdone, wp_ite]
    split
    · next hgot =>
      rw [hgot]
      exact gwQueryDone_ends env _
    · next hgot =>
      rw [Bool.eq_false_of_not_eq_true hgot]
      exact hopen
  · intro hrouter hserver
    have hdone : (finger s).completes cfg = s.cs.gotRouterArp := by simp [Finger.completes, hrouter, hserver]
    rw [hdone]
    exact gwQueryServer_ends env s

theorem boundGwQuery_notifies (s : Sys) (hunknown : gwUnknown s.cs) :
    wp (boundGwQuery env cfg) (fun _ _ => ¬ Unchecking (LearnFails env cfg) s)
      (Notifies (Unchecking (LearnFails env cfg) s)) s := by
  unfold boundGwQuery
  apply wp_notifies_sub _ _ _ _ _ _ s (arpDoGwQuery_ends env cfg s)
  rintro r t ⟨hfails, hkept⟩
  have hdone : r ≠ .fail → ¬ Unchecking (LearnFails env cfg) s := fun hr h => hr (hfails.mpr h.1.2)
  cases r with
  | ok => exact hdone nofun
  | free => exact hdone nofun
  | conflict => trivial
  | fail => exact notifies_of_kept _ s t COR_ERROR .bound ⟨hunknown, hfails.mp rfl⟩ hkept

/-- A check that goes on still does, or it is over. -/
theorem boundGwCheck_notifies (s : Sys) (hcheck : s.cs.checkFingerprint = true) (F : Prop) (hF : ¬ F) :
    wp (boundGwCheck env cfg) (fun _ _ => ¬ F) (Notifies F) s := by
  unfold boundGwCheck
  apply wp_notifies_sub _ _ _ _ _ _ s (arpDoGwCheck_alarms env cfg s)
  rintro r t ⟨router, server, timer, stats, ht⟩
  have hkept : t.cs.checkFingerprint = true := (congrArg Alarms.checkFingerprint ht).trans hcheck
  cases r with
  | ok => exact hF
  | free => exact hF
  | conflict =>
    exact wp_unreturned (gwLost env) F hF t
  | fail => exact iff_of_true hkept hF

theorem boundArp_notifies (s : Sys) :
    wp (boundArp env cfg inp) (fun _ _ => ¬ ArpFails env cfg inp s) (Notifies (ArpFails env cfg inp s)) s := by
  unfold boundArp
  rw [wp_ite]
  split
  · next harp =>
    have hsame : ArpFails env cfg inp s = (Unchecking (DefenseFails env cfg) s ∨
        After (boundDefense env cfg) (Unchecking (LearnFails env cfg)) s) :=
      propext ⟨And.right, fun h => ⟨harp, h⟩⟩
    rw [hsame]
    apply wp_stage _ _ _ _ s (boundDefense_notifies env cfg s)
    intro t
    rw [wp_bind, wp_get, wp_ite]
    split
    · next hunknown => exact boundGwQuery_notifies env cfg t hunknown
    · next hknown =>
      have hno : ¬ Unchecking (LearnFails env cfg) t := fun h => hknown h.1.1
      rw [wp_ite]
      split
      · next hcheck => exact boundGwCheck_notifies env cfg t hcheck _ hno
      · exact hno
  · next harp => exact fun h => harp h.1

/-! ## Timers -/

theorem Repeats.checkFingerprint (s : Sys) (replied₁ replied₂ : Bool) (site₁ site₂ : Site) (put : Alarms → Alarms)
    (hput : ∀ a, (put a).checkFingerprint = a.checkFingerprint) (r : Arpr) (b : Alarms)
    (h : Repeats env s replied₁ replied₂ site₁ site₂ put r b) : b.checkFingerprint = s.cs.checkFingerprint := by
  obtain ⟨stats, -, rfl | rfl⟩ := h.eq
  · rfl
  · exact hput _

theorem QueryRepeats.fails (s : Sys) (r : Arpr) (b : Alarms) (h : QueryRepeats env inp.nowts s r b)
    (hsent : s.cs.sentGwQuery = true) (hunknown : gwUnknown s.cs) :
    (r = .fail ↔ RepeatFails env inp s) ∧ b.checkFingerprint = s.cs.checkFingerprint := by
  cases h with
  | early hearly => exact ⟨⟨nofun, fun h => absurd h.2.2.1 (Int.not_le.mpr hearly)⟩, rfl⟩
  | due hdue _ _ hb =>
    refine ⟨?_, hb.checkFingerprint env s _ _ _ _ Alarms.awaitQuery (fun _ => rfl) r b⟩
    cases hb with
    | unsent hfails => exact ⟨fun _ => ⟨hsent, hunknown, hdue, Or.inl hfails⟩, fun _ => rfl⟩
    | half hfails => exact ⟨fun _ => ⟨hsent, hunknown, hdue, Or.inr hfails⟩, fun _ => rfl⟩
    | sent h₁ h₂ => exact ⟨nofun, fun h => (h.2.2.2.elim h₁ h₂).elim⟩

theorem CheckRepeats.checkFingerprint (s : Sys) (r : Arpr) (b : Alarms) (h : CheckRepeats env inp.nowts s r b) :
    b.checkFingerprint = s.cs.checkFingerprint := by
  cases h with
  | unanswered => rfl
  | early => rfl
  | due _ _ _ _ hb => exact hb.checkFingerprint env s _ _ _ _ Alarms.awaitCheck (fun _ => rfl) r b

theorem boundGwTimeout_notifies (s : Sys) :
    wp (boundGwTimeout env inp) (fun _ _ => ¬ Unchecking (RepeatFails env inp) s)
      (Notifies (Unchecking (RepeatFails env inp) s)) s := by
  apply wp_boundGwTimeout
  · intro hunsent
    have hno : ¬ Unchecking (RepeatFails env inp) s := fun h => nomatch hunsent.symm.trans h.1.1
    exact wp_unreturned (arpQueryGatewayTimeout env inp.nowts >>= fun _ => pure ()) _ hno s
  · intro hsent hunknown
    apply wp_notifies_sub _ _ _ _ _ _ s (arpGwQueryTimeout_alarms env inp.nowts s)
    intro r t ht
    obtain ⟨hfails, hkept⟩ := ht.fails env inp s r _ hsent hunknown
    have hdone : r ≠ .fail → ¬ Unchecking (RepeatFails env inp) s := fun hr h => hr (hfails.mpr h.1)
    cases r with
    | ok => exact hdone nofun
    | free => trivial
    | conflict => trivial
    | fail => exact notifies_of_kept _ s t COR_ERROR .bound (hfails.mp rfl) hkept
  · intro _ hknown hcheck
    have hno : ¬ Unchecking (RepeatFails env inp) s := fun h => hknown h.1.2.1
    apply wp_notifies_sub _ _ _ _ _ _ s (arpGwCheckTimeout_alarms env inp.nowts s)
    intro r t ht
    have hkept : t.cs.checkFingerprint = true := (ht.checkFingerprint env inp s r _).trans hcheck
    cases r with
    | ok => exact hno
    | free => trivial
    | conflict => exact wp_unreturned (gwLost env) _ hno t
    | fail => exact iff_of_true hkept hno
  · exact fun _ hknown _ h => hknown h.1.2.1

theorem boundArpTimeout_notifies (s : Sys) :
    wp (boundArpTimeout env inp) (fun _ _ => ¬ TimerFails env inp s) (Notifies (TimerFails env inp s)) s := by
  unfold boundArpTimeout
  rw [wp_ite]
  split
  · next htimeout =>
    have hsame : TimerFails env inp s =
        (False ∨ After (boundAnnounce env inp) (Unchecking (RepeatFails env inp)) s) :=
      propext ⟨fun h => Or.inr h.2, fun h => ⟨htimeout, h.resolve_left id⟩⟩
    rw [hsame]
    exact wp_stage _ _ _ _ s (wp_unreturned (boundAnnounce env inp) False id s) (boundGwTimeout_notifies env inp)
  · next htimeout => exact fun h => htimeout h.1

/-! ## The carrier -/

/-- `arp_gw_check` has a check going on, unless it has no socket. -/
theorem arpGwCheck_starts (s : Sys) :
    wp (arpGwCheck env)
      (fun r t => (Unopened env .gwCheckOpen false s ∧ r < 0 ∧ t.cs.checkFingerprint = s.cs.checkFingerprint) ∨
        (¬ Unopened env .gwCheckOpen false s ∧ t.cs.checkFingerprint = true))
      (fun _ _ => True) s := by
  unfold arpGwCheck
  rw [wp_bind]
  apply wp_mono _ _ s _ _ _ (arpOpenFd_unopened env .gwCheckOpen false s) ?_ (fun _ _ h => h)
  rintro r t ⟨hr, hkept⟩
  rw [wp_ite]
  split
  · next hneg => exact Or.inl ⟨hr.mp hneg, by decide, hkept⟩
  · next hpos =>
    have hopen : ¬ Unopened env .gwCheckOpen false s := fun h => hpos (hr.mpr h)
    rw [wp_bind, wp_modify, wp_bind]
    apply wp_mono _ _ _ _ _ _ (gwCheckPings_alarms env _) ?_ (fun _ _ _ => trivial)
    rintro r u ⟨stats, router, hu, -⟩
    have hcheck : u.cs.checkFingerprint = true := congrArg Alarms.checkFingerprint hu
    rw [wp_ite]
    split
    · exact Or.inr ⟨hopen, hcheck⟩
    · exact Or.inr ⟨hopen, hcheck⟩

/-- How `ifup_action` returns. -/
def IfupEnds (s : Sys) : Ifup → Sys → Prop
  | .revalidate, t => ¬ Unchecked s.cs ∧ ¬ Unopened env .gwCheckOpen false s ∧ t.cs.checkFingerprint = true
  | .newlease, t => Unchecked s.cs ∧ t = s
  | .fail, t => ¬ Unchecked s.cs ∧
      ((Unopened env .gwCheckOpen false s ∧ t.cs.checkFingerprint = s.cs.checkFingerprint) ∨
        (¬ Unopened env .gwCheckOpen false s ∧ t.cs.checkFingerprint = true))

theorem ifupAction_ends (s : Sys) : wp (ifupAction env) (IfupEnds env s) (fun _ _ => True) s := by
  unfold ifupAction
  rw [wp_bind, wp_get, wp_ite]
  split
  · next hboth =>
    have hchecked : ¬ Unchecked s.cs := by
      rintro (h | h)
      · exact hboth.1 h
      · exact hboth.2 h
    rw [wp_ite]
    split
    · trivial
    · rw [wp_bind]
      apply wp_mono _ _ s _ _ _ (arpGwCheck_starts env s) ?_ (fun _ _ h => h)
      intro r t ht
      rw [wp_ite]
      split
      · next hpos =>
        rcases ht with ⟨-, hneg, -⟩ | ⟨hopen, hcheck⟩
        · exact absurd hneg (Int.not_lt.mpr hpos)
        · exact ⟨hchecked, hopen, hcheck⟩
      · exact ⟨hchecked, ht.imp_left fun h => ⟨h.1, h.2.2⟩⟩
  · next hnot =>
    refine ⟨?_, rfl⟩
    by_contra h
    exact hnot ⟨fun h0 => h (Or.inl h0), fun h0 => h (Or.inr h0)⟩

theorem ifchangeDeconfig_fails (s : Sys) :
    wp (ifchangeDeconfig env)
      (fun r t => (r < 0 ↔ s.cs.ifDeconfig = false ∧ DeconfigFails env) ∧
        t.cs.checkFingerprint = s.cs.checkFingerprint) (fun _ _ => True) s := by
  unfold ifchangeDeconfig
  rw [wp_bind, wp_get, wp_ite]
  split
  · next hdone => exact ⟨⟨fun h => absurd h (by decide), fun h => nomatch hdone.symm.trans h.1⟩, rfl⟩
  · next hconfig =>
    have hconfig : s.cs.ifDeconfig = false := Bool.eq_false_of_not_eq_true hconfig
    rw [wp_bind]
    cases hifch : env.ifch .deconfig with
    | none => trivial
    | some r =>
      show wp (if r < 0 then pure r else _) _ _ s
      rw [wp_ite]
      split
      · next hr => exact ⟨⟨fun _ => ⟨hconfig, r, hifch, hr⟩, fun _ => hr⟩, rfl⟩
      · next hr =>
        refine ⟨⟨fun h => absurd h hr, fun ⟨_, r', hr', hneg⟩ => ?_⟩, rfl⟩
        cases hifch.symm.trans hr'
        exact absurd hneg hr

theorem boundIfup_notifies (hforce : inp.forceFingerprint = true) (s : Sys) :
    wp (boundIfup env inp) (fun _ t => ¬ Unchecking (CarrierFails env) s ∧ t.cs.checkFingerprint = true)
      (Notifies (Unchecking (CarrierFails env) s)) s := by
  unfold boundIfup
  rw [wp_ite, if_pos hforce]
  apply wp_notifies_sub _ _ _ _ _ _ s (ifupAction_ends env s)
  intro r t ht
  cases r with
  | revalidate =>
    obtain ⟨hchecked, hopen, hcheck⟩ := ht
    exact ⟨fun h => h.1.elim (fun h => hopen h.2) (fun h => hchecked h.1), hcheck⟩
  | newlease =>
    obtain ⟨hunchecked, rfl⟩ := ht
    show wp (ifchangeDeconfig env >>= fun r => if r < 0 then scrReturn COR_ERROR .newlease else restart env 0) _ _ _
    rw [wp_bind]
    apply wp_mono _ _ _ _ _ _ (wp_and _ _ _ _ _ _ (ifchangeDeconfig_fails env _) (ifchangeDeconfig_returns env _))
    · rintro r u ⟨⟨hfails, hkept⟩, -⟩
      rw [wp_ite]
      split
      · next hneg => exact notifies_of_kept _ _ u COR_ERROR .newlease (Or.inr ⟨hunchecked, hfails.mp hneg⟩) hkept
      · next hpos =>
        apply wp_restart _ _ u env 0
        · exact fun _ _ h => h.1.elim (fun h => h.1 hunchecked) (fun h => hpos (hfails.mpr h.2))
        · exact fun _ _ => trivial
    · rintro e u ⟨-, rfl, -⟩
      trivial
  | fail =>
    obtain ⟨hchecked, ⟨hclosed, hkept⟩ | ⟨hopen, hcheck⟩⟩ := ht
    · exact notifies_of_kept _ s t COR_ERROR .bound (Or.inl ⟨hchecked, hclosed⟩) hkept
    · exact iff_of_true hcheck fun h => h.1.elim (fun h => hopen h.2) (fun h => hchecked h.1)

/-! ## A call -/

theorem boundPass_notifies (hforce : inp.forceFingerprint = true) (s : Sys) :
    wp (boundPass env cfg inp) (fun _ _ => True) (Notifies (Dropped env cfg inp s)) s := by
  have hdropped := propext (dropped_iff env cfg inp s)
  rw [hdropped]
  have hcarrier : ∀ t, wp (do boundIfup env inp; boundTimer env inp) (fun _ _ => ¬ Unchecking (CarrierFails env) t)
      (Notifies (Unchecking (CarrierFails env) t)) t := by
    intro t
    rw [wp_bind]
    apply wp_mono _ _ t _ _ _ (boundIfup_notifies env inp hforce t) ?_ (fun _ _ h => h)
    rintro _ u ⟨hno, hcheck⟩
    apply wp_mono _ _ u _ _ _ (Routine.ends (f := alarms) (X := OnReturn) (m := boundTimer env inp) u)
      (fun _ _ _ => hno)
    intro e v hv
    cases e with
    | ret code => exact iff_of_true ((congrArg Alarms.checkFingerprint (hv code rfl)).trans hcheck) hno
    | goto l => exact hno
    | exit => trivial
  have hstages := wp_stage (toDefense env cfg inp) (do
      boundArp env cfg inp
      boundArpTimeout env inp
      boundIfup env inp
      boundTimer env inp) _ _ s (toDefense_notifies env cfg inp s)
    fun t => wp_stage (boundArp env cfg inp) _ _ _ t (boundArp_notifies env cfg inp t)
      fun u => wp_stage (boundArpTimeout env inp) _ _ _ u (boundArpTimeout_notifies env inp u) hcarrier
  rw [wp_boundPass]
  rw [wp_bind] at hstages
  apply wp_mono _ _ s _ _ _ hstages ?_ (fun _ _ h => h)
  intro _ t ht
  rw [wp_bind] at ht
  exact wp_mono _ _ t _ _ _ ht (fun _ u hu => wp_mono _ _ u _ _ _ hu (fun _ _ _ => trivial) (fun _ _ h => h))
    (fun _ _ h => h)

theorem dhcpHandle_notifies (hforce : inp.forceFingerprint = true) (s : Sys) (hpc : s.pc = .bound) :
    (final (dhcpHandle env cfg inp) s).pc ≠ .dead →
      (((final (dhcpHandle env cfg inp) s).cs.checkFingerprint = true ∨
        ¬ InLease (final (dhcpHandle env cfg inp) s)) ↔ ¬ Dropped env cfg inp { s with out := [] }) := by
  apply final_of_wp (dhcpHandle env cfg inp) s fun t => t.pc ≠ .dead →
    ((t.cs.checkFingerprint = true ∨ ¬ InLease t) ↔ ¬ Dropped env cfg inp { s with out := [] })
  apply wp_mono _ _ s _ _ _ (wp_lease_call env cfg inp _ s hpc
    (boundPass_notifies env cfg inp hforce { s with out := [] })) (fun _ _ h => h.elim)
  rintro e t (⟨hin, ⟨code, rfl⟩, hret⟩ | ⟨hout, hdead | ⟨l, u, hgoto⟩⟩) hlive
  · exact ⟨fun h => hret.mp (h.resolve_right (not_not.mpr hin)), fun h => Or.inl (hret.mpr h)⟩
  · exact absurd hdead hlive
  · exact iff_of_true (Or.inr hout) hgoto

end

/-- sockd hands out no socket when the carrier returns. -/
def unopenedEnv : Env := { calmEnv with sockd := fun _ => some (-1, false) }

end Ndhc
