import Ndhc.Client.Offers

/-!
# Whether a restart waits

`reinit_selecting(cs, t)` sets `dhcp_wake_ts` to `t` from now, and the coroutine goes on in SELECTING
within the same call.  The flag `dhcp_timeout` of that call was computed before: if the timer was
due, `selecting_timeout` sends a DISCOVER at once, however long the delay.  Later calls compare the
clock with the new `dhcp_wake_ts` and do wait (`restart_delay_iff`).
-/

namespace Ndhc

open Prog

/-! ## Statement -/

section
variable (env : Env) (cfg : ClientConfig) (inp : Input)

/-- The call runs `reinit_selecting(cs, t)` and comes to `reinit` in state `u`. -/
def Restarts (t : Int) (s u : Sys) : Prop :=
  resume env cfg inp s.pc { s with out := [] } = .error (.goto .reinit) u ∧
    ∃ w, reinitSelecting env t w = .ok () u

/-- `send_discover` succeeds. -/
def DiscoverSent : Prop := ∃ r, env.send .selectingTimeout = some r ∧ ¬ r < 0

end

section
variable (cfg : ClientConfig)

def Step.Restarts : Step → Sys → Prop
  | .handle env inp, s => ∃ u, resume env cfg inp s.pc { s with out := [] } = .error (.goto .reinit) u
  | _, _ => False

/-- The step sends no DISCOVER before `w`. -/
def Step.HoldsBack (w : Int) (st : Step) (s : Sys) : Prop :=
  match st with
  | .handle env _ => bidsOf DHCPDISCOVER (st.next cfg s) ≠ [] → w ≤ env.curms .selectingTimeout
  | _ => True

/-- Up to the next restart, which sets a time of its own, no step sends a DISCOVER before `w`. -/
def HeldBack (w : Int) : List Step → Sys → Prop
  | [], _ => True
  | st :: steps, s => st.Restarts cfg s ∨ (st.HoldsBack cfg w s ∧ HeldBack w steps (st.next cfg s))

end

/-! ## SELECTING -/

section
variable (env : Env) (cfg : ClientConfig) (inp : Input)

theorem onNoLease_done (s : Sys) :
    wp (onNoLease cfg) (fun _ t => scene t = scene s)
      (fun e t => e = .exit ∧ 2 ≤ s.cs.numDhcpRequests ∧ scene t = (quest s, s.out, .dead)) s := by
  unfold onNoLease
  rw [wp_bind, wp_get, wp_ite]
  split
  · next hmany =>
    rw [wp_ite]
    split
    · rfl
    · rw [wp_ite]
      split
      · exact ⟨rfl, hmany.2, rfl⟩
      · rfl
  · rfl

theorem freshXid_done (s : Sys) : wp (freshXid env) (fun _ t => scene t = scene s) (fun _ _ => False) s := by
  unfold freshXid
  rw [wp_bind, wp_get, wp_ite]
  split
  · rfl
  · rfl

/-- The timer sends a DISCOVER, or it leaves `dhcp_wake_ts` alone. -/
def SelectDone (s t : Sys) : Prop :=
  (inp.dhcpTimeout = true ∧ DiscoverSent env ∧ ∃ m : Sent, m.msgtype = DHCPDISCOVER ∧ t.out = s.out ++ [.dhcp m]) ∨
  (¬ (inp.dhcpTimeout = true ∧ DiscoverSent env) ∧ t.out = s.out ∧ t.cs.dhcpWakeTs = s.cs.dhcpWakeTs)

/-- How the timer ends a pass of SELECTING. -/
def SelectEnds (s : Sys) : Stop → Sys → Prop
  | .ret _, t => t.pc = .selecting ∧ SelectDone env inp s t
  | .goto _, _ => False
  | .exit, t => t.pc = .dead ∧ t.out = s.out ∧ (s.cs.numDhcpRequests < 2 → ¬ DiscoverSent env)

theorem selectingTimer_done (s : Sys) :
    wp (selectingTimer env cfg inp) (fun _ _ => False) (SelectEnds env inp s) s := by
  unfold selectingTimer
  rw [wp_ite]
  split
  · next htimeout =>
    unfold selectingTimeout
    rw [wp_bind, wp_bind]
    apply wp_mono _ _ s _ _ _ (onNoLease_done cfg s)
    · intro _ t ht
      rw [wp_bind]
      apply wp_mono _ _ t _ _ _ (freshXid_done env t) _ (fun _ _ h => h.elim)
      intro _ u hu
      have hscene : scene u = scene s := hu.trans ht
      have hout : u.out = s.out := congrArg (fun c => c.2.1) hscene
      have hwake : u.cs.dhcpWakeTs = s.cs.dhcpWakeTs := congrArg (fun c => c.1.dhcpWakeTs) hscene
      unfold sendDiscover sendDhcp
      rw [wp_bind, wp_bind, wp_get, wp_bind]
      cases hsend : env.send .selectingTimeout with
      | none =>
        refine ⟨rfl, hout, fun _ => ?_⟩
        rintro ⟨r, hr, -⟩
        cases hsend.symm.trans hr
      | some r =>
        show wp (if r < 0 then pure r else _) _ _ u
        rw [wp_ite]
        split
        · next hr =>
          show wp (if r < 0 then pure Sel.fail else _) _ _ u
          rw [if_pos hr]
          refine ⟨rfl, Or.inr ⟨?_, hout, hwake⟩⟩
          rintro ⟨-, r', hr', hpos⟩
          cases hsend.symm.trans hr'
          exact hpos hr
        · next hr =>
          show wp (if r < 0 then pure Sel.fail else _) _ _ _
          rw [if_neg hr]
          exact ⟨rfl, Or.inl ⟨htimeout, ⟨r, hsend, hr⟩, _, rfl, by rw [← hout]⟩⟩
    · rintro e t ⟨rfl, hmany, ht⟩
      refine ⟨congrArg (fun c => c.2.2) ht, congrArg (fun c => c.2.1) ht, fun hfew => ?_⟩
      omega
  · next htimeout => exact ⟨rfl, Or.inr ⟨fun h => htimeout h.1, rfl, rfl⟩⟩

theorem SelectDone.sends_iff (s t : Sys) (h : SelectDone env inp s t) (hs : bidsOf DHCPDISCOVER s = []) :
    bidsOf DHCPDISCOVER t ≠ [] ↔ inp.dhcpTimeout = true ∧ DiscoverSent env := by
  rcases h with ⟨htimeout, hsent, m, hm, hout⟩ | ⟨hno, hout, -⟩
  · refine iff_of_true ?_ ⟨htimeout, hsent⟩
    have hbid : (Effect.dhcp m).isBidOf DHCPDISCOVER = true := by
      simp [Effect.isBidOf, Effect.isBid, hm]
    rw [bidsOf, hout, List.filter_append, List.filter_singleton, hbid]
    exact List.append_ne_nil_of_right_ne_nil _ (List.cons_ne_nil _ _)
  · refine iff_of_false ?_ hno
    rw [bidsOf, hout]
    exact fun h => h hs

/-- A call that comes to SELECTING from `reinit`. -/
structure FreshlySelecting (s t : Sys) : Prop where
  sends : bidsOf DHCPDISCOVER t ≠ [] ↔ inp.dhcpTimeout = true ∧ inp.sevSignal ≠ .release ∧ DiscoverSent env
  pc : t.pc ≠ .init
  wake : t.pc = .selecting → bidsOf DHCPDISCOVER t = [] → t.cs.dhcpWakeTs = s.cs.dhcpWakeTs

/-- A release leaves nothing to send. -/
theorem freshlySelecting_released (s t : Sys) (hnone : bidsOf DHCPDISCOVER t = []) (hsig : inp.sevSignal = .release)
    (hpc : t.pc = .released ∨ t.pc = .dead) : FreshlySelecting env inp s t := by
  refine ⟨iff_of_false (fun hsent => hsent hnone) (fun hsent => hsent.2.1 hsig), ?_, fun hsel => ?_⟩
  · rcases hpc with hpc | hpc
    · rw [hpc]
      decide
    · rw [hpc]
      decide
  · rcases hpc with hpc | hpc
    · cases hpc.symm.trans hsel
    · cases hpc.symm.trans hsel

theorem follow_freshlySelecting (s : Sys) (hs : bidsOf DHCPDISCOVER s = []) (hnum : s.cs.numDhcpRequests = 0) :
    wp (follow env cfg inp 1 (target env cfg inp .reinit)) (fun _ _ => False)
      (fun _ t => FreshlySelecting env inp s t) s := by
  rw [wp_follow]
  show wp (selectingPass env cfg { inp with sevDhcp := false }) _ _ { s with cs.xid := env.random .reinit }
  have hs' : bidsOf DHCPDISCOVER { s with cs.xid := env.random .reinit } = [] := hs
  have hnum' : ({ s with cs.xid := env.random .reinit } : Sys).cs.numDhcpRequests = 0 := hnum
  have hwake : ({ s with cs.xid := env.random .reinit } : Sys).cs.dhcpWakeTs = s.cs.dhcpWakeTs := rfl
  generalize ({ s with cs.xid := env.random .reinit } : Sys) = u at hs' hnum' hwake
  unfold selectingPass
  by_cases hsig : inp.sevSignal = .release
  · rw [wp_bind]
    apply wp_mono _ _ u _ _ _ (onRelease_leaves { inp with sevDhcp := false } DHCPDISCOVER u hsig) (fun _ _ h => h.elim)
    rintro e t ⟨hbids, rfl | ⟨rfl, hdead⟩⟩
    · apply wp_mono _ _ t _ _ _ (follow_released env cfg inp DHCPDISCOVER [] 0 t (hbids.trans hs') hsig) (fun _ _ h => h)
      exact fun _ v hv => freshlySelecting_released env inp s v hv.1 hsig hv.2
    · exact freshlySelecting_released env inp s t (hbids.trans hs') hsig (Or.inr hdead)
  · rw [wp_bind_idle _ _ _ _ _ (onRelease_of_not { inp with sevDhcp := false } u hsig)]
    show wp (selectingTimer env cfg { inp with sevDhcp := false }) _ _ u
    apply wp_mono _ _ u _ _ _ (selectingTimer_done env cfg { inp with sevDhcp := false } u) (fun _ _ h => h)
    intro e v h
    match e, h with
    | .ret _, h =>
      have hiff := h.2.sends_iff env { inp with sevDhcp := false } u v hs'
      refine ⟨?_, ?_, fun _ hnone => ?_⟩
      · rw [hiff]
        exact ⟨fun h => ⟨h.1, hsig, h.2⟩, fun h => ⟨h.1, h.2.2⟩⟩
      · rw [h.1]
        decide
      · rcases h.2 with hsent | hquiet
        · exact absurd hnone (hiff.mpr ⟨hsent.1, hsent.2.1⟩)
        · exact hquiet.2.2.trans hwake
    | .exit, h =>
      have hnone : bidsOf DHCPDISCOVER v = [] := by
        rw [bidsOf, h.2.1]
        exact hs'
      refine ⟨iff_of_false (fun hsent => hsent hnone) ?_, ?_, fun hpc => ?_⟩
      · exact fun hsent => h.2.2 (by omega) hsent.2.2
      · rw [h.1]
        decide
      · cases h.1.symm.trans hpc

/-! ## A call that restarts -/

theorem follow_goto (n : Nat) (m : M Unit) (l : Label) (s t : Sys) (h : m s = .error (.goto l) t) :
    follow env cfg inp (n + 1) m s = follow env cfg inp n (target env cfg inp l) t := by
  simp only [follow, h]

theorem final_restart (s u : Sys) (h : resume env cfg inp s.pc { s with out := [] } = .error (.goto .reinit) u) :
    final (dhcpHandle env cfg inp) s = final (follow env cfg inp 1 (target env cfg inp .reinit)) u := by
  have hcall : dhcpHandle env cfg inp s = follow env cfg inp 2 (resume env cfg inp s.pc) { s with out := [] } := rfl
  unfold final
  rw [hcall, follow_goto env cfg inp 1 _ _ _ u h]

/-- No pass of SELECTING restarts. -/
theorem resume_selecting (s u : Sys) (hpc : s.pc = .init ∨ s.pc = .selecting) :
    resume env cfg inp s.pc { s with out := [] } ≠ .error (.goto .reinit) u := by
  have hends : ∃ c, wp (resume env cfg inp s.pc) (fun _ _ => False) (SelectingEnds inp c) { s with out := [] } := by
    rcases hpc with hpc | hpc
    · rw [show resume env cfg inp s.pc = reinitPass env cfg inp by rw [hpc]; rfl]
      exact ⟨_, selectingPass_ends env cfg inp { s with out := [], cs.xid := env.random .reinit }⟩
    · rw [show resume env cfg inp s.pc = selectingPass env cfg inp by rw [hpc]; rfl]
      exact ⟨_, selectingPass_ends env cfg inp { s with out := [] }⟩
  obtain ⟨c, hends⟩ := hends
  intro h
  rw [wp_error_iff _ _ _ _ _ _ h] at hends
  exact hends

/-- Only SELECTING sends a DISCOVER. -/
theorem resume_discovers (v : List Effect) (pc : Pc) (hinit : pc ≠ .init) (hsel : pc ≠ .selecting) :
    Keeps (bidsOf DHCPDISCOVER) v (resume env cfg inp pc) := by
  cases pc with
  | init => exact absurd rfl hinit
  | selecting => exact absurd rfl hsel
  | _ =>
    unfold resume
    infer_instance

theorem Restarts.freshlySelecting (t : Int) (s u : Sys) (h : Restarts env cfg inp t s u) :
    u.cs.dhcpWakeTs = env.curms .reinitSelecting + t ∧
      FreshlySelecting env inp u (final (dhcpHandle env cfg inp) s) := by
  obtain ⟨hjump, w, hw⟩ := h
  have hanew := reinitSelecting_anew env t w
  rw [wp_ok_iff _ _ _ _ _ _ hw] at hanew
  have hinit : s.pc ≠ .init := fun hpc => resume_selecting env cfg inp s u (Or.inl hpc) hjump
  have hsel : s.pc ≠ .selecting := fun hpc => resume_selecting env cfg inp s u (Or.inr hpc) hjump
  have := resume_discovers env cfg inp [] s.pc hinit hsel
  have hnone := Keeps.ends (bidsOf DHCPDISCOVER) [] (resume env cfg inp s.pc) { s with out := [] } rfl
  rw [wp_error_iff _ _ _ _ _ _ hjump] at hnone
  refine ⟨hanew.dhcpWakeTs, ?_⟩
  rw [final_restart env cfg inp s u hjump]
  apply final_of_wp _ u fun t => FreshlySelecting env inp u t
  exact wp_mono _ _ u _ _ _ (follow_freshlySelecting env cfg inp u hnone hanew.numDhcpRequests)
    (fun _ _ h => h.elim) (fun _ _ h => h)

/-! ## Later calls -/

/-- A call that does not restart sends a DISCOVER only in SELECTING and when its timer is due, and
only then may it move `dhcp_wake_ts` there. -/
structure LaterCall (s t : Sys) : Prop where
  pc : t.pc ≠ .init
  sends : bidsOf DHCPDISCOVER t ≠ [] → s.pc = .selecting ∧ inp.dhcpTimeout = true
  stays : t.pc = .selecting → s.pc = .selecting ∧ (t.cs.dhcpWakeTs = s.cs.dhcpWakeTs ∨ inp.dhcpTimeout = true)

theorem LaterCall.elsewhere (s t : Sys) (pc : Pc) (ht : t.pc = pc) (hinit : pc ≠ .init) (hsel : pc ≠ .selecting)
    (hnone : bidsOf DHCPDISCOVER t = []) : LaterCall inp s t := by
  refine ⟨?_, fun h => absurd hnone h, fun h => ?_⟩
  · rw [ht]
    exact hinit
  · exact absurd (ht.symm.trans h) hsel

/-- How a pass of SELECTING ends. -/
def SelectLeaves (s : Sys) : Stop → Sys → Prop
  | .ret _, t => t.pc = .selecting ∧ SelectDone env inp s t
  | .goto .released, t => inp.sevSignal = .release ∧ bidsOf DHCPDISCOVER t = bidsOf DHCPDISCOVER s
  | .goto .requesting, t => inp.sevSignal ≠ .release ∧ t.cs.numDhcpRequests = 0 ∧ t.out = s.out
  | .goto .reinit, _ => False
  | .exit, t => t.pc = .dead ∧ bidsOf DHCPDISCOVER t = bidsOf DHCPDISCOVER s

theorem selectingPass_leaves (s : Sys) :
    wp (selectingPass env cfg inp) (fun _ _ => False) (SelectLeaves env inp s) s := by
  unfold selectingPass
  by_cases hsig : inp.sevSignal = .release
  · rw [wp_bind]
    apply wp_mono _ _ s _ _ _ (onRelease_leaves inp DHCPDISCOVER s hsig) (fun _ _ h => h.elim)
    rintro e t ⟨hbids, rfl | ⟨rfl, hdead⟩⟩
    · exact ⟨hsig, hbids⟩
    · exact ⟨hdead, hbids⟩
  · rw [wp_bind_idle _ _ _ _ _ (onRelease_of_not inp s hsig)]
    have htimer : wp (selectingTimer env cfg inp) (fun _ _ => False) (SelectLeaves env inp s) s := by
      apply wp_mono _ _ s _ _ _ (selectingTimer_done env cfg inp s) (fun _ _ h => h)
      intro e u h
      match e, h with
      | .ret _, h => exact h
      | .exit, h => exact ⟨h.1, by rw [bidsOf, h.2.1]⟩
    unfold selectingDhcp
    rw [wp_bind, wp_ite]
    split
    · unfold selectingPacket selectingOffer
      rw [wp_bind, wp_bind, wp_get, wp_ite]
      split
      · split
        · exact htimer
        · exact ⟨hsig, rfl, rfl⟩
      · rw [wp_ite, if_neg (by simp)]
        exact htimer
    · exact htimer

theorem select_later (s : Sys) (hpc : s.pc = .selecting) : LaterCall inp s (final (dhcpHandle env cfg inp) s) := by
  apply final_of_wp (dhcpHandle env cfg inp) s fun t => LaterCall inp s t
  rw [wp_dhcpHandle env cfg inp _ _ s .selecting hpc, wp_follow]
  apply wp_mono _ _ _ _ _ _ (selectingPass_leaves env cfg inp { s with out := [] }) (fun _ _ h => h.elim)
  intro e t h
  match e, h with
  | .ret _, ⟨ht, hdone⟩ =>
    refine ⟨by rw [ht]; decide, fun hsent => ?_, fun _ => ⟨hpc, ?_⟩⟩
    · exact ⟨hpc, ((hdone.sends_iff env inp _ t rfl).mp hsent).1⟩
    · exact hdone.elim (fun h => Or.inr h.1) (fun h => Or.inl h.2.2)
  | .goto .released, ⟨hsig, hbids⟩ =>
    apply wp_mono _ _ t _ _ _ (follow_released env cfg inp DHCPDISCOVER [] 1 t hbids hsig) (fun _ _ h => h.elim)
    rintro _ u ⟨hnone, hu | hu⟩
    · exact .elsewhere inp s u .released hu (by decide) (by decide) hnone
    · exact .elsewhere inp s u .dead hu (by decide) (by decide) hnone
  | .goto .requesting, ⟨hsig, hnum, hout⟩ =>
    apply wp_mono _ _ t _ _ _ (follow_requesting env cfg inp 1 t hsig hnum) (fun _ _ h => h.elim)
    rintro _ u (⟨hu, hdone⟩ | ⟨hout', hu⟩)
    · apply LaterCall.elsewhere inp s u .requesting hu (by decide) (by decide)
      rcases hdone with ⟨-, -, hout', -⟩ | ⟨-, hout', -⟩
      · rw [bidsOf, hout', hout]
        rfl
      · rw [bidsOf, hout', hout]
        rfl
    · apply LaterCall.elsewhere inp s u .dead hu (by decide) (by decide)
      rw [bidsOf, hout', hout]
      rfl
  | .exit, ⟨hdead, hbids⟩ => exact .elsewhere inp s t .dead hdead (by decide) (by decide) hbids

theorem Goes.inQuest (s t : Sys) (h : Goes env cfg inp s t) : InQuest t := by
  cases h with
  | waits _ ht _ => exact Or.inl ht
  | acks _ h => exact Or.inr h.pc
  | conflicts _ ht _ _ _ => exact Or.inr ht
  | probes _ ht _ _ _ _ => exact Or.inr ht

/-- How a pass other than SELECTING ends. -/
def Elsewhere : Stop → Sys → Prop
  | .ret _, t => t.pc ≠ .init ∧ t.pc ≠ .selecting
  | .goto l, _ => l = .reinit ∨ (l = .released ∧ inp.sevSignal = .release)
  | .exit, t => t.pc = .dead

theorem Elsewhere.ret (code : Int) (t : Sys) (pc : Pc) (ht : t.pc = pc) (hinit : pc ≠ .init) (hsel : pc ≠ .selecting) :
    Elsewhere inp (.ret code) t := by
  subst ht
  exact ⟨hinit, hsel⟩

theorem elsewhere_of_quest (s : Sys) (e : Stop) (t : Sys)
    (h : (∃ code, e = .ret code ∧ Goes env cfg inp s t) ∨ QuestEnds inp s e t) : Elsewhere inp e t := by
  rcases h with ⟨code, rfl, hgoes⟩ | ⟨-, hends⟩
  · rcases hgoes.inQuest env cfg inp s t with ht | ht
    · exact .ret inp code t .requesting ht (by decide) (by decide)
    · exact .ret inp code t .probing ht (by decide) (by decide)
  · match e, hends with
    | .ret code, ht => exact .ret inp code t .bound ht (by decide) (by decide)
    | .goto _, hl => exact hl.imp_left And.left
    | .exit, ht => exact ht

theorem resume_elsewhere (s : Sys) (hinit : s.pc ≠ .init) (hsel : s.pc ≠ .selecting) :
    wp (resume env cfg inp s.pc) (fun _ _ => False) (Elsewhere inp) { s with out := [] } := by
  have hbound := boundPass_ends env cfg inp s { s with out := [] } rfl rfl
  have hrequesting := requestingPass_quest env cfg inp { s with out := [] }
  have hprobing := probingPass_quest env cfg inp { s with out := [] }
  have hpc : ({ s with out := [] } : Sys).pc = s.pc := rfl
  generalize ({ s with out := [] } : Sys) = u at *
  generalize s.pc = pc at *
  cases pc with
  | init => exact absurd rfl hinit
  | selecting => exact absurd rfl hsel
  | requesting => exact wp_mono _ _ u _ _ _ (hrequesting hpc) (fun _ _ h => h) (elsewhere_of_quest env cfg inp u)
  | probing => exact wp_mono _ _ u _ _ _ (hprobing hpc) (fun _ _ h => h) (elsewhere_of_quest env cfg inp u)
  | bound =>
    apply wp_mono _ _ u _ _ _ hbound (fun _ _ h => h)
    intro e t h
    match e, h with
    | .ret code, ⟨_, _, Or.inl ht⟩ => exact .ret inp code t .bound ht (by decide) (by decide)
    | .ret code, ⟨_, _, Or.inr ht⟩ => exact .ret inp code t .newlease ht.1 (by decide) (by decide)
    | .goto .reinit, _ => exact Or.inl rfl
    | .goto .released, h => exact Or.inr ⟨rfl, h.2.1⟩
    | .exit, h => exact h.2
  | newlease =>
    apply wp_restart_anew
    · exact fun _ _ => Or.inl rfl
    · exact fun t ht _ => ht
  | released =>
    apply wp_mono _ _ u _ _ _ (releasedPass_ends env inp u) (fun _ _ h => h)
    intro e t h
    match e, h with
    | .ret code, h => exact .ret inp code t .released (congrArg Core.pc h.1) (by decide) (by decide)
    | .goto .reinit, _ => exact Or.inl rfl
    | .exit, h => exact congrArg Core.pc h
  | dead => exact rfl

theorem elsewhere_later (s : Sys) (hinit : s.pc ≠ .init) (hsel : s.pc ≠ .selecting)
    (hno : ∀ u, resume env cfg inp s.pc { s with out := [] } ≠ .error (.goto .reinit) u) :
    LaterCall inp s (final (dhcpHandle env cfg inp) s) := by
  have := resume_discovers env cfg inp [] s.pc hinit hsel
  have hends := wp_and _ _ _ _ _ _ (resume_elsewhere env cfg inp s hinit hsel)
    (Keeps.ends (bidsOf DHCPDISCOVER) [] (resume env cfg inp s.pc) { s with out := [] } rfl)
  have hcall : dhcpHandle env cfg inp s = follow env cfg inp 2 (resume env cfg inp s.pc) { s with out := [] } := rfl
  cases hr : resume env cfg inp s.pc { s with out := [] } with
  | ok a t =>
    rw [wp_ok_iff _ _ _ _ _ _ hr] at hends
    exact hends.1.elim
  | error e t =>
    rw [wp_error_iff _ _ _ _ _ _ hr] at hends
    obtain ⟨hends, hnone⟩ := hends
    match e, hends with
    | .ret code, hends =>
      have hfinal : final (dhcpHandle env cfg inp) s = t := by
        unfold final
        simp only [hcall, follow, hr]
      rw [hfinal]
      exact .elsewhere inp s t t.pc rfl hends.1 hends.2 hnone
    | .goto _, Or.inl rfl => exact absurd hr (hno t)
    | .goto _, Or.inr ⟨rfl, hsig⟩ =>
      have hfinal : final (dhcpHandle env cfg inp) s = final (follow env cfg inp 1 (target env cfg inp .released)) t := by
        unfold final
        rw [hcall, follow_goto env cfg inp 1 _ _ _ t hr]
      rw [hfinal]
      apply final_of_wp _ t fun u => LaterCall inp s u
      apply wp_mono _ _ t _ _ _ (follow_released env cfg inp DHCPDISCOVER [] 1 t hnone hsig) (fun _ _ h => h.elim)
      rintro _ u ⟨hnone, hu | hu⟩
      · exact .elsewhere inp s u .released hu (by decide) (by decide) hnone
      · exact .elsewhere inp s u .dead hu (by decide) (by decide) hnone
    | .exit, hends =>
      have hfinal : final (dhcpHandle env cfg inp) s = t := by
        unfold final
        simp only [hcall, follow, hr]
      rw [hfinal]
      exact .elsewhere inp s t .dead hends (by decide) (by decide) hnone

end

/-! ## Runs -/

/-- Nothing is sent before `w`: the clock is past it, or it is `dhcp_wake_ts`. -/
structure Held (w now : Int) (s : Sys) : Prop where
  pc : s.pc ≠ .init
  wait : s.pc = .selecting → w ≤ now ∨ w ≤ s.cs.dhcpWakeTs

section
variable (cfg : ClientConfig) (w : Int)

theorem Held.next (st : Step) (steps : List Step) (now : Int) (s : Sys) (h : Held w now s)
    (htimely : Timely cfg (st :: steps) now s) (hno : ¬ st.Restarts cfg s) :
    st.HoldsBack cfg w s ∧ ∃ later, Held w later (st.next cfg s) ∧ Timely cfg steps later (st.next cfg s) := by
  rcases st.read_or_call with hread | ⟨env, inp, rfl⟩
  · obtain ⟨hquest, -, hpc⟩ := st.quest_of_read cfg s hread
    have hnext : Held w now (st.next cfg s) := by
      rcases hpc with hpc | hpc
      · refine ⟨hpc ▸ h.pc, fun hsel => ?_⟩
        rw [show (st.next cfg s).cs.dhcpWakeTs = s.cs.dhcpWakeTs from congrArg Quest.dhcpWakeTs hquest]
        exact h.wait (hpc.symm.trans hsel)
      · exact ⟨by rw [hpc]; decide, fun hsel => nomatch hpc.symm.trans hsel⟩
    cases st with
    | handle env inp => exact absurd rfl (hread env inp)
    | _ => exact ⟨trivial, now, hnext, htimely⟩
  · obtain ⟨hle, hclock, htimeout, hrest⟩ := htimely
    have hcall : LaterCall inp s ((Step.handle env inp).next cfg s) := by
      by_cases hsel : s.pc = .selecting
      · exact select_later env cfg inp s hsel
      · exact elsewhere_later env cfg inp s h.pc hsel fun u hu => hno ⟨u, hu⟩
    have hdue : s.pc = .selecting → inp.dhcpTimeout = true → w ≤ inp.nowts := by
      intro hsel hto
      have hwake : s.cs.dhcpWakeTs ≤ inp.nowts := of_decide_eq_true (htimeout.symm.trans hto)
      rcases h.wait hsel with hw | hw
      · exact hw.trans hle
      · exact hw.trans hwake
    refine ⟨fun hsent => ?_, inp.nowts, ⟨hcall.pc, fun hsel => ?_⟩, hrest⟩
    · obtain ⟨hsel, hto⟩ := hcall.sends hsent
      exact (hdue hsel hto).trans (hclock .selectingTimeout)
    · obtain ⟨hsel', hwake | hto⟩ := hcall.stays hsel
      · rw [hwake]
        exact (h.wait hsel').imp_left fun hw => hw.trans hle
      · exact Or.inl (hdue hsel' hto)

theorem heldBack_run (steps : List Step) (now : Int) (s : Sys) (h : Held w now s) (htimely : Timely cfg steps now s) :
    HeldBack cfg w steps s := by
  induction steps generalizing s now with
  | nil => trivial
  | cons st steps ih =>
    by_cases hno : st.Restarts cfg s
    · exact Or.inl hno
    · obtain ⟨hholds, later, hheld, hrest⟩ := h.next cfg w st steps now s htimely hno
      exact Or.inr ⟨hholds, ih later _ hheld hrest⟩

end

/-- **The restart delay is honoured**, in the call that restarts and in later ones up to the next
restart, exactly if the call does not send a DISCOVER of its own before the delay is over: its
timer was not due, or it released, or the send failed. -/
theorem restart_delay_iff (env : Env) (cfg : ClientConfig) (inp : Input) (t : Int) (s u : Sys)
    (h : Restarts env cfg inp t s u) :
    ((Step.handle env inp).HoldsBack cfg (env.curms .reinitSelecting + t) s ∧
      ∀ now steps, (∀ site, env.curms site ≤ now) → Timely cfg steps now ((Step.handle env inp).next cfg s) →
        HeldBack cfg (env.curms .reinitSelecting + t) steps ((Step.handle env inp).next cfg s)) ↔
      ¬ (inp.dhcpTimeout = true ∧ inp.sevSignal ≠ .release ∧ DiscoverSent env ∧
        env.curms .selectingTimeout < env.curms .reinitSelecting + t) := by
  obtain ⟨hwake, hfresh⟩ := h.freshlySelecting env cfg inp t s u
  constructor
  · rintro ⟨hholds, -⟩ ⟨hto, hsig, hsent, hearly⟩
    have hlate := hholds (hfresh.sends.mpr ⟨hto, hsig, hsent⟩)
    omega
  · intro hno
    have hholds : (Step.handle env inp).HoldsBack cfg (env.curms .reinitSelecting + t) s := by
      intro hsent
      obtain ⟨hto, hsig, hok⟩ := hfresh.sends.mp hsent
      exact Int.not_lt.mp fun hearly => hno ⟨hto, hsig, hok, hearly⟩
    refine ⟨hholds, fun now steps hafter htimely => heldBack_run cfg _ steps now _ ⟨hfresh.pc, fun hsel => ?_⟩ htimely⟩
    by_cases hnone : bidsOf DHCPDISCOVER (final (dhcpHandle env cfg inp) s) = []
    · right
      exact Int.le_of_eq (hwake.symm.trans (hfresh.wake hsel hnone).symm)
    · exact Or.inl ((hholds hnone).trans (hafter .selectingTimeout))

/-! ## A NAK with and without a timeout -/

/-- A lease at T1, renewed once: the timer is due again after 50 seconds. -/
def renewingState : Sys := run exampleConfig (boundRun ++ [requestAt 1800000]) exampleStart

def exampleNak : DhcpMsg := reply [0, 0, 0, 0] [53, 1, 6, 54, 4, 192, 168, 1, 1, 255] (by decide +kernel)

/-- A call at `t` that is handed the NAK, with the timeout as `do_ndhc_work` computes it. -/
def nakAt (t : Int) : Input := { quietInput t with
  sevDhcp := true, dhcpPacket := exampleNak, dhcpMsgtype := DHCPNAK, dhcpSrcaddr := 0xc0a80101,
  dhcpTimeout := decide (renewingState.cs.dhcpWakeTs ≤ t) }

/-- A program that is not left returns. -/
theorem ok_of_leftBy (m : M Unit) (s : Sys) (h : leftBy m s = none) : m s = .ok () (final m s) := by
  unfold leftBy at h
  unfold final
  cases hm : m s with
  | ok a t => rfl
  | error e t =>
    rw [hm] at h
    cases h

theorem nak_restarts (t : Int)
    (hjump : leftBy (boundPass (envAt t) exampleConfig (nakAt t)) { renewingState with out := [] } = some (.goto .reinit))
    (hret : leftBy (reinitSelecting (envAt t) 3000) { renewingState with out := [] } = none)
    (hsame : final (boundPass (envAt t) exampleConfig (nakAt t)) { renewingState with out := [] } =
      final (reinitSelecting (envAt t) 3000) { renewingState with out := [] }) :
    Restarts (envAt t) exampleConfig (nakAt t) 3000 renewingState
      (final (reinitSelecting (envAt t) 3000) { renewingState with out := [] }) := by
  refine ⟨?_, _, ok_of_leftBy _ _ hret⟩
  have hpc : resume (envAt t) exampleConfig (nakAt t) renewingState.pc = boundPass (envAt t) exampleConfig (nakAt t) := by
    rw [show renewingState.pc = .bound by decide +kernel]
    rfl
  rw [hpc, error_of_leftBy _ _ _ hjump, hsame]

/-- The NAK comes a second before the timer is due: nothing is sent for three seconds. -/
theorem early_nak_waits :
    (Step.handle (envAt 1849000) (nakAt 1849000)).HoldsBack exampleConfig 1852000 renewingState ∧
      ∀ now steps, (∀ site, (envAt 1849000).curms site ≤ now) →
        Timely exampleConfig steps now ((Step.handle (envAt 1849000) (nakAt 1849000)).next exampleConfig renewingState) →
        HeldBack exampleConfig 1852000 steps
          ((Step.handle (envAt 1849000) (nakAt 1849000)).next exampleConfig renewingState) := by
  apply (restart_delay_iff (envAt 1849000) exampleConfig (nakAt 1849000) 3000 renewingState _
    (nak_restarts 1849000 (by decide +kernel) (by decide +kernel) (by decide +kernel))).mpr
  intro h
  exact absurd h.1 (by decide +kernel)

/-- The NAK comes when the timer is due: the call sends a DISCOVER at once, three seconds early. -/
theorem due_nak_discovers :
    (nakAt 1850000).dhcpTimeout = true ∧
      Restarts (envAt 1850000) exampleConfig (nakAt 1850000) 3000 renewingState
        (final (reinitSelecting (envAt 1850000) 3000) { renewingState with out := [] }) ∧
      ¬ (Step.handle (envAt 1850000) (nakAt 1850000)).HoldsBack exampleConfig
        ((envAt 1850000).curms .reinitSelecting + 3000) renewingState := by
  refine ⟨by decide +kernel, nak_restarts 1850000 (by decide +kernel) (by decide +kernel) (by decide +kernel), ?_⟩
  intro h
  exact absurd (h (by decide +kernel)) (by decide)

end Ndhc
