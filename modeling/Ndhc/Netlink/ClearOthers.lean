import Ndhc.Netlink.Socket

/-!
# Which addresses remain

`ipbcpfx_clear_others` deletes from inside of the dump it reads.  Each deletion puts its
acknowledgement at the end of the queue and takes what is first there, which is the next part of the
dump as long as there is one: behind a part with `n` deletions the next `n` parts are lost
(`readParts`).  Nothing in them is deleted or recognised.  `only_wanted_remains_iff` is what
`perform_ip_subnet_bcast` has requested when it succeeds, told by the parts that are read.
-/

namespace Ndhc

open NlSocket

/-! ## Addresses -/

namespace IfAddr

/-- An IPv4 address of the interface. -/
def ours (ifindex : UInt32) (a : IfAddr) : Bool := a.index == ifindex && a.inet

/-- Address, prefix length and broadcast address are those requested. -/
def wanted (req : AddrRequest) (a : IfAddr) : Bool :=
  a.prefixlen == req.prefixlen && a.address == some req.ipaddr && a.broadcast == some req.bcast

/-- The request that it be deleted. -/
def deletion (a : IfAddr) : NlRequest :=
  .addr .deladdr a.permanent a.scopeUniverse a.address a.broadcast a.prefixlen

theorem ours_eq_false_iff (ifindex : UInt32) (a : IfAddr) :
    a.ours ifindex = false ↔ a.index ≠ ifindex ∨ a.inet = false := by
  rw [ours, Bool.and_eq_false_iff, beq_eq_false_iff_ne]

theorem same_eq (req : AddrRequest) (a : IfAddr) :
    a.same req = (a.permanent && a.scopeUniverse && a.wanted req) := by
  simp [same, wanted, Bool.and_assoc]

theorem deletion_inj (ifindex : UInt32) (a b : IfAddr) (ha : a.ours ifindex = true) (hb : b.ours ifindex = true)
    (h : a.deletion = b.deletion) : a = b := by
  cases a
  cases b
  simp_all [ours, deletion]

end IfAddr

/-- The request for the wanted address. -/
def AddrRequest.addition (req : AddrRequest) : NlRequest :=
  .addr .newaddr true true (some req.ipaddr) (some req.bcast) req.prefixlen

def NlBody.addr? : NlBody → Option IfAddr
  | .newaddr a => some a
  | _ => none

/-- The addresses in a part of the dump. -/
def NlPart.addrs (d : NlPart) : List IfAddr := d.bodies.filterMap NlBody.addr?

/-! ## Statement -/

section
variable (k : NlKernel) (ifindex : UInt32) (req : AddrRequest)

/-- Reading the address sends the request to delete it. -/
def deletes (a : IfAddr) : Bool :=
  a.ours ifindex && !a.same req && !(a.address.isNone && a.broadcast.isNone) && k.takes a.deletion

/-- The parts that are read; behind each as many are lost as it has deletions. -/
def readParts : List NlPart → List NlPart
  | [] => []
  | d :: parts => d :: readParts (parts.drop (d.addrs.countP (deletes k ifindex req)))
termination_by parts => parts.length
decreasing_by
  rw [List.length_drop, List.length_cons]
  omega

/-- The addresses that are read. -/
def readAddrs : List IfAddr := (readParts k ifindex req k.addrs.parts).flatMap NlPart.addrs

/-- All other addresses were to be deleted, the wanted one not, and it was to be added exactly if the
interface did not have it. -/
structure OnlyWanted (sent : List NlRequest) : Prop where
  others : ∀ a ∈ k.addrs.addrs, a.ours ifindex = true → a.wanted req = false → a.deletion ∈ sent
  kept : ∀ permanent scopeUniverse,
    .addr .deladdr permanent scopeUniverse (some req.ipaddr) (some req.bcast) req.prefixlen ∉ sent
  added : req.addition ∈ sent ↔ ¬ ∃ a ∈ k.addrs.addrs, a.ours ifindex = true ∧ a.wanted req = true

/-- The addresses that matter are among those read: the others, each with a deletion that is sent,
and the wanted one as a permanent address of universe scope. -/
structure ReadEnough : Prop where
  others : ∀ a ∈ k.addrs.addrs, a.ours ifindex = true → a.wanted req = false →
    a ∈ readAddrs k ifindex req ∧ deletes k ifindex req a = true
  kept : ∀ a ∈ readAddrs k ifindex req, a.wanted req = true → deletes k ifindex req a = false
  recognised : ∀ a ∈ k.addrs.addrs, a.ours ifindex = true → a.wanted req = true →
    ∃ b ∈ readAddrs k ifindex req, b.ours ifindex = true ∧ b.same req = true

end

/-- The request that the arguments of `perform_ip_subnet_bcast` make. -/
def requestOf (strIpaddr strSubnet : List UInt8) (strBcast : Option (List UInt8)) : Option AddrRequest :=
  (performIpSubnetBcast (fun _ req => (some req, 0)) none strIpaddr strSubnet strBcast).1

theorem performIpSubnetBcast_eq {τ : Type} (kernel : τ → AddrRequest → τ × Int) (u : τ)
    (strIpaddr strSubnet : List UInt8) (strBcast : Option (List UInt8)) :
    performIpSubnetBcast kernel u strIpaddr strSubnet strBcast =
      match requestOf strIpaddr strSubnet strBcast with
      | some req => kernel u req
      | none => (u, -99) := by
  unfold requestOf performIpSubnetBcast
  cases inetPton strIpaddr with
  | none => rfl
  | some ipaddr =>
    cases inetPton strSubnet with
    | none => rfl
    | some subnet =>
      cases strBcast with
      | none => rfl
      | some str => cases h : inetPton str <;> simp [h]

/-! ## Parts of a dump -/

/-- Addresses, and perhaps the end of the dump behind them. -/
def NlPart.Listing (d : NlPart) : Prop :=
  d.bodies = d.addrs.map .newaddr ∨ d.bodies = d.addrs.map .newaddr ++ [.done]

theorem filterMap_addr_newaddr (as : List IfAddr) : (as.map NlBody.newaddr).filterMap NlBody.addr? = as := by
  induction as with
  | nil => rfl
  | cons a as ih =>
    have ha : NlBody.addr? (.newaddr a) = some a := rfl
    rw [List.map_cons, List.filterMap_cons_some ha, ih]

theorem listing_of_flatMap (parts : List NlPart) (as : List IfAddr)
    (h : parts.flatMap NlPart.bodies = as.map .newaddr ++ [.done]) : ∀ d ∈ parts, d.Listing := by
  induction parts generalizing as with
  | nil => simp
  | cons d parts ih =>
    rw [List.flatMap_cons, List.append_eq_append_iff] at h
    -- the part ends before the end of the dump, or with it
    rcases h with ⟨c, hmap, hrest⟩ | ⟨c, hd, hc⟩
    · obtain ⟨as₁, as₂, rfl, h₁, rfl⟩ := List.map_eq_append_iff.mp hmap
      intro e he
      rcases List.mem_cons.mp he with rfl | he
      · left
        rw [NlPart.addrs, ← h₁, filterMap_addr_newaddr]
      · exact ih as₂ hrest e he
    · intro e he
      rcases c with _ | ⟨x, c⟩
      · rcases List.mem_cons.mp he with rfl | he
        · left
          rw [List.append_nil] at hd
          rw [NlPart.addrs, hd, filterMap_addr_newaddr]
        · exact ih [] (by simpa using hc.symm) e he
      · obtain ⟨rfl, hnil⟩ := List.cons.inj hc
        obtain ⟨rfl, hnone⟩ := List.append_eq_nil_iff.mp hnil.symm
        rcases List.mem_cons.mp he with rfl | he
        · right
          rw [NlPart.addrs, hd, List.filterMap_append, filterMap_addr_newaddr]
          simp [NlBody.addr?]
        · exact absurd (List.flatMap_eq_nil_iff.mp hnone e he) e.filled

/-! ## Reading the dump -/

/-- Datagrams that the loop with this sequence number only skips. -/
def Foreign (seq : Nat) (queue : List (Nat × NlPart)) : Prop := ∀ d ∈ queue, d.1 ≠ seq ∧ d.2.size ≤ nlbufSize

theorem size_ackPart_le (nlerr : Int) : (ackPart nlerr).size ≤ nlbufSize := by
  unfold ackPart nlbufSize
  simp only
  split <;> omega

section
variable (k : NlKernel) (ifindex : UInt32) (req : AddrRequest)

/-- An address that is read: the deletion, or nothing but a sequence number. -/
theorem clearOthersDo_fst (s : NlSocket) (b : Bool) (a : IfAddr) :
    ∃ seq', s.seq ≤ seq' ∧ (NlSocket.ipbcpfxClearOthersDo k ifindex req s b (.newaddr a)).1 =
      if deletes k ifindex req a then
        ⟨(s.queue ++ [(s.seq, ackPart (k.nlerr a.deletion))]).tail, seq', s.sent ++ [a.deletion]⟩
      else ⟨s.queue, seq', s.sent⟩ := by
  unfold NlSocket.ipbcpfxClearOthersDo deletes
  simp only [← IfAddr.ours_eq_false_iff]
  cases hours : a.ours ifindex with
  | false => exact ⟨s.seq, Nat.le_refl _, by simp⟩
  | true =>
    simp only [Bool.true_eq_false, if_false]
    cases hsame : a.same req with
    | true => exact ⟨s.seq, Nat.le_refl _, by simp⟩
    | false =>
      simp only [Bool.false_eq_true, if_false, NlSocket.rtnlAddrBroadcastSend]
      cases hnone : a.address.isNone && a.broadcast.isNone with
      | true => exact ⟨s.seq, Nat.le_refl _, by simp⟩
      | false =>
        refine ⟨s.seq + 1, Nat.le_succ _, ?_⟩
        have hdel : NlRequest.addr .deladdr a.permanent a.scopeUniverse a.address a.broadcast a.prefixlen =
          a.deletion := rfl
        simp only [Bool.false_eq_true, if_false, rtnlDoSend_fst, hdel, Bool.not_false, Bool.and_true,
          Bool.true_and]

theorem clearOthersDo_snd (s : NlSocket) (b : Bool) (a : IfAddr) :
    (NlSocket.ipbcpfxClearOthersDo k ifindex req s b (.newaddr a)).2 = (b || (a.ours ifindex && a.same req)) := by
  unfold NlSocket.ipbcpfxClearOthersDo
  simp only [← IfAddr.ours_eq_false_iff]
  cases hours : a.ours ifindex with
  | false => simp
  | true => cases hsame : a.same req <;> simp

/-- Whether the wanted address is recognised. -/
def recognised (as : List IfAddr) : Bool := as.any fun a => a.ours ifindex && a.same req

def deletions (as : List IfAddr) : List NlRequest := (as.filter (deletes k ifindex req)).map IfAddr.deletion

/-- The addresses of a part: each deletion puts a datagram behind the queue and takes one off it. -/
theorem foreach_newaddrs (seq : Nat) (as : List IfAddr) (tail : List NlBody) (htail : tail = [] ∨ tail = [.done])
    (s : NlSocket) (b : Bool) (hseq : seq < s.seq) :
    ∃ acks seq', Foreign seq acks ∧ acks.length = as.countP (deletes k ifindex req) ∧ seq < seq' ∧
      foreach (clearOthersPfn k ifindex req) (as.map .newaddr ++ tail) s b =
        (⟨(s.queue ++ acks).drop acks.length, seq', s.sent ++ deletions k ifindex req as⟩,
          some (b || recognised ifindex req as)) := by
  induction as generalizing s b with
  | nil =>
    refine ⟨[], s.seq, fun d hd => absurd hd List.not_mem_nil, rfl, hseq, ?_⟩
    rcases htail with rfl | rfl <;> simp [foreach, deletions, recognised]
  | cons a as ih =>
    obtain ⟨seq₁, hseq₁, hfst⟩ := clearOthersDo_fst k ifindex req s b a
    have hsnd := clearOthersDo_snd k ifindex req s b a
    have hrun : foreach (clearOthersPfn k ifindex req) ((a :: as).map .newaddr ++ tail) s b =
        foreach (clearOthersPfn k ifindex req) (as.map .newaddr ++ tail)
          (NlSocket.ipbcpfxClearOthersDo k ifindex req s b (.newaddr a)).1
          (NlSocket.ipbcpfxClearOthersDo k ifindex req s b (.newaddr a)).2 := rfl
    rw [hrun, hfst, hsnd]
    cases hdel : deletes k ifindex req a with
    | true =>
      obtain ⟨acks, seq', hforeign, hlen, hseq', hrest⟩ :=
        ih ⟨(s.queue ++ [(s.seq, ackPart (k.nlerr a.deletion))]).tail, seq₁, s.sent ++ [a.deletion]⟩
          (b || (a.ours ifindex && a.same req)) (by simp only; omega)
      refine ⟨(s.seq, ackPart (k.nlerr a.deletion)) :: acks, seq', ?_, ?_, hseq', ?_⟩
      · intro d hd
        rcases List.mem_cons.mp hd with rfl | hd
        · exact ⟨by simp only; omega, size_ackPart_le _⟩
        · exact hforeign d hd
      · rw [List.length_cons, hlen, List.countP_cons_of_pos hdel]
      · have hqueue : ((s.queue ++ [(s.seq, ackPart (k.nlerr a.deletion))]).tail ++ acks).drop acks.length =
            (s.queue ++ (s.seq, ackPart (k.nlerr a.deletion)) :: acks).drop (acks.length + 1) := by
          rw [← List.drop_one, ← List.drop_append_of_le_length (by simp), List.drop_drop, List.append_assoc,
            Nat.add_comm 1]
          rfl
        simp only [if_true, hrest, hqueue, List.length_cons]
        simp [deletions, recognised, hdel, Bool.or_assoc]
    | false =>
      obtain ⟨acks, seq', hforeign, hlen, hseq', hrest⟩ :=
        ih ⟨s.queue, seq₁, s.sent⟩ (b || (a.ours ifindex && a.same req)) (by simp only; omega)
      refine ⟨acks, seq', hforeign, ?_, hseq', ?_⟩
      · rw [hlen, List.countP_cons_of_neg (by simp [hdel])]
      · simp only [Bool.false_eq_true, if_false, hrest]
        simp [deletions, recognised, hdel, Bool.or_assoc]

/-- The loop over the parts that are left and the acknowledgements behind them. -/
theorem nlRead_parts (seq : Nat) (parts : List NlPart) (hparts : ∀ d ∈ parts, d.Listing)
    (acks : List (Nat × NlPart)) (hacks : Foreign seq acks) (s : NlSocket) (b : Bool) (hseq : seq < s.seq)
    (hq : s.queue = parts.map (fun d => (seq, d)) ++ acks) :
    ((NlSocket.nlRead (clearOthersPfn k ifindex req) seq s b).2 = .error (-2) ∧ ∃ d ∈ parts, nlbufSize < d.size) ∨
      ∃ seq', NlSocket.nlRead (clearOthersPfn k ifindex req) seq s b =
        (⟨[], seq', s.sent ++ deletions k ifindex req ((readParts k ifindex req parts).flatMap NlPart.addrs)⟩,
          .ok (b || recognised ifindex req ((readParts k ifindex req parts).flatMap NlPart.addrs))) := by
  induction hn : s.queue.length using Nat.strong_induction_on generalizing parts acks s b with
  | _ n ih =>
    cases parts with
    | nil =>
      rw [List.map_nil, List.nil_append] at hq
      cases acks with
      | nil =>
        right
        refine ⟨s.seq, ?_⟩
        rw [nlRead_nil _ _ _ _ hq, readParts]
        obtain ⟨queue, seq₁, sent⟩ := s
        simp only at hq
        simp [hq, deletions, recognised]
      | cons d acks =>
        obtain ⟨hd, hsize⟩ := hacks d List.mem_cons_self
        have hskip : NlSocket.nlRead (clearOthersPfn k ifindex req) seq s b =
            NlSocket.nlRead (clearOthersPfn k ifindex req) seq { s with queue := acks } b := by
          rw [nlRead_cons _ _ _ _ d acks hq, if_neg (Nat.not_lt.mpr hsize), foreachNlmsg, if_neg hd]
        rw [hskip]
        refine ih acks.length ?_ [] (by simp) acks (fun d hd => hacks d (List.mem_cons_of_mem _ hd))
          { s with queue := acks } b hseq rfl rfl
        rw [← hn, hq, List.length_cons]
        exact Nat.lt_succ_self _
    | cons d parts =>
      rw [List.map_cons, List.cons_append] at hq
      by_cases hsize : nlbufSize < d.size
      · left
        rw [nlRead_cons _ _ _ _ (seq, d) _ hq, if_pos hsize]
        exact ⟨rfl, d, List.mem_cons_self, hsize⟩
      · -- the part is read, and its deletions take the next ones off the queue
        obtain ⟨tail, htail, hbodies⟩ :
            ∃ tail, (tail = [] ∨ tail = [.done]) ∧ d.bodies = d.addrs.map .newaddr ++ tail := by
          rcases hparts d List.mem_cons_self with h | h
          · exact ⟨[], Or.inl rfl, by rw [List.append_nil]; exact h⟩
          · exact ⟨[.done], Or.inr rfl, h⟩
        obtain ⟨new, seq', hnew, hlen, hseq', hrun⟩ := foreach_newaddrs k ifindex req seq d.addrs tail htail
          { s with queue := parts.map (fun d => (seq, d)) ++ acks } b hseq
        have hstep : NlSocket.nlRead (clearOthersPfn k ifindex req) seq s b =
            NlSocket.nlRead (clearOthersPfn k ifindex req) seq
              ⟨(parts.map (fun d => (seq, d)) ++ acks ++ new).drop new.length, seq',
                s.sent ++ deletions k ifindex req d.addrs⟩ (b || recognised ifindex req d.addrs) := by
          rw [nlRead_cons _ _ _ _ (seq, d) _ hq, if_neg hsize, foreachNlmsg, if_pos rfl, hbodies, hrun]
        have hqueue : (parts.map (fun d => (seq, d)) ++ acks ++ new).drop new.length =
            (parts.drop new.length).map (fun d => (seq, d)) ++ (acks ++ new).drop (new.length - parts.length) := by
          rw [List.append_assoc, List.drop_append, List.map_drop, List.length_map]
        have hrest := ih _ ?_ (parts.drop new.length)
          (fun e he => hparts e (List.mem_cons_of_mem _ (List.mem_of_mem_drop he)))
          ((acks ++ new).drop (new.length - parts.length)) ?_
          ⟨(parts.map (fun d => (seq, d)) ++ acks ++ new).drop new.length, seq',
            s.sent ++ deletions k ifindex req d.addrs⟩ (b || recognised ifindex req d.addrs) hseq' hqueue rfl
        · rw [hstep]
          rcases hrest with ⟨herr, e, he, hbig⟩ | ⟨seq₂, hok⟩
          · exact Or.inl ⟨herr, e, List.mem_cons_of_mem _ (List.mem_of_mem_drop he), hbig⟩
          · right
            refine ⟨seq₂, ?_⟩
            rw [hok, readParts, ← hlen, List.flatMap_cons]
            simp [deletions, recognised, Bool.or_assoc]
        · rw [← hn, hq]
          simp only [List.length_drop, List.length_append, List.length_map, List.length_cons]
          omega
        · intro e he
          rcases List.mem_append.mp (List.mem_of_mem_drop he) with he | he
          · exact hacks e he
          · exact hnew e he

/-! ## What is sent -/

def NlRequest.isAddr : NlRequest → Bool
  | .addr .. => true
  | _ => false

theorem linkFlagsGet_sent (s : NlSocket) :
    ∃ links, (∀ r ∈ links, r.isAddr = false) ∧ (s.linkFlagsGet k ifindex).1.sent = s.sent ++ links := by
  unfold NlSocket.linkFlagsGet sendto
  cases k.takes .getlink with
  | false => exact ⟨[], by simp, by simp⟩
  | true =>
    refine ⟨[.getlink], by simp [NlRequest.isAddr], ?_⟩
    have hread := nlRead_sent (linkFlagsPfn ifindex) (fun _ _ _ => rfl) s.seq
      ⟨s.queue ++ k.links.map fun d => (s.seq, d), s.seq + 1, s.sent ++ [.getlink]⟩ none
    simp only [if_true]
    split
    all_goals next heq => rw [heq] at hread; exact hread

theorem linkSetFlags_sent (s : NlSocket) (flags : UInt32) :
    ∃ links, (∀ r ∈ links, r.isAddr = false) ∧ (s.linkSetFlags k ifindex flags).1.sent = s.sent ++ links := by
  obtain ⟨links, hlinks, hsent⟩ := linkFlagsGet_sent k ifindex s
  unfold NlSocket.linkSetFlags
  generalize s.linkFlagsGet k ifindex = r at hsent
  obtain ⟨t, oldflags | oldflags⟩ := r
  · exact ⟨links, hlinks, hsent⟩
  · simp only at hsent ⊢
    split
    · exact ⟨links, hlinks, hsent⟩
    · rw [rtnlDoSend_fst, hsent]
      split
      · refine ⟨links ++ [.setlink (flags ||| oldflags)], ?_, by simp⟩
        intro r hr
        rcases List.mem_append.mp hr with hr | hr
        · exact hlinks r hr
        · rw [List.mem_singleton.mp hr]
          rfl
      · exact ⟨links, hlinks, rfl⟩

/-- The dump on a new socket. -/
theorem ipbcpfxClearOthers_fresh (seq : Nat) :
    ((fresh seq).ipbcpfxClearOthers k ifindex req).2 = -1 ∧ k.takes .getaddr = false ∨
      ((fresh seq).ipbcpfxClearOthers k ifindex req).2 = -2 ∧ (∃ d ∈ k.addrs.parts, nlbufSize < d.size) ∨
      ∃ seq', (fresh seq).ipbcpfxClearOthers k ifindex req =
        (⟨[], seq', .getaddr :: deletions k ifindex req (readAddrs k ifindex req)⟩,
          if recognised ifindex req (readAddrs k ifindex req) then 1 else 0) := by
  unfold NlSocket.ipbcpfxClearOthers sendto
  cases htakes : k.takes .getaddr with
  | false => exact Or.inl ⟨rfl, rfl⟩
  | true =>
    right
    have hparts := listing_of_flatMap k.addrs.parts k.addrs.addrs k.addrs.whole
    have hread := nlRead_parts k ifindex req seq k.addrs.parts hparts [] (fun d hd => absurd hd List.not_mem_nil)
      ⟨k.addrs.parts.map fun d => (seq, d), seq + 1, [.getaddr]⟩ false (Nat.lt_succ_self seq)
      (List.append_nil _).symm
    simp only [if_true, fresh, List.nil_append]
    rcases hread with ⟨herr, hbig⟩ | ⟨seq', hok⟩
    · left
      refine ⟨?_, hbig⟩
      generalize NlSocket.nlRead (clearOthersPfn k ifindex req) seq
        ⟨k.addrs.parts.map fun d => (seq, d), seq + 1, [.getaddr]⟩ false = r at herr
      obtain ⟨t, e⟩ := r
      obtain rfl : e = .error (-2) := herr
      rfl
    · right
      rw [Bool.false_or] at hok
      refine ⟨seq', ?_⟩
      rw [hok]
      rfl

theorem addUnlessOk_sent (s : NlSocket) (r : Int) (h : 0 ≤ (s.addUnlessOk k req r).2) :
    (s.addUnlessOk k req r).1.sent = s.sent ++ if r < 1 then [req.addition] else [] := by
  unfold NlSocket.addUnlessOk at h ⊢
  by_cases hr : r < 1
  · have hsend : NlSocket.rtnlAddrBroadcastSend k s .newaddr true true (some req.ipaddr) (some req.bcast)
        req.prefixlen = s.rtnlDoSend k req.addition := rfl
    rw [if_pos hr, hsend] at h
    rw [if_pos hr, if_pos hr, hsend, rtnlDoSend_fst]
    cases htakes : k.takes req.addition with
    | true => rfl
    | false =>
      have hret : (s.rtnlDoSend k req.addition).2 = -1 := by simp [NlSocket.rtnlDoSend, sendto, htakes]
      omega
  · rw [if_neg hr, if_neg hr, List.append_nil]

/-- What `perform_ip_subnet_bcast` sends when it succeeds. -/
theorem setAddress_sent (seq : Nat) (t : NlSocket) (h : k.setAddress ifindex (fresh seq) req = (t, 0)) :
    ∃ links, (∀ r ∈ links, r.isAddr = false) ∧
      t.sent = .getaddr :: deletions k ifindex req (readAddrs k ifindex req) ++
        (if recognised ifindex req (readAddrs k ifindex req) then [] else [req.addition]) ++ links := by
  unfold NlKernel.setAddress at h
  split at h
  · simp at h
  · rcases ipbcpfxClearOthers_fresh k ifindex req seq with ⟨hr, -⟩ | ⟨hr, -⟩ | ⟨seq', hclear⟩
    · simp [hr] at h
    · simp [hr] at h
    · rw [hclear] at h
      generalize hret : (if recognised ifindex req (readAddrs k ifindex req) then 1 else 0 : Int) = ret at h
      simp only at h
      split at h
      · simp at h
      · split at h
        · simp at h
        · next hadd =>
          -- the address was added if it had to be, and the link set up
          have hsent := addUnlessOk_sent k req _ _ (Int.not_lt.mp hadd)
          obtain ⟨links, hlinks, hlast⟩ := linkSetFlags_sent k ifindex
            (NlSocket.addUnlessOk k req ⟨[], seq', .getaddr :: deletions k ifindex req (readAddrs k ifindex req)⟩
              ret).1 (IFF_UP ||| IFF_RUNNING)
          refine ⟨links, hlinks, ?_⟩
          have ht := congrArg (fun r => r.1.sent) h
          simp only at ht
          rw [← ht, hlast, hsent, ← hret]
          cases recognised ifindex req (readAddrs k ifindex req) <;> rfl

theorem mem_deletions (as : List IfAddr) (a : IfAddr) (ha : a.ours ifindex = true) :
    a.deletion ∈ deletions k ifindex req as ↔ a ∈ as ∧ deletes k ifindex req a = true := by
  simp only [deletions, List.mem_map, List.mem_filter]
  constructor
  · rintro ⟨b, ⟨hb, hdel⟩, heq⟩
    have hours : b.ours ifindex = true := by
      simp only [deletes, Bool.and_eq_true] at hdel
      exact hdel.1.1.1
    obtain rfl := IfAddr.deletion_inj ifindex b a hours ha heq
    exact ⟨hb, hdel⟩
  · intro h
    exact ⟨a, h, rfl⟩

theorem readParts_subset (parts : List NlPart) : ∀ d ∈ readParts k ifindex req parts, d ∈ parts := by
  fun_induction readParts k ifindex req parts with
  | case1 => simp
  | case2 d parts ih =>
    intro e he
    rcases List.mem_cons.mp he with rfl | he
    · exact List.mem_cons_self
    · exact List.mem_cons_of_mem _ (List.mem_of_mem_drop (ih e he))

theorem mem_addrs_of_read (a : IfAddr) (ha : a ∈ readAddrs k ifindex req) : a ∈ k.addrs.addrs := by
  obtain ⟨d, hd, had⟩ := List.mem_flatMap.mp ha
  obtain ⟨body, hbody, hsome⟩ := List.mem_filterMap.mp had
  have hall : body ∈ k.addrs.parts.flatMap NlPart.bodies :=
    List.mem_flatMap.mpr ⟨d, readParts_subset k ifindex req _ d hd, hbody⟩
  rw [k.addrs.whole] at hall
  cases body with
  | newaddr b =>
    obtain rfl : b = a := Option.some.inj hsome
    simpa using hall
  | error nlerr => cases hsome
  | done => cases hsome
  | control => cases hsome
  | newlink index flags => cases hsome
  | other => cases hsome

section
variable {sent links : List NlRequest} (hlinks : ∀ r ∈ links, r.isAddr = false)
  (hsent : sent = .getaddr :: deletions k ifindex req (readAddrs k ifindex req) ++
    (if recognised ifindex req (readAddrs k ifindex req) then [] else [req.addition]) ++ links)

include hlinks hsent

theorem deladdr_mem_sent (p u : Bool) (i b : Option UInt32) (n : Nat) :
    .addr .deladdr p u i b n ∈ sent ↔
      .addr .deladdr p u i b n ∈ deletions k ifindex req (readAddrs k ifindex req) := by
  have hno : NlRequest.addr .deladdr p u i b n ∉ links := by
    intro h
    cases hlinks _ h
  rw [hsent]
  cases recognised ifindex req (readAddrs k ifindex req) <;> simp [hno, AddrRequest.addition]

theorem addition_mem_sent :
    req.addition ∈ sent ↔ recognised ifindex req (readAddrs k ifindex req) = false := by
  have hno : req.addition ∉ links := by
    intro h
    cases hlinks _ h
  have hdel : req.addition ∉ deletions k ifindex req (readAddrs k ifindex req) := by
    intro h
    obtain ⟨a, -, ha⟩ := List.mem_map.mp h
    cases ha
  have hget : req.addition ≠ .getaddr := by simp [AddrRequest.addition]
  rw [hsent]
  cases recognised ifindex req (readAddrs k ifindex req) <;> simp [hno, hdel, hget]

/-- What was sent is what had to be, if enough was read. -/
theorem onlyWanted_iff : OnlyWanted k ifindex req sent ↔ ReadEnough k ifindex req := by
  have hdel := deladdr_mem_sent k ifindex req hlinks hsent
  have hadd := addition_mem_sent k ifindex req hlinks hsent
  have hrec : recognised ifindex req (readAddrs k ifindex req) = true ↔
      ∃ b ∈ readAddrs k ifindex req, b.ours ifindex = true ∧ b.same req = true := by
    simp [recognised]
  constructor
  · intro h
    refine ⟨?_, ?_, ?_⟩
    · intro a ha hours hother
      exact (mem_deletions k ifindex req _ a hours).mp ((hdel _ _ _ _ _).mp (h.others a ha hours hother))
    · intro a ha hwanted
      by_contra hd
      rw [Bool.not_eq_false] at hd
      simp only [IfAddr.wanted, Bool.and_eq_true, beq_iff_eq] at hwanted
      apply h.kept a.permanent a.scopeUniverse
      rw [hdel, ← hwanted.1.1, ← hwanted.1.2, ← hwanted.2]
      exact List.mem_map.mpr ⟨a, List.mem_filter.mpr ⟨ha, hd⟩, rfl⟩
    · intro a ha hours hwanted
      rw [← hrec]
      by_contra hno
      rw [Bool.not_eq_true] at hno
      exact h.added.mp (hadd.mpr hno) ⟨a, ha, hours, hwanted⟩
  · intro h
    refine ⟨?_, ?_, ?_⟩
    · intro a ha hours hother
      exact (hdel _ _ _ _ _).mpr ((mem_deletions k ifindex req _ a hours).mpr (h.others a ha hours hother))
    · intro permanent scopeUniverse hmem
      obtain ⟨a, ha, heq⟩ := List.mem_map.mp ((hdel _ _ _ _ _).mp hmem)
      obtain ⟨haread, hd⟩ := List.mem_filter.mp ha
      simp only [IfAddr.deletion, NlRequest.addr.injEq] at heq
      have hwanted : a.wanted req = true := by simp [IfAddr.wanted, heq]
      rw [h.kept a haread hwanted] at hd
      cases hd
    · rw [hadd]
      constructor
      · rintro hno ⟨a, ha, hours, hwanted⟩
        rw [hrec.mpr (h.recognised a ha hours hwanted)] at hno
        cases hno
      · intro hnone
        by_contra hyes
        rw [Bool.not_eq_false] at hyes
        obtain ⟨b, hb, hours, hsame⟩ := hrec.mp hyes
        rw [IfAddr.same_eq, Bool.and_eq_true] at hsame
        exact hnone ⟨b, mem_addrs_of_read k ifindex req b hb, hours, hsame.2⟩

end

/-- **Only the wanted address remains exactly if enough of the dump is read.**  Whatever the kernel
lists and however it splits the list, a successful `perform_ip_subnet_bcast` has asked for the other
addresses to be deleted, not for the wanted one, and for that to be added exactly if it was missing,
if and only if those addresses are in parts that no deletion took off the queue. -/
theorem only_wanted_remains_iff (seq : Nat) (strIpaddr strSubnet : List UInt8) (strBcast : Option (List UInt8))
    (t : NlSocket)
    (h : performIpSubnetBcast (k.setAddress ifindex) (fresh seq) strIpaddr strSubnet strBcast = (t, 0)) :
    ∃ req, requestOf strIpaddr strSubnet strBcast = some req ∧
      (OnlyWanted k ifindex req t.sent ↔ ReadEnough k ifindex req) := by
  rw [performIpSubnetBcast_eq] at h
  cases hreq : requestOf strIpaddr strSubnet strBcast with
  | none => simp [hreq] at h
  | some req =>
    rw [hreq] at h
    obtain ⟨links, hlinks, hsent⟩ := setAddress_sent k ifindex req seq t h
    exact ⟨req, rfl, onlyWanted_iff k ifindex req hlinks hsent⟩

end

/-! ## Two dumps -/

theorem rtnlDoSend_alone (k : NlKernel) (s : NlSocket) (r : NlRequest) (hq : s.queue = [])
    (htakes : k.takes r = true) (herr : k.nlerr r = 0) : (s.rtnlDoSend k r).2 = 0 := by
  simp [NlSocket.rtnlDoSend, sendto, NlSocket.recvmsg, hq, htakes, herr, ackPart, responseSize]

def partOf (bodies : List NlBody) (h : bodies ≠ []) : NlPart where
  size := 64 * bodies.length
  bodies := bodies
  filled := h
  headers := by omega

/-- The interface is up. -/
def upLink : NlPart := partOf [.newlink 2 (IFF_UP ||| IFF_RUNNING)] (List.cons_ne_nil _ _)

/-- A kernel that takes and does everything, and an interface that is up. -/
def readyKernel (dump : AddrDump) : NlKernel where
  opens := true
  takes _ := true
  nlerr _ := 0
  addrs := dump
  links := [upLink]

theorem nlRead_upLink (seq seq' : Nat) (sent : List NlRequest) :
    NlSocket.nlRead (linkFlagsPfn 2) seq ⟨[(seq, upLink)], seq', sent⟩ none =
      (⟨[], seq', sent⟩, .ok (some (IFF_UP ||| IFF_RUNNING))) := by
  have hsize : ¬ nlbufSize < upLink.size := by decide
  rw [nlRead_cons _ _ _ _ _ _ rfl, if_neg hsize, foreachNlmsg, if_pos rfl]
  exact nlRead_nil _ _ _ _ rfl

theorem linkSetFlags_ready (dump : AddrDump) (s : NlSocket) (hq : s.queue = []) :
    (s.linkSetFlags (readyKernel dump) 2 (IFF_UP ||| IFF_RUNNING)).2 = 1 := by
  have hget : (s.linkFlagsGet (readyKernel dump) 2).2 = .ok (IFF_UP ||| IFF_RUNNING) := by
    unfold NlSocket.linkFlagsGet sendto
    simp only [readyKernel, if_true, hq, List.nil_append, List.map_cons, List.map_nil, nlRead_upLink]
  unfold NlSocket.linkSetFlags
  generalize s.linkFlagsGet (readyKernel dump) 2 = r at hget
  obtain ⟨u, e⟩ := r
  obtain rfl : e = .ok (IFF_UP ||| IFF_RUNNING) := hget
  simp

theorem readyKernel_succeeds (dump : AddrDump) (hfit : ∀ d ∈ dump.parts, d.size ≤ nlbufSize) (seq : Nat)
    (req : AddrRequest) : ∃ t, (readyKernel dump).setAddress 2 (fresh seq) req = (t, 0) := by
  rcases ipbcpfxClearOthers_fresh (readyKernel dump) 2 req seq with ⟨-, hno⟩ | ⟨-, d, hd, hbig⟩ | ⟨seq', hclear⟩
  · cases hno
  · exact absurd (hfit d hd) (Nat.not_le.mpr hbig)
  · unfold NlKernel.setAddress
    rw [if_neg (by simp [readyKernel]), hclear]
    generalize hs : (⟨[], seq', .getaddr :: deletions (readyKernel dump) 2 req (readAddrs (readyKernel dump) 2 req)⟩ :
      NlSocket) = s
    have hq : s.queue = [] := by rw [← hs]
    cases recognised 2 req (readAddrs (readyKernel dump) 2 req) with
    | true =>
      have hadd : s.addUnlessOk (readyKernel dump) req 1 = (s, 1) := rfl
      have hlink := linkSetFlags_ready dump s hq
      exact ⟨_, by simp [hadd, hlink]; rfl⟩
    | false =>
      have hadd : s.addUnlessOk (readyKernel dump) req 0 = s.rtnlDoSend (readyKernel dump) req.addition := rfl
      have hret := rtnlDoSend_alone (readyKernel dump) s req.addition hq rfl rfl
      have hqueue : (s.rtnlDoSend (readyKernel dump) req.addition).1.queue = [] := by
        have htakes : (readyKernel dump).takes req.addition = true := rfl
        rw [rtnlDoSend_fst, if_pos htakes, hq]
        rfl
      have hlink := linkSetFlags_ready dump _ hqueue
      exact ⟨_, by simp [hadd, hret, hlink]; rfl⟩

/-- 10.0.0.`n`/24 on the interface. -/
def listedAddr (n : UInt32) : IfAddr where
  index := 2
  inet := true
  permanent := true
  scopeUniverse := true
  prefixlen := 24
  address := some (0x0a000000 + n)
  broadcast := some 0x0a0000ff

def oneAddr (a : IfAddr) : AddrDump where
  addrs := [a]
  parts := [partOf [.newaddr a, .done] (List.cons_ne_nil _ _)]
  whole := rfl

/-- Two addresses in a part each. -/
def twoAddrs (a b : IfAddr) : AddrDump where
  addrs := [a, b]
  parts := [partOf [.newaddr a] (List.cons_ne_nil _ _), partOf [.newaddr b, .done] (List.cons_ne_nil _ _)]
  whole := rfl

/-- The request of the arguments 10.0.0.2 and 255.255.255.0. -/
def exampleRequest : AddrRequest := ⟨0x0a000002, 24, 0x0a0000ff⟩

theorem requestOf_example :
    requestOf (Bytes.ascii "10.0.0.2") (Bytes.ascii "255.255.255.0") none = some exampleRequest := by decide +kernel

theorem perform_example (dump : AddrDump) (hfit : ∀ d ∈ dump.parts, d.size ≤ nlbufSize) :
    ∃ t, performIpSubnetBcast ((readyKernel dump).setAddress 2) (fresh 1) (Bytes.ascii "10.0.0.2")
      (Bytes.ascii "255.255.255.0") none = (t, 0) ∧
      (readyKernel dump).setAddress 2 (fresh 1) exampleRequest = (t, 0) := by
  obtain ⟨t, ht⟩ := readyKernel_succeeds dump hfit 1 exampleRequest
  refine ⟨t, ?_, ht⟩
  rw [performIpSubnetBcast_eq, requestOf_example]
  exact ht

theorem readAddrs_oneAddr (a : IfAddr) (req : AddrRequest) : readAddrs (readyKernel (oneAddr a)) 2 req = [a] := by
  simp [readAddrs, readParts, readyKernel, oneAddr, partOf, NlPart.addrs, NlBody.addr?]

/-- 10.0.0.3 in one datagram: it is deleted, and 10.0.0.2 added. -/
theorem one_part_cleared :
    ∃ t, performIpSubnetBcast ((readyKernel (oneAddr (listedAddr 3))).setAddress 2) (fresh 1)
      (Bytes.ascii "10.0.0.2") (Bytes.ascii "255.255.255.0") none = (t, 0) ∧
      OnlyWanted (readyKernel (oneAddr (listedAddr 3))) 2 exampleRequest t.sent := by
  obtain ⟨t, ht, -⟩ := perform_example (oneAddr (listedAddr 3)) (by simp [oneAddr, partOf, nlbufSize])
  obtain ⟨req, hreq, hiff⟩ := only_wanted_remains_iff _ 2 1 _ _ _ t ht
  rw [requestOf_example] at hreq
  obtain rfl := Option.some.inj hreq
  refine ⟨t, ht, hiff.mpr ⟨?_, ?_, ?_⟩⟩
  · intro a ha _ _
    obtain rfl := List.mem_singleton.mp ha
    rw [readAddrs_oneAddr]
    exact ⟨List.mem_singleton_self _, by decide⟩
  · intro a ha hwanted
    rw [readAddrs_oneAddr] at ha
    obtain rfl := List.mem_singleton.mp ha
    exact absurd hwanted (by decide)
  · intro a ha _ hwanted
    obtain rfl := List.mem_singleton.mp ha
    exact absurd hwanted (by decide)

theorem readAddrs_twoAddrs (a b : IfAddr) (req : AddrRequest)
    (hdel : deletes (readyKernel (twoAddrs a b)) 2 req a = true) :
    readAddrs (readyKernel (twoAddrs a b)) 2 req = [a] := by
  have haddrs : (partOf [.newaddr a] (List.cons_ne_nil _ _)).addrs = [a] := rfl
  have hparts : (readyKernel (twoAddrs a b)).addrs.parts =
      [partOf [.newaddr a] (List.cons_ne_nil _ _), partOf [.newaddr b, .done] (List.cons_ne_nil _ _)] := rfl
  rw [readAddrs, hparts, readParts, haddrs, List.countP_cons_of_pos hdel, List.countP_nil]
  simp [readParts, haddrs]

/-- 10.0.0.3 and 10.0.0.4 in two datagrams: the deletion of the first loses the second. -/
theorem second_part_lost :
    ∃ t, performIpSubnetBcast ((readyKernel (twoAddrs (listedAddr 3) (listedAddr 4))).setAddress 2) (fresh 1)
      (Bytes.ascii "10.0.0.2") (Bytes.ascii "255.255.255.0") none = (t, 0) ∧
      listedAddr 4 ∈ (twoAddrs (listedAddr 3) (listedAddr 4)).addrs ∧ (listedAddr 4).ours 2 = true ∧
      (listedAddr 4).wanted exampleRequest = false ∧ (listedAddr 4).deletion ∉ t.sent := by
  obtain ⟨t, ht, hset⟩ :=
    perform_example (twoAddrs (listedAddr 3) (listedAddr 4)) (by simp [twoAddrs, partOf, nlbufSize])
  refine ⟨t, ht, by simp [twoAddrs], by decide, by decide, ?_⟩
  obtain ⟨links, hlinks, hsent⟩ := setAddress_sent _ 2 exampleRequest 1 t hset
  intro hmem
  rw [IfAddr.deletion, deladdr_mem_sent _ 2 exampleRequest hlinks hsent,
    readAddrs_twoAddrs (listedAddr 3) (listedAddr 4) exampleRequest (by decide)] at hmem
  obtain ⟨hread, -⟩ := (mem_deletions _ 2 exampleRequest _ (listedAddr 4) (by decide)).mp hmem
  have haddr := congrArg IfAddr.address (List.mem_singleton.mp hread)
  exact absurd haddr (by decide)

end Ndhc
