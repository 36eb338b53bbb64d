import XrplBridge.Protocol.Polls
import XrplBridge.Reference

/-!
# The quorum

The relayers are a valid set whatever rotations come into force, and every stored vote is
one of theirs (`Quorum`). What the store keeps for an evidence is exactly who has submitted
it since it was last executed and since the last rotation (`ballot`), as long as no two
evidences of the run share a hash. So a call that acts on an evidence is the vote that
completes a quorum of distinct relayers for that very evidence.
-/

namespace XrplBridge

open Library Contract Std

variable {H : Host} {s s' s₁ : Storage} {e : Evidence} {sender : Addr} {reached : Bool} {w : World}

/-- The relayers of a rotation that comes into force were checked when it was requested. -/
theorem Books.Created.rotation {msg : ExecuteMsg} {rs : List Relayer} {n : ℕ} (hc : s.books.Created)
    (h : rotation H s msg = some (rs, n)) : ValidRelayers rs n := by
  obtain ⟨c, hcomp, hc'⟩ := Option.bind_eq_some_iff.mp h
  obtain ⟨-, -, -, ho⟩ := completion_eq_some hcomp
  have hcreated := hc c.operationId c.operation.entry (by simp [ho])
  have htype : c.operation.entry.operationType = .rotateKeys rs n := (Completion.rotation_eq_some.mp hc').1
  generalize c.operation.entry = entry at hcreated htype
  cases hcreated with
  | onTicket hvalid => exact hvalid _ _ htype
  | onAccount => cases htype

/-! ### The stored votes -/

/-- The relayers are valid, and the stored votes are theirs. -/
structure Quorum (s : Storage) : Prop where
  relayers : ValidRelayers s.config.relayers s.config.evidenceThreshold
  votes : ∀ (hash : String) (es : Evidences), s.txEvidences[hash]? = some es →
    es.relayerCosmosAddresses ≠ [] ∧
      Ballot.Open (fun a => isRelayer s a = true) s.config.evidenceThreshold es.relayerCosmosAddresses

namespace Quorum

/-- The votes for one evidence. -/
theorem voters (h : Quorum s) (hash : String) :
    Ballot.Open (fun a => isRelayer s a = true) s.config.evidenceThreshold (s.voters hash) := by
  unfold Storage.voters
  cases hv : s.txEvidences[hash]? with
  | none => exact .nil h.relayers.pos
  | some es => exact (h.votes hash es hv).2

/-- Only the polls matter. -/
theorem congr (h : Quorum s) (hs : s'.polls = s.polls) : Quorum s' := by
  obtain ⟨h1, h2⟩ := h
  have hrel : s'.config.relayers = s.config.relayers := congrArg Polls.relayers hs
  have hthr : s'.config.evidenceThreshold = s.config.evidenceThreshold := congrArg Polls.evidenceThreshold hs
  have hev : s'.txEvidences = s.txEvidences := congrArg Polls.txEvidences hs
  refine ⟨by rwa [hrel, hthr], fun hash es hv => ?_⟩
  have := h2 hash es (hev ▸ hv)
  simpa only [isRelayer, hrel, hthr] using this

/-- A vote of a relayer keeps the quorum. -/
theorem castVote (h : Quorum s) (hr : isRelayer s sender = true) (hv : Votes H s sender e s₁ reached) :
    Quorum s₁ := by
  have hopen := h.voters (e.getHash H)
  cases hv with
  | collected _ hc =>
    refine ⟨h.relayers, fun hash es hes => ?_⟩
    rcases getElem?_of_insert hes with ⟨rfl, rfl⟩ | ⟨-, hold⟩
    · exact ⟨by simp, hopen.cast hr hc⟩
    · exact h.votes hash es hold
  | reached _ _ _ hrem hsing =>
    refine ⟨h.relayers, fun hash es hes => ?_⟩
    by_cases hnil : s.voters (e.getHash H) = []
    · exact h.votes hash es (hsing hnil ▸ hes)
    · exact h.votes hash es (getElem?_of_erase (hrem hnil ▸ hes)).2

theorem step {msg : ExecuteMsg} (h : Quorum s) (hc : s.books.Created) (hp : Polled H s sender s' msg) :
    Quorum s' := by
  cases hp with
  | kept _ hs => exact h.congr hs
  | counted hr hv _ hs => exact (h.castVote hr hv).congr hs
  | rotated hr hv hrot hs =>
    refine ⟨?_, fun hash es hes => ?_⟩
    · rw [show s'.config.relayers = _ from congrArg Polls.relayers hs,
        show s'.config.evidenceThreshold = _ from congrArg Polls.evidenceThreshold hs]
      exact hc.rotation hrot
    · rw [show s'.txEvidences = ∅ from congrArg Polls.txEvidences hs] at hes
      simp at hes

end Quorum

theorem run_quorum (h : Started H w) (calls : List Call) : Quorum (run (step H) w calls).store := by
  refine (run_storage (P := fun s => s.books.Created ∧ Quorum s) h ⟨run_created h [], ?_⟩ ?_ calls).2
  · obtain ⟨msg, m, hrel, -, -, -, hs⟩ := started_eq h
    rw [hs]
    exact ⟨hrel, fun hash es hes => by simp [initialStorage] at hes⟩
  · rintro s s' q env sender funds msg ms ⟨hc, hq⟩ he
    exact ⟨hc.step he.books, hq.step hc he.polled⟩

/-! ### Who has submitted an evidence -/

/-- The evidences submitted by some calls. -/
def submitted (calls : List Call) : List Evidence :=
  calls.filterMap fun c =>
    match c.msg with
    | .saveEvidence e => some e
    | _ => none

variable (H) in
/-- No two of the evidences share a hash. -/
def CollisionFree (es : List Evidence) : Prop :=
  ∀ e ∈ es, ∀ e' ∈ es, e.getHash H = e'.getHash H → e = e'

variable (H) in
/-- The voters for an evidence after one more call: a rotation that comes into force and
the execution of the evidence start over. -/
def tally (e : Evidence) (voters : List Addr) (x : World × Call) : List Addr :=
  if (rotation H x.1.store x.2.msg).isSome then []
  else if x.2.msg = .saveEvidence e then if x.1.store.reaches H e then [] else voters ++ [x.2.sender]
  else voters

variable (H) in
/-- Who has submitted an evidence since it was last executed and since the last rotation. -/
def ballot (e : Evidence) (w : World) (calls : List Call) : List Addr :=
  (history (step H) w calls).foldl (tally H e) []

/-- The stored votes follow the ballot. -/
theorem Polled.voters {es : List Evidence} {c : Call} (hfree : CollisionFree H es)
    (hsub : ∀ e', c.msg = .saveEvidence e' → e' ∈ es) (he : e ∈ es) (h : Polled H w.store c.sender s' c.msg) :
    s'.voters (e.getHash H) = tally H e (w.store.voters (e.getHash H)) (w, c) := by
  rw [h.votersAfter]
  unfold Storage.votersAfter tally
  cases hr : (rotation H w.store c.msg).isSome with
  | true => rfl
  | false =>
    simp only [Bool.false_eq_true, if_false]
    cases hmsg : c.msg with
    | saveEvidence e' =>
      by_cases hee : e' = e
      · subst hee
        rw [if_pos rfl]
        exact if_pos rfl
      · rw [if_neg fun hh => hee (ExecuteMsg.saveEvidence.inj hh)]
        exact if_neg fun hh => hee (hfree e' (hsub e' hmsg) e he hh)
    | _ => rfl

theorem ballot_snoc {calls : List Call} {c : Call} {w' : World} {r : Response}
    (hstep : step H (run (step H) w calls) c = .ok (w', r)) :
    ballot H e w (calls ++ [c]) = tally H e (ballot H e w calls) (run (step H) w calls, c) := by
  rw [ballot, history_snoc_ok hstep, List.foldl_append]
  rfl

/-- Along a run the stored votes are the ballot. -/
theorem run_ballot (h : Started H w) {es : List Evidence} (hfree : CollisionFree H es) (he : e ∈ es)
    (calls : List Call) (hsub : ∀ e' ∈ submitted calls, e' ∈ es) :
    (run (step H) w calls).store.voters (e.getHash H) = ballot H e w calls := by
  refine run_induction (P := fun calls (w' : World) => (∀ e' ∈ submitted calls, e' ∈ es) →
    w'.store.voters (e.getHash H) = ballot H e w calls) ?_ ?_ ?_ calls hsub
  · intro _
    obtain ⟨_, _, -, -, -, -, hs⟩ := started_eq h
    rw [hs]
    simp [Storage.voters, initialStorage, ballot, history]
  · intro calls c w' r ih hstep hsub
    rw [submitted, List.filterMap_append] at hsub
    have ih := ih fun e' he' => hsub e' (List.mem_append_left _ he')
    rw [ballot_snoc hstep, ← ih]
    refine (run_effect h hstep).polled.voters hfree (fun e' hmsg => ?_) he
    exact hsub e' (List.mem_append_right _ (by simp [hmsg]))
  · intro calls c f ih hstep hsub
    rw [submitted, List.filterMap_append] at hsub
    rw [ballot, history_snoc_error hstep]
    exact ih fun e' he' => hsub e' (List.mem_append_left _ he')

/-! ### A call that acts -/

/-- A vote that does not reach the threshold is stored, and nothing else. -/
theorem Contract.Effect.collected {q : Querier} {env : BlockInfo} {funds : List Coin} {ms : List SubMsg}
    (h : Effect H s q env sender funds (.saveEvidence e) s' ms) (hr : s.reaches H e = false) :
    ms = [] ∧ s' = { s with
      txEvidences := s.txEvidences.insert (e.getHash H) ⟨s.voters (e.getHash H) ++ [sender]⟩ } := by
  cases h with
  | voted _ hv =>
    cases hv with
    | collected => exact ⟨rfl, rfl⟩
  | receivedXRPL _ hv => rw [hv.reaches] at hr; cases hr
  | receivedCosmos _ hv => rw [hv.reaches] at hr; cases hr
  | completed _ _ hv => rw [hv.reaches] at hr; cases hr

/-- **A quorum for every act.** In every state the relayers are a valid set and the stored
votes are distinct votes of theirs, fewer than the threshold. A call that submits an evidence
and does more than to store its vote is the last of as many votes as the threshold, by
distinct current relayers, for this very evidence, since it was last executed and since the
last rotation. -/
theorem quorum_acts (h : Started H w) (calls : List Call) :
    let s := (run (step H) w calls).store
    ValidRelayers s.config.relayers s.config.evidenceThreshold ∧
      (∀ (hash : String) (es : Evidences), s.txEvidences[hash]? = some es →
        es.relayerCosmosAddresses ≠ [] ∧ es.relayerCosmosAddresses.Nodup ∧
          (∀ a ∈ es.relayerCosmosAddresses, isRelayer s a = true) ∧
            es.relayerCosmosAddresses.length < s.config.evidenceThreshold) ∧
      ∀ (c : Call) (w' : World) (r : Response) (e : Evidence),
        step H (run (step H) w calls) c = .ok (w', r) → c.msg = .saveEvidence e →
          CollisionFree H (submitted (calls ++ [c])) →
            r.messages ≠ [] ∨ w'.store ≠ { s with txEvidences := w'.store.txEvidences } →
              (ballot H e w calls ++ [c.sender]).Nodup ∧
                (∀ a ∈ ballot H e w calls ++ [c.sender], isRelayer s a = true) ∧
                  (ballot H e w calls ++ [c.sender]).length = s.config.evidenceThreshold := by
  have hq := run_quorum h calls
  refine ⟨hq.relayers, fun hash es hes => ?_, fun c w' r e hstep hmsg hfree hacts => ?_⟩
  · obtain ⟨hne, hopen⟩ := hq.votes hash es hes
    exact ⟨hne, hopen.nodup, hopen.elect, hopen.lt⟩
  · have heff := run_effect h hstep
    have hmem : e ∈ submitted (calls ++ [c]) := by simp [submitted, hmsg]
    have hballot := run_ballot h hfree hmem calls fun e' he' => by
      rw [submitted, List.filterMap_append]
      exact List.mem_append_left _ he'
    rw [hmsg] at heff
    cases hr : (run (step H) w calls).store.reaches H e with
    | false =>
      obtain ⟨hm, hs⟩ := heff.collected hr
      exact absurd hacts (not_or.mpr ⟨not_not.mpr hm, not_not.mpr (by rw [hs])⟩)
    | true =>
      obtain ⟨s₁, hrel, hv, -⟩ := heff.polled.vote
      rw [hr] at hv
      cases hv with
      | reached _ hc =>
        rw [← hballot]
        exact (hq.voters _).reached hrel hc

open Reference in
/-- The second of two votes ends the allocation. -/
theorem quorum_acts_allocation :
    (ballot host allocation world₂ [recover, vote 2 relayer₁ allocation] ++ [relayer₂.cosmosAddress]).length =
      (run (step host) world₂ [recover, vote 2 relayer₁ allocation]).store.config.evidenceThreshold := by
  obtain ⟨⟨w', r⟩, hstep⟩ := exists_of_isOk (x := step host
    (run (step host) world₂ [recover, vote 2 relayer₁ allocation]) (vote 3 relayer₂ allocation)) (by decide +kernel)
  refine ((quorum_acts started_world₂ _).2.2 _ w' r allocation hstep rfl ?_ (.inr fun hs => ?_)).2.2
  · intro e he e' he' _
    simp only [submitted, recover, vote, call, List.cons_append, List.nil_append, List.filterMap_cons,
      List.filterMap_nil, List.mem_cons, List.not_mem_nil, or_false, or_self] at he he'
    rw [he, he']
  · have hbefore : (run (step host) world₂ [recover, vote 2 relayer₁ allocation]).store.pendingTicketUpdate =
        true := by decide +kernel
    have hafter : (run (step host) world₂ ([recover, vote 2 relayer₁ allocation] ++
        [vote 3 relayer₂ allocation])).store.pendingTicketUpdate = false := by decide +kernel
    rw [run_snoc_ok hstep, hs] at hafter
    exact absurd (hbefore.symm.trans hafter) nofun

end XrplBridge
