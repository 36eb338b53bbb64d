import XrplBridge.Protocol.ExactlyOnce
import XrplBridge.Protocol.Quorum

/-!
# Dishonest relayers

Some relayers may report what never happened on XRPL, in any order and together. As long
as fewer than the threshold of them do, this has no effect. The argument is the one of
quorums: the votes an evidence is acted on are as many as the threshold, by different
current relayers (`quorum_acts`), so that one of them is an honest relayer's, and that
relayer has submitted the evidence itself (`ballot_submitted`).

Nothing is assumed about what the honest relayers agree on, nor about who is honest after
a rotation: only, in each state, how many of its relayers are not.
-/

namespace XrplBridge

open Library Contract Std

variable {H : Host} {s : Storage} {w : World} {e : Evidence} {a : Addr}

/-- Fewer than the threshold of the relayers are not honest. -/
def FaultyMinority (honest : Addr → Prop) [DecidablePred honest] (s : Storage) : Prop :=
  ((s.config.relayers.map Relayer.cosmosAddress).filter fun a => ¬ honest a).length < s.config.evidenceThreshold

instance FaultyMinority.decidable (honest : Addr → Prop) [DecidablePred honest] (s : Storage) :
    Decidable (FaultyMinority honest s) :=
  inferInstanceAs (Decidable (_ < _))

/-! ### Who is on a ballot -/

theorem foldl_tally_submitted {xs : List (World × Call)} {voters : List Addr}
    (h : a ∈ xs.foldl (tally H e) voters) :
    a ∈ voters ∨ ∃ x ∈ xs, x.2.msg = .saveEvidence e ∧ x.2.sender = a := by
  induction xs generalizing voters with
  | nil => exact .inl h
  | cons x xs ih =>
    rcases ih h with hv | ⟨y, hy, hsub⟩
    · unfold tally at hv
      split_ifs at hv with hrot hmsg hr
      · simp at hv
      · simp at hv
      · rcases List.mem_append.mp hv with hv | hv
        · exact .inl hv
        · exact .inr ⟨x, List.mem_cons_self, hmsg, (List.mem_singleton.mp hv).symm⟩
      · exact .inl hv
    · exact .inr ⟨y, List.mem_cons_of_mem _ hy, hsub⟩

/-- Who is on the ballot of an evidence has submitted it, in a call that went through. -/
theorem ballot_submitted {calls : List Call} (h : a ∈ ballot H e w calls) :
    ∃ x ∈ history (step H) w calls, x.2.msg = .saveEvidence e ∧ x.2.sender = a :=
  (foldl_tally_submitted h).resolve_left List.not_mem_nil

theorem isRelayer_iff : isRelayer s a = true ↔ a ∈ s.config.relayers.map Relayer.cosmosAddress := by
  simp [isRelayer]

/-- What is acted on has been submitted by an honest relayer. -/
theorem reached_vouched (h : Started H w) {honest : Addr → Prop} [DecidablePred honest] {calls : List Call}
    (hfree : CollisionFree H (submitted calls)) {x : World × Call} (hx : x ∈ history (step H) w calls)
    (hmsg : x.2.msg = .saveEvidence e) (hr : x.1.store.reaches H e = true)
    (hminority : FaultyMinority honest x.1.store) :
    ∃ y ∈ history (step H) w calls, y.2.msg = .saveEvidence e ∧ honest y.2.sender := by
  obtain ⟨t, c⟩ := x
  obtain ⟨pre, post, ⟨w', r⟩, rfl, rfl, hstep⟩ := mem_history_iff.mp hx
  dsimp only at hmsg hr hminority
  have hsubmitted : ∀ e' ∈ submitted pre, e' ∈ submitted (pre ++ c :: post) := fun e' he' => by
    rw [submitted, List.filterMap_append]
    exact List.mem_append_left _ he'
  have hmem : e ∈ submitted (pre ++ c :: post) := by simp [submitted, hmsg]
  have hballot := run_ballot h hfree hmem pre hsubmitted
  have hpolled := (run_effect h hstep).polled
  rw [hmsg] at hpolled
  obtain ⟨s₁, hrel, hv, -⟩ := hpolled.vote
  rw [hr] at hv
  cases hv with
  | reached _ hc =>
    obtain ⟨hnodup, helect, hlen⟩ := ((run_quorum h pre).voters _).reached hrel hc
    obtain ⟨v, hv, hhonest⟩ := Ballot.exists_honest hnodup (fun v hv => isRelayer_iff.mp (helect v hv))
      (Nat.lt_of_lt_of_eq hminority hlen.symm)
    rcases List.mem_append.mp hv with hv | hv
    · rw [hballot] at hv
      obtain ⟨y, hy, hsub, rfl⟩ := ballot_submitted hv
      exact ⟨y, mem_history_append hy _, hsub, hhonest⟩
    · rw [List.mem_singleton.mp hv] at hhonest
      exact ⟨_, hx, hmsg, hhonest⟩

/-! ### What has been registered as executed -/

/-- A transaction that a call registers is the one of the evidence it acts on. -/
theorem Contract.Votes.registered_new {s₁ : Storage} {sender : Addr} {reached : Bool} {txHash : String}
    (h : Votes H s sender e s₁ reached) (hno : s.processedTxs.contains txHash = false)
    (hc : s₁.processedTxs.contains txHash = true) : reached = true ∧ e.getTxHash H = .ok txHash := by
  cases h with
  | collected =>
    rw [hno] at hc
    cases hc
  | reached _ _ hp =>
    refine ⟨rfl, ?_⟩
    obtain ⟨-, hm⟩ | ⟨t, -, ht, hm⟩ := markProcessed_eq_ok hp
    · rw [show _ = _ from hm, hno] at hc
      cases hc
    · rw [show _ = _ from hm, ExtTreeMap.contains_insert, hno, Bool.or_false, beq_iff_eq,
        LawfulEqCmp.compare_eq_iff_eq] at hc
      exact hc ▸ ht

/-- Only an evidence that is acted on registers a transaction. -/
theorem Polled.registered_new {s' : Storage} {sender : Addr} {msg : ExecuteMsg} {txHash : String}
    (h : Polled H s sender s' msg) (hno : s.processedTxs.contains txHash = false)
    (hc : s'.processedTxs.contains txHash = true) :
    ∃ e, msg = .saveEvidence e ∧ s.reaches H e = true ∧ e.getTxHash H = .ok txHash := by
  cases h with
  | kept _ hs =>
    rw [show s'.processedTxs = s.processedTxs from congrArg Polls.processedTxs hs, hno] at hc
    cases hc
  | @counted e s₁ reached _ hv _ hs =>
    rw [show s'.processedTxs = s₁.processedTxs from congrArg Polls.processedTxs hs] at hc
    obtain ⟨rfl, ht⟩ := hv.registered_new hno hc
    exact ⟨e, rfl, hv.reaches, ht⟩
  | @rotated e s₁ _ _ _ hv _ hs =>
    rw [show s'.processedTxs = s₁.processedTxs from congrArg Polls.processedTxs hs] at hc
    exact ⟨e, rfl, hv.reaches, (hv.registered_new hno hc).2⟩

/-- Every registered transaction is that of an evidence that was acted on. -/
theorem registered_acted (h : Started H w) (calls : List Call) {txHash : String}
    (hc : (run (step H) w calls).store.processedTxs.contains txHash = true) :
    ∃ x ∈ history (step H) w calls, ∃ e, x.2.msg = .saveEvidence e ∧ x.1.store.reaches H e = true ∧
      e.getTxHash H = .ok txHash := by
  refine run_induction (P := fun calls (w' : World) => w'.store.processedTxs.contains txHash = true →
    ∃ x ∈ history (step H) w calls, ∃ e, x.2.msg = .saveEvidence e ∧ x.1.store.reaches H e = true ∧
      e.getTxHash H = .ok txHash) ?_ ?_ ?_ calls hc
  · intro hc
    obtain ⟨_, _, -, -, -, -, hs⟩ := started_eq h
    rw [hs] at hc
    simp [initialStorage] at hc
  · intro calls c w' r ih hstep hc
    rw [history_snoc_ok hstep]
    cases hold : (run (step H) w calls).store.processedTxs.contains txHash with
    | true =>
      obtain ⟨x, hx, hacted⟩ := ih hold
      exact ⟨x, List.mem_append_left _ hx, hacted⟩
    | false =>
      exact ⟨_, List.mem_append_right _ (List.mem_singleton.mpr rfl),
        (run_effect h hstep).polled.registered_new hold hc⟩
  · intro calls c f ih hstep hc
    rw [history_snoc_error hstep]
    exact ih hc

/-- **A minority has no power.** Let no vote of an honest address go through for an evidence of
what did not happen, and let fewer than the threshold of the relayers be dishonest in every
state that a call of the run is made in. Then whoever submits an evidence of what did not
happen, nothing comes of it but the record of that vote; and every transaction that is
registered as executed is that of an evidence of what did happen. -/
theorem minority_powerless (h : Started H w) (honest : Addr → Prop) [DecidablePred honest]
    (happened : Evidence → Prop) (calls : List Call) (hfree : CollisionFree H (submitted calls))
    (hhonest : ∀ x ∈ history (step H) w calls, ∀ e, x.2.msg = .saveEvidence e → honest x.2.sender → happened e)
    (hminority : ∀ x ∈ history (step H) w calls, FaultyMinority honest x.1.store) :
    (∀ (pre post : List Call) (c : Call) (w' : World) (r : Response) (e : Evidence),
        calls = pre ++ c :: post → step H (run (step H) w pre) c = .ok (w', r) → c.msg = .saveEvidence e →
          ¬ happened e → r.messages = [] ∧
            w'.store = { (run (step H) w pre).store with
              txEvidences := (run (step H) w pre).store.txEvidences.insert (e.getHash H)
                ⟨(run (step H) w pre).store.voters (e.getHash H) ++ [c.sender]⟩ }) ∧
      ∀ txHash, (run (step H) w calls).store.processedTxs.contains txHash = true →
        ∃ e, happened e ∧ e.getTxHash H = .ok txHash := by
  have hacted : ∀ x ∈ history (step H) w calls, ∀ e, x.2.msg = .saveEvidence e →
      x.1.store.reaches H e = true → happened e := by
    intro x hx e hmsg hr
    obtain ⟨y, hy, hsub, hvouch⟩ := reached_vouched h hfree hx hmsg hr (hminority x hx)
    exact hhonest y hy e hsub hvouch
  refine ⟨fun pre post c w' r e hcalls hstep hmsg hno => ?_, fun txHash hc => ?_⟩
  · have hx : (run (step H) w pre, c) ∈ history (step H) w calls :=
      mem_history_iff.mpr ⟨pre, post, _, hcalls, rfl, hstep⟩
    have heff := run_effect h hstep
    rw [hmsg] at heff
    cases hr : (run (step H) w pre).store.reaches H e with
    | false => exact heff.collected hr
    | true => exact absurd (hacted _ hx e hmsg hr) hno
  · obtain ⟨x, hx, e, hmsg, hr, ht⟩ := registered_acted h calls hc
    exact ⟨e, hacted x hx e hmsg hr, ht⟩

/-- What did not happen: the allocation of the tickets has been rejected. -/
def Reference.rejection : Evidence :=
  .xrplTransactionResult ⟨some "cd34", some 1, none, .rejected, some (.ticketsAllocation none)⟩

open Reference in
/-- One of three relayers votes for a rejection of the allocation, which the others report. -/
theorem minority_powerless_allocation :
    let calls := [recover, vote 2 relayer₃ rejection, vote 3 relayer₁ allocation, vote 4 relayer₂ allocation]
    ∀ txHash, (run (step host) world₂ calls).store.processedTxs.contains txHash = true →
      ∃ e, e = allocation ∧ e.getTxHash host = .ok txHash := by
  intro calls
  have hstates : (history (step host) world₂ calls).all (fun x =>
      decide (FaultyMinority (· ≠ relayer₃.cosmosAddress) x.1.store)) = true := by decide +kernel
  have hhash : rejection.getHash host ≠ allocation.getHash host := by decide +kernel
  refine (minority_powerless started_world₂ (· ≠ relayer₃.cosmosAddress) (· = allocation) calls ?_ ?_ ?_).2
  · intro e he e' he' hee
    simp only [calls, submitted, recover, vote, call, List.filterMap_cons, List.filterMap_nil, List.mem_cons,
      List.not_mem_nil, or_false, or_self] at he he'
    rcases he with rfl | rfl <;> rcases he' with rfl | rfl
    · rfl
    · exact absurd hee hhash
    · exact absurd hee.symm hhash
    · rfl
  · intro x hx e hmsg hsender
    have hcall := mem_of_mem_history hx
    simp only [calls, List.mem_cons, List.not_mem_nil, or_false] at hcall
    rcases hcall with hcall | hcall | hcall | hcall <;> rw [hcall] at hmsg hsender
    · cases hmsg
    · exact absurd rfl hsender
    · exact (ExecuteMsg.saveEvidence.inj hmsg).symm
    · exact (ExecuteMsg.saveEvidence.inj hmsg).symm
  · intro x hx
    exact of_decide_eq_true (List.all_eq_true.mp hstates x hx)

end XrplBridge
