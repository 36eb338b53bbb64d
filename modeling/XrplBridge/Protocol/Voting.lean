import XrplBridge.Protocol.Polls

/-!
# Votes that go through

When a relayer's evidence of a transaction result is accepted: the converse of what
`Effect` says of it. A vote that does not reach the threshold goes through whenever the
relayer has not cast it before and the operation is there; one that reaches it also needs
the end of the operation to go through.
-/

namespace XrplBridge

open Library Contract Std

variable {H : Host} {s s' s₁ : Storage} {q : Querier} {env : BlockInfo} {sender : Addr} {k : ℕ} {o : Operation}

/-- A vote of someone who has not voted yet goes through. -/
theorem handleEvidence_ok {e : Evidence} (hf : checkNotProcessed H s e = .ok ())
    (hv : sender ∉ s.voters (e.getHash H)) :
    ∃ s₁, handleEvidence H s sender e = .ok (s₁, s.reaches H e) := by
  have hmark : ∃ m, markProcessed H s e = .ok m := by
    unfold markProcessed
    split_ifs with hvalid
    · obtain ⟨t, ht, -⟩ := checkNotProcessed_eq_ok hf hvalid
      exact ⟨_, bind_eq_ok.mpr ⟨t, ht, rfl⟩⟩
    · exact ⟨_, rfl⟩
  obtain ⟨m, hm⟩ := hmark
  unfold handleEvidence
  by_cases ht : (s.voters (e.getHash H) ++ [sender]).length ≥ s.config.evidenceThreshold
  · have hr : s.reaches H e = true := decide_eq_true (by simpa using ht)
    rw [hr]
    simp only [if_pos ht]
    exact ⟨_, bind_eq_ok.mpr ⟨(), hf, bind_eq_ok.mpr ⟨(), failIf_eq_ok.mpr hv, bind_eq_ok.mpr ⟨m, hm, rfl⟩⟩⟩⟩
  · have hr : s.reaches H e = false := decide_eq_false (by simpa using ht)
    rw [hr]
    simp only [if_neg ht]
    exact ⟨_, bind_eq_ok.mpr ⟨(), hf, bind_eq_ok.mpr ⟨(), failIf_eq_ok.mpr hv, rfl⟩⟩⟩

/-- A vote for the result of a pending operation. -/
structure Votable (H : Host) (s : Storage) (sender : Addr) (e : ResultEvidence) (k : ℕ) (o : Operation) : Prop where
  relayer : isRelayer s sender = true
  valid : (Evidence.xrplTransactionResult e).validateBasic = .ok ()
  fresh : checkNotProcessed H s (.xrplTransactionResult e) = .ok ()
  new : sender ∉ s.voters ((Evidence.xrplTransactionResult e).getHash H)
  named : e.operationId = some k
  pending : s.pendingOperations[k]? = some o
  kind : checkSequenceKind o.operationType e = .ok ()

namespace Votable

variable {e : ResultEvidence}

/-- A vote goes through if the end of the operation does, once the threshold is reached. -/
theorem execute_ok {funds : List Coin} (h : Votable H s sender e k o)
    (hc : s.reaches H (.xrplTransactionResult e) = true →
      ∀ s₁ r, Votes H s sender (.xrplTransactionResult e) s₁ true →
        ∃ s' r' msgs, completeOperation H s₁ env e k o r = .ok (s', r', msgs)) :
    ∃ s' r, execute H s q env sender funds (.saveEvidence (.xrplTransactionResult e)) = .ok (s', r) := by
  obtain ⟨s₁, hs₁⟩ := handleEvidence_ok h.fresh h.new
  have hvotes := votes_of_ok hs₁
  obtain ⟨_, _, hframe⟩ := hvotes.frame
  have hpending : s₁.pendingOperations[k]? = some o := by rw [hframe]; exact h.pending
  have hexists : checkOperationExists s₁ k = .ok o := orFail_eq_ok.mpr hpending
  have hresult : ∀ r, ∃ s' r', saveResultEvidence H s₁ env e (s.reaches H (.xrplTransactionResult e)) r =
      .ok (s', r') := by
    intro r
    cases hr : s.reaches H (.xrplTransactionResult e) with
    | false =>
      exact ⟨_, _, bind_eq_ok.mpr ⟨k, unwrap_eq_ok.mpr h.named, bind_eq_ok.mpr ⟨o, hexists,
        bind_eq_ok.mpr ⟨(), h.kind, bind_eq_ok.mpr ⟨(s₁, r, []), rfl, rfl⟩⟩⟩⟩⟩
    | true =>
      rw [hr] at hvotes
      obtain ⟨s', r', msgs, hcomp⟩ := hc hr s₁ r hvotes
      exact ⟨_, _, bind_eq_ok.mpr ⟨k, unwrap_eq_ok.mpr h.named, bind_eq_ok.mpr ⟨o, hexists,
        bind_eq_ok.mpr ⟨(), h.kind, bind_eq_ok.mpr ⟨(s', r', msgs), hcomp, rfl⟩⟩⟩⟩⟩
  obtain ⟨s', r', hs'⟩ := hresult (Response.new.addAttributes
    [("action", ContractActions.saveEvidence.asStr), ("sender", sender)])
  exact ⟨s', r', bind_eq_ok.mpr ⟨(), checkAuthorization_relayer rfl h.relayer, bind_eq_ok.mpr ⟨(), h.valid,
    bind_eq_ok.mpr ⟨_, hs₁, hs'⟩⟩⟩⟩

end Votable

/-- A call without funds whose execution sends no messages goes through. -/
theorem step_ok {w : World} {c : Call} {r : Response}
    (h : execute H w.store (w.bank.credit c.funds).querier c.env c.sender c.funds c.msg = .ok (s', r))
    (hm : r.messages = []) : step H w c = .ok (⟨s', w.bank.credit c.funds⟩, r) := by
  refine bind_eq_ok.mpr ⟨(s', r), h, ?_⟩
  simp only [hm, dispatch]
  rfl

end XrplBridge
