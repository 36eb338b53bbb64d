import XrplBridge.Protocol.Polls
import XrplBridge.Reference

/-!
# Every transaction is executed once

Votes are collected under the hash of the whole evidence, so that several evidences of one
transaction can be voted on at once; what is executed is registered under the hash of the
transaction, in upper case. A vote is refused once its transaction is registered, and the
vote that executes a transaction registers it: along a run each is executed at most once.
-/

namespace XrplBridge

open Library Contract Std

variable (H : Host)

/-- The call executes the transaction with the given hash, if it succeeds: it is the vote
that reaches the threshold, and the transaction was not invalid. -/
def executes (txHash : String) (s : Storage) (msg : ExecuteMsg) : Bool :=
  match msg with
  | .saveEvidence e => e.isOperationValid && e.txHash.map (toUppercase H) = some txHash && s.reaches H e
  | _ => false

/-- The calls of a run that execute the transaction. -/
def executions (txHash : String) (w : World) (calls : List Call) : List (World × Call) :=
  (history (step H) w calls).filter fun x => executes H txHash x.1.store x.2.msg

variable {H} {s s' s₁ : Storage} {e : Evidence} {sender : Addr} {reached : Bool} {txHash : String} {w : World}

theorem getTxHash_eq_ok : e.getTxHash H = .ok txHash ↔ e.txHash.map (toUppercase H) = some txHash := by
  simp only [Evidence.getTxHash, bind_eq_ok, unwrap_eq_ok, pure_eq_ok, Option.map_eq_some_iff]

/-- A vote is about a transaction that is not registered. -/
theorem Contract.Votes.fresh (h : Votes H s sender e s₁ reached) (hv : e.isOperationValid = true)
    (ht : e.getTxHash H = .ok txHash) : s.processedTxs.contains txHash = false := by
  have hf : checkNotProcessed H s e = .ok () := by cases h <;> assumption
  obtain ⟨t, ht', hc⟩ := checkNotProcessed_eq_ok hf hv
  rw [ht] at ht'
  cases ht'
  exact hc

/-- The vote that reaches the threshold registers its transaction. -/
theorem Contract.Votes.registers (h : Votes H s sender e s₁ true) (hv : e.isOperationValid = true)
    (ht : e.getTxHash H = .ok txHash) : s₁.processedTxs.contains txHash = true := by
  cases h with
  | reached _ _ hp =>
    obtain ⟨hn, -⟩ | ⟨t, -, ht', hm⟩ := markProcessed_eq_ok hp
    · rw [hv] at hn
      cases hn
    · rw [ht] at ht'
      cases ht'
      show ExtTreeMap.contains _ _ = true
      rw [hm, ExtTreeMap.contains_insert_self]

namespace Polled

variable {msg : ExecuteMsg}

/-- An execution is of a transaction that was not registered, and registers it. -/
theorem executes (h : Polled H s sender s' msg) (hx : executes H txHash s msg = true) :
    s.processedTxs.contains txHash = false ∧ s'.processedTxs.contains txHash = true := by
  cases msg with
  | saveEvidence e =>
    simp only [XrplBridge.executes, Bool.and_eq_true, decide_eq_true_eq, ← getTxHash_eq_ok] at hx
    obtain ⟨⟨hv, ht⟩, hr⟩ := hx
    obtain ⟨s₁, -, hvote, hs⟩ := h.vote
    rw [hr] at hvote
    exact ⟨hvote.fresh hv ht, hs ▸ hvote.registers hv ht⟩
  | _ => cases hx

end Polled

theorem executions_snoc {calls : List Call} {c : Call} {w' : World} {r : Response}
    (hstep : step H (run (step H) w calls) c = .ok (w', r)) :
    executions H txHash w (calls ++ [c]) = executions H txHash w calls ++
      if executes H txHash (run (step H) w calls).store c.msg then [(run (step H) w calls, c)] else [] := by
  rw [executions, history_snoc_ok hstep, List.filter_append, List.filter_singleton, Bool.cond_eq_ite]
  rfl

/-- What has been executed is registered, and nothing has been executed twice. -/
theorem executions_le (h : Started H w) (txHash : String) (calls : List Call) :
    (executions H txHash w calls).length ≤
      ((run (step H) w calls).store.processedTxs.contains txHash).toNat := by
  refine run_induction
    (P := fun calls (w' : World) =>
      (executions H txHash w calls).length ≤ (w'.store.processedTxs.contains txHash).toNat)
    (Nat.zero_le _) ?_ ?_ calls
  · intro calls c w' r ih hstep
    have hp := (run_effect h hstep).polled
    rw [executions_snoc hstep, List.length_append]
    split_ifs with hx
    · obtain ⟨hbefore, hafter⟩ := hp.executes hx
      rw [hbefore] at ih
      rw [hafter]
      simpa using ih
    · cases hc : (run (step H) w calls).store.processedTxs.contains txHash with
      | false =>
        rw [hc] at ih
        simp only [List.length_nil, Nat.add_zero]
        exact ih.trans (Nat.zero_le _)
      | true =>
        rw [hc] at ih
        rw [hp.registered hc]
        simpa using ih
  · intro calls c f ih hstep
    rwa [executions, history_snoc_error hstep]

/-- An evidence of a registered transaction is refused. -/
theorem saveEvidence_registered {q : Querier} {env : BlockInfo} (hc : s.processedTxs.contains txHash = true)
    (hv : e.isOperationValid = true) (ht : e.getTxHash H = .ok txHash) (hr : isRelayer s sender = true)
    (hb : e.validateBasic = .ok ()) :
    saveEvidence H s q env sender e = fail .operationAlreadyExecuted := by
  have hcheck : checkNotProcessed H s e = fail .operationAlreadyExecuted := by
    rw [checkNotProcessed, if_pos hv, ht]
    exact if_pos hc
  rw [saveEvidence, checkAuthorization_relayer rfl hr, hb, handleEvidence, hcheck]
  rfl

/-- **Every transaction is executed at most once**: of all calls of a run at most one
executes it, and once one has, every further evidence of it fails and changes nothing. -/
theorem executed_once (h : Started H w) (calls : List Call) (txHash : String) :
    (executions H txHash w calls).length ≤ 1 ∧
      (executions H txHash w calls ≠ [] →
        ∀ (c : Call) (e : Evidence), c.msg = .saveEvidence e → e.isOperationValid = true →
          e.getTxHash H = .ok txHash →
          (∃ f, step H (run (step H) w calls) c = .error f) ∧
            commit (step H) (run (step H) w calls) c = run (step H) w calls ∧
            (isRelayer (run (step H) w calls).store c.sender = true → e.validateBasic = .ok () →
              step H (run (step H) w calls) c = .error (.err .operationAlreadyExecuted))) := by
  have hle := executions_le h txHash calls
  refine ⟨hle.trans (Bool.toNat_le _), fun hne c e hmsg hv ht => ?_⟩
  have hc : (run (step H) w calls).store.processedTxs.contains txHash = true := by
    have := List.length_pos_iff.mpr hne
    cases hc : (run (step H) w calls).store.processedTxs.contains txHash with
    | true => rfl
    | false => rw [hc, Bool.toNat_false] at hle; omega
  have herr : ∃ f, step H (run (step H) w calls) c = .error f := by
    cases hstep : step H (run (step H) w calls) c with
    | error f => exact ⟨f, rfl⟩
    | ok r =>
      obtain ⟨w', r⟩ := r
      have hp := (run_effect h hstep).polled
      rw [hmsg] at hp
      obtain ⟨_, -, hvote, -⟩ := hp.vote
      rw [hvote.fresh hv ht] at hc
      cases hc
  refine ⟨herr, ?_, fun hr hb => ?_⟩
  · obtain ⟨f, hf⟩ := herr
    exact commit_error hf
  · rw [step, hmsg, execute, saveEvidence_registered hc hv ht hr hb]
    rfl

open Reference in
/-- Tickets have been allocated by the transaction `AB12`: a transfer of that hash is refused. -/
theorem executed_once_allocation :
    step host (run (step host) world₁ [recover, vote 2 relayer₁ allocation])
        (vote 3 relayer₁ (.xrplToCosmosTransfer ⟨"aB12", xrpIssuer, xrpCurrency, 5, user, none⟩)) =
      .error (.err .operationAlreadyExecuted) :=
  ((executed_once started_world₁ _ "AB12").2 (List.ne_nil_of_length_pos (by decide +kernel)) _ _ rfl rfl
    (by decide +kernel)).2.2 (by decide +kernel) rfl

end XrplBridge
