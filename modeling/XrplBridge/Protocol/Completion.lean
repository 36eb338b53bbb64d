import XrplBridge.Chain

/-!
# Completions

A completion is a call of `SaveEvidence` that ends a pending operation: the vote that
reaches the threshold, for the result of the operation's transaction. `completion` reads
it off the call and the storage before; `completions` are those of a run, in order.
-/

namespace XrplBridge

open Library Contract

variable (H : Host)

/-- One more vote for the evidence reaches the threshold. -/
def Contract.Storage.reaches (s : Storage) (e : Evidence) : Bool :=
  s.config.evidenceThreshold ≤ (s.voters (e.getHash H)).length + 1

/-- The end of an operation: its number, the operation, and the evidence of its result. -/
structure Completion where
  operationId : ℕ
  operation : Operation
  evidence : ResultEvidence
  deriving DecidableEq, Repr

/-- The tickets a result of an operation lists. -/
def listedTickets : Option OperationResult → List ℕ
  | some (.ticketsAllocation (some tickets)) => tickets
  | _ => []

/-- The tickets an evidence lists. -/
def Contract.ResultEvidence.tickets (e : ResultEvidence) : List ℕ := listedTickets e.operationResult

/-- The operation allocates tickets. -/
def Contract.OperationType.isAllocation : OperationType → Bool
  | .allocateTickets _ => true
  | _ => false

/-- The operation rotates the keys. -/
def Contract.OperationType.isRotation : OperationType → Bool
  | .rotateKeys _ _ => true
  | _ => false

namespace Contract.OperationType

variable (n : ℕ) (issuer currency : String) (rs : List Relayer) (maxAmount : Option ℕ) (sender : Addr)
  (recipient : String)

@[simp] theorem isAllocation_allocateTickets : (allocateTickets n).isAllocation = true := rfl

@[simp] theorem isAllocation_trustSet : (trustSet issuer currency n).isAllocation = false := rfl

@[simp] theorem isAllocation_rotateKeys : (rotateKeys rs n).isAllocation = false := rfl

@[simp] theorem isAllocation_cosmosToXRPLTransfer :
    (cosmosToXRPLTransfer issuer currency n maxAmount sender recipient).isAllocation = false := rfl

@[simp] theorem isRotation_allocateTickets : (allocateTickets n).isRotation = false := rfl

@[simp] theorem isRotation_trustSet : (trustSet issuer currency n).isRotation = false := rfl

@[simp] theorem isRotation_rotateKeys : (rotateKeys rs n).isRotation = true := rfl

@[simp] theorem isRotation_cosmosToXRPLTransfer :
    (cosmosToXRPLTransfer issuer currency n maxAmount sender recipient).isRotation = false := rfl

end Contract.OperationType

theorem Contract.OperationType.isAllocation_iff {t : OperationType} :
    t.isAllocation = true ↔ ∃ n, t = .allocateTickets n := by
  cases t <;> simp

theorem Contract.OperationType.isRotation_iff {t : OperationType} :
    t.isRotation = true ↔ ∃ rs n, t = .rotateKeys rs n := by
  cases t <;> simp

namespace Completion

/-- The operation is an allocation of tickets that was accepted. -/
def isAllocation (c : Completion) : Bool :=
  c.operation.operationType.isAllocation && c.evidence.transactionResult = .accepted

/-- The new relayers and the new threshold of a rotation of keys that was accepted. -/
def rotation (c : Completion) : Option (List Relayer × ℕ) :=
  match c.operation.operationType with
  | .rotateKeys rs n => if c.evidence.transactionResult = .accepted then some (rs, n) else none
  | _ => none

theorem rotation_eq_some {c : Completion} {rs : List Relayer} {n : ℕ} :
    c.rotation = some (rs, n) ↔
      c.operation.operationType = .rotateKeys rs n ∧ c.evidence.transactionResult = .accepted := by
  unfold rotation
  split
  · rename_i rs' n' ht
    split_ifs with ha <;> simp [ht, ha]
  · rename_i hne
    exact ⟨nofun, fun h => absurd h.1 (hne rs n)⟩

/-- The tickets that are allocated. -/
def allocated (c : Completion) : List ℕ := if c.isAllocation then c.evidence.tickets else []

/-- The ticket that is used up: the operation's own, if its transaction was executed. -/
def spent (c : Completion) : List ℕ :=
  if c.evidence.transactionResult = .invalid then [] else c.operation.ticketSequence.toList

/-- The evidence names the kind of sequence the operation was created with. -/
structure SameKind (c : Completion) : Prop where
  account : c.evidence.accountSequence.isSome = c.operation.accountSequence.isSome
  ticket : c.evidence.ticketSequence.isSome = c.operation.ticketSequence.isSome

instance instDecidableSameKind (c : Completion) : Decidable c.SameKind :=
  decidable_of_iff (c.evidence.accountSequence.isSome = c.operation.accountSequence.isSome ∧
      c.evidence.ticketSequence.isSome = c.operation.ticketSequence.isSome)
    ⟨fun h => ⟨h.1, h.2⟩, fun h => ⟨h.account, h.ticket⟩⟩

end Completion

/-- The operation a call ends, if the call succeeds. -/
def completion (s : Storage) : ExecuteMsg → Option Completion
  | .saveEvidence (.xrplTransactionResult e) =>
    if s.reaches H (.xrplTransactionResult e) then do
      let operationId ← e.operationId
      let operation ← s.pendingOperations[operationId]?
      some ⟨operationId, operation, e⟩
    else none
  | _ => none

/-- The operation a call ends, with its result: one that is cancelled counts as invalid. -/
def ended (s : Storage) : ExecuteMsg → Option (ℕ × Operation × TransactionResult)
  | .cancelPendingOperation k => s.pendingOperations[k]?.map fun o => (k, o, .invalid)
  | msg => (completion H s msg).map fun c => (c.operationId, c.operation, c.evidence.transactionResult)

/-- The operations a run ends, in order. -/
def completions (w : World) (calls : List Call) : List Completion :=
  labels (step H) (fun w c => completion H w.store c.msg) w calls

variable {H}

/-- The tickets allocated along a run. -/
def allocatedTickets (cs : List Completion) : List ℕ := cs.flatMap Completion.allocated

/-- The tickets used up along a run. -/
def spentTickets (cs : List Completion) : List ℕ := cs.flatMap Completion.spent

/-- A vote reaches the threshold when the storage says so. -/
theorem Contract.Votes.reaches {s s' : Storage} {sender : Addr} {e : Evidence} {reached : Bool}
    (h : Votes H s sender e s' reached) : s.reaches H e = reached := by
  unfold Storage.reaches
  cases h with
  | collected _ hc =>
    obtain ⟨-, hlt, -⟩ := Ballot.cast_false hc
    exact decide_eq_false (by omega)
  | reached _ hc =>
    obtain ⟨-, hle, -⟩ := Ballot.cast_true hc
    exact decide_eq_true hle

theorem completion_eq_some {s : Storage} {msg : ExecuteMsg} {c : Completion} (h : completion H s msg = some c) :
    msg = .saveEvidence (.xrplTransactionResult c.evidence) ∧
      s.reaches H (.xrplTransactionResult c.evidence) = true ∧ c.evidence.operationId = some c.operationId ∧
        s.pendingOperations[c.operationId]? = some c.operation := by
  unfold completion at h
  split at h
  · split_ifs at h with hr
    obtain ⟨id, hid, h⟩ := Option.bind_eq_some_iff.mp h
    obtain ⟨o, ho, h⟩ := Option.bind_eq_some_iff.mp h
    cases h
    exact ⟨rfl, hr, hid, ho⟩
  · cases h

theorem completion_of_reaches {s : Storage} {e : ResultEvidence} {operationId : ℕ} {o : Operation}
    (hr : s.reaches H (.xrplTransactionResult e) = true) (hid : e.operationId = some operationId)
    (ho : s.pendingOperations[operationId]? = some o) :
    completion H s (.saveEvidence (.xrplTransactionResult e)) = some ⟨operationId, o, e⟩ := by
  simp [completion, hr, hid, ho]

theorem completion_of_not_reaches {s : Storage} {e : ResultEvidence}
    (hr : s.reaches H (.xrplTransactionResult e) = false) :
    completion H s (.saveEvidence (.xrplTransactionResult e)) = none := by
  simp [completion, hr]

theorem pending_of_ended {s : Storage} {msg : ExecuteMsg} {k : ℕ} {o : Operation} {result : TransactionResult}
    (h : ended H s msg = some (k, o, result)) : s.pendingOperations[k]? = some o := by
  unfold ended at h
  split at h
  · obtain ⟨o', ho', heq⟩ := Option.map_eq_some_iff.mp h
    cases heq
    exact ho'
  · obtain ⟨c, hc, heq⟩ := Option.map_eq_some_iff.mp h
    cases heq
    exact (completion_eq_some hc).2.2.2

theorem ended_of_reaches {s : Storage} {e : ResultEvidence} {operationId : ℕ} {o : Operation}
    (hr : s.reaches H (.xrplTransactionResult e) = true) (hid : e.operationId = some operationId)
    (ho : s.pendingOperations[operationId]? = some o) :
    ended H s (.saveEvidence (.xrplTransactionResult e)) = some (operationId, o, e.transactionResult) := by
  simp [ended, completion_of_reaches hr hid ho]

theorem ended_of_not_reaches {s : Storage} {e : Evidence} (hr : s.reaches H e = false) :
    ended H s (.saveEvidence e) = none := by
  cases e with
  | xrplToCosmosTransfer => rfl
  | xrplTransactionResult => simp [ended, completion_of_not_reaches hr]

theorem ended_cancelled {s : Storage} {k : ℕ} {o : Operation} (ho : s.pendingOperations[k]? = some o) :
    ended H s (.cancelPendingOperation k) = some (k, o, .invalid) := by
  simp [ended, ho]

/-- An evidence that passes `validate_basic` names one of the two kinds, an executed
transaction has a hash, and an allocation lists tickets exactly if it was accepted. -/
theorem validateBasic_result {e : ResultEvidence} {u : Unit}
    (h : (Evidence.xrplTransactionResult e).validateBasic = .ok u) :
    (e.accountSequence.isSome = !e.ticketSequence.isSome) ∧
      (e.transactionResult ≠ .invalid → e.txHash.isSome = true) ∧
      (e.transactionResult = .invalid → e.txHash = none) ∧
      ∀ tickets, e.operationResult = some (.ticketsAllocation tickets) →
        if e.transactionResult = .accepted then ∃ ts, tickets = some ts ∧ ts ≠ [] else tickets = none := by
  simp only [Evidence.validateBasic, bind_eq_ok, failIf_eq_ok] at h
  obtain ⟨_, hkind, _, hvalid, _, hinvalid, hres⟩ := h
  refine ⟨?_, fun hv => ?_, fun hv => ?_, fun tickets ht => ?_⟩
  · cases ha : e.accountSequence <;> cases ht : e.ticketSequence <;> simp [ha, ht] at hkind ⊢
  · cases hh : e.txHash with
    | none => exact absurd ⟨hv, by simp [hh]⟩ hvalid
    | some _ => rfl
  · cases hh : e.txHash with
    | none => rfl
    | some _ => exact absurd ⟨hv, by simp [hh]⟩ hinvalid
  · rw [ht] at hres
    simp only [bind_eq_ok, failIf_eq_ok] at hres
    obtain ⟨_, hfailed, hacc⟩ := hres
    cases tickets with
    | none => cases hr : e.transactionResult <;> simp [hr] at hacc ⊢
    | some ts => cases hr : e.transactionResult <;> simp [hr] at hacc hfailed ⊢; exact hacc

end XrplBridge
