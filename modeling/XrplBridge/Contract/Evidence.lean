import XrplBridge.Library.Ballot
import XrplBridge.Contract.State

/-!
# Evidences

What relayers report of XRPL (`evidence.rs`). Votes are collected in `TX_EVIDENCES`
under the hash of the whole evidence; the transactions that have been executed are kept
in `PROCESSED_TXS` under their own hash, in upper case.

`Votes` says once what a vote does to the two stores: it is a vote of the ballot of
`Library.Ballot`, and closes the ballot when it reaches the threshold.
-/

namespace XrplBridge.Contract

open Library Std

variable (H : Host)

/-! ### The JSON an evidence is hashed as -/

/-- A JSON string. -/
def jsonString (s : String) : String := "\"" ++ H.jsonEscape s ++ "\""

/-- A JSON object with the given fields. -/
def jsonObject (fields : List (String × String)) : String :=
  "\x7b" ++ String.intercalate "," (fields.map fun f => "\"" ++ f.1 ++ "\":" ++ f.2) ++ "\x7d"

/-- A field that may be absent. -/
def jsonOption {α : Type} (json : α → String) : Option α → String
  | some a => json a
  | none => "null"

/-- `TransactionResult`, as serialized. -/
def TransactionResult.json : TransactionResult → String
  | .accepted => "\"accepted\""
  | .rejected => "\"rejected\""
  | .invalid => "\"invalid\""

/-- `OperationResult`, as serialized. -/
def OperationResult.json : OperationResult → String
  | .ticketsAllocation tickets =>
    jsonObject [("tickets_allocation", jsonObject [("tickets",
      jsonOption (fun ts => "[" ++ String.intercalate "," (ts.map toString) ++ "]") tickets)])]

/-- `to_json_vec`, before it is turned into bytes. -/
def Evidence.json : Evidence → String
  | .xrplToCosmosTransfer e =>
    jsonObject [("xrpl_to_cosmos_transfer", jsonObject
      [("tx_hash", jsonString H e.txHash), ("issuer", jsonString H e.issuer),
        ("currency", jsonString H e.currency), ("amount", jsonString H (toString e.amount)),
        ("recipient", jsonString H e.recipient), ("memo", jsonOption (jsonString H) e.memo)])]
  | .xrplTransactionResult e =>
    jsonObject [("xrpl_transaction_result", jsonObject
      [("tx_hash", jsonOption (jsonString H) e.txHash),
        ("account_sequence", jsonOption toString e.accountSequence),
        ("ticket_sequence", jsonOption toString e.ticketSequence),
        ("transaction_result", e.transactionResult.json),
        ("operation_result", jsonOption OperationResult.json e.operationResult)])]

/-! ### Evidences -/

namespace Evidence

/-- `get_hash`. -/
def getHash (e : Evidence) : String := hashBytes H (intoBytes (e.json H))

/-- The hash of the transaction an evidence is about. -/
def txHash : Evidence → Option String
  | .xrplToCosmosTransfer e => some e.txHash
  | .xrplTransactionResult e => e.txHash

/-- `get_tx_hash`: in upper case; there has to be one. -/
def getTxHash (e : Evidence) : ContractResult String := do
  let txHash ← unwrap e.txHash
  pure (toUppercase H txHash)

/-- `is_operation_valid`. -/
def isOperationValid : Evidence → Bool
  | .xrplToCosmosTransfer _ => true
  | .xrplTransactionResult e => e.transactionResult ≠ .invalid

/-- `validate_basic`. -/
def validateBasic : Evidence → ContractResult Unit
  | .xrplToCosmosTransfer e => failIf (e.amount = 0) .invalidAmount
  | .xrplTransactionResult e => do
    failIf ((e.accountSequence.isNone ∧ e.ticketSequence.isNone) ∨
      (e.accountSequence.isSome ∧ e.ticketSequence.isSome)) .invalidTransactionResultEvidence
    failIf (e.transactionResult ≠ .invalid ∧ e.txHash.isNone) .invalidSuccessfulTransactionResultEvidence
    failIf (e.transactionResult = .invalid ∧ e.txHash.isSome) .invalidFailedTransactionResultEvidence
    match e.operationResult with
    | some (.ticketsAllocation tickets) => do
      failIf ((e.transactionResult = .invalid ∨ e.transactionResult = .rejected) ∧ tickets.isSome)
        .invalidTicketAllocationEvidence
      failIf (e.transactionResult = .accepted ∧ (tickets.isNone ∨ tickets = some []))
        .invalidTicketAllocationEvidence
    | none => .ok ()

end Evidence

/-- The relayers whose vote for an evidence of this hash is stored. -/
def Storage.voters (s : Storage) (hash : String) : List Addr :=
  (s.txEvidences[hash]?.map Evidences.relayerCosmosAddresses).getD []

/-- An evidence of a transaction that has been executed is refused. -/
def checkNotProcessed (s : Storage) (evidence : Evidence) : ContractResult Unit :=
  if evidence.isOperationValid then do
    let txHash ← evidence.getTxHash H
    failIf (s.processedTxs.contains txHash = true) .operationAlreadyExecuted
  else .ok ()

/-- The transaction is registered as processed, unless it was invalid. -/
def markProcessed (s : Storage) (evidence : Evidence) : ContractResult (ExtTreeMap String Unit) :=
  if evidence.isOperationValid then do
    let txHash ← evidence.getTxHash H
    pure (s.processedTxs.insert txHash ())
  else .ok s.processedTxs

/-- `handle_evidence`: whether the vote reaches the threshold. -/
def handleEvidence (s : Storage) (sender : Addr) (evidence : Evidence) : ContractResult (Storage × Bool) := do
  checkNotProcessed H s evidence
  let hash := evidence.getHash H
  failIf (sender ∈ s.voters hash) .evidenceAlreadyProvided
  let relayerCosmosAddresses := s.voters hash ++ [sender]
  if relayerCosmosAddresses.length ≥ s.config.evidenceThreshold then do
    let processedTxs ← markProcessed H s evidence
    -- of a single vote nothing is stored
    let txEvidences :=
      if relayerCosmosAddresses.length ≠ 1 then s.txEvidences.erase hash else s.txEvidences
    pure ({ s with processedTxs, txEvidences }, true)
  else pure ({ s with txEvidences := s.txEvidences.insert hash ⟨relayerCosmosAddresses⟩ }, false)

/-! ### What a vote does -/

variable {H} {s s' : Storage} {sender : Addr} {evidence : Evidence} {reached : Bool}

/-- The transaction of the evidence, if it has been executed, is not registered yet. -/
theorem checkNotProcessed_eq_ok {u : Unit} (h : checkNotProcessed H s evidence = .ok u)
    (hv : evidence.isOperationValid = true) :
    ∃ txHash, evidence.getTxHash H = .ok txHash ∧ s.processedTxs.contains txHash = false := by
  simp only [checkNotProcessed, hv, if_true, bind_eq_ok, failIf_eq_ok, Bool.not_eq_true] at h
  exact h

theorem markProcessed_eq_ok {m : ExtTreeMap String Unit} (h : markProcessed H s evidence = .ok m) :
    (evidence.isOperationValid = false ∧ m = s.processedTxs) ∨
      ∃ txHash, evidence.isOperationValid = true ∧ evidence.getTxHash H = .ok txHash ∧
        m = s.processedTxs.insert txHash () := by
  unfold markProcessed at h
  split_ifs at h with hv
  · simp only [bind_eq_ok, pure_eq_ok] at h
    obtain ⟨txHash, ht, rfl⟩ := h
    exact .inr ⟨txHash, hv, ht, rfl⟩
  · exact .inl ⟨by simpa using hv, (Except.ok.inj h).symm⟩

/-- What a vote does to the store. -/
inductive Votes (H : Host) (s : Storage) (sender : Addr) (evidence : Evidence) : Storage → Bool → Prop
  | collected (fresh : checkNotProcessed H s evidence = .ok ())
      (cast : Ballot.cast s.config.evidenceThreshold (s.voters (evidence.getHash H)) sender =
        some (false, s.voters (evidence.getHash H) ++ [sender])) :
      Votes H s sender evidence
        { s with
          txEvidences := s.txEvidences.insert (evidence.getHash H)
            ⟨s.voters (evidence.getHash H) ++ [sender]⟩ } false
  | reached {processedTxs : ExtTreeMap String Unit} {txEvidences : ExtTreeMap String Evidences}
      (fresh : checkNotProcessed H s evidence = .ok ())
      (cast : Ballot.cast s.config.evidenceThreshold (s.voters (evidence.getHash H)) sender = some (true, []))
      (processed : markProcessed H s evidence = .ok processedTxs)
      (removed : s.voters (evidence.getHash H) ≠ [] → txEvidences = s.txEvidences.erase (evidence.getHash H))
      (single : s.voters (evidence.getHash H) = [] → txEvidences = s.txEvidences) :
      Votes H s sender evidence { s with processedTxs, txEvidences } true

theorem votes_of_ok (h : handleEvidence H s sender evidence = .ok (s', reached)) :
    Votes H s sender evidence s' reached := by
  simp only [handleEvidence, bind_eq_ok, failIf_eq_ok] at h
  obtain ⟨_, hfresh, _, hnew, h⟩ := h
  by_cases ht : (s.voters (evidence.getHash H) ++ [sender]).length ≥ s.config.evidenceThreshold
  · simp only [if_pos ht, bind_eq_ok, pure_eq_ok, Prod.mk.injEq] at h
    obtain ⟨m, hm, rfl, rfl⟩ := h
    refine .reached hfresh ?_ hm (fun hne => if_pos ?_) (fun he => if_neg ?_)
    · simp only [Ballot.cast, if_neg hnew, if_pos ht]
    · simpa using hne
    · simp [he]
  · simp only [if_neg ht, pure_eq_ok, Prod.mk.injEq] at h
    obtain ⟨rfl, rfl⟩ := h
    exact .collected hfresh (by simp only [Ballot.cast, if_neg hnew, if_neg ht])

/-- A vote only changes the two stores. -/
theorem Votes.frame (h : Votes H s sender evidence s' reached) :
    ∃ txEvidences processedTxs, s' = { s with txEvidences, processedTxs } := by
  cases h with
  | collected => exact ⟨_, _, rfl⟩
  | reached => exact ⟨_, _, rfl⟩

end XrplBridge.Contract
