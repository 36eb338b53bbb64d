import XrplBridge.Protocol.Books

/-!
# Votes

What relayers vote on, who they are and how many it takes, and which transactions have
been executed. `Polled` says what a call does to these: a call that is not an evidence
leaves them alone, an evidence is one vote, and the end of an accepted rotation of keys
replaces the relayers and drops every vote.
-/

namespace XrplBridge

open Library Contract Std

/-- The part of the storage that votes are about. -/
structure Polls where
  relayers : List Relayer
  evidenceThreshold : ℕ
  txEvidences : ExtTreeMap String Evidences
  processedTxs : ExtTreeMap String Unit

/-- The polls of the contract. -/
def Contract.Storage.polls (s : Storage) : Polls where
  relayers := s.config.relayers
  evidenceThreshold := s.config.evidenceThreshold
  txEvidences := s.txEvidences
  processedTxs := s.processedTxs

/-- The rotation of keys that a call brings into force, if the call succeeds. -/
def rotation (H : Host) (s : Storage) (msg : ExecuteMsg) : Option (List Relayer × ℕ) :=
  (completion H s msg).bind Completion.rotation

/-- What a call does to the polls. -/
inductive Polled (H : Host) (s : Storage) (sender : Addr) (s' : Storage) : ExecuteMsg → Prop
  | kept {msg : ExecuteMsg} (other : ∀ e, msg ≠ .saveEvidence e) (same : s'.polls = s.polls) :
      Polled H s sender s' msg
  | counted {e : Evidence} {s₁ : Storage} {reached : Bool} (relayer : isRelayer s sender = true)
      (votes : Votes H s sender e s₁ reached) (noRotation : rotation H s (.saveEvidence e) = none)
      (same : s'.polls = s₁.polls) : Polled H s sender s' (.saveEvidence e)
  | rotated {e : Evidence} {s₁ : Storage} {rs : List Relayer} {n : ℕ} (relayer : isRelayer s sender = true)
      (votes : Votes H s sender e s₁ true) (rotation : rotation H s (.saveEvidence e) = some (rs, n))
      (same : s'.polls = ⟨rs, n, ∅, s₁.processedTxs⟩) : Polled H s sender s' (.saveEvidence e)

variable {H : Host} {s s' s₁ : Storage} {w : World} {e : Evidence} {sender : Addr} {reached : Bool}
  {txHash : String}

theorem rotation_eq_none {msg : ExecuteMsg} (h : ∀ e, msg ≠ .saveEvidence e) : rotation H s msg = none := by
  unfold rotation completion
  split
  · exact absurd rfl (h _)
  · rfl

theorem endOperation_polls (s : Storage) (result : TransactionResult) (k : ℕ) (ticket : Option ℕ) :
    (endOperation s result k ticket).polls = s.polls := by
  obtain ⟨_, hend⟩ := endOperation_frame s result k ticket
  rw [hend]
  rfl

theorem Contract.Settles.polls {env : BlockInfo} {e : ResultEvidence} {k : ℕ} (h : Settles s env e k s') :
    s'.polls = s.polls := by
  cases h with
  | registered _ _ hr =>
    rw [← endOperation_polls s e.transactionResult k e.ticketSequence]
    cases hr <;> rfl
  | unregistered => exact endOperation_polls _ _ _ _

/-- The end of an operation leaves the polls alone, unless it is an accepted rotation. -/
theorem Contract.Handled.polls {o : Operation} {k : ℕ} {e : ResultEvidence} {tokenFactoryAddr burnAddr : Addr}
    {msgs : List CosmosMsg}
    (h : Handled s o e.operationResult e.transactionResult e.txHash tokenFactoryAddr burnAddr s₁ msgs) :
    match (Completion.mk k o e).rotation with
    | some (rs, n) => s₁.polls = ⟨rs, n, ∅, s.processedTxs⟩
    | none => s₁.polls = s.polls := by
  cases h with
  | rotated ht ha => simp [Completion.rotation, ht, ha, Storage.polls]
  | notRotated ht hf => simp [Completion.rotation, ht, hf, Storage.polls]
  | allocated ht => simp [Completion.rotation, ht, Storage.polls]
  | notAllocated ht => simp [Completion.rotation, ht, Storage.polls]
  | trustSet ht => simp [Completion.rotation, ht, Storage.polls]
  | burnt ht => simp [Completion.rotation, ht]
  | refunded ht => simp [Completion.rotation, ht, Storage.polls, storePendingRefund]
  | escrowed ht => simp [Completion.rotation, ht]
  | released ht => simp [Completion.rotation, ht, Storage.polls, storePendingRefund]

theorem Contract.Opens.polls {timestamp : ℕ} {operationType : OperationType}
    (h : Opens s timestamp operationType s') : s'.polls = s.polls := by
  cases h
  rfl

theorem handleFeeCollection_polls {bridgingFee remainder fee : ℕ} {denom : String}
    (h : handleFeeCollection s bridgingFee denom remainder = .ok (s', fee)) : s'.polls = s.polls := by
  obtain ⟨⟨_, _, rfl⟩, -⟩ := handleFeeCollection_eq_ok h
  rfl

/-- **What a call does to the polls.** -/
theorem Contract.Effect.polled {q : Querier} {env : BlockInfo} {funds : List Coin} {msg : ExecuteMsg}
    {ms : List SubMsg} (h : Effect H s q env sender funds msg s' ms) : Polled H s sender s' msg := by
  cases h with
  | @voted e _ hrel hv =>
    refine .counted hrel hv ?_ rfl
    unfold rotation
    cases e with
    | xrplToCosmosTransfer => rfl
    | xrplTransactionResult => rw [completion_of_not_reaches hv.reaches]; rfl
  | receivedXRPL hrel hv _ _ _ hc => exact .counted hrel hv rfl (handleFeeCollection_polls hc)
  | receivedCosmos hrel hv _ _ _ hc => exact .counted hrel hv rfl (handleFeeCollection_polls hc)
  | @completed e _ _ _ k o _ hrel _ hv hid ho _ hh hs =>
    have hp := hh.polls (k := k)
    have hrot : rotation H s (.saveEvidence (.xrplTransactionResult e)) = (Completion.mk k o e).rotation := by
      rw [rotation, completion_of_reaches hv.reaches hid ho]
      rfl
    cases hr : (Completion.mk k o e).rotation with
    | some r =>
      rw [hr] at hp hrot
      exact .rotated hrel hv hrot (hs.polls.trans hp)
    | none =>
      rw [hr] at hp hrot
      exact .counted hrel hv hrot (hs.polls.trans hp)
  | cancelled ho hh =>
    refine .kept nofun ((endOperation_polls _ _ _ _).trans ?_)
    cases hh with
    | rotated _ ha => cases ha
    | _ => rfl
  | sentXRPL _ _ _ hc ho => exact .kept nofun (ho.polls.trans (handleFeeCollection_polls hc))
  | sentCosmos _ _ _ _ _ _ hc ho => exact .kept nofun (ho.polls.trans (handleFeeCollection_polls hc))
  | registeredXRPL _ _ _ _ _ ho => exact .kept nofun ho.polls
  | recoveredXRPL _ _ ho => exact .kept nofun ho.polls
  | rotating _ _ ho => exact .kept nofun ho.polls
  | claimedFees _ ht =>
    obtain ⟨⟨_, rfl⟩, -⟩ := substractRelayerFees_eq_ok ht
    exact .kept nofun rfl
  | _ => exact .kept nofun rfl

/-- An evidence is the vote of a relayer. -/
theorem Polled.vote (h : Polled H s sender s' (.saveEvidence e)) :
    ∃ s₁, isRelayer s sender = true ∧ Votes H s sender e s₁ (s.reaches H e) ∧
      s'.processedTxs = s₁.processedTxs := by
  cases h with
  | kept other => exact absurd rfl (other e)
  | counted hrel hv _ hs => exact ⟨_, hrel, hv.reaches ▸ hv, congrArg Polls.processedTxs hs⟩
  | rotated hrel hv _ hs => exact ⟨_, hrel, hv.reaches ▸ hv, congrArg Polls.processedTxs hs⟩

/-! ### The registered transactions -/

/-- A vote unregisters nothing. -/
theorem Contract.Votes.registered (h : Votes H s sender e s₁ reached)
    (hc : s.processedTxs.contains txHash = true) : s₁.processedTxs.contains txHash = true := by
  cases h with
  | collected => exact hc
  | reached _ _ hp =>
    obtain ⟨-, hm⟩ | ⟨t, -, -, hm⟩ := markProcessed_eq_ok hp
    · exact hm ▸ hc
    · show ExtTreeMap.contains _ _ = true
      rw [hm, ExtTreeMap.contains_insert, hc, Bool.or_true]

/-- What is registered stays so. -/
theorem Polled.registered {msg : ExecuteMsg} (h : Polled H s sender s' msg) (hc : s.processedTxs.contains txHash = true) :
    s'.processedTxs.contains txHash = true := by
  have hkeep : ∃ m, s'.processedTxs = m ∧ m.contains txHash = true := by
    cases h with
    | kept _ hs => exact ⟨_, congrArg Polls.processedTxs hs, hc⟩
    | counted _ hv _ hs => exact ⟨_, congrArg Polls.processedTxs hs, hv.registered hc⟩
    | rotated _ hv _ hs => exact ⟨_, congrArg Polls.processedTxs hs, hv.registered hc⟩
  obtain ⟨m, hm, hc'⟩ := hkeep
  rwa [hm]

/-- An evidence that is not refused was not refused before. -/
theorem Polled.checkNotProcessed {msg : ExecuteMsg} (h : Polled H s sender s' msg)
    (hf : checkNotProcessed H s' e = .ok ()) : checkNotProcessed H s e = .ok () := by
  unfold Contract.checkNotProcessed
  split_ifs with hv
  · obtain ⟨t, ht, hc⟩ := checkNotProcessed_eq_ok hf hv
    refine bind_eq_ok.mpr ⟨t, ht, failIf_eq_ok.mpr fun hc' => ?_⟩
    rw [h.registered hc'] at hc
    cases hc
  · rfl

/-! ### The voters for a hash -/

theorem Contract.Votes.voters (h : Votes H s sender e s₁ reached) (hash : String) :
    s₁.voters hash =
      if hash = e.getHash H then if reached then [] else s.voters hash ++ [sender] else s.voters hash := by
  unfold Storage.voters
  cases h with
  | collected =>
    split_ifs with hh hr
    · cases hr
    · subst hh
      simp [Storage.voters]
    · rw [getElem?_insert_ne (Ne.symm hh)]
  | reached _ _ _ hrem hsing =>
    by_cases hnil : s.voters (e.getHash H) = []
    · rw [hsing hnil]
      split_ifs with hh hr
      · subst hh
        exact hnil
      · exact absurd rfl hr
      · rfl
    · rw [hrem hnil]
      split_ifs with hh hr
      · subst hh
        simp
      · exact absurd rfl hr
      · rw [getElem?_erase_ne (Ne.symm hh)]

/-- The voters for a hash after one more call: a rotation that comes into force and the
execution of an evidence of this hash start over. -/
def Contract.Storage.votersAfter (H : Host) (s : Storage) (sender : Addr) (msg : ExecuteMsg) (hash : String) :
    List Addr :=
  if (rotation H s msg).isSome then []
  else
    match msg with
    | .saveEvidence e =>
      if e.getHash H = hash then if s.reaches H e then [] else s.voters hash ++ [sender] else s.voters hash
    | _ => s.voters hash

theorem Polled.votersAfter {msg : ExecuteMsg} (h : Polled H s sender s' msg) (hash : String) :
    s'.voters hash = s.votersAfter H sender msg hash := by
  unfold Storage.votersAfter
  cases h with
  | kept hother hs =>
    rw [rotation_eq_none hother, if_neg (by simp)]
    have hsame : s'.voters hash = s.voters hash := by
      unfold Storage.voters
      rw [show s'.txEvidences = s.txEvidences from congrArg Polls.txEvidences hs]
    cases msg with
    | saveEvidence e => exact absurd rfl (hother e)
    | _ => exact hsame
  | @counted e s₁ reached _ hv hno hs =>
    have hvoters : s'.voters hash = s₁.voters hash := by
      unfold Storage.voters
      rw [show s'.txEvidences = s₁.txEvidences from congrArg Polls.txEvidences hs]
    rw [hno, if_neg (by simp), hvoters, hv.voters]
    show _ = if e.getHash H = hash then if s.reaches H e then [] else s.voters hash ++ [sender]
      else s.voters hash
    rw [hv.reaches]
    exact if_congr eq_comm rfl rfl
  | rotated _ _ hrot hs =>
    rw [hrot, Option.isSome_some, if_pos rfl]
    unfold Storage.voters
    rw [show s'.txEvidences = ∅ from congrArg Polls.txEvidences hs]
    simp

end XrplBridge
