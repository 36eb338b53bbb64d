import XrplBridge.Protocol.Completion

/-!
# The books

The abstract model of the bridge's operations: the queue of available tickets, the count
of used ones, the operations that are pending, the two flags and whether the bridge is
active. A pending operation is here what it does and the sequence it was created with;
its identity, version, fee and signatures are left out, and so are the tokens, the fees,
the refunds and the votes.

`Books.Step` says what the protocol allows in one step, labelled with the operation that
the relayers' votes end in it. `Effect.books` is the refinement: every successful call of
the contract is such a step of its books, with the completion of that call as its label.
-/

namespace XrplBridge

open Library Contract Std

/-- What the books keep of a pending operation. -/
structure Entry where
  ticketSequence : Option ℕ
  accountSequence : Option ℕ
  operationType : OperationType
  deriving DecidableEq, Repr

/-- The entry of an operation. -/
def Contract.Operation.entry (o : Operation) : Entry := ⟨o.ticketSequence, o.accountSequence, o.operationType⟩

/-- The books. -/
structure Books where
  /-- The available tickets, from the front of the queue. -/
  available : List ℕ
  /-- The used tickets counter. -/
  used : ℕ
  /-- The used tickets that trigger an allocation. -/
  threshold : ℕ
  /-- The pending operations. -/
  pending : ExtTreeMap ℕ Entry
  /-- Whether an allocation is pending. -/
  updating : Bool
  /-- Whether a rotation is pending. -/
  rotating : Bool
  /-- Whether the bridge is active. -/
  bridgeState : BridgeState

/-- The books of the contract. -/
def Contract.Storage.books (s : Storage) : Books where
  available := s.availableTickets
  used := s.usedTicketsCounter
  threshold := s.config.usedTicketSequenceThreshold
  pending := s.pendingOperations.map fun _ o => o.entry
  updating := s.pendingTicketUpdate
  rotating := s.pendingRotateKeys
  bridgeState := s.config.bridgeState

namespace Books

/-- What the end of an operation does by its type. -/
def handle (b : Books) (operationType : OperationType) (result : TransactionResult) (tickets : List ℕ) : Books :=
  match operationType with
  | .allocateTickets _ =>
    if result = .accepted then
      { b with updating := false, available := b.available ++ tickets, used := b.used - tickets.length }
    else { b with updating := false }
  | .rotateKeys _ _ => { b with rotating := false }
  | _ => b

/-- The end of an operation: it is removed, and a ticket that was not executed returned. -/
def finish (b : Books) (k : ℕ) (operationType : OperationType) (result : TransactionResult)
    (tickets : List ℕ) (ticket : Option ℕ) : Books :=
  let b := b.handle operationType result tickets
  let b := { b with pending := b.pending.erase k }
  match ticket with
  | some t => if result = .invalid then { b with available := t :: b.available } else b
  | none => b

/-- A ticket is counted as used; the next one is taken if an allocation is due. -/
inductive Registers (b : Books) : Books → Prop
  | counted (notDue : ¬ (b.threshold ≤ b.used + 1 ∧ b.updating = false)) :
      Registers b { b with used := b.used + 1 }
  | exhausted (due : b.threshold ≤ b.used + 1) (noUpdate : b.updating = false) (available : b.available = []) :
      Registers b { b with used := b.used + 1 }
  | allocating {t : ℕ} {ts : List ℕ} (due : b.threshold ≤ b.used + 1) (noUpdate : b.updating = false)
      (available : b.available = t :: ts) (unused : b.pending[t]? = none) :
      Registers b
        { b with
          used := b.used + 1
          available := ts
          pending := b.pending.insert t ⟨some t, none, .allocateTickets b.threshold⟩
          updating := true }

/-- One step of the protocol, labelled with the operation it completes. -/
inductive Step (b : Books) : Option Completion → Books → Prop
  | kept : Step b none b
  | retuned {n : ℕ} : Step b none { b with threshold := n }
  | halted : Step b none { b with bridgeState := .halted }
  | resumed (noRotation : b.rotating = false) : Step b none { b with bridgeState := .active }
  | opened {t : ℕ} {ts : List ℕ} {operationType : OperationType} (available : b.available = t :: ts)
      (notLast : ts ≠ []) (unused : b.pending[t]? = none)
      (notAllocation : ∀ n, operationType ≠ .allocateTickets n)
      (notRotation : ∀ rs n, operationType ≠ .rotateKeys rs n) (active : b.bridgeState = .active) :
      Step b none { b with available := ts, pending := b.pending.insert t ⟨some t, none, operationType⟩ }
  | rotating {t : ℕ} {ts : List ℕ} {rs : List Relayer} {n : ℕ} (available : b.available = t :: ts)
      (notLast : ts ≠ []) (unused : b.pending[t]? = none) (idle : b.rotating = false)
      (valid : ValidRelayers rs n) :
      Step b none
        { b with
          available := ts
          pending := b.pending.insert t ⟨some t, none, .rotateKeys rs n⟩
          rotating := true
          bridgeState := .halted }
  | recovering {k n : ℕ} (empty : b.available = []) (noUpdate : b.updating = false) (above : b.threshold < n)
      (below : n ≤ maxTickets) (unused : b.pending[k]? = none) :
      Step b none
        { b with updating := true, pending := b.pending.insert k ⟨none, some k, .allocateTickets n⟩ }
  | cancelled {k : ℕ} {e : Entry} (pending : b.pending[k]? = some e) :
      Step b none (b.finish k e.operationType .invalid [] e.ticketSequence)
  | completed {c : Completion} {b' : Books} (pending : b.pending[c.operationId]? = some c.operation.entry)
      (named : c.evidence.operationId = some c.operationId)
      (valid : (Evidence.xrplTransactionResult c.evidence).validateBasic = .ok ())
      (kind : checkSequenceKind c.operation.operationType c.evidence = .ok ())
      (delivered : c.isAllocation = true → c.evidence.tickets ≠ [])
      (settles : if c.evidence.transactionResult ≠ .invalid ∧ c.evidence.ticketSequence.isSome = true then
          Registers (b.finish c.operationId c.operation.operationType c.evidence.transactionResult
            c.evidence.tickets c.evidence.ticketSequence) b'
        else b' = b.finish c.operationId c.operation.operationType c.evidence.transactionResult
          c.evidence.tickets c.evidence.ticketSequence) :
      Step b (some c) b'

/-- What the end of an operation leaves. -/
theorem finish_eq (b : Books) (k : ℕ) (operationType : OperationType) (result : TransactionResult)
    (tickets : List ℕ) (ticket : Option ℕ) :
    b.finish k operationType result tickets ticket =
      { available := (if result = .invalid then ticket.toList else []) ++ b.available ++
          (if operationType.isAllocation = true ∧ result = .accepted then tickets else [])
        used := if operationType.isAllocation = true ∧ result = .accepted then b.used - tickets.length else b.used
        threshold := b.threshold
        pending := b.pending.erase k
        updating := !operationType.isAllocation && b.updating
        rotating := !operationType.isRotation && b.rotating
        bridgeState := b.bridgeState } := by
  cases operationType <;> cases result <;> cases ticket <;>
    simp [finish, handle]

@[simp] theorem pending_finish (b : Books) (k : ℕ) (operationType : OperationType) (result : TransactionResult)
    (tickets : List ℕ) (ticket : Option ℕ) :
    (b.finish k operationType result tickets ticket).pending = b.pending.erase k := by
  rw [finish_eq]

end Books

/-! ### Where an entry comes from -/

/-- An entry is created under the ticket or the account sequence it names; under an
account sequence only an allocation, and a rotation only to valid relayers. -/
inductive Entry.Created (k : ℕ) : Entry → Prop
  | onTicket {operationType : OperationType}
      (valid : ∀ rs n, operationType = .rotateKeys rs n → ValidRelayers rs n) :
      Created k ⟨some k, none, operationType⟩
  | onAccount {n : ℕ} : Created k ⟨none, some k, .allocateTickets n⟩

/-- Every pending operation was created as `Entry.Created` says. -/
def Books.Created (b : Books) : Prop := ∀ (k : ℕ) (e : Entry), b.pending[k]? = some e → e.Created k

/-- What a step adds to the pending operations: an operation on a ticket, a rotation to valid
relayers, the allocation the owner asks for, or one that is due. -/
inductive Entry.Added (b : Books) (k : ℕ) : Entry → Prop
  | opened {operationType : OperationType} (notAllocation : ∀ n, operationType ≠ .allocateTickets n)
      (notRotation : ∀ rs n, operationType ≠ .rotateKeys rs n) : Added b k ⟨some k, none, operationType⟩
  | rotating {rs : List Relayer} {n : ℕ} (valid : ValidRelayers rs n) : Added b k ⟨some k, none, .rotateKeys rs n⟩
  | recovering {n : ℕ} (above : b.threshold < n) (below : n ≤ maxTickets) :
      Added b k ⟨none, some k, .allocateTickets n⟩
  | due : Added b k ⟨some k, none, .allocateTickets b.threshold⟩

namespace Books

variable {b b' : Books} {l : Option Completion}

/-- Inserting an entry adds nothing else. -/
theorem added_insert {k a : ℕ} {e x : Entry} (he : e.Added b k) (hx : (b.pending.insert k e)[a]? = some x) :
    b.pending[a]? = some x ∨ x.Added b a := by
  rcases getElem?_of_insert hx with ⟨rfl, rfl⟩ | ⟨-, hold⟩
  · exact .inr he
  · exact .inl hold

/-- An operation that is pending after a step was pending before, or is added by it. -/
theorem Step.added (hs : b.Step l b') {k : ℕ} {e : Entry} (he : b'.pending[k]? = some e) :
    b.pending[k]? = some e ∨ e.Added b k := by
  cases hs with
  | kept | retuned | halted | resumed => exact .inl he
  | opened _ _ _ hna hnr => exact added_insert (.opened hna hnr) he
  | rotating _ _ _ _ hv => exact added_insert (.rotating hv) he
  | recovering _ _ habove hbelow => exact added_insert (.recovering habove hbelow) he
  | cancelled =>
    rw [pending_finish] at he
    exact .inl (getElem?_of_erase he).2
  | completed _ _ _ _ _ hset =>
    split_ifs at hset
    · cases hset with
      | counted | exhausted =>
        rw [pending_finish] at he
        exact .inl (getElem?_of_erase he).2
      | allocating =>
        rw [finish_eq] at he
        rcases getElem?_of_insert he with ⟨rfl, rfl⟩ | ⟨-, hold⟩
        · exact .inr .due
        · exact .inl (getElem?_of_erase hold).2
    · rw [hset, pending_finish] at he
      exact .inl (getElem?_of_erase he).2

theorem Created.finish (h : b.Created) (k : ℕ) (operationType : OperationType) (result : TransactionResult)
    (tickets : List ℕ) (ticket : Option ℕ) : (b.finish k operationType result tickets ticket).Created := by
  intro a x hx
  rw [pending_finish] at hx
  exact h _ _ (getElem?_of_erase hx).2

theorem Created.step (h : b.Created) (hs : b.Step l b') : b'.Created := by
  intro k e he
  rcases hs.added he with hold | hadded
  · exact h k e hold
  · cases hadded with
    | opened _ hnr => exact .onTicket fun rs n hr => absurd hr (hnr rs n)
    | rotating hv => exact .onTicket fun rs n hr => by cases hr; exact hv
    | recovering => exact .onAccount
    | due => exact .onTicket fun rs n hr => by cases hr

end Books

/-! ### The contract refines the books -/

variable {H : Host} {s s' s₁ : Storage}

@[simp] theorem pending_books (s : Storage) (k : ℕ) :
    s.books.pending[k]? = s.pendingOperations[k]?.map Operation.entry := getElem?_map_const _ _ _

theorem books_eraseOperation (s : Storage) (k : ℕ) :
    ({ s with pendingOperations := s.pendingOperations.erase k } : Storage).books =
      { s.books with pending := s.books.pending.erase k } := by
  simp only [Storage.books, map_erase]

/-- A vote is not in the books. -/
theorem Contract.Votes.books {sender : Addr} {evidence : Evidence} {reached : Bool}
    (h : Votes H s sender evidence s' reached) : s'.books = s.books := by
  cases h <;> rfl

theorem handleFeeCollection_books {bridgingFee remainder fee : ℕ} {denom : String}
    (h : handleFeeCollection s bridgingFee denom remainder = .ok (s', fee)) : s'.books = s.books := by
  obtain ⟨⟨_, _, rfl⟩, -⟩ := handleFeeCollection_eq_ok h
  rfl

theorem Contract.Registers.books {timestamp : ℕ} (h : Registers s timestamp s') :
    s.books.Registers s'.books := by
  cases h with
  | counted _ hn => exact .counted hn
  | exhausted _ hd hn ha => exact .exhausted hd hn ha
  | allocating _ hd hn ha hu =>
    have := Books.Registers.allocating (b := s.books) hd hn ha (by simp [hu])
    simpa only [Storage.books, map_insert, newOperation, Operation.entry] using this

theorem endOperation_books (s : Storage) (result : TransactionResult) (k : ℕ) (ticket : Option ℕ) :
    (endOperation s result k ticket).books =
      match ticket with
      | some t => if result = .invalid then
          { s.books with pending := s.books.pending.erase k, available := t :: s.books.available }
        else { s.books with pending := s.books.pending.erase k }
      | none => { s.books with pending := s.books.pending.erase k } := by
  unfold endOperation
  cases ticket with
  | none => exact books_eraseOperation s k
  | some t =>
    dsimp only
    split_ifs
    · simp only [returnTicket, Storage.books, map_erase]
    · exact books_eraseOperation s k

/-- A signature is not in the books. -/
theorem books_signed {k : ℕ} {o : Operation} (ho : s.pendingOperations[k]? = some o) (signatures : List Signature) :
    ({ s with pendingOperations := s.pendingOperations.insert k { o with signatures } } : Storage).books = s.books := by
  simp only [Storage.books, map_insert_same ho (show Operation.entry { o with signatures } = o.entry from rfl)]

/-- The fee of XRPL is not in the books. -/
theorem books_repriced (s : Storage) (fee : ℕ) :
    ({ s with
      config := { s.config with xrplBaseFee := fee }
      pendingOperations := s.pendingOperations.map fun _ o => o.withBaseFee fee } : Storage).books = s.books := by
  have hsame : (s.pendingOperations.map fun _ o => o.withBaseFee fee).map (fun _ o => o.entry) =
      s.pendingOperations.map fun _ o => o.entry := ExtTreeMap.map_map
  simp only [Storage.books, hsame]

/-- The end of an operation, in the books. -/
theorem Contract.Handled.finish {o : Operation} {operationResult : Option OperationResult}
    {result : TransactionResult} {txHash : Option String} {tokenFactoryAddr burnAddr : Addr}
    {msgs : List CosmosMsg} (k : ℕ) (ticket : Option ℕ)
    (h : Handled s o operationResult result txHash tokenFactoryAddr burnAddr s₁ msgs) :
    (endOperation s₁ result k ticket).books =
      s.books.finish k o.operationType result (listedTickets operationResult) ticket := by
  have hh : s₁.books = s.books.handle o.operationType result (listedTickets operationResult) := by
    cases h with
    | allocated ht hr ha => simp [Books.handle, ht, hr, ha, listedTickets, Storage.books]
    | notAllocated ht _ hf => simp [Books.handle, ht, hf, Storage.books]
    | trustSet ht => simp [Books.handle, ht, Storage.books]
    | rotated ht => simp [Books.handle, ht, Storage.books]
    | notRotated ht => simp [Books.handle, ht, Storage.books]
    | burnt ht => simp [Books.handle, ht, Storage.books]
    | refunded ht => simp [Books.handle, ht, Storage.books, storePendingRefund]
    | escrowed ht => simp [Books.handle, ht, Storage.books]
    | released ht => simp [Books.handle, ht, Storage.books, storePendingRefund]
  unfold Books.finish
  rw [endOperation_books, ← hh]

/-- The end of an allocation comes with the result of one. -/
theorem Contract.Handled.allocationResult {o : Operation} {operationResult : Option OperationResult}
    {result : TransactionResult} {txHash : Option String} {tokenFactoryAddr burnAddr : Addr} {msgs : List CosmosMsg}
    (h : Handled s o operationResult result txHash tokenFactoryAddr burnAddr s₁ msgs)
    (ha : o.operationType.isAllocation = true) : ∃ tickets, operationResult = some (.ticketsAllocation tickets) := by
  obtain ⟨n, hn⟩ := OperationType.isAllocation_iff.mp ha
  cases h with
  | allocated _ hr => exact ⟨_, hr⟩
  | notAllocated _ hr => exact ⟨_, hr⟩
  | trustSet ht => rw [hn] at ht; cases ht
  | rotated ht => rw [hn] at ht; cases ht
  | notRotated ht => rw [hn] at ht; cases ht
  | burnt ht => rw [hn] at ht; cases ht
  | refunded ht => rw [hn] at ht; cases ht
  | escrowed ht => rw [hn] at ht; cases ht
  | released ht => rw [hn] at ht; cases ht

theorem Contract.Opens.books {timestamp : ℕ} {operationType : OperationType}
    (h : Opens s timestamp operationType s') (ha : ∀ n, operationType ≠ .allocateTickets n)
    (hr : ∀ rs n, operationType ≠ .rotateKeys rs n) : s.books.Step none s'.books := by
  cases h with
  | intro hav hne hun hv =>
    have := Books.Step.opened (b := s.books) hav hne (by simp [hun]) ha hr
      (active_of_checkValidOperationIfHalt hv ha hr)
    simpa only [Storage.books, map_insert, newOperation, Operation.entry] using this

/-- **The contract refines the books**: a call is a step of the protocol, labelled with
the completion of the call. -/
theorem Contract.Effect.books {q : Querier} {env : BlockInfo} {sender : Addr} {funds : List Coin}
    {msg : ExecuteMsg} {ms : List SubMsg} (h : Effect H s q env sender funds msg s' ms) :
    s.books.Step (completion H s msg) s'.books := by
  cases h with
  | @voted e _ _ hv =>
    rw [hv.books]
    have : completion H s (.saveEvidence e) = none := by
      cases e with
      | xrplToCosmosTransfer => rfl
      | xrplTransactionResult => exact completion_of_not_reaches hv.reaches
    rw [this]
    exact .kept
  | receivedXRPL _ hv _ _ _ hc =>
    rw [handleFeeCollection_books hc, hv.books]
    exact .kept
  | receivedCosmos _ hv _ _ _ hc =>
    rw [handleFeeCollection_books hc, hv.books]
    exact .kept
  | @completed e _ _ _ k o _ _ hval hv hid ho hk hh hs =>
    rw [completion_of_reaches hv.reaches hid ho]
    have hfin := hh.finish k e.ticketSequence
    rw [hv.books] at hfin
    refine .completed (by simp [ho]) hid hval hk (fun hall => ?_) ?_
    · obtain ⟨hall, ha⟩ : o.operationType.isAllocation = true ∧ e.transactionResult = .accepted := by
        simpa [Completion.isAllocation] using hall
      obtain ⟨tickets, hr⟩ := hh.allocationResult hall
      obtain ⟨ts, rfl, hne⟩ : ∃ ts, tickets = some ts ∧ ts ≠ [] := by
        have := (validateBasic_result hval).2.2.2 _ hr
        rwa [if_pos ha] at this
      rw [ResultEvidence.tickets, hr]
      exact hne
    · change _ = s.books.finish k o.operationType e.transactionResult e.tickets e.ticketSequence at hfin
      cases hs with
      | registered hvalid hticket hr =>
        rw [if_pos ⟨hvalid, hticket⟩, ← hfin]
        exact hr.books
      | unregistered hinv =>
        rw [if_neg, ← hfin]
        rintro ⟨h1, h2⟩
        rcases hinv with h | h
        · exact h1 h
        · simp [h] at h2
  | @cancelled k o _ _ ho hh =>
    have hfin := hh.finish k o.ticketSequence
    have : listedTickets (cancelResult o.operationType) = [] := by
      unfold cancelResult
      cases o.operationType <;> rfl
    rw [hfin, this]
    exact .cancelled (e := o.entry) (by simp [ho])
  | sentXRPL _ _ _ hc ho =>
    rw [← handleFeeCollection_books hc]
    exact ho.books nofun nofun
  | sentCosmos _ _ _ _ _ _ hc ho =>
    rw [← handleFeeCollection_books hc]
    exact ho.books nofun nofun
  | registeredXRPL _ _ _ _ _ ho => exact ho.books nofun nofun
  | recoveredXRPL _ _ ho => exact ho.books nofun nofun
  | rotating hidle hvalid ho =>
    cases ho with
    | intro hav hne hun =>
      have := Books.Step.rotating (b := s.books) hav hne (by rw [pending_books]; exact congrArg _ hun)
        hidle hvalid
      show s.books.Step none _
      simpa only [Storage.books, updateBridgeState, map_insert, newOperation, Operation.entry] using this
  | recovering hempty hno hlo hhi hun =>
    have := Books.Step.recovering (b := s.books) hempty hno hlo hhi
      (by rw [pending_books]; exact congrArg _ hun)
    show s.books.Step none _
    simpa only [Storage.books, map_insert, newOperation, Operation.entry] using this
  | signed ho =>
    rw [books_signed ho]
    exact .kept
  | repriced =>
    rw [books_repriced]
    exact .kept
  | retuned => exact .retuned
  | halted => exact .halted
  | resumed _ hno => exact .resumed hno
  | claimedFees _ ht =>
    obtain ⟨⟨_, rfl⟩, -⟩ := substractRelayerFees_eq_ok ht
    exact .kept
  | _ => exact .kept

/-! ### What is pending after a call -/

/-- A new operation takes the ticket at the front. -/
theorem Contract.Opens.pending {s₁ : Storage} {timestamp k : ℕ} {operationType : OperationType} {e : Entry}
    (ho : Opens s₁ timestamp operationType s') (hp : s'.books.pending[k]? = some e) :
    s₁.availableTickets.head? = some k ∧ e.operationType = operationType ∨
      s₁.availableTickets.head? ≠ some k ∧ s₁.books.pending[k]? = some e := by
  cases ho with
  | @intro t ts hav =>
    simp only [Storage.books, map_insert] at hp ⊢
    rw [hav, List.head?_cons]
    rcases getElem?_of_insert hp with ⟨rfl, rfl⟩ | ⟨hne, hold⟩
    · exact .inl ⟨rfl, rfl⟩
    · exact .inr ⟨fun h => hne (Option.some.inj h), hold⟩

/-- An allocation that becomes due takes the ticket at the front. -/
theorem Books.Registers.pending {b b' : Books} {k : ℕ} {e : Entry} (h : b.Registers b')
    (hp : b'.pending[k]? = some e) :
    ((b.threshold ≤ b.used + 1 ∧ b.updating = false) ∧ b.available.head? = some k) ∧
        e.operationType.isAllocation = true ∨
      ¬ ((b.threshold ≤ b.used + 1 ∧ b.updating = false) ∧ b.available.head? = some k) ∧
        b.pending[k]? = some e := by
  cases h with
  | counted hn => exact .inr ⟨fun h => hn h.1, hp⟩
  | exhausted _ _ hav =>
    refine .inr ⟨fun h => ?_, hp⟩
    rw [hav] at h
    cases h.2
  | allocating hd hno hav =>
    rcases getElem?_of_insert hp with ⟨rfl, rfl⟩ | ⟨hne, hold⟩
    · exact .inl ⟨⟨⟨hd, hno⟩, by rw [hav]; rfl⟩, rfl⟩
    · exact .inr ⟨fun h => hne (by rw [hav] at h; exact Option.some.inj h.2), hold⟩

/-- After an operation has been completed, only an allocation can be new. -/
theorem Books.Step.pending_completed {b b' : Books} {c : Completion} {k : ℕ} {e : Entry}
    (hs : b.Step (some c) b') (hp : b'.pending[k]? = some e) :
    e.operationType.isAllocation = true ∨ b.pending[k]? = some e := by
  cases hs with
  | completed _ _ _ _ _ hset =>
    split_ifs at hset
    · apply (hset.pending hp).imp And.right
      intro h
      rw [pending_finish] at h
      exact (getElem?_of_erase h.2).2
    · rw [hset, pending_finish] at hp
      exact .inr (getElem?_of_erase hp).2

theorem handleFeeCollection_available {bridgingFee remainder fee : ℕ} {denom : String}
    (h : handleFeeCollection s bridgingFee denom remainder = .ok (s', fee)) :
    s'.availableTickets = s.availableTickets := congrArg Books.available (handleFeeCollection_books h)

theorem handleFeeCollection_bridgeState {bridgingFee remainder fee : ℕ} {denom : String}
    (h : handleFeeCollection s bridgingFee denom remainder = .ok (s', fee)) :
    s'.config.bridgeState = s.config.bridgeState := congrArg Books.bridgeState (handleFeeCollection_books h)

/-! ### Runs -/

/-- The books right after `instantiate`. -/
def Books.initial (threshold : ℕ) : Books := ⟨[], 0, threshold, ∅, false, false, .active⟩

theorem started_books {w : World} (h : Started H w) :
    ∃ threshold, 2 ≤ threshold ∧ threshold ≤ maxTickets ∧ w.store.books = .initial threshold := by
  obtain ⟨msg, m, -, -, ⟨hlo, hhi⟩, -, hs⟩ := started_eq h
  refine ⟨_, hlo, hhi, ?_⟩
  rw [hs]
  rfl

/-- What every step of the protocol keeps, of the completions so far and the books, holds
along every run of the contract. -/
theorem run_books {P : List Completion → Books → Prop} {w : World} (h : Started H w)
    (hinit : ∀ threshold, 2 ≤ threshold → threshold ≤ maxTickets → P [] (.initial threshold))
    (hstep : ∀ {cs b l b'}, P cs b → Books.Step b l b' → P (cs ++ l.toList) b') (calls : List Call) :
    P (completions H w calls) (run (step H) w calls).store.books := by
  refine run_simulation (f := fun w : World => w.store.books) (R := Books.Step)
    (I := fun w : World => w.store.tempUniversalSwap = none) ?_ hstep (started_tempUniversalSwap h) ?_ calls
  · intro w c w' r hs hw
    have he := (step_eq_ok hs hw).1
    exact ⟨(congrArg Prod.fst he.fixed).trans hs, he.books⟩
  · obtain ⟨t, hlo, hhi, hb⟩ := started_books h
    rw [hb]
    exact hinit t hlo hhi

theorem run_created {w : World} (h : Started H w) (calls : List Call) :
    (run (step H) w calls).store.books.Created :=
  run_books (P := fun _ b => b.Created) h (fun _ _ _ k e hk => by simp [Books.initial] at hk)
    (fun hb hs => hb.step hs) calls

end XrplBridge
