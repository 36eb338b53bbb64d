import XrplBridge.Protocol.Quorum
import XrplBridge.Protocol.Tickets
import XrplBridge.Protocol.Voting

/-!
# The kind of sequence an evidence names

An operation is created on a ticket or on an account sequence, and the accounts of the
tickets trust the kind the evidence names. Only for a TrustSet and for a transfer does the
contract compare the two. An allocation of tickets or a rotation of keys can be ended, from
every state in which it is pending, by an evidence of the other kind
(`exists_otherKind`): a ticket is then neither counted as used nor given back, or an account
sequence becomes a ticket.
-/

namespace XrplBridge

open Library Contract Std

variable {H : Host} {s s' s₁ : Storage} {w : World} {k : ℕ} {o : Operation}

/-- The evidence that ends an operation names its own kind of sequence, and the tickets are
accounted for by what the operation was created with. -/
structure KindAgrees (s s' : Storage) (c : Completion) : Prop where
  kind : c.SameKind
  /-- A ticket that was executed is counted. -/
  registered : c.operation.ticketSequence.isSome = true → c.evidence.transactionResult ≠ .invalid →
    s'.usedTicketsCounter + min c.allocated.length s.usedTicketsCounter = s.usedTicketsCounter + 1
  /-- A ticket that was not executed is given back, and nothing else is. -/
  returned : c.evidence.transactionResult = .invalid →
    s'.availableTickets = c.operation.ticketSequence.toList ++ s.availableTickets
  /-- A ticket that was executed is not given back, and no other number is: tickets are taken from the front, and
  only those that were asked for come in. -/
  kept : c.evidence.transactionResult ≠ .invalid → s'.availableTickets <:+ s.availableTickets ++ c.allocated

/-- Counting a ticket as used takes tickets from the front of the queue. -/
theorem Books.Registers.available_suffix {b b' : Books} (h : b.Registers b') : b'.available <:+ b.available := by
  cases h with
  | counted | exhausted => exact List.suffix_rfl
  | @allocating t ts _ _ havailable =>
    rw [havailable]
    exact List.suffix_cons t ts

/-- An operation that was executed gives no ticket back. -/
theorem Books.Step.available_suffix {b b' : Books} {c : Completion} (hs : b.Step (some c) b')
    (hv : c.evidence.transactionResult ≠ .invalid) : b'.available <:+ b.available ++ c.allocated := by
  cases hs with
  | completed _ _ _ _ _ hset =>
    have hfinish : (b.finish c.operationId c.operation.operationType c.evidence.transactionResult
        c.evidence.tickets c.evidence.ticketSequence).available = b.available ++ c.allocated := by
      rw [finish_eq, if_neg hv]
      simp [Completion.allocated, Completion.isAllocation]
    rw [← hfinish]
    split_ifs at hset
    · exact hset.available_suffix
    · subst hset
      exact List.suffix_rfl

/-- An operation that is ended by its own kind of sequence is accounted for by it. -/
theorem Books.Step.agrees {c : Completion} (hs : s.books.Step (some c) s'.books) (hc : s.books.Created)
    (hk : c.SameKind) : KindAgrees s s' c := by
  refine ⟨hk, fun ht hv => ?_, fun hinv => ?_, fun hv => hs.available_suffix hv⟩
  · have hused := hs.used hc fun _ h => by cases h; exact hk
    obtain ⟨t, ht⟩ := Option.isSome_iff_exists.mp ht
    change s'.usedTicketsCounter + min _ s.usedTicketsCounter = s.usedTicketsCounter + _ at hused
    simpa [spentTickets, allocatedTickets, Completion.spent, hv, ht] using hused
  · cases hs with
    | completed hp hn _ _ _ hset =>
      rw [if_neg (fun h => h.1 hinv), finish_eq, if_pos hinv, hinv] at hset
      have := congrArg Books.available hset
      rw [hk.ticketSequence_eq (hc _ _ hp) hn] at this
      simpa [Storage.books] using this

/-- A TrustSet or a transfer is created on a ticket, and ended by it only. -/
theorem sameKind_of_checkSequenceKind {c : Completion} (hc : c.operation.entry.Created c.operationId)
    (hv : (Evidence.xrplTransactionResult c.evidence).validateBasic = .ok ())
    (hk : checkSequenceKind c.operation.operationType c.evidence = .ok ())
    (ha : c.operation.operationType.isAllocation = false) (hr : c.operation.operationType.isRotation = false) :
    c.SameKind := by
  have hacc : c.evidence.accountSequence.isSome = false := by
    unfold checkSequenceKind at hk
    split at hk
    · simpa using hk
    · simpa using hk
    · rename_i h1 h2
      cases hty : c.operation.operationType with
      | allocateTickets => rw [hty] at ha; cases ha
      | rotateKeys => rw [hty] at hr; cases hr
      | trustSet => exact absurd hty (h1 _ _ _)
      | cosmosToXRPLTransfer => exact absurd hty (h2 _ _ _ _ _ _)
  have hkind := (validateBasic_result hv).1
  rw [hacc] at hkind
  generalize he : c.operation.entry = entry at hc
  have hto : c.operation.ticketSequence = entry.ticketSequence := congrArg Entry.ticketSequence he
  have hao : c.operation.accountSequence = entry.accountSequence := congrArg Entry.accountSequence he
  have hty : c.operation.operationType = entry.operationType := congrArg Entry.operationType he
  cases hc with
  | onTicket =>
    refine ⟨by rw [hacc, hao]; rfl, ?_⟩
    rw [hto]
    simpa using hkind
  | onAccount => rw [hty] at ha; cases ha

/-! ### An evidence of the other kind -/

/-- The report that the transaction of an operation was invalid, with the other kind of sequence. -/
def otherKind (k : ℕ) (o : Operation) : ResultEvidence where
  txHash := none
  accountSequence := if o.accountSequence.isSome then none else some k
  ticketSequence := if o.accountSequence.isSome then some k else none
  transactionResult := .invalid
  operationResult := cancelResult o.operationType

theorem validateBasic_otherKind : (Evidence.xrplTransactionResult (otherKind k o)).validateBasic = .ok () := by
  unfold otherKind cancelResult
  cases o.accountSequence <;> cases o.operationType <;> rfl

theorem operationId_otherKind : (otherKind k o).operationId = some k := by
  unfold otherKind ResultEvidence.operationId
  cases o.accountSequence <;> rfl

theorem not_sameKind_otherKind : ¬ (Completion.mk k o (otherKind k o)).SameKind := by
  rintro ⟨h, -⟩
  revert h
  unfold otherKind
  cases o.accountSequence <;> simp

/-- The end of an invalid allocation or rotation goes through, and sends no message. -/
theorem completeOperation_otherKind {env : BlockInfo} {r : Response}
    (hty : o.operationType.isAllocation = true ∨ o.operationType.isRotation = true) :
    ∃ s' r' msgs, completeOperation H s env (otherKind k o) k o r = .ok (s', r', msgs) := by
  have hrun : ∃ s₁, runHandler s o (cancelResult o.operationType) .invalid none k s.config.tokenFactoryAddr
      H.contract r = .ok (s₁, r, []) := by
    unfold runHandler cancelResult
    cases ht : o.operationType with
    | trustSet => simp [ht] at hty
    | cosmosToXRPLTransfer => simp [ht] at hty
    | _ => exact ⟨_, rfl⟩
  obtain ⟨s₁, hs₁⟩ := hrun
  exact ⟨_, _, _, bind_eq_ok.mpr ⟨_, bind_eq_ok.mpr ⟨_, hs₁, rfl⟩, rfl⟩⟩

/-- The end of an allocation or a rotation sends no message. -/
theorem Contract.Handled.noMessages {operationResult : Option OperationResult} {result : TransactionResult}
    {txHash : Option String} {tokenFactoryAddr burnAddr : Addr} {msgs : List CosmosMsg}
    (h : Handled s o operationResult result txHash tokenFactoryAddr burnAddr s' msgs)
    (hty : o.operationType.isAllocation = true ∨ o.operationType.isRotation = true) : msgs = [] := by
  cases h with
  | burnt ht => simp [ht] at hty
  | refunded ht => simp [ht] at hty
  | released ht => simp [ht] at hty
  | _ => rfl

theorem Contract.Effect.noMessages {q : Querier} {env : BlockInfo} {sender : Addr} {funds : List Coin}
    {e : ResultEvidence} {ms : List SubMsg}
    (h : Effect H s q env sender funds (.saveEvidence (.xrplTransactionResult e)) s' ms)
    (hid : e.operationId = some k) (ho : s.pendingOperations[k]? = some o)
    (hty : o.operationType.isAllocation = true ∨ o.operationType.isRotation = true) : ms = [] := by
  cases h with
  | voted => rfl
  | completed _ _ _ hid' ho' _ hh =>
    rw [hid] at hid'
    cases hid'
    rw [ho] at ho'
    cases ho'
    rw [hh.noMessages hty]
    rfl

/-- A relayer who has not voted yet. -/
theorem Quorum.exists_new (h : Quorum s) (hash : String) :
    ∃ a, isRelayer s a = true ∧ a ∉ s.voters hash := by
  by_contra hn
  push Not at hn
  have hsub : s.config.relayers.map Relayer.cosmosAddress ⊆ s.voters hash := by
    intro a ha
    obtain ⟨r, hr, rfl⟩ := List.mem_map.mp ha
    exact hn _ (List.any_eq_true.mpr ⟨r, hr, by simp⟩)
  have hle := List.Nodup.length_le_of_subset h.relayers.cosmos hsub
  have hlt := (h.voters hash).lt
  have := h.relayers.le
  rw [List.length_map] at hle
  omega

/-- The vote of `a` for the other kind. -/
def otherVote (a : Addr) (k : ℕ) (o : Operation) : Call where
  env := ⟨0, 0⟩
  sender := a
  funds := []
  msg := .saveEvidence (.xrplTransactionResult (otherKind k o))
  accepts _ := true

/-- Someone can vote for the other kind; the vote ends the operation, or is stored. -/
theorem exists_otherVote (h : Started H w) (calls : List Call)
    (ho : (run (step H) w calls).store.pendingOperations[k]? = some o)
    (hty : o.operationType.isAllocation = true ∨ o.operationType.isRotation = true) :
    let s := (run (step H) w calls).store
    let e := Evidence.xrplTransactionResult (otherKind k o)
    ∃ a w' r, step H (run (step H) w calls) (otherVote a k o) = .ok (w', r) ∧
      (s.reaches H e = false → w'.store = { s with
        txEvidences := s.txEvidences.insert (e.getHash H) ⟨s.voters (e.getHash H) ++ [a]⟩ }) := by
  intro s e
  obtain ⟨a, hrel, hnew⟩ := (run_quorum h calls).exists_new (e.getHash H)
  have hkind : checkSequenceKind o.operationType (otherKind k o) = .ok () := by
    cases ht : o.operationType with
    | trustSet => simp [ht] at hty
    | cosmosToXRPLTransfer => simp [ht] at hty
    | _ => rfl
  have hvotable : Votable H s a (otherKind k o) k o :=
    ⟨hrel, validateBasic_otherKind, rfl, hnew, operationId_otherKind, ho, hkind⟩
  obtain ⟨s', r, hs'⟩ : ∃ s' r, execute H s ((run (step H) w calls).bank.credit []).querier ⟨0, 0⟩ a []
      (.saveEvidence e) = .ok (s', r) :=
    hvotable.execute_ok fun _ _ _ _ => completeOperation_otherKind hty
  have heff := effect_of_execute hs'
  have hm : r.messages = [] := heff.noMessages operationId_otherKind ho hty
  exact ⟨a, _, r, step_ok hs' hm, fun hr => (heff.collected hr).2⟩

/-- **A pending allocation or rotation can be ended by the other kind**: the relayers who
have not voted do so one after the other, until the threshold is reached. -/
theorem exists_otherKind (h : Started H w) (missing : ℕ) (calls : List Call)
    (ho : (run (step H) w calls).store.pendingOperations[k]? = some o)
    (hty : o.operationType.isAllocation = true ∨ o.operationType.isRotation = true)
    (hm : (run (step H) w calls).store.config.evidenceThreshold ≤
      ((run (step H) w calls).store.voters
        ((Evidence.xrplTransactionResult (otherKind k o)).getHash H)).length + missing) :
    ∃ later c w' r, (run (step H) w (calls ++ later)).store.pendingOperations[k]? = some o ∧
      step H (run (step H) w (calls ++ later)) c = .ok (w', r) ∧
      completion H (run (step H) w (calls ++ later)).store c.msg = some ⟨k, o, otherKind k o⟩ := by
  induction missing generalizing calls with
  | zero =>
    have := ((run_quorum h calls).voters ((Evidence.xrplTransactionResult (otherKind k o)).getHash H)).lt
    omega
  | succ n ih =>
    obtain ⟨a, w', r, hstep, hstored⟩ := exists_otherVote h calls ho hty
    cases hr : (run (step H) w calls).store.reaches H (.xrplTransactionResult (otherKind k o)) with
    | true =>
      refine ⟨[], otherVote a k o, w', r, ?_⟩
      rw [List.append_nil]
      exact ⟨ho, hstep, completion_of_reaches hr operationId_otherKind ho⟩
    | false =>
      have hs' := hstored hr
      rw [← run_snoc_ok hstep] at hs'
      obtain ⟨later, c, hlater⟩ := ih (calls ++ [otherVote a k o]) (by rw [hs']; exact ho) (by
        rw [hs']
        simp only [Storage.voters, getElem?_insert_self', Option.map_some, Option.getD_some,
          List.length_append, List.length_singleton] at hm ⊢
        omega)
      rw [List.append_assoc] at hlater
      exact ⟨otherVote a k o :: later, c, hlater⟩

/-- **The kinds agree for a TrustSet and a transfer, and only for them.** However a run goes on
from a state in which an operation is pending, the call that ends it names its kind of
sequence and accounts for its ticket, exactly if it is a TrustSet or a transfer. -/
theorem sequenceKind_iff (h : Started H w) (calls : List Call)
    (ho : (run (step H) w calls).store.pendingOperations[k]? = some o) :
    (∀ later c w' r e, (run (step H) w (calls ++ later)).store.pendingOperations[k]? = some o →
        step H (run (step H) w (calls ++ later)) c = .ok (w', r) →
        completion H (run (step H) w (calls ++ later)).store c.msg = some e → e.operationId = k →
        KindAgrees (run (step H) w (calls ++ later)).store w'.store e) ↔
      o.operationType.isAllocation = false ∧ o.operationType.isRotation = false := by
  constructor
  · intro hall
    by_contra hn
    have hty : o.operationType.isAllocation = true ∨ o.operationType.isRotation = true := by
      cases ha : o.operationType.isAllocation <;> cases hr : o.operationType.isRotation <;> simp_all
    obtain ⟨later, c, w', r, ho', hstep, hcomp⟩ := exists_otherKind h _ calls ho hty (Nat.le_add_left _ _)
    exact not_sameKind_otherKind (hall later c w' r _ ho' hstep hcomp rfl).kind
  · rintro ⟨ha, hr⟩ later c w' r e ho' hstep hcomp rfl
    have hcreated := run_created h (calls ++ later)
    have hbooks := (run_effect h hstep).books
    rw [hcomp] at hbooks
    obtain ⟨-, -, -, hpend⟩ := completion_eq_some hcomp
    rw [ho'] at hpend
    have heq : o = e.operation := Option.some.inj hpend
    subst heq
    apply hbooks.agrees hcreated
    cases hbooks with
    | completed hp _ hv hk => exact sameKind_of_checkSequenceKind (hcreated _ _ hp) hv hk ha hr

open Reference in
/-- A transfer on the ticket 1 is ended by its own kind of sequence, and a rotation of keys on the ticket 1 can be
ended by the other one. -/
theorem sequenceKind_iff_tickets :
    (let w := run (step host) world₁ [recover, vote 2 relayer₁ allocation, send 3 5000000]
      let c := vote 4 relayer₁ (.xrplTransactionResult ⟨some "cd34", none, some 1, .rejected, none⟩)
      ∃ w' r e, step host w c = .ok (w', r) ∧ completion host w.store c.msg = some e ∧
        KindAgrees w.store w'.store e) ∧
      ¬ ∀ later c w' r e,
        (run (step host) world₁ ([recover, vote 2 relayer₁ allocation, rotate] ++ later)).store.pendingOperations[1]? =
          some ⟨"3-1", 1, some 1, none, [], .rotateKeys [relayer₂] 1, 10⟩ →
        step host (run (step host) world₁ ([recover, vote 2 relayer₁ allocation, rotate] ++ later)) c =
          .ok (w', r) →
        completion host (run (step host) world₁
          ([recover, vote 2 relayer₁ allocation, rotate] ++ later)).store c.msg = some e → e.operationId = 1 →
        KindAgrees (run (step host) world₁
          ([recover, vote 2 relayer₁ allocation, rotate] ++ later)).store w'.store e := by
  constructor
  · intro w c
    have ho : (run (step host) world₁ [recover, vote 2 relayer₁ allocation,
        send 3 5000000]).store.pendingOperations[1]? = some ⟨"3-1", 1, some 1, none, [],
          .cosmosToXRPLTransfer xrpIssuer xrpCurrency 5000000 none user relayer₃.xrplAddress, 10⟩ := by decide +kernel
    obtain ⟨⟨w', r⟩, hstep⟩ := exists_of_isOk (x := step host w c) (by decide +kernel)
    have hids : (completion host w.store c.msg).map Completion.operationId = some 1 := by decide +kernel
    obtain ⟨e, hcomp, hid⟩ := Option.map_eq_some_iff.mp hids
    have hagree := (sequenceKind_iff started_world₁ _ ho).mpr ⟨rfl, rfl⟩ [] c w' r e
    rw [List.append_nil] at hagree
    exact ⟨w', r, e, hstep, hcomp, hagree ho hstep hcomp hid⟩
  · exact fun hall => absurd ((sequenceKind_iff started_world₁ _ (by decide +kernel)).mp hall) (by decide)

open Reference in
/-- The rotation of keys was created on the ticket 1 and is ended by the account sequence 1:
the ticket is neither given back nor counted as used. -/
theorem sequenceKind_rotation :
    let w := run (step host) world₁ [recover, vote 2 relayer₁ allocation, rotate]
    let c := vote 4 relayer₁ (.xrplTransactionResult ⟨some "cd34", some 1, none, .accepted, none⟩)
    (step host w c).isOk = true ∧
      ((completion host w.store c.msg).any fun e => ¬ e.SameKind) = true ∧
      (commit (step host) w c).store.availableTickets = [2, 3] ∧
      w.store.usedTicketsCounter = 0 ∧ (commit (step host) w c).store.usedTicketsCounter = 0 ∧
      (commit (step host) w c).store.pendingOperations[1]? = none := by
  decide +kernel

end XrplBridge
