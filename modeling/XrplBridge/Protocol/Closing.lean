import XrplBridge.Protocol.Flags
import XrplBridge.Protocol.Tickets
import XrplBridge.Protocol.Tokens
import XrplBridge.Protocol.Voting

/-!
# A quorum can close every pending operation

An error in the call that reaches the threshold reverts the vote, and the operation would be
pending for good. There is none: the tokens of a pending operation are registered
(`Registered`), what it sends can be converted back, and the next ticket in the queue is
never the number of another pending operation, so that an allocation that becomes due can
be created on it. The counter of used tickets is behind the tickets that were used up
(`Counted`), and fits.
-/

namespace XrplBridge

open Library Contract Std

variable {H : Host} {s s' : Storage} {w : World} {k : ℕ} {o : Operation} {bridge : String}

/-! ### The end of an operation goes through -/

/-- The end of a transfer of a registered token goes through. -/
theorem transferConfirmation_ok {issuer currency recipient : String} {amount : ℕ} {maxAmount : Option ℕ}
    {sender : Addr} {result : TransactionResult} {txHash : Option String} {tokenFactoryAddr burnAddr : Addr}
    {r : Response} (ho : s.pendingOperations[k]? = some o)
    (ht : o.operationType = .cosmosToXRPLTransfer issuer currency amount maxAmount sender recipient)
    (hc : s.registry.Covers bridge o.operationType) :
    ∃ x, handleCosmosToXRPLTransferConfirmation s result txHash k tokenFactoryAddr burnAddr r = .ok x := by
  rw [ht] at hc
  unfold handleCosmosToXRPLTransferConfirmation
  rw [ho, orFail_some_bind, ht]
  dsimp only
  cases hkey : s.xrplTokens.primary[buildXRPLTokenKey issuer currency]? with
  | some token =>
    dsimp only
    split_ifs
    · exact ⟨_, rfl⟩
    · exact ⟨_, rfl⟩
  | none =>
    dsimp only
    split_ifs
    · exact ⟨_, rfl⟩
    · cases hc with
      | xrplTransfer hreg =>
        rw [registry_xrpl_none hkey] at hreg
        cases hreg
      | cosmosTransfer hreg hback =>
        obtain ⟨token, htoken, rfl⟩ := exists_cosmosToken hreg
        have hitem : s.cosmosTokens.item token.name.xrplCurrency = some (token.name.denom, token) :=
          IndexedMap.item_eq_some.mpr ⟨htoken, rfl⟩
        rw [hitem]
        exact ⟨_, bind_eq_ok.mpr ⟨amount, rfl, bind_eq_ok.mpr ⟨_, hback, rfl⟩⟩⟩

/-- The handler of an operation on registered tokens goes through. -/
theorem runHandler_ok {operationResult : Option OperationResult} {result : TransactionResult}
    {txHash : Option String} {tokenFactoryAddr burnAddr : Addr} {r : Response}
    (ho : s.pendingOperations[k]? = some o) (hc : s.registry.Covers bridge o.operationType)
    (hall : o.operationType.isAllocation = true → ∃ tickets, operationResult = some (.ticketsAllocation tickets) ∧
      (result = .accepted → tickets.isSome = true)) :
    ∃ x, runHandler s o operationResult result txHash k tokenFactoryAddr burnAddr r = .ok x := by
  unfold runHandler
  cases ht : o.operationType with
  | allocateTickets number =>
    obtain ⟨tickets, rfl, hsome⟩ := hall (by rw [ht]; rfl)
    dsimp only
    unfold handleTicketAllocationConfirmation
    split_ifs with hacc
    · obtain ⟨ts, rfl⟩ := Option.isSome_iff_exists.mp (hsome hacc)
      exact ⟨_, rfl⟩
    · exact ⟨_, rfl⟩
  | trustSet issuer currency limit =>
    rw [ht] at hc
    cases hc with
    | trustSet hreg =>
      obtain ⟨token, htoken, -⟩ := exists_xrplToken hreg
      obtain ⟨m, hm⟩ := IndexedMap.save_same_index htoken (show XRPLToken.cosmosDenom token =
        XRPLToken.cosmosDenom { token with state := if result = .accepted then .enabled else .inactive } from rfl)
      exact ⟨_, bind_eq_ok.mpr ⟨_, bind_eq_ok.mpr ⟨token, orFail_eq_ok.mpr htoken,
        bind_eq_ok.mpr ⟨m, orFail_eq_ok.mpr hm, rfl⟩⟩, rfl⟩⟩
  | rotateKeys => exact ⟨_, rfl⟩
  | cosmosToXRPLTransfer => exact transferConfirmation_ok ho ht hc

/-- A ticket can be registered: the counter fits, and the next ticket is free. -/
structure Books.Ready (b : Books) : Prop where
  fits : b.used + 1 < u32Bound
  free : b.updating = false → ∀ t ∈ b.available.head?, b.pending[t]? = none

/-- The end of an operation on registered tokens goes through, if its ticket can be registered. -/
theorem completeOperation_ok {env : BlockInfo} {e : ResultEvidence} {r : Response}
    (ho : s.pendingOperations[k]? = some o) (hc : s.registry.Covers bridge o.operationType)
    (hall : o.operationType.isAllocation = true → ∃ tickets, e.operationResult = some (.ticketsAllocation tickets) ∧
      (e.transactionResult = .accepted → tickets.isSome = true))
    (hready : e.transactionResult ≠ .invalid → e.ticketSequence.isSome = true →
      (s.books.finish k o.operationType e.transactionResult e.tickets e.ticketSequence).Ready) :
    ∃ s' r' msgs, completeOperation H s env e k o r = .ok (s', r', msgs) := by
  obtain ⟨⟨s₁, r₁, msgs⟩, hrun⟩ : ∃ x, runHandler s o e.operationResult e.transactionResult e.txHash k
      s.config.tokenFactoryAddr H.contract r = .ok x := runHandler_ok ho hc hall
  obtain ⟨_, -, hhandled⟩ := handled_of_ok ho hrun
  have hfin := hhandled.finish k e.ticketSequence
  have hreg : ∃ x, registerTicketOf (endOperation s₁ e.transactionResult k e.ticketSequence) e env.seconds = .ok x := by
    unfold registerTicketOf
    split_ifs with hcond
    · have hr := hready hcond.1 hcond.2
      change _ = s.books.finish k o.operationType e.transactionResult e.tickets e.ticketSequence at hfin
      rw [← hfin] at hr
      have hfree : ∀ t ∈ (endOperation s₁ e.transactionResult k e.ticketSequence).availableTickets.head?,
          (endOperation s₁ e.transactionResult k e.ticketSequence).pendingTicketUpdate = false →
            (endOperation s₁ e.transactionResult k e.ticketSequence).pendingOperations[t]? = none := by
        intro t ht hno
        have := hr.free hno t ht
        rwa [pending_books, Option.map_eq_none_iff] at this
      obtain ⟨b, s₂, hs₂⟩ : ∃ b s₂, registerUsedTicket _ env.seconds = .ok (b, s₂) :=
        registerUsedTicket_ok hr.fits fun hno t ht => hfree t ht hno
      exact ⟨_, hs₂⟩
    · exact ⟨_, rfl⟩
  obtain ⟨⟨b, s₂⟩, hs₂⟩ := hreg
  exact ⟨_, _, _, bind_eq_ok.mpr ⟨_, bind_eq_ok.mpr ⟨_, hrun, rfl⟩, bind_eq_ok.mpr ⟨_, hs₂, rfl⟩⟩⟩

/-! ### The next ticket is free -/

/-- An operation that holds a ticket is pending under its number. -/
theorem Entry.Created.ticket_eq {e : Entry} {t : ℕ} (h : e.Created k) (ht : e.ticketSequence = some t) : t = k := by
  cases h with
  | onTicket => exact (Option.some.inj ht).symm
  | onAccount => cases ht

namespace Books

variable {b b' : Books} {l : Option Completion} {e : Entry}

/-- The tickets that are left once an operation has ended are apart from each other and from
the one that is used up, as long as those that are allocated are new. -/
theorem nodup_finish (hk : b.pending[k]? = some e) {result : TransactionResult} {tickets : List ℕ}
    (hnew : (b.available ++ b.held ++
      if e.operationType.isAllocation = true ∧ result = .accepted then tickets else []).Nodup) :
    let f := b.finish k e.operationType result tickets e.ticketSequence
    f.available.Disjoint f.held ∧ ∀ t ∈ f.available, result ≠ .invalid → e.ticketSequence ≠ some t := by
  intro f
  have hnodup := (finish_tickets hk result tickets).nodup_iff.mpr hnew
  rw [List.nodup_append', List.nodup_append', List.disjoint_append_left] at hnodup
  obtain ⟨⟨-, -, hdis⟩, -, hspent, -⟩ := hnodup
  refine ⟨hdis, fun t ht hvalid heq => hspent ht ?_⟩
  rw [if_neg hvalid, heq]
  exact List.mem_singleton.mpr rfl

/-- **The next ticket is not the number of a pending operation**, when no allocation is
pending: a ticket that is held is not available, and only an allocation has another number. -/
theorem free_finish (hc : b.Created) (hf : b.Flags) (hk : b.pending[k]? = some e) {result : TransactionResult}
    {tickets : List ℕ} (hnew : (b.available ++ b.held ++
      if e.operationType.isAllocation = true ∧ result = .accepted then tickets else []).Nodup)
    (hno : (b.finish k e.operationType result tickets e.ticketSequence).updating = false) :
    ∀ t ∈ (b.finish k e.operationType result tickets e.ticketSequence).available.head?,
      (b.finish k e.operationType result tickets e.ticketSequence).pending[t]? = none := by
  intro t ht
  by_contra hsome
  obtain ⟨x, hx⟩ := Option.ne_none_iff_exists'.mp hsome
  have hcreated := hc.finish k e.operationType result tickets e.ticketSequence t x hx
  cases hcreated with
  | onTicket =>
    apply (nodup_finish hk hnew).1 (List.mem_of_mem_head? ht)
    exact mem_collect.mpr ⟨t, _, hx, rfl⟩
  | onAccount =>
    have hcount := (hf.finish hk result tickets e.ticketSequence).updating
    rw [hno, Bool.toNat_false] at hcount
    have := count_eq_zero.mp hcount t _ hx
    cases this

/-- The operation that ends is removed: its ticket is not the next one. -/
theorem Step.removed {c : Completion} (hs : b.Step (some c) b') (hc : b.Created) (hk : c.SameKind)
    (hnew : (b.available ++ b.held ++
      if c.operation.operationType.isAllocation = true ∧ c.evidence.transactionResult = .accepted
      then c.evidence.tickets else []).Nodup) : b'.pending[c.operationId]? = none := by
  cases hs with
  | completed hp hn _ _ _ hset =>
    have hticket := hk.ticketSequence_eq (hc _ _ hp) hn
    by_contra hsome
    obtain ⟨x, hx⟩ := Option.ne_none_iff_exists'.mp hsome
    split_ifs at hset with hcond
    · rw [hticket] at hset hcond
      rcases hset.pending hx with ⟨⟨-, hhead⟩, -⟩ | ⟨-, hold⟩
      · have hown := (nodup_finish hp hnew).2 _ (List.mem_of_mem_head? hhead) hcond.1
        obtain ⟨t, ht⟩ := Option.isSome_iff_exists.mp hcond.2
        exact hown (ht.trans (congrArg some ((hc _ _ hp).ticket_eq ht)))
      · rw [pending_finish, getElem?_erase_self'] at hold
        cases hold
    · rw [hset, pending_finish, getElem?_erase_self'] at hx
      cases hx

/-! ### The counter fits -/

/-- The counter of used tickets is not ahead of the tickets that were used up. It is behind
them from the second allocation on: the first lasts until a ticket has been used. -/
structure Counted (cs : List Completion) (b : Books) : Prop where
  le : b.used ≤ (spentTickets cs).length
  behind : b.used < (spentTickets cs).length ∨ (allocatedTickets cs).length < u32Bound
  first : spentTickets cs = [] → allocatedTickets cs ≠ [] → b.available ≠ [] ∧ b.updating = false

/-- While an allocation is pending, the flag is set. -/
theorem Flags.updating_of_pending (h : b.Flags) (hk : b.pending[k]? = some e)
    (ha : e.operationType.isAllocation = true) : b.updating = true := by
  have hcount := h.updating
  rw [count_erase hk, if_pos ha] at hcount
  cases hb : b.updating with
  | true => rfl
  | false =>
    rw [hb, Bool.toNat_false] at hcount
    omega

/-- Tickets are only allocated by an allocation that was pending. -/
theorem Step.updating_of_allocated (hs : b.Step l b') (hf : b.Flags) (hne : allocatedTickets l.toList ≠ []) :
    b.updating = true := by
  cases hs with
  | completed hp =>
    rw [allocatedTickets_some] at hne
    split_ifs at hne with hacc
    · exact hf.updating_of_pending hp hacc.1
    · exact absurd rfl hne
  | _ => exact absurd rfl hne

theorem length_allocated_lt (hlen : ∀ c ∈ l, c.evidence.tickets.length < u32Bound) :
    (allocatedTickets l.toList).length < u32Bound := by
  cases l with
  | none => decide
  | some c =>
    rw [allocatedTickets_some]
    split_ifs
    · exact hlen c rfl
    · decide

/-- A step that uses up no ticket leaves one available, once there have been any. -/
theorem Counted.first_step {cs : List Completion} (h : Counted cs b) (hs : b.Step l b') (hc : b.Created)
    (hk : ∀ c ∈ l, c.SameKind) (hspent : spentTickets cs = []) (hnone : spentTickets l.toList = [])
    (hall : allocatedTickets cs ≠ [] ∨ allocatedTickets l.toList ≠ []) :
    b'.available ≠ [] ∧ b'.updating = false := by
  have hfirst : allocatedTickets l.toList = [] → b.available ≠ [] ∧ b.updating = false :=
    fun hl => h.first hspent (hall.resolve_right fun hne => hne hl)
  cases hs with
  | kept | retuned | halted | resumed => exact hfirst rfl
  | opened _ hts => exact ⟨hts, (hfirst rfl).2⟩
  | rotating _ hts => exact ⟨hts, (hfirst rfl).2⟩
  | recovering hempty => exact absurd hempty (hfirst rfl).1
  | @cancelled k e =>
    obtain ⟨hne, hno⟩ := hfirst rfl
    refine ⟨fun hempty => hne (available_finish _ _ _ _ _ _ hempty), ?_⟩
    rw [finish_eq, hno, Bool.and_false]
  | @completed c _ hp hn _ _ hdel hset =>
    have hticket : c.evidence.ticketSequence = c.operation.ticketSequence :=
      (hk c rfl).ticketSequence_eq (hc _ _ hp) hn
    rw [spentTickets_some, ← hticket] at hnone
    rw [allocatedTickets_some] at hfirst
    have hset' : b' = b.finish c.operationId c.operation.operationType c.evidence.transactionResult
        c.evidence.tickets c.evidence.ticketSequence := by
      split_ifs at hset with hcond
      · rw [if_neg hcond.1, Option.toList_eq_nil_iff] at hnone
        rw [hnone] at hcond
        cases hcond.2
      · exact hset
    rw [hset']
    split_ifs at hfirst with hacc
    · -- the allocation that has been accepted
      rw [finish_eq, if_pos hacc, hacc.1]
      refine ⟨fun hempty => ?_, rfl⟩
      refine hdel ?_ (List.append_eq_nil_iff.mp hempty).2
      simp [Completion.isAllocation, hacc]
    · obtain ⟨hne, hno⟩ := hfirst rfl
      refine ⟨fun hempty => hne (available_finish _ _ _ _ _ _ hempty), ?_⟩
      rw [finish_eq, hno, Bool.and_false]

/-- Every step keeps the counter behind. -/
theorem Counted.step {cs : List Completion} (h : Counted cs b) (hs : b.Step l b') (hc : b.Created) (hf : b.Flags)
    (hk : ∀ c ∈ l, c.SameKind) (hlen : ∀ c ∈ l, c.evidence.tickets.length < u32Bound) :
    Counted (cs ++ l.toList) b' := by
  have hused := hs.used hc hk
  have hle := h.le
  have hsp : spentTickets (cs ++ l.toList) = spentTickets cs ++ spentTickets l.toList := List.flatMap_append
  have hal : allocatedTickets (cs ++ l.toList) = allocatedTickets cs ++ allocatedTickets l.toList :=
    List.flatMap_append
  refine ⟨?_, ?_, ?_⟩
  · rw [hsp, List.length_append]
    omega
  · rw [hsp, hal, List.length_append, List.length_append]
    rcases h.behind with hlt | hsmall
    · exact .inl (by omega)
    · by_cases hnone : allocatedTickets l.toList = []
      · rw [hnone, List.length_nil, Nat.add_zero]
        exact .inr hsmall
      have hpos := List.length_pos_iff.mpr hnone
      rcases Nat.eq_zero_or_pos (spentTickets cs).length with hzero | hsome
      · -- no ticket has been used: this is the first allocation
        have hfirst : allocatedTickets cs = [] := by
          by_contra hne
          have hno := (h.first (List.length_eq_zero_iff.mp hzero) hne).2
          rw [hs.updating_of_allocated hf hnone] at hno
          cases hno
        rw [hfirst, List.length_nil, Nat.zero_add]
        exact .inr (length_allocated_lt hlen)
      · exact .inl (by omega)
  · rw [hsp, hal]
    intro hnil hne
    obtain ⟨h₁, h₂⟩ := List.append_eq_nil_iff.mp hnil
    apply h.first_step hs hc hk h₁ h₂
    by_contra hn
    push Not at hn
    exact hne (by rw [hn.1, hn.2, List.append_nil])

end Books

/-! ### In every run -/

theorem run_counted (h : Started H w) (calls : List Call) (hkind : ∀ c ∈ completions H w calls, c.SameKind)
    (hlen : ∀ c ∈ completions H w calls, c.evidence.tickets.length < u32Bound) :
    Books.Counted (completions H w calls) (run (step H) w calls).store.books := by
  refine (run_books (P := fun cs b => b.Created ∧ b.Flags ∧ ((∀ c ∈ cs, c.SameKind) →
    (∀ c ∈ cs, c.evidence.tickets.length < u32Bound) → Books.Counted cs b)) h ?_ ?_ calls).2.2 hkind hlen
  · intro t _ _
    refine ⟨fun k e hk => by simp [Books.initial] at hk, .initial t, fun _ _ => ⟨le_rfl, .inr (by decide), ?_⟩⟩
    exact fun _ hne => absurd rfl hne
  · rintro cs b l b' ⟨hc, hf, ih⟩ hs
    refine ⟨hc.step hs, hf.step hs, fun hk hl => ?_⟩
    have hold := ih (fun c hcs => hk c (List.mem_append_left _ hcs)) fun c hcs => hl c (List.mem_append_left _ hcs)
    exact hold.step hs hc hf (fun c hcl => hk c (List.mem_append_right _ (Option.mem_toList.mpr hcl)))
      fun c hcl => hl c (List.mem_append_right _ (Option.mem_toList.mpr hcl))

/-- The tickets that are available, held, or about to be allocated are apart from each other. -/
theorem run_nodup (h : Started H w) (calls : List Call) {e : ResultEvidence}
    (hkind : ∀ c ∈ completions H w calls, c.SameKind)
    (hfresh : (allocatedTickets (completions H w calls ++ [⟨k, o, e⟩])).Nodup) :
    ((run (step H) w calls).store.books.available ++ (run (step H) w calls).store.books.held ++
      if o.operationType.isAllocation = true ∧ e.transactionResult = .accepted then e.tickets else []).Nodup := by
  have hperm := run_tickets h calls hkind
  have hlast : allocatedTickets [⟨k, o, e⟩] =
      if o.operationType.isAllocation = true ∧ e.transactionResult = .accepted then e.tickets else [] :=
    allocatedTickets_some ⟨k, o, e⟩
  rw [allocatedTickets, List.flatMap_append] at hfresh
  change (allocatedTickets (completions H w calls) ++ allocatedTickets [⟨k, o, e⟩]).Nodup at hfresh
  rw [hlast] at hfresh
  refine List.Nodup.sublist ?_ ((hperm.append_right _).nodup_iff.mpr hfresh)
  exact (List.sublist_append_left _ _).append (List.Sublist.refl _)

/-- When an operation is about to end, its ticket can be registered. -/
theorem run_ready (h : Started H w) (calls : List Call) {e : ResultEvidence}
    (hkind : ∀ c ∈ completions H w calls, c.SameKind)
    (hlen : ∀ c ∈ completions H w calls, c.evidence.tickets.length < u32Bound)
    (hfew : (spentTickets (completions H w calls)).length < u32Bound)
    (hfresh : (allocatedTickets (completions H w calls ++ [⟨k, o, e⟩])).Nodup)
    (ho : (run (step H) w calls).store.pendingOperations[k]? = some o)
    (hticket : o.ticketSequence.isSome = true) :
    ((run (step H) w calls).store.books.finish k o.operationType e.transactionResult e.tickets
      o.ticketSequence).Ready := by
  have hpend : (run (step H) w calls).store.books.pending[k]? = some o.entry := by simp [ho]
  have hcounted := run_counted h calls hkind hlen
  constructor
  · have hle : ((run (step H) w calls).store.books.finish k o.operationType e.transactionResult e.tickets
        o.ticketSequence).used ≤ (run (step H) w calls).store.books.used := by
      rw [Books.finish_eq]
      dsimp only
      split_ifs
      · exact Nat.sub_le _ _
      · exact le_rfl
    have hused := hcounted.le
    rcases hcounted.behind with hlt | hsmall
    · omega
    · -- the operation holds a ticket of its own
      have hlength := (run_tickets h calls hkind).length_eq
      obtain ⟨t, ht⟩ := Option.isSome_iff_exists.mp hticket
      have hheld := List.length_pos_of_mem ((mem_collect (f := Entry.ticketSequence)).mpr ⟨k, o.entry, hpend, ht⟩)
      simp only [List.length_append, Books.held] at hlength
      omega
  · exact Books.free_finish (run_created h calls) (run_flags h calls) hpend (run_nodup h calls hkind hfresh)

/-- An evidence with a hash that has not been processed is not refused. -/
theorem checkNotProcessed_ok {e : ResultEvidence} (hvalid : (Evidence.xrplTransactionResult e).validateBasic = .ok ())
    (h : ∀ txHash, e.txHash = some txHash → s.processedTxs.contains (toUppercase H txHash) = false) :
    checkNotProcessed H s (.xrplTransactionResult e) = .ok () := by
  unfold checkNotProcessed
  split_ifs with hexecuted
  · have hsome := (validateBasic_result hvalid).2.1 (by simpa [Evidence.isOperationValid] using hexecuted)
    obtain ⟨txHash, ht⟩ := Option.isSome_iff_exists.mp hsome
    refine bind_eq_ok.mpr ⟨toUppercase H txHash, bind_eq_ok.mpr ⟨txHash, unwrap_eq_ok.mpr ht, rfl⟩, ?_⟩
    rw [failIf_eq_ok, h txHash ht]
    exact Bool.false_ne_true
  · rfl

/-- An evidence that names the operation's own kind of sequence passes the check. -/
theorem checkSequenceKind_ok {e : ResultEvidence} (hc : o.entry.Created k) (hk : (Completion.mk k o e).SameKind) :
    checkSequenceKind o.operationType e = .ok () := by
  have hacc := hk.account
  generalize he : o.entry = entry at hc
  have ha : o.accountSequence = entry.accountSequence := congrArg Entry.accountSequence he
  have ht : o.operationType = entry.operationType := congrArg Entry.operationType he
  cases hc with
  | onTicket =>
    change e.accountSequence.isSome = o.accountSequence.isSome at hacc
    rw [ha] at hacc
    unfold checkSequenceKind
    split
    · exact failIf_eq_ok.mpr (by rw [hacc]; exact Bool.false_ne_true)
    · exact failIf_eq_ok.mpr (by rw [hacc]; exact Bool.false_ne_true)
    · rfl
  | onAccount =>
    rw [ht]
    rfl

/-- If the messages of a call are delivered, the call goes through. -/
theorem dispatch_ok {accepts : CosmosMsg → Bool} {W : World} {ms : List SubMsg} {bank : Bank}
    (h : deliverAll H accepts W.bank ms = some bank) : dispatch H accepts W ms = .ok ⟨W.store, bank⟩ := by
  induction ms generalizing W with
  | nil => cases h; rfl
  | cons m ms ih =>
    rw [deliverAll, List.foldlM_cons] at h
    obtain ⟨b, hb, h⟩ := Option.bind_eq_some_iff.mp h
    rw [dispatch, hb]
    exact ih h

/-- **A quorum can always close a pending operation.** In every run whose evidences name the
kinds of their operations, with fewer than 2^32 tickets used up so far, the vote that reaches
the threshold for a result of a pending operation, whatever the result, is accepted and
removes the operation, as long as the tickets that are allocated are new. (A list of tickets
has fewer than 2^32 entries, as every vector of the contract.) -/
theorem pendingOperation_closable (h : Started H w) (calls : List Call) {e : ResultEvidence} {c : Call}
    (hkind : ∀ c ∈ completions H w calls, c.SameKind)
    (hlen : ∀ c ∈ completions H w calls, c.evidence.tickets.length < u32Bound)
    (hfew : (spentTickets (completions H w calls)).length < u32Bound)
    (hfresh : (allocatedTickets (completions H w calls ++ [⟨k, o, e⟩])).Nodup)
    (ho : (run (step H) w calls).store.pendingOperations[k]? = some o)
    (hvalid : (Evidence.xrplTransactionResult e).validateBasic = .ok ()) (hn : e.operationId = some k)
    (hagrees : (Completion.mk k o e).SameKind)
    (hunprocessed : ∀ txHash, e.txHash = some txHash →
      (run (step H) w calls).store.processedTxs.contains (toUppercase H txHash) = false)
    (hallocation : o.operationType.isAllocation = true → e.operationResult.isSome = true)
    (hmsg : c.msg = .saveEvidence (.xrplTransactionResult e))
    (hrelayer : isRelayer (run (step H) w calls).store c.sender = true)
    (hnew : c.sender ∉ (run (step H) w calls).store.voters ((Evidence.xrplTransactionResult e).getHash H))
    (hreach : (run (step H) w calls).store.reaches H (.xrplTransactionResult e) = true) :
    ∃ s' r, execute H (run (step H) w calls).store ((run (step H) w calls).bank.credit c.funds).querier c.env
        c.sender c.funds c.msg = .ok (s', r) ∧ s'.pendingOperations[k]? = none ∧
      ∀ bank, deliverAll H c.accepts ((run (step H) w calls).bank.credit c.funds) r.messages = some bank →
        step H (run (step H) w calls) c = .ok (⟨s', bank⟩, r) := by
  have hpend : (run (step H) w calls).store.books.pending[k]? = some o.entry := by simp [ho]
  have hcreated := run_created h calls k o.entry hpend
  have hticket : e.ticketSequence = o.ticketSequence := hagrees.ticketSequence_eq hcreated hn
  have hvotable : Votable H (run (step H) w calls).store c.sender e k o :=
    ⟨hrelayer, hvalid, checkNotProcessed_ok hvalid hunprocessed, hnew, hn, ho, checkSequenceKind_ok hcreated hagrees⟩
  have hexec : ∃ s' r, execute H (run (step H) w calls).store ((run (step H) w calls).bank.credit c.funds).querier
      c.env c.sender c.funds c.msg = .ok (s', r) := by
    rw [hmsg]
    apply hvotable.execute_ok
    intro _ s₁ r hvotes
    obtain ⟨_, _, hframe⟩ := hvotes.frame
    have hcovers := (run_registered h calls).covered k o.entry hpend
    rw [← hvotes.registry] at hcovers
    refine completeOperation_ok (by rw [hframe]; exact ho) hcovers (fun hall => ?_) fun hv hsome => ?_
    · obtain ⟨⟨tickets⟩, hres⟩ := Option.isSome_iff_exists.mp (hallocation hall)
      refine ⟨tickets, hres, fun hacc => ?_⟩
      have := (validateBasic_result hvalid).2.2.2 tickets hres
      rw [if_pos hacc] at this
      obtain ⟨ts, rfl, -⟩ := this
      rfl
    · rw [hticket] at hsome
      rw [hvotes.books, hticket]
      exact run_ready h calls hkind hlen hfew hfresh ho hsome
  obtain ⟨s', r, hexec⟩ := hexec
  refine ⟨s', r, hexec, ?_, fun bank hbank => bind_eq_ok.mpr ⟨_, hexec, bind_eq_ok.mpr ⟨_, dispatch_ok hbank, rfl⟩⟩⟩
  have hbooks := (effect_of_execute hexec).books
  rw [hmsg, completion_of_reaches hreach hn ho] at hbooks
  have hremoved := hbooks.removed (run_created h calls) hagrees (run_nodup h calls hkind hfresh)
  rwa [pending_books, Option.map_eq_none_iff] at hremoved

open Reference in
/-- A transfer on the ticket 1, which an earlier report allocated, can be ended by the one relayer. -/
theorem pendingOperation_closable_transfer :
    let rejection := vote 4 relayer₁ (.xrplTransactionResult ⟨some "cd34", none, some 1, .rejected, none⟩)
    ∃ s' r, execute host (run (step host) world₁ [recover, vote 2 relayer₁ allocation, send 3 5000000]).store
        ((run (step host) world₁ [recover, vote 2 relayer₁ allocation, send 3 5000000]).bank.credit []).querier
        rejection.env relayer₁.cosmosAddress [] rejection.msg = .ok (s', r) ∧
      s'.pendingOperations[1]? = none := by
  intro rejection
  have ho : (run (step host) world₁ [recover, vote 2 relayer₁ allocation, send 3 5000000]).store.pendingOperations[1]? =
      some ⟨"3-1", 1, some 1, none, [], .cosmosToXRPLTransfer xrpIssuer xrpCurrency 5000000 none user
        relayer₃.xrplAddress, 10⟩ := by decide +kernel
  have hallocated : completions host world₁ [recover, vote 2 relayer₁ allocation, send 3 5000000] =
      [⟨1, ⟨"1-1", 1, none, some 1, [], .allocateTickets 3, 10⟩,
        ⟨some "ab12", some 1, none, .accepted, some (.ticketsAllocation (some [1, 2, 3]))⟩⟩] := by decide +kernel
  obtain ⟨s', r, hexec, hremoved, -⟩ := pendingOperation_closable started_world₁
    [recover, vote 2 relayer₁ allocation, send 3 5000000] (c := rejection)
    (by rw [hallocated]; decide) (by rw [hallocated]; decide) (by rw [hallocated]; decide)
    (by rw [hallocated]; decide) ho (by rfl) (by rfl) ⟨rfl, rfl⟩ (by decide +kernel) (fun h => by cases h) rfl
    (by decide +kernel) (by decide +kernel) (by decide +kernel)
  exact ⟨s', r, hexec, hremoved⟩

end XrplBridge
