import XrplBridge.Protocol.ExactlyOnce
import XrplBridge.Protocol.Flags
import XrplBridge.Protocol.Queries

/-!
# What can be seen

Relayers, users and the owner know the bridge only from its queries. Is there anything that they cannot
see? Pages of one entry tell the keys of a store apart, and with them what every key holds; the two flags
are not shown, but what they say is: an allocation or a rotation is pending (`run_flags`). So two states
that are reached, of one bridge or of two, answer all queries alike if and only if they differ in nothing
but the count of used tickets, the remainders of the fees and the version (`queries_show`).

What has been executed can be seen as well, if one asks for the hash in upper case
(`processedTx_iff`).
-/

namespace XrplBridge

open Library Contract Std

variable {H H' : Host} {w w' : World} {s s' : Storage}

/-! ### Stores that are listed -/

/-- A store is known from a query that lists it. -/
theorem eq_of_paginate {K V B : Type} [Ord K] [TransOrd K] [LawfulEqOrd K] {m m' : ExtTreeMap K V} (f : K → V → B)
    (hinj : ∀ (k : K) (v v' : V), m[k]? = some v → m'[k]? = some v' → f k v = f k v' → v = v')
    (hsame : ∀ start, paginate m.toList start (some 1) f = paginate m'.toList start (some 1) f) : m = m' :=
  eq_of_pages f hinj hsame

theorem IndexedMap.ext {K V I : Type} [Ord K] [TransOrd K] {index : V → I} {m m' : IndexedMap K V index}
    (h : m.primary = m'.primary) : m = m' := by
  cases m
  cases m'
  cases h
  rfl

theorem mem_listed {K : Type} [Ord K] [TransOrd K] [LawfulEqOrd K] {m : ExtTreeMap K Unit} {k : K} {u : Unit} :
    m[k]? = some u ↔ k ∈ m.toList.map Prod.fst := by
  rw [← ExtTreeMap.mem_toList_iff_getElem?_eq_some, List.mem_map]
  constructor
  · intro hmem
    exact ⟨_, hmem, rfl⟩
  · rintro ⟨⟨k', u'⟩, hmem, rfl⟩
    exact hmem

/-- Refunds are listed under their addresses. -/
theorem pendingRefunds_eq (h : ∀ address start, queryPendingRefunds s address start (some 1) =
    queryPendingRefunds s' address start (some 1)) : s.pendingRefunds = s'.pendingRefunds := by
  have hunder : ∀ address, refundsUnder s address = refundsUnder s' address := by
    intro address
    refine eq_of_paginate (fun _ refund => (⟨refund.id, refund.xrplTxHash, refund.coin⟩ : ShownRefund)) ?_ ?_
    · intro k v v' hv hv' heq
      have ha := (getElem?_refundsUnder.mp hv).2
      have ha' := (getElem?_refundsUnder.mp hv').2
      cases v
      cases v'
      cases heq
      cases ha
      cases ha'
      rfl
    · intro start
      have hpage := h address start
      simp only [queryPendingRefunds, PendingRefundsResponse.mk.injEq] at hpage
      rw [toList_refundsUnder, toList_refundsUnder]
      exact Prod.ext hpage.1 hpage.2
  apply ExtTreeMap.ext_getElem?
  intro key
  refine Option.ext fun refund => ?_
  have hkey : (refundsUnder s refund.address)[key]? = some refund ↔
      (refundsUnder s' refund.address)[key]? = some refund := by rw [hunder]
  simpa [getElem?_refundsUnder] using hkey

/-! ### All queries -/

/-- What the queries show of two states is the same. -/
structure SameView (s s' : Storage) : Prop where
  ownership : s.ownership = s'.ownership
  config : s.config = s'.config
  txEvidences : s.txEvidences = s'.txEvidences
  processedTxs : s.processedTxs = s'.processedTxs
  cosmosTokens : s.cosmosTokens = s'.cosmosTokens
  xrplTokens : s.xrplTokens = s'.xrplTokens
  availableTickets : s.availableTickets = s'.availableTickets
  pendingOperations : s.pendingOperations = s'.pendingOperations
  pendingRefunds : s.pendingRefunds = s'.pendingRefunds
  feesCollected : ∀ a : Addr, s.feesCollected[a]?.getD [] = s'.feesCollected[a]?.getD []
  prohibitedXRPLAddresses : s.prohibitedXRPLAddresses = s'.prohibitedXRPLAddresses

theorem sameView_of_query (h : ∀ msg, query s msg = query s' msg) : SameView s s' where
  ownership := by simpa [query] using h .ownership
  config := by simpa [query, queryConfig] using h .config
  availableTickets := by simpa [query, queryAvailableTickets] using h .availableTickets
  feesCollected a := by simpa [query, queryFeesCollected] using h (.feesCollected a)
  pendingRefunds := pendingRefunds_eq fun address start => by simpa [query] using h (.pendingRefunds address start (some 1))
  txEvidences := by
    refine eq_of_paginate (fun hash evidences => (⟨hash, evidences.relayerCosmosAddresses⟩ : TransactionEvidence)) ?_
      fun start => ?_
    · rintro hash ⟨votes⟩ ⟨votes'⟩ - - heq
      cases heq
      rfl
    · simpa [query, queryTransactionEvidences, Prod.ext_iff] using h (.transactionEvidences start (some 1))
  processedTxs := by
    refine eq_of_paginate (fun hash _ => hash) (fun _ _ _ _ _ _ => rfl) fun start => ?_
    simpa [query, queryProcessedTxs, Prod.ext_iff] using h (.processedTxs start (some 1))
  cosmosTokens := by
    refine IndexedMap.ext (eq_of_paginate (fun _ token => token) (fun _ _ _ _ _ heq => heq) fun start => ?_)
    simpa [query, queryCosmosTokens, Prod.ext_iff] using h (.cosmosTokens start (some 1))
  xrplTokens := by
    refine IndexedMap.ext (eq_of_paginate (fun _ token => token) (fun _ _ _ _ _ heq => heq) fun start => ?_)
    simpa [query, queryXRPLTokens, Prod.ext_iff] using h (.xrplTokens start (some 1))
  pendingOperations := by
    refine eq_of_paginate (fun _ operation => operation) (fun _ _ _ _ _ heq => heq) fun start => ?_
    simpa [query, queryPendingOperations, Prod.ext_iff] using h (.pendingOperations start (some 1))
  prohibitedXRPLAddresses := by
    have hall : s.prohibitedXRPLAddresses.toList.map Prod.fst = s'.prohibitedXRPLAddresses.toList.map Prod.fst := by
      simpa [query, queryProhibitedXRPLAddresses] using h .prohibitedXRPLAddresses
    apply ExtTreeMap.ext_getElem?
    intro address
    refine Option.ext fun u => ?_
    rw [mem_listed, mem_listed, hall]

/-- The same view, the same answers. -/
theorem SameView.query (h : SameView s s') (msg : QueryMsg) : query s msg = query s' msg := by
  have hunder : ∀ address, s.pendingRefunds.toList.filter (fun e => e.2.address = address) =
      s'.pendingRefunds.toList.filter fun e => e.2.address = address := fun address => by rw [h.pendingRefunds]
  cases msg with
  | config => simp only [Contract.query, queryConfig, h.config]
  | xrplTokens => simp only [Contract.query, queryXRPLTokens, h.xrplTokens]
  | xrplToken => simp only [Contract.query, queryXRPLToken, h.xrplTokens]
  | cosmosTokens => simp only [Contract.query, queryCosmosTokens, h.cosmosTokens]
  | cosmosToken => simp only [Contract.query, queryCosmosToken, h.cosmosTokens]
  | pendingOperations => simp only [Contract.query, queryPendingOperations, h.pendingOperations]
  | availableTickets => simp only [Contract.query, queryAvailableTickets, h.availableTickets]
  | feesCollected => simp only [Contract.query, queryFeesCollected, h.feesCollected]
  | pendingRefunds => simp only [Contract.query, queryPendingRefunds, h.pendingRefunds]
  | bridgeState => simp only [Contract.query, queryBridgeState, h.config]
  | transactionEvidence => simp only [Contract.query, queryTransactionEvidence, h.txEvidences]
  | transactionEvidences => simp only [Contract.query, queryTransactionEvidences, h.txEvidences]
  | processedTx => simp only [Contract.query, queryProcessedTx, h.processedTxs]
  | processedTxs => simp only [Contract.query, queryProcessedTxs, h.processedTxs]
  | prohibitedXRPLAddresses => simp only [Contract.query, queryProhibitedXRPLAddresses, h.prohibitedXRPLAddresses]
  | ownership => simp only [Contract.query, h.ownership]

/-! ### The flags -/

/-- A flag that says whether an operation of a kind is pending is known from the operations. -/
theorem flag_eq {kind : OperationType → Bool} {flag flag' : Bool}
    (h : count s.books.pending (fun e => kind e.operationType) = flag.toNat)
    (h' : count s'.books.pending (fun e => kind e.operationType) = flag'.toNat)
    (hsame : s.pendingOperations = s'.pendingOperations) : flag = flag' := by
  have hbooks : s.books.pending = s'.books.pending := by
    show s.pendingOperations.map _ = s'.pendingOperations.map _
    rw [hsame]
  rw [hbooks, h'] at h
  cases flag <;> cases flag' <;> first | rfl | cases h

/-- **The queries show the whole state.** Two states that are reached, in runs of one bridge or of two,
answer all queries alike if and only if they are the same, apart from the count of used tickets, the
remainders of the fees, the version, and relayers whose fees are all claimed. -/
theorem queries_show (h : Started H w) (calls : List Call) (h' : Started H' w') (calls' : List Call) :
    let s := (run (step H) w calls).store
    let s' := (run (step H') w' calls').store
    (∀ msg, query s msg = query s' msg) ↔
      s' = { s with
        contractVersion := s'.contractVersion
        usedTicketsCounter := s'.usedTicketsCounter
        feeRemainders := s'.feeRemainders
        feesCollected := s'.feesCollected } ∧
      ∀ a : Addr, s.feesCollected[a]?.getD [] = s'.feesCollected[a]?.getD [] := by
  intro s s'
  constructor
  · intro hsame
    have hview := sameView_of_query hsame
    have hflags := run_flags h calls
    have hflags' := run_flags h' calls'
    have hupdate : s.pendingTicketUpdate = s'.pendingTicketUpdate :=
      flag_eq hflags.updating hflags'.updating hview.pendingOperations
    have hrotate : s.pendingRotateKeys = s'.pendingRotateKeys :=
      flag_eq hflags.rotating hflags'.rotating hview.pendingOperations
    have hswap : s.tempUniversalSwap = s'.tempUniversalSwap :=
      (run_tempUniversalSwap h calls).trans (run_tempUniversalSwap h' calls').symm
    refine ⟨?_, hview.feesCollected⟩
    rw [hview.ownership, hview.config, hview.txEvidences, hview.processedTxs, hview.cosmosTokens, hview.xrplTokens,
      hview.availableTickets, hview.pendingOperations, hview.pendingRefunds, hview.prohibitedXRPLAddresses, hupdate,
      hrotate, hswap]
  · rintro ⟨heq, hfees⟩ msg
    have hview : SameView s s' := by
      constructor
      case feesCollected => exact hfees
      all_goals rw [heq]
    exact hview.query msg

open Reference in
/-- The vote of one of three relayers can be seen. -/
theorem queries_show_vote : ∃ msg, query (run (step host) world₂ [recover]).store msg ≠
    query (run (step host) world₂ [recover, vote 2 relayer₁ allocation]).store msg := by
  by_contra hnone
  have hall := fun msg => Classical.not_not.mp (not_exists.mp hnone msg)
  have hsame := ((queries_show started_world₂ [recover] started_world₂ [recover, vote 2 relayer₁ allocation]).mp hall).1
  have hvotes := congrArg (fun s => s.txEvidences.toList.length) hsame
  exact absurd hvotes (by decide +kernel)

/-! ### What has been executed -/

/-- A vote registers the transaction that it executes, and no other. -/
theorem Contract.Votes.registered_iff {sender : Addr} {e : Evidence} {reached : Bool} {txHash : String}
    (h : Votes H s sender e s' reached) :
    s'.processedTxs.contains txHash = true ↔ s.processedTxs.contains txHash = true ∨
      reached = true ∧ e.isOperationValid = true ∧ e.getTxHash H = .ok txHash := by
  cases h with
  | collected => simp
  | reached _ _ hp =>
    obtain ⟨hinvalid, rfl⟩ | ⟨t, hvalid, ht, rfl⟩ := markProcessed_eq_ok hp
    · simp [hinvalid]
    · simp only [ExtTreeMap.contains_insert, Bool.or_eq_true, beq_iff_eq, Std.compare_eq_iff_eq, hvalid, ht, true_and,
        Except.ok.injEq]
      exact or_comm

/-- Only an execution registers a transaction. -/
theorem Polled.registered_iff {msg : ExecuteMsg} {sender : Addr} {txHash : String} (h : Polled H s sender s' msg) :
    s'.processedTxs.contains txHash = true ↔
      s.processedTxs.contains txHash = true ∨ XrplBridge.executes H txHash s msg = true := by
  by_cases hmsg : ∃ e, msg = .saveEvidence e
  · obtain ⟨e, rfl⟩ := hmsg
    obtain ⟨s₁, -, hvote, hs⟩ := h.vote
    rw [hs, hvote.registered_iff]
    simp only [XrplBridge.executes, Bool.and_eq_true, decide_eq_true_eq, getTxHash_eq_ok]
    tauto
  · have hother : ∀ e, msg ≠ .saveEvidence e := fun e heq => hmsg ⟨e, heq⟩
    have hsame : s'.polls = s.polls := by
      cases h with
      | kept _ hsame => exact hsame
      | counted | rotated => exact absurd rfl (hother _)
    have hno : XrplBridge.executes H txHash s msg = false := by
      unfold XrplBridge.executes
      split
      · exact absurd rfl (hother _)
      · rfl
    rw [show s'.processedTxs = s.processedTxs from congrArg Polls.processedTxs hsame, hno]
    simp

/-- **What was executed can be looked up**: in every run, the query about a transaction says that it was
processed if and only if the run has executed an evidence of it, and the hash is asked for in upper
case. -/
theorem processedTx_iff (h : Started H w) (calls : List Call) (hash : String) :
    (query (run (step H) w calls).store (.processedTx hash) = .ok (.processedTx true) ↔
        executions H hash w calls ≠ []) ∧
      ((∀ txHash, toUppercase H txHash ≠ hash) →
        query (run (step H) w calls).store (.processedTx hash) = .ok (.processedTx false)) := by
  have hiff : (run (step H) w calls).store.processedTxs.contains hash = true ↔ executions H hash w calls ≠ [] := by
    refine run_induction (P := fun calls (w' : World) =>
      w'.store.processedTxs.contains hash = true ↔ executions H hash w calls ≠ []) ?_ ?_ ?_ calls
    · obtain ⟨msg, m, -, -, -, -, hs⟩ := started_eq h
      rw [hs]
      simp [initialStorage, executions, history]
    · intro calls c w' r ih hstep
      rw [(run_effect h hstep).polled.registered_iff, ih, executions_snoc hstep]
      by_cases hx : executes H hash (run (step H) w calls).store c.msg = true
      · simp [hx]
      · simp [hx]
    · intro calls c f ih hstep
      rwa [executions, history_snoc_error hstep]
  refine ⟨by simpa [query, queryProcessedTx] using hiff, fun hspelled => ?_⟩
  have hnone : executions H hash w calls = [] := by
    refine List.filter_eq_nil_iff.mpr fun x _ hx => ?_
    unfold executes at hx
    split at hx
    · simp only [Bool.and_eq_true, decide_eq_true_eq, Option.map_eq_some_iff] at hx
      obtain ⟨⟨-, txHash, -, htx⟩, -⟩ := hx
      exact hspelled txHash htx
    · cases hx
  have hunregistered : (run (step H) w calls).store.processedTxs.contains hash = false :=
    Bool.eq_false_iff.mpr fun hc => hiff.mp hc hnone
  simp [query, queryProcessedTx, hunregistered]

open Reference in
/-- The transaction `AB12` has allocated tickets: it is found in upper case only. -/
theorem processedTx_iff_allocation :
    query (run (step host) world₁ [recover, vote 2 relayer₁ allocation]).store (.processedTx "AB12") =
        .ok (.processedTx true) ∧
      query (run (step host) world₁ [recover, vote 2 relayer₁ allocation]).store (.processedTx "ab12") =
        .ok (.processedTx false) :=
  ⟨(processedTx_iff started_world₁ _ "AB12").1.mpr (List.ne_nil_of_length_pos (by decide +kernel)), by decide +kernel⟩

end XrplBridge
