import XrplBridge.Contract.Query
import XrplBridge.Protocol.Refunds

/-!
# What the queries list

Relayers learn what to sign and to report from the paginated queries, so it matters that nothing is left
out where one page ends and the next begins. Whatever is stored, and whatever the size of the pages, the
pages of each query are the whole store, in the order of its keys (`queries_enumerate`). A refund is kept
under its user's address (`run_owned`), so those of one address are ordered by their identities.
-/

namespace XrplBridge

open Library Contract Std

variable {H : Host} {w : World}

/-! ### The limit -/

/-- Pages are not empty, and not longer than the contract's bound. -/
theorem pageLimit_pos {limit : Option ℕ} (h : ∀ n ∈ limit, 1 ≤ n) : 1 ≤ pageLimit limit := by
  have hmax : 1 ≤ maxPageLimit := by decide
  cases limit with
  | none => simpa [pageLimit] using hmax
  | some n =>
    have hn : 1 ≤ n := h n rfl
    exact le_min hn hmax

/-- A paginated query of a store enumerates it. -/
theorem enumerates_paginate {K V B : Type} [Ord K] [TransOrd K] [LawfulEqOrd K] (m : ExtTreeMap K V) (f : K → V → B)
    {limit : Option ℕ} (h : ∀ n ∈ limit, 1 ≤ n) :
    Enumerates (fun start => paginate m.toList start limit f) m f :=
  enumerates_pages m f (pageLimit_pos h)

/-! ### The refunds of a user -/

/-- The refunds of one address. -/
def refundsUnder (s : Storage) (address : Addr) : ExtTreeMap RefundKey PendingRefund :=
  s.pendingRefunds.filter fun _ refund => refund.address = address

theorem toList_refundsUnder (s : Storage) (address : Addr) :
    (refundsUnder s address).toList = s.pendingRefunds.toList.filter fun e => e.2.address = address :=
  ExtTreeMap.toList_filter

theorem getElem?_refundsUnder {s : Storage} {address : Addr} {key : RefundKey} {refund : PendingRefund} :
    (refundsUnder s address)[key]? = some refund ↔
      s.pendingRefunds[key]? = some refund ∧ refund.address = address := by
  simp [refundsUnder, ExtTreeMap.getElem?_filter]

/-- In every state that is reached, a refund is kept under its user and its identity. -/
theorem run_owned (hw : Started H w) (calls : List Call) :
    ∀ (key : RefundKey) (refund : PendingRefund), (run (step H) w calls).store.pendingRefunds[key]? = some refund →
      key = ⟨refund.address, refund.id⟩ := by
  refine run_induction (P := fun (_ : List Call) (w : World) => ∀ (key : RefundKey) (refund : PendingRefund),
    w.store.pendingRefunds[key]? = some refund → key = ⟨refund.address, refund.id⟩) ?_ ?_ ?_ calls
  · obtain ⟨msg, m, -, -, -, -, hs⟩ := started_eq hw
    rw [hs]
    simp [initialStorage]
  · intro calls c w' r hold hstep
    exact (run_effect hw hstep).refunding.owned hold
  · exact fun hold _ => hold

/-! ### The queries -/

/-- **Paginated queries list everything once**: in every storage, and for every limit of at least one. -/
theorem queries_enumerate (s : Storage) (limit : Option ℕ) (h : ∀ n ∈ limit, 1 ≤ n) :
    Enumerates (fun start => let r := queryPendingOperations s start limit; (r.lastKey, r.operations))
        s.pendingOperations (fun _ operation => operation) ∧
      Enumerates (fun start => let r := queryXRPLTokens s start limit; (r.lastKey, r.tokens))
        s.xrplTokens.primary (fun _ token => token) ∧
      Enumerates (fun start => let r := queryCosmosTokens s start limit; (r.lastKey, r.tokens))
        s.cosmosTokens.primary (fun _ token => token) ∧
      Enumerates (fun start => let r := queryProcessedTxs s start limit; (r.lastKey, r.processedTxs))
        s.processedTxs (fun hash _ => hash) ∧
      Enumerates (fun start => let r := queryTransactionEvidences s start limit; (r.lastKey, r.transactionEvidences))
        s.txEvidences (fun hash evidences => ⟨hash, evidences.relayerCosmosAddresses⟩) ∧
      ∀ address : Addr,
        Enumerates (fun start => let r := queryPendingRefunds s address start limit; (r.lastKey, r.pendingRefunds))
          (refundsUnder s address) (fun _ refund => ⟨refund.id, refund.xrplTxHash, refund.coin⟩) ∧
        (∀ (key : RefundKey) (refund : PendingRefund), (refundsUnder s address)[key]? = some refund ↔
          s.pendingRefunds[key]? = some refund ∧ refund.address = address) ∧
        ∀ (H : Host) (w : World) (calls : List Call), Started H w → (run (step H) w calls).store = s →
          ∀ (key : RefundKey) (refund : PendingRefund), (refundsUnder s address)[key]? = some refund →
            key = ⟨address, refund.id⟩ := by
  refine ⟨enumerates_paginate s.pendingOperations (fun _ operation => operation) h,
    enumerates_paginate s.xrplTokens.primary (fun _ token => token) h,
    enumerates_paginate s.cosmosTokens.primary (fun _ token => token) h,
    enumerates_paginate s.processedTxs (fun hash _ => hash) h,
    enumerates_paginate s.txEvidences
      (fun hash evidences => (⟨hash, evidences.relayerCosmosAddresses⟩ : TransactionEvidence)) h,
    fun address => ⟨?_, fun _ _ => getElem?_refundsUnder, ?_⟩⟩
  · have henum := enumerates_paginate (refundsUnder s address)
      (fun _ refund => (⟨refund.id, refund.xrplTxHash, refund.coin⟩ : ShownRefund)) h
    rw [toList_refundsUnder] at henum
    exact henum
  · rintro H w calls hw rfl key refund hkey
    obtain ⟨hstored, haddress⟩ := getElem?_refundsUnder.mp hkey
    rw [run_owned hw calls key refund hstored, haddress]

open Reference in
/-- Two transfers are pending, listed one by one. -/
theorem queries_enumerate_transfers :
    let s := (run (step host) world₁ [recover, vote 2 relayer₁ allocation, send 3 5000000, send 4 2000000]).store
    let query := fun start => let r := queryPendingOperations s start (some 1); (r.lastKey, r.operations)
    Enumerates query s.pendingOperations (fun _ operation => operation) ∧
      (walk query 3 none).map (List.map Operation.id) = some ["3-1", "4-2"] := by
  intro s query
  exact ⟨(queries_enumerate s (some 1) (by decide)).1, by decide +kernel⟩

end XrplBridge
