import XrplBridge.Protocol.Closing
import XrplBridge.Protocol.Escrow
import XrplBridge.Protocol.Refunds
import XrplBridge.Protocol.Resolution

/-!
# Winding up

Can the bridge always be brought to rest? The relayers may be gone, and XRPL may not answer, with
operations pending, all tickets in use and the bridge halted for a rotation. But the owner can cancel
whatever is pending, one operation after the other and in any order, and then resume the bridge: none of
these calls fails, if the rate limiter accepts what it is told (`wound_up`). Every ticket is available again,
and whoever has sent coins has them as a refund.

`Winding` is what is known while some operations are still to be cancelled. The refunds of two operations
that are pending do not overwrite each other, as these have different numbers, and an identity says its
number (`run_identity`). A refund from before can be overwritten if its identity has been used again
(`refund_overwritten`); if no identity has, all refunds from before are kept.
-/

namespace XrplBridge

open Library Contract Std

variable {H : Host} {s s' s₁ : Storage} {k : ℕ} {o : Operation} {owner : Addr} {bridge : String} {w w₁ : World}

/-! ### A cancelled operation -/

/-- Messages to the rate limiter move no coins. -/
theorem Contract.RateLimitOnly.deliverAll {msgs : List CosmosMsg} (h : RateLimitOnly msgs) (b : Bank) :
    deliverAll H (fun _ => true) b (plain msgs) = some b := by
  induction msgs with
  | nil => rfl
  | cons m ms ih =>
    obtain ⟨addr, rm, rfl⟩ := h m List.mem_cons_self
    have hnone : b.debit [] = some b := by simp [Bank.debit]
    have hfirst : deliver H (fun _ => true) b (.wasmExecute addr (.rateLimit rm) []) = some b := hnone
    rw [plain, List.map_cons, XrplBridge.deliverAll, List.foldlM_cons, hfirst]
    exact ih fun m' hm' => h m' (List.mem_cons_of_mem _ hm')

section Handled

variable {operationResult : Option OperationResult} {result : TransactionResult} {txHash : Option String}
  {tokenFactoryAddr burnAddr : Addr} {msgs : List CosmosMsg}

theorem Contract.Handled.rateLimitOnly (h : Handled s o operationResult result txHash tokenFactoryAddr burnAddr s' msgs)
    (hfailed : result ≠ .accepted) : RateLimitOnly msgs := by
  cases h with
  | burnt _ _ hacc => exact absurd hacc hfailed
  | refunded => exact rateLimitOnly_rateLimitMsgs _ _
  | released => exact rateLimitOnly_rateLimitMsgs _ _
  | _ => simp [RateLimitOnly]

theorem Contract.Handled.ownership (h : Handled s o operationResult result txHash tokenFactoryAddr burnAddr s' msgs) :
    s'.ownership = s.ownership := by
  cases h <;> rfl

end Handled

/-- The owner can cancel an operation on registered tokens. -/
theorem cancelPendingOperation_ok (howner : isOwner s owner = true) (ho : s.pendingOperations[k]? = some o)
    (hc : s.registry.Covers bridge o.operationType) :
    ∃ x, cancelPendingOperation H s owner k = .ok x := by
  obtain ⟨⟨s₁, r, msgs⟩, hrun⟩ : ∃ x, runHandler s o (cancelResult o.operationType) .invalid none k
      s.config.tokenFactoryAddr H.contract Response.new = .ok x := by
    refine runHandler_ok ho hc fun hall => ?_
    obtain ⟨n, hn⟩ := OperationType.isAllocation_iff.mp hall
    rw [hn]
    exact ⟨none, rfl, fun hacc => by cases hacc⟩
  exact ⟨_, bind_eq_ok.mpr ⟨(), checkAuthorization_owner rfl howner, bind_eq_ok.mpr ⟨o, orFail_eq_ok.mpr ho,
    bind_eq_ok.mpr ⟨_, bind_eq_ok.mpr ⟨_, hrun, rfl⟩, rfl⟩⟩⟩⟩

/-- The identity of a pending operation says its number, in every run. -/
theorem run_identity (h : Started H w) (calls : List Call) :
    ∀ (k : ℕ) (o : Operation), (run (step H) w calls).store.pendingOperations[k]? = some o →
      ∃ t : ℕ, o.id = toString t ++ "-" ++ toString k := by
  refine run_storage (P := fun s => ∀ (k : ℕ) (o : Operation), s.pendingOperations[k]? = some o →
    ∃ t : ℕ, o.id = toString t ++ "-" ++ toString k) h ?_ ?_ calls
  · obtain ⟨_, _, -, -, -, -, hs⟩ := started_eq h
    simp [hs, initialStorage]
  · intro s s' q env sender funds msg ms hid he k o hk
    cases he.origin hk with
    | kept hold hsame =>
      obtain ⟨t, ht⟩ := hid k _ hold
      exact ⟨t, hsame.trans ht⟩
    | created hnew => exact ⟨_, hnew⟩

/-! ### The calls -/

/-- The owner cancels an operation, and the rate limiter accepts the messages. -/
def cancels (owner : Addr) (time : ℕ → BlockInfo) (k : ℕ) : Call where
  env := time k
  sender := owner
  funds := []
  msg := .cancelPendingOperation k
  accepts _ := true

/-- The owner resumes the bridge. -/
def resumes (owner : Addr) (now : BlockInfo) : Call where
  env := now
  sender := owner
  funds := []
  msg := .resumeBridge
  accepts _ := true

/-- The owner cancels some operations, and resumes the bridge. -/
def windUp (owner : Addr) (time : ℕ → BlockInfo) (now : BlockInfo) (ks : List ℕ) : List Call :=
  ks.map (cancels owner time) ++ [resumes owner now]

/-- What is known while the operations `ks` are still to be cancelled, after the others of `w₁`. -/
structure Winding (H : Host) (bridge : String) (owner : Addr) (w₁ : World) (ks : List ℕ) (w : World) : Prop where
  registered : Registered H bridge w.store
  noSwap : w.store.tempUniversalSwap = none
  created : w.store.books.Created
  isOwner : isOwner w.store owner = true
  bank : w.bank = w₁.bank
  pending : ∀ (k : ℕ) (o : Operation),
    w.store.pendingOperations[k]? = some o ↔ k ∈ ks ∧ w₁.store.pendingOperations[k]? = some o
  /-- What is in escrow stays the same. -/
  escrow : ∀ (k : ℕ) (o : Operation) (D : String), w.store.pendingOperations[k]? = some o →
    w.store.escrow D o.operationType = w₁.store.escrow D o.operationType
  refunded : ∀ (k : ℕ) (o : Operation) (a : Addr), k ∉ ks → w₁.store.pendingOperations[k]? = some o →
    o.operationType.sender = some a → ∃ refund, w.store.pendingRefunds[RefundKey.mk a o.id]? = some refund ∧
      ∀ D, coinsOf D [refund.coin] = w₁.store.escrow D o.operationType
  /-- Refunds stay as they are, apart from the keys that pending transfers are refunded under. -/
  others : ∀ key : RefundKey, (∀ (k : ℕ) (o : Operation), w₁.store.pendingOperations[k]? = some o →
    o.refundKey ≠ some key) → w.store.pendingRefunds[key]? = w₁.store.pendingRefunds[key]?
  tickets : (w.store.availableTickets ++ w.store.heldTickets).Perm
    (w₁.store.availableTickets ++ w₁.store.heldTickets)

/-- At first nothing has been cancelled. -/
theorem Winding.start {ks : List ℕ} (hreg : Registered H bridge w.store) (hswap : w.store.tempUniversalSwap = none)
    (hcreated : w.store.books.Created) (howner : XrplBridge.Contract.isOwner w.store owner = true)
    (hall : ∀ k : ℕ, k ∈ ks ↔ w.store.pendingOperations.contains k = true) : Winding H bridge owner w ks w where
  registered := hreg
  noSwap := hswap
  created := hcreated
  isOwner := howner
  bank := rfl
  pending k o := by
    refine ⟨fun ho => ⟨(hall k).mpr ?_, ho⟩, And.right⟩
    rw [ExtTreeMap.contains_eq_isSome_getElem?, ho, Option.isSome_some]
  escrow _ _ _ _ := rfl
  refunded k o a hk ho := by
    refine absurd ((hall k).mpr ?_) hk
    rw [ExtTreeMap.contains_eq_isSome_getElem?, ho, Option.isSome_some]
  others _ _ := rfl
  tickets := .refl _

/-- The pending operations after a cancellation. -/
theorem endOperation_pendingOperations (s : Storage) (result : TransactionResult) (k : ℕ) (ticket : Option ℕ) :
    (endOperation s result k ticket).pendingOperations = s.pendingOperations.erase k :=
  congrArg Prod.fst (endOperation_issued s result k ticket)

/-- **An operation is cancelled**, and the others can still be. -/
theorem Winding.cancel {ks : List ℕ} (h : Winding H bridge owner w₁ (k :: ks) w) (hb : H.Base58Sized)
    (hbridge : validateXRPLAddressFormat H bridge = .ok ())
    (hid : ∀ (k : ℕ) (o : Operation), w₁.store.pendingOperations[k]? = some o →
      ∃ t : ℕ, o.id = toString t ++ "-" ++ toString k)
    (hnew : k ∉ ks) (ho : w₁.store.pendingOperations[k]? = some o) (time : ℕ → BlockInfo) :
    ∃ w' r, step H w (cancels owner time k) = .ok (w', r) ∧ Winding H bridge owner w₁ ks w' := by
  have hpend : w.store.pendingOperations[k]? = some o := (h.pending k o).mpr ⟨List.mem_cons_self, ho⟩
  have hcovers : w.store.registry.Covers bridge o.operationType := h.registered.covered k o.entry (by simp [hpend])
  obtain ⟨⟨s', r⟩, hx⟩ := cancelPendingOperation_ok (H := H) h.isOwner hpend hcovers
  have heff : Effect H w.store (w.bank.credit []).querier (time k) owner [] (.cancelPendingOperation k) s' r.messages :=
    cancelPendingOperation_effect hx
  have hreg := h.registered.step heff
  have hescrow : ∀ (k' : ℕ) (o' : Operation) (D : String), s'.pendingOperations[k']? = some o' →
      s'.escrow D o'.operationType = w.store.escrow D o'.operationType := fun k' o' D hk' =>
    heff.escrow_eq hb hbridge h.registered hk'
  have hswap : s'.tempUniversalSwap = none := (congrArg Prod.fst heff.fixed).trans h.noSwap
  have hfailed : TransactionResult.invalid ≠ .accepted := by decide
  have hbooks : w.store.books.Step none s'.books := heff.books
  have htickets : (s'.availableTickets ++ s'.heldTickets).Perm (w.store.availableTickets ++ w.store.heldTickets) := by
    have hperm := hbooks.tickets h.created (by simp)
    simp only [books_held, spentTickets, allocatedTickets, Option.toList_none, List.flatMap_nil, List.append_nil] at hperm
    exact hperm
  generalize hms : r.messages = ms at heff
  cases heff with
  | @cancelled _ _ s₁ msgs hheld hh =>
    cases hpend.symm.trans hheld
    have hpending : ∀ k' : ℕ, (endOperation s₁ .invalid k o.ticketSequence).pendingOperations[k']? =
        if k' = k then none else w.store.pendingOperations[k']? := by
      intro k'
      rw [endOperation_pendingOperations, hh.pendingOperations]
      split_ifs with hk
      · rw [hk, ExtTreeMap.getElem?_erase_self]
      · exact getElem?_erase_ne (Ne.symm hk)
    have howner : XrplBridge.Contract.isOwner (endOperation s₁ .invalid k o.ticketSequence) owner = true := by
      obtain ⟨_, hend⟩ := endOperation_frame s₁ .invalid k o.ticketSequence
      rw [hend]
      exact (congrArg (fun x : Ownership => decide (x.owner = some owner)) hh.ownership).trans h.isOwner
    have hrefunds : ∀ key : RefundKey, o.refundKey ≠ some key →
        (endOperation s₁ .invalid k o.ticketSequence).pendingRefunds[key]? = w.store.pendingRefunds[key]? := by
      intro key hkey
      rw [endOperation_pendingRefunds]
      cases hsender : o.operationType.sender with
      | none => rw [hh.refunds_none hsender]
      | some a =>
        obtain ⟨refund, hins, -⟩ := hh.refunds h.registered.sound hfailed hsender
        rw [hins, getElem?_insert_ne]
        rintro rfl
        exact hkey (refundKey_eq_some.mpr ⟨a, hsender, rfl⟩)
    have hdelivered : deliverAll H (fun _ => true) (w.bank.credit []) r.messages = some (w.bank.credit []) := by
      rw [hms]
      exact (hh.rateLimitOnly hfailed).deliverAll _
    refine ⟨_, r, bind_eq_ok.mpr ⟨_, hx, bind_eq_ok.mpr ⟨_, dispatch_ok hdelivered, rfl⟩⟩, {
      registered := hreg
      noSwap := hswap
      created := h.created.step hbooks
      isOwner := howner
      bank := h.bank
      pending := fun k' o' => ?_
      escrow := fun k' o' D hk' => ?_
      refunded := fun k' o' a hk' ho' ha => ?_
      others := fun key hkey => (hrefunds key (hkey k o ho)).trans (h.others key hkey)
      tickets := htickets.trans h.tickets }⟩
    · dsimp only
      rw [hpending k']
      split_ifs with hk
      · simp [hk, hnew]
      · rw [h.pending k' o', List.mem_cons, or_iff_right hk]
    · dsimp only at hk' ⊢
      rw [hescrow k' o' D hk']
      rw [hpending k'] at hk'
      split_ifs at hk'
      exact h.escrow k' o' D hk'
    · dsimp only
      by_cases hk : k' = k
      · subst hk
        cases ho.symm.trans ho'
        obtain ⟨refund, hins, hcoins⟩ := hh.refunds h.registered.sound hfailed ha
        refine ⟨refund, ?_, fun D => (hcoins D).trans (h.escrow k' o D hpend)⟩
        rw [endOperation_pendingRefunds, hins, ExtTreeMap.getElem?_insert_self]
      · obtain ⟨refund, hrefund, hcoins⟩ := h.refunded k' o' a (by simp [hk, hk']) ho' ha
        refine ⟨refund, ?_, hcoins⟩
        rw [hrefunds _ fun hkey => ?_, hrefund]
        obtain ⟨a', -, heq⟩ := refundKey_eq_some.mp hkey
        rw [RefundKey.mk.injEq] at heq
        obtain ⟨t, ht⟩ := hid k o ho
        obtain ⟨t', ht'⟩ := hid k' o' ho'
        rw [ht, ht'] at heq
        exact hk (number_of_identity heq.2)

/-! ### In every run -/

/-- The bridge at rest, after the pending operations of `w₁` have been cancelled. -/
structure AtRest (w₁ w : World) : Prop where
  active : w.store.config.bridgeState = .active
  idle : ∀ k : ℕ, w.store.pendingOperations[k]? = none
  noUpdate : w.store.pendingTicketUpdate = false
  noRotation : w.store.pendingRotateKeys = false
  /-- Every ticket is available. -/
  tickets : w.store.availableTickets.Perm (w₁.store.availableTickets ++ w₁.store.heldTickets)
  /-- Whoever has sent coins is to get them back. -/
  refunded : ∀ (k : ℕ) (o : Operation) (a : Addr), w₁.store.pendingOperations[k]? = some o →
    o.operationType.sender = some a → ∃ refund, w.store.pendingRefunds[RefundKey.mk a o.id]? = some refund ∧
      ∀ D, coinsOf D [refund.coin] = w₁.store.escrow D o.operationType
  /-- Refunds stay as they are, apart from the keys that these are stored under. -/
  others : ∀ key : RefundKey, (∀ (k : ℕ) (o : Operation), w₁.store.pendingOperations[k]? = some o →
    o.refundKey ≠ some key) → w.store.pendingRefunds[key]? = w₁.store.pendingRefunds[key]?
  bank : w.bank = w₁.bank

/-- Refunds are kept if none is stored under the key of a pending transfer. -/
theorem AtRest.kept (h : AtRest w₁ w) (hfree : Unrefunded w₁.store) {key : RefundKey} {refund : PendingRefund}
    (hrefund : w₁.store.pendingRefunds[key]? = some refund) : w.store.pendingRefunds[key]? = some refund := by
  rw [h.others key fun k o ho hkey => ?_, hrefund]
  rw [hfree.free k o key ho hkey] at hrefund
  cases hrefund

/-- With nothing pending, no flag is set. -/
theorem flags_of_idle {s : Storage} (h : s.books.Flags) (hidle : ∀ k : ℕ, s.pendingOperations[k]? = none) :
    s.pendingTicketUpdate = false ∧ s.pendingRotateKeys = false :=
  ⟨(flag_iff h.updating).2.mpr fun k o ho => by simp [hidle k] at ho,
    (flag_iff h.rotating).2.mpr fun k o ho => by simp [hidle k] at ho⟩

/-- The owner resumes a bridge that is idle. -/
theorem Winding.resume (h : Winding H bridge owner w₁ [] w) (hflags : w.store.books.Flags) (now : BlockInfo) :
    ∃ w' r, step H w (resumes owner now) = .ok (w', r) ∧ AtRest w₁ w' := by
  have hidle : ∀ k : ℕ, w.store.pendingOperations[k]? = none := fun k =>
    Option.eq_none_iff_forall_ne_some.mpr fun o ho => List.not_mem_nil ((h.pending k o).mp ho).1
  obtain ⟨hnoUpdate, hnoRotation⟩ := flags_of_idle hflags hidle
  have hx : execute H w.store (w.bank.credit []).querier now owner [] .resumeBridge =
      .ok (updateBridgeState w.store .active, actionResponse .resumeBridge owner) :=
    bind_eq_ok.mpr ⟨(), checkAuthorization_owner rfl h.isOwner,
      bind_eq_ok.mpr ⟨(), failIf_eq_ok.mpr (by simp [hnoRotation]), rfl⟩⟩
  have hnone : w.store.pendingOperations = ∅ := ExtTreeMap.ext_getElem? fun k => by simp [hidle k]
  have htickets : w.store.availableTickets ++ w.store.heldTickets = w.store.availableTickets := by
    rw [Storage.heldTickets, hnone, collect_empty, List.append_nil]
  exact ⟨_, _, bind_eq_ok.mpr ⟨_, hx, rfl⟩, {
    active := rfl
    idle := hidle
    noUpdate := hnoUpdate
    noRotation := hnoRotation
    tickets := htickets ▸ h.tickets
    refunded := fun k o a => h.refunded k o a List.not_mem_nil
    others := h.others
    bank := h.bank }⟩

/-- **The bridge can always be brought to rest.** Whatever has happened, the owner can cancel the pending
operations, in any order, and resume the bridge: none of these calls fails. Then nothing is pending and no
flag is set, every ticket that was available or in use is available, all coins that were on their way to
XRPL are refunds of those who have sent them, and all balances are as they were. So are the other refunds,
and no refund from before is among those of the coins on their way, if none of the calls has created an
operation under an identity that its sender had a refund for. -/
theorem wound_up (hb : H.Base58Sized) (h : Started H w) (calls : List Call) {ks : List ℕ}
    (howner : isOwner (run (step H) w calls).store owner = true) (hnodup : ks.Nodup)
    (hall : ∀ k : ℕ, k ∈ ks ↔ (run (step H) w calls).store.pendingOperations.contains k = true)
    (time : ℕ → BlockInfo) (now : BlockInfo) :
    let w₁ := run (step H) w calls
    AllCommitted (step H) w₁ (windUp owner time now ks) ∧ AtRest w₁ (run (step H) w₁ (windUp owner time now ks)) ∧
      ((∀ x ∈ history (step H) w calls, collides x.1.store x.2 = false) →
        ∀ (key : RefundKey) (refund : PendingRefund), w₁.store.pendingRefunds[key]? = some refund →
          (run (step H) w₁ (windUp owner time now ks)).store.pendingRefunds[key]? = some refund) := by
  intro w₁
  have hreg : Registered H w.store.config.bridgeXRPLAddress w₁.store := run_registered h calls
  have hstart := Winding.start hreg (run_tempUniversalSwap h calls) (run_created h calls) howner hall
  have hpending : ∀ k ∈ ks, ∃ o, w₁.store.pendingOperations[k]? = some o := by
    intro k hk
    have hcontains := (hall k).mp hk
    rwa [ExtTreeMap.contains_eq_isSome_getElem?, Option.isSome_iff_exists] at hcontains
  obtain ⟨hcancelled, hwound, -, -⟩ := run_schedule (f := cancels owner time)
    (I := fun ks w' => Winding H w.store.config.bridgeXRPLAddress owner w₁ ks w' ∧ ks.Nodup ∧
      ∀ k ∈ ks, ∃ o, w₁.store.pendingOperations[k]? = some o)
    (fun ⟨hw, hnodup, hpend⟩ => by
      rw [List.nodup_cons] at hnodup
      obtain ⟨o, ho⟩ := hpend _ List.mem_cons_self
      obtain ⟨w', r, hstep, hnext⟩ := hw.cancel hb (started_validBridge h) (run_identity h calls) hnodup.1 ho time
      exact ⟨w', r, hstep, hnext, hnodup.2, fun k hk => hpend k (List.mem_cons_of_mem _ hk)⟩)
    ⟨hstart, hnodup, hpending⟩
  have hflags := run_flags h (calls ++ ks.map (cancels owner time))
  rw [run_append] at hflags
  obtain ⟨w', r, hresumed, hrest⟩ := hwound.resume hflags now
  rw [windUp, run_snoc_ok hresumed]
  exact ⟨hcancelled.snoc hresumed, hrest, fun hfresh _ _ hrefund => hrest.kept (run_unrefunded h calls hfresh) hrefund⟩

open Reference in
/-- A transfer of five XRP is cancelled, and two XRP are sent on the same ticket. -/
def Reference.resending : List Call :=
  [recover, vote 2 relayer₁ allocation, send 3 5000000, cancel 3 1, send 4 2000000]

open Reference in
/-- The owner winds the bridge up, and the user has both refunds. -/
theorem wound_up_sent :
    let w₁ := run (step host) world₁ resending
    let w := run (step host) w₁ (windUp Reference.owner (fun _ => ⟨5, 5⟩) ⟨6, 6⟩ [1])
    AtRest w₁ w ∧ w.store.pendingRefunds[RefundKey.mk user "3-1"]? =
        some ⟨user, "3-1", none, ⟨xrpDenom, 5000000⟩⟩ ∧
      ∃ refund, w.store.pendingRefunds[RefundKey.mk user "4-1"]? = some refund ∧
        coinsOf xrpDenom [refund.coin] = 2000000 := by
  have howner : isOwner (run (step host) world₁ resending).store Reference.owner = true := by decide +kernel
  have hkeys : (run (step host) world₁ resending).store.pendingOperations.keys = [1] := by decide +kernel
  have hstored : (run (step host) world₁ resending).store.pendingRefunds[RefundKey.mk user "3-1"]? =
      some ⟨user, "3-1", none, ⟨xrpDenom, 5000000⟩⟩ := by decide +kernel
  have ho : (run (step host) world₁ resending).store.pendingOperations[1]? = some ⟨"4-1", 1, some 1, none, [],
      .cosmosToXRPLTransfer xrpIssuer xrpCurrency 2000000 none user relayer₃.xrplAddress, 10⟩ := by decide +kernel
  have hescrow : (run (step host) world₁ resending).store.escrow xrpDenom
      (.cosmosToXRPLTransfer xrpIssuer xrpCurrency 2000000 none user relayer₃.xrplAddress) = 2000000 := by
    decide +kernel
  obtain ⟨-, hrest, hkept⟩ := wound_up base58Sized_host started_world₁ resending howner (List.nodup_singleton 1)
    (fun k => by rw [← hkeys, ExtTreeMap.mem_keys, ExtTreeMap.contains_iff_mem]) (fun _ => ⟨5, 5⟩) ⟨6, 6⟩
  obtain ⟨refund, hrefund, hcoins⟩ := hrest.refunded 1 _ user ho rfl
  have hfirst := hkept (by decide +kernel) _ _ hstored
  exact ⟨hrest, hfirst, refund, hrefund, (hcoins xrpDenom).trans hescrow⟩

end XrplBridge
