import XrplBridge.Protocol.FeeLedger
import XrplBridge.Protocol.Flows
import XrplBridge.Protocol.Refunds
import XrplBridge.Protocol.Resolution

/-!
# What the contract owes

Of every denom the contract owes the fees it has collected, the refunds it keeps, and what the
pending transfers have in escrow: the amount that is burnt or refunded in the end, of a token of
Cosmos converted back to its own decimals (`owed`). What a pending transfer has in escrow does
not change while it is pending (`Effect.escrow_eq`).
-/

namespace XrplBridge

open Library Contract Std

namespace Contract.Storage

/-- What a transfer carries of a token of XRPL. -/
def carriedXRPL (s : Storage) (D : String) : OperationType → ℕ
  | .cosmosToXRPLTransfer issuer currency amount maxAmount _ _ =>
    match s.xrplTokens.primary[buildXRPLTokenKey issuer currency]? with
    | some token => if token.cosmosDenom = D then maxAmount.getD amount else 0
    | none => 0
  | _ => 0

/-- What a transfer carries of a token of Cosmos, in the decimals of XRPL. -/
def carriedCosmos (s : Storage) (D : String) : OperationType → ℕ
  | .cosmosToXRPLTransfer issuer currency amount maxAmount _ _ =>
    match s.xrplTokens.primary[buildXRPLTokenKey issuer currency]? with
    | some _ => 0
    | none =>
      match s.cosmosTokens.item currency with
      | some (denom, _) => if denom = D then maxAmount.getD amount else 0
      | none => 0
  | _ => 0

/-- What an amount in the decimals of XRPL is worth of a token of Cosmos. -/
def inCosmos (s : Storage) (D : String) (amount : ℕ) : ℕ :=
  match s.cosmosTokens.primary[D]? with
  | some token => fromXRPLDecimals token.decimals amount
  | none => 0

/-- What a transfer has in escrow. -/
def escrow (s : Storage) (D : String) (t : OperationType) : ℕ := s.carriedXRPL D t + s.inCosmos D (s.carriedCosmos D t)

/-- The sum of a measure over the pending operations. -/
def pendingTotal (s : Storage) (f : OperationType → ℕ) : ℕ := total s.pendingOperations fun _ o => f o.operationType

/-- The coins of the pending refunds. -/
def refundsIn (s : Storage) (D : String) : ℕ := total s.pendingRefunds fun _ r => coinsOf D [r.coin]

/-- What the contract owes. -/
def owed (s : Storage) (D : String) : ℕ := s.feesOf D + s.refundsIn D + s.pendingTotal (s.escrow D)

end Contract.Storage

variable {H : Host} {s s' s₁ : Storage} {D bridge : String} {k timestamp : ℕ} {o : Operation} {t : OperationType}

/-! ### In escrow -/

section Carried

@[simp] theorem inCosmos_zero (s : Storage) (D : String) : s.inCosmos D 0 = 0 := by
  unfold Storage.inCosmos
  cases s.cosmosTokens.primary[D]? with
  | none => rfl
  | some token => exact fromXRPLDecimals_zero _

theorem inCosmos_of_registered {n : CosmosName} (h : s.registry.cosmos[D]? = some n) (amount : ℕ) :
    s.inCosmos D amount = fromXRPLDecimals n.decimals amount := by
  obtain ⟨token, htoken, rfl⟩ := exists_cosmosToken h
  rw [Storage.inCosmos, htoken]
  rfl

/-- Only transfers carry anything. -/
theorem escrow_of_sender_none (h : t.sender = none) : s.escrow D t = 0 := by
  cases t with
  | cosmosToXRPLTransfer => cases h
  | _ => exact (Nat.zero_add _).trans (inCosmos_zero s D)

variable {issuer currency recipient : String} {amount : ℕ} {maxAmount : Option ℕ} {sender : Addr}

/-- A transfer of a token of XRPL. -/
theorem carried_xrpl {token : XRPLToken} (h : s.xrplTokens.primary[buildXRPLTokenKey issuer currency]? = some token) :
    s.carriedXRPL D (.cosmosToXRPLTransfer issuer currency amount maxAmount sender recipient) =
        (if token.cosmosDenom = D then maxAmount.getD amount else 0) ∧
      s.carriedCosmos D (.cosmosToXRPLTransfer issuer currency amount maxAmount sender recipient) = 0 := by
  unfold Storage.carriedXRPL Storage.carriedCosmos
  dsimp only
  rw [h]
  exact ⟨rfl, rfl⟩

/-- A transfer of a token of Cosmos. -/
theorem carried_cosmos {denom : String} {token : CosmosToken}
    (hno : s.xrplTokens.primary[buildXRPLTokenKey issuer currency]? = none)
    (h : s.cosmosTokens.item currency = some (denom, token)) :
    s.carriedXRPL D (.cosmosToXRPLTransfer issuer currency amount maxAmount sender recipient) = 0 ∧
      s.carriedCosmos D (.cosmosToXRPLTransfer issuer currency amount maxAmount sender recipient) =
        if denom = D then maxAmount.getD amount else 0 := by
  unfold Storage.carriedXRPL Storage.carriedCosmos
  dsimp only
  rw [hno]
  dsimp only
  rw [h]
  exact ⟨rfl, rfl⟩

theorem escrow_xrpl {token : XRPLToken} (h : s.xrplTokens.primary[buildXRPLTokenKey issuer currency]? = some token) :
    s.escrow D (.cosmosToXRPLTransfer issuer currency amount maxAmount sender recipient) =
      if token.cosmosDenom = D then maxAmount.getD amount else 0 := by
  rw [Storage.escrow, (carried_xrpl h).1, (carried_xrpl h).2, inCosmos_zero, Nat.add_zero]

theorem escrow_cosmos {denom : String} {token : CosmosToken}
    (hno : s.xrplTokens.primary[buildXRPLTokenKey issuer currency]? = none)
    (h : s.cosmosTokens.item currency = some (denom, token)) :
    s.escrow D (.cosmosToXRPLTransfer issuer currency amount maxAmount sender recipient) =
      if denom = D then fromXRPLDecimals token.decimals (maxAmount.getD amount) else 0 := by
  rw [Storage.escrow, (carried_cosmos hno h).1, (carried_cosmos hno h).2, Nat.zero_add]
  split_ifs with hD
  · subst hD
    exact inCosmos_of_registered (registry_cosmos (IndexedMap.item_eq_some.mp h).1) _
  · exact inCosmos_zero s D

/-- **What a transfer has in escrow stays the same**, whatever is registered. -/
theorem escrow_eq_of_covers (hb : H.Base58Sized) (hbridge : validateXRPLAddressFormat H bridge = .ok ())
    (hreg : Registered H bridge s) (hreg' : Registered H bridge s') (hs : s.registry.Step H bridge s'.registry)
    (hc : s.registry.Covers bridge t) : s'.escrow D t = s.escrow D t := by
  cases hc with
  | xrplTransfer hr =>
    obtain ⟨token, htoken, hname⟩ := exists_xrplToken hr
    obtain ⟨token', htoken', hname'⟩ := exists_xrplToken (hs.xrpl_mono hr)
    have hdenom : token'.cosmosDenom = token.cosmosDenom := congrArg XRPLName.cosmosDenom (hname'.trans hname.symm)
    rw [escrow_xrpl htoken, escrow_xrpl htoken', hdenom]
  | @cosmosTransfer n _ _ _ hr =>
    have hcurrency := hreg.sound.currency _ _ hr
    obtain ⟨token, htoken, hname⟩ := exists_cosmosToken hr
    obtain ⟨token', htoken', hname'⟩ := exists_cosmosToken (hs.cosmos_mono hr)
    have hdecimals : token'.decimals = token.decimals := congrArg CosmosName.decimals (hname'.trans hname.symm)
    have hitem : s.cosmosTokens.item n.xrplCurrency = some (n.denom, token) :=
      IndexedMap.item_eq_some.mpr ⟨htoken, congrArg CosmosName.xrplCurrency hname⟩
    have hitem' : s'.cosmosTokens.item n.xrplCurrency = some (n.denom, token') :=
      IndexedMap.item_eq_some.mpr ⟨htoken', congrArg CosmosName.xrplCurrency hname'⟩
    rw [escrow_cosmos (hreg.xrpl_none hb hbridge hcurrency) hitem,
      escrow_cosmos (hreg'.xrpl_none hb hbridge hcurrency) hitem', hdecimals]
  | _ => rw [escrow_of_sender_none rfl, escrow_of_sender_none rfl]

theorem escrow_of_tokens (h : s'.tokens = s.tokens) : s'.escrow D t = s.escrow D t := by
  have hxrpl : s'.xrplTokens = s.xrplTokens := congrArg Prod.fst h
  have hcosmos : s'.cosmosTokens = s.cosmosTokens := congrArg Prod.snd h
  simp only [Storage.escrow, Storage.carriedXRPL, Storage.carriedCosmos, Storage.inCosmos, hxrpl, hcosmos]

/-- A call leaves what the operations have in escrow as it is, those that it creates included. -/
theorem Contract.Effect.escrow_eq {q : Querier} {env : BlockInfo} {sender : Addr} {funds : List Coin}
    {msg : ExecuteMsg} {ms : List SubMsg} (h : Effect H s q env sender funds msg s' ms) (hb : H.Base58Sized)
    (hbridge : validateXRPLAddressFormat H bridge = .ok ()) (hreg : Registered H bridge s)
    (hk : s'.pendingOperations[k]? = some o) : s'.escrow D o.operationType = s.escrow D o.operationType := by
  cases h.origin hk with
  | @kept old hold _ htype =>
    have hcovers := hreg.covered k old.entry (by simp [hold])
    rw [htype]
    have hstep := h.registry
    rw [hreg.address] at hstep
    exact escrow_eq_of_covers hb hbridge hreg (hreg.step h) hstep hcovers
  | created _ _ htransfer =>
    cases hs : o.operationType.sender with
    | none => rw [escrow_of_sender_none hs, escrow_of_sender_none hs]
    | some a =>
      obtain ⟨-, -, recipient, deliver, rfl⟩ := htransfer a hs
      cases h with
      | sentXRPL _ _ _ hc ho => exact escrow_of_tokens (ho.tokens.trans (handleFeeCollection_tokens hc))
      | sentCosmos _ _ _ _ _ _ hc ho => exact escrow_of_tokens (ho.tokens.trans (handleFeeCollection_tokens hc))

end Carried

/-! ### What a failed transfer gives back -/

section Handled

variable {operationResult : Option OperationResult} {result : TransactionResult} {txHash : Option String}
  {tokenFactoryAddr burnAddr : Addr} {msgs : List CosmosMsg}

/-- Whoever has sent coins that do not arrive is to get back what is in escrow. -/
theorem Contract.Handled.refunds (h : Handled s o operationResult result txHash tokenFactoryAddr burnAddr s' msgs)
    (hreg : s.registry.Sound H bridge) (hfailed : result ≠ .accepted) {a : Addr} (ha : o.operationType.sender = some a) :
    ∃ refund, s'.pendingRefunds = s.pendingRefunds.insert ⟨a, o.id⟩ refund ∧
      ∀ D, coinsOf D [refund.coin] = s.escrow D o.operationType := by
  cases h with
  | burnt _ _ hacc => exact absurd hacc hfailed
  | escrowed _ _ hacc => exact absurd hacc hfailed
  | refunded htype hr =>
    rw [htype] at ha ⊢
    cases ha
    exact ⟨_, rfl, fun D => by simp [escrow_xrpl hr]⟩
  | @released _ _ _ _ _ _ denom token _ htype hnone hr _ hconverted =>
    have hdenom : token.denom = denom :=
      (hreg.cosmosKey _ _ (registry_cosmos (IndexedMap.item_eq_some.mp hr).1)).symm
    rw [htype] at ha ⊢
    cases ha
    exact ⟨_, rfl, fun D => by simp [escrow_cosmos hnone hr, hdenom, convertAmountDecimals_fromXRPL hconverted]⟩
  | allocated htype | notAllocated htype | trustSet htype | rotated htype | notRotated htype =>
    rw [htype] at ha
    cases ha

/-- Other operations leave the refunds. -/
theorem Contract.Handled.refunds_none
    (h : Handled s o operationResult result txHash tokenFactoryAddr burnAddr s' msgs)
    (hnone : o.operationType.sender = none) : s'.pendingRefunds = s.pendingRefunds := by
  cases h with
  | refunded htype | released htype =>
    rw [htype] at hnone
    cases hnone
  | _ => rfl

/-- What arrives is not refunded. -/
theorem Contract.Handled.refunds_accepted
    (h : Handled s o operationResult .accepted txHash tokenFactoryAddr burnAddr s' msgs) :
    s'.pendingRefunds = s.pendingRefunds := by
  cases h with
  | refunded _ _ hfailed | released _ _ _ hfailed => exact absurd rfl hfailed
  | _ => rfl

end Handled

/-! ### The pending operations -/

section Pending

variable {f : OperationType → ℕ}

theorem Contract.Opens.pendingTotal (h : Opens s timestamp t s') : s'.pendingTotal f = f t + s.pendingTotal f := by
  cases h with
  | intro _ _ hunused => exact total_insert_new hunused _ _

theorem Contract.Registers.pendingTotal (h : Registers s timestamp s') (hf : ∀ n, f (.allocateTickets n) = 0) :
    s'.pendingTotal f = s.pendingTotal f := by
  cases h with
  | counted => rfl
  | exhausted => rfl
  | allocating _ _ _ _ hunused =>
    apply (total_insert_new hunused _ _).trans
    exact (congrArg (· + s.pendingTotal f) (hf _)).trans (Nat.zero_add _)

theorem endOperation_pendingTotal (result : TransactionResult) (ticket : Option ℕ)
    (ho : s.pendingOperations[k]? = some o) :
    s.pendingTotal f = f o.operationType + (endOperation s result k ticket).pendingTotal f := by
  have hpending : (endOperation s result k ticket).pendingOperations = s.pendingOperations.erase k :=
    congrArg Prod.fst (endOperation_issued s result k ticket)
  unfold Storage.pendingTotal
  rw [hpending]
  exact total_erase ho _

theorem Contract.Settles.pendingTotal {env : BlockInfo} {e : ResultEvidence} (h : Settles s env e k s')
    (ho : s.pendingOperations[k]? = some o) (hf : ∀ n, f (.allocateTickets n) = 0) :
    s.pendingTotal f = f o.operationType + s'.pendingTotal f := by
  cases h with
  | registered _ _ hr => rw [hr.pendingTotal hf, ← endOperation_pendingTotal _ _ ho]
  | unregistered => exact endOperation_pendingTotal _ _ ho

end Pending

end XrplBridge
