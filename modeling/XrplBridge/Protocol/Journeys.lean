import XrplBridge.Protocol.FeeLedger
import XrplBridge.Protocol.Lifetimes
import XrplBridge.Protocol.Precision
import XrplBridge.Protocol.Refunds
import XrplBridge.Protocol.Resolution

/-!
# The journey of a transfer

A transfer to XRPL is followed from the call that sends the coins to the call that ends it, through
whatever happens in between (`Journey`). The amount is computed once on the way out, from the coins
that are paid, and again on the way back, from the operation that was stored.

If the transfer fails, the refund and the fees that were collected for it are the coins that were
paid, exactly: the conversion to the decimals of XRPL and back loses nothing, because truncation has
made the amount a multiple of what the conversion divides by (`refunds_exact`). The rate limiter is
told of the coins before the fee and, if the transfer fails, of the coins after it: the two agree
only if the fee is covered by what the truncation cuts off (`undone_iff`).
-/

namespace XrplBridge

open Library Contract Std

/-- The terms on which coins of a denom are sent to XRPL. -/
structure Terms where
  /-- What the rate limiter knows the token by. -/
  key : String
  bridgingFee : ℕ
  /-- The unit that amounts are cut to. -/
  unit : ℕ

/-- What is sent of an amount: it is cut after the fee. -/
def Terms.sent (t : Terms) (amount : ℕ) : ℕ := (amount - t.bridgingFee) / t.unit * t.unit

/-- What the rate limiter is told of an amount: it is cut before the fee. -/
def Terms.announced (t : Terms) (amount : ℕ) : ℕ := amount / t.unit * t.unit

/-- The unit is what the sending precision leaves of the decimals. -/
def termsOf (key : String) (bridgingFee decimals : ℕ) (sendingPrecision : ℤ) : Terms :=
  ⟨key, bridgingFee, 10 ^ (asI32 decimals - sendingPrecision).natAbs⟩

/-- The terms of the token that a denom belongs to. -/
def Contract.Storage.terms (s : Storage) (denom : String) : Option Terms :=
  match s.xrplTokens.item denom with
  | some (_, token) =>
    some (termsOf (buildXRPLTokenKey token.issuer token.currency) token.bridgingFee
      (xrplDecimals token.issuer token.currency) token.sendingPrecision)
  | none =>
    s.cosmosTokens.primary[denom]?.map fun token =>
      termsOf (buildXRPLTokenKey s.config.bridgeXRPLAddress token.xrplCurrency) token.bridgingFee token.decimals
        token.sendingPrecision

/-- What is announced is what is sent exactly if what is cut off covers the fee. -/
theorem Terms.sent_eq_announced_iff {t : Terms} {amount : ℕ} (hfee : t.bridgingFee ≤ amount) (hunit : 0 < t.unit) :
    t.sent amount = t.announced amount ↔ t.bridgingFee ≤ amount % t.unit := by
  unfold Terms.sent Terms.announced
  have hwhole := Nat.div_add_mod' amount t.unit
  constructor
  · intro heq
    have hle := Nat.div_mul_le_self (amount - t.bridgingFee) t.unit
    omega
  · intro hle
    congr 1
    apply Nat.le_antisymm
    · exact Nat.div_le_div_right (Nat.sub_le _ _)
    · rw [Nat.le_div_iff_mul_le hunit]
      omega

/-- The code computes what is sent, and what is announced. -/
theorem termsOf_sent {bridgingFee decimals amount afterFees truncated remainder : ℕ} {sendingPrecision : ℤ}
    (key : String) (hf : amountAfterBridgeFees amount bridgingFee = .ok afterFees)
    (ht : truncateAmount sendingPrecision decimals afterFees = .ok (truncated, remainder)) :
    (termsOf key bridgingFee decimals sendingPrecision).sent amount = truncated ∧
      bridgingFee + remainder + truncated = amount := by
  have hfee := amountAfterBridgeFees_eq_ok hf
  have hsum := (truncateAmount_eq_ok ht).1
  refine ⟨?_, by omega⟩
  rw [Terms.sent, termsOf, truncateAmount_value ht, ← hfee, Nat.add_sub_cancel_left]

theorem termsOf_announced {bridgingFee decimals amount truncated remainder : ℕ} {sendingPrecision : ℤ} (key : String)
    (ht : truncateAmount sendingPrecision decimals amount = .ok (truncated, remainder)) :
    (termsOf key bridgingFee decimals sendingPrecision).announced amount = truncated := by
  rw [Terms.announced, termsOf, truncateAmount_value ht]

theorem termsOf_unit (key : String) (bridgingFee decimals : ℕ) (sendingPrecision : ℤ) :
    0 < (termsOf key bridgingFee decimals sendingPrecision).unit := Nat.pow_pos (by decide)

/-- The transfer names a token of the denom `D`, and gives back `back` of it to `sender` if it fails. -/
inductive GivesBack (g : Registry) (bridge D : String) (sender : Addr) : String → ℕ → OperationType → Prop
  | xrpl {n : XRPLName} {amount : ℕ} {maxAmount : Option ℕ} {recipient : String}
      (registered : g.xrpl[buildXRPLTokenKey n.issuer n.currency]? = some n) (denom : n.cosmosDenom = D) :
      GivesBack g bridge D sender (buildXRPLTokenKey n.issuer n.currency) (maxAmount.getD amount)
        (.cosmosToXRPLTransfer n.issuer n.currency amount maxAmount sender recipient)
  | cosmos {n : CosmosName} {amount : ℕ} {recipient : String} (registered : g.cosmos[D]? = some n)
      (denom : n.denom = D) :
      GivesBack g bridge D sender (buildXRPLTokenKey bridge n.xrplCurrency) (fromXRPLDecimals n.decimals amount)
        (.cosmosToXRPLTransfer bridge n.xrplCurrency amount (some amount) sender recipient)

/-- A message that takes back what the rate limiter was told. -/
def isUndo : CosmosMsg → Bool
  | .wasmExecute _ (.rateLimit (.undoSend _)) _ => true
  | _ => false

variable {H : Host} {s s' s₁ s₂ : Storage} {bridge D key : String} {sender : Addr} {back k : ℕ} {o : Operation}
  {result : TransactionResult} {w : World}

/-! ### The way out -/

/-- What a call that sends `coin` has done: the fee and what is sent are the coin. -/
structure Departs (s s' : Storage) (bridge : String) (sender : Addr) (ms : List SubMsg) (coin : Coin) (t : Terms)
    (o : Operation) : Prop where
  terms : s.terms coin.denom = some t
  unit : 0 < t.unit
  covered : t.bridgingFee ≤ coin.amount
  givesBack : GivesBack s.registry bridge coin.denom sender t.key (t.sent coin.amount) o.operationType
  collected : s'.feesOf coin.denom + t.sent coin.amount = s.feesOf coin.denom + coin.amount
  told : ms = plain (rateLimitMsgs s.config (.sendPacket (packet t.key (t.announced coin.amount))))

theorem Contract.Opens.feesOf {timestamp : ℕ} {operationType : OperationType}
    (h : Opens s timestamp operationType s') (D : String) : s'.feesOf D = s.feesOf D := by
  cases h; rfl

/-- An operation that is opened is pending under the ticket at the front. -/
theorem Contract.Opens.front {timestamp : ℕ} {operationType : OperationType} (h : Opens s timestamp operationType s') :
    ∃ k o, s.availableTickets.head? = some k ∧ s'.pendingOperations[k]? = some o ∧ o.operationType = operationType := by
  cases h with
  | intro hav => exact ⟨_, _, by rw [hav, List.head?_cons], getElem?_insert_self' .., rfl⟩

/-- **Sending coins.** -/
theorem Contract.Effect.departs {q : Querier} {env : BlockInfo} {funds : List Coin} {recipient : String}
    {deliver : Option ℕ} {ms : List SubMsg}
    (h : Effect H s q env sender funds (.sendToXRPL recipient deliver) s' ms) (hreg : Registered H bridge s)
    (hprecise : ∀ (key : String) (token : CosmosToken), s.cosmosTokens.primary[key]? = some token →
      PreciseFor token.sendingPrecision token.decimals) :
    ∃ coin t k o, funds = [coin] ∧ opened H s (.sendToXRPL recipient deliver) = some k ∧
      s'.pendingOperations[k]? = some o ∧ Departs s s' bridge sender ms coin t o := by
  cases h with
  | @sentXRPL _ key _ _ coin token _ _ _ _ _ s₁ _ _ hpaid htoken hamounts hc ho _ hf ht _ _ hinc htold =>
    obtain ⟨hk, hdenom⟩ := IndexedMap.item_eq_some.mp htoken
    have hn := registry_xrpl hk
    have hkey : key = buildXRPLTokenKey token.issuer token.currency := hreg.sound.xrplKey _ _ hn
    have hfees := (handleFeeCollection_eq_ok hc).2.2 coin.denom
    rw [if_pos hdenom, ← ho.feesOf] at hfees
    obtain ⟨k, o, hfront, ho', htype⟩ := ho.front
    rw [handleFeeCollection_available hc] at hfront
    obtain ⟨hsent, hsum⟩ := termsOf_sent (buildXRPLTokenKey token.issuer token.currency) hf ht
    refine ⟨coin, _, k, o, hpaid, hfront, ho', by rw [Storage.terms, htoken], termsOf_unit .., ?_, ?_, ?_, ?_⟩
    · exact (Nat.le_add_right _ _).trans ((Nat.add_assoc ..).symm.trans hsum).le
    · rw [htype, hsent, show _ = _ from Nat.add_left_cancel (hsum.trans hamounts.symm)]
      exact .xrpl (n := token.name) (hkey ▸ hn) hdenom
    · rw [hsent]
      omega
    · rw [htold, termsOf_announced _ hinc]
      rfl
  | @sentCosmos _ coin token _ _ _ s₁ _ _ hpaid hno htoken _ _ _ hc ho _ ht _ _ hinc htold =>
    have hdenom : coin.denom = token.denom := hreg.sound.cosmosKey _ _ (registry_cosmos htoken)
    have hexact := truncateAndConvertAmount_exact (hprecise _ _ htoken) ht
    have hfees := (handleFeeCollection_eq_ok hc).2.2 coin.denom
    rw [if_pos hdenom.symm, ← ho.feesOf] at hfees
    obtain ⟨k, o, hfront, ho', htype⟩ := ho.front
    rw [handleFeeCollection_available hc] at hfront
    simp only [truncateAndConvertAmount, bind_eq_ok, pure_eq_ok, Prod.mk.injEq] at ht
    obtain ⟨f, hf, ⟨t, r⟩, ht, a, ha, rfl, rfl⟩ := ht
    obtain ⟨hsent, hsum⟩ := termsOf_sent (buildXRPLTokenKey s.config.bridgeXRPLAddress token.xrplCurrency) hf ht
    refine ⟨coin, _, k, o, hpaid, hfront, ho', by rw [Storage.terms, hno, htoken]; rfl, termsOf_unit .., ?_, ?_, ?_, ?_⟩
    · exact (Nat.le_add_right _ _).trans ((Nat.add_assoc ..).symm.trans hsum).le
    · rw [htype, hsent, ← fromXRPLDecimals_of_truncated (hprecise _ _ htoken) ht ha, hreg.address]
      exact .cosmos (n := token.name) (registry_cosmos htoken) hdenom.symm
    · rw [hsent]
      omega
    · rw [htold, termsOf_announced _ hinc]
      rfl

/-! ### The way back -/

theorem GivesBack.step {g g' : Registry} {bridge' : String} {t : OperationType} (h : GivesBack g bridge D sender key back t)
    (hs : g.Step H bridge' g') : GivesBack g' bridge D sender key back t := by
  cases h with
  | xrpl hr hD => exact .xrpl (hs.xrpl_mono hr) hD
  | cosmos hr hD => exact .cosmos (hs.cosmos_mono hr) hD

/-- The end of an operation, in the store that the votes leave. -/
theorem Contract.Effect.handled {q : Querier} {env : BlockInfo} {funds : List Coin} {msg : ExecuteMsg}
    {ms : List SubMsg} (h : Effect H s q env sender funds msg s' ms) (hends : ended H s msg = some (k, o, result)) :
    ∃ s₁ s₂ operationResult txHash msgs,
      Handled s₁ o operationResult result txHash s.config.tokenFactoryAddr H.contract s₂ msgs ∧ ms = plain msgs ∧
        s₁.tokens = s.tokens ∧ s₁.config = s.config ∧ s'.pendingRefunds = s₂.pendingRefunds := by
  have hnone : ended H s msg ≠ none := by rw [hends]; exact Option.some_ne_none _
  cases h with
  | voted _ hv => exact absurd (ended_of_not_reaches hv.reaches) hnone
  | completed _ _ hv hid ho _ hh hset =>
    rw [ended_of_reaches hv.reaches hid ho, Option.some.injEq, Prod.mk.injEq, Prod.mk.injEq] at hends
    obtain ⟨rfl, rfl, rfl⟩ := hends
    obtain ⟨_, _, hs⟩ := hv.frame
    exact ⟨_, _, _, _, _, hh, rfl, hv.tokens, by rw [hs], hset.pendingRefunds⟩
  | cancelled ho hh =>
    rw [ended_cancelled ho, Option.some.injEq, Prod.mk.injEq, Prod.mk.injEq] at hends
    obtain ⟨rfl, rfl, rfl⟩ := hends
    exact ⟨_, _, _, _, _, hh, rfl, rfl, rfl, endOperation_pendingRefunds ..⟩
  | _ => exact absurd rfl hnone

/-- **A transfer that fails** is refunded, and the rate limiter told so. -/
theorem GivesBack.refunded {operationResult : Option OperationResult} {txHash : Option String}
    {tokenFactoryAddr burnAddr : Addr} {msgs : List CosmosMsg}
    (h : GivesBack s.registry bridge D sender key back o.operationType) (hb : H.Base58Sized)
    (hreg : Registered H bridge s) (hbridge : validateXRPLAddressFormat H bridge = .ok ()) (hs : s₁.tokens = s.tokens)
    (hh : Handled s₁ o operationResult result txHash tokenFactoryAddr burnAddr s₂ msgs) (hfailed : result ≠ .accepted) :
    s₂ = storePendingRefund s₁ o.id txHash sender ⟨D, back⟩ ∧ msgs = undoSendMsgs s₁ key back := by
  have hxrpl : s₁.xrplTokens = s.xrplTokens := congrArg Prod.fst hs
  have hcosmos : s₁.cosmosTokens = s.cosmosTokens := congrArg Prod.snd hs
  generalize ht : o.operationType = t at h
  cases h with
  | xrpl hr hD =>
    obtain ⟨token, htoken, rfl⟩ := exists_xrplToken hr
    rw [← hxrpl] at htoken
    cases hh with
    | refunded htype hk =>
      cases ht.symm.trans htype
      cases htoken.symm.trans hk
      rw [← hD]
      exact ⟨rfl, rfl⟩
    | released htype hk =>
      cases ht.symm.trans htype
      cases htoken.symm.trans hk
    | burnt _ _ hacc | escrowed _ _ hacc => exact absurd hacc hfailed
    | allocated htype | notAllocated htype | trustSet htype | rotated htype | notRotated htype =>
      cases ht.symm.trans htype
  | cosmos hr hD =>
    obtain ⟨token, htoken, rfl⟩ := exists_cosmosToken hr
    have hnone := hreg.xrpl_none hb hbridge (hreg.sound.currency _ _ hr)
    rw [← hxrpl] at hnone
    rw [← hcosmos] at htoken
    cases hh with
    | refunded htype hk =>
      cases ht.symm.trans htype
      cases hnone.symm.trans hk
    | released htype _ hitem _ hback =>
      cases ht.symm.trans htype
      cases (IndexedMap.item_eq_some.mpr ⟨htoken, rfl⟩).symm.trans hitem
      rw [convertAmountDecimals_fromXRPL hback, ← hD]
      exact ⟨rfl, rfl⟩
    | burnt _ _ hacc | escrowed _ _ hacc => exact absurd hacc hfailed
    | allocated htype | notAllocated htype | trustSet htype | rotated htype | notRotated htype =>
      cases ht.symm.trans htype

/-- What is accepted is not taken back. -/
theorem Contract.Handled.noUndo {operationResult : Option OperationResult} {txHash : Option String}
    {tokenFactoryAddr burnAddr : Addr} {msgs : List CosmosMsg}
    (h : Handled s o operationResult .accepted txHash tokenFactoryAddr burnAddr s' msgs) :
    ∀ m ∈ msgs, isUndo m = false := by
  cases h with
  | burnt => simp [tokenFactoryMsg, isUndo]
  | refunded _ _ hfailed => exact absurd rfl hfailed
  | released _ _ _ hfailed => exact absurd rfl hfailed
  | _ => simp

/-! ### From the departure to the end -/

/-- A transfer to XRPL in a run: `departure` sends the coins, and `arrival` ends the operation that
was created for it, with a result. -/
structure Journey (H : Host) (w : World) where
  before : List Call
  departure : Call
  departed : World × Response
  between : List Call
  arrival : Call
  arrived : World × Response
  number : ℕ
  operation : Operation
  result : TransactionResult
  asks : ∃ recipient deliver, departure.msg = .sendToXRPL recipient deliver
  departs : step H (run (step H) w before) departure = .ok departed
  opens : opened H (run (step H) w before).store departure.msg = some number
  pending : Unended H (run (step H) w (before ++ [departure])) between number
  ends : ended H (run (step H) w (before ++ [departure] ++ between)).store arrival.msg =
    some (number, operation, result)
  arrives : step H (run (step H) w (before ++ [departure] ++ between)) arrival = .ok arrived

namespace Journey

/-- The store that the coins are sent from. -/
def start (j : Journey H w) : Storage := (run (step H) w j.before).store

/-- The store that the operation is ended in. -/
def last (j : Journey H w) : Storage := (run (step H) w (j.before ++ [j.departure] ++ j.between)).store

/-- **What a journey comes to**: the operation that ends is the one that was created for the coins,
and a failure gives back what was sent. -/
theorem outcome (j : Journey H w) (hb : H.Base58Sized) (h : Started H w) :
    ∃ coin t o, j.departure.funds = [coin] ∧ Departs j.start j.departed.1.store w.store.config.bridgeXRPLAddress
        j.departure.sender j.departed.2.messages coin t o ∧
      (j.result ≠ .accepted →
        (∃ txHash, j.arrived.1.store.pendingRefunds[RefundKey.mk j.departure.sender j.operation.id]? =
          some ⟨j.departure.sender, j.operation.id, txHash, ⟨coin.denom, t.sent coin.amount⟩⟩) ∧
        j.arrived.2.messages = plain (undoSendMsgs j.last t.key (t.sent coin.amount))) ∧
      (j.result = .accepted → ∀ m ∈ j.arrived.2.messages, isUndo m.msg = false) := by
  obtain ⟨recipient, deliver, hasks⟩ := j.asks
  have hreg := run_registered h j.before
  have hdeparture := run_effect h j.departs
  rw [hasks] at hdeparture
  obtain ⟨coin, t, k, o, hpaid, hopens, ho, hdeparts⟩ := hdeparture.departs hreg (run_preciseCosmos h j.before)
  have hnumber := j.opens
  rw [hasks] at hnumber
  cases hopens.symm.trans hnumber
  -- the operation that ends
  have hafter : (run (step H) w (j.before ++ [j.departure])).store = j.departed.1.store := by
    rw [run_snoc_ok j.departs]
  obtain ⟨o', ho', hsame⟩ := run_continues h (j.before ++ [j.departure]) j.between j.pending (hafter ▸ ho)
  cases ho'.symm.trans (pending_of_ended j.ends)
  have hback : GivesBack j.last.registry w.store.config.bridgeXRPLAddress coin.denom j.departure.sender t.key
      (t.sent coin.amount) j.operation.operationType := by
    rw [hsame.type, last, List.append_assoc]
    exact run_later h j.before (P := fun s => GivesBack s.registry _ _ _ _ _ o.operationType) hdeparts.givesBack
      (fun hg he => hg.step he.registry) _
  obtain ⟨s₁, s₂, opResult, txHash, msgs, hh, hmsgs, htokens, hconfig, hrefunds⟩ :=
    (run_effect h j.arrives).handled j.ends
  refine ⟨coin, t, o, hpaid, hdeparts, fun hfailed => ?_, fun hacc => ?_⟩
  · obtain ⟨hs, rfl⟩ := hback.refunded hb (run_registered h _) (started_validBridge h) htokens hh hfailed
    refine ⟨⟨txHash, ?_⟩, ?_⟩
    · rw [hrefunds, hs]
      exact getElem?_insert_self' ..
    · rw [hmsgs, undoSendMsgs, undoSendMsgs, hconfig]
      rfl
  · rw [hacc] at hh
    rw [hmsgs]
    intro m hm
    obtain ⟨m', hm', rfl⟩ := List.mem_map.mp hm
    exact hh.noUndo m' hm'

end Journey

/-! ### Cancelled transfers -/

open Reference in
/-- A bridge with a rate limiter. -/
def limited : World := launch { setup [relayer₁] 1 with rateLimitAddr := some "limiter" }

theorem started_limited : Started Reference.host limited := Reference.started_launch (by decide +kernel)

open Reference in
/-- The fee of XRP, when it is sent. -/
def feeOfXRP (fee : ℕ) : Call := call 3 owner (.updateXRPLToken xrpIssuer xrpCurrency ⟨none, none, some fee, none⟩)

/-- A transfer that is sent and cancelled. -/
theorem Journey.exists_cancelled {before : List Call} {departure arrival : Call} (number : ℕ) (operation : Operation)
    (hasks : ∃ recipient deliver, departure.msg = .sendToXRPL recipient deliver)
    (hgoes : (step H (run (step H) w before) departure).isOk = true ∧
      opened H (run (step H) w before).store departure.msg = some number ∧
      ended H (run (step H) w (before ++ [departure] ++ [])).store arrival.msg = some (number, operation, .invalid) ∧
      (step H (run (step H) w (before ++ [departure] ++ [])) arrival).isOk = true) :
    ∃ j : Journey H w, j.before = before ∧ j.departure = departure ∧ j.between = [] ∧ j.arrival = arrival ∧
      j.result = .invalid := by
  obtain ⟨hdeparts, hopens, hends, harrives⟩ := hgoes
  obtain ⟨departed, hd⟩ := exists_of_isOk hdeparts
  obtain ⟨arrived, ha⟩ := exists_of_isOk harrives
  exact ⟨⟨before, departure, departed, [], arrival, arrived, number, operation, .invalid, hasks, hd, hopens,
    fun x hx => (by cases hx), hends, ha⟩, rfl, rfl, rfl, rfl, rfl⟩

open Reference in
/-- XRP is sent with a fee, and cancelled. -/
theorem exists_cancelled_xrp (fee : ℕ) (hfee : fee = 0 ∨ fee = 1000) :
    ∃ j : Journey host limited, j.before = [recover, vote 2 relayer₁ allocation, feeOfXRP fee] ∧
      j.departure = send 4 1000000 ∧ j.between = [] ∧ j.arrival = cancel 5 1 ∧ j.result = .invalid := by
  rcases hfee with rfl | rfl
  · exact Journey.exists_cancelled 1 ⟨"4-1", 1, some 1, none, [],
      .cosmosToXRPLTransfer xrpIssuer xrpCurrency 1000000 none user relayer₃.xrplAddress, 10⟩ ⟨_, _, rfl⟩
      (by decide +kernel)
  · exact Journey.exists_cancelled 1 ⟨"4-1", 1, some 1, none, [],
      .cosmosToXRPLTransfer xrpIssuer xrpCurrency 999000 none user relayer₃.xrplAddress, 10⟩ ⟨_, _, rfl⟩
      (by decide +kernel)

/-! ### Refunds -/

/-- **Refunds are exact**: what is converted to the decimals of XRPL is worth the amount without the
fee and what was cut off, also if it comes back and is cut again; and the refund of a transfer that
fails and the fees that were collected when it was sent are the coins that were paid for it. -/
theorem refunds_exact (hb : H.Base58Sized) (h : Started H w) :
    (∀ (p : ℤ) (d x fee y r : ℕ), validateSendingPrecision p d = .ok () →
      truncateAndConvertAmount p d xrplTokensDecimals x fee = .ok (y, r) →
        fee + r ≤ x ∧ convertAmountDecimals xrplTokensDecimals d y = .ok (x - fee - r) ∧
          ∀ fee' z r' : ℕ, convertAndTruncateAmount p xrplTokensDecimals d y fee' = .ok (z, r') →
            z + r' + fee' + r + fee = x) ∧
      ∀ j : Journey H w, j.result ≠ .accepted → ∃ (coin : Coin) (fee refund : ℕ) (txHash : Option String),
        j.departure.funds = [coin] ∧ j.departed.1.store.feesOf coin.denom = j.start.feesOf coin.denom + fee ∧
          j.arrived.1.store.pendingRefunds[RefundKey.mk j.departure.sender j.operation.id]? =
            some ⟨j.departure.sender, j.operation.id, txHash, ⟨coin.denom, refund⟩⟩ ∧
          refund + fee = coin.amount := by
  constructor
  · intro p d x fee y r hp hc
    obtain ⟨-, hback, -⟩ := truncateAndConvertAmount_eq_ok hc
    have hfits : d ≤ maxCosmosTokenDecimals := by
      simp only [truncateAndConvertAmount, bind_eq_ok, pure_eq_ok, Prod.mk.injEq] at hc
      obtain ⟨_, -, _, -, _, hc, -⟩ := hc
      exact decimals_le_of_convertAmountDecimals hc
    have hexact := truncateAndConvertAmount_exact (validateSendingPrecision_eq_ok hfits hp) hc
    have hworth : fromXRPLDecimals d y = x - fee - r := by omega
    refine ⟨by omega, hback.trans (by rw [hworth]), fun fee' z r' hreturn => ?_⟩
    have hsum := (convertAndTruncateAmount_eq_ok hreturn).1
    omega
  · intro j hfailed
    obtain ⟨coin, t, o, hpaid, hdeparts, hreturns, -⟩ := j.outcome hb h
    obtain ⟨⟨txHash, hrefund⟩, -⟩ := hreturns hfailed
    have hcollected := hdeparts.collected
    have hle : t.sent coin.amount ≤ coin.amount := (Nat.div_mul_le_self _ _).trans (Nat.sub_le _ _)
    exact ⟨coin, coin.amount - t.sent coin.amount, t.sent coin.amount, txHash, hpaid, by omega, hrefund, by omega⟩

open Reference in
/-- A coin that is cancelled comes back without the fee, which was collected. -/
theorem refunds_exact_cancelled :
    convertAmountDecimals xrplTokensDecimals 18 1234567000000000 = .ok (1234567000000000999 - 10 - 989) ∧
      ∃ j : Journey host limited, j.result = .invalid ∧ j.departure = send 4 1000000 ∧
        ∃ (coin : Coin) (fee refund : ℕ) (txHash : Option String), j.departure.funds = [coin] ∧
          j.departed.1.store.feesOf coin.denom = j.start.feesOf coin.denom + fee ∧
            j.arrived.1.store.pendingRefunds[RefundKey.mk j.departure.sender j.operation.id]? =
              some ⟨j.departure.sender, j.operation.id, txHash, ⟨coin.denom, refund⟩⟩ ∧
              refund + fee = coin.amount := by
  have hexact := refunds_exact base58Sized_host started_limited
  refine ⟨(hexact.1 6 18 1234567000000000999 10 1234567000000000 989 (by decide) (by decide)).2.1, ?_⟩
  obtain ⟨j, -, hdeparture, -, -, hresult⟩ := exists_cancelled_xrp 1000 (.inr rfl)
  exact ⟨j, hresult, hdeparture, hexact.2 j (by rw [hresult]; decide)⟩

/-! ### The rate limiter -/

/-- What the rate limiter is told when the coins are sent is taken back if the transfer fails, and
not if it is accepted. -/
def Journey.Undone (j : Journey H w) (limiter : Addr) : Prop :=
  (j.result ≠ .accepted → ∀ p : Packet,
    ⟨.wasmExecute limiter (.rateLimit (.sendPacket p)) [], none⟩ ∈ j.departed.2.messages →
      ⟨.wasmExecute limiter (.rateLimit (.undoSend p)) [], none⟩ ∈ j.arrived.2.messages) ∧
    (j.result = .accepted → ∀ m ∈ j.arrived.2.messages, isUndo m.msg = false)

theorem run_rateLimitAddr (h : Started H w) (calls : List Call) :
    (run (step H) w calls).store.config.rateLimitAddr = w.store.config.rateLimitAddr :=
  run_storage (P := fun s => s.config.rateLimitAddr = w.store.config.rateLimitAddr) h rfl
    (fun hs he => (congrArg (fun f => f.2.2.2) he.fixed).trans hs) calls

theorem rateLimitMsgs_of_limiter {limiter : Addr} (h : s.config.rateLimitAddr = some limiter) (m : RateLimitMsg) :
    rateLimitMsgs s.config m = [.wasmExecute limiter (.rateLimit m) []] := by
  rw [rateLimitMsgs, h]

/-- **The rate limiter** is told of the coins that are sent, and a transfer that fails is taken back
exactly if the fee of the token is at most what is cut off the coins; nothing of an accepted transfer
is taken back. -/
theorem undone_iff (hb : H.Base58Sized) (h : Started H w) {limiter : Addr}
    (hl : w.store.config.rateLimitAddr = some limiter) (j : Journey H w) :
    ∃ (coin : Coin) (t : Terms), j.departure.funds = [coin] ∧ j.start.terms coin.denom = some t ∧
      j.departed.2.messages =
        plain [.wasmExecute limiter (.rateLimit (.sendPacket (packet t.key (t.announced coin.amount)))) []] ∧
      (j.Undone limiter ↔ (j.result ≠ .accepted → t.bridgingFee ≤ coin.amount % t.unit)) := by
  obtain ⟨coin, t, o, hpaid, hdeparts, hreturns, haccepted⟩ := j.outcome hb h
  have hstart : j.start.config.rateLimitAddr = some limiter := (run_rateLimitAddr h _).trans hl
  have hlast : j.last.config.rateLimitAddr = some limiter := (run_rateLimitAddr h _).trans hl
  have htold := hdeparts.told
  rw [rateLimitMsgs_of_limiter hstart] at htold
  have hanswered : j.result ≠ .accepted → j.arrived.2.messages =
      plain [.wasmExecute limiter (.rateLimit (.undoSend (packet t.key (t.sent coin.amount)))) []] := by
    intro hfailed
    rw [(hreturns hfailed).2, undoSendMsgs, rateLimitMsgs_of_limiter hlast]
  refine ⟨coin, t, hpaid, hdeparts.terms, htold, ?_⟩
  have hiff := Terms.sent_eq_announced_iff hdeparts.covered hdeparts.unit
  constructor
  · intro hundone hfailed
    have hmem := hundone.1 hfailed (packet t.key (t.announced coin.amount))
      (by rw [htold]; exact List.mem_singleton.mpr rfl)
    rw [hanswered hfailed] at hmem
    have hsame := List.mem_singleton.mp hmem
    simp only [SubMsg.mk.injEq, CosmosMsg.wasmExecute.injEq, WasmMsg.rateLimit.injEq, RateLimitMsg.undoSend.injEq,
      packet, Packet.mk.injEq, and_true, true_and] at hsame
    exact hiff.mp hsame.symm
  · intro hcovers
    refine ⟨fun hfailed p hp => ?_, haccepted⟩
    rw [htold] at hp
    have hsame := List.mem_singleton.mp hp
    simp only [SubMsg.mk.injEq, CosmosMsg.wasmExecute.injEq, WasmMsg.rateLimit.injEq, RateLimitMsg.sendPacket.injEq,
      and_true, true_and] at hsame
    rw [hanswered hfailed, hsame, ← hiff.mpr (hcovers hfailed)]
    exact List.mem_singleton.mpr rfl

open Reference in
/-- Without a fee, what the rate limiter was told is taken back. -/
theorem undone_iff_cancelled : ∃ j : Journey host limited, j.result = .invalid ∧ j.Undone "limiter" := by
  obtain ⟨j, hbefore, hdeparture, -, -, hresult⟩ := exists_cancelled_xrp 0 (.inl rfl)
  obtain ⟨coin, t, hpaid, ht, -, hiff⟩ := undone_iff base58Sized_host started_limited rfl j
  refine ⟨j, hresult, hiff.mpr fun _ => ?_⟩
  have hfee : ((run (step host) limited [recover, vote 2 relayer₁ allocation, feeOfXRP 0]).store.terms xrpDenom).map
      Terms.bridgingFee = some 0 := by decide +kernel
  rw [hdeparture] at hpaid
  obtain rfl : (⟨xrpDenom, 1000000⟩ : Coin) = coin := List.singleton_inj.mp hpaid
  rw [Journey.start, hbefore] at ht
  rw [ht, Option.map_some, Option.some.injEq] at hfee
  rw [hfee]
  exact Nat.zero_le _

open Reference in
/-- A million drops are announced to the rate limiter, of which the bridge keeps a fee of a thousand:
when the transfer is cancelled, the fee stays in the quota. -/
theorem quota_not_restored : ∃ j : Journey host limited, j.result = .invalid ∧ ¬ j.Undone "limiter" := by
  obtain ⟨j, hbefore, hdeparture, hbetween, harrival, hresult⟩ := exists_cancelled_xrp 1000 (.inr rfl)
  refine ⟨j, hresult, fun hundone => ?_⟩
  have hdeparts := congrArg (Except.map fun x : World × Response => x.2.messages) j.departs
  have harrives := congrArg (Except.map fun x : World × Response => x.2.messages) j.arrives
  rw [hbefore, hdeparture] at hdeparts harrives
  rw [hbetween, harrival] at harrives
  have hsent : (step host (run (step host) limited [recover, vote 2 relayer₁ allocation, feeOfXRP 1000])
      (send 4 1000000)).map (fun x => x.2.messages) = .ok [⟨.wasmExecute "limiter" (.rateLimit (.sendPacket
        (packet (buildXRPLTokenKey xrpIssuer xrpCurrency) 1000000))) [], none⟩] := by decide +kernel
  have hback : (step host (run (step host) limited ([recover, vote 2 relayer₁ allocation, feeOfXRP 1000] ++
      [send 4 1000000] ++ [])) (cancel 5 1)).map (fun x => x.2.messages) = .ok [⟨.wasmExecute "limiter" (.rateLimit
        (.undoSend (packet (buildXRPLTokenKey xrpIssuer xrpCurrency) 999000))) [], none⟩] := by decide +kernel
  have htold : j.departed.2.messages = _ := Except.ok.inj (hdeparts.symm.trans hsent)
  have hanswered : j.arrived.2.messages = _ := Except.ok.inj (harrives.symm.trans hback)
  have hmem := hundone.1 (by rw [hresult]; decide) (packet (buildXRPLTokenKey xrpIssuer xrpCurrency) 1000000)
    (by rw [htold]; exact List.mem_singleton.mpr rfl)
  rw [hanswered] at hmem
  exact absurd hmem (by decide)

end XrplBridge
