import Mathlib.Algebra.BigOperators.Group.Multiset.Basic
import Mathlib.Algebra.Order.Group.Multiset
import Mathlib.Tactic.Abel
import XrplBridge.Protocol.Escrow
import XrplBridge.Protocol.Journeys

/-!
# What the rate limiter is told

The rate limiter is told of every transfer: a packet for coins that are sent, another one to undo it
if the transfer fails, and a packet for what comes from XRPL. Does it lose track? Every packet that
was sent belongs to one transfer, which is pending, accepted or undone, and the packets of these are
for the same channel and token and for at most the amount (`Covered`): what is undone was sent
before, and only once.

A call adds to the packets what it adds to the transfers (`Effect.pendingPackets`); which packet a
transfer is worth does not change while it is pending (`Effect.packetOf_eq`). `limits_covered` is the
result for every run.
-/

namespace XrplBridge

open Library Contract Std

/-- What the rate limiter is told by a message, if it is for it. -/
def Contract.CosmosMsg.rateLimit : CosmosMsg → Option RateLimitMsg
  | .wasmExecute _ (.rateLimit m) _ => some m
  | _ => none

namespace Contract.RateLimitMsg

/-- A packet that is sent. -/
def sent : RateLimitMsg → Option Packet
  | sendPacket packet => some packet
  | _ => none

/-- A packet that was not sent after all. -/
def undone : RateLimitMsg → Option Packet
  | undoSend packet => some packet
  | _ => none

/-- A packet that has come. -/
def arrived : RateLimitMsg → Option Packet
  | recvPacket packet => some packet
  | _ => none

end Contract.RateLimitMsg

/-- The packets that messages tell the rate limiter of. -/
def packets (f : RateLimitMsg → Option Packet) (ms : List SubMsg) : Multiset Packet :=
  ↑(ms.filterMap fun m => m.msg.rateLimit.bind f)

/-- The packet that a transfer is worth: what is undone if it fails. -/
def Contract.Storage.packetOf (s : Storage) : OperationType → Option Packet
  | .cosmosToXRPLTransfer issuer currency amount maxAmount _ _ =>
    match s.xrplTokens.primary[buildXRPLTokenKey issuer currency]? with
    | some _ => some (packet (buildXRPLTokenKey issuer currency) (maxAmount.getD amount))
    | none => (s.cosmosTokens.item currency).map fun x =>
      packet (buildXRPLTokenKey issuer currency) (fromXRPLDecimals x.2.decimals (maxAmount.getD amount))
  | _ => none

/-- The packets of the pending operations. -/
def Contract.Storage.pendingPackets (s : Storage) (f : OperationType → Option Packet) : Multiset Packet :=
  ↑(collect s.pendingOperations fun o => f o.operationType)

/-- The packets of the pending transfers. -/
def Contract.Storage.outstanding (s : Storage) : Multiset Packet := s.pendingPackets s.packetOf

/-- The packet of an operation that a call ends. -/
def endedPackets (H : Host) (s : Storage) (f : OperationType → Option Packet) (msg : ExecuteMsg) : Multiset Packet :=
  ↑((ended H s msg).bind fun x => f x.2.1.operationType).toList

/-- The packet of a transfer that a call ends as accepted. -/
def acceptedPackets (H : Host) (s : Storage) (msg : ExecuteMsg) : Multiset Packet :=
  ↑((ended H s msg).bind fun x => if x.2.2 = .accepted then s.packetOf x.2.1.operationType else none).toList

/-- The key of a transfer from XRPL that a call executes. -/
def executedKey (H : Host) (s : Storage) : ExecuteMsg → Multiset String
  | .saveEvidence (.xrplToCosmosTransfer e) =>
    if s.reaches H (.xrplToCosmosTransfer e) then {buildXRPLTokenKey e.issuer e.currency} else 0
  | _ => 0

/-- A packet is covered by one for the same channel and token, of at least its amount. -/
structure Covered (p q : Packet) : Prop where
  channel : p.channel = q.channel
  denom : p.denom = q.denom
  amount : p.amount ≤ q.amount

variable {H : Host} {s s' s₁ : Storage} {bridge : String} {k timestamp : ℕ} {o : Operation} {t : OperationType}
  {f : OperationType → Option Packet} {g : RateLimitMsg → Option Packet} {ms : List SubMsg} {msgs : List CosmosMsg}
  {w : World}

/-! ### Packets of messages -/

@[simp] theorem packets_nil : packets g [] = 0 := rfl

@[simp] theorem packets_plain_nil : packets g (plain []) = 0 := rfl

theorem packets_append (ms ms' : List SubMsg) : packets g (ms ++ ms') = packets g ms + packets g ms' := by
  rw [packets, List.filterMap_append]
  rfl

theorem plain_append (msgs msgs' : List CosmosMsg) : plain (msgs ++ msgs') = plain msgs ++ plain msgs' :=
  List.map_append

/-- Messages to others than the rate limiter. -/
theorem packets_eq_zero (h : ∀ m ∈ ms, m.msg.rateLimit = none) : packets g ms = 0 := by
  rw [packets, List.filterMap_eq_nil_iff.mpr fun m hm => by rw [h m hm]; rfl]
  rfl

theorem packets_plain_eq_zero (h : ∀ m ∈ msgs, m.rateLimit = none) : packets g (plain msgs) = 0 := by
  refine packets_eq_zero fun m hm => ?_
  obtain ⟨m', hm', rfl⟩ := List.mem_map.mp hm
  exact h m' hm'

theorem packets_rateLimitMsgs {config : Config} (h : config.rateLimitAddr.isSome = true) (m : RateLimitMsg) :
    packets g (plain (rateLimitMsgs config m)) = ↑(g m).toList := by
  obtain ⟨addr, ha⟩ := Option.isSome_iff_exists.mp h
  rw [rateLimitMsgs, ha]
  cases hg : g m <;> simp [packets, plain, CosmosMsg.rateLimit, hg]

theorem rateLimit_mintMsgs (config : Config) (denom : String) (balances : List Cw20Coin) :
    ∀ m ∈ mintMsgs config denom balances, m.rateLimit = none := by
  intro m hm
  obtain ⟨b, -, rfl⟩ := List.mem_map.mp hm
  rfl

theorem packets_universalSwapMsgs (config : Config) (memo : String) (coin : Coin) :
    packets g (universalSwapMsgs config memo coin) = 0 := by
  refine packets_eq_zero fun m hm => ?_
  unfold universalSwapMsgs at hm
  split at hm
  · split_ifs at hm
    · rw [List.mem_singleton.mp hm]
      rfl
    · cases hm
  · cases hm

/-! ### The packet of a transfer -/

section Packet

variable {issuer currency recipient : String} {amount : ℕ} {maxAmount : Option ℕ} {sender : Addr}

theorem packetOf_sender_none (s : Storage) (h : t.sender = none) : s.packetOf t = none := by
  cases t with
  | cosmosToXRPLTransfer => cases h
  | _ => rfl

theorem packetOf_xrpl {token : XRPLToken} (h : s.xrplTokens.primary[buildXRPLTokenKey issuer currency]? = some token) :
    s.packetOf (.cosmosToXRPLTransfer issuer currency amount maxAmount sender recipient) =
      some (packet (buildXRPLTokenKey issuer currency) (maxAmount.getD amount)) := by
  rw [Storage.packetOf, h]

theorem packetOf_cosmos {denom : String} {token : CosmosToken}
    (hno : s.xrplTokens.primary[buildXRPLTokenKey issuer currency]? = none)
    (h : s.cosmosTokens.item currency = some (denom, token)) :
    s.packetOf (.cosmosToXRPLTransfer issuer currency amount maxAmount sender recipient) =
      some (packet (buildXRPLTokenKey issuer currency) (fromXRPLDecimals token.decimals (maxAmount.getD amount))) := by
  rw [Storage.packetOf, hno, h]
  rfl

/-- What a transfer gives back is its packet. -/
theorem GivesBack.packetOf {D key : String} {back : ℕ} (h : GivesBack s.registry bridge D sender key back t)
    (hb : H.Base58Sized) (hbridge : validateXRPLAddressFormat H bridge = .ok ()) (hreg : Registered H bridge s) :
    s.packetOf t = some (packet key back) := by
  cases h with
  | xrpl hr =>
    obtain ⟨token, htoken, -⟩ := exists_xrplToken hr
    exact packetOf_xrpl htoken
  | cosmos hr hD =>
    obtain ⟨token, htoken, rfl⟩ := exists_cosmosToken hr
    exact packetOf_cosmos (hreg.xrpl_none hb hbridge (hreg.sound.currency _ _ hr))
      (IndexedMap.item_eq_some.mpr ⟨htoken, rfl⟩)

/-- **What a transfer is worth stays the same**, whatever is registered. -/
theorem packetOf_eq_of_covers (hb : H.Base58Sized) (hbridge : validateXRPLAddressFormat H bridge = .ok ())
    (hreg : Registered H bridge s) (hreg' : Registered H bridge s') (hs : s.registry.Step H bridge s'.registry)
    (hc : s.registry.Covers bridge t) : s'.packetOf t = s.packetOf t := by
  cases hc with
  | xrplTransfer hr =>
    obtain ⟨token, htoken, -⟩ := exists_xrplToken hr
    obtain ⟨token', htoken', -⟩ := exists_xrplToken (hs.xrpl_mono hr)
    rw [packetOf_xrpl htoken, packetOf_xrpl htoken']
  | @cosmosTransfer n _ _ _ hr =>
    have hcurrency := hreg.sound.currency _ _ hr
    obtain ⟨token, htoken, hname⟩ := exists_cosmosToken hr
    obtain ⟨token', htoken', hname'⟩ := exists_cosmosToken (hs.cosmos_mono hr)
    have hdecimals : token'.decimals = token.decimals := congrArg CosmosName.decimals (hname'.trans hname.symm)
    have hitem : s.cosmosTokens.item n.xrplCurrency = some (n.denom, token) :=
      IndexedMap.item_eq_some.mpr ⟨htoken, congrArg CosmosName.xrplCurrency hname⟩
    have hitem' : s'.cosmosTokens.item n.xrplCurrency = some (n.denom, token') :=
      IndexedMap.item_eq_some.mpr ⟨htoken', congrArg CosmosName.xrplCurrency hname'⟩
    rw [packetOf_cosmos (hreg.xrpl_none hb hbridge hcurrency) hitem,
      packetOf_cosmos (hreg'.xrpl_none hb hbridge hcurrency) hitem', hdecimals]
  | _ => rw [packetOf_sender_none s rfl, packetOf_sender_none s' rfl]

theorem packetOf_of_tokens (h : s'.tokens = s.tokens) : s'.packetOf t = s.packetOf t := by
  have hxrpl : s'.xrplTokens = s.xrplTokens := congrArg Prod.fst h
  have hcosmos : s'.cosmosTokens = s.cosmosTokens := congrArg Prod.snd h
  simp only [Storage.packetOf, hxrpl, hcosmos]

/-- A call leaves what the operations are worth as it is, those that it creates included. -/
theorem Contract.Effect.packetOf_eq {q : Querier} {env : BlockInfo} {funds : List Coin} {msg : ExecuteMsg}
    (h : Effect H s q env sender funds msg s' ms) (hb : H.Base58Sized)
    (hbridge : validateXRPLAddressFormat H bridge = .ok ()) (hreg : Registered H bridge s)
    (hk : s'.pendingOperations[k]? = some o) : s'.packetOf o.operationType = s.packetOf o.operationType := by
  cases h.origin hk with
  | @kept old hold _ htype =>
    have hcovers := hreg.covered k old.entry (by simp [hold])
    rw [htype]
    have hstep := h.registry
    rw [hreg.address] at hstep
    exact packetOf_eq_of_covers hb hbridge hreg (hreg.step h) hstep hcovers
  | created _ _ htransfer =>
    cases hs : o.operationType.sender with
    | none => rw [packetOf_sender_none s' hs, packetOf_sender_none s hs]
    | some a =>
      obtain ⟨-, -, recipient, deliver, rfl⟩ := htransfer a hs
      cases h with
      | sentXRPL _ _ _ hc ho => exact packetOf_of_tokens (ho.tokens.trans (handleFeeCollection_tokens hc))
      | sentCosmos _ _ _ _ _ _ hc ho => exact packetOf_of_tokens (ho.tokens.trans (handleFeeCollection_tokens hc))

end Packet

/-! ### The pending transfers -/

section Pending

theorem collect_congr {m : ExtTreeMap ℕ Operation} {f g : Operation → Option Packet}
    (h : ∀ (k : ℕ) (o : Operation), m[k]? = some o → f o = g o) : collect m f = collect m g := by
  refine List.filterMap_congr fun ⟨k, o⟩ hmem => ?_
  exact h k o (ExtTreeMap.mem_toList_iff_getElem?_eq_some.mp hmem)

theorem pendingPackets_insert {m : ExtTreeMap ℕ Operation} (hk : m[k]? = none) :
    (↑(collect (m.insert k o) fun o : Operation => f o.operationType) : Multiset Packet) =
      ↑(f o.operationType).toList + ↑(collect m fun o : Operation => f o.operationType) :=
  Multiset.coe_eq_coe.mpr (collect_insert_new hk o _)

theorem pendingPackets_types {m m' : ExtTreeMap ℕ Operation}
    (h : (m'.map fun _ o => o.operationType) = m.map fun _ o => o.operationType) :
    collect m' (fun o : Operation => f o.operationType) = collect m fun o : Operation => f o.operationType := by
  rw [← collect_map m' Operation.operationType, ← collect_map m Operation.operationType, h]

theorem Contract.Opens.pendingPackets (h : Opens s timestamp t s') :
    s'.pendingPackets f = ↑(f t).toList + s.pendingPackets f := by
  cases h with
  | intro _ _ hunused => exact pendingPackets_insert hunused

theorem Contract.Registers.pendingPackets (h : Registers s timestamp s') (hf : ∀ t, t.sender = none → f t = none) :
    s'.pendingPackets f = s.pendingPackets f := by
  cases h with
  | counted => rfl
  | exhausted => rfl
  | allocating _ _ _ _ hunused =>
    apply (pendingPackets_insert hunused).trans
    rw [newOperation, hf _ rfl, Option.toList_none, Multiset.coe_nil, zero_add]
    rfl

theorem endOperation_pendingPackets (result : TransactionResult) (ticket : Option ℕ)
    (ho : s.pendingOperations[k]? = some o) :
    s.pendingPackets f = (endOperation s result k ticket).pendingPackets f + ↑(f o.operationType).toList := by
  have hpending : (endOperation s result k ticket).pendingOperations = s.pendingOperations.erase k :=
    congrArg Prod.fst (endOperation_issued s result k ticket)
  rw [Storage.pendingPackets, Storage.pendingPackets, hpending, add_comm]
  exact Multiset.coe_eq_coe.mpr (collect_erase ho _)

theorem Contract.Settles.pendingPackets {env : BlockInfo} {e : ResultEvidence} (h : Settles s env e k s')
    (ho : s.pendingOperations[k]? = some o) (hf : ∀ t, t.sender = none → f t = none) :
    s.pendingPackets f = s'.pendingPackets f + ↑(f o.operationType).toList := by
  cases h with
  | registered _ _ hr => rw [hr.pendingPackets hf, ← endOperation_pendingPackets _ _ ho]
  | unregistered => exact endOperation_pendingPackets _ _ ho

theorem pendingPackets_of_pending (h : s'.pendingOperations = s.pendingOperations) :
    s'.pendingPackets f = s.pendingPackets f := by
  rw [Storage.pendingPackets, h]
  rfl

/-- A call that sends no coins takes away what it ends. -/
theorem Contract.Effect.pendingPackets {q : Querier} {env : BlockInfo} {sender : Addr} {funds : List Coin}
    {msg : ExecuteMsg} (h : Effect H s q env sender funds msg s' ms) (hf : ∀ t, t.sender = none → f t = none)
    (hmsg : ∀ recipient deliver, msg ≠ .sendToXRPL recipient deliver) :
    s.pendingPackets f = s'.pendingPackets f + endedPackets H s f msg := by
  have hkept : ∀ {msg}, s'.pendingPackets f = s.pendingPackets f → ended H s msg = none →
      s.pendingPackets f = s'.pendingPackets f + endedPackets H s f msg := by
    intro msg hsame hno
    rw [hsame, endedPackets, hno, Option.bind_none, Option.toList_none, Multiset.coe_nil, add_zero]
  cases h with
  | voted _ hv => exact hkept (pendingPackets_of_pending hv.pendingOperations) (ended_of_not_reaches hv.reaches)
  | receivedXRPL _ hv _ _ _ hc =>
    obtain ⟨⟨_, _, rfl⟩, -⟩ := handleFeeCollection_eq_ok hc
    exact hkept (pendingPackets_of_pending hv.pendingOperations) rfl
  | receivedCosmos _ hv _ _ _ hc =>
    obtain ⟨⟨_, _, rfl⟩, -⟩ := handleFeeCollection_eq_ok hc
    exact hkept (pendingPackets_of_pending hv.pendingOperations) rfl
  | completed _ _ hv hid ho _ hh hset =>
    have hpending := hh.pendingOperations.trans hv.pendingOperations
    rw [endedPackets, ended_of_reaches hv.reaches hid ho, ← pendingPackets_of_pending hpending]
    exact hset.pendingPackets (by rw [hpending, ho]) hf
  | cancelled ho hh =>
    rw [endedPackets, ended_cancelled ho, ← pendingPackets_of_pending hh.pendingOperations]
    exact endOperation_pendingPackets _ _ (by rw [hh.pendingOperations, ho])
  | sentXRPL | sentCosmos => exact absurd rfl (hmsg _ _)
  | registeredXRPL _ _ _ _ _ ho =>
    refine hkept (ho.pendingPackets.trans ?_) rfl
    rw [hf _ rfl, Option.toList_none, Multiset.coe_nil, zero_add]
    rfl
  | recoveredXRPL _ _ ho =>
    refine hkept (ho.pendingPackets.trans ?_) rfl
    rw [hf _ rfl, Option.toList_none, Multiset.coe_nil, zero_add]
    rfl
  | rotating _ _ ho =>
    refine hkept (ho.pendingPackets.trans ?_) rfl
    rw [hf _ rfl, Option.toList_none, Multiset.coe_nil, zero_add]
    rfl
  | recovering _ _ _ _ hunused =>
    refine hkept ((pendingPackets_insert hunused).trans ?_) rfl
    rw [newOperation, hf _ rfl, Option.toList_none, Multiset.coe_nil, zero_add]
    rfl
  | signed ho =>
    exact hkept (congrArg Multiset.ofList (pendingPackets_types (map_insert_same ho rfl))) rfl
  | repriced =>
    exact hkept (congrArg Multiset.ofList (pendingPackets_types ExtTreeMap.map_map)) rfl
  | claimedFees _ ht =>
    obtain ⟨⟨_, rfl⟩, -⟩ := substractRelayerFees_eq_ok ht
    exact hkept rfl rfl
  | _ => exact hkept rfl rfl

end Pending

/-! ### What a call tells -/

/-- What the messages of a call tell the rate limiter, but for the coins that are sent: the transfer
that fails is undone, and the one that is executed has come. -/
structure Told (H : Host) (s : Storage) (msg : ExecuteMsg) (ms : List SubMsg) : Prop where
  undone : endedPackets H s s.packetOf msg = packets RateLimitMsg.undone ms + acceptedPackets H s msg
  sent : (∀ recipient deliver, msg ≠ .sendToXRPL recipient deliver) → packets RateLimitMsg.sent ms = 0
  arrived : (packets RateLimitMsg.arrived ms).map Packet.denom = executedKey H s msg

section Told

variable {q : Querier} {env : BlockInfo} {sender : Addr} {funds : List Coin} {msg : ExecuteMsg} {r : Response}

/-- A call that ends and executes nothing, and tells nothing. -/
theorem Told.quiet (hends : ended H s msg = none) (hkey : executedKey H s msg = 0)
    (hms : ∀ g, packets g ms = 0) : Told H s msg ms := by
  refine ⟨?_, fun _ => hms _, ?_⟩
  · rw [endedPackets, acceptedPackets, hends, hms]
    rfl
  · rw [hms, hkey, Multiset.map_zero]

/-- The end of an operation is told to the rate limiter if it is a transfer that fails. -/
theorem Contract.Handled.told {operationResult : Option OperationResult} {result : TransactionResult}
    {txHash : Option String} {tokenFactoryAddr burnAddr : Addr}
    (h : Handled s₁ o operationResult result txHash tokenFactoryAddr burnAddr s' msgs) (htokens : s₁.tokens = s.tokens)
    (hlimit : s₁.config.rateLimitAddr.isSome = true) (hends : ended H s msg = some (k, o, result))
    (hkey : executedKey H s msg = 0) : Told H s msg (plain msgs) := by
  have hpacket : s₁.packetOf o.operationType = s.packetOf o.operationType := packetOf_of_tokens htokens
  -- what is accepted, or is no transfer
  have hquiet : (∀ g, packets g (plain msgs) = 0) → (result = .accepted ∨ o.operationType.sender = none) →
      Told H s msg (plain msgs) := by
    intro hms hor
    refine ⟨?_, fun _ => hms _, by rw [hms, hkey, Multiset.map_zero]⟩
    rw [hms, zero_add, endedPackets, acceptedPackets, hends, Option.bind_some, Option.bind_some]
    rcases hor with hacc | hnone
    · rw [if_pos hacc]
    · rw [packetOf_sender_none s hnone, ite_self]
  have hfailed : ∀ p : Packet, result ≠ .accepted → s₁.packetOf o.operationType = some p →
      msgs = rateLimitMsgs s₁.config (.undoSend p) → Told H s msg (plain msgs) := by
    rintro p hf hp rfl
    rw [hpacket] at hp
    refine ⟨?_, fun _ => packets_rateLimitMsgs hlimit _, ?_⟩
    · rw [packets_rateLimitMsgs hlimit, endedPackets, acceptedPackets, hends, Option.bind_some, Option.bind_some,
        if_neg hf, hp]
      rfl
    · rw [packets_rateLimitMsgs hlimit, hkey]
      rfl
  cases h with
  | allocated ht | notAllocated ht | trustSet ht | rotated ht | notRotated ht =>
    exact hquiet (fun _ => rfl) (.inr (by rw [ht]; rfl))
  | burnt _ _ hacc =>
    exact hquiet (fun g => packets_plain_eq_zero (by simp [tokenFactoryMsg, CosmosMsg.rateLimit])) (.inl hacc)
  | escrowed _ _ hacc => exact hquiet (fun _ => rfl) (.inl hacc)
  | refunded ht hr hf => exact hfailed _ hf (by rw [ht, packetOf_xrpl hr]) rfl
  | released ht hno hitem hf hconverted =>
    refine hfailed _ hf (by rw [ht, packetOf_cosmos hno hitem]) ?_
    rw [convertAmountDecimals_fromXRPL hconverted]
    rfl

/-- The messages of an executed transfer, apart from the packet. -/
theorem packets_mintXRPLOriginated (config : Config) (denom memo : String) (fee amount : ℕ) (recipient : Addr)
    (rateLimit : List CosmosMsg) :
    packets g (plain (mintFeeMsgs H config denom fee ++
        [tokenFactoryMsg config.tokenFactoryAddr (.mintTokens denom amount recipient)] ++ rateLimit) ++
      universalSwapMsgs config memo ⟨denom, amount⟩) = packets g (plain rateLimit) := by
  have hfee : packets g (plain (mintFeeMsgs H config denom fee)) = 0 := by
    unfold mintFeeMsgs
    split_ifs <;> rfl
  rw [packets_append, packets_universalSwapMsgs, add_zero, plain_append, packets_append, plain_append, packets_append, hfee]
  exact zero_add _

theorem packets_sendCosmosOriginated (config : Config) (coin : Coin) (memo : String) (recipient : Addr)
    (rateLimit : List CosmosMsg) :
    packets g (plain ((if isUniversalSwap config memo then [] else [.bankSend recipient [coin]]) ++ rateLimit) ++
      universalSwapMsgs config memo coin) = packets g (plain rateLimit) := by
  have hsend : packets g (plain (if isUniversalSwap config memo then [] else [.bankSend recipient [coin]])) = 0 := by
    split_ifs <;> rfl
  rw [packets_append, packets_universalSwapMsgs, add_zero, plain_append, packets_append, hsend, zero_add]

/-- **A transfer from XRPL** is told when it is executed. -/
theorem saveEvidence_told {e : TransferEvidence} (hlimit : s.config.rateLimitAddr.isSome = true)
    (h : saveEvidence H s q env sender (.xrplToCosmosTransfer e) = .ok (s', r)) :
    Told H s (.saveEvidence (.xrplToCosmosTransfer e)) r.messages := by
  simp only [saveEvidence, bind_eq_ok] at h
  obtain ⟨_, -, _, -, ⟨s₁, reached⟩, hv, h⟩ := h
  have hvotes := votes_of_ok hv
  obtain ⟨tx, ps, rfl⟩ := hvotes.frame
  simp only [saveTransferEvidence, bind_eq_ok, failIf_eq_ok, pure_eq_ok, Prod.mk.injEq] at h
  obtain ⟨_, -, _, -, _, -, ⟨s₂, r₁⟩, h, rfl, rfl⟩ := h
  rw [Response.messages_addAttributes]
  -- what is told in the end
  have htold : ∀ p : Packet, p.denom = buildXRPLTokenKey e.issuer e.currency →
      (∀ g, packets g r₁.messages = if reached = true then ↑(g (.recvPacket p)).toList else 0) →
        Told H s (.saveEvidence (.xrplToCosmosTransfer e)) r₁.messages := by
    intro p hdenom hms
    refine ⟨?_, fun _ => ?_, ?_⟩
    · rw [hms]
      split_ifs <;> rfl
    · rw [hms]
      split_ifs <;> rfl
    · rw [hms, executedKey, hvotes.reaches]
      cases reached with
      | false => rfl
      | true => exact congrArg (fun key => ({key} : Multiset String)) hdenom
  obtain ⟨addr, haddr⟩ := Option.isSome_iff_exists.mp hlimit
  split_ifs at h with hissuer
  · simp only [receiveXRPLOriginated, bind_eq_ok, orFail_eq_ok, failIf_eq_ok] at h
    obtain ⟨token, -, _, -, f, -, ⟨a, rem⟩, ht, bridged, -, _, -, h⟩ := h
    cases reached with
    | false =>
      cases h
      exact htold (packet (buildXRPLTokenKey e.issuer e.currency) 0) rfl fun g => rfl
    | true =>
      have hpos := (truncateAmount_eq_ok ht).2.1
      simp only [if_true, mintXRPLOriginated, bind_eq_ok, if_pos hpos.ne', pure_eq_ok, Prod.mk.injEq] at h
      obtain ⟨⟨s₃, fee⟩, -, rl, hrl, -, rfl⟩ := h
      simp only [recvPacketXRPL, haddr, bind_eq_ok, pure_eq_ok] at hrl
      obtain ⟨⟨t, _⟩, -, rfl⟩ := hrl
      refine htold (packet (buildXRPLTokenKey e.issuer e.currency) t) rfl fun g => ?_
      rw [if_pos rfl, ← packets_rateLimitMsgs hlimit, ← packets_mintXRPLOriginated (H := H) s.config token.cosmosDenom]
      rfl
  · simp only [receiveCosmosOriginated, bind_eq_ok, orFail_eq_ok, failIf_eq_ok] at h
    obtain ⟨⟨denom, token⟩, -, _, -, ⟨a, rem⟩, -, h⟩ := h
    cases reached with
    | false =>
      cases h
      exact htold (packet (buildXRPLTokenKey e.issuer e.currency) 0) rfl fun g => rfl
    | true =>
      simp only [if_true, sendCosmosOriginated, bind_eq_ok, pure_eq_ok, Prod.mk.injEq] at h
      obtain ⟨⟨s₃, fee⟩, -, rl, hrl, -, rfl⟩ := h
      simp only [recvPacketCosmos, haddr, bind_eq_ok, pure_eq_ok] at hrl
      obtain ⟨t, -, rfl⟩ := hrl
      refine htold (packet (buildXRPLTokenKey e.issuer e.currency) t) rfl fun g => ?_
      rw [if_pos rfl, ← packets_rateLimitMsgs hlimit,
        ← packets_sendCosmosOriginated s.config ⟨token.denom, a⟩ (e.memo.getD "") e.recipient]
      rfl

theorem executeRateLimit_told {action : ContractActions} {m : RateLimitMsg} (hends : ended H s msg = none)
    (hkey : executedKey H s msg = 0) (hm : m.sent = none ∧ m.undone = none ∧ m.arrived = none)
    (h : executeRateLimit s sender action m = .ok (s', r)) : Told H s msg r.messages := by
  simp only [executeRateLimit, bind_eq_ok, pure_eq_ok, Prod.mk.injEq] at h
  obtain ⟨_, -, addr, -, -, rfl⟩ := h
  have hms : ∀ g : RateLimitMsg → Option Packet, g m = none →
      packets g [⟨.wasmExecute addr (.rateLimit m) [], none⟩] = 0 := by
    intro g hg
    simp [packets, CosmosMsg.rateLimit, hg]
  refine ⟨?_, fun _ => hms _ hm.1, ?_⟩
  · rw [endedPackets, acceptedPackets, hends]
    exact ((add_zero _).trans (hms _ hm.2.1)).symm
  · rw [hkey]
    exact congrArg (Multiset.map Packet.denom) (hms _ hm.2.2)

/-- **What every call tells the rate limiter.** -/
theorem told_of_execute (hlimit : s.config.rateLimitAddr.isSome = true)
    (h : execute H s q env sender funds msg = .ok (s', r)) : Told H s msg r.messages := by
  have he := effect_of_execute h
  cases msg with
  | saveEvidence e =>
    cases e with
    | xrplToCosmosTransfer e =>
      have hevidence : saveEvidence H s q env sender (.xrplToCosmosTransfer e) = .ok (s', r) := h
      exact saveEvidence_told hlimit hevidence
    | xrplTransactionResult e =>
      generalize r.messages = ms at he ⊢
      cases he with
      | voted _ hv => exact .quiet (ended_of_not_reaches hv.reaches) rfl fun _ => rfl
      | completed _ _ hv hid ho _ hh =>
        refine hh.told hv.tokens ?_ (ended_of_reaches hv.reaches hid ho) rfl
        obtain ⟨_, _, hs⟩ := hv.frame
        rw [hs]
        exact hlimit
  | cancelPendingOperation =>
    generalize r.messages = ms at he ⊢
    cases he with
    | cancelled ho hh => exact hh.told rfl hlimit (ended_cancelled ho) rfl
  | addRateLimit => exact executeRateLimit_told rfl rfl ⟨rfl, rfl, rfl⟩ h
  | removeRateLimit => exact executeRateLimit_told rfl rfl ⟨rfl, rfl, rfl⟩ h
  | resetRateLimitQuota => exact executeRateLimit_told rfl rfl ⟨rfl, rfl, rfl⟩ h
  | sendToXRPL recipient deliver =>
    generalize r.messages = ms at he ⊢
    have hsent : ∀ p : Packet, ms = plain (rateLimitMsgs s.config (.sendPacket p)) →
        Told H s (.sendToXRPL recipient deliver) ms := by
      rintro p rfl
      refine ⟨?_, fun hno => absurd rfl (hno _ _), ?_⟩
      · rw [packets_rateLimitMsgs hlimit]
        rfl
      · rw [packets_rateLimitMsgs hlimit]
        rfl
    cases he with
    | sentXRPL _ _ _ _ _ _ _ _ _ htold => exact hsent _ (congrArg plain htold)
    | sentCosmos _ _ _ _ _ _ _ _ _ _ _ htold => exact hsent _ (congrArg plain htold)
  | createCosmosToken =>
    generalize r.messages = ms at he ⊢
    cases he with
    | createdToken =>
      exact .quiet rfl rfl fun _ => packets_plain_eq_zero (List.forall_mem_cons.mpr ⟨rfl, rateLimit_mintMsgs _ _ _⟩)
  | mintCosmosToken =>
    generalize r.messages = ms at he ⊢
    cases he with
    | mintedToken => exact .quiet rfl rfl fun _ => packets_plain_eq_zero (rateLimit_mintMsgs _ _ _)
  | _ =>
    generalize r.messages = ms at he ⊢
    cases he
    exact .quiet rfl rfl fun _ => rfl

end Told

/-! ### Coins that are sent -/

/-- A call that sends coins adds the packet of the transfer that it creates. -/
theorem Contract.Effect.pendingPackets_sent {q : Querier} {env : BlockInfo} {sender : Addr} {funds : List Coin}
    {recipient : String} {deliver : Option ℕ} (h : Effect H s q env sender funds (.sendToXRPL recipient deliver) s' ms)
    (hk : opened H s (.sendToXRPL recipient deliver) = some k) (ho : s'.pendingOperations[k]? = some o) :
    s'.pendingPackets f = ↑(f o.operationType).toList + s.pendingPackets f := by
  have hopens : ∀ {s₁ : Storage} {t : OperationType} {fee bridgingFee remainder : ℕ} {denom : String},
      handleFeeCollection s bridgingFee denom remainder = .ok (s₁, fee) → Opens s₁ env.seconds t s' →
        s'.pendingPackets f = ↑(f o.operationType).toList + s.pendingPackets f := by
    intro s₁ t fee bridgingFee remainder denom hc hopens
    obtain ⟨k', o', hfront, ho', htype⟩ := hopens.front
    rw [handleFeeCollection_available hc] at hfront
    cases hk.symm.trans hfront
    cases ho.symm.trans ho'
    rw [hopens.pendingPackets, htype]
    obtain ⟨⟨_, _, rfl⟩, -⟩ := handleFeeCollection_eq_ok hc
    rfl
  cases h with
  | sentXRPL _ _ _ hc hopened => exact hopens hc hopened
  | sentCosmos _ _ _ _ _ _ hc hopened => exact hopens hc hopened

theorem Terms.sent_le_announced (t : Terms) (amount : ℕ) : t.sent amount ≤ t.announced amount :=
  Nat.mul_le_mul_right _ (Nat.div_le_div_right (Nat.sub_le _ _))

/-- What a call adds to the pending transfers, undoes or completes, is covered by what it sends. -/
theorem limits_step {q : Querier} {env : BlockInfo} {sender : Addr} {funds : List Coin} {msg : ExecuteMsg} {r : Response}
    (hb : H.Base58Sized) (hbridge : validateXRPLAddressFormat H bridge = .ok ()) (hreg : Registered H bridge s)
    (hprecise : ∀ (key : String) (token : CosmosToken), s.cosmosTokens.primary[key]? = some token →
      PreciseFor token.sendingPrecision token.decimals)
    (hlimit : s.config.rateLimitAddr.isSome = true) (h : execute H s q env sender funds msg = .ok (s', r)) :
    ∃ new : Multiset Packet, Multiset.Rel Covered new (packets RateLimitMsg.sent r.messages) ∧
      s.outstanding + new = s'.outstanding + (packets RateLimitMsg.undone r.messages + acceptedPackets H s msg) := by
  have he := effect_of_execute h
  have htold := told_of_execute hlimit h
  have hsame : s'.outstanding = s'.pendingPackets s.packetOf :=
    congrArg Multiset.ofList (collect_congr fun k o hk => he.packetOf_eq hb hbridge hreg hk)
  rw [hsame, ← htold.undone]
  by_cases hmsg : ∃ recipient deliver, msg = .sendToXRPL recipient deliver
  · obtain ⟨recipient, deliver, rfl⟩ := hmsg
    obtain ⟨coin, t, k, o, -, hopens, ho, hdeparts⟩ := he.departs hreg hprecise
    have hpacket := hdeparts.givesBack.packetOf hb hbridge hreg
    refine ⟨{packet t.key (t.sent coin.amount)}, ?_, ?_⟩
    · rw [hdeparts.told, packets_rateLimitMsgs hlimit]
      exact .cons ⟨rfl, rfl, t.sent_le_announced _⟩ .zero
    · rw [he.pendingPackets_sent hopens ho, hpacket, add_comm]
      exact (add_zero _).symm
  · have hno : ∀ recipient deliver, msg ≠ .sendToXRPL recipient deliver :=
      fun recipient deliver heq => hmsg ⟨recipient, deliver, heq⟩
    refine ⟨0, ?_, ?_⟩
    · rw [htold.sent hno]
      exact .zero
    · rw [add_zero]
      exact he.pendingPackets (fun t ht => packetOf_sender_none s ht) hno

/-! ### In every run -/

/-- The packets of the transfers that a run ends as accepted. -/
def acceptedIn (H : Host) (w : World) (calls : List Call) : Multiset Packet :=
  ((history (step H) w calls).map fun x => acceptedPackets H x.1.store x.2.msg).sum

/-- The keys of the transfers from XRPL that a run executes. -/
def executedIn (H : Host) (w : World) (calls : List Call) : Multiset String :=
  ((history (step H) w calls).map fun x => executedKey H x.1.store x.2.msg).sum

/-- The packets of a token, added up. -/
def amountOf (D : String) (m : Multiset Packet) : ℕ := (m.map fun p => if p.denom = D then p.amount else 0).sum

theorem amountOf_le {D : String} {m m' : Multiset Packet} (h : Multiset.Rel Covered m m') :
    amountOf D m ≤ amountOf D m' := by
  induction h with
  | zero => exact le_rfl
  | cons hpq _ ih =>
    simp only [amountOf, Multiset.map_cons, Multiset.sum_cons, hpq.denom] at ih ⊢
    have hle := hpq.amount
    split_ifs <;> omega

/-- **The rate limiter does not lose track.** In every run of a bridge with a rate limiter, every
packet that it is told to send belongs to one transfer: one that is pending, one that was accepted, or
one that has failed, which is undone by one packet. The packet of the transfer has the same channel
and token, and at most the amount. So of no token is more undone than was sent before, and what is
not undone covers the transfers that are pending or accepted. Every transfer from XRPL that is
executed, and nothing else, is told once as having come. -/
theorem limits_covered (hb : H.Base58Sized) (h : Started H w) (hlimit : w.store.config.rateLimitAddr.isSome = true)
    (calls : List Call) :
    Multiset.Rel Covered
        (packets RateLimitMsg.undone (emitted H w calls) + (run (step H) w calls).store.outstanding + acceptedIn H w calls)
        (packets RateLimitMsg.sent (emitted H w calls)) ∧
      (∀ D, amountOf D (packets RateLimitMsg.undone (emitted H w calls)) +
          amountOf D ((run (step H) w calls).store.outstanding + acceptedIn H w calls) ≤
        amountOf D (packets RateLimitMsg.sent (emitted H w calls))) ∧
      (packets RateLimitMsg.arrived (emitted H w calls)).map Packet.denom = executedIn H w calls := by
  suffices hboth : Multiset.Rel Covered
        (packets RateLimitMsg.undone (emitted H w calls) + (run (step H) w calls).store.outstanding + acceptedIn H w calls)
        (packets RateLimitMsg.sent (emitted H w calls)) ∧
      (packets RateLimitMsg.arrived (emitted H w calls)).map Packet.denom = executedIn H w calls by
    refine ⟨hboth.1, fun D => ?_, hboth.2⟩
    have hle := amountOf_le (D := D) hboth.1
    rw [add_assoc] at hle
    simpa [amountOf] using hle
  refine run_induction (P := fun calls (w' : World) => Multiset.Rel Covered
      (packets RateLimitMsg.undone (emitted H w calls) + w'.store.outstanding + acceptedIn H w calls)
      (packets RateLimitMsg.sent (emitted H w calls)) ∧
    (packets RateLimitMsg.arrived (emitted H w calls)).map Packet.denom = executedIn H w calls) ?_ ?_ ?_ calls
  · obtain ⟨msg, m, -, -, -, -, hs⟩ := started_eq h
    refine ⟨?_, rfl⟩
    have hnone : w.store.outstanding = 0 := by
      rw [hs]
      exact congrArg Multiset.ofList (collect_empty _)
    rw [hnone]
    exact .zero
  · rintro calls c w' r ⟨hsent, harrived⟩ hstep
    have hx := execute_of_step (run_tempUniversalSwap h calls) hstep
    have hlimit' : (run (step H) w calls).store.config.rateLimitAddr.isSome = true := by
      rw [run_rateLimitAddr h calls]
      exact hlimit
    obtain ⟨new, hnew, hsum⟩ := limits_step hb (started_validBridge h) (run_registered h calls)
      (run_preciseCosmos h calls) hlimit' hx
    have htold := told_of_execute hlimit' hx
    have haccepted : acceptedIn H w (calls ++ [c]) =
        acceptedIn H w calls + acceptedPackets H (run (step H) w calls).store c.msg := by
      simp [acceptedIn, history_snoc_ok hstep]
    have hexecuted : executedIn H w (calls ++ [c]) =
        executedIn H w calls + executedKey H (run (step H) w calls).store c.msg := by
      simp [executedIn, history_snoc_ok hstep]
    rw [emitted_snoc_ok hstep, packets_append, packets_append, packets_append, haccepted, hexecuted, Multiset.map_add, harrived,
      htold.arrived]
    refine ⟨?_, rfl⟩
    have hall := hsent.add hnew
    have hparts : packets RateLimitMsg.undone (emitted H w calls) + (run (step H) w calls).store.outstanding +
          acceptedIn H w calls + new =
        packets RateLimitMsg.undone (emitted H w calls) + packets RateLimitMsg.undone r.messages + w'.store.outstanding +
          (acceptedIn H w calls + acceptedPackets H (run (step H) w calls).store c.msg) := by
      rw [add_right_comm, add_assoc (packets _ _), hsum]
      abel
    rwa [hparts] at hall
  · intro calls c e hp hstep
    rw [emitted_snoc_error hstep, acceptedIn, executedIn, history_snoc_error hstep]
    exact hp

open Reference in
/-- A million drops are sent, of which a thousand are the fee, and the transfer is cancelled: what is
undone is the rest. -/
theorem limits_covered_cancelled :
    (let calls := [recover, vote 2 relayer₁ allocation, feeOfXRP 1000, send 4 1000000, cancel 5 1]
    Multiset.Rel Covered
        (packets RateLimitMsg.undone (emitted host limited calls) + (run (step host) limited calls).store.outstanding +
          acceptedIn host limited calls)
        (packets RateLimitMsg.sent (emitted host limited calls))) ∧
      amountOf (buildXRPLTokenKey xrpIssuer xrpCurrency) (packets RateLimitMsg.undone (emitted host limited
        [recover, vote 2 relayer₁ allocation, feeOfXRP 1000, send 4 1000000, cancel 5 1])) = 999000 ∧
      amountOf (buildXRPLTokenKey xrpIssuer xrpCurrency) (packets RateLimitMsg.sent (emitted host limited
        [recover, vote 2 relayer₁ allocation, feeOfXRP 1000, send 4 1000000, cancel 5 1])) = 1000000 := by
  have hcovered := limits_covered base58Sized_host started_limited rfl
    [recover, vote 2 relayer₁ allocation, feeOfXRP 1000, send 4 1000000, cancel 5 1]
  exact ⟨hcovered.1, by decide +kernel⟩

end XrplBridge
