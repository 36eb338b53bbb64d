import XrplBridge.Library.OrderedMap
import XrplBridge.Library.Transaction

/-!
# What the contract is written in

The values every function of the contract handles (addresses, coins, messages to other
contracts), the errors it returns, the checked arithmetic of `Uint128`, and the code it
calls that is not in the repository, taken as a parameter (`Host`).

Integers are natural numbers, and `sending_precision` an integer. Where the source's
arithmetic can leave the range of its type the model checks that range: a `checked_`
operation returns an error, any other panics, as the release profile has
`overflow-checks = true` and `panic = 'abort'`.
-/

namespace XrplBridge.Contract

/-- `cosmwasm_std::Addr`. -/
abbrev Addr := String

/-- `cosmwasm_std::Coin`. -/
structure Coin where
  /-- The bank denom. -/
  denom : String
  /-- The amount, a `Uint128`. -/
  amount : ℕ
  deriving DecidableEq, Repr

/-- How much of the denom `denom` a list of coins holds. -/
def coinsOf (denom : String) (coins : List Coin) : ℕ :=
  ((coins.filter fun c => c.denom = denom).map Coin.amount).sum

@[simp] theorem coinsOf_nil (denom : String) : coinsOf denom [] = 0 := rfl

@[simp] theorem coinsOf_cons (denom : String) (c : Coin) (cs : List Coin) :
    coinsOf denom (c :: cs) = (if c.denom = denom then c.amount else 0) + coinsOf denom cs := by
  unfold coinsOf
  by_cases h : c.denom = denom <;> simp [h]

/-! ### Errors -/

/-- The errors of `cosmwasm_std::StdError` the contract can meet. -/
inductive StdError where
  /-- `NotFound`. -/
  | notFound (kind : String)
  /-- `GenericErr`. -/
  | genericErr (msg : String)
  deriving DecidableEq, Repr

/-- The operation of an `OverflowError`. -/
inductive OverflowOperation where
  | add | sub | mul
  deriving DecidableEq, Repr

/-- The errors of `cw_utils::PaymentError` that `one_coin` returns. -/
inductive PaymentError where
  | noFunds | multipleDenoms
  deriving DecidableEq, Repr

/-- `ContractError`. -/
inductive ContractError where
  | std (e : StdError)
  | ownership (e : String)
  | overflowError (operation : OverflowOperation) (operand1 operand2 : ℕ)
  | divideByZeroError (operand : ℕ)
  | payment (e : PaymentError)
  | invalidThreshold
  | invalidXRPLAddress (address : String)
  | duplicatedRelayer
  | cosmosTokenAlreadyRegistered (denom : String)
  | xrplTokenAlreadyRegistered (issuer currency : String)
  | registrationFailure
  | unauthorizedSender
  | tokenNotRegistered
  | operationAlreadyExecuted
  | evidenceAlreadyProvided
  | invalidAmount
  | invalidUsedTicketSequenceThreshold
  | noAvailableTickets
  | lastTicketReserved
  | stillHaveAvailableTickets
  | pendingTicketUpdate
  | invalidTransactionResultEvidence
  | invalidSuccessfulTransactionResultEvidence
  | invalidFailedTransactionResultEvidence
  | invalidTicketAllocationEvidence
  | pendingOperationNotFound
  | pendingOperationAlreadyExists
  | signatureAlreadyProvided
  | invalidTicketSequenceToAllocate
  | invalidXRPLCurrency
  | tokenNotEnabled
  | xrplTokenNotInactive
  | amountSentIsZeroAfterTruncation
  | maximumBridgedAmountReached
  | invalidSendingPrecision
  | invalidDecimals
  | invalidOperationResult
  | cannotCoverBridgingFees
  | tokenStateIsImmutable
  | invalidTargetTokenState
  | invalidTargetMaxHoldingAmount
  | pendingRefundNotFound
  | notEnoughFeesToClaim (denom : String) (amount : ℕ)
  | tooManyRelayers
  | bridgeHalted
  | rotateKeysOngoing
  | operationVersionMismatch
  | prohibitedAddress
  | deliverAmountIsProhibited
  | invalidDeliverAmount
  | invalidSignatureLength
  | invalidXRPLAmount
  | invalidDenom
  | unknownReplyId (id : ℕ)
  deriving DecidableEq, Repr

/-- How a call fails; it is then reverted as a whole. -/
inductive Failure where
  /-- The contract returns an error. -/
  | err (e : ContractError)
  /-- The contract panics. -/
  | panic
  /-- A message the contract emitted fails. -/
  | submessage
  deriving DecidableEq, Repr

/-- `ContractResult<T>`, with a panic as one more way to fail. -/
abbrev ContractResult (α : Type) := Except Failure α

/-- `return Err(e)`. -/
def fail {α : Type} (e : ContractError) : ContractResult α := .error (.err e)

/-- A panic: an `unwrap` of nothing, a slice out of range, an unchecked overflow. -/
def panicked {α : Type} : ContractResult α := .error .panic

/-- `if c { return Err(e) }`. -/
def failIf (c : Prop) [Decidable c] (e : ContractError) : ContractResult Unit := if c then fail e else .ok ()

/-- `x.ok_or(e)?`. -/
def orFail {α : Type} (x : Option α) (e : ContractError) : ContractResult α :=
  match x with
  | some a => .ok a
  | none => fail e

/-- `x.unwrap()`. -/
def unwrap {α : Type} (x : Option α) : ContractResult α :=
  match x with
  | some a => .ok a
  | none => panicked

section Fallible

variable {α : Type} {e : ContractError} {a : α}

@[simp] theorem fail_ne_ok : (fail e : ContractResult α) ≠ .ok a := nofun

@[simp] theorem panicked_ne_ok : (panicked : ContractResult α) ≠ .ok a := nofun

@[simp] theorem failIf_eq_ok {c : Prop} [Decidable c] {u : Unit} : failIf c e = .ok u ↔ ¬ c := by
  unfold failIf
  split_ifs with h <;> simp [h]

@[simp] theorem orFail_eq_ok {x : Option α} : orFail x e = .ok a ↔ x = some a := by
  cases x <;> simp [orFail]

theorem orFail_some_bind {β : Type} (a : α) (f : α → ContractResult β) : (orFail (some a) e >>= f) = f a := rfl

@[simp] theorem unwrap_eq_ok {x : Option α} : unwrap x = .ok a ↔ x = some a := by
  cases x <;> simp [unwrap]

end Fallible

/-! ### `Uint128` -/

/-- The first number a `Uint128` cannot hold. -/
def u128Bound : ℕ := 2 ^ 128

/-- The first number a `u64` cannot hold. -/
def u64Bound : ℕ := 2 ^ 64

/-- The first number a `u32` cannot hold. -/
def u32Bound : ℕ := 2 ^ 32

/-- `Uint128::checked_add`. -/
def checkedAdd (a b : ℕ) : ContractResult ℕ :=
  if a + b < u128Bound then .ok (a + b) else fail (.overflowError .add a b)

/-- `Uint128::checked_sub`. -/
def checkedSub (a b : ℕ) : ContractResult ℕ :=
  if b ≤ a then .ok (a - b) else fail (.overflowError .sub a b)

/-- `Uint128::checked_mul`. -/
def checkedMul (a b : ℕ) : ContractResult ℕ :=
  if a * b < u128Bound then .ok (a * b) else fail (.overflowError .mul a b)

/-- `Uint128::checked_div`. -/
def checkedDiv (a b : ℕ) : ContractResult ℕ := if b = 0 then fail (.divideByZeroError a) else .ok (a / b)

/-- `10u128.pow(e)`. -/
def pow10 (e : ℕ) : ContractResult ℕ := if 10 ^ e < u128Bound then .ok (10 ^ e) else panicked

section Checked

variable {a b c : ℕ}

theorem checkedAdd_eq_ok : checkedAdd a b = .ok c ↔ a + b < u128Bound ∧ a + b = c := by
  unfold checkedAdd
  split_ifs with h <;> simp [h]

theorem checkedSub_eq_ok : checkedSub a b = .ok c ↔ b ≤ a ∧ a - b = c := by
  unfold checkedSub
  split_ifs with h <;> simp [h]

theorem checkedMul_eq_ok : checkedMul a b = .ok c ↔ a * b < u128Bound ∧ a * b = c := by
  unfold checkedMul
  split_ifs with h <;> simp [h]

theorem checkedDiv_eq_ok : checkedDiv a b = .ok c ↔ b ≠ 0 ∧ a / b = c := by
  unfold checkedDiv
  split_ifs with h <;> simp [h]

theorem pow10_eq_ok : pow10 a = .ok c ↔ 10 ^ a < u128Bound ∧ 10 ^ a = c := by
  unfold pow10
  split_ifs with h <;> simp [h]

end Checked

/-! ### The code that is not in the repository -/

/-- `cosmwasm_std::BlockInfo`, without the chain id. -/
structure BlockInfo where
  /-- The height of the block. -/
  height : ℕ
  /-- The time of the block, in nanoseconds. -/
  time : ℕ
  deriving DecidableEq, Repr

/-- `env.block.time.seconds()`. -/
def BlockInfo.seconds (b : BlockInfo) : ℕ := b.time / 10 ^ 9

/-- `cw_utils::Expiration`. -/
inductive Expiration where
  | atHeight (height : ℕ)
  | atTime (time : ℕ)
  | never
  deriving DecidableEq, Repr

/-- `cw_ownable::Ownership`. -/
structure Ownership where
  /-- The owner; none once ownership has been renounced. -/
  owner : Option Addr
  /-- Who has been proposed as the next owner. -/
  pendingOwner : Option Addr
  /-- When the proposal expires. -/
  pendingExpiry : Option Expiration
  deriving DecidableEq, Repr

/-- `cw_ownable::Action`. -/
inductive Action where
  | transferOwnership (newOwner : String) (expiry : Option Expiration)
  | acceptOwnership
  | renounceOwnership
  deriving DecidableEq, Repr

/-- What the contract calls and the repository does not contain. -/
structure Host where
  /-- `env.contract.address`. -/
  contract : Addr
  /-- Whether `deps.api.addr_validate` accepts an address. -/
  addrValidate : String → Bool
  /-- `bs58::decode` with the Ripple alphabet. -/
  base58Decode : String → Option (List UInt8)
  /-- `Sha256::digest`. -/
  sha256 : List UInt8 → List UInt8
  /-- What the JSON serializer puts between the quotes of a string. -/
  jsonEscape : String → String
  /-- `char::to_uppercase` outside ASCII, from the Unicode tables. -/
  unicodeUppercase : Char → List Char
  /-- `cw_ownable::update_ownership`. -/
  updateOwnership : Ownership → BlockInfo → Addr → Action → Except String Ownership
  /-- `Ownership::into_attributes`. -/
  ownershipAttributes : Ownership → List (String × String)

variable (H : Host)

/-- `deps.api.addr_validate(address)?`. -/
def addrValidate (address : String) : ContractResult Unit :=
  failIf (H.addrValidate address = false) (.std (.genericErr "Invalid input"))

/-- `str::to_uppercase`: each character by itself, an ASCII one by its upper case. -/
def toUppercase (s : String) : String :=
  String.ofList (s.toList.flatMap fun c => if c.val < 128 then [c.toUpper] else H.unicodeUppercase c)

/-- `String::into_bytes`. -/
def intoBytes (s : String) : List UInt8 := s.toByteArray.data.toList

/-- `HexBinary::to_hex`, in lower case. -/
def toHex (bytes : List UInt8) : String :=
  String.ofList (bytes.flatMap fun b => [Nat.digitChar (b.toNat / 16), Nat.digitChar (b.toNat % 16)])

/-- `{:02X}`, of a byte. -/
def upperHex (b : UInt8) : String :=
  String.ofList [(Nat.digitChar (b.toNat / 16)).toUpper, (Nat.digitChar (b.toNat % 16)).toUpper]

/-- `hash_bytes`. -/
def hashBytes (bytes : List UInt8) : String := toHex (H.sha256 bytes)

/-- `&s[0..10]`. -/
def firstTen (s : String) : ContractResult String :=
  if 10 ≤ s.toList.length then .ok (String.ofList (s.toList.take 10)) else panicked

/-- `cw_storage_plus::not_found_object_info`: what a `load` that finds nothing says, with the bytes of the key. -/
def notFoundObjectInfo (typeName : String) (key : List UInt8) : String :=
  "type: " ++ typeName ++ "; key: [" ++ String.intercalate ", " (key.map upperHex) ++ "]"

/-- The bytes of a key of a `Map`, behind the map's namespace of one character and its length. -/
def mapKey (topKey key : String) : List UInt8 := [0, 1] ++ intoBytes topKey ++ intoBytes key

example : notFoundObjectInfo "cw_xrpl::state::CosmosToken" (mapKey "4" "orai") =
    "type: cw_xrpl::state::CosmosToken; key: [00, 01, 34, 6F, 72, 61, 69]" := by decide +kernel

/-- `cw_utils::one_coin`: exactly one coin, of an amount that is not zero. -/
def oneCoin (funds : List Coin) : ContractResult Coin :=
  match funds with
  | [] => fail (.payment .noFunds)
  | [c] => if c.amount = 0 then fail (.payment .noFunds) else .ok c
  | _ => fail (.payment .multipleDenoms)

theorem oneCoin_eq_ok {funds : List Coin} {c : Coin} (h : oneCoin funds = .ok c) :
    funds = [c] ∧ c.amount ≠ 0 := by
  unfold oneCoin at h
  split at h
  · simp at h
  · split_ifs at h with hz
    · simp at h
    · cases h; exact ⟨rfl, hz⟩
  · simp at h

/-! ### Messages and responses -/

/-- The messages of the token factory that the contract sends. -/
inductive TokenFactoryMsg where
  | createDenom (subdenom : String)
  | mintTokens (denom : String) (amount : ℕ) (mintToAddress : Addr)
  | burnTokens (denom : String) (amount : ℕ) (burnFromAddress : Addr)
  deriving DecidableEq, Repr

/-- The rate limiter's `Packet`. -/
structure Packet where
  channel : String
  denom : String
  amount : ℕ
  deriving DecidableEq, Repr

/-- The rate limiter's `QuotaMsg`. -/
structure QuotaMsg where
  name : String
  duration : ℕ
  maxSend : ℕ
  maxReceive : ℕ
  deriving DecidableEq, Repr

/-- The messages of the rate limiter that the contract sends. -/
inductive RateLimitMsg where
  | sendPacket (packet : Packet)
  | recvPacket (packet : Packet)
  | undoSend (packet : Packet)
  | addPath (channelId denom : String) (quotas : List QuotaMsg)
  | removePath (channelId denom : String)
  | resetPathQuota (channelId denom quotaId : String)
  deriving DecidableEq, Repr

/-- A message to another contract. -/
inductive WasmMsg where
  | tokenFactory (m : TokenFactoryMsg)
  | rateLimit (m : RateLimitMsg)
  /-- The entry point's `UniversalSwap`. -/
  | universalSwap (memo : String)
  deriving DecidableEq, Repr

/-- `CosmosMsg`: what `wasm_execute` builds, and `BankMsg::Send`. -/
inductive CosmosMsg where
  | wasmExecute (contractAddr : Addr) (msg : WasmMsg) (funds : List Coin)
  | bankSend (toAddress : Addr) (amount : List Coin)
  deriving DecidableEq, Repr

/-- `SubMsg`: a message, and the id under which the contract is called back if it fails
(`SubMsg::reply_on_error`), none for a message that is not to be replied to. -/
structure SubMsg where
  /-- The message. -/
  msg : CosmosMsg
  /-- The id to reply to on an error. -/
  replyOnError : Option ℕ
  deriving DecidableEq, Repr

/-- `Response`. -/
structure Response where
  /-- The messages to dispatch, in order. -/
  messages : List SubMsg
  /-- The attributes, in order. -/
  attributes : List (String × String)
  deriving DecidableEq, Repr

namespace Response

/-- `Response::new()`. -/
def new : Response := ⟨[], []⟩

/-- `add_attribute`. -/
def addAttribute (r : Response) (key value : String) : Response :=
  { r with attributes := r.attributes ++ [(key, value)] }

/-- `add_attributes`. -/
def addAttributes (r : Response) (as : List (String × String)) : Response :=
  { r with attributes := r.attributes ++ as }

/-- `add_messages`. -/
def addMessages (r : Response) (msgs : List CosmosMsg) : Response :=
  { r with messages := r.messages ++ msgs.map fun m => ⟨m, none⟩ }

/-- `add_message`. -/
def addMessage (r : Response) (msg : CosmosMsg) : Response := r.addMessages [msg]

/-- `add_submessages`. -/
def addSubmessages (r : Response) (msgs : List SubMsg) : Response :=
  { r with messages := r.messages ++ msgs }

variable (r : Response)

@[simp] theorem messages_new : new.messages = [] := rfl

@[simp] theorem messages_addAttribute (k v : String) : (r.addAttribute k v).messages = r.messages := rfl

@[simp] theorem messages_addAttributes (as : List (String × String)) :
    (r.addAttributes as).messages = r.messages := rfl

@[simp] theorem messages_addMessages (msgs : List CosmosMsg) :
    (r.addMessages msgs).messages = r.messages ++ msgs.map fun m => ⟨m, none⟩ := rfl

@[simp] theorem messages_addMessage (msg : CosmosMsg) :
    (r.addMessage msg).messages = r.messages ++ [⟨msg, none⟩] := rfl

@[simp] theorem messages_addSubmessages (msgs : List SubMsg) :
    (r.addSubmessages msgs).messages = r.messages ++ msgs := rfl

end Response

end XrplBridge.Contract
