import XrplBridge.Contract.State

/-!
# Validation

The checks the contract makes on addresses, currencies, denoms, precisions and relayer
sets (`address.rs`, `token.rs`, `relayer.rs` and the helpers of `contract.rs`), with
what a passed check gives: a valid currency is three or forty bytes long and is not
`XRP`, a valid relayer set has no duplicates and a threshold it can reach.
-/

namespace XrplBridge.Contract

open Library Std

/-! ### Constants -/

def minSendingPrecision : ℤ := -15
def maxSendingPrecision : ℤ := 15
def maxCosmosTokenDecimals : ℕ := 100
def maxTickets : ℕ := 250
def maxRelayers : ℕ := 32
def xrpSymbol : String := "XRP"
def xrpSubunit : String := "factory"
def xrpDecimals : ℕ := 6
def xrpCurrency : String := "XRP"
def xrpIssuer : String := "rrrrrrrrrrrrrrrrrrrrrhoLvTp"
def xrpDefaultSendingPrecision : ℤ := 6
def xrpDefaultMaxHoldingAmount : ℕ := 10 ^ 16
def xrpDefaultFee : ℕ := 0
def cosmosCurrencyPrefix : String := "cosmos"
def xrplDenomPrefix : String := "xrpl"
def xrplTokensDecimals : ℕ := 15
def xrplMaxTruncatedAmountLength : ℕ := 16
def minDenomLength : ℕ := 3
def maxDenomLength : ℕ := 128
def maxSignatureLength : ℕ := 200

def allowedCurrencySymbols : List Char :=
  ['?', '!', '@', '#', '$', '%', '^', '&', '*', '<', '>', '(', ')', '{', '}', '[', ']', '|']

def denomSpecialCharacters : List Char := ['/', ':', '.', '_', '-']

def initialProhibitedXRPLAddresses : List String :=
  ["rrrrrrrrrrrrrrrrrrrrrhoLvTp", "rrrrrrrrrrrrrrrrrrrrBZbvji", "rHb9CJAWyB4rj91VRWn96DkukG4bwdtyTh",
    "rrrrrrrrrrrrrrrrrNAMEtxvNvQ", "rrrrrrrrrrrrrrrrrrrn5RM1rHd"]

def channel : String := "channel-0"
def universalSwapErrorId : ℕ := 1

variable (H : Host)

/-! ### Addresses on XRPL -/

/-- `checksum`. -/
def checksum (data : List UInt8) : List UInt8 := H.sha256 (H.sha256 data)

/-- `validate_xrpl_address_format`. -/
def validateXRPLAddressFormat (address : String) : ContractResult Unit := do
  let data ← orFail (H.base58Decode address) (.invalidXRPLAddress address)
  failIf (data.length ≠ 25 ∨ data.head? ≠ some 0) (.invalidXRPLAddress address)
  failIf ((checksum H (data.take 21)).take 4 ≠ data.drop 21) (.invalidXRPLAddress address)

/-- `validate_xrpl_address_is_not_prohibited`. -/
def validateXRPLAddressIsNotProhibited (prohibited : ExtTreeMap String Unit) (address : String) :
    ContractResult Unit :=
  failIf (prohibited.contains address) .prohibitedAddress

/-- `validate_xrpl_address`. -/
def validateXRPLAddress (prohibited : ExtTreeMap String Unit) (address : String) : ContractResult Unit := do
  validateXRPLAddressFormat H address
  validateXRPLAddressIsNotProhibited prohibited address

/-- An address of a valid format decodes to 25 bytes. -/
theorem base58Decode_of_validFormat {address : String} {u : Unit}
    (h : validateXRPLAddressFormat H address = .ok u) :
    ∃ data, H.base58Decode address = some data ∧ data.length = 25 := by
  simp only [validateXRPLAddressFormat, bind_eq_ok, orFail_eq_ok, failIf_eq_ok, not_or, not_not] at h
  obtain ⟨data, hd, _, ⟨hl, -⟩, -⟩ := h
  exact ⟨data, hd, hl⟩

theorem validateXRPLAddress_eq_ok {prohibited : ExtTreeMap String Unit} {address : String} {u : Unit}
    (h : validateXRPLAddress H prohibited address = .ok u) :
    validateXRPLAddressFormat H address = .ok () ∧ prohibited.contains address = false := by
  simp only [validateXRPLAddress, bind_eq_ok, validateXRPLAddressIsNotProhibited, failIf_eq_ok,
    Bool.not_eq_true] at h
  obtain ⟨_, h₁, h₂⟩ := h
  exact ⟨h₁, h₂⟩

/-! ### Tokens -/

/-- `full_denom`. -/
def fullDenom (addr : Addr) (subdenom : String) : String := xrpSubunit ++ "/" ++ addr ++ "/" ++ subdenom

/-- `build_xrpl_token_key`. -/
def buildXRPLTokenKey (issuer currency : String) : String := issuer ++ currency

/-- `is_token_xrp`. -/
def isTokenXRP (issuer currency : String) : Bool := issuer = xrpIssuer ∧ currency = xrpCurrency

/-- `set_token_state`. -/
def setTokenState (state : TokenState) (target : Option TokenState) : ContractResult TokenState :=
  match target with
  | none => .ok state
  | some target => do
    failIf (state = .inactive ∨ state = .processing) .tokenStateIsImmutable
    failIf (target = .inactive ∨ target = .processing) .invalidTargetTokenState
    pure target

/-- `d as i32`, of a `u32`. -/
def asI32 (d : ℕ) : ℤ := (d : ℤ).bmod (2 ^ 32)

/-- `validate_cosmos_token_decimals`. -/
def validateCosmosTokenDecimals (decimals : ℕ) : ContractResult Unit :=
  failIf (decimals > maxCosmosTokenDecimals) .invalidDecimals

/-- `validate_sending_precision`. -/
def validateSendingPrecision (sendingPrecision : ℤ) (decimals : ℕ) : ContractResult Unit := do
  failIf (¬ (minSendingPrecision ≤ sendingPrecision ∧ sendingPrecision ≤ maxSendingPrecision))
    .invalidSendingPrecision
  failIf (sendingPrecision > asI32 decimals) .invalidSendingPrecision

/-- `set_token_sending_precision`. -/
def setTokenSendingPrecision (sendingPrecision : ℤ) (target : Option ℤ) (decimals : ℕ) : ContractResult ℤ :=
  match target with
  | none => .ok sendingPrecision
  | some target => do
    validateSendingPrecision target decimals
    pure target

/-- `set_token_bridging_fee`. -/
def setTokenBridgingFee (bridgingFee : ℕ) (target : Option ℕ) : ℕ := target.getD bridgingFee

/-- `set_token_max_holding_amount`. -/
def setTokenMaxHoldingAmount (currentBridgedAmount maxHoldingAmount : ℕ) (target : Option ℕ) :
    ContractResult ℕ :=
  match target with
  | none => .ok maxHoldingAmount
  | some target => do
    failIf (currentBridgedAmount > target) .invalidTargetMaxHoldingAmount
    pure target

/-- `char::is_ascii_alphanumeric`. -/
def isAsciiAlphanumeric (c : Char) : Bool := c.isAlphanum

/-- `validate_xrpl_currency`. -/
def validateXRPLCurrency (currency : String) : ContractResult Unit :=
  match currency.utf8ByteSize with
  | 3 => do
    failIf (currency = "XRP") .invalidXRPLCurrency
    failIf (¬ currency.toList.all fun c => isAsciiAlphanumeric c || allowedCurrencySymbols.contains c)
      .invalidXRPLCurrency
  | 40 => do
    failIf (['0', '0'].isPrefixOf currency.toList) .invalidXRPLCurrency
    -- an ASCII hexadecimal digit that is numeric or upper case: `0` to `9` and `A` to `F`
    failIf (¬ currency.toList.all fun c => c.isDigit || ('A' ≤ c && c ≤ 'F')) .invalidXRPLCurrency
  | _ => fail .invalidXRPLCurrency

/-- A valid currency has three or forty bytes, and is not `XRP`. -/
theorem size_of_validCurrency {currency : String} {u : Unit} (h : validateXRPLCurrency currency = .ok u) :
    (currency.utf8ByteSize = 3 ∨ currency.utf8ByteSize = 40) ∧ currency ≠ xrpCurrency := by
  unfold validateXRPLCurrency at h
  split at h
  · rename_i h3
    simp only [bind_eq_ok, failIf_eq_ok] at h
    exact ⟨.inl h3, h.choose_spec.1⟩
  · rename_i h40
    refine ⟨.inr h40, ?_⟩
    rintro rfl
    rw [show xrpCurrency.utf8ByteSize = 3 by decide] at h40
    cases h40
  · simp at h

/-- `validate_cosmos_denom`. -/
def validateCosmosDenom (denom : String) : ContractResult Unit := do
  failIf (denom.utf8ByteSize < minDenomLength ∨ denom.utf8ByteSize > maxDenomLength) .invalidDenom
  failIf (denom.toList.head?.any fun c => !c.isAlpha) .invalidDenom
  failIf (¬ (denom.toList.drop 1).all fun c => isAsciiAlphanumeric c || denomSpecialCharacters.contains c)
    .invalidDenom

/-- `convert_currency_to_xrpl_hexadecimal`: the hexadecimal digits, filled with zeros
on the right up to forty, in upper case. -/
def convertCurrencyToXRPLHexadecimal (currency : String) : String :=
  let hex := toHex (intoBytes currency)
  toUppercase H (hex ++ String.ofList (List.replicate (40 - hex.toList.length) '0'))

/-! ### Relayer sets -/

/-- The loop of `validate_relayers`, with the three sets of what it has seen. -/
def validateRelayersLoop (prohibited : ExtTreeMap String Unit) :
    List Relayer → List String → List String → List Addr → ContractResult Unit
  | [], _, _, _ => .ok ()
  | r :: rs, xrplAddresses, xrplPubkeys, cosmosAddresses => do
    addrValidate H r.cosmosAddress
    validateXRPLAddress H prohibited r.xrplAddress
    failIf (r.xrplAddress ∈ xrplAddresses) .duplicatedRelayer
    failIf (r.xrplPubKey ∈ xrplPubkeys) .duplicatedRelayer
    failIf (r.cosmosAddress ∈ cosmosAddresses) .duplicatedRelayer
    validateRelayersLoop prohibited rs (r.xrplAddress :: xrplAddresses) (r.xrplPubKey :: xrplPubkeys)
      (r.cosmosAddress :: cosmosAddresses)

/-- `validate_relayers`. -/
def validateRelayers (prohibited : ExtTreeMap String Unit) (relayers : List Relayer)
    (evidenceThreshold : ℕ) : ContractResult Unit := do
  failIf (evidenceThreshold = 0 ∨ evidenceThreshold > relayers.length) .invalidThreshold
  failIf (relayers.length > maxRelayers) .tooManyRelayers
  validateRelayersLoop H prohibited relayers [] [] []

/-- A set of relayers with a threshold it can reach, and no duplicates. -/
structure ValidRelayers (relayers : List Relayer) (evidenceThreshold : ℕ) : Prop where
  /-- The threshold is not zero. -/
  pos : 1 ≤ evidenceThreshold
  /-- The relayers can reach it. -/
  le : evidenceThreshold ≤ relayers.length
  /-- There are not too many. -/
  max : relayers.length ≤ maxRelayers
  /-- The Cosmos addresses are distinct. -/
  cosmos : (relayers.map Relayer.cosmosAddress).Nodup
  /-- The XRPL addresses are distinct. -/
  xrpl : (relayers.map Relayer.xrplAddress).Nodup
  /-- The public keys are distinct. -/
  pubKey : (relayers.map Relayer.xrplPubKey).Nodup

theorem validateRelayersLoop_eq_ok {prohibited : ExtTreeMap String Unit} {rs : List Relayer}
    {xs ks : List String} {cs : List Addr} {u : Unit}
    (h : validateRelayersLoop H prohibited rs xs ks cs = .ok u) :
    ((rs.map Relayer.xrplAddress).Nodup ∧ ∀ r ∈ rs, r.xrplAddress ∉ xs) ∧
      ((rs.map Relayer.xrplPubKey).Nodup ∧ ∀ r ∈ rs, r.xrplPubKey ∉ ks) ∧
        (rs.map Relayer.cosmosAddress).Nodup ∧ ∀ r ∈ rs, r.cosmosAddress ∉ cs := by
  induction rs generalizing xs ks cs with
  | nil => simp
  | cons r rs ih =>
    simp only [validateRelayersLoop, bind_eq_ok, failIf_eq_ok] at h
    obtain ⟨_, -, _, -, _, hx, _, hk, _, hc, h⟩ := h
    obtain ⟨⟨hx₁, hx₂⟩, ⟨hk₁, hk₂⟩, hc₁, hc₂⟩ := ih h
    simp only [List.mem_cons, not_or] at hx₂ hk₂ hc₂
    simp only [List.map_cons, List.nodup_cons, List.mem_map, not_exists, not_and, List.mem_cons,
      forall_eq_or_imp]
    exact ⟨⟨⟨fun r' hr' => (hx₂ r' hr').1, hx₁⟩, hx, fun r' hr' => (hx₂ r' hr').2⟩,
      ⟨⟨fun r' hr' => (hk₂ r' hr').1, hk₁⟩, hk, fun r' hr' => (hk₂ r' hr').2⟩,
      ⟨fun r' hr' => (hc₂ r' hr').1, hc₁⟩, hc, fun r' hr' => (hc₂ r' hr').2⟩

theorem validRelayers_of_ok {prohibited : ExtTreeMap String Unit} {relayers : List Relayer}
    {evidenceThreshold : ℕ} {u : Unit}
    (h : validateRelayers H prohibited relayers evidenceThreshold = .ok u) :
    ValidRelayers relayers evidenceThreshold := by
  simp only [validateRelayers, bind_eq_ok, failIf_eq_ok, not_or, gt_iff_lt, Nat.not_lt] at h
  obtain ⟨_, ⟨h0, hle⟩, _, hmax, h⟩ := h
  obtain ⟨⟨hx, -⟩, ⟨hk, -⟩, hc, -⟩ := validateRelayersLoop_eq_ok H h
  exact ⟨Nat.one_le_iff_ne_zero.mpr h0, hle, hmax, hc, hx, hk⟩

end XrplBridge.Contract
