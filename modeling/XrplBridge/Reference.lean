import XrplBridge.Chain

/-!
# A host to run the bridge on

The contract takes the code it calls as a parameter (`Host`). This is a host to evaluate
it with: SHA-256 as FIPS 180-4 gives it, base 58 over the Ripple alphabet, and JSON
strings, and the transfer of the ownership as cw_ownable does it; of the host's other parts it
does what the bridge needs. `launch` is a bridge on it right after `instantiate`.
-/

namespace XrplBridge.Reference

open Library Contract

/-! ### SHA-256 -/

/-- `ROTR`, of 32 bits. -/
def rotr (x n : ℕ) : ℕ := x >>> n ||| (x <<< (32 - n)) % 2 ^ 32

def roundConstants : List ℕ :=
  [0x428a2f98, 0x71374491, 0xb5c0fbcf, 0xe9b5dba5, 0x3956c25b, 0x59f111f1, 0x923f82a4, 0xab1c5ed5,
    0xd807aa98, 0x12835b01, 0x243185be, 0x550c7dc3, 0x72be5d74, 0x80deb1fe, 0x9bdc06a7, 0xc19bf174,
    0xe49b69c1, 0xefbe4786, 0x0fc19dc6, 0x240ca1cc, 0x2de92c6f, 0x4a7484aa, 0x5cb0a9dc, 0x76f988da,
    0x983e5152, 0xa831c66d, 0xb00327c8, 0xbf597fc7, 0xc6e00bf3, 0xd5a79147, 0x06ca6351, 0x14292967,
    0x27b70a85, 0x2e1b2138, 0x4d2c6dfc, 0x53380d13, 0x650a7354, 0x766a0abb, 0x81c2c92e, 0x92722c85,
    0xa2bfe8a1, 0xa81a664b, 0xc24b8b70, 0xc76c51a3, 0xd192e819, 0xd6990624, 0xf40e3585, 0x106aa070,
    0x19a4c116, 0x1e376c08, 0x2748774c, 0x34b0bcb5, 0x391c0cb3, 0x4ed8aa4a, 0x5b9cca4f, 0x682e6ff3,
    0x748f82ee, 0x78a5636f, 0x84c87814, 0x8cc70208, 0x90befffa, 0xa4506ceb, 0xbef9a3f7, 0xc67178f2]

def initialHash : List ℕ :=
  [0x6a09e667, 0xbb67ae85, 0x3c6ef372, 0xa54ff53a, 0x510e527f, 0x9b05688c, 0x1f83d9ab, 0x5be0cd19]

/-- The words of a block, from its bytes. -/
def words : List ℕ → List ℕ
  | a :: b :: c :: d :: bs => (((a * 256 + b) * 256 + c) * 256 + d) :: words bs
  | _ => []

/-- The message schedule, `n` words further; the last word is the first of the list. -/
def schedule : ℕ → List ℕ → List ℕ
  | 0, ws => ws
  | n + 1, ws =>
    let w₂ := ws.getD 1 0
    let w₁₅ := ws.getD 14 0
    let σ₁ := rotr w₂ 17 ^^^ rotr w₂ 19 ^^^ w₂ >>> 10
    let σ₀ := rotr w₁₅ 7 ^^^ rotr w₁₅ 18 ^^^ w₁₅ >>> 3
    schedule n ((σ₁ + ws.getD 6 0 + σ₀ + ws.getD 15 0) % 2 ^ 32 :: ws)

/-- One round, on the eight working variables. -/
def round (v : List ℕ) (kw : ℕ × ℕ) : List ℕ :=
  match v with
  | [a, b, c, d, e, f, g, h] =>
    let ch := e &&& f ^^^ (2 ^ 32 - 1 - e) &&& g
    let maj := a &&& b ^^^ a &&& c ^^^ b &&& c
    let t₁ := h + (rotr e 6 ^^^ rotr e 11 ^^^ rotr e 25) + ch + kw.1 + kw.2
    let t₂ := (rotr a 2 ^^^ rotr a 13 ^^^ rotr a 22) + maj
    [(t₁ + t₂) % 2 ^ 32, a, b, c, (d + t₁) % 2 ^ 32, e, f, g]
  | _ => v

/-- The hash after one more block. -/
def compress (hash block : List ℕ) : List ℕ :=
  let ws := (schedule 48 (words block).reverse).reverse
  List.zipWith (fun a b => (a + b) % 2 ^ 32) hash ((roundConstants.zip ws).foldl round hash)

/-- The hash after `n` more blocks. -/
def compressAll : ℕ → List ℕ → List ℕ → List ℕ
  | 0, hash, _ => hash
  | n + 1, hash, bytes => compressAll n (compress hash (bytes.take 64)) (bytes.drop 64)

/-- The message, padded to a whole number of blocks. -/
def padded (bytes : List ℕ) : List ℕ :=
  let n := bytes.length
  bytes ++ 128 :: List.replicate ((119 - n % 64) % 64) 0 ++
    (List.range 8).map fun i => (8 * n) >>> (8 * (7 - i)) % 256

/-- SHA-256. -/
def sha256 (bytes : List UInt8) : List UInt8 :=
  let message := padded (bytes.map UInt8.toNat)
  (compressAll (message.length / 64) initialHash message).flatMap fun w =>
    [UInt8.ofNat (w >>> 24), UInt8.ofNat (w >>> 16), UInt8.ofNat (w >>> 8), UInt8.ofNat w]

example : toHex (sha256 (intoBytes "abc")) =
    "ba7816bf8f01cfea414140de5dae2223b00361a396177a9cb410ff61f20015ad" := by decide +kernel

/-! ### Base 58 -/

/-- The character codes of the Ripple alphabet. -/
def rippleAlphabet : List ℕ :=
  "rpshnaf39wBUDNEGHJKLM4PQRST7VWXYZ2bcdeCg65jkm8oFqi1tuvAxyz".toList.map Char.toNat

/-- The number a list of digits denotes, and none if one is not in the alphabet. -/
def fromDigits (cs : List Char) : Option ℕ :=
  cs.foldlM (fun n c => (rippleAlphabet.idxOf? c.toNat).map (n * 58 + ·)) 0

/-- The bytes of a number, at most `fuel` of them, before the bytes `acc`. -/
def toBytes : ℕ → ℕ → List UInt8 → List UInt8
  | 0, _, acc => acc
  | fuel + 1, n, acc => if n = 0 then acc else toBytes fuel (n / 256) (UInt8.ofNat n :: acc)

/-- `bs58::decode`: each leading zero is a byte of its own. -/
def base58Decode (s : String) : Option (List UInt8) := do
  let zeros := s.toList.takeWhile (· = 'r')
  let digits := s.toList.dropWhile (· = 'r')
  let n ← fromDigits digits
  pure (List.replicate zeros.length 0 ++ toBytes digits.length n [])

/-- Characters of the alphabet are ASCII. -/
theorem utf8Size_of_digit {c : Char} {i : ℕ} (h : rippleAlphabet.idxOf? c.toNat = some i) : c.utf8Size = 1 := by
  have hmem : c.toNat ∈ rippleAlphabet := by
    by_contra hno
    rw [List.idxOf?_eq_none_iff.mpr hno] at h
    cases h
  have hascii : ∀ n ∈ rippleAlphabet, n ≤ 127 := by decide
  rw [Char.utf8Size_eq_one_iff]
  exact hascii _ hmem

theorem utf8ByteSize_ascii {cs : List Char} (h : ∀ c ∈ cs, c.utf8Size = 1) :
    (String.ofList cs).utf8ByteSize = cs.length := by
  induction cs with
  | nil => rfl
  | cons c cs ih =>
    rw [String.ofList_cons, String.utf8ByteSize_append, String.utf8ByteSize_singleton, h c List.mem_cons_self,
      ih fun d hd => h d (List.mem_cons_of_mem _ hd), List.length_cons, Nat.add_comm]

/-- The digits, from the number that those before denote. -/
theorem foldlM_digits {cs : List Char} {n m : ℕ}
    (h : cs.foldlM (fun n c => (rippleAlphabet.idxOf? c.toNat).map (n * 58 + ·)) n = some m) :
    (∀ c ∈ cs, c.utf8Size = 1) ∧ n * 58 ^ cs.length ≤ m ∧ m < (n + 1) * 58 ^ cs.length := by
  induction cs generalizing n with
  | nil =>
    cases h
    simp
  | cons c cs ih =>
    obtain ⟨x, hx, h⟩ := Option.bind_eq_some_iff.mp h
    obtain ⟨i, hi, rfl⟩ := Option.map_eq_some_iff.mp hx
    obtain ⟨hsize, hlo, hhi⟩ := ih h
    have hlt : i < 58 := (List.idxOf?_eq_some_iff.mp hi).1
    refine ⟨List.forall_mem_cons.mpr ⟨utf8Size_of_digit hi, hsize⟩, ?_, ?_⟩
    · refine le_trans ?_ hlo
      rw [List.length_cons, Nat.pow_succ', ← Nat.mul_assoc]
      exact Nat.mul_le_mul_right _ (Nat.le_add_right _ _)
    · apply lt_of_lt_of_le hhi
      rw [List.length_cons, Nat.pow_succ', ← Nat.mul_assoc]
      exact Nat.mul_le_mul_right _ (by omega)

/-- As many bytes as the number has, if the fuel allows. -/
theorem length_toBytes {fuel n : ℕ} {acc : List UInt8} (h : n < 256 ^ fuel) :
    (toBytes fuel n acc).length ≤ fuel + acc.length ∧ n < 256 ^ ((toBytes fuel n acc).length - acc.length) ∧
      acc.length ≤ (toBytes fuel n acc).length := by
  induction fuel generalizing n acc with
  | zero => simpa [toBytes] using h
  | succ fuel ih =>
    rw [toBytes]
    split_ifs with hn
    · subst hn
      simp
    · have hdiv : n / 256 < 256 ^ fuel := by
        rw [Nat.pow_succ] at h
        exact Nat.div_lt_of_lt_mul (by rwa [Nat.mul_comm])
      obtain ⟨hle, hlt, hge⟩ := @ih (n / 256) (UInt8.ofNat n :: acc) hdiv
      rw [List.length_cons] at hle hlt hge
      refine ⟨by omega, ?_, by omega⟩
      have hsucc : (toBytes fuel (n / 256) (UInt8.ofNat n :: acc)).length - acc.length =
          (toBytes fuel (n / 256) (UInt8.ofNat n :: acc)).length - (acc.length + 1) + 1 := by omega
      rw [hsucc, Nat.pow_succ, Nat.mul_comm]
      omega

/-- The first digit is not zero. -/
theorem le_fromDigits {c : Char} {cs : List Char} {n : ℕ} (hc : c ≠ 'r') (h : fromDigits (c :: cs) = some n) :
    58 ^ cs.length ≤ n := by
  obtain ⟨x, hx, h⟩ := Option.bind_eq_some_iff.mp h
  obtain ⟨i, hi, rfl⟩ := Option.map_eq_some_iff.mp hx
  have hi₀ : i ≠ 0 := by
    rintro rfl
    obtain ⟨_, hfirst, -⟩ := List.idxOf?_eq_some_iff.mp hi
    refine hc (Char.ext (UInt32.toNat_inj.mp ?_))
    rw [show c.val.toNat = c.toNat from rfl, ← hfirst]
    rfl
  have hle := (foldlM_digits h).2.1
  exact (Nat.le_mul_of_pos_left _ (by omega)).trans hle

/-- What decodes has characters of one byte each. -/
theorem utf8ByteSize_of_base58Decode {s : String} {data : List UInt8} (h : base58Decode s = some data) :
    s.utf8ByteSize = s.toList.length := by
  obtain ⟨n, hn, -⟩ := Option.bind_eq_some_iff.mp h
  conv_lhs => rw [← String.ofList_toList (s := s)]
  apply utf8ByteSize_ascii
  intro c hc
  rw [← List.takeWhile_append_dropWhile (p := (· = 'r')) (l := s.toList), List.mem_append] at hc
  rcases hc with hc | hc
  · have hr : c = 'r' := by simpa using List.mem_takeWhile_imp hc
    rw [hr]
    rfl
  · exact (foldlM_digits hn).1 c hc

/-- What decodes to 25 bytes has 25 to 35 characters. -/
theorem size_of_base58Decode {s : String} {data : List UInt8} (h : base58Decode s = some data)
    (hlen : data.length = 25) : 25 ≤ s.utf8ByteSize ∧ s.utf8ByteSize ≤ 35 := by
  have hsize : s.utf8ByteSize = (s.toList.takeWhile (· = 'r')).length + (s.toList.dropWhile (· = 'r')).length := by
    rw [utf8ByteSize_of_base58Decode h, ← List.length_append, List.takeWhile_append_dropWhile]
  obtain ⟨n, hn, h⟩ := Option.bind_eq_some_iff.mp h
  cases h
  obtain ⟨-, -, hlt⟩ := foldlM_digits hn
  generalize s.toList.takeWhile (· = 'r') = zeros at hsize hlen
  generalize hds : s.toList.dropWhile (· = 'r') = digits at hsize hlen hn hlt
  have hfuel : n < 256 ^ digits.length :=
    lt_of_lt_of_le (by simpa using hlt) (Nat.pow_le_pow_left (by decide) _)
  obtain ⟨hle, hbytes, -⟩ := @length_toBytes _ _ [] hfuel
  simp only [List.length_append, List.length_replicate, List.length_nil, Nat.add_zero, Nat.sub_zero] at hlen hle hbytes
  generalize (toBytes digits.length n []).length = bytes at hlen hle hbytes
  have hpow : ∀ b < 26, 256 ^ b ≤ 58 ^ (b + 10) := by decide
  refine ⟨by omega, ?_⟩
  cases digits with
  | nil => simp at hsize; omega
  | cons c cs =>
    have hc : c ≠ 'r' := by
      have := List.head?_dropWhile_not (· = 'r') s.toList
      simpa [hds] using this
    have hmin := le_fromDigits hc hn
    by_contra hbig
    rw [List.length_cons] at hsize
    have hup : 58 ^ (bytes + 10) ≤ 58 ^ cs.length := Nat.pow_le_pow_right (by decide) (by omega)
    have := hpow bytes (by omega)
    omega

/-! ### The host -/

/-- What the JSON serializer puts for a character of a string. -/
def escapeChar (c : Char) : String :=
  if c = '"' then "\\\"" else if c = '\\' then "\\\\"
  else if c = '\n' then "\\n" else if c = '\r' then "\\r" else if c = '\t' then "\\t"
  else if c.toNat = 8 then "\\b" else if c.toNat = 12 then "\\f"
  else if c.toNat < 32 then "\\u00" ++ upperHex (UInt8.ofNat c.toNat) else String.singleton c

/-- `deps.api.addr_validate`. -/
def validAddress (address : String) : Bool := "orai1".toList.isPrefixOf address.toList

/-- `Expiration::is_expired`. -/
def isExpired (block : BlockInfo) : Expiration → Bool
  | .atHeight height => height ≤ block.height
  | .atTime time => time ≤ block.time
  | .never => false

/-- `Expiration`, as it is written in an attribute. -/
def showExpiration : Expiration → String
  | .atHeight height => "expiration height: " ++ toString height
  | .atTime time =>
    let nanos := toString (time % 10 ^ 9)
    "expiration time: " ++ toString (time / 10 ^ 9) ++ "." ++ "".pushn '0' (9 - nanos.length) ++ nanos
  | .never => "expiration: never"

/-- `check_owner`. -/
def checkOwner (ownership : Ownership) (sender : Addr) : Except String Unit :=
  match ownership.owner with
  | none => .error "Contract ownership has been renounced"
  | some owner => if sender ≠ owner then .error "Caller is not the contract's current owner" else .ok ()

/-- `cw_ownable::update_ownership`. -/
def updateOwnership (ownership : Ownership) (block : BlockInfo) (sender : Addr) : Action → Except String Ownership
  | .transferOwnership newOwner expiry => do
    checkOwner ownership sender
    if validAddress newOwner then .ok { ownership with pendingOwner := some newOwner, pendingExpiry := expiry }
    else .error "Generic error: Invalid input"
  | .acceptOwnership =>
    match ownership.pendingOwner with
    | none => .error "There isn't a pending ownership transfer"
    | some pendingOwner =>
      if sender ≠ pendingOwner then .error "Caller is not the contract's pending owner"
      else if ownership.pendingExpiry.any (isExpired block) then
        .error "A pending ownership transfer exists but it has expired"
      else .ok ⟨ownership.pendingOwner, none, none⟩
  | .renounceOwnership => do
    checkOwner ownership sender
    .ok ⟨none, none, none⟩

/-- `Ownership::into_attributes`. -/
def ownershipAttributes (ownership : Ownership) : List (String × String) :=
  [("owner", ownership.owner.getD "none"), ("pending_owner", ownership.pendingOwner.getD "none"),
    ("pending_expiry", (ownership.pendingExpiry.map showExpiration).getD "none")]

theorem eq_owner_of_checkOwner {ownership : Ownership} {sender : Addr} (h : checkOwner ownership sender = .ok ()) :
    ownership.owner = some sender := by
  unfold checkOwner at h
  split at h
  · cases h
  · rename_i owner howner
    split_ifs at h with hsender
    rw [howner, not_not.mp hsender]

/-- The owner transfers and renounces, the proposed owner accepts. -/
theorem owner_of_updateOwnership {ownership ownership' : Ownership} {block : BlockInfo} {sender : Addr}
    {action : Action} (h : updateOwnership ownership block sender action = .ok ownership') :
    ownership.owner = some sender ∨ ownership.pendingOwner = some sender := by
  cases action with
  | transferOwnership newOwner expiry =>
    obtain ⟨_, howner, -⟩ := bind_eq_ok.mp h
    exact .inl (eq_owner_of_checkOwner howner)
  | acceptOwnership =>
    dsimp only [updateOwnership] at h
    split at h
    · cases h
    · rename_i pendingOwner hpending
      split_ifs at h with hsender
      rw [hpending, not_not.mp hsender]
      exact .inr rfl
  | renounceOwnership =>
    obtain ⟨_, howner, -⟩ := bind_eq_ok.mp h
    exact .inl (eq_owner_of_checkOwner howner)

/-- The host. -/
def host : Host where
  contract := "orai1ejpjr43ht3y56pplm5pxpusmcrk9rkkv6j2v23"
  addrValidate := validAddress
  base58Decode := base58Decode
  sha256 := sha256
  jsonEscape s := String.join (s.toList.map escapeChar)
  unicodeUppercase c := [c]
  updateOwnership := updateOwnership
  ownershipAttributes := ownershipAttributes

/-! ### A bridge -/

def owner : Addr := "orai1fsgzj6t7udv8zhf6zj32mkqhcjcpv52ymrc9u8"
def user : Addr := "orai1qnufjmd8vwm6j6d3q28wxqr4d8408f346knq7p"
def tokenFactory : Addr := "orai1qmy242fasznk3q5mvqzew0af9c6xz2zfau3j78"
def entryPoint : Addr := "orai1yglsm0u2x3xmct9kq3lxa654cshaxj9j5d9rw5enemkkkdjgzj7sr3gwt0"
def bridgeAddress : String := "rsBdwA6xJZTF6zKsFSFQViKNy9fGzrbimL"

def relayer₁ : Relayer where
  cosmosAddress := "orai1sksmmsezsfur28g6q77d5nhtpm0nvqzrep2a85"
  xrplAddress := "rDB2dVbighpf6cmiSmGB52gLY7vPydRWtp"
  xrplPubKey := "0285A1BDC3228278351D1A07BCDA4EEB0EDF360043AD403837E0230212EDDA9CEF"

def relayer₂ : Relayer where
  cosmosAddress := "orai1mxkvr8ey0524xczyrjv3z98dxm6rp52z8vp3gd"
  xrplAddress := "rLqx2AyGEW2VtsfbNaG5KM5aZjVoe7bDDH"
  xrplPubKey := "02D9ACC19F247D155360441C991114ED36F430D142DDCDA42FF77F9E7702E2C3B7"

def relayer₃ : Relayer where
  cosmosAddress := "orai1sc5nanqhzckajrlahhgvdzmgrzuylrdaflrp9v"
  xrplAddress := "rDN4x78cbGMoorQwWZ7aPA1bGqvSdi8mDp"
  xrplPubKey := "0286293ECC17162DD90FFDBDD0C68B6818B84F8DBD6373CB67C92B60D9E0E5F77D"

/-- The message the bridge is set up with. -/
def setup (relayers : List Relayer) (evidenceThreshold : ℕ) : InstantiateMsg where
  owner := owner
  relayers := relayers
  evidenceThreshold := evidenceThreshold
  usedTicketSequenceThreshold := 2
  trustSetLimitAmount := 1000000000000000000
  bridgeXRPLAddress := bridgeAddress
  xrplBaseFee := 10
  tokenFactoryAddr := tokenFactory
  issueToken := true
  rateLimitAddr := none
  osorEntryPoint := none

/-- The world right after `instantiate`, without coins. -/
def launch (msg : InstantiateMsg) : World where
  store := initialStorage msg
    ((IndexedMap.empty.save (buildXRPLTokenKey xrpIssuer xrpCurrency) (xrpToken msg.tokenFactoryAddr)).getD .empty)
  bank := ⟨fun _ => 0, fun _ => 0⟩

theorem instantiate_launch {msg : InstantiateMsg} (h : (instantiate host owner [] msg).isOk = true) :
    ∃ r, instantiate host owner [] msg = .ok ((launch msg).store, r) := by
  obtain ⟨⟨s, r⟩, hi⟩ := exists_of_isOk h
  obtain ⟨m, -, -, -, hm, hs⟩ := instantiate_eq_ok hi
  refine ⟨r, ?_⟩
  rw [hi, hs, launch, hm]
  rfl

theorem started_launch {msg : InstantiateMsg} (h : (instantiate host owner [] msg).isOk = true) :
    Started host (launch msg) := by
  obtain ⟨r, hi⟩ := instantiate_launch h
  exact ⟨owner, [], msg, r, hi⟩

/-- The world of one relayer. -/
def world₁ : World := launch (setup [relayer₁] 1)

/-- The world of three relayers, two of whom have to agree. -/
def world₂ : World := launch (setup [relayer₁, relayer₂, relayer₃] 2)

theorem started_world₁ : Started host world₁ := started_launch (by decide +kernel)

theorem started_world₂ : Started host world₂ := started_launch (by decide +kernel)

/-- A call at a given second, without coins, all of whose messages are accepted. -/
def call (seconds : ℕ) (sender : Addr) (msg : ExecuteMsg) : Call where
  env := ⟨1, seconds * 10 ^ 9⟩
  sender := sender
  funds := []
  msg := msg
  accepts _ := true

/-- The vote of a relayer. -/
def vote (seconds : ℕ) (r : Relayer) (e : Evidence) : Call := call seconds r.cosmosAddress (.saveEvidence e)

/-- The owner asks for three tickets, with the account sequence 1. -/
def recover : Call := call 1 owner (.recoverTickets 1 (some 3))

/-- The tickets 1, 2 and 3 have been allocated. -/
def allocation : Evidence :=
  .xrplTransactionResult ⟨some "ab12", some 1, none, .accepted, some (.ticketsAllocation (some [1, 2, 3]))⟩

/-- The denom of XRP. -/
def xrpDenom : String := fullDenom tokenFactory xrpSymbol

/-- The user sends XRP to an account on XRPL. -/
def send (seconds amount : ℕ) : Call :=
  { call seconds user (.sendToXRPL relayer₃.xrplAddress none) with funds := [⟨xrpDenom, amount⟩] }

/-- The owner cancels an operation. -/
def cancel (seconds k : ℕ) : Call := call seconds owner (.cancelPendingOperation k)

/-- The owner registers a token of XRPL that the first relayer's account issues. -/
def register (seconds : ℕ) (currency : String) (precision : ℤ) : Call :=
  call seconds owner (.registerXRPLToken relayer₁.xrplAddress currency precision (10 ^ 30) 0)

/-- The owner asks for a rotation of the keys to the second relayer. -/
def rotate : Call := call 3 owner (.rotateKeys [relayer₂] 1)

/-- A migration that keeps the config of the bridge, and asks for a halted bridge. -/
def migration (relayers : List Relayer) (evidenceThreshold : ℕ) : MigrateMsg where
  relayers := relayers
  evidenceThreshold := evidenceThreshold
  usedTicketSequenceThreshold := 2
  trustSetLimitAmount := 1000000000000000000
  bridgeXRPLAddress := bridgeAddress
  bridgeState := .halted
  xrplBaseFee := 10
  tokenFactoryAddr := tokenFactory
  rateLimitAddr := none
  osorEntryPoint := none

end XrplBridge.Reference
