import Mathlib.Data.Bool.AllAny
import XrplBridge.Protocol.Tokens
import XrplBridge.Reference

/-!
# The keys of tokens

A token of XRPL is kept under its issuer, followed by its currency, with nothing in between. What
keeps two tokens apart is the length of their strings: an address has 25 to 35 characters, a valid
currency 3 or 40, so that a key can be cut in one way only (`keys_injective`). The currencies that the
bridge makes up for the tokens of Cosmos are hexadecimal numbers of 40 digits, and valid.
-/

namespace XrplBridge

open Library Contract Std

/-- What `bs58` decodes to 25 bytes has 25 to 35 characters. -/
def Contract.Host.Base58Length (H : Host) : Prop :=
  ∀ address data, H.base58Decode address = some data → data.length = 25 →
    25 ≤ address.toList.length ∧ address.toList.length ≤ 35

/-- The issuer and the currency of a token: valid ones, or those of XRP. -/
inductive Nameable (H : Host) : String → String → Prop
  | token {issuer currency : String} (address : validateXRPLAddressFormat H issuer = .ok ())
      (valid : validateXRPLCurrency currency = .ok ()) : Nameable H issuer currency
  | xrp : Nameable H xrpIssuer xrpCurrency

/-- Ten hexadecimal digits. -/
structure TenHexDigits (s : String) : Prop where
  length : s.toList.length = 10
  digits : ∀ c ∈ s.toList, c ∈ "0123456789abcdefABCDEF".toList

variable {H : Host} {s : String}

/-! ### Lengths -/

theorem utf8Size_of_alphanum {c : Char} (h : c.isAlphanum = true) : c.utf8Size = 1 := by
  have hranges : c.isAlphanum = (decide (65 ≤ c.val ∧ c.val ≤ 90) || decide (97 ≤ c.val) && decide (c.val ≤ 122) ||
      decide (48 ≤ c.val) && decide (c.val ≤ 57)) := rfl
  rw [Char.utf8Size_eq_one_iff, UInt32.le_iff_toNat_le]
  simp only [hranges, Bool.or_eq_true, Bool.and_eq_true, decide_eq_true_eq, UInt32.le_iff_toNat_le,
    UInt32.reduceToNat] at h ⊢
  omega

/-- The characters of a currency of either kind. -/
theorem utf8Size_of_currencyChar {c : Char}
    (h : (isAsciiAlphanumeric c || allowedCurrencySymbols.contains c) = true ∨
      (c.isDigit || ('A' ≤ c && c ≤ 'F')) = true) : c.utf8Size = 1 := by
  have hsymbols : ∀ d ∈ allowedCurrencySymbols, d.utf8Size = 1 := List.all_iff_forall_prop.mp (by decide)
  rcases h with h | h
  · rw [Bool.or_eq_true] at h
    rcases h with h | h
    · exact utf8Size_of_alphanum h
    · exact hsymbols c (List.contains_iff_mem.mp h)
  · rw [Bool.or_eq_true, Bool.and_eq_true, decide_eq_true_eq, decide_eq_true_eq] at h
    rcases h with h | ⟨-, h⟩
    · exact utf8Size_of_alphanum (by simp [Char.isAlphanum, h])
    · rw [Char.utf8Size_eq_one_iff]
      exact UInt32.le_trans h (by decide)

/-- Characters of one byte each. -/
theorem length_of_ascii (h : ∀ c ∈ s.toList, c.utf8Size = 1) : s.toList.length = s.utf8ByteSize := by
  conv_rhs => rw [← String.ofList_toList (s := s), Reference.utf8ByteSize_ascii h]

/-- A valid currency has three or forty characters. -/
theorem length_of_validCurrency {currency : String} (h : validateXRPLCurrency currency = .ok ()) :
    currency.toList.length = 3 ∨ currency.toList.length = 40 := by
  have hsize := (size_of_validCurrency h).1
  rw [length_of_ascii ?_]
  · exact hsize
  · intro c hc
    apply utf8Size_of_currencyChar
    unfold validateXRPLCurrency at h
    split at h
    · simp only [bind_eq_ok, failIf_eq_ok, not_not] at h
      obtain ⟨_, -, h⟩ := h
      exact .inl (List.all_eq_true.mp h c hc)
    · simp only [bind_eq_ok, failIf_eq_ok, not_not] at h
      obtain ⟨_, -, h⟩ := h
      exact .inr (List.all_eq_true.mp h c hc)
    · simp at h

theorem Nameable.length (hb : H.Base58Length) {issuer currency : String} (h : Nameable H issuer currency) :
    (25 ≤ issuer.toList.length ∧ issuer.toList.length ≤ 35) ∧
      (currency.toList.length = 3 ∨ currency.toList.length = 40) := by
  cases h with
  | token address valid =>
    obtain ⟨data, hdata, hlen⟩ := base58Decode_of_validFormat H address
    exact ⟨hb issuer data hdata hlen, length_of_validCurrency valid⟩
  | xrp => decide

/-- **A key is cut in one way only.** -/
theorem Nameable.key_inj (hb : H.Base58Length) {issuer currency issuer' currency' : String}
    (h : Nameable H issuer currency) (h' : Nameable H issuer' currency')
    (hkey : buildXRPLTokenKey issuer currency = buildXRPLTokenKey issuer' currency') :
    issuer = issuer' ∧ currency = currency' := by
  obtain ⟨⟨hlo, hhi⟩, hcur⟩ := h.length hb
  obtain ⟨⟨hlo', hhi'⟩, hcur'⟩ := h'.length hb
  have hlist := congrArg String.toList hkey
  simp only [buildXRPLTokenKey, String.toList_append] at hlist
  have hlen := congrArg List.length hlist
  simp only [List.length_append] at hlen
  -- currencies of different lengths would make the lengths of the issuers differ by 37
  obtain ⟨hi, hc⟩ := List.append_inj hlist (by omega)
  exact ⟨String.toList_inj.mp hi, String.toList_inj.mp hc⟩

/-! ### The currencies of the tokens of Cosmos -/

/-- The digits that `toHex` writes. -/
def hexDigits : List Char := "0123456789abcdef".toList

theorem digitChar_mem_hexDigits {n : ℕ} (h : n < 16) : Nat.digitChar n ∈ hexDigits := by
  have hall : ∀ n < 16, Nat.digitChar n ∈ hexDigits := by decide
  exact hall n h

theorem mem_hexDigits_of_toHex {bytes : List UInt8} {c : Char} (h : c ∈ (toHex bytes).toList) : c ∈ hexDigits := by
  rw [toHex, String.toList_ofList, List.mem_flatMap] at h
  obtain ⟨b, -, hc⟩ := h
  have hb := b.toNat_lt
  rcases List.mem_pair.mp hc with rfl | rfl
  · exact digitChar_mem_hexDigits (by omega)
  · exact digitChar_mem_hexDigits (by omega)

theorem length_toHex (bytes : List UInt8) : (toHex bytes).toList.length = 2 * bytes.length := by
  rw [toHex, String.toList_ofList]
  induction bytes with
  | nil => rfl
  | cons b bytes ih =>
    rw [List.flatMap_cons, List.length_append, ih, List.length_cons, List.length_cons, List.length_cons,
      List.length_nil, Nat.mul_succ, Nat.add_comm]

theorem toHex_append (a b : List UInt8) : toHex (a ++ b) = toHex a ++ toHex b := by
  rw [toHex, toHex, toHex, List.flatMap_append, String.ofList_append]

theorem intoBytes_append (a b : String) : intoBytes (a ++ b) = intoBytes a ++ intoBytes b := by
  simp [intoBytes, String.toByteArray_append]

theorem length_intoBytes (s : String) : (intoBytes s).length = s.utf8ByteSize := by
  simp [intoBytes]

/-- Upper case, of characters that are ASCII. -/
theorem toUppercase_ascii (h : ∀ c ∈ s.toList, c.val < 128) :
    toUppercase H s = String.ofList (s.toList.map Char.toUpper) := by
  rw [toUppercase, List.flatMap_congr fun c hc => if_pos (h c hc), List.map_eq_flatMap]

theorem TenHexDigits.length_intoBytes (h : TenHexDigits s) : (intoBytes s).length = 10 := by
  have hascii : ∀ c ∈ "0123456789abcdefABCDEF".toList, c.utf8Size = 1 := List.all_iff_forall_prop.mp (by decide)
  rw [XrplBridge.length_intoBytes, ← length_of_ascii fun c hc => hascii c (h.digits c hc), h.length]

/-- The digits of the prefix. -/
def prefixDigits : List Char := ['6', '3', '6', 'f', '7', '3', '6', 'd', '6', 'f', '7', '3']

theorem toHex_cosmosCurrencyPrefix : toHex (intoBytes cosmosCurrencyPrefix) = String.ofList prefixDigits := by
  decide

/-- The digits of a converted currency: those of the prefix, those of the ten digits, and eight zeros. -/
def converted (s : String) : List Char :=
  prefixDigits ++ (toHex (intoBytes s)).toList ++ List.replicate 8 '0'

theorem TenHexDigits.length_converted (h : TenHexDigits s) : (converted s).length = 40 := by
  rw [converted, List.length_append, List.length_append, length_toHex, h.length_intoBytes]
  rfl

theorem mem_hexDigits_of_converted {c : Char} (h : c ∈ converted s) : c ∈ hexDigits := by
  rw [converted, List.mem_append, List.mem_append] at h
  rcases h with (h | h) | h
  · have hall : ∀ c ∈ prefixDigits, c ∈ hexDigits := List.all_iff_forall_prop.mp (by decide)
    exact hall c h
  · exact mem_hexDigits_of_toHex h
  · rw [List.eq_of_mem_replicate h]
    decide

theorem TenHexDigits.toList_convert (h : TenHexDigits s) :
    (convertCurrencyToXRPLHexadecimal H (cosmosCurrencyPrefix ++ s)).toList = (converted s).map Char.toUpper := by
  have hhex : toHex (intoBytes (cosmosCurrencyPrefix ++ s)) = String.ofList prefixDigits ++ toHex (intoBytes s) := by
    rw [intoBytes_append, toHex_append, toHex_cosmosCurrencyPrefix]
  have hpad : 40 - (String.ofList prefixDigits ++ toHex (intoBytes s)).toList.length = 8 := by
    rw [String.toList_append, String.toList_ofList, List.length_append, length_toHex, h.length_intoBytes]
    rfl
  have hlist : (String.ofList prefixDigits ++ toHex (intoBytes s) ++ String.ofList (List.replicate 8 '0')).toList =
      converted s := by
    simp only [String.toList_append, String.toList_ofList, converted]
  have hascii : ∀ c ∈ hexDigits, c.val < 128 := List.all_iff_forall_prop.mp (by decide)
  simp only [convertCurrencyToXRPLHexadecimal, hhex, hpad]
  rw [toUppercase_ascii, hlist, String.toList_ofList]
  rw [hlist]
  exact fun c hc => hascii c (mem_hexDigits_of_converted hc)

/-- **The currency of a token of Cosmos is valid.** -/
theorem TenHexDigits.validateXRPLCurrency (h : TenHexDigits s) :
    validateXRPLCurrency (convertCurrencyToXRPLHexadecimal H (cosmosCurrencyPrefix ++ s)) = .ok () := by
  have hlist : (convertCurrencyToXRPLHexadecimal H (cosmosCurrencyPrefix ++ s)).toList = _ := h.toList_convert
  generalize convertCurrencyToXRPLHexadecimal H (cosmosCurrencyPrefix ++ s) = currency at hlist
  have hupper : ∀ c ∈ hexDigits, (c.toUpper.isDigit || ('A' ≤ c.toUpper && c.toUpper ≤ 'F')) = true ∧
      c.toUpper.utf8Size = 1 := List.all_iff_forall_prop.mp (by decide)
  have hchars : ∀ c ∈ currency.toList, (c.isDigit || ('A' ≤ c && c ≤ 'F')) = true ∧ c.utf8Size = 1 := by
    rw [hlist, List.forall_mem_map]
    exact fun c hc => hupper c (mem_hexDigits_of_converted hc)
  have hsize : currency.utf8ByteSize = 40 := by
    rw [← length_of_ascii fun c hc => (hchars c hc).2, hlist, List.length_map, h.length_converted]
  have hhead : ['0', '0'].isPrefixOf currency.toList = false := by
    rw [hlist]
    rfl
  have hall : (currency.toList.all fun c => c.isDigit || ('A' ≤ c && c ≤ 'F')) = true :=
    List.all_eq_true.mpr fun c hc => (hchars c hc).1
  unfold Contract.validateXRPLCurrency
  rw [hsize]
  simp [hhead, hall, failIf, bind, Except.bind]

/-- The address of the bridge has a valid format, in every run. -/
theorem run_bridgeFormat {w : World} (h : Started H w) (calls : List Call) :
    validateXRPLAddressFormat H (run (step H) w calls).store.config.bridgeXRPLAddress = .ok () := by
  obtain ⟨msg, m, -, hformat, -, -, hs⟩ := started_eq h
  rw [(run_registered h calls).address, hs]
  exact hformat

/-- **Keys cannot collide.** Two pairs of a valid address and a valid currency, or the pair of XRP, have
one key only if they are the same; the currency that is made up for a token of Cosmos is always valid, so
this is also true of the keys under the address of the bridge, which has a valid format. -/
theorem keys_injective (hb : H.Base58Length) :
    (∀ issuer currency issuer' currency', Nameable H issuer currency → Nameable H issuer' currency' →
        buildXRPLTokenKey issuer currency = buildXRPLTokenKey issuer' currency' →
          issuer = issuer' ∧ currency = currency') ∧
      (∀ digits, TenHexDigits digits →
        validateXRPLCurrency (convertCurrencyToXRPLHexadecimal H (cosmosCurrencyPrefix ++ digits)) = .ok ()) ∧
      (∀ w calls, Started H w →
        validateXRPLAddressFormat H (run (step H) w calls).store.config.bridgeXRPLAddress = .ok ()) ∧
      ∀ bridge digits issuer currency, validateXRPLAddressFormat H bridge = .ok () → TenHexDigits digits →
        (Nameable H issuer currency ∨ issuer = bridge ∧ ∃ digits', TenHexDigits digits' ∧
          currency = convertCurrencyToXRPLHexadecimal H (cosmosCurrencyPrefix ++ digits')) →
          buildXRPLTokenKey bridge (convertCurrencyToXRPLHexadecimal H (cosmosCurrencyPrefix ++ digits)) =
              buildXRPLTokenKey issuer currency →
            bridge = issuer ∧ convertCurrencyToXRPLHexadecimal H (cosmosCurrencyPrefix ++ digits) = currency := by
  refine ⟨fun _ _ _ _ h h' => h.key_inj hb h', fun _ hd => hd.validateXRPLCurrency,
    fun w calls h => run_bridgeFormat h calls, ?_⟩
  intro bridge digits issuer currency hbridge hd hother
  have hname : Nameable H issuer currency := by
    rcases hother with hname | ⟨rfl, digits', hd', rfl⟩
    · exact hname
    · exact .token hbridge hd'.validateXRPLCurrency
  exact (Nameable.token hbridge hd.validateXRPLCurrency).key_inj hb hname

theorem base58Length_host : Reference.host.Base58Length := by
  intro address data hdata hlen
  rw [← Reference.utf8ByteSize_of_base58Decode hdata]
  exact Reference.size_of_base58Decode hdata hlen

open Reference in
/-- A currency that is made up, and a token of XRPL that is not under its key. -/
theorem keys_injective_usd :
    validateXRPLCurrency (convertCurrencyToXRPLHexadecimal host (cosmosCurrencyPrefix ++ "0a1b2c3d4e")) = .ok () ∧
      buildXRPLTokenKey bridgeAddress (convertCurrencyToXRPLHexadecimal host (cosmosCurrencyPrefix ++ "0a1b2c3d4e")) ≠
        buildXRPLTokenKey relayer₁.xrplAddress "USD" := by
  obtain ⟨-, hvalid, hbridge, hkey⟩ := keys_injective base58Length_host
  have hd : TenHexDigits "0a1b2c3d4e" := ⟨by decide, List.all_iff_forall_prop.mp (by decide)⟩
  refine ⟨hvalid _ hd, fun heq => ?_⟩
  have hname : Nameable host relayer₁.xrplAddress "USD" := .token (by decide +kernel) (by decide)
  have hsame := (hkey _ _ _ _ (hbridge world₁ [] started_world₁) hd (.inl hname) heq).1
  exact absurd hsame (by decide)

end XrplBridge
