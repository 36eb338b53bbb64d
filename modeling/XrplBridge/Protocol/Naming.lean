import XrplBridge.Protocol.Operations
import XrplBridge.Reference

/-!
# The names of tokens

A token of XRPL is kept under its issuer and currency, one after the other, so one key can be read
in many ways. `Sized` strings are read in one way only: a currency of three or forty bytes, after
an issuer of the length of an XRPL address. Such are the strings of every registered token, as
long as addresses have the length that base 58 gives them (`Base58Sized`); a caller's strings are
those of the token they lead to exactly if they are sized (`lookups_iff`).
-/

namespace XrplBridge

open Library Contract Std

/-- What `bs58` decodes to 25 bytes has 25 to 35 characters, of one byte each. -/
def Contract.Host.Base58Sized (H : Host) : Prop :=
  ∀ address data, H.base58Decode address = some data → data.length = 25 →
    25 ≤ address.utf8ByteSize ∧ address.utf8ByteSize ≤ 35

/-- Strings of the sizes that an issuer and a currency have. -/
structure Sized (issuer currency : String) : Prop where
  lower : 25 ≤ issuer.utf8ByteSize
  upper : issuer.utf8ByteSize ≤ 35
  currency : currency.utf8ByteSize = 3 ∨ currency.utf8ByteSize = 40

instance instDecidableSized (issuer currency : String) : Decidable (Sized issuer currency) :=
  decidable_of_iff (25 ≤ issuer.utf8ByteSize ∧ issuer.utf8ByteSize ≤ 35 ∧
      (currency.utf8ByteSize = 3 ∨ currency.utf8ByteSize = 40))
    ⟨fun h => ⟨h.1, h.2.1, h.2.2⟩, fun h => ⟨h.lower, h.upper, h.currency⟩⟩

/-- One string after another, of known sizes, is read in one way. -/
theorem append_inj_of_size {a b c d : String} (h : a ++ b = c ++ d) (hsize : a.utf8ByteSize = c.utf8ByteSize) :
    a = c ∧ b = d := by
  have hbytes : a.toByteArray ++ b.toByteArray = c.toByteArray ++ d.toByteArray := by
    rw [← String.toByteArray_append, h, String.toByteArray_append]
  obtain rfl := String.toByteArray_inj.mp (ByteArray.append_inj_left hbytes hsize)
  exact ⟨rfl, (String.append_right_inj a).mp h⟩

/-- Sized strings are read from a key in one way. -/
theorem Sized.key_inj {issuer currency issuer' currency' : String} (h : Sized issuer currency)
    (h' : Sized issuer' currency')
    (hkey : buildXRPLTokenKey issuer currency = buildXRPLTokenKey issuer' currency') :
    issuer = issuer' ∧ currency = currency' := by
  apply append_inj_of_size hkey
  have hsize := congrArg String.utf8ByteSize hkey
  simp only [buildXRPLTokenKey, String.utf8ByteSize_append] at hsize
  obtain ⟨hlo, hhi, hcur⟩ := h
  obtain ⟨hlo', hhi', hcur'⟩ := h'
  -- currencies of different sizes would make the sizes of the issuers differ by 37
  omega

variable {H : Host} {s s' : Storage} {w : World} {bridge : String}

theorem sized_of_valid (hb : H.Base58Sized) {issuer currency : String}
    (hi : validateXRPLAddressFormat H issuer = .ok ()) (hc : validateXRPLCurrency currency = .ok ()) :
    Sized issuer currency := by
  obtain ⟨data, hdata, hlen⟩ := base58Decode_of_validFormat H hi
  obtain ⟨hlo, hhi⟩ := hb issuer data hdata hlen
  exact ⟨hlo, hhi, (size_of_validCurrency hc).1⟩

theorem sized_xrp : Sized xrpIssuer xrpCurrency := by decide

/-- The strings of a registered token are sized. -/
theorem Registry.Sound.sized (hb : H.Base58Sized) {g : Registry} (h : g.Sound H bridge) {key : String} {n : XRPLName}
    (hn : g.xrpl[key]? = some n) : Sized n.issuer n.currency := by
  rcases h.foreign key n hn with ⟨hi, hc⟩ | ⟨hi, -, hc⟩
  · rw [hi, hc]
    exact sized_xrp
  · exact sized_of_valid hb hi hc

/-- **A lookup finds the token that is named exactly if the strings are sized.** -/
theorem Registered.named_iff (hb : H.Base58Sized) (h : Registered H bridge s) {issuer currency : String}
    {token : XRPLToken} (hk : s.xrplTokens.primary[buildXRPLTokenKey issuer currency]? = some token) :
    (token.issuer = issuer ∧ token.currency = currency) ↔ Sized issuer currency := by
  have hn := registry_xrpl hk
  have hsized : Sized token.issuer token.currency := h.sound.sized hb hn
  constructor
  · rintro ⟨rfl, rfl⟩
    exact hsized
  · intro hs
    have hkey : buildXRPLTokenKey issuer currency = buildXRPLTokenKey token.issuer token.currency :=
      h.sound.xrplKey _ _ hn
    obtain ⟨hi, hc⟩ := hs.key_inj hsized hkey
    exact ⟨hi.symm, hc.symm⟩

/-! ### TrustSets -/

/-- The issuer and the currency that a call looks up a token of XRPL with. -/
def lookedUp (s : Storage) : ExecuteMsg → Option (String × String)
  | .updateXRPLToken issuer currency _ => some (issuer, currency)
  | .recoverXRPLTokenRegistration issuer currency => some (issuer, currency)
  | .saveEvidence (.xrplToCosmosTransfer e) =>
    if e.issuer ≠ s.config.bridgeXRPLAddress then some (e.issuer, e.currency) else none
  | _ => none

/-- A registration is recovered under strings that are not sized. -/
def misnames : ExecuteMsg → Bool
  | .recoverXRPLTokenRegistration issuer currency => ¬ Sized issuer currency
  | _ => false

/-- Every TrustSet names the token that it will enable. -/
def TrustSetsNamed (s : Storage) : Prop :=
  ∀ (k : ℕ) (o : Operation) (issuer currency : String) (limit : ℕ), s.pendingOperations[k]? = some o →
    o.operationType = .trustSet issuer currency limit →
      ∃ token, s.xrplTokens.primary[buildXRPLTokenKey issuer currency]? = some token ∧
        token.issuer = issuer ∧ token.currency = currency

/-- Every TrustSet is about sized strings. -/
def TrustSetsSized (s : Storage) : Prop :=
  ∀ (k : ℕ) (o : Operation) (issuer currency : String) (limit : ℕ), s.pendingOperations[k]? = some o →
    o.operationType = .trustSet issuer currency limit → Sized issuer currency

theorem Registered.trustSetsNamed (hb : H.Base58Sized) (h : Registered H bridge s) :
    TrustSetsNamed s ↔ TrustSetsSized s := by
  constructor
  · intro hall k o issuer currency limit ho ht
    obtain ⟨token, hk, hnamed⟩ := hall k o issuer currency limit ho ht
    exact (h.named_iff hb hk).mp hnamed
  · intro hall k o issuer currency limit ho ht
    have hcovers := h.covered k o.entry (by simp [ho])
    rw [show o.entry.operationType = _ from ht] at hcovers
    cases hcovers with
    | trustSet hr =>
      obtain ⟨token, hk, -⟩ := exists_xrplToken hr
      exact ⟨token, hk, (h.named_iff hb hk).mpr (hall k o issuer currency limit ho ht)⟩

theorem TrustSetsSized.step (hb : H.Base58Sized) {q : Querier} {env : BlockInfo} {sender : Addr} {funds : List Coin}
    {msg : ExecuteMsg} {ms : List SubMsg} (h : TrustSetsSized s) (he : Effect H s q env sender funds msg s' ms)
    (hno : misnames msg = false) : TrustSetsSized s' := by
  intro k o issuer currency limit ho ht
  cases he.origin ho with
  | kept hold _ htype => exact h k _ issuer currency limit hold (htype ▸ ht)
  | created _ _ _ htrust =>
    cases htrust issuer currency limit ht with
    | recovered => simpa [misnames] using hno
    | registered hi hc => exact sized_of_valid hb (validateXRPLAddress_eq_ok H hi).1 hc

/-- The TrustSet of a recovery is about the strings of the recovery. -/
theorem not_trustSetsSized_of_misnames {q : Querier} {env : BlockInfo} {sender : Addr} {funds : List Coin}
    {msg : ExecuteMsg} {ms : List SubMsg} (he : Effect H s q env sender funds msg s' ms)
    (h : misnames msg = true) : ¬ TrustSetsSized s' := by
  intro hall
  unfold misnames at h
  split at h
  · cases he with
    | recoveredXRPL _ _ ho =>
      cases ho with
      | @intro k _ _ _ _ =>
        exact of_decide_eq_true h (hall k _ _ _ _ (getElem?_insert_self' _ _ _) rfl)
  · cases h

theorem run_trustSetsSized (hb : H.Base58Sized) (h : Started H w) (calls : List Call)
    (hno : ∀ x ∈ history (step H) w calls, misnames x.2.msg = false) :
    TrustSetsSized (run (step H) w calls).store := by
  refine run_invariant_of (I := fun w : World => TrustSetsSized w.store)
    (p := fun _ c => misnames c.msg = false) ?_ ?_ calls hno
  · obtain ⟨msg, m, -, -, -, -, hs⟩ := started_eq h
    rw [hs]
    intro k o issuer currency limit ho
    simp [initialStorage] at ho
  · intro calls c w' r hold hc hstep
    exact hold.step hb (run_effect h hstep) hc

/-- **Lookups**, in every run: the token that a call looks up is the one it names exactly if the
strings are sized, and then they have its decimals; and every pending TrustSet names the token it
will enable, all along the run, exactly if no recovery has been called with others. -/
theorem lookups_iff (hb : H.Base58Sized) (h : Started H w) (calls : List Call) :
    (∀ msg issuer currency token, lookedUp (run (step H) w calls).store msg = some (issuer, currency) →
        (run (step H) w calls).store.xrplTokens.primary[buildXRPLTokenKey issuer currency]? = some token →
          ((token.issuer = issuer ∧ token.currency = currency) ↔ Sized issuer currency) ∧
            (Sized issuer currency → isTokenXRP issuer currency = isTokenXRP token.issuer token.currency ∧
              xrplDecimals issuer currency = xrplDecimals token.issuer token.currency)) ∧
      ((∀ pre post, calls = pre ++ post → TrustSetsNamed (run (step H) w pre).store) ↔
        ∀ x ∈ history (step H) w calls, misnames x.2.msg = false) := by
  refine ⟨fun msg issuer currency token _ hk => ?_, ?_, ?_⟩
  · have hiff := (run_registered h calls).named_iff hb hk
    refine ⟨hiff, fun hs => ?_⟩
    obtain ⟨rfl, rfl⟩ := hiff.mpr hs
    exact ⟨rfl, rfl⟩
  · rintro hall ⟨t, c⟩ hx
    obtain ⟨pre, post, ⟨w', r⟩, hcalls, rfl, hstep⟩ := mem_history_iff.mp hx
    by_contra hmis
    apply not_trustSetsSized_of_misnames (run_effect h hstep) (by simpa using hmis)
    have hnamed := hall (pre ++ [c]) post (by simpa using hcalls)
    have hsized := ((run_registered h (pre ++ [c])).trustSetsNamed hb).mp hnamed
    rwa [run_snoc_ok hstep] at hsized
  · rintro hno pre post rfl
    have hsized := run_trustSetsSized hb h pre fun x hx => hno x (mem_history_append hx post)
    exact ((run_registered h pre).trustSetsNamed hb).mpr hsized

theorem base58Sized_host : Reference.host.Base58Sized := fun _ _ => Reference.size_of_base58Decode

open Reference in
/-- After a registration and its recovery, the pending TrustSet names its token. -/
theorem lookups_iff_recovered :
    TrustSetsNamed (run (step host) world₁ [recover, vote 2 relayer₁ allocation, register 3 "USD" 15,
      vote 4 relayer₁ (.xrplTransactionResult ⟨some "cd34", none, some 1, .rejected, none⟩),
      call 5 owner (.recoverXRPLTokenRegistration relayer₁.xrplAddress "USD")]).store :=
  (lookups_iff base58Sized_host started_world₁ _).2.mpr (by decide +kernel) _ [] (List.append_nil _).symm

open Reference in
/-- The last letter of the issuer is given as the first of the currency: the lookup finds the
token of another name, and the TrustSet that is created is for an issuer and a currency that no
token has. -/
theorem lookup_misnamed :
    let w := run (step host) world₁ [recover, vote 2 relayer₁ allocation, register 3 "USD" 15,
      vote 4 relayer₁ (.xrplTransactionResult ⟨some "cd34", none, some 1, .rejected, none⟩)]
    let c := call 5 owner (.recoverXRPLTokenRegistration "rDB2dVbighpf6cmiSmGB52gLY7vPydRWt" "pUSD")
    (step host w c).isOk = true ∧
      w.store.xrplTokens.primary[buildXRPLTokenKey "rDB2dVbighpf6cmiSmGB52gLY7vPydRWt" "pUSD"]?.map
        (fun t => (t.issuer, t.currency)) = some (relayer₁.xrplAddress, "USD") ∧
      (commit (step host) w c).store.pendingOperations[2]?.map Operation.operationType =
        some (.trustSet "rDB2dVbighpf6cmiSmGB52gLY7vPydRWt" "pUSD" 1000000000000000000) := by
  decide +kernel

end XrplBridge
