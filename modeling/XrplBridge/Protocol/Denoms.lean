import XrplBridge.Protocol.TokenStores
import XrplBridge.Reference

/-!
# One denom, one token

`SendToXRPL` finds the token of the attached coins by their denom, first among the tokens of XRPL
and then among those of Cosmos. A token of XRPL is not registered under the denom of a token of
Cosmos; the other way round nothing is checked. `oneToken_iff` says when every denom is one
token's: exactly if the owner registers no token of Cosmos under the denom of a token of XRPL.
-/

namespace XrplBridge

open Library Contract Std

variable {H : Host} {s s' : Storage} {w : World}

/-- No denom is that of a token of XRPL and of a token of Cosmos. -/
def Apart (s : Storage) : Prop :=
  ∀ (key denom : String) (token : XRPLToken) (token' : CosmosToken), s.xrplTokens.primary[key]? = some token →
    s.cosmosTokens.primary[denom]? = some token' → token.cosmosDenom ≠ token'.denom

/-- The token that is found for a denom is the only one of this denom. -/
structure OneToken (s : Storage) : Prop where
  apart : Apart s
  /-- A token of XRPL is found by its denom. -/
  xrpl : ∀ (denom key : String) (token : XRPLToken), s.xrplTokens.item denom = some (key, token) →
    (∀ (key' : String) (token' : XRPLToken), s.xrplTokens.primary[key']? = some token' → token'.cosmosDenom = denom →
      key' = key ∧ token' = token) ∧
      ∀ (key' : String) (token' : CosmosToken), s.cosmosTokens.primary[key']? = some token' → token'.denom ≠ denom
  /-- A token of Cosmos is found if none of XRPL is. -/
  cosmos : ∀ (denom : String) (token : CosmosToken), s.xrplTokens.item denom = none →
    s.cosmosTokens.primary[denom]? = some token →
      (∀ (key' : String) (token' : XRPLToken), s.xrplTokens.primary[key']? = some token' → token'.cosmosDenom ≠ denom) ∧
        ∀ (key' : String) (token' : CosmosToken), s.cosmosTokens.primary[key']? = some token' → token'.denom = denom →
          key' = denom ∧ token' = token

/-- The owner registers a token of Cosmos under the denom of a token of XRPL. -/
def TakesDenom (s : Storage) (msg : ExecuteMsg) : Prop :=
  ∃ (denom : String) (decimals : ℕ) (precision : ℤ) (maxHolding bridgingFee : ℕ) (key : String) (token : XRPLToken),
    msg = .registerCosmosToken denom decimals precision maxHolding bridgingFee ∧
      s.xrplTokens.primary[key]? = some token ∧ token.cosmosDenom = denom

/-! ### What is found -/

/-- A token of Cosmos is stored under its denom. -/
theorem run_cosmosKey (h : Started H w) (calls : List Call) {key : String} {token : CosmosToken}
    (ht : (run (step H) w calls).store.cosmosTokens.primary[key]? = some token) : token.denom = key :=
  ((run_registered h calls).sound.cosmosKey _ _ (registry_cosmos ht)).symm

/-- What is found for a denom is the only token, if the denoms are apart. -/
theorem Apart.oneToken (ha : Apart s)
    (hkey : ∀ (key : String) (token : CosmosToken), s.cosmosTokens.primary[key]? = some token → token.denom = key) :
    OneToken s := by
  refine ⟨ha, fun denom key token hitem => ?_, fun denom token hitem htoken => ?_⟩
  · obtain ⟨htoken, hdenom⟩ := IndexedMap.item_eq_some.mp hitem
    constructor
    · intro key' token' htoken' hdenom'
      obtain rfl := s.xrplTokens.unique htoken' htoken (hdenom'.trans hdenom.symm)
      rw [htoken] at htoken'
      exact ⟨rfl, (Option.some.inj htoken').symm⟩
    · intro key' token' htoken' hdenom'
      exact ha key key' token token' htoken htoken' (hdenom.trans hdenom'.symm)
  · constructor
    · intro key' token' htoken' hdenom'
      rw [IndexedMap.item_eq_some.mpr ⟨htoken', hdenom'⟩] at hitem
      cases hitem
    · intro key' token' htoken' hdenom'
      obtain rfl := (hkey key' token' htoken').symm.trans hdenom'
      rw [htoken] at htoken'
      exact ⟨rfl, (Option.some.inj htoken').symm⟩

/-! ### What keeps the denoms apart -/

/-- A token of XRPL is written, with a denom that no token of Cosmos has. -/
theorem Apart.saveXRPL (ha : Apart s) {key : String} {token : XRPLToken}
    (hsave : s.xrplTokens.save key token = some s'.xrplTokens) (hcosmos : s'.cosmosTokens = s.cosmosTokens)
    (hfree : ∀ (denom : String) (token' : CosmosToken), s.cosmosTokens.primary[denom]? = some token' →
      token.cosmosDenom ≠ token'.denom) : Apart s' := by
  intro key₁ denom token₁ token' h₁ h'
  rw [(IndexedMap.save_eq_some hsave).1] at h₁
  rw [hcosmos] at h'
  rcases getElem?_of_insert h₁ with ⟨-, rfl⟩ | ⟨-, hold⟩
  · exact hfree denom token' h'
  · exact ha key₁ denom token₁ token' hold h'

/-- A token of Cosmos is written, with a denom that no token of XRPL has. -/
theorem Apart.saveCosmos (ha : Apart s) {denom : String} {token' : CosmosToken}
    (hsave : s.cosmosTokens.save denom token' = some s'.cosmosTokens) (hxrpl : s'.xrplTokens = s.xrplTokens)
    (hfree : ∀ (key : String) (token : XRPLToken), s.xrplTokens.primary[key]? = some token →
      token.cosmosDenom ≠ token'.denom) : Apart s' := by
  intro key denom₁ token token₁ h h₁
  rw [(IndexedMap.save_eq_some hsave).1] at h₁
  rw [hxrpl] at h
  rcases getElem?_of_insert h₁ with ⟨-, rfl⟩ | ⟨-, hold⟩
  · exact hfree key token h
  · exact ha key denom₁ token token₁ h hold

theorem Apart.step {q : Querier} {funds : List Coin} {msg : ExecuteMsg} {ms : List SubMsg} (ha : Apart s)
    (hkey : ∀ (key : String) (token : CosmosToken), s.cosmosTokens.primary[key]? = some token → token.denom = key)
    (hc : TokenChange H s q funds msg s' ms) (hno : ¬ TakesDenom s msg) : Apart s' := by
  cases hc with
  | kept same =>
    intro key denom token token' h h'
    rw [show s'.xrplTokens = _ from congrArg Prod.fst same] at h
    rw [show s'.cosmosTokens = _ from congrArg Prod.snd same] at h'
    exact ha key denom token token' h h'
  | @registeredXRPL _ _ new _ _ _ _ _ _ _ _ _ _ hsave hcosmos _ hnew =>
    apply ha.saveXRPL hsave hcosmos
    intro denom token' h' hdenom
    have heq : new = denom := hdenom.trans (hkey denom token' h')
    rw [heq, h'] at hnew
    cases hnew
  | restated hr hsave hcosmos =>
    exact ha.saveXRPL hsave hcosmos fun denom token' h' hdenom => ha _ denom _ token' hr h' hdenom
  | updatedXRPL _ hr hname _ _ hsave hcosmos =>
    apply ha.saveXRPL hsave hcosmos
    intro denom token' h' hdenom
    have hsame := congrArg XRPLName.cosmosDenom hname
    exact ha _ denom _ token' hr h' (hsame.symm.trans hdenom)
  | registeredCosmos _ _ _ _ hsave hxrpl asked =>
    apply ha.saveCosmos hsave hxrpl
    intro key token h hdenom
    exact hno ⟨_, _, _, _, _, key, token, asked, h, hdenom⟩
  | updatedCosmos hr hname _ hsave hxrpl =>
    apply ha.saveCosmos hsave hxrpl
    intro key token h hdenom
    have hsame := congrArg CosmosName.denom hname
    exact ha key _ token _ h hr (hdenom.trans hsame)

theorem run_apart (h : Started H w) (calls : List Call)
    (hno : ∀ x ∈ history (step H) w calls, ¬ TakesDenom x.1.store x.2.msg) : Apart (run (step H) w calls).store := by
  refine run_invariant_of (I := fun w' : World => Apart w'.store) (p := fun x c => ¬ TakesDenom x.store c.msg)
    ?_ ?_ calls hno
  · obtain ⟨_, _, -, -, -, -, hs⟩ := started_eq h
    intro key denom token token' _ h'
    rw [hs] at h'
    simp [initialStorage, IndexedMap.empty] at h'
  · intro calls c w' r ha hno hstep
    exact ha.step (fun key token ht => run_cosmosKey h calls ht) (run_effect h hstep).tokenChange hno

/-- A registration under the denom of a token of XRPL makes a second token of this denom. -/
theorem not_apart_of_takesDenom {q : Querier} {env : BlockInfo} {sender : Addr} {funds : List Coin} {msg : ExecuteMsg}
    {ms : List SubMsg} (h : Effect H s q env sender funds msg s' ms) (ht : TakesDenom s msg) : ¬ Apart s' := by
  obtain ⟨denom, decimals, precision, maxHolding, bridgingFee, key, token, rfl, htoken, hdenom⟩ := ht
  cases h with
  | registeredCosmos _ _ hsave =>
    intro ha
    have hafter := (congrArg (fun m => m[denom]?) (IndexedMap.save_eq_some hsave).1).trans (getElem?_insert_self' ..)
    exact ha key denom token _ htoken hafter hdenom

/-- **One denom, one token**: in every state of a run the token found for a denom is the only one
of this denom, exactly if no call of the run registers a token of Cosmos under the denom of a token
of XRPL. -/
theorem oneToken_iff (h : Started H w) (calls : List Call) :
    (∀ pre, pre <+: calls → OneToken (run (step H) w pre).store) ↔
      ∀ x ∈ history (step H) w calls, ¬ TakesDenom x.1.store x.2.msg := by
  constructor
  · intro hone x hx htakes
    obtain ⟨pre, post, ⟨w', r⟩, rfl, hx₁, hstep⟩ := mem_history_iff.mp hx
    rw [hx₁] at hstep htakes
    have hafter := (hone (pre ++ [x.2]) ⟨post, by simp⟩).apart
    rw [run_snoc_ok hstep] at hafter
    exact not_apart_of_takesDenom (run_effect h hstep) htakes hafter
  · rintro hno pre ⟨post, rfl⟩
    have hapart := run_apart h pre fun x hx => hno x (mem_history_append hx post)
    exact hapart.oneToken fun key token ht => run_cosmosKey h pre ht

open Reference in
/-- A token of Cosmos under a denom of its own. -/
theorem oneToken_iff_cosmos :
    OneToken (run (step host) world₁ [call 1 owner (.registerCosmosToken "uatom" 6 6 (10 ^ 30) 0)]).store := by
  refine (oneToken_iff started_world₁ [_]).mpr (fun x hx => ?_) _ List.prefix_rfl
  obtain ⟨pre, post, _, hcalls, hx₁, -⟩ := mem_history_iff.mp hx
  rcases pre with _ | ⟨c, pre⟩
  · simp only [List.nil_append, List.cons.injEq] at hcalls
    rw [hx₁, ← hcalls.1]
    rintro ⟨denom, decimals, precision, maxHolding, bridgingFee, key, token, hmsg, htoken, hdenom⟩
    cases hmsg
    have hall : world₁.store.xrplTokens.primary.toList.all (fun e => e.2.cosmosDenom ≠ "uatom") = true := by
      decide +kernel
    have := List.all_eq_true.mp hall _ (ExtTreeMap.mem_toList_iff_getElem?_eq_some.mpr htoken)
    simp [hdenom] at this
  · simp at hcalls

open Reference in
/-- The owner registers the denom of XRP as a token of Cosmos. -/
theorem xrp_denom_taken :
    let calls := [call 1 owner (.registerCosmosToken xrpDenom 6 6 (10 ^ 30) 0)]
    ¬ OneToken (run (step host) world₁ calls).store ∧
      ((run (step host) world₁ calls).store.xrplTokens.item xrpDenom).isSome = true ∧
        (run (step host) world₁ calls).store.cosmosTokens.primary[xrpDenom]?.isSome = true := by
  intro calls
  have hxrpl : ((run (step host) world₁ calls).store.xrplTokens.item xrpDenom).isSome = true := by decide +kernel
  have hcosmos : (run (step host) world₁ calls).store.cosmosTokens.primary[xrpDenom]?.isSome = true := by
    decide +kernel
  refine ⟨fun hone => ?_, hxrpl, hcosmos⟩
  obtain ⟨⟨key, token⟩, hitem⟩ := Option.isSome_iff_exists.mp hxrpl
  obtain ⟨token', htoken'⟩ := Option.isSome_iff_exists.mp hcosmos
  have hdenom := run_cosmosKey started_world₁ calls htoken'
  exact (hone.xrpl xrpDenom key token hitem).2 xrpDenom token' htoken' hdenom

end XrplBridge
