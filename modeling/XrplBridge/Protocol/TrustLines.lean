import XrplBridge.Protocol.Operations
import XrplBridge.Reference

/-!
# Trust lines

The bridge can hold a token of XRPL once it has a trust line for it, which a TrustSet operation
sets up. `Lines` is what matters of that: the states of the registered tokens, and how many
TrustSets are pending for each. A token is processing exactly while one is (`Consistent`), which
every step keeps; `Effect.lines` shows that the calls of the contract are such steps.
-/

namespace XrplBridge

open Library Contract Std

/-- The key of the token that a TrustSet is about. -/
def Contract.OperationType.trustKey : OperationType → Option String
  | .trustSet issuer currency _ => some (buildXRPLTokenKey issuer currency)
  | _ => none

/-- The states of the tokens, and the number of TrustSets that are pending for each. -/
structure Lines where
  states : String → Option TokenState
  pending : String → ℕ

/-- The trust lines of the contract. -/
def Contract.Storage.lines (s : Storage) : Lines where
  states key := s.xrplTokens.primary[key]?.map XRPLToken.state
  pending key := count s.pendingOperations fun o => o.operationType.trustKey = some key

/-- What happens to a token. -/
inductive LineEvent where
  /-- It is registered. -/
  | registered
  /-- Its registration is recovered. -/
  | recovered
  /-- Its TrustSet ends. -/
  | ended (result : TransactionResult)
  /-- The owner updates it. -/
  | updated

/-- The token is there and ready. -/
def Contract.TokenState.settled : TokenState → Bool
  | .enabled | .disabled => true
  | _ => false

namespace Lines

/-- The state of a token is replaced. -/
def setState (g : Lines) (key : String) (state : TokenState) : Lines :=
  { g with states := fun a => if a = key then some state else g.states a }

/-- An operation is created; for a TrustSet, the key of its token is given. -/
def opened (g : Lines) (key : Option String) : Lines :=
  { g with pending := fun a => g.pending a + if key = some a then 1 else 0 }

/-- An operation is ended; for a TrustSet, the key of its token is given. -/
def closed (g : Lines) (key : Option String) : Lines :=
  { g with pending := fun a => g.pending a - if key = some a then 1 else 0 }

@[simp] theorem opened_none (g : Lines) : g.opened none = g := by simp [opened]

@[simp] theorem closed_none (g : Lines) : g.closed none = g := by simp [closed]

/-- One step: the token it is about, and what happens to it. -/
inductive Step (g : Lines) : Option (String × LineEvent) → Lines → Prop
  | kept : Step g none g
  | registered {key : String} (new : g.states key = none) :
      Step g (some (key, .registered)) ((g.setState key .processing).opened (some key))
  | recovered {key : String} (inactive : g.states key = some .inactive) :
      Step g (some (key, .recovered)) ((g.setState key .processing).opened (some key))
  | ended {key : String} {state : TokenState} {result : TransactionResult} (pending : 0 < g.pending key)
      (registered : g.states key = some state) :
      Step g (some (key, .ended result))
        ((g.setState key (if result = .accepted then .enabled else .inactive)).closed (some key))
  | updated {key : String} {state state' : TokenState} (registered : g.states key = some state)
      (allowed : state' = state ∨ state.settled = true ∧ state'.settled = true) :
      Step g (some (key, .updated)) (g.setState key state')

/-- A token is processing exactly while one TrustSet is pending for it. -/
def Consistent (g : Lines) : Prop :=
  ∀ key, g.pending key = (decide (g.states key = some .processing)).toNat

variable {g g' : Lines} {l : Option (String × LineEvent)}

theorem Consistent.step (h : g.Consistent) (hs : g.Step l g') : g'.Consistent := by
  cases hs with
  | kept => exact h
  | @registered key hnew =>
    intro a
    have ha := h a
    by_cases hk : a = key
    · subst hk
      rw [hnew] at ha
      simp [setState, opened, ha]
    · simpa [setState, opened, hk, Ne.symm hk] using ha
  | @recovered key hold =>
    intro a
    have ha := h a
    by_cases hk : a = key
    · subst hk
      rw [hold] at ha
      simp [setState, opened, ha]
    · simpa [setState, opened, hk, Ne.symm hk] using ha
  | @ended key _ result =>
    intro a
    have ha := h a
    by_cases hk : a = key
    · subst hk
      have hle := Bool.toNat_le (decide (g.states a = some .processing))
      have hstate : (if result = .accepted then TokenState.enabled else .inactive) ≠ .processing := by
        split_ifs <;> nofun
      simp only [setState, closed, if_true, Option.some.injEq, hstate, decide_false, Bool.toNat_false]
      omega
    · simpa [setState, closed, hk, Ne.symm hk] using ha
  | @updated key state state' hold hallowed =>
    intro a
    have ha := h a
    by_cases hk : a = key
    · subst hk
      rw [hold] at ha
      rcases hallowed with rfl | ⟨h₁, h₂⟩
      · simpa [setState] using ha
      · cases state <;> cases state' <;> simp_all [setState, TokenState.settled]
    · simpa [setState, hk] using ha

/-- What a step does to the state of a token. -/
theorem Step.state (hs : g.Step l g') (h : g.Consistent) {key : String} {state : TokenState}
    (hk : g.states key = some state) : ∃ state', g'.states key = some state' ∧
      (state' = state ∨
        (∃ result, l = some (key, .ended result) ∧ state = .processing ∧
          state' = if result = .accepted then .enabled else .inactive) ∨
        (l = some (key, .recovered) ∧ state = .inactive ∧ state' = .processing) ∨
        (l = some (key, .updated) ∧ state.settled = true ∧ state'.settled = true)) := by
  cases hs with
  | kept => exact ⟨state, hk, .inl rfl⟩
  | @registered a hnew =>
    by_cases ha : key = a
    · subst ha
      rw [hnew] at hk
      cases hk
    · exact ⟨state, by simpa [setState, opened, ha] using hk, .inl rfl⟩
  | @recovered a hold =>
    by_cases ha : key = a
    · subst ha
      rw [hold] at hk
      cases hk
      exact ⟨.processing, by simp [setState, opened], .inr (.inr (.inl ⟨rfl, rfl, rfl⟩))⟩
    · exact ⟨state, by simpa [setState, opened, ha] using hk, .inl rfl⟩
  | @ended a _ result hpos =>
    by_cases ha : key = a
    · subst ha
      refine ⟨_, by simp [setState, closed], .inr (.inl ⟨result, rfl, ?_, rfl⟩)⟩
      have hcount := h key
      rw [hk] at hcount
      by_contra hne
      simp only [Option.some.injEq, hne, decide_false, Bool.toNat_false] at hcount
      omega
    · exact ⟨state, by simpa [setState, closed, ha] using hk, .inl rfl⟩
  | @updated a old state' hold hallowed =>
    by_cases ha : key = a
    · subst ha
      rw [hold] at hk
      cases hk
      refine ⟨state', by simp [setState], ?_⟩
      exact hallowed.imp_right fun hset => .inr (.inr ⟨rfl, hset⟩)
    · exact ⟨state, by simpa [setState, ha] using hk, .inl rfl⟩

end Lines

/-! ### The contract's trust lines -/

section Frames

variable {H : Host} {s s' s₁ : Storage} {k timestamp : ℕ} {o : Operation} {operationType : OperationType}
  {key : String} {token token' : XRPLToken} {xrplTokens : XRPLTokens}

theorem lines_states (h : s.xrplTokens.primary[key]? = some token) : s.lines.states key = some token.state :=
  congrArg (Option.map XRPLToken.state) h

theorem lines_states_none (h : s.xrplTokens.primary[key]? = none) : s.lines.states key = none :=
  congrArg (Option.map XRPLToken.state) h

theorem lines_save (hsave : s.xrplTokens.save key token = some xrplTokens) :
    ({ s with xrplTokens } : Storage).lines = s.lines.setState key token.state := by
  have hstates : (fun a => xrplTokens.primary[a]?.map XRPLToken.state) =
      fun a => if a = key then some token.state else s.xrplTokens.primary[a]?.map XRPLToken.state := by
    funext a
    rw [(IndexedMap.save_eq_some hsave).1, ExtTreeMap.getElem?_insert]
    by_cases ha : a = key
    · simp [ha]
    · simp [ha, Ne.symm ha]
  simp only [Storage.lines, Lines.setState, hstates]

theorem lines_insert (hnew : s.pendingOperations[k]? = none) :
    ({ s with pendingOperations := s.pendingOperations.insert k o } : Storage).lines =
      s.lines.opened o.operationType.trustKey := by
  have hpending : (fun a => count (s.pendingOperations.insert k o) fun o => o.operationType.trustKey = some a) =
      fun a => (count s.pendingOperations fun o => o.operationType.trustKey = some a) +
        if o.operationType.trustKey = some a then 1 else 0 := by
    funext a
    rw [count_insert_new hnew]
    simp [Nat.add_comm]
  simp only [Storage.lines, Lines.opened, hpending]

theorem lines_erase (hold : s.pendingOperations[k]? = some o) :
    ({ s with pendingOperations := s.pendingOperations.erase k } : Storage).lines =
      s.lines.closed o.operationType.trustKey := by
  have hpending : (fun a => count (s.pendingOperations.erase k) fun o => o.operationType.trustKey = some a) =
      fun a => (count s.pendingOperations fun o => o.operationType.trustKey = some a) -
        if o.operationType.trustKey = some a then 1 else 0 := by
    funext a
    rw [count_erase hold]
    simp
  simp only [Storage.lines, Lines.closed, hpending]

/-- What replaces the operations without touching what they are about. -/
theorem lines_types {g : Operation → Operation} (hg : ∀ o, (g o).operationType = o.operationType) :
    ({ s with pendingOperations := s.pendingOperations.map fun _ o => g o } : Storage).lines = s.lines := by
  simp only [Storage.lines, count_map, hg]

theorem lines_signed (ho : s.pendingOperations[k]? = some o) {o' : Operation} (hty : o'.operationType = o.operationType) :
    ({ s with pendingOperations := s.pendingOperations.insert k o' } : Storage).lines = s.lines := by
  have hpending : ∀ a, count (s.pendingOperations.insert k o') (fun o => o.operationType.trustKey = some a) =
      count s.pendingOperations fun o => o.operationType.trustKey = some a := by
    intro a
    have := total_insert_old ho o' fun _ o => if decide (o.operationType.trustKey = some a) = true then 1 else 0
    simp only [count, hty] at this ⊢
    omega
  simp only [Storage.lines, hpending]

theorem Contract.Votes.lines {sender : Addr} {e : Evidence} {reached : Bool}
    (h : Votes H s sender e s' reached) : s'.lines = s.lines := by
  cases h <;> rfl

theorem handleFeeCollection_lines {bridgingFee remainder fee : ℕ} {denom : String}
    (h : handleFeeCollection s bridgingFee denom remainder = .ok (s', fee)) : s'.lines = s.lines := by
  obtain ⟨⟨_, _, rfl⟩, -⟩ := handleFeeCollection_eq_ok h
  rfl

theorem Contract.Opens.lines (h : Opens s timestamp operationType s') :
    s'.lines = s.lines.opened operationType.trustKey := by
  cases h with
  | intro _ _ hun => exact lines_insert hun

/-- A used ticket may start an allocation, which is no TrustSet. -/
theorem Contract.Registers.lines (h : Registers s timestamp s') : s'.lines = s.lines := by
  cases h with
  | counted => rfl
  | exhausted => rfl
  | allocating _ _ _ _ hun => exact (lines_insert hun).trans (Lines.opened_none _)

theorem endOperation_lines {result : TransactionResult} {ticket : Option ℕ}
    (hold : s.pendingOperations[k]? = some o) :
    (endOperation s result k ticket).lines = s.lines.closed o.operationType.trustKey := by
  obtain ⟨_, hend⟩ := endOperation_frame s result k ticket
  rw [← lines_erase hold, hend]
  rfl

theorem Contract.Settles.lines {env : BlockInfo} {e : ResultEvidence} (h : Settles s env e k s')
    (hold : s.pendingOperations[k]? = some o) : s'.lines = s.lines.closed o.operationType.trustKey := by
  cases h with
  | registered _ _ hr => rw [hr.lines, endOperation_lines hold]
  | unregistered => exact endOperation_lines hold

/-- What a call does to the trust lines: the token, and what happens to it. -/
def lineEvent (H : Host) (s : Storage) : ExecuteMsg → Option (String × LineEvent)
  | .registerXRPLToken issuer currency _ _ _ => some (buildXRPLTokenKey issuer currency, .registered)
  | .recoverXRPLTokenRegistration issuer currency => some (buildXRPLTokenKey issuer currency, .recovered)
  | .updateXRPLToken issuer currency _ => some (buildXRPLTokenKey issuer currency, .updated)
  | msg => (ended H s msg).bind fun x => x.2.1.operationType.trustKey.map fun key => (key, .ended x.2.2)

theorem lineEvent_ended {msg : ExecuteMsg} {result : TransactionResult} (h : ended H s msg = some (k, o, result)) :
    lineEvent H s msg = o.operationType.trustKey.map fun key => (key, .ended result) := by
  unfold lineEvent
  split
  · cases h
  · cases h
  · cases h
  · rw [h]
    rfl

/-- The end of an operation, of a TrustSet or not. -/
theorem Contract.Handled.lines {operationResult : Option OperationResult} {result : TransactionResult}
    {txHash : Option String} {tokenFactoryAddr burnAddr : Addr} {msgs : List CosmosMsg}
    (h : Handled s o operationResult result txHash tokenFactoryAddr burnAddr s₁ msgs)
    (hold : s.pendingOperations[k]? = some o) :
    s.lines.Step (o.operationType.trustKey.map fun key => (key, .ended result))
      (s₁.lines.closed o.operationType.trustKey) := by
  have hsame : s₁.lines = s.lines → o.operationType.trustKey = none →
      s.lines.Step (o.operationType.trustKey.map fun key => (key, .ended result))
        (s₁.lines.closed o.operationType.trustKey) := fun h₁ h₂ => by
    rw [h₁, h₂, Lines.closed_none]
    exact .kept
  cases h with
  | allocated ht => exact hsame rfl (by rw [ht]; rfl)
  | notAllocated ht => exact hsame rfl (by rw [ht]; rfl)
  | @trustSet issuer currency _ _ _ ht hr hsave =>
    rw [lines_save hsave, ht]
    refine .ended ?_ (lines_states hr)
    apply Nat.pos_of_ne_zero
    intro hzero
    simp only [Storage.lines, count_eq_zero] at hzero
    have hno := hzero k o hold
    rw [ht] at hno
    simp [OperationType.trustKey] at hno
  | rotated ht => exact hsame rfl (by rw [ht]; rfl)
  | notRotated ht => exact hsame rfl (by rw [ht]; rfl)
  | burnt ht => exact hsame rfl (by rw [ht]; rfl)
  | refunded ht => exact hsame rfl (by rw [ht]; rfl)
  | escrowed ht => exact hsame rfl (by rw [ht]; rfl)
  | released ht => exact hsame rfl (by rw [ht]; rfl)

theorem setTokenState_eq_ok {state state' : TokenState} {target : Option TokenState}
    (h : setTokenState state target = .ok state') :
    state' = state ∨ state.settled = true ∧ state'.settled = true := by
  cases target with
  | none =>
    cases h
    exact .inl rfl
  | some target =>
    simp only [setTokenState, bind_eq_ok, failIf_eq_ok, pure_eq_ok] at h
    obtain ⟨_, hold, _, hnew, rfl⟩ := h
    refine .inr ⟨?_, ?_⟩
    · cases state <;> simp_all [TokenState.settled]
    · cases target <;> simp_all [TokenState.settled]

/-- **The calls of the contract are steps of the trust lines.** -/
theorem Contract.Effect.lines {q : Querier} {env : BlockInfo} {sender : Addr} {funds : List Coin}
    {msg : ExecuteMsg} {ms : List SubMsg} (h : Effect H s q env sender funds msg s' ms) :
    s.lines.Step (lineEvent H s msg) s'.lines := by
  have hkept : ∀ {msg}, s'.lines = s.lines → lineEvent H s msg = none → s.lines.Step (lineEvent H s msg) s'.lines :=
    fun h₁ h₂ => by rw [h₁, h₂]; exact .kept
  cases h with
  | voted _ hv => exact hkept hv.lines (by simp [lineEvent, ended_of_not_reaches hv.reaches])
  | receivedXRPL _ hv _ _ _ hc => exact hkept ((handleFeeCollection_lines hc).trans hv.lines) rfl
  | receivedCosmos _ hv _ _ _ hc => exact hkept ((handleFeeCollection_lines hc).trans hv.lines) rfl
  | completed _ _ hv hid ho _ hh hset =>
    have ho₁ := hv.pendingOperations ▸ ho
    rw [hset.lines (hh.pendingOperations ▸ ho₁), ← hv.lines]
    rw [lineEvent_ended (ended_of_reaches hv.reaches hid ho)]
    exact hh.lines ho₁
  | cancelled ho hh =>
    rw [endOperation_lines (hh.pendingOperations ▸ ho), lineEvent_ended (ended_cancelled ho)]
    exact hh.lines ho
  | sentXRPL _ _ _ hc ho => exact hkept (by rw [ho.lines, handleFeeCollection_lines hc]; exact Lines.opened_none _) rfl
  | sentCosmos _ _ _ _ _ _ hc ho =>
    exact hkept (by rw [ho.lines, handleFeeCollection_lines hc]; exact Lines.opened_none _) rfl
  | registeredXRPL _ _ hnew _ hsave ho =>
    rw [ho.lines, lines_save hsave]
    exact .registered (lines_states_none hnew)
  | recoveredXRPL hr hsave ho hin =>
    rw [ho.lines, lines_save hsave]
    exact .recovered (by rw [lines_states hr, hin])
  | rotating _ _ ho => exact hkept (by rw [ho.lines]; exact Lines.opened_none _) rfl
  | recovering _ _ _ _ hun =>
    exact hkept ((lines_insert (s := { s with pendingTicketUpdate := true }) hun).trans (Lines.opened_none _)) rfl
  | signed ho => exact hkept (lines_signed ho rfl) rfl
  | repriced =>
    exact hkept (lines_types (s := s) fun o => rfl) rfl
  | updatedXRPL hr _ hsave _ hst =>
    rw [lines_save hsave]
    exact .updated (lines_states hr) (setTokenState_eq_ok hst)
  | claimedFees _ ht =>
    obtain ⟨⟨_, rfl⟩, -⟩ := substractRelayerFees_eq_ok ht
    exact hkept rfl rfl
  | _ => exact hkept rfl rfl

end Frames

/-! ### In every run -/

/-- A TrustSet is pending for a token, under a number. -/
def Contract.Storage.Trusts (s : Storage) (key : String) (k : ℕ) : Prop :=
  ∃ o, s.pendingOperations[k]? = some o ∧ o.operationType.trustKey = some key

/-- How a call may change the state of a token. -/
inductive Moves (H : Host) (s : Storage) (msg : ExecuteMsg) (s' : Storage) (key : String) :
    TokenState → TokenState → Prop
  | stays {state : TokenState} : Moves H s msg s' key state state
  | accepted {k : ℕ} {o : Operation} (ends : ended H s msg = some (k, o, .accepted))
      (trust : o.operationType.trustKey = some key) : Moves H s msg s' key .processing .enabled
  | failed {k : ℕ} {o : Operation} {result : TransactionResult} (ends : ended H s msg = some (k, o, result))
      (trust : o.operationType.trustKey = some key) (notAccepted : result ≠ .accepted) :
      Moves H s msg s' key .processing .inactive
  | recovered {issuer currency : String} (names : key = buildXRPLTokenKey issuer currency)
      (asked : msg = .recoverXRPLTokenRegistration issuer currency) (before : ∀ k, ¬ s.Trusts key k)
      (after : ∃! k, s'.Trusts key k) : Moves H s msg s' key .inactive .processing
  | updated {issuer currency : String} {update : TokenUpdate} {state state' : TokenState}
      (names : key = buildXRPLTokenKey issuer currency) (asked : msg = .updateXRPLToken issuer currency update)
      (before : state.settled = true) (after : state'.settled = true) : Moves H s msg s' key state state'

variable {H : Host} {s s' : Storage} {key : String} {token : XRPLToken} {w w' : World}

theorem lineEvent_eq_ended {msg : ExecuteMsg} {result : TransactionResult}
    (h : lineEvent H s msg = some (key, .ended result)) :
    ∃ k o, ended H s msg = some (k, o, result) ∧ o.operationType.trustKey = some key := by
  unfold lineEvent at h
  split at h
  · cases h
  · cases h
  · cases h
  · obtain ⟨⟨k, o, result'⟩, he, hx⟩ := Option.bind_eq_some_iff.mp h
    obtain ⟨key', hkey, heq⟩ := Option.map_eq_some_iff.mp hx
    cases heq
    exact ⟨k, o, he, hkey⟩

theorem lineEvent_eq_recovered {msg : ExecuteMsg} (h : lineEvent H s msg = some (key, .recovered)) :
    ∃ issuer currency, key = buildXRPLTokenKey issuer currency ∧ msg = .recoverXRPLTokenRegistration issuer currency := by
  unfold lineEvent at h
  split at h
  · cases h
  · cases h
    exact ⟨_, _, rfl, rfl⟩
  · cases h
  · obtain ⟨_, -, hx⟩ := Option.bind_eq_some_iff.mp h
    obtain ⟨_, -, heq⟩ := Option.map_eq_some_iff.mp hx
    cases heq

theorem lineEvent_eq_updated {msg : ExecuteMsg} (h : lineEvent H s msg = some (key, .updated)) :
    ∃ issuer currency update, key = buildXRPLTokenKey issuer currency ∧
      msg = .updateXRPLToken issuer currency update := by
  unfold lineEvent at h
  split at h
  · cases h
  · cases h
  · cases h
    exact ⟨_, _, _, rfl, rfl⟩
  · obtain ⟨_, -, hx⟩ := Option.bind_eq_some_iff.mp h
    obtain ⟨_, -, heq⟩ := Option.map_eq_some_iff.mp hx
    cases heq

/-- The number of TrustSets, as the operations themselves. -/
theorem Lines.Consistent.trusts (h : s.lines.Consistent) (key : String) :
    (s.lines.states key = some .processing ↔ ∃! k, s.Trusts key k) ∧
      (s.lines.states key ≠ some .processing ↔ ∀ k, ¬ s.Trusts key k) := by
  have hkey : (count s.pendingOperations fun o => o.operationType.trustKey = some key) =
      (decide (s.lines.states key = some .processing)).toNat := h key
  have hcount := count_eq_toNat hkey
  simp only [decide_eq_true_eq, decide_eq_false_iff_not] at hcount
  refine ⟨hcount.1, hcount.2.trans ?_⟩
  simp only [Storage.Trusts, not_exists, not_and]

theorem run_lines (h : Started H w) (calls : List Call) : (run (step H) w calls).store.lines.Consistent := by
  refine run_storage (P := fun s => s.lines.Consistent) h ?_ (fun hs he => hs.step he.lines) calls
  obtain ⟨msg, m, -, -, -, hm, hs⟩ := started_eq h
  intro key
  rw [hs]
  simp only [Storage.lines, initialStorage, count_empty, (IndexedMap.save_eq_some hm).1]
  symm
  rw [Bool.toNat_eq_zero, decide_eq_false_iff_not, Option.map_eq_some_iff]
  rintro ⟨token, htoken, hstate⟩
  rcases getElem?_of_insert htoken with ⟨-, rfl⟩ | ⟨-, hnone⟩
  · cases hstate
  · simp [IndexedMap.empty] at hnone

/-- **The trust lines of the tokens of XRPL**, in every run: a token is processing exactly while
one TrustSet is pending for it, every pending TrustSet is for a token that is processing, and a
call keeps every token and changes its state only as `Moves` says. -/
theorem trustLines (h : Started H w) (calls : List Call) :
    (∀ (key : String) (token : XRPLToken), (run (step H) w calls).store.xrplTokens.primary[key]? = some token →
        (token.state = .processing ↔ ∃! k, (run (step H) w calls).store.Trusts key k)) ∧
      (∀ (k : ℕ) (o : Operation) (issuer currency : String) (limit : ℕ), (run (step H) w calls).store.pendingOperations[k]? = some o →
        o.operationType = .trustSet issuer currency limit →
          ∃ token, (run (step H) w calls).store.xrplTokens.primary[buildXRPLTokenKey issuer currency]? = some token ∧
            token.state = .processing) ∧
      ∀ c w' r, step H (run (step H) w calls) c = .ok (w', r) →
        ∀ (key : String) (token : XRPLToken), (run (step H) w calls).store.xrplTokens.primary[key]? = some token →
          ∃ token', w'.store.xrplTokens.primary[key]? = some token' ∧
            Moves H (run (step H) w calls).store c.msg w'.store key token.state token'.state := by
  have hlines := run_lines h calls
  refine ⟨fun key token ht => ?_, fun k o issuer currency limit ho hty => ?_, fun c w' r hstep key token ht => ?_⟩
  · rw [← (hlines.trusts key).1, lines_states ht, Option.some.injEq]
  · by_contra hno
    refine (hlines.trusts _).2.mp (fun hst => hno ?_) k ⟨o, ho, by rw [hty]; rfl⟩
    obtain ⟨token, ht, hstate⟩ := Option.map_eq_some_iff.mp hst
    exact ⟨token, ht, hstate⟩
  · have hstep' := (run_effect h hstep).lines
    have hlines' := hlines.step hstep'
    obtain ⟨state', hstate', hmoves⟩ := hstep'.state hlines (lines_states ht)
    obtain ⟨token', ht', rfl⟩ := Option.map_eq_some_iff.mp hstate'
    refine ⟨token', ht', ?_⟩
    rcases hmoves with heq | ⟨result, hl, hold, hnew⟩ | ⟨hl, hold, hnew⟩ | ⟨hl, hold, hnew⟩
    · rw [heq]
      exact .stays
    · obtain ⟨k, o, hends, htrust⟩ := lineEvent_eq_ended hl
      rw [hold, hnew]
      split_ifs with hacc
      · subst hacc
        exact .accepted hends htrust
      · exact .failed hends htrust hacc
    · obtain ⟨issuer, currency, hnames, hasked⟩ := lineEvent_eq_recovered hl
      have hbefore := (hlines.trusts key).2.mp (by rw [lines_states ht, hold]; nofun)
      have hafter := (hlines'.trusts key).1.mp (by rw [lines_states ht', hnew])
      rw [hold, hnew]
      exact .recovered hnames hasked hbefore hafter
    · obtain ⟨issuer, currency, update, hnames, hasked⟩ := lineEvent_eq_updated hl
      exact .updated hnames hasked hold hnew

open Reference in
/-- A token that has just been registered has one TrustSet pending. -/
theorem trustLines_registered : ∃! k,
    (run (step host) world₁ [recover, vote 2 relayer₁ allocation, register 3 "USD" 15]).store.Trusts
      (buildXRPLTokenKey relayer₁.xrplAddress "USD") k := by
  obtain ⟨token, ht, hstate⟩ : ∃ token, (run (step host) world₁
      [recover, vote 2 relayer₁ allocation, register 3 "USD" 15]).store.xrplTokens.primary[buildXRPLTokenKey
        relayer₁.xrplAddress "USD"]? = some token ∧ token.state = .processing := by
    rw [← Option.map_eq_some_iff]
    decide +kernel
  exact ((trustLines started_world₁ _).1 _ token ht).mp hstate

end XrplBridge
