import XrplBridge.Contract.Effect

/-!
# The contract on its chain

A world is the contract's storage and the bank as far as the contract is concerned: what
it holds of each denom, and each denom's supply. A call credits the attached funds,
executes the contract and dispatches the messages it emits, in order; if anything fails,
the call is reverted as a whole. Any list of calls, by any senders and at any times, is
then a run (`Library.run`).

A message to another contract succeeds or fails as that contract likes (`accepts`);
minting and burning change the supply, and coins are sent and burnt only where they are
held.
-/

namespace XrplBridge

open Library Contract

/-! ### The bank -/

/-- The bank. -/
structure Bank where
  /-- What the contract holds of a denom. -/
  held : String → ℕ
  /-- The supply of a denom. -/
  supply : String → ℕ

namespace Bank

/-- The bank, as the contract queries it. -/
def querier (b : Bank) : Querier := ⟨b.held, b.supply⟩

/-- Coins for the contract. -/
def credit (b : Bank) (coins : List Coin) : Bank :=
  { b with held := fun denom => b.held denom + coinsOf denom coins }

/-- Coins from the contract, which has to hold them. -/
def debit (b : Bank) (coins : List Coin) : Option Bank :=
  if ∀ c ∈ coins, coinsOf c.denom coins ≤ b.held c.denom then
    some { b with held := fun denom => b.held denom - coinsOf denom coins }
  else none

/-- New coins, for the contract or for someone else. -/
def mint (b : Bank) (denom : String) (amount : ℕ) (forContract : Bool) : Bank where
  held d := b.held d + if d = denom ∧ forContract = true then amount else 0
  supply d := b.supply d + if d = denom then amount else 0

/-- Coins taken out of the supply, from the contract or from someone else. -/
def burn (b : Bank) (denom : String) (amount : ℕ) (fromContract : Bool) : Option Bank :=
  if amount ≤ b.supply denom ∧ (fromContract = true → amount ≤ b.held denom) then
    some
      { held := fun d => b.held d - if d = denom ∧ fromContract = true then amount else 0
        supply := fun d => b.supply d - if d = denom then amount else 0 }
  else none

end Bank

variable (H : Host)

/-- One message: what it does to the bank, none if it fails. -/
def deliver (accepts : CosmosMsg → Bool) (b : Bank) (m : CosmosMsg) : Option Bank :=
  if accepts m then
    match m with
    | .bankSend toAddress coins => do
      let b ← b.debit coins
      pure (if toAddress = H.contract then b.credit coins else b)
    | .wasmExecute _ (.tokenFactory (.mintTokens denom amount mintTo)) funds => do
      let b ← b.debit funds
      pure (b.mint denom amount (mintTo = H.contract))
    | .wasmExecute _ (.tokenFactory (.burnTokens denom amount burnFrom)) funds => do
      let b ← b.debit funds
      b.burn denom amount (burnFrom = H.contract)
    | .wasmExecute _ _ funds => b.debit funds
  else none

/-- Messages in order. -/
def deliverAll (accepts : CosmosMsg → Bool) (b : Bank) (ms : List SubMsg) : Option Bank :=
  ms.foldlM (fun b m => deliver H accepts b m.msg) b

/-- A world. -/
structure World where
  store : Storage
  bank : Bank

/-- The messages of a response, in order: one that fails fails the call, unless it asks
for a reply; the messages of a reply ask for none. -/
def dispatch (accepts : CosmosMsg → Bool) (w : World) : List SubMsg → Except Failure World
  | [] => .ok w
  | m :: ms =>
    match deliver H accepts w.bank m.msg, m.replyOnError with
    | some bank, _ => dispatch accepts { w with bank } ms
    | none, none => .error .submessage
    | none, some id => do
      let (store, response) ← reply w.store id "submessage"
      match deliverAll H accepts w.bank response.messages with
      | some bank => dispatch accepts ⟨store, bank⟩ ms
      | none => .error .submessage

/-- A call of `execute`. -/
structure Call where
  env : BlockInfo
  sender : Addr
  funds : List Coin
  msg : ExecuteMsg
  /-- Which messages the contracts they go to accept. -/
  accepts : CosmosMsg → Bool

/-- One call. -/
def step (w : World) (c : Call) : Except Failure (World × Response) := do
  let bank := w.bank.credit c.funds
  let (store, response) ← execute H w.store bank.querier c.env c.sender c.funds c.msg
  let w ← dispatch H c.accepts ⟨store, bank⟩ response.messages
  pure (w, response)

/-- A world right after a successful `instantiate`. -/
def Started (w : World) : Prop :=
  ∃ sender funds msg response, instantiate H sender funds msg = .ok (w.store, response)

/-! ### What a call does to the world -/

variable {H} {accepts : CosmosMsg → Bool} {w w' : World} {c : Call} {r : Response}

/-- Without swap data, a failed message with a reply fails the call as well. -/
theorem dispatch_eq_ok {ms : List SubMsg} (hs : w.store.tempUniversalSwap = none)
    (h : dispatch H accepts w ms = .ok w') :
    w'.store = w.store ∧ deliverAll H accepts w.bank ms = some w'.bank := by
  induction ms generalizing w with
  | nil => cases h; exact ⟨rfl, rfl⟩
  | cons m ms ih =>
    rw [dispatch] at h
    split at h
    · rename_i bank hb
      obtain ⟨hst, hall⟩ := ih (by exact hs) h
      refine ⟨hst, ?_⟩
      rw [deliverAll, List.foldlM_cons, hb]
      exact hall
    · cases h
    · simp only [bind_eq_ok, reply] at h
      obtain ⟨_, hr, -⟩ := h
      split_ifs at hr
      · simp only [bind_eq_ok, orFail_eq_ok, hs] at hr
        obtain ⟨_, hd, -⟩ := hr
        cases hd
      · simp at hr

/-- A successful call: the contract's new storage, and the bank after the messages. -/
theorem step_eq_ok (hs : w.store.tempUniversalSwap = none) (h : step H w c = .ok (w', r)) :
    Effect H w.store (w.bank.credit c.funds).querier c.env c.sender c.funds c.msg w'.store r.messages ∧
      deliverAll H c.accepts (w.bank.credit c.funds) r.messages = some w'.bank := by
  simp only [step, bind_eq_ok, pure_eq_ok, Prod.mk.injEq] at h
  obtain ⟨⟨s, r₁⟩, hx, w₁, hd, rfl, rfl⟩ := h
  have he := effect_of_execute hx
  obtain ⟨hst, hall⟩ := dispatch_eq_ok ((congrArg Prod.fst he.fixed).trans hs) hd
  rw [hst]
  exact ⟨he, hall⟩

/-- What a call executes. -/
theorem execute_of_step {c : Call} {w' : World} {r : Response} (hs : w.store.tempUniversalSwap = none)
    (h : step H w c = .ok (w', r)) :
    execute H w.store (w.bank.credit c.funds).querier c.env c.sender c.funds c.msg = .ok (w'.store, r) := by
  simp only [step, bind_eq_ok, pure_eq_ok, Prod.mk.injEq] at h
  obtain ⟨⟨s, r₁⟩, hx, w₁, hd, rfl, rfl⟩ := h
  have hfixed := (effect_of_execute hx).fixed
  rw [(dispatch_eq_ok ((congrArg Prod.fst hfixed).trans hs) hd).1]
  exact hx

/-! ### Runs -/

/-- What `instantiate` establishes. -/
theorem instantiate_eq_ok {sender : Addr} {funds : List Coin} {msg : InstantiateMsg} {s : Storage}
    (h : instantiate H sender funds msg = .ok (s, r)) :
    ∃ xrplTokens, ValidRelayers msg.relayers msg.evidenceThreshold ∧
      validateXRPLAddressFormat H msg.bridgeXRPLAddress = .ok () ∧
      (2 ≤ msg.usedTicketSequenceThreshold ∧ msg.usedTicketSequenceThreshold ≤ maxTickets) ∧
      IndexedMap.empty.save (buildXRPLTokenKey xrpIssuer xrpCurrency) (xrpToken msg.tokenFactoryAddr) =
        some xrplTokens ∧ s = initialStorage msg xrplTokens := by
  simp only [instantiate, bind_eq_ok, failIf_eq_ok, orUniqueConstraint, orFail_eq_ok, not_or, pure_eq_ok,
    Prod.mk.injEq] at h
  obtain ⟨_, -, _, hrel, _, haddr, _, ⟨hlo, hhi⟩, _, -, m, hm, hs, -⟩ := h
  exact ⟨m, validRelayers_of_ok H hrel, haddr, ⟨by omega, by omega⟩, hm, hs.symm⟩

theorem started_eq (h : Started H w) :
    ∃ (msg : InstantiateMsg) (xrplTokens : XRPLTokens), ValidRelayers msg.relayers msg.evidenceThreshold ∧
      validateXRPLAddressFormat H msg.bridgeXRPLAddress = .ok () ∧
      (2 ≤ msg.usedTicketSequenceThreshold ∧ msg.usedTicketSequenceThreshold ≤ maxTickets) ∧
      IndexedMap.empty.save (buildXRPLTokenKey xrpIssuer xrpCurrency) (xrpToken msg.tokenFactoryAddr) =
        some xrplTokens ∧ w.store = initialStorage msg xrplTokens := by
  obtain ⟨sender, funds, msg, r, h⟩ := h
  exact ⟨msg, instantiate_eq_ok h⟩

theorem started_tempUniversalSwap (h : Started H w) : w.store.tempUniversalSwap = none := by
  obtain ⟨_, _, -, -, -, -, hs⟩ := started_eq h
  rw [hs]
  rfl

/-- In a run, swap data is never there. -/
theorem run_tempUniversalSwap (h : Started H w) (calls : List Call) :
    (run (step H) w calls).store.tempUniversalSwap = none := by
  refine run_invariant (I := fun w : World => w.store.tempUniversalSwap = none) ?_ (started_tempUniversalSwap h) calls
  intro w c w' r hs hstep
  exact (congrArg Prod.fst (step_eq_ok hs hstep).1.fixed).trans hs

/-- **The invariant rule for the storage**: what holds right after `instantiate` and is
kept by every case of `Effect` holds in every world a run reaches. -/
theorem run_storage {P : Storage → Prop} (h : Started H w) (hinit : P w.store)
    (hstep : ∀ {s s' q env sender funds msg ms}, P s → Effect H s q env sender funds msg s' ms → P s')
    (calls : List Call) : P (run (step H) w calls).store := by
  refine (run_invariant (I := fun w : World => w.store.tempUniversalSwap = none ∧ P w.store) ?_
    ⟨started_tempUniversalSwap h, hinit⟩ calls).2
  rintro w c w' r ⟨hs, hp⟩ hw
  have he := (step_eq_ok hs hw).1
  exact ⟨(congrArg Prod.fst he.fixed).trans hs, hstep hp he⟩

/-- The invariant rule from a later point of a run on. -/
theorem run_later {P : Storage → Prop} (h : Started H w) (calls : List Call) (hp : P (run (step H) w calls).store)
    (hstep : ∀ {s s' q env sender funds msg ms}, P s → Effect H s q env sender funds msg s' ms → P s')
    (later : List Call) : P (run (step H) w (calls ++ later)).store := by
  rw [run_append]
  refine (run_invariant (I := fun w : World => w.store.tempUniversalSwap = none ∧ P w.store) ?_
    ⟨run_tempUniversalSwap h calls, hp⟩ later).2
  rintro w c w' r ⟨hs, hp⟩ hw
  have he := (step_eq_ok hs hw).1
  exact ⟨(congrArg Prod.fst he.fixed).trans hs, hstep hp he⟩

/-- The messages of a call, if it goes through. -/
def messagesOf (H : Host) (w : World) (c : Call) : List SubMsg :=
  match step H w c with
  | .ok (_, r) => r.messages
  | .error _ => []

/-- The messages of a run. -/
def emitted (H : Host) (w : World) (calls : List Call) : List SubMsg :=
  (history (step H) w calls).flatMap fun x => messagesOf H x.1 x.2

theorem messagesOf_ok (h : step H w c = .ok (w', r)) : messagesOf H w c = r.messages := by
  rw [messagesOf, h]

theorem emitted_cons (H : Host) (w : World) (c : Call) (calls : List Call) :
    emitted H w (c :: calls) = messagesOf H w c ++ emitted H (commit (step H) w c) calls := by
  unfold emitted messagesOf
  rw [history, commit]
  cases h : step H w c with
  | ok r => simp [h]
  | error e => rfl

theorem emitted_snoc_ok {calls : List Call} (h : step H (run (step H) w calls) c = .ok (w', r)) :
    emitted H w (calls ++ [c]) = emitted H w calls ++ r.messages := by
  simp [emitted, history_snoc_ok h, messagesOf_ok h]

theorem emitted_snoc_error {calls : List Call} {e : Failure} (h : step H (run (step H) w calls) c = .error e) :
    emitted H w (calls ++ [c]) = emitted H w calls := by
  rw [emitted, history_snoc_error h, emitted]

/-- A call of a run that goes through, as a case of `Effect`. -/
theorem run_effect (h : Started H w) {calls : List Call} (hstep : step H (run (step H) w calls) c = .ok (w', r)) :
    Effect H (run (step H) w calls).store ((run (step H) w calls).bank.credit c.funds).querier c.env c.sender
      c.funds c.msg w'.store r.messages :=
  (step_eq_ok (run_tempUniversalSwap h calls) hstep).1

end XrplBridge
