import XrplBridge.Protocol.FeeLedger

/-!
# Fair shares

Fees come in one transfer at a time, and each is split on its own: what does not divide among the
relayers waits for the next one. Does it matter how the fees were cut? A relayer has earned what it
holds and what it has claimed (`claimedBy`). As long as the relayers stay the same, every relayer
earns the quotient of all that came in, as if it had come in at once, and the remainder is what is
kept (`Shared`, kept by one call after the other).

`relayers_share` is the result: nobody earns more than another relayer, a claim is taken from
whoever makes it, and an address that is no relayer any more keeps what it has.
-/

namespace XrplBridge

open Library Contract Std

/-- What a call collects or claims, with who makes it. -/
def feeEntries (H : Host) (w : World) (calls : List Call) : List (Addr × FeeEvent) :=
  labels (step H) (fun w c => (feeEvent H w.store c.funds c.msg).map fun event => (c.sender, event)) w calls

/-- What comes in of a denom. -/
def comesIn (entries : List (Addr × FeeEvent)) (D : String) : ℕ := (entries.map fun x => x.2.adds D).sum

/-- What someone claims of a denom. -/
def claimedBy (entries : List (Addr × FeeEvent)) (a : Addr) (D : String) : ℕ :=
  (entries.map fun x => if x.1 = a then x.2.takes D else 0).sum

section Entries

variable {entries : List (Addr × FeeEvent)} {sender : Addr} {event : FeeEvent} {a : Addr} {D : String}

@[simp] theorem comesIn_nil : comesIn [] D = 0 := rfl

@[simp] theorem claimedBy_nil : claimedBy [] a D = 0 := rfl

@[simp] theorem comesIn_snoc : comesIn (entries ++ [(sender, event)]) D = comesIn entries D + event.adds D := by
  simp [comesIn]

@[simp] theorem claimedBy_snoc : claimedBy (entries ++ [(sender, event)]) a D =
    claimedBy entries a D + if sender = a then event.takes D else 0 := by
  simp [claimedBy]

end Entries

namespace FeeBooks

/-- What is kept of a denom for the next fee. -/
def remainder (g : FeeBooks) (D : String) : ℕ := g.remainders[D]?.getD 0

/-- Someone claims coins: they are taken from nobody else. -/
structure Claim (g : FeeBooks) (sender : Addr) (amounts : List Coin) (g' : FeeBooks) : Prop where
  relayers : g'.relayers = g.relayers
  remainders : g'.remainders = g.remainders
  taken : ∀ a D, g'.of a D + (if sender = a then coinsOf D amounts else 0) = g.of a D

/-- What has come in since `g₀` is shared: every relayer has earned the same, and the rest is kept. -/
structure Shared (g₀ : FeeBooks) (entries : List (Addr × FeeEvent)) (g : FeeBooks) : Prop where
  shares : ∀ D, ∃ share, g₀.relayers.length * share + g.remainder D = g₀.remainder D + comesIn entries D ∧
    ∀ a, g.of a D + claimedBy entries a D = g₀.of a D + if a ∈ g₀.relayers then share else 0
  below : ∀ D, g₀.remainder D < g₀.relayers.length ∨ 0 < comesIn entries D → g.remainder D < g₀.relayers.length

variable {g₀ g g' : FeeBooks} {entries : List (Addr × FeeEvent)} {sender : Addr}

theorem Shared.refl (g : FeeBooks) : Shared g [] g where
  shares D := ⟨0, by simp, by simp⟩
  below D h := by
    rcases h with h | h
    · exact h
    · simp at h

/-- A fee goes to the relayers of the moment. -/
theorem Shared.split {fee : Coin} (h : Shared g₀ entries g) (hrelayers : g.relayers = g₀.relayers)
    (hs : g.Split fee g') : Shared g₀ (entries ++ [(sender, .collected fee)]) g' := by
  refine ⟨fun D => ?_, fun D hD => ?_⟩
  · obtain ⟨share, hsum, hof⟩ := h.shares D
    by_cases hdenom : D = fee.denom
    · subst hdenom
      refine ⟨share + g.pot fee / g.relayers.length, ?_, fun a => ?_⟩
      · have hdiv := Nat.div_add_mod (g.pot fee) g₀.relayers.length
        have hpot : g.pot fee = fee.amount + g.remainder fee.denom := rfl
        rw [remainder, hs.remainder, getElem?_insert_self', Option.getD_some, comesIn_snoc, FeeEvent.adds,
          if_pos rfl, Nat.mul_add, hrelayers]
        omega
      · have hofa := hof a
        rw [claimedBy_snoc, FeeEvent.takes, ite_self, Nat.add_zero]
        by_cases ha : a ∈ g₀.relayers
        · rw [if_pos ha] at hofa
          rw [hs.credited a (hrelayers ▸ ha), if_pos ha]
          omega
        · have hsame : g'.of a fee.denom = g.of a fee.denom := by rw [of, of, hs.others a (hrelayers ▸ ha)]
          rw [if_neg ha] at hofa
          rw [hsame, if_neg ha, hofa]
    · refine ⟨share, ?_, fun a => ?_⟩
      · rw [remainder, hs.remainder, getElem?_insert_ne (Ne.symm hdenom), comesIn_snoc, FeeEvent.adds,
          if_neg (Ne.symm hdenom), Nat.add_zero]
        exact hsum
      · rw [claimedBy_snoc, FeeEvent.takes, ite_self, Nat.add_zero, hs.denoms a D hdenom]
        exact hof a
  · rw [remainder, hs.remainder]
    by_cases hdenom : D = fee.denom
    · subst hdenom
      rw [getElem?_insert_self', Option.getD_some, ← hrelayers]
      exact hs.below
    · rw [getElem?_insert_ne (Ne.symm hdenom)]
      rw [comesIn_snoc, FeeEvent.adds, if_neg (Ne.symm hdenom), Nat.add_zero] at hD
      exact h.below D hD

/-- A claim is taken from who makes it. -/
theorem Shared.claim {amounts : List Coin} (h : Shared g₀ entries g) (hc : g.Claim sender amounts g') :
    Shared g₀ (entries ++ [(sender, .claimed amounts)]) g' := by
  have hremainder : ∀ D, g'.remainder D = g.remainder D := fun D => by rw [remainder, hc.remainders, remainder]
  refine ⟨fun D => ?_, fun D hD => ?_⟩
  · obtain ⟨share, hsum, hof⟩ := h.shares D
    refine ⟨share, ?_, fun a => ?_⟩
    · rw [hremainder, comesIn_snoc, FeeEvent.adds, Nat.add_zero]
      exact hsum
    · have htaken := hc.taken a D
      have hofa := hof a
      rw [claimedBy_snoc, FeeEvent.takes]
      omega
  · rw [comesIn_snoc, FeeEvent.adds, Nat.add_zero] at hD
    rw [hremainder]
    exact h.below D hD

/-- Nothing comes in, and nothing is claimed. -/
theorem Shared.same (h : Shared g₀ entries g) (hcollected : g'.collected = g.collected)
    (hremainders : g'.remainders = g.remainders) : Shared g₀ entries g' := by
  have hof : ∀ a D, g'.of a D = g.of a D := fun a D => by rw [of, hcollected, of]
  have hremainder : ∀ D, g'.remainder D = g.remainder D := fun D => by rw [remainder, hremainders, remainder]
  refine ⟨fun D => ?_, fun D hD => ?_⟩
  · simp only [hof, hremainder]
    exact h.shares D
  · rw [hremainder]
    exact h.below D hD

/-- All that came in is divided as if it had come in at once. -/
theorem Shared.total {D : String} (h : Shared g₀ entries g)
    (hsome : g₀.remainder D < g₀.relayers.length ∨ 0 < comesIn entries D) :
    g.remainder D = (g₀.remainder D + comesIn entries D) % g₀.relayers.length ∧
      ∀ a, g.of a D + claimedBy entries a D = g₀.of a D +
        if a ∈ g₀.relayers then (g₀.remainder D + comesIn entries D) / g₀.relayers.length else 0 := by
  have hbelow := h.below D hsome
  obtain ⟨share, hsum, hof⟩ := h.shares D
  have hpos : 0 < g₀.relayers.length := by omega
  obtain ⟨hdiv, hmod⟩ := (Nat.div_mod_unique hpos).mpr ⟨(Nat.add_comm _ _).trans hsum, hbelow⟩
  rw [hdiv, hmod]
  exact ⟨rfl, hof⟩

end FeeBooks

/-! ### The contract's calls -/

variable {H : Host} {w : World}

theorem substractRelayerFees_claim {s s' : Storage} {sender : Addr} {amounts : List Coin}
    (h : substractRelayerFees s sender amounts = .ok s') : s.feeBooks.Claim sender amounts s'.feeBooks := by
  simp only [substractRelayerFees, bind_eq_ok, orFail_eq_ok, pure_eq_ok] at h
  obtain ⟨coins, hc, rest, hr, rfl⟩ := h
  refine ⟨rfl, rfl, fun a D => ?_⟩
  simp only [FeeBooks.of, Storage.feeBooks]
  by_cases ha : sender = a
  · subst ha
    have htaken := foldlM_takeFromCoins_eq_ok hr D
    rw [getElem?_insert_self', Option.getD_some, coinsOf_filter_ne_zero, hc, Option.getD_some, if_pos rfl]
    exact htaken.symm
  · rw [getElem?_insert_ne ha, if_neg ha, Nat.add_zero]

/-- Every call, made while the relayers are those of `g₀`. -/
theorem FeeBooks.Shared.step {g₀ : FeeBooks} {entries : List (Addr × FeeEvent)} {s s' : Storage} {q : Querier}
    {env : BlockInfo} {sender : Addr} {funds : List Coin} {msg : ExecuteMsg} {ms : List SubMsg}
    (h : Shared g₀ entries s.feeBooks) (hrelayers : s.feeBooks.relayers = g₀.relayers) (hrs : g₀.relayers.Nodup)
    (he : Effect H s q env sender funds msg s' ms) :
    Shared g₀ (entries ++ ((feeEvent H s funds msg).map fun event => (sender, event)).toList) s'.feeBooks := by
  have hs := he.feeBooks (hrelayers ▸ hrs)
  cases hevent : feeEvent H s funds msg with
  | none =>
    rw [hevent] at hs
    rw [Option.map_none, Option.toList_none, List.append_nil]
    generalize s'.feeBooks = g' at hs ⊢
    cases hs with
    | kept => exact h.same rfl rfl
  | some event =>
    rw [hevent] at hs
    rw [Option.map_some, Option.toList_some]
    cases event with
    | collected fee =>
      generalize s'.feeBooks = g' at hs ⊢
      cases hs with
      | nothing =>
        refine ⟨fun D => ?_, fun D hD => ?_⟩
        · simpa [FeeEvent.adds, FeeEvent.takes] using h.shares D
        · exact h.below D (by simpa [FeeEvent.adds] using hD)
      | collected hsplit => exact h.split hrelayers hsplit
    | claimed amounts =>
      cases feeEvent_eq_claimed hevent
      cases he with
      | claimedFees _ htaken => exact h.claim (substractRelayerFees_claim htaken)

/-- Every run, as long as the relayers are the same. -/
theorem run_shared (h : Started H w) (past calls : List Call)
    (hrelayers : ∀ x ∈ history (step H) (run (step H) w past) calls,
      x.1.store.config.relayers = (run (step H) w past).store.config.relayers) :
    FeeBooks.Shared (run (step H) w past).store.feeBooks (feeEntries H (run (step H) w past) calls)
      (run (step H) w (past ++ calls)).store.feeBooks := by
  rw [run_append]
  refine run_induction (P := fun calls (w' : World) =>
    (∀ x ∈ history (step H) (run (step H) w past) calls,
        x.1.store.config.relayers = (run (step H) w past).store.config.relayers) →
      FeeBooks.Shared (run (step H) w past).store.feeBooks (feeEntries H (run (step H) w past) calls) w'.store.feeBooks)
    (fun _ => .refl _) ?_ ?_ calls hrelayers
  · intro calls c w' r ih hstep hrelayers
    rw [history_snoc_ok hstep] at hrelayers
    have hsame := hrelayers _ (List.mem_append_right _ (List.mem_singleton.mpr rfl))
    have hshared := ih fun x hx => hrelayers x (List.mem_append_left _ hx)
    rw [← run_append] at hsame hshared hstep
    have he := run_effect h hstep
    have hentries : feeEntries H (run (step H) w past) (calls ++ [c]) = feeEntries H (run (step H) w past) calls ++
        ((feeEvent H (run (step H) (run (step H) w past) calls).store c.funds c.msg).map fun event =>
          (c.sender, event)).toList :=
      labels_snoc_ok (run_append w past calls ▸ hstep)
    rw [hentries, ← run_append]
    exact hshared.step (congrArg (List.map Relayer.cosmosAddress) hsame) (run_quorum h past).relayers.cosmos he
  · intro calls c f ih hstep hrelayers
    rw [history_snoc_error hstep] at hrelayers
    rw [feeEntries, labels_snoc_error hstep]
    exact ih hrelayers

/-- **Relayers share alike.** From any point of a run on, and as long as no rotation replaces the
relayers, let the fees and remainders of a denom that come in amount to `total`, with what was kept
before. Then, however they were cut into transfers, and whatever else happens, each of the `n`
relayers has earned exactly `total / n` (in what it holds and has claimed), nobody else has earned
anything, nobody has lost anything to the claims of others, and `total % n` is kept. -/
theorem relayers_share (h : Started H w) (past calls : List Call)
    (hrelayers : ∀ x ∈ history (step H) (run (step H) w past) calls,
      x.1.store.config.relayers = (run (step H) w past).store.config.relayers) (D : String)
    (hsome : (run (step H) w past).store.feeBooks.remainder D < (run (step H) w past).store.config.relayers.length ∨
      0 < comesIn (feeEntries H (run (step H) w past) calls) D) :
    let before := (run (step H) w past).store
    let after := (run (step H) w (past ++ calls)).store
    let entries := feeEntries H (run (step H) w past) calls
    let total := before.feeBooks.remainder D + comesIn entries D
    after.feeBooks.remainder D = total % before.config.relayers.length ∧
      ∀ a, after.feeBooks.of a D + claimedBy entries a D = before.feeBooks.of a D +
        if isRelayer before a = true then total / before.config.relayers.length else 0 := by
  intro before after entries total
  have hlength : before.feeBooks.relayers.length = before.config.relayers.length := List.length_map _
  have hmem : ∀ a, a ∈ before.feeBooks.relayers ↔ isRelayer before a = true := by
    intro a
    simp [Storage.feeBooks, isRelayer]
  have htotal := (run_shared h past calls hrelayers).total (hlength ▸ hsome)
  simp only [← hlength, ← hmem]
  exact htotal

open Reference in
/-- Two fees of 1000, a claim between them: each of three relayers has earned 666, and 2 are kept. -/
theorem relayers_share_claimed :
    let past := [recover, vote 2 relayer₁ allocation, vote 2 relayer₂ allocation,
      call 3 owner (.updateXRPLToken xrpIssuer xrpCurrency ⟨none, none, some 1000, none⟩)]
    let calls := [send 4 5000000, call 5 relayer₁.cosmosAddress (.claimRelayerFees [⟨xrpDenom, 300⟩]), send 6 5000000]
    let after := (run (step host) world₂ (past ++ calls)).store
    after.feeBooks.remainder xrpDenom = 2 ∧ after.feeBooks.of relayer₁.cosmosAddress xrpDenom + 300 = 666 := by
  intro past calls after
  have hfacts : (∀ x ∈ history (step host) (run (step host) world₂ past) calls,
        x.1.store.config.relayers = (run (step host) world₂ past).store.config.relayers) ∧
      feeEntries host (run (step host) world₂ past) calls = [(user, .collected ⟨xrpDenom, 1000⟩),
        (relayer₁.cosmosAddress, .claimed [⟨xrpDenom, 300⟩]), (user, .collected ⟨xrpDenom, 1000⟩)] ∧
      (run (step host) world₂ past).store.feeBooks.remainder xrpDenom = 0 ∧
      (run (step host) world₂ past).store.feeBooks.of relayer₁.cosmosAddress xrpDenom = 0 ∧
      (run (step host) world₂ past).store.config.relayers.length = 3 ∧
      isRelayer (run (step host) world₂ past).store relayer₁.cosmosAddress = true := by
    decide +kernel
  obtain ⟨hrelayers, hentries, hremainder, hnothing, hthree, hrelayer⟩ := hfacts
  have hshare := relayers_share started_world₂ past calls hrelayers xrpDenom (.inl (by rw [hremainder, hthree]; decide))
  dsimp only at hshare
  rw [hentries, hremainder, hthree] at hshare
  have hone := hshare.2 relayer₁.cosmosAddress
  rw [if_pos hrelayer, hnothing] at hone
  exact ⟨hshare.1, hone⟩

end XrplBridge
