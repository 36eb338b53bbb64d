import XrplBridge.Contract.Fees
import XrplBridge.Reference

/-!
# Claims of fees

A relayer claims a list of coins, and `substractRelayerFees` takes them one after the other, each from
a coin that covers it. Over coins of distinct denoms that amounts to the sums of the claim
(`Claimable`), however it is split and ordered: it goes through if every denom is there and covers its
sum, and each coin then loses exactly that (`claims_exact`).
-/

namespace XrplBridge

open Library Contract Std

/-- A coin, less what is claimed of its denom. -/
def Contract.Coin.less (amounts : List Coin) (c : Coin) : Coin :=
  { c with amount := c.amount - coinsOf c.denom amounts }

/-- Every denom that is claimed has been collected, and covers the sum of its claims. -/
structure Claimable (collected amounts : List Coin) : Prop where
  known : ∀ c ∈ amounts, c.denom ∈ collected.map Coin.denom
  covered : ∀ c ∈ collected, coinsOf c.denom amounts ≤ c.amount

/-- What a claim leaves: every coin less its claims, without those that are used up. -/
def remaining (collected amounts : List Coin) : List Coin :=
  (collected.map (Coin.less amounts)).filter fun c => c.amount ≠ 0

variable {coin : Coin} {cs cs' amounts amounts' : List Coin} {s s' : Storage} {sender : Addr}

/-! ### One coin after the other -/

@[simp] theorem denom_less (c : Coin) : (c.less amounts).denom = c.denom := rfl

theorem denoms_less (cs : List Coin) : (cs.map (Coin.less amounts)).map Coin.denom = cs.map Coin.denom := by
  rw [List.map_map]
  rfl

theorem less_of_ne {c : Coin} (h : coin.denom ≠ c.denom) : c.less [coin] = c := by
  simp [Coin.less, h]

theorem map_less_nil (cs : List Coin) : cs.map (Coin.less []) = cs := List.map_id cs

theorem map_less_cons (amounts cs : List Coin) :
    cs.map (Coin.less (coin :: amounts)) = (cs.map (Coin.less [coin])).map (Coin.less amounts) := by
  rw [List.map_map]
  refine List.map_congr_left fun c _ => ?_
  simp only [Function.comp_apply, Coin.less, coinsOf_cons, coinsOf_nil, Nat.add_zero, Nat.sub_sub]

theorem claimable_cons :
    Claimable cs (coin :: amounts) ↔ Claimable cs [coin] ∧ Claimable (cs.map (Coin.less [coin])) amounts := by
  have hsplit : ∀ c : Coin, coinsOf c.denom (coin :: amounts) ≤ c.amount ↔
      coinsOf c.denom [coin] ≤ c.amount ∧ coinsOf c.denom amounts ≤ (c.less [coin]).amount := by
    intro c
    simp only [Coin.less, coinsOf_cons, coinsOf_nil, Nat.add_zero]
    omega
  constructor
  · rintro ⟨hknown, hcovered⟩
    rw [List.forall_mem_cons] at hknown
    refine ⟨⟨by simpa using hknown.1, fun c hc => ((hsplit c).mp (hcovered c hc)).1⟩, ⟨?_, ?_⟩⟩
    · rw [denoms_less]
      exact hknown.2
    · rw [List.forall_mem_map]
      exact fun c hc => ((hsplit c).mp (hcovered c hc)).2
  · rintro ⟨⟨hknown₁, hcovered₁⟩, hknown, hcovered⟩
    rw [denoms_less] at hknown
    rw [List.forall_mem_map] at hcovered
    exact ⟨List.forall_mem_cons.mpr ⟨hknown₁ coin List.mem_cons_self, hknown⟩,
      fun c hc => (hsplit c).mpr ⟨hcovered₁ c hc, hcovered c hc⟩⟩

/-- A claim of one coin, over coins of distinct denoms. -/
theorem takeFromCoins_iff (h : (cs.map Coin.denom).Nodup) :
    takeFromCoins coin cs = some cs' ↔ Claimable cs [coin] ∧ cs' = cs.map (Coin.less [coin]) := by
  induction cs generalizing cs' with
  | nil =>
    constructor
    · intro htake
      cases htake
    · rintro ⟨⟨hknown, -⟩, -⟩
      simpa using hknown coin List.mem_cons_self
  | cons c cs ih =>
    rw [List.map_cons, List.nodup_cons] at h
    rw [takeFromCoins]
    by_cases hd : coin.denom = c.denom
    · -- no other coin has the denom
      have hother : ∀ d ∈ cs, coin.denom ≠ d.denom := by
        intro d hdmem hdenom
        exact h.1 (List.mem_map.mpr ⟨d, hdmem, (hd ▸ hdenom).symm⟩)
      by_cases hle : coin.amount ≤ c.amount
      · rw [if_pos ⟨hd.symm, hle⟩, Option.some.injEq, List.map_cons,
          List.map_congr_left fun d hdmem => less_of_ne (hother d hdmem), List.map_id']
        have hclaim : Claimable (c :: cs) [coin] := by
          refine ⟨by simp [hd], fun d hdmem => ?_⟩
          rcases List.mem_cons.mp hdmem with rfl | hdmem
          · simpa [hd] using hle
          · simp [hother d hdmem]
        have hless : c.less [coin] = { c with amount := c.amount - coin.amount } := by simp [Coin.less, hd]
        rw [hless]
        exact ⟨fun heq => ⟨hclaim, heq.symm⟩, fun heq => heq.2.symm⟩
      · rw [if_neg (fun hc => hle hc.2), Option.map_eq_some_iff]
        constructor
        · rintro ⟨cs₁, h₁, -⟩
          obtain ⟨d, hdmem, hdenom⟩ := List.mem_map.mp (((ih h.2).mp h₁).1.known coin List.mem_cons_self)
          exact absurd hdenom.symm (hother d hdmem)
        · rintro ⟨⟨-, hcovered⟩, -⟩
          have hc := hcovered c List.mem_cons_self
          simp only [coinsOf_cons, if_pos hd, coinsOf_nil] at hc
          omega
    · rw [if_neg (fun hc => hd hc.1.symm), Option.map_eq_some_iff, List.map_cons, less_of_ne hd]
      have hclaim : Claimable (c :: cs) [coin] ↔ Claimable cs [coin] := by
        constructor
        · rintro ⟨hknown, hcovered⟩
          exact ⟨by simpa [hd] using hknown, fun d hdmem => hcovered d (List.mem_cons_of_mem _ hdmem)⟩
        · rintro ⟨hknown, hcovered⟩
          refine ⟨fun d hdmem => List.mem_cons_of_mem _ (hknown d hdmem), List.forall_mem_cons.mpr ⟨?_, hcovered⟩⟩
          simp [hd]
      rw [hclaim]
      constructor
      · rintro ⟨cs₁, h₁, rfl⟩
        obtain ⟨hc, rfl⟩ := (ih h.2).mp h₁
        exact ⟨hc, rfl⟩
      · rintro ⟨hc, rfl⟩
        exact ⟨_, (ih h.2).mpr ⟨hc, rfl⟩, rfl⟩

/-- **The loop takes the sums**, over coins of distinct denoms. -/
theorem foldlM_takeFromCoins_iff (h : (cs.map Coin.denom).Nodup) :
    amounts.foldlM (fun feesCollected coin =>
        orFail (takeFromCoins coin feesCollected) (.notEnoughFeesToClaim coin.denom coin.amount)) cs = .ok cs' ↔
      Claimable cs amounts ∧ cs' = cs.map (Coin.less amounts) := by
  induction amounts generalizing cs with
  | nil =>
    rw [map_less_nil, List.foldlM_nil, pure_eq_ok]
    exact ⟨fun heq => ⟨⟨by simp, by simp⟩, heq.symm⟩, fun heq => heq.2.symm⟩
  | cons coin amounts ih =>
    rw [claimable_cons, map_less_cons amounts]
    simp only [List.foldlM_cons, bind_eq_ok, orFail_eq_ok, takeFromCoins_iff h]
    have hnodup : ((cs.map (Coin.less [coin])).map Coin.denom).Nodup := by rwa [denoms_less]
    constructor
    · rintro ⟨cs₁, ⟨hc, rfl⟩, hrest⟩
      obtain ⟨hclaim, rfl⟩ := (ih hnodup).mp hrest
      exact ⟨⟨hc, hclaim⟩, rfl⟩
    · rintro ⟨⟨hc, hclaim⟩, rfl⟩
      exact ⟨_, ⟨hc, rfl⟩, (ih hnodup).mpr ⟨hclaim, rfl⟩⟩

/-- The loop fails on a coin that is not covered. -/
theorem foldlM_takeFromCoins_error {e : Failure}
    (h : amounts.foldlM (fun feesCollected coin =>
        orFail (takeFromCoins coin feesCollected) (.notEnoughFeesToClaim coin.denom coin.amount)) cs = .error e) :
    ∃ c ∈ amounts, e = .err (.notEnoughFeesToClaim c.denom c.amount) := by
  induction amounts generalizing cs with
  | nil => cases h
  | cons coin amounts ih =>
    rw [List.foldlM_cons] at h
    cases ht : takeFromCoins coin cs with
    | none =>
      rw [ht] at h
      exact ⟨coin, List.mem_cons_self, (Except.error.inj h).symm⟩
    | some cs₁ =>
      rw [ht] at h
      obtain ⟨c, hc, he⟩ := ih h
      exact ⟨c, List.mem_cons_of_mem _ hc, he⟩

/-! ### The order of a claim -/

theorem coinsOf_perm (h : amounts.Perm amounts') (D : String) : coinsOf D amounts = coinsOf D amounts' :=
  ((h.filter _).map _).sum_eq

theorem Claimable.perm (h : amounts.Perm amounts') (hc : Claimable cs amounts) : Claimable cs amounts' :=
  ⟨fun c hmem => hc.known c (h.mem_iff.mpr hmem), fun c hmem => coinsOf_perm h c.denom ▸ hc.covered c hmem⟩

theorem remaining_perm (h : amounts.Perm amounts') : remaining cs amounts = remaining cs amounts' := by
  have hless : (Coin.less amounts : Coin → Coin) = Coin.less amounts' := by
    funext c
    rw [Coin.less, Coin.less, coinsOf_perm h]
  rw [remaining, remaining, hless]

/-- A claim of a relayer who has collected coins of distinct denoms. -/
theorem substractRelayerFees_iff (hcs : s.feesCollected[sender]? = some cs) (h : (cs.map Coin.denom).Nodup) :
    substractRelayerFees s sender amounts = .ok s' ↔
      Claimable cs amounts ∧
        s' = { s with feesCollected := s.feesCollected.insert sender (remaining cs amounts) } := by
  simp only [substractRelayerFees, hcs, bind_eq_ok, orFail_eq_ok, Option.some.injEq, exists_eq_left',
    foldlM_takeFromCoins_iff h, pure_eq_ok]
  constructor
  · rintro ⟨_, ⟨hc, rfl⟩, rfl⟩
    exact ⟨hc, rfl⟩
  · rintro ⟨hc, rfl⟩
    exact ⟨_, ⟨hc, rfl⟩, rfl⟩

/-- **A claim is exact and independent of its order**, over coins of distinct denoms: it goes through
exactly if every denom is there and covers the sum of its claims; every coin then loses that sum, those
that are used up are removed, and nobody else's coins change. A claim that fails stores nothing, and
names a coin of its own. In any other order the claim goes through alike, with the same store. -/
theorem claims_exact (hcs : s.feesCollected[sender]? = some cs) (h : (cs.map Coin.denom).Nodup)
    (amounts : List Coin) :
    ((∃ s', substractRelayerFees s sender amounts = .ok s') ↔ Claimable cs amounts) ∧
      (∀ s', substractRelayerFees s sender amounts = .ok s' →
        (∃ fc, s' = { s with feesCollected := fc }) ∧
          s'.feesCollected[sender]? = some (remaining cs amounts) ∧
            (∀ a, a ≠ sender → s'.feesCollected[a]? = s.feesCollected[a]?) ∧
              ∀ D, coinsOf D (remaining cs amounts) + coinsOf D amounts = coinsOf D cs) ∧
      (∀ e, substractRelayerFees s sender amounts = .error e →
        ∃ c ∈ amounts, e = .err (.notEnoughFeesToClaim c.denom c.amount)) ∧
      ∀ amounts', amounts.Perm amounts' →
        (substractRelayerFees s sender amounts').toOption = (substractRelayerFees s sender amounts).toOption := by
  refine ⟨?_, fun s' hs' => ?_, fun e he => ?_, fun amounts' hperm => ?_⟩
  · constructor
    · rintro ⟨s', hs'⟩
      exact ((substractRelayerFees_iff hcs h).mp hs').1
    · intro hc
      exact ⟨_, (substractRelayerFees_iff hcs h).mpr ⟨hc, rfl⟩⟩
  · obtain ⟨hc, rfl⟩ := (substractRelayerFees_iff hcs h).mp hs'
    refine ⟨⟨_, rfl⟩, getElem?_insert_self' _ _ _, fun a ha => getElem?_insert_ne (Ne.symm ha), fun D => ?_⟩
    have htake := foldlM_takeFromCoins_eq_ok ((foldlM_takeFromCoins_iff h).mpr ⟨hc, rfl⟩) D
    rw [remaining, coinsOf_filter_ne_zero, htake]
  · rw [substractRelayerFees, hcs, orFail_some_bind] at he
    cases hloop : amounts.foldlM (fun feesCollected coin =>
        orFail (takeFromCoins coin feesCollected) (.notEnoughFeesToClaim coin.denom coin.amount)) cs with
    | error e' =>
      rw [hloop] at he
      cases he
      exact foldlM_takeFromCoins_error hloop
    | ok cs' =>
      rw [hloop] at he
      cases he
  · by_cases hc : Claimable cs amounts
    · rw [toOption_of_ok ((substractRelayerFees_iff hcs h).mpr ⟨hc, rfl⟩),
        toOption_of_ok ((substractRelayerFees_iff hcs h).mpr ⟨hc.perm hperm, rfl⟩), remaining_perm hperm]
    · have hnone : ∀ as, ¬ Claimable cs as → (substractRelayerFees s sender as).toOption = none := by
        intro as hno
        cases hx : substractRelayerFees s sender as with
        | error e => rfl
        | ok s' => exact absurd ((substractRelayerFees_iff hcs h).mp hx).1 hno
      rw [hnone _ hc, hnone _ fun hc' => hc (hc'.perm hperm.symm)]

/-- A coin that is claimed in two parts, between which another is used up. -/
theorem claims_exact_split :
    let s := { Reference.world₁.store with
      feesCollected := (∅ : ExtTreeMap Addr (List Coin)).insert "a" [⟨"x", 5⟩, ⟨"y", 3⟩, ⟨"z", 1⟩] }
    ∃ s', substractRelayerFees s "a" [⟨"x", 2⟩, ⟨"y", 3⟩, ⟨"x", 1⟩] = .ok s' ∧
      s'.feesCollected["a"]? = some [⟨"x", 2⟩, ⟨"z", 1⟩] ∧
        (substractRelayerFees s "a" [⟨"x", 1⟩, ⟨"x", 2⟩, ⟨"y", 3⟩]).toOption = some s' := by
  intro s
  have h := claims_exact (s := s) (getElem?_insert_self' _ _ _) (by decide) [⟨"x", 2⟩, ⟨"y", 3⟩, ⟨"x", 1⟩]
  obtain ⟨s', hs'⟩ := h.1.mpr ⟨by decide, by decide⟩
  refine ⟨s', hs', (h.2.1 s' hs').2.1, ?_⟩
  rw [h.2.2.2 _ (by decide), toOption_of_ok hs']

end XrplBridge
