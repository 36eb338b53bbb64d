import Mathlib.Tactic.Common
import Mathlib.Data.Prod.Lex
import Mathlib.Data.List.Nodup
import Mathlib.Algebra.BigOperators.Group.List.Basic
import Mathlib.Algebra.GroupWithZero.Nat

/-!
# Ordered maps: totals and unique indexes

A key-value store with ordered keys is `Std.ExtTreeMap`: finite, extensional, and
iterated in ascending key order. This module adds what accounting over such a store
needs: the total of a measure over all entries, and how each update moves it; the
number of entries with a property; the image of a store under a function on its values,
and what the values contribute to a list; and a map whose values carry an index that no two
entries share, the uniqueness being a field of the map.
-/

namespace XrplBridge.Library

/-- Keys that are pairs are ordered by the first component, then by the second. -/
instance instLawfulEqOrdLex {A B : Type*} [Ord A] [Std.LawfulEqOrd A] [Ord B] [Std.LawfulEqOrd B] :
    Std.LawfulEqOrd (A ×ₗ B) where
  compare_self := Ordering.then_eq_eq.mpr ⟨Std.compare_self, Std.compare_self⟩
  eq_of_compare h := by
    obtain ⟨h₁, h₂⟩ := Ordering.then_eq_eq.mp h
    exact Prod.ext (Std.LawfulEqCmp.eq_of_compare h₁) (Std.LawfulEqCmp.eq_of_compare h₂)

open Std

universe u v w

variable {K : Type u} {V : Type v} [Ord K] [TransOrd K] [LawfulEqOrd K]

/-! ### Entries -/

theorem nodup_toList (m : ExtTreeMap K V) : m.toList.Nodup := by
  refine (ExtTreeMap.distinct_keys_toList (t := m)).imp fun {a b} h hab => h ?_
  rw [hab]; exact compare_self

/-- The entries after `insert` are the new entry and the others. -/
theorem toList_insert_perm (m : ExtTreeMap K V) (k : K) (v : V) :
    (m.insert k v).toList.Perm ((k, v) :: (m.erase k).toList) := by
  refine (List.perm_ext_iff_of_nodup (nodup_toList _) ?_).mpr fun ⟨a, b⟩ => ?_
  · refine List.nodup_cons.mpr ⟨fun h => ?_, nodup_toList _⟩
    rw [ExtTreeMap.mem_toList_iff_getElem?_eq_some] at h
    simp at h
  · simp only [List.mem_cons, Prod.mk.injEq, ExtTreeMap.mem_toList_iff_getElem?_eq_some,
      ExtTreeMap.getElem?_insert, ExtTreeMap.getElem?_erase, Std.compare_eq_iff_eq]
    by_cases h : k = a
    · subst h; simp [eq_comm]
    · simp [h, Ne.symm h]

/-- An entry and the others are all the entries. -/
theorem toList_perm_erase {m : ExtTreeMap K V} {k : K} {v : V} (h : m[k]? = some v) :
    m.toList.Perm ((k, v) :: (m.erase k).toList) := by
  have he : m.insert k v = m := by
    apply ExtTreeMap.ext_getElem?
    intro a
    rw [ExtTreeMap.getElem?_insert]
    split_ifs with hk
    · rw [← Std.compare_eq_iff_eq.mp hk, h]
    · rfl
  simpa [he] using toList_insert_perm m k v

/-- Erasing a key that is not there changes nothing. -/
theorem erase_of_getElem?_none {m : ExtTreeMap K V} {k : K} (h : m[k]? = none) : m.erase k = m := by
  apply ExtTreeMap.ext_getElem?
  intro a
  rw [ExtTreeMap.getElem?_erase]
  split_ifs with hk
  · rw [← Std.compare_eq_iff_eq.mp hk, h]
  · rfl

@[simp] theorem getElem?_insert_self' (m : ExtTreeMap K V) (k : K) (v : V) : (m.insert k v)[k]? = some v := by
  simp

theorem getElem?_insert_ne {m : ExtTreeMap K V} {k a : K} {v : V} (h : k ≠ a) : (m.insert k v)[a]? = m[a]? := by
  simp [ExtTreeMap.getElem?_insert, h]

theorem getElem?_erase_ne {m : ExtTreeMap K V} {k a : K} (h : k ≠ a) : (m.erase k)[a]? = m[a]? := by
  simp [ExtTreeMap.getElem?_erase, h]

@[simp] theorem getElem?_erase_self' (m : ExtTreeMap K V) (k : K) : (m.erase k)[k]? = none := by simp

/-- What an erased map still holds, the map held. -/
theorem getElem?_of_erase {m : ExtTreeMap K V} {k a : K} {v : V} (h : (m.erase k)[a]? = some v) :
    k ≠ a ∧ m[a]? = some v := by
  rw [ExtTreeMap.getElem?_erase] at h
  split_ifs at h with hk
  exact ⟨fun e => hk (Std.compare_eq_iff_eq.mpr e), h⟩

/-- An entry of an updated map is the new one, or an old one under another key. -/
theorem getElem?_of_insert {m : ExtTreeMap K V} {k a : K} {v w : V} (h : (m.insert k v)[a]? = some w) :
    (k = a ∧ v = w) ∨ (k ≠ a ∧ m[a]? = some w) := by
  rw [ExtTreeMap.getElem?_insert] at h
  split_ifs at h with hk
  · exact .inl ⟨Std.compare_eq_iff_eq.mp hk, Option.some.inj h⟩
  · exact .inr ⟨fun e => hk (Std.compare_eq_iff_eq.mpr e), h⟩

/-! ### Totals -/

/-- The total of the measure `f` over all entries. -/
def total (m : ExtTreeMap K V) (f : K → V → ℕ) : ℕ := (m.toList.map fun e => f e.1 e.2).sum

omit [LawfulEqOrd K] in
@[simp] theorem total_empty (f : K → V → ℕ) : total (∅ : ExtTreeMap K V) f = 0 := by
  rw [total, ExtTreeMap.toList_eq_nil_iff.mpr rfl]; rfl

theorem total_insert (m : ExtTreeMap K V) (k : K) (v : V) (f : K → V → ℕ) :
    total (m.insert k v) f = f k v + total (m.erase k) f := by
  unfold total
  rw [((toList_insert_perm m k v).map _).sum_eq]
  simp

theorem total_erase {m : ExtTreeMap K V} {k : K} {v : V} (h : m[k]? = some v) (f : K → V → ℕ) :
    total m f = f k v + total (m.erase k) f := by
  unfold total
  rw [((toList_perm_erase h).map _).sum_eq]
  simp

/-- A new key adds its measure. -/
theorem total_insert_new {m : ExtTreeMap K V} {k : K} (h : m[k]? = none) (v : V) (f : K → V → ℕ) :
    total (m.insert k v) f = f k v + total m f := by
  rw [total_insert, erase_of_getElem?_none h]

/-- An overwritten key exchanges its measure. -/
theorem total_insert_old {m : ExtTreeMap K V} {k : K} {w : V} (h : m[k]? = some w) (v : V)
    (f : K → V → ℕ) : total (m.insert k v) f + f k w = f k v + total m f := by
  rw [total_insert, total_erase h]; omega

/-- Whatever the key held, the total grows by at most the new measure. -/
theorem total_insert_le (m : ExtTreeMap K V) (k : K) (v : V) (f : K → V → ℕ) :
    total (m.insert k v) f ≤ f k v + total m f := by
  cases h : m[k]? with
  | none => exact (total_insert_new h v f).le
  | some w => have := total_insert_old h v f; omega

theorem le_total {m : ExtTreeMap K V} {k : K} {v : V} (h : m[k]? = some v) (f : K → V → ℕ) :
    f k v ≤ total m f := by
  rw [total_erase h]; omega

theorem total_congr {m : ExtTreeMap K V} {f g : K → V → ℕ}
    (h : ∀ (k : K) (v : V), m[k]? = some v → f k v = g k v) : total m f = total m g := by
  unfold total
  congr 1
  refine List.map_congr_left fun ⟨a, b⟩ hab => ?_
  exact h a b (ExtTreeMap.mem_toList_iff_getElem?_eq_some.mp hab)

omit [LawfulEqOrd K] in
theorem total_map {W : Type w} (m : ExtTreeMap K V) (g : K → V → W) (f : K → W → ℕ) :
    total (m.map g) f = total m fun k v => f k (g k v) := by
  unfold total
  rw [ExtTreeMap.toList_map, List.map_map]
  rfl

/-! ### Counting -/

/-- The number of entries with the property `p`. -/
def count (m : ExtTreeMap K V) (p : V → Bool) : ℕ := total m fun _ v => if p v then 1 else 0

omit [LawfulEqOrd K] in
@[simp] theorem count_empty (p : V → Bool) : count (∅ : ExtTreeMap K V) p = 0 := total_empty _

theorem count_insert_new {m : ExtTreeMap K V} {k : K} (h : m[k]? = none) (v : V) (p : V → Bool) :
    count (m.insert k v) p = (if p v then 1 else 0) + count m p := total_insert_new h v _

theorem count_erase {m : ExtTreeMap K V} {k : K} {v : V} (h : m[k]? = some v) (p : V → Bool) :
    count m p = (if p v then 1 else 0) + count (m.erase k) p := total_erase h _

theorem count_eq_zero {m : ExtTreeMap K V} {p : V → Bool} :
    count m p = 0 ↔ ∀ (k : K) (v : V), m[k]? = some v → p v = false := by
  constructor
  · intro h k v hk
    have := le_total hk fun _ v => if p v then 1 else 0
    rw [show total m _ = 0 from h] at this
    by_contra hp
    simp [Bool.not_eq_false] at hp
    simp [hp] at this
  · intro h
    apply (total_congr (g := fun _ _ => 0) fun k v hk => by simp [h k v hk]).trans
    simp [total]

/-- A flag that counts the entries with the property: it is set if there is exactly one,
and not set if there is none. -/
theorem count_eq_toNat {m : ExtTreeMap K V} {p : V → Bool} {flag : Bool} (h : count m p = flag.toNat) :
    (flag = true ↔ ∃! k : K, ∃ v : V, m[k]? = some v ∧ p v = true) ∧
      (flag = false ↔ ∀ (k : K) (v : V), m[k]? = some v → p v = false) := by
  have hnone : flag = false ↔ ∀ (k : K) (v : V), m[k]? = some v → p v = false := by
    rw [← count_eq_zero, h]
    cases flag <;> simp
  refine ⟨⟨?_, ?_⟩, hnone⟩
  · rintro rfl
    obtain ⟨k, v, hk, hp⟩ : ∃ (k : K) (v : V), m[k]? = some v ∧ p v = true := by
      by_contra hn
      push Not at hn
      exact Bool.true_eq_false_eq_False (hnone.mpr fun k v hk => by simpa using hn k v hk)
    refine ⟨k, ⟨v, hk, hp⟩, ?_⟩
    rintro k' ⟨v', hk', hp'⟩
    rw [count_erase hk, if_pos hp, Bool.toNat_true] at h
    by_contra hne
    have := count_eq_zero.mp (show count (m.erase k) p = 0 by omega) k' v'
      (by rw [getElem?_erase_ne (Ne.symm hne)]; exact hk')
    rw [hp'] at this
    cases this
  · rintro ⟨k, ⟨v, hk, hp⟩, -⟩
    by_contra hf
    have := hnone.mp (by simpa using hf) k v hk
    rw [hp] at this
    cases this

/-! ### Images -/

section Images

variable {W : Type w} {B : Type w}

theorem getElem?_map_const (m : ExtTreeMap K V) (k : K) (g : V → W) :
    (m.map fun _ v => g v)[k]? = m[k]?.map g := by
  rw [ExtTreeMap.getElem?_map]

theorem map_insert (m : ExtTreeMap K V) (k : K) (v : V) (g : V → W) :
    ((m.insert k v).map fun _ v => g v) = (m.map fun _ v => g v).insert k (g v) := by
  apply ExtTreeMap.ext_getElem?
  intro a
  rw [getElem?_map_const, ExtTreeMap.getElem?_insert, ExtTreeMap.getElem?_insert, getElem?_map_const]
  split_ifs <;> rfl

theorem map_erase (m : ExtTreeMap K V) (k : K) (g : V → W) :
    ((m.erase k).map fun _ v => g v) = (m.map fun _ v => g v).erase k := by
  apply ExtTreeMap.ext_getElem?
  intro a
  rw [getElem?_map_const, ExtTreeMap.getElem?_erase, ExtTreeMap.getElem?_erase, getElem?_map_const]
  split_ifs <;> rfl

/-- Replacing a value by one with the same image. -/
theorem map_insert_same {m : ExtTreeMap K V} {k : K} {v v' : V} {g : V → W} (hk : m[k]? = some v)
    (hg : g v' = g v) : ((m.insert k v').map fun _ v => g v) = m.map fun _ v => g v := by
  apply ExtTreeMap.ext_getElem?
  intro a
  rw [getElem?_map_const, getElem?_map_const, ExtTreeMap.getElem?_insert]
  split_ifs with h
  · obtain rfl := Std.compare_eq_iff_eq.mp h
    rw [hk, Option.map_some, Option.map_some, hg]
  · rfl

/-- What the values contribute to a list, in key order. -/
def collect (m : ExtTreeMap K V) (f : V → Option B) : List B := m.toList.filterMap fun e => f e.2

omit [LawfulEqOrd K] in
@[simp] theorem collect_empty (f : V → Option B) : collect (∅ : ExtTreeMap K V) f = [] := by
  rw [collect, ExtTreeMap.toList_eq_nil_iff.mpr rfl]; rfl

theorem collect_erase {m : ExtTreeMap K V} {k : K} {v : V} (h : m[k]? = some v) (f : V → Option B) :
    (collect m f).Perm ((f v).toList ++ collect (m.erase k) f) := by
  apply ((toList_perm_erase h).filterMap _).trans
  rw [List.filterMap_cons]
  cases f v <;> simp [collect]

theorem collect_insert_new {m : ExtTreeMap K V} {k : K} (h : m[k]? = none) (v : V) (f : V → Option B) :
    (collect (m.insert k v) f).Perm ((f v).toList ++ collect m f) := by
  apply ((toList_insert_perm m k v).filterMap _).trans
  rw [List.filterMap_cons, erase_of_getElem?_none h]
  cases f v <;> simp [collect]

theorem mem_collect {m : ExtTreeMap K V} {f : V → Option B} {b : B} :
    b ∈ collect m f ↔ ∃ (k : K) (v : V), m[k]? = some v ∧ f v = some b := by
  simp only [collect, List.mem_filterMap, Prod.exists, ExtTreeMap.mem_toList_iff_getElem?_eq_some]

omit [LawfulEqOrd K] in
theorem collect_map (m : ExtTreeMap K V) (g : V → W) (f : W → Option B) :
    collect (m.map fun _ v => g v) f = collect m fun v => f (g v) := by
  simp only [collect, ExtTreeMap.toList_map, List.filterMap_map]
  rfl

omit [LawfulEqOrd K] in
theorem count_map (m : ExtTreeMap K V) (g : V → W) (p : W → Bool) :
    count (m.map fun _ v => g v) p = count m fun v => p (g v) := total_map m _ _

end Images

/-! ### Maps with a unique index -/

variable {I : Type w} [DecidableEq I]

/-- A map whose values carry an index that no two entries share. -/
structure IndexedMap (K : Type u) (V : Type v) [Ord K] [TransOrd K] {I : Type w} (index : V → I) where
  /-- The entries. -/
  primary : ExtTreeMap K V
  /-- No two keys hold values of one index. -/
  unique : ∀ {k₁ k₂ : K} {v₁ v₂ : V}, primary[k₁]? = some v₁ → primary[k₂]? = some v₂ →
    index v₁ = index v₂ → k₁ = k₂

namespace IndexedMap

variable {index : V → I}

/-- No entry. -/
def empty : IndexedMap K V index := ⟨∅, fun h => by simp at h⟩

/-- The entry of a given index. -/
def item (m : IndexedMap K V index) (i : I) : Option (K × V) :=
  m.primary.toList.find? fun e => index e.2 = i

theorem item_eq_some {m : IndexedMap K V index} {i : I} {k : K} {v : V} :
    m.item i = some (k, v) ↔ m.primary[k]? = some v ∧ index v = i := by
  unfold item
  constructor
  · intro h
    have hm := List.mem_of_find?_eq_some h
    exact ⟨ExtTreeMap.mem_toList_iff_getElem?_eq_some.mp hm, by simpa using List.find?_some h⟩
  · rintro ⟨hk, hi⟩
    cases hf : m.primary.toList.find? fun e => index e.2 = i with
    | none =>
      have := List.find?_eq_none.mp hf _ (ExtTreeMap.mem_toList_iff_getElem?_eq_some.mpr hk)
      simp [hi] at this
    | some e =>
      obtain ⟨a, b⟩ := e
      have hm := ExtTreeMap.mem_toList_iff_getElem?_eq_some.mp (List.mem_of_find?_eq_some hf)
      have hb : index b = i := by simpa using List.find?_some hf
      obtain rfl := m.unique hm hk (hb.trans hi.symm)
      rw [hk] at hm
      rw [Option.some.inj hm]

variable [DecidableEq K]

/-- Save `v` at `k`, replacing what `k` held, unless another key holds a value of
the same index. -/
def save (m : IndexedMap K V index) (k : K) (v : V) : Option (IndexedMap K V index) :=
  if h : ∀ e ∈ m.primary.toList, index e.2 = index v → e.1 = k then
    some ⟨m.primary.insert k v, by
      have other : ∀ {a : K} {b : V}, m.primary[a]? = some b → index b = index v → a = k :=
        fun ha => h _ (ExtTreeMap.mem_toList_iff_getElem?_eq_some.mpr ha)
      intro k₁ k₂ v₁ v₂ h₁ h₂ hi
      rcases getElem?_of_insert h₁ with ⟨rfl, rfl⟩ | ⟨_, h₁'⟩ <;>
        rcases getElem?_of_insert h₂ with ⟨rfl, rfl⟩ | ⟨_, h₂'⟩
      · rfl
      · exact (other h₂' hi.symm).symm
      · exact other h₁' hi
      · exact m.unique h₁' h₂' hi⟩
  else none

/-- What a successful save did. -/
theorem save_eq_some {m m' : IndexedMap K V index} {k : K} {v : V} (h : m.save k v = some m') :
    m'.primary = m.primary.insert k v ∧
      ∀ (k' : K) (v' : V), m.primary[k']? = some v' → index v' = index v → k' = k := by
  unfold save at h
  split_ifs at h with hc
  cases h
  exact ⟨rfl, fun k' v' hk' => hc _ (ExtTreeMap.mem_toList_iff_getElem?_eq_some.mpr hk')⟩

/-- Saving a value with the index its key already holds succeeds. -/
theorem save_same_index {m : IndexedMap K V index} {k : K} {v w : V} (hk : m.primary[k]? = some w)
    (hi : index w = index v) : ∃ m', m.save k v = some m' := by
  unfold save
  rw [dif_pos]
  · exact ⟨_, rfl⟩
  · intro e he hev
    exact m.unique (ExtTreeMap.mem_toList_iff_getElem?_eq_some.mp he) hk (hev.trans hi.symm)

end IndexedMap

end XrplBridge.Library
