import Mathlib.Data.Option.Basic
import XrplBridge.Library.OrderedMap

/-!
# Maps related entry by entry

Two maps with the same keys whose entries are related: what a relation on values is for
the stores that hold such values. Inserting related values, erasing a key and mapping the
values keep it.
-/

namespace XrplBridge.Library

open Std

universe u v w

variable {K : Type u} {V : Type v} [Ord K] [TransOrd K]

/-- The maps have the same keys, with related values. -/
def Related (R : V → V → Prop) (m m' : ExtTreeMap K V) : Prop := ∀ k : K, Option.Rel R m[k]? m'[k]?

namespace Related

variable {R : V → V → Prop} {m m' m'' : ExtTreeMap K V} {k : K} {v v' : V}

theorem refl (hR : ∀ v, R v v) (m : ExtTreeMap K V) : Related R m m := by
  intro k
  cases m[k]? with
  | none => exact .none
  | some v => exact .some (hR v)

/-- Equal entries make equal maps. -/
theorem eq [LawfulEqOrd K] (h : Related Eq m m') : m = m' := by
  apply ExtTreeMap.ext_getElem?
  intro k
  have hk := h k
  generalize m[k]? = x at hk ⊢
  generalize m'[k]? = y at hk ⊢
  cases hk with
  | none => rfl
  | some hv => rw [hv]

theorem symm (hR : ∀ {v v'}, R v v' → R v' v) (h : Related R m m') : Related R m' m := by
  intro k
  have hk := h k
  generalize m[k]? = x at hk ⊢
  generalize m'[k]? = y at hk ⊢
  cases hk with
  | none => exact .none
  | some hv => exact .some (hR hv)

theorem trans (hR : ∀ {v v' v''}, R v v' → R v' v'' → R v v'') (h : Related R m m') (h' : Related R m' m'') :
    Related R m m'' := by
  intro k
  have hk := h k
  have hk' := h' k
  generalize m[k]? = x at hk ⊢
  generalize m'[k]? = y at hk hk'
  generalize m''[k]? = z at hk' ⊢
  cases hk with
  | none => exact hk'
  | some hv =>
    cases hk' with
    | some hv' => exact .some (hR hv hv')

theorem of_getElem?_eq (hR : ∀ v, R v v) (h : ∀ k : K, m[k]? = m'[k]?) : Related R m m' := by
  intro k
  rw [h]
  exact refl hR m' k

/-- An entry of the second map has one of the first. -/
theorem exists_left (h : Related R m m') (hk : m'[k]? = some v) : ∃ v', m[k]? = some v' ∧ R v' v := by
  have hrel := h k
  rw [hk] at hrel
  generalize m[k]? = x at hrel ⊢
  cases hrel with
  | some hv => exact ⟨_, rfl, hv⟩

/-- An entry of the first map has one of the second. -/
theorem exists_right (h : Related R m m') (hk : m[k]? = some v) : ∃ v', m'[k]? = some v' ∧ R v v' := by
  have hrel := h k
  rw [hk] at hrel
  generalize m'[k]? = y at hrel ⊢
  cases hrel with
  | some hv => exact ⟨_, rfl, hv⟩

/-- A key is in both maps or in none. -/
theorem contains_eq (h : Related R m m') (k : K) : m.contains k = m'.contains k := by
  have hk := h k
  rw [ExtTreeMap.contains_eq_isSome_getElem?, ExtTreeMap.contains_eq_isSome_getElem?]
  generalize m[k]? = x at hk ⊢
  generalize m'[k]? = y at hk ⊢
  cases hk <;> rfl

theorem insert [LawfulEqOrd K] (h : Related R m m') (k : K) (hv : R v v') :
    Related R (m.insert k v) (m'.insert k v') := by
  intro a
  by_cases ha : k = a
  · subst ha
    rw [getElem?_insert_self', getElem?_insert_self']
    exact .some hv
  · rw [getElem?_insert_ne ha, getElem?_insert_ne ha]
    exact h a

theorem erase [LawfulEqOrd K] (h : Related R m m') (k : K) : Related R (m.erase k) (m'.erase k) := by
  intro a
  by_cases ha : k = a
  · subst ha
    rw [getElem?_erase_self', getElem?_erase_self']
    exact .none
  · rw [getElem?_erase_ne ha, getElem?_erase_ne ha]
    exact h a

theorem map [LawfulEqOrd K] {W : Type w} {S : W → W → Prop} {f : V → W} (h : Related R m m')
    (hf : ∀ {v v'}, R v v' → S (f v) (f v')) :
    Related S (m.map fun _ v => f v) (m'.map fun _ v => f v) := by
  intro k
  have hk := h k
  rw [getElem?_map_const, getElem?_map_const]
  generalize m[k]? = x at hk ⊢
  generalize m'[k]? = y at hk ⊢
  cases hk with
  | none => exact .none
  | some hv => exact .some (hf hv)

/-- What related values have in common holds of all values of both maps or of none. -/
theorem all_eq [LawfulEqOrd K] {p : V → Bool} (h : Related R m m') (hp : ∀ {v v'}, R v v' → p v = p v') :
    (m.toList.all fun e => p e.2) = m'.toList.all fun e => p e.2 := by
  have hall : ∀ {m₁ m₂ : ExtTreeMap K V}, (∀ (k : K) v, m₂[k]? = some v → ∃ v', m₁[k]? = some v' ∧ p v' = p v) →
      (m₁.toList.all fun e => p e.2) = true → (m₂.toList.all fun e => p e.2) = true := by
    intro m₁ m₂ hsame hm
    rw [List.all_eq_true] at hm ⊢
    rintro ⟨k, v⟩ hkv
    obtain ⟨v', hk', hpv⟩ := hsame k v (ExtTreeMap.mem_toList_iff_getElem?_eq_some.mp hkv)
    exact hpv ▸ hm (k, v') (ExtTreeMap.mem_toList_iff_getElem?_eq_some.mpr hk')
  rw [Bool.eq_iff_iff]
  refine ⟨hall fun k v hk => ?_, hall fun k v hk => ?_⟩
  · obtain ⟨v', hk', hv⟩ := h.exists_left hk
    exact ⟨v', hk', hp hv⟩
  · obtain ⟨v', hk', hv⟩ := h.exists_right hk
    exact ⟨v', hk', (hp hv).symm⟩

end Related

end XrplBridge.Library
