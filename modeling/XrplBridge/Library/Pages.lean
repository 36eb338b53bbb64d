import Mathlib.Data.List.Induction
import XrplBridge.Library.OrderedMap

/-!
# Pages of an ordered map

A long list is read page by page: whoever asks says which key to start after and how many entries a page
may have, and is told the last key of the page, to ask on from. The calls end with a page that has no last
key, and the pages are the whole list, once and in order (`walk_eq`), whatever the size of a page.
-/

namespace XrplBridge.Library

open Std

universe u v w

variable {K : Type u} {V : Type v} {B : Type w} [Ord K]

/-! ### Pages -/

/-- Is an entry after the start? Without a start, every entry is. -/
def after (start : Option K) (e : K × V) : Bool := start.all fun k => compare k e.1 = .lt

/-- A page: the first `limit` entries after the start. -/
def page (entries : List (K × V)) (start : Option K) (limit : ℕ) : List (K × V) :=
  (entries.filter (after start)).take limit

/-- What the entries show, and the key of the last one, noted on the way. -/
def answer (f : K → V → B) (entries : List (K × V)) : Option K × List B :=
  entries.foldl (fun r e => (some e.1, r.2 ++ [f e.1 e.2])) (none, [])

/-- The items of all pages, from the start on: ask on after the last key of each page, until there is
none. Nothing if `fuel` calls are not enough. -/
def walk (query : Option K → Option K × List B) : ℕ → Option K → Option (List B)
  | 0, _ => none
  | fuel + 1, start =>
    match query start with
    | (none, items) => some items
    | (some lastKey, items) => (walk query fuel (some lastKey)).map (items ++ ·)

/-- Asking page after page ends, and shows each entry of the map once, in ascending key order. -/
def Enumerates [TransOrd K] (query : Option K → Option K × List B) (m : ExtTreeMap K V) (f : K → V → B) : Prop :=
  ∃ entries : List (K × V),
    entries.Pairwise (fun a b => compare a.1 b.1 = .lt) ∧
    (∀ (k : K) (v : V), (k, v) ∈ entries ↔ m[k]? = some v) ∧
    ∀ fuel, entries.length < fuel → walk query fuel none = some (entries.map fun e => f e.1 e.2)

/-! ### What a page is -/

theorem after_some {k : K} {e : K × V} : after (some k) e = true ↔ compare k e.1 = .lt := by
  simp [after]

omit [Ord K] in
theorem answer_eq (f : K → V → B) (entries : List (K × V)) :
    answer f entries = (entries.getLast?.map Prod.fst, entries.map fun e => f e.1 e.2) := by
  induction entries using List.reverseRecOn with
  | nil => rfl
  | append_singleton es e ih =>
    rw [answer] at ih
    rw [answer, List.foldl_append, ih]
    simp

variable [TransOrd K] {pre post : List (K × V)}

/-- What is after the last key of a first part is the rest. -/
theorem filter_after (h : (pre ++ post).Pairwise fun a b => compare a.1 b.1 = .lt) :
    (pre ++ post).filter (after (pre.getLast?.map Prod.fst)) = post := by
  rcases List.eq_nil_or_concat' pre with rfl | ⟨es, e, rfl⟩
  · simp [after]
  · obtain ⟨hpre, -, hrest⟩ := List.pairwise_append.mp h
    have hes : es.filter (after (some e.1)) = [] := by
      refine List.filter_eq_nil_iff.mpr fun a ha => ?_
      have hlt : compare a.1 e.1 = .lt := (List.pairwise_append.mp hpre).2.2 a ha e (List.mem_singleton_self e)
      rw [after_some, OrientedCmp.gt_of_lt hlt]
      decide
    have he : [e].filter (after (some e.1)) = [] := by
      refine List.filter_eq_nil_iff.mpr fun a ha => ?_
      rw [List.mem_singleton.mp ha, after_some, compare_self]
      decide
    have hpost : post.filter (after (some e.1)) = post :=
      List.filter_eq_self.mpr fun b hb => after_some.mpr (hrest e (by simp) b hb)
    rw [List.getLast?_concat, Option.map_some, List.filter_append, List.filter_append, hes, he, hpost,
      List.nil_append, List.nil_append]

/-! ### Pages of one entry -/

/-- Pages of one entry tell the keys apart, and what each of them shows. -/
theorem shown_rest (f : K → V → B) {pre' post' : List (K × V)}
    (h : (pre ++ post).Pairwise fun a b => compare a.1 b.1 = .lt)
    (h' : (pre' ++ post').Pairwise fun a b => compare a.1 b.1 = .lt)
    (hlast : pre.getLast?.map Prod.fst = pre'.getLast?.map Prod.fst)
    (hsame : ∀ start, answer f (page (pre ++ post) start 1) = answer f (page (pre' ++ post') start 1)) :
    post.map (fun e => (e.1, f e.1 e.2)) = post'.map fun e => (e.1, f e.1 e.2) := by
  induction post generalizing pre pre' post' with
  | nil =>
    have hnext := hsame (pre.getLast?.map Prod.fst)
    rw [page, filter_after h, hlast, page, filter_after h', answer_eq, answer_eq] at hnext
    cases post' with
    | nil => rfl
    | cons e' es' => simp at hnext
  | cons e es ih =>
    have hnext := hsame (pre.getLast?.map Prod.fst)
    rw [page, filter_after h, hlast, page, filter_after h', answer_eq, answer_eq] at hnext
    cases post' with
    | nil => simp at hnext
    | cons e' es' =>
      simp only [List.take_succ_cons, List.take_zero, List.getLast?_singleton, Option.map_some, List.map_cons,
        List.map_nil, Prod.mk.injEq, Option.some.injEq, List.cons.injEq, and_true] at hnext
      obtain ⟨hkey, hitem⟩ := hnext
      have hrest := @ih (pre ++ [e]) (pre' ++ [e']) es' (by simpa using h) (by simpa using h') (by simpa using hkey)
        (by simpa using hsame)
      have hfirst : (e.1, f e.1 e.2) = (e'.1, f e'.1 e'.2) := Prod.ext hkey hitem
      rw [List.map_cons, List.map_cons, hrest, hfirst]

/-- Maps with the same pages of one entry are equal, if the items tell the values apart. -/
theorem eq_of_pages [LawfulEqOrd K] {m m' : ExtTreeMap K V} (f : K → V → B)
    (hinj : ∀ (k : K) (v v' : V), m[k]? = some v → m'[k]? = some v' → f k v = f k v' → v = v')
    (hsame : ∀ start, answer f (page m.toList start 1) = answer f (page m'.toList start 1)) : m = m' := by
  have hshown := @shown_rest K V B _ _ [] m.toList f [] m'.toList ExtTreeMap.ordered_keys_toList
    ExtTreeMap.ordered_keys_toList rfl hsame
  apply ExtTreeMap.ext_getElem?
  intro k
  cases hk : m[k]? with
  | some v =>
    have hmem := List.mem_map_of_mem (f := fun e : K × V => (e.1, f e.1 e.2))
      (ExtTreeMap.mem_toList_iff_getElem?_eq_some.mpr hk)
    rw [hshown] at hmem
    obtain ⟨⟨k', v'⟩, hmem', heq⟩ := List.mem_map.mp hmem
    simp only [Prod.mk.injEq] at heq
    obtain ⟨rfl, hitem⟩ := heq
    have hk' := ExtTreeMap.mem_toList_iff_getElem?_eq_some.mp hmem'
    rw [hk', hinj k' v v' hk hk' hitem.symm]
  | none =>
    cases hk' : m'[k]? with
    | none => rfl
    | some v' =>
      have hmem := List.mem_map_of_mem (f := fun e : K × V => (e.1, f e.1 e.2))
        (ExtTreeMap.mem_toList_iff_getElem?_eq_some.mpr hk')
      rw [← hshown] at hmem
      obtain ⟨⟨k', v⟩, hmem', heq⟩ := List.mem_map.mp hmem
      simp only [Prod.mk.injEq] at heq
      obtain ⟨rfl, -⟩ := heq
      rw [ExtTreeMap.mem_toList_iff_getElem?_eq_some.mp hmem'] at hk
      cases hk

/-! ### All pages -/

/-- The rest of the entries is what is still asked for, after the last key of a first part. -/
theorem walk_rest (f : K → V → B) {limit fuel : ℕ} (hlimit : 1 ≤ limit)
    (h : (pre ++ post).Pairwise fun a b => compare a.1 b.1 = .lt) (hfuel : post.length < fuel) :
    walk (fun start => answer f (page (pre ++ post) start limit)) fuel (pre.getLast?.map Prod.fst) =
      some (post.map fun e => f e.1 e.2) := by
  induction fuel generalizing pre post with
  | zero => cases hfuel
  | succ fuel ih =>
    rw [walk, page, filter_after h, answer_eq]
    by_cases hpost : post = []
    · subst hpost
      simp
    · have hne : post.take limit ≠ [] := by simp [hpost]; omega
      have hlast := List.getLast?_eq_some_getLast hne
      have hsplit : pre ++ post = (pre ++ post.take limit) ++ post.drop limit := by
        rw [List.append_assoc, List.take_append_drop]
      have hrest := @ih (pre ++ post.take limit) (post.drop limit) (hsplit ▸ h) (by
        have := List.length_pos_iff.mpr hpost
        rw [List.length_drop]
        omega)
      rw [← hsplit, List.getLast?_append, hlast, Option.some_or, Option.map_some] at hrest
      rw [hlast, Option.map_some]
      simp only [hrest, Option.map_some, ← List.map_append, List.take_append_drop]

/-- **The pages are the whole list**, whatever their size. -/
theorem walk_eq (f : K → V → B) {entries : List (K × V)} {limit fuel : ℕ} (hlimit : 1 ≤ limit)
    (h : entries.Pairwise fun a b => compare a.1 b.1 = .lt) (hfuel : entries.length < fuel) :
    walk (fun start => answer f (page entries start limit)) fuel none = some (entries.map fun e => f e.1 e.2) :=
  @walk_rest K V B _ _ [] entries f limit fuel hlimit h hfuel

/-- A map is enumerated by its pages. -/
theorem enumerates_pages [LawfulEqOrd K] (m : ExtTreeMap K V) (f : K → V → B) {limit : ℕ} (hlimit : 1 ≤ limit) :
    Enumerates (fun start => answer f (page m.toList start limit)) m f :=
  ⟨m.toList, ExtTreeMap.ordered_keys_toList, fun _ _ => ExtTreeMap.mem_toList_iff_getElem?_eq_some,
    fun _ => walk_eq f hlimit ExtTreeMap.ordered_keys_toList⟩

end XrplBridge.Library
