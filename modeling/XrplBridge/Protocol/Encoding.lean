import Mathlib.Data.Bool.AllAny
import XrplBridge.Library.Texts
import XrplBridge.Contract.Evidence
import XrplBridge.Reference

/-!
# What an evidence is hashed as

Votes are counted under the hash of the JSON of an evidence, so two evidences must not have the same
JSON. `Readable` is what that takes of each value in it: the values are read in one way before a comma or
a bracket, and their texts are different. Strings are readable since they are quoted and escaped
(`EscapesJson`), numbers and absent values since they contain no commas or brackets, and objects and
arrays since what is in them is; the fields of an object have fixed names. In the end the bytes determine
the evidence (`hashed_injective`).
-/

namespace XrplBridge

open Library Contract Std

/-- The characters that end a value. -/
def JsonStop (c : Char) : Prop := c = ',' ∨ c = '}' ∨ c = ']'

instance instDecidableJsonStop (c : Char) : Decidable (JsonStop c) :=
  inferInstanceAs (Decidable (c = ',' ∨ c = '}' ∨ c = ']'))

/-- The serializer escapes the strings: between quotes there is no quote that is not escaped, and no two
strings are escaped alike. -/
structure Contract.Host.EscapesJson (H : Host) : Prop where
  escaped : ∀ s, Escaped '"' '\\' (H.jsonEscape s).toList
  injective : Function.Injective H.jsonEscape

/-- A value whose text is read in one way, before the end of a value. -/
structure Readable {A : Type} (json : A → String) : Prop where
  separable : ∀ a b, Separable JsonStop (json a).toList (json b).toList
  injective : Function.Injective json

variable {H : Host} {A : Type} {json : A → String}

/-! ### Strings, numbers and absent values -/

theorem toList_jsonString (s : String) : (jsonString H s).toList = '"' :: ((H.jsonEscape s).toList ++ ['"']) := by
  simp [jsonString, String.toList_append]

theorem readable_jsonString (h : H.EscapesJson) : Readable (jsonString H) where
  separable s t := by
    rw [toList_jsonString, toList_jsonString]
    exact (((h.escaped s).selfEnding (by decide) (h.escaped t)).cons '"').separable
  injective s t heq := by
    have hlist := congrArg String.toList heq
    rw [toList_jsonString, toList_jsonString, List.cons.injEq, List.append_cancel_right_eq] at hlist
    exact h.injective (String.toList_inj.mp hlist.2)

theorem not_jsonStop_of_digit {c : Char} (h : c.isDigit = true) : ¬ JsonStop c := by
  rintro (rfl | rfl | rfl) <;> cases h

theorem toList_toString (n : ℕ) : (toString n).toList = Nat.toDigits 10 n := by
  rw [Nat.toString_eq_ofList_toDigits, String.toList_ofList]

theorem isDigit_of_mem_toString {n : ℕ} {c : Char} (h : c ∈ (toString n).toList) : c.isDigit = true := by
  rw [toList_toString] at h
  exact Nat.isDigit_of_mem_toDigits (by decide) (by decide) h

theorem toString_nat_injective : Function.Injective (toString : ℕ → String) := by
  intro n m heq
  have hlist := congrArg String.toList heq
  rw [toList_toString, toList_toString] at hlist
  rw [← Nat.ofDigitChars_ten_toDigits (n := n), hlist, Nat.ofDigitChars_ten_toDigits]

theorem readable_toString : Readable (toString : ℕ → String) where
  separable _ _ := separable_of_free (fun _ hx => not_jsonStop_of_digit (isDigit_of_mem_toString hx))
    fun _ hx => not_jsonStop_of_digit (isDigit_of_mem_toString hx)
  injective := toString_nat_injective

/-- A value that does not start like `null` may be absent. -/
theorem Readable.option (h : Readable json) (hn : ∀ a, ∃ c cs, (json a).toList = c :: cs ∧ c ≠ 'n') :
    Readable (jsonOption json) := by
  have hnull : "null".toList = ['n', 'u', 'l', 'l'] := by decide
  constructor
  · intro a b
    cases a with
    | none =>
      cases b with
      | none => exact fun _ _ _ _ _ _ _ => rfl
      | some b =>
        obtain ⟨c, cs, hb, hc⟩ := hn b
        simp only [jsonOption, hnull, hb]
        exact separable_of_head hc.symm
    | some a =>
      cases b with
      | none =>
        obtain ⟨c, cs, ha, hc⟩ := hn a
        simp only [jsonOption, hnull, ha]
        exact separable_of_head hc
      | some b => exact h.separable a b
  · have hne : ∀ a, json a ≠ "null" := by
      intro a heq
      obtain ⟨c, cs, ha, hc⟩ := hn a
      rw [heq, hnull, List.cons.injEq] at ha
      exact hc ha.1.symm
    intro a b heq
    cases a with
    | none =>
      cases b with
      | none => rfl
      | some b => exact absurd heq.symm (hne b)
    | some a =>
      cases b with
      | none => exact absurd heq (hne a)
      | some b => rw [h.injective heq]

theorem head_jsonString (s : String) : ∃ c cs, (jsonString H s).toList = c :: cs ∧ c ≠ 'n' :=
  ⟨_, _, toList_jsonString s, by decide⟩

theorem head_toString (n : ℕ) : ∃ c cs, (toString n).toList = c :: cs ∧ c ≠ 'n' := by
  cases hn : (toString n).toList with
  | nil => exact absurd ((toList_toString n).symm.trans hn) Nat.toDigits_ne_nil
  | cons c cs =>
    refine ⟨c, cs, rfl, ?_⟩
    rintro rfl
    have hdigit := isDigit_of_mem_toString (n := n) (c := 'n') (hn ▸ List.mem_cons_self)
    cases hdigit

/-! ### Objects and arrays -/

/-- Two fields of one name, with separable values. -/
def SameField (f g : String × String) : Prop := f.1 = g.1 ∧ Separable JsonStop f.2.toList g.2.toList

/-- The text of a field. -/
def fieldText (f : String × String) : List Char := '"' :: (f.1.toList ++ '"' :: ':' :: f.2.toList)

theorem toList_jsonObject (fs : List (String × String)) :
    (jsonObject fs).toList = '{' :: ([','].intercalate (fs.map fieldText) ++ ['}']) := by
  have hfields : (fs.map fun f => "\"" ++ f.1 ++ "\":" ++ f.2).map String.toList = fs.map fieldText := by
    rw [List.map_map]
    refine List.map_congr_left fun f _ => ?_
    simp [fieldText, String.toList_append]
  simp only [jsonObject, String.toList_append, String.toList_intercalate, hfields]
  rfl

theorem separable_fieldText {f g : String × String} (h : SameField f g) :
    Separable JsonStop (fieldText f) (fieldText g) := by
  have hname : ∀ f : String × String, fieldText f = ('"' :: f.1.toList ++ ['"', ':']) ++ f.2.toList := by
    simp [fieldText]
  rw [hname, hname, h.1]
  exact h.2.append_left _

/-- Objects with the same names are read field by field. -/
theorem intercalate_fieldText_inj {fs gs : List (String × String)} (h : List.Forall₂ SameField fs gs) {r r' : List Char}
    (heq : [','].intercalate (fs.map fieldText) ++ '}' :: r = [','].intercalate (gs.map fieldText) ++ '}' :: r') :
    fs = gs := by
  have hsep : List.Forall₂ (Separable JsonStop) (fs.map fieldText) (gs.map fieldText) := by
    rw [List.forall₂_map_left_iff, List.forall₂_map_right_iff]
    exact h.imp fun _ _ => separable_fieldText
  have hmap := intercalate_inj hsep (.inl rfl) (.inr (.inl rfl)) (.inr (.inl rfl)) heq
  clear hsep heq
  induction h with
  | nil => rfl
  | @cons f g fs gs hfg _ ih =>
    rw [List.map_cons, List.map_cons, List.cons.injEq] at hmap
    obtain ⟨hfield, hrest⟩ := hmap
    have hvalue : f.2 = g.2 := by
      rw [fieldText, fieldText, hfg.1, List.cons.injEq, List.append_cancel_left_eq, List.cons.injEq,
        List.cons.injEq] at hfield
      exact String.toList_inj.mp hfield.2.2.2
    rw [ih hrest, Prod.ext hfg.1 hvalue]

theorem selfEnding_jsonObject {fs gs : List (String × String)} (h : List.Forall₂ SameField fs gs) :
    SelfEnding (jsonObject fs).toList (jsonObject gs).toList := by
  rw [toList_jsonObject, toList_jsonObject]
  apply SelfEnding.cons
  intro r r' heq
  rw [List.append_assoc, List.append_assoc] at heq
  rw [intercalate_fieldText_inj h heq]

/-- **Objects with the same names and the same text have the same values.** -/
theorem jsonObject_inj {fs gs : List (String × String)} (h : List.Forall₂ SameField fs gs)
    (heq : jsonObject fs = jsonObject gs) : fs = gs := by
  have hlist := congrArg String.toList heq
  rw [toList_jsonObject, toList_jsonObject] at hlist
  exact intercalate_fieldText_inj h (List.cons.inj hlist).2

theorem Readable.field (h : Readable json) (name : String) (a b : A) : SameField (name, json a) (name, json b) :=
  ⟨rfl, h.separable a b⟩

theorem SameField.object {fs gs : List (String × String)} (h : List.Forall₂ SameField fs gs) (name : String) :
    SameField (name, jsonObject fs) (name, jsonObject gs) :=
  ⟨rfl, (selfEnding_jsonObject h).separable⟩

/-- An object of one field shows its name. -/
theorem name_eq_of_jsonObject {n m v w : String} (hn : '"' ∉ n.toList) (hm : '"' ∉ m.toList)
    (heq : jsonObject [(n, v)] = jsonObject [(m, w)]) : n = m := by
  have hlist := congrArg String.toList heq
  simp only [toList_jsonObject, List.map_singleton, List.intercalate_singleton, fieldText, List.cons_append,
    List.append_assoc, List.cons.injEq, true_and] at hlist
  have hsep : Separable (· = '"') n.toList m.toList :=
    separable_of_free (fun _ hx h => hn (h ▸ hx)) fun _ hx h => hm (h ▸ hx)
  exact String.toList_injective (hsep rfl rfl hlist)

/-- The array of a list of numbers. -/
def jsonNumbers (ns : List ℕ) : String := "[" ++ String.intercalate "," (ns.map toString) ++ "]"

theorem toList_jsonNumbers (ns : List ℕ) :
    (jsonNumbers ns).toList = '[' :: ([','].intercalate (ns.map fun n => (toString n).toList) ++ [']']) := by
  simp only [jsonNumbers, String.toList_append, String.toList_intercalate, List.map_map]
  rfl

theorem mem_intercalate_numbers {ns : List ℕ} {c : Char}
    (h : c ∈ [','].intercalate (ns.map fun n => (toString n).toList)) : c = ',' ∨ c.isDigit = true := by
  induction ns with
  | nil => cases h
  | cons n ns ih =>
    cases ns with
    | nil => exact .inr (isDigit_of_mem_toString (by simpa using h))
    | cons m ns =>
      simp only [List.map_cons, List.intercalate_cons_cons, List.mem_append, List.mem_singleton] at h ih
      rcases h with (h | h) | h
      · exact .inr (isDigit_of_mem_toString h)
      · exact .inl h
      · exact ih h

theorem splitOn_numbers {ns : List ℕ} (h : ns ≠ []) :
    ([','].intercalate (ns.map fun n => (toString n).toList)).splitOn ',' = ns.map fun n => (toString n).toList := by
  apply List.splitOn_intercalate
  · rw [List.forall_mem_map]
    intro n _ hn
    cases isDigit_of_mem_toString hn
  · simpa using h

/-- A list of numbers that is not empty has a text that is not empty. -/
theorem intercalate_numbers_ne_nil {ns : List ℕ} (h : ns ≠ []) :
    [','].intercalate (ns.map fun n => (toString n).toList) ≠ [] := by
  obtain ⟨n, ns, rfl⟩ := List.exists_cons_of_ne_nil h
  intro hnil
  have hsplit := splitOn_numbers h
  rw [hnil, List.map_cons, List.splitOn_nil, List.cons.injEq] at hsplit
  obtain ⟨c, cs, hn, -⟩ := head_toString n
  rw [hn] at hsplit
  cases hsplit.1

theorem intercalate_numbers_inj {ns ms : List ℕ}
    (h : [','].intercalate (ns.map fun n => (toString n).toList) =
      [','].intercalate (ms.map fun n => (toString n).toList)) : ns = ms := by
  by_cases hns : ns = []
  · subst hns
    by_contra hms
    exact intercalate_numbers_ne_nil (Ne.symm hms) h.symm
  · by_cases hms : ms = []
    · subst hms
      exact absurd h (intercalate_numbers_ne_nil hns)
    · have hmap := splitOn_numbers hns
      rw [h, splitOn_numbers hms] at hmap
      have hinj : Function.Injective fun n : ℕ => (toString n).toList := fun _ _ h =>
        toString_nat_injective (String.toList_injective h)
      exact (List.map_injective_iff.mpr hinj hmap).symm

theorem readable_jsonNumbers : Readable jsonNumbers where
  separable ns ms := by
    have hfree : ∀ (ns : List ℕ), ∀ c ∈ [','].intercalate (ns.map fun n => (toString n).toList), ¬ c = ']' := by
      intro ns c hc
      rcases mem_intercalate_numbers hc with rfl | hc
      · decide
      · rintro rfl
        cases hc
    rw [toList_jsonNumbers, toList_jsonNumbers]
    exact (((separable_of_free (hfree ns) (hfree ms)).selfEnding rfl).cons '[').separable
  injective ns ms heq := by
    have hlist := congrArg String.toList heq
    rw [toList_jsonNumbers, toList_jsonNumbers, List.cons.injEq, List.append_cancel_right_eq] at hlist
    exact intercalate_numbers_inj hlist.2

/-! ### The host's strings -/

namespace Reference

/-- The characters that are not put as they are. -/
def escapedChars : List Char := '"' :: '\\' :: (List.range 32).map Char.ofNat

theorem mem_escapedChars {c : Char} (h : c.toNat < 32) : c ∈ escapedChars := by
  have hmem : Char.ofNat c.toNat ∈ escapedChars :=
    List.mem_cons_of_mem _ (List.mem_cons_of_mem _ (List.mem_map_of_mem (List.mem_range.mpr h)))
  rwa [Char.ofNat_toNat] at hmem

/-- A character is put as it is, or one of those that are escaped. -/
theorem escapeChar_cases (c : Char) :
    c ∈ escapedChars ∨ (escapeChar c).toList = [c] ∧ c ≠ '"' ∧ c ≠ '\\' := by
  by_cases hmem : c ∈ escapedChars
  · exact .inl hmem
  · right
    have hquote : c ≠ '"' := fun h => hmem (by rw [h]; decide)
    have hescape : c ≠ '\\' := fun h => hmem (by rw [h]; decide)
    have hline : c ≠ '\n' := fun h => hmem (by rw [h]; decide)
    have hreturn : c ≠ '\r' := fun h => hmem (by rw [h]; decide)
    have htab : c ≠ '\t' := fun h => hmem (by rw [h]; decide)
    have hcontrol : ¬ c.toNat < 32 := fun h => hmem (mem_escapedChars h)
    refine ⟨?_, hquote, hescape⟩
    rw [escapeChar, if_neg hquote, if_neg hescape, if_neg hline, if_neg hreturn, if_neg htab, if_neg (by omega),
      if_neg (by omega), if_neg hcontrol, String.toList_singleton]

/-- What is put for a character that is escaped. -/
theorem escapeChar_escaped {c : Char} (h : c ∈ escapedChars) :
    ∃ x w, (escapeChar c).toList = '\\' :: x :: w ∧ ∀ y ∈ w, y ≠ '"' ∧ y ≠ '\\' := by
  have htable : ∀ c ∈ escapedChars, (escapeChar c).toList.head? = some '\\' ∧ 2 ≤ (escapeChar c).toList.length ∧
      ((escapeChar c).toList.drop 2).all (fun y => y ≠ '"' ∧ y ≠ '\\') = true :=
    List.all_iff_forall_prop.mp (by decide +kernel)
  obtain ⟨hhead, hlength, hall⟩ := htable c h
  have hrest := List.all_iff_forall_prop.mp hall
  generalize (escapeChar c).toList = text at hhead hlength hrest
  cases text with
  | nil => cases hhead
  | cons a text =>
    cases text with
    | nil => simp at hlength
    | cons x w =>
      cases hhead
      exact ⟨x, w, rfl, hrest⟩

theorem escaped_escapeChar (c : Char) : Escaped '"' '\\' (escapeChar c).toList := by
  rcases escapeChar_cases c with hc | ⟨htext, hquote, hescape⟩
  · obtain ⟨x, w, htext, hw⟩ := escapeChar_escaped hc
    rw [htext]
    refine .escaped ?_
    clear htext
    induction w with
    | nil => exact .nil
    | cons y w ih =>
      obtain ⟨hy, hw⟩ := List.forall_mem_cons.mp hw
      exact .plain hy.1 hy.2 (ih hw)
  · rw [htext]
    exact .plain hquote hescape .nil

/-- No character's text starts another's. -/
theorem escapeChar_prefix (c d : Char) (h : (escapeChar c).toList <+: (escapeChar d).toList) : c = d := by
  have htable : ∀ c ∈ escapedChars, escapedChars.all (fun d =>
      (escapeChar c).toList <+: (escapeChar d).toList → c = d) = true :=
    List.all_iff_forall_prop.mp (by decide +kernel)
  rcases escapeChar_cases c with hc | ⟨hc, -, hescape⟩
  · rcases escapeChar_cases d with hd | ⟨hd, -, -⟩
    · exact List.all_iff_forall_prop.mp (htable c hc) d hd h
    · obtain ⟨x, w, htext, -⟩ := escapeChar_escaped hc
      rw [htext, hd] at h
      have hlength := h.length_le
      simp at hlength
  · rcases escapeChar_cases d with hd | ⟨hd, -, -⟩
    · obtain ⟨x, w, htext, -⟩ := escapeChar_escaped hd
      rw [htext, hc] at h
      exact absurd (List.cons_prefix_cons.mp h).1 hescape
    · rw [hc, hd] at h
      exact (List.cons_prefix_cons.mp h).1

theorem toList_jsonEscape (s : String) :
    (host.jsonEscape s).toList = s.toList.flatMap fun c => (escapeChar c).toList := by
  rw [show host.jsonEscape s = String.join (s.toList.map escapeChar) from rfl, String.toList_join, List.flatMap_map]

theorem escapesJson_host : host.EscapesJson where
  escaped s := by
    rw [toList_jsonEscape]
    induction s.toList with
    | nil => exact .nil
    | cons c cs ih => exact (escaped_escapeChar c).append ih
  injective s t heq := by
    have hne : ∀ c, (escapeChar c).toList ≠ [] := by
      intro c hnil
      rcases escapeChar_cases c with hc | ⟨hc, -⟩
      · obtain ⟨x, w, htext, -⟩ := escapeChar_escaped hc
        rw [hnil] at htext
        cases htext
      · rw [hnil] at hc
        cases hc
    have hlist := congrArg String.toList heq
    rw [toList_jsonEscape, toList_jsonEscape] at hlist
    exact String.toList_injective (flatMap_injective hne escapeChar_prefix hlist)

end Reference

/-! ### Evidences -/

theorem readable_transactionResult : Readable TransactionResult.json where
  separable a b := by
    have hfree : ∀ (r : TransactionResult), ∀ c ∈ r.json.toList, ¬ JsonStop c := by
      intro r
      cases r <;> exact List.all_iff_forall_prop.mp (by decide)
    exact separable_of_free (hfree a) (hfree b)
  injective a b h := by
    cases a <;> cases b <;> first | rfl | exact absurd h (by decide)

theorem head_jsonObject (fs : List (String × String)) : ∃ c cs, (jsonObject fs).toList = c :: cs ∧ c ≠ 'n' :=
  ⟨_, _, toList_jsonObject fs, by decide⟩

theorem head_jsonNumbers (ns : List ℕ) : ∃ c cs, (jsonNumbers ns).toList = c :: cs ∧ c ≠ 'n' :=
  ⟨_, _, toList_jsonNumbers ns, by decide⟩

theorem ticketsAllocation_fields (ts us : Option (List ℕ)) :
    List.Forall₂ SameField [("tickets", jsonOption jsonNumbers ts)] [("tickets", jsonOption jsonNumbers us)] :=
  .cons ((readable_jsonNumbers.option head_jsonNumbers).field "tickets" ts us) .nil

theorem readable_operationResult : Readable OperationResult.json where
  separable a b := by
    cases a with
    | ticketsAllocation ts =>
      cases b with
      | ticketsAllocation us =>
        exact (selfEnding_jsonObject (.cons (.object (ticketsAllocation_fields ts us) _) .nil)).separable
  injective a b h := by
    cases a with
    | ticketsAllocation ts =>
      cases b with
      | ticketsAllocation us =>
        have houter := jsonObject_inj (.cons (.object (ticketsAllocation_fields ts us) _) .nil) h
        rw [List.cons.injEq, Prod.mk.injEq] at houter
        have hinner := jsonObject_inj (ticketsAllocation_fields ts us) houter.1.2
        rw [List.cons.injEq, Prod.mk.injEq] at hinner
        rw [(readable_jsonNumbers.option head_jsonNumbers).injective hinner.1.2]

theorem head_operationResult (r : OperationResult) : ∃ c cs, r.json.toList = c :: cs ∧ c ≠ 'n' := by
  cases r with
  | ticketsAllocation ts => exact head_jsonObject _

/-- The fields of a transfer, as serialized. -/
def transferFields (H : Host) (e : TransferEvidence) : List (String × String) :=
  [("tx_hash", jsonString H e.txHash), ("issuer", jsonString H e.issuer), ("currency", jsonString H e.currency),
    ("amount", jsonString H (toString e.amount)), ("recipient", jsonString H e.recipient),
    ("memo", jsonOption (jsonString H) e.memo)]

/-- The fields of a transaction result, as serialized. -/
def resultFields (H : Host) (e : ResultEvidence) : List (String × String) :=
  [("tx_hash", jsonOption (jsonString H) e.txHash), ("account_sequence", jsonOption toString e.accountSequence),
    ("ticket_sequence", jsonOption toString e.ticketSequence), ("transaction_result", e.transactionResult.json),
    ("operation_result", jsonOption OperationResult.json e.operationResult)]

theorem sameFields_transfer (h : H.EscapesJson) (e e' : TransferEvidence) :
    List.Forall₂ SameField (transferFields H e) (transferFields H e') :=
  .cons ((readable_jsonString h).field _ _ _) <| .cons ((readable_jsonString h).field _ _ _) <|
    .cons ((readable_jsonString h).field _ _ _) <| .cons ((readable_jsonString h).field _ _ _) <|
      .cons ((readable_jsonString h).field _ _ _) <|
        .cons (((readable_jsonString h).option head_jsonString).field _ _ _) .nil

theorem sameFields_result (h : H.EscapesJson) (e e' : ResultEvidence) :
    List.Forall₂ SameField (resultFields H e) (resultFields H e') :=
  .cons (((readable_jsonString h).option head_jsonString).field _ _ _) <|
    .cons ((readable_toString.option head_toString).field _ _ _) <|
      .cons ((readable_toString.option head_toString).field _ _ _) <|
        .cons (readable_transactionResult.field _ _ _) <|
          .cons ((readable_operationResult.option head_operationResult).field _ _ _) .nil

theorem transferFields_injective (h : H.EscapesJson) : Function.Injective (transferFields H) := by
  intro e e' heq
  simp only [transferFields, List.cons.injEq, Prod.mk.injEq, true_and, and_true] at heq
  obtain ⟨htx, hissuer, hcurrency, hamount, hrecipient, hmemo⟩ := heq
  have hstring := (readable_jsonString h).injective
  have hoption := ((readable_jsonString h).option head_jsonString).injective
  cases e
  cases e'
  simp only [TransferEvidence.mk.injEq]
  exact ⟨hstring htx, hstring hissuer, hstring hcurrency, toString_nat_injective (hstring hamount),
    hstring hrecipient, hoption hmemo⟩

theorem resultFields_injective (h : H.EscapesJson) : Function.Injective (resultFields H) := by
  intro e e' heq
  simp only [resultFields, List.cons.injEq, Prod.mk.injEq, true_and, and_true] at heq
  obtain ⟨htx, haccount, hticket, hresult, hoperation⟩ := heq
  have hnumber := (readable_toString.option head_toString).injective
  cases e
  cases e'
  simp only [ResultEvidence.mk.injEq]
  exact ⟨((readable_jsonString h).option head_jsonString).injective htx, hnumber haccount, hnumber hticket,
    readable_transactionResult.injective hresult,
    (readable_operationResult.option head_operationResult).injective hoperation⟩

/-- **The JSON of an evidence determines the evidence.** -/
theorem json_injective (h : H.EscapesJson) : Function.Injective (Evidence.json H) := by
  intro e e' heq
  cases e with
  | xrplToCosmosTransfer t =>
    cases e' with
    | xrplToCosmosTransfer t' =>
      have houter := jsonObject_inj (.cons (.object (sameFields_transfer h t t') _) .nil) heq
      rw [List.cons.injEq, Prod.mk.injEq] at houter
      rw [transferFields_injective h (jsonObject_inj (sameFields_transfer h t t') houter.1.2)]
    | xrplTransactionResult t' => exact absurd (name_eq_of_jsonObject (by decide) (by decide) heq) (by decide)
  | xrplTransactionResult t =>
    cases e' with
    | xrplToCosmosTransfer t' => exact absurd (name_eq_of_jsonObject (by decide) (by decide) heq) (by decide)
    | xrplTransactionResult t' =>
      have houter := jsonObject_inj (.cons (.object (sameFields_result h t t') _) .nil) heq
      rw [List.cons.injEq, Prod.mk.injEq] at houter
      rw [resultFields_injective h (jsonObject_inj (sameFields_result h t t') houter.1.2)]

/-- **Votes are counted together only for one evidence**: evidences of either kind, with any fields,
that are hashed from the same bytes are the same. -/
theorem hashed_injective (h : H.EscapesJson) :
    (∀ e : Evidence, e.getHash H = hashBytes H (intoBytes (e.json H))) ∧
      ∀ e e' : Evidence, intoBytes (e.json H) = intoBytes (e'.json H) → e = e' := by
  refine ⟨fun _ => rfl, fun e e' heq => json_injective h (String.toByteArray_inj.mp (ByteArray.ext (Array.ext' heq)))⟩

open Reference in
/-- A relayer who found no tickets does not vote with one who found that none were allocated. -/
theorem hashed_injective_tickets :
    intoBytes (Evidence.json host (.xrplTransactionResult
        ⟨some "ab12", some 1, none, .accepted, some (.ticketsAllocation none)⟩)) ≠
      intoBytes (Evidence.json host (.xrplTransactionResult
        ⟨some "ab12", some 1, none, .accepted, some (.ticketsAllocation (some []))⟩)) := by
  intro heq
  have h := (hashed_injective escapesJson_host).2 _ _ heq
  simp at h

end XrplBridge
