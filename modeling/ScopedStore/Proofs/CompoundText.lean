/-
Lists and sets are read back as they were written.

`splitItems_written`: one written item is read as that item, whatever is read after it. From there `splitItems_join` is
an induction over the items. Arrays go through `Json.read_text_strings`.
- `encodeList_eq_error`: what cannot be written is an item that holds the delimiter while nothing marks it; the first
  such item is named.
- `decodeList_encodeList`, `decodeSet_encodeSet`: what was written is read back, except that under a delimiter a single
  empty item has the same text as the empty list (`readBack`).
- `compound_text_is_read_back`: all of this for every notation that a consistent configuration may have.
-/
import ScopedStore.Config.Basic
import ScopedStore.Proofs.Consistency
import ScopedStore.Proofs.JsonText
import ScopedStore.Proofs.Result

namespace ScopedStore

/-! ## First occurrences -/

namespace Text

variable {α : Type} [DecidableEq α] {items : List α} {x : α}

@[simp] theorem mem_dedupe : x ∈ dedupe items ↔ x ∈ items := by
  induction items using List.reverseRecOn with
  | nil => rfl
  | append_singleton items y ih =>
    have hstep : dedupe (items ++ [y]) = if y ∈ dedupe items then dedupe items else dedupe items ++ [y] :=
      List.foldl_append
    rw [hstep]
    split_ifs with hy
    · rw [ih, List.mem_append, List.mem_singleton, or_iff_left_of_imp]
      rintro rfl
      exact ih.1 hy
    · simp [ih]

theorem dedupe_append_of_mem (h : x ∈ items) : dedupe (items ++ [x]) = dedupe items :=
  List.foldl_append.trans (if_pos (mem_dedupe.2 h))

theorem dedupe_append_of_not_mem (h : x ∉ items) : dedupe (items ++ [x]) = dedupe items ++ [x] :=
  List.foldl_append.trans (if_neg (mt mem_dedupe.1 h))

theorem dedupe_eq_eraseDups (items : List α) : dedupe items = items.eraseDups := by
  induction items using List.reverseRecOn with
  | nil => rfl
  | append_singleton items x ih =>
    rw [List.eraseDups_append, ← ih]
    by_cases h : x ∈ items
    · rw [dedupe_append_of_mem h]
      simp [List.removeAll, h]
    · rw [dedupe_append_of_not_mem h]
      simp [List.removeAll, h, List.eraseDups_cons]

@[simp] theorem dedupe_dedupe (items : List α) : dedupe (dedupe items) = dedupe items := by
  induction items using List.reverseRecOn with
  | nil => rfl
  | append_singleton items x ih =>
    by_cases h : x ∈ items
    · rw [dedupe_append_of_mem h, ih]
    · rw [dedupe_append_of_not_mem h, dedupe_append_of_not_mem (mt mem_dedupe.1 h), ih]

theorem dedupe_dedupe_append (items : List α) (x : α) : dedupe (dedupe items ++ [x]) = dedupe (items ++ [x]) := by
  by_cases h : x ∈ items
  · rw [dedupe_append_of_mem h, dedupe_append_of_mem (mem_dedupe.2 h), dedupe_dedupe]
  · rw [dedupe_append_of_not_mem h, dedupe_append_of_not_mem (mt mem_dedupe.1 h), dedupe_dedupe]

/-- what is looked for is found at its first occurrence -/
theorem find?_dedupe (p : α → Bool) (items : List α) : (dedupe items).find? p = items.find? p := by
  induction items using List.reverseRecOn with
  | nil => rfl
  | append_singleton items x ih =>
    rw [List.find?_append, ← ih]
    by_cases h : x ∈ items
    · rw [dedupe_append_of_mem h]
      cases hf : (dedupe items).find? p with
      | some y => rfl
      | none =>
        have hx : p x = false := by simpa using List.find?_eq_none.1 hf x (mem_dedupe.2 h)
        simp [hx]
    · rw [dedupe_append_of_not_mem h, List.find?_append]

end Text

namespace CompoundNotation

/-- the escape is not the delimiter -/
def Admitted : CompoundNotation → Prop
  | .delimited delimiter escape => escape ≠ some delimiter
  | .jsonArray => True

theorem admitted_iff {config : Config} : config.compoundNotation.Admitted ↔ config.checkNotation = .ok () := by
  unfold Config.checkNotation
  cases config.compoundNotation with
  | delimited delimiter escape => simp [Admitted]
  | jsonArray => simp [Admitted]

/-- the notation of a consistent configuration -/
theorem admitted_of_validate {config : Config} (h : config.validate = .ok ()) : config.compoundNotation.Admitted :=
  admitted_iff.2 (Config.consistentUpToEnums_of_validate h).delimiters

/-! ## Delimited items -/

section Delimited

variable {delimiter : Char} {escape : Option Char}

theorem splitItems_delimiter (hd : escape ≠ some delimiter) (cs : List Char) :
    splitItems delimiter escape (delimiter :: cs) = (splitItems delimiter escape cs).map ([] :: ·) := by
  cases cs with
  | nil => simp [splitItems, hd.symm]
  | cons c cs => simp [splitItems, hd.symm]

theorem splitItems_plain {c : Char} (hd : c ≠ delimiter) (he : escape ≠ some c) (cs : List Char) :
    splitItems delimiter escape (c :: cs) = (splitItems delimiter escape cs).map (prependToFirst c) := by
  cases cs with
  | nil => simp [splitItems, hd, he.symm, prependToFirst]
  | cons c' cs => simp [splitItems, hd, he.symm]

theorem splitItems_escaped (e c : Char) (cs : List Char) :
    splitItems delimiter (some e) (e :: c :: cs) = (splitItems delimiter (some e) cs).map (prependToFirst c) := by
  simp [splitItems]

theorem markItem_cons_marked {e c : Char} (h : c = e ∨ c = delimiter) (cs : List Char) :
    markItem delimiter e (c :: cs) = e :: c :: markItem delimiter e cs := by
  simp [markItem, h]

theorem markItem_cons_plain {e c : Char} (h : ¬(c = e ∨ c = delimiter)) (cs : List Char) :
    markItem delimiter e (c :: cs) = c :: markItem delimiter e cs := by
  simp [markItem, h]

/-- a marked item stands before what is read after it -/
theorem splitItems_markItem {e : Char} (cs : List Char) {rest first : List Char} {more : List (List Char)}
    (hrest : splitItems delimiter (some e) rest = some (first :: more)) :
    splitItems delimiter (some e) (markItem delimiter e cs ++ rest) = some ((cs ++ first) :: more) := by
  induction cs with
  | nil => exact hrest
  | cons c cs ih =>
    by_cases hc : c = e ∨ c = delimiter
    · rw [markItem_cons_marked hc, List.cons_append, List.cons_append, splitItems_escaped, ih]
      rfl
    · have hd : c ≠ delimiter := fun h => hc (.inr h)
      have he : some e ≠ some c := fun h => hc (.inl (Option.some.inj h).symm)
      rw [markItem_cons_plain hc, List.cons_append, splitItems_plain hd he, ih]
      rfl

/-- so does an item without the delimiter, where nothing is marked -/
theorem splitItems_free {cs : List Char} (hfree : delimiter ∉ cs) {rest first : List Char} {more : List (List Char)}
    (hrest : splitItems delimiter none rest = some (first :: more)) :
    splitItems delimiter none (cs ++ rest) = some ((cs ++ first) :: more) := by
  induction cs with
  | nil => exact hrest
  | cons c cs ih =>
    obtain ⟨hc, hcs⟩ := not_or.1 (mt List.mem_cons.2 hfree)
    rw [List.cons_append, splitItems_plain (Ne.symm hc) (Option.some_ne_none c).symm, ih hcs]
    rfl

theorem writeItem_none_eq_ok {item : String} {written : List Char} :
    writeItem delimiter none item = .ok written ↔ delimiter ∉ item.toList ∧ written = item.toList := by
  unfold writeItem
  simp only [List.contains_eq_mem, decide_eq_true_eq]
  split_ifs with h
  · simp [h]
  · simp [h, eq_comm]

theorem splitItems_written {item : String} {written : List Char}
    (hw : writeItem delimiter escape item = .ok written) {rest first : List Char} {more : List (List Char)}
    (hrest : splitItems delimiter escape rest = some (first :: more)) :
    splitItems delimiter escape (written ++ rest) = some ((item.toList ++ first) :: more) := by
  cases escape with
  | some e =>
    obtain rfl := Except.ok.inj hw
    exact splitItems_markItem item.toList hrest
  | none =>
    obtain ⟨hfree, rfl⟩ := writeItem_none_eq_ok.1 hw
    exact splitItems_free hfree hrest

/-- **Items are read back from between the delimiters.** -/
theorem splitItems_join (hd : escape ≠ some delimiter) {items : List String} (hne : items ≠ [])
    {written : List (List Char)} (hw : items.mapM (writeItem delimiter escape) = .ok written) :
    splitItems delimiter escape (Text.join delimiter written) = some (items.map String.toList) := by
  induction items generalizing written with
  | nil => exact absurd rfl hne
  | cons item items ih =>
    obtain ⟨w, ws, hitem, hws, rfl⟩ := Result.mapM_cons_eq_ok.1 hw
    cases items with
    | nil =>
      obtain rfl := Except.ok.inj hws
      have hnone : splitItems delimiter escape [] = some [[]] := rfl
      have hlast := splitItems_written hitem hnone
      rwa [List.append_nil, List.append_nil, ← Text.join_singleton delimiter w] at hlast
    | cons next items =>
      -- what follows the first item starts with a delimiter, so it is read with nothing in front of its first item
      have htail := ih (List.cons_ne_nil next items) hws
      obtain ⟨w', ws', -, -, rfl⟩ := Result.mapM_cons_eq_ok.1 hws
      have hrest : splitItems delimiter escape (delimiter :: Text.join delimiter (w' :: ws')) =
          some ([] :: (next :: items).map String.toList) := by
        rw [splitItems_delimiter hd, htail]
        rfl
      rw [Text.join_cons_cons, splitItems_written hitem hrest, List.append_nil]
      rfl

/-- no items are written as nothing, and so is a single empty item; nothing else is -/
theorem join_eq_nil (hd : escape ≠ some delimiter) {items : List String} (hne : items ≠ [])
    {written : List (List Char)} (hw : items.mapM (writeItem delimiter escape) = .ok written) :
    Text.join delimiter written = [] ↔ items = [""] := by
  constructor
  · intro hnil
    have hsplit := splitItems_join hd hne hw
    rw [hnil] at hsplit
    have hitems : items.map String.toList = [""].map String.toList := (Option.some.inj hsplit).symm
    exact List.map_injective_iff.2 (fun _ _ => String.toList_inj.1) hitems
  · rintro rfl
    obtain ⟨w, ws, hitem, hws, rfl⟩ := Result.mapM_cons_eq_ok.1 hw
    obtain rfl := Except.ok.inj hws
    cases escape with
    | some e => obtain rfl := Except.ok.inj hitem; rfl
    | none => obtain ⟨-, rfl⟩ := writeItem_none_eq_ok.1 hitem; rfl

theorem writeItem_none_of_mem {item : String} (h : delimiter ∈ item.toList) :
    writeItem delimiter none item = .error (.notCompound item (.containsDelimiter delimiter)) :=
  if_pos (List.contains_iff_mem.2 h)

theorem writeItem_none_of_not_mem {item : String} (h : delimiter ∉ item.toList) :
    writeItem delimiter none item = .ok item.toList :=
  writeItem_none_eq_ok.2 ⟨h, rfl⟩

/-- every item can be written where there is an escape to mark it with -/
theorem mapM_writeItem_some (e : Char) (items : List String) :
    items.mapM (writeItem delimiter (some e)) = .ok (items.map fun item => markItem delimiter e item.toList) := by
  induction items with
  | nil => rfl
  | cons item items ih => exact Result.mapM_cons_eq_ok.2 ⟨_, _, rfl, ih, rfl⟩

/-- where there is none, writing stops at the first item that holds the delimiter -/
theorem mapM_writeItem_none_eq_error {items : List String} {err : CoercionError} :
    items.mapM (writeItem delimiter none) = .error err ↔ ∃ item,
      items.find? (delimiter ∈ ·.toList) = some item ∧ err = .notCompound item (.containsDelimiter delimiter) := by
  induction items with
  | nil => simp [pure, Except.pure]
  | cons item items ih =>
    rw [Result.mapM_cons_eq_error, ih]
    by_cases h : delimiter ∈ item.toList
    · simp [writeItem_none_of_mem h, h, eq_comm]
    · simp [writeItem_none_of_not_mem h, h]

end Delimited

/-! ## Arrays -/

theorem mapM_elementText_string (items : List String) : (items.map Json.string).mapM elementText = .ok items := by
  induction items with
  | nil => rfl
  | cons item items ih => exact Result.mapM_cons_eq_ok.2 ⟨item, items, rfl, ih, rfl⟩

theorem text_array_ne_empty (items : List Json) : (Json.array items).text ≠ "" := by
  intro h
  have hlist : (Json.array items).write = [] := by
    rw [← String.toList_ofList (l := (Json.array items).write), ← Json.text, h]
    rfl
  rw [Json.write] at hlist
  exact List.cons_ne_nil _ _ hlist

/-! ## Lists and sets -/

variable {n : CompoundNotation} {items : List String} {raw : String}

/-- what is read back of a list: under a delimiter, a single empty item looks like no item at all -/
def readBack (n : CompoundNotation) (items : List String) : List String :=
  if n ≠ .jsonArray ∧ items = [""] then [] else items

theorem encodeList_delimited_eq_ok {delimiter : Char} {escape : Option Char} :
    (delimited delimiter escape).encodeList items = .ok raw ↔ ∃ written,
      items.mapM (writeItem delimiter escape) = .ok written ∧ String.ofList (Text.join delimiter written) = raw := by
  simp only [encodeList, Result.bind_eq_ok, pure, Except.pure, Except.ok.injEq]

theorem encodeList_delimited_eq_error {delimiter : Char} {escape : Option Char} {err : CoercionError} :
    (delimited delimiter escape).encodeList items = .error err ↔
      items.mapM (writeItem delimiter escape) = .error err := by
  simp [encodeList, Result.bind_eq_error, pure, Except.pure]

/-- **What cannot be written is an item that holds the delimiter while nothing marks it; the first one is named.** -/
theorem encodeList_eq_error {err : CoercionError} : n.encodeList items = .error err ↔ ∃ delimiter item,
    n = .delimited delimiter none ∧ items.find? (delimiter ∈ ·.toList) = some item ∧
      err = .notCompound item (.containsDelimiter delimiter) := by
  match n with
  | .jsonArray => simp [encodeList]
  | .delimited delimiter (some e) => simp [encodeList_delimited_eq_error, mapM_writeItem_some]
  | .delimited delimiter none =>
    rw [encodeList_delimited_eq_error, mapM_writeItem_none_eq_error]
    simp

/-- **A written list is read back.** -/
theorem decodeList_encodeList (hn : n.Admitted) (h : n.encodeList items = .ok raw) :
    n.decodeList raw = .ok (n.readBack items) := by
  match n with
  | .jsonArray =>
    obtain rfl := Except.ok.inj h
    have hread : readBack .jsonArray items = items := if_neg fun h => h.1 rfl
    simp only [decodeList, if_neg (text_array_ne_empty _), Json.read_text_strings, mapM_elementText_string, hread]
    rfl
  | .delimited delimiter escape =>
    obtain ⟨written, hw, rfl⟩ := encodeList_delimited_eq_ok.1 h
    have hread : (delimited delimiter escape).readBack items = if items = [""] then [] else items := by simp [readBack]
    rw [hread]
    by_cases hne : items = []
    · subst hne
      obtain rfl := Except.ok.inj hw
      rfl
    · have hempty : String.ofList (Text.join delimiter written) = "" ↔ items = [""] := by
        rw [← join_eq_nil hn hne hw, String.ofList_eq_empty_iff]
      by_cases hitems : items = [""]
      · rw [decodeList, if_pos (hempty.2 hitems), if_pos hitems]
      · have hsplit := splitItems_join hn hne hw
        simp only [decodeList, if_neg (mt hempty.1 hitems), String.toList_ofList, hsplit, if_neg hitems, List.map_map]
        simp [Function.comp_def]

/-- **A written set is read back.** -/
theorem decodeSet_encodeSet (hn : n.Admitted) (h : n.encodeSet items = .ok raw) :
    n.decodeSet raw = .ok (n.readBack (Text.dedupe items)) := by
  have hkept : Text.dedupe (n.readBack (Text.dedupe items)) = n.readBack (Text.dedupe items) := by
    unfold readBack
    split_ifs
    · rfl
    · exact Text.dedupe_dedupe items
  rw [decodeSet, decodeList_encodeList hn h, Except.map, hkept]

/-- a set cannot be written when the list cannot, and the same item is named -/
theorem encodeSet_eq_error {err : CoercionError} :
    n.encodeSet items = .error err ↔ n.encodeList items = .error err := by
  rw [encodeSet, encodeList_eq_error, encodeList_eq_error]
  simp only [Text.find?_dedupe]

/-- **Compound texts are read back.** In every notation whose escape is not its delimiter, writing a list fails just when
nothing marks a delimiter that an item holds, and names the first such item. A list that was written is read back as it
was, and a set in the order of first occurrences; only a single empty item is lost under a delimiter. -/
theorem compound_text_is_read_back (n : CompoundNotation) (hn : n.Admitted) (items : List String) :
    (∀ err, n.encodeList items = .error err ↔ ∃ delimiter item, n = .delimited delimiter none ∧
      items.find? (delimiter ∈ ·.toList) = some item ∧ err = .notCompound item (.containsDelimiter delimiter)) ∧
    (∀ raw, n.encodeList items = .ok raw → n.decodeList raw = .ok (n.readBack items)) ∧
    (∀ err, n.encodeSet items = .error err ↔ n.encodeList items = .error err) ∧
    ∀ raw, n.encodeSet items = .ok raw → n.decodeSet raw = .ok (n.readBack items.eraseDups) := by
  refine ⟨fun err => encodeList_eq_error, fun raw => decodeList_encodeList hn, fun err => encodeSet_eq_error, ?_⟩
  intro raw hraw
  rw [decodeSet_encodeSet hn hraw, Text.dedupe_eq_eraseDups]

/-- items that hold delimiters and end in escapes, with an empty and a repeated one -/
theorem marked_items_are_read_back :
    Admitted (.delimited ',' (some '\\')) ∧
      encodeSet (.delimited ',' (some '\\')) ["a,", "", "b\\", "a,"] = .ok "a\\,,,b\\\\" ∧
      decodeSet (.delimited ',' (some '\\')) "a\\,,,b\\\\" = .ok ["a,", "", "b\\"] := by
  have hn : Admitted (.delimited ',' (some '\\')) := Option.some_inj.not.2 (by decide)
  have hraw : encodeSet (.delimited ',' (some '\\')) ["a,", "", "b\\", "a,"] = .ok "a\\,,,b\\\\" := by decide +kernel
  exact ⟨hn, hraw, (compound_text_is_read_back _ hn ["a,", "", "b\\", "a,"]).2.2.2 _ hraw⟩

end CompoundNotation
end ScopedStore
