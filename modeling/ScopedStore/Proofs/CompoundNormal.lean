/-
Any text as a list: what is read of it, and when it cannot be read.

A text need not have been written by the store, so escapes may mark what needs no mark, and arrays may hold numbers.
- `splitItems_eq_none`: a delimited text cannot be read just when it ends in an unfinished escape (`Dangles`), which is
  when there is an odd number of escapes at its end (`dangles_iff`).
- `splitItems_ne_empty`, `decodeList_ne_empty`: under a delimiter no text is read as a single empty item.
- `encode_decode`: what is read can be written, and is then read as before.
- `encode_decode_encode`: a text that was written, read and written again is the same.

Main result, `decoding_normalises`.
-/
import ScopedStore.Proofs.Appending

namespace ScopedStore.CompoundNotation

/-! ## Unfinished escapes -/

section Delimited

variable {delimiter e : Char} {escape : Option Char} {cs : List Char}

/-- the text ends right after an escape; it is read from the front, and an escape takes the next character with it -/
inductive Dangles (e : Char) : List Char → Prop where
  | last : Dangles e [e]
  | marked (c : Char) {cs : List Char} (rest : Dangles e cs) : Dangles e (e :: c :: cs)
  | plain {c : Char} {cs : List Char} (other : c ≠ e) (rest : Dangles e cs) : Dangles e (c :: cs)

theorem not_dangles_nil : ¬Dangles e [] := nofun

theorem dangles_marked {c : Char} : Dangles e (e :: c :: cs) ↔ Dangles e cs := by
  constructor
  · intro h
    cases h with
    | marked c rest => exact rest
    | plain other rest => exact absurd rfl other
  · exact .marked c

theorem dangles_plain {c : Char} (hc : c ≠ e) : Dangles e (c :: cs) ↔ Dangles e cs := by
  constructor
  · intro h
    cases h with
    | last => exact absurd rfl hc
    | marked c rest => exact absurd rfl hc
    | plain other rest => exact rest
  · exact .plain hc

/-- how many escapes stand at the end of a text -/
def escapesAtEnd (e : Char) (cs : List Char) : Nat := (cs.reverse.takeWhile (· = e)).length

theorem escapesAtEnd_le (e : Char) (cs : List Char) : escapesAtEnd e cs ≤ cs.length := by
  have h := (List.takeWhile_prefix (· = e) (l := cs.reverse)).length_le
  rwa [List.length_reverse] at h

/-- a character in front counts when it is an escape, and nothing else follows it -/
theorem escapesAtEnd_cons (e c : Char) (cs : List Char) :
    escapesAtEnd e (c :: cs) =
      if escapesAtEnd e cs = cs.length ∧ c = e then cs.length + 1 else escapesAtEnd e cs := by
  unfold escapesAtEnd
  rw [List.reverse_cons, List.takeWhile_append, List.length_reverse]
  by_cases hall : (cs.reverse.takeWhile (· = e)).length = cs.length
  · by_cases hc : c = e
    · simp [hall, hc]
    · simp [hall, hc]
  · simp [hall]

/-- **A text ends in an unfinished escape when the number of escapes at its end is odd.** -/
theorem dangles_iff {e : Char} {cs : List Char} : Dangles e cs ↔ Odd (escapesAtEnd e cs) := by
  match cs with
  | [] => exact iff_of_false not_dangles_nil (by simp [escapesAtEnd])
  | c :: cs =>
    by_cases hc : c = e
    · subst hc
      match cs with
      | [] => exact iff_of_true .last (by simp [escapesAtEnd])
      | d :: cs =>
        -- an escape and what it marks count both or neither, as long as nothing but escapes follows them
        rw [dangles_marked, dangles_iff, escapesAtEnd_cons, escapesAtEnd_cons, List.length_cons]
        have hle := escapesAtEnd_le c cs
        split_ifs with h h' h' <;> grind
    · rw [dangles_plain hc, dangles_iff, escapesAtEnd_cons, if_neg fun h => hc h.2]
termination_by cs.length

/-- **A delimited text cannot be read when it ends in an unfinished escape**, and without escapes it always can. -/
theorem splitItems_eq_none {delimiter : Char} {escape : Option Char} {cs : List Char} :
    splitItems delimiter escape cs = none ↔ ∃ e, escape = some e ∧ Dangles e cs := by
  cases escape with
  | none => simp [splitItems_none]
  | some e =>
    simp only [Option.some.injEq, exists_eq_left']
    match cs with
    | [] => simp [splitItems, not_dangles_nil]
    | [c] =>
      by_cases hc : c = e
      · subst hc
        simp [splitItems, Dangles.last]
      · rw [dangles_plain hc, splitItems, if_neg fun h => hc (Option.some.inj h)]
        split_ifs <;> simp [not_dangles_nil]
    | c :: d :: cs =>
      by_cases hc : c = e
      · subst hc
        rw [splitItems_escaped, Option.map_eq_none_iff, splitItems_eq_none, dangles_marked]
        simp
      · rw [dangles_plain hc, splitItems, if_neg fun h => hc (Option.some.inj h)]
        have hrest : splitItems delimiter (some e) (d :: cs) = none ↔ Dangles e (d :: cs) := by
          rw [splitItems_eq_none]
          simp
        split_ifs <;> rw [Option.map_eq_none_iff, hrest]
termination_by cs.length

/-! ## What is read -/

theorem prependToFirst_ne (c : Char) (items : List (List Char)) : prependToFirst c items ≠ [[]] := by
  cases items <;> simp [prependToFirst]

theorem splitItems_ne_nil : splitItems delimiter escape cs ≠ some [] := by
  intro h
  match cs with
  | [] => cases h
  | [c] =>
    rw [splitItems] at h
    split_ifs at h <;> cases h
  | c :: d :: cs =>
    rw [splitItems] at h
    split_ifs at h
    · obtain ⟨items, -, hitems⟩ := Option.map_eq_some_iff.1 h
      cases items <;> cases hitems
    · obtain ⟨items, -, hitems⟩ := Option.map_eq_some_iff.1 h
      cases hitems
    · obtain ⟨items, -, hitems⟩ := Option.map_eq_some_iff.1 h
      cases items <;> cases hitems

/-- no text but the empty one is read as a single empty item -/
theorem splitItems_ne_empty (hne : cs ≠ []) : splitItems delimiter escape cs ≠ some [[]] := by
  intro h
  match cs with
  | [] => exact hne rfl
  | [c] =>
    rw [splitItems] at h
    split_ifs at h <;> simp at h
  | c :: d :: cs =>
    rw [splitItems] at h
    split_ifs at h
    · obtain ⟨items, -, hitems⟩ := Option.map_eq_some_iff.1 h
      exact prependToFirst_ne d items hitems
    · obtain ⟨items, hitems, heq⟩ := Option.map_eq_some_iff.1 h
      obtain rfl := (List.cons.inj heq).2
      exact splitItems_ne_nil hitems
    · obtain ⟨items, -, hitems⟩ := Option.map_eq_some_iff.1 h
      exact prependToFirst_ne c items hitems

end Delimited

variable {n : CompoundNotation} {items : List String} {raw : String}

theorem decodeList_delimited {delimiter : Char} {escape : Option Char} (hne : raw ≠ "") :
    (delimited delimiter escape).decodeList raw = match splitItems delimiter escape raw.toList with
      | some items => .ok (items.map String.ofList)
      | none => .error (.notCompound raw .danglingEscape) := if_neg hne

/-- **No delimited text is read as a single empty item.** -/
theorem decodeList_ne_empty (hn : n ≠ .jsonArray) (h : n.decodeList raw = .ok items) : items ≠ [""] := by
  rintro rfl
  match n with
  | .jsonArray => exact hn rfl
  | .delimited delimiter escape =>
    by_cases hraw : raw = ""
    · subst hraw
      cases h
    · rw [decodeList_delimited hraw] at h
      split at h
      · rename_i items hitems
        obtain ⟨item, rest, rfl, hitem, hrest⟩ := List.map_eq_cons_iff.1 (Except.ok.inj h)
        obtain rfl := List.map_eq_nil_iff.1 hrest
        obtain rfl := String.ofList_eq_empty_iff.1 hitem
        exact splitItems_ne_empty (mt String.toList_eq_nil_iff.1 hraw) hitems
      · cases h

/-- a delimited text cannot be read when it ends in an unfinished escape, and that is what is reported -/
theorem decodeList_delimited_eq_error {delimiter : Char} {escape : Option Char} {err : CoercionError} :
    (delimited delimiter escape).decodeList raw = .error err ↔
      err = .notCompound raw .danglingEscape ∧ ∃ e, escape = some e ∧ Dangles e raw.toList := by
  by_cases hraw : raw = ""
  · subst hraw
    refine iff_of_false nofun ?_
    rintro ⟨-, e, -, h⟩
    exact not_dangles_nil h
  · rw [decodeList_delimited hraw, ← @splitItems_eq_none delimiter]
    cases splitItems delimiter escape raw.toList with
    | some items => simp
    | none => simp [eq_comm]

/-- **What is read can be written, and is then read as before.** -/
theorem encode_decode (hn : n.Admitted) (h : n.decodeList raw = .ok items) :
    ∃ text, n.encodeList items = .ok text ∧ n.decodeList text = .ok items := by
  obtain ⟨text, htext⟩ := exists_encodeList.2 (not_refuses_of_decodeList h)
  have hkept : n.readBack items = items := if_neg fun ⟨hd, hitems⟩ => decodeList_ne_empty hd h hitems
  exact ⟨text, htext, hkept ▸ decodeList_encodeList hn htext⟩

/-- **A text that was written, read and written again is the same**, also where a single empty item is lost. -/
theorem encode_decode_encode (hn : n.Admitted) (h : n.encodeList items = .ok raw) :
    ∃ again, n.decodeList raw = .ok again ∧ n.encodeList again = .ok raw := by
  refine ⟨n.readBack items, decodeList_encodeList hn h, ?_⟩
  unfold readBack
  split_ifs with hempty
  · obtain ⟨hd, rfl⟩ := hempty
    match n with
    | .jsonArray => exact absurd rfl hd
    | .delimited delimiter escape =>
      obtain ⟨written, hw, rfl⟩ := encodeList_delimited_eq_ok.1 h
      rw [(join_eq_nil hn (List.cons_ne_nil _ _) hw).2 rfl]
      rfl
  · exact h

/-- **Decoding normalises.** Let a notation have an escape that is not its delimiter, or none, and let a text be given.
- A list that is read of the text can be written, and what is written is read as that list. Under a delimiter the list
  is never a single empty item.
- To read what was written and to write it again gives the same text, for every list that can be written.
- A delimited text cannot be read just when there is an escape and the text ends in an unfinished one, which is when an
  odd number of them stands at its end; then this is what is reported. -/
theorem decoding_normalises (n : CompoundNotation) (hn : n.Admitted) (raw : String) :
    (∀ items, n.decodeList raw = .ok items → (n ≠ .jsonArray → items ≠ [""]) ∧
      ∃ text, n.encodeList items = .ok text ∧ n.decodeList text = .ok items) ∧
    (∀ items text, n.encodeList items = .ok text →
      ∃ again, n.decodeList text = .ok again ∧ n.encodeList again = .ok text) ∧
    ∀ delimiter escape, n = .delimited delimiter escape →
      (∀ err, n.decodeList raw = .error err ↔
        err = .notCompound raw .danglingEscape ∧ ∃ e, escape = some e ∧ Dangles e raw.toList) ∧
      ∀ e, Dangles e raw.toList ↔ Odd (escapesAtEnd e raw.toList) := by
  refine ⟨fun items h => ⟨fun hd => decodeList_ne_empty hd h, encode_decode hn h⟩, fun items text =>
    encode_decode_encode hn, ?_⟩
  rintro delimiter escape rfl
  exact ⟨fun err => decodeList_delimited_eq_error, fun e => dangles_iff⟩

/-- escapes that mark what needs no mark are left out when the list is written again; with one escape more at its end,
the text cannot be read -/
theorem idle_escapes_are_left_out :
    Admitted (.delimited ',' (some '\\')) ∧
      decodeList (.delimited ',' (some '\\')) "\\a\\,,\\\\" = .ok ["a,", "\\"] ∧
      encodeList (.delimited ',' (some '\\')) ["a,", "\\"] = .ok "a\\,,\\\\" ∧
      decodeList (.delimited ',' (some '\\')) "a\\,,\\\\" = .ok ["a,", "\\"] ∧
      decodeList (.delimited ',' (some '\\')) "\\a\\,,\\\\\\" =
        .error (.notCompound "\\a\\,,\\\\\\" .danglingEscape) := by
  have hn : Admitted (.delimited ',' (some '\\')) := Option.some_inj.not.2 (by decide)
  have hread : decodeList (.delimited ',' (some '\\')) "\\a\\,,\\\\" = .ok ["a,", "\\"] := by decide +kernel
  have hwritten : encodeList (.delimited ',' (some '\\')) ["a,", "\\"] = .ok "a\\,,\\\\" := by decide +kernel
  obtain ⟨-, text, htext, hagain⟩ := (decoding_normalises _ hn "\\a\\,,\\\\").1 _ hread
  obtain rfl := Except.ok.inj (hwritten.symm.trans htext)
  obtain ⟨hfails, hodd⟩ := (decoding_normalises _ hn "\\a\\,,\\\\\\").2.2 ',' (some '\\') rfl
  exact ⟨hn, hread, hwritten, hagain, (hfails _).2 ⟨rfl, '\\', rfl, (hodd '\\').2 (by decide +kernel)⟩⟩

end ScopedStore.CompoundNotation
