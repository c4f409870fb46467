/-
The history as lines of JSON.

An entry is `Proper` when its numbers fit into 64 bits and its key is well-formed. Such an entry is read back from its
object, whatever the order of the members (`readsFrom_of_lookup`). A written object holds no control character, so line
breaks stand only between the entries, and the lines are those that were joined (`Text.lines_join`).

Main result, `json_lines_are_lossless`: the lines of a history of proper entries are read back as these entries, in
order; whatever is read from a line is proper; and every key that an engine retains in its history is well-formed.
-/
import ScopedStore.Proofs.JsonObjects
import ScopedStore.Proofs.KeyValidity

namespace ScopedStore

/-! ## Lines -/

namespace Text

variable {separator : Char} {ls : List (List Char)}

/-- pieces put together are cut apart again -/
theorem pieces_join (hne : ls ≠ []) (h : ∀ l ∈ ls, separator ∉ l) : pieces separator (join separator ls) = ls := by
  induction ls with
  | nil => exact absurd rfl hne
  | cons l ls ih =>
    have hl : separator ∉ l := h l List.mem_cons_self
    match ls with
    | [] => rw [join_singleton, pieces_of_absent hl]
    | l' :: ls =>
      have htail := ih (List.cons_ne_nil l' ls) fun x hx => h x (List.mem_cons_of_mem l hx)
      rw [join_cons_cons, pieces_append_separator hl, htail]

/-- so are lines, when none of them is empty -/
theorem lines_join (h : ∀ l ∈ ls, l ≠ [] ∧ '\n' ∉ l) : lines (join '\n' ls) = ls := by
  by_cases hne : ls = []
  · subst hne
    rfl
  · have hpieces : pieces '\n' (join '\n' ls) = ls := pieces_join hne fun l hl => (h l hl).2
    obtain ⟨first, last, hlast⟩ := List.exists_cons_of_ne_nil (mt List.reverse_eq_nil_iff.1 hne)
    have hfirst : first ≠ [] := (h first (List.mem_reverse.1 (hlast ▸ List.mem_cons_self))).1
    unfold lines
    rw [hpieces, hlast]
    split
    · rename_i heq
      exact absurd (List.cons.inj heq).1 hfirst
    · rw [← hlast, List.reverse_reverse]

end Text

/-! ## Entries -/

theorem Source.ofName?_name (s : Source) : ofName? s.name = some s := by
  cases s <;> decide

theorem Operation.ofName?_name (o : Operation) : ofName? o.name = some o := by
  cases o <;> decide

namespace Entry

variable {x : Entry} {j : Json}

/-- the numbers fit into 64 bits, and the key has a text that is read back -/
structure Proper (x : Entry) : Prop where
  sequence : x.sequence < UInt64.size
  time : x.time < UInt64.size
  key : ∀ k, x.key = some k → k.WellFormed

/-- the members that an entry is written as -/
def members (x : Entry) : List (String × Json) :=
  [("sequence", .ofNat x.sequence), ("timestamp_ms", .ofNat x.time), ("operation", .string x.operation.name),
    ("key", .ofOption (x.key.map Key.text)), ("prior_value", .ofOption x.prior), ("new_value", .ofOption x.new),
    ("source", .string x.source.name)]

theorem toJson_eq (x : Entry) : x.toJson = .object x.members := rfl

theorem isLeaf_members (hp : x.Proper) : ∀ m ∈ x.members, Json.IsLeaf m.2 := by
  simp only [members, List.forall_mem_cons]
  exact ⟨.count hp.sequence, .count hp.time, .string _, Json.isLeaf_ofOption _, Json.isLeaf_ofOption _,
    Json.isLeaf_ofOption _, .string _, nofun⟩

theorem count?_ofNat {n : Nat} (h : n < UInt64.size) : count? (.ofNat n) = some n := by
  have hrange : (0 : Int) ≤ n ∧ (n : Int) < UInt64.size := ⟨Int.natCast_nonneg n, Int.ofNat_lt.2 h⟩
  rw [Json.ofNat, count?, if_pos hrange, Int.toNat_natCast]

theorem lt_of_count? {n : Nat} (h : count? j = some n) : n < UInt64.size := by
  unfold count? at h
  split at h
  · split_ifs at h with hrange
    obtain rfl := Option.some.inj h
    omega
  · cases h

theorem optional?_ofOption (s : Option String) : optional? (some (.ofOption s)) = some s := by
  cases s <;> rfl

/-- what a member names, by the texts that are names -/
def named? {α : Type} (ofName? : String → Option α) : Option Json → Option α
  | some (.string s) => ofName? s
  | _ => none

/-- the key that a text writes, if there is a text -/
def key? : Option String → Option (Option Key)
  | none => some none
  | some raw => (Key.split raw).toOption.map some

/-- the entry has its parts from members of an object -/
structure ReadsFrom (x : Entry) (ms : List (String × Json)) : Prop where
  sequence : (ms.lookup "sequence").bind count? = some x.sequence
  time : (ms.lookup "timestamp_ms").bind count? = some x.time
  operation : named? Operation.ofName? (ms.lookup "operation") = some x.operation
  key : (optional? (ms.lookup "key")).bind key? = some x.key
  prior : optional? (ms.lookup "prior_value") = some x.prior
  new : optional? (ms.lookup "new_value") = some x.new
  source : named? Source.ofName? (ms.lookup "source") = some x.source

theorem bind_named? {α β : Type} (ofName? : String → Option α) (o : Option Json) (f : α → Option β) :
    (match o with
      | some (.string s) => ofName? s >>= f
      | _ => none >>= f) = named? ofName? o >>= f := by
  unfold named?
  split <;> rfl

/-- the parts are read one after the other -/
theorem ofJson?_object (ms : List (String × Json)) :
    ofJson? (.object ms) = do
      let sequence ← (ms.lookup "sequence").bind count?
      let time ← (ms.lookup "timestamp_ms").bind count?
      let operation ← named? Operation.ofName? (ms.lookup "operation")
      let raw ← optional? (ms.lookup "key")
      let key ← key? raw
      let prior ← optional? (ms.lookup "prior_value")
      let new ← optional? (ms.lookup "new_value")
      let source ← named? Source.ofName? (ms.lookup "source")
      return ⟨sequence, time, operation, key, prior, new, source⟩ := by
  unfold ofJson?
  apply bind_congr (m := Option)
  intro sequence
  apply bind_congr (m := Option)
  intro time
  apply (bind_named? Operation.ofName? _ _).trans
  apply bind_congr (m := Option)
  intro operation
  apply bind_congr (m := Option)
  intro raw
  cases raw with
  | none =>
    exact bind_congr (m := Option) fun key => bind_congr (m := Option) fun prior =>
      bind_congr (m := Option) fun new => bind_named? Source.ofName? _ _
  | some raw =>
    exact bind_congr (m := Option) fun key => bind_congr (m := Option) fun prior =>
      bind_congr (m := Option) fun new => bind_named? Source.ofName? _ _

/-- **What is read from an object** is the entry whose parts its members are. -/
theorem ofJson?_eq_some {ms : List (String × Json)} : ofJson? (.object ms) = some x ↔ x.ReadsFrom ms := by
  rw [ofJson?_object]
  simp only [Option.bind_eq_bind, Option.bind_eq_some_iff]
  constructor
  · rintro ⟨sequence, hs, time, ht, operation, ho, raw, hr, key, hk, prior, hp, new, hn, source, hsource, hx⟩
    obtain rfl := Option.some.inj hx
    exact ⟨Option.bind_eq_some_iff.2 hs, Option.bind_eq_some_iff.2 ht, ho, Option.bind_eq_some_iff.2 ⟨raw, hr, hk⟩, hp,
      hn, hsource⟩
  · rintro ⟨hs, ht, ho, hkey, hp, hn, hsource⟩
    obtain ⟨raw, hr, hk⟩ := Option.bind_eq_some_iff.1 hkey
    exact ⟨_, Option.bind_eq_some_iff.1 hs, _, Option.bind_eq_some_iff.1 ht, _, ho, raw, hr, _, hk, _, hp, _, hn, _,
      hsource, rfl⟩

theorem key?_map_text (hp : x.Proper) : key? (x.key.map Key.text) = some x.key := by
  cases hk : x.key with
  | none => rfl
  | some k =>
    have hsplit : Key.split k.text = .ok k := Key.split_text (hp.key k hk)
    rw [Option.map_some, key?, hsplit]
    rfl

/-- the members of an entry give it back, in whatever order they stand -/
theorem readsFrom_of_lookup (hp : x.Proper) {ms : List (String × Json)}
    (h : ∀ n, ms.lookup n = x.members.reverse.lookup n) : x.ReadsFrom ms := by
  have hreverse : x.members.reverse =
      [("source", .string x.source.name), ("new_value", .ofOption x.new), ("prior_value", .ofOption x.prior),
        ("key", .ofOption (x.key.map Key.text)), ("operation", .string x.operation.name),
        ("timestamp_ms", .ofNat x.time), ("sequence", .ofNat x.sequence)] := rfl
  constructor <;> rw [h, hreverse] <;> simp only [Json.lookup_cons_eq_ite, String.reduceEq, if_false, if_true]
  · rw [Option.bind_some, count?_ofNat hp.sequence]
  · rw [Option.bind_some, count?_ofNat hp.time]
  · exact Operation.ofName?_name x.operation
  · rw [optional?_ofOption, Option.bind_some, key?_map_text hp]
  · exact optional?_ofOption x.prior
  · exact optional?_ofOption x.new
  · exact Source.ofName?_name x.source

theorem read_write (hp : x.Proper) : read (String.ofList x.toJson.write) = some x := by
  obtain ⟨sorted, hsorted, hlookup⟩ := Json.lookup_ofMembers x.members
  have hread : Json.read (String.ofList x.toJson.write) = some (Json.ofMembers x.members) :=
    Json.read_text_object (List.cons_ne_nil _ _) (isLeaf_members hp)
  rw [read, hread, Option.bind_some, hsorted]
  exact ofJson?_eq_some.2 (readsFrom_of_lookup hp hlookup)

theorem wellFormed_of_key? {raw : Option String} {k : Key} (h : key? raw = some (some k)) : k.WellFormed := by
  cases raw with
  | none => cases h
  | some raw =>
    rw [key?] at h
    cases hs : Key.split raw with
    | error e =>
      rw [hs] at h
      cases h
    | ok k' =>
      rw [hs] at h
      obtain rfl := Option.some.inj (Option.some.inj h)
      exact (Key.split_eq_ok.1 hs).2

/-- **What is read is proper**, whatever the text. -/
theorem proper_of_read {line : String} (h : read line = some x) : x.Proper := by
  obtain ⟨j, -, hj⟩ := Option.bind_eq_some_iff.1 h
  cases j with
  | object ms =>
    have hx : x.ReadsFrom ms := ofJson?_eq_some.1 hj
    obtain ⟨_, -, hsequence⟩ := Option.bind_eq_some_iff.1 hx.sequence
    obtain ⟨_, -, htime⟩ := Option.bind_eq_some_iff.1 hx.time
    obtain ⟨raw, -, hkey⟩ := Option.bind_eq_some_iff.1 hx.key
    refine ⟨lt_of_count? hsequence, lt_of_count? htime, fun k hk => ?_⟩
    rw [hk] at hkey
    exact wellFormed_of_key? hkey
  | _ => cases hj

/-- what an entry is written as is one line -/
theorem write_ne_nil_and_unbroken (hp : x.Proper) :
    x.toJson.write ≠ [] ∧ '\n' ∉ x.toJson.write ∧ '\r' ∉ x.toJson.write := by
  have hplain : Json.PlainText x.toJson.write := Json.plainText_write_object (isLeaf_members hp)
  refine ⟨?_, fun hm => absurd (hplain _ hm) (by decide), fun hm => absurd (hplain _ hm) (by decide)⟩
  rw [toJson_eq, Json.write]
  exact List.cons_ne_nil _ _

end Entry

/-! ## Main result -/

open Entry Engine

/-- **JSON lines are lossless.** Let the entries of a history be proper; their values may be any texts, or missing. The
text has a line for each entry, in order, with no line break or carriage return in it; and each line is read back as
the entry that it was written for. An entry that is read from any text is proper, and the keys in the history of an
engine are well-formed. -/
theorem json_lines_are_lossless {h : History} (hp : ∀ x ∈ h.entries, x.Proper) :
    let lines := Text.lines h.jsonLines.toList
    h.jsonLines.toList = Text.join '\n' lines ∧ (∀ line ∈ lines, '\n' ∉ line ∧ '\r' ∉ line) ∧
      (lines.map fun line => read (String.ofList line)) = h.entries.map some ∧
      (∀ line x, read line = some x → x.Proper) ∧
      ∀ e, Reachable e → ∀ x ∈ e.store.history.entries, ∀ k, x.key = some k → k.WellFormed := by
  intro lines
  have hunbroken : ∀ l ∈ h.entries.map (fun x => x.toJson.write), l ≠ [] ∧ '\n' ∉ l ∧ '\r' ∉ l := by
    intro l hl
    obtain ⟨x, hx, rfl⟩ := List.mem_map.1 hl
    exact write_ne_nil_and_unbroken (hp x hx)
  have htext : h.jsonLines.toList = Text.join '\n' (h.entries.map fun x => x.toJson.write) := String.toList_ofList
  have hlines : lines = h.entries.map fun x => x.toJson.write := by
    change Text.lines h.jsonLines.toList = _
    rw [htext]
    exact Text.lines_join fun l hl => ⟨(hunbroken l hl).1, (hunbroken l hl).2.1⟩
  refine ⟨?_, fun line hl => ?_, ?_, fun line x hx => proper_of_read hx, fun e he x hx k hk => ?_⟩
  · rw [hlines, htext]
  · exact (hunbroken line (hlines ▸ hl)).2
  · rw [hlines, List.map_map]
    refine List.map_congr_left fun x hx => ?_
    rw [Function.comp_apply, read_write (hp x hx)]
  · exact (he.obeys.store.history x (List.mem_reverse.1 hx) k hk).wellFormed

/-- values with marks, line breaks, control characters and none; the largest numbers; a key or none -/
def sampleWritten : History where
  newest :=
    [⟨18446744073709551615, 18446744073709551615, .restore, none, none, some "", .system⟩,
      ⟨1, 5, .setAppend, some ⟨"env", "été"⟩, some "say \"x\\y\"\n\r\t", some "\x00\x1f\x7f😀", .query⟩,
      ⟨0, 0, .clear, some ⟨"env", "a"⟩, some "null", none, .user⟩]
  total := 18446744073709551616

theorem sample_json_lines_are_lossless :
    (∀ x ∈ sampleWritten.entries, x.Proper) ∧
      let lines := Text.lines sampleWritten.jsonLines.toList
      lines.length = 3 ∧ (lines.map fun line => read (String.ofList line)) = sampleWritten.entries.map some := by
  have hp : ∀ x ∈ sampleWritten.entries, x.Proper := by
    have hreverse : ∀ x ∈ sampleWritten.newest, x.Proper := by
      simp only [sampleWritten, List.forall_mem_cons]
      refine ⟨⟨by decide, by decide, nofun⟩, ⟨by decide, by decide, ?_⟩, ⟨by decide, by decide, ?_⟩, nofun⟩
      · rintro k ⟨⟩
        exact ⟨by decide, by decide⟩
      · rintro k ⟨⟩
        exact ⟨by decide, by decide⟩
    exact fun x hx => hreverse x (List.mem_reverse.1 hx)
  obtain ⟨-, -, hread, -⟩ := json_lines_are_lossless hp
  refine ⟨hp, ?_, hread⟩
  have hlength := congrArg List.length hread
  rwa [List.length_map, List.length_map] at hlength

end ScopedStore
