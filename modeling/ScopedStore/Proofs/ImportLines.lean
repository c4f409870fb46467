/-
What the lines of an import text carry.

`Import.Line` is a line as it is meant: a key and a value with an equals sign between them, or a line that is passed
over. Main result, `import_lines_carry_values`: lines that are joined are read as the pairs they were made of, in their
order, each value to its last character that is no blank. So values come through as they stand exactly when none of
them ends with a blank, and `trailing_blank_is_lost` is a value that does not.
-/
import Mathlib.Data.List.DropRight
import ScopedStore.Import
import ScopedStore.Proofs.JsonLines

namespace ScopedStore

/-! ## Blanks at the ends -/

namespace Text

theorem rdropWhile_append_cons {p : Char → Bool} {c : Char} (h : ¬p c) (before after : List Char) :
    (before ++ c :: after).rdropWhile p = before ++ c :: after.rdropWhile p := by
  unfold List.rdropWhile
  rw [List.reverse_append, List.reverse_cons, List.append_assoc, List.dropWhile_append]
  split_ifs with hempty
  · simp [List.isEmpty_iff.1 hempty, h]
  · simp

theorem rdropWhile_eq_self {p : Char → Bool} {cs : List Char} :
    cs.rdropWhile p = cs ↔ ∀ c ∈ cs.getLast?, ¬p c := by
  rw [List.rdropWhile_eq_self_iff]
  constructor
  · intro h c hc
    obtain ⟨hne, rfl⟩ := List.mem_getLast?_eq_getLast hc
    exact h hne
  · intro h hne
    exact h _ (List.getLast?_eq_some_getLast hne)

/-- of a text with a character that is no blank, the blanks in front of the first and behind the last are dropped -/
theorem trim_append_cons {before : List Char} {c : Char} (hbefore : ∀ b ∈ before, Unicode.isBlank b)
    (hc : ¬Unicode.isBlank c) (after : List Char) :
    trim (before ++ c :: after) = c :: after.rdropWhile Unicode.isBlank := by
  have hfront : (before ++ c :: after).dropWhile Unicode.isBlank = c :: after := by
    rw [List.dropWhile_append_of_pos hbefore, List.dropWhile_cons_of_neg hc]
  change ((before ++ c :: after).dropWhile Unicode.isBlank).rdropWhile Unicode.isBlank = _
  rw [hfront]
  exact rdropWhile_append_cons hc [] after

theorem cutAt_append_cons {c : Char} {before : List Char} (h : c ∉ before) (after : List Char) :
    cutAt c (before ++ c :: after) = some (before, after) := by
  induction before with
  | nil => simp [cutAt]
  | cons b before ih =>
    obtain ⟨hb, hbefore⟩ := List.ne_and_not_mem_of_not_mem_cons h
    simp [cutAt, Ne.symm hb, ih hbefore]

/-- an empty text behind the last separator -/
theorem join_append_nil {separator : Char} {ls : List (List Char)} (h : ls ≠ []) :
    join separator (ls ++ [[]]) = join separator ls ++ [separator] := by
  induction ls with
  | nil => exact absurd rfl h
  | cons l ls ih =>
    cases ls with
    | nil => simp [join_cons_cons]
    | cons l' ls =>
      rw [List.cons_append, List.cons_append, join_cons_cons, join_cons_cons, ← List.cons_append,
        ih (List.cons_ne_nil l' ls), List.append_assoc, List.cons_append]

end Text

namespace Import

/-- a line: a key and its value, or a line that is passed over -/
inductive Line where
  | entry (key value : String)
  | filler (text : List Char)

/-- the key is not empty, begins and ends with no blank, begins no comment, and ends where the equals sign stands -/
structure IsKey (key : String) : Prop where
  first : ∃ c ∈ key.toList.head?, ¬Unicode.isBlank c ∧ c ≠ '#'
  last : ∃ c ∈ key.toList.getLast?, ¬Unicode.isBlank c
  separator : '=' ∉ key.toList
  unbroken : '\n' ∉ key.toList

namespace Line

/-- the line as it is written -/
def chars : Line → List Char
  | entry key value => key.toList ++ '=' :: value.toList
  | filler text => text

/-- the pair that the line is made of -/
def pair? : Line → Option (String × String)
  | entry key value => some (key, value)
  | filler _ => none

/-- entries have a key, the other lines are blank or comments, and no line is broken -/
inductive Proper : Line → Prop where
  | entry {k value : String} (key : IsKey k) (unbroken : '\n' ∉ value.toList) : Proper (.entry k value)
  | blank {text : List Char} (blank : ∀ c ∈ text, Unicode.isBlank c) (unbroken : '\n' ∉ text) : Proper (.filler text)
  | comment {before text : List Char} (blank : ∀ c ∈ before, Unicode.isBlank c)
      (unbroken : '\n' ∉ before ++ '#' :: text) : Proper (.filler (before ++ '#' :: text))

variable {line : Line} {lines : List Line}

theorem Proper.unbroken (h : line.Proper) : '\n' ∉ line.chars := by
  cases h with
  | entry key unbroken => simp [chars, key.unbroken, unbroken]
  | blank blank unbroken => exact unbroken
  | comment blank unbroken => exact unbroken

/-- the text of the lines, with or without a line break at its end -/
def content (lines : List Line) (terminated : Bool) : String :=
  String.ofList (Text.join '\n' (lines.map chars) ++ if terminated then ['\n'] else [])

end Line

/-! ## Reading a line -/

/-- the value as it is read: the blanks at its end do not count -/
def withoutEnd (value : String) : String := String.ofList (value.toList.rdropWhile Unicode.isBlank)

theorem withoutEnd_eq_self {value : String} :
    withoutEnd value = value ↔ ∀ c ∈ value.toList.getLast?, ¬Unicode.isBlank c := by
  rw [withoutEnd, ← String.toList_inj, String.toList_ofList, Text.rdropWhile_eq_self]

theorem trim_key {k : String} (h : IsKey k) : Text.trim k.toList = k.toList := by
  obtain ⟨c, hc, hfirst, -⟩ := h.first
  obtain ⟨d, hd, hlast⟩ := h.last
  exact Text.trim_eq_self (fun b hb => Option.mem_unique hc hb ▸ Bool.eq_false_iff.2 hfirst)
    fun b hb => Option.mem_unique hd hb ▸ Bool.eq_false_iff.2 hlast

/-- blanks behind the equals sign belong to the value, and so do further equals signs -/
theorem readLine_entry {k : String} (h : IsKey k) (number : Nat) (value : String) :
    readLine number (k.toList ++ '=' :: value.toList) = .ok (some (k, withoutEnd value)) := by
  obtain ⟨c, hc, hblank, hcomment⟩ := h.first
  obtain ⟨cs, hcs⟩ := List.head?_eq_some_iff.1 hc
  have htrim : Text.trim (k.toList ++ '=' :: value.toList) =
      k.toList ++ '=' :: value.toList.rdropWhile Unicode.isBlank := by
    have hequals : ¬Unicode.isBlank '=' := by decide
    rw [hcs, List.cons_append, ← List.nil_append (c :: _), Text.trim_append_cons (by simp) hblank,
      Text.rdropWhile_append_cons hequals, List.cons_append]
  unfold readLine
  split
  · rename_i hnil
    rw [htrim, hcs] at hnil
    cases hnil
  · rename_i hhash
    rw [htrim, hcs] at hhash
    exact absurd (List.cons.inj hhash).1 hcomment
  · rw [htrim, Text.cutAt_append_cons h.separator]
    simp only [trim_key h, String.ofList_toList]
    rfl

theorem readLine_proper {line : Line} (h : line.Proper) (number : Nat) :
    readLine number line.chars = .ok (line.pair?.map fun (key, value) => (key, withoutEnd value)) := by
  cases h with
  | entry key unbroken => exact readLine_entry key number _
  | @blank text blank unbroken =>
    have hfront : text.dropWhile Unicode.isBlank = [] := List.dropWhile_eq_nil_iff.2 blank
    have htrim : Text.trim text = [] := by rw [Text.trim, hfront]; rfl
    simp [readLine, Line.chars, htrim, Line.pair?]
  | @comment before text blank unbroken =>
    have hhash : ¬Unicode.isBlank '#' := by decide
    simp [readLine, Line.chars, Text.trim_append_cons blank hhash, Line.pair?]

/-! ## Reading lines -/

theorem readLines_proper {lines : List Line} (h : ∀ line ∈ lines, line.Proper) (number : Nat) :
    readLines number (lines.map Line.chars) =
      .ok ((lines.filterMap Line.pair?).map fun (key, value) => (key, withoutEnd value)) := by
  induction lines generalizing number with
  | nil => rfl
  | cons line lines ih =>
    obtain ⟨hline, hlines⟩ := List.forall_mem_cons.1 h
    rw [List.map_cons, readLines, readLine_proper hline, ih hlines]
    cases hpair : line.pair? <;> simp [hpair, bind, Except.bind, pure, Except.pure]

/-- an empty line at the end says nothing -/
theorem readLines_append_nil (ls : List (List Char)) (number : Nat) :
    readLines number (ls ++ [[]]) = readLines number ls := by
  induction ls generalizing number with
  | nil => rfl
  | cons l ls ih => rw [List.cons_append, readLines, readLines, ih]

/-- so it does not matter that lines leave out the piece behind a last line break -/
theorem readLines_lines (cs : List Char) (number : Nat) :
    readLines number (Text.lines cs) = readLines number (Text.pieces '\n' cs) := by
  unfold Text.lines
  split
  · rename_i rest hrest
    rw [← readLines_append_nil, ← List.reverse_cons, ← hrest, List.reverse_reverse]
  · rw [List.reverse_reverse]

theorem readLines_join {ls : List (List Char)} (h : ∀ l ∈ ls, '\n' ∉ l) (number : Nat) :
    readLines number (Text.lines (Text.join '\n' ls)) = readLines number ls := by
  rw [readLines_lines]
  by_cases hne : ls = []
  · subst hne
    rfl
  · rw [Text.pieces_join hne h]

/-- a line break at the end counts for an empty line more -/
theorem readLines_join_terminated {ls : List (List Char)} (h : ∀ l ∈ ls, '\n' ∉ l) (number : Nat) :
    readLines number (Text.lines (Text.join '\n' ls ++ ['\n'])) = readLines number ls := by
  by_cases hne : ls = []
  · subst hne
    rfl
  · rw [← Text.join_append_nil hne, readLines_join ?_, readLines_append_nil]
    simpa [or_imp, forall_and] using h

end Import

/-- **The lines of an import carry their values.** The text that proper lines are joined to is read as the pairs of its
entries, in their order, with every value up to the blanks at its end. So the pairs are read as they were written exactly
when no value ends with a blank; blanks in front, further equals signs and empty values come through. -/
theorem import_lines_carry_values {lines : List Import.Line} (h : ∀ line ∈ lines, line.Proper) (terminated : Bool) :
    Import.read (Import.Line.content lines terminated) =
      .ok ((lines.filterMap Import.Line.pair?).map fun (key, value) => (key, Import.withoutEnd value)) ∧
    (Import.read (Import.Line.content lines terminated) = .ok (lines.filterMap Import.Line.pair?) ↔
      ∀ entry ∈ lines.filterMap Import.Line.pair?, ∀ c ∈ entry.2.toList.getLast?, ¬Unicode.isBlank c) := by
  have hunbroken : ∀ l ∈ lines.map Import.Line.chars, '\n' ∉ l := by
    intro l hl
    obtain ⟨line, hline, rfl⟩ := List.mem_map.1 hl
    exact (h line hline).unbroken
  have hread : Import.read (Import.Line.content lines terminated) =
      .ok ((lines.filterMap Import.Line.pair?).map fun (key, value) => (key, Import.withoutEnd value)) := by
    rw [Import.read, Import.Line.content, String.toList_ofList, ← Import.readLines_proper h 1]
    cases terminated with
    | true => exact Import.readLines_join_terminated hunbroken 1
    | false =>
      rw [if_neg (by decide), List.append_nil]
      exact Import.readLines_join hunbroken 1
  refine ⟨hread, ?_⟩
  rw [hread, Except.ok.injEq]
  constructor
  · intro heq entry hentry
    have hself : (entry.1, Import.withoutEnd entry.2) = entry :=
      List.map_inj_left.1 (heq.trans (List.map_id _).symm) entry hentry
    exact Import.withoutEnd_eq_self.1 (congrArg Prod.snd hself)
  · intro hends
    have hself : ∀ entry ∈ lines.filterMap Import.Line.pair?, (entry.1, Import.withoutEnd entry.2) = entry :=
      fun entry hentry => Prod.ext rfl (Import.withoutEnd_eq_self.2 (hends entry hentry))
    exact (List.map_congr_left hself).trans (List.map_id _)

/-- lines that are passed over between a value with a blank on either side and one with an equals sign -/
def sampleLines : List Import.Line :=
  [.filler ('#' :: " seed".toList), .entry "env:a" " 1 ", .filler [' '], .entry "env:b" "x=y"]

theorem isKey_sample : Import.IsKey "env:a" ∧ Import.IsKey "env:b" :=
  ⟨⟨⟨'e', rfl, by decide⟩, ⟨'a', rfl, by decide⟩, by decide, by decide⟩,
    ⟨⟨'e', rfl, by decide⟩, ⟨'b', rfl, by decide⟩, by decide, by decide⟩⟩

theorem sample_lines_carry_values : (∀ line ∈ sampleLines, line.Proper) ∧
    Import.Line.content sampleLines true = "# seed\nenv:a= 1 \n \nenv:b=x=y\n" ∧
    Import.read "# seed\nenv:a= 1 \n \nenv:b=x=y\n" = .ok [("env:a", " 1"), ("env:b", "x=y")] := by
  have hproper : ∀ line ∈ sampleLines, line.Proper := by
    rw [sampleLines, List.forall_mem_cons, List.forall_mem_cons, List.forall_mem_cons, List.forall_mem_singleton]
    have hblank : ∀ c ∈ [' '], Unicode.isBlank c := List.forall_mem_singleton.2 (by decide)
    exact ⟨.comment (List.forall_mem_nil _) (by decide), .entry isKey_sample.1 (by decide),
      .blank hblank (by decide), .entry isKey_sample.2 (by decide)⟩
  have hcontent : Import.Line.content sampleLines true = "# seed\nenv:a= 1 \n \nenv:b=x=y\n" := by decide
  refine ⟨hproper, hcontent, ?_⟩
  rw [← hcontent, (import_lines_carry_values hproper true).1]
  decide

/-- the blank at the end of a value does not come through -/
theorem trailing_blank_is_lost : (Import.Line.entry "env:a" "1 ").Proper ∧
    Import.Line.content [.entry "env:a" "1 "] false = "env:a=1 " ∧ Import.read "env:a=1 " = .ok [("env:a", "1")] :=
  ⟨.entry isKey_sample.1 (by decide), by decide, by decide⟩

end ScopedStore
