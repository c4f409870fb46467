/-
The grammar of the command language, said apart from its lexer.

`Cut` cuts a script at its semicolons, `Runs` a text into its longest stretches without blanks, and `IsToken` says which
runs are tokens, and of what kind. `StandsAt` ties all of them to places in the script.
- `classify_eq_ok`, `classify_fault`: a run is classified as the token that it is; when it is none, the fault that is
  reported lies in it.
- `runs_words`, `cut_segmentsFrom`: the lexer's words are the runs, and its segments the pieces between semicolons.
- `Lexed`, `lex_recognises_grammar`: a script is cut into statements, and each of them has the tokens of its runs or a
  fault in the first run that is none.
-/
import ScopedStore.Proofs.KeyRules
import ScopedStore.Proofs.Lexing

namespace ScopedStore.Script

/-! ## Places -/

/-- `part` stands in `text`, from `position` on -/
def StandsAt (text : List Char) (position : Nat) (part : List Char) : Prop :=
  ∃ before after, text = before ++ part ++ after ∧ before.length = position

namespace StandsAt

variable {text part sub : List Char} {p q : Nat}

theorem prefix_self (part after : List Char) : StandsAt (part ++ after) 0 part := ⟨[], after, rfl, rfl⟩

theorem skip (before : List Char) (h : StandsAt text p part) : StandsAt (before ++ text) (before.length + p) part := by
  obtain ⟨front, after, rfl, rfl⟩ := h
  exact ⟨before ++ front, after, by simp only [List.append_assoc], List.length_append⟩

theorem trans (h : StandsAt text p part) (h' : StandsAt part q sub) : StandsAt text (p + q) sub := by
  obtain ⟨before, after, rfl, rfl⟩ := h
  obtain ⟨front, back, rfl, rfl⟩ := h'
  exact ⟨before ++ front, back ++ after, by simp only [List.append_assoc], List.length_append⟩

theorem getElem? (h : StandsAt text p part) {i : Nat} (hi : i < part.length) : text[p + i]? = part[i]? := by
  obtain ⟨before, after, rfl, rfl⟩ := h
  rw [List.append_assoc, List.getElem?_append_right (Nat.le_add_right _ _), Nat.add_sub_cancel_left,
    List.getElem?_append_left hi]

end StandsAt

/-! ## Tokens -/

/-- no digit starts a word -/
theorem isWordStart_of_isDigit {c : Char} (h : c.isDigit) : isWordStart c = false :=
  Text.of_isDigit (isWordStart · = false) (by decide +kernel) h

/-- a letter or an underscore, and then letters, numerals and underscores -/
inductive IsName : List Char → Prop where
  | mk {c : Char} {cs : List Char} (start : isWordStart c) (chars : ∀ d ∈ cs, isWordChar d) : IsName (c :: cs)

/-- which texts are tokens -/
inductive IsToken : List Char → TokenKind → Prop where
  | keyword (word : Keyword) : IsToken word.spelling.toList (.keyword word)
  | ident {cs : List Char} (name : IsName cs) (other : ∀ word : Keyword, word.spelling ≠ String.ofList cs) :
      IsToken cs (.ident (String.ofList cs))
  | key {scope name : List Char} (hs : IsName scope) (hn : ∀ c ∈ name, isWordChar c) :
      IsToken (scope ++ ':' :: name) (.key (String.ofList (scope ++ ':' :: name)))
  | number {cs : List Char} (literal : Text.IsLiteral cs) : IsToken cs (.number (String.ofList cs))

/-- a token has the text that it is read from -/
theorem IsToken.text {cs : List Char} {kind : TokenKind} (h : IsToken cs kind) : kind.text.toList = cs := by
  cases h with
  | keyword word => rfl
  | ident name other => exact String.toList_ofList
  | key hs hn => exact String.toList_ofList
  | number literal => exact String.toList_ofList

namespace Keyword

theorem mem_all (word : Keyword) : word ∈ all := by cases word <;> decide

theorem ofWord?_eq_some {text : String} {word : Keyword} : ofWord? text = some word ↔ word.spelling = text := by
  constructor
  · intro h
    simpa using List.find?_some h
  · rintro rfl
    have hall : ∀ word ∈ all, ofWord? word.spelling = some word := by decide +kernel
    exact hall word word.mem_all

theorem ofWord?_eq_none {text : String} : ofWord? text = none ↔ ∀ word : Keyword, word.spelling ≠ text := by
  rw [Option.eq_none_iff_forall_ne_some]
  exact forall_congr' fun word => not_congr ofWord?_eq_some

theorem isName_spelling (word : Keyword) : IsName word.spelling.toList := by
  have hall : ∀ word ∈ all, word.spelling.toList.all isWordChar ∧ word.spelling.toList.head?.any isWordStart := by
    decide +kernel
  obtain ⟨hchars, hstart⟩ := hall word word.mem_all
  revert hchars hstart
  cases word.spelling.toList with
  | nil => simp
  | cons c cs =>
    intro hchars hstart
    exact .mk (by simpa using hstart) fun d hd => List.all_eq_true.1 hchars d (List.mem_cons_of_mem c hd)

end Keyword

theorem IsName.chars {cs : List Char} (h : IsName cs) : ∀ c ∈ cs, isWordChar c := by
  obtain ⟨hstart, hchars⟩ := h
  exact List.forall_mem_cons.2 ⟨isWordChar_of_isWordStart hstart, hchars⟩

/-! ## Classification -/

theorem classifyName_of_isName {cs : List Char} (h : IsName cs) (position : Nat) :
    classifyName position cs = .ok (match Keyword.ofWord? (String.ofList cs) with
      | some word => .keyword word
      | none => .ident (String.ofList cs)) := by
  unfold classifyName
  split
  · rfl
  · rename_i hrest
    rw [List.dropWhile_eq_nil_iff.2 h.chars] at hrest
    cases hrest

theorem classifyName_of_colon {scope name : List Char} (hs : IsName scope) (hn : ∀ c ∈ name, isWordChar c)
    (position : Nat) :
    classifyName position (scope ++ ':' :: name) = .ok (.key (String.ofList (scope ++ ':' :: name))) := by
  have hcolon : ¬isWordChar ':' := by decide +kernel
  have hrest : (scope ++ ':' :: name).dropWhile isWordChar = ':' :: name := by
    rw [List.dropWhile_append_of_pos hs.chars, List.dropWhile_cons_of_neg hcolon]
  have hend : name.dropWhile isWordChar = [] := List.dropWhile_eq_nil_iff.2 hn
  simp only [classifyName, hrest, hend, if_true]

theorem classifyNumber_of_isUnsigned {word : List Char} (h : Text.IsUnsigned (unsigned word)) (position : Nat) :
    classifyNumber position word = .ok (.number (String.ofList word)) := by
  unfold classifyNumber
  generalize unsigned word = cs at h
  cases h with
  | whole hds => rw [List.dropWhile_eq_nil_iff.2 hds.digit]
  | @point ds ps hds hps =>
    have hrest : (ds ++ '.' :: ps).dropWhile Char.isDigit = '.' :: ps := by
      rw [List.dropWhile_append_of_pos hds.digit, List.dropWhile_cons_of_neg (by decide)]
    have hend : ps.dropWhile Char.isDigit = [] := List.dropWhile_eq_nil_iff.2 hps.digit
    obtain ⟨d, rest, rfl, hd⟩ := hps.head
    simp only [hrest, hend]
    simp [hd]

theorem classify_of_isName {cs : List Char} (h : IsName cs) (rest : List Char) (position : Nat) :
    classify position (cs ++ rest) = classifyName position (cs ++ rest) := by
  obtain ⟨hstart, -⟩ := h
  exact if_pos hstart

theorem classify_of_isLiteral {cs : List Char} (h : Text.IsLiteral cs) (position : Nat) :
    classify position cs = .ok (.number (String.ofList cs)) := by
  have hminus : ¬isWordStart '-' := by decide +kernel
  cases h with
  | plain h =>
    obtain ⟨d, rest, rfl, hd⟩ := h.head
    have hsign : unsigned (d :: rest) = d :: rest := by
      unfold unsigned
      split
      · rename_i heq
        obtain ⟨rfl, -⟩ := List.cons.inj heq
        cases hd
      · rfl
    rw [classify, if_neg (by simp [isWordStart_of_isDigit hd]), if_pos (by simp [hd])]
    exact classifyNumber_of_isUnsigned (hsign.symm ▸ h) position
  | @negative cs h =>
    obtain ⟨d, rest, rfl, hd⟩ := h.head
    have hu : Text.IsUnsigned (unsigned ('-' :: d :: rest)) := h
    rw [classify, if_neg hminus, if_pos (by simp [hd])]
    exact classifyNumber_of_isUnsigned hu position

/-- a token is classified as what it is -/
theorem classify_of_isToken {cs : List Char} {kind : TokenKind} (h : IsToken cs kind) (position : Nat) :
    classify position cs = .ok kind := by
  cases h with
  | keyword word =>
    have hn := word.isName_spelling
    have hc := classify_of_isName hn [] position
    rw [List.append_nil] at hc
    rw [hc, classifyName_of_isName hn, String.ofList_toList, Keyword.ofWord?_eq_some.2 rfl]
  | ident name other =>
    have hc := classify_of_isName name [] position
    rw [List.append_nil] at hc
    rw [hc, classifyName_of_isName name, Keyword.ofWord?_eq_none.2 other]
  | @key scope name hs hn => rw [classify_of_isName hs, classifyName_of_colon hs hn]
  | number literal => exact classify_of_isLiteral literal position

/-- what is classified as a name or a key is one -/
theorem isToken_of_classifyName {c : Char} {cs : List Char} {kind : TokenKind} {position : Nat} (hc : isWordStart c)
    (h : classifyName position (c :: cs) = .ok kind) : IsToken (c :: cs) kind := by
  have hsplit := List.takeWhile_append_dropWhile (p := isWordChar) (l := c :: cs)
  have hname : IsName ((c :: cs).takeWhile isWordChar) := by
    rw [List.takeWhile_cons_of_pos (isWordChar_of_isWordStart hc)]
    exact .mk hc fun d hd => List.mem_takeWhile_imp hd
  unfold classifyName at h
  split at h
  · rename_i hend
    rw [hend, List.append_nil] at hsplit
    rw [hsplit] at hname
    rw [← Except.ok.inj h]
    cases hw : Keyword.ofWord? (String.ofList (c :: cs)) with
    | some word =>
      have hkeyword := IsToken.keyword word
      rwa [Keyword.ofWord?_eq_some.1 hw, String.toList_ofList] at hkeyword
    | none => exact .ident hname (Keyword.ofWord?_eq_none.1 hw)
  · rename_i d rest hrest
    split_ifs at h with hcolon
    split at h
    · rename_i hend
      obtain rfl := Except.ok.inj h
      rw [← hsplit, hrest, hcolon]
      exact .key hname (List.dropWhile_eq_nil_iff.1 hend)
    · cases h

theorem kind_of_classifyNumber {word : List Char} {kind : TokenKind} {position : Nat}
    (h : classifyNumber position word = .ok kind) : kind = .number (String.ofList word) := by
  unfold classifyNumber at h
  split at h
  · exact (Except.ok.inj h).symm
  · split_ifs at h
    split at h
    · exact (Except.ok.inj h).symm
    · cases h

/-- **A run is classified as the token that it is.** -/
theorem classify_eq_ok {cs : List Char} (hne : cs ≠ []) {kind : TokenKind} {position : Nat} :
    classify position cs = .ok kind ↔ IsToken cs kind := by
  refine ⟨fun h => ?_, fun h => classify_of_isToken h position⟩
  obtain ⟨c, cs, rfl⟩ := List.exists_cons_of_ne_nil hne
  have hall := h
  rw [classify] at h
  split_ifs at h with hw hn
  · exact isToken_of_classifyName hw h
  · obtain rfl := kind_of_classifyNumber h
    exact .number (isLiteral_of_classify hall).2

/-- the fault is a character of the run, and is reported at its place -/
def LexError.LiesIn (e : LexError) (position : Nat) (cs : List Char) : Prop :=
  ∃ i < cs.length, e.position = position + i ∧ cs[i]? = some e.character

theorem faultAt_liesIn {word rest : List Char} {c : Char} (h : c :: rest <:+ word) (position : Nat) :
    (faultAt position word (c :: rest) c).LiesIn position word := by
  obtain ⟨before, rfl⟩ := h
  refine ⟨before.length, by simp, ?_, by simp [faultAt]⟩
  simp [faultAt]

theorem classifyName_fault {word : List Char} {e : LexError} {position : Nat}
    (h : classifyName position word = .error e) : e.LiesIn position word := by
  unfold classifyName at h
  split at h
  · cases h
  · rename_i c rest hrest
    have hs : c :: rest <:+ word := hrest ▸ List.dropWhile_suffix isWordChar
    split_ifs at h with hcolon
    · split at h
      · cases h
      · rename_i d more hmore
        have hs' : d :: more <:+ rest := hmore ▸ List.dropWhile_suffix isWordChar
        obtain rfl := Except.error.inj h
        exact faultAt_liesIn ((hs'.trans (List.suffix_cons c rest)).trans hs) position
    · obtain rfl := Except.error.inj h
      exact faultAt_liesIn hs position

theorem classifyNumber_fault {word : List Char} {e : LexError} {position : Nat}
    (h : classifyNumber position word = .error e) : e.LiesIn position word := by
  have hu : unsigned word <:+ word := by
    unfold unsigned
    split
    · exact List.suffix_cons _ _
    · exact List.suffix_refl _
  unfold classifyNumber at h
  split at h
  · cases h
  · rename_i c rest hrest
    have hs : c :: rest <:+ word := (hrest ▸ List.dropWhile_suffix Char.isDigit).trans hu
    split_ifs at h with hpoint
    · split at h
      · cases h
      · rename_i d more hmore
        have hs' : d :: more <:+ rest := hmore ▸ List.dropWhile_suffix Char.isDigit
        obtain rfl := Except.error.inj h
        exact faultAt_liesIn ((hs'.trans (List.suffix_cons c rest)).trans hs) position
    · obtain rfl := Except.error.inj h
      exact faultAt_liesIn hs position

/-- **A run that is no token holds the fault that is reported.** -/
theorem classify_fault {cs : List Char} {e : LexError} {position : Nat} (h : classify position cs = .error e) :
    e.LiesIn position cs := by
  unfold classify at h
  split at h
  · cases h
  · split_ifs at h
    · exact classifyName_fault h
    · exact classifyNumber_fault h
    · obtain rfl := Except.error.inj h
      exact ⟨0, by simp, rfl, rfl⟩

/-! ## Runs -/

/-- the longest stretches of a text that hold no blank, in order; the text begins at the given position -/
inductive Runs : Nat → List Char → List (Nat × List Char) → Prop where
  | nil (position : Nat) : Runs position [] []
  | blank {position : Nat} {c : Char} {cs : List Char} {runs : List (Nat × List Char)} (hc : Unicode.isBlank c)
      (rest : Runs (position + 1) cs runs) : Runs position (c :: cs) runs
  | run {position : Nat} {run after : List Char} {runs : List (Nat × List Char)} (nonempty : run ≠ [])
      (free : ∀ c ∈ run, ¬Unicode.isBlank c) (longest : ∀ c ∈ after.head?, Unicode.isBlank c)
      (rest : Runs (position + run.length) after runs) : Runs position (run ++ after) ((position, run) :: runs)

theorem Runs.ne_nil {position : Nat} {cs : List Char} {runs : List (Nat × List Char)} (h : Runs position cs runs) :
    ∀ r ∈ runs, r.2 ≠ [] := by
  induction h with
  | nil position => simp
  | blank hc rest ih => exact ih
  | run nonempty free longest rest ih => exact List.forall_mem_cons.2 ⟨nonempty, ih⟩

/-- a run stands where it says -/
theorem Runs.standsAt {position : Nat} {cs : List Char} {runs : List (Nat × List Char)} (h : Runs position cs runs) :
    ∀ r ∈ runs, ∃ offset, r.1 = position + offset ∧ StandsAt cs offset r.2 := by
  induction h with
  | nil position => simp
  | @blank position c cs runs hc rest ih =>
    intro r hr
    obtain ⟨offset, hp, hs⟩ := ih r hr
    exact ⟨1 + offset, by omega, hs.skip [c]⟩
  | @run position run after runs nonempty free longest rest ih =>
    refine List.forall_mem_cons.2 ⟨⟨0, rfl, .prefix_self run after⟩, fun r hr => ?_⟩
    obtain ⟨offset, hp, hs⟩ := ih r hr
    exact ⟨run.length + offset, by omega, hs.skip run⟩

/-- **The words of a text are its runs.** -/
theorem runs_words (position : Nat) (cs : List Char) : Runs position cs (words position cs) := by
  match cs with
  | [] => exact .nil position
  | c :: cs =>
    by_cases hc : Unicode.isBlank c
    · rw [words, if_pos hc]
      exact .blank hc (runs_words (position + 1) cs)
    · obtain ⟨run, after, heq, hfree, hlongest, hwords⟩ := words_cons_eq hc position cs
      have hle : after.length ≤ cs.length := heq ▸ List.length_append ▸ Nat.le_add_left _ _
      rw [hwords, heq]
      exact .run (List.cons_ne_nil c run) (List.forall_mem_cons.2 ⟨hc, hfree⟩) hlongest
        (runs_words (position + (c :: run).length) after)
termination_by cs.length

/-! ## Segments -/

/-- a text cut at its semicolons; the text begins at the given position -/
inductive Cut : Nat → List Char → List Segment → Prop where
  | last {position : Nat} {chars : List Char} (free : ';' ∉ chars) : Cut position chars [⟨position, chars, false⟩]
  | terminated {position : Nat} {chars after : List Char} {segments : List Segment} (free : ';' ∉ chars)
      (rest : Cut (position + chars.length + 1) after segments) :
      Cut position (chars ++ ';' :: after) (⟨position, chars, true⟩ :: segments)

/-- the semicolon of a segment, if it has one -/
def Segment.ending (s : Segment) : List Char := if s.terminated then [';'] else []

/-- a segment stands where it says, and its semicolon after it -/
theorem Cut.standsAt {position : Nat} {cs : List Char} {segments : List Segment} (h : Cut position cs segments) :
    ∀ s ∈ segments, ∃ offset, s.position = position + offset ∧ StandsAt cs offset (s.chars ++ s.ending) := by
  induction h with
  | @last position chars free =>
    rintro s hs
    obtain rfl := List.mem_singleton.1 hs
    exact ⟨0, rfl, [], [], by simp [Segment.ending], rfl⟩
  | @terminated position chars after segments free rest ih =>
    refine List.forall_mem_cons.2 ⟨⟨0, rfl, [], after, by simp [Segment.ending], rfl⟩, fun s hs => ?_⟩
    obtain ⟨offset, hp, hstands⟩ := ih s hs
    refine ⟨chars.length + 1 + offset, by omega, ?_⟩
    have hskip := hstands.skip (chars ++ [';'])
    rwa [List.append_assoc, List.singleton_append, List.length_append, List.length_singleton] at hskip

/-- **The segments of a script are its pieces between semicolons.** -/
theorem cut_segmentsFrom (position : Nat) (cs : List Char) :
    Cut position cs (segmentsFrom position (Text.pieces ';' cs)) := by
  by_cases hc : ';' ∈ cs
  · obtain ⟨chars, after, heq, hfree⟩ := List.eq_append_cons_of_mem hc
    have hlt : after.length < cs.length := by
      rw [heq, List.length_append, List.length_cons]
      omega
    have hrest := cut_segmentsFrom (position + chars.length + 1) after
    rw [heq, Text.pieces_append_separator hfree]
    obtain ⟨piece, pieces, hp⟩ := List.exists_cons_of_ne_nil (Text.pieces_ne_nil ';' after)
    rw [hp] at hrest ⊢
    exact .terminated hfree hrest
  · rw [Text.pieces_of_absent hc]
    exact .last hc
termination_by cs.length

/-! ## Statements -/

/-- a text without the blanks at either end -/
inductive Trimmed : List Char → List Char → Prop where
  | mk {before text after : List Char} (front : ∀ c ∈ before, Unicode.isBlank c) (back : ∀ c ∈ after, Unicode.isBlank c)
      (first : ∀ c ∈ text.head?, ¬Unicode.isBlank c) (last : ∀ c ∈ text.getLast?, ¬Unicode.isBlank c) :
      Trimmed (before ++ text ++ after) text

theorem trimmed_trim (cs : List Char) : Trimmed cs (Text.trim cs) := by
  have hhead : ∀ l : List Char, ∀ c ∈ (l.dropWhile Unicode.isBlank).head?, ¬Unicode.isBlank c := by
    intro l c hc
    have hnot := List.head?_dropWhile_not Unicode.isBlank l
    rw [Option.mem_def.1 hc] at hnot
    simpa using hnot
  let rest := cs.dropWhile Unicode.isBlank
  let after := (rest.reverse.takeWhile Unicode.isBlank).reverse
  have hrest : Text.trim cs ++ after = rest := by
    rw [Text.trim, ← List.reverse_append, List.takeWhile_append_dropWhile, List.reverse_reverse]
  have hcs : cs = cs.takeWhile Unicode.isBlank ++ Text.trim cs ++ after := by
    rw [List.append_assoc, hrest, List.takeWhile_append_dropWhile]
  have hfirst : ∀ c ∈ (Text.trim cs).head?, ¬Unicode.isBlank c := by
    intro c hc
    refine hhead cs c ?_
    change c ∈ rest.head?
    rw [← hrest, List.head?_append, Option.mem_def.1 hc]
    rfl
  have hlast : ∀ c ∈ (Text.trim cs).getLast?, ¬Unicode.isBlank c := by
    intro c hc
    rw [Text.trim, List.getLast?_reverse] at hc
    exact hhead _ c hc
  have htrimmed : Trimmed (cs.takeWhile Unicode.isBlank ++ Text.trim cs ++ after) (Text.trim cs) :=
    .mk (fun c hc => List.mem_takeWhile_imp hc) (fun c hc => List.mem_takeWhile_imp (List.mem_reverse.1 hc)) hfirst hlast
  rwa [← hcs] at htrimmed

/-- a run is some token -/
def Fits (cs : List Char) : Prop := ∃ kind, IsToken cs kind

/-- what the lexer makes of a segment of a script, with these runs -/
structure Lexed (script : List Char) (segment : Segment) (runs : List (Nat × List Char)) (s : Statement) : Prop where
  position : s.position = segment.position
  trimmed : Trimmed segment.chars s.text.toList
  divided : Runs segment.position segment.chars runs
  /-- there are tokens when every run is one -/
  accepted : (∃ tokens, s.tokens = .ok tokens) ↔ ∀ run ∈ runs, Fits run.2
  /-- then they are the runs in order, and the semicolon if there is one -/
  classified : ∀ tokens, s.tokens = .ok tokens → ∃ body,
    List.Forall₂ (fun run token => token.position = run.1 ∧ IsToken run.2 token.kind) runs body ∧
    tokens = if segment.terminated then body ++ [⟨.terminator, segment.position + segment.chars.length⟩] else body
  /-- the text of each stands in the script where the token says -/
  placed : ∀ tokens, s.tokens = .ok tokens → ∀ token ∈ tokens, StandsAt script token.position token.kind.text.toList
  /-- otherwise the fault lies in the first run that is no token -/
  refused : ∀ e, s.tokens = .error e → ∃ before run after, runs = before ++ run :: after ∧ (∀ r ∈ before, Fits r.2) ∧
    ¬Fits run.2 ∧ StandsAt script run.1 run.2 ∧ e.LiesIn run.1 run.2 ∧ script[e.position]? = some e.character

namespace Segment

variable {s : Segment}

theorem wordToken_eq_ok {w : Nat × List Char} (hw : w.2 ≠ []) {token : Token} :
    wordToken w = .ok token ↔ token.position = w.1 ∧ IsToken w.2 token.kind := by
  rw [wordToken, Result.map_eq_ok, ← classify_eq_ok hw]
  constructor
  · rintro ⟨kind, hk, rfl⟩
    exact ⟨rfl, hk⟩
  · obtain ⟨kind, position⟩ := token
    rintro ⟨rfl, hk⟩
    exact ⟨kind, hk, rfl⟩

theorem exists_wordToken {w : Nat × List Char} (hw : w.2 ≠ []) : (∃ token, wordToken w = .ok token) ↔ Fits w.2 := by
  constructor
  · rintro ⟨token, ht⟩
    exact ⟨token.kind, ((wordToken_eq_ok hw).1 ht).2⟩
  · rintro ⟨kind, hk⟩
    exact ⟨⟨kind, w.1⟩, (wordToken_eq_ok hw).2 ⟨rfl, hk⟩⟩

theorem wordToken_fault {w : Nat × List Char} {e : LexError} (h : wordToken w = .error e) : e.LiesIn w.1 w.2 := by
  cases hc : classify w.1 w.2 with
  | error e' =>
    rw [wordToken, hc] at h
    exact Except.error.inj h ▸ classify_fault hc
  | ok kind =>
    rw [wordToken, hc] at h
    cases h

theorem tokens_eq_error {e : LexError} :
    s.tokens = .error e ↔ (words s.position s.chars).mapM wordToken = .error e := by
  unfold Segment.tokens
  rw [Result.bind_eq_error]
  simp only [pure, Except.pure, reduceCtorEq, and_false, exists_false, or_false]

theorem ne_nil_of_mem_words {w : Nat × List Char} (h : w ∈ words s.position s.chars) : w.2 ≠ [] :=
  (runs_words s.position s.chars).ne_nil w h

theorem standsAt_of_mem_words {script : List Char} (hs : StandsAt script s.position (s.chars ++ s.ending))
    {w : Nat × List Char} (h : w ∈ words s.position s.chars) : StandsAt script w.1 w.2 := by
  have hchars : StandsAt script s.position s.chars := hs.trans (.prefix_self s.chars s.ending)
  obtain ⟨offset, hp, hstands⟩ := (runs_words s.position s.chars).standsAt w h
  exact hp ▸ hchars.trans hstands

theorem exists_tokens_iff : (∃ tokens, s.tokens = .ok tokens) ↔ ∀ w ∈ words s.position s.chars, Fits w.2 := by
  have hfits : (∃ body, (words s.position s.chars).mapM wordToken = .ok body) ↔
      ∀ w ∈ words s.position s.chars, Fits w.2 := by
    rw [Result.exists_mapM_eq_ok]
    exact forall₂_congr fun w hw => exists_wordToken (ne_nil_of_mem_words hw)
  rw [← hfits]
  simp only [tokens_eq_ok]
  exact ⟨fun ⟨_, body, hbody, _⟩ => ⟨body, hbody⟩, fun ⟨body, hbody⟩ => ⟨_, body, hbody, rfl⟩⟩

/-- every token stands where it says, the semicolon too -/
theorem standsAt_of_mem_tokens {script : List Char} (hs : StandsAt script s.position (s.chars ++ s.ending))
    {tokens : List Token} (ht : s.tokens = .ok tokens) {token : Token} (hm : token ∈ tokens) :
    StandsAt script token.position token.kind.text.toList := by
  obtain ⟨body, hbody, rfl⟩ := tokens_eq_ok.1 ht
  have hwords : ∀ token ∈ body, StandsAt script token.position token.kind.text.toList := by
    intro token htoken
    obtain ⟨w, hw, htoken⟩ := Result.mem_of_mapM hbody htoken
    obtain ⟨hposition, hkind⟩ := (wordToken_eq_ok (ne_nil_of_mem_words hw)).1 htoken
    rw [hposition, hkind.text]
    exact standsAt_of_mem_words hs hw
  split_ifs at hm with hterminated
  · rcases List.mem_append.1 hm with hm | hm
    · exact hwords token hm
    · obtain rfl := List.mem_singleton.1 hm
      have hsemicolon : TokenKind.terminator.text.toList = [';'] := by decide
      refine hs.trans ⟨s.chars, [], ?_, rfl⟩
      rw [ending, if_pos hterminated, hsemicolon, List.append_nil]
  · exact hwords token hm

/-- the first word that is no token holds the fault -/
theorem fault_of_tokens_eq_error {e : LexError} (he : s.tokens = .error e) :
    ∃ before w after, words s.position s.chars = before ++ w :: after ∧ (∀ r ∈ before, Fits r.2) ∧ ¬Fits w.2 ∧
      e.LiesIn w.1 w.2 := by
  obtain ⟨before, w, after, hw, hbefore, hfault⟩ := Result.mapM_eq_error_iff.1 (tokens_eq_error.1 he)
  refine ⟨before, w, after, hw, fun r hr => ?_, fun hfits => ?_, wordToken_fault hfault⟩
  · have hmem : r ∈ words s.position s.chars := hw ▸ List.mem_append_left _ hr
    exact (exists_wordToken (ne_nil_of_mem_words hmem)).1 (hbefore r hr)
  · have hmem : w ∈ words s.position s.chars := hw ▸ List.mem_append_right before List.mem_cons_self
    obtain ⟨token, ht⟩ := (exists_wordToken (ne_nil_of_mem_words hmem)).2 hfits
    cases ht.symm.trans hfault

/-- **A segment becomes the statement that the grammar asks for.** -/
theorem lexed_statement {script : List Char} (hs : StandsAt script s.position (s.chars ++ s.ending)) (index : Nat) :
    Lexed script s (words s.position s.chars) (s.statement index) where
  position := rfl
  trimmed := by
    change Trimmed s.chars (String.ofList (Text.trim s.chars)).toList
    rw [String.toList_ofList]
    exact trimmed_trim s.chars
  divided := runs_words s.position s.chars
  accepted := exists_tokens_iff
  classified tokens ht := by
    obtain ⟨body, hbody, htokens⟩ := tokens_eq_ok.1 ht
    have hboth := (List.forall₂_and_left _ _).2 ⟨fun w => ne_nil_of_mem_words, Result.mapM_eq_ok_iff.1 hbody⟩
    exact ⟨body, hboth.imp fun w token h => (wordToken_eq_ok h.1).1 h.2, htokens⟩
  placed tokens ht token hm := standsAt_of_mem_tokens hs ht hm
  refused e he := by
    obtain ⟨before, w, after, hw, hbefore, hnot, hlies⟩ := fault_of_tokens_eq_error he
    have hmem : w ∈ words s.position s.chars := hw ▸ List.mem_append_right before List.mem_cons_self
    have hplace := standsAt_of_mem_words hs hmem
    obtain ⟨i, hi, hposition, hcharacter⟩ := hlies
    refine ⟨before, w, after, hw, hbefore, hnot, hplace, ⟨i, hi, hposition, hcharacter⟩, ?_⟩
    rw [hposition, hplace.getElem? hi, hcharacter]

end Segment

/-! ## Scripts -/

/-- **The lexer recognises its grammar.** A script is cut at its semicolons, and the segments that are not blank become
statements, counted from zero. Each statement is the trimmed segment with the tokens of its runs, or with a fault in the
first run that is no token. -/
theorem lex_recognises_grammar (script : String) : ∃ segments, Cut 0 script.toList segments ∧
    (lex script).map (·.index) = List.range (lex script).length ∧
    List.Forall₂ (fun segment s => ∃ runs, Lexed script.toList segment runs s)
      (segments.filter fun segment => segment.chars.any (!Unicode.isBlank ·)) (lex script) := by
  have hcut := cut_segmentsFrom 0 script.toList
  refine ⟨_, hcut, ?_, ?_⟩
  · refine List.ext_getElem (by simp) fun i hi _ => ?_
    simp [lex_eq, Segment.statement]
  · change List.Forall₂ _ (Script.segments script.toList) _
    refine List.forall₂_iff_get.2 ⟨by simp [lex_eq], fun i hi _ => ?_⟩
    have hmem := List.mem_of_mem_filter (List.getElem_mem hi)
    obtain ⟨offset, hposition, hstands⟩ := hcut.standsAt _ hmem
    rw [Nat.zero_add] at hposition
    simp only [lex_eq, List.get_eq_getElem, List.getElem_mapIdx]
    exact ⟨_, Segment.lexed_statement (hposition ▸ hstands) i⟩

end ScopedStore.Script
