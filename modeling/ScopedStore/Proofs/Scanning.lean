/-
Scanning a script.

The lexer goes over a script place by place. `InWord chars stop i rest` says that place `i` lies in a word, that `rest` is
what is left of it, and that the word ends before place `stop`. To scan characters of one kind is to take them off the
front of what is left (`InWord.scanWhile`), because no blank is of such a kind; so the next token is what the whole word is
classified as (`InWord.nextToken`). This is one step of the loop over a statement; `tokensFrom_eq` is the run, by the
recursion of the loop. The loop over the script goes on over a stretch without semicolons and closes it with the next one
(`foldl_visit`).

Main result, `lex_eq`: the statements of a script are its segments with the tokens of their words.
-/
import Mathlib.Tactic
import ScopedStore.Proofs.KeyRules
import ScopedStore.Proofs.NumberLiteral
import ScopedStore.Proofs.Words

namespace ScopedStore.Script

open Unicode (isBlank blankRanges)

/-! ## Blanks -/

theorem isWordChar_of_isBlank {c : Char} (h : isBlank c) : isWordChar c = false := by
  have hblank : ∀ row ∈ blankRanges, ∀ i ≤ row.2 - row.1, isWordChar (Char.ofNat (row.1 + i)) = false := by
    decide +kernel
  obtain ⟨row, hm, hlow, hhigh⟩ := Unicode.exists_row_of_inRanges h
  have hword := hblank row hm (c.toNat - row.1) (by omega)
  rwa [show row.1 + (c.toNat - row.1) = c.toNat by omega, Char.ofNat_toNat] at hword

theorem isDigit_of_isBlank {c : Char} (h : isBlank c) : c.isDigit = false := by
  refine Bool.eq_false_iff.2 fun hc => ?_
  have hblank : isBlank c = false := Text.of_isDigit (isBlank · = false) (by decide +kernel) hc
  rw [hblank] at h
  cases h

/-! ## Places in a word -/

/-- `rest` stands at place `i`, and a blank or the end follows it at place `stop` -/
structure InWord (chars : Array Char) (stop i : Nat) (rest : List Char) : Prop where
  stands : chars.toList.drop i = rest ++ chars.toList.drop stop
  length : i + rest.length = stop
  free : ∀ c ∈ rest, ¬isBlank c
  ends : ∀ c ∈ chars[stop]?, isBlank c

namespace InWord

variable {chars : Array Char} {stop i : Nat} {c : Char} {rest word : List Char} {p : Char → Bool}

theorem getElem? (h : InWord chars stop i (c :: rest)) : chars[i]? = some c := by
  rw [← Array.getElem?_toList, ← List.head?_drop, h.stands]
  rfl

theorem lt_size (h : InWord chars stop i (c :: rest)) : i < chars.size :=
  (Array.getElem?_eq_some_iff.1 h.getElem?).1

theorem getElem (h : InWord chars stop i (c :: rest)) (hi : i < chars.size) : chars[i] = c :=
  (Array.getElem?_eq_some_iff.1 h.getElem?).2

/-- the word is over at place `stop` -/
theorem eq_stop (h : InWord chars stop i []) : i = stop := h.length

theorem skip {part : List Char} (h : InWord chars stop i (part ++ rest)) :
    InWord chars stop (i + part.length) rest where
  stands := by rw [← List.drop_drop, h.stands, List.append_assoc, List.drop_left]
  length := by rw [← h.length, List.length_append, Nat.add_assoc]
  free c hc := h.free c (List.mem_append_right part hc)
  ends := h.ends

theorem tail (h : InWord chars stop i (c :: rest)) : InWord chars stop (i + 1) rest :=
  @skip chars stop i rest [c] h

/-- **A scan takes characters off the front.** No blank is one of them, so the scan stays in the word. -/
theorem scanWhile (hp : ∀ c, isBlank c → p c = false) (h : InWord chars stop i rest) :
    Script.scanWhile p chars i = i + (rest.takeWhile p).length := by
  induction rest generalizing i with
  | nil =>
    obtain rfl := h.eq_stop
    rw [Script.scanWhile]
    split_ifs with hi hc
    · have hblank := h.ends chars[i] (Array.getElem?_eq_getElem hi)
      rw [hp _ hblank] at hc
      cases hc
    · rfl
    · rfl
  | cons c rest ih =>
    rw [Script.scanWhile, dif_pos h.lt_size, h.getElem]
    by_cases hc : p c
    · rw [if_pos hc, ih h.tail, List.takeWhile_cons_of_pos hc, List.length_cons]
      omega
    · rw [if_neg hc, List.takeWhile_cons_of_neg hc]
      rfl

/-- what is left after a scan -/
theorem dropWhile (hp : ∀ c, isBlank c → p c = false) (h : InWord chars stop i rest) :
    InWord chars stop (Script.scanWhile p chars i) (rest.dropWhile p) := by
  rw [h.scanWhile hp]
  rw [← List.takeWhile_append_dropWhile (p := p) (l := rest)] at h
  exact h.skip

/-- the text up to the end of the word -/
theorem stretch (h : InWord chars stop i word) : Script.stretch chars i stop = String.ofList word := by
  have hlength : stop - i = word.length := by
    have hplace := h.length
    omega
  rw [Script.stretch, Array.toList_extract, List.extract_eq_take_drop, h.stands, hlength, List.take_left]

end InWord

/-! ## Tokens -/

/-- what a scan finds, if it stands alone -/
def alone (chars : Array Char) (offset : Nat) (token : TokenKind × Nat) : Except LexError (TokenKind × Nat) :=
  (ensureSeparated chars offset token.2).map fun () => token

theorem nextToken_eq (chars : Array Char) (offset i : Nat) (hi : i < chars.size) :
    nextToken chars offset i hi = (scanToken chars offset i hi).bind (alone chars offset) := by
  unfold nextToken
  cases scanToken chars offset i hi with
  | error e => rfl
  | ok token =>
    change (ensureSeparated chars offset token.2 >>= fun _ => pure token) = alone chars offset token
    unfold alone
    cases ensureSeparated chars offset token.2 <;> rfl

namespace InWord

variable {chars : Array Char} {stop i : Nat} {c : Char} {rest word : List Char}

/-- a token that ends where the word ends stands alone -/
theorem alone_nil (h : InWord chars stop i []) (offset : Nat) (kind : TokenKind) :
    alone chars offset (kind, i) = .ok (kind, stop) := by
  obtain rfl := h.eq_stop
  have hsep : ensureSeparated chars offset i = .ok () := by
    unfold ensureSeparated
    split_ifs with hi hc
    · rfl
    · exact absurd (h.ends chars[i] (Array.getElem?_eq_getElem hi)) hc
    · rfl
  rw [alone, hsep]
  rfl

/-- the place of the fault when `rest` is what fits no token -/
theorem faultAt_eq {j : Nat} (h : InWord chars stop i word) (h' : InWord chars stop j (c :: rest)) (hij : i ≤ j)
    (offset : Nat) : faultAt (offset + i) word (c :: rest) c = ⟨offset + j, c⟩ := by
  have hplace : i + word.length = j + (c :: rest).length := h.length.trans h'.length.symm
  rw [faultAt, LexError.mk.injEq]
  exact ⟨by omega, rfl⟩

/-- after any other token, the first character that is left is the fault -/
theorem alone_cons {j : Nat} (h : InWord chars stop i word) (h' : InWord chars stop j (c :: rest)) (hij : i ≤ j)
    (offset : Nat) (kind : TokenKind) :
    alone chars offset (kind, j) = .error (faultAt (offset + i) word (c :: rest) c) := by
  have hsep : ensureSeparated chars offset j = .error ⟨offset + j, c⟩ := by
    rw [ensureSeparated, dif_pos h'.lt_size, h'.getElem, if_neg (h'.free c List.mem_cons_self), errorAt, h'.getElem]
  rw [alone, hsep, h.faultAt_eq h' hij]
  rfl

/-- a colon and what follows it -/
theorem scanKey {name : List Char} {j : Nat} (h : InWord chars stop i word) (h' : InWord chars stop j name) (hij : i ≤ j)
    (offset : Nat) :
    alone chars offset (.key (Script.stretch chars i (scanWord chars j)), scanWord chars j) =
      match name.dropWhile isWordChar with
      | [] => .ok (.key (String.ofList word), stop)
      | c :: rest => .error (Script.faultAt (offset + i) word (c :: rest) c) := by
  have hplace : j ≤ scanWord chars j := le_scanWhile isWordChar chars j
  have hrest : InWord chars stop (scanWord chars j) (name.dropWhile isWordChar) :=
    h'.dropWhile fun c => isWordChar_of_isBlank
  cases hname : name.dropWhile isWordChar with
  | nil =>
    rw [hname] at hrest
    rw [hrest.alone_nil, hrest.eq_stop, h.stretch]
  | cons c rest =>
    rw [hname] at hrest
    exact h.alone_cons hrest (hij.trans hplace) offset _

/-- a word that begins like a name is scanned as it is classified -/
theorem scanName (h : InWord chars stop i word) (offset : Nat) : alone chars offset (Script.scanName chars i) =
    (classifyName (offset + i) word).map fun kind => (kind, stop) := by
  have hplace : i ≤ scanWord chars i := le_scanWhile isWordChar chars i
  have hrest : InWord chars stop (scanWord chars i) (word.dropWhile isWordChar) :=
    h.dropWhile fun c => isWordChar_of_isBlank
  unfold Script.scanName classifyName
  dsimp only
  cases hword : word.dropWhile isWordChar with
  | nil =>
    rw [hword] at hrest
    have hcolon : chars[scanWord chars i]? ≠ some ':' := by
      intro hc
      have hends := hrest.ends ':' (hrest.eq_stop ▸ hc)
      exact absurd hends (by decide)
    rw [if_neg hcolon, hrest.alone_nil, hrest.eq_stop, h.stretch]
    rfl
  | cons c rest =>
    rw [hword] at hrest
    dsimp only
    by_cases hc : c = ':'
    · subst hc
      rw [if_pos hrest.getElem?, if_pos rfl, h.scanKey hrest.tail (by omega) offset]
      cases rest.dropWhile isWordChar <;> rfl
    · have hcolon : chars[scanWord chars i]? ≠ some ':' := by
        rw [hrest.getElem?]
        exact fun he => hc (Option.some.inj he)
      rw [if_neg hcolon, if_neg hc, h.alone_cons hrest hplace]
      rfl

/-- what is left of a word without its minus sign -/
theorem unsigned (h : InWord chars stop i (c :: rest)) :
    InWord chars stop (if chars[i]? = some '-' then i + 1 else i) (Script.unsigned (c :: rest)) := by
  rw [h.getElem?]
  by_cases hc : c = '-'
  · subst hc
    rw [if_pos rfl]
    exact h.tail
  · have hsign : Script.unsigned (c :: rest) = c :: rest := by
      unfold Script.unsigned
      split
      · rename_i he
        exact absurd (List.cons.inj he).1 hc
      · rfl
    rw [if_neg fun he => hc (Option.some.inj he), hsign]
    exact h

theorem scanFraction_nil (h : InWord chars stop i []) (offset : Nat) : Script.scanFraction chars offset i = .ok i := by
  unfold Script.scanFraction
  split_ifs with hi hpoint
  · obtain rfl := h.eq_stop
    have hends := h.ends chars[i] (Array.getElem?_eq_getElem hi)
    rw [hpoint] at hends
    exact absurd hends (by decide)
  · rfl
  · rfl

/-- a scan for digits goes on if there is one -/
theorem scanDigits_eq_self (h : InWord chars stop i word) :
    scanDigits chars i = i ↔ word.head?.any Char.isDigit = false := by
  have hcount : scanDigits chars i = i + (word.takeWhile Char.isDigit).length :=
    h.scanWhile fun c => isDigit_of_isBlank
  rw [hcount, Nat.add_eq_left, List.length_eq_zero_iff]
  cases word with
  | nil => simp
  | cons c rest => simp [List.takeWhile_cons]

/-- the end of a number, behind its digits -/
theorem scanFraction {j : Nat} (h : InWord chars stop i word) (h' : InWord chars stop j rest) (hij : i ≤ j)
    (hrest : (Script.unsigned word).dropWhile Char.isDigit = rest) (offset : Nat) :
    ((Script.scanFraction chars offset j).bind fun k => alone chars offset (.number (Script.stretch chars i k), k)) =
      (classifyNumber (offset + i) word).map fun kind => (kind, stop) := by
  unfold classifyNumber
  rw [hrest]
  cases rest with
  | nil =>
    rw [h'.scanFraction_nil, Except.bind, h'.alone_nil, h'.eq_stop, h.stretch]
    rfl
  | cons c rest =>
    rw [Script.scanFraction, dif_pos h'.lt_size, h'.getElem]
    dsimp only
    by_cases hc : c = '.'
    · have hplaces : InWord chars stop (scanDigits chars (j + 1)) (rest.dropWhile Char.isDigit) :=
        h'.tail.dropWhile fun c => isDigit_of_isBlank
      have hle : j + 1 ≤ scanDigits chars (j + 1) := le_scanWhile Char.isDigit chars (j + 1)
      rw [if_pos hc]
      cases hdigit : rest.head?.any Char.isDigit with
      | true =>
        have hsome : scanDigits chars (j + 1) ≠ j + 1 := by
          rw [Ne, h'.tail.scanDigits_eq_self, hdigit]
          exact Bool.noConfusion
        rw [if_neg hsome, if_pos (by simp [hc])]
        cases hend : rest.dropWhile Char.isDigit with
        | nil =>
          rw [hend] at hplaces
          rw [Except.bind, hplaces.alone_nil, hplaces.eq_stop, h.stretch]
          rfl
        | cons d more =>
          rw [hend] at hplaces
          exact h.alone_cons hplaces (by omega) offset _
      | false =>
        have hnone : scanDigits chars (j + 1) = j + 1 := h'.tail.scanDigits_eq_self.2 hdigit
        rw [if_pos hnone, if_neg (by simp), errorAt, h'.getElem, h.faultAt_eq h' hij]
        rfl
    · rw [if_neg hc, if_neg (by simp [hc])]
      exact h.alone_cons h' hij offset _

/-- a word that begins like a number is scanned as it is classified -/
theorem scanNumber (h : InWord chars stop i (c :: rest)) (offset : Nat) :
    ((Script.scanNumber chars offset i).bind fun k => alone chars offset (.number (Script.stretch chars i k), k)) =
      (classifyNumber (offset + i) (c :: rest)).map fun kind => (kind, stop) := by
  have hplace : i ≤ if chars[i]? = some '-' then i + 1 else i := by
    split_ifs
    · exact Nat.le_succ i
    · exact Nat.le_refl i
  have hdigits : InWord chars stop (scanDigits chars (if chars[i]? = some '-' then i + 1 else i)) _ :=
    h.unsigned.dropWhile fun c => isDigit_of_isBlank
  exact h.scanFraction hdigits (hplace.trans (le_scanWhile Char.isDigit chars _)) rfl offset

/-- the look-ahead after a minus sign stays in the word -/
theorem digit_ahead (h : InWord chars stop i (c :: rest)) :
    chars[i + 1]?.any Char.isDigit = rest.head?.any Char.isDigit := by
  cases rest with
  | cons d more => rw [h.tail.getElem?, List.head?_cons]
  | nil =>
    rw [h.tail.eq_stop]
    cases hc : chars[stop]? with
    | none => rfl
    | some d => exact isDigit_of_isBlank (h.ends d hc)

/-- **The next token** is what the word is classified as, and the scan goes on behind the word. -/
theorem nextToken (h : InWord chars stop i (c :: rest)) (offset : Nat) :
    Script.nextToken chars offset i h.lt_size =
      (classify (offset + i) (c :: rest)).map fun kind => (kind, stop) := by
  rw [nextToken_eq, scanToken, h.getElem, h.digit_ahead, classify]
  split_ifs with hname hnumber
  · exact h.scanName offset
  · rw [← h.scanNumber offset]
    cases Script.scanNumber chars offset i <;> rfl
  · rw [errorAt, h.getElem]
    rfl

end InWord

/-- a place with a character other than a blank begins a word, which the cut into words finds first -/
theorem exists_inWord {chars : Array Char} {i : Nat} (hi : i < chars.size) (hc : ¬isBlank chars[i]) (offset : Nat) :
    ∃ stop rest, InWord chars stop i (chars[i] :: rest) ∧ words (offset + i) (chars.toList.drop i) =
      (offset + i, chars[i] :: rest) :: words (offset + stop) (chars.toList.drop stop) := by
  have hdrop : chars.toList.drop i = chars[i] :: chars.toList.drop (i + 1) :=
    List.drop_eq_getElem_cons (by simpa using hi)
  obtain ⟨run, after, hrest, hfree, hends, hwords⟩ := words_cons_eq hc (offset + i) (chars.toList.drop (i + 1))
  have hafter : after = chars.toList.drop (i + (chars[i] :: run).length) := by
    rw [← List.drop_drop, hdrop, hrest, ← List.cons_append, List.drop_left]
  refine ⟨i + (chars[i] :: run).length, run, ⟨?_, rfl, List.forall_mem_cons.2 ⟨hc, hfree⟩, ?_⟩, ?_⟩
  · rw [hdrop, hrest, ← hafter]
    rfl
  · rwa [← Array.getElem?_toList, ← List.head?_drop, ← hafter]
  · rw [hdrop, hwords, ← hafter, Nat.add_assoc]

/-! ## Statements -/

/-- **The tokens from a place on are those of the words from there on.** -/
theorem tokensFrom_eq (chars : Array Char) (offset i : Nat) (found : List Token) :
    tokensFrom chars offset i found =
      ((words (offset + i) (chars.toList.drop i)).mapM Segment.wordToken).map (found ++ ·) := by
  fun_induction tokensFrom chars offset i found with
  | case1 i found hi hc ih =>
    have hdrop : chars.toList.drop i = chars[i] :: chars.toList.drop (i + 1) :=
      List.drop_eq_getElem_cons (by simpa using hi)
    rw [ih, hdrop, words, if_pos hc]
    rfl
  | case2 i found hi hc e hnext =>
    obtain ⟨stop, rest, hword, hwords⟩ := exists_inWord hi hc offset
    rw [hword.nextToken offset] at hnext
    have hclassify : classify (offset + i) (chars[i] :: rest) = .error e := Result.map_eq_error.1 hnext
    rw [hwords, List.mapM_cons, Segment.wordToken, hclassify]
    rfl
  | case3 i found hi hc token hnext ih =>
    obtain ⟨stop, rest, hword, hwords⟩ := exists_inWord hi hc offset
    rw [hword.nextToken offset] at hnext
    obtain ⟨kind, hclassify, rfl⟩ := Result.map_eq_ok.1 hnext
    rw [ih, hwords, List.mapM_cons, Segment.wordToken, hclassify]
    cases (words (offset + stop) (chars.toList.drop stop)).mapM Segment.wordToken with
    | error e => rfl
    | ok tokens => simp [Except.map, bind, Except.bind, pure, Except.pure]
  | case4 i found hi =>
    have hdrop : chars.toList.drop i = [] := List.drop_eq_nil_of_le (by simpa using hi)
    rw [hdrop]
    simp [words, Except.map, pure, Except.pure]

theorem tokenize_eq (chars : Array Char) (offset : Nat) (terminated : Bool) :
    tokenize chars offset terminated = Segment.tokens ⟨offset, chars.toList, terminated⟩ := by
  have hrun := tokensFrom_eq chars offset 0 []
  simp only [Nat.add_zero, List.drop_zero, List.nil_append] at hrun
  unfold tokenize Segment.tokens
  rw [hrun]
  cases (words offset chars.toList).mapM Segment.wordToken <;> rfl

/-! ## Scripts -/

/-- from place `start` up to place `i` stands `current`, in which there is no semicolon -/
structure InSegment (chars : Array Char) (start i : Nat) (current : List Char) : Prop where
  stands : chars.toList.drop start = current ++ chars.toList.drop i
  length : start + current.length = i
  free : ';' ∉ current

namespace InSegment

variable {chars : Array Char} {start i : Nat} {current : List Char}

theorem nil (chars : Array Char) (i : Nat) : InSegment chars i i [] := ⟨rfl, rfl, List.not_mem_nil⟩

theorem extract (h : InSegment chars start i current) : (chars.extract start i).toList = current := by
  have hlength : i - start = current.length := by
    have hplace := h.length
    omega
  rw [Array.toList_extract, List.extract_eq_take_drop, h.stands, hlength, List.take_left]

theorem push (h : InSegment chars start i current) (hi : i < chars.size) (hc : chars[i] ≠ ';') :
    InSegment chars start (i + 1) (current ++ [chars[i]]) where
  stands := by
    have hrest : chars.toList.drop i = chars[i] :: chars.toList.drop (i + 1) :=
      List.drop_eq_getElem_cons (by simpa using hi)
    rw [h.stands, hrest, List.append_assoc, List.singleton_append]
  length := by rw [List.length_append, List.length_singleton, ← Nat.add_assoc, h.length]
  free := by
    rw [List.mem_append, List.mem_singleton]
    rintro (hm | hm)
    · exact h.free hm
    · exact hc hm.symm

/-- the end of the script closes the last segment -/
theorem segmentsFrom_of_end (h : InSegment chars start chars.size current) :
    segmentsFrom start (Text.pieces ';' (chars.toList.drop start)) = [⟨start, current, false⟩] := by
  have hend : chars.toList.drop chars.size = [] := List.drop_eq_nil_of_le (Nat.le_refl _)
  rw [h.stands, hend, List.append_nil, Text.pieces_of_absent h.free]
  rfl

/-- a semicolon closes a segment, and the next one begins behind it -/
theorem segmentsFrom_of_semicolon (h : InSegment chars start i current) (hc : chars[i]? = some ';') :
    segmentsFrom start (Text.pieces ';' (chars.toList.drop start)) =
      ⟨start, current, true⟩ :: segmentsFrom (i + 1) (Text.pieces ';' (chars.toList.drop (i + 1))) := by
  obtain ⟨hi, hc⟩ := Array.getElem?_eq_some_iff.1 hc
  have hrest : chars.toList.drop i = ';' :: chars.toList.drop (i + 1) :=
    hc ▸ List.drop_eq_getElem_cons (by simpa using hi)
  obtain ⟨piece, pieces, hpieces⟩ :=
    List.exists_cons_of_ne_nil (Text.pieces_ne_nil ';' (chars.toList.drop (i + 1)))
  rw [h.stands, hrest, Text.pieces_append_separator h.free, hpieces, ← h.length]
  rfl

end InSegment

/-- the statements of the segments that hold more than blanks, the first of them with the index `index` -/
def statementsFrom (index : Nat) (segments : List Segment) : List Statement :=
  (segments.filter fun s => s.chars.any (!isBlank ·)).mapIdx fun k s => s.statement (k + index)

theorem statementsFrom_singleton (index : Nat) (s : Segment) :
    statementsFrom index [s] = if s.chars.any (!isBlank ·) then [s.statement index] else [] := by
  unfold statementsFrom
  rw [List.filter_cons]
  split_ifs <;> simp

theorem statementsFrom_cons (index : Nat) (s : Segment) (segments : List Segment) :
    statementsFrom index (s :: segments) =
      statementsFrom index [s] ++ statementsFrom (index + (statementsFrom index [s]).length) segments := by
  rw [statementsFrom_singleton]
  unfold statementsFrom
  rw [List.filter_cons]
  split_ifs <;> simp [Nat.add_left_comm, Nat.add_comm]

namespace Progress

variable {chars : Array Char} {progress : Progress} {i : Nat}

/-- within a statement the search goes on -/
theorem visit_of_ne (hi : i ≠ chars.size) (hc : chars[i]? ≠ some ';') : progress.visit chars i = progress := by
  simp [visit, hi, hc]

/-- a segment is closed, and becomes a statement unless it is blank -/
theorem visit_of_close {current : List Char} (h : InSegment chars progress.start i current)
    (hc : i = chars.size ∨ chars[i]? = some ';') : progress.visit chars i = ⟨i + 1, progress.statements ++
      statementsFrom progress.statements.length [⟨progress.start, current, !decide (i = chars.size)⟩]⟩ := by
  have hclose : ¬(!decide (i = chars.size) && decide (chars[i]? ≠ some ';')) = true := by
    rcases hc with hc | hc <;> simp [hc]
  rw [visit, if_neg hclose, statementsFrom_singleton]
  simp only [tokenize_eq, h.extract]
  split_ifs
  · rfl
  · rw [List.append_nil]

end Progress

/-- **The statements from a place on** are those of the segments from the current one on. -/
theorem foldl_visit {chars : Array Char} {progress : Progress} {i n : Nat} {current : List Char}
    (h : InSegment chars progress.start i current) (hn : i + n = chars.size) :
    ((List.range' i (n + 1)).foldl (Progress.visit chars) progress).statements =
      progress.statements ++ statementsFrom progress.statements.length
        (segmentsFrom progress.start (Text.pieces ';' (chars.toList.drop progress.start))) := by
  induction n generalizing i progress current with
  | zero =>
    obtain rfl : i = chars.size := hn
    rw [List.range'_one, List.foldl_cons, List.foldl_nil, Progress.visit_of_close h (.inl rfl), h.segmentsFrom_of_end,
      decide_eq_true rfl, Bool.not_true]
  | succ n ih =>
    have hi : i < chars.size := by omega
    rw [List.range'_succ, List.foldl_cons]
    by_cases hc : chars[i]? = some ';'
    · rw [Progress.visit_of_close h (.inr hc), ih (.nil chars (i + 1)) (by omega), h.segmentsFrom_of_semicolon hc,
        statementsFrom_cons _ _ (segmentsFrom ..), List.length_append, List.append_assoc, decide_eq_false hi.ne,
        Bool.not_false]
    · have hne : chars[i] ≠ ';' := fun he => hc (Array.getElem?_eq_some_iff.2 ⟨hi, he⟩)
      rw [Progress.visit_of_ne hi.ne hc]
      exact ih (h.push hi hne) (by omega)

/-- **The lexer cuts a script into its segments**, and each of them becomes the statement with the tokens of its words. -/
theorem lex_eq (script : String) : lex script = (segments script.toList).mapIdx fun index s => s.statement index := by
  have hrun := @foldl_visit script.toList.toArray {} 0 script.toList.length [] (.nil _ 0) (by simp)
  rw [← List.range_eq_range'] at hrun
  simpa [lex, statementsFrom, segments] using hrun

end ScopedStore.Script
