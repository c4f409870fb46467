/-
What tokens take over from the text of a script.

A script is only ever cut: the pieces at semicolons and the words at blanks are stretches of it (`infix_of_mem_words`,
`infix_of_mem_segments`). `number_of_lex`: a number token is such a stretch, and a number literal.
-/
import ScopedStore.Proofs.Scanning

namespace ScopedStore

/-! ## Cuts -/

theorem Text.infix_of_mem_pieces {separator : Char} {cs piece : List Char} (h : piece ∈ pieces separator cs) :
    piece <:+: cs := by
  have hjoin : ∀ ps : List (List Char), piece ∈ ps → piece <:+: join separator ps := by
    intro ps hp
    induction ps with
    | nil => cases hp
    | cons p ps ih =>
      cases ps with
      | nil =>
        obtain rfl := List.mem_singleton.1 hp
        exact (join_singleton separator piece).symm ▸ List.infix_refl piece
      | cons q ps =>
        rw [join_cons_cons]
        rcases List.mem_cons.1 hp with rfl | hp
        · exact (List.prefix_append piece _).isInfix
        · exact ((ih hp).trans (List.suffix_cons separator _).isInfix).trans (List.suffix_append p _).isInfix
  exact join_pieces separator cs ▸ hjoin _ h

namespace Script

theorem infix_of_mem_words {position : Nat} {cs : List Char} {w : Nat × List Char} (h : w ∈ words position cs) :
    w.2 <:+: cs := by
  match cs with
  | [] => simp [words] at h
  | c :: cs =>
    by_cases hc : Unicode.isBlank c
    · rw [words, if_pos hc] at h
      exact List.infix_cons (infix_of_mem_words h)
    · obtain ⟨run, after, heq, -, -, hwords⟩ := words_cons_eq hc position cs
      have hle : after.length ≤ cs.length := heq ▸ List.length_append ▸ Nat.le_add_left _ _
      rw [hwords] at h
      rw [heq]
      rcases List.mem_cons.1 h with rfl | h
      · exact (List.prefix_append (c :: run) after).isInfix
      · exact (infix_of_mem_words h).trans (List.suffix_append (c :: run) after).isInfix
termination_by cs.length

theorem chars_of_mem_segmentsFrom {position : Nat} {ps : List (List Char)} {s : Segment}
    (h : s ∈ segmentsFrom position ps) : s.chars ∈ ps := by
  induction ps generalizing position with
  | nil => simp [segmentsFrom] at h
  | cons p ps ih =>
    cases ps with
    | nil =>
      obtain rfl := List.mem_singleton.1 h
      exact List.mem_cons_self
    | cons q ps =>
      rcases List.mem_cons.1 h with rfl | h
      · exact List.mem_cons_self
      · exact List.mem_cons_of_mem p (ih h)

theorem infix_of_mem_segments {script : List Char} {s : Segment} (h : s ∈ segments script) : s.chars <:+: script :=
  Text.infix_of_mem_pieces (chars_of_mem_segmentsFrom (List.mem_filter.1 h).1)

/-! ## Numbers -/

/-- the digits at the front of a word, and what follows them -/
theorem isDigits_of_dropWhile {cs rest : List Char} (hr : cs.dropWhile Char.isDigit = rest)
    (hc : cs.head?.any Char.isDigit) : ∃ ds, Text.IsDigits ds ∧ cs = ds ++ rest := by
  refine ⟨cs.takeWhile Char.isDigit, ⟨?_, fun c h => List.mem_takeWhile_imp h⟩, ?_⟩
  · cases cs with
    | nil => simp at hc
    | cons c cs => rw [List.takeWhile_cons_of_pos (by simpa using hc)]; exact List.cons_ne_nil _ _
  · rw [← hr, List.takeWhile_append_dropWhile]

theorem isUnsigned_of_dropWhile {cs : List Char} (hc : cs.head?.any Char.isDigit)
    (h : cs.dropWhile Char.isDigit = [] ∨ ∃ rest, cs.dropWhile Char.isDigit = '.' :: rest ∧
      rest.head?.any Char.isDigit ∧ rest.dropWhile Char.isDigit = []) : Text.IsUnsigned cs := by
  rcases h with h | ⟨rest, h, hr, hd⟩
  · obtain ⟨ds, hds, rfl⟩ := isDigits_of_dropWhile h hc
    rw [List.append_nil]
    exact .whole hds
  · obtain ⟨ds, hds, rfl⟩ := isDigits_of_dropWhile h hc
    obtain ⟨ps, hps, hrest⟩ := isDigits_of_dropWhile hd hr
    rw [hrest, List.append_nil]
    exact .point hds hps

theorem classifyNumber_eq_ok {position : Nat} {word : List Char} {kind : TokenKind}
    (hc : (unsigned word).head?.any Char.isDigit) (h : classifyNumber position word = .ok kind) :
    kind = .number (String.ofList word) ∧ Text.IsUnsigned (unsigned word) := by
  unfold classifyNumber at h
  split at h
  · rename_i hd
    exact ⟨(Except.ok.inj h).symm, isUnsigned_of_dropWhile hc (.inl hd)⟩
  · rename_i c rest hd
    split_ifs at h with hp
    split at h
    · rename_i hrest
      obtain ⟨rfl, hr⟩ : c = '.' ∧ rest.head?.any Char.isDigit := by simpa using hp
      exact ⟨(Except.ok.inj h).symm, isUnsigned_of_dropWhile hc (.inr ⟨rest, hd, hr, hrest⟩)⟩
    · cases h

theorem classifyName_ne_number {position : Nat} {word : List Char} {text : String} :
    classifyName position word ≠ .ok (.number text) := by
  intro h
  unfold classifyName at h
  split at h
  · dsimp only at h
    split at h <;> cases h
  · split_ifs at h
    split at h <;> cases h

/-- a number token is a whole word, and a number literal -/
theorem isLiteral_of_classify {position : Nat} {word : List Char} {text : String}
    (h : classify position word = .ok (.number text)) : text.toList = word ∧ Text.IsLiteral word := by
  cases word with
  | nil => cases h
  | cons c cs =>
    simp only [classify] at h
    split_ifs at h with hw hn
    · exact absurd h classifyName_ne_number
    · by_cases hm : c = '-'
      · subst hm
        have hc : (unsigned ('-' :: cs)).head?.any Char.isDigit := by simpa [unsigned, Char.isDigit] using hn
        obtain ⟨hk, hu⟩ := classifyNumber_eq_ok hc h
        obtain rfl := TokenKind.number.inj hk
        exact ⟨String.toList_ofList, .negative hu⟩
      · have hs : unsigned (c :: cs) = c :: cs := by
          unfold unsigned
          split
          · rename_i he
            exact absurd (List.cons.inj he).1 hm
          · rfl
        have hc : (unsigned (c :: cs)).head?.any Char.isDigit := by simpa [hs, hm] using hn
        obtain ⟨hk, hu⟩ := classifyNumber_eq_ok hc h
        obtain rfl := TokenKind.number.inj hk
        exact ⟨String.toList_ofList, .plain (hs ▸ hu)⟩

/-! ## Statements -/

namespace Segment

variable {s : Segment}

theorem tokens_eq_ok {tokens : List Token} : s.tokens = .ok tokens ↔ ∃ body,
    (words s.position s.chars).mapM wordToken = .ok body ∧
      tokens = if s.terminated then body ++ [⟨.terminator, s.position + s.chars.length⟩] else body := by
  unfold Segment.tokens
  rw [Result.bind_eq_ok]
  simp only [pure, Except.pure, Except.ok.injEq]
  exact exists_congr fun body => and_congr_right fun _ => eq_comm

end Segment

/-- every token but the semicolon is what a word of the segment is classified as -/
theorem classify_of_mem_tokens {s : Segment} {tokens : List Token} (h : s.tokens = .ok tokens) {token : Token}
    (ht : token ∈ tokens) (hk : token.kind ≠ .terminator) :
    ∃ word, word <:+: s.chars ∧ classify token.position word = .ok token.kind := by
  obtain ⟨body, hbody, rfl⟩ := Segment.tokens_eq_ok.1 h
  have hmem : token ∈ body := by
    split at ht
    · rcases List.mem_append.1 ht with ht | ht
      · exact ht
      · exact absurd (congrArg Token.kind (List.mem_singleton.1 ht)) hk
    · exact ht
  obtain ⟨w, hw, hf⟩ := Result.mem_of_mapM hbody hmem
  obtain ⟨kind, hc, rfl⟩ := Result.map_eq_ok.1 hf
  exact ⟨w.2, infix_of_mem_words hw, hc⟩

/-- **Number tokens are copied.** A number token of a script is a number literal that stands in the script. -/
theorem number_of_lex {script : String} {s : Statement} (hs : s ∈ lex script) {tokens : List Token}
    (h : s.tokens = .ok tokens) {text : String} (ht : .number text ∈ tokens.map Token.kind) :
    Text.IsLiteral text.toList ∧ text.toList <:+: script.toList := by
  obtain ⟨token, hm, hk⟩ := List.mem_map.1 ht
  rw [lex_eq] at hs
  obtain ⟨i, hi, rfl⟩ := List.mem_mapIdx.1 hs
  obtain ⟨word, hw, hc⟩ := classify_of_mem_tokens h hm (by simp [hk])
  obtain ⟨rfl, hl⟩ := isLiteral_of_classify (hk ▸ hc)
  exact ⟨hl, hw.trans (infix_of_mem_segments (List.getElem_mem hi))⟩

end Script
end ScopedStore
