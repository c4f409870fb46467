/-
Tokens are written as text and read back.

`Script.spell` writes tokens one after the other with a blank between them, and `Script.placed` gives each of them the
place where it then stands. No token holds a blank or a semicolon (`IsToken.plain`), so the text is one statement and
its words are the tokens.

Main result, `lex_spell`: the lexer reads from the written text the tokens that were written, each at its place.
-/
import ScopedStore.Proofs.Splicing

namespace ScopedStore

namespace Script

open Unicode (isBlank)

/-! ## Characters of tokens -/

/-- it ends neither a word nor a statement -/
def Plain (c : Char) : Prop := isBlank c = false ∧ c ≠ ';'

instance (c : Char) : Decidable (Plain c) := inferInstanceAs (Decidable (_ ∧ _))

theorem plain_of_isWordChar {c : Char} (h : isWordChar c) : Plain c := by
  constructor
  · refine Bool.eq_false_iff.2 fun hb => ?_
    rw [isWordChar_of_isBlank hb] at h
    cases h
  · rintro rfl
    exact absurd h (by decide +kernel)

theorem plain_of_isDigit {c : Char} (h : c.isDigit) : Plain c := Text.of_isDigit Plain (by decide +kernel) h

theorem plain_of_isUnsigned {cs : List Char} (h : Text.IsUnsigned cs) : ∀ c ∈ cs, Plain c := by
  have hpoint : Plain '.' := by decide +kernel
  cases h with
  | whole hds => exact fun c hc => plain_of_isDigit (hds.digit c hc)
  | point hds hps =>
    intro c hc
    rcases List.mem_append.1 hc with hc | hc
    · exact plain_of_isDigit (hds.digit c hc)
    · rcases List.mem_cons.1 hc with rfl | hc
      · exact hpoint
      · exact plain_of_isDigit (hps.digit c hc)

/-- **A token is a single word.** -/
theorem IsToken.plain {cs : List Char} {kind : TokenKind} (h : IsToken cs kind) : ∀ c ∈ cs, Plain c := by
  have hcolon : Plain ':' := by decide +kernel
  have hminus : Plain '-' := by decide +kernel
  cases h with
  | keyword word => exact fun c hc => plain_of_isWordChar (word.isName_spelling.chars c hc)
  | ident name other => exact fun c hc => plain_of_isWordChar (name.chars c hc)
  | key hs hn =>
    intro c hc
    rcases List.mem_append.1 hc with hc | hc
    · exact plain_of_isWordChar (hs.chars c hc)
    · rcases List.mem_cons.1 hc with rfl | hc
      · exact hcolon
      · exact plain_of_isWordChar (hn c hc)
  | number literal =>
    cases literal with
    | plain h => exact plain_of_isUnsigned h
    | negative h => exact List.forall_mem_cons.2 ⟨hminus, plain_of_isUnsigned h⟩

theorem IsToken.ne_nil {cs : List Char} {kind : TokenKind} (h : IsToken cs kind) : cs ≠ [] := by
  cases h with
  | keyword word => cases word <;> decide
  | ident name other => cases name; exact List.cons_ne_nil _ _
  | key hs hn => simp
  | number literal =>
    cases literal with
    | plain h =>
      obtain ⟨d, rest, rfl, -⟩ := h.head
      exact List.cons_ne_nil d rest
    | negative h => exact List.cons_ne_nil _ _

/-! ## Writing -/

/-- the texts of the tokens, with a blank between them -/
def spellChars (kinds : List TokenKind) : List Char := Text.join ' ' (kinds.map (·.text.toList))

/-- the text that the tokens make, with a blank between them -/
def spell (kinds : List TokenKind) : String := String.ofList (spellChars kinds)

/-- the tokens of that text, of which the first begins at `position` -/
def placed (position : Nat) : List TokenKind → List Token
  | [] => []
  | kind :: kinds => ⟨kind, position⟩ :: placed (position + kind.text.toList.length + 1) kinds

/-- all of them are tokens that stand within a statement -/
def Writable (kinds : List TokenKind) : Prop := ∀ kind ∈ kinds, IsToken kind.text.toList kind

variable {kinds : List TokenKind} {kind : TokenKind}

theorem spellChars_cons_cons (kind next : TokenKind) (kinds : List TokenKind) :
    spellChars (kind :: next :: kinds) = kind.text.toList ++ ' ' :: spellChars (next :: kinds) :=
  Text.join_cons_cons ..

theorem kinds_placed (position : Nat) (kinds : List TokenKind) : (placed position kinds).map Token.kind = kinds := by
  induction kinds generalizing position with
  | nil => rfl
  | cons kind kinds ih => exact congrArg (kind :: ·) (ih _)

/-! ## Reading -/

/-- a word ends where a blank follows or the text ends -/
theorem words_append {word after : List Char} (hne : word ≠ []) (hword : ∀ c ∈ word, Plain c)
    (hafter : ∀ c ∈ after.head?, isBlank c) (position : Nat) :
    words position (word ++ after) = (position, word) :: words (position + word.length) after := by
  induction word generalizing position with
  | nil => exact absurd rfl hne
  | cons c cs ih =>
    obtain ⟨hc, hcs⟩ := List.forall_mem_cons.1 hword
    rw [List.cons_append, words, if_neg (by simp [hc.1])]
    cases cs with
    | nil =>
      have hend : after.head?.any (!isBlank ·) = false := by
        cases after with
        | nil => rfl
        | cons d ds => simpa using hafter d rfl
      rw [List.nil_append, hend]
      rfl
    | cons d ds =>
      have hd : ((d :: ds) ++ after).head?.any (!isBlank ·) = true := by simp [(hcs d List.mem_cons_self).1]
      rw [hd, ih (List.cons_ne_nil d ds) hcs]
      simp only [List.length_cons]
      rw [Nat.add_assoc, Nat.add_comm 1]

/-- **The words of the written text are the tokens.** -/
theorem mapM_words_spell (h : Writable kinds) (position : Nat) :
    (words position (spellChars kinds)).mapM Segment.wordToken = .ok (placed position kinds) := by
  have hblank : isBlank ' ' = true := by decide
  induction kinds generalizing position with
  | nil => rfl
  | cons kind kinds ih =>
    obtain ⟨hkind, hkinds⟩ := List.forall_mem_cons.1 h
    have htoken : Segment.wordToken (position, kind.text.toList) = .ok ⟨kind, position⟩ := by
      rw [Segment.wordToken, classify_of_isToken hkind]
      rfl
    cases kinds with
    | nil =>
      have hword := @words_append _ [] hkind.ne_nil hkind.plain (by simp) position
      rw [List.append_nil] at hword
      rw [spellChars, List.map_singleton, Text.join_singleton, hword]
      exact Result.mapM_cons_eq_ok.2 ⟨_, [], htoken, rfl, rfl⟩
    | cons next kinds =>
      rw [spellChars_cons_cons, words_append hkind.ne_nil hkind.plain (by simp [hblank]), words, if_pos hblank]
      exact Result.mapM_cons_eq_ok.2 ⟨_, _, htoken, ih hkinds _, rfl⟩

theorem semicolon_notMem_spellChars (h : Writable kinds) : ';' ∉ spellChars kinds := by
  induction kinds with
  | nil => exact List.not_mem_nil
  | cons kind kinds ih =>
    obtain ⟨hkind, hkinds⟩ := List.forall_mem_cons.1 h
    have hfree : ';' ∉ kind.text.toList := fun hm => (hkind.plain _ hm).2 rfl
    cases kinds with
    | nil => rwa [spellChars, List.map_singleton, Text.join_singleton]
    | cons next kinds =>
      rw [spellChars_cons_cons, List.mem_append, List.mem_cons, not_or, not_or]
      exact ⟨hfree, by decide, ih hkinds⟩

/-- no blank stands before the first token -/
theorem head?_spellChars (h : IsToken kind.text.toList kind) (kinds : List TokenKind) :
    (spellChars (kind :: kinds)).head? = kind.text.toList.head? := by
  cases kinds with
  | nil => rw [spellChars, List.map_singleton, Text.join_singleton]
  | cons next kinds => rw [spellChars_cons_cons, List.head?_append_of_ne_nil _ h.ne_nil]

theorem spellChars_ne_nil (h : IsToken kind.text.toList kind) (kinds : List TokenKind) :
    spellChars (kind :: kinds) ≠ [] := by
  rw [Ne, ← List.head?_eq_none_iff, head?_spellChars h, List.head?_eq_none_iff]
  exact h.ne_nil

/-- nor after the last one -/
theorem plain_of_mem_getLast? (h : Writable kinds) : ∀ c ∈ (spellChars kinds).getLast?, Plain c := by
  induction kinds with
  | nil => simp [spellChars, Text.join]
  | cons kind kinds ih =>
    obtain ⟨hkind, hkinds⟩ := List.forall_mem_cons.1 h
    cases kinds with
    | nil =>
      intro c hc
      rw [spellChars, List.map_singleton, Text.join_singleton] at hc
      exact hkind.plain c (List.mem_of_getLast? hc)
    | cons next kinds =>
      have hrest := spellChars_ne_nil (hkinds next List.mem_cons_self) kinds
      rw [spellChars_cons_cons, List.getLast?_append_of_ne_nil _ (List.cons_ne_nil _ _),
        List.getLast?_cons_of_ne_nil hrest]
      exact ih hkinds

/-- **Written tokens are read back.** -/
theorem lex_spell (h : Writable kinds) (hne : kinds ≠ []) :
    lex (spell kinds) = [⟨0, 0, spell kinds, .ok (placed 0 kinds)⟩] := by
  obtain ⟨kind, rest, rfl⟩ := List.exists_cons_of_ne_nil hne
  have hkind : IsToken kind.text.toList kind := h kind List.mem_cons_self
  have hfirst : ∀ c ∈ (spellChars (kind :: rest)).head?, isBlank c = false := fun c hc =>
    (hkind.plain c (List.mem_of_mem_head? (head?_spellChars hkind rest ▸ hc))).1
  have hblank : (spellChars (kind :: rest)).all isBlank = false := by
    obtain ⟨c, cs, hc⟩ := List.exists_cons_of_ne_nil (spellChars_ne_nil hkind rest)
    simp [hc, hfirst c (by rw [hc]; rfl)]
  have htrim : Text.trim (spellChars (kind :: rest)) = spellChars (kind :: rest) :=
    Text.trim_eq_self hfirst fun c hc => (plain_of_mem_getLast? h c hc).1
  have htokens : Segment.tokens ⟨0, spellChars (kind :: rest), false⟩ = .ok (placed 0 (kind :: rest)) :=
    Segment.tokens_eq_ok.2 ⟨_, mapM_words_spell h 0, rfl⟩
  have hsegments : segments (spellChars (kind :: rest)) = [⟨0, spellChars (kind :: rest), false⟩] := by
    rw [segments_of_free (semicolon_notMem_spellChars h), finalSegment, hblank]
    rfl
  rw [lex_eq, spell, String.toList_ofList, hsegments]
  simp only [List.mapIdx_cons, List.mapIdx_nil, Segment.statement, htokens, htrim]

end Script
end ScopedStore
