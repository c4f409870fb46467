/-
Two scripts as one, with a semicolon between them.

Shifting a segment, a statement or an error puts it as far behind as the text in front of it is long.
- `Cut.append`, `segments_append`: the segments of the whole are those of the first text, all of them closed by a
  semicolon, and those of the second text, shifted.
- `Segment.tokens_shift`, `Segment.tokens_close`: shifting a segment shifts its tokens and the fault in them, and
  closing it adds its semicolon to the tokens.
- `lex_append`: the statements of the whole. Only the last statement of the first text changes, when no semicolon
  ended it.
- `statements_prepare_append`: the commands of the whole are those of the two texts.
-/
import ScopedStore.Proofs.Analysis
import ScopedStore.Proofs.Grammar
import ScopedStore.Script.Plan

namespace ScopedStore

namespace Script

/-! ## Shifting and closing -/

def Token.shift (offset : Nat) (t : Token) : Token := { t with position := t.position + offset }

def LexError.shift (offset : Nat) (e : LexError) : LexError := { e with position := e.position + offset }

def shiftTokens (offset : Nat) (r : Except LexError (List Token)) : Except LexError (List Token) :=
  (r.map (·.map (Token.shift offset))).mapError (LexError.shift offset)

def Segment.shift (offset : Nat) (s : Segment) : Segment := { s with position := s.position + offset }

/-- the segment with a semicolon after it -/
def Segment.close (s : Segment) : Segment := { s with terminated := true }

/-- the statement with `count` statements and `offset` characters in front of it -/
def Statement.shift (count offset : Nat) (s : Statement) : Statement :=
  ⟨s.index + count, s.position + offset, s.text, shiftTokens offset s.tokens⟩

/-- the statement with a semicolon at that position -/
def Statement.close (position : Nat) (s : Statement) : Statement :=
  { s with tokens := s.tokens.map (· ++ [⟨.terminator, position⟩]) }

/-! ## Segments -/

theorem Cut.eq_segmentsFrom {position : Nat} {cs : List Char} {segments : List Segment} (h : Cut position cs segments) :
    segmentsFrom position (Text.pieces ';' cs) = segments := by
  induction h with
  | last free =>
    rw [Text.pieces_of_absent free]
    rfl
  | @terminated position chars after segments free rest ih =>
    rw [Text.pieces_append_separator free]
    obtain ⟨piece, pieces, hp⟩ := List.exists_cons_of_ne_nil (Text.pieces_ne_nil ';' after)
    rw [hp] at ih ⊢
    simp only [segmentsFrom, ih]

theorem Cut.append {position : Nat} {cs ds : List Char} {segments segments' : List Segment}
    (h : Cut position cs segments) (h' : Cut (position + cs.length + 1) ds segments') :
    Cut position (cs ++ ';' :: ds) (segments.map Segment.close ++ segments') := by
  induction h with
  | last free => exact .terminated free h'
  | @terminated position chars after segments free rest ih =>
    rw [List.append_assoc, List.cons_append]
    refine .terminated free (ih ?_)
    rw [List.length_append, List.length_cons] at h'
    have hplace : position + (chars.length + (after.length + 1)) + 1 =
        position + chars.length + 1 + after.length + 1 := by omega
    rwa [hplace] at h'

theorem Cut.shift {position : Nat} {cs : List Char} {segments : List Segment} (h : Cut position cs segments)
    (offset : Nat) : Cut (position + offset) cs (segments.map (Segment.shift offset)) := by
  induction h with
  | last free => exact .last free
  | @terminated position chars after segments free rest ih =>
    refine .terminated free ?_
    rwa [show position + offset + chars.length + 1 = position + chars.length + 1 + offset by omega]

/-- **The segments of the whole are those of the two texts.** -/
theorem segments_append (cs ds : List Char) : segments (cs ++ ';' :: ds) =
    (segments cs).map Segment.close ++ (segments ds).map (Segment.shift (cs.length + 1)) := by
  have h : Cut 0 (cs ++ ';' :: ds) _ := (cut_segmentsFrom 0 cs).append ((cut_segmentsFrom 0 ds).shift (cs.length + 1))
  unfold segments
  rw [h.eq_segmentsFrom, List.filter_append, List.filter_map, List.filter_map]
  rfl

/-- a text whose last semicolon stands at the end of `before` -/
structure Ends (cs before tail : List Char) : Prop where
  split : cs = before ++ tail
  free : ';' ∉ tail
  closed : before = [] ∨ before.getLast? = some ';'

theorem exists_ends (cs : List Char) : ∃ before tail, Ends cs before tail := by
  by_cases h : ';' ∈ cs
  · obtain ⟨tail, before, heq, hfree⟩ := List.eq_append_cons_of_mem (List.mem_reverse.2 h)
    refine ⟨before.reverse ++ [';'], tail.reverse, ?_, by simpa using hfree, .inr (by simp)⟩
    rw [← List.reverse_reverse cs, heq]
    simp
  · exact ⟨[], cs, rfl, h, .inl rfl⟩

/-- the last segment of a text, unless it is blank -/
def finalSegment (before tail : List Char) : List Segment :=
  if tail.all Unicode.isBlank then [] else [⟨before.length, tail, false⟩]

theorem segments_of_free {cs : List Char} (h : ';' ∉ cs) : segments cs = finalSegment [] cs := by
  unfold segments finalSegment
  rw [Text.pieces_of_absent h, segmentsFrom]
  have hblank : cs.all Unicode.isBlank = !cs.any (!Unicode.isBlank ·) := by simp [List.all_eq_not_any_not]
  cases hany : cs.any (!Unicode.isBlank ·) <;> simp [hblank, hany]

/-- the last segment is the only one that no semicolon closes -/
theorem segments_of_ends {cs before tail : List Char} (h : Ends cs before tail) :
    segments cs = segments before ++ finalSegment before tail ∧
      (segments before).map Segment.close = segments before := by
  obtain ⟨rfl, hfree, hclosed⟩ := h
  have hnil : segments [] = [] := rfl
  rcases hclosed with rfl | hclosed
  · rw [hnil, List.nil_append, List.nil_append, List.map_nil]
    exact ⟨segments_of_free hfree, rfl⟩
  · obtain ⟨w, rfl⟩ := List.getLast?_eq_some_iff.1 hclosed
    have hbefore : segments (w ++ [';']) = (segments w).map Segment.close := by
      rw [segments_append, hnil, List.map_nil, List.append_nil]
    have hfinal : (finalSegment [] tail).map (Segment.shift (w.length + 1)) = finalSegment (w ++ [';']) tail := by
      unfold finalSegment
      split_ifs
      · rfl
      · simp [Segment.shift]
    constructor
    · rw [List.append_assoc, List.singleton_append, segments_append, segments_of_free hfree, hfinal, hbefore]
    · rw [hbefore, List.map_map]
      rfl

/-! ## Tokens -/

theorem words_shift (offset position : Nat) (cs : List Char) :
    words (position + offset) cs = (words position cs).map fun w => (w.1 + offset, w.2) := by
  induction cs generalizing position with
  | nil => rfl
  | cons c cs ih =>
    have hnext : position + offset + 1 = position + 1 + offset := by omega
    rw [words, words, hnext, ih]
    split_ifs
    · rfl
    · cases cs.head?.any (!Unicode.isBlank ·) <;> cases words (position + 1) cs <;> rfl

theorem faultAt_shift (offset position : Nat) (word rest : List Char) (c : Char) :
    faultAt (position + offset) word rest c = (faultAt position word rest c).shift offset := by
  simp only [faultAt, LexError.shift, LexError.mk.injEq, and_true]
  omega

theorem classifyName_shift (offset position : Nat) (word : List Char) :
    classifyName (position + offset) word = (classifyName position word).mapError (LexError.shift offset) := by
  unfold classifyName
  split
  · rfl
  · split_ifs
    · split
      · rfl
      · exact congrArg Except.error (faultAt_shift ..)
    · exact congrArg Except.error (faultAt_shift ..)

theorem classifyNumber_shift (offset position : Nat) (word : List Char) :
    classifyNumber (position + offset) word = (classifyNumber position word).mapError (LexError.shift offset) := by
  unfold classifyNumber
  split
  · rfl
  · split_ifs
    · split
      · rfl
      · exact congrArg Except.error (faultAt_shift ..)
    · exact congrArg Except.error (faultAt_shift ..)

theorem classify_shift (offset position : Nat) (word : List Char) :
    classify (position + offset) word = (classify position word).mapError (LexError.shift offset) := by
  unfold classify
  split
  · rfl
  · split_ifs
    · exact classifyName_shift ..
    · exact classifyNumber_shift ..
    · rfl

namespace Segment

variable {s : Segment}

theorem wordToken_shift (offset : Nat) (w : Nat × List Char) :
    wordToken (w.1 + offset, w.2) = ((wordToken w).map (Token.shift offset)).mapError (LexError.shift offset) := by
  simp only [wordToken, classify_shift]
  cases classify w.1 w.2 <;> rfl

theorem tokens_shift (offset : Nat) : (s.shift offset).tokens = shiftTokens offset s.tokens := by
  obtain ⟨position, chars, terminated⟩ := s
  have hwords : (words (position + offset) chars).mapM wordToken =
      shiftTokens offset ((words position chars).mapM wordToken) := by
    rw [words_shift]
    exact Result.mapM_map (wordToken_shift offset) _
  simp only [shift, tokens_eq, hwords]
  cases (words position chars).mapM wordToken with
  | error e => rfl
  | ok body =>
    cases terminated with
    | false => rfl
    | true => simp [shiftTokens, Except.map, Except.mapError, Token.shift, Nat.add_right_comm]

theorem tokens_close (h : s.terminated = false) :
    s.close.tokens = s.tokens.map (· ++ [⟨.terminator, s.position + s.chars.length⟩]) := by
  rw [tokens_eq, tokens_eq]
  simp only [close, h]
  cases (words s.position s.chars).mapM wordToken <;> rfl

theorem statement_shift (count offset index : Nat) :
    (s.shift offset).statement (index + count) = (s.statement index).shift count offset := by
  simp only [statement, Statement.shift, tokens_shift]
  rfl

theorem statement_close (h : s.terminated = false) (index : Nat) :
    s.close.statement index = (s.statement index).close (s.position + s.chars.length) := by
  simp only [statement, Statement.close, tokens_close h]
  rfl

end Segment

/-! ## Statements -/

theorem length_lex (script : String) : (lex script).length = (segments script.toList).length := by
  rw [lex_eq, List.length_mapIdx]

/-- the statement of the last segment, unless it is blank -/
def finalStatement (before tail : List Char) (index : Nat) : List Statement :=
  (finalSegment before tail).map (·.statement index)

/-- **Statements of the whole.** The statements of the first text stay what they are, but the last one now ends in a
semicolon if it did not; those of the second text are put behind. -/
theorem lex_append {a : String} {before tail : List Char} (h : Ends a.toList before tail) (b : String) :
    let done := lex (String.ofList before)
    let last := finalStatement before tail done.length
    lex a = done ++ last ∧ lex (a ++ ";" ++ b) =
      done ++ last.map (Statement.close a.length) ++ (lex b).map (Statement.shift (lex a).length (a.length + 1)) := by
  intro done last
  obtain ⟨hsegments, hclosed⟩ := segments_of_ends h
  have hdone : done = (segments before).mapIdx fun index s => s.statement index := by
    rw [← String.toList_ofList (l := before), ← lex_eq]
  have hlast : last = (finalSegment before tail).mapIdx fun index s =>
      s.statement (index + (segments before).length) := by
    simp only [last, finalStatement, finalSegment, hdone, List.length_mapIdx]
    split_ifs <;> simp
  have ha : lex a = done ++ last := by
    rw [lex_eq, hsegments, List.mapIdx_append, ← hdone, ← hlast]
  have hclose : ((finalSegment before tail).map Segment.close).mapIdx
      (fun index s => s.statement (index + (segments before).length)) = last.map (Statement.close a.length) := by
    have hlength : before.length + tail.length = a.length := by
      rw [← String.length_toList, h.split, List.length_append]
    simp only [hlast, finalSegment]
    split_ifs <;> simp [Segment.statement_close, hlength]
  have hshift : ((segments b.toList).map (Segment.shift (a.length + 1))).mapIdx
      (fun index s => s.statement (index + (lex a).length)) =
        (lex b).map (Statement.shift (lex a).length (a.length + 1)) := by
    refine List.ext_getElem? fun index => ?_
    simp only [lex_eq b, List.getElem?_mapIdx, List.getElem?_map, Option.map_map]
    cases (segments b.toList)[index]? with
    | none => rfl
    | some s => exact congrArg some (Segment.statement_shift ..)
  have hlength : (segments before ++ (finalSegment before tail).map Segment.close).length = (lex a).length := by
    rw [length_lex, hsegments, List.length_append, List.length_append, List.length_map]
  have htext : (a ++ ";" ++ b).toList = a.toList ++ ';' :: b.toList := by simp
  refine ⟨ha, ?_⟩
  rw [lex_eq, htext, segments_append, hsegments, List.map_append, hclosed, List.mapIdx_append, List.mapIdx_append,
    hlength, String.length_toList, hshift, hclose, ← hdone]

end Script

/-! ## Commands -/

/-- a fault in the text of a statement, with `offset` characters in front of the script -/
def StoreError.shift (offset : Nat) : StoreError → StoreError
  | .lex e => .lex (e.shift offset)
  | e => e

/-- the statement with `count` statements and `offset` characters in front of it -/
def PreparedStatement.shift (count offset : Nat) (x : PreparedStatement) : PreparedStatement :=
  ⟨x.index + count, x.text, x.command.mapError (StoreError.shift offset)⟩

namespace Script.Statement

/-- the statement with its command -/
def prepared (d : Dialect) (s : Statement) : PreparedStatement := ⟨s.index, s.text, s.command d⟩

/-- a semicolon makes no difference to what a statement says -/
theorem command_close (s : Statement) (position : Nat) (d : Dialect) : (s.close position).command d = s.command d := by
  obtain ⟨index, start, text, _ | tokens⟩ := s
  · rfl
  · have hanalyze : d.analyze (tokens.map Token.kind ++ [.terminator]) = d.analyze (tokens.map Token.kind) := by
      simp [Dialect.analyze, List.filter_append]
    change (d.analyze ((tokens ++ [(⟨.terminator, position⟩ : Token)]).map Token.kind)).mapError _ = _
    rw [List.map_append]
    exact congrArg (·.mapError StoreError.semantic) hanalyze

theorem command_shift (s : Statement) (count offset : Nat) (d : Dialect) :
    (s.shift count offset).command d = (s.command d).mapError (StoreError.shift offset) := by
  obtain ⟨index, start, text, _ | tokens⟩ := s
  · rfl
  · have hkinds : (tokens.map (Token.shift offset)).map Token.kind = tokens.map Token.kind := by
      rw [List.map_map]
      rfl
    change (d.analyze ((tokens.map (Token.shift offset)).map Token.kind)).mapError _ =
      ((d.analyze (tokens.map Token.kind)).mapError _).mapError _
    rw [hkinds]
    cases d.analyze (tokens.map Token.kind) <;> rfl

theorem prepared_close (s : Statement) (position : Nat) (d : Dialect) : (s.close position).prepared d = s.prepared d :=
  congrArg (PreparedStatement.mk s.index s.text) (s.command_close position d)

theorem prepared_shift (s : Statement) (count offset : Nat) (d : Dialect) :
    (s.shift count offset).prepared d = (s.prepared d).shift count offset :=
  congrArg (PreparedStatement.mk (s.index + count) s.text) (s.command_shift count offset d)

end Script.Statement

theorem Dialect.statements_prepare (d : Dialect) (script : String) :
    (d.prepare script).statements = (Script.lex script).map (Script.Statement.prepared d) := rfl

/-- **The commands of the whole are those of the two texts.** -/
theorem Dialect.statements_prepare_append (d : Dialect) (a b : String) : (d.prepare (a ++ ";" ++ b)).statements =
    (d.prepare a).statements ++
      (d.prepare b).statements.map (PreparedStatement.shift (Script.lex a).length (a.length + 1)) := by
  obtain ⟨before, tail, h⟩ := Script.exists_ends a.toList
  obtain ⟨ha, hboth⟩ := Script.lex_append h b
  rw [d.statements_prepare, d.statements_prepare, d.statements_prepare, hboth, List.map_append, List.map_append,
    List.map_map, List.map_map, List.map_map]
  congr 1
  · rw [ha, List.map_append]
    exact congrArg _ (List.map_congr_left fun s _ => s.prepared_close a.length d)
  · exact List.map_congr_left fun s _ => s.prepared_shift _ _ d

end ScopedStore
