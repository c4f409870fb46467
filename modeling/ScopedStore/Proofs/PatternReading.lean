/-
Readers of patterns do not look past what they read.

A pattern that stands in a group is read as if it stood alone. `Follows cs cs'` relates what is left of a pattern by
itself to what is left of it in the group: `)$` comes after, unless a comment has swallowed that, and then both are at
their end. A reader is `Steady` when it reads the same before either. Here this is shown for blanks, numbers and
escapes.
-/
import Mathlib.Tactic
import ScopedStore.Pattern.Escape

namespace ScopedStore.Pattern.Read

/-- what stands behind a pattern that is set in a group -/
def closing : List Char := [')', '$']

/-- what is left of a pattern alone, and of the same pattern in a group -/
inductive Follows : List Char → List Char → Prop where
  | on (cs : List Char) : Follows cs (cs ++ closing)
  | swallowed : Follows [] []

/-- the reader reads the same from a pattern alone and from the pattern in a group -/
def Steady {α : Type} (reader : List Char → Option (α × List Char)) : Prop :=
  ∀ ⦃cs cs' x rest⦄, Follows cs cs' → reader cs = some (x, rest) →
    ∃ rest', reader cs' = some (x, rest') ∧ Follows rest rest'

variable {α β : Type} {cs cs' rest t : List Char} {c : Char} {extended : Bool} {flags : Flags}

theorem Follows.cons (h : Follows (c :: cs) cs') : ∃ more, cs' = c :: more ∧ Follows cs more := by
  generalize hc : c :: cs = text at h
  cases h with
  | on => exact ⟨cs ++ closing, by rw [← hc, List.cons_append], .on cs⟩
  | swallowed => cases hc

theorem Follows.eq_append (h : Follows (c :: cs) cs') : cs' = c :: cs ++ closing := by
  generalize hc : c :: cs = text at h
  cases h with
  | on => rfl
  | swallowed => cases hc

theorem Follows.of_nil (h : Follows [] t) (ht : t ≠ []) : t = closing := by
  generalize hc : [] = text at h
  cases h with
  | on => rw [← hc, List.nil_append]
  | swallowed => exact absurd rfl ht

theorem Follows.eq_nil (h : Follows cs []) : cs = [] := by
  cases cs with
  | nil => rfl
  | cons c cs =>
    obtain ⟨more, he, -⟩ := h.cons
    cases he

/-- what begins in a group begins alone as well, unless it is the closing parenthesis -/
theorem Follows.of_cons (h : Follows cs (c :: t)) (hc : c ≠ ')') : ∃ more, cs = c :: more ∧ Follows more t := by
  cases cs with
  | nil =>
    generalize ht : c :: t = text at h
    cases h with
    | on => exact absurd (List.cons.inj ht).1 hc
    | swallowed => cases ht
  | cons d cs =>
    obtain ⟨more, he, hf⟩ := h.cons
    obtain ⟨rfl, rfl⟩ := List.cons.inj he
    exact ⟨cs, rfl, hf⟩

theorem Follows.head?_eq_some_iff (h : Follows cs cs') (hc : c ≠ ')') : cs'.head? = some c ↔ cs.head? = some c := by
  constructor
  · intro he
    rw [List.eq_cons_of_mem_head? he] at h
    obtain ⟨more, rfl, -⟩ := h.of_cons hc
    rfl
  · intro he
    rw [List.eq_cons_of_mem_head? he] at h
    obtain ⟨more, rfl, -⟩ := h.cons
    rfl

theorem map_eq_some_pair {o : Option (α × List Char)} {f : α → β} {y : β} :
    (o.map fun (x, rest) => (f x, rest)) = some (y, rest) ↔ ∃ x, o = some (x, rest) ∧ f x = y := by
  rw [Option.map_eq_some_iff]
  constructor
  · rintro ⟨⟨x, rest⟩, ho, he⟩
    obtain ⟨rfl, rfl⟩ := Prod.mk.inj he
    exact ⟨x, ho, rfl⟩
  · rintro ⟨x, ho, rfl⟩
    exact ⟨(x, rest), ho, rfl⟩

theorem Steady.map {reader : List Char → Option (α × List Char)} (h : Steady reader) (f : α → β) :
    Steady fun cs => (reader cs).map fun (x, rest) => (f x, rest) := by
  intro cs cs' y rest hf hr
  obtain ⟨x, hx, rfl⟩ := map_eq_some_pair.1 hr
  obtain ⟨rest', hr', hf'⟩ := h hf hx
  exact ⟨rest', map_eq_some_pair.2 ⟨x, hr', rfl⟩, hf'⟩

theorem Steady.of_append {reader : List Char → Option (α × List Char)} (hnil : reader [] = none)
    (h : ∀ {cs x rest}, reader cs = some (x, rest) → reader (cs ++ closing) = some (x, rest ++ closing)) :
    Steady reader := by
  intro cs cs' x rest hf hr
  cases hf with
  | on => exact ⟨rest ++ closing, h hr, .on rest⟩
  | swallowed => rw [hnil] at hr; cases hr

/-! ## Blanks and numbers -/

theorem follows_skipComments (comment : Bool) (cs : List Char) :
    Follows (skipComments comment cs) (skipComments comment (cs ++ closing)) := by
  induction cs generalizing comment with
  | nil =>
    cases comment
    · exact .on []
    · exact .swallowed
  | cons c cs ih =>
    rw [List.cons_append, skipComments, skipComments]
    split_ifs
    · exact ih _
    · exact ih _
    · exact ih _
    · exact .on (c :: cs)

theorem Follows.skipBlanks (h : Follows cs cs') (extended : Bool) :
    Follows (skipBlanks extended cs) (skipBlanks extended cs') := by
  cases h with
  | on =>
    cases extended
    · exact .on cs
    · exact follows_skipComments false cs
  | swallowed => cases extended <;> exact .swallowed

/-- a run ends at the character that ends it, whatever comes after -/
theorem run_append {kind : Char → Bool} {comment : Bool} {xs : List Char}
    (h : run extended kind comment cs = (xs, c :: rest)) :
    run extended kind comment (cs ++ t) = (xs, c :: rest ++ t) := by
  induction cs generalizing comment xs with
  | nil => cases h
  | cons d cs ih =>
    rw [List.cons_append]
    rw [run] at h ⊢
    split_ifs at h ⊢
    · exact ih h
    · exact ih h
    · exact ih h
    · generalize hr : run extended kind false cs = result at h
      obtain ⟨more, left⟩ := result
      obtain ⟨rfl, rfl⟩ := Prod.mk.inj h
      simp [ih hr]
    · cases h
      rfl

theorem braced_append {name : List Char} (h : braced extended cs = some (name, rest)) :
    braced extended (cs ++ t) = some (name, rest ++ t) := by
  unfold braced at h
  split at h
  · rename_i name' c rest' hr
    obtain ⟨rfl, rfl⟩ := Prod.mk.inj (Option.some.inj h)
    rw [braced, run_append hr]
    rfl
  · cases h

theorem steady_braced (extended : Bool) : Steady (braced extended) := .of_append rfl braced_append

theorem dropWhile_append {p : Char → Bool} (h : cs.dropWhile p = c :: rest) : (cs ++ t).dropWhile p = c :: rest ++ t := by
  rw [List.dropWhile_append, h]
  rfl

theorem takeWhile_append {p : Char → Bool} (h : cs.dropWhile p = c :: rest) : (cs ++ t).takeWhile p = cs.takeWhile p := by
  induction cs with
  | nil => cases h
  | cons d cs ih =>
    rw [List.cons_append, List.takeWhile_cons, List.takeWhile_cons]
    rw [List.dropWhile_cons] at h
    split_ifs at h ⊢ with hd
    · rw [ih h]
    · rfl

/-- a number with something after it is read as it is -/
theorem decimal_append {n : Nat} (h : decimal extended cs = some (n, c :: rest)) :
    decimal extended (cs ++ t) = some (n, c :: rest ++ t) := by
  unfold decimal at h
  generalize hr : run extended Char.isDigit false (cs.dropWhile Unicode.isBlank) = result at h
  obtain ⟨digits, left⟩ := result
  simp only [Bool.or_eq_true, decide_eq_true_eq] at h
  split_ifs at h with hn
  obtain ⟨rfl, hc⟩ := Prod.mk.inj (Option.some.inj h)
  have hleft : left ≠ [] := by
    rintro rfl
    cases hc
  obtain ⟨d, left, rfl⟩ := List.exists_cons_of_ne_nil hleft
  have hdigit : cs.dropWhile Unicode.isBlank ≠ [] := by
    intro he
    rw [he] at hr
    cases hr
  obtain ⟨e, more, he⟩ := List.exists_cons_of_ne_nil hdigit
  unfold decimal
  rw [dropWhile_append he, ← he, run_append hr]
  simp only [Bool.or_eq_true, decide_eq_true_eq, hn, if_false]
  rw [dropWhile_append hc]

/-! ## Characters by number -/

theorem steady_hexDigits (extended : Bool) (n : Nat) : Steady (hexDigits extended n) := by
  intro cs cs' digits rest hf h
  induction n generalizing cs cs' digits with
  | zero =>
    obtain ⟨rfl, rfl⟩ := Prod.mk.inj (Option.some.inj h)
    exact ⟨cs', rfl, hf⟩
  | succ n ih =>
    cases cs with
    | nil => cases h
    | cons c cs =>
      obtain ⟨more, rfl, hm⟩ := hf.cons
      rw [hexDigits] at h ⊢
      split_ifs at h ⊢
      obtain ⟨digits, hd, rfl⟩ := map_eq_some_pair.1 h
      obtain ⟨rest', hr, ht⟩ := ih (hm.skipBlanks extended) hd
      exact ⟨rest', map_eq_some_pair.2 ⟨digits, hr, rfl⟩, ht⟩

theorem steady_hexEscape (flags : Flags) (width : Nat) : Steady (hexEscape flags width) := by
  intro cs cs' c rest hf h
  unfold hexEscape at h ⊢
  have hb := hf.skipBlanks flags.extended
  generalize skipBlanks flags.extended cs = text at h hb
  generalize skipBlanks flags.extended cs' = text' at hb ⊢
  split at h
  · rename_i cs
    obtain ⟨more, rfl, hm⟩ := hb.cons
    simp only [Option.bind_eq_bind, Option.bind_eq_some_iff] at h
    obtain ⟨⟨digits, left⟩, hd, c, hc, h⟩ := h
    obtain ⟨rfl, rfl⟩ := Prod.mk.inj (Option.some.inj h)
    obtain ⟨rest', hr, ht⟩ := steady_braced _ hm hd
    exact ⟨rest', by simp [hr, hc], ht⟩
  · rename_i hbrace
    simp only [Option.bind_eq_bind, Option.bind_eq_some_iff] at h
    obtain ⟨⟨digits, left⟩, hd, d, hc, h⟩ := h
    split_ifs at h with hoctet
    obtain ⟨rfl, rfl⟩ := Prod.mk.inj (Option.some.inj h)
    obtain ⟨rest', hr, ht⟩ := steady_hexDigits _ _ hb hd
    refine ⟨rest', ?_, ht⟩
    split
    · obtain ⟨more, rfl, -⟩ := hb.of_cons (by decide)
      exact (hbrace more rfl).elim
    · simp only [hr, hc, hoctet, Option.bind_eq_bind, Option.bind_some]
      rfl

/-! ## Classes by property -/

theorem steady_propertyEscape (flags : Flags) (negated : Bool) : Steady (propertyEscape flags negated) := by
  intro cs cs' s rest hf h
  unfold propertyEscape at h ⊢
  split_ifs at h ⊢
  · cases h
  dsimp only at h ⊢
  have hb := hf.skipBlanks flags.extended
  generalize skipBlanks flags.extended cs = text at h hb
  generalize skipBlanks flags.extended cs' = text' at hb ⊢
  split at h
  · cases h
  · cases h
  · rename_i cs
    obtain ⟨more, rfl, hm⟩ := hb.cons
    simp only [Option.bind_eq_bind, Option.bind_eq_some_iff] at h
    obtain ⟨⟨name, left⟩, hd, ⟨s, opposite⟩, hp, s, hs, h⟩ := h
    obtain ⟨rfl, rfl⟩ := Prod.mk.inj (Option.some.inj h)
    obtain ⟨rest', hr, ht⟩ := steady_braced _ hm hd
    exact ⟨rest', by simp [hr, hp, hs], ht⟩
  · rename_i c cs hslash hbrace
    obtain ⟨more, rfl, hm⟩ := hb.cons
    simp only [Option.bind_eq_bind, Option.bind_eq_some_iff] at h
    obtain ⟨⟨s, opposite⟩, hp, s, hs, h⟩ := h
    obtain ⟨rfl, rfl⟩ := Prod.mk.inj (Option.some.inj h)
    refine ⟨more, ?_, hm⟩
    simp [hp, hs]

/-! ## Escapes -/

theorem steady_wordEdge (extended : Bool) : Steady (wordEdge extended) := by
  intro cs cs' edge rest hf h
  unfold wordEdge at h ⊢
  split at h
  · rename_i more
    obtain ⟨more', rfl, hm⟩ := hf.cons
    have hb := hm.skipBlanks extended
    simp only
    generalize skipBlanks extended more = text at h hb
    generalize skipBlanks extended more' = text' at hb ⊢
    cases hb with
    | swallowed => cases h
    | on =>
      cases text with
      | nil => cases h
      | cons c text =>
        simp only [List.cons_append] at h ⊢
        split_ifs at h ⊢ with hc
        · obtain ⟨rfl, rfl⟩ := Prod.mk.inj (Option.some.inj h)
          exact ⟨_, rfl, hf⟩
        · split at h
          · rename_i name left hr
            rw [← List.cons_append, run_append hr]
            simp only [List.cons_append]
            split at h <;> cases h <;> exact ⟨_, by simp [*], .on rest⟩
          · cases h
  · rename_i hbrace
    obtain ⟨rfl, rfl⟩ := Prod.mk.inj (Option.some.inj h)
    refine ⟨cs', ?_, hf⟩
    split
    · obtain ⟨more, rfl, -⟩ := hf.of_cons (by decide)
      exact (hbrace more rfl).elim
    · rfl

theorem steady_escape (flags : Flags) : Steady (escape flags) := by
  intro cs cs' p rest hf h
  cases cs with
  | nil => cases h
  | cons c cs =>
    obtain ⟨more, rfl, hm⟩ := hf.cons
    unfold escape at h ⊢
    simp only at h ⊢
    split_ifs at h ⊢
    · exact (steady_hexEscape flags 2).map _ hm h
    · exact (steady_hexEscape flags 4).map _ hm h
    · exact (steady_hexEscape flags 8).map _ hm h
    · exact (steady_propertyEscape flags _).map _ hm h
    · obtain ⟨s, hs, he⟩ := Option.map_eq_some_iff.1 h
      obtain ⟨rfl, rfl⟩ := Prod.mk.inj he
      exact ⟨more, by simp [hs], hm⟩
    · obtain ⟨rfl, rfl⟩ := Prod.mk.inj (Option.some.inj h)
      exact ⟨more, rfl, hm⟩
    · split at h
      case h_9 => exact (steady_wordEdge flags.extended).map (fun edge => Primitive.look (.word edge (!flags.unicode))) hm h
      all_goals
        cases h <;> exact ⟨more, rfl, hm⟩

end ScopedStore.Pattern.Read
