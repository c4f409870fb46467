/-
In a pattern that was read, no repetition asks for more times than it allows.

Counts in braces are checked when they are read (`counted_le`); every step within a group keeps this (`proper_advance`),
and so does putting elements and branches together.

Main result, `Regex.proper_of_read`.
-/
import ScopedStore.Proofs.PatternGroups
import ScopedStore.Proofs.PatternSearch

namespace ScopedStore.Pattern

/-! ## Sequences and alternatives -/

/-- no repetition in what was read asks for more times than it allows -/
structure Branches.Proper (b : Branches) : Prop where
  earlier : ∀ e ∈ b.earlier, e.regex.Proper
  elements : ∀ e, .expr e ∈ b.elements → e.regex.Proper

theorem Regex.proper_before {a b : Regex} (ha : a.Proper) (hb : b.Proper) : (a.before b).Proper := by
  unfold before
  split
  · trivial
  · exact ⟨trivial, hb.2⟩
  · exact ha
  · exact ⟨ha, hb⟩

namespace Branches

variable {b b' : Branches}

theorem proper_empty : ({} : Branches).Proper := ⟨by simp, by simp⟩

theorem proper_sequence {elements : List Element} (h : ∀ e, .expr e ∈ elements → e.regex.Proper) :
    (Element.sequence elements).regex.Proper := by
  have hfold (exprs : List Nested) (r : Regex) (hr : r.Proper) (he : ∀ e ∈ exprs, e.regex.Proper) :
      (exprs.foldl (fun rest e => e.regex.before rest) r).Proper := by
    induction exprs generalizing r with
    | nil => exact hr
    | cons e exprs ih =>
      exact ih _ (Regex.proper_before (he e List.mem_cons_self) hr) fun x hx => he x (List.mem_cons_of_mem e hx)
  refine hfold _ _ trivial fun e he => h e ?_
  obtain ⟨element, hm, he⟩ := List.mem_filterMap.1 he
  cases element <;> cases he
  exact hm

theorem Proper.close (h : b.Proper) : b.close.regex.Proper := by
  have hfold (earlier : List Nested) (e : Nested) (he : e.regex.Proper) (hs : ∀ x ∈ earlier, x.regex.Proper) :
      (earlier.foldl (fun rest e => (⟨.alt e.regex rest.regex, max rest.depth (e.depth + 1)⟩ : Nested)) e).regex.Proper := by
    induction earlier generalizing e with
    | nil => exact he
    | cons x earlier ih =>
      exact ih _ ⟨hs x List.mem_cons_self, he⟩ fun y hy => hs y (List.mem_cons_of_mem x hy)
  refine hfold b.earlier _ ?_ h.earlier
  dsimp only
  split_ifs <;> exact proper_sequence h.elements

theorem Proper.next (h : b.Proper) : b.next.Proper where
  earlier := List.forall_mem_cons.2 ⟨proper_sequence h.elements, h.earlier⟩
  elements := nofun

theorem Proper.add (h : b.Proper) {r : Regex} (hr : r.Proper) (depth : Nat) : (b.add r depth).Proper where
  earlier := h.earlier
  elements := by
    intro e he
    rcases List.mem_cons.1 he with he | he
    · cases he
      exact hr
    · exact h.elements e he

theorem Proper.repeatLast (h : b.Proper) {low : Nat} {high : Option Nat} {greedy : Bool}
    (hr : b.repeatLast low high greedy = some b') (hl : ∀ m ∈ high, low ≤ m) : b'.Proper := by
  unfold Branches.repeatLast at hr
  split at hr
  · rename_i e others he
    cases hr
    refine ⟨h.earlier, fun x hx => ?_⟩
    rcases List.mem_cons.1 hx with hx | hx
    · cases hx
      exact ⟨h.elements e (he ▸ List.mem_cons_self), hl⟩
    · exact h.elements x (he ▸ List.mem_cons_of_mem _ hx)
  · cases hr

end Branches

/-! ## Readers -/

namespace Read

variable {cs rest : List Char} {p q : Progress}

theorem counted_le {extended : Bool} {low : Nat} {high : Option Nat} (h : counted extended cs = some (low, high, rest)) :
    ∀ m ∈ high, low ≤ m := by
  simp only [counted, Option.bind_eq_bind, Option.bind_eq_some_iff] at h
  obtain ⟨⟨n, left⟩, -, h⟩ := h
  simp only at h
  split at h
  · cases h
    rintro m ⟨⟩
    exact le_rfl
  · split at h
    · cases h
      rintro m ⟨⟩
    · obtain ⟨⟨m, right⟩, -, h⟩ := Option.bind_eq_some_iff.1 h
      split at h
      · split_ifs at h with hle
        cases h
        rintro m ⟨⟩
        exact hle
      · cases h
  · cases h

theorem proper_charRegex (flags : Flags) (c : Char) : (charRegex flags c).Proper := by
  unfold charRegex
  dsimp only
  split_ifs <;> trivial

theorem proper_primitive {flags : Flags} {r : Regex} (h : primitive flags cs = some (r, rest)) : r.Proper := by
  unfold primitive at h
  split at h
  · cases h
  · obtain ⟨⟨p, left⟩, -, he⟩ := Option.map_eq_some_iff.1 h
    cases p <;> cases he
    · exact proper_charRegex flags _
    · trivial
    · trivial
  · obtain ⟨s, -, he⟩ := Option.map_eq_some_iff.1 h
    cases he
    trivial
  · cases h
    trivial
  · cases h
    trivial
  · cases h
    exact proper_charRegex flags _

theorem proper_repetition (hp : p.branches.Proper) {low : Nat} {high : Option Nat}
    (h : repetition p low high cs = some (q, rest)) (hl : ∀ m ∈ high, low ≤ m) : q.branches.Proper := by
  obtain ⟨b, hb, he⟩ := Option.map_eq_some_iff.1 h
  cases he
  exact hp.repeatLast hb hl

theorem proper_enclosed {inside : Inside} {room : Nat} (hp : p.branches.Proper)
    (hi : ∀ {room flags groups cs e g rest}, inside room flags groups cs = some (e, g, rest) → e.regex.Proper)
    {number : Option Nat} {flags : Flags} {groups : Groups}
    (h : enclosed inside room p number flags groups cs = some (q, rest)) : q.branches.Proper := by
  obtain ⟨e, g, he, rfl⟩ := enclosed_eq_some.1 h
  exact hp.add (r := .group number e.regex) (hi he) _

theorem proper_advance {inside : Inside} {room : Nat} (hp : p.branches.Proper)
    (hi : ∀ {room flags groups cs e g rest}, inside room flags groups cs = some (e, g, rest) → e.regex.Proper)
    (h : advance inside room p cs = some (q, rest)) : q.branches.Proper := by
  unfold advance at h
  split at h
  · cases h
    exact hp.next
  · split at h
    · cases h
    · cases h
      refine ⟨hp.earlier, fun e he => hp.elements e ?_⟩
      simpa using he
    · split_ifs at h
      exact proper_enclosed hp hi h
    · split_ifs at h
      exact proper_enclosed hp hi h
  · obtain ⟨⟨e, left⟩, -, he⟩ := Option.map_eq_some_iff.1 h
    cases he
    exact hp.add (r := .set _ _) trivial _
  · exact proper_repetition hp h fun m _ => Nat.zero_le m
  · exact proper_repetition hp h nofun
  · exact proper_repetition hp h nofun
  · split at h
    · cases h
    · rename_i low high left hn
      exact proper_repetition hp h (counted_le hn)
  · obtain ⟨⟨r, left⟩, hr, he⟩ := Option.map_eq_some_iff.1 h
    cases he
    exact hp.add (proper_primitive hr) _

theorem proper_body (fuel : Nat) {room : Nat} {flags : Flags} {groups : Groups} {branches : Branches} {e : Nested}
    {g : Groups} (hb : branches.Proper) (h : body fuel room flags groups branches cs = some (e, g, rest)) :
    e.regex.Proper := by
  induction fuel generalizing room flags groups branches cs e g rest with
  | zero => cases h
  | succ fuel ih =>
    by_cases hs : Stops (skipBlanks flags.extended cs)
    · rw [body_of_stops (p := ⟨flags, groups, branches⟩) hs] at h
      cases h
      exact hb.close
    · rw [body_succ (p := ⟨flags, groups, branches⟩) hs] at h
      obtain ⟨⟨q, left⟩, hq, h⟩ := Option.bind_eq_some_iff.1 h
      exact ih (proper_advance hb (ih Branches.proper_empty) hq) h

end Read

theorem Regex.read_eq_some {pattern : List Char} {r : Regex} : read pattern = some r ↔
    ∃ e g, Read.body (pattern.length + 1) nestingLimit {} {} {} pattern = some (e, g, []) ∧ e.depth ≤ nestingLimit ∧
      e.regex = r := by
  unfold read
  constructor
  · intro h
    split at h
    · rename_i e g he
      split_ifs at h with hd
      exact ⟨e, g, he, hd, Option.some.inj h⟩
    · cases h
  · rintro ⟨e, g, he, hd, rfl⟩
    simp only [he, hd, if_true]

/-- no repetition in a pattern that was read asks for more times than it allows -/
theorem Regex.proper_of_read {pattern : List Char} {r : Regex} (h : read pattern = some r) : r.Proper := by
  obtain ⟨e, g, he, -, rfl⟩ := read_eq_some.1 h
  exact Read.proper_body _ Branches.proper_empty he

end ScopedStore.Pattern
