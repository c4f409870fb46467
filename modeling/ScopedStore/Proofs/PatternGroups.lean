/-
A pattern reads in a group as it reads alone.

Reading the inside of a group is one step after another (`advance`, `body_succ`). A step reads the same from a pattern
alone and from the pattern in a group (`advance_follows`), so what is read up to the end is the same, whatever fuel and
room there was.

Main result, `body_follows`.
-/
import ScopedStore.Pattern.Read
import ScopedStore.Proofs.BracketReading

namespace ScopedStore.Pattern.Read

section Steady

variable {cs rest t : List Char} {c : Char} {extended : Bool} {flags : Flags}

/-! ## Openings of groups -/

theorem flagLetters_append {flags' : Flags} {value : Bool} {seen seen' : List Char}
    (h : flagLetters flags value seen cs = some (flags', seen', rest)) :
    flagLetters flags value seen (cs ++ t) = some (flags', seen', rest ++ t) := by
  induction cs generalizing flags value seen with
  | nil => cases h
  | cons c cs ih =>
    rw [List.cons_append]
    unfold flagLetters at h ⊢
    split_ifs at h ⊢
    · obtain ⟨rfl, he⟩ := Prod.mk.inj (Option.some.inj h)
      obtain ⟨rfl, rfl⟩ := Prod.mk.inj he
      rfl
    · exact ih h
    · split at h
      · cases h
      · exact ih h

theorem groupName_append {name : List Char} (h : groupName cs = some (name, rest)) :
    groupName (cs ++ t) = some (name, rest ++ t) := by
  unfold groupName at h
  rcases hd : cs.dropWhile (· ≠ '>') with _ | ⟨c, more⟩
  · simp only [hd] at h
    cases h
  · simp only [hd] at h
    unfold groupName
    simp only [dropWhile_append hd, takeWhile_append hd, List.cons_append]
    split_ifs at h ⊢
    obtain ⟨rfl, rfl⟩ := Prod.mk.inj (Option.some.inj h)
    rfl

theorem steady_groupName : Steady groupName := .of_append (by decide) groupName_append

theorem steady_opening (flags : Flags) : Steady (opening flags) := by
  intro cs cs' o rest hf h
  unfold opening at h ⊢
  split at h
  · obtain ⟨more, rfl, hm⟩ := hf.cons
    obtain ⟨more, rfl, ht⟩ := hm.cons
    obtain ⟨more, rfl, hu⟩ := ht.cons
    exact steady_groupName.map (fun name => Opening.numbered (some name)) hu h
  · obtain ⟨more, rfl, hm⟩ := hf.cons
    obtain ⟨more, rfl, ht⟩ := hm.cons
    exact steady_groupName.map (fun name => Opening.numbered (some name)) ht h
  · rename_i text hnamed hangle
    obtain ⟨more, rfl, hm⟩ := hf.cons
    have hletters {changed : Flags} {seen : List Char} {c : Char} {left : List Char}
        (hl : flagLetters flags true [] text = some (changed, seen, c :: left)) :
        flagLetters flags true [] more = some (changed, seen, c :: left ++ closing) := by
      cases hm with
      | on => exact flagLetters_append hl
      | swallowed => cases hl
    split
    · rename_i he
      cases he
      obtain ⟨more, rfl, ht⟩ := hm.of_cons (by decide)
      obtain ⟨more, rfl, -⟩ := ht.of_cons (by decide)
      exact (hnamed _ rfl).elim
    · rename_i he
      cases he
      obtain ⟨more, rfl, -⟩ := hm.of_cons (by decide)
      exact (hangle _ rfl).elim
    · rename_i he
      cases he
      split at h
      · rename_i changed seen left hl
        split_ifs at h with hs
        obtain ⟨rfl, rfl⟩ := Prod.mk.inj (Option.some.inj h)
        exact ⟨left ++ closing, by simp [hletters hl, hs], .on left⟩
      · rename_i changed seen c left hc hl
        obtain ⟨rfl, rfl⟩ := Prod.mk.inj (Option.some.inj h)
        exact ⟨left ++ closing, by simp [hletters hl], .on left⟩
      · cases h
    · rename_i hother
      exact (hother _ rfl).elim
  · rename_i hnamed hangle hmark
    obtain ⟨rfl, rfl⟩ := Prod.mk.inj (Option.some.inj h)
    refine ⟨cs', ?_, hf⟩
    split
    · obtain ⟨more, rfl, -⟩ := hf.of_cons (by decide)
      exact (hmark _ rfl).elim
    · obtain ⟨more, rfl, -⟩ := hf.of_cons (by decide)
      exact (hmark _ rfl).elim
    · obtain ⟨more, rfl, -⟩ := hf.of_cons (by decide)
      exact (hmark _ rfl).elim
    · rfl

/-! ## Primitives and counts -/

theorem steady_primitive (flags : Flags) : Steady (primitive flags) := by
  intro cs cs' r rest hf h
  unfold primitive at h ⊢
  split at h
  · cases h
  · obtain ⟨more, rfl, hm⟩ := hf.cons
    obtain ⟨⟨p, left⟩, hp, he⟩ := Option.map_eq_some_iff.1 h
    obtain ⟨left', hp', ht⟩ := steady_escape flags hm hp
    refine ⟨left', ?_, ?_⟩
    · cases p <;> cases he <;> simp [hp']
    · cases p <;> cases he <;> exact ht
  · obtain ⟨more, rfl, hm⟩ := hf.cons
    obtain ⟨s, hs, he⟩ := Option.map_eq_some_iff.1 h
    obtain ⟨rfl, rfl⟩ := Prod.mk.inj he
    exact ⟨more, by simp [hs], hm⟩
  all_goals
    obtain ⟨more, rfl, hm⟩ := hf.cons
    obtain ⟨rfl, rfl⟩ := Prod.mk.inj (Option.some.inj h)
    exact ⟨more, by simp, hm⟩

theorem skipBlanks_append (h : skipBlanks extended cs = c :: rest) :
    skipBlanks extended (cs ++ closing) = c :: rest ++ closing := by
  have hb := (Follows.on cs).skipBlanks extended
  rw [h] at hb
  exact hb.eq_append

theorem decimal_skipBlanks_append {n : Nat} (h : decimal extended (skipBlanks extended cs) = some (n, c :: rest)) :
    decimal extended (skipBlanks extended (cs ++ closing)) = some (n, c :: rest ++ closing) := by
  rcases hb : skipBlanks extended cs with _ | ⟨d, text⟩
  · rw [hb] at h
    cases h
  · rw [hb] at h
    rw [skipBlanks_append hb]
    exact decimal_append h

theorem counted_append {low : Nat} {high : Option Nat} (h : counted extended cs = some (low, high, rest)) :
    counted extended (cs ++ closing) = some (low, high, rest ++ closing) := by
  simp only [counted, Option.bind_eq_bind, Option.bind_eq_some_iff] at h
  obtain ⟨⟨n, left⟩, hn, h⟩ := h
  simp only at h
  split at h
  · obtain ⟨rfl, he⟩ := Prod.mk.inj (Option.some.inj h)
    obtain ⟨rfl, rfl⟩ := Prod.mk.inj he
    simp [counted, decimal_skipBlanks_append hn]
  · rename_i left
    have hn' := decimal_skipBlanks_append hn
    rcases hb : skipBlanks extended left with _ | ⟨c, text⟩
    · rw [hb] at h
      cases h
    · by_cases hc : c = '\x7d'
      · subst hc
        simp only [hb] at h
        obtain ⟨rfl, he⟩ := Prod.mk.inj (Option.some.inj h)
        obtain ⟨rfl, rfl⟩ := Prod.mk.inj he
        simp [counted, hn', skipBlanks_append hb]
      · simp only [hb] at h
        split at h
        · rename_i he
          exact absurd (List.cons.inj he).1 hc
        · obtain ⟨⟨m, right⟩, hm, h⟩ := Option.bind_eq_some_iff.1 h
          split at h
          · rename_i high right he
            obtain ⟨rfl, rfl⟩ := Prod.mk.inj he
            split_ifs at h with hle
            obtain ⟨rfl, he⟩ := Prod.mk.inj (Option.some.inj h)
            obtain ⟨rfl, rfl⟩ := Prod.mk.inj he
            have hm' : decimal extended (c :: (text ++ closing)) = some (m, '\x7d' :: (right ++ closing)) :=
              decimal_append hm
            simp [counted, hn', skipBlanks_append hb, hm', hc, hle]
          · cases h
  · cases h

end Steady

/-! ## One step after another -/

/-- a reader of the insides of groups; it is given the room in them, the flags and the groups so far -/
abbrev Inside := Nat → Flags → Groups → List Char → Option (Nested × Groups × List Char)

/-- how far the inside of a group was read -/
structure Progress where
  flags : Flags
  groups : Groups
  branches : Branches

/-- a group, after its opening, with its closing parenthesis -/
def enclosed (inside : Inside) (room : Nat) (p : Progress) (number : Option Nat) (flags : Flags) (groups : Groups)
    (cs : List Char) : Option (Progress × List Char) :=
  match inside room flags groups cs with
  | some (e, groups, ')' :: rest) =>
    some (⟨p.flags, groups, p.branches.add (.group number e.regex) (e.depth + 1)⟩, rest)
  | _ => none

/-- a repetition, after its sign -/
def repetition (p : Progress) (low : Nat) (high : Option Nat) (cs : List Char) : Option (Progress × List Char) :=
  (p.branches.repeatLast low high (greed p.flags cs).1).map fun branches => ({ p with branches }, (greed p.flags cs).2)

/-- one step within a group, at a text that neither ends there nor closes the group -/
def advance (inside : Inside) (room : Nat) (p : Progress) (cs : List Char) : Option (Progress × List Char) :=
  match cs with
  | '|' :: rest => some ({ p with branches := p.branches.next }, rest)
  | '(' :: rest =>
    match opening p.flags (skipBlanks p.flags.extended rest) with
    | none => none
    | some (.flags flags, rest) =>
      some ({ p with flags, branches := { p.branches with elements := .flags :: p.branches.elements } }, rest)
    | some (.plain flags, rest) => if room = 0 then none else enclosed inside (room - 1) p none flags p.groups rest
    | some (.numbered name, rest) =>
      if room = 0 ∨ name.any p.groups.names.contains then none
      else
        enclosed inside (room - 1) p (some (p.groups.count + 1)) p.flags
          ⟨p.groups.count + 1, name.toList ++ p.groups.names⟩ rest
  | '[' :: rest =>
    (bracketed p.flags rest).map fun (e, rest) =>
      ({ p with branches := p.branches.add (.set (!p.flags.unicode) e.set) e.depth }, rest)
  | '?' :: rest => repetition p 0 (some 1) rest
  | '*' :: rest => repetition p 0 none rest
  | '+' :: rest => repetition p 1 none rest
  | '\x7b' :: rest =>
    match counted p.flags.extended rest with
    | none => none
    | some (low, high, rest) => repetition p low high (skipBlanks p.flags.extended rest)
  | cs => (primitive p.flags cs).map fun (regex, rest) => ({ p with branches := p.branches.add regex 0 }, rest)

variable {cs cs' rest rest' : List Char} {p : Progress}

/-- the text ends, or a parenthesis closes the group -/
def Stops (cs : List Char) : Prop := cs = [] ∨ cs.head? = some ')'

theorem Follows.stops_iff (hf : Follows cs cs') : Stops cs' ↔ Stops cs := by
  cases hf with
  | swallowed => rfl
  | on =>
    cases cs with
    | nil => exact iff_of_true (.inr rfl) (.inl rfl)
    | cons c cs => simp [Stops]

theorem body_of_stops {fuel room : Nat} (h : Stops (skipBlanks p.flags.extended cs)) :
    body (fuel + 1) room p.flags p.groups p.branches cs =
      some (p.branches.close, p.groups, skipBlanks p.flags.extended cs) := by
  rw [body]
  dsimp only
  generalize skipBlanks p.flags.extended cs = text at h ⊢
  rcases h with rfl | h
  · rfl
  · rw [List.eq_cons_of_mem_head? h]
    rfl

section

variable {α : Type} (inside : Inside) (room : Nat) (k : Progress × List Char → Option α)

theorem enclosed_bind (number : Option Nat) (flags : Flags) (groups : Groups) :
    (enclosed inside room p number flags groups cs).bind k =
      match inside room flags groups cs with
      | some (e, groups, ')' :: rest) =>
        k (⟨p.flags, groups, p.branches.add (.group number e.regex) (e.depth + 1)⟩, rest)
      | _ => none := by
  unfold enclosed
  split <;> simp [*]

theorem repetition_bind (low : Nat) (high : Option Nat) :
    (repetition p low high cs).bind k =
      match p.branches.repeatLast low high (greed p.flags cs).1 with
      | none => none
      | some branches => k ({ p with branches }, (greed p.flags cs).2) := by
  unfold repetition
  split <;> simp [*]

end

/-- **Reading the inside of a group is one step after another.** -/
theorem body_succ {fuel room : Nat} (h : ¬ Stops (skipBlanks p.flags.extended cs)) :
    body (fuel + 1) room p.flags p.groups p.branches cs =
      (advance (fun room flags groups => body fuel room flags groups {}) room p (skipBlanks p.flags.extended cs)).bind
        fun (q, rest) => body fuel room q.flags q.groups q.branches rest := by
  rw [body]
  dsimp only
  generalize skipBlanks p.flags.extended cs = text at h ⊢
  split
  · exact absurd (.inl rfl) h
  · exact absurd (.inr rfl) h
  · rfl
  · rename_i rest
    simp only [advance]
    rcases opening p.flags (skipBlanks p.flags.extended rest) with _ | ⟨flags | flags | name, rest⟩
    · rfl
    · rfl
    · dsimp only
      split_ifs
      · rfl
      · refine .trans ?_ (enclosed_bind ..).symm
        rfl
    · have hnames : p.groups.names.contains = fun name => decide (name ∈ p.groups.names) :=
        funext fun _ => List.contains_eq_mem ..
      dsimp only
      rw [hnames]
      split_ifs
      · rfl
      · refine .trans ?_ (enclosed_bind ..).symm
        rfl
  · rename_i rest
    simp only [advance]
    rcases bracketed p.flags rest with _ | ⟨e, rest⟩ <;> rfl
  · refine .trans ?_ (repetition_bind ..).symm
    rfl
  · refine .trans ?_ (repetition_bind ..).symm
    rfl
  · refine .trans ?_ (repetition_bind ..).symm
    rfl
  · rename_i rest
    simp only [advance]
    rcases counted p.flags.extended rest with _ | ⟨low, high, rest⟩
    · rfl
    · refine .trans ?_ (repetition_bind ..).symm
      rfl
  · have hadvance : advance (fun room flags groups => body fuel room flags groups {}) room p text =
        (primitive p.flags text).map fun (regex, rest) => ({ p with branches := p.branches.add regex 0 }, rest) := by
      simp [advance]
    rw [hadvance]
    rcases primitive p.flags text with _ | ⟨regex, rest⟩ <;> rfl

/-! ## The same reading alone and in a group -/

/-- two readers of the insides of groups read the same, the one alone and the other in a group -/
def Agrees (inside inside' : Inside) : Prop :=
  ∀ ⦃room room' flags groups cs cs' e g rest e' g' rest'⦄, Follows cs cs' →
    inside room flags groups cs = some (e, g, rest) → inside' room' flags groups cs' = some (e', g', rest') →
    e' = e ∧ g' = g ∧ Follows rest rest'

variable {inside inside' : Inside} {room room' : Nat} {q q' : Progress}

theorem enclosed_eq_some {number : Option Nat} {flags : Flags} {groups : Groups} :
    enclosed inside room p number flags groups cs = some (q, rest) ↔
      ∃ e groups', inside room flags groups cs = some (e, groups', ')' :: rest) ∧
        q = ⟨p.flags, groups', p.branches.add (.group number e.regex) (e.depth + 1)⟩ := by
  unfold enclosed
  constructor
  · intro h
    split at h
    · rename_i e groups' left he
      obtain ⟨rfl, rfl⟩ := Prod.mk.inj (Option.some.inj h)
      exact ⟨e, groups', he, rfl⟩
    · cases h
  · rintro ⟨e, groups', he, rfl⟩
    simp only [he]

theorem enclosed_follows (ha : Agrees inside inside') (hf : Follows cs cs') {number : Option Nat} {flags : Flags}
    {groups : Groups} (h : enclosed inside room p number flags groups cs = some (q, rest))
    (h' : enclosed inside' room' p number flags groups cs' = some (q', rest')) : q' = q ∧ Follows rest rest' := by
  obtain ⟨e, g, he, rfl⟩ := enclosed_eq_some.1 h
  obtain ⟨e', g', he', rfl⟩ := enclosed_eq_some.1 h'
  obtain ⟨rfl, rfl, hr⟩ := ha hf he he'
  obtain ⟨more, hm, hr⟩ := hr.cons
  obtain ⟨-, rfl⟩ := List.cons.inj hm
  exact ⟨rfl, hr⟩

theorem greed_follows (flags : Flags) (hf : Follows cs cs') :
    (greed flags cs').1 = (greed flags cs).1 ∧ Follows (greed flags cs).2 (greed flags cs').2 := by
  by_cases hc : cs.head? = some '?'
  · rw [List.eq_cons_of_mem_head? hc] at hf ⊢
    obtain ⟨more, rfl, hm⟩ := hf.cons
    exact ⟨rfl, hm⟩
  · have hsame {text : List Char} (h : text.head? ≠ some '?') : greed flags text = (!flags.swapGreed, text) := by
      unfold greed
      split
      · exact absurd rfl h
      · rfl
    rw [hsame hc, hsame (mt (hf.head?_eq_some_iff (by decide)).1 hc)]
    exact ⟨rfl, hf⟩

theorem repetition_follows (hf : Follows cs cs') {low : Nat} {high : Option Nat}
    (h : repetition p low high cs = some (q, rest)) (h' : repetition p low high cs' = some (q', rest')) :
    q' = q ∧ Follows rest rest' := by
  obtain ⟨hg, hr⟩ := greed_follows p.flags hf
  obtain ⟨b, hb, he⟩ := Option.map_eq_some_iff.1 h
  obtain ⟨b', hb', he'⟩ := Option.map_eq_some_iff.1 h'
  obtain ⟨rfl, rfl⟩ := Prod.mk.inj he
  obtain ⟨rfl, rfl⟩ := Prod.mk.inj he'
  rw [hg, hb] at hb'
  obtain rfl := Option.some.inj hb'
  exact ⟨rfl, hr⟩

/-- the characters that a step begins with, other than those of a primitive -/
def signs : List Char := ['|', '(', '[', '?', '*', '+', '\x7b']

theorem advance_of_not_mem {c : Char} (hc : c ∉ signs) : advance inside room p (c :: cs) =
    (primitive p.flags (c :: cs)).map fun (regex, rest) => ({ p with branches := p.branches.add regex 0 }, rest) := by
  simp only [signs, List.mem_cons, List.not_mem_nil, or_false, not_or] at hc
  simp [advance, hc]

theorem counted_nil (extended : Bool) : counted extended [] = none := by cases extended <;> rfl

theorem Steady.agrees {α : Type} {reader : List Char → Option (α × List Char)} (hr : Steady reader) {x x' : α}
    (hf : Follows cs cs') (h : reader cs = some (x, rest)) (h' : reader cs' = some (x', rest')) :
    x' = x ∧ Follows rest rest' := by
  obtain ⟨left, hl, ht⟩ := hr hf h
  rw [hl] at h'
  obtain ⟨rfl, rfl⟩ := Prod.mk.inj (Option.some.inj h')
  exact ⟨rfl, ht⟩

/-- a step reads the same alone and in a group -/
theorem advance_follows (ha : Agrees inside inside') (hf : Follows cs cs') (hs : cs ≠ [])
    (h : advance inside room p cs = some (q, rest)) (h' : advance inside' room' p cs' = some (q', rest')) :
    q' = q ∧ Follows rest rest' := by
  obtain ⟨c, text, rfl⟩ := List.exists_cons_of_ne_nil hs
  obtain ⟨more, rfl, hm⟩ := hf.cons
  by_cases hc : c ∈ signs
  · simp only [signs, List.mem_cons, List.not_mem_nil, or_false] at hc
    rcases hc with rfl | rfl | rfl | rfl | rfl | rfl | rfl <;> simp only [advance] at h h'
    · obtain ⟨rfl, rfl⟩ := Prod.mk.inj (Option.some.inj h)
      obtain ⟨rfl, rfl⟩ := Prod.mk.inj (Option.some.inj h')
      exact ⟨rfl, hm⟩
    · rcases ho : opening p.flags (skipBlanks p.flags.extended text) with _ | ⟨o, left⟩
      · rw [ho] at h
        cases h
      · obtain ⟨left', ho', hl⟩ := steady_opening p.flags (hm.skipBlanks p.flags.extended) ho
        rw [ho] at h
        rw [ho'] at h'
        cases o with
        | flags changed =>
          obtain ⟨rfl, rfl⟩ := Prod.mk.inj (Option.some.inj h)
          obtain ⟨rfl, rfl⟩ := Prod.mk.inj (Option.some.inj h')
          exact ⟨rfl, hl⟩
        | plain flags =>
          simp only at h h'
          split_ifs at h h'
          exact enclosed_follows ha hl h h'
        | numbered name =>
          simp only at h h'
          split_ifs at h h'
          exact enclosed_follows ha hl h h'
    · exact ((steady_bracketed p.flags).map fun e =>
        ({ p with branches := p.branches.add (.set (!p.flags.unicode) e.set) e.depth } : Progress)).agrees hm h h'
    · exact repetition_follows hm h h'
    · exact repetition_follows hm h h'
    · exact repetition_follows hm h h'
    · rcases hn : counted p.flags.extended text with _ | ⟨low, high, left⟩
      · rw [hn] at h
        cases h
      · cases hm with
        | swallowed => rw [counted_nil] at hn; cases hn
        | on =>
          rw [hn] at h
          rw [counted_append hn] at h'
          exact repetition_follows ((Follows.on left).skipBlanks p.flags.extended) h h'
  · rw [advance_of_not_mem hc] at h h'
    exact ((steady_primitive p.flags).map fun regex =>
      ({ p with branches := p.branches.add regex 0 } : Progress)).agrees hf h h'

/-- **The inside of a group reads as the same pattern alone,** whatever fuel and room there was. -/
theorem body_follows (fuel fuel' : Nat) {room room' : Nat} {flags : Flags} {groups : Groups} {branches : Branches}
    {e e' : Nested} {g g' : Groups} (hf : Follows cs cs')
    (h : body fuel room flags groups branches cs = some (e, g, rest))
    (h' : body fuel' room' flags groups branches cs' = some (e', g', rest')) : e' = e ∧ g' = g ∧ Follows rest rest' := by
  induction fuel generalizing fuel' room room' flags groups branches cs cs' e e' g g' rest rest' with
  | zero => cases h
  | succ fuel ih =>
    cases fuel' with
    | zero => cases h'
    | succ fuel' =>
      have hb := hf.skipBlanks flags.extended
      by_cases hs : Stops (skipBlanks flags.extended cs)
      · rw [body_of_stops (p := ⟨flags, groups, branches⟩) hs] at h
        rw [body_of_stops (p := ⟨flags, groups, branches⟩) (hb.stops_iff.2 hs)] at h'
        cases h
        cases h'
        exact ⟨rfl, rfl, hb⟩
      · rw [body_succ (p := ⟨flags, groups, branches⟩) hs] at h
        rw [body_succ (p := ⟨flags, groups, branches⟩) (mt hb.stops_iff.1 hs)] at h'
        obtain ⟨⟨q, left⟩, hq, h⟩ := Option.bind_eq_some_iff.1 h
        obtain ⟨⟨q', left'⟩, hq', h'⟩ := Option.bind_eq_some_iff.1 h'
        have hinside : Agrees (fun room flags groups => body fuel room flags groups {})
            (fun room flags groups => body fuel' room flags groups {}) := fun _ _ _ _ _ _ _ _ _ _ _ _ hf h h' => ih _ hf h h'
        obtain ⟨rfl, hl⟩ := advance_follows hinside hb (fun he => hs (.inl he)) hq hq'
        exact ih _ hl h h'

end ScopedStore.Pattern.Read
