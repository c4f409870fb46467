/-
Classes in brackets are read in a group as they are read alone.

A class ends at its closing bracket, which comes before the parenthesis that closes the group; so nothing within the
class is read past that. Reading the inside of a class is one item after another (`classBody_of_item`), with the signs
of operations on sets between them, and what reads an item alone reads it in a group (`Continues.classItem`).
-/
import ScopedStore.Pattern.Bracket
import ScopedStore.Proofs.PatternReading

namespace ScopedStore.Pattern.Read

variable {cs cs' rest : List Char} {extended : Bool}

/-! ## Classes with a name -/

/-- the name of an ASCII class, with the colon and the bracket that end it -/
def className? (negated : Bool) (cs : List Char) : Option (CharSet × Bool × List Char) :=
  match cs.dropWhile (· ≠ ':') with
  | ':' :: ']' :: rest =>
    (CharSet.asciiClasses.lookup (String.ofList (cs.takeWhile (· ≠ ':')))).map fun s => (s, negated, rest)
  | _ => none

/-- whether a caret comes first, and what follows it -/
def caret (skip : List Char → List Char) (cs : List Char) : Bool × List Char :=
  match cs with
  | '^' :: cs => (true, skip cs)
  | cs => (false, cs)

theorem caret_of_ne {skip : List Char → List Char} (h : cs.head? ≠ some '^') : caret skip cs = (false, cs) := by
  unfold caret
  split
  · exact absurd rfl h
  · rfl

theorem asciiClass?_eq (cs : List Char) :
    asciiClass? ('[' :: ':' :: cs) = className? (caret id cs).1 (caret id cs).2 := rfl

theorem asciiClass?_eq_none (h : ∀ more, cs ≠ '[' :: ':' :: more) : asciiClass? cs = none := by
  unfold asciiClass?
  split
  · exact (h _ rfl).elim
  · rfl

theorem className?_append (negated : Bool) (cs : List Char) : className? negated (cs ++ closing) =
    (className? negated cs).map fun (s, negated, rest) => (s, negated, rest ++ closing) := by
  unfold className?
  rcases hd : cs.dropWhile (· ≠ ':') with _ | ⟨c, _ | ⟨d, rest⟩⟩
  · rw [List.dropWhile_append, hd]
    rfl
  · rw [dropWhile_append hd]
    simp [closing]
  · rw [dropWhile_append hd, takeWhile_append hd]
    simp only [List.cons_append]
    split
    · rename_i he
      cases he
      simp only [Option.map_map]
      rfl
    · rename_i he
      split
      · rename_i he'
        cases he'
        exact (he _ rfl).elim
      · rfl

theorem asciiClass?_append (cs : List Char) :
    asciiClass? (cs ++ closing) = (asciiClass? cs).map fun (s, negated, rest) => (s, negated, rest ++ closing) := by
  by_cases h : ∃ more, cs = '[' :: ':' :: more
  · obtain ⟨more, rfl⟩ := h
    rw [List.cons_append, List.cons_append, asciiClass?_eq, asciiClass?_eq]
    by_cases hc : more.head? = some '^'
    · rw [List.eq_cons_of_mem_head? hc]
      exact className?_append true more.tail
    · have hc' : (more ++ closing).head? ≠ some '^' := mt ((Follows.on more).head?_eq_some_iff (by decide)).1 hc
      rw [caret_of_ne hc, caret_of_ne hc']
      exact className?_append false more
  · have h' : ∀ more, cs ≠ '[' :: ':' :: more := not_exists.1 h
    rw [asciiClass?_eq_none h', asciiClass?_eq_none, Option.map_none]
    rcases cs with _ | ⟨c, _ | ⟨d, cs⟩⟩ <;> simp [closing]
    simpa using h'

theorem steady_classMember (flags : Flags) : Steady (classMember flags) := by
  intro cs cs' p rest hf h
  unfold classMember at h ⊢
  split at h
  · cases h
  · obtain ⟨more, rfl, hm⟩ := hf.cons
    exact steady_escape flags hm h
  · obtain ⟨more, rfl, hm⟩ := hf.cons
    obtain ⟨rfl, rfl⟩ := Prod.mk.inj (Option.some.inj h)
    exact ⟨more, by simp, hm⟩

theorem skipComments_dropWhile (cs : List Char) :
    skipComments false (cs.dropWhile Unicode.isBlank) = skipComments false cs := by
  induction cs with
  | nil => rfl
  | cons c cs ih =>
    rw [List.dropWhile_cons]
    split_ifs with hb
    · have hc : c ≠ '#' := by
        rintro rfl
        exact absurd hb (by decide)
      rw [ih, skipComments]
      simp [hb, hc]
    · rfl

theorem skipComments_of_blank (h : cs.dropWhile Unicode.isBlank = []) (comment : Bool) :
    skipComments comment cs = [] := by
  induction cs generalizing comment with
  | nil => rfl
  | cons c cs ih =>
    rw [List.dropWhile_cons] at h
    split_ifs at h with hb
    rw [skipComments]
    split_ifs
    · exact ih h _
    · exact ih h _
    · exact ih h _

/-- what counts after a hyphen is the same in a group, but where there is nothing but blanks and a comment -/
theorem Follows.afterHyphen (hf : Follows cs cs') (extended : Bool) :
    afterHyphen extended cs' = afterHyphen extended cs ∨
      Read.skipBlanks extended cs = [] ∧ ∀ c ∈ afterHyphen extended cs, Unicode.isBlank c ∨ c = '#' := by
  cases hf with
  | swallowed => exact .inl rfl
  | on =>
    rcases cs with _ | ⟨c, cs⟩
    · refine .inr ⟨by cases extended <;> rfl, fun c hc => ?_⟩
      cases extended <;> cases hc
    cases extended with
    | false => exact .inl rfl
    | true =>
      simp only [Read.afterHyphen, Read.skipBlanks, Bool.not_true, Bool.false_eq_true, if_false, if_true]
      rcases hd : (c :: cs).dropWhile Unicode.isBlank with _ | ⟨d, more⟩
      · refine .inr ⟨skipComments_of_blank hd false, fun e he => ?_⟩
        obtain rfl : c = e := by simpa using he
        rw [List.dropWhile_cons] at hd
        split_ifs at hd with hb
        exact .inl hb
      · rw [dropWhile_append hd, List.cons_append]
        by_cases hc : d = '#'
        · subst hc
          rcases hm : more.dropWhile Unicode.isBlank with _ | ⟨e, left⟩
          · refine .inr ⟨?_, fun e he => ?_⟩
            · rw [← skipComments_dropWhile, hd, skipComments]
              exact skipComments_of_blank hm true
            · obtain rfl : c = e := by simpa [hm] using he
              rw [List.dropWhile_cons] at hd
              split_ifs at hd with hb
              · exact .inl hb
              · exact .inr (List.cons.inj hd).1
          · simp only [hm, dropWhile_append hm]
            exact .inl rfl
        · exact .inl (by simp)

/-- the other end of a range, after the hyphen -/
def rangeTo (flags : Flags) (first : Primitive) (cs : List Char) : Option (CharSet × List Char) := do
  match first, ← classMember flags (skipBlanks flags.extended cs) with
  | .char low, (.char high, rest) =>
    if low ≤ high then return (.range (← classChar flags low) (← classChar flags high), rest) else none
  | _, _ => none

/-- a member by itself, or the rest of a range that begins with it -/
def afterMember (flags : Flags) (first : Primitive) (cs : List Char) : Option (CharSet × List Char) := do
  match cs with
  | [] => none
  | '-' :: after =>
    if afterHyphen flags.extended after = some ']' || afterHyphen flags.extended after = some '-' then
      return (← memberSet flags first, '-' :: after)
    else rangeTo flags first after
  | rest => return (← memberSet flags first, rest)

theorem classRange_eq (flags : Flags) (cs : List Char) : classRange flags cs =
    (classMember flags cs).bind fun (first, rest) => afterMember flags first (skipBlanks flags.extended rest) := rfl

theorem afterMember_of_ne {flags : Flags} {first : Primitive} (hn : cs ≠ []) (h : cs.head? ≠ some '-') :
    afterMember flags first cs = (memberSet flags first).bind fun s => some (s, cs) := by
  unfold afterMember
  split
  · exact absurd rfl hn
  · exact absurd rfl h
  · rfl

theorem steady_rangeTo (flags : Flags) (first : Primitive) : Steady (rangeTo flags first) := by
  intro cs cs' s rest hf h
  obtain ⟨⟨second, left⟩, hsecond, h⟩ := Option.bind_eq_some_iff.1 h
  obtain ⟨left', hl, ht⟩ := steady_classMember flags (hf.skipBlanks flags.extended) hsecond
  cases first with
  | char low =>
    cases second with
    | char high =>
      simp only at h
      split_ifs at h with hle
      obtain ⟨l, hlow, h⟩ := Option.bind_eq_some_iff.1 h
      obtain ⟨u, hhigh, h⟩ := Option.bind_eq_some_iff.1 h
      obtain ⟨rfl, rfl⟩ := Prod.mk.inj (Option.some.inj h)
      exact ⟨left', by simp [rangeTo, hl, hle, hlow, hhigh], ht⟩
    | _ => cases h
  | _ => cases h

theorem steady_afterMember (flags : Flags) (first : Primitive) : Steady (afterMember flags first) := by
  intro cs cs' s rest hf h
  by_cases hc : cs.head? = some '-'
  · rw [List.eq_cons_of_mem_head? hc] at hf h
    obtain ⟨after, rfl, ha⟩ := hf.cons
    simp only [afterMember] at h ⊢
    split_ifs at h with hend
    · obtain ⟨s, hs, he⟩ := Option.bind_eq_some_iff.1 h
      obtain ⟨rfl, rfl⟩ := Prod.mk.inj (Option.some.inj he)
      refine ⟨'-' :: after, ?_, hf⟩
      rcases ha.afterHyphen flags.extended with he | ⟨-, hblank⟩
      · simp [he, hend, hs]
      · simp only [Bool.or_eq_true, decide_eq_true_eq] at hend
        rcases hend with hend | hend <;> exact absurd (hblank _ hend) (by decide)
    · rcases ha.afterHyphen flags.extended with he | ⟨hempty, -⟩
      · rw [he, if_neg hend]
        exact steady_rangeTo flags first ha h
      · rw [rangeTo, hempty] at h
        cases h
  · have hn : cs ≠ [] := by
      rintro rfl
      cases h
    rw [afterMember_of_ne hn hc] at h
    obtain ⟨s, hs, he⟩ := Option.bind_eq_some_iff.1 h
    obtain ⟨rfl, rfl⟩ := Prod.mk.inj (Option.some.inj he)
    refine ⟨cs', ?_, hf⟩
    rw [afterMember_of_ne (mt (fun he => (he ▸ hf).eq_nil) hn) (mt (hf.head?_eq_some_iff (by decide)).1 hc), hs]
    rfl

theorem steady_classRange (flags : Flags) : Steady (classRange flags) := by
  intro cs cs' s rest hf h
  rw [classRange_eq] at h ⊢
  obtain ⟨⟨first, left⟩, hfirst, h⟩ := Option.bind_eq_some_iff.1 h
  obtain ⟨left', hfirst', hl⟩ := steady_classMember flags hf hfirst
  rw [hfirst', Option.bind_some]
  exact steady_afterMember flags first (hl.skipBlanks flags.extended) h

theorem frontHyphens_of_ne (h : cs.head? ≠ some '-') (n : Nat) (items : Items) :
    frontHyphens extended n items cs = (items, cs) := by
  cases n with
  | zero => rfl
  | succ n =>
    unfold frontHyphens
    split
    · exact absurd rfl h
    · rfl

theorem length_skipBlanks_le (extended : Bool) (cs : List Char) : (skipBlanks extended cs).length ≤ cs.length := by
  have hcomments (comment : Bool) : (skipComments comment cs).length ≤ cs.length := by
    induction cs generalizing comment with
    | nil => exact le_rfl
    | cons c cs ih =>
      rw [skipComments]
      split_ifs
      · exact Nat.le_succ_of_le (ih _)
      · exact Nat.le_succ_of_le (ih _)
      · exact Nat.le_succ_of_le (ih _)
      · exact le_rfl
  cases extended
  · exact le_rfl
  · exact hcomments false

theorem Follows.frontHyphens (hf : Follows cs cs') (extended : Bool) {n n' : Nat} (hn : cs.length ≤ n)
    (hn' : cs'.length ≤ n') (items : Items) :
    ∃ found rest rest', Read.frontHyphens extended n items cs = (found, rest) ∧
      Read.frontHyphens extended n' items cs' = (found, rest') ∧ Follows rest rest' := by
  induction n generalizing cs cs' n' items with
  | zero =>
    obtain rfl := List.length_eq_zero_iff.1 (Nat.le_zero.1 hn)
    refine ⟨items, [], cs', rfl, frontHyphens_of_ne ?_ n' items, hf⟩
    cases hf <;> decide
  | succ n ih =>
    by_cases hc : cs.head? = some '-'
    · obtain ⟨more, rfl⟩ : ∃ more, cs = '-' :: more := ⟨cs.tail, List.eq_cons_of_mem_head? hc⟩
      obtain ⟨more', rfl, hm⟩ := hf.cons
      obtain ⟨n', rfl⟩ := Nat.exists_eq_succ_of_ne_zero (Nat.pos_iff_ne_zero.1 (Nat.lt_of_lt_of_le (Nat.succ_pos _) hn'))
      simp only [Read.frontHyphens]
      refine ih (hm.skipBlanks extended) ?_ ?_ _
      · exact (length_skipBlanks_le _ _).trans (Nat.le_of_succ_le_succ hn)
      · exact (length_skipBlanks_le _ _).trans (Nat.le_of_succ_le_succ hn')
    · have hc' : cs'.head? ≠ some '-' := mt (hf.head?_eq_some_iff (by decide)).1 hc
      exact ⟨items, cs, cs', frontHyphens_of_ne hc _ items, frontHyphens_of_ne hc' n' items, hf⟩

/-- the front of a class, after the caret if there is one -/
def classFrontFrom (extended negated : Bool) (cs : List Char) : Bool × Items × List Char :=
  match frontHyphens extended cs.length {} cs with
  | (⟨_, 0, _⟩, ']' :: rest) => (negated, Items.add {} ⟨.single ']', 0⟩, skipBlanks extended rest)
  | (items, rest) => (negated, items, rest)

theorem classFront_eq (extended : Bool) (cs : List Char) : classFront extended cs =
    classFrontFrom extended (caret (skipBlanks extended) (skipBlanks extended cs)).1
      (caret (skipBlanks extended) (skipBlanks extended cs)).2 := rfl

theorem Follows.classFrontFrom (hf : Follows cs cs') (extended negated : Bool) :
    ∃ items rest rest', Read.classFrontFrom extended negated cs = (negated, items, rest) ∧
      Read.classFrontFrom extended negated cs' = (negated, items, rest') ∧ Follows rest rest' := by
  obtain ⟨items, rest, rest', h, h', hr⟩ := hf.frontHyphens extended le_rfl le_rfl {}
  unfold Read.classFrontFrom
  rw [h, h']
  obtain ⟨set, count, depth⟩ := items
  cases count with
  | succ count => exact ⟨_, rest, rest', rfl, rfl, hr⟩
  | zero =>
    by_cases hc : rest.head? = some ']'
    · rw [List.eq_cons_of_mem_head? hc] at hr ⊢
      obtain ⟨more, rfl, hm⟩ := hr.cons
      exact ⟨_, _, _, rfl, rfl, hm.skipBlanks extended⟩
    · have hc' : rest'.head? ≠ some ']' := mt (hr.head?_eq_some_iff (by decide)).1 hc
      refine ⟨⟨set, 0, depth⟩, rest, rest', ?_, ?_, hr⟩
      · split
        · rename_i he
          cases he
          exact absurd rfl hc
        · rename_i he
          cases he
          rfl
      · split
        · rename_i he
          cases he
          exact absurd rfl hc'
        · rename_i he
          cases he
          rfl

theorem Follows.classFront (hf : Follows cs cs') (extended : Bool) :
    ∃ negated items rest rest', Read.classFront extended cs = (negated, items, rest) ∧
      Read.classFront extended cs' = (negated, items, rest') ∧ Follows rest rest' := by
  have hb := hf.skipBlanks extended
  rw [classFront_eq, classFront_eq]
  by_cases hc : (Read.skipBlanks extended cs).head? = some '^'
  · rw [List.eq_cons_of_mem_head? hc] at hb ⊢
    obtain ⟨more, he, hm⟩ := hb.cons
    rw [he]
    exact ⟨true, (hm.skipBlanks extended).classFrontFrom extended true⟩
  · rw [caret_of_ne hc, caret_of_ne (mt (hb.head?_eq_some_iff (by decide)).1 hc)]
    exact ⟨false, hb.classFrontFrom extended false⟩

/-! ## The inside of a class -/

/-- the sign of an operation on sets, doubled -/
def setSign? (cs : List Char) : Option (SetOp × List Char) :=
  match cs with
  | '&' :: '&' :: rest => some (.inter, rest)
  | '-' :: '-' :: rest => some (.diff, rest)
  | '~' :: '~' :: rest => some (.symmDiff, rest)
  | _ => none

/-- what reads the inside of a class, given how many more may open in it -/
abbrev InsideClass := Nat → Bool → ClassPart → List Char → Option (NestedSet × List Char)

/-- one item of a class: another class within it, or a member or a range -/
def classItem (inside : InsideClass) (flags : Flags) (room : Nat) (cs : List Char) : Option (NestedSet × List Char) :=
  match cs with
  | '[' :: rest =>
    match asciiClass? ('[' :: rest) with
    | some (s, opposite, rest) => (flags.closedOrCompl opposite s).map fun s => (⟨s, 0⟩, rest)
    | none =>
      if room = 0 then none
      else
        let (inverse, front, rest) := classFront flags.extended rest
        inside (room - 1) inverse ⟨none, front⟩ rest
  | cs => (classRange flags cs).map fun (s, rest) => (⟨s, 0⟩, rest)

theorem classItem_of_ne {inside : InsideClass} {flags : Flags} {room : Nat} (h : cs.head? ≠ some '[') :
    classItem inside flags room cs = (classRange flags cs).map fun (s, rest) => (⟨s, 0⟩, rest) := by
  unfold classItem
  split
  · exact absurd rfl h
  · rfl

section

variable {flags : Flags} {fuel room : Nat} {negated : Bool} {part : ClassPart}

theorem classBody_of_close (h : skipBlanks flags.extended cs = ']' :: rest) :
    classBody flags (fuel + 1) room negated part cs =
      (flags.closedOrCompl negated (part.close flags).set).map fun s => (⟨s, (part.close flags).depth + 1⟩, rest) := by
  simp [classBody, h]

theorem classBody_of_sign {op : SetOp} (h : setSign? (skipBlanks flags.extended cs) = some (op, rest)) :
    classBody flags (fuel + 1) room negated part cs =
      classBody flags fuel room negated ⟨some (op, part.close flags), {}⟩ rest := by
  rw [classBody]
  dsimp only
  generalize skipBlanks flags.extended cs = text at h ⊢
  unfold setSign? at h
  split at h
  · cases h
    rfl
  · cases h
    rfl
  · cases h
    rfl
  · cases h

/-- **Reading the inside of a class is one item after another.** -/
theorem classBody_of_item (hn : skipBlanks flags.extended cs ≠ []) (hc : (skipBlanks flags.extended cs).head? ≠ some ']')
    (hs : setSign? (skipBlanks flags.extended cs) = none) :
    classBody flags (fuel + 1) room negated part cs =
      (classItem (classBody flags fuel) flags room (skipBlanks flags.extended cs)).bind fun (item, rest) =>
        classBody flags fuel room negated { part with items := part.items.add item } rest := by
  rw [classBody]
  dsimp only
  generalize skipBlanks flags.extended cs = text at hn hc hs ⊢
  split
  · exact absurd rfl hn
  · exact absurd rfl hc
  · cases hs
  · cases hs
  · cases hs
  · rename_i rest
    simp only [classItem]
    rcases asciiClass? ('[' :: rest) with _ | ⟨s, opposite, left⟩
    · dsimp only
      split_ifs
      · rfl
      · rcases classBody flags fuel (room - 1) (classFront flags.extended rest).1
          ⟨none, (classFront flags.extended rest).2.1⟩ (classFront flags.extended rest).2.2 with _ | ⟨inner, left⟩ <;> rfl
    · dsimp only
      rcases flags.closedOrCompl opposite s with _ | s <;> rfl
  · rename_i hopen
    have hopen' : text.head? ≠ some '[' := fun he => hopen _ (List.eq_cons_of_mem_head? he)
    rw [classItem_of_ne hopen']
    rcases classRange flags text with _ | ⟨s, left⟩ <;> rfl

end

theorem steady_setSign : Steady setSign? := by
  refine .of_append rfl fun {cs op rest} h => ?_
  unfold setSign? at h
  split at h
  · cases h
    rfl
  · cases h
    rfl
  · cases h
    rfl
  · cases h

theorem Follows.setSign_eq_none (hf : Follows cs cs') (h : setSign? cs = none) : setSign? cs' = none := by
  unfold setSign?
  split
  · obtain ⟨more, rfl, hm⟩ := hf.of_cons (by decide)
    obtain ⟨more, rfl, -⟩ := hm.of_cons (by decide)
    cases h
  · obtain ⟨more, rfl, hm⟩ := hf.of_cons (by decide)
    obtain ⟨more, rfl, -⟩ := hm.of_cons (by decide)
    cases h
  · obtain ⟨more, rfl, hm⟩ := hf.of_cons (by decide)
    obtain ⟨more, rfl, -⟩ := hm.of_cons (by decide)
    cases h
  · rfl

/-- what the one reads from the inside of a class alone, the other reads from it in a group -/
def Continues (inside inside' : InsideClass) : Prop :=
  ∀ ⦃room negated part cs cs' e rest⦄, Follows cs cs' → inside room negated part cs = some (e, rest) →
    ∃ rest', inside' room negated part cs' = some (e, rest') ∧ Follows rest rest'

theorem Continues.classItem {inside inside' : InsideClass} (hi : Continues inside inside') (flags : Flags) (room : Nat)
    {item : NestedSet} (hf : Follows cs cs') (h : classItem inside flags room cs = some (item, rest)) :
    ∃ rest', Read.classItem inside' flags room cs' = some (item, rest') ∧ Follows rest rest' := by
  by_cases hc : cs.head? = some '['
  · rw [List.eq_cons_of_mem_head? hc] at hf h
    obtain ⟨more, rfl, hm⟩ := hf.cons
    have hclass : asciiClass? ('[' :: more) =
        (asciiClass? ('[' :: cs.tail)).map fun (s, negated, rest) => (s, negated, rest ++ closing) := by
      rw [← asciiClass?_append, hf.eq_append]
    simp only [Read.classItem, hclass] at h ⊢
    rcases hs : asciiClass? ('[' :: cs.tail) with _ | ⟨s, opposite, left⟩
    · simp only [hs, Option.map_none] at h ⊢
      split_ifs at h ⊢ with hroom
      obtain ⟨inverse, front, left, left', hl, hl', ht⟩ := hm.classFront flags.extended
      simp only [hl, hl'] at h ⊢
      exact hi ht h
    · simp only [hs, Option.map_some] at h ⊢
      obtain ⟨s, hs, he⟩ := Option.map_eq_some_iff.1 h
      obtain ⟨rfl, rfl⟩ := Prod.mk.inj he
      exact ⟨left ++ closing, by rw [hs]; rfl, .on left⟩
  · rw [classItem_of_ne hc] at h
    rw [classItem_of_ne (mt (hf.head?_eq_some_iff (by decide)).1 hc)]
    exact (steady_classRange flags).map (fun s => (⟨s, 0⟩ : NestedSet)) hf h

theorem continues_classBody (flags : Flags) {fuel fuel' : Nat} (hn : fuel ≤ fuel') :
    Continues (classBody flags fuel) (classBody flags fuel') := by
  intro room negated part cs cs' e rest hf h
  induction fuel generalizing fuel' room negated part cs cs' e rest with
  | zero => cases h
  | succ fuel ih =>
    obtain ⟨fuel', rfl⟩ := Nat.exists_eq_succ_of_ne_zero (Nat.pos_iff_ne_zero.1 (Nat.lt_of_lt_of_le (Nat.succ_pos _) hn))
    replace ih := ih (Nat.le_of_succ_le_succ hn)
    have hb := hf.skipBlanks flags.extended
    by_cases hempty : skipBlanks flags.extended cs = []
    · rw [classBody, hempty] at h
      cases h
    by_cases hclose : (skipBlanks flags.extended cs).head? = some ']'
    · have hskip := List.eq_cons_of_mem_head? hclose
      rw [hskip] at hb
      obtain ⟨more, hskip', hm⟩ := hb.cons
      rw [classBody_of_close hskip] at h
      rw [classBody_of_close hskip']
      obtain ⟨s, hs, he⟩ := Option.map_eq_some_iff.1 h
      obtain ⟨rfl, rfl⟩ := Prod.mk.inj he
      exact ⟨more, by rw [hs]; rfl, hm⟩
    have hempty' : skipBlanks flags.extended cs' ≠ [] := fun he => hempty (he ▸ hb).eq_nil
    have hclose' : (skipBlanks flags.extended cs').head? ≠ some ']' := mt (hb.head?_eq_some_iff (by decide)).1 hclose
    cases hsign : setSign? (skipBlanks flags.extended cs) with
    | some sign =>
      obtain ⟨left', hsign', hl⟩ := steady_setSign hb hsign
      rw [classBody_of_sign hsign] at h
      rw [classBody_of_sign hsign']
      exact ih hl h
    | none =>
      rw [classBody_of_item hempty hclose hsign] at h
      rw [classBody_of_item hempty' hclose' (hb.setSign_eq_none hsign)]
      obtain ⟨⟨item, left⟩, hitem, h⟩ := Option.bind_eq_some_iff.1 h
      have hinside : Continues (classBody flags fuel) (classBody flags fuel') := fun _ _ _ _ _ _ _ hf h => ih hf h
      obtain ⟨left', hitem', hl⟩ := hinside.classItem flags room hb hitem
      rw [hitem']
      exact ih hl h

theorem steady_bracketed (flags : Flags) : Steady (bracketed flags) := by
  intro cs cs' e rest hf h
  obtain ⟨negated, front, left, left', hl, hl', ht⟩ := hf.classFront flags.extended
  simp only [bracketed, hl, hl'] at h ⊢
  refine continues_classBody flags (Nat.succ_le_succ ?_) ht h
  cases hf with
  | on => simp
  | swallowed => exact le_rfl

end ScopedStore.Pattern.Read
