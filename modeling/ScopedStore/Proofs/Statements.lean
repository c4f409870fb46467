/-
Carrying out statements one after the other.

`runStatements_append`: carrying out two lists of statements in a row is carrying out the first one and then the second
one on the store that it leaves, unless the first one stopped the script. `getElem?_runStatements`: so each outcome is
that of its statement on the store that the statements before it leave.
-/
import ScopedStore.Engine

namespace ScopedStore.Store

/-- a failure among the outcomes stops the script -/
def stops (policy : ErrorPolicy) (outcomes : List StatementOutcome) : Bool :=
  outcomes.any (isFailure ·.status) && policy = .abortRemaining

/-- nothing runs once the script has stopped -/
theorem runStatements_true (policy : ErrorPolicy) (time : Nat) (s : Store) (l : List PreparedStatement) :
    runStatements policy time true s l = (l.map fun x => ⟨x.index, x.text, .notRun⟩, s) := by
  induction l with
  | nil => rfl
  | cons x l ih => simp only [runStatements, ih, List.map_cons]

theorem runStatements_cons (policy : ErrorPolicy) (time : Nat) (s : Store) (x : PreparedStatement)
    (l : List PreparedStatement) :
    let step := s.applyStatement time x
    let rest := runStatements policy time (isFailure step.1 && policy = .abortRemaining) step.2 l
    runStatements policy time false s (x :: l) = (⟨x.index, x.text, step.1⟩ :: rest.1, rest.2) := rfl

theorem runStatements_append (policy : ErrorPolicy) (time : Nat) (s : Store) (l m : List PreparedStatement) :
    let first := runStatements policy time false s l
    let second := runStatements policy time (stops policy first.1) first.2 m
    runStatements policy time false s (l ++ m) = (first.1 ++ second.1, second.2) := by
  induction l generalizing s with
  | nil => rfl
  | cons x l ih =>
    rw [List.cons_append, runStatements_cons, runStatements_cons]
    cases hx : isFailure (s.applyStatement time x).1 && policy = .abortRemaining with
    | true =>
      obtain ⟨hf, hp⟩ := Bool.and_eq_true_iff.1 hx
      simp [runStatements_true, stops, hf, hp]
    | false =>
      have hs : ∀ rest, stops policy (⟨x.index, x.text, (s.applyStatement time x).1⟩ :: rest) = stops policy rest := by
        intro rest
        rw [stops, stops, List.any_cons, Bool.and_or_distrib_right, hx, Bool.false_or]
      simp only [ih, hs, List.cons_append]

@[simp] theorem length_runStatements (policy : ErrorPolicy) (time : Nat) (aborted : Bool) (s : Store)
    (l : List PreparedStatement) : (runStatements policy time aborted s l).1.length = l.length := by
  induction l generalizing aborted s with
  | nil => cases aborted <;> rfl
  | cons x l ih => cases aborted <;> simp [runStatements, ih]

theorem take_runStatements (policy : ErrorPolicy) (time : Nat) (s : Store) (l : List PreparedStatement) (i : Nat) :
    (runStatements policy time false s l).1.take i = (runStatements policy time false s (l.take i)).1 := by
  have h := runStatements_append policy time s (l.take i) (l.drop i)
  rw [List.take_append_drop] at h
  have hfirst : (runStatements policy time false s (l.take i)).1.length ≤ i := by
    rw [length_runStatements]
    exact List.length_take_le i l
  simp only [h, List.take_append, List.take_of_length_le hfirst]
  rcases Nat.le_total i l.length with hi | hi
  · simp [Nat.min_eq_left hi]
  · simp [List.drop_of_length_le hi, runStatements]

/-- each outcome is that of its statement on the store that the statements before it leave -/
theorem getElem?_runStatements {l : List PreparedStatement} {i : Nat} {x : PreparedStatement} (hx : l[i]? = some x)
    (policy : ErrorPolicy) (time : Nat) (s : Store) :
    let first := runStatements policy time false s (l.take i)
    (runStatements policy time false s l).1[i]? =
      some ⟨x.index, x.text, if stops policy first.1 then .notRun else (first.2.applyStatement time x).1⟩ := by
  obtain ⟨hi, rfl⟩ := List.getElem?_eq_some_iff.1 hx
  have hfirst : (runStatements policy time false s (l.take i)).1.length = i := by simp; omega
  have hsplit : l.take i ++ l[i] :: l.drop (i + 1) = l := by rw [List.getElem_cons_drop, List.take_append_drop]
  have h := runStatements_append policy time s (l.take i) (l[i] :: l.drop (i + 1))
  rw [hsplit] at h
  rw [h, List.getElem?_append_right (Nat.le_of_eq hfirst), hfirst, Nat.sub_self]
  cases hs : stops policy (runStatements policy time false s (l.take i)).1 with
  | true =>
    rw [runStatements_true]
    simp only [hs, if_true, List.map_cons, List.getElem?_cons_zero]
  | false =>
    rw [runStatements_cons]
    simp only [hs, Bool.false_eq_true, if_false, List.getElem?_cons_zero]

end ScopedStore.Store
