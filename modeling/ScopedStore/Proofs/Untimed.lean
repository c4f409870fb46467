/-
What scripts do does not depend on when they do it.

`Store.untimed` is a store without the times of its history entries. It is what is seen of the store when the clock stands
still and the listeners are what they are (`Store.seen_timeless`). `runStatements_alike`: so statements have the same
outcomes at any time, and leave the same store up to the times of its entries.
-/
import ScopedStore.Proofs.Views

namespace ScopedStore

/-- the entry without its time -/
def Entry.untimed (x : Entry) : Entry := { x with time := 0 }

/-- the history without the times of its entries -/
def History.untimed (h : History) : History := { h with newest := h.newest.map Entry.untimed }

/-- the view in which the clock stands still -/
def View.timeless : View := ⟨fun _ => 0, id⟩

namespace Store

/-- the store without the times of its history entries -/
def untimed (s : Store) : Store := { s with history := s.history.untimed }

theorem seen_timeless (s : Store) : s.seen .timeless = s.untimed := by
  have hbus : s.bus.heard id = s.bus := by
    unfold EventBus.heard
    rw [show Subscription.heard id = id from rfl, List.map_id]
  exact congrArg (fun bus => { s with history := s.history.untimed, bus }) hbus

/-- **Statements have the same outcomes at any time**, and leave the same store up to the times of its entries. -/
theorem untimed_runStatements (policy : ErrorPolicy) (time : Nat) (aborted : Bool) (s : Store)
    (l : List PreparedStatement) :
    let run := runStatements policy time aborted s l
    runStatements policy 0 aborted s.untimed l = (run.1, run.2.untimed) := by
  have hseen := seen_runStatements (v := .timeless) policy time aborted s l
  simp only [seen_timeless] at hseen
  exact hseen

/-- stores that differ in the times of their entries go on to differ in these only -/
theorem runStatements_alike {s t : Store} (h : s.untimed = t.untimed) (policy : ErrorPolicy) (time time' : Nat)
    (aborted : Bool) (l : List PreparedStatement) :
    (runStatements policy time aborted s l).1 = (runStatements policy time' aborted t l).1 ∧
      (runStatements policy time aborted s l).2.untimed = (runStatements policy time' aborted t l).2.untimed := by
  have hs := untimed_runStatements policy time aborted s l
  have ht := untimed_runStatements policy time' aborted t l
  rw [h] at hs
  exact Prod.mk.inj (hs.symm.trans ht)

end Store
end ScopedStore
