/-
What the error policy of a script decides.

`runStatements_of_not_stops`: the policy is not looked at before the first failure, so what a run does up to there is
the same for all of them. `runStatements_abort`: a script that stops has the outcomes up to its first failure and the
store of the statements before it. `status_eq`: what is told of a script as a whole (`Tells`) follows from its
outcomes.

Main result, `policies_differ_in_where_they_stop`: two of the policies differ in what they tell, not in what they do,
and the third one does the same until it stops at the first failure.
-/
import ScopedStore.Proofs.Atomicity

namespace ScopedStore

open Store

/-! ## What is told -/

/-- there is no failure among the outcomes -/
def Unfailed (outcomes : List StatementOutcome) : Prop := ∀ o ∈ outcomes, isFailure o.status = false

/-- the first failure among the outcomes, and what comes before and after it -/
structure FirstFailure (outcomes before : List StatementOutcome) (o : StatementOutcome)
    (after : List StatementOutcome) : Prop where
  split : outcomes = before ++ o :: after
  before : Unfailed before
  failed : isFailure o.status

/-- what is to be told of a script with these outcomes -/
inductive Tells (outcomes : List StatementOutcome) : ErrorPolicy → ScriptStatus → Prop where
  | completed {policy : ErrorPolicy} (unfailed : Unfailed outcomes) : Tells outcomes policy .completed
  | aborted {before after : List StatementOutcome} {o : StatementOutcome}
      (first : FirstFailure outcomes before o after) : Tells outcomes .abortRemaining (.aborted o.index)
  | skips {n : Nat} (some : n ≠ 0) (count : outcomes.countP (isFailure ·.status) = n) :
      Tells outcomes .skipAndContinue (.completedWithSkips n)
  | errors {n : Nat} (some : n ≠ 0) (count : outcomes.countP (isFailure ·.status) = n) :
      Tells outcomes .collectAndReportAll (.completedWithErrors n)

theorem isSome_error? (o : StatementOutcome) : o.error?.isSome = isFailure o.status := by
  unfold StatementOutcome.error?
  cases o.status <;> rfl

theorem unfailed_iff {outcomes : List StatementOutcome} :
    Unfailed outcomes ↔ outcomes.any (isFailure ·.status) = false := by
  simp [Unfailed]

namespace ScriptReport

variable {r : ScriptReport}

theorem failures_eq_nil : r.failures = [] ↔ Unfailed r.outcomes := by
  simp [failures, Unfailed, isSome_error?]

theorem failures_eq_cons {o : StatementOutcome} {rest : List StatementOutcome} :
    r.failures = o :: rest ↔ ∃ before after, FirstFailure r.outcomes before o after ∧
      after.filter (·.error?.isSome) = rest := by
  unfold failures
  rw [List.filter_eq_cons_iff]
  constructor
  · rintro ⟨before, after, hsplit, hbefore, ho, hrest⟩
    refine ⟨before, after, ⟨hsplit, fun x hx => ?_, isSome_error? o ▸ ho⟩, hrest⟩
    simpa [isSome_error?] using hbefore x hx
  · rintro ⟨before, after, h, hrest⟩
    refine ⟨before, after, h.split, fun x hx => ?_, (isSome_error? o).trans h.failed, hrest⟩
    simp [isSome_error?, h.before x hx]

theorem length_failures : r.failures.length = r.outcomes.countP (isFailure ·.status) := by
  simp only [failures, ← List.countP_eq_length_filter, isSome_error?]

theorem exists_failures_eq_cons {n : Nat} (hn : n ≠ 0) (count : r.outcomes.countP (isFailure ·.status) = n) :
    ∃ first rest, r.failures = first :: rest ∧ rest.length + 1 = n := by
  have hlength : r.failures.length = n := length_failures.trans count
  cases hf : r.failures with
  | nil => exact absurd (hlength.symm.trans (congrArg List.length hf)) hn
  | cons first rest => exact ⟨first, rest, rfl, by rw [← hlength, hf, List.length_cons]⟩

/-- **What is told follows from the outcomes.** -/
theorem status_eq {status : ScriptStatus} : r.status = status ↔ Tells r.outcomes r.policy status := by
  constructor
  · rintro rfl
    unfold ScriptReport.status
    cases hf : r.failures with
    | nil => exact .completed (failures_eq_nil.1 hf)
    | cons first rest =>
      have hcount : r.outcomes.countP (isFailure ·.status) = rest.length + 1 := by
        rw [← length_failures, hf, List.length_cons]
      cases r.policy with
      | abortRemaining =>
        obtain ⟨before, after, hfirst, -⟩ := failures_eq_cons.1 hf
        exact .aborted hfirst
      | skipAndContinue => exact .skips rest.length.succ_ne_zero hcount
      | collectAndReportAll => exact .errors rest.length.succ_ne_zero hcount
  · intro h
    unfold ScriptReport.status
    generalize r.policy = policy at h ⊢
    cases h with
    | completed unfailed => rw [failures_eq_nil.2 unfailed]
    | aborted first => rw [failures_eq_cons.2 ⟨_, _, first, rfl⟩]
    | skips some count =>
      obtain ⟨first, rest, hf, rfl⟩ := exists_failures_eq_cons some count
      rw [hf]
    | errors some count =>
      obtain ⟨first, rest, hf, rfl⟩ := exists_failures_eq_cons some count
      rw [hf]

theorem succeeded_eq_false : r.succeeded = false ↔
    (∃ index, r.status = .aborted index) ∨ ∃ n, r.status = .completedWithErrors n := by
  unfold succeeded
  cases r.status <;> simp

end ScriptReport

/-! ## What is done -/

/-- the outcome of a statement that is passed over -/
def StatementOutcome.passedOver (o : StatementOutcome) : StatementOutcome := ⟨o.index, o.text, .notRun⟩

namespace Store

variable {s : Store} {time : Nat} {policy : ErrorPolicy} {statements : List PreparedStatement}

theorem status_applyStatement_ne_notRun (x : PreparedStatement) : (s.applyStatement time x).1 ≠ .notRun := by
  unfold applyStatement
  split
  · exact nofun
  · split <;> exact nofun

/-- there is one outcome for every statement, in their order -/
theorem places_runStatements (aborted : Bool) :
    (runStatements policy time aborted s statements).1.map (fun o => (o.index, o.text)) =
      statements.map fun x => (x.index, x.text) := by
  induction statements generalizing aborted s with
  | nil => cases aborted <;> rfl
  | cons x statements ih => cases aborted <;> simp [runStatements, ih]

/-- a policy that goes on passes over nothing -/
theorem runs_runStatements (hp : policy ≠ .abortRemaining) :
    ∀ o ∈ (runStatements policy time false s statements).1, o.status ≠ .notRun := by
  induction statements generalizing s with
  | nil => exact nofun
  | cons x statements ih =>
    rw [runStatements_cons]
    simp only [hp, decide_false, Bool.and_false, List.forall_mem_cons]
    exact ⟨status_applyStatement_ne_notRun x, ih⟩

/-- up to the first failure a policy does what `skipAndContinue` does -/
theorem runStatements_of_not_stops
    (h : stops policy (runStatements .skipAndContinue time false s statements).1 = false) :
    runStatements policy time false s statements = runStatements .skipAndContinue time false s statements := by
  induction statements generalizing s with
  | nil => rfl
  | cons x statements ih =>
    rw [runStatements_cons] at h
    simp only [stops, List.any_cons, Bool.and_or_distrib_right, Bool.or_eq_false_iff] at h
    obtain ⟨hx, hrest⟩ := h
    have hskip : (isFailure (s.applyStatement time x).1 && ErrorPolicy.skipAndContinue = .abortRemaining) = false :=
      Bool.and_false _
    rw [runStatements_cons, runStatements_cons]
    simp only [hx, hskip] at hrest ⊢
    rw [ih hrest]

theorem not_stops_of_ne (hp : policy ≠ .abortRemaining) (outcomes : List StatementOutcome) :
    stops policy outcomes = false := by
  simp [stops, hp]

theorem not_stops_of_unfailed {outcomes : List StatementOutcome} (h : Unfailed outcomes) :
    stops policy outcomes = false := by
  rw [stops, unfailed_iff.1 h, Bool.false_and]

theorem map_passedOver_runStatements (aborted : Bool) :
    (runStatements policy time aborted s statements).1.map StatementOutcome.passedOver =
      statements.map fun x => ⟨x.index, x.text, .notRun⟩ := by
  have h : ((runStatements policy time aborted s statements).1.map fun o => (o.index, o.text)).map
      (fun place => (⟨place.1, place.2, .notRun⟩ : StatementOutcome)) = _ := congrArg _ (places_runStatements aborted)
  rwa [List.map_map, List.map_map] at h

theorem state_applyStatement_of_isFailure {x : PreparedStatement} (h : isFailure (s.applyStatement time x).1) :
    (s.applyStatement time x).2 = s := by
  rcases hx : s.applyStatement time x with ⟨status, t⟩
  rw [hx] at h
  cases status with
  | applied key value => cases h
  | failed error => exact applyStatement_of_failed hx
  | notRun => cases h

/-- what comes before the first failure, the failure, and what comes after it belong to statements -/
theorem exists_statements_of_firstFailure {before after : List StatementOutcome} {o : StatementOutcome}
    (h : FirstFailure (runStatements .skipAndContinue time false s statements).1 before o after) :
    ∃ l x m, statements = l ++ x :: m ∧ (runStatements .skipAndContinue time false s l).1 = before ∧
      ⟨x.index, x.text, ((runStatements .skipAndContinue time false s l).2.applyStatement time x).1⟩ = o ∧
        (m.map fun y => ⟨y.index, y.text, .notRun⟩) = after.map StatementOutcome.passedOver := by
  have hlength : statements.length = before.length + (after.length + 1) := by
    rw [← length_runStatements .skipAndContinue time false s statements, h.split, List.length_append, List.length_cons]
  have hlt : before.length < statements.length := by omega
  have hstatements : statements.take before.length ++ statements[before.length] :: statements.drop (before.length + 1) =
      statements := by
    rw [List.getElem_cons_drop, List.take_append_drop]
  have hgoes : ∀ outcomes, stops .skipAndContinue outcomes = false := not_stops_of_ne (by decide)
  have hsplit := h.split
  rw [← hstatements, runStatements_append, hgoes, runStatements_cons] at hsplit
  obtain ⟨hbefore, hrest⟩ := List.append_inj hsplit (by simp; omega)
  obtain ⟨ho, hafter⟩ := List.cons.inj hrest
  exact ⟨_, _, _, hstatements.symm, hbefore, ho, by rw [← hafter, map_passedOver_runStatements]⟩

/-- the statement that fails first leaves the store to nobody, and those after it do not run -/
theorem runStatements_abort {l m : List PreparedStatement} {x : PreparedStatement}
    (hl : Unfailed (runStatements .skipAndContinue time false s l).1)
    (hx : isFailure ((runStatements .skipAndContinue time false s l).2.applyStatement time x).1) :
    let first := runStatements .skipAndContinue time false s l
    runStatements .abortRemaining time false s (l ++ x :: m) =
      (first.1 ++ ⟨x.index, x.text, (first.2.applyStatement time x).1⟩ :: m.map fun y => ⟨y.index, y.text, .notRun⟩,
        first.2) := by
  have habort : runStatements .abortRemaining time false s l = runStatements .skipAndContinue time false s l :=
    runStatements_of_not_stops (not_stops_of_unfailed hl)
  rw [runStatements_append, habort, not_stops_of_unfailed hl, runStatements_cons]
  simp only [hx, Bool.true_and, decide_true, runStatements_true, state_applyStatement_of_isFailure hx]

theorem execute_eq (script : PreparedScript) : s.execute time script policy =
    let run := runStatements policy time false { s with source := .query } script.statements
    ({ policy, outcomes := run.1 }, { run.2 with source := s.source }) := rfl

end Store

/-! ## Main result -/

/-- **Error policies differ in where they stop.** Whatever the store and the script, the two policies that go on give
the same outcomes and the same store, and pass over nothing. Unless something fails, the third one does so too;
otherwise its outcomes are theirs up to the first failure and those of statements passed over after it, and its store
is the one that the statements before the failure leave. Each of them gives one outcome for every statement, in their
order, and what is told of the script as a whole follows from the outcomes. -/
theorem policies_differ_in_where_they_stop (s : Store) (time : Nat) (script : PreparedScript) :
    let skip := s.execute time script .skipAndContinue
    let collect := s.execute time script .collectAndReportAll
    let abort := s.execute time script .abortRemaining
    (collect.1.outcomes = skip.1.outcomes ∧ collect.2 = skip.2 ∧ ∀ o ∈ skip.1.outcomes, o.status ≠ .notRun) ∧
      (Unfailed skip.1.outcomes ∧ abort.1.outcomes = skip.1.outcomes ∧ abort.2 = skip.2 ∨
        ∃ before o after, FirstFailure skip.1.outcomes before o after ∧
          abort.1.outcomes = before ++ o :: after.map StatementOutcome.passedOver ∧ abort.1.status = .aborted o.index ∧
            ∀ policy, abort.2 = (s.execute time ⟨script.statements.take before.length⟩ policy).2) ∧
      ∀ policy, let report := (s.execute time script policy).1
        report.outcomes.map (fun o => (o.index, o.text)) = script.statements.map (fun x => (x.index, x.text)) ∧
          (∀ status, report.status = status ↔ Tells report.outcomes policy status) ∧
            (report.succeeded = false ↔
              (∃ index, report.status = .aborted index) ∨ ∃ n, report.status = .completedWithErrors n) := by
  intro skip collect abort
  have hcollect : runStatements .collectAndReportAll time false { s with source := .query } script.statements =
      runStatements .skipAndContinue time false { s with source := .query } script.statements :=
    runStatements_of_not_stops (not_stops_of_ne (by decide) _)
  refine ⟨?_, ?_, fun policy => ⟨places_runStatements false, fun status => ScriptReport.status_eq,
    ScriptReport.succeeded_eq_false⟩⟩
  · have hskip : ∀ o ∈ skip.1.outcomes, o.status ≠ .notRun := runs_runStatements (by decide)
    simp only [collect, skip, execute_eq, hcollect, true_and]
    exact hskip
  · cases hf : skip.1.failures with
    | nil =>
      have hunfailed := ScriptReport.failures_eq_nil.1 hf
      have habort : runStatements .abortRemaining time false { s with source := .query } script.statements =
          runStatements .skipAndContinue time false { s with source := .query } script.statements :=
        runStatements_of_not_stops (not_stops_of_unfailed hunfailed)
      refine .inl ⟨hunfailed, ?_⟩
      simp only [abort, skip, execute_eq, habort, and_self]
    | cons first rest =>
      obtain ⟨before, after, hfirst, -⟩ := ScriptReport.failures_eq_cons.1 hf
      obtain ⟨l, x, m, hstatements, hbefore, hx, hm⟩ := exists_statements_of_firstFailure hfirst
      have hl : Unfailed (runStatements .skipAndContinue time false { s with source := .query } l).1 :=
        hbefore ▸ hfirst.before
      have habort := runStatements_abort (m := m) hl (hx ▸ hfirst.failed)
      simp only [hbefore, hx, hm, ← hstatements] at habort
      have houtcomes : abort.1.outcomes = before ++ first :: after.map StatementOutcome.passedOver :=
        congrArg Prod.fst habort
      refine .inr ⟨before, first, after, hfirst, houtcomes, ?_, fun policy => ?_⟩
      · exact ScriptReport.status_eq.2 (.aborted ⟨houtcomes, hfirst.before, hfirst.failed⟩)
      · have htake : script.statements.take before.length = l := by
          rw [hstatements, ← hbefore, length_runStatements, List.take_left]
        have hpolicy : runStatements policy time false { s with source := .query } l =
            runStatements .skipAndContinue time false { s with source := .query } l :=
          runStatements_of_not_stops (not_stops_of_unfailed hl)
        simp only [abort, execute_eq, htake, habort, hpolicy]

end ScopedStore
