/-
What a script reports, and what it does.

`Mapping.overwrite` is a mapping after what outcomes report: a statement that was carried out gives its key the value
that is reported, and any other outcome says nothing. `assigns_apply`: a command that succeeds leaves its value at its
key, and changes no other key. So a statement does what its outcome reports (`data_applyStatement`), and statements one
after the other do what their outcomes report (`data_runStatements`).

Main result, `reports_tell_the_whole_truth`: from the mapping before a script, its outcomes lead to the mapping after
it; each value is what the key holds at that moment; and a statement that was not carried out leaves the store as it
was.
-/
import ScopedStore.Proofs.Confinement
import ScopedStore.Proofs.Mirror
import ScopedStore.Proofs.Policies

namespace ScopedStore

open Attempt

/-! ## What is reported -/

/-- the mapping after what an outcome reports; a statement that was not carried out says nothing of it -/
def StatementOutcome.redo (m : Mapping) (o : StatementOutcome) : Mapping :=
  match o.status with
  | .applied k value => m.assign k value
  | _ => m

/-- the mapping after what outcomes report, one after the other -/
def Mapping.overwrite (m : Mapping) (outcomes : List StatementOutcome) : Mapping :=
  outcomes.foldl StatementOutcome.redo m

theorem Mapping.overwrite_cons (m : Mapping) (o : StatementOutcome) (outcomes : List StatementOutcome) :
    m.overwrite (o :: outcomes) = (o.redo m).overwrite outcomes := rfl

theorem Mapping.overwrite_of_notRun {outcomes : List StatementOutcome} (h : ∀ o ∈ outcomes, o.status = .notRun)
    (m : Mapping) : m.overwrite outcomes = m := by
  induction outcomes with
  | nil => rfl
  | cons o outcomes ih =>
    obtain ⟨ho, houtcomes⟩ := List.forall_mem_cons.1 h
    have hredo : o.redo m = m := by rw [StatementOutcome.redo, ho]
    rw [overwrite_cons, hredo, ih houtcomes]

namespace Store

/-! ## Commands -/

/-- the key is an accepted one, and from `s` to `t` it gets the value, or is taken out; no other key changes -/
structure Assigns (k : Key) (value : Option String) (s t : Store) : Prop where
  resolved : s.resolve (.key k) = .ok k
  data : t.data = s.data.assign k value

variable {s t : Store} {time : Nat} {k : Key}

theorem assigns_revise {operation : Operation} {f : Store → Key → Except StoreError String} {raw : String}
    (h : revise time operation (.key k) f s = (.ok raw, t)) : Assigns k (some raw) s t := by
  cases hk : s.resolve (.key k) with
  | error e => cases (revise_of_refused hk time operation f).symm.trans h
  | ok k' =>
    obtain rfl := resolve_key_eq_ok hk
    cases hf : f s k' with
    | error e => cases (revise_of_error hk hf time operation).symm.trans h
    | ok raw' =>
      obtain ⟨hraw, rfl⟩ := Prod.mk.inj ((revise_of_ok hk hf time operation).symm.trans h)
      obtain rfl := Except.ok.inj hraw
      exact ⟨hk, rfl⟩

theorem assigns_set {raw : String} (h : set time (.key k) raw s = (.ok (), t)) : Assigns k (some raw) s t := by
  obtain ⟨raw', u, hr, hu⟩ := bind_eq_ok.1 h
  obtain ⟨-, rfl⟩ := pure_eq.1 hu
  have hassigns := assigns_revise hr
  have hraw : (revise time .set (.key k) (fun _ _ => .ok raw) s).1 = .ok raw := result_revise hassigns.resolved ..
  rw [hr] at hraw
  exact Except.ok.inj hraw ▸ hassigns

theorem assigns_decrement {n : Number} {raw : String} (h : decrement time (.key k) n s = (.ok raw, t)) :
    Assigns k (some raw) s t := by
  unfold decrement at h
  cases hn : n.neg? with
  | some delta =>
    rw [hn] at h
    exact assigns_revise h
  | none =>
    rw [hn] at h
    cases (fail_eq.1 h).1

/-- a key that is absent is as good as taken out -/
theorem assigns_clear {prior : Option String} (h : clear time (.key k) s = (.ok prior, t)) : Assigns k none s t := by
  cases hk : s.resolve (.key k) with
  | error e => cases (clear_of_refused hk time).symm.trans h
  | ok k' =>
    obtain rfl := resolve_key_eq_ok hk
    obtain ⟨-, rfl⟩ := exchange_eq.1 ((clear_of_accepted hk time).symm.trans h)
    refine ⟨hk, ?_⟩
    unfold clearKey
    cases hprior : s.data[k']? with
    | some prior => rfl
    | none =>
      have hsame : s.data.assign k' none = s.data := Mapping.erase_of_absent hprior
      rw [hsame]
      dsimp only
      split_ifs <;> rfl

/-- **A command leaves its value at its key.** -/
theorem assigns_apply {c : Command} {value : Option String} (h : apply time c s = (.ok value, t)) :
    Assigns c.key value s t := by
  obtain ⟨kind, key, operand⟩ := c
  unfold apply at h
  simp only at h
  split at h
  · obtain ⟨prior, u, hc, hu⟩ := bind_eq_ok.1 h
    obtain ⟨hvalue, rfl⟩ := pure_eq.1 hu
    exact Except.ok.inj hvalue ▸ assigns_clear hc
  · obtain ⟨_, u, hs, hu⟩ := bind_eq_ok.1 h
    obtain ⟨hvalue, rfl⟩ := pure_eq.1 hu
    exact Except.ok.inj hvalue ▸ assigns_set hs
  · obtain ⟨raw, u, hi, hu⟩ := bind_eq_ok.1 h
    obtain ⟨hvalue, rfl⟩ := pure_eq.1 hu
    exact Except.ok.inj hvalue ▸ assigns_revise hi
  · obtain ⟨raw, u, hd, hu⟩ := bind_eq_ok.1 h
    obtain ⟨hvalue, rfl⟩ := pure_eq.1 hu
    exact Except.ok.inj hvalue ▸ assigns_decrement hd
  · obtain ⟨raw, u, hl, hu⟩ := bind_eq_ok.1 h
    obtain ⟨hvalue, rfl⟩ := pure_eq.1 hu
    exact Except.ok.inj hvalue ▸ assigns_revise hl
  · obtain ⟨raw, u, hs, hu⟩ := bind_eq_ok.1 h
    obtain ⟨hvalue, rfl⟩ := pure_eq.1 hu
    exact Except.ok.inj hvalue ▸ assigns_revise hs
  · cases (fail_eq.1 h).1

/-! ## Statements -/

variable {x : PreparedStatement}

/-- a statement that is carried out has a command, which gives the value that is reported -/
theorem assigns_applyStatement {value : Option String} (h : s.applyStatement time x = (.applied k value, t)) :
    Assigns k value s t := by
  cases hc : x.command with
  | error e => cases (applyStatement_of_error hc s time).symm.trans h
  | ok c =>
    simp only [applyStatement, hc] at h
    rcases hr : apply time c s with ⟨e | v, u⟩ <;> rw [hr] at h
    · cases h
    · obtain ⟨hstatus, rfl⟩ := Prod.mk.inj h
      obtain ⟨rfl, rfl⟩ := StatementStatus.applied.inj hstatus
      exact assigns_apply hr

/-- a statement does to the mapping what its outcome reports -/
theorem data_applyStatement (s : Store) (time : Nat) (x : PreparedStatement) :
    (s.applyStatement time x).2.data =
      StatementOutcome.redo s.data ⟨x.index, x.text, (s.applyStatement time x).1⟩ := by
  rcases hx : s.applyStatement time x with ⟨status, t⟩
  cases status with
  | applied k value => exact (assigns_applyStatement hx).data
  | failed error => rw [applyStatement_of_failed hx, StatementOutcome.redo]
  | notRun => exact absurd (congrArg Prod.fst hx) (status_applyStatement_ne_notRun x)

/-- **Statements do what their outcomes report.** -/
theorem data_runStatements (policy : ErrorPolicy) (time : Nat) (s : Store) (l : List PreparedStatement) :
    let run := runStatements policy time false s l
    run.2.data = s.data.overwrite run.1 := by
  induction l generalizing s with
  | nil => rfl
  | cons x l ih =>
    rw [runStatements_cons]
    simp only [Mapping.overwrite_cons, ← data_applyStatement]
    cases isFailure (s.applyStatement time x).1 && policy = .abortRemaining with
    | false => exact ih (s.applyStatement time x).2
    | true =>
      simp only [runStatements_true]
      exact (Mapping.overwrite_of_notRun (by simp) _).symm

/-! ## Moments -/

/-- the store after the first `i` statements of a script -/
def upTo (s : Store) (time : Nat) (script : PreparedScript) (policy : ErrorPolicy) (i : Nat) : Store :=
  (s.execute time ⟨script.statements.take i⟩ policy).2

/-- at its place, a statement is passed over, or it is tried on the store that the statements before it leave -/
theorem outcome_at {script : PreparedScript} {policy : ErrorPolicy} {i : Nat} {o : StatementOutcome}
    (ho : (s.execute time script policy).1.outcomes[i]? = some o) :
    (o.status = .notRun ∧ s.upTo time script policy (i + 1) = s.upTo time script policy i) ∨
      ∃ (t : Store) (x : PreparedStatement), s.upTo time script policy i = { t with source := s.source } ∧
        o.status = (t.applyStatement time x).1 ∧
        s.upTo time script policy (i + 1) = { (t.applyStatement time x).2 with source := s.source } := by
  have hlength : (s.execute time script policy).1.outcomes.length = script.statements.length := length_runStatements ..
  have hi : i < script.statements.length := hlength ▸ (List.getElem?_eq_some_iff.1 ho).1
  have hx : script.statements[i]? = some script.statements[i] := List.getElem?_eq_getElem hi
  have htake : script.statements.take (i + 1) = script.statements.take i ++ [script.statements[i]] := by
    rw [List.take_add_one, hx, Option.toList_some]
  have hrun := runStatements_append policy time { s with source := .query } (script.statements.take i)
    [script.statements[i]]
  have hstatus := getElem?_runStatements hx policy time { s with source := .query }
  obtain rfl := Option.some.inj (ho.symm.trans hstatus)
  unfold upTo
  simp only [execute_eq, htake, hrun]
  cases stops policy (runStatements policy time false { s with source := .query } (script.statements.take i)).1 with
  | true => exact .inl ⟨rfl, rfl⟩
  | false => exact .inr ⟨_, _, rfl, rfl, rfl⟩

/-- the outcomes tell all that carrying out a script does to the mapping of `s`, which is `after` in the end -/
structure Told (s : Store) (time : Nat) (script : PreparedScript) (policy : ErrorPolicy)
    (outcomes : List StatementOutcome) (after : Mapping) : Prop where
  /-- all of them together lead from the mapping before to the one after -/
  whole : after = s.data.overwrite outcomes
  /-- what is reported of a key is what it holds at that moment -/
  applied : ∀ {i : Nat} {o : StatementOutcome} {k : Key} {value : Option String}, outcomes[i]? = some o →
    o.status = .applied k value → (s.upTo time script policy (i + 1)).getRaw (.key k) = .ok value
  /-- a statement that was not carried out leaves the store as it was -/
  silent : ∀ {i : Nat} {o : StatementOutcome}, outcomes[i]? = some o → ¬o.isApplied →
    s.upTo time script policy (i + 1) = s.upTo time script policy i

theorem getRaw_of_assigns {value : Option String} (h : Assigns k value s t) (hf : Frame s t) (source : Source) :
    { t with source }.getRaw (.key k) = .ok value := by
  have hk : { t with source }.resolve (.key k) = .ok k := by
    rw [← h.resolved, resolve, resolve, hf.keys]
  rw [getRaw, hk]
  change Except.ok t.data[k]? = _
  rw [h.data, Mapping.getElem?_assign, if_pos rfl]

theorem told_execute (s : Store) (time : Nat) (script : PreparedScript) (policy : ErrorPolicy) :
    Told s time script policy (s.execute time script policy).1.outcomes (s.execute time script policy).2.data where
  whole := data_runStatements policy time { s with source := .query } script.statements
  applied {i o k value} ho hk := by
    rcases outcome_at ho with ⟨hnot, -⟩ | ⟨t, x, -, hstatus, hnext⟩
    · cases hk.symm.trans hnot
    · have hassigns : Assigns k value t (t.applyStatement time x).2 :=
        assigns_applyStatement (Prod.ext (hstatus.symm.trans hk) rfl)
      rw [hnext]
      exact getRaw_of_assigns hassigns (tracks_applyStatement t time x).frame s.source
  silent {i o} ho hnot := by
    rcases outcome_at ho with ⟨-, hnext⟩ | ⟨t, x, hbefore, hstatus, hnext⟩
    · exact hnext
    · have hfailed : isFailure (t.applyStatement time x).1 := by
        cases hx : (t.applyStatement time x).1 with
        | applied k value => exact absurd (by rw [StatementOutcome.isApplied, hstatus, hx]) hnot
        | failed error => rfl
        | notRun => exact absurd hx (status_applyStatement_ne_notRun x)
      rw [hnext, hbefore, state_applyStatement_of_isFailure hfailed]

end Store

/-! ## Main result -/

open Engine Store

/-- **Reports tell the whole truth.** Whatever the store, the script and the policy, the outcomes that are reported lead
from the mapping before the script to the mapping after it, when each statement that was carried out gives its key the
value reported for it, or takes the key out where no value is reported. That value is what the key holds right after the
statement, and a statement that failed or was passed over changes nothing. The same for a script text that an engine
reads, with or without a savepoint before it. -/
theorem reports_tell_the_whole_truth :
    (∀ (s : Store) (time : Nat) (script : PreparedScript) (policy : ErrorPolicy),
      let ran := s.execute time script policy
      Told s time script policy ran.1.outcomes ran.2.data) ∧
    ∀ (e : Engine) (time : Nat) (script : String) (policy : ErrorPolicy),
      let ran := e.runScriptWith time script policy
      Told e.store time (e.prepare script) policy ran.1.outcomes ran.2.store.data := by
  refine ⟨told_execute, fun e time script policy => ?_⟩
  intro ran
  rw [outcomes_runScriptWith, store_runScriptWith]
  exact told_execute e.store time (e.prepare script) policy

/-- a counter, a list that grows, a number that is asked of the list, and a clear of a key that is absent -/
def sampleReported : String :=
  "set env:a 007; list append env:b on; inc env:b 8; list append env:b 2; inc env:b 1; clear env:c"

/-- what is reported of them -/
def sampleOutcomes : List StatementOutcome :=
  [⟨0, "set env:a 007", .applied ⟨"env", "a"⟩ (some "7")⟩,
    ⟨1, "list append env:b on", .applied ⟨"env", "b"⟩ (some "1")⟩,
    ⟨2, "inc env:b 8", .applied ⟨"env", "b"⟩ (some "9")⟩,
    ⟨3, "list append env:b 2", .applied ⟨"env", "b"⟩ (some "9,2")⟩,
    ⟨4, "inc env:b 1", .failed (.coercion (.notNumeric "9,2"))⟩,
    ⟨5, "clear env:c", .applied ⟨"env", "c"⟩ none⟩]

theorem sample_reports_tell_the_whole_truth :
    let ran := sample.runScriptWith 1 sampleReported .skipAndContinue
    let upTo := sample.store.upTo 1 (sample.prepare sampleReported) .skipAndContinue
    ran.1.outcomes = sampleOutcomes ∧ ran.2.store.data = sample.store.data.overwrite sampleOutcomes ∧
      ran.2.store.data.toList = [(⟨"env", "a"⟩, "7"), (⟨"env", "b"⟩, "9,2")] ∧
      (upTo 3).getRaw (.key ⟨"env", "b"⟩) = .ok (some "9") ∧ upTo 5 = upTo 4 := by
  have houtcomes : (sample.runScriptWith 1 sampleReported .skipAndContinue).1.outcomes = sampleOutcomes := by
    decide +kernel
  have htold := reports_tell_the_whole_truth.2 sample 1 sampleReported .skipAndContinue
  simp only [houtcomes] at htold
  have hincreased : sampleOutcomes[2]? = some ⟨2, "inc env:b 8", .applied ⟨"env", "b"⟩ (some "9")⟩ := rfl
  have hfailed : sampleOutcomes[4]? = some ⟨4, "inc env:b 1", .failed (.coercion (.notNumeric "9,2"))⟩ := rfl
  refine ⟨houtcomes, htold.whole, ?_, htold.applied hincreased rfl, htold.silent hfailed (by decide)⟩
  rw [htold.whole]
  decide +kernel

end ScopedStore
