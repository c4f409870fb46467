/-
Scripts are local: what they do depends on the keys that they name, and only these keys change.

`PreparedScript.named` are the keys that the accepted commands of a script are about. Two stores `Agree` on some keys
when they follow the same rules and have the same values there. A command on one of these keys ends alike on both stores
(`Agree.apply`), so a statement does, and leaves stores that still agree (`Agree.applyStatement`); by induction so do
all statements of a script (`Agree.runStatements`). All other keys are left alone (`getElem?_runStatements_of_unnamed`).

Main result, `scripts_are_local`: the outcomes of a script, and what it leaves at the keys that it names, are a matter
of these keys alone, and other keys keep their values. So two scripts that name no common key can be run in either
order.
-/
import ScopedStore.Proofs.Concatenation
import ScopedStore.Proofs.Reporting

namespace ScopedStore

open Attempt

/-- the keys that the accepted commands of a script are about -/
def PreparedScript.named (p : PreparedScript) : List Key :=
  p.statements.filterMap fun x => x.command.toOption.map Command.key

theorem PreparedScript.mem_named {p : PreparedScript} {x : PreparedStatement} {c : Command} (hx : x ∈ p.statements)
    (hc : x.command = .ok c) : c.key ∈ p.named :=
  List.mem_filterMap.2 ⟨x, hx, by rw [hc]; rfl⟩

namespace Attempt

/-- what is made of a result is alike where the result is -/
theorem result_bind_pure {σ α β : Type} {x y : Attempt σ α} {s t : σ} (h : (y t).1 = (x s).1) (f : α → β) :
    ((y >>= fun a => pure (f a)) t).1 = ((x >>= fun a => pure (f a)) s).1 := by
  have hx : ((x >>= fun a => pure (f a)) s).1 = (x s).1.map f := map_result x f s
  have hy : ((y >>= fun a => pure (f a)) t).1 = (y t).1.map f := map_result y f t
  rw [hx, hy, h]

end Attempt

namespace Store

/-- the stores follow the same rules, and have the same values at the keys that `P` holds of -/
structure Agree (P : Key → Prop) (s t : Store) : Prop where
  config : t.config = s.config
  keys : t.keys = s.keys
  data : ∀ k, P k → t.data[k]? = s.data[k]?

variable {P : Key → Prop} {s t : Store} {time time' : Nat}

namespace Agree

theorem withSource (h : Agree P s t) (source source' : Source) :
    Agree P { s with source } { t with source := source' } :=
  ⟨h.config, h.keys, h.data⟩

theorem resolve (h : Agree P s t) (k : KeyRef) : t.resolve k = s.resolve k := by
  rw [Store.resolve, Store.resolve, h.keys]

theorem compound (h : Agree P s t) : t.compound = s.compound := congrArg Config.compoundNotation h.config

/-! ## Commands -/

variable {k : Key}

/-- what is written at a key is worked out from the rules and from what is there -/
theorem revise (h : Agree P s t) {f : Store → Key → Except StoreError String} (hf : f t k = f s k)
    (operation : Operation) :
    (Store.revise time' operation (.key k) f t).1 = (Store.revise time operation (.key k) f s).1 := by
  cases hs : s.resolve (.key k) with
  | error e => rw [revise_of_refused hs, revise_of_refused ((h.resolve (.key k)).trans hs)]
  | ok k' =>
    obtain rfl := resolve_key_eq_ok hs
    rw [result_revise hs, result_revise ((h.resolve (.key k')).trans hs), hf]

theorem set (h : Agree P s t) (raw : String) :
    (Store.set time' (.key k) raw t).1 = (Store.set time (.key k) raw s).1 :=
  result_bind_pure (h.revise rfl .set) fun _ => ()

theorem clear (h : Agree P s t) (hk : P k) :
    (Store.clear time' (.key k) t).1 = (Store.clear time (.key k) s).1 := by
  cases hs : s.resolve (.key k) with
  | error e => rw [clear_of_refused hs, clear_of_refused ((h.resolve (.key k)).trans hs)]
  | ok k' =>
    obtain rfl := resolve_key_eq_ok hs
    rw [clear_of_accepted hs, clear_of_accepted ((h.resolve (.key k')).trans hs)]
    simp only [exchange, clearKey, h.data k' hk]
    cases s.data[k']? <;> rfl

theorem transform (h : Agree P s t) (hk : P k) (operation : Operation) (delta : Number) :
    (Store.transform time' operation (.key k) delta t).1 = (Store.transform time operation (.key k) delta s).1 := by
  refine h.revise ?_ operation
  rw [Std.ExtTreeMap.getD_eq_getD_getElem?, Std.ExtTreeMap.getD_eq_getD_getElem?, h.data k hk]

theorem decrement (h : Agree P s t) (hk : P k) (n : Number) :
    (Store.decrement time' (.key k) n t).1 = (Store.decrement time (.key k) n s).1 := by
  unfold Store.decrement
  cases n.neg? with
  | some delta => exact h.transform hk .decrement delta
  | none => rfl

theorem append (h : Agree P s t) (hk : P k) (kind : CompoundKind) (item : String) :
    (Store.append time' kind (.key k) item t).1 = (Store.append time kind (.key k) item s).1 := by
  rw [append_eq_revise, append_eq_revise]
  refine h.revise ?_ kind.operation
  unfold appended contents listOf
  rw [h.data k hk, h.compound]

/-- **A command ends alike on stores that agree on its key.** -/
theorem apply {c : Command} (h : Agree P s t) (hc : P c.key) :
    (Store.apply time' c t).1 = (Store.apply time c s).1 := by
  obtain ⟨kind, key, operand⟩ := c
  unfold Store.apply
  simp only
  split
  · exact result_bind_pure (h.clear hc) fun _ => none
  · exact result_bind_pure (h.set _) fun _ => some _
  · exact result_bind_pure (h.transform hc .increment _) some
  · exact result_bind_pure (h.decrement hc _) some
  · exact result_bind_pure (h.append hc .list _) some
  · exact result_bind_pure (h.append hc .set _) some
  · rfl

/-! ## Statements -/

theorem status_applyStatement {x : PreparedStatement} (h : Agree P s t) (hx : ∀ c, x.command = .ok c → P c.key) :
    (t.applyStatement time' x).1 = (s.applyStatement time x).1 := by
  cases hc : x.command with
  | error e => rw [applyStatement_of_error hc, applyStatement_of_error hc]
  | ok c =>
    have happly : (Store.apply time' c t).1 = (Store.apply time c s).1 := h.apply (hx c hc)
    simp only [applyStatement, hc]
    rcases hs : Store.apply time c s with ⟨rs, s'⟩
    rcases ht : Store.apply time' c t with ⟨rt, t'⟩
    rw [hs, ht] at happly
    obtain rfl : rt = rs := happly
    cases rt <;> rfl

/-- what is reported of a statement is what it does, so that stores that agree go on to agree -/
theorem applyStatement {x : PreparedStatement} (h : Agree P s t) (hx : ∀ c, x.command = .ok c → P c.key) :
    Agree P (s.applyStatement time x).2 (t.applyStatement time' x).2 := by
  have hs := (tracks_applyStatement s time x).frame
  have ht := (tracks_applyStatement t time' x).frame
  refine ⟨by rw [ht.config, hs.config, h.config], by rw [ht.keys, hs.keys, h.keys], fun k hk => ?_⟩
  rw [data_applyStatement, data_applyStatement, h.status_applyStatement hx]
  unfold StatementOutcome.redo
  cases (s.applyStatement time x).1 with
  | applied k' value =>
    simp only [Mapping.getElem?_assign, h.data k hk]
  | failed error => exact h.data k hk
  | notRun => exact h.data k hk

/-- **Scripts go alike on stores that agree on the keys that they name.** -/
theorem runStatements {l : List PreparedStatement} (h : Agree P s t)
    (hl : ∀ x ∈ l, ∀ c, x.command = .ok c → P c.key) (policy : ErrorPolicy) (aborted : Bool) :
    (Store.runStatements policy time' aborted t l).1 = (Store.runStatements policy time aborted s l).1 ∧
      Agree P (Store.runStatements policy time aborted s l).2 (Store.runStatements policy time' aborted t l).2 := by
  induction l generalizing aborted s t with
  | nil => cases aborted <;> exact ⟨rfl, h⟩
  | cons x l ih =>
    obtain ⟨hx, hl⟩ := List.forall_mem_cons.1 hl
    cases aborted with
    | true =>
      rw [runStatements_true, runStatements_true]
      exact ⟨rfl, h⟩
    | false =>
      have hstatus : (t.applyStatement time' x).1 = (s.applyStatement time x).1 := h.status_applyStatement hx
      have hnext : Agree P (s.applyStatement time x).2 (t.applyStatement time' x).2 := h.applyStatement hx
      rw [runStatements_cons, runStatements_cons, hstatus]
      -- the statements report the same, so that both runs stop here or neither does
      obtain ⟨houtcomes, hagree⟩ := ih hnext hl
        (isFailure (s.applyStatement time x).1 && policy = .abortRemaining)
      exact ⟨congrArg (⟨x.index, x.text, (s.applyStatement time x).1⟩ :: ·) houtcomes, hagree⟩

end Agree

/-- a key that no command is about keeps its value -/
theorem getElem?_runStatements_of_unnamed {l : List PreparedStatement} {k : Key}
    (h : ∀ x ∈ l, ∀ c, x.command = .ok c → c.key ≠ k) (policy : ErrorPolicy) (aborted : Bool) (s : Store) :
    (runStatements policy time aborted s l).2.data[k]? = s.data[k]? := by
  induction l generalizing aborted s with
  | nil => cases aborted <;> rfl
  | cons x l ih =>
    obtain ⟨hx, hl⟩ := List.forall_mem_cons.1 h
    cases aborted with
    | true => exact ih hl true s
    | false =>
      rw [runStatements_cons]
      refine (ih hl _ _).trans ?_
      cases hc : x.command with
      | error e => rw [applyStatement_of_error hc]
      | ok c =>
        rw [state_applyStatement hc]
        rcases hr : apply time c s with ⟨e | value, t⟩
        · rw [atomic_apply time c s e t hr]
        · rw [(assigns_apply hr).data, Mapping.getElem?_assign, if_neg (hx c hc)]

/-! ## Scripts -/

variable {a b : PreparedScript}

theorem Agree.execute (h : Agree (· ∈ a.named) s t) (time time' : Nat) (policy : ErrorPolicy) :
    (t.execute time' a policy).1 = (s.execute time a policy).1 ∧
      Agree (· ∈ a.named) (s.execute time a policy).2 (t.execute time' a policy).2 := by
  have hquery : Agree (· ∈ a.named) { s with source := .query } { t with source := .query } :=
    h.withSource .query .query
  rw [execute_eq, execute_eq]
  obtain ⟨houtcomes, hagree⟩ := hquery.runStatements (fun _ hx _ hc => PreparedScript.mem_named hx hc) policy false
  exact ⟨congrArg (ScriptReport.mk policy · none) houtcomes, hagree.withSource s.source t.source⟩

theorem getElem?_execute_of_unnamed {k : Key} (h : k ∉ a.named) (s : Store) (time : Nat) (policy : ErrorPolicy) :
    (s.execute time a policy).2.data[k]? = s.data[k]? := by
  have hunnamed : ∀ x ∈ a.statements, ∀ c, x.command = .ok c → c.key ≠ k :=
    fun x hx c hc he => h (he ▸ PreparedScript.mem_named hx hc)
  exact getElem?_runStatements_of_unnamed hunnamed policy false { s with source := .query }

/-- a script leaves the keys of the other one alone -/
theorem agree_execute_of_disjoint (h : ∀ k ∈ b.named, k ∉ a.named) (s : Store) (time : Nat) (policy : ErrorPolicy) :
    Agree (· ∈ b.named) s (s.execute time a policy).2 :=
  have hframe := (tracksAs_execute s time a policy).frame
  ⟨hframe.config, hframe.keys, fun k hk => getElem?_execute_of_unnamed (h k hk) s time policy⟩

/-- of two scripts, a key that one does not name is left by them with the same value in either order -/
theorem getElem?_execute_comm (h : ∀ k ∈ a.named, k ∉ b.named) (s : Store) (time time' time₁ time₁' : Nat)
    (policy policy' : ErrorPolicy) {k : Key} (hk : k ∉ b.named) :
    ((s.execute time' b policy').2.execute time₁ a policy).2.data[k]? =
      ((s.execute time a policy).2.execute time₁' b policy').2.data[k]? := by
  rw [getElem?_execute_of_unnamed hk]
  by_cases ha : k ∈ a.named
  · exact ((agree_execute_of_disjoint h s time' policy').execute time time₁ policy).2.data k ha
  · rw [getElem?_execute_of_unnamed ha, getElem?_execute_of_unnamed ha, getElem?_execute_of_unnamed hk]

end Store

/-! ## Main result -/

namespace Engine

open Store

/-- engines with the same configuration read scripts alike -/
theorem Reachable.rules_of_config {e e' : Engine} (h : Reachable e) (h' : Reachable e')
    (hc : e'.store.config = e.store.config) : e'.store.keys = e.store.keys ∧ e'.dialect = e.dialect := by
  have hkeys : e'.store.keys = e.store.keys := Except.ok.inj (by rw [← h'.inv.rules, hc, h.inv.rules])
  exact ⟨hkeys, by rw [h'.inv.dialect, h.inv.dialect, hc, hkeys]⟩

/-- carrying out a script leaves it to the same dialect to read the next one -/
theorem prepare_runScriptWith (e : Engine) (time : Nat) (a b : String) (policy : ErrorPolicy) :
    (e.runScriptWith time a policy).2.prepare b = e.prepare b := by
  rw [runScriptWith_eq]
  rfl

theorem report_runScriptWith {e : Engine} (h : e.savepoints.policy.enabled = false) (time : Nat) (script : String)
    (policy : ErrorPolicy) :
    (e.runScriptWith time script policy).1 = (e.store.execute time (e.prepare script) policy).1 := by
  simp only [runScriptWith, autoSavepoint, h, Bool.not_false, if_true]
  rfl

/-- what the second of two scripts does, and reports, after the first -/
theorem store_runScriptWith_twice (e : Engine) (time time' : Nat) (a b : String) (policy policy' : ErrorPolicy) :
    let first := (e.store.execute time (e.prepare a) policy).2
    let second := (e.runScriptWith time a policy).2.runScriptWith time' b policy'
    second.2.store = (first.execute time' (e.prepare b) policy').2 ∧
      second.1.outcomes = (first.execute time' (e.prepare b) policy').1.outcomes ∧
      (e.savepoints.policy.enabled = false → second.1 = (first.execute time' (e.prepare b) policy').1) := by
  intro first second
  have hstore : (e.runScriptWith time a policy).2.store = first := store_runScriptWith e time a policy
  have hprepare := e.prepare_runScriptWith time a b policy
  refine ⟨?_, ?_, fun h => ?_⟩
  · rw [store_runScriptWith, hstore, hprepare]
  · rw [outcomes_runScriptWith, hstore, hprepare]
  · have hpolicy : (e.runScriptWith time a policy).2.savepoints.policy.enabled = false := by
      rw [state_runScriptWith h]
      exact h
    rw [report_runScriptWith hpolicy, hstore, hprepare]

end Engine

open Engine Store

/-- **Scripts are local.** Two engines with the same configuration that agree on the keys that the accepted commands of
a script are about read the script alike, report the same outcome of each statement, and agree on these keys afterwards;
and each of them keeps what it had at any other key. So if two scripts have no such key in common, then they can be run
in either order: the mapping is the same in the end and so are the outcomes of each script, and where no savepoints are
made before scripts so is the whole report. -/
theorem scripts_are_local :
    (∀ {e e' : Engine}, Reachable e → Reachable e' → e'.store.config = e.store.config →
      ∀ (time time' : Nat) (script : String) (policy : ErrorPolicy),
        (∀ k ∈ (e.prepare script).named, e'.store.data[k]? = e.store.data[k]?) →
        let ran := e.runScriptWith time script policy
        let ran' := e'.runScriptWith time' script policy
        e'.prepare script = e.prepare script ∧ ran'.1.outcomes = ran.1.outcomes ∧
          (∀ k ∈ (e.prepare script).named, ran'.2.store.data[k]? = ran.2.store.data[k]?) ∧
          ∀ k ∉ (e.prepare script).named,
            ran.2.store.data[k]? = e.store.data[k]? ∧ ran'.2.store.data[k]? = e'.store.data[k]?) ∧
    ∀ (e : Engine) (a b : String), (∀ k ∈ (e.prepare a).named, k ∉ (e.prepare b).named) →
      ∀ (time₁ time₂ time₁' time₂' : Nat) (policy policy' : ErrorPolicy),
        let a₁ := e.runScriptWith time₁ a policy
        let b₂ := a₁.2.runScriptWith time₂ b policy'
        let b₁ := e.runScriptWith time₁' b policy'
        let a₂ := b₁.2.runScriptWith time₂' a policy
        b₂.2.store.data = a₂.2.store.data ∧ a₁.1.outcomes = a₂.1.outcomes ∧ b₂.1.outcomes = b₁.1.outcomes ∧
          (e.savepoints.policy.enabled = false → a₁.1 = a₂.1 ∧ b₂.1 = b₁.1) := by
  constructor
  · intro e e' h h' hc time time' script policy hdata ran ran'
    obtain ⟨hkeys, hdialect⟩ := h.rules_of_config h' hc
    have hprepare : e'.prepare script = e.prepare script := by rw [prepare, prepare, hdialect]
    have hagree : Agree (· ∈ (e.prepare script).named) e.store e'.store := ⟨hc, hkeys, hdata⟩
    obtain ⟨hreport, hafter⟩ := hagree.execute time time' policy
    simp only [ran, ran', outcomes_runScriptWith, store_runScriptWith, hprepare]
    exact ⟨trivial, congrArg ScriptReport.outcomes hreport, hafter.data, fun k hk =>
      ⟨getElem?_execute_of_unnamed hk e.store time policy, getElem?_execute_of_unnamed hk e'.store time' policy⟩⟩
  · intro e a b h time₁ time₂ time₁' time₂' policy policy' a₁ b₂ b₁ a₂
    have h' : ∀ k ∈ (e.prepare b).named, k ∉ (e.prepare a).named := fun k hb ha => h k ha hb
    obtain ⟨hstore, houtcomes, hreport⟩ := e.store_runScriptWith_twice time₁ time₂ a b policy policy'
    obtain ⟨hstore', houtcomes', hreport'⟩ := e.store_runScriptWith_twice time₁' time₂' b a policy' policy
    have ha := ((agree_execute_of_disjoint h e.store time₁' policy').execute time₁ time₂' policy).1
    have hb := ((agree_execute_of_disjoint h' e.store time₁ policy).execute time₁' time₂ policy').1
    refine ⟨Std.ExtTreeMap.ext_getElem? fun k => ?_, ?_, ?_, fun hpolicy => ⟨?_, ?_⟩⟩
    · rw [hstore, hstore']
      by_cases hk : k ∈ (e.prepare b).named
      · exact getElem?_execute_comm h' e.store time₁' time₁ time₂ time₂' policy' policy (h' k hk)
      · exact (getElem?_execute_comm h e.store time₁ time₁' time₂' time₂ policy policy' hk).symm
    · rw [houtcomes', ha, outcomes_runScriptWith]
    · rw [houtcomes, hb, outcomes_runScriptWith]
    · rw [hreport' hpolicy, ha, report_runScriptWith hpolicy]
    · rw [hreport hpolicy, hb, report_runScriptWith hpolicy]

/-- a counter that starts from what is there, and a list -/
def countingScript : String := "inc env:a 2; set env:q 5; list append env:b on"

/-- a number that is asked of a key without one, and a clear -/
def clearingScript : String := "inc env:c 1; clear env:d; set env:c on; inc env:c 1"

/-- the sample engine with something at keys of the second script, and at one that no script is about -/
def otherSample : Engine := sample.run [(1, .set (.key ⟨"env", "c"⟩) "x"), (1, .set (.key ⟨"env", "z"⟩) "9")]

theorem sample_scripts_are_local :
    let ran := sample.runScriptWith 2 countingScript .abortRemaining
    let ran' := otherSample.runScriptWith 3 countingScript .abortRemaining
    ran'.1.outcomes = ran.1.outcomes ∧ ran'.2.store.data[(⟨"env", "z"⟩ : Key)]? = some "9" ∧
      let a₁ := plainSample.runScriptWith 1 countingScript .skipAndContinue
      let b₂ := a₁.2.runScriptWith 2 clearingScript .abortRemaining
      let b₁ := plainSample.runScriptWith 3 clearingScript .abortRemaining
      let a₂ := b₁.2.runScriptWith 4 countingScript .skipAndContinue
      b₂.2.store.data = a₂.2.store.data ∧ a₁.1 = a₂.1 ∧ b₂.1 = b₁.1 := by
  have hcounting : (sample.prepare countingScript).named = [⟨"env", "a"⟩, ⟨"env", "q"⟩, ⟨"env", "b"⟩] := by
    decide +kernel
  have hclearing : (sample.prepare clearingScript).named =
      [⟨"env", "c"⟩, ⟨"env", "d"⟩, ⟨"env", "c"⟩, ⟨"env", "c"⟩] := by
    decide +kernel
  have hagree : ∀ k ∈ (sample.prepare countingScript).named, otherSample.store.data[k]? = sample.store.data[k]? := by
    rw [hcounting]
    decide +kernel
  have hz : (⟨"env", "z"⟩ : Key) ∉ (sample.prepare countingScript).named := by
    rw [hcounting]
    decide
  have hother : otherSample.store.data[(⟨"env", "z"⟩ : Key)]? = some "9" := by decide +kernel
  have hdisjoint : ∀ k ∈ (plainSample.prepare countingScript).named,
      k ∉ (plainSample.prepare clearingScript).named := by
    change ∀ k ∈ (sample.prepare countingScript).named, k ∉ (sample.prepare clearingScript).named
    rw [hcounting, hclearing]
    decide
  obtain ⟨hlocal, hcommute⟩ := scripts_are_local
  have hreachable : Reachable otherSample := reachable_sample.run _
  have hconfig : otherSample.store.config = sample.store.config := (reachable_sample.inv.settled_run _).config
  obtain ⟨-, houtcomes, -, hkept⟩ := hlocal reachable_sample hreachable hconfig 2 3 countingScript
    .abortRemaining hagree
  obtain ⟨hdata, -, -, hreports⟩ := hcommute plainSample countingScript clearingScript hdisjoint 1 2 3 4
    .skipAndContinue .abortRemaining
  exact ⟨houtcomes, (hkept _ hz).2.trans hother, hdata, hreports rfl⟩

end ScopedStore
