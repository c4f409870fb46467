/-
Keys as counters.

`Store.counter?` is the integer that a key holds; an absent key counts zero. `Turns` is all that an increment or a
decrement by an integer can do to it: the amount is added or taken off, or the step overflows and nothing happens.
`Action.Counts` says that an action works with the key as a counter, or spares it; `ledger` lists the signed amounts of
the steps that succeeded.

Main result, `counters_keep_a_ledger`: after any such actions, and after each statement of a script, the counter is its
first value and the sum of the ledger. Apart from keys: a number that was worked out is read back, as an integer if both
of its parts were integers and as a double otherwise, so that a double stays one (`foldlM_addToText_of_double`).
-/
import ScopedStore.Proofs.Checking
import ScopedStore.Proofs.DoubleText
import ScopedStore.Proofs.Sparing

namespace ScopedStore

open Attempt

variable {s t : Store} {k : Key} {v d : Int} {time : Nat}

/-! ## Sums -/

namespace Number

theorem toInt_of_int64? {i : Int} {n : Int64} (h : int64? i = some n) : n.toInt = i := by
  unfold int64? at h
  split_ifs at h with hi
  obtain rfl := Option.some.inj h
  exact Int64.toInt_ofInt_of_le hi.1 hi.2

/-- what a sum is, by what its parts are -/
inductive IsSum : Number → Number → Number → Prop where
  | int {a b c : Int64} (value : c.toInt = a.toInt + b.toInt) : IsSum (.int a) (.int b) (.int c)
  | double {m n : Number} (d : Double) (mixed : ∀ a b : Int64, (m, n) ≠ (.int a, .int b)) : IsSum m n (.double d)

theorem isSum_of_add? {m n sum : Number} (h : m.add? n = some sum) : IsSum m n sum := by
  unfold add? at h
  split at h
  · rename_i a b
    obtain ⟨c, hc, rfl⟩ := Option.map_eq_some_iff.1 h
    exact .int (toInt_of_int64? hc)
  · rename_i hmixed
    obtain rfl := Option.some.inj h
    refine .double _ fun a b he => ?_
    obtain ⟨rfl, rfl⟩ := Prod.mk.inj he
    exact hmixed a b rfl rfl

end Number

/-- a text that was worked out is that of a sum -/
theorem isSum_of_addToText {raw text : String} {delta : Number} (h : addToText raw delta = .ok text) :
    ∃ current sum, Number.read raw = some current ∧ Number.read text = some sum ∧ Number.IsSum current delta sum := by
  unfold addToText at h
  split at h
  · rename_i current hread
    split at h
    · rename_i sum hsum
      obtain rfl := Except.ok.inj h
      exact ⟨current, sum, hread, Number.read_render sum, Number.isSum_of_add? hsum⟩
    · cases h
  · split_ifs at h

/-- a number is not taken for something else -/
theorem overflow_of_addToText {raw : String} {current delta : Number} {cause : CoercionError}
    (hr : Number.read raw = some current) (h : addToText raw delta = .error cause) :
    cause = .overflow raw delta.render ∧ current.add? delta = none := by
  unfold addToText at h
  rw [hr] at h
  simp only at h
  split at h
  · cases h
  · rename_i hnone
    exact ⟨(Except.error.inj h).symm, hnone⟩

/-- **Doubles stay doubles**, whatever is added to them. -/
theorem foldlM_addToText_of_double {raw : String} {d : Double} (hr : Number.read raw = some (.double d))
    (deltas : List Number) :
    ∃ text d', deltas.foldlM addToText raw = .ok text ∧ Number.read text = some (.double d') := by
  induction deltas generalizing raw d with
  | nil => exact ⟨raw, d, rfl, hr⟩
  | cons delta deltas ih =>
    rw [List.foldlM_cons, addToText_of_double hr]
    exact ih (Number.read_render (.double (d + delta.toDouble)))

/-! ## Counters -/

namespace Store

/-- the integer that a key holds, where an absent key counts as zero -/
def counter? (s : Store) (k : Key) : Option Int :=
  match Number.read (s.data.getD k "0") with
  | some (.int n) => some n.toInt
  | _ => none

theorem counter?_eq_some :
    s.counter? k = some v ↔ ∃ n, Number.read (s.data.getD k "0") = some (.int n) ∧ n.toInt = v := by
  unfold counter?
  split
  · rename_i n hn
    simp [hn]
  · rename_i hn
    refine ⟨nofun, fun ⟨n, hread, _⟩ => absurd hread (hn n)⟩

/-- the value of the key is all that counts -/
theorem counter?_congr (h : t.data[k]? = s.data[k]?) : t.counter? k = s.counter? k := by
  rw [counter?, counter?, Std.ExtTreeMap.getD_eq_getD_getElem?, Std.ExtTreeMap.getD_eq_getD_getElem?, h]

theorem counter?_write {text : String} {n : Int64} (h : Number.read text = some (.int n)) (s : Store) (time : Nat)
    (operation : Operation) (k : Key) : (s.write time operation k text).counter? k = some n.toInt := by
  have hdata : (s.write time operation k text).data.getD k "0" = text := Std.ExtTreeMap.getD_insert_self
  exact counter?_eq_some.2 ⟨n, hdata.symm ▸ h, rfl⟩

/-- the change or the value after it is not a 64-bit integer -/
def Overflows (v d : Int) : Prop := Number.OutOfRange d ∨ Number.OutOfRange (v + d)

/-- a step adds `d` to a counter of `v`, or it overflows and changes nothing -/
inductive Turns (s : Store) (k : Key) (v d : Int) : Except StoreError String × Store → Prop where
  | counted (raw : String) {t : Store} (counter : t.counter? k = some (v + d)) : Turns s k v d (.ok raw, t)
  | overflowed (raw delta : String) (range : Overflows v d) :
      Turns s k v d (.error (.coercion (.overflow raw delta)), s)

theorem turns_transform {ref : KeyRef} (hk : s.resolve ref = .ok k) (hv : s.counter? k = some v)
    (operation : Operation) (n : Int64) : Turns s k v n.toInt (transform time operation ref (.int n) s) := by
  obtain ⟨a, hread, rfl⟩ := counter?_eq_some.1 hv
  cases hsum : addToText (s.data.getD k "0") (.int n) with
  | error cause =>
    obtain ⟨rfl, hnone⟩ := overflow_of_addToText hread hsum
    have hrange : Overflows a.toInt n.toInt := .inr (Number.int64?_eq_none.1 (Option.map_eq_none_iff.1 hnone))
    have hf : (addToText (s.data.getD k "0") (.int n)).mapError StoreError.coercion =
        .error (.coercion (.overflow (s.data.getD k "0") (Number.int n).render)) := by rw [hsum]; rfl
    rw [transform, revise_of_error hk hf]
    exact .overflowed _ _ hrange
  | ok text =>
    obtain ⟨current, sum, hcurrent, htext, hs⟩ := isSum_of_addToText hsum
    obtain rfl := Option.some.inj (hread.symm.trans hcurrent)
    have hf : (addToText (s.data.getD k "0") (.int n)).mapError StoreError.coercion = .ok text := by rw [hsum]; rfl
    rw [transform, revise_of_ok hk hf]
    cases hs with
    | @int _ _ c value => exact .counted text (value ▸ counter?_write htext s time operation k)
    | double d mixed => exact absurd rfl (mixed a n)

theorem turns_decrement {ref : KeyRef} (hk : s.resolve ref = .ok k) (hv : s.counter? k = some v) (n : Int64) :
    Turns s k v (-n.toInt) (decrement time ref (.int n) s) := by
  unfold decrement
  cases hn : (Number.int n).neg? with
  | none => exact .overflowed _ _ (.inl (Number.int64?_eq_none.1 (Option.map_eq_none_iff.1 hn)))
  | some delta =>
    obtain ⟨m, hm, rfl⟩ := Option.map_eq_some_iff.1 hn
    rw [← Number.toInt_of_int64? hm]
    exact turns_transform hk hv .decrement m

/-! ## Statements -/

end Store

/-- what a command adds to a counter -/
def Command.change? (k : Key) (c : Command) : Option Int :=
  match c.kind, c.operand with
  | .inc, some (.number (.int n)) => if c.key = k then some n.toInt else none
  | .dec, some (.number (.int n)) => if c.key = k then some (-n.toInt) else none
  | _, _ => none

/-- commands about the key count, by an integer -/
def PreparedStatement.Counts (k : Key) (x : PreparedStatement) : Prop :=
  ∀ c, x.command = .ok c → c.key = k → ∃ d, c.change? k = some d

/-- what a statement added to a counter, by its outcome -/
def PreparedStatement.posting? (k : Key) (x : PreparedStatement) : StatementStatus → Option Int
  | .applied _ _ => x.command.toOption.bind (·.change? k)
  | _ => none

/-- what statements added to a counter, by their outcomes -/
def postings (k : Key) (l : List PreparedStatement) (outcomes : List StatementOutcome) : List Int :=
  (l.zip outcomes).filterMap fun p => p.1.posting? k p.2.status

instance (k : Key) (x : PreparedStatement) : Decidable (x.Counts k) :=
  match h : x.command with
  | .error e => .isTrue fun c hc => by
    rw [h] at hc
    cases hc
  | .ok c => decidable_of_iff (c.key = k → (c.change? k).isSome) <| by
    unfold PreparedStatement.Counts
    simp [h, Option.isSome_iff_exists]

theorem Command.change?_of_ne {c : Command} (h : c.key ≠ k) : c.change? k = none := by
  unfold change?
  split
  · exact if_neg h
  · exact if_neg h
  · rfl

theorem PreparedStatement.posting?_of_ne {x : PreparedStatement} {c : Command} (hc : x.command = .ok c)
    (h : c.key ≠ k) (status : StatementStatus) : x.posting? k status = none := by
  unfold posting?
  split
  · rw [hc]
    exact Command.change?_of_ne h
  · rfl

theorem postings_cons (k : Key) (x : PreparedStatement) (l : List PreparedStatement) (o : StatementOutcome)
    (outcomes : List StatementOutcome) :
    postings k (x :: l) (o :: outcomes) = (x.posting? k o.status).toList ++ postings k l outcomes := by
  unfold postings
  rw [List.zip_cons_cons, List.filterMap_cons]
  cases x.posting? k o.status <;> rfl

theorem postings_of_notRun (k : Key) (l : List PreparedStatement) :
    postings k l (l.map fun x => ⟨x.index, x.text, .notRun⟩) = [] := by
  induction l with
  | nil => rfl
  | cons x l ih =>
    rw [List.map_cons, postings_cons, ih]
    rfl

theorem Command.change?_eq_some {c : Command} (h : c.change? k = some d) :
    ∃ n : Int64, c = ⟨.inc, k, some (.number (.int n))⟩ ∧ d = n.toInt ∨
      c = ⟨.dec, k, some (.number (.int n))⟩ ∧ d = -n.toInt := by
  obtain ⟨kind, key, operand⟩ := c
  unfold change? at h
  split at h
  · rename_i n hkind hoperand
    split_ifs at h with hkey
    obtain rfl := Option.some.inj h
    dsimp only at hkind hoperand hkey
    subst hkind hoperand hkey
    exact ⟨n, .inl ⟨rfl, rfl⟩⟩
  · rename_i n hkind hoperand
    split_ifs at h with hkey
    obtain rfl := Option.some.inj h
    dsimp only at hkind hoperand hkey
    subst hkind hoperand hkey
    exact ⟨n, .inr ⟨rfl, rfl⟩⟩
  · cases h

namespace Store

variable {x : PreparedStatement} {l : List PreparedStatement}

theorem turns_apply {c : Command} (hd : c.change? k = some d) (ha : s.keys.Accepts k) (hv : s.counter? k = some v)
    (time : Nat) : c.key = k ∧ ∃ step, apply time c = some <$> step ∧ Turns s k v d (step s) := by
  have hk : s.resolve (.key k) = .ok k := Result.mapError_eq_ok.2 (KeyRules.resolve_key ha)
  obtain ⟨n, ⟨rfl, rfl⟩ | ⟨rfl, rfl⟩⟩ := Command.change?_eq_some hd
  · exact ⟨rfl, increment time (.key k) (.int n), rfl, turns_transform hk hv .increment n⟩
  · exact ⟨rfl, decrement time (.key k) (.int n), rfl, turns_decrement hk hv n⟩

/-- a statement that counts is carried out, or it overflows and changes nothing -/
theorem applyStatement_of_change? {c : Command} (hc : x.command = .ok c) (hd : c.change? k = some d)
    (ha : s.keys.Accepts k) (hv : s.counter? k = some v) (time : Nat) :
    (∃ value t, s.applyStatement time x = (.applied k value, t) ∧ t.counter? k = some (v + d)) ∨
      Overflows v d ∧ ∃ raw delta, s.applyStatement time x = (.failed (.coercion (.overflow raw delta)), s) := by
  obtain ⟨rfl, step, hstep, hturn⟩ := turns_apply hd ha hv time
  generalize hr : step s = r at hturn
  cases hturn with
  | @counted raw t counter =>
    have happly : apply time c s = (.ok (some raw), t) := hstep ▸ map_eq_ok.2 ⟨raw, hr, rfl⟩
    exact .inl ⟨some raw, t, by simp only [applyStatement, hc, happly], counter⟩
  | overflowed raw delta range =>
    have happly : apply time c s = (.error (.coercion (.overflow raw delta)), s) := hstep ▸ map_eq_error.2 hr
    exact .inr ⟨range, raw, delta, by simp only [applyStatement, hc, happly]⟩

/-- **A statement on a counter**, or on another key, adds to it what its outcome says. -/
theorem counter?_applyStatement (hx : x.Counts k) (ha : s.keys.Accepts k) (hv : s.counter? k = some v) (time : Nat) :
    (s.applyStatement time x).2.counter? k =
      some (v + (x.posting? k (s.applyStatement time x).1).toList.sum) := by
  cases hc : x.command with
  | error e =>
    rw [applyStatement_of_error hc]
    simpa [PreparedStatement.posting?] using hv
  | ok c =>
    by_cases hkey : c.key = k
    · obtain ⟨d, hd⟩ := hx c hc hkey
      rcases applyStatement_of_change? hc hd ha hv time with ⟨value, t, h, ht⟩ | ⟨-, raw, delta, h⟩
      · rw [h]
        simpa [PreparedStatement.posting?, hc, hd, Except.toOption] using ht
      · rw [h]
        simpa [PreparedStatement.posting?] using hv
    · rw [PreparedStatement.posting?_of_ne hc hkey, Option.toList_none, List.sum_nil, Int.add_zero, ← hv]
      have hother : ∀ y ∈ [x], ∀ c', y.command = .ok c' → c'.key ≠ k := by
        intro y hy c' hc'
        obtain rfl := List.mem_singleton.1 hy
        obtain rfl := Except.ok.inj (hc.symm.trans hc')
        exact hkey
      have hkept : (runStatements .abortRemaining time false s [x]).2.data[k]? = s.data[k]? :=
        getElem?_runStatements_of_unnamed hother .abortRemaining false s
      exact counter?_congr hkept

/-- **Statements keep the ledger.** -/
theorem counter?_runStatements (hl : ∀ x ∈ l, x.Counts k) (ha : s.keys.Accepts k) (hv : s.counter? k = some v)
    (time : Nat) (policy : ErrorPolicy) :
    let run := runStatements policy time false s l
    run.2.counter? k = some (v + (postings k l run.1).sum) := by
  induction l generalizing s v with
  | nil => exact hv.trans (congrArg some (Int.add_zero v).symm)
  | cons x l ih =>
    obtain ⟨hx, hl⟩ := List.forall_mem_cons.1 hl
    have hstep := counter?_applyStatement hx ha hv time
    have ha' : (s.applyStatement time x).2.keys.Accepts k := (tracks_applyStatement s time x).frame.keys ▸ ha
    rw [runStatements_cons]
    simp only [postings_cons, List.sum_append, ← Int.add_assoc]
    cases isFailure (s.applyStatement time x).1 && policy = .abortRemaining with
    | false => exact ih hl ha' hstep
    | true =>
      simp only [runStatements_true, postings_of_notRun, List.sum_nil, Int.add_zero]
      exact hstep

theorem counter?_execute {script : PreparedScript} (hx : ∀ x ∈ script.statements, x.Counts k) (ha : s.keys.Accepts k)
    (hv : s.counter? k = some v) (time : Nat) (policy : ErrorPolicy) :
    (s.execute time script policy).2.counter? k =
      some (v + (postings k script.statements (s.execute time script policy).1.outcomes).sum) :=
  counter?_runStatements (s := { s with source := .query }) hx ha hv time policy

end Store

/-! ## Actions -/

namespace Engine

open Store

variable {e : Engine} {a : Action} {actions : List (Nat × Action)}

/-- the action works with the key as a counter, or spares it -/
def Action.Counts (k : Key) (e : Engine) : Action → Prop
  | .increment ref amount | .decrement ref amount => e.store.resolve ref = .ok k → ∃ n, amount = .int n
  | .runScript script _ => ∀ x ∈ (e.prepare script).statements, x.Counts k
  | .execute script _ => ∀ x ∈ script.statements, x.Counts k
  | a => a.Spares k e

/-- what an action added to a counter, by its answer -/
def Action.postings (k : Key) (e : Engine) : Action → Except StoreError Answer → List Int
  | .increment ref (.int n), .ok _ => if e.store.resolve ref = .ok k then [n.toInt] else []
  | .decrement ref (.int n), .ok _ => if e.store.resolve ref = .ok k then [-n.toInt] else []
  | .runScript script _, .ok (.report report) => ScopedStore.postings k (e.prepare script).statements report.outcomes
  | .execute script _, .ok (.report report) => ScopedStore.postings k script.statements report.outcomes
  | _, _ => []

/-- each of the actions works with the key as a counter, or spares it, when it is its turn -/
def Counted (k : Key) (e : Engine) : List (Nat × Action) → Prop
  | [] => True
  | (time, a) :: actions => a.Counts k e ∧ Counted k (e.perform time a).2 actions

/-- what actions added to a counter, one after the other -/
def ledger (k : Key) (e : Engine) : List (Nat × Action) → List Int
  | [] => []
  | (time, a) :: actions => a.postings k e (e.perform time a).1 ++ ledger k (e.perform time a).2 actions

/-- the action is a step on the counter, by `d` -/
inductive Action.Posts (k : Key) (e : Engine) : Action → Int → Prop where
  | increment {ref : KeyRef} (h : e.store.resolve ref = .ok k) (n : Int64) : Posts k e (.increment ref (.int n)) n.toInt
  | decrement {ref : KeyRef} (h : e.store.resolve ref = .ok k) (n : Int64) :
      Posts k e (.decrement ref (.int n)) (-n.toInt)

/-- **A direct step** is carried out, or it overflows and changes nothing. -/
theorem perform_of_posts (h : a.Posts k e d) (hv : e.store.counter? k = some v) (time : Nat) :
    (∃ raw after, e.perform time a = (.ok (.text raw), after) ∧ after.store.counter? k = some (v + d)) ∨
      Overflows v d ∧ ∃ raw delta, e.perform time a = (.error (.coercion (.overflow raw delta)), e) := by
  obtain ⟨step, hstep, hturn⟩ : ∃ step : Attempt Store String, attempt time a = Answer.text <$> onStore step ∧
      Turns e.store k v d (step e.store) := by
    cases h with
    | increment hk n => exact ⟨_, rfl, turns_transform hk hv .increment n⟩
    | decrement hk n => exact ⟨_, rfl, turns_decrement hk hv n⟩
  have hperform := perform_onStore hstep e
  generalize step e.store = r at hturn hperform
  cases hturn with
  | counted raw counter => exact .inl ⟨raw, _, hperform, counter⟩
  | overflowed raw delta range => exact .inr ⟨range, raw, delta, hperform⟩

theorem Action.Posts.postings_ok (h : a.Posts k e d) (answer : Answer) : a.postings k e (.ok answer) = [d] := by
  cases h with
  | increment hk n => exact if_pos hk
  | decrement hk n => exact if_pos hk

theorem Action.Posts.postings_error (h : a.Posts k e d) (error : StoreError) : a.postings k e (.error error) = [] := by
  cases h <;> rfl

theorem counter?_of_posts (h : a.Posts k e d) (hv : e.store.counter? k = some v) (time : Nat) :
    (e.perform time a).2.store.counter? k = some (v + (a.postings k e (e.perform time a).1).sum) := by
  rcases perform_of_posts h hv time with ⟨raw, after, hp, hafter⟩ | ⟨-, raw, delta, hp⟩
  · rw [hp, h.postings_ok, List.sum_singleton]
    exact hafter
  · rw [hp, h.postings_error, List.sum_nil, Int.add_zero]
    exact hv

theorem counter?_of_spares (h : a.Spares k e) (hp : ∀ r, a.postings k e r = []) (hv : e.store.counter? k = some v)
    (time : Nat) : (e.perform time a).2.store.counter? k = some (v + (a.postings k e (e.perform time a).1).sum) := by
  rw [hp, List.sum_nil, Int.add_zero, counter?_congr (getElem?_perform_of_spares h time)]
  exact hv

theorem postings_of_not_resolved {ref : KeyRef} (h : e.store.resolve ref ≠ .ok k) (amount : Number)
    (r : Except StoreError Answer) :
    (Action.increment ref amount).postings k e r = [] ∧ (Action.decrement ref amount).postings k e r = [] := by
  cases amount with
  | double d => exact ⟨rfl, rfl⟩
  | int n =>
    cases r with
    | error error => exact ⟨rfl, rfl⟩
    | ok answer => exact ⟨if_neg h, if_neg h⟩

/-- **What an action does to a counter.** -/
theorem counter?_perform (h : a.Counts k e) (ha : e.store.keys.Accepts k) (hv : e.store.counter? k = some v)
    (time : Nat) :
    (e.perform time a).2.store.counter? k = some (v + (a.postings k e (e.perform time a).1).sum) := by
  cases a with
  | increment ref amount =>
    by_cases hk : e.store.resolve ref = .ok k
    · obtain ⟨n, rfl⟩ := h hk
      exact counter?_of_posts (.increment hk n) hv time
    · refine counter?_of_spares ?_ (fun r => (postings_of_not_resolved hk amount r).1) hv time
      exact hk
  | decrement ref amount =>
    by_cases hk : e.store.resolve ref = .ok k
    · obtain ⟨n, rfl⟩ := h hk
      exact counter?_of_posts (.decrement hk n) hv time
    · refine counter?_of_spares ?_ (fun r => (postings_of_not_resolved hk amount r).2) hv time
      exact hk
  | runScript script policy =>
    have hrun := counter?_execute h ha hv time policy
    change (e.runScriptWith time script policy).2.store.counter? k =
      some (v + (ScopedStore.postings k _ (e.runScriptWith time script policy).1.outcomes).sum)
    rw [store_runScriptWith, outcomes_runScriptWith]
    exact hrun
  | execute script policy => exact counter?_execute h ha hv time policy
  | _ =>
    refine counter?_of_spares ?_ (fun _ => rfl) hv time
    exact h

theorem Counted.take (h : Counted k e actions) (i : Nat) : Counted k e (actions.take i) := by
  induction actions generalizing e i with
  | nil => simp [Counted]
  | cons step actions ih =>
    cases i with
    | zero => trivial
    | succ i => exact ⟨h.1, ih h.2 i⟩

/-- **Runs keep the ledger.** -/
theorem counter?_run (hr : Reachable e) (ha : e.store.keys.Accepts k) (hv : e.store.counter? k = some v)
    (h : Counted k e actions) : (e.run actions).store.counter? k = some (v + (ledger k e actions).sum) := by
  induction actions generalizing e v with
  | nil => exact hv.trans (congrArg some (Int.add_zero v).symm)
  | cons step actions ih =>
    obtain ⟨time, a⟩ := step
    have hkeys : (e.perform time a).2.store.keys = e.store.keys := (perform_effect hr.inv.user time a).settled.keys
    have hstep := counter?_perform h.1 ha hv time
    rw [run_cons, ledger, List.sum_append, ← Int.add_assoc]
    exact ih (hr.perform time a) (hkeys ▸ ha) hstep h.2

end Engine

/-! ## Main result -/

open Engine Store

/-- the error says that a number is out of range -/
def StoreError.IsOverflow (error : StoreError) : Prop := ∃ raw delta, error = .coercion (.overflow raw delta)

/-- **Counters keep a ledger.** Let an accepted key of a reachable engine be absent or hold an integer, and take any
actions that work with the key as a counter, directly or in scripts, or spare it. At any moment, the key holds its first
value and the sum of the amounts that were added, less those that were taken off, by the steps that succeeded. A direct
step that fails then is one with a change or a new value that is out of range; it overflows and changes nothing. The
same holds of every moment of a script. Apart from keys: what is worked out for a text and a number is a text that is
read as an integer, the sum of both, when both are integers, and as a double otherwise; so it does not stop being a
number, and a double stays one. -/
theorem counters_keep_a_ledger {e : Engine} (hr : Reachable e) {k : Key} (ha : e.store.keys.Accepts k) {v : Int}
    (hv : e.store.counter? k = some v) {actions : List (Nat × Action)} (h : Counted k e actions) :
    (∀ i,
      let now := e.run (actions.take i)
      let value := v + (ledger k e (actions.take i)).sum
      now.store.counter? k = some value ∧
        (∀ time a d error after, a.Posts k now d → now.perform time a = (.error error, after) →
          error.IsOverflow ∧ Overflows value d ∧ after = now) ∧
        ∀ policy time (l : List PreparedStatement), (∀ x ∈ l, x.Counts k) → ∀ j,
          let done := runStatements policy time false { now.store with source := .query } (l.take j)
          let value := value + (postings k (l.take j) done.1).sum
          done.2.counter? k = some value ∧
            ∀ x c d error after, x.command = .ok c → c.change? k = some d →
              done.2.applyStatement time x = (.failed error, after) →
                error.IsOverflow ∧ Overflows value d ∧ after = done.2) ∧
      (∀ raw delta text, addToText raw delta = .ok text →
        (∃ current sum, Number.read raw = some current ∧ Number.read text = some sum ∧ Number.IsSum current delta sum) ∧
          ∀ delta' cause, addToText text delta' = .error cause → cause = .overflow text delta'.render) ∧
      ∀ raw d (deltas : List Number), Number.read raw = some (.double d) →
        ∃ text d', deltas.foldlM addToText raw = .ok text ∧ Number.read text = some (.double d') := by
  refine ⟨fun i => ?_, fun raw delta text htext => ?_, fun raw d deltas hd => foldlM_addToText_of_double hd deltas⟩
  · intro now value
    have hnow : now.store.counter? k = some value := counter?_run hr ha hv (h.take i)
    have hkeys : now.store.keys = e.store.keys := (hr.inv.settled_run (actions.take i)).keys
    refine ⟨hnow, fun time a d error after hp hf => ?_, fun policy time l hl j => ?_⟩
    · rcases perform_of_posts hp hnow time with ⟨raw, _, hok, -⟩ | ⟨hrange, raw, delta, herror⟩
      · cases hok.symm.trans hf
      · obtain ⟨hcause, rfl⟩ := Prod.mk.inj (herror.symm.trans hf)
        exact ⟨⟨raw, delta, (Except.error.inj hcause).symm⟩, hrange, rfl⟩
    · intro done value'
      have hstart : ({ now.store with source := .query } : Store).keys.Accepts k := hkeys ▸ ha
      have hdone : done.2.counter? k = some value' :=
        counter?_runStatements (fun x hx => hl x (List.mem_of_mem_take hx)) hstart hnow time policy
      have hframe : Frame { now.store with source := .query } done.2 := frame_runStatements policy time _ (l.take j)
      have haccepts : done.2.keys.Accepts k := hframe.keys ▸ hstart
      refine ⟨hdone, fun x c d error after hc hd hf => ?_⟩
      rcases applyStatement_of_change? hc hd haccepts hdone time with ⟨_, _, hok, -⟩ | ⟨hrange, raw, delta, herror⟩
      · cases hok.symm.trans hf
      · obtain ⟨hcause, rfl⟩ := Prod.mk.inj (herror.symm.trans hf)
        exact ⟨⟨raw, delta, (StatementStatus.failed.inj hcause).symm⟩, hrange, rfl⟩
  · obtain ⟨current, sum, hcurrent, hsum, his⟩ := isSum_of_addToText htext
    exact ⟨⟨current, sum, hcurrent, hsum, his⟩, fun delta' cause hcause => (overflow_of_addToText hsum hcause).1⟩

/-- steps on one key, direct and in a script, of which two overflow, among operations on another key -/
def countedActions : List (Nat × Action) :=
  [(1, .increment (.text "env:a") (.int 5)),
    (2, .runScript "dec env:a 20; clear env:b; inc env:a 9223372036854775807; inc env:a 9; inc env:a 1"
      .skipAndContinue),
    (3, .decrement (.key ⟨"env", "a"⟩) (.int Int64.minValue)), (4, .importRaw [("env:b", "x")] .overwrite),
    (5, .clear (.text "env:b")), (6, .decrement (.text "env:a") (.int 3))]

/-- the sample engine with a counter -/
def countedSample : Engine := (sample.perform 0 (.set (.key ⟨"env", "a"⟩) "007")).2

theorem sample_counters_keep_a_ledger :
    let a : Key := ⟨"env", "a"⟩
    let e := (sample.perform 0 (.set (.key a) "007")).2
    e.store.counter? a = some 7 ∧ ledger a e countedActions = [5, -20, 9223372036854775807, 1, -3] ∧
      (e.run countedActions).store.counter? a = some 9223372036854775797 ∧
      ∃ text d, [Number.int 1, .int 2].foldlM addToText "1.5" = .ok text ∧ Number.read text = some (.double d) := by
  have hresolve : countedSample.store.resolve (.key ⟨"env", "a"⟩) = .ok ⟨"env", "a"⟩ := by decide +kernel
  have hv : countedSample.store.counter? ⟨"env", "a"⟩ = some 7 := by decide +kernel
  have hcounted : Counted ⟨"env", "a"⟩ countedSample countedActions := by
    refine ⟨fun _ => ⟨5, rfl⟩, ?_, fun _ => ⟨_, rfl⟩, ?_, ?_, fun _ => ⟨3, rfl⟩, trivial⟩
    · change ∀ x ∈ (Engine.prepare _ _).statements, x.Counts ⟨"env", "a"⟩
      decide +kernel
    · change ∀ x ∈ [("env:b", "x")], x.1 ≠ Key.text ⟨"env", "a"⟩
      decide
    · change ¬_ = _
      decide +kernel
  have hledger : ledger ⟨"env", "a"⟩ countedSample countedActions = [5, -20, 9223372036854775807, 1, -3] := by
    decide +kernel
  obtain ⟨hrun, -, hdoubles⟩ :=
    counters_keep_a_ledger (reachable_sample.perform 0 _) (accepts_of_resolve hresolve) hv hcounted
  have hend : (countedSample.run countedActions).store.counter? ⟨"env", "a"⟩ =
      some (7 + (ledger ⟨"env", "a"⟩ countedSample countedActions).sum) := (hrun 6).1
  have hread : Number.read "1.5" = some (.double (Double.ofDecimal false 15 (-1))) := by decide +kernel
  rw [hledger] at hend
  exact ⟨hv, hledger, hend, hdoubles "1.5" _ [.int 1, .int 2] hread⟩

end ScopedStore
