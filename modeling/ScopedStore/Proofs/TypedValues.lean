/-
Typed values, and reading them back.

`ScalarCodec.read_encode`: the text that is written for a value is read as that value. Numbers are read back whatever the
configuration, and booleans because a consistent one has literals for both, and none for both. So typed reads have no
occasion for a failure strategy (`ScalarCodec.decode_encode`). A number that is added to the text of a double leaves the
text of a double (`addToText_of_double`), and so do all that are added after it (`Store.transforms_of_double`).

Main result, `typed_values_are_read_back`: a typed value that is set is read back as it is, and a double that is set stays
a double under any increments and decrements.
-/
import ScopedStore.Proofs.Consistency
import ScopedStore.Proofs.DoubleText
import ScopedStore.Proofs.Effect
import ScopedStore.Proofs.Invariant

namespace ScopedStore

/-! ## Texts of values -/

/-- there are literals for both truth values, and none stands for both -/
structure BoolLiterals.Proper (literals : BoolLiterals) : Prop where
  hasTrue : literals.trueLiterals ≠ []
  hasFalse : literals.falseLiterals ≠ []
  disjoint : ∀ text ∈ literals.trueLiterals, text ∉ literals.falseLiterals

theorem Config.proper_of_validate {config : Config} (h : config.validate = .ok ()) : config.boolLiterals.Proper := by
  have hcheck := (consistentUpToEnums_of_validate h).boolLiterals
  unfold checkBoolLiterals at hcheck
  simp only at hcheck
  split at hcheck
  · cases hcheck
  · rename_i hempty
    split at hcheck
    · cases hcheck
    · rename_i hnone
      simp only [Bool.or_eq_true, List.isEmpty_iff, not_or] at hempty
      refine ⟨hempty.1, hempty.2, fun text htrue hfalse => ?_⟩
      exact List.find?_eq_none.1 hnone text htrue (List.contains_iff_mem.2 hfalse)

namespace ScalarCodec

variable {codec : ScalarCodec}

theorem headD_mem {l : List String} (h : l ≠ []) (fallback : String) : l.headD fallback ∈ l := by
  cases l with
  | nil => exact absurd rfl h
  | cons text l => exact List.mem_cons_self

/-- **The text that is written for a value is read as that value.** -/
theorem read_encode (h : codec.bools.Proper) (v : Scalar) : codec.read v.type (codec.encode v) = .ok v := by
  cases v with
  | bool value =>
    cases value with
    | true => exact if_pos (headD_mem h.hasTrue "true")
    | false =>
      -- true literals are tried first, so the text must not be one of them
      have hfalse := headD_mem h.hasFalse "false"
      have htrue : codec.bools.falseLiterals.headD "false" ∉ codec.bools.trueLiterals := fun htrue =>
        h.disjoint _ htrue hfalse
      exact (if_neg htrue).trans (if_pos hfalse)
  | int i =>
    unfold read encode
    simp only [Scalar.type, Number.readInt64_writeInt64]
  | double d =>
    unfold read encode
    simp only [Scalar.type, Double.read_write]

/-- a text that reads is no case for the failure strategy -/
theorem decode_encode (h : codec.bools.Proper) (v : Scalar) :
    codec.decode v.type (codec.encode v) = .ok (.value v) := by
  unfold decode
  rw [read_encode h v]

end ScalarCodec

/-! ## Stores -/

namespace Store

open Attempt

variable {s : Store} {k : KeyRef} {key : Key}

theorem set_of_accepted (hk : s.resolve k = .ok key) (time : Nat) (raw : String) :
    set time k raw s = (.ok (), s.write time .set key raw) :=
  bind_eq_ok.2 ⟨raw, _, revise_of_ok hk rfl time .set, rfl⟩

theorem setAs_of_accepted (hk : s.resolve k = .ok key) (time : Nat) (v : Scalar) :
    setAs time k v s = (.ok (), s.write time .set key (s.config.scalarCodec.encode v)) :=
  (look_bind_of_ok (g := fun s : Store => .ok (s.config.scalarCodec.encode v)) rfl).trans (set_of_accepted hk time _)

/-- a typed read reads the text of the key -/
theorem getAs_of_found {raw : String} (hk : s.resolve k = .ok key) (hraw : s.data[key]? = some raw) (type : ScalarType) :
    s.getAs type k = ((s.config.scalarCodec.decode type raw).map some).mapError .coercion := by
  have hget : s.getRaw k = .ok (some raw) := by
    unfold getRaw
    rw [hk, ← hraw]
    rfl
  unfold getAs
  rw [hget]
  cases h : s.config.scalarCodec.decode type raw <;> simp only [h, bind, Except.bind] <;> rfl

/-- a key that holds the text of a value is read as that value -/
theorem getAs_of_encoded (h : s.config.boolLiterals.Proper) (hk : s.resolve k = .ok key) {v : Scalar}
    (hraw : s.data[key]? = some (s.config.scalarCodec.encode v)) : s.getAs v.type k = .ok (some (.value v)) := by
  have hdecode : s.config.scalarCodec.decode v.type (s.config.scalarCodec.encode v) = .ok (.value v) :=
    ScalarCodec.decode_encode h v
  rw [getAs_of_found hk hraw, hdecode]
  rfl

/-! ## Counting on -/

/-- adds numbers to what a key holds, one after the other, each at its time and as its operation -/
def transforms (k : KeyRef) (steps : List (Nat × Operation × Number)) (s : Store) : Store :=
  steps.foldl (fun s (time, operation, delta) => (transform time operation k delta s).2) s

/-- the double that numbers come to when they are added to it, one after the other -/
def sum (d : Double) (steps : List (Nat × Operation × Number)) : Double :=
  steps.foldl (fun d (_, _, delta) => d + delta.toDouble) d

theorem transform_of_double {d : Double} (hk : s.resolve k = .ok key) (hraw : s.data[key]? = some d.write) (time : Nat)
    (operation : Operation) (delta : Number) : transform time operation k delta s =
      (.ok (d + delta.toDouble).write, s.write time operation key (d + delta.toDouble).write) := by
  have hread : Number.read d.write = some (.double d) := Number.read_render (.double d)
  refine revise_of_ok hk ?_ time operation
  rw [Std.ExtTreeMap.getD_eq_getD_getElem?, hraw, Option.getD_some, addToText_of_double hread]
  rfl

/-- **A double stays a double**, whatever is added to it. -/
theorem transforms_of_double {d : Double} (hk : s.resolve k = .ok key) (hraw : s.data[key]? = some d.write)
    (steps : List (Nat × Operation × Number)) : Frame s (s.transforms k steps) ∧
      (s.transforms k steps).data[key]? = some (sum d steps).write := by
  induction steps generalizing s d with
  | nil => exact ⟨.refl s, hraw⟩
  | cons step steps ih =>
    obtain ⟨time, operation, delta⟩ := step
    have hstep := transform_of_double hk hraw time operation delta
    have hwritten : (s.write time operation key (d + delta.toDouble).write).data[key]? = some (d + delta.toDouble).write :=
      Std.ExtTreeMap.getElem?_insert_self
    have hframe : Frame s (s.write time operation key (d + delta.toDouble).write) := ⟨rfl, rfl, rfl⟩
    obtain ⟨hrest, hsum⟩ := ih (s := s.write time operation key (d + delta.toDouble).write) hk hwritten
    have hrun : s.transforms k ((time, operation, delta) :: steps) =
        (s.write time operation key (d + delta.toDouble).write).transforms k steps :=
      congrArg (fun r : Except StoreError String × Store => r.2.transforms k steps) hstep
    rw [hrun]
    exact ⟨hframe.trans hrest, hsum⟩

end Store

/-! ## Main result -/

open Store

/-- **Typed values are read back.** In a store with a consistent configuration, whatever its failure strategy is: to set a
boolean, an integer or a double at an accepted key succeeds, and to read the key as the same type gives that value, not a
fallback or a failure. The text of an integer is read as that integer and the text of a double as that double, infinities,
negative zero and NaN included, where numbers of both kinds may stand; so a double that was set remains one, however many
numbers are added to it. -/
theorem typed_values_are_read_back {s : Store} (h : s.config.validate = .ok ()) :
    (∀ k key, s.resolve k = .ok key → ∀ time v, ∃ t, setAs time k v s = (.ok (), t) ∧
      t.getAs v.type k = .ok (some (.value v))) ∧
    (∀ i, Number.read (s.config.scalarCodec.encode (.int i)) = some (.int i)) ∧
    (∀ d, Number.read (s.config.scalarCodec.encode (.double d)) = some (.double d)) ∧
    ∀ k key, s.resolve k = .ok key → ∀ time d steps,
      let t := (setAs time k (.double d) s).2.transforms k steps
      t.getAs .double k = .ok (some (.value (.double (sum d steps)))) ∧
        t.data[key]?.bind Number.read = some (.double (sum d steps)) := by
  have hproper : s.config.boolLiterals.Proper := Config.proper_of_validate h
  refine ⟨fun k key hk time v => ?_, fun i => Number.read_render (.int i), fun d => Number.read_render (.double d),
    fun k key hk time d steps => ?_⟩
  · refine ⟨_, setAs_of_accepted hk time v, ?_⟩
    exact getAs_of_encoded (s := s.write time .set key (s.config.scalarCodec.encode v)) hproper hk
      Std.ExtTreeMap.getElem?_insert_self
  · intro t
    have ht : t = (s.write time .set key d.write).transforms k steps :=
      congrArg (fun r : Except StoreError Unit × Store => r.2.transforms k steps) (setAs_of_accepted hk time (.double d))
    obtain ⟨hframe, hsum⟩ := transforms_of_double (s := s.write time .set key d.write) hk
      Std.ExtTreeMap.getElem?_insert_self steps
    rw [← ht] at hframe hsum
    have hconfig : t.config = s.config := hframe.config
    constructor
    · exact getAs_of_encoded (v := .double (sum d steps)) (hconfig ▸ hproper) ((hframe.resolve k).trans hk) hsum
    · rw [hsum, Option.bind_some]
      exact Number.read_render (.double _)

/-- the least integer, negative zero and a boolean are read back, and negative zero counts on as a double -/
theorem sample_typed_values_are_read_back :
    let s := Engine.sample.store
    (∀ v ∈ [Scalar.int Int64.minValue, .double (.zero true), .double .nan, .bool false], ∃ t,
      setAs 1 (.text "env:a") v s = (.ok (), t) ∧ t.getAs v.type (.text "env:a") = .ok (some (.value v))) ∧
    Number.read (s.config.scalarCodec.encode (.int Int64.minValue)) = some (.int Int64.minValue) ∧
    ((setAs 1 (.text "env:a") (.double (.zero true)) s).2.transforms (.text "env:a") [(2, .increment, .int 3)]).getAs
      .double (.text "env:a") = .ok (some (.value (.double (Double.ofInt 3)))) := by
  intro s
  have hvalid : s.config.validate = .ok () := Engine.reachable_sample.consistent
  have hk : s.resolve (.text "env:a") = .ok ⟨"env", "a"⟩ := by decide +kernel
  obtain ⟨hread, hint, -, hcount⟩ := typed_values_are_read_back hvalid
  have hsum : sum (.zero true) [(2, .increment, .int 3)] = Double.ofInt 3 := by decide +kernel
  exact ⟨fun v _ => hread _ _ hk 1 v, hint _, hsum ▸ (hcount _ _ hk 1 (.zero true) [(2, .increment, .int 3)]).1⟩

end ScopedStore
