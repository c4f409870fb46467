/-
Decrements as subtraction.

A decrement adds the opposite of its amount. The least 64-bit integer has no opposite and is refused at once
(`decrement_minValue`), whatever the key is and whatever it holds. For any other amount the two steps come to one exact
subtraction: `addToText_of_inRange` and `addToText_of_sum_outOfRange` say when an integer text has a sum with an integer.

Main result, `decrements_subtract`: a decrement by any amount but the least refuses the keys that the rules refuse, takes
the amount off an integer when the difference is in range, and overflows otherwise.
-/
import ScopedStore.Proofs.Counters
import ScopedStore.Proofs.NumericText

namespace ScopedStore

/-! ## Integers in texts -/

namespace Number

theorem exists_int64? {i : Int} (h : ¬OutOfRange i) : ∃ n, int64? i = some n :=
  Option.ne_none_iff_exists'.1 (mt int64?_eq_none.1 h)

/-- an integer text in range is read as its integer -/
theorem read_of_isInteger {s : String} {v : Int} (h : Text.IsInteger s.toList v) (hv : ¬OutOfRange v) :
    ∃ n, read s = some (.int n) ∧ n.toInt = v := by
  obtain ⟨n, hn⟩ := exists_int64? hv
  refine ⟨n, ?_, toInt_of_int64? hn⟩
  rw [read, hasFractionalMark_of_digits fun c hc => h.char hc, if_neg Bool.false_ne_true, readInt64,
    Text.readInt_eq_some.2 h, Option.bind_some, hn, Option.map_some]

end Number

section Sums

variable {raw : String} {v : Int} {n : Int64}

/-- **A sum in range is written in base ten.** -/
theorem addToText_of_inRange (h : Text.IsInteger raw.toList v) (hv : ¬Number.OutOfRange v)
    (hsum : ¬Number.OutOfRange (v + n.toInt)) :
    addToText raw (.int n) = .ok (String.ofList (Text.intDigits (v + n.toInt))) := by
  obtain ⟨current, hread, rfl⟩ := Number.read_of_isInteger h hv
  obtain ⟨sum, hint⟩ := Number.exists_int64? hsum
  unfold addToText
  rw [hread]
  simp only [Number.add?, hint, Option.map_some]
  rw [← Number.toInt_of_int64? hint]
  rfl

theorem addToText_of_sum_outOfRange (h : Text.IsInteger raw.toList v) (hv : ¬Number.OutOfRange v)
    (hsum : Number.OutOfRange (v + n.toInt)) :
    addToText raw (.int n) = .error (.overflow raw (Number.int n).render) := by
  obtain ⟨current, hread, rfl⟩ := Number.read_of_isInteger h hv
  unfold addToText
  rw [hread]
  simp only [Number.add?, Number.int64?_eq_none.2 hsum, Option.map_none]

end Sums

/-! ## Steps -/

namespace Store

variable {s : Store} {time : Nat} {ref : KeyRef} {k : Key} {v : Int} {n : Int64}

/-- a revision writes the same text, whatever the operation is called -/
theorem data_revise_congr (f : Store → Key → Except StoreError String) (s : Store) (time : Nat) (ref : KeyRef)
    (operation operation' : Operation) :
    (revise time operation ref f s).1 = (revise time operation' ref f s).1 ∧
      (revise time operation ref f s).2.data = (revise time operation' ref f s).2.data := by
  cases hk : s.resolve ref with
  | error e =>
    rw [revise_of_refused hk, revise_of_refused hk]
    exact ⟨rfl, rfl⟩
  | ok k =>
    cases hf : f s k with
    | error e =>
      rw [revise_of_error hk hf, revise_of_error hk hf]
      exact ⟨rfl, rfl⟩
    | ok raw =>
      rw [revise_of_ok hk hf, revise_of_ok hk hf]
      exact ⟨rfl, rfl⟩

/-- **The least integer is refused** before the key is looked at. -/
theorem decrement_minValue (s : Store) (time : Nat) (ref : KeyRef) : decrement time ref (.int Int64.minValue) s =
    (.error (.coercion (.overflow "0" "--9223372036854775808")), s) := by
  unfold decrement
  rw [Number.neg?_eq_none.2 rfl]
  rfl

/-- any other integer has an opposite, and to decrement by it is to add that -/
theorem decrement_eq_transform (hn : n ≠ Int64.minValue) :
    ∃ m : Int64, m.toInt = -n.toInt ∧ ∀ time ref, decrement time ref (.int n) = transform time .decrement ref (.int m) := by
  obtain ⟨delta, hdelta⟩ : ∃ delta, (Number.int n).neg? = some delta := by
    refine Option.ne_none_iff_exists'.1 (mt Number.neg?_eq_none.1 fun he => hn ?_)
    exact Number.int.inj he
  obtain ⟨m, hm, rfl⟩ := Option.map_eq_some_iff.1 hdelta
  exact ⟨m, Number.toInt_of_int64? hm, decrement_of_neg? hdelta⟩

end Store

/-! ## Main result -/

open Store

/-- **Decrements subtract.** Take a decrement by any 64-bit integer but the least, on any store. If the rules refuse the
key, their error is the answer. Otherwise let the text of the key, where an absent key counts as `0`, be an integer in
range. The decrement succeeds exactly when the difference is in range, and then gives and writes it in base ten; when it
is out of range, the decrement overflows, names the text of the key and changes nothing. On any key at all, it gives and
writes what an increment by the opposite amount does. -/
theorem decrements_subtract {n : Int64} (hn : n ≠ Int64.minValue) (s : Store) (time : Nat) (ref : KeyRef) :
    (∀ cause, s.keys.resolve ref = .error cause → decrement time ref (.int n) s = (.error (.key cause), s)) ∧
    (∀ k v, s.keys.resolve ref = .ok k → Text.IsInteger (s.data.getD k "0").toList v → ¬Number.OutOfRange v →
      let difference := v - n.toInt
      let text := String.ofList (Text.intDigits difference)
      (¬Number.OutOfRange difference →
        decrement time ref (.int n) s = (.ok text, s.write time .decrement k text)) ∧
      (Number.OutOfRange difference → ∃ delta,
        decrement time ref (.int n) s = (.error (.coercion (.overflow (s.data.getD k "0") delta)), s))) ∧
    ∃ m : Int64, m.toInt = -n.toInt ∧
      (decrement time ref (.int n) s).1 = (increment time ref (.int m) s).1 ∧
      (decrement time ref (.int n) s).2.data = (increment time ref (.int m) s).2.data := by
  obtain ⟨m, hm, htransform⟩ := decrement_eq_transform hn
  rw [htransform]
  refine ⟨fun cause hcause => ?_, fun k v hk hinteger hv => ?_, m, hm, ?_⟩
  · have hrefused : s.resolve ref = .error (.key cause) := Result.mapError_eq_error.2 ⟨cause, hcause, rfl⟩
    exact revise_of_refused hrefused time .decrement _
  · have hresolved : s.resolve ref = .ok k := Result.mapError_eq_ok.2 hk
    intro difference text
    have hdifference : v + m.toInt = difference := by
      rw [hm]
      exact (Int.sub_eq_add_neg).symm
    constructor
    · intro hrange
      have hsum := addToText_of_inRange hinteger hv (hdifference.symm ▸ hrange)
      rw [hdifference] at hsum
      exact revise_of_ok hresolved (Result.mapError_eq_ok.2 hsum) time .decrement
    · intro hrange
      have hsum := addToText_of_sum_outOfRange hinteger hv (hdifference.symm ▸ hrange)
      exact ⟨_, revise_of_error hresolved (Result.mapError_eq_error.2 ⟨_, hsum, rfl⟩) time .decrement⟩
  · exact data_revise_congr _ s time ref .decrement .increment

/-- a key holds the integer before zero -/
def minusOneStore : Store := Engine.sample.store.write 1 .set ⟨"env", "a"⟩ "-1"

/-- the greatest amount leaves the least integer, and what is left has no room for it; an unknown scope is refused -/
theorem decrements_subtract_to_the_least :
    let least := minusOneStore.write 2 .decrement ⟨"env", "a"⟩ "-9223372036854775808"
    decrement 2 (.text "env:a") (.int 9223372036854775807) minusOneStore = (.ok "-9223372036854775808", least) ∧
    (∃ delta, decrement 3 (.text "env:a") (.int 9223372036854775807) least =
      (.error (.coercion (.overflow "-9223372036854775808" delta)), least)) ∧
    decrement 2 (.text "prod:a") (.int 1) minusOneStore = (.error (.key (.unknownScope "prod")), minusOneStore) := by
  intro least
  have hk : minusOneStore.keys.resolve (.text "env:a") = .ok ⟨"env", "a"⟩ := by decide +kernel
  have hraw : minusOneStore.data.getD ⟨"env", "a"⟩ "0" = "-1" := by decide +kernel
  have hleast : least.data.getD ⟨"env", "a"⟩ "0" = "-9223372036854775808" := Std.ExtTreeMap.getD_insert_self
  have hone : Text.IsInteger "-1".toList (-1) := Text.readInt_eq_some.1 (by decide)
  have hinteger : Text.IsInteger "-9223372036854775808".toList (-9223372036854775808) :=
    Text.readInt_eq_some.1 (by decide)
  have hgreatest : (9223372036854775807 : Int64) ≠ Int64.minValue := by decide
  obtain ⟨-, hsubtract, -⟩ := decrements_subtract hgreatest minusOneStore 2 (.text "env:a")
  obtain ⟨-, hoverflow, -⟩ := decrements_subtract hgreatest least 3 (.text "env:a")
  refine ⟨?_, ?_, ?_⟩
  · exact (hsubtract _ (-1) hk (hraw ▸ hone) (by unfold Number.OutOfRange; decide)).1 (by unfold Number.OutOfRange; decide)
  · have hfails := (hoverflow _ (-9223372036854775808) hk (hleast ▸ hinteger) (by unfold Number.OutOfRange; decide)).2
      (.inl (by decide))
    rwa [hleast] at hfails
  · exact (decrements_subtract (by decide) minusOneStore 2 (.text "prod:a")).1 _ (by decide +kernel)

/-- the difference of `-1` and the least integer is in range, and `prod` is no scope; both decrements overflow at `0` -/
theorem least_integer_is_not_subtracted :
    minusOneStore.keys.resolve (.text "env:a") = .ok ⟨"env", "a"⟩ ∧
    minusOneStore.data[(⟨"env", "a"⟩ : Key)]? = some "-1" ∧
    ¬Number.OutOfRange (-1 - Int64.minValue.toInt) ∧
    (decrement 2 (.text "env:a") (.int Int64.minValue) minusOneStore).1 =
      .error (.coercion (.overflow "0" "--9223372036854775808")) ∧
    minusOneStore.keys.resolve (.text "prod:a") = .error (.unknownScope "prod") ∧
    (decrement 2 (.text "prod:a") (.int Int64.minValue) minusOneStore).1 =
      .error (.coercion (.overflow "0" "--9223372036854775808")) := by
  refine ⟨by decide +kernel, by decide +kernel, by unfold Number.OutOfRange; decide, ?_, by decide +kernel, ?_⟩
  · rw [decrement_minValue]
  · rw [decrement_minValue]

end ScopedStore
