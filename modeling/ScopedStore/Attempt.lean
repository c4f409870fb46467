/-
Computations on a state that may fail.

A failure keeps what was done before it: failing undoes nothing. `look` reads the state and may fail, `change` and
`exchange` alter it and do not. `bind_eq_ok` and `bind_eq_error` take a sequence apart.
-/
import ScopedStore.Error

namespace ScopedStore

/-- a computation that ends with a result or an error and leaves a state in either case -/
def Attempt (σ α : Type) : Type := σ → Except StoreError α × σ

namespace Attempt

variable {σ α β : Type}

/-- goes on with the result of the first part; its error ends the whole -/
protected def bind (x : Attempt σ α) (f : α → Attempt σ β) : Attempt σ β := fun s =>
  match x s with
  | (.ok a, t) => f a t
  | (.error e, t) => (.error e, t)

instance : Monad (Attempt σ) where
  pure a := fun s => (.ok a, s)
  bind := Attempt.bind

/-- ends with an error -/
def fail (e : StoreError) : Attempt σ α := fun s => (.error e, s)

/-- reads something off the state, or fails -/
def look (g : σ → Except StoreError α) : Attempt σ α := fun s => (g s, s)

/-- alters the state -/
def change (f : σ → σ) : Attempt σ Unit := fun s => (.ok (), f s)

/-- alters the state and gives something -/
def exchange (f : σ → α × σ) : Attempt σ α := fun s => (.ok (f s).1, (f s).2)

/-! ## How computations end -/

@[simp] theorem pure_eq {a : α} {s t : σ} {r : Except StoreError α} :
    (pure a : Attempt σ α) s = (r, t) ↔ .ok a = r ∧ s = t := Prod.mk.injEq _ _ _ _ ▸ Iff.rfl

@[simp] theorem fail_eq {e : StoreError} {s t : σ} {r : Except StoreError α} :
    (fail e : Attempt σ α) s = (r, t) ↔ .error e = r ∧ s = t := Prod.mk.injEq _ _ _ _ ▸ Iff.rfl

@[simp] theorem look_eq {g : σ → Except StoreError α} {s t : σ} {r : Except StoreError α} :
    look g s = (r, t) ↔ g s = r ∧ s = t := Prod.mk.injEq _ _ _ _ ▸ Iff.rfl

@[simp] theorem change_eq {f : σ → σ} {s t : σ} {r : Except StoreError Unit} :
    change f s = (r, t) ↔ .ok () = r ∧ f s = t := Prod.mk.injEq _ _ _ _ ▸ Iff.rfl

@[simp] theorem exchange_eq {f : σ → α × σ} {s t : σ} {r : Except StoreError α} :
    exchange f s = (r, t) ↔ .ok (f s).1 = r ∧ (f s).2 = t := Prod.mk.injEq _ _ _ _ ▸ Iff.rfl

/-- a sequence succeeds when both of its parts do -/
@[simp] theorem bind_eq_ok {x : Attempt σ α} {f : α → Attempt σ β} {s u : σ} {b : β} :
    (x >>= f) s = (.ok b, u) ↔ ∃ a t, x s = (.ok a, t) ∧ f a t = (.ok b, u) := by
  change Attempt.bind x f s = _ ↔ _
  unfold Attempt.bind
  rcases x s with ⟨_ | a, t⟩ <;> simp [and_assoc]

/-- a sequence fails with its first part, or with its second one after that -/
@[simp] theorem bind_eq_error {x : Attempt σ α} {f : α → Attempt σ β} {s u : σ} {e : StoreError} :
    (x >>= f) s = (.error e, u) ↔
      x s = (.error e, u) ∨ ∃ a t, x s = (.ok a, t) ∧ f a t = (.error e, u) := by
  change Attempt.bind x f s = _ ↔ _
  unfold Attempt.bind
  rcases x s with ⟨_ | a, t⟩ <;> simp [and_assoc]

@[simp] theorem map_eq_ok {x : Attempt σ α} {f : α → β} {s t : σ} {b : β} :
    (f <$> x) s = (.ok b, t) ↔ ∃ a, x s = (.ok a, t) ∧ f a = b := by
  change (x >>= fun a => pure (f a)) s = _ ↔ _
  simp only [bind_eq_ok, pure_eq, Except.ok.injEq]
  exact ⟨fun ⟨a, _, h, hb, ht⟩ => ⟨a, ht ▸ h, hb⟩, fun ⟨a, h, hb⟩ => ⟨a, t, h, hb, rfl⟩⟩

@[simp] theorem map_eq_error {x : Attempt σ α} {f : α → β} {s t : σ} {e : StoreError} :
    (f <$> x) s = (.error e, t) ↔ x s = (.error e, t) := by
  change (x >>= fun a => pure (f a)) s = _ ↔ _
  simp

/-- what is read decides how a computation goes on -/
theorem look_bind_of_ok {g : σ → Except StoreError α} {f : α → Attempt σ β} {s : σ} {a : α} (h : g s = .ok a) :
    (look g >>= f) s = f a s := by
  change Attempt.bind (look g) f s = _
  unfold Attempt.bind look
  rw [h]

theorem look_bind_of_error {g : σ → Except StoreError α} {f : α → Attempt σ β} {s : σ} {e : StoreError}
    (h : g s = .error e) : (look g >>= f) s = (.error e, s) := by
  change Attempt.bind (look g) f s = _
  unfold Attempt.bind look
  rw [h]

/-- turning the result into another one does nothing to the state -/
theorem map_state (x : Attempt σ α) (f : α → β) (s : σ) : ((f <$> x) s).2 = (x s).2 := by
  change (Attempt.bind x (fun a => pure (f a)) s).2 = _
  unfold Attempt.bind
  rcases x s with ⟨_ | a, t⟩ <;> rfl

theorem map_result (x : Attempt σ α) (f : α → β) (s : σ) : ((f <$> x) s).1 = (x s).1.map f := by
  change (Attempt.bind x (fun a => pure (f a)) s).1 = _
  unfold Attempt.bind
  rcases x s with ⟨_ | a, t⟩ <;> rfl

end Attempt
end ScopedStore
