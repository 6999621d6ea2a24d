/-
Computations that may fail: what is known of the steps when a sequence of them
succeeds (`bind_ok_iff`, `mapM_ok`), when it fails (`Fails`), which failures it can end with
(`Avoids`), and when two of them end alike (`Agree`).
-/
import SqlAdapter.Error
import Mathlib.Data.List.Forall2

namespace SqlAdapter.Result

variable {α β : Type}

theorem bind_ok_iff {x : Result α} {f : α → Result β} {b : β} :
    (x >>= f) = .ok b ↔ ∃ a, x = .ok a ∧ f a = .ok b := by
  cases x with
  | ok a =>
    refine ⟨fun h => ⟨a, rfl, h⟩, fun h => ?_⟩
    obtain ⟨_, ha, h⟩ := h
    cases ha
    exact h
  | error e =>
    refine ⟨fun h => (nomatch h), fun h => ?_⟩
    obtain ⟨_, ha, -⟩ := h
    cases ha

theorem bind_error_iff {x : Result α} {f : α → Result β} {e : Failure} :
    (x >>= f) = .error e ↔ x = .error e ∨ ∃ a, x = .ok a ∧ f a = .error e := by
  cases x with
  | ok a =>
    refine ⟨fun h => .inr ⟨a, rfl, h⟩, fun h => ?_⟩
    rcases h with h | ⟨_, ha, h⟩
    · cases h
    · cases ha
      exact h
  | error e' =>
    refine ⟨fun h => .inl (by cases h; rfl), fun h => ?_⟩
    rcases h with h | ⟨_, ha, -⟩
    · cases h
      rfl
    · cases ha

theorem pure_ok_iff {a b : α} : (pure a : Result α) = .ok b ↔ a = b :=
  ⟨fun h => by cases h; rfl, fun h => by rw [h]; rfl⟩

theorem map_ok_iff {x : Result α} {f : α → β} {b : β} : x.map f = .ok b ↔ ∃ a, x = .ok a ∧ f a = b := by
  cases x <;> simp [Except.map]

/-- A list of computations succeeds as a whole with the results of its members. -/
theorem mapM_ok {f : α → Result β} : ∀ {xs : List α} {ys : List β},
    xs.mapM f = .ok ys → List.Forall₂ (fun x y => f x = .ok y) xs ys
  | [], ys, h => by
    rw [List.mapM_nil, pure_ok_iff] at h
    subst h
    exact .nil
  | x :: xs, ys, h => by
    rw [List.mapM_cons, bind_ok_iff] at h
    obtain ⟨y, hy, h⟩ := h
    rw [bind_ok_iff] at h
    obtain ⟨rest, hrest, h⟩ := h
    rw [pure_ok_iff] at h
    subst h
    exact .cons hy (mapM_ok hrest)

theorem mapM_of_forall₂ {f : α → Result β} {xs : List α} {ys : List β}
    (h : List.Forall₂ (fun x y => f x = .ok y) xs ys) : xs.mapM f = .ok ys := by
  induction h with
  | nil => rfl
  | cons hxy _ ih =>
    rw [List.mapM_cons, hxy, ih]
    rfl

/-- Lists match in what two functions make of their members when they are mapped to the same list. -/
theorem forall₂_map_iff {γ : Type} {f : α → γ} {g : β → γ} {xs : List α} {ys : List β} :
    List.Forall₂ (fun x y => f x = g y) xs ys ↔ xs.map f = ys.map g := by
  rw [← List.forall₂_eq_eq_eq, List.forall₂_map_left_iff, List.forall₂_map_right_iff]

theorem forall₂_eq_map_iff {f : α → β} {xs : List α} {ys : List β} :
    List.Forall₂ (fun x y => f x = y) xs ys ↔ xs.map f = ys := by
  rw [← List.forall₂_eq_eq_eq, List.forall₂_map_left_iff]

/-- What follows for each member of a list from its result holds of all members. -/
theorem forall_of_forall₂ {R : α → β → Prop} {P : β → Prop} {xs : List α} {ys : List β} (h : List.Forall₂ R xs ys)
    (hP : ∀ x y, R x y → P y) : ∀ y ∈ ys, P y := by
  induction h with
  | nil => exact fun y hy => (nomatch hy)
  | cons hxy _ ih => exact List.forall_mem_cons.mpr ⟨hP _ _ hxy, ih⟩

/-- A check of each member of a list succeeds when it succeeds on every member. -/
theorem forM_ok_iff {f : α → Result Unit} : ∀ {xs : List α}, xs.forM f = .ok () ↔ ∀ x ∈ xs, f x = .ok ()
  | [] => ⟨fun _ _ h => (nomatch h), fun _ => rfl⟩
  | x :: xs => by
    have hcons : (x :: xs).forM f = (f x >>= fun _ => xs.forM f) := rfl
    rw [hcons, bind_ok_iff, List.forall_mem_cons]
    exact ⟨fun ⟨_, hx, hxs⟩ => ⟨hx, forM_ok_iff.mp hxs⟩, fun ⟨hx, hxs⟩ => ⟨(), hx, forM_ok_iff.mpr hxs⟩⟩

/-! ## Failures -/

/-- A computation that ends with a failure. -/
def Fails (x : Result α) : Prop := ∃ e, x = .error e

theorem not_fails_ok (a : α) : ¬ Fails (.ok a : Result α) := fun ⟨_, h⟩ => nomatch h

theorem fails_error (e : Failure) : Fails (.error e : Result α) := ⟨e, rfl⟩

theorem ok_or_fails (x : Result α) : (∃ a, x = .ok a) ∨ Fails x := by
  cases x with
  | ok a => exact .inl ⟨a, rfl⟩
  | error e => exact .inr (fails_error e)

theorem fails_iff {x : Result α} : Fails x ↔ ∀ a, x ≠ .ok a := by
  rcases ok_or_fails x with ⟨a, rfl⟩ | h
  · exact iff_of_false (not_fails_ok a) fun hall => hall a rfl
  · refine iff_of_true h fun a ha => ?_
    rw [ha] at h
    exact not_fails_ok a h

theorem fails_bind_iff {x : Result α} {f : α → Result β} :
    Fails (x >>= f) ↔ Fails x ∨ ∃ a, x = .ok a ∧ Fails (f a) := by
  simp only [Fails, bind_error_iff]
  constructor
  · rintro ⟨e, hx | ⟨a, ha, hf⟩⟩
    · exact .inl ⟨e, hx⟩
    · exact .inr ⟨a, ha, e, hf⟩
  · rintro (⟨e, hx⟩ | ⟨a, ha, e, hf⟩)
    · exact ⟨e, .inl hx⟩
    · exact ⟨e, .inr ⟨a, ha, hf⟩⟩

/-- Where what follows a computation fails whatever the value, one of the two fails. -/
theorem fails_bind_or_iff {x : Result α} {f : α → Result β} {P : Prop} (h : ∀ a, Fails (f a) ↔ P) :
    Fails (x >>= f) ↔ Fails x ∨ P := by
  rw [fails_bind_iff]
  rcases ok_or_fails x with ⟨a, ha⟩ | hx
  · refine or_congr_right ?_
    simp only [h]
    exact ⟨fun ⟨_, _, hP⟩ => hP, fun hP => ⟨a, ha, hP⟩⟩
  · exact iff_of_true (.inl hx) (.inl hx)

theorem fails_map_iff {x : Result α} {f : α → β} : Fails (x.map f) ↔ Fails x := by
  cases x <;> simp [Fails, Except.map]

/-- What follows a computation without a failure of its own leaves its failures as they are. -/
theorem fails_bind_pure_iff {x : Result α} (f : α → β) : Fails (x >>= fun a => pure (f a)) ↔ Fails x :=
  (fails_bind_or_iff fun _ => iff_false_intro (not_fails_ok _)).trans (or_iff_left not_false)

/-- A list of computations fails as a whole when one of its members does. -/
theorem fails_mapM_iff {f : α → Result β} {xs : List α} : Fails (xs.mapM f) ↔ ∃ x ∈ xs, Fails (f x) := by
  induction xs with
  | nil => exact iff_of_false (not_fails_ok []) fun ⟨_, hx, _⟩ => nomatch hx
  | cons x xs ih =>
    rw [List.mapM_cons, List.exists_mem_cons_iff, ← ih]
    exact fails_bind_or_iff fun y => fails_bind_pure_iff (y :: ·)

/-- A computation that does not end with a failure of a certain sort. -/
def Avoids (bad : Failure → Bool) (x : Result α) : Prop := ∀ e, x = .error e → bad e = false

namespace Avoids

variable {bad : Failure → Bool}

theorem ok (a : α) : Avoids bad (.ok a : Result α) := by
  intro e h
  cases h

theorem pure (a : α) : Avoids bad (Pure.pure a : Result α) := ok a

theorem error {e : Failure} (h : bad e = false) : Avoids bad (.error e : Result α) := by
  intro e' h'
  cases h'
  exact h

theorem bind {x : Result α} {f : α → Result β} (hx : Avoids bad x)
    (hf : ∀ a, x = .ok a → Avoids bad (f a)) : Avoids bad (x >>= f) := by
  intro e h
  rcases bind_error_iff.mp h with h | ⟨a, ha, h⟩
  · exact hx e h
  · exact hf a ha e h

theorem mapM {f : α → Result β} (hf : ∀ a, Avoids bad (f a)) :
    ∀ xs : List α, Avoids bad (xs.mapM f)
  | [] => by rw [List.mapM_nil]; exact pure []
  | x :: xs => by
    rw [List.mapM_cons]
    exact (hf x).bind fun y _ => (mapM hf xs).bind fun ys _ => pure (y :: ys)

theorem forM {f : α → Result Unit} (hf : ∀ a, Avoids bad (f a)) :
    ∀ xs : List α, Avoids bad (xs.forM f)
  | [] => pure ()
  | x :: xs => (hf x).bind fun _ _ => forM hf xs

end Avoids

/-- Two computations that end alike: with values in one relation, or with failures in another. -/
inductive Agree (E : Failure → Failure → Prop) (R : α → β → Prop) : Result α → Result β → Prop where
  | ok {a : α} {b : β} (h : R a b) : Agree E R (.ok a) (.ok b)
  | error {e e' : Failure} (h : E e e') : Agree E R (.error e) (.error e')

namespace Agree

variable {γ δ : Type} {E : Failure → Failure → Prop} {R : α → β → Prop} {S : γ → δ → Prop}

theorem pure {a : α} {b : β} (h : R a b) : Agree E R (Pure.pure a) (Pure.pure b) := ok h

theorem refl [Std.Refl E] (x : Result α) : Agree E (· = ·) x x := by
  cases x with
  | ok a => exact ok rfl
  | error e => exact error (Std.Refl.refl e)

/-- The same failure is one of those in any relation that holds of a failure and itself. -/
theorem of_eq [Std.Refl E] {x : Result α} {y : Result β} (h : Agree (· = ·) R x y) : Agree E R x y := by
  cases h with
  | ok h => exact ok h
  | error h => exact error (h ▸ Std.Refl.refl _)

theorem mono {F : Failure → Failure → Prop} (hE : ∀ e e', E e e' → F e e') {x : Result α} {y : Result β}
    (h : Agree E R x y) : Agree F R x y := by
  cases h with
  | ok h => exact ok h
  | error h => exact error (hE _ _ h)

theorem bind {x : Result α} {y : Result β} {f : α → Result γ} {g : β → Result δ} (hx : Agree E R x y)
    (hf : ∀ a b, R a b → Agree E S (f a) (g b)) : Agree E S (x >>= f) (y >>= g) := by
  cases hx with
  | ok h => exact hf _ _ h
  | error h => exact error h

/-- The same computation first, and then two that end alike. -/
theorem bind_same [Std.Refl E] (x : Result α) {f : α → Result γ} {g : α → Result δ}
    (hf : ∀ a, Agree E S (f a) (g a)) : Agree E S (x >>= f) (x >>= g) :=
  (refl x).bind fun a _ h => h ▸ hf a

theorem bind_same_ok [Std.Refl E] (x : Result α) {f : α → Result γ} {g : α → Result δ}
    (hf : ∀ a, x = .ok a → Agree E S (f a) (g a)) : Agree E S (x >>= f) (x >>= g) := by
  cases x with
  | ok a => exact hf a rfl
  | error e => exact error (Std.Refl.refl e)

theorem mapM {f : α → Result γ} {g : β → Result δ} {xs : List α} {ys : List β}
    (h : List.Forall₂ (fun x y => Agree E S (f x) (g y)) xs ys) :
    Agree E (List.Forall₂ S) (xs.mapM f) (ys.mapM g) := by
  induction h with
  | nil => exact ok .nil
  | cons hxy _ ih =>
    rw [List.mapM_cons, List.mapM_cons]
    exact hxy.bind fun _ _ hfirst => ih.bind fun _ _ hrest => pure (.cons hfirst hrest)

end Agree

/-- The failure that a computation ends with, if it does. -/
def failure? : Result α → Option Failure
  | .ok _ => none
  | .error e => some e

theorem Agree.failure_eq {R : α → β → Prop} {x : Result α} {y : Result β} (h : Agree (· = ·) R x y) :
    failure? x = failure? y := by
  cases h with
  | ok _ => rfl
  | error h => rw [h]; rfl

end SqlAdapter.Result
