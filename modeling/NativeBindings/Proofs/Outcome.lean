import NativeBindings.Fault
import Mathlib.Data.List.Forall2

/-!
# Outcomes of steps

A step gives a result or a fault. How the outcome of a composed step follows from those of its
parts: `bind_eq_ok`, `map_eq_ok` and `mapM_eq_ok` take a result apart, and `OnlyFaults` bounds the
faults of a step by those of its parts.
-/
namespace NativeBindings

variable {α β ε : Type}

/-! ## Results -/

@[simp]
theorem bind_eq_ok {x : Except ε α} {f : α → Except ε β} {b : β} :
    x >>= f = .ok b ↔ ∃ a, x = .ok a ∧ f a = .ok b := by
  cases x <;> simp [bind, Except.bind]

/-- A check gives nothing but that it passes. -/
theorem check_bind_eq_ok {x : Except Fault Unit} {f : Unit → Except Fault β} {b : β} :
    x >>= f = .ok b ↔ x = .ok () ∧ f () = .ok b := by
  cases x <;> simp [bind, Except.bind]

theorem bind_eq_error {x : Except Fault α} {f : α → Except Fault β} {fault : Fault} :
    x >>= f = .error fault ↔ x = .error fault ∨ ∃ a, x = .ok a ∧ f a = .error fault := by
  cases x <;> simp [bind, Except.bind]

@[simp]
theorem pure_eq_ok {a b : α} : (pure a : Except ε α) = .ok b ↔ a = b := by
  simp [pure, Except.pure]

@[simp]
theorem map_eq_ok {f : α → β} {x : Except ε α} {b : β} :
    f <$> x = .ok b ↔ ∃ a, x = .ok a ∧ f a = b := by
  cases x <;> simp [Functor.map, Except.map]

theorem map_eq_error {f : α → β} {x : Except ε α} {e : ε} :
    f <$> x = .error e ↔ x = .error e := by
  cases x <;> simp [Functor.map, Except.map]

theorem mapM_eq_ok {f : α → Except Fault β} {xs : List α} {ys : List β} :
    xs.mapM f = .ok ys ↔ List.Forall₂ (fun x y => f x = .ok y) xs ys := by
  induction xs generalizing ys with
  | nil => simp [pure, Except.pure, eq_comm]
  | cons x xs ih =>
    simp only [List.mapM_cons, bind_eq_ok, pure_eq_ok, ih, List.forall₂_cons_left_iff]
    constructor
    · rintro ⟨y, hy, ys', hys, rfl⟩
      exact ⟨y, ys', hy, hys, rfl⟩
    · rintro ⟨y, ys', hy, hys, rfl⟩
      exact ⟨y, hy, ys', hys, rfl⟩

/-- What comes out is what the items give. -/
theorem mem_iff_of_mapM {f : α → Except Fault β} {xs : List α} {ys : List β}
    (h : xs.mapM f = .ok ys) {y : β} : y ∈ ys ↔ ∃ x ∈ xs, f x = .ok y := by
  rw [mapM_eq_ok] at h
  induction h with
  | nil => simp
  | cons first _ ih => simp [ih, first, eq_comm]

theorem isOk_of_mapM {f : α → Except Fault β} {xs : List α} {ys : List β}
    (h : xs.mapM f = .ok ys) {x : α} (hx : x ∈ xs) : ∃ y, f x = .ok y := by
  rw [mapM_eq_ok] at h
  induction h with
  | nil => cases hx
  | cons first _ ih =>
    rcases List.mem_cons.mp hx with rfl | hx
    · exact ⟨_, first⟩
    · exact ih hx

/-- What can be read off the results can be read off the items. -/
theorem map_eq_of_mapM {γ : Type} {f : α → Except Fault β} {xs : List α} {ys : List β}
    (h : xs.mapM f = .ok ys) {key : β → γ} {key' : α → γ}
    (same : ∀ x ∈ xs, ∀ y, f x = .ok y → key y = key' x) : ys.map key = xs.map key' := by
  rw [mapM_eq_ok] at h
  induction h with
  | nil => rfl
  | @cons x y xs ys first _ ih =>
    rw [List.map_cons, List.map_cons, same x List.mem_cons_self y first,
      ih fun z hz => same z (List.mem_cons_of_mem x hz)]

theorem mapM_isOk {f : α → Except Fault β} {xs : List α} (h : ∀ x ∈ xs, ∃ y, f x = .ok y) :
    ∃ ys, xs.mapM f = .ok ys := by
  induction xs with
  | nil => exact ⟨[], rfl⟩
  | cons x xs ih =>
    obtain ⟨y, hy⟩ := h x List.mem_cons_self
    obtain ⟨ys, hys⟩ := ih fun z hz => h z (List.mem_cons_of_mem x hz)
    exact ⟨y :: ys, by simp [List.mapM_cons, hy, hys, bind, Except.bind, pure, Except.pure]⟩

theorem forM_eq_ok {f : α → Except Fault Unit} {xs : List α} :
    xs.forM f = .ok () ↔ ∀ x ∈ xs, f x = .ok () := by
  induction xs with
  | nil => simp [pure, Except.pure]
  | cons x xs ih =>
    show (f x >>= fun _ => xs.forM f) = .ok () ↔ _
    rw [bind_eq_ok, ih, List.forall_mem_cons]
    exact ⟨fun ⟨(), h⟩ => h, fun h => ⟨(), h⟩⟩

/-! ## Faults -/

/-- Every fault that a step can end in satisfies `P`. -/
def OnlyFaults (P : Fault → Prop) (x : Except Fault α) : Prop := ∀ fault, x = .error fault → P fault

namespace OnlyFaults

variable {P : Fault → Prop}

theorem ok (a : α) : OnlyFaults P (.ok a) := fun _ h => nomatch h

theorem pure (a : α) : OnlyFaults P (Pure.pure a) := ok a

theorem error {fault : Fault} (h : P fault) : OnlyFaults P (.error fault : Except Fault α) := by
  intro other e
  cases e
  exact h

theorem bind {x : Except Fault α} {f : α → Except Fault β} (hx : OnlyFaults P x)
    (hf : ∀ a, x = .ok a → OnlyFaults P (f a)) : OnlyFaults P (x >>= f) := by
  intro fault h
  rcases bind_eq_error.mp h with h | ⟨a, ha, h⟩
  · exact hx fault h
  · exact hf a ha fault h

theorem ite {c : Prop} [Decidable c] {x y : Except Fault α} (hx : OnlyFaults P x)
    (hy : OnlyFaults P y) : OnlyFaults P (if c then x else y) := by
  split
  · exact hx
  · exact hy

theorem map {x : Except Fault α} (f : α → β) (hx : OnlyFaults P x) : OnlyFaults P (f <$> x) := by
  cases x with
  | ok a => exact ok (f a)
  | error fault => exact error (hx fault rfl)

theorem mapM {f : α → Except Fault β} {xs : List α} (h : ∀ x ∈ xs, OnlyFaults P (f x)) :
    OnlyFaults P (xs.mapM f) := by
  induction xs with
  | nil => exact ok []
  | cons x xs ih =>
    rw [List.mapM_cons]
    refine bind (h x List.mem_cons_self) fun y _ => ?_
    exact bind (ih fun z hz => h z (List.mem_cons_of_mem x hz)) fun ys _ => pure (y :: ys)

theorem forM {f : α → Except Fault Unit} {xs : List α} (h : ∀ x ∈ xs, OnlyFaults P (f x)) :
    OnlyFaults P (xs.forM f) := by
  induction xs with
  | nil => exact ok ()
  | cons x xs ih =>
    exact bind (h x List.mem_cons_self) fun _ _ => ih fun z hz => h z (List.mem_cons_of_mem x hz)

theorem foldlM {f : β → α → Except Fault β} (h : ∀ b a, OnlyFaults P (f b a)) :
    ∀ (xs : List α) (start : β), OnlyFaults P (xs.foldlM f start)
  | [], start => ok start
  | x :: xs, start => bind (h start x) fun next _ => foldlM h xs next

end OnlyFaults
end NativeBindings
