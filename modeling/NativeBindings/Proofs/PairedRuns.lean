import NativeBindings.Proofs.Outcome

/-!
# Two runs side by side

Two runs end alike (`EndAlike`) if both give results that correspond, or both fail with faults that
differ only in what depends on how the input is written (`Fault.Alike`). Steps that are put together
in the same way from steps that end alike end alike (`EndAlike.bind`, `EndAlike.mapM`).
-/
namespace NativeBindings

/-! ## Faults -/

/-- The same fault about the same thing. Native names may be replaced by others, and messages may
differ in where they say a type stands and in how they write it. -/
inductive Fault.Alike (ρ : String → String) : Fault → Fault → Prop
  | same (fault : Fault) : Alike ρ fault fault
  | unmapped (type context context' : String) :
      Alike ρ (.unmapped type context) (.unmapped (ρ type) context')
  | unmappedInDomain (type context context' : String) :
      Alike ρ (.unmappedInDomain type context) (.unmappedInDomain (ρ type) context')
  | packedSigned (type : NativeType) (context context' : String) :
      Alike ρ (.packedSigned type context) (.packedSigned type context')
  | packedHoldsStruct (layout : Layout) (context context' : String) :
      Alike ρ (.packedHoldsStruct layout context) (.packedHoldsStruct layout context')
  | packedUnsupported (type type' : NativeType) (context context' : String) :
      Alike ρ (.packedUnsupported type context) (.packedUnsupported type' context')
  | structByValue (layout : Layout) (context context' : String) :
      Alike ρ (.structByValue layout context) (.structByValue layout context')
  | signedInteger (type : NativeType) (context context' : String) :
      Alike ρ (.signedInteger type context) (.signedInteger type context')
  | noCtypeOfWidth (bits : Int) (context context' : String) :
      Alike ρ (.noCtypeOfWidth bits context) (.noCtypeOfWidth bits context')
  | noCtype (type : NativeType) (context context' : String) :
      Alike ρ (.noCtype type context) (.noCtype type context')
  | pointerTarget (pointee pointee' : NativeType) (context context' : String) :
      Alike ρ (.pointerTarget pointee context) (.pointerTarget pointee' context')
  | notMarshalled (type type' : NativeType) (context context' : String) :
      Alike ρ (.notMarshalled type context) (.notMarshalled type' context')
  | noValueType (type type' : NativeType) (context context' : String) :
      Alike ρ (.noValueType type context) (.noValueType type' context')
  | noDefault (type type' : NativeType) (context context' : String) :
      Alike ρ (.noDefault type context) (.noDefault type' context')
  | structWithoutDefault (layout : Layout) (context context' : String) :
      Alike ρ (.structWithoutDefault layout context) (.structWithoutDefault layout context')
  | signedField (owner field : String) (type : NativeType) :
      Alike ρ (.signedField owner field type) (.signedField (ρ owner) field type)
  | skipUndeclared (type member : String) :
      Alike ρ (.skipUndeclared type member) (.skipUndeclared (ρ type) member)
  | layoutUndefined (type : String) :
      Alike ρ (.layoutUndefined type) (.layoutUndefined (ρ type))

namespace Fault.Alike

variable {fault fault' fault'' : Fault}

/-- Where no name is replaced, likeness can be chained. -/
theorem trans (h : fault.Alike id fault') (h' : fault'.Alike id fault'') :
    fault.Alike id fault'' := by
  cases h with
  | same => exact h'
  | _ => cases h' <;> constructor

end Fault.Alike

/-! ## Outcomes -/

/-- Both runs give results that correspond, or both fail with alike faults. -/
inductive EndAlike {α β : Type} (ρ : String → String) (R : α → β → Prop) :
    Except Fault α → Except Fault β → Prop
  | ok {a : α} {b : β} (h : R a b) : EndAlike ρ R (.ok a) (.ok b)
  | error {fault fault' : Fault} (h : fault.Alike ρ fault') :
      EndAlike ρ R (.error fault) (.error fault')

namespace EndAlike

variable {α β γ δ : Type} {ρ : String → String} {R : α → β → Prop} {S : γ → δ → Prop}
  {x : Except Fault α} {y : Except Fault β}

theorem bind {f : α → Except Fault γ} {g : β → Except Fault δ} (h : EndAlike ρ R x y)
    (next : ∀ a b, R a b → EndAlike ρ S (f a) (g b)) : EndAlike ρ S (x >>= f) (y >>= g) := by
  cases h with
  | ok related => exact next _ _ related
  | error alike => exact .error alike

theorem map {f : α → γ} {g : β → δ} (h : EndAlike ρ R x y) (next : ∀ a b, R a b → S (f a) (g b)) :
    EndAlike ρ S (f <$> x) (g <$> y) := by
  cases h with
  | ok related => exact .ok (next _ _ related)
  | error alike => exact .error alike

/-- Items that correspond are worked off alike, and so are the lists of them. -/
theorem mapM {P : α → β → Prop} {xs : List α} {ys : List β} {f : α → Except Fault γ}
    {g : β → Except Fault δ} (items : List.Forall₂ P xs ys)
    (each : ∀ x y, P x y → EndAlike ρ S (f x) (g y)) :
    EndAlike ρ (List.Forall₂ S) (xs.mapM f) (ys.mapM g) := by
  induction items with
  | nil => exact .ok .nil
  | cons first _ ih =>
    rw [List.mapM_cons, List.mapM_cons]
    refine (each _ _ first).bind fun a b related => ?_
    exact ih.bind fun as bs others => .ok (.cons related others)

/-! ### Equal results -/

variable {x x' x'' : Except Fault α} {y y' : Except Fault γ}

/-- One run goes on where the other does, with the same result. -/
theorem bind_eq {f g : α → Except Fault γ} (h : EndAlike ρ (· = ·) x x')
    (next : ∀ a, EndAlike ρ (· = ·) (f a) (g a)) : EndAlike ρ (· = ·) (x >>= f) (x' >>= g) :=
  h.bind fun a _ same => same ▸ next a

theorem map_eq (f : α → γ) (h : EndAlike ρ (· = ·) x x') :
    EndAlike ρ (· = ·) (f <$> x) (f <$> x') := h.map fun _ _ same => congrArg f same

theorem mapM_eq {xs : List α} {ys : List β} {P : α → β → Prop} {f : α → Except Fault γ}
    {g : β → Except Fault γ} (items : List.Forall₂ P xs ys)
    (each : ∀ x y, P x y → EndAlike ρ (· = ·) (f x) (g y)) :
    EndAlike ρ (· = ·) (xs.mapM f) (ys.mapM g) := by
  simpa only [List.forall₂_eq_eq_eq] using mapM items each

theorem refl (x : Except Fault α) : EndAlike ρ (· = ·) x x := by
  cases x with
  | ok a => exact .ok rfl
  | error fault => exact .error (.same fault)

theorem trans (h : EndAlike id (· = ·) x x') (h' : EndAlike id (· = ·) x' x'') :
    EndAlike id (· = ·) x x'' := by
  cases h with
  | ok same =>
    subst same
    exact h'
  | error alike =>
    cases h' with
    | error alike' => exact .error (alike.trans alike')

theorem eq_ok_iff (h : EndAlike ρ (· = ·) x x') {a : α} : x = .ok a ↔ x' = .ok a := by
  cases h with
  | ok same => rw [same]
  | error => simp

theorem eq_error (h : EndAlike ρ (· = ·) x x') {fault : Fault} (failed : x = .error fault) :
    ∃ fault', x' = .error fault' ∧ fault.Alike ρ fault' := by
  cases h with
  | ok => cases failed
  | error alike =>
    cases failed
    exact ⟨_, rfl, alike⟩

end EndAlike

/-! ## Lists that correspond -/

/-- What is kept of lists that correspond corresponds. -/
theorem forall₂_filter {α β : Type} {R : α → β → Prop} {p : α → Bool} {q : β → Bool} {xs : List α}
    {ys : List β} (h : List.Forall₂ R xs ys) (same : ∀ a b, R a b → q b = p a) :
    List.Forall₂ (fun a b => R a b ∧ p a = true) (xs.filter p) (ys.filter q) := by
  induction h with
  | nil => exact .nil
  | @cons a b _ _ first _ ih =>
    rw [List.filter_cons, List.filter_cons, same a b first]
    cases kept : p a with
    | true => exact .cons ⟨first, kept⟩ ih
    | false => exact ih

end NativeBindings
