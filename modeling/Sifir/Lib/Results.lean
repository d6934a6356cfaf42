import Mathlib.Data.List.Forall2
import Mathlib.Data.List.Induction

/-!
# Fallible computations

Inversion lemmas for code that returns `Except`: what a sequence of fallible
steps returns says what each step returned, so that a function built from such
steps is characterised by what its steps do.
-/

namespace Sifir.Lib
namespace Results

variable {ε ε' α β γ : Type}

/-! ## Sequencing -/

theorem bind_eq_ok {x : Except ε α} {f : α → Except ε β} {b : β} :
    (x >>= f) = .ok b ↔ ∃ a, x = .ok a ∧ f a = .ok b := by
  cases x with
  | error e => simp [Bind.bind, Except.bind]
  | ok a => simp [Bind.bind, Except.bind]

theorem bind_eq_error {x : Except ε α} {f : α → Except ε β} {e : ε} :
    (x >>= f) = .error e ↔ x = .error e ∨ ∃ a, x = .ok a ∧ f a = .error e := by
  cases x with
  | error e' => simp [Bind.bind, Except.bind]
  | ok a => simp [Bind.bind, Except.bind]

/-- A step that returns nothing only has to succeed. -/
theorem exists_unit {p : Unit → Prop} : (∃ u, p u) ↔ p () :=
  ⟨fun ⟨_, h⟩ => h, fun h => ⟨(), h⟩⟩

@[simp] theorem ok_bind (a : α) (f : α → Except ε β) : (Except.ok a >>= f) = f a := rfl

@[simp] theorem error_bind (e : ε) (f : α → Except ε β) :
    (Except.error e >>= f) = .error e := rfl

@[simp] theorem pure_eq_ok_iff {a b : α} : (pure a : Except ε α) = .ok b ↔ a = b := by
  simp [pure, Except.pure]

/-- A result is an error or a value, never both. -/
theorem exists_error_or_exists_ok (x : Except ε α) : (∃ e, x = .error e) ∨ ∃ a, x = .ok a := by
  cases x with
  | error e => exact Or.inl ⟨e, rfl⟩
  | ok a => exact Or.inr ⟨a, rfl⟩

theorem not_ok_iff {x : Except ε α} : (¬ ∃ a, x = .ok a) ↔ ∃ e, x = .error e := by
  cases x with
  | error e => simp
  | ok a => simp

/-! ## Relabelling errors -/

@[simp] theorem mapError_eq_ok {x : Except ε α} {g : ε → ε'} {a : α} :
    x.mapError g = .ok a ↔ x = .ok a := by
  cases x with
  | error e => simp [Except.mapError]
  | ok b => simp [Except.mapError]

theorem mapError_eq_error {x : Except ε α} {g : ε → ε'} {e' : ε'} :
    x.mapError g = .error e' ↔ ∃ e, x = .error e ∧ g e = e' := by
  cases x with
  | error e => simp [Except.mapError]
  | ok b => simp [Except.mapError]

@[simp] theorem mapError_ok (a : α) (g : ε → ε') :
    (Except.ok a : Except ε α).mapError g = .ok a := rfl

@[simp] theorem mapError_error (e : ε) (g : ε → ε') :
    (Except.error e : Except ε α).mapError g = .error (g e) := rfl

/-! ## Absent values -/

/-- The value of an option, or the given error: `Option::ok_or_else`. -/
def okOr (e : ε) : Option α → Except ε α
  | none => .error e
  | some a => .ok a

@[simp] theorem okOr_some (e : ε) (a : α) : okOr e (some a) = .ok a := rfl

@[simp] theorem okOr_none (e : ε) : okOr e (none : Option α) = .error e := rfl

@[simp] theorem okOr_eq_ok {e : ε} {o : Option α} {a : α} : okOr e o = .ok a ↔ o = some a := by
  cases o with
  | none => simp
  | some b => simp

theorem okOr_eq_error {e e' : ε} {o : Option α} : okOr e o = .error e' ↔ o = none ∧ e = e' := by
  cases o with
  | none => simp
  | some b => simp

/-! ## Lists of fallible steps -/

/-- Collecting results succeeds exactly when every step succeeds, with the
values in order. -/
theorem mapM_eq_ok {f : α → Except ε β} :
    ∀ {l : List α} {bs : List β},
      l.mapM f = .ok bs ↔ List.Forall₂ (fun a b => f a = .ok b) l bs
  | [], bs => by
    rw [List.mapM_nil, pure_eq_ok_iff, eq_comm]
    exact List.forall₂_nil_left_iff.symm
  | a :: l, bs => by
    rw [List.mapM_cons, bind_eq_ok]
    constructor
    · rintro ⟨b, hb, htail⟩
      obtain ⟨bs', hbs', hcons⟩ := bind_eq_ok.mp htail
      rw [pure_eq_ok_iff] at hcons
      subst hcons
      exact List.Forall₂.cons hb (mapM_eq_ok.mp hbs')
    · intro h
      cases h with
      | cons hb hrest =>
        exact ⟨_, hb, bind_eq_ok.mpr ⟨_, mapM_eq_ok.mpr hrest, by simp⟩⟩

/-- Collecting the images of values under a right inverse gives the values back. -/
theorem mapM_map_eq_ok {f : α → Except ε β} {g : β → α} (h : ∀ b, f (g b) = .ok b)
    (bs : List β) : (bs.map g).mapM f = .ok bs := by
  rw [mapM_eq_ok, List.forall₂_map_left_iff]
  exact List.forall₂_same.mpr fun b _ => h b

/-! ## Loops -/

theorem foldlM_concat_eq_ok {σ : Type} {f : σ → α → Except ε σ} {l : List α} {a : α} {s s' : σ} :
    (l ++ [a]).foldlM f s = .ok s' ↔ ∃ m, l.foldlM f s = .ok m ∧ f m a = .ok s' := by
  rw [List.foldlM_append, bind_eq_ok]
  simp only [List.foldlM_cons, List.foldlM_nil, bind_pure]

/-- What holds at the start of a loop and is kept by every pass, of the items gone by and
the state, holds at its end. -/
theorem foldlM_invariant {σ : Type} {f : σ → α → Except ε σ} (inv : List α → σ → Prop) {s : σ}
    (hstart : inv [] s)
    (hstep : ∀ l a m s', inv l m → f m a = .ok s' → inv (l ++ [a]) s') :
    ∀ {l : List α} {s' : σ}, l.foldlM f s = .ok s' → inv l s' := by
  intro l
  induction l using List.reverseRecOn with
  | nil =>
    intro s' h
    rw [List.foldlM_nil, pure_eq_ok_iff] at h
    exact h ▸ hstart
  | append_singleton l a ih =>
    intro s' h
    obtain ⟨m, hm, ha⟩ := foldlM_concat_eq_ok.mp h
    exact hstep l a m s' (ih hm) ha

end Results
end Sifir.Lib
