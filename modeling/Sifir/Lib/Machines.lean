import Mathlib.Data.List.Forall2
import Mathlib.Data.List.Induction
import Mathlib.Logic.Function.Basic

/-!
# Machines

A machine reads events and writes outputs. What every step keeps, a run keeps
(`run_invariant`), and what no step tells apart, no run does (`run_unwinding`). Machines
side by side, each with events of its own, do under every interleaving of their events what
each of them does alone (`run_sideBySide`).
-/

namespace Sifir.Lib

/-- A machine: what an event makes of the state, and what is written for it. -/
structure Machine (σ ε ω : Type) where
  step : σ → ε → σ × List ω

namespace Machine

variable {σ ε ω : Type} (m : Machine σ ε ω)

/-- The state after a list of events, and all that was written. -/
def run (s : σ) : List ε → σ × List ω
  | [] => (s, [])
  | e :: es => ((run (m.step s e).1 es).1, (m.step s e).2 ++ (run (m.step s e).1 es).2)

@[simp] theorem run_nil (s : σ) : m.run s [] = (s, []) := rfl

theorem run_cons (s : σ) (e : ε) (es : List ε) : m.run s (e :: es)
    = ((m.run (m.step s e).1 es).1, (m.step s e).2 ++ (m.run (m.step s e).1 es).2) := rfl

theorem run_append (s : σ) (es es' : List ε) : m.run s (es ++ es')
    = ((m.run (m.run s es).1 es').1, (m.run s es).2 ++ (m.run (m.run s es).1 es').2) := by
  induction es generalizing s with
  | nil => rfl
  | cons e es ih => rw [List.cons_append, run_cons, ih, run_cons, List.append_assoc]

/-- A run with one more event. -/
theorem run_concat (s : σ) (es : List ε) (e : ε) : m.run s (es ++ [e])
    = ((m.step (m.run s es).1 e).1, (m.run s es).2 ++ (m.step (m.run s es).1 e).2) := by
  rw [run_append, run_cons, run_nil, List.append_nil]

/-- What holds at the start, of no events and no outputs, and is kept by every step, holds
after every run. -/
theorem run_invariant (inv : List ε → σ → List ω → Prop) {s : σ} (hstart : inv [] s [])
    (hstep : ∀ es s' out e, inv es s' out →
      inv (es ++ [e]) (m.step s' e).1 (out ++ (m.step s' e).2)) (es : List ε) :
    inv es (m.run s es).1 (m.run s es).2 := by
  induction es using List.reverseRecOn with
  | nil => exact hstart
  | append_singleton es e ih =>
    rw [run_concat]
    exact hstep es _ _ e ih

/-! ## Runs that look the same -/

section Unwinding

variable {γ : Type} {R : σ → σ → Prop} {E : ε → ε → Prop} {see : ω → γ}

/-- From states alike, events that are alike lead to states alike, and to outputs that look
the same. -/
def Unwinds (R : σ → σ → Prop) (E : ε → ε → Prop) (see : ω → γ) : Prop :=
  ∀ s s' e e', R s s' → E e e' → R (m.step s e).1 (m.step s' e').1 ∧
    (m.step s e).2.map see = (m.step s' e').2.map see

/-- So two runs with events that are alike look the same. -/
theorem run_unwinding (h : m.Unwinds R E see) {es es' : List ε} (hes : List.Forall₂ E es es')
    {s s' : σ} (hs : R s s') :
    R (m.run s es).1 (m.run s' es').1 ∧ (m.run s es).2.map see = (m.run s' es').2.map see := by
  induction hes generalizing s s' with
  | nil => exact ⟨hs, rfl⟩
  | cons he hes ih =>
    obtain ⟨hstep, hout⟩ := h _ _ _ _ hs he
    obtain ⟨hrun, hmore⟩ := ih hstep
    rw [run_cons, run_cons, List.map_append, List.map_append, hout, hmore]
    exact ⟨hrun, rfl⟩

end Unwinding

/-! ## Side by side -/

section SideBySide

variable {ι α β : Type} [DecidableEq ι]

/-- What a list has for one index. -/
def entriesOf (i : ι) (l : List (ι × α)) : List α :=
  l.filterMap fun x => if x.1 = i then some x.2 else none

@[simp] theorem entriesOf_nil (i : ι) : entriesOf i ([] : List (ι × α)) = [] := rfl

theorem entriesOf_append (i : ι) (l l' : List (ι × α)) :
    entriesOf i (l ++ l') = entriesOf i l ++ entriesOf i l' := List.filterMap_append

theorem entriesOf_cons_self (i : ι) (a : α) (l : List (ι × α)) :
    entriesOf i ((i, a) :: l) = a :: entriesOf i l := by
  simp [entriesOf]

theorem entriesOf_cons_of_ne {i j : ι} (h : j ≠ i) (a : α) (l : List (ι × α)) :
    entriesOf i ((j, a) :: l) = entriesOf i l := by
  simp [entriesOf, h]

theorem entriesOf_map_self (i : ι) (l : List α) : entriesOf i (l.map fun a => (i, a)) = l := by
  induction l with
  | nil => rfl
  | cons a l ih => rw [List.map_cons, entriesOf_cons_self, ih]

theorem entriesOf_map_of_ne {i j : ι} (h : j ≠ i) (l : List α) :
    entriesOf i (l.map fun a => (j, a)) = [] := by
  induction l with
  | nil => rfl
  | cons a l ih => rw [List.map_cons, entriesOf_cons_of_ne h, ih]

/-- A machine for every index, which reads the events with the index. -/
def sideBySide : Machine (ι → σ) (ι × ε) (ι × ω) where
  step s e := (Function.update s e.1 (m.step (s e.1) e.2).1,
    (m.step (s e.1) e.2).2.map fun o => (e.1, o))

/-- Machines side by side look the same if each of them does. -/
theorem unwinds_sideBySide {γ : Type} {R : σ → σ → Prop} {E : ε → ε → Prop} {see : ω → γ}
    (h : m.Unwinds R E see) :
    (m.sideBySide : Machine (ι → σ) (ι × ε) (ι × ω)).Unwinds (fun s s' => ∀ i, R (s i) (s' i))
      (fun e e' => e.1 = e'.1 ∧ E e.2 e'.2) (fun o => (o.1, see o.2)) := by
  intro s s' e e' hs he
  rcases e with ⟨i, e⟩
  rcases e' with ⟨i', e'⟩
  obtain ⟨rfl, he⟩ : i = i' ∧ E e e' := he
  obtain ⟨hstep, hout⟩ := h _ _ _ _ (hs i) he
  refine ⟨fun j => ?_, ?_⟩
  · by_cases hj : j = i
    · rw [hj]
      show R (Function.update s i _ i) (Function.update s' i _ i)
      rw [Function.update_self, Function.update_self]
      exact hstep
    · show R (Function.update s i _ j) (Function.update s' i _ j)
      rw [Function.update_of_ne hj, Function.update_of_ne hj]
      exact hs j
  · show ((m.step (s i) e).2.map fun o => (i, o)).map _
      = ((m.step (s' i) e').2.map fun o => (i, o)).map _
    have htag := congrArg (List.map fun o => (i, o)) hout
    simpa only [List.map_map, Function.comp_def] using htag

/-- Each machine is after a run where its own events bring it, and writes what it writes
for them. -/
theorem run_sideBySide (i : ι) (es : List (ι × ε)) (s : ι → σ) :
    (m.sideBySide.run s es).1 i = (m.run (s i) (entriesOf i es)).1 ∧
    entriesOf i (m.sideBySide.run s es).2 = (m.run (s i) (entriesOf i es)).2 := by
  induction es generalizing s with
  | nil => exact ⟨rfl, rfl⟩
  | cons e es ih =>
    rcases e with ⟨j, e⟩
    obtain ⟨hstate, hout⟩ := ih (m.sideBySide.step s (j, e)).1
    rw [run_cons, entriesOf_append, hstate, hout]
    by_cases hj : j = i
    · rw [hj, entriesOf_cons_self, run_cons]
      have hupdate : (m.sideBySide.step s (i, e)).1 i = (m.step (s i) e).1 :=
        Function.update_self i _ s
      have hwritten : entriesOf i (m.sideBySide.step s (i, e)).2 = (m.step (s i) e).2 :=
        entriesOf_map_self i _
      rw [hupdate, hwritten]
      exact ⟨rfl, rfl⟩
    · -- the step of another machine changes nothing here
      have hupdate : (m.sideBySide.step s (j, e)).1 i = s i :=
        Function.update_of_ne (Ne.symm hj) _ s
      have hwritten : entriesOf i (m.sideBySide.step s (j, e)).2 = [] :=
        entriesOf_map_of_ne hj _
      rw [hupdate, hwritten, entriesOf_cons_of_ne hj]
      exact ⟨rfl, rfl⟩

end SideBySide

end Machine
end Sifir.Lib
