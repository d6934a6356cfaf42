import Mathlib.Order.CompletePartialOrder
import Mathlib.Order.Interval.Set.Disjoint
import Sifir.Lib.Windows

/-!
# Record layouts

A record in a buffer has its fields at fixed places. A layout is such an arrangement; its
fields fit into the buffer and do not overlap. Fields are read and written through the
windows of `Windows`, and the lemmas are the laws of a record: what is written is read
back, nothing else changes, and writes to two fields commute.
-/

namespace Sifir.Lib

open Windows

/-- Fields at fixed places of a buffer of `n` entries. -/
structure Layout (n : ℕ) (ι : Type) where
  off : ι → ℕ
  len : ι → ℕ
  fits : ∀ f, off f + len f ≤ n
  disjoint : ∀ f g, f ≠ g → off f + len f ≤ off g ∨ off g + len g ≤ off f

namespace Layout

variable {α ι : Type} {n : ℕ} (L : Layout n ι)

/-- The places of a field. -/
def range (f : ι) : Set ℕ := Set.Ico (L.off f) (L.off f + L.len f)

def read (v : Vector α n) (f : ι) : Vector α (L.len f) := window v (L.off f) (L.len f) (L.fits f)

def write (v : Vector α n) (f : ι) (w : Vector α (L.len f)) : Vector α n :=
  overwrite v (L.off f) w (L.fits f)

/-- No place belongs to two fields. -/
theorem pairwise_disjoint_range : Pairwise (Function.onFun Disjoint L.range) := by
  intro f g hne
  show Disjoint (L.range f) (L.range g)
  rw [range, range, Set.Ico_disjoint_Ico]
  have hd := L.disjoint f g hne
  omega

theorem notMem_range_iff {f : ι} {i : ℕ} :
    i ∉ L.range f ↔ i < L.off f ∨ L.off f + L.len f ≤ i := by
  rw [range, Set.mem_Ico]
  omega

/-! ## Reading after writing -/

@[simp] theorem read_write_self (v : Vector α n) (f : ι) (w : Vector α (L.len f)) :
    L.read (L.write v f w) f = w :=
  window_overwrite_self v w (L.fits f)

theorem read_write_of_ne (v : Vector α n) {f g : ι} (w : Vector α (L.len f)) (h : g ≠ f) :
    L.read (L.write v f w) g = L.read v g :=
  window_overwrite_of_disjoint v w (L.fits f) (L.fits g) (L.disjoint g f h)

/-- An entry outside the written field is unchanged. -/
theorem getElem_write_of_notMem (v : Vector α n) {f : ι} (w : Vector α (L.len f)) {i : ℕ}
    (hi : i < n) (h : i ∉ L.range f) : (L.write v f w)[i] = v[i] :=
  getElem_overwrite_of_disjoint v w (L.fits f) hi (L.notMem_range_iff.mp h)

theorem write_comm (v : Vector α n) {f g : ι} (a : Vector α (L.len f)) (b : Vector α (L.len g))
    (h : f ≠ g) : L.write (L.write v f a) g b = L.write (L.write v g b) f a :=
  overwrite_comm v a b (L.fits f) (L.fits g) (L.disjoint f g h)

end Layout
end Sifir.Lib
