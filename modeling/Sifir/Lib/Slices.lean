import Sifir.Lib.Layout
import Sifir.Lib.Results

/-!
# Slices with bounds checks

Parts of a buffer as a program takes them that checks its bounds when it runs: a slice
between two ends, a slice as an array of a fixed length, and a copy into a slice. Each
panics where the bounds are wrong; within them they are the windows of `Windows`
(`arrayAt_eq_ok`, `copyAt_eq_ok`), so that the fields of a layout are read and written
without a panic (`arrayAt_field`, `copyAt_field`).
-/

namespace Sifir.Lib
namespace Slices

open Results Windows

inductive Panic where
  /-- The slice ends before it starts. -/
  | sliceOrder (start stop : ℕ)
  /-- The slice ends behind the buffer. -/
  | sliceEnd (stop len : ℕ)
  /-- `unwrap` of a slice that is no array of the length. -/
  | arrayLength (expected actual : ℕ)
  /-- A copy from a source of another length. -/
  | copyLength (expected actual : ℕ)
deriving DecidableEq

variable {α : Type} {n m : ℕ}

/-- `xs[start..stop]` -/
def slice (xs : List α) (start stop : ℕ) : Except Panic (List α) :=
  if stop < start then .error (.sliceOrder start stop)
  else if xs.length < stop then .error (.sliceEnd stop xs.length)
  else .ok ((xs.drop start).take (stop - start))

/-- `try_into().unwrap()` to an array. -/
def toArray (len : ℕ) (xs : List α) : Except Panic (Vector α len) :=
  if h : xs.length = len then .ok ⟨xs.toArray, h⟩ else .error (.arrayLength len xs.length)

/-- `xs[start..stop].try_into().unwrap()` -/
def arrayAt (v : Vector α n) (start stop len : ℕ) : Except Panic (Vector α len) := do
  let xs ← slice v.toList start stop
  toArray len xs

/-- `xs[start..stop].copy_from_slice(w)` -/
def copyAt (v : Vector α n) (start stop : ℕ) (w : Vector α m) : Except Panic (Vector α n) := do
  let xs ← slice v.toList start stop
  if xs.length ≠ m then .error (.copyLength xs.length m)
  else toArray n (v.toList.take start ++ w.toList ++ v.toList.drop stop)

/-! ## Within the bounds -/

theorem slice_eq_ok {xs ys : List α} {start stop : ℕ} :
    slice xs start stop = .ok ys ↔
      start ≤ stop ∧ stop ≤ xs.length ∧ ys = (xs.drop start).take (stop - start) := by
  unfold slice
  by_cases horder : stop < start
  · rw [if_pos horder]
    exact iff_of_false (by simp) (by omega)
  · rw [if_neg horder]
    by_cases hend : xs.length < stop
    · rw [if_pos hend]
      exact iff_of_false (by simp) (by omega)
    · rw [if_neg hend, Except.ok.injEq, eq_comm]
      exact ⟨fun h => ⟨by omega, by omega, h⟩, fun h => h.2.2⟩

theorem toArray_eq_ok {len : ℕ} {xs : List α} {v : Vector α len} :
    toArray len xs = .ok v ↔ xs = v.toList := by
  unfold toArray
  by_cases hlen : xs.length = len
  · rw [dif_pos hlen, Except.ok.injEq, ← Vector.toList_inj]
    exact Iff.rfl
  · rw [dif_neg hlen]
    refine iff_of_false (by simp) fun h => hlen ?_
    rw [h, Vector.length_toList]

/-- A slice of a buffer is a window. -/
theorem slice_toList_eq_ok (v : Vector α n) {off len : ℕ} (h : off + len ≤ n) :
    slice v.toList off (off + len) = .ok (window v off len h).toList := by
  rw [slice_eq_ok, Vector.length_toList, toList_window, Nat.add_sub_cancel_left]
  exact ⟨by omega, h, rfl⟩

/-- An array is read without a panic exactly when the slice lies in the buffer and has the
length of the array. -/
theorem arrayAt_eq_ok {v : Vector α n} {start stop len : ℕ} {w : Vector α len} :
    arrayAt v start stop len = .ok w ↔
      ∃ h : start + len ≤ n, stop = start + len ∧ w = window v start len h := by
  simp only [arrayAt, bind_eq_ok, toArray_eq_ok]
  refine ⟨?_, ?_⟩
  · rintro ⟨xs, hxs, rfl⟩
    obtain ⟨horder, hend, heq⟩ := slice_eq_ok.mp hxs
    have hlen := congrArg List.length heq
    rw [Vector.length_toList] at hend
    rw [List.length_take, List.length_drop, Vector.length_toList, Vector.length_toList] at hlen
    have hstop : stop = start + len := by omega
    refine ⟨by omega, hstop, ?_⟩
    rw [← Vector.toList_inj, toList_window, heq, hstop, Nat.add_sub_cancel_left]
  · rintro ⟨h, rfl, rfl⟩
    exact ⟨_, slice_toList_eq_ok v h, rfl⟩

/-- A copy does not panic exactly when the slice lies in the buffer and has the length of
what is copied. -/
theorem copyAt_eq_ok {v u : Vector α n} {start stop : ℕ} {w : Vector α m} :
    copyAt v start stop w = .ok u ↔
      ∃ h : start + m ≤ n, stop = start + m ∧ u = overwrite v start w h := by
  simp only [copyAt, bind_eq_ok]
  refine ⟨?_, ?_⟩
  · rintro ⟨xs, hxs, h⟩
    obtain ⟨horder, hend, heq⟩ := slice_eq_ok.mp hxs
    have hlen := congrArg List.length heq
    rw [Vector.length_toList] at hend
    rw [List.length_take, List.length_drop, Vector.length_toList] at hlen
    by_cases hm : xs.length = m
    · rw [if_neg (not_not.mpr hm), toArray_eq_ok] at h
      have hstop : stop = start + m := by omega
      refine ⟨by omega, hstop, ?_⟩
      rw [← Vector.toList_inj, ← h, toList_overwrite, hstop]
    · rw [if_pos hm] at h
      cases h
  · rintro ⟨h, rfl, rfl⟩
    refine ⟨_, slice_toList_eq_ok v h, ?_⟩
    rw [if_neg (not_not.mpr (Vector.length_toList ..)), toArray_eq_ok, toList_overwrite]

/-! ## Fields -/

section

variable {ι : Type} (L : Layout n ι) (v : Vector α n) (f : ι)

theorem arrayAt_field :
    arrayAt v (L.off f) (L.off f + L.len f) (L.len f) = .ok (L.read v f) :=
  arrayAt_eq_ok.mpr ⟨L.fits f, rfl, rfl⟩

theorem copyAt_field (w : Vector α (L.len f)) :
    copyAt v (L.off f) (L.off f + L.len f) w = .ok (L.write v f w) :=
  copyAt_eq_ok.mpr ⟨L.fits f, rfl, rfl⟩

end

end Slices
end Sifir.Lib
