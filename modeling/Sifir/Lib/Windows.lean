import Mathlib.Tactic.Common

/-!
# Windows into fixed-size buffers

A record laid out by hand in a byte buffer is read and written through windows
`[off, off + len)`. `window` reads one, `overwrite` copies a vector over one; the
bounds are part of the call, so neither can run off the buffer. The lemmas are
the record laws: reading what was just written, reading elsewhere, writes to
disjoint windows, and windows of windows.
-/

namespace Sifir.Lib
namespace Windows

variable {α : Type} {n m k : ℕ}

/-- The entries `[off, off + len)` of a buffer. -/
def window (v : Vector α n) (off len : ℕ) (h : off + len ≤ n := by decide) : Vector α len :=
  Vector.ofFn fun i => v[off + i.val]

/-- The buffer with the entries `[off, off + m)` replaced by `w`. -/
def overwrite (v : Vector α n) (off : ℕ) (w : Vector α m) (_h : off + m ≤ n := by decide) :
    Vector α n :=
  Vector.ofFn fun i =>
    if hi : off ≤ i.val ∧ i.val < off + m then w[i.val - off] else v[i.val]

@[simp] theorem getElem_window (v : Vector α n) {off len : ℕ} (h : off + len ≤ n) (i : ℕ)
    (hi : i < len) : (window v off len h)[i] = v[off + i] := by
  simp [window]

theorem getElem_overwrite (v : Vector α n) {off : ℕ} (w : Vector α m) (h : off + m ≤ n) (i : ℕ)
    (hi : i < n) :
    (overwrite v off w h)[i]
      = if h' : off ≤ i ∧ i < off + m then w[i - off] else v[i] := by
  simp [overwrite]

/-- Two windows are equal when their entries are. -/
theorem window_eq_iff {v : Vector α n} {u : Vector α k} {off off' len : ℕ}
    {h : off + len ≤ n} {h' : off' + len ≤ k} :
    window v off len h = window u off' len h'
      ↔ ∀ (i : ℕ) (hi : i < len), v[off + i] = u[off' + i] := by
  rw [Vector.ext_iff]
  simp only [getElem_window]

theorem window_window (v : Vector α n) {off len off' len' : ℕ} (h : off + len ≤ n)
    (h' : off' + len' ≤ len) :
    window (window v off len h) off' len' h' = window v (off + off') len' (by omega) := by
  apply Vector.ext
  intro i hi
  simp [Nat.add_assoc]

/-! ## Reading after writing -/

@[simp] theorem window_overwrite_self (v : Vector α n) {off : ℕ} (w : Vector α m)
    (h : off + m ≤ n) : window (overwrite v off w h) off m h = w := by
  apply Vector.ext
  intro i hi
  rw [getElem_window, getElem_overwrite, dif_pos (by omega)]
  simp

/-- A window clear of the written one is unchanged. -/
theorem window_overwrite_of_disjoint (v : Vector α n) {off off' len : ℕ} (w : Vector α m)
    (h : off + m ≤ n) (h' : off' + len ≤ n) (hd : off' + len ≤ off ∨ off + m ≤ off') :
    window (overwrite v off w h) off' len h' = window v off' len h' := by
  apply Vector.ext
  intro i hi
  rw [getElem_window, getElem_window, getElem_overwrite, dif_neg (by omega)]

/-- A window around the written one is written the same way. -/
theorem window_overwrite_of_subset (v : Vector α n) {off len : ℕ} (k' : ℕ) (w : Vector α m)
    (h : off + len ≤ n) (h' : k' + m ≤ len) :
    window (overwrite v (off + k') w (by omega)) off len h
      = overwrite (window v off len h) k' w h' := by
  apply Vector.ext
  intro i hi
  rw [getElem_window, getElem_overwrite, getElem_overwrite, getElem_window]
  by_cases hin : k' ≤ i ∧ i < k' + m
  · rw [dif_pos (by omega), dif_pos hin]
    congr 1
    omega
  · rw [dif_neg (by omega), dif_neg hin]

/-- An entry outside the written window is unchanged. -/
theorem getElem_overwrite_of_disjoint (v : Vector α n) {off : ℕ} (w : Vector α m)
    (h : off + m ≤ n) {i : ℕ} (hi : i < n) (hd : i < off ∨ off + m ≤ i) :
    (overwrite v off w h)[i] = v[i] := by
  rw [getElem_overwrite, dif_neg (by omega)]

/-- Writes to windows clear of each other commute. -/
theorem overwrite_comm (v : Vector α n) {off off' : ℕ} (a : Vector α m) (b : Vector α k)
    (h : off + m ≤ n) (h' : off' + k ≤ n) (hd : off + m ≤ off' ∨ off' + k ≤ off) :
    overwrite (overwrite v off a h) off' b h' = overwrite (overwrite v off' b h') off a h := by
  apply Vector.ext
  intro i hi
  by_cases hin : off' ≤ i ∧ i < off' + k
  · rw [getElem_overwrite, dif_pos hin, getElem_overwrite_of_disjoint _ a h hi (by omega),
      getElem_overwrite, dif_pos hin]
  · rw [getElem_overwrite, dif_neg hin, getElem_overwrite, getElem_overwrite]
    split
    · rfl
    · rw [getElem_overwrite, dif_neg hin]

/-- Writing at the start of a constant buffer leaves the constant behind it. -/
theorem overwrite_replicate (a : α) (w : Vector α m) :
    overwrite (Vector.replicate (m + k) a) 0 w (by omega) = w ++ Vector.replicate k a := by
  apply Vector.ext
  intro i hi
  rw [getElem_overwrite, Vector.getElem_append]
  by_cases him : i < m
  · rw [dif_pos (by omega), dif_pos him]
    rfl
  · rw [dif_neg (by omega), dif_neg him, Vector.getElem_replicate, Vector.getElem_replicate]

/-- Writing over the whole of a buffer leaves nothing of it. -/
theorem overwrite_whole (v w : Vector α n) : overwrite v 0 w (by omega) = w := by
  apply Vector.ext
  intro i hi
  rw [getElem_overwrite, dif_pos (by omega)]
  rfl

/-! ## Windows as lists -/

theorem toList_window (v : Vector α n) {off len : ℕ} (h : off + len ≤ n) :
    (window v off len h).toList = (v.toList.drop off).take len := by
  refine List.ext_getElem (by simp; omega) fun i hi hi' => ?_
  simp only [Vector.getElem_toList, getElem_window, List.getElem_take, List.getElem_drop]

/-- The two halves of a buffer are the buffer. -/
theorem toList_window_append (v : Vector α n) (h : m + k = n) :
    (window v 0 m (by omega)).toList ++ (window v m k (by omega)).toList = v.toList := by
  have hlen : (v.toList.drop m).length ≤ k := by
    rw [List.length_drop, Vector.length_toList]
    omega
  rw [toList_window, toList_window, List.drop_zero, List.take_of_length_le hlen,
    List.take_append_drop]

/-- A written buffer has the entries before the window, what was written, and the entries
behind the window. -/
theorem toList_overwrite (v : Vector α n) {off : ℕ} (w : Vector α m) (h : off + m ≤ n) :
    (overwrite v off w h).toList
      = v.toList.take off ++ w.toList ++ v.toList.drop (off + m) := by
  have htake : (v.toList.take off).length = off := by
    rw [List.length_take, Vector.length_toList]
    omega
  rw [List.append_assoc]
  apply List.ext_getElem
  · simp only [List.length_append, htake, List.length_drop, Vector.length_toList]
    omega
  · intro i hi hi'
    rw [Vector.length_toList] at hi
    rw [Vector.getElem_toList, getElem_overwrite]
    by_cases hbefore : i < off
    · rw [dif_neg (by omega), List.getElem_append_left (by omega), List.getElem_take,
        Vector.getElem_toList]
    · rw [List.getElem_append_right (by omega)]
      by_cases hin : i < off + m
      · rw [dif_pos ⟨by omega, hin⟩,
          List.getElem_append_left (by rw [htake, Vector.length_toList]; omega),
          Vector.getElem_toList]
        simp only [htake]
      · rw [dif_neg (by omega),
          List.getElem_append_right (by rw [htake, Vector.length_toList]; omega),
          List.getElem_drop, Vector.getElem_toList]
        have hindex : off + m + (i - (v.toList.take off).length - w.toList.length) = i := by
          rw [htake, Vector.length_toList]
          omega
        simp only [hindex]

/-- Writing both halves of a buffer leaves nothing of what was there. -/
theorem toList_overwrite_halves (v : Vector α n) (w : Vector α m) (w' : Vector α k)
    (h : m + k = n) :
    (overwrite (overwrite v 0 w (by omega)) m w' (by omega)).toList = w.toList ++ w'.toList := by
  have hlen : v.toList.length = m + k := by rw [Vector.length_toList, h]
  rw [toList_overwrite, toList_overwrite, List.take_zero, List.nil_append,
    List.take_append_of_le_length (by simp), List.take_of_length_le (by simp),
    List.drop_eq_nil_of_le (by simp [hlen]), List.append_nil]

end Windows
end Sifir.Lib
