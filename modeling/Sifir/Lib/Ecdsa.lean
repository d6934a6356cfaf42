import Mathlib.Data.List.Palindrome
import Mathlib.Data.Nat.Digits.Lemmas
import Mathlib.Tactic.NormNum

/-!
# Fixed-size ECDSA signatures

Byte strings as integers (`leNat`, `beNat`), scalars modulo a group order, and
the fixed-size signature format: `r ‖ s`, two big-endian integers of `w` bytes
each, both in `[1, n)`. A `Scalar` carries its range, so a `Signature` that
exists is one the format accepts.
-/

namespace Sifir.Lib
namespace Ecdsa

/-! ## Byte strings as integers -/

/-- The integer a byte string denotes, least significant byte first. -/
def leNat (b : List UInt8) : ℕ := Nat.ofDigits 256 (b.map UInt8.toNat)

/-- The integer a byte string denotes, most significant byte first. -/
def beNat (b : List UInt8) : ℕ := leNat b.reverse

/-- The `w` low bytes of a number, most significant byte first. -/
def beBytes : ℕ → ℕ → List UInt8
  | 0, _ => []
  | w + 1, v => beBytes w (v / 256) ++ [UInt8.ofNat (v % 256)]

/-- The `w` low bytes of a number, least significant byte first. -/
def leBytes : ℕ → ℕ → List UInt8
  | 0, _ => []
  | w + 1, v => UInt8.ofNat (v % 256) :: leBytes w (v / 256)

@[simp] theorem leNat_nil : leNat [] = 0 := rfl

@[simp] theorem leNat_cons (b : UInt8) (bs : List UInt8) :
    leNat (b :: bs) = b.toNat + 256 * leNat bs := by
  simp [leNat, Nat.ofDigits_cons]

theorem beNat_append_singleton (bs : List UInt8) (b : UInt8) :
    beNat (bs ++ [b]) = b.toNat + 256 * beNat bs := by
  simp [beNat]

@[simp] theorem length_beBytes (w v : ℕ) : (beBytes w v).length = w := by
  induction w generalizing v with
  | zero => rfl
  | succ w ih => simp [beBytes, ih]

/-- A number that fits is what its bytes denote. -/
theorem beNat_beBytes {w v : ℕ} (h : v < 256 ^ w) : beNat (beBytes w v) = v := by
  induction w generalizing v with
  | zero =>
    have hv : v = 0 := by simpa using h
    subst hv
    rfl
  | succ w ih =>
    have hdiv : v / 256 < 256 ^ w := by
      rw [Nat.div_lt_iff_lt_mul (by norm_num)]
      rwa [pow_succ] at h
    have hbyte : v % 256 < 256 := Nat.mod_lt _ (by norm_num)
    rw [beBytes, beNat_append_singleton, ih hdiv, UInt8.toNat_ofNat',
      Nat.mod_eq_of_lt (show v % 256 < 2 ^ 8 from hbyte)]
    omega

/-! ## The two byte orders -/

theorem reverse_leBytes (w v : ℕ) : (leBytes w v).reverse = beBytes w v := by
  induction w generalizing v with
  | zero => rfl
  | succ w ih => rw [leBytes, List.reverse_cons, ih, beBytes]

@[simp] theorem length_leBytes (w v : ℕ) : (leBytes w v).length = w := by
  rw [← List.length_reverse, reverse_leBytes, length_beBytes]

/-- A wider field starts with the bytes of a narrower one. -/
theorem take_leBytes (w k v : ℕ) : (leBytes (w + k) v).take w = leBytes w v := by
  induction w generalizing v with
  | zero => rfl
  | succ w ih =>
    have hwidth : w + 1 + k = (w + k) + 1 := by omega
    rw [hwidth, leBytes, List.take_succ_cons, ih, leBytes]

theorem forall_mem_map_toNat (b : List UInt8) : ∀ d ∈ b.map UInt8.toNat, d < 256 := by
  intro d hd
  obtain ⟨c, -, rfl⟩ := List.mem_map.mp hd
  exact c.toNat_lt

theorem leNat_lt (b : List UInt8) : leNat b < 256 ^ b.length := by
  have hlt := Nat.ofDigits_lt_base_pow_length (by norm_num) (forall_mem_map_toNat b)
  rwa [List.length_map] at hlt

/-- Byte strings of one length are told apart by the integers they denote. -/
theorem leNat_inj {a b : List UInt8} (hlen : a.length = b.length) : leNat a = leNat b ↔ a = b := by
  refine ⟨fun h => ?_, fun h => by rw [h]⟩
  have hmap : a.map UInt8.toNat = b.map UInt8.toNat :=
    Nat.ofDigits_inj_of_len_eq (by norm_num) (by simpa using hlen) (forall_mem_map_toNat a)
      (forall_mem_map_toNat b) h
  exact List.map_injective_iff.mpr (fun x y hxy => UInt8.toNat_inj.mp hxy) hmap

/-- Reading the little-endian bytes of a number as a big-endian integer gives the number
exactly when they read the same from both ends. -/
theorem beNat_leBytes_iff {w v : ℕ} (h : v < 256 ^ w) :
    beNat (leBytes w v) = v ↔ (leBytes w v).Palindrome := by
  have hread : leNat (leBytes w v) = v := by
    have hbe := beNat_beBytes h
    rwa [← reverse_leBytes, beNat, List.reverse_reverse] at hbe
  rw [List.Palindrome.iff_reverse_eq, ← leNat_inj (List.length_reverse ..), hread]
  rfl

/-! ## Scalars and signatures -/

/-- A nonzero scalar modulo the group order `n`. -/
@[ext] structure Scalar (n : ℕ) where
  val : ℕ
  pos : 0 < val
  lt : val < n
deriving DecidableEq

/-- A signature over a group of order `n`. -/
@[ext] structure Signature (n : ℕ) where
  r : Scalar n
  s : Scalar n
deriving DecidableEq

/-- The range a big-endian integer must lie in to be a scalar. -/
def IsScalar (n : ℕ) (b : List UInt8) : Prop := 0 < beNat b ∧ beNat b < n

instance (n : ℕ) (b : List UInt8) : Decidable (IsScalar n b) := by
  unfold IsScalar
  infer_instance

/-- A big-endian integer as a scalar. -/
def Scalar.ofBytes (n : ℕ) (b : List UInt8) : Option (Scalar n) :=
  if h : IsScalar n b then some ⟨beNat b, h.1, h.2⟩ else none

/-- The fixed-size format: `2 * w` bytes, `r` then `s`. -/
def Signature.ofBytes (n w : ℕ) (b : List UInt8) : Option (Signature n) :=
  if b.length = 2 * w then do
    let r ← Scalar.ofBytes n (b.take w)
    let s ← Scalar.ofBytes n (b.drop w)
    return { r, s }
  else none

def Signature.toBytes {n : ℕ} (w : ℕ) (σ : Signature n) : List UInt8 :=
  beBytes w σ.r.val ++ beBytes w σ.s.val

theorem Scalar.ofBytes_eq_some {n : ℕ} {b : List UInt8} {k : Scalar n} :
    Scalar.ofBytes n b = some k ↔ k.val = beNat b := by
  unfold Scalar.ofBytes
  split
  · next h =>
    rw [Option.some.injEq, Scalar.ext_iff]
    exact eq_comm
  · next h =>
    simp only [reduceCtorEq, false_iff]
    intro hk
    exact h ⟨hk ▸ k.pos, hk ▸ k.lt⟩

/-- What the fixed-size format reads: the two halves, each a big-endian integer. -/
theorem Signature.ofBytes_append_eq_some {n w : ℕ} {r s : List UInt8} (hr : r.length = w)
    (hs : s.length = w) {σ : Signature n} :
    Signature.ofBytes n w (r ++ s) = some σ ↔ σ.r.val = beNat r ∧ σ.s.val = beNat s := by
  unfold Signature.ofBytes
  rw [if_pos (by rw [List.length_append]; omega), List.take_left' hr, List.drop_left' hr]
  constructor
  · intro h
    simp only [Option.bind_eq_bind, Option.bind_eq_some_iff, Option.pure_def,
      Option.some.injEq] at h
    obtain ⟨r', hr', s', hs', rfl⟩ := h
    exact ⟨Scalar.ofBytes_eq_some.mp hr', Scalar.ofBytes_eq_some.mp hs'⟩
  · rintro ⟨hr', hs'⟩
    rw [Scalar.ofBytes_eq_some.mpr hr', Scalar.ofBytes_eq_some.mpr hs']
    rfl

/-- The fixed-size format accepts two halves exactly when both are scalars. -/
theorem Signature.isSome_ofBytes_append {n w : ℕ} {r s : List UInt8} (hr : r.length = w)
    (hs : s.length = w) :
    (∃ σ, Signature.ofBytes n w (r ++ s) = some σ) ↔ IsScalar n r ∧ IsScalar n s := by
  simp only [Signature.ofBytes_append_eq_some hr hs]
  constructor
  · rintro ⟨σ, h1, h2⟩
    exact ⟨⟨h1 ▸ σ.r.pos, h1 ▸ σ.r.lt⟩, ⟨h2 ▸ σ.s.pos, h2 ▸ σ.s.lt⟩⟩
  · rintro ⟨h1, h2⟩
    exact ⟨⟨⟨beNat r, h1.1, h1.2⟩, ⟨beNat s, h2.1, h2.2⟩⟩, rfl, rfl⟩

/-- The fixed-size format reads back what it writes. -/
theorem Signature.ofBytes_toBytes {n w : ℕ} (hn : n ≤ 256 ^ w) (σ : Signature n) :
    Signature.ofBytes n w (σ.toBytes w) = some σ := by
  rw [Signature.toBytes, Signature.ofBytes_append_eq_some (by simp) (by simp),
    beNat_beBytes (lt_of_lt_of_le σ.r.lt hn), beNat_beBytes (lt_of_lt_of_le σ.s.lt hn)]
  exact ⟨rfl, rfl⟩

end Ecdsa
end Sifir.Lib
