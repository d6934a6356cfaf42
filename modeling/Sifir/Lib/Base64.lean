import Mathlib.Tactic.Common

/-!
# Base64

The two alphabets of RFC 4648 (`standard`, §4, and `urlSafe`, §5), with or
without `=` padding. Decoding is strict: it accepts exactly the texts encoding
writes, so unused trailing bits must be zero and padding must be as encoding
puts it. `decode_eq_some` is that statement.
-/

namespace Sifir.Lib
namespace Base64

inductive Alphabet where
  | standard
  | urlSafe
deriving DecidableEq

/-- The digit of a six-bit value. -/
def digit (a : Alphabet) (n : ℕ) : Char :=
  if n < 26 then Char.ofNat (65 + n)
  else if n < 52 then Char.ofNat (71 + n)
  else if n < 62 then Char.ofNat (n - 4)
  else match a with
    | .standard => if n = 62 then '+' else '/'
    | .urlSafe => if n = 62 then '-' else '_'

/-- The six-bit value of a digit, zero for characters outside the alphabet. -/
def digitValue (a : Alphabet) (c : Char) : ℕ :=
  if 'A' ≤ c ∧ c ≤ 'Z' then c.toNat - 65
  else if 'a' ≤ c ∧ c ≤ 'z' then c.toNat - 71
  else if '0' ≤ c ∧ c ≤ '9' then c.toNat + 4
  else if c = digit a 62 then 62
  else if c = digit a 63 then 63
  else 0

/-- `k` padding characters, when the text is padded. -/
def padding (pad : Bool) (k : ℕ) : List Char := if pad then List.replicate k '=' else []

/-- Three bytes become four digits; one or two bytes left over become two or three. -/
def encode (a : Alphabet) (pad : Bool) : List UInt8 → List Char
  | [] => []
  | [x] => [digit a (x.toNat / 4), digit a (x.toNat % 4 * 16)] ++ padding pad 2
  | [x, y] =>
    [digit a (x.toNat / 4), digit a (x.toNat % 4 * 16 + y.toNat / 16),
      digit a (y.toNat % 16 * 4)] ++ padding pad 1
  | x :: y :: z :: rest =>
    [digit a (x.toNat / 4), digit a (x.toNat % 4 * 16 + y.toNat / 16),
      digit a (y.toNat % 16 * 4 + z.toNat / 64), digit a (z.toNat % 64)]
      ++ encode a pad rest

/-- The bytes four digits spell, whatever the characters are. -/
def spell (a : Alphabet) : List Char → List UInt8
  | c₀ :: c₁ :: c₂ :: c₃ :: rest =>
    let b₀ := UInt8.ofNat (digitValue a c₀ * 4 + digitValue a c₁ / 16)
    let b₁ := UInt8.ofNat (digitValue a c₁ % 16 * 16 + digitValue a c₂ / 4)
    let b₂ := UInt8.ofNat (digitValue a c₂ % 4 * 64 + digitValue a c₃)
    if c₂ = '=' then [b₀]
    else if c₃ = '=' then [b₀, b₁]
    else b₀ :: b₁ :: b₂ :: spell a rest
  | [c₀, c₁, c₂] =>
    [UInt8.ofNat (digitValue a c₀ * 4 + digitValue a c₁ / 16),
      UInt8.ofNat (digitValue a c₁ % 16 * 16 + digitValue a c₂ / 4)]
  | [c₀, c₁] => [UInt8.ofNat (digitValue a c₀ * 4 + digitValue a c₁ / 16)]
  | _ => []

/-- The bytes a text encodes, if it is one that encoding writes. -/
def decode (a : Alphabet) (pad : Bool) (s : List Char) : Option (List UInt8) :=
  if encode a pad (spell a s) = s then some (spell a s) else none

/-! ## Digits -/

theorem digitValue_digit (a : Alphabet) : ∀ n < 64, digitValue a (digit a n) = n := by
  cases a <;> decide

theorem digit_ne_pad (a : Alphabet) : ∀ n < 64, digit a n ≠ '=' := by
  cases a <;> decide

/-- A property of every digit and of the padding holds throughout an encoded text. -/
theorem forall_mem_encode {a : Alphabet} {pad : Bool} {p : Char → Prop}
    (hdigit : ∀ n < 64, p (digit a n)) (hpad : pad = true → p '=') (bs : List UInt8) :
    ∀ c ∈ encode a pad bs, p c := by
  have hpadding : ∀ k, ∀ c ∈ padding pad k, p c := by
    intro k c hc
    unfold padding at hc
    split at hc
    · next h =>
      obtain ⟨-, rfl⟩ := List.mem_replicate.mp hc
      exact hpad h
    · simp at hc
  fun_induction encode a pad bs with
  | case1 => simp
  | case2 x =>
    have hx := x.toNat_lt
    simp only [List.cons_append, List.nil_append, List.forall_mem_cons]
    exact ⟨hdigit _ (by omega), hdigit _ (by omega), hpadding 2⟩
  | case3 x y =>
    have hx := x.toNat_lt
    have hy := y.toNat_lt
    simp only [List.cons_append, List.nil_append, List.forall_mem_cons]
    exact ⟨hdigit _ (by omega), hdigit _ (by omega), hdigit _ (by omega), hpadding 1⟩
  | case4 x y z rest ih =>
    have hx := x.toNat_lt
    have hy := y.toNat_lt
    have hz := z.toNat_lt
    simp only [List.cons_append, List.nil_append, List.forall_mem_cons]
    exact ⟨hdigit _ (by omega), hdigit _ (by omega), hdigit _ (by omega), hdigit _ (by omega), ih⟩

/-! ## Round trip -/

/-- Spelling the digits of an encoded text gives its bytes. -/
theorem spell_encode (a : Alphabet) (pad : Bool) (bs : List UInt8) :
    spell a (encode a pad bs) = bs := by
  fun_induction encode a pad bs with
  | case1 => rfl
  | case2 x =>
    have hx := x.toNat_lt
    have h₀ := digitValue_digit a (x.toNat / 4) (by omega)
    have h₁ := digitValue_digit a (x.toNat % 4 * 16) (by omega)
    have hval : x.toNat / 4 * 4 + x.toNat % 4 * 16 / 16 = x.toNat := by omega
    cases pad <;>
      simp only [padding, spell, h₀, h₁, hval, List.cons_append, List.nil_append, List.replicate,
        if_true, if_false, Bool.false_eq_true, UInt8.ofNat_toNat]
  | case3 x y =>
    have hx := x.toNat_lt
    have hy := y.toNat_lt
    have h₀ := digitValue_digit a (x.toNat / 4) (by omega)
    have h₁ := digitValue_digit a (x.toNat % 4 * 16 + y.toNat / 16) (by omega)
    have h₂ := digitValue_digit a (y.toNat % 16 * 4) (by omega)
    have hne := digit_ne_pad a (y.toNat % 16 * 4) (by omega)
    have hval₀ : x.toNat / 4 * 4 + (x.toNat % 4 * 16 + y.toNat / 16) / 16 = x.toNat := by omega
    have hval₁ : (x.toNat % 4 * 16 + y.toNat / 16) % 16 * 16 + y.toNat % 16 * 4 / 4
        = y.toNat := by omega
    cases pad <;>
      simp only [padding, spell, h₀, h₁, h₂, hne, hval₀, hval₁, List.cons_append, List.nil_append,
        List.replicate, if_true, if_false, Bool.false_eq_true, UInt8.ofNat_toNat]
  | case4 x y z rest ih =>
    have hx := x.toNat_lt
    have hy := y.toNat_lt
    have hz := z.toNat_lt
    have h₀ := digitValue_digit a (x.toNat / 4) (by omega)
    have h₁ := digitValue_digit a (x.toNat % 4 * 16 + y.toNat / 16) (by omega)
    have h₂ := digitValue_digit a (y.toNat % 16 * 4 + z.toNat / 64) (by omega)
    have h₃ := digitValue_digit a (z.toNat % 64) (by omega)
    have hne₂ := digit_ne_pad a (y.toNat % 16 * 4 + z.toNat / 64) (by omega)
    have hne₃ := digit_ne_pad a (z.toNat % 64) (by omega)
    have hval₀ : x.toNat / 4 * 4 + (x.toNat % 4 * 16 + y.toNat / 16) / 16 = x.toNat := by omega
    have hval₁ : (x.toNat % 4 * 16 + y.toNat / 16) % 16 * 16
        + (y.toNat % 16 * 4 + z.toNat / 64) / 4 = y.toNat := by omega
    have hval₂ : (y.toNat % 16 * 4 + z.toNat / 64) % 4 * 64 + z.toNat % 64 = z.toNat := by omega
    simp only [List.cons_append, List.nil_append, spell, h₀, h₁, h₂, h₃, hne₂, hne₃, hval₀,
      hval₁, hval₂, ih, if_false, UInt8.ofNat_toNat]

/-- Decoding accepts exactly the texts that encoding writes. -/
theorem decode_eq_some {a : Alphabet} {pad : Bool} {s : List Char} {bs : List UInt8} :
    decode a pad s = some bs ↔ s = encode a pad bs := by
  unfold decode
  constructor
  · intro h
    split at h
    · next hs =>
      rw [Option.some.injEq] at h
      rw [← h, hs]
    · simp at h
  · rintro rfl
    rw [spell_encode, if_pos rfl]

theorem encode_injective (a : Alphabet) (pad : Bool) : Function.Injective (encode a pad) := by
  intro x y h
  rw [← spell_encode a pad x, h, spell_encode]

end Base64
end Sifir.Lib
