import Mathlib.Tactic.Common

/-!
# Hexadecimal text

Two digits a byte, high nibble first. Encoding writes lower-case digits;
decoding reads either case and refuses odd lengths and every other character.
Lenient decoding also passes over ASCII white space between the bytes.
-/

namespace Sifir.Lib
namespace Hex

/-- The lower-case digit of a nibble. -/
def digit (n : ℕ) : Char :=
  if n < 10 then Char.ofNat (48 + n) else Char.ofNat (87 + n)

/-- The value of a digit of either case. -/
def digitValue (c : Char) : Option ℕ :=
  if '0' ≤ c ∧ c ≤ '9' then some (c.toNat - 48)
  else if 'a' ≤ c ∧ c ≤ 'f' then some (c.toNat - 87)
  else if 'A' ≤ c ∧ c ≤ 'F' then some (c.toNat - 55)
  else none

/-- The two digits of a byte. -/
def byteDigits (b : UInt8) : List Char := [digit (b.toNat / 16), digit (b.toNat % 16)]

def encode (bs : List UInt8) : List Char := bs.flatMap byteDigits

/-- The digits of either case. -/
def isDigit (c : Char) : Bool := (digitValue c).isSome

def decode : List Char → Option (List UInt8)
  | [] => some []
  | [_] => none
  | hi :: lo :: rest => do
    let h ← digitValue hi
    let l ← digitValue lo
    let bs ← decode rest
    return UInt8.ofNat (16 * h + l) :: bs

/-- The white space of ASCII. -/
def isSpace (c : Char) : Bool := (9 ≤ c.toNat && c.toNat ≤ 13) || c.toNat == 32

/-- Decoding that skips white space before, between and after the bytes. -/
def decodeSpaced : List Char → Option (List UInt8)
  | [] => some []
  | [c] => if isSpace c then some [] else none
  | hi :: lo :: rest =>
    if isSpace hi then decodeSpaced (lo :: rest)
    else do
      let h ← digitValue hi
      let l ← digitValue lo
      let bs ← decodeSpaced rest
      return UInt8.ofNat (16 * h + l) :: bs

@[simp] theorem encode_nil : encode [] = [] := rfl

@[simp] theorem encode_cons (b : UInt8) (bs : List UInt8) :
    encode (b :: bs) = digit (b.toNat / 16) :: digit (b.toNat % 16) :: encode bs := rfl

@[simp] theorem length_encode (bs : List UInt8) : (encode bs).length = 2 * bs.length := by
  induction bs with
  | nil => rfl
  | cons b bs ih =>
    simp only [encode_cons, List.length_cons, ih]
    omega

/-! ## Digits -/

theorem digitValue_digit : ∀ n < 16, digitValue (digit n) = some n := by decide

theorem isDigit_iff {c : Char} :
    isDigit c = true ↔ ('0' ≤ c ∧ c ≤ '9') ∨ ('a' ≤ c ∧ c ≤ 'f') ∨ ('A' ≤ c ∧ c ≤ 'F') := by
  unfold isDigit digitValue
  by_cases hdec : '0' ≤ c ∧ c ≤ '9'
  · simp [hdec]
  · by_cases hlower : 'a' ≤ c ∧ c ≤ 'f'
    · simp [hdec, hlower]
    · by_cases hupper : 'A' ≤ c ∧ c ≤ 'F'
      · simp [hdec, hlower, hupper]
      · simp [hdec, hlower, hupper]

theorem isDigit_of_digitValue {c : Char} {n : ℕ} (h : digitValue c = some n) :
    isDigit c = true := by
  rw [isDigit, h]
  rfl

theorem char_le_iff {a b : Char} : a ≤ b ↔ a.toNat ≤ b.toNat := UInt32.le_iff_toNat_le

/-- The value of a digit is a nibble, and zero for `0` only. -/
theorem digitValue_spec {c : Char} {n : ℕ} (h : digitValue c = some n) :
    n < 16 ∧ (n = 0 ↔ c = '0') := by
  have hzero : c = '0' ↔ c.toNat = 48 := (Char.toNat_inj (d := '0')).symm
  unfold digitValue at h
  rw [hzero]
  split at h
  · next hrange =>
    rw [char_le_iff, char_le_iff] at hrange
    have hlow : 48 ≤ c.toNat := hrange.1
    have hhigh : c.toNat ≤ 57 := hrange.2
    rw [Option.some.injEq] at h
    omega
  · split at h
    · next hrange =>
      rw [char_le_iff, char_le_iff] at hrange
      have hlow : 97 ≤ c.toNat := hrange.1
      have hhigh : c.toNat ≤ 102 := hrange.2
      rw [Option.some.injEq] at h
      omega
    · split at h
      · next hrange =>
        rw [char_le_iff, char_le_iff] at hrange
        have hlow : 65 ≤ c.toNat := hrange.1
        have hhigh : c.toNat ≤ 70 := hrange.2
        rw [Option.some.injEq] at h
        omega
      · cases h

/-- A property of the lower-case digits holds throughout an encoded text. -/
theorem forall_mem_encode {p : Char → Prop} (hdigit : ∀ n < 16, p (digit n)) (bs : List UInt8) :
    ∀ c ∈ encode bs, p c := by
  induction bs with
  | nil => simp
  | cons b bs ih =>
    have hb : b.toNat < 256 := b.toNat_lt
    rw [encode_cons, List.forall_mem_cons, List.forall_mem_cons]
    exact ⟨hdigit _ (by omega), hdigit _ (by omega), ih⟩

/-! ## What is decoded -/

theorem decode_cons_cons {a b : Char} {s : List Char} {bs : List UInt8} :
    decode (a :: b :: s) = some bs ↔ ∃ h l rest, digitValue a = some h ∧ digitValue b = some l ∧
      decode s = some rest ∧ UInt8.ofNat (16 * h + l) :: rest = bs := by
  simp [decode, Option.bind_eq_some_iff]

/-- Pairs of digits become bytes. -/
theorem of_decode {s : List Char} {bs : List UInt8} (h : decode s = some bs) :
    s.length = 2 * bs.length ∧ ∀ c ∈ s, isDigit c = true := by
  fun_induction decode s generalizing bs with
  | case1 =>
    obtain rfl := Option.some.inj h
    simp
  | case2 => cases h
  | case3 a b s ih =>
    obtain ⟨hi, lo, rest, ha, hb, hrest, rfl⟩ := decode_cons_cons.mp h
    obtain ⟨hlen, hdigits⟩ := ih hrest
    refine ⟨by rw [List.length_cons, List.length_cons, List.length_cons]; omega, ?_⟩
    rw [List.forall_mem_cons, List.forall_mem_cons]
    exact ⟨isDigit_of_digitValue ha, isDigit_of_digitValue hb, hdigits⟩

/-- A text of `n` pairs of digits, and no other, decodes to `n` bytes. -/
theorem exists_decode_iff {s : List Char} {n : ℕ} :
    (∃ bs, decode s = some bs ∧ bs.length = n) ↔ s.length = 2 * n ∧ ∀ c ∈ s, isDigit c = true := by
  refine ⟨?_, ?_⟩
  · rintro ⟨bs, hbs, rfl⟩
    exact of_decode hbs
  · rintro ⟨hlen, hdigits⟩
    induction n generalizing s with
    | zero =>
      rw [List.eq_nil_of_length_eq_zero (by omega : s.length = 0)]
      exact ⟨[], rfl, rfl⟩
    | succ n ih =>
      match s, hlen, hdigits with
      | [a], hlen, _ => simp at hlen; omega
      | a :: b :: s, hlen, hdigits =>
        rw [List.forall_mem_cons, List.forall_mem_cons] at hdigits
        rw [List.length_cons, List.length_cons] at hlen
        obtain ⟨ha, hb, hs⟩ := hdigits
        obtain ⟨hi, hhi⟩ := Option.isSome_iff_exists.mp ha
        obtain ⟨lo, hlo⟩ := Option.isSome_iff_exists.mp hb
        obtain ⟨rest, hrest, hcount⟩ := ih (by omega) hs
        exact ⟨_, decode_cons_cons.mpr ⟨hi, lo, rest, hhi, hlo, hrest, rfl⟩,
          congrArg Nat.succ hcount⟩

/-- Only zeros decode to zero bytes. -/
theorem decode_eq_replicate_zero {s : List Char} {n : ℕ} :
    decode s = some (List.replicate n 0) ↔ s = List.replicate (2 * n) '0' := by
  induction n generalizing s with
  | zero =>
    refine ⟨fun h => ?_, fun h => h ▸ rfl⟩
    exact List.eq_nil_of_length_eq_zero (of_decode h).1
  | succ n ih =>
    have hdouble : 2 * (n + 1) = 2 * n + 1 + 1 := by omega
    rw [hdouble, List.replicate_succ, List.replicate_succ, List.replicate_succ]
    match s with
    | [] => simp [decode]
    | [a] => simp [decode]
    | a :: b :: s =>
      rw [decode_cons_cons, List.cons.injEq, List.cons.injEq, ← ih]
      refine ⟨?_, ?_⟩
      · rintro ⟨hi, lo, rest, ha, hb, hrest, heq⟩
        obtain ⟨hhi, ha0⟩ := digitValue_spec ha
        obtain ⟨hlo, hb0⟩ := digitValue_spec hb
        rw [List.cons.injEq, ← UInt8.toNat_inj, UInt8.toNat_ofNat'] at heq
        obtain ⟨hbyte, rfl⟩ := heq
        -- a byte of two nibbles is zero when both are
        have hsum : (16 * hi + lo) % 2 ^ 8 = 0 := hbyte
        exact ⟨ha0.mp (by omega), hb0.mp (by omega), hrest⟩
      · rintro ⟨rfl, rfl, hrest⟩
        exact ⟨0, 0, _, rfl, rfl, hrest, rfl⟩

/-! ## Spaced text -/

/-- Pairs of digits with white space between them. -/
inductive SpacedPairs : List Char → Prop
  | nil : SpacedPairs []
  | space {c : Char} {s : List Char} : isSpace c = true → SpacedPairs s → SpacedPairs (c :: s)
  | pair {a b : Char} {s : List Char} : isDigit a = true → isDigit b = true → SpacedPairs s →
      SpacedPairs (a :: b :: s)

theorem isSpace_of_isDigit {c : Char} (h : isDigit c = true) : isSpace c = false := by
  have hlow : 48 ≤ c.toNat := by
    rcases isDigit_iff.mp h with ⟨hfirst, -⟩ | ⟨hfirst, -⟩ | ⟨hfirst, -⟩
    · exact char_le_iff.mp hfirst
    · exact Nat.le_trans (by decide : 48 ≤ 97) (char_le_iff.mp hfirst)
    · exact Nat.le_trans (by decide : 48 ≤ 65) (char_le_iff.mp hfirst)
  simp only [isSpace, Bool.or_eq_false_iff, Bool.and_eq_false_iff, decide_eq_false_iff_not,
    beq_eq_false_iff_ne]
  omega

/-- Lenient decoding takes exactly the spaced pairs. -/
theorem exists_decodeSpaced_iff {s : List Char} :
    (∃ bs, decodeSpaced s = some bs) ↔ SpacedPairs s := by
  fun_induction decodeSpaced s with
  | case1 => exact iff_of_true ⟨[], rfl⟩ .nil
  | case2 c hc => exact iff_of_true ⟨[], rfl⟩ (.space hc .nil)
  | case3 c hc =>
    refine iff_of_false (by simp) fun h => ?_
    cases h with
    | space hspace _ => exact hc hspace
  | case4 hi lo rest hspace ih =>
    rw [ih]
    refine ⟨.space hspace, fun h => ?_⟩
    cases h with
    | space _ hrest => exact hrest
    | pair hdigit _ _ =>
      rw [isSpace_of_isDigit hdigit] at hspace
      cases hspace
  | case5 hi lo rest hspace ih =>
    simp only [Option.bind_eq_bind, Option.bind_eq_some_iff, Option.pure_def, Option.some.injEq]
    refine ⟨?_, fun h => ?_⟩
    · rintro ⟨_, h, hh, l, hl, bs, hbs, -⟩
      exact .pair (isDigit_of_digitValue hh) (isDigit_of_digitValue hl) (ih.mp ⟨bs, hbs⟩)
    · cases h with
      | space hc _ => exact absurd hc hspace
      | pair ha hb hrest =>
        obtain ⟨h, hh⟩ := Option.isSome_iff_exists.mp ha
        obtain ⟨l, hl⟩ := Option.isSome_iff_exists.mp hb
        obtain ⟨bs, hbs⟩ := ih.mpr hrest
        exact ⟨_, h, hh, l, hl, bs, hbs, rfl⟩

/-- Without white space the two decoders agree. -/
theorem decodeSpaced_of_forall {s : List Char} (h : ∀ c ∈ s, isSpace c = false) :
    decodeSpaced s = decode s := by
  fun_induction decode s with
  | case1 => rfl
  | case2 c =>
    have hc : isSpace c = false := h c List.mem_cons_self
    rw [decodeSpaced, hc]
    rfl
  | case3 hi lo rest ih =>
    rw [List.forall_mem_cons, List.forall_mem_cons] at h
    rw [decodeSpaced, h.1, ih h.2.2]
    rfl

/-- Spaced pairs without white space are digits. -/
theorem SpacedPairs.isDigit_of_mem {s : List Char} (h : SpacedPairs s)
    (hspace : ∀ c ∈ s, isSpace c = false) : ∀ c ∈ s, isDigit c = true := by
  obtain ⟨bs, hbs⟩ := exists_decodeSpaced_iff.mpr h
  rw [decodeSpaced_of_forall hspace] at hbs
  exact (of_decode hbs).2

/-! ## Round trip -/

theorem decode_encode (bs : List UInt8) : decode (encode bs) = some bs := by
  induction bs with
  | nil => rfl
  | cons b bs ih =>
    have hb : b.toNat < 256 := b.toNat_lt
    rw [encode_cons, decode, digitValue_digit _ (by omega), digitValue_digit _ (by omega), ih]
    show some (UInt8.ofNat (16 * (b.toNat / 16) + b.toNat % 16) :: bs) = some (b :: bs)
    rw [Nat.div_add_mod, UInt8.ofNat_toNat]

/-- Different byte strings have different hexadecimal texts. -/
theorem encode_injective : Function.Injective encode := by
  intro a b h
  have hdec : decode (encode a) = decode (encode b) := by rw [h]
  rwa [decode_encode, decode_encode, Option.some.injEq] at hdec

end Hex
end Sifir.Lib
