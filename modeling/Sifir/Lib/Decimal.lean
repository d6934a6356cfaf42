import Sifir.Lib.Serde
import Mathlib.Data.List.TakeWhile
import Mathlib.Data.Nat.Digits.Lemmas

/-!
# Natural numbers in JSON

The decimal text of a natural number, the number a text of digits spells, and the
fields of fixed width that are read and written so.
-/

namespace Sifir.Lib
namespace Json

/-! ## Digits -/

def digitByte (d : ℕ) : UInt8 := UInt8.ofNat (48 + d)

/-- The decimal text of a natural number. -/
def decimal (n : ℕ) : List UInt8 :=
  if n = 0 then [byte '0'] else (Nat.digits 10 n).reverse.map digitByte

/-- The number a text of digits spells. -/
def spelled (cs : List UInt8) : ℕ := cs.foldl (fun v c => 10 * v + (c.toNat - 48)) 0

theorem digitByte_spec : ∀ d < 10, isDigit (digitByte d) = true ∧
    isNumberByte (digitByte d) = true ∧ (digitByte d).toNat - 48 = d ∧
    digitByte d ≠ byte '-' ∧ (d ≠ 0 → digitByte d ≠ byte '0') := by
  decide

theorem digits_lt (n : ℕ) : ∀ d ∈ Nat.digits 10 n, d < 10 :=
  fun _ hd => Nat.digits_lt_base (by decide) hd

theorem isDigit_of_mem_decimal (n : ℕ) : ∀ c ∈ decimal n, isDigit c = true := by
  unfold decimal
  by_cases hn : n = 0
  · rw [if_pos hn, List.forall_mem_singleton]
    decide
  · rw [if_neg hn, List.forall_mem_map]
    intro d hd
    exact (digitByte_spec d (digits_lt n d (List.mem_reverse.mp hd))).1

/-- The decimal text of a number spells it. -/
theorem spelled_decimal (n : ℕ) : spelled (decimal n) = n := by
  unfold decimal
  by_cases hn : n = 0
  · rw [if_pos hn, hn]
    rfl
  · have hfold : ∀ ds : List ℕ, (∀ d ∈ ds, d < 10) →
        spelled (ds.reverse.map digitByte) = Nat.ofDigits 10 ds := by
      intro ds hds
      rw [spelled, List.foldl_map, List.foldl_reverse]
      induction ds with
      | nil => rfl
      | cons d ds ih =>
        rw [List.forall_mem_cons] at hds
        rw [List.foldr_cons, ih hds.2, (digitByte_spec d hds.1).2.2.1, Nat.ofDigits_cons,
          Nat.add_comm]
    rw [if_neg hn, hfold _ (digits_lt n), Nat.ofDigits_digits]

/-! ## Numbers -/

theorem skipDigits_of_forall {cs : List UInt8} (hne : cs ≠ []) (h : ∀ c ∈ cs, isDigit c = true) :
    skipDigits cs = some [] := by
  have htake : cs.takeWhile isDigit = cs := List.takeWhile_eq_self_iff.mpr h
  have hdrop : cs.dropWhile isDigit = [] := List.dropWhile_eq_nil_iff.mpr h
  rw [skipDigits, htake, hdrop, if_neg (by simpa using hne)]

/-- Digits that do not start with a zero are a number. -/
theorem isNumber_of_digits {c : UInt8} {cs : List UInt8} (hzero : c ≠ byte '0')
    (hminus : c ≠ byte '-') (h : ∀ d ∈ c :: cs, isDigit d = true ∧ isNumberByte d = true) :
    isNumber (c :: cs) = true := by
  have hskip : skipInt (c :: cs) = some [] := by
    rw [skipInt, if_neg hzero]
    exact skipDigits_of_forall (List.cons_ne_nil c cs) fun d hd => (h d hd).1
  have hfirst : isDigit c = true := (h c List.mem_cons_self).1
  have hall : (c :: cs).all isNumberByte = true :=
    List.all_eq_true.mpr fun d hd => (h d hd).2
  rw [isNumber, if_neg hminus, hskip, hfirst, hall]
  simp [skipFrac, skipExp]

theorem isNumber_decimal (n : ℕ) : isNumber (decimal n) = true := by
  unfold decimal
  by_cases hn : n = 0
  · rw [if_pos hn]
    decide
  · have hlast := Nat.getLast_digit_ne_zero 10 hn
    have hlt := digits_lt n
    obtain ⟨ds, d, hds⟩ :=
      (List.eq_nil_or_concat (Nat.digits 10 n)).resolve_left (Nat.digits_ne_nil_iff_ne_zero.mpr hn)
    simp only [hds, List.concat_eq_append, List.getLast_concat] at hlast hlt ⊢
    rw [if_neg hn, List.reverse_concat, List.map_cons]
    -- the leading digit is the last one of `Nat.digits`
    obtain ⟨-, -, -, hminus, hzero⟩ := digitByte_spec d (hlt d (by simp))
    refine isNumber_of_digits (hzero hlast) hminus ?_
    rw [← List.map_cons, List.forall_mem_map]
    intro e he
    have hspec := digitByte_spec e (hlt e (by simpa [or_comm] using he))
    exact ⟨hspec.1, hspec.2.1⟩

/-- The number token of a natural number. -/
def Number.ofNat (n : ℕ) : Number where
  text := decimal n
  valid := isNumber_decimal n

/-- The natural number a token is, when it has neither sign, fraction nor exponent. -/
def Number.nat (x : Number) : Option ℕ :=
  if x.text.all isDigit then some (spelled x.text) else none

theorem Number.nat_ofNat (n : ℕ) : (Number.ofNat n).nat = some n := by
  have hall : (Number.ofNat n).text.all isDigit = true :=
    List.all_eq_true.mpr (isDigit_of_mem_decimal n)
  rw [Number.nat, if_pos hall]
  exact congrArg some (spelled_decimal n)

end Json

namespace Serde

/-! ## Fields -/

def ofU32 (n : UInt32) : Json := .num (Json.Number.ofNat n.toNat)

/-- A number of 32 bits. -/
def u32 : Json → Option UInt32
  | .num x => do
    let n ← x.nat
    if n < 2 ^ 32 then return UInt32.ofNat n else none
  | _ => none

@[simp] theorem u32_ofU32 (n : UInt32) : u32 (ofU32 n) = some n := by
  have hlt : n.toNat < 2 ^ 32 := n.toNat_lt
  rw [ofU32, u32, Json.Number.nat_ofNat]
  show (if n.toNat < 2 ^ 32 then some (UInt32.ofNat n.toNat) else none) = some n
  rw [if_pos hlt, UInt32.ofNat_toNat]

end Serde
end Sifir.Lib
