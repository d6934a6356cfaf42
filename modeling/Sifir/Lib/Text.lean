import Mathlib.Tactic.Common

/-!
# Strings

The string functions of a UTF-8 string library, over lists of characters: the
encoding itself, `trim`, `lines`, `split` at a character and lower-casing.

`lines` ends a line at a line feed, drops one carriage return before it, and
yields a last unterminated line as it stands unless it is empty. `trim` removes
the characters with the Unicode property `White_Space`. Lower-casing maps ASCII
letters itself and takes the rest of the Unicode mapping, which may look at the
neighbouring characters, as a parameter.
-/

namespace Sifir.Lib
namespace Text

/-! ## UTF-8 -/

def utf8Bytes (s : String) : List UInt8 := s.toUTF8.data.toList

def ofUtf8 (b : List UInt8) : Option String := String.fromUTF8? ⟨b.toArray⟩

theorem ofUtf8_utf8Bytes (s : String) : ofUtf8 (utf8Bytes s) = some s := by
  have hbytes : (⟨(utf8Bytes s).toArray⟩ : ByteArray) = s.toUTF8 := by
    simp [utf8Bytes]
  simp only [ofUtf8, hbytes, String.fromUTF8?, String.toUTF8_eq_toByteArray,
    dif_pos s.isValidUTF8]
  rfl

/-- A text is read only from its own bytes. -/
theorem ofUtf8_eq_some {b : List UInt8} {s : String} : ofUtf8 b = some s ↔ b = utf8Bytes s := by
  refine ⟨fun h => ?_, fun h => h ▸ ofUtf8_utf8Bytes s⟩
  unfold ofUtf8 String.fromUTF8? at h
  by_cases hvalid : (⟨b.toArray⟩ : ByteArray).IsValidUTF8
  · rw [dif_pos hvalid, Option.some.injEq] at h
    rw [← h]
    rfl
  · rw [dif_neg hvalid] at h
    cases h

theorem utf8Bytes_injective : Function.Injective utf8Bytes := by
  intro s t h
  have hread := congrArg ofUtf8 h
  rwa [ofUtf8_utf8Bytes, ofUtf8_utf8Bytes, Option.some.injEq] at hread

/-! ## White space -/

/-- The characters with the property `White_Space`. -/
def isWhitespace (c : Char) : Bool :=
  (9 ≤ c.toNat && c.toNat ≤ 13) || c.toNat == 0x20 || c.toNat == 0x85 || c.toNat == 0xA0 ||
    c.toNat == 0x1680 || (0x2000 ≤ c.toNat && c.toNat ≤ 0x200A) || c.toNat == 0x2028 ||
    c.toNat == 0x2029 || c.toNat == 0x202F || c.toNat == 0x205F || c.toNat == 0x3000

def trim (s : List Char) : List Char :=
  ((s.dropWhile isWhitespace).reverse.dropWhile isWhitespace).reverse

/-- A text without white space has nothing to trim. -/
theorem trim_of_forall {s : List Char} (h : ∀ c ∈ s, isWhitespace c = false) : trim s = s := by
  have hdrop : ∀ l : List Char, (∀ c ∈ l, isWhitespace c = false) →
      l.dropWhile isWhitespace = l := by
    intro l hl
    cases l with
    | nil => rfl
    | cons c l => exact List.dropWhile_cons_of_neg (by simp [hl c List.mem_cons_self])
  rw [trim, hdrop s h, hdrop _ fun c hc => h c (List.mem_reverse.mp hc), List.reverse_reverse]

/-- White space before a text is trimmed. -/
theorem trim_append_left {lead : List Char} (h : ∀ c ∈ lead, isWhitespace c = true)
    (s : List Char) : trim (lead ++ s) = trim s := by
  rw [trim, trim, List.dropWhile_append_of_pos h]

/-- White space behind a text is trimmed. -/
theorem trim_append_right {trail : List Char} (h : ∀ c ∈ trail, isWhitespace c = true)
    (s : List Char) : trim (s ++ trail) = trim s := by
  have htrail : trail.dropWhile isWhitespace = [] := by
    rw [← List.append_nil trail, List.dropWhile_append_of_pos h, List.dropWhile_nil]
  rw [trim, trim, List.dropWhile_append]
  by_cases hblank : (s.dropWhile isWhitespace).isEmpty = true
  · rw [if_pos hblank, htrail, List.isEmpty_iff.mp hblank]
  · rw [if_neg hblank, List.reverse_append,
      List.dropWhile_append_of_pos fun c hc => h c (List.mem_reverse.mp hc)]

/-! ## Lines -/

/-- A line without the carriage return of its line ending. -/
def stripCr (l : List Char) : List Char :=
  if l.getLast? = some '\r' then l.dropLast else l

/-- The lines of a text of which `line` is already read. -/
def linesFrom : List Char → List Char → List (List Char)
  | line, [] => if line = [] then [] else [line]
  | line, c :: cs =>
    if c = '\n' then stripCr line :: linesFrom [] cs else linesFrom (line ++ [c]) cs

def lines (s : List Char) : List (List Char) := linesFrom [] s

theorem linesFrom_append_newline (line l rest : List Char) (h : '\n' ∉ l) :
    linesFrom line (l ++ '\n' :: rest) = stripCr (line ++ l) :: lines rest := by
  induction l generalizing line with
  | nil => simp [linesFrom, lines]
  | cons c l ih =>
    obtain ⟨hc, hl⟩ := not_or.mp (List.mem_cons.not.mp h)
    rw [List.cons_append, linesFrom, if_neg (Ne.symm hc), ih _ hl, List.append_assoc]
    rfl

/-- The first line of a text, and the lines after it. -/
theorem lines_append_newline {l : List Char} (h : '\n' ∉ l) (rest : List Char) :
    lines (l ++ '\n' :: rest) = stripCr l :: lines rest :=
  linesFrom_append_newline [] l rest h

theorem linesFrom_of_notMem (line : List Char) {l : List Char} (h : '\n' ∉ l) :
    linesFrom line l = if line ++ l = [] then [] else [line ++ l] := by
  induction l generalizing line with
  | nil => rw [linesFrom, List.append_nil]
  | cons c l ih =>
    obtain ⟨hc, hl⟩ := not_or.mp (List.mem_cons.not.mp h)
    rw [linesFrom, if_neg (Ne.symm hc), ih _ hl, List.append_assoc]
    rfl

/-- What follows the last line feed is a line unless it is empty. -/
theorem lines_of_notMem {l : List Char} (h : '\n' ∉ l) :
    lines l = if l = [] then [] else [l] :=
  linesFrom_of_notMem [] h

theorem stripCr_of_notMem {l : List Char} (h : '\r' ∉ l) : stripCr l = l :=
  if_neg fun hlast => h (List.mem_of_getLast? hlast)

/-- The carriage return of a line ending is white space at the end of the line. -/
theorem trim_stripCr (l : List Char) : trim (stripCr l) = trim l := by
  unfold stripCr
  by_cases hlast : l.getLast? = some '\r'
  · obtain ⟨l', rfl⟩ := List.getLast?_eq_some_iff.mp hlast
    rw [if_pos hlast, List.dropLast_concat, trim_append_right (List.forall_mem_singleton.mpr rfl)]
  · rw [if_neg hlast]

/-! ## Lower case -/

/-- The lower-case text of `cs`, of which `before` has already gone by in reverse
order; `table` is the mapping outside ASCII. -/
def lowercaseFrom (table : List Char → Char → List Char → List Char) :
    List Char → List Char → List Char
  | _, [] => []
  | before, c :: cs =>
    (if c.toNat < 128 then [c.toLower] else table before c cs)
      ++ lowercaseFrom table (c :: before) cs

def toLowercase (table : List Char → Char → List Char → List Char) (s : String) : String :=
  String.ofList (lowercaseFrom table [] s.toList)

theorem toLower_of_not_ascii {c : Char} (h : ¬ c.toNat < 128) : c.toLower = c := by
  have hupper : ¬ ('A'.val ≤ c.val ∧ c.val ≤ 'Z'.val) := by
    intro hrange
    have hle : c.toNat ≤ 90 := hrange.2
    omega
  exact dif_neg hupper

/-- A text in ASCII is the lower case of the texts that differ from it in the case of
ASCII letters, when the table gives no character outside ASCII a letter of it. -/
theorem lowercaseFrom_eq_iff {table : List Char → Char → List Char → List Char}
    {target : List Char} (hascii : ∀ d ∈ target, d.toNat < 128)
    (htable : ∀ before c after, ¬ c.toNat < 128 →
      table before c after ≠ [] ∧ ∀ d ∈ table before c after, d ∉ target)
    {before cs : List Char} :
    lowercaseFrom table before cs = target ↔ cs.map Char.toLower = target := by
  induction cs generalizing before target with
  | nil => rw [lowercaseFrom, List.map_nil]
  | cons c cs ih =>
    rw [lowercaseFrom, List.map_cons]
    by_cases hc : c.toNat < 128
    · rw [if_pos hc, List.cons_append, List.nil_append]
      cases target with
      | nil => simp
      | cons d target =>
        rw [List.forall_mem_cons] at hascii
        have htail : ∀ before c after, ¬ c.toNat < 128 →
            table before c after ≠ [] ∧ ∀ d ∈ table before c after, d ∉ target :=
          fun before c after h => ⟨(htable before c after h).1, fun e he hmem =>
            (htable before c after h).2 e he (List.mem_cons_of_mem _ hmem)⟩
        rw [List.cons.injEq, List.cons.injEq, ih hascii.2 htail]
    · -- neither side is in ASCII
      rw [if_neg hc, toLower_of_not_ascii hc]
      obtain ⟨hne, hout⟩ := htable before c cs hc
      obtain ⟨d, ds, hd⟩ := List.exists_cons_of_ne_nil hne
      refine iff_of_false ?_ ?_
      · intro h
        rw [hd, List.cons_append] at h
        exact hout d (hd ▸ List.mem_cons_self) (h ▸ List.mem_cons_self)
      · intro h
        exact hc (hascii c (h ▸ List.mem_cons_self))

/-! ## Splitting -/

/-- The pieces of a text between the occurrences of a character. -/
def split (c : Char) (s : String) : List String := (s.toList.splitOn c).map String.ofList

/-- Pieces without the separator, joined with it, split into themselves. -/
theorem split_intercalate (c : Char) {ps : List (List Char)} (hps : ∀ p ∈ ps, c ∉ p)
    (hne : ps ≠ []) :
    split c (String.ofList ([c].intercalate ps)) = ps.map String.ofList := by
  rw [split, String.toList_ofList, List.splitOn_intercalate c hps hne]

theorem length_splitOn (c : Char) (s : List Char) : (s.splitOn c).length = s.count c + 1 := by
  induction s with
  | nil => rfl
  | cons a s ih =>
    rw [List.splitOn_cons_eq_if_modifyHead, List.count_cons]
    by_cases ha : (a == c) = true
    · rw [if_pos ha, if_pos ha, List.length_cons, ih]
    · rw [if_neg ha, if_neg ha, List.length_modifyHead, ih, Nat.add_zero]

/-- A text has three pieces when the separator occurs twice. -/
theorem split_eq_three {c : Char} {s a m b : String} :
    split c s = [a, m, b] ↔ s.toList.count c = 2 ∧
      s.toList = a.toList ++ c :: (m.toList ++ c :: b.toList) := by
  refine ⟨fun h => ?_, ?_⟩
  · have hsplit : s.toList.splitOn c = [a.toList, m.toList, b.toList] := by
      have hlist := congrArg (List.map String.toList) h
      rw [split, List.map_map] at hlist
      simpa using hlist
    have hlen := length_splitOn c s.toList
    rw [hsplit, List.length_cons, List.length_cons, List.length_singleton] at hlen
    refine ⟨by omega, ?_⟩
    have hjoin : [c].intercalate (s.toList.splitOn c) = s.toList := List.intercalate_splitOn c
    rw [← hjoin, hsplit]
    simp
  · rintro ⟨hcount, hs⟩
    -- the two separators are the ones between the pieces
    rw [hs, List.count_append, List.count_cons_self, List.count_append, List.count_cons_self]
      at hcount
    have ha : c ∉ a.toList := List.count_eq_zero.mp (by omega)
    have hm : c ∉ m.toList := List.count_eq_zero.mp (by omega)
    have hb : c ∉ b.toList := List.count_eq_zero.mp (by omega)
    rw [split, hs, List.splitOn_append_cons_self_of_not_mem ha,
      List.splitOn_append_cons_self_of_not_mem hm, List.splitOn_eq_singleton hb]
    simp

/-! ## Delimited fields -/

/-- A field that does not contain its delimiter is read off unambiguously. -/
theorem append_delim_inj {c : Char} {xs ys s t : List Char} (hx : c ∉ xs) (hy : c ∉ ys) :
    xs ++ c :: s = ys ++ c :: t ↔ xs = ys ∧ s = t := by
  constructor
  · intro h
    have hne : ∀ l : List Char, c ∉ l → ∀ a ∈ l, (decide (a ≠ c)) = true := by
      intro l hl a ha
      rw [decide_eq_true_eq]
      rintro rfl
      exact hl ha
    -- what comes before the first delimiter is the same on both sides
    have htake := congrArg (List.takeWhile fun a => decide (a ≠ c)) h
    rw [List.takeWhile_append_of_pos (hne xs hx), List.takeWhile_append_of_pos (hne ys hy),
      List.takeWhile_cons_of_neg (by simp), List.takeWhile_cons_of_neg (by simp),
      List.append_nil, List.append_nil] at htake
    subst htake
    rw [List.append_cancel_left_eq, List.cons.injEq] at h
    exact ⟨rfl, h.2⟩
  · rintro ⟨rfl, rfl⟩
    rfl

/-- The decimal text of a number is made of digits. -/
theorem isDigit_of_mem_toString {n : ℕ} {c : Char} (h : c ∈ (toString n).toList) :
    c.isDigit = true := by
  rw [Nat.toString_eq_repr, Nat.toList_repr] at h
  exact Nat.isDigit_of_mem_toDigits (by decide) (by decide) h

/-- The decimal text of a number determines it. -/
theorem toString_toList_inj {m n : ℕ} : (toString m).toList = (toString n).toList ↔ m = n := by
  constructor
  · intro h
    rw [Nat.toString_eq_repr, Nat.toString_eq_repr, Nat.toList_repr, Nat.toList_repr] at h
    have hm : Nat.ofDigitChars 10 (Nat.toDigits 10 m) 0 = m := Nat.ofDigitChars_ten_toDigits
    rwa [h, Nat.ofDigitChars_ten_toDigits, eq_comm] at hm
  · rintro rfl
    rfl

end Text
end Sifir.Lib
