import Sifir.Lib.JsonTheorems
import Sifir.Lib.Text

/-!
# Characters in JSON strings

The UTF-8 bytes of a text, character by character, and the escapes that stand for
them: a serialiser may write a character as `\u` and its code unit, or as the two
halves of a surrogate pair. Objects are read with white space between their tokens.
-/

namespace Sifir.Lib
namespace Json

open Text

/-! ## UTF-8 -/

/-- A character is a code point, and not a surrogate. -/
theorem toNat_lt (c : Char) : c.toNat < 0x110000 ∧ ¬ (0xD800 ≤ c.toNat ∧ c.toNat < 0xE000) := by
  have hvalid : c.toNat < 0xD800 ∨ 0xDFFF < c.toNat ∧ c.toNat < 0x110000 := c.valid
  omega

theorem utf8_toNat (c : Char) : utf8 c.toNat = String.utf8EncodeChar c := by
  have hlt := (toNat_lt c).1
  show _ = if c.toNat ≤ 0x7f then _ else if c.toNat ≤ 0x7ff then _
    else if c.toNat ≤ 0xffff then _ else _
  rw [utf8]
  by_cases h1 : c.toNat < 0x80
  · rw [if_pos h1, if_pos (show c.toNat ≤ 0x7f by omega)]
    rfl
  rw [if_neg h1, if_neg (show ¬ c.toNat ≤ 0x7f by omega)]
  by_cases h2 : c.toNat < 0x800
  · have hlead : c.toNat / 64 % 32 = c.toNat / 64 := by omega
    rw [if_pos h2, if_pos (show c.toNat ≤ 0x7ff by omega), Nat.add_comm 0xC0, Nat.add_comm 0x80]
    show _ = [UInt8.ofNat (c.toNat / 64 % 32 + 0xc0), UInt8.ofNat (c.toNat % 64 + 0x80)]
    rw [hlead]
  rw [if_neg h2, if_neg (show ¬ c.toNat ≤ 0x7ff by omega)]
  by_cases h3 : c.toNat < 0x10000
  · have hlead : c.toNat / 4096 % 16 = c.toNat / 4096 := by omega
    rw [if_pos h3, if_pos (show c.toNat ≤ 0xffff by omega), Nat.add_comm 0xE0, Nat.add_comm 0x80,
      Nat.add_comm 0x80]
    show _ = [UInt8.ofNat (c.toNat / 4096 % 16 + 0xe0), UInt8.ofNat (c.toNat / 64 % 64 + 0x80),
      UInt8.ofNat (c.toNat % 64 + 0x80)]
    rw [hlead]
  · have hlead : c.toNat / 262144 % 8 = c.toNat / 262144 := by omega
    rw [if_neg h3, if_neg (show ¬ c.toNat ≤ 0xffff by omega), Nat.add_comm 0xF0,
      Nat.add_comm 0x80, Nat.add_comm 0x80, Nat.add_comm 0x80]
    show _ = [UInt8.ofNat (c.toNat / 262144 % 8 + 0xf0), UInt8.ofNat (c.toNat / 4096 % 64 + 0x80),
      UInt8.ofNat (c.toNat / 64 % 64 + 0x80), UInt8.ofNat (c.toNat % 64 + 0x80)]
    rw [hlead]

theorem utf8Bytes_ofList (cs : List Char) :
    utf8Bytes (String.ofList cs) = cs.flatMap fun c => utf8 c.toNat := by
  have hbytes : (String.ofList cs).toUTF8 = (cs.flatMap String.utf8EncodeChar).toByteArray := rfl
  rw [utf8Bytes, hbytes]
  simp [utf8_toNat]

/-- The bytes of a text are those of its characters. -/
theorem utf8Bytes_eq (s : String) : utf8Bytes s = s.toList.flatMap fun c => utf8 c.toNat := by
  rw [← utf8Bytes_ofList, String.ofList_toList]

theorem utf8Bytes_append (s t : String) : utf8Bytes (s ++ t) = utf8Bytes s ++ utf8Bytes t := by
  rw [utf8Bytes_eq, utf8Bytes_eq, utf8Bytes_eq, String.toList_append, List.flatMap_append]

/-- An ASCII text has a byte for each character. -/
theorem utf8Bytes_ofList_of_ascii {cs : List Char} (h : ∀ c ∈ cs, c.toNat < 0x80) :
    utf8Bytes (String.ofList cs) = cs.map byte := by
  rw [utf8Bytes_ofList]
  induction cs with
  | nil => rfl
  | cons c cs ih =>
    rw [List.forall_mem_cons] at h
    rw [List.flatMap_cons, List.map_cons, ih h.2, utf8, if_pos h.1]
    rfl

/-! ## Escapes -/

/-- `\u` and four digits. -/
def unicodeEscape (a b c d : UInt8) : List UInt8 := [byte '\\', byte 'u', a, b, c, d]

/-- The escape of a code unit that is no surrogate. -/
theorem standsFor_unicodeEscape {a b c d : UInt8} {u : ℕ} (h : hex4 a b c d = some u)
    (hu : ¬ (0xD800 ≤ u ∧ u < 0xE000)) : StandsFor (unicodeEscape a b c d) (utf8 u) := by
  refine ⟨⟨_, _, rfl, by decide⟩, fun rest => ?_⟩
  have hread := parseUnicode_of_not_high h (by omega) rest
  simpa [parseChar, unicodeEscape] using hread

/-- The escapes of a high and a low surrogate stand for one code point. -/
theorem standsFor_surrogatePair {a b c d e f g k : UInt8} {u l : ℕ} (hu : hex4 a b c d = some u)
    (hl : hex4 e f g k = some l) (hhigh : 0xD800 ≤ u ∧ u < 0xDC00)
    (hlow : 0xDC00 ≤ l ∧ l < 0xE000) :
    StandsFor (unicodeEscape a b c d ++ unicodeEscape e f g k)
      (utf8 (0x10000 + (u - 0xD800) * 0x400 + (l - 0xDC00))) := by
  refine ⟨⟨_, _, rfl, by decide⟩, fun rest => ?_⟩
  simp [parseChar, unicodeEscape, parseUnicode, hu, hl, hhigh, hlow]

/-- The escape of a letter, where the letter is not `u`. -/
theorem standsFor_letter {l b : UInt8} (hl : l ≠ byte 'u') (h : unescapeLetter l = some b) :
    StandsFor [byte '\\', l] [b] :=
  ⟨⟨_, _, rfl, by decide⟩, fun rest => by simp [parseChar, hl, h]⟩

theorem toNat_byte {c : Char} (h : c.toNat < 0x80) : (byte c).toNat = c.toNat := by
  rw [byte, UInt8.toNat_ofNat']
  omega

theorem byte_ne {c d : Char} (hc : c.toNat < 0x80) (hd : d.toNat < 0x80) (h : c ≠ d) :
    byte c ≠ byte d := by
  intro heq
  have hnat := congrArg UInt8.toNat heq
  rw [toNat_byte hc, toNat_byte hd] at hnat
  exact h (Char.toNat_inj.mp hnat)

/-- An ASCII character that is written as it is. -/
theorem standsFor_char {c : Char} (hascii : c.toNat < 0x80) (hquote : c ≠ '"') (hslash : c ≠ '\\')
    (hcontrol : 32 ≤ c.toNat) : StandsFor [byte c] (utf8 c.toNat) := by
  have hutf8 : utf8 c.toNat = [byte c] := by
    rw [utf8, if_pos hascii]
    rfl
  have hstart : byte c ≠ byte '"' := byte_ne hascii (by decide) hquote
  have hescape : byte c ≠ byte '\\' := byte_ne hascii (by decide) hslash
  have hplain : ¬ byte c < 32 := by
    rw [UInt8.lt_iff_toNat_lt, toNat_byte hascii]
    exact Nat.not_lt.mpr hcontrol
  rw [hutf8]
  exact ⟨⟨byte c, [], rfl, hstart⟩, fun rest => by simp [parseChar, hescape, hplain]⟩

/-! ## Objects -/

theorem skipWs_space (cs : List UInt8) : skipWs (32 :: cs) = skipWs cs :=
  List.dropWhile_cons_of_pos (by decide)

section

variable {α : Type} {item : List UInt8 → Option (α × List UInt8)} {close : UInt8}

/-- A list that does not close at once has items. -/
theorem parseList_of_starts {cs : List UInt8} (h : Starts cs)
    (hclose : close = byte ']' ∨ close = byte '\x7d') :
    parseList item close cs = parseItems item close cs.length cs := by
  have hws := skipWs_of_starts h
  rcases h with ⟨c, t, rfl, -, hsq, hbr⟩
  have hne : c ≠ close := by
    rcases hclose with rfl | rfl
    · exact hsq
    · exact hbr
  rw [parseList, hws]
  exact if_neg hne

theorem parseItems_of_comma {n : ℕ} {cs rest rest' : List UInt8} {x : α} {xs : List α}
    (hclose : close ≠ byte ',') (hitem : item cs = some (x, byte ',' :: rest))
    (htail : parseItems item close n (skipWs rest) = some (xs, rest')) :
    parseItems item close (n + 1) cs = some (x :: xs, rest') := by
  have hws : skipWs (byte ',' :: rest) = byte ',' :: rest := skipWs_cons (by decide) rest
  simp [parseItems, hitem, hws, hclose.symm, htail]

theorem parseItems_of_close {n : ℕ} {cs rest : List UInt8} {x : α} (hclose : isWs close = false)
    (hitem : item cs = some (x, close :: rest)) :
    parseItems item close (n + 1) cs = some ([x], rest) := by
  simp [parseItems, hitem, skipWs_cons hclose rest]

end

/-- A member is read with white space behind its colon. -/
theorem parseMember_of_colon {value : List UInt8 → Option (Json × List UInt8)}
    {cs k rest rest' : List UInt8} {v : Json} (hkey : parseStr cs = some (k, byte ':' :: rest))
    (hvalue : value (skipWs rest) = some (v, rest')) :
    parseMember value cs = some ((k, v), rest') := by
  have hws : skipWs (byte ':' :: rest) = byte ':' :: rest := skipWs_cons (by decide) rest
  simp [parseMember, hkey, hws, hvalue]

/-- A string is a value. -/
theorem parseValue_of_str {cs s rest : List UInt8} (h : parseStr (byte '"' :: cs) = some (s, rest))
    (n : ℕ) : parseValue (n + 1) (byte '"' :: cs) = some (.str s, rest) := by
  have hne : byte '"' ≠ byte 'n' ∧ byte '"' ≠ byte 't' ∧ byte '"' ≠ byte 'f' := by decide
  rw [parseValue, if_neg hne.1, if_neg hne.2.1, if_neg hne.2.2, if_pos rfl, h]
  rfl

/-- An object is a value. -/
theorem parseValue_of_obj {n : ℕ} {cs rest : List UInt8} {ms : List (List UInt8 × Json)}
    (h : parseList (parseMember (parseValue n)) (byte '\x7d') cs = some (ms, rest)) :
    parseValue (n + 1) (byte '\x7b' :: cs) = some (.obj ms, rest) := by
  have hne : byte '\x7b' ≠ byte 'n' ∧ byte '\x7b' ≠ byte 't' ∧ byte '\x7b' ≠ byte 'f'
      ∧ byte '\x7b' ≠ byte '"' ∧ byte '\x7b' ≠ byte '[' := by decide
  rw [parseValue, if_neg hne.1, if_neg hne.2.1, if_neg hne.2.2.1, if_neg hne.2.2.2.1,
    if_neg hne.2.2.2.2, if_pos rfl, h]
  rfl

/-- A value with white space behind it is the value of a text. -/
theorem parse_of_parseValue {cs rest : List UInt8} {j : Json} (hstarts : Starts cs)
    (h : parseValue (cs.length + 1) cs = some (j, rest)) (hrest : skipWs rest = []) :
    parse cs = some j := by
  rw [parse, skipWs_of_starts hstarts, h]
  simp [hrest]

end Json
end Sifir.Lib
