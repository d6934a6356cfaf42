import Sifir.Lib.Json

/-!
# Reading back what was written

`parse_print`: parsing the compact text of a value gives the value. The proof
follows the grammar from the leaves: a byte of a string and its escape, string
bodies, comma-separated items, and then values by recursion on their structure.
Numbers are the one token with no closing delimiter, so a value is read back in
front of any input that does not continue a number (`Stops`).
-/

namespace Sifir.Lib
namespace Json

/-- The input does not continue a number token. -/
def Stops (rest : List UInt8) : Prop := ∀ c ∈ rest.head?, isNumberByte c = false

theorem stops_nil : Stops [] := by simp [Stops]

theorem stops_cons {c : UInt8} {rest : List UInt8} (h : isNumberByte c = false) :
    Stops (c :: rest) := by
  simpa [Stops] using h

/-- The text of an item: not empty, and its first byte neither white space nor a
closing bracket. -/
def Starts (p : List UInt8) : Prop :=
  ∃ c t, p = c :: t ∧ isWs c = false ∧ c ≠ byte ']' ∧ c ≠ byte '\x7d'

theorem Starts.append {p : List UInt8} (h : Starts p) (q : List UInt8) : Starts (p ++ q) := by
  obtain ⟨c, t, rfl, hc⟩ := h
  exact ⟨c, t ++ q, rfl, hc⟩

theorem skipWs_of_starts {p : List UInt8} (h : Starts p) : skipWs p = p := by
  obtain ⟨c, t, rfl, hws, -⟩ := h
  simp [skipWs, hws]

theorem skipWs_cons {c : UInt8} (h : isWs c = false) (cs : List UInt8) :
    skipWs (c :: cs) = c :: cs := by
  simp [skipWs, h]

/-! ## Strings -/

theorem hex4_control : ∀ n < 32,
    hex4 (byte '0') (byte '0') (hexDigit (n / 16)) (hexDigit (n % 16)) = some n := by decide

/-- A `\u` escape other than of a high surrogate stands for its own code point. -/
theorem parseUnicode_of_not_high {a b c d : UInt8} {u : ℕ} (h : hex4 a b c d = some u)
    (hu : ¬ (0xD800 ≤ u ∧ u < 0xDC00)) (rest : List UInt8) :
    parseUnicode (a :: b :: c :: d :: rest) = some (utf8 u, rest) := by
  have hlow : ∀ x y, ¬ (0xD800 ≤ u ∧ u < 0xDC00 ∧ x = byte '\\' ∧ y = byte 'u') := by
    intro x y hc
    omega
  simp only [parseUnicode, h, Option.bind_eq_bind, Option.bind_some]
  split
  · rw [if_neg (hlow _ _)]
    rfl
  · rfl

/-- A text of a string body that stands for bytes: it does not start with the closing
quote, and is read as one character whatever follows it. -/
structure StandsFor (p b : List UInt8) : Prop where
  starts : ∃ c t, p = c :: t ∧ c ≠ byte '"'
  read : ∀ rest, parseChar (p ++ rest) = some (b, rest)

theorem parseChar_escapeByte (b : UInt8) (rest : List UInt8) :
    parseChar (escapeByte b ++ rest) = some ([b], rest) := by
  have hletter : ∀ l, escapeLetter b = some l → l ≠ byte 'u' ∧ unescapeLetter l = some b := by
    intro l hl
    unfold escapeLetter at hl
    -- one goal for each letter
    split_ifs at hl <;> (rename_i hb; injection hl with hl; subst hb hl; decide)
  unfold escapeByte
  split
  · next l hl =>
    obtain ⟨hne, hval⟩ := hletter l hl
    simp [parseChar, hne, hval]
  · next hnone =>
    split
    · next hb =>
      have hb32 : b.toNat < 32 := hb
      -- a control character is written as its code point in four digits
      have hcode := hex4_control b.toNat hb32
      have hchar : utf8 b.toNat = [b] := by
        rw [utf8, if_pos (by omega), UInt8.ofNat_toNat]
      simp [parseChar, parseUnicode_of_not_high hcode (by omega), hchar]
    · next hb =>
      have hquote : b ≠ byte '\\' := by
        rintro rfl
        exact absurd hnone (by decide)
      simp [parseChar, hquote, hb]

/-- An escaped byte never starts with the closing quote. -/
theorem escapeByte_eq_cons (b : UInt8) : ∃ c t, escapeByte b = c :: t ∧ c ≠ byte '"' := by
  unfold escapeByte
  split
  · exact ⟨_, _, rfl, by decide⟩
  · next hnone =>
    split
    · exact ⟨_, _, rfl, by decide⟩
    · refine ⟨b, [], rfl, ?_⟩
      rintro rfl
      exact absurd hnone (by decide)

theorem standsFor_escapeByte (b : UInt8) : StandsFor (escapeByte b) [b] :=
  ⟨escapeByte_eq_cons b, parseChar_escapeByte b⟩

section

variable {α : Type} {write read : α → List UInt8}

theorem parseBody_standsFor (rest : List UInt8) {l : List α} :
    (∀ a ∈ l, StandsFor (write a) (read a)) → ∀ n, l.length < n →
      parseBody n (l.flatMap write ++ byte '"' :: rest) = some (l.flatMap read, rest) := by
  induction l with
  | nil =>
    intro _ n hn
    obtain ⟨m, rfl⟩ := Nat.exists_eq_add_of_lt hn
    simp [parseBody]
  | cons a l ih =>
    intro h n hn
    -- the first byte of an escape is not the closing quote, so the body goes on
    obtain ⟨m, rfl⟩ : ∃ m, n = m + 1 := ⟨n - 1, by simp at hn; omega⟩
    obtain ⟨⟨c, t, hesc, hc⟩, hread⟩ := h a List.mem_cons_self
    have hchar := hread (l.flatMap write ++ byte '"' :: rest)
    have hbody := ih (fun a' ha' => h a' (List.mem_cons_of_mem a ha')) m (by simpa using hn)
    rw [hesc, List.cons_append] at hchar
    rw [List.flatMap_cons, List.append_assoc, hesc, List.cons_append, parseBody, if_neg hc, hchar]
    simp [hbody]

/-- A string is read as what its characters stand for, whatever follows it. -/
theorem parseStr_standsFor {l : List α} (h : ∀ a ∈ l, StandsFor (write a) (read a))
    (rest : List UInt8) :
    parseStr (byte '"' :: l.flatMap write ++ byte '"' :: rest) = some (l.flatMap read, rest) := by
  have hlen : l.length ≤ (l.flatMap write).length := by
    induction l with
    | nil => simp
    | cons a l ih =>
      obtain ⟨⟨c, t, hesc, -⟩, -⟩ := h a List.mem_cons_self
      have hrest := ih fun a' ha' => h a' (List.mem_cons_of_mem a ha')
      simp only [List.flatMap_cons, List.length_append, hesc, List.length_cons]
      omega
  rw [List.cons_append, parseStr, if_pos rfl]
  exact parseBody_standsFor rest h _ (by rw [List.length_append]; omega)

end

/-- A string is read back, whatever follows it. -/
theorem parseStr_printStr (s rest : List UInt8) :
    parseStr (printStr s ++ rest) = some (s, rest) := by
  have hread : (s.flatMap fun b => [b]) = s := List.flatMap_singleton' s
  have hstr := parseStr_standsFor (fun b (_ : b ∈ s) => standsFor_escapeByte b) rest
  rw [hread] at hstr
  rw [printStr, List.append_assoc, List.singleton_append]
  exact hstr

/-! ## Items -/

section

variable {α : Type} {item : List UInt8 → Option (α × List UInt8)} {close : UInt8}
  {write : α → List UInt8}

/-- Items are read back one by one when each is, in front of a separator or the
closing bracket. -/
theorem parseItems_commaSep (hclose : isWs close = false) (hcomma : close ≠ byte ',')
    (rest : List UInt8) :
    ∀ (x : α) (xs : List α) (n : ℕ), (x :: xs).length ≤ n →
      (∀ y ∈ x :: xs, Starts (write y)) →
      (∀ y ∈ x :: xs, ∀ c tail, (c = byte ',' ∨ c = close) →
        item (write y ++ c :: tail) = some (y, c :: tail)) →
      parseItems item close n (commaSep ((x :: xs).map write) ++ close :: rest)
        = some (x :: xs, rest) := by
  intro x xs
  induction xs generalizing x with
  | nil =>
    intro n hn _ hitem
    obtain ⟨m, rfl⟩ : ∃ m, n = m + 1 := ⟨n - 1, by simp at hn; omega⟩
    have hx := hitem x (by simp) close rest (Or.inr rfl)
    simp [parseItems, commaSep, hx, skipWs_cons hclose]
  | cons y ys ih =>
    intro n hn hstarts hitem
    obtain ⟨m, rfl⟩ : ∃ m, n = m + 1 := ⟨n - 1, by simp at hn; omega⟩
    have hx := hitem x (by simp) (byte ',')
      (commaSep ((y :: ys).map write) ++ close :: rest) (Or.inl rfl)
    have htail := ih y m (by simpa using hn) (fun z hz => hstarts z (by simp [hz]))
      (fun z hz => hitem z (by simp [hz]))
    have hws : skipWs (commaSep ((y :: ys).map write) ++ close :: rest)
        = commaSep ((y :: ys).map write) ++ close :: rest := by
      apply skipWs_of_starts
      apply Starts.append
      cases ys with
      | nil => exact hstarts y (by simp)
      | cons z zs => exact (hstarts y (by simp)).append _
    rw [List.map_cons, List.map_cons, commaSep, ← List.map_cons, List.append_assoc,
      List.cons_append, parseItems, hx, Option.bind_eq_bind, Option.bind_some]
    simp only [skipWs_cons (show isWs (byte ',') = false by decide), if_neg hcomma.symm, if_true,
      hws, htail, Option.bind_eq_bind, Option.bind_some, Option.pure_def]

theorem parseList_commaSep (hclose : isWs close = false) (hcomma : close ≠ byte ',')
    (hbracket : close = byte ']' ∨ close = byte '\x7d') (rest : List UInt8) (xs : List α)
    (hstarts : ∀ y ∈ xs, Starts (write y))
    (hitem : ∀ y ∈ xs, ∀ c tail, (c = byte ',' ∨ c = close) →
      item (write y ++ c :: tail) = some (y, c :: tail)) :
    parseList item close (commaSep (xs.map write) ++ close :: rest) = some (xs, rest) := by
  cases xs with
  | nil => simp [parseList, commaSep, skipWs_cons hclose]
  | cons x xs =>
    -- the bound handed to `parseItems` is the length of the text, which has a byte an item
    have hlen : ∀ zs : List α, (∀ y ∈ zs, Starts (write y)) →
        zs.length ≤ (commaSep (zs.map write)).length := by
      intro zs
      induction zs with
      | nil => simp
      | cons z zs ih =>
        intro hzs
        obtain ⟨c, t, hz, -⟩ := hzs z (by simp)
        cases zs with
        | nil => simp [commaSep, hz]
        | cons w ws =>
          have hrest := ih fun y hy => hzs y (by simp [hy])
          simp only [List.map_cons, commaSep, List.length_append, List.length_cons, hz] at hrest ⊢
          omega
    have hstart : Starts (commaSep ((x :: xs).map write) ++ close :: rest) := by
      apply Starts.append
      cases xs with
      | nil => exact hstarts x (by simp)
      | cons z zs => exact (hstarts x (by simp)).append _
    have hitems := parseItems_commaSep hclose hcomma rest x xs
      (commaSep ((x :: xs).map write) ++ close :: rest).length
      (by have := hlen (x :: xs) hstarts; rw [List.length_append]; omega) hstarts hitem
    rw [parseList, skipWs_of_starts hstart]
    obtain ⟨c, t, heq, -, hsq, hbr⟩ := hstart
    have hne : c ≠ close := by
      rcases hbracket with rfl | rfl
      · exact hsq
      · exact hbr
    rw [heq] at hitems ⊢
    simp only [if_neg hne]
    exact hitems

end

/-! ## Values -/

theorem printElems_eq_map (xs : List Json) : printElems xs = xs.map print := by
  induction xs with
  | nil => rfl
  | cons x xs ih => rw [printElems, ih, List.map_cons]

/-- The text of one member of an object. -/
def printMember (m : List UInt8 × Json) : List UInt8 := printStr m.1 ++ byte ':' :: print m.2

theorem printMembers_eq_map (ms : List (List UInt8 × Json)) :
    printMembers ms = ms.map printMember := by
  induction ms with
  | nil => rfl
  | cons m ms ih =>
    obtain ⟨k, v⟩ := m
    rw [printMembers, ih, List.map_cons, printMember]

theorem starts_printMember (m : List UInt8 × Json) : Starts (printMember m) :=
  ⟨byte '"', _, rfl, by decide, by decide, by decide⟩

/-- The first byte of a number token is a minus sign or a digit. -/
theorem Number.text_eq_cons (n : Number) :
    ∃ c t, n.text = c :: t ∧ (c = byte '-' ∨ isDigit c = true) ∧ (c :: t).all isNumberByte := by
  obtain ⟨text, hvalid⟩ := n
  cases text with
  | nil => simp [isNumber] at hvalid
  | cons c t =>
    refine ⟨c, t, rfl, ?_⟩
    simp only [isNumber, Bool.and_eq_true, Bool.or_eq_true, beq_iff_eq] at hvalid
    exact hvalid.1

theorem ne_of_number_head {c : UInt8} (h : c = byte '-' ∨ isDigit c = true) {d : UInt8}
    (hd : isDigit d = false) (hminus : d ≠ byte '-') : c ≠ d := by
  rintro rfl
  rcases h with h | h
  · exact hminus h
  · rw [hd] at h
    exact Bool.false_ne_true h

theorem starts_print (j : Json) : Starts (print j) := by
  cases j with
  | null => exact ⟨byte 'n', _, rfl, by decide, by decide, by decide⟩
  | bool b =>
    cases b with
    | true => exact ⟨byte 't', _, rfl, by decide, by decide, by decide⟩
    | false => exact ⟨byte 'f', _, rfl, by decide, by decide, by decide⟩
  | num n =>
    obtain ⟨c, t, htext, hc, -⟩ := n.text_eq_cons
    refine ⟨c, t, by rw [print, htext], ?_, ?_, ?_⟩
    · have hne : ∀ d, isDigit d = false → d ≠ byte '-' → (c == d) = false := fun d hd hm =>
        beq_eq_false_iff_ne.mpr (ne_of_number_head hc hd hm)
      simp only [isWs, hne 32 (by decide) (by decide), hne 9 (by decide) (by decide),
        hne 10 (by decide) (by decide), hne 13 (by decide) (by decide), Bool.or_self]
    · exact ne_of_number_head hc (by decide) (by decide)
    · exact ne_of_number_head hc (by decide) (by decide)
  | str s => exact ⟨byte '"', _, rfl, by decide, by decide, by decide⟩
  | arr xs => exact ⟨byte '[', _, rfl, by decide, by decide, by decide⟩
  | obj ms => exact ⟨byte '\x7b', _, rfl, by decide, by decide, by decide⟩

theorem takeWhile_append_of_stops {text rest : List UInt8} (h : text.all isNumberByte = true)
    (hrest : Stops rest) :
    (text ++ rest).takeWhile isNumberByte = text
      ∧ (text ++ rest).dropWhile isNumberByte = rest := by
  have hall : ∀ c ∈ text, isNumberByte c = true := by simpa [List.all_eq_true] using h
  rw [List.takeWhile_append_of_pos hall, List.dropWhile_append_of_pos hall]
  cases rest with
  | nil => simp
  | cons c cs =>
    have hc : isNumberByte c = false := hrest c (by simp)
    simp [hc]

theorem parseNumber_text (n : Number) {rest : List UInt8} (hrest : Stops rest) :
    parseNumber (n.text ++ rest) = some (.num n, rest) := by
  obtain ⟨c, t, htext, -, hall⟩ := n.text_eq_cons
  obtain ⟨htake, hdrop⟩ := takeWhile_append_of_stops (htext ▸ hall : n.text.all isNumberByte = true)
    hrest
  simp [parseNumber, htake, hdrop, n.valid]

theorem stops_of_separator {c close : UInt8} {tail : List UInt8}
    (hclose : isNumberByte close = false) (h : c = byte ',' ∨ c = close) : Stops (c :: tail) := by
  apply stops_cons
  rcases h with rfl | rfl
  · decide
  · exact hclose

/-- A member is read back when its value is. -/
theorem parseMember_printMember {value : List UInt8 → Option (Json × List UInt8)}
    {m : List UInt8 × Json} {rest : List UInt8}
    (hvalue : value (print m.2 ++ rest) = some (m.2, rest)) :
    parseMember value (printMember m ++ rest) = some (m, rest) := by
  have hkey := parseStr_printStr m.1 (byte ':' :: (print m.2 ++ rest))
  rw [parseMember, printMember, List.append_assoc, List.cons_append, hkey, Option.bind_eq_bind,
    Option.bind_some]
  simp only [skipWs_cons (show isWs (byte ':') = false by decide), if_true,
    skipWs_of_starts ((starts_print m.2).append rest), hvalue, Option.bind_eq_bind,
    Option.bind_some, Option.pure_def]

theorem length_le_commaSep {p : List UInt8} : ∀ {ps : List (List UInt8)}, p ∈ ps →
    p.length ≤ (commaSep ps).length
  | [q], h => by
    rw [List.mem_singleton.mp h]
    exact Nat.le_refl _
  | q :: q' :: ps, h => by
    rw [commaSep, List.length_append, List.length_cons]
    rcases List.mem_cons.mp h with rfl | h
    · omega
    · have := length_le_commaSep h
      omega

mutual

/-- A value is read back in front of anything that does not continue a number. -/
theorem parseValue_print : ∀ (j : Json) (n : ℕ) (rest : List UInt8), (print j).length ≤ n →
    Stops rest → parseValue (n + 1) (print j ++ rest) = some (j, rest)
  | .null, n, rest, _, _ => by
    simp [print, ascii, parseValue, parseLiteral]
  | .bool true, n, rest, _, _ => by
    have h : byte 't' ≠ byte 'n' := by decide
    simp [print, ascii, parseValue, parseLiteral, h]
  | .bool false, n, rest, _, _ => by
    have h : byte 'f' ≠ byte 'n' ∧ byte 'f' ≠ byte 't' := by decide
    simp [print, ascii, parseValue, parseLiteral, h]
  | .num t, n, rest, _, hrest => by
    obtain ⟨c, cs, htext, hc, -⟩ := t.text_eq_cons
    have hnum := parseNumber_text t hrest
    rw [htext, List.cons_append] at hnum
    have hne : ∀ d, isDigit d = false → d ≠ byte '-' → c ≠ d := fun d hd hm =>
      ne_of_number_head hc hd hm
    rw [print, htext, List.cons_append, parseValue, if_neg (hne _ (by decide) (by decide)),
      if_neg (hne _ (by decide) (by decide)), if_neg (hne _ (by decide) (by decide)),
      if_neg (hne _ (by decide) (by decide)), if_neg (hne _ (by decide) (by decide)),
      if_neg (hne _ (by decide) (by decide)), hnum]
  | .str s, n, rest, _, _ => by
    have h : byte '"' ≠ byte 'n' ∧ byte '"' ≠ byte 't' ∧ byte '"' ≠ byte 'f' := by decide
    have hstr := parseStr_printStr s rest
    rw [printStr, List.cons_append, List.cons_append] at hstr
    rw [print, printStr, List.cons_append, List.cons_append, parseValue, if_neg h.1, if_neg h.2.1,
      if_neg h.2.2, if_pos rfl, hstr]
    rfl
  | .arr xs, n, rest, hn, _ => by
    have h : byte '[' ≠ byte 'n' ∧ byte '[' ≠ byte 't' ∧ byte '[' ≠ byte 'f'
        ∧ byte '[' ≠ byte '"' := by decide
    rw [print, printElems_eq_map] at hn
    -- the brackets pay for the step down into the items
    obtain ⟨m, rfl⟩ : ∃ m, n = m + 1 := ⟨n - 1, by simp at hn; omega⟩
    have hitem : ∀ y ∈ xs, ∀ c tail, (c = byte ',' ∨ c = byte ']') →
        parseValue (m + 1) (print y ++ c :: tail) = some (y, c :: tail) := by
      intro y hy c tail hc
      have hmem : print y ∈ xs.map print := List.mem_map_of_mem hy
      have hlen := length_le_commaSep hmem
      exact parseElems_print xs y hy m (c :: tail) (by simp at hn; omega)
        (stops_of_separator (by decide) hc)
    have hlist := parseList_commaSep (by decide) (by decide) (Or.inl rfl) rest xs
      (fun y _ => starts_print y) hitem
    rw [print, printElems_eq_map, List.cons_append, List.cons_append, List.append_assoc,
      List.singleton_append, parseValue, if_neg h.1, if_neg h.2.1, if_neg h.2.2.1,
      if_neg h.2.2.2, if_pos rfl, hlist]
    rfl
  | .obj ms, n, rest, hn, _ => by
    have h : byte '\x7b' ≠ byte 'n' ∧ byte '\x7b' ≠ byte 't' ∧ byte '\x7b' ≠ byte 'f'
        ∧ byte '\x7b' ≠ byte '"' ∧ byte '\x7b' ≠ byte '[' := by decide
    rw [print, printMembers_eq_map] at hn
    obtain ⟨m, rfl⟩ : ∃ m, n = m + 1 := ⟨n - 1, by simp at hn; omega⟩
    have hitem : ∀ y ∈ ms, ∀ c tail, (c = byte ',' ∨ c = byte '\x7d') →
        parseMember (parseValue (m + 1)) (printMember y ++ c :: tail) = some (y, c :: tail) := by
      intro y hy c tail hc
      have hmem : printMember y ∈ ms.map printMember := List.mem_map_of_mem hy
      have hlen := length_le_commaSep hmem
      apply parseMember_printMember
      exact parseMembers_print ms y hy m (c :: tail) (by simp [printMember] at hn hlen; omega)
        (stops_of_separator (by decide) hc)
    have hlist := parseList_commaSep (by decide) (by decide) (Or.inr rfl) rest ms
      (fun y _ => starts_printMember y) hitem
    rw [print, printMembers_eq_map, List.cons_append, List.cons_append, List.append_assoc,
      List.singleton_append, parseValue, if_neg h.1, if_neg h.2.1, if_neg h.2.2.1,
      if_neg h.2.2.2.1, if_neg h.2.2.2.2, if_pos rfl, hlist]
    rfl

theorem parseElems_print : ∀ (xs : List Json), ∀ y ∈ xs, ∀ (n : ℕ) (rest : List UInt8),
    (print y).length ≤ n → Stops rest → parseValue (n + 1) (print y ++ rest) = some (y, rest)
  | x :: xs, y, hy, n, rest, hn, hrest => by
    rcases List.mem_cons.mp hy with hx | hy
    · rw [hx] at hn ⊢
      exact parseValue_print x n rest hn hrest
    · exact parseElems_print xs y hy n rest hn hrest

theorem parseMembers_print : ∀ (ms : List (List UInt8 × Json)), ∀ y ∈ ms, ∀ (n : ℕ)
    (rest : List UInt8), (print y.2).length ≤ n → Stops rest →
      parseValue (n + 1) (print y.2 ++ rest) = some (y.2, rest)
  | (k, v) :: ms, y, hy, n, rest, hn, hrest => by
    rcases List.mem_cons.mp hy with hx | hy
    · rw [hx] at hn ⊢
      exact parseValue_print v n rest hn hrest
    · exact parseMembers_print ms y hy n rest hn hrest

end

/-- Parsing the compact text of a value gives the value. -/
theorem parse_print (j : Json) : parse (print j) = some j := by
  have h := parseValue_print j (print j).length [] (Nat.le_refl _) stops_nil
  rw [List.append_nil] at h
  rw [parse, skipWs_of_starts (starts_print j), h]
  rfl

end Json
end Sifir.Lib
