import Mathlib.Tactic.Common

/-!
# JSON texts

JSON values, the compact text a serialiser writes for one, and a parser for the
grammar of RFC 8259. Texts are byte strings, and so are string values: `str`
holds the bytes of a string token after its escapes are resolved, and it is the
reader of a value who asks whether they are UTF-8. An object is the list of its
members in order, with repetitions.
-/

namespace Sifir.Lib
namespace Json

/-- The byte of an ASCII character. -/
def byte (c : Char) : UInt8 := UInt8.ofNat c.toNat

/-- The bytes of an ASCII text. -/
def ascii (s : String) : List UInt8 := s.toList.map byte

/-! ## Numbers -/

def isDigit (c : UInt8) : Bool := byte '0' ≤ c && c ≤ byte '9'

/-- The bytes that can occur in a number. -/
def isNumberByte (c : UInt8) : Bool :=
  isDigit c || c == byte '-' || c == byte '+' || c == byte '.' || c == byte 'e' || c == byte 'E'

/-- Skip a run of digits, of which there must be one. -/
def skipDigits (cs : List UInt8) : Option (List UInt8) :=
  if (cs.takeWhile isDigit).isEmpty then none else some (cs.dropWhile isDigit)

/-- `int`: a single zero, or digits that do not start with one. -/
def skipInt : List UInt8 → Option (List UInt8)
  | [] => none
  | c :: cs => if c = byte '0' then some cs else skipDigits (c :: cs)

/-- `[ frac ]` -/
def skipFrac : List UInt8 → Option (List UInt8)
  | [] => some []
  | c :: cs => if c = byte '.' then skipDigits cs else some (c :: cs)

/-- `[ exp ]` -/
def skipExp : List UInt8 → Option (List UInt8)
  | [] => some []
  | c :: cs =>
    if c = byte 'e' ∨ c = byte 'E' then
      match cs with
      | [] => none
      | d :: ds => if d = byte '+' ∨ d = byte '-' then skipDigits ds else skipDigits cs
    else some (c :: cs)

/-- `number = [ minus ] int [ frac ] [ exp ]` -/
def isNumber : List UInt8 → Bool
  | [] => false
  | c :: cs =>
    (c == byte '-' || isDigit c) && (c :: cs).all isNumberByte &&
      (((if c = byte '-' then skipInt cs else skipInt (c :: cs)).bind skipFrac).bind skipExp
        == some [])

/-- A number token, by its text. -/
structure Number where
  text : List UInt8
  valid : isNumber text = true

end Json

/-! ## Values -/

inductive Json where
  | null
  | bool (b : Bool)
  | num (n : Json.Number)
  | str (s : List UInt8)
  | arr (xs : List Json)
  | obj (ms : List (List UInt8 × Json))

namespace Json

/-! ## Writing -/

def hexDigit (n : ℕ) : UInt8 := UInt8.ofNat (if n < 10 then 48 + n else 87 + n)

/-- The letter of a two-character escape. -/
def escapeLetter (c : UInt8) : Option UInt8 :=
  if c = byte '"' then some (byte '"')
  else if c = byte '\\' then some (byte '\\')
  else if c = 8 then some (byte 'b')
  else if c = 9 then some (byte 't')
  else if c = 10 then some (byte 'n')
  else if c = 12 then some (byte 'f')
  else if c = 13 then some (byte 'r')
  else none

/-- A byte of a string as it is written. -/
def escapeByte (c : UInt8) : List UInt8 :=
  match escapeLetter c with
  | some l => [byte '\\', l]
  | none =>
    if c < 32 then
      [byte '\\', byte 'u', byte '0', byte '0', hexDigit (c.toNat / 16), hexDigit (c.toNat % 16)]
    else [c]

def printStr (s : List UInt8) : List UInt8 :=
  byte '"' :: s.flatMap escapeByte ++ [byte '"']

/-- Items separated by commas. -/
def commaSep : List (List UInt8) → List UInt8
  | [] => []
  | [x] => x
  | x :: y :: xs => x ++ byte ',' :: commaSep (y :: xs)

mutual

/-- The compact text of a value. -/
def print : Json → List UInt8
  | .null => ascii "null"
  | .bool true => ascii "true"
  | .bool false => ascii "false"
  | .num n => n.text
  | .str s => printStr s
  | .arr xs => byte '[' :: commaSep (printElems xs) ++ [byte ']']
  | .obj ms => byte '\x7b' :: commaSep (printMembers ms) ++ [byte '\x7d']

def printElems : List Json → List (List UInt8)
  | [] => []
  | x :: xs => print x :: printElems xs

def printMembers : List (List UInt8 × Json) → List (List UInt8)
  | [] => []
  | (k, v) :: ms => (printStr k ++ byte ':' :: print v) :: printMembers ms

end

/-! ## Reading -/

def isWs (c : UInt8) : Bool := c == 32 || c == 9 || c == 10 || c == 13

def skipWs (cs : List UInt8) : List UInt8 := cs.dropWhile isWs

def hexValue (c : UInt8) : Option ℕ :=
  if isDigit c then some (c.toNat - 48)
  else if byte 'a' ≤ c ∧ c ≤ byte 'f' then some (c.toNat - 87)
  else if byte 'A' ≤ c ∧ c ≤ byte 'F' then some (c.toNat - 55)
  else none

/-- The code unit of four hexadecimal digits. -/
def hex4 (a b c d : UInt8) : Option ℕ := do
  let a ← hexValue a
  let b ← hexValue b
  let c ← hexValue c
  let d ← hexValue d
  return ((a * 16 + b) * 16 + c) * 16 + d

/-- The (generalised) UTF-8 bytes of a code point; a lone surrogate gets the
three bytes no UTF-8 text contains. -/
def utf8 (u : ℕ) : List UInt8 :=
  if u < 0x80 then [UInt8.ofNat u]
  else if u < 0x800 then [UInt8.ofNat (0xC0 + u / 64), UInt8.ofNat (0x80 + u % 64)]
  else if u < 0x10000 then
    [UInt8.ofNat (0xE0 + u / 4096), UInt8.ofNat (0x80 + u / 64 % 64), UInt8.ofNat (0x80 + u % 64)]
  else
    [UInt8.ofNat (0xF0 + u / 262144), UInt8.ofNat (0x80 + u / 4096 % 64),
      UInt8.ofNat (0x80 + u / 64 % 64), UInt8.ofNat (0x80 + u % 64)]

/-- `\u` and four digits, with the low half of a surrogate pair when it follows. -/
def parseUnicode : List UInt8 → Option (List UInt8 × List UInt8)
  | a :: b :: c :: d :: rest => do
    let u ← hex4 a b c d
    match rest with
    | x :: y :: e :: f :: g :: h :: rest' =>
      -- the escape of a low surrogate after a high one is the second half of a pair
      if 0xD800 ≤ u ∧ u < 0xDC00 ∧ x = byte '\\' ∧ y = byte 'u' then
        let l ← hex4 e f g h
        if 0xDC00 ≤ l ∧ l < 0xE000 then
          return (utf8 (0x10000 + (u - 0xD800) * 0x400 + (l - 0xDC00)), rest')
        else return (utf8 u, rest)
      else return (utf8 u, rest)
    | _ => return (utf8 u, rest)
  | _ => none

/-- The byte a two-character escape stands for. -/
def unescapeLetter (c : UInt8) : Option UInt8 :=
  if c = byte '"' ∨ c = byte '\\' ∨ c = byte '/' then some c
  else if c = byte 'b' then some 8
  else if c = byte 't' then some 9
  else if c = byte 'n' then some 10
  else if c = byte 'f' then some 12
  else if c = byte 'r' then some 13
  else none

/-- One character of a string body: an escape or a byte that needs none. -/
def parseChar : List UInt8 → Option (List UInt8 × List UInt8)
  | [] => none
  | c :: rest =>
    if c = byte '\\' then
      match rest with
      | [] => none
      | e :: rest' =>
        if e = byte 'u' then parseUnicode rest'
        else (unescapeLetter e).map fun b => ([b], rest')
    -- control characters have to be escaped
    else if c < 32 then none
    else some ([c], rest)

/-- A string body up to and including its closing quote. -/
def parseBody : ℕ → List UInt8 → Option (List UInt8 × List UInt8)
  | 0, _ => none
  | _ + 1, [] => none
  | n + 1, c :: cs =>
    if c = byte '"' then some ([], cs)
    else do
      let (b, rest) ← parseChar (c :: cs)
      let (s, rest) ← parseBody n rest
      return (b ++ s, rest)

def parseStr : List UInt8 → Option (List UInt8 × List UInt8)
  | [] => none
  | c :: cs => if c = byte '"' then parseBody (cs.length + 1) cs else none

section

variable {α : Type} (item : List UInt8 → Option (α × List UInt8)) (close : UInt8)

/-- One or more items separated by commas, up to the closing bracket. -/
def parseItems : ℕ → List UInt8 → Option (List α × List UInt8)
  | 0, _ => none
  | n + 1, cs => do
    let (x, rest) ← item cs
    match skipWs rest with
    | [] => none
    | c :: rest =>
      if c = close then return ([x], rest)
      else if c = byte ',' then
        let (xs, rest) ← parseItems n (skipWs rest)
        return (x :: xs, rest)
      else none

/-- The items of a bracketed list whose opening bracket is read. -/
def parseList (cs : List UInt8) : Option (List α × List UInt8) :=
  match skipWs cs with
  | [] => none
  | c :: rest => if c = close then some ([], rest) else parseItems item close cs.length (c :: rest)

end

def parseMember (value : List UInt8 → Option (Json × List UInt8)) (cs : List UInt8) :
    Option ((List UInt8 × Json) × List UInt8) := do
  let (k, rest) ← parseStr cs
  match skipWs rest with
  | [] => none
  | c :: rest =>
    if c = byte ':' then
      let (v, rest) ← value (skipWs rest)
      return ((k, v), rest)
    else none

def parseLiteral (text : String) (v : Json) (cs : List UInt8) : Option (Json × List UInt8) :=
  if (ascii text).isPrefixOf cs then some (v, cs.drop (ascii text).length) else none

def parseNumber (cs : List UInt8) : Option (Json × List UInt8) :=
  if h : isNumber (cs.takeWhile isNumberByte) = true then
    some (.num ⟨cs.takeWhile isNumberByte, h⟩, cs.dropWhile isNumberByte)
  else none

/-- A value at the head of the input; `n` bounds the nesting. -/
def parseValue : ℕ → List UInt8 → Option (Json × List UInt8)
  | 0, _ => none
  | _ + 1, [] => none
  | n + 1, c :: cs =>
    if c = byte 'n' then parseLiteral "null" .null (c :: cs)
    else if c = byte 't' then parseLiteral "true" (.bool true) (c :: cs)
    else if c = byte 'f' then parseLiteral "false" (.bool false) (c :: cs)
    else if c = byte '"' then (parseStr (c :: cs)).map fun p => (.str p.1, p.2)
    else if c = byte '[' then
      (parseList (parseValue n) (byte ']') cs).map fun p => (.arr p.1, p.2)
    else if c = byte '\x7b' then
      (parseList (parseMember (parseValue n)) (byte '\x7d') cs).map fun p => (.obj p.1, p.2)
    else parseNumber (c :: cs)

/-- The value a text denotes, with white space around it. -/
def parse (cs : List UInt8) : Option Json := do
  let (v, rest) ← parseValue (cs.length + 1) (skipWs cs)
  if (skipWs rest).isEmpty then return v else none

end Json
end Sifir.Lib
