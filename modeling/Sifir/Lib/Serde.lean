import Sifir.Lib.Json
import Sifir.Lib.Text

/-!
# Reading records out of JSON values

What a derived deserialiser does with the members of an object: names are text,
a known name occurs at most once, unknown members are skipped, and a field is
required or optional.
-/

namespace Sifir.Lib
namespace Serde

/-! ## Reading -/

/-- A string value that is text. -/
def string : Json → Option String
  | .str s => Text.ofUtf8 s
  | _ => none

/-- An array of values. -/
def list {α : Type} (f : Json → Option α) : Json → Option (List α)
  | .arr xs => xs.mapM f
  | _ => none

/-- `null`, or a value. -/
def nullable {α : Type} (f : Json → Option α) : Json → Option (Option α)
  | .null => some none
  | j => (f j).map some

/-- A variant without data: its name, or an object with that one member and `null`. -/
def variant {α : Type} (f : String → Option α) : Json → Option α
  | .str s => (Text.ofUtf8 s).bind f
  | .obj [(k, .null)] => (Text.ofUtf8 k).bind f
  | _ => none

/-- The members of an object, with their names as text. -/
def names (ms : List (List UInt8 × Json)) : Option (List (String × Json)) :=
  ms.mapM fun m => (Text.ofUtf8 m.1).map fun k => (k, m.2)

/-- The member of a name, which may be absent but not repeated. -/
def member (ms : List (String × Json)) (name : String) : Option (Option Json) :=
  match ms.filter (·.1 = name) with
  | [] => some none
  | [m] => some (some m.2)
  | _ => none

/-- A field that has to be there. -/
def required {α : Type} (f : Json → Option α) (ms : List (String × Json)) (name : String) :
    Option α := do
  let m ← member ms name
  f (← m)

/-- A field that may be absent or `null`. -/
def optional {α : Type} (f : Json → Option α) (ms : List (String × Json)) (name : String) :
    Option (Option α) := do
  match ← member ms name with
  | none => return none
  | some j => nullable f j

/-! ## Writing -/

def ofString (s : String) : Json := .str (Text.utf8Bytes s)

def ofOption {α : Type} (f : α → Json) : Option α → Json
  | none => .null
  | some a => f a

/-- An object with named members. -/
def ofMembers (ms : List (String × Json)) : Json := .obj (ms.map fun m => (Text.utf8Bytes m.1, m.2))

/-! ## Reading what was written -/

@[simp] theorem string_ofString (s : String) : string (ofString s) = some s :=
  Text.ofUtf8_utf8Bytes s

theorem list_ofList {α : Type} {f : Json → Option α} {g : α → Json} (h : ∀ a, f (g a) = some a)
    (l : List α) : list f (.arr (l.map g)) = some l := by
  rw [list]
  induction l with
  | nil => rfl
  | cons a l ih => simp [h, ih]

@[simp] theorem nullable_ofOption_ofString (o : Option String) :
    nullable string (ofOption ofString o) = some o := by
  cases o with
  | none => rfl
  | some s =>
    show (string (ofString s)).map some = some (some s)
    rw [string_ofString]
    rfl

theorem variant_ofString {α : Type} (f : String → Option α) (s : String) :
    variant f (ofString s) = f s := by
  show (Text.ofUtf8 (Text.utf8Bytes s)).bind f = f s
  rw [Text.ofUtf8_utf8Bytes, Option.bind_some]

theorem names_map (ms : List (String × Json)) :
    names (ms.map fun m => (Text.utf8Bytes m.1, m.2)) = some ms := by
  unfold names
  induction ms with
  | nil => rfl
  | cons m ms ih => simp [Text.ofUtf8_utf8Bytes, ih]

/-! ## What is read -/

theorem string_eq_some {j : Json} {s : String} : string j = some s ↔ j = ofString s := by
  cases j with
  | str b =>
    show Text.ofUtf8 b = some s ↔ _
    rw [Text.ofUtf8_eq_some, ofString, Json.str.injEq]
  | _ => simp [string, ofString]

/-- What is read is `null`, or the value of a text. -/
theorem nullable_string_eq_some {j : Json} {o : Option String} :
    nullable string j = some o ↔ j = ofOption ofString o := by
  refine ⟨fun h => ?_, fun h => h ▸ nullable_ofOption_ofString o⟩
  by_cases hnull : j = .null
  · rw [hnull, nullable, Option.some.injEq] at h
    rw [hnull, ← h, ofOption]
  · have hmap : (string j).map some = some o := by
      cases j with
      | null => exact absurd rfl hnull
      | _ => exact h
    obtain ⟨s, hs, rfl⟩ := Option.map_eq_some_iff.mp hmap
    exact string_eq_some.mp hs

/-- Members are read when their names are texts. -/
theorem names_eq_some {ms : List (List UInt8 × Json)} {ms' : List (String × Json)} :
    names ms = some ms' ↔ ms = ms'.map fun m => (Text.utf8Bytes m.1, m.2) := by
  refine ⟨fun h => ?_, fun h => h ▸ names_map ms'⟩
  unfold names at h
  induction ms generalizing ms' with
  | nil =>
    rw [List.mapM_nil] at h
    obtain rfl : [] = ms' := Option.some.inj h
    rfl
  | cons m ms ih =>
    obtain ⟨name, j⟩ := m
    simp only [List.mapM_cons, Option.bind_eq_bind, Option.bind_eq_some_iff,
      Option.map_eq_some_iff, Option.pure_def, Option.some.injEq] at h
    obtain ⟨_, ⟨k, hk, rfl⟩, rest, hrest, rfl⟩ := h
    rw [ih hrest, Text.ofUtf8_eq_some.mp hk]
    rfl

/-- An optional field is absent, or there once with a value. -/
theorem optional_eq_some {α : Type} {f : Json → Option α} {ms : List (String × Json)}
    {name : String} {o : Option α} :
    optional f ms name = some o ↔
      (ms.filter (·.1 = name) = [] ∧ o = none) ∨
      ∃ m, ms.filter (·.1 = name) = [m] ∧ nullable f m.2 = some o := by
  unfold optional member
  generalize ms.filter (·.1 = name) = found
  match found with
  | [] =>
    show some none = some o ↔ _
    simp [eq_comm]
  | [m] =>
    show nullable f m.2 = some o ↔ _
    simp
  | _ :: _ :: _ =>
    show none = some o ↔ _
    simp

end Serde
end Sifir.Lib
