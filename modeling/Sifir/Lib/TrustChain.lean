import Mathlib.Data.List.Basic

/-!
# Chains of trust

A certificate carries a key and a signature. A chain, leaf first, is *anchored*
when its last certificate verifies under its own key and every other one under
the key of its successor; what an anchored chain hands out is the key of its
leaf. Nothing here says whose key the last certificate carries: `Anchored` is
what a walk that only checks signatures establishes, and `anchored_replicate` is
how little that is.

A `Hierarchy` is the honest picture: every certificate has one issuer, keys tell
certificates apart, and of the keys of the hierarchy a certificate verifies under its
issuer's only. There the anchored chains are the issuer paths (`anchored_iff_path`).
-/

namespace Sifir.Lib
namespace TrustChain

variable {Cert Key Node : Type}

/-- What a chain walk reads of a certificate. -/
structure Scheme (Cert Key : Type) where
  /-- The key a certificate carries. -/
  keyOf : Cert → Option Key
  /-- The certificate's signature verifies under the key. -/
  Verifies : Cert → Key → Prop

/-- A chain, leaf first, that ends in a certificate verifying under its own key,
with the key of its leaf. -/
inductive Scheme.Anchored (S : Scheme Cert Key) : List Cert → Key → Prop
  | root {c : Cert} {k : Key} : S.keyOf c = some k → S.Verifies c k → S.Anchored [c] k
  | link {c : Cert} {k k' : Key} {cs : List Cert} :
      S.Anchored cs k' → S.Verifies c k' → S.keyOf c = some k → S.Anchored (c :: cs) k

variable {S : Scheme Cert Key}

theorem Scheme.Anchored.ne_nil {cs : List Cert} {k : Key} (h : S.Anchored cs k) : cs ≠ [] := by
  cases h <;> exact List.cons_ne_nil _ _

theorem anchored_singleton {c : Cert} {k : Key} :
    S.Anchored [c] k ↔ S.keyOf c = some k ∧ S.Verifies c k := by
  constructor
  · intro h
    cases h with
    | root hk hv => exact ⟨hk, hv⟩
    | link h _ _ => exact absurd rfl h.ne_nil
  · rintro ⟨hk, hv⟩
    exact .root hk hv

theorem anchored_cons_cons {c d : Cert} {cs : List Cert} {k : Key} :
    S.Anchored (c :: d :: cs) k
      ↔ ∃ k', S.Anchored (d :: cs) k' ∧ S.Verifies c k' ∧ S.keyOf c = some k := by
  constructor
  · intro h
    cases h with
    | link h hv hk => exact ⟨_, h, hv, hk⟩
  · rintro ⟨k', h, hv, hk⟩
    exact .link h hv hk

/-- A self-signed certificate anchors itself, at every length. -/
theorem anchored_replicate {c : Cert} {k : Key} (hk : S.keyOf c = some k) (hv : S.Verifies c k)
    (n : ℕ) : S.Anchored (List.replicate (n + 1) c) k := by
  induction n with
  | zero => exact .root hk hv
  | succ n ih => exact .link ih hv hk

/-! ## Hierarchies -/

/-- Certificates with known issuers: each carries its own key, keys tell them apart, and a
certificate verifies under its issuer's key and no other key of the hierarchy. There may
be keys outside of it under which a signature verifies too. -/
structure Hierarchy (S : Scheme Cert Key) (Node : Type) where
  cert : Node → Cert
  key : Node → Key
  issuer : Node → Node
  key_injective : Function.Injective key
  keyOf_cert : ∀ a, S.keyOf (cert a) = some (key a)
  verifies_iff : ∀ a b, S.Verifies (cert a) (key b) ↔ b = issuer a

/-- `Path a l`: `l` starts at `a`, goes from each certificate to its issuer and
ends in one that is its own issuer. -/
inductive Hierarchy.Path (H : Hierarchy S Node) : Node → List Node → Prop
  | root {a : Node} : H.issuer a = a → H.Path a [a]
  | link {a : Node} {l : List Node} : H.Path (H.issuer a) l → H.Path a (a :: l)

namespace Hierarchy

variable (H : Hierarchy S Node)

/-- Among the certificates of a hierarchy a chain walk accepts exactly the
issuer paths, and hands out the key of the node the path starts at. -/
theorem anchored_iff_path {l : List Node} {k : Key} :
    S.Anchored (l.map H.cert) k ↔ ∃ a, H.Path a l ∧ k = H.key a := by
  induction l generalizing k with
  | nil =>
    constructor
    · intro h
      exact absurd rfl h.ne_nil
    · rintro ⟨a, h, -⟩
      cases h
  | cons a l ih =>
    cases l with
    | nil =>
      rw [List.map_singleton, anchored_singleton, H.keyOf_cert, Option.some.injEq]
      constructor
      · rintro ⟨rfl, hv⟩
        exact ⟨a, .root ((H.verifies_iff a a).mp hv).symm, rfl⟩
      · rintro ⟨b, h, rfl⟩
        cases h with
        | root hroot => exact ⟨rfl, (H.verifies_iff a a).mpr hroot.symm⟩
        | link h => cases h
    | cons b l =>
      rw [List.map_cons, List.map_cons, anchored_cons_cons, ← List.map_cons]
      simp only [ih, H.keyOf_cert, Option.some.injEq]
      constructor
      · rintro ⟨k', ⟨c, hpath, rfl⟩, hv, rfl⟩
        -- the key it verifies under is its issuer's, so the path goes on there
        obtain rfl := (H.verifies_iff a c).mp hv
        exact ⟨a, .link hpath, rfl⟩
      · rintro ⟨c, h, rfl⟩
        cases h with
        | link h => exact ⟨_, ⟨_, h, rfl⟩, (H.verifies_iff _ _).mpr rfl, rfl⟩

/-- The first node of a path is the one it starts at. -/
theorem Path.head_eq {H : Hierarchy S Node} {a b : Node} {l : List Node}
    (h : H.Path a (b :: l)) : a = b := by
  cases h <;> rfl

/-- A path of three certificates. -/
theorem path_three {a x y z : Node} :
    H.Path a [x, y, z] ↔ a = x ∧ H.issuer x = y ∧ H.issuer y = z ∧ H.issuer z = z := by
  constructor
  · intro h
    cases h with
    | link h =>
      obtain rfl := h.head_eq.symm
      cases h with
      | link h =>
        obtain rfl := h.head_eq.symm
        cases h with
        | root hroot => exact ⟨rfl, rfl, rfl, hroot⟩
        | link h => cases h
  · rintro ⟨rfl, rfl, rfl, hroot⟩
    exact .link (.link (.root hroot))

end Hierarchy

end TrustChain
end Sifir.Lib
