import Sifir.Attest.AmdCerts
import Sifir.Reference

/-!
# The certificate chain walk

`vcekVerifyingKey` succeeds on a list exactly when its first three entries parse
and form an anchored chain of `certScheme`, and fails with a `certChain` error
otherwise. From this: when the walk meets its documented contract
(`meetsContract_iff`), and what it does with the certificates of a genuine
hierarchy (`onlyChipKey_iff`).
-/

namespace Sifir
namespace AmdCerts

open Lib TrustChain Results

/-! ## Chain errors -/

/-- A result whose errors are all chain errors. -/
def ChainErrors {α : Type} (x : Except VerifyError α) : Prop :=
  ∀ e, x = .error e → ∃ text, e = .certChain text

theorem chainErrors_mapError {α ε : Type} (x : Except ε α) (g : ε → String) :
    ChainErrors (x.mapError fun e => VerifyError.certChain (g e)) := by
  intro e h
  obtain ⟨e', -, rfl⟩ := mapError_eq_error.mp h
  exact ⟨_, rfl⟩

theorem chainErrors_okOr {α : Type} (text : String) (o : Option α) :
    ChainErrors (okOr (VerifyError.certChain text) o) := by
  intro e h
  obtain ⟨-, rfl⟩ := okOr_eq_error.mp h
  exact ⟨_, rfl⟩

theorem ChainErrors.bind {α β : Type} {x : Except VerifyError α} {f : α → Except VerifyError β}
    (hx : ChainErrors x) (hf : ∀ a, ChainErrors (f a)) : ChainErrors (x >>= f) := by
  intro e h
  rcases bind_eq_error.mp h with h | ⟨a, -, h⟩
  · exact hx e h
  · exact hf a e h

/-- What only fails with chain errors and does not succeed fails with one. -/
theorem not_ok_of_chainErrors {α : Type} {x : Except VerifyError α} (hx : ChainErrors x)
    (h : ∀ a, x ≠ .ok a) : ∃ text, x = .error (.certChain text) := by
  obtain ⟨e, he⟩ := not_ok_iff.mp fun ⟨a, ha⟩ => h a ha
  obtain ⟨text, rfl⟩ := hx e he
  exact ⟨text, he⟩

/-! ## Certificates as the library reads them -/

section Walk

variable [Crates]

/-- The P-384 key a certificate carries. -/
def certKey (cert : Certificate) : Option Crates.VerifyingKey :=
  cert.tbsCertificate.subjectPublicKeyInfo.subjectPublicKey.asBytes.bind
    fun raw => (Crates.fromSec1Bytes raw).toOption

/-- The signature of a certificate verifies over its TBS part under a key. -/
def SignedBy (cert : Certificate) (k : Crates.VerifyingKey) : Prop :=
  ∃ tbs sig derSig, Crates.tbsToDer cert.tbsCertificate = .ok tbs ∧
    cert.signature.asBytes = some sig ∧ Crates.derSignatureTryFrom sig = .ok derSig ∧
    Crates.verifyDer k tbs derSig = .ok ()

/-- What the chain walk reads of a certificate. -/
def certScheme : Scheme Certificate Crates.VerifyingKey where
  keyOf := certKey
  Verifies := SignedBy

/-- The contract of a chain of three parsed certificates, by signatures alone. -/
def Consistent (vcek ask ark : Certificate) (k : Crates.VerifyingKey) : Prop :=
  ∃ askVk arkVk, certKey ark = some arkVk ∧ SignedBy ark arkVk ∧ SignedBy ask arkVk ∧
    certKey ask = some askVk ∧ SignedBy vcek askVk ∧ certKey vcek = some k

/-- A list whose first three entries parse. -/
def ParsesAs (chain : List Bytes) (vcek ask ark : Certificate) : Prop :=
  ∃ d₀ d₁ d₂ rest, chain = d₀ :: d₁ :: d₂ :: rest ∧
    Crates.certificateFromDer d₀ = .ok vcek ∧ Crates.certificateFromDer d₁ = .ok ask ∧
    Crates.certificateFromDer d₂ = .ok ark

theorem ParsesAs.unique {chain : List Bytes} {vcek ask ark vcek' ask' ark' : Certificate}
    (h : ParsesAs chain vcek ask ark) (h' : ParsesAs chain vcek' ask' ark') :
    vcek = vcek' ∧ ask = ask' ∧ ark = ark' := by
  obtain ⟨d₀, d₁, d₂, rest, rfl, hvcek, hask, hark⟩ := h
  obtain ⟨_, _, _, _, heq, hvcek', hask', hark'⟩ := h'
  obtain ⟨rfl, rfl, rfl, -⟩ : d₀ = _ ∧ d₁ = _ ∧ d₂ = _ ∧ _ := by simpa using heq
  exact ⟨Except.ok.inj (hvcek.symm.trans hvcek'), Except.ok.inj (hask.symm.trans hask'),
    Except.ok.inj (hark.symm.trans hark')⟩

/-- Checking signatures alone is being an anchored chain. -/
theorem consistent_iff_anchored {vcek ask ark : Certificate} {k : Crates.VerifyingKey} :
    Consistent vcek ask ark k ↔ certScheme.Anchored [vcek, ask, ark] k := by
  simp only [anchored_cons_cons, anchored_singleton]
  constructor
  · rintro ⟨askVk, arkVk, hark, harkSig, haskSig, hask, hvcekSig, hvcek⟩
    exact ⟨askVk, ⟨arkVk, ⟨hark, harkSig⟩, haskSig, hask⟩, hvcekSig, hvcek⟩
  · rintro ⟨askVk, ⟨arkVk, ⟨hark, harkSig⟩, haskSig, hask⟩, hvcekSig, hvcek⟩
    exact ⟨askVk, arkVk, hark, harkSig, haskSig, hask, hvcekSig, hvcek⟩

/-! ## What each step does -/

theorem parseCert_eq_ok {der : Bytes} {cert : Certificate} :
    parseCert der = .ok cert ↔ Crates.certificateFromDer der = .ok cert :=
  mapError_eq_ok

theorem chainErrors_parseCert (der : Bytes) : ChainErrors (parseCert der) :=
  chainErrors_mapError _ _

theorem extractP384Key_eq_ok {cert : Certificate} {k : Crates.VerifyingKey} :
    extractP384Key cert = .ok k ↔ certKey cert = some k := by
  simp only [extractP384Key, certKey, bind_eq_ok, okOr_eq_ok, mapError_eq_ok,
    Option.bind_eq_some_iff]
  constructor
  · rintro ⟨raw, hraw, hk⟩
    exact ⟨raw, hraw, by rw [hk]; rfl⟩
  · rintro ⟨raw, hraw, hk⟩
    refine ⟨raw, hraw, ?_⟩
    cases hkey : Crates.fromSec1Bytes raw with
    | error e =>
      rw [hkey] at hk
      simp [Except.toOption] at hk
    | ok k' =>
      rw [hkey] at hk
      simpa [Except.toOption] using hk

theorem chainErrors_extractP384Key (cert : Certificate) : ChainErrors (extractP384Key cert) :=
  (chainErrors_okOr _ _).bind fun _ => chainErrors_mapError _ _

theorem verifyCertSignature_eq_ok {cert : Certificate} {k : Crates.VerifyingKey} :
    verifyCertSignature cert k = .ok () ↔ SignedBy cert k := by
  simp only [verifyCertSignature, SignedBy, bind_eq_ok, okOr_eq_ok, mapError_eq_ok]
  constructor
  · rintro ⟨tbs, htbs, sig, hsig, derSig, hder, hverify⟩
    exact ⟨tbs, sig, derSig, htbs, hsig, hder, hverify⟩
  · rintro ⟨tbs, sig, derSig, htbs, hsig, hder, hverify⟩
    exact ⟨tbs, htbs, sig, hsig, derSig, hder, hverify⟩

/-! ## The walk -/

/-- The walk over three entries does not look past them. -/
theorem vcekVerifyingKey_cons (d₀ d₁ d₂ : Bytes) (rest rest' : List Bytes) :
    vcekVerifyingKey (d₀ :: d₁ :: d₂ :: rest) = vcekVerifyingKey (d₀ :: d₁ :: d₂ :: rest') := by
  rw [vcekVerifyingKey, vcekVerifyingKey, dif_neg (by simp), dif_neg (by simp)]
  rfl

/-- Fewer than three entries are an error that says how many there were. -/
theorem vcekVerifyingKey_of_short {chain : List Bytes} (h : chain.length < 3) :
    vcekVerifyingKey chain
      = .error (.certChain s!"expected [VCEK, ASK, ARK] (3 certs), got {chain.length}") :=
  dif_pos h

/-- The walk fails with chain errors only. -/
theorem chainErrors_vcekVerifyingKey (chain : List Bytes) :
    ChainErrors (vcekVerifyingKey chain) := by
  unfold vcekVerifyingKey
  split
  · intro e h
    exact ⟨_, (Except.error.inj h).symm⟩
  · exact (chainErrors_parseCert _).bind fun vcek => (chainErrors_parseCert _).bind fun ask =>
      (chainErrors_parseCert _).bind fun ark => (chainErrors_extractP384Key _).bind fun arkVk =>
      (chainErrors_mapError _ _).bind fun _ => (chainErrors_mapError _ _).bind fun _ =>
      (chainErrors_extractP384Key _).bind fun askVk => (chainErrors_mapError _ _).bind fun _ =>
      chainErrors_extractP384Key _

/-- The walk succeeds on exactly the lists that start with a consistent chain. -/
theorem vcekVerifyingKey_eq_ok {chain : List Bytes} {k : Crates.VerifyingKey} :
    vcekVerifyingKey chain = .ok k
      ↔ ∃ vcek ask ark, ParsesAs chain vcek ask ark ∧ Consistent vcek ask ark k := by
  match chain with
  | [] | [_] | [_, _] =>
    rw [vcekVerifyingKey_of_short (by simp)]
    simp [ParsesAs]
  | d₀ :: d₁ :: d₂ :: rest =>
    rw [vcekVerifyingKey, dif_neg (by simp)]
    -- every step of the walk, by what it succeeds on
    simp only [List.getElem_cons_zero, List.getElem_cons_succ, bind_eq_ok, exists_unit,
      mapError_eq_ok, parseCert_eq_ok, extractP384Key_eq_ok, verifyCertSignature_eq_ok]
    constructor
    · rintro ⟨vcek, hvcek, ask, hask, ark, hark, arkVk, harkVk, harkSig, haskSig, askVk, haskVk,
        hvcekSig, hk⟩
      exact ⟨vcek, ask, ark, ⟨d₀, d₁, d₂, rest, rfl, hvcek, hask, hark⟩,
        askVk, arkVk, harkVk, harkSig, haskSig, haskVk, hvcekSig, hk⟩
    · rintro ⟨vcek, ask, ark, ⟨_, _, _, _, heq, hvcek, hask, hark⟩,
        askVk, arkVk, harkVk, harkSig, haskSig, haskVk, hvcekSig, hk⟩
      obtain ⟨rfl, rfl, rfl, rfl⟩ : _ ∧ _ ∧ _ ∧ _ := by simpa using heq
      exact ⟨vcek, hvcek, ask, hask, ark, hark, arkVk, harkVk, harkSig, haskSig, askVk, haskVk,
        hvcekSig, hk⟩

/-- A certificate that verifies under its own key is a chain of any three copies. -/
theorem vcekVerifyingKey_selfSigned {der : Bytes} {cert : Certificate} {k : Crates.VerifyingKey}
    (hparse : Crates.certificateFromDer der = .ok cert) (hkey : certKey cert = some k)
    (hsig : SignedBy cert k) : vcekVerifyingKey [der, der, der] = .ok k :=
  vcekVerifyingKey_eq_ok.mpr ⟨cert, cert, cert, ⟨_, _, _, _, rfl, hparse, hparse, hparse⟩,
    consistent_iff_anchored.mpr (anchored_replicate hkey hsig 2)⟩

end Walk

/-! ## The reference certificates -/

section Reference

open Reference

attribute [local instance] crates

theorem points_wellFormed : ∀ c ∈ amdCerts, c.point.length = 97 ∧ c.point.head? = some 4 := by
  decide

theorem certKey_parsed {c : AmdCert} (hc : c ∈ amdCerts) : certKey c.parsed = some c.point := by
  have hkey : Crates.fromSec1Bytes c.point = .ok c.point := if_pos (points_wellFormed c hc)
  rw [certKey, c.point_asBytes, Option.bind_some, hkey]
  rfl

theorem signedBy_parsed_iff {c : AmdCert} (hc : c ∈ amdCerts) {k : Crates.VerifyingKey} :
    SignedBy c.parsed k ↔ k = c.signer := by
  rw [← verifyDer_amd_iff hc]
  constructor
  · rintro ⟨tbs, sig, derSig, htbs, hsig, hder, hverify⟩
    rw [tbsToDer_amd, Except.ok.injEq] at htbs
    rw [c.signature_asBytes, Option.some.injEq] at hsig
    subst htbs hsig
    have hsame := (derSignatureTryFrom_amd hc).symm.trans hder
    rw [Except.ok.injEq] at hsame
    subst hsame
    exact hverify
  · intro hverify
    exact ⟨c.tbs, derSignature c.r c.s, derSignature c.r c.s, tbsToDer_amd c, c.signature_asBytes,
      derSignatureTryFrom_amd hc, hverify⟩

/-- The walk over three of them compares keys with signers. -/
theorem vcekVerifyingKey_ders {c d e : AmdCert} (hc : c ∈ amdCerts) (hd : d ∈ amdCerts)
    (he : e ∈ amdCerts) (hroot : e.point = e.signer) (hde : e.point = d.signer)
    (hcd : d.point = c.signer) (rest : List Bytes) :
    vcekVerifyingKey (c.der :: d.der :: e.der :: rest) = .ok c.point :=
  vcekVerifyingKey_eq_ok.mpr ⟨c.parsed, d.parsed, e.parsed,
    ⟨_, _, _, rest, rfl, certificateFromDer_amd hc, certificateFromDer_amd hd,
      certificateFromDer_amd he⟩,
    d.point, e.point, certKey_parsed he, (signedBy_parsed_iff he).mpr hroot,
    (signedBy_parsed_iff hd).mpr hde, certKey_parsed hd, (signedBy_parsed_iff hc).mpr hcd,
    certKey_parsed hc⟩

end Reference

/-! ## The documented contract -/

section Contract

variable [Crates]

/-- What `vcekVerifyingKey` says it checks: a consistent chain whose ARK moreover
names itself as its issuer. -/
def Contract (chain : List Bytes) (k : Crates.VerifyingKey) : Prop :=
  ∃ vcek ask ark, ParsesAs chain vcek ask ark ∧
    ark.tbsCertificate.issuer = ark.tbsCertificate.subject ∧ Consistent vcek ask ark k

/-- The walk behaves on a list as documented: success is the contract, everything
else is a chain error, and entries after the third change nothing. -/
def MeetsContract (chain : List Bytes) : Prop :=
  (∀ k, vcekVerifyingKey chain = .ok k ↔ Contract chain k) ∧
  ((∀ k, ¬ Contract chain k) → ∃ text, vcekVerifyingKey chain = .error (.certChain text)) ∧
  ∀ d₀ d₁ d₂ rest rest', chain = d₀ :: d₁ :: d₂ :: rest →
    vcekVerifyingKey (d₀ :: d₁ :: d₂ :: rest') = vcekVerifyingKey chain

/-- The walk meets its contract exactly on the lists where a consistent chain has
an ARK that names itself as its issuer: the check the source announces and does
not make. -/
theorem meetsContract_iff (chain : List Bytes) :
    MeetsContract chain ↔
      ∀ vcek ask ark k, ParsesAs chain vcek ask ark → Consistent vcek ask ark k →
        ark.tbsCertificate.issuer = ark.tbsCertificate.subject := by
  constructor
  · rintro ⟨hok, -, -⟩ vcek ask ark k hparse hcons
    have hwalk : vcekVerifyingKey chain = .ok k :=
      vcekVerifyingKey_eq_ok.mpr ⟨vcek, ask, ark, hparse, hcons⟩
    obtain ⟨vcek', ask', ark', hparse', hself, -⟩ := (hok k).mp hwalk
    rwa [(hparse.unique hparse').2.2]
  · intro hself
    have hok : ∀ k, vcekVerifyingKey chain = .ok k ↔ Contract chain k := by
      intro k
      rw [vcekVerifyingKey_eq_ok]
      constructor
      · rintro ⟨vcek, ask, ark, hparse, hcons⟩
        exact ⟨vcek, ask, ark, hparse, hself vcek ask ark k hparse hcons, hcons⟩
      · rintro ⟨vcek, ask, ark, hparse, -, hcons⟩
        exact ⟨vcek, ask, ark, hparse, hcons⟩
    refine ⟨hok, fun hnone => ?_, ?_⟩
    · exact not_ok_of_chainErrors (chainErrors_vcekVerifyingKey chain)
        fun k hk => hnone k ((hok k).mp hk)
    · rintro d₀ d₁ d₂ rest rest' rfl
      exact vcekVerifyingKey_cons d₀ d₁ d₂ rest' rest

end Contract

section Contract

open Reference

attribute [local instance] crates

/-- A root certificate that verifies under the root's key and names another issuer is
accepted in the third place. -/
theorem not_meetsContract_crossArk : ¬ MeetsContract [vcek.der, ask.der, crossArk.der] := by
  rintro ⟨hok, -, -⟩
  have hwalk : vcekVerifyingKey [vcek.der, ask.der, crossArk.der] = .ok vcek.point :=
    vcekVerifyingKey_ders vcek_mem ask_mem crossArk_mem rfl rfl rfl []
  obtain ⟨cert, cert', ark', ⟨_, _, _, _, heq, -, -, hark⟩, hself, -⟩ := (hok _).mp hwalk
  obtain ⟨-, -, rfl, -⟩ : _ ∧ _ ∧ crossArk.der = _ ∧ _ := by simpa using heq
  rw [certificateFromDer_amd crossArk_mem, Except.ok.injEq] at hark
  subst hark
  revert hself
  decide

end Contract

/-! ## Genuine hierarchies -/

section Hierarchy

variable [Crates]

/-- The places of a hierarchy: one root, intermediates, chips. -/
inductive AmdNode (Ask Vcek : Type) where
  | ark
  | ask (i : Ask)
  | vcek (j : Vcek)

/-- The root signs itself and the intermediates, each chip is signed by its parent. -/
def AmdNode.issuer {Ask Vcek : Type} (parent : Vcek → Ask) : AmdNode Ask Vcek → AmdNode Ask Vcek
  | .ark => .ark
  | .ask _ => .ark
  | .vcek j => .ask (parent j)

/-- A genuine hierarchy, with the encodings its certificates come in. -/
structure AmdHierarchy (Ask Vcek : Type) extends Hierarchy certScheme (AmdNode Ask Vcek) where
  parent : Vcek → Ask
  issuer_eq : ∀ a, issuer a = a.issuer parent
  der : AmdNode Ask Vcek → Bytes
  parses : ∀ a, Crates.certificateFromDer (der a) = .ok (cert a)

variable {Ask Vcek : Type} (H : AmdHierarchy Ask Vcek)

theorem AmdHierarchy.parsesAs_iff {l : List (AmdNode Ask Vcek)} {vcek ask ark : Certificate} :
    ParsesAs (l.map H.der) vcek ask ark ↔ ∃ x y z rest, l = x :: y :: z :: rest ∧
      vcek = H.cert x ∧ ask = H.cert y ∧ ark = H.cert z := by
  match l with
  | [] | [_] | [_, _] => simp [ParsesAs]
  | x :: y :: z :: rest =>
    constructor
    · rintro ⟨d₀, d₁, d₂, ds, heq, hvcek, hask, hark⟩
      obtain ⟨rfl, rfl, rfl, -⟩ : H.der x = d₀ ∧ H.der y = d₁ ∧ H.der z = d₂ ∧ _ := by
        simpa using heq
      rw [H.parses, Except.ok.injEq] at hvcek hask hark
      exact ⟨x, y, z, rest, rfl, hvcek.symm, hask.symm, hark.symm⟩
    · rintro ⟨x', y', z', rest', heq, rfl, rfl, rfl⟩
      rw [heq]
      exact ⟨_, _, _, _, rfl, H.parses x', H.parses y', H.parses z'⟩

/-- On the certificates of a hierarchy the walk accepts the lists that start with
an issuer path of three, and returns the key of its first node. -/
theorem AmdHierarchy.vcekVerifyingKey_eq_ok {l : List (AmdNode Ask Vcek)}
    {k : Crates.VerifyingKey} :
    vcekVerifyingKey (l.map H.der) = .ok k
      ↔ ∃ x y z rest, l = x :: y :: z :: rest ∧ H.Path x [x, y, z] ∧ k = H.key x := by
  have hiff : ∀ x y z, certScheme.Anchored [H.cert x, H.cert y, H.cert z] k
      ↔ ∃ a, H.Path a [x, y, z] ∧ k = H.key a := by
    intro x y z
    have h : certScheme.Anchored ([x, y, z].map H.cert) k ↔ _ := H.anchored_iff_path
    exact h
  rw [AmdCerts.vcekVerifyingKey_eq_ok]
  simp only [H.parsesAs_iff, consistent_iff_anchored]
  constructor
  · rintro ⟨_, _, _, ⟨x, y, z, rest, hl, rfl, rfl, rfl⟩, hanch⟩
    obtain ⟨a, hpath, rfl⟩ := (hiff x y z).mp hanch
    obtain rfl := hpath.head_eq
    exact ⟨a, y, z, rest, hl, hpath, rfl⟩
  · rintro ⟨x, y, z, rest, hl, hpath, rfl⟩
    exact ⟨_, _, _, ⟨x, y, z, rest, hl, rfl, rfl, rfl⟩, (hiff x y z).mpr ⟨x, hpath, rfl⟩⟩

/-- The issuer paths of three in an AMD hierarchy: a chip's chain, and the two
that start above the chips. -/
theorem AmdHierarchy.path_iff {x y z : AmdNode Ask Vcek} :
    H.Path x [x, y, z] ↔
      (∃ j, x = .vcek j ∧ y = .ask (H.parent j) ∧ z = .ark) ∨
      ((∃ i, x = .ask i) ∨ x = .ark) ∧ y = .ark ∧ z = .ark := by
  rw [Hierarchy.path_three, H.issuer_eq, H.issuer_eq, H.issuer_eq]
  constructor
  · rintro ⟨-, rfl, rfl, -⟩
    -- the issuer of a root or an intermediate is the root, which is its own
    cases x with
    | ark => exact Or.inr ⟨Or.inr rfl, rfl, rfl⟩
    | ask i => exact Or.inr ⟨Or.inl ⟨i, rfl⟩, rfl, rfl⟩
    | vcek j => exact Or.inl ⟨j, rfl, rfl, rfl⟩
  · rintro (⟨j, rfl, rfl, rfl⟩ | ⟨⟨i, rfl⟩ | rfl, rfl, rfl⟩)
    · exact ⟨rfl, rfl, rfl, rfl⟩
    · exact ⟨rfl, rfl, rfl, rfl⟩
    · exact ⟨rfl, rfl, rfl, rfl⟩

/-- Only a chip key comes out of a list exactly when the list does not start with
`[ARK or ASK, ARK, ARK]`: the walk asks for signatures only, and the root is a
valid issuer of itself in every position. -/
theorem onlyChipKey_iff (l : List (AmdNode Ask Vcek)) :
    (∀ k, vcekVerifyingKey (l.map H.der) = .ok k →
      ∃ j rest, l = .vcek j :: .ask (H.parent j) :: .ark :: rest ∧ k = H.key (.vcek j))
    ↔ ¬ ∃ x rest, l = x :: .ark :: .ark :: rest ∧ ((∃ i, x = .ask i) ∨ x = .ark) := by
  simp only [H.vcekVerifyingKey_eq_ok, H.path_iff]
  constructor
  · rintro honly ⟨x, rest, rfl, hx⟩
    obtain ⟨j, rest', heq, -⟩ :=
      honly _ ⟨x, .ark, .ark, rest, rfl, Or.inr ⟨hx, rfl, rfl⟩, rfl⟩
    simp at heq
  · rintro hnot k ⟨x, y, z, rest, rfl, ⟨j, rfl, rfl, rfl⟩ | ⟨hx, rfl, rfl⟩, rfl⟩
    · exact ⟨j, rest, rfl, rfl⟩
    · exact absurd ⟨x, rest, rfl, hx⟩ hnot

end Hierarchy

section Hierarchy

open Reference

attribute [local instance] crates

/-- The certificates of the reference instance in a hierarchy with one intermediate and
one chip. -/
def AmdNode.reference : AmdNode Unit Unit → AmdCert
  | .ark => Reference.ark
  | .ask _ => Reference.ask
  | .vcek _ => Reference.vcek

theorem AmdNode.reference_mem : ∀ a : AmdNode Unit Unit, a.reference ∈ amdCerts
  | .ark => ark_mem
  | .ask _ => ask_mem
  | .vcek _ => vcek_mem

theorem AmdNode.point_injective :
    Function.Injective fun a : AmdNode Unit Unit => a.reference.point := by
  obtain ⟨h₁, h₂, -, h₃, -, -⟩ := points_distinct
  rintro (_ | _ | _) (_ | _ | _) h
  · rfl
  · exact absurd h h₁
  · exact absurd h h₂
  · exact absurd h.symm h₁
  · rfl
  · exact absurd h h₃
  · exact absurd h.symm h₂
  · exact absurd h.symm h₃
  · rfl

def referenceHierarchy : AmdHierarchy Unit Unit where
  cert a := a.reference.parsed
  key a := a.reference.point
  issuer := AmdNode.issuer id
  key_injective := AmdNode.point_injective
  keyOf_cert a := certKey_parsed a.reference_mem
  verifies_iff a b := by
    have hsigner : a.reference.signer = (AmdNode.issuer id a).reference.point := by
      cases a <;> rfl
    refine (signedBy_parsed_iff a.reference_mem).trans ?_
    rw [hsigner]
    exact AmdNode.point_injective.eq_iff
  parent := id
  issuer_eq _ := rfl
  der a := a.reference.der
  parses a := certificateFromDer_amd a.reference_mem

theorem referenceHierarchy_der (a : AmdNode Unit Unit) :
    referenceHierarchy.der a = a.reference.der := by
  rw [referenceHierarchy]

/-- Of the chain [ASK, ARK, ARK] the walk returns the intermediate's key. -/
theorem not_onlyChipKey_ask_ark_ark :
    let l : List (AmdNode Unit Unit) := [.ask (), .ark, .ark]
    ¬ ∀ k, vcekVerifyingKey (l.map referenceHierarchy.der) = .ok k →
      ∃ j rest, l = .vcek j :: .ask (referenceHierarchy.parent j) :: .ark :: rest ∧
        k = referenceHierarchy.key (.vcek j) := by
  intro l honly
  simp only [l, List.map_cons, List.map_nil, referenceHierarchy_der] at honly
  have hark := AmdNode.reference_mem .ark
  have hwalk := vcekVerifyingKey_ders (AmdNode.reference_mem (.ask ())) hark hark rfl rfl rfl []
  obtain ⟨j, rest, heq, -⟩ := honly _ hwalk
  cases heq

end Hierarchy

end AmdCerts
end Sifir
