import Sifir.Lib.Base64
import Sifir.Lib.Decimal
import Sifir.Lib.Ecdsa
import Sifir.Lib.Hex

/-!
# The crates the program is built on

`Crates` holds, as parameters, the functions of third-party crates that the
program calls; the model is generic in them. What a result relies on of a crate's
documented behaviour it states as a hypothesis, one of the `…Documented`
structures below. Errors of other crates are kept as the text they display.
-/

namespace Sifir

open Lib

abbrev Bytes := List UInt8

/-! ## Errors -/

/-- `anyhow::Error`: its own message, and the messages of what caused it. -/
structure AnyhowError where
  message : String
  causes : List String
deriving DecidableEq

namespace AnyhowError

/-- `anyhow!(..)`, and the conversion of an error of another type by `?`. -/
def msg (text : String) : AnyhowError := ⟨text, []⟩

/-- `.context(..)` on an error of another type. -/
def wrap (text : String) (cause : String) : AnyhowError := ⟨text, [cause]⟩

/-- `.context(..)` on an `anyhow::Error`. -/
def context (text : String) (e : AnyhowError) : AnyhowError := ⟨text, e.message :: e.causes⟩

end AnyhowError

/-! ## X.509 -/

/-- `der::asn1::BitString` -/
structure BitString where
  unusedBits : ℕ
  rawBytes : Bytes
deriving DecidableEq

/-- The bytes of a bit string that has no unused bits. -/
def BitString.asBytes (b : BitString) : Option Bytes :=
  if b.unusedBits = 0 then some b.rawBytes else none

/-- An object identifier, by its arcs. -/
abbrev Oid := List ℕ

/-- `SubjectPublicKeyInfo`, with the algorithm identifier as its encoding. -/
structure SubjectPublicKeyInfo where
  algorithm : Bytes
  subjectPublicKey : BitString
deriving DecidableEq

structure Extension where
  extnId : Oid
  critical : Bool
  extnValue : Bytes
deriving DecidableEq

/-- `TbsCertificate`. Names are kept as their encodings, and so are, in `rest`,
the fields the program does not look at. -/
structure TbsCertificate where
  issuer : Bytes
  subject : Bytes
  subjectPublicKeyInfo : SubjectPublicKeyInfo
  extensions : Option (List Extension)
  rest : Bytes
deriving DecidableEq

/-- `x509_cert::Certificate`, without the outer algorithm identifier. -/
structure Certificate where
  tbsCertificate : TbsCertificate
  signature : BitString
deriving DecidableEq

/-- `rcgen::CustomExtension` -/
structure CustomExtension where
  oid : Oid
  content : Bytes
deriving DecidableEq

/-- `CustomExtension::from_oid_content` -/
def CustomExtension.fromOidContent (oid : Oid) (content : Bytes) : CustomExtension :=
  { oid, content }

/-- `rcgen::CertificateParams`: the default parameters and the extensions added. -/
structure CertificateParams where
  customExtensions : List CustomExtension := []
deriving DecidableEq

/-! ## P-384 -/

/-- The order of the group of P-384. -/
def p384Order : ℕ :=
  0xFFFFFFFFFFFFFFFFFFFFFFFFFFFFFFFFFFFFFFFFFFFFFFFFC7634D81F4372DDF581A0DB248B0A77AECEC196ACCC52973

theorem p384Order_le : p384Order ≤ 256 ^ 48 := by decide

/-- `p384::ecdsa::SigningKey`, a nonzero scalar. -/
abbrev SigningKey := Ecdsa.Scalar p384Order

/-- `p384::ecdsa::Signature`, a pair of nonzero scalars. -/
abbrev Signature := Ecdsa.Signature p384Order

/-! ## The crates -/

class Crates where
  /-- `sha2::Sha256::digest` -/
  sha256 : Bytes → Vector UInt8 32
  /-- `hex::encode` -/
  hexEncode : Bytes → String
  /-- `hex::decode` -/
  hexDecode : String → Except String Bytes
  /-- `base64` engine `STANDARD`, encoding. -/
  base64Encode : Bytes → String
  /-- `base64` engine `STANDARD`, decoding. -/
  base64Decode : String → Except String Bytes
  /-- `base64` engine `URL_SAFE_NO_PAD`, decoding. -/
  base64UrlDecode : String → Except String Bytes
  /-- The text `serde_json::to_vec` writes for a value. -/
  jsonToVec : Json → Bytes
  /-- The value of a text `serde_json::from_slice` finds well formed. -/
  jsonFromSlice : Bytes → Option Json
  /-- The error `serde_json::from_slice` displays for a text it does not read. -/
  jsonError : Bytes → String
  /-- `str::to_lowercase` on a character outside ASCII, between its neighbours. -/
  lowercaseTable : List Char → Char → List Char → List Char
  /-- `p384::ecdsa::VerifyingKey` -/
  VerifyingKey : Type
  /-- `ecdsa::der::Signature<NistP384>` -/
  DerSignature : Type
  /-- `SigningKey::verifying_key` -/
  verifyingKey : SigningKey → VerifyingKey
  /-- `VerifyingKey::to_encoded_point(compress).as_bytes()` -/
  toEncodedPoint : VerifyingKey → Bool → Bytes
  /-- `VerifyingKey::from_sec1_bytes` -/
  fromSec1Bytes : Bytes → Except String VerifyingKey
  /-- `Signer::sign` -/
  sign : SigningKey → Bytes → Signature
  /-- `Verifier::verify` with a fixed-size signature. -/
  verify : VerifyingKey → Bytes → Signature → Except String Unit
  /-- `Signature::try_from(&[u8])` -/
  signatureTryFrom : Bytes → Except String Signature
  /-- `Signature::to_bytes` -/
  signatureToBytes : Signature → Vector UInt8 96
  /-- `ecdsa::der::Signature::try_from(&[u8])` -/
  derSignatureTryFrom : Bytes → Except String DerSignature
  /-- `Verifier::verify` with a DER signature. -/
  verifyDer : VerifyingKey → Bytes → DerSignature → Except String Unit
  /-- `x509_cert::Certificate::from_der` -/
  certificateFromDer : Bytes → Except String Certificate
  /-- `TbsCertificate::to_der` -/
  tbsToDer : TbsCertificate → Except String Bytes
  /-- `SubjectPublicKeyInfo::to_der` -/
  spkiToDer : SubjectPublicKeyInfo → Except String Bytes
  /-- `str::parse::<ObjectIdentifier>` -/
  oidParse : String → Except String Oid
  /-- The random bits a key generation or a signature draws. -/
  Entropy : Type
  /-- `rcgen::KeyPair` -/
  KeyPair : Type
  /-- `rcgen::KeyPair::generate_for(&PKCS_ECDSA_P256_SHA256)` -/
  generateP256 : Entropy → Except String KeyPair
  /-- `CertificateParams::self_signed(..)`, as the DER of the certificate. -/
  selfSigned : CertificateParams → KeyPair → Entropy → Except String Bytes
  /-- `KeyPair::serialized_der` -/
  serializedDer : KeyPair → Bytes
  /-- `rustls::ServerConfig` -/
  ServerConfig : Type
  /-- `with_no_client_auth().with_single_cert(..)` -/
  withSingleCert : List Bytes → Bytes → Except String ServerConfig
  /-- The certificates a server configuration presents, end entity first. -/
  certChain : ServerConfig → List Bytes

namespace Crates

variable [Crates]

/-! ## What their documentation says -/

/-- `hex` writes lower-case digits and reads either case. -/
structure HexDocumented : Prop where
  encode_eq : ∀ b, hexEncode b = String.ofList (Hex.encode b)
  decode_iff : ∀ s b, hexDecode s = .ok b ↔ Hex.decode s.toList = some b

/-- Hexadecimal text determines the bytes of a vector. -/
theorem HexDocumented.encode_inj (h : HexDocumented) {len : ℕ} {v w : Vector UInt8 len} :
    hexEncode v.toList = hexEncode w.toList ↔ v = w := by
  rw [h.encode_eq, h.encode_eq, String.ofList_inj, Hex.encode_injective.eq_iff,
    Vector.toList_inj]

/-- The `base64` engines are the padded standard alphabet and the unpadded
URL-safe one, and decode only what they encode. -/
structure Base64Documented : Prop where
  encode_eq : ∀ b, base64Encode b = String.ofList (Base64.encode .standard true b)
  decode_iff : ∀ s b, base64Decode s = .ok b ↔ s.toList = Base64.encode .standard true b
  urlDecode_iff : ∀ s b, base64UrlDecode s = .ok b ↔ s.toList = Base64.encode .urlSafe false b

/-- `str::to_lowercase` is the Unicode mapping. Outside ASCII every character has a
lower-case text, with an ASCII letter in it for two characters only: `i` for U+0130 and
`k` for U+212A. -/
structure LowercaseDocumented : Prop where
  ne_nil : ∀ before c after, ¬ c.toNat < 128 → lowercaseTable before c after ≠ []
  ascii_letter : ∀ before c after, ¬ c.toNat < 128 → ∀ d ∈ lowercaseTable before c after,
    d.toNat < 128 → c.toNat = 0x130 ∧ d = 'i' ∨ c.toNat = 0x212A ∧ d = 'k'

/-- `serde_json` reads back what it writes. -/
structure SerdeJsonDocumented : Prop where
  fromSlice_toVec : ∀ j, jsonFromSlice (jsonToVec j) = some j

/-- A text, or a number of 64 bits. -/
def IsScalar (j : Json) : Prop :=
  (∃ s, j = Serde.ofString s) ∨ ∃ n < 2 ^ 64, j = .num (Json.Number.ofNat n)

/-- `serde_json` follows RFC 8259: it writes compact texts, and reads a text as the value
it denotes. It has limits on nesting and on numbers, so that it does read a text is said
of objects with scalar members only. -/
structure JsonTextDocumented : Prop where
  toVec_eq : ∀ j, jsonToVec j = Json.print j
  fromSlice_sound : ∀ b j, jsonFromSlice b = some j → Json.parse b = some j
  fromSlice_scalars : ∀ b ms, Json.parse b = some (Serde.ofMembers ms) →
    (∀ m ∈ ms, IsScalar m.2) → jsonFromSlice b = some (Serde.ofMembers ms)

/-- `p384` reads back the SEC1 encodings of its keys. -/
structure Sec1Documented : Prop where
  fromSec1_toEncodedPoint : ∀ k c,
    fromSec1Bytes (toEncodedPoint (verifyingKey k) c) = .ok (verifyingKey k)

/-- The fixed-size signature format of `p384` is `r ‖ s`, two big-endian scalars. -/
structure SignatureFormatDocumented : Prop where
  signatureTryFrom_iff : ∀ b σ,
    signatureTryFrom b = .ok σ ↔ Ecdsa.Signature.ofBytes p384Order 48 b = some σ
  signatureToBytes_eq : ∀ σ, (signatureToBytes σ).toList = Ecdsa.Signature.toBytes 48 σ

/-- What a signing key signs verifies under its verifying key. -/
structure SignDocumented : Prop where
  verify_sign : ∀ k m, verify (verifyingKey k) m (sign k m) = .ok ()

/-- The certificates `rcgen` makes of a key pair parse and carry its public key. With
the default parameters and one extension added, that is the first with its OID. -/
structure RcgenDocumented : Prop where
  selfSigned_ok : ∀ kp, ∃ spki, ∀ params e der, selfSigned params kp e = .ok der →
    ∃ cert, certificateFromDer der = .ok cert ∧
      cert.tbsCertificate.subjectPublicKeyInfo = spki ∧
      ∀ x, params.customExtensions = [x] → ∃ ext,
        (cert.tbsCertificate.extensions.getD []).find? (fun e => e.extnId = x.oid) = some ext ∧
        ext.extnValue = x.content

/-- `rustls` presents the chain it is configured with. -/
structure RustlsDocumented : Prop where
  certChain_eq : ∀ certs key cfg, withSingleCert certs key = .ok cfg → certChain cfg = certs

end Crates
end Sifir
