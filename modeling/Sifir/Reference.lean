import Sifir.Attest.AttestExt
import Sifir.Attest.Mock
import Sifir.Lib.JsonTheorems

/-!
# A reference instance of the crates

`crates` gives every parameter of the model a definition. The text formats (`hex`,
`base64`, `serde_json`) are the library's. The cryptographic functions and the
X.509 parser are tables of true values, computed with P-384, P-256, SHA-256 and
DER: the keys below, the signatures they make of the messages below, and the
certificates with these keys and signatures. On everything else the functions
answer with a fallback or an error. The instance keeps what the `…Documented`
structures say, and theorems with such hypotheses are instantiated with it.
-/

namespace Sifir
namespace Reference

open Lib Windows

/-! ## Encodings -/

/-- An uncompressed SEC1 point of P-384. -/
def sec1 (x y : ℕ) : Bytes := 4 :: (Ecdsa.beBytes 48 x ++ Ecdsa.beBytes 48 y)

/-- The bytes of a digest. -/
def digest (n : ℕ) : Vector UInt8 32 := ⟨(Ecdsa.beBytes 32 n).toArray, by simp⟩

/-- A DER tag with a length of `256` or more. -/
def longHeader (tag : UInt8) (len : ℕ) : Bytes :=
  [tag, 0x82, UInt8.ofNat (len / 256), UInt8.ofNat (len % 256)]

/-- A DER element. -/
def tlv (tag : UInt8) (content : Bytes) : Bytes :=
  if content.length < 128 then tag :: UInt8.ofNat content.length :: content
  else if content.length < 256 then tag :: 0x81 :: UInt8.ofNat content.length :: content
  else longHeader tag content.length ++ content

def derInteger (n : ℕ) : Bytes :=
  let b := (Ecdsa.beBytes 48 n).dropWhile (· == 0)
  tlv 2 (if 128 ≤ b.headD 0 then 0 :: b else b)

/-- `Ecdsa-Sig-Value` -/
def derSignature (r s : ℕ) : Bytes := tlv 0x30 (derInteger r ++ derInteger s)

def derBits (b : Bytes) : Bytes := tlv 3 (0 :: b)

/-- A name with a common name only. -/
def commonName (cn : String) : Bytes :=
  tlv 0x30 (tlv 0x31 (tlv 0x30 ([0x06, 0x03, 0x55, 0x04, 0x03] ++ tlv 0x0c (Json.ascii cn))))

/-- `id-ecPublicKey` with `secp384r1`, and with `prime256v1`. -/
def p384Algorithm : Bytes :=
  [0x30, 0x10, 0x06, 0x07, 0x2a, 0x86, 0x48, 0xce, 0x3d, 0x02, 0x01, 0x06, 0x05, 0x2b, 0x81, 0x04,
    0x00, 0x22]

def p256Algorithm : Bytes :=
  [0x30, 0x13, 0x06, 0x07, 0x2a, 0x86, 0x48, 0xce, 0x3d, 0x02, 0x01, 0x06, 0x08, 0x2a, 0x86, 0x48,
    0xce, 0x3d, 0x03, 0x01, 0x07]

/-- `ecdsa-with-SHA384`, and `ecdsa-with-SHA256`. -/
def sha384Algorithm : Bytes :=
  [0x30, 0x0a, 0x06, 0x08, 0x2a, 0x86, 0x48, 0xce, 0x3d, 0x04, 0x03, 0x03]

def sha256Algorithm : Bytes :=
  [0x30, 0x0a, 0x06, 0x08, 0x2a, 0x86, 0x48, 0xce, 0x3d, 0x04, 0x03, 0x02]

/-! ## P-384 keys and signatures -/

/-- The verifying key of the mock scalar. -/
def mockPoint : Bytes := sec1
  0xc76f2283dda95cd49b0ed9e733d2904474e37216f124e13d2c9ab4cf01021c49ad9cabb3d0b97499aef2f0ab313fa028
  0x26bc1f83451b5c8962a75caff73588d4400a6296436154fb343c393e91048a6c7bcbadc83cd8a5f26feae883156f92a1

/-- A root, an intermediate and a chip key. -/
def arkPoint : Bytes := sec1
  0x61c4039bb53d2df373bbacd541cb1555ba89295e158e2f756ef62535cb8b972116b5bed8a8e6537343d578f459dbf13
  0xd1488cd0b718764d6903a283bbbdd60a8e206711a7c0ec1b2ab0dd3902ba7ca8d2be1b1cd987628c90a32f59311df00f

def askPoint : Bytes := sec1
  0x5087fe5709117249ed0dc0f840a95ee8212fe151055b6766cefb884e43f1d57d1dd0d3a49a29d667a080d327955e8237
  0xef562c237d3457d900f05424b332b1610268d52d1bdc52ac7612ba349c7ae2fee60feb64670df943bb9acc23c4b4cdc6

def vcekPoint : Bytes := sec1
  0x3e3aaecc10e942a01d2dbf0fda694b73bc84e1ae18246a9a216002bbd6e84d78a2c4eb8e8b291ebda5bf2b5ef69f4219
  0xcbcff7a3d6827bab6a2c5548076655a500e167f628fb1f08efe2f502dbb3b3e390b843fe47ff561f80d2f4be71997a5f

/-- The mock key's signature of the mock report for server A, of the one for server B,
and the chip key's signature of its report for server A. -/
def mockSignatureA : Signature where
  r := ⟨0xe9dcdd396278f15c6245655cf6043f4b00ea1008475f6eec7bdd550ea49bf994b6257370694995263d25c424570509fe,
    by decide, by decide⟩
  s := ⟨0x69f1cd16924e2665d40e0834d2cb314fd3413e42ecbb1b21ef010eee718d66ab6857c4558260540b59a8f1e3c0c112fe,
    by decide, by decide⟩

def mockSignatureB : Signature where
  r := ⟨0xdcf0dc5f2799d6b258a9dd7f1e66fd57588d9bad3ce9dd6af1ecf830a9ed61bb3fcd3eedea606e42cf58c481db3d44a3,
    by decide, by decide⟩
  s := ⟨0xbf5dc6938bac246ecb717b32018768be3d35d472034d3eb5f63108edbf27517d8157da373bd938cc8dc0e64b19939a34,
    by decide, by decide⟩

def vcekSignatureA : Signature where
  r := ⟨0xdb8b4a858f1ce06fea2a3499a59108c3f87ada9b1b0543e351fa9d6a5ca21b525e710568d75727b232efb6d6c55fb978,
    by decide, by decide⟩
  s := ⟨0x10a9211bacc7389bef235965147aad159e2836aad8065f63e068114e195591d762e4640855f4643fb78310d4b77afb7e,
    by decide, by decide⟩

/-- The mock key's signature of a report with the chip's measurement for key B. -/
def selfMadeSignature : Signature where
  r := ⟨0xe3590115353fc325efd423b81b1dc10728201ca56466ee2c8f4ad1a2ea0970d43cb439f26760d644cd573bc78a159de4,
    by decide, by decide⟩
  s := ⟨0xdcb70312c04cad8eac16d81e1886ad7e1a0c464af9b99f1b618d81ce61753a2a69a78efbef7a2d44f1a90e9bc753e7ae,
    by decide, by decide⟩

def fallbackSignature : Signature where
  r := ⟨1, by decide, by decide⟩
  s := ⟨1, by decide, by decide⟩

/-! ## Server keys -/

inductive ServerKey where
  | a
  | b
deriving DecidableEq

def ServerKey.point : ServerKey → Bytes
  | .a => 4 :: (Ecdsa.beBytes 32 0x7f11999676680001ae494b900677f6ec120f4d7c6249cd8b8a4cf8b164ede817
    ++ Ecdsa.beBytes 32 0xc963d29d6bcdb8cd18b7c1a8f0e98347c93a01d867a75af2039e6a5c1f6a898d)
  | .b => 4 :: (Ecdsa.beBytes 32 0x538658452df6d062263626bbafe403746c6fcaae096bd9a584fb64d3f763b348
    ++ Ecdsa.beBytes 32 0x15a5eb7dcc9784079c0508b081d3b88dad9c1a8b75295fcd67415c85c1d46f77)

def ServerKey.publicKeyInfo (k : ServerKey) : SubjectPublicKeyInfo where
  algorithm := p256Algorithm
  subjectPublicKey := { unusedBits := 0, rawBytes := k.point }

/-- The encoding of a public key. -/
def spkiToDer (spki : SubjectPublicKeyInfo) : Bytes :=
  tlv 0x30 (spki.algorithm ++ derBits spki.subjectPublicKey.rawBytes)

def ServerKey.spki (k : ServerKey) : Bytes := spkiToDer k.publicKeyInfo

/-- The PKCS#8 encoding of the key pair. -/
def ServerKey.pkcs8 (k : ServerKey) : Bytes :=
  let scalar := match k with
    | .a => 0x030f00291a87cddd48d8f0c4b637066080d18f35a54b2b03f041ed724fb2b606
    | .b => 0x81242cb10f0aa86e9a4a48aed310c8d6b8ed953ad406649bea4b7057a73de31c
  [0x30, 0x81, 0x87, 0x02, 0x01, 0x00] ++ p256Algorithm
    ++ [0x04, 0x6d, 0x30, 0x6b, 0x02, 0x01, 0x01, 0x04, 0x20] ++ Ecdsa.beBytes 32 scalar
    ++ [0xa1, 0x44, 0x03, 0x42, 0x00] ++ k.point

/-- SHA-256 of the encoded public key. -/
def ServerKey.hash : ServerKey → Vector UInt8 32
  | .a => digest 0xf72a99d709d56dc700ee71a185c49bfd6e5384387b9b4e574c4fef672b48035f
  | .b => digest 0x47c878ac98cfabd1dde5e42127009e5b42c7e2293281aa95d432b69e410a8404

/-! ## Reports -/

def signatureToBytes (σ : Signature) : Vector UInt8 96 :=
  ⟨(Ecdsa.Signature.toBytes 48 σ).toArray, by simp [Ecdsa.Signature.toBytes]⟩

/-- A report for a server key, without and with a signature. -/
def unsignedReport (k : ServerKey) (measurement : Vector UInt8 48) : Vector UInt8 reportSize :=
  Mock.unsignedReport k.hash measurement

def signedReport (k : ServerKey) (measurement : Vector UInt8 48) (σ : Signature) :
    Vector UInt8 reportSize :=
  (((Report.new (unsignedReport k measurement)).setSigR
    (window (signatureToBytes σ) 0 48 scalarR_fits)).setSigS
    (window (signatureToBytes σ) 48 48 scalarS_fits)).asBytes

def zeroMeasurement : Vector UInt8 48 := Vector.replicate 48 0

/-- The measurement of the chip's report. -/
def amdMeasurement : Vector UInt8 48 := Vector.ofFn fun i => UInt8.ofNat (0x80 + i)

/-- The message a signature is over. -/
def signedMessage (k : ServerKey) (measurement : Vector UInt8 48) : Bytes :=
  (window (unsignedReport k measurement) 0 672 signedRegion_fits).toList

theorem keyHash_signedReport (k : ServerKey) (measurement : Vector UInt8 48) (σ : Signature) :
    window (signedReport k measurement σ) 0x50 32 = k.hash :=
  (Report.window_setSig _ _ _ (by decide)).trans Mock.keyHash_unsignedReport

theorem reportData_signedReport (k : ServerKey) (measurement : Vector UInt8 48)
    (σ : Signature) : window (signedReport k measurement σ) 0x50 64
      = overwrite (Vector.replicate 64 0) 0 k.hash :=
  (Report.window_setSig _ _ _ (by decide)).trans Mock.reportData_unsignedReport

theorem version_signedReport (k : ServerKey) (measurement : Vector UInt8 48) (σ : Signature) :
    (signedReport k measurement σ)[0] = 2 := by
  have hwindow : window (signedReport k measurement σ) 0 1
      = window (unsignedReport k measurement) 0 1 := Report.window_setSig _ _ _ (by decide)
  exact (window_eq_iff.mp hwindow 0 (by decide)).trans Mock.version_unsignedReport

theorem measurement_signedReport (k : ServerKey) (measurement : Vector UInt8 48)
    (σ : Signature) : window (signedReport k measurement σ) 0x90 48 = measurement :=
  (Report.window_setSig _ _ _ (by decide)).trans Mock.measurement_unsignedReport

theorem signedRegion_signedReport (k : ServerKey) (measurement : Vector UInt8 48)
    (σ : Signature) :
    (window (signedReport k measurement σ) 0 672).toList = signedMessage k measurement := by
  rw [signedMessage]
  exact congrArg Vector.toList (Report.window_setSig _ _ _ (by decide))

theorem sigFields_signedReport (k : ServerKey) (measurement : Vector UInt8 48) (σ : Signature) :
    (window (signedReport k measurement σ) 0x2A0 48).toList
        ++ (window (signedReport k measurement σ) 0x2E8 48).toList
      = Ecdsa.Signature.toBytes 48 σ := by
  have hr : window (signedReport k measurement σ) 0x2A0 48 = _ := Report.sigR_setSig _ _ _
  have hs : window (signedReport k measurement σ) 0x2E8 48 = _ := Report.sigS_setSig _ _ _
  rw [hr, hs]
  exact toList_window_append (signatureToBytes σ) rfl

/-- The reports of different keys have different messages. -/
theorem signedMessage_ne {k k' : ServerKey} (h : k.hash ≠ k'.hash)
    (measurement measurement' : Vector UInt8 48) :
    signedMessage k measurement ≠ signedMessage k' measurement' := by
  intro heq
  have hregion := Vector.toList_inj.mp heq
  have hfield := congrArg (fun v => window v 0x50 32) hregion
  simp only [window_window, Nat.zero_add, unsignedReport, Mock.keyHash_unsignedReport] at hfield
  exact h hfield

/-- The four keys are distinct. -/
theorem points_distinct :
    arkPoint ≠ askPoint ∧ arkPoint ≠ vcekPoint ∧ arkPoint ≠ mockPoint ∧
    askPoint ≠ vcekPoint ∧ askPoint ≠ mockPoint ∧ vcekPoint ≠ mockPoint := by
  have hnodup : [arkPoint, askPoint, vcekPoint, mockPoint].Nodup := by decide
  simpa [and_assoc] using hnodup

theorem hash_ne : ServerKey.a.hash ≠ ServerKey.b.hash := by decide

/-- The signature a key makes of a message. -/
def signatureOf (point message : Bytes) : Signature :=
  if point = mockPoint ∧ message = signedMessage .a zeroMeasurement then mockSignatureA
  else if point = mockPoint ∧ message = signedMessage .b zeroMeasurement then mockSignatureB
  else if point = vcekPoint ∧ message = signedMessage .a amdMeasurement then vcekSignatureA
  else if point = mockPoint ∧ message = signedMessage .b amdMeasurement then selfMadeSignature
  else fallbackSignature

theorem signatureOf_mockA :
    signatureOf mockPoint (signedMessage .a zeroMeasurement) = mockSignatureA :=
  if_pos ⟨rfl, rfl⟩

/-- Server A's mock signature is made of its message only. -/
theorem signatureOf_eq_mockA {message : Bytes} (h : signatureOf mockPoint message = mockSignatureA) :
    message = signedMessage .a zeroMeasurement := by
  have hB : mockSignatureB ≠ mockSignatureA := by decide
  have hvcek : vcekSignatureA ≠ mockSignatureA := by decide
  have hselfMade : selfMadeSignature ≠ mockSignatureA := by decide
  have hfallback : fallbackSignature ≠ mockSignatureA := by decide
  by_contra hne
  unfold signatureOf at h
  rw [if_neg fun hc => hne hc.2] at h
  split at h
  · exact hB h
  · split at h
    · exact hvcek h
    · split at h
      · exact hselfMade h
      · exact hfallback h

theorem signatureOf_mockB :
    signatureOf mockPoint (signedMessage .b zeroMeasurement) = mockSignatureB := by
  rw [signatureOf, if_neg fun h => signedMessage_ne hash_ne.symm _ _ h.2, if_pos ⟨rfl, rfl⟩]

theorem signatureOf_vcekA :
    signatureOf vcekPoint (signedMessage .a amdMeasurement) = vcekSignatureA := by
  obtain ⟨-, -, -, -, -, hpoint⟩ := points_distinct
  rw [signatureOf, if_neg fun h => hpoint h.1, if_neg fun h => hpoint h.1, if_pos ⟨rfl, rfl⟩]

theorem signatureOf_selfMade :
    signatureOf mockPoint (signedMessage .b amdMeasurement) = selfMadeSignature := by
  obtain ⟨-, -, -, -, -, hpoint⟩ := points_distinct
  have hmeas : signedMessage .b amdMeasurement ≠ signedMessage .b zeroMeasurement := by
    intro heq
    have hregion := Vector.toList_inj.mp heq
    have hfield := congrArg (fun v => window v 0x90 48) hregion
    simp only [window_window, Nat.zero_add, unsignedReport, Mock.measurement_unsignedReport]
      at hfield
    exact absurd hfield (by decide)
  rw [signatureOf, if_neg fun h => signedMessage_ne hash_ne.symm _ _ h.2,
    if_neg fun h => hmeas h.2, if_neg fun h => hpoint h.1.symm, if_pos ⟨rfl, rfl⟩]

/-! ## AMD certificates -/

/-- A certificate with a P-384 key, signed with P-384; `header` and `tbsHeader` are the DER
headers of the certificate and of its signed part. -/
structure AmdCert where
  header : Bytes
  tbsHeader : Bytes
  serial : UInt8
  issuer : String
  subject : String
  point : Bytes
  signer : Bytes
  r : ℕ
  s : ℕ

namespace AmdCert

def publicKeyInfo (c : AmdCert) : SubjectPublicKeyInfo where
  algorithm := p384Algorithm
  subjectPublicKey := { unusedBits := 0, rawBytes := c.point }

/-- The signed part up to the serial number. -/
def start (c : AmdCert) : Bytes :=
  c.tbsHeader ++ [0xa0, 0x03, 0x02, 0x01, 0x02, 0x02, 0x01, c.serial]

def tbs (c : AmdCert) : Bytes :=
  c.start ++ (sha384Algorithm ++ commonName c.issuer
    ++ tlv 0x30 (tlv 0x17 (Json.ascii "240101000000Z") ++ tlv 0x17 (Json.ascii "490101000000Z"))
    ++ commonName c.subject ++ spkiToDer c.publicKeyInfo)

def der (c : AmdCert) : Bytes :=
  c.header ++ (c.tbs ++ (sha384Algorithm ++ derBits (derSignature c.r c.s)))

/-- The certificate as parsed; `rest` keeps the signed part as it was. -/
def parsed (c : AmdCert) : Certificate where
  tbsCertificate := {
    issuer := commonName c.issuer
    subject := commonName c.subject
    subjectPublicKeyInfo := c.publicKeyInfo
    extensions := none
    rest := c.tbs }
  signature := { unusedBits := 0, rawBytes := derSignature c.r c.s }

theorem point_asBytes (c : AmdCert) :
    c.parsed.tbsCertificate.subjectPublicKeyInfo.subjectPublicKey.asBytes = some c.point := by
  simp only [BitString.asBytes, parsed, publicKeyInfo, if_true]

theorem signature_asBytes (c : AmdCert) :
    c.parsed.signature.asBytes = some (derSignature c.r c.s) := by
  simp only [BitString.asBytes, parsed, if_true]

end AmdCert

/-- A genuine chain. -/
def ark : AmdCert where
  header := [0x30, 0x82, 0x01, 0x45]
  tbsHeader := [0x30, 0x81, 0xcc]
  serial := 1
  issuer := "ARK"
  subject := "ARK"
  point := arkPoint
  signer := arkPoint
  r := 0x69af2096ed11da4957847b94f78674c6a93442b6f7f5f99ba1d9dd3944f0f2cb72d71d1f4d9f2c7140fb552253c4f888
  s := 0x940147981d0dc473b3714f4d73b9cd21d988bc19cf9ad904776b79829882e648cf787b49e427b8c5333f4cf9550fe3c5

def ask : AmdCert where
  header := [0x30, 0x82, 0x01, 0x46]
  tbsHeader := [0x30, 0x81, 0xcc]
  serial := 2
  issuer := "ARK"
  subject := "ASK"
  point := askPoint
  signer := arkPoint
  r := 0xc1d491734ce0247d122d8e20cf5e1e90b9012509726bb309d6adbdf515ca28e5c479617357ae64560e181ed63716c8fe
  s := 0xdb5acd58fa875147edcc8fb0bdf142e6a8dd0a5e07031501f050366e591edc57dc633d167abdb88b19bb339cd7daed5c

def vcek : AmdCert where
  header := [0x30, 0x82, 0x01, 0x45]
  tbsHeader := [0x30, 0x81, 0xcd]
  serial := 3
  issuer := "ASK"
  subject := "VCEK"
  point := vcekPoint
  signer := askPoint
  r := 0x1dc88f67ee56083111b35cd3ae2cee61cdf6bfa8ced7531a76dcfc347f6b7c6b85271d8c4d26c62db57cab55db0f525b
  s := 0x20711deac76e59af4f4a2dbc24bf1d0f317657df23d9fa1af4ff36a82165880ae053f51d815d80c1e0d51116b85f4c89

/-- The root key once more, in a certificate that verifies under it and names another
issuer. -/
def crossArk : AmdCert where
  header := [0x30, 0x82, 0x01, 0x45]
  tbsHeader := [0x30, 0x81, 0xcb]
  serial := 4
  issuer := "CA"
  subject := "ARK"
  point := arkPoint
  signer := arkPoint
  r := 0xef28ff27f46d8162562fbaf2b794db88f692996c7e3fdb1ecd9e7940337ac4615b0a7b97e3b777d15ba01e0a0fb2f89a
  s := 0xaef456f48bfbd80904c730200fc6c2a2c8d0c7140dd8406d4b26cc7e4f48ecd38e8ef40933fba0d3a207699dee0a2c95

/-- A self-signed certificate of the mock key. -/
def mockRoot : AmdCert where
  header := [0x30, 0x82, 0x01, 0x41]
  tbsHeader := [0x30, 0x81, 0xc8]
  serial := 5
  issuer := "X"
  subject := "X"
  point := mockPoint
  signer := mockPoint
  r := 0xbe19bf298040eab728931df9c213b9a1151396f47349eb2b7b66e4c1a1d9f31cf532a17b62f1619c57c501899155daad
  s := 0x5e9400f43ec511ac60af043576277140ebae398bcb44a263615d19323beeb1e718c7c1b7a5bff4952630fd2f32f9e072

def amdCerts : List AmdCert := [ark, ask, vcek, crossArk, mockRoot]

/-! ## Tokens -/

def hexText (b : Bytes) : String := String.ofList (Hex.encode b)

/-- The payload of a token for a server key. -/
def tokenJson (k : ServerKey) : Json :=
  Serde.ofMembers [
    ("x-nvidia-attestation-nonce", Serde.ofString (hexText k.hash.toList)),
    ("x-nvidia-cc-mode", Serde.ofString "on"),
    ("x-nvidia-gpu-model", Serde.ofString "H100")]

def tokenPayload (k : ServerKey) : List Char :=
  Base64.encode .urlSafe false (Json.print (tokenJson k))

/-- A token with the payload for a key, and a signature segment. -/
def token (k : ServerKey) (signature : String) : String :=
  String.ofList (['.'].intercalate
    ["eyJhbGciOiJFUzM4NCJ9".toList, tokenPayload k, signature.toList])

theorem dot_notMem_encode (b : Bytes) : '.' ∉ Base64.encode .urlSafe false b := by
  have hne : ∀ c ∈ Base64.encode .urlSafe false b, c ≠ '.' :=
    Base64.forall_mem_encode (by decide) (by decide) b
  exact fun h => hne '.' h rfl

theorem split_token (k : ServerKey) {signature : String} (h : '.' ∉ signature.toList) :
    Text.split '.' (token k signature)
      = ["eyJhbGciOiJFUzM4NCJ9", String.ofList (tokenPayload k), signature] := by
  rw [token, Text.split_intercalate _ _ (by simp)]
  · simp
  · simp [h, tokenPayload, dot_notMem_encode]

def tokenA : String := token .a "c2lnQQ"

def tokenB : String := token .b "c2lnQg"

/-! ## Server certificates -/

def base64Text (b : Bytes) : String := String.ofList (Base64.encode .standard true b)

def mockExtension (k : ServerKey) (σ : Signature) (jwt : Option String) :
    AttestationExtension where
  reportB64 := base64Text (signedReport k zeroMeasurement σ).toList
  vcekChainB64 := []
  mode := .mock
  gpuJwt := jwt

/-- The chip's report for server A and the genuine chain. -/
def amdExtension (jwt : Option String) : AttestationExtension where
  reportB64 := base64Text (signedReport .a amdMeasurement vcekSignatureA).toList
  vcekChainB64 := [base64Text vcek.der, base64Text ask.der, base64Text ark.der]
  mode := .amdSevSnp
  gpuJwt := jwt

/-- A token with the payload for a key, and an empty header and signature. -/
def unsignedToken (k : ServerKey) : String := String.ofList ('.' :: (tokenPayload k ++ ['.']))

/-- Evidence for key B that anyone can make: the chip's measurement under the mock key's
signature, a chain of the mock key's own certificate, and an unsigned token. -/
def selfMadeExtension : AttestationExtension where
  reportB64 := base64Text (signedReport .b amdMeasurement selfMadeSignature).toList
  vcekChainB64 := [base64Text mockRoot.der, base64Text mockRoot.der, base64Text mockRoot.der]
  mode := .amdSevSnp
  gpuJwt := some (unsignedToken .b)

/-- The serial number of the certificates of a key. -/
def ServerKey.serial : ServerKey → Bytes
  | .a => [0x02, 0x14, 0x49, 0x4e, 0x3e, 0x92, 0x4f, 0x82, 0xb4, 0x66, 0x21, 0x6d, 0x04, 0x54, 0x8d,
      0xa6, 0x27, 0xdb, 0xe8, 0x00, 0x2b, 0x0d]
  | .b => [0x02, 0x14, 0x5e, 0x3b, 0xeb, 0x00, 0x18, 0x04, 0x2b, 0x2b, 0x3c, 0x3d, 0x62, 0xdd, 0x75,
      0x43, 0x69, 0x33, 0xed, 0xc5, 0x3c, 0xb2]

/-- A self-signed certificate of a server key: temporary, or with an extension and the
length of its text. `header` is the DER headers of the certificate and of its signed
part. -/
structure ServerCert where
  key : ServerKey
  header : Bytes
  ext : Option (AttestationExtension × ℕ)
  r : ℕ
  s : ℕ

namespace ServerCert

/-- The encoding up to the serial number. -/
def start (c : ServerCert) : Bytes :=
  c.header ++ ([0xa0, 0x03, 0x02, 0x01, 0x02] ++ c.key.serial)

/-- The headers of an extension with a text of length `n`. -/
def extensionHead (n : ℕ) : Bytes :=
  longHeader 0xa3 (n + 24) ++ longHeader 0x30 (n + 20) ++ longHeader 0x30 (n + 16)
    ++ [0x06, 0x0a, 0x2b, 0x06, 0x01, 0x04, 0x01, 0x86, 0x8d, 0x1f, 0x01, 0x01] ++ longHeader 0x04 n

/-- The signed part from the serial number to the text of the extension. -/
def middle (c : ServerCert) : Bytes :=
  sha256Algorithm ++ commonName "rcgen self signed cert"
    ++ tlv 0x30 (tlv 0x17 (Json.ascii "750101000000Z") ++ tlv 0x18 (Json.ascii "40960101000000Z"))
    ++ commonName "rcgen self signed cert" ++ c.key.spki
    ++ (c.ext.map fun e => extensionHead e.2).getD []

/-- What follows the signed part. -/
def trailer (c : ServerCert) : Bytes := sha256Algorithm ++ derBits (derSignature c.r c.s)

/-- The text of the extension. -/
def content (c : ServerCert) : Bytes :=
  match c.ext with
  | none => []
  | some (e, _) => Json.print e.toJson

def der (c : ServerCert) : Bytes := c.start ++ (c.middle ++ (c.content ++ c.trailer))

def params (c : ServerCert) : CertificateParams where
  customExtensions :=
    match c.ext with
    | none => []
    | some _ => [CustomExtension.fromOidContent attestOidArcs c.content]

def parsed (c : ServerCert) : Certificate where
  tbsCertificate := {
    issuer := commonName "rcgen self signed cert"
    subject := commonName "rcgen self signed cert"
    subjectPublicKeyInfo := c.key.publicKeyInfo
    extensions := c.ext.map fun _ =>
      [{ extnId := attestOidArcs, critical := false, extnValue := c.content }]
    rest := [] }
  signature := { unusedBits := 0, rawBytes := derSignature c.r c.s }

end ServerCert

def tempA : ServerCert where
  key := .a
  header := [0x30, 0x82, 0x01, 0x42, 0x30, 0x81, 0xea]
  ext := none
  r := 0x31fbe6e84a841ff306b0fd3d1784be72ca9e3eb31a10b1019b4ee6cd1beee723
  s := 0x5265448faa58b93b3e05da5c3de044445bf286debdba6f66d677d36c219af212

def tempB : ServerCert where
  key := .b
  header := [0x30, 0x82, 0x01, 0x43, 0x30, 0x81, 0xea]
  ext := none
  r := 0x297ac7badf601ef45a3b3cd606e0bd1de85d18b0a4488a300045de32753b0a74
  s := 0x96c54b82b780516783937461d2e68696b82ed4354ec19403fca9f2f685b3619d

/-- Server A in mock mode. -/
def mockCertA : ServerCert where
  key := .a
  header := [0x30, 0x82, 0x07, 0xce, 0x30, 0x82, 0x07, 0x74]
  ext := some (mockExtension .a mockSignatureA none, 1646)
  r := 0x1761e7baa04a955378b14ebd82b6072662671e91314e58aa3157d54bf1a0e3db
  s := 0xe0b838796f982fceca634c07bf379c2b4da19d4906919f26df31f8eb8447c940

/-- Server A with the chip's report, and with a token in addition. -/
def amdCertA : ServerCert where
  key := .a
  header := [0x30, 0x82, 0x0d, 0x04, 0x30, 0x82, 0x0c, 0xa9]
  ext := some (amdExtension none, 2979)
  r := 0xc7e1254770f2a4a6e6f894a164f335caa6c70ea8c2fc9b74325360cc7ec8230c
  s := 0xd7b88993c0a72588745daa3748e510df21f582a1c2323ca5c1b1fb101048da16

def gpuCertA : ServerCert where
  key := .a
  header := [0x30, 0x82, 0x0d, 0xe3, 0x30, 0x82, 0x0d, 0x8a]
  ext := some (amdExtension (some tokenA), 3204)
  r := 0x446f7e58691cf8bcd38f493e020b3b319a28c1f141ef7fd0a2ba8dd54a68aeb
  s := 0x62fbde2fe8f9b755faf40038a0c63f7bb820eb2a72b81216fde09cfaaa4927bb

/-- Server B in mock mode with its token. -/
def mockCertB : ServerCert where
  key := .b
  header := [0x30, 0x82, 0x08, 0xb0, 0x30, 0x82, 0x08, 0x55]
  ext := some (mockExtension .b mockSignatureB (some tokenB), 1871)
  r := 0xdb56e0502d29666046642ca8cee6ac1c0a793fd81713813d250aad1f41390291
  s := 0x8ff62a6ca4aee12b00d655464f6462f36afd45fd1267ccc1a5f2e83c93cb3eb6

/-- Server A in mock mode with the token of server B. -/
def splicedCertA : ServerCert where
  key := .a
  header := [0x30, 0x82, 0x08, 0xb0, 0x30, 0x82, 0x08, 0x55]
  ext := some (mockExtension .a mockSignatureA (some tokenB), 1871)
  r := 0xc14e208f37e00b437cd343ad590f3f7e3b518b644534013692d4a8c9cecc3d35
  s := 0xcdf8dae11c14b0b98a9662d099fff18852e240dcbb8e8414dcaeea941cf908d4

/-- A party with key B that is no server. -/
def selfMadeCertB : ServerCert where
  key := .b
  header := [0x30, 0x82, 0x0d, 0xbf, 0x30, 0x82, 0x0d, 0x64]
  ext := some (selfMadeExtension, 3166)
  r := 0xb6cc055e877ea32532659c7201bc105957b6118eea3864e46eb23e78393ec0a7
  s := 0xe9f9870c8fde960ce0e7d23277d7506b6a21e51998cd60746429f5e02bf61385

/-- The certificates of the instance. -/
def serverCerts : List ServerCert :=
  [tempA, tempB, mockCertA, amdCertA, gpuCertA, mockCertB, splicedCertA, selfMadeCertB]

/-! ## Looking certificates up -/

/-- What tells the server certificates of one key apart: the mode, and whether there is a
token. -/
def tag (e : AttestationExtension) : AttestationMode × Bool := (e.mode, e.gpuJwt.isSome)

def tagOf (params : CertificateParams) : Option (AttestationMode × Bool) := do
  let x ← params.customExtensions.head?
  let e ← (Json.parse x.content).bind AttestationExtension.ofJson
  return tag e

/-- Certificates are found by their first bytes, lengths and serial number, and confirmed
by their encoding. -/
def certificateFromDer (der : Bytes) : Except String Certificate :=
  match serverCerts.find? fun c => c.start.take 24 = der.take 24 with
  | some c => if der = c.der then .ok c.parsed else .error "malformed ASN.1 DER value"
  | none =>
    match amdCerts.find? fun c => c.header ++ c.start = der.take 15 with
    | some c => if der = c.der then .ok c.parsed else .error "malformed ASN.1 DER value"
    | none => .error "malformed ASN.1 DER value"

/-- The signatures of the AMD certificates, and the keys they verify under. -/
def derSignatureTryFrom (b : Bytes) : Except String Bytes :=
  if ∃ c ∈ amdCerts, b = derSignature c.r c.s then .ok b else .error "signature error"

def verifyDer (k tbs sig : Bytes) : Except String Unit :=
  if ∃ c ∈ amdCerts, k = c.signer ∧ tbs = c.tbs ∧ sig = derSignature c.r c.s then .ok ()
  else .error "signature error"

def selfSigned (params : CertificateParams) (k : ServerKey) : Except String Bytes :=
  match serverCerts.find? fun c => (c.key, c.ext.map (tag ·.1)) = (k, tagOf params) with
  | some c => if params = c.params then .ok c.der else .error "ring error"
  | none => .error "ring error"

/-! ## The instance -/

@[reducible] def crates : Crates where
  sha256 b :=
    if b = ServerKey.a.spki then ServerKey.a.hash
    else if b = ServerKey.b.spki then ServerKey.b.hash
    else Vector.replicate 32 0
  hexEncode := hexText
  hexDecode s := Results.okOr "Invalid character" (Hex.decode s.toList)
  base64Encode := base64Text
  base64Decode s := Results.okOr "Invalid symbol" (Base64.decode .standard true s.toList)
  base64UrlDecode s := Results.okOr "Invalid symbol" (Base64.decode .urlSafe false s.toList)
  jsonToVec := Json.print
  jsonFromSlice := Json.parse
  jsonError _ := "expected value"
  lowercaseTable _ c _ := [c]
  VerifyingKey := Bytes
  DerSignature := Bytes
  verifyingKey k := if k = Mock.mockSigningKey then mockPoint else sec1 k.val 0
  toEncodedPoint k _ := k
  fromSec1Bytes b := if b.length = 97 ∧ b.head? = some 4 then .ok b else .error "crypto error"
  sign k m := signatureOf (if k = Mock.mockSigningKey then mockPoint else sec1 k.val 0) m
  verify k m σ := if σ = signatureOf k m then .ok () else .error "signature error"
  signatureTryFrom b := Results.okOr "signature error" (Ecdsa.Signature.ofBytes p384Order 48 b)
  signatureToBytes := signatureToBytes
  derSignatureTryFrom := derSignatureTryFrom
  verifyDer := verifyDer
  certificateFromDer := certificateFromDer
  tbsToDer tbs := .ok tbs.rest
  spkiToDer spki := .ok (spkiToDer spki)
  oidParse s := if s = attestOidStr then .ok attestOidArcs else .error "OID malformed"
  Entropy := ServerKey
  KeyPair := ServerKey
  generateP256 := .ok
  selfSigned params k _ := selfSigned params k
  serializedDer := ServerKey.pkcs8
  ServerConfig := List Bytes × Bytes
  withSingleCert certs key := .ok (certs, key)
  certChain := Prod.fst

attribute [local instance] crates

/-! ## What it keeps of the documentation -/

theorem hexDocumented : Crates.HexDocumented := by
  exact ⟨fun _ => rfl, fun _ _ => Results.okOr_eq_ok⟩

theorem base64Documented : Crates.Base64Documented := by
  refine ⟨fun _ => rfl, fun s b => ?_, fun s b => ?_⟩
  · exact Results.okOr_eq_ok.trans Base64.decode_eq_some
  · exact Results.okOr_eq_ok.trans Base64.decode_eq_some

theorem lowercaseDocumented : Crates.LowercaseDocumented := by
  refine ⟨fun _ c _ _ => List.cons_ne_nil c [], fun _ c _ hc d hd hascii => ?_⟩
  rw [List.mem_singleton.mp hd] at hascii
  exact absurd hascii hc

theorem serdeJsonDocumented : Crates.SerdeJsonDocumented :=
  ⟨Json.parse_print⟩

theorem jsonTextDocumented : Crates.JsonTextDocumented :=
  ⟨fun _ => rfl, fun _ _ h => h, fun _ _ h _ => h⟩

theorem length_sec1 (x y : ℕ) : (sec1 x y).length = 97 := by simp [sec1]

theorem sec1Documented : Crates.Sec1Documented := by
  refine ⟨fun k c => ?_⟩
  have hpoint : ∀ x y, Crates.fromSec1Bytes (sec1 x y) = .ok (sec1 x y) :=
    fun x y => if_pos ⟨length_sec1 x y, rfl⟩
  show Crates.fromSec1Bytes (if k = Mock.mockSigningKey then mockPoint else sec1 k.val 0) = _
  by_cases hk : k = Mock.mockSigningKey
  · rw [if_pos hk]
    exact (hpoint _ _).trans (congrArg Except.ok (if_pos hk).symm)
  · rw [if_neg hk]
    exact (hpoint _ _).trans (congrArg Except.ok (if_neg hk).symm)

theorem signatureFormatDocumented : Crates.SignatureFormatDocumented := by
  exact ⟨fun _ _ => Results.okOr_eq_ok, fun _ => rfl⟩

theorem signDocumented : Crates.SignDocumented := by
  exact ⟨fun _ _ => if_pos rfl⟩

theorem sha256_spki : ∀ k : ServerKey, Crates.sha256 k.spki = k.hash
  | .a => if_pos rfl
  | .b => by
    have hne : ServerKey.b.spki ≠ ServerKey.a.spki := by decide
    exact (if_neg hne).trans (if_pos rfl)

theorem verifyingKey_mock : Crates.verifyingKey Mock.mockSigningKey = mockPoint := if_pos rfl

theorem sign_mock (message : Bytes) :
    Crates.sign Mock.mockSigningKey message = signatureOf mockPoint message :=
  congrArg (signatureOf · message) verifyingKey_mock

/-- What a key makes of a message verifies under it. -/
theorem verify_signatureOf {point message : Bytes} {σ : Signature}
    (h : signatureOf point message = σ) : crates.verify point message σ = .ok () :=
  if_pos h.symm

/-- A signature that verifies is the one the key makes. -/
theorem eq_signatureOf_of_verify {point message : Bytes} {σ : Signature}
    (h : crates.verify point message σ = .ok ()) : σ = signatureOf point message := by
  by_contra hne
  exact absurd ((if_neg hne).symm.trans h) (by simp)

theorem rustlsDocumented : Crates.RustlsDocumented := by
  refine ⟨fun certs key cfg h => ?_⟩
  exact congrArg Prod.fst (Except.ok.inj h).symm

theorem oidParse_attestOidStr : Crates.oidParse attestOidStr = .ok attestOidArcs :=
  if_pos rfl

/-- An entry of a list whose keys are distinct is found by its key. -/
theorem find?_of_nodup {α κ : Type} [DecidableEq κ] {f : α → κ} {l : List α}
    (h : (l.map f).Nodup) {a : α} (ha : a ∈ l) : l.find? (fun x => f x = f a) = some a := by
  cases hfind : l.find? (fun x => f x = f a) with
  | none =>
    have hnot := List.find?_eq_none.mp hfind a ha
    simp at hnot
  | some b =>
    have hb := List.mem_of_find?_eq_some hfind
    have hkey : f b = f a := by simpa using List.find?_some hfind
    rw [List.inj_on_of_nodup_map h hb ha hkey]

theorem ark_mem : ark ∈ amdCerts := by simp [amdCerts]

theorem ask_mem : ask ∈ amdCerts := by simp [amdCerts]

theorem vcek_mem : vcek ∈ amdCerts := by simp [amdCerts]

theorem crossArk_mem : crossArk ∈ amdCerts := by simp [amdCerts]

theorem mockRoot_mem : mockRoot ∈ amdCerts := by simp [amdCerts]

theorem tempA_mem : tempA ∈ serverCerts := by simp [serverCerts]

theorem tempB_mem : tempB ∈ serverCerts := by simp [serverCerts]

theorem mockCertA_mem : mockCertA ∈ serverCerts := by simp [serverCerts]

theorem amdCertA_mem : amdCertA ∈ serverCerts := by simp [serverCerts]

theorem gpuCertA_mem : gpuCertA ∈ serverCerts := by simp [serverCerts]

theorem mockCertB_mem : mockCertB ∈ serverCerts := by simp [serverCerts]

theorem splicedCertA_mem : splicedCertA ∈ serverCerts := by simp [serverCerts]

theorem selfMadeCertB_mem : selfMadeCertB ∈ serverCerts := by simp [serverCerts]

theorem nodup_serverStarts : (serverCerts.map fun c => c.start.take 24).Nodup := by
  decide

theorem length_serverStarts : ∀ c ∈ serverCerts, 24 ≤ c.start.length := by decide

theorem nodup_tags : (serverCerts.map fun c => (c.key, c.ext.map (tag ·.1))).Nodup := by
  decide

theorem nodup_amdStarts : (amdCerts.map fun c => c.header ++ c.start).Nodup := by decide

theorem length_amdStarts : ∀ c ∈ amdCerts, c.start.length = 11 ∧ c.header.length = 4 := by
  decide

/-- No AMD certificate starts like a server certificate. -/
theorem serverStart_ne_amdStart : ∀ c ∈ amdCerts, ∀ d ∈ serverCerts,
    d.start.take 15 ≠ c.header ++ c.start := by
  decide

theorem nodup_tbs : (amdCerts.map AmdCert.tbs).Nodup := by
  have hstarts : (amdCerts.map AmdCert.start).Nodup := by decide
  refine List.Nodup.of_map (List.take 11) ?_
  rw [List.map_map]
  convert hstarts using 1
  refine List.map_congr_left fun c hc => ?_
  exact List.take_left' (length_amdStarts c hc).1

theorem certificateFromDer_server {c : ServerCert} (h : c ∈ serverCerts) :
    Crates.certificateFromDer c.der = .ok c.parsed := by
  show certificateFromDer c.der = .ok c.parsed
  have htake : c.der.take 24 = c.start.take 24 := by
    rw [ServerCert.der, List.take_append_of_le_length (length_serverStarts c h)]
  -- the first bytes find the entry, the whole encoding confirms it
  rw [certificateFromDer, htake, find?_of_nodup nodup_serverStarts h]
  exact if_pos rfl

theorem certificateFromDer_amd {c : AmdCert} (h : c ∈ amdCerts) :
    Crates.certificateFromDer c.der = .ok c.parsed := by
  show certificateFromDer c.der = .ok c.parsed
  have htake : c.der.take 15 = c.header ++ c.start := by
    obtain ⟨hstart, hheader⟩ := length_amdStarts c h
    rw [AmdCert.der, AmdCert.tbs, List.append_assoc, ← List.append_assoc]
    exact List.take_left' (by rw [List.length_append, hstart, hheader])
  have hnone : serverCerts.find? (fun d => d.start.take 24 = c.der.take 24) = none := by
    rw [List.find?_eq_none]
    intro d hd hsame
    have hsame := congrArg (List.take 15) (of_decide_eq_true hsame)
    rw [List.take_take, List.take_take] at hsame
    exact serverStart_ne_amdStart c h d hd (hsame.trans htake)
  simp only [certificateFromDer, hnone, htake, find?_of_nodup nodup_amdStarts h, if_true]

theorem tbsToDer_amd (c : AmdCert) : Crates.tbsToDer c.parsed.tbsCertificate = .ok c.tbs := by
  show Except.ok c.parsed.tbsCertificate.rest = .ok c.tbs
  rw [AmdCert.parsed]

theorem derSignatureTryFrom_amd {c : AmdCert} (h : c ∈ amdCerts) :
    derSignatureTryFrom (derSignature c.r c.s) = .ok (derSignature c.r c.s) := by
  rw [derSignatureTryFrom, if_pos ⟨c, h, rfl⟩]

/-- The signature of an AMD certificate verifies under its signer's key only. -/
theorem verifyDer_amd_iff {c : AmdCert} (h : c ∈ amdCerts) {k : Bytes} :
    verifyDer k c.tbs (derSignature c.r c.s) = .ok () ↔ k = c.signer := by
  unfold verifyDer
  split
  case isTrue hsigned =>
    obtain ⟨d, hd, rfl, htbs, -⟩ := hsigned
    simp [List.inj_on_of_nodup_map nodup_tbs h hd htbs]
  case isFalse hnot =>
    simp only [reduceCtorEq, false_iff]
    rintro rfl
    exact hnot ⟨c, h, rfl, rfl, rfl⟩

theorem tagOf_params (c : ServerCert) : tagOf c.params = c.ext.map (tag ·.1) := by
  obtain ⟨key, header, ext, r, s⟩ := c
  cases ext with
  | none => rfl
  | some e =>
    simp [tagOf, ServerCert.params, ServerCert.content, CustomExtension.fromOidContent,
      Json.parse_print, AttestationExtension.ofJson_toJson]

theorem selfSigned_params {c : ServerCert} (h : c ∈ serverCerts) (e : Crates.Entropy) :
    Crates.selfSigned c.params c.key e = .ok c.der := by
  show selfSigned c.params c.key = .ok c.der
  rw [selfSigned, tagOf_params, find?_of_nodup nodup_tags h]
  exact if_pos rfl

theorem rcgenDocumented : Crates.RcgenDocumented := by
  refine ⟨fun k => ⟨ServerKey.publicKeyInfo k, fun params e der hder => ?_⟩⟩
  -- only the parameters in the table are signed
  change selfSigned params k = .ok der at hder
  unfold selfSigned at hder
  split at hder
  case h_2 => cases hder
  case h_1 c hfind =>
  split at hder
  case isFalse => cases hder
  case isTrue hparams =>
  have hmem := List.mem_of_find?_eq_some hfind
  have hkey : c.key = k := by
    have hpred := List.find?_some hfind
    rw [decide_eq_true_eq, Prod.mk.injEq] at hpred
    exact hpred.1
  obtain rfl := Except.ok.inj hder
  refine ⟨c.parsed, certificateFromDer_server hmem, congrArg ServerKey.publicKeyInfo hkey, ?_⟩
  intro x hx
  subst hparams
  obtain ⟨key, header, ext, r, s⟩ := c
  cases ext with
  | none => cases hx
  | some ext =>
    obtain rfl := List.singleton_inj.mp hx
    exact ⟨_, List.find?_cons_of_pos (by simp [CustomExtension.fromOidContent]), rfl⟩

end Reference
end Sifir
