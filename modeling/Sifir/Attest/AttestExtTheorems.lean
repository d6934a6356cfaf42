import Sifir.Reference

/-!
# The attestation extension

The JSON form of an extension is read back (`fromBytes_toBytes`), and what the two
decoders return for a report and a chain (`reportBytes_eq_ok`, `vcekChainDer_eq_ok`). In
both directions together: what is built is read back, and what is decoded is in the one
form encoding writes (`codec_exact`).
-/

namespace Sifir
namespace AttestationExtension

open Lib Results

/-! ## Tokens -/

/-- `withGpuJwt` for a token, if there is one. -/
def attach (e : AttestationExtension) (jwt : Option String) : AttestationExtension :=
  (jwt.map e.withGpuJwt).getD e

/-- A token is attached beside the other fields. -/
theorem attach_eq (e : AttestationExtension) (jwt : Option String) :
    e.attach jwt = { e with gpuJwt := jwt <|> e.gpuJwt } := by
  cases jwt with
  | none => rfl
  | some jwt => rfl

section Codec

variable [Crates]

/-! ## Bytes -/

theorem fromBytes_eq_ok {b : Bytes} {e : AttestationExtension} :
    fromBytes b = .ok e ↔ (Crates.jsonFromSlice b).bind ofJson = some e :=
  okOr_eq_ok

/-- The bytes of an extension are read back as the extension. -/
theorem fromBytes_toBytes (hjson : Crates.SerdeJsonDocumented) (e : AttestationExtension) :
    fromBytes e.toBytes = .ok e := by
  rw [fromBytes_eq_ok, toBytes, hjson.fromSlice_toVec, Option.bind_some, ofJson_toJson]

/-! ## Decoding -/

theorem reportBytes_eq_ok {e : AttestationExtension} {raw : Vector UInt8 reportSize} :
    e.reportBytes = .ok raw ↔ Crates.base64Decode e.reportB64 = .ok raw.toList := by
  simp only [reportBytes, bind_eq_ok, mapError_eq_ok]
  constructor
  · rintro ⟨bytes, hbytes, h⟩
    split at h
    · rw [pure_eq_ok_iff] at h
      subst h
      simpa using hbytes
    · cases h
  · intro h
    refine ⟨raw.toList, h, ?_⟩
    rw [dif_pos (by simp), pure_eq_ok_iff, Vector.mk_eq]
    exact Array.toArray_toList

/-- A chain decodes exactly when each entry does. -/
theorem vcekChainDer_eq_ok {e : AttestationExtension} {chain : List Bytes} :
    e.vcekChainDer = .ok chain
      ↔ List.Forall₂ (fun b der => Crates.base64Decode b = .ok der) e.vcekChainB64 chain := by
  simp only [vcekChainDer, mapM_eq_ok, mapError_eq_ok]

section

variable (hb64 : Crates.Base64Documented)
include hb64

theorem base64Decode_base64Encode (b : Bytes) :
    Crates.base64Decode (Crates.base64Encode b) = .ok b := by
  rw [hb64.decode_iff, hb64.encode_eq, String.toList_ofList]

/-- A report decodes exactly from its base64 text. -/
theorem reportBytes_eq_ok_iff {e : AttestationExtension} {raw : Vector UInt8 reportSize} :
    e.reportBytes = .ok raw
      ↔ e.reportB64 = String.ofList (Base64.encode .standard true raw.toList) := by
  rw [reportBytes_eq_ok, hb64.decode_iff, ← String.ofList_inj, String.ofList_toList]

/-- A chain decodes exactly from the base64 texts of its certificates. -/
theorem vcekChainDer_eq_ok_iff {e : AttestationExtension} {chain : List Bytes} :
    e.vcekChainDer = .ok chain
      ↔ e.vcekChainB64 = chain.map fun der => String.ofList (Base64.encode .standard true der) := by
  rw [vcekChainDer_eq_ok, ← List.forall₂_eq_eq_eq, List.forall₂_map_right_iff]
  refine iff_of_eq (congrArg (List.Forall₂ · _ _) ?_)
  funext b der
  rw [hb64.decode_iff, ← String.ofList_inj, String.ofList_toList]

@[simp] theorem reportBytes_newMock (raw : Vector UInt8 reportSize) :
    (newMock raw).reportBytes = .ok raw :=
  reportBytes_eq_ok.mpr (base64Decode_base64Encode hb64 _)

@[simp] theorem reportBytes_newAmd (raw : Vector UInt8 reportSize) (chain : List Bytes) :
    (newAmd raw chain).reportBytes = .ok raw :=
  reportBytes_eq_ok.mpr (base64Decode_base64Encode hb64 _)

@[simp] theorem vcekChainDer_newAmd (raw : Vector UInt8 reportSize) (chain : List Bytes) :
    (newAmd raw chain).vcekChainDer = .ok chain := by
  rw [vcekChainDer, newAmd]
  exact mapM_map_eq_ok (fun b => by rw [base64Decode_base64Encode hb64, mapError_ok]) chain

end

/-! ## The codec -/

/-- The extensions that are built for a report and a chain. -/
inductive Built : AttestationExtension → Vector UInt8 reportSize → List Bytes → Prop
  | mock (raw : Vector UInt8 reportSize) (jwt : Option String) :
      Built ((newMock raw).attach jwt) raw []
  | amd (raw : Vector UInt8 reportSize) (chain : List Bytes) (jwt : Option String) :
      Built ((newAmd raw chain).attach jwt) raw chain

theorem reportBytes_attach (e : AttestationExtension) (jwt : Option String) :
    (e.attach jwt).reportBytes = e.reportBytes := by
  rw [attach_eq, reportBytes, reportBytes]

theorem vcekChainDer_attach (e : AttestationExtension) (jwt : Option String) :
    (e.attach jwt).vcekChainDer = e.vcekChainDer := by
  rw [attach_eq, vcekChainDer, vcekChainDer]

theorem Built.decodes (hb64 : Crates.Base64Documented) {e : AttestationExtension}
    {raw : Vector UInt8 reportSize} {chain : List Bytes} (h : Built e raw chain) :
    e.reportBytes = .ok raw ∧ e.vcekChainDer = .ok chain := by
  cases h with
  | mock jwt =>
    rw [reportBytes_attach, vcekChainDer_attach]
    exact ⟨reportBytes_newMock hb64 raw, rfl⟩
  | amd jwt =>
    rw [reportBytes_attach, vcekChainDer_attach]
    exact ⟨reportBytes_newAmd hb64 raw chain, vcekChainDer_newAmd hb64 raw chain⟩

/-- An entry that is no base64 text fails the whole chain. -/
theorem vcekChainDer_error_of_mem (hb64 : Crates.Base64Documented) {e : AttestationExtension}
    {entry : String} (hmem : entry ∈ e.vcekChainB64)
    (hentry : ∀ der, entry ≠ String.ofList (Base64.encode .standard true der)) :
    ∃ err, e.vcekChainDer = .error err := by
  rw [← not_ok_iff]
  rintro ⟨chain, hchain⟩
  rw [vcekChainDer_eq_ok_iff hb64] at hchain
  rw [hchain, List.mem_map] at hmem
  obtain ⟨der, -, hder⟩ := hmem
  exact hentry der hder.symm

/-- What is built for a report and a chain is read back as it was, and decodes to them; a
token changes no other field. Conversely, what is read decodes only from the padded
base64 texts of a report and of certificates: one other entry fails the chain, and
encoding what was decoded gives the texts. -/
theorem codec_exact (hjson : Crates.SerdeJsonDocumented) (hb64 : Crates.Base64Documented) :
    (∀ e raw chain, Built e raw chain →
      fromBytes e.toBytes = .ok e ∧ e.reportBytes = .ok raw ∧ e.vcekChainDer = .ok chain) ∧
    (∀ e jwt, (withGpuJwt e jwt).reportB64 = e.reportB64 ∧
      (withGpuJwt e jwt).vcekChainB64 = e.vcekChainB64 ∧ (withGpuJwt e jwt).mode = e.mode ∧
      (withGpuJwt e jwt).gpuJwt = some jwt) ∧
    (∀ b e, fromBytes b = .ok e →
      (∀ raw, e.reportBytes = .ok raw →
        e.reportB64 = String.ofList (Base64.encode .standard true raw.toList) ∧
        Crates.base64Encode raw.toList = e.reportB64) ∧
      (∀ chain, e.vcekChainDer = .ok chain →
        e.vcekChainB64 = chain.map (fun der => String.ofList (Base64.encode .standard true der)) ∧
        chain.map Crates.base64Encode = e.vcekChainB64) ∧
      ((∃ entry ∈ e.vcekChainB64, ∀ der,
          entry ≠ String.ofList (Base64.encode .standard true der)) →
        ∃ err, e.vcekChainDer = .error err)) := by
  refine ⟨fun e raw chain h => ⟨fromBytes_toBytes hjson e, h.decodes hb64⟩,
    fun e jwt => ⟨rfl, rfl, rfl, rfl⟩, fun b e _ => ⟨fun raw hraw => ?_, fun chain hchain => ?_, ?_⟩⟩
  · have htext := (reportBytes_eq_ok_iff hb64).mp hraw
    exact ⟨htext, by rw [hb64.encode_eq, htext]⟩
  · have htexts := (vcekChainDer_eq_ok_iff hb64).mp hchain
    refine ⟨htexts, ?_⟩
    rw [htexts]
    exact List.map_congr_left fun der _ => hb64.encode_eq der
  · rintro ⟨entry, hmem, hentry⟩
    exact vcekChainDer_error_of_mem hb64 hmem hentry

end Codec

section Reference

open Reference

attribute [local instance] crates

/-- An extension with a chain that has an empty entry, and a token. -/
def chainExtension : AttestationExtension :=
  (newAmd (Vector.replicate reportSize 7) [[1, 2], []]).attach (some "a.b.c")

theorem codec_exact_chainExtension :
    fromBytes chainExtension.toBytes = .ok chainExtension ∧
    chainExtension.reportBytes = .ok (Vector.replicate reportSize 7) ∧
    chainExtension.vcekChainDer = .ok [[1, 2], []] :=
  (codec_exact serdeJsonDocumented base64Documented).1 _ _ _ (.amd _ _ _)

end Reference

end AttestationExtension
end Sifir
