import Sifir.Reference
import Sifir.Server.AmdAttestation

/-!
# AMD attestation of the server

What the device, the KDS request and the KDS answer become: the bytes
`getSnpReport` returns (`getSnpReport_eq_ok`), the fields the VCEK URL names
(`vcekUrl_eq`), the certificates of a PEM bundle (`parsePemBundle_of_bundle`) and
the chain (`fetchVcekChain_of_answers`).
-/

namespace Sifir
namespace AmdAttestation

open Lib Windows Results

/-! ## The report -/

/-- A request the device answers: it opens, the ioctl returns zero, and the firmware
reports no error and fills the response buffer. -/
def Responds (dev : SnpGuest) (userData : Vector UInt8 64) (buffer : Vector UInt8 4000) : Prop :=
  dev.openDevice = .ok () ∧ ∃ osError request,
    dev.ioctl snpGetReport (reportRequest userData) = ⟨0, osError, request⟩ ∧
    request.exitinfo2 = 0 ∧ request.respData = buffer

/-- A report comes from the start of the buffer of an answered request. -/
theorem getSnpReport_eq_ok {dev : SnpGuest} {userData : Vector UInt8 64}
    {report : Vector UInt8 reportSize} :
    getSnpReport dev userData = .ok report
      ↔ ∃ buffer, Responds dev userData buffer ∧ report = window buffer 0 1184 := by
  simp only [getSnpReport, bind_eq_ok, mapError_eq_ok, exists_unit, Responds]
  rcases hio : dev.ioctl snpGetReport (reportRequest userData) with ⟨rc, osError, request⟩
  -- the two checks on the outcome
  by_cases hrc : rc = 0
  · by_cases hexit : request.exitinfo2 = 0
    · simp only [hrc, hexit, ne_eq, not_true, if_false, pure_eq_ok_iff]
      constructor
      · rintro ⟨hopen, rfl⟩
        exact ⟨_, ⟨hopen, osError, request, rfl, hexit, rfl⟩, rfl⟩
      · rintro ⟨buffer, ⟨hopen, _, _, heq, -, rfl⟩, rfl⟩
        obtain ⟨-, -, rfl⟩ := IoctlOutcome.mk.injEq _ _ _ _ _ _ ▸ heq
        exact ⟨hopen, rfl⟩
    · simp only [hrc, hexit, ne_eq, not_true, not_false_eq_true, if_false, if_true]
      constructor
      · rintro ⟨-, h⟩
        cases h
      · rintro ⟨buffer, ⟨-, _, _, heq, hzero, -⟩, -⟩
        obtain ⟨-, -, rfl⟩ := IoctlOutcome.mk.injEq _ _ _ _ _ _ ▸ heq
        exact absurd hzero hexit
  · simp only [hrc, ne_eq, not_false_eq_true, if_true]
    constructor
    · rintro ⟨-, h⟩
      cases h
    · rintro ⟨buffer, ⟨-, _, _, heq, -⟩, -⟩
      obtain ⟨h, -, -⟩ := IoctlOutcome.mk.injEq _ _ _ _ _ _ ▸ heq
      exact absurd h hrc

/-! ## The VCEK request -/

/-- The KDS address of the VCEK of a chip at a TCB level. -/
def kdsVcekUrl (product chipIdHex : String) (tcb : TcbVersion) : String :=
  kdsBase ++ "/" ++ product ++ "/" ++ chipIdHex ++ "?blSPL=" ++ toString tcb.blSpl.toNat
    ++ "&teeSPL=" ++ toString tcb.teeSpl.toNat ++ "&snpSPL=" ++ toString tcb.snpSpl.toNat
    ++ "&ucodeSPL=" ++ toString tcb.ucodeSpl.toNat

theorem amp_notMem_toString (n : ℕ) : '&' ∉ (toString n).toList := by
  intro h
  exact absurd (Text.isDigit_of_mem_toString h) (by decide)

theorem uint8_toString_inj {a b : UInt8} :
    (toString a.toNat).toList = (toString b.toNat).toList ↔ a = b := by
  rw [Text.toString_toList_inj, UInt8.toNat_inj]

/-- For a product, chip identifiers of one length and TCB levels are told apart by
their addresses. -/
theorem kdsVcekUrl_inj {product chip chip' : String} {tcb tcb' : TcbVersion}
    (hlen : chip.toList.length = chip'.toList.length) :
    kdsVcekUrl product chip tcb = kdsVcekUrl product chip' tcb' ↔ chip = chip' ∧ tcb = tcb' := by
  constructor
  · intro h
    rw [← String.toList_inj] at h
    have htee : "&teeSPL=".toList = '&' :: "teeSPL=".toList := rfl
    have hsnp : "&snpSPL=".toList = '&' :: "snpSPL=".toList := rfl
    have hucode : "&ucodeSPL=".toList = '&' :: "ucodeSPL=".toList := rfl
    simp only [kdsVcekUrl, String.toList_append, List.append_assoc, List.append_cancel_left_eq,
      htee, hsnp, hucode, List.cons_append] at h
    -- the chip identifiers have one length, the levels end at the next ampersand
    obtain ⟨hchip, h⟩ := List.append_inj h hlen
    rw [List.append_cancel_left_eq,
      Text.append_delim_inj (amp_notMem_toString _) (amp_notMem_toString _)] at h
    obtain ⟨hb, h⟩ := h
    rw [List.append_cancel_left_eq,
      Text.append_delim_inj (amp_notMem_toString _) (amp_notMem_toString _)] at h
    obtain ⟨ht, h⟩ := h
    rw [List.append_cancel_left_eq,
      Text.append_delim_inj (amp_notMem_toString _) (amp_notMem_toString _)] at h
    obtain ⟨hs, h⟩ := h
    rw [List.append_cancel_left_eq] at h
    obtain ⟨bl, tee, snp, ucode⟩ := tcb
    obtain ⟨bl', tee', snp', ucode'⟩ := tcb'
    rw [uint8_toString_inj] at hb ht hs h
    subst hb ht hs h
    exact ⟨String.toList_inj.mp hchip, rfl⟩
  · rintro ⟨rfl, rfl⟩
    rfl

section

variable [Crates]

/-- The address the server asks names bytes `392..456` of the report as the chip and
bytes 56, 57, 62 and 63 as the TCB level. -/
theorem vcekUrl_eq (report : Vector UInt8 reportSize) (product : String) :
    vcekUrl report product
      = kdsVcekUrl product (Crates.hexEncode (window report 392 64).toList)
        { blSpl := report[56], teeSpl := report[57], snpSpl := report[62],
          ucodeSpl := report[63] } := by
  simp only [vcekUrl, kdsVcekUrl, TcbVersion.fromReport, getElem_window]

/-- The fields of the report the address should name, at the offsets of the report
layout: the chip identifier and bytes 0, 1, 6 and 7 of the reported TCB at 384. -/
def reportedTcb (report : Vector UInt8 reportSize) : TcbVersion :=
  { blSpl := report[384], teeSpl := report[385], snpSpl := report[390],
    ucodeSpl := report[391] }

/-- The bytes the server reads instead of them. -/
def RequestFieldsAgree (r r' : Vector UInt8 reportSize) : Prop :=
  window r 392 64 = window r' 392 64 ∧
    r[56] = r'[56] ∧ r[57] = r'[57] ∧ r[62] = r'[62] ∧ r[63] = r'[63]

theorem length_hexEncode (hhex : Crates.HexDocumented) (b : Bytes) :
    (Crates.hexEncode b).toList.length = 2 * b.length := by
  rw [hhex.encode_eq, String.toList_ofList, Hex.length_encode]

/-- Two reports give one address exactly when the bytes the server reads agree. -/
theorem vcekUrl_inj (hhex : Crates.HexDocumented) {r r' : Vector UInt8 reportSize}
    {product : String} :
    vcekUrl r product = vcekUrl r' product ↔ RequestFieldsAgree r r' := by
  rw [vcekUrl_eq, vcekUrl_eq, kdsVcekUrl_inj (by simp [length_hexEncode hhex]),
    hhex.encode_inj, TcbVersion.mk.injEq, RequestFieldsAgree]

/-- The address names the chip and TCB level of a report exactly when the report has
the same bytes where the server reads as where they are. -/
theorem vcekUrl_eq_reported_iff (hhex : Crates.HexDocumented) {r : Vector UInt8 reportSize}
    {product : String} :
    vcekUrl r product
        = kdsVcekUrl product (Crates.hexEncode (Report.new r).chipId.toList) (reportedTcb r)
      ↔ window r 392 64 = window r 416 64 ∧ r[56] = r[384] ∧ r[57] = r[385] ∧ r[62] = r[390] ∧
        r[63] = r[391] := by
  rw [vcekUrl_eq, kdsVcekUrl_inj (by simp [length_hexEncode hhex, chipIdSize]),
    hhex.encode_inj, reportedTcb, TcbVersion.mk.injEq]
  rfl

/-- The address names the chip and TCB level of a report exactly when the report has
the same bytes at the server's offsets as at the true ones; and two reports are told
apart by their chips and TCB levels exactly when they are by the server's bytes. -/
theorem vcekUrl_names_chip_iff (hhex : Crates.HexDocumented) (product : String)
    (r r' : Vector UInt8 reportSize) :
    (vcekUrl r product
        = kdsVcekUrl product (Crates.hexEncode (Report.new r).chipId.toList) (reportedTcb r) ↔
      window r 392 64 = window r 416 64 ∧ r[56] = r[384] ∧ r[57] = r[385] ∧ r[62] = r[390] ∧
        r[63] = r[391]) ∧
    ((vcekUrl r product = vcekUrl r' product ↔
        (Report.new r).chipId = (Report.new r').chipId ∧ reportedTcb r = reportedTcb r') ↔
      (RequestFieldsAgree r r' ↔
        (Report.new r).chipId = (Report.new r').chipId ∧ reportedTcb r = reportedTcb r')) := by
  exact ⟨vcekUrl_eq_reported_iff hhex, by rw [vcekUrl_inj hhex]⟩

end

section Reference

open Reference

attribute [local instance] crates

/-- A report of a chip that masks its identifier, at one TCB level throughout. -/
def maskedReport : Vector UInt8 reportSize :=
  let tcb : Vector UInt8 8 := #v[4, 0, 0, 0, 0, 0, 22, 213]
  overwrite (overwrite Report.default.asBytes 56 tcb) 384 tcb

theorem vcekUrl_maskedReport :
    vcekUrl maskedReport "Genoa"
      = kdsVcekUrl "Genoa" (Crates.hexEncode (Report.new maskedReport).chipId.toList)
          (reportedTcb maskedReport) := by
  refine (vcekUrl_names_chip_iff hexDocumented "Genoa" maskedReport maskedReport).1.mpr ⟨?_, ?_⟩
  · -- both windows lie behind the two TCB fields
    unfold maskedReport
    rw [window_overwrite_of_disjoint _ _ (by decide) _ (by decide),
      window_overwrite_of_disjoint _ _ (by decide) _ (by decide),
      window_overwrite_of_disjoint _ _ (by decide) _ (by decide),
      window_overwrite_of_disjoint _ _ (by decide) _ (by decide), Report.window_default,
      Report.window_default]
  · simp [maskedReport, getElem_overwrite]

/-- A report of the chip `01 02 … 40`, and of one whose identifier ends in another
byte. -/
def chipReport : Vector UInt8 reportSize :=
  overwrite Report.default.asBytes 416 (Vector.ofFn fun i : Fin 64 => UInt8.ofNat (i + 1))

def otherChipReport : Vector UInt8 reportSize := overwrite chipReport 479 #v[0]

/-- The address for a chip names another identifier, and is the one for another chip. -/
theorem vcekUrl_chipReport :
    vcekUrl chipReport "Genoa"
      ≠ kdsVcekUrl "Genoa" (Crates.hexEncode (Report.new chipReport).chipId.toList)
          (reportedTcb chipReport) ∧
    vcekUrl chipReport "Genoa" = vcekUrl otherChipReport "Genoa" ∧
      (Report.new chipReport).chipId ≠ (Report.new otherChipReport).chipId := by
  have hentries : chipReport[392] = 0 ∧ chipReport[416] = 1 ∧ chipReport[479] = 64 := by
    simp [chipReport, getElem_overwrite, Report.default, Report.asBytes]
  obtain ⟨h392, h416, h479⟩ := hentries
  refine ⟨?_, ?_, ?_⟩
  · rw [ne_eq, vcekUrl_eq_reported_iff hexDocumented]
    rintro ⟨hwindow, -⟩
    have hfirst : chipReport[392] = chipReport[416] := window_eq_iff.mp hwindow 0 (by decide)
    rw [h392, h416] at hfirst
    exact absurd hfirst (by decide)
  · rw [vcekUrl_inj hexDocumented, otherChipReport]
    refine ⟨?_, ?_⟩
    · rw [window_overwrite_of_disjoint _ _ (by decide) _ (by decide)]
    · simp [getElem_overwrite]
  · intro h
    have hlast : chipReport[479] = otherChipReport[479] := window_eq_iff.mp h 63 (by decide)
    rw [h479, otherChipReport, getElem_overwrite] at hlast
    exact absurd hlast (by decide)

end Reference

/-! ## The KDS answer -/

/-- A line that, trimmed, is one of the two markers. -/
def IsMarker (line : List Char) : Prop :=
  Text.trim line = beginMarker ∨ Text.trim line = endMarker

theorem endMarker_ne_beginMarker : endMarker ≠ beginMarker := by decide

/-- A certificate in PEM, with its base64 in one line. -/
def pemBlock (der : Bytes) : List Char :=
  beginMarker ++ '\n' :: (Base64.encode .standard true der ++ '\n' :: (endMarker ++ ['\n']))

def pemText (ders : List Bytes) : String := String.ofList (ders.flatMap pemBlock)

theorem base64Line_plain (der : Bytes) : ∀ c ∈ Base64.encode .standard true der,
    Text.isWhitespace c = false ∧ c ≠ '\n' ∧ c ≠ '\r' ∧ c ≠ '-' :=
  Base64.forall_mem_encode (by decide) (by decide) der

theorem trim_base64Line (der : Bytes) :
    Text.trim (Base64.encode .standard true der) = Base64.encode .standard true der :=
  Text.trim_of_forall fun c hc => (base64Line_plain der c hc).1

theorem base64Line_not_marker (der : Bytes) : ¬ IsMarker (Base64.encode .standard true der) := by
  have hdash : '-' ∉ Base64.encode .standard true der :=
    fun h => (base64Line_plain der _ h).2.2.2 rfl
  rw [IsMarker, trim_base64Line]
  rintro (h | h)
  · exact hdash (h ▸ (by decide : '-' ∈ beginMarker))
  · exact hdash (h ▸ (by decide : '-' ∈ endMarker))

theorem lines_pemBlock (der : Bytes) (rest : List Char) :
    Text.lines (pemBlock der ++ rest)
      = beginMarker :: Base64.encode .standard true der :: endMarker :: Text.lines rest := by
  have hnewline : '\n' ∉ Base64.encode .standard true der :=
    fun h => (base64Line_plain der _ h).2.1 rfl
  have hreturn : '\r' ∉ Base64.encode .standard true der :=
    fun h => (base64Line_plain der _ h).2.2.1 rfl
  simp only [pemBlock, List.append_assoc, List.cons_append, List.nil_append]
  rw [Text.lines_append_newline (by decide), Text.lines_append_newline hnewline,
    Text.lines_append_newline (by decide), Text.stripCr_of_notMem hreturn]
  rfl

section

variable [Crates]

/-- Lines that encode a list of certificates: blocks between a BEGIN and an END line
whose trimmed lines join to base64 of the certificate, with any other lines between
the blocks. -/
inductive BundleLines : List (List Char) → List Bytes → Prop
  | nil : BundleLines [] []
  | outside {line : List Char} {rest : List (List Char)} {ders : List Bytes} :
      ¬ IsMarker line → BundleLines rest ders → BundleLines (line :: rest) ders
  | block {first last : List Char} {body rest : List (List Char)} {der : Bytes}
      {ders : List Bytes} :
      Text.trim first = beginMarker → (∀ line ∈ body, ¬ IsMarker line) →
      Crates.base64Decode (String.ofList (body.flatMap Text.trim)) = .ok der →
      Text.trim last = endMarker → BundleLines rest ders →
      BundleLines (first :: (body ++ last :: rest)) (der :: ders)

/-- A text that is a PEM bundle of a list of certificates. -/
def IsBundle (pem : String) (ders : List Bytes) : Prop := BundleLines (Text.lines pem.toList) ders

theorem pemLine_begin {st : PemState} {line : List Char} (h : Text.trim line = beginMarker) :
    pemLine st line = .ok { st with inCert := true, b64 := [] } := by
  rw [pemLine]
  exact if_pos h

theorem pemLine_end {st : PemState} {line : List Char} {der : Bytes}
    (h : Text.trim line = endMarker) (hin : st.inCert = true)
    (hder : Crates.base64Decode (String.ofList st.b64) = .ok der) :
    pemLine st line = .ok { st with inCert := false, certs := st.certs ++ [der] } := by
  rw [pemLine, if_neg (h ▸ endMarker_ne_beginMarker), if_pos h, hin, hder]
  rfl

/-- Outside a block a line that is no marker changes nothing. -/
theorem pemLine_outside {st : PemState} {line : List Char} (h : ¬ IsMarker line)
    (hin : st.inCert = false) : pemLine st line = .ok st := by
  obtain ⟨hbegin, hend⟩ := not_or.mp h
  rw [pemLine, if_neg hbegin, if_neg hend, if_neg (by simp [hin])]

/-- Inside a block its trimmed text is appended. -/
theorem pemLine_inside {st : PemState} {line : List Char} (h : ¬ IsMarker line)
    (hin : st.inCert = true) :
    pemLine st line = .ok { st with b64 := st.b64 ++ Text.trim line } := by
  obtain ⟨hbegin, hend⟩ := not_or.mp h
  rw [pemLine, if_neg hbegin, if_neg hend]
  by_cases hblank : Text.trim line = []
  · rw [if_neg (by simp [hblank]), hblank, List.append_nil]
  · rw [if_pos ⟨hin, hblank⟩]

theorem foldlM_pemLine_body {body : List (List Char)} (h : ∀ line ∈ body, ¬ IsMarker line)
    (certs : List Bytes) (b64 : List Char) :
    body.foldlM pemLine { certs, inCert := true, b64 }
      = .ok { certs, inCert := true, b64 := b64 ++ body.flatMap Text.trim } := by
  induction body generalizing b64 with
  | nil => simp [pure, Except.pure]
  | cons line body ih =>
    rw [List.foldlM_cons, pemLine_inside (h line List.mem_cons_self) rfl, ok_bind,
      ih fun l hl => h l (List.mem_cons_of_mem _ hl)]
    simp [List.append_assoc]

/-- The loop over the lines of a bundle appends its certificates and ends outside a
block. -/
theorem foldlM_pemLine_of_bundle {ls : List (List Char)} {ders : List Bytes}
    (h : BundleLines ls ders) (certs : List Bytes) (b64 : List Char) :
    ∃ b64', ls.foldlM pemLine { certs, inCert := false, b64 }
      = .ok { certs := certs ++ ders, inCert := false, b64 := b64' } := by
  induction h generalizing certs b64 with
  | nil => exact ⟨b64, by simp [pure, Except.pure]⟩
  | outside hline _ ih =>
    rw [List.foldlM_cons, pemLine_outside hline rfl, ok_bind]
    exact ih certs b64
  | @block first last body rest der ders hfirst hbody hder hlast _ ih =>
    -- after the block the state is outside again, with one certificate more
    obtain ⟨b64', hrest⟩ := ih (certs ++ [der]) (body.flatMap Text.trim)
    refine ⟨b64', ?_⟩
    rw [List.foldlM_cons, pemLine_begin hfirst, ok_bind, List.foldlM_append,
      foldlM_pemLine_body hbody, ok_bind, List.foldlM_cons,
      pemLine_end hlast rfl (by simpa using hder), ok_bind]
    simpa using hrest

/-- A bundle is read as its certificates, in order. -/
theorem parsePemBundle_of_bundle {pem : String} {ders : List Bytes} (h : IsBundle pem ders) :
    parsePemBundle pem = .ok ders := by
  obtain ⟨b64', hfold⟩ := foldlM_pemLine_of_bundle h [] []
  rw [parsePemBundle, hfold]
  rfl

/-- A bundle that is written is one. -/
theorem isBundle_pemText (hb64 : Crates.Base64Documented) (ders : List Bytes) :
    IsBundle (pemText ders) ders := by
  rw [IsBundle, pemText, String.toList_ofList]
  induction ders with
  | nil => exact .nil
  | cons der ders ih =>
    rw [List.flatMap_cons, lines_pemBlock]
    show BundleLines (beginMarker :: ([Base64.encode .standard true der] ++ endMarker :: _)) _
    refine .block (by decide) ?_ ?_ (by decide) ih
    · intro line hline
      rw [List.mem_singleton.mp hline]
      exact base64Line_not_marker der
    · rw [hb64.decode_iff]
      simp [trim_base64Line]

/-- KDS answers the two requests for a report with a VCEK and a bundle. -/
def KdsAnswers (http : Http) (report : Vector UInt8 reportSize) (product : String)
    (vcekDer : Bytes) (pem : String) : Prop :=
  http.build = .ok () ∧
  (∃ r, http.get (vcekUrl report product) = .ok r ∧ r.errorForStatus = .ok r ∧
    r.bytes = .ok vcekDer) ∧
  ∃ r, http.get (chainUrl product) = .ok r ∧ r.errorForStatus = .ok r ∧ r.text = .ok pem

/-- The chain is the VCEK and the first two certificates of the bundle. -/
theorem fetchVcekChain_of_answers {http : Http} {report : Vector UInt8 reportSize}
    {product pem : String} {vcekDer askDer arkDer : Bytes} {more : List Bytes}
    (h : KdsAnswers http report product vcekDer pem)
    (hpem : IsBundle pem (askDer :: arkDer :: more)) :
    fetchVcekChain http report product = .ok [vcekDer, askDer, arkDer] := by
  obtain ⟨hbuild, ⟨r, hget, hstatus, hbytes⟩, r', hget', hstatus', htext⟩ := h
  simp only [fetchVcekChain, hbuild, hget, hstatus, hbytes, hget', hstatus', htext,
    parsePemBundle_of_bundle hpem, mapError_ok, ok_bind]
  rfl

end

end AmdAttestation
end Sifir
