import Sifir.Inference.GpuAttestTheorems
import Sifir.Lib.JsonEscapes
import Sifir.Server.TlsTheorems

/-!
# The server and its sidecar

The line the sidecar prints is ASCII and denotes its token and nonce, whatever characters
are in them (`parse_dumps`). So between the server and the SDK nothing is lost: what
the server gets of a run of the sidecar is the first token of the SDK, or the text of its
failure (`getGpuJwt_of_runsSidecar`).
-/

namespace Sifir
namespace GpuAttest

open Lib Json Text Results

/-! ## The text of the result -/

theorem hexValue_digit : ∀ n < 16, hexValue (byte (Hex.digit n)) = some n := by decide

/-- The four digits of a code unit spell it. -/
theorem hex4_codeUnit {n : ℕ} (h : n < 0x10000) :
    hex4 (byte (Hex.digit (n / 4096 % 16))) (byte (Hex.digit (n / 256 % 16)))
      (byte (Hex.digit (n / 16 % 16))) (byte (Hex.digit (n % 16))) = some n := by
  have hdigit : ∀ m, hexValue (byte (Hex.digit (m % 16))) = some (m % 16) := fun m =>
    hexValue_digit (m % 16) (Nat.mod_lt m (by decide))
  have hsum : ((n / 4096 % 16 * 16 + n / 256 % 16) * 16 + n / 16 % 16) * 16 + n % 16 = n := by
    omega
  rw [hex4, hdigit, hdigit, hdigit, hdigit]
  simp only [Option.bind_eq_bind, Option.bind_some, Option.pure_def, hsum]

theorem map_codeUnit (n : ℕ) : (codeUnit n).map byte = unicodeEscape
    (byte (Hex.digit (n / 4096 % 16))) (byte (Hex.digit (n / 256 % 16)))
      (byte (Hex.digit (n / 16 % 16))) (byte (Hex.digit (n % 16))) := rfl

/-- What `json.dumps` writes for a character stands for its UTF-8 bytes. -/
theorem standsFor_escapeChar (c : Char) :
    StandsFor ((escapeChar c).map byte) (utf8 c.toNat) := by
  have hvalid := toNat_lt c
  unfold escapeChar
  by_cases hquote : c = '"'
  · rw [if_pos hquote, hquote]
    exact standsFor_letter (by decide) (by decide)
  rw [if_neg hquote]
  by_cases hslash : c = '\\'
  · rw [if_pos hslash, hslash]
    exact standsFor_letter (by decide) (by decide)
  rw [if_neg hslash]
  by_cases hn : c = '\n'
  · rw [if_pos hn, hn]
    exact standsFor_letter (by decide) (by decide)
  rw [if_neg hn]
  by_cases hr : c = '\r'
  · rw [if_pos hr, hr]
    exact standsFor_letter (by decide) (by decide)
  rw [if_neg hr]
  by_cases ht : c = '\t'
  · rw [if_pos ht, ht]
    exact standsFor_letter (by decide) (by decide)
  rw [if_neg ht]
  by_cases hb : c.toNat = 8
  · rw [if_pos hb, hb]
    exact standsFor_letter (by decide) (by decide)
  rw [if_neg hb]
  by_cases hf : c.toNat = 12
  · rw [if_pos hf, hf]
    exact standsFor_letter (by decide) (by decide)
  rw [if_neg hf]
  by_cases hprint : 32 ≤ c.toNat ∧ c.toNat ≤ 126
  · rw [if_pos hprint]
    exact standsFor_char (by omega) hquote hslash hprint.1
  rw [if_neg hprint]
  by_cases hbmp : c.toNat < 0x10000
  · rw [if_pos hbmp, map_codeUnit]
    exact standsFor_unicodeEscape (hex4_codeUnit hbmp) hvalid.2
  · -- beyond the basic plane the two halves of a surrogate pair are written
    rw [if_neg hbmp, List.map_append, map_codeUnit, map_codeUnit]
    have hpair := standsFor_surrogatePair
      (hex4_codeUnit (show 0xD800 + (c.toNat - 0x10000) / 0x400 < 0x10000 by omega))
      (hex4_codeUnit (show 0xDC00 + (c.toNat - 0x10000) % 0x400 < 0x10000 by omega))
      (by omega) (by omega)
    have hsum : 0x10000 + (0xD800 + (c.toNat - 0x10000) / 0x400 - 0xD800) * 0x400
        + (0xDC00 + (c.toNat - 0x10000) % 0x400 - 0xDC00) = c.toNat := by omega
    rwa [hsum] at hpair

theorem digit_ascii : ∀ n < 16, 32 ≤ (Hex.digit n).toNat ∧ (Hex.digit n).toNat ≤ 126 := by decide

/-- A printable character of ASCII. -/
def IsPrintable (c : Char) : Prop := 32 ≤ c.toNat ∧ c.toNat ≤ 126

instance (c : Char) : Decidable (IsPrintable c) := inferInstanceAs (Decidable (_ ∧ _))

theorem isPrintable_letter {l : Char} (h : IsPrintable l) :
    ∀ d ∈ ['\\', l], IsPrintable d := by
  rw [List.forall_mem_cons, List.forall_mem_singleton]
  exact ⟨by decide, h⟩

theorem isPrintable_codeUnit (n : ℕ) : ∀ c ∈ codeUnit n, IsPrintable c := by
  have hdigit : ∀ m, IsPrintable (Hex.digit (m % 16)) := fun m =>
    digit_ascii (m % 16) (Nat.mod_lt m (by decide))
  rw [codeUnit, List.forall_mem_cons, List.forall_mem_cons, List.forall_mem_cons,
    List.forall_mem_cons, List.forall_mem_cons, List.forall_mem_singleton]
  exact ⟨by decide, by decide, hdigit _, hdigit _, hdigit _, hdigit _⟩

/-- `json.dumps` writes printable characters only. -/
theorem isPrintable_escapeChar (c : Char) : ∀ d ∈ escapeChar c, IsPrintable d := by
  unfold escapeChar
  split_ifs with _ _ _ _ _ _ _ hprint
  · exact isPrintable_letter (by decide)
  · exact isPrintable_letter (by decide)
  · exact isPrintable_letter (by decide)
  · exact isPrintable_letter (by decide)
  · exact isPrintable_letter (by decide)
  · exact isPrintable_letter (by decide)
  · exact isPrintable_letter (by decide)
  · rw [List.forall_mem_singleton]
    exact hprint
  · exact isPrintable_codeUnit _
  · rw [List.forall_mem_append]
    exact ⟨isPrintable_codeUnit _, isPrintable_codeUnit _⟩

theorem isPrintable_dumpsString (s : String) : ∀ d ∈ (dumpsString s).toList, IsPrintable d := by
  have hquote : IsPrintable '"' := by decide
  rw [dumpsString, String.toList_ofList, List.cons_append, List.forall_mem_cons,
    List.forall_mem_append, List.forall_mem_singleton]
  refine ⟨hquote, ?_, hquote⟩
  intro d hd
  obtain ⟨c, -, hc⟩ := List.mem_flatMap.mp hd
  exact isPrintable_escapeChar c d hc

/-- The bytes of a text in quotes. -/
theorem utf8Bytes_dumpsString (s : String) : utf8Bytes (dumpsString s)
    = byte '"' :: s.toList.flatMap (fun c => (escapeChar c).map byte) ++ [byte '"'] := by
  have hascii : ∀ d ∈ '"' :: s.toList.flatMap escapeChar ++ ['"'], d.toNat < 0x80 := by
    intro d hd
    have hprint := isPrintable_dumpsString s d (by rwa [dumpsString, String.toList_ofList])
    exact Nat.lt_of_le_of_lt hprint.2 (by decide)
  rw [dumpsString, utf8Bytes_ofList_of_ascii hascii, List.map_append, List.map_cons,
    List.map_flatMap]
  rfl

/-- A text is read back, whatever follows it. -/
theorem parseStr_dumpsString (s : String) (rest : List UInt8) :
    parseStr (utf8Bytes (dumpsString s) ++ rest) = some (utf8Bytes s, rest) := by
  rw [utf8Bytes_dumpsString, utf8Bytes_eq s, List.append_assoc, List.singleton_append]
  exact parseStr_standsFor (fun c _ => standsFor_escapeChar c) rest

theorem starts_dumpsString (s : String) (rest : List UInt8) :
    Starts (utf8Bytes (dumpsString s) ++ rest) := by
  rw [utf8Bytes_dumpsString]
  exact ⟨_, _, rfl, by decide, by decide, by decide⟩

theorem isPrintable_dumps (jwt nonce : String) :
    ∀ d ∈ (dumps jwt nonce).toList, IsPrintable d := by
  have hall : ∀ l : List Char, (l.all fun d => decide (IsPrintable d)) = true →
      ∀ d ∈ l, IsPrintable d := fun l h d hd => of_decide_eq_true (List.all_eq_true.mp h d hd)
  have hopen : ∀ d ∈ "\x7b\"jwt\": ".toList, IsPrintable d := hall _ rfl
  have hcomma : ∀ d ∈ ", \"nonce\": ".toList, IsPrintable d := hall _ rfl
  have hclose : ∀ d ∈ "\x7d".toList, IsPrintable d := hall _ rfl
  rw [dumps, String.toList_append, String.toList_append, String.toList_append, String.toList_append]
  simp only [List.forall_mem_append]
  exact ⟨⟨⟨⟨hopen, isPrintable_dumpsString jwt⟩, hcomma⟩, isPrintable_dumpsString nonce⟩, hclose⟩

/-- A name and a text in quotes are a member, whatever follows them. -/
theorem parseMember_dumpsString (n : ℕ) (k s : String) (rest : List UInt8) :
    parseMember (parseValue (n + 1))
        (utf8Bytes (dumpsString k) ++ byte ':' :: 32 :: (utf8Bytes (dumpsString s) ++ rest))
      = some ((utf8Bytes k, Serde.ofString s), rest) := by
  have hstr := parseStr_dumpsString s rest
  refine parseMember_of_colon (parseStr_dumpsString k _) ?_
  rw [skipWs_space, skipWs_of_starts (starts_dumpsString s rest)]
  rw [utf8Bytes_dumpsString, List.cons_append, List.cons_append] at hstr ⊢
  exact parseValue_of_str hstr n

theorem utf8Bytes_dumps (jwt nonce : String) : utf8Bytes (dumps jwt nonce ++ "\n")
    = byte '\x7b' :: (utf8Bytes (dumpsString "jwt") ++ byte ':' :: 32 ::
        (utf8Bytes (dumpsString jwt) ++ byte ',' :: 32 ::
          (utf8Bytes (dumpsString "nonce") ++ byte ':' :: 32 ::
            (utf8Bytes (dumpsString nonce) ++ byte '\x7d' :: [10])))) := by
  have hopen : utf8Bytes "\x7b\"jwt\": "
      = byte '\x7b' :: (utf8Bytes (dumpsString "jwt") ++ [byte ':', 32]) := by decide
  have hcomma : utf8Bytes ", \"nonce\": "
      = byte ',' :: 32 :: (utf8Bytes (dumpsString "nonce") ++ [byte ':', 32]) := by decide
  have hclose : utf8Bytes "\x7d" = [byte '\x7d'] := by decide
  have hend : utf8Bytes "\n" = [10] := by decide
  rw [dumps, utf8Bytes_append, utf8Bytes_append, utf8Bytes_append, utf8Bytes_append,
    utf8Bytes_append, hopen, hcomma, hclose, hend]
  simp only [List.append_assoc, List.cons_append, List.nil_append]

/-- The printed line denotes the token and the nonce. -/
theorem parse_dumps (jwt nonce : String) : parse (utf8Bytes (dumps jwt nonce ++ "\n"))
    = some (Serde.ofMembers [("jwt", Serde.ofString jwt), ("nonce", Serde.ofString nonce)]) := by
  have hsecond : ∀ n k, parseItems (parseMember (parseValue (n + 1))) (byte '\x7d') (k + 1)
      (utf8Bytes (dumpsString "nonce") ++ byte ':' :: 32 ::
        (utf8Bytes (dumpsString nonce) ++ byte '\x7d' :: [10]))
      = some ([(utf8Bytes "nonce", Serde.ofString nonce)], [10]) := fun n k =>
    parseItems_of_close (by decide) (parseMember_dumpsString n "nonce" nonce _)
  rw [utf8Bytes_dumps]
  refine @parse_of_parseValue _ [10] _ ⟨_, _, rfl, by decide, by decide, by decide⟩ ?_ (by decide)
  rw [List.length_cons]
  refine parseValue_of_obj ?_
  rw [parseList_of_starts (starts_dumpsString _ _) (Or.inr rfl)]
  -- each of the two members takes one from the bound, which is the length of the text
  generalize hlen : List.length _ = len
  obtain ⟨k, rfl⟩ : ∃ k, len = k + 1 + 1 := ⟨len - 2, by
    rw [← hlen]
    simp only [List.length_append, List.length_cons]
    omega⟩
  refine parseItems_of_comma (by decide) (parseMember_dumpsString _ "jwt" jwt _) ?_
  rw [skipWs_space, skipWs_of_starts (starts_dumpsString _ _)]
  exact hsecond _ k

/-- The line the sidecar prints is printable ASCII, so it is one line in every encoding of
its output, and it denotes the token and the nonce it was made of. -/
theorem dumps_lossless (jwt nonce : String) :
    (∀ d ∈ (dumps jwt nonce).toList, IsPrintable d) ∧
    parse (utf8Bytes (dumps jwt nonce ++ "\n"))
      = some (Serde.ofMembers [("jwt", Serde.ofString jwt), ("nonce", Serde.ofString nonce)]) :=
  ⟨isPrintable_dumps jwt nonce, parse_dumps jwt nonce⟩

/-! ## The exit of the program -/

theorem head_of_isNonce {nonce : String} (h : IsNonce nonce) : nonce.toList.head? ≠ some '-' := by
  intro hhead
  have hdigit := h.2 '-' (List.mem_of_head? hhead)
  exact absurd hdigit (by decide)

/-- Every failure to get a token exits with 1. -/
theorem code_of_fetchGpuJwt {sdk : Sdk} {nonce : String} {e : SystemExit}
    (h : fetchGpuJwt sdk nonce = .error e) : e.code = 1 := by
  unfold fetchGpuJwt at h
  split at h
  · rw [← Except.error.inj h]
  · split at h
    · rw [← Except.error.inj h]
    · rw [← Except.error.inj h]
    · cases h

variable {parseArgs : ParseArgs} {sdk : Sdk} {nonce : String}

/-- For a nonce of digits the program prints the token with it. -/
theorem program_of_ok (hargs : ArgparseDocumented parseArgs) (hnonce : IsNonce nonce)
    {jwt : String} (h : fetchGpuJwt sdk nonce = .ok jwt) :
    program parseArgs sdk ["--nonce", nonce]
      = { code := 0, stdout := dumps jwt nonce ++ "\n", stderr := "" } := by
  have hmain : main sdk nonce = .ok (dumps jwt nonce ++ "\n") := by
    rw [main, validateNonce_of_isNonce hnonce, ok_bind, h, ok_bind]
    rfl
  simp only [program, hargs nonce (head_of_isNonce hnonce), hmain]

/-- Without a token it exits with 1. -/
theorem program_of_error (hargs : ArgparseDocumented parseArgs) (hnonce : IsNonce nonce)
    {e : SystemExit} (h : fetchGpuJwt sdk nonce = .error e) :
    program parseArgs sdk ["--nonce", nonce]
      = { code := 1, stdout := "", stderr := e.stderr ++ "\n" } := by
  have hmain : main sdk nonce = .error e := by
    rw [main, validateNonce_of_isNonce hnonce, ok_bind, h, error_bind]
  simp only [program, hargs nonce (head_of_isNonce hnonce), hmain, code_of_fetchGpuJwt h]

end GpuAttest

namespace GpuAttestation

open Lib Results GpuAttest

/-! ## The server -/

/-- What the server sees of a finished process, on a system that displays an exit code as
an exit status. -/
def Output.ofExit (exit : Exit) : Output where
  success := exit.code = 0
  status := s!"exit status: {exit.code}"
  stdout := Text.utf8Bytes exit.stdout
  stderr := exit.stderr

/-- `python3` runs the sidecar where the server looks for it. -/
def RunsSidecar (process : Process) (parseArgs : ParseArgs) (sdk : Sdk) (scriptPath : String) :
    Prop :=
  ∀ argv, process.run "python3" (scriptPath :: argv)
    = .ok (Output.ofExit (program parseArgs sdk argv))

theorem resultOfJson_line (jwt nonce : String) : resultOfJson (Serde.ofMembers
    [("jwt", Serde.ofString jwt), ("nonce", Serde.ofString nonce)]) = some jwt := by
  have hnames := Serde.names_map [("jwt", Serde.ofString jwt), ("nonce", Serde.ofString nonce)]
  rw [Serde.ofMembers, resultOfJson, hnames]
  simp [Serde.required, Serde.member]

section Transparency

variable [Crates]

/-- Between the server and the SDK nothing is lost: the server gets the first token of the
SDK for the hash of its key, whatever characters are in it, or fails with the text of
the sidecar's failure. -/
theorem getGpuJwt_of_runsSidecar (hhex : Crates.HexDocumented)
    (hjson : Crates.JsonTextDocumented) {parseArgs : ParseArgs}
    (hargs : ArgparseDocumented parseArgs) {process : Process} {sdk : Sdk} {scriptPath : String}
    (hruns : RunsSidecar process parseArgs sdk scriptPath) (hash : Vector UInt8 32) :
    getGpuJwt process hash scriptPath
      = (fetchGpuJwt sdk (Crates.hexEncode hash.toList)).mapError fun e =>
          .msg ("gpu_attest.py exited with exit status: 1: " ++ (e.stderr ++ "\n")) := by
  have hnonce : IsNonce (Crates.hexEncode hash.toList) := isNonce_hexEncode hhex hash
  have hrun := hruns ["--nonce", Crates.hexEncode hash.toList]
  rcases exists_error_or_exists_ok (fetchGpuJwt sdk (Crates.hexEncode hash.toList)) with
    ⟨e, he⟩ | ⟨jwt, hjwt⟩
  · rw [program_of_error hargs hnonce he] at hrun
    have hprefix : toString "gpu_attest.py exited with " ++ toString s!"exit status: {1}"
        ++ toString ": " = "gpu_attest.py exited with exit status: 1: " := by decide
    rw [he, mapError_error, ← hprefix, getGpuJwt, hrun]
    rfl
  · rw [program_of_ok hargs hnonce hjwt] at hrun
    rw [hjwt, mapError_ok]
    refine getGpuJwt_eq_ok.mpr ⟨_, hrun, rfl, ?_⟩
    -- the line is an object of two texts, which `serde_json` reads
    have hread := hjson.fromSlice_scalars _ _ (parse_dumps jwt (Crates.hexEncode hash.toList)) (by
      rw [List.forall_mem_cons, List.forall_mem_singleton]
      exact ⟨Or.inl ⟨_, rfl⟩, Or.inl ⟨_, rfl⟩⟩)
    rw [Output.ofExit, hread, Option.bind_some, resultOfJson_line]

omit [Crates] in
theorem fetchGpuJwt_eq_ok {sdk : Sdk} {nonce jwt : String} : fetchGpuJwt sdk nonce = .ok jwt ↔
    sdk.installed = true ∧ ∃ more, sdk.attest nrasUrl ocspUrl nonce = .ok (jwt :: more) := by
  unfold fetchGpuJwt
  cases hinstalled : sdk.installed with
  | false => simp
  | true =>
    rcases exists_error_or_exists_ok (sdk.attest nrasUrl ocspUrl nonce) with ⟨e, he⟩ | ⟨tokens, hok⟩
    · simp [he]
    · rw [hok]
      cases tokens with
      | nil => simp
      | cons token more => simp

omit [Crates] in
theorem fetchGpuJwt_of_error {sdk : Sdk} {nonce exc : String} (hinstalled : sdk.installed = true)
    (h : sdk.attest nrasUrl ocspUrl nonce = .error exc) :
    fetchGpuJwt sdk nonce = .error ⟨1, "ERROR: NVIDIA attestation failed: " ++ exc⟩ := by
  have hconcat : s!"ERROR: NVIDIA attestation failed: {exc}"
      = "ERROR: NVIDIA attestation failed: " ++ exc := rfl
  simp only [fetchGpuJwt, hinstalled, Bool.not_true, Bool.false_eq_true, if_false, h, hconcat]

/-- A server with the sidecar gets the first token of the SDK for the hash of its key,
whatever characters are in it, and otherwise the text of the failure. So the token in
the certificate of its GPU setup is the one the SDK gave for the nonce of the
certificate's key. -/
theorem sidecar_token_presented (hhex : Crates.HexDocumented)
    (hjson : Crates.SerdeJsonDocumented) (htext : Crates.JsonTextDocumented)
    (hb64 : Crates.Base64Documented) (hrcgen : Crates.RcgenDocumented)
    (hrustls : Crates.RustlsDocumented) (hoid : Crates.oidParse attestOidStr = .ok attestOidArcs)
    {parseArgs : ParseArgs} (hargs : ArgparseDocumented parseArgs) {process : Process} {sdk : Sdk}
    {scriptPath : String} (hruns : RunsSidecar process parseArgs sdk scriptPath) :
    (∀ hash : Vector UInt8 32, getGpuJwt process hash scriptPath
      = (fetchGpuJwt sdk (Crates.hexEncode hash.toList)).mapError fun e =>
          .msg ("gpu_attest.py exited with exit status: 1: " ++ (e.stderr ++ "\n"))) ∧
    ∀ dev http rng product setup,
      Tls.buildAmdGpuSetup dev http process rng product scriptPath = .ok setup →
      ∃ der p att raw jwt more, Crates.certChain setup.serverConfig = [der] ∧
        Verifier.Attests der p att raw ∧ att.gpuJwt = some jwt ∧ sdk.installed = true ∧
        sdk.attest nrasUrl ocspUrl (GpuVerify.expectedNonce p) = .ok (jwt :: more) := by
  have hget := getGpuJwt_of_runsSidecar hhex htext hargs hruns
  refine ⟨hget, fun dev http rng product setup hsetup => ?_⟩
  obtain ⟨kp, p, raw, chain, jwt, hgen, -, -, hjwt, hcert, -⟩ :=
    Tls.buildAmdGpuSetup_eq_ok.mp hsetup
  obtain ⟨der, hder, hpres⟩ := Tls.presents_of_buildServerCert hrcgen hrustls hoid hgen.2 hcert
  rw [hget, mapError_eq_ok] at hjwt
  obtain ⟨hinstalled, more, hattest⟩ := fetchGpuJwt_eq_ok.mp hjwt
  refine ⟨der, p, _, raw, jwt, more, hder,
    ⟨_, hpres, AttestationExtension.fromBytes_toBytes hjson _, ?_⟩, rfl, hinstalled, hattest⟩
  exact AttestationExtension.reportBytes_eq_ok.mp
    (AttestationExtension.reportBytes_newAmd hb64 raw chain)

end Transparency

section Reference

open Reference

attribute [local instance] crates

/-- `argparse` on the arguments of the server. -/
def referenceArgs : ParseArgs := fun argv =>
  match argv with
  | ["--nonce", nonce] =>
    if nonce.toList.head? = some '-' then
      .error ⟨2, "", "gpu_attest.py: error: argument --nonce: expected one argument\n"⟩
    else .ok nonce
  | _ => .error ⟨2, "", "gpu_attest.py: error: the following arguments are required: --nonce\n"⟩

theorem argparseDocumented : ArgparseDocumented referenceArgs := fun _ h => if_neg h

/-- The SDK, which has a token for the nonce of server A. -/
def referenceSdk : Sdk where
  installed := true
  attest _ _ nonce :=
    if nonce = hexText ServerKey.a.hash.toList then .ok [tokenA] else .error "invalid nonce"

theorem attest_referenceSdk (nonce : String) : referenceSdk.attest nrasUrl ocspUrl nonce
    = if nonce = hexText ServerKey.a.hash.toList then .ok [tokenA] else .error "invalid nonce" :=
  rfl

/-- `python3` with the sidecar. -/
def referencePython : Process where
  run _ args := .ok (Output.ofExit (program referenceArgs referenceSdk args.tail))

theorem runsSidecar_referencePython (scriptPath : String) :
    RunsSidecar referencePython referenceArgs referenceSdk scriptPath :=
  fun _ => rfl

theorem fetchGpuJwt_serverA :
    fetchGpuJwt referenceSdk (Crates.hexEncode ServerKey.a.hash.toList) = .ok tokenA := by
  refine fetchGpuJwt_eq_ok.mpr ⟨rfl, [], ?_⟩
  rw [attest_referenceSdk]
  exact if_pos rfl

theorem getGpuJwt_referencePython :
    getGpuJwt referencePython (Crates.sha256 ServerKey.a.spki) "gpu_attest.py" = .ok tokenA := by
  rw [getGpuJwt_of_runsSidecar hexDocumented jsonTextDocumented argparseDocumented
    (runsSidecar_referencePython _), sha256_spki, fetchGpuJwt_serverA, mapError_ok]

/-- The server gets server A's token, and no other. -/
theorem sidecar_token_presented_serverA :
    getGpuJwt referencePython ServerKey.a.hash "gpu_attest.py" = .ok tokenA ∧
    getGpuJwt referencePython ServerKey.b.hash "gpu_attest.py" = .error (.msg
      "gpu_attest.py exited with exit status: 1: ERROR: NVIDIA attestation failed: invalid nonce\n")
    := by
  obtain ⟨hget, -⟩ := sidecar_token_presented hexDocumented serdeJsonDocumented
    jsonTextDocumented base64Documented rcgenDocumented rustlsDocumented oidParse_attestOidStr
    argparseDocumented (runsSidecar_referencePython "gpu_attest.py")
  have hnonces : hexText ServerKey.b.hash.toList ≠ hexText ServerKey.a.hash.toList := fun h =>
    hash_ne (hexDocumented.encode_inj.mp h).symm
  have hattestB : fetchGpuJwt referenceSdk (Crates.hexEncode ServerKey.b.hash.toList)
      = .error ⟨1, "ERROR: NVIDIA attestation failed: " ++ "invalid nonce"⟩ := by
    refine fetchGpuJwt_of_error rfl ?_
    rw [attest_referenceSdk]
    exact if_neg hnonces
  refine ⟨?_, ?_⟩
  · rw [hget, fetchGpuJwt_serverA]
    rfl
  · rw [hget, hattestB]
    rfl

end Reference

end GpuAttestation
end Sifir
