import Sifir.Server.AmdAttestationTheorems

/-!
# PEM bundles

What `parsePemBundle` makes of a text, read off its marker lines. `openBlock` is the
block that is open after some lines; the loop keeps it in its state
(`openBlock_of_run`), fails exactly where an END line closes no block of base64
(`exists_run_iff`), and collects a bundle as long as no BEGIN line comes inside a block
(`reads_of_run`). From these, when a certificate is lost (`neverLoses_iff`), and that a
bundle that is written in any layout is read back (`parsePemBundle_render`).
-/

namespace Sifir
namespace AmdAttestation

open Lib Results

/-! ## Marker lines -/

inductive Marker where
  | opening
  | closing
deriving DecidableEq

/-- The marker a line is. -/
def markerOf (line : List Char) : Option Marker :=
  if Text.trim line = beginMarker then some .opening
  else if Text.trim line = endMarker then some .closing
  else none

/-- The marker lines of a text, in order. -/
def markers (ls : List (List Char)) : List Marker := ls.filterMap markerOf

/-- BEGIN and END take turns, from a BEGIN to an END. -/
def Alternates (ms : List Marker) : Prop :=
  ∃ n, ms = (List.replicate n [Marker.opening, Marker.closing]).flatten

theorem markerOf_eq_opening {line : List Char} :
    markerOf line = some .opening ↔ Text.trim line = beginMarker := by
  unfold markerOf
  by_cases hbegin : Text.trim line = beginMarker
  · simp [hbegin]
  · by_cases hend : Text.trim line = endMarker
    · simp [hend, endMarker_ne_beginMarker]
    · simp [hbegin, hend]

theorem markerOf_eq_closing {line : List Char} :
    markerOf line = some .closing ↔ Text.trim line = endMarker := by
  unfold markerOf
  by_cases hbegin : Text.trim line = beginMarker
  · simp [hbegin, endMarker_ne_beginMarker.symm]
  · by_cases hend : Text.trim line = endMarker
    · simp [hend, endMarker_ne_beginMarker]
    · simp [hbegin, hend]

theorem markerOf_eq_none {line : List Char} : markerOf line = none ↔ ¬ IsMarker line := by
  unfold markerOf IsMarker
  by_cases hbegin : Text.trim line = beginMarker
  · simp [hbegin]
  · by_cases hend : Text.trim line = endMarker
    · simp [hend, endMarker_ne_beginMarker]
    · simp [hbegin, hend]

/-- Where the markers take turns, no two BEGIN lines follow each other. -/
theorem Alternates.no_reopening {ms : List Marker} (h : Alternates ms) (pre post : List Marker) :
    ms ≠ pre ++ .opening :: .opening :: post := by
  obtain ⟨n, rfl⟩ := h
  induction n generalizing pre with
  | zero => simp
  | succ n ih =>
    rw [List.replicate_succ, List.flatten_cons]
    intro heq
    -- the first pair is consumed by the prefix, or it is the two BEGIN lines
    match pre, heq with
    | [], heq => simp at heq
    | [m], heq => simp at heq
    | m :: m' :: pre, heq =>
      simp only [List.cons_append, List.nil_append, List.cons.injEq] at heq
      exact ih pre heq.2.2

/-! ## The open block -/

/-- A line ends the open block, starts one, or is appended to it. -/
def openLine (block : Option (List Char)) (line : List Char) : Option (List Char) :=
  match markerOf line with
  | some .opening => some []
  | some .closing => none
  | none => block.map (· ++ Text.trim line)

/-- The text of the block that is open after some lines: what follows the last BEGIN
line, if no END line comes after it. -/
def openBlock (ls : List (List Char)) : Option (List Char) := ls.foldl openLine none

theorem openBlock_concat (ls : List (List Char)) (line : List Char) :
    openBlock (ls ++ [line]) = openLine (openBlock ls) line := by
  rw [openBlock, List.foldl_concat, ← openBlock]

/-- A block is open when the last marker is a BEGIN. -/
theorem isSome_openBlock {ls : List (List Char)} :
    (openBlock ls).isSome = true ↔ ∃ ms, markers ls = ms ++ [.opening] := by
  induction ls using List.reverseRecOn with
  | nil => simp [openBlock, markers]
  | append_singleton ls line ih =>
    rw [openBlock_concat, openLine, markers, List.filterMap_append, ← markers]
    cases hmarker : markerOf line with
    | none => simpa [hmarker] using ih
    | some m =>
      cases m with
      | opening => simp [hmarker]
      | closing =>
        simp only [Option.isSome_none, Bool.false_eq_true, false_iff, not_exists]
        intro ms heq
        simp [hmarker] at heq

section Lines

variable {P Q : List (List Char) → List Char → Prop}

/-- Some line, with the lines before it, has a property. -/
def AtSomeLine (P : List (List Char) → List Char → Prop) (ls : List (List Char)) : Prop :=
  ∃ pre line post, ls = pre ++ line :: post ∧ P pre line

theorem atSomeLine_nil : ¬ AtSomeLine P [] := by
  rintro ⟨pre, line, post, heq, -⟩
  simp at heq

theorem atSomeLine_concat {ls : List (List Char)} {line : List Char} :
    AtSomeLine P (ls ++ [line]) ↔ AtSomeLine P ls ∨ P ls line := by
  refine ⟨?_, ?_⟩
  · rintro ⟨pre, l, post, heq, hP⟩
    rcases List.eq_nil_or_concat post with rfl | ⟨post', last, rfl⟩
    · obtain ⟨rfl, hline⟩ := List.append_inj' heq rfl
      obtain rfl := List.singleton_inj.mp hline
      exact Or.inr hP
    · left
      rw [List.concat_eq_append, ← List.cons_append, ← List.append_assoc] at heq
      exact ⟨pre, l, post', (List.append_inj' heq rfl).1, hP⟩
  · rintro (⟨pre, l, post, rfl, hP⟩ | hP)
    · exact ⟨pre, l, post ++ [line], by simp, hP⟩
    · exact ⟨ls, line, [], rfl, hP⟩

end Lines

/-- A BEGIN line comes while a block is open. -/
def Reopens (ls : List (List Char)) : Prop :=
  AtSomeLine (fun pre line => markerOf line = some .opening ∧ (openBlock pre).isSome = true) ls

/-- Where a BEGIN line comes inside a block, the markers do not take turns. -/
theorem Reopens.not_alternates {ls : List (List Char)} (h : Reopens ls) :
    ¬ Alternates (markers ls) := by
  obtain ⟨pre, line, post, rfl, hline, hopen⟩ := h
  obtain ⟨ms, hms⟩ := isSome_openBlock.mp hopen
  intro halt
  refine halt.no_reopening ms (markers post) ?_
  rw [markers, List.filterMap_append, List.filterMap_cons, hline, ← markers, hms]
  simp [markers]

section Loop

variable [Crates]

/-- An END line closes no block, or one whose text is not base64. -/
def Misclosed (ls : List (List Char)) : Prop :=
  AtSomeLine (fun pre line => markerOf line = some .closing ∧
    ¬ ∃ text der, openBlock pre = some text ∧
      Crates.base64Decode (String.ofList text) = .ok der) ls

/-! ## The loop -/

/-- The loop over some lines, from its start. -/
def run (ls : List (List Char)) : Except AnyhowError PemState :=
  ls.foldlM pemLine { certs := [], inCert := false, b64 := [] }

theorem parsePemBundle_eq_ok {pem : String} {certs : List Bytes} :
    parsePemBundle pem = .ok certs ↔ ∃ st, run (Text.lines pem.toList) = .ok st ∧
      st.inCert = false ∧ st.certs = certs := by
  rw [parsePemBundle, bind_eq_ok]
  refine exists_congr fun st => and_congr_right fun _ => ?_
  cases hin : st.inCert with
  | false => simp
  | true => simp

/-- An END line has to close a block of base64. -/
theorem pemLine_end_eq_ok {st st' : PemState} {line : List Char}
    (h : Text.trim line = endMarker) :
    pemLine st line = .ok st' ↔ st.inCert = true ∧
      ∃ der, Crates.base64Decode (String.ofList st.b64) = .ok der ∧
        st' = { st with inCert := false, certs := st.certs ++ [der] } := by
  rw [pemLine, if_neg (h ▸ endMarker_ne_beginMarker), if_pos h]
  cases hin : st.inCert with
  | false => simp
  | true =>
    simp only [Bool.not_true, Bool.false_eq_true, if_false, bind_eq_ok, mapError_eq_ok,
      pure_eq_ok_iff, true_and]
    exact exists_congr fun der => and_congr_right fun _ => eq_comm

/-- What one line does to the state. -/
theorem pemLine_cases {st st' : PemState} {line : List Char} (h : pemLine st line = .ok st') :
    (markerOf line = some .opening ∧ st' = { st with inCert := true, b64 := [] }) ∨
    (markerOf line = some .closing ∧ st.inCert = true ∧
      ∃ der, Crates.base64Decode (String.ofList st.b64) = .ok der ∧
        st' = { st with inCert := false, certs := st.certs ++ [der] }) ∨
    (markerOf line = none ∧ st.inCert = true ∧
      st' = { st with b64 := st.b64 ++ Text.trim line }) ∨
    (markerOf line = none ∧ st.inCert = false ∧ st' = st) := by
  cases hmarker : markerOf line with
  | none =>
    have hline := markerOf_eq_none.mp hmarker
    by_cases hin : st.inCert = true
    · rw [pemLine_inside hline hin, Except.ok.injEq] at h
      exact Or.inr (Or.inr (Or.inl ⟨rfl, hin, h.symm⟩))
    · rw [Bool.not_eq_true] at hin
      rw [pemLine_outside hline hin, Except.ok.injEq] at h
      exact Or.inr (Or.inr (Or.inr ⟨rfl, hin, h.symm⟩))
  | some m =>
    cases m with
    | opening =>
      rw [pemLine_begin (markerOf_eq_opening.mp hmarker), Except.ok.injEq] at h
      exact Or.inl ⟨rfl, h.symm⟩
    | closing =>
      exact Or.inr (Or.inl ⟨rfl, (pemLine_end_eq_ok (markerOf_eq_closing.mp hmarker)).mp h⟩)

/-- The open block is the text in the state. -/
theorem openBlock_of_run {ls : List (List Char)} {st : PemState} (h : run ls = .ok st) :
    openBlock ls = if st.inCert then some st.b64 else none := by
  refine foldlM_invariant (fun ls st => openBlock ls = if st.inCert then some st.b64 else none)
    rfl ?_ h
  intro ls line st st' hinv hline
  rw [openBlock_concat, hinv]
  rcases pemLine_cases hline with ⟨hm, rfl⟩ | ⟨hm, -, der, -, rfl⟩ | ⟨hm, hin, rfl⟩ |
    ⟨hm, hin, rfl⟩
  · simp [openLine, hm]
  · simp [openLine, hm]
  · simp [openLine, hm, hin]
  · simp [openLine, hm, hin]

/-- The loop gets through some lines when each of their END lines closes a block of
base64. -/
theorem exists_run_iff {ls : List (List Char)} : (∃ st, run ls = .ok st) ↔ ¬ Misclosed ls := by
  induction ls using List.reverseRecOn with
  | nil =>
    have hstart : run [] = .ok { certs := [], inCert := false, b64 := [] } := rfl
    exact iff_of_true ⟨_, hstart⟩ atSomeLine_nil
  | append_singleton ls line ih =>
    rw [Misclosed, atSomeLine_concat, not_or, ← Misclosed, ← ih]
    simp only [run, foldlM_concat_eq_ok]
    refine ⟨?_, ?_⟩
    · rintro ⟨st, m, hm, hline⟩
      refine ⟨⟨m, hm⟩, ?_⟩
      rintro ⟨hclose, hnot⟩
      obtain ⟨hin, der, hder, -⟩ := (pemLine_end_eq_ok (markerOf_eq_closing.mp hclose)).mp hline
      have hblock := openBlock_of_run hm
      rw [hin, if_pos rfl] at hblock
      exact hnot ⟨m.b64, der, hblock, hder⟩
    · rintro ⟨⟨m, hm⟩, hok⟩
      cases hmarker : markerOf line with
      | none =>
        have hplain := markerOf_eq_none.mp hmarker
        by_cases hin : m.inCert = true
        · exact ⟨_, m, hm, pemLine_inside hplain hin⟩
        · exact ⟨_, m, hm, pemLine_outside hplain (Bool.not_eq_true _ ▸ hin)⟩
      | some marker =>
        cases marker with
        | opening => exact ⟨_, m, hm, pemLine_begin (markerOf_eq_opening.mp hmarker)⟩
        | closing =>
          obtain ⟨text, der, hblock, hder⟩ := not_not.mp (not_and.mp hok hmarker)
          have hstate := openBlock_of_run hm
          rw [hblock] at hstate
          by_cases hin : m.inCert = true
          · rw [hin, if_pos rfl, Option.some.injEq] at hstate
            exact ⟨_, m, hm, (pemLine_end_eq_ok (markerOf_eq_closing.mp hmarker)).mpr
              ⟨hin, der, hstate ▸ hder, rfl⟩⟩
          · rw [if_neg hin] at hstate
            cases hstate

/-- What the loop has read: a bundle, and behind it the start of a block when one is
open. -/
def Reads (ls : List (List Char)) (st : PemState) : Prop :=
  if st.inCert then
    ∃ done first body, ls = done ++ first :: body ∧ BundleLines done st.certs ∧
      Text.trim first = beginMarker ∧ (∀ line ∈ body, ¬ IsMarker line) ∧
      st.b64 = body.flatMap Text.trim
  else BundleLines ls st.certs

theorem BundleLines.append {ls ls' : List (List Char)} {ders ders' : List Bytes}
    (h : BundleLines ls ders) (h' : BundleLines ls' ders') :
    BundleLines (ls ++ ls') (ders ++ ders') := by
  induction h with
  | nil => exact h'
  | outside hline _ ih => exact .outside hline ih
  | block hfirst hbody hder hlast _ ih =>
    rw [List.cons_append, List.append_assoc, List.cons_append, List.cons_append]
    exact .block hfirst hbody hder hlast ih

theorem Reads.step {ls : List (List Char)} {line : List Char} {st st' : PemState}
    (h : Reads ls st) (hline : pemLine st line = .ok st')
    (hclosed : markerOf line = some .opening → st.inCert = false) : Reads (ls ++ [line]) st' := by
  unfold Reads at h
  rcases pemLine_cases hline with ⟨hm, rfl⟩ | ⟨hm, hin, der, hder, rfl⟩ | ⟨hm, hin, rfl⟩ |
    ⟨hm, hin, rfl⟩
  · -- a new block starts
    rw [hclosed hm, if_neg Bool.false_ne_true] at h
    exact ⟨ls, line, [], rfl, h, markerOf_eq_opening.mp hm, by simp, rfl⟩
  · -- the block is complete
    rw [hin, if_pos rfl] at h
    obtain ⟨done, first, body, rfl, hdone, hfirst, hbody, hb64⟩ := h
    rw [hb64] at hder
    show BundleLines (done ++ first :: body ++ [line]) (st.certs ++ [der])
    rw [List.append_assoc, List.cons_append]
    exact hdone.append (.block hfirst hbody hder (markerOf_eq_closing.mp hm) .nil)
  · rw [hin, if_pos rfl] at h
    obtain ⟨done, first, body, rfl, hdone, hfirst, hbody, hb64⟩ := h
    have hnot := markerOf_eq_none.mp hm
    unfold Reads
    rw [show ({ st with b64 := st.b64 ++ Text.trim line } : PemState).inCert = true from hin,
      if_pos rfl]
    refine ⟨done, first, body ++ [line], by simp, hdone, hfirst, ?_, ?_⟩
    · intro l hl
      rcases List.mem_append.mp hl with hl | hl
      · exact hbody l hl
      · exact List.mem_singleton.mp hl ▸ hnot
    · simp [hb64]
  · unfold Reads
    rw [hin, if_neg Bool.false_ne_true] at h ⊢
    have houtside := h.append (.outside (markerOf_eq_none.mp hm) .nil)
    rwa [List.append_nil] at houtside

/-- As long as no block is reopened, the loop reads a bundle. -/
theorem reads_of_run {ls : List (List Char)} {st : PemState} (h : run ls = .ok st)
    (hopen : ¬ Reopens ls) : Reads ls st := by
  induction ls using List.reverseRecOn generalizing st with
  | nil =>
    have hst : ({ certs := [], inCert := false, b64 := [] } : PemState) = st :=
      Except.ok.inj h
    subst hst
    exact BundleLines.nil
  | append_singleton ls line ih =>
    obtain ⟨m, hm, hline⟩ := foldlM_concat_eq_ok.mp h
    rw [Reopens, atSomeLine_concat, not_or, ← Reopens] at hopen
    refine (ih hm hopen.1).step hline fun hbegin => ?_
    have hblock := openBlock_of_run hm
    cases hin : m.inCert with
    | false => rfl
    | true =>
      rw [hin, if_pos rfl] at hblock
      exact absurd ⟨hbegin, hblock ▸ rfl⟩ hopen.2

/-- The markers of a bundle take turns, with one BEGIN for each certificate. -/
theorem BundleLines.markers_eq {ls : List (List Char)} {ders : List Bytes}
    (h : BundleLines ls ders) :
    markers ls = (List.replicate ders.length [Marker.opening, Marker.closing]).flatten := by
  induction h with
  | nil => rfl
  | outside hline _ ih =>
    rw [markers, List.filterMap_cons_none (markerOf_eq_none.mpr hline)]
    exact ih
  | @block first last body rest der ders hfirst hbody hder hlast _ ih =>
    have hnone : body.filterMap markerOf = [] := by
      rw [List.filterMap_eq_nil_iff]
      exact fun line hline => markerOf_eq_none.mpr (hbody line hline)
    rw [markers, List.filterMap_cons_some (markerOf_eq_opening.mpr hfirst),
      List.filterMap_append, hnone, List.nil_append,
      List.filterMap_cons_some (markerOf_eq_closing.mpr hlast), ← markers, ih]
    rfl

/-! ## Lost certificates -/

/-- A text that is read as a bundle is one: its markers take turns, every BEGIN has its
certificate, and that is the base64 text up to the END. A text whose markers do not
take turns is rejected. -/
def NeverLoses (pem : String) : Prop :=
  (∀ certs, parsePemBundle pem = .ok certs →
    Alternates (markers (Text.lines pem.toList)) ∧
    certs.length = (markers (Text.lines pem.toList)).count .opening ∧ IsBundle pem certs) ∧
  (¬ Alternates (markers (Text.lines pem.toList)) → ∃ e, parsePemBundle pem = .error e)

/-- No certificate is lost exactly when no BEGIN line comes inside a block, or the text is
rejected for another reason: an END line that closes no block of base64, or a block that
is open at the end. -/
theorem neverLoses_iff (pem : String) :
    NeverLoses pem ↔ ¬ Reopens (Text.lines pem.toList) ∨ Misclosed (Text.lines pem.toList) ∨
      (openBlock (Text.lines pem.toList)).isSome = true := by
  have hbundle : ∀ certs, IsBundle pem certs → Alternates (markers (Text.lines pem.toList)) :=
    fun certs h => ⟨_, h.markers_eq⟩
  refine ⟨fun h => ?_, fun h => ?_⟩
  · by_contra hnot
    obtain ⟨hreopens, hnot⟩ := not_or.mp hnot
    obtain ⟨hclosed, hopen⟩ := not_or.mp hnot
    -- every other check passes, so the text is read without the lost block
    obtain ⟨st, hst⟩ := exists_run_iff.mpr hclosed
    have hblock := openBlock_of_run hst
    have hin : st.inCert = false := by
      by_contra hin
      rw [Bool.not_eq_false] at hin
      rw [hblock, hin] at hopen
      exact hopen rfl
    have hok := parsePemBundle_eq_ok.mpr ⟨st, hst, hin, rfl⟩
    exact (not_not.mp hreopens).not_alternates (h.1 _ hok).1
  · have hread : ∀ certs, parsePemBundle pem = .ok certs → IsBundle pem certs := by
      intro certs hok
      obtain ⟨st, hst, hin, rfl⟩ := parsePemBundle_eq_ok.mp hok
      rcases h with hreopens | hclosed | hopen
      · have hreads := reads_of_run hst hreopens
        unfold Reads at hreads
        rwa [hin, if_neg Bool.false_ne_true] at hreads
      · exact absurd hclosed (exists_run_iff.mp ⟨st, hst⟩)
      · rw [openBlock_of_run hst, hin] at hopen
        cases hopen
    refine ⟨fun certs hok => ?_, fun hnot => ?_⟩
    · have hcerts := hread certs hok
      refine ⟨hbundle certs hcerts, ?_, hcerts⟩
      rw [hcerts.markers_eq]
      simp [List.count_flatten]
    · rw [← not_ok_iff]
      rintro ⟨certs, hok⟩
      exact hnot (hbundle certs (hread certs hok))

end Loop

/-! ## Layouts -/

/-- A line that holds a text between white space. -/
def Holds (text line : List Char) : Prop :=
  '\n' ∉ line ∧ ∃ lead trail, (∀ c ∈ lead, Text.isWhitespace c = true) ∧
    (∀ c ∈ trail, Text.isWhitespace c = true) ∧ line = lead ++ (text ++ trail)

/-- Lines that PEM writes for a list of certificates: for each a BEGIN line, its base64
split at any places, and an END line; and any other lines between the blocks. -/
inductive Encodes : List (List Char) → List Bytes → Prop
  | nil : Encodes [] []
  | text {line : List Char} {rest : List (List Char)} {ders : List Bytes} :
      '\n' ∉ line → ¬ IsMarker line → Encodes rest ders → Encodes (line :: rest) ders
  | block {first last : List Char} {pieces body rest : List (List Char)} {der : Bytes}
      {ders : List Bytes} :
      Holds beginMarker first → List.Forall₂ Holds pieces body →
      pieces.flatten = Base64.encode .standard true der →
      Holds endMarker last → Encodes rest ders →
      Encodes (first :: (body ++ last :: rest)) (der :: ders)

inductive LineEnding where
  | lf
  | crlf
deriving DecidableEq

/-- What stands before the line feed. -/
def LineEnding.lead : LineEnding → List Char
  | .lf => []
  | .crlf => ['\r']

/-- A text of lines with their endings, and of what follows the last of them. -/
def render (ls : List (List Char × LineEnding)) (last : List Char) : List Char :=
  ls.flatMap (fun l => l.1 ++ (l.2.lead ++ ['\n'])) ++ last

theorem Holds.trim_eq {text line : List Char} (h : Holds text line) :
    Text.trim line = Text.trim text := by
  obtain ⟨-, lead, trail, hlead, htrail, rfl⟩ := h
  rw [Text.trim_append_left hlead, Text.trim_append_right htrail]

/-- The body of a written block joins to its base64 text, and holds no marker. -/
theorem trim_body {pieces body : List (List Char)} (h : List.Forall₂ Holds pieces body)
    (hplain : ∀ c ∈ pieces.flatten, Text.isWhitespace c = false ∧ c ≠ '-') :
    body.flatMap Text.trim = pieces.flatten ∧ ∀ line ∈ body, ¬ IsMarker line := by
  induction h with
  | nil => simp
  | @cons piece line pieces body hline _ ih =>
    rw [List.flatten_cons, List.forall_mem_append] at hplain
    obtain ⟨hpiece, hpieces⟩ := hplain
    obtain ⟨hjoin, hbody⟩ := ih hpieces
    have htrim : Text.trim line = piece :=
      hline.trim_eq.trans (Text.trim_of_forall fun c hc => (hpiece c hc).1)
    refine ⟨by rw [List.flatMap_cons, List.flatten_cons, htrim, hjoin], ?_⟩
    rw [List.forall_mem_cons]
    refine ⟨?_, hbody⟩
    -- a piece has no dash, a marker starts with one
    rw [IsMarker, htrim]
    rintro (heq | heq)
    · exact (hpiece '-' (heq ▸ (by decide : '-' ∈ beginMarker))).2 rfl
    · exact (hpiece '-' (heq ▸ (by decide : '-' ∈ endMarker))).2 rfl

theorem notMem_newline_of_holds {pieces body : List (List Char)}
    (h : List.Forall₂ Holds pieces body) : ∀ line ∈ body, '\n' ∉ line := by
  induction h with
  | nil => simp
  | cons hline _ ih =>
    rw [List.forall_mem_cons]
    exact ⟨hline.1, ih⟩

theorem Encodes.notMem_newline {ls : List (List Char)} {ders : List Bytes}
    (h : Encodes ls ders) : ∀ line ∈ ls, '\n' ∉ line := by
  induction h with
  | nil => simp
  | text hline _ _ ih =>
    rw [List.forall_mem_cons]
    exact ⟨hline, ih⟩
  | @block first last pieces body rest der ders hfirst hbody _ hlast _ ih =>
    rw [List.forall_mem_cons, List.forall_mem_append, List.forall_mem_cons]
    exact ⟨hfirst.1, notMem_newline_of_holds hbody, hlast.1, ih⟩

/-- The lines of a written text, up to the white space around them. -/
theorem map_trim_lines_render {ls : List (List Char × LineEnding)} {last : List Char}
    (hls : ∀ l ∈ ls, '\n' ∉ l.1) (hlast : '\n' ∉ last) :
    (Text.lines (render ls last)).map Text.trim
      = ls.map (fun l => Text.trim l.1) ++ (if last = [] then [] else [Text.trim last]) := by
  induction ls with
  | nil =>
    show (Text.lines last).map Text.trim = _
    rw [Text.lines_of_notMem hlast]
    by_cases hempty : last = []
    · rw [if_pos hempty, if_pos hempty]
      rfl
    · rw [if_neg hempty, if_neg hempty]
      rfl
  | cons l ls ih =>
    obtain ⟨line, ending⟩ := l
    rw [List.forall_mem_cons] at hls
    have hspace : ∀ c ∈ ending.lead, Text.isWhitespace c = true := by
      cases ending with
      | lf => exact List.forall_mem_nil _
      | crlf => exact List.forall_mem_singleton.mpr rfl
    have hnewline : '\n' ∉ line ++ ending.lead := by
      rw [List.mem_append, not_or]
      exact ⟨hls.1, by cases ending <;> decide⟩
    have hrender : render ((line, ending) :: ls) last
        = (line ++ ending.lead) ++ '\n' :: render ls last := by
      simp [render]
    rw [hrender, Text.lines_append_newline hnewline, List.map_cons, Text.trim_stripCr,
      Text.trim_append_right hspace, ih hls.2]
    rfl

section RoundTrip

variable [Crates]

/-- What PEM writes is a bundle. -/
theorem Encodes.bundleLines (hb64 : Crates.Base64Documented) {ls : List (List Char)}
    {ders : List Bytes} (h : Encodes ls ders) : BundleLines ls ders := by
  induction h with
  | nil => exact .nil
  | text _ hline _ ih => exact .outside hline ih
  | @block first last pieces body rest der ders hfirst hbody hpieces hlast _ ih =>
    have hplain : ∀ c ∈ pieces.flatten, Text.isWhitespace c = false ∧ c ≠ '-' := by
      intro c hc
      rw [hpieces] at hc
      obtain ⟨hspace, -, -, hdash⟩ := base64Line_plain der c hc
      exact ⟨hspace, hdash⟩
    obtain ⟨hjoin, hmarkers⟩ := trim_body hbody hplain
    refine .block (hfirst.trim_eq.trans (by decide)) hmarkers ?_
      (hlast.trim_eq.trans (by decide)) ih
    rw [hb64.decode_iff, String.toList_ofList, hjoin, hpieces]

/-- The loop sees a line without the white space around it. -/
theorem pemLine_congr {line line' : List Char} (h : Text.trim line = Text.trim line')
    (st : PemState) : pemLine st line = pemLine st line' := by
  rw [pemLine, pemLine, h]

theorem run_congr {ls ls' : List (List Char)} (h : ls.map Text.trim = ls'.map Text.trim) :
    run ls = run ls' := by
  unfold run
  generalize ({ certs := [], inCert := false, b64 := [] } : PemState) = st
  induction ls generalizing ls' st with
  | nil =>
    rw [List.map_nil, eq_comm, List.map_eq_nil_iff] at h
    rw [h]
  | cons line ls ih =>
    cases ls' with
    | nil => simp at h
    | cons line' ls' =>
      rw [List.map_cons, List.map_cons, List.cons.injEq] at h
      rw [List.foldlM_cons, List.foldlM_cons, pemLine_congr h.1]
      exact congrArg _ (funext fun st' => ih h.2 st')

/-- A blank line at the end changes nothing. -/
theorem run_concat_nil (ls : List (List Char)) : run (ls ++ [[]]) = run ls := by
  have hblank : ∀ st, pemLine st [] = .ok st := by
    intro st
    have htrim : Text.trim [] = [] := rfl
    rw [pemLine, htrim, if_neg (by decide), if_neg (by decide), if_neg (by simp)]
  rw [run, List.foldlM_append, ← run]
  cases run ls with
  | error e => rfl
  | ok st =>
    show [[]].foldlM pemLine st = .ok st
    rw [List.foldlM_cons, hblank, ok_bind]
    rfl

/-- Decoding undoes encoding: however its lines are split, padded with white space, ended
and mixed with other text, a bundle is read as the certificates that were written. -/
theorem parsePemBundle_render (hb64 : Crates.Base64Documented)
    (ls : List (List Char × LineEnding)) (last : List Char) (ders : List Bytes)
    (h : Encodes (ls.map Prod.fst ++ [last]) ders) :
    parsePemBundle (String.ofList (render ls last)) = .ok ders := by
  have hnewline := h.notMem_newline
  rw [List.forall_mem_append, List.forall_mem_map, List.forall_mem_singleton] at hnewline
  have hlines := map_trim_lines_render hnewline.1 hnewline.2
  have hrun : run (Text.lines (render ls last)) = run (ls.map Prod.fst ++ [last]) := by
    by_cases hempty : last = []
    · rw [hempty, run_concat_nil, ← hempty]
      apply run_congr
      rw [hlines, if_pos hempty, List.append_nil, List.map_map]
      rfl
    · apply run_congr
      rw [hlines, if_neg hempty, List.map_append, List.map_map]
      rfl
  obtain ⟨b64, hfold⟩ := foldlM_pemLine_of_bundle (h.bundleLines hb64) [] []
  rw [parsePemBundle_eq_ok]
  refine ⟨{ certs := ders, inCert := false, b64 }, ?_, rfl, rfl⟩
  rw [String.toList_ofList, hrun]
  exact hfold

end RoundTrip

section Reference

open Reference

attribute [local instance] crates

/-- `hello` and the empty string, with other text, both line endings, a blank line and
white space around the lines. -/
def helloLines : List (List Char × LineEnding) :=
  [("chain".toList, .lf), (' ' :: beginMarker, .crlf), ("aGVs".toList, .lf), ([], .crlf),
    ("\tbG8= ".toList, .lf), (endMarker, .lf), (beginMarker, .crlf)]

theorem encodes_helloLines :
    Encodes (helloLines.map Prod.fst ++ [endMarker]) [[104, 101, 108, 108, 111], []] := by
  have hplain : ∀ text, '\n' ∉ text → Holds text text :=
    fun text h => ⟨h, [], [], by simp, by simp, by simp⟩
  have hbegin : Holds beginMarker (' ' :: beginMarker) :=
    ⟨by decide, [' '], [], List.forall_mem_singleton.mpr rfl, by simp, by simp⟩
  have hsecond : Holds "bG8=".toList "\tbG8= ".toList :=
    ⟨by decide, ['\t'], [' '], List.forall_mem_singleton.mpr rfl,
      List.forall_mem_singleton.mpr rfl, by decide⟩
  have hbody : List.Forall₂ Holds ["aGVs".toList, [], "bG8=".toList]
      ["aGVs".toList, [], "\tbG8= ".toList] :=
    .cons (hplain _ (by decide)) (.cons (hplain _ (by decide)) (.cons hsecond .nil))
  have hempty : Encodes (beginMarker :: ([] ++ endMarker :: [])) [[]] :=
    .block (hplain _ (by decide)) .nil (by decide) (hplain _ (by decide)) .nil
  have hhello : Encodes ((' ' :: beginMarker) :: (["aGVs".toList, [], "\tbG8= ".toList] ++
      endMarker :: (beginMarker :: ([] ++ endMarker :: [])))) [[104, 101, 108, 108, 111], []] :=
    .block hbegin hbody (by decide) (hplain _ (by decide)) hempty
  exact .text (by decide) (markerOf_eq_none.mp (by decide)) hhello

theorem parsePemBundle_render_hello :
    parsePemBundle (String.ofList (render helloLines endMarker))
      = .ok [[104, 101, 108, 108, 111], []] :=
  parsePemBundle_render base64Documented helloLines endMarker _ encodes_helloLines

/-- A block of `hello` that is cut off, and a whole block of `world` behind it. -/
def cutBundle : String :=
  String.ofList (beginMarker ++ '\n' :: ("aGVsbG8=".toList ++
    '\n' :: pemBlock [119, 111, 114, 108, 100]))

theorem lines_cutBundle : Text.lines cutBundle.toList = [beginMarker, "aGVsbG8=".toList,
    beginMarker, Base64.encode .standard true [119, 111, 114, 108, 100], endMarker] := by
  have hblock := lines_pemBlock [119, 111, 114, 108, 100] []
  rw [List.append_nil] at hblock
  rw [cutBundle, String.toList_ofList, Text.lines_append_newline (by decide),
    Text.lines_append_newline (by decide), hblock]
  rfl

/-- The first block is lost. -/
theorem not_neverLoses_cutBundle :
    parsePemBundle cutBundle = .ok [[119, 111, 114, 108, 100]] ∧ ¬ NeverLoses cutBundle := by
  have hworld := base64Line_not_marker [119, 111, 114, 108, 100]
  have hbegin : Text.trim beginMarker = beginMarker := by decide
  have hend : Text.trim endMarker = endMarker := by decide
  have hhello : ¬ IsMarker "aGVsbG8=".toList := markerOf_eq_none.mp (by decide)
  have hparse : parsePemBundle cutBundle = .ok [[119, 111, 114, 108, 100]] := by
    have hbundle := isBundle_pemText base64Documented [[119, 111, 114, 108, 100]]
    rw [IsBundle, pemText, String.toList_ofList, List.flatMap_singleton,
      ← List.append_nil (pemBlock _), lines_pemBlock] at hbundle
    obtain ⟨b64, hfold⟩ := foldlM_pemLine_of_bundle hbundle [] []
    rw [parsePemBundle_eq_ok]
    refine ⟨{ certs := [[119, 111, 114, 108, 100]], inCert := false, b64 }, ?_, rfl, rfl⟩
    rw [lines_cutBundle, run, List.foldlM_cons, pemLine_begin hbegin, ok_bind, List.foldlM_cons,
      pemLine_inside hhello rfl, ok_bind]
    -- the second BEGIN starts over, as if nothing came before it
    rw [List.foldlM_cons, pemLine_begin hbegin, ok_bind] at hfold ⊢
    exact hfold
  refine ⟨hparse, fun h => ?_⟩
  have hmarkers : markers (Text.lines cutBundle.toList) = [.opening, .opening, .closing] := by
    rw [lines_cutBundle, markers, List.filterMap_cons_some (markerOf_eq_opening.mpr hbegin),
      List.filterMap_cons_none (markerOf_eq_none.mpr hhello),
      List.filterMap_cons_some (markerOf_eq_opening.mpr hbegin),
      List.filterMap_cons_none (markerOf_eq_none.mpr hworld),
      List.filterMap_cons_some (markerOf_eq_closing.mpr hend), List.filterMap_nil]
  exact (h.1 _ hparse).1.no_reopening [] [.closing] hmarkers

end Reference

end AmdAttestation
end Sifir
