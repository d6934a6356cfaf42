import Sifir.Attest.ReportSlices

/-!
# The report as a record

The fields of a report, each with its place, make a `layout`, and each accessor tells two
reports apart exactly by the bytes of its field (`get_eq_iff`). So the setters change
their own field only (`writesOnly_write`) and what is signed determines the fields the
checks read. No accessor panics (`neverPanics`).
-/

namespace Sifir
namespace Report

open Lib Results Windows Slices

/-! ## Fields -/

namespace Field

/-- What the accessor of a field returns. -/
abbrev Value : Field → Type
  | version => UInt32
  | reportData => Vector UInt8 reportDataSize
  | measurement => Vector UInt8 measurementSize
  | chipId => Vector UInt8 chipIdSize
  | sigR => Vector UInt8 sigScalarSize
  | sigS => Vector UInt8 sigScalarSize

def get : (f : Field) → Report → f.Value
  | version => Report.version
  | reportData => Report.reportData
  | measurement => Report.measurement
  | chipId => Report.chipId
  | sigR => Report.sigR
  | sigS => Report.sigS

def checkedGet : (f : Field) → Report → Except Panic f.Value
  | version => Checked.version
  | reportData => Checked.reportData
  | measurement => Checked.measurement
  | chipId => Checked.chipId
  | sigR => Checked.sigR
  | sigS => Checked.sigS

end Field

/-! ## Reading -/

/-- Four bytes are told apart by the integer they are read as. -/
theorem ofNat_leNat_inj {a b : Vector UInt8 4} :
    UInt32.ofNat (Ecdsa.leNat a.toList) = UInt32.ofNat (Ecdsa.leNat b.toList) ↔ a = b := by
  have htoNat : ∀ v : Vector UInt8 4,
      (UInt32.ofNat (Ecdsa.leNat v.toList)).toNat = Ecdsa.leNat v.toList := by
    intro v
    have hlt := Ecdsa.leNat_lt v.toList
    rw [Vector.length_toList] at hlt
    exact UInt32.toNat_ofNat_of_lt' hlt
  have hlen : a.toList.length = b.toList.length := by
    rw [Vector.length_toList, Vector.length_toList]
  rw [← UInt32.toNat_inj, htoNat, htoNat, Ecdsa.leNat_inj hlen, Vector.toList_inj]

/-- An accessor returns the same for two reports exactly when its field is the same. -/
theorem get_eq_iff_read (f : Field) (a b : Report) :
    f.get a = f.get b ↔ layout.read a.raw f = layout.read b.raw f := by
  cases f with
  | version => exact ofNat_leNat_inj
  | reportData => exact Iff.rfl
  | measurement => exact Iff.rfl
  | chipId => exact Iff.rfl
  | sigR => exact Iff.rfl
  | sigS => exact Iff.rfl

theorem get_eq_iff (f : Field) (a b : Report) :
    f.get a = f.get b ↔ AgreeOn a.raw b.raw f.off (f.off + f.len) :=
  (get_eq_iff_read f a b).trans (agreeOn_iff (layout.fits f)).symm

/-- A field in front of the signature is a function of what is signed. -/
theorem get_factorsThrough_signedRegion {f : Field} (h : f.off + f.len ≤ signedRegionSize) :
    Function.FactorsThrough f.get signedRegion := by
  intro a b hsigned
  have hagree : AgreeOn a.raw b.raw 0 (0 + 672) := (agreeOn_iff signedRegion_fits).mpr hsigned
  rw [get_eq_iff]
  intro i hi hlo hhi
  exact hagree i hi (Nat.zero_le i) (Nat.lt_of_lt_of_le hhi h)

/-! ## Writing -/

/-- A write changes nothing but the scalar of one signature field: not the signed region,
no other field, no byte elsewhere, so neither the padding behind the scalars nor the other
signature field. -/
structure WritesOnly (f : Field) (before after : Report) : Prop where
  signedRegion_eq : after.signedRegion = before.signedRegion
  get_eq : ∀ g ≠ f, g.get after = g.get before
  byte_eq : ∀ (i : ℕ) (_ : i < reportSize), i ∉ layout.range f → after.raw[i] = before.raw[i]
  padding_eq : ∀ off ∈ [offSigR, offSigS],
    AgreeOn after.raw before.raw (off + sigScalarSize) (off + sigComponentField)
  component_eq : ∀ off ∈ [offSigR, offSigS], off ≠ f.off →
    AgreeOn after.raw before.raw off (off + sigComponentField)

theorem writesOnly_write (report : Report) {f : Field} (hf : f = .sigR ∨ f = .sigS)
    (w : Vector UInt8 f.len) :
    WritesOnly f report { raw := layout.write report.raw f w } := by
  have hclear : ∀ lo hi, hi ≤ f.off ∨ f.off + f.len ≤ lo →
      AgreeOn (layout.write report.raw f w) report.raw lo hi :=
    fun lo hi hd => agreeOn_overwrite report.raw w (layout.fits f) hd
  have hregion : 0 + 672 ≤ f.off := by
    rcases hf with rfl | rfl
    · decide
    · decide
  have hpadding : ∀ off ∈ [offSigR, offSigS],
      off + sigComponentField ≤ f.off ∨ f.off + f.len ≤ off + sigScalarSize := by
    rcases hf with rfl | rfl
    · decide
    · decide
  have hcomponent : ∀ off ∈ [offSigR, offSigS], off ≠ f.off →
      off + sigComponentField ≤ f.off ∨ f.off + f.len ≤ off := by
    rcases hf with rfl | rfl
    · decide
    · decide
  exact {
    signedRegion_eq := (agreeOn_iff signedRegion_fits).mp (hclear _ _ (Or.inl hregion))
    get_eq := fun g hg => (get_eq_iff_read g _ _).mpr (layout.read_write_of_ne report.raw w hg)
    byte_eq := fun i hi h => layout.getElem_write_of_notMem report.raw w hi h
    padding_eq := fun off hoff => hclear _ _ (hpadding off hoff)
    component_eq := fun off hoff hne => hclear _ _ (hcomponent off hoff hne) }

section

variable (report : Report) (r s : Vector UInt8 sigScalarSize)

theorem writesOnly_setSigR : WritesOnly .sigR report (report.setSigR r) :=
  writesOnly_write report (Or.inl rfl) r

theorem writesOnly_setSigS : WritesOnly .sigS report (report.setSigS s) :=
  writesOnly_write report (Or.inr rfl) s

theorem setSig_comm : (report.setSigR r).setSigS s = (report.setSigS s).setSigR r := by
  have hraw := layout.write_comm report.raw (f := .sigR) (g := .sigS) r s (by decide)
  exact congrArg Report.mk hraw

end

/-! ## Panics -/

/-- With their bounds checks, the accessors return what they return without. -/
structure NeverPanics (report : Report) : Prop where
  get : ∀ f : Field, f.checkedGet report = .ok (f.get report)
  signedRegion : Checked.signedRegion report = .ok report.signedRegion.toList
  setSigR : ∀ r, Checked.setSigR report r = .ok (report.setSigR r)
  setSigS : ∀ s, Checked.setSigS report s = .ok (report.setSigS s)

theorem checkedGet_eq (f : Field) (report : Report) :
    f.checkedGet report = .ok (f.get report) := by
  have hread := arrayAt_field layout report.raw
  cases f with
  | version => exact bind_eq_ok.mpr ⟨_, hread .version, rfl⟩
  | reportData => exact hread .reportData
  | measurement => exact hread .measurement
  | chipId => exact hread .chipId
  | sigR => exact hread .sigR
  | sigS => exact hread .sigS

theorem neverPanics (report : Report) : NeverPanics report where
  get f := checkedGet_eq f report
  signedRegion := slice_toList_eq_ok report.raw signedRegion_fits
  setSigR r := bind_eq_ok.mpr ⟨_, copyAt_field layout report.raw .sigR r, rfl⟩
  setSigS s := bind_eq_ok.mpr ⟨_, copyAt_field layout report.raw .sigS s, rfl⟩

/-! ## The record -/

/-- For every report and all scalars: the setters commute, both scalars read back, each
setter changes its own scalar only, the fields in front of the signature are functions of
what is signed, the accessors read disjoint places, and nothing panics. -/
theorem lawful_record (report : Report) (r s : Vector UInt8 sigScalarSize) :
    (report.setSigR r).setSigS s = (report.setSigS s).setSigR r ∧
    ((report.setSigR r).setSigS s).sigR = r ∧ ((report.setSigR r).setSigS s).sigS = s ∧
    WritesOnly .sigR report (report.setSigR r) ∧ WritesOnly .sigS report (report.setSigS s) ∧
    (∀ f ∈ [Field.version, Field.reportData, Field.measurement, Field.chipId],
      Function.FactorsThrough f.get signedRegion) ∧
    (∀ (f : Field) (a b : Report),
      f.get a = f.get b ↔ AgreeOn a.raw b.raw f.off (f.off + f.len)) ∧
    Pairwise (Function.onFun Disjoint layout.range) ∧
    NeverPanics report := by
  refine ⟨setSig_comm report r s, sigR_setSig report r s, sigS_setSig report r s,
    writesOnly_setSigR report r, writesOnly_setSigS report s, fun f hf => ?_, get_eq_iff,
    layout.pairwise_disjoint_range, neverPanics report⟩
  have hsigned : ∀ f ∈ [Field.version, Field.reportData, Field.measurement, Field.chipId],
      f.off + f.len ≤ signedRegionSize := by decide
  exact get_factorsThrough_signedRegion (hsigned f hf)

end Report
end Sifir
