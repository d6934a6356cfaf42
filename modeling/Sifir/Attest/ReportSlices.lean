import Sifir.Attest.Report
import Sifir.Lib.Slices

/-!
# The accessors with their bounds checks (`sifir-attest/src/report.rs`)

The accessors of `Report`, with the checks that slices, array conversions and copies make
when the program runs. A check that fails is a panic.
-/

namespace Sifir
namespace Report
namespace Checked

open Lib Slices

def version (r : Report) : Except Panic UInt32 := do
  let bytes ← arrayAt r.raw offVersion (offVersion + 4) 4
  return UInt32.ofNat (Ecdsa.leNat bytes.toList)

def reportData (r : Report) : Except Panic (Vector UInt8 reportDataSize) :=
  arrayAt r.raw offReportData (offReportData + reportDataSize) reportDataSize

def measurement (r : Report) : Except Panic (Vector UInt8 measurementSize) :=
  arrayAt r.raw offMeasurement (offMeasurement + measurementSize) measurementSize

def chipId (r : Report) : Except Panic (Vector UInt8 chipIdSize) :=
  arrayAt r.raw offChipId (offChipId + chipIdSize) chipIdSize

def sigR (r : Report) : Except Panic (Vector UInt8 sigScalarSize) :=
  arrayAt r.raw offSigR (offSigR + sigScalarSize) sigScalarSize

def sigS (r : Report) : Except Panic (Vector UInt8 sigScalarSize) :=
  arrayAt r.raw offSigS (offSigS + sigScalarSize) sigScalarSize

def signedRegion (r : Report) : Except Panic Bytes := slice r.raw.toList 0 signedRegionSize

def setSigR (r : Report) (s : Vector UInt8 sigScalarSize) : Except Panic Report := do
  let raw ← copyAt r.raw offSigR (offSigR + sigScalarSize) s
  return { r with raw }

def setSigS (r : Report) (s : Vector UInt8 sigScalarSize) : Except Panic Report := do
  let raw ← copyAt r.raw offSigS (offSigS + sigScalarSize) s
  return { r with raw }

end Checked
end Report
end Sifir
