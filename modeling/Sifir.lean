import Sifir.Lib.Results
import Sifir.Lib.Machines
import Sifir.Lib.Windows
import Sifir.Lib.Layout
import Sifir.Lib.Slices
import Sifir.Lib.Ecdsa
import Sifir.Lib.Hex
import Sifir.Lib.Base64
import Sifir.Lib.Json
import Sifir.Lib.TrustChain
import Sifir.Lib.JsonTheorems
import Sifir.Lib.JsonEscapes
import Sifir.Lib.Text
import Sifir.Crates
import Sifir.Attest.Report
import Sifir.Attest.ReportSlices
import Sifir.Attest.ReportTheorems
import Sifir.Attest.Mock
import Sifir.Attest.AmdCerts
import Sifir.Attest.AmdCertsTheorems
import Sifir.Attest.Verify
import Sifir.Attest.VerifyTheorems
import Sifir.Attest.AmdSignatureTheorems
import Sifir.Lib.Serde
import Sifir.Lib.Decimal
import Sifir.Attest.AttestExt
import Sifir.Client.GpuVerify
import Sifir.Client.Verifier
import Sifir.Client.GpuVerifyTheorems
import Sifir.Client.GpuClaimsTheorems
import Sifir.Client.Request
import Sifir.Client.Main
import Sifir.Attest.AttestExtTheorems
import Sifir.Client.VerifierTheorems
import Sifir.Server.AmdAttestation
import Sifir.Server.GpuAttestation
import Sifir.Server.Tls
import Sifir.Server.Proxy
import Sifir.Server.Main
import Sifir.Server.AmdAttestationTheorems
import Sifir.Server.PemTheorems
import Sifir.Attest.MockTheorems
import Sifir.Server.TlsTheorems
import Sifir.Server.MainTheorems
import Sifir.Server.ProxyTheorems
import Sifir.Client.MainTheorems
import Sifir.Inference.GpuAttest
import Sifir.Inference.Server
import Sifir.Inference.ServerTheorems
import Sifir.Inference.GpuAttestTheorems
import Sifir.Server.SidecarTheorems
import Sifir.Server.AcceptanceTheorems
import Sifir.Server.Serve
import Sifir.Server.ServeTheorems
import Sifir.Client.Session
import Sifir.Client.SessionTheorems
import Sifir.Client.TakeoverTheorems
import Sifir.Server.DeploymentTheorems
import Sifir.Server.DisclosureTheorems
import Sifir.Reference
