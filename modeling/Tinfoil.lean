import Tinfoil.Transition
import Tinfoil.Ehbp.History
import Tinfoil.Ehbp.TrustOrdering
import Tinfoil.Ehbp.Replay
import Tinfoil.Ehbp.Lock
import Tinfoil.Client.SecureClient
import Tinfoil.Client.FailClosed
import Tinfoil.MerkleTree
import Tinfoil.Sigstore.Merkle
import Tinfoil.Base64
import Tinfoil.Json.Value
import Tinfoil.Sigstore.Trust
import Tinfoil.Text
import Tinfoil.Sigstore.Checkpoint
import Tinfoil.Sigstore.Dsse
import Tinfoil.Sigstore.Rekor
import Tinfoil.Sigstore.Acceptance
import Tinfoil.Sigstore.SigningTime
import Tinfoil.Sigstore.SchemaBinding
import Tinfoil.Sigstore.TreeSize
import Tinfoil.Json.Tree
import Tinfoil.Json.Parser
import Tinfoil.Json.Decode
import Tinfoil.Json.Writer
import Tinfoil.UserCacheSecret.Scan
import Tinfoil.UserCacheSecret.Inject
import Tinfoil.Directory
import Tinfoil.UserCacheSecret.Persist
import Tinfoil.UserCacheSecret.Converge
import Tinfoil.Framing
import Tinfoil.Generator
import Tinfoil.Sse.Stream
import Tinfoil.Sse.Chunking
import Tinfoil.Sse.Failures
import Tinfoil.Sigstore.CheckpointText
import Tinfoil.Attestation.Document
import Tinfoil.Client.Published
import Tinfoil.Sigstore.InclusionFaults
import Tinfoil.Ehbp.OneRefresh
import Tinfoil.Der
import Tinfoil.Sigstore.Certificate
import Tinfoil.Sigstore.Envelope
import Tinfoil.Regex
import Tinfoil.Sigstore.Identity
import Tinfoil.Bits
import Tinfoil.Sev.Words
import Tinfoil.Sev.Report
import Tinfoil.Sev.Vcek
import Tinfoil.Sev.Validation
import Tinfoil.Sev.Signature
import Tinfoil.Base32
import Tinfoil.Dcode
import Tinfoil.Sev.Strictness
import Tinfoil.Attestation.Measurement
import Tinfoil.ReadThrough
import Tinfoil.Sev.Cache
import Tinfoil.Sigstore.Fulcio
import Tinfoil.ByKey
import Tinfoil.Sigstore.Keyring
import Tinfoil.MerkleConsistency
import Tinfoil.Sigstore.Consistency
import Tinfoil.LengthPrefixed
import Tinfoil.Sigstore.CertificateInfo
import Tinfoil.Sigstore.Provenance
import Tinfoil.Attestation.Verify
import Tinfoil.Client.Attest
import Tinfoil.Client.Trusted
import Tinfoil.Client.Complete
import Tinfoil.Client.Discovery
import Tinfoil.Client.Wire
import Tinfoil.Fetch
import Tinfoil.UserCacheSecret.Shared
import Tinfoil.Attestation.RootOfTrust
import Tinfoil.Ehbp.Ending
