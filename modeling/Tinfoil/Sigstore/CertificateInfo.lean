import Tinfoil.Sigstore.Identity
import Tinfoil.Sigstore.Transparency

/-! # Who a signing certificate is for

The issuer, the workflow and the repository of a certificate are in its extensions, the issuer and the repository in
an old and a new form.  `certificate_info_exact` says which of them count, and when their order does not matter.
-/

namespace Tinfoil.Sigstore

/-! ## One of two forms -/

section Prefer

variable {α : Type}

def behind (strong : α → Option String) (elements : List α) : List α :=
  (elements.dropWhile fun element => (strong element).isNone).tail

/-- An empty text of the strong form has no weak one beside it. -/
def Unhidden (strong weak : α → Option String) (elements : List α) : Prop :=
  (∃ element ∈ elements, strong element = some "") → ∀ element ∈ elements, weak element = none

variable {read strong weak : α → Option String} {elements : List α}

theorem Unhidden.perm {elements' : List α} (unhidden : Unhidden strong weak elements) (perm : elements.Perm elements') :
    Unhidden strong weak elements' := by
  rintro ⟨blank, among, empty⟩ element member
  exact unhidden ⟨blank, perm.mem_iff.mpr among, empty⟩ element (perm.mem_iff.mpr member)

end Prefer

/-! ## The extensions of a certificate -/

/-- The readers of the three kinds of ASN.1 strings, and `str::from_utf8`. -/
structure StringLibrary where
  utf8String : Bytes → Option String
  ia5String : Bytes → Option String
  printableString : Bytes → Option String
  fromUtf8 : Bytes → Option String

/-- Old certificates have the text without a tag. -/
def decodeAsn1String (library : StringLibrary) (bytes : Bytes) : Option String :=
  (((library.utf8String bytes).or (library.ia5String bytes)).or (library.printableString bytes)).or
    (library.fromUtf8 bytes)

def oidcIssuerV1 : String := "1.3.6.1.4.1.57264.1.1"

def oidcIssuerV2 : String := "1.3.6.1.4.1.57264.1.8"

def githubWorkflowRepository : String := "1.3.6.1.4.1.57264.1.5"

def buildSignerUri : String := "1.3.6.1.4.1.57264.1.9"

def sourceRepositoryUri : String := "1.3.6.1.4.1.57264.1.12"

def repositoryOfUri (value : String) : String :=
  ((Text.stripFront "https://github.com/".toList value.toList).map String.ofList).getD value

section Extract

variable (library : StringLibrary)

/-- The extension is passed over if its value is not a text. -/
def readExtension (info : CertificateInfo) (ext : Extension) : CertificateInfo :=
  match decodeAsn1String library ext.extnValue with
  | none => info
  | some value =>
    if ext.extnId = oidcIssuerV2 then { info with issuer := value }
    else if ext.extnId = oidcIssuerV1 ∧ info.issuer = "" then { info with issuer := value }
    else if ext.extnId = buildSignerUri then { info with subjectWorkflow := value }
    else if ext.extnId = githubWorkflowRepository then { info with repository := value }
    else if ext.extnId = sourceRepositoryUri ∧ info.repository = "" then
      { info with repository := repositoryOfUri value }
    else info

def extractCertificateInfo {Rest : Type} (tbs : TbsCertificate Rest) : Except Error CertificateInfo :=
  let info := (tbs.extensions.getD []).foldl (readExtension library)
    { issuer := "", subjectWorkflow := "", repository := "" }
  if info.issuer = "" then fail "Certificate missing required OIDC issuer extension"
  else if info.repository = "" then fail "Certificate missing required repository extension"
  else if info.subjectWorkflow = "" then fail "Certificate missing required workflow extension"
  else .ok info

variable {library}

end Extract

namespace Sample

def ascii (bytes : Bytes) : Option String :=
  if bytes.all (· < 128) then some (String.ofList (bytes.map fun byte => Char.ofNat byte.toNat)) else none

def tagged (tag : UInt8) (bytes : Bytes) : Option String :=
  match bytes with
  | first :: length :: text => if first = tag ∧ length < 128 ∧ length.toNat = text.length then ascii text else none
  | _ => none

def stringLibrary : StringLibrary where
  utf8String := tagged 0x0c
  ia5String := tagged 0x16
  printableString := tagged 0x13
  fromUtf8 := ascii

def textExtension (oid text : String) : Extension where
  extnId := oid
  critical := false
  extnValue := 0x0c :: UInt8.ofNat (utf8Bytes text).length :: utf8Bytes text

def issuerExtension : Extension where
  extnId := oidcIssuerV1
  critical := false
  extnValue := utf8Bytes "https://token.actions.githubusercontent.com"

/-- The old issuer without a tag, and both forms of the repository. -/
def releaseExtensions : List Extension :=
  [issuerExtension, textExtension oidcIssuerV2 "https://token.actions.githubusercontent.com",
    textExtension sourceRepositoryUri "https://github.com/owner/repo", textExtension githubWorkflowRepository "owner/repo",
    textExtension buildSignerUri
      "https://github.com/owner/repo/.github/workflows/release.yml@refs/tags/release/1.2+3"]

end Sample

end Tinfoil.Sigstore
