import Tinfoil.Regex
import Tinfoil.Text
import Tinfoil.Sigstore.Certificate

/-! # The identity of a signing certificate

`verifyCertificateIdentity` matches a workflow against a pattern made of the repository and the tag.
`identity_exact` says which certificates that accepts, and that each is accepted for one release only.
-/

namespace Tinfoil.Sigstore

structure CertificateInfo where
  issuer : String
  subjectWorkflow : String
  repository : String
  deriving DecidableEq, Repr

structure RegexLibrary (Compiled : Type) where
  escape : String → String
  new : String → Except String Compiled
  isMatch : Compiled → String → Bool
  WithinSizeLimit : String → Prop

/-- What the library documents, for the patterns that `Regex.parse` reads. -/
structure RegexLibrary.Documented {Compiled : Type} (library : RegexLibrary Compiled) : Prop where
  escape : ∀ text, (library.escape text).toList = Regex.escape text.toList
  new : ∀ pattern expr, Regex.parse pattern.toList = some expr → library.WithinSizeLimit pattern →
    ∃ compiled, library.new pattern = .ok compiled
  isMatch : ∀ pattern expr compiled, Regex.parse pattern.toList = some expr →
    library.new pattern = .ok compiled → ∀ text, library.isMatch compiled text ↔ expr.Found text.toList

section Identity

variable {Compiled : Type} (library : RegexLibrary Compiled)

def gitHubActions : String := "https://token.actions.githubusercontent.com"

def workflowPattern (expectedRepo expectedTag : String) : String :=
  "^https://github\\.com/" ++ library.escape expectedRepo ++ "/\\.github/workflows/[^@]+@refs/tags/" ++
    library.escape expectedTag ++ "$"

def verifyCertificateIdentity (certInfo : CertificateInfo) (expectedRepo expectedTag : String) :
    Except Error Unit :=
  if certInfo.issuer ≠ gitHubActions then
    fail ("Certificate not from GitHub Actions. Issuer: " ++ certInfo.issuer)
  else if certInfo.repository ≠ expectedRepo then
    fail ("Certificate repository does not match. Expected: " ++ expectedRepo ++ ", Got: " ++
      certInfo.repository)
  else do
    let re ← orFail "Invalid regex: " (library.new (workflowPattern library expectedRepo expectedTag))
    if !library.isMatch re certInfo.subjectWorkflow then
      fail ("Certificate workflow doesn't match expected pattern. Expected repo: " ++ expectedRepo ++
        ", Got: " ++ certInfo.subjectWorkflow)

/-! ## The workflows of a release -/

/-- A workflow of the repository, run for the tag. -/
def ReleaseWorkflow (repo tag workflow : String) : Prop :=
  ∃ file : String, file ≠ "" ∧ '@' ∉ file.toList ∧
    workflow = "https://github.com/" ++ repo ++ "/.github/workflows/" ++ file ++ "@refs/tags/" ++ tag

/-- Tags with an `@` or slashes included, a workflow is of one tag: the first `@` after the file ends it. -/
theorem ReleaseWorkflow.tag_unique {repo tag tag' workflow : String} (release : ReleaseWorkflow repo tag workflow)
    (release' : ReleaseWorkflow repo tag' workflow) : tag = tag' := by
  obtain ⟨file, -, absent, whole⟩ := release
  obtain ⟨file', -, absent', whole'⟩ := release'
  have texts := congrArg String.toList (whole.symm.trans whole')
  simp only [String.toList_append, List.append_assoc, String.reduceToList] at texts
  obtain ⟨-, tails⟩ := Text.append_separator_inj absent absent'
    (List.append_cancel_left (List.append_cancel_left (List.append_cancel_left texts)))
  exact String.toList_injective (List.append_cancel_left tails)

def workflowExpr (repo tag : String) : Regex.Expr :=
  .seq .start (.literally ("https://github.com/" ++ repo ++ "/.github/workflows/").toList
    (.seq (.many (.except '@')) (.literally ("@refs/tags/" ++ tag).toList (.seq .finish .empty))))

theorem found_workflowExpr_iff {repo tag workflow : String} :
    (workflowExpr repo tag).Found workflow.toList ↔ ReleaseWorkflow repo tag workflow := by
  rw [workflowExpr, Regex.Expr.found_anchored_iff]
  constructor
  · intro parts
    obtain ⟨between, present, absent, whole⟩ := parts
    refine ⟨String.ofList between, fun empty => ?_, ?_, String.toList_injective ?_⟩
    · have nothing := congrArg String.toList empty
      rw [String.toList_ofList] at nothing
      exact present nothing
    · rwa [String.toList_ofList]
    · rw [whole]
      simp only [String.toList_append, String.toList_ofList, List.append_assoc]
  · intro release
    obtain ⟨file, present, absent, whole⟩ := release
    refine ⟨file.toList, fun empty => present (String.toList_injective empty), absent, ?_⟩
    rw [whole]
    simp only [String.toList_append, List.append_assoc]

variable {library}

theorem parse_workflowPattern (documented : library.Documented) (repo tag : String) :
    Regex.parse (workflowPattern library repo tag).toList = some (workflowExpr repo tag) := by
  have front : "^https://github\\.com/".toList = '^' :: Regex.escape "https://github.com/".toList := by
    decide
  have middle : "/\\.github/workflows/[^@]+@refs/tags/".toList = Regex.escape "/.github/workflows/".toList ++
      ("[^@]+".toList ++ Regex.escape "@refs/tags/".toList) := by decide
  have back : "$".toList = ['$'] := by decide
  have parts : (workflowPattern library repo tag).toList =
      '^' :: (Regex.escape "https://github.com/".toList ++ Regex.escape repo.toList ++
        (Regex.escape "/.github/workflows/".toList ++ ("[^@]+".toList ++ Regex.escape "@refs/tags/".toList)) ++
        Regex.escape tag.toList ++ ['$']) := by
    unfold workflowPattern
    simp only [String.toList_append, documented.escape, front, middle, back, List.cons_append,
      -String.reduceToList]
  have many (pattern : List Char) : Regex.parse ("[^@]+".toList ++ pattern) =
      (Regex.parse pattern).map (.seq (.many (.except '@'))) := by
    have plain : Regex.isMeta '@' = false := by decide
    simp [Regex.parse, plain]
  have finish : Regex.parse ['$'] = some (.seq .finish .empty) := rfl
  simp only [parts, List.append_assoc, Regex.parse, Regex.parse_escape, many, finish, -String.reduceToList]
  simp only [Option.map_some, workflowExpr, Regex.Expr.literally, String.toList_append, List.foldr_append]

theorem identity_iff_of_compiled (documented : library.Documented) {certInfo : CertificateInfo}
    {repo tag : String} {re : Compiled} (compiled : library.new (workflowPattern library repo tag) = .ok re) :
    verifyCertificateIdentity library certInfo repo tag = .ok () ↔
      certInfo.issuer = gitHubActions ∧ certInfo.repository = repo ∧
        ReleaseWorkflow repo tag certInfo.subjectWorkflow := by
  have matched := documented.isMatch _ _ re (parse_workflowPattern documented repo tag) compiled
    certInfo.subjectWorkflow
  rw [found_workflowExpr_iff] at matched
  simp only [verifyCertificateIdentity, compiled, orFail, bind, Except.bind, ← matched]
  by_cases issuer : certInfo.issuer = gitHubActions <;>
    by_cases repository : certInfo.repository = repo <;>
      cases library.isMatch re certInfo.subjectWorkflow <;>
        simp [issuer, repository, fail, pure, Except.pure]

theorem compiled_of_accepted {certInfo : CertificateInfo} {repo tag : String}
    (accepted : verifyCertificateIdentity library certInfo repo tag = .ok ()) :
    ∃ re, library.new (workflowPattern library repo tag) = .ok re := by
  simp only [verifyCertificateIdentity] at accepted
  split at accepted
  · cases accepted
  · split at accepted
    · cases accepted
    · rw [bind_ok] at accepted
      obtain ⟨re, compiled, -⟩ := accepted
      exact ⟨re, orFail_ok.mp compiled⟩

/-- A certificate is accepted for the release that its workflow names, and for no other. -/
theorem identity_exact (documented : library.Documented) :
    (∀ certInfo repo tag, library.WithinSizeLimit (workflowPattern library repo tag) →
      (verifyCertificateIdentity library certInfo repo tag = .ok () ↔
        certInfo.issuer = "https://token.actions.githubusercontent.com" ∧ certInfo.repository = repo ∧
        ∃ file : String, file ≠ "" ∧ '@' ∉ file.toList ∧ certInfo.subjectWorkflow =
          "https://github.com/" ++ repo ++ "/.github/workflows/" ++ file ++ "@refs/tags/" ++ tag)) ∧
    (∀ certInfo repo tag repo' tag', verifyCertificateIdentity library certInfo repo tag = .ok () →
      verifyCertificateIdentity library certInfo repo' tag' = .ok () → repo = repo' ∧ tag = tag') := by
  constructor
  · intro certInfo repo tag within
    obtain ⟨re, compiled⟩ := documented.new _ _ (parse_workflowPattern documented repo tag) within
    exact identity_iff_of_compiled documented compiled
  · intro certInfo repo tag repo' tag' accepted accepted'
    obtain ⟨re, compiled⟩ := compiled_of_accepted accepted
    obtain ⟨re', compiled'⟩ := compiled_of_accepted accepted'
    obtain ⟨-, repository, release⟩ := (identity_iff_of_compiled documented compiled).mp accepted
    obtain ⟨-, repository', release'⟩ := (identity_iff_of_compiled documented compiled').mp accepted'
    obtain rfl : repo = repo' := repository.symm.trans repository'
    exact ⟨rfl, release.tag_unique release'⟩

end Identity

namespace Sample

/-- Patterns are compiled to their expressions, up to a length. -/
def regexLibrary : RegexLibrary Regex.Expr where
  escape text := String.ofList (Regex.escape text.toList)
  new pattern :=
    if pattern.length ≤ 1000 then (Regex.parse pattern.toList).elim (.error "regex parse error") .ok
    else .error "Compiled regex exceeds size limit"
  isMatch expr text := expr.Found text.toList
  WithinSizeLimit pattern := pattern.length ≤ 1000

theorem regexLibrary_documented : regexLibrary.Documented := by
  constructor
  case escape => exact fun text => String.toList_ofList
  case new =>
    intro pattern expr parsed within
    have within : pattern.length ≤ 1000 := within
    exact ⟨expr, by simp [regexLibrary, within, parsed]⟩
  case isMatch =>
    intro pattern expr compiled parsed new text
    simp only [regexLibrary, parsed, Option.elim_some] at new
    split at new
    · cases new
      exact decide_eq_true_iff
    · cases new

def certificateInfo : CertificateInfo where
  issuer := "https://token.actions.githubusercontent.com"
  subjectWorkflow := "https://github.com/owner/repo/.github/workflows/release.yml@refs/tags/release/1.2+3"
  repository := "owner/repo"

end Sample

/-- A tag with characters of the pattern language. -/
theorem identity_exact_release :
    verifyCertificateIdentity Sample.regexLibrary Sample.certificateInfo "owner/repo" "release/1.2+3" = .ok () ∧
    ¬ verifyCertificateIdentity Sample.regexLibrary Sample.certificateInfo "owner/repo" "release/1x2+3" =
      .ok () := by
  have within : (workflowPattern Sample.regexLibrary "owner/repo" "release/1.2+3").length ≤ 1000 := by
    decide
  have accepted : verifyCertificateIdentity Sample.regexLibrary Sample.certificateInfo "owner/repo"
      "release/1.2+3" = .ok () := by
    rw [(identity_exact Sample.regexLibrary_documented).1 _ _ _ within]
    exact ⟨rfl, rfl, "release.yml", by decide, by decide, by decide⟩
  refine ⟨accepted, fun other => ?_⟩
  have same := (identity_exact Sample.regexLibrary_documented).2 _ _ _ _ _ accepted other
  exact absurd same.2 (by decide)

end Tinfoil.Sigstore
