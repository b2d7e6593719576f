import Tinfoil.Sigstore.Acceptance

/-! # What the logged body binds

An entry's kind and version name a schema, and a schema says where the body has the certificate, the
signature and the digest of what was signed.  `digest_bound`: an accepted bundle is bound to the
schema that its entry names exactly if the entry is of a schema whose digest the verifier compares.
-/

namespace Tinfoil.Sigstore

open Json (Value)

theorem strAt_append {value inner : Value} {keys : List String} (found : value.getPath keys = some inner)
    (keys' : List String) : strAt value (keys ++ keys') = strAt inner keys' := by
  rw [strAt, Value.getPath_append, found]
  rfl

theorem strAt_member (value : Value) (key : String) :
    strAt value [key] = (value.get key).bind Value.asStr := by
  simp [strAt, Value.getPath]

theorem eq_some_of_getD {value : Option String} {text : String} (same : value.getD "" = text)
    (present : text ≠ "") : value = some text := by
  cases value with
  | none => exact absurd same.symm present
  | some value => exact congrArg some same

/-- The schemas of Rekor entries over signing envelopes. -/
inductive Schema where
  | dsse001
  | hashedRekord001
  | hashedRekord002
  deriving DecidableEq, Repr

namespace Schema

def named (kind version : String) : Option Schema :=
  if kind = "dsse" ∧ version = "0.0.1" then some dsse001
  else if kind = "hashedrekord" ∧ version = "0.0.1" then some hashedRekord001
  else if kind = "hashedrekord" ∧ version = "0.0.2" then some hashedRekord002
  else none

def hashedRekordV002Data (body : Value) : Option Value :=
  body.pointer ["spec", "hashedRekordV002", "data"]

/-- The schema whose digest `verify_payload_hash_binding` compares, if it compares one. -/
def compared (body : Value) : Option Schema :=
  match hashedRekordV002Data body with
  | some _ => some hashedRekord002
  | none => if (body.get "kind").bind Value.asStr = some "dsse" then some dsse001 else none

section Specification

variable (primitives : Primitives)

def certificate : Schema → Value → Except Error Bytes
  | dsse001, body => dsseCertificate primitives body
  | hashedRekord001, body => hashedRekordCertificate primitives body
  | hashedRekord002, body => hashedRekordV002Certificate primitives body

def signature : Schema → Value → Except Error Bytes
  | dsse001, body => dsseSignature primitives body
  | hashedRekord001, body => hashedRekordSignature primitives (body.get "spec")
  | hashedRekord002, body => hashedRekordSignature primitives (body.getPath ["spec", "hashedRekordV002"])

def Payload (bundle : Value) (payload : Bytes) : Prop :=
  ∃ text, strAt bundle ["dsseEnvelope", "payload"] = some text ∧
    Base64.decode text.toList = some payload

def SignedContent (bundle : Value) (content : Bytes) : Prop :=
  ∃ payloadType payload, strAt bundle ["dsseEnvelope", "payloadType"] = some payloadType ∧
    Payload bundle payload ∧ content = computePae payloadType payload

def DigestBound (bundle body : Value) : Schema → Prop
  | dsse001 => ∃ payload, Payload bundle payload ∧
      strAt body ["spec", "payloadHash", "algorithm"] = some "sha256" ∧
      strAt body ["spec", "payloadHash", "value"] = some (hexEncode (primitives.sha256 payload).val)
  | hashedRekord001 => ∃ content, SignedContent bundle content ∧
      strAt body ["spec", "data", "hash", "algorithm"] = some "sha256" ∧
      strAt body ["spec", "data", "hash", "value"] = some (hexEncode (primitives.sha256 content).val)
  | hashedRekord002 => ∃ content, SignedContent bundle content ∧ ∃ data digest,
      hashedRekordV002Data body = some data ∧ strAt data ["algorithm"] = some "SHA2_256" ∧
      strAt data ["digest"] = some digest ∧
      Base64.decode digest.toList = some (primitives.sha256 content).val

/-- The bundle agrees with the body in everything that the schema binds, and the digest that was
compared is the one of the schema. -/
structure Bound (bundle body : Value) (schema : Schema) : Prop where
  certificate : ∃ der, schema.certificate primitives body = .ok der ∧
    bundleCertificate primitives bundle = .ok der
  signature : ∃ bytes, schema.signature primitives body = .ok bytes ∧
    bundleDsseSignature primitives bundle = .ok bytes
  digest : DigestBound primitives bundle body schema
  compared : compared body = some schema

end Specification

end Schema

/-! ## The three bindings -/

section Bindings

variable {primitives : Primitives} {bundle : Value} {bodyBytes : Bytes} {body : Value}

theorem verifyKindVersion_ok {entry : Value} (parsed : parseBody primitives bodyBytes = .ok body) :
    verifyKindVersion primitives entry bodyBytes = .ok () →
      (body.get "kind").bind Value.asStr = (entry.getPath ["kindVersion", "kind"]).bind Value.asStr ∧
      (body.get "apiVersion").bind Value.asStr =
        (entry.getPath ["kindVersion", "version"]).bind Value.asStr := by
  intro verified
  simp only [verifyKindVersion, parsed, bind_ok, okOrElse_ok, Except.ok.injEq, exists_eq_left'] at verified
  obtain ⟨kindVersion, found, same⟩ := verified
  split at same
  · cases same
  · rename_i agree
    simp only [ne_eq, not_or, not_not] at agree
    simpa [Value.getPath, found] using agree

theorem verifyCertificateBinding_ok (parsed : parseBody primitives bodyBytes = .ok body)
    (verified : verifyCertificateBinding primitives bundle bodyBytes = .ok ()) :
    ∃ der, rekorCertificate primitives body = .ok der ∧ bundleCertificate primitives bundle = .ok der := by
  simp only [verifyCertificateBinding, parsed, bind_ok, Except.ok.injEq, exists_eq_left'] at verified
  obtain ⟨logged, readLogged, sent, readSent, same⟩ := verified
  by_cases equal : logged = sent
  · exact ⟨logged, readLogged, equal ▸ readSent⟩
  · simp [equal, fail] at same

theorem verifySignatureBinding_ok (parsed : parseBody primitives bodyBytes = .ok body)
    (verified : verifySignatureBinding primitives bundle bodyBytes = .ok ()) :
    ∃ bytes, rekorSignature primitives body = .ok bytes ∧ bundleDsseSignature primitives bundle = .ok bytes := by
  simp only [verifySignatureBinding, parsed, bind_ok, Except.ok.injEq, exists_eq_left'] at verified
  obtain ⟨logged, readLogged, sent, readSent, same⟩ := verified
  by_cases equal : logged = sent
  · exact ⟨logged, readLogged, equal ▸ readSent⟩
  · simp [equal, fail] at same

theorem verifyPayloadHash_ok (verified : verifyPayloadHash primitives bundle body = .ok ()) :
    Schema.dsse001.DigestBound primitives bundle body := by
  simp only [verifyPayloadHash, bind_ok, okOrElse_ok] at verified
  obtain ⟨payloadHash, found, expectedHash, value, verified⟩ := verified
  by_cases algorithm : ((payloadHash.get "algorithm").bind Value.asStr).getD "" = "sha256"
  · simp only [algorithm, ne_eq, not_true, if_false, bind_ok, okOrElse_ok, decodeB64_ok] at verified
    obtain ⟨text, sent, payload, decoded, same⟩ := verified
    by_cases equal : hexEncode (primitives.sha256 payload).val = expectedHash
    · refine ⟨payload, ⟨text, sent, decoded⟩, ?_, ?_⟩
      · rw [← strAt_member] at algorithm
        exact (strAt_append found ["algorithm"]).trans (eq_some_of_getD algorithm (by decide))
      · rw [equal, ← value]
        exact strAt_append found ["value"]
    · simp [equal, fail] at same
  · simp [algorithm, fail] at verified

theorem verifyPaeDigest_ok {data : Value} (found : Schema.hashedRekordV002Data body = some data)
    (verified : verifyPaeDigest primitives bundle data = .ok ()) :
    Schema.hashedRekord002.DigestBound primitives bundle body := by
  simp only [verifyPaeDigest] at verified
  by_cases algorithm : ((data.get "algorithm").bind Value.asStr).getD "" = "SHA2_256"
  · simp only [algorithm, ne_eq, not_true, if_false, bind_ok, okOrElse_ok, decodeB64_ok] at verified
    obtain ⟨digest, readDigest, expected, decoded, envelope, sent, payloadType, readType, text, readPayload,
      payload, decodedPayload, same⟩ := verified
    by_cases equal : (primitives.sha256 (computePae payloadType payload)).val = expected
    · have inEnvelope (key : String) : strAt bundle ["dsseEnvelope", key] = strAt envelope [key] := by
        simp [strAt, Value.getPath, sent]
      refine ⟨computePae payloadType payload, ⟨payloadType, payload, ?_, ⟨text, ?_, decodedPayload⟩, rfl⟩, data,
        digest, found, ?_, readDigest, equal ▸ decoded⟩
      · rw [inEnvelope, readType]
      · rw [inEnvelope, readPayload]
      · rw [← strAt_member] at algorithm
        exact eq_some_of_getD algorithm (by decide)
    · simp [equal, fail] at same
  · simp [algorithm, fail] at verified

theorem verifyPayloadHashBinding_eq (parsed : parseBody primitives bodyBytes = .ok body) :
    verifyPayloadHashBinding primitives bundle bodyBytes =
      match Schema.hashedRekordV002Data body with
      | some data => verifyPaeDigest primitives bundle data
      | none =>
        if (body.get "kind").bind Value.asStr = some "dsse" then verifyPayloadHash primitives bundle body
        else .ok () := by
  simp only [verifyPayloadHashBinding, parsed, bind, Except.bind, Schema.hashedRekordV002Data]
  cases body.pointer ["spec", "hashedRekordV002", "data"] with
  | some data => rfl
  | none =>
    cases (body.get "kind").bind Value.asStr with
    | none => rfl
    | some kind =>
      by_cases dsse : kind = "dsse"
      · simp [dsse]
      · simp [dsse, pure, Except.pure]

theorem verifyPayloadHashBinding_ok (parsed : parseBody primitives bodyBytes = .ok body)
    (verified : verifyPayloadHashBinding primitives bundle bodyBytes = .ok ()) {schema : Schema}
    (compared : Schema.compared body = some schema) : schema.DigestBound primitives bundle body := by
  rw [verifyPayloadHashBinding_eq parsed] at verified
  simp only [Schema.compared] at compared
  cases found : Schema.hashedRekordV002Data body with
  | some data =>
    simp only [found, Option.some.injEq] at compared verified
    subst compared
    exact verifyPaeDigest_ok found verified
  | none =>
    simp only [found] at compared verified
    by_cases dsse : (body.get "kind").bind Value.asStr = some "dsse"
    · simp only [dsse, if_true, Option.some.injEq] at compared verified
      subst compared
      exact verifyPayloadHash_ok verified
    · simp [dsse] at compared

end Bindings

/-! ## Which entries are bound -/

def bundleBody (primitives : Primitives) (bundle : Value) : Except Error Value := do
  let entry ← tlogEntry bundle
  let bodyB64 ← canonicalizedBody entry
  parseBody primitives (← decodeB64 primitives "canonicalizedBody" bodyB64)

namespace Schema

def ofBody (body : Value) : Option Schema :=
  named (((body.get "kind").bind Value.asStr).getD "") (((body.get "apiVersion").bind Value.asStr).getD "")

theorem kind_of_dsse001 {body : Value} (schema : ofBody body = some dsse001) :
    (body.get "kind").bind Value.asStr = some "dsse" := by
  simp only [ofBody, named] at schema
  split at schema
  · rename_i both
    exact eq_some_of_getD both.1 (by decide)
  · split at schema
    · cases schema
    · split at schema <;> cases schema

theorem kind_of_hashedRekord002 {body : Value} (schema : ofBody body = some hashedRekord002) :
    (body.get "kind").bind Value.asStr = some "hashedrekord" := by
  simp only [ofBody, named] at schema
  split at schema
  · cases schema
  · split at schema
    · cases schema
    · split at schema
      · rename_i both
        exact eq_some_of_getD both.1 (by decide)
      · cases schema

/-- The data of version 0.0.2 stand in the section of version 0.0.2. -/
theorem nested_of_compared {body : Value} (schema : compared body = some hashedRekord002) :
    ∃ inner, body.getPath ["spec", "hashedRekordV002"] = some inner := by
  simp only [compared] at schema
  cases found : hashedRekordV002Data body with
  | none =>
    simp only [found] at schema
    split at schema <;> cases schema
  | some data =>
    rw [hashedRekordV002Data, Value.pointer_eq_getPath (by decide)] at found
    have split := Value.getPath_append ["spec", "hashedRekordV002"] ["data"] body
    rw [show ["spec", "hashedRekordV002"] ++ ["data"] = ["spec", "hashedRekordV002", "data"] from rfl,
      found] at split
    obtain ⟨inner, nested, -⟩ := Option.bind_eq_some_iff.mp split.symm
    exact ⟨inner, nested⟩

end Schema

theorem observerTime_schema {entry : Value} {kind version : String} {times : List UInt64}
    {errors : List Error} {certNotBefore certNotAfter time : UInt64}
    (observed : observerTime entry kind version times errors certNotBefore certNotAfter = .ok time) :
    (Schema.named kind version).isSome := by
  simp only [observerTime] at observed
  split at observed
  · rename_i first
    obtain ⟨rfl | rfl, rfl⟩ := first
    · rfl
    · rfl
  · split at observed
    · rename_i second
      obtain ⟨rfl, rfl⟩ := second
      rfl
    · cases observed

theorem asStr_index (value : Value) (key key' : String) :
    ((value.index key).index key').asStr = (value.getPath [key, key']).bind Value.asStr := by
  cases outer : value.get key with
  | none =>
    rw [Value.index, Value.index, Value.getPath, outer]
    rfl
  | some held =>
    cases inner : held.get key' with
    | none => simp [Value.index, Value.getPath, outer, inner, Value.asStr]
    | some leaf => simp [Value.index, Value.getPath, outer, inner]

namespace Verifier.Acceptance

variable {verifier : Verifier} {bundle : Value} (accepted : verifier.Acceptance bundle)

theorem body_parsed : ∃ body, bundleBody verifier.primitives bundle = .ok body ∧
    parseBody verifier.primitives accepted.bodyBytes = .ok body := by
  have passed := accepted.kindVersion
  simp only [verifyKindVersion, bind_ok] at passed
  obtain ⟨-, -, body, parsed, -⟩ := passed
  refine ⟨body, ?_, parsed⟩
  simp only [bundleBody, bind_ok]
  exact ⟨_, accepted.readEntry, _, accepted.readBody, _, accepted.decodedBody, parsed⟩

variable {accepted} {body : Value}

theorem schema_isSome (parsed : parseBody verifier.primitives accepted.bodyBytes = .ok body) :
    (Schema.ofBody body).isSome := by
  obtain ⟨kind, version⟩ := verifyKindVersion_ok parsed accepted.kindVersion
  have named := observerTime_schema accepted.observed
  rw [entryKind, entryVersion, asStr_index, asStr_index, ← kind, ← version] at named
  exact named

/-- The places that the code reads are those of the schema whose digest it compares. -/
theorem bound_of_compared {schema : Schema}
    (parsed : parseBody verifier.primitives accepted.bodyBytes = .ok body)
    (named : Schema.ofBody body = some schema) (compared : Schema.compared body = some schema) :
    schema.Bound verifier.primitives bundle body := by
  obtain ⟨der, logged, sent⟩ := verifyCertificateBinding_ok parsed accepted.certificateBound
  obtain ⟨bytes, loggedBytes, sentBytes⟩ := verifySignatureBinding_ok parsed accepted.signatureBound
  have digest := verifyPayloadHashBinding_ok parsed accepted.payloadBound compared
  cases schema with
  | dsse001 =>
    have kind : bodyKind body = "dsse" := by rw [bodyKind, Schema.kind_of_dsse001 named]; rfl
    simp only [rekorCertificate, rekorSignature, kind, if_true] at logged loggedBytes
    exact ⟨⟨der, logged, sent⟩, ⟨bytes, loggedBytes, sentBytes⟩, digest, compared⟩
  | hashedRekord001 =>
    -- This is the schema whose digest is not compared.
    simp only [Schema.compared] at compared
    split at compared
    · cases compared
    · split at compared <;> cases compared
  | hashedRekord002 =>
    -- Certificate and signature are read from the object that the digest is read from.
    have kind : bodyKind body = "hashedrekord" := by rw [bodyKind, Schema.kind_of_hashedRekord002 named]; rfl
    obtain ⟨inner, nested⟩ := Schema.nested_of_compared compared
    have pointed : body.pointer ["spec", "hashedRekordV002"] = some inner := by
      rw [Value.pointer_eq_getPath (by decide), nested]
    have holder : ((body.get "spec").bind fun spec => (spec.get "hashedRekordV002").or (some spec)) =
        body.getPath ["spec", "hashedRekordV002"] := by
      rw [nested]
      simp only [Value.getPath, Option.bind_eq_some_iff] at nested
      obtain ⟨spec, found, inner', nested, same⟩ := nested
      rw [found, Option.bind_some, nested, Option.some_or, same]
    have other : ¬ "hashedrekord" = "dsse" := by decide
    simp only [rekorCertificate, kind, other, if_false, true_and, pointed, Option.isSome_some, if_true] at logged
    simp only [rekorSignature, kind, other, if_false, if_true, holder] at loggedBytes
    exact ⟨⟨der, logged, sent⟩, ⟨bytes, loggedBytes, sentBytes⟩, digest, compared⟩

end Verifier.Acceptance

/-- An accepted bundle is bound to the schema that its entry names exactly if the entry is of kind
`dsse` without the data of version 0.0.2, or of version 0.0.2 with them. -/
theorem digest_bound (verifier : Verifier) (bundle : Value) (accepts : verifier.Accepts bundle) :
    ∃ body schema, bundleBody verifier.primitives bundle = .ok body ∧ Schema.ofBody body = some schema ∧
      (schema.Bound verifier.primitives bundle body ↔
        schema = .dsse001 ∧ Schema.hashedRekordV002Data body = none ∨
        schema = .hashedRekord002 ∧ (Schema.hashedRekordV002Data body).isSome) := by
  obtain ⟨accepted⟩ := Verifier.accepts_iff.mp accepts
  obtain ⟨body, found, parsed⟩ := accepted.body_parsed
  obtain ⟨schema, named⟩ := Option.isSome_iff_exists.mp (accepted.schema_isSome parsed)
  refine ⟨body, schema, found, named, ?_, ?_⟩
  · intro bound
    have compared := bound.compared
    simp only [Schema.compared] at compared
    cases data : Schema.hashedRekordV002Data body with
    | some data =>
      simp only [data, Option.some.injEq] at compared
      exact .inr ⟨compared.symm, rfl⟩
    | none =>
      simp only [data] at compared
      split at compared
      · exact .inl ⟨(Option.some.inj compared).symm, rfl⟩
      · cases compared
  · rintro (⟨rfl, absent⟩ | ⟨rfl, present⟩)
    · apply Verifier.Acceptance.bound_of_compared parsed named
      simp only [Schema.compared, absent, Schema.kind_of_dsse001 named, if_true]
    · apply Verifier.Acceptance.bound_of_compared parsed named
      obtain ⟨data, found⟩ := Option.isSome_iff_exists.mp present
      simp only [Schema.compared, found]

theorem digest_bound_sample :
    ∃ body schema, bundleBody Sample.primitives (Sample.bundle "3") = .ok body ∧
      Schema.ofBody body = some schema ∧
      (schema.Bound Sample.primitives (Sample.bundle "3") body ↔
        schema = .dsse001 ∧ Schema.hashedRekordV002Data body = none ∨
        schema = .hashedRekord002 ∧ (Schema.hashedRekordV002Data body).isSome) :=
  digest_bound Sample.verifier (Sample.bundle "3")
    (Sample.accepts (show parseU64 "3" = some 3 by decide) (.inl rfl))

/-- An accepted entry of kind `hashedrekord` and version 0.0.1 whose logged digest is not the one of
the signed content: no digest was compared. -/
theorem digest_unchecked :
    Sample.verifier.Accepts (Sample.bundle "3") ∧
      bundleBody Sample.primitives (Sample.bundle "3") = .ok Sample.body ∧
      Schema.ofBody Sample.body = some .hashedRekord001 ∧ Schema.compared Sample.body = none ∧
      ¬ Schema.hashedRekord001.DigestBound Sample.primitives (Sample.bundle "3") Sample.body := by
  refine ⟨Sample.accepts (show parseU64 "3" = some 3 by decide) (.inl rfl), ?_, by decide, by decide, ?_⟩
  · simp only [bundleBody, bind_ok]
    exact ⟨Sample.entry .three "3", rfl, Sample.b64 Sample.bodyBytes, rfl, Sample.bodyBytes,
      Sample.decodeB64_b64 _ _ _, Sample.parsedBody⟩
  · rintro ⟨content, ⟨payloadType, payload, readType, ⟨text, readPayload, decoded⟩, rfl⟩, -, value⟩
    have sentType : strAt (Sample.bundle "3") ["dsseEnvelope", "payloadType"] = some "application/json" := rfl
    have sentPayload : strAt (Sample.bundle "3") ["dsseEnvelope", "payload"] = some "e30=" := rfl
    have payloadBytes : Base64.decode "e30=".toList = some [0x7b, 0x7d] := by decide
    obtain rfl := Option.some.inj (sentType.symm.trans readType)
    obtain rfl := Option.some.inj (sentPayload.symm.trans readPayload)
    obtain rfl := Option.some.inj (payloadBytes.symm.trans decoded)
    have logged : strAt Sample.body ["spec", "data", "hash", "value"] =
      some "0000000000000000000000000000000000000000000000000000000000000000" := rfl
    rw [Sample.sha256_content, logged] at value
    exact absurd (Option.some.inj value) (by decide)

end Tinfoil.Sigstore
