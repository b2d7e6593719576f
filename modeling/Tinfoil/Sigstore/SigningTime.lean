import Tinfoil.Sigstore.Acceptance

/-! # The signing time of an accepted bundle

* `setPayload_injective`: a signed entry timestamp covers one body, one time, one log and one index.
* `signing_time_authenticated`: the time that an accepted bundle is judged by is either signed by the
  log or the earliest verified RFC 3161 time.
-/

namespace Tinfoil.Sigstore

open Json (Value)

/-! ## The payload of a signed entry timestamp -/

theorem quote_not_mem_decodable {text : String} (decodable : (Base64.decode text.toList).isSome) :
    '"' ∉ text.toList := by
  obtain ⟨bytes, decoded⟩ := Option.isSome_iff_exists.mp decodable
  rw [Base64.decode_iff.mp decoded]
  exact Base64.quote_not_mem_encode bytes

theorem setPayload_injective {body body' : String} {integratedTime integratedTime' : UInt64}
    {logId logId' : Bytes} {logIndex logIndex' : UInt64}
    (decodable : (Base64.decode body.toList).isSome) (decodable' : (Base64.decode body'.toList).isSome)
    (same : utf8Bytes (setPayload body integratedTime logId logIndex) =
      utf8Bytes (setPayload body' integratedTime' logId' logIndex')) :
    body = body' ∧ integratedTime = integratedTime' ∧ logId = logId' ∧ logIndex = logIndex' := by
  have texts := congrArg String.toList (utf8Bytes_injective same)
  simp only [setPayload, String.toList_append, String.reduceToList, List.append_assoc,
    List.cons_append, List.nil_append, List.cons.injEq, true_and] at texts
  -- Each field ends at the first quote, comma or brace after it.
  obtain ⟨bodies, texts⟩ := Text.append_separator_inj (quote_not_mem_decodable decodable)
    (quote_not_mem_decodable decodable') texts
  simp only [List.cons.injEq, true_and] at texts
  obtain ⟨times, texts⟩ := Text.append_separator_inj (not_mem_digits _ ',' rfl)
    (not_mem_digits _ ',' rfl) texts
  simp only [List.cons.injEq, true_and] at texts
  obtain ⟨ids, texts⟩ := Text.append_separator_inj (quote_not_mem_hexEncode _)
    (quote_not_mem_hexEncode _) texts
  simp only [List.cons.injEq, true_and] at texts
  obtain ⟨indices, -⟩ := Text.append_separator_inj (not_mem_digits _ '}' rfl)
    (not_mem_digits _ '}' rfl) texts
  exact ⟨String.toList_injective bodies, UInt64.toNat_inj.mp (toString_injective times),
    hexEncode_injective (String.toList_injective ids), UInt64.toNat_inj.mp (toString_injective indices)⟩

/-! ## Where the observer time comes from -/

theorem earliest_some {times : List UInt64} {time : UInt64} (least : earliest times = some time) :
    time ∈ times ∧ ∀ other ∈ times, time ≤ other := by
  cases times with
  | nil => cases least
  | cons first times =>
    simp only [earliest, Option.some.injEq] at least
    subst least
    induction times generalizing first with
    | nil => simp
    | cons second times ih =>
      -- The smaller of the first two stands for both.
      obtain ⟨member, lower⟩ := ih (if second < first then second else first)
      simp only [List.foldl_cons]
      by_cases less : second < first
      · simp only [less, if_true] at member lower ⊢
        refine ⟨List.mem_cons_of_mem _ member, ?_⟩
        intro other among
        obtain rfl | among := List.mem_cons.mp among
        · exact UInt64.le_trans (lower second List.mem_cons_self) (UInt64.le_of_lt less)
        · exact lower other among
      · simp only [less, if_false] at member lower ⊢
        refine ⟨?_, ?_⟩
        · obtain same | among := List.mem_cons.mp member
          · rw [same]
            exact List.mem_cons_self
          · exact List.mem_cons_of_mem _ (List.mem_cons_of_mem _ among)
        · intro other among
          obtain rfl | among := List.mem_cons.mp among
          · exact lower other List.mem_cons_self
          · obtain rfl | among := List.mem_cons.mp among
            · exact UInt64.le_trans (lower first List.mem_cons_self) (UInt64.not_lt.mp less)
            · exact lower other (List.mem_cons_of_mem _ among)

theorem verifyTimestamps_ok {primitives : Primitives} {bundle : Value} {signature : Bytes}
    {authorities : List TimestampAuthority} {times : List UInt64} {errors : List Error}
    (verified : verifyTimestamps primitives bundle signature authorities = .ok (times, errors))
    {time : UInt64} (member : time ∈ times) :
    ∃ timestamp ∈ rfc3161Timestamps bundle,
      bundleTimestamp primitives signature authorities timestamp = .ok time := by
  simp only [verifyTimestamps] at verified
  split at verified
  · cases verified
  · cases verified
    simp only [List.mem_filterMap, List.mem_map] at member
    obtain ⟨result, ⟨timestamp, among, rfl⟩, kept⟩ := member
    refine ⟨timestamp, among, ?_⟩
    cases called : bundleTimestamp primitives signature authorities timestamp with
    | error error => simp [called, Except.toOption] at kept
    | ok value => simpa [called, Except.toOption] using kept

theorem checkTimestamps_ok {times : List UInt64} {certNotBefore certNotAfter : UInt64}
    (checked : checkTimestamps times certNotBefore certNotAfter = .ok ()) {time : UInt64}
    (member : time ∈ times) : certNotBefore ≤ time ∧ time ≤ certNotAfter := by
  simp only [checkTimestamps] at checked
  split at checked
  · cases checked
  · rename_i none
    have inside := List.find?_eq_none.mp none time member
    simp only [Bool.or_eq_true, decide_eq_true_eq, not_or, gt_iff_lt, UInt64.not_lt] at inside
    exact inside

theorem findRekorKey_ok {primitives : Primitives} {rekorKeys : List RekorKey} {logId : String}
    {time : UInt64} {key : RekorKey} (found : findRekorKey primitives rekorKeys logId time = .ok key) :
    key ∈ rekorKeys ∧ key.keyId = logId ∧ key.validAt time := by
  simp only [findRekorKey, okOrElse_ok] at found
  have fits := List.find?_some found
  simp only [Bool.and_eq_true, decide_eq_true_eq] at fits
  exact ⟨List.mem_of_find?_eq_some found, fits⟩

theorem verifySignature_ok {primitives : Primitives} {checkpoint : SignedCheckpoint} {keyDer : Bytes}
    {keyType name : String} {logId : Bytes}
    (signed : checkpoint.verifySignature primitives keyDer keyType name logId = .ok ()) :
    ∃ line ∈ checkpoint.signatures,
      verifyLogSignature primitives (utf8Bytes checkpoint.note.marshal) line.raw keyDer keyType = .ok () := by
  simp only [SignedCheckpoint.verifySignature] at signed
  split at signed
  · rename_i some
    obtain ⟨line, member, verifies⟩ := List.any_eq_true.mp some
    refine ⟨line, member, ?_⟩
    simp only [SignedCheckpoint.verifies, Bool.and_eq_true] at verifies
    cases called : verifyLogSignature primitives (utf8Bytes checkpoint.note.marshal) line.raw keyDer keyType with
    | error error => simp [called, Except.isOk, Except.toBool] at verifies
    | ok done => rfl
  · cases signed

theorem observerTime_ok {entry : Value} {kind version : String} {times : List UInt64}
    {errors : List Error} {certNotBefore certNotAfter time : UInt64}
    (observed : observerTime entry kind version times errors certNotBefore certNotAfter = .ok time) :
    (version = "0.0.1" ∧ (signedEntryTimestamp entry).isSome ∧
      (entry.get "integratedTime").bind intValue = some time ∧
      certNotBefore ≤ time ∧ time ≤ certNotAfter) ∨ earliest times = some time := by
  simp only [observerTime] at observed
  split at observed
  · rename_i first
    split at observed
    · exact .inr (okOrElse_ok.mp observed)
    · rename_i present
      simp only [bind_ok, okOrElse_ok] at observed
      obtain ⟨integratedTime, found, observed⟩ := observed
      split at observed
      · cases observed
      · rename_i inside
        cases observed
        simp only [gt_iff_lt, not_or, UInt64.not_lt] at inside
        exact .inl ⟨first.2, by simpa [Option.isSome_iff_ne_none] using present, found, inside⟩
  · split at observed
    · exact .inr (okOrElse_ok.mp observed)
    · cases observed

namespace Verifier.Acceptance

variable {verifier : Verifier} {bundle : Value} (accepted : verifier.Acceptance bundle)

/-- The time is the entry's, and the log signed it with the body, its id and the index. -/
def SignedByLog : Prop :=
  (accepted.entry.get "integratedTime").bind intValue = some accepted.time ∧
    ∃ set logIndex,
      (signedEntryTimestamp accepted.entry).bind Value.asStr = some set ∧
      (accepted.entry.get "logIndex").bind intValue = some logIndex ∧
      ∃ signature, Base64.decode set.toList = some signature ∧
        verifyLogSignature verifier.primitives
          (utf8Bytes (setPayload accepted.bodyB64 accepted.time accepted.logIdBytes logIndex))
          signature accepted.rekorKey.keyDer accepted.rekorKey.keyType = .ok ()

def EarliestTimestamp : Prop :=
  accepted.time ∈ accepted.tsaTimes ∧
    ∀ time ∈ accepted.tsaTimes, accepted.time ≤ time ∧
      ∃ timestamp ∈ rfc3161Timestamps bundle,
        bundleTimestamp verifier.primitives accepted.signature verifier.timestampAuthorities timestamp =
          .ok time

variable {accepted}

theorem earliestTimestamp (least : earliest accepted.tsaTimes = some accepted.time) :
    accepted.EarliestTimestamp := by
  obtain ⟨member, lower⟩ := earliest_some least
  exact ⟨member, fun time among => ⟨lower time among, verifyTimestamps_ok accepted.timestamps among⟩⟩

theorem promised (present : (signedEntryTimestamp accepted.entry).isSome) :
    (accepted.entry.get "inclusionPromise").isSome := by
  rw [signedEntryTimestamp, Value.pointer_eq_getPath (by decide)] at present
  cases found : accepted.entry.get "inclusionPromise" with
  | none => simp [Value.getPath, found] at present
  | some promise => rfl

theorem signedByLog (version : entryVersion accepted.entry = "0.0.1")
    (present : (signedEntryTimestamp accepted.entry).isSome)
    (time : (accepted.entry.get "integratedTime").bind intValue = some accepted.time) :
    accepted.SignedByLog := by
  have passed := accepted.promise
  rw [verifyInclusionPromise, if_pos ⟨version, promised present⟩] at passed
  simp only [verifySignedEntryTimestamp, bind_ok, fieldAt, intFieldAt, okOrElse_ok, decodeB64_ok] at passed
  obtain ⟨logId, readLogId, logIdBytes, decodedLogId, set, readSet, signature, decodedSet, body, readBody,
    integratedTime, readTime, logIndex, readIndex, passed⟩ := passed
  -- The fields are read by pointers here and by members elsewhere.
  rw [Value.pointer_eq_getPath (by decide)] at readLogId
  rw [Value.pointer_member (by decide)] at readBody readTime readIndex
  have sameId : logId = accepted.logId := by
    have other := accepted.readLogId
    simp only [strAt] at other
    rw [readLogId] at other
    exact Option.some.inj other
  have sameBody : body = accepted.bodyB64 := by
    have other := okOrElse_ok.mp accepted.readBody
    rw [readBody] at other
    exact Option.some.inj other
  have sameTime : integratedTime = accepted.time := by
    rw [readTime] at time
    exact Option.some.inj time
  have sameBytes : logIdBytes = accepted.logIdBytes := by
    have other := decodeB64_ok.mp accepted.decodedLogId
    rw [← sameId, decodedLogId] at other
    exact Option.some.inj other
  subst sameBody sameTime sameBytes
  refine ⟨time, set, logIndex, readSet, readIndex, signature, decodedSet, ?_⟩
  split at passed
  · assumption
  · cases passed

theorem time_origin :
    (accepted.SignedByLog ∨ accepted.EarliestTimestamp) ∧
      verifier.certNotBefore ≤ accepted.time ∧ accepted.time ≤ verifier.certNotAfter := by
  obtain ⟨version, present, time, inside⟩ | least := observerTime_ok accepted.observed
  · exact ⟨.inl (signedByLog version present time), inside⟩
  · have earliest := earliestTimestamp least
    exact ⟨.inr earliest, checkTimestamps_ok accepted.inWindow earliest.1⟩

end Verifier.Acceptance

/-- The time that an accepted bundle is judged by lies in the certificate's window and in the
validity of the log key that verified the checkpoint; the log signed it, or it is the earliest
verified timestamp; and one log signature covers one time. -/
theorem signing_time_authenticated (verifier : Verifier) :
    (∀ bundle, verifier.Accepts bundle → ∃ accepted : verifier.Acceptance bundle,
      verifier.certNotBefore ≤ accepted.time ∧ accepted.time ≤ verifier.certNotAfter ∧
      accepted.rekorKey ∈ verifier.rekorKeys ∧ accepted.rekorKey.validAt accepted.time ∧
      (∃ line ∈ accepted.checkpoint.signatures,
        verifyLogSignature verifier.primitives (utf8Bytes accepted.checkpoint.note.marshal) line.raw
          accepted.rekorKey.keyDer accepted.rekorKey.keyType = .ok ()) ∧
      (accepted.SignedByLog ∨ accepted.EarliestTimestamp)) ∧
    ∀ body body' integratedTime integratedTime' logId logId' logIndex logIndex',
      (Base64.decode (String.toList body)).isSome → (Base64.decode (String.toList body')).isSome →
      utf8Bytes (setPayload body integratedTime logId logIndex) =
        utf8Bytes (setPayload body' integratedTime' logId' logIndex') →
      body = body' ∧ integratedTime = integratedTime' ∧ logId = logId' ∧ logIndex = logIndex' := by
  constructor
  · intro bundle accepts
    obtain ⟨accepted⟩ := Verifier.accepts_iff.mp accepts
    obtain ⟨origin, lower, upper⟩ := accepted.time_origin
    obtain ⟨member, -, valid⟩ := findRekorKey_ok accepted.foundKey
    exact ⟨accepted, lower, upper, member, valid, verifySignature_ok accepted.signed, origin⟩
  · intro body body' integratedTime integratedTime' logId logId' logIndex logIndex' decodable decodable' same
    exact setPayload_injective decodable decodable' same

theorem signing_time_authenticated_sample :
    (∃ accepted : Sample.verifier.Acceptance (Sample.bundle "3"), 100 ≤ accepted.time ∧
      accepted.time ≤ 200 ∧ accepted.rekorKey.validAt accepted.time ∧
      (accepted.SignedByLog ∨ accepted.EarliestTimestamp)) ∧
    ∀ integratedTime, utf8Bytes (setPayload "e30=" integratedTime [1] 0) =
      utf8Bytes (setPayload "e30=" 150 [1] 0) → integratedTime = 150 := by
  have authenticated := signing_time_authenticated Sample.verifier
  constructor
  · obtain ⟨accepted, lower, upper, -, valid, -, origin⟩ := authenticated.1 (Sample.bundle "3")
      (Sample.accepts (show parseU64 "3" = some 3 by decide) (.inl rfl))
    exact ⟨accepted, lower, upper, valid, origin⟩
  · intro integratedTime same
    exact (authenticated.2 "e30=" "e30=" _ _ _ _ _ _ (by decide) (by decide) same).2.1

end Tinfoil.Sigstore
