import Tinfoil.Der

/-! # Octet strings after their length

The length stands in front in a fixed number of octets.  `split_append` reads such a vector back off the front, so that
its end is found whatever stands after it.
-/

namespace LengthPrefixed

open Der (bigEndian value value_bigEndian)

/-- Only if the length fits into `width` octets. -/
def vector (width : Nat) (octets : List UInt8) : Option (List UInt8) :=
  if octets.length < 256 ^ width then some (bigEndian width octets.length ++ octets) else none

/-- One vector off the front, and the rest. -/
def split (width : Nat) (input : List UInt8) : Option (List UInt8 × List UInt8) :=
  let length := value (input.take width)
  let body := input.drop width
  if width ≤ input.length ∧ length ≤ body.length then some (body.take length, body.drop length) else none

variable {width : Nat} {octets encoded rest input : List UInt8}

theorem vector_eq_some :
    vector width octets = some encoded ↔
      octets.length < 256 ^ width ∧ encoded = bigEndian width octets.length ++ octets := by
  by_cases fits : octets.length < 256 ^ width
  · simp [vector, fits, eq_comm]
  · simp [vector, fits]

theorem split_append (written : vector width octets = some encoded) :
    split width (encoded ++ rest) = some (octets, rest) := by
  obtain ⟨fits, rfl⟩ := vector_eq_some.mp written
  simp [split, value_bigEndian fits]

theorem vector_append_inj {octets' encoded' rest' : List UInt8} (written : vector width octets = some encoded)
    (written' : vector width octets' = some encoded') (same : encoded ++ rest = encoded' ++ rest') :
    octets = octets' ∧ rest = rest' := by
  have read : split width (encoded ++ rest) = some (octets, rest) := split_append written
  rw [same, split_append written'] at read
  simpa [eq_comm] using read

end LengthPrefixed
