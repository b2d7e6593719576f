import Tinfoil.Basic
import Tinfoil.Text
import Tinfoil.Utf8

/-! # Dead simple signing envelopes -/

namespace Tinfoil.Sigstore

/-- The pre-authentication encoding: type and payload, each after its length in decimal. -/
def computePae (payloadType : String) (payload : Bytes) : Bytes :=
  let typeBytes := utf8Bytes payloadType
  let typeLen := toString typeBytes.length
  let bodyLen := toString payload.length
  utf8Bytes "DSSEv1" ++ [0x20] ++ utf8Bytes typeLen ++ [0x20] ++ typeBytes ++ [0x20] ++
    utf8Bytes bodyLen ++ [0x20] ++ payload

/-! ## The encoding is read back in one way -/

theorem utf8Bytes_eq_encode (text : String) : utf8Bytes text = Utf8.encode text.toList := by
  rw [utf8Bytes, ← String.utf8Encode_toList, List.utf8Encode, Utf8.encode]
  simp

theorem space_not_mem_decimal (number : Nat) : 0x20 ∉ utf8Bytes (toString number) := by
  rw [utf8Bytes_eq_encode, Utf8.encode, List.mem_flatMap]
  intro ⟨digit, member, inside⟩
  have absent := not_mem_digits number ' ' rfl
  by_cases ascii : digit.toNat < 128
  · rw [Utf8.encodeChar_ascii ascii, List.mem_singleton] at inside
    have code : (0x20 : UInt8).toNat = digit.toNat := by
      rw [inside, UInt8.toNat_ofNat_of_lt' (by show _ < 256; omega)]
    have space : digit = ' ' := Char.ext (UInt32.toNat_inj.mp code.symm)
    exact absent (space ▸ member)
  · exact absurd (Utf8.encodeChar_high (Nat.not_lt.mp ascii) _ inside) (by decide)

/-- A byte string after its length in decimal. -/
def counted (bytes : Bytes) : Bytes := utf8Bytes (toString bytes.length) ++ 0x20 :: bytes

/-- The length in front tells where the bytes end, whatever they and the rest hold. -/
theorem counted_append_inj {bytes bytes' rest rest' : Bytes}
    (same : counted bytes ++ rest = counted bytes' ++ rest') : bytes = bytes' ∧ rest = rest' := by
  simp only [counted, List.append_assoc, List.cons_append] at same
  obtain ⟨number, body⟩ :=
    Text.append_separator_inj (space_not_mem_decimal _) (space_not_mem_decimal _) same
  have length : bytes.length = bytes'.length :=
    toString_injective (congrArg String.toList (utf8Bytes_injective number))
  exact List.append_inj body length

theorem computePae_eq (payloadType : String) (payload : Bytes) :
    computePae payloadType payload =
      (utf8Bytes "DSSEv1" ++ [0x20]) ++ (counted (utf8Bytes payloadType) ++ 0x20 :: counted payload) := by
  simp [computePae, counted]

theorem computePae_inj {payloadType payloadType' : String} {payload payload' : Bytes}
    (same : computePae payloadType payload = computePae payloadType' payload') :
    payloadType = payloadType' ∧ payload = payload' := by
  rw [computePae_eq, computePae_eq] at same
  obtain ⟨typeBytes, rest⟩ := counted_append_inj (List.append_cancel_left same)
  have tail : counted payload ++ [] = counted payload' ++ [] := by
    rw [List.append_nil, List.append_nil, (List.cons.inj rest).2]
  exact ⟨utf8Bytes_injective typeBytes, (counted_append_inj tail).1⟩

end Tinfoil.Sigstore
