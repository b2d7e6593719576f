import Mathlib.Data.List.Basic
import Mathlib.Data.List.Induction

/-! # Errors and text helpers shared by every component -/

namespace Tinfoil

abbrev Bytes := List UInt8

/-- The variants of the SDK error type that the modelled functions return.  Texts that the
source takes from a library error arrive here already rendered. -/
inductive Error where
  | configuration (message : String)
  | attestationFetch (message : String)
  | attestationVerification (message : String)
  | certificateMismatch
  | sigstoreVerification (message : String)
  | gitHub (message : String)
  | measurementMismatch (expected actual : String)
  | tls (message : String)
  | ehbp (message : String)
  | ehbpKeyMismatch (message : String)
  | network (message : String)
  | http (message : String)
  deriving DecidableEq, Repr

namespace Error

/-- `is_ehbp_key_mismatch`: the enclave rejected the request because its HPKE key rotated. -/
def isEhbpKeyMismatch : Error → Bool
  | .ehbpKeyMismatch _ => true
  | _ => false

/-- The text of an error (`Display`). -/
def display : Error → String
  | .configuration message => message
  | .attestationFetch message => message
  | .attestationVerification message => message
  | .certificateMismatch => "TLS certificate fingerprint mismatch"
  | .sigstoreVerification message => message
  | .gitHub message => message
  | .measurementMismatch expected actual =>
    "Measurement mismatch: expected " ++ expected ++ ", got " ++ actual
  | .tls message => message
  | .ehbp message => "EHBP error: " ++ message
  | .ehbpKeyMismatch message => "EHBP key configuration mismatch: " ++ message
  | .network message => message
  | .http message => "HTTP request failed: " ++ message

end Error

/-- How a call can end without a value: with an error, or by a panic. -/
inductive Failure (ε : Type) where
  | error (error : ε)
  | panic
  deriving DecidableEq, Repr

/-- The result of code that can panic. -/
abbrev Checked (ε α : Type) := Except (Failure ε) α

/-- Return an error, as `?` and `return Err(..)` do. -/
def Checked.fail {ε α : Type} (error : ε) : Checked ε α := .error (.error error)

def Checked.mapError {ε ε' α : Type} (change : ε → ε') : Checked ε α → Checked ε' α
  | .ok value => .ok value
  | .error (.error error) => Checked.fail (change error)
  | .error .panic => .error .panic

theorem Checked.mapError_ok {ε ε' α : Type} {change : ε → ε'} {call : Checked ε α} {value : α} :
    call.mapError change = .ok value ↔ call = .ok value := by
  cases call with
  | error failure => cases failure <;> simp [Checked.mapError, Checked.fail]
  | ok result => simp [Checked.mapError]

/-- A call that cannot panic, inside one that can. -/
instance {ε : Type} : MonadLift (Except ε) (Checked ε) where
  monadLift
    | .ok value => .ok value
    | .error error => Checked.fail error

theorem lift_ok {ε α : Type} {call : Except ε α} {value : α} :
    (liftM call : Checked ε α) = .ok value ↔ call = .ok value := by
  cases call <;> simp [liftM, monadLift, MonadLift.monadLift, Checked.fail]

theorem bind_ok {ε α β : Type} {first : Except ε α} {next : α → Except ε β} {result : β} :
    (first >>= next) = .ok result ↔ ∃ value, first = .ok value ∧ next value = .ok result := by
  cases first with
  | error error => simp [bind, Except.bind]
  | ok value => simp [bind, Except.bind]

/-! ## Bytes, hexadecimal and decimal text -/

def utf8Bytes (text : String) : Bytes := text.toByteArray.data.toList

theorem utf8Bytes_injective {text text' : String} (same : utf8Bytes text = utf8Bytes text') :
    text = text' := by
  apply String.toByteArray_inj.mp
  apply ByteArray.ext
  exact Array.ext' same

def hexDigit (value : UInt8) : Char :=
  if value < 10 then Char.ofNat (48 + value.toNat) else Char.ofNat (87 + value.toNat)

/-- `hex::encode`: two lower-case digits for each byte. -/
def hexEncode (bytes : Bytes) : String :=
  String.ofList (bytes.flatMap fun (byte : UInt8) => [hexDigit (byte >>> 4), hexDigit (byte &&& 15)])

def hexValue (digit : Char) : Nat := if digit.toNat < 58 then digit.toNat - 48 else digit.toNat - 87

theorem hexValue_digits (byte : UInt8) :
    16 * hexValue (hexDigit (byte >>> 4)) + hexValue (hexDigit (byte &&& 15)) = byte.toNat := by
  have all : ∀ value : Fin 256, 16 * hexValue (hexDigit (UInt8.ofNat value >>> 4)) +
      hexValue (hexDigit (UInt8.ofNat value &&& 15)) = value := by decide +kernel
  have here := all ⟨byte.toNat, byte.toNat_lt⟩
  rwa [UInt8.ofNat_toNat] at here

theorem hexEncode_injective {bytes bytes' : Bytes} (same : hexEncode bytes = hexEncode bytes') :
    bytes = bytes' := by
  have digits := String.ofList_injective same
  clear same
  induction bytes generalizing bytes' with
  | nil =>
    cases bytes' with
    | nil => rfl
    | cons byte rest => simp at digits
  | cons byte rest ih =>
    cases bytes' with
    | nil => simp at digits
    | cons byte' rest' =>
      simp only [List.flatMap_cons, List.cons_append, List.nil_append, List.cons.injEq] at digits
      obtain ⟨high, low, digits⟩ := digits
      have value := hexValue_digits byte
      rw [high, low, hexValue_digits byte'] at value
      rw [UInt8.toNat_inj.mp value, ih digits]

theorem mem_hexEncode {bytes : Bytes} {character : Char} (member : character ∈ (hexEncode bytes).toList) :
    ∃ value : Fin 16, character = hexDigit (.ofNat value) := by
  have digit {value : UInt8} (small : value.toNat < 16) :
      ∃ value' : Fin 16, hexDigit value = hexDigit (.ofNat value') := by
    refine ⟨⟨value.toNat, small⟩, ?_⟩
    rw [UInt8.ofNat_toNat]
  have halves : ∀ value : Fin 256, (UInt8.ofNat value >>> 4).toNat < 16 ∧ (UInt8.ofNat value &&& 15).toNat < 16 := by
    decide +kernel
  simp only [hexEncode, String.toList_ofList, List.mem_flatMap, List.mem_cons, List.not_mem_nil,
    or_false] at member
  obtain ⟨byte, -, half⟩ := member
  have small := halves ⟨byte.toNat, byte.toNat_lt⟩
  rw [UInt8.ofNat_toNat] at small
  cases half with
  | inl high => exact high ▸ digit small.1
  | inr low => exact low ▸ digit small.2

theorem quote_not_mem_hexEncode (bytes : Bytes) : '"' ∉ (hexEncode bytes).toList := by
  have all : ∀ value : Fin 16, '"' ≠ hexDigit (.ofNat value) := by decide
  intro member
  obtain ⟨value, same⟩ := mem_hexEncode member
  exact all value same

/-! ### Decimal text -/

theorem not_mem_digits (value : Nat) (separator : Char) (mark : separator.isDigit = false) :
    separator ∉ (toString value).toList := by
  intro member
  rw [Nat.toString_eq_repr, Nat.toList_repr] at member
  have digit := Nat.isDigit_of_mem_toDigits (by decide) (by decide) member
  rw [mark] at digit
  cases digit

theorem toString_injective {value value' : Nat} (same : (toString value).toList = (toString value').toList) :
    value = value' := by
  rw [Nat.toString_eq_repr, Nat.toString_eq_repr, Nat.toList_repr, Nat.toList_repr] at same
  have read := congrArg (fun digits => Nat.ofDigitChars 10 digits 0) same
  simpa [Nat.ofDigitChars_toDigits] using read

def decimalValue (digits : List Char) : Nat :=
  digits.foldl (fun value digit => 10 * value + (digit.toNat - 48)) 0

/-- `str::parse::<u64>`: an optional `+`, then one or more decimal digits, below `2^64`. -/
def parseU64 (text : String) : Option UInt64 :=
  let digits := match text.toList with
    | '+' :: rest => rest
    | characters => characters
  if digits ≠ [] ∧ digits.all Char.isDigit ∧ decimalValue digits < UInt64.size then
    some (UInt64.ofNat (decimalValue digits))
  else
    none

theorem parseU64_toString (value : UInt64) : parseU64 (toString value.toNat) = some value := by
  have digits : (toString value.toNat).toList = Nat.toDigits 10 value.toNat := by
    rw [Nat.toString_eq_repr, Nat.toList_repr]
  have digit {character : Char} (member : character ∈ Nat.toDigits 10 value.toNat) :
      character.isDigit = true := Nat.isDigit_of_mem_toDigits (by decide) (by decide) member
  have read : decimalValue (Nat.toDigits 10 value.toNat) = value.toNat :=
    Nat.ofDigitChars_toDigits (by decide) (by decide)
  have present : Nat.toDigits 10 value.toNat ≠ [] := by
    intro empty
    have nonempty : 0 < (toString value.toNat).toList.length := by
      rw [Nat.toString_eq_repr]
      exact Nat.length_repr_pos
    rw [digits, empty] at nonempty
    cases nonempty
  simp only [parseU64, digits]
  split
  · rename_i rest plus
    have sign := digit (plus ▸ List.mem_cons_self)
    exact absurd sign (by decide)
  · rw [if_pos ⟨present, List.all_eq_true.mpr fun _ member => digit member, by
      rw [read]; exact value.toNat_lt⟩, read, UInt64.ofNat_toNat]

/-- A decimal number without a sign and without a leading zero. -/
def IsCanonicalDecimal (digits : List Char) : Prop :=
  digits.head? ≠ some '+' ∧ (digits.head? = some '0' → digits = ['0'])

theorem head_toDigits {value : Nat} (positive : 0 < value) : (Nat.toDigits 10 value).head? ≠ some '0' := by
  induction value using Nat.strongRecOn with
  | ind value ih =>
    by_cases small : value < 10
    · rw [Nat.toDigits_of_lt_base small]
      have digits : ∀ digit : Fin 10, 0 < digit.val → [digit.val.digitChar].head? ≠ some '0' := by decide
      exact digits ⟨value, small⟩ positive
    · rw [Nat.toDigits_of_base_le (by decide) (Nat.le_of_not_lt small)]
      rw [List.head?_append_of_ne_nil _ Nat.toDigits_ne_nil]
      exact ih (value / 10) (Nat.div_lt_self positive (by decide)) (by omega)

theorem decimalValue_append (digits : List Char) (digit : Char) :
    decimalValue (digits ++ [digit]) = 10 * decimalValue digits + (digit.toNat - 48) := by
  rw [decimalValue, List.foldl_append]
  rfl

theorem digitChar_toNat {digit : Char} (isDigit : digit.isDigit = true) :
    digit.toNat - 48 < 10 ∧ (digit.toNat - 48).digitChar = digit := by
  have range : 48 ≤ digit.toNat ∧ digit.toNat ≤ 57 := by
    simpa [Char.isDigit, UInt32.le_iff_toNat_le] using isDigit
  refine ⟨by omega, ?_⟩
  have all : ∀ value : Fin 10, value.val.digitChar = Char.ofNat (value.val + 48) := by decide
  rw [all ⟨digit.toNat - 48, by omega⟩]
  change Char.ofNat (digit.toNat - 48 + 48) = digit
  rw [Nat.sub_add_cancel range.1, Char.ofNat_toNat]

theorem toDigits_decimalValue {digits : List Char} (present : digits ≠ []) (all : digits.all Char.isDigit = true)
    (head : digits.head? ≠ some '0') : Nat.toDigits 10 (decimalValue digits) = digits := by
  induction digits using List.reverseRecOn with
  | nil => exact absurd rfl present
  | append_singleton digits digit ih =>
    rw [List.all_append, Bool.and_eq_true, List.all_cons, List.all_nil, Bool.and_true] at all
    have last := digitChar_toNat all.2
    rw [decimalValue_append]
    by_cases empty : digits = []
    · subst empty
      change Nat.toDigits 10 (10 * 0 + _) = _
      rw [Nat.mul_zero, Nat.zero_add, Nat.toDigits_of_lt_base last.1, last.2]
      rfl
    · rw [List.head?_append_of_ne_nil _ empty] at head
      have front := ih empty all.1 head
      have positive : 0 < decimalValue digits := by
        apply Nat.pos_of_ne_zero
        intro zero
        rw [zero, Nat.toDigits_zero] at front
        exact head (front ▸ rfl)
      rw [← Nat.toDigits_append_toDigits (by decide) positive last.1, front, Nat.toDigits_of_lt_base last.1, last.2]

/-- Exactly the canonical numbers are read and written back as they were. -/
theorem toString_parseU64 {text : String} {value : UInt64} (parsed : parseU64 text = some value) :
    (toString value.toNat).toList = text.toList ↔ IsCanonicalDecimal text.toList := by
  rw [Nat.toString_eq_repr, Nat.toList_repr]
  constructor
  · intro same
    rw [← same]
    constructor
    · intro plus
      have digit := Nat.isDigit_of_mem_toDigits (by decide) (by decide) (List.mem_of_head? plus)
      exact absurd digit (by decide)
    · intro zero
      -- No other number than zero is written with a zero in front.
      match positive : value.toNat with
      | 0 => rfl
      | n + 1 =>
        rw [positive] at zero
        exact absurd zero (head_toDigits (Nat.succ_pos n))
  · rintro ⟨unsigned, leading⟩
    simp only [parseU64] at parsed
    split at parsed
    · rename_i rest plus
      exact absurd (by rw [plus]; rfl) unsigned
    · split at parsed
      · rename_i digits
        cases parsed
        rw [UInt64.toNat_ofNat_of_lt' digits.2.2]
        by_cases zero : text.toList.head? = some '0'
        · rw [leading zero]
          rfl
        · exact toDigits_decimalValue digits.1 digits.2.1 zero
      · cases parsed

end Tinfoil
