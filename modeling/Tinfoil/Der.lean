import Mathlib.Data.Nat.ModEq
import Mathlib.Data.Nat.Log
import Mathlib.Tactic.NormNum
import Mathlib.Tactic.Ring

/-! # Unsigned integers in octets

Big-endian octet strings of a fixed width, and the distinguished encoding of a pair of unsigned integers: a
sequence of two INTEGERs, each in as few octets as its sign bit allows.  `decodePair_encodePair` and
`decodePair_eq_some` say that the decoder accepts the encodings and nothing else; `encodePair_ne` that the
encoding of a pair is never the two numbers side by side.
-/

namespace Der

/-! ## Fixed width -/

/-- The last `width` octets of a number, the most significant one first. -/
def bigEndian : Nat → Nat → List UInt8
  | 0, _ => []
  | width + 1, number => UInt8.ofNat (number / 256 ^ width) :: bigEndian width number

def value : List UInt8 → Nat
  | [] => 0
  | octet :: rest => octet.toNat * 256 ^ rest.length + value rest

@[simp] theorem length_bigEndian (width number : Nat) : (bigEndian width number).length = width := by
  induction width with
  | zero => rfl
  | succ width ih => simp [bigEndian, ih]

theorem value_bigEndian_mod (width number : Nat) :
    value (bigEndian width number) = number % 256 ^ width := by
  induction width with
  | zero => simp [bigEndian, value, Nat.mod_one]
  | succ width ih =>
    have octet : (UInt8.ofNat (number / 256 ^ width)).toNat = number / 256 ^ width % 256 := UInt8.toNat_ofNat'
    have parts : number % 256 ^ (width + 1) = number % 256 ^ width + 256 ^ width * (number / 256 ^ width % 256) :=
      Nat.mod_pow_succ
    rw [bigEndian, value, ih, length_bigEndian, octet, parts]
    ring

theorem value_bigEndian {width number : Nat} (fits : number < 256 ^ width) :
    value (bigEndian width number) = number := by
  rw [value_bigEndian_mod, Nat.mod_eq_of_lt fits]

theorem value_append (high low : List UInt8) :
    value (high ++ low) = value high * 256 ^ low.length + value low := by
  induction high with
  | nil => simp [value]
  | cons octet rest ih =>
    rw [List.cons_append, value, value, ih, List.length_append, pow_add]
    ring

theorem value_lt (octets : List UInt8) : value octets < 256 ^ octets.length := by
  induction octets with
  | nil => simp [value]
  | cons octet rest ih =>
    have small : octet.toNat + 1 ≤ 256 := octet.toNat_lt
    calc value (octet :: rest) < octet.toNat * 256 ^ rest.length + 256 ^ rest.length :=
          Nat.add_lt_add_left ih _
      _ = (octet.toNat + 1) * 256 ^ rest.length := by ring
      _ ≤ 256 * 256 ^ rest.length := Nat.mul_le_mul_right _ small
      _ = 256 ^ (octet :: rest).length := by rw [List.length_cons, pow_succ']

theorem bigEndian_add (width high low : Nat) :
    bigEndian width (high * 256 ^ width + low) = bigEndian width low := by
  induction width generalizing high with
  | zero => rfl
  | succ width ih =>
    have shifted : high * 256 ^ (width + 1) = high * 256 * 256 ^ width := by ring
    have octet : UInt8.ofNat ((high * 256 * 256 ^ width + low) / 256 ^ width) =
        UInt8.ofNat (low / 256 ^ width) := by
      rw [Nat.add_comm, Nat.add_mul_div_right _ _ (Nat.pow_pos (by omega)), ← UInt8.toNat_inj,
        UInt8.toNat_ofNat', UInt8.toNat_ofNat']
      exact Nat.add_mul_mod_self_right ..
    rw [bigEndian, bigEndian, shifted, octet, ih]

theorem bigEndian_value (octets : List UInt8) : bigEndian octets.length (value octets) = octets := by
  induction octets with
  | nil => rfl
  | cons octet rest ih =>
    have low := value_lt rest
    have octet' : UInt8.ofNat ((octet.toNat * 256 ^ rest.length + value rest) / 256 ^ rest.length) = octet := by
      rw [Nat.add_comm, Nat.add_mul_div_right _ _ (Nat.pow_pos (by omega)), Nat.div_eq_of_lt low,
        Nat.zero_add, UInt8.ofNat_toNat]
    rw [value, List.length_cons, bigEndian, octet', bigEndian_add, ih]

/-! ## INTEGERs -/

/-- The octets that hold a number and a sign bit of zero. -/
def octetCount (number : Nat) : Nat := (number.log2 + 1) / 8 + 1

theorem lt_octetCount (number : Nat) : number < 256 ^ octetCount number := by
  have below : number < 2 ^ (number.log2 + 1) := Nat.lt_log2_self
  have wide : number.log2 + 1 ≤ 8 * octetCount number := by
    unfold octetCount
    omega
  calc number < 2 ^ (number.log2 + 1) := below
    _ ≤ 2 ^ (8 * octetCount number) := Nat.pow_le_pow_right (by omega) wide
    _ = 256 ^ octetCount number := by rw [pow_mul]; norm_num

/-- A number with a leading octet below 128 takes exactly the octets it fills. -/
theorem octetCount_eq {width number : Nat} (positive : 256 ^ width ≤ number)
    (clear : number < 128 * 256 ^ width) : octetCount number = width + 1 := by
  have powers : 256 ^ width = 2 ^ (8 * width) := by rw [pow_mul]; norm_num
  have nonzero : number ≠ 0 := by
    have := Nat.two_pow_pos (8 * width)
    omega
  have low : 8 * width ≤ number.log2 := by
    rw [Nat.le_log2 nonzero, ← powers]
    exact positive
  have high : number.log2 < 8 * width + 7 := by
    rw [Nat.log2_lt nonzero, pow_add, ← powers]
    omega
  unfold octetCount
  omega

/-- With fewer octets than a fixed width asks for, the number has a leading zero octet there. -/
theorem lt_of_octetCount {width number : Nat} (short : octetCount number ≤ width) : number < 256 ^ width :=
  Nat.lt_of_lt_of_le (lt_octetCount number) (Nat.pow_le_pow_right (by omega) short)

def content (number : Nat) : List UInt8 := bigEndian (octetCount number) number

@[simp] theorem length_content (number : Nat) : (content number).length = octetCount number :=
  length_bigEndian _ _

@[simp] theorem value_content (number : Nat) : value (content number) = number :=
  value_bigEndian (lt_octetCount number)

/-- INTEGER, with a length in one octet. -/
def integer (number : Nat) : List UInt8 := 0x02 :: UInt8.ofNat (octetCount number) :: content number

/-- SEQUENCE of two INTEGERs, with a length in one octet. -/
def encodePair (first second : Nat) : List UInt8 :=
  0x30 :: UInt8.ofNat (octetCount first + octetCount second + 4) :: (integer first ++ integer second)

theorem length_encodePair (first second : Nat) :
    (encodePair first second).length = octetCount first + octetCount second + 6 := by
  simp [encodePair, integer]
  omega

/-! ## Decoding -/

def candidate (octets : List UInt8) : Nat × Nat :=
  let count := ((octets.drop 3).headD 0).toNat
  (value ((octets.drop 4).take count), value (octets.drop (4 + count + 2)))

def decodePair (octets : List UInt8) : Option (Nat × Nat) :=
  let pair := candidate octets
  if encodePair pair.1 pair.2 = octets then some pair else none

theorem candidate_encodePair {first second : Nat} (short : octetCount first < 256) :
    candidate (encodePair first second) = (first, second) := by
  have count : (UInt8.ofNat (octetCount first)).toNat = octetCount first := UInt8.toNat_ofNat_of_lt' short
  have front : ((encodePair first second).drop 4).take (octetCount first) = content first := by
    simp [encodePair, integer]
  have back : (encodePair first second).drop (4 + octetCount first + 2) = content second := by
    have shape : encodePair first second = (0x30 :: UInt8.ofNat (octetCount first + octetCount second + 4) ::
        (integer first ++ [0x02, UInt8.ofNat (octetCount second)])) ++ content second := by
      simp [encodePair, integer]
    rw [shape]
    apply List.drop_left'
    simp [integer]
    omega
  simp only [candidate]
  have third : ((encodePair first second).drop 3).headD 0 = UInt8.ofNat (octetCount first) := rfl
  rw [third, count, front, back, value_content, value_content]

theorem decodePair_encodePair {first second : Nat} (short : octetCount first < 256) :
    decodePair (encodePair first second) = some (first, second) := by
  simp [decodePair, candidate_encodePair short]

theorem decodePair_eq_some {octets : List UInt8} {pair : Nat × Nat} (decoded : decodePair octets = some pair) :
    encodePair pair.1 pair.2 = octets := by
  simp only [decodePair] at decoded
  split at decoded
  · rename_i same
    cases decoded
    exact same
  · cases decoded

/-- Two numbers side by side are not the encoding of that pair, even where they start like one: the first
number would repeat itself every four octets, up to the zeros that lead the second one. -/
theorem encodePair_ne {first second : Nat} (leading : first / 256 ^ 31 = 0x30) :
    bigEndian 32 first ++ bigEndian 32 second ≠ encodePair first second := by
  intro same
  -- A number that starts with 0x30 has no zero octet in front.
  have count : octetCount first = 32 := by
    apply octetCount_eq
    · omega
    · omega
  have content_first : content first = bigEndian 32 first := by rw [content, count]
  have short : octetCount second = 26 := by
    have lengths := congrArg List.length same
    rw [length_encodePair, List.length_append, length_bigEndian, length_bigEndian, count] at lengths
    omega
  have small : second / 256 ^ 31 = 0 := Nat.div_eq_of_lt (lt_of_octetCount (by omega))
  -- The first number begins four octets after the encoding does.
  have period (place : Nat) (inside : place < 32) :
      (bigEndian 32 first ++ bigEndian 32 second)[place + 4]? =
        (bigEndian 32 first ++ bigEndian 32 second)[place]? := by
    have left : (bigEndian 32 first ++ bigEndian 32 second)[place]? = (bigEndian 32 first)[place]? :=
      List.getElem?_append_left (by rw [length_bigEndian]; exact inside)
    have right : (encodePair first second)[place + 4]? = (content first ++ integer second)[place]? := rfl
    rw [left, same, right, List.getElem?_append_left (by rw [length_content, count]; exact inside),
      content_first]
  have repeated : (bigEndian 32 first ++ bigEndian 32 second)[32]? =
      (bigEndian 32 first ++ bigEndian 32 second)[0]? := by
    rw [period 28 (by omega), period 24 (by omega), period 20 (by omega), period 16 (by omega),
      period 12 (by omega), period 8 (by omega), period 4 (by omega), period 0 (by omega)]
  have start : (bigEndian 32 first ++ bigEndian 32 second)[0]? = some (UInt8.ofNat (first / 256 ^ 31)) := rfl
  have middle : (bigEndian 32 first ++ bigEndian 32 second)[32]? = some (UInt8.ofNat (second / 256 ^ 31)) := rfl
  rw [start, middle, leading, small] at repeated
  cases repeated

end Der
