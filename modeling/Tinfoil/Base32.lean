import Mathlib.Data.List.Basic

/-! # Base32 with the upper-case alphabet, unpadded

Octets as eight bits each, the most significant one first, are regrouped by five.  `decode_encode` says
that the decoder, which refuses a rest of five bits or more and a rest that is not zero, reads every
encoding back.
-/

namespace Base32

/-- The number of a few bits, the most significant one first. -/
def number (bits : List Bool) : Nat := bits.foldl (fun number bit => 2 * number + bit.toNat) 0

def symbol (value : Nat) : Char := if value < 26 then Char.ofNat (65 + value) else Char.ofNat (24 + value)

def quintet (character : Char) : Option (List Bool) :=
  let code := character.toNat
  if 65 ≤ code ∧ code ≤ 90 then some (bits (code - 65))
  else if 50 ≤ code ∧ code ≤ 55 then some (bits (code - 24))
  else none
where
  bits (value : Nat) : List Bool := [4, 3, 2, 1, 0].map value.testBit

def octetBits (octet : UInt8) : List Bool := [7, 6, 5, 4, 3, 2, 1, 0].map octet.toNat.testBit

/-- The last group is filled up with zeros. -/
def symbols : List Bool → List Char
  | [] => []
  | a :: b :: c :: d :: e :: rest => symbol (number [a, b, c, d, e]) :: symbols rest
  | short => [symbol (number (short ++ List.replicate (5 - short.length) false))]

def encode (octets : List UInt8) : List Char := symbols (octets.flatMap octetBits)

/-- The octets of whole groups, and what may stand after them. -/
def octets : List Bool → Option (List UInt8)
  | a :: b :: c :: d :: e :: f :: g :: h :: rest =>
    (octets rest).map (UInt8.ofNat (number [a, b, c, d, e, f, g, h]) :: ·)
  | short => if short.length < 5 ∧ ∀ bit ∈ short, bit = false then some [] else none

def decode (text : List Char) : Option (List UInt8) := do
  let groups ← text.mapM quintet
  octets groups.flatten

/-! ## The alphabet -/

theorem quintet_symbol (a b c d e : Bool) : quintet (symbol (number [a, b, c, d, e])) = some [a, b, c, d, e] := by
  revert a b c d e
  decide

theorem number_octetBits (octet : UInt8) : UInt8.ofNat (number (octetBits octet)) = octet := by
  have all : ∀ value : Fin 256, number (octetBits (UInt8.ofNat value)) = value := by decide +kernel
  have here := all ⟨octet.toNat, octet.toNat_lt⟩
  rw [UInt8.ofNat_toNat] at here
  rw [here, UInt8.ofNat_toNat]

theorem five_of_length {bits : List Bool} (length : bits.length = 5) :
    ∃ a b c d e, bits = [a, b, c, d, e] := by
  obtain ⟨a, rest, rfl⟩ := List.exists_of_length_succ bits length
  obtain ⟨b, c, d, e, rfl⟩ := List.length_eq_four.mp (Nat.succ.inj length)
  exact ⟨a, b, c, d, e, rfl⟩

/-! ## Regrouping -/

theorem short_group {short : List Bool} (long : ∀ a b c d e rest, short ≠ a :: b :: c :: d :: e :: rest) :
    short.length < 5 ∧ ∃ a b c d e, short ++ List.replicate (5 - short.length) false = [a, b, c, d, e] := by
  have few : short.length < 5 := by
    by_contra many
    obtain ⟨a, b, c, d, e, front⟩ := five_of_length (List.length_take_of_le (Nat.not_lt.mp many))
    have whole := List.take_append_drop 5 short
    rw [front] at whole
    exact long a b c d e (short.drop 5) whole.symm
  refine ⟨few, five_of_length ?_⟩
  rw [List.length_append, List.length_replicate]
  omega

theorem mem_symbols {bits : List Bool} {character : Char} (member : character ∈ symbols bits) :
    ∃ a b c d e, character = symbol (number [a, b, c, d, e]) := by
  fun_induction symbols bits with
  | case1 => cases member
  | case2 a b c d e rest ih =>
    cases member with
    | head => exact ⟨a, b, c, d, e, rfl⟩
    | tail _ member => exact ih member
  | case3 short empty long =>
    obtain ⟨-, a, b, c, d, e, group⟩ := short_group long
    rw [group, List.mem_singleton] at member
    exact ⟨a, b, c, d, e, member⟩

/-- The groups of five bits hold all bits, and fewer than five zeros after them. -/
theorem symbols_bits (bits : List Bool) :
    ∃ groups padding, (symbols bits).mapM quintet = some groups ∧ padding < 5 ∧
      groups.flatten = bits ++ List.replicate padding false := by
  fun_induction symbols bits with
  | case1 => exact ⟨[], 0, rfl, by decide, rfl⟩
  | case2 a b c d e rest ih =>
    obtain ⟨groups, padding, read, few, whole⟩ := ih
    refine ⟨[a, b, c, d, e] :: groups, padding, ?_, few, ?_⟩
    · simp [List.mapM_cons, quintet_symbol, read]
    · simp [whole]
  | case3 short empty long =>
    obtain ⟨-, a, b, c, d, e, group⟩ := short_group long
    have present : 0 < short.length := List.length_pos_iff.mpr empty
    refine ⟨[[a, b, c, d, e]], 5 - short.length, ?_, by omega, ?_⟩
    · simp [group, List.mapM_cons, quintet_symbol]
    · rw [group, List.flatten_singleton]

theorem octets_flatMap (bytes : List UInt8) {padding : Nat} (few : padding < 5) :
    octets (bytes.flatMap octetBits ++ List.replicate padding false) = some bytes := by
  induction bytes with
  | nil =>
    have all : ∀ padding : Fin 5, octets (List.replicate padding false) = some [] := by decide
    exact all ⟨padding, few⟩
  | cons octet rest ih =>
    have whole := number_octetBits octet
    simp only [octetBits, List.map_cons, List.map_nil, List.flatMap_cons, List.cons_append, List.nil_append, octets]
      at whole ih ⊢
    rw [ih, whole, Option.map_some]

theorem decode_encode (bytes : List UInt8) : decode (encode bytes) = some bytes := by
  obtain ⟨groups, padding, read, few, whole⟩ := symbols_bits (bytes.flatMap octetBits)
  rw [decode, encode, read]
  show octets groups.flatten = some bytes
  rw [whole, octets_flatMap bytes few]

theorem encode_ne_nil {bytes : List UInt8} (present : bytes ≠ []) : encode bytes ≠ [] := by
  intro empty
  have read := decode_encode bytes
  rw [empty] at read
  exact present (Option.some.inj read).symm

example : encode [0x68, 0x65, 0x6c, 0x6c, 0x6f] = "NBSWY3DP".toList := by decide

end Base32
