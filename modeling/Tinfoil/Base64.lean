import Mathlib.Data.List.Basic

/-! # Base64 with the standard alphabet and canonical padding

`decode_iff`: the decoder accepts exactly the encodings, each as the encoding of its bytes.
-/

namespace Base64

def symbol (value : Nat) : Char :=
  if value < 26 then Char.ofNat (value + 65)
  else if value < 52 then Char.ofNat (value + 71)
  else if value < 62 then Char.ofNat (value - 4)
  else if value = 62 then '+'
  else '/'

def sextet (character : Char) : Option Nat :=
  let code := character.toNat
  if 65 ≤ code ∧ code < 91 then some (code - 65)
  else if 97 ≤ code ∧ code < 123 then some (code - 71)
  else if 48 ≤ code ∧ code < 58 then some (code + 4)
  else if code = 43 then some 62
  else if code = 47 then some 63
  else none

def encode : List UInt8 → List Char
  | [] => []
  | [first] => [symbol (first.toNat / 4), symbol (first.toNat % 4 * 16), '=', '=']
  | [first, second] =>
    [symbol (first.toNat / 4), symbol (first.toNat % 4 * 16 + second.toNat / 16),
      symbol (second.toNat % 16 * 4), '=']
  | first :: second :: third :: rest =>
    symbol (first.toNat / 4) :: symbol (first.toNat % 4 * 16 + second.toNat / 16) ::
      symbol (second.toNat % 16 * 4 + third.toNat / 64) :: symbol (third.toNat % 64) :: encode rest

/-- The bytes of the last group: padding only here, and the bits it drops are zero. -/
def decodeLast (a b c d : Char) : Option (List UInt8) :=
  if c = '=' ∧ d = '=' then do
    let a ← sextet a
    let b ← sextet b
    if b % 16 = 0 then some [UInt8.ofNat (a * 4 + b / 16)] else none
  else if d = '=' then do
    let a ← sextet a
    let b ← sextet b
    let c ← sextet c
    if c % 4 = 0 then
      some [UInt8.ofNat (a * 4 + b / 16), UInt8.ofNat (b % 16 * 16 + c / 4)]
    else none
  else none

def decodeGroup (a b c d : Char) : Option (List UInt8) := do
  let a ← sextet a
  let b ← sextet b
  let c ← sextet c
  let d ← sextet d
  return [UInt8.ofNat (a * 4 + b / 16), UInt8.ofNat (b % 16 * 16 + c / 4),
    UInt8.ofNat (c % 4 * 64 + d)]

def decode : List Char → Option (List UInt8)
  | [] => some []
  | a :: b :: c :: d :: rest =>
    match decodeGroup a b c d with
    | some bytes => (decode rest).map (bytes ++ ·)
    | none => if rest = [] then decodeLast a b c d else none
  | _ => none

/-! ## The alphabet -/

theorem sextet_symbol {value : Nat} (small : value < 64) : sextet (symbol value) = some value := by
  have all : ∀ value : Fin 64, sextet (symbol value) = some value.val := by decide
  exact all ⟨value, small⟩

theorem symbol_ne_padding {value : Nat} (small : value < 64) : symbol value ≠ '=' := by
  have all : ∀ value : Fin 64, symbol value ≠ '=' := by decide
  exact all ⟨value, small⟩

theorem sextet_eq {character : Char} {value : Nat} (found : sextet character = some value) :
    value < 64 ∧ symbol value = character := by
  have back (code : Nat) (same : character.toNat = code) : Char.ofNat code = character := by
    rw [← same, Char.ofNat_toNat]
  simp only [sextet] at found
  split at found
  · cases found
    have below : character.toNat - 65 < 26 := by omega
    exact ⟨by omega, by rw [symbol, if_pos below]; exact back _ (by omega)⟩
  · split at found
    · cases found
      have above : ¬ character.toNat - 71 < 26 := by omega
      have below : character.toNat - 71 < 52 := by omega
      exact ⟨by omega, by rw [symbol, if_neg above, if_pos below]; exact back _ (by omega)⟩
    · split at found
      · cases found
        have above : ¬ character.toNat + 4 < 52 := by omega
        have below : character.toNat + 4 < 62 := by omega
        refine ⟨by omega, ?_⟩
        rw [symbol, if_neg (by omega), if_neg above, if_pos below]
        exact back _ (by omega)
      · split at found
        · rename_i plus
          cases found
          exact ⟨by omega, back 43 plus⟩
        · split at found
          · rename_i slash
            cases found
            exact ⟨by omega, back 47 slash⟩
          · cases found

theorem sextet_padding : sextet '=' = none := by decide

/-! ## Decoding is the inverse of encoding -/

theorem decodeGroup_symbols {first second third : UInt8} :
    decodeGroup (symbol (first.toNat / 4)) (symbol (first.toNat % 4 * 16 + second.toNat / 16))
      (symbol (second.toNat % 16 * 4 + third.toNat / 64)) (symbol (third.toNat % 64)) =
        some [first, second, third] := by
  have := first.toNat_lt
  have := second.toNat_lt
  have := third.toNat_lt
  simp only [decodeGroup, sextet_symbol (by omega : first.toNat / 4 < 64),
    sextet_symbol (by omega : first.toNat % 4 * 16 + second.toNat / 16 < 64),
    sextet_symbol (by omega : second.toNat % 16 * 4 + third.toNat / 64 < 64),
    sextet_symbol (by omega : third.toNat % 64 < 64), Option.bind_eq_bind, Option.bind_some,
    Option.pure_def, Option.some.injEq, List.cons.injEq, and_true]
  refine ⟨?_, ?_, ?_⟩
  · rw [show first.toNat / 4 * 4 + (first.toNat % 4 * 16 + second.toNat / 16) / 16 = first.toNat by omega]
    exact UInt8.ofNat_toNat
  · rw [show (first.toNat % 4 * 16 + second.toNat / 16) % 16 * 16 +
      (second.toNat % 16 * 4 + third.toNat / 64) / 4 = second.toNat by omega]
    exact UInt8.ofNat_toNat
  · rw [show (second.toNat % 16 * 4 + third.toNat / 64) % 4 * 64 + third.toNat % 64 = third.toNat by
      omega]
    exact UInt8.ofNat_toNat

theorem decodeGroup_padding {a b c : Char} : decodeGroup a b c '=' = none := by
  simp [decodeGroup, sextet_padding]

theorem decode_encode (bytes : List UInt8) : decode (encode bytes) = some bytes := by
  induction bytes using encode.induct with
  | case1 => rfl
  | case2 first =>
    have := first.toNat_lt
    simp only [encode, decode, decodeGroup_padding, decodeLast, and_self, if_true,
      sextet_symbol (by omega : first.toNat / 4 < 64),
      sextet_symbol (by omega : first.toNat % 4 * 16 < 64), Option.bind_eq_bind, Option.bind_some]
    rw [if_pos (by omega)]
    rw [show first.toNat / 4 * 4 + first.toNat % 4 * 16 / 16 = first.toNat by omega]
    rw [UInt8.ofNat_toNat]
  | case3 first second =>
    have := first.toNat_lt
    have := second.toNat_lt
    have full := symbol_ne_padding (by omega : second.toNat % 16 * 4 < 64)
    simp only [encode, decode, decodeGroup_padding, decodeLast, full, false_and, if_false, if_true,
      sextet_symbol (by omega : first.toNat / 4 < 64),
      sextet_symbol (by omega : first.toNat % 4 * 16 + second.toNat / 16 < 64),
      sextet_symbol (by omega : second.toNat % 16 * 4 < 64), Option.bind_eq_bind, Option.bind_some]
    rw [if_pos (by omega)]
    rw [show first.toNat / 4 * 4 + (first.toNat % 4 * 16 + second.toNat / 16) / 16 = first.toNat by omega]
    rw [show (first.toNat % 4 * 16 + second.toNat / 16) % 16 * 16 + second.toNat % 16 * 4 / 4 =
      second.toNat by omega]
    rw [UInt8.ofNat_toNat, UInt8.ofNat_toNat]
  | case4 first second third rest ih =>
    simp [encode, decode, decodeGroup_symbols, ih]

theorem toNat_byte {value : Nat} (small : value < 256) : (UInt8.ofNat value).toNat = value :=
  UInt8.toNat_ofNat_of_lt' small

theorem decodeGroup_eq {a b c d : Char} {bytes : List UInt8}
    (decoded : decodeGroup a b c d = some bytes) :
    ∃ first second third, bytes = [first, second, third] ∧
      encode [first, second, third] = [a, b, c, d] := by
  simp only [decodeGroup, Option.bind_eq_bind, Option.bind_eq_some_iff, Option.pure_def,
    Option.some.injEq] at decoded
  obtain ⟨p, foundA, q, foundB, r, foundC, s, foundD, rfl⟩ := decoded
  obtain ⟨_, rfl⟩ := sextet_eq foundA
  obtain ⟨_, rfl⟩ := sextet_eq foundB
  obtain ⟨_, rfl⟩ := sextet_eq foundC
  obtain ⟨_, rfl⟩ := sextet_eq foundD
  refine ⟨_, _, _, rfl, ?_⟩
  simp only [encode, toNat_byte (by omega : p * 4 + q / 16 < 256),
    toNat_byte (by omega : q % 16 * 16 + r / 4 < 256), toNat_byte (by omega : r % 4 * 64 + s < 256)]
  rw [show (p * 4 + q / 16) / 4 = p by omega,
    show (p * 4 + q / 16) % 4 * 16 + (q % 16 * 16 + r / 4) / 16 = q by omega,
    show (q % 16 * 16 + r / 4) % 16 * 4 + (r % 4 * 64 + s) / 64 = r by omega,
    show (r % 4 * 64 + s) % 64 = s by omega]

theorem decodeLast_eq {a b c d : Char} {bytes : List UInt8}
    (decoded : decodeLast a b c d = some bytes) : encode bytes = [a, b, c, d] := by
  simp only [decodeLast] at decoded
  split at decoded
  · rename_i padding
    -- Two characters in front of the padding are one octet.
    obtain ⟨rfl, rfl⟩ := padding
    simp only [Option.bind_eq_bind, Option.bind_eq_some_iff] at decoded
    obtain ⟨p, foundA, q, foundB, decoded⟩ := decoded
    obtain ⟨_, rfl⟩ := sextet_eq foundA
    obtain ⟨_, rfl⟩ := sextet_eq foundB
    split at decoded
    · cases decoded
      simp only [encode, toNat_byte (by omega : p * 4 + q / 16 < 256)]
      rw [show (p * 4 + q / 16) / 4 = p by omega, show (p * 4 + q / 16) % 4 * 16 = q by omega]
    · cases decoded
  · split at decoded
    · rename_i padding
      -- Three are two octets.
      subst padding
      simp only [Option.bind_eq_bind, Option.bind_eq_some_iff] at decoded
      obtain ⟨p, foundA, q, foundB, r, foundC, decoded⟩ := decoded
      obtain ⟨_, rfl⟩ := sextet_eq foundA
      obtain ⟨_, rfl⟩ := sextet_eq foundB
      obtain ⟨_, rfl⟩ := sextet_eq foundC
      split at decoded
      · cases decoded
        simp only [encode, toNat_byte (by omega : p * 4 + q / 16 < 256),
          toNat_byte (by omega : q % 16 * 16 + r / 4 < 256)]
        rw [show (p * 4 + q / 16) / 4 = p by omega,
          show (p * 4 + q / 16) % 4 * 16 + (q % 16 * 16 + r / 4) / 16 = q by omega,
          show (q % 16 * 16 + r / 4) % 16 * 4 = r by omega]
      · cases decoded
    · cases decoded

theorem encode_of_decode {text : List Char} {bytes : List UInt8}
    (decoded : decode text = some bytes) : encode bytes = text := by
  fun_induction decode text generalizing bytes with
  | case1 =>
    cases decoded
    rfl
  | case2 a b c d rest front group ih =>
    obtain ⟨first, second, third, rfl, same⟩ := decodeGroup_eq group
    obtain ⟨tail, decodedTail, rfl⟩ := Option.map_eq_some_iff.mp decoded
    simp only [encode, List.cons.injEq] at same
    simp [encode, same, ih decodedTail]
  | case3 a b c d group => exact decodeLast_eq decoded
  | case4 => cases decoded
  | case5 => cases decoded

theorem decode_iff {text : List Char} {bytes : List UInt8} :
    decode text = some bytes ↔ text = encode bytes :=
  ⟨fun decoded => (encode_of_decode decoded).symm, fun same => same ▸ decode_encode bytes⟩

theorem mem_encode {bytes : List UInt8} {character : Char} (member : character ∈ encode bytes) :
    character = '=' ∨ ∃ value < 64, character = symbol value := by
  induction bytes using encode.induct with
  | case1 => cases member
  | case2 first =>
    have := first.toNat_lt
    simp only [encode, List.mem_cons, List.not_mem_nil, or_false, or_self] at member
    rcases member with rfl | rfl | rfl
    · exact .inr ⟨_, by omega, rfl⟩
    · exact .inr ⟨_, by omega, rfl⟩
    · exact .inl rfl
  | case3 first second =>
    have := first.toNat_lt
    have := second.toNat_lt
    simp only [encode, List.mem_cons, List.not_mem_nil, or_false] at member
    rcases member with rfl | rfl | rfl | rfl
    · exact .inr ⟨_, by omega, rfl⟩
    · exact .inr ⟨_, by omega, rfl⟩
    · exact .inr ⟨_, by omega, rfl⟩
    · exact .inl rfl
  | case4 first second third rest ih =>
    have := first.toNat_lt
    have := second.toNat_lt
    have := third.toNat_lt
    simp only [encode, List.mem_cons] at member
    rcases member with rfl | rfl | rfl | rfl | member
    · exact .inr ⟨_, by omega, rfl⟩
    · exact .inr ⟨_, by omega, rfl⟩
    · exact .inr ⟨_, by omega, rfl⟩
    · exact .inr ⟨_, by omega, rfl⟩
    · exact ih member

theorem quote_not_mem_encode (bytes : List UInt8) : '"' ∉ encode bytes := by
  intro member
  obtain padding | ⟨value, small, same⟩ := mem_encode member
  · exact absurd padding (by decide)
  · have found := sextet_symbol small
    rw [← same] at found
    exact absurd found (by simp [show sextet '"' = none from by decide])

theorem forall_encode {p : Char → Bool} (padding : p '=' = false) (alphabet : ∀ value : Fin 64, p (symbol value) = false)
    (bytes : List UInt8) : ∀ character ∈ encode bytes, p character = false := by
  intro character member
  obtain rfl | ⟨value, small, rfl⟩ := mem_encode member
  · exact padding
  · exact alphabet ⟨value, small⟩

theorem encode_ne_nil {bytes : List UInt8} (present : bytes ≠ []) : encode bytes ≠ [] := by
  intro empty
  have read := decode_encode bytes
  rw [empty] at read
  cases read
  exact present rfl

theorem encode_injective {bytes bytes' : List UInt8} (same : encode bytes = encode bytes') : bytes = bytes' := by
  have read := decode_encode bytes
  rw [same, decode_encode] at read
  exact (Option.some.inj read).symm

end Base64
