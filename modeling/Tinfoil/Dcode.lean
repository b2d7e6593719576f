import Tinfoil.Base32
import Tinfoil.Basic
import Tinfoil.SortByKey
import Tinfoil.Text

/-! # Values in the names of a certificate

A value is spread over names `NN<chunk>.<label>.<domain>`, as base32 text cut into chunks with their
places.  `decodeFromSans_encoded` reads it back from any order of the names, among others;
`decodeFromSans_perm` says that the order never matters.
-/

namespace Tinfoil.Dcode

open SortByKey (sortByKey hasTwins)

/-- A DNS name of a certificate, in ASCII. -/
structure San where
  text : List Char
  ascii : ∀ character ∈ text, character.toNat < 128
  deriving DecidableEq

/-- The place and the chunk of a name, or nothing where it is to be skipped. -/
def chunkOfSan (label san : List Char) : Option (Nat × List Char) :=
  match san.splitOn '.' with
  | firstLabel :: secondLabel :: _ =>
    if secondLabel ≠ label then none
    else if firstLabel.length < 3 then none
    else
      let indexStr := firstLabel.take 2
      let chunk := firstLabel.drop 2
      if ¬ indexStr.all Char.isDigit then none
      else if chunk = [] then none
      else some (decimalValue indexStr, chunk.map Char.toUpper)
  | _ => none

/-- `BASE32_NOPAD.decode` is the base32 library's. -/
def decodeFromSans (base32Decode : List Char → Option Bytes) (sans : List San) (label : List Char) : Option Bytes :=
  let chunks := sans.filterMap fun san => chunkOfSan label san.text
  if chunks = [] then none
  else
    let sorted := sortByKey Prod.fst chunks
    if hasTwins Prod.fst sorted then none
    else base32Decode (sorted.flatMap Prod.snd)

/-! ## Order -/

section

variable {base32Decode : List Char → Option Bytes} {label : List Char}

/-- The order of the names never matters: chunks with different places have one order, others are refused. -/
theorem decodeFromSans_perm {sans sans' : List San} (same : sans.Perm sans') :
    decodeFromSans base32Decode sans label = decodeFromSans base32Decode sans' label := by
  have chunks := same.filterMap fun san => chunkOfSan label san.text
  simp only [decodeFromSans]
  generalize sans.filterMap _ = found, sans'.filterMap _ = found' at chunks ⊢
  have empty : found = [] ↔ found' = [] :=
    ⟨fun none => (none ▸ chunks).nil_eq.symm, fun none => (none ▸ chunks).eq_nil⟩
  have places := (chunks.map Prod.fst).nodup_iff
  rw [← SortByKey.hasTwins_sortByKey, ← SortByKey.hasTwins_sortByKey] at places
  simp only [empty]
  by_cases distinct : hasTwins Prod.fst (sortByKey Prod.fst found) = false
  · rw [SortByKey.sortByKey_eq_of_perm Prod.fst chunks distinct (places.mp distinct)]
  · have twins : hasTwins Prod.fst (sortByKey Prod.fst found') = true := by simpa using mt places.mpr distinct
    rw [Bool.not_eq_false] at distinct
    rw [distinct, twins, if_pos rfl, if_pos rfl]

end

/-! ## Names that are skipped -/

/-- The second label is the given one, and the first one is two digits and a chunk. -/
def Matches (label san : List Char) : Prop :=
  ∃ digit digit' chunk rest, san.splitOn '.' = (digit :: digit' :: chunk) :: label :: rest ∧
    digit.isDigit ∧ digit'.isDigit ∧ chunk ≠ []

theorem matches_of_chunk {label san : List Char} {found : Nat × List Char}
    (read : chunkOfSan label san = some found) : Matches label san := by
  unfold chunkOfSan at read
  split at read
  · rename_i firstLabel secondLabel rest labels
    simp only [Option.ite_none_left_eq_some, not_not] at read
    obtain ⟨rfl, long, digits, present, -⟩ := read
    -- Shorter labels have been skipped.
    cases firstLabel with
    | nil => exact absurd (by decide) long
    | cons digit others =>
      cases others with
      | nil => exact absurd (show 1 < 3 by decide) long
      | cons digit' chunk =>
        simp only [List.take_succ_cons, List.take_zero, List.all_cons, List.all_nil, Bool.and_true,
          Bool.and_eq_true] at digits
        exact ⟨digit, digit', chunk, rest, labels, digits.1, digits.2, present⟩
  · cases read

theorem chunkOfSan_eq_none {label san : List Char} (other : ¬ Matches label san) : chunkOfSan label san = none :=
  Option.eq_none_iff_forall_ne_some.mpr fun _ read => other (matches_of_chunk read)

/-! ## The names of a value -/

def twoDigits (index : Nat) : List Char := [Nat.digitChar (index / 10), Nat.digitChar (index % 10)]

/-- `NN<chunk>.<label>.<domain>` -/
def sanText (label domain : List Char) (index : Nat) (chunk : List Char) : List Char :=
  twoDigits index ++ chunk ++ '.' :: (label ++ '.' :: domain)

theorem twoDigits_spec {index : Nat} (small : index < 100) :
    (twoDigits index).all Char.isDigit ∧ decimalValue (twoDigits index) = index := by
  have all : ∀ index : Fin 100, (twoDigits index).all Char.isDigit ∧ decimalValue (twoDigits index) = index := by
    decide
  exact all ⟨index, small⟩

theorem chunkOfSan_sanText {label domain chunk : List Char} {index : Nat} (oneLabel : '.' ∉ label)
    (oneChunk : '.' ∉ chunk) (present : chunk ≠ []) (small : index < 100) :
    chunkOfSan label (sanText label domain index chunk) = some (index, chunk.map Char.toUpper) := by
  obtain ⟨digits, value⟩ := twoDigits_spec small
  have first : '.' ∉ twoDigits index ++ chunk := by
    rw [List.mem_append, not_or]
    exact ⟨fun member => absurd (List.all_eq_true.mp digits _ member) (by decide), oneChunk⟩
  have long : ¬ (twoDigits index ++ chunk).length < 3 := by
    have found := List.length_pos_iff.mpr present
    rw [List.length_append]
    simp only [twoDigits, List.length_cons, List.length_nil]
    omega
  have front : (twoDigits index ++ chunk).take 2 = twoDigits index := rfl
  have back : (twoDigits index ++ chunk).drop 2 = chunk := rfl
  rw [chunkOfSan, sanText, List.splitOn_append_cons_self_of_not_mem first,
    List.splitOn_append_cons_self_of_not_mem oneLabel]
  simp only [ne_eq, not_true_eq_false, if_false, long, front, back, digits, present, value]

theorem filterMap_sanText {label : List Char} {domain : Nat → List Char} {chunks : List (List Char)}
    (oneLabel : '.' ∉ label) (oneChunk : ∀ chunk ∈ chunks, '.' ∉ chunk) (present : ∀ chunk ∈ chunks, chunk ≠ [])
    (few : chunks.length ≤ 100) :
    (chunks.mapIdx fun index => sanText label (domain index) index).filterMap (chunkOfSan label) =
      chunks.zipIdx.map fun item => (item.2, item.1.map Char.toUpper) := by
  rw [List.mapIdx_eq_zipIdx_map, List.filterMap_map, ← List.filterMap_eq_map]
  refine List.filterMap_congr fun item member => ?_
  obtain ⟨place, inside⟩ := List.getElem?_eq_some_iff.mp (List.mem_zipIdx_iff_getElem?.mp member)
  have chunk : item.1 ∈ chunks := inside ▸ List.getElem_mem place
  exact chunkOfSan_sanText oneLabel (oneChunk _ chunk) (present _ chunk) (by omega)

theorem upper_ne_dot {v : Bytes} {character : Char} (member : character.toUpper ∈ Base32.encode v) :
    character ≠ '.' := by
  rintro rfl
  obtain ⟨a, b, c, d, e, same⟩ := Base32.mem_symbols member
  revert a b c d e
  decide

/-- The names of a value are among `sans`: its base32 text in any letter case, cut into at most 100 chunks. -/
inductive Carries (label : List Char) (v : Bytes) (sans : List San) : Prop where
  | intro {chunks : List (List Char)} {domain : Nat → List Char} {entries others : List San}
    (cut : chunks.flatten.map Char.toUpper = Base32.encode v) (present : ∀ chunk ∈ chunks, chunk ≠ [])
    (few : chunks.length ≤ 100)
    (named : entries.map San.text = chunks.mapIdx fun index => sanText label (domain index) index)
    (other : ∀ san ∈ others, ¬ Matches label san.text) (order : sans.Perm (entries ++ others))

theorem Carries.recovered {base32Decode : List Char → Option Bytes}
    (inverse : ∀ bytes, base32Decode (Base32.encode bytes) = some bytes) {label : List Char} (oneLabel : '.' ∉ label)
    {v : Bytes} (nonempty : v ≠ []) {sans : List San} (carried : Carries label v sans) :
    decodeFromSans base32Decode sans label = some v := by
  obtain ⟨cut, present, few, named, other, order⟩ := carried
  rename_i chunks domain entries others
  -- Base32 has no dot, in either case.
  have oneChunk : ∀ chunk ∈ chunks, '.' ∉ chunk := by
    intro chunk member dot
    have inside : '.'.toUpper ∈ Base32.encode v :=
      cut ▸ List.mem_map_of_mem (List.mem_flatten_of_mem member dot)
    exact upper_ne_dot inside rfl
  have skipped : others.filterMap (fun san => chunkOfSan label san.text) = [] := by
    rw [List.filterMap_eq_nil_iff]
    exact fun san member => chunkOfSan_eq_none (other san member)
  have read : entries.filterMap (fun san => chunkOfSan label san.text) =
      chunks.zipIdx.map fun item => (item.2, item.1.map Char.toUpper) := by
    rw [← filterMap_sanText oneLabel oneChunk present few, ← named, List.filterMap_map]
    rfl
  -- The chunks are read with their places, which are in order.
  have ascending : (chunks.zipIdx.map fun item => (item.2, item.1.map Char.toUpper)).Pairwise
      fun item item' => item.1 < item'.1 := by
    have places : (chunks.zipIdx.map Prod.snd).Pairwise (· < ·) := by
      rw [List.zipIdx_map_snd]
      exact List.pairwise_lt_range'
    exact List.pairwise_map.mpr (List.pairwise_map.mp places)
  have text : (chunks.zipIdx.map fun item => (item.2, item.1.map Char.toUpper)).flatMap Prod.snd = Base32.encode v := by
    have upper : (chunks.zipIdx.map fun item => (item.2, item.1.map Char.toUpper)).map Prod.snd =
        chunks.map (List.map Char.toUpper) := by
      conv_rhs => rw [← List.zipIdx_map_fst 0 chunks]
      rw [List.map_map, List.map_map]
      rfl
    rw [← cut, List.map_flatten, ← upper]
    rfl
  have found : (chunks.zipIdx.map fun item => (item.2, item.1.map Char.toUpper)) ≠ [] := by
    intro none
    rw [none] at text
    exact Base32.encode_ne_nil nonempty text.symm
  rw [decodeFromSans_perm order, decodeFromSans, List.filterMap_append, skipped, List.append_nil, read]
  simp only [found, if_false, SortByKey.sortByKey_of_ascending Prod.fst ascending, text, inverse,
    (SortByKey.ascending_iff Prod.fst (ascending.imp le_of_lt)).mpr ascending, Bool.false_eq_true]

/-- A value is read back from its names, in any order and among others, and every list of names is read alike in
every order. -/
theorem decodeFromSans_encoded {base32Decode : List Char → Option Bytes}
    (inverse : ∀ bytes, base32Decode (Base32.encode bytes) = some bytes) :
    (∀ label v sans, '.' ∉ label → v ≠ [] → Carries label v sans →
      decodeFromSans base32Decode sans label = some v) ∧
    ∀ label (sans sans' : List San), sans.Perm sans' →
      decodeFromSans base32Decode sans label = decodeFromSans base32Decode sans' label :=
  ⟨fun _ _ _ oneLabel nonempty carried => carried.recovered inverse oneLabel nonempty,
    fun _ _ _ => decodeFromSans_perm⟩

def Sample.san (text : String) (ascii : text.toList.all fun character => character.toNat < 128) : San where
  text := text.toList
  ascii := by simpa using ascii

/-- Two chunks in mixed case, the later one first, and a name that is skipped. -/
def Sample.sans : List San :=
  [Sample.san "01y3dp.hpke.example.com" (by decide), Sample.san "xxAA.hpke.example.com" (by decide),
    Sample.san "00NbSW.hpke.example.com" (by decide)]

theorem decodeFromSans_hello :
    decodeFromSans Base32.decode Sample.sans "hpke".toList = some [0x68, 0x65, 0x6c, 0x6c, 0x6f] := by
  have skipped : ¬ Matches "hpke".toList "xxAA.hpke.example.com".toList := by
    intro found
    obtain ⟨digit, digit', chunk, rest, labels, isDigit, -⟩ := found
    have first := congrArg List.head? (congrArg List.flatten labels)
    rw [show ("xxAA.hpke.example.com".toList.splitOn '.').flatten.head? = some 'x' by decide] at first
    cases first
    exact absurd isDigit (by decide)
  have carried := @Carries.intro "hpke".toList [0x68, 0x65, 0x6c, 0x6c, 0x6f] Sample.sans
    ["NbSW".toList, "y3dp".toList] (fun _ => "example.com".toList)
    [Sample.san "00NbSW.hpke.example.com" (by decide), Sample.san "01y3dp.hpke.example.com" (by decide)]
    [Sample.san "xxAA.hpke.example.com" (by decide)] (by decide) (by decide) (by decide) (by decide)
    (by simpa [Sample.san] using skipped) (List.isPerm_iff.mp (by decide))
  exact (decodeFromSans_encoded Base32.decode_encode).1 _ _ _ (by decide) (by decide) carried

end Tinfoil.Dcode
