import Mathlib.Data.List.Basic

/-! # Regular expressions over text

Expressions with anchors and where they match: a stretch of text between what is before and after it.
`parse` reads the patterns made of literals, escapes, anchors and repeated complements of a character;
`parse_escape` says that an escaped text is read back as that text, whatever follows.
-/

namespace Regex

inductive Set where
  | only (character : Char)
  | except (character : Char)
  deriving DecidableEq, Repr

def Set.contains : Set → Char → Bool
  | only character, other => other = character
  | except character, other => other ≠ character

inductive Expr where
  | empty
  /-- `^` and `$`, without the multi-line flag -/
  | start
  | finish
  | one (set : Set)
  /-- One or more characters. -/
  | many (set : Set)
  | seq (first second : Expr)
  deriving DecidableEq, Repr

namespace Expr

/-- The expression matches the text between `before` and `after`. -/
def Matches : Expr → (before here after : List Char) → Prop
  | empty, _, here, _ => here = []
  | start, before, here, _ => here = [] ∧ before = []
  | finish, _, here, after => here = [] ∧ after = []
  | one set, _, here, _ => ∃ character, here = [character] ∧ set.contains character
  | many set, _, here, _ => here ≠ [] ∧ ∀ character ∈ here, set.contains character
  | seq first second, before, here, after =>
    ∃ front back, here = front ++ back ∧ first.Matches before front (back ++ after) ∧
      second.Matches (before ++ front) back after

/-- The expression matches somewhere in the text (`is_match`). -/
def Found (expr : Expr) (text : List Char) : Prop :=
  ∃ before rest, text = before ++ rest ∧ ∃ here after, rest = here ++ after ∧ expr.Matches before here after

/-! ## Matching is decidable -/

theorem exists_split_iff {split : List Char → List Char → Prop} (text : List Char) :
    (∃ front back, text = front ++ back ∧ split front back) ↔
      ∃ place < text.length + 1, split (text.take place) (text.drop place) := by
  constructor
  · intro halves
    obtain ⟨front, back, whole, holds⟩ := halves
    refine ⟨front.length, ?_, ?_⟩
    · rw [whole, List.length_append]
      omega
    · rwa [whole, List.take_left, List.drop_left]
  · intro cut
    obtain ⟨place, -, holds⟩ := cut
    exact ⟨_, _, (List.take_append_drop place text).symm, holds⟩

instance decidableMatches : (expr : Expr) → (before here after : List Char) →
    Decidable (expr.Matches before here after)
  | empty, _, here, _ => inferInstanceAs (Decidable (here = []))
  | start, before, here, _ => inferInstanceAs (Decidable (here = [] ∧ before = []))
  | finish, _, here, after => inferInstanceAs (Decidable (here = [] ∧ after = []))
  | one set, _, here, _ =>
    match here with
    | [] => .isFalse fun ⟨_, same, _⟩ => by simp at same
    | [character] =>
      decidable_of_iff (set.contains character = true) (by simp [Matches])
    | _ :: _ :: _ => .isFalse fun ⟨_, same, _⟩ => by simp at same
  | many set, _, here, _ =>
    inferInstanceAs (Decidable (here ≠ [] ∧ ∀ character ∈ here, set.contains character = true))
  | seq first second, before, here, after =>
    have (front back : List Char) : Decidable (first.Matches before front (back ++ after)) :=
      decidableMatches first before front (back ++ after)
    have (front back : List Char) : Decidable (second.Matches (before ++ front) back after) :=
      decidableMatches second (before ++ front) back after
    decidable_of_iff _ (exists_split_iff here).symm

instance (expr : Expr) (text : List Char) : Decidable (expr.Found text) :=
  have (before rest : List Char) :
      Decidable (∃ here after, rest = here ++ after ∧ expr.Matches before here after) :=
    decidable_of_iff _ (exists_split_iff rest).symm
  decidable_of_iff _ (exists_split_iff text).symm

/-! ## Literal text -/

def literally (text : List Char) (expr : Expr) : Expr :=
  text.foldr (fun character rest => seq (one (.only character)) rest) expr

theorem matches_literally {text before here after : List Char} {expr : Expr} :
    (literally text expr).Matches before here after ↔
      ∃ rest, here = text ++ rest ∧ expr.Matches (before ++ text) rest after := by
  induction text generalizing before here with
  | nil => simp [literally]
  | cons character text ih =>
    have step : (literally (character :: text) expr).Matches before here after ↔
        ∃ front back, here = front ++ back ∧ (one (.only character)).Matches before front (back ++ after) ∧
          (literally text expr).Matches (before ++ front) back after := .rfl
    rw [step]
    constructor
    · intro matched
      obtain ⟨front, back, whole, ⟨character', single, same⟩, later⟩ := matched
      obtain ⟨rest, back', matched⟩ := ih.mp later
      have first : character' = character := by simpa [Set.contains] using same
      refine ⟨rest, ?_, ?_⟩
      · rw [whole, single, first, back', List.cons_append, List.cons_append, List.nil_append]
      · rwa [single, first, List.append_assoc] at matched
    · intro remaining
      obtain ⟨rest, whole, matched⟩ := remaining
      refine ⟨[character], text ++ rest, whole, ⟨character, rfl, by simp [Set.contains]⟩, ih.mpr ⟨rest, rfl, ?_⟩⟩
      rwa [List.append_assoc]

/-- Two literal texts around other characters than the separator, and nothing else. -/
theorem found_anchored_iff {front back text : List Char} {separator : Char} :
    (seq start (literally front (seq (many (.except separator)) (literally back (seq finish empty))))).Found text ↔
      ∃ between, between ≠ [] ∧ separator ∉ between ∧ text = front ++ (between ++ back) := by
  constructor
  · intro found
    -- Between the two anchors there is the front, what is between, and the back.
    obtain ⟨before, rest, whole, here, after, split, _, inner, same, ⟨rfl, atStart⟩, matched⟩ := found
    obtain ⟨_, inner', between, tail, rfl, ⟨present, others⟩, matched⟩ := matches_literally.mp matched
    obtain ⟨_, tail', _, rest', rfl, ⟨rfl, atEnd⟩, nothing⟩ := matches_literally.mp matched
    have nothing : rest' = [] := nothing
    refine ⟨between, present, fun inside => ?_, ?_⟩
    · have other := others separator inside
      simp [Set.contains] at other
    · have last : after = [] := (List.append_eq_nil_iff.mp atEnd).2
      rw [whole, atStart, split, same, inner', tail', nothing, last]
      simp
  · intro parts
    obtain ⟨between, present, absent, whole⟩ := parts
    refine ⟨[], text, rfl, text, [], (List.append_nil text).symm, [], text, rfl, ⟨rfl, rfl⟩, ?_⟩
    refine matches_literally.mpr ⟨_, whole, between, back, rfl, ⟨present, fun character inside => ?_⟩, ?_⟩
    · have other : character ≠ separator := fun same => absent (same ▸ inside)
      simp [Set.contains, other]
    · exact matches_literally.mpr ⟨[], (List.append_nil back).symm, [], [], rfl, ⟨rfl, rfl⟩, rfl⟩

end Expr

/-! ## Patterns -/

/-- `is_meta_character` -/
def isMeta (character : Char) : Bool := character ∈ "\\.+*?()|[]\x7b\x7d^$#&-~".toList

/-- A pattern for the text itself (`escape`). -/
def escape (text : List Char) : List Char :=
  text.flatMap fun character => if isMeta character then ['\\', character] else [character]

/-- The expression of a pattern, where it is made of literals, escaped characters, anchors and one or
more characters other than a given one. -/
def parse : List Char → Option Expr
  | [] => some .empty
  | '^' :: pattern => (parse pattern).map (.seq .start)
  | '$' :: pattern => (parse pattern).map (.seq .finish)
  | '\\' :: character :: pattern =>
    if isMeta character then (parse pattern).map (.literally [character]) else none
  | '[' :: '^' :: character :: ']' :: '+' :: pattern =>
    if isMeta character then none else (parse pattern).map (.seq (.many (.except character)))
  | character :: pattern =>
    if isMeta character then none else (parse pattern).map (.literally [character])

theorem parse_cons {character : Char} (plain : isMeta character = false) (pattern : List Char) :
    parse (character :: pattern) = (parse pattern).map (.literally [character]) := by
  rw [parse]
  · simp [plain]
  all_goals
    intros
    subst_vars
    revert plain
    decide

theorem parse_escape (text pattern : List Char) :
    parse (escape text ++ pattern) = (parse pattern).map (.literally text) := by
  induction text with
  | nil =>
    have nothing : Expr.literally [] = id := rfl
    rw [nothing, Option.map_id]
    rfl
  | cons character text ih =>
    have split : escape (character :: text) ++ pattern =
        (if isMeta character then ['\\', character] else [character]) ++ (escape text ++ pattern) := by
      simp [escape]
    rw [split]
    cases special : isMeta character with
    | true =>
      simp only [if_true, List.cons_append, List.nil_append, parse, special, ih, Option.map_map]
      rfl
    | false =>
      simp only [Bool.false_eq_true, if_false, List.cons_append, List.nil_append, parse_cons special, ih,
        Option.map_map]
      rfl

end Regex
