import Tinfoil.Basic
import Tinfoil.UserCacheSecret.Scan
import Tinfoil.Json.Writer

/-! # Splicing the cache secret into a request body

`inject_user_cache_secret` works on the bytes of a body, `provision_value` on its parsed form.
The splice changes one member and leaves every other byte; both ways give the same body. -/

namespace Tinfoil

/-- The client-level source of the secret; a deferred one holds what its resolution gave. -/
inductive UserCacheSecret where
  | deferred (resolved : String)
  | explicit (secret : String)
  deriving DecidableEq, Repr

namespace UserCacheSecret

open Json

def get : UserCacheSecret → Option String
  | deferred secret => if secret = "" then none else some secret
  | explicit secret => if secret = "" then none else some secret

def userCacheSecretField : String := "user_cache_secret"

/-- A map of raw values, read at the front of a text, and the text after it.  Raw values are kept
as they are spelt. -/
def deserializeMap (raw : Bytes) : Option (List (String × Bytes) × Bytes) := do
  let (_, root, rest) ← parseFront raw
  let members ← root.members
  return (OrderedMap.ofList (members.map fun member => (member.1, member.2.text)), rest)

/-- `Deserializer::end`: nothing but white space is left. -/
def atEnd (rest : Bytes) : Bool := (splitBlank rest).2 = []

def lastNonBlank (raw : Bytes) : Option Nat :=
  let trimmed := raw.rdropWhile isBlank
  if trimmed = [] then none else some (trimmed.length - 1)

def fieldName : Bytes := quote :: (utf8Bytes userCacheSecretField ++ [quote, colon])

def replaceEmpty (toJson : String → Option Bytes) (raw : Bytes) (secret : String) : Option Bytes := do
  let (start, stop) ← topLevelValueRange raw userCacheSecretField
  let value ← toJson secret
  return raw.take start ++ value ++ raw.drop stop

def insertBeforeEnd (toJson : String → Option Bytes) (raw : Bytes) (body : List (String × Bytes))
    (secret : String) : Option Bytes := do
  let close ← lastNonBlank raw
  if raw[close]? = some 0x7D then
    let value ← toJson secret
    return raw.take close ++ (if body = [] then [] else [comma]) ++ fieldName ++ value ++ raw.drop close
  else none

def injectUserCacheSecret (toJson : String → Option Bytes) (raw : Bytes) (secret : String) : Option Bytes := do
  let (body, rest) ← deserializeMap raw
  if atEnd rest then
    match body.lookup userCacheSecretField with
    | some existing => if existing = [quote, quote] then replaceEmpty toJson raw secret else none
    | none => insertBeforeEnd toJson raw body secret
  else none

def provisionValue (body : Value) (source : UserCacheSecret) : Value :=
  match body with
  | .object map =>
    if (map.lookup userCacheSecretField).any fun existing => existing.asStr ≠ some "" then body
    else
      match source.get with
      | none => body
      | some secret => .object (OrderedMap.insert userCacheSecretField (.string secret) map)
  | _ => body

/-! ## Bodies that take the secret -/

def IsObject (raw : Bytes) (members : List (String × Tree .value)) : Prop :=
  ∃ document : Document, raw = document.text ∧ document.root.members = some members

def Absent (members : List (String × Tree .value)) : Prop :=
  ∀ member ∈ members, member.1 ≠ userCacheSecretField

/-- The members before and after the only member of the name, which is the empty string. -/
structure EmptyOnce (members front back : List (String × Tree .value)) (value : Tree .value) : Prop where
  members_eq : members = front ++ (userCacheSecretField, value) :: back
  front_absent : Absent front
  back_absent : Absent back
  empty : value.asString = some ""

def Eligible (raw : Bytes) : Prop :=
  ∃ members, IsObject raw members ∧ (Absent members ∨ ∃ front back value, EmptyOnce members front back value)

/-- One insertion of a member, or one replacement of an empty string; every other byte stays. -/
inductive Splice (value : Bytes) : Bytes → Bytes → Prop where
  | insert (front separator back : Bytes) (allowed : separator = [] ∨ separator = [comma]) :
    Splice value (front ++ back) (front ++ (separator ++ fieldName ++ value) ++ back)
  | replace (front back : Bytes) : Splice value (front ++ [quote, quote] ++ back) (front ++ value ++ back)

/-- The members with the name set to a value: a new last member, or the empty one in its place. -/
inductive SetField (value : Tree .value) :
    List (String × Tree .value) → List (String × Tree .value) → Prop where
  | append (members : List (String × Tree .value)) (absent : Absent members) :
    SetField value members (members ++ [(userCacheSecretField, value)])
  | replace {members front back : List (String × Tree .value)} {empty : Tree .value}
    (once : EmptyOnce members front back empty) :
    SetField value members (front ++ (userCacheSecretField, value) :: back)

structure Spliced (toJson : String → Option Bytes) (number : Bytes → Option Number) (secret : String)
    (raw out : Bytes) : Prop where
  oneSplice : ∃ value, toJson secret = some value ∧ Splice value raw out
  sameObject : ∃ members members' value, IsObject raw members ∧ IsObject out members' ∧
    SetField value members members' ∧ value.asString = some secret
  final : ∀ secret', injectUserCacheSecret toJson out secret' = none
  agrees : ∀ body source, parseValue number raw = some body → UserCacheSecret.get source = some secret →
    parseValue number out = some (provisionValue body source)

/-! ## The splice on syntax trees -/

def fieldHead : Head .object := .name (writtenPieces userCacheSecretField) Blank.none Blank.none

theorem fieldHead_text : fieldHead.text = fieldName := by decide

theorem fieldHead_label : fieldHead.label = some userCacheSecretField :=
  decodeString_written userCacheSecretField

def append {kind : Kind} (head : Head kind) (value : Tree .value) : {layer : Layer} → Tree layer →
    layer = .entries kind → Tree layer
  | _, .last before head' value' after, rfl => .cons before head' value' after (.last Blank.none head value Blank.none)
  | _, .cons before head' value' after rest, rfl => .cons before head' value' after (append head value rest rfl)

theorem append_text {kind : Kind} (head : Head kind) (value : Tree .value) {layer : Layer} (tree : Tree layer)
    (entries : layer = .entries kind) :
    (append head value tree entries).text = tree.text ++ comma :: (head.text ++ value.text) := by
  induction tree with
  | word | string | empty | group => cases entries
  | last before head' value' after ih =>
    cases entries
    simp [append, Tree.text, Blank.none]
  | cons before head' value' after rest _ ih =>
    cases entries
    simp [append, Tree.text, ih rfl]

theorem append_labelled {kind : Kind} {head : Head kind} {label : Label kind} (labelled : head.label = some label)
    (value : Tree .value) (tree : Tree (.entries kind)) :
    (append head value tree rfl).labelled = tree.labelled.map fun entries => entries ++ [(label, value)] := by
  suffices all : ∀ {layer : Layer} (tree : Tree layer) (entries : layer = .entries kind),
      (entries ▸ append head value tree entries).labelled =
        (entries ▸ tree).labelled.map fun entries => entries ++ [(label, value)] from all tree rfl
  intro layer tree
  induction tree with
  | word | string | empty | group => intro entries; cases entries
  | last before head' value' after ih =>
    intro entries
    cases entries
    cases named : head'.label <;> simp [append, Tree.labelled, labelled, named]
  | cons before head' value' after rest _ ih =>
    intro entries
    cases entries
    have following := ih rfl
    cases named : head'.label with
    | none => simp [append, Tree.labelled, named]
    | some label' =>
      cases others : rest.labelled with
      | none => simp [append, Tree.labelled, named, others, following]
      | some entries => simp [append, Tree.labelled, named, others, following]

def appendMember (value : Tree .value) : Tree .value → Tree .value
  | .empty .object inside => .group .object (.last inside fieldHead value Blank.none)
  | .group .object entries => .group .object (append fieldHead value entries rfl)
  | root => root

theorem appendMember_text {root : Tree .value} {members : List (String × Tree .value)}
    (object : root.members = some members) (value : Tree .value) :
    ∃ inner, root.text = inner ++ [0x7D] ∧ (appendMember value root).text =
      inner ++ ((if members = [] then [] else [comma]) ++ fieldName ++ value.text) ++ [0x7D] := by
  cases root with
  | word | string => cases object
  | empty kind inside =>
    cases kind with
    | array => cases object
    | object =>
      cases object
      refine ⟨0x7B :: inside.bytes, rfl, ?_⟩
      simp [appendMember, Tree.text, Kind.opening, Kind.closing, fieldHead_text, Blank.none]
  | group kind entries =>
    cases kind with
    | array => cases object
    | object =>
      have labelled : entries.labelled = some members := object
      have present : members ≠ [] := by
        rintro rfl
        cases entries with
        | last before head value after =>
          rw [Tree.labelled, Option.map_eq_some_iff] at labelled
          obtain ⟨label, -, impossible⟩ := labelled
          cases impossible
        | cons before head value after rest =>
          simp only [Tree.labelled, bind, Option.bind_eq_some_iff, pure, Option.some.injEq] at labelled
          obtain ⟨label, -, others, -, impossible⟩ := labelled
          cases impossible
      refine ⟨0x7B :: entries.text, rfl, ?_⟩
      simp [appendMember, Tree.text, Kind.opening, Kind.closing, append_text, fieldHead_text, present]

theorem appendMember_members {root : Tree .value} {members : List (String × Tree .value)}
    (object : root.members = some members) (value : Tree .value) :
    (appendMember value root).members = some (members ++ [(userCacheSecretField, value)]) := by
  cases root with
  | word | string => cases object
  | empty kind inside =>
    cases kind with
    | array => cases object
    | object =>
      cases object
      rw [appendMember, Tree.members, Tree.labelled, fieldHead_label]
      rfl
  | group kind entries =>
    cases kind with
    | array => cases object
    | object =>
      have labelled : entries.labelled = some members := object
      rw [appendMember, Tree.members, append_labelled fieldHead_label, labelled]
      rfl

theorem ranges_length {layer : Layer} (tree : Tree layer) (object : layer = .entries .object)
    {members : List (String × Tree .value)} (labelled : (object ▸ tree).labelled = some members) (index : Nat) :
    (ranges userCacheSecretField tree index).length =
      members.countP fun member => member.1 = userCacheSecretField := by
  induction tree generalizing members index with
  | word | string | empty | group => cases object
  | last before head value after ih =>
    cases object
    cases head with
    | name pieces beforeColon afterColon =>
      simp only [Tree.labelled, Option.map_eq_some_iff] at labelled
      obtain ⟨label, named, rfl⟩ := labelled
      have decoded : decodeString pieces = some label := named
      by_cases same : label = userCacheSecretField <;> simp [ranges, Head.IsNamed, decoded, same]
  | cons before head value after rest _ ih =>
    cases object
    cases head with
    | name pieces beforeColon afterColon =>
      simp only [Tree.labelled, bind, Option.bind_eq_some_iff, pure, Option.some.injEq] at labelled
      obtain ⟨label, named, others, following, rfl⟩ := labelled
      have decoded : decodeString pieces = some label := named
      have count := ih rfl following
      by_cases same : label = userCacheSecretField <;>
        simp [ranges, Head.IsNamed, decoded, same, count]

/-- Entries around the only value of the name: the same text around another value spells the
entries with that value. -/
theorem splice_entries {layer : Layer} (tree : Tree layer) (object : layer = .entries .object)
    {front back : List (String × Tree .value)} {old : Tree .value} (frontAbsent : Absent front)
    (backAbsent : Absent back)
    (labelled : (object ▸ tree).labelled = some (front ++ (userCacheSecretField, old) :: back)) (index : Nat) :
    ∃ textFront textBack, tree.text = textFront ++ old.text ++ textBack ∧
      ranges userCacheSecretField tree index =
        [(index + textFront.length, index + textFront.length + old.text.length)] ∧
      ∀ new : Tree .value, ∃ tree' : Tree (.entries .object), tree'.text = textFront ++ new.text ++ textBack ∧
        tree'.labelled = some (front ++ (userCacheSecretField, new) :: back) := by
  induction tree generalizing front index with
  | word | string | empty | group => cases object
  | last before head value after ih =>
    -- With nothing in front, the last entry is the one of the name.
    cases object
    simp only [Tree.labelled, Option.map_eq_some_iff] at labelled
    obtain ⟨label, named, same⟩ := labelled
    cases front with
    | cons entry others => simp at same
    | nil =>
      simp only [List.nil_append, List.cons.injEq, Prod.mk.injEq] at same
      obtain ⟨⟨rfl, rfl⟩, rfl⟩ := same
      cases head with
      | name pieces beforeColon afterColon =>
        have decoded : decodeString pieces = some userCacheSecretField := named
        refine ⟨before.bytes ++ (Head.name pieces beforeColon afterColon).text, after.bytes, ?_, ?_, ?_⟩
        · simp [Tree.text]
        · simp [ranges, Head.IsNamed, decoded, Nat.add_assoc]
        · intro new
          refine ⟨.last before (.name pieces beforeColon afterColon) new after, by simp [Tree.text], ?_⟩
          simp [Tree.labelled, Head.label, decoded]
  | cons before head value after rest _ ih =>
    cases object
    simp only [Tree.labelled, bind, Option.bind_eq_some_iff, pure, Option.some.injEq] at labelled
    obtain ⟨label, named, others, following, same⟩ := labelled
    cases head with
    | name pieces beforeColon afterColon =>
      have decoded : decodeString pieces = some label := named
      cases front with
      | nil =>
        simp only [List.nil_append, List.cons.injEq, Prod.mk.injEq] at same
        obtain ⟨⟨rfl, rfl⟩, rfl⟩ := same
        -- No later entry has the name, so that the range stays the only one.
        have noMore : ∀ index, ranges userCacheSecretField rest index = [] := by
          intro index
          have count := ranges_length rest rfl following index
          rw [List.countP_eq_zero.mpr (by simpa [Absent] using backAbsent)] at count
          exact List.length_eq_zero_iff.mp count
        refine ⟨before.bytes ++ (Head.name pieces beforeColon afterColon).text,
          after.bytes ++ comma :: rest.text, ?_, ?_, ?_⟩
        · simp [Tree.text]
        · simp [ranges, Head.IsNamed, decoded, noMore, Nat.add_assoc]
        · intro new
          refine ⟨.cons before (.name pieces beforeColon afterColon) new after rest, by simp [Tree.text], ?_⟩
          simp [Tree.labelled, Head.label, decoded, following]
      | cons entry front =>
        simp only [List.cons_append, List.cons.injEq] at same
        obtain ⟨rfl, rfl⟩ := same
        -- Not this entry: the one of the name is further back.
        have other : label ≠ userCacheSecretField := frontAbsent _ List.mem_cons_self
        have restAbsent : Absent front := fun member inFront => frontAbsent member (List.mem_cons_of_mem _ inFront)
        obtain ⟨textFront, textBack, text, place, replaced⟩ := ih rfl restAbsent following
          (index + before.bytes.length + (Head.name pieces beforeColon afterColon).text.length +
            value.text.length + after.bytes.length + 1)
        refine ⟨before.bytes ++ (Head.name pieces beforeColon afterColon).text ++ value.text ++ after.bytes ++
          comma :: textFront, textBack, ?_, ?_, ?_⟩
        · simp [Tree.text, text]
        · simp only [ranges, Head.IsNamed, decoded, Option.some.injEq, other, decide_false, Bool.false_eq_true,
            if_false, place, List.length_append, List.length_cons]
          congr 2 <;> omega
        · intro new
          obtain ⟨rest', text', labelled'⟩ := replaced new
          refine ⟨.cons before (.name pieces beforeColon afterColon) value after rest', by simp [Tree.text, text'], ?_⟩
          simp [Tree.labelled, Head.label, decoded, labelled']

/-! ## The splice on bytes -/

variable {toJson : String → Option Bytes} {number : Bytes → Option Number} {secret : String}

def rawTexts (members : List (String × Tree .value)) : List (String × Bytes) :=
  members.map fun member => (member.1, member.2.text)

theorem inject_document (document : Document) {members : List (String × Tree .value)}
    (object : document.root.members = some members) :
    injectUserCacheSecret toJson document.text secret =
      match (OrderedMap.ofList (rawTexts members)).lookup userCacheSecretField with
      | some existing => if existing = [quote, quote] then replaceEmpty toJson document.text secret else none
      | none => insertBeforeEnd toJson document.text (OrderedMap.ofList (rawTexts members)) secret := by
  have ended : atEnd document.after.bytes = true := by
    rw [atEnd, splitBlank_blank]
    rfl
  simp only [injectUserCacheSecret, deserializeMap, parseFront_text, object, bind, Option.bind_some, pure,
    ended, if_true]
  rfl

theorem isObject_of_inject {raw out : Bytes} (injected : injectUserCacheSecret toJson raw secret = some out) :
    ∃ document : Document, ∃ members, raw = document.text ∧ document.root.members = some members := by
  simp only [injectUserCacheSecret, deserializeMap, bind, Option.bind_eq_some_iff, Prod.exists, pure,
    Option.some.injEq, Prod.mk.injEq, Option.ite_none_right_eq_some] at injected
  obtain ⟨body, rest, ⟨before, root, back, front, members, object, -, rfl⟩, ended, -⟩ := injected
  have blank := splitBlank_text back
  rw [atEnd, decide_eq_true_eq] at ended
  rw [ended, List.append_nil] at blank
  refine ⟨⟨before, root, (splitBlank back).1⟩, members, ?_, object⟩
  rw [parseFront_sound front, Document.text, blank]

theorem rawTexts_absent {members : List (String × Tree .value)} (absent : Absent members) :
    ∀ entry ∈ rawTexts members, entry.1 ≠ userCacheSecretField := by
  intro entry member
  obtain ⟨source, inMembers, rfl⟩ := List.mem_map.mp member
  exact absent source inMembers

theorem lookup_absent {members : List (String × Tree .value)} (absent : Absent members) :
    (OrderedMap.ofList (rawTexts members)).lookup userCacheSecretField = none :=
  OrderedMap.lookup_ofList_none.mpr (rawTexts_absent absent)

theorem lookup_last {back : List (String × Tree .value)} (absent : Absent back)
    (front : List (String × Tree .value)) (value : Tree .value) :
    (OrderedMap.ofList (rawTexts (front ++ (userCacheSecretField, value) :: back))).lookup userCacheSecretField =
      some value.text := by
  have split : rawTexts (front ++ (userCacheSecretField, value) :: back) =
      rawTexts front ++ (userCacheSecretField, value.text) :: rawTexts back := by simp [rawTexts]
  rw [split, OrderedMap.lookup_ofList_last (rawTexts_absent absent)]

theorem empty_iff {value : Tree .value} : value.asString = some "" ↔ value.text = [quote, quote] := by
  constructor
  · intro empty
    cases value with
    | string pieces =>
      have decoded : decodeString pieces = some "" := empty
      rw [decodeString_empty] at decoded
      subst decoded
      rfl
    | word | empty | group => cases empty
  · intro spelt
    have same : value.text = (Tree.string []).text := spelt
    rw [Tree.text_injective same]
    rfl

theorem lastNonBlank_brace {front : Bytes} (blank : Blank) :
    lastNonBlank (front ++ 0x7D :: blank.bytes) = some front.length := by
  have trimmed : (front ++ [0x7D] ++ blank.bytes).rdropWhile isBlank = front ++ [0x7D] := by
    apply rdropWhile_blank
    intro present
    rw [List.getLast_concat]
    rfl
  have text : front ++ 0x7D :: blank.bytes = front ++ [0x7D] ++ blank.bytes := by simp
  rw [lastNonBlank, text, trimmed]
  simp

theorem insertBeforeEnd_eq {front value : Bytes} (blank : Blank) {body : List (String × Bytes)}
    (written : toJson secret = some value) :
    insertBeforeEnd toJson (front ++ 0x7D :: blank.bytes) body secret =
      some (front ++ ((if body = [] then [] else [comma]) ++ fieldName ++ value) ++ 0x7D :: blank.bytes) := by
  simp [insertBeforeEnd, lastNonBlank_brace, written]

theorem inject_absent (document : Document) {members : List (String × Tree .value)} {value : Tree .value}
    (object : document.root.members = some members) (absent : Absent members)
    (written : toJson secret = some value.text) :
    let document' := Document.mk document.before (appendMember value document.root) document.after
    injectUserCacheSecret toJson document.text secret = some document'.text ∧
      Splice value.text document.text document'.text := by
  intro document'
  obtain ⟨inner, rootText, appended⟩ := appendMember_text object value
  have text : document.text = (document.before.bytes ++ inner) ++ 0x7D :: document.after.bytes := by
    simp [Document.text, rootText]
  have text' : document'.text = (document.before.bytes ++ inner) ++
      ((if members = [] then [] else [comma]) ++ fieldName ++ value.text) ++ 0x7D :: document.after.bytes := by
    simp [document', Document.text, appended]
  have empty : (OrderedMap.ofList (rawTexts members) = []) = (members = []) := by
    rw [OrderedMap.ofList_eq_nil, rawTexts, List.map_eq_nil_iff]
  constructor
  · rw [inject_document document object, lookup_absent absent]
    simp only [text, insertBeforeEnd_eq document.after written, empty, text']
  · rw [text, text']
    apply Splice.insert
    by_cases none : members = []
    · exact .inl (if_pos none)
    · exact .inr (if_neg none)

theorem splice_bytes (front middle back value : Bytes) :
    (front ++ middle ++ back).take front.length ++ value ++
      (front ++ middle ++ back).drop (front.length + middle.length) = front ++ value ++ back := by
  rw [← List.length_append, List.drop_left, List.append_assoc front middle, List.take_left]

theorem inject_once (document : Document) {members front back : List (String × Tree .value)}
    {old value : Tree .value} (object : document.root.members = some members)
    (once : EmptyOnce members front back old) (written : toJson secret = some value.text) :
    ∃ root' : Tree .value, root'.members = some (front ++ (userCacheSecretField, value) :: back) ∧
      injectUserCacheSecret toJson document.text secret =
        some (Document.mk document.before root' document.after).text ∧
      Splice value.text document.text (Document.mk document.before root' document.after).text := by
  obtain ⟨rfl, frontAbsent, backAbsent, empty⟩ := once
  have spelt := empty_iff.mp empty
  obtain ⟨before, root, after⟩ := document
  cases root with
  | word | string => cases object
  | empty kind inside =>
    cases kind with
    | array => cases object
    | object => simp [Tree.members] at object
  | group kind entries =>
    cases kind with
    | array => cases object
    | object =>
      have labelled : entries.labelled = some (front ++ (userCacheSecretField, old) :: back) := object
      obtain ⟨textFront, textBack, text, place, replaced⟩ := splice_entries entries rfl frontAbsent backAbsent
        labelled (before.bytes.length + 1)
      obtain ⟨entries', text', labelled'⟩ := replaced value
      have whole : (Document.mk before (.group .object entries) after).text =
          (before.bytes ++ 0x7B :: textFront) ++ [quote, quote] ++ (textBack ++ 0x7D :: after.bytes) := by
        simp [Document.text, Tree.text, text, spelt, Kind.opening, Kind.closing]
      have whole' : (Document.mk before (.group .object entries') after).text =
          (before.bytes ++ 0x7B :: textFront) ++ value.text ++ (textBack ++ 0x7D :: after.bytes) := by
        simp [Document.text, Tree.text, text', Kind.opening, Kind.closing]
      have range : topLevelValueRange (Document.mk before (.group .object entries) after).text userCacheSecretField =
          some ((before.bytes ++ 0x7B :: textFront).length, (before.bytes ++ 0x7B :: textFront).length + 2) := by
        rw [topLevelValueRange_group (by rw [labelled]; rfl) userCacheSecretField (by rfl), place, spelt]
        simp only [soleRange, List.length_append, List.length_cons, List.length_nil]
        congr 2 <;> omega
      refine ⟨.group .object entries', labelled', ?_, ?_⟩
      · rw [inject_document _ object, lookup_last backAbsent, spelt]
        simp only [if_true, replaceEmpty, range, bind, Option.bind_some, written, pure]
        rw [whole, whole']
        exact congrArg some (splice_bytes _ [quote, quote] _ value.text)
      · rw [whole, whole']
        exact Splice.replace _ _

theorem exists_last {members : List (String × Tree .value)} (present : ¬Absent members) :
    ∃ front value back, members = front ++ (userCacheSecretField, value) :: back ∧ Absent back := by
  induction members using List.reverseRecOn with
  | nil =>
    refine absurd ?_ present
    intro member inNil
    cases inNil
  | append_singleton members entry ih =>
    by_cases named : entry.1 = userCacheSecretField
    · refine ⟨members, entry.2, [], ?_, ?_⟩
      · rw [← named]
      · intro member inNil
        cases inNil
    · have earlier : ¬Absent members := by
        intro absent
        refine present fun member inMembers => ?_
        rw [List.mem_append, List.mem_singleton] at inMembers
        cases inMembers with
        | inl inFront => exact absent member inFront
        | inr last => rwa [last]
      obtain ⟨front, value, back, rfl, absent⟩ := ih earlier
      refine ⟨front, value, back ++ [entry], by simp, fun member inBack => ?_⟩
      rw [List.mem_append, List.mem_singleton] at inBack
      cases inBack with
      | inl inBack => exact absent member inBack
      | inr last => rwa [last]

theorem soleRange_some {places : List (Nat × Nat)} {range : Nat × Nat}
    (sole : soleRange none places = some range) : places.length = 1 := by
  match places with
  | [] => cases sole
  | [_] => rfl
  | _ :: _ :: _ => cases sole

theorem absent_of_range (document : Document) {front back : List (String × Tree .value)} {value : Tree .value}
    (object : document.root.members = some (front ++ (userCacheSecretField, value) :: back))
    {range : Nat × Nat} (found : topLevelValueRange document.text userCacheSecretField = some range) :
    Absent front := by
  obtain ⟨before, root, after⟩ := document
  cases root with
  | word | string => cases object
  | empty kind inside =>
    cases kind with
    | array => cases object
    | object => simp [Tree.members] at object
  | group kind entries =>
    cases kind with
    | array => cases object
    | object =>
      have labelled : entries.labelled = some (front ++ (userCacheSecretField, value) :: back) := object
      rw [topLevelValueRange_group (by rw [labelled]; rfl) userCacheSecretField (by rfl)] at found
      have count := ranges_length entries rfl labelled (before.bytes.length + 1)
      rw [soleRange_some found, List.countP_append, List.countP_cons_of_pos (by simp)] at count
      have none : front.countP (fun member => decide (member.1 = userCacheSecretField)) = 0 := by omega
      simpa [Absent] using List.countP_eq_zero.mp none

/-- Where the last value of the name is another one, or the name stands twice, nothing is done. -/
theorem eligible_of_inject {raw out : Bytes} (injected : injectUserCacheSecret toJson raw secret = some out) :
    Eligible raw := by
  obtain ⟨document, members, rfl, object⟩ := isObject_of_inject injected
  refine ⟨members, ⟨document, rfl, object⟩, ?_⟩
  by_cases absent : Absent members
  · exact .inl absent
  right
  obtain ⟨front, value, back, rfl, backAbsent⟩ := exists_last absent
  rw [inject_document document object, lookup_last backAbsent] at injected
  simp only [Option.ite_none_right_eq_some] at injected
  obtain ⟨spelt, replaced⟩ := injected
  simp only [replaceEmpty, bind, Option.bind_eq_some_iff, Prod.exists] at replaced
  obtain ⟨start, stop, found, -⟩ := replaced
  exact ⟨front, back, value, rfl, absent_of_range document object found, backAbsent, empty_iff.mpr spelt⟩

theorem inject_carried (document : Document) {front back : List (String × Tree .value)} {value : Tree .value}
    (object : document.root.members = some (front ++ (userCacheSecretField, value) :: back))
    (absent : Absent back) (carried : value.asString ≠ some "") :
    injectUserCacheSecret toJson document.text secret = none := by
  rw [inject_document document object, lookup_last absent]
  have other : value.text ≠ [quote, quote] := fun spelt => carried (empty_iff.mpr spelt)
  simp only [if_neg other]

/-! ## The parsed form -/

theorem decodeEntry_string {number : Bytes → Option Number} {value : Tree .value} {text : String}
    (string : value.asString = some text) :
    decodeEntry number (userCacheSecretField, value) = some (userCacheSecretField, .string text) := by
  cases value with
  | string pieces =>
    have decoded : decodeString pieces = some text := string
    simp [decodeEntry, Tree.decode, decoded]
  | word | empty | group => cases string

theorem absent_values {members : List (String × Tree .value)} {values : List (String × Value)}
    (decoded : members.mapM (decodeEntry number) = some values) (absent : Absent members) :
    ∀ entry ∈ values, entry.1 ≠ userCacheSecretField := by
  intro entry inValues named
  have label : entry.1 ∈ members.map (·.1) := by
    rw [← labels_decoded decoded]
    exact List.mem_map_of_mem inValues
  obtain ⟨member, inMembers, same⟩ := List.mem_map.mp label
  exact absent member inMembers (same.trans named)

/-- Setting the member in the text is what `provision_value` does to the parsed body. -/
theorem provision_agrees {root root' : Tree .value} {members members' : List (String × Tree .value)}
    {value : Tree .value} {body : Value} {source : UserCacheSecret} (object : root.members = some members)
    (object' : root'.members = some members') (set : SetField value members members')
    (string : value.asString = some secret) (available : source.get = some secret)
    (decoded : root.decode number = some body) :
    root'.decode number = some (provisionValue body source) := by
  rw [Tree.decode_members number object, Option.map_eq_some_iff] at decoded
  obtain ⟨values, decoded, rfl⟩ := decoded
  rw [Tree.decode_members number object']
  cases set with
  | append absent =>
    -- Nothing is there yet, and the new member goes to the end.
    have nothing : (OrderedMap.ofList values).lookup userCacheSecretField = none :=
      OrderedMap.lookup_ofList_none.mpr (absent_values decoded absent)
    have decoded' : (members ++ [(userCacheSecretField, value)]).mapM (decodeEntry number) =
        some (values ++ [(userCacheSecretField, .string secret)]) := by
      simp [List.mapM_append, decoded, decodeEntry_string string]
    rw [decoded', Option.map_some, OrderedMap.ofList_concat]
    simp [provisionValue, nothing, available]
  | replace once =>
    -- The empty member is the last of its name, and so the one that the parsed body holds.
    obtain ⟨rfl, frontAbsent, backAbsent, empty⟩ := once
    simp only [List.mapM_append, List.mapM_cons, decodeEntry_string empty, bind, Option.bind_some,
      Option.bind_eq_some_iff, pure, Option.some.injEq] at decoded
    obtain ⟨frontValues, frontDecoded, _, ⟨backValues, backDecoded, rfl⟩, rfl⟩ := decoded
    have last := absent_values backDecoded backAbsent
    have found : (OrderedMap.ofList (frontValues ++ (userCacheSecretField, .string "") :: backValues)).lookup
        userCacheSecretField = some (.string "") := OrderedMap.lookup_ofList_last last _ _
    simp only [List.mapM_append, List.mapM_cons, decodeEntry_string string, frontDecoded, backDecoded, bind,
      Option.bind_some, pure, Option.map_some]
    rw [OrderedMap.ofList_replace last frontValues (.string secret) (.string "")]
    simp [provisionValue, found, available, Value.asStr]

/-- The splice takes place exactly on the bodies that may take the secret; it changes one member
and nothing else, and agrees with the way through the parsed body. -/
theorem splice_exact (toJson : String → Option Bytes) (number : Bytes → Option Number)
    (writes : ∀ text, ∃ bytes, toJson text = some bytes ∧ IsLiteral bytes text)
    (raw : Bytes) (secret : String) (present : secret ≠ "") :
    ((∃ out, injectUserCacheSecret toJson raw secret = some out) ↔ Eligible raw) ∧
      ∀ out, injectUserCacheSecret toJson raw secret = some out → Spliced toJson number secret raw out := by
  obtain ⟨bytes, written, pieces, rfl, decoded⟩ := writes secret
  have writtenText : toJson secret = some (Tree.string pieces).text := written
  have string : (Tree.string pieces).asString = some secret := decoded
  have carried : (Tree.string pieces).asString ≠ some "" := by
    rw [string]
    intro empty
    exact present (Option.some.inj empty)
  -- on a body that may take the secret, both ways of splicing give a text with one member set
  have spliced : ∀ {raw : Bytes}, Eligible raw → ∃ out, injectUserCacheSecret toJson raw secret = some out ∧
      Spliced toJson number secret raw out := by
    rintro raw ⟨members, ⟨document, rfl, object⟩, eligible⟩
    have finish {root' : Tree .value} {front back : List (String × Tree .value)}
        (object' : root'.members = some (front ++ (userCacheSecretField, .string pieces) :: back))
        (absent : Absent back)
        (set : SetField (.string pieces) members (front ++ (userCacheSecretField, .string pieces) :: back))
        (injected : injectUserCacheSecret toJson document.text secret =
          some (Document.mk document.before root' document.after).text)
        (splice : Splice (literalText pieces) document.text (Document.mk document.before root' document.after).text) :
        ∃ out, injectUserCacheSecret toJson document.text secret = some out ∧
          Spliced toJson number secret document.text out := by
      refine ⟨_, injected, ⟨_, written, splice⟩, ⟨members, _, _, ⟨document, rfl, object⟩,
        ⟨_, rfl, object'⟩, set, string⟩, ?_, ?_⟩
      · intro secret'
        exact inject_carried _ object' absent carried
      · intro body source parsed available
        simp only [parseValue, parse_text, bind, Option.bind_some] at parsed ⊢
        exact provision_agrees object object' set string available parsed
    cases eligible with
    | inl absent =>
      obtain ⟨injected, splice⟩ := inject_absent document object absent writtenText
      refine finish (appendMember_members object _) ?_ (SetField.append members absent) injected splice
      intro member inNil
      cases inNil
    | inr once =>
      obtain ⟨front, back, old, once⟩ := once
      obtain ⟨root', object', injected, splice⟩ := inject_once document object once writtenText
      exact finish object' once.back_absent (SetField.replace once) injected splice
  constructor
  · constructor
    · rintro ⟨out, injected⟩
      exact eligible_of_inject injected
    · intro eligible
      obtain ⟨out, injected, -⟩ := spliced eligible
      exact ⟨out, injected⟩
  · intro out injected
    obtain ⟨out', injected', result⟩ := spliced (eligible_of_inject injected)
    rw [injected] at injected'
    cases injected'
    exact result

/-- A body with a number: `{"n":1}`. -/
theorem splice_exact_sample :
    let toJson (text : String) := some (writeString text)
    let number (text : Bytes) := if text = [0x31] then some (Number.posInt 1) else none
    let raw : Bytes := [0x7B, 0x22, 0x6E, 0x22, 0x3A, 0x31, 0x7D]
    ((∃ out, injectUserCacheSecret toJson raw "s" = some out) ↔ Eligible raw) ∧
      ∀ out, injectUserCacheSecret toJson raw "s" = some out → Spliced toJson number "s" raw out :=
  splice_exact (fun text => some (writeString text)) _
    (fun text => ⟨writeString text, rfl, isLiteral_writeString text⟩) _ "s" (by decide)

/-- `{"user_cache_secret" : ""}` keeps its spelling around the new value. -/
example : injectUserCacheSecret (fun text => some (writeString text))
    (0x7B :: (fieldName.dropLast ++ [0x20, colon, 0x20, quote, quote, 0x7D])) "s" =
      some (0x7B :: (fieldName.dropLast ++ [0x20, colon, 0x20, quote, 0x73, quote, 0x7D])) := by
  decide +kernel

end UserCacheSecret

end Tinfoil
