import Mathlib.Data.List.Basic

/-! # JSON documents as values

The document model of a JSON library: look-ups that fail softly, and `alter`, which changes one
place of a document and leaves every look-up elsewhere as it was.
-/

namespace Json

/-- A number is kept as an unsigned or signed 64-bit integer where it is one, else as a float. -/
inductive Number where
  | posInt (value : UInt64)
  | negInt (value : Int64)
  | float (bits : UInt64)
  deriving DecidableEq, Repr

inductive Value where
  | null
  | bool (value : Bool)
  | number (value : Number)
  | string (value : String)
  | array (items : List Value)
  | object (members : List (String × Value))
  deriving Repr

namespace Value

def get (key : String) : Value → Option Value
  | object members => members.lookup key
  | _ => none

/-- The member of an object, `null` where there is none. -/
def index (value : Value) (key : String) : Value := (value.get key).getD null

def asStr : Value → Option String
  | string value => some value
  | _ => none

def asArray : Value → Option (List Value)
  | array items => some items
  | _ => none

def asU64 : Value → Option UInt64
  | number (.posInt value) => some value
  | _ => none

def getPath : List String → Value → Option Value
  | [], value => some value
  | key :: keys, value => (value.get key).bind (getPath keys)

/-- A token of a JSON pointer as an array index: decimal digits, no sign, no leading zero. -/
def parseIndex (token : String) : Option Nat :=
  let digits := token.toList
  if digits = ['0'] then some 0
  else if digits.head? ≠ some '0' ∧ digits ≠ [] ∧ digits.all Char.isDigit then
    some (digits.foldl (fun value digit => 10 * value + (digit.toNat - 48)) 0)
  else none

/-- One step of a JSON pointer. -/
def child (token : String) : Value → Option Value
  | object members => members.lookup token
  | array items => (parseIndex token).bind (items[·]?)
  | _ => none

/-- The place that a JSON pointer names, by its tokens. -/
def pointer : List String → Value → Option Value
  | [], value => some value
  | token :: tokens, value => (value.child token).bind (pointer tokens)

/-- Change the place that a JSON pointer names; without such a place nothing changes. -/
def alter (change : Value → Value) : List String → Value → Value
  | [], value => change value
  | token :: tokens, object members =>
    object (members.map fun entry =>
      if entry.1 = token then (entry.1, alter change tokens entry.2) else entry)
  | token :: tokens, array items =>
    match parseIndex token with
    | some position => array (items.modify position (alter change tokens))
    | none => array items
  | _ :: _, value => value

theorem child_eq_get {token : String} (member : parseIndex token = none) (value : Value) :
    value.child token = value.get token := by
  cases value with
  | array items => simp [child, get, member]
  | _ => rfl

theorem pointer_eq_getPath {tokens : List String} (members : ∀ token ∈ tokens, parseIndex token = none)
    (value : Value) : value.pointer tokens = value.getPath tokens := by
  induction tokens generalizing value with
  | nil => rfl
  | cons token tokens ih =>
    have rest : pointer tokens = getPath tokens :=
      funext fun value => ih (fun token member => members token (List.mem_cons_of_mem _ member)) value
    rw [pointer, getPath, child_eq_get (members token List.mem_cons_self), rest]

theorem pointer_member {token : String} (member : parseIndex token = none) (value : Value) :
    value.pointer [token] = value.get token := by
  rw [pointer, child_eq_get member]
  cases value.get token <;> rfl

theorem getPath_append (keys keys' : List String) (value : Value) :
    value.getPath (keys ++ keys') = (value.getPath keys).bind (getPath keys') := by
  induction keys generalizing value with
  | nil => rfl
  | cons key keys ih =>
    cases found : value.get key with
    | none => simp [getPath, found]
    | some inner => simp [getPath, found, ih]

/-! ## Look-ups after a change -/

variable {change : Value → Value} {tokens : List String}

theorem lookup_map_same (members : List (String × Value)) (token : String) (update : Value → Value) :
    (members.map fun entry => if entry.1 = token then (entry.1, update entry.2) else entry).lookup token =
      (members.lookup token).map update := by
  induction members with
  | nil => rfl
  | cons entry members ih =>
    obtain ⟨key, value⟩ := entry
    by_cases same : key = token
    · simp [same]
    · have other : (token == key) = false := by simpa using fun h => same h.symm
      simp [List.lookup_cons, same, other, ih]

theorem lookup_map_other (members : List (String × Value)) {key token : String} (other : key ≠ token)
    (update : Value → Value) :
    (members.map fun entry => if entry.1 = token then (entry.1, update entry.2) else entry).lookup key =
      members.lookup key := by
  induction members with
  | nil => rfl
  | cons entry members ih =>
    obtain ⟨name, value⟩ := entry
    by_cases same : name = token
    · have differs : (key == name) = false := by simpa using fun h => other (h.trans same)
      simp only [List.map_cons, if_pos same, List.lookup_cons, differs, ih]
    · simp only [List.map_cons, if_neg same, List.lookup_cons, ih]

theorem get_alter_same (value : Value) (token : String) :
    (value.alter change (token :: tokens)).get token = (value.get token).map (alter change tokens) := by
  cases value with
  | object members => exact lookup_map_same members token _
  | array items =>
    simp only [alter]
    cases parseIndex token <;> rfl
  | _ => rfl

theorem get_alter_other (value : Value) {key token : String} (other : key ≠ token) :
    (value.alter change (token :: tokens)).get key = value.get key := by
  cases value with
  | object members => exact lookup_map_other members other _
  | array items =>
    simp only [alter]
    cases parseIndex token <;> rfl
  | _ => rfl

/-- Up to the changed place the change is one further down. -/
theorem getPath_alter_append (keys : List String) (value : Value) :
    (value.alter change (keys ++ tokens)).getPath keys = (value.getPath keys).map (alter change tokens) := by
  induction keys generalizing value with
  | nil => rfl
  | cons key keys ih =>
    rw [List.cons_append, getPath, getPath, get_alter_same]
    cases value.get key with
    | none => rfl
    | some inner => exact ih inner

/-- Where a path turns off before the changed place, nothing changed. -/
theorem getPath_alter_fork (common : List String) {key token : String} (other : key ≠ token)
    (keys : List String) (value : Value) :
    (value.alter change (common ++ token :: tokens)).getPath (common ++ key :: keys) =
      value.getPath (common ++ key :: keys) := by
  rw [getPath_append, getPath_append, getPath_alter_append]
  cases value.getPath common with
  | none => rfl
  | some inner =>
    simp only [Option.map_some, Option.bind_some, getPath, get_alter_other inner other]

theorem pointer_alter_other {key token : String} (member : parseIndex key = none) (other : key ≠ token)
    (keys : List String) (value : Value) :
    (value.alter change (token :: tokens)).pointer (key :: keys) = value.pointer (key :: keys) := by
  rw [pointer, pointer, child_eq_get member, child_eq_get member, get_alter_other value other]

theorem index_alter_other {key token : String} (other : key ≠ token) (value : Value) :
    (value.alter change (token :: tokens)).index key = value.index key := by
  rw [index, index, get_alter_other value other]

end Value

end Json
