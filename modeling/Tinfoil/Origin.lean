import Tinfoil.Text

/-! # Origins

A URL whose scheme has hosts has an origin of three parts, and every other URL has one that no text tells apart from
another.  `asciiSerialization_inj` says that a text with three parts is of one origin.
-/

namespace Web

/-- The schemes whose URLs have a host and a port. -/
inductive Scheme where
  | ftp
  | http
  | https
  | ws
  | wss
  deriving DecidableEq, Repr

namespace Scheme

def text : Scheme → List Char
  | ftp => "ftp".toList
  | http => "http".toList
  | https => "https".toList
  | ws => "ws".toList
  | wss => "wss".toList

def defaultPort : Scheme → UInt16
  | ftp => 21
  | http | ws => 80
  | https | wss => 443

end Scheme

/-- A name or an IPv4 address, or an IPv6 address in brackets. -/
structure Host where
  text : List Char
  form : ':' ∉ text ∨ ∃ address, text = '[' :: (address ++ [']'])
  deriving DecidableEq

inductive Origin where
  | tuple (scheme : Scheme) (host : Host) (port : UInt16)
  /-- Its text is `null`. -/
  | null
  deriving DecidableEq

/-- A parsed URL.  A `blob` URL holds another one. -/
inductive Url where
  | special (scheme : Scheme) (host : Host) (port : UInt16) (rest : List Char)
  | blob (inner : Url)
  | other (host : Option Host) (rest : List Char)

namespace Url

def origin : Url → Origin
  | special scheme host port _ => .tuple scheme host port
  | blob inner => inner.origin
  | other _ _ => .null

/-- `host_str` -/
def hostStr : Url → Option (List Char)
  | special _ host _ _ => some host.text
  | blob _ => none
  | other host _ => host.map Host.text

def isHttps : Url → Bool
  | special .https _ _ _ => true
  | _ => false

theorem eq_special_of_isHttps {url : Url} (https : url.isHttps = true) :
    ∃ host port rest, url = special .https host port rest := by
  cases url with
  | special scheme host port rest =>
    cases scheme <;> first | exact ⟨host, port, rest, rfl⟩ | cases https
  | blob inner | other host rest => cases https

/-- Two URLs of one origin have one host, unless the other one only holds a URL of the origin. -/
theorem hostStr_eq_of_origin {url url' : Url} (https : url.isHttps = true) (hosted : url'.hostStr ≠ none)
    (same : url.origin = url'.origin) : url.hostStr = url'.hostStr := by
  obtain ⟨host, port, rest, rfl⟩ := eq_special_of_isHttps https
  cases url' with
  | special scheme' host' port' rest' =>
    simp only [origin, Origin.tuple.injEq] at same
    simp [hostStr, same.2.1]
  | blob inner => exact absurd rfl hosted
  | other host' rest' => cases same

end Url

/-! ## The text of an origin -/

def portText (scheme : Scheme) (port : UInt16) : List Char :=
  if scheme.defaultPort = port then [] else ':' :: Nat.toDigits 10 port.toNat

namespace Origin

/-- `ascii_serialization` -/
def asciiSerialization : Origin → List Char
  | tuple scheme host port => scheme.text ++ ("://".toList ++ (host.text ++ portText scheme port))
  | null => "null".toList

end Origin

theorem toDigits_injective {number number' : Nat} (same : Nat.toDigits 10 number = Nat.toDigits 10 number') :
    number = number' := by
  have read := congrArg (fun digits => Nat.ofDigitChars 10 digits 0) same
  simpa [Nat.ofDigitChars_toDigits] using read

theorem not_mem_toDigits {character : Char} (mark : character.isDigit = false) (number : Nat) :
    character ∉ Nat.toDigits 10 number := by
  intro member
  have digit := Nat.isDigit_of_mem_toDigits (by decide) (by decide) member
  rw [mark] at digit
  cases digit

theorem portText_injective {scheme : Scheme} {port port' : UInt16}
    (same : portText scheme port = portText scheme port') : port = port' := by
  unfold portText at same
  split at same <;> split at same
  · rename_i default default'
    exact default.symm.trans default'
  · cases same
  · cases same
  · exact UInt16.toNat_inj.mp (toDigits_injective (List.cons.inj same).2)

/-- The scheme ends at the first colon, and no scheme is the start of a longer one up to there. -/
theorem scheme_append_inj {scheme scheme' : Scheme} {rest rest' : List Char}
    (same : scheme.text ++ ("://".toList ++ rest) = scheme'.text ++ ("://".toList ++ rest')) :
    scheme = scheme' ∧ rest = rest' := by
  have noColon (scheme : Scheme) : ':' ∉ scheme.text := by cases scheme <;> decide
  obtain ⟨texts, rests⟩ := Text.append_separator_inj (noColon scheme) (noColon scheme') same
  refine ⟨?_, by simpa using rests⟩
  revert texts
  cases scheme <;> cases scheme' <;> decide

/-- A port without a colon before it would have to be part of an address in brackets, which ends in one. -/
theorem host_append_port {host host' : Host} {digits : List Char} (number : ∀ digit ∈ digits, digit ≠ ']')
    (same : host.text = host'.text ++ ':' :: digits) : False := by
  have colon : ':' ∈ host.text := by simp [same]
  rcases host.form with plain | ⟨address, bracketed⟩
  · exact plain colon
  · have ending : host.text.getLast? = some ']' := by rw [bracketed, ← List.cons_append, List.getLast?_concat]
    -- The last character of the text is the colon, or one of the port.
    cases digits using List.reverseRecOn with
    | nil =>
      rw [same, List.getLast?_concat] at ending
      cases ending
    | append_singleton digits digit =>
      rw [same, ← List.cons_append, ← List.append_assoc, List.getLast?_concat] at ending
      exact number digit (by simp) (Option.some.inj ending)

theorem append_last_inj {front front' back back' : List Char} (absent : ':' ∉ back) (absent' : ':' ∉ back')
    (same : front ++ ':' :: back = front' ++ ':' :: back') : front = front' ∧ back = back' := by
  have reversed := congrArg List.reverse same
  simp only [List.reverse_append, List.reverse_cons, List.append_assoc, List.singleton_append] at reversed
  obtain ⟨backs, fronts⟩ :=
    Text.append_separator_inj (mt List.mem_reverse.mp absent) (mt List.mem_reverse.mp absent') reversed
  exact ⟨List.reverse_injective fronts, List.reverse_injective backs⟩

theorem host_append_inj {scheme : Scheme} {host host' : Host} {port port' : UInt16}
    (same : host.text ++ portText scheme port = host'.text ++ portText scheme port') : host = host' ∧ port = port' := by
  have bracket (port : UInt16) : ∀ digit ∈ Nat.toDigits 10 port.toNat, digit ≠ ']' := by
    rintro _ member rfl
    exact not_mem_toDigits (by decide) _ member
  have texts : host.text = host'.text ∧ portText scheme port = portText scheme port' := by
    unfold portText at same ⊢
    split at same <;> split at same <;> rename_i default default'
    · rw [if_pos default, if_pos default']
      exact ⟨by simpa only [List.append_nil] using same, rfl⟩
    · rw [List.append_nil] at same
      exact (host_append_port (bracket port') same).elim
    · rw [List.append_nil] at same
      exact (host_append_port (bracket port) same.symm).elim
    · obtain ⟨hosts, ports⟩ := append_last_inj (not_mem_toDigits (by decide) _) (not_mem_toDigits (by decide) _) same
      rw [if_neg default, if_neg default', ports]
      exact ⟨hosts, rfl⟩
  refine ⟨?_, portText_injective texts.2⟩
  cases host
  cases host'
  simpa using texts.1

theorem asciiSerialization_ne_null (scheme : Scheme) (host : Host) (port : UInt16) :
    (Origin.tuple scheme host port).asciiSerialization ≠ Origin.null.asciiSerialization := by
  intro same
  have colon : ':' ∈ (Origin.tuple scheme host port).asciiSerialization := by simp [Origin.asciiSerialization]
  rw [same] at colon
  exact absurd colon (by decide)

theorem asciiSerialization_inj {origin origin' : Origin} :
    origin.asciiSerialization = origin'.asciiSerialization ↔ origin = origin' := by
  refine ⟨fun same => ?_, congrArg _⟩
  cases origin with
  | tuple scheme host port =>
    cases origin' with
    | tuple scheme' host' port' =>
      obtain ⟨rfl, rests⟩ := scheme_append_inj same
      obtain ⟨rfl, rfl⟩ := host_append_inj rests
      rfl
    | null => exact absurd same (asciiSerialization_ne_null scheme host port)
  | null =>
    cases origin' with
    | tuple scheme' host' port' => exact absurd same.symm (asciiSerialization_ne_null scheme' host' port')
    | null => rfl

end Web
