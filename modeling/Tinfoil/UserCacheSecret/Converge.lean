import Mathlib.Data.List.Nodup
import Tinfoil.UserCacheSecret.Persist

/-! # All calls agree on the persisted secret

* `step_moves`: what one step does to the directory and to the other calls.
* `runs_inv`: the destination is never written to once it exists, and only complete secrets become
  the destination.
* `persisted_converges`: every persisted secret that a call returns is the one in the destination.
-/

namespace Tinfoil.UserCacheSecret

open Directory Transition

/-! ## Names and texts -/

theorem candidateName_ne (processId : Nat) (candidateId : String) :
    candidateName processId candidateId ≠ userCacheSecretFileName := by
  intro same
  have lengths := congrArg (fun text => text.toList.length) same
  simp only [candidateName, String.toList_append, List.length_append] at lengths
  have tail : (".tmp" : String).toList.length = 4 := rfl
  omega

theorem candidateName_injective {processId processId' : Nat} {random random' : Bytes}
    (same : candidateName processId (hexEncode random) = candidateName processId' (hexEncode random')) :
    random = random' := by
  have texts := congrArg String.toList same
  simp only [candidateName, String.toList_append, List.append_assoc] at texts
  have texts := List.append_cancel_left (List.append_cancel_left texts)
  simp only [String.reduceToList, List.cons_append, List.nil_append] at texts
  obtain ⟨-, texts⟩ := Text.append_separator_inj (not_mem_digits _ '.' rfl) (not_mem_digits _ '.' rfl) texts
  exact hexEncode_injective (String.toList_injective (List.append_cancel_right texts))

theorem trim_hexEncode (random : Bytes) : Text.trim (hexEncode random).toList = (hexEncode random).toList := by
  have all : ∀ value : Fin 16, Text.isWhitespace (hexDigit (.ofNat value)) = false := by decide
  have solid : ∀ character ∈ (hexEncode random).toList, ¬Text.isWhitespace character = true := by
    intro character member
    obtain ⟨value, rfl⟩ := mem_hexEncode member
    rw [all value]
    exact Bool.false_ne_true
  have front : (hexEncode random).toList.dropWhile Text.isWhitespace = (hexEncode random).toList := by
    cases characters : (hexEncode random).toList with
    | nil => rfl
    | cons first rest => exact List.dropWhile_cons_of_neg (solid first (by simp [characters]))
  rw [Text.trim, front, Text.trimEnd, List.rdropWhile_eq_self_iff]
  intro present
  exact solid _ (List.getLast_mem present)

theorem parseSecret_published {random : Bytes} (present : random ≠ []) :
    parseSecret (utf8Bytes (hexEncode random)) = some (some (hexEncode random)) := by
  have bytes : (utf8Bytes (hexEncode random)).toByteArray = (hexEncode random).toByteArray := by
    apply ByteArray.ext
    simp [utf8Bytes]
  have valid : (hexEncode random).toByteArray.IsValidUTF8 := (hexEncode random).isValidUTF8
  have nonempty : hexEncode random ≠ "" := by
    intro empty
    have characters := congrArg String.toList empty
    cases random with
    | nil => exact present rfl
    | cons byte rest => simp [hexEncode] at characters
  have read : String.fromUTF8? (hexEncode random).toByteArray = some (hexEncode random) := by
    rw [String.fromUTF8?, dif_pos valid]
    rfl
  rw [parseSecret, bytes, read, Option.map_some, trim_hexEncode, String.ofList_toList, if_neg nonempty]

/-! ## The invariant -/

def Drew (state : State) (id : Nat) (secret : String) : Prop :=
  ∃ random, (id, random) ∈ state.drawn ∧ random.length = 32 ∧ secret = hexEncode random

/-- A candidate's name contains a random value that the call has drawn. -/
def Owns (process : Nat → Nat) (state : State) (id : Nat) (candidate : String) : Prop :=
  ∃ random, (id, random) ∈ state.drawn ∧ candidate = candidateName (process id) (hexEncode random)

def Stored (files : Files String) (secret : String) : Prop :=
  ∃ inode, files.entry userCacheSecretFileName = some (.file inode) ∧
    parseSecret (files.content inode) = some (some secret)

def LoadedOk (files : Files String) : Loaded → Prop
  | .ephemeral => True
  | .persisted secret => secret ≠ "" → Stored files secret

def ReadingOk (process : Nat → Nat) (state : State) (id : Nat) : Reading → Prop
  | .first => True
  | .again candidate => Owns process state id candidate

def PhaseOk (process : Nat → Nat) (state : State) (id : Nat) : Phase → Prop
  | .start | .missing | .publishing | .crashed => True
  | .read reading inode buffer =>
    ReadingOk process state id reading ∧
      state.files.entry userCacheSecretFileName = some (.file inode) ∧ buffer <+: state.files.content inode
  | .named secret => Drew state id secret
  | .create secret candidate => Drew state id secret ∧ Owns process state id candidate
  | .write secret candidate inode rest =>
    Drew state id secret ∧ Owns process state id candidate ∧
      state.files.entry candidate = some (.file inode) ∧
      state.files.content inode ++ rest = utf8Bytes secret ∧
      state.files.entry userCacheSecretFileName ≠ some (.file inode)
  | .reopen candidate => Owns process state id candidate
  | .cleanup candidate loaded => Owns process state id candidate ∧ LoadedOk state.files loaded
  | .returned loaded => LoadedOk state.files loaded

structure Inv (process : Nat → Nat) (state : State) : Prop where
  phases : ∀ id, PhaseOk process state id (state.call id)
  distinct : (state.drawn.map (·.2)).Nodup
  apart : ∀ {id id' secret secret' candidate candidate' inode inode' rest rest'}, id ≠ id' →
    state.call id = .write secret candidate inode rest →
    state.call id' = .write secret' candidate' inode' rest' → inode ≠ inode'

structure Keeps (state state' : State) (id : Nat) : Prop where
  others : ∀ other, other ≠ id → state'.call other = state.call other
  drawn : ∀ entry ∈ state.drawn, entry ∈ state'.drawn
  destination : ∀ entry, state.files.entry userCacheSecretFileName = some entry →
    state'.files.entry userCacheSecretFileName = some entry ∧
      ∀ inode, entry = .file inode → state'.files.content inode = state.files.content inode
  writers : ∀ other secret candidate inode rest, other ≠ id →
    state.call other = .write secret candidate inode rest →
      state'.files.entry candidate = state.files.entry candidate ∧
      state'.files.content inode = state.files.content inode ∧
      state'.files.entry userCacheSecretFileName ≠ some (.file inode)

variable {process : Nat → Nat} {state state' : State} {id : Nat}

theorem Drew.mono {secret : String} (drew : Drew state id secret)
    (more : ∀ entry ∈ state.drawn, entry ∈ state'.drawn) : Drew state' id secret := by
  obtain ⟨random, member, rest⟩ := drew
  exact ⟨random, more _ member, rest⟩

theorem Owns.mono {candidate : String} (owns : Owns process state id candidate)
    (more : ∀ entry ∈ state.drawn, entry ∈ state'.drawn) : Owns process state' id candidate := by
  obtain ⟨random, member, named⟩ := owns
  exact ⟨random, more _ member, named⟩

theorem Owns.ne_destination {candidate : String} (owns : Owns process state id candidate) :
    candidate ≠ userCacheSecretFileName := by
  obtain ⟨random, -, rfl⟩ := owns
  exact candidateName_ne _ _

/-- Two calls never have the same candidate: their random values differ. -/
theorem Owns.apart {candidate candidate' : String} {other : Nat} (distinct : (state.drawn.map (·.2)).Nodup)
    (owns : Owns process state id candidate) (owns' : Owns process state other candidate') (differ : id ≠ other) :
    candidate ≠ candidate' := by
  obtain ⟨random, member, rfl⟩ := owns
  obtain ⟨random', member', rfl⟩ := owns'
  intro same
  have values := candidateName_injective same
  have entries := List.inj_on_of_nodup_map distinct member member' values
  exact differ (congrArg Prod.fst entries)

theorem LoadedOk.keep {files files' : Files String} {loaded : Loaded} (ok : LoadedOk files loaded)
    (destination : ∀ inode, files.entry userCacheSecretFileName = some (.file inode) →
      files'.entry userCacheSecretFileName = some (.file inode) ∧ files'.content inode = files.content inode) :
    LoadedOk files' loaded := by
  cases loaded with
  | ephemeral => exact ok
  | persisted secret =>
    intro present
    obtain ⟨inode, found, content⟩ := ok present
    obtain ⟨found', content'⟩ := destination inode found
    exact ⟨inode, found', content' ▸ content⟩

theorem Keeps.file (keeps : Keeps state state' id) (inode : Inode)
    (found : state.files.entry userCacheSecretFileName = some (.file inode)) :
    state'.files.entry userCacheSecretFileName = some (.file inode) ∧
      state'.files.content inode = state.files.content inode := by
  obtain ⟨found', content⟩ := keeps.destination _ found
  exact ⟨found', content inode rfl⟩

theorem PhaseOk.other {other : Nat} (keeps : Keeps state state' id) (differ : other ≠ id)
    (ok : PhaseOk process state other (state.call other)) :
    PhaseOk process state' other (state'.call other) := by
  rw [keeps.others other differ]
  cases phase : state.call other with
  | start | missing | publishing | crashed => trivial
  | read reading inode buffer =>
    rw [phase] at ok
    obtain ⟨owns, found, part⟩ := ok
    obtain ⟨found', content⟩ := keeps.file inode found
    refine ⟨?_, found', content ▸ part⟩
    cases reading with
    | first => trivial
    | again candidate => exact Owns.mono owns keeps.drawn
  | named secret =>
    rw [phase] at ok
    exact Drew.mono ok keeps.drawn
  | create secret candidate =>
    rw [phase] at ok
    exact ⟨ok.1.mono keeps.drawn, ok.2.mono keeps.drawn⟩
  | write secret candidate inode rest =>
    -- A writer is left alone: no other call has its inode, and none has its name.
    rw [phase] at ok
    obtain ⟨drew, owns, found, content, -⟩ := ok
    obtain ⟨found', content', apart⟩ := keeps.writers other _ _ _ _ differ phase
    exact ⟨drew.mono keeps.drawn, owns.mono keeps.drawn, found'.trans found, content' ▸ content, apart⟩
  | reopen candidate =>
    rw [phase] at ok
    exact Owns.mono ok keeps.drawn
  | cleanup candidate loaded =>
    -- What was loaded stays true, since a destination stays as it is.
    rw [phase] at ok
    exact ⟨ok.1.mono keeps.drawn, ok.2.keep keeps.file⟩
  | returned loaded =>
    rw [phase] at ok
    exact LoadedOk.keep ok keeps.file

/-- A complete secret of one call, where there was no destination. -/
def Published (state : State) (entry : Entry) : Prop :=
  ∃ inode publisher random, entry = .file inode ∧ (publisher, random) ∈ state.drawn ∧ random.length = 32 ∧
    state.files.content inode = utf8Bytes (hexEncode random)

structure Moves (process : Nat → Nat) (state state' : State) (id : Nat) : Prop where
  keeps : Keeps state state' id
  phase : PhaseOk process state' id (state'.call id)
  distinct : (state'.drawn.map (·.2)).Nodup
  inode : ∀ secret candidate inode rest, state'.call id = .write secret candidate inode rest →
    (∃ secret candidate rest, state.call id = .write secret candidate inode rest) ∨
      ∀ name, state.files.entry name ≠ some (.file inode)
  arrives : state.files.entry userCacheSecretFileName = none → ∀ entry,
    state'.files.entry userCacheSecretFileName = some entry → Published state' entry

theorem Inv.moves (inv : Inv process state) (moves : Moves process state state' id) : Inv process state' := by
  refine ⟨?_, moves.distinct, ?_⟩
  · intro other
    by_cases same : other = id
    · subst same
      exact moves.phase
    · exact (inv.phases other).other moves.keeps same
  · -- the inode of the moving call is its old one, or one that no name stood for
    have mover {other : Nat} {secret secret' candidate candidate' : String} {inode inode' : Inode}
        {rest rest' : Bytes} (differ : other ≠ id)
        (mine : state'.call id = .write secret candidate inode rest)
        (theirs : state'.call other = .write secret' candidate' inode' rest') : inode ≠ inode' := by
      rw [moves.keeps.others other differ] at theirs
      cases moves.inode _ _ _ _ mine with
      | inl before =>
        obtain ⟨_, _, _, before⟩ := before
        exact inv.apart differ.symm before theirs
      | inr unused =>
        have ok := inv.phases other
        rw [theirs] at ok
        rintro rfl
        exact unused candidate' ok.2.2.1
    intro first second _ _ _ _ _ _ _ _ differ left right
    by_cases isFirst : first = id
    · subst isFirst
      exact mover differ.symm left right
    · by_cases isSecond : second = id
      · subst isSecond
        exact (mover differ right left).symm
      · rw [moves.keeps.others first isFirst] at left
        rw [moves.keeps.others second isSecond] at right
        exact inv.apart differ left right

/-! ## Steps -/

theorem setCall_self (phase : Phase) : (state.setCall id phase).call id = phase :=
  Function.update_self _ _ _

theorem setCall_other {other : Nat} (phase : Phase) (differ : other ≠ id) :
    (state.setCall id phase).call other = state.call other :=
  Function.update_of_ne differ _ _

theorem Inv.writer (inv : Inv process state) {secret candidate : String} {inode : Inode} {rest : Bytes}
    (phase : state.call id = .write secret candidate inode rest) :
    Drew state id secret ∧ Owns process state id candidate ∧ state.files.entry candidate = some (.file inode) ∧
      state.files.content inode ++ rest = utf8Bytes secret ∧
      state.files.entry userCacheSecretFileName ≠ some (.file inode) := by
  have ok := inv.phases id
  rwa [phase] at ok

theorem Inv.owner (inv : Inv process state) {candidate : String} {phase : Phase}
    (here : state.call id = phase) (owns : PhaseOk process state id phase → Owns process state id candidate) :
    Owns process state id candidate := owns (here ▸ inv.phases id)

theorem Inv.local_step (inv : Inv process state) {phase : Phase} (ok : PhaseOk process state id phase)
    (noWriter : ∀ secret candidate inode rest, phase ≠ .write secret candidate inode rest) :
    Moves process state (state.setCall id phase) id := by
  refine ⟨⟨fun other differ => setCall_other phase differ, fun _ member => member,
    fun _ found => ⟨found, fun _ _ => rfl⟩, ?_⟩, ?_, inv.distinct, ?_, ?_⟩
  · intro other secret candidate inode rest _ writes
    exact ⟨rfl, rfl, (inv.writer writes).2.2.2.2⟩
  · rw [setCall_self]
    exact ok
  · intro secret candidate inode rest writes
    rw [setCall_self] at writes
    exact absurd writes (noWriter _ _ _ _)
  · intro none entry found
    rw [show (state.setCall id phase).files = state.files from rfl, none] at found
    cases found

theorem Inv.draw_step (inv : Inv process state) {phase : Phase} {random : Bytes}
    (fresh : random ∉ state.drawn.map (·.2))
    (ok : PhaseOk process { state.setCall id phase with drawn := (id, random) :: state.drawn } id phase)
    (noWriter : ∀ secret candidate inode rest, phase ≠ .write secret candidate inode rest) :
    Moves process state { state.setCall id phase with drawn := (id, random) :: state.drawn } id := by
  refine ⟨⟨fun other differ => setCall_other phase differ, fun _ member => List.mem_cons_of_mem _ member,
    fun _ found => ⟨found, fun _ _ => rfl⟩, ?_⟩, ?_, List.nodup_cons.mpr ⟨fresh, inv.distinct⟩, ?_, ?_⟩
  · intro other secret candidate inode rest _ writes
    exact ⟨rfl, rfl, (inv.writer writes).2.2.2.2⟩
  · have here : ({ state.setCall id phase with drawn := (id, random) :: state.drawn } : State).call id = phase :=
      setCall_self phase
    rw [here]
    exact ok
  · intro secret candidate inode rest writes
    exact absurd ((setCall_self phase).symm.trans writes) (noWriter _ _ _ _)
  · intro none entry found
    exact absurd (none.symm.trans found) (by simp)

theorem Inv.failed_read (inv : Inv process state) {reading : Reading}
    (owns : ReadingOk process state id reading) : Moves process state (state.setCall id reading.failed) id := by
  cases reading with
  | first => exact inv.local_step trivial fun _ _ _ _ same => by cases same
  | again candidate => exact inv.local_step ⟨owns, trivial⟩ fun _ _ _ _ same => by cases same

theorem Inv.open_step (inv : Inv process state) {reading : Reading} {absent : Phase}
    (owns : ReadingOk process state id reading) (ok : PhaseOk process state id absent)
    (noWriter : ∀ secret candidate inode rest, absent ≠ .write secret candidate inode rest) :
    Moves process state (state.setCall id (openDestination state reading absent)) id := by
  rw [openDestination]
  cases found : state.files.entry userCacheSecretFileName with
  | none => exact inv.local_step ok noWriter
  | some entry =>
    cases entry with
    | file inode =>
      exact inv.local_step ⟨owns, found, List.nil_prefix⟩ fun _ _ _ _ same => by cases same
    | other => exact inv.failed_read owns

/-- At the end of the file everything has been read. -/
theorem Inv.finish_step (inv : Inv process state) {reading : Reading} {inode : Inode} {buffer : Bytes}
    (phase : state.call id = .read reading inode buffer)
    (ended : (state.files.content inode).length ≤ buffer.length) :
    Moves process state (state.setCall id (finishRead reading buffer)) id := by
  have ok := inv.phases id
  rw [phase] at ok
  obtain ⟨owns, found, part⟩ := ok
  have whole : buffer = state.files.content inode := part.eq_of_length_le ended
  have stored {secret : String} (parsed : parseSecret buffer = some (some secret)) :
      LoadedOk state.files (.persisted secret) := fun _ => ⟨inode, found, whole ▸ parsed⟩
  unfold finishRead
  split
  · rename_i existing parsed
    exact inv.local_step (stored parsed) fun _ _ _ _ same => by cases same
  · exact inv.local_step trivial fun _ _ _ _ same => by cases same
  · rename_i candidate existing parsed
    exact inv.local_step ⟨owns, stored parsed⟩ fun _ _ _ _ same => by cases same
  · exact inv.failed_read owns

theorem Inv.fail_step (inv : Inv process state) {phase : Phase} (failed : (state.call id).failed = some phase) :
    Moves process state (state.setCall id phase) id := by
  have ok := inv.phases id
  cases here : state.call id with
  | returned loaded => simp [here, Phase.failed] at failed
  | crashed => simp [here, Phase.failed] at failed
  | start | missing =>
    rw [here] at failed
    cases failed
    exact inv.local_step trivial fun _ _ _ _ same => by cases same
  | publishing | named =>
    rw [here] at failed
    cases failed
    exact inv.local_step (fun present => absurd rfl present) fun _ _ _ _ same => by cases same
  | read reading inode buffer =>
    rw [here] at failed ok
    cases failed
    exact inv.failed_read ok.1
  | create secret candidate =>
    rw [here] at failed ok
    cases failed
    exact inv.local_step ⟨ok.2, trivial⟩ fun _ _ _ _ same => by cases same
  | write secret candidate inode rest =>
    rw [here] at failed ok
    cases failed
    exact inv.local_step ⟨ok.2.1, trivial⟩ fun _ _ _ _ same => by cases same
  | reopen candidate =>
    rw [here] at failed ok
    cases failed
    exact inv.local_step ⟨ok, trivial⟩ fun _ _ _ _ same => by cases same
  | cleanup candidate loaded =>
    rw [here] at failed ok
    cases failed
    exact inv.local_step ok.2 fun _ _ _ _ same => by cases same

/-- The new file is in no use, and its name is no other call's. -/
theorem Inv.create_step (inv : Inv process state) {secret candidate : String}
    (phase : state.call id = .create secret candidate) :
    Moves process state (createCandidate state id secret candidate) id := by
  have ok := inv.phases id
  rw [phase] at ok
  obtain ⟨drew, owns⟩ := ok
  rw [createCandidate]
  cases created : state.files.createNew candidate with
  | none => exact inv.local_step ⟨owns, trivial⟩ fun _ _ _ _ same => by cases same
  | some result =>
    obtain ⟨files, inode⟩ := result
    obtain ⟨free, unused, -, entries, contents⟩ := Files.createNew_some created
    -- Every name stands for an inode that was given out before.
    have fresh (name : String) : state.files.entry name ≠ some (.file inode) := by
      intro found
      have below := state.files.allocated name inode found
      rw [unused] at below
      exact Nat.lt_irrefl _ below
    have kept (name : String) (other : name ≠ candidate) : files.entry name = state.files.entry name := by
      rw [entries, Function.update_of_ne other]
    have content (inode' : Inode) (other : inode' ≠ inode) :
        files.content inode' = state.files.content inode' := by
      rw [contents, Function.update_of_ne other]
    have destination := kept _ owns.ne_destination.symm
    refine ⟨⟨fun other differ => setCall_other _ differ, fun _ member => member, ?_, ?_⟩, ?_, inv.distinct,
      ?_, ?_⟩
    · intro entry found
      refine ⟨destination.trans found, ?_⟩
      rintro inode' rfl
      exact content inode' fun same => fresh _ (same ▸ found)
    · intro other secret' candidate' inode' rest differ writes
      obtain ⟨-, owns', found, -, apart⟩ := inv.writer writes
      refine ⟨kept candidate' (owns'.apart inv.distinct owns differ), ?_, ?_⟩
      · exact content inode' fun same => fresh _ (same ▸ found)
      · exact destination ▸ apart
    · have here : ({ state.setCall id (.write secret candidate inode (utf8Bytes secret)) with
          files := files } : State).call id = .write secret candidate inode (utf8Bytes secret) := setCall_self _
      rw [here]
      refine ⟨drew, owns, ?_, ?_, ?_⟩
      · exact entries ▸ Function.update_self _ _ _
      · change files.content inode ++ _ = _
        rw [contents, Function.update_self, List.nil_append]
      · exact destination ▸ fresh _
    · intro _ _ _ _ writes
      have here : (state.setCall id _).call id = .write secret candidate inode (utf8Bytes secret) := setCall_self _
      have same := here.symm.trans writes
      cases same
      exact .inr fresh
    · intro none entry found
      rw [show files.entry userCacheSecretFileName = _ from destination, none] at found
      cases found

theorem Inv.write_step (inv : Inv process state) {secret candidate : String} {inode : Inode} {rest : Bytes}
    (phase : state.call id = .write secret candidate inode rest) (count : Nat) :
    Moves process state { state.setCall id (.write secret candidate inode (rest.drop count)) with
      files := state.files.append inode (rest.take count) } id := by
  obtain ⟨drew, owns, found, content, apart⟩ := inv.writer phase
  -- Only the file of this call grows.
  have kept (inode' : Inode) (other : inode' ≠ inode) :
      (state.files.append inode (rest.take count)).content inode' = state.files.content inode' :=
    Function.update_of_ne other _ _
  refine ⟨⟨fun other differ => setCall_other _ differ, fun _ member => member, ?_, ?_⟩, ?_, inv.distinct,
    ?_, ?_⟩
  · intro entry here
    refine ⟨here, ?_⟩
    rintro inode' rfl
    exact kept inode' fun same => apart (same ▸ here)
  · intro other secret' candidate' inode' rest' differ writes
    exact ⟨rfl, kept inode' (inv.apart differ writes phase), (inv.writer writes).2.2.2.2⟩
  · have here : ({ state.setCall id (.write secret candidate inode (rest.drop count)) with
        files := state.files.append inode (rest.take count) } : State).call id =
        .write secret candidate inode (rest.drop count) := setCall_self _
    rw [here]
    refine ⟨drew, owns, found, ?_, apart⟩
    change Function.update state.files.content inode _ inode ++ _ = _
    rw [Function.update_self, List.append_assoc, List.take_append_drop, content]
  · intro _ _ _ _ writes
    have here := (setCall_self _).symm.trans writes
    cases here
    exact .inl ⟨_, _, _, phase⟩
  · intro none entry found
    exact absurd (none.symm.trans found) (by simp)

/-- Only a file with a complete secret gets the destination's name, and only where it is free. -/
theorem Inv.link_step (inv : Inv process state) {secret candidate : String} {inode : Inode}
    (phase : state.call id = .write secret candidate inode []) :
    Moves process state (linkCandidate state id secret candidate) id := by
  obtain ⟨drew, owns, found, content, -⟩ := inv.writer phase
  rw [List.append_nil] at content
  rw [linkCandidate]
  cases linked : state.files.hardLink candidate userCacheSecretFileName with
  | «exists» => exact inv.local_step owns fun _ _ _ _ same => by cases same
  | failed => exact inv.local_step ⟨owns, trivial⟩ fun _ _ _ _ same => by cases same
  | linked files =>
    obtain ⟨source, foundSource, free, entries, contents, -⟩ := Files.hardLink_linked linked
    rw [found] at foundSource
    cases foundSource
    -- The link is another name for the inode that this call wrote, and nothing is copied.
    have destination : files.entry userCacheSecretFileName = some (.file inode) := by
      rw [entries, Function.update_self]
    obtain ⟨random, member, length, rfl⟩ := drew
    have present : random ≠ [] := by
      rintro rfl
      cases length
    refine ⟨⟨fun other differ => setCall_other _ differ, fun _ member => member, ?_, ?_⟩, ?_, inv.distinct,
      ?_, ?_⟩
    · intro entry here
      rw [free] at here
      cases here
    · intro other secret' candidate' inode' rest differ writes
      obtain ⟨-, owns', -, -, -⟩ := inv.writer writes
      refine ⟨?_, congrFun contents inode', ?_⟩
      · change files.entry candidate' = _
        rw [entries, Function.update_of_ne owns'.ne_destination]
      · change files.entry _ ≠ _
        rw [destination]
        intro same
        cases same
        exact inv.apart differ writes phase rfl
    · have here : ({ state.setCall id (.cleanup candidate (.persisted (hexEncode random))) with
          files := files } : State).call id = .cleanup candidate (.persisted (hexEncode random)) := setCall_self _
      rw [here]
      refine ⟨owns, fun _ => ⟨inode, destination, ?_⟩⟩
      change parseSecret (files.content inode) = _
      rw [contents, content, parseSecret_published present]
    · intro _ _ _ _ writes
      exact absurd ((setCall_self _).symm.trans writes) (by simp)
    · intro _ entry here
      rw [show files.entry userCacheSecretFileName = _ from destination] at here
      cases here
      exact ⟨inode, id, random, rfl, member, length, (congrFun contents inode).trans content⟩

theorem Inv.remove_step (inv : Inv process state) {candidate : String} {loaded : Loaded}
    (phase : state.call id = .cleanup candidate loaded) :
    Moves process state { state.setCall id (.returned loaded) with files := state.files.remove candidate } id := by
  have ok := inv.phases id
  rw [phase] at ok
  obtain ⟨owns, stored⟩ := ok
  -- Only the name of the candidate goes, and the destination has another one.
  have kept (name : String) (other : name ≠ candidate) :
      (state.files.remove candidate).entry name = state.files.entry name := Function.update_of_ne other _ _
  have destination := kept _ owns.ne_destination.symm
  refine ⟨⟨fun other differ => setCall_other _ differ, fun _ member => member, ?_, ?_⟩, ?_, inv.distinct,
    ?_, ?_⟩
  · intro entry found
    exact ⟨destination.trans found, fun _ _ => rfl⟩
  · intro other secret' candidate' inode' rest differ writes
    obtain ⟨-, owns', -, -, apart⟩ := inv.writer writes
    exact ⟨kept candidate' (owns'.apart inv.distinct owns differ), rfl, destination ▸ apart⟩
  · have here : ({ state.setCall id (.returned loaded) with files := state.files.remove candidate } : State).call id =
        .returned loaded := setCall_self _
    rw [here]
    exact LoadedOk.keep stored fun inode found => ⟨destination.trans found, rfl⟩
  · intro _ _ _ _ writes
    exact absurd ((setCall_self _).symm.trans writes) (by simp)
  · intro none entry found
    rw [show (state.files.remove candidate).entry userCacheSecretFileName = _ from destination, none] at found
    cases found

theorem step_moves {action : Action} (inv : Inv process state) (taken : step process state action = some state') :
    ∃ id, Moves process state state' id := by
  cases action with
  | openFile id =>
    refine ⟨id, ?_⟩
    have ok := inv.phases id
    rw [step] at taken
    split at taken
    · cases taken
      exact inv.open_step trivial trivial fun _ _ _ _ same => by cases same
    · rename_i candidate phase
      rw [phase] at ok
      cases taken
      exact inv.open_step ok ⟨ok, trivial⟩ fun _ _ _ _ same => by cases same
    · cases taken
  | read id count =>
    refine ⟨id, ?_⟩
    have ok := inv.phases id
    rw [step] at taken
    split at taken
    · rename_i reading inode buffer phase
      rw [phase] at ok
      cases taken
      obtain ⟨owns, found, part⟩ := ok
      refine inv.local_step ⟨owns, found, ?_⟩ fun _ _ _ _ same => by cases same
      obtain ⟨rest, content⟩ := part
      rw [← content, List.drop_left]
      exact (List.prefix_append_right_inj buffer).mpr (List.take_prefix count rest)
    · cases taken
  | endOfFile id =>
    -- Nothing is parsed before the whole file was read.
    refine ⟨id, ?_⟩
    rw [step] at taken
    split at taken
    · rename_i reading inode buffer phase
      rw [Option.ite_none_right_eq_some] at taken
      obtain ⟨ended, taken⟩ := taken
      cases taken
      exact inv.finish_step phase ended
    · cases taken
  | stat id =>
    refine ⟨id, ?_⟩
    rw [step] at taken
    split at taken
    · split at taken <;> cases taken <;> exact inv.local_step trivial fun _ _ _ _ same => by cases same
    · cases taken
  | draw id random =>
    refine ⟨id, ?_⟩
    have ok := inv.phases id
    rw [step, Option.ite_none_right_eq_some] at taken
    obtain ⟨⟨length, fresh⟩, taken⟩ := taken
    split at taken
    · cases taken
      exact inv.draw_step fresh ⟨random, List.mem_cons_self, length, rfl⟩ fun _ _ _ _ same => by cases same
    · rename_i secret phase
      rw [phase] at ok
      cases taken
      refine inv.draw_step fresh ⟨?_, random, List.mem_cons_self, rfl⟩ fun _ _ _ _ same => by cases same
      exact Drew.mono ok fun _ member => List.mem_cons_of_mem _ member
    · cases taken
  | createNew id =>
    refine ⟨id, ?_⟩
    rw [step] at taken
    split at taken
    · rename_i secret candidate phase
      cases taken
      exact inv.create_step phase
    · cases taken
  | write id count =>
    refine ⟨id, ?_⟩
    rw [step] at taken
    split at taken
    · rename_i secret candidate inode rest phase
      rw [Option.ite_none_right_eq_some] at taken
      obtain ⟨-, taken⟩ := taken
      cases taken
      exact inv.write_step phase count
    · cases taken
  | hardLink id =>
    refine ⟨id, ?_⟩
    rw [step] at taken
    split at taken
    · rename_i secret candidate inode phase
      cases taken
      exact inv.link_step phase
    · cases taken
  | remove id =>
    refine ⟨id, ?_⟩
    rw [step] at taken
    split at taken
    · rename_i candidate loaded phase
      cases taken
      exact inv.remove_step phase
    · cases taken
  | fail id =>
    refine ⟨id, ?_⟩
    rw [step, Option.map_eq_some_iff] at taken
    obtain ⟨phase, failed, rfl⟩ := taken
    exact inv.fail_step failed
  | crash id =>
    refine ⟨id, ?_⟩
    rw [step] at taken
    split at taken
    · cases taken
    · cases taken
    · cases taken
      exact inv.local_step trivial fun _ _ _ _ same => by cases same

/-! ## Runs -/

/-- No call has started.  The directory may hold anything, also a destination. -/
structure Initial (state : State) : Prop where
  calls : ∀ id, state.call id = .start
  drawn : state.drawn = []

theorem Initial.inv (initial : Initial state) : Inv process state := by
  refine ⟨fun id => ?_, ?_, ?_⟩
  · rw [initial.calls]
    trivial
  · rw [initial.drawn]
    exact List.nodup_nil
  · intro id _ _ _ _ _ _ _ _ _ _ writes
    rw [initial.calls] at writes
    cases writes

theorem runs_inv {actions : List Action} (inv : Inv process state)
    (run : exec (step process) state actions = some state') : Inv process state' := by
  refine exec_invariant (fun before action after holds taken => ?_) inv run
  obtain ⟨id, moves⟩ := step_moves holds taken
  exact holds.moves moves

theorem destination_fixed {actions : List Action} (inv : Inv process state)
    (run : exec (step process) state actions = some state') {entry : Entry}
    (found : state.files.entry userCacheSecretFileName = some entry) :
    state'.files.entry userCacheSecretFileName = some entry ∧
      ∀ inode, entry = .file inode → state'.files.content inode = state.files.content inode := by
  have kept : Inv process state' ∧ state'.files.entry userCacheSecretFileName = some entry ∧
      ∀ inode, entry = .file inode → state'.files.content inode = state.files.content inode := by
    refine exec_invariant (P := fun reached => Inv process reached ∧
      reached.files.entry userCacheSecretFileName = some entry ∧
        ∀ inode, entry = .file inode → reached.files.content inode = state.files.content inode)
      (fun before action after holds taken => ?_) ⟨inv, found, fun _ _ => rfl⟩ run
    obtain ⟨holds, here, content⟩ := holds
    obtain ⟨id, moves⟩ := step_moves holds taken
    obtain ⟨here', content'⟩ := moves.keeps.destination entry here
    exact ⟨holds.moves moves, here', fun inode file => (content' inode file).trans (content inode file)⟩
  exact kept.2

theorem destination_published {actions : List Action} (initial : Initial state)
    (none : state.files.entry userCacheSecretFileName = none)
    (run : exec (step process) state actions = some state') {entry : Entry}
    (found : state'.files.entry userCacheSecretFileName = some entry) : Published state' entry := by
  have all : Inv process state' ∧ ∀ entry, state'.files.entry userCacheSecretFileName = some entry →
      Published state' entry := by
    refine exec_invariant (P := fun reached => Inv process reached ∧ ∀ entry,
      reached.files.entry userCacheSecretFileName = some entry → Published reached entry)
      (fun before action after holds taken => ?_) ⟨initial.inv, ?_⟩ run
    · obtain ⟨holds, published⟩ := holds
      obtain ⟨id, moves⟩ := step_moves holds taken
      refine ⟨holds.moves moves, fun entry here => ?_⟩
      -- The entry arrives in this step, or was there and was published earlier.
      cases earlier : before.files.entry userCacheSecretFileName with
      | none => exact moves.arrives earlier entry here
      | some entry' =>
        obtain ⟨here', content⟩ := moves.keeps.destination entry' earlier
        rw [here] at here'
        cases here'
        obtain ⟨inode, publisher, random, rfl, member, length, text⟩ := published entry earlier
        exact ⟨inode, publisher, random, rfl, moves.keeps.drawn _ member, length,
          (content inode rfl).trans text⟩
    · intro entry here
      rw [none] at here
      cases here
  exact all.2 entry found

/-- Whatever the interleaving, failures and crashes: a destination never changes; one that a call
published is its complete secret; and every persisted secret that a call returns is the one that
the destination holds. -/
theorem persisted_converges (process : Nat → Nat) {start state later : State} {before after : List Action}
    (initial : Initial start) (reached : exec (step process) start before = some state)
    (continued : exec (step process) state after = some later) :
    (∀ entry, state.files.entry userCacheSecretFileName = some entry →
      later.files.entry userCacheSecretFileName = some entry ∧
        ∀ inode, entry = .file inode → later.files.content inode = state.files.content inode) ∧
    (start.files.entry userCacheSecretFileName = none →
      ∀ entry, state.files.entry userCacheSecretFileName = some entry → Published state entry) ∧
    (∀ id secret, state.call id = .returned (.persisted secret) → secret ≠ "" →
      Stored state.files secret ∧
        (start.files.entry userCacheSecretFileName = none → ∃ inode,
          state.files.entry userCacheSecretFileName = some (.file inode) ∧
            state.files.content inode = utf8Bytes secret)) ∧
    (∀ id id' secret secret', state.call id = .returned (.persisted secret) → secret ≠ "" →
      later.call id' = .returned (.persisted secret') → secret' ≠ "" → secret = secret') := by
  have inv := runs_inv initial.inv reached
  have invLater := runs_inv inv continued
  have stored {reached : State} (holds : Inv process reached) {id : Nat} {secret : String}
      (returned : reached.call id = .returned (.persisted secret)) (present : secret ≠ "") :
      Stored reached.files secret := by
    have ok := holds.phases id
    rw [returned] at ok
    exact ok present
  refine ⟨fun entry found => destination_fixed inv continued found,
    fun none entry found => destination_published initial none reached found, ?_, ?_⟩
  · intro id secret returned present
    obtain ⟨inode, found, parsed⟩ := stored inv returned present
    refine ⟨⟨inode, found, parsed⟩, fun none => ⟨inode, found, ?_⟩⟩
    obtain ⟨_, publisher, random, same, -, length, content⟩ := destination_published initial none reached found
    cases same
    have nonempty : random ≠ [] := by
      rintro rfl
      cases length
    rw [content, parseSecret_published nonempty] at parsed
    cases parsed
    exact content
  · intro id id' secret secret' returned present returned' present'
    obtain ⟨inode, found, parsed⟩ := stored inv returned present
    obtain ⟨inode', found', parsed'⟩ := stored invLater returned' present'
    obtain ⟨same, content⟩ := destination_fixed inv continued found
    rw [same] at found'
    cases found'
    rw [content inode rfl, parsed] at parsed'
    cases parsed'
    rfl

def noFiles : State :=
  { files := { entry := fun _ => none, content := fun _ => [], next := 0, allocated := fun _ _ found => by cases found }
    drawn := []
    call := fun _ => .start }

/-- Two calls find nothing and write their candidates; call 1 links first. -/
def race : List Action :=
  [.openFile 0, .openFile 1, .stat 1, .stat 0, .draw 0 (.replicate 32 1), .draw 1 (.replicate 32 2),
    .draw 1 (.replicate 32 3), .draw 0 (.replicate 32 4), .createNew 0, .createNew 1, .write 0 20, .write 1 64,
    .write 0 44, .hardLink 1, .remove 1]

/-- Call 0 finds the name taken and reads what is there. -/
def lost : List Action := [.hardLink 0, .openFile 0, .read 0 64, .endOfFile 0, .remove 0]

theorem persisted_converges_sample :
    ∃ state later, exec (step fun call => call) noFiles race = some state ∧
      exec (step fun call => call) state lost = some later ∧
      (∃ entry, state.files.entry userCacheSecretFileName = some entry ∧ Published state entry) ∧
      ∃ secret, state.call 1 = .returned (.persisted secret) ∧ Stored state.files secret ∧
        later.call 0 = .returned (.persisted secret) := by
  have ran : ((exec (step fun call => call) noFiles race).bind fun state =>
      (exec (step fun call => call) state lost).map fun later =>
        (state.files.entry userCacheSecretFileName, state.call 1, later.call 0)) =
      some (some (.file 1), .returned (.persisted (hexEncode (.replicate 32 2))),
        .returned (.persisted (hexEncode (.replicate 32 2)))) := by decide
  obtain ⟨state, raced, ran⟩ := Option.bind_eq_some_iff.mp ran
  obtain ⟨later, continued, observed⟩ := Option.map_eq_some_iff.mp ran
  simp only [Prod.mk.injEq] at observed
  obtain ⟨found, winner, loser⟩ := observed
  have present : hexEncode (.replicate 32 2) ≠ "" := by decide
  obtain ⟨-, complete, stored, -⟩ := persisted_converges (fun call => call) ⟨fun _ => rfl, rfl⟩ raced continued
  exact ⟨state, later, raced, continued, ⟨_, found, complete rfl _ found⟩, _, winner,
    (stored 1 _ winner present).1, loser⟩

end Tinfoil.UserCacheSecret
