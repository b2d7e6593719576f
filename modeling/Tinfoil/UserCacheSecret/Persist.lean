import Tinfoil.Transition
import Tinfoil.Basic
import Tinfoil.Text
import Tinfoil.Directory

/-! # The persisted secret

Any number of calls of `load_or_generate`, in one process or in several, on one secret directory.
Every file operation is one step; between two steps of a call other calls take theirs, an
operation may fail, and a process may crash.  Random values are drawn afresh.

    start → read → missing → publishing → named → create → write → cleanup → returned
                                                           write → reopen → read → cleanup
-/

namespace Tinfoil.UserCacheSecret

open Directory

def userCacheSecretFileName : String := "user_cache_secret"

def candidateName (processId : Nat) (candidateId : String) : String :=
  userCacheSecretFileName ++ "." ++ toString processId ++ "." ++ candidateId ++ ".tmp"

/-- What `read_secret_file` makes of the bytes of a file: nothing of an invalid one, no secret of
a blank one. -/
def parseSecret (bytes : Bytes) : Option (Option String) :=
  (String.fromUTF8? bytes.toByteArray).map fun contents =>
    let existing := String.ofList (Text.trim contents.toList)
    if existing = "" then none else some existing

/-- The secret that a call returns.  An ephemeral one is known to its process only. -/
inductive Loaded where
  | ephemeral
  | persisted (secret : String)
  deriving DecidableEq, Repr

/-- Which `read_secret_file` a call is in: the one at its start, or the one after a lost race. -/
inductive Reading where
  | first
  | again (candidate : String)
  deriving DecidableEq, Repr

inductive Phase where
  | start
  | read (reading : Reading) (inode : Inode) (buffer : Bytes)
  | missing
  | publishing
  | named (secret : String)
  | create (secret candidate : String)
  | write (secret candidate : String) (inode : Inode) (rest : Bytes)
  | reopen (candidate : String)
  | cleanup (candidate : String) (loaded : Loaded)
  | returned (loaded : Loaded)
  | crashed
  deriving DecidableEq, Repr

structure State where
  files : Files String
  /-- The random values drawn so far, with the calls that drew them. -/
  drawn : List (Nat × Bytes)
  call : Nat → Phase

inductive Action where
  | openFile (id : Nat)
  | read (id count : Nat)
  | endOfFile (id : Nat)
  | stat (id : Nat)
  | draw (id : Nat) (random : Bytes)
  | createNew (id : Nat)
  | write (id count : Nat)
  | hardLink (id : Nat)
  | remove (id : Nat)
  | fail (id : Nat)
  | crash (id : Nat)

def State.setCall (state : State) (id : Nat) (phase : Phase) : State :=
  { state with call := Function.update state.call id phase }

def Reading.failed : Reading → Phase
  | first => .returned .ephemeral
  | again candidate => .cleanup candidate .ephemeral

def openDestination (state : State) (reading : Reading) (absent : Phase) : Phase :=
  match state.files.entry userCacheSecretFileName with
  | none => absent
  | some (.file inode) => .read reading inode []
  | some .other => reading.failed

/-- The end of `read_secret_file`. -/
def finishRead (reading : Reading) (bytes : Bytes) : Phase :=
  match reading, parseSecret bytes with
  | .first, some (some existing) => .returned (.persisted existing)
  | .first, some none => .missing
  | .again candidate, some (some existing) => .cleanup candidate (.persisted existing)
  | reading, _ => reading.failed

/-- Where a call goes when the operation it is at fails.  Without randomness the secret is empty. -/
def Phase.failed : Phase → Option Phase
  | start => some (.returned .ephemeral)
  | read reading _ _ => some reading.failed
  | missing => some (.returned .ephemeral)
  | publishing => some (.returned (.persisted ""))
  | named _ => some (.returned (.persisted ""))
  | create _ candidate => some (.cleanup candidate .ephemeral)
  | write _ candidate _ _ => some (.cleanup candidate .ephemeral)
  | reopen candidate => some (.cleanup candidate .ephemeral)
  | cleanup _ loaded => some (.returned loaded)
  | returned _ => none
  | crashed => none

def createCandidate (state : State) (id : Nat) (secret candidate : String) : State :=
  match state.files.createNew candidate with
  | none => state.setCall id (.cleanup candidate .ephemeral)
  | some (files, inode) =>
    { state.setCall id (.write secret candidate inode (utf8Bytes secret)) with files := files }

def linkCandidate (state : State) (id : Nat) (secret candidate : String) : State :=
  match state.files.hardLink candidate userCacheSecretFileName with
  | .linked files => { state.setCall id (.cleanup candidate (.persisted secret)) with files := files }
  | .exists => state.setCall id (.reopen candidate)
  | .failed => state.setCall id (.cleanup candidate .ephemeral)

/-- `process` tells the process of a call. -/
def step (process : Nat → Nat) (state : State) : Action → Option State
  | .openFile id =>
    -- Only the first opening takes a missing destination for one that is to be made.
    match state.call id with
    | .start => some (state.setCall id (openDestination state .first .missing))
    | .reopen candidate =>
      some (state.setCall id (openDestination state (.again candidate) (.cleanup candidate .ephemeral)))
    | _ => none
  | .read id count =>
    match state.call id with
    | .read reading inode buffer =>
      some (state.setCall id
        (.read reading inode (buffer ++ ((state.files.content inode).drop buffer.length).take count)))
    | _ => none
  | .endOfFile id =>
    -- The end is where the file ends by now, and not where it ended when it was opened.
    match state.call id with
    | .read reading inode buffer =>
      if (state.files.content inode).length ≤ buffer.length then
        some (state.setCall id (finishRead reading buffer))
      else none
    | _ => none
  | .stat id =>
    match state.call id with
    | .missing =>
      match state.files.entry userCacheSecretFileName with
      | none => some (state.setCall id .publishing)
      | some _ => some (state.setCall id (.returned .ephemeral))
    | _ => none
  | .draw id random =>
    if random.length = 32 ∧ random ∉ state.drawn.map (·.2) then
      match state.call id with
      | .publishing =>
        some { state.setCall id (.named (hexEncode random)) with drawn := (id, random) :: state.drawn }
      | .named secret =>
        some { state.setCall id (.create secret (candidateName (process id) (hexEncode random))) with
          drawn := (id, random) :: state.drawn }
      | _ => none
    else none
  | .createNew id =>
    match state.call id with
    | .create secret candidate => some (createCandidate state id secret candidate)
    | _ => none
  | .write id count =>
    -- `write_all`: some of what is left, in as many steps as it takes.
    match state.call id with
    | .write secret candidate inode rest =>
      if 0 < count ∧ count ≤ rest.length then
        some { state.setCall id (.write secret candidate inode (rest.drop count)) with
          files := state.files.append inode (rest.take count) }
      else none
    | _ => none
  | .hardLink id =>
    -- The link is attempted once all of the candidate is written.
    match state.call id with
    | .write secret candidate _ [] => some (linkCandidate state id secret candidate)
    | _ => none
  | .remove id =>
    match state.call id with
    | .cleanup candidate loaded =>
      some { state.setCall id (.returned loaded) with files := state.files.remove candidate }
    | _ => none
  | .fail id => (state.call id).failed.map (state.setCall id)
  | .crash id =>
    -- The process of the call ends, and leaves its files behind.
    match state.call id with
    | .returned _ | .crashed => none
    | _ => some (state.setCall id .crashed)

end Tinfoil.UserCacheSecret
