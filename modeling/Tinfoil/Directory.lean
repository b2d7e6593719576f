import Mathlib.Logic.Function.Basic

/-! # One directory of a file system

Names stand for files, and a file may have several names.  Creation and linking refuse a name that
is taken; a file keeps its content when a name is removed. -/

namespace Directory

abbrev Inode := Nat

/-- What a name stands for: a regular file, or anything else. -/
inductive Entry where
  | file (inode : Inode)
  | other
  deriving DecidableEq, Repr

/-- Inodes from `next` on are in no use. -/
structure Files (ν : Type) where
  entry : ν → Option Entry
  content : Inode → List UInt8
  next : Inode
  allocated : ∀ name inode, entry name = some (.file inode) → inode < next

inductive Linked (ν : Type) where
  | linked (files : Files ν)
  | exists
  | failed

namespace Files

variable {ν : Type} [DecidableEq ν]

/-- A new empty file under a name that is not taken. -/
def createNew (files : Files ν) (name : ν) : Option (Files ν × Inode) :=
  match files.entry name with
  | some _ => none
  | none =>
    some ({ entry := Function.update files.entry name (some (.file files.next))
            content := Function.update files.content files.next []
            next := files.next + 1
            allocated := by
              intro name' inode found
              by_cases same : name' = name
              · subst same
                rw [Function.update_self] at found
                cases found
                exact Nat.lt_succ_self _
              · rw [Function.update_of_ne same] at found
                exact Nat.lt_succ_of_lt (files.allocated name' inode found) }, files.next)

def append (files : Files ν) (inode : Inode) (bytes : List UInt8) : Files ν :=
  { files with content := Function.update files.content inode (files.content inode ++ bytes) }

def hardLink (files : Files ν) (source target : ν) : Linked ν :=
  match found : files.entry source with
  | some (.file inode) =>
    match files.entry target with
    | some _ => .exists
    | none =>
      .linked { files with
        entry := Function.update files.entry target (some (.file inode))
        allocated := by
          intro name inode' entry
          by_cases same : name = target
          · subst same
            rw [Function.update_self] at entry
            cases entry
            exact files.allocated source inode found
          · rw [Function.update_of_ne same] at entry
            exact files.allocated name inode' entry }
  | _ => .failed

def remove (files : Files ν) (name : ν) : Files ν :=
  { files with
    entry := Function.update files.entry name none
    allocated := by
      intro name' inode found
      by_cases same : name' = name
      · subst same
        rw [Function.update_self] at found
        cases found
      · rw [Function.update_of_ne same] at found
        exact files.allocated name' inode found }

/-! ## What the operations do -/

theorem createNew_some {files files' : Files ν} {name : ν} {inode : Inode}
    (created : files.createNew name = some (files', inode)) :
    files.entry name = none ∧ inode = files.next ∧ files'.next = files.next + 1 ∧
      files'.entry = Function.update files.entry name (some (.file inode)) ∧
      files'.content = Function.update files.content inode [] := by
  unfold createNew at created
  split at created
  · cases created
  · rename_i free
    cases created
    exact ⟨free, rfl, rfl, rfl, rfl⟩

theorem hardLink_linked {files files' : Files ν} {source target : ν}
    (linked : files.hardLink source target = .linked files') :
    ∃ inode, files.entry source = some (.file inode) ∧ files.entry target = none ∧
      files'.entry = Function.update files.entry target (some (.file inode)) ∧
      files'.content = files.content ∧ files'.next = files.next := by
  unfold hardLink at linked
  split at linked
  · rename_i inode found
    split at linked
    · cases linked
    · rename_i free
      cases linked
      exact ⟨inode, found, free, rfl, rfl, rfl⟩
  · cases linked

end Files

end Directory
