import NetLagLab.CallEnvironments
import NetLagLab.RecoveryRecordText

/-! The recovery journal: one record in a file of a private directory. It is replaced by a temporary file that is
written in full and renamed. The system calls are calls of the model; the directory answers them as POSIX says, where
a call may fail and the program may die before any call. -/

namespace NetLagLab.NetworkEnvironment

open ByteLines CallPrograms CallPrograms.Program

/-! ### The directory -/

inductive FileKind where
  | regular
  | symbolicLink
  | other
  deriving DecidableEq

structure Inode where
  kind : FileKind
  owner : UInt32
  mode : UInt32
  content : Bytes
  deriving DecidableEq

structure DirectoryStatus where
  isDirectory : Bool
  owner : UInt32
  mode : UInt32
  deriving DecidableEq

/-- The directory of an open descriptor: its own status, the files that it names, and the files. -/
structure JournalDirectory where
  status : DirectoryStatus
  entries : Bytes → Option Nat
  inodes : Nat → Inode

inductive Errno where
  | exists
  | noEntry
  | interrupted
  | other
  deriving DecidableEq

/-! ### Calls -/

/-- The calls on the directory and on the one file that is open; a file is named by its inode, and a read by its
offset. -/
inductive JournalCall where
  | fstatDirectory
  | createExclusive (name : Bytes)
  | openRecord
  | fstat (file : Nat)
  | read (file offset size : Nat)
  | fchmod (file : Nat) (mode : UInt32)
  | write (file : Nat) (data : Bytes)
  | fsync (file : Nat)
  | close (file : Nat)
  | renameat (name : Bytes)
  | unlinkat (name : Bytes)
  | fsyncDirectory
  deriving DecidableEq

abbrev JournalAnswer : JournalCall → Type
  | .fstatDirectory => Option DirectoryStatus
  | .createExclusive _ => Except Errno Nat
  | .openRecord => Except Errno Nat
  | .fstat _ => Option Inode
  | .read _ _ _ => Except Errno Bytes
  | .fchmod _ _ => Bool
  | .write _ _ => Except Errno Nat
  | .fsync _ => Bool
  | .close _ => Unit
  | .renameat _ => Bool
  | .unlinkat _ => Except Errno Unit
  | .fsyncDirectory => Bool

abbrev JournalProgram (α : Type) := Program JournalCall JournalAnswer α

/-- One call. -/
abbrev callJournal (request : JournalCall) : JournalProgram (JournalAnswer request) := perform request

/-! ### The program -/

def recordName : Bytes := ascii "recovery.state"

def maximumRecordSize : Nat := 256

def validStatus (status : DirectoryStatus) (expectedOwner : UInt32) : Bool :=
  status.isDirectory && decide (status.owner = expectedOwner) && decide (status.mode &&& 0o777 = 0o700)

def validDirectory (expectedOwner : UInt32) : JournalProgram Bool := do
  match ← callJournal .fstatDirectory with
  | none => return false
  | some status => return validStatus status expectedOwner

def validFile (status : Inode) (expectedOwner : UInt32) : Bool :=
  decide (status.kind = .regular) && decide (status.owner = expectedOwner) && decide (status.mode &&& 0o777 = 0o600)
    && decide (status.content.length ≤ maximumRecordSize)

/-- The bytes of the file up to a buffer of the given size. Nothing, when the program is still at it after the given
number of turns. -/
def readAll (file size : Nat) : Nat → Bytes → JournalProgram (Option (Option Bytes))
  | 0, _ => return none
  | turns + 1, received =>
      if size ≤ received.length then return some (some received)
      else do
        match ← callJournal (.read file received.length (size - received.length)) with
        | .ok [] => return some (some received)
        | .ok bytes => readAll file size turns (received ++ bytes)
        | .error .interrupted => readAll file size turns received
        | .error _ => return some none

/-- `read_recovery_record`. -/
def readRecoveryRecord (turns : Nat) (expectedOwner : UInt32) : JournalProgram (Option RecoveryReadResult) := do
  if !(← validDirectory expectedOwner) then
    return some .failure
  match ← callJournal .openRecord with
  | .error .noEntry => return some .empty
  | .error _ => return some .failure
  | .ok file =>
      match ← callJournal (.fstat file) with
      | none => return some .corrupt
      | some status =>
          if validFile status expectedOwner = false then
            return some .corrupt
          match ← readAll file (maximumRecordSize + 1) turns [] with
          | none => return none
          | some none => return some .failure
          | some (some contents) =>
              if maximumRecordSize < contents.length then
                return some .corrupt
              match parse contents with
              | some record => return some (.valid record)
              | none => return some .corrupt

def temporaryName (pid attempt : Nat) : Bytes :=
  ascii ".recovery.state.tmp." ++ decimalText pid ++ ascii "." ++ decimalText attempt

/-- The first of the temporary files that does not exist. -/
def createTemporary (pid : Nat) : List Nat → JournalProgram (Option (Bytes × Nat))
  | [] => return none
  | attempt :: attempts => do
      match ← callJournal (.createExclusive (temporaryName pid attempt)) with
      | .ok file => return some (temporaryName pid attempt, file)
      | .error .exists => createTemporary pid attempts
      | .error _ => return none

/-- `write_all`. Nothing, when the program is still at it after the given number of turns. -/
def writeAll (file : Nat) : Nat → Bytes → JournalProgram (Option Bool)
  | _, [] => return some true
  | 0, _ => return none
  | turns + 1, data => do
      match ← callJournal (.write file data) with
      | .ok 0 => return some false
      | .ok count => writeAll file turns (data.drop count)
      | .error .interrupted => writeAll file turns data
      | .error _ => return some false

/-- The temporary file with its mode and contents, on the disk. -/
def fillTemporary (turns file : Nat) (content : Bytes) : JournalProgram (Option Bool) := do
  if !(← callJournal (.fchmod file 0o600)) then
    return some false
  match ← writeAll file turns content with
  | some true => return some (← callJournal (.fsync file))
  | other => return other

/-- `write_recovery_record`. -/
def writeRecoveryRecord (turns pid : Nat) (expectedOwner : UInt32) (record : RecoveryRecord) :
    JournalProgram (Option Bool) := do
  match serialize record with
  | none => return some false
  | some content =>
      if !(← validDirectory expectedOwner) then
        return some false
      match ← createTemporary pid (List.range 16) with
      | none => return some false
      | some (name, file) =>
          match ← fillTemporary turns file content with
          | none => return none
          | some false =>
              let _ ← callJournal (.unlinkat name)
              return some false
          | some true =>
              let _ ← callJournal (.close file)
              if !(← callJournal (.renameat name)) then
                let _ ← callJournal (.unlinkat name)
                return some false
              if !(← callJournal .fsyncDirectory) then
                let _ ← callJournal (.unlinkat name)
                return some false
              return some true

/-- `clear_recovery_record`. -/
def clearRecoveryRecord (expectedOwner : UInt32) : JournalProgram Bool := do
  if !(← validDirectory expectedOwner) then
    return false
  match ← callJournal (.unlinkat recordName) with
  | .ok () => callJournal .fsyncDirectory
  | .error .noEntry => callJournal .fsyncDirectory
  | .error _ => return false

/-! ### POSIX -/

namespace JournalDirectory

def withEntry (directory : JournalDirectory) (name : Bytes) (file : Option Nat) : JournalDirectory :=
  { directory with entries := Function.update directory.entries name file }

def withInode (directory : JournalDirectory) (file : Nat) (inode : Inode) : JournalDirectory :=
  { directory with inodes := Function.update directory.inodes file inode }

section Updates

variable {directory : JournalDirectory} {name : Bytes} {entry : Option Nat} {file : Nat} {inode : Inode}

@[simp] theorem withEntry_status : (directory.withEntry name entry).status = directory.status := rfl

@[simp] theorem withEntry_inodes : (directory.withEntry name entry).inodes = directory.inodes := rfl

@[simp] theorem withEntry_self : (directory.withEntry name entry).entries name = entry := Function.update_self ..

theorem withEntry_of_ne {other : Bytes} (h : other ≠ name) :
    (directory.withEntry name entry).entries other = directory.entries other := Function.update_of_ne h ..

@[simp] theorem withInode_status : (directory.withInode file inode).status = directory.status := rfl

@[simp] theorem withInode_entries : (directory.withInode file inode).entries = directory.entries := rfl

@[simp] theorem withInode_self : (directory.withInode file inode).inodes file = inode := Function.update_self ..

theorem withInode_of_ne {other : Nat} (h : other ≠ file) :
    (directory.withInode file inode).inodes other = directory.inodes other := Function.update_of_ne h ..

end Updates

/-- A file with more at its end. -/
def appended (directory : JournalDirectory) (file : Nat) (data : Bytes) : JournalDirectory :=
  directory.withInode file { directory.inodes file with content := (directory.inodes file).content ++ data }

end JournalDirectory

/-- What the directory does for a process of the given user. Where calls may fail, each may; a write that fails may have
written some of its bytes. A rename replaces atomically or does nothing. -/
def posix (failing : Bool) (user : UInt32) : Environment JournalCall JournalAnswer JournalDirectory :=
  fun before request answer after =>
    match request, answer with
    | .fstatDirectory, status => after = before ∧ (failing = true ∧ status = none ∨ status = some before.status)
    | .createExclusive name, .ok file =>
        before.entries name = none ∧ (∀ other, before.entries other ≠ some file) ∧
          ∃ mode, after = (before.withEntry name (some file)).withInode file ⟨.regular, user, mode, []⟩
    | .createExclusive _, .error _ => after = before
    | .openRecord, .ok file =>
        after = before ∧ before.entries recordName = some file ∧ (before.inodes file).kind ≠ .symbolicLink
    | .openRecord, .error errno =>
        after = before ∧ (errno = .noEntry → before.entries recordName = none) ∧
          (failing = true ∨ errno = .noEntry ∨
            ∃ file, before.entries recordName = some file ∧ (before.inodes file).kind = .symbolicLink)
    | .fstat file, status => after = before ∧ (failing = true ∧ status = none ∨ status = some (before.inodes file))
    | .read file offset size, .ok bytes =>
        after = before ∧ bytes <+: (before.inodes file).content.drop offset ∧ bytes.length ≤ size ∧
          (bytes = [] → 0 < size → (before.inodes file).content.drop offset = [])
    | .read _ _ _, .error errno => after = before ∧ (failing = true ∨ errno = .interrupted)
    | .fchmod file mode, changed =>
        changed = true ∧ after = before.withInode file { before.inodes file with mode } ∨
          changed = false ∧ after = before
    | .write file data, .ok count => count ≤ data.length ∧ after = before.appended file (data.take count)
    | .write file data, .error errno =>
        ∃ count, after = before.appended file (data.take count) ∧ (errno = .interrupted → count = 0)
    | .fsync _, _ => after = before
    | .close _, _ => after = before
    | .renameat name, true =>
        ∃ file, before.entries name = some file ∧ after = (before.withEntry name none).withEntry recordName (some file)
    | .renameat _, false => after = before
    | .unlinkat name, .ok () => before.entries name ≠ none ∧ after = before.withEntry name none
    | .unlinkat name, .error errno => after = before ∧ (errno = .noEntry → before.entries name = none)
    | .fsyncDirectory, _ => after = before

end NetLagLab.NetworkEnvironment
