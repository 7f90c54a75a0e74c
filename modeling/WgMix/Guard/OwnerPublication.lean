import Mathlib.Logic.Function.Basic
import WgMix.Foundation.Interleaving
import WgMix.Foundation.Text

/-! Publication of the guard owner record. Calls of any number of processes take turns at file operations on one state
directory; a failed operation and a crash both end the call and close its files, which gives up its lock. -/
namespace WgMix.Guard.Publication
open Interleaving Text

/-- Absolute and in canonical form, and not the root. -/
def safePath (path : Bytes) : Bool :=
  match path.splitOn 47 with
  | [] :: components => components ≠ [] ∧ ∀ part ∈ components, part ≠ [] ∧ part ≠ [46] ∧ part ≠ [46, 46]
  | _ => false

structure StateDirectory where
  path : Bytes
  device : UInt64
  inode : UInt64
  safe : safePath path = true

structure OwnerRecord where
  version : Int
  installationId : Bytes
  stateDir : Bytes
  stateDirDevice : UInt64
  stateDirInode : UInt64
  table : Bytes
  marker : Bytes
  deriving DecidableEq

def ownedTableName (installationId : Bytes) : Bytes := ascii "wg_mix_ebpf_guard_" ++ installationId.take 32
def ownedTableMarker (installationId : Bytes) : Bytes := ascii "wg-mix-ebpf-guard-v2:" ++ installationId

def hexDigits (byte : UInt8) : Bytes :=
  let digit (value : UInt8) : UInt8 := if value < 10 then 48 + value else 87 + value
  [digit (byte / 16), digit (byte % 16)]

def lowerHex (byte : UInt8) : Bool := (48 ≤ byte ∧ byte ≤ 57) ∨ (97 ≤ byte ∧ byte ≤ 102)

def OwnerRecord.validateSelf (record : OwnerRecord) : Bool :=
  record.version = 2 ∧ record.installationId.length = 64 ∧ record.installationId.all lowerHex ∧
    safePath record.stateDir ∧ record.stateDirInode ≠ 0 ∧
    record.table = ownedTableName record.installationId ∧ record.marker = ownedTableMarker record.installationId

def OwnerRecord.validate (record : OwnerRecord) (directory : StateDirectory) : Bool :=
  record.validateSelf ∧ record.stateDir = directory.path ∧ record.stateDirDevice = directory.device ∧
    record.stateDirInode = directory.inode

def StateDirectory.record (directory : StateDirectory) (installationId : Bytes) : OwnerRecord :=
  { version := 2, installationId, stateDir := directory.path, stateDirDevice := directory.device,
    stateDirInode := directory.inode, table := ownedTableName installationId,
    marker := ownedTableMarker installationId }

/-- The record of a call that drew this token. -/
def newRecord (directory : StateDirectory) (token : FixedBytes 32) : OwnerRecord :=
  directory.record (token.val.flatMap hexDigits)

/-- JSON of the records of a directory. A string that is not valid UTF-8 is written as `coerce` makes it valid. -/
structure Json (directory : StateDirectory) where
  marshalIndent : OwnerRecord → Bytes
  decode : Bytes → Option OwnerRecord
  coerce : Bytes → Bytes
  decode_marshal : ∀ token, decode (marshalIndent (newRecord directory token)) =
    some { newRecord directory token with stateDir := coerce directory.path }

variable (directory : StateDirectory)

def decodeOwnerRecord {directory : StateDirectory} (json : Json directory) (data : Bytes) : Option OwnerRecord :=
  (json.decode data).filter fun record => record.validate directory

def maxOwnerRecordBytes : Nat := 4096

/-- What a load of the record is for. -/
inductive Purpose where
  | first
  | recheck (file : Nat) (record : OwnerRecord)
  | existing
  | persisted (record : OwnerRecord)
  deriving DecidableEq

/-- Where a call stands, in front of its next file operation. -/
inductive Location where
  | start
  | opening (purpose : Purpose)
  | reading (purpose : Purpose) (file : Nat)
  | decoding (purpose : Purpose) (file : Nat) (data : Bytes)
  | create (record : OwnerRecord)
  | reopen (record : OwnerRecord)
  | lock (file : Nat) (record : OwnerRecord)
  | inspect (file : Nat) (record : OwnerRecord)
  | truncate (file : Nat) (record : OwnerRecord)
  | write (file : Nat) (record : OwnerRecord) (written : Nat)
  | verify (file : Nat) (record : OwnerRecord)
  | rename (file : Nat) (record : OwnerRecord)
  | published (file : Nat) (record : OwnerRecord)
  | returned (result : Option (OwnerRecord × Bool))
  deriving DecidableEq

/-- The two names, the files by their number, and the call whose rename made the final name. -/
structure Files where
  pending : Option Nat := none
  final : Option Nat := none
  created : Nat := 0
  contents : Nat → Bytes := fun _ => []
  locked : Nat → Option Nat := fun _ => none
  publisher : Option Nat := none

/-- Whether the operation fails or the process crashes, whether a failing load says that the record does not exist,
the token that is drawn and how much of the rest a write takes. -/
structure Choice where
  fault : Bool := false
  missing : Bool := false
  token : FixedBytes 32
  chunk : Nat := 0

namespace Files

/-- All files of a call are closed. -/
def unlock (files : Files) (call : Nat) : Files :=
  { files with locked := fun file => if files.locked file = some call then none else files.locked file }

def fail (files : Files) (call : Nat) : Files × Location := (files.unlock call, .returned none)

def store (files : Files) (file : Nat) (data : Bytes) : Files :=
  { files with contents := Function.update files.contents file data }

/-- The load found no record. -/
def absent (files : Files) (call : Nat) (token : FixedBytes 32) : Purpose → Files × Location
  | .first => (files, .create (newRecord directory token))
  | .recheck file record => (files, .inspect file record)
  | .existing | .persisted _ => files.fail call

def loaded (files : Files) (call : Nat) (found : OwnerRecord) : Purpose → Files × Location
  | .first | .existing => (files, .returned (some (found, false)))
  | .recheck _ _ => (files.unlock call, .opening .existing)
  | .persisted record => if found = record then (files, .returned (some (found, true))) else files.fail call

/-- A fault of `loadOwnerRecord`. -/
def unloaded (files : Files) (call : Nat) (choice : Choice) (purpose : Purpose) : Files × Location :=
  if choice.missing then files.absent directory call choice.token purpose else files.fail call

end Files

variable {directory} (json : Json directory)

/-- One file operation of the call with this number. -/
def act (choice : Nat × Choice) (files : Files) : Location → Files × Location
  | .start => if choice.2.fault then files.fail choice.1 else (files, .opening .first)
  | .opening purpose =>
    if choice.2.fault then files.unloaded directory choice.1 choice.2 purpose
    else
      match files.final with
      | none => files.absent directory choice.1 choice.2.token purpose
      | some file => (files, .reading purpose file)
  | .reading purpose file =>
    if choice.2.fault then files.unloaded directory choice.1 choice.2 purpose
    else if files.final ≠ some file ∨ maxOwnerRecordBytes < (files.contents file).length then files.fail choice.1
    else (files, .decoding purpose file (files.contents file))
  | .decoding purpose file data =>
    if choice.2.fault then files.unloaded directory choice.1 choice.2 purpose
    else if files.final ≠ some file then files.fail choice.1
    else
      match decodeOwnerRecord json data with
      | none => files.fail choice.1
      | some found => files.loaded choice.1 found purpose
  | .create record =>
    if choice.2.fault ∨ maxOwnerRecordBytes < (json.marshalIndent record).length then files.fail choice.1
    else
      match files.pending with
      | some _ => (files, .reopen record)
      | none =>
        ({ files.store files.created [] with pending := some files.created, created := files.created + 1 },
          .lock files.created record)
  | .reopen record =>
    if choice.2.fault then files.fail choice.1
    else
      match files.pending with
      | none => files.fail choice.1
      | some file => (files, .lock file record)
  | .lock file record =>
    if choice.2.fault ∨ files.locked file ≠ none then files.fail choice.1
    else ({ files with locked := Function.update files.locked file (some choice.1) }, .opening (.recheck file record))
  | .inspect file record =>
    if choice.2.fault ∨ files.pending ≠ some file then files.fail choice.1 else (files, .truncate file record)
  | .truncate file record =>
    if choice.2.fault then files.fail choice.1 else (files.store file [], .write file record 0)
  | .write file record written =>
    let data := json.marshalIndent record
    if data.length ≤ written then (files, .verify file record)
    else if choice.2.fault ∨ choice.2.chunk = 0 then files.fail choice.1
    else
      let chunk := (data.drop written).take choice.2.chunk
      let old := files.contents file
      (files.store file (old.take written ++ chunk ++ old.drop (written + chunk.length)),
        .write file record (written + chunk.length))
  | .verify file record =>
    if choice.2.fault ∨ files.pending ≠ some file then files.fail choice.1 else (files, .rename file record)
  | .rename file record =>
    if choice.2.fault then files.fail choice.1
    else
      match files.final, files.pending with
      | some _, _ => (files.unlock choice.1, .opening .existing)
      | none, none => files.fail choice.1
      | none, some source =>
        ({ files with pending := none, final := some source, publisher := some choice.1 }, .published file record)
  | .published file record =>
    if choice.2.fault ∨ files.final ≠ some file then files.fail choice.1
    else (files.unlock choice.1, .opening (.persisted record))
  | .returned result => (files, .returned result)

abbrev World := System Files Location

def start : World := ⟨{}, []⟩

def step (world : World) : Turn Unit Choice → World
  | .spawn _ => Interleaving.step (act json) world (.spawn .start)
  | .act index choice => Interleaving.step (act json) world (.act index (index, choice))

section Invariant
variable {json : Json directory} {before after files : Files} {call other : Nat}

def Made (json : Json directory) (record : OwnerRecord) (data : Bytes) : Prop :=
  (∃ token, record = newRecord directory token) ∧ data = json.marshalIndent record

structure Sound (json : Json directory) (files : Files) : Prop where
  numbered : ∀ file, files.pending = some file ∨ files.final = some file → file < files.created
  apart : ∀ file, files.pending = some file → files.final ≠ some file
  complete : ∀ file, files.final = some file → ∃ record, Made json record (files.contents file)
  unpublished : files.final = none → files.publisher = none

def Writes (files : Files) (call file : Nat) : Prop := files.locked file = some call ∧ files.pending = some file

/-- What one operation changes in the files. -/
inductive Change (json : Json directory) (call : Nat) (before : Files) : Files → Prop where
  | same : Change json call before before
  | unlocked : Change json call before (before.unlock call)
  | created (free : before.pending = none) : Change json call before
      { before.store before.created [] with pending := some before.created, created := before.created + 1 }
  | locked (free : before.locked file = none) : Change json call before
      { before with locked := Function.update before.locked file (some call) }
  | wrote (mine : Writes before call file) : Change json call before (before.store file data)
  | renamed (mine : Writes before call file) (free : before.final = none)
      (complete : ∃ record, Made json record (before.contents file)) : Change json call before
      { before with pending := none, final := some file, publisher := some call }

/-- What another call's operation leaves alone. -/
structure Frame (call : Nat) (before after : Files) : Prop where
  locked : before.locked file = some call → after.locked file = some call
  writes : Writes before call file → after.pending = some file ∧ after.contents file = before.contents file
  final : before.final = some file → after.final = some file ∧ after.contents file = before.contents file
  publisher : before.publisher = some caller → after.publisher = some caller

theorem Change.frame (change : Change json call before after) (sound : Sound json before)
    (apart : other ≠ call) : Frame other before after := by
  cases change with
  | same => exact ⟨fun held => held, fun writes => ⟨writes.2, rfl⟩, fun final => ⟨final, rfl⟩, fun same => same⟩
  | unlocked =>
    refine ⟨fun held => ?_, fun writes => ⟨writes.2, rfl⟩, fun final => ⟨final, rfl⟩, fun same => same⟩
    simp only [Files.unlock, held, Option.some.injEq, apart, if_false]
  | created free =>
    refine ⟨fun held => held, fun writes => ?_, fun final => ⟨final, ?_⟩, fun same => same⟩
    · cases free.symm.trans writes.2
    · exact Function.update_of_ne (sound.numbered _ (.inr final)).ne _ _
  | locked free =>
    refine ⟨fun held => ?_, fun writes => ⟨writes.2, rfl⟩, fun final => ⟨final, rfl⟩, fun same => same⟩
    dsimp only
    rw [Function.update_of_ne, held]
    rintro rfl
    cases free.symm.trans held
  | wrote mine =>
    refine ⟨fun held => held, fun writes => ?_, fun final => ⟨final, ?_⟩, fun same => same⟩
    · cases mine.2.symm.trans writes.2
      cases mine.1.symm.trans writes.1
      exact absurd rfl apart
    · refine Function.update_of_ne ?_ _ _
      rintro rfl
      exact sound.apart _ mine.2 final
  | renamed mine free complete =>
    refine ⟨fun held => held, fun writes => ?_, fun final => ?_, fun same => ?_⟩
    · cases mine.2.symm.trans writes.2
      cases mine.1.symm.trans writes.1
      exact absurd rfl apart
    · cases free.symm.trans final
    · cases (sound.unpublished free).symm.trans same

theorem Change.sound (change : Change json call before after) (sound : Sound json before) :
    Sound json after := by
  cases change with
  | same => exact sound
  | unlocked => exact ⟨sound.numbered, sound.apart, sound.complete, sound.unpublished⟩
  | locked free => exact ⟨sound.numbered, sound.apart, sound.complete, sound.unpublished⟩
  | created free =>
    have bound {file : Nat} (final : before.final = some file) := sound.numbered file (.inr final)
    refine ⟨?_, ?_, ?_, sound.unpublished⟩
    · rintro file (⟨⟨⟩⟩ | final)
      · exact Nat.lt_succ_self _
      · exact Nat.lt_succ_of_lt (bound final)
    · rintro file ⟨⟩ final
      exact absurd (bound final) (Nat.lt_irrefl _)
    · intro file final
      dsimp only [Files.store]
      rw [Function.update_of_ne (bound final).ne]
      exact sound.complete file final
  | wrote mine =>
    refine ⟨sound.numbered, sound.apart, fun file final => ?_, sound.unpublished⟩
    dsimp only [Files.store]
    rw [Function.update_of_ne]
    · exact sound.complete file final
    · rintro rfl
      exact sound.apart _ mine.2 final
  | renamed mine free complete =>
    refine ⟨?_, ?_, ?_, ?_⟩
    · rintro file (⟨⟨⟩⟩ | ⟨⟨⟩⟩)
      exact sound.numbered _ (.inl mine.2)
    · rintro file ⟨⟩
    · rintro file ⟨⟩
      exact complete
    · rintro ⟨⟩

def Purpose.Serves (directory : StateDirectory) (files : Files) (call : Nat) : Purpose → Prop
  | .first | .existing => True
  | .recheck file record => files.locked file = some call ∧ ∃ token, record = newRecord directory token
  | .persisted _ => files.publisher = some call

/-- What holds for a call at each of its operations. -/
def Location.Serves (json : Json directory) (files : Files) (call : Nat) : Location → Prop
  | .start | .returned none => True
  | .opening purpose => purpose.Serves directory files call
  | .reading purpose file => purpose.Serves directory files call ∧ files.final = some file
  | .decoding purpose file data =>
    purpose.Serves directory files call ∧ files.final = some file ∧ data = files.contents file
  | .create record | .reopen record | .lock _ record => ∃ token, record = newRecord directory token
  | .inspect file record => files.locked file = some call ∧ ∃ token, record = newRecord directory token
  | .truncate file record => Writes files call file ∧ ∃ token, record = newRecord directory token
  | .write file record written => Writes files call file ∧ (∃ token, record = newRecord directory token) ∧
      files.contents file = (json.marshalIndent record).take written
  | .verify file record | .rename file record =>
    Writes files call file ∧ Made json record (files.contents file)
  | .published _ _ => files.publisher = some call
  | .returned (some (record, isNew)) =>
    (∃ file, files.final = some file ∧ decodeOwnerRecord json (files.contents file) = some record) ∧
      (isNew = true → files.publisher = some call)

theorem Frame.writes_stay (frame : Frame call before after) (writes : Writes before call file) :
    Writes after call file ∧ after.contents file = before.contents file :=
  ⟨⟨frame.locked writes.1, (frame.writes writes).1⟩, (frame.writes writes).2⟩

theorem Frame.purpose (frame : Frame call before after) {purpose : Purpose}
    (serves : purpose.Serves directory before call) : purpose.Serves directory after call := by
  cases purpose with
  | first => trivial
  | existing => trivial
  | recheck file record => exact ⟨frame.locked serves.1, serves.2⟩
  | persisted record => exact frame.publisher serves

theorem Frame.serves (frame : Frame call before after) {location : Location}
    (serves : location.Serves json before call) : location.Serves json after call := by
  cases location with
  | start => trivial
  | opening purpose => exact frame.purpose serves
  | reading purpose file => exact ⟨frame.purpose serves.1, (frame.final serves.2).1⟩
  | decoding purpose file data =>
    obtain ⟨final, same⟩ := frame.final serves.2.1
    exact ⟨frame.purpose serves.1, final, serves.2.2.trans same.symm⟩
  | create record => exact serves
  | reopen record => exact serves
  | lock file record => exact serves
  | inspect file record => exact ⟨frame.locked serves.1, serves.2⟩
  | truncate file record => exact ⟨(frame.writes_stay serves.1).1, serves.2⟩
  | write file record written =>
    obtain ⟨writes, same⟩ := frame.writes_stay serves.1
    exact ⟨writes, serves.2.1, same.trans serves.2.2⟩
  | verify file record =>
    obtain ⟨writes, same⟩ := frame.writes_stay serves.1
    exact ⟨writes, same ▸ serves.2⟩
  | rename file record =>
    obtain ⟨writes, same⟩ := frame.writes_stay serves.1
    exact ⟨writes, same ▸ serves.2⟩
  | published file record => exact frame.publisher serves
  | returned result =>
    rcases result with _ | ⟨record, fresh⟩
    · trivial
    · obtain ⟨⟨file, final, found⟩, made⟩ := serves
      obtain ⟨kept, same⟩ := frame.final final
      exact ⟨⟨file, kept, same ▸ found⟩, fun new => frame.publisher (made new)⟩

/-- An operation changes the files in one of these ways, and leads to an operation whose conditions hold. -/
def Moves (json : Json directory) (call : Nat) (files : Files) (next : Files × Location) : Prop :=
  Change json call files next.1 ∧ next.2.Serves json next.1 call

theorem fail_moves : Moves json call files (files.fail call) := ⟨.unlocked, trivial⟩

theorem absent_moves {purpose : Purpose} (serves : purpose.Serves directory files call) :
    Moves json call files (files.absent directory call token purpose) := by
  cases purpose with
  | first => exact ⟨.same, token, rfl⟩
  | existing => exact fail_moves
  | recheck file record => exact ⟨.same, serves⟩
  | persisted record => exact fail_moves

theorem unloaded_moves {purpose : Purpose} (serves : purpose.Serves directory files call) :
    Moves json call files (files.unloaded directory call choice purpose) := by
  rw [Files.unloaded]
  split
  · exact absent_moves serves
  · exact fail_moves

theorem loaded_moves {purpose : Purpose} (serves : purpose.Serves directory files call)
    (final : files.final = some file) (found : decodeOwnerRecord json (files.contents file) = some record) :
    Moves json call files (files.loaded call record purpose) := by
  cases purpose with
  | first => exact ⟨.same, ⟨file, final, found⟩, by rintro ⟨⟩⟩
  | existing => exact ⟨.same, ⟨file, final, found⟩, by rintro ⟨⟩⟩
  | recheck held owner => exact ⟨.unlocked, trivial⟩
  | persisted owner =>
    rw [Files.loaded]
    split
    · exact ⟨.same, ⟨file, final, found⟩, fun _ => serves⟩
    · exact fail_moves

/-- What a write adds behind the bytes that are there. -/
theorem written_more (data : Bytes) (written chunk : Nat) :
    (data.take written).take written ++ (data.drop written).take chunk ++
        (data.take written).drop (written + ((data.drop written).take chunk).length) =
      data.take (written + ((data.drop written).take chunk).length) := by
  have taken : (data.drop written).take chunk =
      (data.drop written).take ((data.drop written).take chunk).length :=
    List.prefix_iff_eq_take.mp (List.take_prefix _ _)
  have past (more : Nat) : (data.take written).drop (written + more) = [] :=
    List.drop_eq_nil_of_le ((List.length_take_le _ _).trans (Nat.le_add_right _ _))
  rw [List.take_take, Nat.min_self, past, List.append_nil, List.take_add, ← taken]

theorem act_moves {location : Location} (choice : Choice) (serves : location.Serves json files call) :
    Moves json call files (act json (call, choice) files location) := by
  cases location with
  | start =>
    rw [act]
    split
    · exact fail_moves
    · exact ⟨.same, trivial⟩
  | opening purpose =>
    rw [act]
    split
    · exact unloaded_moves serves
    split
    · exact absent_moves serves
    · rename_i final
      exact ⟨.same, serves, final⟩
  | reading purpose file =>
    rw [act]
    split
    · exact unloaded_moves serves.1
    split
    · exact fail_moves
    · exact ⟨.same, serves.1, serves.2, rfl⟩
  | decoding purpose file data =>
    obtain ⟨serves, final, rfl⟩ := serves
    rw [act]
    split
    · exact unloaded_moves serves
    split
    · exact fail_moves
    split
    · exact fail_moves
    · rename_i found
      exact loaded_moves serves final found
  | create record =>
    rw [act]
    split
    · exact fail_moves
    split
    · exact ⟨.same, serves⟩
    · rename_i free
      exact ⟨.created free, serves⟩
  | reopen record =>
    rw [act]
    split
    · exact fail_moves
    split
    · exact fail_moves
    · exact ⟨.same, serves⟩
  | lock file record =>
    rw [act]
    split
    · exact fail_moves
    · rename_i free
      refine ⟨.locked (Decidable.not_not.mp (not_or.mp free).2), ?_, serves⟩
      exact Function.update_self _ _ _
  | inspect file record =>
    rw [act]
    split
    · exact fail_moves
    · rename_i matching
      exact ⟨.same, ⟨serves.1, Decidable.not_not.mp (not_or.mp matching).2⟩, serves.2⟩
  | truncate file record =>
    rw [act]
    split
    · exact fail_moves
    · exact ⟨.wrote serves.1, serves.1, serves.2, Function.update_self _ _ _⟩
  | write file record written =>
    obtain ⟨writes, made, stored⟩ := serves
    rw [act]
    dsimp only
    split
    · rename_i finished
      rw [List.take_of_length_le finished] at stored
      exact ⟨.same, writes, made, stored⟩
    split
    · exact fail_moves
    · refine ⟨.wrote writes, writes, made, (Function.update_self _ _ _).trans ?_⟩
      rw [stored, written_more]
  | verify file record =>
    rw [act]
    split
    · exact fail_moves
    · exact ⟨.same, serves⟩
  | rename file record =>
    obtain ⟨writes, made⟩ := serves
    rw [act]
    split
    · exact fail_moves
    split
    · exact ⟨.unlocked, trivial⟩
    · exact fail_moves
    · rename_i source free named
      cases named.symm.trans writes.2
      exact ⟨.renamed writes free ⟨record, made⟩, rfl⟩
  | published file record =>
    rw [act]
    split
    · exact fail_moves
    · exact ⟨.unlocked, serves⟩
  | returned result => exact ⟨.same, serves⟩

structure WorldSound (json : Json directory) (world : World) : Prop where
  files : Sound json world.shared
  serves : ∀ (index : Nat) location, world.threads[index]? = some location →
    location.Serves json world.shared index

/-- A turn changes the files in the name of one call, and what holds for every call still does. -/
theorem step_sound (world : World) (turn : Turn Unit Choice) (sound : WorldSound json world) :
    (∃ call, Change json call world.shared (step json world turn).shared) ∧
      WorldSound json (step json world turn) := by
  cases turn with
  | spawn _ =>
    refine ⟨⟨0, .same⟩, sound.files, fun index location found => ?_⟩
    rw [step, Interleaving.step, List.getElem?_append] at found
    split at found
    · exact sound.serves index location found
    · cases List.mem_singleton.mp (List.mem_of_getElem? found)
      trivial
  | act index choice =>
    rw [step]
    rcases step_cases (act json) world (.act index (index, choice)) with
      same | ⟨_, turn, _⟩ | ⟨_, _, location, turn, at_, moved⟩
    · rw [same]
      exact ⟨⟨0, .same⟩, sound⟩
    · cases turn
    cases turn
    rw [moved]
    obtain ⟨change, serves⟩ := act_moves choice (sound.serves index location at_)
    refine ⟨⟨index, change⟩, change.sound sound.files, fun other waiting found => ?_⟩
    by_cases here : index = other
    · subst here
      rw [List.getElem?_set_self (List.getElem?_eq_some_iff.mp at_).1] at found
      cases found
      exact serves
    · rw [List.getElem?_set_ne here] at found
      exact (change.frame sound.files (Ne.symm here)).serves (sound.serves other waiting found)

theorem reachable_sound (turns : List (Turn Unit Choice)) :
    WorldSound json (Runs.run (step json) start turns) := by
  refine Runs.always (fun world turn sound => (step_sound world turn sound).2) ⟨?_, ?_⟩ turns
  · exact ⟨by simp [start], by simp [start], by simp [start], fun _ => rfl⟩
  · intro index location found
    cases found

/-- The record under the final name, from then on. -/
theorem final_stays (sound : WorldSound json world) (final : world.shared.final = some file)
    (later : List (Turn Unit Choice)) :
    (Runs.run (step json) world later).shared.final = some file ∧
      (Runs.run (step json) world later).shared.contents file = world.shared.contents file := by
  induction later generalizing world with
  | nil => exact ⟨final, rfl⟩
  | cons turn rest ih =>
    obtain ⟨⟨call, change⟩, next⟩ := step_sound world turn sound
    obtain ⟨kept, same⟩ := (change.frame sound.files (Nat.succ_ne_self call)).final final
    obtain ⟨final, contents⟩ := ih next kept
    exact ⟨final, contents.trans same⟩

end Invariant

theorem hexDigits_lower (byte : UInt8) : (hexDigits byte).all lowerHex = true := by
  have digits : ∀ index : Fin 256, (hexDigits ⟨⟨index⟩⟩).all lowerHex = true := by decide +kernel
  exact digits byte.toFin

theorem token_hex (token : FixedBytes 32) :
    (token.val.flatMap hexDigits).length = 64 ∧ (token.val.flatMap hexDigits).all lowerHex = true := by
  constructor
  · rw [List.length_flatMap]
    simp [hexDigits, token.property]
  · rw [List.all_flatMap, List.all_eq_true]
    exact fun byte _ => hexDigits_lower byte

theorem newRecord_valid (carried : json.coerce directory.path = directory.path) (inode : directory.inode ≠ 0)
    (token : FixedBytes 32) :
    decodeOwnerRecord json (json.marshalIndent (newRecord directory token)) =
      some (newRecord directory token) := by
  have same : { newRecord directory token with stateDir := json.coerce directory.path } =
      newRecord directory token := by
    rw [carried]
    rfl
  have valid : (newRecord directory token).validate directory = true := by
    simp [OwnerRecord.validate, OwnerRecord.validateSelf, newRecord, StateDirectory.record, token_hex token,
      directory.safe, inode]
  rw [decodeOwnerRecord, json.decode_marshal, same, Option.filter_some, if_pos valid]

theorem owner_record_published_once (carried : json.coerce directory.path = directory.path)
    (inode : directory.inode ≠ 0) (turns : List (Turn Unit Choice)) :
    let world := Runs.run (step json) start turns
    (∀ file, world.shared.final = some file →
      (∃ record, decodeOwnerRecord json (world.shared.contents file) = some record) ∧
      ∀ later, (Runs.run (step json) world later).shared.final = some file ∧
        (Runs.run (step json) world later).shared.contents file = world.shared.contents file) ∧
    (∀ (index : Nat) record fresh, world.threads[index]? = some (.returned (some (record, fresh))) →
      ∃ file, world.shared.final = some file ∧
        decodeOwnerRecord json (world.shared.contents file) = some record) ∧
    ∀ (first second : Nat) record again, world.threads[first]? = some (.returned (some (record, true))) →
      world.threads[second]? = some (.returned (some (again, true))) → first = second := by
  intro world
  have sound : WorldSound json world := reachable_sound turns
  refine ⟨fun file final => ⟨?_, final_stays sound final⟩, ?_, ?_⟩
  · obtain ⟨record, ⟨token, rfl⟩, stored⟩ := sound.files.complete file final
    rw [stored]
    exact ⟨_, newRecord_valid json carried inode token⟩
  · intro index record fresh found
    exact (sound.serves index _ found).1
  · intro first second record again one two
    have mine := (sound.serves first _ one).2 rfl
    have also := (sound.serves second _ two).2 rfl
    exact Option.some.inj (mine.symm.trans also)

section Sample

def jsonField (name : String) (value : Bytes) : Bytes := ascii ("  \"" ++ name ++ "\": ") ++ value
def jsonString (text : Bytes) : Bytes := ascii "\"" ++ text ++ ascii "\""

def recordFront : Bytes :=
  ascii "\x7b\n" ++ jsonField "version" (ascii "2,\n") ++ jsonField "installation_id" (ascii "\"")

/-- The indented text with the newline behind it. A byte that is no character is written as the escaped
replacement character; no other byte of the sample paths needs an escape. -/
def recordText (record : OwnerRecord) : Bytes :=
  let path := record.stateDir.flatMap fun byte => if byte < 128 then [byte] else ascii "\\ufffd"
  recordFront ++ (record.installationId ++ (ascii "\",\n" ++ jsonField "state_dir" (jsonString path) ++ ascii ",\n" ++
    jsonField "state_dir_device" (decimal record.stateDirDevice.toNat) ++ ascii ",\n" ++
    jsonField "state_dir_inode" (decimal record.stateDirInode.toNat) ++ ascii ",\n" ++
    jsonField "table" (jsonString record.table) ++ ascii ",\n" ++
    jsonField "marker" (jsonString record.marker) ++ ascii "\n\x7d\n"))

def sampleCoerce (path : Bytes) : Bytes := path.flatMap fun byte => if byte < 128 then [byte] else [0xef, 0xbf, 0xbd]

def sampleJson (directory : StateDirectory) : Json directory where
  marshalIndent := recordText
  decode data :=
    let record := directory.record ((data.drop recordFront.length).take 64)
    if data = recordText record then some { record with stateDir := sampleCoerce directory.path } else none
  coerce := sampleCoerce
  decode_marshal token := by
    have identity : ((recordText (newRecord directory token)).drop recordFront.length).take 64 =
        token.val.flatMap hexDigits := by
      rw [recordText, List.drop_left]
      exact List.take_left' (token_hex token).1
    rw [identity]
    exact if_pos rfl

/-- A turn of a call that would draw a token of this byte. -/
def sampleTurn (call : Nat) : Turn Unit Choice := .act call { token := .fill 32 (0xa5 + .ofNat call), chunk := 300 }

/-- Two calls that both find no record. The second one has opened the pending file when the first one locks it. -/
def sampleTurns : List (Turn Unit Choice) :=
  [.spawn (), .spawn ()] ++ List.replicate 3 (sampleTurn 0) ++ List.replicate 4 (sampleTurn 1) ++
    List.replicate 13 (sampleTurn 0) ++ List.replicate 7 (sampleTurn 1)

def sampleDirectory : StateDirectory := ⟨ascii "/var/lib/wg-mix-ebpf", 1, 2, by decide +kernel⟩

def sampleRecord : OwnerRecord := newRecord sampleDirectory (.fill 32 0xa5)

def sampleWorld : World := Runs.run (step (sampleJson sampleDirectory)) start sampleTurns

/-- The first call publishes its record, and the second one returns that record. -/
theorem two_calls_publish_once :
    sampleWorld.threads = [.returned (some (sampleRecord, true)), .returned (some (sampleRecord, false))] ∧
      ∃ file, sampleWorld.shared.final = some file ∧
        decodeOwnerRecord (sampleJson sampleDirectory) (sampleWorld.shared.contents file) = some sampleRecord := by
  have returned : sampleWorld.threads =
      [.returned (some (sampleRecord, true)), .returned (some (sampleRecord, false))] := by
    decide +kernel
  refine ⟨returned, ?_⟩
  have published :=
    owner_record_published_once (sampleJson sampleDirectory) (by decide +kernel) (by decide) sampleTurns
  rw [← sampleWorld] at published
  refine published.2.1 1 sampleRecord false ?_
  rw [returned]
  rfl

def latinDirectory : StateDirectory := ⟨ascii "/var/lib/wg-mix-" ++ [0xe9], 1, 2, by decide +kernel⟩

/-- In a directory whose name is not UTF-8 the published record is one that no call accepts. -/
theorem latin_path_publishes_unreadable :
    let files := (Runs.run (step (sampleJson latinDirectory)) start
      (.spawn () :: List.replicate 16 (sampleTurn 0))).shared
    files.final = some 0 ∧ decodeOwnerRecord (sampleJson latinDirectory) (files.contents 0) = none := by
  decide +kernel

end Sample

end WgMix.Guard.Publication
