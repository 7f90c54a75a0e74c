import Mathlib.Logic.Function.Basic
import WgMix.Foundation.Runs

/-! Batched updates and deletions of a kernel map: chunks of one batch call each, a fallback to
single calls when the kernel has no batch calls, and the rollback of what may have been done. -/
namespace WgMix.Dataplane.MapBatch
variable {K V : Type} [DecidableEq K]

/-- The errors that the code tells apart. -/
inductive OpError where
  | notSupported
  | keyNotExist
  | failed
  deriving DecidableEq, Repr

structure Entry (K V : Type) where
  key : K
  value : V

inductive Operation where
  | update
  | delete
  deriving DecidableEq, Repr

namespace Operation

/-- The operation that a rollback uses. -/
def inverse : Operation → Operation
  | .update => .delete
  | .delete => .update

/-- What the operation leaves under the key of an entry. -/
def outcome (entry : Entry K V) : Operation → Option V
  | .update => some entry.value
  | .delete => none

def apply (operation : Operation) (map : K → Option V) (entry : Entry K V) : K → Option V :=
  Function.update map entry.key (operation.outcome entry)

/-- A key that is already gone counts as deleted. -/
def settled (operation : Operation) (error : Option OpError) : Bool :=
  error = none ∨ operation = .delete ∧ error = some .keyNotExist

end Operation

/-- How the kernel answers one call: the count it reports, the error, and which entries took
effect where the answer does not say. -/
structure Answer where
  completed : Int := 0
  error : Option OpError := none
  takes : Nat → Bool := fun _ => false

structure Call (K : Type) where
  operation : Operation
  keys : List K
  batch : Bool
  rollback : Bool
  completed : Int := 0
  error : Option OpError

def Call.Succeeded (call : Call K) : Prop := call.operation.settled call.error = true

/-- The kernel map and the calls made so far, the first one first. -/
structure World (K V : Type) where
  map : K → Option V
  calls : List (Call K) := []

def validMapBatchCompletion (completed : Int) (total : Nat) : Bool := 0 ≤ completed ∧ completed ≤ total

/-- The entries of a chunk that a batch call applied: the reported prefix, or any of them when
the report makes no sense. -/
def Answer.applied (answer : Answer) (chunk : List (Entry K V)) : List (Entry K V) :=
  if validMapBatchCompletion answer.completed chunk.length then chunk.take answer.completed.toNat
  else (chunk.zipIdx.filter fun entry => answer.takes entry.2).map (·.1)

section
variable (answers : Nat → Answer)

def World.answer (world : World K V) : Answer := answers world.calls.length

def World.batch (operation : Operation) (world : World K V) (chunk : List (Entry K V)) : World K V where
  map := ((world.answer answers).applied chunk).foldl operation.apply world.map
  calls := world.calls ++ [{
    operation
    keys := chunk.map (·.key)
    batch := true
    rollback := false
    completed := (world.answer answers).completed
    error := (world.answer answers).error }]

/-- A single call; a failing one may have taken effect. -/
def World.single (operation : Operation) (rollback : Bool) (world : World K V) (entry : Entry K V) : World K V where
  map := if operation.settled (world.answer answers).error ∨ (world.answer answers).takes 0 then
      operation.apply world.map entry
    else world.map
  calls := world.calls ++ [{
    operation
    keys := [entry.key]
    batch := false
    rollback
    error := (world.answer answers).error }]

inductive Failure where
  | chunkSize (size : Int)
  | chunk (index start stop : Nat) (completed : Int) (cause : Option OpError)
  | entry (index : Nat) (cause : Option OpError)
  deriving DecidableEq, Repr

/-- The failed operation joined with the failures of its rollback. -/
structure MapBatchError where
  failure : Failure
  rollback : List (Nat × Option OpError) := []
  deriving DecidableEq, Repr

/-- Undo the given entries in their order, whatever fails. -/
def undo (operation : Operation) : List (Entry K V × Nat) → World K V → World K V × List (Nat × Option OpError)
  | [], world => (world, [])
  | (entry, index) :: rest, world =>
    let error := (world.answer answers).error
    let (world, errors) := undo operation rest (world.single answers operation.inverse true entry)
    (world, if operation.inverse.settled error then errors else (index, error) :: errors)

/-- `rollbackMapUpdates` and `rollbackMapDeletes`, from the last entry to the first. -/
def rollback (operation : Operation) (entries : List (Entry K V)) (world : World K V) :
    World K V × List (Nat × Option OpError) :=
  undo answers operation entries.zipIdx.reverse world

def fail (operation : Operation) (failure : Failure) (attempted : List (Entry K V)) (world : World K V) :
    World K V × Option MapBatchError :=
  let (world, errors) := rollback answers operation attempted world
  (world, some ⟨failure, errors⟩)

/-- `updateMapEntriesIndividually` and `deleteMapEntriesIndividually`, from an index on. -/
def individually (operation : Operation) (entries : List (Entry K V)) :
    (index : Nat) → List (Entry K V) → World K V → World K V × Option MapBatchError
  | _, [], world => (world, none)
  | index, entry :: rest, world =>
    let error := (world.answer answers).error
    let world := world.single answers operation false entry
    if operation.settled error then individually operation entries (index + 1) rest world
    else fail answers operation (.entry index error) (entries.take (index + 1)) world

/-- The loop over the chunks, one fuel unit a chunk. -/
def chunks (operation : Operation) (entries : List (Entry K V)) (chunkSize : Nat) :
    (fuel start chunkIndex : Nat) → World K V → World K V × Option MapBatchError
  | 0, _, _, world => (world, none)
  | fuel + 1, start, chunkIndex, world =>
    if start < entries.length then
      let stop := min (start + chunkSize) entries.length
      let chunk := (entries.take stop).drop start
      let completed := (world.answer answers).completed
      let error := (world.answer answers).error
      let world := world.batch answers operation chunk
      if error = none ∧ completed = chunk.length then
        chunks operation entries chunkSize fuel (start + chunkSize) (chunkIndex + 1) world
      else
        let failure := Failure.chunk chunkIndex start stop completed error
        if validMapBatchCompletion completed chunk.length = false then
          fail answers operation failure (entries.take stop) world
        else if start = 0 ∧ completed = 0 ∧ error = some .notSupported then
          individually answers operation entries 0 entries world
        else fail answers operation failure (entries.take (start + completed.toNat)) world
    else (world, none)

def mapBatchChunked (operation : Operation) (entries : List (Entry K V)) (chunkSize : Int) (world : World K V) :
    World K V × Option MapBatchError :=
  if chunkSize ≤ 0 then (world, some ⟨.chunkSize chunkSize, []⟩)
  else chunks answers operation entries chunkSize.toNat entries.length 0 0 world

def updateMapBatchChunked (entries : List (Entry K V)) (chunkSize : Int) (world : World K V) :
    World K V × Option MapBatchError :=
  mapBatchChunked answers .update entries chunkSize world

def deleteMapBatchChunked (entries : List (Entry K V)) (chunkSize : Int) (world : World K V) :
    World K V × Option MapBatchError :=
  mapBatchChunked answers .delete entries chunkSize world

end
end WgMix.Dataplane.MapBatch
