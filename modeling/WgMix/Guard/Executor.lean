import WgMix.Control.State
import WgMix.Foundation.Table

/-! The temporary nft startup guard: its plan, and the executor that applies, removes
and observes the one table this installation owns. nft commits a batch whole or not
at all, and a command may report failure although its batch was committed. -/
namespace WgMix.Guard
open Control

/-- What an executor can prove after an operation; `unchanged` when it issued no
command. -/
inductive Observation where
  | unchanged
  | active
  | absent
  | unknown
  deriving DecidableEq, Repr

structure Outcome where
  observation : Observation
  mutated : Bool := false
  warning : Bool := false
  deriving DecidableEq

inductive Rule where
  | egress (mark : UInt32)
  | ingressUdp (port : UInt16)
  | ingressTcp (port : UInt16)
  deriving DecidableEq, Repr

def hex8 (word : UInt32) : String :=
  let digits := Nat.toDigits 16 word.toNat
  String.ofList (List.replicate (8 - digits.length) '0' ++ digits)

def Rule.text : Rule → String
  | .egress mark => "add rule inet wg_mix_ebpf_guard output meta l4proto udp meta mark 0x" ++ hex8 mark ++
      " counter drop comment \"wg-mix-ebpf startup egress guard\""
  | .ingressUdp port => "add rule inet wg_mix_ebpf_guard input udp dport " ++ toString port.toNat ++
      " counter drop comment \"wg-mix-ebpf startup ingress guard\""
  | .ingressTcp port => "add rule inet wg_mix_ebpf_guard input tcp dport " ++ toString port.toNat ++
      " counter drop comment \"wg-mix-ebpf faketcp startup ingress guard\""

abbrev NftPlan := List Rule

def uniqueFwmarks (wireGuards : List WireGuardState) (additional : List UInt32) : List UInt32 :=
  let marks := wireGuards.flatMap fun wg => [wg.configFwMark, wg.runtimeFirewallMark]
  ((marks ++ additional).filter (· ≠ 0)).dedup.mergeSort (· ≤ ·)

def ingressRules (wg : WireGuardState) : List Rule :=
  if wg.configListenPort = 0 then []
  else
    .ingressUdp wg.configListenPort ::
      if wg.transportMode = .faketcp then [.ingressTcp wg.configListenPort] else []

def buildNftPlan (state : State) (additional : List UInt32) : NftPlan :=
  let egress := (uniqueFwmarks state.wireGuards additional).map .egress
  (egress ++ state.wireGuards.flatMap ingressRules).mergeSort (·.text ≤ ·.text)

/-- An inet table name, by the project's prefix: the bare prefix is the legacy table,
an owned one carries a suffix. -/
inductive TableName where
  | project (suffix : Option String)
  | foreign (name : String)
  deriving DecidableEq

def legacyTable : TableName := .project none

def isProjectTableName : TableName → Bool
  | .project _ => true
  | .foreign _ => false

/-- The durable installation identity, from which table and marker are derived. -/
structure OwnerRecord where
  installationId : List Char
  deriving DecidableEq

def OwnerRecord.table (owner : OwnerRecord) : TableName :=
  .project (some (String.ofList (owner.installationId.take 32)))

def OwnerRecord.marker (owner : OwnerRecord) : List Char :=
  "wg-mix-ebpf-guard-v2:".toList ++ owner.installationId

structure NftTable where
  handle : Nat
  comment : List Char
  rules : NftPlan

/-- The inet tables of the kernel and the files of the guard's state directory. -/
structure Host where
  tables : Table TableName NftTable := ∅
  nextHandle : Nat := 1
  owner : Option OwnerRecord := none
  pending : Bool := false

inductive ExecutorError where
  | inspectLegacy
  | legacyTable
  | loadOwner
  | inventory
  | prestate
  | createOwner
  | inspect
  | notOwned
  | command
  | observe
  | tableAbsent
  | handleRetained
  | tableRemains
  deriving DecidableEq

/-- `nft list table` and the netlink inventory that settles a failed one. -/
structure Inspection where
  command : Bool := true
  inventory : Bool := true

inductive CommandAnswer where
  | done
  | refused
  | lost

/-- How the creation of an owner record goes; a failed one may have left the record
or its pending file. -/
inductive Publication where
  | fresh (installationId : List Char)
  | failed (published : Option (List Char)) (pending : Bool)

/-- What one executor call meets; `true` is success. -/
structure Faults where
  inspectLegacy : Inspection := {}
  loadOwner : Bool := true
  inventory : Bool := true
  ownerless : Bool := true
  publication : Publication := .failed none false
  inspect : Inspection := {}
  command : CommandAnswer := .done
  observeInspect : Inspection := {}
  observeInventory : Bool := true

structure Executed where
  host : Host
  outcome : Outcome
  err : Option ExecutorError

/-- A batch: delete by handle, then create. -/
structure Script where
  deleteHandle : Option Nat := none
  create : Option (OwnerRecord × NftPlan) := none

namespace Host
variable (host : Host)

def projectTables : List TableName := host.tables.keys.filter isProjectTableName

def inspectWithInventory (table : TableName) (allowOthers : Bool) (meets : Inspection) :
    Except ExecutorError (Option NftTable) :=
  match host.tables.lookup table with
  | some found => if meets.command then .ok (some found) else .error .inspect
  | none =>
    -- nft fails on a table that does not exist; the inventory tells the two apart.
    if meets.inventory = false then .error .inspect
    else if allowOthers = false ∧ host.projectTables ≠ [] then .error .inspect
    else .ok none

def deleteHandle (handle : Nat) : Option Host :=
  match host.tables.entries.find? fun entry => entry.2.handle = handle with
  | none => none
  | some entry => some { host with tables := host.tables.erase entry.1 }

def createTable (owner : OwnerRecord) (plan : NftPlan) : Option Host :=
  if owner.table ∈ host.tables then none
  else some { host with
    tables := host.tables.insert owner.table ⟨host.nextHandle, owner.marker, plan⟩
    nextHandle := host.nextHandle + 1 }

def commitDelete (script : Script) : Option Host :=
  match script.deleteHandle with
  | none => some host
  | some handle => host.deleteHandle handle

def commitCreate (script : Script) : Option Host :=
  match script.create with
  | none => some host
  | some (owner, plan) => host.createTable owner plan

def commit (script : Script) : Option Host :=
  (host.commitDelete script).bind fun deleted => deleted.commitCreate script

/-- The host after a command, and whether the command succeeded. -/
def runScript (script : Script) (answer : CommandAnswer) : Host × Bool :=
  match answer, host.commit script with
  | .refused, _ | _, none => (host, false)
  | .lost, some committed => (committed, false)
  | .done, some committed => (committed, true)

def requireOwnedTable (owner : OwnerRecord) (table : NftTable) : Except ExecutorError Unit :=
  if table.handle = 0 ∨ table.comment ≠ owner.marker then .error .notOwned else .ok ()

def observeOwnedState (owner : OwnerRecord) (faults : Faults) :
    Outcome × Option NftTable × Option ExecutorError :=
  match host.inspectWithInventory owner.table false faults.observeInspect with
  | .error _ => (⟨.unknown, false, false⟩, none, some .observe)
  | .ok found =>
    if faults.observeInventory = false then (⟨.unknown, false, false⟩, none, some .observe)
    else
      match found with
      | some table =>
        match requireOwnedTable owner table with
        | .error _ => (⟨.unknown, false, false⟩, some table, some .observe)
        | .ok () =>
          if host.projectTables = [owner.table] then (⟨.active, false, false⟩, some table, none)
          else (⟨.unknown, false, false⟩, some table, some .observe)
      | none =>
        if host.projectTables = [] then (⟨.absent, false, false⟩, none, none)
        else (⟨.unknown, false, false⟩, none, some .observe)

def unchanged (cause : ExecutorError) : Executed := ⟨host, ⟨.unchanged, false, false⟩, some cause⟩

/-- Without an owner record no project table may exist, with one only its own. -/
def requireProjectTablePrestate (owner : Option OwnerRecord) (inventory : Bool) :
    Except ExecutorError Unit :=
  if inventory = false then .error .inventory
  else
    match owner with
    | none => if host.projectTables = [] then .ok () else .error .prestate
    | some owner =>
      if host.projectTables = [] ∨ host.projectTables = [owner.table] then .ok () else .error .prestate

/-- The checks that `Apply` and `Cleanup` share: no legacy table, a readable owner
record and an unambiguous inventory. -/
def preconditions (faults : Faults) : Except ExecutorError Unit :=
  match host.inspectWithInventory legacyTable true faults.inspectLegacy with
  | .error _ => .error .inspectLegacy
  | .ok (some _) => .error .legacyTable
  | .ok none =>
    if faults.loadOwner = false then .error .loadOwner
    else host.requireProjectTablePrestate host.owner faults.inventory

def verifyAppliedOwner (owner : OwnerRecord) (previousHandle : Nat) (faults : Faults) : Executed :=
  let observed := host.observeOwnedState owner faults
  let outcome := { observed.1 with mutated := true }
  match observed.2.2, observed.2.1 with
  | some _, _ => ⟨host, outcome, some .observe⟩
  | none, none => ⟨host, outcome, some .tableAbsent⟩
  | none, some table =>
    if previousHandle ≠ 0 ∧ table.handle = previousHandle then ⟨host, outcome, some .handleRetained⟩
    else ⟨host, outcome, none⟩

/-- One mutation by `Apply`, then the observation of what it left. -/
def mutateAndVerify (script : Script) (owner : OwnerRecord) (previousHandle : Nat) (faults : Faults) :
    Executed :=
  match host.runScript script faults.command with
  | (left, true) => left.verifyAppliedOwner owner previousHandle faults
  | (left, false) =>
    ⟨left, { (left.observeOwnedState owner faults).1 with mutated := true }, some .command⟩

def apply (plan : NftPlan) (faults : Faults) : Executed :=
  match host.preconditions faults with
  | .error cause => host.unchanged cause
  | .ok () =>
    match host.owner with
    | none =>
      match faults.publication with
      | .failed published pending =>
        unchanged { host with owner := published.map .mk, pending } .createOwner
      | .fresh installationId =>
        let owner : OwnerRecord := ⟨installationId⟩
        let published := { host with owner := some owner, pending := false }
        published.mutateAndVerify { create := some (owner, plan) } owner 0 faults
    | some owner =>
      match host.inspectWithInventory owner.table false faults.inspect with
      | .error _ => host.unchanged .inspect
      | .ok none => host.mutateAndVerify { create := some (owner, plan) } owner 0 faults
      | .ok (some table) =>
        match requireOwnedTable owner table with
        | .error cause => host.unchanged cause
        | .ok () =>
          host.mutateAndVerify ⟨some table.handle, some (owner, plan)⟩ owner table.handle faults

/-- The end of `Cleanup` with an owner record, once the exact table was deleted. -/
def verifyCleanup (owner : OwnerRecord) (deleted : Bool) (faults : Faults) : Executed :=
  let observed := host.observeOwnedState owner faults
  let outcome : Outcome := { observed.1 with mutated := true }
  if deleted = false then
    -- A failed command whose postcondition holds all the same is only a warning.
    if observed.2.2 = none ∧ outcome.observation = .absent then ⟨host, { outcome with warning := true }, none⟩
    else ⟨host, outcome, some .command⟩
  else if observed.2.2 ≠ none then ⟨host, outcome, some .observe⟩
  else if outcome.observation ≠ .absent then ⟨host, outcome, some .tableRemains⟩
  else ⟨host, outcome, none⟩

def cleanup (faults : Faults) : Executed :=
  match host.preconditions faults with
  | .error cause => host.unchanged cause
  | .ok () =>
    match host.owner with
    | none =>
      if faults.ownerless = false ∨ host.projectTables ≠ [] then
        ⟨host, ⟨.unknown, false, false⟩, some .inventory⟩
      else ⟨host, ⟨.absent, false, false⟩, none⟩
    | some owner =>
      match host.inspectWithInventory owner.table false faults.inspect with
      | .error _ => host.unchanged .inspect
      | .ok none =>
        let observed := host.observeOwnedState owner faults
        if observed.2.2 ≠ none then ⟨host, observed.1, some .observe⟩
        else if observed.1.observation ≠ .absent then ⟨host, observed.1, some .tableRemains⟩
        else ⟨host, observed.1, none⟩
      | .ok (some table) =>
        match requireOwnedTable owner table with
        | .error cause => host.unchanged cause
        | .ok () =>
          let ran := host.runScript { deleteHandle := some table.handle } faults.command
          ran.1.verifyCleanup owner ran.2 faults

/-- Read only: owner record, exact table and inventory cross-checked. -/
def observe (faults : Faults) : Outcome × Option ExecutorError :=
  let observed : Outcome × Option ExecutorError :=
    if faults.loadOwner = false then (⟨.unknown, false, false⟩, some .loadOwner)
    else
      match host.owner with
      | some owner =>
        let seen := host.observeOwnedState owner faults
        (seen.1, seen.2.2)
      | none =>
        if faults.inventory = false ∨ host.projectTables ≠ [] then
          (⟨.unknown, false, false⟩, some .inventory)
        else (⟨.absent, false, false⟩, none)
  match host.inspectWithInventory legacyTable true faults.inspectLegacy with
  | .error _ => (⟨.unknown, false, false⟩, some .inspectLegacy)
  | .ok (some _) => (⟨.unknown, false, false⟩, some .legacyTable)
  | .ok none => observed

/-- The check in front of a reload without nft: a readable owner record without a
pending one, then an inventory that shows no project table. -/
def preflightNoNft (ownerState inventory : Bool) : Except ExecutorError Unit :=
  if ownerState = false ∨ host.pending then .error .loadOwner
  else if inventory = false then .error .inventory
  else if host.projectTables ≠ [] then .error .prestate
  else .ok ()

end Host
end WgMix.Guard
