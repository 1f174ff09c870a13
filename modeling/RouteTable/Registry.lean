/-
The registry: it publishes one collection at a time, built from a source of descriptors that may
change between reads. Every successful build has an identity of its own, and a collection that was
published stays what it was for those who hold it.

Reading the source takes time, and other operations may run meanwhile: after the source has handed
out its list, before that is compiled. An operation that reads therefore carries the operations that
run during its read, nested to any depth.

The account of what has been shown (`shown`, `generation?`, `showSnapshot`, `Operation.recall`) is no part of
a registry's own work. It stands for those who keep the snapshots that they were given, and names a
snapshot by when it was first shown; nothing that is built, published or dropped depends on it.
-/
import RouteTable.Batch

namespace RouteTable

/-- The result of one build. -/
structure Snapshot where
  /-- Tells builds apart, also those with equal routes. -/
  identity : Nat
  /-- The place, among the lists that the source has handed out, of the one that was compiled. -/
  read : Nat
  routes : Collection
  deriving Repr

/-- A registry, its source, and what has happened so far. -/
structure Registry where
  /-- Makes programs from patterns; by default, the engine for patterns. -/
  checker : Checker := Pattern.compile
  compiler : Compiler := {}
  policy : BatchPolicy := .abort
  /-- What the source hands out when it is read next. -/
  source : List Descriptor := []
  /-- What the source has handed out so far, one list for each read. -/
  handedOut : List (List Descriptor) := []
  /-- How many builds have succeeded; the next one gets this identity. -/
  builds : Nat := 0
  published : Option Snapshot := none
  /-- The snapshots that answers have shown, in the order in which they were first shown. -/
  shown : List Snapshot := []
  /-- The events so far. -/
  log : List Event := []

namespace Registry

/-! ## Operations and their outcomes -/

/-- An operation on a registry. Those that may read the source carry what runs during the read. -/
inductive Operation
  /-- Ask for the published collection, building one if there is none. -/
  | routes (during : List Operation)
  /-- Build and publish in any case. -/
  | rebuild (during : List Operation)
  /-- Ask for the published collection without building. -/
  | current
  /-- Drop the published collection. -/
  | invalidate
  /-- Change what the source hands out. -/
  | setSource (descriptors : List Descriptor)
  /-- Ask for a snapshot by its place among those that were shown. -/
  | recall (generation : Nat)

/-- What an operation answers: nothing to show, a snapshot and its place among those that were
shown, or an error. -/
inductive Answer
  | nothing
  | snapshot (s : Snapshot) (generation : Nat)
  | failed (error : CompileError)
  deriving Repr

/-- What became of an operation: the number of reads when it ended, its answer, and, if it read the
source, the outcomes of the operations during that read. -/
structure Outcome where
  reads : Nat
  answer : Answer
  during : Option (List Outcome)
  deriving Repr

/-! ## The parts of an operation -/

/-- How often the source has been read. -/
def reads (r : Registry) : Nat := r.handedOut.length

/-- Reads the source. -/
def readSource (r : Registry) : Registry := { r with handedOut := r.handedOut ++ [r.source] }

/-- The place of a snapshot among those that were shown. -/
def generation? (r : Registry) (s : Snapshot) : Option Nat :=
  r.shown.findIdx? (·.identity == s.identity)

/-- Shows a snapshot. -/
def showSnapshot (r : Registry) (s : Snapshot) : Answer × Registry :=
  match r.generation? s with
  | some g => (.snapshot s g, r)
  | none => (.snapshot s r.shown.length, { r with shown := r.shown ++ [s] })

/-- Shows a snapshot if there is one. -/
def showAny (r : Registry) : Option Snapshot → Answer × Registry
  | some s => r.showSnapshot s
  | none => (.nothing, r)

/-- Compiles the list that the source handed out at the given read. -/
def build (r : Registry) (read : Nat) (descriptors : List Descriptor) :
    Except CompileError Snapshot × Registry :=
  let built := r.compiler.compileAllBy r.checker r.policy descriptors
  let r := { r with log := r.log ++ built.events }
  match built.value with
  | .ok routes => (.ok ⟨r.builds, read, routes⟩, { r with builds := r.builds + 1 })
  | .error e => (.error e, r)

/-- Puts a snapshot in the place of what is published. -/
def publish (r : Registry) (s : Snapshot) : Registry :=
  { r with published := some s, log := r.log ++ [.published s.routes.size] }

/-- Drops what is published. -/
def invalidate (r : Registry) : Registry :=
  match r.published with
  | some _ => { r with published := none, log := r.log ++ [.invalidated] }
  | none => r

/-- Ends a build for `routes`: if a collection has been published meanwhile, that one stays and is
the answer. -/
def settle (r : Registry) (read : Nat) (descriptors : List Descriptor) : Answer × Registry :=
  match r.build read descriptors with
  | (.error e, r) => (.failed e, r)
  | (.ok s, r) =>
    match r.published with
    | some p => r.showSnapshot p
    | none => (r.publish s).showSnapshot s

/-- Ends a build for `rebuild`: its collection replaces the published one. -/
def replace (r : Registry) (read : Nat) (descriptors : List Descriptor) : Answer × Registry :=
  match r.build read descriptors with
  | (.error e, r) => (.failed e, r)
  | (.ok s, r) => (r.publish s).showSnapshot s

/-! ## Runs -/

mutual

/-- Carries out an operation. A build compiles the list that its own read handed out, whatever the
operations during that read have changed. -/
def perform (r : Registry) : Operation → Outcome × Registry
  | .routes during =>
    match r.published with
    | some p =>
      let (answer, r) := r.showSnapshot p
      (⟨r.reads, answer, none⟩, r)
    | none =>
      let (outcomes, later) := performAll r.readSource during
      let (answer, later) := later.settle r.reads r.source
      (⟨later.reads, answer, some outcomes⟩, later)
  | .rebuild during =>
    let (outcomes, later) := performAll r.readSource during
    let (answer, later) := later.replace r.reads r.source
    (⟨later.reads, answer, some outcomes⟩, later)
  | .current =>
    let (answer, r) := r.showAny r.published
    (⟨r.reads, answer, none⟩, r)
  | .invalidate => (⟨r.reads, .nothing, none⟩, r.invalidate)
  | .setSource descriptors => (⟨r.reads, .nothing, none⟩, { r with source := descriptors })
  | .recall generation =>
    let (answer, r) := r.showAny r.shown[generation]?
    (⟨r.reads, answer, none⟩, r)

/-- Carries out operations one after the other. -/
def performAll (r : Registry) : List Operation → List Outcome × Registry
  | [] => ([], r)
  | op :: ops =>
    let (outcome, r) := perform r op
    let (outcomes, r) := performAll r ops
    (outcome :: outcomes, r)

end

end Registry
end RouteTable
