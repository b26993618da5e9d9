import QuerySchema.Schema.Build

/-!
What building works on.

The parts of a document are built in contexts. A context knows the operation it is for and the
variables declared in it, and reports to a collector; the context of an operation is made from
another one and reports to the same collector. Layout and scalars are those of the one configuration
that all contexts share. Contexts, collectors and the objects that are filled in after they were
made are kept in a `Store`, each referred to by its place there.

`Building` is work on a store. What it wrote before it failed stays written. Nothing here keeps work
from changing a context or a collector that is not its own; that it does not is a theorem.
-/

namespace QuerySchema.Schema

open GraphQL

/-- A context: its operation, if it is for one, the keys of the variables that have a schema in it,
and the place of its collector. -/
structure Context where
  operation : Option Label
  declared : List String
  collector : Nat
  deriving DecidableEq, Repr

/-- What is found where no context was made. -/
def Context.blank : Context := ⟨none, [], 0⟩

/-- A configuration, with everything that was made under it. -/
structure Store where
  layout : Layout
  scalars : Scalars
  objects : List (Keyed String Json)
  collectors : List (List Diagnostic)
  contexts : List Context

namespace Store

/-- The store of a configuration under which nothing was made yet. -/
def new (layout : Layout) (scalars : Scalars) : Store := ⟨layout, scalars, [], [], []⟩

/-- The context at a place. -/
def contextAt (store : Store) (place : Nat) : Context := (store.contexts[place]?).getD .blank

/-- What the collector at a place has collected. -/
def collectedAt (store : Store) (place : Nat) : List Diagnostic := (store.collectors[place]?).getD []

/-- The members of the object at a place. -/
def membersAt (store : Store) (place : Nat) : Keyed String Json := (store.objects[place]?).getD []

/-- What is seen of a context by those who build in it. -/
def scopeAt (store : Store) (place : Nat) : Scope :=
  ⟨store.layout, store.scalars, (store.contextAt place).operation, (store.contextAt place).declared⟩

/-- A report to a collector. -/
def collect (store : Store) (collector : Nat) (report : Diagnostic) : Store :=
  { store with collectors := store.collectors.modify collector (· ++ [report]) }

/-- One more context. -/
def addContext (store : Store) (context : Context) : Store :=
  { store with contexts := store.contexts ++ [context] }

/-- One more collector, that has collected nothing. -/
def addCollector (store : Store) : Store :=
  { store with collectors := store.collectors ++ [[]] }

/-- One more object. -/
def addObject (store : Store) (members : Keyed String Json) : Store :=
  { store with objects := store.objects ++ [members] }

/-- Further variables declared in a context. -/
def declare (store : Store) (context : Nat) (keys : List String) : Store :=
  { store with contexts := store.contexts.modify context fun found =>
      { found with declared := found.declared ++ keys } }

/-- A member of an object written. -/
def putMember (store : Store) (object : Nat) (key : String) (value : Json) : Store :=
  { store with objects := store.objects.modify object (·.put key value) }

end Store

/-- Work on a store, that may fail. -/
abbrev Building := ExceptT BuildError (StateM Store)

namespace Building

/-- How work ends, and the store it leaves behind. -/
def outcome {α : Type} (work : Building α) (store : Store) : Except BuildError α × Store :=
  work.run.run store

/-- Gives up. -/
def fail {α : Type} (e : BuildError) : Building α := throw e

/-- A step that leaves the store alone. -/
def ofExcept {α : Type} (result : Except BuildError α) : Building α := ExceptT.mk (pure result)

/-- What is read in a place of a tree. -/
def read {α : Type} (role : Role) (place : Readable α) : Building α :=
  ofExcept (place.mapError (.unreadable role))

/-- Reports that a part is left out. -/
def report (context : Nat) (omission : Omission) (path : List Label) : Building Unit :=
  modify fun store => store.collect (store.contextAt context).collector (omission.reportAt path)

/-- The reports that the collector of a context has. -/
def collected (context : Nat) : Building (List Diagnostic) := do
  let store ← get
  return store.collectedAt (store.contextAt context).collector

/-- A new context with a collector of its own, outside of any operation. -/
def newContext : Building Nat := do
  let store ← get
  set (store.addCollector.addContext ⟨none, [], store.collectors.length⟩)
  return store.contexts.length

/-- A new context for an operation, made from another context and with the same collector. -/
def forOperation (outer : Nat) (operation : Label) : Building Nat := do
  let store ← get
  set (store.addContext ⟨some operation, [], (store.contextAt outer).collector⟩)
  return store.contexts.length

/-- Declares further variables in a context. -/
def declare (context : Nat) (keys : List String) : Building Unit := modify (·.declare context keys)

/-- A new object. -/
def newObject (members : Keyed String Json) : Building Nat := do
  let store ← get
  set (store.addObject members)
  return store.objects.length

/-- Writes a member of an object. -/
def putMember (object : Nat) (key : String) (value : Json) : Building Unit :=
  modify (·.putMember object key value)

/-- The members of an object. -/
def members (object : Nat) : Building (Keyed String Json) := do return (← get).membersAt object

end Building

end QuerySchema.Schema
