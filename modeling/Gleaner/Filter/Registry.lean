import Gleaner.Filter.Builtin

/-! # Registries of filters

A registry maps names to filters, in the order in which the names were first registered. Callers
hand in candidates, which may be no filters at all; a registry takes none of those. A chain looks a
name up in its own registry first and in a fallback second. -/

namespace Gleaner

/-- What a caller offers as a filter. -/
inductive Candidate where
  | filter (f : Filter)
  | nothing
  /-- A value that is something, but no filter. -/
  | other (v : Value) (isSomething : v.isNone = false)

namespace Candidate

/-- What a caller offers who hands in a value. -/
def ofValue (v : Value) : Candidate := if h : v.isNone = false then .other v h else .nothing

/-- Whether a candidate can be called. -/
def isCallable : Candidate → Bool
  | filter _ => true
  | _ => false

/-- Whether a candidate is nothing. -/
def isNothing : Candidate → Bool
  | nothing => true
  | _ => false

/-- The name of the filter, if the candidate is one. -/
def name? : Candidate → Option String
  | filter f => some f.name
  | _ => none

/-- Calls a candidate. -/
def call (c : Candidate) (v : Value) (args : List String) : Traced Log.Entry Value :=
  match c with
  | filter f => f.run v args
  | nothing => .fail (.notAFunction "NoneType")
  | other w _ => .fail (.notAFunction w.kindName)

end Candidate

/-- Named candidates in order. -/
abbrev FilterTable := List (String × Candidate)

namespace FilterTable

/-- The candidate of a name. -/
def get (t : FilterTable) (name : String) : Candidate := (t.lookup name).getD .nothing

/-- Whether a name occurs. -/
def has (t : FilterTable) (name : String) : Bool := t.any (·.1 = name)

/-- The table with a name set. A name that occurs keeps its place. -/
def insert (t : FilterTable) (name : String) (c : Candidate) : FilterTable :=
  match t with
  | [] => [(name, c)]
  | (n, d) :: rest => if n = name then (n, c) :: rest else (n, d) :: insert rest name c

/-- The table with every name once, at its first place and with its last candidate. -/
def distinct (t : FilterTable) : FilterTable := t.foldl (fun t (n, c) => t.insert n c) []

/-- The first name whose candidate cannot be called. -/
def firstBad? (t : FilterTable) : Option String := (t.find? (!·.2.isCallable)).map (·.1)

end FilterTable

/-- A registry: a label for messages and the registered filters. -/
structure Registry where
  label : String
  table : FilterTable := []

namespace Registry

/-- The filter of a name. -/
def get (r : Registry) (name : String) : Candidate := r.table.get name

/-- Whether a name is registered. -/
def has (r : Registry) (name : String) : Bool := r.table.has name

/-- The registered names, in order. -/
def names (r : Registry) : List String := r.table.map (·.1)

/-- The registered names, sorted. -/
def sortedNames (r : Registry) : List String := r.names.mergeSort fun a b => decide (a ≤ b)

/-- The number of registered names. -/
def size (r : Registry) : Nat := r.table.length

/-- The registry with its whole content replaced. -/
def replace (r : Registry) (table : FilterTable) : Traced Log.Entry Registry :=
  match table.firstBad? with
  | some name => .fail (.notCallable name)
  | none =>
    let t := table.distinct
    ⟨[⟨.debug, s!"Filter registry replaced | registry={r.label} | filters={t.length}", []⟩],
      .ok { r with table := t }⟩

/-- The registry with one more filter. Registering nothing leaves it alone: the filter is still
to come. -/
def register (r : Registry) (name : String) (c : Candidate) : Except Error Registry :=
  match c with
  | .filter _ => .ok { r with table := r.table.insert name c }
  | .nothing => .ok r
  | .other .. => .error (.notCallable name)

/-- A new registry. An empty table is not reported. -/
def build (label : String) (table : FilterTable) : Traced Log.Entry Registry :=
  if table = [] then pure ⟨label, []⟩ else replace ⟨label, []⟩ table

/-- The registry of the process, with the built-in filters. -/
def shared : Registry := ⟨"global", Filter.builtins.map fun f => (f.name, .filter f)⟩

end Registry

/-- Two registries that are consulted one after the other. -/
structure Chain where
  own : Registry
  fallback : Registry

namespace Chain

/-- The filter of a name: the one of the chain's own registry, or else the fallback's. -/
def resolve (c : Chain) (name : String) : Candidate :=
  match c.own.get name with
  | .nothing => c.fallback.get name
  | found => found

/-- Whether one of the registries has a name. -/
def has (c : Chain) (name : String) : Bool := c.own.has name || c.fallback.has name

end Chain

/-! ## Editing registries

The steps by which the registries of a chain and the registry of the process change. A step that
fails changes none of them. -/

/-- The registries a step can act on. -/
inductive RegistryPlace where
  | own
  | fallback
  | shared
  deriving DecidableEq, Repr

/-- A change of a registry. -/
inductive RegistryEdit where
  | replace (table : FilterTable)
  | register (name : String) (c : Candidate)
  | decorate (name : String) (c : Candidate)

/-- The registries of a chain and of the process. -/
structure Registries where
  own : Registry
  fallback : Registry
  shared : Registry

namespace Registries

/-- The registry at a place. -/
def pick (r : Registries) : RegistryPlace → Registry
  | .own => r.own
  | .fallback => r.fallback
  | .shared => r.shared

/-- The registries with the one at a place exchanged. -/
def put (r : Registries) (x : Registry) : RegistryPlace → Registries
  | .own => { r with own := x }
  | .fallback => { r with fallback := x }
  | .shared => { r with shared := x }

/-- The registry after a change, and what the change answers: a registered filter. -/
def change (x : Registry) : RegistryEdit → Traced Log.Entry (Registry × Candidate)
  | .replace table => do return (← x.replace table, .nothing)
  | .register name c => .ofExcept ((x.register name c).map fun y => (y, c))
  | .decorate name c => .ofExcept ((x.register name c).map fun y => (y, c))

/-- Carries out a change at a place. -/
def edit (r : Registries) (place : RegistryPlace) (e : RegistryEdit) :
    Registries × Traced Log.Entry Candidate :=
  let t := change (r.pick place) e
  match t.result with
  | .ok (x, c) => (r.put x place, ⟨t.events, .ok c⟩)
  | .error err => (r, ⟨t.events, .error err⟩)

end Registries

end Gleaner
