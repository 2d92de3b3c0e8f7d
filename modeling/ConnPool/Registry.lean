import ConnPool.Fleet
import ConnPool.Text.Quoted

/-!
# Registries

A registry gives every part of a program the same pool for the same data source: it
keeps the pools it has built by the name of their source, the **dsn**. A pool is built
the first time its dsn is asked for, and again only if the pool registered for it has
been closed in the meantime. What a factory for a dsn looks like is up to the caller,
who hands in a *maker* of factories; it is asked exactly when a pool is to be built.

A registry is torn down pool by pool, by `ConnPool.Registry.remove` for one dsn or by
`ConnPool.Registry.closeAll` for all of them.
-/

namespace ConnPool

/-- The pools of a fleet that are known by a dsn. -/
structure Registry where
  /-- The pool registered for each dsn. -/
  pools : Table String PoolId := ∅

/-- The answer to a request for the pool of a dsn. -/
structure Provision where
  /-- The pool, or why it could not be built. -/
  result : Except (Refusal Fault) PoolId
  /-- The dsn the maker of factories was asked for, if it was asked. -/
  asked : Option String

namespace Registry

/-- The pool registered for a dsn, closed or not. -/
def get? (r : Registry) (dsn : String) : Option PoolId := r.pools.get? dsn

/-- The pool registered for a dsn, if it is open. -/
def open? (r : Registry) (f : Fleet) (dsn : String) : Option PoolId :=
  (r.get? dsn).filter fun i => !f.isClosed i

/-- **The open pool of a dsn**, built and registered if there is none. The maker names
the backend to open its connections at. If the settings are refused, the registry stays
as it is. -/
def provide (dsn : String) (config : Config) (maker : String → Nat) (r : Registry)
    (f : Fleet) : Provision × Registry × Fleet :=
  match r.open? f dsn with
  | some i => (⟨.ok i, none⟩, r, f)
  | none =>
    match f.build .manyThreads config (maker dsn) .wall with
    | (.error e, f) => (⟨.error e, some dsn⟩, r, f)
    | (.ok i, f) => (⟨.ok i, some dsn⟩, { r with pools := r.pools.insert dsn i }, f)

/-- Closes the pool of a dsn and forgets it. -/
def remove (dsn : String) (r : Registry) (f : Fleet) :
    Option (ClosingReport Fault) × Registry × Fleet :=
  match r.get? dsn with
  | none => (none, r, f)
  | some i =>
    match f.closeAll i with
    | (report, f) => (some report, { r with pools := r.pools.erase dsn }, f)

/-- Closes the pools of a list of registrations, one after the other. -/
def closeEach : List (String × PoolId) → Fleet → List (String × ClosingReport Fault) × Fleet
  | [], f => ([], f)
  | (dsn, i) :: rest, f =>
    match f.closeAll i with
    | (report, f) =>
      match closeEach rest f with
      | (reports, f) => ((dsn, report) :: reports, f)

/-- The registrations, by ascending dsn. -/
def registrations (r : Registry) : List (String × PoolId) :=
  r.pools.entries.mergeSort fun e e' => e.1 ≤ e'.1

/-- **Closes every registered pool** and empties the registry. -/
def closeAll (r : Registry) (f : Fleet) :
    List (String × ClosingReport Fault) × Registry × Fleet :=
  match closeEach r.registrations f with
  | (reports, f) => (reports, {}, f)

/-- The dsns with a registered pool, in ascending order. -/
def dsns (r : Registry) : List String := r.registrations.map Prod.fst

/-- A registry as a record. -/
def layout (r : Registry) : Layout :=
  .record "PoolRegistry" [("dsns", .items (r.dsns.map fun s => .atom (Text.quote s)))] false

end Registry

end ConnPool
