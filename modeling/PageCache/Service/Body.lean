import PageCache.Listing.Basic
import PageCache.Log
import PageCache.Probe.Failure
/-!
What the service answers with, and its JSON.
-/

namespace PageCache.Service

inductive Body where
  | missingPath
  | missingPaths
  | badPaths
  | record (r : Record)
  | failure (f : Failure)
  | batch (records : List Record) (failures : List Failure)
  | entries (es : List Log.Entry)

namespace Body

def ofError (message : String) : Json := .object [("error", .text message)]

def ofFailure (f : Failure) : Json :=
  .object [("error", .text f.message), ("kind", .text f.kind.name),
    ("status", f.status.elim .null Listing.Object.ofRecord)]

def ofEntry (e : Log.Entry) : Json :=
  .object [("level", .text e.level.name), ("message", .text e.message), ("source", .text e.source),
    ("path", .text e.path)]

def toJson : Body → Json
  | .missingPath => ofError "Missing 'path' parameter"
  | .missingPaths => ofError "Missing 'paths' list"
  | .badPaths => ofError "'paths' must hold non-empty strings"
  | .record r => Listing.Object.ofRecord r
  | .failure f => ofFailure f
  | .batch records failures =>
    .object [("results", .array (records.map Listing.Object.ofRecord)), ("errors", .array (failures.map ofFailure))]
  | .entries es => .object [("entries", .array (es.map ofEntry))]

def records : Body → List Record
  | .record r => [r]
  | .failure f => f.status.toList
  | .batch records failures => records ++ failures.filterMap (·.status)
  | _ => []

def Writable (b : Body) : Prop :=
  ∀ r ∈ b.records, ∀ n ∈ Listing.integers .json r, Numeral.Writable n

instance (b : Body) : Decidable b.Writable := inferInstanceAs (Decidable (∀ r ∈ b.records, _))

end Body

end PageCache.Service
