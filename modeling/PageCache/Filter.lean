import PageCache.Machine.Calls
/-!
Filters turn files away before they are probed. A policy is what a caller asks for; building it checks its
limits and gives the filter that runs on a descriptor.
-/

namespace PageCache

inductive Filter where
  | allowAll
  | regularOnly
  | maxSize (limit : Nat)
  | chain (filters : List Filter)
  /-- A hook that accepts and can be seen to have run. -/
  | mark (label : String)
  | reject (fault : Fault)

inductive Policy where
  | allowAll
  | regularOnly
  | maxSize (limit : Int)
  | chain (policies : List Policy)
  | options (regularOnly : Bool) (limit : Option Int)
  | mark (label : String)
  | reject (fault : Fault)

namespace Filter

def maxSize? (limit : Int) : Except Fault Filter :=
  if limit < 0 then do
    Numeral.checkWritable limit
    throw (.negativeLimit limit)
  else return .maxSize limit.toNat

def ofOptions (regularOnly : Bool) (limit : Option Int) : Except Fault Filter :=
  match limit with
  | none => return if regularOnly then .chain [.regularOnly] else .allowAll
  | some limit => do
    let bounded ← maxSize? limit
    return .chain (if regularOnly then [.regularOnly, bounded] else [bounded])

def checkSize (limit : Nat) (size : Int) : Except Fault Unit :=
  if (limit : Int) < size then do
    Numeral.checkWritable size
    Numeral.checkWritable limit
    throw (.refusal (.oversized size limit))
  else return

def checkKind : FileKind → Except Fault Unit
  | .regular | .block => return
  | _ => throw (.refusal .irregular)

mutual

def run (number : Nat) : Filter → ExceptT Fault (StateM Machine) Unit
  | .allowAll => return
  | .regularOnly => do
    let metadata ← Machine.faulting (Machine.fstat number)
    liftExcept (do checkKind (← metadata.kind))
  | .maxSize limit => do
    let metadata ← Machine.faulting (Machine.fstat number)
    liftExcept (checkSize limit metadata.size)
  | .chain filters => runAll number filters
  | .mark label => Machine.note (.hook number label)
  | .reject fault => throw fault

/-- One after the other; the first rejection ends the run. -/
def runAll (number : Nat) : List Filter → ExceptT Fault (StateM Machine) Unit
  | [] => return
  | f :: rest => do
    run number f
    runAll number rest

end

end Filter

mutual

/-- Builds from left to right; the first bad limit ends it. -/
def Policy.build : Policy → Except Fault Filter
  | .allowAll => return .allowAll
  | .regularOnly => return .regularOnly
  | .maxSize limit => Filter.maxSize? limit
  | .chain policies => return .chain (← Policy.buildAll policies)
  | .options regular limit => Filter.ofOptions regular limit
  | .mark label => return .mark label
  | .reject fault => return .reject fault

def Policy.buildAll : List Policy → Except Fault (List Filter)
  | [] => return []
  | p :: rest => return (← p.build) :: (← Policy.buildAll rest)

end

end PageCache
