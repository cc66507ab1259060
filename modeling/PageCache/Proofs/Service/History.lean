import PageCache.Proofs.Probe.Entries
import PageCache.Proofs.Service.Batch

/-! The log of a service that has answered requests: the trails of its probes, one behind the other.
A request that reads the log gets the trails of one file. -/

namespace PageCache

open Sequencing

/-- A probe that was made: of which file, what it came to, and what it wrote into the log. -/
structure Visit where
  path : String
  outcome : Except Abort Record
  trail : List Log.Entry

namespace Session

/-- Probes that were made one after the other, with nothing in between. -/
inductive Probed : Session → List Visit → Session → Prop
  | nil (s : Session) : Probed s [] s
  | cons {s t u : Session} {v : Visit} {visits : List Visit}
    (hrun : (probe .allowAll v.path).run.run s = (v.outcome, t))
    (hlog : t.prober.log = s.prober.log.map (·.adding v.trail))
    (hwrites : s.Writes .allowAll v.path v.outcome v.trail)
    (hrest : Probed t visits u) : Probed s (v :: visits) u

def visit (s : Session) (path : String) : Visit where
  path := path
  outcome := (s.answers .allowAll path).outcome
  trail := (s.answers .allowAll path).entries

variable {s t u : Session} {visits later : List Visit} {log : Log}

lemma Probed.append (h : Probed s visits t) (hlater : Probed t later u) :
    Probed s (visits ++ later) u := by
  induction h with
  | nil => exact hlater
  | cons hrun hlog hwrites _ ih => exact .cons hrun hlog hwrites (ih hlater)

end Session

namespace Service

open Session

/-- The files that a request has probed, if nothing keeps it from that. -/
inductive Request.Names (r : Request) : List String → Prop
  | file {path : String} (hview : r.destination = .view .status)
    (hpath : r.parameter? "path" = some path) (hne : path ≠ "") : r.Names [path]
  | files {paths : List String} (hview : r.destination = .view .statusMany)
    (hlists : r.Lists paths) : r.Names paths

variable {s t : Session} {r : Request} {paths : List String}

lemma Request.Lists.eq {others : List String} (h : r.Lists paths) (hothers : r.Lists others) :
    paths = others := by
  obtain ⟨j, hjson, hfield, -⟩ := h
  obtain ⟨j', hjson', hfield', -⟩ := hothers
  obtain rfl := Except.ok.inj (hjson.symm.trans hjson')
  have htexts := Json.array.inj (Option.some.inj (hfield.symm.trans hfield'))
  exact (List.map_inj_right fun _ _ => Json.text.inj).1 htexts

lemma Request.Names.eq {others : List String} (h : r.Names paths) (hothers : r.Names others) :
    paths = others := by
  cases h with
  | file hview hpath _ =>
    cases hothers with
    | file _ hpath' _ => rw [Option.some.inj (hpath.symm.trans hpath')]
    | files hview' _ => cases hview.symm.trans hview'
  | files hview hlists =>
    cases hothers with
    | file hview' _ _ => cases hview.symm.trans hview'
    | files _ hlists' => exact hlists.eq hlists'

def reading (path level : String) : Request :=
  ⟨"GET", ⟨[], "/api/log".toList, []⟩, [("path", path), ("level", level)], "application/json", ""⟩

end Service

end PageCache
