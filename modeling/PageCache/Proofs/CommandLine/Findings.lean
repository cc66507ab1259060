import PageCache.Proofs.CommandLine.Verbosity
import PageCache.Proofs.Listing.Reading
import PageCache.Proofs.MappedFiles
import PageCache.Proofs.Probe.Writable

/-! A run of the command line in which every probe comes to a record or to a failure: which files
are probed, what is printed about those that were skipped, and what about the others. -/

namespace PageCache.CommandLine

open Sequencing

variable {filter : Filter} {paths : List String} {outcomes : List (Except Failure Record)}
  {s t : Session} {format : Listing.Format}

lemma run_probeAll_cons {path : String} {outcome : Except Failure Record}
    (h : (Session.probe filter path).run.run s = (outcome.mapError .failure, t))
    (paths : List String) :
    (probeAll filter (path :: paths)).run s = (((probeAll filter paths).run t).1.add path outcome,
      ((probeAll filter paths).run t).2) := by
  rw [probeAll, StateT.run_bind, h]
  cases outcome <;> rfl

namespace Findings

variable (f : Findings)

end Findings

lemma exists_shown (bname : Bool) (records : List Record) :
    List.Forall₂ (Record.ShownAs bname) records
      (if bname then records.map Record.withBasename else records) := by
  cases bname with
  | true =>
    rw [if_pos rfl, List.forall₂_map_right_iff, List.forall₂_same]
    exact fun r _ => r.shownAs_withBasename
  | false =>
    rw [if_neg Bool.false_ne_true, List.forall₂_same]
    exact fun r _ => ⟨rfl, rfl⟩

lemma integers_of_shown {bname : Bool} {records shown : List Record}
    (hshown : List.Forall₂ (Record.ShownAs bname) records shown)
    (h : ∀ record ∈ records, ∀ n ∈ Listing.integers format record, Numeral.Writable n) :
    ∀ record ∈ shown, ∀ n ∈ Listing.integers format record, Numeral.Writable n := by
  induction hshown with
  | nil => exact fun _ h => absurd h List.not_mem_nil
  | cons hfirst _ ih =>
    obtain ⟨hrecord, hrest⟩ := List.forall_mem_cons.1 h
    refine List.forall_mem_cons.2 ⟨?_, ih hrest⟩
    rw [hfirst.1]
    cases format <;> exact hrecord

lemma listing_eq_map_render {records : List Record} (o : Options) (h : ¬(records = [] ∧ format ≠ .json)) :
    listing o format records = (Listing.render format
      (if o.bname then records.map Record.withBasename else records) !o.nohdr).map (· ++ "\n") := by
  have hshown : ¬((if o.bname then records.map Record.withBasename else records) = [] ∧
      format ≠ .json) := by
    rw [← List.length_eq_zero_iff, ← (exists_shown o.bname records).length_eq, List.length_eq_zero_iff]
    exact h
  rw [listing]
  change (if _ ∧ _ then _ else Listing.render format _ _ >>= _) = _
  rw [if_neg hshown]
  cases Listing.render format _ _ <;> rfl

variable {o : Options} {settings : Settings} {mapped : List String} {m : Machine}

lemma report_of_listing (o : Options) (log : Option Log) {f : Findings} {stdout : String}
    (hfault : f.fault = none) (h : listing o format f.records = .ok stdout) :
    report o format log f =
      { stdout, stderr := String.join (f.skipLines ++ logLines o.verbosity log)
        ending := .returned (if f.skipLines = [] then statusOk else statusSkipped) } := by
  rw [report, hfault]
  simp only [h, String.join_append]

lemma report_of_returned {log : Option Log} {f : Findings} {status : Nat}
    (h : (report o format log f).ending = .returned status) :
    f.fault = none ∧ status = (if f.skipLines = [] then statusOk else statusSkipped) ∧
      ∃ rest, (report o format log f).stderr = String.join f.skipLines ++ rest := by
  rw [report] at h ⊢
  cases hfault : f.fault with
  | some fault =>
    rw [hfault] at h
    cases h
  | none =>
    rw [hfault] at h
    cases hlisting : listing o format f.records with
    | error fault =>
      simp only [hlisting] at h
      cases h
    | ok stdout =>
      simp only [hlisting] at h ⊢
      exact ⟨trivial, (Ending.returned.inj h).symm, _, rfl⟩

end PageCache.CommandLine
