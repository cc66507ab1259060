import PageCache.Listing.Format
import PageCache.Listing.Object
import PageCache.Listing.Table
import PageCache.Listing.Terse
import PageCache.Path
/-!
Listings of records in any format.
-/

namespace PageCache

def Record.withBasename (r : Record) : Record := { r with name := Path.basename r.name }

namespace Listing

def integers (f : Format) (r : Record) : List Int :=
  match f with
  | .table | .terse => [r.size, r.pages, r.cached]
  | .json => [r.size, r.pages, r.cached, r.uncached]

def chars (f : Format) (rs : List Record) (header : Bool) : List Char :=
  match f with
  | .table => Table.text rs header
  | .terse => Terse.text rs header
  | .json => Object.text rs

def render (f : Format) (rs : List Record) (header : Bool) : Except Fault String :=
  if ∀ r ∈ rs, ∀ n ∈ integers f r, Numeral.Writable n then .ok (String.ofList (chars f rs header))
  else .error .numeralTooLong

theorem render_eq_ok_iff {f : Format} {rs : List Record} {header : Bool} {rendered : String} :
    render f rs header = .ok rendered ↔
      (∀ r ∈ rs, ∀ n ∈ integers f r, Numeral.Writable n) ∧ rendered.toList = chars f rs header := by
  rw [render]
  split
  · rename_i h
    rw [Except.ok.injEq, and_iff_right h, eq_comm, String.ext_iff, String.toList_ofList]
  · rename_i h
    simp [h]

end Listing

end PageCache
