import PageCache.Listing.Object
import PageCache.Proofs.Instant.Order
import PageCache.Proofs.Instant.Seconds
import PageCache.Proofs.Listing.TerseLines

/-! The times of a record, in a line of fields and in an object. Both are read back, and the seconds
that they tell are the same or one apart; which it is depends on the fraction. The texts in the object
are ordered as the times are. -/

namespace PageCache

namespace Listing

open Text

/-- The times that are listed, each in its column and under its name. -/
inductive Moment where
  | timestamp
  | mtime
  deriving DecidableEq

namespace Moment

def of (r : Record) : Moment → Option Instant
  | .timestamp => r.timestamp
  | .mtime => r.mtime

def column : Moment → Nat
  | .timestamp => 2
  | .mtime => 3

def name : Moment → String
  | .timestamp => "timestamp"
  | .mtime => "mtime"

variable {r : Record} {moment : Moment} {t : Instant}

lemma fields_column (r : Record) (moment : Moment) :
    (Terse.fields r)[moment.column]? = some (Terse.seconds (moment.of r)) := by
  cases moment <;> rfl

lemma field?_name (r : Record) (moment : Moment) :
    (Object.ofRecord r).field? moment.name = some (Object.ofTime (moment.of r)) := by
  cases moment <;> rfl

lemma writable_epochSeconds (t : Instant) : Numeral.Writable t.epochSeconds := by
  have hfew := t.natAbs_div_lt
  have hsecond : t.second = t.micros / 1000000 := rfl
  have hsmall : t.epochSeconds.natAbs < 10 ^ 16 := by
    rw [t.epochSeconds_eq]
    split <;> omega
  have hpow : ∀ k, 16 ≤ k → 10 ^ 16 ≤ Nat.pow 10 k := fun _ => Nat.pow_le_pow_right (by decide)
  unfold Numeral.Writable Numeral.bound
  exact Nat.lt_of_lt_of_le hsmall (hpow _ (by decide))

lemma cell_of_time (ht : moment.of r = some t) :
    (splitLast ',' 6 (Terse.line r))[moment.column]? = some (Numeral.chars t.epochSeconds) := by
  rw [Terse.splitLast_line, fields_column, ht, Terse.seconds, Option.elim_some]

lemma text_of_time (ht : moment.of r = some t) :
    (Object.ofRecord r).field? moment.name = some (.text (String.ofList t.iso)) := by
  rw [field?_name, ht, Object.ofTime, Option.elim_some]

lemma eq_iso_of_text {text : String} (ht : moment.of r = some t)
    (htext : (Object.ofRecord r).field? moment.name = some (.text text)) : text.toList = t.iso := by
  rw [text_of_time ht, Option.some.injEq, Json.text.injEq] at htext
  rw [← htext, String.toList_ofList]

/-- The second in the line is that of the object unless its fraction was lost the other way: before
1970 by cutting it off, and far from there by rounding it. -/
theorem seconds_of_time (r : Record) (moment : Moment) (t : Instant) (ht : moment.of r = some t) :
    ∃ cell text printed second fraction,
      (splitLast ',' 6 (Terse.line r))[moment.column]? = some cell ∧
      Numeral.integer? cell = some printed ∧
      (Object.ofRecord r).field? moment.name = some (.text text) ∧
      Instant.read? text.toList = some (second, fraction) ∧
      printed = second + (if Instant.KeepsSecond second fraction then 0 else 1) ∧
      (-2 ^ 34 ≤ second → second < 2 ^ 34 → (printed = second ↔ fraction = 0 ∨ 0 ≤ second)) := by
  refine ⟨Numeral.chars t.epochSeconds, String.ofList t.iso, t.epochSeconds, t.second, t.fraction,
    cell_of_time ht, Numeral.integer?_chars (writable_epochSeconds t), text_of_time ht, ?_,
    t.epochSeconds_eq, ?_⟩
  · rw [String.toList_ofList, Instant.read?_iso]
  · intro hlow hhigh
    rw [t.epochSeconds_eq, ← t.keepsSecond_iff_of_near hlow hhigh]
    split <;> simp [*]

/-- A leap day, a microsecond after noon. -/
theorem seconds_of_leap_day :
    let t : Instant := ⟨951825600000001, by decide, by decide⟩
    let r : Record := { name := "f", mtime := some t }
    Moment.mtime.of r = some t ∧
      ∃ cell text, (splitLast ',' 6 (Terse.line r))[3]? = some cell ∧
        Numeral.integer? cell = some 951825600 ∧
        (Object.ofRecord r).field? "mtime" = some (.text text) ∧
        text.toList = "2000-02-29T12:00:00.000001+00:00".toList := by
  intro t r
  have htold : Moment.mtime.of r = some t := rfl
  have hiso : t.iso = "2000-02-29T12:00:00.000001+00:00".toList := by decide +kernel
  obtain ⟨cell, text, printed, second, fraction, hcell, hprinted, htext, hread, hsecond, -⟩ :=
    seconds_of_time r .mtime t htold
  obtain rfl : String.ofList t.iso = text :=
    Json.text.inj (Option.some.inj ((text_of_time htold).symm.trans htext))
  rw [String.toList_ofList, Instant.read?_iso] at hread
  obtain ⟨rfl, rfl⟩ := Prod.mk.inj (Option.some.inj hread)
  have htime : t.second + (if Instant.KeepsSecond t.second t.fraction then 0 else 1) = 951825600 := by
    decide +kernel
  rw [hsecond, htime] at hprinted
  exact ⟨htold, cell, _, hcell, hprinted, htext, by rw [String.toList_ofList, hiso]⟩

/-- A microsecond before 1970, in the second before it only in the object. -/
theorem seconds_before_epoch :
    let t : Instant := ⟨-1, by decide, by decide⟩
    let r : Record := { name := "f", mtime := some t }
    (splitLast ',' 6 (Terse.line r))[3]? = some (Numeral.chars 0) ∧
      (Object.ofRecord r).field? "mtime" = some (.text (String.ofList t.iso)) ∧
      t.iso = "1969-12-31T23:59:59.999999+00:00".toList ∧
      Instant.read? t.iso = some (-1, 999999) := by
  intro t r
  have htold : Moment.mtime.of r = some t := rfl
  have hzero : t.epochSeconds = 0 := by decide +kernel
  refine ⟨(cell_of_time htold).trans ?_, text_of_time htold, ?_, ?_⟩
  · rw [hzero]
  · decide +kernel
  · rw [Instant.read?_iso]
    rfl

/-- Compared code point by code point, the texts in objects are ordered as the times are, and each of
them tells the microseconds of its time since 1970. -/
theorem compare_of_times (r r' : Record) (moment moment' : Moment) (t t' : Instant)
    (ht : moment.of r = some t) (ht' : moment'.of r' = some t') :
    ∃ text text',
      (Object.ofRecord r).field? moment.name = some (.text text) ∧
      (Object.ofRecord r').field? moment'.name = some (.text text') ∧
      compare text.toList text'.toList = compare t.micros t'.micros ∧
      (text = text' ↔ t = t') ∧
      Instant.readMicros? text.toList = some t.micros := by
  refine ⟨String.ofList t.iso, String.ofList t'.iso, text_of_time ht, text_of_time ht', ?_, ?_, ?_⟩
  · simp [Instant.compare_iso]
  · rw [String.ofList_inj, Instant.iso_inj]
  · simp [Instant.readMicros?_iso]

/-- The last second of a February without a leap day, and the microsecond after it. -/
theorem compare_of_times_same_second :
    let t : Instant := ⟨-2203891201000000, by decide, by decide⟩
    let t' : Instant := ⟨-2203891200999999, by decide, by decide⟩
    let r : Record := { name := "f", timestamp := some t', mtime := some t }
    Moment.mtime.of r = some t ∧ Moment.timestamp.of r = some t' ∧
      ∃ text text', (Object.ofRecord r).field? "mtime" = some (.text text) ∧
        (Object.ofRecord r).field? "timestamp" = some (.text text') ∧
        text.toList = "1900-02-28T23:59:59+00:00".toList ∧
        text'.toList = "1900-02-28T23:59:59.000001+00:00".toList ∧
        compare text.toList text'.toList = .lt ∧ text ≠ text' ∧
        Instant.readMicros? text.toList = some (-2203891201000000) := by
  intro t t' r
  have htold : Moment.mtime.of r = some t := rfl
  have htold' : Moment.timestamp.of r = some t' := rfl
  obtain ⟨text, text', htext, htext', hcompare, hequal, hread⟩ :=
    compare_of_times r r .mtime .timestamp t t' htold htold'
  have hiso : t.iso = "1900-02-28T23:59:59+00:00".toList := by decide +kernel
  have hiso' : t'.iso = "1900-02-28T23:59:59.000001+00:00".toList := by decide +kernel
  have hlt : compare t.micros t'.micros = .lt := by decide
  have hne : t ≠ t' := by decide
  exact ⟨htold, htold', text, text', htext, htext', (eq_iso_of_text htold htext).trans hiso,
    (eq_iso_of_text htold' htext').trans hiso', hcompare.trans hlt, mt hequal.1 hne, hread⟩

end Moment

end Listing

end PageCache
