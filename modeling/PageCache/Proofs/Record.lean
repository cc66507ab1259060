import PageCache.Proofs.Percentage

/-! What a report makes of a record. Counts that are no less than zero are always filled in, with
their share in percent, and what the record tells of the file stays as it was. -/

namespace PageCache

open Binary64

namespace Binary64

lemma value_zero : (units 0 : ℚ) / one = 0 := by rw [units_zero, Nat.cast_zero, zero_div]

lemma value_hundred : (units hundredRank : ℚ) / one = 100 := by
  have hone : (one : ℚ) ≠ 0 := Nat.cast_ne_zero.2 one_pos.ne'
  rw [units_hundred, Nat.cast_mul, mul_div_assoc, div_self hone, mul_one, Nat.cast_ofNat]

end Binary64

namespace Record

lemma file_merge {r merged : Record} {report : Option Report} (h : r.merge report = .ok merged) :
    merged.name = r.name ∧ merged.size = r.size ∧ merged.timestamp = r.timestamp ∧
      merged.mtime = r.mtime := by
  cases report with
  | none =>
    rw [merge_none, Except.ok.injEq] at h
    exact h ▸ ⟨rfl, rfl, rfl, rfl⟩
  | some report =>
    rw [merge] at h
    split at h
    · cases h
    · rw [← Except.ok.inj h]
      exact ⟨rfl, rfl, rfl, rfl⟩

lemma merge_natCast (r : Record) {cached pages : Nat} (h : cached ≤ pages) {missing : Int}
    (hpages : (cached : Int) + missing = pages) :
    r.merge (some ⟨cached, missing⟩) = .ok
      { r with
        pages := pages, cached := cached, uncached := missing
        percent := .finite false ⟨_, percentRank_lt_topRank h⟩ } := by
  simp only [merge, hpages, percentage?_natCast h]

theorem percent_of_merge (r : Record) (report : Report) (hcached : 0 ≤ report.cached)
    (hmissing : 0 ≤ report.missing) :
    ∃ merged v, r.merge (some report) = .ok merged ∧ merged.percent.value? = some v ∧
      merged.name = r.name ∧ merged.size = r.size ∧ merged.timestamp = r.timestamp ∧
      merged.mtime = r.mtime ∧ merged.pages = report.cached + report.missing ∧
      merged.cached = report.cached ∧ merged.uncached = report.missing ∧
      0 ≤ v ∧ v ≤ 100 ∧
      (0 < merged.pages → merged.percent.IsPercent report.cached merged.pages) ∧
      (∀ (s : Record) (other : Report), 0 ≤ other.missing → report.cached ≤ other.cached →
        other.cached + other.missing = merged.pages →
          ∃ more w, s.merge (some other) = .ok more ∧ more.percent.value? = some w ∧ v ≤ w) ∧
      (0 < merged.pages → report.missing = 0 → merged.percent = .ofInt 100) ∧
      (report.cached = 0 → merged.percent = .zero) ∧
      (0 < merged.pages → merged.pages < 2 ^ 53 →
        (v = 100 → report.missing = 0) ∧ (v = 0 → report.cached = 0)) := by
  obtain ⟨cached, missing⟩ := report
  obtain ⟨c, rfl⟩ := Int.eq_ofNat_of_zero_le hcached
  obtain ⟨m, rfl⟩ := Int.eq_ofNat_of_zero_le hmissing
  have hle : c ≤ c + m := Nat.le_add_right c m
  have hmerged := r.merge_natCast hle (Int.natCast_add c m).symm
  obtain ⟨hname, hsize, htimestamp, hmtime⟩ := file_merge hmerged
  refine ⟨_, _, hmerged, value?_positive _, hname, hsize, htimestamp, hmtime, ?_, rfl, rfl, ?_, ?_,
    ?_, ?_, ?_, ?_, ?_⟩
  · exact Int.natCast_add c m
  · rw [← value_zero, value_le_iff]
    exact Nat.zero_le _
  · rw [← value_hundred, value_le_iff]
    exact percentRank_le hle
  · intro hpages
    exact isPercent_percentRank (Int.natCast_pos.1 hpages) hle
  · rintro s ⟨more, rest⟩ hrest hmore hpages
    obtain ⟨d, rfl⟩ := Int.eq_ofNat_of_zero_le (Int.le_trans hcached hmore)
    dsimp only at hrest hmore hpages
    have hd : d ≤ c + m := by omega
    refine ⟨_, _, s.merge_natCast hd hpages, value?_positive _, ?_⟩
    rw [value_le_iff]
    obtain hnone | hsome := Nat.eq_zero_or_pos (c + m)
    · obtain rfl : c = d := by omega
      exact Nat.le_refl _
    · exact percentRank_mono hsome (by omega)
  · intro hpages hnone
    obtain rfl : m = 0 := Int.natCast_eq_zero.1 hnone
    have hfull := percentRank_full (Int.natCast_pos.1 hpages)
    rw [ofInt_hundred]
    simp only [Nat.add_zero] at hfull ⊢
    simp only [hfull]
  · intro hnone
    obtain rfl : c = 0 := Int.natCast_eq_zero.1 hnone
    simp only [percentRank_zero]
    rfl
  · intro hpages hfew
    have hlt : c + m < 2 ^ 53 := Int.ofNat_lt.1 hfew
    constructor
    · intro hfull
      rw [← value_hundred, value_inj] at hfull
      refine Int.natCast_eq_zero.2 (Nat.eq_zero_of_not_pos fun hm => ?_)
      exact (percentRank_lt hlt (by omega)).ne hfull
    · intro hzero
      rw [← value_zero, value_inj] at hzero
      refine Int.natCast_eq_zero.2 (Nat.eq_zero_of_not_pos fun hc => ?_)
      exact (percentRank_pos hlt hc hle).ne' hzero

/-- One page short of so many, and the share is neither full nor nothing. -/
theorem percent_of_merge_one_missing :
    let report : Report := ⟨9007199254740990, 1⟩
    0 ≤ report.cached ∧ 0 ≤ report.missing ∧ ∃ merged v,
      Record.merge { name := "f" } (some report) = .ok merged ∧ merged.percent.value? = some v ∧
        0 < v ∧ v < 100 := by
  intro report
  have hcached : 0 ≤ report.cached := by decide
  have hmissing : 0 ≤ report.missing := by decide
  obtain ⟨merged, v, hmerged, hvalue, -, -, -, -, hpages, -, -, hnonneg, hle, -, -, -, -, hcounts⟩ :=
    percent_of_merge { name := "f" } report hcached hmissing
  obtain ⟨hfull, hnone⟩ := hcounts (by rw [hpages]; decide) (by rw [hpages]; decide)
  exact ⟨hcached, hmissing, merged, v, hmerged, hvalue,
    lt_of_le_of_ne hnonneg fun h => absurd (hnone h.symm) (by decide),
    lt_of_le_of_ne hle fun h => absurd (hfull h) (by decide)⟩

end Record

end PageCache
