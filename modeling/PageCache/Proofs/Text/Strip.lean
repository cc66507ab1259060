import PageCache.Proofs.Text.Line

/-! Texts without the blanks at their ends: what is left starts and ends with something else, and
does not depend on what was there to take away. -/

namespace PageCache.Text

variable {p : Char → Bool} {s front behind : List Char} {c : Char}

lemma trim_append (hfront : ∀ c ∈ front, p c = true) (hbehind : ∀ c ∈ behind, p c = true) :
    trim p (front ++ s ++ behind) = trim p s := by
  rw [trim, List.append_assoc, List.dropWhile_append_of_pos hfront, List.dropWhile_append, trim]
  cases hdrop : s.dropWhile p with
  | nil => rw [List.isEmpty_nil, if_pos rfl, List.dropWhile_eq_nil_iff.2 hbehind]
  | cons c rest =>
    have hreverse : ∀ c ∈ behind.reverse, p c = true :=
      fun c hc => hbehind c (List.mem_reverse.1 hc)
    rw [List.isEmpty_cons, if_neg Bool.false_ne_true, List.reverse_append,
      List.dropWhile_append_of_pos hreverse]

lemma trim_of_ends (hfirst : ∀ c ∈ s.head?, p c = false) (hlast : ∀ c ∈ s.getLast?, p c = false) :
    trim p s = s := by
  have hdrop : ∀ t : List Char, (∀ c ∈ t.head?, p c = false) → t.dropWhile p = t := by
    intro t ht
    cases t with
    | nil => rfl
    | cons c t => exact List.dropWhile_cons_of_neg (by rw [ht c rfl]; decide)
  rw [trim, hdrop s hfirst, hdrop, List.reverse_reverse]
  rwa [List.head?_reverse]

lemma trim_getLast? (h : c ∈ (trim p s).getLast?) : p c = false := by
  rw [trim, List.getLast?_reverse] at h
  exact head?_dropWhile h

lemma trim_head? (h : c ∈ (trim p s).head?) : p c = false := by
  rw [trim, List.head?_reverse, Option.mem_def] at h
  -- What is left of a text at its end starts with it.
  obtain ⟨taken, htaken⟩ := List.dropWhile_suffix p (l := (s.dropWhile p).reverse)
  have hlast := congrArg List.getLast? htaken
  rw [List.getLast?_append, h, List.getLast?_reverse] at hlast
  exact head?_dropWhile hlast.symm

lemma trim_map {f : Char → Char} (h : ∀ c, p (f c) = p c) : trim p (s.map f) = (trim p s).map f := by
  have hcomp : p ∘ f = p := funext h
  rw [trim, List.dropWhile_map, hcomp, ← List.map_reverse, List.dropWhile_map, hcomp, trim,
    List.map_reverse]

end PageCache.Text
