import Mathlib.Tactic.Lemma

/-! Runs of computations that keep a state and may end in an error, taken apart at each step. -/

namespace PageCache.Sequencing

variable {ε σ α β : Type}

lemma run_bind (x : ExceptT ε (StateM σ) α) (f : α → ExceptT ε (StateM σ) β) (s : σ) :
    (x >>= f).run.run s =
      match x.run.run s with
      | (.ok a, t) => (f a).run.run t
      | (.error e, t) => (.error e, t) := by
  rw [ExceptT.run_bind, StateT.run_bind]
  rcases x.run.run s with ⟨_ | _, t⟩ <;> rfl

lemma run_bind_ok {x : ExceptT ε (StateM σ) α} {s t : σ} {a : α} (h : x.run.run s = (.ok a, t))
    (f : α → ExceptT ε (StateM σ) β) : (x >>= f).run.run s = (f a).run.run t := by
  rw [run_bind, h]

lemma run_bind_error {x : ExceptT ε (StateM σ) α} {s t : σ} {e : ε}
    (h : x.run.run s = (.error e, t))
    (f : α → ExceptT ε (StateM σ) β) : (x >>= f).run.run s = (.error e, t) := by
  rw [run_bind, h]

lemma run_pure (a : α) (s : σ) : (pure a : ExceptT ε (StateM σ) α).run.run s = (.ok a, s) := rfl

lemma run_throw (e : ε) (s : σ) : (throw e : ExceptT ε (StateM σ) α).run.run s = (.error e, s) :=
  rfl

lemma run_get (s : σ) : (get : ExceptT ε (StateM σ) σ).run.run s = (.ok s, s) := rfl

lemma run_modify (f : σ → σ) (s : σ) :
    (modify f : ExceptT ε (StateM σ) PUnit).run.run s = (.ok (), f s) := rfl

lemma run_lift (x : StateM σ α) (s : σ) :
    (liftM x : ExceptT ε (StateM σ) α).run.run s = (.ok (x.run s).1, (x.run s).2) := rfl

lemma run_liftExcept (x : Except ε α) (s : σ) :
    (liftExcept x : ExceptT ε (StateM σ) α).run.run s = (x, s) := by
  cases x <;> rfl

lemma run_adapt {ε' : Type} (f : ε → ε') (x : ExceptT ε (StateM σ) α) (s : σ) :
    (x.adapt f).run.run s = ((x.run.run s).1.mapError f, (x.run.run s).2) := rfl

lemma mapError_ok {ε' : Type} (f : ε → ε') (a : α) :
    (Except.ok a : Except ε α).mapError f = .ok a := rfl

lemma mapError_error {ε' : Type} (f : ε → ε') (e : ε) :
    (Except.error e : Except ε α).mapError f = .error (f e) := rfl

lemma map_ok (f : α → β) (a : α) : (Except.ok a : Except ε α).map f = .ok (f a) := rfl

lemma ok_bind (a : α) (f : α → Except ε β) : (Except.ok a >>= f) = f a := rfl

lemma error_bind (e : ε) (f : α → Except ε β) : (Except.error e >>= f) = .error e := rfl

lemma run_mapM_cons (f : α → StateM σ β) (a : α) (l : List α) (s : σ) :
    ((a :: l).mapM f).run s =
      (((f a).run s).1 :: ((l.mapM f).run ((f a).run s).2).1,
        ((l.mapM f).run ((f a).run s).2).2) := by
  rw [List.mapM_cons]
  rfl

lemma eq_nil_of_run_mapM_nil {γ : Type} {f : α → StateM σ β} {g : γ → β} {cs : List γ} {s t : σ}
    (h : ([].mapM f).run s = (cs.map g, t)) : cs = [] ∧ t = s := by
  obtain ⟨hanswers, hstate⟩ := Prod.mk.inj h
  exact ⟨List.map_eq_nil_iff.1 hanswers.symm, hstate.symm⟩

/-- Answers that are images of some are so from the first on. -/
lemma exists_of_run_mapM_cons {γ : Type} {f : α → StateM σ β} {g : γ → β} {a : α} {l : List α}
    {cs : List γ} {s t : σ} (h : ((a :: l).mapM f).run s = (cs.map g, t)) :
    ∃ c rest u, cs = c :: rest ∧ (f a).run s = (g c, u) ∧
      (l.mapM f).run u = (rest.map g, t) := by
  rw [run_mapM_cons] at h
  cases cs with
  | nil => cases congrArg Prod.fst h
  | cons c rest =>
    obtain ⟨hanswers, rfl⟩ := Prod.mk.inj h
    obtain ⟨hfirst, hrest⟩ := List.cons.inj hanswers
    exact ⟨c, rest, _, rfl, Prod.ext hfirst rfl, Prod.ext hrest rfl⟩

lemma length_of_run_mapM {γ : Type} {f : α → StateM σ β} {g : γ → β} {l : List α} {cs : List γ}
    {s t : σ} (h : (l.mapM f).run s = (cs.map g, t)) : cs.length = l.length := by
  induction l generalizing s cs with
  | nil => rw [(eq_nil_of_run_mapM_nil h).1, List.length_nil, List.length_nil]
  | cons a l ih =>
    obtain ⟨c, rest, u, rfl, -, hrest⟩ := exists_of_run_mapM_cons h
    rw [List.length_cons, List.length_cons, ih hrest]

/-- What each answer is like, where the states keep what that takes. -/
lemma forall_of_run_mapM {γ : Type} {f : α → StateM σ β} {g : γ → β} {I : σ → Prop} {P : γ → Prop}
    (hstep : ∀ a c s t, I s → (f a).run s = (g c, t) → P c ∧ I t) {l : List α} {cs : List γ}
    {s t : σ} (hs : I s) (h : (l.mapM f).run s = (cs.map g, t)) : ∀ c ∈ cs, P c := by
  induction l generalizing s cs with
  | nil =>
    rw [(eq_nil_of_run_mapM_nil h).1]
    exact fun _ hc => absurd hc List.not_mem_nil
  | cons a l ih =>
    obtain ⟨c, rest, u, rfl, hfirst, hrest⟩ := exists_of_run_mapM_cons h
    obtain ⟨hc, hu⟩ := hstep a c s u hs hfirst
    exact List.forall_mem_cons.2 ⟨hc, ih hu hrest⟩

end PageCache.Sequencing
