import Mathlib.Data.List.Forall2
import Quantities.Failure

/-!
# Chains of steps that can fail

A chain of steps succeeds when every step does, and fails with the first failure.

* `bind_ok`, `bind_error`: what a chain of two steps answers;
* `mapM_ok`, `mapM_error`: a function that can fail succeeds on a list when it does on every member,
  and fails on it where it fails first; `foldlM_read_ok` is a run of steps that are read on the way;
* `Matches`: two chains that succeed with results that are related, or both fail, in one kind. It is
  carried through steps (`Matches.bind`) and through lists (`Matches.mapM`, `Matches.foldlM`).
-/

namespace Quantities.Outcome

variable {β γ : Type}

/-- Two steps succeed when the first one does, and the second one on its result. -/
theorem bind_ok {x : Outcome β} {f : β → Outcome γ} {c : γ} :
    x >>= f = .ok c ↔ ∃ b, x = .ok b ∧ f b = .ok c := by
  cases x <;> simp [bind, Except.bind]

/-- Two steps fail when the first one does, or the second one on its result. -/
theorem bind_error {x : Outcome β} {f : β → Outcome γ} {e : Failure} :
    x >>= f = .error e ↔ x = .error e ∨ ∃ b, x = .ok b ∧ f b = .error e := by
  cases x <;> simp [bind, Except.bind]

theorem ok_or_error (x : Outcome β) : (∃ b, x = .ok b) ∨ ∃ e, x = .error e := by
  cases x with
  | error e => exact Or.inr ⟨e, rfl⟩
  | ok b => exact Or.inl ⟨b, rfl⟩

/-- A function that can fail succeeds on a list when it succeeds on every member. -/
theorem mapM_ok {f : β → Outcome γ} :
    ∀ {bs : List β} {cs : List γ}, bs.mapM f = .ok cs ↔ List.Forall₂ (fun b c => f b = .ok c) bs cs
  | [], cs => by
    rw [List.mapM_nil, List.forall₂_nil_left_iff]
    exact ⟨fun h => (Except.ok.inj h).symm, fun h => h ▸ rfl⟩
  | b :: bs, cs => by
    rw [List.mapM_cons, bind_ok, List.forall₂_cons_left_iff]
    constructor
    · rintro ⟨c, hc, h⟩
      obtain ⟨cs', hcs, h⟩ := bind_ok.mp h
      exact ⟨c, cs', hc, mapM_ok.mp hcs, (Except.ok.inj h).symm⟩
    · rintro ⟨c, cs', hc, hcs, rfl⟩
      exact ⟨c, hc, bind_ok.mpr ⟨cs', mapM_ok.mpr hcs, rfl⟩⟩

/-- All members are read, and as something with a property, when each of them is. -/
theorem exists_mapM_ok {f : β → Outcome γ} {p : γ → Prop} {bs : List β} :
    (∃ cs, bs.mapM f = .ok cs ∧ ∀ c ∈ cs, p c) ↔ ∀ b ∈ bs, ∃ c, f b = .ok c ∧ p c := by
  induction bs with
  | nil => exact ⟨fun _ => nofun, fun _ => ⟨[], rfl, nofun⟩⟩
  | cons b bs ih =>
    rw [List.forall_mem_cons, ← ih]
    constructor
    · rintro ⟨_, h, hp⟩
      obtain ⟨c, cs, hc, hcs, rfl⟩ := List.forall₂_cons_left_iff.mp (mapM_ok.mp h)
      obtain ⟨hpc, hpcs⟩ := List.forall_mem_cons.mp hp
      exact ⟨⟨c, hc, hpc⟩, cs, mapM_ok.mpr hcs, hpcs⟩
    · rintro ⟨⟨c, hc, hpc⟩, cs, hcs, hpcs⟩
      exact ⟨c :: cs, mapM_ok.mpr (.cons hc (mapM_ok.mp hcs)), List.forall_mem_cons.mpr ⟨hpc, hpcs⟩⟩

/-- What is the same of every member and of what it is read as. -/
theorem map_of_mapM_ok {δ : Type} {f : β → Outcome γ} {g : β → δ} {h : γ → δ} {bs : List β}
    {cs : List γ} (hread : bs.mapM f = .ok cs) (hsame : ∀ b c, f b = .ok c → g b = h c) :
    bs.map g = cs.map h := by
  induction mapM_ok.mp hread with
  | nil => rfl
  | cons hbc hrest ih =>
    rw [List.map_cons, List.map_cons, hsame _ _ hbc, ih (mapM_ok.mpr hrest)]

/-- A run of steps whose arguments are read one by one, each when its turn comes, succeeds when all
of them can be read and the run succeeds on what they read as. -/
theorem foldlM_read_ok {σ : Type} {read : β → Outcome γ} {step : σ → γ → Outcome σ} :
    ∀ {bs : List β} {s s' : σ}, bs.foldlM (fun s b => read b >>= step s) s = .ok s' ↔
      ∃ cs, bs.mapM read = .ok cs ∧ cs.foldlM step s = .ok s'
  | [], s, s' => by simp [List.mapM_nil, pure, Except.pure]
  | b :: bs, s, s' => by
    rw [List.foldlM_cons, bind_ok]
    constructor
    · rintro ⟨s₁, hstep, h⟩
      obtain ⟨c, hc, hstep⟩ := bind_ok.mp hstep
      obtain ⟨cs, hcs, h⟩ := foldlM_read_ok.mp h
      refine ⟨c :: cs, mapM_ok.mpr (.cons hc (mapM_ok.mp hcs)), ?_⟩
      rw [List.foldlM_cons]
      exact bind_ok.mpr ⟨s₁, hstep, h⟩
    · rintro ⟨_, hread, h⟩
      obtain ⟨c, cs, hc, hcs, rfl⟩ := List.forall₂_cons_left_iff.mp (mapM_ok.mp hread)
      rw [List.foldlM_cons] at h
      obtain ⟨s₁, hstep, h⟩ := bind_ok.mp h
      exact ⟨s₁, bind_ok.mpr ⟨c, hc, hstep⟩, foldlM_read_ok.mpr ⟨cs, mapM_ok.mpr hcs, h⟩⟩

theorem foldlM_flatMap {σ : Type} {f : β → List γ} {step : σ → γ → Outcome σ} :
    ∀ {bs : List β} {s : σ},
      (bs.flatMap f).foldlM step s = bs.foldlM (fun s b => (f b).foldlM step s) s
  | [], _ => rfl
  | b :: bs, s => by
    rw [List.flatMap_cons, List.foldlM_append, List.foldlM_cons]
    exact congrArg _ (funext fun _ => foldlM_flatMap)

/-- Two runs whose steps answer the same. -/
theorem foldlM_congr {σ : Type} {f : σ → β → Outcome σ} {g : σ → γ → Outcome σ} {bs : List β}
    {cs : List γ} (h : List.Forall₂ (fun b c => ∀ s, f s b = g s c) bs cs) (s : σ) :
    bs.foldlM f s = cs.foldlM g s := by
  induction h generalizing s with
  | nil => rfl
  | cons hbc _ ih =>
    rw [List.foldlM_cons, List.foldlM_cons, hbc s]
    exact congrArg _ (funext ih)

/-- A function that can fail fails on a list with its first failure. -/
theorem mapM_error {f : β → Outcome γ} {e : Failure} :
    ∀ {bs : List β}, bs.mapM f = .error e ↔ ∃ before b rest, bs = before ++ b :: rest ∧
      (∀ x ∈ before, ∃ c, f x = .ok c) ∧ f b = .error e
  | [] => by
    rw [List.mapM_nil]
    constructor
    · intro h
      exact nomatch h
    · rintro ⟨before, b, rest, h, -⟩
      simp at h
  | b :: bs => by
    rw [List.mapM_cons, bind_error]
    constructor
    · rintro (hb | ⟨c, hc, h⟩)
      · exact ⟨[], b, bs, rfl, nofun, hb⟩
      · rcases bind_error.mp h with h | ⟨_, _, h⟩
        · obtain ⟨before, b', rest, rfl, hbefore, hb'⟩ := mapM_error.mp h
          exact ⟨b :: before, b', rest, rfl, List.forall_mem_cons.mpr ⟨⟨c, hc⟩, hbefore⟩, hb'⟩
        · exact nomatch h
    · rintro ⟨before, b', rest, heq, hbefore, hb'⟩
      cases before with
      | nil =>
        obtain ⟨rfl, rfl⟩ := List.cons.inj heq
        exact Or.inl hb'
      | cons x before =>
        obtain ⟨rfl, rfl⟩ := List.cons.inj heq
        obtain ⟨⟨c, hc⟩, hbefore⟩ := List.forall_mem_cons.mp hbefore
        exact Or.inr ⟨c, hc, bind_error.mpr (Or.inl (mapM_error.mpr
          ⟨before, b', rest, rfl, hbefore, hb'⟩))⟩

/-- In lists that go together every member of the first has its partner. -/
theorem exists_partner {r : β → γ → Prop} {b : β} :
    ∀ {bs : List β} {cs : List γ}, List.Forall₂ r bs cs → b ∈ bs → ∃ c ∈ cs, r b c
  | _, _, .cons (b := c) hr h, hb => by
    rcases List.mem_cons.mp hb with rfl | hb
    · exact ⟨c, List.mem_cons_self, hr⟩
    · obtain ⟨c', hc', hr'⟩ := exists_partner h hb
      exact ⟨c', List.mem_cons_of_mem c hc', hr'⟩

/-! ## Two chains -/

/-- Both answers are results that are related, or both are failures, of one kind. -/
inductive Matches (R : β → γ → Prop) : Outcome β → Outcome γ → Prop
  | ok {b : β} {c : γ} (h : R b c) : Matches R (.ok b) (.ok c)
  | error {f g : Failure} (h : f.kind = g.kind) : Matches R (.error f) (.error g)

theorem Matches.same (x : Outcome β) : Matches Eq x x := by
  cases x with
  | ok b => exact .ok rfl
  | error f => exact .error rfl

/-- Steps that match on related results match behind answers that match. -/
theorem Matches.bind {β' γ' : Type} {R : β → γ → Prop} {S : β' → γ' → Prop} {x : Outcome β}
    {y : Outcome γ} {f : β → Outcome β'} {g : γ → Outcome γ'} (h : Matches R x y)
    (hfg : ∀ b c, R b c → Matches S (f b) (g c)) : Matches S (x >>= f) (y >>= g) := by
  cases h with
  | ok h => exact hfg _ _ h
  | error h => exact .error h

/-- A function on each of two lists, member by member. -/
theorem Matches.mapM {β' γ' : Type} {R : β' → γ' → Prop} {f : β → Outcome β'} {g : γ → Outcome γ'}
    {bs : List β} {cs : List γ} (h : List.Forall₂ (fun b c => Matches R (f b) (g c)) bs cs) :
    Matches (List.Forall₂ R) (bs.mapM f) (cs.mapM g) := by
  induction h with
  | nil => exact .ok .nil
  | cons hbc _ ih =>
    rw [List.mapM_cons, List.mapM_cons]
    exact hbc.bind fun _ _ h => ih.bind fun _ _ hs => .ok (.cons h hs)

/-- A running result over each of two lists. -/
theorem Matches.foldlM {β' γ' : Type} {R : β' → γ' → Prop} {f : β' → β → Outcome β'}
    {g : γ' → γ → Outcome γ'} {bs : List β} {cs : List γ}
    (h : List.Forall₂ (fun b c => ∀ p q, R p q → Matches R (f p b) (g q c)) bs cs) :
    ∀ {p : β'} {q : γ'}, R p q → Matches R (bs.foldlM f p) (cs.foldlM g q) := by
  induction h with
  | nil => exact fun hpq => .ok hpq
  | cons hbc _ ih =>
    intro p q hpq
    rw [List.foldlM_cons, List.foldlM_cons]
    exact (hbc p q hpq).bind fun _ _ h => ih h

/-- Whether a step succeeds with a result of a kind that can be decided. -/
instance decidableExistsOk (x : Outcome β) (p : β → Prop) [DecidablePred p] :
    Decidable (∃ b, x = .ok b ∧ p b) :=
  match x with
  | .ok b => decidable_of_iff (p b) ⟨fun h => ⟨b, rfl, h⟩, fun ⟨_, e, h⟩ => Except.ok.inj e ▸ h⟩
  | .error _ => isFalse fun ⟨_, h, _⟩ => nomatch h

end Quantities.Outcome
