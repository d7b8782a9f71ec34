import Quantities.Proofs.Dimension.Group
import Quantities.Proofs.Outcome
import Quantities.Value.Dimensions

/-!
# Dimensions by name

A table of named exponents is read as a dimension, and a dimension is listed as such a table. Names
count in letters of either case, and of several entries for one base dimension the last one counts.

* `ofName?_eq_some`: a name denotes a base dimension when both have the same capital form.
* `IsLast`: an entry is the last one for a base dimension; `lastNamed?_eq_some` says that it is the
  one that is looked up.
* `ofNamed_ok`, `ofNamed_error`: which dimension a table denotes, and which tables are refused.
* `toNamed_sublist`, `mem_toNamed`: what a dimension is listed as.
* **`namedDimension_toNamed`**: what is listed is read back, and what is read is listed with the
  last exponent of each base dimension.
-/

namespace Quantities

/-! ## Names -/

namespace BaseDimension

/-- The names of the base dimensions have different capital forms. -/
theorem capitals_name_injective :
    ∀ b c : BaseDimension, Text.capitals b.name = Text.capitals c.name → b = c := by
  rintro (_ | _) (_ | _)
  all_goals decide

theorem ofName?_eq_some {s : String} {b : BaseDimension} :
    ofName? s = some b ↔ Text.capitals s = Text.capitals b.name := by
  have hfound : ∀ {c : BaseDimension}, ofName? s = some c →
      Text.capitals s = Text.capitals c.name := fun hc => by
    unfold ofName? at hc
    have hsame := List.find?_some hc
    exact (beq_iff_eq.mp hsame).symm
  constructor
  · exact hfound
  · intro h
    cases hfind : ofName? s with
    | none => exact absurd (beq_iff_eq.mpr h.symm) (List.find?_eq_none.mp hfind b b.mem_all)
    | some c => rw [capitals_name_injective c b ((hfound hfind).symm.trans h)]

theorem ofName?_eq_none {s : String} :
    ofName? s = none ↔ ∀ b : BaseDimension, Text.capitals s ≠ Text.capitals b.name := by
  rw [Option.eq_none_iff_forall_ne_some]
  exact forall_congr' fun b => not_congr ofName?_eq_some

theorem isSome_ofName? {s : String} :
    (ofName? s).isSome = true ↔ ∃ b : BaseDimension, Text.capitals s = Text.capitals b.name := by
  rw [Option.isSome_iff_exists]
  exact exists_congr fun b => ofName?_eq_some

end BaseDimension

namespace Dimension

variable {β γ : Type} {read : β → Outcome Int} {es : List (String × β)} {d : Dimension}

/-! ## Reading -/

/-- The entry with this value is the last one for a base dimension. -/
def IsLast (es : List (String × β)) (b : BaseDimension) (v : β) : Prop :=
  ∃ before s after, es = before ++ (s, v) :: after ∧ Text.capitals s = Text.capitals b.name ∧
    ∀ e ∈ after, Text.capitals e.1 ≠ Text.capitals b.name

theorem IsLast.mem {b : BaseDimension} {v : β} (h : IsLast es b v) :
    ∃ s, (s, v) ∈ es ∧ Text.capitals s = Text.capitals b.name := by
  obtain ⟨before, s, after, rfl, hs, -⟩ := h
  exact ⟨s, List.mem_append_right before List.mem_cons_self, hs⟩

theorem lastNamed?_eq_some {b : BaseDimension} {v : β} :
    lastNamed? es b = some v ↔ IsLast es b v := by
  unfold lastNamed? IsLast
  simp only [Option.map_eq_some_iff, List.find?_eq_some_iff_append, beq_iff_eq, Bool.not_eq_true',
    beq_eq_false_iff_ne, ne_eq, BaseDimension.ofName?_eq_some]
  constructor
  · rintro ⟨⟨s, _⟩, ⟨hs, after, before, hes, hafter⟩, rfl⟩
    refine ⟨before.reverse, s, after.reverse, ?_, hs, fun e he => hafter e (List.mem_reverse.mp he)⟩
    rw [← List.reverse_reverse es, hes]
    simp
  · rintro ⟨before, s, after, rfl, hs, hafter⟩
    refine ⟨(s, v), ⟨hs, after.reverse, before.reverse, by simp, fun e he => ?_⟩, rfl⟩
    exact hafter e (List.mem_reverse.mp he)

theorem lastNamed?_eq_none {b : BaseDimension} :
    lastNamed? es b = none ↔ ∀ e ∈ es, Text.capitals e.1 ≠ Text.capitals b.name := by
  unfold lastNamed?
  simp only [Option.map_eq_none_iff, List.find?_eq_none, List.mem_reverse, beq_iff_eq,
    BaseDimension.ofName?_eq_some, ne_eq]

/-- A base dimension that is named has a last entry. -/
theorem exists_isLast {b : BaseDimension} {v : β} (h : (b.name, v) ∈ es) :
    ∃ w, IsLast es b w := by
  cases hlast : lastNamed? es b with
  | none => exact absurd rfl (lastNamed?_eq_none.mp hlast _ h)
  | some w => exact ⟨w, lastNamed?_eq_some.mp hlast⟩

theorem readExponents_ok {f : BaseDimension → Outcome Int} :
    readExponents f = .ok d ↔ ∀ b, f b = .ok (d.exponent b) := by
  unfold readExponents
  simp only [Outcome.bind_ok, Except.ok.injEq]
  constructor
  · rintro ⟨m, hm, l, hl, t, ht, k, hk, i, hi, n, hn, j, hj, b, hb, r, hr, rfl⟩
    rintro (_ | _)
    all_goals assumption
  · intro h
    exact ⟨_, h .mass, _, h .length, _, h .time, _, h .temperature, _, h .current, _, h .substance,
      _, h .luminosity, _, h .information, _, h .rotation, rfl⟩

theorem checkNames_ok :
    checkNames es = .ok () ↔ ∀ e ∈ es, (BaseDimension.ofName? e.1).isSome = true := by
  unfold checkNames
  constructor
  · intro h
    split at h
    · rename_i hnone
      intro e he
      have := List.find?_eq_none.mp hnone e he
      simpa [Option.isSome_iff_ne_none] using this
    · exact nomatch h
  · intro h
    have hnone : (es.find? fun e => (BaseDimension.ofName? e.1).isNone) = none :=
      List.find?_eq_none.mpr fun e he => by simp [Option.isSome_iff_ne_none.mp (h e he)]
    rw [hnone]

/-- The exponent of a base dimension in a table of them: that of the last entry for it, or zero. -/
def HasExponent (read : β → Outcome Int) (es : List (String × β)) (b : BaseDimension) (n : Int) :
    Prop :=
  match lastNamed? es b with
  | none => n = 0
  | some v => read v = .ok n

theorem hasExponent_iff {b : BaseDimension} {n : Int} : HasExponent read es b n ↔
    (∃ v, IsLast es b v ∧ read v = .ok n) ∨
      (∀ e ∈ es, Text.capitals e.1 ≠ Text.capitals b.name) ∧ n = 0 := by
  unfold HasExponent
  cases h : lastNamed? es b with
  | none =>
    have hnone := lastNamed?_eq_none.mp h
    refine ⟨fun hn => Or.inr ⟨hnone, hn⟩, ?_⟩
    rintro (⟨v, hv, -⟩ | ⟨-, hn⟩)
    · exact nomatch h.symm.trans (lastNamed?_eq_some.mpr hv)
    · exact hn
  | some v =>
    have hv := lastNamed?_eq_some.mp h
    refine ⟨fun hn => Or.inl ⟨v, hv, hn⟩, ?_⟩
    rintro (⟨w, hw, hn⟩ | ⟨hnone, -⟩)
    · obtain rfl := Option.some.inj (h.symm.trans (lastNamed?_eq_some.mpr hw))
      exact hn
    · exact nomatch h.symm.trans (lastNamed?_eq_none.mpr hnone)

/-- **Which dimension a table of exponents denotes.** -/
theorem ofNamed_ok : ofNamed read es = .ok d ↔
    (∀ e ∈ es, (BaseDimension.ofName? e.1).isSome = true) ∧
      ∀ b, HasExponent read es b (d.exponent b) := by
  have hexponent : ∀ b n, (match lastNamed? es b with
      | none => Except.ok 0
      | some v => read v) = .ok n ↔ HasExponent read es b n := by
    intro b n
    unfold HasExponent
    cases lastNamed? es b with
    | none => exact ⟨fun h => (Except.ok.inj h).symm, fun h => congrArg _ h.symm⟩
    | some v => exact Iff.rfl
  unfold ofNamed
  rw [Outcome.bind_ok]
  constructor
  · rintro ⟨_, hnames, h⟩
    exact ⟨checkNames_ok.mp hnames, fun b => (hexponent b _).mp (readExponents_ok.mp h b)⟩
  · rintro ⟨hnames, h⟩
    exact ⟨(), checkNames_ok.mpr hnames, readExponents_ok.mpr fun b => (hexponent b _).mpr (h b)⟩

/-- Values that are read by way of others. -/
theorem ofNamed_map (g : γ → β) (es : List (String × γ)) :
    ofNamed read (es.map fun e => (e.1, g e.2)) = ofNamed (fun c => read (g c)) es := by
  have hnames : checkNames (es.map fun e => (e.1, g e.2)) = checkNames es := by
    have hfind :
        ((es.map fun e => (e.1, g e.2)).find? fun e => (BaseDimension.ofName? e.1).isNone) =
          (es.find? fun e => (BaseDimension.ofName? e.1).isNone).map fun e => (e.1, g e.2) :=
      List.find?_map
    unfold checkNames
    rw [hfind]
    cases es.find? fun e => (BaseDimension.ofName? e.1).isNone <;> rfl
  have hlast : ∀ b, lastNamed? (es.map fun e => (e.1, g e.2)) b = (lastNamed? es b).map g := by
    intro b
    unfold lastNamed?
    rw [← List.map_reverse, List.find?_map, Option.map_map, Option.map_map]
    rfl
  unfold ofNamed
  simp only [hnames, hlast]
  refine congrArg _ (funext fun _ => congrArg readExponents (funext fun b => ?_))
  cases lastNamed? es b <;> rfl

/-- The refusal of the first name that denotes no base dimension. -/
theorem checkNames_error {f : Failure} : checkNames es = .error f ↔
    ∃ before e after, es = before ++ e :: after ∧
      (∀ x ∈ before, ∃ b : BaseDimension, Text.capitals x.1 = Text.capitals b.name) ∧
      (∀ b : BaseDimension, Text.capitals e.1 ≠ Text.capitals b.name) ∧
      f = .unknownDimension e.1 := by
  have hunknown : ∀ e : String × β, (BaseDimension.ofName? e.1).isNone = true ↔
      ∀ b : BaseDimension, Text.capitals e.1 ≠ Text.capitals b.name := fun e => by
    rw [Option.isNone_iff_eq_none, BaseDimension.ofName?_eq_none]
  unfold checkNames
  constructor
  · intro h
    split at h
    · exact nomatch h
    · rename_i e he
      obtain ⟨hnone, before, after, rfl, hbefore⟩ := List.find?_eq_some_iff_append.mp he
      refine ⟨before, e, after, rfl, fun x hx => ?_, (hunknown e).mp hnone,
        (Except.error.inj h).symm⟩
      have hx := hbefore x hx
      rw [Bool.not_eq_true', ← Bool.not_eq_true, hunknown] at hx
      simpa using hx
  · rintro ⟨before, e, after, rfl, hbefore, he, rfl⟩
    have hfind : ((before ++ e :: after).find? fun e => (BaseDimension.ofName? e.1).isNone) =
        some e := by
      refine List.find?_eq_some_iff_append.mpr
        ⟨(hunknown e).mpr he, before, after, rfl, fun x hx => ?_⟩
      rw [Bool.not_eq_true', ← Bool.not_eq_true, hunknown]
      simpa using hbefore x hx
    rw [hfind]

/-! ## Integers -/

section

variable {es : List (String × Int)}

/-- Integers with known names are read as a dimension. Its exponents are the last ones. -/
theorem exists_ofNamed
    (h : ∀ e ∈ es, ∃ b : BaseDimension, Text.capitals e.1 = Text.capitals b.name) :
    ∃ r, ofNamed .ok es = .ok r ∧
      ∀ (b : BaseDimension) (n : Int), n ≠ 0 → (r.exponent b = n ↔ IsLast es b n) := by
  have hread : ofNamed .ok es = .ok (ofExponents fun b => (lastNamed? es b).getD 0) := by
    refine ofNamed_ok.mpr ⟨fun e he => BaseDimension.isSome_ofName?.mpr (h e he), fun b => ?_⟩
    rw [exponent_ofExponents, HasExponent]
    cases lastNamed? es b <;> rfl
  refine ⟨_, hread, fun b n hn => ?_⟩
  rw [exponent_ofExponents, ← lastNamed?_eq_some]
  cases lastNamed? es b with
  | none => exact ⟨fun h0 => absurd h0.symm hn, nofun⟩
  | some v => exact ⟨fun hv => congrArg some hv, fun hv => Option.some.inj hv⟩

/-- Nothing but a name can be refused in a table of integers. -/
theorem ofNamed_error {f : Failure} : ofNamed .ok es = .error f ↔ checkNames es = .error f := by
  rcases Outcome.ok_or_error (checkNames es) with ⟨_, hnames⟩ | ⟨g, hnames⟩
  · obtain ⟨r, hr, -⟩ := exists_ofNamed fun e he =>
      BaseDimension.isSome_ofName?.mp (checkNames_ok.mp hnames e he)
    rw [hr, hnames]
    exact ⟨nofun, nofun⟩
  · unfold ofNamed
    rw [hnames]
    exact ⟨fun h => congrArg _ (Except.error.inj h), fun h => congrArg _ (Except.error.inj h)⟩

end

/-! ## Listing -/

/-- A dimension is listed in the order of the base dimensions, each at most once. -/
theorem toNamed_sublist (d : Dimension) :
    (d.toNamed.map (·.1)).Sublist (BaseDimension.all.map (·.name)) := by
  unfold toNamed
  rw [List.map_map]
  exact List.filter_sublist.map _

theorem mem_toNamed {s : String} {n : Int} :
    (s, n) ∈ d.toNamed ↔ n ≠ 0 ∧ ∃ b : BaseDimension, s = b.name ∧ d.exponent b = n := by
  unfold toNamed
  simp only [List.mem_map, List.mem_filter, decide_eq_true_eq, Prod.mk.injEq]
  constructor
  · rintro ⟨b, ⟨-, hb⟩, rfl, rfl⟩
    exact ⟨hb, b, rfl, rfl⟩
  · rintro ⟨hn, b, rfl, rfl⟩
    exact ⟨b, ⟨b.mem_all, hn⟩, rfl, rfl⟩

/-- What is listed is read back. -/
theorem ofNamed_toNamed (d : Dimension) : ofNamed .ok d.toNamed = .ok d := by
  have hsame : ∀ {b c : BaseDimension}, Text.capitals c.name = Text.capitals b.name →
      c = b := fun h => BaseDimension.capitals_name_injective _ _ h
  refine ofNamed_ok.mpr ⟨fun e he => ?_, fun b => hasExponent_iff.mpr ?_⟩
  · obtain ⟨-, b, hb, -⟩ := mem_toNamed.mp he
    rw [hb, BaseDimension.ofName?_eq_some.mpr rfl]
    rfl
  · by_cases hb : d.exponent b = 0
    · refine Or.inr ⟨fun e he h => ?_, hb⟩
      obtain ⟨hn, c, hc, hexponent⟩ := mem_toNamed.mp he
      obtain rfl := hsame (hc ▸ h)
      exact hn (hexponent.symm.trans hb)
    · obtain ⟨v, hv⟩ := exists_isLast (mem_toNamed.mpr ⟨hb, b, rfl, rfl⟩)
      obtain ⟨s, hmem, hs⟩ := hv.mem
      obtain ⟨-, c, rfl, rfl⟩ := mem_toNamed.mp hmem
      obtain rfl := hsame hs
      exact Or.inl ⟨_, hv, rfl⟩

end Dimension

/-- Named integers as a value. -/
def Value.ofExponents (es : List (String × Int)) : Value :=
  .mapping (es.map fun e => (e.1, .integer e.2))

namespace Dimension

/-- Named integers are read by their names alone. -/
theorem namedDimension_ofExponents (es : List (String × Int)) :
    (Value.ofExponents es).namedDimension = ofNamed .ok es :=
  ofNamed_map Value.integer es

/-- **What is listed is read back, and what is read is listed.** A table of integers is refused, as
a bad value, exactly when a name in it is the name of no base dimension in letters of either case.
Otherwise the dimension that it is read as is listed in the order of the base dimensions, and in the
list are exactly the base dimensions whose last entry in the table is not zero, with that entry. -/
theorem namedDimension_toNamed (d : Dimension) (es : List (String × Int)) :
    (Value.ofExponents d.toNamed).namedDimension = .ok d ∧
    (((∃ f, (Value.ofExponents es).namedDimension = .error f) ↔
        ∃ e ∈ es, ∀ b : BaseDimension, Text.capitals e.1 ≠ Text.capitals b.name) ∧
      ∀ f, (Value.ofExponents es).namedDimension = .error f → f.kind = .badValue) ∧
    ((∀ e ∈ es, ∃ b : BaseDimension, Text.capitals e.1 = Text.capitals b.name) →
      ∃ r, (Value.ofExponents es).namedDimension = .ok r ∧
        (r.toNamed.map (·.1)).Sublist (BaseDimension.all.map (·.name)) ∧
        ∀ s n, (s, n) ∈ r.toNamed ↔ n ≠ 0 ∧ ∃ b : BaseDimension, s = b.name ∧ IsLast es b n) := by
  simp only [namedDimension_ofExponents, ofNamed_error, checkNames_error]
  refine ⟨ofNamed_toNamed d, ⟨⟨?_, fun ⟨e, he, hunknown⟩ => ?_⟩, ?_⟩, fun h => ?_⟩
  · rintro ⟨f, before, e, after, rfl, -, hunknown, -⟩
    exact ⟨e, List.mem_append_right before List.mem_cons_self, hunknown⟩
  · obtain ⟨f, hf⟩ : ∃ f, checkNames es = .error f := by
      rcases Outcome.ok_or_error (checkNames es) with ⟨_, hnames⟩ | hf
      · obtain ⟨b, hb⟩ := BaseDimension.isSome_ofName?.mp (checkNames_ok.mp hnames e he)
        exact absurd hb (hunknown b)
      · exact hf
    exact ⟨f, checkNames_error.mp hf⟩
  · rintro f ⟨_, _, _, -, -, -, rfl⟩
    rfl
  · obtain ⟨r, hr, hlast⟩ := exists_ofNamed h
    refine ⟨r, hr, toNamed_sublist r, fun s n => ?_⟩
    rw [mem_toNamed]
    exact and_congr_right fun hn =>
      exists_congr fun b => and_congr_right fun _ => hlast b n hn

/-- A table that names the mass twice, the second time with a sharp s, and a length of exponent
zero. -/
theorem namedDimension_toNamed_mass :
    let es : List (String × Int) := [("Mass", 5), ("time", -2), ("LENGTH", 0), ("maß", 1)]
    (∀ e ∈ es, ∃ b : BaseDimension, Text.capitals e.1 = Text.capitals b.name) ∧
    ∃ r, (Value.ofExponents es).namedDimension = .ok r ∧
      r.toNamed = [("mass", 1), ("time", -2)] ∧
      ∀ s n, (s, n) ∈ r.toNamed ↔ n ≠ 0 ∧ ∃ b : BaseDimension, s = b.name ∧ IsLast es b n := by
  intro es
  have hknown : ∀ e ∈ es, ∃ b : BaseDimension, Text.capitals e.1 = Text.capitals b.name := by
    have hnames : ∀ e ∈ es, (BaseDimension.ofName? e.1).isSome = true := by decide
    exact fun e he => BaseDimension.isSome_ofName?.mp (hnames e he)
  have hread : (Value.ofExponents es).namedDimension =
      .ok (base .mass / base .time ^ (2 : Int)) := by decide
  obtain ⟨r, hr, -, hmem⟩ := (namedDimension_toNamed 1 es).2.2 hknown
  obtain rfl := Except.ok.inj (hr.symm.trans hread)
  exact ⟨hknown, _, hread, by decide, hmem⟩

end Dimension

end Quantities
