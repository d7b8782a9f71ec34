import Mathlib.Logic.Relation
import Quantities.Proofs.Number.Positive
import Quantities.Proofs.Outcome
import Quantities.Value.Table

/-!
# Insertions

An insertion adds one key to one of the tables of a registry, and whatever is added was judged
before: a name is new, a unit is sound, the target of another name is a unit, a factor is positive.

* `Inserts` says all that a single insertion can do, and `Reaches` several of them one after the
  other.
* `register_ok` and the lemmas beside it: what is asked of the arguments of an insertion, and what
  becomes of the registry.
* `inserts_register` and the lemmas beside it: the ways to insert one thing are insertions when they
  succeed. `registerValues_ok` and those beside it say which of these ways is taken where the
  arguments are values.
* **`reaches_insertAll`**: what inserts several things ends after some insertions, whether it fails
  or not.
-/

namespace Quantities

namespace UnitEntry

variable {α : Type} [Scalar α] {e : UnitEntry α}

/-- A unit that was judged has a positive, finite scale and a finite offset. -/
structure IsSound (e : UnitEntry α) : Prop where
  scale : Scalar.isFactor e.scale = true
  offset : Scalar.isFinite e.offset = true

theorem make_ok {symbol : String} {scale offset : α} {d : Dimension} :
    make symbol scale d offset = .ok e ↔ Scalar.isFactor scale = true ∧
      Scalar.isFinite offset = true ∧ e = ⟨symbol, scale, d, offset, .number⟩ := by
  unfold make
  constructor
  · intro h
    split at h
    · exact nomatch h
    rename_i hscale
    split at h
    · exact nomatch h
    rename_i hoffset
    exact ⟨by simpa using hscale, by simpa using hoffset, (Except.ok.inj h).symm⟩
  · rintro ⟨hscale, hoffset, rfl⟩
    rw [hscale, hoffset]
    rfl

theorem isSound_make {symbol : String} {scale offset : α} {d : Dimension}
    (h : make symbol scale d offset = .ok e) : e.IsSound := by
  obtain ⟨hscale, hoffset, rfl⟩ := make_ok.mp h
  exact ⟨hscale, hoffset⟩

end UnitEntry

namespace Registry

variable {α : Type} [Scalar α] {reg reg' : Registry α}

/-- A stored name that stands for nothing. -/
structure IsFree (reg : Registry α) (n : Name) : Prop where
  unit : reg.unitAt? n = none
  target : reg.target? n = none

/-- The second registry is the first one with one more key in one of its tables. -/
inductive Inserts (reg : Registry α) : Registry α → Prop
  | unit {e : UnitEntry α} (s : String) (symbol : e.symbol = normalize s) (ne : e.symbol ≠ "")
      (free : reg.IsFree (.text e.symbol)) (sound : e.IsSound) :
      Inserts reg { reg with units := reg.units ++ [(e.symbol, e)] }
  | name {n : Name} {target : String} (known : (reg.units.lookup target).isSome)
      (free : reg.IsFree n.normalized) :
      Inserts reg { reg with aliases := reg.aliases ++ [(n.normalized, target)] }
  | factor {s : String} {x : α} (ne : normalize s ≠ "")
      (free : reg.prefixes.lookup (normalize s) = none) (positive : Scalar.isFactor x = true) :
      Inserts reg { reg with prefixes := reg.prefixes ++ [(normalize s, x)] }

/-- The second registry is the first one after some insertions. -/
abbrev Reaches : Registry α → Registry α → Prop := Relation.ReflTransGen Inserts

omit [Scalar α] in
theorem checkFree_ok {n : Name} : reg.checkFree n = .ok () ↔ reg.IsFree n := by
  unfold checkFree
  constructor
  · intro h
    split at h
    · exact nomatch h
    rename_i hunit
    split at h
    · exact nomatch h
    rename_i htarget
    exact ⟨by simpa using hunit, by simpa using htarget⟩
  · rintro ⟨hunit, htarget⟩
    rw [hunit, htarget]
    rfl

omit [Scalar α] in
/-- What is asked of a unit that is registered, and what the registry becomes. -/
theorem register_ok {e : UnitEntry α} : reg.register e = .ok reg' ↔
    normalize e.symbol ≠ "" ∧ reg.IsFree (.text (normalize e.symbol)) ∧
      reg' = { reg with units :=
        reg.units ++ [(normalize e.symbol, { e with symbol := normalize e.symbol })] } := by
  unfold register
  simp only
  constructor
  · intro h
    split at h
    · exact nomatch h
    rename_i hne
    obtain ⟨_, hfree, h⟩ := Outcome.bind_ok.mp h
    exact ⟨hne, checkFree_ok.mp hfree, (Except.ok.inj h).symm⟩
  · rintro ⟨hne, hfree, rfl⟩
    rw [if_neg hne, checkFree_ok.mpr hfree]
    rfl

omit [Scalar α] in
theorem registerName_ok {n : Name} {target : String} : reg.registerName n target = .ok reg' ↔
    (reg.units.lookup (normalize target)).isSome ∧ reg.IsFree n.normalized ∧
      reg' = { reg with aliases := reg.aliases ++ [(n.normalized, normalize target)] } := by
  unfold registerName
  simp only
  constructor
  · intro h
    split at h
    · exact nomatch h
    rename_i hknown
    obtain ⟨_, hfree, h⟩ := Outcome.bind_ok.mp h
    exact ⟨by simpa [Option.isSome_iff_ne_none] using hknown, checkFree_ok.mp hfree,
      (Except.ok.inj h).symm⟩
  · rintro ⟨hknown, hfree, rfl⟩
    obtain ⟨e, he⟩ := Option.isSome_iff_exists.mp hknown
    rw [he, checkFree_ok.mpr hfree]
    rfl

theorem registerPrefix_ok {symbol : String} {x : α} : reg.registerPrefix symbol x = .ok reg' ↔
    normalize symbol ≠ "" ∧ reg.prefixes.lookup (normalize symbol) = none ∧
      Scalar.isFactor x = true ∧
        reg' = { reg with prefixes := reg.prefixes ++ [(normalize symbol, x)] } := by
  unfold registerPrefix
  simp only
  constructor
  · intro h
    split at h
    · exact nomatch h
    rename_i hne
    split at h
    · exact nomatch h
    rename_i hfactor
    split at h
    · exact nomatch h
    rename_i hfree
    exact ⟨hne, Option.not_isSome_iff_eq_none.mp hfree, by simpa using hfactor,
      (Except.ok.inj h).symm⟩
  · rintro ⟨hne, hfree, hfactor, rfl⟩
    rw [if_neg hne, hfactor, hfree]
    rfl

/-- A unit that is defined by others is judged as one that is given, and registered. -/
theorem define_ok {symbol : String} {magnitude : Outcome (Magnitude α)}
    {text : Outcome (Option String)} {offset : Outcome α} {e : UnitEntry α}
    (h : reg.define symbol magnitude text offset = .ok (reg', e)) :
    (∃ scale d offset, UnitEntry.make (normalize symbol) scale d offset = .ok e) ∧
      reg.register e = .ok reg' := by
  obtain ⟨e', hdefinition, h⟩ := Outcome.bind_ok.mp h
  obtain ⟨reg'', hregister, h⟩ := Outcome.bind_ok.mp h
  obtain ⟨rfl, rfl⟩ := Prod.mk.inj (Except.ok.inj h)
  refine ⟨?_, hregister⟩
  obtain ⟨_, -, hunit⟩ := Outcome.bind_ok.mp hdefinition
  obtain ⟨_, -, hunit⟩ := Outcome.bind_ok.mp hunit
  obtain ⟨q, -, hunit⟩ := Outcome.bind_ok.mp hunit
  split at hunit
  · exact nomatch hunit
  · split at hunit
    · exact nomatch hunit
    · obtain ⟨_, -, hunit⟩ := Outcome.bind_ok.mp hunit
      exact ⟨_, _, _, hunit⟩

theorem inserts_register {e : UnitEntry α} (h : reg.register e = .ok reg') (he : e.IsSound) :
    Inserts reg reg' := by
  obtain ⟨hne, hfree, rfl⟩ := register_ok.mp h
  exact .unit (e := { e with symbol := normalize e.symbol }) e.symbol rfl hne hfree
    ⟨he.scale, he.offset⟩

theorem inserts_registerName {n : Name} {target : String}
    (h : reg.registerName n target = .ok reg') : Inserts reg reg' := by
  obtain ⟨hknown, hfree, rfl⟩ := registerName_ok.mp h
  exact .name hknown hfree

theorem inserts_registerPrefix {symbol : String} {x : α}
    (h : reg.registerPrefix symbol x = .ok reg') : Inserts reg reg' := by
  obtain ⟨hne, hfree, hfactor, rfl⟩ := registerPrefix_ok.mp h
  exact .factor hne hfree hfactor

theorem inserts_define {symbol : String} {magnitude : Outcome (Magnitude α)}
    {text : Outcome (Option String)} {offset : Outcome α} {e : UnitEntry α}
    (h : reg.define symbol magnitude text offset = .ok (reg', e)) : Inserts reg reg' := by
  obtain ⟨⟨_, _, _, he⟩, hregister⟩ := define_ok h
  exact inserts_register hregister (UnitEntry.isSound_make he)

theorem inserts_insert {i : Insertion α} (h : reg.insert i = .ok reg') : Inserts reg reg' := by
  cases i with
  | unit symbol scale dimension offset =>
    obtain ⟨e, he, h⟩ := Outcome.bind_ok.mp h
    exact inserts_register h (UnitEntry.isSound_make he)
  | otherName name target => exact inserts_registerName h
  | prefixFactor symbol factor =>
    have h : reg.registerPrefix symbol factor = .ok reg' := h
    exact inserts_registerPrefix h
  | definition symbol magnitude text offset =>
    obtain ⟨⟨reg'', e⟩, hdefine, h⟩ := Outcome.bind_ok.mp h
    obtain rfl := Except.ok.inj h
    exact inserts_define hdefine

/-- Several things are inserted when each of them can be read and inserted in its turn. -/
theorem insertAll_ok : ∀ {steps : List (Outcome (Insertion α))} {reg reg' : Registry α},
    reg.insertAll steps = (reg', .ok ()) ↔
      steps.foldlM (fun reg step => step >>= reg.insert) reg = .ok reg'
  | [], reg, reg' => by
    constructor
    · intro h
      exact congrArg Except.ok (congrArg Prod.fst h)
    · intro h
      exact congrArg (·, _) (Except.ok.inj h)
  | step :: steps, reg, reg' => by
    unfold insertAll
    rw [List.foldlM_cons]
    cases step >>= reg.insert with
    | ok reg₁ => exact insertAll_ok
    | error f =>
      constructor
      · intro h
        exact nomatch (Prod.mk.inj h).2
      · intro h
        exact nomatch h

/-- What is inserted before a failure stays. -/
theorem reaches_insertAll : ∀ (steps : List (Outcome (Insertion α))) (reg : Registry α),
    Reaches reg (reg.insertAll steps).1
  | [], _ => .refl
  | step :: steps, reg => by
    unfold insertAll
    split
    · rename_i reg' h
      obtain ⟨i, -, hi⟩ := Outcome.bind_ok.mp h
      exact .head (inserts_insert hi) (reaches_insertAll steps reg')
    · exact .refl

end Registry

/-! ## Values -/

namespace Registry

variable {reg reg' : Registry Float}

theorem isSound_unitOfValues {symbol scale dimension offset : Value} {e : UnitEntry Float}
    (h : unitOfValues symbol scale dimension offset = .ok e) : e.IsSound := by
  obtain ⟨exponents, -, h⟩ := Outcome.bind_ok.mp h
  by_cases hcount : exponents.length ≠ BaseDimension.all.length
  · rw [if_pos hcount] at h
    exact nomatch h
  rw [if_neg hcount] at h
  obtain ⟨isFactor, hscale, h⟩ := Outcome.bind_ok.mp h
  cases isFactor with
  | false => exact nomatch h
  | true =>
    obtain ⟨isFinite, hoffset, h⟩ := Outcome.bind_ok.mp h
    cases isFinite with
    | false => exact nomatch h
    | true =>
      obtain ⟨x, hx, h⟩ := Outcome.bind_ok.mp h
      obtain ⟨y, hy, h⟩ := Outcome.bind_ok.mp h
      obtain rfl := Except.ok.inj h
      exact ⟨Value.isFactor_number hscale hx, Value.isFinite_number hoffset hy⟩

theorem registerValues_ok {symbol scale dimension offset : Value}
    (h : reg.registerValues symbol scale dimension offset = .ok reg') :
    ∃ e : UnitEntry Float, e.IsSound ∧ reg.register e = .ok reg' := by
  obtain ⟨e, he, h⟩ := Outcome.bind_ok.mp h
  split at h
  · exact ⟨e, isSound_unitOfValues he, h⟩
  · exact nomatch h

theorem registerNameValue_ok {name target : Value}
    (h : reg.registerNameValue name target = .ok reg') :
    ∃ i, Table.otherNameOf name target = .ok i ∧ reg.insert i = .ok reg' := by
  unfold registerNameValue at h
  split at h
  · split at h <;> exact nomatch h
  · exact Outcome.bind_ok.mp h

theorem registerPrefixValue_ok {symbol factor : Value}
    (h : reg.registerPrefixValue symbol factor = .ok reg') :
    ∃ s x, reg.registerPrefix s x = .ok reg' := by
  obtain ⟨key, -, h⟩ := Outcome.bind_ok.mp h
  split at h
  · split at h
    · exact nomatch h
    obtain ⟨_, -, h⟩ := Outcome.bind_ok.mp h
    split at h
    · exact nomatch h
    obtain ⟨x, -, h⟩ := Outcome.bind_ok.mp h
    exact ⟨_, x, h⟩
  · exact nomatch h

/-- A definition by values is one by what they read as, of a symbol that is a text. -/
theorem define_of_defineValues {symbol magnitude unit offset : Value} {e : UnitEntry Float}
    (h : reg.defineValues symbol magnitude unit offset = .ok (reg', e)) :
    ∃ s, symbol.key = .ok (.text s) ∧
      reg.define s magnitude.magnitude unit.unitText offset.number = .ok (reg', e) := by
  obtain ⟨key, hkey, h⟩ := Outcome.bind_ok.mp h
  split at h
  · exact ⟨_, hkey, h⟩
  · obtain ⟨_, -, h⟩ := Outcome.bind_ok.mp h
    obtain ⟨_, -, h⟩ := Outcome.bind_ok.mp h
    exact nomatch h

/-- A definition through the namespace is a definition. -/
theorem defineValues_of_defineMemberValues {symbol magnitude unit offset : Value}
    (h : reg.defineMemberValues symbol magnitude unit offset = .ok reg') :
    ∃ e, reg.defineValues symbol magnitude unit offset = .ok (reg', e) := by
  unfold defineMemberValues at h
  cases hkey : symbol.isKey with
  | false => rw [hkey] at h; exact nomatch h
  | true =>
    rw [hkey] at h
    simp only [Bool.not_true, Bool.false_eq_true, if_false] at h
    split at h
    · unfold defineMember at h
      split at h
      · exact nomatch h
      obtain ⟨⟨reg'', e⟩, hdefine, h⟩ := Outcome.bind_ok.mp h
      obtain rfl := Except.ok.inj h
      exact ⟨e, hdefine⟩
    · obtain ⟨⟨reg'', e⟩, hdefine, h⟩ := Outcome.bind_ok.mp h
      obtain rfl := Except.ok.inj h
      exact ⟨e, hdefine⟩

theorem inserts_registerValues {symbol scale dimension offset : Value}
    (h : reg.registerValues symbol scale dimension offset = .ok reg') : Inserts reg reg' := by
  obtain ⟨e, he, hregister⟩ := registerValues_ok h
  exact inserts_register hregister he

theorem inserts_registerNameValue {name target : Value}
    (h : reg.registerNameValue name target = .ok reg') : Inserts reg reg' := by
  obtain ⟨i, -, hinsert⟩ := registerNameValue_ok h
  exact inserts_insert hinsert

theorem inserts_registerPrefixValue {symbol factor : Value}
    (h : reg.registerPrefixValue symbol factor = .ok reg') : Inserts reg reg' := by
  obtain ⟨s, x, hregister⟩ := registerPrefixValue_ok h
  exact inserts_registerPrefix hregister

theorem inserts_defineValues {symbol magnitude unit offset : Value} {e : UnitEntry Float}
    (h : reg.defineValues symbol magnitude unit offset = .ok (reg', e)) : Inserts reg reg' := by
  obtain ⟨s, -, hdefine⟩ := define_of_defineValues h
  exact inserts_define hdefine

theorem inserts_defineMemberValues {symbol magnitude unit offset : Value}
    (h : reg.defineMemberValues symbol magnitude unit offset = .ok reg') : Inserts reg reg' := by
  obtain ⟨e, hdefine⟩ := defineValues_of_defineMemberValues h
  exact inserts_defineValues hdefine

theorem reaches_load (reg : Registry Float) (text : String) :
    Reaches reg (reg.load text).1 := by
  unfold load
  split
  · exact .refl
  · exact reaches_insertAll _ reg

end Registry

end Quantities
