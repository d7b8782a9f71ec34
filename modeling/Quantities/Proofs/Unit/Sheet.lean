import Quantities.Proofs.Dimension.Named
import Quantities.Proofs.Unit.Listing

/-!
# Tables of units

A table of units is in shape when it is a table of tables as a document of units is: prefixes with
their values, and units each of which has named dimensions and a list of texts for other names. What
is in shape is read as a `Sheet`, which does not say yet whether the values are any good.

* `Spec.Describes`: a unit of a sheet is sound, and is this unit.
* `Sheet.Loads`: all that is asked of a sheet: of each of its values alone, and of its names.
* `Registry.Takes`: the same of what the sheet is read as; `loads_iff` says that this is the same.
* `insertAll_ofDocument`: when a table in shape is inserted.
* `Loaded`: what becomes of a registry then.

Main result:
* **`load_ok`**: a document in shape is loaded exactly when its sheet loads, and the registry is then
  what it should be.
-/

namespace Quantities

/-! ## Tables in shape -/

namespace Table

/-- The entries of a member that is a table, or missing. -/
def entries? : Option Value → Option (List (String × Value))
  | none => some []
  | some (.mapping es) => some es
  | some _ => none

/-- The text that a value is. -/
def text? : Value → Option String
  | .text s => some s
  | _ => none

/-- The texts of a member that is a list of texts, or missing. -/
def texts? : Option Value → Option (List String)
  | none => some []
  | some (.list vs) => vs.mapM text?
  | some _ => none

/-- What a table says about a unit. -/
structure Spec where
  scale : Option Value
  dimensions : List (String × Value)
  offset : Value
  names : List String

/-- What a value says about a unit, if it is in shape. -/
def Spec.of? : Value → Option Spec
  | .mapping es => do
    let dimensions ← entries? (es.lookup "dimensions")
    let names ← texts? (es.lookup "aliases")
    some ⟨es.lookup "scale", dimensions, (es.lookup "offset").getD (.real 0), names⟩
  | _ => none

/-- What a table says: prefixes, and units under their symbols. -/
structure Sheet where
  prefixes : List (String × Value)
  units : List (String × Spec)

/-- What the entries of a table say about units, if all of them are in shape. -/
def specs? (es : List (String × Value)) : Option (List (String × Spec)) :=
  es.mapM fun e => (Spec.of? e.2).map fun spec => (e.1, spec)

/-- What a value says, if it is a table in shape. -/
def Sheet.of? : Value → Option Sheet
  | .mapping es => do
    let prefixes ← entries? (es.lookup "prefixes")
    let units ← entries? (es.lookup "units")
    some ⟨prefixes, ← specs? units⟩
  | _ => none

/-! ## What is asked of a table -/

/-- The unit that a specification describes under a symbol, as it is stored: a positive, finite
scale, a finite offset, and known base dimensions with integral exponents. -/
structure Spec.Describes (spec : Spec) (symbol : String) (e : UnitEntry Float) : Prop where
  symbol : e.symbol = normalize symbol
  scale : ∃ v, spec.scale = some v ∧ v.number = .ok e.scale
  positive : Scalar.isFactor e.scale = true
  known : ∀ d ∈ spec.dimensions, (BaseDimension.ofName? d.1).isSome = true
  exponent : ∀ b, Dimension.HasExponent Value.exponent spec.dimensions b (e.dimension.exponent b)
  offset : spec.offset.number = .ok e.offset
  finite : Scalar.isFinite e.offset = true
  form : e.form = .number

/-- The symbols and the other names of a sheet as they are stored. -/
def Sheet.names (s : Sheet) : List String :=
  s.units.flatMap fun u => normalize u.1 :: u.2.names.map normalize

/-- All that is asked of a sheet for a registry. -/
structure Sheet.Loads (s : Sheet) (reg : Registry Float) : Prop where
  /-- Every prefix has a symbol and a positive, finite factor. -/
  factor : ∀ p ∈ s.prefixes,
    normalize p.1 ≠ "" ∧ ∃ x, p.2.number = .ok x ∧ Scalar.isFactor x = true
  /-- The symbols of the prefixes are distinct and new. -/
  prefixKeys : (s.prefixes.map fun p => normalize p.1).Nodup
  prefixFree : ∀ p ∈ s.prefixes, reg.prefixes.lookup (normalize p.1) = none
  /-- Every unit has a symbol and is sound. -/
  unit : ∀ u ∈ s.units, normalize u.1 ≠ "" ∧ ∃ e, u.2.Describes u.1 e
  /-- The symbols and the other names together are distinct and new. -/
  nameKeys : s.names.Nodup
  nameFree : ∀ k ∈ s.names, reg.IsFree (.text k)

/-! ## Reading -/

/-- The prefix that an entry of a sheet says. -/
def readPrefix (p : String × Value) : Outcome (String × Float) := do
  .ok (p.1, ← p.2.number)

/-- The unit that a specification says. -/
def Spec.read (spec : Spec) (symbol : String) : Outcome (Listing Float) :=
  match spec.scale with
  | none => .error (.missingScale symbol)
  | some v => do
    let d ← Dimension.ofNamed Value.exponent spec.dimensions
    let scale ← v.number
    let offset ← spec.offset.number
    .ok ⟨symbol, scale, d, offset, spec.names⟩

variable {spec : Spec} {symbol : String} {v : Value} {l : Listing Float} {sheet : Sheet}

theorem readPrefix_ok {p : String × Value} {q : String × Float} :
    readPrefix p = .ok q ↔ q.1 = p.1 ∧ p.2.number = .ok q.2 := by
  unfold readPrefix
  rw [Outcome.bind_ok]
  constructor
  · rintro ⟨x, hx, h⟩
    obtain rfl := Except.ok.inj h
    exact ⟨rfl, hx⟩
  · rintro ⟨hname, hx⟩
    exact ⟨q.2, hx, by rw [← hname]⟩

theorem readPrefix_valid {p : String × Value} :
    (∃ q, readPrefix p = .ok q ∧ normalize q.1 ≠ "" ∧ Scalar.isFactor q.2 = true) ↔
      normalize p.1 ≠ "" ∧ ∃ x, p.2.number = .ok x ∧ Scalar.isFactor x = true := by
  constructor
  · rintro ⟨q, hq, hne, hfactor⟩
    obtain ⟨hname, hx⟩ := readPrefix_ok.mp hq
    exact ⟨hname ▸ hne, q.2, hx, hfactor⟩
  · rintro ⟨hne, x, hx, hfactor⟩
    exact ⟨(p.1, x), readPrefix_ok.mpr ⟨rfl, hx⟩, hne, hfactor⟩

theorem Spec.read_ok : spec.read symbol = .ok l ↔ (l.symbol = symbol ∧ l.names = spec.names) ∧
    (∃ v, spec.scale = some v ∧ v.number = .ok l.scale) ∧
      Dimension.ofNamed Value.exponent spec.dimensions = .ok l.dimension ∧
        spec.offset.number = .ok l.offset := by
  unfold Spec.read
  constructor
  · intro h
    split at h
    · exact nomatch h
    rename_i v hv
    obtain ⟨d, hd, h⟩ := Outcome.bind_ok.mp h
    obtain ⟨x, hx, h⟩ := Outcome.bind_ok.mp h
    obtain ⟨o, ho, h⟩ := Outcome.bind_ok.mp h
    obtain rfl := Except.ok.inj h
    exact ⟨⟨rfl, rfl⟩, ⟨v, hv, hx⟩, hd, ho⟩
  · rintro ⟨⟨rfl, hnames⟩, ⟨v, hv, hx⟩, hd, ho⟩
    rw [hv]
    refine Outcome.bind_ok.mpr ⟨_, hd, Outcome.bind_ok.mpr ⟨_, hx, Outcome.bind_ok.mpr ⟨_, ho, ?_⟩⟩⟩
    rw [← hnames]

/-- What a specification describes is what it is read as, where that is valid. -/
theorem Spec.describes_iff {e : UnitEntry Float} :
    (normalize symbol ≠ "" ∧ spec.Describes symbol e) ↔
      ∃ l, spec.read symbol = .ok l ∧ l.IsValid ∧ l.entry = e := by
  constructor
  · rintro ⟨hne, hsymbol, hscale, hpositive, hknown, hexponent, hoffset, hfinite, hform⟩
    refine ⟨⟨symbol, e.scale, e.dimension, e.offset, spec.names⟩, Spec.read_ok.mpr
      ⟨⟨rfl, rfl⟩, hscale, Dimension.ofNamed_ok.mpr ⟨hknown, hexponent⟩, hoffset⟩,
      ⟨hne, hpositive, hfinite⟩, ?_⟩
    obtain ⟨s, x, d, o, f⟩ := e
    obtain rfl : s = normalize symbol := hsymbol
    obtain rfl : f = .number := hform
    rfl
  · rintro ⟨l, hread, ⟨hne, hpositive, hfinite⟩, rfl⟩
    obtain ⟨⟨rfl, -⟩, hscale, hd, hoffset⟩ := Spec.read_ok.mp hread
    obtain ⟨hknown, hexponent⟩ := Dimension.ofNamed_ok.mp hd
    exact ⟨hne, rfl, hscale, hpositive, hknown, hexponent, hoffset, hfinite, rfl⟩

theorem Spec.read_valid : (∃ l, spec.read symbol = .ok l ∧ l.IsValid) ↔
    normalize symbol ≠ "" ∧ ∃ e, spec.Describes symbol e := by
  constructor
  · rintro ⟨l, hl, hvalid⟩
    obtain ⟨hne, he⟩ := Spec.describes_iff.mpr ⟨l, hl, hvalid, rfl⟩
    exact ⟨hne, l.entry, he⟩
  · rintro ⟨hne, e, he⟩
    obtain ⟨l, hl, hvalid, -⟩ := Spec.describes_iff.mp ⟨hne, he⟩
    exact ⟨l, hl, hvalid⟩

/-! ## The insertions of a table in shape -/

/-- All members are read, one by one. -/
theorem mapM_eq_some {β γ : Type} {f : β → Option γ} :
    ∀ {bs : List β} {cs : List γ}, bs.mapM f = some cs ↔ List.Forall₂ (fun b c => f b = some c) bs cs
  | [], cs => by
    rw [List.mapM_nil, List.forall₂_nil_left_iff]
    exact ⟨fun h => (Option.some.inj h).symm, fun h => congrArg some h.symm⟩
  | b :: bs, cs => by
    rw [List.mapM_cons, List.forall₂_cons_left_iff]
    constructor
    · intro h
      obtain ⟨c, hc, h⟩ := Option.bind_eq_some_iff.mp h
      obtain ⟨cs, hcs, h⟩ := Option.bind_eq_some_iff.mp h
      exact ⟨c, cs, hc, mapM_eq_some.mp hcs, (Option.some.inj h).symm⟩
    · rintro ⟨c, cs, hc, hcs, rfl⟩
      rw [hc, mapM_eq_some.mpr hcs]
      rfl

theorem entries?_eq_some {v? : Option Value} {es : List (String × Value)}
    (h : entries? v? = some es) : v?.getD (.mapping []) = .mapping es := by
  unfold entries? at h
  split at h
  · rw [← Option.some.inj h]
    rfl
  · rw [← Option.some.inj h]
    rfl
  · exact nomatch h

theorem mapM_text? {vs : List Value} {names : List String} :
    vs.mapM text? = some names ↔ vs = names.map Value.text := by
  have htext : ∀ v s, text? v = some s ↔ v = .text s := by
    intro v s
    unfold text?
    split <;> simp_all
  simp only [mapM_eq_some, htext]
  rw [← List.forall₂_map_right_iff, List.forall₂_eq_eq_eq]

theorem specs?_eq_some {es : List (String × Value)} {units : List (String × Spec)} :
    specs? es = some units ↔
      List.Forall₂ (fun e u => e.1 = u.1 ∧ Spec.of? e.2 = some u.2) es units := by
  have hentry : ∀ (e : String × Value) (u : String × Spec),
      ((Spec.of? e.2).map fun spec => (e.1, spec)) = some u ↔
        e.1 = u.1 ∧ Spec.of? e.2 = some u.2 := by
    intro e u
    rw [Option.map_eq_some_iff]
    constructor
    · rintro ⟨spec, hspec, rfl⟩
      exact ⟨rfl, hspec⟩
    · rintro ⟨hname, hspec⟩
      exact ⟨u.2, hspec, by rw [hname]⟩
  unfold specs?
  simp only [mapM_eq_some, hentry]

/-- The members of a value that says something about a unit. -/
theorem Spec.of?_eq_some : Spec.of? v = some spec ↔ ∃ es, v = .mapping es ∧
    spec.scale = es.lookup "scale" ∧ entries? (es.lookup "dimensions") = some spec.dimensions ∧
      spec.offset = (es.lookup "offset").getD (.real 0) ∧
        texts? (es.lookup "aliases") = some spec.names := by
  constructor
  · intro h
    unfold Spec.of? at h
    split at h
    · rename_i es
      obtain ⟨dimensions, hdimensions, h⟩ := Option.bind_eq_some_iff.mp h
      obtain ⟨names, hnames, h⟩ := Option.bind_eq_some_iff.mp h
      obtain rfl := Option.some.inj h
      exact ⟨es, rfl, rfl, hdimensions, rfl, hnames⟩
    · exact nomatch h
  · rintro ⟨es, rfl, hscale, hdimensions, hoffset, hnames⟩
    refine Option.bind_eq_some_iff.mpr ⟨_, hdimensions, Option.bind_eq_some_iff.mpr ⟨_, hnames, ?_⟩⟩
    rw [← hscale, ← hoffset]

theorem Sheet.of?_eq_some : Sheet.of? v = some sheet ↔ ∃ es units, v = .mapping es ∧
    entries? (es.lookup "prefixes") = some sheet.prefixes ∧
      entries? (es.lookup "units") = some units ∧ specs? units = some sheet.units := by
  constructor
  · intro h
    unfold Sheet.of? at h
    split at h
    · rename_i es
      obtain ⟨prefixes, hprefixes, h⟩ := Option.bind_eq_some_iff.mp h
      obtain ⟨units, hunits, h⟩ := Option.bind_eq_some_iff.mp h
      obtain ⟨specs, hspecs, h⟩ := Option.bind_eq_some_iff.mp h
      obtain rfl := Option.some.inj h
      exact ⟨es, units, rfl, hprefixes, hunits, hspecs⟩
    · exact nomatch h
  · rintro ⟨es, units, rfl, hprefixes, hunits, hspecs⟩
    refine Option.bind_eq_some_iff.mpr ⟨_, hprefixes, Option.bind_eq_some_iff.mpr ⟨_, hunits, ?_⟩⟩
    rw [hspecs]
    rfl

theorem sectionOf_eq {es ss : List (String × Value)} {name : String}
    (h : entries? (es.lookup name) = some ss) : sectionOf (.mapping es) name = .ok ss := by
  have hmember : memberOr (.mapping es) name (.mapping []) = .ok (.mapping ss) :=
    congrArg Except.ok (entries?_eq_some h)
  rw [sectionOf, hmember]
  rfl

/-- A unit of a table in shape is read as its specification. -/
theorem unitOf_eq (h : Spec.of? v = some spec) (symbol : String) :
    unitOf symbol v = spec.read symbol >>= fun l =>
      .ok (.unit l.symbol l.scale l.dimension l.offset) := by
  obtain ⟨es, rfl, hscale, hdimensions, hoffset, -⟩ := Spec.of?_eq_some.mp h
  have hmember : ∀ name other,
      memberOr (.mapping es) name other = .ok ((es.lookup name).getD other) := fun _ _ => rfl
  have hhas : hasScale (.mapping es) = .ok (es.lookup "scale").isSome := rfl
  have hnamed : Value.namedDimension (.mapping spec.dimensions) =
      Dimension.ofNamed Value.exponent spec.dimensions := rfl
  unfold unitOf Spec.read
  rw [hhas, hscale, hmember, hmember, hmember, entries?_eq_some hdimensions, ← hoffset]
  cases es.lookup "scale" with
  | none => rfl
  | some w =>
    simp only [bind, Except.bind, hnamed, Option.isSome_some, Option.getD_some]
    cases Dimension.ofNamed Value.exponent spec.dimensions with
    | error f => rfl
    | ok d =>
      cases w.number with
      | error f => rfl
      | ok x =>
        cases spec.offset.number with
        | error f => rfl
        | ok o => rfl

theorem otherNamesOf_eq (h : Spec.of? v = some spec) (symbol : String) :
    otherNamesOf symbol v = spec.names.map fun n => .ok (.otherName (.text n) symbol) := by
  obtain ⟨es, rfl, -, -, -, hnames⟩ := Spec.of?_eq_some.mp h
  have hmember : memberOr (.mapping es) "aliases" (.tuple []) =
      .ok ((es.lookup "aliases").getD (.tuple [])) := rfl
  unfold otherNamesOf
  rw [hmember]
  unfold texts? at hnames
  split at hnames
  · rename_i hnone
    rw [hnone, ← Option.some.inj hnames]
    rfl
  · rename_i vs hsome
    rw [hsome, mapM_text?.mp hnames]
    exact List.map_map
  · exact nomatch hnames

end Table

/-! ## When a table is inserted -/

namespace Registry

open Table

variable {reg reg' : Registry Float} {sheet : Sheet} {v : Value}

/-- All that is asked of prefixes, and of units with their other names, that are to be inserted. -/
structure Takes (reg : Registry Float) (ps : List (String × Float)) (ls : List (Listing Float)) :
    Prop where
  factor : ∀ p ∈ ps, normalize p.1 ≠ "" ∧ Scalar.isFactor p.2 = true
  prefixKeys : (ps.map fun p => normalize p.1).Nodup
  prefixFree : ∀ p ∈ ps, reg.prefixes.lookup (normalize p.1) = none
  unit : ∀ l ∈ ls, l.IsValid
  fresh : reg.Fresh ls

/-- The insertions of one unit of a table, one after the other. -/
theorem foldlM_unit {spec : Spec} (h : Spec.of? v = some spec) (symbol : String)
    (reg : Registry Float) :
    (unitOf symbol v :: otherNamesOf symbol v).foldlM (fun reg step => step >>= reg.insert) reg =
      spec.read symbol >>= reg.list := by
  rw [List.foldlM_cons, unitOf_eq h, otherNamesOf_eq h]
  simp only [List.foldlM_map]
  cases hread : spec.read symbol with
  | error f => rfl
  | ok l =>
    obtain ⟨⟨hsymbol, hnames⟩, -⟩ := Spec.read_ok.mp hread
    rw [← hsymbol, ← hnames]
    rfl

theorem foldlM_ofPrefixes (ps : List (String × Value)) (reg : Registry Float) :
    (ofPrefixes ps).foldlM (fun reg step => step >>= reg.insert) reg =
      ps.foldlM (fun reg p => readPrefix p >>= fun q => reg.registerPrefix q.1 q.2) reg := by
  rw [ofPrefixes, List.foldlM_map]
  refine Outcome.foldlM_congr (List.forall₂_same.mpr fun p _ reg => ?_) reg
  unfold readPrefix
  cases p.2.number <;> rfl

theorem foldlM_ofUnits {es : List (String × Value)} {units : List (String × Spec)}
    (h : specs? es = some units) (reg : Registry Float) :
    (ofUnits es).foldlM (fun reg step => step >>= reg.insert) reg =
      units.foldlM (fun reg u => u.2.read u.1 >>= reg.list) reg := by
  rw [ofUnits, Outcome.foldlM_flatMap]
  refine Outcome.foldlM_congr ((specs?_eq_some.mp h).imp fun e u heu reg => ?_) reg
  rw [heu.1]
  exact foldlM_unit heu.2 u.1 reg

/-- **When a table in shape is inserted**, and what the registry becomes. -/
theorem insertAll_ofDocument (h : Sheet.of? v = some sheet) :
    reg.insertAll (ofDocument v) = (reg', .ok ()) ↔ ∃ ps ls,
      sheet.prefixes.mapM readPrefix = .ok ps ∧
        (sheet.units.mapM fun u => u.2.read u.1) = .ok ls ∧ reg.Takes ps ls ∧
          reg' = (reg.prefixed ps).listed ls := by
  obtain ⟨es, units, rfl, hprefixes, hunits, hspecs⟩ := Sheet.of?_eq_some.mp h
  have hdocument : ofDocument (.mapping es) = ofPrefixes sheet.prefixes ++ ofUnits units := by
    rw [ofDocument, sectionOf_eq hprefixes, sectionOf_eq hunits]
  rw [insertAll_ok, hdocument, List.foldlM_append, Outcome.bind_ok]
  simp only [foldlM_ofPrefixes, foldlM_ofUnits hspecs, Outcome.foldlM_read_ok]
  constructor
  · rintro ⟨reg₁, ⟨ps, hps, hprefixed⟩, ls, hls, hlisted⟩
    obtain ⟨hfactor, hkeys, hfree, rfl⟩ := foldlM_registerPrefix.mp hprefixed
    obtain ⟨hvalid, hfresh, rfl⟩ := foldlM_list.mp hlisted
    exact ⟨ps, ls, hps, hls, ⟨hfactor, hkeys, hfree, hvalid, fresh_prefixed.mp hfresh⟩, rfl⟩
  · rintro ⟨ps, ls, hps, hls, ⟨hfactor, hkeys, hfree, hvalid, hfresh⟩, rfl⟩
    exact ⟨_, ⟨ps, hps, foldlM_registerPrefix.mpr ⟨hfactor, hkeys, hfree, rfl⟩⟩, ls, hls,
      foldlM_list.mpr ⟨hvalid, fresh_prefixed.mpr hfresh, rfl⟩⟩

/-- The keys of a sheet are those of what it is read as. -/
theorem keys_of_read {ps : List (String × Float)} {ls : List (Listing Float)}
    (hps : sheet.prefixes.mapM readPrefix = .ok ps)
    (hls : (sheet.units.mapM fun u => u.2.read u.1) = .ok ls) :
    (sheet.prefixes.map fun p => normalize p.1) = (ps.map fun p => normalize p.1) ∧
      sheet.names = ls.flatMap Listing.keys := by
  constructor
  · refine Outcome.map_of_mapM_ok hps fun p q hq => ?_
    rw [(readPrefix_ok.mp hq).1]
  · rw [Sheet.names, List.flatMap_def, List.flatMap_def]
    refine congrArg _ (Outcome.map_of_mapM_ok hls fun u l hl => ?_)
    obtain ⟨⟨hsymbol, hnames⟩, -⟩ := Spec.read_ok.mp hl
    rw [Listing.keys, Listing.key, hsymbol, hnames]

/-- **What is asked of a sheet is asked of what it is read as.** -/
theorem loads_iff : sheet.Loads reg ↔ ∃ ps ls, sheet.prefixes.mapM readPrefix = .ok ps ∧
    (sheet.units.mapM fun u => u.2.read u.1) = .ok ls ∧ reg.Takes ps ls := by
  have hprefixes : (∃ ps, sheet.prefixes.mapM readPrefix = .ok ps ∧
      ∀ q ∈ ps, normalize q.1 ≠ "" ∧ Scalar.isFactor q.2 = true) ↔ ∀ p ∈ sheet.prefixes,
        normalize p.1 ≠ "" ∧ ∃ x, p.2.number = .ok x ∧ Scalar.isFactor x = true := by
    simp only [Outcome.exists_mapM_ok, readPrefix_valid]
  have hunits : (∃ ls, (sheet.units.mapM fun u => u.2.read u.1) = .ok ls ∧ ∀ l ∈ ls, l.IsValid) ↔
      ∀ u ∈ sheet.units, normalize u.1 ≠ "" ∧ ∃ e, u.2.Describes u.1 e := by
    simp only [Outcome.exists_mapM_ok, Spec.read_valid]
  have hfree : ∀ {β : Type} (ps : List (String × β)),
      (∀ p ∈ ps, reg.prefixes.lookup (normalize p.1) = none) ↔
        ∀ k ∈ (ps.map fun p => normalize p.1), reg.prefixes.lookup k = none :=
    fun _ => by rw [List.forall_mem_map]
  constructor
  · rintro ⟨hfactor, hkeys, hnew, hunit, hnodup, hnames⟩
    obtain ⟨ps, hps, hfactor⟩ := hprefixes.mpr hfactor
    obtain ⟨ls, hls, hvalid⟩ := hunits.mpr hunit
    obtain ⟨hprefixKeys, hnameKeys⟩ := keys_of_read hps hls
    rw [hfree, hprefixKeys, ← hfree] at hnew
    exact ⟨ps, ls, hps, hls, hfactor, hprefixKeys ▸ hkeys, hnew, hvalid, hnameKeys ▸ hnodup,
      hnameKeys ▸ hnames⟩
  · rintro ⟨ps, ls, hps, hls, hfactor, hkeys, hnew, hvalid, hfresh⟩
    obtain ⟨hprefixKeys, hnameKeys⟩ := keys_of_read hps hls
    rw [hfree, ← hprefixKeys, ← hfree] at hnew
    exact ⟨hprefixes.mp ⟨ps, hps, hfactor⟩, hprefixKeys ▸ hkeys, hnew, hunits.mp ⟨ls, hls, hvalid⟩,
      hnameKeys ▸ hfresh.nodup, hnameKeys ▸ hfresh.free⟩

/-! ## What becomes of a registry -/

/-- A registry after a table with a sheet was inserted into it. -/
structure Loaded (reg : Registry Float) (sheet : Sheet) (reg' : Registry Float) : Prop where
  size : reg'.size = reg.size + sheet.units.length
  /-- Every unit is found by its symbol and by its other names, as it was described. -/
  unit : ∀ u ∈ sheet.units, ∃ e, u.2.Describes u.1 e ∧ reg'.lookupUnit u.1 = some e ∧
    ∀ n ∈ u.2.names, reg'.lookupUnit n = some e
  factor : ∀ p ∈ sheet.prefixes, ∃ x, p.2.number = .ok x ∧ reg'.lookupPrefix p.1 = some x
  /-- All that was known is known as before. -/
  grows : Grows reg reg'
  /-- All that is not in the sheet is as unknown as before. -/
  otherFactor : ∀ s, normalize s ∉ (sheet.prefixes.map fun p => normalize p.1) →
    reg'.lookupPrefix s = reg.lookupPrefix s
  otherName : reg.Consistent → ∀ n, (∀ k ∈ sheet.names, n.normalized ≠ .text k) →
    reg'.lookupName n = reg.lookupName n

theorem loaded {ps : List (String × Float)} {ls : List (Listing Float)}
    (hps : sheet.prefixes.mapM readPrefix = .ok ps)
    (hls : (sheet.units.mapM fun u => u.2.read u.1) = .ok ls) (h : reg.Takes ps ls)
    (hgrows : Grows reg ((reg.prefixed ps).listed ls)) :
    reg.Loaded sheet ((reg.prefixed ps).listed ls) := by
  obtain ⟨hprefixKeys, hnameKeys⟩ := keys_of_read hps hls
  have hfresh : (reg.prefixed ps).Fresh ls := fresh_prefixed.mpr h.fresh
  refine ⟨?_, fun u hu => ?_, fun p hp => ?_, hgrows, fun s hs => ?_, fun hc n hn => ?_⟩
  · rw [(Outcome.mapM_ok.mp hls).length_eq]
    simp [size, listed, prefixed]
  · obtain ⟨l, hl, hul⟩ := Outcome.exists_partner (Outcome.mapM_ok.mp hls) hu
    obtain ⟨-, he⟩ := Spec.describes_iff.mpr ⟨l, hul, h.unit l hl, rfl⟩
    obtain ⟨⟨hsymbol, hnames⟩, -⟩ := Spec.read_ok.mp hul
    refine ⟨l.entry, he, hfresh.lookupUnit hl ?_, fun n hn => hfresh.lookupUnit hl ?_⟩
    · rw [← hsymbol]
      exact List.mem_cons_self
    · exact List.mem_cons_of_mem _ (List.mem_map_of_mem (hnames ▸ hn))
  · obtain ⟨q, hq, hpq⟩ := Outcome.exists_partner (Outcome.mapM_ok.mp hps) hp
    obtain ⟨hname, hx⟩ := readPrefix_ok.mp hpq
    exact ⟨q.2, hx, lookupPrefix_prefixed h.prefixKeys h.prefixFree hq (by rw [hname])⟩
  · have hnew : (ps.map fun p => (normalize p.1, p.2)).lookup (normalize s) = none := by
      rw [Keys.lookup_eq_none, storedKeys_eq]
      exact hprefixKeys ▸ hs
    have hsame : ((reg.prefixed ps).listed ls).lookupPrefix s =
        (reg.prefixes.lookup (normalize s)).or
          ((ps.map fun p => (normalize p.1, p.2)).lookup (normalize s)) := List.lookup_append
    rw [hsame, hnew, Option.or_none]
    rfl
  · have hunits : ((reg.prefixed ps).listed ls).units =
        reg.units ++ ls.map fun l => (l.key, l.entry) := rfl
    have haliases : ((reg.prefixed ps).listed ls).aliases =
        reg.aliases ++ ls.flatMap Listing.aliases := rfl
    refine lookupName_append hc.target hunits haliases (fun u hu => ?_) fun a ha => ?_
    · obtain ⟨l, hl, rfl⟩ := List.mem_map.mp hu
      refine hn _ (hnameKeys ▸ List.mem_flatMap.mpr ⟨l, hl, List.mem_cons_self⟩)
    · obtain ⟨l, hl, s, hs, rfl⟩ := exists_text_of_mem_aliases ha
      have hne := hn (normalize s) (hnameKeys ▸ List.mem_flatMap.mpr
        ⟨l, hl, List.mem_cons_of_mem _ (List.mem_map_of_mem hs)⟩)
      cases hm : n.normalized with
      | void v => rfl
      | text t =>
        rw [hm] at hne
        exact beq_eq_false_iff_ne.mpr fun heq => hne (congrArg Name.text heq.symm)

/-! ## Documents -/

theorem load_eq {text : String} (hread : Document.read text = .ok v)
    (hsheet : Sheet.of? v = some sheet) (reg : Registry Float) : reg.load text =
      ((reg.insertAll (ofDocument v)).1,
        (reg.insertAll (ofDocument v)).2.map fun _ => sheet.units.length) := by
  obtain ⟨es, units, rfl, -, hunits, hspecs⟩ := Sheet.of?_eq_some.mp hsheet
  unfold load
  rw [hread, ← (specs?_eq_some.mp hspecs).length_eq]
  simp only [sectionOf_eq hunits]
  cases (reg.insertAll (ofDocument (.mapping es))).2 <;> rfl

/-- A document is loaded where its insertions succeed. -/
theorem load_eq_ok {text : String} (hread : Document.read text = .ok v)
    (hsheet : Sheet.of? v = some sheet) {n : Nat} : reg.load text = (reg', .ok n) ↔
      sheet.units.length = n ∧ reg.insertAll (ofDocument v) = (reg', .ok ()) := by
  rw [load_eq hread hsheet]
  rcases reg.insertAll (ofDocument v) with ⟨reg₁, f | u⟩ <;> simp [Except.map, and_comm]

/-- **When a document in shape is loaded**, and what the registry becomes. -/
theorem load_ok {text : String} (hread : Document.read text = .ok v)
    (hsheet : Sheet.of? v = some sheet) (reg : Registry Float) :
    ((∃ n, (reg.load text).2 = .ok n) ↔ sheet.Loads reg) ∧
      (sheet.Loads reg → (reg.load text).2 = .ok sheet.units.length ∧
        reg.Loaded sheet (reg.load text).1) := by
  have hloads : sheet.Loads reg → (reg.load text).2 = .ok sheet.units.length ∧
      reg.Loaded sheet (reg.load text).1 := fun h => by
    obtain ⟨ps, ls, hps, hls, htakes⟩ := loads_iff.mp h
    have hrun := (insertAll_ofDocument hsheet).mpr ⟨ps, ls, hps, hls, htakes, rfl⟩
    have hgrows : Grows reg ((reg.prefixed ps).listed ls) := by
      have hreaches := reaches_insertAll (ofDocument v) reg
      rw [hrun] at hreaches
      exact hreaches.grows
    rw [(load_eq_ok hread hsheet).mpr ⟨rfl, hrun⟩]
    exact ⟨rfl, loaded hps hls htakes hgrows⟩
  refine ⟨⟨?_, fun h => ⟨_, (hloads h).1⟩⟩, hloads⟩
  rintro ⟨n, hn⟩
  obtain ⟨-, hrun⟩ := (load_eq_ok hread hsheet).mp (Prod.ext rfl hn)
  obtain ⟨ps, ls, hps, hls, htakes, -⟩ := (insertAll_ofDocument hsheet).mp hrun
  exact loads_iff.mpr ⟨ps, ls, hps, hls, htakes⟩

end Registry

end Quantities
