import Quantities.Proofs.Unit.Consistency
import Quantities.Proofs.Unit.Spelling

/-!
# Blank names

A text of blanks only has the empty text for its stored form. No unit and no prefix is stored under
it, since both are asked for a symbol that is not empty. Another name for a unit is not: once a call
gives a blank text as another name, all blank texts stand for that unit.

* `normalize_eq_empty`: which texts have an empty stored form.
* `Call.Names`: a call gives a name as another name for a unit.
* `mem_aliases_after`, `mem_aliases_run`: every other name that is stored was given by a call.

Main result:
* **`lookup_blank`**: what blank texts stand for after any calls, and that they stand for nothing
  where no call gives one as another name. `blank_metre` is a call that does.
-/

namespace Quantities

/-! ## Blank texts -/

/-- A text of blanks only; the empty one is, too. -/
def IsBlank (s : String) : Prop := ∀ c ∈ s.toList, Text.isBlank c = true

instance (s : String) : Decidable (IsBlank s) :=
  decidable_of_iff (s.toList.all Text.isBlank = true) List.all_eq_true

theorem Text.strip_eq_nil {cs : List Char} : strip cs = [] ↔ ∀ c ∈ cs, isBlank c = true := by
  unfold strip
  rw [trim_eq, List.rdropWhile_eq_nil_iff]
  constructor
  · intro h
    by_contra hnot
    have hne : cs.dropWhile isBlank ≠ [] := fun hnil => hnot (List.dropWhile_eq_nil_iff.mp hnil)
    have hfirst := List.head_mem hne
    have hink : isBlank ((cs.dropWhile isBlank).head hne) = false :=
      head?_dropWhile (List.head?_eq_some_head hne)
    exact nomatch hink.symm.trans (h _ hfirst)
  · intro h c hc
    rw [List.dropWhile_eq_nil_iff.mpr h] at hc
    exact nomatch hc

/-- **The texts with an empty stored form.** -/
theorem normalize_eq_empty {s : String} : normalize s = "" ↔ IsBlank s := by
  have hlist : (normalize s).toList = Text.Canonical.composed (Text.strip s.toList) :=
    String.toList_ofList
  rw [← String.toList_eq_nil_iff, hlist, IsBlank, ← Text.strip_eq_nil]
  constructor
  · intro h
    by_contra hne
    exact Text.Canonical.composed_ne_nil hne h
  · intro h
    rw [h]
    rfl

namespace Registry

/-! ## Where other names come from -/

section

variable {α : Type} [Scalar α] {reg reg' : Registry α} {a : Name × String}

/-- An insertion adds another name only if that is what is inserted. -/
theorem mem_aliases_insert {i : Insertion α} (h : reg.insert i = .ok reg')
    (ha : a ∈ reg'.aliases) :
    a ∈ reg.aliases ∨ ∃ n t, i = .otherName n t ∧ a.1 = n.normalized := by
  cases i with
  | unit symbol scale dimension offset =>
    obtain ⟨e, -, h⟩ := Outcome.bind_ok.mp h
    obtain ⟨-, -, rfl⟩ := register_ok.mp h
    exact Or.inl ha
  | otherName n t =>
    obtain ⟨-, -, rfl⟩ := registerName_ok.mp h
    refine (List.mem_append.mp ha).imp_right fun ha => ⟨n, t, rfl, ?_⟩
    rw [List.mem_singleton.mp ha]
  | prefixFactor symbol factor =>
    have h : reg.registerPrefix symbol factor = .ok reg' := h
    obtain ⟨-, -, -, rfl⟩ := registerPrefix_ok.mp h
    exact Or.inl ha
  | definition symbol magnitude text offset =>
    obtain ⟨⟨reg'', e⟩, hdefine, h⟩ := Outcome.bind_ok.mp h
    obtain rfl := Except.ok.inj h
    obtain ⟨-, -, rfl⟩ := register_ok.mp (define_ok hdefine).2
    exact Or.inl ha

theorem mem_aliases_insertAll :
    ∀ {steps : List (Outcome (Insertion α))} {reg : Registry α},
      a ∈ (reg.insertAll steps).1.aliases →
        a ∈ reg.aliases ∨ ∃ n t, .ok (.otherName n t) ∈ steps ∧ a.1 = n.normalized
  | [], _, ha => Or.inl ha
  | step :: steps, reg, ha => by
    unfold insertAll at ha
    split at ha
    · rename_i reg' h
      obtain ⟨i, rfl, hi⟩ := Outcome.bind_ok.mp h
      rcases mem_aliases_insertAll ha with ha | ⟨n, t, hmem, hn⟩
      · rcases mem_aliases_insert hi ha with ha | ⟨n, t, rfl, hn⟩
        · exact Or.inl ha
        · exact Or.inr ⟨n, t, List.mem_cons_self, hn⟩
      · exact Or.inr ⟨n, t, List.mem_cons_of_mem _ hmem, hn⟩
    · exact Or.inl ha

end

variable {reg : Registry Float} {a : Name × String}

/-- The call gives a name as another name for a unit: by itself, or in a list of them. -/
inductive Call.Names : Call → Name → Prop
  | registerName {name target : Value} {n : Name} {t : String}
      (h : Table.otherNameOf name target = .ok (.otherName n t)) :
      Names (.registerName name target) n
  | populate {rows pairs : Value} {n : Name} {t : String}
      (h : .ok (.otherName n t) ∈ Table.ofRows rows pairs) : Names (.populate rows pairs) n
  | load {text : String} {v : Value} {n : Name} {t : String} (hread : Document.read text = .ok v)
      (h : .ok (.otherName n t) ∈ Table.ofDocument v) : Names (.load text) n

/-- **A call stores another name only if it gives it.** -/
theorem mem_aliases_after {c : Call} (ha : a ∈ (reg.after c).aliases) :
    a ∈ reg.aliases ∨ ∃ n, c.Names n ∧ a.1 = n.normalized := by
  have hkeep : ∀ {r : Outcome (Registry Float)} {P : Prop},
      a ∈ (call.keep reg r).1.aliases →
        (∀ reg', r = .ok reg' → a ∈ reg'.aliases → a ∈ reg.aliases ∨ P) → a ∈ reg.aliases ∨ P := by
    intro r P ha h
    cases r with
    | ok reg' => exact h reg' rfl ha
    | error f => exact Or.inl ha
  have hregister : ∀ {reg' : Registry Float} {e : UnitEntry Float}, reg.register e = .ok reg' →
      reg'.aliases = reg.aliases := by
    intro reg' e h
    obtain ⟨-, -, rfl⟩ := register_ok.mp h
    rfl
  have hdefine : ∀ {symbol magnitude unit offset : Value} {reg' : Registry Float}
      {e : UnitEntry Float}, reg.defineValues symbol magnitude unit offset = .ok (reg', e) →
        reg'.aliases = reg.aliases := by
    intro symbol magnitude unit offset reg' e h
    obtain ⟨s, -, hs⟩ := define_of_defineValues h
    exact hregister (define_ok hs).2
  cases c with
  | register symbol scale dimension offset =>
    refine hkeep ha fun reg' h ha => Or.inl ?_
    obtain ⟨e, -, he⟩ := registerValues_ok h
    exact hregister he ▸ ha
  | registerName name target =>
    refine hkeep ha fun reg' h ha => ?_
    obtain ⟨i, hi, hinsert⟩ := registerNameValue_ok h
    rcases mem_aliases_insert hinsert ha with ha | ⟨n, t, rfl, hn⟩
    · exact Or.inl ha
    · exact Or.inr ⟨n, .registerName hi, hn⟩
  | registerPrefix symbol factor =>
    refine hkeep ha fun reg' h ha => Or.inl ?_
    obtain ⟨s, x, hs⟩ := registerPrefixValue_ok h
    obtain ⟨-, -, -, rfl⟩ := registerPrefix_ok.mp hs
    exact ha
  | define symbol magnitude unit offset =>
    refine hkeep ha fun reg' h ha => Or.inl ?_
    cases hd : reg.defineValues symbol magnitude unit offset with
    | error f => rw [hd] at h; exact nomatch h
    | ok r =>
      rw [hd] at h
      obtain rfl := Except.ok.inj h
      exact hdefine hd ▸ ha
  | defineMember symbol magnitude unit offset =>
    refine hkeep ha fun reg' h ha => Or.inl ?_
    obtain ⟨e, hd⟩ := defineValues_of_defineMemberValues h
    exact hdefine hd ▸ ha
  | populate rows pairs =>
    rcases mem_aliases_insertAll ha with ha | ⟨n, t, hmem, hn⟩
    · exact Or.inl ha
    · exact Or.inr ⟨n, .populate hmem, hn⟩
  | load text =>
    have ha : a ∈ (reg.load text).1.aliases := ha
    unfold load at ha
    split at ha
    · exact Or.inl ha
    · rename_i v hread
      rcases mem_aliases_insertAll ha with ha | ⟨n, t, hmem, hn⟩
      · exact Or.inl ha
      · exact Or.inr ⟨n, .load hread hmem, hn⟩

/-- So it is with any calls. -/
theorem mem_aliases_run : ∀ (calls : List Call) {reg : Registry Float},
    a ∈ (calls.foldl after reg).aliases →
      a ∈ reg.aliases ∨ ∃ c ∈ calls, ∃ n, c.Names n ∧ a.1 = n.normalized
  | [], _, ha => Or.inl ha
  | c :: calls, reg, ha => by
    rcases mem_aliases_run calls ha with ha | ⟨d, hd, hn⟩
    · rcases mem_aliases_after ha with ha | hn
      · exact Or.inl ha
      · exact Or.inr ⟨c, List.mem_cons_self, hn⟩
    · exact Or.inr ⟨d, List.mem_cons_of_mem c hd, hn⟩

/-! ## Look-up -/

theorem normalized_eq_blank {n : Name} :
    n.normalized = .text "" ↔ ∃ s, n = .text s ∧ IsBlank s := by
  cases n with
  | text s => simp [Name.normalized, normalize_eq_empty]
  | void v => simp [Name.normalized]

variable {s : String} {e : UnitEntry Float}

theorem Consistent.lookupPrefix_blank (h : reg.Consistent) (hs : IsBlank s) :
    reg.lookupPrefix s = none := by
  rw [lookupPrefix, normalize_eq_empty.mpr hs, Keys.lookup_eq_none]
  intro hmem
  obtain ⟨p, hp, hempty⟩ := List.mem_map.mp hmem
  exact (h.prefixKey p hp).1 hempty

/-- A blank text stands for a unit by another name only. -/
theorem Consistent.lookupUnit_blank (h : reg.Consistent) (hs : IsBlank s) :
    reg.lookupUnit s = some e ↔
      ∃ target, (.text "", target) ∈ reg.aliases ∧ (target, e) ∈ reg.units := by
  have hstored : Name.normalized (.text s) = .text "" := normalized_eq_blank.mpr ⟨s, rfl, hs⟩
  have hunit : reg.units.lookup "" = none := by
    rw [Keys.lookup_eq_none]
    intro hmem
    obtain ⟨u, hu, hempty⟩ := List.mem_map.mp hmem
    exact (h.unitKey u hu).2.1 hempty
  unfold Registry.lookupUnit Registry.lookupName
  rw [hstored]
  constructor
  · intro he
    cases ht : reg.target? (.text "") with
    | none =>
      rw [ht] at he
      exact nomatch hunit.symm.trans he
    | some target =>
      rw [ht] at he
      obtain ⟨⟨n, t⟩, ha, rfl⟩ := Option.map_eq_some_iff.mp ht
      have hsame := List.find?_some ha
      cases n with
      | void v => exact nomatch hsame
      | text s' =>
        obtain rfl : s' = "" := by simpa using hsame
        exact ⟨t, List.mem_of_find?_eq_some ha, Keys.mem_of_lookup he⟩
  · rintro ⟨target, ha, he⟩
    have htarget : reg.target? (.text "") = some target := by
      unfold target?
      rw [find?_isSame h.nameKeys ha]
      rfl
    rw [htarget]
    exact Keys.lookup_of_mem h.unitKeys he

/-- **What blank texts stand for**, after any calls. No unit and no prefix is stored under the empty
text, so that no blank text is a prefix, and a blank text stands for a unit only as another name for
it. Where no call gives a blank text as another name, no name is stored under the empty text either,
and no blank text stands for anything. -/
theorem lookup_blank (calls : List Call) {start : Registry Float}
    (hstart : start ∈ [empty, standard]) :
    let reg := calls.foldl after start
    (∀ u ∈ reg.units, u.1 ≠ "") ∧ (∀ p ∈ reg.prefixes, p.1 ≠ "") ∧
      (∀ s, IsBlank s → reg.lookupPrefix s = none ∧ ∀ e, reg.lookupUnit s = some e ↔
        ∃ target, (.text "", target) ∈ reg.aliases ∧ (target, e) ∈ reg.units) ∧
      ((∀ c ∈ calls, ∀ s, c.Names (.text s) → ¬ IsBlank s) →
        (∀ a ∈ reg.aliases, a.1 ≠ .text "") ∧
          ∀ s, IsBlank s → reg.lookupUnit s = none ∧ reg.has s = false) := by
  intro reg
  have hconsistent : start.Consistent := by
    rcases List.mem_pair.mp hstart with rfl | rfl
    · exact consistent_empty
    · exact consistent_standard
  have hnames : ∀ a ∈ start.aliases, a.1 ≠ .text "" := by
    rcases List.mem_pair.mp hstart with rfl | rfl
    · exact nofun
    · decide +kernel
  have h : reg.Consistent := (reaches_run calls start).consistent hconsistent
  refine ⟨fun u hu => (h.unitKey u hu).2.1, fun p hp => (h.prefixKey p hp).1,
    fun s hs => ⟨h.lookupPrefix_blank hs, fun e => h.lookupUnit_blank hs⟩, fun hcalls => ?_⟩
  have hnone : ∀ a ∈ reg.aliases, a.1 ≠ .text "" := by
    intro a ha hempty
    rcases mem_aliases_run calls ha with ha | ⟨c, hc, n, hn, hnormalized⟩
    · exact hnames a ha hempty
    · obtain ⟨s, rfl, hs⟩ := normalized_eq_blank.mp (hnormalized.symm.trans hempty)
      exact hcalls c hc s hn hs
  refine ⟨hnone, fun s hs => ?_⟩
  have hlookup : reg.lookupUnit s = none := by
    rw [Option.eq_none_iff_forall_ne_some]
    intro e he
    obtain ⟨target, ha, -⟩ := (h.lookupUnit_blank hs).mp he
    exact hnone _ ha rfl
  exact ⟨hlookup, by rw [Registry.has, hlookup]; rfl⟩

/-- A call that gives a name that is not blank. -/
theorem lookup_blank_meter :
    let calls : List Call := [.registerName (.text "meter") (.text "m")]
    let reg := calls.foldl after standard
    standard ∈ [empty, (standard : Registry Float)] ∧
    (∀ c ∈ calls, ∀ s, c.Names (.text s) → ¬ IsBlank s) ∧ IsBlank " \t" ∧
      reg.lookupPrefix " \t" = none ∧ reg.lookupUnit " \t" = none ∧ reg.has " \t" = false := by
  intro calls reg
  have hstart : standard ∈ [empty, (standard : Registry Float)] := List.mem_pair.mpr (Or.inr rfl)
  have hcalls : ∀ c ∈ calls, ∀ s, c.Names (.text s) → ¬ IsBlank s := by
    intro c hc s hn
    obtain rfl := List.mem_singleton.mp hc
    cases hn with
    | registerName h =>
      obtain ⟨hs, -⟩ := Insertion.otherName.inj (Except.ok.inj h)
      obtain rfl := Name.text.inj hs
      decide +kernel
  have hblank : IsBlank " \t" := by decide +kernel
  obtain ⟨-, -, hlookup, hnone⟩ := lookup_blank calls hstart
  exact ⟨hstart, hcalls, hblank, (hlookup _ hblank).1, (hnone hcalls).2 _ hblank⟩

/-- A registry takes a blank text for another name, and then all blank texts stand for the unit. -/
theorem blank_metre :
    let c : Call := .registerName (.text " ") (.text "m")
    let reg := (standard : Registry Float).after c
    (standard.call c).2 = .ok () ∧ (.text "", "m") ∈ reg.aliases ∧
      ∀ s ∈ ["", " ", "\t "], IsBlank s ∧ reg.lookupUnit s = reg.lookupUnit "m" ∧
        reg.has s = true := by
  decide +kernel

end Registry

end Quantities
