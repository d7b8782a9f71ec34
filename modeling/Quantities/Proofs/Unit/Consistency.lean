import Quantities.Proofs.Unit.Growth
import Quantities.Proofs.Unit.Name

/-!
# Consistent registries

The three tables of a registry belong together: what is another name is no symbol, what it stands
for is a unit, and nothing in them is out of range (`Consistent`). Each insertion keeps that
(`Inserts.consistent`), since it judges the new key against the two tables of names and the new
value by itself; a registry that any calls lead to is therefore consistent.

* `Consistent.lookupUnit`, `Consistent.lookupName`: in a consistent registry every key is found, and
  with it the entry that stands beside it.
* **`consistent_run`**: all of that after any calls.
-/

namespace Quantities

namespace Name

theorem isSame_self (n : Name) : n.isSame n = true := by
  cases n with
  | text s => exact beq_self_eq_true s
  | void v => cases v <;> rfl

end Name

namespace Registry

variable {α : Type}

/-- The tables of a registry fit each other. -/
structure Consistent [Scalar α] (reg : Registry α) : Prop where
  /-- No key stands twice in a table. -/
  unitKeys : (reg.units.map Prod.fst).Nodup
  nameKeys : reg.aliases.Pairwise fun a b => a.1.isSame b.1 = false
  prefixKeys : (reg.prefixes.map Prod.fst).Nodup
  /-- No other name is the symbol of a unit, and each stands for the symbol of one. -/
  disjoint : ∀ u ∈ reg.units, ∀ a ∈ reg.aliases, a.1.isSame (.text u.1) = false
  target : ∀ a ∈ reg.aliases, a.2 ∈ reg.units.map Prod.fst
  /-- Every key is in its stored form, and a unit has its key for a symbol. -/
  unitKey : ∀ u ∈ reg.units, u.2.symbol = u.1 ∧ u.1 ≠ "" ∧ normalize u.1 = u.1
  nameKey : ∀ a ∈ reg.aliases, a.1.normalized = a.1
  prefixKey : ∀ p ∈ reg.prefixes, p.1 ≠ "" ∧ normalize p.1 = p.1
  /-- Every value is in its range. -/
  sound : ∀ u ∈ reg.units, u.2.IsSound
  exponents : ∀ u ∈ reg.units, u.2.dimension.toList.length = BaseDimension.all.length
  positive : ∀ p ∈ reg.prefixes, Scalar.isFactor p.2 = true

/-! ## Look-up -/

variable {reg reg' : Registry α}

/-- Where no two names are the same, each is found at its own place. -/
theorem find?_isSame : ∀ {l : List (Name × String)} {a : Name × String},
    (l.Pairwise fun a b => a.1.isSame b.1 = false) → a ∈ l →
      (l.find? fun b => b.1.isSame a.1) = some a
  | b :: l, a, hl, h => by
    obtain ⟨hb, hl⟩ := List.pairwise_cons.mp hl
    rcases List.mem_cons.mp h with rfl | h
    · exact List.find?_cons_of_pos (Name.isSame_self a.1)
    · rw [List.find?_cons_of_neg (by simp [hb a h])]
      exact find?_isSame hl h

variable [Scalar α]

/-- Every unit is found by its symbol. -/
theorem Consistent.lookupUnit (h : reg.Consistent) {s : String} {e : UnitEntry α}
    (he : (s, e) ∈ reg.units) : reg.lookupUnit s = some e := by
  have hstored : Name.normalized (.text s) = .text s := congrArg Name.text (h.unitKey _ he).2.2
  have htarget : reg.target? (.text s) = none :=
    Option.map_eq_none_iff.mpr <| List.find?_eq_none.mpr fun a ha => by
      simp [h.disjoint _ he a ha]
  unfold Registry.lookupUnit lookupName
  rw [hstored, htarget]
  exact Keys.lookup_of_mem h.unitKeys he

/-- Every other name finds the unit that it stands for. -/
theorem Consistent.lookupName (h : reg.Consistent) {n : Name} {s : String}
    (ha : (n, s) ∈ reg.aliases) : ∃ e, (s, e) ∈ reg.units ∧ reg.lookupName n = some e := by
  obtain ⟨u, hu, rfl⟩ := List.mem_map.mp (h.target _ ha)
  have htarget : reg.target? n = some u.1 := by
    unfold target?
    rw [find?_isSame h.nameKeys ha]
    rfl
  refine ⟨u.2, hu, ?_⟩
  unfold Registry.lookupName
  rw [h.nameKey _ ha, htarget]
  exact Keys.lookup_of_mem h.unitKeys hu

/-- Every key of the two tables of names leads to the unit that it stands for. -/
structure Resolves (reg : Registry α) : Prop where
  unit : ∀ s e, (s, e) ∈ reg.units → reg.lookupUnit s = some e
  name : ∀ n s, (n, s) ∈ reg.aliases → ∃ e, (s, e) ∈ reg.units ∧ reg.lookupName n = some e

theorem Consistent.resolves (h : reg.Consistent) : reg.Resolves :=
  ⟨fun _ _ => h.lookupUnit, fun _ _ => h.lookupName⟩

omit [Scalar α] in
/-- New keys are found by their own names only: they change nothing for any other name, as long as
no known name waits for one of them. -/
theorem lookupName_append {us : List (String × UnitEntry α)} {as : List (Name × String)} {n : Name}
    (target : ∀ a ∈ reg.aliases, a.2 ∈ reg.units.map Prod.fst)
    (units : reg'.units = reg.units ++ us) (aliases : reg'.aliases = reg.aliases ++ as)
    (hus : ∀ u ∈ us, n.normalized ≠ .text u.1) (has : ∀ a ∈ as, a.1.isSame n.normalized = false) :
    reg'.lookupName n = reg.lookupName n := by
  have hname : reg'.target? n.normalized = reg.target? n.normalized := by
    have hnew : (as.find? fun a => a.1.isSame n.normalized) = none :=
      List.find?_eq_none.mpr fun a ha => by simp [has a ha]
    unfold target?
    rw [aliases, List.find?_append, hnew, Option.or_none]
  unfold Registry.lookupName unitAt?
  rw [hname, units]
  cases ht : reg.target? n.normalized with
  | some symbol =>
    obtain ⟨a, ha, rfl⟩ := Option.map_eq_some_iff.mp ht
    obtain ⟨e, he⟩ := Option.isSome_iff_exists.mp
      (Keys.isSome_lookup.mpr (target a (List.mem_of_find?_eq_some ha)))
    exact (Keys.lookup_append_of_some he).trans he.symm
  | none =>
    cases hn : n.normalized with
    | void v => rfl
    | text s =>
      have hnew : us.lookup s = none := List.lookup_eq_none_iff.mpr fun u hu =>
        bne_iff_ne.mpr fun heq => hus u hu (hn.trans (congrArg Name.text heq))
      have hsame : (reg.units ++ us).lookup s = reg.units.lookup s := by
        rw [List.lookup_append, hnew, Option.or_none]
      exact hsame

/-! ## Insertions -/

omit [Scalar α] in
theorem IsFree.isSame_unit {n : Name} (h : reg.IsFree n) :
    ∀ u ∈ reg.units, n.isSame (.text u.1) = false := by
  intro u hu
  cases n with
  | void v => rfl
  | text s =>
    have hs : s ∉ reg.units.map Prod.fst := Keys.lookup_eq_none.mp h.unit
    exact beq_eq_false_iff_ne.mpr fun heq => hs (heq ▸ List.mem_map_of_mem hu)

omit [Scalar α] in
theorem IsFree.isSame_name {n : Name} (h : reg.IsFree n) :
    ∀ a ∈ reg.aliases, a.1.isSame n = false := by
  intro a ha
  have hfind := List.find?_eq_none.mp (Option.map_eq_none_iff.mp h.target) a ha
  simpa using hfind

/-- **An insertion keeps the tables consistent.** -/
theorem Inserts.consistent (h : Inserts reg reg') (hc : reg.Consistent) : reg'.Consistent := by
  cases h with
  | @unit e s symbol ne free sound =>
    have hkey : normalize e.symbol = e.symbol := by rw [symbol, normalize_normalize]
    refine { hc with
      unitKeys := Keys.nodup_concat hc.unitKeys free.unit
      disjoint := ?_, target := ?_, unitKey := ?_, sound := ?_, exponents := fun _ _ => rfl }
    · exact List.forall_mem_append.mpr ⟨hc.disjoint, List.forall_mem_singleton.mpr free.isSame_name⟩
    · intro a ha
      rw [List.map_append]
      exact List.mem_append_left _ (hc.target a ha)
    · exact List.forall_mem_append.mpr
        ⟨hc.unitKey, List.forall_mem_singleton.mpr ⟨rfl, ne, hkey⟩⟩
    · exact List.forall_mem_append.mpr ⟨hc.sound, List.forall_mem_singleton.mpr sound⟩
  | @name n target known free =>
    refine { hc with nameKeys := ?_, disjoint := ?_, target := ?_, nameKey := ?_ }
    · refine List.pairwise_append.mpr ⟨hc.nameKeys, List.pairwise_singleton _ _, ?_⟩
      intro a ha b hb
      rw [List.mem_singleton.mp hb]
      exact free.isSame_name a ha
    · exact fun u hu => List.forall_mem_append.mpr
        ⟨hc.disjoint u hu, List.forall_mem_singleton.mpr (free.isSame_unit u hu)⟩
    · exact List.forall_mem_append.mpr
        ⟨hc.target, List.forall_mem_singleton.mpr (Keys.isSome_lookup.mp known)⟩
    · exact List.forall_mem_append.mpr
        ⟨hc.nameKey, List.forall_mem_singleton.mpr n.normalized_normalized⟩
  | @factor s x ne free positive =>
    refine { hc with
      prefixKeys := Keys.nodup_concat hc.prefixKeys free
      prefixKey := ?_, positive := ?_ }
    · exact List.forall_mem_append.mpr
        ⟨hc.prefixKey, List.forall_mem_singleton.mpr ⟨ne, normalize_normalize s⟩⟩
    · exact List.forall_mem_append.mpr ⟨hc.positive, List.forall_mem_singleton.mpr positive⟩

theorem Reaches.consistent (h : Reaches reg reg') (hc : reg.Consistent) : reg'.Consistent := by
  induction h with
  | refl => exact hc
  | tail _ hstep ih => exact hstep.consistent ih

theorem consistent_empty : (empty : Registry α).Consistent where
  unitKeys := .nil
  nameKeys := .nil
  prefixKeys := .nil
  disjoint _ h := nomatch h
  target _ h := nomatch h
  unitKey _ h := nomatch h
  nameKey _ h := nomatch h
  prefixKey _ h := nomatch h
  sound _ h := nomatch h
  exponents _ h := nomatch h
  positive _ h := nomatch h

/-! ## The standard units -/

/-- A text as a number, which is compared sooner. -/
def textCode (s : String) : Nat := s.toList.foldl (fun n c => n * 0x110000 + c.toNat) 0

theorem nodup_standard : ((standard : Registry Float).units.map Prod.fst).Nodup := by
  have hcodes : (((standard : Registry Float).units.map Prod.fst).map textCode).Nodup := by
    decide +kernel
  exact hcodes.of_map

theorem standard_sound : ∀ u ∈ (standard : Registry Float).units,
    Scalar.isFactor u.2.scale = true ∧ Scalar.isFinite u.2.offset = true := by decide +kernel

theorem consistent_standard : (standard : Registry Float).Consistent where
  unitKeys := nodup_standard
  nameKeys := by decide +kernel
  prefixKeys := by decide +kernel
  disjoint := by decide +kernel
  target := by decide +kernel
  unitKey := by decide +kernel
  nameKey := by decide +kernel
  prefixKey := by decide +kernel
  sound u hu := ⟨(standard_sound u hu).1, (standard_sound u hu).2⟩
  exponents _ _ := rfl
  positive := by decide +kernel

/-! ## Calls -/

/-- A unit is taken only with an exponent for every base dimension. -/
theorem iterate_of_unitOfValues {symbol scale dimension offset : Value} {e : UnitEntry Float}
    (h : unitOfValues symbol scale dimension offset = .ok e) :
    ∃ vs, dimension.iterate = .ok vs ∧ vs.length = BaseDimension.all.length := by
  obtain ⟨vs, hvs, h⟩ := Outcome.bind_ok.mp h
  by_cases hcount : vs.length ≠ BaseDimension.all.length
  · rw [if_pos hcount] at h
    exact nomatch h
  · exact ⟨vs, hvs, not_not.mp hcount⟩

/-- **Any calls lead to consistent tables**, from nothing and from the standard units, also where
calls fail: the tables fit each other, all keys are found, and all values are in their ranges. A
unit whose dimension has not nine exponents is refused. -/
theorem consistent_run (calls : List Call) :
    (∀ start ∈ [empty, standard],
      (calls.foldl after start).Consistent ∧ (calls.foldl after start).Resolves) ∧
    ∀ (reg : Registry Float) (symbol scale dimension offset : Value),
      (reg.call (.register symbol scale dimension offset)).2 = .ok () →
        ∃ vs, dimension.iterate = .ok vs ∧ vs.length = BaseDimension.all.length := by
  refine ⟨fun start hstart => ?_, fun reg symbol scale dimension offset h => ?_⟩
  · have hc : start.Consistent := by
      rcases List.mem_pair.mp hstart with rfl | rfl
      · exact consistent_empty
      · exact consistent_standard
    have hrun := (reaches_run calls start).consistent hc
    exact ⟨hrun, hrun.resolves⟩
  · cases hvalues : reg.registerValues symbol scale dimension offset with
    | error f =>
      have hkeep :
          (call.keep reg (reg.registerValues symbol scale dimension offset)).2 = .ok () := h
      rw [hvalues] at hkeep
      exact nomatch hkeep
    | ok reg' =>
      obtain ⟨e, he, -⟩ := Outcome.bind_ok.mp hvalues
      exact iterate_of_unitOfValues he

/-- A unit, another name for it, and then that name for a second unit. -/
theorem consistent_run_smoot :
    let length : Value := .dimension { length := 1 }
    let calls : List Call := [.register (.text "smoot") (.real 1.7) length (.integer 0),
      .registerName (.text "sm") (.text "smoot"),
      .register (.text "sm") (.real 2) length (.integer 0)]
    let reg := calls.foldl after standard
    (empty ∈ [empty, (standard : Registry Float)] ∧
      (calls.foldl after empty).Consistent ∧ (calls.foldl after empty).Resolves) ∧
    (standard ∈ [empty, (standard : Registry Float)] ∧ reg.Consistent ∧ reg.Resolves) ∧
    ((empty.call (.register (.text "smoot") (.real 1.7) length (.integer 0))).2 = .ok () ∧
      ∃ vs, length.iterate = .ok vs ∧ vs.length = BaseDimension.all.length) := by
  intro length calls reg
  have hregister : (empty.call (.register (.text "smoot") (.real 1.7) length (.integer 0))).2 =
      .ok () := by decide +kernel
  have hempty : empty ∈ [empty, (standard : Registry Float)] := List.mem_cons_self
  have hstandard : standard ∈ [empty, (standard : Registry Float)] := List.mem_pair.mpr (Or.inr rfl)
  exact ⟨⟨hempty, (consistent_run calls).1 empty hempty⟩,
    ⟨hstandard, (consistent_run calls).1 standard hstandard⟩,
    hregister, (consistent_run calls).2 empty _ _ _ _ hregister⟩

end Registry

end Quantities
