import Mathlib.Data.List.Perm.Basic
import Quantities.Proofs.Unit.Sheet

/-!
# The order of the keys in a table of units

Two tables that differ in the order of their keys only, at whatever depth, are in shape together and
say the same, with one exception: where several names in one table of exponents denote one base
dimension, the last one counts.

* `Rearranged`: two lists whose members are related one to one, in whatever order they stand.
* `Value.Reordered`: two values that are the same but for the order of keys.
* `Sheet.SameLast`: the names that count are the same.
* `Sheet.ReadsAlike`: two sheets that are read as the same, up to order. `Sheet.of?_reordered` and
  `Sheet.Reordered.readsAlike` say that this is what sheets of reordered tables do.
* **`load_readsAlike`**: what is read as the same is loaded alike.

Main result:
* **`load_table`**: when a document in shape is loaded, what becomes of the registry then, and that
  the order of its keys makes no difference to either. `load_mass_twice` is the exception.
-/

namespace Quantities

/-! ## Lists but for their order -/

section

variable {β γ δ ε : Type} {r : β → γ → Prop} {bs : List β} {cs : List γ}

/-- Two lists whose members are related one to one, in whatever order they stand. -/
def Rearranged (r : β → γ → Prop) (bs : List β) (cs : List γ) : Prop :=
  Relation.Comp (List.Forall₂ r) List.Perm bs cs

theorem Rearranged.nil : Rearranged r [] [] := ⟨[], .nil, .refl []⟩

theorem Rearranged.flip (h : Rearranged r bs cs) : Rearranged (flip r) cs bs := by
  unfold Rearranged at h
  rw [List.forall₂_comp_perm_eq_perm_comp_forall₂] at h
  obtain ⟨ms, hperm, hr⟩ := h
  exact ⟨ms, hr.flip, hperm.symm⟩

theorem Rearranged.exists_partner (h : Rearranged r bs cs) {b : β} (hb : b ∈ bs) :
    ∃ c ∈ cs, r b c := by
  obtain ⟨ms, hr, hperm⟩ := h
  obtain ⟨c, hc, hbc⟩ := Outcome.exists_partner hr hb
  exact ⟨c, hperm.mem_iff.mp hc, hbc⟩

theorem Rearranged.length_eq (h : Rearranged r bs cs) : bs.length = cs.length := by
  obtain ⟨ms, hr, hperm⟩ := h
  exact hr.length_eq.trans hperm.length_eq

theorem Rearranged.imp {s : β → γ → Prop} (h : Rearranged r bs cs)
    (hrs : ∀ b ∈ bs, ∀ c ∈ cs, r b c → s b c) : Rearranged s bs cs := by
  obtain ⟨ms, hr, hperm⟩ := h
  refine ⟨ms, ?_, hperm⟩
  simp only [← hperm.mem_iff] at hrs
  clear hperm
  induction hr with
  | nil => exact .nil
  | cons hbc _ ih =>
    exact .cons (hrs _ List.mem_cons_self _ List.mem_cons_self hbc)
      (ih fun b hb c hc => hrs b (List.mem_cons_of_mem _ hb) c (List.mem_cons_of_mem _ hc))

theorem Rearranged.map_perm {f : β → δ} {g : γ → δ} (h : Rearranged r bs cs)
    (hfg : ∀ b c, r b c → f b = g c) : (bs.map f).Perm (cs.map g) := by
  obtain ⟨ms, hr, hperm⟩ := h
  have hsame : bs.map f = ms.map g := by
    rw [← List.forall₂_eq_eq_eq, List.forall₂_map_left_iff, List.forall₂_map_right_iff]
    exact hr.imp hfg
  rw [hsame]
  exact hperm.map g

/-- What is read from the one list is read from the other one, in another order. -/
theorem Rearranged.forall₂ {p : β → δ → Prop} {q : γ → ε → Prop} {s : δ → ε → Prop} {ds : List δ}
    (h : Rearranged r bs cs) (hp : List.Forall₂ p bs ds)
    (hread : ∀ b c d, r b c → p b d → ∃ e, q c e ∧ s d e) :
    ∃ es, List.Forall₂ q cs es ∧ Rearranged s ds es := by
  obtain ⟨ms, hr, hperm⟩ := h
  -- The order comes last: `ms` stands in the order of `bs`, and is read member by member.
  have hmiddle : ∃ es, List.Forall₂ q ms es ∧ List.Forall₂ s ds es := by
    clear hperm
    induction hr generalizing ds with
    | nil =>
      obtain rfl := List.forall₂_nil_left_iff.mp hp
      exact ⟨[], .nil, .nil⟩
    | cons hbc _ ih =>
      obtain ⟨d, ds, hd, hds, rfl⟩ := List.forall₂_cons_left_iff.mp hp
      obtain ⟨e, he, hde⟩ := hread _ _ _ hbc hd
      obtain ⟨es, hes, hdes⟩ := ih hds
      exact ⟨e :: es, .cons he hes, .cons hde hdes⟩
  obtain ⟨es, hes, hdes⟩ := hmiddle
  obtain ⟨es', hes', hperm'⟩ := List.perm_comp_forall₂ hperm.symm hes
  exact ⟨es', hes', es, hdes, hperm'.symm⟩

/-- Two functions that succeed alike, on two lists. -/
theorem Rearranged.mapM_ok {f : β → Outcome δ} {g : γ → Outcome δ} {ds : List δ}
    (h : Rearranged (fun b c => ∀ d, f b = .ok d ↔ g c = .ok d) bs cs) (hds : bs.mapM f = .ok ds) :
    ∃ es, cs.mapM g = .ok es ∧ ds.Perm es := by
  obtain ⟨es, hes, ms, hms, hperm⟩ := h.forall₂ (s := Eq) (Outcome.mapM_ok.mp hds)
    fun b c d hbc hd => ⟨d, (hbc d).mp hd, rfl⟩
  rw [List.forall₂_eq_eq_eq] at hms
  exact ⟨es, Outcome.mapM_ok.mpr hes, hms ▸ hperm⟩

end

/-! ## Values but for the order of keys -/

/-- Two values that are the same but for the order of the keys in their tables, at whatever depth.
No name stands twice in a table. -/
inductive Value.Reordered : Value → Value → Prop
  | same {v : Value} (h : ∀ es, v ≠ .mapping es) : Reordered v v
  | list {vs ws : List Value} (members : List.Forall₂ Reordered vs ws) :
    Reordered (.list vs) (.list ws)
  | mapping {es ms fs : List (String × Value)} (distinct : (es.map Prod.fst).Nodup)
    (order : ms.Perm fs) (names : es.map Prod.fst = ms.map Prod.fst)
    (values : List.Forall₂ Reordered (es.map Prod.snd) (ms.map Prod.snd)) :
    Reordered (.mapping es) (.mapping fs)

/-- The entries of two tables that are the same but for the order of keys. -/
structure ReorderedEntries (es fs : List (String × Value)) : Prop where
  distinct : (es.map Prod.fst).Nodup
  rearranged : Rearranged (fun e f => e.1 = f.1 ∧ e.2.Reordered f.2) es fs

namespace Value

variable {v w : Value} {es fs : List (String × Value)}

theorem Reordered.entries (h : Reordered (.mapping es) w) :
    ∃ fs, w = .mapping fs ∧ ReorderedEntries es fs := by
  cases h with
  | same h => exact absurd rfl (h es)
  | @mapping es ms fs distinct order names values =>
    have hentries : List.Forall₂ (fun e m => e.1 = m.1 ∧ e.2.Reordered m.2) es ms := by
      rw [← List.forall₂_eq_eq_eq, List.forall₂_map_left_iff, List.forall₂_map_right_iff] at names
      rw [List.forall₂_map_left_iff, List.forall₂_map_right_iff] at values
      exact values.mp (fun _ _ hvalue hname => ⟨hname, hvalue⟩) names
    exact ⟨fs, rfl, distinct, ms, hentries, order⟩

theorem Reordered.single (name : String) (h : Reordered v w) :
    Reordered (.mapping [(name, v)]) (.mapping [(name, w)]) :=
  .mapping (List.nodup_singleton name) (.refl _) rfl (.cons h .nil)

theorem Reordered.swap {j k : String} {v' w' : Value} (hne : j ≠ k) (hv : Reordered v v')
    (hw : Reordered w w') :
    Reordered (.mapping [(j, v), (k, w)]) (.mapping [(k, w'), (j, v')]) :=
  .mapping (List.nodup_cons.mpr ⟨by simpa using hne, List.nodup_singleton k⟩) (.swap ..) rfl
    (.cons hv (.cons hw .nil))

theorem Reordered.number (h : Reordered v w) : v.number = w.number := by
  cases h <;> rfl

theorem Reordered.exponent {n : Int} (h : Reordered v w) :
    v.exponent = .ok n ↔ w.exponent = .ok n := by
  cases h with
  | same => rfl
  | list => exact ⟨nofun, nofun⟩
  | mapping => exact ⟨nofun, nofun⟩

theorem Reordered.text {s : String} (h : Reordered (.text s) w) : w = .text s := by
  cases h
  rfl

end Value

namespace ReorderedEntries

variable {es fs : List (String × Value)}

theorem keys_perm (h : ReorderedEntries es fs) : (es.map Prod.fst).Perm (fs.map Prod.fst) :=
  h.rearranged.map_perm fun _ _ hef => hef.1

theorem distinct_right (h : ReorderedEntries es fs) : (fs.map Prod.fst).Nodup :=
  h.keys_perm.nodup_iff.mp h.distinct

/-- Entries with one name. -/
theorem value (h : ReorderedEntries es fs) {e f : String × Value} (he : e ∈ es) (hf : f ∈ fs)
    (hname : e.1 = f.1) : e.2.Reordered f.2 := by
  obtain ⟨f', hf', hname', hvalue⟩ := h.rearranged.exists_partner he
  rwa [List.inj_on_of_nodup_map h.distinct_right hf' hf (hname'.symm.trans hname)] at hvalue

/-- Under each name the one table has what the other one has. -/
theorem lookup (h : ReorderedEntries es fs) (k : String) :
    Option.Rel Value.Reordered (es.lookup k) (fs.lookup k) := by
  cases he : es.lookup k with
  | none =>
    have hnone : fs.lookup k = none := by
      rw [Keys.lookup_eq_none, ← h.keys_perm.mem_iff]
      exact Keys.lookup_eq_none.mp he
    rw [hnone]
    exact .none
  | some v =>
    obtain ⟨f, hf, hname, hvalue⟩ := h.rearranged.exists_partner (Keys.mem_of_lookup he)
    obtain rfl : k = f.1 := hname
    rw [Keys.lookup_of_mem h.distinct_right hf]
    exact .some hvalue

end ReorderedEntries

/-! ## Named exponents -/

namespace Dimension

variable {es fs : List (String × Value)} {b : BaseDimension}

/-- The last name of a base dimension in a table. -/
def lastName? {β : Type} (es : List (String × β)) (b : BaseDimension) : Option String :=
  (es.reverse.find? fun e => BaseDimension.ofName? e.1 == some b).map (·.1)

/-- Where the last name of a base dimension is the same, its exponent is. -/
theorem hasExponent_reordered (h : ReorderedEntries es fs) (hlast : lastName? es b = lastName? fs b)
    (n : Int) : HasExponent Value.exponent es b n ↔ HasExponent Value.exponent fs b n := by
  unfold lastName? at hlast
  unfold HasExponent lastNamed?
  cases he : es.reverse.find? fun e => BaseDimension.ofName? e.1 == some b with
  | none =>
    rw [he] at hlast
    rw [Option.map_eq_none_iff.mp hlast.symm]
  | some e =>
    rw [he] at hlast
    obtain ⟨f, hf, hname⟩ := Option.map_eq_some_iff.mp hlast.symm
    rw [hf]
    exact (h.value (List.mem_reverse.mp (List.mem_of_find?_eq_some he))
      (List.mem_reverse.mp (List.mem_of_find?_eq_some hf)) hname.symm).exponent

theorem known_reordered (h : ReorderedEntries es fs) :
    (∀ e ∈ es, (BaseDimension.ofName? e.1).isSome = true) ↔
      ∀ f ∈ fs, (BaseDimension.ofName? f.1).isSome = true := by
  have hmap : ∀ es : List (String × Value), (∀ e ∈ es, (BaseDimension.ofName? e.1).isSome = true) ↔
      ∀ k ∈ es.map Prod.fst, (BaseDimension.ofName? k).isSome = true := fun es => by
    rw [List.forall_mem_map]
  simp only [hmap, h.keys_perm.mem_iff]

end Dimension

/-! ## Sheets -/

namespace Table

variable {v w : Value} {a b : Option Value} {spec spec' : Spec} {sheet sheet' : Sheet}

/-- Two specifications that are the same but for the order of keys. -/
structure Spec.Reordered (spec spec' : Spec) : Prop where
  scale : Option.Rel Value.Reordered spec.scale spec'.scale
  dimensions : ReorderedEntries spec.dimensions spec'.dimensions
  offset : spec.offset.Reordered spec'.offset
  names : spec.names = spec'.names

/-- Two sheets that are the same but for the order of keys. -/
structure Sheet.Reordered (sheet sheet' : Sheet) : Prop where
  prefixes : Rearranged (fun p q => p.1 = q.1 ∧ p.2.Reordered q.2) sheet.prefixes sheet'.prefixes
  units : Rearranged (fun u w => u.1 = w.1 ∧ u.2.Reordered w.2) sheet.units sheet'.units

/-- In the dimensions of each unit, the last name of each base dimension is the same. -/
def Sheet.SameLast (sheet sheet' : Sheet) : Prop :=
  ∀ u ∈ sheet.units, ∀ w ∈ sheet'.units, u.1 = w.1 → ∀ b,
    Dimension.lastName? u.2.dimensions b = Dimension.lastName? w.2.dimensions b

/-- Two sheets that are read as the same, up to order. -/
structure Sheet.ReadsAlike (sheet sheet' : Sheet) : Prop where
  prefixes : Rearranged (fun p q => ∀ x, readPrefix p = .ok x ↔ readPrefix q = .ok x)
    sheet.prefixes sheet'.prefixes
  units : Rearranged (fun u w => ∀ l, u.2.read u.1 = .ok l ↔ w.2.read w.1 = .ok l)
    sheet.units sheet'.units

theorem entries?_reordered {es : List (String × Value)} (h : Option.Rel Value.Reordered a b)
    (ha : entries? a = some es) : ∃ fs, entries? b = some fs ∧ ReorderedEntries es fs := by
  unfold entries? at ha
  split at ha
  · cases h
    obtain rfl := Option.some.inj ha
    exact ⟨[], rfl, List.nodup_nil, .nil⟩
  · cases h with
    | some h =>
      obtain rfl := Option.some.inj ha
      obtain ⟨fs, rfl, hentries⟩ := h.entries
      exact ⟨fs, rfl, hentries⟩
  · exact nomatch ha

theorem texts?_reordered {names : List String} (h : Option.Rel Value.Reordered a b)
    (ha : texts? a = some names) : texts? b = some names := by
  unfold texts? at ha
  split at ha
  · cases h
    exact ha
  · rename_i vs
    cases h with
    | some h =>
      cases h with
      | same => exact ha
      | @list vs ws members =>
        obtain rfl := mapM_text?.mp ha
        have hsame : ws = names.map Value.text := by
          rw [List.forall₂_map_left_iff] at members
          rw [eq_comm, ← List.forall₂_eq_eq_eq, List.forall₂_map_left_iff]
          exact members.imp fun _ _ h => h.text.symm
        rw [hsame]
        exact ha
  · exact nomatch ha

theorem getD_reordered (h : Option.Rel Value.Reordered a b) (hv : ∀ es, v ≠ .mapping es) :
    (a.getD v).Reordered (b.getD v) := by
  cases h with
  | none => exact .same hv
  | some h => exact h

theorem number_reordered (h : Option.Rel Value.Reordered a b) (x : Float) :
    (∃ v, a = some v ∧ v.number = .ok x) ↔ ∃ v, b = some v ∧ v.number = .ok x := by
  cases h with
  | none => rfl
  | some h => simp [h.number]

/-- A value that says something about a unit does so in any order of its keys. -/
theorem Spec.of?_reordered (h : v.Reordered w) (hspec : Spec.of? v = some spec) :
    ∃ spec', Spec.of? w = some spec' ∧ spec.Reordered spec' := by
  obtain ⟨es, rfl, hscale, hdimensions, hoffset, hnames⟩ := Spec.of?_eq_some.mp hspec
  obtain ⟨fs, rfl, hentries⟩ := h.entries
  obtain ⟨ds, hds, hreordered⟩ := entries?_reordered (hentries.lookup "dimensions") hdimensions
  have hoffset' : spec.offset.Reordered ((fs.lookup "offset").getD (.real 0)) := by
    rw [hoffset]
    exact getD_reordered (hentries.lookup "offset") nofun
  refine ⟨⟨fs.lookup "scale", ds, (fs.lookup "offset").getD (.real 0), spec.names⟩,
    Spec.of?_eq_some.mpr ⟨fs, rfl, rfl, hds, rfl,
      texts?_reordered (hentries.lookup "aliases") hnames⟩, ?_, hreordered, hoffset', rfl⟩
  rw [hscale]
  exact hentries.lookup "scale"

/-- **A table in shape is in shape in any order of its keys.** -/
theorem Sheet.of?_reordered (h : v.Reordered w) (hsheet : Sheet.of? v = some sheet) :
    ∃ sheet', Sheet.of? w = some sheet' ∧ sheet.Reordered sheet' := by
  obtain ⟨es, units, rfl, hprefixes, hunits, hspecs⟩ := Sheet.of?_eq_some.mp hsheet
  obtain ⟨fs, rfl, hentries⟩ := h.entries
  obtain ⟨ps, hps, hreordered⟩ := entries?_reordered (hentries.lookup "prefixes") hprefixes
  obtain ⟨us, hus, hunits'⟩ := entries?_reordered (hentries.lookup "units") hunits
  have hunit : ∀ (e f : String × Value) (u : String × Spec), (e.1 = f.1 ∧ e.2.Reordered f.2) →
      (e.1 = u.1 ∧ Spec.of? e.2 = some u.2) → ∃ w : String × Spec,
        (f.1 = w.1 ∧ Spec.of? f.2 = some w.2) ∧ u.1 = w.1 ∧ u.2.Reordered w.2 := by
    rintro e f u ⟨hname, hvalue⟩ ⟨hsymbol, hspec⟩
    obtain ⟨spec', hspec', hspecs'⟩ := Spec.of?_reordered hvalue hspec
    exact ⟨(f.1, spec'), ⟨rfl, hspec'⟩, hsymbol.symm.trans hname, hspecs'⟩
  obtain ⟨ws, hws, hrearranged⟩ := hunits'.rearranged.forall₂ (specs?_eq_some.mp hspecs) hunit
  exact ⟨⟨ps, ws⟩, Sheet.of?_eq_some.mpr ⟨fs, us, rfl, hps, hus, specs?_eq_some.mpr hws⟩,
    hreordered.rearranged, hrearranged⟩

theorem Spec.read_reordered {symbol : String} {l : Listing Float} (h : spec.Reordered spec')
    (hlast : ∀ b, Dimension.lastName? spec.dimensions b = Dimension.lastName? spec'.dimensions b) :
    spec.read symbol = .ok l ↔ spec'.read symbol = .ok l := by
  rw [Spec.read_ok, Spec.read_ok, Dimension.ofNamed_ok, Dimension.ofNamed_ok, h.names,
    Dimension.known_reordered h.dimensions, h.offset.number, number_reordered h.scale]
  simp only [Dimension.hasExponent_reordered h.dimensions (hlast _)]

/-- **Sheets of reordered tables are read as the same.** -/
theorem Sheet.Reordered.readsAlike (h : sheet.Reordered sheet') (hlast : sheet.SameLast sheet') :
    sheet.ReadsAlike sheet' where
  prefixes := h.prefixes.imp fun p _ q _ hpq x => by
    rw [readPrefix_ok, readPrefix_ok, hpq.1, hpq.2.number]
  units := h.units.imp fun u hu w hw huw l => by
    rw [huw.1]
    exact Spec.read_reordered huw.2 (hlast u hu w hw huw.1)

theorem Sheet.ReadsAlike.symm (h : sheet.ReadsAlike sheet') : sheet'.ReadsAlike sheet where
  prefixes := h.prefixes.flip.imp fun _ _ _ _ hpq x => (hpq x).symm
  units := h.units.flip.imp fun _ _ _ _ huw l => (huw l).symm

end Table

/-! ## Registries -/

namespace Registry

open Table

variable {reg : Registry Float} {v v' : Value} {sheet sheet' : Sheet} {text text' : String}

theorem Takes.perm {ps qs : List (String × Float)} {ls ms : List (Listing Float)}
    (h : reg.Takes ps ls) (hps : ps.Perm qs) (hls : ls.Perm ms) : reg.Takes qs ms where
  factor q hq := h.factor q (hps.mem_iff.mpr hq)
  prefixKeys := (hps.map _).nodup_iff.mp h.prefixKeys
  prefixFree q hq := h.prefixFree q (hps.mem_iff.mpr hq)
  unit l hl := h.unit l (hls.mem_iff.mpr hl)
  fresh := h.fresh.perm hls

/-- Two registries in which every name stands for the same. -/
structure LooksUpAlike (reg reg' : Registry Float) : Prop where
  name : ∀ n, reg'.lookupName n = reg.lookupName n
  factor : ∀ s, reg'.lookupPrefix s = reg.lookupPrefix s

/-- **What is read as the same is loaded alike.** -/
theorem load_readsAlike (hread : Document.read text = .ok v) (hsheet : Sheet.of? v = some sheet)
    (hread' : Document.read text' = .ok v') (hsheet' : Sheet.of? v' = some sheet')
    (h : sheet.ReadsAlike sheet') {reg₁ : Registry Float} {n : Nat}
    (hload : reg.load text = (reg₁, .ok n)) :
    ∃ reg₂, reg.load text' = (reg₂, .ok n) ∧ reg₁.LooksUpAlike reg₂ := by
  obtain ⟨rfl, hrun⟩ := (load_eq_ok hread hsheet).mp hload
  obtain ⟨ps, ls, hps, hls, htakes, rfl⟩ := (insertAll_ofDocument hsheet).mp hrun
  obtain ⟨qs, hqs, hpsqs⟩ := h.prefixes.mapM_ok hps
  obtain ⟨ms, hms, hlsms⟩ := h.units.mapM_ok hls
  have hrun' := (insertAll_ofDocument hsheet').mpr
    ⟨qs, ms, hqs, hms, htakes.perm hpsqs hlsms, rfl⟩
  refine ⟨_, (load_eq_ok hread' hsheet').mpr ⟨h.units.length_eq.symm, hrun'⟩,
    fun n => ?_, fun s => ?_⟩
  · exact (lookupName_listed_perm (fresh_prefixed.mpr htakes.fresh) hlsms n).symm
  · exact (lookupPrefix_prefixed_perm hpsqs htakes.prefixKeys s).symm

/-- **When a document in shape is loaded**, what becomes of the registry then, and that another order
of its keys makes no difference to either, as long as in the dimensions of every unit the last name of
each base dimension is the same. -/
theorem load_table (reg : Registry Float) (hread : Document.read text = .ok v)
    (hsheet : Sheet.of? v = some sheet) :
    ((∃ n, (reg.load text).2 = .ok n) ↔ sheet.Loads reg) ∧
      (sheet.Loads reg → (reg.load text).2 = .ok sheet.units.length ∧
        reg.Loaded sheet (reg.load text).1) ∧
      ∀ text' v', Document.read text' = .ok v' → v.Reordered v' →
        ∃ sheet', Sheet.of? v' = some sheet' ∧ (sheet.SameLast sheet' →
          ((∃ n, (reg.load text).2 = .ok n) ↔ ∃ n, (reg.load text').2 = .ok n) ∧
            ∀ n, (reg.load text).2 = .ok n → (reg.load text').2 = .ok n ∧
              (reg.load text).1.LooksUpAlike (reg.load text').1) := by
  obtain ⟨hok, hloaded⟩ := load_ok hread hsheet reg
  refine ⟨hok, hloaded, fun text' v' hread' hreordered => ?_⟩
  obtain ⟨sheet', hsheet', hsheets⟩ := Sheet.of?_reordered hreordered hsheet
  refine ⟨sheet', hsheet', fun hlast => ?_⟩
  have halike := hsheets.readsAlike hlast
  have hsame : ∀ n, (reg.load text).2 = .ok n → (reg.load text').2 = .ok n ∧
      (reg.load text).1.LooksUpAlike (reg.load text').1 := fun n hn => by
    obtain ⟨reg₂, hload', hlookup⟩ := load_readsAlike hread hsheet hread' hsheet' halike
      (Prod.ext rfl hn)
    rw [hload']
    exact ⟨rfl, hlookup⟩
  -- Being read alike is symmetric, being reordered need not be shown to be.
  refine ⟨⟨fun ⟨n, hn⟩ => ⟨n, (hsame n hn).1⟩, fun ⟨n, hn⟩ => ?_⟩, hsame⟩
  obtain ⟨reg₁, hload, -⟩ := load_readsAlike hread' hsheet' hread hsheet halike.symm
    (Prod.ext rfl hn)
  exact ⟨n, congrArg Prod.snd hload⟩

/-- A document with one unit, and the same one with its keys in another order. -/
theorem load_table_hop :
    let reg : Registry Float := .empty
    let text := "\x7b\"units\":\x7b\"hop\":\x7b\"scale\":3,\"dimensions\":\x7b\"length\":1," ++
      "\"time\":-1\x7d,\"aliases\":[\"skip\"]\x7d\x7d,\"prefixes\":\x7b\x7d\x7d"
    let text' := "\x7b\"prefixes\":\x7b\x7d,\"units\":\x7b\"hop\":\x7b\"dimensions\":" ++
      "\x7b\"time\":-1,\"length\":1\x7d,\"scale\":3,\"aliases\":[\"skip\"]\x7d\x7d\x7d"
    let v : Value := .mapping [("units", .mapping [("hop", .mapping [("scale", .integer 3),
      ("dimensions", .mapping [("length", .integer 1), ("time", .integer (-1))]),
      ("aliases", .list [.text "skip"])])]), ("prefixes", .mapping [])]
    let v' : Value := .mapping [("prefixes", .mapping []), ("units", .mapping [("hop", .mapping
      [("dimensions", .mapping [("time", .integer (-1)), ("length", .integer 1)]),
      ("scale", .integer 3), ("aliases", .list [.text "skip"])])])]
    let hop (dimensions : List (String × Value)) : Spec :=
      ⟨some (.integer 3), dimensions, .real 0, ["skip"]⟩
    let sheet : Sheet := ⟨[], [("hop", hop [("length", .integer 1), ("time", .integer (-1))])]⟩
    let sheet' : Sheet := ⟨[], [("hop", hop [("time", .integer (-1)), ("length", .integer 1)])]⟩
    (Document.read text = .ok v ∧ Sheet.of? v = some sheet ∧ Document.read text' = .ok v' ∧
      v.Reordered v' ∧ Sheet.of? v' = some sheet' ∧ sheet.SameLast sheet' ∧
        (reg.load text).2 = .ok 1) ∧
      sheet.Loads reg ∧ reg.Loaded sheet (reg.load text).1 ∧ (reg.load text').2 = .ok 1 ∧
        (reg.load text).1.LooksUpAlike (reg.load text').1 := by
  intro reg text text' v v' hop sheet sheet'
  have hread : Document.read text = .ok v := by
    unfold Document.read text
    simp only [String.reduceToList, String.reduceAppend]
    rfl
  have hread' : Document.read text' = .ok v' := by
    unfold Document.read text'
    simp only [String.reduceToList, String.reduceAppend]
    rfl
  have hload : (reg.load text).2 = .ok 1 := by decide +kernel
  have hreordered : v.Reordered v' := by
    have hdimensions := Value.Reordered.swap (j := "length") (k := "time") (by decide)
      (.same (v := .integer 1) nofun) (.same (v := .integer (-1)) nofun)
    have hhop : Value.Reordered (.mapping [("scale", _), ("dimensions", _), ("aliases", _)])
        (.mapping [("dimensions", _), ("scale", _), ("aliases", _)]) :=
      .mapping (by simp) (.swap ..) (by rfl) (.cons (.same (v := .integer 3) nofun)
        (.cons hdimensions (.cons (.same (v := .list [.text "skip"]) nofun) .nil)))
    exact .swap (by decide) (.single "hop" hhop) (.mapping List.nodup_nil .nil rfl .nil)
  have hlast : sheet.SameLast sheet' := by
    rintro u hu w hw - b
    obtain rfl := List.mem_singleton.mp hu
    obtain rfl := List.mem_singleton.mp hw
    cases b <;> rfl
  have hsheet : Sheet.of? v = some sheet := rfl
  obtain ⟨hloads, hloaded, horder⟩ := load_table reg hread hsheet
  obtain ⟨_, hsheet', hsame⟩ := horder text' v' hread' hreordered
  obtain rfl := Option.some.inj hsheet'
  have h := hloads.mp ⟨1, hload⟩
  exact ⟨⟨hread, hsheet, hread', hreordered, rfl, hlast, hload⟩, h, (hloaded h).2,
    (hsame hlast).2 1 hload⟩

/-- **Where mass is named twice, the order counts**: the last exponent must be whole, and the one
before it need not be. -/
theorem load_mass_twice :
    let reg : Registry Float := .empty
    let text := "\x7b\"units\":\x7b\"u\":\x7b\"scale\":1," ++
      "\"dimensions\":\x7b\"mass\":1.5,\"MASS\":2\x7d\x7d\x7d\x7d"
    let text' := "\x7b\"units\":\x7b\"u\":\x7b\"scale\":1," ++
      "\"dimensions\":\x7b\"MASS\":2,\"mass\":1.5\x7d\x7d\x7d\x7d"
    let unit (dimensions : List (String × Value)) : Value :=
      .mapping [("scale", .integer 1), ("dimensions", .mapping dimensions)]
    let table (dimensions : List (String × Value)) : Value :=
      .mapping [("units", .mapping [("u", unit dimensions)])]
    let v := table [("mass", .real 1.5), ("MASS", .integer 2)]
    let v' := table [("MASS", .integer 2), ("mass", .real 1.5)]
    Document.read text = .ok v ∧ Document.read text' = .ok v' ∧ v.Reordered v' ∧
      (Value.real 1.5).exponent = .error (.fractionalExponent "1.5") ∧
        (reg.load text).2 = .ok 1 ∧
          (reg.load text').2 = .error (.fractionalExponent "1.5") := by
  intro reg text text' unit table v v'
  refine ⟨?_, ?_, ?_, by decide +kernel, by decide +kernel, by decide +kernel⟩
  · unfold Document.read text
    simp only [String.reduceToList, String.reduceAppend]
    rfl
  · unfold Document.read text'
    simp only [String.reduceToList, String.reduceAppend]
    rfl
  · have hdimensions := Value.Reordered.swap (j := "mass") (k := "MASS") (by decide)
      (.same (v := .real 1.5) nofun) (.same (v := .integer 2) nofun)
    have hunit : Value.Reordered (unit [("mass", .real 1.5), ("MASS", .integer 2)])
        (unit [("MASS", .integer 2), ("mass", .real 1.5)]) :=
      .mapping (by simp) (.refl _) rfl
        (.cons (.same (v := .integer 1) nofun) (.cons hdimensions .nil))
    exact .single "units" (.single "u" hunit)

end Registry

end Quantities
