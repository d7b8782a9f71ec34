import Mathlib.Data.List.Find
import Quantities.Proofs.Unit.Consistency

/-!
# Many insertions, one after the other

A step that inserts something asks for keys that are free, and takes them. So a run of steps asks for
keys that are free at its start, and of which no two are the same.

* `Keyed` are such steps, and `Keyed.foldlM` says when a run of them succeeds.
* `Listing`: a unit with its other names, and `list` inserts it.
* `foldlM_registerPrefix`, `foldlM_list`: when a run of prefixes or of units with their other names
  succeeds. The registry is then `prefixed` or `listed`.
* `Fresh.lookupUnit`, `lookupPrefix_prefixed`: what was inserted is found.
* **`lookupName_listed_perm`**, **`lookupPrefix_prefixed_perm`**: the order in which it was inserted
  makes no difference.
-/

namespace Quantities

/-! ## Steps with keys -/

section

variable {σ β κ : Type} {step : σ → β → Outcome σ} {inv : σ → Prop} {valid : β → Prop}
  {keys : β → List κ} {free : σ → κ → Prop} {extend : σ → List β → σ}

/-- Steps that take keys. Each one asks for something of its argument alone, and for its keys to be
free; `inv` holds at all times. -/
structure Keyed (step : σ → β → Outcome σ) (inv : σ → Prop) (valid : β → Prop)
    (keys : β → List κ) (free : σ → κ → Prop) (extend : σ → List β → σ) : Prop where
  ok : ∀ {s b s'}, inv s → (step s b = .ok s' ↔
    valid b ∧ (keys b).Nodup ∧ (∀ k ∈ keys b, free s k) ∧ s' = extend s [b])
  inv : ∀ {s b}, inv s → inv (extend s [b])
  free : ∀ {s b k}, free (extend s [b]) k ↔ free s k ∧ k ∉ keys b
  nil : ∀ s, extend s [] = s
  cons : ∀ s b bs, extend (extend s [b]) bs = extend s (b :: bs)

/-- **When a run of such steps succeeds.** The induction is on the run: what is free behind its
first step is free before it, and no key of that step. -/
theorem Keyed.foldlM (h : Keyed step inv valid keys free extend) : ∀ {bs : List β} {s s' : σ},
    inv s → (bs.foldlM step s = .ok s' ↔ (∀ b ∈ bs, valid b) ∧ (bs.flatMap keys).Nodup ∧
      (∀ k ∈ bs.flatMap keys, free s k) ∧ s' = extend s bs)
  | [], s, s', _ => by
    rw [List.foldlM_nil, h.nil]
    constructor
    · intro hs
      exact ⟨nofun, .nil, nofun, (Except.ok.inj hs).symm⟩
    · rintro ⟨-, -, -, rfl⟩
      rfl
  | b :: bs, s, s', hs => by
    rw [List.foldlM_cons, Outcome.bind_ok, List.flatMap_cons, List.nodup_append',
      List.forall_mem_append, List.forall_mem_cons, ← h.cons]
    constructor
    · rintro ⟨s₁, hstep, hrest⟩
      obtain ⟨hvalid, hnodup, hfree, rfl⟩ := (h.ok hs).mp hstep
      obtain ⟨hvalids, hnodups, hfrees, rfl⟩ := (h.foldlM (h.inv hs)).mp hrest
      have hnew : ∀ k ∈ bs.flatMap keys, free s k ∧ k ∉ keys b := fun k hk =>
        h.free.mp (hfrees k hk)
      exact ⟨⟨hvalid, hvalids⟩, ⟨hnodup, hnodups, fun k hk hk' => (hnew k hk').2 hk⟩,
        ⟨hfree, fun k hk => (hnew k hk).1⟩, rfl⟩
    · rintro ⟨⟨hvalid, hvalids⟩, ⟨hnodup, hnodups, hdisjoint⟩, ⟨hfree, hfrees⟩, rfl⟩
      refine ⟨extend s [b], (h.ok hs).mpr ⟨hvalid, hnodup, hfree, rfl⟩, ?_⟩
      refine (h.foldlM (h.inv hs)).mpr ⟨hvalids, hnodups, fun k hk => ?_, rfl⟩
      exact h.free.mpr ⟨hfrees k hk, fun hk' => hdisjoint hk' hk⟩

end

namespace Registry

variable {α : Type} {reg reg' : Registry α} {k : String}

/-! ## Prefixes -/

/-- The registry with more prefixes. -/
def prefixed (reg : Registry α) (ps : List (String × α)) : Registry α :=
  { reg with prefixes := reg.prefixes ++ ps.map fun p => (normalize p.1, p.2) }

theorem storedKeys_eq (ps : List (String × α)) :
    (ps.map fun p => (normalize p.1, p.2)).map Prod.fst = ps.map fun p => normalize p.1 := by
  rw [List.map_map]
  rfl

variable [Scalar α]

theorem keyed_registerPrefix : Keyed (fun (reg : Registry α) p => reg.registerPrefix p.1 p.2)
    (fun _ => True) (fun p => normalize p.1 ≠ "" ∧ Scalar.isFactor p.2 = true)
    (fun p => [normalize p.1]) (fun reg k => reg.prefixes.lookup k = none) prefixed where
  ok _ := by
    rw [registerPrefix_ok, List.forall_mem_singleton]
    constructor
    · rintro ⟨hne, hfree, hfactor, h⟩
      exact ⟨⟨hne, hfactor⟩, List.nodup_singleton _, hfree, h⟩
    · rintro ⟨⟨hne, hfactor⟩, -, hfree, h⟩
      exact ⟨hne, hfree, hfactor, h⟩
  inv _ := trivial
  free := by
    intro reg p k
    rw [prefixed, Keys.lookup_eq_none, Keys.lookup_eq_none, List.map_append, List.mem_append, not_or]
    rfl
  nil reg := by rw [prefixed, List.map_nil, List.append_nil]
  cons reg p ps := by simp only [prefixed, List.map_cons, List.map_nil, List.append_assoc,
    List.singleton_append]

/-- When a run of prefixes is inserted. -/
theorem foldlM_registerPrefix {ps : List (String × α)} :
    ps.foldlM (fun reg p => registerPrefix reg p.1 p.2) reg = .ok reg' ↔
      (∀ p ∈ ps, normalize p.1 ≠ "" ∧ Scalar.isFactor p.2 = true) ∧
        (ps.map fun p => normalize p.1).Nodup ∧
          (∀ p ∈ ps, reg.prefixes.lookup (normalize p.1) = none) ∧ reg' = reg.prefixed ps := by
  rw [keyed_registerPrefix.foldlM trivial, ← List.map_eq_flatMap, List.forall_mem_map]

/-! ## Other names -/

omit [Scalar α] in
theorem isFree_text :
    reg.IsFree (.text k) ↔ k ∉ reg.units.map Prod.fst ∧ ∀ a ∈ reg.aliases, a.1 ≠ .text k := by
  have hsame : ∀ n : Name, n.isSame (.text k) = false ↔ n ≠ .text k := fun n => by
    cases n <;> simp
  constructor
  · intro h
    refine ⟨Keys.lookup_eq_none.mp h.unit, fun a ha => (hsame a.1).mp ?_⟩
    simpa using List.find?_eq_none.mp (Option.map_eq_none_iff.mp h.target) a ha
  · rintro ⟨hunit, hname⟩
    refine ⟨Keys.lookup_eq_none.mpr hunit, Option.map_eq_none_iff.mpr <|
      List.find?_eq_none.mpr fun a ha => ?_⟩
    simpa using (hsame a.1).mpr (hname a ha)

/-- The registry with more texts as other names for one unit. -/
def named (symbol : String) (reg : Registry α) (names : List String) : Registry α :=
  { reg with aliases :=
      reg.aliases ++ names.map fun n => (.text (normalize n), normalize symbol) }

omit [Scalar α] in
theorem keyed_registerName (symbol : String) :
    Keyed (fun (reg : Registry α) n => reg.registerName (.text n) symbol)
      (fun reg => (reg.units.lookup (normalize symbol)).isSome) (fun _ => True)
      (fun n => [normalize n]) (fun reg k => reg.IsFree (.text k)) (named symbol) where
  ok hknown := by
    rw [registerName_ok, List.forall_mem_singleton]
    constructor
    · rintro ⟨-, hfree, h⟩
      exact ⟨trivial, List.nodup_singleton _, hfree, h⟩
    · rintro ⟨-, -, hfree, h⟩
      exact ⟨hknown, hfree, h⟩
  inv h := h
  free := by
    intro reg n k
    rw [isFree_text, isFree_text, named, List.forall_mem_append, List.mem_singleton, and_assoc]
    simp [eq_comm]
  nil reg := by rw [named, List.map_nil, List.append_nil]
  cons reg n ns := by simp only [named, List.map_cons, List.map_nil, List.append_assoc,
    List.singleton_append]

omit [Scalar α] in
/-- When texts are inserted as other names for a unit. -/
theorem foldlM_registerName {symbol : String} {names : List String}
    (hknown : (reg.units.lookup (normalize symbol)).isSome) :
    names.foldlM (fun reg n => registerName reg (.text n) symbol) reg = .ok reg' ↔
      (names.map normalize).Nodup ∧ (∀ k ∈ names.map normalize, reg.IsFree (.text k)) ∧
        reg' = named symbol reg names := by
  rw [(keyed_registerName symbol).foldlM hknown, ← List.map_eq_flatMap]
  simp

/-! ## Units with their other names -/

end Registry

/-- A unit that is to be inserted, with other names for it. -/
structure Listing (α : Type) where
  symbol : String
  scale : α
  dimension : Dimension
  offset : α
  names : List String

namespace Listing

variable {α : Type}

/-- The symbol as it is stored. -/
def key (l : Listing α) : String := normalize l.symbol

/-- The unit as it is stored. -/
def entry (l : Listing α) : UnitEntry α := ⟨l.key, l.scale, l.dimension, l.offset, .number⟩

/-- All that the unit is to be called, as it is stored. -/
def keys (l : Listing α) : List String := l.key :: l.names.map normalize

/-- The other names as they are stored, with what they stand for. -/
def aliases (l : Listing α) : List (Name × String) :=
  l.names.map fun n => (.text (normalize n), l.key)

/-- The keys of units with other names are the symbols and the other names. -/
theorem perm_keys (ls : List (Listing α)) :
    (ls.map key ++ ls.flatMap fun l => l.names.map normalize).Perm (ls.flatMap keys) := by
  rw [List.map_eq_flatMap]
  exact List.flatMap_append_perm ls _ _

/-- What is asked of the unit alone. -/
structure IsValid [Scalar α] (l : Listing α) : Prop where
  ne_empty : l.key ≠ ""
  scale : Scalar.isFactor l.scale = true
  offset : Scalar.isFinite l.offset = true

end Listing

namespace Registry

variable {α : Type} {reg reg' : Registry α} {l : Listing α} {ls ls' : List (Listing α)}

/-- The registry with more units and their other names. -/
def listed (reg : Registry α) (ls : List (Listing α)) : Registry α :=
  { reg with
    units := reg.units ++ ls.map fun l => (l.key, l.entry)
    aliases := reg.aliases ++ ls.flatMap Listing.aliases }

/-- Units with other names whose keys are new to a registry. -/
structure Fresh (reg : Registry α) (ls : List (Listing α)) : Prop where
  nodup : (ls.flatMap Listing.keys).Nodup
  free : ∀ k ∈ ls.flatMap Listing.keys, reg.IsFree (.text k)

/-- Prefixes take no names away. -/
theorem fresh_prefixed {ps : List (String × α)} : (reg.prefixed ps).Fresh ls ↔ reg.Fresh ls :=
  ⟨fun h => ⟨h.nodup, fun k hk => ⟨(h.free k hk).unit, (h.free k hk).target⟩⟩,
    fun h => ⟨h.nodup, fun k hk => ⟨(h.free k hk).unit, (h.free k hk).target⟩⟩⟩

theorem not_mem_keys {k : String} : k ∉ ls.flatMap Listing.keys ↔
    k ∉ ls.map Listing.key ∧ ∀ a ∈ ls.flatMap Listing.aliases, a.1 ≠ .text k := by
  constructor
  · intro h
    refine ⟨fun hk => ?_, fun a ha hname => ?_⟩
    · obtain ⟨l, hl, rfl⟩ := List.mem_map.mp hk
      exact h (List.mem_flatMap.mpr ⟨l, hl, List.mem_cons_self⟩)
    · obtain ⟨l, hl, ha⟩ := List.mem_flatMap.mp ha
      obtain ⟨n, hn, rfl⟩ := List.mem_map.mp ha
      obtain rfl := Name.text.inj hname
      exact h (List.mem_flatMap.mpr ⟨l, hl, List.mem_cons_of_mem _ (List.mem_map_of_mem hn)⟩)
  · rintro ⟨hkey, hname⟩ hk
    obtain ⟨l, hl, hk⟩ := List.mem_flatMap.mp hk
    rcases List.mem_cons.mp hk with rfl | hk
    · exact hkey (List.mem_map_of_mem hl)
    · obtain ⟨n, hn, rfl⟩ := List.mem_map.mp hk
      exact hname (.text (normalize n), l.key)
        (List.mem_flatMap.mpr ⟨l, hl, List.mem_map_of_mem hn⟩) rfl

/-- A name is free where it was, unless it was taken by one of the units. -/
theorem isFree_listed {k : String} :
    (reg.listed ls).IsFree (.text k) ↔ reg.IsFree (.text k) ∧ k ∉ ls.flatMap Listing.keys := by
  have hunits : (ls.map fun l => (l.key, l.entry)).map Prod.fst = ls.map Listing.key := by
    rw [List.map_map]
    rfl
  rw [isFree_text, isFree_text, not_mem_keys, listed, List.forall_mem_append, List.map_append,
    hunits, List.mem_append, not_or]
  tauto

/-- A name is free where it was, unless it is the symbol of a new unit. -/
theorem isFree_unit {k symbol : String} {e : UnitEntry α} :
    IsFree { reg with units := reg.units ++ [(symbol, e)] } (.text k) ↔
      reg.IsFree (.text k) ∧ k ≠ symbol := by
  rw [isFree_text, isFree_text, List.map_append, List.mem_append, not_or, List.map_singleton,
    List.mem_singleton]
  tauto

variable [Scalar α]

/-- The registry with one more unit and then its other names, one by one. -/
def list (reg : Registry α) (l : Listing α) : Outcome (Registry α) := do
  let reg ← reg.insert (.unit l.symbol l.scale l.dimension l.offset)
  l.names.foldlM (fun reg n => reg.registerName (.text n) l.symbol) reg

theorem insert_unit_ok {symbol : String} {scale offset : α} {d : Dimension} :
    reg.insert (.unit symbol scale d offset) = .ok reg' ↔
      (Scalar.isFactor scale = true ∧ Scalar.isFinite offset = true) ∧ normalize symbol ≠ "" ∧
        reg.IsFree (.text (normalize symbol)) ∧ reg' = { reg with units := reg.units ++
          [(normalize symbol, ⟨normalize symbol, scale, d, offset, .number⟩)] } := by
  unfold insert
  rw [Outcome.bind_ok]
  constructor
  · rintro ⟨e, he, h⟩
    obtain ⟨hscale, hoffset, rfl⟩ := UnitEntry.make_ok.mp he
    obtain ⟨hne, hfree, rfl⟩ := register_ok.mp h
    exact ⟨⟨hscale, hoffset⟩, hne, hfree, rfl⟩
  · rintro ⟨⟨hscale, hoffset⟩, hne, hfree, rfl⟩
    exact ⟨_, UnitEntry.make_ok.mpr ⟨hscale, hoffset, rfl⟩, register_ok.mpr ⟨hne, hfree, rfl⟩⟩

/-- When a unit and its other names are inserted. -/
theorem list_ok : reg.list l = .ok reg' ↔ l.IsValid ∧ l.keys.Nodup ∧
    (∀ k ∈ l.keys, reg.IsFree (.text k)) ∧ reg' = reg.listed [l] := by
  have hknown : ((reg.units ++ [(l.key, l.entry)]).lookup l.key).isSome := by
    rw [Keys.isSome_lookup, List.map_append]
    exact List.mem_append_right _ List.mem_cons_self
  have hlisted : named l.symbol { reg with units := reg.units ++ [(l.key, l.entry)] } l.names =
      reg.listed [l] := by
    rw [named, listed, List.flatMap_singleton]
    rfl
  have hnames : l.names.foldlM (fun reg n => reg.registerName (.text n) l.symbol)
      { reg with units := reg.units ++ [(l.key, l.entry)] } = .ok reg' ↔
        (l.names.map normalize).Nodup ∧ (∀ k ∈ l.names.map normalize,
          reg.IsFree (.text k) ∧ k ≠ l.key) ∧ reg' = reg.listed [l] := by
    refine Iff.trans (foldlM_registerName hknown) ?_
    rw [hlisted]
    simp only [isFree_unit]
  unfold list
  rw [Outcome.bind_ok, Listing.keys, List.nodup_cons, List.forall_mem_cons]
  constructor
  · rintro ⟨_, hunit, h⟩
    obtain ⟨⟨hscale, hoffset⟩, hne, hfree, rfl⟩ := insert_unit_ok.mp hunit
    obtain ⟨hnodup, hkeys, rfl⟩ := hnames.mp h
    exact ⟨⟨hne, hscale, hoffset⟩, ⟨fun hk => (hkeys _ hk).2 rfl, hnodup⟩,
      ⟨hfree, fun k hk => (hkeys k hk).1⟩, rfl⟩
  · rintro ⟨⟨hne, hscale, hoffset⟩, ⟨hkey, hnodup⟩, ⟨hfree, hkeys⟩, rfl⟩
    refine ⟨_, insert_unit_ok.mpr ⟨⟨hscale, hoffset⟩, hne, hfree, rfl⟩, hnames.mpr
      ⟨hnodup, fun k hk => ⟨hkeys k hk, ?_⟩, rfl⟩⟩
    rintro rfl
    exact hkey hk

theorem keyed_list : Keyed (@list α _) (fun _ => True) Listing.IsValid Listing.keys
    (fun reg k => reg.IsFree (.text k)) listed where
  ok _ := list_ok
  inv _ := trivial
  free := by
    intro reg l k
    rw [isFree_listed, List.flatMap_singleton]
  nil reg := by rw [listed, List.map_nil, List.flatMap_nil, List.append_nil, List.append_nil]
  cons reg l ls := by simp only [listed, List.map_cons, List.map_nil, List.flatMap_cons,
    List.flatMap_nil, List.append_nil, List.append_assoc, List.singleton_append]

/-- **When a run of units with their other names is inserted.** -/
theorem foldlM_list : ls.foldlM list reg = .ok reg' ↔
    (∀ l ∈ ls, l.IsValid) ∧ reg.Fresh ls ∧ reg' = reg.listed ls := by
  rw [keyed_list.foldlM trivial]
  exact ⟨fun ⟨hvalid, hnodup, hfree, h⟩ => ⟨hvalid, ⟨hnodup, hfree⟩, h⟩,
    fun ⟨hvalid, hfresh, h⟩ => ⟨hvalid, hfresh.nodup, hfresh.free, h⟩⟩

end Registry

/-! ## Look-up -/

namespace Registry

variable {α : Type} {reg reg' : Registry α} {l : Listing α} {ls ls' : List (Listing α)}

/-- What was inserted as a prefix is found. -/
theorem lookupPrefix_prefixed {ps : List (String × α)} {p : String × α} {s : String}
    (nodup : (ps.map fun p => normalize p.1).Nodup)
    (free : ∀ p ∈ ps, reg.prefixes.lookup (normalize p.1) = none) (hp : p ∈ ps)
    (hs : normalize s = normalize p.1) : (reg.prefixed ps).lookupPrefix s = some p.2 := by
  rw [lookupPrefix, prefixed, hs, List.lookup_append, free p hp, Option.none_or]
  exact Keys.lookup_of_mem (storedKeys_eq ps ▸ nodup) (List.mem_map_of_mem hp)

/-- The order of the prefixes makes no difference. -/
theorem lookupPrefix_prefixed_perm {ps qs : List (String × α)} (h : ps.Perm qs)
    (nodup : (ps.map fun p => normalize p.1).Nodup) (s : String) :
    (reg.prefixed ps).lookupPrefix s = (reg.prefixed qs).lookupPrefix s := by
  rw [lookupPrefix, lookupPrefix, prefixed, prefixed, List.lookup_append, List.lookup_append,
    Keys.lookup_perm (h.map _) (storedKeys_eq ps ▸ nodup)]

theorem Fresh.perm (h : reg.Fresh ls) (hperm : ls.Perm ls') : reg.Fresh ls' :=
  ⟨(hperm.flatMap_right _).nodup_iff.mp h.nodup,
    fun k hk => h.free k ((hperm.flatMap_right _).mem_iff.mpr hk)⟩

theorem Fresh.unitKeys (h : reg.Fresh ls) :
    ((ls.map fun l => (l.key, l.entry)).map Prod.fst).Nodup := by
  rw [List.map_map]
  exact (List.nodup_append'.mp ((Listing.perm_keys ls).nodup_iff.mpr h.nodup)).1

theorem Fresh.nameKeys (h : reg.Fresh ls) : ((ls.flatMap Listing.aliases).map Prod.fst).Nodup := by
  have hnames := (List.nodup_append'.mp ((Listing.perm_keys ls).nodup_iff.mpr h.nodup)).2.1
  have htexts : (ls.flatMap Listing.aliases).map Prod.fst =
      (ls.flatMap fun l => l.names.map normalize).map Name.text := by
    simp only [List.map_flatMap, Listing.aliases, List.map_map]
    rfl
  rw [htexts]
  exact hnames.map fun _ _ => Name.text.inj

/-- A key is one of one unit only. -/
theorem Fresh.eq_of_mem (h : reg.Fresh ls) {k : String} {m : Listing α} (hl : l ∈ ls) (hm : m ∈ ls)
    (hkl : k ∈ l.keys) (hkm : k ∈ m.keys) : l = m := by
  by_contra hne
  have hpairs := (List.nodup_flatMap.mp h.nodup).2
  have hsymm : Std.Symm (Function.onFun List.Disjoint (@Listing.keys α)) :=
    ⟨fun _ _ hd => List.Disjoint.symm hd⟩
  exact hpairs.forall hl hm hne hkl hkm

theorem exists_text_of_mem_aliases {a : Name × String} (ha : a ∈ ls.flatMap Listing.aliases) :
    ∃ l ∈ ls, ∃ n ∈ l.names, a = (.text (normalize n), l.key) := by
  obtain ⟨l, hl, ha⟩ := List.mem_flatMap.mp ha
  obtain ⟨n, hn, rfl⟩ := List.mem_map.mp ha
  exact ⟨l, hl, n, hn, rfl⟩

/-- A name is the same as one new name at most. -/
theorem Fresh.eq_of_isSame (h : reg.Fresh ls) {a b : Name × String} {n : Name}
    (ha : a ∈ ls.flatMap Listing.aliases) (hb : b ∈ ls.flatMap Listing.aliases)
    (han : a.1.isSame n = true) (hbn : b.1.isSame n = true) : a = b := by
  refine List.inj_on_of_nodup_map h.nameKeys ha hb ?_
  obtain ⟨l, -, s, -, rfl⟩ := exists_text_of_mem_aliases ha
  obtain ⟨m, -, t, -, rfl⟩ := exists_text_of_mem_aliases hb
  cases n with
  | void v => exact nomatch han
  | text u =>
    have hs : normalize s = u := by simpa using han
    have ht : normalize t = u := by simpa using hbn
    rw [hs, ht]

/-- **The order of the units makes no difference.** -/
theorem lookupName_listed_perm (h : reg.Fresh ls) (hperm : ls.Perm ls') (n : Name) :
    (reg.listed ls).lookupName n = (reg.listed ls').lookupName n := by
  have htarget : (reg.listed ls).target? n.normalized = (reg.listed ls').target? n.normalized := by
    unfold target? listed
    rw [List.find?_append, List.find?_append,
      List.find?_eq_find?_of_perm (hperm.flatMap_right Listing.aliases)
        fun a ha b hb => h.eq_of_isSame ha.1 hb.1 ha.2 hb.2]
  have hunits : ∀ k, (reg.listed ls).units.lookup k = (reg.listed ls').units.lookup k := fun k => by
    unfold listed
    rw [List.lookup_append, List.lookup_append, Keys.lookup_perm (hperm.map _) h.unitKeys]
  unfold lookupName unitAt?
  simp only [htarget, hunits]

/-- **What was inserted is found**, by its symbol and by all of its other names. -/
theorem Fresh.lookupUnit (h : reg.Fresh ls) (hl : l ∈ ls) {s : String}
    (hs : normalize s ∈ l.keys) : (reg.listed ls).lookupUnit s = some l.entry := by
  have hmem : ∀ {k}, k ∈ l.keys → k ∈ ls.flatMap Listing.keys := fun hk =>
    List.mem_flatMap.mpr ⟨l, hl, hk⟩
  have hfree := h.free _ (hmem hs)
  have hunit : (reg.listed ls).units.lookup l.key = some l.entry := by
    have hnone : reg.units.lookup l.key = none := (h.free l.key (hmem List.mem_cons_self)).unit
    unfold listed
    rw [List.lookup_append, hnone, Option.none_or]
    exact Keys.lookup_of_mem h.unitKeys (List.mem_map_of_mem hl)
  have htarget : (reg.listed ls).target? (.text (normalize s)) =
      ((ls.flatMap Listing.aliases).find? fun a => a.1.isSame (.text (normalize s))).map (·.2) := by
    have hnone : (reg.aliases.find? fun a => a.1.isSame (.text (normalize s))) = none :=
      Option.map_eq_none_iff.mp hfree.target
    unfold target? listed
    rw [List.find?_append, hnone, Option.none_or]
  unfold Registry.lookupUnit lookupName
  rw [Name.normalized, htarget]
  cases hfind : (ls.flatMap Listing.aliases).find? fun a => a.1.isSame (.text (normalize s)) with
  | some a =>
    obtain ⟨m, hm, t, ht, rfl⟩ := exists_text_of_mem_aliases (List.mem_of_find?_eq_some hfind)
    have hts : normalize t = normalize s := by simpa using List.find?_some hfind
    have hkey : normalize s ∈ m.keys := hts ▸ List.mem_cons_of_mem _ (List.mem_map_of_mem ht)
    obtain rfl : m = l := h.eq_of_mem hm hl hkey hs
    exact hunit
  | none =>
    rcases List.mem_cons.mp hs with hkey | hname
    · rw [hkey]
      exact hunit
    · obtain ⟨t, ht, hts⟩ := List.mem_map.mp hname
      have hmem : (Name.text (normalize t), l.key) ∈ ls.flatMap Listing.aliases :=
        List.mem_flatMap.mpr ⟨l, hl, List.mem_map_of_mem ht⟩
      exact absurd (List.find?_eq_none.mp hfind _ hmem) (by simp [hts])

end Registry

end Quantities
