import Quantities.Proofs.Keys
import Quantities.Proofs.Unit.Evaluation
import Quantities.Proofs.Unit.Insertion
import Quantities.Unit.Standard

/-!
# A registry only grows

Whatever is inserted, and whether the insertion succeeds or not, all that a registry knew stays as
it was: every name stands for the same unit, and every prefix for the same factor (`Grows`). A name
could only change its unit by becoming another name of a second one, which `checkFree` refuses.

* `Inserts.grows`: an insertion of one key takes nothing away.
* `Call` is any of the calls by which a program inserts, with any values for arguments;
  `Registry.after` is the registry after a call.
* `call_cases`: a call that inserts one thing adds one key, or it fails and changes nothing.
* **`grows_run`**: a registry grows by any sequence of calls, since it reaches what it becomes by
  insertions (`reaches_run`).
* **`all_or_nothing`** is both of that in one.
-/

namespace Quantities

namespace Registry

variable {α : Type}

/-- All that the first registry knows the second one knows too. -/
structure Grows (reg reg' : Registry α) : Prop where
  name : ∀ n e, reg.lookupName n = some e → reg'.lookupName n = some e
  factor : ∀ s x, reg.lookupPrefix s = some x → reg'.lookupPrefix s = some x

theorem Grows.refl (reg : Registry α) : Grows reg reg := ⟨fun _ _ h => h, fun _ _ h => h⟩

theorem Grows.trans {reg reg' reg'' : Registry α} (h : Grows reg reg') (h' : Grows reg' reg'') :
    Grows reg reg'' :=
  ⟨fun n e hn => h'.name n e (h.name n e hn), fun s x hs => h'.factor s x (h.factor s x hs)⟩

variable {reg reg' : Registry α}

/-! ## Insertions -/

/-- Two names that are the same stand for the same stored symbol. -/
theorem unitAt?_of_isSame {m n : Name} {e : UnitEntry α} (h : m.isSame n = true)
    (hn : reg.unitAt? n = some e) : reg.unitAt? m = some e := by
  cases n with
  | void v => exact nomatch hn
  | text s =>
    cases m with
    | void v => exact nomatch h
    | text t =>
      obtain rfl : t = s := by simpa using h
      exact hn

/-- **One key more takes nothing away.** A new name is not one by which a unit is known. -/
theorem Inserts.grows [Scalar α] (h : Inserts reg reg') : Grows reg reg' := by
  cases h with
  | @unit e s symbol ne free sound =>
    refine ⟨fun n e' hn => ?_, fun _ _ hs => hs⟩
    unfold lookupName at hn ⊢
    have htarget : ∀ m, target? { reg with units := reg.units ++ [(e.symbol, e)] } m =
        reg.target? m := fun _ => rfl
    rw [htarget]
    cases ht : reg.target? n.normalized with
    | some symbol =>
      rw [ht] at hn
      exact Keys.lookup_append_of_some hn
    | none =>
      rw [ht] at hn
      obtain ⟨symbol, hsymbol, hn⟩ := Option.bind_eq_some_iff.mp hn
      exact Option.bind_eq_some_iff.mpr ⟨symbol, hsymbol, Keys.lookup_append_of_some hn⟩
  | @name m target known free =>
    refine ⟨fun n e hn => ?_, fun _ _ hs => hs⟩
    unfold lookupName target? at hn ⊢
    rw [List.find?_append]
    cases ht : reg.aliases.find? fun a => a.1.isSame n.normalized with
    | some a =>
      rw [ht] at hn
      exact hn
    | none =>
      rw [ht] at hn
      have hn : reg.unitAt? n.normalized = some e := hn
      have hne : m.normalized.isSame n.normalized = false := by
        by_contra hsame
        rw [Bool.not_eq_false] at hsame
        exact nomatch (unitAt?_of_isSame hsame hn).symm.trans free.unit
      rw [List.find?_cons_of_neg (by simp [hne])]
      exact hn
  | factor => exact ⟨fun _ _ hn => hn, fun _ _ hs => Keys.lookup_append_of_some hs⟩

theorem Reaches.grows [Scalar α] (h : Reaches reg reg') : Grows reg reg' := by
  induction h with
  | refl => exact .refl reg
  | tail _ hstep ih => exact ih.trans hstep.grows

/-- No unit is ever removed. -/
theorem Inserts.mem_units [Scalar α] (h : Inserts reg reg') {u : String × UnitEntry α}
    (hu : u ∈ reg.units) : u ∈ reg'.units := by
  cases h with
  | unit => exact List.mem_append_left _ hu
  | name => exact hu
  | factor => exact hu

theorem Reaches.mem_units [Scalar α] (h : Reaches reg reg') {u : String × UnitEntry α}
    (hu : u ∈ reg.units) : u ∈ reg'.units := by
  induction h with
  | refl => exact hu
  | tail _ hstep ih => exact hstep.mem_units ih

/-! ## Calls -/

/-- A call by which a program inserts into a registry, with values for arguments. -/
inductive Call where
  | register (symbol scale dimension offset : Value)
  | registerName (name target : Value)
  | registerPrefix (symbol factor : Value)
  | define (symbol magnitude unit offset : Value)
  | defineMember (symbol magnitude unit offset : Value)
  | populate (rows pairs : Value)
  | load (text : String)

/-- The registry that a call asks for, or the failure of the call. The calls that insert several
things leave a registry in both cases. -/
def call (reg : Registry Float) : Call → Registry Float × Outcome Unit
  | .register symbol scale dimension offset =>
    keep (reg.registerValues symbol scale dimension offset)
  | .registerName name target => keep (reg.registerNameValue name target)
  | .registerPrefix symbol factor => keep (reg.registerPrefixValue symbol factor)
  | .define symbol magnitude unit offset =>
    keep ((reg.defineValues symbol magnitude unit offset).map Prod.fst)
  | .defineMember symbol magnitude unit offset =>
    keep (reg.defineMemberValues symbol magnitude unit offset)
  | .populate rows pairs => reg.populate rows pairs
  | .load text => ((reg.load text).1, (reg.load text).2.map fun _ => ())
where
  /-- The registry before a call that fails. -/
  keep : Outcome (Registry Float) → Registry Float × Outcome Unit
    | .ok reg' => (reg', .ok ())
    | .error f => (reg, .error f)

/-- The registry after a call. -/
def after (reg : Registry Float) (c : Call) : Registry Float := (reg.call c).1

/-- Does the call insert one thing at most? -/
def Call.isSingle : Call → Bool
  | .populate .. | .load _ => false
  | _ => true

variable {reg reg' : Registry Float}

theorem keep_cases {r : Outcome (Registry Float)} (h : ∀ reg', r = .ok reg' → Inserts reg reg') :
    (∃ f, call.keep reg r = (reg, .error f)) ∨
      ∃ reg', call.keep reg r = (reg', .ok ()) ∧ Inserts reg reg' := by
  cases r with
  | ok reg' => exact Or.inr ⟨reg', rfl, h reg' rfl⟩
  | error f => exact Or.inl ⟨f, rfl⟩

/-- **All or nothing.** A call that inserts one thing adds one key, or it fails and changes
nothing. -/
theorem call_cases (reg : Registry Float) {c : Call} (h : c.isSingle = true) :
    (∃ f, reg.call c = (reg, .error f)) ∨
      ∃ reg', reg.call c = (reg', .ok ()) ∧ Inserts reg reg' := by
  cases c with
  | register => exact keep_cases fun _ h => inserts_registerValues h
  | registerName => exact keep_cases fun _ h => inserts_registerNameValue h
  | registerPrefix => exact keep_cases fun _ h => inserts_registerPrefixValue h
  | define symbol magnitude unit offset =>
    refine keep_cases fun reg' h => ?_
    cases hd : reg.defineValues symbol magnitude unit offset with
    | error f => rw [hd] at h; exact nomatch h
    | ok r =>
      rw [hd] at h
      obtain rfl := Except.ok.inj h
      exact inserts_defineValues hd
  | defineMember => exact keep_cases fun _ h => inserts_defineMemberValues h
  | populate => exact nomatch h
  | load => exact nomatch h

/-- A call is some insertions, whether it succeeds or fails. -/
theorem reaches_after (reg : Registry Float) (c : Call) : Reaches reg (reg.after c) := by
  have single : c.isSingle = true → Reaches reg (reg.after c) := fun h => by
    unfold after
    rcases call_cases reg h with ⟨f, hcall⟩ | ⟨reg', hcall, hi⟩
    · rw [hcall]
    · rw [hcall]
      exact .single hi
  cases c with
  | populate rows pairs => exact reaches_insertAll _ reg
  | load text => exact reaches_load reg text
  | _ => exact single rfl

/-- So is a sequence of calls. -/
theorem reaches_run : ∀ (calls : List Call) (reg : Registry Float),
    Reaches reg (calls.foldl after reg)
  | [], _ => .refl
  | c :: calls, reg => (reaches_after reg c).trans (reaches_run calls (reg.after c))

/-- **A registry grows by any sequence of calls.** -/
theorem grows_run (calls : List Call) (reg : Registry Float) :
    Grows reg (calls.foldl after reg) :=
  (reaches_run calls reg).grows

/-- **Insertions are all or nothing, and nothing is lost.** A call that inserts one thing adds one
key to one table, or it fails and changes nothing. After any calls, the larger ones that fail
halfway included, every name and every prefix stands for what it stood for. -/
theorem all_or_nothing :
    (∀ (reg : Registry Float) (c : Call), c.isSingle = true →
      (∃ f, reg.call c = (reg, .error f)) ∨
        ∃ reg', reg.call c = (reg', .ok ()) ∧ Inserts reg reg') ∧
    ∀ (reg : Registry Float) (calls : List Call),
      (∀ n e, reg.lookupName n = some e → (calls.foldl after reg).lookupName n = some e) ∧
        ∀ s x, reg.lookupPrefix s = some x → (calls.foldl after reg).lookupPrefix s = some x := by
  refine ⟨fun reg c h => call_cases reg h, fun reg calls => ?_⟩
  have h := grows_run calls reg
  exact ⟨h.name, h.factor⟩

/-- A name that is taken, and then a prefix that is. -/
theorem all_or_nothing_taken :
    let reg : Registry Float := .standard
    let c : Call := .registerName (.text "sec") (.text "m")
    let calls : List Call := [c, .registerPrefix (.text "k") (.integer 7)]
    (c.isSingle = true ∧ ((∃ f, reg.call c = (reg, .error f)) ∨
      ∃ reg', reg.call c = (reg', .ok ()) ∧ Inserts reg reg')) ∧
    (reg.lookupPrefix "k" = some 1000 ∧ (calls.foldl after reg).lookupPrefix "k" = some 1000) := by
  intro reg c calls
  have hk : reg.lookupPrefix "k" = some 1000 := by decide +kernel
  exact ⟨⟨rfl, all_or_nothing.1 reg c rfl⟩, hk, (all_or_nothing.2 reg calls).2 "k" 1000 hk⟩

end Registry

end Quantities
