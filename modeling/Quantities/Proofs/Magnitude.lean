import Mathlib.Data.List.Basic
import Mathlib.Tactic.SplitIfs
import Quantities.Magnitude

/-!
# Combining magnitudes

* `Fits`: two magnitudes have lengths that can be combined. `at?` is the member of a magnitude that
  belongs to a place of the result: a lone member belongs to every place. Magnitudes of one form
  that agree in every place are the same (`ext_at?`).
* `Combines`: a magnitude consists of what an operation gives for the members that belong together.
* **`combine_of_fits`**, `combine_of_not_fits`: magnitudes that fit combine, member by member, and
  all others are refused.
* `Combines.at?`: what belongs to a place of a combination.
* `Combines.trans`, `Combines.swap`, `Combines.map`: a combination that is combined once more, whose
  operands change places, or whose members go through functions, is again a combination.
* `combine_number`, `number_combine`: one number combines with a magnitude as a function of its
  members.
-/

namespace Quantities.Magnitude

variable {α β γ δ : Type} {f : α → β → γ} {a : Magnitude α} {b : Magnitude β} {m : Magnitude γ}
  {n i : Nat}

/-! ## Members -/

/-- Two lengths are equal, or one of them is one. -/
def Fits (a : Magnitude α) (b : Magnitude β) : Prop :=
  a.length = b.length ∨ a.length = 1 ∨ b.length = 1

instance (a : Magnitude α) (b : Magnitude β) : Decidable (a.Fits b) :=
  inferInstanceAs (Decidable (_ ∨ _ ∨ _))

/-- The member that belongs to a place. -/
def at? (a : Magnitude α) (i : Nat) : Option α :=
  if a.length = 1 then a.members[0]? else a.members[i]?

theorem getElem?_stretch (h : i < n) : (a.stretch n)[i]? = a.at? i := by
  unfold stretch at? length
  rcases a.members with _ | ⟨x, _ | ⟨y, xs⟩⟩ <;> simp [h]

/-! ## Places -/

theorem at?_of_lt (h : i < a.length) : a.at? i = a.members[i]? := by
  unfold at?
  split_ifs with hone
  · rw [hone] at h
    rw [Nat.lt_one_iff.mp h]
  · rfl

theorem at?_of_length_one (h : a.length = 1) (i : Nat) : a.at? i = a.at? 0 := by
  rw [at?, at?, if_pos h, if_pos h]

/-- A place has a member as far as the magnitude reaches, and a lone member belongs to every place.
-/
theorem exists_at?_iff : (∃ x, a.at? i = some x) ↔ a.length = 1 ∨ i < a.length := by
  unfold at?
  split_ifs with hone
  · have h0 : 0 < a.members.length := by
      rw [length] at hone
      omega
    exact ⟨fun _ => Or.inl hone, fun _ => ⟨_, List.getElem?_eq_getElem h0⟩⟩
  · constructor
    · rintro ⟨x, hx⟩
      exact Or.inr (List.getElem?_eq_some_iff.mp hx).1
    · exact fun h => ⟨_, List.getElem?_eq_getElem (h.resolve_left hone)⟩

theorem mem_of_at? {x : α} (h : a.at? i = some x) : x ∈ a.members := by
  unfold at? at h
  split_ifs at h <;> exact List.mem_of_getElem? h

theorem exists_at?_of_mem {x : α} (h : x ∈ a.members) : ∃ i, a.at? i = some x := by
  obtain ⟨i, hi, rfl⟩ := List.getElem_of_mem h
  exact ⟨i, (at?_of_lt hi).trans (List.getElem?_eq_getElem hi)⟩

/-- Magnitudes are equal when they have the same form and the same member in each place. -/
theorem ext_at? {a' : Magnitude α} (hform : a.isArray = a'.isArray) (hlength : a.length = a'.length)
    (h : ∀ i x x', a.at? i = some x → a'.at? i = some x' → x = x') : a = a' := by
  have hmembers : a.members = a'.members := by
    refine List.ext_getElem hlength fun i hi hi' => ?_
    exact h i _ _ ((at?_of_lt hi).trans (List.getElem?_eq_getElem hi))
      ((at?_of_lt hi').trans (List.getElem?_eq_getElem hi'))
  cases a with
  | scalar x =>
    cases a' with
    | scalar y => exact congrArg scalar (List.singleton_inj.mp hmembers)
    | array ys => exact nomatch hform
  | array xs =>
    cases a' with
    | scalar y => exact nomatch hform
    | array ys => exact congrArg array hmembers

/-! ## Combinations -/

/-- The magnitude `m` consists of what `f` gives for the members of `a` and `b` that belong
together, and is a single number only when both are. -/
structure Combines (f : α → β → γ) (a : Magnitude α) (b : Magnitude β) (m : Magnitude γ) :
    Prop where
  isArray : m.isArray = (a.isArray || b.isArray)
  length : m.length = commonLength a b
  member : ∀ i < m.length, ∃ x y, a.at? i = some x ∧ b.at? i = some y ∧
    m.members[i]? = some (f x y)

/-- Two single numbers combine to one; all else is judged by its lengths first. -/
theorem combine_cases (f : α → β → γ) (a : Magnitude α) (b : Magnitude β) :
    (∃ x y, a = scalar x ∧ b = scalar y) ∨ ((a.isArray || b.isArray) = true ∧
      combine f a b = checkLengths a.length b.length >>= fun _ => .ok (array (List.zipWith f
        (a.stretch (commonLength a b)) (b.stretch (commonLength a b))))) := by
  cases a with
  | scalar x =>
    cases b with
    | scalar y => exact Or.inl ⟨x, y, rfl, rfl⟩
    | array ys => exact Or.inr ⟨rfl, rfl⟩
  | array xs => exact Or.inr ⟨rfl, rfl⟩

/-- Nothing but two single numbers combines to one. -/
theorem combine_eq_scalar {f : α → β → γ} {a : Magnitude α} {b : Magnitude β} {z : γ} :
    combine f a b = .ok (scalar z) ↔ ∃ x y, a = scalar x ∧ b = scalar y ∧ z = f x y := by
  constructor
  · intro h
    rcases combine_cases f a b with ⟨x, y, rfl, rfl⟩ | ⟨-, heq⟩
    · have hz : z = f x y := (scalar.inj (Except.ok.inj h)).symm
      exact ⟨x, y, rfl, rfl, hz⟩
    · rw [heq] at h
      cases hc : checkLengths a.length b.length with
      | error f => rw [hc] at h; exact nomatch h
      | ok _ => rw [hc] at h; exact nomatch h
  · rintro ⟨x, y, rfl, rfl, rfl⟩
    rfl

/-- Magnitudes that do not fit are refused. -/
theorem combine_of_not_fits (f : α → β → γ) (h : ¬ a.Fits b) :
    combine f a b = .error (.lengthMismatch a.length b.length) := by
  have hcheck : checkLengths a.length b.length = .error (.lengthMismatch a.length b.length) :=
    if_neg h
  rcases combine_cases f a b with ⟨x, y, rfl, rfl⟩ | ⟨-, heq⟩
  · exact absurd (Or.inl rfl) h
  · rw [heq, hcheck]
    rfl

/-- Two lists, or a list and a number, that fit. -/
theorem combine_list (f : α → β → γ) (h : a.Fits b) (harray : (a.isArray || b.isArray) = true) :
    combine f a b = .ok (array (List.zipWith f
      (a.stretch (commonLength a b)) (b.stretch (commonLength a b)))) := by
  have hcheck : checkLengths a.length b.length = .ok () := if_pos h
  rcases combine_cases f a b with ⟨x, y, rfl, rfl⟩ | ⟨-, heq⟩
  · exact nomatch harray
  · rw [heq, hcheck]
    rfl

theorem commonLength_cases (h : a.Fits b) :
    (a.length = commonLength a b ∨ a.length = 1) ∧
      (b.length = commonLength a b ∨ b.length = 1) := by
  unfold Fits commonLength at *
  split_ifs <;> omega

/-- **Magnitudes that fit combine**, member by member. -/
theorem combine_of_fits (f : α → β → γ) (h : a.Fits b) :
    ∃ m, combine f a b = .ok m ∧ Combines f a b m := by
  rcases combine_cases f a b with ⟨x, y, rfl, rfl⟩ | ⟨harray, -⟩
  · refine ⟨scalar (f x y), rfl, rfl, rfl, fun i hi => ⟨x, y, rfl, rfl, ?_⟩⟩
    rw [Nat.lt_one_iff.mp hi]
    rfl
  obtain ⟨ha, hb⟩ := commonLength_cases h
  refine ⟨_, combine_list f h harray, by rw [harray]; rfl, ?_, fun i hi => ?_⟩
  · rw [length, members, List.length_zipWith, length_stretch ha, length_stretch hb, Nat.min_self]
  rw [length, members, List.length_zipWith, length_stretch ha, length_stretch hb,
    Nat.min_self] at hi
  obtain ⟨x, hx⟩ : ∃ x, a.at? i = some x := exists_at?_iff.mpr (by omega)
  obtain ⟨y, hy⟩ : ∃ y, b.at? i = some y := exists_at?_iff.mpr (by omega)
  refine ⟨x, y, hx, hy, ?_⟩
  rw [members, List.getElem?_zipWith, getElem?_stretch hi, getElem?_stretch hi, hx, hy]

/-- What belongs to a place of a combination. A lone member consists of lone members. -/
theorem Combines.at? (h : Combines f a b m) {z : γ} (hz : m.at? i = some z) :
    ∃ x y, a.at? i = some x ∧ b.at? i = some y ∧ z = f x y := by
  have hmember : ∀ j < m.length, m.at? j = some z →
      ∃ x y, a.at? j = some x ∧ b.at? j = some y ∧ z = f x y := fun j hj hz => by
    obtain ⟨x, y, hx, hy, hmem⟩ := h.member j hj
    exact ⟨x, y, hx, hy, Option.some.inj (hz.symm.trans ((at?_of_lt hj).trans hmem))⟩
  by_cases hone : m.length = 1
  · have hlengths : a.length = 1 ∧ b.length = 1 := by
      have hlength := h.length
      unfold commonLength at hlength
      split_ifs at hlength with ha
      · exact ⟨ha, hlength.symm.trans hone⟩
      · exact absurd (hlength.symm.trans hone) ha
    rw [at?_of_length_one hlengths.1, at?_of_length_one hlengths.2]
    rw [at?_of_length_one hone] at hz
    exact hmember 0 (by omega) hz
  · refine hmember i ?_ hz
    rw [Magnitude.at?, if_neg hone] at hz
    exact (List.getElem?_eq_some_iff.mp hz).1

/-! ## Combinations of combinations -/

theorem Fits.symm (h : a.Fits b) : b.Fits a := h.imp Eq.symm Or.symm

/-- What two magnitudes combine to can be combined with the second one again. -/
theorem Combines.fits (h : Combines f a b m) (hfits : a.Fits b) : m.Fits b := by
  have hlength := h.length
  unfold Fits commonLength at *
  split_ifs at hlength <;> omega

variable {m' : Magnitude δ}

/-- A combination, combined with its second operand again, is one combination. -/
theorem Combines.trans {g : γ → β → δ} (h : Combines f a b m) (h' : Combines g m b m') :
    Combines (fun x y => g (f x y) y) a b m' := by
  have hlength : m'.length = m.length := by
    have hm := h.length
    rw [h'.length]
    unfold commonLength at *
    split_ifs at * <;> omega
  refine ⟨?_, hlength.trans h.length, fun i hi => ?_⟩
  · rw [h'.isArray, h.isArray, Bool.or_assoc, Bool.or_self]
  obtain ⟨z, y, hz, hy, hmem⟩ := h'.member i hi
  rw [hlength] at hi
  obtain ⟨x, y', hx, hy', hz'⟩ := h.member i hi
  obtain rfl := Option.some.inj (hy.symm.trans hy')
  obtain rfl := Option.some.inj (hz'.symm.trans ((at?_of_lt hi).symm.trans hz))
  exact ⟨x, y, hx, hy, hmem⟩

theorem Combines.congr {g : α → β → γ} (h : Combines f a b m) (hfg : ∀ x y, f x y = g x y) :
    Combines g a b m := by
  obtain rfl : f = g := funext fun x => funext (hfg x)
  exact h

/-- The order of the operands is that of the arguments of the function. -/
theorem Combines.swap (hfits : a.Fits b) (h : Combines f a b m) :
    Combines (fun y x => f x y) b a m := by
  refine ⟨by rw [h.isArray, Bool.or_comm], ?_, fun i hi => ?_⟩
  · rw [h.length]
    unfold Fits commonLength at *
    split_ifs <;> omega
  · obtain ⟨x, y, hx, hy, hmem⟩ := h.member i hi
    exact ⟨y, x, hy, hx, hmem⟩

/-! ## Functions of members -/

theorem at?_map (g : α → γ) (a : Magnitude α) (i : Nat) : (a.map g).at? i = (a.at? i).map g := by
  unfold at?
  rw [length_map, members_map]
  split_ifs <;> rw [List.getElem?_map]

/-- Functions of the members of both operands and of the result. -/
theorem Combines.map {α' β' γ' : Type} {g : α' → β' → γ'} {ka : α → α'} {kb : β → β'} {km : γ → γ'}
    (h : Combines f a b m) (hg : ∀ x y, km (f x y) = g (ka x) (kb y)) :
    Combines g (a.map ka) (b.map kb) (m.map km) := by
  refine ⟨?_, ?_, fun i hi => ?_⟩
  · rw [isArray_map, isArray_map, isArray_map, h.isArray]
  · rw [length_map, h.length, commonLength, commonLength, length_map, length_map]
  · rw [length_map] at hi
    obtain ⟨x, y, hx, hy, hmem⟩ := h.member i hi
    refine ⟨ka x, kb y, ?_, ?_, ?_⟩
    · rw [at?_map, hx, Option.map_some]
    · rw [at?_map, hy, Option.map_some]
    · rw [members_map, List.getElem?_map, hmem, Option.map_some, hg]

theorem map_map (k : γ → δ) (g : α → γ) (a : Magnitude α) :
    (a.map g).map k = a.map fun x => k (g x) := by
  cases a with
  | scalar x => rfl
  | array xs => exact congrArg array (List.map_map ..)

theorem map_eq_self {g : α → α} (h : ∀ x, g x = x) (a : Magnitude α) : a.map g = a := by
  rw [funext h]
  cases a with
  | scalar x => rfl
  | array xs => exact congrArg array (List.map_id' xs)

theorem stretch_map (g : α → γ) (a : Magnitude α) (n : Nat) :
    (a.map g).stretch n = (a.stretch n).map g := by
  unfold stretch
  rw [members_map]
  rcases a.members with _ | ⟨x, _ | ⟨y, xs⟩⟩ <;> simp

theorem commonLength_map (g : α → γ) (k : β → δ) (a : Magnitude α) (b : Magnitude β) :
    commonLength (a.map g) (b.map k) = commonLength a b := by
  rw [commonLength, length_map, length_map]
  rfl

/-- Functions of the members can be taken before the combination, or in the course of it. -/
theorem combine_map {ε : Type} (f : γ → δ → ε) (g : α → γ) (k : β → δ) (a : Magnitude α)
    (b : Magnitude β) : combine f (a.map g) (b.map k) = combine (fun x y => f (g x) (k y)) a b := by
  rcases combine_cases (fun x y => f (g x) (k y)) a b with ⟨x, y, rfl, rfl⟩ | ⟨harray, heq⟩
  · rfl
  rcases combine_cases f (a.map g) (b.map k) with ⟨x, y, hx, hy⟩ | ⟨-, heq'⟩
  · rw [← isArray_map g, ← isArray_map k, hx, hy] at harray
    exact nomatch harray
  · rw [heq, heq', length_map, length_map, commonLength_map, stretch_map, stretch_map,
      List.zipWith_map]

theorem combine_map_left {ε : Type} (f : γ → β → ε) (g : α → γ) (a : Magnitude α)
    (b : Magnitude β) : combine f (a.map g) b = combine (fun x y => f (g x) y) a b := by
  have h := combine_map f g (fun y => y) a b
  rwa [map_eq_self fun _ => rfl] at h

theorem combine_map_right {ε : Type} (f : α → δ → ε) (k : β → δ) (a : Magnitude α)
    (b : Magnitude β) : combine f a (b.map k) = combine (fun x y => f x (k y)) a b := by
  have h := combine_map f (fun x => x) k a b
  rwa [map_eq_self fun _ => rfl] at h

/-- So can a function of the results. -/
theorem map_combine (k : γ → δ) (f : α → β → γ) (a : Magnitude α) (b : Magnitude β) :
    (combine f a b).map (Magnitude.map k) = combine (fun x y => k (f x y)) a b := by
  rcases combine_cases f a b with ⟨x, y, rfl, rfl⟩ | ⟨harray, heq⟩
  · rfl
  rcases combine_cases (fun x y => k (f x y)) a b with ⟨x, y, rfl, rfl⟩ | ⟨-, heq'⟩
  · rfl
  rw [heq, heq', checkLengths]
  split_ifs
  · exact congrArg (fun l => Except.ok (array l)) List.map_zipWith
  · rfl

/-! ## One number -/

/-- Stretched to the length that it has with one number, a magnitude stays as it is. -/
theorem stretch_length (a : Magnitude α) : a.stretch a.length = a.members := by
  unfold stretch length
  rcases a.members with _ | ⟨x, _ | ⟨y, xs⟩⟩ <;> rfl

/-- A magnitude combined with one number. -/
theorem combine_number (f : α → β → γ) (a : Magnitude α) (y : β) :
    combine f a (scalar y) = .ok (a.map fun x => f x y) := by
  cases a with
  | scalar x => rfl
  | array xs =>
    have hlength : commonLength (array xs) (scalar y) = (array xs).length :=
      ite_eq_right_iff.mpr Eq.symm
    have hstretch : (scalar y).stretch (array xs).length = xs.map fun _ => y := List.map_const'.symm
    rw [combine_list f (Or.inr (Or.inr rfl)) rfl, hlength, stretch_length, hstretch, members,
      List.zipWith_map_right, List.zipWith_self]
    rfl

/-- One number combined with a magnitude. -/
theorem number_combine (f : α → β → γ) (x : α) (b : Magnitude β) :
    combine f (scalar x) b = .ok (b.map (f x)) := by
  cases b with
  | scalar y => rfl
  | array ys =>
    have hlength : commonLength (scalar x) (array ys) = (array ys).length := rfl
    have hstretch : (scalar x).stretch (array ys).length = ys.map fun _ => x := List.map_const'.symm
    rw [combine_list f (Or.inr (Or.inl rfl)) rfl, hlength, stretch_length, hstretch, members,
      List.zipWith_map_left, List.zipWith_self]
    rfl

end Quantities.Magnitude
