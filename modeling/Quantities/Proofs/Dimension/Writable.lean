import Quantities.Failure
import Quantities.Proofs.Dimension.Group
import Quantities.Proofs.Number.Written

/-!
# Dimensions that can be written

There is a text for a dimension when there is one for each of its exponents. A message that would
show a dimension without a text is never made, so where such a dimension is refused the failure is
of another kind than the reason for it.

* `isWritable_iff`: the exponents are below a power of ten;
* `isWritable_of_dimensionality_lt`: they are, where the dimensionality is;
* `isWritable_inv`: a dimension and its inverse have texts together;
* `Failure.kind_showing`: the kind of a refusal that shows a dimension.
-/

namespace Quantities

namespace Dimension

variable {d : Dimension}

theorem all_toList {p : Int → Bool} : d.toList.all p = true ↔ ∀ b, p (d.exponent b) = true := by
  rw [toList, List.all_map, List.all_eq_true]
  exact ⟨fun h b => h b b.mem_all, fun h b _ => h b⟩

/-- **A dimension can be written** when all its exponents are below a power of ten. -/
theorem isWritable_iff :
    d.isWritable = true ↔ ∀ b, (d.exponent b).natAbs < 10 ^ Number.digitLimit := by
  rw [isWritable, all_toList]
  exact forall_congr' fun b => Number.isWritable_iff

@[simp] theorem isWritable_inv (d : Dimension) : d⁻¹.isWritable = d.isWritable := by
  rw [Bool.eq_iff_iff, isWritable_iff, isWritable_iff]
  exact forall_congr' fun b => by rw [exponent_inv, Int.natAbs_neg]

/-- No exponent is larger than the dimensionality. -/
theorem natAbs_exponent_le (d : Dimension) (b : BaseDimension) :
    (d.exponent b).natAbs ≤ d.dimensionality := by
  rw [dimensionality_eq_sum]
  exact List.le_sum_of_mem (List.mem_map_of_mem (f := fun b => (d.exponent b).natAbs) b.mem_all)

theorem isWritable_of_dimensionality_lt (h : d.dimensionality < 10 ^ Number.digitLimit) :
    d.isWritable = true :=
  isWritable_iff.mpr fun b => (d.natAbs_exponent_le b).trans_lt h

theorem isWritable_of_dimensionality_le {n : Nat} (hn : n < Number.digitLimit)
    (h : d.dimensionality ≤ 10 ^ n) : d.isWritable = true :=
  isWritable_of_dimensionality_lt (h.trans_lt (Nat.pow_lt_pow_right (by decide) hn))

end Dimension

namespace Failure

variable {d : Dimension}

theorem showing_of_isWritable (h : d.isWritable = true) (f : Failure) :
    f.showing d.toList = f :=
  if_pos h

theorem kind_showing_ne {k : Kind} {f : Failure} (hf : f.kind ≠ k) (hk : .badValue ≠ k)
    (ns : List Int) : (f.showing ns).kind ≠ k := by
  unfold showing
  split
  · exact hf
  · exact hk

theorem kind_showing (d : Dimension) (f : Failure) :
    (showing d.toList f).kind = if d.isWritable then f.kind else .badValue :=
  apply_ite kind _ f .badValue

end Failure

end Quantities
