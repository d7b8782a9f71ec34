/-!
# Lone halves

A document can name one half of a character beyond the first plane without the other one: a code
unit from `D800` to `DFFF`, which is no character by itself. A text carries such a half as one of
the last characters that there are, those from `10F800` on.

* `carrier` is the character that carries a half;
* `half?` is the half that a character carries.

Out of scope: texts that hold a carrier as a character of its own. The carriers are for private use,
so a text can hold them; it is then taken for a text with lone halves.
-/

namespace Quantities.Text

/-- Is the code unit one half of a character? -/
def isHalf (unit : Nat) : Bool := 0xD800 ≤ unit && unit < 0xE000

/-- The code point of the first carrier. -/
def firstCarrier : Nat := 0x10F800

/-- The character that carries a half. -/
def carrier (unit : Nat) : Char := Char.ofNat (firstCarrier + (unit - 0xD800))

/-- The half that a character carries. -/
def half? (c : Char) : Option Nat :=
  if firstCarrier ≤ c.toNat then some (c.toNat - firstCarrier + 0xD800) else none

/-- The half that was put into a carrier comes out of it. -/
theorem half?_carrier {unit : Nat} (h : isHalf unit) : half? (carrier unit) = some unit := by
  simp only [isHalf, Bool.and_eq_true, decide_eq_true_eq] at h
  have hv : (firstCarrier + (unit - 0xD800)).isValidChar := by
    simp only [firstCarrier, Nat.isValidChar]; omega
  have hn : (carrier unit).toNat = firstCarrier + (unit - 0xD800) := by
    rw [carrier, Char.ofNat, dif_pos hv]; rfl
  simp only [half?, hn, firstCarrier]
  split <;> simp <;> omega

end Quantities.Text
