import Quantities.Proofs.BestFit.Choice
import Quantities.Proofs.BestFit.Reciprocal
import Quantities.Proofs.BestFit.Roundtrip
import Quantities.Proofs.BestFit.Stuck
import Quantities.Proofs.Dimension.Text
import Quantities.Proofs.Quantity.Difference
import Quantities.Proofs.Quantity.Equality
import Quantities.Proofs.Quantity.Offset
import Quantities.Proofs.Quantity.Ordering
import Quantities.Proofs.Quantity.Root
import Quantities.Proofs.Quantity.Tolerance
import Quantities.Proofs.Unit.Blank
import Quantities.Proofs.Unit.Definition
import Quantities.Proofs.Unit.Guess
import Quantities.Proofs.Unit.Listed
import Quantities.Proofs.Unit.Refusal
import Quantities.Proofs.Unit.Reordering
import Quantities.Unit.Namespace
import Quantities.Unit.Standard
import Quantities.Value.Operand
import Quantities.Value.Table
