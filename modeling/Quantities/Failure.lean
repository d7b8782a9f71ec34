import Quantities.Dimension.Text
import Quantities.Grid.Basic
import Quantities.Text.Quoted

/-!
# Failures

Every operation that can be refused says why. A `Failure` is one cause with the data that belongs to
it; `Failure.message?` puts it into words, and `Failure.kind` sorts it into a taxonomy, in which a
kind is a case of another, broader one.

A few causes have no wording of their own: an operand of a sort that no rule covers, a text that
cannot be read, a number out of range, a division by zero, a missing member, a malformed document.

A wording may show whole numbers, such as the exponents of a dimension, and these may have too many
digits to be written. Then the wording cannot be made, and the failure is a bad value instead
(`Failure.showing`).
-/

namespace Quantities

open Text (quoted)

/-- The kinds of failures. The first ones belong to quantities and units, the last six to any
program. -/
inductive Failure.Kind where
  | general
  | incompatibleUnits
  | invalidOffset
  | offsetMultiplication
  | compoundOffset
  | fractionalPower
  | fractionalDimension
  | negativeRoot
  | unitText
  | unknownUnit
  | unknownBracket
  | malformedUnitText
  | invalidPower
  | insufficientUnits
  | duplicate
  | lengthMismatch
  | badSort
  | badValue
  | outOfRange
  | divisionByZero
  | missingMember
  | malformedDocument
deriving DecidableEq, Repr

namespace Failure.Kind

/-- The kind that a kind of failures of quantities is a case of. -/
def broader? : Kind → Option Kind
  | general => none
  | offsetMultiplication | compoundOffset => some invalidOffset
  | unknownUnit | unknownBracket | malformedUnitText | invalidPower => some unitText
  | incompatibleUnits | invalidOffset | fractionalPower | fractionalDimension | negativeRoot
  | unitText | insufficientUnits | duplicate | lengthMismatch => some general
  | _ => none

/-- The general kind that describes the situation: operands that do not go together are of a bad
sort, all else is a bad value. -/
def ground? : Kind → Option Kind
  | general => none
  | incompatibleUnits => some badSort
  | badSort | badValue | outOfRange | divisionByZero | missingMember => none
  | _ => some badValue

/-- The kind and all broader ones; no chain is longer than three. -/
def lineage (k : Kind) : List Kind :=
  k :: match k.broader? with
    | none => []
    | some k₁ => k₁ :: match k₁.broader? with
      | none => []
      | some k₂ => [k₂]

/-- Is the failure one of a bad value? -/
def isBadValue (k : Kind) : Bool := k == badValue || k.ground? == some badValue

end Failure.Kind

/-- What two quantities of unlike dimensions cannot be used for. -/
inductive Action where
  | add | subtract | compare
deriving DecidableEq, Repr

/-- The word for an action. -/
def Action.word : Action → String
  | add => "add"
  | subtract => "subtract"
  | compare => "compare"

/-- The reasons why an operation is refused. Fields called `text` hold the unit string that is being
read, and fields called `written` an operand as it is written in messages. In a list of unit strings
one may be left out. -/
inductive Failure where
  -- Dimensions that differ
  | unlikeDimensions (action : Action) (left right : Dimension)
  | unlikeTolerance (tolerance own : Dimension)
  | inconvertible (own : Dimension) (text : String) (target : Dimension)
  -- Zero offsets
  | offsetAdded
  | offsetMultiplied
  | offsetDivided
  | offsetInverted
  | offsetRaised
  | offsetRaisedNegative
  | offsetRooted
  | offsetTolerance
  | fractionalTolerance
  | offsetInCompound (symbol text : String)
  | definedFromOffset (symbol text : String)
  -- Powers and roots
  | truthPower
  | fractionalPower (written : String)
  | fractionalDimensionPower (written : String)
  | rootDegree (written : String)
  | negativeRoot
  | fractionalRoot (written : String) (dimension : Dimension)
  | fractionalExponent (written : String)
  | truthExponent
  -- Unit strings
  | parenthesis (text : String)
  | manySlashes (text : String)
  | emptySection (text : String)
  | malformedTerm (term text : String)
  | invalidPower (power text : String)
  | zeroPower (text : String)
  | unknownBracket (bracket text : String)
  | unknownUnit (symbol text : String)
  | insufficientUnits (written : String) (units : List (Option String))
  -- Registries
  | unknownSymbol (symbol : String)
  | unknownTarget (name canonical : String)
  | duplicateUnit (symbol : String)
  | duplicateAlias (symbol : String)
  | duplicatePrefix (symbol : String)
  | emptySymbol
  | emptyPrefix
  | invalidScale (symbol : String)
  | invalidOffset (symbol : String)
  | invalidFactor (symbol : String)
  | arrayDefinition (symbol : String)
  | reservedName (symbol : String)
  | missingScale (symbol : String)
  -- Dimensions and magnitudes
  | exponentCount
  | dimensionLength
  | unknownDimension (name : String)
  | modulus
  | magnitudeShape (shape : List Nat)
  | truthMagnitude
  | notAMagnitude (sort : String)
  | lengthMismatch (left right : Nat)
  -- Members
  | immutable
  | noSuchUnit (name : String)
  | noSuchMember (package name : String)
  -- Causes without a wording
  | badSort
  | badValue
  | outOfRange
  | divisionByZero
  | missingMember
  | malformedDocument
deriving DecidableEq, Repr

namespace Failure

/-- The kind of a failure. -/
def kind : Failure → Kind
  | unlikeDimensions .. | unlikeTolerance .. | inconvertible .. => .incompatibleUnits
  | offsetAdded | offsetRaised | offsetRooted | offsetTolerance | fractionalTolerance =>
    .invalidOffset
  | offsetMultiplied | offsetDivided | offsetInverted | offsetRaisedNegative =>
    .offsetMultiplication
  | offsetInCompound .. | definedFromOffset .. => .compoundOffset
  | truthPower | fractionalPower _ | fractionalDimensionPower _ | rootDegree _ => .fractionalPower
  | negativeRoot => .negativeRoot
  | fractionalRoot .. | fractionalExponent _ => .fractionalDimension
  | parenthesis _ | manySlashes _ | emptySection _ | malformedTerm .. => .malformedUnitText
  | invalidPower .. | zeroPower _ => .invalidPower
  | unknownBracket .. => .unknownBracket
  | unknownUnit .. | unknownSymbol _ | unknownTarget .. => .unknownUnit
  | insufficientUnits .. => .insufficientUnits
  | duplicateUnit _ | duplicateAlias _ | duplicatePrefix _ => .duplicate
  | lengthMismatch .. => .lengthMismatch
  | emptySymbol | emptyPrefix | invalidScale _ | invalidOffset _ | invalidFactor _
  | arrayDefinition _ | reservedName _ | missingScale _ | exponentCount | dimensionLength
  | unknownDimension _ | magnitudeShape _ | badValue => .badValue
  | truthExponent | modulus | truthMagnitude | notAMagnitude _ | badSort => .badSort
  | immutable | noSuchUnit _ | noSuchMember .. | missingMember => .missingMember
  | outOfRange => .outOfRange
  | divisionByZero => .divisionByZero
  | malformedDocument => .malformedDocument

/-- A unit string, or its absence, in a list of them. -/
def unitWritten : Option String → String
  | none => "None"
  | some text => quoted text

/-- The wording of a failure, for those that have one. -/
def message? : Failure → Option String
  | unlikeDimensions action left right => some <|
      "Cannot " ++ action.word ++ " quantities with unlike dimensions: " ++ left.text ++ " and " ++
        right.text
  | unlikeTolerance tolerance own => some <|
      "Tolerance dimensions " ++ tolerance.text ++ " are not compatible with " ++ own.text
  | inconvertible own text target => some <|
      "Cannot convert " ++ own.text ++ " to '" ++ text ++ "' (" ++ target.text ++ ")"
  | offsetAdded => some <|
      "A unit with a zero offset (such as degC or degF) cannot be added to another unit; " ++
        "use a delta unit (deltaC, deltaF) instead"
  | offsetMultiplied => some <| onOffset "multiply quantities"
  | offsetDivided => some <| onOffset "divide quantities"
  | offsetInverted => some <| onOffset "invert a quantity"
  | offsetRaised => some "Cannot raise units with zero offsets to powers > 1"
  | offsetRaisedNegative => some "Cannot raise units with zero offsets to negative powers"
  | offsetRooted => some "Cannot take root of units with zero offset"
  | offsetTolerance => some
      "Absolute tolerance in units with a zero offset is not allowed; use a delta unit"
  | fractionalTolerance => some <|
      "Fractional tolerances are not allowed for quantities with a zero offset; " ++
        "use an absolute tolerance instead"
  | offsetInCompound symbol text => some <|
      "Cannot create compound units from unit '" ++ symbol ++ "' with a zero offset" ++ within text
  | definedFromOffset symbol text => some <|
      "Cannot define unit '" ++ symbol ++ "' from offset unit '" ++ text ++ "'"
  | truthPower => some "Quantities cannot be raised to a bool power"
  | fractionalPower written => some <|
      "Quantities don't support fractional or non-numeric powers, got " ++ written
  | fractionalDimensionPower written => some <|
      "Dimensions can only be raised to integer powers, got " ++ written
  | rootDegree written => some <|
      "Root may only be a positive integer greater than or equal to 1, got " ++ written
  | negativeRoot => some "Root function not supported for negative magnitudes"
  | fractionalRoot written dimension => some <|
      "Root " ++ written ++ " of " ++ dimension.text ++ " would give a fractional dimension"
  | fractionalExponent written => some <| "Dimension exponents must be integers, got " ++ written
  | truthExponent => some "Dimension exponents must be integers, got bool"
  | parenthesis text => some <| "Parentheses are not allowed in unit strings: " ++ quoted text
  | manySlashes text => some <|
      "Cannot parse unit string with 2 or more '/' symbols: " ++ quoted text
  | emptySection text => some <| "Empty unit section in " ++ quoted text
  | malformedTerm term text => some <|
      "Cannot convert " ++ quoted term ++ " to a valid unit" ++ within text
  | invalidPower power text => some <| quoted power ++ " is not a valid unit power" ++ within text
  | zeroPower text => some <| "Unit power cannot be zero" ++ within text
  | unknownBracket bracket text => some <| quoted bracket ++ " is not a valid prefix" ++ within text
  | unknownUnit symbol text => some <| quoted symbol ++ " is not a valid unit" ++ within text
  | insufficientUnits written units => some <|
      "Cannot represent dimensions " ++ written ++ " with units [" ++
        ", ".intercalate (units.map unitWritten) ++ "]"
  | unknownSymbol symbol => some <| "Unknown unit symbol: " ++ symbol
  | unknownTarget name canonical => some <|
      "Cannot alias '" ++ name ++ "' to unknown unit '" ++ canonical ++ "'"
  | duplicateUnit symbol => some <| taken symbol "a unit"
  | duplicateAlias symbol => some <| taken symbol "an alias"
  | duplicatePrefix symbol => some <|
      "Cannot register prefix '" ++ symbol ++ "': it is already defined"
  | emptySymbol => some "Unit symbol must be a non-empty string"
  | emptyPrefix => some "Prefix symbol must be a non-empty string"
  | invalidScale symbol => some <|
      "scale of unit '" ++ symbol ++ "' must be a positive, finite number"
  | invalidOffset symbol => some <| "offset of unit '" ++ symbol ++ "' must be finite"
  | invalidFactor symbol => some <|
      "factor of prefix '" ++ symbol ++ "' must be a positive, finite number"
  | arrayDefinition symbol => some <|
      "Cannot define unit '" ++ symbol ++ "' with an array magnitude"
  | reservedName symbol => some <|
      "Cannot define unit '" ++ symbol ++ "': name conflicts with UnitNamespace attribute/method."
  | missingScale symbol => some <| "Unit '" ++ symbol ++ "' in table has no 'scale'"
  | exponentCount => some "dims must have length 9"
  | dimensionLength => some <|
      "Dimension must have length 9 (" ++ ", ".intercalate (BaseDimension.all.map (·.name)) ++ ")."
  | unknownDimension name => some <| "Unknown base dimension " ++ quoted name
  | modulus => some "Modulo exponentiation is not supported for Dimension."
  | magnitudeShape shape => some <|
      "Array magnitudes must be one-dimensional, got shape " ++ Grid.extentsText shape
  | truthMagnitude => some "A bool is not a valid magnitude"
  | notAMagnitude sort => some <| "Cannot use " ++ sort ++ " as a magnitude"
  | lengthMismatch left right => some <|
      "Cannot combine arrays of length " ++ Number.natText left ++ " and " ++ Number.natText right
  | immutable => some "Quantity objects are immutable"
  | noSuchUnit name => some name
  | noSuchMember package name => some <|
      "module " ++ quoted package ++ " has no attribute " ++ quoted name
  | badSort | badValue | outOfRange | divisionByZero | missingMember | malformedDocument => none
where
  /-- The refusal of a product that involves a zero offset. -/
  onOffset (what : String) : String :=
    "Cannot " ++ what ++ " with an offset; for temperatures use 'deltaC' or 'deltaF' instead"
  /-- The unit string in which a term stands. -/
  within (text : String) : String := " (in " ++ quoted text ++ ")"
  /-- The refusal of a symbol that is in use. -/
  taken (symbol what : String) : String :=
    "Cannot register unit '" ++ symbol ++ "': " ++ what ++ " with this name already exists."

/-- A failure whose wording shows the whole numbers `ns`. Where one of them cannot be written there is
no wording, and the attempt to make it is what fails. -/
def showing (ns : List Int) (f : Failure) : Failure :=
  if ns.all Number.isWritable then f else .badValue

end Failure

/-- A result, or the reason why there is none. -/
abbrev Outcome (β : Type) := Except Failure β

end Quantities
