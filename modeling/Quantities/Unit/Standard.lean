import Quantities.Dimension.Derived
import Quantities.Unit.Registry

/-!
# The standard units

The units, other names and prefixes that every program starts with. A unit is given by its scale in
coherent units; the zero of an offset scale is given in coherent units as well. The numbers are
decimals, read in whatever kind of number the registry is built over.

* `standardUnits`, `standardAliases` and `standardPrefixes` are the tables;
* `Registry.standard` is the registry that holds them.

Out of scope: the words for prefixes, such as kilo, which nothing reads.
-/

namespace Quantities

open Dimension

variable {α : Type} [Scalar α] [OfScientific α]

/-- A unit whose scale starts at `offset`. -/
def scaleUnit (symbol : String) (scale : α) (d : Dimension) (offset : α) : UnitEntry α :=
  { symbol, scale, dimension := d, offset }

/-- A unit whose scale starts at the true zero. -/
def plainUnit (symbol : String) (scale : α) (d : Dimension) : UnitEntry α :=
  scaleUnit symbol scale d 0

/-! ## Constants -/

/-- One standard atmosphere in pascals. -/
def atmosphere : α := 1.01325e5

/-- One degree Fahrenheit in kelvins. -/
def fahrenheit : α := 5.0 / 9.0

/-- The half turn in radians. -/
def halfTurn : α := 3.141592653589793

/-! ## Units -/

/-- The number one. -/
def unityUnits : List (UnitEntry α) :=
  [plainUnit "1" 1.0 1]

/-- Units of mass. -/
def massUnits : List (UnitEntry α) :=
  [plainUnit "kg" 1.0 (base .mass),
   plainUnit "g" 1e-3 (base .mass),
   plainUnit "u" 1.660538782e-27 (base .mass),
   plainUnit "AMU" 1.660538782e-27 (base .mass),
   plainUnit "grain" 6.479891e-05 (base .mass),
   plainUnit "ozm" 2.8349523125e-02 (base .mass),
   plainUnit "lbm" 4.5359237e-01 (base .mass),
   plainUnit "stone" 6.35029318 (base .mass),
   plainUnit "slug" 1.45939029372064e+01 (base .mass),
   plainUnit "sg" 1.45939029372064e+01 (base .mass),
   plainUnit "cwt" 4.5359237e+01 (base .mass),
   plainUnit "uk_cwt" 5.08023454400000e+01 (base .mass),
   plainUnit "ton" 9.0718474e+02 (base .mass),
   plainUnit "uk_ton" 1.0160469088e+03 (base .mass),
   plainUnit "t" 1e3 (base .mass)]

/-- Units of length. -/
def lengthUnits : List (UnitEntry α) :=
  [plainUnit "m" 1.0 (base .length),
   plainUnit "ang" 1e-10 (base .length),
   plainUnit "picapt" 3.52777777777778e-04 (base .length),
   plainUnit "pica" 4.23333333333333e-03 (base .length),
   plainUnit "in" 2.54e-02 (base .length),
   plainUnit "ft" 3.048e-01 (base .length),
   plainUnit "yd" 9.144e-01 (base .length),
   plainUnit "ell" 1.143 (base .length),
   plainUnit "mi" 1.609344e+03 (base .length),
   plainUnit "survey_ft" (1200.0 / 3937.0) (base .length),
   plainUnit "survey_mi" ((1200.0 / 3937.0) * 5280.0) (base .length),
   plainUnit "Nmi" 1.852e+03 (base .length),
   plainUnit "league" 5.556e+03 (base .length),
   plainUnit "ly" 9.4607304725808e+15 (base .length),
   plainUnit "parsec" 3.08567758128155e+16 (base .length),
   plainUnit "au" 1.495978707e+11 (base .length)]

/-- Units of time; a year is a Julian one. -/
def timeUnits : List (UnitEntry α) :=
  [plainUnit "s" 1.0 (base .time),
   plainUnit "min" 60.0 (base .time),
   plainUnit "hr" 3600.0 (base .time),
   plainUnit "day" 86400.0 (base .time),
   plainUnit "wk" (7.0 * 86400.0) (base .time),
   plainUnit "yr" 3.15576e+07 (base .time),
   plainUnit "stellar_day" 8.63764100352e+04 (base .time)]

/-- Scales of temperature: absolute ones, those with a zero of their own, and differences. -/
def temperatureUnits : List (UnitEntry α) :=
  [plainUnit "K" 1.0 (base .temperature),
   scaleUnit "degC" 1.0 (base .temperature) 273.15,
   scaleUnit "degF" fahrenheit (base .temperature) (459.67 * fahrenheit),
   scaleUnit "Reau" 1.25 (base .temperature) 273.15,
   plainUnit "Ra" fahrenheit (base .temperature),
   plainUnit "deltaC" 1.0 (base .temperature),
   plainUnit "deltaF" fahrenheit (base .temperature)]

/-- Units of velocity. -/
def velocityUnits : List (UnitEntry α) :=
  [plainUnit "mph" 4.4704e-01 velocity,
   plainUnit "kn" 5.14444444444444e-01 velocity,
   plainUnit "admkn" 5.14773333333333e-01 velocity,
   plainUnit "c" 2.99792458e+08 velocity]

/-- Units of acceleration. -/
def accelerationUnits : List (UnitEntry α) :=
  [plainUnit "grav" 9.80665 acceleration,
   plainUnit "Gal" 1e-2 acceleration]

/-- Units of pressure, and gauge scales that start at one atmosphere. -/
def pressureUnits : List (UnitEntry α) :=
  [plainUnit "Pa" 1.0 pressure,
   scaleUnit "Pa-g" 1.0 pressure atmosphere,
   plainUnit "mmHg" 1.33322e+02 pressure,
   plainUnit "Torr" 1.33322368421053e+02 pressure,
   plainUnit "psi" 6.89475729316836e+03 pressure,
   scaleUnit "psig" 6.89475729316836e+03 pressure atmosphere,
   plainUnit "atm" atmosphere pressure,
   plainUnit "bar" 1e5 pressure,
   plainUnit "inHg" 3.3863886666667e+03 pressure,
   plainUnit "Ba" 1e-1 pressure]

/-- Units of force. -/
def forceUnits : List (UnitEntry α) :=
  [plainUnit "N" 1.0 force,
   plainUnit "dyn" 1e-05 force,
   plainUnit "pond" 9.80665e-03 force,
   plainUnit "lbf" 4.4482216152605 force,
   plainUnit "ozf" 2.78013850953781e-01 force]

/-- Units of energy, and of torque, which has the same dimension. -/
def energyUnits : List (UnitEntry α) :=
  [plainUnit "J" 1.0 energy,
   plainUnit "eV" 1.602176487e-19 energy,
   plainUnit "erg" 1e-07 energy,
   plainUnit "Cal" 4.1868 energy,
   plainUnit "BTU" 1.05505585262e+03 energy,
   plainUnit "Wh" 3.6e+03 energy,
   plainUnit "HPh" 2.68451953769617e+06 energy,
   plainUnit "ft-lb" 1.3558179483314 energy]

/-- Units of power. -/
def powerUnits : List (UnitEntry α) :=
  [plainUnit "W" 1.0 power,
   plainUnit "PS" 7.3549875e+02 power,
   plainUnit "HP" 7.4569987158227e+02 power]

/-- Units of viscosity. -/
def viscosityUnits : List (UnitEntry α) :=
  [plainUnit "P" 1e-1 viscosity,
   plainUnit "St" 1e-4 kinematicViscosity]

/-- Units of volume. -/
def volumeUnits : List (UnitEntry α) :=
  [plainUnit "L" 1e-03 volume,
   plainUnit "tsp" 4.92892159375e-06 volume,
   plainUnit "tspm" 5e-06 volume,
   plainUnit "tbs" 1.478676478125e-05 volume,
   plainUnit "fl_oz" 2.95735295625e-05 volume,
   plainUnit "cup" 2.365882365e-04 volume,
   plainUnit "pt" 4.73176473e-04 volume,
   plainUnit "uk_pt" 5.6826125e-04 volume,
   plainUnit "qt" 9.46352946e-04 volume,
   plainUnit "uk_qt" 1.1365225e-03 volume,
   plainUnit "gal" 3.785411784e-03 volume,
   plainUnit "uk_gal" 4.54609e-03 volume,
   plainUnit "bushel" 3.523907016688e-02 volume,
   plainUnit "barrel" 1.58987294928e-01 volume,
   plainUnit "MTON" 1.13267386368 volume,
   plainUnit "GRT" 2.8316846592 volume]

/-- Units of area. -/
def areaUnits : List (UnitEntry α) :=
  [plainUnit "ar" 1e+02 area,
   plainUnit "Morgen" 2.5e+03 area,
   plainUnit "acre" 4.04687260987425e+03 area,
   plainUnit "uk_acre" 4.0468564224e+03 area,
   plainUnit "ha" 1e+04 area]

/-- Units of information. -/
def informationUnits : List (UnitEntry α) :=
  [plainUnit "bit" 1.0 (base .information),
   plainUnit "b" 1.0 (base .information),
   plainUnit "byte" 8.0 (base .information),
   plainUnit "B" 8.0 (base .information),
   plainUnit "word" 16.0 (base .information),
   plainUnit "baud" 1.0 informationRate]

/-- Electric and magnetic units. -/
def electricUnits : List (UnitEntry α) :=
  [plainUnit "A" 1.0 (base .current),
   plainUnit "C" 1.0 charge,
   plainUnit "e" 1.602176634e-19 charge,
   plainUnit "V" 1.0 voltage,
   plainUnit "ohm" 1.0 resistance,
   plainUnit "S" 1.0 conductance,
   plainUnit "F" 1.0 capacitance,
   plainUnit "Wb" 1.0 magneticFlux,
   plainUnit "Mx" 1e-8 magneticFlux,
   plainUnit "T" 1.0 fluxDensity,
   plainUnit "Gs" 1e-4 fluxDensity,
   plainUnit "H" 1.0 inductance]

/-- Units of substance. -/
def substanceUnits : List (UnitEntry α) :=
  [plainUnit "mol" 1.0 (base .substance),
   plainUnit "kat" 1.0 catalyticActivity]

/-- Units of light. -/
def lightUnits : List (UnitEntry α) :=
  [plainUnit "cd" 1.0 (base .luminosity),
   plainUnit "lm" 1.0 luminousFlux,
   plainUnit "lx" 1.0 illuminance]

/-- Units of rotation, which is a dimension of its own. -/
def rotationUnits : List (UnitEntry α) :=
  [plainUnit "rad" 1.0 (base .rotation),
   plainUnit "rev" (2.0 * halfTurn) (base .rotation),
   plainUnit "deg" (halfTurn / 180.0) (base .rotation),
   plainUnit "arcmin" (halfTurn / (180.0 * 60.0)) (base .rotation),
   plainUnit "arcsec" (halfTurn / (180.0 * 3600.0)) (base .rotation),
   plainUnit "sr" 1.0 solidAngle]

/-- Units of frequency and of rotational speed. -/
def frequencyUnits : List (UnitEntry α) :=
  [plainUnit "Hz" 1.0 frequency,
   plainUnit "Bq" 1.0 frequency,
   plainUnit "rpm" (2.0 * halfTurn / 60.0) rotationRate]

/-- Units of radiation dose. -/
def doseUnits : List (UnitEntry α) :=
  [plainUnit "Gy" 1.0 dose,
   plainUnit "Sv" 1.0 dose]

/-- All standard units. -/
def standardUnits : List (UnitEntry α) :=
  unityUnits ++ massUnits ++ lengthUnits ++ timeUnits ++ temperatureUnits ++ velocityUnits ++
    accelerationUnits ++ pressureUnits ++ forceUnits ++ energyUnits ++ powerUnits ++
    viscosityUnits ++ volumeUnits ++ areaUnits ++ informationUnits ++ electricUnits ++
    substanceUnits ++ lightUnits ++ rotationUnits ++ frequencyUnits ++ doseUnits

/-! ## Other names and prefixes -/

/-- Other names of standard units. -/
def standardAliases : List (String × String) :=
  [("sec", "s"), ("Ω", "ohm"), ("Rank", "Ra"), ("degR", "Ra"), ("ga", "Gs"), ("us_acre", "acre")]

/-- The decimal prefixes, and the binary ones for information. -/
def standardPrefixes : List (String × α) :=
  [("y", 1e-24), ("z", 1e-21), ("a", 1e-18), ("f", 1e-15), ("p", 1e-12), ("n", 1e-9), ("u", 1e-6),
   ("µ", 1e-6), ("m", 1e-3), ("c", 1e-2), ("d", 1e-1), ("da", 1e1), ("h", 1e2), ("k", 1e3),
   ("M", 1e6), ("G", 1e9), ("T", 1e12), ("P", 1e15), ("E", 1e18), ("Z", 1e21), ("Y", 1e24),
   ("Ki", 1024.0), ("Mi", 1048576.0), ("Gi", 1073741824.0), ("Ti", 1099511627776.0),
   ("Pi", 1125899906842624.0), ("Ei", 1152921504606846976.0), ("Zi", 1180591620717411303424.0),
   ("Yi", 1208925819614629174706176.0)]

/-- The registry of the standard units. -/
def Registry.standard : Registry α where
  units := standardUnits.map fun e => (e.symbol, e)
  aliases := standardAliases.map fun e => (.text e.1, e.2)
  prefixes := standardPrefixes

end Quantities
