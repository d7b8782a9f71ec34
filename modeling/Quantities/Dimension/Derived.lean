import Quantities.Dimension.Basic

/-!
# Derived dimensions

The dimensions that units are commonly measured in, as products of powers of the base dimensions.
-/

namespace Quantities.Dimension

/-- The dimension of a base dimension alone. -/
def base (b : BaseDimension) : Dimension := ofExponents fun c => if c = b then 1 else 0

def area : Dimension := base .length ^ (2 : Int)
def volume : Dimension := base .length ^ (3 : Int)
def velocity : Dimension := base .length / base .time
def acceleration : Dimension := base .length / base .time ^ (2 : Int)
def force : Dimension := base .mass * acceleration
def pressure : Dimension := force / area
def energy : Dimension := force * base .length
def power : Dimension := energy / base .time
def charge : Dimension := base .current * base .time
def voltage : Dimension := power / base .current
def resistance : Dimension := voltage / base .current
def conductance : Dimension := base .current / voltage
def capacitance : Dimension := charge / voltage
def magneticFlux : Dimension := voltage * base .time
def fluxDensity : Dimension := magneticFlux / area
def inductance : Dimension := magneticFlux / base .current
def frequency : Dimension := base .time ^ (-1 : Int)
def solidAngle : Dimension := base .rotation ^ (2 : Int)
def luminousFlux : Dimension := base .luminosity * solidAngle
def illuminance : Dimension := luminousFlux / area
def dose : Dimension := energy / base .mass
def catalyticActivity : Dimension := base .substance / base .time
def viscosity : Dimension := pressure * base .time
def kinematicViscosity : Dimension := area / base .time
def informationRate : Dimension := base .information / base .time
def rotationRate : Dimension := base .rotation / base .time

end Quantities.Dimension
