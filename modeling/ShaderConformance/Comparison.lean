import ShaderConformance.Floating.Number

/-!
# Comparison functions

The functions of depth tests, alpha tests and comparison samplers.  They compare
a value with a reference; a comparison that involves a NaN is unordered, and then
only `notEqual` and `always` hold.
-/

namespace ShaderConformance

inductive ComparisonFunc where
  | never
  | less
  | equal
  | lessEqual
  | greater
  | notEqual
  | greaterEqual
  | always
deriving DecidableEq, Repr, Inhabited

namespace ComparisonFunc

def name : ComparisonFunc → String
  | never => "never"
  | less => "less"
  | equal => "equal"
  | lessEqual => "less equal"
  | greater => "greater"
  | notEqual => "not equal"
  | greaterEqual => "greater equal"
  | always => "always"

def all : List ComparisonFunc :=
  [never, less, equal, lessEqual, greater, notEqual, greaterEqual, always]

/-- Every function under its name. -/
def table : List (String × ComparisonFunc) := all.map fun f => (f.name, f)

/-- Whether the function holds of a value and a reference in a given order;
    `none` if they are unordered. -/
def holds (f : ComparisonFunc) (order : Option Ordering) : Bool :=
  match f with
  | never => false
  | less => order = some .lt
  | equal => order = some .eq
  | lessEqual => order = some .lt ∨ order = some .eq
  | greater => order = some .gt
  | notEqual => order ≠ some .eq
  | greaterEqual => order = some .gt ∨ order = some .eq
  | always => true

/-- Compares two integers. -/
def compareInt (f : ComparisonFunc) (value reference : Int) : Bool :=
  f.holds (some (compare value reference))

/-- Compares two numbers. -/
def compareSingle (f : ComparisonFunc) (value reference : Single) : Bool :=
  f.holds (if value.isNaN || reference.isNaN then none
    else some (compare value.orderKey reference.orderKey))

end ComparisonFunc

end ShaderConformance
