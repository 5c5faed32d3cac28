import WindowTiling.Rule

/-!
# Faults

What can stop a tiling pass or the placing of a window.
-/

namespace WindowTiling

/-- A reason for which a pass, or the placing of a window, does not go on. -/
inductive Fault where
  /-- The width of a usable area over its height is beyond the range of numbers. -/
  | quotientOverflow
  | divisionByZero
  | missingGrid
  | negativeSize (window : Window) (box : Box)
  | pattern (fault : PatternFault)
  deriving Repr

def Fault.message : Fault → String
  | quotientOverflow => "integer division result too large for a float"
  | divisionByZero => "integer division or modulo by zero"
  | missingGrid => "no grid for the windows"
  | negativeSize window box => s!"Refusing negative size for {window.shown}: {box.text}"
  | pattern fault => fault.message

end WindowTiling
