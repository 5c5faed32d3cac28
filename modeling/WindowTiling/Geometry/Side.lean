import WindowTiling.Geometry.Box

/-!
# Sides

The four sides of a box, sets of sides, the numbers that stand for them, and the distances from
the sides of one box to the same sides of another.
-/

namespace WindowTiling

/-- A side of a box. -/
inductive Side where
  | top
  | bottom
  | left
  | right
  deriving DecidableEq, Repr

namespace Side

def opposite : Side → Side
  | top => bottom
  | bottom => top
  | left => right
  | right => left

/-- The name a side is reported under. -/
def name : Side → String
  | top => "TOP"
  | bottom => "BOTTOM"
  | left => "LEFT"
  | right => "RIGHT"

/-- Left and right bound the horizontal axis. -/
def isHorizontal : Side → Bool
  | left | right => true
  | top | bottom => false

end Side

/-- A set of sides. -/
structure Sides where
  top : Bool := false
  bottom : Bool := false
  left : Bool := false
  right : Bool := false
  deriving DecidableEq, Repr, Inhabited

namespace Sides

/-- Whether a side is in the set. -/
def has (s : Sides) : Side → Bool
  | .top => s.top
  | .bottom => s.bottom
  | .left => s.left
  | .right => s.right

def empty : Sides := {}

def union (a b : Sides) : Sides :=
  ⟨a.top || b.top, a.bottom || b.bottom, a.left || b.left, a.right || b.right⟩

def inter (a b : Sides) : Sides :=
  ⟨a.top && b.top, a.bottom && b.bottom, a.left && b.left, a.right && b.right⟩

/-- The union of a list of sets. -/
def unions (l : List Sides) : Sides := l.foldl union empty

/-- The set as a number: top counts 1, bottom 2, left 4 and right 8. -/
def code (s : Sides) : Nat :=
  s.top.toNat + 2 * s.bottom.toNat + 4 * s.left.toNat + 8 * s.right.toNat

/-- The set with the given number; higher digits are ignored. -/
def ofCode (n : Nat) : Sides := ⟨n.testBit 0, n.testBit 1, n.testBit 2, n.testBit 3⟩

theorem ofCode_code (s : Sides) : ofCode s.code = s := by
  obtain ⟨t, b, l, r⟩ := s
  revert t b l r
  decide

end Sides

/-- A number that stands for a set of sides. It may have higher digits, which name no side but
are kept. -/
structure EdgeCode where
  code : Nat := 0
  deriving DecidableEq, Repr, Inhabited

namespace EdgeCode

/-- The sides that the number names. -/
def sides (e : EdgeCode) : Sides := .ofCode e.code

/-- The number stands for nothing. -/
def IsEmpty (e : EdgeCode) : Prop := e.code = 0

instance (e : EdgeCode) : Decidable e.IsEmpty := inferInstanceAs (Decidable (e.code = 0))

/-- The code that an integer is kept as. A negative one is taken modulo the power of two that
follows its magnitude, and at least modulo sixteen. -/
def ofInt : Int → EdgeCode
  | .ofNat n => ⟨n⟩
  | .negSucc n => if n < 16 then ⟨15 - n⟩ else ⟨Nat.pow 2 (Nat.log2 (n + 1) + 1) - (n + 1)⟩

/-- A set of sides is what its number names. -/
theorem sides_code (s : Sides) : (EdgeCode.mk s.code).sides = s := Sides.ofCode_code s

end EdgeCode

/-- The distance from a side of `inner` to the same side of `outer`, positive when `inner` keeps
clear of it. -/
def freeSpace (inner outer : Box) : Side → Int
  | .left => inner.x - outer.x
  | .right => outer.right - inner.right
  | .top => inner.y - outer.y
  | .bottom => outer.bottom - inner.bottom

end WindowTiling
