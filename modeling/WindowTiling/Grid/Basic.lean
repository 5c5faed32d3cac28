import WindowTiling.Number.Binary64

/-!
# Grids

The shape of a grid for a number of windows. Small numbers have shapes of their own, two of them
with a horizontal and a vertical variant; from seven windows on there are three columns. The
variant is decided by what the windows prefer, else by how wide the area is.

Main facts: `forCount_eq_none_iff` (only no windows have no grid) and `forCount_divisible` (a grid
for a number of windows can be divided into cells).
-/

namespace WindowTiling

/-! ## Shapes -/

/-- A named grid shape. -/
inductive Template where
  | single
  | sideBySide
  | stacked
  | quad
  | quadLeftSpan
  | wide
  | tall
  | columns
  deriving DecidableEq, Repr, Inhabited

namespace Template

/-- The name a shape is reported under: columns by rows. -/
def name : Template → String
  | single => "1x1"
  | sideBySide => "2x1"
  | stacked => "1x2"
  | quad => "2x2"
  | quadLeftSpan => "2x2-left-span"
  | wide => "3x2"
  | tall => "2x3"
  | columns => "3xN"

def ofName? (s : String) : Option Template :=
  [single, sideBySide, stacked, quad, quadLeftSpan, wide, tall, columns].find? (·.name = s)

/-- The columns and rows of a shape for a number of windows. -/
def shape (count : Int) : Template → Int × Int
  | single => (1, 1)
  | sideBySide => (2, 1)
  | stacked => (1, 2)
  | quad => (2, 2)
  | quadLeftSpan => (2, 2)
  | wide => (3, 2)
  | tall => (2, 3)
  | columns => (3, (count + 2).fdiv 3)

end Template

/-- A division into columns and rows for a number of windows. -/
structure Grid where
  count : Int
  cols : Int
  rows : Int
  template : Template
  deriving DecidableEq, Repr, Inhabited

namespace Grid

/-- The grid of a given shape. -/
def ofTemplate (count : Int) (t : Template) : Grid :=
  ⟨count, (t.shape count).1, (t.shape count).2, t⟩

/-- How many windows the last row has: what is left over after full rows, or a full row. -/
def lastRowCount (g : Grid) : Int :=
  if g.count.fmod g.cols = 0 then g.cols else g.count.fmod g.cols

/-- One full-height window on the left, the others stacked on the right. -/
def splitsLeft (g : Grid) : Bool := g.template = .quadLeftSpan

/-- There is something to divide by. -/
def Divisible (g : Grid) : Prop := g.cols ≠ 0 ∧ g.rows ≠ 0

instance (g : Grid) : Decidable g.Divisible :=
  inferInstanceAs (Decidable (g.cols ≠ 0 ∧ g.rows ≠ 0))

end Grid

/-! ## Choosing a variant -/

/-- The width of an area over its height. -/
inductive Aspect where
  | ratio (q : Rat)
  | infinite
  | negativeInfinite
  | undefined
  deriving DecidableEq, Repr

namespace Aspect

/-- The aspect is at or below a threshold. An undefined one is not. -/
def atMost (t : Rat) : Aspect → Bool
  | ratio q => q ≤ t
  | infinite => false
  | negativeInfinite => true
  | undefined => false

/-- The aspect that a floating-point value gives. -/
def ofBinary64 (x : Binary64) : Aspect :=
  match x.toRat? with
  | some q => ratio q
  | none =>
    match x with
    | .infinite false => infinite
    | .infinite true => negativeInfinite
    | _ => undefined

end Aspect

/-- Which variants some of the windows ask for. -/
structure Preference where
  vertical : Bool := false
  horizontal : Bool := false
  deriving DecidableEq, Repr, Inhabited

/-- The vertical variant is chosen when only it is asked for, or when there is no clear wish and
the aspect is known and at or below the threshold. -/
def Preference.picksVertical (p : Preference) (aspect : Option Aspect) (threshold : Rat) : Bool :=
  if p.vertical && !p.horizontal then true
  else if p.horizontal && !p.vertical then false
  else
    match aspect with
    | none => false
    | some a => a.atMost threshold

/-- The threshold for three windows. -/
def threeThreshold : Rat := 3 / 2

/-- The threshold for five windows: the floating-point value nearest to 13 / 10. -/
def fiveThreshold : Rat := mkRat 5854679515581645 4503599627370496

/-! ## Grids by count -/

namespace Grid

/-- The shape for a positive number of windows. -/
def templateFor (count : Int) (p : Preference) (aspect : Option Aspect) : Template :=
  if count = 1 then .single
  else if count = 2 then .sideBySide
  else if count = 3 then
    if p.picksVertical aspect threeThreshold then .quadLeftSpan else .quad
  else if count = 4 then .quad
  else if count = 5 then
    if p.picksVertical aspect fiveThreshold then .tall else .wide
  else if count = 6 then .wide
  else .columns

/-- The grid for a number of windows; none when there is nothing to place. -/
def forCount (count : Int) (p : Preference) (aspect : Option Aspect) : Option Grid :=
  if count ≤ 0 then none else some (ofTemplate count (templateFor count p aspect))

theorem forCount_eq_none_iff {count : Int} {p : Preference} {aspect : Option Aspect} :
    forCount count p aspect = none ↔ count ≤ 0 := by
  simp only [forCount]
  split <;> simp_all

theorem cols_ofTemplate_pos (count : Int) (t : Template) : 0 < (ofTemplate count t).cols := by
  cases t <;> simp [ofTemplate, Template.shape]

theorem rows_ofTemplate_pos {count : Int} (hc : 0 < count) (t : Template) :
    0 < (ofTemplate count t).rows := by
  cases t <;> simp only [ofTemplate, Template.shape] <;> try decide
  rw [Int.fdiv_eq_ediv_of_nonneg _ (by decide)]
  omega

/-- A grid for a number of windows can be divided into cells. -/
theorem forCount_divisible {count : Int} {p : Preference} {aspect : Option Aspect} {g : Grid}
    (h : forCount count p aspect = some g) : g.Divisible := by
  simp only [forCount] at h
  split at h
  · simp at h
  · next hc =>
    obtain rfl := Option.some.inj h
    have hcols := cols_ofTemplate_pos count (templateFor count p aspect)
    have hrows := rows_ofTemplate_pos (Int.not_le.1 hc) (templateFor count p aspect)
    exact ⟨by omega, by omega⟩

end Grid

end WindowTiling
