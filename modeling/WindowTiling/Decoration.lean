import WindowTiling.Window

/-!
# Decorations

How thick the border and the titlebar around a window's content are.
-/

namespace WindowTiling

/-- Where the titlebar goes. -/
inductive TitlebarPosition where
  | top
  | bottom
  deriving DecidableEq, Repr, Inhabited

/-- The sizes of server-side decorations, and whether they are drawn at all. -/
structure Decoration where
  enabled : Bool := true
  borderWidth : Int := 2
  titlebarHeight : Int := 24
  titlebarPosition : TitlebarPosition := .top
  deriving DecidableEq, Repr, Inhabited

namespace Decoration

/-- The decoration of a style that draws nothing. -/
def off : Decoration := { enabled := false }

/-- The border of a window whose decorations are drawn. -/
def border (d : Decoration) : Border :=
  match d.titlebarPosition with
  | .top => ⟨d.borderWidth, d.borderWidth + d.titlebarHeight, d.borderWidth, d.borderWidth⟩
  | .bottom => ⟨d.borderWidth, d.borderWidth, d.borderWidth, d.borderWidth + d.titlebarHeight⟩

/-- The thickness around a window's content. Windows that draw their own decorations and
fullscreen windows have none. -/
def margins (d : Decoration) (w : Window) : Border :=
  if d.enabled && w.decorated && !w.fullscreen then d.border else {}

/-- No size is negative. -/
def Nonneg (d : Decoration) : Prop := 0 ≤ d.borderWidth ∧ 0 ≤ d.titlebarHeight

theorem nonneg_margins {d : Decoration} (h : d.Nonneg) (w : Window) : (d.margins w).Nonneg := by
  obtain ⟨hb, ht⟩ := h
  simp only [margins]
  split
  · cases hp : d.titlebarPosition <;> simp only [border, hp, Border.Nonneg] <;> omega
  · simp [Border.Nonneg]

end Decoration

end WindowTiling
