import WindowTiling.Window

/-!
# Tiles and regions

A tile is what the layout sees of a window: which one it is, how thick its decorations are, and
where its content lies. A region is the usable area of one output with the tiles on it. Laying
out a region means working out placements, new content boxes for some of its windows; applying
them in order gives the region afterwards.
-/

namespace WindowTiling

/-- A window as the layout sees it. -/
structure Tile where
  window : WindowRef
  margins : Border
  box : Box
  deriving DecidableEq, Repr, Inhabited

namespace Tile

/-- The content box with its decorations. -/
def full (t : Tile) : Box := t.box.expand t.margins

/-- The content box of a window that gets a full box, cut down to the usable area. -/
def contentOf (t : Tile) (full usable : Box) : Box := (full.inset t.margins).clamp usable

end Tile

/-- A window and the content box it is to get. -/
structure Placement where
  window : WindowRef
  box : Box
  deriving DecidableEq, Repr, Inhabited

/-- Give the window of a placement its new box. -/
def place (tiles : List Tile) (p : Placement) : List Tile :=
  tiles.map fun t => if t.window = p.window then { t with box := p.box } else t

/-- Apply placements in order. -/
def placeAll (tiles : List Tile) (ps : List Placement) : List Tile := ps.foldl place tiles

theorem placeAll_append (tiles : List Tile) (ps qs : List Placement) :
    placeAll tiles (ps ++ qs) = placeAll (placeAll tiles ps) qs := List.foldl_append

/-- The usable area of an output and the tiles on it. -/
structure Region where
  usable : Box
  tiles : List Tile
  deriving Repr, Inhabited

/-- The region after placements. -/
def Region.placeAll (r : Region) (ps : List Placement) : Region :=
  { r with tiles := WindowTiling.placeAll r.tiles ps }

end WindowTiling
