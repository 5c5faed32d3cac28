import WindowTiling.Config.Settings
import WindowTiling.Desktop
import WindowTiling.Fault
import WindowTiling.Fill
import WindowTiling.Resize.Reconcile
import WindowTiling.Resize.Resolve

/-!
# Arrangement

A tiling pass over all outputs. The pass is planned first, as a list of placements that is worked
out from the screens alone; the plan is then carried out on the desktop. Only the carrying out
changes windows.

A screen is laid out as a grid unless the window being resized is on it. In that case the resized
window keeps its place, the others are fitted around it, and its own box is settled last. In
smart mode the left-over space of all screens is filled afterwards.

Main facts: `arrange_off` (when tiling is off nothing changes) and `arrange_grid` (in grid mode
the resize target does not matter).
-/

namespace WindowTiling

/-- The window under resize, or last under it, and its last known content box. -/
structure Target where
  window : WindowRef
  geometry : Box
  deriving DecidableEq, Repr, Inhabited

/-- What is laid out on one output: a region, and which grid variants its windows ask for. -/
structure Screen where
  region : Region
  preference : Preference := {}
  /-- What keeps the screen from being laid out, if anything does. -/
  fault : Option Fault := none
  deriving Repr, Inhabited

/-- Placements in order, and the resize target to keep. -/
structure Layout where
  placements : List Placement
  target : Option Target
  deriving Repr, Inhabited

/-! ## One screen -/

/-- The placements that put tiles into the cells of a grid. -/
def gridPlacements (gap : Int) (usable area : Box) (grid : Option Grid) (allowSplit : Bool)
    (tiles : List Tile) : Except Fault (List Placement) :=
  match grid with
  | none => .error .missingGrid
  | some g =>
    match g.cells area gap allowSplit tiles.length with
    | none => .error .divisionByZero
    | some cells =>
      .ok ((tiles.zip cells).map fun (t, cell) => ⟨t.window, t.contentOf cell usable⟩)

/-- Fit the others around the resized window, then settle the resized window itself. -/
def layOutAround (gap : Int) (usable : Box) (grid : Option Grid) (resized : Tile)
    (remaining : List Tile) (geometry : Box) : Except Fault Layout := do
  let r := reconcile (geometry.expand resized.margins) usable remaining gap grid
  let placements ← gridPlacements gap usable r.area r.grid false r.placed
  let others := remaining.filter fun t => !(r.placed.map (·.window)).contains t.window
  let neighbours := placeAll r.placed placements
  let full := resolveResized r.resized usable (others.map Tile.full) (neighbours.map Tile.full) gap
  let content := resized.contentOf full usable
  return ⟨placements ++ [⟨resized.window, content⟩], some ⟨resized.window, content⟩⟩

/-- The layout when the resized window is the only one. -/
def layOutAlone (usable : Box) (resized : Tile) (geometry : Box) : Layout :=
  let content := resized.contentOf ((geometry.expand resized.margins).clamp usable) usable
  ⟨[⟨resized.window, content⟩], some ⟨resized.window, content⟩⟩

/-- The tile of the target's window, if it is on the region, with the target's geometry. -/
def Region.resized? (r : Region) (target : Option Target) : Option (Tile × Box) :=
  target.bind fun t =>
    (r.tiles.find? fun tile => tile.window = t.window).map fun tile => (tile, t.geometry)

/-- Lay out one screen. -/
def Screen.layOut (gap : Int) (s : Screen) (target : Option Target) : Except Fault Layout :=
  let usable := s.region.usable
  let tiles := s.region.tiles
  match s.fault, roundedRatio usable.width usable.height with
  | some fault, _ => .error fault
  | none, none => .error .quotientOverflow
  | none, some q =>
    let gridFor (count : Nat) : Option Grid := Grid.forCount count s.preference (some (.ratio q))
    match s.region.resized? target with
    | none => do
      let placements ← gridPlacements gap usable usable (gridFor tiles.length) true tiles
      return ⟨placements, target⟩
    | some (resized, geometry) =>
      let remaining := tiles.filter fun t => t.window ≠ resized.window
      if remaining.isEmpty then .ok (layOutAlone usable resized geometry)
      else layOutAround gap usable (gridFor remaining.length) resized remaining geometry

/-! ## All screens -/

/-- What a pass does: the placements it makes, the regions as they are then, the resize target to
keep, and the fault that stopped it, if one did. -/
structure Plan where
  placements : List Placement := []
  regions : List Region := []
  target : Option Target := none
  fault : Option Fault := none
  deriving Repr, Inhabited

/-- Lay out the screens one after the other; a fault keeps what was placed before it. -/
def layOutAll (gap : Int) : List Screen → Option Target → Plan
  | [], target => { target }
  | s :: rest, target =>
    match s.layOut gap target with
    | .error fault => { target, fault := some fault }
    | .ok l =>
      let plan := layOutAll gap rest l.target
      { plan with
        placements := l.placements ++ plan.placements
        regions := s.region.placeAll l.placements :: plan.regions }

/-- Fill the left-over space, unless a fault stopped the pass. -/
def Plan.filled (gap : Int) (p : Plan) : Plan :=
  if p.fault.isSome then p
  else
    let r := fill gap (p.target.map (·.window)) maxFillRounds p.regions
    { p with placements := p.placements ++ r.placements, regions := r.regions }

/-- Plan a pass. Nothing is placed when tiling is off, and grids are plain in grid mode. -/
def planPass (mode : TilingMode) (gap : Int) (screens : List Screen) (target : Option Target) :
    Plan :=
  match mode with
  | .off => { target }
  | .grid => layOutAll gap screens none
  | .smart => (layOutAll gap screens target).filled gap

/-! ## On the desktop -/

namespace Desktop

/-- A window as a tile. -/
def tile (d : Desktop) (decoration : Decoration) (w : WindowRef) : Tile :=
  ⟨w, decoration.margins (d.window w), (d.window w).box⟩

/-- The variants that the windows of a list ask for. -/
def preference (d : Desktop) (ws : List WindowRef) : Preference :=
  ⟨ws.any fun w => d.property w .tileDirection = .yes,
    ws.any fun w => d.property w .tileDirection = .no⟩

/-- The fault that is come upon when windows are asked in turn for a property, up to the first that
has it with the given value. -/
def askFault? (d : Desktop) (key : PropertyKey) (value : Tristate) :
    List WindowRef → Option PatternFault
  | [] => none
  | w :: ws => (d.propertyFault? w key).or
      (if d.property w key = value then none else d.askFault? key value ws)

/-- The fault that is come upon when windows are asked for their variants. -/
def preferenceFault? (d : Desktop) (ws : List WindowRef) : Option PatternFault :=
  (d.askFault? .tileDirection .yes ws).or (d.askFault? .tileDirection .no ws)

/-- What is laid out on an output. -/
def screen (d : Desktop) (decoration : Decoration) (o : OutputRef) : Screen where
  region := ⟨(d.output o).usable, (d.eligible o).map (d.tile decoration)⟩
  preference := d.preference (d.eligible o)
  fault := ((d.eligibleFault? o).or (d.preferenceFault? (d.eligible o))).map .pattern

/-- There is something to lay out on an output, or a fault is come upon before that is known. -/
def Concerns (d : Desktop) (o : OutputRef) : Prop :=
  (d.output o).isUsable ∧ (d.eligible o ≠ [] ∨ (d.eligibleFault? o).isSome)

instance (d : Desktop) (o : OutputRef) : Decidable (d.Concerns o) :=
  inferInstanceAs (Decidable (_ ∧ (_ ∨ _)))

/-- The screens of all outputs that have usable area and windows to tile. -/
def screens (d : Desktop) (decoration : Decoration) : List Screen :=
  (d.outputs.values.filter fun o => d.Concerns o).map (d.screen decoration)

/-- Carry out a placement. -/
def carryOut (d : Desktop) (p : Placement) : Option Desktop :=
  (d.loosen p.window).moveResize p.window p.box

/-- What carrying out placements comes to: the desktop afterwards, the placements that changed a
box, and the fault that stopped it, if one did. -/
structure Carried where
  desktop : Desktop
  moves : List Placement := []
  fault : Option Fault := none

/-- Carry out placements in order. -/
def carryOutAll (d : Desktop) : List Placement → Carried
  | [] => { desktop := d }
  | p :: ps =>
    match d.carryOut p with
    | none =>
      { desktop := d.loosen p.window, fault := some (.negativeSize (d.window p.window) p.box) }
    | some d' =>
      let c := d'.carryOutAll ps
      { c with moves := if (d.window p.window).box = p.box then c.moves else p :: c.moves }

/-- A pass that has been carried out, with the resize target to keep. -/
structure Pass extends Carried where
  target : Option Target := none

/-- Run a pass over all outputs. -/
def arrange (d : Desktop) (decoration : Decoration) (gap : Int) (mode : TilingMode)
    (target : Option Target) : Pass :=
  let plan := planPass mode gap (d.screens decoration) target
  let c := d.carryOutAll plan.placements
  { c with fault := c.fault.or plan.fault, target := plan.target }

/-- When tiling is off a pass changes nothing. -/
theorem arrange_off (d : Desktop) (decoration : Decoration) (gap : Int) (target : Option Target) :
    d.arrange decoration gap .off target = { desktop := d, target } := rfl

/-- In grid mode the resize target does not matter. -/
theorem arrange_grid (d : Desktop) (decoration : Decoration) (gap : Int) (target : Option Target) :
    d.arrange decoration gap .grid target = d.arrange decoration gap .grid none := rfl

end Desktop

end WindowTiling
