import WindowTiling.Proofs.FillRounds
import WindowTiling.Proofs.Reconciliation

/-!
# The layout of one screen

What `Screen.layOut` comes to on a screen that nothing keeps from being laid out. It never fails
there: there is a grid whenever there is something to place, and every grid can be divided. It
places windows of the screen only, in boxes inside the usable area.

When the window being resized is on the screen with others, the layout has three parts: the windows
that go into the strip, the ones left in place, and the resized window itself. `layOut_around`
gives the placements, `boxAfter_resized` and `boxAfter_placed` the boxes of the windows placed, and
`ne_of_mem_kept` says that the windows left in place are not placed.

Main facts: `layOut_ok` (the layout succeeds, and what may be placed), `layOut_alone`,
`layOut_around` and `placements_congr` (only the target's tile matters).
-/

namespace WindowTiling

/-! ## Grids never fail -/

/-- A grid that fits has a cell for every tile. -/
theorem gridPlacements_ok {g : Grid} {tiles : List Tile} (h : g.Fits tiles.length) (gap : Int)
    (usable area : Box) (allowSplit : Bool) : ∃ cells,
      g.cells area gap allowSplit tiles.length = some cells ∧ cells.length = tiles.length ∧
      gridPlacements gap usable area (some g) allowSplit tiles =
        .ok ((tiles.zip cells).map fun e => ⟨e.1.window, e.1.contentOf e.2 usable⟩) := by
  cases hc : g.cells area gap allowSplit tiles.length with
  | none =>
    exfalso
    simp only [Grid.cells] at hc
    split at hc
    · simp at hc
    · split at hc
      · simp at hc
      · rw [if_pos h.divisible] at hc
        simp at hc
  | some cells =>
    refine ⟨cells, rfl, Grid.length_cells hc, ?_⟩
    simp only [gridPlacements, hc]

theorem accepts_of_gridPlacements {gap : Int} {r : Region} {area : Box} {grid : Option Grid}
    {allowSplit : Bool} {tiles : List Tile} {ps : List Placement}
    (h : gridPlacements gap r.usable area grid allowSplit tiles = .ok ps)
    (ht : ∀ t ∈ tiles, t ∈ r.tiles) : r.Accepts ps := by
  simp only [gridPlacements] at h
  split at h
  · simp at h
  · split at h
    · simp at h
    · next cells _ =>
      obtain rfl := Except.ok.inj h
      intro p hp
      obtain ⟨e, he, rfl⟩ := List.mem_map.1 hp
      have hmem := List.mem_map_of_mem (f := (·.window)) (ht e.1 (List.of_mem_zip he).1)
      exact Region.accepts_cons hmem e.2 r.accepts_nil _ List.mem_cons_self

/-! ## The resized window -/

namespace Region

theorem of_resized? {r : Region} {target : Option Target} {resized : Tile} {geometry : Box}
    (hr : r.resized? target = some (resized, geometry)) :
    resized ∈ r.tiles ∧ target = some ⟨resized.window, geometry⟩ := by
  simp only [Region.resized?, Option.bind_eq_some_iff, Option.map_eq_some_iff] at hr
  obtain ⟨t, rfl, tile, hfind, heq⟩ := hr
  obtain ⟨rfl, rfl⟩ := Prod.mk.inj heq
  have hwindow := List.find?_some hfind
  simp only [decide_eq_true_eq] at hwindow
  exact ⟨List.mem_of_find?_eq_some hfind, by rw [hwindow]⟩

theorem resized?_eq_none_iff {r : Region} {target : Option Target} : r.resized? target = none ↔
    ∀ t ∈ r.tiles, some t.window ≠ target.map (·.window) := by
  cases target with
  | none => simp [Region.resized?]
  | some t => simp [Region.resized?, List.find?_eq_none]

end Region

namespace Screen

/-- Nothing keeps the screen from being laid out: no fault is come upon, there is some area, its
aspect is a number, and no window is on it twice. -/
structure Proper (s : Screen) : Prop where
  fault_eq : s.fault = none
  aspect : (roundedRatio s.region.usable.width s.region.usable.height).isSome
  width_pos : 0 < s.region.usable.width
  height_pos : 0 < s.region.usable.height
  nodup : (s.region.tiles.map (·.window)).Nodup
  tiles_ne : s.region.tiles ≠ []

theorem Proper.nonneg {s : Screen} (h : s.Proper) : s.region.usable.Nonneg :=
  ⟨Int.le_of_lt h.width_pos, Int.le_of_lt h.height_pos⟩

/-- The grid for so many of the screen's windows. -/
def gridFor (s : Screen) (count : Nat) : Option Grid :=
  Grid.forCount count s.preference
    ((roundedRatio s.region.usable.width s.region.usable.height).map .ratio)

theorem gridFor_fits (s : Screen) {count : Nat} (h : 0 < count) :
    ∃ g, s.gridFor count = some g ∧ g.Fits count := by
  cases hg : s.gridFor count with
  | none =>
    have := Grid.forCount_eq_none_iff.1 hg
    omega
  | some g => exact ⟨g, rfl, Grid.fits_forCount hg⟩

/-- The cells of the grid for all windows of the screen. -/
def gridCells (gap : Int) (s : Screen) : List Box :=
  ((s.gridFor s.region.tiles.length).bind fun g =>
    g.cells s.region.usable gap true s.region.tiles.length).getD []

/-! ## Around a resized window -/

section Around

variable (gap : Int) (s : Screen) (resized : Tile) (geometry : Box)

/-- The windows other than the resized one. -/
def others : List Tile := s.region.tiles.filter fun t => t.window ≠ resized.window

/-- How the others are fitted around the resized window. -/
def fitted : Reconciliation :=
  reconcile (geometry.expand resized.margins) s.region.usable (s.others resized) gap
    (s.gridFor (s.others resized).length)

/-- The cells of the strip. -/
def stripCells : List Box :=
  ((s.fitted gap resized geometry).grid.bind fun g =>
    g.cells (s.fitted gap resized geometry).area gap false
      (s.fitted gap resized geometry).placed.length).getD []

/-- The windows that go into the strip, each with its cell. -/
def strip : List (Tile × Box) :=
  (s.fitted gap resized geometry).placed.zip (s.stripCells gap resized geometry)

/-- The placements of the windows that go into the strip. -/
def stripPlacements : List Placement :=
  (s.strip gap resized geometry).map fun e => ⟨e.1.window, e.1.contentOf e.2 s.region.usable⟩

/-- The windows left in place. -/
def kept : List Tile :=
  (s.others resized).filter fun t =>
    !((s.fitted gap resized geometry).placed.map (·.window)).contains t.window

/-- The windows of the strip as they are once placed. -/
def neighbours : List Tile :=
  placeAll (s.fitted gap resized geometry).placed (s.stripPlacements gap resized geometry)

/-- The full box that the resized window ends up with. -/
def settled : Box :=
  resolveResized (s.fitted gap resized geometry).resized s.region.usable
    ((s.kept gap resized geometry).map Tile.full)
    ((s.neighbours gap resized geometry).map Tile.full) gap

/-- The content box that the resized window ends up with. -/
def settledContent : Box := resized.contentOf (s.settled gap resized geometry) s.region.usable

end Around

/-! ## The three layouts -/

/-- The placements of a layout; none if it fails. -/
def placements (gap : Int) (target : Option Target) (s : Screen) : List Placement :=
  match s.layOut gap target with
  | .ok l => l.placements
  | .error _ => []

/-- The region after the layout. -/
def laidOut (gap : Int) (target : Option Target) (s : Screen) : Region :=
  s.region.placeAll (s.placements gap target)

variable {s : Screen} {gap : Int} {target : Option Target} {resized : Tile} {geometry : Box}

theorem gridCells_spec (h : s.Proper) (gap : Int) :
    ∃ g, s.gridFor s.region.tiles.length = some g ∧ g.Fits s.region.tiles.length ∧
      g.cells s.region.usable gap true s.region.tiles.length = some (s.gridCells gap) := by
  obtain ⟨g, hg, hfits⟩ := s.gridFor_fits (List.length_pos_iff.2 h.tiles_ne)
  obtain ⟨cells, hcells, -, -⟩ := gridPlacements_ok hfits gap s.region.usable s.region.usable true
  refine ⟨g, hg, hfits, ?_⟩
  simp only [gridCells, hg, Option.bind_some, hcells, Option.getD_some]

theorem length_gridCells (h : s.Proper) (gap : Int) :
    (s.gridCells gap).length = s.region.tiles.length := by
  obtain ⟨g, -, -, hcells⟩ := gridCells_spec h gap
  exact Grid.length_cells hcells

theorem layOut_plain (h : s.Proper) (hr : s.region.resized? target = none) :
    s.layOut gap target = .ok
      ⟨(s.region.tiles.zip (s.gridCells gap)).map fun e =>
        ⟨e.1.window, e.1.contentOf e.2 s.region.usable⟩, target⟩ := by
  obtain ⟨q, hq⟩ := Option.isSome_iff_exists.1 h.aspect
  obtain ⟨g, hg, hfits, hcells⟩ := gridCells_spec h gap
  simp only [gridFor, hq, Option.map_some] at hg
  simp only [layOut, h.fault_eq, hq, hr, hg, gridPlacements, hcells]
  rfl

theorem layOut_alone (h : s.Proper)
    (hr : s.region.resized? target = some (resized, geometry)) (ho : s.others resized = []) :
    s.layOut gap target = .ok (layOutAlone s.region.usable resized geometry) := by
  obtain ⟨q, hq⟩ := Option.isSome_iff_exists.1 h.aspect
  simp only [others] at ho
  simp only [layOut, h.fault_eq, hq, hr, ho, List.isEmpty_nil, if_true]

theorem fitted_grid (ho : s.others resized ≠ []) :
    ∃ g, (s.fitted gap resized geometry).grid = some g ∧
      g.Fits (s.fitted gap resized geometry).placed.length :=
  reconcile_grid ho s.preference _

theorem stripPlacements_ok (ho : s.others resized ≠ []) :
    (s.stripCells gap resized geometry).length = (s.fitted gap resized geometry).placed.length ∧
      gridPlacements gap s.region.usable (s.fitted gap resized geometry).area
        (s.fitted gap resized geometry).grid false (s.fitted gap resized geometry).placed =
      .ok (s.stripPlacements gap resized geometry) := by
  obtain ⟨g, hg, hfits⟩ := @fitted_grid s gap resized geometry ho
  obtain ⟨cells, hcells, hlen, hok⟩ := gridPlacements_ok hfits gap s.region.usable
    (s.fitted gap resized geometry).area false
  have hstrip : s.stripCells gap resized geometry = cells := by
    simp only [stripCells, hg, Option.bind_some, hcells, Option.getD_some]
  refine ⟨hstrip ▸ hlen, ?_⟩
  rw [hg, hok, stripPlacements, strip, hstrip]

/-- The others are fitted around a resized window, which is settled last. -/
theorem layOut_around (h : s.Proper)
    (hr : s.region.resized? target = some (resized, geometry)) (ho : s.others resized ≠ []) :
    s.layOut gap target = .ok ⟨s.stripPlacements gap resized geometry ++
        [⟨resized.window, s.settledContent gap resized geometry⟩],
      some ⟨resized.window, s.settledContent gap resized geometry⟩⟩ := by
  obtain ⟨q, hq⟩ := Option.isSome_iff_exists.1 h.aspect
  have hne : (s.others resized).isEmpty = false := by
    cases hl : s.others resized with
    | nil => exact absurd hl ho
    | cons t ts => rfl
  have hgrid : Grid.forCount (s.others resized).length s.preference (some (.ratio q)) =
      s.gridFor (s.others resized).length := by
    simp only [gridFor, hq, Option.map_some]
  have hok := (@stripPlacements_ok s gap resized geometry ho).2
  simp only [layOut, h.fault_eq, hq, hr]
  rw [show (s.region.tiles.filter fun t => t.window ≠ resized.window) = s.others resized from rfl,
    hne, hgrid]
  simp only [layOutAround, Bool.false_eq_true, if_false]
  rw [show reconcile (geometry.expand resized.margins) s.region.usable (s.others resized) gap
    (s.gridFor (s.others resized).length) = s.fitted gap resized geometry from rfl, hok]
  rfl

/-! ## What is placed -/

theorem mem_of_mem_strip {e : Tile × Box} (h : e ∈ s.strip gap resized geometry) :
    e.1 ∈ (s.fitted gap resized geometry).placed := (List.of_mem_zip h).1

theorem mem_others_of_mem_placed {t : Tile}
    (h : t ∈ (s.fitted gap resized geometry).placed) : t ∈ s.others resized :=
  (placed_sublist _ _ _ _ _).subset h

theorem mem_others {t : Tile} :
    t ∈ s.others resized ↔ t ∈ s.region.tiles ∧ t.window ≠ resized.window := by
  simp [others]

theorem accepts_of_layOut {l : Layout} (h : s.layOut gap target = .ok l) :
    s.region.Accepts l.placements := by
  simp only [layOut] at h
  split at h
  · simp at h
  · simp at h
  · split at h
    · cases hg : gridPlacements gap s.region.usable s.region.usable _ true s.region.tiles with
      | error fault => rw [hg] at h; cases h
      | ok ps =>
        rw [hg] at h
        cases h
        exact accepts_of_gridPlacements hg fun t ht => ht
    · next resized geometry hr =>
      have hmem : resized.window ∈ s.region.tiles.map (·.window) :=
        List.mem_map_of_mem (Region.of_resized? hr).1
      split at h
      · cases h
        exact Region.accepts_cons hmem _ s.region.accepts_nil
      · simp only [layOutAround] at h
        generalize hrec : reconcile _ _ _ _ _ = r at h
        have hplaced : ∀ t ∈ r.placed, t ∈ s.region.tiles := by
          intro t ht
          rw [← hrec] at ht
          exact (List.mem_filter.1 ((placed_sublist _ _ _ _ _).subset ht)).1
        cases hg : gridPlacements gap s.region.usable r.area r.grid false r.placed with
        | error fault => rw [hg] at h; cases h
        | ok ps =>
          rw [hg] at h
          cases h
          exact Region.accepts_append.2 ⟨accepts_of_gridPlacements hg hplaced,
            Region.accepts_cons hmem _ s.region.accepts_nil⟩

/-- **A proper screen is always laid out.** Only its own windows are placed, in boxes inside the
usable area, and the target's window stays the same. -/
theorem layOut_ok (h : s.Proper) (gap : Int) (target : Option Target) :
    ∃ l, s.layOut gap target = .ok l ∧ s.region.Accepts l.placements ∧
      l.target.map (·.window) = target.map (·.window) ∧
      (s.region.resized? target = none → l.target = target) := by
  cases hr : s.region.resized? target with
  | none =>
    have hok := @layOut_plain s gap _ h hr
    exact ⟨_, hok, accepts_of_layOut hok, rfl, fun _ => rfl⟩
  | some e =>
    obtain ⟨resized, geometry⟩ := e
    obtain ⟨-, rfl⟩ := Region.of_resized? hr
    by_cases ho : s.others resized = []
    · have hok := @layOut_alone s gap _ _ _ h hr ho
      exact ⟨_, hok, accepts_of_layOut hok, rfl, fun hn => by simp at hn⟩
    · have hok := @layOut_around s gap _ _ _ h hr ho
      exact ⟨_, hok, accepts_of_layOut hok, rfl, fun hn => by simp at hn⟩

theorem accepts_placements (h : s.Proper) (gap : Int) (target : Option Target) :
    s.region.Accepts (s.placements gap target) := by
  obtain ⟨l, hok, hacc, -⟩ := layOut_ok h gap target
  simp only [placements, hok]
  exact hacc

/-- Only the target's tile and geometry matter for what is placed. -/
theorem placements_congr {target' : Option Target}
    (h : s.region.resized? target = s.region.resized? target') :
    s.placements gap target = s.placements gap target' := by
  simp only [placements, layOut, h]
  cases s.fault with
  | some fault => rfl
  | none =>
    cases roundedRatio s.region.usable.width s.region.usable.height with
    | none => rfl
    | some q =>
      cases s.region.resized? target' with
      | some e => rfl
      | none =>
        dsimp only
        generalize gridPlacements gap s.region.usable s.region.usable _ true _ = placed
        cases placed <;> rfl

/-! ## Boxes afterwards -/

section Boxes

theorem nodup_placed (h : s.Proper) :
    ((s.fitted gap resized geometry).placed.map (·.window)).Nodup :=
  h.nodup.sublist (((placed_sublist _ _ _ _ _).trans List.filter_sublist).map _)

theorem boxAfter_resized (h : s.Proper)
    (hr : s.region.resized? target = some (resized, geometry)) (ho : s.others resized ≠ [])
    (b : Box) : boxAfter (s.placements gap target) resized.window b =
      s.settledContent gap resized geometry := by
  simp only [placements, layOut_around h hr ho, boxAfter_append, boxAfter_cons, if_pos,
    boxAfter_nil]

theorem boxAfter_placed (h : s.Proper)
    (hr : s.region.resized? target = some (resized, geometry)) (ho : s.others resized ≠ [])
    {e : Tile × Box} (he : e ∈ s.strip gap resized geometry) (b : Box) :
    boxAfter (s.placements gap target) e.1.window b = e.1.contentOf e.2 s.region.usable := by
  have hne := (mem_others.1 (mem_others_of_mem_placed (mem_of_mem_strip he))).2
  simp only [placements, layOut_around h hr ho, boxAfter_append, boxAfter_cons, boxAfter_nil,
    if_neg hne.symm]
  exact boxAfter_zip (nodup_placed h) (stripPlacements_ok ho).1
    (fun t c => t.contentOf c s.region.usable) he b

theorem mem_kept {t : Tile} : t ∈ s.kept gap resized geometry ↔ t ∈ s.others resized ∧
    t.window ∉ (s.fitted gap resized geometry).placed.map (·.window) := by
  simp [kept]

theorem ne_of_mem_kept (h : s.Proper)
    (hr : s.region.resized? target = some (resized, geometry)) (ho : s.others resized ≠ [])
    {t : Tile} (ht : t ∈ s.kept gap resized geometry) :
    ∀ p ∈ s.placements gap target, p.window ≠ t.window := by
  obtain ⟨hto, htp⟩ := mem_kept.1 ht
  intro p hp hpw
  simp only [placements, layOut_around h hr ho] at hp
  rcases List.mem_append.1 hp with hp | hp
  · obtain ⟨e, he, rfl⟩ := List.mem_map.1 hp
    exact htp (List.mem_map.2 ⟨e.1, mem_of_mem_strip he, hpw⟩)
  · obtain rfl := List.mem_singleton.1 hp
    exact (mem_others.1 hto).2 hpw.symm

theorem exists_mem_zip {α β : Type} {l : List α} {m : List β} (h : m.length = l.length) {a : α}
    (ha : a ∈ l) : ∃ e ∈ l.zip m, e.1 = a := by
  rw [← List.map_fst_zip (Nat.le_of_eq h.symm)] at ha
  exact List.mem_map.1 ha

theorem exists_mem_strip (ho : s.others resized ≠ []) {t : Tile}
    (ht : t ∈ (s.fitted gap resized geometry).placed) :
    ∃ e ∈ s.strip gap resized geometry, e.1 = t :=
  exists_mem_zip (stripPlacements_ok ho).1 ht

theorem exists_kept_of_forall_ne (h : s.Proper) {t : Tile} (ht : t ∈ s.region.tiles)
    (hne : ∀ p ∈ s.placements gap target, p.window ≠ t.window) :
    ∃ resized geometry, s.region.resized? target = some (resized, geometry) ∧
      t ∈ s.kept gap resized geometry := by
  cases hr : s.region.resized? target with
  | none =>
    obtain ⟨e, he, rfl⟩ := exists_mem_zip (length_gridCells h gap) ht
    simp only [placements, layOut_plain h hr] at hne
    exact absurd rfl (hne _ (List.mem_map_of_mem he))
  | some e =>
    obtain ⟨resized, geometry⟩ := e
    refine ⟨resized, geometry, rfl, ?_⟩
    by_cases ho : s.others resized = []
    · simp only [placements, layOut_alone h hr ho, layOutAlone] at hne
      have hother : t ∈ s.others resized := mem_others.2 ⟨ht, (hne _ List.mem_cons_self).symm⟩
      rw [ho] at hother
      exact absurd hother List.not_mem_nil
    · simp only [placements, layOut_around h hr ho] at hne
      obtain ⟨hstrip, hlast⟩ := List.forall_mem_append.1 hne
      refine mem_kept.2 ⟨mem_others.2 ⟨ht, (hlast _ List.mem_cons_self).symm⟩, fun hmem => ?_⟩
      obtain ⟨u, hu, hut⟩ := List.mem_map.1 hmem
      obtain ⟨e, he, rfl⟩ := exists_mem_strip ho hu
      exact hstrip _ (List.mem_map_of_mem he) hut

end Boxes

end Screen

end WindowTiling
