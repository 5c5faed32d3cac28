import Mathlib.Data.List.Forall2
import WindowTiling.Proofs.Planning
import WindowTiling.Proofs.Translation

/-!
# Passes over moved desktops

**Theorem (`arrange_shift`).** When every output is moved, each by an offset of its own, with the
windows on it and with the resize target, a pass makes the same moves, each along with its output.
In particular a pass over a desktop that is moved as a whole is the pass over the desktop, moved,
and an output is tiled the same wherever it lies.

A screen is moved by one offset, for which `Translation` has the facts about each stage of a layout.
What leaves a screen, its placements and the target, is moved by the offset of the window that it
names. So the plan of a pass does not have to be split up again by screens: it is enough that all
windows of a screen have the same offset.
-/

namespace WindowTiling

variable {off : WindowRef → Offset} {u : Offset} {gap : Int}

/-! ## What names a window -/

/-- The placement, moved by the offset of its window. -/
def Placement.move (off : WindowRef → Offset) (p : Placement) : Placement :=
  p.shift (off p.window)

/-- The target, moved by the offset of its window. -/
def Target.move (off : WindowRef → Offset) (t : Target) : Target :=
  ⟨t.window, t.geometry.shift (off t.window)⟩

/-- The layout, moved by the offsets of its windows. -/
def Layout.move (off : WindowRef → Offset) (l : Layout) : Layout :=
  ⟨l.placements.map (·.move off), l.target.map (·.move off)⟩

@[simp] theorem Placement.window_move (p : Placement) : (p.move off).window = p.window := rfl

@[simp] theorem Placement.move_mk (w : WindowRef) (b : Box) :
    (⟨w, b⟩ : Placement).move off = ⟨w, b.shift (off w)⟩ := rfl

@[simp] theorem Target.move_mk (w : WindowRef) (b : Box) :
    (⟨w, b⟩ : Target).move off = ⟨w, b.shift (off w)⟩ := rfl

theorem map_window_move (target : Option Target) :
    (target.map (·.move off)).map (·.window) = target.map (·.window) := by
  cases target <;> rfl

theorem boxAfter_move (ps : List Placement) (w : WindowRef) (b : Box) :
    boxAfter (ps.map (·.move off)) w (b.shift (off w)) = (boxAfter ps w b).shift (off w) := by
  induction ps generalizing b with
  | nil => rfl
  | cons p ps ih =>
    rw [List.map_cons, boxAfter_cons, boxAfter_cons, ← ih]
    by_cases hp : p.window = w
    · subst hp
      rw [if_pos rfl, if_pos (Placement.window_move p)]
      rfl
    · rw [if_neg hp, if_neg (by rwa [Placement.window_move])]

theorem placeAll_move {tiles : List Tile} (h : ∀ t ∈ tiles, off t.window = u)
    (ps : List Placement) : placeAll (tiles.map (·.shift u)) (ps.map (·.move off)) =
      (placeAll tiles ps).map (·.shift u) := by
  rw [placeAll_eq_map, placeAll_eq_map, List.map_map, List.map_map]
  apply List.map_congr_left
  intro t ht
  have hbox := @boxAfter_move off ps t.window t.box
  rw [h t ht] at hbox
  simp only [Function.comp_apply, Tile.shift, hbox]

/-! ## One screen -/

theorem gridPlacements_move {tiles : List Tile} (h : ∀ t ∈ tiles, off t.window = u)
    (usable area : Box) (grid : Option Grid) (allowSplit : Bool) :
    gridPlacements gap (usable.shift u) (area.shift u) grid allowSplit (tiles.map (·.shift u)) =
      (gridPlacements gap usable area grid allowSplit tiles).map (List.map (·.move off)) := by
  cases grid with
  | none => rfl
  | some g =>
    simp only [gridPlacements, List.length_map, Grid.cells_shift]
    cases g.cells area gap allowSplit tiles.length with
    | none => rfl
    | some cells =>
      simp only [Option.map_some, Except.map, List.zip_map, List.map_map]
      refine congrArg Except.ok (List.map_congr_left fun e he => ?_)
      simp only [Function.comp_apply, Prod.map, Placement.move_mk, Tile.contentOf_shift,
        Tile.window_shift, h e.1 (List.of_mem_zip he).1]

theorem layOutAround_move {resized : Tile} {remaining : List Tile} (hr : off resized.window = u)
    (h : ∀ t ∈ remaining, off t.window = u) (usable : Box) (grid : Option Grid) (geometry : Box) :
    layOutAround gap (usable.shift u) grid (resized.shift u) (remaining.map (·.shift u))
        (geometry.shift u) =
      (layOutAround gap usable grid resized remaining geometry).map (Layout.move off) := by
  have hplaced : ∀ t ∈ (reconcile (geometry.expand resized.margins) usable remaining gap
      grid).placed, off t.window = u :=
    fun t ht => h t ((placed_sublist _ _ _ _ _).subset ht)
  simp only [layOutAround, Tile.margins_shift, Box.expand_shift, reconcile_shift]
  generalize reconcile (geometry.expand resized.margins) usable remaining gap grid = r at hplaced
  simp only [Reconciliation.shift, gridPlacements_move hplaced]
  cases gridPlacements gap usable r.area r.grid false r.placed with
  | error fault => rfl
  | ok ps =>
    have hothers : (remaining.map (·.shift u)).filter (fun t =>
          !((r.placed.map (·.shift u)).map (·.window)).contains t.window) =
        (remaining.filter fun t => !(r.placed.map (·.window)).contains t.window).map
          (·.shift u) := by
      refine filter_shift _ _ fun t _ => ?_
      rw [List.map_map]
      rfl
    show Except.ok _ = Except.ok _
    simp only [hothers, placeAll_move hplaced, Tile.map_full_shift, resolveResized_shift,
      Tile.contentOf_shift, Layout.move, List.map_append, List.map_cons, List.map_nil,
      Placement.move_mk, Option.map_some, Target.move_mk, Tile.window_shift, hr]

theorem layOutAlone_move {resized : Tile} (hr : off resized.window = u) (usable geometry : Box) :
    layOutAlone (usable.shift u) (resized.shift u) (geometry.shift u) =
      (layOutAlone usable resized geometry).move off := by
  simp only [layOutAlone, Tile.margins_shift, Box.expand_shift, Box.clamp_shift,
    Tile.contentOf_shift, Layout.move, List.map_cons, List.map_nil, Placement.move_mk,
    Option.map_some, Target.move_mk, Tile.window_shift, hr]

theorem resized?_move {r : Region} (h : ∀ t ∈ r.tiles, off t.window = u)
    (target : Option Target) : (r.shift u).resized? (target.map (·.move off)) =
      (r.resized? target).map fun e => (e.1.shift u, e.2.shift u) := by
  cases target with
  | none => rfl
  | some t =>
    obtain ⟨w, geometry⟩ := t
    have hfind : (r.tiles.map (·.shift u)).find? (fun tile => tile.window = w) =
        (r.tiles.find? fun tile => tile.window = w).map (·.shift u) := List.find?_map
    simp only [Region.resized?, Region.shift, Option.map_some, Option.bind_some, Target.move_mk,
      hfind]
    cases hf : r.tiles.find? (fun tile => tile.window = w) with
    | none => rfl
    | some tile =>
      have hwindow : tile.window = w := by simpa using List.find?_some hf
      have hoff : off w = u := hwindow ▸ h tile (List.mem_of_find?_eq_some hf)
      simp only [Option.map_some, hoff]

/-- The second region is the first one, moved by the offset that all its windows have. -/
def Region.MovesTo (off : WindowRef → Offset) (r r' : Region) : Prop :=
  ∃ u, r' = r.shift u ∧ ∀ t ∈ r.tiles, off t.window = u

/-- The second screen is the first one with its region moved. -/
def Screen.MovesTo (off : WindowRef → Offset) (s s' : Screen) : Prop :=
  ∃ region, s' = { s with region } ∧ s.region.MovesTo off region

theorem Region.MovesTo.placeAll {r r' : Region} (h : r.MovesTo off r') (ps : List Placement) :
    (r.placeAll ps).MovesTo off (r'.placeAll (ps.map (·.move off))) := by
  obtain ⟨u, rfl, h⟩ := h
  refine ⟨u, ?_, fun t ht => ?_⟩
  · simp only [Region.placeAll, Region.shift, placeAll_move h]
  · obtain ⟨t', ht', hw⟩ := List.mem_map.1 ((r.map_window_placeAll ps) ▸ List.mem_map_of_mem ht)
    exact hw ▸ h t' ht'

/-- **The layout of a moved screen** is the moved layout. -/
theorem Screen.MovesTo.layOut_eq {s s' : Screen} (h : s.MovesTo off s') (target : Option Target) :
    s'.layOut gap (target.map (·.move off)) = (s.layOut gap target).map (Layout.move off) := by
  obtain ⟨region, rfl, u, rfl, h⟩ := h
  simp only [layOut, resized?_move h]
  cases s.fault with
  | some fault => rfl
  | none =>
    simp only [Region.shift, Box.width_shift, Box.height_shift, List.length_map]
    cases roundedRatio s.region.usable.width s.region.usable.height with
    | none => rfl
    | some q =>
      cases hr : s.region.resized? target with
      | none =>
        simp only [Option.map_none, gridPlacements_move h]
        generalize gridPlacements gap s.region.usable s.region.usable _ true s.region.tiles = placed
        cases placed <;> rfl
      | some e =>
        obtain ⟨resized, geometry⟩ := e
        have hoff : off resized.window = u := h resized (Region.of_resized? hr).1
        have hothers : (s.region.tiles.map (·.shift u)).filter (fun t =>
              t.window ≠ (resized.shift u).window) =
            (s.region.tiles.filter fun t => t.window ≠ resized.window).map (·.shift u) :=
          filter_shift _ _ fun t _ => rfl
        simp only [Option.map_some, hothers, List.isEmpty_map, List.length_map,
          layOutAlone_move hoff,
          layOutAround_move hoff fun t ht => h t (List.mem_filter.1 ht).1]
        split <;> rfl

/-! ## Filling -/

theorem Region.MovesTo.fillRegion_eq {r r' : Region} (h : r.MovesTo off r')
    (skip : Option WindowRef) :
    fillRegion gap skip r' = (fillRegion gap skip r).map (·.move off) := by
  obtain ⟨u, rfl, h⟩ := h
  rw [fillRegion_shift]
  apply List.map_congr_left
  intro p hp
  obtain ⟨t, ht, hw⟩ := List.mem_map.1 (accepts_fillRegion gap skip r p hp).1
  rw [Placement.move, ← hw, h t ht]

/-- The second region is being filled as far as the first one, and is that moved. -/
def Filling.MovesTo (off : WindowRef → Offset) (f f' : Filling) : Prop :=
  f.region.MovesTo off f'.region ∧ f'.settled = f.settled

section Rounds

variable {f f' : Filling} {fs fs' : List Filling} {skip : Option WindowRef}

theorem Filling.MovesTo.placements_eq (h : f.MovesTo off f') :
    f'.placements gap skip = (f.placements gap skip).map (·.move off) := by
  rw [placements, placements, h.2, h.1.fillRegion_eq]
  split <;> rfl

theorem Filling.MovesTo.next (h : f.MovesTo off f') :
    (f.next gap skip).MovesTo off (f'.next gap skip) := by
  refine ⟨?_, ?_⟩
  · simp only [Filling.next, h.placements_eq]
    exact h.1.placeAll _
  · simp only [Filling.next, h.placements_eq, List.isEmpty_map]

theorem all_settled_move (h : List.Forall₂ (Filling.MovesTo off) fs fs') :
    fs'.all (·.settled) = fs.all (·.settled) := by
  induction h with
  | nil => rfl
  | cons hf _ ih => rw [List.all_cons, List.all_cons, hf.2, ih]

theorem flatMap_placements_move (h : List.Forall₂ (Filling.MovesTo off) fs fs') :
    fs'.flatMap (Filling.placements gap skip) =
      (fs.flatMap (Filling.placements gap skip)).map (·.move off) := by
  induction h with
  | nil => rfl
  | cons hf _ ih =>
    rw [List.flatMap_cons, List.flatMap_cons, hf.placements_eq, ih, List.map_append]

theorem fillRounds_move (max : Nat) (h : List.Forall₂ (Filling.MovesTo off) fs fs') :
    (fillRounds gap skip max fs').placements =
      (fillRounds gap skip max fs).placements.map (·.move off) := by
  induction max generalizing fs fs' with
  | zero => rfl
  | succ max ih =>
    have hnext : List.Forall₂ (Filling.MovesTo off) (fs.map (Filling.next gap skip))
        (fs'.map (Filling.next gap skip)) := by
      rw [List.forall₂_map_left_iff, List.forall₂_map_right_iff]
      exact h.imp fun _ _ hf => hf.next
    simp only [fillRounds, all_settled_move h]
    split
    · rfl
    · simp only [flatMap_placements_move h, ih hnext, List.map_append]

end Rounds

/-! ## All screens -/

/-- The second plan makes the moves of the first one, moved. -/
structure Plan.MovesTo (off : WindowRef → Offset) (p p' : Plan) : Prop where
  placements_eq : p'.placements = p.placements.map (·.move off)
  target_eq : p'.target = p.target.map (·.move off)
  fault_eq : p'.fault = p.fault

section Screens

variable {screens screens' : List Screen} {target : Option Target}

theorem layOutAll_move (h : List.Forall₂ (Screen.MovesTo off) screens screens')
    (target : Option Target) :
    (layOutAll gap screens target).MovesTo off
        (layOutAll gap screens' (target.map (·.move off))) ∧
      List.Forall₂ (Region.MovesTo off) (layOutAll gap screens target).regions
        (layOutAll gap screens' (target.map (·.move off))).regions := by
  induction h generalizing target with
  | nil => exact ⟨⟨rfl, rfl, rfl⟩, .nil⟩
  | @cons s s' rest rest' hs _ ih =>
    have hl' : s'.layOut gap (target.map (·.move off)) = _ := hs.layOut_eq target
    cases hl : s.layOut gap target with
    | error fault =>
      rw [hl] at hl'
      simp only [layOutAll, hl, hl', Except.map]
      exact ⟨⟨rfl, rfl, rfl⟩, .nil⟩
    | ok l =>
      obtain ⟨hplan, hregions⟩ := ih l.target
      rw [hl] at hl'
      simp only [layOutAll, hl, hl', Except.map, Layout.move]
      obtain ⟨region, rfl, hregion⟩ := hs
      refine ⟨⟨?_, hplan.target_eq, hplan.fault_eq⟩, .cons (hregion.placeAll _) hregions⟩
      rw [List.map_append, hplan.placements_eq]

/-- **The plan for moved screens** is the moved plan. -/
theorem planPass_move (h : List.Forall₂ (Screen.MovesTo off) screens screens') (mode : TilingMode)
    (target : Option Target) : (planPass mode gap screens target).MovesTo off
      (planPass mode gap screens' (target.map (·.move off))) := by
  cases mode with
  | off => exact ⟨rfl, rfl, rfl⟩
  | grid => exact (layOutAll_move h none).1
  | smart =>
    obtain ⟨hplan, hregions⟩ := @layOutAll_move off gap _ _ h target
    have hfillings : List.Forall₂ (Filling.MovesTo off)
        ((layOutAll gap screens target).regions.map fun r => { region := r })
        ((layOutAll gap screens' (target.map (·.move off))).regions.map fun r =>
          { region := r }) := by
      rw [List.forall₂_map_left_iff, List.forall₂_map_right_iff]
      exact hregions.imp fun _ _ hr => ⟨hr, rfl⟩
    simp only [planPass, Plan.filled, hplan.fault_eq, hplan.target_eq, map_window_move]
    split
    · exact hplan
    · refine ⟨?_, rfl, rfl⟩
      simp only [fill, fillRounds_move _ hfillings, hplan.placements_eq, List.map_append]

end Screens

/-! ## Desktops -/

/-- The window moved by an offset. -/
def Window.shift (w : Window) (v : Offset) : Window := { w with box := w.box.shift v }

/-- The output moved by an offset. -/
def Output.shift (o : Output) (v : Offset) : Output :=
  { o with area := o.area.shift v, nonExclusive := o.nonExclusive.map (·.shift v) }

theorem Output.usable_shift (o : Output) (v : Offset) : (o.shift v).usable = o.usable.shift v := by
  simp only [usable, shift]
  cases o.nonExclusive with
  | none => rfl
  | some b =>
    simp only [Option.map_some, Box.isEmpty_shift]
    split <;> rfl

namespace Desktop

variable {d : Desktop} {v : Option OutputRef → Offset}

/-- Every output moved by an offset of its own, with the windows on it; windows without output are
moved by one offset. -/
def shift (d : Desktop) (v : Option OutputRef → Offset) : Desktop :=
  { d with
    windowStates := d.windowStates.map fun e => (e.1, e.2.shift (v e.2.output))
    outputStates := d.outputStates.map fun e => (e.1, e.2.shift (v (some e.1))) }

/-- By how much a window is moved. -/
def offset (d : Desktop) (v : Option OutputRef → Offset) (w : WindowRef) : Offset :=
  v (d.window w).output

theorem find?_windowStates_shift (w : WindowRef) : (d.shift v).windowStates.find? w =
    (d.windowStates.find? w).map fun x => x.shift (v x.output) :=
  Roster.find?_map d.windowStates (fun _ (x : Window) => x.shift (v x.output)) w

theorem find?_outputStates_shift (o : OutputRef) : (d.shift v).outputStates.find? o =
    (d.outputStates.find? o).map fun x => x.shift (v (some o)) :=
  Roster.find?_map d.outputStates (fun o (x : Output) => x.shift (v (some o))) o

theorem window_shift {w : WindowRef} (h : (d.window w).output ≠ none) :
    (d.shift v).window w = (d.window w).shift (d.offset v w) := by
  rw [offset, window, find?_windowStates_shift]
  rw [window] at *
  cases hw : d.windowStates.find? w with
  | none =>
    rw [hw] at h
    exact absurd rfl h
  | some x => rfl

/-- Moving a desktop changes nothing but where outputs and windows are. -/
theorem alike_shift : d.Alike (d.shift v) where
  windows_eq := rfl
  outputs_eq := rfl
  workspace_eq := rfl
  rules_eq := rfl
  window_alike w := by
    rw [window, window, find?_windowStates_shift]
    cases d.windowStates.find? w with
    | none => exact Window.Alike.refl _
    | some x => exact Window.Alike.withBox _ _

theorem isUsable_output_shift (o : OutputRef) :
    ((d.shift v).output o).isUsable = (d.output o).isUsable := by
  rw [output, output, find?_outputStates_shift]
  cases d.outputStates.find? o with
  | none => rfl
  | some x =>
    simp only [Option.map_some, Option.getD_some, Output.isUsable, Output.usable_shift,
      Box.isEmpty_shift]

theorem usable_output_shift {o : OutputRef} (h : (d.output o).isUsable = true) :
    ((d.shift v).output o).usable = (d.output o).usable.shift (v (some o)) := by
  rw [output, output, find?_outputStates_shift]
  rw [output] at h
  cases hx : d.outputStates.find? o with
  | none =>
    rw [hx] at h
    exact absurd h (by decide)
  | some x => exact x.usable_shift _

theorem offset_of_mem_eligible {o : OutputRef} {w : WindowRef} (h : w ∈ d.eligible o) :
    d.offset v w = v (some o) := by
  rw [offset, (mem_eligible_iff.1 h).2.1.1]

theorem tile_shift (decoration : Decoration) {o : OutputRef} {w : WindowRef}
    (h : w ∈ d.eligible o) :
    (d.shift v).tile decoration w = (d.tile decoration w).shift (v (some o)) := by
  have houtput : (d.window w).output ≠ none := by
    rw [(mem_eligible_iff.1 h).2.1.1]
    exact Option.some_ne_none o
  have hbox : ((d.shift v).window w).box = (d.window w).box.shift (v (some o)) := by
    rw [window_shift houtput, offset_of_mem_eligible h]
    rfl
  simp only [tile, alike_shift.margins_eq, hbox, Tile.shift]

theorem screens_shift (d : Desktop) (decoration : Decoration) (v : Option OutputRef → Offset) :
    List.Forall₂ (Screen.MovesTo (d.offset v)) (d.screens decoration)
      ((d.shift v).screens decoration) := by
  have hfilter : (d.shift v).outputs.values.filter (fun o => (d.shift v).Concerns o) =
      d.outputs.values.filter fun o => d.Concerns o :=
    List.filter_congr fun o _ =>
      decide_eq_decide.2 (alike_shift.concerns_iff (isUsable_output_shift o))
  rw [screens, screens, hfilter, List.forall₂_map_left_iff, List.forall₂_map_right_iff,
    List.forall₂_same]
  intro o ho
  have husable := (of_decide_eq_true (List.mem_filter.1 ho).2).1
  refine ⟨_, ?_, v (some o), rfl, fun t ht => ?_⟩
  · simp only [screen, alike_shift.eligible_eq, alike_shift.preference_eq,
      alike_shift.eligibleFault?_eq, alike_shift.preferenceFault?_eq, usable_output_shift husable,
      Region.shift, List.map_map]
    have htiles : (d.eligible o).map ((d.shift v).tile decoration) = (d.eligible o).map
        ((·.shift (v (some o))) ∘ d.tile decoration) :=
      List.map_congr_left fun w hw => tile_shift decoration hw
    rw [htiles]
  · obtain ⟨w, hw, rfl⟩ := List.mem_map.1 ht
    exact offset_of_mem_eligible hw

/-! ## Carrying out -/

theorem updateWindow_shift {w : WindowRef} (h : (d.window w).output ≠ none) {f g : Window → Window}
    (hfg : g ((d.window w).shift (d.offset v w)) =
      (f (d.window w)).shift (v (f (d.window w)).output)) :
    (d.shift v).updateWindow w g = (d.updateWindow w f).shift v := by
  have hinsert := Roster.insert_map d.windowStates (fun _ (x : Window) => x.shift (v x.output)) w
    (f (d.window w))
  rw [updateWindow, window_shift h, hfg]
  exact congrArg (fun states => { d.shift v with windowStates := states }) hinsert

theorem output_window_loosen (w u : WindowRef) :
    ((d.loosen w).window u).output = (d.window u).output :=
  field_updateWindow Window.output w u fun _ => rfl

theorem output_window_carryOut {d' : Desktop} {p : Placement} (h : d.carryOut p = some d')
    (w : WindowRef) : (d'.window w).output = (d.window w).output := by
  simp only [carryOut, moveResize, Option.ite_none_right_eq_some] at h
  obtain ⟨-, h⟩ := h
  obtain rfl := Option.some.inj h
  rw [field_updateWindow Window.output]
  · exact output_window_loosen _ _
  · exact fun _ => rfl

theorem carryOut_shift {p : Placement} (hp : p.box.Nonneg)
    (h : (d.window p.window).output ≠ none) :
    (d.shift v).carryOut (p.move (d.offset v)) = (d.carryOut p).map (·.shift v) := by
  have hloosen : (d.shift v).loosen p.window = (d.loosen p.window).shift v :=
    updateWindow_shift h rfl
  have houtput := d.output_window_loosen p.window p.window
  have hnonneg : (p.move (d.offset v)).box.Nonneg := hp
  rw [carryOut_eq hp, carryOut_eq hnonneg, Placement.window_move, hloosen, Option.map_some]
  refine congrArg some (updateWindow_shift (houtput ▸ h) ?_)
  simp only [Window.shift, Placement.move, Placement.shift, offset, houtput]

theorem carryOutAll_shift {ps : List Placement} (hoff : d.offset v = off)
    (h : ∀ p ∈ ps, p.box.Nonneg ∧ (d.window p.window).output ≠ none) :
    (d.shift v).carryOutAll (ps.map (·.move off)) =
      { d.carryOutAll ps with
        desktop := (d.carryOutAll ps).desktop.shift v
        moves := (d.carryOutAll ps).moves.map (·.move off) } := by
  induction ps generalizing d with
  | nil => rfl
  | cons p ps ih =>
    obtain ⟨⟨hp, hknown⟩, h⟩ := List.forall_mem_cons.1 h
    have hcarry := @carryOut_shift d v p hp hknown
    have hbox : ((d.shift v).window p.window).box = (p.move off).box ↔
        (d.window p.window).box = p.box := by
      rw [window_shift hknown, hoff]
      exact Box.shift_inj _ _ _
    obtain ⟨d', hd'⟩ : ∃ d', d.carryOut p = some d' := ⟨_, carryOut_eq hp⟩
    have houtput := output_window_carryOut hd'
    rw [hd', hoff, Option.map_some] at hcarry
    -- Windows stay on their outputs, so the rest is moved by the same offsets.
    have hoff' : d'.offset v = off := by
      rw [← hoff]
      funext w
      rw [offset, offset, houtput]
    have hrest := ih hoff' fun q hq => ⟨(h q hq).1, houtput q.window ▸ (h q hq).2⟩
    simp only [List.map_cons, carryOutAll, hcarry, hd', hrest, Placement.window_move, hbox]
    split <;> rfl

/-- **A pass over a moved desktop** is the moved pass, also when every output is moved by an offset
of its own. -/
theorem arrange_shift (d : Desktop) (decoration : Decoration) (gap : Int) (mode : TilingMode)
    (target : Option Target) (v : Option OutputRef → Offset) :
    let pass := d.arrange decoration gap mode target
    let pass' := (d.shift v).arrange decoration gap mode (target.map (·.move (d.offset v)))
    pass'.desktop = pass.desktop.shift v ∧ pass'.target = pass.target.map (·.move (d.offset v)) ∧
      pass'.moves = pass.moves.map (·.move (d.offset v)) ∧ pass'.fault = pass.fault := by
  intro pass pass'
  have hplan := @planPass_move (d.offset v) gap _ _ (d.screens_shift decoration v) mode target
  have hcarried := @carryOutAll_shift (d.offset v) d v
    (planPass mode gap (d.screens decoration) target).placements rfl fun p hp => by
      obtain ⟨o, -, -, hmem, hnonneg, -⟩ := mem_planPass hp
      rw [(mem_eligible_iff.1 hmem).2.1.1]
      exact ⟨hnonneg, Option.some_ne_none o⟩
  rw [← hplan.placements_eq] at hcarried
  refine ⟨congrArg Carried.desktop hcarried, hplan.target_eq, congrArg Carried.moves hcarried, ?_⟩
  show Option.or _ _ = Option.or _ _
  rw [hcarried, hplan.fault_eq]

end Desktop

end WindowTiling
