import WindowTiling.Proofs.Likeness

/-!
# Carrying out placements

What a list of placements comes to: each window has the box of the last placement that names it, or
the box it had. This holds of the tiles of a region, on which a pass is planned, and of the windows
of a desktop, on which the plan is carried out, and so the two agree.

Main facts: `placeAll_eq_map` and `window_carryOutAll` (the state of every window afterwards),
`tile_carryOutAll` (the tiles seen on the desktop afterwards are the tiles seen before with the
placements made) and `alike_carryOutAll` (nothing changes but where windows are).
-/

namespace WindowTiling

/-! ## Tiles -/

/-- The box of a window after placements, given the box before. -/
def boxAfter (ps : List Placement) (w : WindowRef) (b : Box) : Box :=
  ps.foldl (fun b p => if p.window = w then p.box else b) b

@[simp] theorem boxAfter_nil (w : WindowRef) (b : Box) : boxAfter [] w b = b := rfl

theorem boxAfter_cons (p : Placement) (ps : List Placement) (w : WindowRef) (b : Box) :
    boxAfter (p :: ps) w b = boxAfter ps w (if p.window = w then p.box else b) := rfl

theorem boxAfter_append (ps qs : List Placement) (w : WindowRef) (b : Box) :
    boxAfter (ps ++ qs) w b = boxAfter qs w (boxAfter ps w b) := List.foldl_append

theorem boxAfter_of_forall_ne {ps : List Placement} {w : WindowRef}
    (h : ∀ p ∈ ps, p.window ≠ w) (b : Box) : boxAfter ps w b = b := by
  induction ps with
  | nil => rfl
  | cons p ps ih =>
    rw [boxAfter_cons, if_neg (h p List.mem_cons_self)]
    exact ih fun q hq => h q (List.mem_cons_of_mem p hq)

theorem boxAfter_mem {ps : List Placement} {w : WindowRef} (h : ∃ p ∈ ps, p.window = w)
    (b : Box) : ∃ p ∈ ps, p.window = w ∧ boxAfter ps w b = p.box := by
  induction ps generalizing b with
  | nil => obtain ⟨p, hp, -⟩ := h; simp at hp
  | cons p ps ih =>
    rw [boxAfter_cons]
    by_cases hps : ∃ q ∈ ps, q.window = w
    · obtain ⟨q, hq, hqw, hbox⟩ := ih hps _
      exact ⟨q, List.mem_cons_of_mem p hq, hqw, hbox⟩
    · have hp : p.window = w := by
        obtain ⟨q, hq, hqw⟩ := h
        rcases List.mem_cons.1 hq with rfl | hq
        · exact hqw
        · exact absurd ⟨q, hq, hqw⟩ hps
      refine ⟨p, List.mem_cons_self, hp, ?_⟩
      rw [if_pos hp]
      exact boxAfter_of_forall_ne (fun q hq hqw => hps ⟨q, hq, hqw⟩) _

/-- Placing gives every tile the box that it has after the placements. -/
theorem placeAll_eq_map (tiles : List Tile) (ps : List Placement) :
    placeAll tiles ps = tiles.map fun t => { t with box := boxAfter ps t.window t.box } := by
  induction ps generalizing tiles with
  | nil => simp [placeAll]
  | cons p ps ih =>
    show placeAll (place tiles p) ps = _
    rw [ih, place, List.map_map]
    refine List.map_congr_left fun t _ => ?_
    simp only [Function.comp_apply, boxAfter_cons, eq_comm (a := p.window)]
    split <;> rfl

theorem placeAll_of_forall_ne {tiles : List Tile} {ps : List Placement}
    (h : ∀ t ∈ tiles, ∀ p ∈ ps, p.window ≠ t.window) : placeAll tiles ps = tiles := by
  rw [placeAll_eq_map]
  refine (List.map_congr_left fun t ht => ?_).trans (List.map_id tiles)
  rw [boxAfter_of_forall_ne (h t ht)]
  rfl

theorem map_window_placeAll_eq (tiles : List Tile) (ps : List Placement) :
    (placeAll tiles ps).map (·.window) = tiles.map (·.window) := by
  rw [placeAll_eq_map, List.map_map]
  rfl

/-- Of placements of distinct windows, the one that names a window decides. -/
theorem boxAfter_of_mem {ps : List Placement} (hn : (ps.map (·.window)).Nodup) {p : Placement}
    (hp : p ∈ ps) (b : Box) : boxAfter ps p.window b = p.box := by
  induction ps generalizing b with
  | nil => exact absurd hp List.not_mem_nil
  | cons q ps ih =>
    obtain ⟨hq, hn⟩ := List.nodup_cons.1 hn
    rw [boxAfter_cons]
    rcases List.mem_cons.1 hp with rfl | hp
    · rw [if_pos rfl]
      exact boxAfter_of_forall_ne (fun q hmem hqw => hq (List.mem_map.2 ⟨q, hmem, hqw⟩)) _
    · exact ih hn hp _

theorem boxAfter_zip {tiles : List Tile} (hn : (tiles.map (·.window)).Nodup) {cells : List Box}
    (hlen : cells.length = tiles.length) (f : Tile → Box → Box) {e : Tile × Box}
    (h : e ∈ tiles.zip cells) (b : Box) :
    boxAfter ((tiles.zip cells).map fun e => ⟨e.1.window, f e.1 e.2⟩) e.1.window b =
      f e.1 e.2 := by
  refine boxAfter_of_mem ?_ (List.mem_map_of_mem h) b
  rw [← List.map_fst_zip (Nat.le_of_eq hlen.symm), List.map_map] at hn
  rw [List.map_map]
  exact hn

/-! ## Desktops -/

namespace Desktop

variable {d : Desktop}

theorem carryOut_eq {p : Placement} (hp : p.box.Nonneg) : d.carryOut p =
    some ((d.loosen p.window).updateWindow p.window fun v => { v with box := p.box }) := by
  rw [carryOut, moveResize, if_pos hp]

theorem carryOutAll_fault {ps : List Placement} (h : ∀ p ∈ ps, p.box.Nonneg) :
    (d.carryOutAll ps).fault = none := by
  induction ps generalizing d with
  | nil => rfl
  | cons p ps ih =>
    simp only [carryOutAll, carryOut_eq (h p List.mem_cons_self)]
    exact ih fun q hq => h q (List.mem_cons_of_mem p hq)

theorem carryOutAll_frame {ps : List Placement} (h : ∀ p ∈ ps, p.box.Nonneg) :
    (d.carryOutAll ps).desktop =
      { d with windowStates := (d.carryOutAll ps).desktop.windowStates } := by
  induction ps generalizing d with
  | nil => rfl
  | cons p ps ih =>
    simp only [carryOutAll, carryOut_eq (h p List.mem_cons_self)]
    rw [ih fun q hq => h q (List.mem_cons_of_mem p hq)]
    rfl

/-- **The state of every window afterwards**: one that is named has its last box and is neither
maximized nor snapped to an edge, the others are as they were. -/
theorem window_carryOutAll {ps : List Placement} (h : ∀ p ∈ ps, p.box.Nonneg) (w : WindowRef) :
    (d.carryOutAll ps).desktop.window w =
      if ∃ p ∈ ps, p.window = w then
        { d.window w with
          box := boxAfter ps w (d.window w).box
          maximized := .none
          tiledEdges := {} }
      else d.window w := by
  induction ps generalizing d with
  | nil => simp [carryOutAll]
  | cons p ps ih =>
    simp only [carryOutAll, carryOut_eq (h p List.mem_cons_self)]
    rw [ih fun q hq => h q (List.mem_cons_of_mem p hq)]
    simp only [loosen, window_updateWindow, boxAfter_cons]
    by_cases hp : p.window = w
    · subst hp
      simp only [if_true, List.mem_cons, exists_eq_or_imp, true_or]
      by_cases hps : ∃ q ∈ ps, q.window = p.window
      · rw [if_pos hps]
      · rw [if_neg hps, boxAfter_of_forall_ne fun q hq hqw => hps ⟨q, hq, hqw⟩]
    · simp [hp, Ne.symm hp]

theorem box_carryOutAll {ps : List Placement} (h : ∀ p ∈ ps, p.box.Nonneg) (w : WindowRef) :
    ((d.carryOutAll ps).desktop.window w).box = boxAfter ps w (d.window w).box := by
  rw [window_carryOutAll h]
  split
  · rfl
  · next hne => rw [boxAfter_of_forall_ne fun p hp hpw => hne ⟨p, hp, hpw⟩]

/-- Placements change nothing but where windows are. -/
theorem alike_carryOutAll {ps : List Placement} (h : ∀ p ∈ ps, p.box.Nonneg) :
    d.Alike (d.carryOutAll ps).desktop where
  windows_eq := by rw [carryOutAll_frame h]
  outputs_eq := by rw [carryOutAll_frame h]
  workspace_eq := by rw [carryOutAll_frame h]
  rules_eq := by rw [carryOutAll_frame h]
  window_alike w := by
    rw [window_carryOutAll h]
    split
    · exact ⟨_, _, _, rfl⟩
    · exact Window.Alike.refl _

theorem tile_carryOutAll {ps : List Placement} (h : ∀ p ∈ ps, p.box.Nonneg)
    (decoration : Decoration) (ws : List WindowRef) :
    ws.map ((d.carryOutAll ps).desktop.tile decoration) =
      placeAll (ws.map (d.tile decoration)) ps := by
  rw [placeAll_eq_map, List.map_map]
  refine List.map_congr_left fun w _ => ?_
  simp only [tile, Function.comp_apply, (alike_carryOutAll h).margins_eq, box_carryOutAll h]

theorem output_carryOutAll {ps : List Placement} (h : ∀ p ∈ ps, p.box.Nonneg) (o : OutputRef) :
    (d.carryOutAll ps).desktop.output o = d.output o := by
  rw [carryOutAll_frame h]
  rfl

end Desktop

end WindowTiling
