import WindowTiling.Proofs.Runs

/-!
# Are grids up to date?

In grid mode every change of what is tiled is followed by a pass, so that a further pass would find
nothing to do, except for the window that is being resized. There is one gap in this: cancelling a
resize puts its window back to where it was at the start and makes no pass, while other windows may
have come and gone since.

**Theorem (`grids_fresh_iff`).** This is the only gap. In every run a further pass with plain grids
moves no window in any state in which grid mode is on and no resize is under way, just when
every resize that is cancelled in grid mode leaves its window where a pass would place it.

A window is *in place* if a pass would leave it where it is. The plan of a pass with plain grids
names no window twice (`nodup_planPass_grid`) and does not depend on where windows are. So a pass
leaves every window in place (`inPlace_arrange`), also if a fault stops it, and a window that does
not move stays in place as long as there is no other change. The invariant is that in grid mode all
windows are in place but the one under resize.

`cancelled_resize_is_stale` is a run in which two windows overlap in grid mode.
-/

namespace WindowTiling

/-! ## Plans with grids -/

theorem Screen.nodup_layOut_plain {gap : Int} {s : Screen} {l : Layout}
    (hn : (s.region.tiles.map (·.window)).Nodup) (hl : s.layOut gap none = .ok l) :
    (l.placements.map (·.window)).Nodup := by
  have hr : s.region.resized? none = none := rfl
  simp only [layOut, hr] at hl
  split at hl
  · simp at hl
  · simp at hl
  · cases hg : gridPlacements gap s.region.usable s.region.usable _ true s.region.tiles with
    | error fault => rw [hg] at hl; cases hl
    | ok ps =>
      rw [hg] at hl
      cases hl
      simp only [gridPlacements] at hg
      split at hg
      · simp at hg
      · split at hg
        · simp at hg
        · next cells hcells =>
          obtain rfl := Except.ok.inj hg
          rw [← List.map_fst_zip (Nat.le_of_eq (Grid.length_cells hcells).symm), List.map_map] at hn
          rw [List.map_map]
          exact hn

theorem nodup_layOutAll {screens : List Screen}
    (hn : ∀ s ∈ screens, (s.region.tiles.map (·.window)).Nodup)
    (ha : screens.Pairwise fun s t => s.region.Apart t.region) (gap : Int) :
    ((layOutAll gap screens none).placements.map (·.window)).Nodup := by
  induction screens with
  | nil => exact .nil
  | cons s rest ih =>
    obtain ⟨hns, hn⟩ := List.forall_mem_cons.1 hn
    obtain ⟨hapart, ha⟩ := List.pairwise_cons.1 ha
    cases hl : s.layOut gap none with
    | error fault =>
      simp only [layOutAll, hl]
      exact .nil
    | ok l =>
      have htarget : l.target = none := (Screen.of_layOut_plain hl rfl).1
      simp only [layOutAll, hl, htarget, List.map_append]
      refine List.nodup_append.2 ⟨Screen.nodup_layOut_plain hns hl, ih hn ha, ?_⟩
      -- The windows placed on the other screens are not on this one.
      intro v hv w hw heq
      obtain ⟨p, hp, rfl⟩ := List.mem_map.1 hv
      obtain ⟨q, hq, rfl⟩ := List.mem_map.1 hw
      obtain ⟨t, ht, htw⟩ := List.mem_map.1 (Screen.accepts_of_layOut hl p hp).1
      obtain ⟨r, hr, hacc⟩ := (layOutAll_accepts gap rest none).1 q hq
      obtain ⟨u, hu, huw⟩ := List.mem_map.1 (hacc q List.mem_cons_self).1
      exact hapart r hr t ht u hu (htw.trans (heq.trans huw.symm))

namespace Desktop

variable {d d' : Desktop} {decoration : Decoration} {gap : Int}

theorem nodup_planPass_grid (h : d.Sound) (target : Option Target) :
    ((planPass .grid gap (d.screens decoration) target).placements.map (·.window)).Nodup := by
  refine nodup_layOutAll (fun s hs => ?_) (h.apart_screens decoration) gap
  obtain ⟨o, -, -, rfl⟩ := mem_screens.1 hs
  rw [map_window_screen]
  exact h.nodup_eligible o

/-- Carrying out placements moves nothing just when every window has its box already. -/
theorem moves_carryOutAll_eq_nil_iff {ps : List Placement} (h : ∀ p ∈ ps, p.box.Nonneg) :
    (d.carryOutAll ps).moves = [] ↔ ∀ p ∈ ps, (d.window p.window).box = p.box := by
  induction ps generalizing d with
  | nil => exact ⟨fun _ p hp => absurd hp List.not_mem_nil, fun _ => rfl⟩
  | cons p ps ih =>
    obtain ⟨hp, hps⟩ := List.forall_mem_cons.1 h
    simp only [carryOutAll, carryOut_eq hp, List.forall_mem_cons]
    by_cases hbox : (d.window p.window).box = p.box
    · -- The first placement changes no box, so the others are judged as before.
      have hsame : ∀ v, (((d.loosen p.window).updateWindow p.window fun v =>
          { v with box := p.box }).window v).box = (d.window v).box := by
        intro v
        rw [window_updateWindow]
        split
        · next hv =>
          subst hv
          exact hbox.symm
        · exact field_updateWindow Window.box p.window v
            (f := fun x => { x with maximized := .none, tiledEdges := {} }) fun _ => rfl
      rw [if_pos hbox, ih hps]
      simp only [hsame, hbox, true_and]
    · rw [if_neg hbox]
      exact ⟨fun hnil => by simp at hnil, fun hall => absurd hall.1 hbox⟩

/-- A pass with plain grids would leave the window where it is. -/
def InPlace (d : Desktop) (decoration : Decoration) (gap : Int) (w : WindowRef) : Prop :=
  ∀ p ∈ (planPass .grid gap (d.screens decoration) none).placements,
    p.window = w → (d.window w).box = p.box

theorem moves_arrange_grid_eq_nil_iff {target : Option Target} :
    (d.arrange decoration gap .grid target).moves = [] ↔ ∀ w, d.InPlace decoration gap w := by
  rw [arrange_grid]
  show (d.carryOutAll (planPass .grid gap (d.screens decoration) none).placements).moves = [] ↔ _
  rw [moves_carryOutAll_eq_nil_iff nonneg_of_mem_planPass]
  exact ⟨fun h w p hp hpw => hpw ▸ h p hp, fun h p hp => h p.window p hp rfl⟩

theorem InPlace.congr {w : WindowRef} (h : d.InPlace decoration gap w) (hd : d.Rearranged d')
    (hbox : (d'.window w).box = (d.window w).box) : d'.InPlace decoration gap w := by
  intro p hp hpw
  rw [planPass_congr (hd.screens decoration) (.inl rfl)] at hp
  rw [hbox]
  exact h p hp hpw

/-- **A pass leaves every window in place.** -/
theorem inPlace_arrange (h : d.Sound) (target : Option Target) (w : WindowRef) :
    (d.arrange decoration gap .grid target).desktop.InPlace decoration gap w := by
  intro p hp hpw
  subst hpw
  rw [planPass_congr (rearranged_arrange.screens decoration) (.inl rfl)] at hp
  rw [arrange_grid, box_arrange_eq_boxAfter]
  exact boxAfter_of_mem (nodup_planPass_grid h none) hp _

end Desktop

namespace Service

variable {s : Service}

/-- The window is where a pass with plain grids would place it. -/
def InPlace (s : Service) (w : WindowRef) : Prop :=
  s.desktop.InPlace s.config.decoration s.gap w

/-- In grid mode all windows are in place but the one under resize. -/
def OthersInPlace (s : Service) : Prop :=
  s.mode = .grid → ∀ w, (∀ drag ∈ s.drag, drag.window ≠ w) → s.InPlace w

/-- In grid mode a pass would move nothing, unless a resize is under way. -/
def Fresh (s : Service) : Prop := s.mode = .grid → s.drag = none →
  (s.desktop.arrange s.config.decoration s.gap .grid s.target).moves = []

/-- A resize that is cancelled in grid mode leaves its window in place. -/
def CancelsInPlace (s : Service) (e : Step) : Prop := e = .cancelResize → s.mode = .grid →
  ∀ drag ∈ s.drag, (s.step e).InPlace drag.window

theorem othersInPlace_passed (h : s.desktop.Sound) : s.passed.OthersInPlace := by
  intro hgrid w _
  have hmode : s.mode = .grid := hgrid
  show s.pass.desktop.InPlace s.config.decoration s.gap w
  rw [pass, hmode]
  exact Desktop.inPlace_arrange h s.target w

theorem InPlace.effect {w : WindowRef} (h : s.InPlace w) {e : Step} (hp : e.passes s = false)
    (hw : ∀ drag ∈ s.drag, drag.window ≠ w) : (e.effect s).InPlace w := by
  have hconfig : (e.effect s).config = s.config := (e.effect_frame s).1
  rw [InPlace, gap, hconfig]
  exact Desktop.InPlace.congr h (Step.rearranged_effect hp) (Step.box_effect hp hw)

theorem othersInPlace_step (hs : s.Running) (h : s.OthersInPlace) {e : Step}
    (hq : s.CancelsInPlace e) : (s.step e).OthersInPlace := by
  cases hp : e.passes s with
  | true =>
    rw [step_of_passes hs.subscribers_eq hp]
    exact othersInPlace_passed (hs.effect e).sound
  | false =>
    have hstep := step_of_not_passes hs.subscribers_eq hp
    intro hgrid w hw
    have hmode : s.mode = .grid := by rw [← Step.mode_effect hp, ← hstep, hgrid]
    by_cases hdragged : ∃ drag ∈ s.drag, drag.window = w
    · -- The window was under resize and is not any more, so the resize has been cancelled.
      obtain ⟨drag, hdrag, rfl⟩ := hdragged
      have hcancel : e = .cancelResize := by
        by_contra hne
        rw [hstep] at hw
        exact hw drag (Step.drag_effect hp hne hdrag) rfl
      exact hq hcancel hmode drag hdrag
    · have hothers : ∀ drag ∈ s.drag, drag.window ≠ w := fun drag hd heq =>
        hdragged ⟨drag, hd, heq⟩
      rw [hstep]
      exact (h hmode w hothers).effect hp hothers

theorem fresh_of_othersInPlace (h : s.OthersInPlace) : s.Fresh := by
  intro hgrid hnone
  rw [Desktop.moves_arrange_grid_eq_nil_iff]
  intro w
  exact h hgrid w fun drag hdrag => by rw [hnone] at hdrag; simp at hdrag

theorem cancelsInPlace_of_fresh (hs : s.Running) {e : Step} (h : (s.step e).Fresh) :
    s.CancelsInPlace e := by
  rintro rfl hgrid drag hdrag
  obtain ⟨-, hnone, hmode⟩ := Step.effect_cancelResize hdrag
  rw [step_of_not_passes hs.subscribers_eq rfl] at h ⊢
  exact Desktop.moves_arrange_grid_eq_nil_iff.1 (h (hmode.trans hgrid) hnone) drag.window

/-- **When grids are up to date.** In every run a further pass with plain grids moves nothing in any
state with grid mode on and no resize under way, just when every resize that is cancelled in grid
mode leaves its window in place. -/
theorem grids_fresh_iff (config : Config) (windows : Roster WindowRef Window)
    (outputs : Roster OutputRef Output) (steps : List Step) :
    let s := launched config windows outputs
    s.Always (fun s => s.mode = .grid → s.drag = none →
        (s.desktop.arrange s.config.decoration s.gap .grid s.target).moves = []) steps ↔
      s.Each (fun s e => e = .cancelResize → s.mode = .grid →
        ∀ drag ∈ s.drag, (s.step e).InPlace drag.window) steps := by
  intro s
  have hempty : s.OthersInPlace := fun _ w _ p hp _ => absurd hp List.not_mem_nil
  exact always_iff_each (fun s _ h => fresh_of_othersInPlace h)
    (fun s e hs h _ hq => othersInPlace_step hs h hq)
    (fun s e hs _ _ h => cancelsInPlace_of_fresh hs h) (running_launched config windows outputs)
    hempty (each_of_forall (Q := fun _ _ => True) (fun _ _ => trivial) s steps)

/-- **A cancelled resize leaves a stale grid.** A window is added while the only other one is being
resized. Cancelling the resize gives that one the whole screen again, over the new one, until the
next pass. -/
theorem cancelled_resize_is_stale :
    let s := unoccupied .grid 2
    let steps : List Step := [.addOutput ⟨0⟩, .addWindow ⟨0⟩ none none, .startResize ⟨0⟩ ⟨8⟩,
      .addWindow ⟨1⟩ none none, .cancelResize]
    let last := steps.foldl step s
    ¬ s.Always (fun s => s.mode = .grid → s.drag = none →
        (s.desktop.arrange s.config.decoration s.gap .grid s.target).moves = []) steps ∧
      (last.desktop.window ⟨0⟩).box = ⟨10, 10, 1900, 1060⟩ ∧
      (last.desktop.window ⟨1⟩).box = ⟨965, 10, 945, 1060⟩ ∧
      (last.desktop.arrange last.config.decoration last.gap .grid last.target).moves =
        [⟨⟨0⟩, ⟨10, 10, 945, 1060⟩⟩] := by
  decide

end Service

end WindowTiling
