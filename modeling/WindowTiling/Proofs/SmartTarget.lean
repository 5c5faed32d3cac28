import WindowTiling.Proofs.Runs

/-!
# The target belongs to smart mode

The resize target is written in many places: a resize that starts or ends sets it, closing its
window or cancelling the resize clears it, turning grid mode on clears it, and every pass puts
its own in the place of the old one. Grid mode may be on or off while tiling is off.

**Theorem (`target_belongs_to_smart`).** In every run, from any configuration, there is no target
while grid mode is on. And a step that is taken in another mode than smart mode leaves no target or
one of the same window.

A plain change writes the target in one of four ways (`target_effect`), and only in smart mode can
it name another window than before. A pass keeps the window of the target that it is handed
(`map_window_target_pass`); with plain grids, where it is handed one that it passes over, there is
none afterwards.
-/

namespace WindowTiling

/-! ## Passes keep the window -/

section Plan

variable {gap : Int} {target : Option Target}

theorem Screen.map_window_target_layOut {s : Screen} {l : Layout}
    (h : s.layOut gap target = .ok l) : l.target.map (·.window) = target.map (·.window) := by
  simp only [layOut] at h
  split at h
  · simp at h
  · simp at h
  · split at h
    · cases hg : gridPlacements gap s.region.usable s.region.usable _ true s.region.tiles with
      | error fault => rw [hg] at h; cases h
      | ok ps =>
        rw [hg] at h
        cases h
        rfl
    · next resized geometry hr =>
      obtain ⟨-, rfl⟩ := Region.of_resized? hr
      split at h
      · cases h
        rfl
      · simp only [layOutAround] at h
        generalize reconcile _ _ _ _ _ = r at h
        cases hg : gridPlacements gap s.region.usable r.area r.grid false r.placed with
        | error fault => rw [hg] at h; cases h
        | ok ps =>
          rw [hg] at h
          cases h
          rfl

theorem map_window_target_layOutAll (gap : Int) (screens : List Screen) (target : Option Target) :
    (layOutAll gap screens target).target.map (·.window) = target.map (·.window) := by
  induction screens generalizing target with
  | nil => rfl
  | cons s rest ih =>
    cases hl : s.layOut gap target with
    | error fault => simp only [layOutAll, hl]
    | ok l =>
      simp only [layOutAll, hl]
      exact (ih l.target).trans (Screen.map_window_target_layOut hl)

end Plan

namespace Service

/-- **A pass keeps the window of the target**, but with plain grids there is none afterwards. -/
theorem map_window_target_pass (s : Service) : s.pass.target.map (·.window) =
    if s.mode = .grid then none else s.target.map (·.window) := by
  show (planPass s.mode s.gap (s.desktop.screens s.config.decoration) s.target).target.map
    (·.window) = _
  cases s.mode with
  | off => rfl
  | grid => exact map_window_target_layOutAll _ _ none
  | smart =>
    rw [planPass, Plan.target_filled]
    exact map_window_target_layOutAll _ _ _

theorem map_window_target_passed_of_ne_grid {s : Service} (h : s.mode ≠ .grid) :
    s.passed.target.map (·.window) = s.target.map (·.window) := by
  have hpass := s.map_window_target_pass
  rw [if_neg h] at hpass
  rw [passed]
  dsimp only
  split
  · rfl
  · exact hpass

theorem map_window_target_passed (s : Service) : s.passed.target = none ∨
    s.passed.target.map (·.window) = s.target.map (·.window) := by
  by_cases hgrid : s.mode = .grid
  · have hpass := s.map_window_target_pass
    rw [if_pos hgrid] at hpass
    rw [passed]
    dsimp only
    split
    · exact .inr rfl
    · exact .inl (Option.map_eq_none_iff.1 hpass)
  · exact .inr (map_window_target_passed_of_ne_grid hgrid)

end Service

/-! ## Plain changes of the target -/

theorem Service.target_commanded (s : Service) (text : Text) :
    (s.commanded text).target = s.target ∨
      (s.commanded text).target = none ∧ (s.commanded text).grid = true := by
  rcases s.commanded_cases text with ⟨enabled, history, heq⟩ | ⟨grid, history, heq⟩ <;> rw [heq]
  · exact .inl rfl
  · cases grid with
    | true => exact .inr ⟨rfl, rfl⟩
    | false => exact .inl rfl

theorem Service.target_released (s : Service) (w : WindowRef) :
    (s.released w).target = s.target ∨
      (s.released w).target = none ∧ ∃ t, s.target = some t ∧ t.window = w := by
  rw [released]
  dsimp only
  split
  · next h => exact .inr ⟨rfl, Option.map_eq_some_iff.1 h⟩
  · exact .inl rfl

theorem Service.target_aimed (s : Service) (w : WindowRef) (geometry : Box) :
    (s.aimed w geometry).target = s.target ∨
      s.mode = .smart ∧ (s.aimed w geometry).target = some ⟨w, geometry⟩ := by
  rw [aimed]
  dsimp only
  split
  · next h => exact .inr ⟨h, rfl⟩
  · exact .inl rfl

namespace Step

/-- A resize of the window starts or ends with the step. -/
def Aims (s : Service) (w : WindowRef) : Step → Prop
  | startResize v _ => s.drag = none ∧ v = w
  | endResize => ∃ drag, s.drag = some drag ∧ drag.window = w
  | _ => False

/-- The window is closed, or the resize of it cancelled, with the step. -/
def Releases (s : Service) (w : WindowRef) : Step → Prop
  | removeWindow v => v = w
  | cancelResize => ∃ drag, s.drag = some drag ∧ drag.window = w
  | _ => False

/-- **How a step writes the target itself**: not at all, or grid mode is turned on and it is
cleared, or its window is released and it is cleared, or a window is aimed at in smart mode and it
gets the box of this window. -/
theorem target_effect (s : Service) (e : Step) :
    (e.effect s).target = s.target ∨
      (e.effect s).target = none ∧ (e.effect s).grid = true ∨
      (e.effect s).target = none ∧ (∃ t, s.target = some t ∧ e.Releases s t.window) ∨
      s.mode = .smart ∧ ∃ w, e.Aims s w ∧
        (e.effect s).target = some ⟨w, (s.desktop.window w).box⟩ := by
  -- Closing, cancelling, starting and ending a resize and the commands write the target; all other
  -- steps leave it alone.
  cases e with
  | removeWindow w =>
    simp only [effect]
    split
    · rcases (s.changed _ _).target_released w with h | ⟨h, t, ht, rfl⟩
      · exact .inl h
      · exact .inr (.inr (.inl ⟨h, t, ht, rfl⟩))
    · exact .inl rfl
  | startResize w edges =>
    simp only [effect]
    split
    · exact .inl rfl
    · next hdrag =>
      have hnone : s.drag = none := by simpa using hdrag
      rcases Service.target_aimed _ w (s.desktop.window w).box with h | ⟨hsmart, h⟩
      · exact .inl h
      · exact .inr (.inr (.inr ⟨hsmart, w, ⟨hnone, rfl⟩, h⟩))
  | endResize =>
    simp only [effect]
    split
    · exact .inl rfl
    · next drag hdrag =>
      rcases Service.target_aimed _ drag.window (s.desktop.window drag.window).box with
        h | ⟨hsmart, h⟩
      · exact .inl h
      · exact .inr (.inr (.inr ⟨hsmart, drag.window, ⟨drag, hdrag, rfl⟩, h⟩))
  | cancelResize =>
    simp only [effect]
    split
    · exact .inl rfl
    · next drag hdrag =>
      split
      · rcases Service.target_released _ drag.window with h | ⟨h, t, ht, hw⟩
        · exact .inl h
        · exact .inr (.inr (.inl ⟨h, t, ht, drag, hdrag, hw.symm⟩))
      · exact .inl rfl
  | command text => exact (s.target_commanded text).imp_right .inl
  | publishCommand text => exact ((s.noted _).target_commanded text).imp_right .inl
  | _ =>
    simp only [effect]
    repeat' split
    all_goals exact .inl rfl

end Step

/-! ## Runs -/

namespace Service

variable {s : Service}

theorem grid_eq_false_of_smart (h : s.mode = .smart) : s.grid = false := by
  cases hgrid : s.grid with
  | false => rfl
  | true =>
    rw [mode, hgrid] at h
    split at h <;> simp at h

/-- While grid mode is on there is no target. -/
def Latched (s : Service) : Prop := s.grid = true → s.target = none

theorem grid_commanded (s : Service) (text : Text) (h : (s.commanded text).grid = true) :
    s.grid = true ∨ (s.commanded text).target = none := by
  rcases s.commanded_cases text with ⟨enabled, history, heq⟩ | ⟨grid, history, heq⟩ <;>
    rw [heq] at h ⊢
  · exact .inl h
  · exact .inr (if_pos h)

/-- Only a command turns grid mode on, and it clears the target. -/
theorem grid_effect (s : Service) (e : Step) (h : (e.effect s).grid = true) :
    s.grid = true ∨ (e.effect s).target = none := by
  cases e with
  | command text => exact s.grid_commanded text h
  | publishCommand text => exact (s.noted _).grid_commanded text h
  | _ =>
    simp only [Step.effect] at h
    repeat' split at h
    all_goals exact .inl h

theorem latched_effect (h : s.Latched) (e : Step) : (e.effect s).Latched := by
  intro hgrid
  rcases e.target_effect s with heq | ⟨hnone, -⟩ | ⟨hnone, -⟩ | ⟨hsmart, -⟩
  · rcases s.grid_effect e hgrid with hbefore | hnone
    · exact heq.trans (h hbefore)
    · exact hnone
  · exact hnone
  · exact hnone
  · refine (s.grid_effect e hgrid).resolve_left ?_
    rw [grid_eq_false_of_smart hsmart]
    exact Bool.false_ne_true

theorem latched_passed (h : s.Latched) : s.passed.Latched := by
  intro hgrid
  rcases s.map_window_target_passed with hnone | hsame
  · exact hnone
  · rw [h hgrid] at hsame
    exact Option.map_eq_none_iff.1 hsame

/-- In another mode than smart mode a step leaves no target or one of the same window. -/
theorem map_window_target_step (hs : s.server.subscribers = []) (h : s.mode ≠ .smart) (e : Step) :
    (s.step e).target = none ∨
      (s.step e).target.map (·.window) = s.target.map (·.window) := by
  have heffect : (e.effect s).target = none ∨ (e.effect s).target = s.target := by
    rcases e.target_effect s with heq | ⟨hnone, -⟩ | ⟨hnone, -⟩ | ⟨hsmart, -⟩
    · exact .inr heq
    · exact .inl hnone
    · exact .inl hnone
    · exact absurd hsmart h
  rw [step_eq hs]
  split
  · rcases (e.effect s).map_window_target_passed with hnone | hsame
    · exact .inl hnone
    · rw [hsame]
      refine heffect.imp (fun hnone => ?_) fun heq => by rw [heq]
      rw [hnone] at hsame
      exact Option.map_eq_none_iff.1 hsame
  · exact heffect.imp_right fun heq => by rw [heq]

/-- **The target belongs to smart mode.** In every run there is no target while grid mode is on,
whether tiling is on or off, and a step taken in another mode than smart mode keeps the target's
window or clears the target. -/
theorem target_belongs_to_smart (config : Config) (windows : Roster WindowRef Window)
    (outputs : Roster OutputRef Output) (steps : List Step) :
    let s := launched config windows outputs
    s.Always (fun s => s.grid = true → s.target = none) steps ∧
      s.Each (fun s e => s.mode ≠ .smart → (s.step e).target = none ∨
        (s.step e).target.map (·.window) = s.target.map (·.window)) steps := by
  intro s
  have hs : s.Running := running_launched config windows outputs
  have hlatched : s.Always Latched steps := by
    refine always_of_step (fun s e hs h => ?_) hs fun _ => rfl
    rw [step_eq hs.subscribers_eq]
    split
    · exact latched_passed (latched_effect h e)
    · exact latched_effect h e
  exact ⟨hlatched, each_of_always
    (fun s e hs _ hmode => map_window_target_step hs.subscribers_eq hmode e) hs hlatched⟩

end Service

end WindowTiling
