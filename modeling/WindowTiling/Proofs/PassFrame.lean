import WindowTiling.Proofs.Planning

/-!
# What a pass leaves alone

**Theorem (`arrange_frame`).** A pass changes nothing but the boxes of windows, and with its box a
window loses being maximized and snapped to an edge. A window is changed only if it is tiled, that
is, if it is registered and no flag and no rule keeps it out, on the visible workspace, and on a
registered output with usable area. All else is as before: every other window, the registry and its
order, the outputs, the workspace and the rules. This holds in every mode and also when a fault
stops the pass.

The target plays no part in it. The plan of a pass is made of placements on screens, and there are
only tiled windows on screens; so a target whose window is not tiled is never placed.
-/

namespace WindowTiling

namespace Desktop

variable {d : Desktop} {decoration : Decoration} {gap : Int} {mode : TilingMode}
  {target : Option Target}

/-- The window is tiled: it is registered, no flag and no rule keeps it out, it is on the visible
workspace, and its output is registered and has usable area. -/
def IsTiled (d : Desktop) (w : WindowRef) : Prop :=
  w ∈ d.windows.values ∧ d.Tileable w ∧ (d.window w).workspace = some d.workspace ∧
    ∃ o ∈ d.outputs.values, (d.window w).output = some o ∧ (d.output o).isUsable = true

theorem isTiled_iff {w : WindowRef} : d.IsTiled w ↔
    ∃ o ∈ d.outputs.values, (d.output o).isUsable = true ∧ w ∈ d.eligible o := by
  constructor
  · rintro ⟨hw, htileable, hworkspace, o, ho, houtput, husable⟩
    exact ⟨o, ho, husable, mem_eligible_iff.2 ⟨hw, ⟨houtput, hworkspace⟩, htileable⟩⟩
  · rintro ⟨o, ho, husable, hw⟩
    obtain ⟨hw, ⟨houtput, hworkspace⟩, htileable⟩ := mem_eligible_iff.1 hw
    exact ⟨hw, htileable, hworkspace, o, ho, houtput, husable⟩

theorem isTiled_of_mem_planPass {p : Placement}
    (hp : p ∈ (planPass mode gap (d.screens decoration) target).placements) :
    d.IsTiled p.window := by
  obtain ⟨o, ho, hc, hmem, -⟩ := mem_planPass hp
  exact isTiled_iff.2 ⟨o, ho, hc.1, hmem⟩

/-- **The frame of a pass.** Every window is as before, or it is tiled and has been given a box. The
registry, the outputs, the workspace and the rules are as before. When tiling is off nothing at all
changes. -/
theorem arrange_frame (d : Desktop) (decoration : Decoration) (gap : Int) (mode : TilingMode)
    (target : Option Target) :
    let after := (d.arrange decoration gap mode target).desktop
    (∀ w, after.window w = d.window w ∨ d.IsTiled w ∧ mode ≠ .off ∧
      ∃ box, after.window w = { d.window w with box, maximized := .none, tiledEdges := {} }) ∧
      after = { d with windowStates := after.windowStates } ∧
      (mode = .off → after = d) := by
  intro after
  have hnonneg := @nonneg_of_mem_planPass d decoration gap mode target
  refine ⟨?_, carryOutAll_frame hnonneg, ?_⟩
  · intro w
    have hwindow : after.window w = _ := window_carryOutAll hnonneg w
    by_cases hp : ∃ p ∈ (planPass mode gap (d.screens decoration) target).placements, p.window = w
    · rw [if_pos hp] at hwindow
      obtain ⟨p, hp, rfl⟩ := hp
      refine .inr ⟨isTiled_of_mem_planPass hp, ?_, _, hwindow⟩
      rintro rfl
      exact absurd hp List.not_mem_nil
    · rw [if_neg hp] at hwindow
      exact .inl hwindow
  · rintro rfl
    exact congrArg (·.desktop) (arrange_off d decoration gap target)

end Desktop

end WindowTiling
