import WindowTiling.Arrangement

/-!
# Desktops that differ in where windows are

Which windows are tiled on an output, which grids they ask for, how thick their decorations are and
which faults the rules give does not depend on where windows are, nor on whether they are maximized
or snapped to an edge. So desktops that differ in nothing else agree in all of it.

Main facts: `Desktop.Alike.eligible_eq`, `Desktop.Alike.preference_eq` and
`Desktop.Alike.eligibleFault?_eq`.
-/

namespace WindowTiling

/-- Two windows are alike if they differ at most in where they are. -/
def Window.Alike (w w' : Window) : Prop :=
  ∃ box maximized tiledEdges, w' = { w with box, maximized, tiledEdges }

namespace Window.Alike

variable {w w' : Window}

theorem refl (w : Window) : w.Alike w := ⟨w.box, w.maximized, w.tiledEdges, rfl⟩

theorem withBox (w : Window) (box : Box) : w.Alike { w with box } :=
  ⟨box, w.maximized, w.tiledEdges, rfl⟩

theorem property_eq (h : w.Alike w') (rules : List Rule) (key : PropertyKey) :
    property rules w' key = property rules w key := by
  obtain ⟨box, maximized, edges, rfl⟩ := h
  rfl

theorem propertyFault?_eq (h : w.Alike w') (rules : List Rule) (key : PropertyKey) :
    propertyFault? rules w' key = propertyFault? rules w key := by
  obtain ⟨box, maximized, edges, rfl⟩ := h
  rfl

theorem isFree_iff (h : w.Alike w') : w'.IsFree ↔ w.IsFree := by
  obtain ⟨box, maximized, edges, rfl⟩ := h
  rfl

theorem margins_eq (h : w.Alike w') (decoration : Decoration) :
    decoration.margins w' = decoration.margins w := by
  obtain ⟨box, maximized, edges, rfl⟩ := h
  rfl

theorem output_eq (h : w.Alike w') : w'.output = w.output := by
  obtain ⟨box, maximized, edges, rfl⟩ := h
  rfl

theorem workspace_eq (h : w.Alike w') : w'.workspace = w.workspace := by
  obtain ⟨box, maximized, edges, rfl⟩ := h
  rfl

end Window.Alike

namespace Desktop

/-- Two desktops are alike if they differ at most in where outputs and windows are. -/
structure Alike (d d' : Desktop) : Prop where
  windows_eq : d'.windows = d.windows
  outputs_eq : d'.outputs = d.outputs
  workspace_eq : d'.workspace = d.workspace
  rules_eq : d'.rules = d.rules
  window_alike : ∀ w, (d.window w).Alike (d'.window w)

namespace Alike

variable {d d' : Desktop}

theorem property_eq (h : d.Alike d') (w : WindowRef) (key : PropertyKey) :
    d'.property w key = d.property w key := by
  rw [property, h.rules_eq]
  exact (h.window_alike w).property_eq d.rules key

theorem propertyFault?_eq (h : d.Alike d') (w : WindowRef) (key : PropertyKey) :
    d'.propertyFault? w key = d.propertyFault? w key := by
  rw [propertyFault?, h.rules_eq]
  exact (h.window_alike w).propertyFault?_eq d.rules key

theorem margins_eq (h : d.Alike d') (decoration : Decoration) (w : WindowRef) :
    decoration.margins (d'.window w) = decoration.margins (d.window w) :=
  (h.window_alike w).margins_eq decoration

theorem tileable_iff (h : d.Alike d') (w : WindowRef) : d'.Tileable w ↔ d.Tileable w := by
  rw [Tileable, Tileable, h.property_eq, h.property_eq, (h.window_alike w).isFree_iff]

theorem windowsOn_eq (h : d.Alike d') (o : OutputRef) (workspace : Text) :
    d'.windowsOn o workspace = d.windowsOn o workspace := by
  rw [windowsOn, windowsOn, h.windows_eq]
  refine List.filter_congr fun w _ => decide_eq_decide.2 ?_
  rw [(h.window_alike w).output_eq, (h.window_alike w).workspace_eq]

/-- Which windows are tiled on an output does not depend on where they are. -/
theorem eligible_eq (h : d.Alike d') (o : OutputRef) : d'.eligible o = d.eligible o := by
  rw [eligible, eligible, h.workspace_eq, h.windowsOn_eq]
  exact List.filter_congr fun w _ => decide_eq_decide.2 (h.tileable_iff w)

theorem tileableFault?_eq (h : d.Alike d') : d'.tileableFault? = d.tileableFault? := by
  funext w
  by_cases hw : (d.window w).IsFree
  · have hw' := (h.window_alike w).isFree_iff.2 hw
    rw [tileableFault?, tileableFault?, if_neg (not_not_intro hw), if_neg (not_not_intro hw'),
      h.propertyFault?_eq, h.propertyFault?_eq, h.property_eq]
  · have hw' : ¬ (d'.window w).IsFree := fun hf => hw ((h.window_alike w).isFree_iff.1 hf)
    rw [tileableFault?, tileableFault?, if_pos hw, if_pos hw']

theorem eligibleFault?_eq (h : d.Alike d') (o : OutputRef) :
    d'.eligibleFault? o = d.eligibleFault? o := by
  rw [eligibleFault?, eligibleFault?, h.workspace_eq, h.windowsOn_eq, h.tileableFault?_eq]

theorem preference_eq (h : d.Alike d') (ws : List WindowRef) :
    d'.preference ws = d.preference ws := by
  simp only [preference, h.property_eq]

theorem askFault?_eq (h : d.Alike d') (key : PropertyKey) (value : Tristate)
    (ws : List WindowRef) : d'.askFault? key value ws = d.askFault? key value ws := by
  induction ws with
  | nil => rfl
  | cons w ws ih => rw [askFault?, askFault?, h.propertyFault?_eq, h.property_eq, ih]

theorem preferenceFault?_eq (h : d.Alike d') (ws : List WindowRef) :
    d'.preferenceFault? ws = d.preferenceFault? ws := by
  rw [preferenceFault?, preferenceFault?, h.askFault?_eq, h.askFault?_eq]

/-- Where outputs are does not matter for what there is to lay out, only whether they are usable. -/
theorem concerns_iff (h : d.Alike d') {o : OutputRef}
    (hu : (d'.output o).isUsable = (d.output o).isUsable) : d'.Concerns o ↔ d.Concerns o := by
  rw [Concerns, Concerns, hu, h.eligible_eq, h.eligibleFault?_eq]

end Alike

end Desktop

end WindowTiling
