import WindowTiling.Proofs.PassOutcome

/-!
# What can stop a pass

A pass has guards against whatever could go wrong with geometry: windows without a grid, a grid with
nothing to divide by, a box of negative size. They are never needed. There is a grid for any number
of windows but none, each grid has columns and rows, and every box is clamped to the usable area
before a window is given it.

**Theorem (`arrange_fault_isPattern`).** Where the aspect of every usable area is a number, the only
fault a pass can stop at is a rule with a pattern that is no text. So with rules as they should be
it runs through, whatever the boxes, the areas, the gap and the decorations are. What it hands to
windows are proper boxes inside the usable areas of their outputs.

The layout of a screen fails only for a reason that the screen comes with
(`exists_screen_of_fault_layOutAll`), and what a screen comes with are the faults of the rules.
-/

namespace WindowTiling

/-! ## Screens -/

section Plan

variable {gap : Int} {target : Option Target}

theorem Screen.layOut_of_fault {s : Screen} {fault : Fault} (h : s.fault = some fault) :
    s.layOut gap target = .error fault := by
  simp only [Screen.layOut, h]

/-- Where screens that come without a fault are proper, laying them out stops only at a fault that
one of them comes with. -/
theorem exists_screen_of_fault_layOutAll {screens : List Screen}
    (hs : ∀ s ∈ screens, s.fault = none → s.Proper) {fault : Fault}
    (h : (layOutAll gap screens target).fault = some fault) :
    ∃ s ∈ screens, s.fault = some fault := by
  induction screens generalizing target with
  | nil => simp [layOutAll] at h
  | cons s rest ih =>
    -- The first screen comes with a fault, or it is laid out and the fault is among the rest.
    obtain ⟨hproper, hrest⟩ := List.forall_mem_cons.1 hs
    cases hf : s.fault with
    | some own =>
      simp only [layOutAll, Screen.layOut_of_fault hf, Option.some.injEq] at h
      exact ⟨s, List.mem_cons_self, h ▸ hf⟩
    | none =>
      obtain ⟨l, hok, -⟩ := Screen.layOut_ok (hproper hf) gap target
      simp only [layOutAll, hok] at h
      obtain ⟨s', hs', hfault⟩ := ih hrest h
      exact ⟨s', List.mem_cons_of_mem s hs', hfault⟩

theorem fault_layOutAll_of_fault_planPass {mode : TilingMode} {screens : List Screen}
    {fault : Fault} (h : (planPass mode gap screens target).fault = some fault) :
    ∃ target', (layOutAll gap screens target').fault = some fault := by
  cases mode with
  | off => simp [planPass] at h
  | grid => exact ⟨none, h⟩
  | smart => exact ⟨target, by rwa [planPass, Plan.fault_filled] at h⟩

end Plan

/-! ## Rules -/

/-- Both patterns of the rule are texts. -/
def Rule.IsTextual (r : Rule) : Prop :=
  patternFault? r.identifier = none ∧ patternFault? r.title = none

namespace Desktop

variable {d : Desktop}

theorem askFault?_eq_none (h : ∀ r ∈ d.rules, r.IsTextual) (key : PropertyKey) (value : Tristate)
    (ws : List WindowRef) : d.askFault? key value ws = none := by
  induction ws with
  | nil => rfl
  | cons w ws ih => rw [askFault?, propertyFault?, propertyFault?_eq_none _ _ h, ih, ite_self]; rfl

theorem fault_screen_eq_none (h : ∀ r ∈ d.rules, r.IsTextual) (decoration : Decoration)
    (o : OutputRef) : (d.screen decoration o).fault = none := by
  have htileable : ∀ w, d.tileableFault? w = none := by
    intro w
    simp only [tileableFault?, propertyFault?, propertyFault?_eq_none _ _ h, ite_self,
      Option.or_none]
  have heligible : d.eligibleFault? o = none :=
    List.findSome?_eq_none_iff.2 fun w _ => htileable w
  simp only [screen, heligible, preferenceFault?, askFault?_eq_none h, Option.or_none,
    Option.map_none]

/-! ## The pass -/

/-- The aspect of every registered output that has usable area is a number. -/
def HasAspects (d : Desktop) : Prop :=
  ∀ o ∈ d.outputs.values, (d.output o).isUsable = true →
    (roundedRatio (d.output o).usable.width (d.output o).usable.height).isSome

instance (d : Desktop) : Decidable d.HasAspects :=
  inferInstanceAs (Decidable (∀ o ∈ d.outputs.values, _ → _))

/-- **The faults of a pass** are those that its screens come with. -/
theorem exists_screen_of_fault_arrange (h : d.Sound) (hd : d.HasAspects) {decoration : Decoration}
    {gap : Int} {mode : TilingMode} {target : Option Target} {fault : Fault}
    (hf : (d.arrange decoration gap mode target).fault = some fault) :
    ∃ o ∈ d.outputs.values, (d.screen decoration o).fault = some fault := by
  rw [fault_arrange] at hf
  obtain ⟨target', hf⟩ := fault_layOutAll_of_fault_planPass hf
  have hproper : ∀ s ∈ d.screens decoration, s.fault = none → s.Proper := by
    intro s hs hnone
    obtain ⟨o, ho, hc, rfl⟩ := mem_screens.1 hs
    exact h.proper_of_aspect hc hnone (hd o ho hc.1)
  obtain ⟨s, hs, hfault⟩ := exists_screen_of_fault_layOutAll hproper hf
  obtain ⟨o, ho, -, rfl⟩ := mem_screens.1 hs
  exact ⟨o, ho, hfault⟩

/-- **A pass never fails on geometry.** The only fault it can stop at is a pattern that is no text,
and it runs through where the patterns of all rules are texts. All that it hands to windows is
carried out, and these are proper boxes inside the usable areas of the windows' outputs. -/
theorem arrange_fault_isPattern (h : d.Sound) (hd : d.HasAspects) (decoration : Decoration)
    (gap : Int) (mode : TilingMode) (target : Option Target) :
    let pass := d.arrange decoration gap mode target
    let handed := (planPass mode gap (d.screens decoration) target).placements
    (∀ fault, pass.fault = some fault → ∃ pattern, fault = .pattern pattern) ∧
      ((∀ r ∈ d.rules, r.IsTextual) → pass.fault = none) ∧
      (d.carryOutAll handed).fault = none ∧
      ∀ p ∈ handed, p.box.Nonneg ∧ ∃ o ∈ d.outputs.values,
        (d.window p.window).output = some o ∧ p.box.Within (d.output o).usable := by
  intro pass handed
  refine ⟨?_, ?_, carryOutAll_fault nonneg_of_mem_planPass, ?_⟩
  · intro fault hf
    obtain ⟨o, -, hfault⟩ := exists_screen_of_fault_arrange h hd hf
    simp only [screen, Option.map_eq_some_iff] at hfault
    obtain ⟨pattern, -, heq⟩ := hfault
    exact ⟨pattern, heq.symm⟩
  · intro hrules
    cases hf : pass.fault with
    | none => rfl
    | some fault =>
      obtain ⟨o, -, hfault⟩ := exists_screen_of_fault_arrange h hd hf
      rw [fault_screen_eq_none hrules] at hfault
      simp at hfault
  · intro p hp
    obtain ⟨o, ho, -, hmem, hnonneg, hwithin⟩ := mem_planPass hp
    exact ⟨hnonneg, o, ho, (mem_eligible_iff.1 hmem).2.1.1, hwithin⟩

/-- Windows with boxes turned inside out, on an output that is smaller than the gap, with a rule
that makes all of them ask for the vertical variant. -/
def invertedDesktop : Desktop :=
  { ofBoxes ⟨0, 0, 7, 3⟩ [⟨3, 1, 2, 2⟩, ⟨-40, 90, -3, 7⟩, ⟨500, -8, 9, -60⟩] with
    rules := [{ properties := [(.tileDirection, .yes)] }] }

/-- A resize far off the screen, with a size below zero, is tiled around as any other. -/
theorem arrange_fault_isPattern_inverted :
    let target : Option Target := some ⟨⟨0⟩, ⟨-9, 2, -4, 50⟩⟩
    let pass := invertedDesktop.arrange {} 10 .smart target
    pass.fault = none ∧
      ∀ p ∈ (planPass .smart 10 (invertedDesktop.screens {}) target).placements,
        p.box.Nonneg ∧ p.box.Within ⟨0, 0, 7, 3⟩ := by
  intro target pass
  obtain ⟨-, hfault, -, hboxes⟩ := arrange_fault_isPattern (d := invertedDesktop) (by decide)
    (by decide) {} 10 .smart target
  have hrules : ∀ r ∈ invertedDesktop.rules, r.IsTextual :=
    List.forall_mem_singleton.2 ⟨rfl, rfl⟩
  refine ⟨hfault hrules, ?_⟩
  intro p hp
  obtain ⟨hnonneg, o, ho, -, hwithin⟩ := hboxes p hp
  obtain rfl : o = ⟨0⟩ := List.mem_singleton.1 ho
  exact ⟨hnonneg, hwithin⟩

end Desktop

end WindowTiling
