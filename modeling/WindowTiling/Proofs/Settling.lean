import WindowTiling.Proofs.Confinement
import WindowTiling.Proofs.ResizedBox

/-!
# The resized window settles

Every pass gives the resized window a box that depends on the windows around it, and hands that box
to the next pass. So it could go on changing for as long as passes are made, all the more as the
other windows may come, go and move between passes.

**Theorem (`resize_settles`).** It does not, where the clamped box is never cut and is as large as
its decorations. Take any run of passes with the same usable area, gap and decorations. From the
first pass on the full box of the resized window only grows, and in all the run the target's
geometry changes at most five times.

What a pass makes of the geometry is a `ResizeStep`, whatever the other windows are: the window is
confined to the usable area, and one edge may be moved out to the gap. The first step brings the
window to rest, which is to say that confining it again does not change it. From then on a change
can only be that a side with more room than the gap becomes one with just the gap, and there are
four sides.
-/

namespace WindowTiling

/-! ## Roomy sides -/

section Growing

variable {gap : Int} {usable box : Box} {side : Side}

/-- How many sides of a box have more room than the gap. -/
def roomySides (gap : Int) (box usable : Box) : Nat :=
  growOrder.countP fun side => gap < freeSpace box usable side

theorem roomySides_le_four (gap : Int) (box usable : Box) : roomySides gap box usable ≤ 4 :=
  List.countP_le_length

theorem roomySides_growTo (h : gap < freeSpace box usable side) :
    roomySides gap (growTo box usable gap side) usable + 1 = roomySides gap box usable := by
  simp only [roomySides, growOrder, List.countP_cons, List.countP_nil, freeSpace_growTo]
  cases side <;> simp [h] <;> omega

end Growing

/-! ## What a pass makes of the geometry -/

/-- What a pass makes of the content box of a resized window with decorations `m`. The window is
confined to the usable area, or, where it is as large as its decorations there, one edge of it is
moved out to the gap. -/
inductive ResizeStep (m : Border) (usable : Box) (gap : Int) (content : Box) : Box → Prop
  | confined : ResizeStep m usable gap content (content.confined m usable)
  | grown {side : Side} (free : gap < freeSpace ((content.expand m).clamp usable) usable side)
      (width : m.horizontal ≤ ((content.expand m).clamp usable).width)
      (height : m.vertical ≤ ((content.expand m).clamp usable).height) :
      ResizeStep m usable gap content
        ((growTo ((content.expand m).clamp usable) usable gap side).inset m)

section Steps

variable {m : Border} {usable : Box} {gap : Int} {content content' : Box}

theorem grown_spec (hu : usable.Nonneg) (hg : 0 ≤ gap) {full : Box} {side : Side}
    (free : gap < freeSpace (full.clamp usable) usable side)
    (width : m.horizontal ≤ (full.clamp usable).width)
    (height : m.vertical ≤ (full.clamp usable).height) :
    let grown := growTo (full.clamp usable) usable gap side
    (grown.Within usable ∧ grown.Nonneg) ∧ m.horizontal ≤ grown.width ∧
      m.vertical ≤ grown.height := by
  intro grown
  have hout : (full.clamp usable).Within grown := within_growTo free
  rw [Box.within_iff] at hout
  simp only [Box.right, Box.bottom] at hout
  exact ⟨growTo_within hg (Box.clamp_within _ hu) (Box.nonneg_clamp _ _) free, by omega, by omega⟩

theorem ResizeStep.nonneg (h : ResizeStep m usable gap content content') : content'.Nonneg := by
  cases h with
  | confined => exact Box.nonneg_clamp _ _
  | grown => exact Box.nonneg_inset _ _

theorem ResizeStep.at_rest (hm : m.Nonneg) (hu : usable.Nonneg) (hg : 0 ≤ gap)
    (h : ResizeStep m usable gap content content') : content'.confined m usable = content' := by
  cases h with
  | confined => exact Box.confined_confined hm hu content
  | grown free width height =>
    obtain ⟨⟨hw, hn⟩, hwidth, hheight⟩ := grown_spec hu hg free width height
    exact Box.confined_inset hm hw hwidth hheight hn

theorem ResizeStep.clamp_within (hm : m.Nonneg) (hu : usable.Nonneg) (hg : 0 ≤ gap)
    (h : ResizeStep m usable gap content content') :
    ((content.expand m).clamp usable).Within (content'.expand m) := by
  cases h with
  | confined => exact Box.within_expand_confined hm hu content
  | grown free width height =>
    obtain ⟨-, hwidth, hheight⟩ := grown_spec hu hg free width height
    rw [Box.expand_inset hwidth hheight]
    exact within_growTo free

/-- **A window at rest** is left alone, or its full box grows on one roomy side. -/
theorem ResizeStep.of_at_rest (hm : m.Nonneg) (hu : usable.Nonneg) (hg : 0 ≤ gap)
    (hrest : content.confined m usable = content)
    (h : ResizeStep m usable gap content content') : content' = content ∨
      ∃ side, gap < freeSpace (content.expand m) usable side ∧
        content'.expand m = growTo (content.expand m) usable gap side := by
  cases h with
  | confined => exact .inl hrest
  | @grown side free width height =>
    have hclamped : (content.expand m).clamp usable = content.expand m := by
      -- The clamped full box has room for the decorations, so at rest its content is the window's.
      have hinside := (Box.inset_within hm width height).trans (Box.clamp_within _ hu)
      have hcontent : content = ((content.expand m).clamp usable).inset m :=
        hrest.symm.trans (Box.clamp_of_within hinside (Box.nonneg_inset _ _))
      calc (content.expand m).clamp usable
          = (((content.expand m).clamp usable).inset m).expand m :=
            (Box.expand_inset width height).symm
        _ = content.expand m := by rw [← hcontent]
    obtain ⟨-, hwidth, hheight⟩ := grown_spec hu hg free width height
    rw [hclamped] at free hwidth hheight ⊢
    exact .inr ⟨side, free, Box.expand_inset hwidth hheight⟩

theorem ResizeStep.within_of_at_rest (hm : m.Nonneg) (hu : usable.Nonneg) (hg : 0 ≤ gap)
    (hrest : content.confined m usable = content)
    (h : ResizeStep m usable gap content content') :
    (content.expand m).Within (content'.expand m) := by
  rcases h.of_at_rest hm hu hg hrest with rfl | ⟨side, free, hgrown⟩
  · exact Box.Within.refl _
  · rw [hgrown]
    exact within_growTo free

/-- Every change of a window at rest uses up a roomy side. -/
theorem ResizeStep.roomySides_le (hm : m.Nonneg) (hu : usable.Nonneg) (hg : 0 ≤ gap)
    (hrest : content.confined m usable = content)
    (h : ResizeStep m usable gap content content') :
    (if content' ≠ content then 1 else 0) + roomySides gap (content'.expand m) usable ≤
      roomySides gap (content.expand m) usable := by
  rcases h.of_at_rest hm hu hg hrest with rfl | ⟨side, free, hgrown⟩
  · simp
  · have hless := roomySides_growTo free
    rw [hgrown]
    split <;> omega

/-! ## Runs -/

/-- How many of the first steps of a run change the box. -/
def changes (content : Nat → Box) (n : Nat) : Nat :=
  (List.range n).countP fun i => content (i + 1) ≠ content i

theorem changes_succ (content : Nat → Box) (n : Nat) : changes content (n + 1) =
    changes content n + if content (n + 1) ≠ content n then 1 else 0 := by
  simp only [changes, List.range_succ, List.countP_append, List.countP_singleton,
    decide_eq_true_eq]

variable {run : Nat → Box} {n : Nat}

/-- From the first step on, the changes so far and the sides that are still roomy are five at
most. -/
theorem changes_add_roomySides_le (hm : m.Nonneg) (hu : usable.Nonneg) (hg : 0 ≤ gap)
    (hrun : ∀ i < n + 1, ResizeStep m usable gap (run i) (run (i + 1))) :
    changes run (n + 1) + roomySides gap ((run (n + 1)).expand m) usable ≤ 5 := by
  induction n with
  | zero =>
    have hone : changes run (0 + 1) ≤ 1 := List.countP_le_length
    have hfour := roomySides_le_four gap ((run (0 + 1)).expand m) usable
    omega
  | succ n ih =>
    have hsteps := ih fun i hi => hrun i (Nat.lt_succ_of_lt hi)
    have hrest : (run (n + 1)).confined m usable = run (n + 1) :=
      (hrun n (by omega)).at_rest hm hu hg
    -- From the second step on every change is paid for by a roomy side.
    have hlast := (hrun (n + 1) (by omega)).roomySides_le hm hu hg hrest
    rw [changes_succ]
    omega

/-- **A run changes the box at most five times.** -/
theorem changes_le_five (hm : m.Nonneg) (hu : usable.Nonneg) (hg : 0 ≤ gap)
    (hrun : ∀ i < n, ResizeStep m usable gap (run i) (run (i + 1))) : changes run n ≤ 5 := by
  cases n with
  | zero => exact Nat.zero_le 5
  | succ n =>
    have h := changes_add_roomySides_le hm hu hg hrun
    omega

end Steps

/-! ## Passes -/

theorem Screen.resizeStep_settledContent {s : Screen} {gap : Int} {resized : Tile} {geometry : Box}
    (h : s.Proper) (hm : resized.margins.Nonneg) (hg : 0 ≤ gap)
    (free : ∃ side, gap < freeSpace ((geometry.expand resized.margins).clamp s.region.usable)
      s.region.usable side)
    (width : resized.margins.horizontal ≤
      ((geometry.expand resized.margins).clamp s.region.usable).width)
    (height : resized.margins.vertical ≤
      ((geometry.expand resized.margins).clamp s.region.usable).height) :
    ResizeStep resized.margins s.region.usable gap geometry
      (s.settledContent gap resized geometry) := by
  obtain ⟨stripSide, parts⟩ := parts_fitted h hg resized geometry
  have hkept := (parts.kept free).1
  rcases @settled_cases s gap resized geometry h hg with heq | ⟨side, hfree, heq, -⟩
  · have hconfined : s.settledContent gap resized geometry =
        geometry.confined resized.margins s.region.usable := by
      rw [settledContent, heq, hkept]
      rfl
    rw [hconfined]
    exact .confined
  · rw [hkept] at hfree heq
    obtain ⟨⟨hw, -⟩, hwidth, hheight⟩ := grown_spec h.nonneg hg hfree width height
    rw [settledContent, heq, Tile.contentOf_of_within hm hw hwidth hheight]
    exact .grown hfree width height

namespace Desktop

variable {d : Desktop} {decoration : Decoration} {gap : Int} {o : OutputRef} {usable : Box}
  {margins : Border} {t t' : Target}

/-- A pass that runs through while the window is under resize on an output, with the target before
and after. Where other windows are tiled there, the clamped box leaves a side with more room than
the gap, so that it is not cut, and it is as large as its decorations. -/
structure Resizes (d : Desktop) (decoration : Decoration) (gap : Int) (o : OutputRef) (usable : Box)
    (margins : Border) (t t' : Target) : Prop where
  sound : d.Sound
  registered : o ∈ d.outputs.values
  usable_eq : (d.output o).usable = usable
  tiled : t.window ∈ d.eligible o
  margins_eq : decoration.margins (d.window t.window) = margins
  fault_eq : (d.arrange decoration gap .smart (some t)).fault = none
  target_eq : (d.arrange decoration gap .smart (some t)).target = some t'
  room : (∃ w ∈ d.eligible o, w ≠ t.window) →
    let clamped := (t.geometry.expand margins).clamp usable
    (∃ side, gap < freeSpace clamped usable side) ∧ margins.horizontal ≤ clamped.width ∧
      margins.vertical ≤ clamped.height

/-- **What a pass makes of the target**, whatever the other windows are. -/
theorem Resizes.step (h : d.Resizes decoration gap o usable margins t t') (hw : 0 < usable.width)
    (hh : 0 < usable.height) (hm : margins.Nonneg) (hg : 0 ≤ gap) :
    t'.window = t.window ∧
      ((d.arrange decoration gap .smart (some t)).desktop.window t.window).box = t'.geometry ∧
      ResizeStep margins usable gap t.geometry t'.geometry := by
  obtain ⟨hsound, ho, rfl, ht, rfl, hfault, htarget, hroom⟩ := h
  have hp : d.Plannable decoration := (arrange_fault_eq_none_iff hsound).1 hfault
  have hc : d.Concerns o :=
    ⟨Output.isUsable_iff.2 ⟨hw, hh⟩, .inl (List.ne_nil_of_mem ht)⟩
  have hproper := hsound.proper_screen hp ho hc
  have hr : (d.screen decoration o).region.resized? (some t) =
      some (d.tile decoration t.window, t.geometry) := resized?_screen ht
  have hbox := @box_arrange_target d decoration gap hsound hp o ho hc t ht
  have hlaid : ∀ {l : Layout}, (d.screen decoration o).layOut gap (some t) = .ok l →
      l.target = some t' := by
    intro l hl
    rw [← target_arrange hsound hp ho hc (by rw [hr]; simp) hl]
    exact htarget
  -- Alone the window is only confined to the usable area; beside others it is also settled.
  by_cases hall : ∀ w ∈ d.eligible o, w = t.window
  · have hlayout := @Screen.layOut_alone _ gap _ _ _ hproper hr (others_screen_eq_nil_iff.2 hall)
    obtain rfl := Option.some.inj (hlaid hlayout)
    refine ⟨rfl, ?_, .confined⟩
    rw [hbox, Screen.placements, hlayout]
    exact if_pos rfl
  · have hother : (d.screen decoration o).others (d.tile decoration t.window) ≠ [] := by
      intro hnil
      exact hall (others_screen_eq_nil_iff.1 hnil)
    have hsome : ∃ w ∈ d.eligible o, w ≠ t.window := by
      simpa only [Classical.not_forall, exists_prop] using hall
    have hlayout := @Screen.layOut_around _ gap _ _ _ hproper hr hother
    obtain rfl := Option.some.inj (hlaid hlayout)
    refine ⟨rfl, hbox.trans (Screen.boxAfter_resized hproper hr hother _), ?_⟩
    obtain ⟨hfree, hwidth, hheight⟩ := hroom hsome
    exact @Screen.resizeStep_settledContent _ gap (d.tile decoration t.window) t.geometry hproper hm
      hg hfree hwidth hheight

/-- **The resized window settles.** In a run of passes each of which is handed the target that the
one before returned, while the other windows change in any way between passes, the window's box is
the target's geometry. Nothing of its full box is lost but what the first pass cuts off at the
usable area, and the geometry changes in five passes at most. -/
theorem resize_settles {d : Nat → Desktop} {t : Nat → Target} {n : Nat} (hg : 0 ≤ gap)
    (hw : 0 < usable.width) (hh : 0 < usable.height) (hm : margins.Nonneg)
    (hrun : ∀ i < n, (d i).Resizes decoration gap o usable margins (t i) (t (i + 1))) :
    let pass i := (d i).arrange decoration gap .smart (some (t i))
    let full i := (t i).geometry.expand margins
    (∀ i < n, (t (i + 1)).window = (t 0).window ∧
      ((pass i).desktop.window (t 0).window).box = (t (i + 1)).geometry) ∧
    (∀ i < n, ((full i).clamp usable).Within (full (i + 1))) ∧
    (∀ i < n, 0 < i → (full i).Within (full (i + 1)) ∧ (full i).area ≤ (full (i + 1)).area) ∧
    (List.range n).countP (fun i => (t (i + 1)).geometry ≠ (t i).geometry) ≤ 5 := by
  intro pass full
  have hu : usable.Nonneg := ⟨Int.le_of_lt hw, Int.le_of_lt hh⟩
  have hstep := fun i (hi : i < n) => (hrun i hi).step hw hh hm hg
  -- All that matters of a pass is the step that it makes from one geometry to the next.
  have hsteps : ∀ i < n, ResizeStep margins usable gap (t i).geometry (t (i + 1)).geometry := by
    intro i hi
    exact (hstep i hi).2.2
  have hwindow : ∀ i ≤ n, (t i).window = (t 0).window := by
    intro i
    induction i with
    | zero =>
      intro _
      rfl
    | succ i ih =>
      intro hi
      exact (hstep i hi).1.trans (ih (Nat.le_of_lt hi))
  refine ⟨?_, ?_, ?_, changes_le_five hm hu hg hsteps⟩
  · intro i hi
    have hbox := (hstep i hi).2.1
    rw [hwindow i (Nat.le_of_lt hi)] at hbox
    exact ⟨hwindow (i + 1) hi, hbox⟩
  · intro i hi
    exact (hsteps i hi).clamp_within hm hu hg
  · intro i hi hpos
    cases i with
    | zero => exact absurd hpos (Nat.lt_irrefl 0)
    | succ j =>
      -- The pass before has brought the window to rest.
      have hbefore := hsteps j (Nat.lt_of_succ_lt hi)
      have hwithin := (hsteps (j + 1) hi).within_of_at_rest hm hu hg (hbefore.at_rest hm hu hg)
      exact ⟨hwithin, Box.area_le_of_within hwithin (Box.nonneg_expand hbefore.nonneg hm)⟩

/-- A desktop on which windows come and go beside the first one. -/
def restless : Nat → Desktop
  | 0 => (ofBoxes ⟨0, 0, 1000, 800⟩ [⟨0, 0, 5, 5⟩]).framed
  | 1 => (ofBoxes ⟨0, 0, 1000, 800⟩ [⟨0, 0, 5, 5⟩, ⟨5000, 5000, 10, 10⟩]).framed
  | 2 => (ofBoxes ⟨0, 0, 1000, 800⟩ [⟨0, 0, 5, 5⟩, ⟨700, 20, 60, 60⟩, ⟨3, 3, 3, 3⟩]).framed
  | _ => (ofBoxes ⟨0, 0, 1000, 800⟩ [⟨0, 0, 5, 5⟩, ⟨900, 5, 10, 10⟩]).framed

/-- The targets of passes over it, the first one reaching beyond the left edge. -/
def restlessTarget : Nat → Target
  | 0 => ⟨⟨0⟩, ⟨-40, 300, 500, 200⟩⟩
  | 1 => ⟨⟨0⟩, ⟨2, 300, 458, 200⟩⟩
  | 2 => ⟨⟨0⟩, ⟨2, 300, 458, 488⟩⟩
  | _ => ⟨⟨0⟩, ⟨2, 36, 458, 752⟩⟩

set_option maxRecDepth 4000 in
/-- The window is cut at the left edge, grows downward, grows upward and has then settled. -/
theorem resize_settles_restless :
    (∀ i < 4, (restless i).Resizes {} 10 ⟨0⟩ ⟨0, 0, 1000, 800⟩ ⟨2, 26, 2, 2⟩ (restlessTarget i)
      (restlessTarget (i + 1))) ∧
    (∀ i < 4, (((restless i).arrange {} 10 .smart (some (restlessTarget i))).desktop.window
      ⟨0⟩).box = (restlessTarget (i + 1)).geometry) ∧
    (List.range 4).countP
      (fun i => (restlessTarget (i + 1)).geometry ≠ (restlessTarget i).geometry) ≤ 5 := by
  have hrun : ∀ i < 4, (restless i).Resizes {} 10 ⟨0⟩ ⟨0, 0, 1000, 800⟩ ⟨2, 26, 2, 2⟩
      (restlessTarget i) (restlessTarget (i + 1)) := by
    -- In every pass there is room on the right.
    have hroom : ∀ i < 4,
        let clamped := ((restlessTarget i).geometry.expand ⟨2, 26, 2, 2⟩).clamp ⟨0, 0, 1000, 800⟩
        10 < freeSpace clamped ⟨0, 0, 1000, 800⟩ .right ∧ 4 ≤ clamped.width ∧
          28 ≤ clamped.height := by decide
    intro i hi
    exact {
      sound := (by decide : ∀ i < 4, (restless i).Sound) i hi
      registered := (by decide : ∀ i < 4, ⟨0⟩ ∈ (restless i).outputs.values) i hi
      usable_eq := (by decide : ∀ i < 4, ((restless i).output ⟨0⟩).usable = _) i hi
      tiled := (by decide : ∀ i < 4, (restlessTarget i).window ∈ (restless i).eligible ⟨0⟩) i hi
      margins_eq := (by decide : ∀ i < 4, Decoration.margins {}
        ((restless i).window (restlessTarget i).window) = _) i hi
      fault_eq := (by decide : ∀ i < 4, ((restless i).arrange {} 10 .smart
        (some (restlessTarget i))).fault = none) i hi
      target_eq := (by decide : ∀ i < 4, ((restless i).arrange {} 10 .smart
        (some (restlessTarget i))).target = some (restlessTarget (i + 1))) i hi
      room := fun _ => ⟨⟨.right, (hroom i hi).1⟩, (hroom i hi).2⟩ }
  obtain ⟨hboxes, -, -, hchanges⟩ := resize_settles (by decide) (by decide) (by decide)
    ⟨by decide, by decide, by decide, by decide⟩ hrun
  exact ⟨hrun, fun i hi => (hboxes i hi).2, hchanges⟩

end Desktop

end WindowTiling
