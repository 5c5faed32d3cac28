import WindowTiling.Proofs.PassFrame
import WindowTiling.Proofs.ResizedBox
import WindowTiling.Proofs.SmartTarget

/-!
# Does a pass keep the size that is dragged to?

During a resize in smart mode the target is the window being resized, and its geometry is meant to
be the window's last known content box. Then a pass that comes in between, for whatever reason,
tiles around the box that the window has been dragged to. But moving the pointer moves the window
only. The geometry stays as it was at the start of the resize or after the last pass, and the next
pass gives the window that one.

**Theorem (`drag_kept_iff`).** Take any run, and the states of it in which an eligible window is the
target and under resize in smart mode. In all of these the target has the content box of the window,
and every pass that may follow and leaves the window eligible in smart mode is the pass with this
box as the geometry, just when the pointer never changes the box of such a window and when passes
that do not place it leave it at the geometry.

A pass does not place the window if it is stopped by a fault, or if the output of the window is not
registered or has no usable area. Every other pass hands on the box that it gives to the window
(`target_arrange_of_isTiled`), so it brings the two together again.

`dragged_size_is_lost` is a run in which a pass undoes a drag.
-/

namespace WindowTiling

theorem Roster.not_mem_keys_erase {κ α : Type} [DecidableEq κ] {r : Roster κ α}
    (hn : r.keys.Nodup) (key : κ) : key ∉ (r.erase key).keys := by
  induction r with
  | nil => exact List.not_mem_nil
  | cons e r ih =>
    obtain ⟨k, a⟩ := e
    obtain ⟨hk, hn⟩ := List.nodup_cons.1 hn
    simp only [erase]
    split
    · next heq => exact heq ▸ hk
    · next hne =>
      intro hmem
      rcases List.mem_cons.1 hmem with heq | hmem
      · exact hne heq.symm
      · exact ih hn hmem

namespace Desktop

variable {d d' : Desktop} {decoration : Decoration} {gap : Int} {w : WindowRef}

/-- The window is eligible on some output, which need not be registered nor have usable area. -/
def IsEligible (d : Desktop) (w : WindowRef) : Prop := ∃ o, w ∈ d.eligible o

theorem Rearranged.isEligible_iff (h : d.Rearranged d') : d'.IsEligible w ↔ d.IsEligible w := by
  simp only [IsEligible, h.eligible_eq]

/-- **The target follows its window**: after a pass that runs through, the target has the content
box of its window, if that one is tiled. -/
theorem target_arrange_of_isTiled (h : d.Sound) {t : Target} (ht : d.IsTiled t.window)
    (hf : (d.arrange decoration gap .smart (some t)).fault = none) :
    let pass := d.arrange decoration gap .smart (some t)
    pass.target = some ⟨t.window, (pass.desktop.window t.window).box⟩ := by
  intro pass
  obtain ⟨o, ho, hu, hmem⟩ := Desktop.isTiled_iff.1 ht
  have hp : d.Plannable decoration := (arrange_fault_eq_none_iff h).1 hf
  have hc : d.Concerns o := ⟨hu, .inl (List.ne_nil_of_mem hmem)⟩
  have hproper := h.proper_screen hp ho hc
  have hr : (d.screen decoration o).region.resized? (some t) =
      some (d.tile decoration t.window, t.geometry) := resized?_screen hmem
  have hbox : (pass.desktop.window t.window).box =
      boxAfter ((d.screen decoration o).placements gap (some t)) t.window
        (d.window t.window).box := box_arrange_target h hp ho hc hmem
  have htarget : ∀ {l : Layout}, (d.screen decoration o).layOut gap (some t) = .ok l →
      pass.target = l.target := fun hl => target_arrange h hp ho hc (by rw [hr]; simp) hl
  by_cases hothers : (d.screen decoration o).others (d.tile decoration t.window) = []
  · have hlayout := @Screen.layOut_alone _ gap _ _ _ hproper hr hothers
    rw [htarget hlayout, hbox, Screen.placements, hlayout]
    exact congrArg (fun b => some (Target.mk t.window b)) (if_pos rfl).symm
  · have hlayout := @Screen.layOut_around _ gap _ _ _ hproper hr hothers
    have hfinal := @Screen.boxAfter_resized _ gap _ _ _ hproper hr hothers
      (d.window t.window).box
    rw [htarget hlayout, hbox]
    exact congrArg (fun b => some (Target.mk t.window b)) hfinal.symm

theorem Sound.not_mem_unregisterWindow (h : d.Sound) (w : WindowRef) :
    w ∉ (d.unregisterWindow w).windows.values := by
  intro hw
  obtain ⟨e, he, rfl⟩ := List.mem_map.1 hw
  have hid : (d.window e.2).id = e.1 := h.window_id e ((Roster.erase_sublist _ _).subset he)
  have he : e ∈ d.windows.erase (d.window e.2).id := he
  rw [hid] at he
  exact Roster.not_mem_keys_erase h.nodup_windows e.1 (List.mem_map_of_mem he)

theorem box_detach (d : Desktop) (o : OutputRef) (w : WindowRef) :
    ((d.detach o).window w).box = (d.window w).box := by
  unfold detach
  generalize d.windows.values = ws
  induction ws generalizing d with
  | nil => rfl
  | cons v ws ih =>
    rw [List.foldl_cons, ih]
    exact field_updateWindow Window.box v w fun x => by split <;> rfl

end Desktop

namespace Step

variable {s : Service} {e : Step}

theorem box_effect_of_passes (h : e.passes s = true) (w : WindowRef) :
    ((e.effect s).desktop.window w).box = (s.desktop.window w).box := by
  cases e with
  | addWindow v output workspace =>
    exact Desktop.field_updateWindow Window.box v w (f := fun x => { x with
      output := s.desktop.placeFor v output
      workspace := workspace.or (x.workspace.or (some s.desktop.workspace)) }) fun _ => rfl
  | removeWindow v =>
    simp only [effect]
    split <;> rfl
  | minimize v =>
    simp only [effect]
    split
    · rfl
    · exact Desktop.field_updateWindow Window.box v w
        (f := fun x => { x with minimized := true }) fun _ => rfl
  | restore v =>
    simp only [effect]
    split
    · exact Desktop.field_updateWindow Window.box v w
        (f := fun x => { x with minimized := false }) fun _ => rfl
    · rfl
  | removeOutput o =>
    simp only [effect]
    split
    · exact s.desktop.box_detach o w
    · rfl
  | startResize v edges => exact absurd h Bool.false_ne_true
  | dragTo dx dy => exact absurd h Bool.false_ne_true
  | cancelResize => exact absurd h Bool.false_ne_true
  | command text => rw [effect, Service.desktop_commanded]
  | publishCommand text =>
    rw [effect, Service.desktop_commanded]
    rfl
  | _ =>
    simp only [effect]
    repeat' split
    all_goals rfl

end Step

namespace Service

variable {s : Service}

/-- The window of the target is eligible and under resize in smart mode. -/
structure Drags (s : Service) (t : Target) : Prop where
  smart : s.mode = .smart
  dragged : ∃ drag ∈ s.drag, drag.window = t.window
  target : t ∈ s.target
  eligible : s.desktop.IsEligible t.window

/-- A target whose window is under resize has the content box of the window. Every step that makes a
pass, and in which the window stays eligible in smart mode, ends as the pass with this box as the
geometry. -/
def KeepsDragged (s : Service) : Prop := ∀ t, s.Drags t →
  t.geometry = (s.desktop.window t.window).box ∧
    ∀ e : Step, e.passes s = true →
      let r := e.effect s
      let pass := r.desktop.arrange r.config.decoration r.gap .smart
        (some ⟨t.window, (r.desktop.window t.window).box⟩)
      r.mode = .smart → r.desktop.IsEligible t.window → (s.step e).desktop = pass.desktop ∧
        (pass.fault = none → (s.step e).target = pass.target)

/-- A move of the pointer does not change the box of a target under resize. -/
def DragsInPlace (s : Service) (e : Step) : Prop := ∀ dx dy, e = .dragTo dx dy →
  ∀ t, s.Drags t → ((s.step e).desktop.window t.window).box = (s.desktop.window t.window).box

/-- The pass that is made in a state runs through and places the window. -/
def Places (s : Service) (w : WindowRef) : Prop := s.pass.fault = none ∧ s.desktop.IsTiled w

/-- After a pass that does not place the window of a target under resize, the target has the content
box of the window. -/
def PassesInPlace (s : Service) (e : Step) : Prop := e.passes s = true → ∀ t, (s.step e).Drags t →
  ¬ (e.effect s).Places t.window → t.geometry = ((s.step e).desktop.window t.window).box

/-- A target whose window is under resize has the content box of the window. -/
def Tracks (s : Service) : Prop :=
  ∀ t, s.Drags t → t.geometry = (s.desktop.window t.window).box

/-- Where the target tracks its window, a step leaves it as the target of the pass, with the box
that it has then. -/
theorem target_effect_of_tracks (hs : s.Running) (h : s.Tracks) {t : Target} (ht : s.Drags t)
    {e : Step} (hp : e.passes s = true) (hsmart : (e.effect s).mode = .smart)
    (heligible : (e.effect s).desktop.IsEligible t.window) : (e.effect s).target =
      some ⟨t.window, ((e.effect s).desktop.window t.window).box⟩ := by
  have hgeometry := h t ht
  obtain ⟨-, ⟨drag, hdrag, hwindow⟩, htarget, -⟩ := ht
  rw [Step.box_effect_of_passes hp]
  rcases e.target_effect s with heq | ⟨-, hgrid⟩ | ⟨-, t', ht', hreleases⟩ | ⟨-, w, haims, heq⟩
  · rw [heq, ← hgeometry]
    exact htarget
  · rw [grid_eq_false_of_smart hsmart] at hgrid
    exact absurd hgrid Bool.false_ne_true
  · obtain rfl : t = t' := Option.some.inj (htarget.symm.trans ht')
    cases e with
    | removeWindow v =>
      -- A window that has been removed is not eligible.
      obtain rfl : v = t.window := hreleases
      have hhas : s.desktop.hasWindow t.window = true := hp
      rw [Step.effect, if_pos hhas] at heligible
      obtain ⟨o, ho⟩ := heligible
      exact absurd (Desktop.mem_eligible_iff.1 ho).1 (hs.sound.not_mem_unregisterWindow t.window)
    | cancelResize => exact absurd hp Bool.false_ne_true
    | _ => exact hreleases.elim
  · cases e with
    | startResize v edges => exact absurd hp Bool.false_ne_true
    | endResize =>
      obtain ⟨drag', hdrag', rfl⟩ := haims
      obtain rfl : drag = drag' := Option.some.inj (hdrag.symm.trans hdrag')
      rw [heq, hwindow]
    | _ => exact haims.elim

theorem keepsDragged_of_tracks (hs : s.Running) (h : s.Tracks) : s.KeepsDragged := by
  intro t ht
  refine ⟨h t ht, ?_⟩
  intro e hp r pass hsmart heligible
  have htarget : r.target = some ⟨t.window, (r.desktop.window t.window).box⟩ :=
    target_effect_of_tracks hs h ht hp hsmart heligible
  have hpass : r.pass = pass := by
    rw [Service.pass, hsmart, htarget]
  rw [step_of_passes hs.subscribers_eq hp]
  refine ⟨congrArg (fun p : Desktop.Pass => p.desktop) hpass, fun hf => ?_⟩
  show (if r.pass.fault.isSome then r.target else r.pass.target) = pass.target
  rw [hpass, hf]
  rfl

/-- **A pass that places the window of the target makes the target track it.** -/
theorem geometry_passed (h : s.desktop.Sound) (hsmart : s.mode = .smart) {t : Target}
    (ht : t ∈ s.passed.target) (hplaces : s.Places t.window) :
    t.geometry = (s.passed.desktop.window t.window).box := by
  obtain ⟨hf, htiled⟩ := hplaces
  have htarget : s.pass.target = some t := by
    have ht : (if s.pass.fault.isSome then s.target else s.pass.target) = some t := ht
    rw [hf] at ht
    exact ht
  -- The pass was handed a target of the same window.
  have hwindow := s.map_window_target_pass
  rw [htarget, hsmart, if_neg (by decide)] at hwindow
  obtain ⟨t', ht', hw⟩ := Option.map_eq_some_iff.1 hwindow.symm
  have hw : t'.window = t.window := hw
  rw [← hw] at htiled
  show t.geometry = (s.pass.desktop.window t.window).box
  rw [pass, hsmart, ht'] at hf htarget ⊢
  have hfollows := Desktop.target_arrange_of_isTiled h htiled hf
  obtain rfl := Option.some.inj (htarget.symm.trans hfollows)
  rfl

/-- A step without a pass keeps the target tracking its window, unless the pointer moves that
one. -/
theorem tracks_effect (h : s.Tracks) {e : Step} (hp : e.passes s = false)
    (hstep : s.step e = e.effect s) (hq : s.DragsInPlace e) : (e.effect s).Tracks := by
  rintro t ⟨hsmart, hdragged, ht, heligible⟩
  rw [Step.mode_effect hp] at hsmart
  rw [(Step.rearranged_effect hp).isEligible_iff] at heligible
  rcases Step.effect_cases hp with ⟨history, heq⟩ | ⟨w, edges, rfl, hnone⟩ |
    ⟨dx, dy, drag, rfl, hdrag, heq⟩ | ⟨drag, rfl, hdrag⟩
  · rw [heq] at hdragged ht ⊢
    exact h t ⟨hsmart, hdragged, ht, heligible⟩
  · -- The window at which a resize starts is aimed at with the box that it has.
    rw [Step.effect_startResize hnone] at ht ⊢
    have ht := (if_pos hsmart).symm.trans ht
    obtain rfl := Option.some.inj ht
    rfl
  · rw [heq] at hdragged ht
    have hdrags : s.Drags t := ⟨hsmart, hdragged, ht, heligible⟩
    rw [← hstep, hq dx dy rfl t hdrags]
    exact h t hdrags
  · -- After the resize has been cancelled there is none.
    obtain ⟨drag', hdrag', -⟩ := hdragged
    rw [(Step.effect_cancelResize hdrag).2.1] at hdrag'
    simp at hdrag'

theorem tracks_step (hs : s.Running) (h : s.Tracks) {e : Step} (hdrags : s.DragsInPlace e)
    (hpasses : s.PassesInPlace e) : (s.step e).Tracks := by
  cases hp : e.passes s with
  | true =>
    intro t ht
    by_cases hplaces : (e.effect s).Places t.window
    · rw [step_of_passes hs.subscribers_eq hp] at ht ⊢
      exact geometry_passed (hs.effect e).sound ht.smart ht.target hplaces
    · exact hpasses hp t ht hplaces
  | false =>
    have hstep := step_of_not_passes hs.subscribers_eq hp
    rw [hstep]
    exact tracks_effect h hp hstep hdrags

theorem dragsInPlace_of_keepsDragged (hs : s.Running) (h : s.Tracks) {e : Step}
    (hkeeps : (s.step e).KeepsDragged) : s.DragsInPlace e := by
  rintro dx dy rfl t hdrags
  obtain ⟨hsmart, ⟨drag, hdrag, hw⟩, htarget, heligible⟩ := hdrags
  have hp : Step.passes s (.dragTo dx dy) = false := rfl
  have hsame : (Step.effect s (.dragTo dx dy)).target = s.target := by
    simp only [Step.effect]
    repeat' split
    all_goals rfl
  rw [step_of_not_passes hs.subscribers_eq hp] at hkeeps ⊢
  have hdrags' : (Step.effect s (.dragTo dx dy)).Drags t := {
    smart := (Step.mode_effect hp).trans hsmart
    dragged := ⟨drag, Step.drag_effect hp (fun h => Step.noConfusion h) hdrag, hw⟩
    target := hsame ▸ htarget
    eligible := (Step.rearranged_effect hp).isEligible_iff.2 heligible }
  exact (hkeeps t hdrags').1.symm.trans (h t ⟨hsmart, ⟨drag, hdrag, hw⟩, htarget, heligible⟩)

/-- **When a drag is kept.** In every run passes keep the box that an eligible target is dragged to,
just when the pointer never changes this box and when passes that do not place the window leave it
at the geometry of the target. -/
theorem drag_kept_iff (config : Config) (windows : Roster WindowRef Window)
    (outputs : Roster OutputRef Output) (steps : List Step) :
    let s := launched config windows outputs
    s.Always KeepsDragged steps ↔
      s.Each (fun s e => s.DragsInPlace e ∧ s.PassesInPlace e) steps := by
  intro s
  have hnone : s.Tracks := by
    rintro t ⟨-, -, ht, -⟩
    simp [s, launched, ofConfig] at ht
  exact always_iff_each (fun s hs h => keepsDragged_of_tracks hs h)
    (fun s e hs h _ hq => tracks_step hs h hq.1 hq.2)
    (fun s e hs h _ hkeeps => ⟨dragsInPlace_of_keepsDragged hs h hkeeps,
      fun _ t ht _ => (hkeeps t ht).1⟩)
    (running_launched config windows outputs) hnone
    (each_of_forall (Q := fun _ _ => True) (fun _ _ => trivial) s steps)

/-- **A dragged size is lost.** The left one of two windows is dragged wider, and the next pass
takes it back to the width from the start, although a pass with its box as the geometry of the
target would keep it. -/
theorem dragged_size_is_lost :
    let s := unoccupied .smart 2
    let steps : List Step := [.addOutput ⟨0⟩, .addWindow ⟨0⟩ none none, .addWindow ⟨1⟩ none none,
      .startResize ⟨0⟩ ⟨8⟩, .dragTo 255 0]
    let last := steps.foldl step s
    let target : Target := ⟨⟨0⟩, (last.desktop.window ⟨0⟩).box⟩
    let pass := last.desktop.arrange last.config.decoration last.gap .smart (some target)
    ¬ s.Always KeepsDragged steps ∧
      target.geometry = ⟨10, 10, 1200, 1060⟩ ∧
      (pass.desktop.window ⟨0⟩).box = ⟨10, 10, 1200, 1060⟩ ∧
      ((last.step .recalculate).desktop.window ⟨0⟩).box = ⟨10, 10, 945, 1060⟩ := by
  intro s steps last target pass
  refine ⟨fun h => ?_, by decide, by decide, by decide⟩
  have hkeeps : last.KeepsDragged := h.2.2.2.2.2
  have hdrags : last.Drags ⟨⟨0⟩, ⟨10, 10, 945, 1060⟩⟩ := {
    smart := by decide
    dragged := ⟨⟨⟨0⟩, ⟨10, 10, 945, 1060⟩, ⟨8⟩⟩, by decide, rfl⟩
    target := by decide
    eligible := ⟨⟨0⟩, by decide⟩ }
  exact absurd (hkeeps _ hdrags).1 (by decide)

end Service

end WindowTiling
