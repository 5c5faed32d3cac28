import WindowTiling.Proofs.Bookkeeping

/-!
# A drag depends on the last position of the pointer

While a window is resized by the pointer, others may move it as well: passes, commands of clients,
whoever gives it a box. Each motion of the pointer is told as the way from where the drag started.

**Theorem (`box_follows_pointer`).** A motion gives the window the box that the offset makes of the
box at the start, whatever earlier motions and others have made of the window in the meantime. On a
dragged axis the edge opposite to the dragged one stays where it was at the start, and the size has
a lower bound; the other axis is as at the start. Cancelling gives the window the box that it had at
the start.

All of this rests on the drag that the service remembers. It is set when the resize starts, and
every other action but ending and cancelling keeps it, also one that fails (`drag_meanwhile`). What
else an action changes does not matter.
-/

namespace WindowTiling

/-! ## The box -/

/-- What the pointer makes of an extent by so much of an offset. The far edge is dragged if it is
named, and the near edge if only that one is. The size follows the pointer down to a lower bound. -/
structure Span.Dragged (start dragged : Span) (near far : Bool) (offset : Int) : Prop where
  far_dragged : far = true → dragged.start = start.start ∧
    dragged.length = max minimumSize (start.length + offset)
  near_dragged : near = true → far = false → dragged.stop = start.stop ∧
    dragged.length = max minimumSize (start.length - offset)
  undragged : near = false → far = false → dragged = start

section DragBox

variable {start : Box} {edges : Sides} {dx dy : Int}

theorem dragged_xs_dragBox (start : Box) (edges : Sides) (dx dy : Int) :
    start.xs.Dragged (dragBox start edges dx dy).xs edges.left edges.right dx where
  far_dragged hr := by simp [dragBox, Box.xs, hr]
  near_dragged hl hr := ⟨right_dragBox_left start dx dy hl hr, by simp [dragBox, Box.xs, hl, hr]⟩
  undragged hl hr := by simp [dragBox, Box.xs, hl, hr]

theorem dragged_ys_dragBox (start : Box) (edges : Sides) (dx dy : Int) :
    start.ys.Dragged (dragBox start edges dx dy).ys edges.top edges.bottom dy where
  far_dragged hb := by simp [dragBox, Box.ys, hb]
  near_dragged ht hb := ⟨bottom_dragBox_top start dx dy ht hb, by simp [dragBox, Box.ys, ht, hb]⟩
  undragged ht hb := by simp [dragBox, Box.ys, ht, hb]

/-- A dragged extent is at least as large as the bound. -/
theorem Span.Dragged.minimumSize_le {start dragged : Span} {near far : Bool} {offset : Int}
    (h : start.Dragged dragged near far offset) (hedge : near = true ∨ far = true) :
    minimumSize ≤ dragged.length := by
  cases far with
  | true => exact (h.far_dragged rfl).2 ▸ Int.le_max_left _ _
  | false =>
    have hnear : near = true := hedge.resolve_right Bool.false_ne_true
    exact (h.near_dragged hnear rfl).2 ▸ Int.le_max_left _ _

theorem Span.Dragged.length_nonneg {start dragged : Span} {near far : Bool} {offset : Int}
    (h : start.Dragged dragged near far offset) (hn : 0 ≤ start.length) : 0 ≤ dragged.length := by
  by_cases hedge : near = true ∨ far = true
  · exact Int.le_trans (by decide) (h.minimumSize_le hedge)
  · rw [not_or, Bool.not_eq_true, Bool.not_eq_true] at hedge
    exact h.undragged hedge.1 hedge.2 ▸ hn

theorem nonneg_dragBox (h : start.Nonneg) : (dragBox start edges dx dy).Nonneg :=
  ⟨(dragged_xs_dragBox start edges dx dy).length_nonneg h.1,
    (dragged_ys_dragBox start edges dx dy).length_nonneg h.2⟩

end DragBox

/-! ## Actions that keep the drag -/

namespace Action

theorem keepsDrag_noteEvent (e : Event) : (noteEvent e).Keeps Service.drag := fun _ => rfl

theorem keepsDrag_tellClients (e : Event) : (tellClients e).Keeps Service.drag :=
  keeps_tellClients (fun _ _ => rfl) e

theorem keepsDrag_announce (e : Event) : (announce e).Keeps Service.drag :=
  (keepsDrag_noteEvent e).bind fun _ => keepsDrag_tellClients e

theorem keepsDrag_recalculate : recalculate.Keeps Service.drag :=
  keeps_recalculate (fun _ _ _ => rfl) (fun _ _ => rfl) fun _ => keepsDrag_announce _

theorem keepsDrag_modeChanged : modeChanged.Keeps Service.drag :=
  keeps_get.bind fun _ => (keepsDrag_announce _).bind fun _ => keepsDrag_recalculate

theorem keepsDrag_execute (c : Command) : (execute c).Keeps Service.drag := by
  cases c with
  | status => exact keeps_pure ()
  | recalculate => exact keepsDrag_recalculate
  | tiling switch =>
    refine keeps_get.bind fun _ => keeps_get.bind fun _ => ?_
    split
    · exact Keeps.bind (keeps_modify fun _ => rfl) fun _ => keepsDrag_modeChanged
    · exact keeps_pure ()
  | gridMode switch =>
    refine keeps_get.bind fun _ => keeps_get.bind fun _ => ?_
    split
    · exact Keeps.bind (keeps_modify fun _ => rfl) fun _ => keepsDrag_modeChanged
    · exact keeps_pure ()

theorem keepsDrag_runCommand (text : Text) : (runCommand text).Keeps Service.drag := by
  rw [runCommand]
  split
  · exact keeps_throw _
  · exact (keepsDrag_execute _).bind fun _ => keeps_get.bind fun _ => keeps_pure _

theorem keepsDrag_aim (w : WindowRef) (geometry : Box) : (aim w geometry).Keeps Service.drag :=
  fun s => by rw [after, run_aim]; rfl

theorem keepsDrag_release (w : WindowRef) : (release w).Keeps Service.drag :=
  fun s => by rw [after, run_release]; rfl

theorem keepsDrag_react (e : Event) : (react e).Keeps Service.drag := by
  cases e with
  | modeChanged _ | layoutApplied _ => exact keeps_pure ()
  | windowClosed w => exact (keepsDrag_release w).bind fun _ => keepsDrag_recalculate
  | resizeStarted w geometry => exact keepsDrag_aim w geometry
  | resizeEnded w geometry => exact (keepsDrag_aim w geometry).bind fun _ => keepsDrag_recalculate
  | resizeCancelled w _ => exact keepsDrag_release w
  | tilingCommand text =>
    rw [react]
    split
    · exact keeps_pure ()
    · exact keepsDrag_execute _
  | _ => exact keepsDrag_recalculate

theorem keepsDrag_publish (e : Event) : (publish e).Keeps Service.drag :=
  (keepsDrag_noteEvent e).bind fun _ => (keepsDrag_react e).bind fun _ => keepsDrag_tellClients e

theorem keepsDrag_change (f : Desktop → Desktop) (e : Event) :
    (do changeDesktop f; publish e : Action Unit).Keeps Service.drag :=
  Keeps.bind (keeps_modify fun _ => rfl) fun _ => keepsDrag_publish e

theorem keepsDrag_moveResize (w : WindowRef) (box : Box) :
    (moveResize w box).Keeps Service.drag :=
  fun s => by rw [after, run_moveResize]; rfl

theorem keepsDrag_dragTo (dx dy : Int) : (dragTo dx dy).Keeps Service.drag := by
  refine keeps_get.bind fun s => ?_
  split
  · exact keeps_pure none
  · split
    · exact keeps_pure none
    · exact (keepsDrag_moveResize _ _).bind fun _ => keeps_pure _

theorem keepsDrag_change_if (c : Prop) [Decidable c] (f : Desktop → Desktop) (e : Event) :
    (if c then (do changeDesktop f; publish e) else pure () : Action Unit).Keeps Service.drag := by
  split
  · exact keepsDrag_change f e
  · exact keeps_pure ()

theorem keepsDrag_runCommands (text : Text) : (runCommands text).Keeps Service.drag := by
  refine Keeps.bind (keeps_mapM (fun command => ?_) _) fun results => ?_
  · exact (keepsDrag_runCommand command).bind fun _ => keeps_pure _
  · show (if results.isEmpty then pure _ else pure _ : Action Json).Keeps Service.drag
    split <;> exact keeps_pure _

theorem keepsDrag_subscribe (client : Option ConnectionRef) (payload : List UInt8) :
    (subscribe client payload).Keeps Service.drag := by
  rw [subscribe_eq]
  split
  · exact keeps_pure _
  · exact Keeps.bind (keeps_modify fun _ => rfl) fun _ => keeps_pure _

theorem keepsDrag_answer (client : Option ConnectionRef) (type : Int) (payload : List UInt8) :
    (answer client type payload).Keeps Service.drag := by
  rw [answer]
  split
  · exact keeps_pure _
  · split
    · exact keeps_pure _
    · exact (keepsDrag_runCommands _).bind fun _ => keeps_pure _
  · exact keepsDrag_subscribe client payload
  · exact keeps_get.bind fun _ => keeps_pure _
  · exact keeps_pure _
  · exact keeps_get.bind fun _ => keeps_pure _

theorem after_startResize_of_isSome {s : Service} (h : s.drag.isSome = true) (w : WindowRef)
    (edges : EdgeCode) : (startResize w edges).after s = s := by
  rw [startResize, after_bind (run_get s)]
  dsimp only
  rw [after_ite, if_pos h]
  rfl

end Action

/-! ## What ends a drag -/

/-- The step ends the drag that is under way. -/
def Step.endsDrag : Step → Bool
  | endResize | cancelResize => true
  | _ => false

namespace Service

variable {s : Service} {drag : Drag}

/-- A step that does not end the drag keeps it. There is only one drag at a time. -/
theorem drag_step (h : s.drag = some drag) {e : Step} (he : e.endsDrag = false) :
    (s.step e).drag = some drag := by
  rw [← h]
  cases e with
  | addWindow w output workspace => exact Action.keepsDrag_change _ _ s
  | addOutput o => exact Action.keepsDrag_change _ _ s
  | removeWindow _ | removeOutput _ | minimize _ | restore _ | switchWorkspace _ =>
    exact (Action.keeps_get.bind fun _ => Action.keepsDrag_change_if _ _ _) s
  | startResize w edges =>
    have hsame := Action.after_startResize_of_isSome (s := s) (by rw [h]; rfl) w edges
    rw [step, Step.action, Action.after_bind_of_forall fun _ _ => rfl, hsame]
  | dragTo dx dy => exact ((Action.keepsDrag_dragTo dx dy).bind fun _ => Action.keeps_pure ()) s
  | endResize | cancelResize => cases he
  | command text => exact ((Action.keepsDrag_runCommand text).bind fun _ => Action.keeps_pure ()) s
  | publishCommand _ | recalculate => exact Action.keepsDrag_publish _ s

theorem drag_reply (s : Service) (client : Option ConnectionRef) (type : Int)
    (payload : List UInt8) : (s.reply client type payload).2.drag = s.drag := by
  rw [← Action.keepsDrag_answer client type payload s, reply, Action.after]
  rcases (Action.answer client type payload).run s with ⟨_ | _ | _, s'⟩ <;> rfl

theorem drag_serve (s : Service) (c : ConnectionRef) : (s.serve c).drag = s.drag := by
  rw [serve]
  dsimp only
  split
  · rfl
  · split
    · rfl
    · rfl
    · exact drag_reply _ _ _ _

theorem drag_serves (s : Service) (cs : List ConnectionRef) :
    (cs.foldl serve s).drag = s.drag := by
  induction cs generalizing s with
  | nil => rfl
  | cons c cs ih => exact (ih (s.serve c)).trans (drag_serve s c)

theorem drag_poll (s : Service) : s.poll.drag = s.drag := by
  rw [poll]
  split
  · exact drag_serves _ _
  · rfl

end Service

/-! ## Between two motions -/

/-- What comes between two motions of the pointer, or is one. -/
inductive Interlude where
  /-- Something is done to the service or its server: steps and the passes after them, and requests
  of clients. -/
  | deed (deed : Deed)
  /-- Somebody else gives a window a box. -/
  | move (window : WindowRef) (box : Box)
  /-- Anything else happens to the desktop. -/
  | change (f : Desktop → Desktop)

/-- The drag that is under way is ended. -/
def Interlude.endsDrag : Interlude → Bool
  | deed (.happening (.step e)) => e.endsDrag
  | _ => false

namespace Service

/-- The state after an interlude. -/
def meanwhile (s : Service) : Interlude → Service
  | .deed x => s.perform x
  | .move w box => (Action.moveResize w box).after s
  | .change f => { s with desktop := f s.desktop }

variable {s : Service} {drag : Drag}

/-- **An interlude that does not end the drag keeps it**, whatever else it does. -/
theorem drag_meanwhile (h : s.drag = some drag) {i : Interlude} (hi : i.endsDrag = false) :
    (s.meanwhile i).drag = some drag := by
  cases i with
  | move w box => exact (Action.keepsDrag_moveResize w box s).trans h
  | change f => exact h
  | deed x =>
    cases x with
    | happening x =>
      cases x with
      | step e => exact drag_step h hi
      | connect =>
        rw [meanwhile, perform, happen]
        split <;> exact h
      | arrive v bytes cuts => exact h
      | hangUp v => exact h
      | poll => exact (drag_poll s).trans h
    | accept => exact h
    | serve v =>
      rw [meanwhile, perform]
      split
      · exact (drag_serve s v).trans h
      · exact h
    | limit v room => exact h
    | listen listener => exact h
    | stop => exact h

theorem drag_interludes {run : List Interlude} (hrun : ∀ i ∈ run, i.endsDrag = false)
    (h : s.drag = some drag) : (run.foldl meanwhile s).drag = some drag := by
  induction run generalizing s with
  | nil => exact h
  | cons i run ih =>
    obtain ⟨hi, hrun⟩ := List.forall_mem_cons.1 hrun
    exact ih hrun (drag_meanwhile h hi)

/-! ## Start, motion and end -/

theorem drag_startResize (h : s.drag = none) (w : WindowRef) (edges : EdgeCode) :
    (s.step (.startResize w edges)).drag = some ⟨w, (s.desktop.window w).box, edges⟩ := by
  rw [step, Step.action, Action.after_bind_of_forall fun _ _ => rfl, Action.startResize,
    Action.after_bind (Action.run_get s)]
  dsimp only
  rw [Action.after_ite, if_neg (by rw [h]; exact Bool.false_ne_true),
    Action.after_bind (Action.run_modify _ s), Action.after_bind_of_forall fun _ _ => rfl]
  exact Action.keepsDrag_publish _ _

theorem run_dragTo (h : s.drag = some drag) (hedges : ¬ drag.edges.IsEmpty)
    (hn : drag.start.Nonneg) (dx dy : Int) :
    let box := dragBox drag.start drag.edges.sides dx dy
    (Action.dragTo dx dy).run s = (.ok (some box), s.moved drag.window box) := by
  intro box
  rw [Action.dragTo, Action.run_bind, Action.run_get]
  dsimp only
  rw [h]
  dsimp only
  rw [if_neg hedges, Action.run_bind, Action.run_moveResize, if_pos (nonneg_dragBox hn)]
  rfl

theorem run_cancelResize (h : s.drag = some drag) (hn : drag.start.Nonneg) :
    Action.cancelResize.run s = (.ok (), Step.effect s .cancelResize) := by
  have hpublish : ∀ s : Service,
      (Action.publish (.resizeCancelled drag.window drag.start)).run s =
        (.ok (), (s.noted (.resizeCancelled drag.window drag.start)).released drag.window) := by
    intro s
    rw [Action.publish, Action.run_bind, Action.run_noteEvent]
    dsimp only
    rw [Action.react, Action.run_bind, Action.run_release]
    exact Action.run_tellClients_of_none rfl
  rw [Action.cancelResize, Action.run_bind, Action.run_get, Step.effect]
  dsimp only
  rw [h]
  dsimp only
  rw [if_pos hn, Action.run_bind, Action.run_modify]
  dsimp only
  rw [Action.run_bind, Action.run_moveResize, if_pos hn]
  exact hpublish _

/-- **A motion gives the window the box that the offset makes of the box at the start**, and
cancelling gives it the box at the start, whatever has come in between: earlier motions, passes, or
moves by somebody else. -/
theorem box_follows_pointer {w : WindowRef} {edges : EdgeCode} (hidle : s.drag = none)
    (hedges : ¬ edges.IsEmpty) (hn : (s.desktop.window w).box.Nonneg) {run : List Interlude}
    (hrun : ∀ i ∈ run, i.endsDrag = false) (dx dy : Int) :
    let start := (s.desktop.window w).box
    let before := run.foldl meanwhile (s.step (.startResize w edges))
    let box := dragBox start edges.sides dx dy
    let moved := before.step (.dragTo dx dy)
    let cancelled := before.step .cancelResize
    ((Action.dragTo dx dy).run before = (.ok (some box), moved) ∧
      (moved.desktop.window w).box = box) ∧
    (start.xs.Dragged box.xs edges.sides.left edges.sides.right dx ∧
      start.ys.Dragged box.ys edges.sides.top edges.sides.bottom dy) ∧
    Action.cancelResize.run before = (.ok (), cancelled) ∧
      (cancelled.desktop.window w).box = start := by
  intro start before box moved cancelled
  -- Whatever the interludes did to the box is lost in the motion, which starts from the box that
  -- the drag remembers.
  have hdrag : before.drag = some ⟨w, start, edges⟩ :=
    drag_interludes hrun (drag_startResize hidle w edges)
  have hmotion := run_dragTo hdrag hedges hn dx dy
  have hmoved : moved = before.moved w box := by
    rw [show moved = (Action.dragTo dx dy).after before from
      Action.after_bind_of_forall fun _ _ => rfl, Action.after, hmotion]
  have hcancel := run_cancelResize hdrag hn
  have hcancelled : cancelled = Step.effect before .cancelResize := congrArg Prod.snd hcancel
  refine ⟨⟨?_, ?_⟩, ⟨dragged_xs_dragBox .., dragged_ys_dragBox ..⟩, ?_, ?_⟩
  · rw [hmoved]
    exact hmotion
  · rw [hmoved]
    exact box_moved_self before w (nonneg_dragBox hn)
  · rw [hcancelled]
    exact hcancel
  · rw [hcancelled, (Step.effect_cancelResize hdrag).1]
    exact box_moved_self before w hn

/-- The upper left corner of a window is dragged, with a motion, a pass and another move before the
last motion. That one goes further to the right than the window is wide. -/
theorem box_follows_pointer_corner :
    let steps : List Step := [.addOutput ⟨0⟩, .addWindow ⟨0⟩ none none, .addWindow ⟨1⟩ none none]
    let s := steps.foldl step (unoccupied .smart 2)
    let run : List Interlude := [.deed (.happening (.step (.dragTo 255 0))),
      .deed (.happening (.step .recalculate)), .move ⟨0⟩ ⟨5, 5, 50, 50⟩]
    let before := run.foldl meanwhile (s.step (.startResize ⟨0⟩ ⟨5⟩))
    (s.drag = none ∧ ¬ (EdgeCode.mk 5).IsEmpty ∧ (s.desktop.window ⟨0⟩).box = ⟨10, 10, 945, 1060⟩ ∧
      ∀ i ∈ run, i.endsDrag = false) ∧
      ((before.step (.dragTo 2000 (-40))).desktop.window ⟨0⟩).box = ⟨855, -30, 100, 1100⟩ ∧
      ((before.step .cancelResize).desktop.window ⟨0⟩).box = ⟨10, 10, 945, 1060⟩ := by
  intro steps s run before
  have hstart : (s.desktop.window ⟨0⟩).box = ⟨10, 10, 945, 1060⟩ := by decide
  have hrun : ∀ i ∈ run, i.endsDrag = false := by simp [run, Interlude.endsDrag, Step.endsDrag]
  obtain ⟨⟨-, hmoved⟩, -, -, hcancelled⟩ := @box_follows_pointer s ⟨0⟩ ⟨5⟩ rfl (by decide)
    (by rw [hstart]; decide) run hrun 2000 (-40)
  refine ⟨⟨rfl, by decide, hstart, hrun⟩, ?_, hcancelled.trans hstart⟩
  rw [hmoved, hstart]
  decide

end Service

end WindowTiling
