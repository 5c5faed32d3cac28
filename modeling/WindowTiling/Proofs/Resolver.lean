import Mathlib.Data.List.Induction
import WindowTiling.Proofs.Boxes
import WindowTiling.Resize.Resolve

/-!
# The resolver

After the other windows have been placed, the box of the resized window is resolved against them:
it is shrunk off the windows left in place that it overlaps, or grown by one edge if it overlaps
none of them.

**Theorem (`resolveResized_clears`).** Whatever the other boxes are, the result lies in the usable
area and has no cell in common with a window left in place. A box that overlaps some of them ends
inside itself. A box that overlaps none keeps its edges but for one at most, and that one has moved
out on the roomiest open side, the first one of those that are equally roomy; it does move there if
the grown box overlaps nobody.

The scan goes over the windows left in place once and changes the box on the way. Clearing one of
them cannot undo the clearing of another one, since the box only ever loses cells: this is the
induction in `shrinkOffAll_clears`, from the last window backwards. A box may be shrunk until it is
empty, which leaves it without cells but perhaps still overlapping.
-/

namespace WindowTiling

/-! ## Shrinking -/

section Shrink

variable {gap : Int} {box other : Box}

/-- A box that is shrunk off another one stays inside itself and is not turned inside out. -/
theorem shrinkOff_within (hg : 0 ≤ gap) (hn : box.Nonneg) (h : box.Overlaps other) :
    (shrinkOff box other gap).Within box ∧ (shrinkOff box other gap).Nonneg := by
  rw [Box.nonneg_iff] at hn
  rw [Box.overlaps_iff] at h
  simp only [shrinkOff]
  repeat' split
  all_goals
    simp only [Box.within_iff, Box.nonneg_iff, Box.x_ofEdges, Box.y_ofEdges, Box.right_ofEdges,
      Box.bottom_ofEdges]
    omega

theorem disjoint_shrinkOff (hg : 0 ≤ gap) : (shrinkOff box other gap).Disjoint other := by
  rintro p ⟨hbox, hother⟩
  rw [Box.mem_iff] at hother
  simp only [shrinkOff] at hbox
  repeat' split at hbox
  all_goals
    simp only [Box.mem_iff, Box.x_ofEdges, Box.y_ofEdges, Box.right_ofEdges,
      Box.bottom_ofEdges] at hbox
    omega

theorem shrinkOffAll_concat (box : Box) (others : List Box) (other : Box) (gap : Int) :
    shrinkOffAll box (others ++ [other]) gap =
      if (shrinkOffAll box others gap).1.Overlaps other then
        (shrinkOff (shrinkOffAll box others gap).1 other gap, true)
      else shrinkOffAll box others gap := by
  simp only [shrinkOffAll, List.foldl_append, List.foldl_cons, List.foldl_nil]
  rfl

theorem shrinkOffAll_of_clear {others : List Box} (h : ∀ other ∈ others, ¬ box.Overlaps other)
    (gap : Int) : shrinkOffAll box others gap = (box, false) := by
  induction others using List.reverseRecOn with
  | nil => rfl
  | append_singleton others other ih =>
    obtain ⟨h, ho⟩ := List.forall_mem_append.1 h
    rw [shrinkOffAll_concat, ih h, if_neg (ho other (List.mem_singleton.2 rfl))]

/-- **The scan clears the box of all windows**, and never lets it gain a cell. -/
theorem shrinkOffAll_clears (hg : 0 ≤ gap) (hn : box.Nonneg) (others : List Box) :
    let shrunk := (shrinkOffAll box others gap).1
    shrunk.Within box ∧ shrunk.Nonneg ∧ ∀ other ∈ others, shrunk.Disjoint other := by
  -- The scan goes on with what it has shrunk the box to, so the last window is split off: the box
  -- before it is clear of the earlier ones, and shrinking leaves it so.
  induction others using List.reverseRecOn with
  | nil => exact ⟨Box.Within.refl box, hn, fun _ h => absurd h List.not_mem_nil⟩
  | append_singleton others other ih =>
    obtain ⟨hwithin, hnonneg, hclear⟩ := ih
    rw [shrinkOffAll_concat]
    split
    · next hoverlaps =>
      obtain ⟨hshrunk, hnonneg'⟩ := shrinkOff_within hg hnonneg hoverlaps
      refine ⟨hshrunk.trans hwithin, hnonneg', List.forall_mem_append.2 ⟨fun o ho => ?_, ?_⟩⟩
      · exact (hclear o ho).of_within hshrunk
      · exact List.forall_mem_singleton.2 (disjoint_shrinkOff hg)
    · next hoverlaps =>
      refine ⟨hwithin, hnonneg, List.forall_mem_append.2 ⟨hclear, ?_⟩⟩
      exact List.forall_mem_singleton.2 (Box.disjoint_of_not_overlaps hoverlaps)

/-- The scan tells that it has met a window which the box overlaps. -/
theorem shrinkOffAll_overlapped {others : List Box} (h : ∃ other ∈ others, box.Overlaps other) :
    (shrinkOffAll box others gap).2 = true := by
  induction others using List.reverseRecOn with
  | nil => obtain ⟨_, h, -⟩ := h; exact absurd h List.not_mem_nil
  | append_singleton others other ih =>
    rw [shrinkOffAll_concat]
    split
    · rfl
    · next hnot =>
      by_cases hrest : ∃ o ∈ others, box.Overlaps o
      · exact ih hrest
      · -- Up to the last window the box was not touched, so it is the last one that it overlaps.
        rw [shrinkOffAll_of_clear fun o ho hov => hrest ⟨o, ho, hov⟩] at hnot
        obtain ⟨o, ho, hov⟩ := h
        rcases List.mem_append.1 ho with ho | ho
        · exact absurd ⟨o, ho, hov⟩ hrest
        · exact absurd (List.mem_singleton.1 ho ▸ hov) hnot

end Shrink

/-! ## The side to grow to -/

section Roomiest

variable {box usable : Box} {blocked : Sides} {gap : Int} {side : Side}

/-- Nobody stands in the way on the side, and it has more room than the gap. -/
def OpenSide (box usable : Box) (blocked : Sides) (gap : Int) (side : Side) : Prop :=
  blocked.has side = false ∧ gap < freeSpace box usable side

/-- Of the sides in a list that are open, this is the first one of those with the most room. -/
structure FirstRoomiest (box usable : Box) (blocked : Sides) (gap : Int) (sides : List Side)
    (side : Side) : Prop where
  isOpen : OpenSide box usable blocked gap side
  first : ∃ before after, sides = before ++ side :: after ∧
    (∀ s ∈ before, OpenSide box usable blocked gap s →
      freeSpace box usable s < freeSpace box usable side) ∧
    ∀ s ∈ after, OpenSide box usable blocked gap s →
      freeSpace box usable s ≤ freeSpace box usable side

theorem FirstRoomiest.freeSpace_le {sides : List Side}
    (h : FirstRoomiest box usable blocked gap sides side) :
    ∀ s ∈ sides, OpenSide box usable blocked gap s →
      freeSpace box usable s ≤ freeSpace box usable side := by
  obtain ⟨before, after, rfl, hbefore, hafter⟩ := h.first
  refine List.forall_mem_append.2 ⟨fun s hs hopen => Int.le_of_lt (hbefore s hs hopen), ?_⟩
  exact List.forall_mem_cons.2 ⟨fun _ => Int.le_refl _, hafter⟩

theorem FirstRoomiest.of_lt {sides : List Side} (hopen : OpenSide box usable blocked gap side)
    (h : ∀ s ∈ sides, OpenSide box usable blocked gap s →
      freeSpace box usable s < freeSpace box usable side) :
    FirstRoomiest box usable blocked gap (sides ++ [side]) side :=
  ⟨hopen, sides, [], rfl, h, fun _ hs => absurd hs List.not_mem_nil⟩

theorem FirstRoomiest.concat {sides : List Side} {s : Side}
    (h : FirstRoomiest box usable blocked gap sides side)
    (hs : OpenSide box usable blocked gap s →
      freeSpace box usable s ≤ freeSpace box usable side) :
    FirstRoomiest box usable blocked gap (sides ++ [s]) side := by
  obtain ⟨before, after, rfl, hbefore, hafter⟩ := h.first
  refine ⟨h.isOpen, before, after ++ [s], by simp, hbefore, ?_⟩
  exact List.forall_mem_append.2 ⟨hafter, List.forall_mem_singleton.2 hs⟩

/-- **The side that is grown to** is the first open one of those with the most room; there is none
only if no side is open. -/
theorem roomiestSide_spec (box usable : Box) (blocked : Sides) (gap : Int) :
    match roomiestSide box usable blocked gap with
    | some side => FirstRoomiest box usable blocked gap growOrder side
    | none => ∀ side ∈ growOrder, ¬ OpenSide box usable blocked gap side := by
  unfold roomiestSide
  generalize growOrder = sides
  -- The scan keeps the best side so far, so the last side is split off, and the specification
  -- itself is the invariant.
  induction sides using List.reverseRecOn with
  | nil => exact fun side h => absurd h List.not_mem_nil
  | append_singleton sides s ih =>
    rw [List.foldl_append, List.foldl_cons, List.foldl_nil]
    generalize sides.foldl _ none = best at ih
    have hopen : ¬ (blocked.has s ∨ freeSpace box usable s ≤ gap) ↔
        OpenSide box usable blocked gap s := by
      rw [OpenSide, not_or, Bool.not_eq_true, Int.not_le]
    by_cases hs : OpenSide box usable blocked gap s
    · rw [if_neg (hopen.2 hs)]
      cases best with
      | none => exact .of_lt hs fun t ht hopen' => absurd hopen' (ih t ht)
      | some b =>
        dsimp only at ih ⊢
        by_cases hlt : freeSpace box usable b < freeSpace box usable s
        · rw [if_pos hlt]
          exact .of_lt hs fun t ht h => Int.lt_of_le_of_lt (ih.freeSpace_le t ht h) hlt
        · rw [if_neg hlt]
          exact ih.concat fun _ => Int.not_lt.1 hlt
    · rw [if_pos (Classical.not_not.1 (hs ∘ hopen.1))]
      cases best with
      | none => exact List.forall_mem_append.2 ⟨ih, List.forall_mem_singleton.2 hs⟩
      | some b => exact ih.concat fun h => absurd h hs

theorem firstRoomiest_of_roomiestSide (h : roomiestSide box usable blocked gap = some side) :
    FirstRoomiest box usable blocked gap growOrder side := by
  have hspec := roomiestSide_spec box usable blocked gap
  rwa [h] at hspec

theorem not_openSide_of_roomiestSide (h : roomiestSide box usable blocked gap = none)
    (side : Side) : ¬ OpenSide box usable blocked gap side := by
  have hspec := roomiestSide_spec box usable blocked gap
  rw [h] at hspec
  exact hspec side (by cases side <;> decide)

end Roomiest

/-! ## Growing -/

section Grow

variable {box usable : Box} {gap : Int} {side : Side}

theorem freeSpace_growTo (box usable : Box) (gap : Int) (side side' : Side) :
    freeSpace (growTo box usable gap side) usable side' =
      if side' = side then gap else freeSpace box usable side' := by
  cases side <;> cases side' <;> simp only [growTo, freeSpace, Box.x_ofEdges, Box.y_ofEdges,
    Box.right_ofEdges, Box.bottom_ofEdges, reduceCtorEq, if_true, if_false] <;> omega

theorem within_growTo (h : gap < freeSpace box usable side) :
    box.Within (growTo box usable gap side) := by
  rw [Box.within_iff]
  cases side <;> simp only [freeSpace] at h <;>
    simp only [growTo, Box.x_ofEdges, Box.y_ofEdges, Box.right_ofEdges, Box.bottom_ofEdges] <;>
    omega

theorem growTo_within (hg : 0 ≤ gap) (hw : box.Within usable) (hn : box.Nonneg)
    (h : gap < freeSpace box usable side) :
    (growTo box usable gap side).Within usable ∧ (growTo box usable gap side).Nonneg := by
  rw [Box.within_iff] at *
  rw [Box.nonneg_iff] at *
  cases side <;> simp only [freeSpace] at h <;>
    simp only [growTo, Box.x_ofEdges, Box.y_ofEdges, Box.right_ofEdges, Box.bottom_ofEdges] <;>
    omega

end Grow

/-! ## The result -/

/-- The resolver clamps the box itself, so it does not matter whether it was clamped before. -/
theorem resolveResized_clamp {usable : Box} (hu : usable.Nonneg) (resizedFull : Box)
    (others neighbours : List Box) (gap : Int) :
    resolveResized (resizedFull.clamp usable) usable others neighbours gap =
      resolveResized resizedFull usable others neighbours gap := by
  simp only [resolveResized, Box.clamp_clamp _ hu]

theorem resolveResized_of_overlaps {box usable : Box} {gap : Int} (hg : 0 ≤ gap)
    (hw : box.Within usable) (hn : box.Nonneg) {others : List Box}
    (h : ∃ other ∈ others, box.Overlaps other) (neighbours : List Box) :
    resolveResized box usable others neighbours gap = (shrinkOffAll box others gap).1 := by
  obtain ⟨hshrunk, hnonneg, -⟩ := shrinkOffAll_clears hg hn others
  have hbox : box.clamp usable = box := Box.clamp_of_within hw hn
  simp only [resolveResized, hbox]
  rw [if_pos (shrinkOffAll_overlapped h)]
  exact Box.clamp_of_within (hshrunk.trans hw) hnonneg

/-- **The resolver on a box that is clear of the windows left in place.** It keeps the box, or it
grows the edge on the roomiest open side, and then the box is clear of all windows. It keeps the box
only if there is no such side or the grown box is not clear. -/
theorem resolveResized_of_clear {box usable : Box} {gap : Int} (hg : 0 ≤ gap)
    (hw : box.Within usable) (hn : box.Nonneg) {others : List Box}
    (h : ∀ other ∈ others, ¬ box.Overlaps other) (neighbours : List Box) :
    let blocked := blockedSides neighbours box gap
    let result := resolveResized box usable others neighbours gap
    (result = box ∧ ((∀ side, ¬ OpenSide box usable blocked gap side) ∨
      ∃ side, FirstRoomiest box usable blocked gap growOrder side ∧
        ∃ other ∈ others ++ neighbours, (growTo box usable gap side).Overlaps other)) ∨
      ∃ side, FirstRoomiest box usable blocked gap growOrder side ∧
        result = growTo box usable gap side ∧
        ∀ other ∈ others ++ neighbours, ¬ result.Overlaps other := by
  intro blocked result
  have hbox : box.clamp usable = box := Box.clamp_of_within hw hn
  have hresult : result = (if (others ++ neighbours).any fun other =>
      (growResized box usable blocked gap).Overlaps other then box
      else growResized box usable blocked gap).clamp usable := by
    simp only [result, resolveResized, hbox, shrinkOffAll_of_clear h, Bool.false_eq_true, if_false]
    rfl
  -- The box grows at most once; the grown box is then tested against all windows.
  cases hs : roomiestSide box usable blocked gap with
  | none =>
    refine .inl ⟨?_, .inl (not_openSide_of_roomiestSide hs)⟩
    rw [hresult, growResized, hs, ite_self, hbox]
  | some side =>
    have hfirst := firstRoomiest_of_roomiestSide hs
    have hgrown : growResized box usable blocked gap = growTo box usable gap side := by
      rw [growResized, hs]
    simp only [hgrown, List.any_eq_true, decide_eq_true_eq] at hresult
    by_cases hany : ∃ other ∈ others ++ neighbours, (growTo box usable gap side).Overlaps other
    · refine .inl ⟨?_, .inr ⟨side, hfirst, hany⟩⟩
      rw [hresult, if_pos hany, hbox]
    · obtain ⟨hgw, hgn⟩ := growTo_within hg hw hn hfirst.isOpen.2
      have heq : result = growTo box usable gap side := by
        rw [hresult, if_neg hany, Box.clamp_of_within hgw hgn]
      exact .inr ⟨side, hfirst, heq, fun other ho hov => hany ⟨other, ho, heq ▸ hov⟩⟩

/-- **The resolver clears the box of the resized window.** The result lies in the usable area and
has no cell in common with a window left in place. A box that overlaps some of them is only made
smaller. One that overlaps none of them is kept, or it grows by one edge, out to the gap on the
roomiest open side, where it overlaps nobody; it is kept only if no side is open or if the grown box
would overlap somebody. -/
theorem resolveResized_clears {gap : Int} (hg : 0 ≤ gap) {usable : Box} (hu : usable.Nonneg)
    (resizedFull : Box) (others neighbours : List Box) :
    let clamped := resizedFull.clamp usable
    let blocked := blockedSides neighbours clamped gap
    let result := resolveResized resizedFull usable others neighbours gap
    (result.Within usable ∧ result.Nonneg ∧ ∀ other ∈ others, result.Disjoint other) ∧
      ((∃ other ∈ others, clamped.Overlaps other) → result.Within clamped) ∧
      ((∀ other ∈ others, ¬ clamped.Overlaps other) → clamped.Within result ∧
        ((result = clamped ∧ ((∀ side, ¬ OpenSide clamped usable blocked gap side) ∨
            ∃ side, FirstRoomiest clamped usable blocked gap growOrder side ∧
              ∃ other ∈ others ++ neighbours,
                (growTo clamped usable gap side).Overlaps other)) ∨
          ∃ side, FirstRoomiest clamped usable blocked gap growOrder side ∧
            (∀ side', freeSpace result usable side' =
              if side' = side then gap else freeSpace clamped usable side') ∧
            ∀ other ∈ others ++ neighbours, ¬ result.Overlaps other)) := by
  intro clamped blocked result
  have hw : clamped.Within usable := Box.clamp_within _ hu
  have hn : clamped.Nonneg := Box.nonneg_clamp _ _
  have hsame : resolveResized clamped usable others neighbours gap = result :=
    resolveResized_clamp hu _ _ _ _
  have hwithin : result.Within usable := resolveResized_within _ hu _ _ _
  have hnonneg : result.Nonneg := nonneg_resolveResized _ _ _ _ _
  -- A box that overlaps a window in place is shrunk and never grown; only a clear one may grow.
  by_cases hoverlaps : ∃ other ∈ others, clamped.Overlaps other
  · have hresult : (shrinkOffAll clamped others gap).1 = result :=
      (resolveResized_of_overlaps hg hw hn hoverlaps _).symm.trans hsame
    obtain ⟨hshrunk, -, hclear⟩ := shrinkOffAll_clears hg hn others
    rw [hresult] at hshrunk hclear
    refine ⟨⟨hwithin, hnonneg, hclear⟩, fun _ => hshrunk, fun hnone => ?_⟩
    obtain ⟨other, hmem, hov⟩ := hoverlaps
    exact absurd hov (hnone other hmem)
  · have hclear : ∀ other ∈ others, ¬ clamped.Overlaps other :=
      fun other hmem hov => hoverlaps ⟨other, hmem, hov⟩
    have hcases := resolveResized_of_clear hg hw hn hclear neighbours
    simp only [hsame] at hcases
    rcases hcases with ⟨heq, hwhy⟩ | ⟨side, hfirst, heq, hall⟩
    · refine ⟨⟨hwithin, hnonneg, fun other ho => ?_⟩, fun h => absurd h hoverlaps,
        fun _ => ⟨?_, .inl ⟨heq, hwhy⟩⟩⟩
      · exact heq ▸ Box.disjoint_of_not_overlaps (hclear other ho)
      · exact heq ▸ Box.Within.refl _
    · refine ⟨⟨hwithin, hnonneg, fun other ho => ?_⟩, fun h => absurd h hoverlaps,
        fun _ => ⟨?_, .inr ⟨side, hfirst, fun side' => ?_, hall⟩⟩⟩
      · exact Box.disjoint_of_not_overlaps (hall other (List.mem_append_left _ ho))
      · exact heq ▸ within_growTo hfirst.isOpen.2
      · rw [heq, freeSpace_growTo]

/-- One window in place cuts the right part off the box and the next one the lower part. -/
theorem resolveResized_clears_corner :
    let usable : Box := ⟨0, 0, 1000, 1000⟩
    let box : Box := ⟨100, 100, 500, 500⟩
    let others : List Box := [⟨550, 100, 300, 500⟩, ⟨100, 580, 450, 300⟩]
    let result := resolveResized box usable others [] 10
    (0 : Int) ≤ 10 ∧ usable.Nonneg ∧ result = ⟨100, 100, 440, 470⟩ ∧ result.Within box ∧
      ∀ other ∈ others, result.Disjoint other := by
  intro usable box others result
  obtain ⟨⟨-, -, hclear⟩, hshrunk, -⟩ :=
    @resolveResized_clears 10 (by decide) usable (by decide) box others []
  exact ⟨by decide, by decide, by decide, hshrunk ⟨⟨550, 100, 300, 500⟩, by decide, by decide⟩,
    hclear⟩

/-- Left and right are equally roomy: the left edge moves. -/
example : resolveResized ⟨200, 100, 600, 800⟩ ⟨0, 0, 1000, 1000⟩ [] [] 10 =
    ⟨10, 100, 790, 800⟩ := by decide

end WindowTiling
