import WindowTiling.Proofs.Growth
import WindowTiling.Proofs.Settling

/-!
# The filler settles in two rounds

A round looks at the windows of a region one after the other, and what one of them takes changes the
occupied box that the next one is seen against. So one could expect that a window which was passed
over gets its turn in a later round, and so on.

**Theorem (`fill_settles`).** Where every window fits its usable area, the first round leaves
nothing to do. A second one finds that out, and filling again places nothing. The full boxes only
grow, at most four placements are made in each region, and the window to be left alone is not among
them.

Everything is read off side by side. A window *takes* a side if there is more room than the gap
between the occupied box and the usable edge, and its own edge is near the border of the occupied
box. It then reaches to the gap, and so does the occupied box with it: nobody takes that side again,
which is why there are at most four placements. The other sides of the occupied box stay, and so who
cannot take a side now cannot take it later (`not_takes_of_advances`). What the occupied box has
become at the end of a round is what the full boxes span then, so the next round starts from it
(`RoundTo.bounding_eq_final`).
-/

namespace WindowTiling

/-! ## Boxes by the room on their sides -/

section FreeSpace

variable {a b c : Box} {side : Side}

theorem freeSpace_add (a b c : Box) (side : Side) :
    freeSpace a b side + freeSpace b c side = freeSpace a c side := by
  cases side <;> simp only [freeSpace] <;> omega

theorem within_iff_freeSpace : a.Within b ↔ ∀ side, 0 ≤ freeSpace a b side := by
  rw [Box.within_iff]
  constructor
  · intro h side
    cases side <;> simp only [freeSpace] <;> omega
  · intro h
    have hleft := h .left
    have hright := h .right
    have htop := h .top
    have hbottom := h .bottom
    simp only [freeSpace] at hleft hright htop hbottom
    omega

theorem freeSpace_le_of_within (h : a.Within b) (c : Box) (side : Side) :
    freeSpace b c side ≤ freeSpace a c side := by
  have hside := within_iff_freeSpace.1 h side
  have hadd := freeSpace_add a b c side
  omega

theorem freeSpace_union (a b c : Box) (side : Side) :
    freeSpace (a.union b) c side = min (freeSpace a c side) (freeSpace b c side) := by
  cases side <;>
  · simp only [freeSpace, Box.union, Box.ofSpans, Span.hull, Span.between, Span.stop, Box.xs,
      Box.ys, Box.right, Box.bottom]
    omega

theorem eq_of_freeSpace_eq (h : ∀ side, freeSpace a c side = freeSpace b c side) : a = b := by
  have hleft := h .left
  have hright := h .right
  have htop := h .top
  have hbottom := h .bottom
  cases a
  cases b
  simp only [freeSpace, Box.right, Box.bottom, Box.mk.injEq] at *
  omega

theorem exists_freeSpace_bounding {bs : List Box} {occupied : Box}
    (h : Box.bounding bs = some occupied) (c : Box) (side : Side) :
    ∃ b ∈ bs, freeSpace b c side = freeSpace occupied c side := by
  have hfold : ∀ (bs : List Box) (a : Box), ∃ b ∈ a :: bs,
      freeSpace b c side = freeSpace (bs.foldl Box.union a) c side := by
    intro bs
    induction bs with
    | nil => exact fun a => ⟨a, List.mem_singleton.2 rfl, rfl⟩
    | cons b bs ih =>
      intro a
      obtain ⟨d, hd, heq⟩ := ih (a.union b)
      rw [List.foldl_cons, ← heq]
      rcases List.mem_cons.1 hd with rfl | hd
      · -- The border of the hull of two boxes is that of one of them.
        rw [freeSpace_union]
        rcases Int.le_total (freeSpace a c side) (freeSpace b c side) with hle | hle
        · exact ⟨a, List.mem_cons_self, (Int.min_eq_left hle).symm⟩
        · exact ⟨b, by simp, (Int.min_eq_right hle).symm⟩
      · exact ⟨d, by simp [hd], rfl⟩
  cases bs with
  | nil => exact absurd h (by simp [Box.bounding])
  | cons a bs =>
    obtain rfl := Option.some.inj h
    exact hfold bs a

theorem bounding_within {bs : List Box} {occupied : Box} (h : Box.bounding bs = some occupied)
    (hc : ∀ b ∈ bs, b.Within c) : occupied.Within c := by
  refine within_iff_freeSpace.2 fun side => ?_
  obtain ⟨b, hb, heq⟩ := exists_freeSpace_bounding h c side
  rw [← heq]
  exact within_iff_freeSpace.1 (hc b hb) side

end FreeSpace

/-! ## Taking a side -/

/-- A full box takes the room on a side of the occupied box: there is more than the gap, and its own
edge is near the border of the occupied box. -/
def Takes (gap : Int) (usable occupied full : Box) (side : Side) : Prop :=
  gap < freeSpace occupied usable side ∧ freeSpace full occupied side ≤ gap + edgeTolerance

instance (gap : Int) (usable occupied full : Box) (side : Side) :
    Decidable (Takes gap usable occupied full side) := by
  unfold Takes
  infer_instance

section Takes

variable {gap : Int} {usable occupied full : Box}

/-- Where an edge goes: it stays, or it moves because there is more room than the gap. -/
theorem taken_cases (gap : Int) (usable occupied full : Box) (side : Side) (edge a : Int) :
    (if Takes gap usable occupied full side then edge else a) = a ∨
      (if Takes gap usable occupied full side then edge else a) = edge ∧
        gap < freeSpace occupied usable side := by
  by_cases h : Takes gap usable occupied full side
  · exact .inr ⟨if_pos h, h.1⟩
  · exact .inl (if_neg h)

/-- **What growing does to each side**: one that is taken has just the gap left, the others are as
they were. -/
theorem freeSpace_grow (hg : 0 ≤ gap) (ho : occupied.Within usable) (hw : full.Within occupied)
    (hn : full.Nonneg) (side : Side) : freeSpace (grow gap usable occupied full) usable side =
      if Takes gap usable occupied full side then gap else freeSpace full usable side := by
  rw [Box.within_iff] at ho hw
  rw [Box.nonneg_iff] at hn
  obtain ⟨l, t, r, b, hgrow, hl, ht, hr, hb⟩ : ∃ l t r b,
      grow gap usable occupied full = (Box.ofEdges l t r b).clamp usable ∧
        l = (if Takes gap usable occupied full .left then usable.x + gap else full.x) ∧
        t = (if Takes gap usable occupied full .top then usable.y + gap else full.y) ∧
        r = (if Takes gap usable occupied full .right then usable.right - gap else full.right) ∧
        b = (if Takes gap usable occupied full .bottom then usable.bottom - gap
          else full.bottom) := by
    -- The full box is inside the occupied one, so only one of the two distances counts.
    refine ⟨_, _, _, _, rfl, ?_, ?_, ?_, ?_⟩ <;>
    · refine ite_congr (propext ?_) (fun _ => rfl) fun _ => rfl
      simp only [Takes, freeSpace, Near, edgeTolerance]
      omega
  have hin : (Box.ofEdges l t r b).Within usable ∧ (Box.ofEdges l t r b).Nonneg := by
    have hleft := taken_cases gap usable occupied full .left (usable.x + gap) full.x
    have htop := taken_cases gap usable occupied full .top (usable.y + gap) full.y
    have hright := taken_cases gap usable occupied full .right (usable.right - gap) full.right
    have hbottom := taken_cases gap usable occupied full .bottom (usable.bottom - gap) full.bottom
    rw [← hl] at hleft
    rw [← ht] at htop
    rw [← hr] at hright
    rw [← hb] at hbottom
    simp only [freeSpace] at hleft htop hright hbottom
    simp only [Box.within_iff, Box.nonneg_iff, Box.x_ofEdges, Box.y_ofEdges, Box.right_ofEdges,
      Box.bottom_ofEdges]
    omega
  rw [hgrow, Box.clamp_of_within hin.1 hin.2]
  cases side <;> simp only [freeSpace, Box.x_ofEdges, Box.y_ofEdges, Box.right_ofEdges,
    Box.bottom_ofEdges, hl, ht, hr, hb] <;> split <;> omega

theorem grow_eq_self_iff (hg : 0 ≤ gap) (ho : occupied.Within usable) (hw : full.Within occupied)
    (hn : full.Nonneg) : grow gap usable occupied full = full ↔
      ∀ side, ¬ Takes gap usable occupied full side := by
  have hside := freeSpace_grow hg ho hw hn
  constructor
  · intro heq side htakes
    have hgap : freeSpace full usable side = gap := by
      have h := hside side
      rwa [heq, if_pos htakes] at h
    have hle := freeSpace_le_of_within hw usable side
    have hroom := htakes.1
    omega
  · intro hnone
    refine eq_of_freeSpace_eq (c := usable) fun side => ?_
    rw [hside side, if_neg (hnone side)]

/-! ## How the occupied box goes on -/

/-- Each side of the occupied box stays, or it moves to the gap or beyond it. -/
def Advances (gap : Int) (usable occupied occupied' : Box) : Prop :=
  ∀ side, freeSpace occupied' usable side = freeSpace occupied usable side ∨
    freeSpace occupied' usable side ≤ freeSpace occupied usable side ∧
      freeSpace occupied' usable side ≤ gap

theorem Advances.refl (gap : Int) (usable occupied : Box) :
    Advances gap usable occupied occupied := fun _ => .inl rfl

theorem Advances.trans {o₁ o₂ o₃ : Box} (h : Advances gap usable o₁ o₂)
    (h' : Advances gap usable o₂ o₃) : Advances gap usable o₁ o₃ := by
  intro side
  have h₁ := h side
  have h₂ := h' side
  omega

theorem Advances.within {o o' : Box} (h : Advances gap usable o o') : o.Within o' := by
  refine within_iff_freeSpace.2 fun side => ?_
  have hside := h side
  have hadd := freeSpace_add o o' usable side
  omega

/-- **Who cannot take a side now cannot take it later.** -/
theorem not_takes_of_advances {o o' : Box} (h : Advances gap usable o o') {side : Side}
    (hn : ¬ Takes gap usable o full side) : ¬ Takes gap usable o' full side := by
  have hside := h side
  have hadd := freeSpace_add full o usable side
  have hadd' := freeSpace_add full o' usable side
  simp only [Takes] at hn ⊢
  omega

theorem freeSpace_union_grow (hg : 0 ≤ gap) (ho : occupied.Within usable)
    (hw : full.Within occupied) (hn : full.Nonneg) (side : Side) :
    freeSpace (occupied.union (grow gap usable occupied full)) usable side =
      if Takes gap usable occupied full side then gap else freeSpace occupied usable side := by
  have hle := freeSpace_le_of_within hw usable side
  rw [freeSpace_union, freeSpace_grow hg ho hw hn]
  split
  · next htakes =>
    have hroom := htakes.1
    omega
  · omega

theorem union_grow_within (hg : 0 ≤ gap) (ho : occupied.Within usable)
    (hw : full.Within occupied) (hn : full.Nonneg) :
    (occupied.union (grow gap usable occupied full)).Within usable := by
  refine within_iff_freeSpace.2 fun side => ?_
  rw [freeSpace_union_grow hg ho hw hn]
  split
  · exact hg
  · exact within_iff_freeSpace.1 ho side

theorem advances_union_grow (hg : 0 ≤ gap) (ho : occupied.Within usable)
    (hw : full.Within occupied) (hn : full.Nonneg) :
    Advances gap usable occupied (occupied.union (grow gap usable occupied full)) := by
  intro side
  rw [freeSpace_union_grow hg ho hw hn]
  split
  · next htakes => exact .inr ⟨Int.le_of_lt htakes.1, Int.le_refl _⟩
  · exact .inl rfl

/-- A box that has grown takes no side of the occupied box that takes it in, and neither would the
box it has grown from. -/
theorem not_takes_union_grow (hg : 0 ≤ gap) (ho : occupied.Within usable)
    (hw : full.Within occupied) (hn : full.Nonneg) (side : Side) :
    ¬ Takes gap usable (occupied.union (grow gap usable occupied full)) full side ∧
      ¬ Takes gap usable (occupied.union (grow gap usable occupied full))
        (grow gap usable occupied full) side := by
  have hunion := freeSpace_union_grow hg ho hw hn side
  have hgrow := freeSpace_grow hg ho hw hn side
  by_cases htakes : Takes gap usable occupied full side
  · rw [if_pos htakes] at hunion
    simp only [Takes, hunion]
    omega
  · rw [if_neg htakes] at hunion hgrow
    have hadd := freeSpace_add full occupied usable side
    have hadd' := freeSpace_add full (occupied.union (grow gap usable occupied full)) usable side
    have hadd'' := freeSpace_add (grow gap usable occupied full)
      (occupied.union (grow gap usable occupied full)) usable side
    simp only [Takes] at htakes ⊢
    omega

/-- Taking a side uses it up. -/
theorem roomySides_union_grow_lt (hg : 0 ≤ gap) (ho : occupied.Within usable)
    (hw : full.Within occupied) (hn : full.Nonneg) {side : Side}
    (htakes : Takes gap usable occupied full side) :
    roomySides gap (occupied.union (grow gap usable occupied full)) usable <
      roomySides gap occupied usable := by
  have hside : ∀ s, gap < freeSpace (occupied.union (grow gap usable occupied full)) usable s →
      gap < freeSpace occupied usable s ∧ s ≠ side := by
    intro s
    rw [freeSpace_union_grow hg ho hw hn]
    split
    · exact fun h => absurd h (Int.lt_irrefl gap)
    · next hs => exact fun h => ⟨h, fun heq => hs (heq ▸ htakes)⟩
  have hroom := htakes.1
  have hleft := hside .left
  have hright := hside .right
  have htop := hside .top
  have hbottom := hside .bottom
  simp only [roomySides, growOrder, List.countP_cons, List.countP_nil, decide_eq_true_eq]
  cases side <;> grind

end Takes

/-! ## One round -/

/-- The tile with the box that it has after placements. -/
def Tile.after (ps : List Placement) (t : Tile) : Tile :=
  { t with box := boxAfter ps t.window t.box }

theorem Tile.after_of_forall_ne {t : Tile} {ps : List Placement}
    (h : ∀ p ∈ ps, p.window ≠ t.window) : t.after ps = t := by
  rw [after, boxAfter_of_forall_ne h]

theorem Region.tiles_placeAll (r : Region) (ps : List Placement) :
    (r.placeAll ps).tiles = r.tiles.map (Tile.after ps) := placeAll_eq_map r.tiles ps

/-- Every tile fits the usable area. A window may be listed more than once, but is seen alike
then. -/
structure AllFit (usable : Box) (ts : List Tile) : Prop where
  alike : ∀ t ∈ ts, ∀ u ∈ ts, t.window = u.window → t = u
  margins : ∀ t ∈ ts, t.margins.Nonneg
  fits : ∀ t ∈ ts, t.Fits usable

instance (m : Border) : Decidable m.Nonneg :=
  inferInstanceAs (Decidable (0 ≤ m.left ∧ 0 ≤ m.top ∧ 0 ≤ m.right ∧ 0 ≤ m.bottom))

instance (usable : Box) (ts : List Tile) : Decidable (AllFit usable ts) :=
  decidable_of_iff
    ((∀ t ∈ ts, ∀ u ∈ ts, t.window = u.window → t = u) ∧ (∀ t ∈ ts, t.margins.Nonneg) ∧
      ∀ t ∈ ts, t.Fits usable)
    ⟨fun h => ⟨h.1, h.2.1, h.2.2⟩, fun h => ⟨h.1, h.2, h.3⟩⟩

theorem AllFit.tail {usable : Box} {t : Tile} {ts : List Tile} (h : AllFit usable (t :: ts)) :
    AllFit usable ts where
  alike u hu v hv := h.alike u (List.mem_cons_of_mem t hu) v (List.mem_cons_of_mem t hv)
  margins u hu := h.margins u (List.mem_cons_of_mem t hu)
  fits u hu := h.fits u (List.mem_cons_of_mem t hu)

section Round

variable {gap : Int} {skip : Option WindowRef} {usable occupied : Box} {t : Tile} {ts : List Tile}

/-- **What a round does with the first tile**: it passes it over, because it is to be left alone or
takes no side, or it gives it a grown box and goes on with an occupied box that takes it in. -/
theorem fillFrom_cons_cases (hg : 0 ≤ gap) (ho : occupied.Within usable)
    (hw : t.full.Within occupied) (hn : t.full.Nonneg) :
    (skip = some t.window ∨ ∀ side, ¬ Takes gap usable occupied t.full side) ∧
        fillFrom gap skip usable occupied (t :: ts) = fillFrom gap skip usable occupied ts ∨
      skip ≠ some t.window ∧ (∃ side, Takes gap usable occupied t.full side) ∧
        fillFrom gap skip usable occupied (t :: ts) =
          ⟨t.window, t.contentOf (grow gap usable occupied t.full) usable⟩ ::
            fillFrom gap skip usable (occupied.union (grow gap usable occupied t.full)) ts := by
  have hself := grow_eq_self_iff hg ho hw hn
  by_cases hskip : skip = some t.window
  · exact .inl ⟨.inl hskip, by rw [fillFrom, if_pos hskip]⟩
  · by_cases hgrow : grow gap usable occupied t.full = t.full
    · exact .inl ⟨.inr (hself.1 hgrow), by rw [fillFrom, if_neg hskip, if_pos hgrow]⟩
    · refine .inr ⟨hskip, ?_, by rw [fillFrom, if_neg hskip, if_neg hgrow]⟩
      simpa only [hself, Classical.not_forall, Classical.not_not] using hgrow

theorem forall_ne_of_not_takes (hg : 0 ≤ gap) (h : AllFit usable ts) (ho : occupied.Within usable)
    (hw : ∀ u ∈ ts, u.full.Within occupied) {w : WindowRef}
    (hn : ∀ u ∈ ts, u.window = w → ∀ side, ¬ Takes gap usable occupied u.full side) :
    ∀ p ∈ fillFrom gap skip usable occupied ts, p.window ≠ w := by
  induction ts generalizing occupied with
  | nil => exact fun p hp => absurd hp List.not_mem_nil
  | cons t ts ih =>
    obtain ⟨hwt, hw⟩ := List.forall_mem_cons.1 hw
    obtain ⟨hnt, hn⟩ := List.forall_mem_cons.1 hn
    have hfit := h.fits t List.mem_cons_self
    have hfull := hfit.nonneg_full (h.margins t List.mem_cons_self)
    rcases fillFrom_cons_cases hg ho hwt hfull with ⟨-, heq⟩ | ⟨-, ⟨side, htakes⟩, heq⟩
    · rw [heq]
      exact ih h.tail ho hw hn
    · have hadvances := advances_union_grow hg ho hwt hfull
      rw [heq]
      refine List.forall_mem_cons.2 ⟨fun htw => hnt htw side htakes, ?_⟩
      refine ih h.tail (union_grow_within hg ho hwt hfull) ?_ ?_
      · exact fun u hu => (hw u hu).trans hadvances.within
      · exact fun u hu huw side => not_takes_of_advances hadvances (hn u hu huw side)

/-- **What a round does with the first tile**, which it does not come back to when the window is
listed again. -/
theorem AllFit.fillFrom_cases (hg : 0 ≤ gap) (h : AllFit usable (t :: ts))
    (ho : occupied.Within usable) (hw : ∀ u ∈ t :: ts, u.full.Within occupied) :
    ((skip = some t.window ∨ ∀ side, ¬ Takes gap usable occupied t.full side) ∧
        fillFrom gap skip usable occupied (t :: ts) = fillFrom gap skip usable occupied ts ∧
        ∀ p ∈ fillFrom gap skip usable occupied ts, p.window ≠ t.window) ∨
      ∃ side, Takes gap usable occupied t.full side ∧
        fillFrom gap skip usable occupied (t :: ts) =
          ⟨t.window, t.contentOf (grow gap usable occupied t.full) usable⟩ ::
            fillFrom gap skip usable (occupied.union (grow gap usable occupied t.full)) ts ∧
        ∀ p ∈ fillFrom gap skip usable (occupied.union (grow gap usable occupied t.full)) ts,
          p.window ≠ t.window := by
  obtain ⟨hwt, hw⟩ := List.forall_mem_cons.1 hw
  have hn := (h.fits t List.mem_cons_self).nonneg_full (h.margins t List.mem_cons_self)
  have halike : ∀ u ∈ ts, u.window = t.window → u = t := fun u hu =>
    h.alike u (List.mem_cons_of_mem t hu) t List.mem_cons_self
  rcases fillFrom_cons_cases hg ho hwt hn with ⟨hpass, heq⟩ | ⟨-, ⟨side, htakes⟩, heq⟩
  · refine .inl ⟨hpass, heq, ?_⟩
    rcases hpass with hskip | hnone
    · rw [hskip]
      exact fun p hp => fillFrom_skip hp
    · refine forall_ne_of_not_takes hg h.tail ho hw fun u hu huw => ?_
      rw [halike u hu huw]
      exact hnone
  · refine .inr ⟨side, htakes, heq, ?_⟩
    have hcovered := fun u hu => (hw u hu).trans (advances_union_grow hg ho hwt hn).within
    refine forall_ne_of_not_takes hg h.tail (union_grow_within hg ho hwt hn) hcovered
      fun u hu huw s => ?_
    rw [halike u hu huw]
    exact (not_takes_union_grow hg ho hwt hn s).1

theorem Tile.after_cons_of_ne {p : Placement} (h : p.window ≠ t.window) (ps : List Placement) :
    t.after (p :: ps) = t.after ps := by
  rw [after, boxAfter_cons, if_neg h, after]

theorem Tile.after_cons_of_forall_ne {ps : List Placement} (h : ∀ p ∈ ps, p.window ≠ t.window)
    (b : Box) : t.after (⟨t.window, b⟩ :: ps) = { t with box := b } := by
  rw [after, boxAfter_cons, if_pos rfl, boxAfter_of_forall_ne h]

/-- What a round makes of a tile: it fits and covers what it did, inside the occupied box at the end
of the round, and takes no side of that box unless it is to be left alone. -/
structure Tile.Settles (gap : Int) (skip : Option WindowRef) (usable final : Box) (t t' : Tile) :
    Prop where
  fits : t'.Fits usable
  grows : t.full.Within t'.full
  covered : t'.full.Within final
  done : skip ≠ some t.window → ∀ side, ¬ Takes gap usable final t'.full side

/-- What a round comes to for the tiles that it goes over, with the occupied box at its beginning
and at its end. -/
structure RoundTo (gap : Int) (skip : Option WindowRef) (usable occupied : Box) (ts : List Tile)
    (ps : List Placement) (final : Box) : Prop where
  advances : Advances gap usable occupied final
  cost : ps.length + roomySides gap final usable ≤ roomySides gap occupied usable
  tiles : ∀ t ∈ ts, t.Settles gap skip usable final (t.after ps)
  reached : ∀ side, freeSpace final usable side = freeSpace occupied usable side ∨
    ∃ t ∈ ts, freeSpace (t.after ps).full usable side = freeSpace final usable side

variable {ps : List Placement} {final : Box}

theorem RoundTo.pass (h : RoundTo gap skip usable occupied ts ps final) (hfit : t.Fits usable)
    (hw : t.full.Within occupied) (hne : ∀ p ∈ ps, p.window ≠ t.window)
    (hpass : skip = some t.window ∨ ∀ side, ¬ Takes gap usable occupied t.full side) :
    RoundTo gap skip usable occupied (t :: ts) ps final where
  advances := h.advances
  cost := h.cost
  tiles := by
    refine List.forall_mem_cons.2 ⟨?_, h.tiles⟩
    rw [Tile.after_of_forall_ne hne]
    refine ⟨hfit, Box.Within.refl _, hw.trans h.advances.within, fun hskip side => ?_⟩
    exact not_takes_of_advances h.advances (hpass.resolve_left hskip side)
  reached side := by
    refine (h.reached side).imp_right fun ⟨u, hu, heq⟩ => ?_
    exact ⟨u, List.mem_cons_of_mem t hu, heq⟩

theorem RoundTo.place (hg : 0 ≤ gap) (hfit : AllFit usable (t :: ts)) (ho : occupied.Within usable)
    (hw : t.full.Within occupied) {side : Side} (htakes : Takes gap usable occupied t.full side)
    (h : RoundTo gap skip usable (occupied.union (grow gap usable occupied t.full)) ts ps final)
    (hne : ∀ p ∈ ps, p.window ≠ t.window) :
    RoundTo gap skip usable occupied (t :: ts)
      (⟨t.window, t.contentOf (grow gap usable occupied t.full) usable⟩ :: ps) final := by
  have ht := hfit.fits t List.mem_cons_self
  have hm := hfit.margins t List.mem_cons_self
  have hn := ht.nonneg_full hm
  obtain ⟨hfull, hfits, -⟩ := ht.grow hm hg hw
  obtain ⟨⟨-, hgrows⟩, -⟩ := grow_spec hg ht.within hn hw
  have hadvances := advances_union_grow hg ho hw hn
  have hless := roomySides_union_grow_lt hg ho hw hn htakes
  have hside := freeSpace_grow hg ho hw hn
  have hunion := freeSpace_union_grow hg ho hw hn
  have hdone := not_takes_union_grow hg ho hw hn
  generalize grow gap usable occupied t.full = grown at *
  have hafter : t.after (⟨t.window, t.contentOf grown usable⟩ :: ps) =
      { t with box := t.contentOf grown usable } := Tile.after_cons_of_forall_ne hne _
  have hcovered : grown.Within final := (Box.within_union_right _ _).trans h.advances.within
  have hthis : t.Settles gap skip usable final
      (t.after (⟨t.window, t.contentOf grown usable⟩ :: ps)) := by
    rw [hafter]
    refine ⟨hfits, by rwa [hfull], by rwa [hfull], fun _ s => ?_⟩
    rw [hfull]
    exact not_takes_of_advances h.advances (hdone s).2
  -- A tile further on is another window, or the same one listed again.
  have hother : ∀ u ∈ ts, u = t ∨
      u.after (⟨t.window, t.contentOf grown usable⟩ :: ps) = u.after ps := by
    intro u hu
    by_cases huw : t.window = u.window
    · exact .inl (hfit.alike u (List.mem_cons_of_mem t hu) t List.mem_cons_self huw.symm)
    · exact .inr (Tile.after_cons_of_ne huw ps)
  refine ⟨hadvances.trans h.advances, ?_, List.forall_mem_cons.2 ⟨hthis, ?_⟩, ?_⟩
  · have hcost := h.cost
    rw [List.length_cons]
    omega
  · intro u hu
    rcases hother u hu with rfl | heq
    · exact hthis
    · rw [heq]
      exact h.tiles u hu
  · intro s
    rcases h.reached s with heq | ⟨u, hu, heq⟩
    · rw [heq, hunion s]
      split
      · next hs => exact .inr ⟨t, List.mem_cons_self, by rw [hafter, hfull, hside s, if_pos hs]⟩
      · exact .inl rfl
    · right
      rcases hother u hu with rfl | hsame
      · -- The tile has reached this side before it was given a box.
        refine ⟨u, List.mem_cons_self, Int.le_antisymm ?_ ?_⟩
        · rw [← heq, Tile.after_of_forall_ne hne]
          exact freeSpace_le_of_within hthis.grows usable s
        · exact freeSpace_le_of_within hthis.covered usable s
      · exact ⟨u, List.mem_cons_of_mem t hu, by rw [hsame, heq]⟩

theorem roundTo_fillFrom (hg : 0 ≤ gap) (h : AllFit usable ts) (ho : occupied.Within usable)
    (hw : ∀ t ∈ ts, t.full.Within occupied) :
    ∃ final, RoundTo gap skip usable occupied ts (fillFrom gap skip usable occupied ts) final := by
  induction ts generalizing occupied with
  | nil =>
    refine ⟨occupied, Advances.refl gap usable occupied, ?_, ?_, fun _ => .inl rfl⟩
    · exact Nat.le_of_eq (Nat.zero_add _)
    · exact fun t ht => absurd ht List.not_mem_nil
  | cons t ts ih =>
    obtain ⟨hwt, hw'⟩ := List.forall_mem_cons.1 hw
    have ht := h.fits t List.mem_cons_self
    have hn := ht.nonneg_full (h.margins t List.mem_cons_self)
    rcases h.fillFrom_cases hg ho hw with ⟨hpass, heq, hne⟩ | ⟨side, htakes, heq, hne⟩
    · rw [heq]
      obtain ⟨final, hround⟩ := ih h.tail ho hw'
      exact ⟨final, hround.pass ht hwt hne hpass⟩
    · rw [heq]
      have hadvances := advances_union_grow hg ho hwt hn
      obtain ⟨final, hround⟩ := ih h.tail (union_grow_within hg ho hwt hn)
        fun u hu => (hw' u hu).trans hadvances.within
      exact ⟨final, hround.place hg h ho hwt htakes hne⟩

/-- The full boxes span the occupied box at the end of a round. -/
theorem RoundTo.bounding_eq_final (h : RoundTo gap skip usable occupied ts ps final)
    (hb : Box.bounding (ts.map Tile.full) = some occupied) :
    Box.bounding ((ts.map (Tile.after ps)).map Tile.full) = some final := by
  obtain ⟨spanned, hspanned⟩ : ∃ spanned,
      Box.bounding ((ts.map (Tile.after ps)).map Tile.full) = some spanned := by
    cases ts with
    | nil => exact absurd hb (by simp [Box.bounding])
    | cons t ts => exact ⟨_, rfl⟩
  have hall : ∀ t ∈ ts, (t.after ps).full.Within spanned := fun t ht =>
    Box.within_bounding hspanned _ (List.mem_map_of_mem (List.mem_map_of_mem ht))
  have hwithin : spanned.Within final := by
    refine bounding_within hspanned fun b hb => ?_
    simp only [List.map_map, List.mem_map, Function.comp_apply] at hb
    obtain ⟨t, ht, rfl⟩ := hb
    exact (h.tiles t ht).covered
  rw [hspanned, Option.some.injEq]
  refine eq_of_freeSpace_eq (c := usable) fun side => Int.le_antisymm ?_ ?_
  · rcases h.reached side with heq | ⟨t, ht, heq⟩
    · -- A side that nobody has taken is spanned by the tile that spanned it before.
      obtain ⟨b, hmem, hside⟩ := exists_freeSpace_bounding hb usable side
      obtain ⟨t, ht, rfl⟩ := List.mem_map.1 hmem
      rw [heq, ← hside]
      exact freeSpace_le_of_within ((h.tiles t ht).grows.trans (hall t ht)) usable side
    · rw [← heq]
      exact freeSpace_le_of_within (hall t ht) usable side
  · exact freeSpace_le_of_within hwithin usable side

theorem fillFrom_eq_nil (hg : 0 ≤ gap) (h : AllFit usable ts) (ho : occupied.Within usable)
    (hw : ∀ t ∈ ts, t.full.Within occupied)
    (hn : ∀ t ∈ ts, skip ≠ some t.window → ∀ side, ¬ Takes gap usable occupied t.full side) :
    fillFrom gap skip usable occupied ts = [] := by
  refine List.eq_nil_iff_forall_not_mem.2 fun p hp => ?_
  obtain ⟨t, -, o, -, hskip, hpt⟩ := mem_fillFrom hp
  refine forall_ne_of_not_takes hg h ho hw (fun u hu huw => ?_) p hp (congrArg Placement.window hpt)
  exact hn u hu (by rwa [huw])

end Round

/-! ## One region -/

section Region

variable {gap : Int} {skip : Option WindowRef} {r : Region}

/-- A round that places something starts from the box that the full boxes span. -/
theorem fillRegion_cases (gap : Int) (skip : Option WindowRef) (r : Region) :
    fillRegion gap skip r = [] ∨ ∃ occupied,
      Box.bounding (r.tiles.map Tile.full) = some occupied ∧
        fillRegion gap skip r = fillFrom gap skip r.usable occupied r.tiles := by
  simp only [fillRegion]
  split
  · exact .inl rfl
  · next occupied hb =>
    split
    · exact .inl rfl
    · exact .inr ⟨occupied, hb, rfl⟩

theorem AllFit.placeAll {ps : List Placement} (h : AllFit r.usable r.tiles)
    (hfits : ∀ t ∈ r.tiles, (t.after ps).Fits r.usable) :
    AllFit (r.placeAll ps).usable (r.placeAll ps).tiles := by
  rw [Region.tiles_placeAll]
  refine ⟨?_, List.forall_mem_map.2 h.margins, List.forall_mem_map.2 hfits⟩
  simp only [List.forall_mem_map]
  intro t ht u hu htu
  rw [h.alike t ht u hu htu]

/-- **A round leaves nothing to do**, after four placements at most, and the full boxes only
grow. -/
theorem fillRegion_settles (hg : 0 ≤ gap) (h : AllFit r.usable r.tiles) :
    let ps := fillRegion gap skip r
    ps.length ≤ 4 ∧ (∀ t ∈ r.tiles, t.full.Within (t.after ps).full ∧
      (t.after ps).full.Within r.usable) ∧ fillRegion gap skip (r.placeAll ps) = [] := by
  intro ps
  -- After the round every tile has been looked at against an occupied box that has only grown
  -- since, so that none takes a side of the final one. The number of roomy sides, four at most,
  -- pays for the placements.
  rcases fillRegion_cases gap skip r with hnil | ⟨occupied, hb, heq⟩
  · rw [show ps = [] from hnil]
    exact ⟨Nat.zero_le 4, fun t ht => ⟨Box.Within.refl _, (h.fits t ht).within⟩, hnil⟩
  · have hw : ∀ t ∈ r.tiles, t.full.Within occupied := fun t ht =>
      Box.within_bounding hb _ (List.mem_map_of_mem ht)
    have ho : occupied.Within r.usable := by
      refine bounding_within hb (List.forall_mem_map.2 fun t ht => ?_)
      exact (h.fits t ht).within
    obtain ⟨final, hround⟩ := @roundTo_fillFrom gap skip _ _ _ hg h ho hw
    rw [← heq] at hround
    have hfits := fun t ht => (hround.tiles t ht).fits
    refine ⟨?_, fun t ht => ⟨(hround.tiles t ht).grows, (hfits t ht).within⟩, ?_⟩
    · have hcost : ps.length + _ ≤ _ := hround.cost
      have hfour := roomySides_le_four gap occupied r.usable
      omega
    · rcases fillRegion_cases gap skip (r.placeAll ps) with hnil | ⟨spanned, hb', heq'⟩
      · exact hnil
      · have hafter := h.placeAll hfits
        have hinside : spanned.Within r.usable := by
          refine bounding_within hb' (List.forall_mem_map.2 fun t ht => ?_)
          exact (hafter.fits t ht).within
        rw [Region.tiles_placeAll, hround.bounding_eq_final hb] at hb'
        obtain rfl := Option.some.inj hb'
        rw [heq']
        refine fillFrom_eq_nil hg hafter hinside ?_ ?_
        · rw [Region.tiles_placeAll]
          exact List.forall_mem_map.2 fun t ht => (hround.tiles t ht).covered
        · rw [Region.tiles_placeAll]
          exact List.forall_mem_map.2 fun t ht => (hround.tiles t ht).done

end Region

/-! ## Rounds over all regions -/

instance (r s : Region) : Decidable (r.Apart s) :=
  inferInstanceAs (Decidable (∀ t ∈ r.tiles, ∀ u ∈ s.tiles, t.window ≠ u.window))

section Rounds

variable {gap : Int} {skip : Option WindowRef}

theorem fillRounds_of_settled {fs : List Filling} (h : fs.all (·.settled) = true) (max : Nat) :
    fillRounds gap skip max fs = ⟨0, [], fs.map (·.region)⟩ := by
  cases max with
  | zero => rfl
  | succ max => rw [fillRounds, if_pos h]

theorem Filling.next_of_idle {f : Filling} (h : f.placements gap skip = []) :
    f.next gap skip = ⟨f.region, true⟩ := by
  rw [next, h]
  rfl

/-- One more round at most finds that there is nothing to place. -/
theorem fillRounds_of_idle {fs : List Filling} (h : ∀ f ∈ fs, f.placements gap skip = [])
    (max : Nat) : fillRounds gap skip (max + 1) fs =
      ⟨if fs.all (·.settled) then 0 else 1, [], fs.map (·.region)⟩ := by
  rw [fillRounds]
  split
  · rfl
  · have hnext : fs.map (Filling.next gap skip) = fs.map fun f => ⟨f.region, true⟩ :=
      List.map_congr_left fun f hf => Filling.next_of_idle (h f hf)
    rw [hnext, fillRounds_of_settled (by simp), List.flatMap_eq_nil_iff.2 h, List.map_map]
    rfl

theorem not_all_settled {rs : List Region} (hne : rs ≠ []) :
    ¬ (rs.map fun r => Filling.mk r false).all (·.settled) = true := by
  cases rs with
  | nil => exact absurd rfl hne
  | cons r rs => exact Bool.false_ne_true

theorem fill_of_idle {rs : List Region} (hne : rs ≠ [])
    (h : ∀ r ∈ rs, fillRegion gap skip r = []) (max : Nat) :
    fill gap skip (max + 1) rs = ⟨1, [], rs⟩ := by
  have hidle : ∀ f ∈ rs.map fun r => Filling.mk r false, f.placements gap skip = [] :=
    List.forall_mem_map.2 h
  rw [fill, fillRounds_of_idle hidle, if_neg (not_all_settled hne), List.map_map]
  exact congrArg _ (List.map_id rs)

/-- Filling regions that one round leaves with nothing to fill takes two rounds at most, and the
second one places nothing. -/
theorem fill_of_idle_next {rs : List Region} (hne : rs ≠ [])
    (h : ∀ r ∈ rs, fillRegion gap skip (r.placeAll (fillRegion gap skip r)) = []) (max : Nat) :
    ∃ rounds ≤ 2, fill gap skip (max + 2) rs =
      ⟨rounds, rs.flatMap (fillRegion gap skip),
        rs.map fun r => r.placeAll (fillRegion gap skip r)⟩ := by
  have hidle : ∀ f ∈ (rs.map fun r => Filling.mk r false).map (Filling.next gap skip),
      f.placements gap skip = [] := by
    simp only [List.forall_mem_map]
    intro r hr
    rw [Filling.placements]
    split
    · rfl
    · exact h r hr
  rw [fill, fillRounds, if_neg (not_all_settled hne), fillRounds_of_idle hidle]
  simp only [List.append_nil, List.flatMap_map, List.map_map]
  refine ⟨_, ?_, rfl⟩
  split <;> omega

theorem filter_flatMap_fillRegion {rs : List Region} (hrs : rs.Pairwise Region.Apart) {r : Region}
    (hr : r ∈ rs) : (rs.flatMap (fillRegion gap skip)).filter
      (fun p => p.window ∈ r.tiles.map (·.window)) = fillRegion gap skip r := by
  have hown : (fillRegion gap skip r).filter (fun p => p.window ∈ r.tiles.map (·.window)) =
      fillRegion gap skip r :=
    List.filter_eq_self.2 fun p hp => decide_eq_true (accepts_fillRegion gap skip r p hp).1
  have hother : ∀ s, s.Apart r →
      (fillRegion gap skip s).filter (fun p => p.window ∈ r.tiles.map (·.window)) = [] := by
    intro s hs
    refine List.filter_eq_nil_iff.2 fun p hp hmem => ?_
    obtain ⟨t, ht, htw⟩ := List.mem_map.1 (accepts_fillRegion gap skip s p hp).1
    obtain ⟨u, hu, huw⟩ := List.mem_map.1 (of_decide_eq_true hmem)
    exact hs t ht u hu (htw.trans huw.symm)
  induction rs with
  | nil => exact absurd hr List.not_mem_nil
  | cons s rs ih =>
    obtain ⟨hs, hrs⟩ := List.pairwise_cons.1 hrs
    rw [List.flatMap_cons, List.filter_append]
    rcases List.mem_cons.1 hr with rfl | hr
    · have hrest : (rs.flatMap (fillRegion gap skip)).filter
          (fun p => p.window ∈ r.tiles.map (·.window)) = [] := by
        rw [List.filter_flatMap, List.flatMap_eq_nil_iff]
        exact fun s' hs' => hother s' (hs s' hs').symm
      rw [hown, hrest, List.append_nil]
    · rw [hother s (hs r hr), List.nil_append]
      exact ih hrs hr

end Rounds

/-- **The filler settles in two rounds.** On regions without a common window, where every window
fits the usable area, filling with two rounds or more uses two at most. All boxes are those that the
placements give; the full boxes have only grown and still lie in the usable areas. Each region has
seen four placements at most, and the window to be left alone none. Filling again places nothing and
takes one round. -/
theorem fill_settles {gap : Int} (hg : 0 ≤ gap) (skip : Option WindowRef) {max : Nat}
    (hmax : 2 ≤ max) {rs : List Region} (hne : rs ≠ []) (hapart : rs.Pairwise Region.Apart)
    (hfit : ∀ r ∈ rs, AllFit r.usable r.tiles) :
    let result := fill gap skip max rs
    result.rounds ≤ 2 ∧
    result.regions = rs.map (·.placeAll result.placements) ∧
    (∀ r ∈ rs, ∀ t ∈ r.tiles, t.full.Within (t.after result.placements).full ∧
      (t.after result.placements).full.Within r.usable) ∧
    (∀ r ∈ rs,
      (result.placements.filter (fun p => p.window ∈ r.tiles.map (·.window))).length ≤ 4) ∧
    (∀ p ∈ result.placements, some p.window ≠ skip) ∧
    fill gap skip max result.regions = ⟨1, [], result.regions⟩ := by
  obtain ⟨max, rfl⟩ := Nat.exists_eq_add_of_le' hmax
  have hsettles := fun r hr => @fillRegion_settles gap skip r hg (hfit r hr)
  obtain ⟨rounds, hrounds, hfill⟩ :=
    fill_of_idle_next hne (fun r hr => (hsettles r hr).2.2) max
  -- Regions are apart, so each of them sees what a single round places in it and no more.
  have hplaced : ∀ r ∈ rs, r.placeAll (rs.flatMap (fillRegion gap skip)) =
      r.placeAll (fillRegion gap skip r) := fun r hr =>
    @placeAll_flatMap _ id _ _ (fun s _ => accepts_fillRegion gap skip s) hapart _ hr
  have hafter : ∀ r ∈ rs, ∀ t ∈ r.tiles, t.after (rs.flatMap (fillRegion gap skip)) =
      t.after (fillRegion gap skip r) := by
    intro r hr
    have htiles := congrArg Region.tiles (hplaced r hr)
    rwa [Region.tiles_placeAll, Region.tiles_placeAll, List.map_inj_left] at htiles
  rw [hfill]
  refine ⟨hrounds, ?_, ?_, ?_, ?_, ?_⟩
  · exact List.map_congr_left fun r hr => (hplaced r hr).symm
  · intro r hr t ht
    rw [hafter r hr t ht]
    exact (hsettles r hr).2.1 t ht
  · intro r hr
    rw [filter_flatMap_fillRegion hapart hr]
    exact (hsettles r hr).1
  · intro p hp
    obtain ⟨r, -, hpr⟩ := List.mem_flatMap.1 hp
    obtain ⟨t, -, o, -, hskip, rfl⟩ := mem_fillRegion hpr
    exact hskip.symm
  · refine fill_of_idle (by simpa using hne) ?_ (max + 1)
    exact List.forall_mem_map.2 fun r hr => (hsettles r hr).2.2

/-- Two regions with room left over: one with decorated windows and one that is listed twice, and
one with a single bare window. -/
def roomLeft : List Region :=
  [⟨⟨0, 0, 1000, 800⟩,
      [⟨⟨0⟩, ⟨2, 26, 2, 2⟩, ⟨100, 100, 300, 200⟩⟩, ⟨⟨1⟩, ⟨2, 26, 2, 2⟩, ⟨104, 340, 400, 300⟩⟩,
        ⟨⟨2⟩, {}, ⟨120, 200, 450, 50⟩⟩, ⟨⟨1⟩, ⟨2, 26, 2, 2⟩, ⟨104, 340, 400, 300⟩⟩]⟩,
    ⟨⟨1000, 0, 500, 500⟩, [⟨⟨3⟩, {}, ⟨1100, 100, 200, 200⟩⟩]⟩]

/-- The second round finds nothing to do beside the window that is left alone, although that one
alone keeps the room on the right. -/
theorem fill_settles_roomLeft :
    let result := fill 10 (some ⟨2⟩) 10 roomLeft
    (result.placements.map (·.window) = [⟨0⟩, ⟨1⟩, ⟨3⟩] ∧ result.rounds ≤ 2) ∧
      fill 10 (some ⟨2⟩) 10 result.regions = ⟨1, [], result.regions⟩ := by
  have hapart : roomLeft.Pairwise Region.Apart := by decide
  have hfit : ∀ r ∈ roomLeft, AllFit r.usable r.tiles := by decide
  obtain ⟨hrounds, -, -, -, -, hagain⟩ := fill_settles (by decide : (0 : Int) ≤ 10) (some ⟨2⟩)
    (by decide : 2 ≤ 10) (List.cons_ne_nil _ _) hapart hfit
  exact ⟨⟨by decide, hrounds⟩, hagain⟩

end WindowTiling
