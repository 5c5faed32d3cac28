import WindowTiling.Proofs.Boxes
import WindowTiling.Proofs.Placing

/-!
# Regions are filled independently

The rounds of the filler go over all regions together and share one bound. All the same each region
ends as if it had been filled alone: a round places only windows of the regions it goes over, and
for a region in which a round has placed nothing the further rounds make no difference.

Main facts: `placeAll_fill` (what the placements of all regions do to one of them),
`Region.accepts_fillPlacements` (what filling places lies in the usable area) and `fill_skip` (the
window to be left alone is not placed).
-/

namespace WindowTiling

/-! ## One region on its own -/

namespace Filling

/-- What so many rounds place in a region, whatever other regions there are. -/
def run (gap : Int) (skip : Option WindowRef) : Nat → Filling → List Placement
  | 0, _ => []
  | n + 1, f => f.placements gap skip ++ run gap skip n (f.next gap skip)

variable {gap : Int} {skip : Option WindowRef}

theorem placements_of_settled {f : Filling} (h : f.settled = true) :
    f.placements gap skip = [] := by simp [placements, h]

theorem next_of_settled {f : Filling} (h : f.settled = true) : f.next gap skip = f := by
  obtain ⟨region, settled⟩ := f
  subst h
  simp [next, placements, Region.placeAll, placeAll]

theorem run_of_settled {f : Filling} (h : f.settled = true) (n : Nat) : f.run gap skip n = [] := by
  induction n with
  | zero => rfl
  | succ n ih => rw [run, placements_of_settled h, next_of_settled h, ih, List.append_nil]

end Filling

/-- What filling a region alone for so many rounds places. -/
def Region.fillPlacements (gap : Int) (skip : Option WindowRef) (rounds : Nat) (r : Region) :
    List Placement :=
  Filling.run gap skip rounds { region := r }

/-- A region after filling it alone for so many rounds. -/
def Region.filled (gap : Int) (skip : Option WindowRef) (rounds : Nat) (r : Region) : Region :=
  r.placeAll (r.fillPlacements gap skip rounds)

/-! ## Whose windows are placed -/

/-- No window is on both regions. -/
def Region.Apart (r s : Region) : Prop := ∀ t ∈ r.tiles, ∀ u ∈ s.tiles, t.window ≠ u.window

theorem Region.Apart.symm {r s : Region} (h : r.Apart s) : s.Apart r :=
  fun t ht u hu => (h u hu t ht).symm

/-- Every placement names a window of the region and gives it a proper box inside the usable
area. -/
def Region.Accepts (r : Region) (ps : List Placement) : Prop :=
  ∀ p ∈ ps, p.window ∈ r.tiles.map (·.window) ∧ p.box.Nonneg ∧
    (r.usable.Nonneg → p.box.Within r.usable)

theorem Region.accepts_nil (r : Region) : r.Accepts [] := fun _ hp => absurd hp List.not_mem_nil

theorem Region.accepts_append {r : Region} {ps qs : List Placement} :
    r.Accepts (ps ++ qs) ↔ r.Accepts ps ∧ r.Accepts qs := by
  simp only [Accepts, List.forall_mem_append]

theorem Region.accepts_cons {r : Region} {t : Tile} (ht : t.window ∈ r.tiles.map (·.window))
    (full : Box) {ps : List Placement} (h : r.Accepts ps) :
    r.Accepts (⟨t.window, t.contentOf full r.usable⟩ :: ps) :=
  List.forall_mem_cons.2
    ⟨⟨ht, t.nonneg_contentOf full r.usable, fun hu => t.contentOf_within full hu⟩, h⟩

theorem Region.accepts_congr {r r' : Region} (hw : r'.tiles.map (·.window) =
    r.tiles.map (·.window)) (hu : r'.usable = r.usable) {ps : List Placement} :
    r'.Accepts ps ↔ r.Accepts ps := by
  simp only [Accepts, hw, hu]

theorem Region.placeAll_of_apart {r s : Region} (h : r.Apart s) {ps : List Placement}
    (hp : s.Accepts ps) : r.placeAll ps = r := by
  have hsame : WindowTiling.placeAll r.tiles ps = r.tiles := by
    refine placeAll_of_forall_ne fun t ht p hps heq => ?_
    obtain ⟨u, hu, huw⟩ := List.mem_map.1 (hp p hps).1
    exact h t ht u hu (heq.symm.trans huw.symm)
  rw [Region.placeAll, hsame]

theorem Region.placeAll_append (r : Region) (ps qs : List Placement) :
    r.placeAll (ps ++ qs) = (r.placeAll ps).placeAll qs := by
  simp only [Region.placeAll, WindowTiling.placeAll_append]

theorem Region.map_window_placeAll (r : Region) (ps : List Placement) :
    (r.placeAll ps).tiles.map (·.window) = r.tiles.map (·.window) :=
  map_window_placeAll_eq r.tiles ps

theorem Region.apart_congr {r s r' s' : Region} (hr : r'.tiles.map (·.window) =
    r.tiles.map (·.window)) (hs : s'.tiles.map (·.window) = s.tiles.map (·.window))
    (h : r.Apart s) : r'.Apart s' := by
  intro t ht u hu heq
  have htr : t.window ∈ r.tiles.map (·.window) := hr ▸ List.mem_map_of_mem ht
  have hus : u.window ∈ s.tiles.map (·.window) := hs ▸ List.mem_map_of_mem hu
  obtain ⟨t', ht', htw⟩ := List.mem_map.1 htr
  obtain ⟨u', hu', huw⟩ := List.mem_map.1 hus
  exact h t' ht' u' hu' (htw.trans (heq.trans huw.symm))

theorem accepts_fillFrom {gap : Int} {skip : Option WindowRef} {r : Region} {occupied : Box}
    {ts : List Tile} (hts : ∀ t ∈ ts, t.window ∈ r.tiles.map (·.window)) :
    r.Accepts (fillFrom gap skip r.usable occupied ts) := by
  induction ts generalizing occupied with
  | nil => exact r.accepts_nil
  | cons t ts ih =>
    obtain ⟨ht, hts⟩ := List.forall_mem_cons.1 hts
    simp only [fillFrom]
    split
    · exact ih hts
    · split
      · exact ih hts
      · exact Region.accepts_cons ht _ (ih hts)

theorem accepts_fillRegion (gap : Int) (skip : Option WindowRef) (r : Region) :
    r.Accepts (fillRegion gap skip r) := by
  simp only [fillRegion]
  split
  · exact r.accepts_nil
  · split
    · exact r.accepts_nil
    · exact accepts_fillFrom fun t ht => List.mem_map_of_mem ht

theorem accepts_placements (gap : Int) (skip : Option WindowRef) (f : Filling) :
    f.region.Accepts (f.placements gap skip) := by
  simp only [Filling.placements]
  split
  · exact f.region.accepts_nil
  · exact accepts_fillRegion gap skip f.region

theorem map_window_next (gap : Int) (skip : Option WindowRef) (f : Filling) :
    (f.next gap skip).region.tiles.map (·.window) = f.region.tiles.map (·.window) :=
  Region.map_window_placeAll _ _

theorem accepts_run (gap : Int) (skip : Option WindowRef) (n : Nat) (f : Filling) :
    f.region.Accepts (f.run gap skip n) := by
  induction n generalizing f with
  | zero => exact f.region.accepts_nil
  | succ n ih =>
    refine Region.accepts_append.2 ⟨accepts_placements gap skip f, ?_⟩
    exact (Region.accepts_congr (map_window_next gap skip f) rfl).1 (ih (f.next gap skip))

theorem Region.accepts_fillPlacements (gap : Int) (skip : Option WindowRef) (rounds : Nat)
    (r : Region) : r.Accepts (r.fillPlacements gap skip rounds) :=
  accepts_run gap skip rounds { region := r }

/-! ## All regions together -/

section Regions

variable {α : Type} {region : α → Region} {g : α → List Placement}

theorem placeAll_flatMap_of_apart {r : Region} {l : List α}
    (hg : ∀ a ∈ l, (region a).Accepts (g a)) (hl : ∀ a ∈ l, r.Apart (region a)) :
    r.placeAll (l.flatMap g) = r := by
  induction l with
  | nil => rfl
  | cons a l ih =>
    obtain ⟨ha, hl⟩ := List.forall_mem_cons.1 hl
    obtain ⟨hga, hg⟩ := List.forall_mem_cons.1 hg
    rw [List.flatMap_cons, Region.placeAll_append, Region.placeAll_of_apart ha hga, ih hg hl]

/-- Of placements made for regions that are apart, those of a region itself are what it sees. -/
theorem placeAll_flatMap {l : List α} (hg : ∀ a ∈ l, (region a).Accepts (g a))
    (hl : l.Pairwise fun a b => (region a).Apart (region b)) {a : α} (ha : a ∈ l) :
    (region a).placeAll (l.flatMap g) = (region a).placeAll (g a) := by
  induction l with
  | nil => exact absurd ha List.not_mem_nil
  | cons b l ih =>
    obtain ⟨hb, hl⟩ := List.pairwise_cons.1 hl
    obtain ⟨hgb, hgl⟩ := List.forall_mem_cons.1 hg
    rw [List.flatMap_cons, Region.placeAll_append]
    rcases List.mem_cons.1 ha with rfl | ha
    · refine placeAll_flatMap_of_apart hgl fun c hc => ?_
      exact Region.apart_congr (Region.map_window_placeAll _ _) rfl (hb c hc)
    · rw [Region.placeAll_of_apart (hb a ha).symm hgb]
      exact ih hgl hl ha

end Regions

theorem placeAll_fillRounds (gap : Int) (skip : Option WindowRef) (max : Nat)
    {fs : List Filling} (hfs : fs.Pairwise fun f g => f.region.Apart g.region) {f : Filling}
    (hf : f ∈ fs) : f.region.placeAll (fillRounds gap skip max fs).placements =
      f.region.placeAll (f.run gap skip max) := by
  induction max generalizing fs f with
  | zero => rfl
  | succ max ih =>
    simp only [fillRounds]
    split
    · next hall =>
      rw [Filling.run_of_settled (List.all_eq_true.1 hall f hf)]
    · have hnext : (fs.map (Filling.next gap skip)).Pairwise fun f g =>
          f.region.Apart g.region := by
        refine List.pairwise_map.2 (hfs.imp fun h => ?_)
        exact Region.apart_congr (map_window_next gap skip _) (map_window_next gap skip _) h
      rw [Region.placeAll_append,
        placeAll_flatMap (fun f _ => accepts_placements gap skip f) hfs hf, Filling.run,
        Region.placeAll_append]
      exact ih hnext (List.mem_map_of_mem hf)

/-- **Regions are filled independently.** What filling regions that are apart places leaves each of
them as if it had been filled alone. -/
theorem placeAll_fill (gap : Int) (skip : Option WindowRef) (max : Nat) {rs : List Region}
    (hrs : rs.Pairwise Region.Apart) {r : Region} (hr : r ∈ rs) :
    r.placeAll (fill gap skip max rs).placements = r.filled gap skip max := by
  have hfs : (rs.map fun r => ({ region := r } : Filling)).Pairwise fun f g =>
      f.region.Apart g.region := List.pairwise_map.2 hrs
  exact placeAll_fillRounds gap skip max hfs (List.mem_map_of_mem hr)

/-! ## What holds of every placement -/

section Every

variable {gap : Int} {skip : Option WindowRef} {P : Placement → Prop}

/-- What holds of the placements of every single round holds of those of all rounds. -/
theorem Filling.forall_mem_run (h : ∀ f : Filling, ∀ p ∈ f.placements gap skip, P p) (n : Nat)
    (f : Filling) : ∀ p ∈ f.run gap skip n, P p := by
  induction n generalizing f with
  | zero => exact fun p hp => absurd hp List.not_mem_nil
  | succ n ih => exact List.forall_mem_append.2 ⟨h f, ih _⟩

theorem forall_mem_fillRounds (h : ∀ f : Filling, ∀ p ∈ f.placements gap skip, P p) (max : Nat)
    (fs : List Filling) : ∀ p ∈ (fillRounds gap skip max fs).placements, P p := by
  induction max generalizing fs with
  | zero => exact fun p hp => absurd hp List.not_mem_nil
  | succ max ih =>
    simp only [fillRounds]
    split
    · exact fun p hp => absurd hp List.not_mem_nil
    · refine List.forall_mem_append.2 ⟨fun p hp => ?_, ih _⟩
      obtain ⟨f, -, hpf⟩ := List.mem_flatMap.1 hp
      exact h f p hpf

end Every

theorem Filling.placements_skip {gap : Int} {w : WindowRef} (f : Filling) :
    ∀ p ∈ f.placements gap (some w), p.window ≠ w := by
  intro p hp
  simp only [Filling.placements, fillRegion] at hp
  split at hp
  · exact absurd hp List.not_mem_nil
  · split at hp
    · exact absurd hp List.not_mem_nil
    · split at hp
      · exact absurd hp List.not_mem_nil
      · exact fillFrom_skip hp

theorem Region.fillPlacements_skip {gap : Int} {w : WindowRef} {rounds : Nat} {r : Region} :
    ∀ p ∈ r.fillPlacements gap (some w) rounds, p.window ≠ w :=
  Filling.forall_mem_run Filling.placements_skip rounds _

theorem fill_skip {gap : Int} {w : WindowRef} {max : Nat} {rs : List Region} :
    ∀ p ∈ (fill gap (some w) max rs).placements, p.window ≠ w :=
  forall_mem_fillRounds Filling.placements_skip max _

end WindowTiling
