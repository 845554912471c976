import Mathlib
import IntegrationFlow.Layout.Positions
import IntegrationFlow.Proofs.Layout.Segment

/-!
# Routes and shapes

Which shapes a route meets. The parts of a route that run in the gaps between columns meet none. A
route that is moved aside is moved upwards too: there it can run through a shape of the row above
the row of its target, and it can rise into a shape above its source. Nothing else happens, and
neither does this happen to a route that is not moved, or if rows leave enough room.
-/

namespace IntegrationFlow.Layout

variable {c : LayoutConfig ℚ}

/-! ### Measures -/

namespace LayoutConfig

/-- Measures with room for the largest shape in a cell, and for three connectors beside each other
in the gap between columns. -/
structure Roomy (c : LayoutConfig ℚ) : Prop where
  column_lt : 100 < c.columnWidth
  row_lt : 60 < c.rowHeight
  gap_nonneg : 0 ≤ c.laneGap
  offset_pos : 0 < c.parallelOffset
  offset_lt : 4 * c.parallelOffset < c.columnWidth - 100

lemma halfGap_eq (c : LayoutConfig ℚ) : c.halfGap = (c.columnWidth - 100) / 2 := rfl

/-- Exact measures are accepted exactly if there is room. -/
lemma fault?_eq_none_iff : c.fault? = none ↔ c.Roomy := by
  have hfinite : (c.fields.find? fun f => !Coordinate.isFinite f.2) = none :=
    List.find?_eq_none.mpr fun f _ => by simp [Coordinate.isFinite]
  have hlimit : half c.halfGap = (c.columnWidth - 100) / 4 := by
    rw [half_eq, halfGap_eq]
    ring
  simp only [fault?, hfinite, hlimit]
  split_ifs with hcolumn hrow hgaps hoffset
  · exact iff_of_false (by simp) fun h => absurd hcolumn (not_le.mpr h.column_lt)
  · exact iff_of_false (by simp) fun h => absurd hrow (not_le.mpr h.row_lt)
  · refine iff_of_false (by simp) fun h => ?_
    exact hgaps.elim (not_lt.mpr h.gap_nonneg) (not_le.mpr h.offset_pos)
  · refine iff_of_false (by simp) fun h => ?_
    have hoffset : (c.columnWidth - 100) / 4 ≤ c.parallelOffset := hoffset
    linarith [h.offset_lt]
  · obtain ⟨hgap, hpos⟩ := not_or.mp hgaps
    have hlt : c.parallelOffset < (c.columnWidth - 100) / 4 := not_le.mp hoffset
    exact iff_of_true rfl ⟨not_le.mp hcolumn, not_le.mp hrow, not_lt.mp hgap, not_le.mp hpos,
      by linarith⟩

lemma columnX_eq (c : LayoutConfig ℚ) (rank : Nat) :
    c.columnX rank = c.originX + rank * c.columnWidth := rfl

lemma gapBefore_eq (c : LayoutConfig ℚ) (rank : Nat) :
    c.gapBefore rank = c.columnX rank - (c.columnWidth - 100) / 2 := rfl

lemma gapAfter_eq (c : LayoutConfig ℚ) (rank : Nat) : c.gapAfter rank = c.gapBefore (rank + 1) :=
  rfl

lemma columnX_succ (c : LayoutConfig ℚ) (rank : Nat) :
    c.columnX (rank + 1) = c.columnX rank + c.columnWidth := by
  rw [columnX_eq, columnX_eq]
  push_cast
  ring

lemma Roomy.columnX_mono (hc : c.Roomy) {rank rank' : Nat} (h : rank ≤ rank') :
    c.columnX rank ≤ c.columnX rank' := by
  have hcast : (rank : ℚ) ≤ rank' := Nat.cast_le.mpr h
  have := mul_le_mul_of_nonneg_right hcast (by linarith [hc.column_lt] : 0 ≤ c.columnWidth)
  rw [columnX_eq, columnX_eq]
  linarith

/-- The third connector between two nodes still runs in the gap between columns. -/
lemma Roomy.shift_bounds (hc : c.Roomy) {index : Nat} (h : index ≤ 2) :
    0 ≤ index * c.parallelOffset ∧ index * c.parallelOffset < (c.columnWidth - 100) / 2 := by
  have hcast : (index : ℚ) ≤ 2 := by exact_mod_cast h
  have hle := mul_le_mul_of_nonneg_right hcast hc.offset_pos.le
  exact ⟨mul_nonneg (Nat.cast_nonneg index) hc.offset_pos.le, by linarith [hc.offset_lt]⟩

end LayoutConfig

/-! ### Positions in the grid -/

namespace NodePosition

/-- The cell that a node stands in. -/
def cell (p : NodePosition ℚ) : Cell := ⟨p.rank, p.row, p.lane⟩

/-- The upper border of the row of a node. -/
def top (c : LayoutConfig ℚ) (rows : Nat) (p : NodePosition ℚ) : ℚ :=
  laneTop c rows p.lane + p.row * c.rowHeight

/-- The end of an edge at a node. -/
def toAnchor (c : LayoutConfig ℚ) (rows : Nat) (p : NodePosition ℚ) : Anchor ℚ :=
  ⟨p.bounds, p.rank, p.row, laneTop c rows p.lane⟩

/-- A shape of at most the largest size stands at the left border of its column and in the middle
of its row. -/
structure Fits (c : LayoutConfig ℚ) (rows : Nat) (p : NodePosition ℚ) : Prop where
  x_eq : p.bounds.x = c.columnX p.rank
  y_eq : p.bounds.y = p.top c rows + (c.rowHeight - p.bounds.height) / 2
  width_pos : 0 < p.bounds.width
  width_le : p.bounds.width ≤ 100
  height_pos : 0 < p.bounds.height
  height_le : p.bounds.height ≤ 60
  row_lt : p.lane = .main → p.row < rows

end NodePosition

lemma fits_cellPosition {rows : Nat} {cell : Cell} (hrow : cell.lane = .main → cell.row < rows)
    (target : TargetType) : (cellPosition c rows cell target).Fits c rows := by
  have hsize : (0 < target.shape.size.1 ∧ target.shape.size.1 ≤ 100) ∧
      0 < target.shape.size.2 ∧ target.shape.size.2 ≤ 60 := by
    cases target.shape <;> decide
  obtain ⟨⟨hwidth, hwidth'⟩, hheight, hheight'⟩ := hsize
  exact ⟨rfl, rfl, Nat.cast_pos.mpr hwidth, Nat.cast_le_ofNat.mpr hwidth', Nat.cast_pos.mpr hheight,
    Nat.cast_le_ofNat.mpr hheight', hrow⟩

namespace NodePosition.Fits

variable {rows : Nat} {u v n : NodePosition ℚ}

lemma right_le (hn : n.Fits c rows) (hc : c.Roomy) {rank : Nat} (h : n.rank < rank) :
    n.bounds.right ≤ c.columnX rank - (c.columnWidth - 100) := by
  have hnext := hc.columnX_mono (Nat.succ_le_of_lt h)
  rw [Nat.succ_eq_add_one, c.columnX_succ] at hnext
  rw [Bounds.right_eq, hn.x_eq]
  linarith [hn.width_le]

/-- A vertical line in the gap before a column has each shape on one side. -/
lemma beside_gap (hn : n.Fits c rows) (hc : c.Roomy) {rank : Nat} {x : ℚ}
    (hlow : c.columnX rank - (c.columnWidth - 100) ≤ x) (hhigh : x ≤ c.columnX rank) :
    n.rank < rank ∧ n.bounds.right ≤ x ∨ rank ≤ n.rank ∧ x ≤ n.bounds.x := by
  rcases lt_or_ge n.rank rank with h | h
  · exact Or.inl ⟨h, (hn.right_le hc h).trans hlow⟩
  · exact Or.inr ⟨h, hhigh.trans (hn.x_eq ▸ hc.columnX_mono h)⟩

lemma rightMid_y (hu : u.Fits c rows) :
    u.bounds.rightMid.y = u.top c rows + c.rowHeight / 2 := by
  have h : u.bounds.rightMid.y = u.bounds.y + u.bounds.height / 2 := rfl
  rw [h, hu.y_eq]
  ring

lemma le_y (hn : n.Fits c rows) : n.top c rows + (c.rowHeight - 60) / 2 ≤ n.bounds.y := by
  linarith [hn.y_eq, hn.height_le]

lemma bottom_le (hn : n.Fits c rows) :
    n.bounds.bottom ≤ n.top c rows + c.rowHeight - (c.rowHeight - 60) / 2 := by
  rw [Bounds.bottom_eq]
  linarith [hn.y_eq, hn.height_le]

/-- Two nodes stand in the same row, or one in a row below the other. -/
lemma top_cases (hu : u.Fits c rows) (hn : n.Fits c rows) (hc : c.Roomy) :
    (n.row = u.row ∧ n.lane = u.lane) ∨ u.top c rows + c.rowHeight ≤ n.top c rows ∨
      n.top c rows + c.rowHeight ≤ u.top c rows := by
  have hheight : 0 < c.rowHeight := by linarith [hc.row_lt]
  have hbelow : ∀ {i j : ℕ}, i < j → i * c.rowHeight + c.rowHeight ≤ j * c.rowHeight := by
    intro i j hij
    have hcast : (i : ℚ) + 1 ≤ j := by exact_mod_cast hij
    linarith [mul_le_mul_of_nonneg_right hcast hheight.le]
  -- The main lane ends above the auxiliary lane.
  have hlanes : ∀ {p q : NodePosition ℚ}, p.Fits c rows → p.lane = .main → q.lane = .auxiliary →
      p.top c rows + c.rowHeight ≤ q.top c rows := by
    intro p q hp hmain haux
    have hrows := hbelow (hp.row_lt hmain)
    have hrow : 0 ≤ q.row * c.rowHeight := by positivity
    have hp' : p.top c rows = c.originY + p.row * c.rowHeight := by rw [top, hmain]; rfl
    have hq' : q.top c rows = c.originY + rows * c.rowHeight + c.laneGap + q.row * c.rowHeight := by
      rw [top, haux]; rfl
    linarith [hc.gap_nonneg]
  by_cases hlane : n.lane = u.lane
  · rcases lt_trichotomy n.row u.row with h | h | h
    · have := hbelow h
      exact Or.inr (Or.inr (by rw [top, top, hlane]; linarith))
    · exact Or.inl ⟨h, hlane⟩
    · have := hbelow h
      exact Or.inr (Or.inl (by rw [top, top, hlane]; linarith))
  · cases hl : u.lane <;> cases hl' : n.lane
    · exact absurd (hl'.trans hl.symm) hlane
    · exact Or.inr (Or.inl (hlanes hu hl hl'))
    · exact Or.inr (Or.inr (hlanes hn hl' hl))
    · exact absurd (hl'.trans hl.symm) hlane

/-- In the column of a node, every other shape is well above or well below its middle. -/
lemma column_cases (hu : u.Fits c rows) (hn : n.Fits c rows) (hc : c.Roomy)
    (hcell : n.cell = u.cell → n = u) (hrank : n.rank = u.rank) :
    n = u ∨ u.bounds.rightMid.y ≤ n.bounds.y ∨
      n.bounds.bottom + (c.rowHeight - 30) ≤ u.bounds.rightMid.y := by
  rw [hu.rightMid_y]
  rcases hu.top_cases hn hc with ⟨hrow, hlane⟩ | h | h
  · exact Or.inl (hcell (by rw [cell, cell, hrank, hrow, hlane]))
  · exact Or.inr (Or.inl (by linarith [hn.le_y, hc.row_lt]))
  · exact Or.inr (Or.inr (by linarith [hn.bottom_le]))

end NodePosition.Fits

/-! ### The points of routes -/

section Points

variable {rows : Nat} {u v : NodePosition ℚ}

/-- A route with bends keeps them, moved aside by its number. -/
lemma route_of_bends {source target : Anchor ℚ} {points : List (Point ℚ)}
    (hbends : bends c source target = points) (hne : points ≠ []) (index : Nat) :
    route c source target index = source.bounds.rightMid ::
      points.map (fun p => ⟨p.x + index * c.parallelOffset, p.y - index * c.parallelOffset⟩) ++
      [target.bounds.leftMid] := by
  obtain ⟨p, points, rfl⟩ := List.exists_cons_of_ne_nil hne
  by_cases hindex : index = 0
  · subst hindex
    simp only [route, hbends, Nat.cast_zero, zero_mul, add_zero, sub_zero, List.map_id', if_true]
  · simp only [route, if_neg hindex, shiftedBends, hbends]
    rfl

/-- A route that does not lead to the next column runs along the upper border of the row of its
target. -/
lemma route_around (hrank : v.rank ≠ u.rank + 1) (index : Nat) {shift : ℚ}
    (hshift : shift = index * c.parallelOffset) :
    route c (u.toAnchor c rows) (v.toAnchor c rows) index =
      [u.bounds.rightMid,
        ⟨c.gapAfter u.rank + shift, u.bounds.rightMid.y - shift⟩,
        ⟨c.gapAfter u.rank + shift, v.top c rows - shift⟩,
        ⟨c.gapBefore v.rank + shift, v.top c rows - shift⟩,
        ⟨c.gapBefore v.rank + shift, v.bounds.leftMid.y - shift⟩,
        v.bounds.leftMid] := by
  have hbends : bends c (u.toAnchor c rows) (v.toAnchor c rows) =
      [⟨c.gapAfter u.rank, u.bounds.rightMid.y⟩, ⟨c.gapAfter u.rank, v.top c rows⟩,
        ⟨c.gapBefore v.rank, v.top c rows⟩, ⟨c.gapBefore v.rank, v.bounds.leftMid.y⟩] :=
    if_neg hrank
  rw [route_of_bends hbends (by simp), hshift]
  rfl

/-- A route to the next column, at another height, goes up or down in the gap between them. -/
lemma route_step (hrank : v.rank = u.rank + 1)
    (hlevel : u.bounds.rightMid.y ≠ v.bounds.leftMid.y) (index : Nat) {shift : ℚ}
    (hshift : shift = index * c.parallelOffset) :
    route c (u.toAnchor c rows) (v.toAnchor c rows) index =
      [u.bounds.rightMid,
        ⟨c.gapAfter u.rank + shift, u.bounds.rightMid.y - shift⟩,
        ⟨c.gapAfter u.rank + shift, v.bounds.leftMid.y - shift⟩,
        v.bounds.leftMid] := by
  have hbends : bends c (u.toAnchor c rows) (v.toAnchor c rows) =
      [⟨c.gapAfter u.rank, u.bounds.rightMid.y⟩, ⟨c.gapAfter u.rank, v.bounds.leftMid.y⟩] :=
    (if_pos hrank).trans (if_neg fun h => hlevel (beq_iff_eq.mp h))
  rw [route_of_bends hbends (by simp), hshift]
  rfl

/-- A route to the next column at the same height is straight, or bulges upwards. -/
lemma route_straight (hrank : v.rank = u.rank + 1)
    (hlevel : u.bounds.rightMid.y = v.bounds.leftMid.y) (index : Nat) {shift inset : ℚ}
    (hshift : shift = index * c.parallelOffset)
    (hinset : inset = (v.bounds.x - u.bounds.right) / 4) :
    route c (u.toAnchor c rows) (v.toAnchor c rows) index =
      if index = 0 then [u.bounds.rightMid, v.bounds.leftMid] else
      [u.bounds.rightMid,
        ⟨u.bounds.right + inset, u.bounds.rightMid.y - shift⟩,
        ⟨v.bounds.x - inset, v.bounds.leftMid.y - shift⟩,
        v.bounds.leftMid] := by
  have hbends : bends c (u.toAnchor c rows) (v.toAnchor c rows) = [] :=
    (if_pos hrank).trans (if_pos (beq_iff_eq.mpr hlevel))
  subst hshift hinset
  split_ifs with hindex
  · simp only [route, if_pos hindex, hbends]
    rfl
  · simp only [route, if_neg hindex, shiftedBends, hbends]
    rfl

end Points

/-! ### Crossings -/

/-- A route that does not lead to the next column passes a shape on its way sideways, and there it
is at the height of the shape. -/
def RunsThrough (c : LayoutConfig ℚ) (rows : Nat) (u v n : NodePosition ℚ) (shift : ℚ) : Prop :=
  v.rank ≠ u.rank + 1 ∧
    (u.rank < n.rank ∧ n.rank < v.rank ∨ v.rank ≤ n.rank ∧ n.rank ≤ u.rank) ∧
    n.bounds.y < v.top c rows - shift ∧ v.top c rows - shift < n.bounds.bottom

/-- How far a route goes to the right before its first bend. -/
def reach (c : LayoutConfig ℚ) (u v : NodePosition ℚ) (shift : ℚ) : ℚ :=
  if v.rank = u.rank + 1 ∧ u.bounds.rightMid.y = v.bounds.leftMid.y then
    (v.bounds.x - u.bounds.right) / 4
  else c.gapAfter u.rank + shift - u.bounds.right

/-- A route that rises by `rise` on the first `run` of its way reaches the lower side of a wider
shape above its source. -/
def RisesInto (u n : NodePosition ℚ) (run rise : ℚ) : Prop :=
  n.rank = u.rank ∧ n.bounds.bottom ≤ u.bounds.rightMid.y ∧
    (u.bounds.rightMid.y - n.bounds.bottom) * run <
      rise * min run (n.bounds.right - u.bounds.right)

section Crossings

variable {rows : Nat} {u v n : NodePosition ℚ} {shift : ℚ}

/-- A segment stays out of every shape if both its ends are in the gap before one column. -/
lemma not_hit_in_gap (hn : n.Fits c rows) (hc : c.Roomy) {rank : Nat} {x y x' y' : ℚ}
    (hx : c.gapBefore rank ≤ x ∧ x ≤ c.columnX rank)
    (hx' : c.gapBefore rank ≤ x' ∧ x' ≤ c.columnX rank) : ¬ n.bounds.Hit ⟨x, y⟩ ⟨x', y'⟩ := by
  rw [c.gapBefore_eq] at hx hx'
  have hgap := hc.column_lt
  apply Bounds.Beside.not_hit
  rcases hn.beside_gap hc (by linarith [hx.1]) hx.2 with ⟨hrank, hright⟩ | ⟨hrank, hleft⟩
  · refine Or.inr (Or.inl ⟨hright, ?_⟩)
    exact (hn.right_le hc hrank).trans (by linarith [hx'.1])
  · exact Or.inl ⟨hleft, hx'.2.trans (hn.x_eq ▸ hc.columnX_mono hrank)⟩

/-- What is met between a node and the next column, not below the middle of the node, stands above
the node. -/
lemma above_of_hit (hu : u.Fits c rows) (hn : n.Fits c rows) (hc : c.Roomy)
    (hcell : n.cell = u.cell → n = u) {p q : Point ℚ}
    (hp : u.bounds.right ≤ p.x ∧ p.x ≤ c.columnX (u.rank + 1)) (hpy : p.y ≤ u.bounds.rightMid.y)
    (hq : u.bounds.right ≤ q.x ∧ q.x ≤ c.columnX (u.rank + 1)) (hqy : q.y ≤ u.bounds.rightMid.y)
    (h : n.bounds.Hit p q) :
    n.rank = u.rank ∧ n.bounds.bottom + (c.rowHeight - 30) ≤ u.bounds.rightMid.y := by
  rcases lt_trichotomy n.rank u.rank with hrank | hrank | hrank
  · have hright : n.bounds.right ≤ u.bounds.right := by
      linarith [hn.right_le hc hrank, hu.x_eq, hc.column_lt, u.bounds.right_eq, hu.width_pos]
    exact absurd h (Bounds.Beside.not_hit
      (Or.inr (Or.inl ⟨hright.trans hp.1, hright.trans hq.1⟩)))
  · refine ⟨hrank, ?_⟩
    rcases hu.column_cases hn hc hcell hrank with rfl | hbelow | habove
    · exact absurd h (Bounds.Beside.not_hit (Or.inr (Or.inl ⟨hp.1, hq.1⟩)))
    · exact absurd h (Bounds.Beside.not_hit
        (Or.inr (Or.inr (Or.inl ⟨hpy.trans hbelow, hqy.trans hbelow⟩))))
    · exact habove
  · have hnext : c.columnX (u.rank + 1) ≤ n.bounds.x := hn.x_eq ▸ hc.columnX_mono hrank
    exact absurd h (Bounds.Beside.not_hit (Or.inl ⟨hp.2.trans hnext, hq.2.trans hnext⟩))

/-- The first segment of a route meets the shapes that it rises into. -/
lemma hit_first_iff (hu : u.Fits c rows) (hn : n.Fits c rows) (hc : c.Roomy)
    (hcell : n.cell = u.cell → n = u) {run rise : ℚ} (hrun : 0 < run) (hrise : 0 ≤ rise)
    (hend : u.bounds.right + run ≤ c.columnX (u.rank + 1)) :
    n.bounds.Hit u.bounds.rightMid ⟨u.bounds.right + run, u.bounds.rightMid.y - rise⟩ ↔
      RisesInto u n run rise := by
  have hiff : n.rank = u.rank → n.bounds.bottom ≤ u.bounds.rightMid.y →
      (n.bounds.Hit u.bounds.rightMid ⟨u.bounds.right + run, u.bounds.rightMid.y - rise⟩ ↔
        (u.bounds.rightMid.y - n.bounds.bottom) * run <
          rise * min run (n.bounds.right - u.bounds.right)) := by
    intro hrank hbottom
    refine Bounds.hit_rise_iff hn.height_pos hrun hrise ?_ hbottom
    change n.bounds.x ≤ u.bounds.right
    rw [hn.x_eq, hrank, ← hu.x_eq, Bounds.right_eq]
    linarith [hu.width_pos]
  constructor
  · intro h
    obtain ⟨hrank, habove⟩ := above_of_hit hu hn hc hcell
      ⟨le_rfl, le_trans (le_add_of_nonneg_right hrun.le) hend⟩ le_rfl
      ⟨le_add_of_nonneg_right hrun.le, hend⟩ (sub_le_self _ hrise) h
    have hbottom : n.bounds.bottom ≤ u.bounds.rightMid.y := by linarith [hc.row_lt]
    exact ⟨hrank, hbottom, (hiff hrank hbottom).mp h⟩
  · rintro ⟨hrank, hbottom, h⟩
    exact (hiff hrank hbottom).mpr h

/-- A later segment, which is no higher than the first one has risen, meets no further shape. -/
lemma risesInto_of_hit (hu : u.Fits c rows) (hn : n.Fits c rows) (hc : c.Roomy)
    (hcell : n.cell = u.cell → n = u) {run rise : ℚ} (hrun : 0 < run) {p q : Point ℚ}
    (hp : u.bounds.right + run ≤ p.x ∧ p.x ≤ c.columnX (u.rank + 1))
    (hpy : u.bounds.rightMid.y - rise ≤ p.y ∧ p.y ≤ u.bounds.rightMid.y)
    (hq : u.bounds.right + run ≤ q.x ∧ q.x ≤ c.columnX (u.rank + 1))
    (hqy : u.bounds.rightMid.y - rise ≤ q.y ∧ q.y ≤ u.bounds.rightMid.y)
    (h : n.bounds.Hit p q) : RisesInto u n run rise := by
  obtain ⟨hrank, habove⟩ := above_of_hit hu hn hc hcell ⟨by linarith [hp.1], hp.2⟩ hpy.2
    ⟨by linarith [hq.1], hq.2⟩ hqy.2 h
  obtain ⟨t, ht, ⟨-, hright⟩, -, hbottom⟩ := h
  have hfar : run < n.bounds.right - u.bounds.right := by
    have := (Bounds.le_toward ht hp.1 hq.1).trans_lt hright
    linarith
  have hhigh : u.bounds.rightMid.y - n.bounds.bottom < rise := by
    have := (Bounds.le_toward ht hpy.1 hqy.1).trans_lt hbottom
    linarith
  refine ⟨hrank, by linarith [hc.row_lt], ?_⟩
  rw [min_eq_left hfar.le]
  exact mul_lt_mul_of_pos_right hhigh hrun

lemma RisesInto.lt_rise {run rise : ℚ} (h : RisesInto u n run rise) (hrun : 0 < run)
    (hrise : 0 ≤ rise) : u.bounds.rightMid.y - n.bounds.bottom < rise := by
  refine lt_of_mul_lt_mul_right (h.2.2.trans_le ?_) hrun.le
  exact mul_le_mul_of_nonneg_left (min_le_left _ _) hrise

lemma RisesInto.rise_pos {run rise : ℚ} (h : RisesInto u n run rise) (hrun : 0 < run)
    (hrise : 0 ≤ rise) : 0 < rise :=
  (sub_nonneg.mpr h.2.1).trans_lt (h.lt_rise hrun hrise)

/-- The sideways part of a route meets the shapes that it passes at their height. -/
lemma hit_sideways_iff (hn : n.Fits c rows) (hc : c.Roomy) (hrank : v.rank ≠ u.rank + 1)
    (hshift : 0 ≤ shift ∧ shift < (c.columnWidth - 100) / 2) :
    n.bounds.Hit ⟨c.gapAfter u.rank + shift, v.top c rows - shift⟩
        ⟨c.gapBefore v.rank + shift, v.top c rows - shift⟩ ↔ RunsThrough c rows u v n shift := by
  have hgap : ∀ rank, n.rank < rank ∧ n.bounds.right ≤ c.gapBefore rank + shift ∨
      rank ≤ n.rank ∧ c.gapBefore rank + shift ≤ n.bounds.x := by
    intro rank
    rw [c.gapBefore_eq]
    exact hn.beside_gap hc (by linarith [hc.column_lt]) (by linarith)
  rw [c.gapAfter_eq]
  rcases hgap (u.rank + 1) with ⟨hout, hx⟩ | ⟨hout, hx⟩ <;>
    rcases hgap v.rank with ⟨hin, hx'⟩ | ⟨hin, hx'⟩
  · refine iff_of_false (Bounds.Beside.not_hit (Or.inr (Or.inl ⟨hx, hx'⟩))) fun h => ?_
    have := h.2.1
    omega
  · rw [Bounds.hit_comm, Bounds.hit_level_iff hn.width_pos hx' hx]
    exact ⟨fun h => ⟨hrank, Or.inr ⟨hin, by omega⟩, h⟩, fun h => h.2.2⟩
  · rw [Bounds.hit_level_iff hn.width_pos hx hx']
    exact ⟨fun h => ⟨hrank, Or.inl ⟨by omega, hin⟩, h⟩, fun h => h.2.2⟩
  · refine iff_of_false (Bounds.Beside.not_hit (Or.inl ⟨hx, hx'⟩)) fun h => ?_
    have := h.2.1
    omega

/-- The first bend of a route comes before the next column. -/
lemma reach_bounds (hu : u.Fits c rows) (hv : v.Fits c rows) (hc : c.Roomy)
    (hshift : 0 ≤ shift ∧ shift < (c.columnWidth - 100) / 2) :
    0 < reach c u v shift ∧ u.bounds.right + reach c u v shift ≤ c.columnX (u.rank + 1) := by
  have hright := hu.right_le hc (Nat.lt_succ_self u.rank)
  rw [Nat.succ_eq_add_one] at hright
  have hgap := hc.column_lt
  unfold reach
  split_ifs with h
  · rw [hv.x_eq, h.1]
    constructor <;> linarith
  · rw [c.gapAfter_eq, c.gapBefore_eq]
    constructor <;> linarith

/-- The first segment of a route with bends. -/
lemma hit_first_bend_iff (hu : u.Fits c rows) (hv : v.Fits c rows) (hn : n.Fits c rows)
    (hc : c.Roomy) (hcell : n.cell = u.cell → n = u)
    (hshift : 0 ≤ shift ∧ shift < (c.columnWidth - 100) / 2)
    (hbend : ¬ (v.rank = u.rank + 1 ∧ u.bounds.rightMid.y = v.bounds.leftMid.y)) :
    n.bounds.Hit u.bounds.rightMid ⟨c.gapAfter u.rank + shift, u.bounds.rightMid.y - shift⟩ ↔
      RisesInto u n (reach c u v shift) shift := by
  obtain ⟨hpos, hend⟩ := reach_bounds hu hv hc hshift
  have hx : c.gapAfter u.rank + shift = u.bounds.right + reach c u v shift := by
    rw [reach, if_neg hbend]
    ring
  rw [hx]
  exact hit_first_iff hu hn hc hcell hpos hshift.1 hend

/-- A moved route is in the gap before a column where the first route is in its middle. -/
lemma gap_bounds (c : LayoutConfig ℚ) (hshift : 0 ≤ shift ∧ shift < (c.columnWidth - 100) / 2)
    (rank : Nat) : c.gapBefore rank ≤ c.gapBefore rank + shift ∧
      c.gapBefore rank + shift ≤ c.columnX rank := by
  rw [c.gapBefore_eq]
  constructor <;> linarith

/-- The last segment of a route with bends meets no shape. -/
lemma not_hit_last (hv : v.Fits c rows) (hn : n.Fits c rows) (hc : c.Roomy)
    (hshift : 0 ≤ shift ∧ shift < (c.columnWidth - 100) / 2) (y : ℚ) :
    ¬ n.bounds.Hit ⟨c.gapBefore v.rank + shift, y⟩ v.bounds.leftMid := by
  refine not_hit_in_gap hn hc (gap_bounds c hshift v.rank) ?_
  rw [hv.x_eq, c.gapBefore_eq]
  constructor <;> linarith [hc.column_lt]

lemma crossed_around_iff (hu : u.Fits c rows) (hv : v.Fits c rows) (hn : n.Fits c rows)
    (hc : c.Roomy) (hcell : n.cell = u.cell → n = u) (hrank : v.rank ≠ u.rank + 1) {index : Nat}
    (hshift : shift = index * c.parallelOffset)
    (hbounds : 0 ≤ shift ∧ shift < (c.columnWidth - 100) / 2) :
    n.bounds.Crossed (route c (u.toAnchor c rows) (v.toAnchor c rows) index) ↔
      RunsThrough c rows u v n shift ∨ RisesInto u n (reach c u v shift) shift := by
  have hout : ¬ n.bounds.Hit ⟨c.gapAfter u.rank + shift, u.bounds.rightMid.y - shift⟩
      ⟨c.gapAfter u.rank + shift, v.top c rows - shift⟩ :=
    not_hit_in_gap hn hc (gap_bounds c hbounds (u.rank + 1)) (gap_bounds c hbounds (u.rank + 1))
  have hinto : ¬ n.bounds.Hit ⟨c.gapBefore v.rank + shift, v.top c rows - shift⟩
      ⟨c.gapBefore v.rank + shift, v.bounds.leftMid.y - shift⟩ :=
    not_hit_in_gap hn hc (gap_bounds c hbounds v.rank) (gap_bounds c hbounds v.rank)
  rw [route_around hrank index hshift]
  simp only [Bounds.Crossed, hout, hinto, not_hit_last hv hn hc hbounds, or_false, false_or]
  rw [hit_first_bend_iff hu hv hn hc hcell hbounds (fun h => hrank h.1),
    hit_sideways_iff hn hc hrank hbounds, or_comm]

lemma crossed_step_iff (hu : u.Fits c rows) (hv : v.Fits c rows) (hn : n.Fits c rows)
    (hc : c.Roomy) (hcell : n.cell = u.cell → n = u) (hrank : v.rank = u.rank + 1)
    (hlevel : u.bounds.rightMid.y ≠ v.bounds.leftMid.y) {index : Nat}
    (hshift : shift = index * c.parallelOffset)
    (hbounds : 0 ≤ shift ∧ shift < (c.columnWidth - 100) / 2) :
    n.bounds.Crossed (route c (u.toAnchor c rows) (v.toAnchor c rows) index) ↔
      RisesInto u n (reach c u v shift) shift := by
  have hgap : c.gapAfter u.rank = c.gapBefore v.rank := by rw [hrank, c.gapAfter_eq]
  have hstep : ¬ n.bounds.Hit ⟨c.gapBefore v.rank + shift, u.bounds.rightMid.y - shift⟩
      ⟨c.gapBefore v.rank + shift, v.bounds.leftMid.y - shift⟩ :=
    not_hit_in_gap hn hc (gap_bounds c hbounds v.rank) (gap_bounds c hbounds v.rank)
  rw [← hit_first_bend_iff hu hv hn hc hcell hbounds (fun h => hlevel h.2),
    route_step hrank hlevel index hshift, hgap]
  simp only [Bounds.Crossed, hstep, not_hit_last hv hn hc hbounds, or_false]

lemma crossed_straight_iff (hu : u.Fits c rows) (hv : v.Fits c rows) (hn : n.Fits c rows)
    (hc : c.Roomy) (hcell : n.cell = u.cell → n = u) (hrank : v.rank = u.rank + 1)
    (hlevel : u.bounds.rightMid.y = v.bounds.leftMid.y) {index : Nat}
    (hshift : shift = index * c.parallelOffset)
    (hbounds : 0 ≤ shift ∧ shift < (c.columnWidth - 100) / 2) :
    n.bounds.Crossed (route c (u.toAnchor c rows) (v.toAnchor c rows) index) ↔
      RisesInto u n (reach c u v shift) shift := by
  obtain ⟨hpos, hend⟩ := reach_bounds hu hv hc hbounds
  have hreach : reach c u v shift = (v.bounds.x - u.bounds.right) / 4 := if_pos ⟨hrank, hlevel⟩
  have hnext : v.bounds.x = c.columnX (u.rank + 1) := hv.x_eq.trans (by rw [hrank])
  rw [route_straight hrank hlevel index hshift hreach]
  split_ifs with hindex
  · -- The first connector is level, and nothing stands on its way.
    have hzero : shift = 0 := by rw [hshift, hindex, Nat.cast_zero, zero_mul]
    have hpoint : v.bounds.leftMid =
        ⟨u.bounds.right + (v.bounds.x - u.bounds.right), u.bounds.rightMid.y - 0⟩ := by
      rw [add_sub_cancel, sub_zero, hlevel]
      rfl
    simp only [Bounds.Crossed, or_false]
    rw [hpoint, hit_first_iff hu hn hc hcell (by linarith) le_rfl (by linarith)]
    exact iff_of_false (fun h => (h.rise_pos (by linarith) le_rfl).false)
      fun h => (h.rise_pos hpos hbounds.1).ne' hzero
  · simp only [Bounds.Crossed, or_false]
    rw [hit_first_iff hu hn hc hcell hpos hbounds.1 hend]
    refine or_iff_left_of_imp fun h => ?_
    have hlast : v.bounds.leftMid.x = v.bounds.x := rfl
    rcases h with h | h
    · exact risesInto_of_hit hu hn hc hcell hpos ⟨le_rfl, hend⟩ ⟨le_rfl, sub_le_self _ hbounds.1⟩
        ⟨by linarith, by linarith⟩ ⟨by linarith, by linarith⟩ h
    · exact risesInto_of_hit hu hn hc hcell hpos ⟨by linarith, by linarith⟩
        ⟨by linarith, by linarith⟩ ⟨by linarith, by linarith⟩ ⟨by linarith, by linarith⟩ h

/-- A route meets a shape exactly if it runs through it or rises into it. -/
theorem crossed_route_iff (hu : u.Fits c rows) (hv : v.Fits c rows) (hn : n.Fits c rows)
    (hc : c.Roomy) (hcell : n.cell = u.cell → n = u) {index : Nat} (hindex : index ≤ 2) :
    n.bounds.Crossed (route c (u.toAnchor c rows) (v.toAnchor c rows) index) ↔
      RunsThrough c rows u v n (index * c.parallelOffset) ∨
        RisesInto u n (reach c u v (index * c.parallelOffset)) (index * c.parallelOffset) := by
  have hbounds := hc.shift_bounds hindex
  by_cases hrank : v.rank = u.rank + 1
  · rw [or_iff_right fun h : RunsThrough c rows u v n _ => h.1 hrank]
    by_cases hlevel : u.bounds.rightMid.y = v.bounds.leftMid.y
    · exact crossed_straight_iff hu hv hn hc hcell hrank hlevel rfl hbounds
    · exact crossed_step_iff hu hv hn hc hcell hrank hlevel rfl hbounds
  · exact crossed_around_iff hu hv hn hc hcell hrank rfl hbounds

/-- A route that is moved no further than to the largest shapes of a row meets no shape. -/
theorem not_crossed_route (hu : u.Fits c rows) (hv : v.Fits c rows) (hn : n.Fits c rows)
    (hc : c.Roomy) (hcell : n.cell = u.cell → n = u) {index : Nat} (hindex : index ≤ 2)
    (hroom : index * c.parallelOffset ≤ (c.rowHeight - 60) / 2) :
    ¬ n.bounds.Crossed (route c (u.toAnchor c rows) (v.toAnchor c rows) index) := by
  have hbounds := hc.shift_bounds hindex
  rw [crossed_route_iff hu hv hn hc hcell hindex]
  rintro (⟨-, -, htop, hbottom⟩ | h)
  · rcases hv.top_cases hn hc with ⟨hrow, hlane⟩ | hbelow | habove
    · have hsame : n.top c rows = v.top c rows := by
        rw [NodePosition.top, NodePosition.top, hrow, hlane]
      linarith [hn.le_y, hc.row_lt]
    · linarith [hn.le_y, hc.row_lt]
    · linarith [hn.bottom_le]
  · have hlt := h.lt_rise (reach_bounds hu hv hc hbounds).1 hbounds.1
    rcases hu.column_cases hn hc hcell h.1 with rfl | hbelow | habove
    · have hmid : n.bounds.rightMid.y = n.bounds.y + n.bounds.height / 2 := rfl
      linarith [h.2.1, n.bounds.bottom_eq, hn.height_pos]
    · linarith [h.2.1, n.bounds.bottom_eq, hn.height_pos]
    · linarith [hc.row_lt]

end Crossings

end IntegrationFlow.Layout
