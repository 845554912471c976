import Mathlib
import IntegrationFlow.Proofs.Layout.Drawing
import IntegrationFlow.Proofs.Layout.Grid
import IntegrationFlow.Proofs.Layout.Route

/-!
# Connectors that cross shapes

At most three edges lead from one node to another, one of each kind. The first is drawn clear of all
shapes. The others are raised, and moved aside by as much if they have bends of their own; the
measures that are accepted leave room for this between columns, but not between rows. So a drawing
can have connectors that cross shapes, and it is said here which ones do. There are none if the rows
leave room as well, as they do with the standard measures.
-/

namespace IntegrationFlow

/-! ### Parallel edges -/

namespace FlowGraph

/-- How many edges before an edge lead from its source to its target. -/
def parallelsBefore (g : FlowGraph) (e : Edge) : Nat :=
  (g.edgeList.takeWhile (· ≠ e)).countP fun b => b.source == e.source && b.target == e.target

/-- At most three edges lead from one node to another. -/
lemma WellFormed.parallelsBefore_le {g : FlowGraph} (h : g.WellFormed) {e : Edge}
    (he : e ∈ g.edgeList) : g.parallelsBefore e ≤ 2 := by
  rw [parallelsBefore, List.countP_eq_length_filter]
  generalize hparallels : (g.edgeList.takeWhile (· ≠ e)).filter _ = parallels
  have hends : ∀ b ∈ parallels, b ≠ e ∧ b ∈ g.edgeList ∧
      b.source = e.source ∧ b.target = e.target := by
    intro b hb
    obtain ⟨hbefore, hends⟩ := List.mem_filter.mp (hparallels ▸ hb)
    rw [Bool.and_eq_true, beq_iff_eq, beq_iff_eq] at hends
    have hne := List.mem_takeWhile_imp hbefore
    exact ⟨of_decide_eq_true hne, (List.takeWhile_sublist _).subset hbefore, hends⟩
  -- Edges with the same ends have different kinds.
  have hkind : ∀ b ∈ g.edgeList, ∀ b' ∈ g.edgeList, b.source = b'.source → b.target = b'.target →
      b.kind = b'.kind → b = b' := by
    intro b hb b' hb' hsource htarget hkind
    exact List.inj_on_of_nodup_map h.distinct hb hb' (by rw [hsource, htarget, hkind])
  have hnodup : (parallels.map Edge.kind).Nodup := by
    refine List.Nodup.map_on (fun b hb b' hb' => ?_) ?_
    · obtain ⟨-, hmem, hsource, htarget⟩ := hends b hb
      obtain ⟨-, hmem', hsource', htarget'⟩ := hends b' hb'
      exact hkind b hmem b' hmem' (hsource.trans hsource'.symm) (htarget.trans htarget'.symm)
    · rw [← hparallels]
      exact (h.distinct.of_map.sublist (List.takeWhile_sublist _)).filter _
  have hothers : parallels.map Edge.kind ⊆
      [EdgeKind.sequence, .reference, .error].filter (· ≠ e.kind) := by
    intro kind hmem
    obtain ⟨b, hb, rfl⟩ := List.mem_map.mp hmem
    obtain ⟨hne, hmem, hsource, htarget⟩ := hends b hb
    refine List.mem_filter.mpr ⟨by cases b.kind <;> simp, decide_eq_true fun hsame => ?_⟩
    exact hne (hkind b hmem e he hsource htarget hsame)
  calc parallels.length = (parallels.map Edge.kind).length := (List.length_map _).symm
    _ ≤ ([EdgeKind.sequence, .reference, .error].filter (· ≠ e.kind)).length :=
      (hnodup.subperm hothers).length_le
    _ = 2 := by cases e.kind <;> rfl

end FlowGraph

namespace Layout

/-! ### The routes of a drawing -/

section Drawing

variable {c : LayoutConfig ℚ} {g : FlowGraph} {p : Positions ℚ}

/-- Each edge is moved aside for the edges before it that join the same nodes. -/
lemma mem_of_routeEdges {rows : Nat} {nodes : OrderedMap String (NodePosition ℚ)}
    {before edges : List Edge} {routes : List (String × List (Point ℚ))}
    (h : routeEdges c rows nodes before edges = .ok routes) {e : Edge} (he : e ∈ edges)
    {source target : NodePosition ℚ} (hsource : OrderedMap.get? nodes e.source = some source)
    (htarget : OrderedMap.get? nodes e.target = some target) :
    (e.id, route c (source.toAnchor c rows) (target.toAnchor c rows)
      ((edges.takeWhile (· ≠ e) ++ before).countP fun b =>
        b.source == e.source && b.target == e.target)) ∈ routes := by
  induction edges generalizing before routes with
  | nil => exact absurd he List.not_mem_nil
  | cons x edges ih =>
    obtain ⟨first, hfirst, h⟩ := bind_eq_ok_iff.mp h
    obtain ⟨last, hlast, h⟩ := bind_eq_ok_iff.mp h
    obtain ⟨rest, hrest, h⟩ := bind_eq_ok_iff.mp h
    obtain rfl := Except.ok.inj h
    by_cases hx : x = e
    · subst hx
      rw [anchor, hsource] at hfirst
      rw [anchor, htarget] at hlast
      obtain rfl := Except.ok.inj hfirst
      obtain rfl := Except.ok.inj hlast
      rw [List.takeWhile_cons_of_neg (by simp)]
      exact List.mem_cons_self ..
    · -- The edge that is passed moves from the front of what is left to what was before.
      have hmem := ih hrest ((List.mem_cons.mp he).resolve_left (Ne.symm hx))
      rw [List.perm_middle.countP_eq] at hmem
      rw [List.takeWhile_cons_of_pos (by simpa using hx)]
      exact List.mem_cons_of_mem _ hmem

/-- The route of an edge in a drawing. -/
lemma points?_of_place (h : g.WellFormed) (hplace : place c g = .ok p) {e : Edge}
    (he : e ∈ g.edgeList) {source target : NodePosition ℚ} (hsource : p.node? e.source = some source)
    (htarget : p.node? e.target = some target) :
    p.points? e.id = some (route c (source.toAnchor c (grid g).mainRows)
      (target.toAnchor c (grid g).mainRows) (g.parallelsBefore e)) := by
  obtain ⟨-, nodes, -, routes, hroutes, rfl⟩ := place_eq_ok_iff.mp hplace
  have hnodup : (OrderedMap.keys routes).Nodup := keys_of_routeEdges hroutes ▸ h.nodup_edge_ids
  have hmem := mem_of_routeEdges hroutes he hsource htarget
  rw [List.append_nil] at hmem
  rw [Positions.points?, OrderedMap.ofList_eq_self hnodup]
  exact OrderedMap.get?_of_mem hnodup hmem

lemma fits_of_place (h : g.WellFormed) (hplace : place c g = .ok p) {id : String}
    {position : NodePosition ℚ} (hposition : p.node? id = some position) :
    position.Fits c (grid g).mainRows := by
  obtain ⟨cell, target, hcell, rfl⟩ := exists_cellPosition_of_place hplace hposition
  exact fits_cellPosition (row_lt_mainRows h hcell) target

/-- Only one node is drawn in a cell. -/
lemma eq_of_cell_eq (h : g.WellFormed) (hplace : place c g = .ok p) {id id' : String}
    {position position' : NodePosition ℚ} (hposition : p.node? id = some position)
    (hposition' : p.node? id' = some position') (heq : position.cell = position'.cell) :
    position = position' := by
  obtain ⟨cell, target, hcell, rfl⟩ := exists_cellPosition_of_place hplace hposition
  obtain ⟨cell', target', hcell', rfl⟩ := exists_cellPosition_of_place hplace hposition'
  obtain ⟨rfl, -⟩ := Prod.mk.inj (List.inj_on_of_nodup_map (nodup_cells_grid h) hcell hcell' heq)
  exact Option.some.inj (hposition.symm.trans hposition')

end Drawing

/-! ### Crossings -/

/-- How far the bends of the connector of an edge are raised. They are moved to the right by as
much, unless the connector would be straight without them. -/
def edgeShift (c : LayoutConfig ℚ) (g : FlowGraph) (e : Edge) : ℚ :=
  g.parallelsBefore e * c.parallelOffset

/-- A flow that was built is drawn as a whole, classified or not, with any exact measures that are
accepted. A connector crosses a shape exactly if it is raised so far that it runs through the shape
on its way sideways, or rises into it right behind its source. The first connector from a node to
another crosses no shape, and neither does one that is raised by no more than the room which the
largest shapes leave above and below them in a row. -/
theorem place_crosses_iff {records : List Record} {acyclic : Option Bool} {built g : FlowGraph}
    (hbuild : FlowGraph.build records acyclic = .ok built)
    (hg : g = built ∨ ∃ m : Classification.Mapper, g = m.apply built)
    {c : LayoutConfig ℚ} (hc : c.fault? = none) :
    ∃ p, place c g = .ok p ∧ p.Draws g ∧ ∀ e ∈ g.edgeList, g.parallelsBefore e ≤ 2 ∧
      ∀ n ∈ g.nodeList, ∃ source target position points, p.node? e.source = some source ∧
        p.node? e.target = some target ∧ p.node? n.id = some position ∧
        p.points? e.id = some points ∧
        (position.bounds.Crossed points ↔
          RunsThrough c (grid g).mainRows source target position (edgeShift c g e) ∨
            RisesInto source position (reach c source target (edgeShift c g e))
              (edgeShift c g e)) ∧
        (g.parallelsBefore e = 0 ∨ edgeShift c g e ≤ (c.rowHeight - 60) / 2 →
          ¬ position.bounds.Crossed points) := by
  have h : g.WellFormed := by
    rcases hg with rfl | ⟨m, rfl⟩
    · exact wellFormed_of_build hbuild
    · exact Classification.Mapper.wellFormed_apply m (wellFormed_of_build hbuild)
  have hroomy := LayoutConfig.fault?_eq_none_iff.mp hc
  obtain ⟨p, hplace, hdraws⟩ := exists_draws h hc
  refine ⟨p, hplace, hdraws, fun e he => ⟨h.parallelsBefore_le he, fun n hn => ?_⟩⟩
  have hindex := h.parallelsBefore_le he
  obtain ⟨source, target, -, hsource, htarget, -, -⟩ := hdraws.joins e he
  obtain ⟨position, hposition⟩ : ∃ position, p.node? n.id = some position :=
    OrderedMap.exists_get?_iff.mpr (hdraws.nodes_eq ▸ List.mem_map_of_mem hn)
  have hu := fits_of_place h hplace hsource
  have hv := fits_of_place h hplace htarget
  have hfits := fits_of_place h hplace hposition
  have hcell := eq_of_cell_eq h hplace hposition hsource
  refine ⟨source, target, position, _, hsource, htarget, hposition,
    points?_of_place h hplace he hsource htarget,
    crossed_route_iff hu hv hfits hroomy hcell hindex, fun hroom => ?_⟩
  refine not_crossed_route hu hv hfits hroomy hcell hindex ?_
  rcases hroom with hfirst | hroom
  · -- The first connector is not moved at all.
    rw [hfirst, Nat.cast_zero, zero_mul]
    linarith [hroomy.row_lt]
  · exact hroom

/-- A flow with two edges from one node to another that is further away, and a node between them. -/
def bypass : List Record :=
  [{ id := "s", name := "S", sourceType := "start", document := "d", dialect := some .webMethods,
     role := .start,
     links := [⟨"a", .sequence, none⟩, ⟨"d", .reference, none⟩, ⟨"d", .error, none⟩] },
   { id := "a", name := "A", sourceType := "map", document := "d", dialect := some .webMethods,
     links := [⟨"c", .sequence, none⟩, ⟨"d", .sequence, none⟩] },
   { id := "c", name := "C", sourceType := "map", document := "d", dialect := some .webMethods },
   { id := "d", name := "D", sourceType := "map", document := "d", dialect := some .webMethods }]

/-- Measures with little room between rows. -/
def lowRows : LayoutConfig ℚ := { LayoutConfig.standard with rowHeight := 64, parallelOffset := 14 }

/-- The standard table without keywords beside it. -/
def tableOnly : Classification.Mapper := { rules := [] }

/-- The standard measures leave room for all connectors of the flow. -/
theorem bypass_crosses_nothing : ∃ g, FlowGraph.build bypass = .ok g ∧
    (LayoutConfig.standard : LayoutConfig ℚ).fault? = none ∧
    (tableOnly.apply g).edgeList.map (tableOnly.apply g).parallelsBefore = [0, 0, 1, 0, 0] ∧
    ∃ p, place .standard (tableOnly.apply g) = .ok p ∧ p.Draws (tableOnly.apply g) ∧
      ∀ e ∈ (tableOnly.apply g).edgeList, ∀ n ∈ (tableOnly.apply g).nodeList,
        ∃ position points, p.node? n.id = some position ∧ p.points? e.id = some points ∧
          ¬ position.bounds.Crossed points := by
  have hread : (FlowGraph.build bypass).toOption.map (fun g =>
      (tableOnly.apply g).edgeList.map (tableOnly.apply g).parallelsBefore)
      = some [0, 0, 1, 0, 0] := by cbv
  obtain ⟨g, hbuild, hparallels⟩ := exists_of_map_toOption hread
  have hstandard : (LayoutConfig.standard : LayoutConfig ℚ).fault? = none := by cbv
  obtain ⟨p, hplace, hdraws, hcrossed⟩ :=
    place_crosses_iff hbuild (Or.inr ⟨tableOnly, rfl⟩) hstandard
  refine ⟨g, hbuild, hstandard, hparallels, p, hplace, hdraws, fun e he n hn => ?_⟩
  obtain ⟨hindex, hcrossed⟩ := hcrossed e he
  obtain ⟨-, -, position, points, -, -, hposition, hpoints, -, hclear⟩ := hcrossed n hn
  refine ⟨position, points, hposition, hpoints, hclear (Or.inr ?_)⟩
  have hcast : ((tableOnly.apply g).parallelsBefore e : ℚ) ≤ 2 := by exact_mod_cast hindex
  change _ * (6 : ℚ) ≤ ((100 : ℚ) - 60) / 2
  linarith

/-- With little room between rows, the second connector from the start runs through the shape of the
node between. -/
theorem bypass_crosses_shape : ∃ g, FlowGraph.build bypass = .ok g ∧ lowRows.fault? = none ∧
    ∃ p, place lowRows (tableOnly.apply g) = .ok p ∧
      ∃ position points, p.node? "a" = some position ∧
        p.points? "SequenceFlow_3" = some points ∧ position.bounds.Crossed points := by
  have hread : (FlowGraph.build bypass).toOption.map (fun g =>
      (place lowRows (tableOnly.apply g)).toOption.map fun p =>
        ((p.node? "a").map NodePosition.bounds, p.points? "SequenceFlow_3"))
      = some (some (some ⟨420, 122, 100, 60⟩, some [⟨296, 152⟩, ⟨404, 138⟩, ⟨404, 170⟩,
          ⟨564, 170⟩, ⟨564, 202⟩, ⟨580, 216⟩])) := by cbv
  obtain ⟨g, hbuild, hread⟩ := exists_of_map_toOption hread
  obtain ⟨p, hplace, hread⟩ := exists_of_map_toOption hread
  obtain ⟨hnode, hpoints⟩ := Prod.mk.inj hread
  obtain ⟨position, hposition, hbounds⟩ := Option.map_eq_some_iff.mp hnode
  have hhit : (⟨420, 122, 100, 60⟩ : Bounds ℚ).Hit ⟨404, 170⟩ ⟨564, 170⟩ :=
    (Bounds.hit_level_iff (by norm_num) (by norm_num) (by norm_num [Bounds.right_eq])).mpr
      ⟨by norm_num, by norm_num [Bounds.bottom_eq]⟩
  refine ⟨g, hbuild, by cbv, p, hplace, position, _, hposition, hpoints, ?_⟩
  rw [hbounds]
  exact Or.inr (Or.inr (Or.inl hhit))

end Layout

end IntegrationFlow
