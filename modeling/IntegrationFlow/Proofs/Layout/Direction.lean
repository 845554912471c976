import Mathlib
import IntegrationFlow.Proofs.Graph.Cycle
import IntegrationFlow.Proofs.Layout.LongestPath

/-!
# Flows that read from left to right

A flow without circles may still have cycles through error handlers, and of such a cycle any edge
may be the one that leads back. So the sequence of steps runs from left to right but for edges that
lie on a cycle with an error edge; and those run from right to left where they do not run from left
to right.
-/

namespace IntegrationFlow

open Relation (ReflTransGen TransGen)

namespace FlowGraph

/-- An edge lies on a cycle with an edge to an error handler. -/
def OnErrorCycle (g : FlowGraph) (e : Edge) : Prop :=
  ∃ x ∈ g.edgeList, x.kind = .error ∧ ReflTransGen g.Joins e.target x.source ∧
    ReflTransGen g.Joins x.target e.source

/-- The next step from `u` is `w`, by an edge that lies on no cycle with an error edge. -/
def Continues (g : FlowGraph) (u w : String) : Prop :=
  ∃ e ∈ g.edgeList, e.kind = .sequence ∧ ¬ g.OnErrorCycle e ∧ e.source = u ∧ e.target = w

end FlowGraph

namespace Layout

variable {g : FlowGraph}

/-! ### Edges that lead back in a flow without circles -/

lemma Precedes.joins {u w : String} (h : Precedes g u w) : g.Joins u w := by
  obtain ⟨e, he, hsource, htarget⟩ := h
  exact ⟨e, he.1, hsource, htarget⟩

/-- A path leads to no error handler, or it can be cut at an edge to one. -/
lemma controls_or_exists_error {u w : String} (h : ReflTransGen (Precedes g) u w) :
    ReflTransGen g.Controls u w ∨ ∃ x, IsForward g x ∧ x.kind = .error ∧
      ReflTransGen (Precedes g) u x.source ∧ ReflTransGen (Precedes g) x.target w := by
  induction h with
  | refl => exact Or.inl .refl
  | tail hpath hlast ih =>
    rcases ih with hcontrols | ⟨x, hx, hkind, hbefore, hafter⟩
    · obtain ⟨e, he, rfl, rfl⟩ := hlast
      by_cases hkind : e.kind = .error
      · exact Or.inr ⟨e, he, hkind, hpath, .refl⟩
      · exact Or.inl (hcontrols.tail ⟨e, he.1, hkind, rfl, rfl⟩)
    · exact Or.inr ⟨x, hx, hkind, hbefore, hafter.tail hlast⟩

/-- Where there is no circle, an edge that leads back and not to an error handler closes a cycle
with an edge to one. -/
lemma exists_error_of_mem_backEdges (h : g.WellFormed) (hnone : g.cycle? = none) {e : Edge}
    (he : e ∈ g.edgeList) (hkind : e.kind ≠ .error) (hback : e.id ∈ backEdges g) :
    ∃ x, IsForward g x ∧ x.kind = .error ∧ ReflTransGen (Precedes g) e.target x.source ∧
      ReflTransGen (Precedes g) x.target e.source := by
  obtain ⟨e', he', hid, hpath⟩ := exists_edge_of_mem_backEdges h hback
  obtain rfl := h.eq_of_id_eq he' he hid
  refine (controls_or_exists_error hpath).resolve_left fun hcontrols => ?_
  exact FlowGraph.not_transGen_controls h hnone _ (.tail' hcontrols ⟨e', he, hkind, rfl, rfl⟩)

/-! ### Ranks in a drawing -/

section Drawing

variable {κ : Type} [Coordinate κ] {c : LayoutConfig κ} {p : Positions κ}

/-- A node is drawn in the column of its cell. -/
lemma exists_cell_of_place (h : place c g = .ok p) {id : String} {position : NodePosition κ}
    (hposition : p.node? id = some position) :
    ∃ cell, (id, cell) ∈ (grid g).cells ∧ position.rank = cell.rank := by
  obtain ⟨cell, target, hcell, rfl⟩ := exists_cellPosition_of_place h hposition
  exact ⟨cell, hcell, rfl⟩

/-- The columns in which a flow is drawn. -/
lemma exists_column_of_place (h : g.WellFormed) (hplace : place c g = .ok p) :
    ∃ column : String → Nat,
      (∀ id position, p.node? id = some position → position.rank = column id) ∧
      ∀ u w, Precedes g u w → column u < column w := by
  obtain ⟨column, hcells, hlt, -⟩ := exists_column h
  refine ⟨column, fun id position hposition => ?_, hlt⟩
  obtain ⟨cell, hmem, hrank⟩ := exists_cell_of_place hplace hposition
  have hkeys : OrderedMap.keys (grid g).cells = nodeIds g := map_fst_grid g
  obtain ⟨cell', hget, hrank'⟩ := hcells id (hkeys ▸ List.mem_map_of_mem hmem)
  have hnodup : (OrderedMap.keys (grid g).cells).Nodup := hkeys ▸ nodup_nodeIds h
  obtain rfl := Option.some.inj ((OrderedMap.get?_of_mem hnodup hmem).symm.trans hget)
  rw [hrank, hrank']

end Drawing

lemma le_of_reflTransGen_precedes {column : String → Nat}
    (hlt : ∀ u w, Precedes g u w → column u < column w) {u w : String}
    (h : ReflTransGen (Precedes g) u w) : column u ≤ column w := by
  induction h with
  | refl => exact Nat.le_refl _
  | tail _ hlast ih => exact ih.trans (hlt _ _ hlast).le

/-- A step of the sequence leads to the right, or it leads to the left and lies on a cycle with an
error edge. -/
lemma sequence_cases (h : g.WellFormed) (hnone : g.cycle? = none) {column : String → Nat}
    (hlt : ∀ u w, Precedes g u w → column u < column w) {e : Edge} (he : e ∈ g.edgeList)
    (hkind : e.kind = .sequence) :
    column e.source < column e.target ∨
      column e.target < column e.source ∧ g.OnErrorCycle e := by
  by_cases hback : e.id ∈ backEdges g
  · obtain ⟨x, hx, hxkind, hbefore, hafter⟩ :=
      exists_error_of_mem_backEdges h hnone he (by simp [hkind]) hback
    have hjoins : ∀ u w, Precedes g u w → g.Joins u w := fun _ _ => Precedes.joins
    refine Or.inr ⟨?_, x, hx.1, hxkind, ReflTransGen.mono hjoins _ _ hbefore,
      ReflTransGen.mono hjoins _ _ hafter⟩
    calc column e.target ≤ column x.source := le_of_reflTransGen_precedes hlt hbefore
      _ < column x.target := hlt _ _ ⟨x, hx, rfl, rfl⟩
      _ ≤ column e.source := le_of_reflTransGen_precedes hlt hafter
  · exact Or.inl (hlt _ _ ⟨e, ⟨he, hback⟩, rfl, rfl⟩)

/-- Records of a flow that must not hold circles end in a drawing in which each step of the sequence
leads to the right, or else to the left as part of a cycle with an error edge. So ranks never
decrease along steps that lie on no such cycle. -/
theorem sequence_runs_right {records : List Record} {acyclic : Option Bool} {g : FlowGraph}
    (hbuild : FlowGraph.build records acyclic = .ok g)
    (hacyclic : acyclic.getD (requiresAcyclic records)) {c : LayoutConfig Float}
    (hc : c.fault? = none) :
    ∃ p, place c g = .ok p ∧
      (∀ e ∈ g.edgeList, e.kind = .sequence → ∃ source target,
        p.node? e.source = some source ∧ p.node? e.target = some target ∧
          (source.rank < target.rank ∨ target.rank < source.rank ∧ g.OnErrorCycle e)) ∧
      ∀ u w, ReflTransGen g.Continues u w → ∀ first last,
        p.node? u = some first → p.node? w = some last → first.rank ≤ last.rank := by
  have h : g.WellFormed := wellFormed_of_build hbuild
  have hnone := FlowGraph.cycle?_of_build hbuild hacyclic
  obtain ⟨p, hplace, hnodes⟩ := exists_place h hc
  obtain ⟨column, hrank, hlt⟩ := exists_column_of_place h hplace
  refine ⟨p, hplace, fun e he hkind => ?_, fun u w hpath first last hfirst hlast => ?_⟩
  · have hdrawn : ∀ id ∈ nodeIds g, ∃ position, p.node? id = some position := by
      intro id hid
      obtain ⟨n, hn, rfl⟩ := List.mem_map.mp hid
      exact hnodes n hn
    obtain ⟨source, hsource⟩ := hdrawn _ (mem_nodeIds_of_mem_edgeList h he).1
    obtain ⟨target, htarget⟩ := hdrawn _ (mem_nodeIds_of_mem_edgeList h he).2
    refine ⟨source, target, hsource, htarget, ?_⟩
    rw [hrank _ _ hsource, hrank _ _ htarget]
    exact sequence_cases h hnone hlt he hkind
  · rw [hrank _ _ hfirst, hrank _ _ hlast]
    clear hfirst hlast
    induction hpath with
    | refl => exact Nat.le_refl _
    | tail _ hstep ih =>
      obtain ⟨e, he, hkind, hcycle, rfl, rfl⟩ := hstep
      rcases sequence_cases h hnone hlt he hkind with hright | ⟨-, hon⟩
      · exact ih.trans hright.le
      · exact absurd hon hcycle

/-- Records of a flow without circles, in which a step follows its own error handler. -/
def errorLoop : List Record :=
  [{ Record.hint "s" "s" "" with
     role := .start, links := [⟨"v", .sequence, none⟩, ⟨"u", .sequence, none⟩] },
   { Record.hint "v" "v" "" with links := [⟨"u", .error, none⟩] },
   { Record.hint "u" "u" "" with links := [⟨"v", .sequence, none⟩] }]

lemma build_errorLoop : ∃ g, FlowGraph.build errorLoop (some true) = .ok g ∧
    g.starts.map Node.id = ["s"] ∧
    g.edgeList = [⟨"SequenceFlow_1", "s", "v", .sequence, none⟩,
      ⟨"SequenceFlow_2", "s", "u", .sequence, none⟩, ⟨"SequenceFlow_3", "v", "u", .error, none⟩,
      ⟨"SequenceFlow_4", "u", "v", .sequence, none⟩] ∧
    (grid g).cells.map (fun c => (c.1, c.2.rank)) = [("s", 0), ("v", 1), ("u", 2)] := by
  have hread : (FlowGraph.build errorLoop (some true)).toOption.map (fun g =>
      (g.starts.map Node.id, g.edgeList, (grid g).cells.map fun c => (c.1, c.2.rank)))
      = some (["s"], [⟨"SequenceFlow_1", "s", "v", .sequence, none⟩,
          ⟨"SequenceFlow_2", "s", "u", .sequence, none⟩,
          ⟨"SequenceFlow_3", "v", "u", .error, none⟩,
          ⟨"SequenceFlow_4", "u", "v", .sequence, none⟩],
          [("s", 0), ("v", 1), ("u", 2)]) := by cbv
  cases hbuild : FlowGraph.build errorLoop (some true) with
  | error e => simp [hbuild, Except.toOption] at hread
  | ok g =>
    rw [hbuild] at hread
    obtain ⟨hstarts, hrest⟩ := Prod.mk.inj (Option.some.inj hread)
    obtain ⟨hedges, hcells⟩ := Prod.mk.inj hrest
    exact ⟨g, rfl, hstarts, hedges, hcells⟩

theorem sequence_runs_right_errorLoop : (some true).getD (requiresAcyclic errorLoop) ∧
    (LayoutConfig.standard : LayoutConfig Float).fault? = none ∧
    ∃ g, FlowGraph.build errorLoop (some true) = .ok g ∧
    ∃ p : Positions Float, place .standard g = .ok p ∧
      ∀ e ∈ g.edgeList, e.kind = .sequence → ∃ source target,
        p.node? e.source = some source ∧ p.node? e.target = some target ∧
          (source.rank < target.rank ∨ target.rank < source.rank ∧ g.OnErrorCycle e) := by
  obtain ⟨g, hbuild, -⟩ := build_errorLoop
  obtain ⟨p, hplace, hsequence, -⟩ := sequence_runs_right hbuild rfl fault?_standard
  exact ⟨rfl, fault?_standard, g, hbuild, p, hplace, hsequence⟩

/-- A step to the left on a way from the start, in a flow without circles. -/
theorem errorLoop_runs_left : ∃ g, FlowGraph.build errorLoop (some true) = .ok g ∧
    ∃ p : Positions Float, place .standard g = .ok p ∧
      g.starts.map Node.id = ["s"] ∧
      ⟨"SequenceFlow_2", "s", "u", .sequence, none⟩ ∈ g.edgeList ∧
      ⟨"SequenceFlow_4", "u", "v", .sequence, none⟩ ∈ g.edgeList ∧
      (p.node? "u").map NodePosition.rank = some 2 ∧
      (p.node? "v").map NodePosition.rank = some 1 := by
  obtain ⟨g, hbuild, hstarts, hedges, hcells⟩ := build_errorLoop
  have h : g.WellFormed := wellFormed_of_build hbuild
  obtain ⟨p, hplace, hnodes⟩ := exists_place h fault?_standard
  have hlast : (⟨"SequenceFlow_4", "u", "v", .sequence, none⟩ : Edge) ∈ g.edgeList := by
    simp [hedges]
  have hranks : ∀ id ∈ nodeIds g, ∃ position, p.node? id = some position ∧
      (id, position.rank) ∈ [("s", 0), ("v", 1), ("u", 2)] := by
    intro id hid
    obtain ⟨n, hn, rfl⟩ := List.mem_map.mp hid
    obtain ⟨position, hposition⟩ := hnodes n hn
    obtain ⟨cell, hcell, hrank⟩ := exists_cell_of_place hplace hposition
    exact ⟨position, hposition, hcells ▸ List.mem_map.mpr ⟨_, hcell, by rw [hrank]⟩⟩
  obtain ⟨u, hu, hrank⟩ := hranks "u" (mem_nodeIds_of_mem_edgeList h hlast).1
  obtain ⟨v, hv, hrank'⟩ := hranks "v" (mem_nodeIds_of_mem_edgeList h hlast).2
  exact ⟨g, hbuild, p, hplace, hstarts, by simp [hedges], hlast, by simpa [hu] using hrank,
    by simpa [hv] using hrank'⟩

end Layout

end IntegrationFlow
