import Mathlib
import IntegrationFlow.Proofs.Layout.Rank

/-!
# Columns of a drawing

The edges that lead back are enough to make a flow acyclic, and each of them closes a cycle. The
column of a node is the length of a longest path of the other edges that ends in it.
-/

namespace IntegrationFlow

open Relation (ReflTransGen TransGen)

/-- An edge leads from `u` to `w`. -/
def FlowGraph.Joins (g : FlowGraph) (u w : String) : Prop :=
  ∃ e ∈ g.edgeList, e.source = u ∧ e.target = w

namespace Layout

/-- An edge of a flow that does not lead back. -/
def IsForward (g : FlowGraph) (e : Edge) : Prop := e ∈ g.edgeList ∧ e.id ∉ backEdges g

/-- An edge that does not lead back leads from `u` to `w`. -/
def Precedes (g : FlowGraph) (u w : String) : Prop :=
  ∃ e, IsForward g e ∧ e.source = u ∧ e.target = w

/-- The edges of a path that ends in a node, none of which leads back. -/
inductive PathTo (g : FlowGraph) : List Edge → String → Prop
  | nil (v : String) : PathTo g [] v
  | concat {es : List Edge} {e : Edge} : PathTo g es e.source → IsForward g e →
    PathTo g (es ++ [e]) e.target

section Edges

variable {g : FlowGraph}

/-! ### Edges that lead back -/

lemma isGraph_outgoing (h : g.WellFormed) :
    Search.IsGraph g.outgoing Edge.target (vertices g) :=
  h.isGraph (fun _ => List.Sublist.refl _) fun _ he =>
    List.mem_append_right _ (List.mem_map_of_mem he)

/-- The edges that the search for cycles notes. -/
def notedEdges (g : FlowGraph) : List Edge :=
  (Search.closings g.outgoing Edge.target (vertices g)
    (g.starts.map Node.id ++ nodeIds g)).map Search.Closing.edge

lemma backEdges_eq (g : FlowGraph) : backEdges g = (notedEdges g).map Edge.id := by
  rw [backEdges, notedEdges, List.map_map]
  rfl

lemma exists_path_of_mem_notedEdges (h : g.WellFormed) {e : Edge} (he : e ∈ notedEdges g) :
    e ∈ g.edgeList ∧
      ReflTransGen (Search.Leads g.outgoing Edge.target (notedEdges g)) e.target e.source := by
  obtain ⟨v, hv, hpath⟩ := Search.exists_path_of_mem_closings (isGraph_outgoing h) he
  obtain ⟨hmem, rfl⟩ := h.mem_outgoing_iff.mp hv
  exact ⟨hmem, hpath⟩

lemma id_mem_backEdges_iff (h : g.WellFormed) {e : Edge} (he : e ∈ g.edgeList) :
    e.id ∈ backEdges g ↔ e ∈ notedEdges g := by
  rw [backEdges_eq, List.mem_map]
  constructor
  · rintro ⟨x, hx, hid⟩
    exact h.eq_of_id_eq (exists_path_of_mem_notedEdges h hx).1 he hid ▸ hx
  · exact fun hmem => ⟨e, hmem, rfl⟩

lemma leads_iff_precedes (h : g.WellFormed) {u w : String} :
    Search.Leads g.outgoing Edge.target (notedEdges g) u w ↔ Precedes g u w := by
  constructor
  · rintro ⟨e, he, hback, rfl⟩
    obtain ⟨hmem, rfl⟩ := h.mem_outgoing_iff.mp he
    exact ⟨e, ⟨hmem, fun hid => hback ((id_mem_backEdges_iff h hmem).mp hid)⟩, rfl, rfl⟩
  · rintro ⟨e, ⟨hmem, hid⟩, rfl, rfl⟩
    exact ⟨e, h.mem_outgoing_iff.mpr ⟨hmem, rfl⟩,
      fun hback => hid ((id_mem_backEdges_iff h hmem).mpr hback), rfl⟩

lemma nodup_nodeIds (h : g.WellFormed) : (nodeIds g).Nodup := by
  rw [nodeIds, ← h.keys_eq]
  exact h.keys_nodup

lemma mem_nodeIds_of_mem_edgeList (h : g.WellFormed) {e : Edge} (he : e ∈ g.edgeList) :
    e.source ∈ nodeIds g ∧ e.target ∈ nodeIds g := by
  rw [nodeIds, ← h.keys_eq]
  exact h.ends_mem e he

/-- The edges that do not lead back make no cycle. -/
lemma not_transGen_precedes (h : g.WellFormed) (v : String) : ¬ TransGen (Precedes g) v v := by
  intro hcycle
  obtain ⟨w, ⟨e, he, hsource, -⟩, -⟩ := Relation.TransGen.head'_iff.mp hcycle
  have hv : v ∈ nodeIds g := hsource ▸ (mem_nodeIds_of_mem_edgeList h he.1).1
  refine Search.not_transGen_of_acc (Search.acc_of_mem_roots (isGraph_outgoing h)
    (List.mem_append_right (g.starts.map Node.id) hv) (List.mem_append_left _ hv)) ?_
  exact TransGen.mono (fun _ _ => (leads_iff_precedes h).mpr) _ _ hcycle

/-- An edge that leads back closes a cycle of edges that do not. -/
lemma exists_edge_of_mem_backEdges (h : g.WellFormed) {id : String} (hid : id ∈ backEdges g) :
    ∃ e ∈ g.edgeList, e.id = id ∧ ReflTransGen (Precedes g) e.target e.source := by
  rw [backEdges_eq] at hid
  obtain ⟨e, he, rfl⟩ := List.mem_map.mp hid
  obtain ⟨hmem, hpath⟩ := exists_path_of_mem_notedEdges h he
  exact ⟨e, hmem, rfl, ReflTransGen.mono (fun _ _ => (leads_iff_precedes h).mp) _ _ hpath⟩

/-- No edge of an acyclic flow leads back. -/
lemma backEdges_eq_nil (h : g.WellFormed) (hacyclic : ∀ v, ¬ TransGen g.Joins v v) :
    backEdges g = [] := by
  refine List.eq_nil_iff_forall_not_mem.mpr fun id hid => ?_
  obtain ⟨e, he, -, hpath⟩ := exists_edge_of_mem_backEdges h hid
  have hjoins : ReflTransGen g.Joins e.target e.source := by
    refine ReflTransGen.mono ?_ _ _ hpath
    rintro u w ⟨x, hx, hsource, htarget⟩
    exact ⟨x, hx.1, hsource, htarget⟩
  exact hacyclic e.target (.tail' hjoins ⟨e, he, rfl, rfl⟩)

/-! ### Columns -/

lemma of_mem_laneCells {rankOf : String → Nat} {lane : Lane} {before members : List String}
    {id : String} {cell : Cell} (h : (id, cell) ∈ laneCells rankOf lane before members) :
    cell.rank = rankOf id ∧ cell.lane = lane := by
  induction members generalizing before with
  | nil => exact absurd h List.not_mem_nil
  | cons x members ih =>
    rcases List.mem_cons.mp h with heq | h
    · obtain ⟨rfl, rfl⟩ := Prod.mk.inj heq
      exact ⟨rfl, rfl⟩
    · exact ih h

/-- Every node has a cell, in the column of its rank. -/
lemma exists_cell {id : String} (hid : id ∈ nodeIds g) :
    ∃ cell, OrderedMap.get? (grid g).cells id = some cell ∧
      cell.rank = (OrderedMap.get? (ranks (nodeIds g) (forward g (backEdges g))) id).getD 0 := by
  have hkey : id ∈ OrderedMap.keys (grid g).cells := by
    rwa [OrderedMap.keys, map_fst_grid]
  obtain ⟨cell, hcell⟩ := OrderedMap.exists_get?_iff.mpr hkey
  refine ⟨cell, hcell, ?_⟩
  obtain ⟨x, -, hx⟩ := List.mem_filterMap.mp (OrderedMap.mem_of_get?_eq_some hcell)
  obtain ⟨y, hy, heq⟩ := Option.map_eq_some_iff.mp hx
  obtain ⟨rfl, rfl⟩ := Prod.mk.inj heq
  rcases List.mem_append.mp (OrderedMap.mem_of_get?_ofList hy) with hmem | hmem
  · exact (of_mem_laneCells hmem).1
  · exact (of_mem_laneCells hmem).1

lemma mem_forward_iff (h : g.WellFormed) {u w : String} :
    w ∈ forward g (backEdges g) u ↔ Precedes g u w := by
  simp only [forward, List.mem_map, List.mem_filter, h.mem_outgoing_iff, decide_eq_true_eq]
  constructor
  · rintro ⟨e, ⟨⟨he, hsource⟩, hback⟩, htarget⟩
    exact ⟨e, ⟨he, hback⟩, hsource, htarget⟩
  · rintro ⟨e, ⟨he, hback⟩, hsource, htarget⟩
    exact ⟨e, ⟨⟨he, hsource⟩, hback⟩, htarget⟩

/-- The column of a node is behind those of the nodes that lead to it, by one behind the last. -/
lemma exists_column (h : g.WellFormed) : ∃ column : String → Nat,
    (∀ id ∈ nodeIds g, ∃ cell, OrderedMap.get? (grid g).cells id = some cell ∧
      cell.rank = column id) ∧
    (∀ u w, Precedes g u w → column u < column w) ∧
    ∀ w ∈ nodeIds g, column w = 0 ∨ ∃ u, Precedes g u w ∧ column w = column u + 1 := by
  have hends {u w : String} (huw : Precedes g u w) : u ∈ nodeIds g ∧ w ∈ nodeIds g := by
    obtain ⟨e, he, rfl, rfl⟩ := huw
    exact mem_nodeIds_of_mem_edgeList h he.1
  obtain ⟨column, hranks, hlt, heq⟩ := ranks_spec (nodup_nodeIds h)
    (fun u _ w hw => (hends ((mem_forward_iff h).mp hw)).2)
    fun v hcycle => not_transGen_precedes h v
      (TransGen.mono (fun _ _ => (mem_forward_iff h).mp) _ _ hcycle)
  refine ⟨column, fun id hid => ?_, fun u w huw => ?_, fun w hw => ?_⟩
  · obtain ⟨cell, hcell, hrank⟩ := exists_cell hid
    rw [hranks id hid] at hrank
    exact ⟨cell, hcell, hrank⟩
  · exact hlt u (hends huw).1 w ((mem_forward_iff h).mpr huw)
  · refine (heq w hw).imp_right ?_
    rintro ⟨u, -, huw, hrank⟩
    exact ⟨u, (mem_forward_iff h).mp huw, hrank⟩

/-! ### Longest paths -/

lemma PathTo.length_le {column : String → Nat}
    (hlt : ∀ u w, Precedes g u w → column u < column w) {es : List Edge} {v : String}
    (h : PathTo g es v) : es.length ≤ column v := by
  induction h with
  | nil v => exact Nat.zero_le _
  | @concat es e _ he ih =>
    rw [List.length_append, List.length_singleton]
    exact ih.trans_lt (hlt _ _ ⟨e, he, rfl, rfl⟩)

lemma exists_pathTo (h : g.WellFormed) {column : String → Nat}
    (heq : ∀ w ∈ nodeIds g, column w = 0 ∨ ∃ u, Precedes g u w ∧ column w = column u + 1)
    {v : String} (hv : v ∈ nodeIds g) : ∃ es, PathTo g es v ∧ es.length = column v := by
  generalize hn : column v = n
  induction n generalizing v with
  | zero => exact ⟨[], .nil v, rfl⟩
  | succ n ih =>
    rcases heq v hv with hzero | ⟨u, ⟨e, he, rfl, rfl⟩, hsucc⟩
    · omega
    · obtain ⟨es, hpath, hlength⟩ := ih (mem_nodeIds_of_mem_edgeList h he.1).1 (by omega)
      exact ⟨es ++ [e], hpath.concat he, by simp [hlength]⟩

end Edges

/-- Ranking a flow that was built: the edges that do not lead back make no cycle, and each edge that
leads back closes one, so an acyclic flow has none. The column of a node is the length of a longest
path of edges that do not lead back, so these edges lead to later columns. -/
theorem columns_are_longest_paths {records : List Record} {acyclic : Option Bool} {g : FlowGraph}
    (hbuild : FlowGraph.build records acyclic = .ok g) :
    (∀ v, ¬ TransGen (Precedes g) v v) ∧
    (∀ id ∈ backEdges g, ∃ e ∈ g.edgeList, e.id = id ∧
      ReflTransGen (Precedes g) e.target e.source) ∧
    ((∀ v, ¬ TransGen g.Joins v v) → backEdges g = []) ∧
    (∀ n ∈ g.nodeList, ∃ cell, OrderedMap.get? (grid g).cells n.id = some cell ∧
      IsGreatest {k | ∃ es, PathTo g es n.id ∧ es.length = k} cell.rank) ∧
    ∀ e ∈ g.edgeList, e.id ∉ backEdges g → ∃ source target,
      OrderedMap.get? (grid g).cells e.source = some source ∧
      OrderedMap.get? (grid g).cells e.target = some target ∧ source.rank < target.rank := by
  have h : g.WellFormed := wellFormed_of_build hbuild
  obtain ⟨column, hcell, hlt, heq⟩ := exists_column h
  refine ⟨not_transGen_precedes h, fun id => exists_edge_of_mem_backEdges h, backEdges_eq_nil h,
    fun n hn => ?_, fun e he hback => ?_⟩
  · have hid : n.id ∈ nodeIds g := List.mem_map_of_mem hn
    obtain ⟨cell, hget, hrank⟩ := hcell n.id hid
    refine ⟨cell, hget, ?_, ?_⟩
    · rw [hrank]
      exact exists_pathTo h heq hid
    · rintro k ⟨es, hpath, rfl⟩
      rw [hrank]
      exact hpath.length_le hlt
  · obtain ⟨hsource, htarget⟩ := mem_nodeIds_of_mem_edgeList h he
    obtain ⟨source, hget, hrank⟩ := hcell e.source hsource
    obtain ⟨target, hget', hrank'⟩ := hcell e.target htarget
    refine ⟨source, target, hget, hget', ?_⟩
    rw [hrank, hrank']
    exact hlt _ _ ⟨e, ⟨he, hback⟩, rfl, rfl⟩

/-- Records of a flow with two starts, two edges between the same nodes, and cycles of one, two and
three nodes. -/
def crossedLoops : List Record :=
  [{ id := "s", name := "S", sourceType := "start", document := "d", dialect := some .webMethods,
     role := .start, links := [⟨"a", .sequence, none⟩, ⟨"a", .error, none⟩] },
   { id := "a", name := "A", sourceType := "map", document := "d", dialect := some .webMethods,
     links := [⟨"a", .sequence, none⟩, ⟨"b", .sequence, none⟩] },
   { id := "b", name := "B", sourceType := "map", document := "d", dialect := some .webMethods,
     links := [⟨"a", .reference, none⟩, ⟨"c", .error, none⟩] },
   { id := "c", name := "C", sourceType := "map", document := "d", dialect := some .webMethods,
     links := [⟨"a", .sequence, none⟩] },
   { id := "t", name := "T", sourceType := "start", document := "d", dialect := some .webMethods,
     role := .start, links := [⟨"c", .sequence, none⟩] }]

theorem columns_crossedLoops : ∃ g, FlowGraph.build crossedLoops = .ok g ∧
    backEdges g = ["SequenceFlow_3", "SequenceFlow_5", "SequenceFlow_7"] ∧
    (grid g).cells.map (fun c => (c.1, c.2.rank)) =
      [("s", 0), ("a", 1), ("b", 2), ("c", 3), ("t", 0)] ∧
    (∀ v, ¬ TransGen (Precedes g) v v) ∧
    (∀ id ∈ backEdges g, ∃ e ∈ g.edgeList, e.id = id ∧
      ReflTransGen (Precedes g) e.target e.source) ∧
    ∀ n ∈ g.nodeList, ∃ cell, OrderedMap.get? (grid g).cells n.id = some cell ∧
      IsGreatest {k | ∃ es, PathTo g es n.id ∧ es.length = k} cell.rank := by
  have hread : (FlowGraph.build crossedLoops).toOption.map (fun g =>
      (backEdges g, (grid g).cells.map fun c => (c.1, c.2.rank)))
      = some (["SequenceFlow_3", "SequenceFlow_5", "SequenceFlow_7"],
          [("s", 0), ("a", 1), ("b", 2), ("c", 3), ("t", 0)]) := by cbv
  cases hbuild : FlowGraph.build crossedLoops with
  | error e => simp [hbuild, Except.toOption] at hread
  | ok g =>
    rw [hbuild] at hread
    obtain ⟨hback, hcells⟩ := Prod.mk.inj (Option.some.inj hread)
    obtain ⟨hacyclic, hcloses, -, hcolumns, -⟩ := columns_are_longest_paths hbuild
    exact ⟨g, rfl, hback, hcells, hacyclic, hcloses, hcolumns⟩

end Layout

end IntegrationFlow
