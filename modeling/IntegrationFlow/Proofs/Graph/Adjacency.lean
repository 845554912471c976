import Mathlib
import IntegrationFlow.Proofs.Graph.Search
import IntegrationFlow.Proofs.Graph.WellFormed

/-!
# The edges of a well-formed graph

The edges that a node lists are the edges that begin there, so a search that follows the lists
follows the edges of the graph.
-/

namespace IntegrationFlow

namespace FlowGraph

variable {g : FlowGraph}

namespace WellFormed

/-! ### Edges by id -/

lemma nodup_edge_ids (h : g.WellFormed) : (g.edgeList.map Edge.id).Nodup := by
  rw [h.edge_ids]
  exact List.nodup_range.map fun i j hij => Nat.succ.inj (Edge.idOf_injective hij)

/-- Edges with one id are one edge. -/
lemma eq_of_id_eq (h : g.WellFormed) {e e' : Edge} (he : e ∈ g.edgeList) (he' : e' ∈ g.edgeList)
    (hid : e.id = e'.id) : e = e' :=
  List.inj_on_of_nodup_map h.nodup_edge_ids he he' hid

lemma edge?_id (h : g.WellFormed) {e : Edge} (he : e ∈ g.edgeList) : g.edge? e.id = some e := by
  obtain ⟨⟨key, x⟩, hx, rfl⟩ := List.mem_map.mp he
  have hkeys : ∀ key e, (key, e) ∈ g.edges → key = e.id := by
    simpa [OrderedMap.keys, edgeList, OrderedMap.values, Function.comp_def] using h.edge_keys_eq
  refine OrderedMap.get?_of_mem ?_ (hkeys key x hx ▸ hx)
  rw [h.edge_keys_eq]
  exact h.nodup_edge_ids

/-! ### Edges that leave a node -/

/-- The edges that a node lists are those that begin there. -/
lemma outgoing_eq_filter (h : g.WellFormed) (id : String) :
    g.outgoing id = g.edgeList.filter fun e => e.source == id := by
  unfold outgoing
  split
  · rename_i n hn
    have hmem : (id, n) ∈ g.nodes := OrderedMap.mem_of_get?_eq_some hn
    have hkeys : ∀ key n, (key, n) ∈ g.nodes → key = n.id := by
      simpa [OrderedMap.keys, nodeList, OrderedMap.values, Function.comp_def] using h.keys_eq
    obtain rfl := hkeys id n hmem
    rw [h.outgoing_eq n (List.mem_map_of_mem hmem), List.filterMap_map]
    refine (List.filterMap_congr fun e he => ?_).trans List.filterMap_some
    exact h.edge?_id (List.mem_filter.mp he).1
  · rename_i hnone
    refine (List.filter_eq_nil_iff.mpr fun e he hsource => ?_).symm
    refine OrderedMap.get?_eq_none_iff.mp hnone ?_
    rw [← beq_iff_eq.mp hsource]
    exact (h.ends_mem e he).1

lemma mem_outgoing_iff (h : g.WellFormed) {e : Edge} {id : String} :
    e ∈ g.outgoing id ↔ e ∈ g.edgeList ∧ e.source = id := by
  rw [h.outgoing_eq_filter, List.mem_filter, beq_iff_eq]

/-- The lists of outgoing edges, or parts of them, make a graph on vertices that hold the
targets. -/
lemma isGraph (h : g.WellFormed) {out : String → List Edge}
    (hout : ∀ id, (out id).Sublist (g.outgoing id)) {vertices : List String}
    (htarget : ∀ e ∈ g.edgeList, e.target ∈ vertices) :
    Search.IsGraph out Edge.target vertices where
  nodup id := by
    refine (hout id).nodup ?_
    rw [h.outgoing_eq_filter]
    exact h.nodup_edge_ids.of_map.filter _
  owner_eq he he' :=
    (h.mem_outgoing_iff.mp ((hout _).mem he)).2.symm.trans
      (h.mem_outgoing_iff.mp ((hout _).mem he')).2
  target_mem he := htarget _ (h.mem_outgoing_iff.mp ((hout _).mem he)).1

end WellFormed

end FlowGraph

end IntegrationFlow
