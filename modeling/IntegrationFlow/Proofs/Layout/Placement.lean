import Mathlib
import IntegrationFlow.Proofs.Graph.WellFormed
import IntegrationFlow.Layout.Positions

/-!
# Drawing well-formed flows

Every node of a flow has a cell, in one of the two lanes, so a well-formed flow can be drawn with
any measures that are accepted: none of the other reasons not to draw a flow arises.
-/

namespace IntegrationFlow.Layout

/-! ### Cells -/

lemma keys_laneCells (rankOf : String → Nat) (lane : Lane) (before members : List String) :
    OrderedMap.keys (laneCells rankOf lane before members) = members := by
  induction members generalizing before with
  | nil => rfl
  | cons id members ih => rw [laneCells, OrderedMap.keys_cons, ih]

/-- Every node has a cell. -/
theorem map_fst_grid (g : FlowGraph) : (grid g).cells.map Prod.fst = nodeIds g := by
  simp only [grid]
  generalize hcells : (OrderedMap.ofList _ : OrderedMap String Cell) = cells
  -- A node that is not in the main lane is in the auxiliary one.
  have hmem : ∀ id ∈ nodeIds g, ∃ cell, OrderedMap.get? cells id = some cell := by
    intro id hid
    rw [OrderedMap.exists_get?_iff, ← hcells, OrderedMap.mem_keys_ofList, OrderedMap.keys,
      List.map_append, ← OrderedMap.keys, ← OrderedMap.keys, keys_laneCells, keys_laneCells]
    by_cases hmain : id ∈ mainLane g
    · exact List.mem_append_left _ hmain
    · exact List.mem_append_right _ (List.mem_filter.mpr ⟨hid, by simpa using hmain⟩)
  revert hmem
  generalize nodeIds g = ids
  intro hmem
  induction ids with
  | nil => rfl
  | cons id ids ih =>
    obtain ⟨cell, hcell⟩ := hmem id (List.mem_cons_self ..)
    rw [List.filterMap_cons, hcell, Option.map_some, List.map_cons,
      ih fun x hx => hmem x (List.mem_cons_of_mem _ hx)]

/-! ### Positions -/

section Drawing

variable {κ : Type} [Coordinate κ] {c : LayoutConfig κ} {g : FlowGraph}

/-- The standard measures are accepted. -/
lemma fault?_standard : (LayoutConfig.standard : LayoutConfig Float).fault? = none :=
  Option.isNone_iff_eq_none.mp (by decide +kernel)

/-- Every node of a well-formed flow gets its position. -/
lemma exists_placeNodes (h : g.WellFormed) (c : LayoutConfig κ) :
    ∃ nodes, placeNodes c g (grid g) = .ok nodes ∧
      OrderedMap.keys nodes = OrderedMap.keys g.nodes := by
  have hids : (grid g).cells.map Prod.fst = OrderedMap.keys g.nodes := by
    rw [map_fst_grid, h.keys_eq, nodeIds]
  unfold placeNodes
  generalize hplace : (fun (x : String × Cell) => _) = placeCell
  obtain ⟨placed, hplaced⟩ : ∃ placed, (grid g).cells.mapM placeCell = .ok placed := by
    refine exists_mapM_eq_ok fun x hx => ?_
    have hkey : x.1 ∈ OrderedMap.keys g.nodes := hids ▸ List.mem_map_of_mem hx
    obtain ⟨n, hn⟩ := OrderedMap.exists_get?_iff.mpr hkey
    refine ⟨(x.1, cellPosition c (grid g).mainRows x.2 n.target), ?_⟩
    rw [← hplace]
    simp only [FlowGraph.node?, hn]
  have hkeys : OrderedMap.keys placed = OrderedMap.keys g.nodes := by
    rw [← hids]
    refine (map_eq_map_of_forall₂ (fun x y hxy => ?_) (mapM_eq_ok_iff.mp hplaced)).symm
    rw [← hplace] at hxy
    dsimp only at hxy
    split at hxy
    · exact congrArg Prod.fst (Except.ok.inj hxy)
    · exact absurd hxy (by simp)
  have hself : OrderedMap.ofList placed = placed :=
    OrderedMap.ofList_eq_self (hkeys ▸ h.keys_nodup)
  have hlength : placed.length = g.nodes.length := by
    rw [← OrderedMap.length_keys, hkeys, OrderedMap.length_keys]
  refine ⟨placed, ?_, hkeys⟩
  rw [hplaced]
  simp [bind, Except.bind, hself, hlength, pure, Except.pure]

/-- Edges between nodes that are placed can be routed. -/
lemma exists_routeEdges {nodes : OrderedMap String (NodePosition κ)} {edges : List Edge}
    (h : ∀ e ∈ edges, e.source ∈ OrderedMap.keys nodes ∧ e.target ∈ OrderedMap.keys nodes)
    (c : LayoutConfig κ) (mainRows : Nat) (before : List Edge) :
    ∃ routes, routeEdges c mainRows nodes before edges = .ok routes := by
  induction edges generalizing before with
  | nil => exact ⟨[], rfl⟩
  | cons e edges ih =>
    obtain ⟨hsource, htarget⟩ := h e (List.mem_cons_self ..)
    obtain ⟨source, hs⟩ := OrderedMap.exists_get?_iff.mpr hsource
    obtain ⟨target, ht⟩ := OrderedMap.exists_get?_iff.mpr htarget
    obtain ⟨rest, hrest⟩ := ih (fun x hx => h x (List.mem_cons_of_mem _ hx)) (e :: before)
    exact ⟨_, by simp only [routeEdges, anchor, hs, ht, hrest]; rfl⟩

/-- A flow is drawn if the measures are accepted, its nodes are placed and its edges are routed. -/
lemma place_eq_ok_iff {p : Positions κ} : place c g = .ok p ↔ c.fault? = none ∧
    ∃ nodes, placeNodes c g (grid g) = .ok nodes ∧
    ∃ routes, routeEdges c (grid g).mainRows nodes [] g.edgeList = .ok routes ∧
      p = { nodes, edges := OrderedMap.ofList routes } := by
  unfold place
  split
  · rename_i fault hfault
    simp [hfault, throw_ne_ok]
  · rename_i hnone
    simp only [hnone, true_and, bind_eq_ok_iff]
    refine exists_congr fun nodes => and_congr_right fun _ => exists_congr fun routes =>
      and_congr_right fun _ => ?_
    exact ⟨fun h => (Except.ok.inj h).symm, fun h => congrArg _ h.symm⟩

/-- A node is drawn in its cell. -/
lemma exists_cellPosition_of_place {p : Positions κ} (h : place c g = .ok p) {id : String}
    {position : NodePosition κ} (hposition : p.node? id = some position) :
    ∃ cell target, (id, cell) ∈ (grid g).cells ∧
      position = cellPosition c (grid g).mainRows cell target := by
  obtain ⟨-, nodes, hnodes, routes, -, rfl⟩ := place_eq_ok_iff.mp h
  obtain ⟨placed, hplaced, hnodes⟩ := bind_eq_ok_iff.mp hnodes
  obtain rfl : OrderedMap.ofList placed = nodes := by
    dsimp only at hnodes
    split at hnodes
    · exact Except.ok.inj hnodes
    · exact absurd hnodes (throw_ne_ok _ _)
  obtain ⟨⟨id', cell⟩, hcell, hplace⟩ := exists_of_mem_forall₂ (mapM_eq_ok_iff.mp hplaced)
    (OrderedMap.mem_of_get?_ofList hposition)
  dsimp only at hplace
  split at hplace
  · rename_i n hn
    obtain ⟨rfl, rfl⟩ := Prod.mk.inj (Except.ok.inj hplace)
    exact ⟨cell, n.target, hcell, rfl⟩
  · exact absurd hplace (by simp)

/-- With measures that are accepted, every well-formed flow is drawn, and every node has a place in
the drawing. -/
theorem exists_place (h : g.WellFormed) (hc : c.fault? = none) :
    ∃ p, place c g = .ok p ∧ ∀ n ∈ g.nodeList, ∃ position, p.node? n.id = some position := by
  obtain ⟨nodes, hnodes, hkeys⟩ := exists_placeNodes h c
  have hends : ∀ e ∈ g.edgeList,
      e.source ∈ OrderedMap.keys nodes ∧ e.target ∈ OrderedMap.keys nodes := by
    rw [hkeys]
    exact h.ends_mem
  obtain ⟨routes, hroutes⟩ := exists_routeEdges hends c (grid g).mainRows []
  refine ⟨{ nodes, edges := OrderedMap.ofList routes }, ?_, fun n hn => ?_⟩
  · exact place_eq_ok_iff.mpr ⟨hc, nodes, hnodes, routes, hroutes, rfl⟩
  · rw [Positions.node?, OrderedMap.exists_get?_iff, hkeys, h.keys_eq]
    exact List.mem_map_of_mem hn

end Drawing

end IntegrationFlow.Layout
