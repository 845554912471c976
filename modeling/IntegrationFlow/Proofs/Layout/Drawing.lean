import Mathlib
import IntegrationFlow.Proofs.Classification
import IntegrationFlow.Proofs.Layout.LongestPath

/-!
# Complete drawings

A flow that was built is drawn with any measures that are accepted, whether it is classified or not.
The drawing has a place for each node and a route for each edge, in their order, and a route leads
from the shape of its source to the shape of its target. On the way no count of edges to wait for
runs out.
-/

namespace IntegrationFlow.Layout

section Drawing

variable {κ : Type} [Coordinate κ]

/-! ### Routes -/

/-- Points that lead from the right side of one shape to the left side of another. -/
structure Joins (points : List (Point κ)) (source target : Bounds κ) : Prop where
  two_le_length : 2 ≤ points.length
  head_eq : points.head? = some source.rightMid
  last_eq : points.getLast? = some target.leftMid

lemma joins_route (c : LayoutConfig κ) (source target : Anchor κ) (index : Nat) :
    Joins (route c source target index) source.bounds target.bounds := by
  constructor
  · simp [route]
  · rfl
  · exact List.getLast?_concat

variable {c : LayoutConfig κ} {g : FlowGraph}

/-- Each edge is routed between the places of its ends. -/
lemma joins_of_routeEdges {mainRows : Nat} {nodes : OrderedMap String (NodePosition κ)}
    {before edges : List Edge} {routes : List (String × List (Point κ))}
    (h : routeEdges c mainRows nodes before edges = .ok routes) :
    List.Forall₂ (fun e x => x.1 = e.id ∧ ∃ source target,
      OrderedMap.get? nodes e.source = some source ∧
      OrderedMap.get? nodes e.target = some target ∧
      Joins x.2 source.bounds target.bounds) edges routes := by
  have hanchor : ∀ {edge node a}, anchor c mainRows nodes edge node = .ok a →
      ∃ position, OrderedMap.get? nodes node = some position ∧ position.bounds = a.bounds := by
    intro edge node a ha
    unfold anchor at ha
    split at ha
    · rename_i position hposition
      obtain rfl := Except.ok.inj ha
      exact ⟨position, hposition, rfl⟩
    · exact absurd ha (by simp)
  induction edges generalizing before routes with
  | nil =>
    obtain rfl := Except.ok.inj h
    exact .nil
  | cons e edges ih =>
    obtain ⟨source, hsource, h⟩ := bind_eq_ok_iff.mp h
    obtain ⟨target, htarget, h⟩ := bind_eq_ok_iff.mp h
    obtain ⟨rest, hrest, h⟩ := bind_eq_ok_iff.mp h
    obtain rfl := Except.ok.inj h
    obtain ⟨first, hfirst, hbounds⟩ := hanchor hsource
    obtain ⟨last, hlast, hbounds'⟩ := hanchor htarget
    refine .cons ⟨rfl, first, last, hfirst, hlast, ?_⟩ (ih hrest)
    rw [hbounds, hbounds']
    exact joins_route ..

lemma keys_of_routeEdges {mainRows : Nat} {nodes : OrderedMap String (NodePosition κ)}
    {before edges : List Edge} {routes : List (String × List (Point κ))}
    (h : routeEdges c mainRows nodes before edges = .ok routes) :
    OrderedMap.keys routes = edges.map Edge.id :=
  (map_eq_map_of_forall₂ (fun _ _ hx => hx.1.symm) (joins_of_routeEdges h)).symm

/-! ### Drawings -/

/-- A drawing with a place for each node and a route for each edge of a flow, and nothing else. -/
structure Positions.Draws (p : Positions κ) (g : FlowGraph) : Prop where
  nodes_eq : OrderedMap.keys p.nodes = g.nodeList.map Node.id
  edges_eq : OrderedMap.keys p.edges = g.edgeList.map Edge.id
  joins : ∀ e ∈ g.edgeList, ∃ source target points, p.node? e.source = some source ∧
    p.node? e.target = some target ∧ p.points? e.id = some points ∧
    Joins points source.bounds target.bounds

/-- A well-formed flow is drawn as a whole. -/
lemma exists_draws (h : g.WellFormed) (hc : c.fault? = none) :
    ∃ p, place c g = .ok p ∧ p.Draws g := by
  obtain ⟨p, hplace, -⟩ := exists_place h hc
  obtain ⟨-, nodes, hnodes, routes, hroutes, rfl⟩ := place_eq_ok_iff.mp hplace
  have hkeys : OrderedMap.keys nodes = OrderedMap.keys g.nodes := by
    obtain ⟨nodes', hnodes', hkeys⟩ := exists_placeNodes h c
    rwa [Except.ok.inj (hnodes.symm.trans hnodes')]
  have hjoins := joins_of_routeEdges hroutes
  have hids := keys_of_routeEdges hroutes
  have hself : OrderedMap.ofList routes = routes :=
    OrderedMap.ofList_eq_self (hids ▸ h.nodup_edge_ids)
  refine ⟨_, hplace, hkeys.trans h.keys_eq, ?_, fun e he => ?_⟩
  · rw [hself, hids]
  · obtain ⟨⟨id, points⟩, hx, rfl, source, target, hsource, htarget, hpoints⟩ :=
      exists_of_mem_forall₂ hjoins.flip he
    refine ⟨source, target, points, hsource, htarget, ?_, hpoints⟩
    rw [Positions.points?, hself]
    exact OrderedMap.get?_of_mem (hids ▸ h.nodup_edge_ids) hx

end Drawing

/-- A flow that was built is drawn as a whole, classified or not, with any measures that are
accepted; and when its nodes are ranked, no node is passed more edges than it waits for. -/
theorem build_is_drawn {records : List Record} {acyclic : Option Bool} {built g : FlowGraph}
    (hbuild : FlowGraph.build records acyclic = .ok built)
    (hg : g = built ∨ ∃ m : Classification.Mapper, g = m.apply built) {κ : Type} [Coordinate κ]
    {c : LayoutConfig κ} (hc : c.fault? = none) :
    (∃ p, place c g = .ok p ∧ p.Draws g) ∧
      ∀ r target, (Ranking.start (nodeIds g) (forward g (backEdges g))).Meets
        (forward g (backEdges g)) r target →
          ∃ k, OrderedMap.get? r.waiting target = some (k + 1) := by
  have h : g.WellFormed := by
    rcases hg with rfl | ⟨m, rfl⟩
    · exact wellFormed_of_build hbuild
    · exact Classification.Mapper.wellFormed_apply m (wellFormed_of_build hbuild)
  refine ⟨exists_draws h hc, fun r target hmeets => ?_⟩
  refine exists_waiting_of_meets (nodup_nodeIds h) (fun u _ w hw => ?_) hmeets
  obtain ⟨e, he, -, rfl⟩ := (mem_forward_iff h).mp hw
  exact (mem_nodeIds_of_mem_edgeList h he.1).2

/-- The flow with crossed loops is drawn with the standard measures when it is classified. An edge
meets a node that waits for it. -/
theorem crossedLoops_is_drawn : ∃ g, FlowGraph.build crossedLoops = .ok g ∧
    (LayoutConfig.standard : LayoutConfig Float).fault? = none ∧
    (∃ p : Positions Float,
      place .standard (Classification.Mapper.apply {} g) = .ok p ∧
        p.Draws (Classification.Mapper.apply {} g)) ∧
    ∃ r, (Ranking.start (nodeIds g) (forward g (backEdges g))).Meets
        (forward g (backEdges g)) r "a" ∧
      ∃ k, OrderedMap.get? r.waiting "a" = some (k + 1) := by
  have hread : (FlowGraph.build crossedLoops).toOption.map (fun g =>
      ((Ranking.start (nodeIds g) (forward g (backEdges g))).ready, forward g (backEdges g) "s"))
      = some (["s", "t"], ["a", "a"]) := by cbv
  cases hbuild : FlowGraph.build crossedLoops with
  | error e => simp [hbuild, Except.toOption] at hread
  | ok g =>
    rw [hbuild] at hread
    obtain ⟨hready, hnext⟩ := Prod.mk.inj (Option.some.inj hread)
    replace hnext : forward g (backEdges g) "s" = ["a"] ++ "a" :: [] := hnext
    obtain ⟨hdrawn, -⟩ := build_is_drawn hbuild (Or.inr ⟨{}, rfl⟩) fault?_standard
    obtain ⟨-, hwaits⟩ := build_is_drawn hbuild (Or.inl rfl) fault?_standard
    have hmeets := Ranking.Meets.intro .refl hready hnext
    exact ⟨g, rfl, fault?_standard, hdrawn, _, hmeets, hwaits _ _ hmeets⟩

end IntegrationFlow.Layout
