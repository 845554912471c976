import Mathlib
import IntegrationFlow.Proofs.Classification
import IntegrationFlow.Proofs.Layout.LongestPath
import IntegrationFlow.Proofs.Reach

/-!
# Cells of a grid

No two nodes of a flow share a cell. The rows of each column are taken one after the other: in the
main lane in breadth-first order along the sequence edges, in the auxiliary lane in the order of the
flow.
-/

namespace IntegrationFlow

open Relation (ReflTransGen)

/-- A sequence edge leads from `u` to `w`. -/
def FlowGraph.Proceeds (g : FlowGraph) (u w : String) : Prop :=
  ∃ e ∈ g.edgeList, e.kind = .sequence ∧ e.source = u ∧ e.target = w

namespace Layout

/-! ### Lanes -/

section Lanes

variable {g : FlowGraph}

/-- Where the sequence edges of a node lead, in the order of the edges. -/
def successors (g : FlowGraph) (id : String) : List String :=
  (g.edgeList.filter fun e => e.kind = .sequence ∧ e.source = id).map Edge.target

lemma leadsTo_successors_iff {u w : String} :
    Search.LeadsTo (successors g) u w ↔ g.Proceeds u w := by
  simp [Search.LeadsTo, successors, FlowGraph.Proceeds, and_assoc]

lemma mainLane_eq (h : g.WellFormed) :
    mainLane g = Search.reach (successors g) (vertices g) (g.starts.map Node.id) := by
  have hnext : (fun id => ((g.outgoing id).filter fun e => e.kind == .sequence).map Edge.target)
      = successors g := by
    funext id
    rw [h.outgoing_eq_filter, List.filter_filter, successors]
    refine congrArg (List.map Edge.target) (List.filter_congr fun e _ => ?_)
    rw [Bool.eq_iff_iff]
    simp
  rw [mainLane, hnext]

/-- The main lane is in breadth-first order. -/
lemma isBreadthFirst_mainLane (h : g.WellFormed) :
    Search.IsBreadthFirst (successors g) (g.starts.map Node.id) (mainLane g) := by
  rw [mainLane_eq h]
  refine Search.isBreadthFirst_reach (fun u w huw => ?_) fun id hid => ?_
  · obtain ⟨e, he, -, -, rfl⟩ := leadsTo_successors_iff.mp huw
    exact List.mem_append_right _ (List.mem_map_of_mem he)
  · obtain ⟨n, hn, rfl⟩ := List.mem_map.mp hid
    exact List.mem_append_left _ (List.mem_map_of_mem (List.mem_filter.mp hn).1)

/-- A node is in the main lane if a start leads to it. -/
lemma mem_mainLane_iff (h : g.WellFormed) {id : String} : id ∈ mainLane g ↔
    ∃ s ∈ g.nodeList, s.role = .start ∧ ReflTransGen g.Proceeds s.id id := by
  have hstep : Search.LeadsTo (successors g) = g.Proceeds := by
    funext u w
    exact propext leadsTo_successors_iff
  rw [(isBreadthFirst_mainLane h).mem_iff, hstep]
  simp [FlowGraph.starts, and_assoc]

lemma mainLane_subset (h : g.WellFormed) : mainLane g ⊆ nodeIds g := by
  intro id hid
  obtain ⟨s, hs, -, hpath⟩ := (mem_mainLane_iff h).mp hid
  cases hpath with
  | refl => exact List.mem_map_of_mem hs
  | tail _ hstep =>
    obtain ⟨e, he, -, -, rfl⟩ := hstep
    exact (mem_nodeIds_of_mem_edgeList h he).2

/-- The nodes of a lane, in the order in which they are given their rows. -/
def members (g : FlowGraph) : Lane → List String
  | .main => mainLane g
  | .auxiliary => (nodeIds g).filter fun id => id ∉ mainLane g

/-- Each node is in one lane. -/
lemma members_perm (h : g.WellFormed) :
    (members g .main ++ members g .auxiliary).Perm (nodeIds g) := by
  have hmain : (mainLane g).Perm ((nodeIds g).filter fun id => id ∈ mainLane g) := by
    refine (List.perm_ext_iff_of_nodup (isBreadthFirst_mainLane h).nodup
      ((nodup_nodeIds h).filter _)).mpr fun id => ?_
    rw [List.mem_filter, decide_eq_true_eq]
    exact ⟨fun hid => ⟨mainLane_subset h hid, hid⟩, And.right⟩
  refine (hmain.append_right _).trans ?_
  simpa [members] using List.filter_append_perm (fun id => decide (id ∈ mainLane g)) (nodeIds g)

end Lanes

/-! ### Columns -/

/-- The row of a cell, if it lies in a column of a lane. -/
def Cell.rowIn (lane : Lane) (rank : Nat) (cell : Cell) : Option Nat :=
  if cell.lane = lane ∧ cell.rank = rank then some cell.row else none

/-- The rows that nodes take in a column of a lane, in the order of the nodes. -/
def Grid.rowsAlong (gr : Grid) (lane : Lane) (rank : Nat) (ids : List String) : List Nat :=
  ids.filterMap fun id => (OrderedMap.get? gr.cells id).bind (Cell.rowIn lane rank)

/-- How many nodes stand in a column of a lane. -/
def Grid.columnSize (gr : Grid) (lane : Lane) (rank : Nat) : Nat :=
  gr.cells.countP fun c => c.2.lane = lane ∧ c.2.rank = rank

lemma Cell.isSome_rowIn (lane : Lane) (rank : Nat) (cell : Cell) :
    (cell.rowIn lane rank).isSome = decide (cell.lane = lane ∧ cell.rank = rank) := by
  unfold Cell.rowIn
  split <;> simp [*]

lemma Grid.columnSize_eq (gr : Grid) (lane : Lane) (rank : Nat) :
    gr.columnSize lane rank = (gr.cells.filterMap fun c => c.2.rowIn lane rank).length := by
  rw [List.length_filterMap_eq_countP, columnSize]
  simp only [Cell.isSome_rowIn]

/-- The cells of a lane take the rows of a column one after the other. -/
lemma filterMap_rowIn_laneCells (rankOf : String → Nat) (lane lane' : Lane) (rank : Nat)
    (before ids : List String) :
    (laneCells rankOf lane' before ids).filterMap (fun c => c.2.rowIn lane rank)
      = if lane' = lane then
          List.range' (before.countP fun b => rankOf b = rank) (ids.countP fun b => rankOf b = rank)
        else [] := by
  induction ids generalizing before with
  | nil => simp [laneCells]
  | cons id ids ih =>
    rw [laneCells, List.filterMap_cons, ih]
    by_cases hlane : lane' = lane
    · by_cases hrank : rankOf id = rank
      · simp [Cell.rowIn, hlane, hrank, List.range'_succ]
      · simp [Cell.rowIn, hlane, hrank]
    · simp [Cell.rowIn, hlane]

/-- Cells are distinct if the rows of each column are. -/
lemma nodup_of_nodup_rows {cells : List Cell}
    (h : ∀ lane rank, (cells.filterMap (Cell.rowIn lane rank)).Nodup) : cells.Nodup := by
  induction cells with
  | nil => exact List.nodup_nil
  | cons cell cells ih =>
    refine List.nodup_cons.mpr ⟨fun hmem => ?_, ih fun lane rank => ?_⟩
    · have hrow : cell.rowIn cell.lane cell.rank = some cell.row := if_pos ⟨rfl, rfl⟩
      have hnodup := h cell.lane cell.rank
      rw [List.filterMap_cons_some hrow, List.nodup_cons] at hnodup
      exact hnodup.1 (List.mem_filterMap.mpr ⟨cell, hmem, hrow⟩)
    · exact (h lane rank).sublist ((List.sublist_cons_self ..).filterMap _)

/-! ### Grids -/

/-- The rank of a node. -/
def rankIn (g : FlowGraph) (id : String) : Nat :=
  (OrderedMap.get? (ranks (nodeIds g) (forward g (backEdges g))) id).getD 0

/-- The cells of both lanes. -/
def cellsOf (g : FlowGraph) (main auxiliary : List String) : List (String × Cell) :=
  laneCells (rankIn g) .main [] main ++ laneCells (rankIn g) .auxiliary [] auxiliary

/-- The grid of a flow, where the nodes of the main lane and the number of its rows are given. -/
def gridOf (g : FlowGraph) (main : List String) (mainRows : Nat) : Grid where
  cells := (nodeIds g).filterMap fun id =>
    (OrderedMap.get? (OrderedMap.ofList
      (cellsOf g main ((nodeIds g).filter fun id => id ∉ main))) id).map fun cell => (id, cell)
  mainRows

lemma grid_eq (g : FlowGraph) :
    grid g = gridOf g (mainLane g) (rowsNeeded (rankIn g) (mainLane g)) := rfl

lemma keys_cellsOf (g : FlowGraph) (main auxiliary : List String) :
    OrderedMap.keys (cellsOf g main auxiliary) = main ++ auxiliary := by
  rw [cellsOf, OrderedMap.keys, List.map_append, ← OrderedMap.keys, ← OrderedMap.keys,
    keys_laneCells, keys_laneCells]

lemma filterMap_rowIn_cellsOf (g : FlowGraph) (lane : Lane) (rank : Nat) :
    (cellsOf g (members g .main) (members g .auxiliary)).filterMap (fun c => c.2.rowIn lane rank)
      = List.range ((members g lane).countP fun id => rankIn g id = rank) := by
  rw [cellsOf, List.filterMap_append, filterMap_rowIn_laneCells, filterMap_rowIn_laneCells,
    List.range_eq_range']
  cases lane <;> simp

section Cells

variable {g : FlowGraph}

/-- The cells of a grid are those of its lanes. -/
lemma cells_grid_perm (h : g.WellFormed) :
    (grid g).cells.Perm (cellsOf g (members g .main) (members g .auxiliary)) := by
  have hnodup : (OrderedMap.keys (cellsOf g (members g .main) (members g .auxiliary))).Nodup := by
    rw [keys_cellsOf]
    exact (members_perm h).nodup_iff.mpr (nodup_nodeIds h)
  have hcells : (grid g).cells = (nodeIds g).filterMap fun id =>
      (OrderedMap.get? (OrderedMap.ofList (cellsOf g (members g .main) (members g .auxiliary)))
        id).map fun cell => (id, cell) := rfl
  rw [hcells, OrderedMap.ofList_eq_self hnodup]
  refine OrderedMap.filterMap_get?_perm hnodup ?_
  rw [keys_cellsOf]
  exact (members_perm h).symm

lemma columnSize_grid (h : g.WellFormed) (lane : Lane) (rank : Nat) :
    (grid g).columnSize lane rank = (members g lane).countP fun id => rankIn g id = rank := by
  rw [Grid.columnSize_eq, ((cells_grid_perm h).filterMap _).length_eq, filterMap_rowIn_cellsOf,
    List.length_range]

/-- The lane of a cell is that of its node. -/
lemma lane_eq_main_iff (h : g.WellFormed) {id : String} {cell : Cell}
    (hcell : (id, cell) ∈ (grid g).cells) : cell.lane = .main ↔ id ∈ mainLane g := by
  rcases List.mem_append.mp ((cells_grid_perm h).mem_iff.mp hcell) with hmem | hmem
  · have hid : id ∈ OrderedMap.keys (laneCells (rankIn g) .main [] (members g .main)) :=
      List.mem_map_of_mem hmem
    rw [keys_laneCells] at hid
    exact iff_of_true (of_mem_laneCells hmem).2 hid
  · have hid : id ∈ OrderedMap.keys (laneCells (rankIn g) .auxiliary [] (members g .auxiliary)) :=
      List.mem_map_of_mem hmem
    rw [keys_laneCells] at hid
    refine iff_of_false (fun hmain => ?_) (of_decide_eq_true (List.mem_filter.mp hid).2)
    exact absurd (hmain.symm.trans (of_mem_laneCells hmem).2) (by decide)

/-- No two nodes share a cell. -/
lemma nodup_cells_grid (h : g.WellFormed) : ((grid g).cells.map Prod.snd).Nodup := by
  refine nodup_of_nodup_rows fun lane rank => ?_
  rw [List.filterMap_map]
  refine ((cells_grid_perm h).filterMap _).nodup_iff.mpr ?_
  exact filterMap_rowIn_cellsOf g lane rank ▸ List.nodup_range

/-- Along the nodes of a lane, the rows of a column are taken one after the other. -/
lemma rowsAlong_members (h : g.WellFormed) (lane : Lane) (rank : Nat) :
    (grid g).rowsAlong lane rank (members g lane)
      = List.range ((grid g).columnSize lane rank) := by
  have hnodup : (OrderedMap.keys (grid g).cells).Nodup := by
    rw [OrderedMap.keys, map_fst_grid]
    exact nodup_nodeIds h
  have hpart : laneCells (rankIn g) lane [] (members g lane) ⊆ (grid g).cells := by
    intro c hc
    refine (cells_grid_perm h).mem_iff.mpr ?_
    cases lane with
    | main => exact List.mem_append_left _ hc
    | auxiliary => exact List.mem_append_right _ hc
  have hrows := OrderedMap.filterMap_keys hnodup hpart fun cell => cell.bind (Cell.rowIn lane rank)
  rw [keys_laneCells] at hrows
  rw [Grid.rowsAlong, hrows, columnSize_grid h, List.range_eq_range']
  simpa using filterMap_rowIn_laneCells (rankIn g) lane lane rank [] (members g lane)

/-- Nodes of the main lane take no rows in the auxiliary one. -/
lemma rowsAlong_nodeIds (h : g.WellFormed) (rank : Nat) :
    (grid g).rowsAlong .auxiliary rank (nodeIds g)
      = (grid g).rowsAlong .auxiliary rank (members g .auxiliary) := by
  rw [Grid.rowsAlong, Grid.rowsAlong, members, List.filterMap_filter]
  refine List.filterMap_congr fun id _ => ?_
  by_cases hid : id ∈ mainLane g
  · rw [if_neg (by simpa using hid), Option.bind_eq_none_iff]
    intro cell hcell
    have hlane := (lane_eq_main_iff h (OrderedMap.mem_of_get?_eq_some hcell)).mpr hid
    simp [Cell.rowIn, hlane]
  · rw [if_pos (by simpa using hid)]

end Cells

/-! ### Rows of the main lane -/

lemma countP_rank_eq (rankOf : String → Nat) (ids : List String) (rank : Nat) :
    (ids.countP fun id => rankOf id = rank) = (ids.map rankOf).count rank := by
  rw [List.count, List.countP_map]
  rfl

/-- As many rows are needed as some rank occurs, and no rank occurs more often. -/
lemma isGreatest_rowsNeeded (rankOf : String → Nat) (ids : List String) :
    IsGreatest {k | k = 0 ∨ k ∈ (ids.map rankOf).map (ids.map rankOf).count}
      (rowsNeeded rankOf ids) := by
  have heq : rowsNeeded rankOf ids
      = ((ids.map rankOf).map (ids.map rankOf).count).foldl max 0 := by
    simp only [rowsNeeded, countP_rank_eq, List.map_map]
    rfl
  rw [heq]
  exact isGreatest_foldl_max 0 _

/-- The greatest of the numbers of nodes that were counted in the columns is that of rows. -/
lemma foldl_max_values_tally {rankOf : String → Nat} {ids : List String}
    {taken : OrderedMap Nat Nat} (h : taken.Perm ((ids.map rankOf).foldl OrderedMap.tally [])) :
    (OrderedMap.values taken).foldl max 0 = rowsNeeded rankOf ids := by
  refine (isGreatest_foldl_max 0 _).unique ?_
  have hset : {k | k = 0 ∨ k ∈ OrderedMap.values taken}
      = {k | k = 0 ∨ k ∈ (ids.map rankOf).map (ids.map rankOf).count} := by
    ext k
    refine or_congr_right ?_
    rw [OrderedMap.values, List.mem_map, List.mem_map]
    constructor
    · rintro ⟨⟨rank, k⟩, hmem, rfl⟩
      obtain ⟨hrank, rfl⟩ := OrderedMap.mem_foldl_tally.mp (h.mem_iff.mp hmem)
      exact ⟨rank, hrank, rfl⟩
    · rintro ⟨rank, hrank, rfl⟩
      exact ⟨(rank, _), h.mem_iff.mpr (OrderedMap.mem_foldl_tally.mpr ⟨hrank, rfl⟩), rfl⟩
  rw [hset]
  exact isGreatest_rowsNeeded rankOf ids

lemma isGreatest_mainRows {g : FlowGraph} (h : g.WellFormed) :
    IsGreatest (Set.range ((grid g).columnSize .main)) (grid g).mainRows := by
  have hsize : (grid g).columnSize .main = ((mainLane g).map (rankIn g)).count := by
    funext rank
    rw [columnSize_grid h, countP_rank_eq]
    rfl
  rw [hsize, range_count]
  exact isGreatest_rowsNeeded (rankIn g) (mainLane g)

lemma row_lt_mainRows {g : FlowGraph} (h : g.WellFormed) {id : String} {cell : Cell}
    (hcell : (id, cell) ∈ (grid g).cells) (hlane : cell.lane = .main) :
    cell.row < (grid g).mainRows := by
  have hrow : cell.row ∈ (cellsOf g (members g .main) (members g .auxiliary)).filterMap
      fun c => c.2.rowIn .main cell.rank :=
    List.mem_filterMap.mpr
      ⟨(id, cell), (cells_grid_perm h).mem_iff.mp hcell, if_pos ⟨hlane, rfl⟩⟩
  rw [filterMap_rowIn_cellsOf, List.mem_range, ← columnSize_grid h] at hrow
  exact hrow.trans_le ((isGreatest_mainRows h).2 ⟨cell.rank, rfl⟩)

/-! ### Placement -/

/-- Each node of a flow has one cell and no two have the same. The main lane holds what the starts
lead to along sequence edges, and has the rows that its fullest column takes. -/
structure Grid.Places (gr : Grid) (g : FlowGraph) : Prop where
  ids_eq : gr.cells.map Prod.fst = g.nodeList.map Node.id
  nodup_ids : (g.nodeList.map Node.id).Nodup
  lane_eq_main_iff : ∀ id cell, (id, cell) ∈ gr.cells → (cell.lane = .main ↔
    ∃ s ∈ g.nodeList, s.role = .start ∧ ReflTransGen g.Proceeds s.id id)
  nodup_cells : (gr.cells.map Prod.snd).Nodup
  rows_main : ∀ order, Search.IsBreadthFirst (successors g) (g.starts.map Node.id) order →
    ∀ rank, gr.rowsAlong .main rank order = List.range (gr.columnSize .main rank)
  rows_auxiliary : ∀ rank, gr.rowsAlong .auxiliary rank (g.nodeList.map Node.id)
    = List.range (gr.columnSize .auxiliary rank)
  isGreatest_mainRows : IsGreatest (Set.range (gr.columnSize .main)) gr.mainRows
  row_lt : ∀ id cell, (id, cell) ∈ gr.cells → cell.lane = .main → cell.row < gr.mainRows

lemma places_grid {g : FlowGraph} (h : g.WellFormed) : (grid g).Places g where
  ids_eq := map_fst_grid g
  nodup_ids := nodup_nodeIds h
  lane_eq_main_iff _ _ hcell := (lane_eq_main_iff h hcell).trans (mem_mainLane_iff h)
  nodup_cells := nodup_cells_grid h
  rows_main order horder rank := by
    rw [horder.eq (isBreadthFirst_mainLane h)]
    exact rowsAlong_members h .main rank
  rows_auxiliary rank := (rowsAlong_nodeIds h rank).trans (rowsAlong_members h .auxiliary rank)
  isGreatest_mainRows := isGreatest_mainRows h
  row_lt _ _ := row_lt_mainRows h

/-- The nodes of a flow that was built are placed without collisions. The nodes of the main lane may
be noted in tables, with the number under which each is met and with how many have each rank: these
give the same grid in whatever order they are read. -/
theorem grid_has_no_collisions {records : List Record} {acyclic : Option Bool}
    {built g : FlowGraph} (hbuild : FlowGraph.build records acyclic = .ok built)
    (hg : g = built ∨ ∃ m : Classification.Mapper, g = m.apply built) :
    (grid g).Places g ∧
    (∃! order, Search.IsBreadthFirst (successors g) (g.starts.map Node.id) order) ∧
    ∀ (order : List String) (found : List (String × Nat)) (taken : OrderedMap Nat Nat),
      Search.IsBreadthFirst (successors g) (g.starts.map Node.id) order →
      found.Perm order.zipIdx →
      taken.Perm ((order.map (rankIn g)).foldl OrderedMap.tally []) →
        gridOf g ((found.mergeSort fun x y => x.2 ≤ y.2).map Prod.fst)
          ((OrderedMap.values taken).foldl max 0) = grid g := by
  have h : g.WellFormed := by
    rcases hg with rfl | ⟨m, rfl⟩
    · exact wellFormed_of_build hbuild
    · exact Classification.Mapper.wellFormed_apply m (wellFormed_of_build hbuild)
  have horder := isBreadthFirst_mainLane h
  refine ⟨places_grid h, ⟨mainLane g, horder, fun _ horder' => horder'.eq horder⟩, ?_⟩
  intro order found taken horder' hfound htaken
  obtain rfl := horder'.eq horder
  rw [map_fst_mergeSort_of_perm hfound, foldl_max_values_tally htaken, grid_eq]

/-- Records of a flow with two starts, a loop, and nodes that no sequence edge from a start leads
to. The nodes stand in another order than that in which they are met. -/
def sharedColumns : List Record :=
  [{ id := "lone", name := "Lone", sourceType := "map", document := "d",
     dialect := some .webMethods },
   { id := "b", name := "B", sourceType := "map", document := "d", dialect := some .webMethods,
     links := [⟨"z", .error, none⟩] },
   { id := "a", name := "A", sourceType := "map", document := "d", dialect := some .webMethods,
     links := [⟨"a", .sequence, none⟩, ⟨"x", .error, none⟩] },
   { id := "s", name := "S", sourceType := "start", document := "d", dialect := some .webMethods,
     role := .start, links := [⟨"a", .sequence, none⟩, ⟨"b", .sequence, none⟩] },
   { id := "t", name := "T", sourceType := "start", document := "d", dialect := some .webMethods,
     role := .start, links := [⟨"c", .sequence, none⟩, ⟨"a", .sequence, none⟩] },
   { id := "c", name := "C", sourceType := "map", document := "d", dialect := some .webMethods },
   { id := "z", name := "Z", sourceType := "map", document := "d", dialect := some .webMethods },
   { id := "x", name := "X", sourceType := "map", document := "d", dialect := some .webMethods }]

theorem sharedColumns_has_no_collisions : ∃ g, FlowGraph.build sharedColumns = .ok g ∧
    (grid g).cells = [("lone", ⟨0, 0, .auxiliary⟩), ("b", ⟨1, 1, .main⟩), ("a", ⟨1, 0, .main⟩),
      ("s", ⟨0, 0, .main⟩), ("t", ⟨0, 1, .main⟩), ("c", ⟨1, 2, .main⟩),
      ("z", ⟨2, 0, .auxiliary⟩), ("x", ⟨2, 1, .auxiliary⟩)] ∧
    (grid g).mainRows = 3 ∧ (grid g).Places g ∧
    Search.IsBreadthFirst (successors g) (g.starts.map Node.id) ["s", "t", "a", "b", "c"] ∧
    gridOf g (([("c", 4), ("s", 0), ("b", 3), ("a", 2), ("t", 1)].mergeSort
      fun x y => x.2 ≤ y.2).map Prod.fst) ((OrderedMap.values [(1, 3), (0, 2)]).foldl max 0)
        = grid g := by
  have hread : (FlowGraph.build sharedColumns).toOption.map (fun g =>
      ((grid g).cells, (grid g).mainRows, mainLane g, (mainLane g).map (rankIn g)))
      = some ([("lone", ⟨0, 0, .auxiliary⟩), ("b", ⟨1, 1, .main⟩), ("a", ⟨1, 0, .main⟩),
          ("s", ⟨0, 0, .main⟩), ("t", ⟨0, 1, .main⟩), ("c", ⟨1, 2, .main⟩),
          ("z", ⟨2, 0, .auxiliary⟩), ("x", ⟨2, 1, .auxiliary⟩)],
          3, ["s", "t", "a", "b", "c"], [0, 0, 1, 1, 1]) := by cbv
  obtain ⟨g, hbuild, hread⟩ := exists_of_map_toOption hread
  obtain ⟨hcells, hread⟩ := Prod.mk.inj hread
  obtain ⟨hrows, hread⟩ := Prod.mk.inj hread
  obtain ⟨hmain, hranks⟩ := Prod.mk.inj hread
  have horder := isBreadthFirst_mainLane (wellFormed_of_build hbuild)
  obtain ⟨hplaces, -, hany⟩ := grid_has_no_collisions hbuild (Or.inl rfl)
  refine ⟨g, hbuild, hcells, hrows, hplaces, hmain ▸ horder, hany _ _ _ horder ?_ ?_⟩
  · rw [hmain]
    decide
  · rw [hranks]
    decide

end Layout

end IntegrationFlow
