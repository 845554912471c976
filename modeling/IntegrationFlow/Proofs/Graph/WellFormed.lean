import Mathlib
import IntegrationFlow.Proofs.Graph.Builder

/-!
# Well-formed graphs

In a graph that was built, nodes and edges are found by their ids, edges join nodes, no two of them
say the same, and each node lists the edges that it takes part in. The graph says neither more nor
less than its records.
-/

namespace IntegrationFlow

namespace FlowGraph

/-- What holds of the nodes and edges of a graph among each other. -/
structure WellFormed (g : FlowGraph) : Prop where
  keys_eq : OrderedMap.keys g.nodes = g.nodeList.map Node.id
  keys_nodup : (OrderedMap.keys g.nodes).Nodup
  edge_keys_eq : OrderedMap.keys g.edges = g.edgeList.map Edge.id
  edge_ids : g.edgeList.map Edge.id = (List.range g.edges.length).map fun i => Edge.idOf (i + 1)
  ends_mem : ∀ e ∈ g.edgeList,
    e.source ∈ OrderedMap.keys g.nodes ∧ e.target ∈ OrderedMap.keys g.nodes
  distinct : (g.edgeList.map fun e => (e.source, e.target, e.kind)).Nodup
  outgoing_eq : ∀ n ∈ g.nodeList,
    n.outgoing = (g.edgeList.filter fun e => e.source == n.id).map Edge.id
  incoming_eq : ∀ n ∈ g.nodeList,
    n.incoming = (g.edgeList.filter fun e => e.target == n.id).map Edge.id

/-- A graph says what records say. `idOf` gives the node of each merge key: it holds the records
with that key, and edges lead from node to node where links lead from record to record. -/
structure Describes (g : FlowGraph) (records : List Record) (idOf : String → String) : Prop where
  idOf_injOn : ∀ key ∈ mergeKeys records, ∀ key' ∈ mergeKeys records,
    idOf key = idOf key' → key = key'
  nodes_eq : g.nodeList.map (fun n => { n with incoming := [], outgoing := [] })
    = (mergeKeys records).map fun key => foldRecords (idOf key) (recordsWith records key)
  edges_iff : ∀ source target kind,
    (∃ e ∈ g.edgeList, e.source = source ∧ e.target = target ∧ e.kind = kind) ↔
      ∃ r ∈ records, ∃ l ∈ r.links, ∃ key, Resolves records r.document l.target key ∧
        idOf r.groupKey = source ∧ idOf key = target ∧ l.kind = kind

end FlowGraph

/-! ### Numbered edges -/

lemma Edge.idOf_injective : Function.Injective Edge.idOf := by
  intro i j h
  have hrepr : i.repr = j.repr := String.append_right_inj _ |>.mp h
  exact Nat.repr_inj.mp hrepr

/-- Arrows numbered from one. -/
def numberArrows (arrows : List Arrow) : List Edge :=
  arrows.mapIdx fun i a => a.toEdge (Edge.idOf (i + 1))

@[simp] lemma length_numberArrows (arrows : List Arrow) :
    (numberArrows arrows).length = arrows.length := List.length_mapIdx

lemma numberArrows_concat (arrows : List Arrow) (a : Arrow) :
    numberArrows (arrows ++ [a])
      = numberArrows arrows ++ [a.toEdge (Edge.idOf (arrows.length + 1))] :=
  List.mapIdx_concat

lemma map_id_numberArrows (arrows : List Arrow) :
    (numberArrows arrows).map Edge.id
      = (List.range (numberArrows arrows).length).map fun i => Edge.idOf (i + 1) := by
  refine List.ext_getElem (by simp) fun i h _ => ?_
  simp [numberArrows, Arrow.toEdge]

/-- Numbers leave the ends and the kinds as they are. -/
lemma map_key_numberArrows (arrows : List Arrow) :
    (numberArrows arrows).map (fun e => (e.source, e.target, e.kind)) = arrows.map Arrow.key := by
  refine List.ext_getElem (by simp [numberArrows]) fun i h _ => ?_
  simp [numberArrows, Arrow.toEdge, Arrow.key]

lemma exists_edge_numberArrows {arrows : List Arrow} {source target : String} {kind : EdgeKind} :
    (∃ e ∈ numberArrows arrows, e.source = source ∧ e.target = target ∧ e.kind = kind) ↔
      (source, target, kind) ∈ arrows.map Arrow.key := by
  rw [← map_key_numberArrows, List.mem_map]
  simp

/-! ### Graphs from parts -/

section OfParts

/-- A node that lists, after what it lists already, the edges that it takes part in. -/
def Node.listing (n : Node) (edges : List Edge) : Node :=
  { n with
    outgoing := n.outgoing ++ (edges.filter fun e => e.source == n.id).map Edge.id
    incoming := n.incoming ++ (edges.filter fun e => e.target == n.id).map Edge.id }

lemma Node.listing_nil (n : Node) : n.listing [] = n := by simp [listing]

/-- One more edge is listed where it begins, and then where it ends. -/
lemma Node.listing_concat (n : Node) (edges : List Edge) (e : Edge) :
    n.listing (edges ++ [e]) =
      let left := if n.id = e.source then
        { n.listing edges with outgoing := (n.listing edges).outgoing ++ [e.id] }
      else n.listing edges
      if n.id = e.target then { left with incoming := left.incoming ++ [e.id] } else left := by
  have hsource : (e.source == n.id) = decide (n.id = e.source) := by simp [beq_eq_decide, eq_comm]
  have htarget : (e.target == n.id) = decide (n.id = e.target) := by simp [beq_eq_decide, eq_comm]
  simp only [listing, List.filter_append, List.filter_singleton, hsource, htarget]
  split_ifs <;> simp_all

variable (nodes : List Node) (arrows : List Arrow)

lemma ofParts_concat (a : Arrow) :
    FlowGraph.ofParts nodes (arrows ++ [a]) = (FlowGraph.ofParts nodes arrows).addArrow a :=
  List.foldl_concat ..

/-- Edges are kept under their ids: a new number is never taken. -/
lemma edges_ofParts :
    (FlowGraph.ofParts nodes arrows).edges = (numberArrows arrows).map fun e => (e.id, e) := by
  induction arrows using List.reverseRecOn with
  | nil => rfl
  | append_singleton arrows a ih =>
    have hfresh : Edge.idOf (arrows.length + 1) ∉
        OrderedMap.keys ((numberArrows arrows).map fun e => (e.id, e)) := by
      rw [OrderedMap.keys, List.map_map]
      change _ ∉ (numberArrows arrows).map Edge.id
      rw [map_id_numberArrows, length_numberArrows, List.mem_map]
      rintro ⟨i, hi, heq⟩
      have hlt := List.mem_range.mp hi
      have hnumber := Edge.idOf_injective heq
      omega
    rw [ofParts_concat, FlowGraph.addArrow, ih, List.length_map, length_numberArrows,
      OrderedMap.insert_of_notMem hfresh, numberArrows_concat, List.map_append]
    rfl

lemma edgeList_ofParts : (FlowGraph.ofParts nodes arrows).edgeList = numberArrows arrows := by
  simp [FlowGraph.edgeList, edges_ofParts, OrderedMap.values, Function.comp_def]

lemma keys_nodes_ofParts :
    OrderedMap.keys (FlowGraph.ofParts nodes arrows).nodes = nodes.map Node.id := by
  induction arrows using List.reverseRecOn with
  | nil => simp [FlowGraph.ofParts, OrderedMap.keys, Function.comp_def]
  | append_singleton arrows a ih =>
    rw [ofParts_concat, FlowGraph.addArrow, OrderedMap.keys_modify, OrderedMap.keys_modify, ih]

variable {nodes} in
/-- Where ids are distinct, the lists that grow with each arrow are those of the edges. -/
lemma nodes_ofParts (hnodes : (nodes.map Node.id).Nodup) :
    (FlowGraph.ofParts nodes arrows).nodes
      = nodes.map fun n => (n.id, n.listing (numberArrows arrows)) := by
  induction arrows using List.reverseRecOn with
  | nil => simp [FlowGraph.ofParts, numberArrows, Node.listing_nil]
  | append_singleton arrows a ih =>
    have hkeys : (OrderedMap.keys (FlowGraph.ofParts nodes arrows).nodes).Nodup := by
      rwa [keys_nodes_ofParts]
    rw [ofParts_concat, FlowGraph.addArrow,
      OrderedMap.modify_eq_map (by rwa [OrderedMap.keys_modify]), OrderedMap.modify_eq_map hkeys,
      ih, edges_ofParts, List.length_map, length_numberArrows, numberArrows_concat]
    simp only [List.map_map]
    refine List.map_congr_left fun n _ => ?_
    rw [Node.listing_concat]
    rfl

variable {nodes} in
lemma nodeList_ofParts (hnodes : (nodes.map Node.id).Nodup) :
    (FlowGraph.ofParts nodes arrows).nodeList
      = nodes.map fun n => n.listing (numberArrows arrows) := by
  simp [FlowGraph.nodeList, nodes_ofParts arrows hnodes, OrderedMap.values, Function.comp_def]

/-- Nodes with ids of their own that list nothing yet, and arrows between them, no two of them
parallel, make a well-formed graph. -/
theorem wellFormed_ofParts {nodes : List Node} {arrows : List Arrow}
    (hnodes : (nodes.map Node.id).Nodup) (hbare : ∀ n ∈ nodes, n.outgoing = [] ∧ n.incoming = [])
    (harrows : (arrows.map Arrow.key).Nodup)
    (hends : ∀ a ∈ arrows, a.source ∈ nodes.map Node.id ∧ a.target ∈ nodes.map Node.id) :
    (FlowGraph.ofParts nodes arrows).WellFormed := by
  constructor
  · rw [keys_nodes_ofParts, nodeList_ofParts arrows hnodes, List.map_map]
    rfl
  · rwa [keys_nodes_ofParts]
  · rw [edgeList_ofParts, edges_ofParts]
    simp [OrderedMap.keys, Function.comp_def]
  · rw [edgeList_ofParts, edges_ofParts, List.length_map, map_id_numberArrows]
  · intro e he
    rw [edgeList_ofParts] at he
    rw [keys_nodes_ofParts]
    have hkey := exists_edge_numberArrows.mp ⟨e, he, rfl, rfl, rfl⟩
    obtain ⟨a, ha, heq⟩ := List.mem_map.mp hkey
    obtain ⟨hsource, htarget, -⟩ : a.source = e.source ∧ a.target = e.target ∧ a.kind = e.kind := by
      simpa [Arrow.key] using heq
    rw [← hsource, ← htarget]
    exact hends a ha
  · rwa [edgeList_ofParts, map_key_numberArrows]
  · intro n hn
    rw [nodeList_ofParts arrows hnodes] at hn
    obtain ⟨x, hx, rfl⟩ := List.mem_map.mp hn
    rw [edgeList_ofParts, Node.listing, (hbare x hx).1, List.nil_append]
  · intro n hn
    rw [nodeList_ofParts arrows hnodes] at hn
    obtain ⟨x, hx, rfl⟩ := List.mem_map.mp hn
    rw [edgeList_ofParts, Node.listing, (hbare x hx).2, List.nil_append]

end OfParts

/-! ### Graphs from records -/

/-- The arrows of a graph join the nodes that its links join. -/
lemma mem_map_key_arrows {records : List Record} {arrows : List Arrow}
    (h : List.Forall₂ (fun rl a => IsArrow records rl.1 rl.2 a) (linksOf records) arrows)
    {source target : String} {kind : EdgeKind} :
    (source, target, kind) ∈ arrows.map Arrow.key ↔
      ∃ r ∈ records, ∃ l ∈ r.links, ∃ key, Resolves records r.document l.target key ∧
        nodeIdOf records r.groupKey = source ∧ nodeIdOf records key = target ∧ l.kind = kind := by
  rw [List.mem_map]
  constructor
  · rintro ⟨a, ha, heq⟩
    obtain ⟨⟨r, l⟩, hrl, key, hkey, rfl⟩ := exists_of_mem_forall₂ h ha
    obtain ⟨hr, hl⟩ := mem_linksOf.mp hrl
    obtain ⟨hsource, htarget, hkind⟩ : nodeIdOf records r.groupKey = source ∧
        nodeIdOf records key = target ∧ l.kind = kind := by simpa [Arrow.key] using heq
    exact ⟨r, hr, l, hl, key, hkey, hsource, htarget, hkind⟩
  · rintro ⟨r, hr, l, hl, key, hkey, rfl, rfl, rfl⟩
    obtain ⟨a, ha, key', hkey', rfl⟩ := exists_of_mem_forall₂ h.flip (mem_linksOf.mpr ⟨hr, hl⟩)
    refine ⟨_, ha, ?_⟩
    -- a link leads to one key only
    have heq : key' = key := by
      rw [← resolveLink?_eq_some_iff] at hkey hkey'
      exact Option.some.inj (hkey'.symm.trans hkey)
    simp [Arrow.key, heq]

theorem wellFormed_of_assemble {records : List Record} {g : FlowGraph}
    (h : FlowGraph.assemble records = .ok g) :
    g.WellFormed ∧ g.Describes records (nodeIdOf records) := by
  obtain ⟨arrows, harrows, rfl⟩ := assemble_eq_ok_iff.mp h
  have hids : ((mergeKeys records).map (nodeOf records)).map Node.id
      = (mergeKeys records).map (nodeIdOf records) := by
    rw [List.map_map]
    rfl
  have hnodes : (((mergeKeys records).map (nodeOf records)).map Node.id).Nodup := by
    rw [hids]
    exact nodup_map_nodeIdOf records
  constructor
  · refine wellFormed_ofParts hnodes ?_ ?_ ?_
    · intro n hn
      obtain ⟨key, -, rfl⟩ := List.mem_map.mp hn
      exact ⟨rfl, rfl⟩
    · rw [map_key_distinctArrows]
      exact nodup_eraseDups _
    · intro a ha
      have hkey : a.key ∈ arrows.map Arrow.key := by
        rw [← List.mem_eraseDups, ← map_key_distinctArrows]
        exact List.mem_map_of_mem ha
      obtain ⟨r, hr, l, -, key, hresolves, hsource, htarget, -⟩ :=
        (mem_map_key_arrows harrows).mp hkey
      rw [hids, ← hsource, ← htarget]
      exact ⟨List.mem_map_of_mem (groupKey_mem_mergeKeys hr),
        List.mem_map_of_mem hresolves.mem_mergeKeys⟩
  · constructor
    · intro key hkey key' hkey' heq
      exact List.inj_on_of_nodup_map (nodup_map_nodeIdOf records) hkey hkey' heq
    · rw [nodeList_ofParts _ hnodes, List.map_map, List.map_map]
      rfl
    · intro source target kind
      rw [edgeList_ofParts, exists_edge_numberArrows, map_key_distinctArrows, List.mem_eraseDups]
      exact mem_map_key_arrows harrows

/-- Looking for circles does not change a graph. -/
lemma assemble_of_build {records : List Record} {acyclic : Option Bool} {g : FlowGraph}
    (h : FlowGraph.build records acyclic = .ok g) : FlowGraph.assemble records = .ok g := by
  obtain ⟨g', hg', h⟩ := bind_eq_ok_iff.mp h
  rw [hg']
  split at h
  · split at h
    · exact absurd h (throw_ne_ok _ _)
    · exact h
  · exact h

lemma wellFormed_of_build {records : List Record} {acyclic : Option Bool} {g : FlowGraph}
    (h : FlowGraph.build records acyclic = .ok g) : g.WellFormed :=
  (wellFormed_of_assemble (assemble_of_build h)).1

/-! ### Parallel links -/

/-- Of arrows that are parallel the first is kept. -/
lemma isFirst_of_mem_distinctArrows {arrows : List Arrow} {a : Arrow}
    (h : a ∈ distinctArrows arrows) : IsFirst (fun b => b.key = a.key) arrows a := by
  induction arrows using List.reverseRecOn with
  | nil => simp [distinctArrows] at h
  | append_singleton arrows x ih =>
    rw [distinctArrows, List.foldl_concat, ← distinctArrows] at h
    have hkept : a ∈ distinctArrows arrows →
        IsFirst (fun b => b.key = a.key) (arrows ++ [x]) a := by
      intro ha
      obtain ⟨before, after, rfl, hbefore, hkey⟩ := ih ha
      exact ⟨before, after ++ [x], by simp, hbefore, hkey⟩
    split at h
    · exact hkept h
    · rename_i hnew
      rcases List.mem_append.mp h with ha | ha
      · exact hkept ha
      · obtain rfl := List.mem_singleton.mp ha
        refine ⟨arrows, [], rfl, fun b hb hkey => hnew ?_, rfl⟩
        have hmem : a.key ∈ (distinctArrows arrows).map Arrow.key := by
          rw [map_key_distinctArrows, List.mem_eraseDups, ← hkey]
          exact List.mem_map_of_mem hb
        obtain ⟨c, hc, heq⟩ := List.mem_map.mp hmem
        exact List.any_eq_true.mpr ⟨c, hc, Arrow.parallels_iff.mpr heq⟩

/-- A link of a record joins two nodes in a way. -/
def Joins (records : List Record) (source target : String) (kind : EdgeKind)
    (rl : Record × Link) : Prop :=
  ∃ key, Resolves records rl.1.document rl.2.target key ∧
    nodeIdOf records rl.1.groupKey = source ∧ nodeIdOf records key = target ∧ rl.2.kind = kind

lemma joins_iff_of_isArrow {records : List Record} {rl : Record × Link} {a b : Arrow}
    (h : IsArrow records rl.1 rl.2 a) :
    Joins records b.source b.target b.kind rl ↔ a.key = b.key := by
  obtain ⟨key, hkey, rfl⟩ := h
  simp only [Arrow.key, Prod.mk.injEq]
  constructor
  · rintro ⟨key', hkey', hsource, htarget, hkind⟩
    -- a link leads to one key only
    have hsame : key' = key := by
      rw [← resolveLink?_eq_some_iff] at hkey hkey'
      exact Option.some.inj (hkey'.symm.trans hkey)
    exact ⟨hsource, hsame ▸ htarget, hkind⟩
  · exact fun hends => ⟨key, hkey, hends⟩

/-- An edge has the condition of the first link that joins its nodes in its way. -/
theorem exists_link_of_mem_edgeList {records : List Record} {g : FlowGraph}
    (h : FlowGraph.assemble records = .ok g) {e : Edge} (he : e ∈ g.edgeList) :
    ∃ rl, IsFirst (Joins records e.source e.target e.kind) (linksOf records) rl ∧
      rl.2.condition = e.condition := by
  obtain ⟨arrows, harrows, rfl⟩ := assemble_eq_ok_iff.mp h
  rw [edgeList_ofParts] at he
  obtain ⟨i, hi, rfl⟩ := List.mem_mapIdx.mp he
  have hkept := isFirst_of_mem_distinctArrows (List.getElem_mem hi)
  obtain ⟨rl, hfirst, key, -, heq⟩ := exists_isFirst_of_forall₂ harrows
    (fun rl a ha => joins_iff_of_isArrow ha) hkept
  exact ⟨rl, hfirst, by simp [heq, Arrow.toEdge]⟩

/-- The links of the records with a key. -/
lemma filter_linksOf (records : List Record) (key : String) :
    (linksOf records).filter (fun rl => rl.1.groupKey = key)
      = (recordsWith records key).flatMap fun r => r.links.map fun l => (r, l) := by
  have hgroup : ∀ other, ((recordsWith records other).flatMap fun r =>
      r.links.map fun l => (r, l)).filter (fun rl => rl.1.groupKey = key)
        = if other = key then (recordsWith records key).flatMap fun r => r.links.map fun l => (r, l)
          else [] := by
    intro other
    split
    · rename_i heq
      subst heq
      refine List.filter_eq_self.mpr fun rl hrl => ?_
      obtain ⟨r, hr, hmem⟩ := List.mem_flatMap.mp hrl
      obtain ⟨l, -, rfl⟩ := List.mem_map.mp hmem
      simpa using (mem_recordsWith.mp hr).2
    · rename_i hne
      refine List.filter_eq_nil_iff.mpr fun rl hrl => ?_
      obtain ⟨r, hr, hmem⟩ := List.mem_flatMap.mp hrl
      obtain ⟨l, -, rfl⟩ := List.mem_map.mp hmem
      simpa [(mem_recordsWith.mp hr).2] using hne
  rw [linksOf, List.filter_flatMap]
  simp only [hgroup]
  by_cases hkey : key ∈ mergeKeys records
  · obtain ⟨before, after, hsplit⟩ := List.append_of_mem hkey
    have hnodup := nodup_mergeKeys records
    rw [hsplit, List.nodup_append] at hnodup
    have hbefore : ∀ other ∈ before, other ≠ key :=
      fun other hother => hnodup.2.2 other hother key List.mem_cons_self
    have hafter : ∀ other ∈ after, other ≠ key := by
      rintro other hother rfl
      exact (List.nodup_cons.mp hnodup.2.1).1 hother
    rw [hsplit, List.flatMap_append, List.flatMap_cons, if_pos rfl,
      List.flatMap_eq_nil_iff.mpr fun other hother => if_neg (hbefore other hother),
      List.flatMap_eq_nil_iff.mpr fun other hother => if_neg (hafter other hother),
      List.nil_append, List.append_nil]
  · have hnone : recordsWith records key = [] := by
      refine List.filter_eq_nil_iff.mpr fun r hr hgroup => hkey ?_
      exact of_decide_eq_true hgroup ▸ groupKey_mem_mergeKeys hr
    simp [hnone]

/-- Without merge keys, links join the nodes of records as they join the records. -/
lemma joins_iff {records : List Record} (hkeys : ∀ r ∈ records, r.mergeKey = none) {r r' : Record}
    (hr : r ∈ records) (hr' : r' ∈ records) {kind : EdgeKind} {rl : Record × Link}
    (hrl : rl ∈ linksOf records) :
    Joins records (nodeIdOf records r.id) (nodeIdOf records r'.id) kind rl ↔
      rl.1.groupKey = r.id ∧ rl.2.target = r'.id ∧ rl.2.kind = kind := by
  have hmem : ∀ x ∈ records, x.id ∈ mergeKeys records := by
    intro x hx
    have hgroup := groupKey_mem_mergeKeys hx
    rwa [Record.groupKey, hkeys x hx, Option.getD_none] at hgroup
  have hinj := List.inj_on_of_nodup_map (nodup_map_nodeIdOf records)
  constructor
  · rintro ⟨key, hkey, hsource, htarget, hkind⟩
    refine ⟨hinj (groupKey_mem_mergeKeys (mem_linksOf.mp hrl).1) (hmem r hr) hsource, ?_, hkind⟩
    rw [← hkey.eq_target hkeys]
    exact hinj hkey.mem_mergeKeys (hmem r' hr') htarget
  · rintro ⟨hsource, htarget, hkind⟩
    have hid : rl.2.target ∈ records.map Record.id := htarget ▸ List.mem_map_of_mem hr'
    obtain ⟨key, hkey⟩ := exists_resolves hid rl.1.document
    exact ⟨key, hkey, by rw [hsource], by rw [hkey.eq_target hkeys, htarget], hkind⟩

/-- Without merge keys, a record whose id is its own has one edge of a kind to each record that its
links of that kind lead to, and the first of these links gives the condition. -/
theorem exists_edge_of_find? {records : List Record} {acyclic : Option Bool} {g : FlowGraph}
    (h : FlowGraph.build records acyclic = .ok g) (hkeys : ∀ r ∈ records, r.mergeKey = none)
    {r r' : Record} (hr : r ∈ records) (hr' : r' ∈ records) (hown : recordsWith records r.id = [r])
    {kind : EdgeKind} {l : Link}
    (hl : r.links.find? (fun l => l.target = r'.id ∧ l.kind = kind) = some l) :
    ∃ e, (g.edgeList.filter fun e => e.source = nodeIdOf records r.id ∧
        e.target = nodeIdOf records r'.id ∧ e.kind = kind) = [e] ∧ e.condition = l.condition := by
  have hassemble := assemble_of_build h
  obtain ⟨hwell, hdescribes⟩ := wellFormed_of_assemble hassemble
  have hlinks : (linksOf records).find?
      (fun rl => rl.1.groupKey = r.id ∧ rl.2.target = r'.id ∧ rl.2.kind = kind) = some (r, l) := by
    have hfirst := congrArg (List.find? fun rl => rl.2.target = r'.id ∧ rl.2.kind = kind)
      (filter_linksOf records r.id)
    rw [hown, List.flatMap_singleton, List.find?_map, Function.comp_def, hl,
      List.find?_filter] at hfirst
    simpa using hfirst
  have hrl := List.mem_of_find?_eq_some hlinks
  obtain ⟨key, hkey, hends⟩ : Joins records (nodeIdOf records r.id) (nodeIdOf records r'.id) kind
      (r, l) := (joins_iff hkeys hr hr' hrl).mpr (by simpa using List.find?_some hlinks)
  obtain ⟨e, he, hsource, htarget, hkind⟩ := (hdescribes.edges_iff _ _ _).mpr
    ⟨r, hr, l, (mem_linksOf.mp hrl).2, key, hkey, hends⟩
  refine ⟨e, ?_, ?_⟩
  · rw [← filter_eq_singleton hwell.distinct he]
    refine List.filter_congr fun e' _ => ?_
    simp [hsource, htarget, hkind]
  · obtain ⟨rl, hfirst, hcondition⟩ := exists_link_of_mem_edgeList hassemble he
    rw [hsource, htarget, hkind] at hfirst
    replace hfirst := isFirst_iff_find?.mp (hfirst.congr fun rl hrl => joins_iff hkeys hr hr' hrl)
    obtain rfl := Option.some.inj (hfirst.symm.trans hlinks)
    exact hcondition.symm

/-! ### The graph of records -/

/-- A graph that was built is well-formed, and it describes the records it was built from. -/
theorem build_wellFormed_describes {records : List Record} {acyclic : Option Bool} {g : FlowGraph}
    (h : FlowGraph.build records acyclic = .ok g) :
    g.WellFormed ∧ ∃ idOf : String → String, g.Describes records idOf := by
  obtain ⟨hwell, hdescribes⟩ := wellFormed_of_assemble (assemble_of_build h)
  exact ⟨hwell, nodeIdOf records, hdescribes⟩

/-- Records of two documents: two of them are one component, the ids of two others become the same,
and links come twice, lead to an id of the other document, to a merge key and back to where they
begin. -/
def twoDocuments : List Record :=
  [{ id := "in", name := "In", sourceType := "start", document := "a", dialect := some .webMethods,
     role := .start, links := [⟨"x y", .sequence, none⟩, ⟨"x y", .sequence, some "again"⟩] },
   { id := "x y", name := "X", sourceType := "map", document := "a", dialect := some .webMethods,
     mergeKey := some "m", links := [⟨"x_y", .error, none⟩] },
   { id := "x_y", name := "Y", sourceType := "map", document := "a", dialect := some .webMethods,
     links := [⟨"x_y", .sequence, none⟩, ⟨"out", .sequence, none⟩] },
   { id := "out", name := "Out", sourceType := "map", document := "b", dialect := some .webMethods,
     links := [⟨"m", .reference, none⟩] },
   { id := "z", name := "Z", sourceType := "map", document := "b", dialect := some .webMethods,
     mergeKey := some "m" },
   { id := "x-y", name := "V", sourceType := "map", document := "b", dialect := some .webMethods,
     mergeKey := some "x y" }]

theorem build_twoDocuments : ∃ g, FlowGraph.build twoDocuments = .ok g ∧
    OrderedMap.keys g.nodes = ["in", "m", "x_y", "out", "x_y_2"] ∧
    g.edgeList.map (fun e => (e.id, e.source, e.target)) =
      [("SequenceFlow_1", "in", "m"), ("SequenceFlow_2", "m", "x_y"),
       ("SequenceFlow_3", "x_y", "x_y"), ("SequenceFlow_4", "x_y", "out"),
       ("SequenceFlow_5", "out", "m")] ∧
    g.WellFormed ∧ ∃ idOf : String → String, g.Describes twoDocuments idOf := by
  have hread : (FlowGraph.build twoDocuments).toOption.map (fun g =>
      (OrderedMap.keys g.nodes, g.edgeList.map fun e => (e.id, e.source, e.target)))
      = some (["in", "m", "x_y", "out", "x_y_2"],
          [("SequenceFlow_1", "in", "m"), ("SequenceFlow_2", "m", "x_y"),
           ("SequenceFlow_3", "x_y", "x_y"), ("SequenceFlow_4", "x_y", "out"),
           ("SequenceFlow_5", "out", "m")]) := by decide +kernel
  cases hbuild : FlowGraph.build twoDocuments with
  | error e => simp [hbuild, Except.toOption] at hread
  | ok g =>
    rw [hbuild] at hread
    obtain ⟨hkeys, hedges⟩ := Prod.mk.inj (Option.some.inj hread)
    exact ⟨g, rfl, hkeys, hedges, build_wellFormed_describes hbuild⟩

end IntegrationFlow
