import Mathlib
import IntegrationFlow.Proofs.Graph.Adjacency

/-!
# Flows that run in circles

Edges to error handlers do not count. Where circles are not allowed, a flow is refused exactly if
the other edges make one, and what is reported is such a circle: it leads from node to node back to
the first, and meets no other node twice.
-/

namespace IntegrationFlow.FlowGraph

open Relation (ReflTransGen TransGen)

variable {g : FlowGraph}

/-- An edge other than those to error handlers leads from `u` to `w`. -/
def Controls (g : FlowGraph) (u w : String) : Prop :=
  ∃ e ∈ g.edgeList, e.kind ≠ .error ∧ e.source = u ∧ e.target = w

/-- A way from a node back to itself, given by the nodes that it meets. No other node is met
twice. -/
structure IsCircle (g : FlowGraph) (path : List String) : Prop where
  two_le_length : 2 ≤ path.length
  closed : path.head? = path.getLast?
  nodup : path.dropLast.Nodup
  linked : path.IsChain g.Controls

/-! ### The search for circles -/

lemma isGraph_controlEdges (h : g.WellFormed) :
    Search.IsGraph g.controlEdges Edge.target (g.nodeList.map Node.id) := by
  refine h.isGraph (fun _ => List.filter_sublist ..) fun e he => ?_
  rw [← h.keys_eq]
  exact (h.ends_mem e he).2

lemma controls_iff (h : g.WellFormed) {u w : String} :
    g.Controls u w ↔ ∃ e ∈ g.controlEdges u, e.target = w := by
  simp only [Controls, controlEdges, List.mem_filter, h.mem_outgoing_iff, bne_iff_ne]
  constructor
  · rintro ⟨e, he, hkind, hsource, htarget⟩
    exact ⟨e, ⟨⟨he, hsource⟩, hkind⟩, htarget⟩
  · rintro ⟨e, ⟨⟨he, hsource⟩, hkind⟩, htarget⟩
    exact ⟨e, he, hkind, hsource, htarget⟩

/-- If no circle is found there is none. -/
lemma not_transGen_controls (h : g.WellFormed) (hnone : g.cycle? = none) (v : String) :
    ¬ TransGen g.Controls v v := by
  have hclosings : Search.closings g.controlEdges Edge.target (g.nodeList.map Node.id)
      (g.nodeList.map Node.id) = [] := by
    simpa [cycle?] using hnone
  intro hcycle
  have hv : v ∈ g.nodeList.map Node.id := by
    obtain ⟨w, ⟨e, he, -, rfl, -⟩, -⟩ := Relation.TransGen.head'_iff.mp hcycle
    rw [← h.keys_eq]
    exact (h.ends_mem e he).1
  refine Search.not_transGen_of_acc (Search.acc_of_mem_roots (isGraph_controlEdges h) hv hv) ?_
  rw [hclosings]
  refine TransGen.mono ?_ _ _ hcycle
  intro u w huw
  obtain ⟨e, he, htarget⟩ := (controls_iff h).mp huw
  exact ⟨e, he, List.not_mem_nil, htarget⟩

/-- What is found is a circle. -/
lemma isCircle_of_cycle? (h : g.WellFormed) {path : List String} (hpath : g.cycle? = some path) :
    g.IsCircle path := by
  obtain ⟨c, hc, rfl⟩ := Option.map_eq_some_iff.mp hpath
  have hcircle := Search.isCircle_of_mem_closings (isGraph_controlEdges h)
    (List.mem_of_head? hc)
  have hne : c.path ≠ [] := by
    intro hnil
    simpa [hnil] using hcircle.head_eq
  constructor
  · have hlength := List.length_pos_iff.mpr hne
    rw [List.length_append, List.length_singleton]
    omega
  · rw [List.head?_append_of_ne_nil _ hne, hcircle.head_eq, List.getLast?_concat]
  · rw [List.dropLast_concat]
    exact hcircle.nodup
  · exact hcircle.linked.imp fun u w huw => (controls_iff h).mpr huw

/-- A circle leads from its first node back to it. -/
lemma IsCircle.transGen {path : List String} (h : g.IsCircle path) :
    ∃ v, TransGen g.Controls v v := by
  obtain ⟨hlength, hclosed, -, hlinked⟩ := h
  match path, hlength with
  | u :: w :: rest, _ =>
    obtain ⟨hfirst, hrest⟩ := List.isChain_cons_cons.mp hlinked
    have hlast : (w :: rest).getLast (by simp) = u := by
      rw [List.head?_cons, List.getLast?_cons_cons, List.getLast?_eq_some_getLast (by simp)]
        at hclosed
      exact (Option.some.inj hclosed).symm
    refine ⟨u, .head' hfirst ?_⟩
    exact hlast ▸ List.relationReflTransGen_of_exists_isChain_cons rest hrest rfl

/-! ### Graphs with and without circles -/

/-- What becomes of a graph that was put together: it is refused for a circle that is looked for and
found, or else it is the result. -/
lemma build_of_assemble {records : List Record} (acyclic : Option Bool)
    (h : assemble records = .ok g) :
    build records acyclic =
      match if acyclic.getD (requiresAcyclic records) then g.cycle? else none with
      | some path => .error (.cycle path)
      | none => .ok g := by
  simp only [build, h, bind, Except.bind]
  split
  · split <;> simp_all [throw, throwThe, MonadExceptOf.throw, pure, Except.pure]
  · rfl

/-- A graph that must not hold circles is accepted if none is found. -/
lemma cycle?_of_build {records : List Record} {acyclic : Option Bool}
    (h : build records acyclic = .ok g) (hacyclic : acyclic.getD (requiresAcyclic records)) :
    g.cycle? = none := by
  rw [build_of_assemble acyclic (assemble_of_build h), if_pos hacyclic] at h
  split at h
  · exact absurd h (by simp)
  · assumption

/-- Records are refused for a circle exactly if circles are not allowed and it is found in their
graph. -/
lemma build_eq_cycle_iff {records : List Record} {acyclic : Option Bool} {path : List String} :
    build records acyclic = .error (.cycle path) ↔
      acyclic.getD (requiresAcyclic records) = true ∧
        ∃ g, assemble records = .ok g ∧ g.cycle? = some path := by
  cases hassemble : assemble records with
  | error e =>
    obtain ⟨missing, source, rfl⟩ := exists_dangling_of_assemble hassemble
    simp [build, hassemble, bind, Except.bind]
  | ok g =>
    rw [build_of_assemble acyclic hassemble]
    cases acyclic.getD (requiresAcyclic records) with
    | false => simp
    | true => cases hcycle : g.cycle? <;> simp [hcycle]

/-- Records are accepted if their links lead somewhere and, those to error handlers apart, lead on in
some order. -/
lemma exists_build_of_order {records : List Record} {before : String → String → Prop}
    (htrans : ∀ x y z, before x y → before y z → before x z) (hirrefl : ∀ x, ¬ before x x)
    (hlinks : ∀ r ∈ records, ∀ l ∈ r.links, ∃ key, Resolves records r.document l.target key)
    (horder : ∀ r ∈ records, ∀ l ∈ r.links, l.kind ≠ .error →
      ∀ key, Resolves records r.document l.target key → before r.groupKey key)
    (acyclic : Option Bool) : ∃ g, build records acyclic = .ok g := by
  obtain ⟨g, hg⟩ := exists_assemble hlinks
  obtain ⟨hwell, hdescribes⟩ := wellFormed_of_assemble hg
  -- a way through the graph leads on in the order of the keys
  have hway : ∀ u w, TransGen g.Controls u w → ∃ x ∈ mergeKeys records, ∃ y ∈ mergeKeys records,
      nodeIdOf records x = u ∧ nodeIdOf records y = w ∧ before x y := by
    have hedge : ∀ u w, g.Controls u w → ∃ x ∈ mergeKeys records, ∃ y ∈ mergeKeys records,
        nodeIdOf records x = u ∧ nodeIdOf records y = w ∧ before x y := by
      rintro u w ⟨e, he, hkind, hsource, htarget⟩
      obtain ⟨r, hr, l, hl, key, hkey, rfl, rfl, heq⟩ :=
        (hdescribes.edges_iff u w e.kind).mp ⟨e, he, hsource, htarget, rfl⟩
      exact ⟨_, groupKey_mem_mergeKeys hr, key, hkey.mem_mergeKeys, rfl, rfl,
        horder r hr l hl (heq ▸ hkind) key hkey⟩
    intro u w h
    induction h with
    | single h => exact hedge u _ h
    | tail _ hlast ih =>
      obtain ⟨x, hx, y, hy, rfl, hyid, hxy⟩ := ih
      obtain ⟨y', hy', z, hz, hyid', rfl, hyz⟩ := hedge _ _ hlast
      obtain rfl := hdescribes.idOf_injOn y hy y' hy' (hyid.trans hyid'.symm)
      exact ⟨x, hx, z, hz, rfl, rfl, htrans x y z hxy hyz⟩
  have hnone : g.cycle? = none := by
    rw [Option.eq_none_iff_forall_ne_some]
    intro path hpath
    obtain ⟨v, hv⟩ := (isCircle_of_cycle? hwell hpath).transGen
    obtain ⟨x, hx, y, hy, hxid, hyid, hxy⟩ := hway v v hv
    obtain rfl := hdescribes.idOf_injOn x hx y hy (hxid.trans hyid.symm)
    exact hirrefl x hxy
  refine ⟨g, ?_⟩
  rw [build_of_assemble acyclic hg, hnone, ite_self]

/-- Records whose links all lead somewhere are refused for a circle exactly if circles are not
allowed and there is one in their graph, and the circle reported is one of the graph. Where circles
are allowed no records are refused for one. -/
theorem build_refuses_circles (records : List Record) (acyclic : Option Bool) :
    (acyclic.getD (requiresAcyclic records) = true →
      (∀ r ∈ records, ∀ l ∈ r.links, ∃ key, Resolves records r.document l.target key) →
      ∃ g, build records (some false) = .ok g ∧
        ((∃ path, build records acyclic = .error (.cycle path)) ↔ ∃ v, TransGen g.Controls v v) ∧
        ∀ path, build records acyclic = .error (.cycle path) → g.IsCircle path) ∧
    (acyclic.getD (requiresAcyclic records) = false →
      ∀ path, build records acyclic ≠ .error (.cycle path)) := by
  constructor
  · intro hacyclic hlinks
    obtain ⟨g, hassemble⟩ := exists_assemble hlinks
    have h : g.WellFormed := (wellFormed_of_assemble hassemble).1
    have hcycle : ∀ path, build records acyclic = .error (.cycle path) ↔ g.cycle? = some path := by
      intro path
      simp [build_eq_cycle_iff, hacyclic, hassemble]
    refine ⟨g, build_of_assemble (some false) hassemble, ?_, fun path herror => ?_⟩
    · simp only [hcycle]
      constructor
      · rintro ⟨path, hpath⟩
        exact (isCircle_of_cycle? h hpath).transGen
      · rintro ⟨v, hv⟩
        refine Option.ne_none_iff_exists'.mp fun hnone => ?_
        exact not_transGen_controls h hnone v hv
    · exact isCircle_of_cycle? h ((hcycle path).mp herror)
  · intro hallowed path herror
    obtain ⟨hacyclic, -⟩ := build_eq_cycle_iff.mp herror
    exact absurd hacyclic (by simp [hallowed])

/-- Records of a flow that calls one of its steps back, beside an error handler that leads to the
start. -/
def calledBack : List Record :=
  [{ id := "in", name := "In", sourceType := "listener", document := "a", dialect := some .mule,
     role := .start, links := [⟨"x", .sequence, none⟩] },
   { id := "x", name := "X", sourceType := "map", document := "a", dialect := some .mule,
     mergeKey := some "m", links := [⟨"out", .sequence, none⟩, ⟨"y", .sequence, none⟩] },
   { id := "y", name := "Y", sourceType := "map", document := "a", dialect := some .mule,
     links := [⟨"in", .error, none⟩, ⟨"z", .sequence, none⟩] },
   { id := "z", name := "Z", sourceType := "flow-ref", document := "b", dialect := some .boomi,
     links := [⟨"m", .reference, none⟩] },
   { id := "out", name := "Out", sourceType := "end", document := "a", dialect := none,
     role := .finish }]

theorem build_refuses_calledBack :
    requiresAcyclic calledBack = true ∧
    (∀ r ∈ calledBack, ∀ l ∈ r.links, ∃ key, Resolves calledBack r.document l.target key) ∧
    build calledBack = .error (.cycle ["m", "y", "z", "m"]) ∧
    ∃ g, build calledBack (some false) = .ok g ∧ g.IsCircle ["m", "y", "z", "m"] ∧
      ∃ v, TransGen g.Controls v v := by
  have hlinks : ∀ r ∈ calledBack, ∀ l ∈ r.links,
      ∃ key, Resolves calledBack r.document l.target key := by
    simp only [← resolveLink?_eq_some_iff, ← Option.isSome_iff_exists]
    decide +kernel
  have hbuild : build calledBack = .error (.cycle ["m", "y", "z", "m"]) := by cbv
  obtain ⟨g, hgraph, hiff, hcircle⟩ := (build_refuses_circles calledBack none).1 rfl hlinks
  exact ⟨rfl, hlinks, hbuild, g, hgraph, hcircle _ hbuild, hiff.mp ⟨_, hbuild⟩⟩

end IntegrationFlow.FlowGraph
