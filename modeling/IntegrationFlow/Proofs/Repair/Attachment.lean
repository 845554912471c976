import Mathlib
import IntegrationFlow.Proofs.Repair.Alignment

/-!
# Which nodes are attached

A node that is attached to the start brings along what it leads to, so the nodes that need a
connector of their own are those that nothing else leads to. Where the nodes that are not connected
run in circles there may be none left, and then the first of them is attached, wherever it stands. A
node that is attached later may turn out to lead to it.
-/

namespace IntegrationFlow.Repair

open Relation (ReflTransGen TransGen)
open Xml (Element)
open Bpmn (Document)

/-! ### One connector more -/

instance (flows : List (String × String)) (s t : String) : Decidable (FlowsTo flows s t) :=
  inferInstanceAs (Decidable ((s, t) ∈ flows))

/-- A path of connectors leads from one node to another. -/
abbrev Reaches (flows : List (String × String)) : String → String → Prop :=
  ReflTransGen (FlowsTo flows)

section Concat

variable {start node m n : String} {flows : List (String × String)}

lemma flowsTo_concat :
    FlowsTo (flows ++ [(start, node)]) m n ↔ FlowsTo flows m n ∨ m = start ∧ n = node := by
  simp [FlowsTo]

lemma Reaches.concat (h : Reaches flows m n) : Reaches (flows ++ [(start, node)]) m n :=
  ReflTransGen.mono (fun _ _ hst => flowsTo_concat.mpr (.inl hst)) _ _ h

/-- A connector from the start leads no other nodes to the start. -/
lemma reaches_start_concat_iff :
    Reaches (flows ++ [(start, node)]) n start ↔ Reaches flows n start := by
  refine ⟨fun h => ?_, Reaches.concat⟩
  induction h using ReflTransGen.head_induction_on with
  | refl => exact .refl
  | head hstep _ ih =>
    rcases flowsTo_concat.mp hstep with hstep | ⟨rfl, -⟩
    · exact .head hstep ih
    · exact .refl

/-- The nodes that it leads to are those that its target leads to. -/
lemma reaches_concat_iff :
    Reaches (flows ++ [(start, node)]) start n ↔ Reaches flows start n ∨ Reaches flows node n := by
  constructor
  · intro h
    induction h with
    | refl => exact .inl .refl
    | tail _ hstep ih =>
      rcases flowsTo_concat.mp hstep with hstep | ⟨-, rfl⟩
      · exact ih.imp (.tail · hstep) (.tail · hstep)
      · exact .inr .refl
  · rintro (h | h)
    · exact h.concat
    · exact .head (flowsTo_concat.mpr (.inr ⟨rfl, rfl⟩)) h.concat

/-- Attaching a node connects what the node leads to, and nothing else. -/
lemma isConnected_concat_iff :
    IsConnected start (flows ++ [(start, node)]) n ↔
      IsConnected start flows n ∨ Reaches flows node n :=
  (or_congr reaches_concat_iff reaches_start_concat_iff).trans or_right_comm

/-- The paths from a node that does not lead to the start are those that there were. -/
lemma reaches_concat_of_not_reaches (hm : ¬ Reaches flows m start) :
    Reaches (flows ++ [(start, node)]) m n ↔ Reaches flows m n := by
  refine ⟨fun h => ?_, Reaches.concat⟩
  induction h with
  | refl => exact .refl
  | tail _ hstep ih =>
    rcases flowsTo_concat.mp hstep with hstep | ⟨rfl, -⟩
    · exact .tail ih hstep
    · exact absurd ih hm

end Concat

/-! ### Paths between attached nodes -/

section Paths

variable {start n : String} {flows : List (String × String)} {nodes : List String}

/-- No node is led to from one that was attached before it. -/
theorem pairwise_attachments (start : String) (flows : List (String × String))
    (nodes : List String) :
    (attachments start flows nodes).Pairwise fun m n => ¬ Reaches flows m n := by
  refine attachments_induction
    (motive := fun flows found => found.Pairwise fun m n => ¬ Reaches flows m n)
    (fun _ _ => .nil) (fun flows node _ ih => ?_) flows
  refine .cons (fun n hn hpath => ?_) (ih.imp fun hpath h => hpath h.concat)
  exact (mem_attachments hn).2 (isConnected_concat_iff.mpr (.inr hpath))

/-- Every node that is not connected is led to from one that is attached. -/
theorem exists_attachment_reaches (hn : n ∈ nodes) (hloose : ¬ IsConnected start flows n) :
    ∃ m ∈ attachments start flows nodes, Reaches flows m n := by
  refine attachments_induction
    (motive := fun flows found => ¬ IsConnected start flows n → ∃ m ∈ found, Reaches flows m n)
    (fun flows hnone hloose => ?_) (fun flows node _ ih hloose => ?_) flows hloose
  · have hmem : n ∈ looseNodes start flows nodes := mem_looseNodes.mpr ⟨hn, hloose⟩
    rw [hnone] at hmem
    exact absurd hmem List.not_mem_nil
  · by_cases hpath : Reaches flows node n
    · exact ⟨node, List.mem_cons_self .., hpath⟩
    · obtain ⟨m, hm, hmn⟩ := ih (by rw [isConnected_concat_iff, not_or]; exact ⟨hloose, hpath⟩)
      -- `m` is attached later, so it does not lead to the start and does not use the new connector
      have hm' : ¬ Reaches flows m start := fun h => (mem_attachments hm).2 (.inr h.concat)
      exact ⟨m, List.mem_cons_of_mem _ hm, (reaches_concat_of_not_reaches hm').mp hmn⟩

/-- An attached node is led to from another one exactly if some node that is not connected leads to
it and is not led to from it. -/
theorem exists_reaches_attachment_iff (hn : n ∈ attachments start flows nodes) :
    (∃ m ∈ attachments start flows nodes, m ≠ n ∧ Reaches flows m n) ↔
      ∃ u ∈ nodes, ¬ IsConnected start flows u ∧ Reaches flows u n ∧ ¬ Reaches flows n u := by
  have hpairs := pairwise_attachments start flows nodes
  constructor
  · rintro ⟨m, hm, hne, hpath⟩
    obtain ⟨hmem, hloose⟩ := mem_attachments hm
    refine ⟨m, hmem, hloose, hpath, fun hback => ?_⟩
    -- whichever of the two was attached first has connected the other
    have hsymm : Std.Symm fun a b => ¬ (Reaches flows a b ∧ Reaches flows b a) :=
      ⟨fun a b h h' => h h'.symm⟩
    have happart : (attachments start flows nodes).Pairwise
        fun a b => ¬ (Reaches flows a b ∧ Reaches flows b a) := hpairs.imp fun h h' => h h'.1
    exact happart.forall hm hn hne ⟨hpath, hback⟩
  · rintro ⟨u, hu, hloose, hpath, hback⟩
    obtain ⟨m, hm, hmu⟩ := exists_attachment_reaches hu hloose
    refine ⟨m, hm, ?_, hmu.trans hpath⟩
    rintro rfl
    exact hback hmu

end Paths

/-! ### Without circles -/

instance (start : String) (flows : List (String × String)) (n : String) :
    Decidable (IsConnected start flows n) :=
  decidable_of_iff (n ∈ connected start flows) mem_connected_iff

/-- A connector leads from one node that is not connected to another. -/
def LooseStep (start : String) (flows : List (String × String)) (m n : String) : Prop :=
  FlowsTo flows m n ∧ m ≠ n ∧ ¬ IsConnected start flows m ∧ ¬ IsConnected start flows n

/-- The connectors between nodes that are not connected form no circle, connectors from a node to
itself aside. -/
def LooseAcyclic (start : String) (flows : List (String × String)) : Prop :=
  ∀ n, ¬ TransGen (LooseStep start flows) n n

/-- A node that is not connected, and that no other such node leads to directly. -/
def IsForemost (start : String) (flows : List (String × String)) (n : String) : Prop :=
  ¬ IsConnected start flows n ∧
    ∀ f ∈ flows, f.2 = n → f.1 ≠ n → IsConnected start flows f.1

instance (start : String) (flows : List (String × String)) (n : String) :
    Decidable (IsForemost start flows n) := inferInstanceAs (Decidable (_ ∧ _))

section Foremost

variable {start node n : String} {flows : List (String × String)} {nodes : List String}

/-- A path that ends elsewhere than it begins enters its end from another node. -/
lemma exists_flowsTo_of_reaches {m : String} (h : Reaches flows m n) (hne : m ≠ n) :
    ∃ p, Reaches flows m p ∧ p ≠ n ∧ FlowsTo flows p n := by
  induction h with
  | refl => exact absurd rfl hne
  | @tail b c hpath hstep ih =>
    by_cases hbc : b = c
    · subst hbc
      exact ih hne
    · exact ⟨b, hpath, hbc, hstep⟩

/-- No path leads to a foremost node from another node that is not connected. -/
lemma IsForemost.not_reaches {m : String} (h : IsForemost start flows n)
    (hm : ¬ IsConnected start flows m) (hne : m ≠ n) : ¬ Reaches flows m n := by
  intro hpath
  obtain ⟨p, hp, hpn, hstep⟩ := exists_flowsTo_of_reaches hpath hne
  rcases h.2 (p, n) hstep rfl hpn with hconn | hconn
  · exact h.1 (.inl (hconn.tail hstep))
  · exact hm (.inr (hp.trans hconn))

/-- Attaching a node changes nothing about which of the other nodes are foremost. -/
lemma isForemost_concat_iff (hnode : ¬ IsConnected start flows node) (hne : n ≠ node) :
    IsForemost start (flows ++ [(start, node)]) n ↔ IsForemost start flows n := by
  constructor
  · rintro ⟨hloose, hfed⟩
    rw [isConnected_concat_iff, not_or] at hloose
    refine ⟨hloose.1, fun f hf hn hother => ?_⟩
    refine (isConnected_concat_iff.mp (hfed f (by simp [hf]) hn hother)).resolve_right ?_
    intro hpath
    exact hloose.2 (hn ▸ hpath.tail hf)
  · intro h
    refine ⟨?_, fun f hf hn hother => ?_⟩
    · rw [isConnected_concat_iff, not_or]
      exact ⟨h.1, h.not_reaches hnode hne.symm⟩
    · rcases flowsTo_concat.mp hf with hf | ⟨-, hf⟩
      · exact (h.2 f hf hn hother).mono (List.subset_append_left ..)
      · exact absurd (hn.symm.trans hf) hne

/-- What is not connected once a node has been attached was joined by the same connectors before. -/
lemma LooseStep.of_concat {m : String} (h : LooseStep start (flows ++ [(start, node)]) m n) :
    LooseStep start flows m n ∧ m ≠ node := by
  obtain ⟨hstep, hne, hm, hn⟩ := h
  rw [isConnected_concat_iff, not_or] at hm hn
  rcases flowsTo_concat.mp hstep with hstep | ⟨rfl, -⟩
  · refine ⟨⟨hstep, hne, hm.1, hn.1⟩, ?_⟩
    rintro rfl
    exact hm.2 .refl
  · exact absurd (IsConnected.self m flows) hm.1

lemma LooseAcyclic.concat (h : LooseAcyclic start flows) :
    LooseAcyclic start (flows ++ [(start, node)]) :=
  fun n hn => h n (TransGen.mono (fun _ _ hstep => hstep.of_concat.1) _ _ hn)

/-- There are no circles where every connector leads upwards in some count of the nodes. -/
lemma LooseAcyclic.of_rank (rank : String → Nat)
    (h : ∀ f ∈ flows, f.1 ≠ f.2 → rank f.1 < rank f.2) : LooseAcyclic start flows := by
  intro n hn
  have hlt : TransGen (· < ·) (rank n) (rank n) :=
    hn.lift rank fun m k hstep => h (m, k) hstep.1 hstep.2.1
  rw [Relation.transGen_eq_self] at hlt
  exact lt_irrefl _ hlt

/-- Without circles, some node that is not connected is foremost. -/
lemma exists_isForemost (hacyclic : LooseAcyclic start flows) (hn : n ∈ nodes)
    (hloose : ¬ IsConnected start flows n)
    (hclosed : ∀ m k, LooseStep start flows m k → m ∈ nodes) :
    ∃ m ∈ nodes, IsForemost start flows m := by
  have hstrict : IsStrictOrder String (TransGen (LooseStep start flows)) :=
    { irrefl := hacyclic, trans := fun _ _ _ => TransGen.trans }
  have hfinite : {m | m ∈ nodes ∧ ¬ IsConnected start flows m}.Finite :=
    nodes.finite_toSet.subset fun m hm => hm.1
  have hwf := hfinite.wellFoundedOn (r := TransGen (LooseStep start flows))
  obtain ⟨⟨m, hm, hm'⟩, -, hmin⟩ := hwf.has_min Set.univ ⟨⟨n, hn, hloose⟩, trivial⟩
  refine ⟨m, hm, hm', fun f hf hfm hne => ?_⟩
  by_contra hfed
  have hstep : LooseStep start flows f.1 m := ⟨hfm ▸ hf, hne, hfed, hm'⟩
  exact hmin ⟨f.1, hclosed _ _ hstep, hfed⟩ trivial (.single hstep)

/-- What the selection looks for are foremost nodes. -/
lemma isFed_eq_false_iff (hn : n ∈ looseNodes start flows nodes)
    (hclosed : ∀ m k, LooseStep start flows m k → m ∈ nodes) :
    isFed flows (looseNodes start flows nodes) n = false ↔ IsForemost start flows n := by
  have hloose := (mem_looseNodes.mp hn).2
  rw [isFed, List.any_eq_false, IsForemost, and_iff_right hloose]
  refine forall₂_congr fun f hf => ?_
  simp only [Bool.and_eq_true, beq_iff_eq, bne_iff_ne, List.contains_iff_mem, mem_looseNodes,
    not_and, not_not]
  constructor
  · intro h hfn hne
    by_contra hconn
    exact hconn (h ⟨hfn, hne⟩ (hclosed f.1 n ⟨hfn ▸ hf, hne, hconn, hloose⟩))
  · exact fun h hfn _ => h hfn.1 hfn.2

/-- Without circles, the next node to attach is the first foremost one. -/
lemma nextToAttach?_eq_head? (hacyclic : LooseAcyclic start flows)
    (hclosed : ∀ m k, LooseStep start flows m k → m ∈ nodes) :
    nextToAttach? flows (looseNodes start flows nodes)
      = (nodes.filter (IsForemost start flows ·)).head? := by
  have hfilter : (looseNodes start flows nodes).filter
      (fun n => !isFed flows (looseNodes start flows nodes) n)
        = nodes.filter (IsForemost start flows ·) := by
    rw [looseNodes, List.filter_filter, ← looseNodes]
    refine List.filter_congr fun n hn => ?_
    by_cases hconn : IsConnected start flows n
    · simp [mem_connected_iff, IsForemost, hconn]
    · have hfed := isFed_eq_false_iff (mem_looseNodes.mpr ⟨hn, hconn⟩) hclosed
      simp [mem_connected_iff, hconn, ← hfed]
  rw [nextToAttach?, ← List.head?_filter, hfilter]
  cases hhead : (nodes.filter (IsForemost start flows ·)).head? with
  | some n => rfl
  | none =>
    -- where none is foremost, none is loose
    rw [Option.none_or, List.head?_eq_none_iff, List.eq_nil_iff_forall_not_mem]
    intro n hn
    obtain ⟨hmem, hloose⟩ := mem_looseNodes.mp hn
    obtain ⟨m, hm, hforemost⟩ := exists_isForemost hacyclic hmem hloose hclosed
    have hnone := List.filter_eq_nil_iff.mp (List.head?_eq_none_iff.mp hhead) m hm
    exact hnone (decide_eq_true hforemost)

/-- Without circles, the nodes that are attached are the foremost ones, in their order. -/
theorem attachments_eq_filter (hnodup : nodes.Nodup)
    (hclosed : ∀ m k, LooseStep start flows m k → m ∈ nodes)
    (hacyclic : LooseAcyclic start flows) :
    attachments start flows nodes = nodes.filter (IsForemost start flows ·) := by
  refine attachments_induction
    (motive := fun flows found => (∀ m k, LooseStep start flows m k → m ∈ nodes) →
      LooseAcyclic start flows → found = nodes.filter (IsForemost start flows ·))
    (fun flows hnone hclosed hacyclic => ?_) (fun flows node hnext ih hclosed hacyclic => ?_)
    flows hclosed hacyclic
  · have hnext := nextToAttach?_eq_head? hacyclic hclosed
    rw [hnone] at hnext
    exact (List.head?_eq_none_iff.mp hnext.symm).symm
  · have hnode := (mem_looseNodes.mp (mem_of_nextToAttach?_eq_some hnext)).2
    rw [nextToAttach?_eq_head? hacyclic hclosed] at hnext
    obtain ⟨rest, hrest⟩ := List.head?_eq_some_iff.mp hnext
    have hnotMem : node ∉ rest :=
      (List.nodup_cons.mp (hrest ▸ hnodup.filter (IsForemost start flows ·))).1
    rw [ih (fun m k h => hclosed m k h.of_concat.1) hacyclic.concat, hrest]
    congr 1
    calc nodes.filter (IsForemost start (flows ++ [(start, node)]) ·)
        = (nodes.filter (IsForemost start flows ·)).filter (· ≠ node) := by
          rw [List.filter_filter]
          refine List.filter_congr fun n _ => ?_
          by_cases hne : n = node
          · simp [hne, IsForemost, isConnected_attached]
          · simp [isForemost_concat_iff hnode hne, hne]
      _ = rest := by
          rw [hrest, List.filter_cons_of_neg (by simp)]
          exact List.filter_eq_self.mpr fun n hn => by simpa using ne_of_mem_of_not_mem hn hnotMem

end Foremost

/-! ### The check -/

/-- A flow with one start, whose nodes have distinct ids and whose connectors join nodes. -/
structure IsJoined (d : Document) (start : String) : Prop where
  nodup : (flowNodeIds d).Nodup
  one_start : (starts d).map (·.attr "id") = [some start]
  joins : ∀ c ∈ d.connectors, ∃ s ∈ flowNodeIds d, ∃ t ∈ flowNodeIds d,
    c.attr "sourceRef" = some s ∧ c.attr "targetRef" = some t

instance (d : Document) (start : String) : Decidable (IsJoined d start) :=
  decidable_of_iff
    ((flowNodeIds d).Nodup ∧ (starts d).map (·.attr "id") = [some start] ∧
      ∀ c ∈ d.connectors, ∃ s ∈ flowNodeIds d, ∃ t ∈ flowNodeIds d,
        c.attr "sourceRef" = some s ∧ c.attr "targetRef" = some t)
    ⟨fun ⟨h₁, h₂, h₃⟩ => ⟨h₁, h₂, h₃⟩, fun ⟨h₁, h₂, h₃⟩ => ⟨h₁, h₂, h₃⟩⟩

namespace IsJoined

variable {d : Document} {start : String}

lemma startIds_eq (h : IsJoined d start) : startIds d = [start] := by
  rw [Repair.startIds_eq, h.one_start]
  rfl

lemma exists_process? (h : IsJoined d start) : ∃ p, d.process? = some p := by
  cases hp : d.process? with
  | some p => exact ⟨p, rfl⟩
  | none => simpa [starts, Document.flowNodes, hp] using h.one_start

lemma source_mem (h : IsJoined d start) (m n : String) (hstep : FlowsTo (flowEnds d) m n) :
    m ∈ flowNodeIds d := by
  obtain ⟨c, hc, hends⟩ := List.mem_filterMap.mp hstep
  obtain ⟨s, hs, t, -, hsource, htarget⟩ := h.joins c hc
  simp only [hsource, htarget, Option.bind_eq_bind, Option.bind_some, Option.pure_def,
    Option.some.injEq, Prod.mk.injEq] at hends
  exact hends.1 ▸ hs

/-- The connectors after the check join the same nodes as before, and the start with the attached
ones. -/
lemma flowEnds_unconnectedNodes (h : IsJoined d start) :
    flowEnds (unconnectedNodes.apply d).1
      = flowEnds d ++ (attachments start (flowEnds d) (flowNodeIds d)).map (start, ·) := by
  obtain ⟨p, hp⟩ := h.exists_process?
  rw [unconnectedNodes_fst h.startIds_eq, flowEnds_eq (process?_attachNodes _ _ hp),
    flowEnds_attachAll, ← flowEnds_eq hp]

lemma flowNodeIds_unconnectedNodes (h : IsJoined d start) :
    flowNodeIds (unconnectedNodes.apply d).1 = flowNodeIds d := by
  obtain ⟨p, hp⟩ := h.exists_process?
  exact flowNodeIds_eq_of_sameTag
    ((sameButLists_unconnectedNodes hp).2.imp fun _ _ h => h.toSameTag)

/-- Without circles, the nodes that are attached are the foremost ones, in document order. -/
lemma attachments_eq (h : IsJoined d start) (hacyclic : LooseAcyclic start (flowEnds d)) :
    attachments start (flowEnds d) (flowNodeIds d)
      = (flowNodeIds d).filter (IsForemost start (flowEnds d) ·) :=
  attachments_eq_filter h.nodup (fun m n hstep => h.source_mem m n hstep.1) hacyclic

end IsJoined

/-- The check connects every node of a flow with its start. It keeps the nodes and the connectors
and adds connectors from the start to nodes that were not connected. Where these do not run in
circles, it adds one for each of them that no other one leads to directly, in document order. -/
theorem unconnectedNodes_connects {d : Document} {start : String} (h : IsJoined d start) :
    flowNodeIds (unconnectedNodes.apply d).1 = flowNodeIds d ∧
    (∀ n ∈ flowNodeIds d, IsConnected start (flowEnds (unconnectedNodes.apply d).1) n) ∧
    ∃ kept added nodes, (unconnectedNodes.apply d).1.connectors = kept ++ added ∧
      List.Forall₂ SameButLists d.connectors kept ∧
      List.Forall₂ (fun n c => c.attr "sourceRef" = some start ∧ c.attr "targetRef" = some n)
        nodes added ∧
      (∀ n ∈ nodes, n ∈ flowNodeIds d ∧ ¬ IsConnected start (flowEnds d) n) ∧
      (LooseAcyclic start (flowEnds d) →
        nodes = (flowNodeIds d).filter (IsForemost start (flowEnds d) ·)) := by
  obtain ⟨p, hp⟩ := h.exists_process?
  refine ⟨h.flowNodeIds_unconnectedNodes, ?_, ?_⟩
  · rw [h.flowEnds_unconnectedNodes]
    exact isConnected_attachments start (flowEnds d) (flowNodeIds d)
  · obtain ⟨kept, added, hall, hkept, hadded⟩ := connectors_attachAll start
      (attachments start (flowEnds d) (flowNodeIds d)) p
    refine ⟨kept, added, attachments start (flowEnds d) (flowNodeIds d), ?_, ?_, ?_,
      fun n hn => mem_attachments hn, h.attachments_eq⟩
    · rw [unconnectedNodes_fst h.startIds_eq,
        Document.connectors_eq (process?_attachNodes _ _ hp), hall]
    · rwa [Document.connectors_eq hp]
    · refine hadded.imp fun n c hc => ?_
      rw [hc.attr_eq, hc.attr_eq]
      exact ⟨rfl, rfl⟩

/-- Tasks that are not connected: two lead to a third, and one of these also to itself. -/
def gatheringFlow : Document :=
  taskFlow ["t", "c", "a", "b"] [("1", "s", "t"), ("2", "a", "c"), ("3", "b", "c"), ("4", "b", "b")]

theorem unconnectedNodes_gatheringFlow :
    IsJoined gatheringFlow "s" ∧ LooseAcyclic "s" (flowEnds gatheringFlow) ∧
      ∃ kept added, (unconnectedNodes.apply gatheringFlow).1.connectors = kept ++ added ∧
        List.Forall₂ SameButLists gatheringFlow.connectors kept ∧
        added.map (·.attr "targetRef") = [some "a", some "b"] := by
  have hjoined : IsJoined gatheringFlow "s" := by decide +kernel
  have hacyclic : LooseAcyclic "s" (flowEnds gatheringFlow) :=
    .of_rank (fun n => if n ∈ ["t", "c"] then 1 else 0) (by decide +kernel)
  obtain ⟨-, -, kept, added, nodes, hall, hkept, hadded, -, hnodes⟩ :=
    unconnectedNodes_connects hjoined
  have hforemost : (flowNodeIds gatheringFlow).filter (IsForemost "s" (flowEnds gatheringFlow) ·)
      = ["a", "b"] := by decide +kernel
  have htargets := map_eq_map_of_forall₂ (f := some) (fun n c h => h.2.symm) hadded
  refine ⟨hjoined, hacyclic, kept, added, hall, hkept, ?_⟩
  rw [← htargets, hnodes hacyclic, hforemost]
  rfl

/-- In what order nodes are attached, and which of them are led to from others. No attached node is
led to from one that was attached before it. It is led to from another one exactly if some node that
is not connected leads to it and is not led to from it, which does not happen without circles. -/
theorem attached_downstream_iff {d : Document} {start : String} (h : IsJoined d start) :
    ∃ nodes : List String,
      flowEnds (unconnectedNodes.apply d).1 = flowEnds d ++ nodes.map (start, ·) ∧
      (nodes.Pairwise fun m n => ¬ Reaches (flowEnds d) m n) ∧
      (∀ n ∈ nodes, (∃ m ∈ nodes, m ≠ n ∧ Reaches (flowEnds d) m n) ↔
        ∃ u ∈ flowNodeIds d, ¬ IsConnected start (flowEnds d) u ∧
          Reaches (flowEnds d) u n ∧ ¬ Reaches (flowEnds d) n u) ∧
      (LooseAcyclic start (flowEnds d) →
        ∀ m ∈ nodes, ∀ n ∈ nodes, m ≠ n → ¬ Reaches (flowEnds d) m n) := by
  refine ⟨attachments start (flowEnds d) (flowNodeIds d), h.flowEnds_unconnectedNodes,
    pairwise_attachments .., fun n hn => exists_reaches_attachment_iff hn, ?_⟩
  intro hacyclic m hm n hn hne
  rw [h.attachments_eq hacyclic] at hn
  have hforemost := of_decide_eq_true (List.mem_filter.mp hn).2
  exact hforemost.not_reaches (mem_attachments hm).2 hne

/-- Two tasks that run in a circle, with a way out to a task that stands before them. -/
def circlingFlow : Document :=
  taskFlow ["x", "a", "b"] [("1", "a", "b"), ("2", "b", "a"), ("3", "b", "x")]

lemma reaches_circlingFlow : Reaches (flowEnds circlingFlow) "a" "x" :=
  .head (b := "b") (by decide +kernel) (.single (by decide +kernel))

lemma flowEnds_circlingFlow :
    flowEnds (unconnectedNodes.apply circlingFlow).1
      = flowEnds circlingFlow ++ ["x", "a"].map ("s", ·) := by
  decide +kernel

/-- The way out is led to from the circle and does not lead back. The circle leads back to whatever
leads to it. -/
theorem attached_downstream_circlingFlow :
    IsJoined circlingFlow "s" ∧
      (∃ u ∈ flowNodeIds circlingFlow, ¬ IsConnected "s" (flowEnds circlingFlow) u ∧
        Reaches (flowEnds circlingFlow) u "x" ∧ ¬ Reaches (flowEnds circlingFlow) "x" u) ∧
      ∀ u ∈ flowNodeIds circlingFlow, ¬ IsConnected "s" (flowEnds circlingFlow) u →
        Reaches (flowEnds circlingFlow) u "a" → Reaches (flowEnds circlingFlow) "a" u := by
  have hjoined : IsJoined circlingFlow "s" := by decide +kernel
  obtain ⟨nodes, hends, hpairs, hiff, -⟩ := attached_downstream_iff hjoined
  have hmap := List.append_cancel_left (hends.symm.trans flowEnds_circlingFlow)
  obtain rfl : nodes = ["x", "a"] := List.map_injective_iff.mpr (Prod.mk_right_injective "s") hmap
  refine ⟨hjoined, (hiff "x" (by simp)).mp ⟨"a", by simp, by decide, reaches_circlingFlow⟩, ?_⟩
  intro u hu hloose hto
  by_contra hfrom
  obtain ⟨m, hm, hne, hpath⟩ := (hiff "a" (by simp)).mpr ⟨u, hu, hloose, hto, hfrom⟩
  obtain rfl : m = "x" := by simpa [hne] using hm
  exact absurd hpath (by simpa using hpairs)

/-- Both the way out and the circle are attached, though the circle leads to the way out. -/
theorem circlingFlow_attached_twice :
    IsJoined circlingFlow "s" ∧
      flowEnds (unconnectedNodes.apply circlingFlow).1
        = flowEnds circlingFlow ++ [("s", "x"), ("s", "a")] ∧
      Reaches (flowEnds circlingFlow) "a" "x" :=
  ⟨by decide +kernel, flowEnds_circlingFlow, reaches_circlingFlow⟩

end IntegrationFlow.Repair
