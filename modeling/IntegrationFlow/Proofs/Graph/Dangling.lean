import Mathlib
import IntegrationFlow.Proofs.Graph.Cycle

/-!
# Links that lead nowhere

A link leads nowhere if its target is neither the id nor the merge key of a record. Records with
such a link are refused, and the error names the first one: the nodes come in the order of their
merge keys, the records of a node in input order, and then the links of a record. Whatever a link
is resolved to has a node.
-/

namespace IntegrationFlow

variable {records : List Record}

/-- A link leads nowhere: no record has its target for an id or for a merge key. -/
def Dangles (records : List Record) (l : Link) : Prop :=
  ∀ r ∈ records, r.id ≠ l.target ∧ r.groupKey ≠ l.target

instance (records : List Record) (l : Link) : Decidable (Dangles records l) :=
  inferInstanceAs (Decidable (∀ r ∈ records, r.id ≠ l.target ∧ r.groupKey ≠ l.target))

/-! ### Resolution -/

/-- A link to the merge key of a record leads somewhere. -/
lemma exists_resolves_of_groupKey {r : Record} (hr : r ∈ records) (document : String) :
    ∃ key, Resolves records document r.groupKey key := by
  by_cases hid : r.groupKey ∈ records.map Record.id
  · exact exists_resolves hid document
  · refine ⟨_, .mergeKey (fun x hx heq => hid ?_) ⟨r, hr, rfl⟩⟩
    exact heq ▸ List.mem_map_of_mem hx

/-- Whether a link leads nowhere does not depend on the document it stands in. -/
lemma dangles_iff_forall_not_resolves {l : Link} (document : String) :
    Dangles records l ↔ ∀ key, ¬ Resolves records document l.target key := by
  constructor
  · intro h key hkey
    cases hkey with
    | @sameDocument r hfound =>
      have hr : r.document = document ∧ r.id = l.target := by simpa using List.find?_some hfound
      exact (h r (List.mem_of_find?_eq_some hfound)).1 hr.2
    | @otherDocument r _ hfound =>
      have hr : r.id = l.target := by simpa using List.find?_some hfound
      exact (h r (List.mem_of_find?_eq_some hfound)).1 hr
    | mergeKey _ hsome =>
      obtain ⟨r, hr, hkey⟩ := hsome
      exact (h r hr).2 hkey
  · intro h r hr
    constructor
    · intro hid
      obtain ⟨key, hkey⟩ := exists_resolves (List.mem_map_of_mem hr) document
      exact h key (hid ▸ hkey)
    · intro hgroup
      obtain ⟨key, hkey⟩ := exists_resolves_of_groupKey hr document
      exact h key (hgroup ▸ hkey)

/-! ### Arrows -/

/-- No arrow is made for a link exactly if it leads nowhere, and the error names its target and its
record. -/
lemma arrowOf_eq_error_iff {r : Record} {l : Link} {e : BuildError} :
    arrowOf records ((mergeKeys records).zip (assignIds [] (mergeKeys records)))
        (nodeIdOf records r.groupKey) r l = .error e ↔
      Dangles records l ∧ e = .dangling l.target r.id := by
  rw [dangles_iff_forall_not_resolves r.document]
  unfold arrowOf
  cases hkey : resolveLink? records r.document l.target with
  | none =>
    have hnone : ∀ key, ¬ Resolves records r.document l.target key := by
      intro key hresolves
      rw [resolveLink?_eq_some_iff.mpr hresolves] at hkey
      exact absurd hkey (by simp)
    simp only [Option.bind_none, Except.error.injEq, hnone, not_false_eq_true, implies_true,
      true_and]
    exact eq_comm
  | some key =>
    have hresolves := resolveLink?_eq_some_iff.mp hkey
    simp only [Option.bind_some, get?_nodeIdOf hresolves.mem_mergeKeys, reduceCtorEq, false_iff]
    exact fun h => h.1 key hresolves

lemma exists_arrowOf_iff {r : Record} {l : Link} :
    (∃ a, arrowOf records ((mergeKeys records).zip (assignIds [] (mergeKeys records)))
      (nodeIdOf records r.groupKey) r l = .ok a) ↔ ¬ Dangles records l := by
  simp only [arrowOf_eq_ok_iff, dangles_iff_forall_not_resolves r.document, not_forall, not_not]
  constructor
  · rintro ⟨a, key, hkey, -⟩
    exact ⟨key, hkey⟩
  · rintro ⟨key, hkey⟩
    exact ⟨_, key, hkey, rfl⟩

/-! ### Graphs -/

/-- No graph is put together exactly if a link leads nowhere, and the first one is reported. -/
theorem assemble_eq_error_iff {e : BuildError} :
    FlowGraph.assemble records = .error e ↔
      ∃ r l, IsFirst (fun x => Dangles records x.2) (linksOf records) (r, l) ∧
        e = .dangling l.target r.id := by
  rw [assemble_eq, bind_eq_error_iff, mapM_eq_error_iff]
  simp only [exists_arrowOf_iff, arrowOf_eq_error_iff, reduceCtorEq, and_false, exists_false,
    or_false]
  constructor
  · rintro ⟨before, ⟨r, l⟩, after, hsplit, hbefore, hdangles, rfl⟩
    exact ⟨r, l, ⟨before, after, hsplit, hbefore, hdangles⟩, rfl⟩
  · rintro ⟨r, l, ⟨before, after, hsplit, hbefore, hdangles⟩, rfl⟩
    exact ⟨before, (r, l), after, hsplit, hbefore, hdangles, rfl⟩

/-- Links are looked at before circles. -/
lemma build_eq_dangling_iff {acyclic : Option Bool} {missing source : String} :
    FlowGraph.build records acyclic = .error (.dangling missing source) ↔
      FlowGraph.assemble records = .error (.dangling missing source) := by
  cases hassemble : FlowGraph.assemble records with
  | error e => simp only [FlowGraph.build, hassemble, bind, Except.bind]
  | ok g =>
    rw [FlowGraph.build_of_assemble acyclic hassemble]
    split <;> simp

/-- Among links there is a first one that leads nowhere if there is any. -/
lemma exists_isFirst_dangles_iff :
    (∃ r l, IsFirst (fun x => Dangles records x.2) (linksOf records) (r, l)) ↔
      ∃ r ∈ records, ∃ l ∈ r.links, Dangles records l := by
  constructor
  · rintro ⟨r, l, before, after, hsplit, -, hdangles⟩
    obtain ⟨hr, hl⟩ := mem_linksOf.mp (hsplit ▸ List.mem_append_right _ (List.mem_cons_self ..))
    exact ⟨r, hr, l, hl, hdangles⟩
  · rintro ⟨r, hr, l, hl, hdangles⟩
    have hsome : ((linksOf records).find? fun x => Dangles records x.2).isSome :=
      List.find?_isSome.mpr ⟨(r, l), mem_linksOf.mpr ⟨hr, hl⟩, by simpa using hdangles⟩
    obtain ⟨⟨r', l'⟩, hfirst⟩ := Option.isSome_iff_exists.mp hsome
    exact ⟨r', l', isFirst_iff_find?.mpr hfirst⟩

/-- Records are refused for a link that leads nowhere exactly if they have one, whether circles are
looked for or not. The error names the target and the record of the first such link. A link that is
resolved has a node to lead to. -/
theorem build_names_first_dangling (records : List Record) (acyclic : Option Bool) :
    ((∃ missing source, FlowGraph.build records acyclic = .error (.dangling missing source)) ↔
      ∃ r ∈ records, ∃ l ∈ r.links, Dangles records l) ∧
    (∀ missing source, FlowGraph.build records acyclic = .error (.dangling missing source) ↔
      ∃ r l, IsFirst (fun x => Dangles records x.2) (linksOf records) (r, l) ∧
        l.target = missing ∧ r.id = source) ∧
    ∀ document target key, resolveLink? records document target = some key →
      key ∈ OrderedMap.keys (groupRecords records) ∧
      ∃ id, OrderedMap.get? ((OrderedMap.keys (groupRecords records)).zip
        (assignIds [] (OrderedMap.keys (groupRecords records)))) key = some id := by
  have hnames : ∀ missing source,
      FlowGraph.build records acyclic = .error (.dangling missing source) ↔
        ∃ r l, IsFirst (fun x => Dangles records x.2) (linksOf records) (r, l) ∧
          l.target = missing ∧ r.id = source := by
    intro missing source
    rw [build_eq_dangling_iff, assemble_eq_error_iff]
    simp only [BuildError.dangling.injEq, eq_comm]
  refine ⟨?_, hnames, fun document target key hkey => ?_⟩
  · rw [← exists_isFirst_dangles_iff]
    simp only [hnames]
    constructor
    · rintro ⟨-, -, r, l, hfirst, -⟩
      exact ⟨r, l, hfirst⟩
    · rintro ⟨r, l, hfirst⟩
      exact ⟨_, _, r, l, hfirst, rfl, rfl⟩
  · have hmem := (resolveLink?_eq_some_iff.mp hkey).mem_mergeKeys
    rw [keys_groupRecords]
    exact ⟨hmem, _, get?_nodeIdOf hmem⟩

/-- Records of a circle with two links that lead nowhere. The one that comes first in the input
belongs to a later node. -/
def staleLinks : List Record :=
  [{ id := "a", name := "A", sourceType := "map", document := "d", dialect := some .boomi,
     mergeKey := some "m", links := [⟨"b", .sequence, none⟩] },
   { id := "b", name := "B", sourceType := "map", document := "d", dialect := some .boomi,
     links := [⟨"m", .sequence, none⟩, ⟨"x", .sequence, none⟩] },
   { id := "c", name := "C", sourceType := "map", document := "e", dialect := some .boomi,
     mergeKey := some "m", links := [⟨"a", .error, none⟩, ⟨"y", .reference, none⟩] }]

theorem build_staleLinks :
    (staleLinks.flatMap fun r => r.links.filter fun l => Dangles staleLinks l).map Link.target
      = ["x", "y"] ∧
    FlowGraph.build staleLinks = .error (.dangling "y" "c") := by
  refine ⟨by decide +kernel, ?_⟩
  obtain ⟨-, hnames, -⟩ := build_names_first_dangling staleLinks none
  refine (hnames "y" "c").mpr ⟨staleLinks[2], ⟨"y", .reference, none⟩, ?_, rfl, rfl⟩
  refine ⟨[(staleLinks[0], ⟨"b", .sequence, none⟩), (staleLinks[2], ⟨"a", .error, none⟩)],
    [(staleLinks[1], ⟨"m", .sequence, none⟩), (staleLinks[1], ⟨"x", .sequence, none⟩)], ?_, ?_, ?_⟩
  · decide +kernel
  · decide +kernel
  · decide +kernel

end IntegrationFlow
