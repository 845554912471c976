import Mathlib
import IntegrationFlow.Proofs.Repair.Pass

/-!
# The order of elements in a flow node

In a flow node the extension comes first, then the lists of connectors that enter and that leave,
then event definitions. Every edit of a pass keeps to that order: references are added between the
others of their kind and what comes behind them, and a new extension is put ahead of everything.
-/

namespace IntegrationFlow.Repair

open Xml (Element Content elementsIn)
open Bpmn (Document isFlowNode)

/-! ### The order -/

/-- The local names of the child elements. -/
def childNames (e : Element) : List String := e.elements.map Element.localName

/-- Names cut into the sections of a flow node. -/
structure Sections (names extensions incoming outgoing events : List String) : Prop where
  names_eq : names = extensions ++ incoming ++ outgoing ++ events
  length_extensions : extensions.length ≤ 1
  extension : ∀ n ∈ extensions, n = "extensionElements"
  incoming : ∀ n ∈ incoming, n = "incoming"
  outgoing : ∀ n ∈ outgoing, n = "outgoing"
  event : ∀ n ∈ events, Text.finishesWith "EventDefinition" n

/-- The order of names in a flow node: one extension at the most, then incoming and outgoing
connectors, then event definitions, and nothing else. -/
def InSchemaOrder (names : List String) : Prop :=
  ∃ extensions incoming outgoing events, Sections names extensions incoming outgoing events

/-- What is left when names are dropped is in order still. -/
lemma InSchemaOrder.of_sublist {names names' : List String} (h : InSchemaOrder names)
    (hsub : names'.Sublist names) : InSchemaOrder names' := by
  obtain ⟨extensions, incoming, outgoing, events, h⟩ := h
  rw [h.names_eq] at hsub
  obtain ⟨front, events', rfl, hsub, hevents⟩ := List.sublist_append_iff.mp hsub
  obtain ⟨front, outgoing', rfl, hsub, houtgoing⟩ := List.sublist_append_iff.mp hsub
  obtain ⟨extensions', incoming', rfl, hextensions, hincoming⟩ := List.sublist_append_iff.mp hsub
  exact ⟨extensions', incoming', outgoing', events', rfl,
    hextensions.length_le.trans h.length_extensions,
    fun n hn => h.extension n (hextensions.subset hn),
    fun n hn => h.incoming n (hincoming.subset hn),
    fun n hn => h.outgoing n (houtgoing.subset hn), fun n hn => h.event n (hevents.subset hn)⟩

/-! ### Insertions -/

/-- An element is inserted where the names begin that it has to precede. -/
lemma childNames_insertBefore (child : Element) (precedes : String → Bool) {e : Element}
    {l r : List String} (h : childNames e = l ++ r) (hl : ∀ n ∈ l, precedes n = false)
    (hr : ∀ n ∈ r, precedes n) :
    childNames (e.insertBefore child fun x => precedes x.localName) = l ++ child.localName :: r := by
  simp only [childNames, Element.elements_eq, Element.insertBefore] at h ⊢
  generalize e.children = cs at h ⊢
  induction cs generalizing l with
  | nil =>
    obtain ⟨rfl, rfl⟩ := List.append_eq_nil_iff.mp h.symm
    rfl
  | cons c cs ih =>
    cases c with
    | text s => simpa [Element.insertIn] using ih hl h
    | element x =>
      rw [Xml.elementsIn_element, List.map_cons] at h
      cases l with
      | nil =>
        rw [List.nil_append] at h
        subst h
        simp [Element.insertIn, hr x.localName (List.mem_cons_self ..)]
      | cons n l =>
        obtain ⟨rfl, hrest⟩ := List.cons.inj h
        rw [List.forall_mem_cons] at hl
        simp [Element.insertIn, hl.1, ih hl.2 hrest]

/-- Adding a reference keeps the order. -/
lemma InSchemaOrder.addReference {e : Element} (h : InSchemaOrder (childNames e))
    (ns : Option String) (d : Direction) (connector : String) :
    InSchemaOrder (childNames (addReference ns d connector e)) := by
  obtain ⟨extensions, incoming, outgoing, events, h⟩ := h
  cases d with
  | incoming =>
    have hnames := childNames_insertBefore
      (.ofText (qualified ns Direction.incoming.name) connector)
      (fun n => Text.finishesWith "EventDefinition" n || n == "outgoing")
      (h.names_eq.trans (List.append_assoc ..)) ?front ?behind
    case front =>
      intro n hn
      rcases List.mem_append.mp hn with hn | hn
      · rw [h.extension n hn]
        decide
      · rw [h.incoming n hn]
        decide
    case behind =>
      intro n hn
      rcases List.mem_append.mp hn with hn | hn
      · simp [h.outgoing n hn]
      · simp [h.event n hn]
    rw [localName_reference] at hnames
    refine ⟨extensions, incoming ++ ["incoming"], outgoing, events, hnames.trans ?_,
      h.length_extensions, h.extension, ?_, h.outgoing, h.event⟩
    · simp [Direction.name]
    · simpa [or_imp, forall_and] using h.incoming
  | outgoing =>
    have hnames := childNames_insertBefore
      (.ofText (qualified ns Direction.outgoing.name) connector)
      (fun n => Text.finishesWith "EventDefinition" n || false) h.names_eq ?front ?behind
    case front =>
      intro n hn
      rcases List.mem_append.mp hn with hn | hn
      · rcases List.mem_append.mp hn with hn | hn
        · rw [h.extension n hn]
          decide
        · rw [h.incoming n hn]
          decide
      · rw [h.outgoing n hn]
        decide
    case behind =>
      intro n hn
      simp [h.event n hn]
    rw [localName_reference] at hnames
    refine ⟨extensions, incoming, outgoing ++ ["outgoing"], events, hnames.trans ?_,
      h.length_extensions, h.extension, h.incoming, ?_, h.event⟩
    · simp [Direction.name]
    · simpa [or_imp, forall_and] using h.outgoing

/-- A new extension stands ahead of everything. -/
lemma InSchemaOrder.ensureExtension {e : Element} (h : InSchemaOrder (childNames e)) :
    InSchemaOrder (childNames (ensureExtension e).1) := by
  cases hfind : e.find "extensionElements" with
  | some ext =>
    have hsame : (Repair.ensureExtension e).1 = e := by simp [Repair.ensureExtension, hfind]
    rwa [hsame]
  | none =>
    obtain ⟨extensions, incoming, outgoing, events, h⟩ := h
    have hnone : extensions = [] := by
      rw [List.eq_nil_iff_forall_not_mem]
      intro n hn
      have hmem : "extensionElements" ∈ childNames e := by
        rw [h.names_eq, ← h.extension n hn]
        simp [hn]
      obtain ⟨x, hx, hname⟩ := List.mem_map.mp hmem
      exact List.find?_eq_none.mp hfind x hx (by simp [hname])
    have hnames : childNames (Repair.ensureExtension e).1
        = "extensionElements" :: childNames e := by
      have hinsert := childNames_insertBefore
        { name := qualified e.namespacePart "extensionElements" } (fun _ => true)
        (List.nil_append (childNames e)).symm (by simp) (by simp)
      rw [localName_extensionElements] at hinsert
      simpa [Repair.ensureExtension, hfind] using hinsert
    refine ⟨["extensionElements"], incoming, outgoing, events, ?_, Nat.le_refl 1, by simp,
      h.incoming, h.outgoing, h.event⟩
    rw [hnames, h.names_eq, hnone]
    simp

/-! ### Edits of a node -/

/-- Dropping references drops names and nothing else. -/
lemma elementsIn_keepReferences_sublist (d : Direction) (expected seen : List String)
    (cs : List (Content Element)) :
    (elementsIn (keepReferences d expected seen cs)).Sublist (elementsIn cs) := by
  induction cs generalizing seen with
  | nil => exact List.Sublist.refl _
  | cons c cs ih =>
    cases c with
    | text s => exact ih seen
    | element e =>
      rw [keepReferences]
      split
      · exact (ih seen).cons_cons e
      · split
        · exact (ih _).cons_cons e
        · exact (ih seen).cons e

lemma InSchemaOrder.foldl_addReference {e : Element} (h : InSchemaOrder (childNames e))
    (ns : Option String) (d : Direction) (connectors : List String) :
    InSchemaOrder (childNames (connectors.foldl (fun e c => Repair.addReference ns d c e) e)) := by
  induction connectors generalizing e with
  | nil => exact h
  | cons c cs ih => exact ih (h.addReference ns d c)

lemma InSchemaOrder.syncReferences {e : Element} (h : InSchemaOrder (childNames e))
    (ns : Option String) (d : Direction) (expected : List String) :
    InSchemaOrder (childNames (syncReferences ns d expected e).1) := by
  have hkept : InSchemaOrder
      (childNames { e with children := keepReferences d expected [] e.children }) :=
    h.of_sublist ((elementsIn_keepReferences_sublist d expected [] e.children).map _)
  exact hkept.foldl_addReference ns d _

/-- Bringing the lists of a node in line keeps the order. -/
lemma InSchemaOrder.syncNode {e : Element} (h : InSchemaOrder (childNames e)) (ns : Option String)
    (connectors : List (String × String × String)) :
    InSchemaOrder (childNames (syncNode ns connectors e).1) :=
  (h.syncReferences ns .incoming _).syncReferences ns .outgoing _

lemma InSchemaOrder.listAttachment {e : Element} (h : InSchemaOrder (childNames e))
    (start node : String) (process : Element) :
    InSchemaOrder (childNames (listAttachment start node process e)) := by
  unfold Repair.listAttachment
  split
  · exact h.addReference ..
  · split
    · exact h.addReference ..
    · exact h

/-- Completing an extension keeps its name. -/
lemma childNames_completeStated (inferred : TargetType) (e : Element) :
    childNames (completeStated inferred e).1 = childNames e := by
  cases hfind : e.find "extensionElements" with
  | none => simp [completeStated, hfind]
  | some ext =>
    obtain ⟨l, r, he, -, hmodify⟩ := Element.exists_elements_modifyFirst hfind
    rw [completeStated_eq hfind, childNames, hmodify, childNames, he]
    simp [(Keeps.completeExtension ..).tag.localName_eq]

/-- Completing a flow node keeps the order, and leaves it with an extension. -/
lemma InSchemaOrder.completeNode {e : Element} (h : InSchemaOrder (childNames e))
    (hnode : isFlowNode e) : InSchemaOrder (childNames (completeNode e).1) ∧
      "extensionElements" ∈ childNames (Repair.completeNode e).1 := by
  obtain ⟨inferred, hinferred, -⟩ := exists_inferTarget? hnode
  have hnames : childNames (Repair.completeNode e).1
      = childNames (Repair.ensureExtension e).1 := by
    rw [Repair.completeNode, hinferred]
    exact childNames_completeStated ..
  rw [hnames]
  refine ⟨h.ensureExtension, ?_⟩
  have hfind := find_ensureExtension e
  rw [← show _ = "extensionElements" by simpa using List.find?_some hfind]
  exact List.mem_map_of_mem (List.mem_of_find?_eq_some hfind)

/-! ### The pass -/

lemma inSchemaOrder_attachAll {process : Element} (start : String) (nodes : List String)
    (h : ∀ e ∈ process.elements.filter isFlowNode, InSchemaOrder (childNames e)) :
    ∀ e ∈ (attachAll start nodes process).elements.filter isFlowNode,
      InSchemaOrder (childNames e) := by
  induction nodes generalizing process with
  | nil => exact h
  | cons node nodes ih =>
    refine @ih (attachInProcess start node process) ?_
    rw [flowNodes_attachInProcess]
    intro e he
    obtain ⟨x, hx, rfl⟩ := List.mem_map.mp he
    exact (h x hx).listAttachment start node process

section Checks

variable {d : Document} {p : Element}

lemma inSchemaOrder_danglingConnectors (hp : d.process? = some p)
    (h : ∀ e ∈ d.flowNodes, InSchemaOrder (childNames e)) :
    ∀ e ∈ (danglingConnectors.apply d).1.flowNodes, InSchemaOrder (childNames e) := by
  rw [Document.flowNodes_eq (process?_danglingConnectors hp), flowNodes_linkProcess,
    ← Document.flowNodes_eq hp]
  intro e he
  obtain ⟨x, hx, rfl⟩ := List.mem_map.mp he
  exact (h x hx).syncNode ..

lemma inSchemaOrder_unconnectedNodes (hp : d.process? = some p)
    (h : ∀ e ∈ d.flowNodes, InSchemaOrder (childNames e)) :
    ∀ e ∈ (unconnectedNodes.apply d).1.flowNodes, InSchemaOrder (childNames e) := by
  rcases unconnectedNodes_cases d with hfix | ⟨start, -, hattach⟩
  · rwa [hfix]
  · rw [hattach, Document.flowNodes_eq (process?_attachNodes start _ hp)]
    rw [Document.flowNodes_eq hp] at h
    exact inSchemaOrder_attachAll start _ h

lemma inSchemaOrder_mandatoryProperties (hp : d.process? = some p)
    (h : ∀ e ∈ d.flowNodes, InSchemaOrder (childNames e)) :
    ∀ e ∈ (mandatoryProperties.apply d).1.flowNodes,
      InSchemaOrder (childNames e) ∧ "extensionElements" ∈ childNames e := by
  rw [flowNodes_mandatoryProperties hp]
  intro e he
  obtain ⟨x, hx, rfl⟩ := List.mem_map.mp he
  exact (h x hx).completeNode ((Document.mem_flowNodes hp).mp hx).2

end Checks

/-- A pass keeps the order of elements in flow nodes, whatever it adds and removes. Each flow node
has its one extension afterwards. -/
theorem run_keeps_schema_order {d : Document}
    (h : ∀ e ∈ d.flowNodes, InSchemaOrder (childNames e)) :
    ∀ e ∈ (run [] d).1.flowNodes,
      InSchemaOrder (childNames e) ∧ "extensionElements" ∈ childNames e := by
  cases hp : d.process? with
  | none =>
    have hnodes : (run [] d).1.flowNodes = [] := by simp [run, Document.flowNodes, hp]
    simp [hnodes]
  | some p =>
    have hp₁ := process?_danglingConnectors hp
    obtain ⟨⟨p₂, hp₂⟩, -⟩ := sameButLists_unconnectedNodes hp₁
    rw [run_fst hp]
    refine inSchemaOrder_mandatoryProperties hp₂ ?_
    exact inSchemaOrder_unconnectedNodes hp₁ (inSchemaOrder_danglingConnectors hp h)

/-- A flow whose start has no extension and lists a connector that is gone, but not the one that is
there. No connector leads to its end. -/
def looseEnds : Document where
  root :=
    { name := "b:definitions"
      children :=
        [.element
          { name := "b:process"
            children :=
              [.element
                { name := "b:startEvent"
                  attributes := [("id", "s")]
                  children :=
                    [.text "received", .element (.ofText "b:outgoing" "gone"),
                     .element { name := "b:messageEventDefinition" }] },
               .element { name := "b:serviceTask", attributes := [("id", "t")] },
               .element
                { name := "b:endEvent"
                  attributes := [("id", "u")]
                  children :=
                    [.element { name := "b:extensionElements" },
                     .element { name := "b:errorEventDefinition" }] },
               .element
                { name := "b:sequenceFlow"
                  attributes := [("id", "f"), ("sourceRef", "s"), ("targetRef", "t")] }] }] }

theorem looseEnds_keeps_schema_order :
    (∀ e ∈ looseEnds.flowNodes, InSchemaOrder (childNames e)) ∧
      (run [] looseEnds).1.flowNodes.map childNames =
        [["extensionElements", "outgoing", "outgoing", "messageEventDefinition"],
         ["extensionElements", "incoming"],
         ["extensionElements", "incoming", "errorEventDefinition"]] ∧
      ∀ e ∈ (run [] looseEnds).1.flowNodes,
        InSchemaOrder (childNames e) ∧ "extensionElements" ∈ childNames e := by
  have hall : ∀ names ∈ looseEnds.flowNodes.map childNames, InSchemaOrder names := by
    have hnames : looseEnds.flowNodes.map childNames
        = [["outgoing", "messageEventDefinition"], [],
           ["extensionElements", "errorEventDefinition"]] := by cbv
    rw [hnames]
    simp only [List.forall_mem_cons]
    refine ⟨⟨[], [], ["outgoing"], ["messageEventDefinition"], ?_⟩, ⟨[], [], [], [], ?_⟩,
      ⟨["extensionElements"], [], [], ["errorEventDefinition"], ?_⟩, by simp⟩
    · constructor <;> decide
    · constructor <;> decide
    · constructor <;> decide
  have hordered : ∀ e ∈ looseEnds.flowNodes, InSchemaOrder (childNames e) :=
    fun e he => hall _ (List.mem_map_of_mem he)
  exact ⟨hordered, by decide +kernel, run_keeps_schema_order hordered⟩

end IntegrationFlow.Repair
