import Mathlib
import IntegrationFlow.Proofs.Repair.Pass

/-!
# What a pass leaves alone

A pass adds what is missing and drops the connectors that join nothing. The flow nodes and the other
connectors stay, the properties that have a value keep it, and of the parts of the document only the
process and the diagram are touched.
-/

namespace IntegrationFlow.Repair

open Xml (Element Content SameTag elementsIn)
open Bpmn (Document Template property properties isFlowNode isConnector standardTemplate?)

/-! ### Properties with a value -/

/-- The properties of an extension whose value is not blank. -/
def statedProperties (ext : Element) : List (String × String) :=
  (properties ext).filter fun p => !Text.isBlank p.2

/-- `ext'` has the tag of `ext` and every property that has a value in `ext`, in the same order. -/
structure KeepsStated (ext ext' : Element) : Prop extends SameTag ext ext' where
  stated : (statedProperties ext).Sublist (statedProperties ext')

namespace KeepsStated

variable {ext ext' ext'' : Element}

lemma refl (ext : Element) : KeepsStated ext ext := ⟨SameTag.refl ext, List.Sublist.refl _⟩

lemma trans (h : KeepsStated ext ext') (h' : KeepsStated ext' ext'') : KeepsStated ext ext'' :=
  ⟨h.toSameTag.trans h'.toSameTag, h.stated.trans h'.stated⟩

lemma push (ext : Element) (key v : String) : KeepsStated ext (ext.push (property key v)) := by
  refine ⟨Element.sameTag_push .., ?_⟩
  rw [statedProperties, statedProperties, properties_push]
  exact (List.sublist_append_left ..).filter _

/-- Setting the value of a key that has none but blank values overwrites no value. -/
lemma setPropertyValue {key single : String} (hkey : key ≠ "") (v : String)
    (honly : HoldsOnly ext key single) (hblank : Text.isBlank single) :
    KeepsStated ext (setPropertyValue key v ext) := by
  refine ⟨Element.sameTag_mapElements .., ?_⟩
  have hfixed : ∀ p ∈ statedProperties ext,
      (if p.1 = key then (p.1, Text.trim v) else p) = p := by
    intro p hp
    obtain ⟨hmem, hstated⟩ := List.mem_filter.mp hp
    refine if_neg fun hp => ?_
    have hvalue : p.2 = single := honly.2 p.2 (hp ▸ hmem)
    simp [hvalue, hblank] at hstated
  -- the properties with a value are not changed, so they are found among the changed ones
  have hmap := (List.map_congr_left hfixed).trans (List.map_id _)
  have hsub : (statedProperties ext).Sublist (properties (Repair.setPropertyValue key v ext)) := by
    rw [properties_setPropertyValue hkey, ← hmap]
    exact List.filter_sublist.map _
  simpa only [statedProperties, List.filter_filter, Bool.and_self] using
    hsub.filter fun p => !Text.isBlank p.2

lemma step (h : CompletionStep ext ext') : KeepsStated ext ext' := by
  cases h with
  | add key v => exact push ..
  | fill v hkey honly hblank => exact setPropertyValue hkey v honly hblank

lemma steps (h : Relation.ReflTransGen CompletionStep ext ext') : KeepsStated ext ext' := by
  induction h with
  | refl => exact refl ext
  | tail _ h ih => exact ih.trans (step h)

/-- Completing an extension keeps every property that has a value. -/
lemma completeExtension (id tag : String) (inferred : TargetType) (ext : Element) :
    KeepsStated ext (completeExtension id tag inferred ext).1 :=
  steps (steps_completeExtension id tag inferred ext)

end KeepsStated

/-! ### Flow nodes -/

/-- `e'` is `e` but for its lists of connectors and for what its extensions gained. A node without
an extension may have been given one. -/
structure KeepsNode (e e' : Element) : Prop extends SameTag e e' where
  extensions : e.findAll "extensionElements" = [] ∨
    List.Forall₂ KeepsStated (e.findAll "extensionElements") (e'.findAll "extensionElements")
  others : ∀ q : Element → Bool, (∀ x, IsReference x → q x = false) →
    (∀ x : Element, x.localName = "extensionElements" → q x = false) →
    e'.elements.filter q = e.elements.filter q

lemma KeepsNode.of_sameButLists {e e' e'' : Element} (h : SameButLists e e')
    (h' : KeepsNode e' e'') : KeepsNode e e'' := by
  have hext : e'.findAll "extensionElements" = e.findAll "extensionElements" :=
    h.findAll_eq fun d => by cases d <;> decide
  refine ⟨h.toSameTag.trans h'.toSameTag, ?_, fun q href hq => ?_⟩
  · rw [← hext]
    exact h'.extensions
  · rw [h'.others q href hq, h.filter_eq q href]

/-- Completing the extension that a node has changes the first one and keeps its values. -/
lemma keepsStated_completeStated (inferred : TargetType) {node ext : Element}
    (h : node.find "extensionElements" = some ext) :
    List.Forall₂ KeepsStated (node.findAll "extensionElements")
      ((completeStated inferred node).1.findAll "extensionElements") := by
  have hkeeps := KeepsStated.completeExtension (attrOrEmpty node "id") node.localName inferred ext
  have hname : ext.localName = "extensionElements" := by simpa using List.find?_some h
  obtain ⟨l, r, he, hl, hf⟩ := Element.exists_elements_modifyFirst h
  have hnone : l.filter (fun e => e.localName == "extensionElements") = [] :=
    List.filter_eq_nil_iff.mpr fun y hy => by simp [hl y hy]
  rw [completeStated_eq h, Element.findAll, Element.findAll, he, hf, List.filter_append,
    List.filter_append, hnone, List.nil_append, List.nil_append,
    List.filter_cons_of_pos (by simp [hname]),
    List.filter_cons_of_pos (by simp [hkeeps.localName_eq, hname])]
  exact List.Forall₂.cons hkeeps (List.forall₂_same.mpr fun e _ => KeepsStated.refl e)

/-- Completing a node changes nothing but its first extension. -/
lemma keepsNode_completeNode (node : Element) : KeepsNode node (completeNode node).1 := by
  refine ⟨sameTag_completeNode node, ?_, fun q _ hq => filter_completeNode node hq⟩
  cases hext : node.find "extensionElements" with
  | none => exact Or.inl (List.filter_eq_nil_iff.mpr (List.find?_eq_none.mp hext))
  | some ext =>
    right
    have hensure : ensureExtension node = (node, []) := by simp [ensureExtension, hext]
    unfold completeNode
    split
    · rw [andThen_of_fixed hensure]
      exact keepsStated_completeStated _ hext
    · exact List.forall₂_same.mpr fun e _ => KeepsStated.refl e

/-! ### Connectors -/

instance (nodes : List String) (e : Element) : Decidable (Joins nodes e) :=
  inferInstanceAs (Decidable (_ ∧ _))

/-- The connectors that are not dropped are those that join two nodes. -/
lemma connectors_dropConnectors (process : Element) :
    (dropConnectors process).1.elements.filter isConnector
      = (process.elements.filter isConnector).filter fun e => Joins (nodeIds process) e := by
  rw [dropConnectors, removeElements, Element.elements_keepElements, List.filter_filter,
    List.filter_filter]
  refine List.filter_congr fun e _ => ?_
  cases hc : isConnector e with
  | false => simp
  | true =>
    rw [Bool.true_and, Bool.and_true, Bool.eq_iff_iff, Option.isNone_iff_eq_none,
      danglingEnd?_eq_none_iff, decide_eq_true_iff]
    simp [hc]

/-- A connector that attaches a node to the start. -/
structure Attaches (start : String) (nodes : List String) (c : Element) : Prop where
  source : c.attr "sourceRef" = some start
  target : ∃ node ∈ nodes, c.attr "targetRef" = some node ∧ c.attr "id" = some (attachmentId node)

lemma Attaches.of_sameTag {start : String} {nodes : List String} {c c' : Element}
    (h : Attaches start nodes c) (htag : SameTag c c') : Attaches start nodes c' := by
  constructor
  · rw [htag.attr_eq, h.source]
  · simpa only [htag.attr_eq] using h.target

lemma attaches_attachment {start node : String} {nodes : List String} (h : node ∈ nodes) :
    Attaches start nodes (attachment start node) :=
  ⟨rfl, node, h, rfl, rfl⟩

/-- `cs'` has the connectors of `cs`, but for what they list, and then connectors from the start. -/
def Attached (start : String) (nodes : List String) (cs cs' : List Element) : Prop :=
  ∃ kept added, cs' = kept ++ added ∧ List.Forall₂ SameButLists cs kept ∧
    ∀ c ∈ added, Attaches start nodes c

/-! ### Parts of the document -/

/-- Where the first child element with a local name stands; behind the end if there is none. -/
def partIndex (name : String) (cs : List (Content Element)) : Nat :=
  cs.findIdx fun
    | .element e => e.localName == name
    | .text _ => false

/-- The same text, or an element with the same tag. -/
inductive SameKind : Content Element → Content Element → Prop where
  | text (s : String) : SameKind (.text s) (.text s)
  | element {e e' : Element} (h : SameTag e e') : SameKind (.element e) (.element e')

lemma SameKind.refl (c : Content Element) : SameKind c c := by
  cases c with
  | text s => exact .text s
  | element e => exact .element (SameTag.refl e)

lemma SameKind.trans {c c' c'' : Content Element} (h : SameKind c c') (h' : SameKind c' c'') :
    SameKind c c'' := by
  cases h with
  | text s => exact h'
  | element h =>
    cases h' with
    | element h' => exact .element (h.trans h')

lemma partIndex_eq_of_sameKind {cs cs' : List (Content Element)}
    (h : List.Forall₂ SameKind cs cs') (name : String) : partIndex name cs' = partIndex name cs := by
  induction h with
  | nil => rfl
  | cons h _ ih =>
    rw [partIndex, partIndex] at ih ⊢
    rw [List.findIdx_cons, List.findIdx_cons, ih]
    cases h with
    | text s => rfl
    | element h => simp only [h.localName_eq]

/-- The first element with a name stands behind what has another name. -/
lemma partIndex_append {name : String} {l r : List (Content Element)} {x : Element}
    (hx : x.localName = name) (hl : ∀ y ∈ elementsIn l, (y.localName == name) = false) :
    partIndex name (l ++ .element x :: r) = l.length := by
  induction l with
  | nil => simp [partIndex, List.findIdx_cons, hx]
  | cons c l ih =>
    rw [partIndex] at ih ⊢
    rw [List.cons_append, List.findIdx_cons, List.length_cons]
    cases c with
    | text s => simpa using ih hl
    | element y =>
      rw [Xml.elementsIn_element, List.forall_mem_cons] at hl
      simpa [hl.1] using ih hl.2

/-- `e'` is `e` but for the content of its first process and of its first diagram. -/
structure KeepsParts (e e' : Element) : Prop extends SameTag e e' where
  kind : List.Forall₂ SameKind e.children e'.children
  others : ∀ i, i ≠ partIndex "process" e.children → i ≠ partIndex "BPMNDiagram" e.children →
    e'.children[i]? = e.children[i]?

namespace KeepsParts

variable {e e' e'' : Element}

lemma refl (e : Element) : KeepsParts e e :=
  ⟨SameTag.refl e, List.forall₂_same.mpr fun c _ => SameKind.refl c, fun _ _ _ => rfl⟩

lemma trans (h : KeepsParts e e') (h' : KeepsParts e' e'') : KeepsParts e e'' := by
  refine ⟨h.toSameTag.trans h'.toSameTag,
    forall₂_trans (fun _ _ _ hc hc' => hc.trans hc') h.kind h'.kind, fun i hp hd => ?_⟩
  rw [h'.others i, h.others i hp hd]
  · rwa [partIndex_eq_of_sameKind h.kind]
  · rwa [partIndex_eq_of_sameKind h.kind]

/-- An edit of the first process or of the first diagram keeps all other content. -/
lemma modifyFirst {name : String} (hname : name = "process" ∨ name = "BPMNDiagram")
    {f : Element → Element} (hf : ∀ x, SameTag x (f x)) (e : Element) :
    KeepsParts e (e.modifyFirst (fun x => x.localName == name) f) := by
  cases hfind : e.elements.find? fun x => x.localName == name with
  | none =>
    rw [Element.modifyFirst_of_find?_eq_none hfind]
    exact refl e
  | some x =>
    have hx : x.localName = name := by simpa using List.find?_some hfind
    obtain ⟨l, r, hcs, hl, hmodify⟩ := Element.exists_modifyIn_eq hfind
    refine ⟨Element.sameTag_modifyFirst .., ?_, ?_⟩
    · rw [Element.modifyFirst, hmodify f, hcs]
      exact List.rel_append (List.forall₂_same.mpr fun c _ => SameKind.refl c)
        (.cons (.element (hf x)) (List.forall₂_same.mpr fun c _ => SameKind.refl c))
    · intro i hp hd
      -- the edit is made where the part is looked for
      have hi : i ≠ l.length := by
        rw [← partIndex_append (r := r) hx hl, ← hcs]
        rcases hname with rfl | rfl
        · exact hp
        · exact hd
      rw [Element.modifyFirst, hmodify f, hcs]
      rcases Nat.lt_or_gt_of_ne hi with hi | hi
      · rw [List.getElem?_append_left hi, List.getElem?_append_left hi]
      · obtain ⟨k, rfl⟩ : ∃ k, i = l.length + (k + 1) := ⟨i - l.length - 1, by omega⟩
        rw [List.getElem?_append_right (by omega), List.getElem?_append_right (by omega)]
        simp

variable {f : Element → Element × Report}

lemma modifyProcess {f : Element → Element} (hf : ∀ p, SameTag p (f p)) (d : Document) :
    KeepsParts d.root (d.modifyProcess f).root := modifyFirst (Or.inl rfl) hf d.root

lemma modifyPlane (f : Element → Element) (d : Document) :
    KeepsParts d.root (d.modifyPlane f).root :=
  modifyFirst (Or.inr rfl) (fun _ => Element.sameTag_modifyFirst ..) d.root

lemma onProcess (hf : ∀ p, SameTag p (f p).1) (d : Document) :
    KeepsParts d.root (onProcess f d).1.root := by
  unfold Repair.onProcess
  split
  · exact modifyProcess hf d
  · exact refl d.root

lemma onPlane (f : Element → Element × Report) (d : Document) :
    KeepsParts d.root (onPlane f d).1.root := by
  unfold Repair.onPlane
  split
  · exact modifyPlane _ d
  · exact refl d.root

lemma attachNodes (start : String) (nodes : List String) (d : Document) :
    KeepsParts d.root (attachNodes start nodes d).root := by
  induction nodes generalizing d with
  | nil => exact refl d.root
  | cons node nodes ih =>
    have hattach : KeepsParts d.root (attach start node d).root :=
      (modifyProcess (sameTag_attachInProcess start node) d).trans (modifyPlane ..)
    exact hattach.trans (ih _)

end KeepsParts

/-! ### A pass -/

section Pass

variable {d : Document} {p : Element}

/-- A pass keeps the flow nodes. -/
lemma keepsNode_run (hp : d.process? = some p) :
    List.Forall₂ KeepsNode d.flowNodes (run [] d).1.flowNodes := by
  obtain ⟨⟨p', hp'⟩, -⟩ := sameButLists_unconnectedNodes (process?_danglingConnectors hp)
  rw [run_fst hp, flowNodes_mandatoryProperties hp', List.forall₂_map_right_iff]
  exact (sameButLists_attached hp).imp fun e e' h => .of_sameButLists h (keepsNode_completeNode e')

/-- A pass keeps the parts of the document other than the process and the diagram. -/
lemma keepsParts_run (hp : d.process? = some p) : KeepsParts d.root (run [] d).1.root := by
  have hfirst : KeepsParts d.root (danglingConnectors.apply d).1.root := by
    rw [danglingConnectors_eq hp, andThen_fst]
    exact (KeepsParts.onProcess sameTag_linkProcess d).trans (KeepsParts.onPlane ..)
  have hsecond : KeepsParts (danglingConnectors.apply d).1.root
      (unconnectedNodes.apply (danglingConnectors.apply d).1).1.root := by
    rcases unconnectedNodes_cases (danglingConnectors.apply d).1 with h | ⟨start, -, h⟩
    · rw [h]
      exact KeepsParts.refl _
    · rw [h]
      exact KeepsParts.attachNodes ..
  rw [run_fst hp]
  exact (hfirst.trans hsecond).trans (KeepsParts.onProcess (fun p => sameTag_onFlowNodes p) _)

lemma connectors_mandatoryProperties (hp : d.process? = some p) :
    (mandatoryProperties.apply d).1.connectors = d.connectors := by
  rw [Document.connectors_eq (process?_mandatoryProperties hp), Document.connectors_eq hp,
    connectors_onFlowNodes sameTag_completeNode]

/-- The first check leaves the connectors that join two nodes. -/
lemma connectors_danglingConnectors (hp : d.process? = some p) :
    (danglingConnectors.apply d).1.connectors
      = d.connectors.filter fun c => Joins (flowNodeIds d) c := by
  rw [Document.connectors_eq (process?_danglingConnectors hp), connectors_linkProcess,
    connectors_dropConnectors, Document.connectors_eq hp, flowNodeIds_eq hp]

/-- The second check adds connectors that leave the start, if there is one. -/
lemma attached_unconnectedNodes (hp : d.process? = some p) :
    (unconnectedNodes.apply d).1 = d ∨
      ∃ start, startIds d = [start] ∧
        Attached start (flowNodeIds d) d.connectors (unconnectedNodes.apply d).1.connectors := by
  refine (unconnectedNodes_cases d).imp_right ?_
  rintro ⟨start, hstart, hattach⟩
  refine ⟨start, hstart, ?_⟩
  obtain ⟨kept, added, hall, hkept, hadded⟩ := connectors_attachAll start
    (attachments start (flowEnds d) (flowNodeIds d)) p
  rw [hattach, Document.connectors_eq hp, Document.connectors_eq (process?_attachNodes _ _ hp)]
  refine ⟨kept, added, hall, hkept, fun c hc => ?_⟩
  obtain ⟨node, hnode, hc⟩ := exists_of_mem_forall₂ hadded hc
  exact (attaches_attachment (mem_attachments hnode).1).of_sameTag hc.toSameTag

/-- A pass keeps the connectors that join two nodes, and adds connectors that leave the start. -/
lemma connectors_run (hp : d.process? = some p) :
    ∃ kept added, (run [] d).1.connectors = kept ++ added ∧
      List.Forall₂ SameButLists (d.connectors.filter fun c => Joins (flowNodeIds d) c) kept ∧
      ∀ c ∈ added, ∃ start, startIds d = [start] ∧ Attaches start (flowNodeIds d) c := by
  have hp₁ := process?_danglingConnectors hp
  have htags := (sameButLists_danglingConnectors hp).imp fun _ _ h => h.toSameTag
  obtain ⟨⟨p', hp'⟩, -⟩ := sameButLists_unconnectedNodes hp₁
  rw [run_fst hp, connectors_mandatoryProperties hp', ← connectors_danglingConnectors hp]
  rcases attached_unconnectedNodes hp₁ with hsame | ⟨start, hstart, kept, added, hcs, hkept, hadded⟩
  · rw [hsame]
    exact ⟨_, [], (List.append_nil _).symm, List.forall₂_same.mpr fun e _ => SameButLists.refl e,
      by simp⟩
  · rw [startIds_eq, attr_starts_eq htags, ← startIds_eq] at hstart
    rw [flowNodeIds_eq_of_sameTag htags] at hadded
    exact ⟨kept, added, hcs, hkept, fun c hc => ⟨start, hstart, hadded c hc⟩⟩

lemma run_of_process?_eq_none (hp : d.process? = none) : (run [] d).1 = d := by
  simp [run, hp]

end Pass

/-- Whatever document it is given, a pass damages nothing that is sound. The flow nodes are the same
in the same order, with their tags and with every property of their extensions that has a value; the
connectors are those that join two flow nodes, followed by new ones that leave the one start; and in
the root nothing changes but the first process and the first diagram. -/
theorem run_keeps_sound_content (d : Document) :
    List.Forall₂ KeepsNode d.flowNodes (run [] d).1.flowNodes ∧
      (∃ kept added, (run [] d).1.connectors = kept ++ added ∧
        List.Forall₂ SameButLists (d.connectors.filter fun c => Joins (flowNodeIds d) c) kept ∧
        ∀ c ∈ added, ∃ start, startIds d = [start] ∧ Attaches start (flowNodeIds d) c) ∧
      KeepsParts d.root (run [] d).1.root := by
  cases hp : d.process? with
  | some p => exact ⟨keepsNode_run hp, connectors_run hp, keepsParts_run hp⟩
  | none =>
    have hnodes : d.flowNodes = [] := by simp [Document.flowNodes, hp]
    have hconnectors : d.connectors = [] := by simp [Document.connectors, hp]
    rw [run_of_process?_eq_none hp, hnodes, hconnectors]
    exact ⟨.nil, ⟨[], [], rfl, .nil, by simp⟩, KeepsParts.refl d.root⟩

end IntegrationFlow.Repair
