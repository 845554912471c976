import Mathlib
import IntegrationFlow.Proofs.OrderedMap
import IntegrationFlow.Proofs.Repair.Completion
import IntegrationFlow.Bpmn.Generator
import IntegrationFlow.Classification.Mapper
import IntegrationFlow.Graph.Builder

/-!
# Reserved properties

A node is written with its type, its activity and the mandatory properties of its template, and then
with its own properties under all other keys. Keys are told apart as they are, but they are read
without the white space around them. So a reserved key is read once exactly if the node has no other
key that becomes the same when it is trimmed, and a node for which that is so is complete as it is
written.
-/

namespace IntegrationFlow.Bpmn

open Xml (Element Content)
open Repair (Sound HoldsOnly Filled Completes IsComplete)

/-! ### Properties of an extension -/

lemma elements_extensionElement (entries : List (String × String)) :
    (extensionElement entries).elements = entries.map fun e => property e.1 e.2 := by
  rw [Element.elements_eq, ← Xml.elementsIn_map_element (entries.map fun e => property e.1 e.2),
    List.map_map]
  rfl

/-- The properties of an extension are read as they were written, but for white space. -/
lemma properties_extensionElement (entries : List (String × String)) :
    properties (extensionElement entries)
      = entries.map fun e => (Text.trim e.1, Text.trim e.2) := by
  rw [properties, Element.findAll, elements_extensionElement, List.filter_eq_self.mpr]
  · rw [List.map_map]
    refine List.map_congr_left fun e _ => ?_
    obtain ⟨hkey, hvalue⟩ := Repair.childText_property e.1 e.2
    rw [Function.comp_apply, hkey, hvalue]
  · intro x hx
    obtain ⟨e, -, rfl⟩ := List.mem_map.mp hx
    simp [Repair.localName_property]

/-- A key is read once, with a value that is not blank. -/
def OccursOnce (extension : Element) (key : String) : Prop :=
  ∃ v, Text.isBlank v = false ∧ (properties extension).filter (fun p => p.1 = key) = [(key, v)]

lemma holdsOnly_of_filter_eq {extension : Element} {key v : String}
    (h : (properties extension).filter (fun p => p.1 = key) = [(key, v)]) :
    HoldsOnly extension key v := by
  have hmem : ∀ w, (key, w) ∈ properties extension ↔ w = v := by
    intro w
    have hfilter : (key, w) ∈ (properties extension).filter (fun p => p.1 = key) ↔ w = v := by
      simp [h]
    simpa using hfilter
  exact ⟨(hmem v).mpr rfl, fun w => (hmem w).mp⟩

lemma OccursOnce.filled {extension : Element} {key : String} (h : OccursOnce extension key) :
    Filled extension key := by
  obtain ⟨v, hv, hfilter⟩ := h
  exact ⟨v, holdsOnly_of_filter_eq hfilter, hv⟩

/-! ### Values that are not blank -/

lemma isBlank_append_of_not {s t : String} (h : Text.isBlank s = false) :
    Text.isBlank (s ++ t) = false := by
  rw [Text.isBlank, String.toList_append, List.all_append]
  exact Bool.and_eq_false_imp.mpr fun hs => absurd (h.symm.trans hs) (by decide)

/-- A setting that is not blank is not written as a blank text. -/
lemma isBlank_expression {s : Setting} (h : s.isBlank = false) :
    Text.isBlank s.expression = false := by
  cases s with
  | literal value => exact h
  | reference path =>
    rw [Setting.expression, String.append_assoc]
    exact isBlank_append_of_not (by decide)

lemma isBlank_mandatoryValue (settings : Settings) (key : String) {default : String}
    (h : Text.isBlank default = false) :
    Text.isBlank (mandatoryValue settings key default) = false := by
  unfold mandatoryValue
  split
  · split
    · exact h
    · exact isBlank_expression (Bool.eq_false_iff.mpr ‹_›)
  · exact h

/-! ### Reserved keys -/

/-- The keys that are written ahead of the others. -/
def reservedKeys (t : Template) : List String :=
  "componentType" :: "activityType" :: t.mandatory.map Prod.fst

/-- What is written under the reserved keys. -/
def reservedProperties (t : Template) (n : Node) : List (String × String) :=
  ("componentType", t.target.name) :: ("activityType", t.activityType) ::
    t.mandatory.map fun m => (m.1, mandatoryValue n.properties m.1 m.2)

section Node

variable {t : Template} {n : Node} {key : String}

lemma keys_reservedProperties (t : Template) (n : Node) :
    OrderedMap.keys (reservedProperties t n) = reservedKeys t := by
  simp [reservedProperties, reservedKeys, OrderedMap.keys, Function.comp_def]

lemma isReserved_iff : isReserved t key = true ↔ key ∈ reservedKeys t := by
  simp [isReserved, reservedKeys, or_assoc]

lemma isTrimmed_of_mem_reservedKeys (hs : Sound t) (h : key ∈ reservedKeys t) :
    Text.IsTrimmed key := by
  rcases List.mem_cons.mp h with rfl | h
  · decide
  · rcases List.mem_cons.mp h with rfl | h
    · decide
    · obtain ⟨m, hm, rfl⟩ := List.mem_map.mp h
      exact (hs.entries_trimmed m hm).1

lemma nodup_reservedKeys (hs : Sound t) : (reservedKeys t).Nodup := by
  have hother : ∀ k ∈ ["componentType", "activityType"], k ∉ t.mandatory.map Prod.fst := by
    intro k hk hmem
    obtain ⟨m, hm, rfl⟩ := List.mem_map.mp hmem
    exact hs.keys m hm (List.mem_cons_of_mem _ hk)
  refine List.nodup_cons.mpr ⟨?_, List.nodup_cons.mpr ⟨hother _ (by simp), hs.nodup⟩⟩
  rw [List.mem_cons, not_or]
  exact ⟨by decide, hother _ (by simp)⟩

/-- Nothing blank is written under a reserved key. -/
lemma isBlank_of_mem_reservedProperties {target : TargetType} {v : String}
    (ht : standardTemplate? target = some t) (h : (key, v) ∈ reservedProperties t n) :
    Text.isBlank v = false := by
  have hnames : Text.isBlank t.target.name = false ∧ Text.isBlank t.activityType = false := by
    revert ht
    cases target <;> rintro ⟨⟩ <;> decide
  rcases List.mem_cons.mp h with heq | h
  · exact (Prod.mk.inj heq).2 ▸ hnames.1
  · rcases List.mem_cons.mp h with heq | h
    · exact (Prod.mk.inj heq).2 ▸ hnames.2
    · obtain ⟨m, hm, heq⟩ := List.mem_map.mp h
      rw [← (Prod.mk.inj heq).2]
      exact isBlank_mandatoryValue _ _ ((Repair.sound_of_standardTemplate? ht).filled m hm)

/-! ### Reading a node -/

/-- The properties of a node under keys that are read as a key, and are not that key. -/
def othersReadAs (n : Node) (key : String) : Settings :=
  n.properties.filter fun p => p.1 ≠ key ∧ Text.trim p.1 = key

lemma othersReadAs_eq_nil_iff :
    othersReadAs n key = [] ↔ ∀ p ∈ n.properties, Text.trim p.1 = key → p.1 = key := by
  simp only [othersReadAs, List.filter_eq_nil_iff, decide_eq_true_eq, not_and]
  exact forall₂_congr fun p _ => ⟨fun h htrim => by_contra fun hne => h hne htrim,
    fun h hne htrim => hne (h htrim)⟩

/-- Reserved keys are trimmed and distinct, so each is read as it was written. -/
lemma filter_reservedProperties (hs : Sound t) {v : String}
    (h : (key, v) ∈ reservedProperties t n) :
    ((reservedProperties t n).map fun e => (Text.trim e.1, Text.trim e.2)).filter
      (fun p => p.1 = key) = [(key, Text.trim v)] := by
  have htrim : ∀ e ∈ reservedProperties t n, Text.trim e.1 = e.1 := fun e he =>
    isTrimmed_of_mem_reservedKeys hs (keys_reservedProperties t n ▸ List.mem_map_of_mem he)
  have hkeys : OrderedMap.keys ((reservedProperties t n).map fun e =>
      (Text.trim e.1, Text.trim e.2)) = reservedKeys t := by
    rw [← keys_reservedProperties t n, OrderedMap.keys, OrderedMap.keys, List.map_map]
    exact List.map_congr_left htrim
  refine OrderedMap.filter_eq_singleton (hkeys ▸ nodup_reservedKeys hs) ?_
  exact List.mem_map.mpr ⟨_, h, by rw [htrim _ h]⟩

/-- A key that is read as a reserved one, and is not, is not reserved itself. -/
lemma reads_as_reserved_iff (hs : Sound t) (hkey : key ∈ reservedKeys t) (k : String) :
    Text.trim k = key ∧ k ∉ reservedKeys t ↔ k ≠ key ∧ Text.trim k = key := by
  constructor
  · rintro ⟨hread, hfree⟩
    exact ⟨fun heq => hfree (heq ▸ hkey), hread⟩
  · rintro ⟨hne, hread⟩
    refine ⟨hread, fun hmem => hne ?_⟩
    have htrim : Text.trim k = k := isTrimmed_of_mem_reservedKeys hs hmem
    exact htrim.symm.trans hread

lemma filter_otherProperties (hs : Sound t) (hkey : key ∈ reservedKeys t) :
    (((n.properties.filter fun p => !isReserved t p.1).map fun p => (p.1, p.2.expression)).map
        fun e => (Text.trim e.1, Text.trim e.2)).filter (fun p => p.1 = key)
      = (othersReadAs n key).map fun p => (key, Text.trim p.2.expression) := by
  have hsame : (n.properties.filter fun p => decide (Text.trim p.1 = key) && !isReserved t p.1)
      = othersReadAs n key := by
    refine List.filter_congr fun p _ => ?_
    rw [Bool.eq_iff_iff, Bool.and_eq_true, decide_eq_true_eq, decide_eq_true_eq,
      ← reads_as_reserved_iff hs hkey p.1, ← isReserved_iff, Bool.not_eq_true', Bool.not_eq_true]
  simp only [List.map_map, List.filter_map, List.filter_filter, Function.comp_def, hsame]
  refine List.map_congr_left fun p hp => ?_
  rw [(of_decide_eq_true (List.mem_filter.mp hp).2).2]

/-- Under a reserved key, what was written for it is read first, and then what the node has under
other keys that are read in the same way. -/
theorem filter_properties_node (hs : Sound t) {v : String}
    (h : (key, v) ∈ reservedProperties t n) :
    (properties (extensionElement (nodeProperties t n))).filter (fun p => p.1 = key)
      = (key, Text.trim v) ::
        (othersReadAs n key).map fun p => (key, Text.trim p.2.expression) := by
  have hkey : key ∈ reservedKeys t := keys_reservedProperties t n ▸ List.mem_map_of_mem h
  have hnode : nodeProperties t n = reservedProperties t n ++
      (n.properties.filter fun p => !isReserved t p.1).map fun p => (p.1, p.2.expression) := rfl
  rw [properties_extensionElement, hnode, List.map_append, List.filter_append,
    filter_reservedProperties hs h, filter_otherProperties hs hkey, List.singleton_append]

/-- A reserved key is read once exactly if no other key of the node is read in the same way. -/
theorem occursOnce_node_iff {target : TargetType} (ht : standardTemplate? target = some t)
    (hkey : key ∈ reservedKeys t) :
    OccursOnce (extensionElement (nodeProperties t n)) key ↔
      ∀ p ∈ n.properties, Text.trim p.1 = key → p.1 = key := by
  rw [← keys_reservedProperties t n] at hkey
  obtain ⟨⟨key, v⟩, h, rfl⟩ := List.mem_map.mp hkey
  have hread := filter_properties_node (Repair.sound_of_standardTemplate? ht) h
  rw [← othersReadAs_eq_nil_iff]
  constructor
  · rintro ⟨w, -, honce⟩
    rw [hread] at honce
    exact List.map_eq_nil_iff.mp (List.cons.inj honce).2
  · intro hnone
    refine ⟨Text.trim v, ?_, by rw [hread, hnone, List.map_nil]⟩
    rw [Text.isBlank_trim]
    exact isBlank_of_mem_reservedProperties ht h

/-! ### Complete nodes -/

lemma localName_flowElement (hs : Sound t) (n : Node) : (flowElement t n).localName = t.tag := by
  have hcolon : ∀ tag ∈ flowNodeTags, ':' ∉ tag.toList := by decide
  have hname : (flowElement t n).name = "bpmn2" ++ ":" ++ t.tag := rfl
  rw [Element.localName, hname, Xml.localPart_append (hcolon _ hs.tag_mem)]

lemma attr_flowElement (t : Template) (n : Node) : (flowElement t n).attr "id" = some n.id := rfl

lemma isFlowNode_flowElement (hs : Sound t) (n : Node) : isFlowNode (flowElement t n) := by
  rw [isFlowNode, localName_flowElement hs]
  simpa using hs.tag_mem

lemma find_flowElement (t : Template) (n : Node) : (flowElement t n).find "extensionElements"
    = some (extensionElement (nodeProperties t n)) := by
  have hname : Xml.localPart "bpmn2:extensionElements" = "extensionElements" := by decide
  rw [Element.find, Element.elements_eq, flowElement, Xml.elementsIn_map_element]
  simp [extensionElement, Element.localName, hname]

/-- A node whose reserved keys are read once is complete as it is written. -/
theorem isComplete_flowElement (hs : Sound t)
    (h : ∀ key ∈ reservedKeys t, OccursOnce (extensionElement (nodeProperties t n)) key) :
    IsComplete (flowElement t n) := by
  refine ⟨_, t, find_flowElement t n, hs, (localName_flowElement hs n).symm, ?_, ?_, ?_⟩
  · obtain ⟨v, -, hfilter⟩ := h "componentType" (List.mem_cons_self ..)
    have hread := filter_properties_node (n := n) hs (List.mem_cons_self ..)
    obtain ⟨heq, -⟩ := List.cons.inj (hfilter.symm.trans hread)
    obtain rfl : v = t.target.name := (Prod.mk.inj heq).2.trans hs.trimmed.1
    exact holdsOnly_of_filter_eq hfilter
  · obtain ⟨v, hv, -⟩ := (h "activityType" (by simp [reservedKeys])).filled
    exact ⟨v, hv.1⟩
  · intro m hm
    exact (h m.1 (by simp [reservedKeys, List.mem_map_of_mem hm])).filled

/-- The first value that is read under a key is found. -/
lemma propertyValue?_of_filter_eq {e extension : Element} {v : String}
    {rest : List (String × String)} (he : e.find "extensionElements" = some extension)
    (h : (properties extension).filter (fun p => p.1 = key) = (key, v) :: rest) :
    propertyValue? e key = some v := by
  rw [propertyValue?, he, Option.bind_some]
  obtain ⟨before, after, hsplit, hbefore, -⟩ := List.filter_eq_cons_iff.mp h
  refine List.lookup_eq_some_iff.mpr ⟨before, after, hsplit, fun p hp => ?_⟩
  have hne : p.1 ≠ key := by simpa using hbefore p hp
  exact bne_iff_ne.mpr hne.symm

end Node

/-- How the reserved keys of a node are read in its element, for every node and every standard
template. The first value is the one that was written for the key, and it is not blank. The key is
read once exactly if the node has no other key that becomes the same when it is trimmed. Where all
of them are read once, the check of mandatory properties changes nothing and reports nothing. -/
theorem reserved_keys_read_once_iff {target : TargetType} {t : Template}
    (ht : standardTemplate? target = some t) (n : Node) :
    ∃ extension, (flowElement t n).find "extensionElements" = some extension ∧
      (∀ key v, (key, v) ∈ reservedProperties t n →
        propertyValue? (flowElement t n) key = some (Text.trim v) ∧ Text.isBlank v = false) ∧
      (∀ key ∈ reservedKeys t, OccursOnce extension key ↔
        ∀ p ∈ n.properties, Text.trim p.1 = key → p.1 = key) ∧
      ((∀ key ∈ reservedKeys t, OccursOnce extension key) →
        Repair.completeNode (flowElement t n) = (flowElement t n, [])) := by
  have hs := Repair.sound_of_standardTemplate? ht
  refine ⟨_, find_flowElement t n, fun key v h => ⟨?_, ?_⟩, fun key => occursOnce_node_iff ht,
    fun h => Repair.completeNode_of_isComplete (isComplete_flowElement hs h)⟩
  · exact propertyValue?_of_filter_eq (find_flowElement t n) (filter_properties_node hs h)
  · exact isBlank_of_mem_reservedProperties ht h

/-- A request with an address in blanks, a blank method, a setting under a reserved key and another
one with blanks around its key. -/
def spacedRequest : Node :=
  { id := "call", name := "Call", sourceType := "http:request", target := .requestReply
    properties :=
      [("httpMethod", .literal " "), ("componentType", .literal "other"), (" note ", .literal "n"),
       ("address", .literal " /orders ")] }

theorem spacedRequest_reads_once :
    ∃ t extension, standardTemplate? .requestReply = some t ∧
      (flowElement t spacedRequest).find "extensionElements" = some extension ∧
      reservedKeys t = ["componentType", "activityType", "address", "httpMethod"] ∧
      (∀ key ∈ reservedKeys t, OccursOnce extension key) ∧
      propertyValue? (flowElement t spacedRequest) "address" = some "/orders" ∧
      propertyValue? (flowElement t spacedRequest) "httpMethod" = some "POST" ∧
      Repair.completeNode (flowElement t spacedRequest) = (flowElement t spacedRequest, []) := by
  obtain ⟨extension, hfind, hvalue, honce, hcomplete⟩ :=
    reserved_keys_read_once_iff (show standardTemplate? .requestReply = some _ from rfl)
      spacedRequest
  have hall : ∀ key ∈ ["componentType", "activityType", "address", "httpMethod"],
      ∀ p ∈ spacedRequest.properties, Text.trim p.1 = key → p.1 = key := by decide +kernel
  have hkeys : ∀ key ∈ reservedKeys _, OccursOnce extension key := fun key hkey =>
    (honce key hkey).mpr (hall key hkey)
  refine ⟨_, extension, rfl, hfind, rfl, hkeys, ?_, ?_, hcomplete hkeys⟩
  · exact (hvalue "address" " /orders " (by decide +kernel)).1
  · exact (hvalue "httpMethod" "POST" (by decide +kernel)).1

/-- A hint whose settings name the type of the component, with a blank ahead of the key. -/
def spacedType : Record :=
  { Record.hint "s" "s" "" with
    role := .start, settings := [(" componentType", .literal "other")] }

/-- The node that the hint describes, classified. -/
def spacedStart : Node :=
  { id := "s", name := "s", sourceType := "", role := .start, target := .startEvent
    settings := [(" componentType", .literal "other")]
    properties := [("sourceType", .literal ""), (" componentType", .literal "other")]
    sources := [⟨"<hints>", "s"⟩] }

theorem spacedType_read_twice :
    (∃ g, FlowGraph.build [spacedType] = .ok g ∧
      (Classification.Mapper.apply {} g).nodeList = [spacedStart]) ∧
    ∃ t extension, standardTemplate? spacedStart.target = some t ∧
      (flowElement t spacedStart).find "extensionElements" = some extension ∧
      (properties extension).filter (fun p => p.1 = "componentType")
        = [("componentType", "start_event"), ("componentType", "other")] ∧
      ¬ OccursOnce extension "componentType" ∧
      (Repair.completeNode (flowElement t spacedStart)).2
        = [Repair.defect (some "s") "Conflicting component types: start_event, other"] := by
  have hread : (FlowGraph.build [spacedType]).toOption.map (fun g =>
      (Classification.Mapper.apply {} g).nodeList) = some [spacedStart] := by cbv
  have htypes : (properties (extensionElement (nodeProperties
      ⟨.startEvent, "startEvent", "StartEvent", some "messageEventDefinition", []⟩
      spacedStart))).filter (fun p => p.1 = "componentType")
      = [("componentType", "start_event"), ("componentType", "other")] := by decide +kernel
  constructor
  · exact exists_of_map_toOption hread
  · refine ⟨_, _, rfl, find_flowElement _ _, htypes, ?_, by decide +kernel⟩
    rintro ⟨v, -, honce⟩
    rw [htypes] at honce
    exact absurd honce (by simp)

end IntegrationFlow.Bpmn
