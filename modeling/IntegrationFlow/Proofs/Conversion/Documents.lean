import Mathlib
import IntegrationFlow.Proofs.Conversion
import IntegrationFlow.Proofs.Source.Mule.Identifiers
import IntegrationFlow.Proofs.Source.WebMethods

/-!
# Documents of a bundle

Records without a merge key become one node if they have one id, whichever documents they come from.
So the documents of a bundle stay apart, as far as such records go, if these have different ids.
Those of two services never have: each service has a start and an end. Those of two applications
have if their flows have different names, and those of a service and an application always have. A
merge key is not bound to a document: it may be the id of a record of any other one.
-/

namespace IntegrationFlow.Source

open Xml (Element)

/-! ### Records of a document -/

/-- The tree of a document that can be read. -/
def tree? (options : ParseOptions) (d : SourceDocument) : Option Element :=
  (textOf allDialects options d).toOption.bind fun text => (Xml.parse text d.name).1

/-- The ids of the records of a document that have no merge key. -/
def ownIds (options : ParseOptions) (d : SourceDocument) : List String :=
  ((parse d options).records.filter fun r => r.mergeKey.isNone).map Record.id

section Document

variable {options : ParseOptions} {d d' : SourceDocument} {id : String}

lemma mem_ownIds :
    id ∈ ownIds options d ↔ ∃ r ∈ (parse d options).records, r.mergeKey = none ∧ r.id = id := by
  simp [ownIds, and_assoc]

section Tree

variable (source : SourceText) (root : Element)

@[simp] lemma records_readTree_mule :
    (readTree .mule source root).records = (Mule.read source root).1 := by simp only [readTree]

@[simp] lemma records_readTree_boomi :
    (readTree .boomi source root).records = (Boomi.read source root).1 := by simp only [readTree]

@[simp] lemma records_readTree_webMethods :
    (readTree .webMethods source root).records = (WebMethods.read source root).1 := by
  simp only [readTree]

end Tree

/-- The records of a document are those in its tree. -/
lemma records_parse (options : ParseOptions) (d : SourceDocument) :
    (parse d options).records = [] ∧ tree? options d = none ∨
      ∃ text root, tree? options d = some root ∧
        (parse d options).records = (readTree d.dialect ⟨d.name, text⟩ root).records := by
  cases htext : textOf allDialects options d with
  | error refusal =>
    left
    simp only [parse, tree?, htext, Except.toOption, Option.bind_none, and_true]
    cases refusal <;> rfl
  | ok text =>
    cases htree : (Xml.parse text d.name).1 with
    | none =>
      left
      simp [parse, tree?, htext, htree, readText, Except.toOption]
    | some root =>
      right
      refine ⟨text, root, ?_, ?_⟩
      · simp [tree?, htext, htree, Except.toOption]
      · simp [parse, htext, htree, readText]

lemma exists_tree_of_mem {r : Record} (hr : r ∈ (parse d options).records) :
    ∃ text root, tree? options d = some root ∧
      r ∈ (readTree d.dialect ⟨d.name, text⟩ root).records := by
  rcases records_parse options d with ⟨hnone, -⟩ | ⟨text, root, hroot, hrecords⟩
  · rw [hnone] at hr
    exact absurd hr List.not_mem_nil
  · exact ⟨text, root, hroot, hrecords ▸ hr⟩

lemma records_of_tree {root : Element} (hroot : tree? options d = some root) :
    ∃ text, (parse d options).records = (readTree d.dialect ⟨d.name, text⟩ root).records := by
  rcases records_parse options d with ⟨-, hnone⟩ | ⟨text, root', hroot', hrecords⟩
  · exact absurd (hnone.symm.trans hroot) (by simp)
  · obtain rfl := Option.some.inj (hroot'.symm.trans hroot)
    exact ⟨text, hrecords⟩

/-! ### Services -/

/-- A document with a service. -/
def HasService (options : ParseOptions) (d : SourceDocument) : Prop :=
  d.dialect = .webMethods ∧ ∃ root, tree? options d = some root ∧ root.name = "FLOW"

lemma WebMethods.slash_notMem_stepId (n : Nat) : '/' ∉ (stepId n).toList := by
  intro h
  rw [stepId, String.toList_append, List.mem_append] at h
  rcases h with h | h
  · exact absurd h (by decide)
  · exact absurd (isDigit_of_mem_toString h) (by decide)

/-- Only services have records, and no id of theirs has a slash. -/
lemma WebMethods.of_mem_read {source : SourceText} {root : Element} {r : Record}
    (hr : r ∈ (WebMethods.read source root).1) : root.name = "FLOW" ∧ '/' ∉ r.id.toList := by
  by_cases hroot : root.name = "FLOW"
  · refine ⟨hroot, ?_⟩
    obtain ⟨w, n, rs, ls, body, hread, -, hservice⟩ := WebMethods.exists_isService source hroot
      (fun _ _ _ _ => trivial : WebMethods.Stays True root.descendants)
    have hid : r.id ∈ w.records.map Record.id :=
      w.map_id_finish ▸ List.mem_map_of_mem (hread ▸ hr)
    rw [hservice.ids_eq, hservice.laid.map_id_eq fun _ => id, List.mem_cons, List.mem_append,
      List.mem_map, List.mem_singleton] at hid
    rcases hid with hid | ⟨n, -, hid⟩ | hid
    · rw [hid]
      decide
    · rw [← hid]
      exact slash_notMem_stepId _
    · rw [hid]
      decide
  · simp [WebMethods.read, hroot] at hr

lemma HasService.of_mem (hd : d.dialect = .webMethods) (h : id ∈ ownIds options d) :
    HasService options d ∧ '/' ∉ id.toList := by
  obtain ⟨r, hr, -, rfl⟩ := mem_ownIds.mp h
  obtain ⟨text, root, hroot, hr⟩ := exists_tree_of_mem hr
  rw [hd, records_readTree_webMethods] at hr
  obtain ⟨hname, hslash⟩ := WebMethods.of_mem_read hr
  exact ⟨⟨hd, root, hroot, hname⟩, hslash⟩

/-- The start of a service has no merge key. -/
lemma HasService.start_mem (h : HasService options d) : "start" ∈ ownIds options d := by
  obtain ⟨hd, root, hroot, hname⟩ := h
  obtain ⟨text, hrecords⟩ := records_of_tree hroot
  obtain ⟨w, n, rs, ls, body, hread, hstart, -⟩ := WebMethods.exists_isService ⟨d.name, text⟩ hname
    (fun _ _ _ _ => trivial : WebMethods.Stays True root.descendants)
  rw [mem_ownIds, hrecords, hd, records_readTree_webMethods, hread]
  exact ⟨_, List.mem_map_of_mem (List.mem_of_head? hstart), rfl, rfl⟩

/-! ### Applications -/

/-- A document with an application that has a flow of a name, with something to run. -/
def HasFlowNamed (options : ParseOptions) (d : SourceDocument) (name : String) : Prop :=
  d.dialect = .mule ∧ ∃ root, tree? options d = some root ∧ root.localName = "mule" ∧
    (Mule.flowNamed? (root.elements.filter Mule.isFlow) name).isSome

/-- No element of an application gives a merge key. -/
def Unmarked (options : ParseOptions) (d : SourceDocument) : Prop :=
  d.dialect = .mule → ∀ root, tree? options d = some root →
    ∀ e ∈ root.descendants, e.attr "doc:id" = none

lemma HasFlowNamed.of_mem (hd : d.dialect = .mule) (h : id ∈ ownIds options d) :
    ∃ name, HasFlowNamed options d name ∧ Mule.InFlow name id := by
  obtain ⟨r, hr, -, rfl⟩ := mem_ownIds.mp h
  obtain ⟨text, root, hroot, hr⟩ := exists_tree_of_mem hr
  rw [hd, records_readTree_mule] at hr
  by_cases hname : root.localName = "mule"
  · rw [Mule.read_eq_finish hname] at hr
    have hid := List.mem_map_of_mem (f := Record.id) hr
    rw [Walk.map_id_finish] at hid
    obtain ⟨name, hflow, hin, -⟩ := (Mule.identified_walkAll ⟨d.name, text⟩ root).inFlow _ hid
    exact ⟨name, ⟨hd, root, hroot, hname, hflow⟩, hin⟩
  · simp [Mule.read, hname] at hr

/-- Where no element gives a merge key, the first record of a flow is known by its number. -/
lemma HasFlowNamed.first_mem {name : String} (h : HasFlowNamed options d name)
    (hunmarked : Unmarked options d) : name ++ "/0" ∈ ownIds options d := by
  obtain ⟨hd, root, hroot, hname, hflow⟩ := h
  obtain ⟨text, hrecords⟩ := records_of_tree hroot
  have hfirst := (Mule.identified_walkAll ⟨d.name, text⟩ root).first name hflow
  rw [Mule.ids, ← Walk.map_id_finish] at hfirst
  obtain ⟨r, hr, hid⟩ := List.mem_map.mp hfirst
  rw [mem_ownIds, hrecords, hd, records_readTree_mule, Mule.read_eq_finish hname]
  exact ⟨r, hr, Mule.mergeKey_of_mem_finish (hunmarked hd root hroot) hr, hid⟩

/-! ### Processes -/

/-- A document with a process that has a shape of a name and a type. -/
def HasShapeNamed (options : ParseOptions) (d : SourceDocument) (name : String) : Prop :=
  d.dialect = .boomi ∧ ∃ root shapes, tree? options d = some root ∧
    root.localName = "Component" ∧ (∀ kind, root.attr "type" = some kind → kind = "process") ∧
    root.descendant "shapes" = some shapes ∧
    ∃ shape ∈ shapes.findAll "shape", ∃ kind, Boomi.identity? shape = some (name, kind)

lemma Boomi.mem_shapeRecords {source : SourceText} {shapes : List Element} {name : String} :
    (∃ r ∈ shapeRecords source shapes, r.mergeKey = none ∧ r.id = name) ↔
      ∃ shape ∈ shapes, ∃ kind, identity? shape = some (name, kind) := by
  simp only [shapeRecords, List.mem_filterMap, Option.map_eq_some_iff, Prod.exists]
  constructor
  · rintro ⟨r, ⟨shape, hshape, id, kind, hidentity, rfl⟩, -, rfl⟩
    exact ⟨shape, hshape, kind, hidentity⟩
  · rintro ⟨shape, hshape, kind, hidentity⟩
    exact ⟨_, ⟨shape, hshape, name, kind, hidentity, rfl⟩, rfl, rfl⟩

lemma Boomi.mem_read {source : SourceText} {root : Element} {name : String} :
    (∃ r ∈ (read source root).1, r.mergeKey = none ∧ r.id = name) ↔
      ∃ shapes, root.localName = "Component" ∧
        (∀ kind, root.attr "type" = some kind → kind = "process") ∧
        root.descendant "shapes" = some shapes ∧
        ∃ shape ∈ shapes.findAll "shape", ∃ kind, identity? shape = some (name, kind) := by
  by_cases hname : root.localName = "Component"
  · cases htype : (root.attr "type").filter fun t => t != "process" with
    | some kind =>
      obtain ⟨hkind, hne⟩ := Option.filter_eq_some_iff.mp htype
      have hread : (read source root).1 = [] := by simp [read, hname, htype]
      simp only [hread, List.not_mem_nil, false_and, exists_false, false_iff, not_exists]
      exact fun shapes h => absurd (h.2.1 kind hkind) (by simpa using hne)
    | none =>
      have hprocess : ∀ kind, root.attr "type" = some kind → kind = "process" := by
        simpa [Option.filter_eq_none_iff] using htype
      cases hshapes : root.descendant "shapes" with
      | none => simp [read, hname, htype, hshapes]
      | some shapes =>
        have hread : (read source root).1 = shapeRecords source (shapes.findAll "shape") := by
          simp [read, hname, htype, hshapes]
        rw [hread, mem_shapeRecords]
        constructor
        · exact fun h => ⟨shapes, hname, hprocess, rfl, h⟩
        · rintro ⟨_, -, -, ⟨⟩, h⟩
          exact h
  · simp [read, hname]

/-- The ids of a process are the names of its shapes. -/
lemma mem_ownIds_iff_hasShapeNamed (hd : d.dialect = .boomi) :
    id ∈ ownIds options d ↔ HasShapeNamed options d id := by
  constructor
  · intro h
    obtain ⟨r, hr, hkey, rfl⟩ := mem_ownIds.mp h
    obtain ⟨text, root, hroot, hr⟩ := exists_tree_of_mem hr
    rw [hd, records_readTree_boomi] at hr
    obtain ⟨shapes, hshapes⟩ := Boomi.mem_read.mp ⟨r, hr, hkey, rfl⟩
    exact ⟨hd, root, shapes, hroot, hshapes⟩
  · rintro ⟨-, root, shapes, hroot, hshapes⟩
    obtain ⟨text, hrecords⟩ := records_of_tree hroot
    rw [mem_ownIds, hrecords, hd, records_readTree_boomi]
    exact Boomi.mem_read.mpr ⟨shapes, hshapes⟩

/-! ### Documents with an id in common -/

/-- What it takes for two documents to give the same id. -/
inductive Meets (options : ParseOptions) (d d' : SourceDocument) : Prop where
  /-- All services have a start. -/
  | services (h : HasService options d) (h' : HasService options d')
  /-- The ids of an application begin with the names of its flows. -/
  | applications (name : String) (h : HasFlowNamed options d name)
      (h' : HasFlowNamed options d' name)
  /-- The ids of a process are the names of its shapes, which may be anything. -/
  | process (name : String) (h : HasShapeNamed options d name) (h' : name ∈ ownIds options d')
  | process_right (name : String) (h : name ∈ ownIds options d)
      (h' : HasShapeNamed options d' name)

lemma meets_of_mem (hid : id ∈ ownIds options d) (hid' : id ∈ ownIds options d') :
    Meets options d d' := by
  cases hd : d.dialect with
  | boomi => exact .process id ((mem_ownIds_iff_hasShapeNamed hd).mp hid) hid'
  | mule =>
    obtain ⟨name, hflow, hin⟩ := HasFlowNamed.of_mem hd hid
    cases hd' : d'.dialect with
    | boomi => exact .process_right id hid ((mem_ownIds_iff_hasShapeNamed hd').mp hid')
    | mule =>
      obtain ⟨name', hflow', hin'⟩ := HasFlowNamed.of_mem hd' hid'
      exact .applications name hflow (hin.eq hin' ▸ hflow')
    | webMethods =>
      exact absurd hin.slash_mem (HasService.of_mem hd' hid').2
  | webMethods =>
    obtain ⟨hservice, hslash⟩ := HasService.of_mem hd hid
    cases hd' : d'.dialect with
    | boomi => exact .process_right id hid ((mem_ownIds_iff_hasShapeNamed hd').mp hid')
    | mule =>
      obtain ⟨name, -, hin⟩ := HasFlowNamed.of_mem hd' hid'
      exact absurd hin.slash_mem hslash
    | webMethods => exact .services hservice (HasService.of_mem hd' hid').1

/-- Where no element gives a merge key, documents that meet give the same id. -/
lemma Meets.exists_mem (h : Meets options d d') (hd : Unmarked options d)
    (hd' : Unmarked options d') : ∃ id, id ∈ ownIds options d ∧ id ∈ ownIds options d' := by
  cases h with
  | services h h' => exact ⟨"start", h.start_mem, h'.start_mem⟩
  | applications name h h' => exact ⟨name ++ "/0", h.first_mem hd, h'.first_mem hd'⟩
  | process name h h' => exact ⟨name, (mem_ownIds_iff_hasShapeNamed h.1).mpr h, h'⟩
  | process_right name h h' => exact ⟨name, h, (mem_ownIds_iff_hasShapeNamed h'.1).mpr h'⟩

end Document

end IntegrationFlow.Source

namespace IntegrationFlow.Converter

open Source (ownIds mem_ownIds Meets Unmarked)

/-- Records of documents that have no merge key share a node only if they come from one document and
have one id. `idOf` gives the node of each merge key. -/
def StaysApart (c : Converter) (b : FlowBundle) (idOf : String → String) : Prop :=
  ∀ d ∈ b.documents, ∀ d' ∈ b.documents, ∀ r ∈ (Source.parse d c.options).records,
    ∀ r' ∈ (Source.parse d' c.options).records, r.mergeKey = none → r'.mergeKey = none →
      idOf r.groupKey = idOf r'.groupKey → d = d' ∧ r.id = r'.id

section Bundle

variable {c : Converter} {b : FlowBundle} {acyclic : Option Bool} {g : FlowGraph}
  {idOf : String → String}

lemma mem_records {d : SourceDocument} (hd : d ∈ b.documents) {r : Record}
    (hr : r ∈ (Source.parse d c.options).records) : r ∈ c.records b := by
  rw [records, List.mem_append, List.mem_flatMap]
  exact .inr ⟨_, List.mem_map_of_mem hd, hr⟩

/-- Records without a merge key share a node exactly if they have one id. -/
lemma idOf_eq_iff (h : g.Describes (c.records b) idOf) {r r' : Record} (hr : r ∈ c.records b)
    (hr' : r' ∈ c.records b) (hkey : r.mergeKey = none) (hkey' : r'.mergeKey = none) :
    idOf r.groupKey = idOf r'.groupKey ↔ r.id = r'.id := by
  have hgroup : r.groupKey = r.id := by rw [Record.groupKey, hkey, Option.getD_none]
  have hgroup' : r'.groupKey = r'.id := by rw [Record.groupKey, hkey', Option.getD_none]
  constructor
  · intro heq
    rw [← hgroup, ← hgroup']
    exact h.idOf_injOn _ (groupKey_mem_mergeKeys hr) _ (groupKey_mem_mergeKeys hr') heq
  · intro heq
    rw [hgroup, hgroup', heq]

/-- Documents stay apart exactly if they have no id in common. -/
lemma staysApart_iff (h : g.Describes (c.records b) idOf)
    (hnames : (b.documents.map SourceDocument.name).Nodup) :
    c.StaysApart b idOf ↔
      b.documents.Pairwise fun d d' => (ownIds c.options d).Disjoint (ownIds c.options d') := by
  have hdocuments : b.documents.Nodup := hnames.of_map
  constructor
  · intro hapart
    refine hdocuments.imp_of_mem fun {d d'} hd hd' hne id hid hid' => ?_
    obtain ⟨r, hr, hkey, rfl⟩ := mem_ownIds.mp hid
    obtain ⟨r', hr', hkey', heq⟩ := mem_ownIds.mp hid'
    refine hne (hapart d hd d' hd' r hr r' hr' hkey hkey' ?_).1
    exact (idOf_eq_iff h (mem_records hd hr) (mem_records hd' hr') hkey hkey').mpr heq.symm
  · intro hdisjoint d hd d' hd' r hr r' hr' hkey hkey' hnode
    have hid := (idOf_eq_iff h (mem_records hd hr) (mem_records hd' hr') hkey hkey').mp hnode
    refine ⟨?_, hid⟩
    by_contra hne
    have hsymm : Std.Symm fun d d' => (ownIds c.options d).Disjoint (ownIds c.options d') :=
      ⟨fun _ _ h => h.symm⟩
    refine hdisjoint.forall hd hd' hne (mem_ownIds.mpr ⟨r, hr, hkey, rfl⟩) ?_
    exact mem_ownIds.mpr ⟨r', hr', hkey', hid.symm⟩

end Bundle

/-- Two applications whose flows have different names, and a service. -/
def separateDocuments : FlowBundle where
  documents :=
    [⟨"in.xml", .mule, bytesOf "<mule><flow name='in'><set/></flow></mule>"⟩,
     ⟨"out.xml", .mule, bytesOf "<mule><flow name='out'><set/></flow></mule>"⟩,
     ⟨"flow.xml", .webMethods, bytesOf "<FLOW><MAP/></FLOW>"⟩]

/-- Two services without steps. -/
def twoServices : FlowBundle where
  documents :=
    [⟨"a.xml", .webMethods, bytesOf "<FLOW/>"⟩, ⟨"b.xml", .webMethods, bytesOf "<FLOW/>"⟩]

end IntegrationFlow.Converter
