import Mathlib
import IntegrationFlow.Source.Document

/-!
# What is reported of source documents

Reading a document of a dialect that is supported raises warnings at the most, whatever the document
holds. A walk is followed step by step: records and links do not count, and all that is said about
an element is a warning.
-/

namespace IntegrationFlow.Source

open Xml (Element Content)

lemma isFatal_warning (source : SourceText) (e : Element) (message : String) :
    ∀ x ∈ [source.warning e message], x.isFatal = false := by
  intro x hx
  obtain rfl := List.mem_singleton.mp hx
  rfl

/-! ### Steps of a walk -/

namespace Walk

/-- Nothing fatal was reported so far. -/
def IsCalm (w : Walk) : Prop := ∀ x ∈ w.issues, x.isFatal = false

variable (w : Walk)

lemma isCalm_empty : ({} : Walk).IsCalm := by simp [IsCalm]

@[simp] lemma isCalm_emit (r : Record) : (w.emit r).IsCalm ↔ w.IsCalm := Iff.rfl

@[simp] lemma isCalm_link (source target : String) (kind : EdgeKind) (condition : Option String) :
    (w.link source target kind condition).IsCalm ↔ w.IsCalm := Iff.rfl

@[simp] lemma isCalm_connect (exits : List Exit) (target : String) :
    (w.connect exits target).IsCalm ↔ w.IsCalm := by
  induction exits generalizing w with
  | nil => rfl
  | cons e exits ih =>
    rw [connect, List.foldl_cons, ← connect, ih, isCalm_link]

@[simp] lemma isCalm_warn (source : SourceText) (e : Element) (message : String) :
    (w.warn (source.warning e message)).IsCalm ↔ w.IsCalm := by
  have hwarning : (source.warning e message).isFatal = false := rfl
  simp [IsCalm, warn, or_imp, forall_and, hwarning]

@[simp] lemma isCalm_join (a b : Fragment) : (w.join a b).2.IsCalm ↔ w.IsCalm := by
  unfold join
  split
  · rfl
  · rfl
  · exact isCalm_connect ..

@[simp] lemma isCalm_sequence (fragments : List Fragment) :
    (w.sequence fragments).2.IsCalm ↔ w.IsCalm := by
  have hfold : ∀ (fs : List Fragment) (a : Fragment) (w : Walk),
      (fs.foldl (fun x b => x.2.join x.1 b) (a, w)).2.IsCalm ↔ w.IsCalm := by
    intro fs
    induction fs with
    | nil => exact fun _ _ => Iff.rfl
    | cons f fs ih =>
      intro a w
      rw [List.foldl_cons]
      exact (ih _ _).trans (isCalm_join w a f)
  exact hfold ..

end Walk

/-! ### Mule -/

namespace Mule

@[simp] lemma isCalm_emit (s : Scope) (e : Element) (role : Role) (w : Walk) :
    (s.emit e role w).2.IsCalm ↔ w.IsCalm := Iff.rfl

@[simp] lemma isCalm_emitSynthetic (s : Scope) (id name sourceType : String) (role : Role)
    (w : Walk) : (s.emitSynthetic id name sourceType role w).IsCalm ↔ w.IsCalm := Iff.rfl

@[simp] lemma isCalm_emitAggregate (s : Scope) (e : Element) (w : Walk) :
    (s.emitAggregate e w).2.IsCalm ↔ w.IsCalm := Iff.rfl

@[simp] lemma isCalm_enter (id : String) (condition : Option String) (body : Fragment) (w : Walk) :
    (enter id condition body w).2.IsCalm ↔ w.IsCalm := by
  unfold enter
  split <;> rfl

mutual

lemma isCalm_fragments (s : Scope) : ∀ (cs : List (Content Element)) {w : Walk},
    w.IsCalm → (fragments s cs w).2.IsCalm
  | [], w, h => by simpa [fragments] using h
  | .text _ :: cs, w, h => by
    rw [fragments]
    exact isCalm_fragments s cs h
  | .element e :: cs, w, h => by
    rw [fragments]
    split
    · exact isCalm_fragments s cs (isCalm_processor s e h)
    · exact isCalm_fragments s cs h

lemma isCalm_processor (s : Scope) : ∀ (e : Element) {w : Walk},
    w.IsCalm → (processor s e w).2.IsCalm
  | ⟨name, attributes, children, span⟩, w, h => by
    simp only [processor]
    split
    · exact isCalm_branches s _ children ((isCalm_emit ..).mpr h)
    · simp only [Walk.isCalm_connect, isCalm_emitAggregate]
      exact isCalm_routes s _ children ((isCalm_emit ..).mpr h)
    · simp only [isCalm_enter, Walk.isCalm_sequence]
      exact isCalm_fragments s children ((isCalm_emit ..).mpr h)
    · have hbody : ((fragments s children w).2.sequence (fragments s children w).1).2.IsCalm :=
        (Walk.isCalm_sequence ..).mpr (isCalm_fragments s children h)
      split
      · exact hbody
      · exact isCalm_firstHandler s _ children hbody
    · split
      · exact h
      · exact h
    · exact h
    · exact h

lemma isCalm_branches (s : Scope) (id : String) : ∀ (cs : List (Content Element)) {w : Walk},
    w.IsCalm → (branches s id cs w).2.IsCalm
  | [], w, h => by simpa [branches] using h
  | .text _ :: cs, w, h => by
    rw [branches]
    exact isCalm_branches s id cs h
  | .element ⟨name, attributes, children, span⟩ :: cs, w, h => by
    simp only [branches]
    split
    · refine isCalm_branches s id cs ?_
      simp only [isCalm_enter, Walk.isCalm_sequence]
      exact isCalm_fragments s children h
    · exact isCalm_branches s id cs ((Walk.isCalm_warn ..).mpr h)

lemma isCalm_routes (s : Scope) (id : String) : ∀ (cs : List (Content Element)) {w : Walk},
    w.IsCalm → (routes s id cs w).2.IsCalm
  | [], w, h => by simpa [routes] using h
  | .text _ :: cs, w, h => by
    rw [routes]
    exact isCalm_routes s id cs h
  | .element ⟨name, attributes, children, span⟩ :: cs, w, h => by
    simp only [routes]
    split
    · refine isCalm_routes s id cs ?_
      simp only [isCalm_enter, Walk.isCalm_sequence]
      exact isCalm_fragments s children h
    · exact isCalm_routes s id cs h

lemma isCalm_firstHandler (s : Scope) (entry : String) :
    ∀ (cs : List (Content Element)) {w : Walk},
      w.IsCalm → (firstHandler s entry cs w).2.IsCalm
  | [], w, h => by simpa [firstHandler] using h
  | .text _ :: cs, w, h => by
    rw [firstHandler]
    exact isCalm_firstHandler s entry cs h
  | .element ⟨name, attributes, children, span⟩ :: cs, w, h => by
    simp only [firstHandler]
    split
    · exact isCalm_strategies s entry 0 children h
    · exact isCalm_firstHandler s entry cs h

lemma isCalm_strategies (s : Scope) (entry : String) (index : Nat) :
    ∀ (cs : List (Content Element)) {w : Walk},
      w.IsCalm → (strategies s entry index cs w).2.IsCalm
  | [], w, h => by simpa [strategies] using h
  | .text _ :: cs, w, h => by
    rw [strategies]
    exact isCalm_strategies s entry index cs h
  | .element ⟨name, attributes, children, span⟩ :: cs, w, h => by
    have hbody := isCalm_fragments s children h
    simp only [strategies]
    split
    · refine isCalm_strategies s entry (index + 1) cs ?_
      -- the error end of a strategy that propagates is one more record
      split <;> split <;> simpa using hbody
    · exact isCalm_strategies s entry (index + 1) cs ((Walk.isCalm_warn ..).mpr h)

end

lemma isCalm_chain (s : Scope) (flow : Element) {w : Walk} (h : w.IsCalm) :
    (chain s flow w).2.IsCalm := by
  unfold chain
  split
  · rw [Walk.isCalm_join, Walk.isCalm_sequence]
    exact isCalm_fragments s _ ((isCalm_emit ..).mpr h)
  · exact (Walk.isCalm_sequence ..).mpr (isCalm_fragments s _ h)

lemma isCalm_walkFlow (s : Scope) (flow : Element) {w : Walk} (h : w.IsCalm) :
    (walkFlow s flow w).IsCalm := by
  have hw : { w with next := 0 }.IsCalm := h
  have hchain := isCalm_chain s flow hw
  simp only [walkFlow]
  split
  · exact hchain
  · split
    · rw [Walk.isCalm_connect]
      refine isCalm_firstHandler s _ _ ?_
      rwa [Walk.isCalm_connect, isCalm_emitSynthetic]
    · exact isCalm_firstHandler s _ _ hchain

lemma isCalm_walkNamed (source : SourceText) (globals : OrderedMap String Settings) {w : Walk}
    (flow : Element) (h : w.IsCalm) : (walkNamed source globals w flow).IsCalm := by
  unfold walkNamed
  split
  · exact (Walk.isCalm_warn ..).mpr h
  · split
    · exact (Walk.isCalm_warn ..).mpr h
    · exact isCalm_walkFlow _ flow h

/-- An application gives rise to warnings at the most. -/
lemma isFatal_read (source : SourceText) (root : Element) :
    ∀ x ∈ (read source root).2, x.isFatal = false := by
  unfold read
  split
  · exact List.foldlRecOn _ _ Walk.isCalm_empty fun w hw flow _ =>
      isCalm_walkNamed source _ flow hw
  · exact isFatal_warning source root _

end Mule

/-! ### webMethods -/

namespace WebMethods

@[simp] lemma isCalm_emit (source : SourceText) (e : Element) (role : Role) (w : Walk) :
    (emit source e role w).2.IsCalm ↔ w.IsCalm := Iff.rfl

mutual

lemma isCalm_steps (source : SourceText) :
    ∀ (cs : List (Content Element)) (before : Fragment) (guarded : Option String) {w : Walk},
      w.IsCalm → (steps source before guarded cs w).2.IsCalm
  | [], before, guarded, w, h => by simpa [steps] using h
  | .text _ :: cs, before, guarded, w, h => by
    rw [steps]
    exact isCalm_steps source cs before guarded h
  | .element ⟨name, attributes, children, span⟩ :: cs, before, guarded, w, h => by
    simp only [steps]
    split
    · exact isCalm_steps source cs before guarded h
    · split
      · exact isCalm_steps source cs before guarded ((Walk.isCalm_warn ..).mpr h)
      · split
        · -- a handler, whose entry may get a link
          have hhandler := isCalm_steps source children {} none h
          refine isCalm_steps source cs _ _ ?_
          split <;> exact hhandler
        · refine isCalm_steps source cs _ _ ?_
          rw [Walk.isCalm_join]
          exact isCalm_step source ⟨name, attributes, children, span⟩ h

lemma isCalm_step (source : SourceText) : ∀ (e : Element) {w : Walk},
    w.IsCalm → (step source e w).2.IsCalm
  | ⟨name, attributes, children, span⟩, w, h => by
    simp only [step]
    split
    · exact isCalm_steps source children {} none h
    · exact isCalm_cases source _ children ((isCalm_emit ..).mpr h)
    · have hbody := fun e => isCalm_steps source children {} none
        ((isCalm_emit source e .step w).mpr h)
      split
      · exact (Walk.isCalm_link ..).mpr (hbody _)
      · exact hbody _
    · have hbody := fun e => isCalm_steps source children {} none
        ((isCalm_emit source e .step w).mpr h)
      split
      · rw [Walk.isCalm_connect, Walk.isCalm_link]
        exact hbody _
      · exact hbody _
    · split <;> exact h
    · exact h

lemma isCalm_cases (source : SourceText) (id : String) :
    ∀ (cs : List (Content Element)) {w : Walk},
      w.IsCalm → (cases source id cs w).2.IsCalm
  | [], w, h => by simpa [cases] using h
  | .text _ :: cs, w, h => by
    rw [cases]
    exact isCalm_cases source id cs h
  | .element e :: cs, w, h => by
    simp only [cases]
    split
    · have hbody := isCalm_step source e h
      refine isCalm_cases source id cs ?_
      split <;> exact hbody
    · exact isCalm_cases source id cs h

end

/-- A service gives rise to warnings at the most. -/
lemma isFatal_read (source : SourceText) (root : Element) :
    ∀ x ∈ (read source root).2, x.isFatal = false := by
  unfold read
  split
  · have hstart : (({} : Walk).emit (startRecord source root)).IsCalm := Walk.isCalm_empty
    have hbody := isCalm_steps source root.children {} none hstart
    have hwalk : ∀ w : Walk, w.IsCalm → ∀ x ∈ w.issues, x.isFatal = false := fun _ h => h
    refine hwalk _ ?_
    rw [Walk.isCalm_connect, Walk.isCalm_emit, Walk.isCalm_join]
    exact hbody
  · exact isFatal_warning source root _

end WebMethods

/-! ### Boomi -/

namespace Boomi

/-- A process gives rise to warnings at the most. -/
lemma isFatal_read (source : SourceText) (root : Element) :
    ∀ x ∈ (read source root).2, x.isFatal = false := by
  simp only [read]
  split
  · exact isFatal_warning source root _
  · split
    · exact isFatal_warning source root _
    · split
      · exact isFatal_warning source root _
      · intro x hx
        obtain ⟨shape, -, hx⟩ := List.mem_flatMap.mp hx
        split at hx
        · obtain ⟨d, -, rfl⟩ := List.mem_map.mp hx
          rfl
        · exact isFatal_warning _ _ _ x hx

end Boomi

/-! ### Documents -/

lemma isFatal_readTree (dialect : Dialect) (source : SourceText) (root : Element) :
    ∀ x ∈ (readTree dialect source root).diagnostics, x.isFatal = false := by
  simp only [readTree]
  cases dialect with
  | mule => exact Mule.isFatal_read source root
  | boomi => exact Boomi.isFatal_read source root
  | webMethods => exact WebMethods.isFatal_read source root

lemma isFatal_readText (d : SourceDocument) (text : String) :
    ∀ x ∈ (readText d text).diagnostics, x.isFatal = false := by
  have hsplit : (readText d text).diagnostics = (Xml.parse text d.name).2 ++
      (((Xml.parse text d.name).1.map (readTree d.dialect ⟨d.name, text⟩)).getD {}).diagnostics :=
    rfl
  intro x hx
  rw [hsplit, List.mem_append] at hx
  rcases hx with hx | hx
  · obtain ⟨issue, -, rfl⟩ := List.mem_map.mp hx
    rfl
  · generalize (Xml.parse text d.name).1 = root at hx
    cases root with
    | none => exact absurd hx List.not_mem_nil
    | some root => exact isFatal_readTree _ _ root x hx

/-- Reading a document never reports anything fatal. -/
theorem isFatal_parse (d : SourceDocument) (options : ParseOptions) :
    ∀ x ∈ (parse d options).diagnostics, x.isFatal = false := by
  have hrejected : ∀ message place, ∀ x ∈ (rejected d.name .warning message place).diagnostics,
      x.isFatal = false := by
    intro message place x hx
    obtain rfl := List.mem_singleton.mp hx
    rfl
  unfold parse
  split
  · exact isFatal_readText d _
  · rename_i refusal hrefusal
    cases refusal with
    | unsupported dialect =>
      -- every dialect has a reader
      unfold textOf at hrefusal
      rw [if_neg (by cases d.dialect <;> decide)] at hrefusal
      split at hrefusal
      · exact absurd hrefusal (by simp)
      · cases hdecode : Text.Utf8.decode d.bytes <;> simp [hdecode, Except.mapError] at hrefusal
    | tooLarge size limit => exact hrejected _ _
    | notText cause => exact hrejected _ _

end IntegrationFlow.Source
