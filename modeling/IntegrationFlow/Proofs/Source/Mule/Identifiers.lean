import Mathlib
import IntegrationFlow.Proofs.Source.Mule.Finds

/-!
# Ids within an application

Steps are numbered within their flow and its end is named after it, so their ids are distinct. Where
a strategy propagates an error, the end is named after the flow and the position of the strategy in
its handler. Two handlers of one flow that propagate at the same position thus share an id, and no
other records do.
-/

namespace IntegrationFlow.Source.Mule

open Xml (Element Content elementsIn)

/-! ### Ids -/

/-- An id of a flow: its name, a slash, and a text without one. -/
def InFlow (flow id : String) : Prop := ∃ t : String, '/' ∉ t.toList ∧ id = flow ++ "/" ++ t

/-- What follows the name of the flow is what follows the last slash. -/
lemma afterLast_slash {t : String} (ht : '/' ∉ t.toList) (flow : String) :
    Text.afterLast '/' (flow ++ "/" ++ t) = t := Text.afterLast_append ht

lemma InFlow.eq {flow flow' id : String} (h : InFlow flow id) (h' : InFlow flow' id) :
    flow = flow' := by
  obtain ⟨t, ht, rfl⟩ := h
  obtain ⟨t', ht', heq⟩ := h'
  have hlast : t = t' := by rw [← afterLast_slash ht flow, heq, afterLast_slash ht']
  rw [hlast] at heq
  exact String.append_left_inj _ |>.mp (String.append_left_inj _ |>.mp heq)

lemma InFlow.slash_mem {flow id : String} (h : InFlow flow id) : '/' ∈ id.toList := by
  obtain ⟨t, -, rfl⟩ := h
  simp [String.toList_append]

/-- The id of the end of a strategy that propagates, by its position. -/
def errorEndId (flow : String) (index : Nat) : String := flow ++ "/error-end-" ++ toString index

lemma errorEndId_eq (flow : String) (index : Nat) :
    errorEndId flow index = flow ++ "/" ++ ("error-end-" ++ toString index) := by
  have hslash : "/error-end-" = "/" ++ "error-end-" := rfl
  rw [errorEndId, hslash, ← String.append_assoc, String.append_assoc]

lemma errorEndId_injective (flow : String) : Function.Injective (errorEndId flow) := by
  intro i j h
  exact Nat.repr_inj.mp (String.append_right_inj _ |>.mp h)

/-- Whether an id is that of an error end. -/
def isErrorEnd (id : String) : Bool := Text.beginsWith "error-end-" (Text.afterLast '/' id)

lemma inFlow_stepId (flow : String) (n : Nat) : InFlow flow (stepId flow n) :=
  ⟨toString n, fun h => absurd (isDigit_of_mem_toString h) (by decide), rfl⟩

lemma end_eq (flow : String) : flow ++ "/end" = flow ++ "/" ++ "end" := by
  rw [String.append_assoc]
  rfl

lemma inFlow_end (flow : String) : InFlow flow (flow ++ "/end") := ⟨"end", by decide, end_eq flow⟩

lemma inFlow_errorEndId (flow : String) (index : Nat) : InFlow flow (errorEndId flow index) :=
  ⟨_, slash_notMem_errorEnd index, errorEndId_eq flow index⟩

lemma isErrorEnd_errorEndId (flow : String) (index : Nat) : isErrorEnd (errorEndId flow index) := by
  rw [isErrorEnd, errorEndId_eq, afterLast_slash (slash_notMem_errorEnd index), Text.beginsWith,
    String.toList_append, List.isPrefixOf_iff_prefix]
  exact List.prefix_append ..

lemma isErrorEnd_stepId (flow : String) (n : Nat) : isErrorEnd (stepId flow n) = false := by
  rw [isErrorEnd, afterLast_stepId, Bool.eq_false_iff]
  intro h
  have hstarts := List.isPrefixOf_iff_prefix.mp h
  exact absurd (isDigit_of_mem_toString (hstarts.subset (by decide : 'e' ∈ _))) (by decide)

lemma isErrorEnd_end (flow : String) : isErrorEnd (flow ++ "/end") = false := by
  rw [isErrorEnd, end_eq, afterLast_slash (by decide)]
  decide

/-! ### Error handlers -/

/-- The positions of the strategies that propagate errors, counted from `index`. -/
def propagates (index : Nat) (strategies : List Element) : List Nat :=
  ((strategies.zipIdx index).filter fun x => x.1.localName == "on-error-propagate").map (·.2)

lemma propagates_cons (index : Nat) (e : Element) (es : List Element) :
    propagates index (e :: es)
      = (if e.localName == "on-error-propagate" then [index] else []) ++
          propagates (index + 1) es := by
  by_cases h : e.localName = "on-error-propagate" <;> simp [propagates, List.zipIdx_cons, h]

lemma nodup_propagates (index : Nat) (es : List Element) : (propagates index es).Nodup := by
  have hsub : (propagates index es).Sublist ((es.zipIdx index).map (·.2)) :=
    List.filter_sublist.map _
  rw [List.zipIdx_map_snd] at hsub
  exact List.Nodup.sublist hsub (List.nodup_range' ..)

mutual

/-- The error handlers that are walked with the processors of a content. -/
def handlersIn : List (Content Element) → List Element
  | [] => []
  | .text _ :: cs => handlersIn cs
  | .element e :: cs => (if isProcessor e then handlersOf e else []) ++ handlersIn cs

/-- The error handlers that are walked with a processor. That of a try scope with nothing to run is
not. -/
def handlersOf : Element → List Element
  | ⟨name, _, children, _⟩ =>
    match Kind.ofName (Xml.localPart name) with
    | .choice => handlersInParts ["when", "otherwise"] children
    | .scatterGather => handlersInParts ["route"] children
    | .loop => handlersIn children
    | .tryScope => handlersIn children ++ if anyRuns children then ownHandler children else []
    | .flowRef | .raiseError | .plain => []

/-- The error handlers in the elements with one of the names given. -/
def handlersInParts (names : List String) : List (Content Element) → List Element
  | [] => []
  | .text _ :: cs => handlersInParts names cs
  | .element ⟨name, _, children, _⟩ :: cs =>
    (if Xml.localPart name ∈ names then handlersIn children else []) ++ handlersInParts names cs

/-- The first error handler of a content, and those in its strategies. -/
def ownHandler : List (Content Element) → List Element
  | [] => []
  | .text _ :: cs => ownHandler cs
  | .element ⟨name, attributes, children, span⟩ :: cs =>
    if Xml.localPart name == "error-handler" then
      ⟨name, attributes, children, span⟩ ::
        handlersInParts ["on-error-propagate", "on-error-continue"] children
    else ownHandler cs

end

/-- The error handlers that are walked with a flow. -/
def flowHandlers (flow : Element) : List Element :=
  handlersIn flow.children ++ if anyRuns flow.children then ownHandler flow.children else []

/-! ### Error ends -/

/-- The ids of the error ends found so far. -/
def errorEnds (w : Walk) : Multiset String := ((w.records.map Record.id).filter isErrorEnd : List _)

/-- The ids of the ends that strategies have. -/
def endsAt (flow : String) (positions : List Nat) : Multiset String :=
  (positions.map (errorEndId flow) : List _)

/-- The ids of the ends that error handlers have. -/
def endsOf (flow : String) (handlers : List Element) : Multiset String :=
  endsAt flow (handlers.flatMap fun h => propagates 0 h.elements)

lemma endsAt_append (flow : String) (is js : List Nat) :
    endsAt flow (is ++ js) = endsAt flow is + endsAt flow js := by
  simp [endsAt]

lemma endsOf_nil (flow : String) : endsOf flow [] = 0 := rfl

lemma endsOf_append (flow : String) (hs hs' : List Element) :
    endsOf flow (hs ++ hs') = endsOf flow hs + endsOf flow hs' := by
  rw [endsOf, List.flatMap_append, endsAt_append, endsOf, endsOf]

lemma endsOf_cons (flow : String) (h : Element) (hs : List Element) :
    endsOf flow (h :: hs) = endsAt flow (propagates 0 h.elements) + endsOf flow hs := by
  rw [endsOf, List.flatMap_cons, endsAt_append, endsOf]

section ErrorEnds

variable {w w' : Walk}

lemma errorEnds_of_adds {rs : List Record} {ls : Set (String × Link)} (h : w.Adds w' rs ls) :
    errorEnds w' = errorEnds w + ((rs.map Record.id).filter isErrorEnd : List _) := by
  simp [errorEnds, h.records_eq]

/-- A record other than an error end adds none. -/
lemma errorEnds_of_adds_singleton {r : Record} {ls : Set (String × Link)} (h : w.Adds w' [r] ls)
    (hr : isErrorEnd r.id = false) : errorEnds w' = errorEnds w := by
  simpa [hr] using errorEnds_of_adds h

lemma errorEnds_emit (s : Scope) (e : Element) (role : Role) (w : Walk) :
    errorEnds (s.emit e role w).2 = errorEnds w :=
  errorEnds_of_adds_singleton (adds_emit s e role w) (isErrorEnd_stepId s.flow w.next)

lemma errorEnds_emitAggregate (s : Scope) (e : Element) (w : Walk) :
    errorEnds (s.emitAggregate e w).2 = errorEnds w :=
  errorEnds_of_adds_singleton (w.adds_emit_advance _) (isErrorEnd_stepId s.flow w.next)

end ErrorEnds

/-- The position of an error end. -/
def Find.position? : Find → Option ℕ
  | .errorEnd index => some index
  | _ => none

/-- The ids of the error ends among finds. -/
def endsFound (flow : String) (fs : List Find) : Multiset String :=
  endsAt flow (fs.filterMap Find.position?)

section Finds

variable (flow : String)

@[simp] lemma endsFound_nil : endsFound flow [] = 0 := rfl

@[simp] lemma endsFound_append (fs gs : List Find) :
    endsFound flow (fs ++ gs) = endsFound flow fs + endsFound flow gs := by
  simp [endsFound, endsAt_append]

/-- A processor is no error end. -/
@[simp] lemma endsFound_record (e : Element) (role : Role) (fs : List Find) :
    endsFound flow (.record e role :: fs) = endsFound flow fs := rfl

@[simp] lemma endsFound_aggregate (e : Element) : endsFound flow [.aggregate e] = 0 := rfl

/-- What is found of parts apart from their chains, from a position on. -/
def Parts.besides (p : Parts) (index : ℕ) (es : List Element) : List Find :=
  (es.zipIdx index).flatMap fun x =>
    if x.1.localName ∈ p.names then p.ends x.2 x.1 else p.others x.1

lemma Parts.besides_cons (p : Parts) (index : ℕ) (e : Element) (es : List Element) :
    p.besides index (e :: es)
      = (if e.localName ∈ p.names then p.ends index e else p.others e) ++
          p.besides (index + 1) es := by
  simp [besides, List.zipIdx_cons]

/-- Parts without error ends of their own have none beside those of their chains. -/
lemma endsFound_besides {p : Parts} (hends : ∀ index e, endsFound flow (p.ends index e) = 0)
    (hothers : ∀ e, endsFound flow (p.others e) = 0) (index : ℕ) (es : List Element) :
    endsFound flow (p.besides index es) = 0 := by
  induction es generalizing index with
  | nil => rfl
  | cons e es ih =>
    rw [Parts.besides_cons, endsFound_append, ih]
    split
    · rw [hends, add_zero]
    · rw [hothers, add_zero]

/-- Strategies that propagate have ends of their own. -/
lemma endsFound_strategies (index : ℕ) (es : List Element) :
    endsFound flow (Parts.strategies.besides index es) = endsAt flow (propagates index es) := by
  induction es generalizing index with
  | nil => rfl
  | cons e es ih =>
    rw [Parts.besides_cons, endsFound_append, ih, propagates_cons, endsAt_append]
    congr 1
    by_cases h : e.localName = "on-error-propagate"
    · simp [Parts.strategies, h, endsFound, Find.position?]
    · have hends : Parts.strategies.ends index e = [] := if_neg (by simpa using h)
      have hnone : (e.localName == "on-error-propagate") = false := by simpa using h
      rw [hends, hnone]
      split <;> rfl

mutual

/-- The error ends that are found of a processor are those of its handlers. -/
lemma endsFound_finds : ∀ e : Element, endsFound flow (finds e) = endsOf flow (handlersOf e)
  | ⟨name, attributes, children, span⟩ => by
    rw [finds, handlersOf]
    cases Kind.ofName (Xml.localPart name) with
    | choice =>
      dsimp only
      rw [endsFound_record, endsFound_findsInParts,
        endsFound_besides flow (fun _ _ => rfl) fun _ => rfl, zero_add]
      rfl
    | scatterGather =>
      dsimp only
      rw [endsFound_append, endsFound_record, endsFound_findsInParts,
        endsFound_besides flow (fun _ _ => rfl) fun _ => rfl, zero_add, endsFound_aggregate,
        add_zero]
      rfl
    | loop => exact endsFound_findsIn children
    | tryScope =>
      rw [endsFound_append, endsOf_append, endsFound_findsIn children]
      split
      · rw [endsFound_findsInHandler children]
      · rfl
    | _ => rfl

lemma endsFound_findsIn : ∀ cs : List (Content Element),
    endsFound flow (findsIn cs) = endsOf flow (handlersIn cs)
  | [] => rfl
  | .text _ :: cs => by
    rw [findsIn, handlersIn]
    exact endsFound_findsIn cs
  | .element e :: cs => by
    rw [findsIn, handlersIn, endsFound_append, endsOf_append, endsFound_findsIn cs]
    split
    · rw [endsFound_finds e]
    · rfl

lemma endsFound_findsInParts (p : Parts) : ∀ (index : ℕ) (cs : List (Content Element)),
    endsFound flow (findsInParts p index cs)
      = endsFound flow (p.besides index (elementsIn cs)) + endsOf flow (handlersInParts p.names cs)
  | index, [] => rfl
  | index, .text _ :: cs => by
    rw [findsInParts, handlersInParts]
    exact endsFound_findsInParts p index cs
  | index, .element ⟨name, attributes, children, span⟩ :: cs => by
    rw [findsInParts, handlersInParts, Xml.elementsIn_element, Parts.besides_cons,
      Element.localName_mk, endsFound_append, endsFound_append, endsOf_append,
      endsFound_findsInParts p (index + 1) cs]
    split
    · rw [endsFound_append, endsFound_findsIn children]
      abel
    · rw [endsOf_nil]
      abel

lemma endsFound_findsInHandler : ∀ cs : List (Content Element),
    endsFound flow (findsInHandler cs) = endsOf flow (ownHandler cs)
  | [] => rfl
  | .text _ :: cs => by
    rw [findsInHandler, ownHandler]
    exact endsFound_findsInHandler cs
  | .element ⟨name, attributes, children, span⟩ :: cs => by
    rw [findsInHandler, ownHandler]
    split
    · rw [endsFound_findsInParts, endsFound_strategies, endsOf_cons]
      rfl
    · exact endsFound_findsInHandler cs

end

end Finds

/-- Every error end that is found has its id, and nothing else has. -/
lemma errorEnds_of_finds {s : Scope} {w w' : Walk} {fs : List Find} (h : Finds s w w' fs) :
    errorEnds w' = errorEnds w + endsFound s.flow fs := by
  refine h.induction (R := fun w w' fs => errorEnds w' = errorEnds w + endsFound s.flow fs)
    (fun hties => by simp [errorEnds, hties.records_eq]) (fun w f => ?_) fun h h' => ?_
  · cases f with
    | errorEnd index =>
      have hid : (syntheticRecord s (s.flow ++ "/error-end-" ++ toString index) "Error End"
          "on-error-propagate" .finish).id = errorEndId s.flow index := rfl
      rw [Find.addTo, errorEnds_of_adds (adds_emitSynthetic s ..), List.map_cons, hid,
        List.filter_cons_of_pos (isErrorEnd_errorEndId s.flow index)]
      rfl
    | record e role => exact (errorEnds_emit s e role w).trans (add_zero _).symm
    | aggregate e => exact (errorEnds_emitAggregate s e w).trans (add_zero _).symm
    | flowEnd =>
      have hend := errorEnds_of_adds_singleton
        (adds_emitSynthetic s (s.flow ++ "/end") "End" "end" .finish w) (isErrorEnd_end s.flow)
      exact hend.trans (add_zero _).symm
    | unexpected e => exact (add_zero _).symm
    | unsupported e => exact (add_zero _).symm
  · rw [h', h, endsFound_append, add_assoc]

/-- No handler belongs to the message source that a flow begins with. -/
lemma handlersIn_afterFirstProcessor {first : Element} {cs : List (Content Element)}
    (hfind : (elementsIn cs).find? isProcessor = some first) (hfirst : handlersOf first = []) :
    handlersIn (afterFirstProcessor cs) = handlersIn cs := by
  induction cs with
  | nil => rfl
  | cons c cs ih =>
    cases c with
    | text t =>
      rw [afterFirstProcessor, handlersIn, handlersIn]
      exact ih hfind
    | element e =>
      rw [Xml.elementsIn_element, List.find?_cons] at hfind
      rw [afterFirstProcessor, handlersIn]
      cases he : isProcessor e with
      | true =>
        obtain rfl : e = first := by simpa [he] using hfind
        simp [hfirst]
      | false =>
        rw [he] at hfind
        simp [handlersIn, he, ih hfind]

lemma endsFound_findsOfChain (flow : Element) (name : String) :
    endsFound name (findsOfChain flow) = endsOf name (handlersIn flow.children) := by
  unfold findsOfChain
  split
  · rename_i first hfirst
    obtain ⟨hfind, hsource⟩ := Option.filter_eq_some_iff.mp hfirst
    have hnone : handlersOf first = [] := by
      have hkind := kind_of_isMessageSource hsource
      obtain ⟨name, attributes, children, span⟩ := first
      rw [handlersOf, show Kind.ofName (Xml.localPart name) = .plain from hkind]
    rw [endsFound_record, endsFound_findsIn, handlersIn_afterFirstProcessor hfind hnone]
  · exact endsFound_findsIn name flow.children

/-- The error ends of a flow are those of its handlers. -/
lemma errorEnds_walkFlow (s : Scope) (flow : Element) (w : Walk) :
    errorEnds (walkFlow s flow w) = errorEnds w + endsOf s.flow (flowHandlers flow) := by
  have hends : endsFound s.flow (findsOfFlow flow) = endsOf s.flow (flowHandlers flow) := by
    rw [findsOfFlow, flowHandlers, endsFound_append, endsOf_append, endsFound_findsOfChain]
    split
    · rw [endsFound_append, endsFound_findsInHandler]
      split <;> simp [endsFound, Find.position?, endsAt]
    · rfl
  rw [errorEnds_of_finds (finds_walkFlow s flow w), hends]
  rfl

/-! ### Flows -/

/-- The ids of the records found so far. -/
def ids (w : Walk) : List String := w.records.map Record.id

section Walked

variable {s : Scope} {es : List Element} {rs : List Record} {ls : Set (String × Link)}
  {entry : Option String}

/-- The ids of a run other than those of error ends are numbers. -/
lemma filter_id_of_laid {form : Form} {i j : Nat} {f : Fragment}
    (h : Laid (manner s es) form i j rs ls f) :
    (rs.map Record.id).filter (!isErrorEnd ·) = (List.Ico i j).map (stepId s.flow) := by
  refine h.filter_id_eq (fun n => ?_) ?_
  · rw [Bool.not_eq_true']
    exact isErrorEnd_stepId s.flow n
  · rintro r ⟨-, index, hid⟩
    rw [hid, Bool.not_eq_false']
    exact isErrorEnd_errorEndId s.flow index

lemma nodup_map_stepId (flow : String) (i j : Nat) : ((List.Ico i j).map (stepId flow)).Nodup :=
  (List.Ico.nodup i j).map fun _ _ h => (stepId_inj h).2

/-- Apart from error ends the ids of a flow are distinct, and they belong to the flow. -/
lemma Walked.steps (h : Walked s es entry rs ls) :
    ((rs.map Record.id).filter (!isErrorEnd ·)).Nodup ∧
      ∀ id ∈ (rs.map Record.id).filter (!isErrorEnd ·), InFlow s.flow id := by
  have hinFlow : ∀ i j, ∀ id ∈ (List.Ico i j).map (stepId s.flow), InFlow s.flow id := by
    intro i j id hid
    obtain ⟨n, -, rfl⟩ := List.mem_map.mp hid
    exact inFlow_stepId s.flow n
  cases h with
  | empty => simp
  | plain h =>
    rw [filter_id_of_laid h]
    exact ⟨nodup_map_stepId .., hinFlow _ _⟩
  | @ended n rs rs' _ _ _ _ _ h =>
    -- the end stands between what its ids would be without it
    have hend : ((rs ++ (flowEnd s :: rs')).map Record.id).filter (!isErrorEnd ·) |>.Perm
        ((s.flow ++ "/end") :: (List.Ico 0 n).map (stepId s.flow)) := by
      rw [← filter_id_of_laid h, List.map_append, List.map_cons, List.map_append,
        List.filter_append, List.filter_append, List.filter_cons_of_pos]
      · exact List.perm_middle
      · rw [show (flowEnd s).id = s.flow ++ "/end" from rfl, isErrorEnd_end]
        rfl
    rw [hend.nodup_iff, List.nodup_cons]
    refine ⟨⟨fun hmem => ?_, nodup_map_stepId ..⟩, fun id hid => ?_⟩
    · obtain ⟨k, -, hk⟩ := List.mem_map.mp hmem
      exact end_ne_stepId s.flow s.flow k hk.symm
    · rcases List.mem_cons.mp (hend.mem_iff.mp hid) with rfl | hid
      · exact inFlow_end s.flow
      · exact hinFlow _ _ id hid

/-- The ids of what a flow adds belong to the flow, and among them the error ends are those of its
handlers. -/
lemma Walked.ids {w w' : Walk} (h : Walked s es entry rs ls) (hadds : w.Adds w' rs ls)
    {hs : List Element} (hends : errorEnds w' = errorEnds w + endsOf s.flow hs) :
    ∀ id ∈ rs.map Record.id, InFlow s.flow id ∧
      (isErrorEnd id → ∃ index, id = errorEndId s.flow index) := by
  intro id hid
  have herror : isErrorEnd id → ∃ index, id = errorEndId s.flow index := by
    intro herror
    rw [errorEnds_of_adds hadds, add_right_inj] at hends
    have hmem : id ∈ ((rs.map Record.id).filter isErrorEnd : Multiset String) :=
      List.mem_filter.mpr ⟨hid, herror⟩
    rw [hends] at hmem
    obtain ⟨index, -, rfl⟩ := List.mem_map.mp hmem
    exact ⟨index, rfl⟩
  refine ⟨?_, herror⟩
  by_cases hend : isErrorEnd id
  · obtain ⟨index, rfl⟩ := herror hend
    exact inFlow_errorEndId s.flow index
  · exact h.steps.2 id (List.mem_filter.mpr ⟨hid, by simpa using hend⟩)

end Walked

/-! ### Applications -/

/-- The flow that a name stands for: the first one with the name and something to run. -/
def flowNamed? (flows : List Element) (name : String) : Option Element :=
  flows.find? fun flow => flow.attrNonBlank "name" == some name && anyRuns flow.children

lemma flowNamed?_concat (flows : List Element) (flow : Element) (name : String) :
    flowNamed? (flows ++ [flow]) name
      = (flowNamed? flows name).or
          (if flow.attrNonBlank "name" = some name ∧ anyRuns flow.children then some flow
            else none) := by
  rw [flowNamed?, List.find?_append, flowNamed?, List.find?_singleton]
  simp

/-- Where a name is new, what holds of all flows and their names holds of the flows before and of the
one with that name. -/
lemma forall_flowNamed?_concat {flows : List Element} {flow : Element} {name : String}
    {P : String → Element → Prop} (hnone : flowNamed? flows name = none)
    (hflows : ∀ other, flowNamed? (flows ++ [flow]) other
      = if other = name then some flow else flowNamed? flows other) :
    (∀ other f, flowNamed? (flows ++ [flow]) other = some f → P other f) ↔
      (∀ other f, flowNamed? flows other = some f → P other f) ∧ P name flow := by
  constructor
  · intro hall
    refine ⟨fun other f hf => hall other f ?_, hall name flow (by simp [hflows])⟩
    rw [hflows, if_neg, hf]
    rintro rfl
    rw [hnone] at hf
    exact absurd hf.symm (Option.some_ne_none f)
  · rintro ⟨hold, hflow⟩ other f hf
    rw [hflows] at hf
    split at hf
    · rename_i heq
      rw [heq, ← Option.some.inj hf]
      exact hflow
    · exact hold other f hf

/-- What holds of the ids when the flows given have been walked. -/
structure Identified (flows : List Element) (w : Walk) : Prop where
  first : ∀ name, (flowNamed? flows name).isSome → name ++ "/0" ∈ ids w
  inFlow : ∀ id ∈ ids w, ∃ name, (flowNamed? flows name).isSome ∧ InFlow name id ∧
    (isErrorEnd id → ∃ index, id = errorEndId name index)
  steps : ((ids w).filter (!isErrorEnd ·)).Nodup
  ends : (errorEnds w).Nodup ↔
    ∀ name flow, flowNamed? flows name = some flow → (endsOf name (flowHandlers flow)).Nodup

namespace Identified

variable {flows : List Element} {flow : Element} {w w' : Walk}

/-- A flow that adds nothing and changes nothing about what names stand for. -/
lemma skip (h : Identified flows w) (hrecords : w'.records = w.records)
    (hflows : ∀ name, flowNamed? (flows ++ [flow]) name = flowNamed? flows name) :
    Identified (flows ++ [flow]) w' := by
  have hids : ids w' = ids w := by rw [ids, hrecords, ids]
  have hends : errorEnds w' = errorEnds w := by rw [errorEnds, hrecords, errorEnds]
  constructor
  · simpa only [hflows, hids] using h.first
  · simpa only [hflows, hids] using h.inFlow
  · simpa only [hids] using h.steps
  · simpa only [hflows, hends] using h.ends

/-- The first flow with a name and something to run. -/
lemma add {s : Scope} {es : List Element} {rs : List Record} {ls : Set (String × Link)} {x : String}
    (h : Identified flows w) (hadds : w.Adds w' rs ls) (hwalked : Walked s es (some x) rs ls)
    (hends : errorEnds w' = errorEnds w + endsOf s.flow (flowHandlers flow))
    (hnone : flowNamed? flows s.flow = none)
    (hflows : ∀ name, flowNamed? (flows ++ [flow]) name
      = if name = s.flow then some flow else flowNamed? flows name) :
    Identified (flows ++ [flow]) w' := by
  have hids : ids w' = ids w ++ rs.map Record.id := by
    rw [ids, hadds.records_eq, List.map_append, ids]
  have hblock := hwalked.ids hadds hends
  have hdisjoint : ∀ id ∈ ids w, id ∉ rs.map Record.id := by
    intro id hid hid'
    obtain ⟨name, hsome, hin, -⟩ := h.inFlow id hid
    rw [hin.eq (hblock id hid').1, hnone] at hsome
    exact Bool.false_ne_true hsome
  constructor
  · intro name hname
    rw [hids, List.mem_append]
    rw [hflows] at hname
    split at hname
    · rename_i heq
      rw [heq, ← hwalked.first.1]
      exact .inr hwalked.first.2
    · exact .inl (h.first name hname)
  · intro id hid
    rw [hids, List.mem_append] at hid
    rcases hid with hid | hid
    · obtain ⟨name, hsome, hin⟩ := h.inFlow id hid
      refine ⟨name, ?_, hin⟩
      rw [hflows]
      split
      · rfl
      · exact hsome
    · exact ⟨s.flow, by simp [hflows], hblock id hid⟩
  · rw [hids, List.filter_append]
    refine h.steps.append hwalked.steps.1 fun id hid hid' => ?_
    exact hdisjoint id (List.mem_of_mem_filter hid) (List.mem_of_mem_filter hid')
  · have hnew : Disjoint (errorEnds w) (endsOf s.flow (flowHandlers flow)) := by
      rw [errorEnds_of_adds hadds, add_right_inj] at hends
      rw [← hends, Multiset.disjoint_left]
      intro id hid hid'
      exact hdisjoint id (List.mem_of_mem_filter hid) (List.mem_of_mem_filter hid')
    rw [hends, Multiset.nodup_add, h.ends, forall_flowNamed?_concat hnone hflows]
    exact and_congr_right fun _ => and_iff_left hnew

/-- One more flow. -/
lemma walkNamed (h : Identified flows w) (source : SourceText)
    (globals : OrderedMap String Settings) (flow : Element) :
    Identified (flows ++ [flow]) (walkNamed source globals w flow) := by
  unfold Mule.walkNamed
  split
  · rename_i hname
    exact h.skip rfl fun name => by simp [flowNamed?_concat, hname]
  · rename_i name hname
    have hzero : w.records.any (fun r => r.id == name ++ "/0") ↔ name ++ "/0" ∈ ids w := by
      simp [ids]
    split
    · -- the name is taken, so it stands for an earlier flow
      rename_i htaken
      obtain ⟨name', hsome, hin, -⟩ := h.inFlow _ (hzero.mp htaken)
      obtain rfl : name' = name := hin.eq (stepId_zero name ▸ inFlow_stepId name 0)
      obtain ⟨earlier, hearlier⟩ := Option.isSome_iff_exists.mp hsome
      refine h.skip rfl fun other => ?_
      rw [flowNamed?_concat, hname]
      by_cases hother : name' = other
      · rw [← hother, hearlier]
        rfl
      · simp [hother]
    · rename_i hfree
      have hnone : flowNamed? flows name = none :=
        Option.not_isSome_iff_eq_none.mp fun hsome => hfree (hzero.mpr (h.first name hsome))
      obtain ⟨rs, ls, hadds, hwalked⟩ := exists_walkFlow (s := ⟨source, globals, name⟩)
        (List.Subset.refl flow.descendants) w
      have hends := errorEnds_walkFlow ⟨source, globals, name⟩ flow w
      have hruns := isSome_entry_chain ⟨source, globals, name⟩ flow { w with next := 0 }
      generalize (chain _ flow { w with next := 0 }).1.entry = entry at hwalked hruns
      cases entry with
      | none =>
        cases hwalked
        refine h.skip (hadds.records_eq.trans (List.append_nil _)) fun other => ?_
        simp [flowNamed?_concat, ← hruns]
      | some x =>
        refine h.add hadds hwalked hends hnone fun other => ?_
        rw [flowNamed?_concat, hname, ← hruns]
        by_cases hother : other = name
        · simp [hother, hnone]
        · simp [hother, Ne.symm hother]

/-- All flows, one after another. -/
lemma foldl (source : SourceText) (globals : OrderedMap String Settings) (flows : List Element) :
    Identified flows (flows.foldl (Mule.walkNamed source globals) {}) := by
  induction flows using List.reverseRecOn with
  | nil => constructor <;> simp [flowNamed?, ids, errorEnds]
  | append_singleton flows flow ih =>
    rw [List.foldl_append]
    exact ih.walkNamed source globals flow

end Identified

lemma identified_walkAll (source : SourceText) (root : Element) :
    Identified (root.elements.filter isFlow) (walkAll source root) := .foldl ..

/-- The ends of handlers are distinct if no two handlers propagate at the same position. -/
lemma nodup_endsOf_iff {flow : String} {hs : List Element} :
    (endsOf flow hs).Nodup ↔
      hs.Pairwise fun h h' => List.Disjoint (propagates 0 h.elements) (propagates 0 h'.elements) := by
  rw [endsOf, endsAt, Multiset.coe_nodup, List.nodup_map_iff (errorEndId_injective flow),
    List.nodup_flatMap]
  exact and_iff_right fun h _ => nodup_propagates 0 h.elements

/-- Ids are distinct if those of error ends are and those of all others are. -/
lemma nodup_iff_filter {α : Type} {p : α → Bool} {l : List α} :
    l.Nodup ↔ (l.filter (!p ·)).Nodup ∧ (l.filter p).Nodup := by
  constructor
  · exact fun h => ⟨h.filter _, h.filter _⟩
  · rintro ⟨hnot, hp⟩
    have hdisjoint : List.Disjoint (l.filter p) (l.filter (!p ·)) := by
      intro x hx hx'
      simp [(List.mem_filter.mp hx).2] at hx'
    exact (List.filter_append_perm p l).nodup_iff.mp (hp.append hnot hdisjoint)

/-- Records of an application that share an id are error ends. Ids are distinct exactly when no two
error handlers that are walked with one flow have strategies that propagate at the same position. -/
theorem read_ids_distinct_iff (source : SourceText) (root : Element)
    (hroot : root.localName = "mule") :
    ((read source root).1.Pairwise fun r r' => r.id = r'.id →
      ∃ flow index, r.id = errorEndId flow index) ∧
    (((read source root).1.map Record.id).Nodup ↔
      ∀ name flow, flowNamed? (root.elements.filter isFlow) name = some flow →
        (flowHandlers flow).Pairwise fun h h' =>
          List.Disjoint (propagates 0 h.elements) (propagates 0 h'.elements)) := by
  have h := identified_walkAll source root
  rw [read_eq_finish hroot]
  constructor
  · have hsteps := h.steps
    rw [List.Nodup, List.pairwise_filter] at hsteps
    have hids : (walkAll source root).finish.map Record.id = ids (walkAll source root) :=
      Walk.map_id_finish _
    rw [← hids, List.pairwise_map] at hsteps
    refine hsteps.imp_of_mem fun {r r'} hr _ hdistinct heq => ?_
    by_cases hend : isErrorEnd r.id
    · obtain ⟨name, -, -, hindex⟩ := h.inFlow r.id (hids ▸ List.mem_map_of_mem hr)
      exact ⟨name, hindex hend⟩
    · have hnot : (!isErrorEnd r.id) = true := by simpa using hend
      exact absurd heq (hdistinct hnot (heq ▸ hnot))
  · rw [Walk.map_id_finish, nodup_iff_filter (p := isErrorEnd)]
    have hends := h.ends
    rw [errorEnds, Multiset.coe_nodup] at hends
    simp only [nodup_endsOf_iff] at hends
    rw [← hends]
    exact and_iff_right h.steps

/-- An application with one flow. Its try scope has a handler, whose strategy propagates, and so has
the flow itself, with strategies of the names given. -/
def handledTwice (strategies : List String) : Element :=
  { name := "mule"
    children :=
      [.element
        { name := "flow", attributes := [("name", "main")]
          children :=
            [.element
              { name := "try"
                children :=
                  [.element { name := "logger" },
                   .element
                    { name := "error-handler"
                      children := [.element { name := "on-error-propagate" }] }] },
             .element
              { name := "error-handler"
                children := strategies.map fun name => .element { name } }] }] }

/-- The two handlers propagate at different positions. -/
theorem handledTwice_ids_distinct :
    (read ⟨"app.xml", ""⟩ (handledTwice ["on-error-continue", "on-error-propagate"])).1.map Record.id
        = ["main/0", "main/error-end-0", "main/error-end-1"] ∧
      ((read ⟨"app.xml", ""⟩ (handledTwice ["on-error-continue", "on-error-propagate"])).1.map
        Record.id).Nodup := by
  have hroot : (handledTwice ["on-error-continue", "on-error-propagate"]).localName = "mule" := by
    decide +kernel
  have hflows : ∀ flow ∈
      (handledTwice ["on-error-continue", "on-error-propagate"]).elements.filter isFlow,
      (flowHandlers flow).map (fun h => propagates 0 h.elements) = [[0], [1]] := by
    decide +kernel
  refine ⟨by decide +kernel, (read_ids_distinct_iff _ _ hroot).2.mpr fun name flow hflow => ?_⟩
  have hpositions := hflows flow (List.mem_of_find?_eq_some hflow)
  rw [← List.pairwise_map (f := fun h : Element => propagates 0 h.elements) (R := List.Disjoint),
    hpositions]
  simp

/-- Both handlers propagate at their first position, and their ends share an id. -/
theorem handledTwice_ids_clash :
    (handledTwice ["on-error-propagate"]).localName = "mule" ∧
      ¬ ((read ⟨"app.xml", ""⟩ (handledTwice ["on-error-propagate"])).1.map Record.id).Nodup := by
  decide +kernel

end IntegrationFlow.Source.Mule
