import Mathlib
import IntegrationFlow.Proofs.Source.Mule.Application

/-!
# What the walkers find

The walkers of a flow emit records and warnings and tie the records together. What they emit can be
read off the tree, in the order in which it is emitted: this is the one thing to know about each of
them. How records are numbered, which error ends there are and what becomes of the processors
follows from the lists that are found.
-/

namespace IntegrationFlow.Source

open Xml (Element Content elementsIn)

/-! ### Ties -/

namespace Walk

/-- `w'` differs from `w` by nothing but further links. -/
structure Ties (w w' : Walk) : Prop where
  next_eq : w'.next = w.next
  records_eq : w'.records = w.records
  issues_eq : w'.issues = w.issues
  prefix_links : w.links <+: w'.links

variable {w w' w'' : Walk}

lemma Ties.refl (w : Walk) : w.Ties w := ⟨rfl, rfl, rfl, List.prefix_rfl⟩

lemma Ties.trans (h : w.Ties w') (h' : w'.Ties w'') : w.Ties w'' where
  next_eq := h'.next_eq.trans h.next_eq
  records_eq := h'.records_eq.trans h.records_eq
  issues_eq := h'.issues_eq.trans h.issues_eq
  prefix_links := h.prefix_links.trans h'.prefix_links

lemma ties_link (w : Walk) (source target : String) (kind : EdgeKind)
    (condition : Option String) : w.Ties (w.link source target kind condition) :=
  ⟨rfl, rfl, rfl, List.prefix_append ..⟩

lemma ties_connect (w : Walk) (exits : List Exit) (target : String) :
    w.Ties (w.connect exits target) := by
  induction exits generalizing w with
  | nil => exact .refl w
  | cons x exits ih => exact (w.ties_link ..).trans (ih _)

lemma ties_join (w : Walk) (a b : Fragment) : w.Ties (w.join a b).2 := by
  unfold join
  split
  · exact .refl w
  · exact .refl w
  · exact w.ties_connect ..

/-- Runs that are tied to one before them. -/
def chainOn (start : Fragment × Walk) (fs : List Fragment) : Fragment × Walk :=
  fs.foldl (fun x b => x.2.join x.1 b) start

lemma ties_chainOn (fs : List Fragment) (a : Fragment) (w : Walk) :
    w.Ties (chainOn (a, w) fs).2 := by
  induction fs generalizing a w with
  | nil => exact .refl w
  | cons f fs ih => exact (w.ties_join a f).trans (ih ..)

lemma ties_sequence (w : Walk) (fs : List Fragment) : w.Ties (w.sequence fs).2 :=
  ties_chainOn fs {} w

end Walk

namespace Mule

lemma ties_enter (id : String) (condition : Option String) (body : Fragment) (w : Walk) :
    w.Ties (enter id condition body w).2 := by
  unfold enter
  split
  · exact w.ties_link ..
  · exact .refl w

/-! ### Finds -/

/-- What a walker emits. -/
inductive Find where
  /-- The record of a processor. -/
  | record (e : Element) (role : Role)
  /-- The record where the routes of a scatter-gather come together. -/
  | aggregate (e : Element)
  /-- The end of a flow that begins with a message source. -/
  | flowEnd
  /-- The end of a strategy that propagates an error, by its position. -/
  | errorEnd (index : ℕ)
  /-- The warning about an element that is not expected in a choice. -/
  | unexpected (e : Element)
  /-- The warning about a strategy that is not known. -/
  | unsupported (e : Element)

/-- A walk with one find more. -/
def Find.addTo (s : Scope) (w : Walk) : Find → Walk
  | .record e role => (s.emit e role w).2
  | .aggregate e => (s.emitAggregate e w).2
  | .flowEnd => s.emitSynthetic (s.flow ++ "/end") "End" "end" .finish w
  | .errorEnd index =>
    s.emitSynthetic (s.flow ++ "/error-end-" ++ toString index) "Error End" "on-error-propagate"
      .finish w
  | .unexpected e =>
    w.warn (s.source.warning e ("Unexpected <" ++ e.name ++ "> inside <choice>"))
  | .unsupported e =>
    w.warn (s.source.warning e ("Unsupported error strategy <" ++ e.name ++ ">"))

/-- What is found next does not depend on links. -/
lemma ties_addTo {w w' : Walk} (h : w.Ties w') (s : Scope) (f : Find) :
    (f.addTo s w).Ties (f.addTo s w') := by
  obtain ⟨next, records, links, issues⟩ := w
  obtain ⟨next', records', links', issues'⟩ := w'
  obtain ⟨rfl, rfl, rfl, hlinks⟩ := h
  cases f <;> exact ⟨rfl, rfl, rfl, hlinks⟩

/-- `w'` goes on from `w` with these finds, and with further links. -/
structure Finds (s : Scope) (w w' : Walk) (fs : List Find) : Prop where
  ties : (fs.foldl (Find.addTo s) w).Ties w'

section Finds

variable {s : Scope} {w w' w'' : Walk} {fs fs' : List Find}

lemma ties_foldl_addTo (h : w.Ties w') (fs : List Find) :
    (fs.foldl (Find.addTo s) w).Ties (fs.foldl (Find.addTo s) w') := by
  induction fs generalizing w w' with
  | nil => exact h
  | cons f fs ih => exact ih (ties_addTo h s f)

lemma Finds.nil (h : w.Ties w') : Finds s w w' [] := ⟨h⟩

lemma Finds.append (h : Finds s w w' fs) (h' : Finds s w' w'' fs') :
    Finds s w w'' (fs ++ fs') where
  ties := by
    rw [List.foldl_append]
    exact (ties_foldl_addTo h.ties fs').trans h'.ties

/-- Runs that are tied together afterwards are found as they were. -/
lemma Finds.extend (h : Finds s w w' fs) (h' : w'.Ties w'') : Finds s w w'' fs :=
  ⟨h.ties.trans h'⟩

lemma finds_addTo (s : Scope) (w : Walk) (f : Find) : Finds s w (f.addTo s w) [f] := ⟨.refl _⟩

/-- What holds of ties and of each single find, and is passed on from walk to walk, holds of all that
is found. -/
lemma Finds.induction {R : Walk → Walk → List Find → Prop}
    (ties : ∀ {w w'}, w.Ties w' → R w w' [])
    (find : ∀ w f, R w (f.addTo s w) [f])
    (append : ∀ {w w' w'' fs fs'}, R w w' fs → R w' w'' fs' → R w w'' (fs ++ fs'))
    (h : Finds s w w' fs) : R w w' fs := by
  induction fs generalizing w with
  | nil => exact ties h.ties
  | cons f fs ih => exact append (find w f) (ih ⟨h.ties⟩)

end Finds

/-! ### Finds of a flow -/

/-- Elements in a row, of which those with certain names hold chains. -/
structure Parts where
  names : List String
  /-- What is found behind the chain of an element at a position. -/
  ends : ℕ → Element → List Find
  /-- What is found of an element that holds none. -/
  others : Element → List Find

/-- The branches of a choice. -/
def Parts.branches : Parts := ⟨["when", "otherwise"], fun _ _ => [], fun e => [.unexpected e]⟩

/-- The routes of a scatter-gather. -/
def Parts.routes : Parts := ⟨["route"], fun _ _ => [], fun _ => []⟩

/-- The strategies of an error handler. -/
def Parts.strategies : Parts where
  names := ["on-error-propagate", "on-error-continue"]
  ends index e := if e.localName == "on-error-propagate" then [.errorEnd index] else []
  others e := [.unsupported e]

mutual

/-- What is found of a processor. -/
def finds : Element → List Find
  | ⟨name, attributes, children, span⟩ =>
    let e : Element := ⟨name, attributes, children, span⟩
    match Kind.ofName (Xml.localPart name) with
    | .choice => .record e .step :: findsInParts .branches 0 children
    | .scatterGather => .record e .step :: findsInParts .routes 0 children ++ [.aggregate e]
    | .loop => .record e .step :: findsIn children
    | .tryScope => findsIn children ++ if anyRuns children then findsInHandler children else []
    | .raiseError => [.record e .finish]
    | .flowRef | .plain => [.record e .step]

/-- What is found of the processors of a content. -/
def findsIn : List (Content Element) → List Find
  | [] => []
  | .text _ :: cs => findsIn cs
  | .element e :: cs => (if isProcessor e then finds e else []) ++ findsIn cs

/-- What is found of parts, from a position on. -/
def findsInParts (p : Parts) (index : ℕ) : List (Content Element) → List Find
  | [] => []
  | .text _ :: cs => findsInParts p index cs
  | .element ⟨name, attributes, children, span⟩ :: cs =>
    (if Xml.localPart name ∈ p.names then
        findsIn children ++ p.ends index ⟨name, attributes, children, span⟩
      else p.others ⟨name, attributes, children, span⟩) ++ findsInParts p (index + 1) cs

/-- What is found of the first error handler of a content. -/
def findsInHandler : List (Content Element) → List Find
  | [] => []
  | .text _ :: cs => findsInHandler cs
  | .element ⟨name, _, children, _⟩ :: cs =>
    if Xml.localPart name == "error-handler" then findsInParts .strategies 0 children
    else findsInHandler cs

end

/-- What is found of the chain of a flow. -/
def findsOfChain (flow : Element) : List Find :=
  match messageSource? flow with
  | some first => .record first .start :: findsIn (afterFirstProcessor flow.children)
  | none => findsIn flow.children

/-- What is found of a flow. Its end comes before what its error handler finds. -/
def findsOfFlow (flow : Element) : List Find :=
  findsOfChain flow ++
    if anyRuns flow.children then
      (if (messageSource? flow).isSome then [.flowEnd] else []) ++ findsInHandler flow.children
    else []

/-! ### Walkers -/

section Walkers

variable (s : Scope)

/-- What a strategy leaves behind its chain. -/
lemma finds_conclude (propagates : Bool) (index : ℕ) (body : Fragment) (w : Walk) :
    Finds s w (if propagates then
        (s.emitSynthetic (s.flow ++ "/error-end-" ++ toString index) "Error End"
          "on-error-propagate" .finish w).sequence
          [body, .terminal (s.flow ++ "/error-end-" ++ toString index)]
      else (body, w)).2 (if propagates then [.errorEnd index] else []) := by
  cases propagates with
  | false => exact .nil (.refl w)
  | true => exact (finds_addTo s w (.errorEnd index)).extend (Walk.ties_sequence ..)

mutual

lemma finds_fragments : ∀ (cs : List (Content Element)) (w : Walk),
    Finds s w (fragments s cs w).2 (findsIn cs)
  | [], w => by
    rw [fragments, findsIn]
    exact .nil (.refl w)
  | .text _ :: cs, w => by
    rw [fragments, findsIn]
    exact finds_fragments cs w
  | .element e :: cs, w => by
    rw [fragments, findsIn]
    split
    · exact (finds_processor e w).append (finds_fragments cs _)
    · exact finds_fragments cs w

lemma finds_processor : ∀ (e : Element) (w : Walk), Finds s w (processor s e w).2 (finds e)
  | ⟨name, attributes, children, span⟩, w => by
    have hrecord := fun role => finds_addTo s w (.record ⟨name, attributes, children, span⟩ role)
    simp only [processor, finds, Element.localName_mk]
    cases hkind : Kind.ofName (Xml.localPart name) with
    | choice => exact (hrecord .step).append (finds_branches _ children 0 _)
    | scatterGather =>
      refine .extend ?_ (Walk.ties_connect ..)
      exact ((hrecord .step).append (finds_routes _ children 0 _)).append
        (finds_addTo s _ (.aggregate ⟨name, attributes, children, span⟩))
    | loop =>
      refine .extend ?_ (ties_enter ..)
      exact ((hrecord .step).append (finds_fragments children _)).extend (Walk.ties_sequence ..)
    | tryScope =>
      have hbody := (finds_fragments children w).extend
        (Walk.ties_sequence _ (fragments s children w).1)
      have hruns := (Walk.isSome_entry_sequence (fragments s children w).2 _).trans
        (any_isSome_entry_fragments s children w)
      dsimp only
      split
      · rename_i hnone
        rw [← hruns, hnone]
        exact hbody.append (.nil (.refl _))
      · rename_i entry hentry
        rw [← hruns, hentry]
        exact hbody.append (finds_firstHandler entry children _)
    | flowRef =>
      dsimp only
      split
      · exact (hrecord .step).extend (Walk.ties_link ..)
      · exact hrecord .step
    | raiseError => exact hrecord .finish
    | plain => exact hrecord .step

lemma finds_branches (id : String) : ∀ (cs : List (Content Element)) (index : ℕ) (w : Walk),
    Finds s w (branches s id cs w).2 (findsInParts .branches index cs)
  | [], index, w => by
    rw [branches, findsInParts]
    exact .nil (.refl w)
  | .text _ :: cs, index, w => by
    rw [branches, findsInParts]
    exact finds_branches id cs index w
  | .element ⟨name, attributes, children, span⟩ :: cs, index, w => by
    have hnames : (Xml.localPart name == "when" || Xml.localPart name == "otherwise") = true ↔
        Xml.localPart name ∈ Parts.branches.names := by simp [Parts.branches]
    simp only [branches, findsInParts, Element.localName_mk, hnames]
    split
    · refine .append ?_ (finds_branches id cs (index + 1) _)
      refine .extend ?_ (ties_enter ..)
      exact ((finds_fragments children w).extend (Walk.ties_sequence ..)).append (.nil (.refl _))
    · have hother := finds_addTo s w (.unexpected ⟨name, attributes, children, span⟩)
      exact hother.append (finds_branches id cs (index + 1) _)

lemma finds_routes (id : String) : ∀ (cs : List (Content Element)) (index : ℕ) (w : Walk),
    Finds s w (routes s id cs w).2 (findsInParts .routes index cs)
  | [], index, w => by
    rw [routes, findsInParts]
    exact .nil (.refl w)
  | .text _ :: cs, index, w => by
    rw [routes, findsInParts]
    exact finds_routes id cs index w
  | .element ⟨name, attributes, children, span⟩ :: cs, index, w => by
    have hnames : (Xml.localPart name == "route") = true ↔
        Xml.localPart name ∈ Parts.routes.names := by simp [Parts.routes]
    simp only [routes, findsInParts, hnames]
    split
    · refine .append ?_ (finds_routes id cs (index + 1) _)
      refine .extend ?_ (ties_enter ..)
      exact ((finds_fragments children w).extend (Walk.ties_sequence ..)).append (.nil (.refl _))
    · exact finds_routes id cs (index + 1) w

lemma finds_firstHandler (entry : String) : ∀ (cs : List (Content Element)) (w : Walk),
    Finds s w (firstHandler s entry cs w).2 (findsInHandler cs)
  | [], w => by
    rw [firstHandler, findsInHandler]
    exact .nil (.refl w)
  | .text _ :: cs, w => by
    rw [firstHandler, findsInHandler]
    exact finds_firstHandler entry cs w
  | .element ⟨name, attributes, children, span⟩ :: cs, w => by
    simp only [firstHandler, findsInHandler]
    split
    · exact finds_strategies entry 0 children w
    · exact finds_firstHandler entry cs w

lemma finds_strategies (entry : String) (index : ℕ) : ∀ (cs : List (Content Element)) (w : Walk),
    Finds s w (strategies s entry index cs w).2 (findsInParts .strategies index cs)
  | [], w => by
    rw [strategies, findsInParts]
    exact .nil (.refl w)
  | .text _ :: cs, w => by
    rw [strategies, findsInParts]
    exact finds_strategies entry index cs w
  | .element ⟨name, attributes, children, span⟩ :: cs, w => by
    have hnames : (Xml.localPart name == "on-error-propagate" ||
        Xml.localPart name == "on-error-continue") = true ↔
          Xml.localPart name ∈ Parts.strategies.names := by simp [Parts.strategies]
    have hbody := (finds_fragments children w).extend
      (Walk.ties_sequence _ (fragments s children w).1)
    have hend := hbody.append (finds_conclude s (Xml.localPart name == "on-error-propagate") index
      ((fragments s children w).2.sequence (fragments s children w).1).1 _)
    have hends : Parts.strategies.ends index ⟨name, attributes, children, span⟩
        = if Xml.localPart name == "on-error-propagate" then [.errorEnd index] else [] := by
      simp only [Parts.strategies, Element.localName_mk]
    simp only [strategies, findsInParts, Element.localName_mk, hnames, hends]
    split
    · refine .append ?_ (finds_strategies entry (index + 1) cs _)
      split
      · exact hend.extend (Walk.ties_link ..)
      · exact hend
    · have hother := finds_addTo s w (.unsupported ⟨name, attributes, children, span⟩)
      exact hother.append (finds_strategies entry (index + 1) cs _)

end

lemma finds_chain (flow : Element) (w : Walk) :
    Finds s w (chain s flow w).2 (findsOfChain flow) := by
  unfold chain findsOfChain
  cases messageSource? flow with
  | none => exact (finds_fragments s flow.children w).extend (Walk.ties_sequence ..)
  | some first =>
    have hbody := (finds_addTo s w (.record first .start)).append
      (finds_fragments s (afterFirstProcessor flow.children) _)
    exact (hbody.extend (Walk.ties_sequence ..)).extend (Walk.ties_join ..)

/-- What is found of a flow, which is numbered from zero. -/
theorem finds_walkFlow (flow : Element) (w : Walk) :
    Finds s { w with next := 0 } (walkFlow s flow w) (findsOfFlow flow) := by
  have hchain := finds_chain s flow { w with next := 0 }
  unfold findsOfFlow walkFlow
  rw [← isSome_entry_chain s flow { w with next := 0 }]
  dsimp only
  split
  · rename_i hnone
    rw [hnone]
    exact hchain.append (.nil (.refl _))
  · rename_i entry hentry
    rw [hentry]
    refine hchain.append ?_
    split
    · have hend := (finds_addTo s (chain s flow { w with next := 0 }).2 .flowEnd).extend
        (Walk.ties_connect _ (chain s flow { w with next := 0 }).1.exits (s.flow ++ "/end"))
      exact (hend.append (finds_firstHandler s entry flow.children _)).extend
        (Walk.ties_connect ..)
    · exact finds_firstHandler s entry flow.children _

end Walkers

end Mule

end IntegrationFlow.Source
