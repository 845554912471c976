import Mathlib
import IntegrationFlow.Proofs.Source.Mule.Coverage

/-!
# How records are numbered

The records of a flow are numbered in document order, with those of an error handler after what it
protects. How many numbers a processor takes follows from its kind and from what its scopes hold,
and so does the number that each chain of the flow begins with.
-/

namespace IntegrationFlow.Source

open Xml (Element Content elementsIn)

/-! ### Walks that go on -/

namespace Walk

/-- `w'` keeps what has been found in `w`, in its order. -/
structure Keeps (w w' : Walk) : Prop where
  prefix_records : w.records <+: w'.records
  prefix_links : w.links <+: w'.links

/-- `w'` goes on from `w` with `k` more numbers. -/
structure GoesOn (w w' : Walk) (k : ℕ) : Prop extends w.Keeps w' where
  next_eq : w'.next = w.next + k

variable {w w' w'' : Walk} {k k' : ℕ}

lemma Keeps.refl (w : Walk) : w.Keeps w := ⟨List.prefix_rfl, List.prefix_rfl⟩

lemma Keeps.trans (h : w.Keeps w') (h' : w'.Keeps w'') : w.Keeps w'' :=
  ⟨h.prefix_records.trans h'.prefix_records, h.prefix_links.trans h'.prefix_links⟩

lemma GoesOn.refl (w : Walk) : w.GoesOn w 0 := ⟨.refl w, rfl⟩

lemma GoesOn.trans (h : w.GoesOn w' k) (h' : w'.GoesOn w'' k') : w.GoesOn w'' (k + k') where
  toKeeps := h.toKeeps.trans h'.toKeeps
  next_eq := by rw [h'.next_eq, h.next_eq, Nat.add_assoc]

/-- What gives no number may follow. -/
lemma GoesOn.extend (h : w.GoesOn w' k) (h' : w'.GoesOn w'' 0) : w.GoesOn w'' k := h.trans h'

lemma Ties.goesOn (h : w.Ties w') : w.GoesOn w' 0 where
  prefix_records := by rw [h.records_eq]
  prefix_links := h.prefix_links
  next_eq := h.next_eq

lemma goesOn_emit (w : Walk) (r : Record) : w.GoesOn (w.emit r) 0 :=
  ⟨⟨List.prefix_append .., List.prefix_rfl⟩, rfl⟩

lemma goesOn_emit_advance (w : Walk) (r : Record) : w.GoesOn (w.emit r).advance 1 :=
  ⟨⟨List.prefix_append .., List.prefix_rfl⟩, rfl⟩

lemma goesOn_warn (w : Walk) (d : Diagnostic) : w.GoesOn (w.warn d) 0 :=
  ⟨⟨List.prefix_rfl, List.prefix_rfl⟩, rfl⟩

/-- The links that tie loose ends to a record, in order. -/
lemma links_connect (w : Walk) (exits : List Exit) (target : String) :
    (w.connect exits target).links
      = w.links ++ exits.map fun x => (x.source, ⟨target, .sequence, x.condition⟩) := by
  induction exits generalizing w with
  | nil => simp [connect]
  | cons x exits ih =>
    rw [connect, List.foldl_cons, ← connect, ih, List.map_cons, link, List.append_assoc]
    rfl

end Walk

namespace Mule

/-! ### Numbers of records -/

mutual

/-- How many numbers the records of a processor take. -/
def count : Element → ℕ
  | ⟨name, _, children, _⟩ =>
    match Kind.ofName (Xml.localPart name) with
    | .choice => 1 + countInParts ["when", "otherwise"] children
    | .scatterGather => 1 + countInParts ["route"] children + 1
    | .loop => 1 + countIn children
    | .tryScope => countIn children + if anyRuns children then countInHandler children else 0
    | .flowRef | .raiseError | .plain => 1

/-- How many numbers the records of the processors of a content take. -/
def countIn : List (Content Element) → ℕ
  | [] => 0
  | .text _ :: cs => countIn cs
  | .element e :: cs => (if isProcessor e then count e else 0) + countIn cs

/-- How many numbers the records in the elements with one of the names given take. -/
def countInParts (names : List String) : List (Content Element) → ℕ
  | [] => 0
  | .text _ :: cs => countInParts names cs
  | .element ⟨name, _, children, _⟩ :: cs =>
    (if Xml.localPart name ∈ names then countIn children else 0) + countInParts names cs

/-- How many numbers the records of the first error handler of a content take. -/
def countInHandler : List (Content Element) → ℕ
  | [] => 0
  | .text _ :: cs => countInHandler cs
  | .element ⟨name, _, children, _⟩ :: cs =>
    if Xml.localPart name == "error-handler" then
      countInParts ["on-error-propagate", "on-error-continue"] children
    else countInHandler cs

end

/-- Whether a find takes a number. -/
def Find.isNumbered : Find → Bool
  | .record .. | .aggregate _ => true
  | _ => false

/-- How many numbers finds take. -/
def numbers (fs : List Find) : ℕ := fs.countP Find.isNumbered

@[simp] lemma numbers_append (fs gs : List Find) : numbers (fs ++ gs) = numbers fs + numbers gs :=
  List.countP_append

@[simp] lemma numbers_record (e : Element) (role : Role) (fs : List Find) :
    numbers (.record e role :: fs) = 1 + numbers fs := by
  rw [numbers, List.countP_cons_of_pos rfl, Nat.add_comm, numbers]

lemma numbers_ends_strategies (index : ℕ) (e : Element) :
    numbers (Parts.strategies.ends index e) = 0 := by
  dsimp only [Parts.strategies]
  split <;> rfl

mutual

lemma numbers_finds : ∀ e : Element, numbers (finds e) = count e
  | ⟨name, attributes, children, span⟩ => by
    rw [finds, count]
    cases Kind.ofName (Xml.localPart name) with
    | choice =>
      rw [numbers_record, numbers_findsInParts (fun _ _ => rfl) (fun _ => rfl) 0 children]
      rfl
    | scatterGather =>
      rw [numbers_append, numbers_record,
        numbers_findsInParts (fun _ _ => rfl) (fun _ => rfl) 0 children]
      rfl
    | loop => rw [numbers_record, numbers_findsIn children]
    | tryScope =>
      rw [numbers_append, numbers_findsIn children]
      split
      · rw [numbers_findsInHandler children]
      · rfl
    | _ => rfl

lemma numbers_findsIn : ∀ cs : List (Content Element), numbers (findsIn cs) = countIn cs
  | [] => rfl
  | .text _ :: cs => by
    rw [findsIn, countIn]
    exact numbers_findsIn cs
  | .element e :: cs => by
    rw [findsIn, countIn, numbers_append, numbers_findsIn cs]
    split
    · rw [numbers_finds e]
    · rfl

/-- Beside their chains, parts take no numbers. -/
lemma numbers_findsInParts {p : Parts} (hends : ∀ index e, numbers (p.ends index e) = 0)
    (hothers : ∀ e, numbers (p.others e) = 0) : ∀ (index : ℕ) (cs : List (Content Element)),
    numbers (findsInParts p index cs) = countInParts p.names cs
  | index, [] => rfl
  | index, .text _ :: cs => by
    rw [findsInParts, countInParts]
    exact numbers_findsInParts hends hothers index cs
  | index, .element ⟨name, attributes, children, span⟩ :: cs => by
    rw [findsInParts, countInParts, numbers_append,
      numbers_findsInParts hends hothers (index + 1) cs]
    split
    · rw [numbers_append, numbers_findsIn children, hends, Nat.add_zero]
    · rw [hothers]

lemma numbers_findsInHandler : ∀ cs : List (Content Element),
    numbers (findsInHandler cs) = countInHandler cs
  | [] => rfl
  | .text _ :: cs => by
    rw [findsInHandler, countInHandler]
    exact numbers_findsInHandler cs
  | .element ⟨name, attributes, children, span⟩ :: cs => by
    rw [findsInHandler, countInHandler]
    split
    · exact numbers_findsInParts numbers_ends_strategies (fun _ => rfl) 0 children
    · exact numbers_findsInHandler cs

end

/-- A walk goes on with the numbers of what is found. -/
lemma Finds.goesOn {s : Scope} {w w' : Walk} {fs : List Find} (h : Finds s w w' fs) :
    w.GoesOn w' (numbers fs) := by
  refine h.induction (R := fun w w' fs => w.GoesOn w' (numbers fs)) (fun hties => hties.goesOn)
    (fun w f => ?_) fun h h' => ?_
  · cases f with
    | record e role => exact w.goesOn_emit_advance _
    | aggregate e => exact w.goesOn_emit_advance _
    | flowEnd => exact w.goesOn_emit _
    | errorEnd index => exact w.goesOn_emit _
    | unexpected e => exact w.goesOn_warn _
    | unsupported e => exact w.goesOn_warn _
  · rw [numbers_append]
    exact h.trans h'

section Walkers

variable (s : Scope)

lemma goesOn_emit (e : Element) (role : Role) (w : Walk) : w.GoesOn (s.emit e role w).2 1 :=
  w.goesOn_emit_advance _

/-- The error end of a strategy that propagates has no number. -/
lemma goesOn_conclude (propagates : Bool) (index : ℕ) (body : Fragment) (w : Walk) :
    w.GoesOn (if propagates then
        (s.emitSynthetic (s.flow ++ "/error-end-" ++ toString index) "Error End"
          "on-error-propagate" .finish w).sequence
          [body, .terminal (s.flow ++ "/error-end-" ++ toString index)]
      else (body, w)).2 0 := by
  have hgoes := (finds_conclude s propagates index body w).goesOn
  cases propagates <;> exact hgoes

lemma goesOn_fragments (cs : List (Content Element)) (w : Walk) :
    w.GoesOn (fragments s cs w).2 (countIn cs) :=
  numbers_findsIn cs ▸ (finds_fragments s cs w).goesOn

lemma goesOn_processor (e : Element) (w : Walk) : w.GoesOn (processor s e w).2 (count e) :=
  numbers_finds e ▸ (finds_processor s e w).goesOn

lemma goesOn_branches (id : String) (cs : List (Content Element)) (w : Walk) :
    w.GoesOn (branches s id cs w).2 (countInParts ["when", "otherwise"] cs) :=
  numbers_findsInParts (p := .branches) (fun _ _ => rfl) (fun _ => rfl) 0 cs ▸
    (finds_branches s id cs 0 w).goesOn

lemma goesOn_routes (id : String) (cs : List (Content Element)) (w : Walk) :
    w.GoesOn (routes s id cs w).2 (countInParts ["route"] cs) :=
  numbers_findsInParts (p := .routes) (fun _ _ => rfl) (fun _ => rfl) 0 cs ▸
    (finds_routes s id cs 0 w).goesOn

lemma goesOn_firstHandler (entry : String) (cs : List (Content Element)) (w : Walk) :
    w.GoesOn (firstHandler s entry cs w).2 (countInHandler cs) :=
  numbers_findsInHandler cs ▸ (finds_firstHandler s entry cs w).goesOn

lemma goesOn_strategies (entry : String) (index : ℕ) (cs : List (Content Element)) (w : Walk) :
    w.GoesOn (strategies s entry index cs w).2
      (countInParts ["on-error-propagate", "on-error-continue"] cs) :=
  numbers_findsInParts (p := .strategies) numbers_ends_strategies (fun _ => rfl) index cs ▸
    (finds_strategies s entry index cs w).goesOn

end Walkers

/-! ### Chains of a flow -/

/-- The processors of a content. -/
def processorsIn (cs : List (Content Element)) : List Element :=
  (elementsIn cs).filter isProcessor

/-- The elements of a content with one of the names given. -/
def partsIn (names : List String) (cs : List (Content Element)) : List Element :=
  (elementsIn cs).filter fun e => e.localName ∈ names

/-- The strategies of the first error handler of a content. -/
def strategiesIn (cs : List (Content Element)) : List Element :=
  match (elementsIn cs).find? fun e => e.localName == "error-handler" with
  | some handler => partsIn ["on-error-propagate", "on-error-continue"] handler.children
  | none => []

/-- How many numbers the records of processors in a row take. -/
def total (es : List Element) : ℕ := (es.map count).sum

/-- The contents of elements that are walked one after another, each with the number that it begins
with. -/
def numberBodies : ℕ → List Element → List (ℕ × List (Content Element))
  | _, [] => []
  | n, e :: es => (n, e.children) :: numberBodies (n + countIn e.children) es

/-- The chains right in a processor whose records are numbered from `n` on. -/
def chainsIn (n : ℕ) (e : Element) : List (ℕ × List (Content Element)) :=
  match Kind.ofName e.localName with
  | .choice => numberBodies (n + 1) (partsIn ["when", "otherwise"] e.children)
  | .scatterGather => numberBodies (n + 1) (partsIn ["route"] e.children)
  | .loop => [(n + 1, e.children)]
  | .tryScope =>
    (n, e.children) ::
      if anyRuns e.children then
        numberBodies (n + countIn e.children) (strategiesIn e.children)
      else []
  | .flowRef | .raiseError | .plain => []

/-- A content is a chain of a flow, with records that are numbered from `n` on. -/
inductive HasChain (flow : Element) : ℕ → List (Content Element) → Prop
  | main : HasChain flow 0 flow.children
  | handler {n cs} (hruns : anyRuns flow.children)
    (h : (n, cs) ∈ numberBodies (countIn flow.children) (strategiesIn flow.children)) :
    HasChain flow n cs
  | inner {n m cs body before e after} (hchain : HasChain flow n cs)
    (hsplit : processorsIn cs = before ++ e :: after)
    (h : (m, body) ∈ chainsIn (n + total before) e) : HasChain flow m body

lemma total_append (es es' : List Element) : total (es ++ es') = total es + total es' := by
  simp [total]

lemma total_cons (e : Element) (es : List Element) : total (e :: es) = count e + total es := rfl

lemma processorsIn_element (e : Element) (cs : List (Content Element)) :
    processorsIn (.element e :: cs)
      = if isProcessor e then e :: processorsIn cs else processorsIn cs := List.filter_cons

lemma partsIn_element (names : List String) (e : Element) (cs : List (Content Element)) :
    partsIn names (.element e :: cs)
      = if e.localName ∈ names then e :: partsIn names cs else partsIn names cs := by
  simp [partsIn, List.filter_cons]

/-! ### Processors in a row -/

section Row

variable (s : Scope)

/-- The runs of processors, in order. -/
def walkEach : List Element → Walk → List Fragment × Walk
  | [], w => ([], w)
  | e :: es, w =>
    let (f, w) := processor s e w
    let (fs, w) := walkEach es w
    (f :: fs, w)

lemma fragments_eq (cs : List (Content Element)) (w : Walk) :
    fragments s cs w = walkEach s (processorsIn cs) w := by
  induction cs generalizing w with
  | nil => rw [fragments, processorsIn, Xml.elementsIn_nil, List.filter_nil, walkEach]
  | cons c cs ih =>
    cases c with
    | text t =>
      rw [fragments, ih]
      rfl
    | element e =>
      rw [fragments, processorsIn_element]
      split
      · simp only [walkEach, ih]
      · exact ih w

lemma walkEach_append (es es' : List Element) (w : Walk) :
    walkEach s (es ++ es') w
      = ((walkEach s es w).1 ++ (walkEach s es' (walkEach s es w).2).1,
          (walkEach s es' (walkEach s es w).2).2) := by
  induction es generalizing w with
  | nil => rfl
  | cons e es ih => simp [walkEach, ih]

lemma goesOn_walkEach (es : List Element) (w : Walk) :
    w.GoesOn (walkEach s es w).2 (total es) := by
  induction es generalizing w with
  | nil => exact .refl w
  | cons e es ih => exact (goesOn_processor s e w).trans (ih _)

end Row

/-! ### First steps -/

mutual

/-- The element of the first record of a processor, if it has something to run. That of a try scope
is the first in it. -/
def firstStep? : Element → Option Element
  | ⟨name, attributes, children, span⟩ =>
    if Kind.ofName (Xml.localPart name) = .tryScope then firstStepIn? children
    else some ⟨name, attributes, children, span⟩

/-- The element of the first record of a content. -/
def firstStepIn? : List (Content Element) → Option Element
  | [] => none
  | .text _ :: cs => firstStepIn? cs
  | .element e :: cs => ((if isProcessor e then firstStep? e else none)).or (firstStepIn? cs)

end

mutual

lemma isSome_firstStep? : ∀ e : Element, (firstStep? e).isSome = runs e
  | ⟨name, attributes, children, span⟩ => by
    rw [firstStep?, runs]
    split
    · rename_i hkind
      rw [hkind, isSome_firstStepIn? children]
      rfl
    · rename_i hkind
      simp [hkind]

lemma isSome_firstStepIn? : ∀ cs : List (Content Element), (firstStepIn? cs).isSome = anyRuns cs
  | [] => by simp [firstStepIn?, anyRuns]
  | .text _ :: cs => by
    rw [firstStepIn?, anyRuns]
    exact isSome_firstStepIn? cs
  | .element e :: cs => by
    rw [firstStepIn?, anyRuns, Option.isSome_or, isSome_firstStepIn? cs]
    cases isProcessor e with
    | true => simp [isSome_firstStep? e]
    | false => simp

end

/-- Finds begin with the record of an element, or there are none. -/
def BeginsWith : Option Element → List Find → Prop
  | none, fs => fs = []
  | some x, fs => ∃ role rest, fs = .record x role :: rest

lemma BeginsWith.append {x y : Option Element} {fs gs : List Find} (h : BeginsWith x fs)
    (h' : BeginsWith y gs) : BeginsWith (x.or y) (fs ++ gs) := by
  cases x with
  | none =>
    rw [h]
    exact h'
  | some x =>
    obtain ⟨role, rest, rfl⟩ := h
    exact ⟨role, rest ++ gs, rfl⟩

mutual

/-- The first record of a processor is that of its first step. -/
lemma beginsWith_finds : ∀ e : Element, BeginsWith (firstStep? e) (finds e)
  | ⟨name, attributes, children, span⟩ => by
    rw [firstStep?, finds]
    cases Kind.ofName (Xml.localPart name) with
    | tryScope =>
      have hbody := beginsWith_findsIn children
      rw [if_pos rfl]
      cases hruns : anyRuns children with
      | false => simpa using hbody
      | true =>
        obtain ⟨x, hx⟩ := Option.isSome_iff_exists.mp ((isSome_firstStepIn? children).trans hruns)
        rw [hx] at hbody ⊢
        obtain ⟨role, rest, hfinds⟩ := hbody
        exact ⟨role, _, by rw [hfinds]; rfl⟩
    | _ => exact ⟨_, _, rfl⟩

lemma beginsWith_findsIn : ∀ cs : List (Content Element), BeginsWith (firstStepIn? cs) (findsIn cs)
  | [] => rfl
  | .text _ :: cs => by
    rw [firstStepIn?, findsIn]
    exact beginsWith_findsIn cs
  | .element e :: cs => by
    rw [firstStepIn?, findsIn]
    refine .append ?_ (beginsWith_findsIn cs)
    split
    · exact beginsWith_finds e
    · rfl

end

/-- A processor with nothing to run takes no numbers. -/
lemma count_eq_zero {e : Element} (h : runs e = false) : count e = 0 := by
  have hnone : firstStep? e = none := by
    rw [← Option.not_isSome_iff_eq_none, isSome_firstStep?, h]
    exact Bool.false_ne_true
  have hfinds := beginsWith_finds e
  rw [hnone] at hfinds
  rw [← numbers_finds, hfinds]
  rfl

lemma total_eq_zero {es : List Element} (h : ∀ e ∈ es, runs e = false) : total es = 0 :=
  List.sum_eq_zero (by simpa using fun e he => count_eq_zero (h e he))

lemma mem_records_emit (s : Scope) (e : Element) (role : Role) (w : Walk) :
    s.record e role w.next ∈ (s.emit e role w).2.records :=
  List.mem_append_right _ (List.mem_singleton_self _)

/-- The first record of a processor takes the number that is next. -/
lemma exists_record_processor (s : Scope) (e : Element) (w : Walk) {x : Element}
    (hx : firstStep? e = some x) :
    ∃ role, s.record x role w.next ∈ (processor s e w).2.records := by
  have hbegins := beginsWith_finds e
  rw [hx] at hbegins
  obtain ⟨role, rest, hfinds⟩ := hbegins
  have h := finds_processor s e w
  rw [hfinds] at h
  have hrest : Finds s (s.emit x role w).2 (processor s e w).2 rest := ⟨h.ties⟩
  exact ⟨role, hrest.goesOn.prefix_records.subset (mem_records_emit s x role w)⟩

/-! ### Numbers of a flow -/

lemma countIn_eq_total (cs : List (Content Element)) : countIn cs = total (processorsIn cs) := by
  induction cs with
  | nil => rw [countIn, processorsIn, Xml.elementsIn_nil, List.filter_nil, total, List.map_nil,
      List.sum_nil]
  | cons c cs ih =>
    cases c with
    | text t =>
      rw [countIn, ih]
      rfl
    | element e =>
      rw [countIn, processorsIn_element, ih]
      split
      · rw [total_cons]
      · rw [Nat.zero_add]

/-- A plain processor takes one number. -/
lemma count_of_plain {e : Element} (h : Kind.ofName e.localName = .plain) : count e = 1 := by
  obtain ⟨name, attributes, children, span⟩ := e
  rw [count, show Kind.ofName (Xml.localPart name) = .plain from h]

/-- The message source that a flow begins with is the first of its processors. -/
lemma processorsIn_afterFirstProcessor {first : Element} {cs : List (Content Element)}
    (h : (elementsIn cs).find? isProcessor = some first) :
    processorsIn cs = first :: processorsIn (afterFirstProcessor cs) := by
  induction cs with
  | nil => simp at h
  | cons c cs ih =>
    cases c with
    | text t => exact ih h
    | element e =>
      rw [Xml.elementsIn_element, List.find?_cons] at h
      rw [afterFirstProcessor, processorsIn_element]
      cases he : isProcessor e with
      | true =>
        obtain rfl : e = first := by simpa [he] using h
        simp
      | false =>
        rw [he] at h
        simp [processorsIn_element, he, ih h]

section Flow

variable (s : Scope) (flow : Element)

lemma numbers_findsOfChain : numbers (findsOfChain flow) = countIn flow.children := by
  unfold findsOfChain
  split
  · rename_i first hfirst
    obtain ⟨hfind, hsource⟩ := Option.filter_eq_some_iff.mp hfirst
    rw [countIn_eq_total, processorsIn_afterFirstProcessor hfind, total_cons,
      count_of_plain (kind_of_isMessageSource hsource), ← countIn_eq_total, numbers_record,
      numbers_findsIn]
  · exact numbers_findsIn flow.children

lemma goesOn_chain (w : Walk) : w.GoesOn (chain s flow w).2 (countIn flow.children) :=
  numbers_findsOfChain flow ▸ (finds_chain s flow w).goesOn

lemma keeps_walkFlow (w : Walk) : w.Keeps (walkFlow s flow w) := by
  have hstart : w.Keeps { w with next := 0 } := ⟨List.prefix_rfl, List.prefix_rfl⟩
  exact hstart.trans (finds_walkFlow s flow w).goesOn.toKeeps

end Flow

lemma keeps_walkNamed (source : SourceText) (globals : OrderedMap String Settings) (w : Walk)
    (flow : Element) : w.Keeps (walkNamed source globals w flow) := by
  unfold walkNamed
  split
  · exact (w.goesOn_warn _).toKeeps
  · split
    · exact (w.goesOn_warn _).toKeeps
    · exact keeps_walkFlow ..

lemma keeps_foldl (source : SourceText) (globals : OrderedMap String Settings)
    (flows : List Element) (w : Walk) :
    w.Keeps (flows.foldl (walkNamed source globals) w) := by
  induction flows generalizing w with
  | nil => exact .refl w
  | cons flow flows ih => exact (keeps_walkNamed source globals w flow).trans (ih _)

end Mule

end IntegrationFlow.Source
