import Mathlib
import IntegrationFlow.Proofs.Source.Mule.Coverage

/-!
# Reading without the lost processors

The processors that are lost can be taken out of an application before it is read, and nothing of
what is read changes. Of those that remain, each has a record of its own or is reported.
-/

namespace IntegrationFlow.Source.Mule

open Xml (Element Content elementsIn)

mutual

/-- A content without the processors that are lost. A scope that is entered stays. -/
def withoutLostIn (scopes : List String) : List (Content Element) → List (Content Element)
  | [] => []
  | .text t :: cs => .text t :: withoutLostIn scopes cs
  | .element e :: cs =>
    if isProcessor e then
      if fate scopes = .lost ∧ ¬ isEntered (e.localName :: scopes) then withoutLostIn scopes cs
      else .element (withoutLostAt scopes e) :: withoutLostIn scopes cs
    else .element e :: withoutLostIn scopes cs

/-- A processor without those in it that are lost. -/
def withoutLostAt (scopes : List String) : Element → Element
  | ⟨name, attributes, children, span⟩ =>
    ⟨name, attributes,
      if Xml.localPart name ∈ containers then withoutLostIn (Xml.localPart name :: scopes) children
      else children,
      span⟩

end

/-- A flow without the processors that are lost. -/
def flowWithoutLost (flow : Element) : Element :=
  { flow with children := withoutLostIn [] flow.children }

/-- An application without the processors that are lost. -/
def withoutLost (root : Element) : Element :=
  { root with
    children := root.children.map fun
      | .element e => .element (if isFlow e then flowWithoutLost e else e)
      | .text t => .text t }

/-! ### What is left -/

section Left

variable {scopes : List String}

/-- Only the routes of a scatter-gather are entered where other processors are lost. -/
lemma mem_wrappers_of_lost {name : String} (hlost : fate scopes = .lost)
    (h : isEntered (name :: scopes)) : name ∈ wrappers := by
  obtain ⟨hname, hscopes⟩ := isEntered_cons.mp h
  rw [fate, if_pos hscopes] at hlost
  unfold enteredIn at hname
  split_ifs at hlost hname
  exact (by decide : ∀ n ∈ ["route"], n ∈ wrappers) name hname

mutual

lemma fate_of_mem_withoutLostIn (scopes : List String) :
    ∀ (cs : List (Content Element)) {p : Placed},
    p ∈ placedIn scopes (withoutLostIn scopes cs) → fate p.scopes ≠ .lost
  | [], p, hp => by simp [withoutLostIn, placedIn] at hp
  | .text _ :: cs, p, hp => by
    rw [withoutLostIn, placedIn] at hp
    exact fate_of_mem_withoutLostIn scopes cs hp
  | .element e :: cs, p, hp => by
    rw [withoutLostIn] at hp
    split_ifs at hp with hprocessor hdropped
    · exact fate_of_mem_withoutLostIn scopes cs hp
    · rw [placedIn, List.mem_append] at hp
      rcases hp with hp | hp
      · split at hp
        · exact fate_of_mem_withoutLostAt scopes e hdropped hp
        · simp at hp
      · exact fate_of_mem_withoutLostIn scopes cs hp
    · rw [placedIn, if_neg hprocessor, List.nil_append] at hp
      exact fate_of_mem_withoutLostIn scopes cs hp

lemma fate_of_mem_withoutLostAt (scopes : List String) : ∀ (e : Element) {p : Placed},
    ¬ (fate scopes = .lost ∧ ¬ isEntered (e.localName :: scopes)) →
      p ∈ placedAt scopes (withoutLostAt scopes e) → fate p.scopes ≠ .lost
  | ⟨name, attributes, children, span⟩, p, hkept, hp => by
    rw [withoutLostAt, placedAt, List.mem_append] at hp
    rcases hp with hp | hp
    · split at hp
      · simp at hp
      · rename_i hwrapper
        rw [List.mem_singleton.mp hp]
        intro hlost
        exact hwrapper (mem_wrappers_of_lost hlost (not_not.mp fun h => hkept ⟨hlost, h⟩))
    · split at hp
      · exact fate_of_mem_withoutLostIn _ children hp
      · simp at hp

end

/-- Where processors are not lost, all of them are left. -/
lemma elementsIn_withoutLostIn (h : fate scopes ≠ .lost) (cs : List (Content Element)) :
    elementsIn (withoutLostIn scopes cs)
      = (elementsIn cs).map fun e => if isProcessor e then withoutLostAt scopes e else e := by
  induction cs with
  | nil => simp [withoutLostIn]
  | cons c cs ih =>
    cases c with
    | text t => simpa [withoutLostIn] using ih
    | element e =>
      rw [withoutLostIn, if_neg (show ¬ (fate scopes = .lost ∧ _) from fun hlost => h hlost.1)]
      split <;> simp_all

end Left

/-! ### Walkers -/

section Walkers

variable (s : Scope)

lemma localName_withoutLostAt (scopes : List String) (e : Element) :
    (withoutLostAt scopes e).localName = e.localName := by
  obtain ⟨name, attributes, children, span⟩ := e
  rw [withoutLostAt]
  rfl

/-- The settings of a container are its attributes, so its record does not depend on its content. -/
lemma record_withoutLostAt (scopes : List String) (e : Element) (role : Role) (n : Nat) :
    s.record (withoutLostAt scopes e) role n = s.record e role n := by
  obtain ⟨name, attributes, children, span⟩ := e
  rw [withoutLostAt]
  split
  · rename_i hcontainer
    have hsettings : ∀ cs, s.settings ⟨name, attributes, cs, span⟩
        = s.settings ⟨name, attributes, children, span⟩ := by
      intro cs
      have hin : ∀ cs, (⟨name, attributes, cs, span⟩ : Element).localName ∈ containers :=
        fun _ => hcontainer
      simp only [Scope.settings, if_pos (hin _)]
      rfl
    rw [Scope.record, hsettings]
    rfl
  · rfl

lemma emit_withoutLostAt (scopes : List String) (e : Element) (role : Role) (w : Walk) :
    s.emit (withoutLostAt scopes e) role w = s.emit e role w := by
  rw [Scope.emit, record_withoutLostAt]
  rfl

lemma isProcessor_withoutLostAt (scopes : List String) (e : Element) :
    isProcessor (withoutLostAt scopes e) = isProcessor e := by
  obtain ⟨name, attributes, children, span⟩ := e
  rw [withoutLostAt]
  rfl

lemma firstHandler_cons_of_isProcessor {e : Element} (h : isProcessor e) (entry : String)
    (cs : List (Content Element)) (w : Walk) :
    firstHandler s entry (.element e :: cs) w = firstHandler s entry cs w := by
  obtain ⟨name, attributes, children, span⟩ := e
  have hname : Xml.localPart name ≠ "error-handler" := by
    simp only [isProcessor, Bool.and_eq_true, bne_iff_ne] at h
    exact h.1.2
  rw [firstHandler, if_neg (by simpa using hname)]

/-- Error handlers are no processors and stay as they are. -/
lemma firstHandler_withoutLostIn (entry : String) (scopes : List String)
    (cs : List (Content Element)) (w : Walk) :
    firstHandler s entry (withoutLostIn scopes cs) w = firstHandler s entry cs w := by
  induction cs with
  | nil => rw [withoutLostIn]
  | cons c cs ih =>
    cases c with
    | text t => rw [withoutLostIn, firstHandler, firstHandler, ih]
    | element e =>
      rw [withoutLostIn]
      split_ifs with hprocessor
      · rw [ih, firstHandler_cons_of_isProcessor s hprocessor]
      · rw [firstHandler_cons_of_isProcessor s
          ((isProcessor_withoutLostAt scopes e).trans hprocessor), ih,
          firstHandler_cons_of_isProcessor s hprocessor]
      · obtain ⟨name, attributes, children, span⟩ := e
        rw [firstHandler, firstHandler, ih]

lemma hasOtherwise_eq (e : Element) :
    hasOtherwise e = ((elementsIn e.children).map Element.localName).any (· == "otherwise") := by
  rw [hasOtherwise, Element.elements_eq, List.any_map]
  rfl

lemma map_localName_withoutLostIn {scopes : List String} (h : fate scopes ≠ .lost)
    (cs : List (Content Element)) :
    (elementsIn (withoutLostIn scopes cs)).map Element.localName
      = (elementsIn cs).map Element.localName := by
  rw [elementsIn_withoutLostIn h, List.map_map]
  refine List.map_congr_left fun e _ => ?_
  rw [Function.comp_apply]
  split
  · exact localName_withoutLostAt scopes e
  · rfl

mutual

lemma fragments_withoutLostIn : ∀ (cs : List (Content Element)) {scopes : List String} (w : Walk),
    fate scopes = .recorded → fragments s (withoutLostIn scopes cs) w = fragments s cs w
  | [], scopes, w, _ => by rw [withoutLostIn]
  | .text _ :: cs, scopes, w, h => by
    rw [withoutLostIn, fragments, fragments]
    exact fragments_withoutLostIn cs w h
  | .element e :: cs, scopes, w, h => by
    rw [withoutLostIn, if_neg (show ¬ (fate scopes = .lost ∧ _) by simp [h])]
    split_ifs with hprocessor
    · rw [fragments, fragments, isProcessor_withoutLostAt, if_pos hprocessor, if_pos hprocessor,
        processor_withoutLostAt e w h]
      dsimp only
      rw [fragments_withoutLostIn cs _ h]
    · rw [fragments, fragments, if_neg hprocessor, if_neg hprocessor]
      exact fragments_withoutLostIn cs w h

lemma processor_withoutLostAt : ∀ (e : Element) {scopes : List String} (w : Walk),
    fate scopes = .recorded → processor s (withoutLostAt scopes e) w = processor s e w
  | ⟨name, attributes, children, span⟩, scopes, w, h => by
    have hentered := isEntered_cons_iff h (Xml.localPart name)
    have hemit := emit_withoutLostAt s scopes ⟨name, attributes, children, span⟩
    rw [withoutLostAt] at hemit ⊢
    simp only [processor, Element.localName_mk, hemit]
    cases hkind : Kind.ofName (Xml.localPart name) with
    | choice =>
      have hchoice := List.mem_singleton.mp ((kind_eq_iff (by decide)).mp hkind)
      rw [hkind, hchoice] at hentered
      have hscope := hentered.mpr (by decide)
      dsimp only
      rw [hchoice, if_pos (show "choice" ∈ containers by decide),
        branches_withoutLostIn _ _ _ hscope, hasOtherwise_eq,
        map_localName_withoutLostIn (by simp [fate_choice hscope]),
        hasOtherwise_eq ⟨name, attributes, children, span⟩]
    | scatterGather =>
      have hscatter := List.mem_singleton.mp ((kind_eq_iff (by decide)).mp hkind)
      rw [hkind, hscatter] at hentered
      dsimp only
      rw [hscatter, if_pos (show "scatter-gather" ∈ containers by decide),
        routes_withoutLostIn _ _ _ (hentered.mpr (by decide))]
      rfl
    | loop =>
      obtain ⟨hin, hfate⟩ := fate_of_kind h hkind (by decide)
      dsimp only
      rw [if_pos hin, fragments_withoutLostIn _ _ hfate]
    | tryScope =>
      obtain ⟨hin, hfate⟩ := fate_of_kind h hkind (by decide)
      dsimp only
      rw [if_pos hin, fragments_withoutLostIn _ _ hfate]
      simp only [firstHandler_withoutLostIn]
    | flowRef => rfl
    | raiseError => rfl
    | plain => rfl

lemma branches_withoutLostIn (id : String) :
    ∀ (cs : List (Content Element)) {scopes : List String} (w : Walk),
    isEntered ("choice" :: scopes) →
      branches s id (withoutLostIn ("choice" :: scopes) cs) w = branches s id cs w
  | [], scopes, w, _ => by rw [withoutLostIn]
  | .text _ :: cs, scopes, w, h => by
    rw [withoutLostIn, branches, branches]
    exact branches_withoutLostIn id cs w h
  | .element ⟨name, attributes, children, span⟩ :: cs, scopes, w, h => by
    have hrest := fun w => branches_withoutLostIn id cs w h
    rw [withoutLostIn,
      if_neg (show ¬ (fate ("choice" :: scopes) = .lost ∧ _) by simp [fate_choice h])]
    split_ifs with hprocessor
    · rw [withoutLostAt]
      simp only [branches, Element.localName_mk, hrest, Bool.or_eq_true, beq_iff_eq,
        ← List.mem_pair]
      split
      · rename_i hbranch
        obtain ⟨hwrapper, hchain⟩ := fate_of_mem_enteredIn (by decide) h hbranch
        rw [if_pos (mem_containers_of_mem_wrappers hwrapper),
          fragments_withoutLostIn children w hchain]
        rfl
      · rfl
    · simp only [branches, hrest]

lemma routes_withoutLostIn (id : String) :
    ∀ (cs : List (Content Element)) {scopes : List String} (w : Walk),
    isEntered ("scatter-gather" :: scopes) →
      routes s id (withoutLostIn ("scatter-gather" :: scopes) cs) w = routes s id cs w
  | [], scopes, w, _ => by rw [withoutLostIn]
  | .text _ :: cs, scopes, w, h => by
    rw [withoutLostIn, routes, routes]
    exact routes_withoutLostIn id cs w h
  | .element ⟨name, attributes, children, span⟩ :: cs, scopes, w, h => by
    have hrest := fun w => routes_withoutLostIn id cs w h
    rw [withoutLostIn]
    split_ifs with hprocessor hdropped
    · -- what is no route is passed over in any case
      have hroute : Xml.localPart name ≠ "route" := fun hroute =>
        hdropped.2 (isEntered_cons.mpr ⟨List.mem_singleton.mpr hroute, h⟩)
      simp only [routes, hrest, beq_iff_eq, if_neg hroute]
    · rw [withoutLostAt]
      simp only [routes, hrest, beq_iff_eq]
      split
      · rename_i hroute
        obtain ⟨hwrapper, hchain⟩ :=
          fate_of_mem_enteredIn (by decide) h (List.mem_singleton.mpr hroute)
        rw [if_pos (mem_containers_of_mem_wrappers hwrapper),
          fragments_withoutLostIn children w hchain]
      · rfl
    · simp only [routes, hrest]

end

/-! ### Flows -/

lemma afterFirstProcessor_withoutLostIn {scopes : List String} (h : fate scopes ≠ .lost)
    (cs : List (Content Element)) :
    afterFirstProcessor (withoutLostIn scopes cs)
      = withoutLostIn scopes (afterFirstProcessor cs) := by
  induction cs with
  | nil => simp [afterFirstProcessor, withoutLostIn]
  | cons c cs ih =>
    cases c with
    | text t => rw [withoutLostIn, afterFirstProcessor, afterFirstProcessor, withoutLostIn, ih]
    | element e =>
      rw [withoutLostIn, if_neg (show ¬ (fate scopes = .lost ∧ _) from fun hlost => h hlost.1),
        afterFirstProcessor]
      split_ifs with hprocessor
      · rw [afterFirstProcessor, isProcessor_withoutLostAt, if_pos hprocessor]
      · rw [afterFirstProcessor, if_neg hprocessor, ih, withoutLostIn, if_neg hprocessor]

lemma withoutLostAt_of_notMem_containers {e : Element} (h : e.localName ∉ containers)
    (scopes : List String) : withoutLostAt scopes e = e := by
  obtain ⟨name, attributes, children, span⟩ := e
  rw [withoutLostAt, if_neg (show Xml.localPart name ∉ containers from h)]

/-- A flow begins with the message source that it began with. -/
lemma messageSource?_flowWithoutLost (flow : Element) :
    messageSource? (flowWithoutLost flow) = messageSource? flow := by
  have hchildren : (flowWithoutLost flow).children = withoutLostIn [] flow.children := rfl
  have hprocessor : (isProcessor ∘ fun e => if isProcessor e then withoutLostAt [] e else e)
      = isProcessor := by
    funext e
    rw [Function.comp_apply]
    split
    · exact isProcessor_withoutLostAt [] e
    · rfl
  rw [messageSource?, messageSource?, Element.elements_eq, Element.elements_eq, hchildren,
    elementsIn_withoutLostIn (by decide), List.find?_map, hprocessor]
  cases hfind : (elementsIn flow.children).find? isProcessor with
  | none => rfl
  | some first =>
    rw [Option.map_some, if_pos (List.find?_some hfind)]
    by_cases hsource : isMessageSource first
    · rw [withoutLostAt_of_notMem_containers (notMem_containers_of_isMessageSource hsource)]
    · have hlocal : isMessageSource (withoutLostAt [] first) = isMessageSource first := by
        rw [isMessageSource, localName_withoutLostAt, isMessageSource]
      simp [Option.filter, hlocal, hsource]

lemma chain_flowWithoutLost (flow : Element) (w : Walk) :
    chain s (flowWithoutLost flow) w = chain s flow w := by
  have hchildren : (flowWithoutLost flow).children = withoutLostIn [] flow.children := rfl
  rw [chain, chain, messageSource?_flowWithoutLost, hchildren,
    afterFirstProcessor_withoutLostIn (by decide)]
  simp only [fragments_withoutLostIn s _ _ (rfl : fate [] = .recorded)]

lemma walkFlow_flowWithoutLost (flow : Element) (w : Walk) :
    walkFlow s (flowWithoutLost flow) w = walkFlow s flow w := by
  have hchildren : (flowWithoutLost flow).children = withoutLostIn [] flow.children := rfl
  simp only [walkFlow, chain_flowWithoutLost, messageSource?_flowWithoutLost, hchildren,
    firstHandler_withoutLostIn]

end Walkers

/-! ### Applications -/

section Application

variable (source : SourceText)

lemma walkNamed_flowWithoutLost (globals : OrderedMap String Settings) (w : Walk) (flow : Element) :
    walkNamed source globals w (flowWithoutLost flow) = walkNamed source globals w flow := by
  have hname : (flowWithoutLost flow).attrNonBlank "name" = flow.attrNonBlank "name" := rfl
  have hwarning : ∀ message,
      source.warning (flowWithoutLost flow) message = source.warning flow message := fun _ => rfl
  simp only [walkNamed, hname, hwarning, walkFlow_flowWithoutLost]
  rfl

lemma elements_withoutLost (root : Element) :
    (withoutLost root).elements
      = root.elements.map fun e => if isFlow e then flowWithoutLost e else e := by
  rw [Element.elements_eq, Element.elements_eq, withoutLost]
  induction root.children with
  | nil => rfl
  | cons c cs ih =>
    cases c with
    | text t => exact ih
    | element e => exact congrArg _ ih

lemma isFlow_withoutLost (e : Element) :
    isFlow (if isFlow e then flowWithoutLost e else e) = isFlow e := by
  split <;> rfl

lemma filter_isFlow_withoutLost (root : Element) :
    (withoutLost root).elements.filter isFlow
      = (root.elements.filter isFlow).map flowWithoutLost := by
  rw [elements_withoutLost, List.filter_map, Function.comp_def, funext isFlow_withoutLost]
  exact List.map_congr_left fun e he => if_pos (List.mem_filter.mp he).2

lemma globalSettings_withoutLost (root : Element) :
    globalSettings (withoutLost root) = globalSettings root := by
  have hothers : (withoutLost root).elements.filter (fun e => !isFlow e)
      = root.elements.filter fun e => !isFlow e := by
    rw [elements_withoutLost, List.filter_map, Function.comp_def]
    simp only [isFlow_withoutLost]
    refine (List.map_congr_left fun e he => ?_).trans (List.map_id _)
    exact if_neg (by simpa using (List.mem_filter.mp he).2)
  rw [globalSettings, hothers, globalSettings]

/-- Nothing that is read depends on the processors that are lost. -/
lemma read_withoutLost (root : Element) : read source (withoutLost root) = read source root := by
  have hname : (withoutLost root).localName = root.localName := rfl
  rw [read, read, hname, filter_isFlow_withoutLost, globalSettings_withoutLost, List.foldl_map]
  simp only [walkNamed_flowWithoutLost]
  rfl

end Application

/-- In a flow that stands for its name, each processor whose scopes are all entered has a record of
its own or, right in a choice, is reported, in document order. The others are lost, and taking them
out of the application leaves what is read as it is. -/
theorem read_accounts_for_processors (source : SourceText) (root : Element)
    (hroot : root.localName = "mule") :
    (∀ before flow after name, root.elements.filter isFlow = before ++ flow :: after →
      flow.attrNonBlank "name" = some name → flowNamed? before name = none →
        List.SublistForall₂ (IsRecordIn ⟨source, globalSettings root, name⟩)
          (withFate .recorded (processorsOf flow)) (read source root).1 ∧
        List.SublistForall₂ (IsUnexpected source)
          (withFate .reported (processorsOf flow)) (read source root).2) ∧
    read source (withoutLost root) = read source root ∧
    ∀ flow ∈ (withoutLost root).elements, isFlow flow →
      ∀ p ∈ processorsOf flow, fate p.scopes ≠ .lost := by
  refine ⟨fun before flow after name hflows hname hnone => ?_, read_withoutLost source root,
    fun flow hflow hisFlow p hp => ?_⟩
  · obtain ⟨⟨records, hrecords, hcovered⟩, ⟨issues, hissues, hreported⟩⟩ :=
      accounts_walkAll source hflows hname hnone
    have hread : read source root = ((walkAll source root).finish, (walkAll source root).issues) :=
      if_pos (by simp [hroot])
    have hwalked : (walkAll source root).records = records := hrecords
    have hwarned : (walkAll source root).issues = issues := hissues
    rw [hread]
    exact ⟨sublistForall₂_finish (hwalked ▸ hcovered), hwarned ▸ hreported⟩
  · have hmem := List.mem_filter.mpr ⟨hflow, hisFlow⟩
    rw [filter_isFlow_withoutLost] at hmem
    obtain ⟨flow, -, rfl⟩ := List.mem_map.mp hmem
    exact fate_of_mem_withoutLostIn [] flow.children hp

/-- A flow with scopes in scopes. -/
def scopedFlow : Element :=
  { name := "flow", attributes := [("name", "main")]
    children :=
      [.element { name := "http:listener" },
       .element
        { name := "choice"
          children :=
            [.element
              { name := "when"
                children :=
                  [.element
                    { name := "try", children := [.element { name := "vm:publish" }] }] },
             .element { name := "set-payload" }] },
       .element
        { name := "scatter-gather"
          children :=
            [.element { name := "route", children := [.element { name := "http:request" }] },
             .element { name := "transform" }] },
       .element
        { name := "async"
          children :=
            [.element { name := "foreach", children := [.element { name := "logger" }] }] }] }

/-- The application with that flow alone. -/
def scopedApplication : Element := { name := "mule", children := [.element scopedFlow] }

theorem scopedApplication_accounts :
    scopedApplication.localName = "mule" ∧
    (withFate .recorded (processorsOf scopedFlow)).map Element.name
      = ["http:listener", "choice", "vm:publish", "scatter-gather", "http:request", "async"] ∧
    (withFate .reported (processorsOf scopedFlow)).map Element.name = ["set-payload"] ∧
    (withFate .lost (processorsOf scopedFlow)).map Element.name
      = ["transform", "foreach", "logger"] ∧
    List.SublistForall₂ (IsRecordIn ⟨⟨"app.xml", ""⟩, globalSettings scopedApplication, "main"⟩)
      (withFate .recorded (processorsOf scopedFlow)) (read ⟨"app.xml", ""⟩ scopedApplication).1 ∧
    List.SublistForall₂ (IsUnexpected ⟨"app.xml", ""⟩)
      (withFate .reported (processorsOf scopedFlow)) (read ⟨"app.xml", ""⟩ scopedApplication).2 ∧
    (processorsOf (flowWithoutLost scopedFlow)).map (fun p => p.element.name)
      = ["http:listener", "choice", "vm:publish", "set-payload", "scatter-gather", "http:request",
          "async"] ∧
    read ⟨"app.xml", ""⟩ (withoutLost scopedApplication)
      = read ⟨"app.xml", ""⟩ scopedApplication := by
  have hroot : scopedApplication.localName = "mule" := by decide +kernel
  obtain ⟨hflows, hread, -⟩ := read_accounts_for_processors ⟨"app.xml", ""⟩ scopedApplication hroot
  obtain ⟨hrecords, hissues⟩ := hflows [] scopedFlow [] "main" rfl (by decide +kernel) rfl
  exact ⟨hroot, by decide +kernel, by decide +kernel, by decide +kernel, hrecords, hissues,
    by decide +kernel, hread⟩

/-- A flow with a logger in a scope that is not entered. -/
def asyncFlow : Element :=
  { name := "flow", attributes := [("name", "main")]
    children := [.element { name := "async", children := [.element { name := "logger" }] }] }

/-- The application with that flow alone. -/
def asyncApplication : Element := { name := "mule", children := [.element asyncFlow] }

/-- The logger is one of the processors of the flow. It has no record, and nothing is reported. -/
theorem asyncFlow_loses_logger :
    (processorsOf asyncFlow).map (fun p => p.element.name) = ["async", "logger"] ∧
    (read ⟨"app.xml", ""⟩ asyncApplication).2 = [] ∧
    ∃ p ∈ processorsOf asyncFlow, p.element.name = "logger" ∧
      ∀ r ∈ (read ⟨"app.xml", ""⟩ asyncApplication).1, ∀ s, ¬ IsRecordIn s p.element r := by
  have htypes : ∀ r ∈ (read ⟨"app.xml", ""⟩ asyncApplication).1, r.sourceType = "async" := by
    decide +kernel
  obtain ⟨p, hp, hlogger⟩ : ∃ p ∈ processorsOf asyncFlow, p.element.name = "logger" := by
    decide +kernel
  refine ⟨by decide +kernel, by decide +kernel, p, hp, hlogger, ?_⟩
  rintro r hr s ⟨role, n, hrecord⟩
  have htype : p.element.name = r.sourceType := by
    rw [hrecord]
    rfl
  rw [htypes r hr, hlogger] at htype
  exact absurd htype (by decide)

end IntegrationFlow.Source.Mule
