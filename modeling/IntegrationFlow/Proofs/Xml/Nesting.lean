import Mathlib
import IntegrationFlow.Proofs.Element
import IntegrationFlow.Xml.Document

/-!
# What is kept of the tags of a text

The tags of a text say which elements there are and how they stand in each other, also where end
tags are missing, stray or in the wrong order. Reading puts an element into its place only when it is
closed, so while a text is read its elements are spread over the complete ones and those that are
still open. Taken together, in this order, they are the elements that the tags have begun so far.
-/

namespace IntegrationFlow.Xml

/-! ### Tags -/

/-- A tag, as far as it says how elements are nested. -/
inductive Tag where
  | opening (name : String)
  | empty (name : String)
  | closing (name : String)
  deriving DecidableEq, Repr

/-- The tag that a token is, if it is one. -/
def Token.tag? : Token → Option Tag
  | .opening content => some (.opening (tagName content))
  | .empty content => some (.empty (tagName content))
  | .closing name => some (.closing (String.ofList name))
  | _ => none

/-- The tags among tokens. -/
def tagsAmong (tokens : List Located) : List Tag := tokens.filterMap fun l => l.token.tag?

lemma tagsAmong_cons (l : Located) (tokens : List Located) :
    tagsAmong (l :: tokens) = l.token.tag?.toList ++ tagsAmong tokens := by
  cases htag : l.token.tag? <;> simp [tagsAmong, htag]

/-- The tokens that are read from a text, up to where reading stops. -/
def tokensOf (text : String) : List Located := scan 0 (withoutMark text.toList)

/-- The tags that are read from a text. -/
def tagsIn (text : String) : List Tag := tagsAmong (tokensOf text)

namespace Tag

/-- The name of the element that a tag begins. -/
def begun? : Tag → Option String
  | opening name => some name
  | empty name => some name
  | closing _ => none

/-- The names of the open elements after a tag, innermost first. An end tag closes the innermost
element of its name and everything that is open in it. -/
def next (opened : List String) : Tag → List String
  | opening name => name :: opened
  | empty _ => opened
  | closing name => if name ∈ opened then (opened.dropWhile (· != name)).tail else opened

/-- What is wrong with a tag where elements are open: an end tag closes no element, or others
together with its own. -/
def faults (opened : List String) : Tag → List Fault
  | closing name =>
    if name ∈ opened then (opened.takeWhile (· != name)).map .closedImplicitly
    else [.strayClosing name]
  | _ => []

end Tag

/-- The elements that tags begin, each with the number of elements it stands in. -/
def outlineFrom (opened : List String) : List Tag → List (ℕ × String)
  | [] => []
  | tag :: tags =>
    (tag.begun?.map fun name => (opened.length, name)).toList ++ outlineFrom (tag.next opened) tags

/-- What is wrong with the nesting of tags. -/
def faultsFrom (opened : List String) : List Tag → List Fault
  | [] => []
  | tag :: tags => tag.faults opened ++ faultsFrom (tag.next opened) tags

/-- Tags in which every start tag has its own end tag, and what is begun later ends before. -/
inductive Nested : List Tag → Prop
  | nil : Nested []
  | empty (name : String) {rest : List Tag} (hrest : Nested rest) : Nested (.empty name :: rest)
  | element (name : String) {inner rest : List Tag} (hinner : Nested inner) (hrest : Nested rest) :
      Nested (.opening name :: inner ++ .closing name :: rest)

lemma map_snd_outlineFrom (opened : List String) (tags : List Tag) :
    (outlineFrom opened tags).map Prod.snd = tags.filterMap Tag.begun? := by
  induction tags generalizing opened with
  | nil => rfl
  | cons tag tags ih => cases tag <;> simp [outlineFrom, Tag.begun?, ih, List.filterMap_cons]

/-- The innermost element of a name, with those open in it and those it stands in. -/
lemma exists_innermost {name : String} {opened : List String} (h : name ∈ opened) :
    ∃ inner outer, opened = inner ++ name :: outer ∧ name ∉ inner ∧
      (Tag.closing name).faults opened = inner.map .closedImplicitly ∧
      (Tag.closing name).next opened = outer := by
  obtain ⟨inner, outer, rfl, hinner⟩ := List.eq_append_cons_of_mem h
  have hne : ∀ x ∈ inner, (x != name) = true := by
    intro x hx
    rw [bne_iff_ne]
    rintro rfl
    exact hinner hx
  refine ⟨inner, outer, rfl, hinner, ?_, ?_⟩
  · simp [Tag.faults, List.takeWhile_append_of_pos hne]
  · simp [Tag.next, List.dropWhile_append_of_pos hne]

lemma faults_of_notMem {name : String} {opened : List String} (h : name ∉ opened) :
    (Tag.closing name).faults opened = [.strayClosing name] :=
  if_neg h

lemma next_of_notMem {name : String} {opened : List String} (h : name ∉ opened) :
    (Tag.closing name).next opened = opened :=
  if_neg h

/-! ### Tags without a fault -/

/-- Tags that are nested, but for the end tags of elements that were open before. -/
inductive Closes : List String → List Tag → Prop
  | nil {tags : List Tag} (h : Nested tags) : Closes [] tags
  | cons (name : String) {opened : List String} {inner rest : List Tag} (hinner : Nested inner)
      (hrest : Closes opened rest) : Closes (name :: opened) (inner ++ .closing name :: rest)

namespace Closes

variable {opened : List String} {tags : List Tag}

lemma empty (h : Closes opened tags) (name : String) : Closes opened (.empty name :: tags) := by
  cases h with
  | nil h => exact .nil (h.empty name)
  | cons outer hinner hrest => exact .cons outer (hinner.empty name) hrest

/-- An element that is closed first may have been begun later. -/
lemma element {name : String} (h : Closes (name :: opened) tags) :
    Closes opened (.opening name :: tags) := by
  cases h with
  | cons _ hinner hrest =>
    cases hrest with
    | nil hrest => exact .nil (.element name hinner hrest)
    | cons outer hinner' hrest =>
      have hnested := Nested.element name hinner hinner'
      simpa using Closes.cons outer hnested hrest

/-- An end tag closes the innermost element. -/
lemma closing (h : Closes opened tags) (name : String) :
    Closes (name :: opened) (.closing name :: tags) :=
  .cons name .nil h

end Closes

/-- An end tag without a fault names the innermost element. -/
lemma exists_cons_of_faults_eq_nil {name : String} {opened : List String}
    (h : (Tag.closing name).faults opened = []) :
    ∃ outer, opened = name :: outer ∧ (Tag.closing name).next opened = outer := by
  by_cases hmem : name ∈ opened
  · obtain ⟨inner, outer, hopened, -, hfaults, hnext⟩ := exists_innermost hmem
    obtain rfl : inner = [] := by simpa [h] using hfaults
    exact ⟨outer, hopened, hnext⟩
  · simp [faults_of_notMem hmem] at h

/-- Tags without a fault that leave nothing open close what was open, last begun first. -/
lemma closes_of_faultsFrom_eq_nil {opened : List String} {tags : List Tag}
    (hfaults : faultsFrom opened tags = []) (hclosed : tags.foldl Tag.next opened = []) :
    Closes opened tags := by
  induction tags generalizing opened with
  | nil =>
    obtain rfl : opened = [] := hclosed
    exact .nil .nil
  | cons tag tags ih =>
    obtain ⟨htag, hrest⟩ := List.append_eq_nil_iff.mp hfaults
    have htags := ih hrest hclosed
    cases tag with
    | opening name => exact htags.element
    | empty name => exact htags.empty name
    | closing name =>
      obtain ⟨outer, rfl, hnext⟩ := exists_cons_of_faults_eq_nil htag
      rw [hnext] at htags
      exact htags.closing name

lemma nested_of_faultsFrom_eq_nil {tags : List Tag} (hfaults : faultsFrom [] tags = [])
    (hclosed : tags.foldl Tag.next [] = []) : Nested tags := by
  cases closes_of_faultsFrom_eq_nil hfaults hclosed with
  | nil h => exact h

/-! ### Outlines of trees -/

mutual

/-- An element and those below it, each before those below itself, with their depths. -/
def Element.outline (depth : ℕ) : Element → List (ℕ × String)
  | ⟨name, _, children, _⟩ => (depth, name) :: outlineIn (depth + 1) children

/-- The elements of a content and those below them, with their depths. -/
def outlineIn (depth : ℕ) : List (Content Element) → List (ℕ × String)
  | [] => []
  | .text _ :: cs => outlineIn depth cs
  | .element e :: cs => e.outline depth ++ outlineIn depth cs

end

@[simp] lemma outlineIn_nil (depth : ℕ) : outlineIn depth [] = [] := by simp [outlineIn]

@[simp] lemma outlineIn_text (depth : ℕ) (s : String) : outlineIn depth [.text s] = [] := by
  simp [outlineIn]

@[simp] lemma outlineIn_element (depth : ℕ) (e : Element) :
    outlineIn depth [.element e] = e.outline depth := by
  simp [outlineIn]

@[simp] lemma outlineIn_append (depth : ℕ) (cs ds : List (Content Element)) :
    outlineIn depth (cs ++ ds) = outlineIn depth cs ++ outlineIn depth ds := by
  induction cs with
  | nil => simp
  | cons c cs ih => cases c <;> simp [outlineIn, ih]

mutual

lemma Element.map_snd_outline (depth : ℕ) (e : Element) :
    (e.outline depth).map Prod.snd = (e :: e.descendants).map Element.name := by
  match e with
  | ⟨name, attributes, children, span⟩ =>
    simp [Element.outline, Element.descendants, map_snd_outlineIn]

lemma map_snd_outlineIn (depth : ℕ) (cs : List (Content Element)) :
    (outlineIn depth cs).map Prod.snd = (descendantsIn cs).map Element.name := by
  match cs with
  | [] => simp [descendantsIn]
  | .text s :: cs => simp [outlineIn, descendantsIn, map_snd_outlineIn depth cs]
  | .element e :: cs =>
    simp [outlineIn, descendantsIn, e.map_snd_outline depth, map_snd_outlineIn depth cs]

end

/-- The outline of open elements, of which the innermost is given first. -/
def openOutline : List OpenElement → List (ℕ × String)
  | [] => []
  | o :: os => openOutline os ++ (os.length, o.name) :: outlineIn (os.length + 1) o.children

lemma OpenElement.outline_close (o : OpenElement) (stop depth : ℕ) :
    (o.close stop).outline depth = (depth, o.name) :: outlineIn (depth + 1) o.children := by
  simp [OpenElement.close, Element.outline]

/-! ### Issues -/

/-- The element that an issue says to be left out, and where it begins. -/
def Issue.extraRoot? (i : Issue) : Option (String × Option ℕ) :=
  match i.fault with
  | .extraRoot name => some (name, i.offset)
  | _ => none

/-- The fault in the nesting of tags that an issue reports. -/
def Issue.nesting? (i : Issue) : Option Fault :=
  match i.fault with
  | .closedImplicitly name => some (.closedImplicitly name)
  | .strayClosing name => some (.strayClosing name)
  | _ => none

/-- What an issue about an element says that is left out. -/
def Element.asExtraRoot (e : Element) : String × Option ℕ :=
  (e.name, some (e.span.elim 0 Span.start))

/-- An issue that is about no element and no end tag. -/
def Issue.IsAside (i : Issue) : Prop := i.extraRoot? = none ∧ i.nesting? = none

/-- The issues of the attributes of a tag are about neither. -/
lemma isAside_of_mem_reportAttributes {content : List Char} {start : ℕ} {i : Issue}
    (h : i ∈ (tagAttributes content).filterMap fun
      | .error fault => some ⟨fault, some start⟩
      | .ok _ => none) : i.IsAside := by
  obtain ⟨result, hresult, hi⟩ := List.mem_filterMap.mp h
  obtain ⟨raw, -, rfl⟩ := List.mem_map.mp hresult
  cases raw with
  | error cause =>
    obtain rfl := Option.some.inj hi
    exact ⟨rfl, rfl⟩
  | ok raw =>
    simp only at hi
    split at hi
    · rename_i hfault
      split at hfault
      · simp at hfault
      · obtain rfl := Except.error.inj hfault
        obtain rfl := Option.some.inj hi
        exact ⟨rfl, rfl⟩
    · simp at hi

/-! ### While a text is read -/

namespace Reading

/-- Where the elements are that tags have begun: in `tops`, the complete ones that stand in no other,
and in the open ones. `faults` are those of the tags. -/
structure Accounts (r : Reading) (tops : List Element) (begun : List (ℕ × String))
    (faults : List Fault) : Prop where
  outline_eq : tops.flatMap (Element.outline 0) ++ openOutline r.opened = begun
  root_eq : r.root = tops.head?
  extras_eq : r.issues.filterMap Issue.extraRoot? = tops.tail.map Element.asExtraRoot
  faults_eq : r.issues.filterMap Issue.nesting? = faults

variable {r : Reading} {tops : List Element} {begun : List (ℕ × String)} {faults : List Fault}

/-- The names of the open elements, innermost first. -/
def names (r : Reading) : List String := r.opened.map OpenElement.name

@[simp] lemma names_report (r : Reading) (fault : Fault) (offset : Option ℕ) :
    (r.report fault offset).names = r.names :=
  rfl

/-- Issues that are not about elements or end tags change nothing. -/
lemma Accounts.of_aside (h : r.Accounts tops begun faults) {issues : List Issue}
    (hissues : ∀ i ∈ issues, i.IsAside) :
    ({ r with issues := r.issues ++ issues } : Reading).Accounts tops begun faults := by
  have hextra : issues.filterMap Issue.extraRoot? = [] :=
    List.filterMap_eq_nil_iff.mpr fun i hi => (hissues i hi).1
  have hnesting : issues.filterMap Issue.nesting? = [] :=
    List.filterMap_eq_nil_iff.mpr fun i hi => (hissues i hi).2
  refine ⟨h.outline_eq, h.root_eq, ?_, ?_⟩
  · simp [hextra, h.extras_eq]
  · simp [hnesting, h.faults_eq]

lemma Accounts.report_aside (h : r.Accounts tops begun faults) {fault : Fault} {offset : Option ℕ}
    (hfault : Issue.IsAside ⟨fault, offset⟩) : (r.report fault offset).Accounts tops begun faults :=
  h.of_aside (by simpa using hfault)

/-- A fault of the tags is reported once. -/
lemma Accounts.report_nesting (h : r.Accounts tops begun faults) (fault : Fault) (offset : Option ℕ)
    (hextra : Issue.extraRoot? ⟨fault, offset⟩ = none)
    (hnesting : Issue.nesting? ⟨fault, offset⟩ = some fault) :
    (r.report fault offset).Accounts tops begun (faults ++ [fault]) := by
  refine ⟨h.outline_eq, h.root_eq, ?_, ?_⟩
  · simp [Reading.report, hextra, h.extras_eq]
  · simp [Reading.report, hnesting, h.faults_eq]

@[simp] lemma names_attach (r : Reading) (e : Element) : (r.attach e).names = r.names := by
  rw [names, attach]
  split
  · rename_i o os hopened
    simp [names, hopened]
  · split <;> simp_all [names, report]

/-- A complete element comes after all that was begun before. -/
lemma Accounts.attach (h : r.Accounts tops begun faults) (e : Element) :
    ∃ tops', (r.attach e).Accounts tops' (begun ++ e.outline r.opened.length) faults := by
  rw [Reading.attach]
  split
  · rename_i o os hopened
    refine ⟨tops, ?_, h.root_eq, h.extras_eq, h.faults_eq⟩
    rw [← h.outline_eq, hopened]
    simp [openOutline]
  · rename_i hopened
    have houtline : (tops ++ [e]).flatMap (Element.outline 0) ++ openOutline r.opened
        = begun ++ e.outline r.opened.length := by
      rw [← h.outline_eq, hopened]
      simp [openOutline]
    refine ⟨tops ++ [e], ?_⟩
    split
    · rename_i hroot
      obtain rfl : tops = [] := List.head?_eq_none_iff.mp (h.root_eq ▸ hroot)
      exact ⟨houtline, rfl, h.extras_eq, h.faults_eq⟩
    · rename_i root hroot
      obtain ⟨rest, rfl⟩ : ∃ rest, tops = root :: rest :=
        List.head?_eq_some_iff.mp (h.root_eq ▸ hroot)
      refine ⟨houtline, h.root_eq, ?_, ?_⟩
      · simp [report, h.extras_eq, Issue.extraRoot?, Element.asExtraRoot]
      · simp [report, h.faults_eq, Issue.nesting?]

@[simp] lemma names_closeInnermost (r : Reading) (stop : ℕ) :
    (r.closeInnermost stop).names = r.names.tail := by
  rw [closeInnermost]
  split
  · rename_i hopened
    simp [names, hopened]
  · rename_i o os hopened
    rw [names_attach]
    simp [names, hopened]

/-- Closing an element loses none that was begun. -/
lemma Accounts.closeInnermost (h : r.Accounts tops begun faults) (stop : ℕ) :
    ∃ tops', (r.closeInnermost stop).Accounts tops' begun faults := by
  rw [Reading.closeInnermost]
  split
  · exact ⟨tops, h⟩
  · rename_i o os hopened
    have hrest : ({ r with opened := os } : Reading).Accounts tops
        (tops.flatMap (Element.outline 0) ++ openOutline os) faults :=
      ⟨rfl, h.root_eq, h.extras_eq, h.faults_eq⟩
    obtain ⟨tops', htops⟩ := hrest.attach (o.close stop)
    refine ⟨tops', ?_⟩
    rw [← h.outline_eq, hopened, openOutline, ← o.outline_close stop, ← List.append_assoc]
    exact htops

@[simp] lemma names_closeImplicitly (r : Reading) (stop n : ℕ) :
    (r.closeImplicitly stop n).names = r.names.drop n := by
  induction n generalizing r with
  | zero => simp [Reading.closeImplicitly]
  | succ n ih =>
    rw [Reading.closeImplicitly, ih, names_closeInnermost, names_report, List.drop_tail]

/-- Elements that are closed implicitly are reported one by one. -/
lemma Accounts.closeImplicitly {inner outer : List String} (h : r.Accounts tops begun faults)
    (hnames : r.names = inner ++ outer) (stop : ℕ) :
    ∃ tops', (r.closeImplicitly stop inner.length).Accounts tops' begun
      (faults ++ inner.map .closedImplicitly) := by
  induction inner generalizing r tops faults with
  | nil => exact ⟨tops, by simpa [Reading.closeImplicitly] using h⟩
  | cons name inner ih =>
    have hhead : r.opened.head?.elim "" OpenElement.name = name := by
      cases hopened : r.opened with
      | nil => simp [names, hopened] at hnames
      | cons o os => simp_all [names]
    have hreported := h.report_nesting (.closedImplicitly name) (some stop) rfl rfl
    obtain ⟨tops', htops⟩ := hreported.closeInnermost stop
    obtain ⟨tops'', hfinal⟩ := ih htops (by simp [hnames])
    refine ⟨tops'', ?_⟩
    simpa [Reading.closeImplicitly, hhead] using hfinal

lemma findIdx?_opened (r : Reading) (name : String) :
    r.opened.findIdx? (fun o => o.name == name) = r.names.findIdx? (· == name) := by
  simp [names, List.findIdx?_map, Function.comp_def]

/-- An end tag that names an open element closes it, and before that what is open in it. -/
lemma closeNamed_of_mem {name : String} {inner outer : List String}
    (hnames : r.names = inner ++ name :: outer) (hinner : name ∉ inner) (start stop : ℕ) :
    r.closeNamed name start stop
      = (r.closeImplicitly start inner.length).closeInnermost stop := by
  have hinner' : inner.findIdx? (· == name) = none := by
    simp only [List.findIdx?_eq_none_iff, beq_eq_false_iff_ne]
    rintro x hx rfl
    exact hinner hx
  have hdepth : r.opened.findIdx? (fun o => o.name == name) = some inner.length := by
    simp [findIdx?_opened, hnames, List.findIdx?_append, hinner', List.findIdx?_cons]
  rw [Reading.closeNamed, hdepth]

lemma closeNamed_of_notMem {name : String} (hname : name ∉ r.names) (start stop : ℕ) :
    r.closeNamed name start stop = r.report (.strayClosing name) (some start) := by
  have hnone : r.opened.findIdx? (fun o => o.name == name) = none := by
    simp only [findIdx?_opened, List.findIdx?_eq_none_iff, beq_eq_false_iff_ne]
    rintro x hx rfl
    exact hname hx
  rw [Reading.closeNamed, hnone]

lemma names_closeNamed (r : Reading) (name : String) (start stop : ℕ) :
    (r.closeNamed name start stop).names = (Tag.closing name).next r.names := by
  by_cases hmem : name ∈ r.names
  · obtain ⟨inner, outer, hnames, hinner, -, hnext⟩ := exists_innermost hmem
    rw [closeNamed_of_mem hnames hinner, names_closeInnermost, names_closeImplicitly, hnext, hnames]
    simp
  · rw [closeNamed_of_notMem hmem, names_report, next_of_notMem hmem]

/-- An end tag loses no element, and what is wrong with it is reported. -/
lemma Accounts.closeNamed (h : r.Accounts tops begun faults) (name : String) (start stop : ℕ) :
    ∃ tops', (r.closeNamed name start stop).Accounts tops' begun
      (faults ++ (Tag.closing name).faults r.names) := by
  by_cases hmem : name ∈ r.names
  · obtain ⟨inner, outer, hnames, hinner, hfaults, -⟩ := exists_innermost hmem
    obtain ⟨tops', htops⟩ := h.closeImplicitly hnames start
    rw [closeNamed_of_mem hnames hinner, hfaults]
    exact htops.closeInnermost stop
  · rw [closeNamed_of_notMem hmem, faults_of_notMem hmem]
    exact ⟨tops, h.report_nesting _ _ rfl rfl⟩

@[simp] lemma names_addText (r : Reading) (s : String) : (r.addText s).names = r.names := by
  rw [addText]
  split
  · rfl
  · rename_i o os hopened
    split <;> simp [names, hopened]

lemma Accounts.addText (h : r.Accounts tops begun faults) (s : String) :
    (r.addText s).Accounts tops begun faults := by
  rw [Reading.addText]
  split
  · exact h
  · rename_i o os hopened
    split
    · exact h
    · refine ⟨?_, h.root_eq, h.extras_eq, h.faults_eq⟩
      rw [← h.outline_eq, hopened]
      simp [openOutline]

/-! ### One token -/

lemma names_step (text : List Char) (r : Reading) (l : Located) :
    (r.step text l).names = l.token.tag?.elim r.names (Tag.next r.names) := by
  obtain ⟨token, start, stop⟩ := l
  cases token with
  | opening content => rfl
  | empty content => exact names_attach _ _
  | closing name => exact names_closeNamed ..
  | text raw =>
    simp only [Reading.step, Token.tag?, Option.elim_none]
    split <;> simp
  | characterData content => exact names_addText _ _
  | aside => rfl
  | namelessDoctype => rfl
  | broken fault => rfl

/-- A token that is no tag changes nothing. -/
lemma Accounts.step_of_tag?_eq_none (h : r.Accounts tops begun faults) (text : List Char)
    {l : Located} (htag : l.token.tag? = none) : (r.step text l).Accounts tops begun faults := by
  obtain ⟨token, start, stop⟩ := l
  cases token with
  | opening content => simp [Token.tag?] at htag
  | empty content => simp [Token.tag?] at htag
  | closing name => simp [Token.tag?] at htag
  | text raw =>
    simp only [Reading.step]
    split
    · exact h.addText _
    · exact h.report_aside ⟨rfl, rfl⟩
  | characterData content => exact h.addText _
  | aside => exact h
  | namelessDoctype => exact h.report_aside ⟨rfl, rfl⟩
  | broken fault => exact h.report_aside ⟨rfl, rfl⟩

/-- A tag adds the element that it begins, and its faults. -/
lemma Accounts.step (h : r.Accounts tops begun faults) (text : List Char) {l : Located} {tag : Tag}
    (htag : l.token.tag? = some tag) :
    ∃ tops', (r.step text l).Accounts tops'
      (begun ++ (tag.begun?.map fun name => (r.names.length, name)).toList)
      (faults ++ tag.faults r.names) := by
  obtain ⟨token, start, stop⟩ := l
  have hlength : r.opened.length = r.names.length := by simp [names]
  have hattributes (content : List Char) :
      (r.reportAttributes (tagStart text start) (tagAttributes content)).Accounts tops begun
        faults :=
    h.of_aside fun i hi => isAside_of_mem_reportAttributes hi
  cases token with
  | opening content =>
    obtain rfl := Option.some.inj htag
    have hread := hattributes content
    refine ⟨tops, ?_, hread.root_eq, hread.extras_eq, ?_⟩
    · simp [Reading.step, Reading.reportAttributes, openOutline, Tag.begun?, ← h.outline_eq,
        hlength]
    · simpa [Tag.faults, Reading.step] using hread.faults_eq
  | empty content =>
    obtain rfl := Option.some.inj htag
    obtain ⟨tops', htops⟩ := (hattributes content).attach
      { name := tagName content, attributes := soundAttributes (tagAttributes content),
        span := some ⟨tagStart text start, stop⟩ }
    refine ⟨tops', ?_⟩
    simpa [Reading.step, Reading.reportAttributes, Tag.begun?, Tag.faults, Element.outline,
      hlength] using htops
  | closing name =>
    obtain rfl := Option.some.inj htag
    obtain ⟨tops', htops⟩ := h.closeNamed (String.ofList name) (tagStart text start) stop
    exact ⟨tops', by simpa [Reading.step, Tag.begun?] using htops⟩
  | text raw => simp [Token.tag?] at htag
  | characterData content => simp [Token.tag?] at htag
  | aside => simp [Token.tag?] at htag
  | namelessDoctype => simp [Token.tag?] at htag
  | broken fault => simp [Token.tag?] at htag

/-! ### The whole text -/

lemma names_foldl_step (text : List Char) (tokens : List Located) (r : Reading) :
    (tokens.foldl (Reading.step text) r).names = (tagsAmong tokens).foldl Tag.next r.names := by
  induction tokens generalizing r with
  | nil => rfl
  | cons l tokens ih =>
    rw [List.foldl_cons, ih, names_step, tagsAmong_cons]
    cases l.token.tag? <;> rfl

/-- Tokens add the elements that their tags begin, and their faults. -/
lemma Accounts.foldl_step (h : r.Accounts tops begun faults) (text : List Char)
    (tokens : List Located) :
    ∃ tops', (tokens.foldl (Reading.step text) r).Accounts tops'
      (begun ++ outlineFrom r.names (tagsAmong tokens))
      (faults ++ faultsFrom r.names (tagsAmong tokens)) := by
  induction tokens generalizing r tops begun faults with
  | nil => exact ⟨tops, by simpa [tagsAmong, outlineFrom, faultsFrom] using h⟩
  | cons l tokens ih =>
    rw [List.foldl_cons, tagsAmong_cons]
    have hnames := names_step text r l
    cases htag : l.token.tag? with
    | none =>
      rw [htag, Option.elim_none] at hnames
      simpa [hnames] using ih (h.step_of_tag?_eq_none text htag)
    | some tag =>
      rw [htag, Option.elim_some] at hnames
      obtain ⟨tops', htops⟩ := h.step text htag
      simpa [hnames, outlineFrom, faultsFrom] using ih htops

lemma Accounts.closeAll (h : r.Accounts tops begun faults) (stop n : ℕ) :
    ∃ tops', (r.closeAll stop n).Accounts tops' begun faults := by
  induction n generalizing r tops with
  | zero => exact ⟨tops, h⟩
  | succ n ih =>
    obtain ⟨tops', htops⟩ := h.closeInnermost stop
    exact ih htops

lemma names_closeAll (r : Reading) (stop n : ℕ) : (r.closeAll stop n).names = r.names.drop n := by
  induction n generalizing r with
  | zero => rfl
  | succ n ih => rw [Reading.closeAll, ih, names_closeInnermost, List.drop_tail]

/-- As many elements as are open can be closed. -/
lemma opened_closeAll (r : Reading) (stop : ℕ) :
    (r.closeAll stop r.opened.length).opened = [] := by
  have hnames : (r.closeAll stop r.opened.length).names = [] := by
    rw [names_closeAll, List.drop_eq_nil_of_le (by simp [names])]
  exact List.map_eq_nil_iff.mp hnames

/-- Closing elements takes no issue back. -/
lemma issues_isPrefix_closeAll (r : Reading) (stop n : ℕ) :
    r.issues <+: (r.closeAll stop n).issues := by
  have hattach (r : Reading) (e : Element) : r.issues <+: (r.attach e).issues := by
    rw [attach]
    split
    · exact List.prefix_refl _
    · split
      · exact List.prefix_refl _
      · exact List.prefix_append ..
  induction n generalizing r with
  | zero => exact List.prefix_refl _
  | succ n ih =>
    refine List.IsPrefix.trans ?_ (ih _)
    rw [closeInnermost]
    split
    · exact List.prefix_refl _
    · rename_i o os _
      exact hattach { r with opened := os } (o.close stop)

/-- Where reading stops there is an issue. -/
lemma issues_ne_nil_of_isStopped (text : List Char) {tokens : List Located}
    (h : isStopped tokens = true) (r : Reading) :
    (tokens.foldl (Reading.step text) r).issues ≠ [] := by
  cases tokens using List.reverseRecOn with
  | nil => simp [isStopped] at h
  | append_singleton tokens l =>
    obtain ⟨token, start, stop⟩ := l
    cases token with
    | broken fault => simp [Reading.step, report]
    | _ => simp [isStopped] at h

/-! ### The end of the text -/

/-- Reports the elements that are left open, unless it has been said that reading stops. -/
def reportOpen (stopped : Bool) (size : ℕ) (r : Reading) : Reading :=
  if stopped ∨ r.opened.length = 0 then r
  else r.report (.neverClosed r.opened.length) (some size)

/-- Reports that there is no root, unless something else has been said. -/
def reportRootless (r : Reading) : Reading :=
  if r.root.isNone ∧ r.issues = [] then r.report .noRoot none else r

/-- What is done when there is no further token. -/
def finish (stopped : Bool) (size : ℕ) (r : Reading) : Reading :=
  ((r.reportOpen stopped size).closeAll size r.opened.length).reportRootless

lemma opened_reportOpen (stopped : Bool) (size : ℕ) (r : Reading) :
    (r.reportOpen stopped size).opened = r.opened := by
  rw [reportOpen]
  split <;> rfl

lemma opened_finish (stopped : Bool) (size : ℕ) (r : Reading) :
    (r.finish stopped size).opened = [] := by
  have hclosed := (r.reportOpen stopped size).opened_closeAll size
  rw [opened_reportOpen] at hclosed
  rw [finish, reportRootless]
  split
  · exact hclosed
  · exact hclosed

lemma Accounts.finish (h : r.Accounts tops begun faults) (stopped : Bool) (size : ℕ) :
    ∃ tops', (r.finish stopped size).Accounts tops' begun faults := by
  have hreported : (r.reportOpen stopped size).Accounts tops begun faults := by
    rw [reportOpen]
    split
    · exact h
    · exact h.report_aside ⟨rfl, rfl⟩
  obtain ⟨tops', hclosed⟩ := hreported.closeAll size r.opened.length
  refine ⟨tops', ?_⟩
  rw [Reading.finish, reportRootless]
  split
  · exact hclosed.report_aside ⟨rfl, rfl⟩
  · exact hclosed

/-- If nothing is reported, there is a root, and nothing was left open. -/
lemma of_issues_finish_eq_nil {stopped : Bool} {size : ℕ} (hstopped : stopped → r.issues ≠ [])
    (h : (r.finish stopped size).issues = []) :
    (r.finish stopped size).root.isSome ∧ r.opened = [] := by
  have hprefix := issues_isPrefix_closeAll (r.reportOpen stopped size) size r.opened.length
  rw [finish] at h ⊢
  generalize (r.reportOpen stopped size).closeAll size r.opened.length = r' at *
  rw [reportRootless] at h ⊢
  split at h
  · simp [report] at h
  · rename_i hroot
    rw [if_neg hroot]
    refine ⟨?_, ?_⟩
    · simpa [h, Option.isNone_iff_eq_none, ← Option.isSome_iff_ne_none] using hroot
    · rw [h, List.prefix_nil, reportOpen] at hprefix
      split at hprefix
      · rename_i hcases
        exact List.length_eq_zero_iff.mp (hcases.resolve_left fun hs => hstopped hs hprefix)
      · simp [report] at hprefix

end Reading

/-- What has been read of a text when there is no further token. -/
def tokensRead (text : String) : Reading := (tokensOf text).foldl (Reading.step text.toList) {}

/-- All that is read of a text. -/
def allRead (text : String) : Reading :=
  (tokensRead text).finish (isStopped (tokensOf text)) (Text.byteSize text.toList)

lemma read_eq (text : String) : read text = ((allRead text).root, (allRead text).issues) := rfl

/-- Reading accounts for the elements that the tags of a text begin, and for their faults. -/
lemma exists_accounts (text : String) :
    ∃ tops, (allRead text).Accounts tops (outlineFrom [] (tagsIn text))
      (faultsFrom [] (tagsIn text)) := by
  have hempty : ({} : Reading).Accounts [] [] [] := ⟨rfl, rfl, rfl, rfl⟩
  obtain ⟨tops, hfold⟩ := hempty.foldl_step text.toList (tokensOf text)
  exact hfold.finish (isStopped (tokensOf text)) (Text.byteSize text.toList)

/-- If nothing is reported, there is a root, and the tags leave nothing open. -/
lemma of_issues_allRead_eq_nil {text : String} (h : (allRead text).issues = []) :
    (allRead text).root.isSome ∧ (tagsIn text).foldl Tag.next [] = [] := by
  have hstopped : isStopped (tokensOf text) → (tokensRead text).issues ≠ [] :=
    fun h => Reading.issues_ne_nil_of_isStopped text.toList h {}
  obtain ⟨hroot, hopened⟩ := Reading.of_issues_finish_eq_nil hstopped h
  have hnames := Reading.names_foldl_step text.toList (tokensOf text) {}
  refine ⟨hroot, hnames.symm.trans ?_⟩
  exact congrArg (List.map OpenElement.name) hopened

/-- Whatever the tags of a text are, none of the elements that they begin is lost, repeated or put
elsewhere: in the order of their tags and at the depths that these have, they are those of the root
and of the further elements that stand in no other. Each of the latter is reported once, and so is
each end tag that closes nothing and each element that the end tag of another one closes. If nothing
at all is reported, there is just one element that stands in no other, and every start tag has its
own end tag. -/
theorem parse_keeps_elements (text document : String) :
    ∃ tops : List Element, (parse text document).1 = tops.head? ∧
      (parse text document).2 = (read text).2.map (Issue.diagnostic document text) ∧
      (tagsIn text).filterMap Tag.begun?
        = tops.flatMap (fun e => (e :: e.descendants).map Element.name) ∧
      outlineFrom [] (tagsIn text) = tops.flatMap (Element.outline 0) ∧
      (read text).2.filterMap Issue.extraRoot? = tops.tail.map Element.asExtraRoot ∧
      (read text).2.filterMap Issue.nesting? = faultsFrom [] (tagsIn text) ∧
      ((parse text document).2 = [] → ∃ root, tops = [root] ∧ Nested (tagsIn text)) := by
  obtain ⟨tops, h⟩ := exists_accounts text
  have houtline : tops.flatMap (Element.outline 0) = outlineFrom [] (tagsIn text) := by
    simpa [allRead, Reading.opened_finish, openOutline] using h.outline_eq
  refine ⟨tops, h.root_eq, rfl, ?_, houtline.symm, h.extras_eq, h.faults_eq, ?_⟩
  · rw [← map_snd_outlineFrom [], ← houtline, List.map_flatMap]
    simp only [Element.map_snd_outline]
  · intro hnone
    have hnil : (allRead text).issues = [] := List.map_eq_nil_iff.mp hnone
    obtain ⟨hroot, hclosed⟩ := of_issues_allRead_eq_nil hnil
    have hfaults := h.faults_eq
    have hextras := h.extras_eq
    rw [hnil, List.filterMap_nil] at hfaults hextras
    rw [h.root_eq] at hroot
    obtain ⟨root, hhead⟩ := Option.isSome_iff_exists.mp hroot
    obtain ⟨rest, rfl⟩ := List.head?_eq_some_iff.mp hhead
    obtain rfl : rest = [] := by simpa using hextras.symm
    exact ⟨root, rfl, nested_of_faultsFrom_eq_nil hfaults.symm hclosed⟩

end IntegrationFlow.Xml
