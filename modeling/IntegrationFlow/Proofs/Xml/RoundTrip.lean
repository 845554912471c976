import Mathlib
import IntegrationFlow.Proofs.Xml.Token

/-!
# Written trees are read back

Reading a written tree gives the tree again, but for white space: adjacent texts become one text,
the white space around it is lost, and a text of nothing but white space is lost itself. A tree that
reading cannot change in this way is settled, and it comes back as it was.
-/

namespace IntegrationFlow.Xml

/-! ### Trees without spans -/

mutual

/-- A tree without the places it was read from. -/
def Element.withoutSpans : Element → Element
  | ⟨name, attributes, children, _⟩ => ⟨name, attributes, contentWithoutSpans children, none⟩

/-- A content without the places it was read from. -/
def contentWithoutSpans : List (Content Element) → List (Content Element)
  | [] => []
  | .text s :: cs => .text s :: contentWithoutSpans cs
  | .element e :: cs => .element e.withoutSpans :: contentWithoutSpans cs

end

@[simp] lemma contentWithoutSpans_nil : contentWithoutSpans [] = [] := by
  simp [contentWithoutSpans]

@[simp] lemma contentWithoutSpans_text (s : String) (cs : List (Content Element)) :
    contentWithoutSpans (.text s :: cs) = .text s :: contentWithoutSpans cs := by
  simp [contentWithoutSpans]

@[simp] lemma contentWithoutSpans_element (e : Element) (cs : List (Content Element)) :
    contentWithoutSpans (.element e :: cs) = .element e.withoutSpans :: contentWithoutSpans cs := by
  simp [contentWithoutSpans]

@[simp] lemma contentWithoutSpans_append (cs ds : List (Content Element)) :
    contentWithoutSpans (cs ++ ds) = contentWithoutSpans cs ++ contentWithoutSpans ds := by
  induction cs with
  | nil => simp
  | cons c cs ih => cases c <;> simp [ih]

@[simp] lemma elementsIn_contentWithoutSpans (cs : List (Content Element)) :
    elementsIn (contentWithoutSpans cs) = (elementsIn cs).map Element.withoutSpans := by
  induction cs with
  | nil => simp
  | cons c cs ih => cases c <;> simp [ih]

lemma Element.withoutSpans_mk (name : String) (attributes : OrderedMap String String)
    (children : List (Content Element)) (span : Option Span) :
    (⟨name, attributes, children, span⟩ : Element).withoutSpans
      = ⟨name, attributes, contentWithoutSpans children, none⟩ := by
  simp [Element.withoutSpans]

/-! ### Settled trees -/

/-- A text without the white space of markup around it. -/
def strip (s : String) : String := String.ofList (Text.trimBy isMarkupSpace s.toList)

/-- What becomes of texts that stand side by side, given put together. -/
def settleText (run : String) : List (Content Element) :=
  if Text.isBlank (strip run) then [] else [.text (strip run)]

mutual

/-- What reading makes of a written tree. -/
def Element.settle : Element → Element
  | ⟨name, attributes, children, _⟩ => ⟨name, attributes, settleContent "" children, none⟩

/-- What reading makes of a written content. `run` is put together from the texts before it, up to
the last element. -/
def settleContent (run : String) : List (Content Element) → List (Content Element)
  | [] => settleText run
  | .text s :: cs => settleContent (run ++ s) cs
  | .element e :: cs => settleText run ++ .element e.settle :: settleContent "" cs

end

lemma Element.settle_mk (name : String) (attributes : OrderedMap String String)
    (children : List (Content Element)) (span : Option Span) :
    (⟨name, attributes, children, span⟩ : Element).settle
      = ⟨name, attributes, settleContent "" children, none⟩ := by
  simp [Element.settle]

@[simp] lemma settleContent_nil (run : String) : settleContent run [] = settleText run := by
  simp [settleContent]

@[simp] lemma settleContent_text (run s : String) (cs : List (Content Element)) :
    settleContent run (.text s :: cs) = settleContent (run ++ s) cs := by
  simp [settleContent]

@[simp] lemma settleContent_element (run : String) (e : Element) (cs : List (Content Element)) :
    settleContent run (.element e :: cs)
      = settleText run ++ .element e.settle :: settleContent "" cs := by
  simp [settleContent]

@[simp] lemma settleText_empty : settleText "" = [] := by decide

@[simp] lemma contentWithoutSpans_settleText (run : String) :
    contentWithoutSpans (settleText run) = settleText run := by
  unfold settleText
  split <;> simp

@[simp] lemma elementsIn_settleText (run : String) : elementsIn (settleText run) = [] := by
  unfold settleText
  split <;> simp

@[simp] lemma elementsIn_settleContent (run : String) (cs : List (Content Element)) :
    elementsIn (settleContent run cs) = (elementsIn cs).map Element.settle := by
  induction cs generalizing run with
  | nil => simp
  | cons c cs ih => cases c <;> simp [ih]

/-! ### Reading tokens -/

namespace Reading

/-- Reading inside of an open element, whose content so far is given. -/
def inside (r : Reading) (o : OpenElement) (cs : List (Content Element)) : Reading :=
  { r with opened := { o with children := cs } :: r.opened }

lemma attach_inside (r : Reading) (o : OpenElement) (cs : List (Content Element)) (e : Element) :
    (r.inside o cs).attach e = r.inside o (cs ++ [.element e]) := rfl

lemma addText_inside (r : Reading) (o : OpenElement) (cs : List (Content Element)) (s : String) :
    (r.inside o cs).addText s
      = r.inside o (cs ++ if Text.isBlank s then [] else [.text s]) := by
  simp only [addText, inside]
  split <;> simp

lemma closeNamed_inside (r : Reading) (o : OpenElement) (cs : List (Content Element))
    (start stop : Nat) :
    (r.inside o cs).closeNamed o.name start stop
      = r.attach ({ o with children := cs }.close stop) := by
  simp only [closeNamed, inside, List.findIdx?_cons, beq_self_eq_true, if_true]
  rfl

lemma reportAttributes_ok (r : Reading) (start : Nat) (attributes : List (String × String)) :
    r.reportAttributes start (attributes.map .ok) = r := by
  simp [reportAttributes, List.filterMap_map]

lemma soundAttributes_ok (attributes : List (String × String)) :
    soundAttributes (attributes.map .ok) = attributes := by
  simp [soundAttributes, List.filterMap_map]

section Step

variable (text : List Char) (r : Reading) {t : Located} {name : String}
  {attributes : List (String × String)}

lemma step_opening (ht : t.token = .opening (tagText name attributes)) (hname : IsName name)
    (hkeys : ∀ key ∈ OrderedMap.keys attributes, IsName key)
    (hnodup : (OrderedMap.keys attributes).Nodup) :
    ∃ start, r.step text t = r.inside ⟨name, attributes, start, []⟩ [] := by
  refine ⟨tagStart text t.start, ?_⟩
  simp only [step, ht, tagAttributes_tagText hname hkeys hnodup, tagName_tagText hname,
    reportAttributes_ok, soundAttributes_ok, inside]

lemma step_empty (ht : t.token = .empty (tagText name attributes)) (hname : IsName name)
    (hkeys : ∀ key ∈ OrderedMap.keys attributes, IsName key)
    (hnodup : (OrderedMap.keys attributes).Nodup) :
    ∃ span, r.step text t = r.attach ⟨name, attributes, [], span⟩ := by
  refine ⟨some ⟨tagStart text t.start, t.stop⟩, ?_⟩
  simp only [step, ht, tagAttributes_tagText hname hkeys hnodup, tagName_tagText hname,
    reportAttributes_ok, soundAttributes_ok]

lemma step_closing {o : OpenElement} (ht : t.token = .closing o.name.toList)
    (cs : List (Content Element)) :
    ∃ stop, (r.inside o cs).step text t = r.attach ({ o with children := cs }.close stop) := by
  refine ⟨t.stop, ?_⟩
  simp only [step, ht, String.ofList_toList, closeNamed_inside]

/-- The text that is written for a run of texts is read as one text. -/
lemma foldl_step_textTokens {ts : List Located} {run : String} (o : OpenElement)
    (cs : List (Content Element))
    (hts : ts.map Located.token = textTokens (Entity.escape run).toList) :
    ts.foldl (step text) (r.inside o cs) = r.inside o (cs ++ settleText run) := by
  have hraw : Text.trimBy isMarkupSpace (Entity.escape run).toList
      = (strip run).toList.flatMap Entity.escapeChar := by
    rw [Entity.escape, String.toList_ofList, Entity.trimBy_flatMap_escapeChar, strip,
      String.toList_ofList]
  have hread : Entity.unescape ((strip run).toList.flatMap Entity.escapeChar) = .ok (strip run) := by
    rw [Entity.unescape_flatMap_escapeChar, String.ofList_toList]
  rw [textTokens, hraw] at hts
  split at hts
  · rename_i hnil
    -- nothing is written, so the text is empty
    rw [hnil] at hread
    have hempty : strip run = "" := (Except.ok.inj hread).symm
    obtain rfl := List.map_eq_nil_iff.mp hts
    simp [settleText, hempty, Text.isBlank]
  · obtain ⟨t, rfl, ht⟩ := List.map_eq_singleton_iff.mp hts
    rw [List.foldl_cons, List.foldl_nil, step, ht]
    simp only [hread, addText_inside, settleText]

end Step

/-! ### Reading trees -/

/-- The tokens of an element are read as the element, settled. -/
def Reads (text : List Char) (e : Element) : Prop :=
  ∀ (ts : List Located) (r : Reading), ts.map Located.token = elementTokens e →
    ∃ e' : Element, e'.withoutSpans = e.settle ∧ ts.foldl (step text) r = r.attach e'

/-- A content is read inside of its element, if its own elements are. -/
lemma foldl_step_contentTokens {text : List Char} {cs : List (Content Element)}
    (hcs : ∀ x ∈ elementsIn cs, Reads text x) {ts : List Located} {run : String}
    (hts : ts.map Located.token = contentTokens run cs) (r : Reading) (o : OpenElement)
    (before : List (Content Element)) :
    ∃ cs', contentWithoutSpans cs' = settleContent run cs ∧
      ts.foldl (step text) (r.inside o before) = r.inside o (before ++ cs') := by
  induction cs generalizing ts run before with
  | nil =>
    rw [contentTokens] at hts
    exact ⟨settleText run, by simp, foldl_step_textTokens text r o before hts⟩
  | cons c cs ih =>
    cases c with
    | text s =>
      rw [contentTokens] at hts
      rw [settleContent_text]
      exact ih hcs hts before
    | element e =>
      simp only [elementsIn_element, List.mem_cons, forall_eq_or_imp] at hcs
      rw [contentTokens, List.append_assoc] at hts
      obtain ⟨ts₁, ts', rfl, hts₁, hts'⟩ := List.map_eq_append_iff.mp hts
      obtain ⟨ts₂, ts₃, rfl, hts₂, hts₃⟩ := List.map_eq_append_iff.mp hts'
      obtain ⟨e', he', hread⟩ := hcs.1 ts₂ (r.inside o (before ++ settleText run)) hts₂
      obtain ⟨cs', hcs', htail⟩ := ih hcs.2 hts₃ (before ++ settleText run ++ [.element e'])
      refine ⟨settleText run ++ .element e' :: cs', by simp [he', hcs'], ?_⟩
      rw [List.foldl_append, List.foldl_append, foldl_step_textTokens text r o before hts₁, hread,
        attach_inside, htail]
      simp

end Reading

/-- A tree whose names can be written is read from its tokens. -/
lemma Element.IsNamed.reads {e : Element} (h : e.IsNamed) (text : List Char) :
    Reading.Reads text e := by
  induction h with
  | @mk e hname hkeys hnodup hchildren ih =>
    obtain ⟨name, attributes, children, span⟩ := e
    intro ts r hts
    cases children with
    | nil =>
      rw [elementTokens] at hts
      obtain ⟨t, rfl, ht⟩ := List.map_eq_singleton_iff.mp hts
      obtain ⟨span', hstep⟩ := Reading.step_empty text r ht hname hkeys hnodup
      exact ⟨_, by simp [Element.withoutSpans_mk, Element.settle_mk], hstep⟩
    | cons c cs =>
      rw [elementTokens] at hts
      obtain ⟨t, ts', rfl, ht, hts'⟩ := List.map_eq_cons_iff.mp hts
      obtain ⟨ts₁, ts₂, rfl, hts₁, hts₂⟩ := List.map_eq_append_iff.mp hts'
      obtain ⟨t', rfl, ht'⟩ := List.map_eq_singleton_iff.mp hts₂
      obtain ⟨start, hopening⟩ := Reading.step_opening text r ht hname hkeys hnodup
      obtain ⟨cs', hcs', hcontent⟩ := Reading.foldl_step_contentTokens ih hts₁ r
        ⟨name, attributes, start, []⟩ []
      obtain ⟨stop, hclosing⟩ :=
        Reading.step_closing text r (o := ⟨name, attributes, start, []⟩) ht' cs'
      refine ⟨OpenElement.close ⟨name, attributes, start, cs'⟩ stop, ?_, ?_⟩
      · simp [OpenElement.close, Element.withoutSpans_mk, Element.settle_mk, hcs']
      · rw [List.foldl_cons, hopening, List.foldl_append, hcontent, List.nil_append,
          List.foldl_cons, List.foldl_nil, hclosing]

/-- A written tree is read without an issue, and settled. -/
theorem exists_read_print {e : Element} (h : e.IsNamed) :
    ∃ root : Element, read (print e) = (some root, []) ∧ root.withoutSpans = e.settle := by
  have hmark : withoutMark (print e).toList = (print e).toList := by
    rw [toList_print]
    simp [withoutMark]
  have htokens : (scan 0 (print e).toList).map Located.token = .aside :: elementTokens e :=
    tokens_print h
  obtain ⟨t, ts, hscan, ht, hts⟩ := List.map_eq_cons_iff.mp htokens
  obtain ⟨root, hroot, hread⟩ := h.reads (print e).toList ts {} hts
  have haside : Reading.step (print e).toList {} t = {} := by
    simp only [Reading.step, ht]
  refine ⟨root, ?_, hroot⟩
  simp [read, hmark, hscan, haside, hread, Reading.attach, Reading.closeAll]

/-! ### Trees that come back as they were -/

/-- Two parts of a content that are not both texts. -/
def Content.Apart : Content Element → Content Element → Prop
  | .text _, .text _ => False
  | _, _ => True

/-- A tree that reading leaves as it is: its texts are stripped and not blank, and no two of them
stand side by side. -/
inductive Element.IsSettled : Element → Prop
  | mk {e : Element}
    (texts : ∀ s, Content.text s ∈ e.children → strip s = s ∧ Text.isBlank s = false)
    (apart : e.children.IsChain Content.Apart)
    (children : ∀ x ∈ e.elements, x.IsSettled) : e.IsSettled

section Settled

lemma strip_strip (s : String) : strip (strip s) = strip s := by
  rw [strip, strip, String.toList_ofList, Text.trimBy_trimBy]

lemma settleText_of_settled {s : String} (hstrip : strip s = s) (hblank : Text.isBlank s = false) :
    settleText s = [.text s] := by
  simp [settleText, hstrip, hblank]

lemma settleContent_of_settled {cs : List (Content Element)}
    (htexts : ∀ s, Content.text s ∈ cs → strip s = s ∧ Text.isBlank s = false)
    (hapart : cs.IsChain Content.Apart)
    (hchildren : ∀ x ∈ elementsIn cs, x.settle = x.withoutSpans) :
    settleContent "" cs = contentWithoutSpans cs := by
  induction cs with
  | nil => simp
  | cons c cs ih =>
    have htail := ih (fun s hs => htexts s (List.mem_cons_of_mem _ hs)) hapart.tail
    cases c with
    | element e =>
      simp only [elementsIn_element, List.mem_cons, forall_eq_or_imp] at hchildren
      simp [hchildren.1, htail hchildren.2]
    | text s =>
      obtain ⟨hstrip, hblank⟩ := htexts s (by simp)
      replace htail := htail hchildren
      cases cs with
      | nil => simp [settleText_of_settled hstrip hblank]
      | cons d cs =>
        cases d with
        | text t => simp [Content.Apart] at hapart
        | element e => simpa [settleText_of_settled hstrip hblank] using htail

lemma Element.IsSettled.settle_eq {e : Element} (h : e.IsSettled) : e.settle = e.withoutSpans := by
  induction h with
  | @mk e htexts hapart hchildren ih =>
    obtain ⟨name, attributes, children, span⟩ := e
    rw [Element.settle_mk, Element.withoutSpans_mk, settleContent_of_settled htexts hapart ih]

lemma eq_strip_of_mem_settleText {run s : String} (h : Content.text s ∈ settleText run) :
    s = strip run ∧ Text.isBlank s = false := by
  unfold settleText at h
  split at h
  · simp at h
  · rename_i hblank
    obtain rfl : s = strip run := by simpa using h
    simpa using hblank

/-- The texts that reading leaves are stripped and not blank. -/
lemma text_of_mem_settleContent {cs : List (Content Element)} {run s : String}
    (h : Content.text s ∈ settleContent run cs) : strip s = s ∧ Text.isBlank s = false := by
  have htext : ∀ {run : String}, Content.text s ∈ settleText run →
      strip s = s ∧ Text.isBlank s = false := by
    intro run hs
    obtain ⟨rfl, hblank⟩ := eq_strip_of_mem_settleText hs
    exact ⟨strip_strip run, hblank⟩
  induction cs generalizing run with
  | nil =>
    rw [settleContent_nil] at h
    exact htext h
  | cons c cs ih =>
    cases c with
    | text t =>
      rw [settleContent_text] at h
      exact ih h
    | element e =>
      rw [settleContent_element, List.mem_append, List.mem_cons] at h
      rcases h with h | h | h
      · exact htext h
      · exact absurd h (by simp)
      · exact ih h

/-- Reading leaves no two texts side by side. -/
lemma isChain_settleContent (run : String) (cs : List (Content Element)) :
    (settleContent run cs).IsChain Content.Apart := by
  induction cs generalizing run with
  | nil =>
    rw [settleContent_nil, settleText]
    split <;> simp
  | cons c cs ih =>
    cases c with
    | text t => simpa using ih (run ++ t)
    | element e =>
      have htail := ih ""
      rw [settleContent_element, settleText]
      split <;> simp [List.isChain_cons, htail, Content.Apart]

lemma isSettled_settle (e : Element) : e.settle.IsSettled := by
  induction e using Element.induction with
  | step e ih =>
    obtain ⟨name, attributes, children, span⟩ := e
    rw [Element.settle_mk]
    refine .mk (fun s hs => text_of_mem_settleContent hs) (isChain_settleContent _ _) ?_
    intro x hx
    rw [Element.elements_eq, elementsIn_settleContent] at hx
    obtain ⟨y, hy, rfl⟩ := List.mem_map.mp hx
    exact ih y hy

lemma contentWithoutSpans_eq_map (cs : List (Content Element)) :
    contentWithoutSpans cs = cs.map fun
      | .text s => .text s
      | .element e => .element e.withoutSpans := by
  induction cs with
  | nil => simp
  | cons c cs ih => cases c <;> simp [ih]

lemma Element.isSettled_of_withoutSpans {e : Element} (h : e.withoutSpans.IsSettled) :
    e.IsSettled := by
  induction e using Element.induction with
  | step e ih =>
    obtain ⟨name, attributes, children, span⟩ := e
    rw [Element.withoutSpans_mk] at h
    cases h with
    | mk htexts hapart hchildren =>
      simp only [contentWithoutSpans_eq_map] at htexts hapart
      refine .mk (fun s hs => htexts s ?_) ?_ fun x hx => ih x hx (hchildren _ ?_)
      · exact List.mem_map.mpr ⟨_, hs, rfl⟩
      · rw [List.isChain_map] at hapart
        refine hapart.imp fun c d hcd => ?_
        cases c <;> cases d <;> simp_all [Content.Apart]
      · rw [Element.elements_eq, elementsIn_contentWithoutSpans]
        exact List.mem_map_of_mem hx

lemma Element.settle_eq_iff {e : Element} : e.settle = e.withoutSpans ↔ e.IsSettled := by
  refine ⟨fun h => ?_, IsSettled.settle_eq⟩
  exact isSettled_of_withoutSpans (h ▸ isSettled_settle e)

end Settled

/-- Reading undoes writing: a written tree is read without an entry in the report and comes back
settled, so it is the same tree exactly if it was settled before. -/
theorem parse_print_eq_settle {e : Element} (h : e.IsNamed) (document : String) :
    ∃ root : Element, parse (print e) document = (some root, []) ∧
      root.withoutSpans = e.settle ∧ (root.withoutSpans = e.withoutSpans ↔ e.IsSettled) := by
  obtain ⟨root, hread, hroot⟩ := exists_read_print h
  refine ⟨root, ?_, hroot, ?_⟩
  · rw [parse, hread]
    rfl
  · rw [hroot, Element.settle_eq_iff]

/-- A tree with markup, quotes and line breaks in its texts and values, texts side by side, a text
of nothing, a text of white space that markup does not know, and an element inside of another. -/
def mixedTree : Element where
  name := "a:root"
  attributes := [("id", "r & '1'"), ("x-1.y", "<\"\n>")]
  children :=
    [.text "\t1 <", .text " 2> ", .element { name := "_", children := [.text ""] },
     .text "\u00a0", .element { name := "b", children := [.element { name := "c" }] },
     .text "]]>&amp;"]

theorem parse_print_mixedTree : mixedTree.IsNamed ∧ ∃ root : Element,
    parse (print mixedTree) "t.xml" = (some root, []) ∧
      root.withoutSpans =
        { name := "a:root"
          attributes := [("id", "r & '1'"), ("x-1.y", "<\"\n>")]
          children :=
            [.text "1 < 2>", .element { name := "_" },
             .element { name := "b", children := [.element { name := "c" }] },
             .text "]]>&amp;"] } := by
  have hnamed : mixedTree.IsNamed := by
    have hleaf : ∀ name cs, IsName name → elementsIn cs = [] →
        (Element.mk name [] cs none).IsNamed := by
      intro name cs hname hcs
      exact .mk hname (by simp) (by simp) (by simp [Element.elements_eq, hcs])
    have hb : (Element.mk "b" [] [.element { name := "c" }] none).IsNamed := by
      refine .mk (by decide +kernel) (by simp) (by simp) ?_
      simpa [Element.elements_eq] using hleaf "c" [] (by decide +kernel) rfl
    refine .mk (by decide +kernel) (by decide +kernel) (by decide +kernel) ?_
    simpa [Element.elements_eq, mixedTree] using ⟨hleaf "_" _ (by decide +kernel) rfl, hb⟩
  have hfirst : strip "\t1 < 2> " = "1 < 2>" ∧ Text.isBlank "1 < 2>" = false := by
    decide +kernel
  have hblank : Text.isBlank (strip "\u00a0") = true := by decide +kernel
  have hlast : strip "]]>&amp;" = "]]>&amp;" ∧ Text.isBlank "]]>&amp;" = false := by
    decide +kernel
  obtain ⟨root, hparse, hroot, -⟩ := parse_print_eq_settle hnamed "t.xml"
  refine ⟨hnamed, root, hparse, hroot.trans ?_⟩
  have hsettled : settleText "\t1 < 2> " = [.text "1 < 2>"] ∧ settleText "\u00a0" = [] ∧
      settleText "]]>&amp;" = [.text "]]>&amp;"] := by
    simp [settleText, hfirst, hblank, hlast]
  simp [mixedTree, Element.settle_mk, hsettled]

end IntegrationFlow.Xml
