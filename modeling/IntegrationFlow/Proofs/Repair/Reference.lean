import Mathlib
import IntegrationFlow.Proofs.Repair.Basic
import IntegrationFlow.Repair.Reference

/-!
# Lists of connectors brought in line

After the first check every connector joins two nodes of the process, every node lists each
connector that enters or leaves it exactly once, and the diagram draws only what is there. A
document in that state passes the check unchanged.
-/

namespace IntegrationFlow.Repair

open Xml (Element Content SameTag elementsIn)
open Bpmn (Document isFlowNode isConnector)

/-! ### What a node keeps -/

/-- Whether an element lists a connector. -/
def IsReference (e : Element) : Prop := ∃ d : Direction, e.localName = d.name

/-- `e'` is `e` but for its lists of connectors. -/
structure SameButLists (e e' : Element) : Prop extends SameTag e e' where
  filter_eq : ∀ q : Element → Bool, (∀ x, IsReference x → q x = false) →
    e'.elements.filter q = e.elements.filter q

namespace SameButLists

variable {e e' e'' : Element}

lemma refl (e : Element) : SameButLists e e := ⟨SameTag.refl e, fun _ _ => rfl⟩

lemma trans (h : SameButLists e e') (h' : SameButLists e' e'') : SameButLists e e'' :=
  ⟨h.toSameTag.trans h'.toSameTag,
    fun q hq => (h'.filter_eq q hq).trans (h.filter_eq q hq)⟩

/-- The elements of any other name are the same. -/
lemma findAll_eq (h : SameButLists e e') {name : String} (hn : ∀ d : Direction, name ≠ d.name) :
    e'.findAll name = e.findAll name := by
  refine h.filter_eq _ ?_
  rintro x ⟨d, hd⟩
  simpa [hd] using (hn d).symm

/-- The first element of any other name is the same. -/
lemma find_eq (h : SameButLists e e') {name : String} (hn : ∀ d : Direction, name ≠ d.name) :
    e'.find name = e.find name := by
  have hall := congrArg List.head? (h.findAll_eq hn)
  rwa [Element.findAll, List.head?_filter, Element.findAll, List.head?_filter] at hall

end SameButLists

/-! ### The list of one node -/

lemma localName_reference (ns : Option String) (d : Direction) (connector : String) :
    (Element.ofText (qualified ns d.name) connector).localName = d.name :=
  localPart_qualified (by cases d <;> decide) ns

/-- A node lists each of the connectors expected once, and no other. -/
def Lists (d : Direction) (expected : List String) (node : Element) : Prop :=
  (listed d node).Nodup ∧ ∀ connector, connector ∈ listed d node ↔ connector ∈ expected

lemma listed_eq_of_filter_eq {d : Direction} {e e' : Element}
    (h : e'.findAll d.name = e.findAll d.name) : listed d e' = listed d e := by
  rw [listed, h, listed]

/-- Adding a connector to a list adds it once. -/
lemma listed_addReference (ns : Option String) (d : Direction) (connector : String)
    (node : Element) :
    (listed d (addReference ns d connector node)).Perm
      (Text.trim connector :: listed d node) := by
  have hperm : (addReference ns d connector node).elements.Perm
      (.ofText (qualified ns d.name) connector :: node.elements) :=
    Element.elements_insertBefore_perm _ _ _
  have htexts := (hperm.filter (·.localName == d.name)).map Element.text
  rwa [List.filter_cons_of_pos (by simp [localName_reference]), List.map_cons,
    Element.text_ofText] at htexts

/-- Adding a connector to one list leaves everything of another name alone. -/
lemma filter_addReference (ns : Option String) (d : Direction) (connector : String)
    (node : Element) {q : Element → Bool} (hq : ∀ x : Element, x.localName = d.name → q x = false) :
    (addReference ns d connector node).elements.filter q = node.elements.filter q :=
  Element.filter_elements_insertBefore _ _ _ (hq _ (localName_reference ns d connector))

lemma sameButLists_addReference (ns : Option String) (d : Direction) (connector : String)
    (node : Element) : SameButLists node (addReference ns d connector node) :=
  ⟨Element.sameTag_insertBefore _ _ _,
    fun _ hq => filter_addReference ns d connector node fun x hx => hq x ⟨d, hx⟩⟩

lemma listed_addReference_of_ne (ns : Option String) {d d' : Direction} (h : d ≠ d')
    (connector : String) (node : Element) :
    listed d' (addReference ns d connector node) = listed d' node := by
  refine listed_eq_of_filter_eq (filter_addReference ns d connector node fun x hx => ?_)
  rw [hx]
  revert h
  cases d <;> cases d' <;> decide

/-- Adding several connectors adds each of them. -/
lemma listed_foldl_addReference (ns : Option String) (d : Direction) (connectors : List String)
    (node : Element) :
    (listed d (connectors.foldl (fun e c => addReference ns d c e) node)).Perm
      (connectors.map Text.trim ++ listed d node) := by
  induction connectors generalizing node with
  | nil => exact List.Perm.refl _
  | cons c cs ih =>
    rw [List.foldl_cons]
    refine (ih _).trans (((listed_addReference ns d c node).append_left _).trans ?_)
    exact List.perm_middle

lemma filter_foldl_addReference (ns : Option String) (d : Direction) (connectors : List String)
    (node : Element) {q : Element → Bool} (hq : ∀ x : Element, x.localName = d.name → q x = false) :
    (connectors.foldl (fun e c => addReference ns d c e) node).elements.filter q
      = node.elements.filter q := by
  induction connectors generalizing node with
  | nil => rfl
  | cons c cs ih => rw [List.foldl_cons, ih, filter_addReference ns d c node hq]

lemma sameTag_foldl_addReference (ns : Option String) (d : Direction) (connectors : List String)
    (node : Element) :
    SameTag node (connectors.foldl (fun e c => addReference ns d c e) node) := by
  induction connectors generalizing node with
  | nil => exact SameTag.refl _
  | cons c cs ih => exact (sameButLists_addReference ns d c node).toSameTag.trans (ih _)

/-- A list with a connector more is in line with that connector more. -/
lemma Lists.add (ns : Option String) {d : Direction} {expected : List String} {node : Element}
    {connector : String} (h : Lists d expected node) (hfresh : connector ∉ expected)
    (ht : Text.IsTrimmed connector) :
    Lists d (expected ++ [connector]) (addReference ns d connector node) := by
  have hperm := listed_addReference ns d connector node
  rw [show Text.trim connector = connector from ht] at hperm
  constructor
  · refine hperm.nodup_iff.mpr (List.nodup_cons.mpr ⟨?_, h.1⟩)
    rwa [h.2]
  · intro c
    rw [hperm.mem_iff, List.mem_cons, h.2, List.mem_append, List.mem_singleton, or_comm]

/-- A connector more in one list leaves the other in line. -/
lemma Lists.add_of_ne (ns : Option String) {d d' : Direction} {expected : List String}
    {node : Element} (connector : String) (h : Lists d expected node) (hne : d' ≠ d) :
    Lists d expected (addReference ns d' connector node) := by
  rwa [Lists, listed_addReference_of_ne ns hne]

/-! ### Dropping references -/

/-- The texts of the references in a content. -/
def referencesIn (d : Direction) (cs : List (Content Element)) : List String :=
  ((elementsIn cs).filter fun e => e.localName == d.name).map Element.text

lemma listed_eq (d : Direction) (node : Element) : listed d node = referencesIn d node.children :=
  rfl

@[simp] lemma referencesIn_nil (d : Direction) : referencesIn d [] = [] := rfl

@[simp] lemma referencesIn_text (d : Direction) (s : String) (cs : List (Content Element)) :
    referencesIn d (.text s :: cs) = referencesIn d cs := rfl

lemma referencesIn_element (d : Direction) (e : Element) (cs : List (Content Element)) :
    referencesIn d (.element e :: cs)
      = if e.localName = d.name then e.text :: referencesIn d cs else referencesIn d cs := by
  by_cases h : e.localName = d.name <;> simp [referencesIn, h]

/-- The references that are kept are those expected that have not come before. -/
lemma mem_referencesIn_keepReferences (d : Direction) (expected seen : List String)
    (cs : List (Content Element)) (r : String) :
    r ∈ referencesIn d (keepReferences d expected seen cs) ↔
      r ∈ referencesIn d cs ∧ r ∈ expected ∧ r ∉ seen := by
  induction cs generalizing seen with
  | nil => simp [keepReferences]
  | cons c cs ih =>
    cases c with
    | text s => simpa [keepReferences] using ih seen
    | element e =>
      by_cases hname : e.localName = d.name
      · by_cases hkeep : e.text ∈ expected ∧ e.text ∉ seen
        · simp only [keepReferences, hname, ne_eq, not_true_eq_false, if_false, hkeep,
            not_false_eq_true, and_self, if_true, referencesIn_element, List.mem_cons, ih]
          constructor
          · rintro (rfl | ⟨hr, he, hs⟩)
            · exact ⟨Or.inl rfl, hkeep⟩
            · exact ⟨Or.inr hr, he, fun h => hs (Or.inr h)⟩
          · rintro ⟨rfl | hr, he, hs⟩
            · exact Or.inl rfl
            · by_cases hre : r = e.text
              · exact Or.inl hre
              · exact Or.inr ⟨hr, he, fun h => h.elim hre hs⟩
        · simp only [keepReferences, hname, ne_eq, not_true_eq_false, if_false, hkeep,
            referencesIn_element, if_true, List.mem_cons, ih]
          constructor
          · rintro ⟨hr, h⟩
            exact ⟨Or.inr hr, h⟩
          · rintro ⟨rfl | hr, h⟩
            · exact absurd h hkeep
            · exact ⟨hr, h⟩
      · simp only [keepReferences, hname, ne_eq, not_false_eq_true, if_true,
          referencesIn_element, if_false, ih]

/-- No reference is kept twice. -/
lemma nodup_referencesIn_keepReferences (d : Direction) (expected seen : List String)
    (cs : List (Content Element)) :
    (referencesIn d (keepReferences d expected seen cs)).Nodup := by
  induction cs generalizing seen with
  | nil => simp [keepReferences]
  | cons c cs ih =>
    cases c with
    | text s => simpa [keepReferences] using ih seen
    | element e =>
      by_cases hname : e.localName = d.name
      · by_cases hkeep : e.text ∈ expected ∧ e.text ∉ seen
        · simp only [keepReferences, hname, ne_eq, not_true_eq_false, if_false, hkeep,
            not_false_eq_true, and_self, if_true, referencesIn_element, List.nodup_cons, ih,
            and_true, mem_referencesIn_keepReferences]
          rintro ⟨-, -, hseen⟩
          exact hseen (List.mem_cons_self ..)
        · simp only [keepReferences, hname, ne_eq, not_true_eq_false, if_false, hkeep, ih]
      · simp only [keepReferences, hname, ne_eq, not_false_eq_true, if_true,
          referencesIn_element, if_false, ih]

/-- Dropping references leaves everything of another name alone. -/
lemma filter_keepReferences (d : Direction) (expected seen : List String)
    (cs : List (Content Element)) {q : Element → Bool}
    (hq : ∀ x : Element, x.localName = d.name → q x = false) :
    (elementsIn (keepReferences d expected seen cs)).filter q = (elementsIn cs).filter q := by
  induction cs generalizing seen with
  | nil => rfl
  | cons c cs ih =>
    cases c with
    | text s => simpa [keepReferences] using ih seen
    | element e =>
      by_cases hname : e.localName = d.name
      · by_cases hkeep : e.text ∈ expected ∧ e.text ∉ seen
        · simp [keepReferences, hname, hkeep, hq e hname, ih]
        · simp only [keepReferences, hname, ne_eq, not_true_eq_false, if_false, hkeep, ih,
            Xml.elementsIn_element, hq e hname, List.filter_cons, Bool.false_eq_true]
      · simp [keepReferences, hname, List.filter_cons, ih]

/-- References that are all expected and come once are all kept. -/
lemma keepReferences_eq_self (d : Direction) (expected : List String) {seen : List String}
    {cs : List (Content Element)} (hn : (referencesIn d cs).Nodup)
    (h : ∀ r ∈ referencesIn d cs, r ∈ expected ∧ r ∉ seen) :
    keepReferences d expected seen cs = cs := by
  induction cs generalizing seen with
  | nil => rfl
  | cons c cs ih =>
    cases c with
    | text s => simpa [keepReferences] using ih hn h
    | element e =>
      by_cases hname : e.localName = d.name
      · rw [referencesIn_element, if_pos hname] at hn h
        obtain ⟨he, hs⟩ := h e.text (List.mem_cons_self ..)
        rw [keepReferences, if_neg (not_not.mpr hname), if_pos ⟨he, hs⟩,
          ih (List.nodup_cons.mp hn).2]
        intro r hr
        refine ⟨(h r (List.mem_cons_of_mem _ hr)).1, ?_⟩
        rw [List.mem_cons, not_or]
        refine ⟨?_, (h r (List.mem_cons_of_mem _ hr)).2⟩
        rintro rfl
        exact (List.nodup_cons.mp hn).1 hr
      · rw [referencesIn_element, if_neg hname] at hn h
        rw [keepReferences, if_pos hname, ih hn h]

/-- Nothing is reported of references that are all expected and come once. -/
lemma staleReferences_eq_nil {expected seen references : List String} (hn : references.Nodup)
    (h : ∀ r ∈ references, r ∈ expected ∧ r ∉ seen) :
    staleReferences expected seen references = [] := by
  induction references generalizing seen with
  | nil => rfl
  | cons r rs ih =>
    rw [staleReferences, if_pos (h r (List.mem_cons_self ..)), ih (List.nodup_cons.mp hn).2]
    intro s hs
    refine ⟨(h s (List.mem_cons_of_mem _ hs)).1, ?_⟩
    rw [List.mem_cons, not_or]
    refine ⟨?_, (h s (List.mem_cons_of_mem _ hs)).2⟩
    rintro rfl
    exact (List.nodup_cons.mp hn).1 hs

/-! ### One list brought in line -/

/-- A list that is in line stays as it is. -/
lemma syncReferences_of_lists (ns : Option String) {d : Direction} {expected : List String}
    {node : Element} (h : Lists d expected node) :
    syncReferences ns d expected node = (node, []) := by
  have hkept : ∀ r ∈ listed d node, r ∈ expected ∧ r ∉ ([] : List String) :=
    fun r hr => ⟨(h.2 r).mp hr, List.not_mem_nil⟩
  have hmissing : expected.filter (· ∉ listed d node) = [] := by
    rw [List.filter_eq_nil_iff]
    intro r hr
    simpa using (h.2 r).mpr hr
  simp only [syncReferences, hmissing, staleReferences_eq_nil h.1 hkept,
    keepReferences_eq_self d expected h.1 hkept, List.foldl_nil, List.map_nil, List.append_nil]
  cases node
  rfl

/-- Every text that a node lists is trimmed. -/
lemma trim_of_mem_listed {d : Direction} {node : Element} {r : String} (h : r ∈ listed d node) :
    Text.trim r = r := by
  obtain ⟨e, -, rfl⟩ := List.mem_map.mp h
  exact Text.trim_trim _

/-- The references that stay are those that were listed and are expected. -/
lemma mem_listed_keepReferences (d : Direction) (expected : List String) (node : Element)
    (r : String) :
    r ∈ listed d { node with children := keepReferences d expected [] node.children } ↔
      r ∈ listed d node ∧ r ∈ expected := by
  rw [listed_eq, mem_referencesIn_keepReferences, ← listed_eq]
  simp

/-- The list of a node after it has been brought in line: what was missing, and what has stayed. -/
lemma listed_syncReferences (ns : Option String) (d : Direction) (expected : List String)
    (node : Element) :
    (listed d (syncReferences ns d expected node).1).Perm
      ((expected.filter (· ∉ listed d node)).map Text.trim ++
        listed d { node with children := keepReferences d expected [] node.children }) :=
  listed_foldl_addReference ..

lemma mem_listed_syncReferences (ns : Option String) (d : Direction) (expected : List String)
    (node : Element) (r : String) :
    r ∈ listed d (syncReferences ns d expected node).1 ↔ ∃ c ∈ expected, Text.trim c = r := by
  rw [(listed_syncReferences ns d expected node).mem_iff, List.mem_append,
    mem_listed_keepReferences, List.mem_map]
  constructor
  · rintro (⟨c, hc, rfl⟩ | ⟨hr, hexpected⟩)
    · exact ⟨c, List.mem_of_mem_filter hc, rfl⟩
    · exact ⟨r, hexpected, trim_of_mem_listed hr⟩
  · rintro ⟨c, hc, rfl⟩
    by_cases hmem : c ∈ listed d node
    · rw [trim_of_mem_listed hmem]
      exact Or.inr ⟨hmem, hc⟩
    · exact Or.inl ⟨c, List.mem_filter.mpr ⟨hc, by simpa using hmem⟩, rfl⟩

lemma nodup_listed_syncReferences_iff (ns : Option String) (d : Direction)
    (expected : List String) (node : Element) :
    (listed d (syncReferences ns d expected node).1).Nodup ↔
      expected.Pairwise fun c c' =>
        Text.trim c = Text.trim c' → c = c' ∧ c ∈ listed d node := by
  have hkept : (listed d { node with
      children := keepReferences d expected [] node.children }).Nodup :=
    nodup_referencesIn_keepReferences ..
  rw [(listed_syncReferences ns d expected node).nodup_iff, List.nodup_append',
    and_iff_right hkept, List.Nodup, List.pairwise_map, List.pairwise_filter]
  constructor
  · rintro ⟨hmissing, hdisjoint⟩
    -- a missing connector has no trimmed id that stays
    have hstays : ∀ c ∈ expected, c ∉ listed d node → ∀ c' ∈ expected, c' ∈ listed d node →
        Text.trim c ≠ c' := by
      rintro c hc hnew _ hc' hold rfl
      refine hdisjoint (List.mem_map_of_mem (List.mem_filter.mpr ⟨hc, by simpa using hnew⟩)) ?_
      exact (mem_listed_keepReferences ..).mpr ⟨hold, hc'⟩
    refine hmissing.imp_of_mem fun {c c'} hc hc' hne heq => ?_
    by_cases hold : c ∈ listed d node
    · by_cases hold' : c' ∈ listed d node
      · rw [trim_of_mem_listed hold, trim_of_mem_listed hold'] at heq
        exact ⟨heq, hold⟩
      · rw [trim_of_mem_listed hold] at heq
        exact absurd heq.symm (hstays c' hc' hold' c hc hold)
    · by_cases hold' : c' ∈ listed d node
      · rw [trim_of_mem_listed hold'] at heq
        exact absurd heq (hstays c hc hold c' hc' hold')
      · exact absurd heq (hne (by simpa using hold) (by simpa using hold'))
  · intro hpairs
    refine ⟨hpairs.imp fun {c c'} h hnew _ heq => ?_, fun r hr hr' => ?_⟩
    · exact absurd (h heq).2 (by simpa using hnew)
    · obtain ⟨c, hc, rfl⟩ := List.mem_map.mp hr
      obtain ⟨hc, hnew⟩ := List.mem_filter.mp hc
      obtain ⟨hold, hexpected⟩ := (mem_listed_keepReferences ..).mp hr'
      have hne : c ≠ Text.trim c := by
        intro h
        rw [← h] at hold
        exact absurd hold (by simpa using hnew)
      have hsymm : Std.Symm fun c c' : String =>
          Text.trim c = Text.trim c' → c = c' ∧ c ∈ listed d node :=
        ⟨fun a b h heq => ⟨(h heq.symm).1.symm, (h heq.symm).1 ▸ (h heq.symm).2⟩⟩
      exact hne (hpairs.forall hc hexpected hne (Text.trim_trim c).symm).1

/-- What becomes of a list. The connectors expected are listed by their trimmed ids. None is listed
twice, unless two of them have the same trimmed id and were not listed by one id before. -/
structure Aligned (expected before after : List String) : Prop where
  mem_iff : ∀ r, r ∈ after ↔ ∃ c ∈ expected, Text.trim c = r
  nodup_iff : after.Nodup ↔
    expected.Pairwise fun c c' => Text.trim c = Text.trim c' → c = c' ∧ c ∈ before

lemma aligned_syncReferences (ns : Option String) (d : Direction) (expected : List String)
    (node : Element) :
    Aligned expected (listed d node) (listed d (syncReferences ns d expected node).1) :=
  ⟨mem_listed_syncReferences ns d expected node, nodup_listed_syncReferences_iff ns d expected node⟩

/-- A list is in line afterwards exactly if the ids of the connectors expected are trimmed and those
that several of them share were listed before. -/
lemma Aligned.lists_iff {d : Direction} {expected before : List String} {node : Element}
    (h : Aligned expected before (listed d node)) :
    Lists d expected node ↔ (∀ c ∈ expected, Text.IsTrimmed c) ∧
      expected.Pairwise fun c c' => c = c' → c ∈ before := by
  rw [Lists, h.nodup_iff]
  constructor
  · rintro ⟨hpairs, hmem⟩
    refine ⟨fun c hc => ?_, hpairs.imp fun hpair heq => (hpair (congrArg Text.trim heq)).2⟩
    obtain ⟨c', -, rfl⟩ := (h.mem_iff c).mp ((hmem c).mpr hc)
    exact Text.trim_trim c'
  · rintro ⟨htrim, hpairs⟩
    refine ⟨hpairs.imp_of_mem fun {c c'} hc hc' hpair heq => ?_, fun r => ?_⟩
    · rw [htrim c hc, htrim c' hc'] at heq
      exact ⟨heq, hpair heq⟩
    · rw [h.mem_iff]
      constructor
      · rintro ⟨c, hc, rfl⟩
        rwa [htrim c hc]
      · exact fun hr => ⟨r, hr, htrim r hr⟩

/-- Bringing one list in line leaves everything of another name alone. -/
lemma filter_syncReferences (ns : Option String) (d : Direction) (expected : List String)
    (node : Element) {q : Element → Bool} (hq : ∀ x : Element, x.localName = d.name → q x = false) :
    (syncReferences ns d expected node).1.elements.filter q = node.elements.filter q := by
  simp only [syncReferences]
  rw [filter_foldl_addReference ns d _ _ hq]
  exact filter_keepReferences d expected [] node.children hq

lemma sameButLists_syncReferences (ns : Option String) (d : Direction) (expected : List String)
    (node : Element) : SameButLists node (syncReferences ns d expected node).1 := by
  refine ⟨?_, fun _ hq => filter_syncReferences ns d expected node fun x hx => hq x ⟨d, hx⟩⟩
  have hkept : SameTag node
      { node with children := keepReferences d expected [] node.children } := ⟨rfl, rfl⟩
  exact hkept.trans (sameTag_foldl_addReference ns d _ _)

/-- Bringing one list in line leaves the other alone. -/
lemma listed_syncReferences_of_ne (ns : Option String) {d d' : Direction} (h : d ≠ d')
    (expected : List String) (node : Element) :
    listed d' (syncReferences ns d expected node).1 = listed d' node := by
  refine listed_eq_of_filter_eq (filter_syncReferences ns d expected node fun x hx => ?_)
  rw [hx]
  revert h
  cases d <;> cases d' <;> decide

/-- Nothing that is done to a list is fatal. -/
lemma hasFatal_syncReferences (ns : Option String) (d : Direction) (expected : List String)
    (node : Element) : (syncReferences ns d expected node).2.hasFatal = false := by
  rw [hasFatal_eq_false_iff]
  intro x hx
  rcases List.mem_append.mp hx with hx | hx
  · obtain ⟨r, -, rfl⟩ := List.mem_map.mp hx
    exact isFatal_repaired ..
  · obtain ⟨r, -, rfl⟩ := List.mem_map.mp hx
    exact isFatal_repaired ..

/-! ### Both lists of a node -/

/-- The ids of connectors. -/
def connectorIds (connectors : List (String × String × String)) : List String :=
  connectors.map (·.1)

lemma expected_sublist (d : Direction) (connectors : List (String × String × String))
    (node : String) : (d.expected connectors node).Sublist (connectorIds connectors) :=
  List.filter_sublist.map _

lemma expected_append (d : Direction) (connectors : List (String × String × String))
    (c : String × String × String) (node : String) :
    d.expected (connectors ++ [c]) node
      = d.expected connectors node ++ d.expected [c] node := by
  simp [Direction.expected]

/-- Brings one list of a node in line with the connectors. -/
def syncList (ns : Option String) (connectors : List (String × String × String)) (d : Direction)
    (node : Element) : Element × Report :=
  syncReferences ns d (d.expected connectors (attrOrEmpty node "id")) node

/-- Brings both lists of a node in line with the connectors. -/
def syncNode (ns : Option String) (connectors : List (String × String × String)) :
    Element → Element × Report :=
  andThen (syncList ns connectors .incoming) (syncList ns connectors .outgoing)

lemma syncNodes_eq (process : Element) :
    syncNodes process
      = onFlowNodes (syncNode process.namespacePart (connectorsOf process)) process := rfl

lemma sameButLists_syncNode (ns : Option String) (connectors : List (String × String × String))
    (node : Element) : SameButLists node (syncNode ns connectors node).1 :=
  (sameButLists_syncReferences ..).trans (sameButLists_syncReferences ..)

lemma hasFatal_syncNode (ns : Option String) (connectors : List (String × String × String))
    (node : Element) : (syncNode ns connectors node).2.hasFatal = false := by
  rw [syncNode, hasFatal_andThen_eq, syncList, hasFatal_syncReferences, syncList,
    hasFatal_syncReferences, Bool.or_false]

lemma syncNode_of_lists (ns : Option String) {connectors : List (String × String × String)}
    {node : Element}
    (h : ∀ d : Direction, Lists d (d.expected connectors (attrOrEmpty node "id")) node) :
    syncNode ns connectors node = (node, []) := by
  have hfirst : syncList ns connectors .incoming node = (node, []) :=
    syncReferences_of_lists ns (h .incoming)
  rw [syncNode, andThen_of_fixed hfirst]
  exact syncReferences_of_lists ns (h .outgoing)

/-- Both lists are brought in line, and neither touches the other. -/
lemma aligned_syncNode (ns : Option String) (connectors : List (String × String × String))
    (node : Element) (d : Direction) :
    Aligned (d.expected connectors (attrOrEmpty node "id")) (listed d node)
      (listed d (syncNode ns connectors node).1) := by
  cases d with
  | incoming =>
    rw [syncNode, andThen_fst, syncList,
      listed_syncReferences_of_ne ns (by decide : Direction.outgoing ≠ .incoming)]
    exact aligned_syncReferences ..
  | outgoing =>
    have hid : attrOrEmpty (syncList ns connectors .incoming node).1 "id" = attrOrEmpty node "id" :=
      attrOrEmpty_of_sameTag (sameButLists_syncReferences ..).toSameTag "id"
    have hfirst : listed .outgoing (syncList ns connectors .incoming node).1
        = listed .outgoing node := listed_syncReferences_of_ne ns (by decide) _ node
    rw [syncNode, andThen_fst, ← hid, ← hfirst]
    exact aligned_syncReferences ..

/-- Both lists are in line afterwards, if the connectors have distinct, trimmed ids. -/
lemma lists_syncNode (ns : Option String) {connectors : List (String × String × String)}
    (node : Element) (hn : (connectorIds connectors).Nodup)
    (ht : ∀ c ∈ connectorIds connectors, Text.IsTrimmed c) (d : Direction) :
    Lists d (d.expected connectors (attrOrEmpty node "id")) (syncNode ns connectors node).1 := by
  have hsub := expected_sublist d connectors (attrOrEmpty node "id")
  rw [(aligned_syncNode ns connectors node d).lists_iff]
  refine ⟨fun c hc => ht c (hsub.subset hc), ?_⟩
  exact (hn.sublist hsub).imp fun hne heq => absurd heq hne

/-! ### The connectors of a process -/

/-- Both ends of a connector are among the nodes. -/
def Joins (nodes : List String) (e : Element) : Prop :=
  attrOrEmpty e "sourceRef" ∈ nodes ∧ attrOrEmpty e "targetRef" ∈ nodes

lemma danglingEnd?_eq_none_iff {nodes : List String} {e : Element} :
    danglingEnd? nodes e = none ↔ (isConnector e → Joins nodes e) := by
  unfold danglingEnd? Joins
  by_cases hc : isConnector e <;> simp [hc]

/-- Dropping connectors leaves the flow nodes alone. -/
lemma flowNodes_dropConnectors (process : Element) :
    (dropConnectors process).1.elements.filter isFlowNode
      = process.elements.filter isFlowNode := by
  rw [dropConnectors, removeElements, Element.elements_keepElements, List.filter_filter]
  refine List.filter_congr fun e _ => ?_
  by_cases hnode : isFlowNode e
  · have hnone : danglingEnd? (nodeIds process) e = none := by
      refine danglingEnd?_eq_none_iff.mpr fun hc => ?_
      rw [Bpmn.isFlowNode_of_isConnector hc] at hnode
      exact absurd hnode Bool.false_ne_true
    simp [hnode, hnone]
  · simp [hnode]

lemma connectorsOf_dropConnectors_sublist (process : Element) :
    (connectorsOf (dropConnectors process).1).Sublist (connectorsOf process) := by
  rw [dropConnectors, removeElements, connectorsOf, Element.elements_keepElements, connectorsOf]
  exact (List.filter_sublist.filter _).filterMap _

/-! ### A process in line -/

/-- Every connector joins two nodes, and every node lists its connectors. -/
structure Linked (process : Element) : Prop where
  joins : ∀ e ∈ process.elements, isConnector e → Joins (nodeIds process) e
  lists : ∀ e ∈ process.elements, isFlowNode e → ∀ d : Direction,
    Lists d (d.expected (connectorsOf process) (attrOrEmpty e "id")) e

/-- What the first check does to the process. -/
def linkProcess : Element → Element × Report := andThen dropConnectors syncNodes

/-- Nothing that is done to bring a process in line is fatal. -/
lemma hasFatal_linkProcess (process : Element) : (linkProcess process).2.hasFatal = false := by
  rw [linkProcess, hasFatal_andThen_eq, Bool.or_eq_false_iff]
  constructor
  · rw [hasFatal_eq_false_iff]
    intro x hx
    obtain ⟨e, -, hx⟩ := List.mem_filterMap.mp hx
    simp only [danglingEnd?] at hx
    split at hx
    · obtain rfl := Option.some.inj hx
      exact isFatal_repaired ..
    · exact absurd hx (by simp)
  · rw [syncNodes_eq, hasFatal_eq_false_iff]
    intro x hx
    obtain ⟨e, -, hx⟩ := List.mem_flatMap.mp hx
    exact hasFatal_eq_false_iff.mp (hasFatal_syncNode _ _ e) x hx

/-- A process in line stays as it is. -/
theorem linkProcess_of_linked {process : Element} (h : Linked process) :
    linkProcess process = (process, []) := by
  have hdrop : dropConnectors process = (process, []) :=
    removeElements_of_fixed fun e he => danglingEnd?_eq_none_iff.mpr (h.joins e he)
  rw [linkProcess, andThen_of_fixed hdrop, syncNodes_eq]
  exact onFlowNodes_of_fixed fun e he hnode => syncNode_of_lists _ (h.lists e he hnode)

lemma sameTag_linkProcess (process : Element) : SameTag process (linkProcess process).1 :=
  (Element.sameTag_keepElements ..).trans (sameTag_onFlowNodes _)

/-- The flow nodes are the same but for their lists. -/
lemma flowNodes_linkProcess (process : Element) :
    (linkProcess process).1.elements.filter isFlowNode
      = (process.elements.filter isFlowNode).map fun e =>
          (syncNode process.namespacePart (connectorsOf (dropConnectors process).1) e).1 := by
  have htag : ∀ e, SameTag e (syncNode (dropConnectors process).1.namespacePart
      (connectorsOf (dropConnectors process).1) e).1 :=
    fun e => (sameButLists_syncNode ..).toSameTag
  rw [linkProcess, andThen_fst, syncNodes_eq, flowNodes_onFlowNodes htag,
    flowNodes_dropConnectors]
  rfl

/-- The connectors are those that were not dropped. -/
lemma connectors_linkProcess (process : Element) :
    (linkProcess process).1.elements.filter isConnector
      = (dropConnectors process).1.elements.filter isConnector :=
  connectors_onFlowNodes (fun _ => (sameButLists_syncNode ..).toSameTag) _

lemma connectorsOf_linkProcess (process : Element) :
    connectorsOf (linkProcess process).1 = connectorsOf (dropConnectors process).1 := by
  rw [connectorsOf, connectors_linkProcess, connectorsOf]

lemma nodeIds_linkProcess (process : Element) :
    nodeIds (linkProcess process).1 = nodeIds process := by
  rw [nodeIds, flowNodes_linkProcess, List.filterMap_map, nodeIds]
  refine List.filterMap_congr fun e _ => ?_
  exact (sameButLists_syncNode ..).attr_eq "id"

/-- A process is in line afterwards, if its connectors have distinct, trimmed ids. -/
theorem linked_linkProcess {process : Element} (hn : (connectorIds (connectorsOf process)).Nodup)
    (ht : ∀ c ∈ connectorIds (connectorsOf process), Text.IsTrimmed c) :
    Linked (linkProcess process).1 := by
  have hsub : (connectorIds (connectorsOf (dropConnectors process).1)).Sublist
      (connectorIds (connectorsOf process)) := (connectorsOf_dropConnectors_sublist process).map _
  constructor
  · intro e he hc
    have hmem : e ∈ (dropConnectors process).1.elements.filter isConnector := by
      rw [← connectors_linkProcess]
      exact List.mem_filter.mpr ⟨he, hc⟩
    have hkept := (List.mem_filter.mp hmem).1
    rw [dropConnectors, removeElements, Element.elements_keepElements, List.mem_filter,
      Option.isNone_iff_eq_none] at hkept
    rw [nodeIds_linkProcess]
    exact danglingEnd?_eq_none_iff.mp hkept.2 hc
  · intro e he hnode d
    have hmem : e ∈ (linkProcess process).1.elements.filter isFlowNode :=
      List.mem_filter.mpr ⟨he, hnode⟩
    rw [flowNodes_linkProcess] at hmem
    obtain ⟨node, -, rfl⟩ := List.mem_map.mp hmem
    rw [connectorsOf_linkProcess, attrOrEmpty_of_sameTag (sameButLists_syncNode ..).toSameTag]
    exact lists_syncNode _ node (hn.sublist hsub) (fun c hc => ht c (hsub.subset hc)) d

end IntegrationFlow.Repair
