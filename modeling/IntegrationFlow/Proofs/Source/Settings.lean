import Mathlib
import IntegrationFlow.Proofs.Element
import IntegrationFlow.Proofs.Graph.NodeId
import IntegrationFlow.Proofs.OrderedMap
import IntegrationFlow.Source.Configuration

/-!
# Values that settings keep

The settings of an element hold the attributes and the texts of its whole tree, each by a key made
of the names on the way to it. As long as names hold no dots, a key tells the child elements that
lead to its value, so two values can only have one key within an element: an attribute has the key
of the text of a child that goes by its name and has no sibling by that name, and the text of the
outermost element has the key of an attribute `text`. There, and nowhere else, values are lost.
-/

namespace IntegrationFlow.Source

open Xml (Element Content elementsIn localPart)

/-! ### The values of a tree -/

/-- The attributes of an element that do not declare a namespace. -/
def keptAttributes (e : Element) : List (String × String) :=
  e.attributes.filter fun a => !isNamespaceDeclaration a.1

/-- The local names of these attributes. -/
def attributeNames (e : Element) : List String := (keptAttributes e).map fun a => localPart a.1

/-- The values in the tag and in the text of an element. -/
def ownValues (e : Element) : List Setting :=
  (keptAttributes e).map (fun a => .literal a.2) ++ if e.text = "" then [] else [.literal e.text]

/-- The values of an element and of all that is below it, in the order of the document. -/
def treeValues (e : Element) : List Setting := (e :: e.descendants).flatMap ownValues

lemma treeValues_eq (e : Element) : treeValues e = ownValues e ++ e.elements.flatMap treeValues := by
  rw [treeValues, List.flatMap_cons, e.descendants_eq_flatMap, List.flatMap_assoc]
  rfl

/-! ### Child elements and their segments -/

/-- Child elements with the segments that they add to a path. -/
def placed (names : List String) : List String → List Element → List (String × Element)
  | _, [] => []
  | before, c :: cs =>
    (segmentOf names before c.localName, c) :: placed names (c.localName :: before) cs

/-- The local names of the child elements. -/
def elementNames (e : Element) : List String := e.elements.map Element.localName

/-- The child elements of an element with their segments. -/
def placedChildren (e : Element) : List (String × Element) := placed (elementNames e) [] e.elements

lemma map_snd_placed (names before : List String) (cs : List Element) :
    (placed names before cs).map Prod.snd = cs := by
  induction cs generalizing before with
  | nil => rfl
  | cons c cs ih => rw [placed, List.map_cons, ih]

lemma map_snd_placedChildren (e : Element) : (placedChildren e).map Prod.snd = e.elements :=
  map_snd_placed ..

lemma exists_of_mem_placed {names before : List String} {cs : List Element} {c : String × Element}
    (h : c ∈ placed names before cs) :
    c.2 ∈ cs ∧ ∃ passed, c.1 = segmentOf names (passed ++ before) c.2.localName := by
  induction cs generalizing before with
  | nil => exact absurd h List.not_mem_nil
  | cons x cs ih =>
    rcases List.mem_cons.mp h with rfl | h
    · exact ⟨List.mem_cons_self .., [], rfl⟩
    · obtain ⟨hmem, passed, hsegment⟩ := ih h
      exact ⟨List.mem_cons_of_mem _ hmem, passed ++ [x.localName], by simpa using hsegment⟩

/-- The entries of a tree: the attributes and the text of the element, and then what is below it. -/
lemma entries_eq (path : String) (e : Element) :
    entries {} path e = attributeEntries {} path e.attributes ++ textEntries {} path e.text ++
      (placedChildren e).flatMap fun c => entries {} (joinPath path c.1) c.2 := by
  have hchildren : ∀ (names before : List String) (cs : List (Content Element)),
      childEntries {} path names before cs
        = (placed names before (elementsIn cs)).flatMap
            fun c => entries {} (joinPath path c.1) c.2 := by
    intro names before cs
    induction cs generalizing before with
    | nil => rw [childEntries, Xml.elementsIn_nil, placed, List.flatMap_nil]
    | cons c cs ih =>
      cases c with
      | text s => rw [childEntries, ih, Xml.elementsIn_text]
      | element c =>
        simp only [childEntries, if_true, ih, Xml.elementsIn_element, placed, List.flatMap_cons]
  have hnames : childNames {} e = elementNames e := by simp [childNames, elementNames]
  obtain ⟨name, attributes, children, span⟩ := e
  rw [entries, hchildren, hnames]
  rfl

/-- Every value of a tree is entered once. -/
lemma values_entries (path : String) (e : Element) :
    (entries {} path e).map Prod.snd = treeValues e := by
  induction e using Element.induction generalizing path with
  | step e ih =>
    rw [entries_eq, treeValues_eq, ← map_snd_placedChildren e, List.flatMap_map]
    have hown : (attributeEntries {} path e.attributes ++ textEntries {} path e.text).map Prod.snd
        = ownValues e := by
      simp only [attributeEntries, textEntries, ownValues, keptAttributes, String.isEmpty_iff]
      by_cases htext : e.text = "" <;> simp [htext, Function.comp_def]
    rw [List.map_append, hown, List.map_flatMap]
    refine congrArg _ (List.flatMap_congr fun c hc => ih c.2 ?_ _)
    exact (exists_of_mem_placed hc).1

/-! ### Paths -/

/-- What stands before the segment that a path is continued with. -/
def lead (path : String) : List Char := if path = "" then [] else path.toList ++ ['.']

lemma toList_joinPath (path segment : String) :
    (joinPath path segment).toList = lead path ++ segment.toList := by
  rw [joinPath, lead]
  by_cases h : path = "" <;> simp [h]

lemma joinPath_injective (path : String) : Function.Injective (joinPath path) := by
  intro s s' h
  have hlist := congrArg String.toList h
  rw [toList_joinPath, toList_joinPath] at hlist
  exact String.toList_inj.mp (List.append_cancel_left hlist)

lemma joinPath_eq_empty_iff {path segment : String} :
    joinPath path segment = "" ↔ path = "" ∧ segment = "" := by
  rw [← String.toList_inj, toList_joinPath, lead]
  by_cases h : path = "" <;> simp [h]

/-- `key` is a path or continues it. -/
def Under (path key : String) : Prop :=
  ∃ rest : List Char, key.toList = path.toList ++ rest ∧ ∀ c ∈ rest.head?, c = '.'

lemma Under.refl (path : String) : Under path path := ⟨[], by simp, by simp⟩

lemma under_joinPath {path : String} (hpath : path ≠ "") (segment : String) :
    Under path (joinPath path segment) := by
  refine ⟨'.' :: segment.toList, ?_, by simp⟩
  rw [toList_joinPath, lead, if_neg hpath]
  simp

lemma Under.trans {path path' key : String} (h : Under path path') (h' : Under path' key) :
    Under path key := by
  obtain ⟨rest, hpath, hrest⟩ := h
  obtain ⟨rest', hkey, hrest'⟩ := h'
  refine ⟨rest ++ rest', by rw [hkey, hpath, List.append_assoc], ?_⟩
  cases rest with
  | nil => exact hrest'
  | cons c rest => exact hrest

/-- Nothing continues a path without being longer. -/
lemma not_under_joinPath_self {path : String} (hpath : path ≠ "") (segment : String) :
    ¬ Under (joinPath path segment) path := by
  rintro ⟨rest, hkey, -⟩
  have hlen := congrArg List.length hkey
  rw [toList_joinPath, lead, if_neg hpath] at hlen
  simp only [List.length_append, List.length_singleton] at hlen
  omega

/-- What stands before a separator is found again. -/
lemma takeWhile_ne_append {sep : Char} {cs rest : List Char} (hsep : sep ∉ cs)
    (hrest : ∀ c ∈ rest.head?, c = sep) : (cs ++ rest).takeWhile (fun c => c ≠ sep) = cs := by
  have hall : ∀ c ∈ cs, decide (c ≠ sep) = true := fun c hc =>
    decide_eq_true fun heq => hsep (heq ▸ hc)
  rw [List.takeWhile_append_of_pos hall]
  cases rest with
  | nil => simp
  | cons c rest => simp [hrest c rfl]

/-- A key tells the segment that it continues a path with. -/
lemma segment_eq_of_under {path segment segment' key : String} (hdot : '.' ∉ segment.toList)
    (hdot' : '.' ∉ segment'.toList) (h : Under (joinPath path segment) key)
    (h' : Under (joinPath path segment') key) : segment = segment' := by
  obtain ⟨rest, hkey, hrest⟩ := h
  obtain ⟨rest', hkey', hrest'⟩ := h'
  rw [hkey, toList_joinPath, toList_joinPath, List.append_assoc, List.append_assoc] at hkey'
  have heq := List.append_cancel_left hkey'
  rw [← String.toList_inj, ← takeWhile_ne_append hdot hrest, ← takeWhile_ne_append hdot' hrest',
    heq]

/-! ### Names -/

/-- A name that is one segment of a path and bears no number. -/
def IsPlain (name : String) : Prop := name ≠ "" ∧ '.' ∉ name.toList ∧ '[' ∉ name.toList

instance : DecidablePred IsPlain := fun _ => inferInstanceAs (Decidable (_ ∧ _))

/-- The keys below an element are made of plain names. -/
def PlainTree (e : Element) : Prop :=
  ∀ x ∈ e :: e.descendants, ∀ name ∈ attributeNames x ++ elementNames x, IsPlain name

/-- A name with a number. -/
def numberedName (name : String) (n : Nat) : String := name ++ "[" ++ toString n ++ "]"

lemma segmentOf_eq (names before : List String) (name : String) :
    segmentOf names before name
      = if 1 < names.count name then numberedName name (before.count name) else name := rfl

lemma takeWhile_numberedName {name : String} (h : '[' ∉ name.toList) (n : Nat) :
    (numberedName name n).toList.takeWhile (fun c => c ≠ '[') = name.toList := by
  have hname : (numberedName name n).toList
      = name.toList ++ '[' :: ((toString n).toList ++ [']']) := by simp [numberedName]
  rw [hname, takeWhile_ne_append h (by simp)]

lemma numberedName_inj {name name' : String} (h : '[' ∉ name.toList) (h' : '[' ∉ name'.toList)
    {n n' : Nat} (heq : numberedName name n = numberedName name' n') : name = name' ∧ n = n' := by
  have hname : name = name' := by
    rw [← String.toList_inj, ← takeWhile_numberedName h n, heq, takeWhile_numberedName h']
  subst hname
  refine ⟨rfl, Nat.repr_inj.mp ?_⟩
  exact String.append_right_inj _ |>.mp (String.append_left_inj _ |>.mp heq)

lemma mem_numberedName (name : String) (n : Nat) : '[' ∈ (numberedName name n).toList := by
  simp [numberedName]

section Segment

variable {names before : List String} {name : String}

lemma dot_notMem_segmentOf (h : IsPlain name) : '.' ∉ (segmentOf names before name).toList := by
  rw [segmentOf_eq]
  split
  · intro hmem
    have hdigits : '.' ∈ (toString (before.count name)).toList := by
      simpa [numberedName, h.2.1] using hmem
    exact absurd (isDigit_of_mem_toString hdigits) (by decide)
  · exact h.2.1

lemma segmentOf_ne_empty (h : IsPlain name) : segmentOf names before name ≠ "" := by
  rw [segmentOf_eq]
  split
  · intro heq
    have hmem := mem_numberedName name (before.count name)
    rw [heq] at hmem
    simp at hmem
  · exact h.1

/-- Only a child without a sibling of its name adds a plain name to a path. -/
lemma segmentOf_eq_iff {name' : String} (h' : IsPlain name') :
    segmentOf names before name = name' ↔ names.count name ≤ 1 ∧ name = name' := by
  rw [segmentOf_eq]
  split
  · refine ⟨fun heq => ?_, fun h => by omega⟩
    exact absurd (heq ▸ mem_numberedName name _) h'.2.2
  · exact ⟨fun heq => ⟨by omega, heq⟩, And.right⟩

end Segment

/-- No two child elements add the same segment to a path. -/
lemma nodup_placed {names : List String} (before : List String) {cs : List Element}
    (hnames : ∀ name, (cs.map Element.localName).count name ≤ names.count name)
    (hplain : ∀ c ∈ cs, IsPlain c.localName) : ((placed names before cs).map Prod.fst).Nodup := by
  induction cs generalizing before with
  | nil => exact List.nodup_nil
  | cons c cs ih =>
    obtain ⟨hc, hcs⟩ := List.forall_mem_cons.mp hplain
    simp only [List.map_cons, List.count_cons] at hnames
    rw [placed, List.map_cons, List.nodup_cons]
    refine ⟨fun hmem => ?_, ih _ (fun name => (Nat.le_add_right ..).trans (hnames name)) hcs⟩
    obtain ⟨c', hc', hfirst⟩ := List.mem_map.mp hmem
    obtain ⟨hmem', passed, hsegment⟩ := exists_of_mem_placed hc'
    have heq := hsegment.symm.trans hfirst
    have hplain' := hcs c'.2 hmem'
    simp only at heq
    by_cases hmany : 1 < names.count c'.2.localName
    · -- both bear a number, and the later one counts the earlier one
      have hmany' : 1 < names.count c.localName := by
        by_contra hone
        rw [segmentOf_eq, if_pos hmany, segmentOf_eq, if_neg hone] at heq
        exact hc.2.2 (heq ▸ mem_numberedName _ _)
      rw [segmentOf_eq, if_pos hmany, segmentOf_eq, if_pos hmany'] at heq
      obtain ⟨hname, hcount⟩ := numberedName_inj hplain'.2.2 hc.2.2 heq
      rw [hname, List.count_append, List.count_cons_self] at hcount
      omega
    · -- the names of both are among all names
      rw [segmentOf_eq _ _ c'.2.localName, if_neg hmany, eq_comm, segmentOf_eq_iff hplain'] at heq
      have hcount : 0 < (cs.map Element.localName).count c'.2.localName :=
        List.count_pos_iff.mpr (List.mem_map_of_mem hmem')
      have htotal := hnames c'.2.localName
      rw [heq.2, if_pos (by simp)] at htotal
      omega

/-! ### Keys -/

/-- The key of the text of an element. -/
def textKey (path : String) : String := if path = "" then "text" else path

lemma keys_attributeEntries (path : String) (e : Element) :
    OrderedMap.keys (attributeEntries {} path e.attributes)
      = (attributeNames e).map (joinPath path) := by
  simp [OrderedMap.keys, attributeEntries, attributeNames, keptAttributes, Function.comp_def]

lemma keys_textEntries (path text : String) :
    OrderedMap.keys (textEntries {} path text) = if text = "" then [] else [textKey path] := by
  simp only [textEntries, textKey, String.isEmpty_iff]
  split <;> rfl

/-- The keys below the child elements of an element. -/
def childKeys (path : String) (e : Element) : List String :=
  (placedChildren e).flatMap fun c => OrderedMap.keys (entries {} (joinPath path c.1) c.2)

lemma keys_entries (path : String) (e : Element) :
    OrderedMap.keys (entries {} path e) = (attributeNames e).map (joinPath path) ++
      (if e.text = "" then [] else [textKey path]) ++ childKeys path e := by
  rw [← keys_attributeEntries, ← keys_textEntries, entries_eq, childKeys]
  simp only [OrderedMap.keys, List.map_append, List.map_flatMap]

/-- The keys of a tree continue the path of its element. -/
lemma under_of_mem_entries {path key : String} {e : Element} (hpath : path ≠ "")
    (h : key ∈ OrderedMap.keys (entries {} path e)) : Under path key := by
  induction e using Element.induction generalizing path with
  | step e ih =>
    rw [keys_entries, textKey, if_neg hpath] at h
    rcases List.mem_append.mp h with h | h
    · rcases List.mem_append.mp h with h | h
      · obtain ⟨name, -, rfl⟩ := List.mem_map.mp h
        exact under_joinPath hpath name
      · split at h
        · exact absurd h List.not_mem_nil
        · exact List.mem_singleton.mp h ▸ Under.refl path
    · obtain ⟨c, hc, h⟩ := List.mem_flatMap.mp h
      have hunder := under_joinPath hpath c.1
      have hjoin : joinPath path c.1 ≠ "" := fun heq => hpath (joinPath_eq_empty_iff.mp heq).1
      exact hunder.trans (ih c.2 (exists_of_mem_placed hc).1 hjoin h)

/-- Only a text goes by the path of an element. -/
lemma path_notMem_keys {path : String} (hpath : path ≠ "") (e : Element) :
    path ∉ (attributeNames e).map (joinPath path) ++ childKeys path e := by
  intro h
  rcases List.mem_append.mp h with h | h
  · obtain ⟨name, -, heq⟩ := List.mem_map.mp h
    have hrefl := Under.refl (joinPath path name)
    nth_rewrite 2 [heq] at hrefl
    exact not_under_joinPath_self hpath name hrefl
  · obtain ⟨c, -, h⟩ := List.mem_flatMap.mp h
    refine not_under_joinPath_self hpath c.1 (under_of_mem_entries ?_ h)
    exact fun heq => hpath (joinPath_eq_empty_iff.mp heq).1

lemma path_mem_entries_iff {path : String} (hpath : path ≠ "") (e : Element) :
    path ∈ OrderedMap.keys (entries {} path e) ↔ e.text ≠ "" := by
  have hnot := path_notMem_keys hpath e
  rw [List.mem_append, not_or] at hnot
  rw [keys_entries, textKey, if_neg hpath, List.mem_append, List.mem_append]
  by_cases htext : e.text = "" <;> simp [htext, hnot]

/-! ### Keys of two values -/

/-- The names that go by the path of an element are distinct, and none of them is the name of a
child element with a text, unless the child has siblings of its name. -/
def NamesApart (names : List String) (e : Element) : Prop :=
  names.Nodup ∧ ∀ c ∈ e.elements, (elementNames e).count c.localName = 1 → c.text ≠ "" →
    c.localName ∉ names

instance (names : List String) (e : Element) : Decidable (NamesApart names e) :=
  inferInstanceAs (Decidable (_ ∧ _))

section Children

variable (path : String) {e : Element} (hplain : ∀ c ∈ e.elements, IsPlain c.localName)
include hplain

lemma dot_notMem_of_mem_placed {c : String × Element} (hc : c ∈ placedChildren e) :
    '.' ∉ c.1.toList ∧ joinPath path c.1 ≠ "" := by
  obtain ⟨hmem, passed, hsegment⟩ := exists_of_mem_placed hc
  rw [hsegment]
  refine ⟨dot_notMem_segmentOf (hplain _ hmem), fun heq => ?_⟩
  exact segmentOf_ne_empty (hplain _ hmem) (joinPath_eq_empty_iff.mp heq).2

/-- A plain name is also the key of the text of a child that alone has it. -/
lemma joinPath_mem_childKeys_iff {name : String} (hname : IsPlain name) :
    joinPath path name ∈ childKeys path e ↔
      ∃ c ∈ e.elements, (elementNames e).count c.localName = 1 ∧ c.text ≠ "" ∧
        c.localName = name := by
  have hcount : ∀ c ∈ e.elements, 0 < (elementNames e).count c.localName := fun c hc =>
    List.count_pos_iff.mpr (List.mem_map_of_mem hc)
  rw [childKeys, List.mem_flatMap]
  constructor
  · rintro ⟨c, hc, hkey⟩
    obtain ⟨hdot, hjoin⟩ := dot_notMem_of_mem_placed path hplain hc
    have hsegment := segment_eq_of_under hdot hname.2.1 (under_of_mem_entries hjoin hkey)
      (Under.refl _)
    rw [← hsegment, path_mem_entries_iff hjoin] at hkey
    obtain ⟨hmem, passed, heq⟩ := exists_of_mem_placed hc
    rw [heq, segmentOf_eq_iff hname] at hsegment
    have := hcount c.2 hmem
    exact ⟨c.2, hmem, by omega, hkey, hsegment.2⟩
  · rintro ⟨c, hc, hone, htext, rfl⟩
    rw [← map_snd_placedChildren] at hc
    obtain ⟨⟨segment, c⟩, hplaced, rfl⟩ := List.mem_map.mp hc
    obtain ⟨-, passed, heq⟩ := exists_of_mem_placed hplaced
    obtain ⟨-, hjoin⟩ := dot_notMem_of_mem_placed path hplain hplaced
    rw [(segmentOf_eq_iff hname).mpr ⟨hone.le, rfl⟩] at heq
    refine ⟨_, hplaced, ?_⟩
    rw [← heq, path_mem_entries_iff hjoin]
    exact htext

/-- Keys below different child elements differ. -/
lemma nodup_childKeys_iff : (childKeys path e).Nodup ↔
    ∀ c ∈ placedChildren e, (OrderedMap.keys (entries {} (joinPath path c.1) c.2)).Nodup := by
  rw [childKeys, List.nodup_flatMap, and_iff_left]
  have hnodup := nodup_placed [] (fun _ => le_rfl) hplain
  refine (List.pairwise_map.mp hnodup).imp_of_mem fun {c c'} hc hc' hne => ?_
  rw [Function.onFun, List.disjoint_left]
  intro key hkey hkey'
  obtain ⟨hdot, hjoin⟩ := dot_notMem_of_mem_placed path hplain hc
  obtain ⟨hdot', hjoin'⟩ := dot_notMem_of_mem_placed path hplain hc'
  exact hne (segment_eq_of_under hdot hdot' (under_of_mem_entries hjoin hkey)
    (under_of_mem_entries hjoin' hkey'))

lemma nodup_append_childKeys_iff {names : List String} (hnames : ∀ name ∈ names, IsPlain name) :
    (names.map (joinPath path) ++ childKeys path e).Nodup ↔ NamesApart names e ∧
      ∀ c ∈ placedChildren e, (OrderedMap.keys (entries {} (joinPath path c.1) c.2)).Nodup := by
  have hdisjoint : (names.map (joinPath path)).Disjoint (childKeys path e) ↔
      ∀ c ∈ e.elements, (elementNames e).count c.localName = 1 → c.text ≠ "" →
        c.localName ∉ names := by
    rw [List.disjoint_left, List.forall_mem_map]
    constructor
    · intro h c hc hone htext hmem
      exact h _ hmem ((joinPath_mem_childKeys_iff path hplain (hnames _ hmem)).mpr
        ⟨c, hc, hone, htext, rfl⟩)
    · intro h name hmem hkey
      obtain ⟨c, hc, hone, htext, rfl⟩ :=
        (joinPath_mem_childKeys_iff path hplain (hnames _ hmem)).mp hkey
      exact h c hc hone htext hmem
  rw [List.nodup_append', List.nodup_map_iff (joinPath_injective path),
    nodup_childKeys_iff path hplain, hdisjoint, NamesApart]
  tauto

end Children

section PlainTree

variable {e : Element}

lemma PlainTree.of_mem_attributeNames (h : PlainTree e) :
    ∀ name ∈ attributeNames e, IsPlain name := fun name hname =>
  h e (List.mem_cons_self ..) name (List.mem_append_left _ hname)

lemma PlainTree.localName (h : PlainTree e) : ∀ c ∈ e.elements, IsPlain c.localName := fun _ hc =>
  h e (List.mem_cons_self ..) _ (List.mem_append_right _ (List.mem_map_of_mem hc))

lemma PlainTree.child (h : PlainTree e) {c : Element} (hc : c ∈ e.elements) : PlainTree c := by
  intro x hx
  refine h x (List.mem_cons_of_mem _ ?_)
  rw [e.descendants_eq_flatMap]
  exact List.mem_flatMap.mpr ⟨c, hc, hx⟩

/-- What can be told of each child element from all below it can be told of the element. -/
lemma forall_placedChildren_iff {P : Element → Prop} {Q : String × Element → Prop}
    (h : ∀ c ∈ placedChildren e, Q c ↔ ∀ x ∈ c.2 :: c.2.descendants, P x) :
    (∀ c ∈ placedChildren e, Q c) ↔ ∀ x ∈ e.descendants, P x := by
  rw [forall₂_congr h, e.descendants_eq_flatMap, ← map_snd_placedChildren e, List.flatMap_map]
  simp only [List.mem_flatMap]
  exact ⟨fun h x ⟨c, hc, hx⟩ => h c hc x hx, fun h c hc x hx => h x ⟨c, hc, hx⟩⟩

/-- The keys of a tree that is not outermost are distinct if names are apart in each element. -/
lemma nodup_keys_entries_iff {path : String} (hpath : path ≠ "") (hplain : PlainTree e) :
    (OrderedMap.keys (entries {} path e)).Nodup ↔
      ∀ x ∈ e :: e.descendants, NamesApart (attributeNames x) x := by
  induction e using Element.induction generalizing path with
  | step e ih =>
    -- the text goes by a key that nothing else has
    have htext : (OrderedMap.keys (entries {} path e)).Nodup ↔
        ((attributeNames e).map (joinPath path) ++ childKeys path e).Nodup := by
      rw [keys_entries, textKey, if_neg hpath]
      split
      · rw [List.append_nil]
      · rw [List.append_assoc, List.singleton_append, List.nodup_middle, List.nodup_cons,
          and_iff_right (path_notMem_keys hpath e)]
    rw [htext, nodup_append_childKeys_iff path hplain.localName hplain.of_mem_attributeNames,
      List.forall_mem_cons, and_congr_right_iff]
    refine fun _ => forall_placedChildren_iff fun c hc => ?_
    have hmem := (exists_of_mem_placed hc).1
    exact ih c.2 hmem (dot_notMem_of_mem_placed path hplain.localName hc).2 (hplain.child hmem)

/-- The names that go by the empty path: those of the attributes, and `text` for the text. -/
def outermostNames (e : Element) : List String :=
  attributeNames e ++ if e.text = "" then [] else ["text"]

/-- In the outermost element the text goes by a name, as attributes do. -/
lemma nodup_keys_outermost_iff (hplain : PlainTree e) :
    (OrderedMap.keys (entries {} "" e)).Nodup ↔
      NamesApart (outermostNames e) e ∧ ∀ x ∈ e.descendants, NamesApart (attributeNames x) x := by
  have hnames : ∀ name ∈ outermostNames e, IsPlain name := by
    intro name hname
    rcases List.mem_append.mp hname with hname | hname
    · exact hplain.of_mem_attributeNames name hname
    · split at hname
      · exact absurd hname List.not_mem_nil
      · exact List.mem_singleton.mp hname ▸ (by decide)
  have hkeys : OrderedMap.keys (entries {} "" e)
      = (outermostNames e).map (joinPath "") ++ childKeys "" e := by
    rw [keys_entries, outermostNames, List.map_append]
    split <;> rfl
  rw [hkeys, nodup_append_childKeys_iff "" hplain.localName hnames, and_congr_right_iff]
  refine fun _ => forall_placedChildren_iff fun c hc => ?_
  have hmem := (exists_of_mem_placed hc).1
  exact nodup_keys_entries_iff (dot_notMem_of_mem_placed "" hplain.localName hc).2
    (hplain.child hmem)

end PlainTree

/-! ### Values that are kept -/

/-- Every attribute and every text of a tree is entered once, whatever its names are. Where these
are plain, all of them are kept exactly if the attributes of each element have distinct names, if no
attribute has the name of an only child with a text, and if the text of the outermost element meets
neither an attribute nor an only child that is named `text`. -/
theorem settings_keep_values_iff (e : Element) :
    (entries {} "" e).map Prod.snd = treeValues e ∧
    (PlainTree e →
      (OrderedMap.values (settingsOf {} e) = treeValues e ↔
        NamesApart (outermostNames e) e ∧
          ∀ x ∈ e.descendants, NamesApart (attributeNames x) x)) := by
  refine ⟨values_entries "" e, fun hplain => ?_⟩
  rw [settingsOf, ← values_entries "" e, OrderedMap.values_ofList_eq_iff,
    nodup_keys_outermost_iff hplain]

/-- A connection with a text below it and two headers. -/
def connectionTree : Element :=
  { name := "cfg", attributes := [("host", "h"), ("xmlns:x", "urn:x")],
    children := [
      .element
        { name := "x:connection", attributes := [("port", "8081"), ("text", "on")],
          children := [.element (.ofText "timeout" " 30 ")] },
      .element { name := "header", attributes := [("name", "a")], children := [.text "b"] },
      .element { name := "header", attributes := [("header", "c")] },
      .text "d"] }

theorem connectionTree_kept : PlainTree connectionTree ∧
    OrderedMap.values (settingsOf {} connectionTree)
      = ["h", "d", "8081", "on", "30", "a", "b", "c"].map .literal := by
  have hplain : PlainTree connectionTree := by
    unfold PlainTree
    decide +kernel
  obtain ⟨-, hkept⟩ := settings_keep_values_iff connectionTree
  refine ⟨hplain, ((hkept hplain).mpr ?_).trans ?_⟩
  · decide +kernel
  · decide +kernel

/-- An attribute and an only child of one name. -/
def shadowedTree : Element :=
  { name := "cfg", attributes := [("b", "1")], children := [.element (.ofText "b" "t")] }

/-- A name with a dot beside a child of a child. -/
def dottedTree : Element :=
  { name := "cfg",
    children := [.element (.ofText "a.b" "1"),
      .element { name := "a", children := [.element (.ofText "b" "2")] }] }

theorem shadowedTree_loses :
    (attributeNames shadowedTree).Nodup ∧
    treeValues shadowedTree = [.literal "1", .literal "t"] ∧
    settingsOf {} shadowedTree = [("b", .literal "t")] ∧
    treeValues dottedTree = [.literal "1", .literal "2"] ∧
    settingsOf {} dottedTree = [("a.b", .literal "2")] := by
  decide +kernel

end IntegrationFlow.Source
