import Mathlib
import IntegrationFlow.Proofs.Repair.Diagram
import IntegrationFlow.Proofs.Repair.Reference
import IntegrationFlow.Repair.Completion

/-!
# Completed nodes

A node is complete when it states a type whose element has its tag, an activity, and one value that
is not blank for every property that the type cannot do without. The third check leaves complete
nodes as they are and completes all others, unless it reports that it cannot.
-/

namespace IntegrationFlow.Repair

open Xml (Element SameTag)
open Bpmn (Document Template property properties childText isFlowNode standardTemplate?)

/-! ### Values of properties -/

/-- The values of a key come once each. -/
lemma nodup_distinctValues (ext : Element) (key : String) : (distinctValues ext key).Nodup := by
  unfold distinctValues
  refine List.foldlRecOn _ _ List.nodup_nil fun seen hseen p _ => ?_
  split
  · exact hseen
  · exact List.Nodup.append hseen (List.nodup_singleton _) (by simpa using ‹_›)

/-- The values of a key are those that stand with it. -/
lemma mem_distinctValues {ext : Element} {key v : String} :
    v ∈ distinctValues ext key ↔ (key, v) ∈ properties ext := by
  have hfold : ∀ (ps : List (String × String)) (seen : List String),
      v ∈ ps.foldl (fun seen p => if p.2 ∈ seen then seen else seen ++ [p.2]) seen ↔
        v ∈ seen ∨ ∃ p ∈ ps, p.2 = v := by
    intro ps
    induction ps with
    | nil => simp
    | cons p ps ih =>
      intro seen
      rw [List.foldl_cons, ih]
      by_cases hp : p.2 ∈ seen
      · simp only [hp, if_true, List.exists_mem_cons_iff]
        grind
      · simp only [hp, if_false, List.exists_mem_cons_iff, List.mem_append, List.mem_singleton]
        grind
  rw [distinctValues, hfold]
  simp

/-- `v` is the value of a key, and the only one. -/
def HoldsOnly (ext : Element) (key v : String) : Prop :=
  (key, v) ∈ properties ext ∧ ∀ w, (key, w) ∈ properties ext → w = v

lemma distinctValues_eq_singleton_iff {ext : Element} {key v : String} :
    distinctValues ext key = [v] ↔ HoldsOnly ext key v := by
  constructor
  · intro h
    simp [HoldsOnly, ← mem_distinctValues, h]
  · rintro ⟨hv, honly⟩
    refine List.perm_singleton.mp ((List.perm_ext_iff_of_nodup (nodup_distinctValues ext key)
      (List.nodup_singleton v)).mpr fun w => ?_)
    rw [mem_distinctValues, List.mem_singleton]
    exact ⟨honly w, fun h => h ▸ hv⟩

lemma distinctValues_eq_nil_iff {ext : Element} {key : String} :
    distinctValues ext key = [] ↔ ∀ v, (key, v) ∉ properties ext := by
  simp [List.eq_nil_iff_forall_not_mem, mem_distinctValues]

/-! ### Properties after an edit -/

lemma localPart_key : Xml.localPart "key" = "key" := by decide

lemma localPart_value : Xml.localPart "value" = "value" := by decide

/-- What is written as a property is read as one. -/
lemma childText_property (key v : String) :
    childText (property key v) "key" = Text.trim key ∧
      childText (property key v) "value" = Text.trim v := by
  have helements : (property key v).elements = [.ofText "key" key, .ofText "value" v] := rfl
  constructor
  · simp [childText, Element.find, helements, Element.localName_ofText, localPart_key]
  · simp [childText, Element.find, helements, Element.localName_ofText, localPart_key,
      localPart_value]

lemma localName_property (key v : String) : (property key v).localName = "property" := by
  change Xml.localPart "ifl:property" = "property"
  decide

lemma properties_push (ext : Element) (key v : String) :
    properties (ext.push (property key v)) = properties ext ++ [(Text.trim key, Text.trim v)] := by
  simp only [properties, Element.findAll, Element.elements_push, List.filter_append,
    List.map_append]
  simp [localName_property, childText_property]

lemma sameTag_setValue (v : String) (entry : Element) : SameTag entry (setValue v entry) := by
  unfold setValue
  split
  · exact Element.sameTag_modifyFirst ..
  · exact Element.sameTag_push ..

/-- Setting a value leaves the key alone. -/
lemma find_key_setValue (v : String) (entry : Element) :
    (setValue v entry).find "key" = entry.find "key" := by
  unfold setValue
  split
  · rename_i h
    obtain ⟨x, hx⟩ := Option.isSome_iff_exists.mp h
    have hname : x.localName = "value" := by simpa using List.find?_some hx
    refine Element.find?_modifyFirst_of_not hx ?_ ?_
    · simp [hname]
    · have hname' : ({ x with children := [.text v] } : Element).localName = "value" := hname
      simp [hname']
  · rw [Element.find, Element.elements_push, List.find?_append]
    simp [Element.find, Element.localName_ofText, localPart_value]

/-- The value that was set is the value. -/
lemma childText_setValue (v : String) (entry : Element) :
    childText (setValue v entry) "value" = Text.trim v := by
  unfold setValue
  split
  · rename_i h
    obtain ⟨x, hx⟩ := Option.isSome_iff_exists.mp h
    have hname : x.localName = "value" := by simpa using List.find?_some hx
    have hfind : (entry.modifyFirst (fun e => e.localName == "value") fun e =>
        { e with children := [.text v] }).find "value"
        = some { x with children := [.text v] } := by
      refine Element.find?_modifyFirst hx ?_
      have hname' : ({ x with children := [.text v] } : Element).localName = "value" := hname
      simp [hname']
    rw [childText, hfind]
    simp
  · rename_i h
    rw [Option.not_isSome_iff_eq_none, Element.find] at h
    rw [childText, Element.find, Element.elements_push, List.find?_append, h]
    simp [Element.localName_ofText, localPart_value]

/-- Setting the value of a key changes the values of that key and no other. -/
lemma properties_setPropertyValue {key : String} (hkey : key ≠ "") (v : String) (ext : Element) :
    properties (setPropertyValue key v ext)
      = (properties ext).map fun p => if p.1 = key then (p.1, Text.trim v) else p := by
  have htag : ∀ e, SameTag e (if e.localName == "property" &&
      (e.find "key").map Element.text == some key then setValue v e else e) := by
    intro e
    split
    · exact sameTag_setValue v e
    · exact SameTag.refl e
  have hq : ∀ {e e' : Element}, SameTag e e' →
      (e'.localName == "property") = (e.localName == "property") := by
    intro e e' h
    rw [h.localName_eq]
  rw [properties, Element.findAll, setPropertyValue, Element.elements_mapElements,
    Bpmn.filter_map_of_sameTag hq fun e _ => htag e, List.map_map, properties, Element.findAll,
    List.map_map]
  refine List.map_congr_left fun e he => ?_
  have hname := (List.mem_filter.mp he).2
  simp only [Function.comp, hname, Bool.true_and]
  -- a property without a key counts as one with an empty key, which is not the one that is set
  have hiff : ((e.find "key").map Element.text == some key) = (childText e "key" = key : Prop) := by
    rw [childText]
    cases e.find "key" with
    | none => simpa using hkey.symm
    | some k => simp
  simp only [hiff]
  split
  · rw [childText_setValue]
    simp only [childText, find_key_setValue]
  · rfl

/-- A key has the same values in `ext'` as in `ext`. -/
def SameValues (ext ext' : Element) (key : String) : Prop :=
  ∀ v, (key, v) ∈ properties ext' ↔ (key, v) ∈ properties ext

lemma SameValues.trans {ext ext' ext'' : Element} {key : String} (h : SameValues ext ext' key)
    (h' : SameValues ext' ext'' key) : SameValues ext ext'' key :=
  fun v => (h' v).trans (h v)

lemma HoldsOnly.of_sameValues {ext ext' : Element} {key v : String} (h : HoldsOnly ext key v)
    (hsame : SameValues ext ext' key) : HoldsOnly ext' key v :=
  ⟨(hsame v).mpr h.1, fun w hw => h.2 w ((hsame w).mp hw)⟩

/-- A property that is added is the only one of its key, if there was none. -/
lemma holdsOnly_push {ext : Element} {key v : String} (hkey : Text.IsTrimmed key)
    (hv : Text.IsTrimmed v) (h : distinctValues ext key = []) :
    HoldsOnly (ext.push (property key v)) key v := by
  rw [distinctValues_eq_nil_iff] at h
  simp [HoldsOnly, properties_push, show Text.trim key = key from hkey,
    show Text.trim v = v from hv, h]

lemma sameValues_push (ext : Element) {key k : String} (v : String) (hkey : Text.IsTrimmed key)
    (hk : k ≠ key) : SameValues ext (ext.push (property key v)) k := by
  intro w
  simp [properties_push, show Text.trim key = key from hkey, hk]

/-! ### Templates -/

/-- What every standard template fulfils: its type is found by its name, no mandatory key is empty,
comes twice or is one that every node has, and every default passes the check that it is for. -/
structure Sound (t : Template) : Prop where
  standard : standardTemplate? t.target = some t
  named : TargetType.ofName? t.target.name = some t.target
  tag_mem : t.tag ∈ Bpmn.flowNodeTags
  trimmed : Text.IsTrimmed t.target.name ∧ Text.IsTrimmed t.activityType
  nodup : (t.mandatory.map (·.1)).Nodup
  keys : ∀ m ∈ t.mandatory, m.1 ∉ ["", "componentType", "activityType"]
  entries_trimmed : ∀ m ∈ t.mandatory, Text.IsTrimmed m.1 ∧ Text.IsTrimmed m.2
  filled : ∀ m ∈ t.mandatory, Text.isBlank m.2 = false

lemma sound_of_standardTemplate? {target : TargetType} {t : Template}
    (h : standardTemplate? target = some t) : Sound t := by
  cases target <;> simp only [standardTemplate?, Option.some.injEq, reduceCtorEq] at h <;>
    subst h <;> constructor <;> decide

lemma target_of_standardTemplate? {target : TargetType} {t : Template}
    (h : standardTemplate? target = some t) : t.target = target := by
  cases target <;> simp only [standardTemplate?, Option.some.injEq, reduceCtorEq] at h <;>
    subst h <;> rfl

/-- Every type that can be named has a standard template. -/
lemma exists_standardTemplate?_of_ofName? {s : String} {target : TargetType}
    (h : TargetType.ofName? s = some target) :
    target.name = s ∧ ∃ t, standardTemplate? target = some t := by
  refine ⟨by simpa using List.find?_some h, ?_⟩
  have hall : ∀ target ∈ TargetType.all, (standardTemplate? target).isSome := by decide
  exact Option.isSome_iff_exists.mp (hall target (List.mem_of_find?_eq_some h))

/-! ### One property -/

/-- A key has one value, and that is not blank. -/
def Filled (ext : Element) (key : String) : Prop :=
  ∃ v, HoldsOnly ext key v ∧ Text.isBlank v = false

lemma Filled.of_sameValues {ext ext' : Element} {key : String} (h : Filled ext key)
    (hsame : SameValues ext ext' key) : Filled ext' key := by
  obtain ⟨v, hv, hblank⟩ := h
  exact ⟨v, hv.of_sameValues hsame, hblank⟩

section CompleteProperty

variable {id key default : String} {ext : Element}

/-- A property that has a value stays as it is. -/
lemma completeProperty_of_filled (h : Filled ext key) :
    completeProperty id key default ext = (ext, []) := by
  obtain ⟨v, hv, hblank⟩ := h
  simp [completeProperty, distinctValues_eq_singleton_iff.mpr hv, hblank]

/-- A property has a value afterwards, if nothing fatal is reported. -/
lemma filled_completeProperty (hne : key ≠ "") (hkey : Text.IsTrimmed key)
    (hdefault : Text.IsTrimmed default) (hblank : Text.isBlank default = false)
    (h : (completeProperty id key default ext).2.hasFatal = false) :
    Filled (completeProperty id key default ext).1 key := by
  unfold completeProperty at h ⊢
  split at h
  · rename_i hnil
    exact ⟨default, holdsOnly_push hkey hdefault hnil, hblank⟩
  · rename_i single hsingle
    have honly := distinctValues_eq_singleton_iff.mp hsingle
    split
    · -- every value of the key becomes the default
      refine ⟨default, ?_, hblank⟩
      rw [HoldsOnly, properties_setPropertyValue hne,
        show Text.trim default = default from hdefault]
      refine ⟨List.mem_map.mpr ⟨(key, single), honly.1, if_pos rfl⟩, fun w hw => ?_⟩
      obtain ⟨p, -, hp⟩ := List.mem_map.mp hw
      split at hp
      · exact (congrArg Prod.snd hp).symm
      · rename_i hpkey
        exact absurd (congrArg Prod.fst hp) hpkey
    · rename_i hfull
      exact ⟨single, honly, Bool.eq_false_iff.mpr hfull⟩
  · simp [Report.hasFatal, Diagnostic.isFatal, defect] at h

/-- No other key is concerned. -/
lemma sameValues_completeProperty (hne : key ≠ "") (hkey : Text.IsTrimmed key) {k : String}
    (hk : k ≠ key) : SameValues ext (completeProperty id key default ext).1 k := by
  unfold completeProperty
  split
  · exact sameValues_push ext default hkey hk
  · split
    · intro v
      rw [properties_setPropertyValue hne, List.mem_map]
      constructor
      · rintro ⟨p, hp, heq⟩
        split at heq
        · rename_i hpkey
          exact absurd ((congrArg Prod.fst heq).symm.trans hpkey) hk
        · exact heq ▸ hp
      · exact fun hv => ⟨(k, v), hv, if_neg hk⟩
    · exact fun v => Iff.rfl
  · exact fun v => Iff.rfl

end CompleteProperty

/-! ### All mandatory properties -/

/-- Completing properties one after the other leaves each of them with a value, and touches no
other key. -/
lemma filled_inSequence {id : String} {ms : List (String × String)} {ext : Element}
    (hnodup : (ms.map (·.1)).Nodup)
    (hms : ∀ m ∈ ms, m.1 ≠ "" ∧ (Text.IsTrimmed m.1 ∧ Text.IsTrimmed m.2) ∧
      Text.isBlank m.2 = false)
    (h : (inSequence (ms.map fun m => completeProperty id m.1 m.2) ext).2.hasFatal = false) :
    (∀ m ∈ ms, Filled (inSequence (ms.map fun m => completeProperty id m.1 m.2) ext).1 m.1) ∧
      ∀ k ∉ ms.map (·.1),
        SameValues ext (inSequence (ms.map fun m => completeProperty id m.1 m.2) ext).1 k := by
  induction ms generalizing ext with
  | nil => exact ⟨by simp, fun k _ v => Iff.rfl⟩
  | cons m ms ih =>
    obtain ⟨hfirst, hrest⟩ := hasFatal_andThen h
    obtain ⟨hm, hnodup⟩ := List.nodup_cons.mp hnodup
    obtain ⟨hne, ⟨hkey, hdefault⟩, hblank⟩ := hms m (List.mem_cons_self ..)
    obtain ⟨hfilled, hsame⟩ := ih hnodup (fun m' hm' => hms m' (List.mem_cons_of_mem _ hm')) hrest
    rw [List.map_cons, inSequence, andThen_fst]
    constructor
    · intro m' hm'
      rcases List.mem_cons.mp hm' with rfl | hm'
      · -- the rest of the sequence leaves the key that was completed first alone
        exact (filled_completeProperty hne hkey hdefault hblank hfirst).of_sameValues (hsame _ hm)
      · exact hfilled m' hm'
    · intro k hk
      rw [List.map_cons, List.mem_cons, not_or] at hk
      exact (sameValues_completeProperty hne hkey hk.1).trans (hsame k hk.2)

lemma inSequence_of_filled {id : String} {ms : List (String × String)} {ext : Element}
    (h : ∀ m ∈ ms, Filled ext m.1) :
    inSequence (ms.map fun m => completeProperty id m.1 m.2) ext = (ext, []) := by
  induction ms with
  | nil => rfl
  | cons m ms ih =>
    rw [List.map_cons, inSequence,
      andThen_of_fixed (completeProperty_of_filled (h m (List.mem_cons_self ..)))]
    exact ih fun m' hm' => h m' (List.mem_cons_of_mem _ hm')

/-! ### Extensions -/

/-- An extension states the type of a template, an activity and a value for every mandatory key. -/
structure Completes (t : Template) (ext : Element) : Prop where
  type : HoldsOnly ext "componentType" t.target.name
  activity : ∃ v, ("activityType", v) ∈ properties ext
  mandatory : ∀ m ∈ t.mandatory, Filled ext m.1

section CompleteExtension

variable {id tag : String} {inferred : TargetType} {t : Template} {ext : Element}

lemma completeActivity_of_stated (h : ∃ v, ("activityType", v) ∈ properties ext) :
    completeActivity id t ext = (ext, []) := by
  obtain ⟨v, hv⟩ := h
  have hne : distinctValues ext "activityType" ≠ [] :=
    List.ne_nil_of_mem (mem_distinctValues.mpr hv)
  simp [completeActivity, hne]

lemma exists_activity_completeActivity (id : String) (ext : Element) (hs : Sound t) :
    ∃ v, ("activityType", v) ∈ properties (completeActivity id t ext).1 := by
  unfold completeActivity
  split
  · rename_i h
    exact ⟨t.activityType,
      (holdsOnly_push (by decide) hs.trimmed.2 (List.isEmpty_iff.mp h)).1⟩
  · rename_i h
    obtain ⟨v, hv⟩ := List.exists_mem_of_ne_nil _ (by simpa using h)
    exact ⟨v, mem_distinctValues.mp hv⟩

lemma sameValues_completeActivity {k : String} (hk : k ≠ "activityType") :
    SameValues ext (completeActivity id t ext).1 k := by
  unfold completeActivity
  split
  · exact sameValues_push ext t.activityType (by decide) hk
  · exact fun v => Iff.rfl

lemma completeFor_eq :
    completeFor id t
      = andThen (completeActivity id t)
          (inSequence (t.mandatory.map fun m => completeProperty id m.1 m.2)) :=
  foldl_andThen (fun m : String × String => completeProperty id m.1 m.2) t.mandatory
    (completeActivity id t)

/-- What a template asks for is there afterwards, if nothing fatal is reported. -/
lemma completes_completeFor (hs : Sound t)
    (htype : HoldsOnly ext "componentType" t.target.name)
    (h : (completeFor id t ext).2.hasFatal = false) : Completes t (completeFor id t ext).1 := by
  rw [completeFor_eq] at h ⊢
  obtain ⟨-, hmandatory⟩ := hasFatal_andThen h
  obtain ⟨hfilled, hsame⟩ := filled_inSequence hs.nodup
    (fun m hm => ⟨fun h => hs.keys m hm (by simp [h]), hs.entries_trimmed m hm, hs.filled m hm⟩)
    hmandatory
  have hother : ∀ k ∈ ["componentType", "activityType"], k ∉ t.mandatory.map (·.1) := by
    intro k hk hmem
    obtain ⟨m, hm, rfl⟩ := List.mem_map.mp hmem
    exact hs.keys m hm (List.mem_cons_of_mem _ hk)
  rw [andThen_fst]
  constructor
  · exact (htype.of_sameValues (sameValues_completeActivity (by decide))).of_sameValues
      (hsame _ (hother _ (by simp)))
  · obtain ⟨v, hv⟩ := exists_activity_completeActivity id ext hs
    exact ⟨v, (hsame _ (hother _ (by simp)) v).mpr hv⟩
  · exact hfilled

lemma completeFor_of_completes (h : Completes t ext) : completeFor id t ext = (ext, []) := by
  rw [completeFor_eq, andThen_of_fixed (completeActivity_of_stated h.activity)]
  exact inSequence_of_filled h.mandatory

/-- A complete extension stays as it is. -/
lemma completeExtension_of_completes (hs : Sound t) (htag : t.tag = tag) (h : Completes t ext) :
    completeExtension id tag inferred ext = (ext, []) := by
  have htype : settleType id tag inferred ext = .ok (t.target, ext, []) := by
    simp only [settleType, distinctValues_eq_singleton_iff.mpr h.type, hs.named]
  simp only [completeExtension, htype, hs.standard, htag, ne_eq, not_true_eq_false, if_false,
    completeFor_of_completes h, List.append_nil]

/-- The type that is settled is the one stated, and it has a template. -/
lemma holdsOnly_settleType {target : TargetType} {typed : Element} {report : Report}
    (hinf : ∃ t, standardTemplate? inferred = some t)
    (h : settleType id tag inferred ext = .ok (target, typed, report)) :
    (∃ t, standardTemplate? target = some t) ∧ HoldsOnly typed "componentType" target.name := by
  unfold settleType at h
  split at h
  · rename_i hnil
    obtain ⟨rfl, rfl, -⟩ : inferred = target ∧ ext.push _ = typed ∧ _ = report := by
      simpa using h
    obtain ⟨t, ht⟩ := hinf
    have htrim := (sound_of_standardTemplate? ht).trimmed.1
    rw [target_of_standardTemplate? ht] at htrim
    exact ⟨⟨t, ht⟩, holdsOnly_push (by decide) htrim hnil⟩
  · rename_i single hsingle
    split at h
    · rename_i named hnamed
      obtain ⟨rfl, rfl, -⟩ : named = target ∧ ext = typed ∧ [] = report := by simpa using h
      obtain ⟨hname, ht⟩ := exists_standardTemplate?_of_ofName? hnamed
      rw [hname]
      exact ⟨ht, distinctValues_eq_singleton_iff.mp hsingle⟩
    · exact absurd h (by simp)
  · exact absurd h (by simp)

/-- An extension is complete afterwards, if nothing fatal is reported. -/
lemma completes_completeExtension (hinf : ∃ t, standardTemplate? inferred = some t)
    (h : (completeExtension id tag inferred ext).2.hasFatal = false) :
    ∃ t, Sound t ∧ t.tag = tag ∧ Completes t (completeExtension id tag inferred ext).1 := by
  unfold completeExtension at h ⊢
  split at h
  · rename_i d hd
    -- every reason why the type cannot be settled is fatal
    have hfatal : d.isFatal := by
      unfold settleType at hd
      split at hd
      · simp at hd
      · split at hd
        · simp at hd
        · obtain rfl := Except.error.inj hd
          rfl
      · obtain rfl := Except.error.inj hd
        rfl
    simp [Report.hasFatal, hfatal] at h
  · rename_i target typed report hsettle
    obtain ⟨⟨t, ht⟩, htype⟩ := holdsOnly_settleType hinf hsettle
    have hs := sound_of_standardTemplate? ht
    rw [← target_of_standardTemplate? ht] at htype
    simp only [ht] at h ⊢
    split at h
    · simp [Report.hasFatal, Diagnostic.isFatal, defect] at h
    · rename_i htag
      rw [if_neg htag]
      rw [hasFatal_append, Bool.or_eq_false_iff] at h
      exact ⟨t, hs, not_not.mp htag, completes_completeFor hs htype h.2⟩

end CompleteExtension

/-! ### Completion step by step -/

/-- A step of a completion: a property is added, or a key whose only value is blank is given one. -/
inductive CompletionStep : Element → Element → Prop where
  | add {ext : Element} (key v : String) : CompletionStep ext (ext.push (property key v))
  | fill {ext : Element} {key blank : String} (v : String) (hkey : key ≠ "")
      (honly : HoldsOnly ext key blank) (hblank : Text.isBlank blank) :
      CompletionStep ext (setPropertyValue key v ext)

section Steps

open Relation (ReflTransGen)

lemma steps_completeActivity (id : String) (t : Template) (ext : Element) :
    ReflTransGen CompletionStep ext (completeActivity id t ext).1 := by
  unfold completeActivity
  split
  · exact .single (.add ..)
  · exact .refl

lemma steps_completeProperty {key : String} (hkey : key ≠ "") (id default : String)
    (ext : Element) : ReflTransGen CompletionStep ext (completeProperty id key default ext).1 := by
  unfold completeProperty
  split
  · exact .single (.add ..)
  · rename_i single hsingle
    split
    · exact .single (.fill default hkey (distinctValues_eq_singleton_iff.mp hsingle) ‹_›)
    · exact .refl
  · exact .refl

lemma steps_inSequence {id : String} {ms : List (String × String)} (hms : ∀ m ∈ ms, m.1 ≠ "")
    (ext : Element) : ReflTransGen CompletionStep ext
      (inSequence (ms.map fun m => completeProperty id m.1 m.2) ext).1 := by
  induction ms generalizing ext with
  | nil => exact .refl
  | cons m ms ih =>
    exact (steps_completeProperty (hms m (List.mem_cons_self ..)) id m.2 ext).trans
      (ih (fun m' hm' => hms m' (List.mem_cons_of_mem _ hm')) _)

lemma steps_completeFor {t : Template} (hs : Sound t) (id : String) (ext : Element) :
    ReflTransGen CompletionStep ext (completeFor id t ext).1 := by
  rw [completeFor_eq, andThen_fst]
  refine (steps_completeActivity id t ext).trans (steps_inSequence (fun m hm hempty => ?_) _)
  exact hs.keys m hm (by simp [hempty])

lemma steps_settleType {id tag : String} {inferred target : TargetType} {ext typed : Element}
    {report : Report} (h : settleType id tag inferred ext = .ok (target, typed, report)) :
    ReflTransGen CompletionStep ext typed := by
  unfold settleType at h
  split at h
  · obtain ⟨-, rfl, -⟩ : inferred = target ∧ ext.push _ = typed ∧ _ = report := by simpa using h
    exact .single (.add ..)
  · split at h
    · obtain ⟨-, rfl, -⟩ : _ = target ∧ ext = typed ∧ [] = report := by simpa using h
      exact .refl
    · exact absurd h (by simp)
  · exact absurd h (by simp)

/-- An extension is completed by such steps alone. -/
lemma steps_completeExtension (id tag : String) (inferred : TargetType) (ext : Element) :
    ReflTransGen CompletionStep ext (completeExtension id tag inferred ext).1 := by
  unfold completeExtension
  split
  · exact .refl
  · rename_i target typed report h
    split
    · exact steps_settleType h
    · rename_i t ht
      split
      · exact steps_settleType h
      · exact (steps_settleType h).trans
          (steps_completeFor (sound_of_standardTemplate? ht) id typed)

end Steps

/-! ### What extensions keep -/

/-- The values of properties hold no element with an id. -/
def PlainValues (ext : Element) : Prop :=
  ∀ p ∈ ext.findAll "property", ∀ v ∈ p.findAll "value", contentIds v.children = []

/-- `ext'` has the tag of `ext` and, where values are plain, all of its ids. -/
structure Keeps (ext ext' : Element) : Prop where
  tag : SameTag ext ext'
  plain : PlainValues ext → PlainValues ext'
  ids : PlainValues ext → idsOutsideDiagram ext ⊆ idsOutsideDiagram ext'

namespace Keeps

variable {ext ext' ext'' : Element}

lemma refl (ext : Element) : Keeps ext ext := ⟨SameTag.refl ext, id, fun _ => List.Subset.refl _⟩

lemma trans (h : Keeps ext ext') (h' : Keeps ext' ext'') : Keeps ext ext'' :=
  ⟨h.tag.trans h'.tag, fun hp => h'.plain (h.plain hp),
    fun hp => List.Subset.trans (h.ids hp) (h'.ids (h.plain hp))⟩

lemma push (ext : Element) (key v : String) : Keeps ext (ext.push (property key v)) := by
  refine ⟨Element.sameTag_push .., fun hp p hpmem => ?_, fun _ => ?_⟩
  · rw [Element.findAll, Element.elements_push, List.filter_append, List.mem_append] at hpmem
    rcases hpmem with hpmem | hpmem
    · exact hp p hpmem
    · obtain rfl := List.mem_singleton.mp (List.mem_of_mem_filter hpmem)
      intro x hx
      have helements : (property key v).elements = [.ofText "key" key, .ofText "value" v] := rfl
      rw [Element.findAll, helements, List.mem_filter] at hx
      rcases List.mem_pair.mp hx.1 with rfl | rfl <;> rfl
  · exact idsOutsideDiagram_push_subset ..

/-- Setting a value in a property whose values are plain loses no id. -/
lemma setValue_ids {p : Element} (v : String)
    (hp : ∀ x ∈ p.findAll "value", contentIds x.children = []) :
    idsOutsideDiagram p ⊆ idsOutsideDiagram (setValue v p) := by
  unfold setValue
  split
  · rename_i h
    obtain ⟨x, hx⟩ := Option.isSome_iff_exists.mp h
    refine idsOutsideDiagram_modifyFirst_subset hx ?_
    have hvalue : x ∈ p.findAll "value" :=
      List.mem_filter.mpr ⟨List.mem_of_find?_eq_some hx, by simpa using List.find?_some hx⟩
    have hplain := hp x hvalue
    rw [contentIds_eq, List.flatMap_eq_nil_iff] at hplain
    intro id hid
    rw [mem_idsOutsideDiagram] at hid ⊢
    obtain ⟨hname, hid | ⟨c, hc, hid⟩⟩ := hid
    · exact ⟨hname, Or.inl hid⟩
    · rw [hplain c hc] at hid
      exact absurd hid List.not_mem_nil
  · exact idsOutsideDiagram_push_subset ..

/-- A value that was set is plain. -/
lemma setValue_plain {p x : Element} {v : String} (hx : x ∈ (setValue v p).elements) :
    x ∈ p.elements ∨ contentIds x.children = [] := by
  unfold setValue at hx
  split at hx
  · rename_i h
    obtain ⟨y, hy⟩ := Option.isSome_iff_exists.mp h
    obtain ⟨l, r, hp, -, hf⟩ := Element.exists_elements_modifyFirst hy
    rw [hf, List.mem_append, List.mem_cons] at hx
    rw [hp, List.mem_append, List.mem_cons]
    rcases hx with hx | rfl | hx
    · exact Or.inl (Or.inl hx)
    · exact Or.inr rfl
    · exact Or.inl (Or.inr (Or.inr hx))
  · rw [Element.elements_push, List.mem_append, List.mem_singleton] at hx
    exact hx.imp_right fun hx => by rw [hx]; rfl

lemma setPropertyValue (ext : Element) (key v : String) :
    Keeps ext (setPropertyValue key v ext) := by
  refine ⟨Element.sameTag_mapElements .., fun hplain p hp x hx => ?_, fun hplain => ?_⟩
  · obtain ⟨hp, hname⟩ := List.mem_filter.mp hp
    rw [Repair.setPropertyValue, Element.elements_mapElements] at hp
    obtain ⟨y, hy, rfl⟩ := List.mem_map.mp hp
    obtain ⟨hx, hxname⟩ := List.mem_filter.mp hx
    split at hx
    · rename_i hcond
      rcases setValue_plain hx with hx | hx
      · exact hplain y (List.mem_filter.mpr ⟨hy, (Bool.and_eq_true_iff.mp hcond).1⟩) x
          (List.mem_filter.mpr ⟨hx, hxname⟩)
      · exact hx
    · rename_i hcond
      rw [if_neg hcond] at hname
      exact hplain y (List.mem_filter.mpr ⟨hy, hname⟩) x (List.mem_filter.mpr ⟨hx, hxname⟩)
  · refine idsOutsideDiagram_subset (Element.sameTag_mapElements ..) fun c hc => ?_
    rw [Repair.setPropertyValue, Element.elements_mapElements]
    refine ⟨_, List.mem_map_of_mem hc, ?_⟩
    split
    · rename_i hcond
      exact setValue_ids v fun x hx =>
        hplain c (List.mem_filter.mpr ⟨hc, (Bool.and_eq_true_iff.mp hcond).1⟩) x hx
    · exact List.Subset.refl _

lemma step (h : CompletionStep ext ext') : Keeps ext ext' := by
  cases h with
  | add key v => exact push ..
  | fill v => exact setPropertyValue ..

lemma steps (h : Relation.ReflTransGen CompletionStep ext ext') : Keeps ext ext' := by
  induction h with
  | refl => exact refl ext
  | tail _ h ih => exact ih.trans (step h)

/-- Completing an extension keeps its tag and, where values are plain, all of its ids. -/
lemma completeExtension (id tag : String) (inferred : TargetType) (ext : Element) :
    Keeps ext (completeExtension id tag inferred ext).1 :=
  steps (steps_completeExtension id tag inferred ext)

end Keeps

/-! ### Nodes -/

/-- A node states a type whose element has its tag, and all that the type asks for. -/
def IsComplete (node : Element) : Prop :=
  ∃ ext t, node.find "extensionElements" = some ext ∧ Sound t ∧ t.tag = node.localName ∧
    Completes t ext

section CompleteNode

variable {node : Element}

lemma localName_extensionElements (ns : Option String) :
    ({ name := qualified ns "extensionElements" } : Element).localName = "extensionElements" :=
  localPart_qualified (by decide) ns

lemma sameTag_ensureExtension (node : Element) : SameTag node (ensureExtension node).1 := by
  unfold ensureExtension
  split
  · exact SameTag.refl node
  · exact Element.sameTag_insertBefore ..

lemma filter_ensureExtension (node : Element) {q : Element → Bool}
    (hq : ∀ x : Element, x.localName = "extensionElements" → q x = false) :
    (ensureExtension node).1.elements.filter q = node.elements.filter q := by
  unfold ensureExtension
  split
  · rfl
  · exact Element.filter_elements_insertBefore _ _ _ (hq _ (localName_extensionElements _))

/-- There is an extension afterwards, and a new one is empty. -/
lemma find_ensureExtension (node : Element) :
    (ensureExtension node).1.find "extensionElements"
      = some ((node.find "extensionElements").getD
          { name := qualified node.namespacePart "extensionElements" }) := by
  unfold ensureExtension
  cases hext : node.find "extensionElements" with
  | some ext => simp [hext]
  | none =>
    have hnone : node.findAll "extensionElements" = [] :=
      List.filter_eq_nil_iff.mpr (List.find?_eq_none.mp hext)
    have hperm := (Element.elements_insertBefore_perm node
      { name := qualified node.namespacePart "extensionElements" } fun _ => true).filter
        fun e => e.localName == "extensionElements"
    rw [List.filter_cons_of_pos (by rw [localName_extensionElements]; rfl)] at hperm
    rw [Element.findAll] at hnone
    rw [hnone, List.perm_singleton] at hperm
    simp only [Option.isSome_none, Bool.false_eq_true, if_false, Option.getD_none]
    rw [Element.find, ← List.head?_filter, hperm, List.head?_cons]

lemma sameTag_completeStated (inferred : TargetType) (node : Element) :
    SameTag node (completeStated inferred node).1 := by
  unfold completeStated
  split
  · exact Element.sameTag_modifyFirst ..
  · exact SameTag.refl node

/-- Completing the extension of a node changes nothing but the extension. -/
lemma filter_completeStated (inferred : TargetType) (node : Element) {q : Element → Bool}
    (hq : ∀ x : Element, x.localName = "extensionElements" → q x = false) :
    (completeStated inferred node).1.elements.filter q = node.elements.filter q := by
  unfold completeStated
  split
  · rename_i ext hext
    have hname : ext.localName = "extensionElements" := by simpa using List.find?_some hext
    refine Element.filter_modifyFirst_of_not hext (hq _ hname) (hq _ ?_)
    rw [(Keeps.completeExtension ..).tag.localName_eq, hname]
  · rfl

lemma completeStated_eq {inferred : TargetType} {ext : Element}
    (h : node.find "extensionElements" = some ext) :
    completeStated inferred node
      = (node.modifyFirst (fun e => e.localName == "extensionElements") fun e =>
          (completeExtension (attrOrEmpty node "id") node.localName inferred e).1,
        (completeExtension (attrOrEmpty node "id") node.localName inferred ext).2) := by
  simp only [completeStated, h]

lemma sameTag_completeNode (node : Element) : SameTag node (completeNode node).1 := by
  unfold completeNode
  split
  · exact (sameTag_ensureExtension node).trans (sameTag_completeStated _ _)
  · exact SameTag.refl node

lemma filter_completeNode (node : Element) {q : Element → Bool}
    (hq : ∀ x : Element, x.localName = "extensionElements" → q x = false) :
    (completeNode node).1.elements.filter q = node.elements.filter q := by
  unfold completeNode
  split
  · rw [andThen_fst, filter_completeStated _ _ hq, filter_ensureExtension node hq]
  · rfl

/-- Completing a node leaves its lists of connectors alone. -/
lemma listed_completeNode (d : Direction) (node : Element) :
    listed d (completeNode node).1 = listed d node := by
  refine listed_eq_of_filter_eq (filter_completeNode node fun x hx => ?_)
  rw [hx]
  cases d <;> decide

lemma lists_completeNode_iff {d : Direction} {expected : List String} :
    Lists d expected (completeNode node).1 ↔ Lists d expected node := by
  rw [Lists, listed_completeNode, Lists]

/-- A complete node stays as it is. -/
theorem completeNode_of_isComplete (h : IsComplete node) : completeNode node = (node, []) := by
  obtain ⟨ext, t, hext, hs, htag, hc⟩ := h
  have hensure : ensureExtension node = (node, []) := by simp [ensureExtension, hext]
  unfold completeNode
  split
  · rename_i inferred _
    have hfix : completeExtension (attrOrEmpty node "id") node.localName inferred ext = (ext, []) :=
      completeExtension_of_completes hs htag hc
    rw [andThen_of_fixed hensure, completeStated_eq hext, hfix,
      Element.modifyFirst_eq_self hext (congrArg Prod.fst hfix)]
  · rfl

/-- A flow node has a type that its tag stands for, and that type has a template. -/
lemma exists_inferTarget? (h : isFlowNode node) :
    ∃ inferred, Bpmn.inferTarget? node = some inferred ∧
      ∃ t, standardTemplate? inferred = some t := by
  have hname : node.localName ∈ Bpmn.flowNodeTags := by simpa [isFlowNode] using h
  unfold Bpmn.inferTarget?
  simp only [Bpmn.flowNodeTags, List.mem_cons, List.not_mem_nil, or_false] at hname
  rcases hname with h | h | h | h | h | h <;> simp only [h]
  · exact ⟨_, rfl, _, rfl⟩
  · cases (node.find "errorEventDefinition").isSome
    · exact ⟨_, rfl, _, rfl⟩
    · exact ⟨_, rfl, _, rfl⟩
  · exact ⟨_, rfl, _, rfl⟩
  · exact ⟨_, rfl, _, rfl⟩
  · exact ⟨_, rfl, _, rfl⟩
  · exact ⟨_, rfl, _, rfl⟩

/-- A flow node is complete afterwards, if nothing fatal is reported. -/
theorem isComplete_completeNode (hnode : isFlowNode node)
    (h : (completeNode node).2.hasFatal = false) : IsComplete (completeNode node).1 := by
  obtain ⟨inferred, hinferred, htemplate⟩ := exists_inferTarget? hnode
  simp only [completeNode, hinferred] at h ⊢
  obtain ⟨-, hstated⟩ := hasFatal_andThen h
  obtain ⟨ext, hext⟩ : ∃ ext, (ensureExtension node).1.find "extensionElements" = some ext :=
    ⟨_, find_ensureExtension node⟩
  rw [andThen_fst, completeStated_eq hext]
  rw [completeStated_eq hext] at hstated
  obtain ⟨t, hs, htag, hc⟩ := completes_completeExtension htemplate hstated
  refine ⟨_, t, Element.find?_modifyFirst hext ?_, hs, ?_, hc⟩
  · have hname : ext.localName = "extensionElements" := by simpa using List.find?_some hext
    simp [(Keeps.completeExtension ..).tag.localName_eq, hname]
  · rw [htag, (Element.sameTag_modifyFirst _ _ _).localName_eq]

/-- What is reported of a node does not depend on its lists. -/
lemma completeNode_snd_of_sameButLists {node' : Element} (hsame : SameButLists node node') :
    (completeNode node').2 = (completeNode node).2 := by
  have hext : node'.find "extensionElements" = node.find "extensionElements" :=
    hsame.find_eq fun d => by cases d <;> decide
  have hid := attrOrEmpty_of_sameTag hsame.toSameTag "id"
  have hinfer : Bpmn.inferTarget? node' = Bpmn.inferTarget? node := by
    rw [Bpmn.inferTarget?, hsame.localName_eq, hsame.find_eq fun d => by cases d <;> decide,
      Bpmn.inferTarget?]
  unfold completeNode
  rw [hinfer]
  split
  · have hensure : (ensureExtension node').2 = (ensureExtension node).2 := by
      unfold ensureExtension
      rw [hext, hid]
      split <;> rfl
    have hfind : (ensureExtension node').1.find "extensionElements"
        = (ensureExtension node).1.find "extensionElements" := by
      rw [find_ensureExtension, find_ensureExtension, hext, hsame.namespacePart_eq]
    have htag := sameTag_ensureExtension node
    have htag' := sameTag_ensureExtension node'
    rw [andThen_snd, andThen_snd, hensure, completeStated_eq (find_ensureExtension node),
      completeStated_eq (hfind.trans (find_ensureExtension node)), htag.localName_eq,
      htag'.localName_eq, hsame.localName_eq, attrOrEmpty_of_sameTag htag,
      attrOrEmpty_of_sameTag htag', hid]
  · rfl

/-- Completing a node loses no id, if the values in its extension are plain. -/
lemma idsOutsideDiagram_completeNode_subset
    (hplain : ∀ ext, node.find "extensionElements" = some ext → PlainValues ext) :
    idsOutsideDiagram node ⊆ idsOutsideDiagram (completeNode node).1 := by
  have hensure : idsOutsideDiagram node ⊆ idsOutsideDiagram (ensureExtension node).1 := by
    unfold ensureExtension
    split
    · exact List.Subset.refl _
    · exact idsOutsideDiagram_insertBefore_subset ..
  unfold completeNode
  split
  · rename_i inferred _
    refine List.Subset.trans hensure ?_
    have hext := find_ensureExtension node
    rw [andThen_fst, completeStated_eq hext]
    refine idsOutsideDiagram_modifyFirst_subset hext ((Keeps.completeExtension ..).ids ?_)
    cases hfind : node.find "extensionElements" with
    | some ext => exact hplain ext hfind
    | none =>
      intro p hp
      exact absurd hp List.not_mem_nil
  · exact List.Subset.refl _

end CompleteNode

end IntegrationFlow.Repair
