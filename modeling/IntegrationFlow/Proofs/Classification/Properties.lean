import Mathlib
import IntegrationFlow.Proofs.Classification

/-!
# Which settings become properties

A property that a type asks for may stand in the settings several times, under different names and
at different depths. The name counts first, then whether the key has no dots, then the order of the
settings; the value that comes first in this order is taken. No setting is lost, since those whose
keys are still free follow as they are.
-/

namespace IntegrationFlow.Classification

/-! ### The best value -/

/-- Whether a key leads into a nested setting. -/
def isDotted (key : String) : Bool := key.toList.contains '.'

/-- Where settings have a value under one of several names: the position of the name, whether the
key is dotted, and the position of the setting, in this order of importance. -/
def offers (settings : Settings) (names : List String) : Set (ℕ ×ₗ Bool ×ₗ ℕ) :=
  {place | ∃ j i e, names[j]? = some (foldKey (leafOf e.1)) ∧ settings[i]? = some e ∧
    e.2.isBlank = false ∧ place = toLex (j, toLex (isDotted e.1, i))}

/-- A value is the first that settings have under one of several names. -/
def IsBest (settings : Settings) (names : List String) (value : Setting) : Prop :=
  ∃ j dotted i key, IsLeast (offers settings names) (toLex (j, toLex (dotted, i))) ∧
    settings[i]? = some (key, value)

section Best

variable {settings : Settings} {names : List String} {value : Setting}

/-- There is only one first value. -/
lemma IsBest.unique {value' : Setting} (h : IsBest settings names value)
    (h' : IsBest settings names value') : value = value' := by
  obtain ⟨j, dotted, i, key, hleast, hi⟩ := h
  obtain ⟨j', dotted', i', key', hleast', hi'⟩ := h'
  have heq := hleast.unique hleast'
  simp only [EmbeddingLike.apply_eq_iff_eq, Prod.mk.injEq] at heq
  rw [heq.2.2, hi'] at hi
  exact (Prod.mk.inj (Option.some.inj hi)).2.symm

lemma goesBy_iff {name : String} {e : String × Setting} :
    goesBy name e ↔ e.2.isBlank = false ∧ foldKey (leafOf e.1) = name := by
  simp [goesBy]

/-- A key without dots is looked for first. -/
lemma valueUnder?_eq (settings : Settings) (name : String) :
    valueUnder? settings name
      = ((settings.find? fun e => goesBy name e && !isDotted e.1).or
          (settings.find? (goesBy name))).map (·.2) := by
  rw [valueUnder?, List.find?_filter, List.head?_filter]
  simp only [isDotted, Bool.decide_and, Bool.decide_eq_true]

/-- Under one name the value without dots in its key comes first, and then the order counts. -/
lemma exists_of_valueUnder? {name : String} (h : valueUnder? settings name = some value) :
    ∃ (i : ℕ) (key : String), settings[i]? = some (key, value) ∧ goesBy name (key, value) ∧
      ∀ (i' : ℕ) e, settings[i']? = some e → goesBy name e →
        toLex (isDotted key, i) ≤ toLex (isDotted e.1, i') := by
  rw [valueUnder?_eq, Option.map_eq_some_iff] at h
  obtain ⟨⟨key, first⟩, hfound, rfl⟩ := h
  rcases Option.or_eq_some_iff.mp hfound with hfirst | ⟨hnone, hfirst⟩
  · obtain ⟨hgoes, i, hi, heq, hbefore⟩ := List.find?_eq_some_iff_getElem.mp hfirst
    rw [Bool.and_eq_true, Bool.not_eq_true'] at hgoes
    refine ⟨i, key, by rw [List.getElem?_eq_getElem hi, heq], hgoes.1, fun i' e he hname => ?_⟩
    rw [Prod.Lex.toLex_le_toLex, hgoes.2]
    cases hdotted : isDotted e.1 with
    | true => exact .inl Bool.false_lt_true
    | false =>
      refine .inr ⟨rfl, not_lt.mp fun hlt => ?_⟩
      obtain ⟨hi', rfl⟩ := List.getElem?_eq_some_iff.mp he
      simpa [hname, hdotted] using hbefore i' hlt
  · obtain ⟨hgoes, i, hi, heq, hbefore⟩ := List.find?_eq_some_iff_getElem.mp hfirst
    -- without a key that has no dots all of them are dotted
    have hdotted : ∀ (i' : ℕ) e, settings[i']? = some e → goesBy name e → isDotted e.1 = true := by
      intro i' e he hname
      have hnot := List.find?_eq_none.mp hnone e (List.mem_of_getElem? he)
      simpa [hname] using hnot
    have hi? : settings[i]? = some (key, first) := by rw [List.getElem?_eq_getElem hi, heq]
    refine ⟨i, key, hi?, hgoes, fun i' e he hname => ?_⟩
    rw [Prod.Lex.toLex_le_toLex, hdotted i _ hi? hgoes, hdotted i' e he hname]
    refine .inr ⟨rfl, not_lt.mp fun hlt => ?_⟩
    obtain ⟨hi', rfl⟩ := List.getElem?_eq_some_iff.mp he
    simpa [hname] using hbefore i' hlt

lemma valueUnder?_eq_none_iff {name : String} :
    valueUnder? settings name = none ↔ ∀ e ∈ settings, ¬ goesBy name e := by
  rw [valueUnder?_eq, Option.map_eq_none_iff, Option.or_eq_none_iff, List.find?_eq_none,
    List.find?_eq_none]
  refine and_iff_right_of_imp fun h e he => ?_
  simp [h e he]

/-- What is found is the first value. -/
lemma isBest_of_resolve? (h : resolve? settings names = some value) :
    IsBest settings names value := by
  obtain ⟨before, name, after, rfl, hvalue, hnone⟩ := List.findSome?_eq_some_iff.mp h
  obtain ⟨i, key, hi, hgoes, hfirst⟩ := exists_of_valueUnder? hvalue
  have hname := (goesBy_iff.mp hgoes).2
  refine ⟨before.length, isDotted key, i, key, ⟨?_, ?_⟩, hi⟩
  · exact ⟨before.length, i, (key, value), by simp [hname], hi, (goesBy_iff.mp hgoes).1, rfl⟩
  · rintro _ ⟨j, i', e, hj, hi', hblank, rfl⟩
    rw [Prod.Lex.toLex_le_toLex]
    rcases lt_trichotomy before.length j with hlt | rfl | hlt
    · exact .inl hlt
    · have heq : foldKey (leafOf e.1) = name := by simpa using hj.symm
      exact .inr ⟨rfl, hfirst i' e hi' (goesBy_iff.mpr ⟨hblank, heq⟩)⟩
    · -- earlier names are not used
      rw [List.getElem?_append_left hlt] at hj
      have hunused := valueUnder?_eq_none_iff.mp (hnone _ (List.mem_of_getElem? hj)) e
        (List.mem_of_getElem? hi')
      exact absurd (goesBy_iff.mpr ⟨hblank, rfl⟩) hunused

lemma exists_resolve?_iff : (∃ value, resolve? settings names = some value) ↔
    ∃ e ∈ settings, e.2.isBlank = false ∧ foldKey (leafOf e.1) ∈ names := by
  rw [← Option.ne_none_iff_exists', ne_eq, resolve?, List.findSome?_eq_none_iff]
  simp only [valueUnder?_eq_none_iff, goesBy_iff]
  push Not
  constructor
  · rintro ⟨name, hname, e, he, hblank, rfl⟩
    exact ⟨e, he, hblank, hname⟩
  · rintro ⟨e, he, hblank, hname⟩
    exact ⟨_, hname, e, he, hblank, rfl⟩

/-- The first value is found. -/
theorem resolve?_eq_some_iff :
    resolve? settings names = some value ↔ IsBest settings names value := by
  refine ⟨isBest_of_resolve?, fun h => ?_⟩
  obtain ⟨j, dotted, i, key, ⟨⟨_, _, e, hj, hi, hblank, -⟩, -⟩, -⟩ := id h
  obtain ⟨value', hvalue'⟩ := exists_resolve?_iff.mpr
    ⟨e, List.mem_of_getElem? hi, hblank, List.mem_of_getElem? hj⟩
  rw [hvalue', h.unique (isBest_of_resolve? hvalue')]

end Best

/-! ### Properties -/

/-- The entries that say what a node was before it was classified. -/
def sourceEntries (n : Node) : Settings :=
  ("sourceType", .literal n.sourceType) ::
    (n.variant.map fun v => ("sourceVariant", Setting.literal v)).toList

/-- The properties of a type differ from each other and from the entries about the source. -/
lemma nodup_properties (target : TargetType) :
    ((aliases target).map Alias.property ++ ["sourceType", "sourceVariant"]).Nodup := by
  cases target <;> decide

/-- The properties that a type asks for and settings have. -/
def askedEntries (n : Node) (target : TargetType) : Settings :=
  (aliases target).filterMap fun a =>
    (resolve? n.settings a.names).map fun value => (a.property, value)

section Asked

variable {n : Node} {target : TargetType}

lemma keys_askedEntries_sublist (n : Node) (target : TargetType) :
    (OrderedMap.keys (askedEntries n target)).Sublist ((aliases target).map Alias.property) := by
  rw [askedEntries, OrderedMap.keys, List.map_filterMap]
  induction aliases target with
  | nil => exact .slnil
  | cons a as ih =>
    rw [List.filterMap_cons, List.map_cons]
    cases resolve? n.settings a.names with
    | none => exact ih.cons _
    | some value => exact ih.cons_cons _

lemma mem_askedEntries {a : Alias} (ha : a ∈ aliases target) {value : Setting} :
    (a.property, value) ∈ askedEntries n target ↔ IsBest n.settings a.names value := by
  rw [← resolve?_eq_some_iff, askedEntries, List.mem_filterMap]
  constructor
  · rintro ⟨b, hb, heq⟩
    obtain ⟨value', hvalue', heq⟩ := Option.map_eq_some_iff.mp heq
    obtain ⟨hproperty, rfl⟩ := Prod.mk.inj heq
    have hnodup := (List.nodup_append.mp (nodup_properties target)).1
    rwa [← List.inj_on_of_nodup_map hnodup hb ha hproperty]
  · exact fun h => ⟨a, ha, by rw [h, Option.map_some]⟩

lemma mem_keys_askedEntries {a : Alias} (ha : a ∈ aliases target) :
    a.property ∈ OrderedMap.keys (askedEntries n target) ↔
      ∃ e ∈ n.settings, e.2.isBlank = false ∧ foldKey (leafOf e.1) ∈ a.names := by
  rw [← exists_resolve?_iff]
  simp only [resolve?_eq_some_iff, ← mem_askedEntries ha]
  simp [OrderedMap.keys]

lemma nodup_keys_known (n : Node) (target : TargetType) :
    (OrderedMap.keys (askedEntries n target ++ sourceEntries n)).Nodup := by
  have hsource : (OrderedMap.keys (sourceEntries n)).Sublist ["sourceType", "sourceVariant"] := by
    cases hvariant : n.variant <;> simp [sourceEntries, hvariant]
  have hsub := (keys_askedEntries_sublist n target).append hsource
  rw [OrderedMap.keys, List.map_append]
  exact (nodup_properties target).sublist hsub

lemma normalize_eq (n : Node) (target : TargetType) :
    normalize n target = n.settings.foldl (fun m e => OrderedMap.insertNew m e.1 e.2)
      (askedEntries n target ++ sourceEntries n) := by
  have hknown : normalize n target = n.settings.foldl (fun m e => OrderedMap.insertNew m e.1 e.2)
      (OrderedMap.ofList (askedEntries n target ++ sourceEntries n)) := by
    rw [normalize, sourceEntries]
    cases n.variant <;> simp [askedEntries]
  rw [hknown, OrderedMap.ofList_eq_self (nodup_keys_known n target)]

end Asked

/-- The properties of a node of a type. First come those that the type asks for: one is there
exactly if a setting that is not blank goes by one of its names, and its value is the first by the
position of the name, then by keys without dots, then by the order of the settings. The source type
and the variant follow, and then every setting whose key is still free, in order and as it is. -/
theorem normalize_takes_best (n : Node) (target : TargetType) :
    ∃ asked rest : Settings, normalize n target = asked ++ sourceEntries n ++ rest ∧
      (OrderedMap.keys asked).Sublist ((aliases target).map Alias.property) ∧
      (∀ a ∈ aliases target,
        (a.property ∈ OrderedMap.keys asked ↔
          ∃ e ∈ n.settings, e.2.isBlank = false ∧ foldKey (leafOf e.1) ∈ a.names) ∧
        ∀ value, (a.property, value) ∈ asked ↔ IsBest n.settings a.names value) ∧
      OrderedMap.keys rest = (OrderedMap.keys n.settings).eraseDups.filter
        (fun key => key ∉ OrderedMap.keys (asked ++ sourceEntries n)) ∧
      (∀ e ∈ rest, OrderedMap.get? n.settings e.1 = some e.2) ∧
      (OrderedMap.keys (normalize n target)).Nodup := by
  obtain ⟨rest, hrest, hkeys, hvalues⟩ :=
    OrderedMap.foldl_insertNew (askedEntries n target ++ sourceEntries n) n.settings
  refine ⟨askedEntries n target, rest, (normalize_eq n target).trans hrest,
    keys_askedEntries_sublist n target,
    fun a ha => ⟨mem_keys_askedEntries ha, fun value => mem_askedEntries ha⟩, hkeys, hvalues, ?_⟩
  rw [normalize_eq, hrest, OrderedMap.keys, List.map_append]
  refine (nodup_keys_known n target).append ?_ fun key hknown hnew => ?_
  · rw [← OrderedMap.keys, hkeys]
    exact (nodup_eraseDups _).filter _
  · rw [← OrderedMap.keys, hkeys, List.mem_filter] at hnew
    exact of_decide_eq_true hnew.2 hknown

/-- A call whose address stands in its settings four times, once blank. -/
def caller : Node where
  id := "caller"
  sourceType := "http:request"
  name := "caller"
  dialect := some .mule
  variant := some "soap"
  settings :=
    [("request.Path", .literal "/nested"), ("url", .literal " "), ("PATH", .literal "/orders"),
     ("path[2]", .literal "/late"), ("sourceType", .literal "own")]

/-- The properties of this call. -/
def callerProperties : Settings :=
  [("address", .literal "/orders"), ("sourceType", .literal "http:request"),
   ("sourceVariant", .literal "soap"), ("request.Path", .literal "/nested"),
   ("url", .literal " "), ("PATH", .literal "/orders"), ("path[2]", .literal "/late")]

/-- Of the addresses the first without dots, under the best name that is used, is taken. -/
theorem caller_address_best : normalize caller .requestReply = callerProperties ∧
    IsBest caller.settings addressAlias.names (.literal "/orders") := by
  have hresult : normalize caller .requestReply = callerProperties := by decide +kernel
  refine ⟨hresult, ?_⟩
  obtain ⟨asked, rest, hparts, -, hasked, -⟩ := normalize_takes_best caller .requestReply
  obtain ⟨hset, hvalue⟩ := hasked addressAlias List.mem_cons_self
  have hkey := hset.mpr ⟨("PATH", .literal "/orders"), by decide +kernel, by decide +kernel,
    by decide +kernel⟩
  obtain ⟨⟨_, value⟩, hmem, rfl⟩ := List.mem_map.mp hkey
  have hall : (addressAlias.property, value) ∈ callerProperties := by
    rw [← hresult, hparts]
    exact List.mem_append_left _ (List.mem_append_left _ hmem)
  obtain rfl : value = .literal "/orders" := by
    simpa [callerProperties, addressAlias] using hall
  exact (hvalue _).mp hmem

end IntegrationFlow.Classification
