import Mathlib
import IntegrationFlow.Proofs.Source.Mule.Identifiers

/-!
# Which processors are found

The processors of a flow stand in its chain and in the scopes reached from there, at any depth. What
becomes of one is settled by the scopes around it: where all of them are entered it has a record of
its own, unless it stands right in a choice, where it is reported, or right in a scatter-gather,
where it is passed over. What stands in a scope that is not entered is lost.
-/

namespace IntegrationFlow.Source

open Xml (Element Content elementsIn)

/-! ### What a walk has found -/

section Covers

variable {α β : Type*} {R : α → β → Prop} {xs ys : List α} {l l' l'' : List β}

/-- The list `l'` goes on from `l` with one entry for each member of `xs`, in their order, and maybe
with others between them. -/
def Covers (R : α → β → Prop) (xs : List α) (l l' : List β) : Prop :=
  ∃ more, l' = l ++ more ∧ List.SublistForall₂ R xs more

lemma Covers.refl (l : List β) : Covers R [] l l := ⟨[], (List.append_nil l).symm, .nil⟩

lemma Covers.concat {x : α} {y : β} (h : R x y) (l : List β) : Covers R [x] l (l ++ [y]) :=
  ⟨[y], rfl, .cons h .nil⟩

lemma Covers.append (h : Covers R xs l l') (h' : Covers R ys l' l'') :
    Covers R (xs ++ ys) l l'' := by
  obtain ⟨more, rfl, hmore⟩ := h
  obtain ⟨more', rfl, hmore'⟩ := h'
  obtain ⟨k, hk, hsub⟩ := List.sublistForall₂_iff.mp hmore
  obtain ⟨k', hk', hsub'⟩ := List.sublistForall₂_iff.mp hmore'
  refine ⟨more ++ more', List.append_assoc .., List.sublistForall₂_iff.mpr ?_⟩
  exact ⟨k ++ k', List.rel_append hk hk', hsub.append hsub'⟩

lemma sublistForall₂_of_sublist (hsub : xs.Sublist ys) (h : List.SublistForall₂ R ys l) :
    List.SublistForall₂ R xs l := by
  induction h generalizing xs with
  | nil =>
    rw [List.sublist_nil.mp hsub]
    exact .nil
  | cons hr _ ih =>
    cases hsub with
    | cons _ hsub => exact .cons_right (ih hsub)
    | cons_cons _ hsub => exact .cons hr (ih hsub)
  | cons_right _ ih => exact .cons_right (ih hsub)

lemma Covers.of_sublist (hsub : xs.Sublist ys) (h : Covers R ys l l') : Covers R xs l l' := by
  obtain ⟨more, rfl, hmore⟩ := h
  exact ⟨more, rfl, sublistForall₂_of_sublist hsub hmore⟩

/-- Growth alone does not depend on what the entries are for. -/
lemma Covers.forget {γ : Type*} {S : γ → β → Prop} (h : Covers R xs l l') : Covers S [] l l' := by
  obtain ⟨more, rfl, -⟩ := h
  exact ⟨more, rfl, .nil⟩

end Covers

namespace Walk

/-- The records and the issues found so far. -/
def found (w : Walk) : List Record × List Diagnostic := (w.records, w.issues)

end Walk

namespace Mule

/-! ### Processors and their scopes -/

/-- A processor, with the local names of the scopes that it stands in, the innermost first. -/
structure Placed where
  scopes : List String
  element : Element

/-- What is not a processor of its own: the branches of a choice or of a scatter-gather, and the try
scopes, whose processors take their place. -/
def wrappers : List String := ["when", "otherwise", "route", "try"]

lemma mem_containers_of_mem_wrappers {name : String} (h : name ∈ wrappers) : name ∈ containers :=
  (by decide : ∀ n ∈ wrappers, n ∈ containers) name h

mutual

/-- The processors of a content and those in the containers among them, in document order. -/
def placedIn (scopes : List String) : List (Content Element) → List Placed
  | [] => []
  | .text _ :: cs => placedIn scopes cs
  | .element e :: cs => (if isProcessor e then placedAt scopes e else []) ++ placedIn scopes cs

/-- A processor and those in it, if it is a container. -/
def placedAt (scopes : List String) : Element → List Placed
  | ⟨name, attributes, children, span⟩ =>
    (if Xml.localPart name ∈ wrappers then []
      else [⟨scopes, ⟨name, attributes, children, span⟩⟩]) ++
      if Xml.localPart name ∈ containers then placedIn (Xml.localPart name :: scopes) children
      else []

end

/-- The processors of a flow. -/
def processorsOf (flow : Element) : List Placed := placedIn [] flow.children

/-- The scopes that are entered right in a scope, or right in the flow. -/
def enteredIn (scope : Option String) : List String :=
  if scope = some "choice" then ["when", "otherwise"]
  else if scope = some "scatter-gather" then ["route"]
  else ["choice", "scatter-gather", "foreach", "parallel-foreach", "until-successful", "try"]

/-- Whether each scope is entered from the one around it. -/
def isEntered : List String → Bool
  | [] => true
  | name :: scopes => decide (name ∈ enteredIn scopes.head?) && isEntered scopes

/-- What becomes of a processor. -/
inductive Fate where
  /-- It has a record of its own. -/
  | recorded
  /-- It is reported as unexpected. -/
  | reported
  | lost
  deriving DecidableEq, Repr

/-- The fate of the processors that stand right in a scope. -/
def fate (scopes : List String) : Fate :=
  if isEntered scopes then
    if scopes.head? = some "choice" then .reported
    else if scopes.head? = some "scatter-gather" then .lost
    else .recorded
  else .lost

/-- The processors with a fate. -/
def withFate (f : Fate) (ps : List Placed) : List Element :=
  (ps.filter fun p => fate p.scopes = f).map Placed.element

section Fate

variable {scopes : List String} {name : String}

lemma isEntered_cons :
    isEntered (name :: scopes) ↔ name ∈ enteredIn scopes.head? ∧ isEntered scopes := by
  simp [isEntered]

lemma fate_of_not_isEntered (h : ¬ isEntered scopes) : fate scopes = .lost := if_neg h

lemma isEntered_of_fate (h : fate scopes = .recorded) : isEntered scopes := by
  by_contra hnot
  rw [fate_of_not_isEntered hnot] at h
  exact Fate.noConfusion h

/-- Where processors are recorded, scopes of these names are entered. -/
lemma enteredIn_of_fate (h : fate scopes = .recorded) : enteredIn scopes.head? =
    ["choice", "scatter-gather", "foreach", "parallel-foreach", "until-successful", "try"] := by
  rw [fate, if_pos (isEntered_of_fate h)] at h
  unfold enteredIn
  split_ifs at h ⊢
  rfl

/-- A scope that is entered and is neither a choice nor a scatter-gather holds a chain. -/
lemma fate_cons (h : isEntered (name :: scopes)) (hname : name ∉ ["choice", "scatter-gather"]) :
    fate (name :: scopes) = .recorded := by
  simp_all [fate]

lemma fate_choice (h : isEntered ("choice" :: scopes)) : fate ("choice" :: scopes) = .reported := by
  simp [fate, h]

lemma fate_scatterGather : fate ("scatter-gather" :: scopes) = .lost := by simp [fate]

lemma withFate_append (f : Fate) (ps qs : List Placed) :
    withFate f (ps ++ qs) = withFate f ps ++ withFate f qs := by
  simp [withFate]

lemma withFate_singleton (f : Fate) (e : Element) :
    withFate f [⟨scopes, e⟩] = if fate scopes = f then [e] else [] := by
  by_cases h : fate scopes = f <;> simp [withFate, h]

mutual

/-- The scopes around a processor lie within those that its content stands in. -/
lemma suffix_of_mem_placedIn (scopes : List String) : ∀ (cs : List (Content Element)) {p : Placed},
    p ∈ placedIn scopes cs → scopes <:+ p.scopes
  | [], p, hp => by simp [placedIn] at hp
  | .text _ :: cs, p, hp => by
    rw [placedIn] at hp
    exact suffix_of_mem_placedIn scopes cs hp
  | .element e :: cs, p, hp => by
    rw [placedIn, List.mem_append] at hp
    rcases hp with hp | hp
    · split at hp
      · exact suffix_of_mem_placedAt scopes e hp
      · simp at hp
    · exact suffix_of_mem_placedIn scopes cs hp

lemma suffix_of_mem_placedAt (scopes : List String) : ∀ (e : Element) {p : Placed},
    p ∈ placedAt scopes e → scopes <:+ p.scopes
  | ⟨name, attributes, children, span⟩, p, hp => by
    rw [placedAt, List.mem_append] at hp
    rcases hp with hp | hp
    · split at hp
      · simp at hp
      · rw [List.mem_singleton.mp hp]
    · split at hp
      · exact (List.suffix_cons ..).trans (suffix_of_mem_placedIn _ children hp)
      · simp at hp

end

lemma isEntered_of_suffix {inner outer : List String} (h : outer <:+ inner)
    (hinner : isEntered inner) : isEntered outer := by
  obtain ⟨names, rfl⟩ := h
  induction names with
  | nil => exact hinner
  | cons name names ih => exact ih (isEntered_cons.mp hinner).2

/-- Whatever stands in a scope that is not entered is lost. -/
lemma withFate_of_not_isEntered (h : ¬ isEntered scopes) (cs : List (Content Element)) {f : Fate}
    (hf : f ≠ .lost) : withFate f (placedIn scopes cs) = [] := by
  refine List.map_eq_nil_iff.mpr (List.filter_eq_nil_iff.mpr fun p hp => ?_)
  have hlost := fate_of_not_isEntered fun hp' =>
    h (isEntered_of_suffix (suffix_of_mem_placedIn scopes cs hp) hp')
  simpa [hlost] using hf.symm

end Fate

/-! ### What is found of the processors -/

/-- A record is that of an element in the flow that is walked, whatever its number, its role and its
links are. -/
def IsRecordIn (s : Scope) (e : Element) (r : Record) : Prop :=
  ∃ role n, r = (s.record e role n).withLinks r.links

/-- A diagnostic is the one about an element that is not expected in a choice. -/
def IsUnexpected (source : SourceText) (e : Element) (x : Diagnostic) : Prop :=
  x = source.warning e ("Unexpected <" ++ e.name ++ "> inside <choice>")

/-- Going from `a` to `b`, each processor given has got what its fate says. -/
structure Accounts (s : Scope) (a b : List Record × List Diagnostic) (ps : List Placed) : Prop where
  records : Covers (IsRecordIn s) (withFate .recorded ps) a.1 b.1
  issues : Covers (IsUnexpected s.source) (withFate .reported ps) a.2 b.2

namespace Accounts

variable {s : Scope} {a b c : List Record × List Diagnostic} {ps qs : List Placed}

lemma refl (a : List Record × List Diagnostic) : Accounts s a a [] := ⟨.refl _, .refl _⟩

lemma append (h : Accounts s a b ps) (h' : Accounts s b c qs) : Accounts s a c (ps ++ qs) where
  records := withFate_append .. ▸ h.records.append h'.records
  issues := withFate_append .. ▸ h.issues.append h'.issues

lemma extend (h : Accounts s a b ps) (h' : Accounts s b c []) : Accounts s a c ps := by
  simpa using h.append h'

/-- Whatever is walked, what was found before is kept. -/
lemma forget {s' : Scope} (h : Accounts s a b ps) : Accounts s' a b [] :=
  ⟨h.records.forget, h.issues.forget⟩

end Accounts

lemma isRecordIn_record (s : Scope) (e : Element) (role : Role) (n : Nat) :
    IsRecordIn s e (s.record e role n) := ⟨role, n, (Record.withLinks_self _).symm⟩

lemma IsRecordIn.withLinks {s : Scope} {e : Element} {r : Record} (h : IsRecordIn s e r)
    (links : List Link) : IsRecordIn s e (r.withLinks links) := by
  obtain ⟨role, n, hr⟩ := h
  refine ⟨role, n, ?_⟩
  generalize s.record e role n = r' at hr ⊢
  rw [hr]
  rfl

/-! ### Kinds of scopes -/

/-- The local names of the processors of a kind; those of all other names are plain. -/
def Kind.names : Kind → List String
  | .choice => ["choice"]
  | .scatterGather => ["scatter-gather"]
  | .loop => ["foreach", "parallel-foreach", "until-successful"]
  | .tryScope => ["try"]
  | .flowRef => ["flow-ref"]
  | .raiseError => ["raise-error"]
  | .plain => []

lemma mem_names_kind {name : String} (h : Kind.ofName name ≠ .plain) :
    name ∈ (Kind.ofName name).names := by
  unfold Kind.ofName at h ⊢
  split <;> simp_all [Kind.names]

lemma kind_of_mem_names {name : String} {kind : Kind} (h : name ∈ kind.names) :
    Kind.ofName name = kind := by
  cases kind <;> simp only [Kind.names, List.mem_cons, List.not_mem_nil, or_false] at h
  case loop => rcases h with rfl | rfl | rfl <;> rfl
  all_goals rw [h]; rfl

lemma kind_eq_iff {name : String} {kind : Kind} (h : kind ≠ .plain) :
    Kind.ofName name = kind ↔ name ∈ kind.names :=
  ⟨fun hkind => hkind ▸ mem_names_kind (hkind ▸ h), kind_of_mem_names⟩

/-- Where processors are recorded, those of these kinds are entered and no others. -/
lemma isEntered_cons_iff {scopes : List String} (h : fate scopes = .recorded) (name : String) :
    isEntered (name :: scopes) ↔
      Kind.ofName name ∈ [.choice, .scatterGather, .loop, .tryScope] := by
  rw [isEntered_cons, and_iff_left (isEntered_of_fate h), enteredIn_of_fate h]
  simp only [List.mem_cons, List.not_mem_nil, or_false, or_assoc,
    kind_eq_iff (show Kind.choice ≠ .plain by decide), Kind.names,
    kind_eq_iff (show Kind.scatterGather ≠ .plain by decide),
    kind_eq_iff (show Kind.loop ≠ .plain by decide),
    kind_eq_iff (show Kind.tryScope ≠ .plain by decide)]

/-- Loops and try scopes hold chains. -/
lemma fate_of_kind {scopes : List String} {name : String} {kind : Kind}
    (h : fate scopes = .recorded) (hkind : Kind.ofName name = kind)
    (hin : kind ∈ [.loop, .tryScope]) :
    name ∈ containers ∧ fate (name :: scopes) = .recorded := by
  have hkinds : ∀ k ∈ [Kind.loop, .tryScope], k ≠ .plain ∧
      k ∈ [Kind.choice, .scatterGather, .loop, .tryScope] ∧
      ∀ n ∈ k.names, n ∈ containers ∧ n ∉ ["choice", "scatter-gather"] := by decide
  obtain ⟨hplain, hentered, hnames⟩ := hkinds kind hin
  obtain ⟨hcontainer, hchain⟩ := hnames name ((kind_eq_iff hplain).mp hkind)
  exact ⟨hcontainer, fate_cons ((isEntered_cons_iff h name).mpr (hkind ▸ hentered)) hchain⟩

/-- The branches of a choice or of a scatter-gather hold chains. -/
lemma fate_of_mem_enteredIn {scopes : List String} {scope name : String}
    (hscope : scope ∈ ["choice", "scatter-gather"]) (h : isEntered (scope :: scopes))
    (hname : name ∈ enteredIn (some scope)) :
    name ∈ wrappers ∧ fate (name :: scope :: scopes) = .recorded := by
  have hnames : ∀ c ∈ ["choice", "scatter-gather"], ∀ n ∈ enteredIn (some c),
      n ∈ wrappers ∧ n ∉ ["choice", "scatter-gather"] := by decide
  obtain ⟨hwrapper, hchain⟩ := hnames scope hscope name hname
  exact ⟨hwrapper, fate_cons (isEntered_cons.mpr ⟨hname, h⟩) hchain⟩

/-! ### Processors among finds -/

/-- The processor that a record is for. -/
def Find.recorded? : Find → Option Element
  | .record e _ => some e
  | _ => none

/-- The element that is reported as unexpected. -/
def Find.reported? : Find → Option Element
  | .unexpected e => some e
  | _ => none

/-- Each processor given is found as its fate says, in their order. -/
structure Shows (fs : List Find) (ps : List Placed) : Prop where
  recorded : (withFate .recorded ps).Sublist (fs.filterMap Find.recorded?)
  reported : (withFate .reported ps).Sublist (fs.filterMap Find.reported?)

/-- What is shown by finds has got what its fate says. -/
lemma Shows.accounts {s : Scope} {w w' : Walk} {fs : List Find} {ps : List Placed}
    (h : Shows fs ps) (hfinds : Finds s w w' fs) : Accounts s w.found w'.found ps := by
  have hcovers : Covers (IsRecordIn s) (fs.filterMap Find.recorded?) w.records w'.records ∧
      Covers (IsUnexpected s.source) (fs.filterMap Find.reported?) w.issues w'.issues := by
    refine hfinds.induction (R := fun w w' fs =>
      Covers (IsRecordIn s) (fs.filterMap Find.recorded?) w.records w'.records ∧
        Covers (IsUnexpected s.source) (fs.filterMap Find.reported?) w.issues w'.issues)
      (fun hties => ?_) (fun w f => ?_) fun h h' => ?_
    · rw [hties.records_eq, hties.issues_eq]
      exact ⟨.refl _, .refl _⟩
    · cases f with
      | record e role => exact ⟨.concat (isRecordIn_record s e role w.next) _, .refl _⟩
      | aggregate e => exact ⟨⟨_, rfl, .nil⟩, .refl _⟩
      | flowEnd => exact ⟨⟨_, rfl, .nil⟩, .refl _⟩
      | errorEnd index => exact ⟨⟨_, rfl, .nil⟩, .refl _⟩
      | unexpected e => exact ⟨.refl _, .concat (R := IsUnexpected s.source) rfl _⟩
      | unsupported e => exact ⟨.refl _, ⟨_, rfl, .nil⟩⟩
    · rw [List.filterMap_append, List.filterMap_append]
      exact ⟨h.1.append h'.1, h.2.append h'.2⟩
  exact ⟨hcovers.1.of_sublist h.recorded, hcovers.2.of_sublist h.reported⟩

section Shows

variable {scopes : List String} {fs gs : List Find} {ps qs : List Placed} {e : Element}

lemma Shows.nil (fs : List Find) : Shows fs [] := ⟨List.nil_sublist _, List.nil_sublist _⟩

lemma Shows.append (h : Shows fs ps) (h' : Shows gs qs) : Shows (fs ++ gs) (ps ++ qs) where
  recorded := by
    rw [withFate_append, List.filterMap_append]
    exact h.recorded.append h'.recorded
  reported := by
    rw [withFate_append, List.filterMap_append]
    exact h.reported.append h'.reported

lemma Shows.extend (h : Shows fs ps) (gs : List Find) : Shows (fs ++ gs) ps := by
  simpa using h.append (.nil gs)

/-- Nothing is asked for what is lost. -/
lemma shows_of_not_isEntered (h : ¬ isEntered scopes) (cs : List (Content Element)) :
    Shows [] (placedIn scopes cs) where
  recorded := by
    rw [withFate_of_not_isEntered h cs (by decide)]
    exact List.nil_sublist _
  reported := by
    rw [withFate_of_not_isEntered h cs (by decide)]
    exact List.nil_sublist _

lemma shows_record (h : fate scopes = .recorded) (e : Element) (role : Role) :
    Shows [.record e role] [⟨scopes, e⟩] := by
  constructor <;> simp [withFate_singleton, h, Find.recorded?]

/-- What stands right in a choice, other than its branches, is reported. -/
lemma shows_unexpected (h : isEntered ("choice" :: scopes)) (e : Element) :
    Shows [.unexpected e] [⟨"choice" :: scopes, e⟩] := by
  constructor <;> simp [withFate_singleton, fate_choice h, Find.reported?]

/-- What stands right in a scatter-gather is lost, its routes apart. -/
lemma shows_passedOver (e : Element) : Shows [] [⟨"scatter-gather" :: scopes, e⟩] := by
  constructor <;> simp [withFate_singleton, fate_scatterGather]

lemma placedAt_of_mem_wrappers (h : e.localName ∈ wrappers) :
    placedAt scopes e = placedIn (e.localName :: scopes) e.children := by
  obtain ⟨name, attributes, children, span⟩ := e
  rw [placedAt, if_pos (show Xml.localPart name ∈ wrappers from h),
    if_pos (show Xml.localPart name ∈ containers from mem_containers_of_mem_wrappers h)]
  rfl

/-- What there is to find of a processor that is not entered is the processor alone. -/
lemma Shows.placedAt (h : Shows fs [⟨scopes, e⟩]) (hnot : ¬ isEntered (e.localName :: scopes)) :
    Shows fs (placedAt scopes e) := by
  obtain ⟨name, attributes, children, span⟩ := e
  rw [Mule.placedAt, ← List.append_nil fs]
  refine append ?_ ?_
  · split
    · exact .nil fs
    · exact h
  · split
    · exact shows_of_not_isEntered hnot children
    · exact .nil []

/-- What is not a processor is not asked for. -/
lemma Shows.ite (h : Shows fs (Mule.placedAt scopes e)) :
    Shows fs (if isProcessor e then Mule.placedAt scopes e else []) := by
  split
  · exact h
  · exact .nil fs

mutual

-- A content whose processors are recorded is a chain. The scopes are generalised, as they grow with
-- each level that is entered.

lemma shows_findsIn : ∀ (cs : List (Content Element)) {scopes : List String},
    fate scopes = .recorded → Shows (findsIn cs) (placedIn scopes cs)
  | [], scopes, _ => .nil _
  | .text _ :: cs, scopes, h => by
    rw [findsIn, placedIn]
    exact shows_findsIn cs h
  | .element e :: cs, scopes, h => by
    rw [findsIn, placedIn]
    refine .append ?_ (shows_findsIn cs h)
    split
    · exact shows_finds e h
    · exact .nil _

lemma shows_finds : ∀ (e : Element) {scopes : List String},
    fate scopes = .recorded → Shows (finds e) (placedAt scopes e)
  | ⟨name, attributes, children, span⟩, scopes, h => by
    have hrecord := shows_record h ⟨name, attributes, children, span⟩
    have hentered := isEntered_cons_iff h (Xml.localPart name)
    have halone (hkind : Kind.ofName (Xml.localPart name) ∉
        [.choice, .scatterGather, .loop, .tryScope]) (role : Role) :=
      (hrecord role).placedAt (by rwa [Element.localName_mk, hentered])
    rw [finds]
    cases hkind : Kind.ofName (Xml.localPart name) with
    | choice =>
      have hchoice := List.mem_singleton.mp ((kind_eq_iff (by decide)).mp hkind)
      rw [hkind, hchoice] at hentered
      rw [placedAt, hchoice, if_neg (show "choice" ∉ wrappers by decide),
        if_pos (show "choice" ∈ containers by decide)]
      exact (hrecord .step).append (shows_findsInParts (by decide) rfl shows_unexpected 0 children
        (hentered.mpr (by decide)))
    | scatterGather =>
      have hscatter := List.mem_singleton.mp ((kind_eq_iff (by decide)).mp hkind)
      rw [hkind, hscatter] at hentered
      rw [placedAt, hscatter, if_neg (show "scatter-gather" ∉ wrappers by decide),
        if_pos (show "scatter-gather" ∈ containers by decide)]
      have hroutes := shows_findsInParts (p := .routes) (by decide) rfl
        (fun _ => shows_passedOver) 0 children (hentered.mpr (by decide))
      exact ((hrecord .step).append hroutes).extend _
    | loop =>
      obtain ⟨hin, hfate⟩ := fate_of_kind h hkind (by decide)
      have hwrapper := (by decide : ∀ n ∈ Kind.loop.names, n ∉ wrappers) _
        ((kind_eq_iff (by decide)).mp hkind)
      rw [placedAt, if_neg hwrapper, if_pos hin]
      exact (hrecord .step).append (shows_findsIn children hfate)
    | tryScope =>
      obtain ⟨hin, hfate⟩ := fate_of_kind h hkind (by decide)
      have hwrapper := (by decide : ∀ n ∈ Kind.tryScope.names, n ∈ wrappers) _
        ((kind_eq_iff (by decide)).mp hkind)
      rw [placedAt, if_pos hwrapper, if_pos hin, List.nil_append]
      exact (shows_findsIn children hfate).extend _
    | flowRef => exact halone (by rw [hkind]; decide) .step
    | raiseError => exact halone (by rw [hkind]; decide) .finish
    | plain => exact halone (by rw [hkind]; decide) .step

lemma shows_findsInParts {p : Parts} {scope : String}
    (hscope : scope ∈ ["choice", "scatter-gather"]) (hnames : p.names = enteredIn (some scope))
    (hothers : ∀ {scopes : List String}, isEntered (scope :: scopes) → ∀ e : Element,
      Shows (p.others e) [⟨scope :: scopes, e⟩]) :
    ∀ (index : ℕ) (cs : List (Content Element)) {scopes : List String},
    isEntered (scope :: scopes) → Shows (findsInParts p index cs) (placedIn (scope :: scopes) cs)
  | index, [], scopes, _ => .nil _
  | index, .text _ :: cs, scopes, h => by
    rw [findsInParts, placedIn]
    exact shows_findsInParts hscope hnames hothers index cs h
  | index, .element ⟨name, attributes, children, span⟩ :: cs, scopes, h => by
    rw [findsInParts, placedIn]
    refine .append ?_ (shows_findsInParts hscope hnames hothers (index + 1) cs h)
    split
    · rename_i hpart
      obtain ⟨hwrapper, hfate⟩ := fate_of_mem_enteredIn hscope h (hnames ▸ hpart)
      refine .ite (e := ⟨name, attributes, children, span⟩) ?_
      rw [placedAt_of_mem_wrappers (e := ⟨name, attributes, children, span⟩) hwrapper]
      exact (shows_findsIn children hfate).extend _
    · rename_i hother
      have hothers' := hothers h ⟨name, attributes, children, span⟩
      refine (hothers'.placedAt fun hentered => hother ?_).ite
      rw [hnames]
      exact (isEntered_cons.mp hentered).1

end

/-- The message source that a flow begins with is the first of its processors. -/
lemma placedIn_afterFirstProcessor {first : Element} {cs : List (Content Element)}
    (hfind : (elementsIn cs).find? isProcessor = some first)
    (hfirst : placedAt scopes first = [⟨scopes, first⟩]) :
    placedIn scopes cs = [⟨scopes, first⟩] ++ placedIn scopes (afterFirstProcessor cs) := by
  induction cs with
  | nil => simp at hfind
  | cons c cs ih =>
    cases c with
    | text t =>
      rw [afterFirstProcessor, placedIn, placedIn]
      exact ih hfind
    | element e =>
      rw [Xml.elementsIn_element, List.find?_cons] at hfind
      rw [afterFirstProcessor, placedIn]
      cases he : isProcessor e with
      | true =>
        obtain rfl : e = first := by simpa [he] using hfind
        simp [hfirst]
      | false =>
        rw [he] at hfind
        simp [placedIn, he, ih hfind]

lemma placedAt_of_notMem_containers {e : Element} (h : e.localName ∉ containers)
    (scopes : List String) : placedAt scopes e = [⟨scopes, e⟩] := by
  obtain ⟨name, attributes, children, span⟩ := e
  have hwrapper : Xml.localPart name ∉ wrappers :=
    fun hmem => h (mem_containers_of_mem_wrappers hmem)
  rw [placedAt, if_neg hwrapper, if_neg (show Xml.localPart name ∉ containers from h)]
  rfl

lemma notMem_containers_of_isMessageSource {e : Element} (h : isMessageSource e) :
    e.localName ∉ containers := by
  intro hmem
  rw [isMessageSource] at h
  generalize e.localName = name at h hmem
  revert h
  revert name
  decide

lemma shows_findsOfChain (flow : Element) : Shows (findsOfChain flow) (processorsOf flow) := by
  unfold findsOfChain processorsOf
  split
  · rename_i first hfirst
    obtain ⟨hfind, hsource⟩ := Option.filter_eq_some_iff.mp hfirst
    have hplaced := placedAt_of_notMem_containers (notMem_containers_of_isMessageSource hsource) []
    rw [placedIn_afterFirstProcessor hfind hplaced]
    exact (shows_record rfl first .start).append (shows_findsIn _ rfl)
  · exact shows_findsIn _ rfl

end Shows

lemma accounts_walkFlow (s : Scope) (flow : Element) (w : Walk) :
    Accounts s w.found (walkFlow s flow w).found (processorsOf flow) := by
  have hshows : Shows (findsOfFlow flow) (processorsOf flow) := (shows_findsOfChain flow).extend _
  -- a flow is numbered anew, which changes nothing about what was found before
  have haccounts : Accounts s { w with next := 0 }.found _ _ :=
    hshows.accounts (finds_walkFlow s flow w)
  exact haccounts

/-! ### Applications -/

section Application

variable (source : SourceText) (globals : OrderedMap String Settings) (s : Scope)

lemma accounts_warn (d : Diagnostic) (w : Walk) : Accounts s w.found (w.warn d).found [] :=
  ⟨.refl _, ⟨_, rfl, .nil⟩⟩

lemma accounts_walkNamed (w : Walk) (flow : Element) :
    Accounts s w.found (walkNamed source globals w flow).found [] := by
  unfold walkNamed
  split
  · exact accounts_warn ..
  · split
    · exact accounts_warn ..
    · exact (accounts_walkFlow ⟨source, globals, _⟩ flow w).forget

lemma accounts_foldl (flows : List Element) (w : Walk) :
    Accounts s w.found (flows.foldl (walkNamed source globals) w).found [] := by
  induction flows generalizing w with
  | nil => exact .refl _
  | cons flow flows ih => exact (accounts_walkNamed source globals s w flow).extend (ih _)

/-- A flow is walked under its name unless an earlier one stands for it. -/
lemma walkNamed_of_flowNamed? {flows : List Element} {w : Walk} (h : Identified flows w)
    {flow : Element} {name : String} (hname : flow.attrNonBlank "name" = some name)
    (hnone : flowNamed? flows name = none) :
    walkNamed source globals w flow = walkFlow ⟨source, globals, name⟩ flow w := by
  unfold walkNamed
  rw [hname]
  refine if_neg fun htaken => ?_
  have hid : name ++ "/0" ∈ ids w := by simpa [ids] using htaken
  obtain ⟨name', hsome, hin, -⟩ := h.inFlow _ hid
  rw [hin.eq (stepId_zero name ▸ inFlow_stepId name 0), hnone] at hsome
  exact Bool.false_ne_true hsome

variable {root : Element}

/-- Whatever stands before a flow and after it, its processors are accounted for. -/
lemma accounts_walkAll {before after : List Element} {flow : Element}
    (hflows : root.elements.filter isFlow = before ++ flow :: after) {name : String}
    (hname : flow.attrNonBlank "name" = some name) (hnone : flowNamed? before name = none) :
    Accounts ⟨source, globalSettings root, name⟩ ([], []) (walkAll source root).found
      (processorsOf flow) := by
  rw [walkAll, hflows, List.foldl_append, List.foldl_cons,
    walkNamed_of_flowNamed? source _ (.foldl source _ before) hname hnone]
  have hbefore := accounts_foldl source (globalSettings root)
    ⟨source, globalSettings root, name⟩ before {}
  refine .extend ?_ (accounts_foldl ..)
  exact hbefore.append (accounts_walkFlow ..)

end Application

/-- Finishing a record changes its links alone. -/
lemma sublistForall₂_finish {s : Scope} {es : List Element} {w : Walk}
    (h : List.SublistForall₂ (IsRecordIn s) es w.records) :
    List.SublistForall₂ (IsRecordIn s) es w.finish := by
  rw [Walk.finish, List.sublistForall₂_map_right_iff]
  obtain ⟨rs, hrs, hsub⟩ := List.sublistForall₂_iff.mp h
  exact List.sublistForall₂_iff.mpr ⟨rs, hrs.imp fun _ _ hr => hr.withLinks _, hsub⟩

end Mule

end IntegrationFlow.Source
