import Mathlib
import IntegrationFlow.Proofs.Element
import IntegrationFlow.Proofs.Source.Run
import IntegrationFlow.Source.Mule

/-!
# How chains are laid

The processors of a flow are laid as runs, numbered within the flow. Choices, scatter-gathers and
loops are forks, error handlers are laid beside what they protect, and flow references are calls.
-/

namespace IntegrationFlow.Source.Mule

open Xml (Element Content cons_descendants_subset descendantsIn descendantsIn_children_subset
  descendantsIn_subset_cons)

/-! ### Records -/

/-- The flow that an element calls, if it is a flow reference with a fixed name. -/
def callee? (e : Element) : Option String :=
  if e.localName = "flow-ref" then
    (e.attrNonBlank "name").filter fun name => !Text.beginsWith "#[" name
  else none

/-- A record is that of an element, whatever its links are. -/
def IsRecordOf (source : SourceText) (e : Element) (r : Record) : Prop :=
  ∃ s role n, Scope.source s = source ∧ r = (s.record e role n).withLinks r.links

lemma IsRecordOf.withLinks {source : SourceText} {e : Element} {r : Record}
    (h : IsRecordOf source e r) (links : List Link) : IsRecordOf source e (r.withLinks links) := by
  obtain ⟨s, role, n, hs, hr⟩ := h
  refine ⟨s, role, n, hs, ?_⟩
  generalize s.record e role n = r' at hr ⊢
  rw [hr]
  rfl

/-- A record that stands for no element of its own. -/
structure IsSynthetic (source : SourceText) (r : Record) : Prop where
  document_eq : r.document = source.document
  mergeKey_eq : r.mergeKey = none
  sourceType_ne : Xml.localPart r.sourceType ≠ "flow-ref"

/-- What `emitSynthetic` emits. -/
def syntheticRecord (s : Scope) (id name sourceType : String) (role : Role) : Record :=
  { id, name, sourceType, document := s.source.document, dialect := some .mule, role }

lemma isSynthetic_syntheticRecord {s : Scope} {id name sourceType : String} {role : Role}
    (h : Xml.localPart sourceType ≠ "flow-ref") :
    IsSynthetic s.source (syntheticRecord s id name sourceType role) := ⟨rfl, rfl, h⟩

/-- What flows are made of. The elements `es` are those that steps and calls are made from. -/
def manner (s : Scope) (es : List Element) : Manner where
  idOf := s.numbered
  Step r := IsSynthetic s.source r ∨ ∃ e ∈ es, callee? e = none ∧ IsRecordOf s.source e r
  Call r target := ∃ e ∈ es, ∃ name, callee? e = some name ∧ target = name ++ "/0" ∧
    IsRecordOf s.source e r
  Outlet r := IsSynthetic s.source r ∧ ∃ index : Nat, r.id = s.flow ++ "/error-end-" ++ toString index
  ends := True
  repeats := False

lemma kind_eq_flowRef_iff {name : String} : Kind.ofName name = .flowRef ↔ name = "flow-ref" := by
  constructor
  · intro h
    unfold Kind.ofName at h
    split at h <;> simp_all
  · rintro rfl
    rfl

lemma callee?_eq_none {e : Element} (h : Kind.ofName e.localName ≠ .flowRef) : callee? e = none :=
  if_neg fun hname => h (kind_eq_flowRef_iff.mpr hname)

section Walkers

variable (s : Scope) (es : List Element)

lemma adds_emit (e : Element) (role : Role) (w : Walk) :
    w.Adds (s.emit e role w).2 [s.record e role w.next] ∅ :=
  w.adds_emit_advance _

lemma adds_emitSynthetic (id name sourceType : String) (role : Role) (w : Walk) :
    w.Adds (s.emitSynthetic id name sourceType role w)
      [syntheticRecord s id name sourceType role] ∅ :=
  w.adds_emit _

lemma isRecordOf_record (e : Element) (role : Role) (n : Nat) :
    IsRecordOf s.source e (s.record e role n) := ⟨s, role, n, rfl, (Record.withLinks_self _).symm⟩

variable {es} in
/-- The record of a step is the head of a fork to which branches may be added. -/
lemma laid_emit {e : Element} (he : e ∈ es) (hcallee : callee? e = none) (role : Role) (w : Walk) :
    Laid (manner s es) .fork w.next (s.emit e role w).2.next [s.record e role w.next] ∅
      ⟨some (s.emit e role w).1, []⟩ :=
  .fork (.inr ⟨e, he, hcallee, isRecordOf_record s e role _⟩) rfl

variable {es} in
/-- Runs in a row become a branch of a fork. -/
lemma lays_enter {i : Nat} {rs rs' : List Record} {ls ls' : Set (String × Link)} {head : String}
    {exits : List Exit} {condition : Option String} {fs : List Fragment} {w w' : Walk}
    (hfork : Laid (manner s es) .fork i w.next rs ls ⟨some head, exits⟩)
    (hadds : w.Adds w' rs' ls') (hall : LaidAll (manner s es) w.next w'.next rs' ls' fs) :
    Lays (manner s es) .fork i rs ls w
      (enter head condition (w'.sequence fs).1 (w'.sequence fs).2).2
      ⟨some head, exits ++ (enter head condition (w'.sequence fs).1 (w'.sequence fs).2).1⟩ := by
  obtain ⟨rs₁, ls₁, hadds₁, hbody⟩ := hall.exists_sequence hadds
  generalize w'.sequence fs = result at hadds₁ hbody ⊢
  obtain ⟨⟨_ | first, exits'⟩, v⟩ := result
  · obtain ⟨hnext, rfl, rfl, -⟩ := hbody.eq_empty rfl
    refine ⟨[], ∅, hadds₁, ?_⟩
    rw [List.append_nil, Set.union_empty]
    exact hnext ▸ hfork.pass
  · exact ⟨rs₁, _, hadds₁.link head first .sequence condition, hfork.branch hbody⟩

variable {es} in
/-- The routes of a fork, or the fork itself if they leave nothing, are tied to one more record. -/
lemma lays_aggregate {e : Element} (hname : e.localName ≠ "flow-ref") {i : Nat} {rs : List Record}
    {ls : Set (String × Link)} {head : String} {exits : List Exit} {w : Walk}
    (hfork : Laid (manner s es) .fork i w.next rs ls ⟨some head, exits⟩) :
    Lays (manner s es) .run i rs ls w
      ((s.emitAggregate e w).2.connect (if exits.isEmpty then [⟨head, none⟩] else exits)
        (s.emitAggregate e w).1)
      ⟨some head, [⟨(s.emitAggregate e w).1, none⟩]⟩ := by
  have hrun : Laid (manner s es) .run i w.next rs ls
      ⟨some head, if exits.isEmpty then [⟨head, none⟩] else exits⟩ := by
    split
    · rename_i hempty
      rw [List.isEmpty_iff.mp hempty] at hfork
      exact hfork.pass.close fun _ => trivial
    · exact hfork.close fun _ => trivial
  refine ⟨_, _, (w.adds_emit_advance _).connect .., ?_⟩
  rw [Walk.next_connect]
  exact hrun.after (.step (.inl ⟨rfl, rfl, hname⟩) rfl)

variable {es} in
/-- A strategy handles an error with its own run, or with one that leads to an error end. -/
lemma exists_handler (propagates : Bool) (index : Nat) {w w' : Walk} {rs : List Record}
    {ls : Set (String × Link)} {body : Fragment} (hadds : w.Adds w' rs ls)
    (hbody : Laid (manner s es) .run w.next w'.next rs ls body) {result : Fragment × Walk}
    (hresult : result =
      if propagates then
        (s.emitSynthetic (s.flow ++ "/error-end-" ++ toString index) "Error End"
          "on-error-propagate" .finish w').sequence
          [body, .terminal (s.flow ++ "/error-end-" ++ toString index)]
      else (body, w')) :
    ∃ rs' ls', w.Adds result.2 rs' ls' ∧
      Laid (manner s es) .handler w.next result.2.next rs' ls' result.1 := by
  cases propagates with
  | false => exact ⟨rs, ls, hresult ▸ hadds, hresult ▸ hbody.resume⟩
  | true =>
    rw [if_pos rfl, Walk.sequence_pair] at hresult
    generalize hid : s.flow ++ "/error-end-" ++ toString index = id at hresult
    have hend := (hadds.trans (adds_emitSynthetic s id "Error End" "on-error-propagate" .finish w')).join
      body (.terminal id)
    refine ⟨_, _, hresult ▸ hend, ?_⟩
    rw [hresult, Walk.fst_join, Walk.next_join, Set.union_empty]
    exact hbody.conclude (r := syntheticRecord s id "Error End" "on-error-propagate" .finish)
      ⟨isSynthetic_syntheticRecord (by decide), index, hid.symm⟩ trivial

mutual

lemma lays_fragments : ∀ (cs : List (Content Element)) (w : Walk),
    descendantsIn cs ⊆ es →
      ∃ rs ls, w.Adds (fragments s cs w).2 rs ls ∧
        LaidAll (manner s es) w.next (fragments s cs w).2.next rs ls (fragments s cs w).1
  | [], w, _ => by
    rw [fragments]
    exact ⟨[], ∅, w.adds_self, .nil _⟩
  | .text _ :: cs, w, hes => by
    rw [fragments]
    exact lays_fragments cs w hes
  | .element e :: cs, w, hes => by
    have hcs := List.Subset.trans (descendantsIn_subset_cons e cs) hes
    rw [fragments]
    split
    · obtain ⟨rs, ls, hadds, hlaid⟩ := lays_nil_iff.mp
        (lays_processor e w (List.Subset.trans (cons_descendants_subset e cs) hes))
      obtain ⟨rs', ls', hadds', hrest⟩ := lays_fragments cs (processor s e w).2 hcs
      exact ⟨_, _, hadds.trans hadds', .cons hlaid hrest⟩
    · exact lays_fragments cs w hcs

lemma lays_processor : ∀ (e : Element) (w : Walk), e :: e.descendants ⊆ es →
    Lays (manner s es) .run w.next [] ∅ w (processor s e w).2 (processor s e w).1
  | ⟨name, attributes, children, span⟩, w, hes => by
    have hchildren := List.Subset.trans (descendantsIn_children_subset _) hes
    have hmem := hes (List.mem_cons_self ..)
    simp only [processor]
    generalize (⟨name, attributes, children, span⟩ : Element) = e at hmem ⊢
    split
    · rename_i hkind
      have hhead := laid_emit s hmem (callee?_eq_none (by simp [hkind])) .step w
      obtain ⟨rs', ls', hadds, hfork⟩ := lays_branches _ children _ hchildren hhead
      refine lays_nil_iff.mpr ⟨_, _, (adds_emit s e .step w).trans hadds, ?_⟩
      unfold choiceExits
      split
      · exact hfork.close fun _ => trivial
      · exact hfork.pass.close fun _ => trivial
    · -- the routes come together in one more record
      rename_i hkind
      have hhead := laid_emit s hmem (callee?_eq_none (by simp [hkind])) .step w
      obtain ⟨rs', ls', hadds, hfork⟩ := lays_routes _ children _ hchildren hhead
      have hname : e.localName ≠ "flow-ref" := fun hname => by simp [hname, Kind.ofName] at hkind
      exact .of_nil ((adds_emit s e .step w).trans hadds) (lays_aggregate s hname hfork)
    · rename_i hkind
      have hhead := laid_emit s hmem (callee?_eq_none (by simp [hkind])) .step w
      obtain ⟨rs₀, ls₀, hadds₀, hall⟩ := lays_fragments children (s.emit e .step w).2 hchildren
      obtain ⟨rs', ls', hadds, hfork⟩ := lays_enter s hhead hadds₀ hall
      exact lays_nil_iff.mpr
        ⟨_, _, (adds_emit s e .step w).trans hadds, hfork.close fun _ => trivial⟩
    · obtain ⟨rs₀, ls₀, hadds₀, hall⟩ := lays_fragments children w hchildren
      obtain ⟨rs', ls', hadds, hlaid⟩ := hall.exists_sequence hadds₀
      split
      · exact lays_nil_iff.mpr ⟨rs', ls', hadds, hlaid⟩
      · rename_i entry hentry
        refine .of_nil hadds ?_
        rw [← hentry]
        exact lays_firstHandler entry children _ hchildren (hlaid.wired.entry_mem _ hentry) hlaid
    · rename_i hkind
      have hname := kind_eq_flowRef_iff.mp hkind
      split
      · rename_i target htarget
        refine lays_nil_iff.mpr ⟨_, _, (adds_emit s e .step w).link .., ?_⟩
        rw [Set.empty_union]
        refine .call ⟨e, hmem, target, ?_, rfl, isRecordOf_record ..⟩ rfl
        rwa [callee?, if_pos hname]
      · rename_i htarget
        refine lays_nil_iff.mpr ⟨_, _, adds_emit s e .step w, .step (.inr ⟨e, hmem, ?_, ?_⟩) rfl⟩
        · rwa [callee?, if_pos hname]
        · exact isRecordOf_record ..
    · rename_i hkind
      have hcallee := callee?_eq_none (by simp [hkind] : Kind.ofName e.localName ≠ .flowRef)
      exact lays_nil_iff.mpr ⟨_, _, adds_emit s e .finish w,
        .finish (.inr ⟨e, hmem, hcallee, isRecordOf_record ..⟩) rfl trivial⟩
    · rename_i hkind
      have hcallee := callee?_eq_none (by simp [hkind] : Kind.ofName e.localName ≠ .flowRef)
      exact lays_nil_iff.mpr ⟨_, _, adds_emit s e .step w,
        .step (.inr ⟨e, hmem, hcallee, isRecordOf_record ..⟩) rfl⟩

lemma lays_branches (id : String) : ∀ (cs : List (Content Element)) (w : Walk) {i : Nat}
    {rs : List Record} {ls : Set (String × Link)} {exits : List Exit},
    descendantsIn cs ⊆ es →
    Laid (manner s es) .fork i w.next rs ls ⟨some id, exits⟩ →
      Lays (manner s es) .fork i rs ls w (branches s id cs w).2
        ⟨some id, exits ++ (branches s id cs w).1⟩
  | [], w, i, rs, ls, exits, _, hfork => by
    simpa only [branches, List.append_nil] using hfork.lays
  | .text _ :: cs, w, i, rs, ls, exits, hes, hfork => by
    rw [branches]
    exact lays_branches id cs w hes hfork
  | .element ⟨name, attributes, children, span⟩ :: cs, w, i, rs, ls, exits, hes, hfork => by
    have hcs := List.Subset.trans (descendantsIn_subset_cons _ cs) hes
    have hchildren := List.Subset.trans (descendantsIn_children_subset _)
      (List.Subset.trans (cons_descendants_subset ⟨name, attributes, children, span⟩ cs) hes)
    simp only [branches]
    split
    · obtain ⟨rs₀, ls₀, hadds₀, hall⟩ := lays_fragments children w hchildren
      obtain ⟨rs', ls', hadds, hfork'⟩ := lays_enter s hfork hadds₀ hall
      rw [← List.append_assoc]
      exact .of_adds hadds (lays_branches id cs _ hcs hfork')
    · exact (lays_branches id cs (w.warn _) hcs hfork).of_warn

lemma lays_routes (id : String) : ∀ (cs : List (Content Element)) (w : Walk) {i : Nat}
    {rs : List Record} {ls : Set (String × Link)} {exits : List Exit},
    descendantsIn cs ⊆ es →
    Laid (manner s es) .fork i w.next rs ls ⟨some id, exits⟩ →
      Lays (manner s es) .fork i rs ls w (routes s id cs w).2
        ⟨some id, exits ++ (routes s id cs w).1⟩
  | [], w, i, rs, ls, exits, _, hfork => by
    simpa only [routes, List.append_nil] using hfork.lays
  | .text _ :: cs, w, i, rs, ls, exits, hes, hfork => by
    rw [routes]
    exact lays_routes id cs w hes hfork
  | .element ⟨name, attributes, children, span⟩ :: cs, w, i, rs, ls, exits, hes, hfork => by
    have hcs := List.Subset.trans (descendantsIn_subset_cons _ cs) hes
    have hchildren := List.Subset.trans (descendantsIn_children_subset _)
      (List.Subset.trans (cons_descendants_subset ⟨name, attributes, children, span⟩ cs) hes)
    simp only [routes]
    split
    · obtain ⟨rs₀, ls₀, hadds₀, hall⟩ := lays_fragments children w hchildren
      obtain ⟨rs', ls', hadds, hfork'⟩ := lays_enter s hfork hadds₀ hall
      rw [← List.append_assoc]
      exact .of_adds hadds (lays_routes id cs _ hcs hfork')
    · exact lays_routes id cs w hcs hfork

lemma lays_firstHandler (entry : String) : ∀ (cs : List (Content Element)) (w : Walk) {i : Nat}
    {rs : List Record} {ls : Set (String × Link)} {f : Fragment},
    descendantsIn cs ⊆ es → entry ∈ rs.map Record.id →
    Laid (manner s es) .run i w.next rs ls f →
      Lays (manner s es) .run i rs ls w (firstHandler s entry cs w).2
        ⟨f.entry, f.exits ++ (firstHandler s entry cs w).1⟩
  | [], w, i, rs, ls, f, _, _, hrun => by
    simpa only [firstHandler, List.append_nil] using hrun.lays
  | .text _ :: cs, w, i, rs, ls, f, hes, hentry, hrun => by
    rw [firstHandler]
    exact lays_firstHandler entry cs w hes hentry hrun
  | .element ⟨name, attributes, children, span⟩ :: cs, w, i, rs, ls, f, hes, hentry, hrun => by
    have hcs := List.Subset.trans (descendantsIn_subset_cons _ cs) hes
    have hchildren := List.Subset.trans (descendantsIn_children_subset _)
      (List.Subset.trans (cons_descendants_subset ⟨name, attributes, children, span⟩ cs) hes)
    simp only [firstHandler]
    split
    · exact lays_strategies entry 0 children w hchildren hentry hrun
    · exact lays_firstHandler entry cs w hcs hentry hrun

lemma lays_strategies (entry : String) (index : Nat) : ∀ (cs : List (Content Element)) (w : Walk)
    {i : Nat} {rs : List Record} {ls : Set (String × Link)} {f : Fragment},
    descendantsIn cs ⊆ es → entry ∈ rs.map Record.id →
    Laid (manner s es) .run i w.next rs ls f →
      Lays (manner s es) .run i rs ls w (strategies s entry index cs w).2
        ⟨f.entry, f.exits ++ (strategies s entry index cs w).1⟩
  | [], w, i, rs, ls, f, _, _, hrun => by
    simpa only [strategies, List.append_nil] using hrun.lays
  | .text _ :: cs, w, i, rs, ls, f, hes, hentry, hrun => by
    rw [strategies]
    exact lays_strategies entry index cs w hes hentry hrun
  | .element ⟨name, attributes, children, span⟩ :: cs, w, i, rs, ls, f, hes, hentry, hrun => by
    have hcs := List.Subset.trans (descendantsIn_subset_cons _ cs) hes
    have hchildren := List.Subset.trans (descendantsIn_children_subset _)
      (List.Subset.trans (cons_descendants_subset ⟨name, attributes, children, span⟩ cs) hes)
    simp only [strategies]
    generalize (⟨name, attributes, children, span⟩ : Element) = e
    split
    · obtain ⟨rs₀, ls₀, hadds₀, hall⟩ := lays_fragments children w hchildren
      obtain ⟨rs₁, ls₁, hadds₁, hbody⟩ := hall.exists_sequence hadds₀
      obtain ⟨rs₂, ls₂, hadds₂, hhandler⟩ := exists_handler s
        (e.localName == "on-error-propagate") index hadds₁ hbody rfl
      obtain ⟨rs', ls', hadds, hrun'⟩ :=
        hrun.lays_handle (e.attrNonBlank "type") hentry hadds₂ hhandler
      have hguarded : entry ∈ (rs ++ rs').map Record.id := by
        rw [List.map_append]
        exact List.mem_append_left _ hentry
      have hrest := lays_strategies entry (index + 1) cs _ hcs hguarded hrun'
      dsimp only
      rw [← List.append_assoc]
      exact .of_adds hadds hrest
    · exact (lays_strategies entry (index + 1) cs (w.warn _) hcs hentry hrun).of_warn

end

end Walkers

end IntegrationFlow.Source.Mule
