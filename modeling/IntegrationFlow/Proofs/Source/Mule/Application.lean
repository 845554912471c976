import Mathlib
import IntegrationFlow.Proofs.Graph.Cycle
import IntegrationFlow.Proofs.Source.Mule.Chain

/-!
# How applications are wired

Every link within a flow leads to one of its records, and those of the sequence lead on to higher
numbers or to where the flow ends, so they never run in a circle. A flow with something to run begins
with its record `0`, and that is what flow references lead to.
-/

namespace IntegrationFlow.Source.Mule

open Xml (Element Content descendantsIn descendantsIn_subset_cons descendants_subset_of_mem
  elementsIn_subset_descendantsIn)

/-! ### Ids -/

/-- The id of the record with a number in a flow. -/
def stepId (flow : String) (n : Nat) : String := flow ++ "/" ++ toString n

lemma stepId_zero (flow : String) : stepId flow 0 = flow ++ "/0" := String.append_assoc ..

/-- The number is what follows the last slash. -/
lemma afterLast_stepId (flow : String) (n : Nat) :
    Text.afterLast '/' (stepId flow n) = toString n := by
  refine Text.afterLast_append fun hslash => ?_
  exact absurd (isDigit_of_mem_toString hslash) (by decide)

lemma stepId_inj {flow flow' : String} {n n' : Nat} (h : stepId flow n = stepId flow' n') :
    flow = flow' ∧ n = n' := by
  have hn : toString n = toString n' := by
    rw [← afterLast_stepId flow, h, afterLast_stepId]
  unfold stepId at h
  rw [hn] at h
  exact ⟨String.append_left_inj _ |>.mp (String.append_left_inj _ |>.mp h), Nat.repr_inj.mp hn⟩

/-- What ends in a text other than digits has no number. -/
lemma append_ne_stepId {t : String} (hslash : '/' ∉ t.toList) (he : 'e' ∈ t.toList)
    (flow flow' : String) (n : Nat) : flow ++ ("/" ++ t) ≠ stepId flow' n := by
  intro h
  have hlast : t = toString n := by
    rw [← afterLast_stepId flow' n, ← h, ← String.append_assoc]
    exact (Text.afterLast_append hslash).symm
  exact absurd (isDigit_of_mem_toString (hlast ▸ he)) (by decide)

lemma end_ne_stepId (flow flow' : String) (n : Nat) : flow ++ "/end" ≠ stepId flow' n :=
  append_ne_stepId (t := "end") (by decide) (by decide) flow flow' n

lemma slash_notMem_errorEnd (index : Nat) : '/' ∉ ("error-end-" ++ toString index).toList := by
  rw [String.toList_append, List.mem_append, not_or]
  refine ⟨by decide, fun hslash => ?_⟩
  exact absurd (isDigit_of_mem_toString hslash) (by decide)

lemma errorEnd_ne_stepId (flow : String) (index : Nat) (flow' : String) (n : Nat) :
    flow ++ "/error-end-" ++ toString index ≠ stepId flow' n := by
  have he : 'e' ∈ ("error-end-" ++ toString index).toList := by
    rw [String.toList_append, List.mem_append]
    exact .inl (by decide)
  rw [String.append_assoc]
  exact append_ne_stepId (slash_notMem_errorEnd index) he flow flow' n

/-- The order of the sequence: within a flow to a higher number, or to an end. -/
def Precedes (u v : String) : Prop :=
  ∃ flow n, u = stepId flow n ∧
    ((∃ k, n < k ∧ v = stepId flow k) ∨ ∀ flow' k, v ≠ stepId flow' k)

lemma Precedes.trans {u v x : String} (h : Precedes u v) (h' : Precedes v x) : Precedes u x := by
  obtain ⟨flow, n, rfl, h⟩ := h
  obtain ⟨flow', k, rfl, h'⟩ := h'
  rcases h with ⟨k', hlt, heq⟩ | hend
  · obtain ⟨rfl, rfl⟩ := stepId_inj heq
    refine ⟨_, n, rfl, h'.imp_left ?_⟩
    rintro ⟨i, hki, rfl⟩
    exact ⟨i, hlt.trans hki, rfl⟩
  · exact absurd rfl (hend flow' k)

lemma not_precedes_self (u : String) : ¬ Precedes u u := by
  rintro ⟨flow, n, rfl, ⟨k, hlt, heq⟩ | hend⟩
  · obtain ⟨-, rfl⟩ := stepId_inj heq
    exact absurd hlt (lt_irrefl n)
  · exact hend flow n rfl

/-! ### What holds of flows and applications -/

/-- A record is that of an element, with a link for its call, or it stands for none. -/
def IsAccounted (source : SourceText) (es : List Element) (ls : Set (String × Link))
    (r : Record) : Prop :=
  IsSynthetic source r ∨ ∃ e ∈ es, IsRecordOf source e r ∧
    ∀ name, callee? e = some name → (r.id, ⟨name ++ "/0", .reference, none⟩) ∈ ls

lemma IsAccounted.mono {source : SourceText} {es : List Element} {ls ls' : Set (String × Link)}
    {r : Record} (h : IsAccounted source es ls r) (hsub : ls ⊆ ls') :
    IsAccounted source es ls' r := by
  refine h.imp_right ?_
  rintro ⟨e, he, hof, hcall⟩
  exact ⟨e, he, hof, fun name hname => hsub (hcall name hname)⟩

/-- Records and links that hold together: links stay among the records, apart from calls, and lead
on in order, and every record is accounted for. -/
structure Coheres (source : SourceText) (es : List Element) (rs : List Record)
    (ls : Set (String × Link)) : Prop where
  source_mem : ∀ l ∈ ls, l.1 ∈ rs.map Record.id
  target_mem : ∀ l ∈ ls, l.2.kind ≠ .reference → l.2.target ∈ rs.map Record.id
  reference : ∀ l ∈ ls, l.2.kind = .reference →
    ∃ e ∈ es, ∃ name, callee? e = some name ∧ l.2.target = name ++ "/0"
  sequence : ∀ l ∈ ls, l.2.kind = .sequence → Precedes l.1 l.2.target
  record : ∀ r ∈ rs, IsAccounted source es ls r

namespace Coheres

variable {source : SourceText} {es : List Element} {rs rs' : List Record}
  {ls ls' : Set (String × Link)}

lemma empty : Coheres source es [] ∅ := by
  constructor <;> simp

lemma append (h : Coheres source es rs ls) (h' : Coheres source es rs' ls') :
    Coheres source es (rs ++ rs') (ls ∪ ls') := by
  constructor
  · rintro l (hl | hl)
    · exact List.map_append ▸ List.mem_append_left _ (h.source_mem l hl)
    · exact List.map_append ▸ List.mem_append_right _ (h'.source_mem l hl)
  · rintro l (hl | hl) hkind
    · exact List.map_append ▸ List.mem_append_left _ (h.target_mem l hl hkind)
    · exact List.map_append ▸ List.mem_append_right _ (h'.target_mem l hl hkind)
  · rintro l (hl | hl)
    · exact h.reference l hl
    · exact h'.reference l hl
  · rintro l (hl | hl)
    · exact h.sequence l hl
    · exact h'.sequence l hl
  · intro r hr
    rcases List.mem_append.mp hr with hr | hr
    · exact (h.record r hr).mono Set.subset_union_left
    · exact (h'.record r hr).mono Set.subset_union_right

/-- The order of the records does not matter. -/
lemma perm (h : Coheres source es rs ls) (hperm : rs.Perm rs') : Coheres source es rs' ls where
  source_mem l hl := (hperm.map _).mem_iff.mp (h.source_mem l hl)
  target_mem l hl hkind := (hperm.map _).mem_iff.mp (h.target_mem l hl hkind)
  reference := h.reference
  sequence := h.sequence
  record r hr := h.record r (hperm.mem_iff.mpr hr)

/-- Loose ends are tied to an end. -/
lemma finish (h : Coheres source es rs ls) {r : Record} {exits : List Exit}
    (hr : IsSynthetic source r) (hend : ∀ flow n, r.id ≠ stepId flow n)
    (hexits : ∀ x ∈ exits, x.source ∈ rs.map Record.id ∧ ∃ flow n, x.source = stepId flow n) :
    Coheres source es (rs ++ [r]) (ls ∪ tied exits r.id) := by
  have hmem : ∀ x ∈ rs.map Record.id, x ∈ (rs ++ [r]).map Record.id := by
    intro x hx
    rw [List.map_append]
    exact List.mem_append_left _ hx
  constructor
  · rintro l (hl | ⟨x, hx, rfl⟩)
    · exact hmem _ (h.source_mem l hl)
    · exact hmem _ (hexits x hx).1
  · rintro l (hl | ⟨x, hx, rfl⟩) hkind
    · exact hmem _ (h.target_mem l hl hkind)
    · simp
  · rintro l (hl | ⟨x, hx, rfl⟩) hkind
    · exact h.reference l hl hkind
    · exact absurd hkind (by simp)
  · rintro l (hl | ⟨x, hx, rfl⟩) hkind
    · exact h.sequence l hl hkind
    · obtain ⟨-, flow, n, hsource⟩ := hexits x hx
      exact ⟨flow, n, hsource, .inr hend⟩
  · intro x hx
    rcases List.mem_append.mp hx with hx | hx
    · exact (h.record x hx).mono Set.subset_union_left
    · obtain rfl := List.mem_singleton.mp hx
      exact .inl hr

end Coheres

/-- What is laid in a flow holds together. -/
lemma coheres_of_laid {s : Scope} {es : List Element} {form : Form} {i j : Nat} {rs : List Record}
    {ls : Set (String × Link)} {f : Fragment} (h : Laid (manner s es) form i j rs ls f) :
    Coheres s.source es rs ls where
  source_mem := h.wired.source_mem
  target_mem := h.wired.target_mem
  reference l hl hkind := by
    obtain ⟨r, -, -, e, he, name, hname, htarget, -⟩ := h.exists_call l hl hkind
    exact ⟨e, he, name, hname, htarget⟩
  sequence l hl hkind := by
    obtain ⟨n, hsource, ⟨k, hlt, htarget⟩ | ⟨r, ⟨-, index, hid⟩, htarget⟩⟩ :=
      h.onward not_false l hl hkind
    · exact ⟨s.flow, n, hsource, .inl ⟨k, hlt, htarget⟩⟩
    · refine ⟨s.flow, n, hsource, .inr fun flow k => ?_⟩
      rw [htarget, hid]
      exact errorEnd_ne_stepId s.flow index flow k
  record r hr := by
    rcases h.record_cases r hr with (hstep | ⟨e, he, hcallee, hof⟩) | ⟨hout, -⟩ |
      ⟨target, ⟨e, he, name, hname, htarget, hof⟩, hmem⟩
    · exact .inl hstep
    · exact .inr ⟨e, he, hof, fun name hname => absurd hname (by simp [hcallee])⟩
    · exact .inl hout
    · refine .inr ⟨e, he, hof, fun name' hname' => ?_⟩
      obtain rfl := Option.some.inj (hname.symm.trans hname')
      exact htarget ▸ hmem

/-! ### Flows -/

lemma descendantsIn_afterFirstProcessor (cs : List (Content Element)) :
    descendantsIn (afterFirstProcessor cs) ⊆ descendantsIn cs := by
  induction cs with
  | nil => exact List.Subset.refl _
  | cons c cs ih =>
    cases c with
    | text t => exact ih
    | element e =>
      rw [afterFirstProcessor]
      split
      · exact descendantsIn_subset_cons e cs
      · simp only [descendantsIn]
        exact List.cons_subset_cons _ (List.append_subset.mpr ⟨List.subset_append_left ..,
          List.Subset.trans ih (List.subset_append_right ..)⟩)

/-- A source of messages is none of the elements that are walked in a way of their own. -/
lemma kind_of_isMessageSource {e : Element} (h : isMessageSource e) :
    Kind.ofName e.localName = .plain := by
  rw [isMessageSource] at h
  unfold Kind.ofName
  split
  case h_9 => rfl
  all_goals
    rename_i hname
    rw [hname] at h
    exact absurd h (by decide)

lemma callee?_of_isMessageSource {e : Element} (h : isMessageSource e) : callee? e = none :=
  callee?_eq_none (by simp [kind_of_isMessageSource h])

section Flow

variable {s : Scope} {es : List Element} {flow : Element}

lemma mem_of_messageSource? {first : Element} (h : messageSource? flow = some first) :
    first ∈ flow.descendants ∧ isMessageSource first := by
  obtain ⟨hfirst, hsource⟩ := Option.filter_eq_some_iff.mp h
  rw [Element.descendants_eq]
  exact ⟨elementsIn_subset_descendantsIn _ (List.mem_of_find?_eq_some hfirst), hsource⟩

/-- The chain of a flow is laid as a run. -/
lemma lays_chain (hes : flow.descendants ⊆ es) (w : Walk) :
    Lays (manner s es) .run w.next [] ∅ w (chain s flow w).2 (chain s flow w).1 := by
  have hchildren := Element.descendants_eq flow ▸ hes
  unfold chain
  split
  · rename_i first hfirst
    obtain ⟨hmem, hsource⟩ := mem_of_messageSource? hfirst
    obtain ⟨rs, ls, hadds, hall⟩ := lays_fragments s es (afterFirstProcessor flow.children)
      (s.emit first .start w).2
      (List.Subset.trans (descendantsIn_afterFirstProcessor _) hchildren)
    obtain ⟨rs', ls', hadds', hbody⟩ := hall.exists_sequence hadds
    have hstart : Laid (manner s es) .run w.next (s.emit first .start w).2.next
        [s.record first .start w.next] ∅ (.single (s.emit first .start w).1) :=
      .step (.inr ⟨first, hes hmem, callee?_of_isMessageSource hsource, isRecordOf_record ..⟩) rfl
    refine lays_nil_iff.mpr ⟨_, _, (adds_emit s first .start w).trans (hadds'.join _ _), ?_⟩
    rw [Walk.fst_join, Walk.next_join]
    exact hstart.join hbody
  · obtain ⟨rs, ls, hadds, hall⟩ := lays_fragments s es flow.children w hchildren
    exact lays_nil_iff.mpr (hall.exists_sequence hadds)

/-- The end of a flow that begins with a message source. -/
def flowEnd (s : Scope) : Record := syntheticRecord s (s.flow ++ "/end") "End" "end" .finish

/-- What is laid in a flow holds together with an end that its loose ends are tied to. -/
lemma coheres_of_finished {i j : Nat} {rs rs' : List Record} {ls ls' : Set (String × Link)}
    {entry : Option String} {exits exits' : List Exit}
    (h : Laid (manner s es) .run i j (rs ++ rs') (ls ∪ ls') ⟨entry, exits ++ exits'⟩) :
    Coheres s.source es (rs ++ (flowEnd s :: rs'))
      (ls ∪ (tied exits (s.flow ++ "/end") ∪ ls') ∪ tied exits' (s.flow ++ "/end")) := by
  have hexits : ∀ x ∈ exits ++ exits', x.source ∈ (rs ++ rs').map Record.id ∧
      ∃ flow n, x.source = stepId flow n := by
    intro x hx
    obtain ⟨n, -, -, hsource⟩ := h.exits_lt x hx
    exact ⟨h.wired.exits_mem x hx, s.flow, n, hsource⟩
  have hend : IsSynthetic s.source (flowEnd s) := isSynthetic_syntheticRecord (by decide)
  have hlinks : ls ∪ (tied exits (s.flow ++ "/end") ∪ ls') ∪ tied exits' (s.flow ++ "/end")
      = ls ∪ ls' ∪ tied (exits ++ exits') (s.flow ++ "/end") := by
    rw [tied_append]
    ac_rfl
  rw [hlinks]
  refine ((coheres_of_laid h).finish hend (end_ne_stepId s.flow) hexits).perm ?_
  rw [List.append_assoc]
  exact (List.perm_append_singleton ..).append_left rs

/-- What a flow adds whose chain has the entry given: nothing if there is none, and otherwise a run
in which an end may stand. -/
inductive Walked (s : Scope) (es : List Element) :
    Option String → List Record → Set (String × Link) → Prop
  | empty : Walked s es none [] ∅
  | plain {n rs ls entry exits} (h : Laid (manner s es) .run 0 n rs ls ⟨some entry, exits⟩) :
    Walked s es (some entry) rs ls
  | ended {n rs rs' ls ls' entry exits exits'}
    (h : Laid (manner s es) .run 0 n (rs ++ rs') (ls ∪ ls') ⟨some entry, exits ++ exits'⟩) :
    Walked s es (some entry) (rs ++ (flowEnd s :: rs'))
      (ls ∪ (tied exits (s.flow ++ "/end") ∪ ls') ∪ tied exits' (s.flow ++ "/end"))

section Walked

variable {rs : List Record} {ls : Set (String × Link)} {entry : Option String}

lemma Walked.coheres (h : Walked s es entry rs ls) : Coheres s.source es rs ls := by
  cases h with
  | empty => exact .empty
  | plain h => exact coheres_of_laid h
  | ended h => exact coheres_of_finished h

/-- A flow with something to run begins with its record `0`. -/
lemma Walked.first {x : String} (h : Walked s es (some x) rs ls) :
    x = s.flow ++ "/0" ∧ x ∈ rs.map Record.id := by
  cases h with
  | plain h =>
    exact ⟨(h.entry_eq (by simp) rfl).1.trans (stepId_zero s.flow), h.wired.entry_mem x rfl⟩
  | ended h =>
    refine ⟨(h.entry_eq (by simp) rfl).1.trans (stepId_zero s.flow), ?_⟩
    have hmem := h.wired.entry_mem x rfl
    rw [List.map_append, List.mem_append] at hmem ⊢
    exact hmem.imp_right (List.mem_cons_of_mem _)

end Walked

/-- What walking a flow adds. -/
lemma exists_walkFlow (hes : flow.descendants ⊆ es) (w : Walk) :
    ∃ rs ls, w.Adds (walkFlow s flow w) rs ls ∧
      Walked s es (chain s flow { w with next := 0 }).1.entry rs ls := by
  obtain ⟨rs, ls, hadds, hlaid⟩ := lays_nil_iff.mp (lays_chain hes { w with next := 0 })
  have hchildren := Element.descendants_eq flow ▸ hes
  replace hadds : w.Adds (chain s flow { w with next := 0 }).2 rs ls := ⟨hadds.1, hadds.2⟩
  unfold walkFlow
  generalize chain s flow { w with next := 0 } = result at hadds hlaid ⊢
  obtain ⟨⟨_ | entry, exits⟩, w'⟩ := result
  · obtain ⟨-, rfl, rfl, -⟩ := hlaid.eq_empty rfl
    exact ⟨[], ∅, hadds, .empty⟩
  · have hmem := hlaid.wired.entry_mem entry rfl
    dsimp only
    split
    · -- the end comes before the error handlers, and what they leave is tied to it as well
      have hend := (adds_emitSynthetic s (s.flow ++ "/end") "End" "end" .finish w').connect
        exits (s.flow ++ "/end")
      have hnext : ((s.emitSynthetic (s.flow ++ "/end") "End" "end" .finish w').connect exits
          (s.flow ++ "/end")).next = w'.next := Walk.next_connect ..
      generalize (s.emitSynthetic (s.flow ++ "/end") "End" "end" .finish w').connect exits
        (s.flow ++ "/end") = v at hend hnext ⊢
      obtain ⟨rs', ls', hadds', hlaid'⟩ :=
        lays_firstHandler s es entry flow.children v hchildren hmem (hnext ▸ hlaid)
      refine ⟨_, _, (hadds.trans (hend.trans hadds')).connect .., ?_⟩
      rw [Set.empty_union]
      exact .ended hlaid'
    · obtain ⟨rs', ls', hadds', hlaid'⟩ :=
        lays_firstHandler s es entry flow.children w' hchildren hmem hlaid
      exact ⟨_, _, hadds.trans hadds', .plain hlaid'⟩

/-- A flow that emits anything has its record `0` as the entry of its chain. -/
lemma entry_chain {w : Walk} (h : (walkFlow s flow w).records ≠ w.records) :
    (chain s flow { w with next := 0 }).1.entry = some (s.flow ++ "/0") := by
  obtain ⟨rs, ls, hadds, hwalked⟩ :=
    exists_walkFlow (s := s) (List.Subset.refl flow.descendants) w
  generalize (chain s flow { w with next := 0 }).1.entry = entry at hwalked ⊢
  cases entry with
  | none =>
    cases hwalked
    exact absurd (hadds.records_eq.trans (List.append_nil _)) h
  | some x => rw [hwalked.first.1]

end Flow

/-! ### What there is to run -/

mutual

/-- Whether a processor has something to run. A try scope has no record of its own. -/
def runs : Element → Bool
  | ⟨name, _, children, _⟩ => Kind.ofName (Xml.localPart name) != .tryScope || anyRuns children

/-- Whether a processor of a content has something to run. -/
def anyRuns : List (Content Element) → Bool
  | [] => false
  | .text _ :: cs => anyRuns cs
  | .element e :: cs => isProcessor e && runs e || anyRuns cs

end

section Runs

variable (s : Scope)

mutual

/-- A processor has an entry if it has something to run. -/
lemma isSome_entry_processor : ∀ (e : Element) (w : Walk),
    (processor s e w).1.entry.isSome = runs e
  | ⟨name, attributes, children, span⟩, w => by
    simp only [processor, runs, Element.localName_mk]
    cases hkind : Kind.ofName (Xml.localPart name) with
    | tryScope =>
      have hbody := (Walk.isSome_entry_sequence (fragments s children w).2 _).trans
        (any_isSome_entry_fragments children w)
      rw [bne_self_eq_false, Bool.false_or, ← hbody]
      dsimp only
      split
      · rfl
      · simp_all
    | _ => simp [Fragment.single, Fragment.terminal]

lemma any_isSome_entry_fragments : ∀ (cs : List (Content Element)) (w : Walk),
    ((fragments s cs w).1.any fun f => f.entry.isSome) = anyRuns cs
  | [], w => by simp [fragments, anyRuns]
  | .text _ :: cs, w => by
    rw [fragments, anyRuns]
    exact any_isSome_entry_fragments cs w
  | .element e :: cs, w => by
    rw [fragments, anyRuns]
    cases isProcessor e with
    | true => simp [isSome_entry_processor e w, any_isSome_entry_fragments cs]
    | false => simp [any_isSome_entry_fragments cs w]

end

lemma anyRuns_of_mem {cs : List (Content Element)} {e : Element} (he : e ∈ Xml.elementsIn cs)
    (hprocessor : isProcessor e) (hruns : runs e) : anyRuns cs := by
  induction cs with
  | nil => exact absurd he List.not_mem_nil
  | cons c cs ih =>
    cases c with
    | text t => exact ih he
    | element x =>
      rw [anyRuns, Bool.or_eq_true]
      rcases List.mem_cons.mp he with rfl | he
      · exact .inl (by simp [hprocessor, hruns])
      · exact .inr (ih he)

lemma runs_of_isMessageSource {e : Element} (h : isMessageSource e) : runs e := by
  have hkind := kind_of_isMessageSource h
  obtain ⟨name, attributes, children, span⟩ := e
  rw [runs, show Kind.ofName (Xml.localPart name) = .plain from hkind]
  rfl

/-- The chain of a flow has an entry if the flow has something to run. -/
lemma isSome_entry_chain (flow : Element) (w : Walk) :
    (chain s flow w).1.entry.isSome = anyRuns flow.children := by
  unfold chain
  split
  · rename_i first hfirst
    obtain ⟨hfind, hsource⟩ := Option.filter_eq_some_iff.mp hfirst
    have hruns : anyRuns flow.children := anyRuns_of_mem (List.mem_of_find?_eq_some hfind)
      (by simpa using List.find?_some hfind) (runs_of_isMessageSource hsource)
    rw [Walk.fst_join, hruns]
    unfold Fragment.followedBy
    split <;> simp_all [Fragment.single]
  · exact (Walk.isSome_entry_sequence _ _).trans (any_isSome_entry_fragments s flow.children w)

end Runs

/-! ### Applications -/

/-- An application has a flow with a name and something to run. -/
def HasFlow (source : SourceText) (root : Element) (name : String) : Prop :=
  ∃ flow ∈ root.elements, isFlow flow ∧ flow.attrNonBlank "name" = some name ∧
    (walkFlow ⟨source, globalSettings root, name⟩ flow {}).records ≠ []

/-- What is found while an application is walked. -/
def walkAll (source : SourceText) (root : Element) : Walk :=
  (root.elements.filter isFlow).foldl (walkNamed source (globalSettings root)) {}

section Application

variable {source : SourceText} {globals : OrderedMap String Settings} {es : List Element}

/-- A flow that is walked adds records and links that hold together. -/
lemma exists_walkNamed {flow : Element} (hes : flow.descendants ⊆ es) (w : Walk) :
    ∃ rs ls, w.Adds (walkNamed source globals w flow) rs ls ∧ Coheres source es rs ls := by
  unfold walkNamed
  split
  · exact ⟨[], ∅, w.adds_warn _, .empty⟩
  · split
    · exact ⟨[], ∅, w.adds_warn _, .empty⟩
    · obtain ⟨rs, ls, hadds, hwalked⟩ := exists_walkFlow (s := ⟨source, globals, _⟩) hes w
      exact ⟨rs, ls, hadds, hwalked.coheres⟩

lemma coheres_foldl {flows : List Element} (hes : ∀ flow ∈ flows, flow.descendants ⊆ es) {w : Walk}
    (h : Coheres source es w.records w.ties) :
    Coheres source es (flows.foldl (walkNamed source globals) w).records
      (flows.foldl (walkNamed source globals) w).ties := by
  refine List.foldlRecOn flows _
    (motive := fun w : Walk => Coheres source es w.records w.ties) h ?_
  intro w hw flow hflow
  obtain ⟨rs, ls, hadds, hcoheres⟩ := exists_walkNamed (hes flow hflow) w
  rw [hadds.records_eq, hadds.ties_eq]
  exact hw.append hcoheres

lemma records_subset_foldl (flows : List Element) (w : Walk) :
    w.records ⊆ (flows.foldl (walkNamed source globals) w).records := by
  induction flows generalizing w with
  | nil => exact List.Subset.refl _
  | cons flow flows ih =>
    obtain ⟨rs, ls, hadds, -⟩ : ∃ rs ls, w.Adds (walkNamed source globals w flow) rs ls ∧
        Coheres source flow.descendants rs ls := exists_walkNamed (List.Subset.refl _) w
    refine List.Subset.trans ?_ (ih _)
    rw [hadds.records_eq]
    exact List.subset_append_left ..

/-- A flow with something to run has its first record, unless another flow has taken its name, which
then has that record. -/
lemma mem_walkNamed {flow : Element} {name : String} (hname : flow.attrNonBlank "name" = some name)
    (hemits : (walkFlow ⟨source, globals, name⟩ flow {}).records ≠ []) (w : Walk) :
    name ++ "/0" ∈ (walkNamed source globals w flow).records.map Record.id := by
  unfold walkNamed
  rw [hname]
  dsimp only
  split
  · rename_i hany
    obtain ⟨r, hr, hid⟩ := List.any_eq_true.mp hany
    exact List.mem_map.mpr ⟨r, hr, by simpa using hid⟩
  · have hes := List.Subset.refl flow.descendants
    obtain ⟨rs₀, ls₀, hadds₀, hwalked₀⟩ := exists_walkFlow (s := ⟨source, globals, name⟩) hes {}
    obtain ⟨rs, ls, hadds, hwalked⟩ := exists_walkFlow (s := ⟨source, globals, name⟩) hes w
    -- the chain is not empty, whatever was walked before
    have hruns := isSome_entry_chain ⟨source, globals, name⟩ flow { ({} : Walk) with next := 0 }
    rw [← isSome_entry_chain _ flow { w with next := 0 }] at hruns
    generalize (chain _ flow { w with next := 0 }).1.entry = entry at hwalked hruns
    generalize (chain _ flow { ({} : Walk) with next := 0 }).1.entry = entry₀ at hwalked₀ hruns
    cases entry₀ with
    | none =>
      cases hwalked₀
      exact absurd hadds₀.records_eq hemits
    | some x₀ =>
      obtain ⟨x, rfl⟩ := Option.isSome_iff_exists.mp hruns.symm
      obtain ⟨rfl, hmem⟩ := hwalked.first
      rw [hadds.records_eq, List.map_append]
      exact List.mem_append_right _ hmem

lemma mem_foldl {flows : List Element} {flow : Element} (hflow : flow ∈ flows) {name : String}
    (hname : flow.attrNonBlank "name" = some name)
    (hemits : (walkFlow ⟨source, globals, name⟩ flow {}).records ≠ []) (w : Walk) :
    name ++ "/0" ∈ (flows.foldl (walkNamed source globals) w).records.map Record.id := by
  obtain ⟨before, after, rfl⟩ := List.append_of_mem hflow
  rw [List.foldl_append, List.foldl_cons]
  exact List.map_subset _ (records_subset_foldl after _) (mem_walkNamed hname hemits _)

end Application

section Read

variable {source : SourceText} {root : Element}

lemma read_eq_finish (hroot : root.localName = "mule") :
    (read source root).1 = (walkAll source root).finish := by
  unfold read
  rw [if_pos (by simp [hroot])]
  rfl

lemma coheres_walkAll (source : SourceText) (root : Element) :
    Coheres source root.descendants (walkAll source root).records (walkAll source root).ties := by
  refine coheres_foldl (fun flow hflow => ?_) ?_
  · rw [root.descendants_eq]
    exact descendants_subset_of_mem (List.mem_filter.mp hflow).1
  · have hties : ({} : Walk).ties = ∅ := by simp [Walk.ties]
    rw [hties]
    exact .empty

lemma HasFlow.mem_ids {name : String} (h : HasFlow source root name) :
    name ++ "/0" ∈ (walkAll source root).records.map Record.id := by
  obtain ⟨flow, hflow, hkind, hname, hemits⟩ := h
  exact mem_foldl (List.mem_filter.mpr ⟨hflow, hkind⟩) hname hemits {}

/-- Every record is accounted for, with its links. -/
lemma isAccounted_of_mem_finish {r : Record} (hr : r ∈ (walkAll source root).finish) :
    IsAccounted source root.descendants (walkAll source root).ties r := by
  obtain ⟨r₀, hr₀, heq⟩ := Walk.exists_of_mem_finish hr
  rw [heq]
  rcases (coheres_walkAll source root).record r₀ hr₀ with hsynthetic | ⟨e, he, hof, hcall⟩
  · exact .inl ⟨hsynthetic.document_eq, hsynthetic.mergeKey_eq, hsynthetic.sourceType_ne⟩
  · exact .inr ⟨e, he, hof.withLinks _, hcall⟩

/-- Where no element has a merge key no record has one. -/
lemma mergeKey_of_mem_finish (hdoc : ∀ e ∈ root.descendants, e.attr "doc:id" = none) {r : Record}
    (hr : r ∈ (walkAll source root).finish) : r.mergeKey = none := by
  rcases isAccounted_of_mem_finish hr with hsynthetic | ⟨e, he, ⟨s, role, n, -, heq⟩, -⟩
  · exact hsynthetic.mergeKey_eq
  · rw [heq]
    simp [Record.withLinks, Scope.record, Element.attrNonBlank, hdoc e he]

/-- Links lead to records if those of calls do. -/
lemma target_mem_of_calls
    (hcalls : ∀ e ∈ root.descendants, ∀ name, callee? e = some name → HasFlow source root name)
    {r : Record} (hr : r ∈ (walkAll source root).finish) {l : Link} (hl : l ∈ r.links) :
    l.target ∈ (walkAll source root).finish.map Record.id := by
  have hcoheres := coheres_walkAll source root
  have hmem := (Walk.mem_links_iff hr).mp hl
  rw [Walk.map_id_finish]
  by_cases hkind : l.kind = .reference
  · obtain ⟨e, he, name, hname, htarget⟩ := hcoheres.reference _ hmem hkind
    rw [show l.target = name ++ "/0" from htarget]
    exact (hcalls e he name hname).mem_ids
  · exact hcoheres.target_mem _ hmem hkind

/-- Without merge keys and calls, the records of an application make a flow. -/
lemma exists_build (hdoc : ∀ e ∈ root.descendants, e.attr "doc:id" = none)
    (hcallee : ∀ e ∈ root.descendants, callee? e = none) (acyclic : Option Bool) :
    ∃ g, FlowGraph.build (walkAll source root).finish acyclic = .ok g := by
  have hcoheres := coheres_walkAll source root
  have hkeys : ∀ r ∈ (walkAll source root).finish, r.mergeKey = none :=
    fun r hr => mergeKey_of_mem_finish hdoc hr
  have htrans : ∀ x y z, Precedes x y → Precedes y z → Precedes x z := fun _ _ _ => .trans
  refine FlowGraph.exists_build_of_order htrans not_precedes_self ?_ ?_ acyclic
  · intro r hr l hl
    refine exists_resolves (target_mem_of_calls (fun e he name hname => ?_) hr hl) r.document
    exact absurd hname (by simp [hcallee e he])
  · intro r hr l hl hkind key hkey
    have hmem := (Walk.mem_links_iff hr).mp hl
    rw [hkey.eq_target hkeys, Record.groupKey, hkeys r hr, Option.getD_none]
    refine hcoheres.sequence _ hmem ?_
    cases hl' : l.kind with
    | sequence => rfl
    | error => exact absurd hl' hkind
    | reference =>
      obtain ⟨e, he, name, hname, -⟩ := hcoheres.reference _ hmem hl'
      exact absurd hname (by simp [hcallee e he])

end Read

/-- The links of the sequence and to error handlers lead to records. A flow that emits anything has
its record `0` as the entry of its chain, and a flow reference links to that. Records are not refused
for a link that leads nowhere if each flow reference names such a flow, and they are not refused at
all if there are no flow references. -/
theorem read_is_closed_and_acyclic (source : SourceText) (root : Element)
    (hroot : root.localName = "mule")
    (hdoc : ∀ e ∈ root.descendants, e.attr "doc:id" = none) :
    (∀ r ∈ (read source root).1, ∀ l ∈ r.links, l.kind ≠ .reference →
      l.target ∈ (read source root).1.map Record.id) ∧
    (∀ s flow w, (walkFlow s flow w).records ≠ w.records →
      (chain s flow { w with next := 0 }).1.entry = some (s.flow ++ "/0")) ∧
    (∀ name, HasFlow source root name → name ++ "/0" ∈ (read source root).1.map Record.id) ∧
    (∀ r ∈ (read source root).1, Xml.localPart r.sourceType = "flow-ref" →
      ∃ e ∈ root.descendants, IsRecordOf source e r ∧
        ∀ name, callee? e = some name → ⟨name ++ "/0", .reference, none⟩ ∈ r.links) ∧
    ((∀ e ∈ root.descendants, ∀ name, callee? e = some name → HasFlow source root name) →
      ∀ acyclic missing origin,
        FlowGraph.build (read source root).1 acyclic ≠ .error (.dangling missing origin)) ∧
    ((∀ e ∈ root.descendants, e.localName ≠ "flow-ref") →
      ∀ acyclic, ∃ g, FlowGraph.build (read source root).1 acyclic = .ok g) := by
  have hcoheres := coheres_walkAll source root
  rw [read_eq_finish hroot]
  refine ⟨?_, ?_, ?_, ?_, ?_, ?_⟩
  · intro r hr l hl hkind
    rw [Walk.map_id_finish]
    exact hcoheres.target_mem _ ((Walk.mem_links_iff hr).mp hl) hkind
  · exact fun s flow w => entry_chain
  · intro name hname
    rw [Walk.map_id_finish]
    exact hname.mem_ids
  · intro r hr htype
    rcases isAccounted_of_mem_finish hr with hsynthetic | ⟨e, he, hof, hcall⟩
    · exact absurd htype hsynthetic.sourceType_ne
    · exact ⟨e, he, hof, fun name hname => (Walk.mem_links_iff hr).mpr (hcall name hname)⟩
  · intro hcalls acyclic missing origin
    obtain ⟨g, hg⟩ := exists_assemble fun r hr l hl =>
      exists_resolves (target_mem_of_calls hcalls hr hl) r.document
    rw [FlowGraph.build_of_assemble acyclic hg]
    split <;> simp
  · intro hnone acyclic
    exact exists_build hdoc (fun e he => if_neg (hnone e he)) acyclic

/-- An application with nested scopes. The second scope of its second flow holds the elements
`extra`. -/
def nestedApplication (extra : List Element) : Element :=
  { name := "mule"
    children :=
      [.element
        { name := "flow", attributes := [("name", "main")]
          children :=
            [.element { name := "http:listener" },
             .element
              { name := "choice"
                children :=
                  [.element
                    { name := "when", attributes := [("expression", "#[vars.a]")]
                      children := [.element { name := "raise-error" }] }] },
             .element
              { name := "scatter-gather"
                children :=
                  [.element { name := "route", children := [.element { name := "logger" }] }] },
             .element
              { name := "error-handler"
                children :=
                  [.element
                    { name := "on-error-propagate", children := [.element { name := "logger" }] },
                   .element { name := "on-error-continue" }] }] },
       .element
        { name := "sub-flow", attributes := [("name", "sub")]
          children :=
            [.element { name := "try" },
             .element { name := "try", children := extra.map .element },
             .element { name := "logger" }] }] }

/-- The application whose second flow calls the first. -/
def callingApplication : Element :=
  nestedApplication [{ name := "flow-ref", attributes := [("name", "main")] }]

theorem nestedApplication_is_closed_and_acyclic :
    HasFlow ⟨"app", ""⟩ callingApplication "main" ∧
    "main/0" ∈ (read ⟨"app", ""⟩ callingApplication).1.map Record.id ∧
    (∃ r ∈ (read ⟨"app", ""⟩ callingApplication).1, r.sourceType = "flow-ref" ∧
      ⟨"main/0", .reference, none⟩ ∈ r.links) ∧
    (∀ acyclic missing origin,
      FlowGraph.build (read ⟨"app", ""⟩ callingApplication).1 acyclic
        ≠ .error (.dangling missing origin)) ∧
    ∀ acyclic, ∃ g, FlowGraph.build (read ⟨"app", ""⟩ (nestedApplication [])).1 acyclic = .ok g := by
  have hmain : HasFlow ⟨"app", ""⟩ callingApplication "main" :=
    ⟨_, List.mem_cons_self .., by decide +kernel, by decide +kernel, by decide +kernel⟩
  have honly : ∀ e ∈ callingApplication.descendants, callee? e = none ∧ e.name ≠ "flow-ref" ∨
      callee? e = some "main" := by decide +kernel
  have hcalls : ∀ e ∈ callingApplication.descendants, ∀ name, callee? e = some name →
      HasFlow ⟨"app", ""⟩ callingApplication name := by
    intro e he name hname
    rcases honly e he with ⟨hnone, -⟩ | hcall
    · exact absurd hname (by simp [hnone])
    · obtain rfl := Option.some.inj (hcall.symm.trans hname)
      exact hmain
  obtain ⟨-, -, hfirst, hlinks, hdangling, -⟩ :=
    read_is_closed_and_acyclic ⟨"app", ""⟩ callingApplication (by decide +kernel)
      (by decide +kernel)
  obtain ⟨-, -, -, -, -, hbuild⟩ :=
    read_is_closed_and_acyclic ⟨"app", ""⟩ (nestedApplication []) (by decide +kernel)
      (by decide +kernel)
  obtain ⟨r, hr, htype⟩ : ∃ r ∈ (read ⟨"app", ""⟩ callingApplication).1,
      r.sourceType = "flow-ref" := by decide +kernel
  obtain ⟨e, he, ⟨s, role, n, -, hof⟩, hcall⟩ := hlinks r hr (by rw [htype]; decide)
  have hname : e.name = "flow-ref" := by
    rw [← htype, hof]
    rfl
  have hcallee : callee? e = some "main" := (honly e he).resolve_left fun h => h.2 hname
  exact ⟨hmain, hfirst "main" hmain, ⟨r, hr, htype, hcall "main" hcallee⟩, hdangling hcalls,
    hbuild (by decide +kernel)⟩

end IntegrationFlow.Source.Mule
