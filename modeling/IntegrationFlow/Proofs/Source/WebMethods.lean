import Mathlib
import IntegrationFlow.Proofs.Element
import IntegrationFlow.Proofs.Graph.Cycle
import IntegrationFlow.Proofs.Source.Run
import IntegrationFlow.Source.WebMethods

/-!
# How services are wired

The steps of a service are laid as runs, whatever they hold, between the start and the end of the
service. So every link of a service leads to one of its records, and a service none of whose steps
ends the flow can be followed from its start through every record to its end.
-/

namespace IntegrationFlow.Source.WebMethods

open Relation (ReflTransGen)
open Xml (Element Content cons_descendants_subset descendantsIn descendantsIn_children_subset
  descendantsIn_subset_cons elementsIn)

/-! ### Steps -/

/-- What services are made of: all records are those of steps, and a repeat is gone back to. `ends`
tells whether an exit may end the flow. -/
def manner (ends : Prop) : Manner where
  idOf n := stepId (n + 1)
  Step _ := True
  Call _ _ := False
  Outlet _ := False
  ends := ends
  repeats := True

section Steps

variable (source : SourceText) {ends : Prop}

/-- The exits among some elements do not end the flow, unless that is allowed. -/
def Stays (ends : Prop) (es : List Element) : Prop :=
  ∀ e ∈ es, e.name = "EXIT" → endsFlow e → ends

lemma Stays.mono {es es' : List Element} (h : Stays ends es') (hsub : es ⊆ es') : Stays ends es :=
  fun e he => h e (hsub he)

lemma kind_eq_leaves {name : String} (h : Kind.ofName name = .leaves) : name = "EXIT" := by
  unfold Kind.ofName at h
  split at h <;> simp_all

lemma endsFlow_iff {e : Element} :
    endsFlow e ↔ (∃ s, e.attr "FROM" = some s ∧ Text.trim s = "$flow") ∨
      ∃ s, e.attr "SIGNAL" = some s ∧ s.toList.map Char.toUpper = "FAILURE".toList := by
  simp only [endsFlow, Bool.or_eq_true, Option.any_eq_true, beq_iff_eq]

lemma any_isStep_of_hasDefault {e : Element} (h : hasDefault e) :
    (elementsIn e.children).any isStep := by
  obtain ⟨c, hc, hstep⟩ := List.any_eq_true.mp h
  exact List.any_eq_true.mpr ⟨c, hc, (Bool.and_eq_true_iff.mp hstep).1⟩

lemma adds_emit (e : Element) (role : Role) (w : Walk) :
    w.Adds (emit source e role w).2 [stepRecord source e role (w.next + 1)] ∅ :=
  w.adds_emit_advance _

/-- The record of a step is the head of a fork to which branches may be added. -/
lemma laid_emit (e : Element) (role : Role) (w : Walk) :
    Laid (manner ends) .fork w.next (emit source e role w).2.next
      [stepRecord source e role (w.next + 1)] ∅ ⟨some (emit source e role w).1, []⟩ :=
  .fork trivial rfl

mutual

lemma lays_steps : ∀ (cs : List (Content Element)) (before : Fragment) (guarded : Option String)
    (w : Walk) {i : Nat} {rs : List Record} {ls : Set (String × Link)},
    Stays ends (descendantsIn cs) → Laid (manner ends) .run i w.next rs ls before →
    (∀ x, guarded = some x → x ∈ rs.map Record.id) →
      Lays (manner ends) .run i rs ls w (steps source before guarded cs w).2
        (steps source before guarded cs w).1
  | [], before, guarded, w, i, rs, ls, _, hbefore, _ => by
    rw [steps]
    exact hbefore.lays
  | .text _ :: cs, before, guarded, w, i, rs, ls, hstays, hbefore, hguarded => by
    rw [steps]
    exact lays_steps cs before guarded w hstays hbefore hguarded
  | .element ⟨name, attributes, children, span⟩ :: cs, before, guarded, w, i, rs, ls, hstays,
      hbefore, hguarded => by
    have hcs := hstays.mono (descendantsIn_subset_cons _ cs)
    have hself := hstays.mono (cons_descendants_subset _ cs)
    have hchildren := hself.mono (descendantsIn_children_subset _)
    simp only [steps]
    split
    · exact lays_steps cs before guarded w hcs hbefore hguarded
    · split
      · exact (lays_steps cs before guarded (w.warn _) hcs hbefore hguarded).of_warn
      · split
        · -- a handler
          rename_i entry _
          obtain ⟨rs₁, ls₁, hadds₁, hhandler⟩ :=
            lays_nil_iff.mp (lays_steps children {} none w hchildren (.empty _) (by simp))
          obtain ⟨rs', ls', hadds, hrun⟩ :=
            hbefore.lays_handle none (hguarded entry rfl) hadds₁ hhandler.resume
          refine .of_adds hadds (lays_steps cs _ _ _ hcs hrun fun x hx => ?_)
          rw [List.map_append]
          exact List.mem_append_left _ (hguarded x hx)
        · obtain ⟨rs', ls', hadds, hstep⟩ :=
            lays_nil_iff.mp (lays_step ⟨name, attributes, children, span⟩ w hself)
          refine Lays.of_adds (hadds.join before _) (lays_steps cs _ _ _ hcs ?_ ?_)
          · rw [Walk.fst_join, Walk.next_join]
            exact hbefore.join hstep
          · -- the step may be one whose errors are caught
            intro x hx
            rw [List.map_append, List.mem_append]
            split at hx
            · exact .inl (hguarded x hx)
            · split at hx
              · exact .inr (hstep.wired.entry_mem x hx)
              · exact absurd hx (by simp)

lemma lays_step : ∀ (e : Element) (w : Walk), Stays ends (e :: e.descendants) →
    Lays (manner ends) .run w.next [] ∅ w (step source e w).2 (step source e w).1
  | ⟨name, attributes, children, span⟩, w, hstays => by
    have hchildren := hstays.mono (descendantsIn_children_subset _)
    have hbody : ∀ w : Walk, Lays (manner ends) .run w.next [] ∅ w
        (steps source {} none children w).2 (steps source {} none children w).1 :=
      fun w => lays_steps children {} none w hchildren (.empty _) (by simp)
    have hinner : ∀ e : Element, ∃ rs' ls',
        w.Adds (steps source {} none children (emit source e .step w).2).2
          (stepRecord source e .step (w.next + 1) :: rs') ls' ∧
        Laid (manner ends) .run (w.next + 1)
          (steps source {} none children (emit source e .step w).2).2.next rs' ls'
          (steps source {} none children (emit source e .step w).2).1 := by
      intro e
      obtain ⟨rs', ls', hadds, hlaid⟩ := lays_nil_iff.mp (hbody (emit source e .step w).2)
      exact ⟨rs', ls', by simpa using (adds_emit source e .step w).trans hadds, hlaid⟩
    simp only [step]
    split
    · exact hbody w
    · -- a branch, which has a case for everything else or may match none
      obtain ⟨⟨rs', ls', hadds, hcases⟩, hdefault⟩ :=
        lays_cases _ children _ hchildren (laid_emit source _ .step w)
      refine lays_nil_iff.mpr ⟨_, _, (adds_emit ..).trans hadds, ?_⟩
      split
      · rename_i hany
        exact hcases.close fun hnil => hdefault (any_isStep_of_hasDefault hany) hnil
      · exact hcases.pass.close fun hnil => absurd hnil (by simp)
    · -- a loop, which is left through its last step
      generalize (⟨name, attributes, children, span⟩ : Element) = e at hstays ⊢
      obtain ⟨rs', ls', hadds, hlaid⟩ := hinner e
      generalize steps source {} none children (emit source e .step w).2 = result at hadds hlaid ⊢
      obtain ⟨⟨_ | first, exits⟩, w'⟩ := result
      · obtain ⟨hnext, rfl, rfl, -⟩ := hlaid.eq_empty rfl
        exact lays_nil_iff.mpr ⟨_, _, hadds, hnext ▸ .step trivial rfl⟩
      · refine lays_nil_iff.mpr ⟨_, _, hadds.link .., ?_⟩
        rw [← Set.empty_union (ls' ∪ _)]
        refine ((laid_emit source e .step w).branch hlaid).close fun hnil => ?_
        by_contra hends
        exact hlaid.exits_ne_nil hends rfl hnil
    · -- a repeat, which its last step goes back to
      generalize (⟨name, attributes, children, span⟩ : Element) = e at hstays ⊢
      obtain ⟨rs', ls', hadds, hlaid⟩ := hinner e
      generalize steps source {} none children (emit source e .step w).2 = result at hadds hlaid ⊢
      obtain ⟨⟨_ | first, exits⟩, w'⟩ := result
      · obtain ⟨hnext, rfl, rfl, -⟩ := hlaid.eq_empty rfl
        exact lays_nil_iff.mpr ⟨_, _, hadds, hnext ▸ .step trivial rfl⟩
      · refine lays_nil_iff.mpr ⟨_, _, (hadds.link ..).connect .., ?_⟩
        dsimp only at hlaid ⊢
        rw [Set.union_assoc, Walk.next_connect]
        exact .again trivial rfl hlaid trivial
    · split
      · rename_i hleaves hend
        refine lays_nil_iff.mpr ⟨_, _, adds_emit source _ .finish w, .finish trivial rfl ?_⟩
        exact hstays _ (List.mem_cons_self ..) (kind_eq_leaves hleaves) hend
      · exact lays_nil_iff.mpr ⟨_, _, adds_emit source _ .step w, .step trivial rfl⟩
    · exact lays_nil_iff.mpr ⟨_, _, adds_emit source _ .step w, .step trivial rfl⟩

lemma lays_cases (id : String) : ∀ (cs : List (Content Element)) (w : Walk) {i : Nat}
    {rs : List Record} {ls : Set (String × Link)} {exits : List Exit},
    Stays ends (descendantsIn cs) → Laid (manner ends) .fork i w.next rs ls ⟨some id, exits⟩ →
      Lays (manner ends) .fork i rs ls w (cases source id cs w).2
        ⟨some id, exits ++ (cases source id cs w).1⟩ ∧
      ((elementsIn cs).any isStep → (cases source id cs w).1 = [] → ends)
  | [], w, i, rs, ls, exits, _, hfork => by
    simp only [cases, List.append_nil]
    exact ⟨hfork.lays, by simp⟩
  | .text _ :: cs, w, i, rs, ls, exits, hstays, hfork => by
    rw [cases]
    exact lays_cases id cs w hstays hfork
  | .element e :: cs, w, i, rs, ls, exits, hstays, hfork => by
    have hcs := hstays.mono (descendantsIn_subset_cons e cs)
    simp only [cases]
    split
    · rename_i hstep
      obtain ⟨rs', ls', hadds, hbody⟩ := lays_nil_iff.mp
        (lays_step e w (hstays.mono (cons_descendants_subset e cs)))
      generalize step source e w = result at hadds hbody ⊢
      obtain ⟨⟨_ | first, exits'⟩, w'⟩ := result
      · obtain ⟨hnext, rfl, rfl, -⟩ := hbody.eq_empty rfl
        have hfork' : Laid (manner ends) .fork i w'.next rs ls
            ⟨some id, exits ++ [⟨id, labelOf e⟩]⟩ := hnext ▸ hfork.pass
        obtain ⟨hrest, -⟩ := lays_cases id cs w' hcs hfork'
        refine ⟨.of_adds hadds ?_, by simp⟩
        simpa using hrest
      · have hadds' := hadds.link id first .sequence (labelOf e)
        obtain ⟨hrest, -⟩ :=
          lays_cases id cs (w'.link id first .sequence (labelOf e)) hcs (hfork.branch hbody)
        refine ⟨.of_adds hadds' ?_, fun _ hnil => ?_⟩
        · rw [← List.append_assoc]
          exact hrest
        · by_contra hends
          exact hbody.exits_ne_nil hends rfl (List.append_eq_nil_iff.mp hnil).1
    · rename_i hstep
      refine ⟨(lays_cases id cs w hcs hfork).1, fun hany => ?_⟩
      exact (lays_cases id cs w hcs hfork).2 (by simpa [hstep] using hany)

end

end Steps

/-! ### Ids -/

lemma stepId_injective : Function.Injective stepId := by
  intro n k h
  exact Nat.repr_inj.mp (String.append_right_inj _ |>.mp h)

lemma stepId_ne_start (n : Nat) : stepId n ≠ "start" := by
  intro h
  simpa [stepId] using congrArg String.toList h

lemma stepId_ne_end (n : Nat) : stepId n ≠ "end" := by
  intro h
  simpa [stepId] using congrArg String.toList h

/-! ### Services -/

/-- A walk that has laid a run between a start and an end. -/
structure IsService (ends : Prop) (w : Walk) (n : Nat) (rs : List Record)
    (ls : Set (String × Link)) (body : Fragment) : Prop where
  ids_eq : w.records.map Record.id = "start" :: (rs.map Record.id ++ ["end"])
  laid : Laid (manner ends) .run 0 n rs ls body
  ties_eq : w.ties = ls ∪ ((Fragment.single "start").seam body ∪
    tied ((Fragment.single "start").followedBy body).exits "end")

/-- The records of a service come from such a walk. -/
lemma exists_isService {ends : Prop} (source : SourceText) {root : Element}
    (hroot : root.name = "FLOW") (hstays : Stays ends root.descendants) :
    ∃ w n rs ls body, (read source root).1 = Walk.finish w ∧
      w.records.head? = some (startRecord source root) ∧ IsService ends w n rs ls body := by
  rw [Element.descendants_eq] at hstays
  obtain ⟨rs, ls, hadds, hbody⟩ := lays_nil_iff.mp
    (lays_steps source root.children {} none (({} : Walk).emit (startRecord source root)) hstays
      (.empty _) (by simp))
  unfold read
  rw [if_pos (by simp [hroot])]
  dsimp only
  generalize steps source {} none root.children _ = result at hadds hbody ⊢
  obtain ⟨body, w⟩ := result
  rw [Walk.fst_join]
  have hend := ((Walk.adds_emit {} (startRecord source root)).trans
    ((hadds.join (.single "start") body).trans (Walk.adds_emit _ (endRecord source)))).connect
    ((Fragment.single "start").followedBy body).exits "end"
  refine ⟨_, w.next, rs, ls, body, rfl, ?_, ?_, hbody, ?_⟩
  · rw [hend.records_eq]
    rfl
  · rw [hend.records_eq]
    simp [startRecord, endRecord]
  · rw [hend.ties_eq]
    simp [Walk.ties, Set.union_assoc]

section Service

variable {ends : Prop} {w : Walk} {n : Nat} {rs : List Record} {ls : Set (String × Link)}
  {body : Fragment} {exits : List Exit}

lemma IsService.nodup (h : IsService ends w n rs ls body) :
    (w.records.map Record.id).Nodup := by
  have hsteps : ((List.Ico 0 n).map fun k => stepId (k + 1)).Nodup :=
    (List.Ico.nodup 0 n).map (stepId_injective.comp (add_left_injective 1))
  rw [h.ids_eq, h.laid.map_id_eq fun _ => id, List.nodup_cons, List.nodup_append]
  refine ⟨?_, hsteps, List.nodup_singleton _, ?_⟩
  · rw [List.mem_append, List.mem_map, List.mem_singleton]
    rintro (⟨k, -, hk⟩ | hend)
    · exact stepId_ne_start _ hk
    · exact absurd hend (by decide)
  · intro x hx y hy
    obtain ⟨k, -, rfl⟩ := List.mem_map.mp hx
    obtain rfl := List.mem_singleton.mp hy
    exact stepId_ne_end _

/-- A service without steps leads from its start to its end. -/
lemma IsService.ties_of_none (h : IsService ends w n rs ls ⟨none, exits⟩) :
    rs = [] ∧ w.ties = {("start", ⟨"end", .sequence, none⟩)} := by
  obtain ⟨-, hrs, hls, -⟩ := h.laid.eq_empty rfl
  refine ⟨hrs, ?_⟩
  rw [h.ties_eq, hls]
  simp [Fragment.seam, Fragment.followedBy, Fragment.single, tied]

/-- The start leads to the first step, and the loose ends lead to the end. -/
lemma IsService.ties_of_some {entry : String}
    (h : IsService ends w n rs ls ⟨some entry, exits⟩) :
    w.ties = ls ∪ ({("start", ⟨entry, .sequence, none⟩)} ∪ tied exits "end") := by
  rw [h.ties_eq]
  simp [Fragment.seam, Fragment.followedBy, Fragment.single, tied]

/-- Links lead from records of the service to records of the service. -/
lemma IsService.ends_mem (h : IsService ends w n rs ls body) {l : String × Link}
    (hl : l ∈ w.ties) :
    l.1 ∈ w.records.map Record.id ∧ l.2.target ∈ w.records.map Record.id := by
  obtain ⟨_ | entry, exits⟩ := body
  · rw [h.ids_eq]
    rw [h.ties_of_none.2] at hl
    obtain rfl := hl
    simp
  · have hwired := h.laid.wired
    have hmem : ∀ x ∈ rs.map Record.id, x ∈ w.records.map Record.id := by
      intro x hx
      rw [h.ids_eq]
      exact List.mem_cons_of_mem _ (List.mem_append_left _ hx)
    rw [h.ties_of_some] at hl
    rcases hl with hl | rfl | ⟨x, hx, rfl⟩
    · -- no step is a call
      have hkind : l.2.kind ≠ .reference := by
        intro hkind
        obtain ⟨r, -, -, hcall⟩ := h.laid.exists_call l hl hkind
        exact hcall
      exact ⟨hmem _ (hwired.source_mem l hl), hmem _ (hwired.target_mem l hl hkind)⟩
    · exact ⟨by simp [h.ids_eq], hmem _ (hwired.entry_mem _ rfl)⟩
    · exact ⟨hmem _ (hwired.exits_mem x hx), by simp [h.ids_eq]⟩

/-- Where no step ends the flow, every record lies on a way from the start to the end. -/
lemma IsService.follows (h : IsService ends w n rs ls body) (hends : ¬ ends) {v : String}
    (hv : v ∈ w.records.map Record.id) :
    ReflTransGen (Follows w.ties) "start" v ∧ ReflTransGen (Follows w.ties) v "end" := by
  obtain ⟨_ | entry, exits⟩ := body
  · obtain ⟨hrs, hties⟩ := h.ties_of_none
    have hdirect : Follows w.ties "start" "end" := by
      rw [hties]
      exact ⟨_, rfl, rfl⟩
    rw [h.ids_eq, hrs] at hv
    rcases hv with _ | ⟨_, _ | ⟨_, ⟨⟩⟩⟩
    · exact ⟨.refl, .single hdirect⟩
    · exact ⟨.single hdirect, .refl⟩
  · rw [h.ties_of_some]
    generalize hties : ls ∪ ({("start", ⟨entry, .sequence, none⟩)} ∪ tied exits "end") = ties
    have hsteps : ∀ v ∈ rs.map Record.id,
        ReflTransGen (Follows ties) "start" v ∧ ReflTransGen (Follows ties) v "end" := by
      intro v hv
      rw [← hties]
      obtain ⟨_, ⟨⟩, hentry⟩ := h.laid.from_entry hends v hv
      obtain ⟨x, hx, hexit⟩ := (h.laid.to_exit hends v hv).resolve_right (by simp)
      constructor
      · exact .head ⟨_, .inr (.inl rfl), rfl⟩ (Follows.of_left hentry)
      · exact .tail (Follows.of_left hexit) ⟨_, .inr (.inr ⟨x, hx, rfl⟩), rfl⟩
    obtain ⟨hstart, hend⟩ := hsteps entry (h.laid.wired.entry_mem _ rfl)
    rw [h.ids_eq, List.mem_cons, List.mem_append, List.mem_singleton] at hv
    rcases hv with rfl | hv | rfl
    · exact ⟨.refl, hstart.trans hend⟩
    · exact hsteps v hv
    · exact ⟨hstart.trans hend, .refl⟩

/-- Where no step ends the flow, the finished records lead from the start to the end. -/
lemma IsService.leads (h : IsService ends w n rs ls body) (hends : ¬ ends) {r : Record}
    (hr : r ∈ w.finish) :
    ReflTransGen (Leads w.finish) "start" r.id ∧ ReflTransGen (Leads w.finish) r.id "end" := by
  have hid : r.id ∈ w.records.map Record.id := w.map_id_finish ▸ List.mem_map_of_mem hr
  have hsource : ∀ l ∈ w.ties, l.1 ∈ w.records.map Record.id := fun l hl => (h.ends_mem hl).1
  obtain ⟨hfrom, hto⟩ := h.follows hends hid
  exact ⟨Walk.leads_finish hsource hfrom, Walk.leads_finish hsource hto⟩

end Service

/-- Services may run in circles. -/
lemma requiresAcyclic_finish {w : Walk} {r : Record} (hr : r ∈ w.records)
    (hdialect : r.dialect = some .webMethods) : requiresAcyclic w.finish = false := by
  have hmem : Dialect.webMethods ∈ w.finish.filterMap Record.dialect :=
    List.mem_filterMap.mpr ⟨_, List.mem_map_of_mem hr, hdialect⟩
  exact List.all_eq_false.mpr ⟨_, hmem, by decide⟩

/-- The records of a service have distinct ids, their links lead to one another, and they make a flow.
Unless an exit ends the flow, each of them lies on a way from the start to the end. -/
theorem read_loses_no_step (source : SourceText) (root : Element) (hroot : root.name = "FLOW") :
    ((read source root).1.map Record.id).Nodup ∧
    (∀ r ∈ (read source root).1, ∀ l ∈ r.links,
      l.target ∈ (read source root).1.map Record.id) ∧
    (∃ g, FlowGraph.build (read source root).1 = .ok g) ∧
    ((∀ e ∈ root.descendants, e.name = "EXIT" →
        (∀ s, e.attr "FROM" = some s → Text.trim s ≠ "$flow") ∧
        ∀ s, e.attr "SIGNAL" = some s → s.toList.map Char.toUpper ≠ "FAILURE".toList) →
      ∀ r ∈ (read source root).1,
        ReflTransGen (Leads (read source root).1) "start" r.id ∧
        ReflTransGen (Leads (read source root).1) r.id "end") := by
  obtain ⟨w, n, rs, ls, body, hread, hstart, hservice⟩ :=
    exists_isService source hroot (fun _ _ _ _ => trivial : Stays True root.descendants)
  have hlinks : ∀ r ∈ (read source root).1, ∀ l ∈ r.links,
      l.target ∈ (read source root).1.map Record.id := by
    rw [hread, Walk.map_id_finish]
    intro r hr l hl
    exact (hservice.ends_mem ((Walk.mem_links_iff hr).mp hl)).2
  refine ⟨?_, hlinks, ?_, fun hexits => ?_⟩
  · rw [hread, Walk.map_id_finish]
    exact hservice.nodup
  · obtain ⟨g, hg⟩ := exists_assemble fun r hr l hl => exists_resolves (hlinks r hr l hl) _
    refine ⟨g, ?_⟩
    rw [FlowGraph.build_of_assemble none hg, Option.getD_none, hread,
      requiresAcyclic_finish (List.mem_of_head? hstart) rfl]
    rfl
  · have hstays : Stays False root.descendants := by
      intro e he hname hends
      obtain ⟨hfrom, hsignal⟩ := hexits e he hname
      rcases endsFlow_iff.mp hends with ⟨s, hs, htrim⟩ | ⟨s, hs, hupper⟩
      · exact hfrom s hs htrim
      · exact hsignal s hs hupper
    obtain ⟨w, n, rs, ls, body, hread, -, hservice⟩ := exists_isService source hroot hstays
    rw [hread]
    exact fun r hr => hservice.leads not_false hr

/-- A service whose steps are nested: a guarded sequence with its handler, and a branch with an empty
case and a loop around a repeat, with an exit that leaves no more than the loop. -/
def nestedService : Element :=
  { name := "FLOW"
    children :=
      [.element
        { name := "SEQUENCE", attributes := [("FORM", "TRY")]
          children := [.element { name := "INVOKE", attributes := [("SERVICE", "pub.db:query")] }] },
       .element
        { name := "SEQUENCE", attributes := [("FORM", "CATCH")]
          children := [.element { name := "MAP" }] },
       .element
        { name := "BRANCH"
          children :=
            [.element { name := "SEQUENCE", attributes := [("NAME", "a")] },
             .element
              { name := "LOOP", attributes := [("NAME", "$default")]
                children :=
                  [.element { name := "REPEAT", children := [.element { name := "MAP" }] },
                   .element { name := "EXIT", attributes := [("FROM", "$loop")] }] }] }] }

theorem nestedService_loses_no_step :
    (read ⟨"orders", ""⟩ nestedService).1.map Record.id
      = ["start", "step1", "step2", "step3", "step4", "step5", "step6", "step7", "end"] ∧
    (∃ g, FlowGraph.build (read ⟨"orders", ""⟩ nestedService).1 = .ok g) ∧
    ∀ r ∈ (read ⟨"orders", ""⟩ nestedService).1,
      ReflTransGen (Leads (read ⟨"orders", ""⟩ nestedService).1) "start" r.id ∧
      ReflTransGen (Leads (read ⟨"orders", ""⟩ nestedService).1) r.id "end" := by
  have hexits : ∀ e ∈ nestedService.descendants, e.name = "EXIT" → ¬ endsFlow e := by
    decide +kernel
  obtain ⟨-, -, hbuild, hways⟩ := read_loses_no_step ⟨"orders", ""⟩ nestedService rfl
  refine ⟨by decide +kernel, hbuild, hways fun e he hname => ?_⟩
  have hexit := hexits e he hname
  rw [endsFlow_iff, not_or] at hexit
  exact ⟨fun s hs htrim => hexit.1 ⟨s, hs, htrim⟩, fun s hs hupper => hexit.2 ⟨s, hs, hupper⟩⟩

end IntegrationFlow.Source.WebMethods
