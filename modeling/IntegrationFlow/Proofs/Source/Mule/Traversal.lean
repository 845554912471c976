import Mathlib
import IntegrationFlow.Proofs.Source.Mule.Numbering

/-!
# How chains are walked

When a flow is walked all its chains are, each from the number on that belongs to it, and what is
found there is kept. At that point no step of the sequence leads to a number that is still to be
given.
-/

namespace IntegrationFlow.Source.Mule

open Xml (Element Content elementsIn)

/-! ### Numbers that nothing leads to yet -/

section Numbers

variable {s : Scope} {es : List Element} {form : Form} {i j : ℕ} {rs : List Record}
  {ls : Set (String × Link)} {f : Fragment}

/-- The numbers of a run are those from its first on and before its end. -/
lemma number_of_laid (h : Laid (manner s es) form i j rs ls f) {m : ℕ}
    (hm : s.numbered m ∈ rs.map Record.id) : i ≤ m ∧ m < j := by
  have hmem : s.numbered m ∈ (rs.map Record.id).filter (!isErrorEnd ·) := by
    refine List.mem_filter.mpr ⟨hm, ?_⟩
    rw [Bool.not_eq_true']
    exact isErrorEnd_stepId s.flow m
  rw [filter_id_of_laid h, List.mem_map] at hmem
  obtain ⟨k, hk, heq⟩ := hmem
  obtain rfl := (stepId_inj heq).2
  exact List.Ico.mem.mp hk

/-- The sequence of a run leads to numbers after its first. -/
lemma target_of_laid (h : Laid (manner s es) form i j rs ls f) {l : String × Link} (hl : l ∈ ls)
    (hkind : l.2.kind = .sequence) {m : ℕ} (htarget : l.2.target = s.numbered m) :
    i < m ∧ m < j := by
  have hmem := h.wired.target_mem l hl (by simp [hkind])
  rw [htarget] at hmem
  refine ⟨?_, (number_of_laid h hmem).2⟩
  have hsource := h.wired.source_mem l hl
  obtain ⟨n, hn, ⟨k, hlt, hk⟩ | ⟨r, ⟨-, index, hid⟩, hr⟩⟩ := h.onward not_false l hl hkind
  · obtain rfl := (stepId_inj (htarget.symm.trans hk)).2
    rw [hn] at hsource
    exact (number_of_laid h hsource).1.trans_lt hlt
  · exact absurd (hid.symm.trans (hr.symm.trans htarget)) (errorEnd_ne_stepId _ index _ m)

lemma target_of_laidAll {fs : List Fragment} (h : LaidAll (manner s es) i j rs ls fs)
    {l : String × Link} (hl : l ∈ ls) (hkind : l.2.kind = .sequence) {m : ℕ}
    (htarget : l.2.target = s.numbered m) : i < m := by
  induction h with
  | nil => exact absurd hl (Set.notMem_empty l)
  | cons hrun hrest ih =>
    rcases hl with hl | hl
    · exact (target_of_laid hrun hl hkind htarget).1
    · exact hrun.le.trans_lt (ih hl)

end Numbers

/-- No step of the sequence leads to a number that is not given yet. -/
def Fresh (s : Scope) (w : Walk) : Prop :=
  ∀ l ∈ w.ties, l.2.kind = .sequence → ∀ m, w.next ≤ m → l.2.target ≠ s.numbered m

section Fresh

variable {s : Scope} {es : List Element} {w w' : Walk}

lemma Fresh.of_laid (h : Fresh s w) {rs : List Record} {ls : Set (String × Link)} {f : Fragment}
    {form : Form} (hadds : w.Adds w' rs ls)
    (hlaid : Laid (manner s es) form w.next w'.next rs ls f) : Fresh s w' := by
  intro l hl hkind m hm htarget
  rw [hadds.ties_eq] at hl
  rcases hl with hl | hl
  · exact h l hl hkind m (hlaid.le.trans hm) htarget
  · exact absurd hm (not_le.mpr (target_of_laid hlaid hl hkind htarget).2)

lemma Fresh.of_links (h : Fresh s w) (hlinks : w'.links = w.links) (hle : w.next ≤ w'.next) :
    Fresh s w' := by
  intro l hl hkind m hm
  have hmem : l ∈ w'.links := hl
  rw [hlinks] at hmem
  exact h l hmem hkind m (hle.trans hm)

lemma Fresh.link (h : Fresh s w) {source target : String} {kind : EdgeKind}
    {condition : Option String}
    (htarget : kind = .sequence → ∀ m, w.next ≤ m → target ≠ s.numbered m) :
    Fresh s (w.link source target kind condition) := by
  intro l hl hkind m hm
  rw [(w.adds_link source target kind condition).ties_eq] at hl
  rcases hl with hl | rfl
  · exact h l hl hkind m hm
  · exact htarget hkind m hm

lemma Fresh.connect (h : Fresh s w) {target : String} (htarget : ∀ m, target ≠ s.numbered m)
    (exits : List Exit) : Fresh s (w.connect exits target) := by
  intro l hl hkind m hm
  rw [(w.adds_connect exits target).ties_eq] at hl
  rcases hl with hl | ⟨x, -, rfl⟩
  · exact h l hl hkind m ((w.next_connect exits target).symm.trans_le hm)
  · exact htarget m

lemma Fresh.emit (h : Fresh s w) (e : Element) (role : Role) : Fresh s (s.emit e role w).2 :=
  h.of_links rfl (Nat.le_succ _)

lemma Fresh.processor (h : Fresh s w) (e : Element) : Fresh s (processor s e w).2 := by
  obtain ⟨rs, ls, hadds, hlaid⟩ := lays_nil_iff.mp
    (lays_processor s (e :: e.descendants) e w (List.Subset.refl _))
  exact h.of_laid hadds hlaid

lemma Fresh.walkEach (h : Fresh s w) (es : List Element) : Fresh s (walkEach s es w).2 := by
  induction es generalizing w with
  | nil => exact h
  | cons e es ih => exact ih (h.processor e)

/-- The run of a content. -/
lemma exists_body (s : Scope) (cs : List (Content Element)) (w : Walk) :
    ∃ rs ls, w.Adds ((fragments s cs w).2.sequence (fragments s cs w).1).2 rs ls ∧
      Laid (manner s (Xml.descendantsIn cs)) .run w.next
        ((fragments s cs w).2.sequence (fragments s cs w).1).2.next rs ls
        ((fragments s cs w).2.sequence (fragments s cs w).1).1 := by
  obtain ⟨rs, ls, hadds, hall⟩ :=
    lays_fragments s (Xml.descendantsIn cs) cs w (List.Subset.refl _)
  exact hall.exists_sequence hadds

lemma Fresh.body (h : Fresh s w) (cs : List (Content Element)) :
    Fresh s ((fragments s cs w).2.sequence (fragments s cs w).1).2 := by
  obtain ⟨rs, ls, hadds, hlaid⟩ := exists_body s cs w
  exact h.of_laid hadds hlaid

/-- A content is entered at a number that has been given. -/
lemma Fresh.enter (h : Fresh s w) (cs : List (Content Element)) (id : String)
    (condition : Option String) :
    Fresh s (enter id condition ((fragments s cs w).2.sequence (fragments s cs w).1).1
      ((fragments s cs w).2.sequence (fragments s cs w).1).2).2 := by
  obtain ⟨rs, ls, hadds, hlaid⟩ := exists_body s cs w
  have hbody := h.of_laid hadds hlaid
  generalize (fragments s cs w).2.sequence (fragments s cs w).1 = body at hlaid hbody ⊢
  unfold Mule.enter
  split
  · rename_i entry hentry
    obtain ⟨rfl, hlt⟩ := hlaid.entry_eq (by simp) hentry
    refine hbody.link fun _ m hm heq => ?_
    obtain rfl := (stepId_inj heq).2
    exact absurd hm (not_le.mpr hlt)
  · exact hbody

/-- An error end has no number. -/
lemma Fresh.conclude (h : Fresh s w) (cs : List (Content Element)) (propagates : Bool) (index : ℕ)
    {body : Fragment × Walk} (hbody : (fragments s cs w).2.sequence (fragments s cs w).1 = body) :
    Fresh s (if propagates then
        (s.emitSynthetic (s.flow ++ "/error-end-" ++ toString index) "Error End"
          "on-error-propagate" .finish body.2).sequence
          [body.1, .terminal (s.flow ++ "/error-end-" ++ toString index)]
      else (body.1, body.2)).2 := by
  obtain ⟨rs, ls, hadds, hlaid⟩ := exists_body s cs w
  rw [hbody] at hadds hlaid
  obtain ⟨rs', ls', hadds', hlaid'⟩ := exists_handler s propagates index hadds hlaid rfl
  exact h.of_laid hadds' hlaid'

/-- A strategy is walked, concluded and hung off what it protects before the next one is. -/
lemma Fresh.exists_strategy (h : Fresh s w) {e : Element}
    (he : e.localName ∈ ["on-error-propagate", "on-error-continue"]) (entry : String) (index : ℕ)
    (cs : List (Content Element)) :
    ∃ v, (strategies s entry index (.element e :: cs) w).2
        = (strategies s entry (index + 1) cs v).2 ∧ Fresh s v ∧
      ((fragments s e.children w).2.sequence (fragments s e.children w).1).2.GoesOn v 0 := by
  obtain ⟨name, attributes, children, span⟩ := e
  have hstrategy : Xml.localPart name == "on-error-propagate" ||
      Xml.localPart name == "on-error-continue" := by
    simpa using he
  simp only [strategies, Element.localName_mk]
  rw [if_pos hstrategy]
  generalize hbody : (fragments s children w).2.sequence (fragments s children w).1 = body
  have hfresh := h.conclude children (Xml.localPart name == "on-error-propagate") index hbody
  have hend := goesOn_conclude s (Xml.localPart name == "on-error-propagate") index body.1 body.2
  generalize (if Xml.localPart name == "on-error-propagate" then _ else _ : Fragment × Walk)
    = concluded at hfresh hend ⊢
  refine ⟨_, rfl, ?_, ?_⟩
  · split
    · exact hfresh.link fun hkind => absurd hkind (by decide)
    · exact hfresh
  · split
    · exact hend.extend (Walk.ties_link ..).goesOn
    · exact hend

end Fresh

/-! ### Chains that are walked -/

/-- A content is walked as a chain with records numbered from `n` on, and what is found there is
kept. Plain processors that it begins with may have been walked before. -/
def Visits (s : Scope) (final : Walk) (n : ℕ) (cs : List (Content Element)) : Prop :=
  ∃ lead es w, processorsIn cs = lead ++ es ∧ (∀ e ∈ lead, Kind.ofName e.localName = .plain) ∧
    w.next = n + total lead ∧ Fresh s w ∧
      ((walkEach s es w).2.sequence (walkEach s es w).1).2.Keeps final

section Visits

variable {s : Scope} {final : Walk}

lemma visits_of_fragments {cs : List (Content Element)} {w : Walk} (hfresh : Fresh s w)
    (hkeeps : ((fragments s cs w).2.sequence (fragments s cs w).1).2.Keeps final) :
    Visits s final w.next cs := by
  rw [fragments_eq] at hkeeps
  exact ⟨[], processorsIn cs, w, rfl, by simp, rfl, hfresh, hkeeps⟩

/-- Where the next content follows on one that is walked, both are. -/
lemma visits_cons {e : Element} {es : List Element} {w v : Walk} (hfresh : Fresh s w)
    (hgoes : ((fragments s e.children w).2.sequence (fragments s e.children w).1).2.GoesOn v 0)
    (hkeeps : v.Keeps final) (hrest : ∀ p ∈ numberBodies v.next es, Visits s final p.1 p.2) :
    ∀ p ∈ numberBodies w.next (e :: es), Visits s final p.1 p.2 := by
  have hbody := (goesOn_fragments s e.children w).extend
    (Walk.ties_sequence _ (fragments s e.children w).1).goesOn
  rw [numberBodies, ← (hbody.extend hgoes).next_eq]
  exact List.forall_mem_cons.mpr
    ⟨visits_of_fragments hfresh (hgoes.toKeeps.trans hkeeps), hrest⟩

/-- The branches of a choice are walked one after another. -/
lemma visits_branches (id : String) (cs : List (Content Element)) {w : Walk} (hfresh : Fresh s w)
    (hkeeps : (branches s id cs w).2.Keeps final) :
    ∀ p ∈ numberBodies w.next (partsIn ["when", "otherwise"] cs), Visits s final p.1 p.2 := by
  induction cs generalizing w with
  | nil => simp [partsIn, numberBodies]
  | cons c cs ih =>
    cases c with
    | text t =>
      rw [branches] at hkeeps
      exact ih hfresh hkeeps
    | element e =>
      obtain ⟨name, attributes, children, span⟩ := e
      simp only [branches, Element.localName_mk, Bool.or_eq_true, beq_iff_eq,
        ← List.mem_pair] at hkeeps
      rw [partsIn_element, Element.localName_mk]
      split at hkeeps
      · rename_i hbranch
        rw [if_pos hbranch]
        exact visits_cons hfresh (ties_enter id _ _ _).goesOn
          ((goesOn_branches s id cs _).toKeeps.trans hkeeps)
          (ih (hfresh.enter children id _) hkeeps)
      · rename_i hother
        rw [if_neg hother]
        exact ih (w := w.warn _) (hfresh.of_links rfl le_rfl) hkeeps

/-- The routes of a scatter-gather are walked one after another. -/
lemma visits_routes (id : String) (cs : List (Content Element)) {w : Walk} (hfresh : Fresh s w)
    (hkeeps : (routes s id cs w).2.Keeps final) :
    ∀ p ∈ numberBodies w.next (partsIn ["route"] cs), Visits s final p.1 p.2 := by
  induction cs generalizing w with
  | nil => simp [partsIn, numberBodies]
  | cons c cs ih =>
    cases c with
    | text t =>
      rw [routes] at hkeeps
      exact ih hfresh hkeeps
    | element e =>
      obtain ⟨name, attributes, children, span⟩ := e
      simp only [routes, beq_iff_eq] at hkeeps
      rw [partsIn_element, Element.localName_mk]
      simp only [List.mem_singleton]
      split at hkeeps
      · rename_i hroute
        rw [if_pos hroute]
        exact visits_cons hfresh (ties_enter id _ _ _).goesOn
          ((goesOn_routes s id cs _).toKeeps.trans hkeeps)
          (ih (hfresh.enter children id _) hkeeps)
      · rename_i hother
        rw [if_neg hother]
        exact ih hfresh hkeeps

/-- The strategies of an error handler are walked one after another. -/
lemma visits_strategies (entry : String) (index : ℕ) (cs : List (Content Element)) {w : Walk}
    (hfresh : Fresh s w) (hkeeps : (strategies s entry index cs w).2.Keeps final) :
    ∀ p ∈ numberBodies w.next (partsIn ["on-error-propagate", "on-error-continue"] cs),
      Visits s final p.1 p.2 := by
  induction cs generalizing w index with
  | nil => simp [partsIn, numberBodies]
  | cons c cs ih =>
    cases c with
    | text t =>
      rw [strategies] at hkeeps
      exact ih index hfresh hkeeps
    | element e =>
      rw [partsIn_element]
      split
      · rename_i hstrategy
        obtain ⟨v, hv, hfresh', hgoes⟩ := hfresh.exists_strategy hstrategy entry index cs
        rw [hv] at hkeeps
        exact visits_cons hfresh hgoes
          ((goesOn_strategies s entry (index + 1) cs v).toKeeps.trans hkeeps)
          (ih _ hfresh' hkeeps)
      · rename_i hother
        obtain ⟨name, attributes, children, span⟩ := e
        have hskip : ¬ (Xml.localPart name == "on-error-propagate" ||
            Xml.localPart name == "on-error-continue") := by
          simpa using hother
        simp only [strategies, Element.localName_mk] at hkeeps
        rw [if_neg hskip] at hkeeps
        exact ih (index + 1) (w := w.warn _) (hfresh.of_links rfl le_rfl) hkeeps

/-- So are those of the first error handler of a content. -/
lemma visits_firstHandler (entry : String) (cs : List (Content Element)) {w : Walk}
    (hfresh : Fresh s w) (hkeeps : (firstHandler s entry cs w).2.Keeps final) :
    ∀ p ∈ numberBodies w.next (strategiesIn cs), Visits s final p.1 p.2 := by
  induction cs with
  | nil => simp [strategiesIn, numberBodies]
  | cons c cs ih =>
    cases c with
    | text t =>
      rw [firstHandler] at hkeeps
      exact ih hkeeps
    | element e =>
      obtain ⟨name, attributes, children, span⟩ := e
      simp only [firstHandler] at hkeeps
      rw [strategiesIn, Xml.elementsIn_element, List.find?_cons, Element.localName_mk]
      split at hkeeps
      · rename_i hhandler
        rw [hhandler]
        exact visits_strategies entry 0 children hfresh hkeeps
      · rename_i hother
        rw [Bool.eq_false_of_not_eq_true hother]
        exact ih hkeeps

/-- A chain that is walked is walked from each of its processors on. -/
lemma Visits.exists_walkEach {n : ℕ} {cs : List (Content Element)} (h : Visits s final n cs)
    {before after : List Element} {e : Element} (hsplit : processorsIn cs = before ++ e :: after)
    (he : Kind.ofName e.localName ≠ .plain) :
    ∃ more w, w.next + total more = n + total before ∧ Fresh s w ∧
      ((walkEach s (more ++ e :: after) w).2.sequence
        (walkEach s (more ++ e :: after) w).1).2.Keeps final := by
  obtain ⟨lead, es, w, hcs, hlead, hnext, hfresh, hkeeps⟩ := h
  obtain ⟨more, rfl, rfl⟩ := exists_of_append_eq (hcs.symm.trans hsplit)
    fun hmem => he (hlead e hmem)
  refine ⟨more, w, ?_, hfresh, hkeeps⟩
  rw [hnext, total_append, Nat.add_assoc]

/-- Each processor of a chain that is walked is walked, with the number that follows from those
before it. -/
lemma Visits.processor {n : ℕ} {cs : List (Content Element)} (h : Visits s final n cs)
    {before after : List Element} {e : Element} (hsplit : processorsIn cs = before ++ e :: after)
    (he : Kind.ofName e.localName ≠ .plain) :
    ∃ w, w.next = n + total before ∧ Fresh s w ∧ (processor s e w).2.Keeps final := by
  obtain ⟨more, w, hnext, hfresh, hkeeps⟩ := h.exists_walkEach hsplit he
  refine ⟨(walkEach s more w).2, ?_, hfresh.walkEach more, ?_⟩
  · rw [(goesOn_walkEach s more w).next_eq, hnext]
  · rw [walkEach_append] at hkeeps
    refine Walk.Keeps.trans ?_ hkeeps
    exact ((goesOn_walkEach s after _).trans (Walk.ties_sequence ..).goesOn).toKeeps

/-- The chains right in a processor are walked with it. -/
lemma Visits.inner {n : ℕ} {cs : List (Content Element)} (h : Visits s final n cs)
    {before after : List Element} {e : Element} (hsplit : processorsIn cs = before ++ e :: after)
    {m : ℕ} {body : List (Content Element)} (hbody : (m, body) ∈ chainsIn (n + total before) e) :
    Visits s final m body := by
  have he : Kind.ofName e.localName ≠ .plain := by
    intro hplain
    rw [chainsIn, hplain] at hbody
    exact absurd hbody List.not_mem_nil
  obtain ⟨w, hnext, hfresh, hkeeps⟩ := h.processor hsplit he
  rw [← hnext] at hbody
  have hemit := hfresh.emit e .step
  obtain ⟨name, attributes, children, span⟩ := e
  simp only [Mule.processor, Element.localName_mk] at hkeeps
  simp only [chainsIn, Element.localName_mk] at hbody
  cases hkind : Kind.ofName (Xml.localPart name) with
  | choice =>
    simp only [hkind] at hkeeps hbody
    exact visits_branches _ children hemit hkeeps _ hbody
  | scatterGather =>
    simp only [hkind] at hkeeps hbody
    refine visits_routes (s.numbered w.next) children hemit ?_ _ hbody
    have haggregate := (Walk.ties_connect ..).goesOn.toKeeps.trans hkeeps
    exact (Walk.goesOn_emit_advance ..).toKeeps.trans haggregate
  | loop =>
    simp only [hkind] at hkeeps hbody
    obtain ⟨rfl, rfl⟩ := Prod.mk.inj (List.mem_singleton.mp hbody)
    exact visits_of_fragments hemit ((ties_enter ..).goesOn.toKeeps.trans hkeeps)
  | tryScope =>
    simp only [hkind] at hkeeps hbody
    have hruns := (Walk.isSome_entry_sequence (fragments s children w).2 _).trans
      (any_isSome_entry_fragments s children w)
    have hchain := (goesOn_fragments s children w).extend
      (Walk.ties_sequence _ (fragments s children w).1).goesOn
    rcases List.mem_cons.mp hbody with heq | hbody
    · obtain ⟨rfl, rfl⟩ := Prod.mk.inj heq
      refine visits_of_fragments hfresh (.trans ?_ hkeeps)
      split
      · exact .refl _
      · exact (goesOn_firstHandler ..).toKeeps
    · rw [← hruns] at hbody
      split at hkeeps
      · rename_i hnone
        simp [hnone] at hbody
      · rename_i entry hentry
        rw [hentry, Option.isSome_some, if_pos rfl, ← hchain.next_eq] at hbody
        exact visits_firstHandler entry children (hfresh.body children) hkeeps _ hbody
  | flowRef | raiseError | plain =>
    simp only [hkind] at hbody
    exact absurd hbody List.not_mem_nil

/-- All chains of a flow are walked with it. -/
lemma visits_walkFlow {flow : Element} {w : Walk} (hfresh : Fresh s { w with next := 0 })
    (hkeeps : (walkFlow s flow w).Keeps final) {n : ℕ} {cs : List (Content Element)}
    (h : HasChain flow n cs) : Visits s final n cs := by
  have hchain := goesOn_chain s flow { w with next := 0 }
  have hruns := isSome_entry_chain s flow { w with next := 0 }
  induction h with
  | main =>
    have hafter : (chain s flow { w with next := 0 }).2.Keeps final := by
      refine .trans ?_ hkeeps
      unfold walkFlow
      dsimp only
      split
      · exact .refl _
      · split
        · refine .trans ?_ (Walk.ties_connect ..).goesOn.toKeeps
          refine .trans ?_ (goesOn_firstHandler ..).toKeeps
          exact ((Walk.goesOn_emit ..).trans (Walk.ties_connect ..).goesOn).toKeeps
        · exact (goesOn_firstHandler ..).toKeeps
    unfold chain at hafter
    split at hafter
    · -- the message source comes first, and it is plain
      rename_i first hfirst
      obtain ⟨hfind, hsource⟩ := Option.filter_eq_some_iff.mp hfirst
      have hplain := kind_of_isMessageSource hsource
      have hbody := (Walk.ties_join ..).goesOn.toKeeps.trans hafter
      rw [fragments_eq] at hbody
      refine ⟨[first], _, _, processorsIn_afterFirstProcessor hfind, by simpa using hplain, ?_,
        hfresh.emit first .start, hbody⟩
      rw [total_cons, count_of_plain hplain]
      rfl
    · exact visits_of_fragments hfresh hafter
  | handler hany h =>
    rw [hany] at hruns
    obtain ⟨entry, hentry⟩ := Option.isSome_iff_exists.mp hruns
    obtain ⟨rs, ls, hadds, hlaid⟩ := lays_nil_iff.mp
      (lays_chain (s := s) (List.Subset.refl flow.descendants) { w with next := 0 })
    have hafter := hfresh.of_laid hadds hlaid
    have hnext : countIn flow.children = (chain s flow { w with next := 0 }).2.next := by
      rw [hchain.next_eq, Nat.zero_add]
    rw [hnext] at h
    unfold walkFlow at hkeeps
    simp only [hentry] at hkeeps
    split at hkeeps
    · have hend : Fresh s (s.emitSynthetic (s.flow ++ "/end") "End" "end" .finish
          (chain s flow { w with next := 0 }).2) := hafter.of_links rfl le_rfl
      have hconnected := hend.connect (fun m => end_ne_stepId s.flow s.flow m)
        (chain s flow { w with next := 0 }).1.exits
      have hvisits := visits_firstHandler entry flow.children hconnected
        ((Walk.ties_connect ..).goesOn.toKeeps.trans hkeeps)
      rw [Walk.next_connect] at hvisits
      exact hvisits _ h
    · exact visits_firstHandler entry flow.children hafter hkeeps _ h
  | inner hchain' hsplit h ih => exact ih.inner hsplit h

end Visits

end IntegrationFlow.Source.Mule
