import Mathlib
import IntegrationFlow.Proofs.Graph.Folding
import IntegrationFlow.Proofs.Source.Mule.Traversal

/-!
# Where a choice leads when no branch is taken

A choice without an `otherwise` leads on to the next processor of its chain with a link that has no
condition. So does each of its branches that has nothing to run, with the condition of the branch.
All these links join the same two nodes, and only the first of such links becomes an edge. The way
past a choice is thus unguarded exactly if every branch has something to run.
-/

namespace IntegrationFlow.Source

open Xml (Element Content elementsIn)

namespace Fragment

lemma exits_followedBy {a b : Fragment} (h : b.entry.isSome) :
    (a.followedBy b).exits = b.exits := by
  unfold followedBy
  split
  · rfl
  · rename_i hnone
    rw [hnone] at h
    exact absurd h Bool.false_ne_true
  · rfl

lemma isSome_entry_followedBy {a b : Fragment} (h : b.entry.isSome) :
    (a.followedBy b).entry.isSome := by
  unfold followedBy
  split <;> simp_all

end Fragment

namespace Walk

lemma chainOn_append (start : Fragment × Walk) (fs fs' : List Fragment) :
    chainOn start (fs ++ fs') = chainOn (chainOn start fs) fs' := List.foldl_append

/-- Runs without an entry are passed over. -/
lemma chainOn_of_forall_none {a : Fragment} (ha : a.entry.isSome) (w : Walk) {fs : List Fragment}
    (hfs : ∀ f ∈ fs, f.entry = none) : chainOn (a, w) fs = (a, w) := by
  induction fs with
  | nil => rfl
  | cons f fs ih =>
    obtain ⟨hf, hfs⟩ := List.forall_mem_cons.mp hfs
    have hjoin : w.join a f = (a, w) := by
      obtain ⟨entry, hentry⟩ := Option.isSome_iff_exists.mp ha
      rw [join, hentry, hf]
    rw [chainOn, List.foldl_cons, hjoin]
    exact ih hfs

end Walk

namespace Mule

/-! ### The loose ends of a choice -/

/-- The condition of a branch. -/
def guardOf (branch : Element) : String := Text.trim ((branch.attr "expression").getD "")

/-- The branches of a choice that have a condition. -/
def guarded (choice : Element) : List Element := partsIn ["when"] choice.children

/-- The condition of the way past a choice without an `otherwise`: that of its first branch that has
nothing to run, and none if all of them have something to run. -/
def fallCondition (choice : Element) : Option String :=
  ((guarded choice).find? fun b => !anyRuns b.children).map guardOf

lemma fallCondition_eq_none_iff {choice : Element} :
    fallCondition choice = none ↔ ∀ b ∈ guarded choice, anyRuns b.children := by
  simp [fallCondition]

section Choice

variable (s : Scope)

/-- A branch leaves the choice itself as a loose end if it has nothing to run, and otherwise leaves
what comes later. -/
lemma find?_enter {k : ℕ} (condition : Option String) (cs : List (Content Element)) {w : Walk}
    (hk : k < w.next) :
    (enter (s.numbered k) condition ((fragments s cs w).2.sequence (fragments s cs w).1).1
      ((fragments s cs w).2.sequence (fragments s cs w).1).2).1.find?
        (fun x => x.source == s.numbered k)
      = if anyRuns cs then none else some ⟨s.numbered k, condition⟩ := by
  obtain ⟨rs, ls, -, hlaid⟩ := exists_body s cs w
  have hruns := (Walk.isSome_entry_sequence (fragments s cs w).2 _).trans
    (any_isSome_entry_fragments s cs w)
  rw [← hruns]
  generalize (fragments s cs w).2.sequence (fragments s cs w).1 = body at hlaid
  unfold enter
  split
  · rename_i entry hentry
    rw [hentry, Option.isSome_some, if_pos rfl, List.find?_eq_none]
    intro x hx hsource
    obtain ⟨n, hn, -, hid⟩ := hlaid.exits_lt x hx
    obtain rfl := (stepId_inj (hid.symm.trans (beq_iff_eq.mp hsource))).2
    exact absurd hk (not_lt.mpr hn)
  · rename_i hnone
    simp [hnone]

/-- Of the branches of a choice, the first that has nothing to run leaves the choice itself. -/
lemma find?_branches {k : ℕ} {cs : List (Content Element)}
    (hcs : ∀ e ∈ elementsIn cs, e.localName ≠ "otherwise") {w : Walk} (hk : k < w.next) :
    (branches s (s.numbered k) cs w).1.find? (fun x => x.source == s.numbered k)
      = ((partsIn ["when"] cs).find? fun b => !anyRuns b.children).map
          fun b => ⟨s.numbered k, some (guardOf b)⟩ := by
  induction cs generalizing w with
  | nil => simp [branches, partsIn]
  | cons c cs ih =>
    cases c with
    | text t =>
      rw [branches]
      exact ih hcs hk
    | element e =>
      rw [Xml.elementsIn_element, List.forall_mem_cons] at hcs
      obtain ⟨hother, hcs⟩ := hcs
      obtain ⟨name, attributes, children, span⟩ := e
      rw [Element.localName_mk] at hother
      simp only [branches, Element.localName_mk]
      rw [partsIn_element, Element.localName_mk]
      by_cases hwhen : Xml.localPart name = "when"
      · have hnext : k < (enter (s.numbered k)
            (some (guardOf ⟨name, attributes, children, span⟩))
            ((fragments s children w).2.sequence (fragments s children w).1).1
            ((fragments s children w).2.sequence (fragments s children w).1).2).2.next := by
          rw [(((goesOn_fragments s children w).extend (Walk.ties_sequence ..).goesOn).extend
            (ties_enter ..).goesOn).next_eq]
          exact Nat.lt_add_right _ hk
        have hrest := ih hcs hnext
        have hguard : Text.trim ((Element.attr ⟨name, attributes, children, span⟩ "expression").getD
            "") = guardOf ⟨name, attributes, children, span⟩ := rfl
        rw [if_pos (by simp [hwhen]), if_pos (by simp [hwhen]), if_pos (by simp [hwhen]), hguard,
          List.find?_append, find?_enter s _ children hk, hrest, List.find?_cons]
        dsimp only
        cases anyRuns children with
        | true => simp
        | false => simp
      · rw [if_neg (by simp [hwhen, hother]), if_neg (by simp [hwhen])]
        exact ih hcs (w := w.warn _) hk

lemma processor_choice {choice : Element} (hchoice : choice.localName = "choice") (w : Walk) :
    (processor s choice w).1
      = ⟨some (s.numbered w.next), choiceExits (s.numbered w.next)
          (branches s (s.numbered w.next) choice.children (s.emit choice .step w).2).1
          (hasOtherwise choice)⟩ := by
  obtain ⟨name, attributes, children, span⟩ := choice
  have hkind : Kind.ofName (Element.localName ⟨name, attributes, children, span⟩) = .choice := by
    rw [hchoice]
    rfl
  simp only [processor, hkind]
  rfl

/-- The first loose end that a choice without an `otherwise` leaves at itself. -/
lemma find?_exits_choice {choice : Element} (hchoice : choice.localName = "choice")
    (hotherwise : hasOtherwise choice = false) (w : Walk) :
    (processor s choice w).1.exits.find? (fun x => x.source == s.numbered w.next)
      = some ⟨s.numbered w.next, fallCondition choice⟩ := by
  have hcs : ∀ e ∈ elementsIn choice.children, e.localName ≠ "otherwise" := by
    intro e he hname
    rw [hasOtherwise, List.any_eq_false] at hotherwise
    exact hotherwise e he (by simp [hname])
  rw [processor_choice s hchoice w]
  dsimp only
  rw [hotherwise, choiceExits, if_neg Bool.false_ne_true, List.find?_append,
    find?_branches s hcs (k := w.next) (Nat.lt_succ_self _), fallCondition,
    guarded]
  cases (partsIn ["when"] choice.children).find? fun b => !anyRuns b.children with
  | none => simp
  | some b => rfl

end Choice

/-! ### The link past a choice -/

/-- A link is one of the sequence from `u` to `v`. -/
def leadsOn (u v : String) (l : String × Link) : Bool :=
  l.1 == u && decide (l.2.target = v ∧ l.2.kind = .sequence)

section Row

variable {s : Scope} {w final : Walk} {es between after : List Element} {choice next x : Element}

lemma exists_of_mem_walkEach {f : Fragment} (h : f ∈ (walkEach s es w).1) :
    ∃ e ∈ es, ∃ w', f = (processor s e w').1 := by
  induction es generalizing w with
  | nil => exact absurd h List.not_mem_nil
  | cons e es ih =>
    rcases List.mem_cons.mp h with rfl | h
    · exact ⟨e, List.mem_cons_self, w, rfl⟩
    · obtain ⟨e', he', w', hf⟩ := ih h
      exact ⟨e', List.mem_cons_of_mem _ he', w', hf⟩

/-- Processors in a row are laid as runs in a row. -/
lemma laidAll_walkEach (s : Scope) {es₀ es : List Element}
    (hes : ∀ e ∈ es, e :: e.descendants ⊆ es₀) (w : Walk) :
    ∃ rs ls, w.Adds (walkEach s es w).2 rs ls ∧
      LaidAll (manner s es₀) w.next (walkEach s es w).2.next rs ls (walkEach s es w).1 := by
  induction es generalizing w with
  | nil => exact ⟨[], ∅, w.adds_self, .nil _⟩
  | cons e es ih =>
    obtain ⟨he, hes⟩ := List.forall_mem_cons.mp hes
    obtain ⟨rs, ls, hadds, hlaid⟩ := lays_nil_iff.mp (lays_processor s es₀ e w he)
    obtain ⟨rs', ls', hadds', hrest⟩ := ih hes (processor s e w).2
    exact ⟨_, _, hadds.trans hadds', .cons hlaid hrest⟩

/-- While processors are tied in a row, nothing leads to the number after theirs yet. -/
lemma target_ne_of_fresh (h : Fresh s w) (es es' : List Element) {l : String × Link}
    (hl : l ∈ (Walk.chainOn ({}, (walkEach s es' (walkEach s es w).2).2)
      (walkEach s es w).1).2.links) (hkind : l.2.kind = .sequence) :
    l.2.target ≠ s.numbered (walkEach s es w).2.next := by
  have hsub : ∀ e ∈ es ++ es', e :: e.descendants ⊆
      (es ++ es').flatMap fun e => e :: e.descendants := by
    intro e he y hy
    exact List.mem_flatMap.mpr ⟨e, he, hy⟩
  obtain ⟨rs, ls, hadds, hall⟩ :=
    laidAll_walkEach s (fun e he => hsub e (List.mem_append_left es' he)) w
  obtain ⟨rs', ls', hadds', hall'⟩ :=
    laidAll_walkEach s (fun e he => hsub e (List.mem_append_right es he)) (walkEach s es w).2
  obtain ⟨more, hmore, -, hlaid⟩ :=
    hall.exists_foldl (walkEach s es' (walkEach s es w).2).2 (.empty _)
  have hties : l ∈ (Walk.chainOn ({}, (walkEach s es' (walkEach s es w).2).2)
      (walkEach s es w).1).2.ties := hl
  rw [Walk.chainOn, hmore.ties_eq, hadds'.ties_eq] at hties
  intro htarget
  rcases hties with (hbefore | hafter) | hseam
  · exact h.walkEach es l hbefore hkind _ le_rfl htarget
  · exact lt_irrefl _ (target_of_laidAll hall' hafter hkind htarget)
  · exact lt_irrefl _ (target_of_laid hlaid (.inr hseam) hkind htarget).2

/-- The last of processors in a row leaves the loose ends. -/
lemma chainOn_walkEach_concat (s : Scope) (es : List Element) (hruns : runs choice) (w v : Walk) :
    (Walk.chainOn ({}, v) (walkEach s (es ++ [choice]) w).1).1.entry.isSome ∧
      (Walk.chainOn ({}, v) (walkEach s (es ++ [choice]) w).1).1.exits
        = (processor s choice (walkEach s es w).2).1.exits := by
  have hentry := isSome_entry_processor s choice (walkEach s es w).2
  rw [hruns] at hentry
  have hlast : (walkEach s [choice] (walkEach s es w).2).1
      = [(processor s choice (walkEach s es w).2).1] := rfl
  rw [walkEach_append, hlast, Walk.chainOn_append]
  generalize Walk.chainOn ({}, v) (walkEach s es w).1 = start
  rw [Walk.chainOn, List.foldl_cons, List.foldl_nil, Walk.fst_join]
  exact ⟨Fragment.isSome_entry_followedBy hentry, Fragment.exits_followedBy hentry⟩

/-- The loose ends of a processor are tied to the next one that has something to run. -/
lemma keeps_connect (hchoice : runs choice) (hbetween : ∀ e ∈ between, runs e = false)
    (hnext : runs next)
    (hkeeps : ((walkEach s (es ++ choice :: (between ++ next :: after)) w).2.sequence
      (walkEach s (es ++ choice :: (between ++ next :: after)) w).1).2.Keeps final) :
    ((Walk.chainOn ({}, (walkEach s (between ++ next :: after)
        (walkEach s (es ++ [choice]) w).2).2) (walkEach s (es ++ [choice]) w).1).2.connect
      (processor s choice (walkEach s es w).2).1.exits
      (s.numbered (walkEach s (es ++ [choice]) w).2.next)).Keeps final := by
  have hsplit : es ++ choice :: (between ++ next :: after)
      = (es ++ [choice]) ++ (between ++ next :: after) := by simp
  rw [hsplit, walkEach_append] at hkeeps
  have hstart := chainOn_walkEach_concat s es hchoice w
    (walkEach s (between ++ next :: after) (walkEach s (es ++ [choice]) w).2).2
  generalize (walkEach s (between ++ next :: after) (walkEach s (es ++ [choice]) w).2).2 = v
    at hkeeps hstart ⊢
  generalize hw₁ : (walkEach s (es ++ [choice]) w).2 = w₁ at hkeeps ⊢
  have hsequence : ∀ fs, v.sequence fs = Walk.chainOn ({}, v) fs := fun _ => rfl
  dsimp only at hkeeps
  rw [hsequence, Walk.chainOn_append] at hkeeps
  generalize Walk.chainOn ({}, v) (walkEach s (es ++ [choice]) w).1 = start at hkeeps hstart ⊢
  obtain ⟨a, w₃⟩ := start
  obtain ⟨ha, hexits⟩ := hstart
  -- what has nothing to run is passed over, and takes no number
  have hempty : ∀ f ∈ (walkEach s between w₁).1, f.entry = none := by
    intro f hf
    obtain ⟨e, he, w', rfl⟩ := exists_of_mem_walkEach hf
    rw [← Option.not_isSome_iff_eq_none, isSome_entry_processor, hbetween e he]
    exact Bool.false_ne_true
  have hnumber : (walkEach s between w₁).2.next = w₁.next := by
    rw [(goesOn_walkEach s between w₁).next_eq, total_eq_zero hbetween, Nat.add_zero]
  rw [walkEach_append] at hkeeps
  rw [Walk.chainOn_append, Walk.chainOn_of_forall_none ha w₃ hempty] at hkeeps
  generalize (walkEach s between w₁).2 = wb at hkeeps hnumber
  obtain ⟨rs, ls, -, hlaid⟩ := lays_nil_iff.mp
    (lays_processor s (next :: next.descendants) next wb (List.Subset.refl _))
  have hentry := isSome_entry_processor s next wb
  rw [hnext] at hentry
  obtain ⟨target, htarget⟩ := Option.isSome_iff_exists.mp hentry
  obtain ⟨entry, hentry⟩ := Option.isSome_iff_exists.mp ha
  have hjoin : (w₃.join a (processor s next wb).1).2
      = w₃.connect (processor s choice (walkEach s es w).2).1.exits (s.numbered w₁.next) := by
    rw [Walk.join, hentry, htarget, (hlaid.entry_eq (by simp) htarget).1, hnumber, ← hexits]
    rfl
  rw [← hjoin]
  exact (Walk.ties_chainOn ..).goesOn.toKeeps.trans hkeeps

/-- The first link past a choice without an `otherwise`. -/
lemma find?_leadsOn (hfresh : Fresh s w) (hchoice : choice.localName = "choice")
    (hotherwise : hasOtherwise choice = false) (hbetween : ∀ e ∈ between, runs e = false)
    (hnext : runs next)
    (hkeeps : ((walkEach s (es ++ choice :: (between ++ next :: after)) w).2.sequence
      (walkEach s (es ++ choice :: (between ++ next :: after)) w).1).2.Keeps final) :
    final.links.find? (leadsOn (s.numbered (walkEach s es w).2.next)
        (s.numbered (walkEach s (es ++ [choice]) w).2.next))
      = some (s.numbered (walkEach s es w).2.next,
          ⟨s.numbered (walkEach s (es ++ [choice]) w).2.next, .sequence,
            fallCondition choice⟩) := by
  have hruns : runs choice := by
    obtain ⟨name, attributes, children, span⟩ := choice
    rw [runs, show Xml.localPart name = "choice" from hchoice]
    rfl
  obtain ⟨later, hlinks⟩ := (keeps_connect hruns hbetween hnext hkeeps).prefix_links
  rw [← hlinks, Walk.links_connect, List.append_assoc, List.find?_append,
    List.find?_eq_none.mpr ?_, Option.none_or, List.find?_append, List.find?_map]
  · have hsame : leadsOn (s.numbered (walkEach s es w).2.next)
        (s.numbered (walkEach s (es ++ [choice]) w).2.next) ∘ (fun x : Exit =>
          (x.source, ⟨s.numbered (walkEach s (es ++ [choice]) w).2.next, .sequence, x.condition⟩))
        = fun x : Exit => x.source == s.numbered (walkEach s es w).2.next := by
      funext x
      simp [leadsOn]
    rw [hsame, find?_exits_choice s hchoice hotherwise]
    rfl
  · intro l hl hleads
    simp only [leadsOn, Bool.and_eq_true, decide_eq_true_eq] at hleads
    exact target_ne_of_fresh hfresh (es ++ [choice]) _ hl hleads.2.2 hleads.2.1

/-- Each processor of a row that has something to run has its first record. -/
lemma exists_record_walkEach (s : Scope) (es : List Element) (hnext : firstStep? next = some x)
    (after : List Element) (w : Walk) :
    ∃ role, s.record x role (w.next + total es)
      ∈ (walkEach s (es ++ next :: after) w).2.records := by
  obtain ⟨role, hrole⟩ := exists_record_processor s next (walkEach s es w).2 hnext
  rw [(goesOn_walkEach s es w).next_eq] at hrole
  rw [walkEach_append]
  exact ⟨role, (goesOn_walkEach s after _).prefix_records.subset hrole⟩

/-- A chain that is walked leads past a choice without an `otherwise` to the next processor that has
something to run. -/
lemma Visits.falls_through {n : ℕ} {cs : List (Content Element)} (h : Visits s final n cs)
    {before : List Element}
    (hsplit : processorsIn cs = before ++ choice :: (between ++ next :: after))
    (hchoice : choice.localName = "choice") (hotherwise : hasOtherwise choice = false)
    (hbetween : ∀ e ∈ between, firstStep? e = none) (hnext : firstStep? next = some x) :
    (∃ role, s.record choice role (n + total before) ∈ final.records) ∧
    (∃ role, s.record x role (n + total before + count choice) ∈ final.records) ∧
    final.links.find? (leadsOn (s.numbered (n + total before))
        (s.numbered (n + total before + count choice)))
      = some (s.numbered (n + total before),
          ⟨s.numbered (n + total before + count choice), .sequence, fallCondition choice⟩) := by
  have hkind : Kind.ofName choice.localName = .choice := by
    rw [hchoice]
    rfl
  have hfirst : firstStep? choice = some choice := by
    obtain ⟨name, attributes, children, span⟩ := choice
    rw [firstStep?, show Kind.ofName (Xml.localPart name) = .choice from hkind]
    rfl
  have hempty : ∀ e ∈ between, runs e = false := by
    intro e he
    rw [← isSome_firstStep?, hbetween e he, Option.isSome_none]
  have hruns : runs next := by rw [← isSome_firstStep?, hnext, Option.isSome_some]
  obtain ⟨more, w, hnumber, hfresh, hkeeps⟩ := h.exists_walkEach hsplit (by simp [hkind])
  have hrecords := ((Walk.ties_sequence ..).goesOn.toKeeps.trans hkeeps).prefix_records.subset
  refine ⟨?_, ?_, ?_⟩
  · obtain ⟨role, hrole⟩ := exists_record_walkEach s more hfirst (between ++ next :: after) w
    exact ⟨role, hrecords (hnumber ▸ hrole)⟩
  · obtain ⟨role, hrole⟩ := exists_record_walkEach s (more ++ choice :: between) hnext after w
    rw [total_append, total_cons, total_eq_zero hempty, Nat.add_zero, ← Nat.add_assoc, hnumber,
      List.append_assoc, List.cons_append] at hrole
    exact ⟨role, hrecords hrole⟩
  · have hlink := find?_leadsOn hfresh hchoice hotherwise hempty hruns hkeeps
    have hlast : total (more ++ [choice]) = total more + count choice := total_append ..
    rwa [(goesOn_walkEach s more w).next_eq, (goesOn_walkEach s (more ++ [choice]) w).next_eq,
      hlast, ← Nat.add_assoc, hnumber] at hlink

end Row

/-! ### Applications -/

section Application

variable {source : SourceText} {root flow : Element} {name : String}

/-- Flows that are walked before lead to no number of a flow with another name. -/
lemma fresh_foldl {flows : List Element} (globals : OrderedMap String Settings)
    (hnone : flowNamed? flows name = none) :
    Fresh ⟨source, globals, name⟩
      { flows.foldl (walkNamed source globals) {} with next := 0 } := by
  intro l hl hkind m _ htarget
  have hties : ({} : Walk).ties = ∅ := by simp [Walk.ties]
  have hcoheres : Coheres source (flows.flatMap Element.descendants)
      (flows.foldl (walkNamed source globals) {}).records
      (flows.foldl (walkNamed source globals) {}).ties := by
    refine coheres_foldl (fun flow hflow x hx => List.mem_flatMap.mpr ⟨flow, hflow, hx⟩) ?_
    rw [hties]
    exact .empty
  have hmem := hcoheres.target_mem l hl (by simp [hkind])
  rw [htarget] at hmem
  obtain ⟨name', hsome, hin, -⟩ := (Identified.foldl source globals flows).inFlow _ hmem
  rw [hin.eq (inFlow_stepId name m), hnone] at hsome
  exact Bool.false_ne_true hsome

/-- The chains of the flow that a name stands for are walked. -/
lemma visits_walkAll (source : SourceText)
    (hflow : flowNamed? (root.elements.filter isFlow) name = some flow) {n : ℕ}
    {cs : List (Content Element)} (h : HasChain flow n cs) :
    Visits ⟨source, globalSettings root, name⟩ (walkAll source root) n cs := by
  obtain ⟨hfound, before, after, hsplit, hbefore⟩ := List.find?_eq_some_iff_append.mp hflow
  have hname : flow.attrNonBlank "name" = some name := by
    simpa using (Bool.and_eq_true_iff.mp hfound).1
  have hnone : flowNamed? before name = none := by
    refine List.find?_eq_none.mpr fun f hf => ?_
    simpa only [Bool.not_eq_true, Bool.not_eq_true'] using hbefore f hf
  refine visits_walkFlow (fresh_foldl _ hnone) ?_ h
  rw [walkAll, hsplit, List.foldl_append, List.foldl_cons,
    walkNamed_of_flowNamed? source _ (.foldl source _ before) hname hnone]
  exact keeps_foldl ..

/-- Without merge keys, a record that is no error end is alone with its id. -/
lemma recordsWith_finish (hdoc : ∀ e ∈ root.descendants, e.attr "doc:id" = none) {r : Record}
    (hr : r ∈ (walkAll source root).finish) (hid : isErrorEnd r.id = false) :
    recordsWith (walkAll source root).finish r.id = [r] := by
  have hsteps := (identified_walkAll source root).steps
  rw [ids, ← Walk.map_id_finish, List.filter_map] at hsteps
  have hmem : r ∈ (walkAll source root).finish.filter ((!isErrorEnd ·) ∘ Record.id) :=
    List.mem_filter.mpr ⟨hr, by simp [hid]⟩
  rw [← filter_eq_singleton hsteps hmem, List.filter_filter, recordsWith]
  refine List.filter_congr fun x hx => ?_
  rw [Record.groupKey, mergeKey_of_mem_finish hdoc hx, Option.getD_none]
  by_cases heq : x.id = r.id
  · simp [heq, hid]
  · simp [heq]

end Application

/-- The first link of a finished record is the first that was laid from its id. -/
lemma find?_links_finish {w : Walk} {r : Record} (hr : r ∈ w.finish) (p : Link → Bool) :
    r.links.find? p = (w.links.find? fun l => l.1 == r.id && p l.2).map Prod.snd := by
  obtain ⟨r₀, -, rfl⟩ := List.mem_map.mp hr
  rw [List.find?_map, List.find?_filter]
  simp only [Function.comp_def, Bool.decide_and, Bool.decide_eq_true]

/-- A node stands for the element whose record has a number, and for no other. -/
def IsNodeOf (s : Scope) (records : List Record) (e : Element) (n : ℕ) (u : Node) : Prop :=
  ∃ r ∈ records, IsRecordIn s e r ∧ r.id = stepId s.flow n ∧ u.sources = [r.source]

/-- An element with a record has a node. -/
lemma exists_isNodeOf {source : SourceText} {root : Element}
    (hdoc : ∀ e ∈ root.descendants, e.attr "doc:id" = none) {acyclic : Option Bool} {g : FlowGraph}
    (hbuild : FlowGraph.build (walkAll source root).finish acyclic = .ok g) {s : Scope}
    {e : Element} {role : Role} {n : ℕ} (h : s.record e role n ∈ (walkAll source root).records) :
    ∃ r ∈ (walkAll source root).finish, r.id = stepId s.flow n ∧
      recordsWith (walkAll source root).finish r.id = [r] ∧
      ∃ u ∈ g.nodeList, IsNodeOf s (walkAll source root).finish e n u ∧
        u.id = nodeIdOf (walkAll source root).finish r.id := by
  have hr := List.mem_map_of_mem (f := fun r : Record => r.withLinks
    (((walkAll source root).links.filter fun l => l.1 == r.id).map Prod.snd)) h
  generalize hfinished : (s.record e role n).withLinks _ = r at hr
  have hid : r.id = stepId s.flow n := by
    rw [← hfinished]
    rfl
  have hin : IsRecordIn s e r := hfinished ▸ (isRecordIn_record s e role n).withLinks _
  replace hr : r ∈ (walkAll source root).finish := hr
  have hown := recordsWith_finish hdoc hr (by rw [hid]; exact isErrorEnd_stepId ..)
  have hkey := groupKey_mem_mergeKeys hr
  rw [Record.groupKey, mergeKey_of_mem_finish hdoc hr, Option.getD_none] at hkey
  obtain ⟨u, hu, huid, hsources⟩ := exists_node_of_build hbuild hkey
  rw [hown] at hsources
  exact ⟨r, hr, hid, hown, u, hu, ⟨r, hr, hin, hid, hsources⟩, huid⟩

/-- In an application without merge keys, exactly one step of the sequence leads from a choice
without an `otherwise` to the next processor of its chain that has something to run. It has the
condition of the first branch that has nothing to run, so it is unguarded exactly if every branch
has something to run. -/
theorem choice_falls_through (source : SourceText) {root : Element}
    (hroot : root.localName = "mule") (hdoc : ∀ e ∈ root.descendants, e.attr "doc:id" = none)
    {acyclic : Option Bool} {g : FlowGraph}
    (hbuild : FlowGraph.build (read source root).1 acyclic = .ok g) {name : String} {flow : Element}
    (hflow : flowNamed? (root.elements.filter isFlow) name = some flow)
    {n : ℕ} {cs : List (Content Element)} (hchain : HasChain flow n cs)
    {before between after : List Element} {choice next x : Element}
    (hsplit : processorsIn cs = before ++ choice :: (between ++ next :: after))
    (hchoice : choice.localName = "choice") (hotherwise : hasOtherwise choice = false)
    (hbetween : ∀ e ∈ between, firstStep? e = none) (hnext : firstStep? next = some x) :
    ∃ u ∈ g.nodeList, ∃ v ∈ g.nodeList,
      IsNodeOf ⟨source, globalSettings root, name⟩ (read source root).1 choice
        (n + total before) u ∧
      IsNodeOf ⟨source, globalSettings root, name⟩ (read source root).1 x
        (n + total before + count choice) v ∧
      ∃ e, (g.edgeList.filter fun e =>
          e.source = u.id ∧ e.target = v.id ∧ e.kind = .sequence) = [e] ∧
        e.condition = fallCondition choice ∧
        (e.condition = none ↔ ∀ b ∈ guarded choice, anyRuns b.children) := by
  rw [read_eq_finish hroot] at hbuild ⊢
  obtain ⟨⟨role, hrecord⟩, ⟨role', hrecord'⟩, hlink⟩ :=
    (visits_walkAll source hflow hchain).falls_through hsplit hchoice hotherwise hbetween hnext
  obtain ⟨r, hr, hid, hown, u, hu, hchoiceNode, huid⟩ := exists_isNodeOf hdoc hbuild hrecord
  obtain ⟨r', hr', hid', -, v, hv, hnextNode, hvid⟩ := exists_isNodeOf hdoc hbuild hrecord'
  have hfound : r.links.find? (fun l => l.target = r'.id ∧ l.kind = .sequence)
      = some ⟨r'.id, .sequence, fallCondition choice⟩ := by
    rw [find?_links_finish hr, hid, hid']
    exact congrArg (Option.map Prod.snd) hlink
  obtain ⟨e, hedge, hcondition⟩ := exists_edge_of_find? hbuild
    (fun r hr => mergeKey_of_mem_finish hdoc hr) hr hr' hown hfound
  rw [← huid, ← hvid] at hedge
  refine ⟨u, hu, v, hv, hchoiceNode, hnextNode, e, hedge, hcondition, ?_⟩
  rw [hcondition]
  exact fallCondition_eq_none_iff

/-- A flow of processors. -/
def mainFlow (processors : List Element) : Element :=
  { name := "flow", attributes := [("name", "main")], children := processors.map .element }

/-- An application with one flow. -/
def singleFlow (processors : List Element) : Element :=
  { name := "mule", children := [.element (mainFlow processors)] }

/-- A choice of branches, each with a condition. -/
def choiceOf (branches : List (String × List Element)) : Element :=
  { name := "choice"
    children := branches.map fun b => .element
      { name := "when", attributes := [("expression", b.1)], children := b.2.map .element } }

/-- A choice whose second and third branch have nothing to run. -/
def unevenChoice : Element :=
  choiceOf [("a", [{ name := "logger" }]), (" b ", [{ name := "try" }]), ("c", [])]

/-- A loop over a choice, a scope with nothing to run and a step. -/
def unevenLoop : Element :=
  { name := "foreach"
    children :=
      [.element unevenChoice, .element { name := "try" }, .element { name := "set-payload" }] }

/-- An application that begins with a message source and has the choice in a loop. -/
def unevenApplication : Element := singleFlow [{ name := "http:listener" }, unevenLoop]

theorem unevenChoice_falls_through :
    ∃ g, FlowGraph.build (read ⟨"app", ""⟩ unevenApplication).1 = .ok g ∧
      ∃ u ∈ g.nodeList, ∃ v ∈ g.nodeList,
        IsNodeOf ⟨⟨"app", ""⟩, [], "main"⟩ (read ⟨"app", ""⟩ unevenApplication).1 unevenChoice 2 u ∧
        IsNodeOf ⟨⟨"app", ""⟩, [], "main"⟩ (read ⟨"app", ""⟩ unevenApplication).1
          { name := "set-payload" } 4 v ∧
        ∃ e, (g.edgeList.filter fun e =>
            e.source = u.id ∧ e.target = v.id ∧ e.kind = .sequence) = [e] ∧
          e.condition = some "b" := by
  have hroot : unevenApplication.localName = "mule" := by decide +kernel
  have hdoc : ∀ e ∈ unevenApplication.descendants, e.attr "doc:id" = none := by decide +kernel
  have hexists : ∃ g, FlowGraph.build (walkAll ⟨"app", ""⟩ unevenApplication).finish none = .ok g :=
    exists_build hdoc (by decide +kernel) none
  rw [← read_eq_finish hroot] at hexists
  obtain ⟨g, hbuild⟩ := hexists
  have hflow : flowNamed? (unevenApplication.elements.filter isFlow) "main"
      = some (mainFlow [{ name := "http:listener" }, unevenLoop]) := by rfl
  have hloop : HasChain (mainFlow [{ name := "http:listener" }, unevenLoop]) 2
      unevenLoop.children :=
    .inner .main (show _ = [{ name := "http:listener" }] ++ unevenLoop :: [] by rfl)
      (List.mem_singleton.mpr rfl)
  have hsplit : processorsIn unevenLoop.children
      = [] ++ unevenChoice :: ([{ name := "try" }] ++ { name := "set-payload" } :: []) := by rfl
  obtain ⟨u, hu, v, hv, hchoice, hnext, e, hedge, hcondition, -⟩ :=
    choice_falls_through ⟨"app", ""⟩ hroot hdoc hbuild hflow hloop hsplit (by decide +kernel)
      (by decide +kernel) (by decide +kernel) (by rfl)
  have hguard : fallCondition unevenChoice = some "b" := by decide +kernel
  exact ⟨g, hbuild, u, hu, v, hv, hchoice, hnext, e, hedge, hcondition.trans hguard⟩

/-- An application whose flow is a choice with one branch, which is empty, and a step. -/
def emptyBranch : Element := singleFlow [choiceOf [("#[vars.a]", [])], { name := "logger" }]

/-- The way past a choice without an `otherwise` may be guarded: no edge of this application is
without a condition. -/
theorem emptyBranch_is_guarded :
    hasOtherwise (choiceOf [("#[vars.a]", [])]) = false ∧
    ∃ g, FlowGraph.build (read ⟨"app.xml", ""⟩ emptyBranch).1 = .ok g ∧
      g.edgeList.map (fun e => (e.source, e.target, e.kind, e.condition))
        = [("main_0", "main_1", .sequence, some "#[vars.a]")] := by
  have hroot : emptyBranch.localName = "mule" := by decide +kernel
  have hexists : ∃ g, FlowGraph.build (walkAll ⟨"app.xml", ""⟩ emptyBranch).finish none = .ok g :=
    exists_build (by decide +kernel) (by decide +kernel) none
  rw [← read_eq_finish hroot] at hexists
  obtain ⟨g, hbuild⟩ := hexists
  have hedges : (FlowGraph.assemble (read ⟨"app.xml", ""⟩ emptyBranch).1).toOption.map
      (fun g => g.edgeList.map fun e => (e.source, e.target, e.kind, e.condition))
      = some [("main_0", "main_1", .sequence, some "#[vars.a]")] := by decide +kernel
  rw [assemble_of_build hbuild] at hedges
  exact ⟨by decide +kernel, g, hbuild, Option.some.inj hedges⟩

end Mule

end IntegrationFlow.Source
