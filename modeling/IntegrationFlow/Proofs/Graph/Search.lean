import Mathlib
import IntegrationFlow.Graph.Search

/-!
# What depth-first search finds

The edges that a search notes are enough and all needed: without them no cycle is left among the
vertices that were searched from, and each of them closes a cycle with edges that are kept. The two
facts have an invariant each, which one step of the search keeps. From the second it follows that
the path noted with an edge is a circle.
-/

namespace IntegrationFlow.Search

open Relation (ReflTransGen TransGen)

variable {α ε : Type}

/-- The edges out of the vertices are different from each other, and none leads elsewhere. -/
structure IsGraph (out : α → List ε) (target : ε → α) (vertices : List α) : Prop where
  nodup (v : α) : (out v).Nodup
  owner_eq {v w : α} {e : ε} : e ∈ out v → e ∈ out w → v = w
  target_mem {v : α} {e : ε} : e ∈ out v → target e ∈ vertices

/-- An edge other than those in `back` leads from `u` to `w`. -/
def Leads (out : α → List ε) (target : ε → α) (back : List ε) (u w : α) : Prop :=
  ∃ e ∈ out u, e ∉ back ∧ target e = w

lemma Leads.anti {out : α → List ε} {target : ε → α} {back back' : List ε} (h : back ⊆ back')
    {u w : α} (huw : Leads out target back' u w) : Leads out target back u w := by
  obtain ⟨e, he, hback, rfl⟩ := huw
  exact ⟨e, he, fun hmem => hback (h hmem), rfl⟩

/-- A cycle would be an endless path. -/
lemma not_transGen_of_acc {R : α → α → Prop} {v : α} (h : Acc (fun w u => R u w) v) :
    ¬ TransGen R v v := by
  induction h with
  | intro v _ ih =>
    intro hcycle
    obtain ⟨w, hvw, hwv⟩ := Relation.TransGen.head'_iff.mp hcycle
    exact ih w hvw (.tail' hwv hvw)

namespace State

/-- The edges noted so far. -/
def back (s : State α ε) : List ε := s.closings.map Closing.edge

/-- The vertices of the path, the last one first. -/
def onPath (s : State α ε) : List α := s.path.map Frame.vertex

variable [DecidableEq α]

/-! ### Steps -/

/-- What one step can do: leave the last vertex of the path, note its next edge, follow it, or pass
it over. -/
inductive Step (out : α → List ε) (target : ε → α) : State α ε → State α ε → Prop
  | leave {unseen v rest cs} : Step out target ⟨unseen, ⟨v, []⟩ :: rest, cs⟩ ⟨unseen, rest, cs⟩
  | note {unseen v pending rest cs c} (hc : target c.edge ∈ v :: rest.map Frame.vertex)
    (hpath : c.path = pathFrom (⟨v, pending⟩ :: rest) (target c.edge)) :
    Step out target ⟨unseen, ⟨v, c.edge :: pending⟩ :: rest, cs⟩
      ⟨unseen, ⟨v, pending⟩ :: rest, cs ++ [c]⟩
  | enter {unseen v e pending rest cs} (hpath : target e ∉ v :: rest.map Frame.vertex)
    (hunseen : target e ∈ unseen) :
    Step out target ⟨unseen, ⟨v, e :: pending⟩ :: rest, cs⟩
      ⟨unseen.filter (· ≠ target e), ⟨target e, out (target e)⟩ :: ⟨v, pending⟩ :: rest, cs⟩
  | pass {unseen v e pending rest cs} (hpath : target e ∉ v :: rest.map Frame.vertex)
    (hunseen : target e ∉ unseen) :
    Step out target ⟨unseen, ⟨v, e :: pending⟩ :: rest, cs⟩ ⟨unseen, ⟨v, pending⟩ :: rest, cs⟩

/-- The states that a search runs through: it begins with nothing met, takes steps, and begins anew
at a vertex that it has not met. -/
inductive Reachable (out : α → List ε) (target : ε → α) (vertices : List α) : State α ε → Prop
  | init : Reachable out target vertices ⟨vertices, [], []⟩
  | step {s t} : Reachable out target vertices s → Step out target s t →
    Reachable out target vertices t
  | root {unseen cs} {v : α} : Reachable out target vertices ⟨unseen, [], cs⟩ → v ∈ unseen →
    Reachable out target vertices ⟨unseen.filter (· ≠ v), [⟨v, out v⟩], cs⟩

variable {out : α → List ε} {target : ε → α} {vertices : List α} {s t : State α ε}

lemma step_of_step? (h : s.step? out target = some t) : Step out target s t := by
  obtain ⟨unseen, path, cs⟩ := s
  cases path with
  | nil => simp [step?] at h
  | cons f rest =>
    obtain ⟨v, pending⟩ := f
    cases pending with
    | nil =>
      obtain rfl := Option.some.inj h
      exact .leave
    | cons e pending =>
      have hpath : ((⟨v, pending⟩ :: rest : List (Frame α ε)).any fun f => f.vertex = target e) ↔
          target e ∈ v :: rest.map Frame.vertex := by
        simp only [List.any_eq_true, decide_eq_true_eq, List.mem_cons, List.mem_map]
        constructor
        · rintro ⟨f, rfl | hf, hv⟩
          · exact Or.inl hv.symm
          · exact Or.inr ⟨f, hf, hv⟩
        · rintro (hv | ⟨f, hf, hv⟩)
          · exact ⟨_, Or.inl rfl, hv.symm⟩
          · exact ⟨f, Or.inr hf, hv⟩
      simp only [step?] at h
      split at h
      · rename_i hmem
        obtain rfl := Option.some.inj h
        exact .note (c := ⟨e, _⟩) (hpath.mp hmem) rfl
      · rename_i hmem
        split at h
        · rename_i hunseen
          obtain rfl := Option.some.inj h
          exact .enter (fun hp => hmem (hpath.mpr hp)) hunseen
        · rename_i hunseen
          obtain rfl := Option.some.inj h
          exact .pass (fun hp => hmem (hpath.mpr hp)) hunseen

lemma path_of_step?_eq_none (h : s.step? out target = none) : s.path = [] := by
  obtain ⟨unseen, path, cs⟩ := s
  cases path with
  | nil => rfl
  | cons f rest =>
    obtain ⟨v, pending⟩ := f
    cases pending with
    | nil => simp [step?] at h
    | cons e pending =>
      simp only [step?] at h
      split at h
      · exact absurd h (by simp)
      · split at h <;> exact absurd h (by simp)

lemma Step.unseen_subset (h : Step out target s t) : t.unseen ⊆ s.unseen := by
  cases h with
  | leave => exact List.Subset.refl _
  | note _ _ => exact List.Subset.refl _
  | enter _ _ => exact List.filter_subset_self ..
  | pass _ _ => exact List.Subset.refl _

/-- A run ends with an empty path. -/
lemma reachable_run (h : Reachable out target vertices s) :
    Reachable out target vertices (run out target s) ∧ (run out target s).path = [] ∧
      (run out target s).unseen ⊆ s.unseen := by
  fun_induction run out target s with
  | case1 s hstep => exact ⟨h, path_of_step?_eq_none hstep, List.Subset.refl _⟩
  | case2 s t hstep ih =>
    obtain ⟨hreach, hpath, hsub⟩ := ih (h.step (step_of_step? hstep))
    exact ⟨hreach, hpath, List.Subset.trans hsub (step_of_step? hstep).unseen_subset⟩

lemma reachable_explore (h : Reachable out target vertices s) (hpath : s.path = []) (v : α) :
    Reachable out target vertices (s.explore out target v) ∧ (s.explore out target v).path = [] ∧
      (s.explore out target v).unseen ⊆ s.unseen ∧ v ∉ (s.explore out target v).unseen := by
  obtain ⟨unseen, path, cs⟩ := s
  obtain rfl : path = [] := hpath
  unfold explore
  split
  · rename_i hv
    obtain ⟨hreach, hend, hsub⟩ := reachable_run (h.root hv)
    refine ⟨hreach, hend, List.Subset.trans hsub (List.filter_subset_self ..), fun hmem => ?_⟩
    simpa using (List.mem_filter.mp (hsub hmem)).2
  · rename_i hv
    exact ⟨h, rfl, List.Subset.refl _, hv⟩

lemma reachable_foldl_explore (h : Reachable out target vertices s) (hpath : s.path = [])
    (roots : List α) :
    Reachable out target vertices (roots.foldl (explore out target) s) ∧
      (roots.foldl (explore out target) s).path = [] ∧
      (roots.foldl (explore out target) s).unseen ⊆ s.unseen ∧
      ∀ v ∈ roots, v ∉ (roots.foldl (explore out target) s).unseen := by
  induction roots generalizing s with
  | nil => exact ⟨h, hpath, List.Subset.refl _, by simp⟩
  | cons v roots ih =>
    obtain ⟨hreach, hend, hsub, hv⟩ := reachable_explore h hpath v
    obtain ⟨hreach', hend', hsub', hroots⟩ := ih hreach hend
    rw [List.foldl_cons]
    refine ⟨hreach', hend', List.Subset.trans hsub' hsub, fun w hw => ?_⟩
    rcases List.mem_cons.mp hw with rfl | hw
    · exact fun hmem => hv (hsub' hmem)
    · exact hroots w hw

/-! ### No cycle is left -/

section Clears

omit [DecidableEq α]

/-- An edge out of a vertex on the path that is not pending is noted, or it leads to a vertex that
was met and does not come before it on the path. -/
def Settles (out : α → List ε) (target : ε → α) (unseen : List α) (back : List ε) (f : Frame α ε)
    (rest : List (Frame α ε)) : Prop :=
  ∀ e ∈ out f.vertex, e ∈ f.pending ∨ e ∈ back ∨
    target e ∉ unseen ∧ target e ∉ f.vertex :: rest.map Frame.vertex

lemma Settles.mono {unseen unseen' : List α} {back back' : List ε} (hunseen : unseen' ⊆ unseen)
    (hback : back ⊆ back') {f : Frame α ε} {rest : List (Frame α ε)}
    (h : Settles out target unseen back f rest) : Settles out target unseen' back' f rest := by
  intro e he
  rcases h e he with hmem | hmem | ⟨hnew, hpath⟩
  · exact Or.inl hmem
  · exact Or.inr (Or.inl (hback hmem))
  · exact Or.inr (Or.inr ⟨fun hmem => hnew (hunseen hmem), hpath⟩)

/-- The next edge need not be pending when it is noted or leads off the path. -/
lemma Settles.tail {unseen : List α} {back : List ε} {v : α} {e : ε} {pending : List ε}
    {rest : List (Frame α ε)} (h : Settles out target unseen back ⟨v, e :: pending⟩ rest)
    (he : e ∈ back ∨ target e ∉ unseen ∧ target e ∉ v :: rest.map Frame.vertex) :
    Settles out target unseen back ⟨v, pending⟩ rest := by
  intro x hx
  rcases h x hx with hmem | hfar
  · rcases List.mem_cons.mp hmem with rfl | hmem
    · exact Or.inr he
    · exact Or.inl hmem
  · exact Or.inr hfar

/-- No endless path begins at a vertex that was left, and the edges out of the path are settled. -/
structure Clears (out : α → List ε) (target : ε → α) (vertices : List α) (s : State α ε) :
    Prop where
  left {v : α} : v ∈ vertices → v ∉ s.unseen → v ∉ s.onPath →
    Acc (fun w u => Leads out target s.back u w) v
  settles {f : Frame α ε} {rest : List (Frame α ε)} : f :: rest <:+ s.path →
    Settles out target s.unseen s.back f rest

end Clears

/-- One step leaves no cycle behind. -/
lemma Clears.step (hg : IsGraph out target vertices) (hs : Clears out target vertices s)
    (h : Step out target s t) : Clears out target vertices t := by
  cases h with
  | @leave unseen v rest cs =>
    constructor
    · intro w hw hunseen hpath
      by_cases heq : w = v
      · subst heq
        refine Acc.intro w ?_
        rintro x ⟨e, he, hback, rfl⟩
        -- nothing is pending, so a kept edge leads to a vertex that was left before
        rcases hs.settles (List.suffix_refl _) e he with hmem | hmem | ⟨hnew, hoff⟩
        · exact absurd hmem List.not_mem_nil
        · exact absurd hmem hback
        · exact hs.left (hg.target_mem he) hnew hoff
      · exact hs.left hw hunseen fun hmem => (List.mem_cons.mp hmem).elim heq hpath
    · intro f tail hsuffix
      exact hs.settles (hsuffix.trans (List.suffix_cons ..))
  | @note unseen v pending rest cs c hc _ =>
    have hback : (State.mk unseen (⟨v, c.edge :: pending⟩ :: rest) cs).back
        ⊆ (State.mk unseen (⟨v, pending⟩ :: rest) (cs ++ [c])).back := by
      simp [back]
    constructor
    · intro w hw hunseen hpath
      exact Subrelation.accessible (fun huw => huw.anti hback) (hs.left hw hunseen hpath)
    · intro f tail hsuffix
      rcases List.suffix_cons_iff.mp hsuffix with heq | hsuffix
      · obtain ⟨rfl, rfl⟩ := List.cons.inj heq
        refine ((hs.settles (List.suffix_refl _)).mono (List.Subset.refl _) hback).tail (Or.inl ?_)
        simp [back]
      · exact (hs.settles (hsuffix.trans (List.suffix_cons ..))).mono (List.Subset.refl _) hback
  | @enter unseen v e pending rest cs hoff hnew =>
    have hsub : unseen.filter (· ≠ target e) ⊆ unseen := List.filter_subset_self ..
    constructor
    · intro w hw hunseen hpath
      obtain ⟨hne, hpath⟩ : w ≠ target e ∧ w ∉ v :: rest.map Frame.vertex :=
        List.ne_and_not_mem_of_not_mem_cons hpath
      exact hs.left hw (fun hmem => hunseen (List.mem_filter.mpr ⟨hmem, by simpa using hne⟩)) hpath
    · intro f tail hsuffix
      rcases List.suffix_cons_iff.mp hsuffix with heq | hsuffix
      · obtain ⟨rfl, rfl⟩ := List.cons.inj heq
        exact fun x hx => Or.inl hx
      rcases List.suffix_cons_iff.mp hsuffix with heq | hsuffix
      · obtain ⟨rfl, rfl⟩ := List.cons.inj heq
        refine ((hs.settles (List.suffix_refl _)).mono hsub (List.Subset.refl _)).tail ?_
        exact Or.inr ⟨by simp, hoff⟩
      · exact (hs.settles (hsuffix.trans (List.suffix_cons ..))).mono hsub (List.Subset.refl _)
  | @pass unseen v e pending rest cs hoff hseen =>
    constructor
    · exact hs.left
    · intro f tail hsuffix
      rcases List.suffix_cons_iff.mp hsuffix with heq | hsuffix
      · obtain ⟨rfl, rfl⟩ := List.cons.inj heq
        exact (hs.settles (List.suffix_refl _)).tail (Or.inr ⟨hseen, hoff⟩)
      · exact hs.settles (hsuffix.trans (List.suffix_cons ..))

lemma Reachable.clears (hg : IsGraph out target vertices) (h : Reachable out target vertices s) :
    Clears out target vertices s := by
  induction h with
  | init =>
    constructor
    · intro v hv hunseen
      exact absurd hv hunseen
    · intro f rest hsuffix
      exact absurd (List.suffix_nil.mp hsuffix) (by simp)
  | step _ hstep ih => exact ih.step hg hstep
  | @root unseen cs v _ hv ih =>
    constructor
    · intro w hw hunseen hpath
      have hne : w ≠ v := by simpa [onPath] using hpath
      exact ih.left hw (fun hmem => hunseen (List.mem_filter.mpr ⟨hmem, by simpa using hne⟩))
        List.not_mem_nil
    · intro f rest hsuffix
      rcases List.suffix_cons_iff.mp hsuffix with heq | hsuffix
      · obtain ⟨rfl, rfl⟩ := List.cons.inj heq
        exact fun x hx => Or.inl hx
      · exact absurd (List.suffix_nil.mp hsuffix) (by simp)

/-! ### Every noted edge closes a cycle -/

section Closes

omit [DecidableEq α]

/-- An edge from `u` to `w` was followed and not noted. -/
def Follows (out : α → List ε) (target : ε → α) (s : State α ε) (u w : α) : Prop :=
  u ∉ s.unseen ∧ ∃ e ∈ out u, e ∉ s.back ∧ target e = w ∧
    ∀ f ∈ s.path, f.vertex = u → e ∉ f.pending

/-- The path is made of edges that were followed, and so is the way from the target of each noted
edge to its source. What is pending is not noted. -/
structure Closes (out : α → List ε) (target : ε → α) (s : State α ε) : Prop where
  nodup : s.onPath.Nodup
  seen : ∀ f ∈ s.path, f.vertex ∉ s.unseen
  pending : ∀ f ∈ s.path, f.pending <:+ out f.vertex
  fresh : ∀ f ∈ s.path, ∀ e ∈ f.pending, e ∉ s.back
  linked : s.onPath.IsChain fun w u => s.Follows out target u w
  noted : ∀ e ∈ s.back, ∃ v, e ∈ out v ∧ v ∉ s.unseen ∧
    ReflTransGen (s.Follows out target) (target e) v

/-- What holds of all frames still holds when the last one has an edge less. -/
lemma forall_frame_tail {P : Frame α ε → Prop} {v : α} {e : ε} {pending : List ε}
    {rest : List (Frame α ε)} (hP : P ⟨v, e :: pending⟩ → P ⟨v, pending⟩)
    (h : ∀ f ∈ (⟨v, e :: pending⟩ :: rest : List (Frame α ε)), P f) :
    ∀ f ∈ (⟨v, pending⟩ :: rest : List (Frame α ε)), P f := by
  rw [List.forall_mem_cons] at h ⊢
  exact ⟨hP h.1, h.2⟩

/-- Every vertex of the path leads to its last one. -/
lemma reflTransGen_of_isChain {R : α → α → Prop} {v : α} {vs : List α}
    (h : (v :: vs).IsChain fun w u => R u w) {x : α} (hx : x ∈ v :: vs) : ReflTransGen R x v := by
  induction vs generalizing v with
  | nil =>
    obtain rfl := List.mem_singleton.mp hx
    exact .refl
  | cons u vs ih =>
    obtain ⟨hlink, htail⟩ := List.isChain_cons_cons.mp h
    rcases List.mem_cons.mp hx with rfl | hx
    · exact .refl
    · exact (ih htail hx).tail hlink

section Top

variable {unseen : List α} {v : α} {e : ε} {pending : List ε} {rest : List (Frame α ε)}
  {cs : List (Closing α ε)}

lemma Closes.mem_out (hs : Closes out target ⟨unseen, ⟨v, e :: pending⟩ :: rest, cs⟩) :
    e ∈ out v :=
  (hs.pending _ (List.mem_cons_self ..)).mem (List.mem_cons_self ..)

/-- The next edge of the last vertex is pending nowhere else. -/
lemma Closes.notMem_pending (hg : IsGraph out target vertices)
    (hs : Closes out target ⟨unseen, ⟨v, e :: pending⟩ :: rest, cs⟩) :
    ∀ f ∈ (⟨v, pending⟩ :: rest : List (Frame α ε)), e ∉ f.pending := by
  rw [List.forall_mem_cons]
  constructor
  · have hnodup := (hs.pending _ (List.mem_cons_self ..)).sublist.nodup (hg.nodup v)
    exact (List.nodup_cons.mp hnodup).1
  · intro f hf he
    have hmem := (hs.pending f (List.mem_cons_of_mem _ hf)).mem he
    have hv : f.vertex = v := hg.owner_eq hmem hs.mem_out
    exact (List.nodup_cons.mp hs.nodup).1 (List.mem_map.mpr ⟨f, hf, hv⟩)

/-- The frames keep what is said of them when the next edge is no longer pending. -/
lemma Closes.tail (hs : Closes out target ⟨unseen, ⟨v, e :: pending⟩ :: rest, cs⟩) :
    ∀ f ∈ (⟨v, pending⟩ :: rest : List (Frame α ε)), f.vertex ∉ unseen ∧
      f.pending <:+ out f.vertex ∧ ∀ x ∈ f.pending, x ∉ cs.map Closing.edge := by
  refine forall_frame_tail ?_ fun f hf => ⟨hs.seen f hf, hs.pending f hf, hs.fresh f hf⟩
  rintro ⟨hseen, hsuffix, hfresh⟩
  exact ⟨hseen, (List.suffix_cons ..).trans hsuffix,
    fun x hx => hfresh x (List.mem_cons_of_mem _ hx)⟩

end Top

end Closes

/-- What was followed counts as followed after a step. -/
lemma Follows.step (hg : IsGraph out target vertices) (hs : Closes out target s)
    (h : Step out target s t) {u w : α} (huw : s.Follows out target u w) :
    t.Follows out target u w := by
  obtain ⟨hu, e, he, hback, rfl, hpending⟩ := huw
  cases h with
  | leave => exact ⟨hu, e, he, hback, rfl, fun f hf => hpending f (List.mem_cons_of_mem _ hf)⟩
  | @note unseen v pending rest cs c hc _ =>
    have hne : e ≠ c.edge := by
      rintro rfl
      obtain rfl := hg.owner_eq he hs.mem_out
      exact hpending _ (List.mem_cons_self ..) rfl (List.mem_cons_self ..)
    refine ⟨hu, e, he, ?_, rfl, forall_frame_tail ?_ hpending⟩
    · simpa [back, hne] using hback
    · exact fun hnot hv hmem => hnot hv (List.mem_cons_of_mem _ hmem)
  | @enter unseen v x pending rest cs hoff hnew =>
    refine ⟨fun hmem => hu (List.mem_filter.mp hmem).1, e, he, hback, rfl, ?_⟩
    refine List.forall_mem_cons.mpr ⟨?_, forall_frame_tail ?_ hpending⟩
    · rintro rfl
      exact absurd hnew hu
    · exact fun hnot hv hmem => hnot hv (List.mem_cons_of_mem _ hmem)
  | pass _ _ =>
    refine ⟨hu, e, he, hback, rfl, forall_frame_tail ?_ hpending⟩
    exact fun hnot hv hmem => hnot hv (List.mem_cons_of_mem _ hmem)

/-- One step keeps the path and the noted edges linked. -/
lemma Closes.step (hg : IsGraph out target vertices) (hs : Closes out target s)
    (h : Step out target s t) : Closes out target t := by
  have hfollows {u w : α} := Follows.step hg hs h (u := u) (w := w)
  have hnoted : ∀ e ∈ s.back, ∃ v, e ∈ out v ∧ v ∉ t.unseen ∧
      ReflTransGen (t.Follows out target) (target e) v := by
    intro e he
    obtain ⟨v, hv, hunseen, hpath⟩ := hs.noted e he
    exact ⟨v, hv, fun hmem => hunseen (h.unseen_subset hmem), ReflTransGen.mono (fun _ _ => hfollows) _ _ hpath⟩
  have hlinked : s.onPath.IsChain fun w u => t.Follows out target u w :=
    hs.linked.imp fun _ _ => hfollows
  cases h with
  | leave =>
    exact
      { nodup := hs.nodup.tail
        seen := fun f hf => hs.seen f (List.mem_cons_of_mem _ hf)
        pending := fun f hf => hs.pending f (List.mem_cons_of_mem _ hf)
        fresh := fun f hf => hs.fresh f (List.mem_cons_of_mem _ hf)
        linked := hlinked.tail
        noted := hnoted }
  | @note unseen v pending rest cs c hc _ =>
    have hframes := hs.tail
    refine ⟨hs.nodup, fun f hf => (hframes f hf).1, fun f hf => (hframes f hf).2.1, ?_, hlinked, ?_⟩
    · intro f hf x hx
      have hne : x ≠ c.edge := by
        rintro rfl
        exact hs.notMem_pending hg f hf hx
      simpa [back, hne] using (hframes f hf).2.2 x hx
    · intro x hx
      have hcases : x ∈ cs.map Closing.edge ∨ x = c.edge := by simpa [back] using hx
      rcases hcases with hx | rfl
      · exact hnoted x hx
      · exact ⟨v, hs.mem_out, hs.seen _ (List.mem_cons_self ..), reflTransGen_of_isChain hlinked hc⟩
  | @enter unseen v e pending rest cs hoff hnew =>
    have hframes := hs.tail
    refine ⟨List.nodup_cons.mpr ⟨hoff, hs.nodup⟩, ?_, ?_, ?_, ?_, hnoted⟩
    · refine List.forall_mem_cons.mpr ⟨by simp, fun f hf hmem => ?_⟩
      exact (hframes f hf).1 (List.mem_filter.mp hmem).1
    · exact List.forall_mem_cons.mpr ⟨List.suffix_refl _, fun f hf => (hframes f hf).2.1⟩
    · refine List.forall_mem_cons.mpr ⟨fun x hx hback => ?_, fun f hf => (hframes f hf).2.2⟩
      -- the source of a noted edge has been met, but the target of `e` has not
      obtain ⟨u, hu, hunseen, -⟩ := hs.noted x hback
      exact hunseen (hg.owner_eq hx hu ▸ hnew)
    · refine List.isChain_cons_cons.mpr ⟨?_, hlinked⟩
      refine ⟨fun hmem => ?_, e, hs.mem_out, ?_, rfl, ?_⟩
      · exact hs.seen _ (List.mem_cons_self ..) (List.mem_filter.mp hmem).1
      · exact hs.fresh _ (List.mem_cons_self ..) e (List.mem_cons_self ..)
      · refine List.forall_mem_cons.mpr ⟨fun hv => ?_, fun f hf _ => hs.notMem_pending hg f hf⟩
        exact absurd (List.mem_cons.mpr (Or.inl hv)) hoff
  | pass _ _ =>
    have hframes := hs.tail
    exact
      { nodup := hs.nodup
        seen := fun f hf => (hframes f hf).1
        pending := fun f hf => (hframes f hf).2.1
        fresh := fun f hf => (hframes f hf).2.2
        linked := hlinked
        noted := hnoted }

lemma Reachable.closes (hg : IsGraph out target vertices) (h : Reachable out target vertices s) :
    Closes out target s := by
  induction h with
  | init => constructor <;> simp [onPath, back]
  | step _ hstep ih => exact ih.step hg hstep
  | @root unseen cs v _ hv ih =>
    have hfresh : ∀ e ∈ out v, e ∉ cs.map Closing.edge := by
      intro e he hback
      obtain ⟨u, hu, hunseen, -⟩ := ih.noted e hback
      exact hunseen (hg.owner_eq he hu ▸ hv)
    constructor
    · simp [onPath]
    · simp
    · simp
    · simpa [back] using hfresh
    · simp [onPath]
    · intro e he
      obtain ⟨u, hu, hunseen, hpath⟩ := ih.noted e he
      refine ⟨u, hu, fun hmem => hunseen (List.mem_filter.mp hmem).1, ?_⟩
      refine ReflTransGen.mono ?_ _ _ hpath
      rintro x w ⟨hx, e, he, hback, rfl, -⟩
      refine ⟨fun hmem => hx (List.mem_filter.mp hmem).1, e, he, hback, rfl, ?_⟩
      refine List.forall_mem_singleton.mpr fun hv' => ?_
      exact absurd (hv' ▸ hv) hx

end State

/-! ### Every noted path is a circle -/

section Circles

/-- The path noted with an edge begins where the edge leads and meets no vertex twice. Edges lead
from each of its vertices to the next, and from the last to the first. -/
structure Closing.IsCircle (out : α → List ε) (target : ε → α) (c : Closing α ε) : Prop where
  head_eq : c.path.head? = some (target c.edge)
  nodup : c.path.Nodup
  linked : (c.path ++ [target c.edge]).IsChain fun u w => ∃ e ∈ out u, target e = w

variable [DecidableEq α] {out : α → List ε} {target : ε → α} {vertices : List α} {s : State α ε}

/-- The path is noted in the order in which it was walked. -/
lemma State.pathFrom_eq {path : List (Frame α ε)} {v : α} {front back : List α}
    (h : path.map Frame.vertex = front ++ v :: back) (hv : v ∉ front) :
    State.pathFrom path v = (front ++ [v]).reverse := by
  have htake : (path.takeWhile fun f => f.vertex ≠ v).map Frame.vertex = front := by
    have hfront : ∀ u ∈ front, decide (u ≠ v) = true := by
      intro u hu
      exact decide_eq_true fun heq => hv (heq ▸ hu)
    have hmap := List.takeWhile_map (f := Frame.vertex) (p := fun u => decide (u ≠ v)) (l := path)
    rw [h, List.takeWhile_append_of_pos hfront, List.takeWhile_cons_of_neg (by simp),
      List.append_nil] at hmap
    exact hmap.symm
  rw [State.pathFrom, htake, List.reverse_append, List.reverse_singleton, List.singleton_append]

/-- A path that the search is on, with an edge back to it, is a circle. -/
lemma State.Closes.isCircle {unseen : List α} {v : α} {pending : List ε}
    {rest : List (Frame α ε)} {cs : List (Closing α ε)} {c : Closing α ε}
    (hs : State.Closes out target ⟨unseen, ⟨v, c.edge :: pending⟩ :: rest, cs⟩)
    (hc : target c.edge ∈ v :: rest.map Frame.vertex)
    (hpath : c.path = State.pathFrom (⟨v, pending⟩ :: rest) (target c.edge)) :
    c.IsCircle out target := by
  obtain ⟨front, back, hsplit, hnew⟩ := List.eq_append_cons_of_mem hc
  replace hpath : c.path = (front ++ [target c.edge]).reverse :=
    hpath.trans (State.pathFrom_eq hsplit hnew)
  -- the vertices from the target on are the first ones of the path, whose last one comes first
  have hfront : front ++ [target c.edge] <+: v :: rest.map Frame.vertex := by
    rw [hsplit]
    exact ⟨back, by simp⟩
  have hlast : (front ++ [target c.edge]).head? = some v := by
    obtain ⟨tail, htail⟩ := hfront
    cases front with
    | nil => exact congrArg some (List.cons.inj htail).1
    | cons u front => exact congrArg some (List.cons.inj htail).1
  constructor
  · simp [hpath]
  · rw [hpath, List.nodup_reverse]
    exact hfront.sublist.nodup hs.nodup
  · have hlinked := List.IsChain.prefix hs.linked hfront
    rw [hpath, List.isChain_append, List.isChain_reverse, List.getLast?_reverse, hlast]
    refine ⟨hlinked.imp ?_, List.isChain_singleton _, ?_⟩
    · rintro w u ⟨-, e, he, -, rfl, -⟩
      exact ⟨e, he, rfl⟩
    · rintro _ ⟨⟩ _ ⟨⟩
      exact ⟨c.edge, hs.mem_out, rfl⟩

lemma State.Reachable.isCircle (hg : IsGraph out target vertices)
    (h : State.Reachable out target vertices s) : ∀ c ∈ s.closings, c.IsCircle out target := by
  induction h with
  | init => simp
  | step hreach hstep ih =>
    have hcloses := hreach.closes hg
    cases hstep with
    | leave => exact ih
    | note hc hpath =>
      intro c hmem
      rcases List.mem_append.mp hmem with hmem | hmem
      · exact ih c hmem
      · obtain rfl := List.mem_singleton.mp hmem
        exact hcloses.isCircle hc hpath
    | enter _ _ => exact ih
    | pass _ _ => exact ih
  | root _ _ ih => exact ih

end Circles

/-! ### The edges of a search -/

section Closings

variable [DecidableEq α] {out : α → List ε} {target : ε → α} {vertices : List α}

/-- No endless path of edges that are kept begins at a vertex that was searched from. -/
theorem acc_of_mem_roots (hg : IsGraph out target vertices) {roots : List α} {v : α}
    (hroot : v ∈ roots) (hv : v ∈ vertices) :
    Acc (fun w u =>
      Leads out target ((closings out target vertices roots).map Closing.edge) u w) v := by
  obtain ⟨hreach, hpath, -, hroots⟩ :=
    State.reachable_foldl_explore (.init : State.Reachable out target vertices _) rfl roots
  refine (hreach.clears hg).left hv (hroots v hroot) ?_
  simp [State.onPath, hpath]

/-- A noted edge closes a cycle: edges that are kept lead from its target to its source. -/
theorem exists_path_of_mem_closings (hg : IsGraph out target vertices) {roots : List α} {e : ε}
    (he : e ∈ (closings out target vertices roots).map Closing.edge) :
    ∃ v, e ∈ out v ∧ ReflTransGen
      (Leads out target ((closings out target vertices roots).map Closing.edge)) (target e) v := by
  obtain ⟨hreach, -, -, -⟩ :=
    State.reachable_foldl_explore (.init : State.Reachable out target vertices _) rfl roots
  obtain ⟨v, hv, -, hpath⟩ := (hreach.closes hg).noted e he
  refine ⟨v, hv, ReflTransGen.mono ?_ _ _ hpath⟩
  rintro u w ⟨-, x, hx, hback, rfl, -⟩
  exact ⟨x, hx, hback, rfl⟩

/-- What is noted with an edge is a circle. -/
theorem isCircle_of_mem_closings (hg : IsGraph out target vertices) {roots : List α}
    {c : Closing α ε} (hc : c ∈ closings out target vertices roots) : c.IsCircle out target := by
  obtain ⟨hreach, -, -, -⟩ :=
    State.reachable_foldl_explore (.init : State.Reachable out target vertices _) rfl roots
  exact hreach.isCircle hg c hc

end Closings

end IntegrationFlow.Search
