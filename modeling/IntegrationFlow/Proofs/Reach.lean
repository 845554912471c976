import Mathlib
import IntegrationFlow.Proofs.List
import IntegrationFlow.Graph.Reach

/-!
# Breadth-first search is reachability

The search finds exactly the vertices that some path leads to, provided that no step leaves the
vertices it was given. It finds them in breadth-first order: the starts, and then whatever the
vertices lead to, in the order of the vertices themselves. No other order is of this kind.
-/

namespace IntegrationFlow.Search

/-- A step of the search: `w` is one of the vertices that `v` leads to. -/
def LeadsTo (next : String → List String) (v w : String) : Prop := w ∈ next v

namespace Frontier

/-! ### Discovery -/

lemma mem_unseen_discover {f : Frontier} {v w : String} :
    w ∈ (f.discover v).unseen ↔ w ∈ f.unseen ∧ w ≠ v := by
  unfold discover
  split
  · simp
  · rename_i hv
    constructor
    · intro hw
      refine ⟨hw, ?_⟩
      rintro rfl
      exact hv hw
    · exact And.left

lemma mem_queue_discover {f : Frontier} {v w : String} :
    w ∈ (f.discover v).queue ↔ w ∈ f.queue ∨ w = v ∧ w ∈ f.unseen := by
  unfold discover
  split
  · rename_i hv
    simp only [List.mem_append, List.mem_singleton]
    constructor
    · rintro (hw | rfl)
      · exact Or.inl hw
      · exact Or.inr ⟨rfl, hv⟩
    · rintro (hw | ⟨rfl, -⟩)
      · exact Or.inl hw
      · exact Or.inr rfl
  · rename_i hv
    constructor
    · exact Or.inl
    · rintro (hw | ⟨rfl, hw⟩)
      · exact hw
      · exact absurd hw hv

/-- A vertex stays unseen while it is not discovered. -/
lemma mem_unseen_foldl_discover {f : Frontier} {vs : List String} {w : String} :
    w ∈ (vs.foldl discover f).unseen ↔ w ∈ f.unseen ∧ w ∉ vs := by
  induction vs generalizing f with
  | nil => simp
  | cons v vs ih =>
    rw [List.foldl_cons, ih, mem_unseen_discover, List.mem_cons, not_or, and_assoc]

/-- A vertex that is discovered waits for its turn. -/
lemma mem_queue_foldl_discover {f : Frontier} {vs : List String} {w : String} :
    w ∈ (vs.foldl discover f).queue ↔ w ∈ f.queue ∨ w ∈ vs ∧ w ∈ f.unseen := by
  induction vs generalizing f with
  | nil => simp
  | cons v vs ih =>
    rw [List.foldl_cons, ih, mem_queue_discover, mem_unseen_discover, List.mem_cons]
    by_cases hv : w = v <;> simp [hv]

/-! ### The walk -/

variable (next : String → List String)

/-- Whatever waits has its turn. -/
lemma mem_walk_of_mem_queue (f : Frontier) {v : String} (hv : v ∈ f.queue) :
    v ∈ f.walk next := by
  fun_induction walk next f with
  | case1 => simp at hv
  | case2 unseen u queue ih =>
    rcases List.mem_cons.mp hv with rfl | hv
    · exact List.mem_cons_self ..
    · exact List.mem_cons_of_mem _ (ih (mem_queue_foldl_discover.mpr (Or.inl hv)))

/-- Whatever an unseen vertex is reached from brings it in. -/
lemma mem_walk_of_leadsTo (f : Frontier) {v w : String} (hv : v ∈ f.walk next)
    (hvw : LeadsTo next v w) (hw : w ∈ f.unseen) : w ∈ f.walk next := by
  fun_induction walk next f with
  | case1 => simp at hv
  | case2 unseen u queue ih =>
    refine List.mem_cons_of_mem _ ?_
    by_cases hu : w ∈ next u
    · -- the first vertex discovers it
      exact mem_walk_of_mem_queue next _ (mem_queue_foldl_discover.mpr (Or.inr ⟨hu, hw⟩))
    · have hne : v ≠ u := by
        rintro rfl
        exact hu hvw
      exact ih ((List.mem_cons.mp hv).resolve_left hne)
        (mem_unseen_foldl_discover.mpr ⟨hw, hu⟩)

/-- Whatever has its turn is reached from what waited. -/
lemma exists_path_of_mem_walk (f : Frontier) {w : String} (hw : w ∈ f.walk next) :
    ∃ v ∈ f.queue, Relation.ReflTransGen (LeadsTo next) v w := by
  fun_induction walk next f with
  | case1 => simp at hw
  | case2 unseen u queue ih =>
    rcases List.mem_cons.mp hw with rfl | hw
    · exact ⟨w, List.mem_cons_self .., .refl⟩
    · obtain ⟨v, hv, hpath⟩ := ih hw
      rcases mem_queue_foldl_discover.mp hv with hv | ⟨hv, -⟩
      · exact ⟨v, List.mem_cons_of_mem _ hv, hpath⟩
      · exact ⟨u, List.mem_cons_self .., .head hv hpath⟩

/-! ### The order of the walk -/

lemma queue_foldl_discover (f : Frontier) (vs : List String) :
    (vs.foldl discover f).queue = f.queue ++ (vs.filter (· ∈ f.unseen)).eraseDups := by
  induction vs using List.reverseRecOn with
  | nil => simp
  | append_singleton vs v ih =>
    rw [List.foldl_concat, discover]
    simp only [mem_unseen_foldl_discover, List.filter_append]
    by_cases hv : v ∈ f.unseen
    · by_cases hmem : v ∈ vs
      · simp [hv, hmem, ih, eraseDups_concat]
      · simp [hv, hmem, ih, eraseDups_concat]
    · simp [hv, ih]

/-- After what waits come the vertices that the walk leads to, as far as they were unseen, each in
the place where it is met first. -/
lemma walk_eq (f : Frontier) :
    f.walk next
      = f.queue ++ (((f.walk next).flatMap next).filter (· ∈ f.unseen)).eraseDups := by
  fun_induction walk next f with
  | case1 => rfl
  | case2 unseen v queue ih =>
    have hrest : (((((next v).foldl discover ⟨unseen, queue⟩).walk next).flatMap next).filter
          (· ∈ unseen)).removeAll ((next v).filter (· ∈ unseen))
        = ((((next v).foldl discover ⟨unseen, queue⟩).walk next).flatMap next).filter
          (· ∈ ((next v).foldl discover ⟨unseen, queue⟩).unseen) := by
      rw [List.removeAll, List.filter_filter]
      refine List.filter_congr fun w _ => ?_
      by_cases hw : w ∈ unseen
      · simp [mem_unseen_foldl_discover, hw]
      · simp [mem_unseen_foldl_discover, hw]
    rw [List.flatMap_cons, List.filter_append, List.eraseDups_append, hrest, List.cons_append,
      ← List.append_assoc]
    conv_lhs => rw [ih, queue_foldl_discover]

end Frontier

/-! ### The search -/

/-- The search finds the vertices that the starts lead to, and no others. -/
theorem mem_reach_iff {next : String → List String} {vertices starts : List String}
    (hnext : ∀ v, ∀ w ∈ next v, w ∈ vertices) (hstarts : starts ⊆ vertices) {w : String} :
    w ∈ reach next vertices starts ↔
      ∃ v ∈ starts, Relation.ReflTransGen (LeadsTo next) v w := by
  have hqueue : ∀ {v}, v ∈ (starts.foldl Frontier.discover ⟨vertices, []⟩).queue ↔ v ∈ starts := by
    intro v
    rw [Frontier.mem_queue_foldl_discover]
    constructor
    · rintro (hv | ⟨hv, -⟩)
      · exact absurd hv List.not_mem_nil
      · exact hv
    · exact fun hv => Or.inr ⟨hv, hstarts hv⟩
  constructor
  · intro hw
    obtain ⟨v, hv, hpath⟩ := Frontier.exists_path_of_mem_walk next _ hw
    exact ⟨v, hqueue.mp hv, hpath⟩
  · rintro ⟨v, hv, hpath⟩
    -- along the path, each vertex is a start or was unseen when the search began
    induction hpath with
    | refl => exact Frontier.mem_walk_of_mem_queue next _ (hqueue.mpr hv)
    | @tail u w _ huw ih =>
      by_cases hw : w ∈ starts
      · exact Frontier.mem_walk_of_mem_queue next _ (hqueue.mpr hw)
      · exact Frontier.mem_walk_of_leadsTo next _ ih huw
          (Frontier.mem_unseen_foldl_discover.mpr ⟨hnext u w huw, hw⟩)

/-! ### Breadth-first order -/

/-- The vertices that the starts lead to, in breadth-first order: each stands where it is met first,
as a start or as one that an earlier vertex leads to. -/
structure IsBreadthFirst (next : String → List String) (starts order : List String) : Prop where
  mem_iff : ∀ w, w ∈ order ↔ ∃ v ∈ starts, Relation.ReflTransGen (LeadsTo next) v w
  order_eq : order = (starts ++ order.flatMap next).eraseDups

/-- The search finds vertices in breadth-first order. -/
theorem isBreadthFirst_reach {next : String → List String} {vertices starts : List String}
    (hnext : ∀ v, ∀ w ∈ next v, w ∈ vertices) (hstarts : starts ⊆ vertices) :
    IsBreadthFirst next starts (reach next vertices starts) where
  mem_iff _ := mem_reach_iff hnext hstarts
  order_eq := by
    have hqueue : starts.filter (· ∈ vertices) = starts :=
      List.filter_eq_self.mpr fun v hv => decide_eq_true (hstarts hv)
    have hunseen : ((reach next vertices starts).flatMap next).filter
          (· ∈ (starts.foldl Frontier.discover ⟨vertices, []⟩).unseen)
        = ((reach next vertices starts).flatMap next).removeAll starts := by
      rw [List.removeAll]
      refine List.filter_congr fun w hw => ?_
      obtain ⟨v, -, hvw⟩ := List.mem_flatMap.mp hw
      simp [Frontier.mem_unseen_foldl_discover, hnext v w hvw]
    rw [List.eraseDups_append, ← hunseen]
    conv_lhs => rw [reach, Frontier.walk_eq, Frontier.queue_foldl_discover, hqueue]
    rfl

namespace IsBreadthFirst

variable {next : String → List String} {starts order order' : List String}

lemma nodup (h : IsBreadthFirst next starts order) : order.Nodup := by
  rw [h.order_eq]
  exact nodup_eraseDups _

/-- What the first vertices lead to comes first. -/
lemma eraseDups_isPrefix (h : IsBreadthFirst next starts order) {front : List String}
    (hfront : front <+: order) : (starts ++ front.flatMap next).eraseDups <+: order := by
  obtain ⟨rest, hrest⟩ := hfront
  rw [h.order_eq, ← hrest, List.flatMap_append, ← List.append_assoc]
  exact eraseDups_isPrefix_append ..

/-- Vertices that lead to no others are all that there are. -/
lemma subset_of_closed (h : IsBreadthFirst next starts order) {front : List String}
    (hclosed : starts ++ front.flatMap next ⊆ front) : order ⊆ front := by
  obtain ⟨hstarts, hnext⟩ := List.append_subset.mp hclosed
  intro w hw
  obtain ⟨v, hv, hpath⟩ := (h.mem_iff w).mp hw
  clear hw
  induction hpath with
  | refl => exact hstarts hv
  | @tail u w _ huw ih => exact hnext (List.mem_flatMap.mpr ⟨u, ih, huw⟩)

/-- Two breadth-first orders begin alike: what comes next is met from what came before. -/
lemma isPrefix_of_isPrefix (h : IsBreadthFirst next starts order)
    (h' : IsBreadthFirst next starts order') {front : List String} (hfront : front <+: order) :
    front <+: order' := by
  induction front using List.reverseRecOn with
  | nil => exact List.nil_prefix
  | append_singleton front v ih =>
    have hbefore : front <+: order := (List.prefix_append ..).trans hfront
    have hmet := h.eraseDups_isPrefix hbefore
    have hmet' := h'.eraseDups_isPrefix (ih hbefore)
    rcases Nat.lt_or_ge front.length (starts ++ front.flatMap next).eraseDups.length with hlt | hle
    · refine (List.prefix_of_prefix_length_le hfront hmet ?_).trans hmet'
      rw [List.length_append, List.length_singleton]
      exact hlt
    · -- nothing more is met, so nothing can come next
      have hclosed : starts ++ front.flatMap next ⊆ front := fun w hw =>
        (List.prefix_of_prefix_length_le hmet hbefore hle).subset (List.mem_eraseDups.mpr hw)
      have hv : v ∈ order := hfront.subset (List.mem_append_right _ (List.mem_singleton_self v))
      have hnodup := List.nodup_append.mp (h.nodup.sublist hfront.sublist)
      exact absurd rfl
        (hnodup.2.2 v (h.subset_of_closed hclosed hv) v (List.mem_singleton_self v))

/-- There is only one breadth-first order. -/
theorem eq (h : IsBreadthFirst next starts order) (h' : IsBreadthFirst next starts order') :
    order = order' :=
  have hle := h.isPrefix_of_isPrefix h' (List.prefix_refl order)
  hle.eq_of_length_le (h'.isPrefix_of_isPrefix h (List.prefix_refl order')).length_le

end IsBreadthFirst

end IntegrationFlow.Search
