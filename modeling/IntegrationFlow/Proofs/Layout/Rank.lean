import Mathlib
import IntegrationFlow.Proofs.Graph.Adjacency
import IntegrationFlow.Proofs.Layout.Placement

/-!
# Ranks are longest paths

Ranks are passed on from node to node, and a node passes its rank on when nothing that leads to it
is left to wait for. On edges that make no cycle every node has its turn, and then its rank is the
length of a longest path that ends in it. The edges that a search notes are such that the others
make no cycle.
-/

namespace IntegrationFlow.Layout

open Relation (ReflTransGen TransGen)

/-! ### Passing a rank on -/

namespace Ranking

/-- The rank of a node so far. -/
def rankOf (r : Ranking) (id : String) : Nat := (OrderedMap.get? r.ranks id).getD 0

section Release

variable (here : Nat) (r : Ranking) (targets : List String)

lemma get?_waiting_foldl_release (w : String) :
    OrderedMap.get? (targets.foldl (release here) r).waiting w
      = (OrderedMap.get? r.waiting w).map (· - targets.count w) := by
  induction targets generalizing r with
  | nil => simp
  | cons t targets ih =>
    rw [List.foldl_cons, ih, release, OrderedMap.get?_modify, List.count_cons]
    by_cases h : t = w
    · simp [h, Function.comp_def, Nat.sub_sub, Nat.add_comm]
    · simp [h]

lemma get?_ranks_foldl_release (w : String) :
    OrderedMap.get? (targets.foldl (release here) r).ranks w
      = if w ∈ targets then (OrderedMap.get? r.ranks w).map (max · (here + 1))
        else OrderedMap.get? r.ranks w := by
  induction targets generalizing r with
  | nil => simp
  | cons t targets ih =>
    rw [List.foldl_cons, ih, release, OrderedMap.get?_modify]
    by_cases h : t = w
    · by_cases hmem : w ∈ targets <;> simp [h, hmem, Function.comp_def]
    · simp [h, Ne.symm h]

/-- The nodes that become ready are those that waited for nothing else. -/
lemma ready_foldl_release : ∃ new, (targets.foldl (release here) r).ready = r.ready ++ new ∧
    new.Nodup ∧ ∀ w, w ∈ new ↔ ∃ k, OrderedMap.get? r.waiting w = some k ∧ 0 < k ∧
      k ≤ targets.count w := by
  induction targets generalizing r with
  | nil => exact ⟨[], by simp⟩
  | cons t targets ih =>
    obtain ⟨new, hready, hnodup, hnew⟩ := ih (release here r t)
    have hother : ∀ w, t ≠ w → (w ∈ new ↔ ∃ k, OrderedMap.get? r.waiting w = some k ∧ 0 < k ∧
        k ≤ (t :: targets).count w) := by
      intro w h
      rw [hnew, release, OrderedMap.get?_modify, if_neg h, List.count_cons_of_ne h]
    have hself : t ∈ new ↔ ∃ k, OrderedMap.get? r.waiting t = some k ∧ 1 < k ∧
        k ≤ (t :: targets).count t := by
      rw [hnew, release, OrderedMap.get?_modify, if_pos rfl, List.count_cons_self]
      cases OrderedMap.get? r.waiting t with
      | none => simp
      | some k =>
        simp only [Option.map_some, Option.some.injEq, exists_eq_left']
        omega
    rw [List.foldl_cons, hready]
    by_cases hone : OrderedMap.get? r.waiting t = some 1
    · have ht : t ∉ new := by simp [hself, hone]
      refine ⟨t :: new, by simp [release, hone], List.nodup_cons.mpr ⟨ht, hnodup⟩, fun w => ?_⟩
      by_cases h : t = w
      · subst h
        simp [hone]
      · rw [List.mem_cons, hother w h, or_iff_right (Ne.symm h)]
    · refine ⟨new, by simp [release, hone], hnodup, fun w => ?_⟩
      by_cases h : t = w
      · subst h
        rw [hself]
        refine exists_congr fun k => and_congr_right fun hk => and_congr_left fun _ => ?_
        have hne : k ≠ 1 := fun h => hone (h ▸ hk)
        omega
      · exact hother w h

end Release

/-! ### Steps of the ranking -/

/-- The state of a ranking in which the nodes in `rest` have not passed on their rank. Edges lead on
within `rest`, a node waits for the edges from there, and the other edges have done their part. -/
structure Advances (ids : List String) (next : String → List String) (rest : List String)
    (r : Ranking) : Prop where
  subset : rest ⊆ ids
  nodup : rest.Nodup
  closed : ∀ u ∈ rest, ∀ w ∈ next u, w ∈ rest
  waiting_eq : ∀ w ∈ ids, OrderedMap.get? r.waiting w = some ((rest.flatMap next).count w)
  ready_nodup : r.ready.Nodup
  mem_ready : ∀ w, w ∈ r.ready ↔ w ∈ rest ∧ w ∉ rest.flatMap next
  ranked : ∀ w ∈ ids, OrderedMap.get? r.ranks w = some (r.rankOf w)
  rank_lt : ∀ u ∈ ids, u ∉ rest → ∀ w ∈ next u, r.rankOf u < r.rankOf w
  rank_eq : ∀ w ∈ ids, r.rankOf w = 0 ∨
    ∃ u ∈ ids, u ∉ rest ∧ w ∈ next u ∧ r.rankOf w = r.rankOf u + 1

section Advances

variable {ids : List String} {next : String → List String} {rest ready : List String}
  {r s : Ranking} {id : String}

/-- The state after a node has passed on its rank. -/
def passOn (next : String → List String) (r : Ranking) (id : String) (ready : List String) :
    Ranking :=
  (next id).foldl (release (r.rankOf id)) { r with ready }

lemma step?_eq_some_iff : r.step? next = some s ↔
    ∃ id ready, r.ready = id :: ready ∧ passOn next r id ready = s := by
  unfold step?
  split
  · simp [*]
  · rename_i id ready hready
    simp [hready, passOn, rankOf]

lemma count_flatMap_erase (next : String → List String) (h : id ∈ rest) (w : String) :
    (rest.flatMap next).count w
      = (next id).count w + ((rest.erase id).flatMap next).count w := by
  have hperm := (List.perm_cons_erase h).flatMap_right next
  rw [hperm.count_eq, List.flatMap_cons, List.count_append]

namespace Advances

/-- The first node that is ready is left, and nothing that is left leads to it. -/
lemma mem_of_ready (h : Advances ids next rest r) (hready : r.ready = id :: ready) :
    id ∈ rest ∧ id ∉ rest.flatMap next :=
  (h.mem_ready id).mp (hready ▸ List.mem_cons_self ..)

lemma ready_passOn (h : Advances ids next rest r) (hready : r.ready = id :: ready) :
    (passOn next r id ready).ready.Nodup ∧
      ∀ w, w ∈ (passOn next r id ready).ready ↔
        w ∈ rest.erase id ∧ w ∉ (rest.erase id).flatMap next := by
  obtain ⟨hid, hsource⟩ := h.mem_of_ready hready
  obtain ⟨new, heq, hnodup, hnew⟩ := ready_foldl_release (r.rankOf id) { r with ready } (next id)
  have hold : ∀ w, w ∈ ready ↔ w ∈ rest.erase id ∧ w ∉ rest.flatMap next := by
    intro w
    have hmem := h.mem_ready w
    have hfirst := h.ready_nodup
    rw [hready, List.mem_cons] at hmem
    rw [hready, List.nodup_cons] at hfirst
    rw [h.nodup.mem_erase_iff, and_assoc, ← hmem]
    constructor
    · exact fun hw => ⟨fun heq => hfirst.1 (heq ▸ hw), Or.inr hw⟩
    · exact fun hw => hw.2.resolve_left hw.1
  -- a node is new if all edges that it waits for come from `id`
  replace hnew : ∀ w, w ∈ new ↔ w ∈ rest.flatMap next ∧ w ∉ (rest.erase id).flatMap next := by
    intro w
    have hcount := count_flatMap_erase next hid w
    rw [hnew, ← List.count_pos_iff, ← List.count_eq_zero]
    constructor
    · rintro ⟨k, hk, hpos, hle⟩
      have hw : w ∈ next id := List.count_pos_iff.mp (hpos.trans_le hle)
      have hwait := h.waiting_eq w (h.subset (h.closed id hid w hw))
      obtain rfl := Option.some.inj (hk.symm.trans hwait)
      omega
    · rintro ⟨hpos, hzero⟩
      have hw : w ∈ next id := List.count_pos_iff.mp (by omega)
      exact ⟨_, h.waiting_eq w (h.subset (h.closed id hid w hw)), hpos, by omega⟩
  have hsub : ∀ w ∈ (rest.erase id).flatMap next, w ∈ rest.flatMap next := by
    intro w hw
    obtain ⟨u, hu, hw⟩ := List.mem_flatMap.mp hw
    exact List.mem_flatMap.mpr ⟨u, List.mem_of_mem_erase hu, hw⟩
  rw [passOn, heq]
  constructor
  · have hfirst := h.ready_nodup
    rw [hready] at hfirst
    refine List.nodup_append.mpr ⟨hfirst.tail, hnodup, ?_⟩
    rintro w hw _ hw' rfl
    exact ((hold w).mp hw).2 ((hnew w).mp hw').1
  · intro w
    rw [List.mem_append, hold, hnew]
    constructor
    · rintro (⟨hw, hnone⟩ | ⟨hsome, hnone⟩)
      · exact ⟨hw, fun hmem => hnone (hsub w hmem)⟩
      · obtain ⟨u, hu, hw⟩ := List.mem_flatMap.mp hsome
        refine ⟨h.nodup.mem_erase_iff.mpr ⟨?_, h.closed u hu w hw⟩, hnone⟩
        rintro rfl
        exact hsource hsome
    · rintro ⟨hw, hnone⟩
      by_cases hsome : w ∈ rest.flatMap next
      · exact Or.inr ⟨hsome, hnone⟩
      · exact Or.inl ⟨hw, hsome⟩

lemma get?_ranks_passOn (h : Advances ids next rest r) {w : String} (hw : w ∈ ids) :
    OrderedMap.get? (passOn next r id ready).ranks w
      = some (if w ∈ next id then max (r.rankOf w) (r.rankOf id + 1) else r.rankOf w) := by
  rw [passOn, get?_ranks_foldl_release]
  split <;> simp [h.ranked w hw]

lemma rankOf_passOn (h : Advances ids next rest r) {w : String} (hw : w ∈ ids) :
    (passOn next r id ready).rankOf w
      = if w ∈ next id then max (r.rankOf w) (r.rankOf id + 1) else r.rankOf w := by
  rw [rankOf, h.get?_ranks_passOn hw, Option.getD_some]

/-- A step passes on the rank of one node. -/
lemma step (hnext : ∀ u ∈ ids, ∀ w ∈ next u, w ∈ ids) (h : Advances ids next rest r)
    (hready : r.ready = id :: ready) :
    Advances ids next (rest.erase id) (passOn next r id ready) := by
  obtain ⟨hid, hsource⟩ := h.mem_of_ready hready
  obtain ⟨hnodup, hmem⟩ := h.ready_passOn hready
  have hcases : ∀ {u}, u ∉ rest.erase id → u ∉ rest ∨ u = id := by
    intro u hu
    rw [h.nodup.mem_erase_iff] at hu
    tauto
  -- nothing that is left leads to a node that has passed on its rank
  have hkept : ∀ u ∈ ids, u ∉ rest.erase id → (passOn next r id ready).rankOf u = r.rankOf u := by
    intro u hu hleft
    rw [h.rankOf_passOn hu, if_neg]
    intro hmem
    rcases hcases hleft with hleft | rfl
    · exact hleft (h.closed id hid u hmem)
    · exact hsource (List.mem_flatMap.mpr ⟨u, hid, hmem⟩)
  constructor
  · exact fun u hu => h.subset (List.mem_of_mem_erase hu)
  · exact h.nodup.erase id
  · intro u hu w hw
    refine h.nodup.mem_erase_iff.mpr ⟨?_, h.closed u (List.mem_of_mem_erase hu) w hw⟩
    rintro rfl
    exact hsource (List.mem_flatMap.mpr ⟨u, List.mem_of_mem_erase hu, hw⟩)
  · intro w hw
    rw [passOn, get?_waiting_foldl_release, h.waiting_eq w hw, count_flatMap_erase next hid w]
    simp
  · exact hnodup
  · exact hmem
  · intro w hw
    rw [h.get?_ranks_passOn hw, h.rankOf_passOn hw]
  · intro u hu hleft w hw
    rw [hkept u hu hleft, h.rankOf_passOn (hnext u hu w hw)]
    rcases hcases hleft with hleft | rfl
    · have hlt := h.rank_lt u hu hleft w hw
      split
      · exact lt_max_of_lt_left hlt
      · exact hlt
    · rw [if_pos hw]
      exact lt_max_of_lt_right (Nat.lt_succ_self _)
  · intro w hw
    have hid' : id ∉ rest.erase id := fun hmem => (h.nodup.mem_erase_iff.mp hmem).1 rfl
    have hold : r.rankOf w = 0 ∨ ∃ u ∈ ids, u ∉ rest.erase id ∧ w ∈ next u ∧
        r.rankOf w = (passOn next r id ready).rankOf u + 1 := by
      refine (h.rank_eq w hw).imp_right ?_
      rintro ⟨u, hu, hleft, hwu, heq⟩
      have hleft' : u ∉ rest.erase id := fun hmem => hleft (List.mem_of_mem_erase hmem)
      exact ⟨u, hu, hleft', hwu, by rw [hkept u hu hleft', heq]⟩
    rw [h.rankOf_passOn hw]
    split
    · rename_i hwid
      rcases le_total (r.rankOf id + 1) (r.rankOf w) with hle | hle
      · rw [max_eq_left hle]
        exact hold
      · rw [max_eq_right hle]
        exact Or.inr ⟨id, h.subset hid, hid', hwid, by rw [hkept id (h.subset hid) hid']⟩
    · exact hold

/-- When no node is ready any more, the ranks have been passed on as far as they can be. -/
lemma run (hnext : ∀ u ∈ ids, ∀ w ∈ next u, w ∈ ids) (h : Advances ids next rest r) :
    ∃ rest', Advances ids next rest' (Ranking.run next r) ∧ (Ranking.run next r).ready = [] := by
  fun_induction Ranking.run next r generalizing rest with
  | case1 r hstep =>
    refine ⟨rest, h, ?_⟩
    unfold step? at hstep
    split at hstep
    · assumption
    · exact absurd hstep (by simp)
  | case2 r s hstep ih =>
    obtain ⟨id, ready, hready, rfl⟩ := step?_eq_some_iff.mp hstep
    exact ih (h.step hnext hready)

/-- An edge that a rank is passed on along is waited for. -/
lemma exists_waiting (h : Advances ids next rest r) (hready : r.ready = id :: ready)
    {before after : List String} {w : String} (hnext : next id = before ++ w :: after) (here : Nat) :
    ∃ k, OrderedMap.get? (before.foldl (release here) { r with ready }).waiting w
      = some (k + 1) := by
  obtain ⟨hid, -⟩ := h.mem_of_ready hready
  have hw : w ∈ next id := by simp [hnext]
  have hcount : before.count w < (rest.flatMap next).count w := by
    rw [count_flatMap_erase next hid w, hnext, List.count_append, List.count_cons_self]
    omega
  rw [get?_waiting_foldl_release, h.waiting_eq w (h.subset (h.closed id hid w hw)),
    Option.map_some]
  exact ⟨(rest.flatMap next).count w - before.count w - 1, by congr 1; omega⟩

end Advances

end Advances

/-- Where edges make no cycle, every node has its turn. -/
lemma Advances.eq_nil {ids : List String} {next : String → List String} {rest : List String}
    {r : Ranking} (h : Advances ids next rest r) (hready : r.ready = [])
    (hacyclic : ∀ v, ¬ TransGen (fun u w => w ∈ next u) v v) : rest = [] := by
  let before (u w : { v // v ∈ rest }) : Prop := TransGen (fun u w => w ∈ next u) u.1 w.1
  have : IsTrans _ before := ⟨fun _ _ _ => TransGen.trans⟩
  have : Std.Irrefl before := ⟨fun v => hacyclic v.1⟩
  have : Finite { v // v ∈ rest } := List.finite_toSet rest
  have hnone (v : { v // v ∈ rest }) : False := by
    induction v using (Finite.wellFounded_of_trans_of_irrefl before).induction with
    | h v ih =>
      -- `v` is not ready, so something that is left leads to it
      have hv : v.1 ∈ rest.flatMap next := by
        by_contra hnone
        have hmem := (h.mem_ready v.1).mpr ⟨v.2, hnone⟩
        rw [hready] at hmem
        exact List.not_mem_nil hmem
      obtain ⟨u, hu, hlead⟩ := List.mem_flatMap.mp hv
      exact ih ⟨u, hu⟩ (.single hlead)
  exact List.eq_nil_iff_forall_not_mem.mpr fun v hv => hnone ⟨v, hv⟩

end Ranking

/-! ### Ranks of nodes -/

section Ranks

variable {ids : List String} {next : String → List String}

lemma get?_foldl_modify_succ (m : OrderedMap String Nat) (targets : List String) (w : String) :
    OrderedMap.get? (targets.foldl (fun m t => OrderedMap.modify m t (· + 1)) m) w
      = (OrderedMap.get? m w).map (· + targets.count w) := by
  induction targets generalizing m with
  | nil => simp
  | cons t targets ih =>
    rw [List.foldl_cons, ih, OrderedMap.get?_modify, List.count_cons]
    by_cases h : t = w
    · simp [h, Function.comp_def, Nat.add_comm, Nat.add_left_comm]
    · simp [h]

lemma get?_ofList_zero (hids : ids.Nodup) {w : String} (hw : w ∈ ids) :
    OrderedMap.get? (OrderedMap.ofList (ids.map fun id => (id, 0))) w = some 0 := by
  have hkeys : OrderedMap.keys (ids.map fun id => (id, 0)) = ids := by
    simp [OrderedMap.keys, Function.comp_def]
  rw [OrderedMap.ofList_eq_self (by rwa [hkeys]), OrderedMap.get?_map_pair, if_pos hw]

lemma get?_inDegrees (hids : ids.Nodup) {w : String} (hw : w ∈ ids) :
    OrderedMap.get? (inDegrees ids next) w = some ((ids.flatMap next).count w) := by
  rw [inDegrees, get?_foldl_modify_succ, get?_ofList_zero hids hw, Option.map_some, Nat.zero_add]

/-- The state in which ranking begins. -/
def Ranking.start (ids : List String) (next : String → List String) : Ranking where
  ready := ids.filter fun id => OrderedMap.get? (inDegrees ids next) id = some 0
  waiting := inDegrees ids next
  ranks := OrderedMap.ofList (ids.map fun id => (id, 0))

lemma ranks_eq (ids : List String) (next : String → List String) :
    ranks ids next = (Ranking.run next (.start ids next)).ranks := rfl

/-- At first nothing has been passed on. -/
lemma advances_start (hids : ids.Nodup) (hnext : ∀ u ∈ ids, ∀ w ∈ next u, w ∈ ids) :
    Ranking.Advances ids next ids (.start ids next) where
  subset := List.Subset.refl _
  nodup := hids
  closed := hnext
  waiting_eq _ hw := get?_inDegrees hids hw
  ready_nodup := hids.filter _
  mem_ready w := by
    rw [Ranking.start, List.mem_filter, decide_eq_true_eq]
    refine and_congr_right fun hw => ?_
    rw [get?_inDegrees hids hw, Option.some.injEq, List.count_eq_zero]
  ranked w hw := by
    rw [Ranking.rankOf, Ranking.start, get?_ofList_zero hids hw, Option.getD_some]
  rank_lt u hu hleft := absurd hu hleft
  rank_eq w hw := by
    rw [Ranking.rankOf, Ranking.start, get?_ofList_zero hids hw]
    exact Or.inl rfl

/-- In the course of ranking from a state on, a rank is passed on along an edge to `target`, and `s`
is the state that the edge meets. -/
inductive Ranking.Meets (next : String → List String) (r : Ranking) : Ranking → String → Prop
  | intro {t : Ranking} {id target : String} {ready before after : List String}
      (hrun : ReflTransGen (fun t t' => t.step? next = some t') r t)
      (hready : t.ready = id :: ready) (hnext : next id = before ++ target :: after) :
      Meets next r (before.foldl (release (t.rankOf id)) { t with ready }) target

/-- An edge always meets a node that waits for it, so no count runs out. -/
theorem exists_waiting_of_meets (hids : ids.Nodup) (hnext : ∀ u ∈ ids, ∀ w ∈ next u, w ∈ ids)
    {s : Ranking} {target : String} (h : (Ranking.start ids next).Meets next s target) :
    ∃ k, OrderedMap.get? s.waiting target = some (k + 1) := by
  obtain @⟨t, id, target, ready, before, after, hrun, hready, hsplit⟩ := h
  obtain ⟨rest, hrest⟩ : ∃ rest, Ranking.Advances ids next rest t := by
    clear hready
    induction hrun with
    | refl => exact ⟨ids, advances_start hids hnext⟩
    | tail _ hstep ih =>
      obtain ⟨rest, hrest⟩ := ih
      obtain ⟨id, ready, hready, rfl⟩ := Ranking.step?_eq_some_iff.mp hstep
      exact ⟨rest.erase id, hrest.step hnext hready⟩
  exact hrest.exists_waiting hready hsplit _

/-- Where edges make no cycle, a rank is greater than the ranks it was passed on from, and by one
than the greatest of them. -/
theorem ranks_spec (hids : ids.Nodup) (hnext : ∀ u ∈ ids, ∀ w ∈ next u, w ∈ ids)
    (hacyclic : ∀ v, ¬ TransGen (fun u w => w ∈ next u) v v) :
    ∃ rankOf : String → Nat,
      (∀ w ∈ ids, OrderedMap.get? (ranks ids next) w = some (rankOf w)) ∧
      (∀ u ∈ ids, ∀ w ∈ next u, rankOf u < rankOf w) ∧
      ∀ w ∈ ids, rankOf w = 0 ∨ ∃ u ∈ ids, w ∈ next u ∧ rankOf w = rankOf u + 1 := by
  obtain ⟨rest, hrest, hready⟩ := (advances_start hids hnext).run hnext
  obtain rfl := hrest.eq_nil hready hacyclic
  rw [ranks_eq]
  refine ⟨_, hrest.ranked, fun u hu => hrest.rank_lt u hu List.not_mem_nil, fun w hw => ?_⟩
  refine (hrest.rank_eq w hw).imp_right ?_
  rintro ⟨u, hu, -, hw, heq⟩
  exact ⟨u, hu, hw, heq⟩

end Ranks

end IntegrationFlow.Layout
