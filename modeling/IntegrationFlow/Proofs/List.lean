import Mathlib

/-!
# Lists before and after

Lists that correspond element by element, results that are put together one after the other, the
first and the last element with a property, the greatest of some numbers, and the distinct elements
of a list in the order in which they come first.
-/

namespace IntegrationFlow

variable {α β γ : Type}

/-! ### Corresponding lists -/

/-- Every element of the second list comes from one of the first. -/
lemma exists_of_mem_forall₂ {R : α → β → Prop} {as : List α} {bs : List β}
    (h : List.Forall₂ R as bs) {b : β} (hb : b ∈ bs) : ∃ a ∈ as, R a b := by
  induction h with
  | nil => exact absurd hb List.not_mem_nil
  | @cons a x as bs hx _ ih =>
    rcases List.mem_cons.mp hb with rfl | hb
    · exact ⟨a, List.mem_cons_self .., hx⟩
    · obtain ⟨y, hy, hR⟩ := ih hb
      exact ⟨y, List.mem_cons_of_mem _ hy, hR⟩

/-- Where every element has a partner, the partners make a list. -/
lemma exists_forall₂ {R : α → β → Prop} {as : List α} (h : ∀ a ∈ as, ∃ b, R a b) :
    ∃ bs, List.Forall₂ R as bs := by
  induction as with
  | nil => exact ⟨[], .nil⟩
  | cons a as ih =>
    obtain ⟨b, hb⟩ := h a (List.mem_cons_self ..)
    obtain ⟨bs, hbs⟩ := ih fun x hx => h x (List.mem_cons_of_mem _ hx)
    exact ⟨b :: bs, .cons hb hbs⟩

lemma forall₂_trans {R : α → β → Prop} {S : β → γ → Prop} {T : α → γ → Prop}
    (hT : ∀ a b c, R a b → S b c → T a c) {as : List α} {bs : List β} {cs : List γ}
    (h : List.Forall₂ R as bs) (h' : List.Forall₂ S bs cs) : List.Forall₂ T as cs := by
  induction h generalizing cs with
  | nil =>
    cases h' with
    | nil => exact .nil
  | cons hx _ ih =>
    cases h' with
    | cons hx' htail => exact .cons (hT _ _ _ hx hx') (ih htail)

/-- Corresponding elements of which the same is read give the same list. -/
lemma map_eq_map_of_forall₂ {R : α → β → Prop} {f : α → γ} {g : β → γ}
    (hR : ∀ a b, R a b → f a = g b) {as : List α} {bs : List β} (h : List.Forall₂ R as bs) :
    as.map f = bs.map g := by
  induction h with
  | nil => rfl
  | cons hx _ ih => rw [List.map_cons, List.map_cons, hR _ _ hx, ih]

/-- What is searched for is found at the same place in both lists. -/
lemma rel_find?_of_forall₂ {R : α → β → Prop} {p : α → Bool} {q : β → Bool}
    (hpq : ∀ a b, R a b → p a = q b) {as : List α} {bs : List β} (h : List.Forall₂ R as bs) :
    Option.Rel R (as.find? p) (bs.find? q) := by
  induction h with
  | nil => exact .none
  | @cons a b as bs hab _ ih =>
    rw [List.find?_cons, List.find?_cons, ← hpq a b hab]
    cases p a with
    | true => exact .some hab
    | false => exact ih

lemma map_eq_map_of_rel {R : α → β → Prop} {f : α → γ} {g : β → γ} {a : Option α} {b : Option β}
    (h : Option.Rel R a b) (hR : ∀ x ∈ a, ∀ y, R x y → f x = g y) : a.map f = b.map g := by
  cases h with
  | none => rfl
  | some h => rw [Option.map_some, Option.map_some, hR _ rfl _ h]

/-! ### Results one after the other -/

lemma bind_eq_ok_iff {ε : Type} {x : Except ε α} {f : α → Except ε β} {b : β} :
    (x >>= f) = .ok b ↔ ∃ a, x = .ok a ∧ f a = .ok b := by
  cases x with
  | error e => simp [bind, Except.bind]
  | ok a => simp [bind, Except.bind]

lemma bind_eq_error_iff {ε : Type} {x : Except ε α} {f : α → Except ε β} {e : ε} :
    (x >>= f) = .error e ↔ x = .error e ∨ ∃ a, x = .ok a ∧ f a = .error e := by
  cases x with
  | error e' => simp [bind, Except.bind]
  | ok a => simp [bind, Except.bind]

lemma throw_ne_ok {ε : Type} (e : ε) (a : α) : (throw e : Except ε α) ≠ .ok a := by
  simp [throw, throwThe, MonadExceptOf.throw]

lemma toOption_eq_some_iff {ε : Type} {x : Except ε α} {a : α} :
    x.toOption = some a ↔ x = .ok a := by
  cases x <;> simp [Except.toOption]

/-- What is read of a result shows that there is one. -/
lemma exists_of_map_toOption {ε : Type} {x : Except ε α} {f : α → β} {b : β}
    (h : x.toOption.map f = some b) : ∃ a, x = .ok a ∧ f a = b := by
  obtain ⟨a, ha, hb⟩ := Option.map_eq_some_iff.mp h
  exact ⟨a, toOption_eq_some_iff.mp ha, hb⟩

/-- A list of results is obtained exactly if each element gives its result. -/
lemma mapM_eq_ok_iff {ε : Type} {f : α → Except ε β} {as : List α} {bs : List β} :
    as.mapM f = .ok bs ↔ List.Forall₂ (fun a b => f a = .ok b) as bs := by
  induction as generalizing bs with
  | nil =>
    rw [List.mapM_nil, List.forall₂_nil_left_iff]
    exact ⟨fun h => (Except.ok.inj h).symm, fun h => congrArg _ h.symm⟩
  | cons a as ih =>
    rw [List.mapM_cons, List.forall₂_cons_left_iff, bind_eq_ok_iff]
    simp only [bind_eq_ok_iff, ih]
    constructor
    · rintro ⟨b, hb, rest, hrest, h⟩
      exact ⟨b, rest, hb, hrest, (Except.ok.inj h).symm⟩
    · rintro ⟨b, rest, hb, hrest, rfl⟩
      exact ⟨b, hb, rest, hrest, rfl⟩

/-- A list of results is obtained if every element gives one. -/
lemma exists_mapM_eq_ok {ε : Type} {f : α → Except ε β} {as : List α}
    (h : ∀ a ∈ as, ∃ b, f a = .ok b) : ∃ bs, as.mapM f = .ok bs := by
  obtain ⟨bs, hbs⟩ := exists_forall₂ h
  exact ⟨bs, mapM_eq_ok_iff.mpr hbs⟩

/-- A list of results fails as the first element does that gives none. -/
lemma mapM_eq_error_iff {ε : Type} {f : α → Except ε β} {as : List α} {e : ε} :
    as.mapM f = .error e ↔ ∃ before a after, as = before ++ a :: after ∧
      (∀ x ∈ before, ∃ b, f x = .ok b) ∧ f a = .error e := by
  induction as with
  | nil => simp [pure, Except.pure]
  | cons a as ih =>
    rw [List.mapM_cons, bind_eq_error_iff]
    constructor
    · rintro (h | ⟨b, hb, h⟩)
      · exact ⟨[], a, as, rfl, by simp, h⟩
      · rcases bind_eq_error_iff.mp h with h | ⟨bs, -, h⟩
        · obtain ⟨before, x, after, rfl, hbefore, hx⟩ := ih.mp h
          refine ⟨a :: before, x, after, rfl, ?_, hx⟩
          exact List.forall_mem_cons.mpr ⟨⟨b, hb⟩, hbefore⟩
        · exact absurd h (by simp [pure, Except.pure])
    · rintro ⟨before, x, after, heq, hbefore, hx⟩
      cases before with
      | nil =>
        obtain ⟨rfl, rfl⟩ := List.cons.inj heq
        exact Or.inl hx
      | cons y before =>
        obtain ⟨rfl, rfl⟩ := List.cons.inj heq
        obtain ⟨⟨b, hb⟩, hbefore⟩ := List.forall_mem_cons.mp hbefore
        exact Or.inr ⟨b, hb,
          bind_eq_error_iff.mpr (Or.inl (ih.mpr ⟨before, x, after, rfl, hbefore, hx⟩))⟩

/-- What is read of an element finds it, if the same is read of no other. -/
lemma filter_eq_singleton [DecidableEq β] {f : α → β} {as : List α} (h : (as.map f).Nodup) {a : α}
    (ha : a ∈ as) : as.filter (fun x => f x = f a) = [a] := by
  induction as with
  | nil => exact absurd ha List.not_mem_nil
  | cons x as ih =>
    rw [List.map_cons, List.nodup_cons] at h
    obtain ⟨hx, h⟩ := h
    rcases List.mem_cons.mp ha with rfl | ha
    · rw [List.filter_cons_of_pos (by simp), List.filter_eq_nil_iff.mpr]
      intro y hy heq
      exact hx (of_decide_eq_true heq ▸ List.mem_map_of_mem hy)
    · rw [List.filter_cons_of_neg, ih h ha]
      exact fun heq => hx (of_decide_eq_true heq ▸ List.mem_map_of_mem ha)

/-- What a list begins with reaches no further than an element it does not hold. -/
lemma exists_of_append_eq {lead es before after : List α} {e : α}
    (h : lead ++ es = before ++ e :: after) (he : e ∉ lead) :
    ∃ more, before = lead ++ more ∧ es = more ++ e :: after := by
  rcases List.append_eq_append_iff.mp h with ⟨more, hbefore, hes⟩ | ⟨more, hlead, hafter⟩
  · exact ⟨more, hbefore, hes⟩
  · cases more with
    | nil => exact ⟨[], by simpa using hlead.symm, by simpa using hafter.symm⟩
    | cons x more =>
      obtain ⟨rfl, -⟩ := List.cons.inj hafter
      exact absurd (hlead ▸ List.mem_append_right _ List.mem_cons_self) he

/-! ### First and last elements -/

/-- `a` is the first element of a list that satisfies `p`. -/
def IsFirst (p : α → Prop) (as : List α) (a : α) : Prop :=
  ∃ before after, as = before ++ a :: after ∧ (∀ x ∈ before, ¬ p x) ∧ p a

/-- `a` is the last element of a list that satisfies `p`. -/
def IsLast (p : α → Prop) (as : List α) (a : α) : Prop :=
  ∃ before after, as = before ++ a :: after ∧ p a ∧ ∀ x ∈ after, ¬ p x

section Last

variable {p : α → Prop} {as bs : List α} {a : α}

lemma isFirst_iff_find? [DecidablePred p] : IsFirst p as a ↔ as.find? p = some a := by
  rw [List.find?_eq_some_iff_append]
  constructor
  · rintro ⟨before, after, hsplit, hbefore, ha⟩
    exact ⟨by simpa using ha, before, after, hsplit, by simpa using hbefore⟩
  · rintro ⟨ha, before, after, hsplit, hbefore⟩
    exact ⟨before, after, hsplit, by simpa using hbefore, by simpa using ha⟩

lemma IsFirst.congr {q : α → Prop} (h : IsFirst p as a) (hpq : ∀ x ∈ as, p x ↔ q x) :
    IsFirst q as a := by
  obtain ⟨before, after, rfl, hbefore, ha⟩ := h
  refine ⟨before, after, rfl, fun x hx hq => hbefore x hx ?_, ?_⟩
  · exact (hpq x (List.mem_append_left _ hx)).mpr hq
  · exact (hpq a (List.mem_append_right _ List.mem_cons_self)).mp ha

/-- Lists that correspond have corresponding first elements. -/
lemma exists_isFirst_of_forall₂ {R : α → β → Prop} {q : β → Prop} {bs : List β}
    (h : List.Forall₂ R as bs) (hpq : ∀ a b, R a b → (p a ↔ q b)) {b : β}
    (hb : IsFirst q bs b) : ∃ a, IsFirst p as a ∧ R a b := by
  classical
  have hfound := rel_find?_of_forall₂ (p := fun a => decide (p a)) (q := fun b => decide (q b))
    (fun a b hab => decide_eq_decide.mpr (hpq a b hab)) h
  rw [isFirst_iff_find?.mp hb] at hfound
  cases hfirst : as.find? fun a => decide (p a) with
  | none => simp [hfirst] at hfound
  | some a =>
    rw [hfirst] at hfound
    exact ⟨a, isFirst_iff_find?.mpr hfirst, by simpa using hfound⟩

/-- The last element is the first from behind. -/
lemma isLast_iff_isFirst_reverse : IsLast p as a ↔ IsFirst p as.reverse a := by
  constructor
  · rintro ⟨before, after, rfl, ha, hafter⟩
    exact ⟨after.reverse, before.reverse, by simp, by simpa using hafter, ha⟩
  · rintro ⟨after, before, hsplit, hafter, ha⟩
    refine ⟨before.reverse, after.reverse, ?_, ha, by simpa using hafter⟩
    rw [← List.reverse_reverse as, hsplit]
    simp

lemma isLast_iff_getLast?_filter [DecidablePred p] :
    IsLast p as a ↔ (as.filter p).getLast? = some a := by
  rw [isLast_iff_isFirst_reverse, isFirst_iff_find?, ← List.head?_reverse, ← List.filter_reverse,
    List.head?_filter]

/-- Elements that come later take precedence. -/
lemma isLast_append : IsLast p (as ++ bs) a ↔
    IsLast p bs a ∨ (∀ x ∈ bs, ¬ p x) ∧ IsLast p as a := by
  classical
  have hnone : (∀ x ∈ bs, ¬ p x) ↔ bs.filter p = [] := by simp [List.filter_eq_nil_iff]
  rw [isLast_iff_getLast?_filter, isLast_iff_getLast?_filter, isLast_iff_getLast?_filter, hnone,
    List.filter_append, List.getLast?_append, Option.or_eq_some_iff, List.getLast?_eq_none_iff]

end Last

/-! ### Numbers -/

/-- The greatest of a number and some others. -/
lemma isGreatest_foldl_max (n : Nat) (ns : List Nat) :
    IsGreatest {k | k = n ∨ k ∈ ns} (ns.foldl max n) := by
  induction ns generalizing n with
  | nil => simp
  | cons m ns ih =>
    obtain ⟨hmem, hle⟩ := ih (max n m)
    constructor
    · rcases hmem with hmax | hmem
      · rcases le_total n m with h | h
        · exact Or.inr (List.mem_cons.mpr (Or.inl (hmax.trans (max_eq_right h))))
        · exact Or.inl (hmax.trans (max_eq_left h))
      · exact Or.inr (List.mem_cons_of_mem _ hmem)
    · have hmax : max n m ≤ (m :: ns).foldl max n := hle (Or.inl rfl)
      rintro k (rfl | hk)
      · exact (le_max_left ..).trans hmax
      · rcases List.mem_cons.mp hk with rfl | hk
        · exact (le_max_right ..).trans hmax
        · exact hle (Or.inr hk)

/-- How often numbers occur: some number does not occur at all. -/
lemma range_count (ns : List Nat) : Set.range ns.count = {k | k = 0 ∨ k ∈ ns.map ns.count} := by
  ext k
  constructor
  · rintro ⟨n, rfl⟩
    by_cases hn : n ∈ ns
    · exact Or.inr (List.mem_map_of_mem hn)
    · exact Or.inl (List.count_eq_zero.mpr hn)
  · rintro (rfl | hk)
    · obtain ⟨n, hn⟩ := Infinite.exists_notMem_finset ns.toFinset
      exact ⟨n, List.count_eq_zero.mpr (by simpa using hn)⟩
    · obtain ⟨n, -, rfl⟩ := List.mem_map.mp hk
      exact ⟨n, rfl⟩

/-- Numbered elements that are sorted by their numbers stand in their order again. -/
lemma map_fst_mergeSort_of_perm {as : List α} {numbered : List (α × Nat)}
    (h : numbered.Perm as.zipIdx) :
    (numbered.mergeSort fun x y => x.2 ≤ y.2).map Prod.fst = as := by
  have hperm := (List.mergeSort_perm numbered fun x y => x.2 ≤ y.2).trans h
  have hsorted : (numbered.mergeSort fun x y => x.2 ≤ y.2).Pairwise fun x y => x.2 ≤ y.2 := by
    refine (List.pairwise_mergeSort (fun x y z hxy hyz => ?_) (fun x y => ?_) numbered).imp
      of_decide_eq_true
    · exact decide_eq_true ((of_decide_eq_true hxy).trans (of_decide_eq_true hyz))
    · simpa using le_total x.2 y.2
  have hzip : as.zipIdx.Pairwise fun x y => x.2 ≤ y.2 := by
    rw [← List.pairwise_map (f := Prod.snd), List.zipIdx_map_snd]
    exact List.pairwise_le_range'
  have hanti : ∀ x y : α × Nat, x ∈ numbered.mergeSort (fun x y => x.2 ≤ y.2) → y ∈ as.zipIdx →
      x.2 ≤ y.2 → y.2 ≤ x.2 → x = y := by
    intro x y hx hy hxy hyx
    have hnum : x.2 = y.2 := le_antisymm hxy hyx
    have hx := List.mem_zipIdx_iff_getElem?.mp (hperm.mem_iff.mp hx)
    have hy := List.mem_zipIdx_iff_getElem?.mp hy
    rw [hnum, hy] at hx
    exact Prod.ext (Option.some.inj hx).symm hnum
  rw [List.Perm.eq_of_pairwise hanti hsorted hzip hperm, List.zipIdx_map_fst]

/-! ### Distinct elements -/

/-- A list can be sorted into groups by distinct keys. -/
lemma flatMap_filter_perm [DecidableEq β] {keys : List β} (hkeys : keys.Nodup) (f : α → β)
    {as : List α} (h : ∀ a ∈ as, f a ∈ keys) :
    (keys.flatMap fun key => as.filter fun a => f a = key).Perm as := by
  induction keys generalizing as with
  | nil =>
    obtain rfl : as = [] := List.eq_nil_iff_forall_not_mem.mpr fun a ha => by simpa using h a ha
    rfl
  | cons key keys ih =>
    obtain ⟨hkey, hkeys⟩ := List.nodup_cons.mp hkeys
    have hrest : (keys.flatMap fun key' => as.filter fun a => f a = key')
        = keys.flatMap fun key' => (as.filter fun a => !decide (f a = key)).filter
            fun a => f a = key' := by
      refine List.flatMap_congr fun key' hkey' => ?_
      have hne : key' ≠ key := fun heq => hkey (heq ▸ hkey')
      rw [List.filter_filter]
      refine List.filter_congr fun a _ => ?_
      by_cases ha : f a = key'
      · simp [ha, hne]
      · simp [ha]
    rw [List.flatMap_cons, hrest]
    refine .trans (List.Perm.append_left _ (ih hkeys fun a ha => ?_))
      (List.filter_append_perm (fun a => decide (f a = key)) as)
    obtain ⟨ha, hne⟩ := List.mem_filter.mp ha
    exact (List.mem_cons.mp (h a ha)).resolve_left (by simpa using hne)

variable [BEq α] [LawfulBEq α]

/-- One more element counts only if it is new. -/
lemma eraseDups_concat (as : List α) (a : α) :
    (as ++ [a]).eraseDups = if a ∈ as then as.eraseDups else as.eraseDups ++ [a] := by
  rw [List.eraseDups_append]
  by_cases h : a ∈ as
  · simp [List.removeAll, h]
  · simp [List.removeAll, h, List.eraseDups_cons]

lemma eraseDups_isPrefix_append (as bs : List α) : as.eraseDups <+: (as ++ bs).eraseDups := by
  rw [List.eraseDups_append]
  exact List.prefix_append ..

lemma nodup_eraseDups (as : List α) : as.eraseDups.Nodup := by
  induction as using List.reverseRecOn with
  | nil => exact List.nodup_nil
  | append_singleton as a ih =>
    rw [eraseDups_concat]
    split
    · exact ih
    · refine List.Nodup.append ih (List.nodup_singleton a) ?_
      simpa using ‹_›

end IntegrationFlow
