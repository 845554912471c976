import Mathlib
import IntegrationFlow.Source.Walk

/-!
# How runs are laid

A run of steps is laid from records and links in few ways, whatever dialect it comes from: a single
step, one run after another, a step with branches, a run with a handler for its errors, and a step
that is gone back to. What holds of every run is shown along these ways. Its entry is its first
record, its links stay within it, and
- where no step ends the flow, every record lies on a way from the entry to a loose end;
- where no step is gone back to, the steps of the sequence lead on to later records.
-/

namespace IntegrationFlow

/-- A record with other links. -/
def Record.withLinks (r : Record) (links : List Link) : Record := { r with links }

lemma Record.withLinks_self (r : Record) : r.withLinks r.links = r := rfl

namespace Source

open Relation (ReflTransGen)

/-! ### Links -/

/-- The links laid so far. -/
def Walk.ties (w : Walk) : Set (String × Link) := {l | l ∈ w.links}

/-- A link leads from `u` to `v`. -/
def Follows (ls : Set (String × Link)) (u v : String) : Prop := ∃ l, (u, l) ∈ ls ∧ l.target = v

lemma Follows.mono {ls ls' : Set (String × Link)} (h : ls ⊆ ls') {u v : String}
    (huv : ReflTransGen (Follows ls) u v) : ReflTransGen (Follows ls') u v := by
  refine ReflTransGen.mono ?_ _ _ huv
  rintro x y ⟨l, hl, rfl⟩
  exact ⟨l, h hl, rfl⟩

section Follows

variable {ls ls' more : Set (String × Link)} {u v : String}

lemma Follows.of_left (h : ReflTransGen (Follows ls) u v) :
    ReflTransGen (Follows (ls ∪ more)) u v :=
  Follows.mono Set.subset_union_left h

lemma Follows.of_mid (h : ReflTransGen (Follows ls') u v) :
    ReflTransGen (Follows (ls ∪ (ls' ∪ more))) u v :=
  Follows.mono (fun _ hl => .inr (.inl hl)) h

end Follows

/-- The links that tie loose ends to a record. -/
def tied (exits : List Exit) (target : String) : Set (String × Link) :=
  {l | ∃ x ∈ exits, l = (x.source, ⟨target, .sequence, x.condition⟩)}

lemma tied_append (exits exits' : List Exit) (target : String) :
    tied (exits ++ exits') target = tied exits target ∪ tied exits' target := by
  ext l
  simp [tied, or_and_right, exists_or]

namespace Fragment

/-- One run after another. -/
def followedBy (a b : Fragment) : Fragment :=
  match a.entry, b.entry with
  | none, _ => b
  | some _, none => a
  | some entry, some _ => ⟨some entry, b.exits⟩

/-- The links between one run and another. -/
def seam (a b : Fragment) : Set (String × Link) :=
  match a.entry, b.entry with
  | some _, some target => tied a.exits target
  | _, _ => ∅

end Fragment

/-- A record with the id `u` has a link to `v`. -/
def Leads (records : List Record) (u v : String) : Prop :=
  ∃ r ∈ records, r.id = u ∧ ∃ l ∈ r.links, l.target = v

/-! ### Steps of a walk -/

namespace Walk

/-- `w'` holds the records `rs` and the links `ls` besides those of `w`. -/
structure Adds (w w' : Walk) (rs : List Record) (ls : Set (String × Link)) : Prop where
  records_eq : w'.records = w.records ++ rs
  ties_eq : w'.ties = w.ties ∪ ls

variable {w w' w'' : Walk} {rs rs' : List Record} {ls ls' : Set (String × Link)}

lemma Adds.trans (h : w.Adds w' rs ls) (h' : w'.Adds w'' rs' ls') :
    w.Adds w'' (rs ++ rs') (ls ∪ ls') where
  records_eq := by rw [h'.records_eq, h.records_eq, List.append_assoc]
  ties_eq := by rw [h'.ties_eq, h.ties_eq, Set.union_assoc]

lemma adds_self (w : Walk) : w.Adds w [] ∅ := ⟨by simp, by simp⟩

lemma adds_emit (w : Walk) (r : Record) : w.Adds (w.emit r) [r] ∅ := ⟨rfl, by simp [ties, emit]⟩

lemma adds_emit_advance (w : Walk) (r : Record) : w.Adds (w.emit r).advance [r] ∅ :=
  ⟨rfl, by simp [ties, emit, advance]⟩

lemma adds_warn (w : Walk) (d : Diagnostic) : w.Adds (w.warn d) [] ∅ :=
  ⟨by simp [warn], by simp [ties, warn]⟩

lemma adds_link (w : Walk) (source target : String) (kind : EdgeKind) (condition : Option String) :
    w.Adds (w.link source target kind condition) [] {(source, ⟨target, kind, condition⟩)} where
  records_eq := by simp [link]
  ties_eq := by
    ext l
    simp [ties, link, or_comm]

lemma adds_connect (w : Walk) (exits : List Exit) (target : String) :
    w.Adds (w.connect exits target) [] (tied exits target) := by
  induction exits generalizing w with
  | nil =>
    have hnone : tied [] target = ∅ := by simp [tied]
    rw [hnone]
    exact w.adds_self
  | cons x exits ih =>
    have hfirst : tied [x] target = {(x.source, ⟨target, .sequence, x.condition⟩)} := by
      simp [tied]
    rw [← List.singleton_append, tied_append, hfirst]
    exact (w.adds_link ..).trans (ih _)

@[simp] lemma next_connect (w : Walk) (exits : List Exit) (target : String) :
    (w.connect exits target).next = w.next := by
  induction exits generalizing w with
  | nil => rfl
  | cons x exits ih => exact ih _

lemma fst_join (w : Walk) (a b : Fragment) : (w.join a b).1 = a.followedBy b := by
  unfold join Fragment.followedBy
  split <;> simp_all

@[simp] lemma next_join (w : Walk) (a b : Fragment) : (w.join a b).2.next = w.next := by
  unfold join
  split <;> simp

lemma adds_join (w : Walk) (a b : Fragment) : w.Adds (w.join a b).2 [] (a.seam b) := by
  unfold join Fragment.seam
  cases a.entry with
  | none => exact w.adds_self
  | some entry =>
    cases b.entry with
    | none => exact w.adds_self
    | some target => exact w.adds_connect a.exits target

/-- Runs in a row have an entry if one of them has. -/
lemma isSome_entry_sequence (w : Walk) (fs : List Fragment) :
    (w.sequence fs).1.entry.isSome = fs.any fun f => f.entry.isSome := by
  have hfold : ∀ (fs : List Fragment) (a : Fragment) (w : Walk),
      (fs.foldl (fun x b => x.2.join x.1 b) (a, w)).1.entry.isSome
        = (a.entry.isSome || fs.any fun f => f.entry.isSome) := by
    intro fs
    induction fs with
    | nil => simp
    | cons f fs ih =>
      intro a w
      have hjoin : (w.join a f).1.entry.isSome = (a.entry.isSome || f.entry.isSome) := by
        rw [fst_join, Fragment.followedBy]
        split <;> simp_all
      rw [List.foldl_cons, List.any_cons, ← Bool.or_assoc, ← hjoin]
      exact ih _ _
  exact hfold ..

lemma sequence_pair (w : Walk) (a b : Fragment) : w.sequence [a, b] = w.join a b := rfl

section Adds

variable (h : w.Adds w' rs ls)
include h

lemma Adds.link (source target : String) (kind : EdgeKind) (condition : Option String) :
    w.Adds (w'.link source target kind condition) rs
      (ls ∪ {(source, ⟨target, kind, condition⟩)}) := by
  simpa only [List.append_nil] using h.trans (w'.adds_link source target kind condition)

lemma Adds.connect (exits : List Exit) (target : String) :
    w.Adds (w'.connect exits target) rs (ls ∪ tied exits target) := by
  simpa only [List.append_nil] using h.trans (w'.adds_connect exits target)

lemma Adds.join (a b : Fragment) : w.Adds (w'.join a b).2 rs (ls ∪ a.seam b) := by
  simpa only [List.append_nil] using h.trans (w'.adds_join a b)

end Adds

/-! ### Records with their links -/

lemma map_id_finish (w : Walk) : w.finish.map Record.id = w.records.map Record.id := by
  simp [finish]

/-- A finished record differs from the one emitted by its links alone. -/
lemma exists_of_mem_finish {r : Record} (h : r ∈ w.finish) :
    ∃ r₀ ∈ w.records, r = r₀.withLinks r.links := by
  obtain ⟨r₀, hr₀, rfl⟩ := List.mem_map.mp h
  exact ⟨r₀, hr₀, rfl⟩

/-- The links of a finished record are those laid from its id. -/
lemma mem_links_iff {r : Record} (h : r ∈ w.finish) {l : Link} :
    l ∈ r.links ↔ (r.id, l) ∈ w.ties := by
  obtain ⟨r₀, -, rfl⟩ := List.mem_map.mp h
  simp [ties]

/-- Finished records lead to where the links laid from them lead to. -/
lemma leads_finish (hsource : ∀ l ∈ w.ties, l.1 ∈ w.records.map Record.id) {u v : String}
    (h : ReflTransGen (Follows w.ties) u v) : ReflTransGen (Leads w.finish) u v := by
  refine ReflTransGen.mono ?_ _ _ h
  rintro x y ⟨l, hl, rfl⟩
  have hx := hsource _ hl
  rw [← w.map_id_finish, List.mem_map] at hx
  obtain ⟨r, hr, rfl⟩ := hx
  exact ⟨r, hr, rfl, l, (mem_links_iff hr).mpr hl, rfl⟩

end Walk

/-! ### Ways to lay a run -/

/-- What a dialect makes runs of. -/
structure Manner where
  /-- The id of the record with a number. -/
  idOf : Nat → String
  /-- The records of steps. -/
  Step : Record → Prop
  /-- The records of calls, with what they lead to. -/
  Call : Record → String → Prop
  /-- The records where an error ends the flow; they have no number. -/
  Outlet : Record → Prop
  /-- Whether a step may end the flow. -/
  ends : Prop
  /-- Whether a step may be gone back to. -/
  repeats : Prop

/-- How far a run is laid. -/
inductive Form where
  /-- A whole run. -/
  | run
  /-- A step to which branches may still be added. -/
  | fork
  /-- What handles an error. -/
  | handler
  deriving DecidableEq

/-- The records `rs`, with numbers from the first on and before the second, and the links `ls` make
a run. -/
inductive Laid (m : Manner) :
    Form → Nat → Nat → List Record → Set (String × Link) → Fragment → Prop
  | empty (i : Nat) : Laid m .run i i [] ∅ {}
  | step {i r} (hr : m.Step r) (hid : r.id = m.idOf i) :
    Laid m .run i (i + 1) [r] ∅ (.single r.id)
  | call {i r target} (hr : m.Call r target) (hid : r.id = m.idOf i) :
    Laid m .run i (i + 1) [r] {(r.id, ⟨target, .reference, none⟩)} (.single r.id)
  | finish {i r} (hr : m.Step r) (hid : r.id = m.idOf i) (hends : m.ends) :
    Laid m .run i (i + 1) [r] ∅ (.terminal r.id)
  | after {i j k rs rs' ls ls' entry target exits exits'}
    (hrun : Laid m .run i j rs ls ⟨some entry, exits⟩)
    (hnext : Laid m .run j k rs' ls' ⟨some target, exits'⟩) :
    Laid m .run i k (rs ++ rs') (ls ∪ (ls' ∪ tied exits target)) ⟨some entry, exits'⟩
  | fork {i r} (hr : m.Step r) (hid : r.id = m.idOf i) :
    Laid m .fork i (i + 1) [r] ∅ (.terminal r.id)
  | branch {i j k rs rs' ls ls' head first exits exits' condition}
    (hfork : Laid m .fork i j rs ls ⟨some head, exits⟩)
    (hbody : Laid m .run j k rs' ls' ⟨some first, exits'⟩) :
    Laid m .fork i k (rs ++ rs') (ls ∪ (ls' ∪ {(head, ⟨first, .sequence, condition⟩)}))
      ⟨some head, exits ++ exits'⟩
  | pass {i j rs ls head exits condition} (hfork : Laid m .fork i j rs ls ⟨some head, exits⟩) :
    Laid m .fork i j rs ls ⟨some head, exits ++ [⟨head, condition⟩]⟩
  | close {i j rs ls f} (hfork : Laid m .fork i j rs ls f) (hends : f.exits = [] → m.ends) :
    Laid m .run i j rs ls f
  | again {i j r rs ls first exits} (hr : m.Step r) (hid : r.id = m.idOf i)
    (hbody : Laid m .run (i + 1) j rs ls ⟨some first, exits⟩) (hrepeats : m.repeats) :
    Laid m .run i j (r :: rs) (ls ∪ ({(r.id, ⟨first, .sequence, none⟩)} ∪ tied exits r.id))
      (.single r.id)
  | resume {i j rs ls f} (hrun : Laid m .run i j rs ls f) : Laid m .handler i j rs ls f
  | outlet {i r} (hr : m.Outlet r) (hends : m.ends) : Laid m .handler i i [r] ∅ (.terminal r.id)
  | propagate {i j r rs ls entry exits} (hrun : Laid m .run i j rs ls ⟨some entry, exits⟩)
    (hr : m.Outlet r) (hends : m.ends) :
    Laid m .handler i j (rs ++ [r]) (ls ∪ tied exits r.id) (.terminal entry)
  | handle {i j k rs rs' ls ls' f guarded first exits condition} (hrun : Laid m .run i j rs ls f)
    (hguarded : guarded ∈ rs.map Record.id)
    (hhandler : Laid m .handler j k rs' ls' ⟨some first, exits⟩) :
    Laid m .run i k (rs ++ rs') (ls ∪ (ls' ∪ {(guarded, ⟨first, .error, condition⟩)}))
      ⟨f.entry, f.exits ++ exits⟩

/-- A run with a record for every end of its links. Only calls lead out of it. -/
structure Wired (rs : List Record) (ls : Set (String × Link)) (f : Fragment) :
    Prop where
  entry_mem : ∀ x, f.entry = some x → x ∈ rs.map Record.id
  exits_mem : ∀ x ∈ f.exits, x.source ∈ rs.map Record.id
  source_mem : ∀ l ∈ ls, l.1 ∈ rs.map Record.id
  target_mem : ∀ l ∈ ls, l.2.kind ≠ .reference → l.2.target ∈ rs.map Record.id

/-- A link from a record to one with a higher number, or to where an error ends the flow. -/
def Onward (m : Manner) (l : String × Link) : Prop :=
  ∃ n, l.1 = m.idOf n ∧ ((∃ k, n < k ∧ l.2.target = m.idOf k) ∨ ∃ r, m.Outlet r ∧ l.2.target = r.id)

namespace Laid

variable {m : Manner} {form : Form} {i j k : Nat} {rs rs' : List Record}
  {ls ls' : Set (String × Link)} {f a b : Fragment}

/-- A run without an entry is empty. -/
lemma eq_empty (h : Laid m form i j rs ls f) (hnone : f.entry = none) :
    i = j ∧ rs = [] ∧ ls = ∅ ∧ f = {} := by
  induction h with
  | empty i => exact ⟨rfl, rfl, rfl, rfl⟩
  | close hfork hends ih => exact ih hnone
  | resume hrun ih => exact ih hnone
  | handle hrun hguarded hhandler ih =>
    obtain ⟨-, rfl, -⟩ := ih hnone
    exact absurd hguarded List.not_mem_nil
  | step | call | finish | after | fork | branch | pass | again | outlet | propagate =>
    exact absurd hnone (Option.some_ne_none _)

/-- One run after another, where each may be empty. -/
lemma join (ha : Laid m .run i j rs ls a) (hb : Laid m .run j k rs' ls' b) :
    Laid m .run i k (rs ++ rs') (ls ∪ (ls' ∪ a.seam b)) (a.followedBy b) := by
  obtain ⟨_ | entry, exits⟩ := a
  · obtain ⟨rfl, rfl, rfl, -⟩ := ha.eq_empty rfl
    simpa [Fragment.seam, Fragment.followedBy] using hb
  · obtain ⟨_ | target, exits'⟩ := b
    · obtain ⟨rfl, rfl, rfl, -⟩ := hb.eq_empty rfl
      simpa [Fragment.seam, Fragment.followedBy] using ha
    · exact .after ha hb

/-- A run, which may be empty, that leads to where an error ends the flow. -/
lemma conclude {r : Record} (hrun : Laid m .run i j rs ls f) (hr : m.Outlet r) (hends : m.ends) :
    Laid m .handler i j (rs ++ [r]) (ls ∪ f.seam (.terminal r.id))
      (f.followedBy (.terminal r.id)) := by
  obtain ⟨_ | entry, exits⟩ := f
  · obtain ⟨rfl, rfl, rfl, -⟩ := hrun.eq_empty rfl
    simpa [Fragment.seam, Fragment.followedBy, Fragment.terminal] using .outlet hr hends
  · exact .propagate hrun hr hends

/-! ### What holds of every run -/

lemma wired (h : Laid m form i j rs ls f) : Wired rs ls f := by
  induction h with
  | empty i => constructor <;> simp
  | step | finish | fork | outlet => constructor <;> simp [Fragment.single, Fragment.terminal]
  | call => constructor <;> simp [Fragment.single]
  | after hrun hnext ih ih' => constructor <;> grind [tied, Wired]
  | branch hfork hbody ih ih' => constructor <;> grind [tied, Wired]
  | pass hfork ih => constructor <;> grind [tied, Wired]
  | close hfork hends ih => exact ih
  | again hr hid hbody hrepeats ih => constructor <;> grind [tied, Wired, Fragment.single]
  | resume hrun ih => exact ih
  | propagate hrun hr hends ih => constructor <;> grind [tied, Wired, Fragment.terminal]
  | handle hrun hguarded hhandler ih ih' => constructor <;> grind [tied, Wired]

lemma le (h : Laid m form i j rs ls f) : i ≤ j := by
  induction h with
  | empty | step | call | finish | fork | outlet => omega
  | after hrun hnext ih ih' => exact ih.trans ih'
  | branch hfork hbody ih ih' => exact ih.trans ih'
  | handle hrun hguarded hhandler ih ih' => exact ih.trans ih'
  | again hr hid hbody hrepeats ih => omega
  | pass _ ih | close _ _ ih | resume _ ih | propagate _ _ _ ih => exact ih

/-- A run that is not empty begins with its first number. -/
lemma entry_eq (h : Laid m form i j rs ls f) (hform : form ≠ .handler) {x : String}
    (hx : f.entry = some x) : x = m.idOf i ∧ i < j := by
  induction h with
  | empty | propagate => simp at hx hform
  | step _ hid | call _ hid | finish _ hid | fork _ hid =>
    obtain rfl : _ = x := Option.some.inj hx
    exact ⟨hid, Nat.lt_succ_self _⟩
  | after hrun hnext ih =>
    obtain ⟨hentry, hlt⟩ := ih (by simp) hx
    exact ⟨hentry, hlt.trans_le hnext.le⟩
  | branch hfork hbody ih =>
    obtain ⟨hentry, hlt⟩ := ih (by simp) hx
    exact ⟨hentry, hlt.trans_le hbody.le⟩
  | handle hrun hguarded hhandler ih =>
    obtain ⟨hentry, hlt⟩ := ih (by simp) hx
    exact ⟨hentry, hlt.trans_le hhandler.le⟩
  | pass hfork ih => exact ih hform hx
  | close hfork hends ih => exact ih (by simp) hx
  | again hr hid hbody hrepeats ih =>
    obtain rfl : _ = x := Option.some.inj hx
    exact ⟨hid, hbody.le⟩
  | resume | outlet => exact absurd rfl hform

/-- The records are numbered one after another, apart from those where an error ends the flow. -/
lemma filter_id_eq (h : Laid m form i j rs ls f) {p : String → Bool} (hnumber : ∀ n, p (m.idOf n))
    (houtlet : ∀ r, m.Outlet r → p r.id = false) :
    (rs.map Record.id).filter p = (List.Ico i j).map m.idOf := by
  induction h with
  | empty i => simp
  | step _ hid | call _ hid | finish _ hid | fork _ hid =>
    simp [hid, hnumber, List.Ico.succ_singleton]
  | after hrun hnext ih ih' =>
    rw [List.map_append, List.filter_append, ih, ih', ← List.map_append,
      List.Ico.append_consecutive hrun.le hnext.le]
  | branch hfork hbody ih ih' =>
    rw [List.map_append, List.filter_append, ih, ih', ← List.map_append,
      List.Ico.append_consecutive hfork.le hbody.le]
  | handle hrun hguarded hhandler ih ih' =>
    rw [List.map_append, List.filter_append, ih, ih', ← List.map_append,
      List.Ico.append_consecutive hrun.le hhandler.le]
  | again hr hid hbody hrepeats ih =>
    rw [List.map_cons, hid, List.filter_cons_of_pos (hnumber _), ih, List.Ico.eq_cons hbody.le,
      List.map_cons]
  | pass _ ih | close _ _ ih | resume _ ih => exact ih
  | outlet hr => simp [houtlet _ hr]
  | propagate _ hr _ ih => simpa [houtlet _ hr] using ih

/-- Where errors end no flow, the records are numbered one after another. -/
lemma map_id_eq (h : Laid m form i j rs ls f) (houtlet : ∀ r, ¬ m.Outlet r) :
    rs.map Record.id = (List.Ico i j).map m.idOf := by
  rw [← h.filter_id_eq (p := fun _ => true) (fun _ => rfl) fun r hr => absurd hr (houtlet r),
    List.filter_true]

/-- Every record is that of a step, of a call with its link, or of an error that ends the flow. -/
lemma record_cases (h : Laid m form i j rs ls f) :
    ∀ r ∈ rs, m.Step r ∨ m.Outlet r ∨
      ∃ target, m.Call r target ∧ (r.id, ⟨target, .reference, none⟩) ∈ ls := by
  induction h with
  | empty => simp
  | step hr | finish hr | fork hr => simp [hr]
  | call hr =>
    rintro r (_ | ⟨_, ⟨⟩⟩)
    exact .inr (.inr ⟨_, hr, rfl⟩)
  | outlet hr => simp [hr]
  | pass _ ih | close _ _ ih | resume _ ih => exact ih
  | _ => grind

/-- The references of a run are those of its calls. -/
lemma exists_call (h : Laid m form i j rs ls f) :
    ∀ l ∈ ls, l.2.kind = .reference → ∃ r ∈ rs, r.id = l.1 ∧ m.Call r l.2.target := by
  induction h with
  | empty | step | finish | fork | outlet => simp
  | call hr => simpa using hr
  | pass _ ih | close _ _ ih | resume _ ih => exact ih
  | _ => grind [tied]

/-! ### The order of the sequence -/

lemma exits_lt (h : Laid m form i j rs ls f) :
    ∀ x ∈ f.exits, ∃ n, i ≤ n ∧ n < j ∧ x.source = m.idOf n := by
  induction h with
  | empty | finish | fork | outlet | propagate => simp [Fragment.terminal]
  | step _ hid | call _ hid =>
    rintro x (_ | ⟨_, ⟨⟩⟩)
    exact ⟨_, le_rfl, Nat.lt_succ_self _, hid⟩
  | again _ hid hbody =>
    rintro x (_ | ⟨_, ⟨⟩⟩)
    exact ⟨_, le_rfl, hbody.le, hid⟩
  | pass hfork ih =>
    obtain ⟨hhead, hlt⟩ := hfork.entry_eq (by simp) rfl
    grind
  | close _ _ ih | resume _ ih => exact ih
  | after hrun hnext ih ih' => grind [hrun.le]
  | branch hfork hbody ih ih' => grind [hfork.le, hbody.le]
  | handle hrun hguarded hhandler ih ih' => grind [hrun.le, hhandler.le]

lemma onward (h : Laid m form i j rs ls f) (hrepeats : ¬ m.repeats) :
    ∀ l ∈ ls, l.2.kind = .sequence → Onward m l := by
  induction h with
  | empty | step | finish | fork | outlet => simp
  | call hr => simp
  | again _ _ _ h => exact absurd h hrepeats
  | pass _ ih | close _ _ ih | resume _ ih => exact ih
  | after hrun hnext ih ih' =>
    rintro l (hl | hl | ⟨x, hx, rfl⟩) hkind
    · exact ih l hl hkind
    · exact ih' l hl hkind
    · obtain ⟨n, -, hn, hsource⟩ := hrun.exits_lt x hx
      exact ⟨n, hsource, .inl ⟨_, hn, (hnext.entry_eq (by simp) rfl).1⟩⟩
  | branch hfork hbody ih ih' =>
    rintro l (hl | hl | rfl) hkind
    · exact ih l hl hkind
    · exact ih' l hl hkind
    · obtain ⟨hhead, hlt⟩ := hfork.entry_eq (by simp) rfl
      exact ⟨_, hhead, .inl ⟨_, hlt, (hbody.entry_eq (by simp) rfl).1⟩⟩
  | propagate hrun hr hends ih =>
    rintro l (hl | ⟨x, hx, rfl⟩) hkind
    · exact ih l hl hkind
    · obtain ⟨n, -, -, hsource⟩ := hrun.exits_lt x hx
      exact ⟨n, hsource, .inr ⟨_, hr, rfl⟩⟩
  | handle hrun hguarded hhandler ih ih' =>
    rintro l (hl | hl | rfl) hkind
    · exact ih l hl hkind
    · exact ih' l hl hkind
    · exact absurd hkind (by simp)

/-! ### Ways through a run -/

/-- Where no step ends the flow, a way leads from every record to a loose end, unless a fork has
none yet. -/
lemma to_exit (h : Laid m form i j rs ls f) (hends : ¬ m.ends) :
    ∀ v ∈ rs.map Record.id, (∃ x ∈ f.exits, ReflTransGen (Follows ls) v x.source) ∨
      form = .fork ∧ f = .terminal v := by
  induction h with
  | empty => simp
  | step | call => simp [Fragment.single, ReflTransGen.refl]
  | finish _ _ h | outlet _ h | propagate _ _ h => exact absurd h hends
  | fork => simp
  | resume hrun ih => simpa using ih
  | close hfork h ih =>
    intro v hv
    rcases ih v hv with hexit | ⟨-, rfl⟩
    · exact .inl hexit
    · exact absurd (h rfl) hends
  | pass hfork ih =>
    intro v hv
    rcases ih v hv with ⟨x, hx, hvx⟩ | ⟨-, heq⟩
    · exact .inl ⟨x, List.mem_append_left _ hx, hvx⟩
    · obtain ⟨hhead, -⟩ := Fragment.mk.inj heq
      obtain rfl := Option.some.inj hhead
      exact .inl ⟨_, List.mem_append_right _ (List.mem_singleton_self _), .refl⟩
  | @after _ _ _ rs rs' ls ls' _ target exits exits' hrun hnext ih ih' =>
    have hlater : ∀ v ∈ rs'.map Record.id, ∃ x ∈ exits',
        ReflTransGen (Follows (ls ∪ (ls' ∪ tied exits target))) v x.source := by
      intro v hv
      obtain ⟨x, hx, hvx⟩ := (ih' v hv).resolve_right (by simp)
      exact ⟨x, hx, Follows.of_mid hvx⟩
    intro v hv
    rw [List.map_append, List.mem_append] at hv
    rcases hv with hv | hv
    · -- a loose end of the first run is tied to the second
      obtain ⟨x, hx, hvx⟩ := (ih v hv).resolve_right (by simp)
      obtain ⟨y, hy, htarget⟩ := hlater target (hnext.wired.entry_mem _ rfl)
      have htie : Follows (ls ∪ (ls' ∪ tied exits target)) x.source target :=
        ⟨_, .inr (.inr ⟨x, hx, rfl⟩), rfl⟩
      exact .inl ⟨y, hy, (Follows.of_left hvx).trans (.head htie htarget)⟩
    · exact .inl (hlater v hv)
  | @branch _ _ _ rs rs' ls ls' head first exits exits' condition hfork hbody ih ih' =>
    have hlater : ∀ v ∈ rs'.map Record.id, ∃ x ∈ exits ++ exits', ReflTransGen
        (Follows (ls ∪ (ls' ∪ {(head, ⟨first, .sequence, condition⟩)}))) v x.source := by
      intro v hv
      obtain ⟨x, hx, hvx⟩ := (ih' v hv).resolve_right (by simp)
      exact ⟨x, List.mem_append_right _ hx, Follows.of_mid hvx⟩
    intro v hv
    rw [List.map_append, List.mem_append] at hv
    rcases hv with hv | hv
    · rcases ih v hv with ⟨x, hx, hvx⟩ | ⟨-, heq⟩
      · exact .inl ⟨x, List.mem_append_left _ hx, Follows.of_left hvx⟩
      · -- the first branch
        obtain ⟨hhead, -⟩ := Fragment.mk.inj heq
        obtain rfl := Option.some.inj hhead
        obtain ⟨y, hy, hfirst⟩ := hlater first (hbody.wired.entry_mem _ rfl)
        exact .inl ⟨y, hy, .head ⟨_, .inr (.inr rfl), rfl⟩ hfirst⟩
    · exact .inl (hlater v hv)
  | @again _ _ r rs ls first exits hr hid hbody hrepeats ih =>
    intro v hv
    refine .inl ⟨⟨r.id, none⟩, List.mem_singleton_self _, ?_⟩
    rw [List.map_cons, List.mem_cons] at hv
    rcases hv with rfl | hv
    · exact .refl
    · obtain ⟨x, hx, hvx⟩ := (ih v hv).resolve_right (by simp)
      exact .tail (Follows.of_left hvx) ⟨_, .inr (.inr ⟨x, hx, rfl⟩), rfl⟩
  | handle hrun hguarded hhandler ih ih' =>
    intro v hv
    rw [List.map_append, List.mem_append] at hv
    rcases hv with hv | hv
    · obtain ⟨x, hx, hvx⟩ := (ih v hv).resolve_right (by simp)
      exact .inl ⟨x, List.mem_append_left _ hx, Follows.of_left hvx⟩
    · obtain ⟨x, hx, hvx⟩ := (ih' v hv).resolve_right (by simp)
      exact .inl ⟨x, List.mem_append_right _ hx, Follows.of_mid hvx⟩

/-- Where no step ends the flow, a run that is not empty has a loose end. -/
lemma exits_ne_nil (h : Laid m .run i j rs ls f) (hends : ¬ m.ends) {x : String}
    (hx : f.entry = some x) : f.exits ≠ [] := by
  obtain ⟨y, hy, -⟩ := (h.to_exit hends x (h.wired.entry_mem x hx)).resolve_right (by simp)
  exact List.ne_nil_of_mem hy

/-- Where no step ends the flow, a way leads from the entry to every record. -/
lemma from_entry (h : Laid m form i j rs ls f) (hends : ¬ m.ends) :
    ∀ v ∈ rs.map Record.id, ∃ x, f.entry = some x ∧ ReflTransGen (Follows ls) x v := by
  induction h with
  | empty => simp
  | step | call | fork => simp [Fragment.single, Fragment.terminal, ReflTransGen.refl]
  | finish _ _ h | outlet _ h | propagate _ _ h => exact absurd h hends
  | pass _ ih | close _ _ ih | resume _ ih => exact ih
  | after hrun hnext ih ih' =>
    intro v hv
    rw [List.map_append, List.mem_append] at hv
    refine ⟨_, rfl, ?_⟩
    rcases hv with hv | hv
    · obtain ⟨x, ⟨⟩, hxv⟩ := ih v hv
      exact Follows.of_left hxv
    · -- through a loose end of the first run
      obtain ⟨y, hy, hxy⟩ := (hrun.to_exit hends _ (hrun.wired.entry_mem _ rfl)).resolve_right
        (by simp)
      obtain ⟨x, ⟨⟩, hxv⟩ := ih' v hv
      exact (Follows.of_left hxy).trans
        (.head ⟨_, .inr (.inr ⟨y, hy, rfl⟩), rfl⟩ (Follows.of_mid hxv))
  | branch hfork hbody ih ih' =>
    intro v hv
    rw [List.map_append, List.mem_append] at hv
    refine ⟨_, rfl, ?_⟩
    rcases hv with hv | hv
    · obtain ⟨x, ⟨⟩, hxv⟩ := ih v hv
      exact Follows.of_left hxv
    · obtain ⟨x, ⟨⟩, hxv⟩ := ih' v hv
      exact .head ⟨_, .inr (.inr rfl), rfl⟩ (Follows.of_mid hxv)
  | again hr hid hbody hrepeats ih =>
    intro v hv
    rw [List.map_cons, List.mem_cons] at hv
    refine ⟨_, rfl, ?_⟩
    rcases hv with rfl | hv
    · exact .refl
    · obtain ⟨x, ⟨⟩, hxv⟩ := ih v hv
      exact .head ⟨_, .inr (.inl rfl), rfl⟩ (Follows.of_left hxv)
  | handle hrun hguarded hhandler ih ih' =>
    intro v hv
    rw [List.map_append, List.mem_append] at hv
    rcases hv with hv | hv
    · obtain ⟨x, hx, hxv⟩ := ih v hv
      exact ⟨x, hx, Follows.of_left hxv⟩
    · -- from the record that is guarded
      obtain ⟨x, hx, hguard⟩ := ih _ hguarded
      obtain ⟨first, ⟨⟩, hfirst⟩ := ih' v hv
      exact ⟨x, hx, (Follows.of_left hguard).trans
        (.head ⟨_, .inr (.inr rfl), rfl⟩ (Follows.of_mid hfirst))⟩

end Laid

/-! ### Walks that lay runs -/

/-- On the way from `w` to `w'` the records `rs` and the links `ls`, numbered from `i` on, are made
into the run `f`. -/
def Lays (m : Manner) (form : Form) (i : Nat) (rs : List Record) (ls : Set (String × Link))
    (w w' : Walk) (f : Fragment) : Prop :=
  ∃ rs' ls', w.Adds w' rs' ls' ∧ Laid m form i w'.next (rs ++ rs') (ls ∪ ls') f

section Lays

variable {m : Manner} {form : Form} {i : Nat} {rs rs' : List Record} {ls ls' : Set (String × Link)}
  {w w' w'' : Walk} {f : Fragment}

lemma Laid.lays (h : Laid m form i w.next rs ls f) : Lays m form i rs ls w w f :=
  ⟨[], ∅, w.adds_self, by simpa using h⟩

lemma Lays.of_adds (hadds : w.Adds w' rs' ls') (h : Lays m form i (rs ++ rs') (ls ∪ ls') w' w'' f) :
    Lays m form i rs ls w w'' f := by
  obtain ⟨rs'', ls'', hadds', hlaid⟩ := h
  refine ⟨rs' ++ rs'', ls' ∪ ls'', hadds.trans hadds', ?_⟩
  rwa [← List.append_assoc, ← Set.union_assoc]

lemma Lays.of_nil (hadds : w.Adds w' rs ls) (h : Lays m form i rs ls w' w'' f) :
    Lays m form i [] ∅ w w'' f :=
  .of_adds hadds (by simpa using h)

lemma Lays.of_warn {d : Diagnostic} (h : Lays m form i rs ls (w.warn d) w' f) :
    Lays m form i rs ls w w' f :=
  .of_adds (w.adds_warn d) (by simpa using h)

/-- What a walk lays from nothing. -/
lemma lays_nil_iff : Lays m form i [] ∅ w w' f ↔
    ∃ rs ls, w.Adds w' rs ls ∧ Laid m form i w'.next rs ls f := by
  simp [Lays]

/-- A handler is laid beside a run, and gets a link unless it is empty. -/
lemma Laid.lays_handle {guarded : String} (condition : Option String) {handler : Fragment}
    (hrun : Laid m .run i w.next rs ls f) (hguarded : guarded ∈ rs.map Record.id)
    (hadds : w.Adds w' rs' ls') (hhandler : Laid m .handler w.next w'.next rs' ls' handler) :
    Lays m .run i rs ls w
      (match handler.entry with
        | some first => w'.link guarded first .error condition
        | none => w')
      ⟨f.entry, f.exits ++ handler.exits⟩ := by
  obtain ⟨_ | first, exits⟩ := handler
  · obtain ⟨hnext, rfl, rfl, hnone⟩ := hhandler.eq_empty rfl
    obtain rfl : exits = [] := (Fragment.mk.inj hnone).2
    exact ⟨[], ∅, hadds, by simpa [← hnext] using hrun⟩
  · exact ⟨_, _, hadds.link guarded first .error condition, hrun.handle hguarded hhandler⟩

/-! ### Runs in a row -/

/-- Runs that are numbered one after another and not yet tied. -/
inductive LaidAll (m : Manner) :
    Nat → Nat → List Record → Set (String × Link) → List Fragment → Prop
  | nil (i : Nat) : LaidAll m i i [] ∅ []
  | cons {i j k rs rs' ls ls' f fs} (hrun : Laid m .run i j rs ls f)
    (hrest : LaidAll m j k rs' ls' fs) : LaidAll m i k (rs ++ rs') (ls ∪ ls') (f :: fs)

lemma LaidAll.exists_foldl {j k : Nat} {fs : List Fragment} {before : Fragment} (w : Walk)
    (h : LaidAll m j k rs' ls' fs) (hbefore : Laid m .run i j rs ls before) :
    ∃ more, w.Adds (fs.foldl (fun x b => x.2.join x.1 b) (before, w)).2 [] more ∧
      (fs.foldl (fun x b => x.2.join x.1 b) (before, w)).2.next = w.next ∧
      Laid m .run i k (rs ++ rs') (ls ∪ ls' ∪ more)
        (fs.foldl (fun x b => x.2.join x.1 b) (before, w)).1 := by
  induction h generalizing before w rs ls with
  | nil i => exact ⟨∅, w.adds_self, rfl, by simpa using hbefore⟩
  | @cons _ j _ rs₁ rs₂ ls₁ ls₂ f fs hrun hrest ih =>
    have hjoin : Laid m .run i j (rs ++ rs₁) (ls ∪ (ls₁ ∪ before.seam f)) (w.join before f).1 := by
      rw [Walk.fst_join]
      exact hbefore.join hrun
    obtain ⟨more, hadds, hnext, hlaid⟩ := ih (w.join before f).2 hjoin
    refine ⟨before.seam f ∪ more, (w.adds_join before f).trans hadds, ?_, ?_⟩
    · exact hnext.trans (w.next_join before f)
    · have hlinks : ls ∪ (ls₁ ∪ ls₂) ∪ (before.seam f ∪ more)
          = ls ∪ (ls₁ ∪ before.seam f) ∪ ls₂ ∪ more := by ac_rfl
      rw [← List.append_assoc, hlinks]
      exact hlaid

/-- Runs that a walk lays in a row are tied into one. -/
lemma LaidAll.exists_sequence {fs : List Fragment} (hadds : w.Adds w' rs ls)
    (h : LaidAll m w.next w'.next rs ls fs) :
    ∃ rs ls, w.Adds (w'.sequence fs).2 rs ls ∧
      Laid m .run w.next (w'.sequence fs).2.next rs ls (w'.sequence fs).1 := by
  obtain ⟨more, hmore, hnext, hlaid⟩ := h.exists_foldl w' (.empty _)
  rw [List.nil_append, Set.empty_union, ← hnext] at hlaid
  refine ⟨rs, ls ∪ more, ?_, hlaid⟩
  rw [← List.append_nil rs]
  exact hadds.trans hmore

end Lays

end Source

end IntegrationFlow
