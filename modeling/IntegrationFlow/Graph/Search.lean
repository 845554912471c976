/-!
# Depth-first search

A search follows the edges of a directed graph from vertex to vertex and notes each edge that leads
back to the path it is on. Such an edge closes a cycle, and a graph without any has no cycle among
the vertices that were reached.
-/

namespace IntegrationFlow.Search

variable {α ε : Type} [DecidableEq α]

/-- A vertex on the path with the edges out of it that are still to be followed. -/
structure Frame (α ε : Type) where
  vertex : α
  pending : List ε

/-- An edge that leads back to the path, with the part of the path from its target to its
source. -/
structure Closing (α ε : Type) where
  edge : ε
  path : List α

/-- The state of a search: the vertices not met yet, the path with its last vertex first, and the
edges noted so far. -/
structure State (α ε : Type) where
  unseen : List α
  path : List (Frame α ε) := []
  closings : List (Closing α ε) := []

namespace State

/-- The number of steps that the path takes if nothing new is met. -/
def work (s : State α ε) : Nat := s.path.foldr (fun f n => f.pending.length + 1 + n) 0

/-- The vertices of the path from `v` to its end. -/
def pathFrom (path : List (Frame α ε)) (v : α) : List α :=
  v :: ((path.takeWhile fun f => f.vertex ≠ v).map Frame.vertex).reverse

/-- Follows one edge, or leaves the last vertex of the path when no edge is left. -/
def step? (out : α → List ε) (target : ε → α) (s : State α ε) : Option (State α ε) :=
  match s.path with
  | [] => none
  | ⟨_, []⟩ :: rest => some { s with path := rest }
  | ⟨v, e :: pending⟩ :: rest =>
    let path := ⟨v, pending⟩ :: rest
    if path.any fun f => f.vertex = target e then
      some { s with path, closings := s.closings ++ [⟨e, pathFrom path (target e)⟩] }
    else if target e ∈ s.unseen then
      some
        { s with
          unseen := s.unseen.filter (· ≠ target e)
          path := ⟨target e, out (target e)⟩ :: path }
    else some { s with path }

/-- A step meets a new vertex or leaves less to do. -/
theorem step?_decreasing {out : α → List ε} {target : ε → α} {s t : State α ε}
    (h : s.step? out target = some t) :
    t.unseen.length < s.unseen.length ∨
      t.unseen.length = s.unseen.length ∧ t.work < s.work := by
  unfold step? at h
  split at h
  · simp at h
  · rename_i v rest hp
    cases h
    right
    simp [work, hp]
  · rename_i v e pending rest hp
    simp only at h
    split at h
    · cases h
      right
      simp [work, hp]
    · split at h
      · rename_i hmem
        cases h
        left
        exact List.length_filter_lt_length_iff_exists.mpr ⟨_, hmem, by simp⟩
      · cases h
        right
        simp [work, hp]

/-- Follows edges until the path is empty. -/
def run (out : α → List ε) (target : ε → α) (s : State α ε) : State α ε :=
  match _ : s.step? out target with
  | none => s
  | some t => run out target t
termination_by (s.unseen.length, s.work)
decreasing_by
  rcases step?_decreasing ‹_› with h | ⟨h, h'⟩
  · exact Prod.Lex.left _ _ h
  · rw [h]
    exact Prod.Lex.right _ h'

/-- Searches from a vertex, unless it has been met. -/
def explore (out : α → List ε) (target : ε → α) (s : State α ε) (root : α) : State α ε :=
  if root ∈ s.unseen then
    run out target { s with unseen := s.unseen.filter (· ≠ root), path := [⟨root, out root⟩] }
  else s

end State

/-- The edges that close a cycle, in the order in which a search from each of the roots in turn
finds them. It does not leave the vertices listed. -/
def closings (out : α → List ε) (target : ε → α) (vertices roots : List α) :
    List (Closing α ε) :=
  (roots.foldl (State.explore out target) ⟨vertices, [], []⟩).closings

end IntegrationFlow.Search
