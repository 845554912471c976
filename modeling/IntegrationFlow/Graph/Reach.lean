/-!
# Breadth-first search

The vertices that can be reached from some others, the nearest first.
-/

namespace IntegrationFlow.Search

/-- The vertices not met yet and those that wait for their turn. -/
structure Frontier where
  unseen : List String
  queue : List String := []

namespace Frontier

/-- Puts a vertex in line, unless it has been met. -/
def discover (f : Frontier) (v : String) : Frontier :=
  if v ∈ f.unseen then ⟨f.unseen.filter (· ≠ v), f.queue ++ [v]⟩ else f

theorem measure_discover (f : Frontier) (v : String) :
    (f.discover v).unseen.length + (f.discover v).queue.length ≤
      f.unseen.length + f.queue.length := by
  unfold discover
  split
  · rename_i h
    have : (f.unseen.filter (· ≠ v)).length < f.unseen.length :=
      List.length_filter_lt_length_iff_exists.mpr ⟨v, h, by simp⟩
    simp only [List.length_append, List.length_singleton]
    omega
  · exact Nat.le_refl _

theorem measure_foldl_discover (f : Frontier) (vs : List String) :
    (vs.foldl discover f).unseen.length + (vs.foldl discover f).queue.length ≤
      f.unseen.length + f.queue.length := by
  induction vs generalizing f with
  | nil => simp
  | cons v vs ih => exact Nat.le_trans (ih _) (measure_discover f v)

/-- The vertices in the order in which they have their turn. Each puts those in line that it leads
to. -/
def walk (next : String → List String) : Frontier → List String
  | ⟨_, []⟩ => []
  | ⟨unseen, v :: queue⟩ => v :: walk next ((next v).foldl discover ⟨unseen, queue⟩)
termination_by f => f.unseen.length + f.queue.length
decreasing_by
  have := measure_foldl_discover ⟨unseen, queue⟩ (next v)
  simp only [List.length_cons] at this ⊢
  omega

end Frontier

/-- The vertices that can be reached from `starts` without leaving `vertices`, nearest first. -/
def reach (next : String → List String) (vertices starts : List String) : List String :=
  (starts.foldl Frontier.discover ⟨vertices, []⟩).walk next

end IntegrationFlow.Search
