import Mathlib
import IntegrationFlow.Layout.Geometry

/-!
# Segments and boxes

Diagrams with exact coordinates. A connector is drawn as the segments between its points. A segment
stays out of a box if both its ends lie beyond the same side of the box; the two other cases that
routes need are a level segment that spans a box and a segment that rises from below it.
-/

namespace IntegrationFlow.Layout

instance : Coordinate ℚ where
  ofNat n := n
  isFinite _ := true
  same x y := x == y
  decLt := inferInstance
  decLe := inferInstance

lemma half_eq (x : ℚ) : half x = x / 2 := rfl

namespace Bounds

lemma right_eq (b : Bounds ℚ) : b.right = b.x + b.width := rfl

lemma bottom_eq (b : Bounds ℚ) : b.bottom = b.y + b.height := rfl

/-- A point is inside a box, and not on its border. -/
def Holds (b : Bounds ℚ) (p : Point ℚ) : Prop :=
  (b.x < p.x ∧ p.x < b.right) ∧ b.y < p.y ∧ p.y < b.bottom

end Bounds

/-! ### Segments -/

/-- The point that is reached after a part `t` of the way from `p` to `q`. -/
def Point.toward (p q : Point ℚ) (t : ℚ) : Point ℚ :=
  ⟨p.x + t * (q.x - p.x), p.y + t * (q.y - p.y)⟩

/-- The segment between two points meets the inside of a box. -/
def Bounds.Hit (b : Bounds ℚ) (p q : Point ℚ) : Prop :=
  ∃ t, (0 ≤ t ∧ t ≤ 1) ∧ b.Holds (p.toward q t)

/-- A line through points meets the inside of a box. -/
def Bounds.Crossed (b : Bounds ℚ) : List (Point ℚ) → Prop
  | p :: q :: points => b.Hit p q ∨ b.Crossed (q :: points)
  | _ => False

/-- Two points lie beyond the same side of a box. -/
def Bounds.Beside (b : Bounds ℚ) (p q : Point ℚ) : Prop :=
  (p.x ≤ b.x ∧ q.x ≤ b.x) ∨ (b.right ≤ p.x ∧ b.right ≤ q.x) ∨
    (p.y ≤ b.y ∧ q.y ≤ b.y) ∨ (b.bottom ≤ p.y ∧ b.bottom ≤ q.y)

namespace Bounds

variable {b : Bounds ℚ} {p q : Point ℚ}

lemma hit_comm : b.Hit p q ↔ b.Hit q p := by
  have hturn : ∀ p q : Point ℚ, b.Hit p q → b.Hit q p := by
    rintro p q ⟨t, ⟨h0, h1⟩, h⟩
    have heq : q.toward p (1 - t) = p.toward q t := by
      simp only [Point.toward, Point.mk.injEq]
      constructor <;> ring
    exact ⟨1 - t, ⟨by linarith, by linarith⟩, heq ▸ h⟩
  exact ⟨hturn p q, hturn q p⟩

/-- Between two numbers lies nothing that is beyond them both. -/
lemma toward_le {x y t limit : ℚ} (ht : 0 ≤ t ∧ t ≤ 1) (hx : x ≤ limit) (hy : y ≤ limit) :
    x + t * (y - x) ≤ limit :=
  calc x + t * (y - x) = (1 - t) * x + t * y := by ring
    _ ≤ (1 - t) * limit + t * limit :=
      add_le_add (mul_le_mul_of_nonneg_left hx (by linarith [ht.2]))
        (mul_le_mul_of_nonneg_left hy ht.1)
    _ = limit := by ring

lemma le_toward {x y t limit : ℚ} (ht : 0 ≤ t ∧ t ≤ 1) (hx : limit ≤ x) (hy : limit ≤ y) :
    limit ≤ x + t * (y - x) := by
  have h := toward_le ht (neg_le_neg hx) (neg_le_neg hy)
  linarith

/-- A segment with both ends beyond one side of a box does not meet its inside. -/
lemma Beside.not_hit (h : b.Beside p q) : ¬ b.Hit p q := by
  rintro ⟨t, ht, ⟨hleft, hright⟩, htop, hbottom⟩
  rcases h with ⟨hp, hq⟩ | ⟨hp, hq⟩ | ⟨hp, hq⟩ | ⟨hp, hq⟩
  · exact (toward_le ht hp hq).not_gt hleft
  · exact (le_toward ht hp hq).not_gt hright
  · exact (toward_le ht hp hq).not_gt htop
  · exact (le_toward ht hp hq).not_gt hbottom

/-- A level segment from the left of a box to its right meets the inside if it is at the right
height. -/
lemma hit_level_iff {x x' y : ℚ} (hwidth : 0 < b.width) (hx : x ≤ b.x) (hx' : b.right ≤ x') :
    b.Hit ⟨x, y⟩ ⟨x', y⟩ ↔ b.y < y ∧ y < b.bottom := by
  rw [right_eq] at hx'
  constructor
  · rintro ⟨t, -, -, htop, hbottom⟩
    simp only [Point.toward, sub_self, mul_zero, add_zero] at htop hbottom
    exact ⟨htop, hbottom⟩
  · rintro ⟨htop, hbottom⟩
    have hlength : 0 < x' - x := by linarith
    -- The segment meets the vertical axis of the box.
    have hmid : (b.x + b.width / 2 - x) / (x' - x) * (x' - x) = b.x + b.width / 2 - x :=
      div_mul_cancel₀ _ hlength.ne'
    refine ⟨(b.x + b.width / 2 - x) / (x' - x), ⟨?_, ?_⟩, ⟨?_, ?_⟩, ?_, ?_⟩
    · exact div_nonneg (by linarith) hlength.le
    · exact (div_le_one hlength).mpr (by linarith)
    · change b.x < x + _ * (x' - x)
      linarith
    · change x + _ * (x' - x) < b.x + b.width
      linarith
    · change b.y < y + _ * (y - y)
      linarith [sub_self y]
    · change y + _ * (y - y) < b.bottom
      linarith [sub_self y]

/-- A segment that starts below a box, to the right of its left side, and goes `rise` upwards while
it goes `run` to the right meets the inside if it reaches the lower side of the box in time. -/
lemma hit_rise_iff {run rise : ℚ} (hheight : 0 < b.height) (hrun : 0 < run) (hrise : 0 ≤ rise)
    (hx : b.x ≤ p.x) (hy : b.bottom ≤ p.y) :
    b.Hit p ⟨p.x + run, p.y - rise⟩ ↔
      (p.y - b.bottom) * run < rise * min run (b.right - p.x) := by
  have hway : ∀ t, p.toward ⟨p.x + run, p.y - rise⟩ t = ⟨p.x + t * run, p.y - t * rise⟩ := by
    intro t
    simp only [Point.toward, Point.mk.injEq]
    constructor <;> ring
  have hbelow : 0 ≤ p.y - b.bottom := by linarith
  simp only [Hit, hway, Holds]
  constructor
  · rintro ⟨t, ⟨h0, h1⟩, ⟨-, hright⟩, -, hbottom⟩
    have hwithin : t * run ≤ min run (b.right - p.x) :=
      le_min (mul_le_of_le_one_left hrun.le h1) (by linarith)
    calc (p.y - b.bottom) * run < t * rise * run := by
          exact mul_lt_mul_of_pos_right (by linarith) hrun
      _ = rise * (t * run) := by ring
      _ ≤ rise * min run (b.right - p.x) := mul_le_mul_of_nonneg_left hwithin hrise
  · intro h
    have hpos : 0 < rise := by
      refine hrise.lt_of_ne fun hzero => ?_
      rw [← hzero, zero_mul] at h
      exact (mul_nonneg hbelow hrun.le).not_gt h
    have hend : (p.y - b.bottom) * run < rise * run :=
      h.trans_le (mul_le_mul_of_nonneg_left (min_le_left _ _) hrise)
    have hside : (p.y - b.bottom) * run < rise * (b.right - p.x) :=
      h.trans_le (mul_le_mul_of_nonneg_left (min_le_right _ _) hrise)
    -- A height just above the lower side is reached before the end of the segment and before the
    -- right side.
    obtain ⟨up, hlow, hhigh⟩ := exists_between (lt_min (lt_min
      (lt_add_of_pos_right (p.y - b.bottom) hheight) (lt_of_mul_lt_mul_right hend hrun.le))
      ((lt_div_iff₀ hrun).mpr hside))
    obtain ⟨hhigh, hright⟩ := lt_min_iff.mp hhigh
    obtain ⟨htop, hrises⟩ := lt_min_iff.mp hhigh
    have hup : 0 < up := hbelow.trans_lt hlow
    have hheightAt : up / rise * rise = up := div_mul_cancel₀ _ hpos.ne'
    have hrightAt : up / rise * run < b.right - p.x := by
      rw [div_mul_eq_mul_div, div_lt_iff₀ hpos, mul_comm _ rise]
      exact (lt_div_iff₀ hrun).mp hright
    have hleftAt : 0 < up / rise * run := mul_pos (div_pos hup hpos) hrun
    have hbottom := b.bottom_eq
    exact ⟨up / rise, ⟨(div_pos hup hpos).le, (div_le_one hpos).mpr hrises.le⟩,
      ⟨by linarith, by linarith⟩, by linarith, by linarith⟩

end Bounds

end IntegrationFlow.Layout
