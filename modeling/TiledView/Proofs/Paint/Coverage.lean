import TiledView.Proofs.Paint.Frame
import TiledView.Proofs.Plane.Regions

/-!
# The pixels that damage covers

`Damage.Covers d bounds p` says that pixel `p` of a surface waits for the next paint pass.  Damage
may be recorded in any number of rectangles, merged into a bounding box or promoted to everything;
none of it uncovers a pixel.

* `Damage.covers_mark`, `Damage.covers_mark_self`, `Damage.covers_markAll` — recording rectangles
  covers them and uncovers nothing.
* `Damage.covers_shift` — damage follows content that scrolls.
* `Damage.exists_mem_work` — a paint pass works through everything that is covered.

What scrolling within an area does not bring along is the strip that it uncovers
(`Painter.mem_uncovered`).
-/

namespace TiledView

namespace Damage

variable {d : Damage} {bounds rect area : Rect .device} {rects : List (Rect .device)}
  {p : Point .device}

/-- Pixel `p` waits for the next paint pass. -/
def Covers (d : Damage) (bounds : Rect .device) (p : Point .device) : Prop :=
  ∃ rect ∈ d.toList bounds, p ∈ rect

lemma covers_everything (hp : p ∈ bounds) : everything.Covers bounds p :=
  ⟨bounds, List.mem_singleton_self bounds, hp⟩

lemma not_covers_nothing : ¬ nothing.Covers bounds p :=
  fun ⟨_, mem, _⟩ => List.not_mem_nil mem

/-! ## Recording -/

lemma mem_foldl_union_of_mem (box : Rect .device) (hp : p ∈ box) (rects : List (Rect .device)) :
    p ∈ rects.foldl Rect.union box := by
  induction rects generalizing box with
  | nil => exact hp
  | cons rect rects ih => exact ih _ (Rect.mem_union_left hp)

lemma mem_foldl_union (box : Rect .device) (hrect : rect ∈ rects) (hp : p ∈ rect) :
    p ∈ rects.foldl Rect.union box := by
  induction rects generalizing box with
  | nil => exact absurd hrect List.not_mem_nil
  | cons first rects ih =>
      rcases List.mem_cons.1 hrect with rfl | later
      · exact mem_foldl_union_of_mem _ (Rect.mem_union_right hp) rects
      · exact ih _ later

lemma mem_boundingBox (hrect : rect ∈ rects) (hp : p ∈ rect) : p ∈ boundingBox rects :=
  mem_foldl_union .empty hrect hp

/-- What the list and the new rectangle cover together, the new list covers. -/
lemma exists_mem_insert {other : Rect .device} (mem : other ∈ rects ++ [rect]) (hp : p ∈ other) :
    ∃ r ∈ insert rects rect, p ∈ r := by
  simp only [insert]
  split_ifs with covered full
  · rcases List.mem_append.1 mem with old | new
    · exact ⟨other, old, hp⟩
    · obtain ⟨existing, hexisting, contains⟩ := List.any_eq_true.1 covered
      rw [List.mem_singleton] at new
      subst new
      exact ⟨existing, hexisting, Rect.mem_of_containsRect contains hp⟩
  · exact ⟨_, List.mem_singleton_self _, mem_boundingBox mem hp⟩
  · exact ⟨other, mem, hp⟩

/-- The three things that `mark` can do, for damage that is already clipped. -/
lemma covers_mark_of_mem (hbounds : p ∈ bounds)
    (h : d.Covers bounds p ∨ p ∈ rect.intersect bounds) : (d.mark rect bounds).Covers bounds p := by
  simp only [mark]
  split_ifs with empty whole
  · exact h.resolve_right (Rect.not_mem_of_isEmpty empty)
  · exact covers_everything hbounds
  · cases d with
    | nothing =>
        have hp := h.resolve_left not_covers_nothing
        exact ⟨_, List.mem_singleton_self _, hp⟩
    | everything => exact covers_everything hbounds
    | listed rects =>
        rcases h with ⟨other, old, hp⟩ | hp
        · exact exists_mem_insert (List.mem_append_left _ old) hp
        · exact exists_mem_insert (List.mem_append_right _ (List.mem_singleton_self _)) hp

/-- Recording a rectangle uncovers nothing. -/
lemma covers_mark (hbounds : p ∈ bounds) (h : d.Covers bounds p) (rect : Rect .device) :
    (d.mark rect bounds).Covers bounds p := covers_mark_of_mem hbounds (.inl h)

/-- Recording a rectangle covers it. -/
lemma covers_mark_self (hbounds : p ∈ bounds) (hp : p ∈ rect) :
    (d.mark rect bounds).Covers bounds p :=
  covers_mark_of_mem hbounds (.inr (Rect.mem_intersect.2 ⟨hp, hbounds⟩))

/-- The damage after `rects` have been recorded, one after the other. -/
def markAll (d : Damage) (rects : List (Rect .device)) (bounds : Rect .device) : Damage :=
  rects.foldl (fun d rect => d.mark rect bounds) d

/-- **No pixel is lost.** -/
theorem covers_markAll (hbounds : p ∈ bounds)
    (h : d.Covers bounds p ∨ ∃ rect ∈ rects, p ∈ rect) :
    (d.markAll rects bounds).Covers bounds p := by
  induction rects generalizing d with
  | nil =>
      rcases h with old | ⟨rect, mem, -⟩
      · exact old
      · exact absurd mem List.not_mem_nil
  | cons rect rects ih =>
      refine ih ?_
      rcases h with old | ⟨other, mem, hp⟩
      · exact .inl (covers_mark hbounds old rect)
      · rcases List.mem_cons.1 mem with rfl | later
        · exact .inl (covers_mark_self hbounds hp)
        · exact .inr ⟨other, later, hp⟩

/-- There is no more damage than to everything. -/
lemma mark_everything (rect bounds : Rect .device) : everything.mark rect bounds = everything := by
  simp only [mark]
  split_ifs <;> rfl

/-! ## Scrolling -/

/-- Where content moves to, its damage moves along. -/
lemma covers_shift {dx dy : Int} (hbounds : p ∈ bounds) (harea : p ∈ area)
    (hsource : p.offset (-dx) (-dy) ∈ area) (h : d.Covers bounds (p.offset (-dx) (-dy))) :
    (d.shift area dx dy).Covers bounds p := by
  cases d with
  | nothing => exact absurd h not_covers_nothing
  | everything => exact covers_everything hbounds
  | listed rects =>
      obtain ⟨rect, mem, hp⟩ := h
      have meets : rect.intersects area = true := Rect.intersects_iff.2 ⟨_, hp, hsource⟩
      have moved : p ∈ (rect.offset dx dy).intersect area :=
        Rect.mem_intersect.2 ⟨Rect.mem_offset.2 hp, harea⟩
      have hne : ((rect.offset dx dy).intersect area).isEmpty = false :=
        Rect.isEmpty_eq_false_iff.2 ⟨p, moved⟩
      simp only [shift]
      split
      · next none =>
        have filtered := List.filter_eq_nil_iff.1 none ((rect.offset dx dy).intersect area)
          (List.mem_map.2 ⟨rect, mem, if_pos meets⟩)
        rw [hne] at filtered
        exact absurd rfl filtered
      · refine ⟨(rect.offset dx dy).intersect area, ?_, moved⟩
        refine List.mem_filter.2 ⟨List.mem_map.2 ⟨rect, mem, if_pos meets⟩, ?_⟩
        rw [hne]
        rfl

/-! ## Painting -/

/-- A paint pass works through all pixels that wait for it. -/
lemma exists_mem_work (hbounds : p ∈ bounds) (h : d.Covers bounds p) :
    ∃ rect ∈ d.work bounds, p ∈ rect := by
  cases d with
  | nothing => exact absurd h not_covers_nothing
  | everything =>
      have hne : bounds.isEmpty = false := Rect.isEmpty_eq_false_iff.2 ⟨p, hbounds⟩
      refine ⟨bounds, ?_, hbounds⟩
      rw [work, hne]
      exact List.mem_singleton_self bounds
  | listed rects => exact h

end Damage

namespace Painter

/-- A pixel to which nothing of the area moves lies in the strip that is uncovered. -/
lemma mem_uncovered {area : Rect .device} {shift : AxisShift} {p : Point .device}
    (hp : p ∈ area) (outside : p.offset (-(offsetOf shift).1) (-(offsetOf shift).2) ∉ area) :
    p ∈ uncovered area shift := by
  obtain ⟨axis, delta⟩ := shift
  simp only [Rect.mem_def, Point.x_offset, Point.y_offset, Rect.right, Rect.bottom] at hp outside
  cases axis with
  | horizontal =>
      simp only [offsetOf] at outside
      simp only [uncovered]
      split_ifs <;> simp only [Rect.mem_def, Rect.right, Rect.bottom, Rect.withWidth] <;> omega
  | vertical =>
      simp only [offsetOf] at outside
      simp only [uncovered]
      split_ifs <;> simp only [Rect.mem_def, Rect.right, Rect.bottom, Rect.withHeight] <;> omega

end Painter

end TiledView
