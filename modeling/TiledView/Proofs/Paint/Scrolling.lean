import TiledView.Proofs.Paint.Coverage
import TiledView.Proofs.Paint.Reachable

/-!
# What scrolling does to damage

Content that moves within an area takes its damage along, and the strip that it uncovers becomes
damage.  Within the area nothing gets lost.  Next to it something may: a recorded rectangle that
meets the area moves as a whole, and what sticks out of the area is cut off instead of staying where
it is.

* `Damage.Severs` — all recorded rectangles around a pixel are of this kind.  Outside of the area,
  these are the pixels that a move uncovers (`Damage.covers_shift_iff`).
* `Damage.covers_mark_iff` — what is covered after a rectangle has been recorded: what was before,
  the rectangle, and all of the bounding box if the list collapses into it (`Damage.Merges`).
* `Painter.scroll_damage` — which pixels are damaged after a scroll request.
-/

namespace TiledView

namespace Damage

variable {d : Damage} {bounds rect area : Rect .device} {rects : List (Rect .device)}
  {p : Point .device} {dx dy : Int}

/-! ## Moving -/

/-- The recorded rectangles around `p` all meet `area`, so that none of them stays where it is when
the content of the area moves. -/
def Severs (d : Damage) (area : Rect .device) (p : Point .device) : Prop :=
  match d with
  | .nothing | .everything => False
  | .listed rects => ∀ rect ∈ rects, p ∈ rect → rect.intersects area = true

lemma covers_listed_iff : (listed rects).Covers bounds p ↔ ∃ rect ∈ rects, p ∈ rect := Iff.rfl

lemma covers_shift_listed_iff : ((listed rects).shift area dx dy).Covers bounds p ↔
    ∃ rect ∈ rects,
      p ∈ if rect.intersects area then (rect.offset dx dy).intersect area else rect := by
  generalize hmove : (fun rect : Rect .device =>
    if rect.intersects area = true then (rect.offset dx dy).intersect area else rect) = move
  have moved : ((listed rects).shift area dx dy).Covers bounds p ↔
      ∃ rect ∈ (rects.map move).filter fun rect => !rect.isEmpty, p ∈ rect := by
    simp only [shift, hmove]
    split
    · next none =>
      rw [none]
      refine iff_of_false not_covers_nothing ?_
      rintro ⟨_, mem, -⟩
      exact List.not_mem_nil mem
    · exact Iff.rfl
  have shown (rect : Rect .device) (hp : p ∈ rect) : (!rect.isEmpty) = true := by
    rw [Rect.isEmpty_eq_false_iff.2 ⟨p, hp⟩]
    rfl
  rw [moved]
  simp only [List.mem_filter, List.mem_map]
  constructor
  · rintro ⟨_, ⟨⟨rect, mem, rfl⟩, -⟩, hp⟩
    exact ⟨rect, mem, by rwa [← hmove] at hp⟩
  · rintro ⟨rect, mem, hp⟩
    have hp : p ∈ move rect := by rwa [← hmove]
    exact ⟨move rect, ⟨⟨rect, mem, rfl⟩, shown _ hp⟩, hp⟩

/-- **Outside of the area that moves,** damage is lost exactly where it is severed. -/
theorem covers_shift_iff (outside : p ∉ area) :
    (d.shift area dx dy).Covers bounds p ↔ d.Covers bounds p ∧ ¬ d.Severs area p := by
  cases d with
  | nothing => exact iff_of_false not_covers_nothing fun h => not_covers_nothing h.1
  | everything => exact ⟨fun h => ⟨h, not_false⟩, fun h => h.1⟩
  | listed rects =>
      rw [covers_shift_listed_iff, covers_listed_iff]
      constructor
      · rintro ⟨rect, mem, hp⟩
        split_ifs at hp with meets
        · exact absurd (Rect.mem_intersect.1 hp).2 outside
        · exact ⟨⟨rect, mem, hp⟩, fun severed => meets (severed rect mem hp)⟩
      · rintro ⟨-, stays⟩
        simp only [Severs, not_forall] at stays
        obtain ⟨rect, mem, hp, apart⟩ := stays
        exact ⟨rect, mem, by rwa [if_neg apart]⟩

/-! ## Recording -/

/-- With `rect` the recorded rectangles become too many, and `p` lies in the bounding box into which
they collapse. -/
def Merges (d : Damage) (rect bounds : Rect .device) (p : Point .device) : Prop :=
  match d with
  | .nothing | .everything => False
  | .listed rects =>
      (rect.intersect bounds).isEmpty = false ∧
        (∀ other ∈ rects, other.containsRect (rect.intersect bounds) = false) ∧
        maxRects ≤ rects.length ∧ p ∈ boundingBox (rects ++ [rect.intersect bounds])

lemma exists_mem_insert_iff : (∃ other ∈ insert rects rect, p ∈ other) ↔
    (∃ other ∈ rects, p ∈ other) ∨ p ∈ rect ∨
      ((∀ other ∈ rects, other.containsRect rect = false) ∧ maxRects ≤ rects.length ∧
        p ∈ boundingBox (rects ++ [rect])) := by
  constructor
  · rintro ⟨other, mem, hp⟩
    simp only [insert] at mem
    split_ifs at mem with covered full
    · exact .inl ⟨other, mem, hp⟩
    · rw [List.mem_singleton] at mem
      subst mem
      simp only [List.any_eq_true, not_exists, not_and, Bool.not_eq_true] at covered
      rw [List.length_append, List.length_singleton] at full
      exact .inr (.inr ⟨covered, Nat.le_of_lt_succ full, hp⟩)
    · rcases List.mem_append.1 mem with old | new
      · exact .inl ⟨other, old, hp⟩
      · exact .inr (.inl (List.mem_singleton.1 new ▸ hp))
  · rintro (⟨other, old, hp⟩ | hp | ⟨apart, full, hp⟩)
    · exact exists_mem_insert (List.mem_append_left _ old) hp
    · exact exists_mem_insert (List.mem_append_right _ (List.mem_singleton_self _)) hp
    · have uncovered : ¬ rects.any (·.containsRect rect) = true := by
        simpa only [List.any_eq_true, not_exists, not_and, Bool.not_eq_true] using apart
      have many : maxRects < (rects ++ [rect]).length := by
        rw [List.length_append, List.length_singleton]
        exact Nat.lt_succ_of_le full
      rw [insert, if_neg uncovered]
      exact ⟨_, by simp only [if_pos many, List.mem_singleton_self], hp⟩

/-- **What is covered after a rectangle has been recorded,** on the surface. -/
theorem covers_mark_iff (hbounds : p ∈ bounds) : (d.mark rect bounds).Covers bounds p ↔
    d.Covers bounds p ∨ p ∈ rect ∨ d.Merges rect bounds p := by
  have clipped : p ∈ rect.intersect bounds ↔ p ∈ rect := by
    rw [Rect.mem_intersect]
    exact and_iff_left hbounds
  constructor
  · intro h
    simp only [mark] at h
    split_ifs at h with empty whole
    · exact .inl h
    · exact .inr (.inl (clipped.1 (Rect.mem_of_containsRect whole hbounds)))
    · cases d with
      | nothing =>
          obtain ⟨other, mem, hp⟩ := h
          exact .inr (.inl (clipped.1 (List.mem_singleton.1 mem ▸ hp)))
      | everything => exact .inl h
      | listed rects =>
          rcases exists_mem_insert_iff.1 h with old | new | merged
          · exact .inl old
          · exact .inr (.inl (clipped.1 new))
          · exact .inr (.inr ⟨Bool.eq_false_iff.2 empty, merged⟩)
  · rintro (old | new | merged)
    · exact covers_mark hbounds old rect
    · exact covers_mark_self hbounds new
    · cases d with
      | nothing | everything => exact merged.elim
      | listed rects =>
          obtain ⟨some, merged⟩ := merged
          simp only [mark]
          rw [if_neg (Bool.eq_false_iff.1 some)]
          split_ifs
          · exact covers_everything hbounds
          · exact exists_mem_insert_iff.2 (.inr (.inr merged))

end Damage

namespace Painter

variable {p : Painter} {area : Rect .device} {shift : AxisShift} {q : Point .device}

/-- The pixel is in one of the rectangles that wait for the next paint. -/
def Damaged (p : Painter) (q : Point .device) : Prop := ∃ rect ∈ p.damageList, q ∈ rect

instance (p : Painter) (q : Point .device) : Decidable (p.Damaged q) :=
  inferInstanceAs (Decidable (∃ rect ∈ p.damageList, q ∈ rect))

/-- Extent of an area in the direction of a shift. -/
def extentAlong (area : Rect .device) (shift : AxisShift) : Int :=
  match shift.axis with
  | .horizontal => area.width
  | .vertical => area.height

/-! ## Scrolling -/

/-- Content that would move out of the area altogether is not moved at all. -/
lemma scroll_eq_ite (some : (area.intersect p.surface.bounds).isEmpty = false)
    (moves : shift.delta ≠ 0) : p.scroll area shift =
      let a := area.intersect p.surface.bounds
      if extentAlong a shift ≤ shift.delta.natAbs then
        p.markDamage a
      else
        { p with
          surface := p.surface.shiftWithin a (offsetOf shift).1 (offsetOf shift).2
          damage := p.damage.shift a (offsetOf shift).1 (offsetOf shift).2 }.markDamage
            (uncovered a shift) := by
  have works : ¬ ((area.intersect p.surface.bounds).isEmpty = true ∨ shift.delta = 0) := by
    rw [some]
    exact fun h => h.elim Bool.noConfusion moves
  obtain ⟨axis, delta⟩ := shift
  cases axis <;> exact if_neg works

/-- What is uncovered lies in the area, unless all of it is. -/
lemma mem_of_mem_uncovered (near : ¬ extentAlong area shift ≤ shift.delta.natAbs)
    (hq : q ∈ uncovered area shift) : q ∈ area := by
  obtain ⟨axis, delta⟩ := shift
  cases axis with
  | horizontal =>
      simp only [extentAlong] at near
      simp only [uncovered] at hq
      split_ifs at hq <;>
        simp only [Rect.mem_def, Rect.right, Rect.bottom, Rect.withWidth] at hq ⊢ <;> omega
  | vertical =>
      simp only [extentAlong] at near
      simp only [uncovered] at hq
      split_ifs at hq <;>
        simp only [Rect.mem_def, Rect.right, Rect.bottom, Rect.withHeight] at hq ⊢ <;> omega

/-- **What scrolling does to damage.**  Within the area, damage moves along with the content, and
pixels to which no content moves become damage.  A damaged pixel outside of the area stays damaged
exactly if the content leaves the area altogether, if a recorded rectangle around the pixel does not
meet the area, or if the list of rectangles collapses into a box around the pixel. -/
theorem scroll_damage (idle : p.phase = .idle)
    (some : (area.intersect p.surface.bounds).isEmpty = false) (moves : shift.delta ≠ 0) :
    let a := area.intersect p.surface.bounds
    let p' := p.request (.scroll area shift)
    let source (q : Point .device) := q.offset (-(offsetOf shift).1) (-(offsetOf shift).2)
    (∀ q ∈ a, source q ∈ a → p.Damaged (source q) → p'.Damaged q) ∧
      (∀ q ∈ a, source q ∉ a → p'.Damaged q) ∧
      ∀ q ∈ p.surface.bounds, q ∉ a → p.Damaged q →
        (p'.Damaged q ↔ extentAlong a shift ≤ shift.delta.natAbs ∨ ¬ p.damage.Severs a q ∨
          (p.damage.shift a (offsetOf shift).1 (offsetOf shift).2).Merges (uncovered a shift)
            p.surface.bounds q) := by
  intro a p' source
  have carried : p' = p.scroll area shift := by
    simp only [p', request, idle]
    rfl
  rw [scroll_eq_ite some moves] at carried
  have inside (q : Point .device) (hq : q ∈ a) : q ∈ p.surface.bounds :=
    (Rect.mem_intersect.1 hq).2
  by_cases far : extentAlong a shift ≤ shift.delta.natAbs
  · rw [carried, if_pos far]
    refine ⟨fun q hq _ _ => ?_, fun q hq _ => ?_, fun q hbounds _ damaged => ?_⟩
    · exact Damage.covers_mark_self (inside q hq) hq
    · exact Damage.covers_mark_self (inside q hq) hq
    · exact iff_of_true (Damage.covers_mark hbounds damaged a) (.inl far)
  · rw [carried, if_neg far]
    refine ⟨fun q hq hsource damaged => ?_, fun q hq hsource => ?_,
      fun q hbounds outside damaged => ?_⟩
    · exact Damage.covers_mark (inside q hq)
        (Damage.covers_shift (inside q hq) hq hsource damaged) _
    · exact Damage.covers_mark_self (inside q hq) (mem_uncovered hq hsource)
    · refine (Damage.covers_mark_iff hbounds).trans ?_
      have kept : (p.damage.shift a (offsetOf shift).1 (offsetOf shift).2).Covers
          p.surface.bounds q ↔ ¬ p.damage.Severs a q :=
        (Damage.covers_shift_iff outside).trans (and_iff_right damaged)
      have apart : q ∉ uncovered a shift := fun hq => outside (mem_of_mem_uncovered far hq)
      rw [kept, or_iff_right far, or_iff_right apart]

/-! ## An example -/

/-- A surface of four pixels in a row that has been painted, and three of them have been damaged
since. -/
def fourPixels : Painter :=
  (((create .default DocumentCache.defaultTileEdge).resize ⟨4, 1⟩).paint
    (.ofRenderer (.constant fun job => .drawn job.bitmap)) ()).2.1.request (.damaged ⟨1, 0, 3, 1⟩)

lemma reachable_fourPixels : Reachable (fun _ _ => True) fourPixels :=
  .step (.step (.step (.create _ _) (.resize _ ⟨4, 1⟩)) (.paint _ _ ()
    fun _ _ _ => ⟨trivial, fun _ mem => absurd mem List.not_mem_nil⟩)) (.request _ _ trivial)

/-- The content of the first two pixels moves by one to the left.  Damage moves to the first pixel,
and the second one becomes damage. -/
theorem scroll_damage_fourPixels :
    let moved := fourPixels.request (.scroll ⟨0, 0, 2, 1⟩ ⟨.horizontal, -1⟩)
    fourPixels.phase = .idle ∧
      (Rect.intersect ⟨0, 0, 2, 1⟩ fourPixels.surface.bounds).isEmpty = false ∧
      fourPixels.damageList = [⟨1, 0, 3, 1⟩] ∧ moved.damageList = [⟨0, 0, 2, 1⟩] ∧
      moved.Damaged ⟨0, 0⟩ ∧ moved.Damaged ⟨1, 0⟩ := by
  have idle : fourPixels.phase = .idle := by decide +kernel
  have some : (Rect.intersect ⟨0, 0, 2, 1⟩ fourPixels.surface.bounds).isEmpty = false := by
    decide +kernel
  have moves : (⟨.horizontal, -1⟩ : AxisShift).delta ≠ 0 := by decide
  obtain ⟨arrived, uncovered, -⟩ := scroll_damage idle some moves
  exact ⟨idle, some, by decide +kernel, by decide +kernel,
    arrived ⟨0, 0⟩ (by decide +kernel) (by decide +kernel) (by decide +kernel),
    uncovered ⟨1, 0⟩ (by decide +kernel) (by decide +kernel)⟩

/-- The last two pixels do not lie in the area, and yet they are not damaged any more. -/
theorem damage_lost_fourPixels :
    let moved := fourPixels.request (.scroll ⟨0, 0, 2, 1⟩ ⟨.horizontal, -1⟩)
    Reachable (fun _ _ => True) fourPixels ∧ fourPixels.phase = .idle ∧
      ∀ q ∈ [(⟨2, 0⟩ : Point .device), ⟨3, 0⟩],
        q ∈ fourPixels.surface.bounds ∧ q ∉ (⟨0, 0, 2, 1⟩ : Rect .device) ∧
          fourPixels.Damaged q ∧ ¬ moved.Damaged q :=
  ⟨reachable_fourPixels, by decide +kernel, by decide +kernel⟩

end Painter

end TiledView
