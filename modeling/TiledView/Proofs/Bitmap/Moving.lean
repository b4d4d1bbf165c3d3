import TiledView.Proofs.Bitmap.Rows

/-!
# Moving content in place is copying it through a second buffer

`Bitmap.shiftWithin` reads and writes the same pixels.  What it should come to is said without it:

* `Bitmap.movedCopy` — the content that stays in the area is copied from a second buffer that still
  holds the bitmap as it was.
* `Bitmap.Moved` — the same pixel by pixel: what has arrived shows its source, and the rest is kept.

`Bitmap.shiftWithin_moves` proves both of the move in place, for an area that may stick out of the
bitmap or miss it, and for any distance.  Rows that overlap are no exception, because no row is read
after it has been written (`Bitmap.getElem?_foldl_copyRow_self`) and a row is read as a whole
before any of it is written.
-/

namespace TiledView

namespace Bitmap

variable {b : Bitmap} {a : Rect .device} {dx dy : Int} {p : Point .device}

/-- The bitmap `b'` shows `b` with the content of `a` moved by `(dx, dy)`. -/
structure Moved (b b' : Bitmap) (a : Rect .device) (dx dy : Int) : Prop where
  size : b'.size = b.size
  arrived : ∀ q ∈ a, q.offset (-dx) (-dy) ∈ a → b'.at? q = b.at? (q.offset (-dx) (-dy))
  kept : ∀ q ∈ b.bounds, ¬ (q ∈ a ∧ q.offset (-dx) (-dy) ∈ a) → b'.at? q = b.at? q

/-- The content of `a` that stays in `a` when it moves by `(dx, dy)`, copied to its new place from a
second buffer. -/
def movedCopy (b : Bitmap) (a : Rect .device) (dx dy : Int) : Bitmap :=
  let staying := a.intersect (a.offset (-dx) (-dy))
  b.blit b staying (staying.origin.offset dx dy)

lemma at?_movedCopy (inside : ∀ q ∈ a, q ∈ b.bounds) (dx dy : Int) (p : Point .device) :
    (b.movedCopy a dx dy).at? p =
      if p ∈ a ∧ p.offset (-dx) (-dy) ∈ a then b.at? (p.offset (-dx) (-dy)) else b.at? p := by
  simp only [movedCopy]
  generalize hstaying : a.intersect (a.offset (-dx) (-dy)) = staying
  have mem_staying (q : Point .device) : q ∈ staying ↔ q ∈ a ∧ q.offset dx dy ∈ a := by
    rw [← hstaying, Rect.mem_intersect, Rect.mem_offset, Int.neg_neg, Int.neg_neg]
  rw [at?_blit]
  dsimp only
  by_cases hne : staying.isEmpty
  · -- Nothing stays in the area, so nothing is copied.
    have nothing (q : Point .device) : q ∉ staying.intersect b.bounds := fun hq =>
      Rect.not_mem_of_isEmpty hne (Rect.mem_intersect.1 hq).1
    rw [if_neg fun h => nothing _ h.2, if_neg]
    rintro ⟨arrived, source⟩
    refine Rect.not_mem_of_isEmpty hne ((mem_staying _).2 ⟨source, ?_⟩)
    rwa [p.offset_offset_of_add_eq_zero (Int.add_left_neg dx) (Int.add_left_neg dy)]
  · have whole : staying.intersect b.bounds = staying :=
      Rect.intersect_eq_self (Rect.containsRect_of_forall_mem (Bool.eq_false_iff.2 hne)
        fun q hq => inside q ((mem_staying q).1 hq).1)
    have back : p.offset (staying.x - (staying.origin.offset dx dy).x)
        (staying.y - (staying.origin.offset dx dy).y) = p.offset (-dx) (-dy) := by
      simp only [Point.offset, Rect.origin, Point.mk.injEq]
      omega
    have forth : (p.offset (-dx) (-dy)).offset dx dy = p :=
      p.offset_offset_of_add_eq_zero (Int.add_left_neg dx) (Int.add_left_neg dy)
    have same : (p ∈ b.bounds ∧ p.offset (-dx) (-dy) ∈ staying) ↔
        (p ∈ a ∧ p.offset (-dx) (-dy) ∈ a) := by
      rw [mem_staying, forth]
      exact ⟨fun h => ⟨h.2.2, h.2.1⟩, fun h => ⟨inside p h.1, h.2, h.1⟩⟩
    rw [whole, back]
    simp only [same]

/-- **Moving content in place is copying it through a second buffer.**  Every pixel of the area whose
source lies in the area, too, gets the colour that its source had, every other pixel and the size
stay as they are, and no pixel outside of the bitmap is read or written. -/
theorem shiftWithin_moves (b : Bitmap) (area : Rect .device) (dx dy : Int) :
    let a := area.intersect b.bounds
    b.shiftWithin area dx dy = b.movedCopy a dx dy ∧ b.Moved (b.shiftWithin area dx dy) a dx dy ∧
      ∀ copy ∈ b.shiftRows area dx dy, copy.Carries b b dx dy := by
  intro a
  have inside (q : Point .device) (hq : q ∈ a) : q ∈ b.bounds := (Rect.mem_intersect.1 hq).2
  refine ⟨eq_of_at? rfl fun p _ => ?_, ⟨rfl, fun q arrived source => ?_, fun q _ other => ?_⟩,
    carries_shiftRows b area dx dy⟩
  · exact (at?_shiftWithin b area dx dy p).trans (at?_movedCopy inside dx dy p).symm
  · exact (at?_shiftWithin b area dx dy q).trans (if_pos ⟨arrived, source⟩)
  · exact (at?_shiftWithin b area dx dy q).trans (if_neg other)

/-- Three rows move down by one and right by one, over themselves. -/
example : ((ofFn 3 3 fun x y => (10 * y + x).toUInt32).shiftWithin ⟨0, 0, 3, 9⟩ 1 1).pixels.toList =
    [0, 1, 2, 10, 0, 1, 20, 10, 11] := by decide +kernel

end Bitmap

end TiledView
