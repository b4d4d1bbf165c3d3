import TiledView.Proofs.Bitmap.Rows

/-!
# Where a copy comes to lie

A copy names an area of the source and a point of the target.  `Bitmap.Lays` is what such a copy is
meant to do: the origin of the area comes to lie on the point and every other pixel of the area where
that puts it (`Rect.landing`), as far as both bitmaps have the pixel, and the rest of the target is
kept.

`Bitmap.blit` clips the area to the source before anything else, and it is the origin of what is left
that it lays on the point.  So the copy is right for a point that is moved by what has been cut off at
the left and the top (`Bitmap.lays_blit`), and for the point itself, whatever is to be seen in the
bitmaps, exactly if nothing is cut off there, or none of it shows on the target either way
(`Bitmap.lays_blit_iff`).  The two are told apart by a source that is blank but for one pixel.
`Bitmap.blit_lays` puts this together with the rows that are read and written.
-/

namespace TiledView

/-- Where pixel `q` of an area comes to lie when the origin of the area lies on `dest`. -/
def Rect.landing (area : Rect .device) (dest q : Point .device) : Point .device :=
  q.offset (dest.x - area.x) (dest.y - area.y)

namespace Bitmap

variable {result target source : Bitmap} {area : Rect .device} {dest p q : Point .device}

/-- The bitmap `result` shows `target` with `area` of `source` laid on it, the origin of the area on
`dest`. -/
structure Lays (result target source : Bitmap) (area : Rect .device) (dest : Point .device) :
    Prop where
  size : result.size = target.size
  laid : ∀ q ∈ area, q ∈ source.bounds → area.landing dest q ∈ target.bounds →
    result.at? (area.landing dest q) = source.at? q
  kept : ∀ p ∈ target.bounds, (∀ q ∈ area, q ∈ source.bounds → area.landing dest q ≠ p) →
    result.at? p = target.at? p

/-! ## What a copy does -/

/-- The point on which a copy lays the origin of an area: `dest`, moved by what of the area lies left
of and above the source. -/
def effectiveDest (area : Rect .device) (dest : Point .device) : Point .device :=
  dest.offset (min area.x 0) (min area.y 0)

lemma effectiveDest_eq_iff : effectiveDest area dest = dest ↔ 0 ≤ area.x ∧ 0 ≤ area.y := by
  obtain ⟨x, y⟩ := dest
  simp only [effectiveDest, Point.offset, Point.mk.injEq]
  omega

/-- Seen from a pixel that is there, clipping moves the origin of an area to the first pixel of the
source. -/
lemma origin_intersect_bounds (harea : q ∈ area) (hsource : q ∈ source.bounds) :
    (area.intersect source.bounds).x = max area.x 0 ∧
      (area.intersect source.bounds).y = max area.y 0 := by
  rw [Rect.intersect_of_mem harea hsource]
  exact ⟨rfl, rfl⟩

/-- **What a copy does,** wherever the area lies. -/
theorem lays_blit (target source : Bitmap) (area : Rect .device) (dest : Point .device) :
    (target.blit source area dest).Lays target source area (effectiveDest area dest) := by
  have clipped (q : Point .device) :
      q ∈ area.intersect source.bounds ↔ q ∈ area ∧ q ∈ source.bounds := Rect.mem_intersect
  have shown := at?_blit target source area dest
  dsimp only at shown
  have origin (q : Point .device) (hq : q ∈ area.intersect source.bounds) :
      area.landing (effectiveDest area dest) q =
        q.offset (dest.x - (area.intersect source.bounds).x)
          (dest.y - (area.intersect source.bounds).y) := by
    obtain ⟨left, top⟩ :=
      origin_intersect_bounds ((clipped q).1 hq).1 ((clipped q).1 hq).2
    rw [left, top]
    simp only [Rect.landing, effectiveDest, Point.offset, Point.mk.injEq]
    omega
  generalize area.intersect source.bounds = a at clipped shown origin
  refine ⟨rfl, fun q harea hsource htarget => ?_, fun p htarget apart => ?_⟩
  · have hq := (clipped q).2 ⟨harea, hsource⟩
    rw [origin q hq] at htarget ⊢
    have back : (q.offset (dest.x - a.x) (dest.y - a.y)).offset (a.x - dest.x) (a.y - dest.y) =
        q := q.offset_offset_of_add_eq_zero (by omega) (by omega)
    rw [shown, back, if_pos ⟨htarget, hq⟩]
  · rw [shown, if_neg]
    rintro ⟨-, hq⟩
    refine apart _ ((clipped _).1 hq).1 ((clipped _).1 hq).2 ?_
    rw [origin _ hq]
    exact p.offset_offset_of_add_eq_zero (by omega) (by omega)

/-! ## When it is what was asked for -/

lemma at?_ofFn {width height : Nat} {colour : Nat → Nat → UInt32}
    (hp : p ∈ (ofFn width height colour).bounds) :
    (ofFn width height colour).at? p = some (colour p.x.toNat p.y.toNat) := by
  have cell : 0 ≤ p.x ∧ p.x < width ∧ 0 ≤ p.y ∧ p.y < height := mem_bounds.1 hp
  have column : p.x.toNat < width := by omega
  have place : p.y.toNat * width + p.x.toNat < width * height := place_lt column (by omega)
  rw [at?_of_mem hp]
  show (Vector.ofFn fun i : Fin (width * height) => colour (i % width) (i / width))[
    p.y.toNat * width + p.x.toNat]? = _
  rw [Vector.getElem?_eq_getElem place, Vector.getElem_ofFn]
  have modulo : (p.y.toNat * width + p.x.toNat) % width = p.x.toNat := by
    rw [Nat.mul_add_mod', Nat.mod_eq_of_lt column]
  have quotient : (p.y.toNat * width + p.x.toNat) / width = p.y.toNat := by
    rw [Nat.add_comm, Nat.add_mul_div_right _ _ (Nat.zero_lt_of_lt column),
      Nat.div_eq_of_lt column, Nat.zero_add]
  simp only [modulo, quotient]

/-- A bitmap that is blank but for the pixel `q`. -/
def dot (width height : Nat) (q : Point .device) : Bitmap :=
  ofFn width height fun x y => if (x : Int) = q.x ∧ (y : Int) = q.y then 1 else 0

lemma at?_dot {width height : Nat} (hp : p ∈ (dot width height q).bounds) :
    (dot width height q).at? p = some (if p = q then 1 else 0) := by
  have cell := mem_bounds.1 hp
  have same : ((p.x.toNat : Int) = q.x ∧ (p.y.toNat : Int) = q.y) ↔ p = q := by
    rw [Int.toNat_of_nonneg cell.1, Int.toNat_of_nonneg cell.2.2.1]
    obtain ⟨x, y⟩ := p
    obtain ⟨x', y'⟩ := q
    rw [Point.mk.injEq]
  rw [dot, at?_ofFn hp]
  simp only [same]

lemma at?_blank {width height : Nat} (hp : p ∈ (blank width height).bounds) :
    (blank width height).at? p = some 0 := by
  show ((blank width height).fill 0).at? p = _
  rw [at?_fill, if_pos hp]

/-- A single pixel is not laid on two places at once. -/
lemma Lays.landing_not_mem {width height width' height' : Nat} {d d' : Point .device}
    (h : result.Lays (blank width height) (dot width' height' q) area d)
    (h' : result.Lays (blank width height) (dot width' height' q) area d') (apart : d ≠ d')
    (harea : q ∈ area) (hsource : q ∈ (dot width' height' q).bounds) :
    area.landing d q ∉ (blank width height).bounds := by
  intro htarget
  have coloured : result.at? (area.landing d q) = some 1 := by
    rw [h.laid q harea hsource htarget, at?_dot hsource, if_pos rfl]
  have blank : result.at? (area.landing d q) = some 0 := by
    by_cases other : ∃ r ∈ area, r ∈ (dot width' height' q).bounds ∧
        area.landing d' r = area.landing d q
    · obtain ⟨r, hr, inside, lands⟩ := other
      have different : r ≠ q := by
        rintro rfl
        refine apart ?_
        obtain ⟨x, y⟩ := d
        obtain ⟨x', y'⟩ := d'
        simp only [Rect.landing, Point.offset, Point.mk.injEq] at lands ⊢
        omega
      rw [← lands] at htarget ⊢
      rw [h'.laid r hr inside htarget, at?_dot inside, if_neg different]
    · rw [h'.kept _ htarget fun r hr inside lands => other ⟨r, hr, inside, lands⟩,
        at?_blank htarget]
  rw [coloured] at blank
  exact absurd blank (by decide)

/-- **When a copy does what was asked for,** whatever the two bitmaps show: if the area begins inside
the source, or if nothing of it shows on the target, neither where it was meant to be nor where it
is. -/
theorem lays_blit_iff (target source : Bitmap) (area : Rect .device) (dest : Point .device) :
    (∀ t s : Bitmap, t.size = target.size → s.size = source.size →
        (t.blit s area dest).Lays t s area dest) ↔
      (0 ≤ area.x ∧ 0 ≤ area.y) ∨ ∀ q ∈ area, q ∈ source.bounds →
        area.landing dest q ∉ target.bounds ∧
          area.landing (effectiveDest area dest) q ∉ target.bounds := by
  constructor
  · intro asked
    refine or_iff_not_imp_left.2 fun cut q harea hsource => ?_
    have apart : effectiveDest area dest ≠ dest := fun same => cut (effectiveDest_eq_iff.1 same)
    have meant := asked (blank target.width target.height) (dot source.width source.height q)
      rfl rfl
    have done := lays_blit (blank target.width target.height)
      (dot source.width source.height q) area dest
    exact ⟨meant.landing_not_mem done apart.symm harea hsource,
      done.landing_not_mem meant apart harea hsource⟩
  · intro cases t s htarget hsource
    have done := lays_blit t s area dest
    rcases cases with whole | unseen
    · rwa [effectiveDest_eq_iff.2 whole] at done
    · have targetBounds : t.bounds = target.bounds := congrArg Rect.ofSize htarget
      have sourceBounds : s.bounds = source.bounds := congrArg Rect.ofSize hsource
      rw [← targetBounds, ← sourceBounds] at unseen
      refine ⟨rfl, fun q harea inside lands => ?_, fun p hp _ => ?_⟩
      · exact absurd lands (unseen q harea inside).1
      · refine done.kept p hp ?_
        rintro q harea inside rfl
        exact (unseen q harea inside).2 hp

/-- **What a copy does, and when it is what was asked for.**  No pixel outside of the two bitmaps is
read or written, and the area comes to lie with its origin on the effective point, which is the
requested one if nothing has been cut off at the left and the top. -/
theorem blit_lays (target source : Bitmap) (area : Rect .device) (dest : Point .device) :
    let a := area.intersect source.bounds
    (∀ copy ∈ target.blitRows source area dest,
        copy.Carries source target (dest.x - a.x) (dest.y - a.y)) ∧
      (target.blit source area dest).Lays target source area (effectiveDest area dest) ∧
      ((∀ t s : Bitmap, t.size = target.size → s.size = source.size →
          (t.blit s area dest).Lays t s area dest) ↔
        (0 ≤ area.x ∧ 0 ≤ area.y) ∨ ∀ q ∈ area, q ∈ source.bounds →
          area.landing dest q ∉ target.bounds ∧
            area.landing (effectiveDest area dest) q ∉ target.bounds) :=
  ⟨carries_blitRows target source area dest, lays_blit target source area dest,
    lays_blit_iff target source area dest⟩

/-- The area begins one pixel left of the source, whose only pixel is meant for the second column of
the target.  It comes to lie in the first one. -/
theorem laid_aside_onePixel :
    let result := (blank 2 1).blit (filled 1 1 7) ⟨-1, 0, 2, 1⟩ ⟨0, 0⟩
    Rect.landing ⟨-1, 0, 2, 1⟩ ⟨0, 0⟩ ⟨0, 0⟩ = ⟨1, 0⟩ ∧ result.at? ⟨0, 0⟩ = some 7 ∧
      result.at? ⟨1, 0⟩ = some 0 ∧
      ¬ result.Lays (blank 2 1) (filled 1 1 7) ⟨-1, 0, 2, 1⟩ ⟨0, 0⟩ := by
  refine ⟨by decide, by decide +kernel, by decide +kernel, fun lays => ?_⟩
  have meant := lays.laid ⟨0, 0⟩ (by decide) (by decide) (by decide)
  exact absurd meant (by decide +kernel)

end Bitmap

end TiledView
