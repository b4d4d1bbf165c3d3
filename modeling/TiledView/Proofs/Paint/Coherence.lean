import TiledView.Proofs.Paint.Coverage
import TiledView.Proofs.Paint.Picture
import TiledView.Proofs.Paint.Reachable

/-!
# Coherent surfaces

A surface is *coherent* with a placement when every pixel that should show a pixel of the document
either does so or waits for the next paint (`Painter.CoherentAt`).  This file shows what painting,
requests and scrolling do to coherence; runs of them are in `TiledView.Proofs.Paint.ScrollRun`.

* `PaintPass.settles_foldl` — a pass over damaged rectangles makes their pixels right, or reports a
  rectangle around them as pending.
* `Painter.Grows` — a request that moves nothing only adds damage.
* `Painter.CoherentAt.scroll` — moving content and its damage by a shift keeps the surface coherent
  with a placement that is scrolled back by the same shift.

While everything is damaged, coherence says nothing, and no request changes that
(`Painter.everything_carryOut`).  This is how a surface starts.
-/

namespace TiledView

variable {σ : Type} {t : Tiling} {content : Nat → Bitmap} {g : Nat} {q : Point .device}

lemma SubmittingRenderer.Answers.draws_collecting {renderer : SubmittingRenderer σ}
    (answers : renderer.Answers (Renders g content)) : renderer.collecting.Draws g content :=
  fun job deadline s => (answers job deadline s.1).1

/-! ## Painting damaged rectangles -/

namespace PaintPass

/-- Surface pixel `q` shows the picture, or lies in a rectangle that is reported as pending. -/
def Settles (t : Tiling) (content : Nat → Bitmap) (placement : Placement) (q : Point .device)
    (pass : PaintPass σ) : Prop :=
  pass.surface.Shows t content placement.origin q ∨ ∃ rect ∈ pass.pending, q ∈ rect

variable {renderer : SubmittingRenderer σ} {placement : Placement} {deadline : Nat}
  {pass : PaintPass σ} {rect : Rect .device}

lemma exists_mem_onSurface {dirty : Rect .device} {tiles : Array TouchedTile}
    {touched : TouchedTile} (mem : touched ∈ tiles) (hdirty : q ∈ dirty)
    (hp : q.offset placement.origin.x placement.origin.y ∈ touched.pixels) :
    ∃ rect ∈ onSurface placement dirty tiles, q ∈ rect := by
  have seen : q ∈ (placement.toSurface touched.pixels).intersect dirty := by
    rw [Rect.mem_intersect, Placement.toSurface, Rect.mem_offset, Int.neg_neg, Int.neg_neg]
    exact ⟨hp, hdirty⟩
  refine ⟨_, Array.mem_filter.2 ⟨Array.mem_map.2 ⟨touched, mem, rfl⟩, ?_⟩, seen⟩
  rw [Rect.isEmpty_eq_false_iff.2 ⟨q, seen⟩]
  rfl

/-- Pixels of a damaged rectangle that show document content. -/
lemma mem_dirty (hrect : q ∈ rect) (hbounds : q ∈ pass.surface.bounds)
    (harea : q ∈ placement.area) :
    q ∈ (rect.intersect pass.surface.bounds).intersect placement.area :=
  Rect.mem_intersect.2 ⟨Rect.mem_intersect.2 ⟨hrect, hbounds⟩, harea⟩

lemma mem_toDocument {dirty : Rect .device} (hdirty : q ∈ dirty) :
    q.offset placement.origin.x placement.origin.y ∈ placement.toDocument dirty := by
  rw [Placement.toDocument, Rect.mem_offset,
    q.offset_offset_of_add_eq_zero (Int.add_right_neg _) (Int.add_right_neg _)]
  exact hdirty

lemma paintRect_depicts (answers : renderer.Answers (Renders g content))
    (depicts : pass.cache.Depicts t content g) (rect : Rect .device) :
    (pass.paintRect renderer placement deadline rect).cache.Depicts t content g := by
  simp only [paintRect]
  split_ifs
  · exact depicts
  · exact PartCache.depicts_sweep depicts answers.draws_collecting _ _ _ _ _

/-- What was settled stays settled. -/
lemma settles_paintRect_of_settles (fits : t.Fits content)
    (answers : renderer.Answers (Renders g content)) (depicts : pass.cache.Depicts t content g)
    (before : pass.Settles t content placement q) (rect : Rect .device) :
    (pass.paintRect renderer placement deadline rect).Settles t content placement q := by
  simp only [paintRect]
  split_ifs
  · exact before
  · rcases before with shows | ⟨waiting, mem, hq⟩
    · exact .inl (PartCache.shows_sweep_of_shows ⟨placement.origin, _⟩ fits depicts
        answers.draws_collecting _ _ shows)
    · exact .inr ⟨waiting, Array.mem_append_left _ mem, hq⟩

/-- Painting a damaged rectangle settles its pixels. -/
lemma settles_paintRect (fits : t.Fits content) (hwidth : t.size.width ≤ Tiling.maxExtent)
    (hheight : t.size.height ≤ Tiling.maxExtent)
    (answers : renderer.Answers (Renders g content)) (depicts : pass.cache.Depicts t content g)
    (hrect : q ∈ rect) (hbounds : q ∈ pass.surface.bounds) (harea : q ∈ placement.area)
    (hextent : q.offset placement.origin.x placement.origin.y ∈ Rect.ofSize t.size) :
    (pass.paintRect renderer placement deadline rect).Settles t content placement q := by
  have hdirty := mem_dirty hrect hbounds harea
  have hne := Rect.isEmpty_eq_false_iff.2 ⟨q, hdirty⟩
  simp only [paintRect]
  rw [if_neg (Bool.eq_false_iff.1 hne)]
  rcases PartCache.settles_sweep ⟨placement.origin, _⟩ deadline fits hwidth hheight depicts
    answers.draws_collecting (pass.renderer, []) hbounds hdirty (mem_toDocument hdirty) hextent
    with shows | ⟨touched, mem, hp⟩
  · exact .inl shows
  · obtain ⟨waiting, mem, hq⟩ := exists_mem_onSurface mem hdirty hp
    exact .inr ⟨waiting, Array.mem_append_right _ mem, hq⟩

/-- A pixel is settled already, or lies in one of the rectangles still to be painted. -/
lemma settles_foldl (fits : t.Fits content) (hwidth : t.size.width ≤ Tiling.maxExtent)
    (hheight : t.size.height ≤ Tiling.maxExtent) (answers : renderer.Answers (Renders g content))
    (harea : q ∈ placement.area)
    (hextent : q.offset placement.origin.x placement.origin.y ∈ Rect.ofSize t.size)
    (rects : List (Rect .device)) (pass : PaintPass σ) (depicts : pass.cache.Depicts t content g)
    (hbounds : q ∈ pass.surface.bounds)
    (h : pass.Settles t content placement q ∨ ∃ rect ∈ rects, q ∈ rect) :
    (rects.foldl (paintRect renderer placement deadline) pass).Settles t content placement q := by
  induction rects generalizing pass with
  | nil => exact h.resolve_right fun ⟨_, mem, _⟩ => List.not_mem_nil mem
  | cons rect rects ih =>
      have bounds : (pass.paintRect renderer placement deadline rect).surface.bounds =
          pass.surface.bounds :=
        congrArg Rect.ofSize (paintRect_frame renderer placement deadline pass rect).2
      refine ih _ (paintRect_depicts answers depicts rect) (bounds.symm ▸ hbounds) ?_
      rcases h with before | ⟨other, mem, hq⟩
      · exact .inl (settles_paintRect_of_settles fits answers depicts before rect)
      · rcases List.mem_cons.1 mem with rfl | later
        · exact .inl
            (settles_paintRect fits hwidth hheight answers depicts hq hbounds harea hextent)
        · exact .inr ⟨other, later, hq⟩

/-- What waits after a pass lies on the surface. -/
lemma pending_foldl (rects : List (Rect .device)) (pass : PaintPass σ)
    (h : ∀ waiting ∈ pass.pending, ∀ p ∈ waiting, p ∈ pass.surface.bounds) :
    ∀ waiting ∈ (rects.foldl (paintRect renderer placement deadline) pass).pending,
      ∀ p ∈ waiting, p ∈ pass.surface.bounds := by
  refine (List.foldlRecOn (motive := fun result : PaintPass σ =>
    result.surface.size = pass.surface.size ∧
      ∀ waiting ∈ result.pending, ∀ p ∈ waiting, p ∈ pass.surface.bounds) rects _ ⟨rfl, h⟩ ?_).2
  rintro result ⟨size, inside⟩ rect _
  refine ⟨(paintRect_frame renderer placement deadline result rect).2.trans size, ?_⟩
  simp only [paintRect]
  split_ifs
  · exact inside
  · intro waiting mem p hp
    rcases Array.mem_append.1 mem with old | new
    · exact inside waiting old p hp
    · obtain ⟨tile, -, rfl⟩ := Array.mem_map.1 (Array.mem_filter.1 new).1
      have visible := (Rect.mem_intersect.1 (Rect.mem_intersect.1 hp).2).1
      rw [Bitmap.bounds, ← size]
      exact (Rect.mem_intersect.1 visible).2

end PaintPass

/-! ## Painters -/

/-- A request that does not move surface content. -/
def PaintRequest.Still : PaintRequest → Prop
  | .scroll _ _ => False
  | _ => True

/-- The placement that is scrolled back by a shift of the content. -/
def Placement.scrolledBy (placement : Placement) (shift : AxisShift) : Placement :=
  { placement with
    scroll := ⟨placement.scroll.x - (Painter.offsetOf shift).1,
      placement.scroll.y - (Painter.offsetOf shift).2⟩ }

namespace Painter

variable {p p' : Painter} {origin : Point .device}

/-- The cache of the part that is shown has generation `g`, tiling `t` and the scale of the
placement. -/
def ShowsPart (t : Tiling) (g : Nat) (p : Painter) : Prop :=
  ∃ c, p.cache.parts[p.placement.part]? = some c ∧ (c.scale == p.placement.scale) = true ∧
    c.tiling = t ∧ c.generation = g

/-- Every pixel of the placement's area with a pixel of the extent behind it waits for the next
paint, or shows the picture; `origin` is the pixel of the extent at surface `(0, 0)`. -/
def CoherentAt (t : Tiling) (content : Nat → Bitmap) (origin : Point .device) (p : Painter) :
    Prop :=
  ∀ q ∈ p.surface.bounds, q ∈ p.placement.area →
    q.offset origin.x origin.y ∈ Rect.ofSize t.size →
      p.damage.Covers p.surface.bounds q ∨ p.surface.Shows t content origin q

lemma ShowsPart.of_outline (h : p.ShowsPart t g) (part : p'.placement.part = p.placement.part)
    (scale : p'.placement.scale = p.placement.scale)
    (outline : p'.cache.outline = p.cache.outline) :
    p'.ShowsPart t g := by
  obtain ⟨c, found, hscale, tiling, generation⟩ := h
  obtain ⟨c', found', houtline⟩ := DocumentCache.part_of_outline outline found
  obtain ⟨-, hscale', hgeneration', -, htiling'⟩ := PartCache.outline_fields houtline
  refine ⟨c', by rw [part, found'], ?_, htiling'.trans tiling, hgeneration'.trans generation⟩
  rw [hscale', scale]
  exact hscale

lemma depicts_of_sound (sound : p.cache.Sound (Drawable (Renders g content))) {part : Nat}
    {c : PartCache Float} (found : p.cache.parts[part]? = some c) (generation : c.generation = g) :
    c.Depicts c.tiling content g where
  generation := generation
  tiling := rfl
  size := PartCache.size_tiles_of_outline (sound part c found).built
  pixels := fun _ _ => PartCache.pixels_of_outline (sound part c found).built
  backed := (sound part c found).backed.mono fun _ _ drawable => drawable _ rfl

lemma coherentAt_of_everything (h : p.damage = .everything) : p.CoherentAt t content origin := by
  intro q hbounds _ _
  rw [h]
  exact .inl (Damage.covers_everything hbounds)

/-! ## Requests that move nothing -/

/-- `p'` differs from `p` in its caches and in more damage only. -/
structure Grows (p p' : Painter) : Prop where
  surface : p'.surface = p.surface
  placement : p'.placement = p.placement
  covers : ∀ q ∈ p.surface.bounds, p.damage.Covers p.surface.bounds q →
    p'.damage.Covers p.surface.bounds q

lemma Grows.refl (p : Painter) : Grows p p := ⟨rfl, rfl, fun _ _ h => h⟩

lemma Grows.trans {p'' : Painter} (h : Grows p p') (h' : Grows p' p'') : Grows p p'' where
  surface := h'.surface.trans h.surface
  placement := h'.placement.trans h.placement
  covers := by
    intro q hbounds hq
    have first := h.covers q hbounds hq
    rw [← h.surface] at hbounds first ⊢
    exact h'.covers q hbounds first

lemma Grows.coherentAt (h : Grows p p') (coherent : p.CoherentAt t content origin) :
    p'.CoherentAt t content origin := by
  intro q hbounds harea hextent
  rw [h.surface] at hbounds ⊢
  rw [h.placement] at harea
  exact (coherent q hbounds harea hextent).imp_left (h.covers q hbounds)

lemma grows_markDamage (p : Painter) (rect : Rect .device) : Grows p (p.markDamage rect) :=
  ⟨rfl, rfl, fun _ hbounds h => Damage.covers_mark hbounds h rect⟩

lemma grows_takeBack (p : Painter) (key : TileKey) (outcome : DrawOutcome) :
    Grows p (p.takeBack key outcome) := by
  rcases takeBack_eq p key outcome with same | ⟨rect, same⟩ <;> rw [same]
  · exact ⟨rfl, rfl, fun _ _ h => h⟩
  · exact ⟨rfl, rfl, fun _ hbounds h => Damage.covers_mark hbounds h rect⟩

lemma grows_carryOut {request : PaintRequest} (still : request.Still) :
    Grows p (p.carryOut request) := by
  cases request with
  | staleArea | stalePart => exact ⟨rfl, rfl, fun _ _ h => h⟩
  | damaged rect => exact grows_markDamage p rect.effective
  | scroll => exact still.elim
  | lateResult key outcome => exact grows_takeBack p key outcome

lemma grows_foldl_carryOut {requests : List PaintRequest}
    (still : ∀ request ∈ requests, request.Still) : Grows p (requests.foldl carryOut p) := by
  induction requests generalizing p with
  | nil => exact .refl p
  | cons request requests ih =>
      obtain ⟨first, rest⟩ := List.forall_mem_cons.1 still
      exact (grows_carryOut first).trans (ih rest)

/-! ## Damage to everything -/

/-- Once everything is damaged, no request changes that. -/
lemma everything_carryOut (h : p.damage = .everything) (request : PaintRequest) :
    (p.carryOut request).damage = .everything := by
  have marked : ∀ rect, p.damage.mark rect p.surface.bounds = .everything := by
    intro rect
    rw [h]
    exact Damage.mark_everything rect p.surface.bounds
  cases request with
  | staleArea | stalePart => exact h
  | damaged rect => exact marked rect.effective
  | scroll area shift =>
      rw [carryOut]
      rcases scroll_eq p area shift with ⟨-, same⟩ | same | same <;> rw [same]
      · exact h
      · exact marked _
      · show (p.damage.shift _ _ _).mark _ _ = _
        rw [h]
        exact Damage.mark_everything _ _
  | lateResult key outcome =>
      rw [carryOut]
      rcases takeBack_eq p key outcome with same | ⟨rect, same⟩ <;> rw [same]
      · exact h
      · exact marked rect

lemma everything_foldl_carryOut (h : p.damage = .everything) (requests : List PaintRequest) :
    (requests.foldl carryOut p).damage = .everything := by
  induction requests generalizing p with
  | nil => exact h
  | cons request requests ih => exact ih (everything_carryOut h request)

/-! ## Scrolling -/

/-- **Scrolling keeps a surface coherent** with the placement scrolled back by as much. -/
lemma CoherentAt.scroll (h : p.CoherentAt t content origin) (shift : AxisShift) :
    (p.scroll p.placement.area shift).CoherentAt t content
      (origin.offset (-(offsetOf shift).1) (-(offsetOf shift).2)) := by
  rcases scroll_eq p p.placement.area shift with ⟨none, same⟩ | same | same <;> rw [same]
  · rcases none with empty | zero
    · intro q hbounds harea
      exact absurd (Rect.mem_intersect.2 ⟨harea, hbounds⟩) (Rect.not_mem_of_isEmpty empty)
    · have unmoved : offsetOf shift = (0, 0) := by
        obtain ⟨axis, delta⟩ := shift
        dsimp only at zero
        subst zero
        cases axis <;> rfl
      rw [unmoved, Int.neg_zero, Point.offset_zero]
      exact h
  · intro q hbounds harea _
    exact .inl (Damage.covers_mark_self hbounds (Rect.mem_intersect.2 ⟨harea, hbounds⟩))
  · intro q hbounds harea hextent
    generalize hdx : (offsetOf shift).1 = dx at hextent ⊢
    generalize hdy : (offsetOf shift).2 = dy at hextent ⊢
    replace hbounds : q ∈ p.surface.bounds := hbounds
    have hq : q ∈ p.placement.area.intersect p.surface.bounds :=
      Rect.mem_intersect.2 ⟨harea, hbounds⟩
    by_cases source :
        q.offset (-dx) (-dy) ∈ p.placement.area.intersect p.surface.bounds
    · -- The pixel has come from within the area, with its colour or with its damage.
      have behind : (q.offset (-dx) (-dy)).offset origin.x origin.y =
          q.offset (origin.offset (-dx) (-dy)).x (origin.offset (-dx) (-dy)).y := by
        rw [Point.offset_offset, Point.x_offset, Point.y_offset, Int.add_comm, Int.add_comm (-dy)]
      obtain ⟨sourceArea, sourceBounds⟩ := Rect.mem_intersect.1 source
      rcases h _ sourceBounds sourceArea (behind ▸ hextent) with covers | shows
      · exact .inl (Damage.covers_mark hbounds (Damage.covers_shift hbounds hq source covers) _)
      · refine .inr ?_
        show (p.surface.shiftWithin _ dx dy).at? q = _
        have inside : ∀ r ∈ p.placement.area.intersect p.surface.bounds,
            r ∈ (p.placement.area.intersect p.surface.bounds).intersect p.surface.bounds :=
          fun r hr => Rect.mem_intersect.2 ⟨hr, (Rect.mem_intersect.1 hr).2⟩
        rw [Bitmap.at?_shiftWithin, if_pos ⟨inside _ hq, inside _ source⟩, shows, behind]
    · subst hdx hdy
      exact .inl (Damage.covers_mark_self hbounds (mem_uncovered hq source))

end Painter

end TiledView
