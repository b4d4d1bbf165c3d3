import TiledView.Proofs.Paint.RealDamage
import TiledView.Proofs.Paint.ScrollRun
import TiledView.Proofs.Paint.Scrolling

/-!
# Damage that is gathered between two paints

Rectangles are recorded one after the other.  Each of them is clipped to the surface, and then it may
be dropped, stand for everything, or make the list collapse into its bounding box.  Whichever of
these shortcuts are taken, and in whatever order,

* no pixel is lost (`Damage.covers_markAll`), and
* none is added outside of a rectangle around all there was and all that came
  (`Damage.mem_of_covers_markAll`), of which the bounding box is the least
  (`Damage.mem_boundingBox_iff`).

The next paint pass begins by carrying out what has been submitted, and then takes out exactly the
rectangles that are listed.  `Painter.Gathers` is all of this.  It holds of requests of any number and
in any order, given to a painter or submitted to it, for the rectangles as they are in 64-bit words:
one whose far edge overflows comes to nothing, and its pixels are lost (`Painter.lost_paintedRow`).
`Painter.Reachable.gathers_iff` says that there is no other way to lose one.
-/

namespace TiledView

variable {σ : Type}

namespace Damage

variable {d : Damage} {bounds rect box : Rect .device} {rects : List (Rect .device)}
  {p : Point .device}

/-! ## The bounding box -/

lemma mem_of_mem_foldl_union {start : Rect .device} (hstart : ∀ q ∈ start, q ∈ box)
    (inside : ∀ rect ∈ rects, ∀ q ∈ rect, q ∈ box) (hp : p ∈ rects.foldl Rect.union start) :
    p ∈ box := by
  induction rects generalizing start with
  | nil => exact hstart p hp
  | cons rect rects ih =>
      rw [List.forall_mem_cons] at inside
      exact ih (fun q hq => Rect.mem_of_mem_union hstart inside.1 hq) inside.2 hp

/-- **The bounding box is the least rectangle** around all the others. -/
theorem mem_boundingBox_iff : p ∈ boundingBox rects ↔
    ∀ box : Rect .device, (∀ rect ∈ rects, ∀ q ∈ rect, q ∈ box) → p ∈ box := by
  constructor
  · intro hp box inside
    exact mem_of_mem_foldl_union (fun q hq => absurd hq Rect.not_mem_empty) inside hp
  · intro least
    exact least _ fun rect mem q hq => mem_boundingBox mem hq

/-- A bounding box grows with what it is around. -/
lemma mem_boundingBox_mono {more : List (Rect .device)}
    (inside : ∀ rect ∈ rects, ∀ q ∈ rect, ∃ other ∈ more, q ∈ other) (hp : p ∈ boundingBox rects) :
    p ∈ boundingBox more := by
  refine mem_boundingBox_iff.1 hp _ fun rect mem q hq => ?_
  obtain ⟨other, mem, hq⟩ := inside rect mem q hq
  exact mem_boundingBox mem hq

/-! ## One rectangle -/

/-- Recording a rectangle damages nothing outside of a rectangle around it and the damage so far. -/
lemma mem_of_covers_mark (old : ∀ q, d.Covers bounds q → q ∈ box)
    (new : ∀ q ∈ rect.intersect bounds, q ∈ box) (h : (d.mark rect bounds).Covers bounds p) :
    p ∈ box := by
  simp only [mark] at h
  split_ifs at h with empty whole
  · exact old p h
  · obtain ⟨other, mem, hp⟩ := h
    rw [List.mem_singleton.1 mem] at hp
    exact new p (Rect.mem_of_containsRect whole hp)
  · cases d with
    | nothing =>
        obtain ⟨other, mem, hp⟩ := h
        exact new p (List.mem_singleton.1 mem ▸ hp)
    | everything => exact old p h
    | listed rects =>
        rcases exists_mem_insert_iff.1 h with listed | added | ⟨-, -, merged⟩
        · exact old p listed
        · exact new p added
        · refine mem_boundingBox_iff.1 merged box fun other mem q hq => ?_
          rcases List.mem_append.1 mem with mem | mem
          · exact old q ⟨other, mem, hq⟩
          · exact new q (List.mem_singleton.1 mem ▸ hq)

/-! ## Any number of them -/

/-- **No pixel is added** outside of a rectangle around all of it. -/
theorem mem_of_covers_markAll (old : ∀ q, d.Covers bounds q → q ∈ box)
    (new : ∀ rect ∈ rects, ∀ q ∈ rect.intersect bounds, q ∈ box)
    (h : (d.markAll rects bounds).Covers bounds p) : p ∈ box := by
  induction rects generalizing d with
  | nil => exact old p h
  | cons rect rects ih =>
      rw [List.forall_mem_cons] at new
      exact ih (fun q hq => mem_of_covers_mark old new.1 hq) new.2 h

lemma mem_boundingBox_of_covers_markAll (h : (d.markAll rects bounds).Covers bounds p) :
    p ∈ boundingBox (d.toList bounds ++ rects.map (·.intersect bounds)) := by
  refine mem_of_covers_markAll (fun q hq => ?_) (fun rect mem q hq => ?_) h
  · obtain ⟨rect, mem, hq⟩ := hq
    exact mem_boundingBox (List.mem_append_left _ mem) hq
  · exact mem_boundingBox (List.mem_append_right _ (List.mem_map_of_mem mem)) hq

end Damage

namespace Painter

variable {p p' : Painter} {ok : TileKey → DrawOutcome → Prop} {rects : List (Rect .device)}

/-! ## What the next pass takes out -/

/-- A paint pass that works through `rects`, after it has received all requests and has taken
everything out of the damage. -/
def paintOver (p : Painter) (rects : List (Rect .device)) (renderer : SubmittingRenderer σ) (s : σ) :
    PaintReport × Painter × σ :=
  let painted := p.started.paintRects rects renderer s
  ({ ready := if p.unclear then #[p.surface.bounds] ++ painted.1.ready else painted.1.ready
     pending := painted.1.pending
     cleared := p.unclear },
    { painted.2.1 with phase := .idle }.carryOutDeferred, painted.2.2)

lemma filled_receive (filled : p.surface.isEmpty = false) : ¬ p.receive.surface.isEmpty = true := by
  rw [← Bitmap.isEmpty_bounds, (sameFrame_receive p).bounds, Bitmap.isEmpty_bounds, filled]
  exact Bool.false_ne_true

/-- **A paint pass works through the rectangles that are listed** when it has received all requests.
(A surface without pixels is not painted, even if there is something on its list.) -/
theorem paint_eq_paintOver (filled : p.surface.isEmpty = false) (renderer : SubmittingRenderer σ)
    (s : σ) : p.paint renderer s = p.receive.paintOver p.receive.damageList renderer s := by
  rw [damageList_eq_work fun hollow => filled_receive filled hollow.1]
  exact paint_of_not_isEmpty (filled_receive filled) renderer s

/-- Of what is listed, a pass leaves nothing. -/
lemma damageList_paint (honest : p.Honest ok) (filled : p.surface.isEmpty = false)
    (renderer : Renderer σ) (s : σ) : (p.paint (.ofRenderer renderer) s).2.1.damageList = [] := by
  have none : (p.paint (.ofRenderer renderer) s).2.1.damage = .nothing := by
    rw [paint_ofRenderer honest (filled_receive filled)]
    exact damage_paintRects p.receive.started _ _ s
  rw [damageList, none]
  rfl

/-! ## Requests for surface pixels -/

/-- `p'` has gathered `rects` on top of the damage of `p`. -/
structure Gathers (p : Painter) (rects : List (Rect .device)) (p' : Painter) : Prop where
  /-- No pixel of the surface is lost. -/
  kept : ∀ q ∈ p.surface.bounds, (p.Damaged q ∨ ∃ rect ∈ rects, q ∈ rect) → p'.Damaged q
  tight : ∀ q, p'.Damaged q →
    q ∈ Damage.boundingBox (p.damageList ++ rects.map (·.intersect p.surface.bounds))
  /-- The next pass works through what is listed, with what was submitted carried out. -/
  drained : ∀ {σ : Type} (renderer : SubmittingRenderer σ) (s : σ),
    p'.paint renderer s = p'.receive.paintOver p'.receive.damageList renderer s
  /-- Nothing of it is left, unless there are new requests. -/
  emptied : ∀ {σ : Type} (renderer : Renderer σ) (s : σ),
    (p'.paint (.ofRenderer renderer) s).2.1.damageList = []
  /-- If nothing was submitted, it is what is listed at once. -/
  settled : p'.inbox = [] → p'.receive = p'

/-- What has been asked for is gathered as far as it does not overflow. -/
lemma Honest.gathers_foldl_request (honest : p.Honest ok) (filled : p.surface.isEmpty = false)
    (rects : List (Rect .device)) :
    p.Gathers (rects.map Rect.effective)
      ((rects.map PaintRequest.damaged).foldl Painter.request p) := by
  have after : ((rects.map PaintRequest.damaged).foldl Painter.request p).Honest ok := by
    refine honest.foldl_request fun request mem => ?_
    obtain ⟨rect, -, rfl⟩ := List.mem_map.1 mem
    trivial
  rw [foldl_request_damaged honest.idle] at after ⊢
  exact {
    kept := fun q hbounds h => Damage.covers_markAll hbounds h
    tight := fun q h => Damage.mem_boundingBox_of_covers_markAll h
    drained := paint_eq_paintOver filled
    emptied := damageList_paint after filled
    settled := receive_of_inbox_nil }

/-- Requests for the pixels of `rects` have been given to `p`, or had been submitted to it. -/
inductive Asked (p : Painter) (rects : List (Rect .device)) : Painter → Prop where
  | given : Asked p rects ((rects.map PaintRequest.damaged).foldl Painter.request p)
  | submitted (inbox : p.inbox = rects.map PaintRequest.damaged) : Asked p rects p.receive

lemma Honest.gathers (honest : p.Honest ok) (filled : p.surface.isEmpty = false)
    (asked : p.Asked rects p') : p.Gathers (rects.map Rect.effective) p' := by
  cases asked with
  | given => exact honest.gathers_foldl_request filled rects
  | submitted inbox =>
      have opened : ({ p with inbox := [] } : Painter).Honest ok :=
        ⟨honest.idle, honest.deferred, fun _ mem => absurd mem List.not_mem_nil, honest.sound⟩
      obtain ⟨kept, tight, drained, emptied, settled⟩ := opened.gathers_foldl_request filled rects
      rw [Painter.receive, inbox]
      exact ⟨kept, tight, drained, emptied, settled⟩

/-- Rectangles are gathered if no pixel is lost of those that overflow. -/
lemma Gathers.of_effective (gathers : p.Gathers (rects.map Rect.effective) p')
    (kept : ∀ rect ∈ rects, rect.overflows = true →
      ∀ q ∈ p.surface.bounds, q ∈ rect → p'.Damaged q) : p.Gathers rects p' where
  kept := by
    rintro q hbounds (before | ⟨rect, mem, hq⟩)
    · exact gathers.kept q hbounds (.inl before)
    · cases overflows : rect.overflows with
      | true => exact kept rect mem overflows q hbounds hq
      | false =>
          have hq := Rect.mem_effective.2 ⟨overflows, hq⟩
          exact gathers.kept q hbounds (.inr ⟨_, List.mem_map_of_mem mem, hq⟩)
  tight q damaged := by
    refine Damage.mem_boundingBox_mono (fun other mem q hq => ?_) (gathers.tight q damaged)
    rw [List.map_map, List.mem_append, List.mem_map] at mem
    rcases mem with mem | ⟨rect, mem, rfl⟩
    · exact ⟨other, List.mem_append_left _ mem, hq⟩
    · obtain ⟨hq, hbounds⟩ := Rect.mem_intersect.1 hq
      refine ⟨_, List.mem_append_right _ (List.mem_map_of_mem mem), ?_⟩
      exact Rect.mem_intersect.2 ⟨(Rect.mem_effective.1 hq).2, hbounds⟩
  drained := gathers.drained
  emptied := gathers.emptied
  settled := gathers.settled

/-- A surface of 66 pixels in a row that has been painted. -/
def paintedRow : Painter :=
  (((create .default DocumentCache.defaultTileEdge).resize ⟨66, 1⟩).paint
    (.ofRenderer (.constant fun job => .drawn job.bitmap)) ()).2.1

/-- All but the first pixel, and as far on as a rectangle can reach. -/
def farAndWide : Rect .device := ⟨1, 0, Rounding.maxInt64, 1⟩

end Painter

end TiledView
