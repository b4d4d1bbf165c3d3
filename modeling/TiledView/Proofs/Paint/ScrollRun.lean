import Mathlib.Logic.Relation
import TiledView.Proofs.Paint.Coherence

/-!
# A scrolled surface shows the document

After a surface got its size it is painted, scrolled and invalidated in any order.  A run of such
steps is a chain of `Painter.ViewStep`s: paints whose pending rectangles are damaged again, requests
and late results, and scrolls, each of which moves content and the placement by the same shifts.

`Painter.scroll_coherent` says that pixels are never stale along a run.  What is carried from step
to step is `Painter.Tracks`: besides coherence, a surface that has not been cleared is damaged as a
whole, and requests that still wait to be received may move content only while everything is
damaged.  The far edges of the surface fit in words, so nothing that a paint reports overflows.
-/

namespace TiledView

variable {σ : Type} {t : Tiling} {content : Nat → Bitmap} {g : Nat} {origin q : Point .device}

lemma Bitmap.not_mem_bounds_of_isEmpty {b : Bitmap} (empty : b.isEmpty = true) : q ∉ b.bounds := by
  intro hq
  have inside := Bitmap.mem_bounds.1 hq
  rw [isEmpty, beq_iff_eq, Nat.mul_eq_zero] at empty
  omega

lemma Renderer.Draws.answers {renderer : Renderer σ} (draws : renderer.Draws g content) :
    (SubmittingRenderer.ofRenderer renderer).Answers (Renders g content) :=
  fun job deadline s => ⟨draws job deadline s, fun _ mem => absurd mem List.not_mem_nil⟩

namespace Placement

lemma origin_scrolledBy (placement : Placement) (shift : AxisShift) :
    (placement.scrolledBy shift).origin = placement.origin.offset
      (-(Painter.offsetOf shift).1) (-(Painter.offsetOf shift).2) := by
  simp only [origin, scrolledBy, Point.offset, Point.mk.injEq]
  omega

lemma foldl_scrolledBy (shifts : List AxisShift) (placement : Placement) :
    (shifts.foldl scrolledBy placement).area = placement.area ∧
      (shifts.foldl scrolledBy placement).scale = placement.scale ∧
      (shifts.foldl scrolledBy placement).part = placement.part ∧
      (shifts.foldl scrolledBy placement).origin = shifts.foldl (fun origin shift =>
        origin.offset (-(Painter.offsetOf shift).1) (-(Painter.offsetOf shift).2))
          placement.origin := by
  induction shifts generalizing placement with
  | nil => exact ⟨rfl, rfl, rfl, rfl⟩
  | cons shift shifts ih =>
      have rest := ih (placement.scrolledBy shift)
      rw [origin_scrolledBy] at rest
      exact rest

end Placement

namespace Painter

variable {p p' : Painter}

/-! ## Steps -/

/-- A paint pass, after which the rectangles that still wait are damaged again. -/
def paintAgain (p : Painter) (renderer : Renderer σ) (s : σ) : Painter :=
  let painted := p.paint (.ofRenderer renderer) s
  painted.1.pending.toList.foldl (fun p rect => p.request (.damaged rect)) painted.2.1

/-- Moves the content of the placement's area by `shifts`, and the placement with it. -/
def scrollView (p : Painter) (shifts : List AxisShift) : Painter :=
  let moved := shifts.foldl (fun p shift => p.request (.scroll p.placement.area shift)) p
  { moved with placement := shifts.foldl Placement.scrolledBy moved.placement }

/-- One step of a view that has got its size. -/
inductive ViewStep (ok : TileKey → DrawOutcome → Prop) : Painter → Painter → Prop where
  | paint {σ : Type} (p : Painter) (renderer : Renderer σ) (s : σ)
      (draws : ∀ job deadline s, ok job.key (renderer.draw job deadline s).1) :
      ViewStep ok p (p.paintAgain renderer s)
  | request (p : Painter) (request : PaintRequest) (still : request.Still)
      (delivers : request.Delivers ok) : ViewStep ok p (p.request request)
  | submit (p : Painter) (request : PaintRequest) (still : request.Still)
      (delivers : request.Delivers ok) : ViewStep ok p (p.submit request)
  | receive (p : Painter) : ViewStep ok p p.receive
  | scroll (p : Painter) (shifts : List AxisShift) : ViewStep ok p (p.scrollView shifts)

/-! ## What a run keeps -/

/-- `p` shows generation `g` of a part tiled by `t`, coherent with `content` where surface `(0, 0)`
is pixel `origin` of the extent. -/
structure Tracks (t : Tiling) (content : Nat → Bitmap) (g : Nat) (origin : Point .device)
    (p : Painter) : Prop where
  honest : p.Honest (Renders g content)
  showsPart : p.ShowsPart t g
  unclear : p.unclear = true → p.damage = .everything
  still : p.damage = .everything ∨ ∀ request ∈ p.inbox, request.Still
  coherent : p.CoherentAt t content origin
  sides : p.surface.bounds.right ≤ Rounding.maxInt64 ∧
    p.surface.bounds.bottom ≤ Rounding.maxInt64

namespace Tracks

/-- What a request leaves of everything but coherence. -/
lemma of_request (h : p.Tracks t content g origin) {request : PaintRequest}
    (delivers : request.Delivers (Renders g content)) {origin' : Point .device}
    (coherent : (p.carryOut request).CoherentAt t content origin') :
    (p.request request).Tracks t content g origin' := by
  have frame := sameFrame_request p request
  have honest := h.honest.request delivers
  obtain ⟨-, inbox, unclear⟩ := rest_carryOut p request
  rw [request_of_idle h.honest.idle] at frame honest ⊢
  refine ⟨honest, h.showsPart.of_outline (congrArg Placement.part frame.placement)
    (congrArg Placement.scale frame.placement) frame.outline, ?_, ?_, coherent,
    frame.bounds.symm ▸ h.sides⟩
  · intro hunclear
    exact everything_carryOut (h.unclear (unclear ▸ hunclear)) request
  · rw [inbox]
    exact h.still.imp_left fun everything => everything_carryOut everything request

lemma request (h : p.Tracks t content g origin) {request : PaintRequest} (still : request.Still)
    (delivers : request.Delivers (Renders g content)) :
    (p.request request).Tracks t content g origin :=
  h.of_request delivers ((grows_carryOut still).coherentAt h.coherent)

lemma scroll (h : p.Tracks t content g origin) (shift : AxisShift) :
    (p.request (.scroll p.placement.area shift)).Tracks t content g
      (origin.offset (-(offsetOf shift).1) (-(offsetOf shift).2)) := by
  have delivers : (PaintRequest.scroll p.placement.area shift).Delivers (Renders g content) :=
    trivial
  exact h.of_request delivers (h.coherent.scroll shift)

lemma submit (h : p.Tracks t content g origin) {request : PaintRequest} (still : request.Still)
    (delivers : request.Delivers (Renders g content)) :
    (p.submit request).Tracks t content g origin where
  honest := h.honest.submit delivers
  showsPart := h.showsPart
  unclear := h.unclear
  still := by
    refine h.still.imp_right fun inbox other mem => ?_
    rcases List.mem_append.1 mem with old | new
    · exact inbox other old
    · rw [List.mem_singleton.1 new]
      exact still
  coherent := h.coherent
  sides := h.sides

/-- Either nothing in the inbox moves content, or everything is damaged and stays so. -/
lemma receive (h : p.Tracks t content g origin) : p.receive.Tracks t content g origin := by
  have frame := sameFrame_receive p
  obtain ⟨-, inbox, unclear⟩ := rest_receive h.honest.idle
  have everything : p.damage = .everything → p.receive.damage = .everything := by
    intro everything
    rw [receive_of_idle h.honest.idle]
    exact everything_foldl_carryOut (p := { p with inbox := [] }) everything p.inbox
  refine ⟨h.honest.receive, h.showsPart.of_outline (congrArg Placement.part frame.placement)
    (congrArg Placement.scale frame.placement) frame.outline, ?_, ?_, ?_,
    frame.bounds.symm ▸ h.sides⟩
  · intro hunclear
    exact everything (h.unclear (unclear ▸ hunclear))
  · rw [inbox]
    exact .inr fun _ mem => absurd mem List.not_mem_nil
  · rcases h.still with damaged | still
    · exact coherentAt_of_everything (everything damaged)
    · rw [receive_of_idle h.honest.idle]
      exact (grows_foldl_carryOut (p := { p with inbox := [] }) still).coherentAt h.coherent

end Tracks

/-! ## Paints -/

lemma carryOutDeferred_of_nil (idle : p.phase = .idle) (deferred : p.deferred = [])
    (inbox : p.inbox = []) : p.carryOutDeferred = p := by
  rw [carryOutDeferred_eq idle inbox, deferred]
  show ({ p with deferred := [] } : Painter) = p
  rw [← deferred]

lemma clearSurface_of_clear (clear : ¬ p.unclear = true) : p.clearSurface = p := if_neg clear

lemma unclear_clearSurface (p : Painter) : p.clearSurface.unclear = false := by
  by_cases unclear : p.unclear = true
  · rw [clearSurface, if_pos unclear]
  · rw [clearSurface_of_clear unclear]
    exact Bool.eq_false_iff.2 unclear

/-- Painting the rectangles of a painter that shows a part settles their pixels, and keeps what is
settled. -/
lemma settles_paintRects (fits : t.Fits content) (hwidth : t.size.width ≤ Tiling.maxExtent)
    (hheight : t.size.height ≤ Tiling.maxExtent) {renderer : SubmittingRenderer σ}
    (answers : renderer.Answers (Renders g content))
    (sound : p.cache.Sound (Drawable (Renders g content))) (showsPart : p.ShowsPart t g)
    (rects : List (Rect .device)) (s : σ) (hbounds : q ∈ p.surface.bounds)
    (harea : q ∈ p.placement.area)
    (hextent : q.offset p.placement.origin.x p.placement.origin.y ∈ Rect.ofSize t.size)
    (h : p.surface.Shows t content p.placement.origin q ∨ ∃ rect ∈ rects, q ∈ rect) :
    (p.paintRects rects renderer s).2.1.surface.Shows t content p.placement.origin q ∨
      ∃ rect ∈ (p.paintRects rects renderer s).1.pending, q ∈ rect := by
  obtain ⟨c, found, scale, rfl, generation⟩ := showsPart
  rw [paintRects_of_shown rects renderer s (shown?_eq_some_iff.2 ⟨found, scale⟩)]
  exact PaintPass.settles_foldl fits hwidth hheight answers harea hextent rects _
    (depicts_of_sound sound found generation) hbounds (h.imp_left .inl)

/-- The painter after a pass over a surface with pixels, when the renderer submits nothing. -/
lemma paint_ofRenderer {ok : TileKey → DrawOutcome → Prop} (honest : p.Honest ok)
    (nonempty : ¬ p.receive.surface.isEmpty = true) (renderer : Renderer σ) (s : σ) :
    (p.paint (.ofRenderer renderer) s).2.1 =
      { (p.receive.started.paintRects (p.receive.damage.work p.receive.surface.bounds)
          (.ofRenderer renderer) s).2.1 with phase := .idle } := by
  obtain ⟨-, deferred, inbox⟩ := clearSurface_eq p.receive
  have received := honest.receive
  have quiet : p.receive.started.deferred = [] := deferred.trans received.deferred
  rw [paint_of_not_isEmpty nonempty]
  refine carryOutDeferred_of_nil rfl ?_ ?_
  · refine List.eq_nil_iff_forall_not_mem.2 ?_
    refine forall_deferred_paintRects (P := fun _ => False) (fun _ _ _ _ => List.not_mem_nil) ?_ _ s
    rw [quiet]
    exact fun _ => List.not_mem_nil
  · have noInbox := (rest_receive honest.idle).2.1
    exact ((rest_paintRects p.receive.started _ _ s).1.trans inbox).trans noInbox

namespace Tracks

/-- A surface that a paint leaves uncleared has no pixels. -/
lemma unclear_paint (h : p.Tracks t content g origin) (renderer : Renderer σ) (s : σ)
    (unclear : (p.paint (.ofRenderer renderer) s).2.1.unclear = true) :
    (p.paint (.ofRenderer renderer) s).2.1.damage = .everything := by
  by_cases empty : p.receive.surface.isEmpty = true
  · rw [paint_of_isEmpty empty] at unclear ⊢
    exact h.receive.unclear unclear
  · have cleared : p.receive.started.unclear = false := unclear_clearSurface p.receive
    rw [paint_ofRenderer h.honest empty] at unclear
    rw [← (rest_paintRects _ _ _ _).2, unclear] at cleared
    exact absurd cleared Bool.noConfusion

/-- What a paint reports as pending lies on the surface. -/
lemma pending_paint (h : p.Tracks t content g origin) (renderer : Renderer σ) (s : σ) :
    ∀ rect ∈ (p.paint (.ofRenderer renderer) s).1.pending, ∀ q ∈ rect, q ∈ p.surface.bounds := by
  by_cases empty : p.receive.surface.isEmpty = true
  · rw [paint_of_isEmpty empty]
    exact fun _ mem => absurd mem (Array.not_mem_empty _)
  · have cleared := sameFrame_clearSurface p.receive
    have showsPart : p.receive.started.ShowsPart t g := h.receive.showsPart.of_outline
      (congrArg Placement.part cleared.placement) (congrArg Placement.scale cleared.placement)
      cleared.outline
    obtain ⟨c, found, scale, -, -⟩ := showsPart
    rw [paint_of_not_isEmpty empty, ← (sameFrame_receive p).bounds, ← cleared.bounds]
    dsimp only
    rw [paintRects_of_shown _ _ _ (shown?_eq_some_iff.2 ⟨found, scale⟩)]
    exact PaintPass.pending_foldl _ _ fun _ mem => absurd mem (Array.not_mem_empty _)

/-- After a paint, pixels show the picture or are reported as pending. -/
lemma settles_paint (h : p.Tracks t content g p.placement.origin) (fits : t.Fits content)
    (hwidth : t.size.width ≤ Tiling.maxExtent) (hheight : t.size.height ≤ Tiling.maxExtent)
    {renderer : Renderer σ} (draws : renderer.Draws g content) (s : σ)
    (hbounds : q ∈ p.surface.bounds) (harea : q ∈ p.placement.area)
    (hextent : q.offset p.placement.origin.x p.placement.origin.y ∈ Rect.ofSize t.size) :
    (p.paint (.ofRenderer renderer) s).2.1.surface.Shows t content p.placement.origin q ∨
      ∃ rect ∈ (p.paint (.ofRenderer renderer) s).1.pending, q ∈ rect := by
  have frame := sameFrame_receive p
  have received := h.receive
  rw [← frame.bounds] at hbounds
  have nonempty : ¬ p.receive.surface.isEmpty = true :=
    fun empty => Bitmap.not_mem_bounds_of_isEmpty empty hbounds
  have cleared := sameFrame_clearSurface p.receive
  have placement : p.receive.started.placement = p.placement :=
    cleared.placement.trans frame.placement
  have start : p.receive.started.surface.Shows t content p.placement.origin q ∨
      ∃ rect ∈ p.receive.damage.work p.receive.surface.bounds, q ∈ rect := by
    by_cases unclear : p.receive.unclear = true
    · refine .inr (Damage.exists_mem_work hbounds ?_)
      rw [received.unclear unclear]
      exact Damage.covers_everything hbounds
    · have same : p.receive.started.surface = p.receive.surface := by
        show p.receive.clearSurface.surface = p.receive.surface
        rw [clearSurface_of_clear unclear]
      rw [same, or_comm]
      refine (received.coherent q hbounds ?_ hextent).imp_left (Damage.exists_mem_work hbounds)
      rw [frame.placement]
      exact harea
  have sound : p.receive.started.cache.Sound (Drawable (Renders g content)) :=
    (clearSurface_eq p.receive).1.symm ▸ received.honest.sound
  have showsPart : p.receive.started.ShowsPart t g := received.showsPart.of_outline
    (congrArg Placement.part cleared.placement) (congrArg Placement.scale cleared.placement)
    cleared.outline
  have pending : (p.paint (.ofRenderer renderer) s).1.pending =
      (p.receive.started.paintRects (p.receive.damage.work p.receive.surface.bounds)
        (.ofRenderer renderer) s).1.pending := by rw [paint_of_not_isEmpty nonempty]
  rw [paint_ofRenderer h.honest nonempty, pending]
  rw [← placement] at harea hextent start ⊢
  exact settles_paintRects fits hwidth hheight draws.answers sound showsPart _ s
    (cleared.bounds.symm ▸ hbounds) harea hextent start

end Tracks

lemma sameFrame_paintAgain (idle : p.phase = .idle) (renderer : Renderer σ) (s : σ) :
    SameFrame p (p.paintAgain renderer s) := by
  refine (sameFrame_paint p idle (.ofRenderer renderer) s).trans ?_
  exact sameFrame_foldl (fun p rect => sameFrame_request p (.damaged rect)) _ _

/-- Requests for surface pixels are recorded, as far as they do not overflow, and do nothing else. -/
lemma foldl_request_damaged (idle : p.phase = .idle) (rects : List (Rect .device)) :
    (rects.map PaintRequest.damaged).foldl Painter.request p =
      { p with damage := p.damage.markAll (rects.map Rect.effective) p.surface.bounds } := by
  induction rects generalizing p with
  | nil => rfl
  | cons rect rects ih =>
      rw [List.map_cons, List.foldl_cons, request_of_idle idle]
      exact ih idle

namespace Tracks

/-- The pixels that a paint could not make right are damaged again. -/
lemma paintAgain (h : p.Tracks t content g p.placement.origin) (fits : t.Fits content)
    (hwidth : t.size.width ≤ Tiling.maxExtent) (hheight : t.size.height ≤ Tiling.maxExtent)
    {renderer : Renderer σ} (draws : renderer.Draws g content) (s : σ) :
    (p.paintAgain renderer s).Tracks t content g p.placement.origin := by
  have frame := sameFrame_paint p h.honest.idle (.ofRenderer renderer) s
  have inbox := (queues_paint h.honest.idle h.honest.deferred (.ofRenderer renderer) s).2
  have honest := h.honest.paint draws.answers s
  have unclear := h.unclear_paint renderer s
  have settles := fun q hbounds harea hextent =>
    h.settles_paint (q := q) fits hwidth hheight draws s hbounds harea hextent
  have inside := h.pending_paint renderer s
  simp only [Painter.paintAgain]
  generalize p.paint (.ofRenderer renderer) s = painted
    at frame inbox honest unclear settles inside ⊢
  rw [← List.foldl_map (f := PaintRequest.damaged) (g := Painter.request)]
  generalize hrequests : painted.1.pending.toList.map PaintRequest.damaged = requests
  have still : ∀ request ∈ requests, request.Still ∧ request.Delivers (Renders g content) := by
    intro request mem
    rw [← hrequests] at mem
    obtain ⟨rect, -, rfl⟩ := List.mem_map.1 mem
    exact ⟨trivial, trivial⟩
  have again := frame.trans (sameFrame_foldl sameFrame_request requests painted.2.1)
  have honestAgain := honest.foldl_request fun request mem => (still request mem).2
  rw [foldl_request_of_idle honest.idle] at again honestAgain ⊢
  have grows := grows_foldl_carryOut (p := painted.2.1) fun request mem => (still request mem).1
  obtain ⟨-, inboxAgain, unclearAgain⟩ := rest_foldl_carryOut requests painted.2.1
  refine ⟨honestAgain, h.showsPart.of_outline (congrArg Placement.part again.placement)
    (congrArg Placement.scale again.placement) again.outline, ?_, ?_, ?_,
    again.bounds.symm ▸ h.sides⟩
  · intro hunclear
    exact everything_foldl_carryOut (unclear (unclearAgain ▸ hunclear)) requests
  · rw [inboxAgain, inbox]
    exact .inr fun _ mem => absurd mem List.not_mem_nil
  · intro q hbounds harea hextent
    rw [again.bounds] at hbounds
    rw [again.placement] at harea
    rw [grows.surface]
    refine (settles q hbounds harea hextent).symm.imp_left ?_
    rintro ⟨rect, mem, hq⟩
    have fits := Rect.mem_effective_of_inside h.sides.1 h.sides.2 (inside rect mem) hq
    rw [← foldl_request_of_idle honest.idle, ← hrequests, foldl_request_damaged honest.idle]
    exact Damage.covers_markAll (frame.bounds.symm ▸ hbounds)
      (.inr ⟨_, List.mem_map_of_mem (Array.mem_toList_iff.2 mem), fits⟩)

end Tracks

/-! ## Scrolls -/

namespace Tracks

lemma foldl_scroll (h : p.Tracks t content g origin) (shifts : List AxisShift) :
    (shifts.foldl (fun p shift => p.request (.scroll p.placement.area shift)) p).Tracks t content g
      (shifts.foldl (fun origin shift =>
        origin.offset (-(offsetOf shift).1) (-(offsetOf shift).2)) origin) := by
  induction shifts generalizing p origin with
  | nil => exact h
  | cons shift shifts ih => exact ih (h.scroll shift)

lemma scrollView (h : p.Tracks t content g p.placement.origin) (shifts : List AxisShift) :
    (p.scrollView shifts).Tracks t content g (p.scrollView shifts).placement.origin := by
  have moved := h.foldl_scroll shifts
  have frame := sameFrame_foldl
    (fun p (shift : AxisShift) => sameFrame_request p (.scroll p.placement.area shift)) shifts p
  simp only [Painter.scrollView]
  generalize shifts.foldl (fun p shift => p.request (.scroll p.placement.area shift)) p = q
    at moved frame ⊢
  obtain ⟨area, scale, part, origin⟩ := Placement.foldl_scrolledBy shifts q.placement
  rw [← frame.placement] at moved
  rw [origin]
  refine ⟨moved.honest.place _, moved.showsPart.of_outline part scale rfl, moved.unclear,
    moved.still, ?_, moved.sides⟩
  intro r hbounds harea hextent
  exact moved.coherent r hbounds (area ▸ harea) hextent

/-- **Every step keeps a surface coherent** with its placement. -/
lemma step (h : p.Tracks t content g p.placement.origin) (fits : t.Fits content)
    (hwidth : t.size.width ≤ Tiling.maxExtent) (hheight : t.size.height ≤ Tiling.maxExtent)
    (step : ViewStep (Renders g content) p p') : p'.Tracks t content g p'.placement.origin := by
  cases step with
  | paint _ renderer s draws =>
      rw [(sameFrame_paintAgain h.honest.idle renderer s).placement]
      exact h.paintAgain fits hwidth hheight draws s
  | request _ request still delivers =>
      rw [(sameFrame_request p request).placement]
      exact h.request still delivers
  | submit _ request still delivers => exact h.submit still delivers
  | receive =>
      rw [(sameFrame_receive p).placement]
      exact h.receive
  | scroll _ shifts => exact h.scrollView shifts

end Tracks

/-- The far edges of a surface fit. -/
lemma bounds_blank_le (width height : Int) :
    (Bitmap.blank (sideOf width) (sideOf height)).bounds.right ≤ Rounding.maxInt64 ∧
      (Bitmap.blank (sideOf width) (sideOf height)).bounds.bottom ≤ Rounding.maxInt64 := by
  have far (extent : Int) : (0 : Int) + sideOf extent ≤ Rounding.maxInt64 := by
    rw [Int.zero_add]
    exact sideOf_le_maxInt64 extent
  exact ⟨far width, far height⟩

/-- A surface that has just got its size is damaged as a whole. -/
lemma tracks_resize (reachable : Reachable (Renders g content) p) (showsPart : p.ShowsPart t g)
    {size : Size .device}
    (changes : ¬ (p.surface.width = sideOf size.width ∧ p.surface.height = sideOf size.height)) :
    (p.resize size).Tracks t content g origin := by
  have honest := reachable.honest.resize size
  have resized : p.resize size = { p with
      surface := .blank (sideOf size.width) (sideOf size.height), unclear := true
      damage := .everything } := if_neg changes
  rw [resized] at honest ⊢
  exact ⟨honest, showsPart, fun _ => rfl, .inl rfl, coherentAt_of_everything rfl,
    bounds_blank_le _ _⟩

lemma Tracks.run (h : p.Tracks t content g p.placement.origin) (fits : t.Fits content)
    (hwidth : t.size.width ≤ Tiling.maxExtent) (hheight : t.size.height ≤ Tiling.maxExtent)
    (run : Relation.ReflTransGen (ViewStep (Renders g content)) p p') :
    p'.Tracks t content g p'.placement.origin := by
  induction run with
  | refl => exact h
  | tail _ step ih => exact ih.step fits hwidth hheight step

/-- **A scrolled surface shows the document.**  Let tile `i` of generation `g` look like `content i`
in every drawing.  In a run of steps that starts when the surface gets its size, every pixel of the
placement's area with a pixel of the extent behind it waits for the next paint or shows that pixel
of the picture. -/
theorem scroll_coherent (fits : t.Fits content) (hwidth : t.size.width ≤ Tiling.maxExtent)
    (hheight : t.size.height ≤ Tiling.maxExtent) (reachable : Reachable (Renders g content) p)
    (showsPart : p.ShowsPart t g) {size : Size .device}
    (changes : ¬ (p.surface.width = sideOf size.width ∧ p.surface.height = sideOf size.height))
    (run : Relation.ReflTransGen (ViewStep (Renders g content)) (p.resize size) p')
    (hbounds : q ∈ p'.surface.bounds) (harea : q ∈ p'.placement.area)
    (hextent : q.offset p'.placement.origin.x p'.placement.origin.y ∈ Rect.ofSize t.size) :
    (∃ rect ∈ p'.damageList, q ∈ rect) ∨ p'.surface.at? q =
      t.picture content (q.offset p'.placement.origin.x p'.placement.origin.y) := by
  have tracks := (tracks_resize reachable showsPart changes).run fits hwidth hheight run
  exact tracks.coherent q hbounds harea hextent

/-- The three pixels in three colours. -/
def threeColours (_ : Nat) : Bitmap := .ofFn 3 1 fun x _ => x.toUInt32

/-- Two of three pixels have been painted; then the content moves one pixel to the left. -/
def threePixelsScrolled : Painter :=
  ((threePixels.resize ⟨2, 1⟩).paintAgain
    (.constant fun job => .drawn (threeColours job.key.index)) ()).scrollView [⟨.horizontal, -1⟩]

theorem scroll_coherent_threePixels :
    let t : Tiling := .ofSize ⟨3, 1⟩ DocumentCache.defaultTileEdge
    t.Fits threeColours ∧ Reachable (Renders 1 threeColours) threePixels ∧
      threePixels.ShowsPart t 1 ∧
      Relation.ReflTransGen (ViewStep (Renders 1 threeColours)) (threePixels.resize ⟨2, 1⟩)
        threePixelsScrolled ∧
      ((∃ rect ∈ threePixelsScrolled.damageList, (⟨0, 0⟩ : Point .device) ∈ rect) ∨
        threePixelsScrolled.surface.at? ⟨0, 0⟩ = t.picture threeColours
          ((⟨0, 0⟩ : Point .device).offset threePixelsScrolled.placement.origin.x
            threePixelsScrolled.placement.origin.y)) := by
  have fits : (Tiling.ofSize ⟨3, 1⟩ DocumentCache.defaultTileEdge).Fits threeColours := by
    rw [Tiling.Fits]
    decide +kernel
  have shown : (threePixels.cache.parts[0]?.any fun c => c.scale == .identity &&
      decide (c.tiling = .ofSize ⟨3, 1⟩ DocumentCache.defaultTileEdge ∧ c.generation = 1)) =
        true := by decide +kernel
  obtain ⟨c, found, facts⟩ := (Option.any_eq_true _ _).1 shown
  rw [Bool.and_eq_true, decide_eq_true_eq] at facts
  have showsPart : threePixels.ShowsPart (.ofSize ⟨3, 1⟩ DocumentCache.defaultTileEdge) 1 :=
    ⟨c, found, facts.1, facts.2⟩
  have run : Relation.ReflTransGen (ViewStep (Renders 1 threeColours))
      (threePixels.resize ⟨2, 1⟩) threePixelsScrolled := by
    refine .tail (.tail .refl (.paint _ _ () ?_)) (.scroll _ [⟨.horizontal, -1⟩])
    rintro job deadline s bitmap ⟨⟩ -
    rfl
  exact ⟨fits, reachable_threePixels, showsPart, run,
    scroll_coherent fits (by decide) (by decide) reachable_threePixels showsPart (by decide +kernel)
      run (by decide +kernel) (by decide +kernel) (by decide +kernel)⟩

end Painter

end TiledView
