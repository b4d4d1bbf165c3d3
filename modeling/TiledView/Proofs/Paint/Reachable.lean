import TiledView.Proofs.Cache.Action
import TiledView.Proofs.Paint.Frame

/-!
# Painters that can come about

`Painter.Reachable ok p` holds of the painters that a sequence of calls can lead to, between two
calls: the surface is resized, the placement set, requests are given or submitted, the caches are
worked on directly, and paint passes run with renderers that submit requests of their own.  The
parameter `ok` restricts what may come back for a job; nothing else is restricted.

All of them are `Painter.Honest`: no pass is running, no request waits for the end of one, and the
caches are sound, backed by what `ok` lets come back as drawn.
-/

namespace TiledView

variable {σ : Type} {ok : TileKey → DrawOutcome → Prop}

/-- A request that delivers nothing but what `ok` allows. -/
def PaintRequest.Delivers (ok : TileKey → DrawOutcome → Prop) : PaintRequest → Prop
  | .lateResult key outcome => ok key outcome
  | _ => True

/-- A renderer that answers with nothing but what `ok` allows, and submits nothing else either. -/
def SubmittingRenderer.Answers (ok : TileKey → DrawOutcome → Prop) (r : SubmittingRenderer σ) :
    Prop :=
  ∀ job deadline s, ok job.key (r.draw job deadline s).1.1 ∧
    ∀ request ∈ (r.draw job deadline s).1.2, request.Delivers ok

namespace Painter

/-- One call. -/
inductive Step (ok : TileKey → DrawOutcome → Prop) : Painter → Painter → Prop where
  | resize (p : Painter) (size : Size .device) : Step ok p (p.resize size)
  | place (p : Painter) (placement : Placement) : Step ok p { p with placement }
  | request (p : Painter) (request : PaintRequest) (delivers : request.Delivers ok) :
      Step ok p (p.request request)
  | submit (p : Painter) (request : PaintRequest) (delivers : request.Delivers ok) :
      Step ok p (p.submit request)
  | receive (p : Painter) : Step ok p p.receive
  | cache (p : Painter) (action : CacheAction)
      (answers : ∀ answer ∈ p.cache.answered action, ok answer.1 answer.2) :
      Step ok p (p.modifyCache (·.act action))
  | paint {σ : Type} (p : Painter) (renderer : SubmittingRenderer σ) (s : σ)
      (answers : renderer.Answers ok) : Step ok p (p.paint renderer s).2.1

/-- The painters that calls can lead to. -/
inductive Reachable (ok : TileKey → DrawOutcome → Prop) : Painter → Prop where
  | create (settings : PaintSettings) (tileEdge : Nat) : Reachable ok (create settings tileEdge)
  | step {p p' : Painter} (reachable : Reachable ok p) (step : Step ok p p') : Reachable ok p'

/-! ## The queues -/

variable {p : Painter}

/-- Carrying out a request touches neither queue and does not clear the surface. -/
lemma rest_carryOut (p : Painter) (request : PaintRequest) :
    (p.carryOut request).deferred = p.deferred ∧ (p.carryOut request).inbox = p.inbox ∧
      (p.carryOut request).unclear = p.unclear := by
  cases request with
  | staleArea | stalePart | damaged => exact ⟨rfl, rfl, rfl⟩
  | scroll area shift =>
      rw [carryOut]
      rcases scroll_eq p area shift with ⟨-, same⟩ | same | same <;> rw [same] <;>
        exact ⟨rfl, rfl, rfl⟩
  | lateResult key outcome =>
      rw [carryOut]
      rcases takeBack_eq p key outcome with same | ⟨rect, same⟩ <;> rw [same] <;>
        exact ⟨rfl, rfl, rfl⟩

lemma rest_foldl_carryOut (requests : List PaintRequest) (p : Painter) :
    (requests.foldl carryOut p).deferred = p.deferred ∧
      (requests.foldl carryOut p).inbox = p.inbox ∧
      (requests.foldl carryOut p).unclear = p.unclear := by
  induction requests generalizing p with
  | nil => exact ⟨rfl, rfl, rfl⟩
  | cons request requests ih =>
      obtain ⟨deferred, inbox, unclear⟩ := rest_carryOut p request
      obtain ⟨deferred', inbox', unclear'⟩ := ih (p.carryOut request)
      exact ⟨deferred'.trans deferred, inbox'.trans inbox, unclear'.trans unclear⟩

/-- Between two passes, requests are carried out at once. -/
lemma request_of_idle (idle : p.phase = .idle) (request : PaintRequest) :
    p.request request = p.carryOut request := by
  rw [Painter.request, idle]

/-- The surface does not overflow. -/
lemma redraw_of_idle (idle : p.phase = .idle) : p.redraw = p.markDamage p.surface.bounds := by
  rw [redraw, request_of_idle idle, carryOut, Bitmap.bounds, Rect.effective_ofSize]

lemma foldl_request_of_idle (idle : p.phase = .idle) (requests : List PaintRequest) :
    requests.foldl Painter.request p = requests.foldl carryOut p := by
  induction requests generalizing p with
  | nil => rfl
  | cons request requests ih =>
      rw [List.foldl_cons, List.foldl_cons, request_of_idle idle]
      exact ih ((sameFrame_carryOut p request).phase.trans idle)

lemma receive_of_idle (idle : p.phase = .idle) :
    p.receive = p.inbox.foldl carryOut { p with inbox := [] } :=
  foldl_request_of_idle (p := { p with inbox := [] }) idle p.inbox

lemma receive_of_inbox_nil (inbox : p.inbox = []) : p.receive = p := by
  rw [receive, inbox]
  show ({ p with inbox := [] } : Painter) = p
  rw [← inbox]

lemma rest_receive (idle : p.phase = .idle) : p.receive.deferred = p.deferred ∧
    p.receive.inbox = [] ∧ p.receive.unclear = p.unclear := by
  rw [receive_of_idle idle]
  exact rest_foldl_carryOut p.inbox { p with inbox := [] }

/-- Requests that waited for a pass are given to the painter after it. -/
lemma carryOutDeferred_eq (idle : p.phase = .idle) (inbox : p.inbox = []) :
    p.carryOutDeferred = p.deferred.foldl Painter.request { p with deferred := [] } := by
  rw [foldl_request_of_idle (p := { p with deferred := [] }) idle, carryOutDeferred]
  refine receive_of_inbox_nil ?_
  exact (rest_foldl_carryOut p.deferred { p with deferred := [] }).2.1.trans inbox

/-- The last thing a pass does leaves no request behind. -/
lemma queues_carryOutDeferred (idle : p.phase = .idle) :
    p.carryOutDeferred.deferred = [] ∧ p.carryOutDeferred.inbox = [] := by
  have carried := rest_foldl_carryOut p.deferred { p with deferred := [] }
  have phase := (sameFrame_foldl sameFrame_carryOut p.deferred { p with deferred := [] }).phase
  have received := rest_receive (phase.trans idle)
  exact ⟨received.1.trans carried.1, received.2.1⟩

lemma queues_paint (idle : p.phase = .idle) (quiet : p.deferred = [])
    (renderer : SubmittingRenderer σ) (s : σ) :
    (p.paint renderer s).2.1.deferred = [] ∧ (p.paint renderer s).2.1.inbox = [] := by
  by_cases empty : p.receive.surface.isEmpty = true
  · rw [paint_of_isEmpty empty]
    exact ⟨(rest_receive idle).1.trans quiet, (rest_receive idle).2.1⟩
  · rw [paint_of_not_isEmpty empty]
    exact queues_carryOutDeferred rfl

lemma clearSurface_eq (p : Painter) : p.clearSurface.cache = p.cache ∧
    p.clearSurface.deferred = p.deferred ∧ p.clearSurface.inbox = p.inbox := by
  rw [clearSurface]
  split_ifs <;> exact ⟨rfl, rfl, rfl⟩

lemma rest_paintRects (p : Painter) (rects : List (Rect .device))
    (renderer : SubmittingRenderer σ) (s : σ) :
    (p.paintRects rects renderer s).2.1.inbox = p.inbox ∧
      (p.paintRects rects renderer s).2.1.unclear = p.unclear := by
  simp only [paintRects]
  split
  · exact ⟨rfl, rfl⟩
  · split_ifs <;> exact ⟨rfl, rfl⟩

/-! ## Sound caches -/

/-- The bitmaps that `ok` lets come back as drawn. -/
def Drawable (ok : TileKey → DrawOutcome → Prop) (key : TileKey) (bitmap : Bitmap) : Prop :=
  ok key (.drawn bitmap)

lemma cache_scroll (area : Rect .device) (shift : AxisShift) :
    (p.scroll area shift).cache = p.cache := by
  rcases scroll_eq p area shift with ⟨-, same⟩ | same | same <;> rw [same] <;> rfl

lemma cache_takeBack (key : TileKey) (outcome : DrawOutcome) :
    (p.takeBack key outcome).cache = (p.cache.takeBack key outcome).2 := by
  obtain same | ⟨rect, same⟩ := takeBack_eq p key outcome
  · rw [same]
  · rw [same]; rfl

lemma sound_carryOut (h : p.cache.Sound (Drawable ok)) {request : PaintRequest}
    (delivers : request.Delivers ok) : (p.carryOut request).cache.Sound (Drawable ok) := by
  cases request with
  | staleArea part area =>
      show (p.cache.act (.staleArea part area)).Sound (Drawable ok)
      exact h.act fun _ _ mem => absurd mem List.not_mem_nil
  | stalePart part =>
      show (p.cache.act (.stalePart part)).Sound (Drawable ok)
      exact h.act fun _ _ mem => absurd mem List.not_mem_nil
  | damaged => exact h
  | scroll area shift =>
      show (p.scroll area shift).cache.Sound (Drawable ok)
      rw [cache_scroll]
      exact h
  | lateResult key outcome =>
      show (p.takeBack key outcome).cache.Sound (Drawable ok)
      rw [cache_takeBack]
      show (p.cache.act (.late key outcome)).Sound (Drawable ok)
      refine h.act ?_
      intro k bitmap mem
      have same : (k, DrawOutcome.drawn bitmap) = (key, outcome) := List.mem_singleton.1 mem
      cases same
      exact delivers

lemma sound_foldl_carryOut (h : p.cache.Sound (Drawable ok)) {requests : List PaintRequest}
    (delivers : ∀ request ∈ requests, request.Delivers ok) :
    (requests.foldl carryOut p).cache.Sound (Drawable ok) := by
  induction requests generalizing p with
  | nil => exact h
  | cons request requests ih =>
      obtain ⟨first, rest⟩ := List.forall_mem_cons.1 delivers
      exact ih (sound_carryOut h first) rest

lemma sound_receive (h : p.cache.Sound (Drawable ok)) (idle : p.phase = .idle)
    (inbox : ∀ request ∈ p.inbox, request.Delivers ok) :
    p.receive.cache.Sound (Drawable ok) := by
  rw [receive_of_idle idle]
  exact sound_foldl_carryOut (p := { p with inbox := [] }) h inbox

lemma sound_carryOutDeferred (h : p.cache.Sound (Drawable ok)) (idle : p.phase = .idle)
    (deferred : ∀ request ∈ p.deferred, request.Delivers ok)
    (inbox : ∀ request ∈ p.inbox, request.Delivers ok) :
    p.carryOutDeferred.cache.Sound (Drawable ok) := by
  have carried := sound_foldl_carryOut (p := { p with deferred := [] }) h deferred
  have phase := (sameFrame_foldl sameFrame_carryOut p.deferred { p with deferred := [] }).phase
  refine sound_receive carried (phase.trans idle) ?_
  rw [(rest_foldl_carryOut p.deferred { p with deferred := [] }).2.1]
  exact inbox

end Painter

section Passes

variable {renderer : SubmittingRenderer σ}

section Submitted

variable {P : PaintRequest → Prop}
  (submits : ∀ job deadline s, ∀ request ∈ (renderer.draw job deadline s).1.2, P request)

include submits

/-- What is submitted during a pass over a part. -/
lemma PartCache.forall_submitted (c : PartCache Float) (surface : Bitmap) (window : PaintWindow)
    (dirty : Rect .device) (deadline : Nat) (s : σ) :
    ∀ request ∈ (c.sweep surface window dirty deadline renderer.collecting (s, [])).renderer.2,
      P request := by
  refine sweep_rec (P := fun pass : TilePass Float (σ × List PaintRequest) =>
    ∀ request ∈ pass.renderer.2, P request) c surface dirty (s, [])
    (fun _ mem => absurd mem List.not_mem_nil) ?_
  intro pass index pass' visited ih
  cases visited with
  | missing | shown | lent | late => exact ih
  | drawn | deferred | failed =>
      intro request mem
      rcases List.mem_append.1 mem with old | new
      · exact ih request old
      · exact submits _ _ _ request new

lemma PaintPass.forall_deferred_paintRect {pass : PaintPass σ}
    (h : ∀ request ∈ pass.deferred, P request) (placement : Placement) (deadline : Nat)
    (rect : Rect .device) :
    ∀ request ∈ (pass.paintRect renderer placement deadline rect).deferred, P request := by
  simp only [paintRect]
  split_ifs
  · exact h
  · intro request mem
    rcases List.mem_append.1 mem with old | new
    · exact h request old
    · exact PartCache.forall_submitted submits _ _ _ _ _ _ request new

/-- What waits for the end of a pass was waiting before or has been submitted. -/
lemma Painter.forall_deferred_paintRects {p : Painter} (h : ∀ request ∈ p.deferred, P request)
    (rects : List (Rect .device)) (s : σ) :
    ∀ request ∈ (p.paintRects rects renderer s).2.1.deferred, P request := by
  cases shown : p.shown? with
  | none =>
      rw [paintRects_of_not_shown rects renderer s shown]
      exact h
  | some cache =>
      rw [paintRects_of_shown rects renderer s shown]
      refine List.foldlRecOn
        (motive := fun pass : PaintPass σ => ∀ request ∈ pass.deferred, P request) rects _ h ?_
      intro pass ih rect _
      exact PaintPass.forall_deferred_paintRect submits ih _ _ rect

end Submitted

namespace PaintPass

variable {tileEdge next part deadline : Nat} {pass : PaintPass σ} {placement : Placement}

/-- A pass keeps the cache of its part sound. -/
lemma soundPart_paintRect
    (h : DocumentCache.SoundPart (Painter.Drawable ok) tileEdge next part pass.cache)
    (answers : renderer.Answers ok) (rect : Rect .device) :
    DocumentCache.SoundPart (Painter.Drawable ok) tileEdge next part
      (pass.paintRect renderer placement deadline rect).cache := by
  simp only [PaintPass.paintRect]
  split_ifs
  · exact h
  · refine h.evolve (PartCache.Evolves.sweep ..) (Nat.le_refl next) ?_
    intro key bitmap drawn
    exact PartCache.forall_recorded (fun _ _ _ => (answers _ _ _).1) _ _ _ _ _ _ drawn

end PaintPass

namespace Painter

variable {p : Painter}

lemma sound_paintRects (h : p.cache.Sound (Drawable ok)) (answers : renderer.Answers ok)
    (rects : List (Rect .device)) (s : σ) :
    (p.paintRects rects renderer s).2.1.cache.Sound (Drawable ok) := by
  cases shown : p.shown? with
  | none =>
      rw [paintRects_of_not_shown rects renderer s shown]
      exact h
  | some cache =>
      have found := (shown?_eq_some_iff.1 shown).1
      have sound : DocumentCache.SoundPart (Drawable ok) p.cache.tileEdge p.cache.nextGeneration
          p.placement.part (p.passOver rects renderer s cache).cache := by
        refine List.foldlRecOn (motive := fun pass : PaintPass σ => DocumentCache.SoundPart
          (Drawable ok) p.cache.tileEdge p.cache.nextGeneration p.placement.part pass.cache)
          rects _ (h _ cache found) ?_
        intro pass ih rect _
        exact PaintPass.soundPart_paintRect ih answers rect
      rw [paintRects_of_shown rects renderer s shown]
      exact h.setPart sound

/-- No pass is running, and nothing but what `ok` allows has come back or is about to be
delivered. -/
structure Honest (ok : TileKey → DrawOutcome → Prop) (p : Painter) : Prop where
  idle : p.phase = .idle
  deferred : p.deferred = []
  inbox : ∀ request ∈ p.inbox, request.Delivers ok
  sound : p.cache.Sound (Drawable ok)

namespace Honest

lemma create (settings : PaintSettings) (tileEdge : Nat) :
    (create settings tileEdge).Honest ok where
  idle := rfl
  deferred := rfl
  inbox := fun _ mem => absurd mem List.not_mem_nil
  sound := DocumentCache.sound_ofTileEdge tileEdge

lemma resize (h : p.Honest ok) (size : Size .device) : (p.resize size).Honest ok := by
  simp only [Painter.resize]
  split_ifs
  · exact h
  · exact ⟨h.idle, h.deferred, h.inbox, h.sound⟩

lemma place (h : p.Honest ok) (placement : Placement) : { p with placement }.Honest ok :=
  ⟨h.idle, h.deferred, h.inbox, h.sound⟩

lemma request (h : p.Honest ok) {request : PaintRequest} (delivers : request.Delivers ok) :
    (p.request request).Honest ok := by
  obtain ⟨deferred, inbox, -⟩ := rest_carryOut p request
  rw [request_of_idle h.idle]
  exact ⟨(sameFrame_carryOut p request).phase.trans h.idle, deferred.trans h.deferred,
    inbox.symm ▸ h.inbox, sound_carryOut h.sound delivers⟩

lemma foldl_request (h : p.Honest ok) {requests : List PaintRequest}
    (delivers : ∀ request ∈ requests, request.Delivers ok) :
    (requests.foldl Painter.request p).Honest ok := by
  induction requests generalizing p with
  | nil => exact h
  | cons request requests ih =>
      obtain ⟨first, rest⟩ := List.forall_mem_cons.1 delivers
      exact ih (h.request first) rest

lemma submit (h : p.Honest ok) {request : PaintRequest} (delivers : request.Delivers ok) :
    (p.submit request).Honest ok where
  idle := h.idle
  deferred := h.deferred
  inbox := by
    intro other mem
    rcases List.mem_append.1 mem with old | new
    · exact h.inbox other old
    · rw [List.mem_singleton.1 new]
      exact delivers
  sound := h.sound

lemma receive (h : p.Honest ok) : p.receive.Honest ok where
  idle := (sameFrame_receive p).phase.trans h.idle
  deferred := (rest_receive h.idle).1.trans h.deferred
  inbox := by
    rw [(rest_receive h.idle).2.1]
    exact fun _ mem => absurd mem List.not_mem_nil
  sound := sound_receive h.sound h.idle h.inbox

lemma cache (h : p.Honest ok) {action : CacheAction}
    (answers : ∀ answer ∈ p.cache.answered action, ok answer.1 answer.2) :
    (p.modifyCache (·.act action)).Honest ok :=
  ⟨h.idle, h.deferred, h.inbox, h.sound.act fun _ _ mem => answers _ mem⟩

/-- It is enough to know that the caches are sound when the rectangles have been painted. -/
lemma paint_of_sound (h : p.Honest ok) (s : σ)
    (submits : ∀ job deadline s, ∀ request ∈ (renderer.draw job deadline s).1.2,
      request.Delivers ok)
    (sound : (p.receive.started.paintRects (p.receive.damage.work p.receive.surface.bounds)
      renderer s).2.1.cache.Sound (Drawable ok)) : (p.paint renderer s).2.1.Honest ok where
  idle := (sameFrame_paint p h.idle renderer s).phase.trans h.idle
  deferred := (queues_paint h.idle h.deferred renderer s).1
  inbox := by
    rw [(queues_paint h.idle h.deferred renderer s).2]
    exact fun _ mem => absurd mem List.not_mem_nil
  sound := by
    have received := h.receive
    by_cases empty : p.receive.surface.isEmpty = true
    · rw [paint_of_isEmpty empty]
      exact received.sound
    · rw [paint_of_not_isEmpty empty]
      obtain ⟨-, deferred, inbox⟩ := clearSurface_eq p.receive
      have none : p.receive.started.deferred = [] := deferred.trans received.deferred
      have waiting := forall_deferred_paintRects submits (p := p.receive.started)
        (by rw [none]; exact fun _ mem => absurd mem List.not_mem_nil)
        (p.receive.damage.work p.receive.surface.bounds) s
      refine sound_carryOutDeferred sound rfl waiting ?_
      dsimp only
      rw [(rest_paintRects _ _ _ _).1]
      exact inbox.symm ▸ received.inbox

lemma paint (h : p.Honest ok) (answers : renderer.Answers ok) (s : σ) :
    (p.paint renderer s).2.1.Honest ok := by
  have cleared : p.receive.started.cache.Sound (Drawable ok) :=
    (clearSurface_eq p.receive).1.symm ▸ h.receive.sound
  exact h.paint_of_sound s (fun job deadline s => (answers job deadline s).2)
    (sound_paintRects cleared answers _ s)

end Honest

/-- **Between two calls, no pass is running and every cache is sound.** -/
theorem Reachable.honest (reachable : Reachable ok p) : p.Honest ok := by
  induction reachable with
  | create settings tileEdge => exact .create settings tileEdge
  | step _ step ih =>
      cases step with
      | resize _ size => exact ih.resize size
      | place _ placement => exact ih.place placement
      | request _ _ delivers => exact ih.request delivers
      | submit _ _ delivers => exact ih.submit delivers
      | receive => exact ih.receive
      | cache _ _ answers => exact ih.cache answers
      | paint _ _ s answers => exact ih.paint answers s

/-! ## An example -/

/-- A document of three pixels in a row, of which two are to be seen, before the surface got its
size. -/
def threePixels : Painter :=
  { (create .default DocumentCache.defaultTileEdge).modifyCache
      (·.act (.fit 1 .identity ⟨45, 15⟩)) with placement := ⟨⟨0, 0, 2, 1⟩, .zero, .identity, 0⟩ }

lemma reachable_threePixels : Reachable ok threePixels :=
  .step (.step (.create _ _) (.cache _ (.fit 1 .identity ⟨45, 15⟩)
    fun _ mem => absurd mem List.not_mem_nil)) (.place _ _)

end Painter

end Passes

end TiledView
