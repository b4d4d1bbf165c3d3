import TiledView.Proofs.Cache.Sizes
import TiledView.Proofs.Paint.Lending

/-!
# Painters whose tiles fit

`Painter.SizedReachable p` holds of the painters that calls lead to when every bitmap that comes
back as drawn has the size of its tile: renderers keep the size of what they are lent, and late
results suit the caches, also those that are submitted while a renderer draws.  What a painter has
drawn then fits its tiles (`Painter.SizedReachable.honest`).

All calls but those that work on the caches directly leave the outline of the caches alone, so what
suits the caches at the beginning of a call suits them all through it.
-/

namespace TiledView

variable {σ : Type}

/-! ## The caches -/

/-- Whatever comes back as drawn in this step has the size of its tile. -/
def CacheAction.Sized (d : DocumentCache) : CacheAction → Prop
  | .paint _ _ _ _ _ renderer _ => renderer.KeepsSize
  | .late key outcome => d.Suits key outcome
  | _ => True

lemma DocumentCache.Sound.act_of_sized {d : DocumentCache} (h : d.Sound d.Suited)
    {action : CacheAction} (sized : action.Sized d) :
    (d.act action).Sound (d.act action).Suited := by
  suffices (d.act action).Sound d.Suited from
    this.mono fun _ _ suited => Suits.act suited h.inPlace
  cases action with
  | paint part surface window dirty deadline renderer s =>
      intro other c' found'
      obtain ⟨c, found, ⟨rfl, rfl⟩ | ⟨-, rfl⟩⟩ := getElem?_modifyPart found'
      · exact (h part c found).sweep_of_keepsSize found rfl sized surface window dirty deadline s
      · exact h other c' found
  | late key outcome =>
      refine h.act ?_
      intro k bitmap mem
      cases List.mem_singleton.1 mem
      exact sized
  | _ => exact h.act fun _ _ mem => absurd mem List.not_mem_nil

/-! ## Painters -/

namespace Painter

/-- One call, in which every bitmap that comes back as drawn has the size of its tile. -/
inductive SizedStep : Painter → Painter → Prop where
  | resize (p : Painter) (size : Size .device) : SizedStep p (p.resize size)
  | place (p : Painter) (placement : Placement) : SizedStep p { p with placement }
  | request (p : Painter) (request : PaintRequest) (suits : request.Delivers p.cache.Suits) :
      SizedStep p (p.request request)
  | submit (p : Painter) (request : PaintRequest) (suits : request.Delivers p.cache.Suits) :
      SizedStep p (p.submit request)
  | receive (p : Painter) : SizedStep p p.receive
  | cache (p : Painter) (action : CacheAction) (sized : action.Sized p.cache) :
      SizedStep p (p.modifyCache (·.act action))
  | paint {σ : Type} (p : Painter) (renderer : SubmittingRenderer σ) (s : σ)
      (keeps : renderer.collecting.KeepsSize)
      (suits : ∀ job deadline s, ∀ request ∈ (renderer.draw job deadline s).1.2,
        request.Delivers p.cache.Suits) : SizedStep p (p.paint renderer s).2.1

inductive SizedReachable : Painter → Prop where
  | create (settings : PaintSettings) (tileEdge : Nat) : SizedReachable (create settings tileEdge)
  | step {p p' : Painter} (reachable : SizedReachable p) (step : SizedStep p p') :
      SizedReachable p'

variable {p p' : Painter} {ok ok' : TileKey → DrawOutcome → Prop}

/-- Sizes aside, these are calls as any others. -/
lemma SizedStep.step (step : SizedStep p p') : Step (fun _ _ => True) p p' := by
  cases step with
  | resize _ size => exact .resize p size
  | place _ placement => exact .place p placement
  | request _ request => exact .request p request request.delivers_true
  | submit _ request => exact .submit p request request.delivers_true
  | receive => exact .receive p
  | cache _ action => exact .cache p action fun _ _ => trivial
  | paint _ renderer s =>
      exact .paint p renderer s fun _ _ _ => ⟨trivial, fun request _ => request.delivers_true⟩

theorem SizedReachable.reachable (reachable : SizedReachable p) :
    Reachable (fun _ _ => True) p := by
  induction reachable with
  | create settings tileEdge => exact .create settings tileEdge
  | step _ step ih => exact .step ih step.step

/-! ## What has been drawn fits -/

lemma Honest.mono (h : p.Honest ok) (le : ∀ key outcome, ok key outcome → ok' key outcome) :
    p.Honest ok' where
  idle := h.idle
  deferred := h.deferred
  inbox := by
    intro request mem
    have delivers := h.inbox request mem
    cases request with
    | lateResult key outcome => exact le key outcome delivers
    | staleArea | stalePart | damaged | scroll => trivial
  sound := h.sound.mono fun key bitmap => le key (.drawn bitmap)

/-- What suits the caches suits those of the same outline. -/
lemma Honest.of_outline (h : p'.Honest p.cache.Suits)
    (same : p'.cache.outline = p.cache.outline) : p'.Honest p'.cache.Suits :=
  h.mono fun _ _ suits => suits.of_outline same

lemma sound_paintRects_of_keepsSize {renderer : SubmittingRenderer σ}
    (h : p.cache.Sound p.cache.Suited) (keeps : renderer.collecting.KeepsSize)
    (rects : List (Rect .device)) (s : σ) :
    (p.paintRects rects renderer s).2.1.cache.Sound p.cache.Suited := by
  cases shown : p.shown? with
  | none =>
      rw [paintRects_of_not_shown rects renderer s shown]
      exact h
  | some c =>
      have found := (shown?_eq_some_iff.1 shown).1
      rw [paintRects_of_shown rects renderer s shown]
      refine h.setPart (c := (p.passOver rects renderer s c).cache) ?_
      refine (List.foldlRecOn (motive := fun pass : PaintPass σ =>
        pass.cache.outline = c.outline ∧ DocumentCache.SoundPart p.cache.Suited p.cache.tileEdge
          p.cache.nextGeneration p.placement.part pass.cache)
        rects _ ⟨rfl, h _ c found⟩ ?_).2
      intro pass ⟨outline, sound⟩ rect _
      refine ⟨(PaintPass.paintRect_frame renderer _ _ pass rect).1.trans outline, ?_⟩
      rw [PaintPass.paintRect]
      split_ifs
      · exact sound
      · exact sound.sweep_of_keepsSize found outline keeps ..

lemma SizedStep.honest (step : SizedStep p p') (h : p.Honest p.cache.Suits) :
    p'.Honest p'.cache.Suits := by
  cases step with
  | resize _ size =>
      have same : (p.resize size).cache = p.cache := by
        rw [Painter.resize]
        split_ifs <;> rfl
      exact same ▸ h.resize size
  | place _ placement => exact h.place placement
  | request _ request suits =>
      exact (h.request suits).of_outline (sameFrame_request p request).outline
  | submit _ request suits => exact h.submit suits
  | receive => exact h.receive.of_outline (sameFrame_receive p).outline
  | cache _ action sized =>
      exact {
        idle := h.idle
        deferred := h.deferred
        inbox := (h.mono fun _ _ suits => suits.act h.sound.inPlace).inbox
        sound := DocumentCache.Sound.act_of_sized h.sound sized }
  | paint _ renderer s keeps suits =>
      have outline : p.receive.started.cache.outline = p.cache.outline :=
        (sameFrame_clearSurface p.receive).outline.trans (sameFrame_receive p).outline
      have started : p.receive.started.cache = p.receive.cache := (clearSurface_eq p.receive).1
      have sound : p.receive.started.cache.Sound p.receive.started.cache.Suited := by
        rw [started]
        exact (h.receive.of_outline (sameFrame_receive p).outline).sound
      have painted := sound_paintRects_of_keepsSize sound keeps
        (p.receive.damage.work p.receive.surface.bounds) s
      refine (h.paint_of_sound s suits ?_).of_outline (sameFrame_paint p h.idle renderer s).outline
      exact painted.mono fun _ _ suited => DocumentCache.Suits.of_outline suited outline.symm

/-- **Whatever calls led to a painter, its drawings fit their tiles.** -/
theorem SizedReachable.honest (reachable : SizedReachable p) : p.Honest p.cache.Suits := by
  induction reachable with
  | create settings tileEdge => exact .create settings tileEdge
  | step _ step ih => exact step.honest ih

end Painter

end TiledView
