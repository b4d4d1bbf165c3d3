import TiledView.Proofs.Paint.Frame
import TiledView.Viewer.Display

/-!
# What callbacks leave alone

Most of what reaches a display changes neither where the document sits nor what its caches are for:
invalidations, command statuses, relayed callbacks and late drawings.  `Display.SameGeometry`
collects what stays.  The three changes that do touch the geometry, a new document size, a new
viewport and a recovery, are in `TiledView.Proofs.Viewer.Geometry`.

* `Display.sameGeometry_onInvalidation`, `Display.sameGeometry_onStatus`,
  `Display.sameGeometry_relay` — callbacks.
* `Display.sameGeometry_collectLate` — late drawings.
-/

namespace TiledView

variable {ε : Type}

/-! ## Sessions -/

namespace Session

/-- The same view of a document that is laid out in the same way. -/
structure SameLayout (s s' : Session) : Prop where
  attached : s'.isAttached = s.isAttached
  drawnParts : s'.drawnParts = s.drawnParts
  documentSize : s'.documentSize = s.documentSize

lemma sameLayout_recordStatus (s : Session) (payload : String) :
    SameLayout s (s.recordStatus payload) := by
  simp only [recordStatus]
  split_ifs <;> exact ⟨rfl, rfl, rfl⟩

lemma sameLayout_markDrawn (s : Session) : SameLayout s s.markDrawn.2 := by
  rw [markDrawn]
  split_ifs <;> exact ⟨rfl, rfl, rfl⟩

end Session

namespace Display

variable {d d' d'' : Display}

/-! ## The document that is shown -/

/-- What a document that is shown makes of its caches: how many parts, and for which size. -/
def layout? (d : Display) : Option (Nat × Size .twips) :=
  d.attached?.map fun document => (document.session.drawnParts, document.session.documentSize)

lemma session?_of_attached? {document : ShownDocument} (shown : d.attached? = some document) :
    d.session? = some document.session := by
  rw [attached?, Option.filter_eq_some_iff] at shown
  rw [session?, shown.1, Option.map_some]

/-- A session put in the place of one with the same layout. -/
lemma layout?_setSession {session session' : Session} (shown : d.session? = some session)
    (same : session.SameLayout session') : (d.setSession session').layout? = d.layout? := by
  obtain ⟨document, found, rfl⟩ := Option.map_eq_some_iff.1 shown
  simp only [layout?, attached?, setSession, found, Option.map_some, Option.filter_some,
    same.attached]
  split_ifs
  · simp only [Option.map_some, same.drawnParts, same.documentSize]
  · rfl

/-! ## The same geometry -/

/-- `d'` shows the same layout at the same place as `d`. -/
structure SameGeometry (d d' : Display) : Prop where
  layout : d'.layout? = d.layout?
  viewport : d'.viewport = d.viewport
  part : d'.part = d.part
  painter : Painter.SameFrame d.painter d'.painter

namespace SameGeometry

lemma refl (d : Display) : SameGeometry d d := ⟨rfl, rfl, rfl, .refl _⟩

lemma trans (h : SameGeometry d d') (h' : SameGeometry d' d'') : SameGeometry d d'' where
  layout := h'.layout.trans h.layout
  viewport := h'.viewport.trans h.viewport
  part := h'.part.trans h.part
  painter := h.painter.trans h'.painter

/-- A further step that is not always taken. -/
lemma ite {p : Prop} [Decidable p] (h : SameGeometry d d') (h' : SameGeometry d' d'') :
    SameGeometry d (if p then d'' else d') := by
  split_ifs
  · exact h.trans h'
  · exact h

end SameGeometry

lemma sameGeometry_painter (d : Display) {painter : Painter}
    (same : Painter.SameFrame d.painter painter) : SameGeometry d { d with painter } :=
  ⟨rfl, rfl, rfl, same⟩

lemma sameGeometry_request (d : Display) (request : PaintRequest) :
    SameGeometry d (d.request request) :=
  sameGeometry_painter d (Painter.sameFrame_request d.painter request)

lemma sameGeometry_redraw (d : Display) : SameGeometry d d.redraw :=
  sameGeometry_request d (.damaged d.painter.surface.bounds)

lemma sameGeometry_setSession {session session' : Session} (shown : d.session? = some session)
    (same : session.SameLayout session') : SameGeometry d (d.setSession session') :=
  ⟨layout?_setSession shown same, rfl, rfl, .refl _⟩

/-! ## Callbacks -/

theorem sameGeometry_onInvalidation (d : Display) (callback : Callback) :
    SameGeometry d (d.onInvalidation callback) := by
  rw [onInvalidation]
  cases shown : d.attached? with
  | none => exact .refl d
  | some document =>
      have same := sameGeometry_setSession (session?_of_attached? shown)
        document.session.sameLayout_markDrawn
      have drawn : ∀ notices, SameGeometry d
          { d.setSession document.session.markDrawn.2 with notices } :=
        fun _ => ⟨same.layout, rfl, rfl, same.painter⟩
      dsimp only
      split
      · exact ((drawn _).trans (sameGeometry_request _ _)).ite (sameGeometry_redraw _)
      · exact ((drawn _).trans (sameGeometry_request _ _)).ite (sameGeometry_request _ _)
      · exact drawn _

theorem sameGeometry_onStatus (d : Display) (callback : Callback) :
    SameGeometry d (d.onStatus callback) := by
  rw [onStatus]
  split
  · next session text shown _ =>
    exact sameGeometry_setSession shown (session.sameLayout_recordStatus text)
  · exact .refl d

lemma sameGeometry_relay (d : Display) (callback : Callback) (payload : Payload) :
    SameGeometry d (d.relay callback payload) := ⟨rfl, rfl, rfl, .refl _⟩

/-! ## Late drawings -/

lemma sameGeometry_collectOne (d : Display × Engines ε) (late : LateDrawing) :
    SameGeometry d.1 (collectOne d late).1 := by
  rw [collectOne]
  split
  · exact sameGeometry_request d.1 _
  · exact ⟨rfl, rfl, rfl, .refl _⟩

theorem sameGeometry_collectLate (d : Display) (engines : Engines ε) :
    SameGeometry d (d.collectLate engines).1 := by
  refine List.foldlRecOn (motive := fun result : Display × Engines ε => SameGeometry d result.1)
    d.late _ ⟨rfl, rfl, rfl, .refl _⟩ ?_
  intro result ih late _
  exact ih.trans (sameGeometry_collectOne result late)

end Display

end TiledView
