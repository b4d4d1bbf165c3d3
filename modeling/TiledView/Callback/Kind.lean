/-!
# Kinds of callbacks

Every callback of a document engine has a numeric code.  `CallbackKind` lists the kinds that have
one, in the order of their codes, with the name to display and the shape of the payload.
`CallbackInfo` is the row for a code; a code that belongs to no kind gets the row
`CallbackInfo.unknown`.
-/

namespace TiledView

/-- How the payload of a callback is written. -/
inductive PayloadShape where
  /-- `a,b,c`, optionally ended by `;`. -/
  | numericList
  /-- Numeric lists separated by `;`. -/
  | numericMatrix
  /-- Numbers followed by optional JSON. -/
  | graphicSelection
  /-- `key=value`, or JSON when it starts with `{`. -/
  | stateChange
  | json
  | rawString
  deriving DecidableEq, Repr

/-- Kinds of callbacks, in the order of their codes. -/
inductive CallbackKind where
  | invalidateTiles
  | invalidateVisibleCursor
  | textSelection
  | textSelectionStart
  | textSelectionEnd
  | cursorVisible
  | graphicSelection
  | hyperlinkClicked
  | stateChanged
  | statusIndicatorStart
  | statusIndicatorSetValue
  | statusIndicatorFinish
  | searchNotFound
  | documentSizeChanged
  | setPart
  | searchResultSelection
  | commandResult
  | cellCursor
  | mousePointer
  | cellFormula
  | documentPassword
  | documentPasswordToModify
  | error
  | contextMenu
  | invalidateViewCursor
  | textViewSelection
  | cellViewCursor
  | graphicViewSelection
  | viewCursorVisible
  | viewLock
  | redlineTableSizeChanged
  | redlineTableEntryModified
  | comment
  | invalidateHeader
  | cellAddress
  | rulerUpdate
  | window
  | validityListButton
  | clipboardChanged
  | contextChanged
  | signatureStatus
  | profileFrame
  | cellSelectionArea
  | cellAutoFillArea
  | tableSelected
  | referenceMarks
  | dialog
  | calcFunctionList
  | tabStopList
  | formFieldButton
  | invalidateSheetGeometry
  | validityInputHelp
  | documentBackgroundColor
  | commandBlocked
  | followJump
  | contentControl
  | printRanges
  | fontsMissing
  deriving DecidableEq, Repr

/-- A row of the table of callback kinds. -/
structure CallbackInfo where
  code : Int
  name : String
  shape : PayloadShape
  deriving DecidableEq, Repr

namespace CallbackKind

def code (kind : CallbackKind) : Int := kind.ctorIdx

def nameAndShape : CallbackKind → String × PayloadShape
  | .invalidateTiles => ("invalidate_tiles", .numericList)
  | .invalidateVisibleCursor => ("invalidate_visible_cursor", .numericList)
  | .textSelection => ("text_selection", .numericMatrix)
  | .textSelectionStart => ("text_selection_start", .numericList)
  | .textSelectionEnd => ("text_selection_end", .numericList)
  | .cursorVisible => ("cursor_visible", .json)
  | .graphicSelection => ("graphic_selection", .graphicSelection)
  | .hyperlinkClicked => ("hyperlink_clicked", .json)
  | .stateChanged => ("state_changed", .stateChange)
  | .statusIndicatorStart => ("status_indicator_start", .rawString)
  | .statusIndicatorSetValue => ("status_indicator_set_value", .json)
  | .statusIndicatorFinish => ("status_indicator_finish", .rawString)
  | .searchNotFound => ("search_not_found", .rawString)
  | .documentSizeChanged => ("document_size_changed", .numericList)
  | .setPart => ("set_part", .json)
  | .searchResultSelection => ("search_result_selection", .json)
  | .commandResult => ("uno_command_result", .json)
  | .cellCursor => ("cell_cursor", .numericList)
  | .mousePointer => ("mouse_pointer", .rawString)
  | .cellFormula => ("cell_formula", .rawString)
  | .documentPassword => ("document_password", .rawString)
  | .documentPasswordToModify => ("document_password_to_modify", .rawString)
  | .error => ("error", .json)
  | .contextMenu => ("context_menu", .json)
  | .invalidateViewCursor => ("invalidate_view_cursor", .json)
  | .textViewSelection => ("text_view_selection", .json)
  | .cellViewCursor => ("cell_view_cursor", .json)
  | .graphicViewSelection => ("graphic_view_selection", .json)
  | .viewCursorVisible => ("view_cursor_visible", .json)
  | .viewLock => ("view_lock", .json)
  | .redlineTableSizeChanged => ("redline_table_size_changed", .json)
  | .redlineTableEntryModified => ("redline_table_entry_modified", .json)
  | .comment => ("comment", .json)
  | .invalidateHeader => ("invalidate_header", .rawString)
  | .cellAddress => ("cell_address", .rawString)
  | .rulerUpdate => ("ruler_update", .json)
  | .window => ("window", .json)
  | .validityListButton => ("validity_list_button", .numericList)
  | .clipboardChanged => ("clipboard_changed", .json)
  | .contextChanged => ("context_changed", .rawString)
  | .signatureStatus => ("signature_status", .rawString)
  | .profileFrame => ("profile_frame", .rawString)
  | .cellSelectionArea => ("cell_selection_area", .numericList)
  | .cellAutoFillArea => ("cell_auto_fill_area", .numericList)
  | .tableSelected => ("table_selected", .json)
  | .referenceMarks => ("reference_marks", .json)
  | .dialog => ("jsdialog", .json)
  | .calcFunctionList => ("calc_function_list", .json)
  | .tabStopList => ("tab_stop_list", .json)
  | .formFieldButton => ("form_field_button", .json)
  | .invalidateSheetGeometry => ("invalidate_sheet_geometry", .rawString)
  | .validityInputHelp => ("validity_input_help", .json)
  | .documentBackgroundColor => ("document_background_color", .rawString)
  | .commandBlocked => ("lok_command_blocked", .json)
  | .followJump => ("sc_follow_jump", .numericList)
  | .contentControl => ("content_control", .json)
  | .printRanges => ("print_ranges", .json)
  | .fontsMissing => ("fonts_missing", .rawString)

def info (kind : CallbackKind) : CallbackInfo :=
  ⟨kind.code, kind.nameAndShape.1, kind.nameAndShape.2⟩

/-- All kinds, in the order of their codes. -/
def all : List CallbackKind :=
  [.invalidateTiles, .invalidateVisibleCursor, .textSelection, .textSelectionStart,
    .textSelectionEnd, .cursorVisible, .graphicSelection, .hyperlinkClicked, .stateChanged,
    .statusIndicatorStart, .statusIndicatorSetValue, .statusIndicatorFinish, .searchNotFound,
    .documentSizeChanged, .setPart, .searchResultSelection, .commandResult, .cellCursor,
    .mousePointer, .cellFormula, .documentPassword, .documentPasswordToModify, .error,
    .contextMenu, .invalidateViewCursor, .textViewSelection, .cellViewCursor,
    .graphicViewSelection, .viewCursorVisible, .viewLock, .redlineTableSizeChanged,
    .redlineTableEntryModified, .comment, .invalidateHeader, .cellAddress, .rulerUpdate, .window,
    .validityListButton, .clipboardChanged, .contextChanged, .signatureStatus, .profileFrame,
    .cellSelectionArea, .cellAutoFillArea, .tableSelected, .referenceMarks, .dialog,
    .calcFunctionList, .tabStopList, .formFieldButton, .invalidateSheetGeometry,
    .validityInputHelp, .documentBackgroundColor, .commandBlocked, .followJump, .contentControl,
    .printRanges, .fontsMissing]

/-- The kind with a code. -/
def ofCode? : (code : Int) → Option CallbackKind
  | .ofNat n => all[n]?
  | .negSucc _ => none

theorem ofCode?_code (kind : CallbackKind) : ofCode? kind.code = some kind := by
  cases kind <;> rfl

theorem code_of_ofCode? {code : Int} {kind : CallbackKind} (h : ofCode? code = some kind) :
    kind.code = code := by
  have indexed : ∀ n < all.length, ∀ kind, all[n]? = some kind → kind.code = n := by decide
  cases code with
  | ofNat n =>
    have known : all[n]? = some kind := h
    exact indexed n (List.getElem?_eq_some_iff.1 known).1 kind known
  | negSucc n => exact absurd h (by simp [ofCode?])

end CallbackKind

inductive CallbackError where
  /-- No kind has this code. -/
  | unknownKind (code : Int)
  deriving DecidableEq, Repr

def CallbackError.message : CallbackError → String
  | .unknownKind code => s!"unknown callback type {code}"

/-- The kind with a code that the caller takes to have one. -/
def CallbackKind.ofCode (code : Int) : Except CallbackError CallbackKind :=
  match ofCode? code with
  | some kind => .ok kind
  | none => .error (.unknownKind code)

namespace CallbackInfo

/-- The row of every code that belongs to no kind. -/
def unknown : CallbackInfo := ⟨-1, "unknown_event", .rawString⟩

/-- The row for a code. -/
def ofCode (code : Int) : CallbackInfo :=
  match CallbackKind.ofCode? code with
  | some kind => kind.info
  | none => unknown

end CallbackInfo

end TiledView
