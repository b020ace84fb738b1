import PageDirectives.Calendar.Iso
import PageDirectives.Cleanup.Marks
import PageDirectives.Directive.Failure
import PageDirectives.Journal
/-!
The cleanup of a document before its directives are resolved: all small changes, with the languages
whose fences come off chosen by the page or else by default, and dates of the page in a common form.
-/
namespace PageDirectives.Cleanup

/-- Why a document cannot be cleaned up. -/
inductive CleanupError
  | notIterable (kind : Text)
  | notAText (index : Nat) (kind : Text)
  | number (e : NumberError)
  deriving Repr, DecidableEq

/-- The wording of a cleanup error. -/
def CleanupError.message : CleanupError → Text
  | notIterable kind => Value.notIterable kind
  | notAText index kind =>
    "sequence item " ++ Integer.digitsOf index ++ ": expected str instance, " ++ kind ++ " found"
  | number e => e.message

/-- The items of a value. -/
def itemsOf (v : Value) : Except CleanupError (List Value) :=
  match v.items? with
  | some items => .ok items
  | none => .error (.notIterable v.qualifiedKind)

/-- A text without the fences of several languages, in order. -/
def unwrapAll : (languages : List Value) → (text : Text) → Except CleanupError Text
  | [], text => .ok text
  | language :: rest, text => do
    let name ← language.display.mapError .number
    unwrapAll rest (unwrapFences name text)

/-- A text without the fences of the languages that a value lists. -/
def unwrap (languages : Value) (text : Text) : Except CleanupError Text := do
  if languages.isTruthy then unwrapAll (← itemsOf languages) text else .ok text

/-- The fields of a page that hold dates. -/
def dateFields : List Text := ["created", "modified"]

/-- Whether a text begins with a day, a space, and hours and minutes, in digits of any script. -/
def looksDated (text : Text) : Bool :=
  let shape : Text := "0000-00-00 00:00"
  let front := text.take shape.length
  front.length == shape.length &&
    (shape.zip front).all fun (s, c) => if s = '0' then Text.isDigit c else s == c

/-- A text that begins like a day and time as that day and time, if it is one as a whole. -/
def dated (v : Value) : Value :=
  match v with
  | .text s =>
    if looksDated s then
      match Iso.dateTime? (Text.trim s) with
      | some t => .dateTime t
      | none => v
    else v
  | v => v

/-- A page with one field of dates in its common form. -/
def dateField (page : Entries) (field : Text) : Entries :=
  match page.at? field with
  | none => page
  | some v => if v.isTruthy then page.put (.text field) (dated v) else page

/-- A page with all its fields of dates in their common form. -/
def fixDates (page : Entries) : Entries := dateFields.foldl dateField page

/-- The field of a page that chooses languages. -/
def languagesField : Text := "escapeCodeBlocks"

/-- The languages whose fences come off: those of the page, else those given, else the default. -/
def languages (page : Entries) (given : Value) (otherwise : List Text) :
    Except CleanupError (List Value) :=
  match page.at? languagesField with
  | some (.bool true) => .ok [.text "html", .text "xml"]
  | some (.text s) => .ok [.text s]
  | other =>
    let chosen := other.getD .null
    if chosen.isTruthy then itemsOf chosen
    else
      match given with
      | .null => .ok (otherwise.map .text)
      | v => itemsOf v

/-- Values that are all texts. -/
def texts (index : Nat) : List Value → Except CleanupError (List Text)
  | [] => .ok []
  | .text s :: rest => (texts (index + 1) rest).map (s :: ·)
  | v :: _ => .error (.notAText index v.qualifiedKind)

/-- What a cleanup leaves: the text or the reason why there is none, the page, and what was
logged. -/
structure Cleaned where
  text : Except CleanupError Text
  page : Entries
  notes : List Note

/-- The progress line on the languages whose fences come off. -/
def fencesNote (names : List Text) : Note :=
  .progress 3 ("Unwrapping code fences: " ++ Text.join ", " names)

/-- Cleans up a text and its page. -/
def run (text : Text) (page : Entries) (given : Value) (otherwise : List Text) : Cleaned :=
  let text := markHighlights (stripCommentCallouts (stripComments text))
  match languages page given otherwise with
  | .error e => ⟨.error e, page, []⟩
  | .ok [] => ⟨.ok text, fixDates page, []⟩
  | .ok chosen =>
    match texts 0 chosen with
    | .error e => ⟨.error e, page, []⟩
    | .ok names =>
      ⟨.ok (names.foldl (fun text name => unwrapFences name text) text), fixDates page,
        [fencesNote names]⟩

end PageDirectives.Cleanup
