import PageDirectives.Directive.Failure
import PageDirectives.Directive.Form
import PageDirectives.Text.Case
/-!
The registry: which handler answers for a name, in which forms, and when. Registrations keep the
place of their first insertion and the last one for a name counts. Handlers run by ascending
priority, and those of equal priority in the order of the registry.
-/
namespace PageDirectives

/-- Where a handler comes from: this library, or its user, who may have given it a label. -/
inductive Origin
  | builtIn
  | custom (label : Option Text)
  deriving Repr, DecidableEq

/-- Turns an occurrence of a directive into the value that takes its place. -/
structure Handler where
  origin : Origin
  run : Directive.Occurrence → Except Failure Value

/-- Who answers for a name. -/
structure Registration where
  name : Text
  forms : Forms
  priority : Int
  handler : Handler

/-- Registrations in order, and the priority of those that give none. -/
structure Registry where
  registrations : List Registration := []
  defaultPriority : Int := 100

/-- What is offered as a handler. -/
inductive Offer
  | handler (h : Handler)
  | other (v : Value)

/-- The options of a registration: nothing, or whatever its author wrote, where the forms may also
be given as such. -/
structure Options where
  given : Value := .null
  forms : Option Forms := none

/-- What a call of registering gives in the place of the options: options, or a handler. -/
inductive Slot
  | options (o : Options)
  | handler (h : Handler)

/-- Why a value cannot be read as options. -/
inductive OptionsError
  | notIterable (kind : Text)
  | notASequence (index : Nat)
  | wrongLength (index length : Nat)
  | unhashable (kind : Text)
  deriving Repr, DecidableEq

/-- Why a registration is refused. -/
inductive Refusal
  | invalidName (literal : Text)
  | reservedName (name : Text)
  | notCallable (name : Text)
  | unknownForms (literal name : Text)
  | invalidPriority (literal name : Text)
  deriving Repr, DecidableEq

/-- Why no registration is made. -/
inductive AddError
  | refused (r : Refusal)
  | options (e : OptionsError)
  | number (e : NumberError)
  deriving Repr, DecidableEq

namespace OptionsError

/-- The wording of an error in options. -/
def message : OptionsError → Text
  | notIterable kind => '\'' :: kind ++ "' object is not iterable"
  | notASequence index =>
    "cannot convert dictionary update sequence element #" ++ Integer.digitsOf index ++
      " to a sequence"
  | wrongLength index length =>
    "dictionary update sequence element #" ++ Integer.digitsOf index ++ " has length " ++
      Integer.digitsOf length ++ "; 2 is required"
  | unhashable kind => "unhashable type: '" ++ kind ++ "'"

end OptionsError

/-- The wording of a refusal. -/
def Refusal.message : Refusal → Text
  | invalidName literal =>
    "Invalid directive name " ++ literal ++ ": expected [A-Za-z_][\\w-]*"
  | reservedName name => "Directive name '::" ++ name ++ "' is reserved"
  | notCallable name => "Handler for '::" ++ name ++ "' must be callable"
  | unknownForms literal name =>
    "Unknown type " ++ literal ++ " for '::" ++ name ++ "' (use inline, block or both)"
  | invalidPriority literal name =>
    "Priority for '::" ++ name ++ "' must be an integer, got " ++ literal

/-- The wording of an error when registering. -/
def AddError.message : AddError → Text
  | refused r => r.message
  | options e => e.message
  | number e => e.message

namespace Options

/-- The entries of items that are pairs themselves, the first of them having an index. -/
def ofItems (index : Nat) (entries : Entries) : List Value → Except OptionsError Entries
  | [] => .ok entries
  | item :: rest =>
    match item.items? with
    | none => .error (.notASequence index)
    | some [key, value] =>
      match key.unhashable? with
      | some part => .error (.unhashable part.kind)
      | none => ofItems (index + 1) (entries.put key value) rest
    | some parts => .error (.wrongLength index parts.length)

/-- A value as entries: a map, pairs to go through, or nothing if it counts as false. -/
def entries (v : Value) : Except OptionsError Entries :=
  match v with
  | .map entries => .ok entries
  | v =>
    if !v.isTruthy then .ok []
    else
      match v.items? with
      | some items => ofItems 0 [] items
      | none => .error (.notIterable v.qualifiedKind)

/-- The forms that options choose; blocks if they say nothing. -/
def chosenForms (o : Options) (entries : Entries) (name : Text) : Except AddError Forms :=
  match o.forms, entries.at? "type" with
  | some forms, _ => .ok forms
  | none, none => .ok .block
  | none, some v =>
    match (v.display.toOption.map Text.lower).bind Forms.ofWord? with
    | some forms => .ok forms
    | none => do
      let literal ← v.literal.mapError .number
      .error (.refused (.unknownForms literal name))

/-- The priority that options choose. -/
def chosenPriority (entries : Entries) (name : Text) (otherwise : Int) : Except AddError Int :=
  match entries.at? "priority" with
  | none => .ok otherwise
  | some (.int n) => .ok n
  | some v => do
    let literal ← v.literal.mapError .number
    .error (.refused (.invalidPriority literal name))

end Options

namespace Registry

/-- Puts a registration in the place of the one with its name, or behind all. -/
def put (r : Registration) : List Registration → List Registration
  | [] => [r]
  | s :: rest => if s.name = r.name then r :: rest else s :: put r rest

/-- The registration that a name, options and an offer ask for, if nothing speaks against it. -/
def accept (defaultPriority : Int) (name : Value) (options : Options) (offer : Offer) :
    Except AddError Registration := do
  let name ← match name with
    | .text name =>
      if Text.isName name then .ok name
      else .error (.refused (.invalidName (Text.quoted name)))
    | v => do
      let literal ← v.literal.mapError .number
      .error (.refused (.invalidName literal))
  if Directive.isReserved name then .error (.refused (.reservedName name))
  let handler ← match offer with
    | .handler h => .ok h
    | .other _ => .error (.refused (.notCallable name))
  let entries ← (Options.entries options.given).mapError .options
  let forms ← options.chosenForms entries name
  let priority ← Options.chosenPriority entries name defaultPriority
  .ok ⟨name, forms, priority, handler⟩

/-- Registers a handler, or says why not. -/
def add (registry : Registry) (name : Value) (options : Options) (offer : Offer) :
    Except AddError (Registration × Registry) := do
  let r ← accept registry.defaultPriority name options offer
  .ok (r, { registry with registrations := put r registry.registrations })

/-- Registers what a call gives. A handler in the place of the options counts as the offer if
nothing else is offered. Beside another offer it is taken for options, which it cannot be read
as. -/
def register (registry : Registry) (name : Value) (slot : Slot) (offer : Offer) :
    Except AddError (Registration × Registry) :=
  match slot, offer with
  | .options o, offer => registry.add name o offer
  | .handler h, .other .null => registry.add name {} (.handler h)
  | .handler _, offer => do
    -- The name and the offer are looked at before the options.
    let _ ← accept registry.defaultPriority name {} offer
    .error (.options (.notIterable "function"))

/-- The registration of a name. -/
def get? (registry : Registry) (name : Text) : Option Registration :=
  registry.registrations.find? (·.name == name)

/-- The names in the order of the registry. -/
def names (registry : Registry) : List Text := registry.registrations.map (·.name)

/-- Whether a value is a registered name; a value that cannot be a key is refused. -/
def has (registry : Registry) (v : Value) : Except OptionsError Bool :=
  match v.unhashable?, v with
  | some part, _ => .error (.unhashable part.kind)
  | none, .text name => .ok (registry.names.contains name)
  | none, _ => .ok false

/-- Whether a value is a reserved name. A set is none; what else cannot be a key is refused. -/
def reserves : Value → Except OptionsError Bool
  | .set _ => .ok false
  | v =>
    match v.unhashable?, v with
    | some part, _ => .error (.unhashable part.kind)
    | none, .text name => .ok (Directive.isReserved name)
    | none, _ => .ok false

/-- Whether a value is a text in the form of a name. -/
def allows : Value → Bool
  | .text name => Text.isName name
  | _ => false

/-- The registrations in the order in which they run. -/
def sorted (registry : Registry) : List Registration :=
  registry.registrations.mergeSort fun r s => r.priority ≤ s.priority

end Registry
end PageDirectives
