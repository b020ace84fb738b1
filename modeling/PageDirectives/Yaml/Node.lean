import PageDirectives.Yaml.Kind
import PageDirectives.Yaml.Reading
/-!
From tokens to the tree of nodes of the one document of a text. A reference stands for a node that
is complete; the name of an anchor is used once.
-/
namespace PageDirectives.Yaml

/-- A node: a scalar with its text, a sequence of nodes, or a mapping with its entries in order. -/
inductive Node
  | scalar (kind : Kind) (text : Text)
  | sequence (kind : Kind) (items : List Node)
  | mapping (kind : Kind) (entries : List (Node × Node))
  deriving Repr

namespace Node

/-- The kind of a node. -/
def kind : Node → Kind
  | scalar k _ => k
  | sequence k _ => k
  | mapping k _ => k

/-- The node of an entry or item that is left out. -/
def empty : Node := scalar .null []

end Node

/-- The state of building: the tokens that follow, the meanings of tag handles, and the nodes with
anchors, which are unknown until they are complete. -/
structure Building where
  tokens : List Token
  handles : List (Text × Text)
  anchors : List (Text × Option Node) := []

/-- A step of building. -/
abbrev Builder (α : Type) := StateT Building (Except YamlError) α

namespace Builder

/-- The next token. Where reading stopped, building stops. -/
def peek : Builder Token := do
  match (← get).tokens with
  | [] => pure .finish
  | .broken e :: _ => throw e
  | t :: _ => pure t

/-- Passes over the next token. -/
def skip : Builder Unit := modify fun b => { b with tokens := b.tokens.drop 1 }

/-- Stops at a document that breaks a rule. -/
def malformed {α : Type} : Builder α := throw .malformed

/-- The handles that mean something in every document. -/
def standardHandles : List (Text × Text) := [(['!'], ['!']), (['!', '!'], Kind.tagFront)]

/-- The whole tag that a written one stands for. -/
def expand (t : WrittenTag) : Builder Text := do
  match t.handle with
  | none => pure t.suffix
  | some handle =>
    match (← get).handles.lookup handle with
    | some front => pure (front ++ t.suffix)
    | none => malformed

/-- What stands in front of a node. -/
structure Properties where
  anchor : Option Text
  tag : Option Text

namespace Properties

/-- The kind that a tag asks for, if there is one that asks for any. -/
def kind? (p : Properties) : Option Kind :=
  match p.tag with
  | none => none
  | some tag => if tag = ['!'] then none else some (Kind.ofTag tag)

/-- The kind of a scalar. With a lone exclamation mark it is the one that its form shows. -/
def scalarKind (p : Properties) (text : Text) (plain : Bool) : Kind :=
  match p.kind? with
  | some kind => kind
  | none => if plain || p.tag.isSome then Kind.ofPlain text else .string

/-- Whether there is nothing in front of a node. -/
def isEmpty (p : Properties) : Bool := p.anchor.isNone && p.tag.isNone

end Properties

/-- Reads an anchor if there is one. -/
def anchor? : Builder (Option Text) := do
  match ← peek with
  | .anchor name => skip; pure (some name)
  | _ => pure none

/-- Reads a tag if there is one. -/
def tag? : Builder (Option WrittenTag) := do
  match ← peek with
  | .tag t => skip; pure (some t)
  | _ => pure none

/-- Reads an anchor and a tag, in either order, as far as they are there. -/
def properties : Builder Properties := do
  let first ← anchor?
  let tag ← tag?
  let anchor ← if first.isNone && tag.isSome then anchor? else pure first
  match tag with
  | none => pure ⟨anchor, none⟩
  | some t => pure ⟨anchor, some (← expand t)⟩

/-- Takes the name of an anchor into use. -/
def declare : Option Text → Builder Unit
  | none => pure ()
  | some name => do
    if (← get).anchors.any (·.1 == name) then malformed
    modify fun b => { b with anchors := (name, none) :: b.anchors }

/-- Gives the name of an anchor its node. -/
def define (name : Option Text) (node : Node) : Builder Node := do
  match name with
  | none => pure node
  | some name =>
    modify fun b => { b with anchors := (name, some node) :: b.anchors }
    pure node

/-- The node that a reference stands for. Nodes are finite trees: a reference to a node that it
stands in, which would give a value that holds itself, is taken for malformed here. -/
def referenced (name : Text) : Builder Node := do
  match (← get).anchors.lookup name with
  | some (some node) => pure node
  | _ => malformed

/-- Where a node stands: what is allowed there. -/
inductive Place
  | inBrackets
  | inBlock
  /-- In a block mapping, where the items of a sequence need no column of their own. -/
  | inMapping
  deriving DecidableEq

/-- An entry with its key, its value still to come. -/
abbrev Entry := Node × Node

/-- The token behind the comma that a further item or entry has before it; the first has none. -/
def afterComma (first : Bool) (closing : Token) : Builder Token := do
  let t ← peek
  if first || t == closing then pure t
  else if t == .separator then
    skip
    peek
  else malformed

mutual

/-- Reads a node. -/
def node : (fuel : Nat) → Place → Builder Node
  | 0, _ => malformed
  | fuel + 1, place => do
    match ← peek with
    | .reference name => skip; referenced name
    | _ =>
      let p ← properties
      declare p.anchor
      define p.anchor (← content fuel place p)

/-- Reads what stands behind the properties of a node. -/
def content : (fuel : Nat) → Place → Properties → Builder Node
  | 0, _, _ => malformed
  | fuel + 1, place, p => do
    let listKind := p.kind?.getD .sequence
    let mapKind := p.kind?.getD .mapping
    match ← peek, place with
    | .scalar text plain, _ => skip; pure (.scalar (p.scalarKind text plain) text)
    | .openSequence, _ => skip; pure (.sequence listKind (← bracketItems fuel true))
    | .openMapping, _ => skip; pure (.mapping mapKind (← bracketEntries fuel true))
    | .item, .inMapping => pure (.sequence listKind (← flatItems fuel))
    | .blockSequence, .inBlock => skip; pure (.sequence listKind (← blockItems fuel))
    | .blockSequence, .inMapping => skip; pure (.sequence listKind (← blockItems fuel))
    | .blockMapping, .inBlock => skip; pure (.mapping mapKind (← blockEntries fuel))
    | .blockMapping, .inMapping => skip; pure (.mapping mapKind (← blockEntries fuel))
    | _, _ => if p.isEmpty then malformed else pure (.scalar (p.scalarKind [] true) [])

/-- Reads a node unless one of some tokens follows, where it is left out. -/
def nodeUnless : (fuel : Nat) → (ends : List Token) → Place → Builder Node
  | 0, _, _ => malformed
  | fuel + 1, ends, place => do
    if ends.contains (← peek) then pure .empty else node fuel place

/-- Reads the items of a block sequence up to its end. -/
def blockItems : (fuel : Nat) → Builder (List Node)
  | 0 => malformed
  | fuel + 1 => do
    match ← peek with
    | .item =>
      skip
      let first ← nodeUnless fuel [.item, .blockEnd] .inBlock
      pure (first :: (← blockItems fuel))
    | .blockEnd => skip; pure []
    | _ => malformed

/-- Reads the items of a sequence that has no column of its own. -/
def flatItems : (fuel : Nat) → Builder (List Node)
  | 0 => malformed
  | fuel + 1 => do
    match ← peek with
    | .item =>
      skip
      let first ← nodeUnless fuel [.item, .key, .value, .blockEnd] .inBlock
      pure (first :: (← flatItems fuel))
    | _ => pure []

/-- Reads the entries of a block mapping up to its end. -/
def blockEntries : (fuel : Nat) → Builder (List Entry)
  | 0 => malformed
  | fuel + 1 => do
    match ← peek with
    | .key =>
      skip
      let key ← nodeUnless fuel [.key, .value, .blockEnd] .inMapping
      let value ← valueUnless fuel [.key, .value, .blockEnd] .inMapping
      pure ((key, value) :: (← blockEntries fuel))
    | .blockEnd => skip; pure []
    | _ => malformed

/-- Reads a value if there is one. -/
def valueUnless : (fuel : Nat) → (ends : List Token) → Place → Builder Node
  | 0, _, _ => malformed
  | fuel + 1, ends, place => do
    match ← peek with
    | .value => skip; nodeUnless fuel ends place
    | _ => pure .empty

/-- Reads the items of a sequence in brackets. An entry among them is a mapping of its own. -/
def bracketItems : (fuel : Nat) → (first : Bool) → Builder (List Node)
  | 0, _ => malformed
  | fuel + 1, first => do
    match ← afterComma first .closeSequence with
    | .closeSequence => skip; pure []
    | .key =>
      skip
      let key ← nodeUnless fuel [.value, .separator, .closeSequence] .inBrackets
      let value ← valueUnless fuel [.separator, .closeSequence] .inBrackets
      pure (.mapping .mapping [(key, value)] :: (← bracketItems fuel false))
    | _ =>
      let item ← node fuel .inBrackets
      pure (item :: (← bracketItems fuel false))

/-- Reads the entries of a mapping in brackets. A node without a colon is a key without a value. -/
def bracketEntries : (fuel : Nat) → (first : Bool) → Builder (List Entry)
  | 0, _ => malformed
  | fuel + 1, first => do
    match ← afterComma first .closeMapping with
    | .closeMapping => skip; pure []
    | .key =>
      skip
      let key ← nodeUnless fuel [.value, .separator, .closeMapping] .inBrackets
      let value ← valueUnless fuel [.separator, .closeMapping] .inBrackets
      pure ((key, value) :: (← bracketEntries fuel false))
    | _ =>
      let key ← node fuel .inBrackets
      pure ((key, .empty) :: (← bracketEntries fuel false))

end

/-- Reads instructions in front of a document. A version is given once and is the first; a handle
gets one meaning. -/
def instructions : (fuel : Nat) → (versioned : Bool) → List (Text × Text) →
    Builder (List (Text × Text))
  | 0, _, _ => malformed
  | fuel + 1, versioned, handles => do
    match ← peek with
    | .instruction (.version major) =>
      skip
      if versioned || major != 1 then malformed else instructions fuel true handles
    | .instruction (.handle name expansion) =>
      skip
      if handles.any (·.1 == name) then malformed
      else instructions fuel versioned ((name, expansion) :: handles)
    | .instruction .other => skip; instructions fuel versioned handles
    | _ => pure handles

/-- Reads a document up to its end. -/
def document (fuel : Nat) : Builder Node := do
  match ← peek with
  | .instruction _ | .documentStart =>
    let handles ← instructions fuel false []
    modify fun b => { b with handles := handles ++ standardHandles }
    match ← peek with
    | .documentStart =>
      skip
      match ← peek with
      | .instruction _ | .documentStart | .documentEnd | .finish => pure .empty
      | _ => node fuel .inBlock
    | _ => malformed
  | _ => node fuel .inBlock

/-- Passes over marks that end documents, behind which nothing may follow. -/
def finished : (fuel : Nat) → Builder Unit
  | 0 => malformed
  | fuel + 1 => do
    match ← peek with
    | .documentEnd => skip; finished fuel
    | .finish => pure ()
    | _ => malformed

/-- Reads the document of a text, if there is one. -/
def whole (fuel : Nat) : Builder (Option Node) := do
  match ← peek with
  | .finish => pure none
  | _ =>
    let root ← document fuel
    finished fuel
    pure (some root)

end Builder

/-- The root of the document that a text holds, if it holds one. -/
def Node.ofText? (text : Text) : Except YamlError (Option Node) :=
  let ts := tokens text
  (Builder.whole (4 * ts.length + 8)).run' ⟨ts, Builder.standardHandles, []⟩

end PageDirectives.Yaml
