import PageDirectives.Yaml.Cursor
import PageDirectives.Yaml.Quoted
import PageDirectives.Yaml.Token
import PageDirectives.Number.Integer
import PageDirectives.Text.Utf8
/-!
Tags, anchors and the instructions in front of a document.
-/
namespace PageDirectives.Yaml

/-- A text's front as long as it can stand in a handle, which has to be something. -/
def handleWord (text : Text) : Except YamlError (Text × Text) :=
  match text.takeWhile isHandleChar with
  | [] => .error .malformed
  | word => .ok (word, text.drop word.length)

/-- The name of an anchor or a reference behind its mark. -/
def anchorName (text : Text) : Except YamlError (Text × Text) := do
  let (name, rest) ← handleWord text
  if endsBefore ['\t', '?', ':', ',', ']', '\x7d', '%', '@', '`'] rest then .ok (name, rest)
  else .error .malformed

namespace WrittenTag

/-- Whether a character stands for itself in a tag. -/
def isPlain (c : Char) : Bool :=
  c.isAlphanum || c ∈ "-;/?:@&=+$,_.!~*'()[]".toList

/-- The bytes that a run of escapes in front of a text writes. -/
def escapedBytes : (fuel : Nat) → Text → Except YamlError (List UInt8 × Text)
  | fuel + 1, '%' :: text =>
    match Quoted.hexNumber? 2 text with
    | none => .error .malformed
    | some (n, rest) => do
      let (bytes, rest) ← escapedBytes fuel rest
      .ok (UInt8.ofNat n :: bytes, rest)
  | _, text => .ok ([], text)

/-- The characters of a tag in front of a text. -/
def characters : (fuel : Nat) → Text → Except YamlError (Text × Text)
  | 0, text => .ok ([], text)
  | _, [] => .ok ([], [])
  | fuel + 1, c :: text => do
    if c = '%' then
      let (bytes, rest) ← escapedBytes (text.length + 1) (c :: text)
      match Utf8.decode bytes with
      | .error _ => .error .malformed
      | .ok piece =>
        let (more, rest) ← characters fuel rest
        .ok (piece ++ more, rest)
    else if isPlain c then
      let (more, rest) ← characters fuel text
      .ok (c :: more, rest)
    else .ok ([], c :: text)

/-- The characters of a tag, which have to be there. -/
def uri (text : Text) : Except YamlError (Text × Text) := do
  match ← characters (text.length + 1) text with
  | ([], _) => .error .malformed
  | found => .ok found

/-- The handle of a tag, from one exclamation mark to the next or to a space. -/
def scanHandle (text : Text) : Except YamlError (Text × Text) :=
  match text with
  | '!' :: ' ' :: rest => .ok (['!'], ' ' :: rest)
  | '!' :: rest =>
    let name := rest.takeWhile isHandleChar
    match rest.drop name.length with
    | '!' :: rest => .ok ('!' :: name ++ ['!'], rest)
    | _ => .error .malformed
  | _ => .error .malformed

/-- Whether a tag, behind its first mark, has a second one before it ends. -/
def hasHandle (text : Text) : Bool :=
  (text.takeWhile fun c => !(c == ' ' || isBreak c)).contains '!'

/-- Reads a tag in front of a text. -/
def scan (text : Text) : Except YamlError (WrittenTag × Text) := do
  let (tag, rest) ← match text.drop 1 with
    | '<' :: rest => do
      match ← uri rest with
      | (suffix, '>' :: rest) => .ok (⟨none, suffix⟩, rest)
      | _ => .error .malformed
    | behind =>
      if endsWord behind then .ok (⟨none, ['!']⟩, behind)
      else do
        let (handle, rest) ← if hasHandle behind then scanHandle text else .ok (['!'], behind)
        let (suffix, rest) ← uri rest
        .ok (⟨some handle, suffix⟩, rest)
  if endsBefore [] rest then .ok (tag, rest) else .error .malformed

end WrittenTag

namespace Instruction

/-- A number in a version. -/
def number (text : Text) : Except YamlError (Nat × Text) :=
  match text.takeWhile Char.isDigit with
  | [] => .error .malformed
  | digits => do
    let n ← (Integer.ofDigits digits).mapError .number
    .ok (n, text.drop digits.length)

/-- A version: two numbers with a point between. -/
def scanVersion (text : Text) : Except YamlError (Instruction × Text) := do
  match ← number (text.dropWhile (· == ' ')) with
  | (major, '.' :: rest) =>
    let (_, rest) ← number rest
    if endsBefore [] rest then .ok (.version major, rest) else .error .malformed
  | _ => .error .malformed

/-- The meaning of a handle. -/
def scanMeaning (text : Text) : Except YamlError (Instruction × Text) := do
  match ← WrittenTag.scanHandle (text.dropWhile (· == ' ')) with
  | (name, ' ' :: rest) =>
    let (expansion, rest) ← WrittenTag.uri (rest.dropWhile (· == ' '))
    if endsBefore [] rest then .ok (.handle name expansion, rest) else .error .malformed
  | _ => .error .malformed

/-- Reads an instruction in front of a text, up to what stands behind it on its line. -/
def scan (text : Text) : Except YamlError (Instruction × Text) := do
  let (name, rest) ← handleWord (text.drop 1)
  if !endsBefore [] rest then .error .malformed
  if name = "YAML" then scanVersion rest
  else if name = "TAG" then scanMeaning rest
  else .ok (.other, rest.dropWhile (!isBreak ·))

end Instruction
end PageDirectives.Yaml
