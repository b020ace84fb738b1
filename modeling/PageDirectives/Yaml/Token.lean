import PageDirectives.Yaml.Error
/-!
The tokens of a YAML text. Indentation has become tokens that open and close, so that the order of
tokens alone says how a document is built.
-/
namespace PageDirectives.Yaml

/-- A line in front of a document that says how to read it. -/
inductive Instruction
  | version (major : Nat)
  | handle (name expansion : Text)
  | other
  deriving Repr, DecidableEq

/-- A tag as it is written: a handle to be expanded, if there is one, and what follows it. -/
structure WrittenTag where
  handle : Option Text
  suffix : Text
  deriving Repr, DecidableEq

/-- A token. The last of a text is its end or the reason why reading stopped. -/
inductive Token
  | instruction (i : Instruction)
  | documentStart
  | documentEnd
  | blockSequence
  | blockMapping
  | blockEnd
  | openSequence
  | closeSequence
  | openMapping
  | closeMapping
  | separator
  | item
  | key
  | value
  | reference (name : Text)
  | anchor (name : Text)
  | tag (t : WrittenTag)
  | scalar (text : Text) (plain : Bool)
  | finish
  | broken (e : YamlError)
  deriving Repr, DecidableEq

end PageDirectives.Yaml
