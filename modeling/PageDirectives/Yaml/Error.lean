import PageDirectives.Calendar.Date
import PageDirectives.Text.Quoted
/-!
Why a YAML document has no value. Everything that breaks the rules of the format is malformed; a
scalar whose form is known but which names nothing has a cause of its own.
-/
namespace PageDirectives.Yaml

/-- Why a document has no value. -/
inductive YamlError
  | malformed
  | calendar (e : CalendarError)
  | number (e : NumberError)
  | emptyNumber
  | unknownTruth (word : Text)
  | notATimestamp
  | timestampOfMap
  | noCharacter (code : Nat)
  deriving Repr, DecidableEq

namespace YamlError

/-- The wording of a cause. -/
def message : YamlError → Text
  | malformed => "Invalid frontmatter"
  | calendar e => e.message
  | number e => e.message
  | emptyNumber => "string index out of range"
  | unknownTruth word => Text.quoted word
  | notATimestamp => "'NoneType' object has no attribute 'groupdict'"
  | timestampOfMap => "expected string or bytes-like object, got 'list'"
  | noCharacter code =>
    if code < 0x80000000 then "chr() arg not in range(0x110000)"
    else "Python int too large to convert to C int"

end YamlError
end PageDirectives.Yaml
