import PageDirectives.Text.Basic
/-!
Tokens of directive markup: pieces of a source text with what they are.
-/
namespace PageDirectives

/-- What a piece of directive markup is. -/
inductive TokenKind
  | text
  | whitespace
  | comment
  | punctuation
  | keyword
  | declaration
  | decorator
  | tag
  | attribute
  | operator
  | string
  | number
  | variable
  | error
  deriving Repr, DecidableEq

/-- A piece of directive markup. -/
structure Token where
  kind : TokenKind
  text : Text
  deriving Repr, DecidableEq

/-- The full name of a kind of token. -/
def TokenKind.name : TokenKind → Text
  | .text => "Text"
  | .whitespace => "Text.Whitespace"
  | .comment => "Comment"
  | .punctuation => "Punctuation"
  | .keyword => "Keyword"
  | .declaration => "Keyword.Declaration"
  | .decorator => "Name.Decorator"
  | .tag => "Name.Tag"
  | .attribute => "Name.Attribute"
  | .operator => "Operator"
  | .string => "Literal.String"
  | .number => "Literal.Number"
  | .variable => "Name.Variable"
  | .error => "Error"

end PageDirectives
