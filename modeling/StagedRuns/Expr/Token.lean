import StagedRuns.Number.Notation

/-!
The tokens of expressions and their words. A number keeps the decimal it is written as.
-/

namespace StagedRuns.Expr

open StagedRuns.Number (Decimal)

inductive Token where
  | null
  | true
  | false
  | number (value : Decimal)
  | text (content : String)
  | name (word : String)
  | within
  | plus
  | minus
  | star
  | slash
  | percent
  | equal
  | unequal
  | less
  | atMost
  | greater
  | atLeast
  | both
  | either
  | not
  | dot
  | comma
  | colon
  | question
  | openParen
  | closeParen
  | openBracket
  | closeBracket
  | endOfInput
deriving DecidableEq, Repr, Inhabited

def Token.words : Token → String
  | .null => "null"
  | .true => "true"
  | .false => "false"
  | .number value => Number.positional value.toFloat
  | .text content => "'" ++ content ++ "'"
  | .name word => word
  | .within => "in"
  | .plus => "+"
  | .minus => "-"
  | .star => "*"
  | .slash => "/"
  | .percent => "%"
  | .equal => "=="
  | .unequal => "!="
  | .less => "<"
  | .atMost => "<="
  | .greater => ">"
  | .atLeast => ">="
  | .both => "&&"
  | .either => "||"
  | .not => "!"
  | .dot => "."
  | .comma => ","
  | .colon => ":"
  | .question => "?"
  | .openParen => "("
  | .closeParen => ")"
  | .openBracket => "["
  | .closeBracket => "]"
  | .endOfInput => "end of input"

def Token.ofWord (word : String) : Token :=
  if word = "null" then .null
  else if word = "true" then .true
  else if word = "false" then .false
  else if word = "in" then .within
  else .name word

/-- How deep the parts of an expression may nest. -/
def maxDepth : Nat := 100

inductive SyntaxFault where
  | unrecognized (c : Char) (position : Nat)
  | unfinishedEscape (position : Nat)
  | unfinishedText (position : Nat)
  | unexpected (found : Token)
  | expected (wanted found : Token)
  | tooDeep
deriving DecidableEq, Repr

def SyntaxFault.message : SyntaxFault → String
  | .unrecognized c position => s!"token recognition error at: '{c}' at position {position}"
  | .unfinishedEscape position => s!"unterminated escape sequence at position {position}"
  | .unfinishedText position => s!"unterminated string literal at position {position}"
  | .unexpected found => s!"unexpected '{found.words}'"
  | .expected wanted found => s!"expected '{wanted.words}', found '{found.words}'"
  | .tooDeep => s!"expression nested deeper than {maxDepth} levels"

end StagedRuns.Expr
