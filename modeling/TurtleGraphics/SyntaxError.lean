import TurtleGraphics.Token

/-! # Syntax errors

Why a text is no program, and where: an error stands at the start of the first token that no program can go on
with. -/

namespace TurtleGraphics

namespace SyntaxError

/-- What has to come next where the grammar leaves no choice. -/
inductive Expectation where
  | number
  | color
  | period
deriving Repr, DecidableEq

/-- The words that an expectation stands for. -/
def Expectation.text : Expectation → String
  | number => "number"
  | color => "color"
  | period => "'.'"

/-- What is wrong. -/
inductive Kind where
  /-- the token itself is malformed -/
  | lexical (cause : LexicalError)
  /-- the argument or the end of a statement is missing -/
  | expected (expectation : Expectation) (found : Token.Label)
  /-- no keyword where a statement has to start -/
  | expectedStatement (found : Token.Label)
  /-- a quoted body without statements -/
  | emptyLoop
  /-- a quoted body that the text ends in -/
  | unterminatedLoop
  /-- a color token that is no color -/
  | invalidColor (literal : String)
deriving Repr, DecidableEq

/-- What a user is told, apart from the place. -/
def Kind.message : Kind → String
  | lexical cause => cause.message
  | expected expectation found => "expected " ++ expectation.text ++ ", found " ++ found.text
  | expectedStatement found => "expected a statement, found " ++ found.text
  | emptyLoop => "empty repeat block"
  | unterminatedLoop => "repeat block is missing its closing '\"'"
  | invalidColor literal => Color.invalidMessage literal

end SyntaxError

/-- What is wrong, and where. -/
structure SyntaxError where
  kind : SyntaxError.Kind
  position : Position
deriving Repr, DecidableEq

namespace SyntaxError

/-- The line that the error is on. -/
def line (e : SyntaxError) : Nat := e.position.line

/-- What a user is told. -/
def message (e : SyntaxError) : String :=
  e.kind.message ++ " at line " ++ e.position.line.repr ++ ", column " ++ e.position.column.repr

end SyntaxError

end TurtleGraphics
