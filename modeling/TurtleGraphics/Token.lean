import TurtleGraphics.Color
import TurtleGraphics.Keyword
import TurtleGraphics.Position
import TurtleGraphics.Text.Escape

/-! # Tokens

The pieces that the text of a program is read as. A stretch of text that is no proper piece becomes a token
too, one that holds what is wrong with it, so that reading a text into tokens never fails. -/

namespace TurtleGraphics

/-- What is wrong with a stretch of text. -/
inductive LexicalError where
  /-- a word that is no keyword -/
  | unknownKeyword (word : String)
  /-- a keyword that runs into what follows it -/
  | missingSeparator (keyword : Keyword)
  /-- a number with the value 0 -/
  | zeroNumber
  /-- a number that runs into what follows it -/
  | malformedNumber (digits : String)
  /-- a number that does not fit into 32 bits -/
  | numberTooLarge (digits : String)
  /-- a `#` with more or fewer than six hexadecimal digits -/
  | malformedColor (literal : String)
  /-- a character that starts nothing -/
  | unexpectedCharacter (c : Char)
deriving Repr, DecidableEq

/-- What a user is told. -/
def LexicalError.message : LexicalError → String
  | unknownKeyword word =>
    "unknown word '" ++ word ++ "', expected one of " ++ ", ".intercalate (Keyword.all.map Keyword.text)
  | missingSeparator keyword =>
    "keyword '" ++ keyword.text ++ "' must be followed by whitespace or a comment"
  | zeroNumber => "number can not be 0"
  | malformedNumber digits =>
    "number '" ++ digits ++ "' must be followed by whitespace, a comment, or '.'"
  | numberTooLarge digits => "number '" ++ digits ++ "' is too large"
  | malformedColor literal => "color '" ++ literal ++ "' must be '#' followed by 6 hex digits"
  | unexpectedCharacter c => "unexpected character: " ++ Text.escape c

namespace Token

/-- What a token is. -/
inductive Kind where
  | keyword (word : Keyword)
  | number (value : UInt32)
  /-- a color literal, `#` included -/
  | hex (literal : String)
  | period
  | quote
  | error (cause : LexicalError)
  | eof
deriving Repr, DecidableEq

/-- What messages call a token. Numbers and colors are called so whatever their value. -/
inductive Label where
  | keyword (word : Keyword)
  | number
  | color
  | period
  | quote
  | invalid
  | endOfInput
deriving Repr, DecidableEq

/-- The words that a label stands for. -/
def Label.text : Label → String
  | keyword word => word.text
  | number => "number"
  | color => "color"
  | period => "'.'"
  | quote => "'\"'"
  | invalid => "invalid input"
  | endOfInput => "end of input"

/-- What messages call a token of a kind. -/
def Kind.label : Kind → Label
  | keyword word => .keyword word
  | number _ => .number
  | hex _ => .color
  | period => .period
  | quote => .quote
  | error _ => .invalid
  | eof => .endOfInput

/-- The tokens that programs are made of: all but malformed ones and end markers. -/
def Kind.isProper : Kind → Bool
  | keyword _ | number _ | hex _ | period | quote => true
  | error _ | eof => false

/-- What is wrong with a token, if anything is. -/
def Kind.error? : Kind → Option LexicalError
  | error cause => some cause
  | _ => none

end Token

/-- A token and the stretch of text from `start` up to `stop` that it was read from. -/
structure Token where
  kind : Token.Kind
  start : Position
  stop : Position
deriving Repr, DecidableEq

/-- Whether a token marks the end of the text. -/
def Token.isEof (t : Token) : Bool :=
  t.kind = .eof

end TurtleGraphics
