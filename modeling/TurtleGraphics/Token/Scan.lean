import TurtleGraphics.Text.Alphabetic
import TurtleGraphics.Text.UpperCase
import TurtleGraphics.Token

/-! # Reading text as tokens

The text is put into upper case first; positions and token texts are those of the upper-cased text. From
there on every step takes a non-empty stretch off the front, a blank, a comment or the text of a token, until
nothing is left. Words, numbers and colors reach as far as their characters go. -/

namespace TurtleGraphics.Token

/-- Blanks stand between tokens and mean nothing. -/
def isBlank (c : Char) : Bool :=
  c = ' ' || c = '\t' || c = '\n'

/-- Whether what follows ends a word or a number: a blank or a comment. -/
def startsSeparator : List Char → Bool
  | c :: _ => isBlank c || c = '%'
  | [] => false

/-- What a maximal run of letters is, given what follows it. -/
def wordKind (word : List Char) (rest : List Char) : Kind :=
  match Keyword.ofText? (String.ofList word) with
  | some k => if !k.needsSeparator || startsSeparator rest then .keyword k else .error (.missingSeparator k)
  | none => .error (.unknownKeyword (String.ofList word))

/-- What a maximal run of digits is, given what follows it. A zero is wrong whatever follows. -/
def numberKind (digits : List Char) (rest : List Char) : Kind :=
  let value := Nat.ofDigitChars 10 digits 0
  if value = 0 then .error .zeroNumber
  else if !startsSeparator rest && rest.head? != some '.' then .error (.malformedNumber (String.ofList digits))
  else if value < UInt32.size then .number value.toUInt32
  else .error (.numberTooLarge (String.ofList digits))

/-- What `#` and a maximal run of hexadecimal digits are. A wrong number of digits is told before the
    literal itself. -/
def colorKinds (digits : List Char) : List Kind :=
  let literal := String.ofList ('#' :: digits)
  if digits.length = 6 then [.hex literal] else [.error (.malformedColor literal), .hex literal]

/-- One step of reading: a stretch of text, what it is, and the text after it. A blank or a comment is no
    token, and a malformed color is two. -/
structure Lexeme where
  kinds : List Kind
  text : List Char
  rest : List Char
deriving Repr, DecidableEq

/-- The stretch of text that starts with `c`. -/
def lexeme (c : Char) (rest : List Char) : Lexeme :=
  if isBlank c then ⟨[], [c], rest⟩
  else if c = '%' then ⟨[], c :: rest.takeWhile (· != '\n'), rest.dropWhile (· != '\n')⟩
  else if c = '.' then ⟨[.period], [c], rest⟩
  else if c = '"' then ⟨[.quote], [c], rest⟩
  else if c = '#' then
    let digits := rest.takeWhile Color.isHexDigit
    ⟨colorKinds digits, c :: digits, rest.dropWhile Color.isHexDigit⟩
  else if c.isDigit then
    let digits := c :: rest.takeWhile Char.isDigit
    let rest := rest.dropWhile Char.isDigit
    ⟨[numberKind digits rest], digits, rest⟩
  else if Text.isAlphabetic c then
    let word := c :: rest.takeWhile Text.isAlphabetic
    let rest := rest.dropWhile Text.isAlphabetic
    ⟨[wordKind word rest], word, rest⟩
  else ⟨[.error (.unexpectedCharacter c)], [c], rest⟩

/-- A step loses nothing of the text. -/
theorem text_append_rest_lexeme (c : Char) (rest : List Char) :
    (lexeme c rest).text ++ (lexeme c rest).rest = c :: rest := by
  unfold lexeme
  repeat' split
  all_goals simp [List.takeWhile_append_dropWhile]

/-- A step takes something off the text. -/
theorem text_lexeme_ne_nil (c : Char) (rest : List Char) : (lexeme c rest).text ≠ [] := by
  unfold lexeme
  repeat' split
  all_goals simp

theorem length_rest_lexeme_le (c : Char) (rest : List Char) :
    (lexeme c rest).rest.length ≤ rest.length := by
  have whole := congrArg List.length (text_append_rest_lexeme c rest)
  have taken := List.length_pos_iff.mpr (text_lexeme_ne_nil c rest)
  simp only [List.length_append, List.length_cons] at whole
  omega

/-- Reads upper-cased text that starts at a position, after the tokens `before`, the last of them first.
    The result is in reading order; after it comes the position where the text ends. -/
def scanFrom (position : Position) (before : List Token) : List Char → List Token × Position
  | [] => (before.reverse, position)
  | c :: rest =>
    let piece := lexeme c rest
    let stop := position.after piece.text
    let tokens := piece.kinds.map fun kind => ⟨kind, position, stop⟩
    scanFrom stop (tokens.reverse ++ before) piece.rest
termination_by text => text.length
decreasing_by exact Nat.lt_succ_of_le (length_rest_lexeme_le c rest)

/-- The tokens of a text. The last one marks the end; it stands where the last token with text in it starts,
    or where the text ends if there is none. -/
def scan (text : String) : List Token :=
  let (tokens, finish) := scanFrom .start [] (Text.upperCase text)
  let position := (tokens.getLast?.map Token.start).getD finish
  tokens ++ [⟨.eof, position, position⟩]

end TurtleGraphics.Token
