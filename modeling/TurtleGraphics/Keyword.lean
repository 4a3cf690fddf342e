/-! # Keywords

The eight instruction words of a turtle program, written in upper case. -/

namespace TurtleGraphics

/-- An instruction word. -/
inductive Keyword where
  | forw
  | back
  | left
  | right
  | down
  | up
  | color
  | rep
deriving Repr, DecidableEq

namespace Keyword

/-- Every keyword, in the order in which messages name them. -/
def all : List Keyword := [forw, back, left, right, down, up, color, rep]

/-- The spelling of a keyword. -/
def text : Keyword → String
  | forw => "FORW"
  | back => "BACK"
  | left => "LEFT"
  | right => "RIGHT"
  | down => "DOWN"
  | up => "UP"
  | color => "COLOR"
  | rep => "REP"

/-- The keyword with a given spelling; letter case counts. -/
def ofText? (word : String) : Option Keyword :=
  all.find? fun k => k.text == word

/-- Whether an argument follows the keyword, so that a blank or a comment has to end the word. -/
def needsSeparator : Keyword → Bool
  | down | up => false
  | _ => true

theorem mem_all (k : Keyword) : k ∈ all := by
  cases k <;> decide

theorem ofText?_text (k : Keyword) : ofText? k.text = some k := by
  cases k <;> decide

theorem text_of_ofText? {word : String} {k : Keyword} (h : ofText? word = some k) : k.text = word := by
  simpa using List.find?_some h

end Keyword

end TurtleGraphics
