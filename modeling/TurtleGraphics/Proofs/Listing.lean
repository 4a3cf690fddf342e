import TurtleGraphics.Program.Listing
import TurtleGraphics.Proofs.TokenGrammar

/-! # What a listing holds

The listing of a program is made with a list of the statements still to visit. `entriesAll` gives the same entries by
recursion over the statements (`toList_listing`), each loop before its body, so facts about listings can be proved along
the statements. -/

namespace TurtleGraphics

/-- The word that an entry is written with. -/
def Entry.keyword : Entry → Keyword
  | move direction _ => direction.keyword
  | turn side _ => side.keyword
  | pen down => penKeyword down
  | color _ => .color
  | loop _ _ => .rep

namespace Statement

mutual

/-- The entries of a statement and of those inside it. -/
def entries : Statement → List Entry
  | move direction distance => [.move direction distance]
  | turn side degrees => [.turn side degrees]
  | pen down => [.pen down]
  | color c => [.color c]
  | loop count body => .loop count body.length :: entriesAll body

def entriesAll : List Statement → List Entry
  | [] => []
  | s :: rest => s.entries ++ entriesAll rest

end

mutual

/-- How many loops there are in a statement, itself included. -/
def loops : Statement → Nat
  | move _ _ | turn _ _ | pen _ | color _ => 0
  | loop _ body => 1 + loopsAll body

def loopsAll : List Statement → Nat
  | [] => 0
  | s :: rest => s.loops + loopsAll rest

end

/-- The words of a statement and of those inside it. -/
def words (s : Statement) : List Keyword := s.entries.map Entry.keyword

def wordsAll (ss : List Statement) : List Keyword := (entriesAll ss).map Entry.keyword

@[simp] theorem wordsAll_nil : wordsAll [] = [] := by
  rw [wordsAll, entriesAll, List.map_nil]

@[simp] theorem wordsAll_cons (s : Statement) (rest : List Statement) :
    wordsAll (s :: rest) = s.words ++ wordsAll rest := by
  rw [wordsAll, entriesAll, List.map_append, words, wordsAll]

theorem entriesAll_append (a b : List Statement) : entriesAll (a ++ b) = entriesAll a ++ entriesAll b := by
  induction a with
  | nil => rw [entriesAll]; rfl
  | cons s rest ih => rw [List.cons_append, entriesAll, entriesAll, ih, List.append_assoc]

theorem entries_eq (s : Statement) : s.entries = s.entry :: entriesAll s.body := by
  cases s <;> simp [entries, entriesAll, entry, body]

theorem words_eq (s : Statement) : s.words = s.entry.keyword :: wordsAll s.body := by
  rw [words, entries_eq, List.map_cons, wordsAll]

theorem words_loop (count : UInt32) (body : List Statement) : (loop count body).words = .rep :: wordsAll body :=
  words_eq (loop count body)

theorem toList_list (done : Array Entry) (work : List Statement) :
    (list done work).toList = done.toList ++ entriesAll work := by
  fun_induction list done work with
  | case1 done => rw [entriesAll, List.append_nil]
  | case2 done s rest ih =>
    rw [ih, Array.toList_push, entriesAll_append, entriesAll, entries_eq s, List.append_assoc]
    rfl

mutual

theorem length_words : (s : Statement) → s.words.length = s.size
  | move _ _ | turn _ _ | pen _ | color _ => by simp [words, entries, size]
  | loop count body => by
    rw [words_loop, List.length_cons, length_wordsAll body, size, Nat.add_comm]

theorem length_wordsAll : (ss : List Statement) → (wordsAll ss).length = sizeAll ss
  | [] => by rw [wordsAll_nil, sizeAll]; rfl
  | s :: rest => by rw [wordsAll_cons, List.length_append, length_words s, length_wordsAll rest, sizeAll]

end

mutual

theorem count_rep_words : (s : Statement) → s.words.count .rep = s.loops
  | move direction _ => by cases direction <;> simp [words, entries, loops, Entry.keyword, Direction.keyword]
  | turn side _ => by cases side <;> simp [words, entries, loops, Entry.keyword, Side.keyword]
  | pen down => by cases down <;> simp [words, entries, loops, Entry.keyword, penKeyword]
  | color _ => by simp [words, entries, loops, Entry.keyword]
  | loop count body => by
    rw [words_loop, List.count_cons_self, count_rep_wordsAll body, loops, Nat.add_comm]

theorem count_rep_wordsAll : (ss : List Statement) → (wordsAll ss).count .rep = loopsAll ss
  | [] => by rw [wordsAll_nil, loopsAll]; rfl
  | s :: rest => by rw [wordsAll_cons, List.count_append, count_rep_words s, count_rep_wordsAll rest, loopsAll]

end

end Statement

namespace Program
open Statement

theorem toList_listing (p : Program) : p.listing.toList = entriesAll p.statements :=
  toList_list #[] p.statements

theorem statementCount_eq (p : Program) : p.statementCount = (wordsAll p.statements).length := by
  rw [statementCount, wordsAll, List.length_map, ← toList_listing, Array.length_toList]

end Program

end TurtleGraphics
