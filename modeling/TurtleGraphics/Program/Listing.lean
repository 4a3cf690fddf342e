import TurtleGraphics.Program

/-! # Listings

The listing of a program names its statements in the order in which they are written, a loop before the
statements of its body. A loop is listed with the number of statements that its body has, so the program can be
built again from the listing alone (`ofListing?_listing`); two programs are equal when their listings are. -/

namespace TurtleGraphics

/-- One line of a listing. -/
inductive Entry where
  | move (direction : Direction) (distance : UInt32)
  | turn (side : Side) (degrees : UInt32)
  | pen (down : Bool)
  | color (color : Color)
  | loop (count : UInt32) (length : Nat)
deriving Repr, DecidableEq

namespace Statement

/-- How a statement is listed itself. -/
def entry : Statement → Entry
  | move direction distance => .move direction distance
  | turn side degrees => .turn side degrees
  | pen down => .pen down
  | color c => .color c
  | loop count body => .loop count body.length

/-- The statements directly inside a statement. -/
def body : Statement → List Statement
  | loop _ body => body
  | move _ _ | turn _ _ | pen _ | color _ => []

theorem size_eq (s : Statement) : s.size = 1 + sizeAll s.body := by
  cases s <;> simp [size, body, sizeAll]

/-- Lists the statements to visit after the entries in `done`. -/
def list (done : Array Entry) : List Statement → Array Entry
  | [] => done
  | s :: rest => list (done.push s.entry) (s.body ++ rest)
termination_by work => sizeAll work
decreasing_by
  rw [sizeAll_append, sizeAll, size_eq s]
  omega

/-- Puts the statement of one entry before the statements that the entries after it stand for. A loop takes its
    body from them, and there is no statement if they are too few. -/
def assemble (entry : Entry) (after : List Statement) : Option (List Statement) :=
  match entry with
  | .move direction distance => some (move direction distance :: after)
  | .turn side degrees => some (turn side degrees :: after)
  | .pen down => some (pen down :: after)
  | .color c => some (color c :: after)
  | .loop count length =>
    let body := after.take length
    if body.length = length then some (loop count body :: after.drop length) else none

/-- A statement is assembled from its entry and its body. -/
theorem assemble_entry (s : Statement) (after : List Statement) :
    assemble s.entry (s.body ++ after) = some (s :: after) := by
  cases s <;> simp [assemble, entry, body]

end Statement

namespace Program

/-- The listing of a program. -/
def listing (p : Program) : Array Entry :=
  Statement.list #[] p.statements

/-- How many statements a program has, at every depth. -/
def statementCount (p : Program) : Nat :=
  p.listing.size

/-- The program with a given listing. -/
def ofListing? (entries : Array Entry) : Option Program :=
  (entries.foldr (fun entry after => after.bind (Statement.assemble entry)) (some [])).map Program.mk

end Program

/-! ### Listings determine programs -/

theorem Statement.foldr_assemble_list (done : Array Entry) (work : List Statement) :
    (list done work).foldr (fun entry after => after.bind (assemble entry)) (some []) =
      done.foldr (fun entry after => after.bind (assemble entry)) (some work) := by
  fun_induction list done work with
  | case1 done => rfl
  | case2 done s rest ih =>
    rw [ih, Array.foldr_push, Option.bind_some, assemble_entry]

namespace Program

@[simp] theorem ofListing?_listing (p : Program) : ofListing? p.listing = some p := by
  simp [ofListing?, listing, Statement.foldr_assemble_list]

theorem listing_inj {p q : Program} : p.listing = q.listing ↔ p = q := by
  refine ⟨fun h => ?_, fun h => h ▸ rfl⟩
  have := congrArg ofListing? h
  simpa using this

instance : DecidableEq Program := fun p q =>
  decidable_of_iff (p.listing = q.listing) listing_inj

end Program

end TurtleGraphics
