import TurtleGraphics.Drawing
import TurtleGraphics.Program.Format
import TurtleGraphics.Program.Parse

/-! # The command line

`run` prints what a program draws, `fmt` its canonical text, and `check` whether programs are valid. What a
command does depends on the arguments, on what reading a file or standard input gives, and on whether standard
output can be written; its outcome is what it writes and the code it exits with. -/

namespace TurtleGraphics

/-- A refusal of the operating system. -/
structure SystemError where
  code : Nat
  description : String
deriving Repr, DecidableEq

namespace SystemError

def notFound : SystemError := ⟨2, "No such file or directory"⟩

def notDirectory : SystemError := ⟨20, "Not a directory"⟩

def isDirectory : SystemError := ⟨21, "Is a directory"⟩

def noSpace : SystemError := ⟨28, "No space left on device"⟩

/-- What a user is told. -/
def message (e : SystemError) : String :=
  e.description ++ " (os error " ++ e.code.repr ++ ")"

end SystemError

/-- Why a text could not be read. -/
inductive ReadError where
  | system (e : SystemError)
  /-- the bytes are no UTF-8 -/
  | notText
deriving Repr, DecidableEq

/-- What a user is told. -/
def ReadError.message : ReadError → String
  | system e => e.message
  | notText => "stream did not contain valid UTF-8"

/-- The text that bytes stand for. -/
def decodeText (bytes : ByteArray) : Except ReadError String :=
  match String.fromUTF8? bytes with
  | some text => .ok text
  | none => .error .notText

/-- What a command finds around it. -/
structure Host where
  /-- what reading the file at a path gives -/
  file : String → Except ReadError String
  /-- what reading standard input gives -/
  input : Except ReadError String
  /-- why writing to standard output fails, if it does -/
  outputError : Option SystemError
  /-- what is left on standard error by a process that a failure of standard output aborts -/
  abortReport : SystemError → String

/-- How a command ends. -/
inductive ExitStatus where
  | success
  | failure
  /-- the arguments ask for nothing that there is -/
  | usage
  /-- standard output failed where a failure is not provided for -/
  | aborted
deriving Repr, DecidableEq

/-- The code that a process exits with. -/
def ExitStatus.code : ExitStatus → Nat
  | success => 0
  | failure => 1
  | usage => 2
  | aborted => 101

/-- How a command ends and what it has written to standard output and to standard error. -/
structure Outcome where
  status : ExitStatus
  output : String
  errors : String
deriving Repr, DecidableEq

/-- Where the text of a program comes from. -/
inductive Source where
  | standardInput
  | file (path : String)
deriving Repr, DecidableEq

namespace Source

/-- The name that messages give the source. -/
def name : Source → String
  | standardInput => "<stdin>"
  | file path => path

/-- What reading the source gives. -/
def read (s : Source) (host : Host) : Except ReadError String :=
  match s with
  | standardInput => host.input
  | file path => host.file path

end Source

/-- What the arguments ask for. -/
inductive Command where
  | run (source : Source)
  | format (source : Source)
  /-- at least one path -/
  | check (paths : List String)
  | version
deriving Repr, DecidableEq

namespace Command

/-! ### Arguments -/

/-- Whether an argument is an option: a dash and something after it. -/
def isOption (argument : String) : Bool :=
  match argument.toList with
  | '-' :: _ :: _ => true
  | _ => false

/-- The file names among the arguments of a command. There are no options; behind `--` every argument is a file
    name. No file name is empty. -/
def fileNames? : List String → Option (List String)
  | [] => some []
  | argument :: rest =>
    if argument = "--" then if rest.all (· ≠ "") then some rest else none
    else if argument = "" || isOption argument then none
    else (fileNames? rest).map (argument :: ·)

/-- The source that at most one file name stands for. -/
def source? : List String → Option Source
  | [] => some .standardInput
  | [path] => some (.file path)
  | _ => none

/-- Whether the first argument asks for the version: the long option, or short options of which it is the first. -/
def asksVersion (argument : String) : Bool :=
  argument = "--version" || match argument.toList with
    | '-' :: 'V' :: _ => true
    | _ => false

/-- The command that arguments ask for. There is no help to ask for, only the usage line. -/
def ofArguments? : List String → Option Command
  | [] => none
  | first :: rest =>
    if asksVersion first then some version
    else if first = "run" then ((fileNames? rest).bind source?).map run
    else if first = "fmt" then ((fileNames? rest).bind source?).map format
    else if first = "check" then match fileNames? rest with
      | some (path :: paths) => some (check (path :: paths))
      | _ => none
    else none

/-! ### Outcomes -/

/-- A line on standard error that says what befell a source. -/
def remark (name message : String) : String :=
  name ++ ": " ++ message ++ "\n"

/-- Writes a text to standard output. Writing nothing never fails. -/
def print (host : Host) (text : String) : Outcome :=
  match host.outputError with
  | some e => if text = "" then ⟨.success, "", ""⟩ else ⟨.failure, "", remark "<stdout>" e.message⟩
  | none => ⟨.success, text, ""⟩

/-- The line on standard output about a program that cannot be run. -/
def syntaxErrorLine (e : SyntaxError) : String :=
  "Syntaxfel på rad " ++ e.line.repr ++ "\n"

/-- Prints what a program draws. About a syntax error a line goes to standard output as well, and nothing makes up
    for a failure to write that. -/
def runOutcome (host : Host) (source : Source) : Outcome :=
  match source.read host with
  | .error e => ⟨.failure, "", remark source.name e.message⟩
  | .ok text => match Program.parse text with
    | .ok program => print host (Segment.render program.segments)
    | .error e => match host.outputError with
      | none => ⟨.failure, syntaxErrorLine e, remark source.name e.message⟩
      | some fault => ⟨.aborted, "", host.abortReport fault⟩

/-- Prints the canonical text of a program. -/
def formatOutcome (host : Host) (source : Source) : Outcome :=
  match source.read host with
  | .error e => ⟨.failure, "", remark source.name e.message⟩
  | .ok text => match Program.parse text with
    | .ok program => print host program.format
    | .error e => ⟨.failure, "", remark source.name e.message⟩

/-- What checking files has brought so far. -/
structure Findings where
  /-- whether one of the files holds no valid program -/
  failed : Bool
  /-- what was said of the files -/
  lines : String
deriving Repr, DecidableEq

/-- Goes on to the file at a path. A failure is never taken back, and no failure keeps the next file from its turn. -/
def checkNext (host : Host) (before : Findings) (path : String) : Findings :=
  match host.file path with
  | .error e => ⟨true, before.lines ++ remark path e.message⟩
  | .ok text => match Program.parse text with
    | .ok program =>
      ⟨before.failed, before.lines ++ remark path ("valid (" ++ program.statementCount.repr ++ " statement(s))")⟩
    | .error e => ⟨true, before.lines ++ remark path e.message⟩

/-- What checking the files at paths brings, one after the other. -/
def findings (host : Host) (paths : List String) : Findings :=
  paths.foldl (checkNext host) ⟨false, ""⟩

/-- Says of every file whether it holds a valid program. -/
def checkOutcome (host : Host) (paths : List String) : Outcome :=
  let found := findings host paths
  ⟨if found.failed then .failure else .success, "", found.lines⟩

/-- The line that tells the version. -/
def versionLine : String := "turtle 0.1.0\n"

/-- What a command does. -/
def outcome (host : Host) : Command → Outcome
  | run source => runOutcome host source
  | format source => formatOutcome host source
  | check paths => checkOutcome host paths
  | version => ⟨.success, if host.outputError.isSome then "" else versionLine, ""⟩

/-- What is said of arguments that ask for nothing. -/
def usageLine : String := "usage: turtle run [FILE] | fmt [FILE] | check FILE... | --version\n"

/-- What the program does with its arguments. -/
def outcomeOf (host : Host) (arguments : List String) : Outcome :=
  match ofArguments? arguments with
  | some command => command.outcome host
  | none => ⟨.usage, "", usageLine⟩

/-- Arguments that name files ask for what the first word says: `run` and `fmt` take one file or standard input, and
    `check` takes any files, but at least one. -/
theorem outcomeOf_fileNames {arguments paths : List String} (h : fileNames? arguments = some paths) (host : Host) :
    (∀ source, source? paths = some source →
      outcomeOf host ("run" :: arguments) = (run source).outcome host ∧
      outcomeOf host ("fmt" :: arguments) = (format source).outcome host) ∧
    (paths ≠ [] → outcomeOf host ("check" :: arguments) = (check paths).outcome host) := by
  constructor
  · intro source hsource
    simp [outcomeOf, ofArguments?, asksVersion, h, hsource]
  · intro hne
    obtain ⟨path, paths, rfl⟩ := List.exists_cons_of_ne_nil hne
    simp [outcomeOf, ofArguments?, asksVersion, h]

-- Behind `--` a file name may start with a dash.
example : fileNames? ["--", "-a"] = some ["-a"] ∧ fileNames? ["a", "-b"] = none := by decide

/-! ### File by file -/

/-- What two lots of files bring together. -/
instance : Append Findings := ⟨fun a b => ⟨a.failed || b.failed, a.lines ++ b.lines⟩⟩

theorem Findings.append_eq (a b : Findings) : a ++ b = ⟨a.failed || b.failed, a.lines ++ b.lines⟩ := rfl

theorem Findings.append_assoc (a b c : Findings) : a ++ b ++ c = a ++ (b ++ c) := by
  simp only [append_eq, Bool.or_assoc, String.append_assoc]

section
variable (host : Host)

/-- What a file brings does not depend on the files before it. -/
theorem checkNext_eq (before : Findings) (path : String) :
    checkNext host before path = before ++ findings host [path] := by
  rw [findings, List.foldl_cons, List.foldl_nil, Findings.append_eq]
  unfold checkNext
  split
  · simp
  · split <;> simp

-- Along the files, for whatever was found before them.
theorem foldl_checkNext (paths : List String) (before : Findings) :
    paths.foldl (checkNext host) before = before ++ findings host paths := by
  induction paths generalizing before with
  | nil => simp [findings, Findings.append_eq]
  | cons path paths ih =>
    rw [findings, List.foldl_cons, List.foldl_cons, ih, ih, checkNext_eq, Findings.append_assoc]
    rfl

theorem findings_append (paths more : List String) :
    findings host (paths ++ more) = findings host paths ++ findings host more := by
  rw [findings, List.foldl_append, foldl_checkNext]
  rfl

theorem errors_check_append (paths more : List String) : ((check (paths ++ more)).outcome host).errors =
    ((check paths).outcome host).errors ++ ((check more).outcome host).errors :=
  congrArg Findings.lines (findings_append host paths more)

end

end Command

end TurtleGraphics
