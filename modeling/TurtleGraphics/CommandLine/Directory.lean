import TurtleGraphics.CommandLine

/-! # A directory in memory

A working directory that holds files and no other directories, and what reading a path in it gives. -/

namespace TurtleGraphics

/-- The names and contents of the files of a directory. -/
structure Directory where
  files : List (String × ByteArray)

namespace Directory

/-- The contents of the file with a name. -/
def contents? (d : Directory) (name : String) : Option ByteArray :=
  (d.files.find? fun file => file.1 == name).map (·.2)

/-- Reads a path outside of the directory, given by its steps: directories above are there, and nothing else. -/
def readOutside (steps : List String) : Except SystemError ByteArray :=
  if steps.all fun step => step = "" || step = "." || step = ".." then .error .isDirectory else .error .notFound

/-- Reads a path given by its steps. An empty step or a dot stays in the directory, two dots leave it, and nothing
    is inside of a file. -/
def readSteps (d : Directory) : List String → Except SystemError ByteArray
  | [] => .error .isDirectory
  | step :: rest =>
    if step = "" || step = "." then d.readSteps rest
    else if step = ".." then readOutside rest
    else match d.contents? step with
      | none => .error .notFound
      | some bytes => if rest.isEmpty then .ok bytes else .error .notDirectory

/-- Reads the file at a path. -/
def read (d : Directory) (path : String) : Except SystemError ByteArray :=
  match path.splitOn "/" with
  | "" :: rest => readOutside rest
  | steps => d.readSteps steps

/-- What a command finds that is started in the directory. Where nothing else is given, a process is aborted in
    silence. -/
def host (d : Directory) (input : ByteArray) (outputError : Option SystemError)
    (abortReport : SystemError → String := fun _ => "") : Host where
  file path := match d.read path with
    | .error e => .error (.system e)
    | .ok bytes => decodeText bytes
  input := decodeText input
  outputError := outputError
  abortReport := abortReport

end Directory

end TurtleGraphics
