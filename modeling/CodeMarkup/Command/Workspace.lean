import CodeMarkup.Command.Path
import CodeMarkup.Dictionary
import CodeMarkup.Text.Quoted

/-!
The files that a command works on, as far as they matter to it: the directories there are and the
bytes of the files. Spots are given by the steps that lead to them from the directory where the
command starts; that directory, those above it and the root are always there.
-/

namespace CodeMarkup

/-- Directories and files, by the steps that lead to them. -/
structure Workspace where
  directories : List (List String) := []
  files : Dictionary (List String) (List UInt8) := .empty

/-- What the system has to say against reading or writing. -/
inductive SystemError where
  | noSuchFile (path : String)
  | isDirectory (path : String)
  | notDirectory (path : String)
  | nameTooLong (path : String)
  deriving DecidableEq, Repr

def SystemError.message : SystemError → String
  | noSuchFile path => "[Errno 2] No such file or directory: " ++ Text.quoted path
  | isDirectory path => "[Errno 21] Is a directory: " ++ Text.quoted path
  | notDirectory path => "[Errno 20] Not a directory: " ++ Text.quoted path
  | nameTooLong path => "[Errno 36] File name too long: " ++ Text.quoted path

/-- What a path leads to: a directory, a file, a place in a directory where nothing is yet, nothing
at all, something beyond a file, or a name that is too long. -/
inductive Place where
  | directory
  | file (spot : List String) (bytes : List UInt8)
  | free (spot : List String)
  | nowhere
  | beyondFile
  | tooLong
  deriving DecidableEq, Repr

namespace Workspace

/-- The most bytes that the name of a file may have. -/
def nameLimit : Nat := 255

/-- The most bytes that a path may have. -/
def pathLimit : Nat := 4095

def isDirectoryAt (w : Workspace) (spot : List String) : Bool :=
  -- The directories above that of the program are there without being listed.
  spot.all (fun step => step = ".." ∨ step = "/") || w.directories.contains spot

def above (spot : List String) : List String :=
  match spot.getLast? with
  | none => [".."]
  | some ".." => spot ++ [".."]
  | some "/" => spot
  | some _ => spot.dropLast

def next (spot : List String) (step : String) : List String :=
  if step = ".." then above spot else spot ++ [step]

/-- What steps lead to from a directory. -/
def walk (w : Workspace) : List String → List String → Place
  | _, [] => .directory
  | spot, step :: steps =>
    let there := next spot step
    if nameLimit < step.utf8ByteSize then .tooLong
    else if w.isDirectoryAt there then w.walk there steps
    -- Only the last step may lead to something other than a directory.
    else match w.files.get? there with
      | some bytes => if steps.isEmpty then .file there bytes else .beyondFile
      | none => if steps.isEmpty then .free there else .nowhere

def place (w : Workspace) (p : Path) : Place :=
  if pathLimit < p.text.utf8ByteSize then .tooLong else w.walk [] p.steps

/-- Whether a path as given leads to a directory; the empty one leads nowhere. -/
def isDirectory (w : Workspace) (given : String) : Bool :=
  given ≠ "" && given.utf8ByteSize ≤ pathLimit && w.place (.ofText given) == .directory

def read (w : Workspace) (p : Path) : Except SystemError (List UInt8) :=
  match w.place p with
  | .file _ bytes => .ok bytes
  | .directory => .error (.isDirectory p.text)
  | .beyondFile => .error (.notDirectory p.text)
  | .tooLong => .error (.nameTooLong p.text)
  | .free _ | .nowhere => .error (.noSuchFile p.text)

def write (w : Workspace) (p : Path) (bytes : List UInt8) : Except SystemError Workspace :=
  match w.place p with
  | .file spot _ => .ok { w with files := w.files.put spot bytes }
  | .free spot => .ok { w with files := w.files.put spot bytes }
  | .directory => .error (.isDirectory p.text)
  | .beyondFile => .error (.notDirectory p.text)
  | .tooLong => .error (.nameTooLong p.text)
  | .nowhere => .error (.noSuchFile p.text)

/-- The files that are new or have other bytes than before. -/
def changes (before after : Workspace) : List (List String × List UInt8) :=
  after.files.entries.filter fun e => before.files.get? e.1 != some e.2

/-- The spots that steps lead to from a spot, one after the other. -/
def trail : List String → List String → List (List String)
  | _, [] => []
  | spot, step :: steps => next spot step :: trail (next spot step) steps

/-- The workspace with a directory more, and those on the way to it. -/
def makeDirectory (w : Workspace) (p : Path) : Workspace :=
  { w with directories := w.directories ++ trail [] p.steps }

/-- The workspace with a file more, and the directories on the way to it. -/
def makeFile (w : Workspace) (p : Path) (bytes : List UInt8) : Workspace :=
  { directories := w.directories ++ trail [] p.steps.dropLast
    files := w.files.put (p.steps.foldl next []) bytes }

end Workspace

end CodeMarkup
