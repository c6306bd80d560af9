import NetworkRollout.Object.Documents
import NetworkRollout.Template.Render

/-!
# Manifest directories

The manifests of a directory are its files with an extension of YAML or JSON. They are rendered
and read in the order of their names, and the first one that fails decides.

* `Directory.load`: the objects of all manifests.
-/

namespace NetworkRollout

inductive DirectoryEntry where
  | file (text : String)
  /-- A file that is no readable text. -/
  | unreadable
  | directory
  deriving DecidableEq, Repr

/-- A directory at a path; its entries are none when there is no such directory. -/
structure Directory where
  path : String
  entries : Option (List (String × DirectoryEntry))
  deriving Repr

namespace Directory

/-- What is behind the last dot of a name, unless the dot comes first. -/
def extension? (name : String) : Option String :=
  let reversed := name.toList.reverse
  match reversed.dropWhile (· ≠ '.') with
  | _ :: _ :: _ => some (String.ofList (reversed.takeWhile (· ≠ '.')).reverse)
  | _ => none

def isManifest (entry : String × DirectoryEntry) : Bool :=
  entry.2 ≠ .directory && extension? entry.1 ∈ [some "yaml", some "yml", some "json"]

/-- The manifests among entries in the order of their names. -/
def manifests (entries : List (String × DirectoryEntry)) : List (String × DirectoryEntry) :=
  (entries.filter isManifest).mergeSort fun a b => a.1 ≤ b.1

/-- The text of a template; a failure is located at the source. -/
def renderAt (source template : String) (vars : Template.Variables) : Except Failure String :=
  match Template.render? template vars with
  | some text => .ok text
  | none => .error (.manifest (Failure.located source))

def unreadableAt (what path : String) : Failure :=
  .manifest s!"Failed to read {what}{path}: {Failure.elided}"

def loadEntry (path : String) (vars : Template.Variables) (entry : String × DirectoryEntry) :
    Except Failure (List Object) := do
  let source := path ++ "/" ++ entry.1
  match entry.2 with
  | .file text => Object.parseManifest source (← renderAt source text vars)
  | _ => throw (unreadableAt "" source)

/-- The objects of all manifests, in the order of the files and of the documents in each. -/
def load (dir : Directory) (vars : Template.Variables) : Except Failure (List Object) :=
  match dir.entries with
  | none => .error (unreadableAt "manifest dir " dir.path)
  | some entries => do
    let objects ← (manifests entries).mapM (loadEntry dir.path vars)
    return objects.flatten

end Directory

end NetworkRollout
