import TruncIdiom.Collection.Entries
import TruncIdiom.Text.Utf8
import TruncIdiom.Workspace.Path

/-!
The files of a workspace and the folders they lie in.

A place is the list of names that leads to a file or a folder from the top. A path is followed name
by name: every name but the last has to lead to a folder, a point stays where it is and two points
go back up. A path that is absolute or leaves the top leads nowhere. Files are read and written by
place, and writing one changes no other.
-/

namespace TruncIdiom.Workspace

open Text Collection

/-- The names that lead to a file or a folder from the top. -/
abbrev Place := List String

/-- Files with their contents, and folders that need not hold any. -/
structure FileMap where
  files : Entries Place Bytes := []
  folders : List Place := []
  deriving Repr

namespace FileMap

/-! ## Places -/

def get? (m : FileMap) (place : Place) : Option Bytes := m.files.get? place

/-- Whether there is a folder at a place: the top, a folder that was made, or one that holds
something. -/
def isFolderAt (m : FileMap) (place : Place) : Bool :=
  place.isEmpty || m.folders.any (fun folder => place.isPrefixOf folder) ||
    m.files.any fun file => place.isPrefixOf file.1.dropLast

def put (m : FileMap) (place : Place) (content : Bytes) : FileMap :=
  { m with files := m.files.put place content }

/-- Takes a file away. The folder it lay in stays. -/
def erase (m : FileMap) (place : Place) : FileMap :=
  ⟨m.files.erase place, place.dropLast :: m.folders⟩

def addFolder (m : FileMap) (place : Place) : FileMap :=
  { m with folders := place :: m.folders }

theorem get?_put_self (m : FileMap) (place : Place) (content : Bytes) :
    (m.put place content).get? place = some content :=
  Entries.get?_put_self ..

theorem get?_put_of_ne (m : FileMap) {place other : Place} (content : Bytes)
    (h : other ≠ place) : (m.put place content).get? other = m.get? other :=
  Entries.get?_put_of_ne _ _ h

/-! ## Paths -/

/-- The place that names lead to from a folder. -/
def follow (m : FileMap) (here : Place) : List String → Option Place
  | [] => some here
  | name :: names =>
    if !m.isFolderAt here then none
    else if name = "" || name = "." then m.follow here names
    else if name = ".." then
      if here.isEmpty then none else m.follow here.dropLast names
    else m.follow (here ++ [name]) names

/-- The place that a path leads to, whether there is anything or not. -/
def placeOf? (m : FileMap) (path : String) : Option Place :=
  if path = "" || isAbsolute path then none else m.follow [] (namesOf path)

def filePlace? (m : FileMap) (path : String) : Option Place :=
  (m.placeOf? path).filter fun place => (m.get? place).isSome

def isFile (m : FileMap) (path : String) : Bool := (m.filePlace? path).isSome

def isFolder (m : FileMap) (path : String) : Bool := (m.placeOf? path).any m.isFolderAt

def read? (m : FileMap) (path : String) : Option Bytes := (m.placeOf? path).bind m.get?

/-- Writes the file that a path leads to. A path that leads nowhere changes nothing. -/
def write (m : FileMap) (path : String) (content : Bytes) : FileMap :=
  match m.placeOf? path with
  | some place => m.put place content
  | none => m

/-! ## Sources -/

/-- The number of bytes at the front of a file in which a source has no NUL. -/
def probeSize : Nat := 8192

def isSource (content : Bytes) : Bool := !(content.take probeSize).contains 0

def readSource? (m : FileMap) (path : String) : Option Bytes := (m.read? path).filter isSource

/-! ## What lies below a folder -/

def skippedFolders : List String := ["node_modules", ".git"]

/-- The names of the files below a folder, without those in folders that are passed over. -/
def fileNamesBelow (m : FileMap) (root : Place) : List String :=
  m.files.filterMap fun (place, _) =>
    let below := place.drop root.length
    if root.isPrefixOf place && !below.dropLast.any skippedFolders.contains then below.getLast?
    else none

end FileMap

end TruncIdiom.Workspace
