import JqFlow.Files.Path
import JqFlow.Text.Lines
import JqFlow.Text.Utf8

/-!
# File trees

What a file system holds, as far as this program can see it: files with their bytes, and folders.
An operation that can fail after a first change returns the tree also when it fails.

There are no symbolic links, so a location is known by one path alone; everything may be read and
written; and no name is too long.

## Main definitions

- `FileTree`, `FileTree.get?`: what is where
- `FileTree.put`, `FileTree.erase`, `FileTree.eraseFolder`: one entry more, or less
- `FileTree.makeFolders`: a folder with the folders around it
- `FileTree.writeText`, `FileTree.readText`: texts in files
- `FileTree.fresh`: a name that no entry has
- `FileError`: why an operation fails
-/

namespace JqFlow

/-- What can be at a location. -/
inductive FileItem
  | file (content : Bytes)
  | folder
  deriving DecidableEq

/-- Why an operation on files fails. -/
inductive FileError
  | notFound
  | occupied
  | isFolder
  | notFolder
  | unencodable
  | undecodable (e : Utf8.DecodeError)
  deriving DecidableEq

/-- Files and folders by their locations, without symbolic links and without permissions. Names can
have any length. -/
structure FileTree where
  entries : List (Location × FileItem)

namespace FileTree

/-- What is at a location. At the top there is always a folder. -/
def get? (t : FileTree) (l : Location) : Option FileItem :=
  if l = [] then some .folder else t.entries.lookup l

/-- Is there a file at the location? -/
def isFile (t : FileTree) (l : Location) : Bool :=
  match t.get? l with
  | some (.file _) => true
  | _ => false

/-- The tree without what was at a location. -/
def erase (t : FileTree) (l : Location) : FileTree :=
  ⟨t.entries.filter fun e => e.1 ≠ l⟩

/-- The tree without a folder and all that is in it. -/
def eraseFolder (t : FileTree) (l : Location) : FileTree :=
  ⟨t.entries.filter fun e => !l.isPrefixOf e.1⟩

/-- The tree with something at a location, in place of what was there. -/
def put (t : FileTree) (l : Location) (item : FileItem) : FileTree :=
  ⟨(l, item) :: (t.erase l).entries⟩

/-- What follows the folder `here`, made where it is missing. A file on the way stands in the way of
what should be in it; a file where the last folder should be, or after a folder that was made,
occupies a name. -/
def makeFoldersFrom (t : FileTree) (here : Location) (made : Bool) :
    List Text → Option FileError × FileTree
  | [] => (none, t)
  | part :: parts =>
    let l := Path.step here part
    match t.get? l with
    | some .folder => makeFoldersFrom t l made parts
    | some (.file _) => (some (if made || parts.isEmpty then .occupied else .notFolder), t)
    | none => makeFoldersFrom (t.put l .folder) l true parts

/-- The folder that a path leads to from a location, made where it is missing, with the folders on
the way. -/
def makeFolders (t : FileTree) (here : Location) (p : Path) : Option FileError × FileTree :=
  t.makeFoldersFrom (p.start here) false p.parts

/-- The location that parts of a path lead to, when all but the last have to be folders. -/
def followFrom (t : FileTree) (here : Location) : List Text → Except FileError Location
  | [] => .ok here
  | part :: parts =>
    match t.get? here with
    | some .folder => followFrom t (Path.step here part) parts
    | some (.file _) => .error .notFolder
    | none => .error .notFound

/-- The location that a path leads to when it is followed folder by folder. -/
def follow (t : FileTree) (here : Location) (p : Path) : Except FileError Location :=
  t.followFrom (p.start here) p.parts

/-- The tree after a text was written to a file. The file is emptied first, and stays so if the text
has no bytes. -/
def writeTextAt (t : FileTree) (l : Location) (text : Text) : Option FileError × FileTree :=
  match t.get? l with
  | some .folder => (some .isFolder, t)
  | _ =>
    match Utf8.encode? text with
    | some content => (none, t.put l (.file content))
    | none => (some .unencodable, t.put l (.file []))

/-- The tree after a text was written to the file that a path leads to. -/
def writeText (t : FileTree) (here : Location) (p : Path) (text : Text) :
    Option FileError × FileTree :=
  match t.follow here p with
  | .error e => (some e, t)
  | .ok l => t.writeTextAt l text

/-- The text of bytes, with its line ends made alike. -/
def textOf (content : Bytes) : Except FileError Text :=
  match Utf8.decode content with
  | .ok text => .ok text.normalizeLineEnds
  | .error e => .error (.undecodable e)

/-- The text in the file at a location. -/
def readText (t : FileTree) (l : Location) : Except FileError Text :=
  match t.get? l with
  | none => .error .notFound
  | some .folder => .error .isFolder
  | some (.file content) => textOf content

/-- A name ending in `suffix` that no entry has: it is longer than all of them. -/
def fresh (t : FileTree) (suffix : Text) : Text :=
  let longest := t.entries.foldr (fun e n => max (e.1.getLast?.getD []).length n) 0
  List.replicate (longest + 1) (CodePoint.scalar 'x') ++ suffix

end FileTree

end JqFlow
