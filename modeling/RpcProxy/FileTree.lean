import RpcProxy.Bytes

/-!
# Files and folders

A tree of folders with files in it, and a folder that paths start from. A path is followed name by
name: each name but the last must lead to a folder. Reading, appending and removing fail for the
reasons that a file system has, and they fail at the first name that cannot be followed.
-/

set_option autoImplicit false

namespace RpcProxy

/-- What a name in a folder stands for. -/
inductive FileEntry where
  | file (content : Bytes)
  /-- A folder with what it holds, by name. -/
  | folder (entries : List (String × FileEntry))
deriving Inhabited

/-- Why a path cannot be used. -/
inductive FileFault where
  /-- It holds the character that ends a name. -/
  | zeroInName
  | tooLong
  /-- A name in it stands for nothing. -/
  | missing
  /-- It goes on behind a file. -/
  | notFolder
  /-- It leads to a folder where a file is wanted. -/
  | isFolder
deriving DecidableEq, Repr

def FileFault.message : FileFault → String
  | zeroInName => "file name contained an unexpected NUL byte"
  | missing => "No such file or directory (os error 2)"
  | notFolder => "Not a directory (os error 20)"
  | isFolder => "Is a directory (os error 21)"
  | tooLong => "File name too long (os error 36)"

/-- The names on the way from the root. -/
abbrev Place := List String

structure FileTree where
  root : FileEntry
  /-- The folder that paths start from. -/
  working : Place := []

namespace FileEntry

/-- What a name in a folder stands for. -/
def get? (e : FileEntry) (name : String) : Option FileEntry :=
  match e with
  | file _ => none
  | folder entries => entries.lookup name

/-- What a place below an entry holds. -/
def at? (e : FileEntry) : Place → Option FileEntry
  | [] => some e
  | name :: rest => (e.get? name).bind (·.at? rest)

def isFolder : FileEntry → Bool
  | file _ => false
  | folder _ => true

/-- An entry with another one, or none, at a place below it. Nothing changes if a folder on the way
is missing. -/
def update (e : FileEntry) : Place → Option FileEntry → FileEntry
  | [], new => new.getD e
  | [name], new =>
    match e with
    | file _ => e
    | folder entries =>
      folder (entries.filter (·.1 != name) ++ new.toList.map (name, ·))
  | name :: rest, new =>
    match e with
    | file _ => e
    | folder entries => folder (entries.map fun (k, v) => if k = name then (k, v.update rest new) else (k, v))

end FileEntry

/-- The longest path, in octets. -/
def maxPath : Nat := 4095

/-- The longest name, in octets. -/
def maxName : Nat := 255

def pathNames (path : String) : List String :=
  ((path.toList.splitOn '/').map String.ofList).filter (!·.isEmpty)

/-- The parts of a path: the root, if it starts there, and names. A dot counts only in front. -/
def pathParts (path : String) : List String :=
  let names := pathNames path
  if path.startsWith "/" then "/" :: names.filter (· != ".")
  else names.take 1 ++ (names.drop 1).filter (· != ".")

def pathOf (p : Place) : String := "/" ++ "/".intercalate p

/-- The name that a path ends with. A path that ends with the root or with dots has none. -/
def fileName? (path : String) : Option String :=
  (pathParts path).getLast?.filter fun name => !(["/", ".", ".."].contains name)

namespace FileTree

/-- The folder that a path starts from, if the path can be followed at all. -/
def start (t : FileTree) (path : String) : Except FileFault Place :=
  if path.toList.any (·.toNat == 0) then .error .zeroInName
  else if path.isEmpty then .error .missing
  else if maxPath < path.utf8ByteSize then .error .tooLong
  else .ok (if path.startsWith "/" then [] else t.working)

def at? (t : FileTree) (p : Place) : Option FileEntry := t.root.at? p

def isFolder (t : FileTree) (p : Place) : Bool := ((t.at? p).map FileEntry.isFolder).getD false

/-- Follows one name. A dot stands for the folder itself, two dots for the one above; there is
nothing above the root. -/
def follow (t : FileTree) (here : Place) (name : String) : Except FileFault Place :=
  if !t.isFolder here then .error .notFolder
  else if name == "." then .ok here
  else if name == ".." then .ok here.dropLast
  else if maxName < name.utf8ByteSize then .error .tooLong
  else if ((t.at? here).bind (·.get? name)).isSome then .ok (here ++ [name])
  else .error .missing

/-- The octets of a file. A slash at the end of the path asks for a folder. -/
def read (t : FileTree) (path : String) : Except FileFault Bytes := do
  let names := pathNames path ++ (if path.endsWith "/" then ["."] else [])
  let place ← names.foldlM t.follow (← t.start path)
  match t.at? place with
  | some (.file content) => .ok content
  | some (.folder _) => .error .isFolder
  | none => .error .missing

/-- The place of the file that a path names, which need not be there; its folder must be. -/
def target (t : FileTree) (path : String) : Except FileFault Place := do
  let names := pathNames path
  let here ← names.dropLast.foldlM t.follow (← t.start path)
  if !t.isFolder here then .error .notFolder
  else
    match names.getLast? with
    | none | some "." | some ".." => .error .isFolder
    | some name =>
      if path.endsWith "/" then .error .isFolder
      else if maxName < name.utf8ByteSize then .error .tooLong
      else if t.isFolder (here ++ [name]) then .error .isFolder
      else .ok (here ++ [name])

/-- Writes a file, which is made if it is not there; answers its place. -/
def write (t : FileTree) (path : String) (content : Bytes) : Except FileFault (Place × FileTree) := do
  let place ← t.target path
  return (place, { t with root := t.root.update place (some (.file content)) })

def remove (t : FileTree) (path : String) : Except FileFault (Place × FileTree) := do
  let place ← t.target path
  if (t.at? place).isNone then .error .missing
  else return (place, { t with root := t.root.update place none })

/-- What is said about a file that is to be appended to, if it cannot be. -/
def appendFault? (t : FileTree) (path : String) : Option String :=
  match t.target path with
  | .error fault => some fault.message
  | .ok _ => none

/-- The octets of a file, or what is said if it cannot be read. -/
def load (t : FileTree) (path : String) : Except String Bytes :=
  (t.read path).mapError FileFault.message

end FileTree

end RpcProxy
