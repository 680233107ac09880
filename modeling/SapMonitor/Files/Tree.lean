import SapMonitor.Text.Strip

/-!
# Trees of files

A tree holds files by their paths from its root; every proper beginning of such
a path is a directory.  A path given by a user is walked part by part.
-/

namespace SapMonitor.Files

/-! ## Trees -/

/-- What a path of a tree leads to. -/
inductive Node where
  | file (bytes : List UInt8)
  | directory

/-- The files and the directories that were made, by their paths. -/
structure Tree where
  nodes : List (List String × Node)

/-- The parts of a path. -/
def partsOf (path : String) : List String :=
  (Text.splitOnChar '/' path.toList).map String.ofList

/-- A tree of paths. -/
def Tree.ofPaths (paths : List (String × Node)) : Tree :=
  ⟨paths.map fun p => ((partsOf p.1).filter fun s => !s.isEmpty, p.2)⟩

/-- What is found at a place of the tree. -/
def Tree.find? (t : Tree) (place : List String) : Option Node :=
  match t.nodes.lookup place with
  | some n => some n
  | none =>
    if place.isEmpty || t.nodes.any fun n => place.isPrefixOf n.1 then some .directory else none

/-! ## Walks -/

/-- Why a path does not lead to the text of a file. -/
inductive FileError where
  | missing
  | notDirectory
  | directory
  | notText
  | nameTooLong
  deriving DecidableEq

/-- The wording of a fault. -/
def FileError.message : FileError → String
  | missing => "No such file or directory (os error 2)"
  | notDirectory => "Not a directory (os error 20)"
  | directory => "Is a directory (os error 21)"
  | notText => "stream did not contain valid UTF-8"
  | nameTooLong => "File name too long (os error 36)"

/-- The bytes that a part of a path may have. -/
def longestPart : Nat := 255

/-- The bytes that a path may have. -/
def longestPath : Nat := 4095

/-- Where a walk is: at a place inside the tree, or above its root. -/
inductive Place where
  | inside (path : List String)
  | above

/-- Whether a walk stands in a directory. -/
def Tree.isDirectory (t : Tree) : Place → Bool
  | .above => true
  | .inside path =>
    match t.find? path with
    | some .directory => true
    | _ => false

/-- One part of a walk. -/
def Tree.step (t : Tree) (place : Place) (part : String) : Except FileError Place :=
  if !t.isDirectory place then .error .notDirectory
  else if part.isEmpty || part = "." then .ok place
  else if longestPart < part.utf8ByteSize then .error .nameTooLong
  else
    match place with
    | .above => if part = ".." then .ok .above else .error .missing
    | .inside path =>
      if part = ".." then .ok (if path.isEmpty then .above else .inside path.dropLast)
      else if (t.find? (path ++ [part])).isSome then .ok (.inside (path ++ [part]))
      else .error .missing

/-- A walk along parts. -/
def Tree.walk (t : Tree) (place : Place) : List String → Except FileError Place
  | [] => .ok place
  | part :: rest =>
    match t.step place part with
    | .error e => .error e
    | .ok next => t.walk next rest

/-- Where a path begins: at the root of the tree, or above it if it begins with
a slash. -/
def Tree.resolve (t : Tree) (path : String) : Except FileError Place :=
  if path.isEmpty then .error .missing
  else if longestPath < path.utf8ByteSize then .error .nameTooLong
  else if "/".toList.isPrefixOf path.toList then t.walk .above (partsOf path)
  else t.walk (.inside []) (partsOf path)

namespace Tree

/-- Whether a path leads to a file. -/
def isFile (t : Tree) (path : String) : Bool :=
  match t.resolve path with
  | .ok place => !t.isDirectory place
  | .error _ => false

/-- The text of the file that a path leads to. -/
def read (t : Tree) (path : String) : Except FileError String :=
  match t.resolve path with
  | .error e => .error e
  | .ok .above => .error .directory
  | .ok (.inside place) =>
    match t.find? place with
    | some (.file bytes) =>
      match String.fromUTF8? ⟨bytes.toArray⟩ with
      | some text => .ok text
      | none => .error .notText
    | some .directory => .error .directory
    | none => .error .missing

end Tree

end SapMonitor.Files
