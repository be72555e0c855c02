import HangulConsole.Files.Disk
import HangulConsole.Files.Path

/-!
# A file system in memory

Files and directories by the names on the way to them from the root.  Paths are
resolved as the system resolves them: name by name, through directories only.
-/

namespace HangulConsole
namespace Files

inductive Entry where
  /-- A regular file with its bytes. -/
  | file (bytes : List UInt8)
  | directory
deriving Repr, DecidableEq, Inhabited

abbrev Place := List (List Char)

/-- A file system: the entries other than the root, and the working directory. -/
structure Tree where
  /-- The entries below the root, each at its place. -/
  entries : List (Place × Entry)
  /-- The place at which relative paths start. -/
  workplace : Place
deriving Repr, DecidableEq

namespace Tree

def entryAt? (tree : Tree) (place : Place) : Option Entry :=
  if place.isEmpty then some .directory
  else (tree.entries.find? fun row => row.1 == place).map Prod.snd

def put (tree : Tree) (place : Place) (entry : Entry) : Tree :=
  if tree.entries.any fun row => row.1 == place then
    { tree with
      entries := tree.entries.map fun row => if row.1 == place then (place, entry) else row }
  else
    { tree with entries := tree.entries ++ [(place, entry)] }

def makeParents (tree : Tree) (place : Place) : Tree :=
  (List.range place.length).foldl
    (fun tree length =>
      let parent := place.take length
      if (tree.entryAt? parent).isSome then tree else tree.put parent .directory)
    tree

def install (tree : Tree) (path : String) (entry : Entry) : Tree :=
  let place := tree.workplace ++ pathParts path.toList
  (tree.makeParents place).put place entry

def scratch : Tree :=
  { entries := [([['w', 'o', 'r', 'k']], .directory)], workplace := [['w', 'o', 'r', 'k']] }

/-! # Resolving paths -/

def longestName : Nat := 255

def longestPath : Nat := 4095

inductive Target where
  | found (place : Place) (entry : Entry)
  /-- To a name that is missing in a directory that exists. -/
  | missing (place : Place)
deriving Repr, DecidableEq

def walk (tree : Tree) (place : Place) : List (List Char) -> Except Fault Target
  | [] =>
      match tree.entryAt? place with
      | some entry => .ok (.found place entry)
      | none => .error .notFound
  | name :: rest =>
      match tree.entryAt? place with
      | none => .error .notFound
      | some (.file _) => .error .notDirectory
      | some .directory =>
          if name = ['.', '.'] then
            walk tree place.dropLast rest
          else if longestName < Text.byteCount name then
            .error .nameTooLong
          else
            let next := place ++ [name]
            match tree.entryAt? next, rest with
            | none, [] => .ok (.missing next)
            | none, _ :: _ => .error .notFound
            | some _, _ => walk tree next rest

def asksDirectory (path : List Char) : Bool :=
  match (Text.splitAt '/' path).getLast? with
  | none => false
  | some part => part.isEmpty || part == ['.'] || part == ['.', '.']

def endsWithSlash (path : List Char) : Bool :=
  path.getLast? == some '/' &&
    (((Text.splitAt '/' path).filter fun part => !part.isEmpty).getLast?.any fun part =>
      part != ['.'])

def resolve (tree : Tree) (path : List Char) : Except Fault Target :=
  if path.contains '\x00' then .error .nulInName
  else if path.isEmpty then .error .notFound
  else if longestPath < Text.byteCount path then .error .nameTooLong
  else tree.walk (if path.head? == some '/' then [] else tree.workplace) (pathParts path)

def read (tree : Tree) (path : String) : Except Fault (List UInt8) :=
  match tree.resolve path.toList with
  | .error fault => .error fault
  | .ok (.missing _) => .error .notFound
  | .ok (.found _ .directory) => .error .isDirectory
  | .ok (.found _ (.file bytes)) =>
      if asksDirectory path.toList then .error .notDirectory else .ok bytes

def write (tree : Tree) (path : String) (bytes : List UInt8) : Except Fault Tree :=
  match tree.resolve path.toList with
  | .error fault => .error fault
  | .ok (.found _ .directory) => .error .isDirectory
  | .ok (.found place (.file _)) =>
      if endsWithSlash path.toList then .error .isDirectory
      else if asksDirectory path.toList then .error .notDirectory
      else .ok (tree.put place (.file bytes))
  | .ok (.missing place) =>
      if endsWithSlash path.toList then .error .isDirectory
      else if asksDirectory path.toList then .error .notFound
      else .ok (tree.put place (.file bytes))

def disk : Disk (StateM Tree) where
  read path := do return (← get).read path
  write path bytes := do
    match (← get).write path bytes with
    | .error fault => return .error fault
    | .ok tree =>
        set tree
        return .ok ()

def files (tree : Tree) : List (String × List UInt8) :=
  tree.entries.filterMap fun (place, entry) =>
    match entry with
    | .directory => none
    | .file bytes =>
        if tree.workplace.isPrefixOf place then
          some (String.ofList (Text.joinWith '/' (place.drop tree.workplace.length)), bytes)
        else
          none

end Tree
end Files
end HangulConsole
