/-
  Rehearsal.Files
  ──────────────────────────────────────
  **A tree of files.**

  A directory lists its entries by name, in any order.  A path is resolved from
  left to right, starting in the working directory: links are followed, a
  trailing slash asks for a directory, and `..` leads to the directory that
  really holds the one at hand, which need not be the one written before it.
-/
import Rehearsal.Text.Utf8
import Rehearsal.Text.Lines

namespace Rehearsal

/-- What a name in a directory stands for. -/
inductive FileTree where
  | file (contents : Bytes)
  | link (target : Text)
  | directory (entries : List (Text × FileTree))
  deriving Repr

namespace FileTree

/-- The entries of a directory. -/
abbrev Entries := List (Text × FileTree)

/-! ## §1. Paths. -/

/-- The parts of a path between its slashes. -/
def components : Text → List Text
  | [] => [[]]
  | c :: t =>
      if c = '/' then [] :: components t
      else match components t with
        | [] => [[c]]
        | p :: ps => (c :: p) :: ps

/-- The path of an entry of a directory, or of one further below. -/
def join (directory entry : Text) : Text :=
  if directory.getLast? = some '/' then directory ++ entry else directory ++ '/' :: entry

/-- How many links are followed on one path. -/
def maxLinks : Nat := 40

/-- What the components of a path lead to; the innermost directory comes first,
then the ones around it. -/
def walk (links : Nat) (inside : List Entries) : List Text → Option FileTree
  | [] => (inside.head?).map .directory
  | name :: rest =>
      if name = [] ∨ name = ['.'] then walk links inside rest
      else if name = ['.', '.'] then
        match inside with
        -- The working directory has no directory around it.
        | _ :: parent :: outer => walk links (parent :: outer) rest
        | _ => none
      else
        match (inside.head?.getD []).lookup name with
        | none => none
        | some (.file contents) => if rest = [] then some (.file contents) else none
        | some (.directory entries) => walk links (entries :: inside) rest
        | some (.link target) =>
            match links with
            | 0 => none
            | links + 1 =>
                -- The rest of the path goes on from where the link leads.
                if target.head? = some '/' ∨ target = [] then none
                else walk links inside (components target ++ rest)
termination_by path => (links, path.length)

/-- What a path leads to from a working directory; links are followed.  There is
nothing outside of the tree. -/
def find? (root : Entries) (path : Text) : Option FileTree :=
  if path = [] ∨ path.head? = some '/' ∨ path.contains '\x00' then none
  else walk maxLinks [root] (components path)

/-! ## §2. All files below a directory. -/

mutual

/-- The regular files in a tree, each as the components of its path; links are
not followed. -/
def files : FileTree → List (List Text)
  | .file _ => [[]]
  | .link _ => []
  | .directory entries => filesBelow entries

/-- The regular files below a directory. -/
def filesBelow : List (Text × FileTree) → List (List Text)
  | [] => []
  | (name, tree) :: rest => (files tree).map (name :: ·) ++ filesBelow rest

end

/-! ## §3. Making trees. -/

/-- Gives the first entry of a name a new value, or adds one at the end. -/
def setEntry (name : Text) (tree : FileTree) : Entries → Entries
  | [] => [(name, tree)]
  | (key, old) :: rest =>
      if key = name then (key, tree) :: rest else (key, old) :: setEntry name tree rest

/-- Puts a tree at a path; directories on the way are made as they are needed.
A directory that is there already is kept where a directory is put. -/
def put (tree : FileTree) : List Text → Entries → Entries
  | [], entries => entries
  | name :: rest, entries =>
      if name = [] ∨ name = ['.'] then put tree rest entries
      else
        let below : Entries :=
          match entries.lookup name with
          | some (.directory below) => below
          | _ => []
        if rest = [] then
          match tree with
          | .directory _ => setEntry name (.directory below) entries
          | tree => setEntry name tree entries
        else setEntry name (.directory (put tree rest below)) entries

/-- The tree that holds the given files, put there in order. -/
def ofList (files : List (Text × FileTree)) : Entries :=
  files.foldl (fun entries (path, tree) => put tree (components path) entries) []

end FileTree

end Rehearsal
