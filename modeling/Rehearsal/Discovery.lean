/-
  Rehearsal.Discovery
  ──────────────────────────────────────
  **Finding and loading manifests.**

  A root is a file, which is taken whatever its name is, or a directory, below
  which all files with one of three extensions are taken.  They come in the
  order of their paths, component by component, so the order in which a
  directory lists its entries does not show.
-/
import Rehearsal.Files
import Rehearsal.Manifest

namespace Rehearsal.Discovery

/-! ## §1. Extensions. -/

/-- The part of a file name behind its last dot; a dot in front of the name does
not count. -/
def extension? (name : Text) : Option Text :=
  let rest := name.reverse
  let behind := rest.takeWhile (· ≠ '.')
  match rest.drop behind.length with
  -- Something has to stand in front of the dot.
  | '.' :: _ :: _ => some behind.reverse
  | _ => none

/-- The extensions of manifests. -/
def extensions : List Text := ["yaml", "yml", "json"]

/-- A file of this name is a manifest. -/
def isManifest (name : Text) : Bool := (extension? name).any extensions.contains

/-! ## §2. The order of paths. -/

/-- Texts in the order of their characters. -/
def textLE : Text → Text → Bool
  | [], _ => true
  | _ :: _, [] => false
  | a :: s, b :: t => if a = b then textLE s t else decide (a.toNat ≤ b.toNat)

/-- Paths in the order of their first different component. -/
def pathLE : List Text → List Text → Bool
  | [], _ => true
  | _ :: _, [] => false
  | a :: s, b :: t => if a = b then pathLE s t else textLE a b

/-! ## §3. Discovery. -/

/-- What paths lead to. -/
abbrev Lookup := Text → Option FileTree

/-- The manifests below a directory, in order, each as the components of its
path. -/
def manifestsBelow (entries : FileTree.Entries) : List (List Text) :=
  ((FileTree.filesBelow entries).filter fun path => isManifest (path.getLastD [])).mergeSort
    pathLE

/-- The path of components below a root. -/
def pathOf (root : Text) : List Text → Text
  | [] => root
  | name :: rest => pathOf (FileTree.join root name) rest

/-- The manifests of a root: its own path, or the paths below it. -/
def discover (files : Lookup) (root : Text) : Except ManifestFault (List Text) :=
  match files root with
  | some (.file _) => .ok [root]
  | some (.directory entries) => .ok ((manifestsBelow entries).map (pathOf root))
  | _ => .error (.walk root)

/-! ## §4. Loading. -/

/-- The contents of the file at a path. -/
def contents? (files : Lookup) (path : Text) : Option Bytes :=
  match files path with
  | some (.file contents) => some contents
  | _ => none

/-- The suites of a list of manifests; the first fault ends loading. -/
def loadPaths (files : Lookup) : List Text → Except ManifestFault (List Suite)
  | [] => .ok []
  | path :: rest => do
      let suites ← Manifest.load path (contents? files path)
      return suites ++ (← loadPaths files rest)

/-- The suites of all roots, in order. -/
def loadAll (files : Lookup) : List Text → Except ManifestFault (List Suite)
  | [] => .ok []
  | root :: rest => do
      let suites ← loadPaths files (← discover files root)
      return suites ++ (← loadAll files rest)

end Rehearsal.Discovery
