import LozengeNav.Editor.Change
import LozengeNav.Files.Tree
import LozengeNav.Uri

/-!
# What an editor has told

The root directory and the encoding that were agreed on, and the documents that are open in the
editor.  A document that is not open is what its file holds.
-/

namespace LozengeNav

namespace Editor

open Text

/-- The encoding that columns are counted in, if the editor knows some encodings: UTF-16 if it is
among them, then UTF-32, then UTF-8, and UTF-16 again if it is none of them. -/
def agree (offered : Option (List String)) : Encoding :=
  match offered with
  | none => .utf16
  | some names =>
    if names.contains Encoding.utf16.name then .utf16
    else if names.contains Encoding.utf32.name then .utf32
    else if names.contains Encoding.utf8.name then .utf8
    else .utf16

/-- What an editor has told. -/
structure View where
  /-- The path of the root directory, empty if there is none. -/
  root : String
  encoding : Encoding
  documents : List (String × List Char)
  deriving Repr

namespace View

/-- The path of the root directory that an editor names by a URI or else by a path. -/
def rootOf (uri path : Option String) : Except Fault String :=
  match uri, path with
  | some uri, _ => (Uri.anyPath uri.toList).map String.ofList
  | none, some path => do
    return String.ofList (← Uri.anyPath (← Uri.ofPath path.toList))
  | none, none => .ok ""

/-- What is known when an editor has introduced itself. -/
def introduce (rootUri rootPath : Option String) (offered : Option (List String)) :
    Except Fault View := do
  return ⟨← rootOf rootUri rootPath, agree offered, []⟩

def open? (v : View) (uri : String) : Option (List Char) :=
  v.documents.lookup uri

/-- A document is opened.  Its URI has to be one. -/
def opened (v : View) (uri : String) (text : List Char) : Except Fault View := do
  let _ ← Uri.anyPath uri.toList
  return { v with documents := (uri, text) :: v.documents.filter fun d => d.1 != uri }

def closed (v : View) (uri : String) : View :=
  { v with documents := v.documents.filter fun d => d.1 != uri }

def changed (v : View) (uri : String) (changes : List Change) : View :=
  { v with documents := v.documents.map fun d =>
      if d.1 == uri then (d.1, changes.foldl (fun text c => c.apply v.encoding text) d.2) else d }

/-- The text of the file at a path that is written out.  One that ends like a directory is none. -/
def fileText (t : FileTree) (path : List Char) : Except Fault (List Char) :=
  if path.isEmpty then .error .missingFile
  else if ['/'].isSuffixOf path || ['/', '.'].isSuffixOf path then .error .notDirectory
  else t.readText (Path.ofString (String.ofList path))

def document (v : View) (t : FileTree) (uri : String) : Except Fault (Path × List Char) := do
  let path ← Uri.anyPath uri.toList
  let text ← match v.open? uri with
    | some text => pure text
    | none => fileText t path
  return (Path.ofString (String.ofList path), text)

end View

end Editor

end LozengeNav
