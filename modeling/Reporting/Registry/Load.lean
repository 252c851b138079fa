import Reporting.Error
import Reporting.Json.Reader
import Reporting.Wire.Registry

/-!
# Loading a registry

The files of a registry lie in two folders below a root: one report each in `reports`, lists of
lookup tables in `references`. Files are read in the order of their names, and the first one that
cannot be read ends the loading.
-/

namespace Reporting

/-- A file or folder below a root; a path is the list of names on the way to it. -/
structure Entry where
  path : List String
  /-- The content of a file; folders have none. -/
  text : Option String

/-- What lies below a root. Folders on the way to an entry exist without one of their own. -/
abbrev FileTree := List Entry

namespace FileTree

def has (t : FileTree) (path : List String) : Bool := t.any fun e => path.isPrefixOf e.path

/-- The names directly below a folder, in ascending order. -/
def names (t : FileTree) (folder : List String) : List String :=
  let inside := t.filterMap fun e =>
    if folder.isPrefixOf e.path then (e.path.drop folder.length).head? else none
  (inside.mergeSort fun a b => a ≤ b).eraseDups

def text? (t : FileTree) (path : List String) : Except ReportError String :=
  ((t.find? (·.path = path)).bind Entry.text).elim (.error .io) .ok

end FileTree

namespace Registry

/-- The endings of the files that are read. -/
def endings : List String := [".yml", ".yaml"]

def isDocument (name : String) : Bool := endings.any fun e => name.endsWith e

/-- A character that may stand in a document as it is. -/
def isShown (c : Char) : Bool :=
  c < '\x7f' || c = '\u0085' || ('\u00a0' ≤ c && c ≠ '\ufffe' && c ≠ '\uffff')

/-- Every character is shown, and no escape is half of a surrogate pair. -/
def isReadable : List Char → Bool
  | '\\' :: 'u' :: a :: b :: cs =>
    !((a = 'd' || a = 'D') && !('0' ≤ b && b ≤ '7')) && isReadable cs
  | '\\' :: _ :: cs => isReadable cs
  | c :: cs => isShown c && isReadable cs
  | [] => true

/-- The value of a document, whose text is a value in the notation for objects and arrays. -/
def readDocument {α : Type} (read : Json → Option α) (text : String) : Except ReportError α :=
  if isReadable text.toList then ((Json.ofText? text).bind read).elim (.error .yaml) .ok
  else .error .yaml

section Unquoted

/-- What stands in the place of a text without quotes is the text that it is written as. -/
def unquoted : Json → Json
  | .null => .string "null"
  | .bool b => .string (if b then "true" else "false")
  | .number n => .string n.toText
  | j => j

/-- In the place of a text that may be missing, null is the missing text. -/
def unquotedOption (j : Json) : Json := if j.isNull then j else unquoted j

def mapMembers (f : String → Json → Json) : Json → Json
  | .object members => .object (members.map fun (name, j) => (name, f name j))
  | j => j

def mapElements (f : Json → Json) : Json → Json
  | .array elements => .array (elements.map f)
  | j => j

def quotedItem : Json → Json :=
  mapMembers fun name j =>
    match name with
    | "name" => unquoted j
    | "reference" => if j matches .string _ then j else .null
    | "print_name" | "column_name" | "column_sql" | "format_pattern" | "mapping" =>
      unquotedOption j
    | _ => j

def quotedReport : Json → Json :=
  mapMembers fun name j =>
    match name with
    | "name" | "table_name" | "data_source" => unquoted j
    | "description" => unquotedOption j
    | "group_by" => mapElements unquoted j
    | "items" => mapElements quotedItem j
    | _ => j

end Unquoted

def readReport (text : String) : Except ReportError Definition :=
  readDocument (Definition.ofJson? ∘ quotedReport) text

/-- The lookup tables of a document; an empty document has none. -/
def readLookups (text : String) : Except ReportError (List NamedLookup) :=
  if (Json.skipBlanks text.toList).isEmpty then .ok []
  else readDocument (Wire.list? NamedLookup.ofJson?) text

/-- Reads documents one after another and adds what is in them. -/
def addDocuments {α : Type} (t : FileTree) (folder : String)
    (read : String → Except ReportError α) (add : Registry → α → Registry) (r : Registry) :
    Except ReportError Registry :=
  ((t.names [folder]).filter isDocument).foldlM
    (fun r name => do return add r (← read (← t.text? [folder, name]))) r

/-- The registry below a root of the given name. -/
def load (root : String) (t : FileTree) : Except ReportError Registry := do
  if !t.has ["reports"] then
    .error (.validation s!"reports directory not found: {root}/reports")
  let r ← addDocuments t "reports" readReport insertReport {}
  addDocuments t "references" readLookups (fun r ls => ls.foldl insertLookup r) r

end Registry

end Reporting
