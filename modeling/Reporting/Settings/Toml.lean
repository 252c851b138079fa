import Reporting.Binary.Text
import Reporting.Json.Reader

/-!
# Settings files

The text of a settings file is a sequence of lines: table headers, entries of one key and one value,
and comments. The lines are read one by one and then put together into a document; a key or a
header that comes twice is refused.

This is the part of TOML that the settings are written in: tables with dotted and quoted names,
texts in single or double quotes on one line, decimal integers, floats and Booleans. Inline tables,
arrays, tables in arrays, texts of several lines, dates and times, and integers in other bases are
not read; a file with one of them is refused like a malformed one.
-/

namespace Reporting.Toml

open Reporting.Text (isDigit natOf? digitsValue)

/-- The names on the way from the outermost table inwards. -/
abbrev Path := List String

inductive Line
  | blank
  | header (path : Path)
  | entry (path : Path) (value : Json)

section Scanning

/-- A reader takes what it understands off the front of the text. -/
abbrev Reader (α : Type) := List Char → Option (α × List Char)

def isBlank (c : Char) : Bool := c = ' ' || c = '\t'

def skipBlanks (cs : List Char) : List Char := cs.dropWhile isBlank

def isBareKey (c : Char) : Bool := c.isAlphanum || c = '_' || c = '-'

/-- A character that may stand in text and comments as it is. -/
def isPlain (c : Char) : Bool := c = '\t' || (' ' ≤ c && c ≠ '\x7f')

def escaped? : Char → Option Char
  | 'b' => some '\x08'
  | 't' => some '\t'
  | 'n' => some '\n'
  | 'f' => some '\x0c'
  | 'r' => some '\r'
  | '"' => some '"'
  | '\\' => some '\\'
  | _ => none

/-- The character with a number in hexadecimal digits. -/
def hexChar? (cs : List Char) : Option Char := do
  let values ← cs.mapM Json.hexValue?
  let n := values.foldl (fun n d => n * 16 + d) 0
  if n.isValidChar then some (Char.ofNat n) else none

/-- The rest of a text in double quotes, with escapes. -/
def basicBody : Reader (List Char)
  | '"' :: cs => some ([], cs)
  | '\\' :: 'u' :: a :: b :: c :: d :: cs => do
    let x ← hexChar? [a, b, c, d]
    let (s, cs) ← basicBody cs
    return (x :: s, cs)
  | '\\' :: 'U' :: a :: b :: c :: d :: e :: f :: g :: h :: cs => do
    let x ← hexChar? [a, b, c, d, e, f, g, h]
    let (s, cs) ← basicBody cs
    return (x :: s, cs)
  | '\\' :: c :: cs => do
    let x ← escaped? c
    let (s, cs) ← basicBody cs
    return (x :: s, cs)
  | c :: cs =>
    if isPlain c then do
      let (s, cs) ← basicBody cs
      return (c :: s, cs)
    else none
  | [] => none

/-- The rest of a text in single quotes, without escapes. -/
def literalBody : Reader (List Char)
  | '\'' :: cs => some ([], cs)
  | c :: cs =>
    if isPlain c then do
      let (s, cs) ← literalBody cs
      return (c :: s, cs)
    else none
  | [] => none

def text? : Reader String
  | '"' :: cs => (basicBody cs).map fun (s, cs) => (String.ofList s, cs)
  | '\'' :: cs => (literalBody cs).map fun (s, cs) => (String.ofList s, cs)
  | _ => none

/-- One name of a path, bare or quoted. -/
def name? : Reader String := fun cs =>
  match text? cs with
  | some r => some r
  | none =>
    let bare := cs.takeWhile isBareKey
    if bare.isEmpty then none else some (String.ofList bare, cs.dropWhile isBareKey)

/-- Names with points between them. Every name takes a character, so the length of the text is fuel
enough. -/
def path? (fuel : Nat) : Reader Path := fun cs =>
  match fuel with
  | 0 => none
  | fuel + 1 => do
    let (name, cs) ← name? (skipBlanks cs)
    match skipBlanks cs with
    | '.' :: cs => do
      let (names, cs) ← path? fuel cs
      return (name :: names, cs)
    | cs => return ([name], cs)

/-- Digits with single underscores between them, which are left out. -/
def groupedDigits? : List Char → Option (List Char)
  | [] => none
  | [c] => if isDigit c then some [c] else none
  | c :: '_' :: cs => do
    if !isDigit c then none
    return c :: (← groupedDigits? cs)
  | c :: cs => do
    if !isDigit c then none
    return c :: (← groupedDigits? cs)

/-- A number of digits without needless zeros in front. -/
def wholeDigits? (cs : List Char) : Option (List Char) := do
  let ds ← groupedDigits? cs
  if 1 < ds.length && ds.head? = some '0' then none else some ds

/-- The sign of a number and what follows it. -/
def splitSign : List Char → List Char × List Char
  | '-' :: cs => (['-'], cs)
  | '+' :: cs => ([], cs)
  | cs => ([], cs)

def integer? (cs : List Char) : Option Json := do
  let (sign, cs) := splitSign cs
  let i ← Text.intOf? (sign ++ (← wholeDigits? cs))
  if Text.inInt64 i then some (.ofInt i) else none

/-- A number with a fraction, a power of ten or both. A number that is not finite reads as zero:
no setting is a fraction, so each is refused wherever one stands. -/
def float? (cs : List Char) : Option Json := do
  let (sign, cs) := splitSign cs
  let isMark (c : Char) : Bool := c = 'e' || c = 'E'
  let special := cs = ['i', 'n', 'f'] || cs = ['n', 'a', 'n']
  let zero : Binary64 := .ofNat .double 0
  if special then some (.ofBinary64 zero)
  else
    let number := cs.takeWhile (!isMark ·)
    let whole ← wholeDigits? (number.takeWhile (· != '.'))
    let fraction ← match number.dropWhile (· != '.') with
      | [] => some []
      | _ :: ds => (groupedDigits? ds).map ('.' :: ·)
    let power ← match cs.dropWhile (!isMark ·) with
      | [] => some []
      | _ :: ds =>
        let (sign, ds) := splitSign ds
        (groupedDigits? ds).map fun ds => 'e' :: sign ++ ds
    let x ← Binary.ofText? .double (String.ofList (sign ++ whole ++ fraction ++ power))
    some (.ofBinary64 (if x.isFinite then x else zero))

/-- A value that is neither text nor a word. -/
def number? (cs : List Char) : Option Json := (integer? cs).or (float? cs)

def value? : Reader Json := fun cs =>
  match text? cs with
  | some (s, cs) => some (.string s, cs)
  | none =>
    let isEnd (c : Char) : Bool := isBlank c || c = '#'
    let word := cs.takeWhile (!isEnd ·)
    let rest := cs.dropWhile (!isEnd ·)
    match String.ofList word with
    | "true" => some (.bool true, rest)
    | "false" => some (.bool false, rest)
    | _ => (number? word).map (·, rest)

/-- Nothing but a comment may follow. -/
def atEnd (cs : List Char) : Bool :=
  match skipBlanks cs with
  | [] => true
  | '#' :: cs => cs.all isPlain
  | _ => false

def line? (cs : List Char) : Option Line :=
  match skipBlanks cs with
  | '[' :: cs => do
    match ← path? (cs.length + 1) cs with
    | (path, ']' :: cs) => if atEnd cs then some (.header path) else none
    | _ => none
  | cs =>
    if atEnd cs then some .blank
    else do
      match ← path? (cs.length + 1) cs with
      | (path, '=' :: cs) => do
        let (value, cs) ← value? (skipBlanks cs)
        if atEnd cs then some (.entry path value) else none
      | _ => none

def withoutReturn (cs : List Char) : List Char :=
  if cs.getLast? = some '\r' then cs.dropLast else cs

def splitLines : List Char → List (List Char)
  | [] => [[]]
  | '\n' :: cs => [] :: splitLines cs
  | c :: cs =>
    match splitLines cs with
    | l :: ls => (c :: l) :: ls
    | [] => [[c]]

end Scanning

section Assembling

/-- The document so far, the tables opened by a header and those made by the path of an entry. -/
structure Document where
  root : List (String × Json) := []
  current : Path := []
  opened : List Path := []
  dotted : List Path := []

/-- The members of the table at a path, with a change made to them; tables on the way are made as
they are needed. -/
def changeAt (change : List (String × Json) → Option (List (String × Json))) :
    Path → List (String × Json) → Option (List (String × Json))
  | [], members => change members
  | name :: path, members =>
    match members.lookup name with
    | none => do return members ++ [(name, .object (← changeAt change path []))]
    | some (.object inner) => do
      let inner ← changeAt change path inner
      return members.map fun (n, j) => if n = name then (n, .object inner) else (n, j)
    | some _ => none

def hasTable : Path → List (String × Json) → Bool
  | [], _ => true
  | name :: path, members =>
    match members.lookup name with
    | some (.object inner) => hasTable path inner
    | _ => false

/-- Opens a table once; one made by the path of an entry is closed already. -/
def openTable (d : Document) (path : Path) : Option Document := do
  if d.opened.contains path || d.dotted.contains path then none
  return { d with
    root := ← changeAt some path d.root
    current := path
    opened := path :: d.opened }

/-- Adds an entry to the current table. Its path may go through tables without a header, and the
one that it ends in was made by the path of an entry if it was there before. -/
def addEntry (d : Document) (path : Path) (value : Json) : Option Document := do
  let name ← path.getLast?
  let through := (List.range (path.length - 1)).map fun n => d.current ++ path.take (n + 1)
  let made := through.filter fun p => !hasTable p d.root
  if through.any d.opened.contains then none
  if through.getLast?.any fun p => hasTable p d.root && !d.dotted.contains p then none
  let add (members : List (String × Json)) : Option (List (String × Json)) :=
    if (members.lookup name).isSome then none else some (members ++ [(name, value)])
  return { d with
    root := ← changeAt add (d.current ++ path.dropLast) d.root
    dotted := made ++ d.dotted }

def addLine (d : Document) : Line → Option Document
  | .blank => some d
  | .header path => openTable d path
  | .entry path value => addEntry d path value

def ofText? (s : String) : Option Json := do
  let lines ← (splitLines s.toList).mapM fun cs => line? (withoutReturn cs)
  let d ← lines.foldlM addLine {}
  return .object d.root

end Assembling

end Reporting.Toml
