import Mathlib.Data.List.Sort
import FortifyLab.Configuration.Document
import FortifyLab.Library.TextLines
import FortifyLab.Redaction.SensitiveText

/-! The line scanner of the migration: which keys and sections a text has, and where its defaults
are inserted. -/

namespace FortifyLab.Configuration

open TextLines
open Redaction (isSpace)

/-- What the multi-line tracker is inside of. -/
inductive Mode where
  | plain
  | basic
  | literal
  | multiBasic
  | multiLiteral
  deriving DecidableEq

/-- The loops of `_multiline_string_state` over the rest of a line. -/
def track : Mode → List Char → Mode
  | .multiBasic, '"' :: '"' :: '"' :: rest => track .plain rest
  | .multiBasic, '\\' :: _ :: rest => track .multiBasic rest
  | .multiBasic, _ :: rest => track .multiBasic rest
  | .multiLiteral, '\x27' :: '\x27' :: '\x27' :: rest => track .plain rest
  | .multiLiteral, _ :: rest => track .multiLiteral rest
  | .basic, '\\' :: _ :: rest => track .basic rest
  | .basic, '"' :: rest => track .plain rest
  | .basic, _ :: rest => track .basic rest
  | .literal, '\x27' :: rest => track .plain rest
  | .literal, _ :: rest => track .literal rest
  | .plain, '#' :: _ => .plain
  | .plain, '"' :: '"' :: '"' :: rest => track .multiBasic rest
  | .plain, '\x27' :: '\x27' :: '\x27' :: rest => track .multiLiteral rest
  | .plain, '"' :: rest => track .basic rest
  | .plain, '\x27' :: rest => track .literal rest
  | .plain, _ :: rest => track .plain rest
  | mode, [] => mode

/-- `_multiline_string_state`: a string of one line ends with it. -/
def multilineStringState (line : List Char) (state : Mode) : Mode :=
  match track state line with
  | .basic => .plain
  | .literal => .plain
  | mode => mode

/-! ## Headers and keys -/

def isKeyChar (character : Char) : Bool :=
  isAlphanumeric character || character == '_' || character == '-'

def isSectionChar (character : Char) : Bool := isKeyChar character || character == '.'

/-- `SECTION_RE`: the name of the section that a line is the header of. -/
def sectionHeader (line : List Char) : Option String :=
  match line.dropWhile isSpace with
  | '[' :: rest =>
      match rest.takeWhile isSectionChar, (rest.dropWhile isSectionChar) with
      | name@(_ :: _), ']' :: rest =>
          match rest.dropWhile isSpace with
          | [] => some (String.ofList name)
          | '#' :: comment => if comment.dropLast.contains '\n' then none
              else some (String.ofList name)
          | _ => none
      | _, _ => none
  | _ => none

/-- `KEY_RE`: the key that a line begins with. -/
def lineKey (line : List Char) : Option String :=
  let rest := line.dropWhile isSpace
  match rest.takeWhile isKeyChar, (rest.dropWhile isKeyChar).dropWhile isSpace with
  | name@(_ :: _), '=' :: _ => some (String.ofList name)
  | _, _ => none

/-! ## The scan -/

/-- The variables of `_section_keys`; the keys of all sections are pairs in one list. -/
structure Scan where
  current : String
  keys : List (String × String)
  endings : List (String × Nat)
  state : Mode

def Scan.start : Scan := ⟨"", [], [], .plain⟩

/-- The round of `_section_keys` for one line. -/
def Scan.line (scan : Scan) (index : Nat) (line : List Char) : Scan :=
  let seen : Scan :=
    if scan.state = .plain then
      match sectionHeader line with
      | some name =>
          { scan with
            current := name
            endings := if scan.current = "" then scan.endings
              else (scan.current, index) :: scan.endings }
      | none =>
          match lineKey line with
          | some key => { scan with keys := (scan.current, key) :: scan.keys }
          | none => scan
    else scan
  { seen with state := multilineStringState line scan.state }

def Scan.lines (scan : Scan) (index : Nat) : List (List Char) → Scan
  | [] => scan
  | line :: rest => Scan.lines (scan.line index line) (index + 1) rest

/-- `_section_keys`: the scan at the end, with the section that the text ends in closed. -/
def sectionKeys (lines : List (List Char)) : Scan :=
  let scan := Scan.start.lines 0 lines
  { scan with
    endings := if scan.current = "" then scan.endings
      else (scan.current, lines.length) :: scan.endings }

/-! ## Defaults -/

/-- `value.split("=", 1)[0].strip()`. -/
def defaultKey (value : String) : String :=
  String.ofList
    (((value.toList.takeWhile (· != '=')).dropWhile isSpace).reverse.dropWhile isSpace).reverse

/-- The defaults of a section that it does not have, as lines. -/
def missing (scan : Scan) (name : String) (values : List String) : List (List Char) :=
  (values.filter (fun value => !scan.keys.contains (name, defaultKey value))).map
    (fun value => value.toList ++ ['\n'])

def insertAt (lines : List (List Char)) (insertion : Nat × List (List Char)) :
    List (List Char) :=
  lines.take insertion.1 ++ insertion.2 ++ lines.drop insertion.1

/-- The insertions at the ends of sections that are there. -/
def pending (scan : Scan) (additions : List (String × List String)) :
    List (Nat × List (List Char)) :=
  additions.filterMap (fun addition =>
    let rendered := missing scan addition.1 addition.2
    if rendered.isEmpty then none
    else (scan.endings.lookup addition.1).map (fun index => (index, rendered)))

/-- The lines of sections that are not there. -/
def appended (scan : Scan) (empty : Bool) : List (String × List String) → List (List Char)
  | [] => []
  | (name, values) :: rest =>
      let rendered := missing scan name values
      if rendered.isEmpty || (scan.endings.lookup name).isSome then appended scan empty rest
      else (if empty then [] else [['\n']]) ++ (("[" ++ name ++ "]\n").toList :: rendered) ++
        appended scan false rest

/-- The lines of a text, the last one ended. -/
def endedLines (text : List Char) : List (List Char) :=
  let lines := splitLines text
  match lines.getLast? with
  | some last => if last.getLast? = some '\n' then lines else lines.dropLast ++ [last ++ ['\n']]
  | none => lines

/-- `_merge_defaults`. No two insertions are at one place, so that their order is that of the
places. -/
def mergeDefaults (text : List Char) (additions : List (String × List String)) : List Char :=
  let lines := endedLines text
  let scan := sectionKeys lines
  let inserted := ((pending scan additions).insertionSort (fun left right =>
    right.1 ≤ left.1)).foldl insertAt lines
  (inserted ++ appended scan lines.isEmpty additions).flatten

/-- What the migration is run with: the directory of the observer's files, and whether they are
ready. -/
structure Observer where
  accessRoot : String
  ready : Bool

/-- `access_root / name`, of a normalized path. -/
def Observer.file (observer : Observer) (name : String) : String :=
  if observer.accessRoot = "." then name
  else if observer.accessRoot.endsWith "/" then observer.accessRoot ++ name
  else observer.accessRoot ++ "/" ++ name

def Observer.additions (observer : Observer) : List (String × List String) :=
  ("lifecycle", ["enabled = false"]) ::
    (if observer.ready then
      [("cluster", ["server = \"https://127.0.0.1:16443\"", "namespace = \"fortify\"",
        "token_file = \"" ++ observer.file "token" ++ "\"",
        "ca_file = \"" ++ observer.file "ca.crt" ++ "\"", "timeout_seconds = 5"])]
    else [])

/-- `candidate_text`. -/
def candidateText (text : List Char) (document : Document) (observer : Observer) :
    Except MigrationError (List Char) := do
  let version ← schemaVersion document
  let candidate := mergeDefaults text observer.additions
  return if version = 0 then "schema_version = 1\n\n".toList ++ candidate else candidate

end FortifyLab.Configuration
