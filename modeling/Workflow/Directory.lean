import Workflow.Text.Quoted

/-! A directory of files that can be read as text, and why reading may fail. -/

namespace Workflow

inductive ReadError
  | notFound
  | permissionDenied
  | notDirectory
  | isDirectory
  | nameTooLong
  | zeroInName
  | invalidText
  deriving DecidableEq

namespace ReadError

def code? : ReadError → Option Nat
  | notFound => some 2
  | permissionDenied => some 13
  | notDirectory => some 20
  | isDirectory => some 21
  | nameTooLong => some 36
  | zeroInName => none
  | invalidText => none

def kind : ReadError → String
  | notFound => "NotFound"
  | permissionDenied => "PermissionDenied"
  | notDirectory => "NotADirectory"
  | isDirectory => "IsADirectory"
  | nameTooLong => "InvalidFilename"
  | zeroInName => "InvalidInput"
  | invalidText => "InvalidData"

def reason : ReadError → String
  | notFound => "No such file or directory"
  | permissionDenied => "Permission denied"
  | notDirectory => "Not a directory"
  | isDirectory => "Is a directory"
  | nameTooLong => "File name too long"
  | zeroInName => "file name contained an unexpected NUL byte"
  | invalidText => "stream did not contain valid UTF-8"

def message (e : ReadError) : String :=
  match e.code? with
  | some code => e.reason ++ " (os error " ++ toString code ++ ")"
  | none => e.reason

def detail (e : ReadError) : String :=
  let reported := match e.code? with
    | some code => "Os \x7b code: " ++ toString code ++ ", "
    | none => "Error \x7b "
  reported ++ "kind: " ++ e.kind ++ ", message: " ++ Text.quote e.reason ++ " \x7d"

end ReadError

abbrev Files := String → Except ReadError ByteArray

namespace Files

def text (files : Files) (path : String) : Except ReadError String := do
  (String.fromUTF8? (← files path)).elim (.error .invalidText) .ok

end Files

/-- Files by their paths from one directory, in which each directory on the way exists. -/
structure FileTree where
  files : List (String × ByteArray) := []

namespace FileTree

def names (path : String) : List (List Char) :=
  (path.toList.splitOn '/').filter fun name => !name.isEmpty

def file? (t : FileTree) (place : List (List Char)) : Option ByteArray :=
  (t.files.find? fun f => names f.1 == place).map Prod.snd

def isParent (t : FileTree) (place : List (List Char)) : Bool :=
  place.isEmpty || t.files.any fun f => place.isPrefixOf (names f.1).dropLast

end FileTree

/-- The files of the working directory, and those known of the whole system, by absolute paths. -/
structure Directory where
  inside : FileTree
  outside : FileTree := {}

namespace Directory

def rootNames : List String :=
  ["bin", "boot", "dev", "etc", "home", "lib", "media", "mnt", "opt", "proc", "root", "run", "sbin",
    "srv", "sys", "tmp", "usr", "var"]

/-- Where a walk has come to: `above` counts the steps up out of the directory it began in, and
`place` leads down from there. -/
structure Walk where
  tree : FileTree
  atRoot : Bool
  above : Nat := 0
  place : List (List Char) := []

namespace Walk

def up (w : Walk) : Walk :=
  if !w.place.isEmpty then { w with place := w.place.dropLast }
  else if w.atRoot then w
  else { w with above := w.above + 1 }

def down (w : Walk) (name : List Char) : Walk := { w with place := w.place ++ [name] }

def file? (w : Walk) : Option ByteArray := if w.above = 0 then w.tree.file? w.place else none

def isDirectory (w : Walk) : Bool :=
  if w.above = 0 then
    w.tree.isParent w.place ||
      (w.atRoot && w.place.length = 1 && rootNames.contains (String.ofList w.place.flatten))
  else w.place.isEmpty

/-- Follows the names of a path. Of what lies above a directory, only that it is there is known. -/
def follow (w : Walk) : List (List Char) → Except ReadError ByteArray
  | [] => .error .isDirectory
  | name :: rest =>
    if name = [] || name = ['.'] then w.follow rest
    else if name = ['.', '.'] then w.up.follow rest
    else if 255 < (String.ofList name).utf8ByteSize then .error .nameTooLong
    else
      let w := w.down name
      match w.file? with
      | some bytes => if rest.isEmpty then .ok bytes else .error .notDirectory
      | none => if w.isDirectory then w.follow rest else .error .notFound

end Walk

def read (d : Directory) : Files := fun path =>
  let cs := path.toList
  let start : Walk :=
    if cs.head? = some '/' then { tree := d.outside, atRoot := true }
    else { tree := d.inside, atRoot := false }
  if cs.contains (Char.ofNat 0) then .error .zeroInName
  else if cs.isEmpty then .error .notFound
  else if 4096 ≤ path.utf8ByteSize then .error .nameTooLong
  else start.follow (cs.splitOn '/')

end Directory

end Workflow
