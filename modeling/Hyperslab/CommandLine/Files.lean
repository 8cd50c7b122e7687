/-
# `Hyperslab.CommandLine.Files` — named texts

A command reads whole files by name.  A `FileSystem` answers every name with a text or
with a reason; a directory of files in memory is one.  There a name is followed part by
part from left to right, and the first part that leads nowhere gives the reason.  Single
dots and doubled slashes do not count, two dots lead to the directory around, and what
lies outside the directory of files is not known by any name.
-/
import Hyperslab.Text.Split

namespace Hyperslab

/-- Why a file cannot be read. -/
inductive FileFault where
  | missing
  | directory
  /-- A file is used like a directory. -/
  | notDirectory
  | nameTooLong
  | notText
  | other (reason : String)
deriving DecidableEq, Repr

/-- The sentence of the system. -/
def FileFault.message : FileFault → String
  | .missing => "No such file or directory (os error 2)"
  | .directory => "Is a directory (os error 21)"
  | .notDirectory => "Not a directory (os error 20)"
  | .nameTooLong => "File name too long (os error 36)"
  | .notText => "stream did not contain valid UTF-8"
  | .other reason => reason

/-- Texts by name. -/
abbrev FileSystem := String → Except FileFault String

/-- The greatest number of bytes in one part of a name. -/
def partLimit : Nat := 255

/-- The greatest number of bytes in a whole name. -/
def nameLimit : Nat := 4095

/-- The parts of a name that count. -/
def nameParts (name : String) : List String :=
  ((Text.splitAll '/' name.toList).map String.ofList).filter fun part =>
    part != "" && part != "."

/-- The name can only be that of a directory. -/
def endsAsDirectory (name : String) : Bool :=
  match (Text.splitAll '/' name.toList).getLast? with
  | some last => last.isEmpty || last == ['.']
  | none => false

/-- What a name leads to: `home` says that the directory of the files has been reached and
not left, `endsOpen` that a slash or a dot stands behind the last part. -/
def followParts (files : List (String × String)) (endsOpen : Bool) :
    (home : Bool) → (parts : List String) → Except FileFault String
  | _, [] => .error .directory
  | home, part :: rest =>
    if part = ".." then followParts files endsOpen false rest
    else if partLimit < part.utf8ByteSize then .error .nameTooLong
    else
      match if home then files.lookup part else none with
      | none => .error .missing
      | some text => if rest.isEmpty && !endsOpen then .ok text else .error .notDirectory

/-- The files of a list, in one directory. -/
def FileSystem.ofList (files : List (String × String)) : FileSystem := fun name =>
  if name.isEmpty then .error .missing
  else if nameLimit < name.utf8ByteSize then .error .nameTooLong
  else
    followParts files (endsAsDirectory name) (name.toList.head? != some '/') (nameParts name)

end Hyperslab
