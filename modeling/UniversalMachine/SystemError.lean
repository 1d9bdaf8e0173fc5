/-!
The ways in which an operating system refuses to read a file or to write to a device,
with the wording that it gives to each.
-/

namespace UniversalMachine

inductive SystemError where
  | noSuchFile
  | notDirectory
  | isDirectory
  | noSpace
  | nameTooLong
  /-- A path cannot hold the byte that ends one. -/
  | nulInPath
  /-- A file that should hold a text holds bytes that are none. -/
  | invalidText
  deriving DecidableEq

namespace SystemError

/-- The number of an error that comes from a call of the system. -/
def number? : SystemError → Option Nat
  | noSuchFile => some 2
  | notDirectory => some 20
  | isDirectory => some 21
  | noSpace => some 28
  | nameTooLong => some 36
  | nulInPath | invalidText => none

def text : SystemError → String
  | noSuchFile => "No such file or directory"
  | notDirectory => "Not a directory"
  | isDirectory => "Is a directory"
  | noSpace => "No space left on device"
  | nameTooLong => "File name too long"
  | nulInPath => "file name contained an unexpected NUL byte"
  | invalidText => "stream did not contain valid UTF-8"

def message (e : SystemError) : String :=
  match e.number? with
  | some number => s!"{e.text} (os error {number})"
  | none => e.text

end SystemError

end UniversalMachine
