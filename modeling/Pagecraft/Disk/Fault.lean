import Pagecraft.Text.Basic

/-! Why an operation on a file or a walk through a directory fails. -/
namespace Pagecraft

inductive Fault where
  | notFound
  | notADirectory
  | isADirectory
  | nameTooLong
  | tooManyLinks
  | nulInName
  | notUtf8
  | other (message : Text)
deriving DecidableEq, Repr

def Fault.message : Fault → Text
  | .notFound => "No such file or directory (os error 2)".toList
  | .notADirectory => "Not a directory (os error 20)".toList
  | .isADirectory => "Is a directory (os error 21)".toList
  | .nameTooLong => "File name too long (os error 36)".toList
  | .tooManyLinks => "Too many levels of symbolic links (os error 40)".toList
  | .nulInName => "file name contained an unexpected NUL byte".toList
  | .notUtf8 => "stream did not contain valid UTF-8".toList
  | .other message => message

/-- Why a walk fails. The path is told of a directory that cannot be listed, but not of a file that
cannot be read. -/
structure WalkFault where
  directory : Option Text
  fault : Fault
deriving DecidableEq, Repr

def WalkFault.message : WalkFault → Text
  | ⟨none, fault⟩ => fault.message
  | ⟨some path, fault⟩ =>
    "IO error for operation on ".toList ++ path ++ ": ".toList ++ fault.message

end Pagecraft
