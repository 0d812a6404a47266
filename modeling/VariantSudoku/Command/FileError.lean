set_option autoImplicit false

namespace VariantSudoku.Command

inductive FileError where
  | system (number : Nat)
  | notText
  deriving DecidableEq, Repr

namespace FileError

def missing : FileError := .system 2

def notDirectory : FileError := .system 20

def isDirectory : FileError := .system 21

def noRoom : FileError := .system 28

def nameTooLong : FileError := .system 36

def reasons : List String :=
  ["Success", "Operation not permitted", "No such file or directory", "No such process",
   "Interrupted system call", "Input/output error", "No such device or address",
   "Argument list too long", "Exec format error", "Bad file descriptor", "No child processes",
   "Resource temporarily unavailable", "Cannot allocate memory", "Permission denied",
   "Bad address", "Block device required", "Device or resource busy", "File exists",
   "Invalid cross-device link", "No such device", "Not a directory", "Is a directory",
   "Invalid argument", "Too many open files in system", "Too many open files",
   "Inappropriate ioctl for device", "Text file busy", "File too large",
   "No space left on device", "Illegal seek", "Read-only file system", "Too many links",
   "Broken pipe", "Numerical argument out of domain", "Numerical result out of range",
   "Resource deadlock avoided", "File name too long", "No locks available",
   "Function not implemented", "Directory not empty", "Too many levels of symbolic links"]

def reason (number : Nat) : String :=
  reasons[number]?.getD ("Unknown error " ++ toString number)

def message : FileError → String
  | system number => reason number ++ " (os error " ++ toString number ++ ")"
  | notText => "stream did not contain valid UTF-8"

end FileError

end VariantSudoku.Command
