import DomainRules.Fault
import DomainRules.Text.Split

/-! A folder of files, as far as a command can see it: names with slashes in them lie in directories, which
exist as long as a file lies in them. -/

namespace DomainRules.CommandLine

structure Folder where
  files : List (String × List UInt8)
  deriving DecidableEq

namespace Folder

/-- The steps from the folder down to a file; those that stay in place are left out. -/
def path (name : String) : List (List Char) :=
  (Text.splitOn '/' name.toList).filter fun step => step ≠ [] && step ≠ ['.']

def nameOf (path : List (List Char)) : String := "/".intercalate (path.map String.ofList)

def isBelow (path above : List (List Char)) : Bool := above.isPrefixOf path && path ≠ above

/-- What keeps a name from being that of a file, whether or not there is one. -/
def obstacle? (folder : Folder) (name : String) : Option Fault :=
  if name.toList.contains '\x00' then some .nullInName
  else if name.isEmpty then some (.file .missing name)
  else if folder.files.any fun file => isBelow (path name) (path file.1) then
    some (.file .notADirectory name)
  else if path name = [] || folder.files.any fun file => isBelow (path file.1) (path name) then
    some (.file .isADirectory name)
  else none

def read (folder : Folder) (name : String) : Except Fault (List UInt8) :=
  match folder.obstacle? name with
  | some fault => .error fault
  | none =>
    match folder.files.find? fun file => path file.1 == path name with
    | some file => .ok file.2
    | none => .error (.file .missing name)

/-- Replaces a file, or adds one to a directory that exists. -/
def write (folder : Folder) (name : String) (bytes : List UInt8) : Except Fault Folder :=
  let directory := (path name).dropLast
  match folder.obstacle? name with
  | some fault => .error fault
  | none =>
    if folder.files.any fun file => path file.1 == path name then
      .ok ⟨folder.files.map fun file => if path file.1 == path name then (file.1, bytes) else file⟩
    else if directory = [] || folder.files.any fun file => isBelow (path file.1) directory then
      .ok ⟨folder.files ++ [(nameOf (path name), bytes)]⟩
    else .error (.file .missing name)

end Folder

end DomainRules.CommandLine
