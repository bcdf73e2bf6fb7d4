import TableRobot.Text.Basic
import TableRobot.Text.Quoted
import TableRobot.Numeral.Decimal
/-!
# Folders of command files

A folder holds files under paths of names. A path leads step by step from the
folder to a file: each step but the last has to be a folder, `.` stays where it
is and `..` goes up, at most to the root of the machine. A path that begins with
a slash starts from the root. Beside the folder of command files itself, only
the folders that machines have in common are known.
-/

namespace TableRobot.Console

open Text (fields quoted)

/-- Why a file cannot be opened. -/
inductive OpenReason where
  | missing
  | notAFolder
  | isAFolder
  | nameTooLong
  | denied
  deriving DecidableEq, Repr

namespace OpenReason

def number : OpenReason → Nat
  | missing => 2
  | denied => 13
  | notAFolder => 20
  | isAFolder => 21
  | nameTooLong => 36

def text : OpenReason → Text
  | missing => "No such file or directory".toList
  | denied => "Permission denied".toList
  | notAFolder => "Not a directory".toList
  | isAFolder => "Is a directory".toList
  | nameTooLong => "File name too long".toList

/-- The wording with the path that could not be opened. -/
def message (r : OpenReason) (path : Text) : Text :=
  "[Errno ".toList ++ Numeral.digits r.number ++ "] ".toList ++ r.text ++ ": ".toList ++
    quoted path

end OpenReason

/-- Files with their contents, each under the names that lead to it from the root. A
file without a name stands for nothing but the folder that it is in. -/
structure Folder where
  files : List (List Text × List UInt8)
  deriving DecidableEq, Repr

namespace Folder

/-- The names that lead from the root to the folder of command files. The last one is not
known, so no path can spell it. -/
def place : List Text := ["tmp".toList, []]

/-- The folders that machines have, and the empty device. -/
def common : List Text :=
  ["bin/", "boot/", "dev/fd/", "dev/null", "dev/pts/", "dev/shm/", "etc/opt/", "home/", "lib/",
    "media/", "mnt/", "opt/", "proc/self/", "root/", "run/lock/", "sbin/", "srv/", "sys/",
    "tmp/", "usr/bin/", "usr/games/", "usr/include/", "usr/lib/", "usr/local/bin/",
    "usr/local/etc/", "usr/local/games/", "usr/local/include/", "usr/local/lib/",
    "usr/local/man/", "usr/local/sbin/", "usr/local/share/", "usr/local/src/", "usr/sbin/",
    "usr/share/", "usr/src/", "var/cache/", "var/lib/", "var/local/", "var/lock/", "var/log/",
    "var/mail/", "var/opt/", "var/run/", "var/spool/", "var/tmp/"].map String.toList

/-- The root above a folder of files that are named by paths. -/
def ofFiles (files : List (Text × List UInt8)) : Folder :=
  ⟨common.map (fun path => (fields '/' path, [])) ++ [(place ++ [[]], [])] ++
    files.map fun (path, bytes) => (place ++ fields '/' path, bytes)⟩

def isFolder (f : Folder) (names : List Text) : Bool :=
  f.files.any fun (path, _) => names.isPrefixOf path && names != path

def maxName : Nat := 255

def maxPath : Nat := 4095

def byteCount (name : Text) : Nat := name.foldl (fun n c => n + c.utf8Size) 0

/-- Follows the remaining steps of a path from the folder that the names lead to. -/
def follow (f : Folder) (names : List Text) : List Text → Except OpenReason (List UInt8)
  | [] => .error .isAFolder
  | step :: steps =>
      if step = [] || step = ['.'] then follow f names steps
      else if step = ['.', '.'] then follow f names.dropLast steps
      else if maxName < byteCount step then .error .nameTooLong
      else
        let names := names ++ [step]
        match f.files.lookup names with
        | some bytes => if steps = [] then .ok bytes else .error .notAFolder
        | none => if f.isFolder names then follow f names steps else .error .missing

def read (f : Folder) (path : Text) : Except OpenReason (List UInt8) :=
  if maxPath < byteCount path then .error .nameTooLong
  else
    match path with
    | [] => .error .missing
    | '/' :: rest => follow f [] (fields '/' rest)
    | _ => follow f place (fields '/' path)

example : ((ofFiles [("a".toList, [1])]).read "./a".toList).toOption = some [1] := by
  decide +kernel

end Folder

end TableRobot.Console
