import BlockExtension.Files.Lookup
import BlockExtension.Shell.Octets

/-!
# Installed programs

The programs that a system has. A program in machine code is a file that starts
with a mark and goes on with the name of the program, so a copy of it is the
same program under another name.
-/

namespace BlockExtension.Shell.Installation

def mark : Octets := ['\x7f', 'E', 'L', 'F']

def content (name : String) : ByteArray := Octets.toBytes (mark ++ Octets.ofText name)

def programOf? (file : Octets) : Option String := (Octets.behind? mark file).map Octets.toText

def shells : List String := ["sh", "dash", "bash"]

/-- The other programs. -/
def utilities : List String :=
  ["[", "awk", "base64", "basename", "cat", "chmod", "cksum", "cmp", "comm", "cp", "cut", "date",
    "dd", "diff", "dirname", "echo", "egrep", "env", "expand", "expr", "factor", "false", "fgrep",
    "find", "fmt", "fold", "grep", "head", "id", "join", "ln", "ls", "md5sum", "mkdir", "mktemp",
    "mv", "nice", "nl", "nohup", "numfmt", "od", "paste", "printenv", "printf", "pwd", "readlink",
    "realpath", "rev", "rm", "rmdir", "sed", "seq", "sha1sum", "sha224sum", "sha256sum",
    "sha384sum", "sha512sum", "sleep", "sort", "stat", "tac", "tail", "tee", "test", "timeout",
    "touch", "tr", "true", "truncate", "uname", "unexpand", "uniq", "wc", "which", "whoami",
    "xargs", "yes"]

def directories : List Files.Location := [["usr", "bin"], ["bin"]]

def mode : Nat := 0o555

def tree (workingDirectory : Files.Location) : Files.Tree :=
  let fresh := Files.Tree.fresh workingDirectory
  let programs := directories.flatMap fun directory =>
    (shells ++ utilities).map fun name =>
      (directory ++ [name], Files.Entry.file (content name) mode)
  { fresh with entries := fresh.entries ++ programs }

/-- The directories that programs are sought in, unless a script says otherwise. -/
def searchPath : String := "/usr/local/sbin:/usr/local/bin:/usr/sbin:/usr/bin:/sbin:/bin"

end BlockExtension.Shell.Installation
