/-
What is always there.

The kinds of things that a path leads to, and those of them that stand beside every tree of files:
the usual directories of a system, its devices, and its programs. A program is known by its name
only, and its file reads as nothing.
-/

namespace AssociationCheck

structure File where
  bytes : List UInt8
  executable : Bool := false
  deriving DecidableEq, Repr

inductive Device
  /-- Reads as nothing and keeps nothing. -/
  | nothing
  /-- Reads as zeros without an end. -/
  | zeros
  /-- Has no room for anything. -/
  | full
  deriving DecidableEq, Repr

inductive FileEntry
  | directory
  | file (file : File)
  /-- Leads on to another path. -/
  | link (target : String)
  | device (device : Device)
  | program (name : String)
  deriving DecidableEq, Repr

def FileEntry.bytes : FileEntry → List UInt8
  | .file kept => kept.bytes
  | _ => []

def FileEntry.isExecutable : FileEntry → Bool
  | .file kept => kept.executable
  | .program _ => true
  | .directory => true
  | _ => false

abbrev Location := List String

def systemPrograms : List String :=
  ["[", "arch", "b2sum", "base32", "base64", "basename", "bash", "cat", "chgrp", "chmod", "chown",
    "cksum", "cmp", "comm", "cp", "csplit", "cut", "dash", "date", "dd", "df", "diff", "dir",
    "dirname", "du", "echo", "egrep", "env", "expand", "expr", "factor", "false", "fgrep", "find",
    "fmt", "fold", "grep", "groups", "gzip", "head", "hostname", "id", "install", "join", "kill",
    "link", "ln", "ls", "md5sum", "mkdir", "mkfifo", "mknod", "mktemp", "mv", "nice", "nl", "nohup",
    "nproc", "numfmt", "od", "paste", "pathchk", "pr", "printenv", "printf", "ptx", "pwd",
    "readlink", "realpath", "rm", "rmdir", "sed", "seq", "sh", "sha1sum", "sha224sum", "sha256sum",
    "sha384sum", "sha512sum", "shred", "shuf", "sleep", "sort", "split", "stat", "stdbuf", "sum",
    "sync", "tac", "tail", "tar", "tee", "test", "timeout", "touch", "tr", "true", "truncate",
    "tsort", "tty", "uname", "unexpand", "uniq", "unlink", "users", "vdir", "wc", "which", "who",
    "whoami", "xargs", "yes"]

def systemDirectories : List Location :=
  [["dev"], ["etc"], ["home"], ["opt"], ["proc"], ["root"], ["run"], ["srv"], ["sys"], ["tmp"],
    ["usr"], ["usr", "bin"], ["usr", "sbin"], ["usr", "lib"], ["usr", "local"],
    ["usr", "local", "bin"], ["usr", "local", "sbin"], ["usr", "share"], ["var"], ["var", "tmp"]]

def standing? (location : Location) : Option FileEntry :=
  match location with
  | ["bin"] => some (.link "usr/bin")
  | ["sbin"] => some (.link "usr/sbin")
  | ["lib"] => some (.link "usr/lib")
  | ["dev", "null"] => some (.device .nothing)
  | ["dev", "zero"] => some (.device .zeros)
  | ["dev", "full"] => some (.device .full)
  | ["usr", "bin", name] =>
      if systemPrograms.contains name then some (.program name) else none
  | _ => if systemDirectories.contains location then some .directory else none

end AssociationCheck
