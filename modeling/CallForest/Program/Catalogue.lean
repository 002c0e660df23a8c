import CallForest.Program.Comparing
import CallForest.Program.Copying
import CallForest.Program.Counting
import CallForest.Program.Difference
import CallForest.Program.Dumping
import CallForest.Program.Filters
import CallForest.Program.Grep
import CallForest.Program.Joining
import CallForest.Program.Judgement
import CallForest.Program.Layout
import CallForest.Program.Making
import CallForest.Program.Metadata
import CallForest.Program.Parts
import CallForest.Program.Sed
import CallForest.Program.Sorting
import CallForest.Program.Transfer
import CallForest.Program.Words

/-!
# The programs of the machine

The programs by their names, and the directories in which a machine keeps them. The shell itself and
the programs that start others are on the machine too; what they do is not in the table here.
-/

namespace CallForest

namespace Program

/-- What a program does, by its name. -/
def named? (name : String) : Option Program :=
  match name with
  | "basename" => some basenameProgram
  | "cat" => some catProgram
  | "chmod" => some chmodProgram
  | "cmp" => some cmpProgram
  | "cp" => some cpProgram
  | "cut" => some cutProgram
  | "chgrp" => some (ownerProgram "chgrp")
  | "chown" => some (ownerProgram "chown")
  | "date" => some dateProgram
  | "diff" => some diffProgram
  | "dirname" => some dirnameProgram
  | "echo" => some Printing.echo
  | "egrep" => some (grepProgram 'E')
  | "expr" => some exprProgram
  | "false" => some (endingProgram "false" 1)
  | "fgrep" => some (grepProgram 'F')
  | "grep" => some (grepProgram 'G')
  | "head" => some headProgram
  | "install" => some installProgram
  | "link" => some linkProgram
  | "ln" => some lnProgram
  | "ls" => some lsProgram
  | "mkdir" => some mkdirProgram
  | "mktemp" => some mktempProgram
  | "mv" => some mvProgram
  | "printenv" => some printenvProgram
  | "printf" => some Printing.printf
  | "pwd" => some pwdProgram
  | "readlink" => some readlinkProgram
  | "realpath" => some realpathProgram
  | "rev" => some revProgram
  | "rm" => some rmProgram
  | "rmdir" => some rmdirProgram
  | "sed" => some sedProgram
  | "seq" => some seqProgram
  | "sort" => some sortProgram
  | "stat" => some statProgram
  | "sync" => some (endingProgram "sync" 0)
  | "tac" => some tacProgram
  | "tail" => some tailProgram
  | "tee" => some teeProgram
  | "test" | "[" => some testProgram
  | "touch" => some touchProgram
  | "tr" => some trProgram
  | "true" => some (endingProgram "true" 0)
  | "truncate" => some truncateProgram
  | "uname" => some (unameProgram)
  | "uniq" => some uniqProgram
  | "unlink" => some unlinkProgram
  | "comm" => some commProgram
  | "expand" => some expandProgram
  | "fold" => some foldProgram
  | "join" => some joinProgram
  | "nl" => some nlProgram
  | "od" => some odProgram
  | "paste" => some pasteProgram
  | "unexpand" => some unexpandProgram
  | "wc" => some wcProgram
  | "whoami" => some (fixedProgram "root")
  | "yes" => some yesProgram
  | _ => none

/-- The names of the programs of a machine. -/
def names : List String :=
  ["[", "awk", "basename", "bash", "cat", "chgrp", "chmod", "chown", "cmp", "comm", "cp", "cut",
    "dash", "date", "diff", "dirname", "echo", "egrep", "env", "expand", "expr", "false", "fgrep",
    "fold", "grep", "head", "install", "join", "kill", "link", "ln", "ls", "mawk", "mkdir",
    "mktemp", "mv", "nice", "nl", "nohup", "od", "paste", "printenv", "printf", "pwd", "readlink",
    "realpath", "rev", "rm", "rmdir", "sed", "seq", "setsid", "sh", "sleep", "sort", "stat",
    "stdbuf", "sync", "tac", "tail", "tee", "test", "timeout", "touch", "tr", "true", "truncate",
    "uname", "unexpand", "uniq", "unlink", "wc", "whoami", "xargs", "yes"]

end Program

namespace Machine

/-- A directory with all programs. -/
def programs : Directory :=
  .ofList (Program.names.map fun n => (n, .program n))

/-- What is on a machine before anything is done. -/
def root : Directory :=
  .ofList
    [("bin", .link "usr/bin"),
      ("dev", .folder (.ofList
        [("fd", .folder .nil), ("full", .device .full), ("null", .device .null),
          ("random", .device .zero), ("stderr", .device .null), ("stdin", .device .null),
          ("stdout", .device .null), ("tty", .device .terminal), ("urandom", .device .zero),
          ("zero", .device .zero)])),
      ("etc", .folder .nil),
      ("home", .folder .nil),
      ("lib", .link "usr/lib"),
      ("root", .directory 0o700 .nil),
      ("sbin", .link "usr/sbin"),
      ("tmp", .directory 0o1777 .nil),
      ("usr", .folder (.ofList
        [("bin", .folder programs), ("lib", .folder .nil),
          ("local", .folder (.ofList [("bin", .folder .nil), ("sbin", .folder .nil)])),
          ("sbin", .folder .nil)])),
      ("var", .folder (.ofList [("tmp", .directory 0o1777 .nil)]))]

/-- The users of a machine, with their numbers, their groups and what else is known of them. -/
def users : List (String × Nat × Nat × String) :=
  [("root", 0, 0, "root:/root:/bin/bash"),
    ("daemon", 1, 1, "daemon:/usr/sbin:/usr/sbin/nologin"),
    ("bin", 2, 2, "bin:/bin:/usr/sbin/nologin"), ("sys", 3, 3, "sys:/dev:/usr/sbin/nologin"),
    ("sync", 4, 65534, "sync:/bin:/bin/sync"),
    ("games", 5, 60, "games:/usr/games:/usr/sbin/nologin"),
    ("man", 6, 12, "man:/var/cache/man:/usr/sbin/nologin"),
    ("lp", 7, 7, "lp:/var/spool/lpd:/usr/sbin/nologin"),
    ("mail", 8, 8, "mail:/var/mail:/usr/sbin/nologin"),
    ("news", 9, 9, "news:/var/spool/news:/usr/sbin/nologin"),
    ("uucp", 10, 10, "uucp:/var/spool/uucp:/usr/sbin/nologin"),
    ("proxy", 13, 13, "proxy:/bin:/usr/sbin/nologin"),
    ("www-data", 33, 33, "www-data:/var/www:/usr/sbin/nologin"),
    ("backup", 34, 34, "backup:/var/backups:/usr/sbin/nologin"),
    ("list", 38, 38, "Mailing List Manager:/var/list:/usr/sbin/nologin"),
    ("irc", 39, 39, "ircd:/run/ircd:/usr/sbin/nologin"),
    ("_apt", 42, 65534, ":/nonexistent:/usr/sbin/nologin"),
    ("nobody", 65534, 65534, "nobody:/nonexistent:/usr/sbin/nologin")]

/-- The lines that tell of users. -/
def userLines : String :=
  String.join (users.map fun (name, number, group, rest) =>
    s!"{name}:x:{number}:{group}:{rest}\n")

/-- The files of a machine before anything is done, for a process that works at a location. -/
def files (workingDirectory : List String) : FileSystem :=
  (FileSystem.ofRoot root workingDirectory).addFile ["etc", "passwd"] (Utf8.encode userLines) 0o644

end Machine

end CallForest
