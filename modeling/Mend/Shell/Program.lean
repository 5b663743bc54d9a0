import Mend.Shell.Awk.Run
import Mend.Shell.Builtin
import Mend.Shell.Utility.Column
import Mend.Shell.Utility.Compare
import Mend.Shell.Utility.Edit
import Mend.Shell.Utility.Find
import Mend.Shell.Utility.Line
import Mend.Shell.Utility.Search
import Mend.Shell.Utility.Sort
import Mend.Shell.Utility.Sum
import Mend.Shell.Utility.Test

/-!
# Programs

What the name of a command leads to: a utility, a shell, or a file that may be run.
-/

namespace Mend.Shell

open Text

/-! ## Commands that run others -/

/-- The exit code of a command that is run for another; one that is not there has the code 127. -/
def launched (who : String) (launch : Launcher) (words : List String) : Act Nat := do
  match ← launch words with
  | some code => return code
  | none =>
    complain who (quotedPath (words.headD "") ++ ": " ++ Fs.Error.notFound.words)
    return 127

/-- Runs a command with other variables, or prints those that programs see. -/
def env (launch : Launcher) : Utility :=
  withOptions "env"
    { letters := "i0v", valued := "uCS", early := true,
      long := [("ignore-environment", 'i'), ("unset", 'u'), ("null", '0'), ("chdir", 'C'), ("split-string", 'S')] }
    125 fun g => do
    let before := (← get).vars
    let (settings, command) := g.operands.span fun w => w.toList.contains '='
    let (empty, command) := match command with
      | "-" :: rest => (true, rest)
      | ws => (g.has 'i', ws)
    modify fun p =>
      let kept := p.vars.filter fun v => !empty && !(g.values 'u').contains v.1
      let p := { p with vars := kept }
      settings.foldl (fun p w =>
        let (name, value) := nameAndValue w
        p.alter name fun _ => { value := some (value.getD ""), exported := true }) p
    let split := (g.values 'S').flatMap fun s => (quotedWords s.toList).getD []
    ensuring (modify fun p => { p with vars := before }) do
      match split ++ command with
      | [] =>
        for (name, v) in (← get).exported.reverse do
          say (name ++ "=" ++ v.value.getD "" ++ (if g.has '0' then "\x00" else "\n"))
        return 0
      | words => launched "env" launch words

/-- Prints variables that programs see. -/
def printenv : Utility := fun words => do
  let p ← get
  if words.isEmpty then
    for (name, v) in p.exported.reverse do
      sayLine (name ++ "=" ++ v.value.getD "")
    return 0
  else onEach words fun w => do
    match (p.exported.lookup w).bind (·.value) with
    | some v =>
      sayLine v
      return 0
    | none => return 1

/-- Runs a command and takes no notice of a limit of time. -/
def timeout (launch : Launcher) : Utility :=
  withOptions "timeout" { letters := "v", valued := "ks", early := true, long := [("signal", 's'), ("kill-after", 'k')] } 125
    fun g =>
    match g.operands with
    | limit :: command =>
      match duration? limit, command with
      | some _, _ :: _ => launched "timeout" launch command
      | none, _ => misuse "timeout" 125 ("invalid time interval " ++ quotedPath limit)
      | _, [] => misuse "timeout" 125 "missing operand"
    | [] => misuse "timeout" 125 "missing operand"

/-- Runs a command after options that make no difference. -/
def plainLauncher (who : String) (known : Known) (launch : Launcher) : Utility :=
  withOptions who known 125 fun g =>
    match g.operands with
    | [] => misuse who 125 "missing operand"
    | words => launched who launch words

/-- The commands that run other commands. -/
def launcher? (launch : Launcher) (name : String) : Option Utility :=
  match name with
  | "env" => some (env launch)
  | "find" => some (find launch)
  | "xargs" => some (xargs launch)
  | "awk" => some (Awk.utility launch)
  | "mawk" => some (Awk.utility launch)
  | "timeout" => some (timeout launch)
  | "nice" => some (plainLauncher "nice" { valued := "n", early := true } launch)
  | "nohup" => some (plainLauncher "nohup" { early := true } launch)
  | "setsid" => some (plainLauncher "setsid" { letters := "cfw", early := true } launch)
  | "stdbuf" => some (plainLauncher "stdbuf" { valued := "ioe", early := true } launch)
  | "ionice" => some (plainLauncher "ionice" { letters := "t", valued := "cn", early := true } launch)
  | _ => none

/-! ## Utilities by name -/

/-- The utilities that run nothing else. -/
def utility? (name : String) : Option Utility :=
  match name with
  | "true" => some fun _ => return 0
  | "false" => some fun _ => return 1
  | "echo" => some echo
  | "printf" => some (printf true)
  | "date" => some date
  | "sleep" => some sleep
  | "seq" => some seq
  | "yes" => some yes
  | "basename" => some basename
  | "dirname" => some dirname
  | "uname" => some uname
  | "arch" => some (fixedLine "x86_64")
  | "whoami" => some (fixedLine "root")
  | "logname" => some (fixedLine "root")
  | "groups" => some (fixedLine "root")
  | "hostname" => some (fixedLine "localhost")
  | "nproc" => some (fixedLine "1")
  | "id" => some identify
  | "tty" => some fun _ => do
    sayLine "not a tty"
    return 1
  | "sync" => some Builtin.nothing
  | "pwd" => some Builtin.pwd
  | "printenv" => some printenv
  | "cat" => some cat
  | "tee" => some tee
  | "tac" => some tac
  | "rev" => some rev
  | "nl" => some nl
  | "fold" => some fold
  | "expand" => some expandTabs
  | "head" => some head
  | "tail" => some tail
  | "wc" => some wc
  | "paste" => some paste
  | "comm" => some comm
  | "sort" => some sort
  | "uniq" => some uniq
  | "cut" => some cut
  | "tr" => some tr
  | "touch" => some touch
  | "mkdir" => some mkdir
  | "rmdir" => some rmdir
  | "rm" => some rm
  | "unlink" => some unlink
  | "truncate" => some truncate
  | "mktemp" => some mktemp
  | "chmod" => some chmod
  | "chown" => some Builtin.nothing
  | "chgrp" => some Builtin.nothing
  | "cp" => some cp
  | "mv" => some mv
  | "ln" => some ln
  | "link" => some ln
  | "ls" => some ls
  | "dir" => some ls
  | "stat" => some stat
  | "realpath" => some (realpath "realpath")
  | "readlink" => some (realpath "readlink")
  | "cmp" => some cmp
  | "diff" => some diff
  | "test" => some test
  | "[" => some bracketTest
  | "expr" => some expr
  | "grep" => some (grep none)
  | "egrep" => some (grep (some 'E'))
  | "fgrep" => some (grep (some 'F'))
  | "sed" => some Edit.utility
  | "sha256sum" => some sha256sum
  | "base64" => some base64
  | "od" => some od
  | _ => none

/-- The utilities that a shell has in itself. -/
def internal? (d : Dialect) (name : String) : Option Utility :=
  match d, name with
  | .plain, "echo" => some plainEcho
  | .plain, "printf" => some (printf false)
  | .rich, "echo" => some echo
  | .rich, "printf" => some (printf true)
  | _, _ =>
    match regular? d name with
    | some u => some u
    | none => if ["true", "false", "test", "["].contains name then utility? name else none

/-- The dialect of the shell with a name. -/
def shell? (name : String) : Option Dialect :=
  match name with
  | "sh" => some .plain
  | "dash" => some .plain
  | "bash" => some .rich
  | "rbash" => some .rich
  | _ => none

/-! ## Names of programs -/

/-- What the name of a command leads to. -/
inductive Program where
  | missing
  /-- A directory, or a file that may not be run. -/
  | refused
  /-- A program that every system has. -/
  | installed (name : String)
  /-- A file that may be run. -/
  | file (path text : String)

/-- Where the programs that every system has are found. -/
def systemPaths : List String :=
  ["/usr/local/sbin", "/usr/local/bin", "/usr/sbin", "/usr/bin", "/sbin", "/bin"]

namespace Process

/-- There is a program with a name on every system. -/
def isInstalled (name : String) : Bool :=
  (utility? name).isSome || (shell? name).isSome || (launcher? (fun _ => return none) name).isSome || name = "which"

/-- What a file leads to. -/
def programAt (p : Process) (path : String) : Program :=
  let (dir, name) := (dirOf path, baseOf path)
  match p.node? path with
  | some .dir => .refused
  | some (.file content mode) => if mode &&& 0o111 ≠ 0 then .file path (Octets.ofBytes content) else .refused
  | none => if systemPaths.contains dir && isInstalled name then .installed name else .missing

/-- What a name leads to, which is looked up in the directories of the search path if it has no slash. -/
def program (p : Process) (name : String) : Program :=
  if name.isEmpty then .missing
  else if name.toList.contains '/' then p.programAt name
  else
    let dirs := match p.value? "PATH" with
      | some path => path.splitOn ":"
      | none => systemPaths
    let found := dirs.map fun dir => p.programAt (inside (if dir.isEmpty then "." else dir) name)
    match found.find? fun f => f matches .installed _ || f matches .file _ _ with
    | some f => f
    | none => if found.any fun f => f matches .refused then .refused else .missing

/-- The path of a program. -/
def pathOfProgram? (p : Process) (name : String) : Option String :=
  match p.program name with
  | .installed n => some (if name.toList.contains '/' then name else "/usr/bin/" ++ n)
  | .file path _ => some path
  | _ => none

end Process

/-- Prints the paths of programs. -/
def which : Utility := fun words => do
  let p ← get
  let names := words.filter fun w => w ≠ "-a" && w ≠ "-s"
  if names.isEmpty then return 1
  else onEach names fun n => do
    match p.pathOfProgram? n with
    | some path =>
      sayLine path
      return 0
    | none => return 1

/-- The interpreter that the first line of a script names, with its argument. -/
def interpreter? (text : String) : Option (List String) :=
  match text.toList with
  | '#' :: '!' :: r =>
    let line := r.takeWhile (· ≠ '\n')
    let (name, rest) := (line.dropWhile isBlank).span fun c => !isBlank c
    let argument := ((rest.dropWhile isBlank).reverse.dropWhile isBlank).reverse
    if name.isEmpty then none
    else some (String.ofList name :: (if argument.isEmpty then [] else [String.ofList argument]))
  | _ => none

end Mend.Shell
