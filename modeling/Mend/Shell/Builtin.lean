import Mend.Shell.Expansion

/-!
# Commands of the shell

The commands that change the shell itself: its directory, its variables and options, its arguments and
its control flow. Those that run other commands are found with the running of scripts.
-/

namespace Mend.Shell

/-- Complains of a command of the shell. -/
def refused (who what : String) : Act Nat := do
  complain who what
  return match (← get).dialect with
    | .plain => 2
    | .rich => 1

/-- Complains of a command that is part of the language; a plain shell ends. -/
def refusedSpecial (who what : String) : Act Nat := do
  let code ← refused who what
  match (← get).dialect with
  | .plain => halt (.exited code)
  | .rich => return code

/-- The number that digits spell. -/
def digitsValue? (s : String) : Option Nat :=
  if s.toList.all Char.isDigit then s.toNat? else none

/-- A name that a variable may have. -/
def isName (s : String) : Bool :=
  match s.toList with
  | c :: cs => !c.isDigit && (c :: cs).all isNameChar
  | [] => false

/-- A word as the name of a variable and the value that it is given. -/
def nameAndValue (w : String) : String × Option String :=
  let (name, rest) := w.toList.span (· ≠ '=')
  (String.ofList name, match rest with
    | _ :: v => some (String.ofList v)
    | [] => none)

/-! ## Options -/

namespace Options

/-- The options after one has been set or taken back, by its letter; none if there is no such option. -/
def with? (o : Options) (letter : Char) (value : Bool) : Option Options :=
  match letter with
  | 'a' => some { o with exportAll := value }
  | 'e' => some { o with strict := value }
  | 'f' => some { o with plainNames := value }
  | 'n' => some { o with readOnly := value }
  | 'u' => some { o with declared := value }
  | 'C' => some { o with keepFiles := value }
  | c => if "xvmbhIilE".toList.contains c then some o else none

/-- The options after one has been set or taken back, by its name. -/
def withNamed? (o : Options) (d : Dialect) (name : String) (value : Bool) : Option Options :=
  match name with
  | "allexport" => o.with? 'a' value
  | "errexit" => o.with? 'e' value
  | "noglob" => o.with? 'f' value
  | "noexec" => o.with? 'n' value
  | "nounset" => o.with? 'u' value
  | "noclobber" => o.with? 'C' value
  | "pipefail" => if d = .rich then some { o with wholePipe := value } else none
  | _ =>
    if ["xtrace", "verbose", "monitor", "notify", "ignoreeof", "interactive", "vi", "emacs", "nolog"].contains name then some o
    else if d = .rich && ["posix", "errtrace", "functrace", "hashall", "history", "physical"].contains name then some o
    else none

end Options

/-- The words that a shell is given, read up to the end of its options. -/
structure Invocation where
  options : Options
  /-- Letters that mean something only when a shell is started. -/
  letters : List Char := []
  /-- What follows the options; none if nothing does. -/
  operands : Option (List String) := none

namespace Invocation

/-- Reads the letters of one word, and tells whether a name follows. -/
def cluster (extra : String) (value : Bool) : Invocation → List Char → Except Char (Invocation × Bool)
  | i, [] => .ok (i, false)
  | i, 'o' :: cs => (cluster extra value i cs).map fun (i, _) => (i, true)
  | i, c :: cs =>
    if extra.toList.contains c then cluster extra value { i with letters := c :: i.letters } cs
    else match i.options.with? c value with
      | some o => cluster extra value { i with options := o } cs
      | none => .error c

/-- Reads words; `named` tells that the next one is the name of an option, which is set or taken back. -/
def read (d : Dialect) (extra : String) : Option Bool → Invocation → List String → Except String Invocation
  | _, i, [] => .ok i
  | some value, i, w :: rest =>
    match i.options.withNamed? d w value with
    | some o => read d extra none { i with options := o } rest
    | none => .error ("Illegal option -o " ++ w)
  | none, i, w :: rest =>
    match w.toList with
    | ['-', '-'] => .ok { i with operands := some rest }
    | ['-'] => .ok { i with operands := if rest.isEmpty then none else some rest }
    | '-' :: '-' :: _ =>
      if d = .rich && !extra.isEmpty then read d extra none i rest else .error ("Illegal option --")
    | sign :: c :: cs =>
      if sign = '-' || sign = '+' then
        match cluster extra (sign = '-') i (c :: cs) with
        | .ok (i, true) => read d extra (some (sign = '-')) i rest
        | .ok (i, false) => read d extra none i rest
        | .error c => .error ("Illegal option -" ++ c.toString)
      else .ok { i with operands := some (w :: rest) }
    | _ => .ok { i with operands := some (w :: rest) }

end Invocation

namespace Builtin

/-- A text between single quotes. -/
def quotedValue (s : String) : String :=
  "'" ++ String.join (s.toList.map fun c => if c = '\'' then "'\\''" else c.toString) ++ "'"

/-- The variables that have a property, in the order of their names. -/
def sorted (p : Process) (holds : Variable → Bool) : List (String × Variable) :=
  (p.vars.filter fun v => holds v.2).mergeSort fun a b => decide (a.1 ≤ b.1)

/-- Sets options and arguments, or prints the variables. -/
def set_ : Utility := fun words => do
  let p ← get
  if words.isEmpty then
    for (name, v) in sorted p (·.value.isSome) do
      sayLine (name ++ "=" ++ quotedValue (v.value.getD ""))
    return 0
  else if words = ["-o"] || words = ["+o"] then return 0
  else match Invocation.read p.dialect "" none { options := p.options } words with
    | .ok i =>
      set { p with options := i.options, arguments := i.operands.getD p.arguments }
      return 0
    | .error e => refusedSpecial "set" e

/-- Drops arguments. -/
def shift : Utility := fun words => do
  let p ← get
  match digitsValue? (words.headD "1") with
  | none => refusedSpecial "shift" ("Illegal number: " ++ words.headD "")
  | some n =>
    if p.arguments.length < n then
      match p.dialect with
      | .plain => refusedSpecial "shift" "can't shift that many"
      | .rich => return 1
    else
      set { p with arguments := p.arguments.drop n }
      return 0

/-- Goes to another directory. -/
def cd : Utility := fun words => do
  let words := words.filter fun w => w ≠ "-L" && w ≠ "-P" && w ≠ "--"
  let p ← get
  let goal := match words with
    | [] => p.value? "HOME"
    | "-" :: _ => p.value? "OLDPWD"
    | w :: _ => some w
  match goal with
  | none => refused "cd" "no directory"
  | some "" => return 0
  | some dir =>
    match p.disk.locate (p.locate dir), p.isDir dir with
    | .ok l, true =>
      set { (p.assign "OLDPWD" (pathOf p.here)).assign "PWD" (pathOf l) with here := l }
      if words.head? = some "-" then sayLine (pathOf l)
      return 0
    | _, _ => refused "cd" ("can't cd to " ++ dir)

/-- Prints the directory. -/
def pwd : Utility := fun _ => do
  sayLine (pathOf (← get).here)
  return 0

/-- Marks variables, and sets those that are given a value. -/
def marking (who : String) (mark : Variable → Variable) (marked : Variable → Bool) : Utility := fun words => do
  let names := words.filter fun w => !startsWith "-" w
  if names.isEmpty then
    for (name, v) in sorted (← get) marked do
      sayLine (who ++ " " ++ name ++ (match v.value with
        | some s => "=" ++ quotedValue s
        | none => ""))
    return 0
  else onEach names fun w => do
    let (name, value) := nameAndValue w
    if !isName name then refusedSpecial who (name ++ ": bad variable name")
    else
      if let some v := value then setVariable name v
      modify fun p => p.alter name mark
      return 0

/-- Makes variables visible for other programs. -/
def «export» : Utility := fun words => do
  let on := !words.contains "-n"
  marking "export" (fun v => { v with exported := on }) (·.exported) words

/-- Makes variables keep their values. -/
def readonly : Utility := marking "readonly" (fun v => { v with fixed := true }) (·.fixed)

/-- Removes variables or functions. -/
def unset : Utility := fun words => do
  let ofFunctions := words.contains "-f"
  onEach (words.filter fun w => !startsWith "-" w) fun name => do
    let p ← get
    if ofFunctions then
      set { p with functions := p.functions.filter fun f => f.1 ≠ name }
      return 0
    else if !isName name then refusedSpecial "unset" (name ++ ": bad variable name")
    else if ((p.vars.lookup name).map (·.fixed)).getD false then refusedSpecial "unset" (name ++ ": is read only")
    else
      let both := (p.vars.lookup name).isNone && p.dialect = .rich
      set { p with
        vars := p.vars.filter fun v => v.1 ≠ name
        functions := p.functions.filter fun f => !both || f.1 ≠ name }
      return 0

/-- Hides variables until the function ends. -/
def hide (names : List String) : Act Unit :=
  modify fun p =>
    match p.hidden with
    | scope :: outer =>
      let new := names.filter fun n => (scope.lookup n).isNone
      { p with hidden := (new.map (fun n => (n, p.vars.lookup n)) ++ scope) :: outer }
    | [] => p

/-- Sets variables that are part of the function that is running. -/
def setLocals (who : String) (mark : Variable → Variable) (words : List String) : Act Nat :=
  onEach words fun w => do
    let (name, value) := nameAndValue w
    if !isName name then refusedSpecial who (name ++ ": bad variable name")
    else
      let isNew := match (← get).hidden with
        | scope :: _ => (scope.lookup name).isNone
        | [] => false
      hide [name]
      match value with
      | some v => setVariable name v
      | none => modify fun (p : Process) =>
        if isNew && p.dialect = Dialect.rich then p.alter name fun v => { v with value := none } else p
      modify fun p => p.alter name mark
      return 0

/-- Makes variables that last until the function ends. -/
def «local» : Utility := fun words => do
  if (← get).hidden.isEmpty then refusedSpecial "local" "not in a function"
  else
    let exported := words.any fun w => startsWith "-" w && w.toList.contains 'x'
    setLocals "local" (fun v => { v with exported := v.exported || exported }) (words.filter fun w => !startsWith "-" w)

/-- Sets variables with marks, for the function that is running if there is one. -/
def declare : Utility := fun words => do
  let letters := (words.filter (startsWith "-")).flatMap String.toList
  let mark (v : Variable) : Variable :=
    { v with exported := v.exported || letters.contains 'x', fixed := v.fixed || letters.contains 'r' }
  let names := words.filter fun w => !startsWith "-" w && !startsWith "+" w
  if (← get).hidden.isEmpty || letters.contains 'g' then
    onEach names fun w => do
      let (name, value) := nameAndValue w
      if let some v := value then setVariable name v
      modify fun p => p.alter name mark
      return 0
  else setLocals "declare" mark names

/-! ## Reading lines -/

/-- The glyphs of a line of input, whose backslashes quote unless it is `raw`. -/
def lineGlyphs (raw : Bool) : List Char → List Glyph
  | [] => []
  | ['\\'] => if raw then [.value '\\'] else []
  | '\\' :: c :: r => if raw then .value '\\' :: lineGlyphs raw (c :: r) else .quoted c :: lineGlyphs raw r
  | c :: r => .value c :: lineGlyphs raw r

/-- A line goes on after its end: it ends with a backslash that quotes. -/
def goesOn (line : List Char) : Bool := (line.reverse.takeWhile (· = '\\')).length % 2 = 1

/-- Takes a line from a stream, with those that it goes on over, and tells whether its end was there. -/
def takeInput (raw : Bool) : Nat → Act (List Char × Bool)
  | 0 => return ([], false)
  | fuel + 1 => do
    let line := (← takeLine 0).toList
    let text := chomp line
    if text.length = line.length then return (text, false)
    else if !raw && goesOn text then
      let (more, ended) ← takeInput raw fuel
      return (text.dropLast ++ more, ended)
    else return (text, true)

/-- A separator that is white space. -/
def isSoft (separators : String) (g : Glyph) : Bool :=
  match separator? separators g with
  | some c => c = ' ' || c = '\t' || c = '\n'
  | none => false

/-- The values that names take from glyphs; the last name takes all that is left. -/
def shares (separators : String) : List String → List Glyph → List (String × String)
  | [], _ => []
  | [name], gs =>
    let gs := gs.dropWhile (isSoft separators)
    let whole := match fields separators gs with
      | [] => []
      | [f] => f
      | _ => (gs.reverse.dropWhile (isSoft separators)).reverse
    [(name, textOf whole)]
  | name :: names, gs =>
    let gs := gs.dropWhile (isSoft separators)
    let (field, rest) := gs.span fun g => (separator? separators g).isNone
    let rest := rest.dropWhile (isSoft separators)
    let rest := match rest with
      | g :: r => if (separator? separators g).isSome && (field.length + 1 + r.length = gs.length || !isSoft separators g)
        then r else rest
      | [] => []
    (name, textOf field) :: shares separators names rest

/-- Sets variables to the fields of a line. -/
def read : Utility := fun words => do
  match ({ letters := "rse", valued := "pdntuNa", early := true } : Known).read words with
  | .error e => refused "read" e
  | .ok g =>
    let raw := g.has 'r'
    let (line, ended) ← takeInput raw 100000
    let p ← get
    let values := match g.operands with
      | [] => [("REPLY", textOf (lineGlyphs raw line))]
      | names => shares p.separators names (lineGlyphs raw line)
    values.forM fun (name, v) => setVariable name v
    return if ended then 0 else 1

/-! ## Options of a script -/

/-- Reads the next option of a script. -/
def getopts : Utility := fun words => do
  match words with
  | known :: name :: rest =>
    let p ← get
    let args := if rest.isEmpty then p.arguments else rest
    let i := ((p.value? "OPTIND").bind digitsValue?).getD 1
    let silent := startsWith ":" known
    let w := ((args[i - 1]?).getD "").toList
    let place := if p.seen = 0 then 1 else p.seen
    let after (seen next : Nat) : Act Unit := do
      modify fun p => { p with seen := seen }
      setVariable "OPTIND" (toString next)
    let give (result : String) (argument : Option String) : Act Nat := do
      setVariable name result
      match argument with
      | some a => setVariable "OPTARG" a
      | none => modify fun p => { p with vars := p.vars.filter fun v => v.1 ≠ "OPTARG" }
      return 0
    let done (next : Nat) : Act Nat := do
      after 0 next
      let _ ← give "?" none
      return 1
    if p.seen = 0 && w = ['-', '-'] then done (i + 1)
    else match w, w.drop place with
      | '-' :: _ :: _, c :: more =>
        let stay : Act Unit := if more.isEmpty then after 0 (i + 1) else after (place + 1) i
        match (known.toList.dropWhile (· ≠ c)).drop 1 with
        | ':' :: _ =>
          if !more.isEmpty then
            after 0 (i + 1)
            give c.toString (some (String.ofList more))
          else match args[i]? with
            | some a =>
              after 0 (i + 2)
              give c.toString (some a)
            | none =>
              after 0 (i + 1)
              if silent then give ":" (some c.toString)
              else
                complain p.name ("No arg for -" ++ c.toString ++ " option")
                give "?" none
        | _ =>
          stay
          if c ≠ ':' && known.toList.contains c then give c.toString none
          else if silent then give "?" (some c.toString)
          else
            complain p.name ("Illegal option -" ++ c.toString)
            give "?" none
      | _, _ => done i
  | _ => refused "getopts" "Usage: getopts optstring var [arg]"

/-! ## Control flow -/

/-- The exit code that a word asks for. -/
def codeOf (who : String) (words : List String) (default : Nat) : Act Nat := do
  let p ← get
  match words with
  | [] => return default
  | w :: _ =>
    match p.dialect, digitsValue? w, decimal? w with
    | _, some n, _ => return n
    | .rich, _, some n => return (n % 256).toNat
    | _, _, _ =>
      complain who ("Illegal number: " ++ w)
      halt (.exited 2)

/-- Ends the shell. -/
def exit : Utility := fun words => do
  let p ← get
  halt (.exited ((← codeOf "exit" words (p.leaving.getD p.status)) % 256))

/-- Leaves a function or a script. -/
def «return» : Utility := fun words => do
  let p ← get
  let code ← codeOf "return" words p.status
  halt (.returned (match p.dialect with
    | .plain => code
    | .rich => code % 256))

/-- Leaves loops, or goes on with them. -/
def leave (who : String) (jump : Nat → Halt) : Utility := fun words => do
  let p ← get
  match digitsValue? (words.headD "1") with
  | some (n + 1) =>
    if p.loops = 0 then return 0
    else
      finish 0
      halt (jump (min (n + 1) p.loops))
  | _ => refusedSpecial who ("Illegal number: " ++ words.headD "")

/-! ## Signals -/

/-- The signals with their numbers. -/
def signals : List (String × Nat) :=
  [("EXIT", 0), ("HUP", 1), ("INT", 2), ("QUIT", 3), ("ILL", 4), ("TRAP", 5), ("ABRT", 6), ("BUS", 7), ("FPE", 8),
    ("KILL", 9), ("USR1", 10), ("SEGV", 11), ("USR2", 12), ("PIPE", 13), ("ALRM", 14), ("TERM", 15), ("STKFLT", 16),
    ("CHLD", 17), ("CONT", 18), ("STOP", 19), ("TSTP", 20), ("TTIN", 21), ("TTOU", 22), ("URG", 23), ("XCPU", 24),
    ("XFSZ", 25), ("VTALRM", 26), ("PROF", 27), ("WINCH", 28), ("IO", 29), ("PWR", 30), ("SYS", 31)]

/-- The number of a signal that is given by its name or its number. -/
def signal? (s : String) : Option Nat :=
  match digitsValue? s with
  | some n => if n < 65 then some n else none
  | none =>
    let name := s.toUpper
    signals.lookup (if startsWith "SIG" name then String.ofList (name.toList.drop 3) else name)

/-- The name of a signal. -/
def signalName (n : Nat) : String := ((signals.find? fun s => s.2 = n).map (·.1)).getD (toString n)

/-- Signals that do nothing if nothing is to be done on them. -/
def isHarmless (n : Nat) : Bool := n = 0 || n = 17 || n = 18 || n = 23 || n = 28

/-- Says what is to be done on signals and at the end. -/
def trap : Utility := fun words => do
  let words := match words with
    | "--" :: rest => rest
    | ws => ws
  let mark (action : Option String) (names : List String) : Act Nat :=
    onEach names fun w => do
      match signal? w with
      | none =>
        if (← get).dialect = .rich && ["ERR", "DEBUG", "RETURN"].contains w then return 0
        else refusedSpecial "trap" (w ++ ": bad trap")
      | some n =>
        let key := signalName n
        modify fun p =>
          let others := p.traps.filter fun t => t.1 ≠ key
          { p with traps := match action with
            | some a => (key, a) :: others
            | none => others }
        return 0
  match words with
  | [] =>
    for (name, action) in (← get).traps.reverse do
      sayLine ("trap -- " ++ quotedValue action ++ " " ++ name)
    return 0
  | "-" :: names => mark none names
  | w :: names => if names.isEmpty || (digitsValue? w).isSome then mark none words else mark (some w) names

/-- The signal and the processes that the words of a command name; no signal if names are asked for. -/
def killArguments (words : List String) : Except String (Option Nat × List String) :=
  match words with
  | "-l" :: rest => .ok (none, rest)
  | "-s" :: s :: rest =>
    match signal? s with
    | some n => .ok (some n, rest)
    | none => .error ("invalid signal number or name: " ++ s)
  | "--" :: rest => .ok (some 15, rest)
  | w :: rest =>
    match w.toList with
    | '-' :: cs =>
      match signal? (String.ofList cs) with
      | some n => .ok (some n, rest)
      | none => .error ("invalid signal number or name: " ++ String.ofList cs)
    | _ => .ok (some 15, w :: rest)
  | [] => .error "Usage: kill [-s sigspec | -signum | -sigspec] [pid | job]..."

/-- Waits for commands in the background, which have ended. -/
def wait : Utility := fun words => do
  let p ← get
  match words.getLast? with
  | none => return 0
  | some w =>
    match digitsValue? w with
    | some n => return (p.jobs.lookup n).getD 127
    | none => return 2

/-- Computes expressions; succeeds if the last one is not zero. -/
def «let» : Utility := fun words => do
  let last ← words.foldlM (fun _ w => compute w) (0 : Int)
  return if last = 0 then 1 else 0

/-- Prints or sets the permissions that new files do not have. -/
def umask : Utility := fun words => do
  if words.isEmpty then sayLine "0022"
  else if words = ["-S"] then sayLine "u=rwx,g=rx,o=rx"
  return 0

/-- Does nothing, and well. -/
def nothing : Utility := fun _ => return 0

end Builtin

/-- The commands that are part of the language: a plain shell ends if one of them is misused, and
variables that are set for them stay set. -/
def special? (d : Dialect) (name : String) : Option Utility :=
  match name with
  | ":" => some Builtin.nothing
  | "break" => some (Builtin.leave "break" .broke)
  | "continue" => some (Builtin.leave "continue" .continued)
  | "exit" => some Builtin.exit
  | "export" => some Builtin.export
  | "readonly" => some Builtin.readonly
  | "return" => some Builtin.return
  | "set" => some Builtin.set_
  | "shift" => some Builtin.shift
  | "trap" => some Builtin.trap
  | "unset" => some Builtin.unset
  | "local" => some Builtin.local
  | "times" => some (fixedLine "0m0.00s 0m0.00s\n0m0.00s 0m0.00s")
  | "declare" => if d = .rich then some Builtin.declare else none
  | "typeset" => if d = .rich then some Builtin.declare else none
  | _ => none

/-- The other commands of the shell that run nothing. -/
def regular? (d : Dialect) (name : String) : Option Utility :=
  match name with
  | "cd" => some Builtin.cd
  | "pwd" => some Builtin.pwd
  | "read" => some Builtin.read
  | "getopts" => some Builtin.getopts
  | "umask" => some Builtin.umask
  | "wait" => some Builtin.wait
  | "hash" => some Builtin.nothing
  | "alias" => some Builtin.nothing
  | "unalias" => some Builtin.nothing
  | "ulimit" => some (fixedLine "unlimited")
  | "jobs" => some Builtin.nothing
  | "fg" => some fun _ => refused "fg" "No current job"
  | "bg" => some fun _ => refused "bg" "No current job"
  | "let" => if d = .rich then some Builtin.let else none
  | "shopt" => if d = .rich then some Builtin.nothing else none
  | "disown" => if d = .rich then some Builtin.nothing else none
  | _ => none

end Mend.Shell
