import Mend.Engine.Tools
import Mend.Shell.Program

/-!
# Running scripts

`run` is how the commands of a build or an analyzer run in a workspace: as a utility, or as a shell
with a script. Fuel bounds how deeply statements may stand in each other; a process that goes deeper
is killed, as one that has used up its stack.
-/

namespace Mend.Shell

open Fs (Disk Location Place)
open Posix (Glob Regular)
open Text

/-! ## Control -/

/-- Carries out a step again and again, each time with what the last one gave, until one gives
nothing. -/
def repeatFrom {α : Type} (step : α → Process → Except Halt (Option α) × Process) :
    Nat → α → Process → Except Halt Unit × Process
  | 0, _, p => (.error (.killed 9), p)
  | n + 1, a, p =>
    match step a p with
    | (.ok (some b), p) => repeatFrom step n b p
    | (.ok none, p) => (.ok (), p)
    | (.error h, p) => (.error h, p)

/-- How often a loop may turn. -/
def mostTurns : Nat := 1000000000

/-- Carries out a step until it gives nothing. -/
def repeating {α : Type} (start : α) (step : α → Act (Option α)) : Act Unit :=
  Action.ofFun (repeatFrom (fun a p => (step a).exec p) mostTurns start)

/-- Carries out an action whose outcome is looked at. -/
def asTest (act : Act Unit) : Act Unit := do
  let before := (← get).tested
  modify fun p => { p with tested := true }
  ensuring (modify fun p => { p with tested := before }) act

/-- Ends the process if a command has failed and nobody looks at its outcome. -/
def strictly : Act Unit := do
  let p ← get
  if p.options.strict && !p.tested && p.status ≠ 0 then halt (.exited p.status)

/-- One turn of a loop; tells whether the loop goes on. -/
def turn (act : Act Bool) : Act Bool := do
  modify fun p => { p with loops := p.loops + 1 }
  match ← ensuring (modify fun p => { p with loops := p.loops - 1 }) act.outcome with
  | .ok more => return more
  | .error (.broke n) => if n ≤ 1 then return false else halt (.broke (n - 1))
  | .error (.continued n) => if n ≤ 1 then return true else halt (.continued (n - 1))
  | .error h => halt h

/-- How an action ended as the whole of a process: with an exit code, or by a signal. -/
def ended (act : Act Unit) : Act (Except Nat Nat) := do
  match ← act.outcome with
  | .ok () => return .ok (← get).status
  | .error (.exited n) => return .ok n
  | .error (.returned n) => return .ok n
  | .error (.killed signal) => return .error signal
  | .error (.broke _) => return .ok (← get).status
  | .error (.continued _) => return .ok (← get).status

/-- Carries out an action as the whole of a process, and then what is to be done at its end. -/
def asProcess (evaluate : String → Act Unit) (act : Act Unit) : Act (Except Nat Nat) := do
  match ← ended act with
  | .error signal => return .error signal
  | .ok code =>
    match (← get).traps.lookup "EXIT" with
    | none => return .ok code
    | some action =>
      modify fun p => { p with
        traps := p.traps.filter fun t => t.1 ≠ "EXIT"
        status := code
        leaving := some code
        tested := false }
      match ← ended (do evaluate action; finish code) with
      | .ok n => return .ok n
      | .error signal => return .error signal

/-- Carries out an action on another process; only files and texts in memory outlast it. -/
def onCopy {α : Type} (enter : Process → Process) (act : Act α) : Act α := do
  let p ← get
  set (enter p)
  let before : Process := { p with disk := Disk.empty, buffers := #[] }
  ensuring (modify fun after => { before with disk := after.disk, buffers := after.buffers, now := after.now }) act

/-- Carries out an action as a process of the same shell, and gives its exit code. -/
def apart (evaluate : String → Act Unit) (act : Act Unit) : Act Nat := do
  match ← onCopy (fun p => { p with traps := p.traps.filter fun t => t.2.isEmpty }) (asProcess evaluate act) with
  | .ok code => return code % 256
  | .error signal => halt (.killed signal)

/-- The exit code that a shell notes for an ending. -/
def codeOfEnding : Except Nat Nat → Nat
  | .ok code => code % 256
  | .error signal => 128 + signal

/-- The exit code of a redirection that cannot be made. -/
def unredirected (d : Dialect) : Nat :=
  match d with
  | .plain => 2
  | .rich => 1

/-! ## Conditions -/

section

variable (run : Script → Act String)

/-- A condition of the richer dialect holds. -/
def holds : Condition → Act Bool
  | .word w => do return !(← wholeText run w).isEmpty
  | .not c => do return !(← holds c)
  | .both c d => do
    if ← holds c then holds d else return false
  | .either c d => do
    if ← holds c then return true else holds d
  | .unary op w => do
    let s ← wholeText run w
    return (unaryTest? (← get) op s).getD false
  | .binary op a b => do
    let s ← wholeText run a
    match op with
    | "=~" =>
      let pattern := patternOf (← glyphs run b)
      match Regular.parse true pattern with
      | some e =>
        let text := s.toList.toArray
        match e.find ⟨text, false⟩ 0 with
        | some m =>
          setVariable "BASH_REMATCH" (String.ofList (Regular.groupText text m.groups 0))
          return true
        | none => return false
      | none => return false
    | "<" => return s < (← wholeText run b)
    | ">" => return (← wholeText run b) < s
    | _ =>
      if op = "=" || op = "==" then return (← globOf run b).accepts false s.toList
      else if op = "!=" then return !(← globOf run b).accepts false s.toList
      else
        let t ← wholeText run b
        if ["-eq", "-ne", "-lt", "-le", "-gt", "-ge"].contains op then
          let m ← compute s
          let n ← compute t
          match binaryTest (← get) op (toString m) (toString n) with
          | .ok r => return r
          | .error _ => return false
        else match binaryTest (← get) op s t with
          | .ok r => return r
          | .error _ => return false

end

/-! ## Statements -/

/-- A word that sets a variable, as those of some commands do: they are not split. -/
def isSetting (d : Dialect) (w : Word) : Bool :=
  match w with
  | .text cs false :: _ => (settingName? d cs).isSome
  | _ => false

/-- The commands whose words may be settings. -/
def takesSettings (w : Word) : Bool :=
  match literal? w with
  | some (cs, _) => ["export", "readonly", "local", "declare", "typeset"].contains (String.ofList cs)
  | none => false

/-- A command that is part of the language, in the dialect that makes a difference of it. -/
def isPartOfLanguage (d : Dialect) (name : String) : Bool :=
  d = .plain && ((special? d name).isSome || [".", "eval", "exec"].contains name)

/-- What is part of the shell with a name, for those who ask. -/
def isOfShell (d : Dialect) (name : String) : Bool :=
  (special? d name).isSome || (internal? d name).isSome || [".", "eval", "exec", "command", "type", "kill"].contains name ||
    (d = .rich && ["source", "builtin"].contains name)

/-- Tells what names of commands lead to. -/
def describe (verbose : Bool) : Utility := fun words =>
  onEach words fun name => do
    let p ← get
    let tell (short long : String) : Act Nat := do
      sayLine (if verbose then name ++ " is " ++ long else short)
      return 0
    if closers.contains name || ["if", "for", "while", "until", "case", "!", "\x7b", "in"].contains name then
      tell name "a shell keyword"
    else if (special? p.dialect name).isSome then tell name "a special shell builtin"
    else if (p.functions.lookup name).isSome then tell name "a shell function"
    else if isOfShell p.dialect name then tell name "a shell builtin"
    else match p.pathOfProgram? name with
      | some path => tell path path
      | none =>
        match p.dialect with
        | .plain =>
          if verbose then sayLine (name ++ ": not found")
          return 127
        | .rich =>
          if verbose then complain name "not found"
          return 1

/-- The words for a failure to open a file. -/
def cannotOpen (path : String) (e : Fs.Error) : String := "cannot open " ++ path ++ ": " ++ e.words

/-- Makes a stream lead to what was opened, or tells why it was not. -/
def lead (stream : Nat) (path : String) (opened : Except Fs.Error Channel) : Act Bool := do
  match opened with
  | .ok c =>
    setChannel stream (some c)
    return true
  | .error e =>
    complain (← get).name (cannotOpen path e)
    return false

/-- Makes redirections. Those after one that cannot be made are left out. -/
def redirect (run : Script → Act String) : List Redirect → Act Bool
  | [] => return true
  | r :: rest => do
    let target (w : Word) : Act String := wholeText run w
    let both (path : String) (append : Bool) : Act Bool := do
      let opened ← openOut path append
      if ← lead 1 path opened then lead 2 path opened else return false
    let made : Bool ← match r with
      | .input stream w => do
        let path ← target w
        lead stream path (← openIn path)
      | .output stream w append clobber => do
        let path ← target w
        let p ← get
        let isFile := (p.node? path).isSome && !p.isDir path
        if p.options.keepFiles && !clobber && !append && isFile then lead stream path (.error .exists)
        else lead stream path (← openOut path append)
      | .outputs w append => do both (← target w) append
      | .copy stream w => do
        let other ← target w
        let p ← get
        if other = "-" then
          setChannel stream none
          pure true
        else match digitsValue? other with
          | some n =>
            match p.streams.lookup n with
            | some c =>
              setChannel stream (some c)
              pure true
            | none =>
              complain p.name (other ++ ": bad file descriptor")
              pure false
          | none => both other false
      | .document stream w => do
        let c ← newBuffer (textOf (← glyphs run w)) false
        setChannel stream (some c)
        pure true
    if made then redirect run rest else return false

/-- Sets variables as words of the script ask for. -/
def applySettings (run : Script → Act String) (forOthers : Bool) (settings : List Setting) : Act Unit :=
  settings.forM fun s => do
    match s with
    | .mk name append w =>
      let v ← wholeText run w
      let p ← get
      let old := if append then (p.value? name).getD "" else ""
      setVariable name (old ++ v)
      if forOthers then modify fun p => p.alter name fun v => { v with exported := true }

/-- Carries out an action with variables that are set only for it. -/
def withSettings (run : Script → Act String) (settings : List Setting) (act : Act Unit) : Act Unit := do
  if settings.isEmpty then act
  else
    let p ← get
    let old := settings.map fun (.mk name _ _) => (name, p.vars.lookup name)
    let restore (p : Process) : Process :=
      let others := p.vars.filter fun v => !(old.any fun o => o.1 = v.1)
      { p with vars := old.filterMap (fun o => o.2.map fun v => (o.1, v)) ++ others }
    ensuring (modify restore) do
      applySettings run true settings
      act

/-- Puts back the variables that a function has hidden. -/
def unhide (p : Process) : Process :=
  match p.hidden with
  | [] => p
  | scope :: outer =>
    let others := p.vars.filter fun v => (scope.lookup v.1).isNone
    { p with vars := scope.filterMap (fun o => o.2.map fun v => (o.1, v)) ++ others, hidden := outer }

/-- What a script prints as a value: without zero bytes and the line feeds at its end. -/
def valueOfOutput (s : String) : String :=
  String.ofList ((s.toList.reverse.dropWhile (· = '\n')).reverse.filter (· ≠ '\x00'))

/-- What a shell is started with. -/
structure Start where
  options : Options
  name : String
  arguments : List String
  /-- The script in the words; none if it is in a file or is read from the input. -/
  command : Option String
  file : Option String

/-- Reads the words that a shell is started with. -/
def Start.read (d : Dialect) (name : String) (words : List String) : Except String Start := do
  let i ← Invocation.read d "csli" none { options := {} } words
  let operands := i.operands.getD []
  if i.letters.contains 'c' then
    match operands with
    | script :: rest => return ⟨i.options, rest.headD name, rest.tail, some script, none⟩
    | [] => throw "-c requires an argument"
  else if i.letters.contains 's' then return ⟨i.options, name, operands, none, none⟩
  else match operands with
    | file :: rest => return ⟨i.options, file, rest, none, some file⟩
    | [] => return ⟨i.options, name, [], none, none⟩

/-- A shell that has just been started by a process. -/
def Start.process (s : Start) (d : Dialect) (p : Process) : Process :=
  { disk := p.disk
    here := p.here
    now := p.now
    dialect := d
    streams := p.streams
    buffers := p.buffers
    vars :=
      let own := [("IFS", " \t\n"), ("OPTIND", "1"), ("PWD", pathOf p.here)]
      own.map (fun (name, v) => (name, { value := some v, exported := name = "PWD" })) ++
        p.exported.filter fun v => !(own.any fun o => o.1 = v.1)
    name := s.name
    arguments := s.arguments
    options := s.options
    number := p.number + 1
    fatal := match d, s.command with
      | .plain, _ => 2
      | .rich, some _ => 127
      | .rich, none => 1 }

mutual

/-- Runs a statement. -/
def statement (fuel : Nat) (s : Statement) : Act Unit :=
  match fuel with
  | 0 => halt (.killed 11)
  | fuel + 1 =>
    let script (ss : Script) : Act Unit := ss.forM (statement fuel)
    let output := outputOf fuel
    match s with
    | .simple settings words redirects => do
      simple fuel settings words redirects
      strictly
    | .redirected body redirects => do
      let made ← withStreams (return ()) do
        let made ← redirect output redirects
        if made then statement fuel body
        return made
      if !made then
        finish (unredirected (← get).dialect)
        strictly
    | .pipe stages => do
      let last := stages.length - 1
      let (_, codes) ← stages.zipIdx.foldlM (fun (input, codes) (s, i) => do
        let out ← if i < last then do pure (some (← newBuffer "" false)) else pure none
        let connect : Act Unit := do
          if let some c := input then setChannel 0 (some c)
          if let some c := out then setChannel 1 (some c)
        let code ← withStreams connect (apart (evaluate fuel) (statement fuel s))
        return (out, code :: codes)) ((none : Option Channel), ([] : List Nat))
      let p ← get
      finish (if p.options.wholePipe then (codes.find? (· ≠ 0)).getD 0 else codes.headD 0)
      strictly
    | .negated body => do
      asTest (statement fuel body)
      modify fun p => { p with status := if p.status = 0 then 1 else 0 }
    | .both a b => do
      asTest (statement fuel a)
      if (← get).status = 0 then statement fuel b
    | .either a b => do
      asTest (statement fuel a)
      if (← get).status ≠ 0 then statement fuel b
    | .background body => do
      let code ← withStreams (setChannel 0 (some .nowhere)) (apart (evaluate fuel) (statement fuel body))
      modify fun p => { p with jobs := (p.number + 1 + p.jobs.length, code) :: p.jobs, status := 0 }
    | .block body => script body
    | .subshell body => do
      finish (← apart (evaluate fuel) (script body))
      strictly
    | .choose test yes no => do
      asTest (script test)
      if (← get).status = 0 then script yes
      else if no.isEmpty then finish 0
      else script no
    | .loop inverted test body =>
      repeating 0 fun last => do
        let more ← turn do
          asTest (script test)
          if ((← get).status = 0) == inverted then
            finish last
            return false
          else
            script body
            return true
        let p ← get
        return if more then some p.status else none
    | .each name words body => do
      let items ← match words with
        | some ws => expandWords output ws
        | none => do
          let p ← get
          pure p.arguments
      if items.isEmpty then finish 0
      repeating items fun items => do
        match items with
        | [] => return none
        | w :: rest =>
          setVariable name w
          let more ← turn do
            script body
            return true
          return if more then some rest else none
    | .select word branches => do
      let s ← wholeText output word
      let found ← branches.findSomeM? fun (.mk patterns body) => do
        let fits ← patterns.anyM fun w => return (← globOf output w).accepts false s.toList
        return if fits then some body else none
      match found with
      | some (s :: ss) => script (s :: ss)
      | _ => finish 0
    | .define name body => do
      modify fun p => { p with functions := (name, body) :: p.functions.filter fun f => f.1 ≠ name }
      finish 0
    | .compute e => do
      let n ← compute (textOf (← glyphs output e))
      finish (if n = 0 then 1 else 0)
      strictly
    | .condition c => do
      finish (if ← holds output c then 0 else 1)
      strictly
    | .count start test step body => do
      let value (w : Word) : Act Int := do
        let s := textOf (← glyphs output w)
        if (stripped s).isEmpty then return 1 else compute s
      let _ ← value start
      finish 0
      repeating () fun _ => do
        if (← value test) = 0 then return none
        else
          let more ← turn do
            script body
            return true
          if more then
            let _ ← value step
            return some ()
          else return none

/-- Runs a command that has only settings, words and redirections. -/
def simple (fuel : Nat) (settings : List Setting) (words : List Word) (redirects : List Redirect) : Act Unit :=
  match fuel with
  | 0 => halt (.killed 11)
  | fuel + 1 => do
    let output := outputOf fuel
    modify fun p => { p with inner := 0 }
    let d := (← get).dialect
    let ws ← match words with
      | [] => pure []
      | first :: rest =>
        if takesSettings first then do
          let more ← rest.mapM fun w =>
            if isSetting d w then do return [← wholeText output w] else expandWord output w
          pure ((← expandWord output first) ++ more.flatten)
        else expandWords output (first :: rest)
    match ws with
    | [] => do
      if ← withStreams (return ()) (redirect output redirects) then
        applySettings output false settings
        finish (← get).inner
      else finish (unredirected d)
    | name :: arguments =>
      let act : Act Unit := do
        if ← redirect output redirects then
          if isPartOfLanguage d name then do
            applySettings output false settings
            command fuel true name arguments
          else withSettings output settings (command fuel true name arguments)
        else if isPartOfLanguage d name then halt (.exited 2)
        else finish (unredirected d)
      if name = "exec" && arguments.isEmpty then act else withStreams (return ()) act

/-- Runs a command by its name; functions are passed over unless `functions` is set. -/
def command (fuel : Nat) (functions : Bool) (name : String) (arguments : List String) : Act Unit :=
  match fuel with
  | 0 => halt (.killed 11)
  | fuel + 1 => do
    let p ← get
    let noted (act : Act Nat) : Act Unit := do finish (← act)
    match special? p.dialect name, (if functions then p.functions.lookup name else none) with
    | some u, none => noted (u arguments)
    | _, some body => call fuel body arguments
    | none, none =>
      match p.dialect, name with
      | _, "eval" => evaluate fuel (String.intercalate " " arguments)
      | _, "." => sourced fuel arguments
      | .rich, "source" => sourced fuel arguments
      | _, "exec" =>
        match arguments with
        | [] => finish 0
        | words =>
          match ← launch fuel words with
          | some code =>
            modify fun p => { p with traps := [] }
            halt (.exited code)
          | none =>
            complain p.name (words.headD "" ++ ": not found")
            halt (.exited 127)
      | _, "command" =>
        match arguments.filter (· ≠ "-p") with
        | [] => finish 0
        | "-v" :: names => noted (describe false (if p.dialect = .plain then names.take 1 else names))
        | "-V" :: names => noted (describe true names)
        | "--" :: n :: args => command fuel false n args
        | n :: args => command fuel false n args
      | .rich, "builtin" =>
        match arguments with
        | [] => finish 0
        | n :: args => command fuel false n args
      | _, "type" => noted (describe true arguments)
      | _, "kill" => noted (kill fuel arguments)
      | .rich, "time" =>
        match arguments.filter (· ≠ "-p") with
        | [] => finish 0
        | n :: args => command fuel true n args
      | d, _ =>
        match internal? d name with
        | some u => noted (u arguments)
        | none =>
          match ← launch fuel (name :: arguments) with
          | some code => finish code
          | none =>
            complain p.name (name ++ ": not found")
            finish 127

/-- Runs a function. -/
def call (fuel : Nat) (body : Statement) (arguments : List String) : Act Unit :=
  match fuel with
  | 0 => halt (.killed 11)
  | fuel + 1 => do
    let p ← get
    let (outer, loops) := (p.arguments, p.loops)
    set { p with arguments := arguments, loops := 0, hidden := [] :: p.hidden }
    let leave (p : Process) : Process := { unhide p with arguments := outer, loops := loops }
    match ← ensuring (modify leave) (statement fuel body).outcome with
    | .ok () => return ()
    | .error (.returned code) => finish code
    | .error h => halt h

/-- Runs the script in a file as if it stood in the script that is running. -/
def sourced (fuel : Nat) (arguments : List String) : Act Unit :=
  match fuel with
  | 0 => halt (.killed 11)
  | fuel + 1 => do
    let p ← get
    match arguments with
    | [] => do finish (← refusedSpecial "." "filename argument required")
    | name :: args =>
      let path :=
        if name.toList.contains '/' || (p.dialect = .rich && (p.node? name).isSome) then some name
        else
          let dirs := ((p.value? "PATH").getD "").splitOn ":"
          (dirs.map fun d => inside (if d.isEmpty then "." else d) name).find? fun f => (p.node? f).isSome
      match ← (match path with
        | some f => readFile f
        | none => return .error .notFound) with
      | .error e => do finish (← refusedSpecial "." (cannotOpen name e))
      | .ok text =>
        let outer := p.arguments
        let inner := p.dialect = .rich && !args.isEmpty
        if inner then modify fun p => { p with arguments := args }
        let leave (p : Process) : Process := if inner then { p with arguments := outer } else p
        match ← ensuring (modify leave) (evaluate fuel text).outcome with
        | .ok () => return ()
        | .error (.returned code) => finish code
        | .error h => halt h

/-- Runs a text as a script, line by line. One without statements succeeds. -/
def evaluate (fuel : Nat) (text : String) : Act Unit :=
  match fuel with
  | 0 => halt (.killed 11)
  | fuel + 1 =>
    repeating (text.toList, true) fun (cs, first) => do
      let p ← get
      if p.options.readOnly then return none
      else match line? p.dialect cs with
        | none =>
          complain p.name "Syntax error"
          halt (.exited 2)
        | some ([], _) =>
          if first then finish 0
          return none
        | some (ss, rest) =>
          ss.forM (statement fuel)
          return some (rest, false)

/-- What a script prints, without the line feeds at its end. -/
def outputOf (fuel : Nat) (script : Script) : Act String :=
  match fuel with
  | 0 => halt (.killed 11)
  | fuel + 1 => do
    let c ← newBuffer "" false
    let body : Act Unit := do
      modify fun p => { p with tested := false }
      match script, (← get).dialect with
      | [.simple [] [] [.input 0 w]], .rich =>
        let path ← wholeText (outputOf fuel) w
        match ← readFile path with
        | .ok text =>
          say text
          finish 0
        | .error e =>
          complain (← get).name (cannotOpen path e)
          finish 1
      | ss, _ => ss.forM (statement fuel)
    let code ← withStreams (setChannel 1 (some c)) (apart (evaluate fuel) body)
    modify fun p => { p with inner := code }
    let text ← withStreams (setChannel 0 (some c)) (takeAll 0)
    return valueOfOutput text

/-- Sends signals. -/
def kill (fuel : Nat) (words : List String) : Act Nat :=
  match fuel with
  | 0 => halt (.killed 11)
  | fuel + 1 => do
    match Builtin.killArguments words with
    | .error e => refused "kill" e
    | .ok (none, numbers) =>
      if numbers.isEmpty then
        (Builtin.signals.drop 1).forM fun s => sayLine s.1
        return 0
      else onEach numbers fun n => do
        match digitsValue? n with
        | some k => sayLine (Builtin.signalName (k % 128))
        | none => sayLine (toString ((Builtin.signal? n).getD 0))
        return 0
    | .ok (some signal, targets) =>
      if targets.isEmpty then refused "kill" "No process"
      else onEach targets fun t => do
        let p ← get
        match decimal? t with
        | none =>
          let _ ← refused "kill" ("Illegal number: " ++ t)
          return 1
        | some n =>
          if n = p.number || n = 0 then
            match p.traps.lookup (Builtin.signalName signal), signal with
            | some action, s =>
              if s = 9 then halt (.killed 9)
              else
                let before := p.status
                evaluate fuel action
                finish before
                return 0
            | none, s => if Builtin.isHarmless s then return 0 else halt (.killed s)
          else if p.jobs.any fun j => (j.1 : Int) = n then return 0
          else
            complain "kill" "No such process"
            return 1

/-- Runs a shell, and gives how it ended. -/
def shell (fuel : Nat) (d : Dialect) (name : String) (words : List String) : Act (Except Nat Nat) :=
  match fuel with
  | 0 => halt (.killed 11)
  | fuel + 1 => do
    match Start.read d name words with
    | .error e =>
      complain name e
      return .ok 2
    | .ok s =>
      let source : Except Fs.Error String ← match s.command, s.file with
        | some text, _ => pure (.ok text)
        | none, some file => do
          if (← get).isDir file then pure (.error .isDirectory) else readFile file
        | none, none => do pure (.ok (← takeAll 0))
      match source with
      | .error e =>
        complain name (cannotOpen s.name e)
        return .ok (match d, e with
          | .plain, _ => 2
          | .rich, .notFound => 127
          | .rich, _ => 126)
      | .ok text => onCopy (s.process d) (asProcess (evaluate fuel) (evaluate fuel text))

/-- Runs a program in a process of its own; none if there is none with that name. -/
def launch (fuel : Nat) (words : List String) : Act (Option Nat) :=
  match fuel with
  | 0 => halt (.killed 11)
  | fuel + 1 => do
    match words with
    | [] => return none
    | name :: arguments =>
      let p ← get
      match p.program name with
      | .missing => return none
      | .refused =>
        complain p.name (name ++ ": Permission denied")
        return some 126
      | .file path text =>
        match interpreter? text with
        | some words => launch fuel (words ++ path :: arguments)
        | none => return some (codeOfEnding (← shell fuel p.dialect "sh" (path :: arguments)))
      | .installed n =>
        match shell? n, utility? n, launcher? (launch fuel) n with
        | some d, _, _ => return some (codeOfEnding (← shell fuel d n arguments))
        | none, some u, _ => return some (← u arguments)
        | none, none, some u => return some (← u arguments)
        | none, none, none => return some (← which arguments)

end

/-! ## Commands -/

/-- How deeply statements may stand in each other. -/
def deepest : Nat := 20000

/-- The variables that a command finds. -/
def environment (here : Location) : List (String × Variable) :=
  [("PATH", String.intercalate ":" systemPaths), ("HOME", "/root"), ("PWD", pathOf here)].map fun (name, v) =>
    (name, { value := some v, exported := true })

/-- How a process ends that runs a program by its name, or why there is no such process. -/
def started (fuel : Nat) (p : Process) (name : String) (arguments : List String) :
    Except Fs.Error (Act (Except Nat Nat)) :=
  let code (act : Act (Option Nat)) : Act (Except Nat Nat) := do return .ok ((← act).getD 127)
  match p.program name with
  | .missing => .error .notFound
  | .refused => .error .denied
  | .installed n =>
    match shell? n with
    | some d => .ok (shell fuel d n arguments)
    | none => .ok (code (launch fuel (name :: arguments)))
  | .file path text =>
    match interpreter? text with
    | none => .error .notProgram
    | some [] => .error .notProgram
    | some (i :: more) =>
      match p.program i with
      | .missing => .error .notFound
      | .refused => .error .denied
      | .file _ _ => .ok (code (launch fuel (name :: arguments)))
      | .installed n =>
        match shell? n with
        | some d => .ok (shell fuel d n (more ++ path :: arguments))
        | none => .ok (code (launch fuel (i :: more ++ path :: arguments)))

/-- Runs a command in a directory, without any input. -/
def run (now : Time) : Runner := fun c place disk =>
  if (c.program :: c.arguments).any fun w => w.contains '\x00' then .error .nulInCommand
  else match disk.locate place.location, disk.isDir place.location with
  | .ok here, true =>
    let printed : Channel := .buffer 0 false
    let p : Process :=
      { disk := disk, here := here, now := now, buffers := #[""], vars := environment here
        streams := [(0, .nowhere), (1, printed), (2, .nowhere)] }
    (started deepest p (Octets.ofText c.program) (c.arguments.map Octets.ofText)).map fun act =>
      let (r, p) := act.exec p
      let ending : Ending := match r with
        | .ok (.ok code) => .exited (code % 256)
        | .ok (.error _) => .signalled
        | .error (.exited code) => .exited (code % 256)
        | .error _ => .signalled
      ⟨ending, Octets.toBytes ((p.buffers[0]?).getD ""), p.disk⟩
  | _, _ => .error .notFound

end Mend.Shell
