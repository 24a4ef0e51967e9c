import FleetControl.Engine.Child
import FleetControl.Keyed

/-!
# Shell scripts

Enough of a shell to rehearse scripts that stand in for an engine: simple commands, joined by
semicolons, line ends, `&&` and `||`, with quotes, parameters and redirections. Standard input is
empty. A script that uses anything else is not read.
-/

namespace FleetControl.Simulation.Shell

open FleetControl.Engine FleetControl.Number

/-- A piece of a word. What stands in quotes is not split into fields. -/
inductive Piece where
  | text (chars : List Char) (quoted : Bool)
  | parameter (name : String) (quoted : Bool)
deriving DecidableEq, Repr

/-- A word before its parameters are filled in. -/
abbrev Word := List Piece

/-- What a line is made of. -/
inductive Token where
  | word (word : Word)
  /-- The end of a command, or what joins two commands. -/
  | joint (sign : String)
  /-- A redirection of one of the streams. -/
  | redirect (stream : Nat) (sign : String)
deriving DecidableEq, Repr

/-- Characters that end a word. -/
def endsWord (c : Char) : Bool :=
  c = ' ' || c = '\t' || c = '\n' || c = ';' || c = '&' || c = '|' || c = '<' || c = '>' ||
    c = '(' || c = ')'

/-- Characters of a parameter's name. -/
def isNameChar (c : Char) : Bool := c.isAlphanum || c = '_'

/-- Reads the parameter after a dollar sign, and gives the rest. -/
def scanParameter : List Char → Option (String × List Char)
  | '\x7b' :: rest =>
      match rest.dropWhile (· ≠ '\x7d') with
      | _ :: after => some (String.ofList (rest.takeWhile (· ≠ '\x7d')), after)
      | [] => none
  | c :: rest =>
      if c ∈ ['@', '*', '#', '?', '$', '!'] || c.isDigit then some (String.singleton c, rest)
      else if isNameChar c then
        some (String.ofList (c :: rest.takeWhile isNameChar), rest.dropWhile isNameChar)
      else none
  | [] => none

/-- Reads a word up to the character that ends it. The first argument bounds the pieces, the second
says whether a double quote is open. -/
def scanWord : Nat → Bool → Word → List Char → Option (Word × List Char)
  | 0, _, _, _ => none
  | fuel + 1, inQuotes, word, chars =>
      match chars with
      | [] => if inQuotes then none else some (word, [])
      | '"' :: rest =>
          scanWord fuel (!inQuotes) (word ++ [.text [] true]) rest
      | '$' :: rest =>
          match rest with
          | '(' :: _ => none
          | _ =>
              match scanParameter rest with
              | some (name, after) =>
                  scanWord fuel inQuotes (word ++ [.parameter name inQuotes]) after
              | none => scanWord fuel inQuotes (word ++ [.text ['$'] true]) rest
      | '\x60' :: _ => none
      | '\\' :: c :: rest =>
          let kept :=
            if c = '\n' then []
            else if inQuotes && !(c ∈ ['$', '\x60', '"', '\\']) then ['\\', c] else [c]
          scanWord fuel inQuotes (word ++ [.text kept true]) rest
      | c :: rest =>
          if inQuotes then scanWord fuel true (word ++ [.text [c] true]) rest
          else if c = '\x27' then
            match rest.dropWhile (· ≠ '\x27') with
            | _ :: after =>
                scanWord fuel false (word ++ [.text (rest.takeWhile (· ≠ '\x27')) true]) after
            | [] => none
          else if endsWord c then some (word, chars)
          else scanWord fuel false (word ++ [.text [c] false]) rest

/-- Reads the tokens of a script. The first argument bounds their number. -/
def scan : Nat → List Char → Option (List Token)
  | 0, _ => none
  | fuel + 1, chars =>
      match chars with
      | [] => some []
      | ' ' :: rest => scan fuel rest
      | '\t' :: rest => scan fuel rest
      | '\n' :: rest => (scan fuel rest).map (.joint ";" :: ·)
      | ';' :: ';' :: _ => none
      | ';' :: rest => (scan fuel rest).map (.joint ";" :: ·)
      | '&' :: '&' :: rest => (scan fuel rest).map (.joint "&&" :: ·)
      | '|' :: '|' :: rest => (scan fuel rest).map (.joint "||" :: ·)
      | '#' :: rest => scan fuel (rest.dropWhile (· ≠ '\n'))
      | '>' :: '>' :: rest => (scan fuel rest).map (.redirect 1 ">>" :: ·)
      | '>' :: '&' :: rest => (scan fuel rest).map (.redirect 1 ">&" :: ·)
      | '>' :: rest => (scan fuel rest).map (.redirect 1 ">" :: ·)
      | '<' :: '<' :: _ => none
      | '<' :: rest => (scan fuel rest).map (.redirect 0 "<" :: ·)
      | '2' :: '>' :: '>' :: rest => (scan fuel rest).map (.redirect 2 ">>" :: ·)
      | '2' :: '>' :: '&' :: rest => (scan fuel rest).map (.redirect 2 ">&" :: ·)
      | '2' :: '>' :: rest => (scan fuel rest).map (.redirect 2 ">" :: ·)
      | '1' :: '>' :: '>' :: rest => (scan fuel rest).map (.redirect 1 ">>" :: ·)
      | '1' :: '>' :: '&' :: rest => (scan fuel rest).map (.redirect 1 ">&" :: ·)
      | '1' :: '>' :: rest => (scan fuel rest).map (.redirect 1 ">" :: ·)
      | c :: _ =>
          if endsWord c then none
          else
            match scanWord (chars.length + 1) false [] chars with
            | none => none
            | some (word, rest) => (scan fuel rest).map (.word word :: ·)

/-- A redirection. -/
structure Redirect where
  stream : Nat
  sign : String
  target : Word
deriving DecidableEq, Repr

/-- A simple command, with what joins it to the one before. -/
structure Command where
  joint : String
  words : List Word := []
  redirects : List Redirect := []
deriving DecidableEq, Repr

/-- Words that begin what is more than a simple command. -/
def keywords : List String :=
  ["if", "then", "else", "fi", "for", "while", "until", "do", "done", "case", "esac", "\x7b",
    "\x7d", "!", "function"]

/-- The text of a word without quotes and parameters. -/
def Word.plain? : Word → Option String
  | [] => some ""
  | .text chars false :: rest => (plain? rest).map (String.ofList chars ++ ·)
  | _ => none

/-- A command that this shell can read. -/
def Command.isReadable (command : Command) : Bool :=
  match command.words with
  | first :: _ => !(Word.plain? first).any (· ∈ keywords)
  | [] => true

/-- Puts tokens together into commands. The first argument is the command under way. -/
def assemble (current : Command) : List Token → Option (List Command)
  | [] => some [current]
  | .joint sign :: rest => (assemble { joint := sign } rest).map (current :: ·)
  | .word word :: rest => assemble { current with words := current.words ++ [word] } rest
  | .redirect stream sign :: .word target :: rest =>
      assemble { current with redirects := current.redirects ++ [{ stream, sign, target }] } rest
  | .redirect .. :: _ => none

/-- Reads a script. -/
def read? (script : String) : Option (List Command) := do
  let tokens ← scan (script.length + 1) script.toList
  let commands ← assemble { joint := ";" } tokens
  let commands := commands.filter fun command =>
    command.joint ≠ ";" ∨ command.words ≠ [] ∨ command.redirects ≠ []
  if commands.all Command.isReadable then some commands else none

/-- Where a stream leads. -/
inductive Sink where
  | log
  | nowhere
  | file (path : String)
deriving DecidableEq, Repr

/-- The course of a script that is being run. -/
structure Session where
  files : Files
  /-- The file at whose end the script writes. -/
  log : String
  /-- The name under which the script was started. -/
  name : String
  parameters : List String
  assigned : Keyed String String := []
  /-- How the last command ended. -/
  status : Nat := 0
  /-- How long the script has waited. -/
  elapsed : Nanos := 0
  /-- What is written after the first wait. -/
  later : String := ""
  ended : Option ExitStatus := none

namespace Session

/-- Writes text to where a stream leads. -/
def write (session : Session) (sink : Sink) (text : String) : Session :=
  match sink with
  | .nowhere => session
  | .log =>
      if session.elapsed = 0 then
        { session with
          files := (session.files.appendText session.log text).toOption.getD session.files }
      else { session with later := session.later ++ text }
  | .file path =>
      { session with files := (session.files.appendText path text).toOption.getD session.files }

/-- The value of a parameter other than the list of all of them. -/
def value (session : Session) (name : String) : String :=
  match name with
  | "#" => decimal session.parameters.length
  | "?" => decimal session.status
  | "$" => "1"
  | "!" => ""
  | _ =>
      match name.toNat? with
      | some 0 => session.name
      | some (n + 1) => session.parameters[n]?.getD ""
      | none => (session.assigned.find? name).getD ""

/-- Splits a text at blanks. -/
def splitBlanks (text : String) : List (List Char) :=
  (text.toList.splitOnP fun c => c = ' ' || c = '\t' || c = '\n').filter (· ≠ [])

/-- The fields that a parameter stands for. -/
def fields (session : Session) (name : String) (quoted : Bool) : List (List Char) :=
  if name = "@" || (name = "*" && !quoted) then
    if quoted then session.parameters.map String.toList
    else session.parameters.flatMap splitBlanks
  else if name = "*" then [(" ".intercalate session.parameters).toList]
  else if quoted then [(session.value name).toList]
  else splitBlanks (session.value name)

/-- Fills in the parameters of a word. The second argument is the field under way. -/
def expand (session : Session) (current : Option (List Char)) : Word → List String
  | [] => (current.map String.ofList).toList
  | .text chars _ :: rest => session.expand (some (current.getD [] ++ chars)) rest
  | .parameter name quoted :: rest =>
      match session.fields name quoted with
      | [] => session.expand current rest
      | first :: others =>
          let opened := current.getD [] ++ first
          match others.getLast? with
          | none => session.expand (some opened) rest
          | some last =>
              String.ofList opened :: others.dropLast.map String.ofList ++
                session.expand (some last) rest

/-- Where the three streams of a command lead. -/
structure Streams where
  out : Sink := .log
  err : Sink := .log

/-- Applies a redirection; a stream that is redirected to a missing directory fails the command. -/
def redirect (session : Session) (streams : Streams) (redirect : Redirect) :
    Option (Session × Streams) :=
  let target := "".intercalate (session.expand none redirect.target)
  let toward (sink : Sink) : Streams :=
    if redirect.stream = 2 then { streams with err := sink } else { streams with out := sink }
  if redirect.sign = ">&" then
    some (session, toward (if target = "2" then streams.err else streams.out))
  else if target = "/dev/null" then
    some (session, if redirect.stream = 0 then streams else toward .nowhere)
  else if redirect.stream = 0 then
    if session.files.exists? target then some (session, streams) else none
  else
    let opened :=
      if redirect.sign = ">" then session.files.writeText target ""
      else session.files.appendText target ""
    opened.toOption.map fun files => ({ session with files }, toward (.file target))

/-- A character after a backslash. -/
def escaped (c : Char) : List Char :=
  match c with
  | 'n' => ['\n']
  | 't' => ['\t']
  | 'r' => ['\r']
  | '\\' => ['\\']
  | _ => ['\\', c]

/-- Replaces what follows a backslash. -/
def unescape : List Char → List Char
  | '\\' :: c :: rest => escaped c ++ unescape rest
  | c :: rest => c :: unescape rest
  | [] => []

/-- Writes arguments by a format once, and gives the arguments that are left. -/
def formatOnce : List Char → List String → List Char × List String
  | '%' :: '%' :: rest, args => ((formatOnce rest args).map ('%' :: ·) id)
  | '%' :: 's' :: rest, args =>
      let (text, left) := formatOnce rest (args.drop 1)
      ((args.headD "").toList ++ text, left)
  | '%' :: 'd' :: rest, args =>
      let (text, left) := formatOnce rest (args.drop 1)
      ((if args.headD "" = "" then ['0'] else (args.headD "").toList) ++ text, left)
  | '\\' :: c :: rest, args => ((formatOnce rest args).map (escaped c ++ ·) id)
  | c :: rest, args => ((formatOnce rest args).map (c :: ·) id)
  | [], args => ([], args)

/-- Writes arguments by a format, over again as long as some are left. The first argument bounds the
number of rounds. -/
def format : Nat → List Char → List String → List Char
  | 0, _, _ => []
  | fuel + 1, pattern, args =>
      let (text, left) := formatOnce pattern args
      if left = [] ∨ left.length = args.length then text
      else text ++ format fuel pattern left

/-- The length of a wait: a decimal number of seconds, or of another unit that follows it. -/
def duration? (text : String) : Option Nanos :=
  let chars := text.toList
  let (digits, unit) : List Char × Nat :=
    match chars.getLast? with
    | some 's' => (chars.dropLast, 1)
    | some 'm' => (chars.dropLast, 60)
    | some 'h' => (chars.dropLast, 3600)
    | some 'd' => (chars.dropLast, 86400)
    | _ => (chars, 1)
  let whole := digits.takeWhile (· ≠ '.')
  let fraction := (digits.drop (whole.length + 1)).take 9
  if (whole ++ fraction).all Char.isDigit && whole ++ fraction ≠ [] then
    let number := ((String.ofList (whole ++ fraction)).toNat?).getD 0
    some (unit * (number * Nat.pow 10 (9 - fraction.length)))
  else none

/-- The signal that a name or a number stands for. -/
def signal? (text : String) : Option Nat :=
  match text.toNat? with
  | some number => some number
  | none =>
      let named := if text.startsWith "SIG" then text else "SIG" ++ text
      (signalNames.idxOf? named).map (· + 1)

/-- Signals that do not end the process to which they are sent. -/
def harmless (number : Nat) : Bool := number ∈ [0, 17, 18, 23, 28]

/-- Ends the script. -/
def finish (session : Session) (status : ExitStatus) : Session :=
  { session with ended := some status }

/-- Notes how a command ended. -/
def result (session : Session) (status : Nat) : Session := { session with status }

/-- The test of a condition. -/
def test (session : Session) : List String → Bool
  | ["-f", path] => session.files.isFile path
  | ["-d", path] => session.files.isDirectory path
  | ["-e", path] => session.files.exists? path
  | ["-s", path] => ((session.files.readText path).toOption.getD "") ≠ ""
  | ["-z", text] => text = ""
  | ["-n", text] => text ≠ ""
  | [left, "=", right] => left = right
  | [left, "!=", right] => left ≠ right
  | [text] => text ≠ ""
  | "!" :: rest => !session.test rest
  | _ => false

/-- Sends a signal. The only process that a script knows is its own. -/
def sendSignal (session : Session) : List String → Session
  | ["-s", name, _] => deliver name
  | [flag, _] => deliver (String.ofList (flag.toList.drop 1))
  | [_] => deliver "TERM"
  | _ => session.result 1
where
  /-- Delivers a signal to the script itself. -/
  deliver (name : String) : Session :=
    match signal? name with
    | none => session.result 1
    | some number =>
        if harmless number then session.result 0 else session.finish (.signalled number)

/-- Writes the texts of files. -/
def copyFiles (session : Session) (streams : Streams) (paths : List String) : Session :=
  paths.foldl (fun session path =>
    match session.files.readText path with
    | .ok text => session.write streams.out text
    | .error fault =>
        (session.write streams.err ("cat: " ++ path ++ ": " ++ fault.words ++ "\n")).result 1)
    (session.result 0)

/-- Changes the files, or fails. -/
def change (session : Session) (paths : List String)
    (act : Files → String → Except IoFault Files) : Session :=
  paths.foldl (fun session path =>
    match act session.files path with
    | .ok files => { session with files }
    | .error _ => session.result 1) (session.result 0)

/-- Runs a command by its name. -/
def perform (session : Session) (streams : Streams) (name : String) (args : List String) :
    Session :=
  match name with
  | ":" => session.result 0
  | "true" => session.result 0
  | "false" => session.result 1
  | "trap" => session.result 0
  | "set" => session.result 0
  | "umask" => session.result 0
  | "wait" => session.result 0
  | "read" => session.result 1
  | "exit" =>
      match args with
      | [] => session.finish (.exited session.status)
      | code :: _ => session.finish (.exited ((code.toNat?.map (· % 256)).getD 2))
  | "kill" => session.sendSignal args
  | "sleep" =>
      match args.mapM duration? with
      | some (first :: others) =>
          { session.result 0 with elapsed := others.foldl (· + ·) (session.elapsed + first) }
      | _ => session.result 1
  | "echo" =>
      let (args, ending) := if args.head? = some "-n" then (args.drop 1, "") else (args, "\n")
      let text := String.ofList (unescape (" ".intercalate args).toList)
      (session.write streams.out (text ++ ending)).result 0
  | "printf" =>
      match args with
      | [] => session.result 2
      | pattern :: args =>
          let text := format (args.length + 1) pattern.toList args
          (session.write streams.out (String.ofList text)).result 0
  | "cat" => session.copyFiles streams args
  | "shift" => { session.result 0 with parameters := session.parameters.drop 1 }
  | "test" => session.result (if session.test args then 0 else 1)
  | "[" => session.result (if session.test args.dropLast then 0 else 1)
  | "mkdir" =>
      let paths := args.filter fun arg => !arg.startsWith "-"
      session.change paths fun files path =>
        if args.any (·.startsWith "-p") then
          match files.makeAll path with
          | (made, .ok ()) => .ok made
          | (_, .error fault) => .error fault
        else files.makeDirectory path
  | "touch" => session.change args fun files path => files.appendText path ""
  | "rm" =>
      let forced := args.any (·.startsWith "-")
      session.change (args.filter fun arg => !arg.startsWith "-") fun files path =>
        if forced then
          match files.removeTree path with
          | (after, .ok ()) => .ok after
          | _ => .ok ((files.removeFile path).toOption.getD files)
        else files.removeFile path
  | _ => (session.write streams.err
      (session.name ++ ": " ++ name ++ ": not found\n")).result 127

/-- Takes an assignment apart. -/
def assignment? (text : String) : Option (String × String) :=
  let name := text.toList.takeWhile (· ≠ '=')
  match text.toList.drop name.length, name with
  | '=' :: value, first :: _ =>
      if name.all isNameChar && !first.isDigit then
        some (String.ofList name, String.ofList value)
      else none
  | _, _ => none

/-- Runs a command, unless the command before decides that it is skipped. -/
def runCommand (session : Session) (command : Command) : Session :=
  if session.ended.isSome then session
  else if command.joint = "&&" ∧ session.status ≠ 0 then session
  else if command.joint = "||" ∧ session.status = 0 then session
  else
    let opened := command.redirects.foldl
      (fun state redirect => state.bind fun (session, streams) => session.redirect streams redirect)
      (some (session, {}))
    match opened with
    | none => session.result 2
    | some (session, streams) =>
        match command.words.flatMap (session.expand none) with
        | [] => session.result 0
        | "exec" :: [] => session.result 0
        | "exec" :: name :: args =>
            let session := session.perform streams name args
            if session.ended.isSome then session else session.finish (.exited session.status)
        | first :: args =>
            match assignment? first, args with
            | some (name, value), [] =>
                { session.result 0 with assigned := session.assigned.set name value }
            | _, _ => session.perform streams first args

/-- Runs commands to their end. -/
def run (session : Session) (commands : List Command) : Session :=
  let session := commands.foldl runCommand session
  if session.ended.isSome then session else session.finish (.exited session.status)

end Session

end FleetControl.Simulation.Shell
