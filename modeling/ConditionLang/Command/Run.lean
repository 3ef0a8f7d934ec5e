import ConditionLang.Command.Evaluate
import ConditionLang.Command.Files
import ConditionLang.Command.Invocation
import ConditionLang.Config.Read
import ConditionLang.Log.Filter

/-!
# Carrying out a command

A command reads its configuration first; a configuration that does not read ends it before anything is logged. Then it
prints, logs and perhaps fails. What it does is a function of the command and of what it finds: the files that it names
(`Invocation.files`), the directory of its log file, the filter of the environment and a seed for random draws.
-/

namespace ConditionLang

/-- What a command finds when it is called. -/
structure Surroundings where
  /-- The contents of a file. -/
  read : String → Except FileError String
  /-- A filter of log events that replaces that of the configuration. -/
  filter : Option String
  /-- A seed for draws where none is given. -/
  seed : Nat

/-- Why a command fails. -/
inductive CommandError where
  | noConfig (path : String) (error : FileError)
  | config (error : ConfigError)
  | filter (text : String) (error : Log.DirectiveError)
  | logFile (error : LogFileError)
  | unreadable (path : String) (error : FileError)
  | condition (error : ConditionError)
  | errorsFound (count : Nat)
  deriving Repr, Inhabited

/-- The message of a failure. -/
def CommandError.message [PatternReports] : CommandError → String
  | .noConfig path error => s!"config path '{path}': {error.message}"
  | .config error => error.message
  | .filter text error => s!"invalid log filter '{text}': {error.message}"
  | .logFile error => error.message
  | .unreadable path error => s!"failed to read {path}: {error.message}"
  | .condition error => error.message
  | .errorsFound count => s!"{count} error(s) found"

/-- What a command has done: the lines that it printed, the events that happened, and why it failed. -/
structure Done where
  printed : List String
  events : List Log.Event
  failure : Option CommandError
  deriving Repr, Inhabited

/-- What a command has done and how it was logged. -/
structure Answer where
  done : Done
  /-- Lines on standard error before all events. -/
  complaints : List String
  /-- How events are written. -/
  layout : Log.Layout
  /-- The path of the file that events are written to besides standard error. -/
  logFile : Option String
  deriving Repr, Inhabited

namespace Done

/-- A command that fails at once. -/
def failed (f : CommandError) : Done :=
  ⟨[], [], some f⟩

/-- What was done after something else. -/
def following (first next : Done) : Done :=
  ⟨first.printed ++ next.printed, first.events ++ next.events, next.failure⟩

end Done

/-- What a command has done before logging began. -/
def Answer.unlogged (done : Done) : Answer :=
  ⟨done, [], .plain, none⟩

namespace Command

/-- Checks a file: what was done, and how many errors there are. -/
def checkFile [PatternReports] (mode : LexMode) (file text : String) : Done × Nat :=
  let found := Report.check mode text.toList
  (⟨found.map fun d => s!"{file}:{d.describe}", Report.events mode file text found, none⟩,
    found.countP (·.severity == .error))

/-- Checks files, after others with so many errors. A file that cannot be read ends the command. -/
def checkFiles [PatternReports] (mode : LexMode) (read : String → Except FileError String) (errors : Nat) :
    List String → Done
  | [] => if errors = 0 then ⟨[], [], none⟩ else .failed (.errorsFound errors)
  | file :: files =>
    match read file with
    | .error e => .failed (.unreadable file e)
    | .ok text =>
      let (done, more) := checkFile mode file text
      done.following (checkFiles mode read (errors + more) files)

/-- The text of a block. -/
def blockText (read : String → Except FileError String) : Source → Except CommandError String
  | .exprs exprs => .ok (Argument.block exprs)
  | .file path => (read path).mapError (.unreadable path)

/-- Decides a block and prints the decision. -/
def evaluate (config : Config) (s : Surroundings) (e : Evaluated) : Done :=
  match blockText s.read e.source with
  | .error f => .failed f
  | .ok text =>
    let seed := (e.seed <|> config.seed).getD s.seed
    match Decision.ofText config (.ofRequest e.callCount e.request (.seeded seed)) text with
    | (.ok d, events) => ⟨d.lines, events, none⟩
    | (.error e, events) => ⟨[], events, some (.condition e)⟩

/-- Carries a command out under a configuration. -/
def run [PatternReports] (config : Config) (s : Surroundings) : Command → Done
  | .check files => checkFiles config.mode s.read 0 files
  | .eval e => evaluate config s e

/-- The files that a command names. -/
def files : Command → List String
  | .check files => files
  | .eval ⟨.file path, _, _, _⟩ => [path]
  | .eval _ => []

end Command

namespace Invocation

/-- The files that an invocation names. -/
def files (i : Invocation) : List String :=
  i.config.toList ++ i.command.files

/-- The configuration of an invocation. -/
def configuration (i : Invocation) (s : Surroundings) : Except CommandError Config :=
  match i.config with
  | none => .ok .standard
  | some path =>
    match s.read path with
    | .ok text => (Config.read text).mapError .config
    | .error .isDirectory => .error (.unreadable path .isDirectory)
    | .error e => .error (.noConfig path e)

/-- The filter of log events, and complaints about it. -/
def filter (config : Config) (s : Surroundings) : Except CommandError (Log.Filter × List String) :=
  match s.filter with
  | some text => .ok (Log.Filter.ofText text)
  | none =>
    match Log.Filter.ofSettings config.logging with
    | .ok f => .ok (f, [])
    | .error e => .error (.filter (Log.Filter.text config.logging) e)

/-- The directory of the configuration file, as far as the command line names it. -/
def directory (i : Invocation) : String :=
  String.ofList (((i.config.getD "").toList.reverse.dropWhile (· != '/')).reverse)

/-- The path of a log file, which a configuration gives as seen from its own directory. -/
def logPath (i : Invocation) (file : String) : String :=
  if file.toList.head? = some '/' then file else i.directory ++ file

/-- Carries an invocation out under a configuration and a filter. -/
def runWith [PatternReports] (i : Invocation) (s : Surroundings) (config : Config) (f : Log.Filter)
    (complaints : List String) : Answer :=
  let path := config.logging.file.map i.logPath
  match path.bind (LogFile.error? s.read) with
  | some e => { Answer.unlogged (.failed (.logFile e)) with complaints }
  | none =>
    let done := Done.following ⟨[], [.configured config.mode config.onError], none⟩ (i.command.run config s)
    ⟨{ done with events := done.events.filter f.admits }, complaints, config.logging.layout, path⟩

/-- Carries an invocation out. -/
def run [PatternReports] (i : Invocation) (s : Surroundings) : Answer :=
  match i.configuration s with
  | .error f => .unlogged (.failed f)
  | .ok config =>
    match filter config s with
    | .error f => .unlogged (.failed f)
    | .ok (f, complaints) => i.runWith s config f complaints

/-- The directory of the log file that the configuration asks for. -/
def logDirectory? (i : Invocation) (s : Surroundings) : Option String :=
  match i.configuration s with
  | .error _ => none
  | .ok config => config.logging.file.map fun file => LogFile.directory (i.logPath file)

end Invocation

namespace Answer

/-- The status that the program ends with. -/
def exitCode (a : Answer) : Nat :=
  if a.done.failure.isSome then 1 else 0

/-- What the program prints on standard output. -/
def output (a : Answer) : String :=
  String.join (a.done.printed.map (· ++ "\n"))

/-- The line that shows why a command failed. -/
def errorText? [PatternReports] (a : Answer) : Option String :=
  a.done.failure.map fun f => "Error: " ++ f.message

end Answer

/-- Reports about patterns cut to their headline, without the picture of the place that is at fault. -/
instance PatternReports.headline : PatternReports where
  report _ := "regex parse error"

end ConditionLang
