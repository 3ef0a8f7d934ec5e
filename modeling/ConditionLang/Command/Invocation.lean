import ConditionLang.Command.Argument
import ConditionLang.Number.Decimal

/-!
# Reading the command line

`mockcond [-c FILE] check FILES…` checks files, `mockcond [-c FILE] eval` decides a block for the request that its options
describe. The value of an option stands after it, or is joined to it: `-eTrue`, `-e=True`, `--expr=True`. A value that
stands by itself must not look like an option. Everything after `--` is a word.
-/

namespace ConditionLang

/-- The options of the command line. -/
inductive CommandOption where
  | config | file | expr | callCount | method | path | header | query | body | seed
  deriving Repr, DecidableEq, Inhabited

namespace CommandOption

/-- The long name of an option. -/
def name : CommandOption → String
  | config => "config"
  | file => "file"
  | expr => "expr"
  | callCount => "call-count"
  | method => "method"
  | path => "path"
  | header => "header"
  | query => "query"
  | body => "body"
  | seed => "seed"

/-- The letter of an option. -/
def letter? : CommandOption → Option Char
  | config => some 'c'
  | file => some 'f'
  | expr => some 'e'
  | _ => none

/-- The options of the subcommand `eval`. -/
def ofEval : List CommandOption :=
  [config, file, expr, callCount, method, path, header, query, body, seed]

end CommandOption

/-- Why a command line is not carried out. -/
inductive Refusal where
  /-- It asks for help. -/
  | help
  /-- It is not of the right form. -/
  | usage
  deriving Repr, DecidableEq, Inhabited

/-- A piece of a command line. -/
inductive Piece where
  | option (o : CommandOption) (value : String)
  | word (s : String)
  deriving Repr, DecidableEq, Inhabited

/-- A piece of a command line as it is written. -/
inductive Written where
  | word
  /-- The end of the options. -/
  | rest
  | help
  /-- An option that lacks its value. -/
  | bare (o : CommandOption)
  /-- An option with its value. -/
  | joined (o : CommandOption) (value : String)
  | unknown
  deriving Repr, DecidableEq, Inhabited

namespace Written

/-- How an argument is to be understood where some options are known. -/
def ofArgument (known : List CommandOption) (arg : String) : Written :=
  match arg.toList with
  | ['-', '-'] => .rest
  | '-' :: '-' :: name =>
    let (name, value) := name.span (· != '=')
    if String.ofList name = "help" then (if value.isEmpty then .help else .unknown)
    else
      match known.find? (·.name == String.ofList name), value with
      | some o, [] => .bare o
      | some o, _ :: value => .joined o (String.ofList value)
      | none, _ => .unknown
  | '-' :: letter :: value =>
    if letter = 'h' then .help
    else
      match known.find? (·.letter? == some letter), value with
      | some o, [] => .bare o
      | some o, '=' :: value => .joined o (String.ofList value)
      | some o, value => .joined o (String.ofList value)
      | none, _ => .unknown
  | _ => .word

end Written

/-- Whether an argument may be the value of the option before it. -/
def isFreeValue (arg : String) : Bool :=
  arg == "-" || arg.toList.head? != some '-'

/-- The pieces that arguments are made of. -/
def piecesOf (known : List CommandOption) : List String → Except Refusal (List Piece)
  | [] => .ok []
  | arg :: rest =>
    match Written.ofArgument known arg with
    | .word => do return .word arg :: (← piecesOf known rest)
    | .rest => .ok (rest.map .word)
    | .help => .error .help
    | .joined o value => do return .option o value :: (← piecesOf known rest)
    | .bare o =>
      match rest with
      | value :: rest =>
        if isFreeValue value then do return .option o value :: (← piecesOf known rest) else .error .usage
      | [] => .error .usage
    | .unknown => .error .usage

/-- The options in front of a subcommand, and the arguments from it on. -/
def leadingOptions : List String → Except Refusal (List Piece × List String)
  | [] => .ok ([], [])
  | arg :: rest =>
    match Written.ofArgument [.config] arg with
    | .word => .ok ([], arg :: rest)
    | .help => .error .help
    | .joined o value => do
      let (pieces, args) ← leadingOptions rest
      return (.option o value :: pieces, args)
    | .bare o =>
      match rest with
      | value :: rest =>
        if isFreeValue value then do
          let (pieces, args) ← leadingOptions rest
          return (.option o value :: pieces, args)
        else .error .usage
      | [] => .error .usage
    | .rest | .unknown => .error .usage

/-! ## Commands -/

/-- Where a block to be decided comes from. -/
inductive Source where
  | file (path : String)
  | exprs (exprs : List String)
  deriving Repr, DecidableEq, Inhabited

/-- What to decide, and for which request. -/
structure Evaluated where
  source : Source
  callCount : Nat
  request : Request
  seed : Option Nat
  deriving Repr, Inhabited

inductive Command where
  | check (files : List String)
  | eval (e : Evaluated)
  deriving Repr, Inhabited

/-- A command and the file that configures it. -/
structure Invocation where
  config : Option String
  command : Command
  deriving Repr, Inhabited

namespace Piece

/-- The words among pieces. -/
def words (ps : List Piece) : List String :=
  ps.filterMap fun
    | .word s => some s
    | .option _ _ => none

/-- The values given to an option. -/
def values (o : CommandOption) (ps : List Piece) : List String :=
  ps.filterMap fun
    | .option o' value => if o' = o then some value else none
    | .word _ => none

/-- The value given to an option that may be given once. -/
def single (o : CommandOption) (ps : List Piece) : Except Refusal (Option String) :=
  match values o ps with
  | [] => .ok none
  | [value] => .ok (some value)
  | _ => .error .usage

/-- The value given to an option that names a file. -/
def fileName (o : CommandOption) (ps : List Piece) : Except Refusal (Option String) := do
  match ← single o ps with
  | some "" => .error .usage
  | value => .ok value

/-- The number given to an option. -/
def number (o : CommandOption) (ps : List Piece) : Except Refusal (Option Nat) := do
  match ← single o ps with
  | none => .ok none
  | some value =>
    match Number.readWord? value.toList with
    | some n => .ok (some n)
    | none => .error .usage

/-- The pairs given to an option. -/
def pairs (read : String → Except ArgumentError (String × String)) (o : CommandOption) (ps : List Piece) :
    Except Refusal (List (String × String)) :=
  match (values o ps).mapM read with
  | .ok pairs => .ok pairs
  | .error _ => .error .usage

end Piece

namespace Command

/-- The subcommand `check`. -/
def ofCheck (ps : List Piece) : Except Refusal Command :=
  let files := Piece.words ps
  if files.isEmpty ∨ files.contains "" then .error .usage else .ok (.check files)

/-- Where the block of the subcommand `eval` comes from: a file or expressions, but not both. -/
def sourceOf (ps : List Piece) : Except Refusal Source := do
  match ← Piece.fileName .file ps, Piece.values .expr ps with
  | some path, [] => .ok (.file path)
  | none, e :: es => .ok (.exprs (e :: es))
  | _, _ => .error .usage

/-- The subcommand `eval`. -/
def ofEval (ps : List Piece) : Except Refusal Command := do
  if !(Piece.words ps).isEmpty then .error .usage
  let source ← sourceOf ps
  let callCount ← Piece.number .callCount ps
  let method ← Piece.single .method ps
  let path ← Piece.single .path ps
  let headers ← Piece.pairs Argument.header .header ps
  let query ← Piece.pairs Argument.query .query ps
  let body ← Piece.single .body ps
  let seed ← Piece.number .seed ps
  let request := Request.ofTarget (method.getD "GET") (path.getD "/")
  let request := headers.foldl (fun r (name, value) => r.withHeader name value) request
  let request := query.foldl (fun r (key, value) => r.withQuery key value) request
  let request := body.elim request fun text => request.withBody (Request.bodyOfText text)
  return .eval ⟨source, callCount.getD 1, request, seed⟩

end Command

namespace Invocation

/-- The invocation that a command line writes. -/
def read (args : List String) : Except Refusal Invocation := do
  let (leading, args) ← leadingOptions args
  let outer ← Piece.fileName .config leading
  match args with
  | "check" :: args => do
    let ps ← piecesOf [.config] args
    let inner ← Piece.fileName .config ps
    return ⟨inner <|> outer, ← Command.ofCheck ps⟩
  | "eval" :: args => do
    let ps ← piecesOf CommandOption.ofEval args
    let inner ← Piece.fileName .config ps
    return ⟨inner <|> outer, ← Command.ofEval ps⟩
  | ["help"] => .error .help
  | ["help", topic] => if topic = "check" ∨ topic = "eval" ∨ topic = "help" then .error .help else .error .usage
  | _ => .error .usage

end Invocation

end ConditionLang
