import ConditionLang.Diagnostic.Finding
import ConditionLang.Diagnostic.Suggestion
import ConditionLang.Expr.Basic
import ConditionLang.Pattern.Meaning
import ConditionLang.Token.Basic

/-!
# Checking expressions

A call must name a built-in, have a target if and only if the built-in takes one, and have as many arguments as it takes;
a target or pattern written as a literal must fit; names that are bound must be names. `Expr.findings` lists all that is
wrong, a call before its target and its arguments.
-/

namespace ConditionLang

/-- The words that are no names of variables. -/
def reservedWords : List String := Token.connectives ++ ["True", "False"]

/-- Whether a name may be bound. -/
def isBindable (name : String) : Bool :=
  Token.isNameShaped name.toList && !reservedWords.contains name

/-- The kind of a literal. What a range or any other expression gives is known only when it is evaluated. -/
def Expr.literalKind? : Expr → Option TargetKind
  | .text _ => some .string
  | .number _ => some .number
  | .truth _ => some .boolean
  | .sequence _ | .dictionary _ => some .table
  | _ => none

namespace Check

/-- What is wrong with the target of a call. -/
def targetFindings (s : Signature) (target : Option Expr) : List Finding :=
  match s.requiresTarget, target with
  | true, none => [.missingTarget s.name]
  | false, some _ => [.unexpectedTarget s.name]
  | true, some t =>
    match t.literalKind? with
    | some kind => if s.accepts kind then [] else [.invalidTarget s.name kind s.targets]
    | none => []
  | false, none => []

/-- What is wrong with the number of arguments of a call. -/
def countFindings (s : Signature) (count : Nat) : List Finding :=
  (if count < s.minArgs then [.tooFewArgs s.name s.minArgs count] else []) ++
    match s.maxArgs with
    | some max => if max < count then [.tooManyArgs s.name max count] else []
    | none => []

/-- What is wrong with a pattern that is written as a literal. -/
def patternFindings (b : Builtin) (args : List Expr) : List Finding :=
  match b, args with
  | .matchesPattern, .text pattern :: _ =>
    if (Pattern.ofText? pattern.toList).isNone then [.invalidPattern pattern] else []
  | _, _ => []

/-- What is wrong with a call itself. -/
def callFindings (target : Option Expr) (name : String) (args : List Expr) : List Finding :=
  match Builtin.ofName? name with
  | none => [.unknownFunction name (Suggestion.closest? name)]
  | some b =>
    targetFindings b.signature target ++ countFindings b.signature args.length ++ patternFindings b args

/-- What is wrong with the names that a binding binds. -/
def nameFindings (names : List String) : List Finding :=
  (if names.isEmpty then [.noNames] else []) ++ (names.filter (!isBindable ·)).map .invalidName

end Check

namespace Expr

mutual

/-- All that is wrong with an expression. -/
def findings : Expr → List Finding
  | .number _ | .truth _ | .text _ | .range _ _ | .reference _ => []
  | .sequence items => findingsOfItems items
  | .dictionary pairs => findingsOfPairs pairs
  | .binary _ left right => left.findings ++ right.findings
  | .negation operand => operand.findings
  | .binding value names => value.findings ++ Check.nameFindings names
  | .call name args => Check.callFindings none name args ++ findingsOfItems args
  | .method target name args =>
    Check.callFindings (some target) name args ++ target.findings ++ findingsOfItems args

/-- All that is wrong with a list of expressions. -/
def findingsOfItems : List Expr → List Finding
  | [] => []
  | item :: items => item.findings ++ findingsOfItems items

/-- All that is wrong with the values of key and value pairs. -/
def findingsOfPairs : List (String × Expr) → List Finding
  | [] => []
  | (_, value) :: pairs => value.findings ++ findingsOfPairs pairs

end

/-- The first thing that is wrong with an expression. -/
def firstFinding? (e : Expr) : Option Finding :=
  e.findings.head?

end Expr

end ConditionLang
