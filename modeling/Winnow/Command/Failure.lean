import Winnow.DocumentFile
import Winnow.Output.Writer

/-!
# Failures of a command

`Failure` joins what can go wrong while a command runs, and `Failure.message` is what the log says
of it. Malformed texts and misuse of the query language are told by the name of their kind, between
angle brackets.

Section 5.3 of the DocQuery specification: the errors that the runner logs.
-/

namespace Winnow

/-- What a log says of a text that is no expression. -/
def Expr.ParseError.report : Expr.ParseError → Text
  | .empty => "<EmptyExpressionError>"
  | .lexical => "<LexerError>"
  | .tooLong cause => cause.message
  | .tooDeep what => what.tooDeepMessage
  | .noRoom => Expr.noRoomMessage
  | .unexpected => "<ParseError>"
  | .incomplete => "<IncompleteExpressionError>"

/-- What a log says of an expression without a value. -/
def Expr.EvalError.report (e : Expr.EvalError) : Text :=
  match e with
  | .unknownFunction => "<UnknownFunctionError>"
  | .arity => "<ArityError>"
  | .noArguments => "<VariadictArityError>"
  | .argumentKind => "<JMESPathTypeError>"
  | _ => e.message?.getD ""

/-- What a log says of a query without a value. -/
def QueryError.report : QueryError → Text
  | .literal cause => cause.message
  | .search (.parse cause) => cause.report
  | .search (.eval cause) => cause.report

/-- What a log says of a file that gives no document. -/
def DocumentError.report : DocumentError → Text
  | .file cause => cause.message
  | .json cause => cause.message?.getD "<JSONDecodeError>"

namespace Command

/-- What goes wrong while a command runs. -/
inductive Failure where
  /-- Neither the settings nor the arguments name a document. -/
  | noData
  | language (cause : UnknownLanguage)
  | document (cause : DocumentError)
  | query (cause : QueryError)
  | output (cause : OutputError)
  /-- The query text cannot be printed. -/
  | print (fault : Text.Fault)
  deriving DecidableEq

/-- What a log says of a failure. -/
def Failure.message : Failure → Text
  | noData => "No data file given: set query.data or pass --data"
  | language cause => cause.message
  | document cause => cause.report
  | query cause => cause.report
  | output cause => cause.message
  | print fault => fault.message

end Command

end Winnow
