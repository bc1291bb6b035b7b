import Winnow.Json.Reader
import Winnow.Limits
import Winnow.Text.Blank
import Winnow.Text.Name

/-!
# Tokens of the query language

* `Token` — the words and marks of a query.
* `nextToken` — the token at the head of a text that does not start with blank space.
* `tokens` — all tokens of a text; blank space separates them and is dropped.

Three kinds of token are delimited: a raw string by quotes, a quoted name by double quotes, a
literal by back-ticks. In all three a backslash takes the character after it along.
-/

namespace Winnow.Expr

open Json (Document)

/-- A word or mark of a query. -/
inductive Token where
  | dot
  | star
  | comma
  | colon
  | current
  | leftParen
  | rightParen
  | leftBrace
  | rightBrace
  | leftBracket
  | rightBracket
  | flatten
  | filter
  | pipe
  | or
  | reference
  | and
  | lt
  | le
  | gt
  | ge
  | eq
  | ne
  | not
  /-- A bare name. -/
  | name (s : Text)
  /-- A name between double quotes. -/
  | quoted (s : Text)
  | number (n : Int)
  /-- A value written in the query, as JSON or as a raw string. -/
  | literal (value : Document)
  deriving Inhabited

/-- Why a text has no tokens. -/
inductive TokenError where
  | malformed
  | tooLong (cause : TooLong)
  /-- A literal holds an array or an object that stands too deep in others. -/
  | tooDeep (what : Json.Nesting)
  deriving DecidableEq, Inhabited

/-! ## Delimited tokens -/

variable [Limits]

/-- The text up to the next `mark` that no backslash takes along, and what follows that mark. -/
def readUntil (mark : CodePoint) : List CodePoint → Option (List CodePoint × List CodePoint)
  | [] => none
  | '\\' :: c :: rest => (readUntil mark rest).map fun (body, rest) => ('\\' :: c :: body, rest)
  | c :: rest =>
      if c = mark then some ([], rest)
      else if c = '\\' then none
      else (readUntil mark rest).map fun (body, rest) => (c :: body, rest)

/-- A text without the backslashes that stand right before `mark`, which is no backslash. -/
def unescapeMark (mark : CodePoint) : List CodePoint → List CodePoint
  | [] => []
  | c :: rest =>
      if c = '\\' && rest.head? = some mark then unescapeMark mark rest
      else c :: unescapeMark mark rest

/-- The value that the body of a literal writes: JSON text, or else the inside of a JSON string,
where leading blanks do not count. -/
def literalValue (body : List CodePoint) : Except TokenError Document :=
  let room := Limits.literalLevels
  let text := unescapeMark '\x60' body
  match Json.readL room text with
  | .ok value => .ok value
  | .error (.tooDeep what) => .error (.tooDeep what)
  | .error _ =>
      (Json.readL room ('"' :: (text.dropWhile Text.isBlank ++ [.char '"']))).mapError fun _ =>
        .malformed

/-- The name that the body of a quoted name writes. -/
def quotedName (body : List CodePoint) : Except TokenError Text :=
  match Json.readL Limits.literalLevels ('"' :: (body ++ [.char '"'])) with
  | .ok (.text name) => .ok name
  | _ => .error .malformed

/-! ## All tokens -/

/-- The token that `make` makes of the body up to `mark`, and what follows that mark. -/
def delimited (mark : CodePoint) (rest : List CodePoint)
    (make : List CodePoint → Except TokenError Token) :
    Except TokenError (Token × List CodePoint) :=
  match readUntil mark rest with
  | none => .error .malformed
  | some (body, rest) => do return (← make body, rest)

/-- A number with its sign already read. -/
def numberToken (negative : Bool) (digits rest : List CodePoint) :
    Except TokenError (Token × List CodePoint) :=
  if digits.isEmpty then .error .malformed
  else match readInt negative digits with
    | .ok n => .ok (.number n, rest)
    | .error cause => .error (.tooLong cause)

/-- The token at the head of a text that starts with `c` and goes on with `rest`. -/
def nextToken (c : CodePoint) (rest : List CodePoint) :
    Except TokenError (Token × List CodePoint) :=
  if Text.isNameStart c then
    .ok (.name (Text.ofList (c :: rest.takeWhile Text.isNameChar)), rest.dropWhile Text.isNameChar)
  else if c.isDigit then
    numberToken false (c :: rest.takeWhile CodePoint.isDigit) (rest.dropWhile CodePoint.isDigit)
  else match c, rest with
    | '.', _ => .ok (.dot, rest)
    | '*', _ => .ok (.star, rest)
    | ',', _ => .ok (.comma, rest)
    | ':', _ => .ok (.colon, rest)
    | '@', _ => .ok (.current, rest)
    | '(', _ => .ok (.leftParen, rest)
    | ')', _ => .ok (.rightParen, rest)
    | '\x7b', _ => .ok (.leftBrace, rest)
    | '\x7d', _ => .ok (.rightBrace, rest)
    | ']', _ => .ok (.rightBracket, rest)
    | '[', ']' :: rest => .ok (.flatten, rest)
    | '[', '?' :: rest => .ok (.filter, rest)
    | '[', _ => .ok (.leftBracket, rest)
    | '|', '|' :: rest => .ok (.or, rest)
    | '|', _ => .ok (.pipe, rest)
    | '&', '&' :: rest => .ok (.and, rest)
    | '&', _ => .ok (.reference, rest)
    | '<', '=' :: rest => .ok (.le, rest)
    | '<', _ => .ok (.lt, rest)
    | '>', '=' :: rest => .ok (.ge, rest)
    | '>', _ => .ok (.gt, rest)
    | '!', '=' :: rest => .ok (.ne, rest)
    | '!', _ => .ok (.not, rest)
    | '=', '=' :: rest => .ok (.eq, rest)
    | '-', _ =>
        numberToken true (rest.takeWhile CodePoint.isDigit) (rest.dropWhile CodePoint.isDigit)
    | '\'', _ =>
        delimited '\'' rest fun body =>
          .ok (.literal (.text (Text.ofList (unescapeMark '\'' body))))
    | '"', _ => delimited '"' rest fun body => (quotedName body).map .quoted
    | '\x60', _ => delimited '\x60' rest fun body => (literalValue body).map .literal
    | _, _ => .error .malformed

/-- The tokens of a text. The first argument bounds their number; the length of the text is
enough. -/
def tokensFrom : Nat → List CodePoint → Except TokenError (List Token)
  | _, [] => .ok []
  | 0, _ => .error .malformed
  | bound + 1, c :: rest =>
      if Json.isSpace c then tokensFrom bound rest
      else do
        let (token, rest) ← nextToken c rest
        let others ← tokensFrom bound rest
        return token :: others

/-- The tokens of a list of characters. -/
def tokens (s : List CodePoint) : Except TokenError (List Token) :=
  tokensFrom s.length s

end Winnow.Expr
