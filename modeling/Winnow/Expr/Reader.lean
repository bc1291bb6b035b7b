import Winnow.Expr.Token
import Winnow.Expr.Tree

/-!
# Reading expressions

A reader by binding powers: an expression is read up to the first token that binds no tighter than
the place it stands in. A head token starts an expression (`readHead`), and each token that binds
tighter extends it (`readStep`).

* `power` — the binding power of a token.
* `extend`, `readItems`, `readPairs`, `readArguments` — what is read one after another.
* `readExpr` — the expression at the head of a list of tokens.
* `Expr.parse` — the expression that a text writes.

What stands inside something else is read in the room that is left there: every reading function
hands on one place less than it has, and a text that needs more places than there are is refused.
What stands one after another is read in the same room; as many parts as the text has tokens are
enough.
-/

namespace Winnow.Expr

/-- Why a text is no expression. -/
inductive ParseError where
  /-- The text is empty. -/
  | empty
  /-- The text does not fall into tokens. -/
  | lexical
  /-- A number of the text has too many digits. -/
  | tooLong (cause : TooLong)
  /-- A literal holds an array or an object that stands too deep in others. -/
  | tooDeep (what : Json.Nesting)
  /-- A part of the text stands too deep in others. -/
  | noRoom
  /-- A token stands where it may not. -/
  | unexpected
  /-- The text ends where a token is wanted. -/
  | incomplete
  deriving DecidableEq, Inhabited

/-! ## Tokens and their powers -/

/-- How tightly a token binds what stands before it. -/
def Token.power : Token → Nat
  | pipe => 1
  | or => 2
  | and => 3
  | eq | ne | lt | le | gt | ge => 5
  | flatten => 9
  | star => 20
  | filter => 21
  | dot => 40
  | not => 45
  | leftBrace => 50
  | leftBracket => 55
  | leftParen => 60
  | _ => 0

/-- The power of the next token; the end of the text binds nothing. -/
def power : List Token → Nat
  | [] => 0
  | t :: _ => t.power

/-- A projection ends before a token that binds more weakly than this. -/
def projectionStop : Nat := 10

/-- The error for a token that is not the wanted one. -/
def unexpectedAt : List Token → ParseError
  | [] => .incomplete
  | _ :: _ => .unexpected

/-- The comparison that a token writes. -/
def Token.comparison? : Token → Option Comparison
  | eq => some .eq
  | ne => some .ne
  | lt => some .lt
  | le => some .le
  | gt => some .gt
  | ge => some .ge
  | _ => none

/-! ## Brackets -/

/-- What follows the wanted closing bracket. -/
def skipRightBracket : List Token → Except ParseError (List Token)
  | .rightBracket :: rest => .ok rest
  | rest => .error (unexpectedAt rest)

/-- What follows the wanted closing parenthesis. -/
def skipRightParen : List Token → Except ParseError (List Token)
  | .rightParen :: rest => .ok rest
  | rest => .error (unexpectedAt rest)

/-- What follows the wanted colon. -/
def skipColon : List Token → Except ParseError (List Token)
  | .colon :: rest => .ok rest
  | rest => .error (unexpectedAt rest)

/-- The key of a pair and what follows it. -/
def readKey : List Token → Except ParseError (Text × List Token)
  | .name key :: rest => .ok (key, rest)
  | .quoted key :: rest => .ok (key, rest)
  | rest => .error (unexpectedAt rest)

/-- The three places of a slice. -/
structure SliceParts where
  start : Option Int := none
  stop : Option Int := none
  step : Option Int := none

/-- The parts with a number in the place that `colons` colons lead to; a later number in one place
stands in for an earlier one. -/
def SliceParts.put (parts : SliceParts) (colons : Nat) (n : Int) : SliceParts :=
  match colons with
  | 0 => { parts with start := some n }
  | 1 => { parts with stop := some n }
  | _ => { parts with step := some n }

/-- A slice after its opening bracket: numbers between at most two colons. -/
def readSlice (parts : SliceParts) (colons : Nat) :
    List Token → Except ParseError (SliceParts × List Token)
  | .rightBracket :: rest => .ok (parts, rest)
  | .colon :: rest => if colons < 2 then readSlice parts (colons + 1) rest else .error .unexpected
  | .number n :: rest => readSlice (parts.put colons n) colons rest
  | _ => .error .unexpected

/-- What stands between brackets after an array: a position or a slice. -/
inductive Subscript where
  | position (n : Int)
  | slice (parts : SliceParts)

/-- A subscript after its opening bracket; a colon among its first two tokens makes it a slice. -/
def readSubscript : List Token → Except ParseError (Subscript × List Token)
  | .colon :: rest => do
      let (parts, rest) ← readSlice {} 0 (.colon :: rest)
      return (.slice parts, rest)
  | .number n :: .colon :: rest => do
      let (parts, rest) ← readSlice {} 0 (.number n :: .colon :: rest)
      return (.slice parts, rest)
  | .number n :: rest => do
      let rest ← skipRightBracket rest
      return (.position n, rest)
  | rest => .error (unexpectedAt rest)

/-! ## One after another

Each of these takes a reader of one part, and reads at most as many parts as its number says. No
part is empty, so the number of tokens is enough. -/

/-- What is read, and the tokens after it. -/
abbrev Reading (α : Type) := α × List Token

/-- The expression that `left` is extended to, by steps as long as the next token has a power above
`bound`. -/
def extend (step : Expr → List Token → Except ParseError (Reading Expr)) (bound : Nat) :
    Nat → Expr → List Token → Except ParseError (Reading Expr)
  | 0, left, tokens => .ok (left, tokens)
  | count + 1, left, tokens =>
      if bound < power tokens then do
        let (left, rest) ← step left tokens
        extend step bound count left rest
      else .ok (left, tokens)

/-- The expressions of a list after its opening bracket, at least one. -/
def readItems (read : List Token → Except ParseError (Reading Expr)) :
    Nat → List Token → Except ParseError (Reading (List Expr))
  | 0, _ => .error .incomplete
  | count + 1, tokens => do
      let (item, rest) ← read tokens
      match rest with
      | .rightBracket :: rest => return ([item], rest)
      | .comma :: rest =>
          let (items, rest) ← readItems read count rest
          return (item :: items, rest)
      | rest => .error (unexpectedAt rest)

/-- The pairs of a hash after its opening brace, at least one; the comma between two pairs may be
left out. -/
def readPairs (read : List Token → Except ParseError (Reading Expr)) :
    Nat → List Token → Except ParseError (Reading (List (Text × Expr)))
  | 0, _ => .error .incomplete
  | count + 1, tokens => do
      let (key, rest) ← readKey tokens
      let rest ← skipColon rest
      let (value, rest) ← read rest
      match rest with
      | .rightBrace :: rest => return ([(key, value)], rest)
      | .comma :: rest =>
          let (pairs, rest) ← readPairs read count rest
          return ((key, value) :: pairs, rest)
      | rest =>
          let (pairs, rest) ← readPairs read count rest
          return ((key, value) :: pairs, rest)

/-- The arguments of a call after its opening parenthesis; the comma after an argument may be left
out. -/
def readArguments (read : List Token → Except ParseError (Reading Expr)) :
    Nat → List Token → Except ParseError (Reading (List Expr))
  | 0, _ => .error .incomplete
  | count + 1, tokens =>
      match tokens with
      | .rightParen :: rest => .ok ([], rest)
      | _ => do
          let (argument, rest) ← read tokens
          match rest with
          | .comma :: rest =>
              let (arguments, rest) ← readArguments read count rest
              return (argument :: arguments, rest)
          | rest =>
              let (arguments, rest) ← readArguments read count rest
              return (argument :: arguments, rest)

/-! ## Expressions -/

mutual

/-- The expression at the head of a list of tokens, up to the first token whose power is not above
`bound`. -/
def readExpr (count : Nat) : Nat → Nat → List Token → Except ParseError (Reading Expr)
  | 0, _, _ => .error .noRoom
  | room + 1, bound, tokens => do
      let (left, rest) ← readHead count room tokens
      extend (readStep count room) bound count left rest

/-- The expression that the first token starts. -/
def readHead (count : Nat) : Nat → List Token → Except ParseError (Reading Expr)
  | 0, _ => .error .noRoom
  | room + 1, tokens =>
      match tokens with
      | [] => .error .incomplete
      | .literal value :: rest => .ok (.literal value, rest)
      | .name s :: rest => .ok (.field s, rest)
      | .quoted _ :: .leftParen :: _ => .error .unexpected
      | .quoted s :: rest => .ok (.field s, rest)
      | .current :: rest => .ok (.current, rest)
      | .star :: .rightBracket :: rest =>
          .ok (.projectValues .current .current, .rightBracket :: rest)
      | .star :: rest => do
          let (right, rest) ← readProjected count room Token.star.power rest
          return (.projectValues .current right, rest)
      | .filter :: _ => readStep count room .current tokens
      | .leftBrace :: rest => do
          let (pairs, rest) ← readHash count room rest
          return (.hash pairs, rest)
      | .leftParen :: rest => do
          let (e, rest) ← readExpr count room 0 rest
          let rest ← skipRightParen rest
          return (e, rest)
      | .flatten :: rest => do
          let (right, rest) ← readProjected count room Token.flatten.power rest
          return (.project (.flatten .current) right, rest)
      | .not :: rest => do
          let (e, rest) ← readExpr count room Token.not.power rest
          return (.not e, rest)
      | .reference :: rest => do
          let (e, rest) ← readExpr count room 0 rest
          return (.reference e, rest)
      | .leftBracket :: .number n :: rest => readSubscripted count room .current (.number n :: rest)
      | .leftBracket :: .colon :: rest => readSubscripted count room .current (.colon :: rest)
      | .leftBracket :: .star :: .rightBracket :: rest => do
          let (right, rest) ← readProjected count room Token.star.power rest
          return (.project .current right, rest)
      | .leftBracket :: rest => do
          let (items, rest) ← readList count room rest
          return (.list items, rest)
      | _ :: _ => .error .unexpected

/-- The expression that the next token extends `left` to. -/
def readStep (count : Nat) : Nat → Expr → List Token → Except ParseError (Reading Expr)
  | 0, _, _ => .error .noRoom
  | room + 1, left, tokens =>
      match tokens with
      | .dot :: .star :: rest => do
          let (right, rest) ← readProjected count room Token.dot.power rest
          return (.projectValues left right, rest)
      | .dot :: rest => do
          let (right, rest) ← readDotted count room Token.dot.power rest
          return (.sub left right, rest)
      | .pipe :: rest => do
          let (right, rest) ← readExpr count room Token.pipe.power rest
          return (.pipe left right, rest)
      | .or :: rest => do
          let (right, rest) ← readExpr count room Token.or.power rest
          return (.or left right, rest)
      | .and :: rest => do
          let (right, rest) ← readExpr count room Token.and.power rest
          return (.and left right, rest)
      | .leftParen :: rest =>
          match left with
          | .field name => do
              let (arguments, rest) ← readArguments (readExpr count room 0) count rest
              return (.call name arguments, rest)
          | _ => .error .unexpected
      | .filter :: rest => do
          let (condition, rest) ← readExpr count room 0 rest
          let rest ← skipRightBracket rest
          match rest with
          | .flatten :: _ => return (.select left condition .current, rest)
          | _ =>
              let (right, rest) ← readProjected count room Token.filter.power rest
              return (.select left condition right, rest)
      | .flatten :: rest => do
          let (right, rest) ← readProjected count room Token.flatten.power rest
          return (.project (.flatten left) right, rest)
      | .leftBracket :: .star :: rest => do
          let rest ← skipRightBracket rest
          let (right, rest) ← readProjected count room Token.star.power rest
          return (.project left right, rest)
      | .leftBracket :: rest => readSubscripted count room left rest
      | token :: rest =>
          match token.comparison? with
          | some comparison => readCompared count room comparison left rest
          | none => .error .unexpected
      | [] => .error .incomplete

/-- A subscript of `left` after its opening bracket. A slice is a projection over its items, unless
it follows another subscript. -/
def readSubscripted (count : Nat) : Nat → Expr → List Token → Except ParseError (Reading Expr)
  | 0, _, _ => .error .noRoom
  | room + 1, left, tokens => do
      let (subscript, rest) ← readSubscript tokens
      match subscript with
      | .position n => return (.index left n, rest)
      | .slice parts =>
          let sliced := Expr.slice left parts.start parts.stop parts.step
          if isSubscripted left then return (sliced, rest)
          else
            let (right, rest) ← readProjected count room Token.star.power rest
            return (.project sliced right, rest)

/-- A comparison of `left` after its mark. -/
def readCompared (count : Nat) :
    Nat → Comparison → Expr → List Token → Except ParseError (Reading Expr)
  | 0, _, _, _ => .error .noRoom
  | room + 1, comparison, left, tokens => do
      let (right, rest) ← readExpr count room Token.eq.power tokens
      return (.compare comparison left right, rest)

/-- What is done to each item of a projection. -/
def readProjected (count : Nat) : Nat → Nat → List Token → Except ParseError (Reading Expr)
  | 0, _, _ => .error .noRoom
  | room + 1, bound, tokens =>
      if power tokens < projectionStop then .ok (.current, tokens)
      else match tokens with
        | .leftBracket :: _ => readExpr count room bound tokens
        | .filter :: _ => readExpr count room bound tokens
        | .dot :: rest => readDotted count room bound rest
        | _ => .error .unexpected

/-- What follows a dot. -/
def readDotted (count : Nat) : Nat → Nat → List Token → Except ParseError (Reading Expr)
  | 0, _, _ => .error .noRoom
  | room + 1, bound, tokens =>
      match tokens with
      | .name _ :: _ => readExpr count room bound tokens
      | .quoted _ :: _ => readExpr count room bound tokens
      | .star :: _ => readExpr count room bound tokens
      | .leftBracket :: rest => do
          let (items, rest) ← readList count room rest
          return (.list items, rest)
      | .leftBrace :: rest => do
          let (pairs, rest) ← readHash count room rest
          return (.hash pairs, rest)
      | _ => .error .unexpected

/-- The expressions of a list after its opening bracket. -/
def readList (count : Nat) : Nat → List Token → Except ParseError (Reading (List Expr))
  | 0, _ => .error .noRoom
  | room + 1, tokens => readItems (readExpr count room 0) count tokens

/-- The pairs of a hash after its opening brace. -/
def readHash (count : Nat) : Nat → List Token → Except ParseError (Reading (List (Text × Expr)))
  | 0, _ => .error .noRoom
  | room + 1, tokens => readPairs (readExpr count room 0) count tokens

end

/-! ## Whole texts -/

variable [Limits]

/-- The expression that all tokens together write. -/
def ofTokens (tokens : List Token) : Except ParseError Expr := do
  let (e, rest) ← readExpr tokens.length Limits.queryPlaces 0 tokens
  if rest.isEmpty then return e else .error .unexpected

/-- The expression that a list of characters writes. -/
def parseL (s : List CodePoint) : Except ParseError Expr :=
  if s.isEmpty then .error .empty
  else match tokens s with
    | .ok ts => ofTokens ts
    | .error .malformed => .error .lexical
    | .error (.tooLong cause) => .error (.tooLong cause)
    | .error (.tooDeep what) => .error (.tooDeep what)

/-- The expression that a text writes. -/
def parse (s : Text) : Except ParseError Expr := parseL s.toList

end Winnow.Expr
