import ExprScript.Decimal.Reading
import ExprScript.Text.Alphabetic
import ExprScript.Text.Blank
import ExprScript.Text.Hexadecimal
import ExprScript.Text.Numeric
import ExprScript.Token.Basic

/-!
# Scanning one token

`scan` reads the first token or comment of a text. It depends on that text alone and not on where
it stands, and it tells how many characters it read, also when it fails: reading may go on behind
them.
-/

namespace ExprScript

/-- Why a text does not start with a token. -/
inductive LexCause where
  | unrecognized (c : Char)
  | unterminatedString
  | unterminatedComment
  | invalidEscape (c : Char)
  | invalidNumber (digits : String)
deriving DecidableEq, Repr

def LexCause.text : LexCause → String
  | unrecognized c => "unrecognized character `" ++ c.toString ++ "`"
  | unterminatedString => "unterminated string"
  | unterminatedComment => "unterminated block comment"
  | invalidEscape c => "invalid escape sequence `\\" ++ c.toString ++ "`"
  | invalidNumber digits => "unparsable number `" ++ digits ++ "`"

/-- What was read, and how many characters were. -/
structure Scanned (α : Type) where
  outcome : Except LexCause α
  width : Nat

namespace Scanned

def token (t : Token) (width : Nat) : Scanned (Option Token) := ⟨.ok (some t), width⟩

def fault {α : Type} (cause : LexCause) (width : Nat) : Scanned α := ⟨.error cause, width⟩

def map {α β : Type} (f : α → β) (s : Scanned α) : Scanned β := ⟨s.outcome.map f, s.width⟩

/-- The same outcome with more characters read before. -/
def widen {α : Type} (count : Nat) (s : Scanned α) : Scanned α := ⟨s.outcome, count + s.width⟩

end Scanned

namespace Scan

/-- How many characters a line comment has behind its opening, the line end included. -/
def lineComment (text : List Char) : Nat :=
  let line := text.takeWhile (· ≠ '\n')
  line.length + ((text.drop line.length).take 1).length

/-- How many characters a block comment has behind its opening, the closing included. -/
def blockComment? : List Char → Option Nat
  | [] => none
  | '*' :: '/' :: _ => some 2
  | _ :: rest => (blockComment? rest).map (· + 1)

/-- The characters with an escape of their own. -/
def namedEscapes : List (Char × Char) :=
  [('n', '\n'), ('t', '\t'), ('r', '\r'), ('b', '\x08'), ('f', '\x0c'), ('0', '\x00'),
   ('\\', '\\'), ('\'', '\''), ('"', '"')]

/-- How many characters are read after `\u` before the escape is refused: the digits, up to four,
and what stands in the place of a missing one. -/
def refusedHex (text : List Char) : Nat :=
  let digits := (text.take 4).takeWhile fun c => (Text.hexValue? c).isSome
  (text.take (min 4 (digits.length + 1))).length

/-- Reads the inside of a string up to and including the closing `quote`. -/
def string (quote : Char) : List Char → Scanned (List Char)
  | [] => .fault .unterminatedString 0
  | c :: rest =>
    if c = quote then ⟨.ok [], 1⟩
    else if c ≠ '\\' then ((string quote rest).map (c :: ·)).widen 1
    else match rest with
      | [] => .fault .unterminatedString 1
      | 'u' :: a :: b :: d :: e :: more =>
        match Text.hexCharacter? [a, b, d, e] with
        | some decoded => ((string quote more).map (decoded :: ·)).widen 6
        | none => .fault (.invalidEscape 'u') (2 + refusedHex (a :: b :: d :: e :: more))
      | 'u' :: more => .fault (.invalidEscape 'u') (2 + refusedHex more)
      | name :: more =>
        match namedEscapes.lookup name with
        | some decoded => ((string quote more).map (decoded :: ·)).widen 2
        | none => .fault (.invalidEscape name) 2

/-- Reads a number: digits, and a point with digits after it. -/
def number (text : List Char) : Scanned Token :=
  let whole := text.takeWhile Char.isDigit
  match text.dropWhile Char.isDigit with
  | '.' :: digit :: rest =>
    if digit.isDigit then
      let lexeme := whole ++ '.' :: (digit :: rest).takeWhile Char.isDigit
      match Double.read? lexeme with
      | some value => ⟨.ok (.float value), lexeme.length⟩
      | none => .fault (.invalidNumber (String.ofList lexeme)) lexeme.length
    else integer whole
  | _ => integer whole
where
  integer (digits : List Char) : Scanned Token :=
    match Integer.read? digits with
    | some value => ⟨.ok (.integer value), digits.length⟩
    | none => .fault (.invalidNumber (String.ofList digits)) digits.length

def isNameStart (c : Char) : Bool :=
  Text.isAlphabetic c || c == '_' || c == '$'

def isNamePart (c : Char) : Bool :=
  isNameStart c || Text.isNumeric c

/-- The words that are not names: keywords and operators written as words. -/
def reservedWords : List (String × Token) :=
  [("if", .keyword .ifWord), ("else", .keyword .elseWord), ("while", .keyword .whileWord),
   ("true", .keyword .trueWord), ("false", .keyword .falseWord), ("null", .keyword .nullWord),
   ("size", .keyword .sizeWord), ("empty", .keyword .emptyWord),
   ("and", .sign .doubleAmpersand), ("or", .sign .doublePipe), ("not", .sign .bang),
   ("eq", .sign .doubleEq), ("ne", .sign .bangEq), ("lt", .sign .less), ("le", .sign .lessEq),
   ("gt", .sign .greater), ("ge", .sign .greaterEq), ("div", .sign .slash),
   ("mod", .sign .percent)]

def word (text : String) : Token :=
  (reservedWords.lookup text).getD (.identifier text)

/-- The sign `long` when the text goes on with `next`, else the sign `short`. -/
def longest (next : Char) (long short : Sign) (rest : List Char) : Scanned (Option Token) :=
  if rest.head? = some next then .token (.sign long) 2 else .token (.sign short) 1

end Scan

open Scan in
/-- Reads the first token of a text that does not start with white space; nothing when it starts
with a comment. -/
def scan : List Char → Scanned (Option Token)
  | [] => .token .endOfInput 0
  | c :: rest =>
    match c with
    | '(' => .token (.punctuation .leftParen) 1
    | ')' => .token (.punctuation .rightParen) 1
    | '{' => .token (.punctuation .leftBrace) 1
    | '}' => .token (.punctuation .rightBrace) 1
    | '[' => .token (.punctuation .leftBracket) 1
    | ']' => .token (.punctuation .rightBracket) 1
    | '.' => .token (.punctuation .dot) 1
    | ',' => .token (.punctuation .comma) 1
    | ';' => .token (.punctuation .semicolon) 1
    | ':' => .token (.punctuation .colon) 1
    | '+' => .token (.sign .plus) 1
    | '-' => .token (.sign .minus) 1
    | '*' => .token (.sign .asterisk) 1
    | '%' => .token (.sign .percent) 1
    | '^' => .token (.sign .caret) 1
    | '~' => .token (.sign .tilde) 1
    | '#' =>
      match rest with
      | '#' :: line => ⟨.ok none, 2 + lineComment line⟩
      | _ => .fault (.unrecognized '#') 1
    | '/' =>
      match rest with
      | '/' :: line => ⟨.ok none, 2 + lineComment line⟩
      | '*' :: inside =>
        match blockComment? inside with
        | some width => ⟨.ok none, 2 + width⟩
        | none => .fault .unterminatedComment (2 + inside.length)
      | _ => .token (.sign .slash) 1
    | '&' => longest '&' .doubleAmpersand .ampersand rest
    | '|' => longest '|' .doublePipe .pipe rest
    | '?' => longest ':' .questionColon .question rest
    | '<' => longest '=' .lessEq .less rest
    | '>' => longest '=' .greaterEq .greater rest
    | '=' =>
      match rest with
      | '=' :: _ => .token (.sign .doubleEq) 2
      | '~' :: _ => .token (.sign .eqTilde) 2
      | _ => .token (.sign .equals) 1
    | '!' =>
      match rest with
      | '=' :: _ => .token (.sign .bangEq) 2
      | '~' :: _ => .token (.sign .bangTilde) 2
      | _ => .token (.sign .bang) 1
    | '"' => ((string '"' rest).map fun s => some (.string (String.ofList s))).widen 1
    | '\'' => ((string '\'' rest).map fun s => some (.string (String.ofList s))).widen 1
    | _ =>
      if c.isDigit then (number (c :: rest)).map some
      else if isNameStart c then
        let name := c :: rest.takeWhile isNamePart
        .token (word (String.ofList name)) name.length
      else .fault (.unrecognized c) 1

end ExprScript
