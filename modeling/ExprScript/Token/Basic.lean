import ExprScript.Decimal.Layout
import ExprScript.Source.Span

/-!
# Tokens

The words of the language: punctuation, operators, keywords, names, literals and the end of the
input. An operator has one token whatever its spelling: `and` and `&&` are the same token, which is
shown as `&&`.
-/

namespace ExprScript

inductive Punctuation where
  | leftParen | rightParen | leftBrace | rightBrace | leftBracket | rightBracket
  | dot | comma | semicolon | colon
deriving DecidableEq, Repr

inductive Sign where
  | plus | minus | asterisk | slash | percent | ampersand | pipe | caret | tilde
  | question | questionColon | bang | bangEq | bangTilde | equals | doubleEq | eqTilde
  | less | lessEq | greater | greaterEq | doubleAmpersand | doublePipe
deriving DecidableEq, Repr

inductive Keyword where
  | ifWord | elseWord | whileWord | trueWord | falseWord | nullWord | sizeWord | emptyWord
deriving DecidableEq, Repr

inductive Token where
  | punctuation (mark : Punctuation)
  | sign (operator : Sign)
  | keyword (word : Keyword)
  | identifier (name : String)
  | string (text : String)
  | integer (value : Int64)
  | float (value : Float)
  | endOfInput
deriving DecidableEq

inductive TokenClass where
  | identifier | number | string | operator | keyword | punctuation | endOfInput
deriving DecidableEq, Repr

def Punctuation.text : Punctuation → String
  | leftParen => "("
  | rightParen => ")"
  | leftBrace => "\x7b"
  | rightBrace => "\x7d"
  | leftBracket => "["
  | rightBracket => "]"
  | dot => "."
  | comma => ","
  | semicolon => ";"
  | colon => ":"

def Sign.text : Sign → String
  | plus => "+"
  | minus => "-"
  | asterisk => "*"
  | slash => "/"
  | percent => "%"
  | ampersand => "&"
  | pipe => "|"
  | caret => "^"
  | tilde => "~"
  | question => "?"
  | questionColon => "?:"
  | bang => "!"
  | bangEq => "!="
  | bangTilde => "!~"
  | equals => "="
  | doubleEq => "=="
  | eqTilde => "=~"
  | less => "<"
  | lessEq => "<="
  | greater => ">"
  | greaterEq => ">="
  | doubleAmpersand => "&&"
  | doublePipe => "||"

def Keyword.text : Keyword → String
  | ifWord => "if"
  | elseWord => "else"
  | whileWord => "while"
  | trueWord => "true"
  | falseWord => "false"
  | nullWord => "null"
  | sizeWord => "size"
  | emptyWord => "empty"

namespace Token

def tokenClass : Token → TokenClass
  | punctuation _ => .punctuation
  | sign _ => .operator
  | keyword _ => .keyword
  | identifier _ => .identifier
  | string _ => .string
  | integer _ | float _ => .number
  | endOfInput => .endOfInput

def text : Token → String
  | punctuation mark => mark.text
  | sign operator => operator.text
  | keyword word => word.text
  | identifier name => name
  | string text => "'" ++ text ++ "'"
  | integer value => Integer.text value
  | float value => Double.text value
  | endOfInput => "<eof>"

/-- The text that names a token in a message. -/
def describe : Token → String
  | identifier name => "identifier `" ++ name ++ "`"
  | string text => "string '" ++ text ++ "'"
  | integer value => "number " ++ Integer.text value
  | float value => "number " ++ Double.plainText value
  | endOfInput => "end of input"
  | other => "`" ++ other.text ++ "`"

end Token

/-- A token and the part of the source it was read from. -/
structure SpannedToken where
  token : Token
  span : Span
deriving DecidableEq

end ExprScript
