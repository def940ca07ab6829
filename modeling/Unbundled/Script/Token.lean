import Unbundled.Script.Numeral
import Unbundled.Script.SyntaxError

/-!
Tokens of scripts, and the classes of tokens that the grammar and the attachment of comments
look at.
-/
namespace Unbundled.Script

/-- Words that some rule of the grammar names. -/
inductive Word where
  | awaitW | breakW | caseW | catchW | continueW | debuggerW | defaultW | doW | elseW | finallyW
  | forW | functionW | ifW | returnW | switchW | throwW | tryW | varW | letW | constW | whileW
  | withW | newW | thisW | superW | classW | extendsW | exportW | importW | yieldW | inW
  | instanceofW | typeofW | voidW | deleteW | nullW | trueW | falseW | enumW | implementsW
  | interfaceW | packageW | privateW | protectedW | publicW | staticW | asyncW | asW | fromW
  | getW | ofW | setW | targetW | usingW
  deriving DecidableEq, Repr

namespace Word

def text : Word → String
  | awaitW => "await"
  | breakW => "break"
  | caseW => "case"
  | catchW => "catch"
  | continueW => "continue"
  | debuggerW => "debugger"
  | defaultW => "default"
  | doW => "do"
  | elseW => "else"
  | finallyW => "finally"
  | forW => "for"
  | functionW => "function"
  | ifW => "if"
  | returnW => "return"
  | switchW => "switch"
  | throwW => "throw"
  | tryW => "try"
  | varW => "var"
  | letW => "let"
  | constW => "const"
  | whileW => "while"
  | withW => "with"
  | newW => "new"
  | thisW => "this"
  | superW => "super"
  | classW => "class"
  | extendsW => "extends"
  | exportW => "export"
  | importW => "import"
  | yieldW => "yield"
  | inW => "in"
  | instanceofW => "instanceof"
  | typeofW => "typeof"
  | voidW => "void"
  | deleteW => "delete"
  | nullW => "null"
  | trueW => "true"
  | falseW => "false"
  | enumW => "enum"
  | implementsW => "implements"
  | interfaceW => "interface"
  | packageW => "package"
  | privateW => "private"
  | protectedW => "protected"
  | publicW => "public"
  | staticW => "static"
  | asyncW => "async"
  | asW => "as"
  | fromW => "from"
  | getW => "get"
  | ofW => "of"
  | setW => "set"
  | targetW => "target"
  | usingW => "using"

/-- Every word, in the order of the definition. -/
def all : List Word :=
  [.awaitW, .breakW, .caseW, .catchW, .continueW, .debuggerW, .defaultW, .doW, .elseW, .finallyW,
   .forW, .functionW, .ifW, .returnW, .switchW, .throwW, .tryW, .varW, .letW, .constW, .whileW,
   .withW, .newW, .thisW, .superW, .classW, .extendsW, .exportW, .importW, .yieldW, .inW,
   .instanceofW, .typeofW, .voidW, .deleteW, .nullW, .trueW, .falseW, .enumW, .implementsW,
   .interfaceW, .packageW, .privateW, .protectedW, .publicW, .staticW, .asyncW, .asW, .fromW,
   .getW, .ofW, .setW, .targetW, .usingW]

def ofText? (s : String) : Option Word := all.find? fun w => w.text == s

/-- Words that are never identifiers. -/
def isKeyword : Word → Bool
  | nullW | trueW | falseW | enumW | implementsW | interfaceW | packageW | privateW
  | protectedW | publicW | staticW | asyncW | asW | fromW | getW | ofW | setW | targetW
  | usingW => false
  | _ => true

/-- Words that strict code reserves besides the keywords. -/
def isStrictReserved : Word → Bool
  | enumW | implementsW | interfaceW | packageW | privateW | protectedW | publicW
  | staticW => true
  | _ => false

/-- Words that cannot be referred to or bound in a module. -/
def isReserved (w : Word) : Bool :=
  w.isKeyword || w.isStrictReserved || w == nullW || w == trueW || w == falseW

end Word

inductive Punct where
  | lparen | rparen | lbrace | rbrace | lbracket | rbracket | semi | comma | colon | question | dot
  | ellipsis | arrow | hash | atSign | backquote | dollarBrace | bang | tilde
  | plusPlus | minusMinus
  deriving DecidableEq, Repr

def Punct.text : Punct → String
  | lparen => "("
  | rparen => ")"
  | lbrace => "\x7b"
  | rbrace => "\x7d"
  | lbracket => "["
  | rbracket => "]"
  | semi => ";"
  | comma => ","
  | colon => ":"
  | question => "?"
  | dot => "."
  | ellipsis => "..."
  | arrow => "=>"
  | hash => "#"
  | atSign => "@"
  | backquote => "`"
  | dollarBrace => "$\x7b"
  | bang => "!"
  | tilde => "~"
  | plusPlus => "++"
  | minusMinus => "--"

inductive BinaryOp where
  | eq2 | ne | eq3 | ne2 | lt | le | gt | ge | shl | shr | ushr | plus | minus | star
  | slash | percent | pow | bitOr | bitXor | bitAnd | or | and | nullish
  deriving DecidableEq, Repr

namespace BinaryOp

def text : BinaryOp → String
  | eq2 => "=="
  | ne => "!="
  | eq3 => "==="
  | ne2 => "!=="
  | lt => "<"
  | le => "<="
  | gt => ">"
  | ge => ">="
  | shl => "<<"
  | shr => ">>"
  | ushr => ">>>"
  | plus => "+"
  | minus => "-"
  | star => "*"
  | slash => "/"
  | percent => "%"
  | pow => "**"
  | bitOr => "|"
  | bitXor => "^"
  | bitAnd => "&"
  | or => "||"
  | and => "&&"
  | nullish => "??"

/-- Operators of a higher precedence bind tighter. -/
def precedence : BinaryOp → Nat
  | or | nullish => 1
  | and => 2
  | bitOr => 3
  | bitXor => 4
  | bitAnd => 5
  | eq2 | ne | eq3 | ne2 => 6
  | lt | le | gt | ge => 7
  | shl | shr | ushr => 8
  | plus | minus => 9
  | star | slash | percent => 10
  | pow => 11

end BinaryOp

inductive AssignOp where
  | assign | addA | subA | mulA | divA | modA | shlA | shrA | ushrA | orA | xorA | andA | powA
  | logAndA | logOrA | nullishA
  deriving DecidableEq, Repr

def AssignOp.text : AssignOp → String
  | assign => "="
  | addA => "+="
  | subA => "-="
  | mulA => "*="
  | divA => "/="
  | modA => "%="
  | shlA => "<<="
  | shrA => ">>="
  | ushrA => ">>>="
  | orA => "|="
  | xorA => "^="
  | andA => "&="
  | powA => "**="
  | logAndA => "&&="
  | logOrA => "||="
  | nullishA => "??="

/-- A token without its place. -/
inductive Tok where
  /-- A name, with the word that it spells if some rule names that. -/
  | word (w : Option Word) (text : String)
  | punct (p : Punct)
  | op (o : BinaryOp)
  | assign (o : AssignOp)
  | str (value : String) (raw : String)
  | num (raw : String)
  | bigint (raw : String)
  | regex (body : String) (flags : String)
  /-- A stretch of a template: as it is written, with its escapes read, and the error of the last
  escape that is malformed. -/
  | template (raw : String) (cooked : String) (fault : Option Report)
  | shebang (text : String)
  | error (report : Report)

/-- The text of a token in a diagnostic. -/
def Tok.describe : Tok → String
  | word _ text => text
  | punct p => p.text
  | op o => o.text
  | assign o => o.text
  | str value raw => "string literal (" ++ value ++ ", " ++ raw ++ ")"
  | num raw => "numeric literal (" ++ Numeral.valueText raw ++ ", " ++ raw ++ ")"
  | bigint raw => "bigint literal (" ++ Numeral.bigValueText raw ++ ", " ++ raw ++ ")"
  | regex body flags => "regexp literal (" ++ body ++ ", " ++ flags ++ ")"
  | template raw .. => "template token (" ++ raw ++ ")"
  | shebang _ => "#!"
  | error report => "<lexing error: " ++ report.error.text ++ ">"

structure Token where
  tok : Tok
  span : Span
  /-- Whether a line break stands between the token and the one before it. -/
  lineBreakBefore : Bool

/-- Whether an expression goes on behind the token. -/
def Word.opensExpression : Word → Bool
  | awaitW | caseW | defaultW | doW | elseW | returnW | throwW | newW | extendsW | yieldW | inW
  | instanceofW | typeofW | voidW | deleteW => true
  | _ => false

namespace Tok

def isPunct (p : Punct) : Tok → Bool
  | punct q => p == q
  | _ => false

def isWord (w : Word) : Tok → Bool
  | word (some v) _ => v == w
  | _ => false

def isOp (o : BinaryOp) : Tok → Bool
  | op q => o == q
  | _ => false

def isBinary : Tok → Bool
  | op _ => true
  | _ => false

def isKeyword : Tok → Bool
  | word (some w) _ => w.isKeyword
  | _ => false

/-- Whether the token is a name: any word but a keyword, `null`, `true` and `false`. -/
def isName : Tok → Bool
  | word (some w) _ => !(w.isKeyword || w == .nullW || w == .trueW || w == .falseW)
  | word none _ => true
  | _ => false

def isTemplate : Tok → Bool
  | template .. => true
  | _ => false

/-- Whether an expression goes on behind the token. -/
def opensExpression : Tok → Bool
  | word w _ => w.any Word.opensExpression
  | op _ | assign _ => true
  | punct p =>
    match p with
    | .arrow | .atSign | .ellipsis | .bang | .lparen | .lbracket | .lbrace | .semi | .comma
    | .colon | .dollarBrace | .question | .tilde => true
    | _ => false
  | _ => false

/-- Whether a block comment on the same line can belong to the token before it. -/
def keepsComments : Tok → Bool
  | str .. | num _ | bigint _ | regex .. => true
  | punct p => p == .semi || p == .lbrace || p == .rbrace || p == .dollarBrace
  | tok => tok.isName

end Tok

end Unbundled.Script
