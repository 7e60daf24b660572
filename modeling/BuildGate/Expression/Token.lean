import BuildGate.Expression.Error
import BuildGate.Text.Blank

namespace BuildGate.Expression

inductive Assignment where
  | plain
  | add
  | subtract
  | multiply
  | divide
  | modulate
  | power
  | and
  | or
  deriving DecidableEq, Repr

inductive Token where
  | plus
  | minus
  | star
  | slash
  | percent
  | hat
  | equal
  | unequal
  | greater
  | less
  | greaterOrEqual
  | lessOrEqual
  | and
  | or
  | not
  | opening
  | closing
  | assign (by_ : Assignment)
  | comma
  | semicolon
  | identifier (name : String)
  | literal (value : Datum)

namespace Token

def startsValue : Token → Bool
  | opening | identifier _ | literal _ => true
  | _ => false

def endsValue : Token → Bool
  | closing | identifier _ | literal _ => true
  | _ => false

def isAssignment : Token → Bool
  | assign _ => true
  | _ => false

end Token

inductive Sign where
  | plus
  | minus
  | star
  | slash
  | percent
  | hat
  | equals
  | bang
  | greater
  | less
  | ampersand
  | bar
  deriving DecidableEq, Repr

inductive Piece where
  | word (spelling : String)
  | blank
  | sign (s : Sign)
  | whole (token : Token) (shown : String)

namespace Sign

def shown : Sign → String
  | plus => "+"
  | minus => "-"
  | star => "*"
  | slash => "/"
  | percent => "%"
  | hat => "^"
  | equals => "="
  | bang => "!"
  | greater => ">"
  | less => "<"
  | ampersand => "&"
  | bar => "|"

end Sign

namespace Piece

def shown : Piece → String
  | word spelling => spelling
  | blank => " "
  | sign s => s.shown
  | whole _ shown => shown

def ofChar (c : Char) : Piece :=
  match c with
  | '+' => sign .plus
  | '-' => sign .minus
  | '*' => sign .star
  | '/' => sign .slash
  | '%' => sign .percent
  | '^' => sign .hat
  | '=' => sign .equals
  | '!' => sign .bang
  | '>' => sign .greater
  | '<' => sign .less
  | '&' => sign .ampersand
  | '|' => sign .bar
  | '(' => whole .opening "("
  | ')' => whole .closing ")"
  | ',' => whole .comma ","
  | ';' => whole .semicolon ";"
  | c => if Text.isBlank c then blank else word c.toString

def ofString (content : String) : Piece :=
  whole (.literal (.text content)) (Text.Quoted.encode content)

/-- Adds a piece to those before it, latest first; a word continues the word before it. -/
def push : List Piece → Piece → List Piece
  | word s :: before, word t => word (s ++ t) :: before
  | before, piece => piece :: before

inductive Mode where
  | code
  | lineComment
  | blockComment
  | string (content : List Char)

def scan (mode : Mode) (before : List Piece) : List Char → Except Error (List Piece)
  | [] =>
    match mode with
    | .code | .lineComment => .ok before.reverse
    | .blockComment => .error .unmatchedComment
    | .string _ => .error .unmatchedQuote
  | [c] =>
    match mode with
    | .code =>
      if c = '"' then .error .unmatchedQuote else .ok (push before (ofChar c)).reverse
    | .lineComment => .ok before.reverse
    | .blockComment => .error .unmatchedComment
    | .string content =>
      if c = '"' then .ok (push before (ofString (String.ofList content.reverse))).reverse
      else if c = '\\' then .error (.illegalEscape "\\")
      else .error .unmatchedQuote
  | c :: d :: rest =>
    match mode with
    | .code =>
      if c = '"' then scan (.string []) before (d :: rest)
      else if c = '/' ∧ d = '/' then scan .lineComment before rest
      else if c = '/' ∧ d = '*' then scan .blockComment before rest
      else scan .code (push before (ofChar c)) (d :: rest)
    | .lineComment => scan (if c = '\n' then .code else .lineComment) before (d :: rest)
    | .blockComment =>
      if c = '*' ∧ d = '/' then scan .code before rest
      else scan .blockComment before (d :: rest)
    | .string content =>
      if c = '"' then
        scan .code (push before (ofString (String.ofList content.reverse))) (d :: rest)
      else if c = '\\' then
        if d = '"' ∨ d = '\\' then scan (.string (d :: content)) before rest
        else .error (.illegalEscape (String.ofList ['\\', d]))
      else scan (.string (c :: content)) before (d :: rest)

end Piece

namespace Token

def ofWord? (word : String) : Option Token :=
  let int? :=
    match word.toList with
    | '0' :: 'x' :: digits => Decimal.int64Of? 16 digits
    | '0' :: 'o' :: digits => Decimal.int64Of? 8 digits
    | '0' :: 'b' :: digits => Decimal.int64Of? 2 digits
    | _ => Decimal.int64? word
  match int? with
  | some n => some (literal (.int n))
  | none =>
    match Decimal.float? word with
    | some x => some (literal (.float x))
    | none =>
      if word = "true" then some (literal (.boolean true))
      else if word = "false" then some (literal (.boolean false))
      else none

def ofSign : Sign → Option (Token × Token)
  | .plus => some (plus, assign .add)
  | .minus => some (minus, assign .subtract)
  | .star => some (star, assign .multiply)
  | .slash => some (slash, assign .divide)
  | .percent => some (percent, assign .modulate)
  | .hat => some (hat, assign .power)
  | .equals => some (assign .plain, equal)
  | .bang => some (not, unequal)
  | .greater => some (greater, greaterOrEqual)
  | .less => some (less, lessOrEqual)
  | .ampersand | .bar => none

def scientific? (word : String) (s : Sign) (third : Piece) : Option Token :=
  if s = .plus ∨ s = .minus then
    (Decimal.float? (word ++ s.shown ++ third.shown)).map fun x => literal (.float x)
  else none

def ofPieces : List Piece → Except Error (List Token)
  | [] => .ok []
  | .blank :: rest => ofPieces rest
  | .whole token _ :: rest => (ofPieces rest).map (token :: ·)
  | .word w :: .sign s :: third :: rest =>
    match ofWord? w with
    | some token => (ofPieces (.sign s :: third :: rest)).map (token :: ·)
    | none =>
      match scientific? w s third with
      | some token => (ofPieces rest).map (token :: ·)
      | none => (ofPieces (.sign s :: third :: rest)).map (identifier w :: ·)
  | .word w :: rest => (ofPieces rest).map ((ofWord? w).getD (identifier w) :: ·)
  | .sign .ampersand :: .sign .ampersand :: .sign .equals :: rest =>
    (ofPieces rest).map (assign .and :: ·)
  | .sign .ampersand :: .sign .ampersand :: rest => (ofPieces rest).map (and :: ·)
  | .sign .bar :: .sign .bar :: .sign .equals :: rest =>
    (ofPieces rest).map (assign .or :: ·)
  | .sign .bar :: .sign .bar :: rest => (ofPieces rest).map (or :: ·)
  | .sign s :: .sign .equals :: rest =>
    match ofSign s with
    | some (_, combined) => (ofPieces rest).map (combined :: ·)
    | none => .error (.strayPiece s.shown Sign.equals.shown)
  | .sign s :: rest =>
    match ofSign s with
    | some (alone, _) => (ofPieces rest).map (alone :: ·)
    | none =>
      match rest with
      | second :: _ => .error (.strayPiece s.shown second.shown)
      | [] => .error (.lonePiece s.shown)

def read (text : String) : Except Error (List Token) :=
  (Piece.scan .code [] text.toList).bind ofPieces

end Token

end BuildGate.Expression
