import BuildGate.Decimal.Read
import BuildGate.Log.Notice
import BuildGate.Pattern.Reader
import BuildGate.Text.Blank
import BuildGate.Text.Bytes
import BuildGate.Text.CharProperty

namespace BuildGate.Log

structure Directive where
  origin : Option String
  fields : List String
  limit : Option Level
  deriving DecidableEq, Repr

structure Filter where
  directives : List Directive
  deriving DecidableEq, Repr

namespace Record

def fieldNames (r : Record) : List String := "message" :: r.fields.map Prod.fst ++ r.unlisted

end Record

namespace Directive

def covers (d : Directive) (r : Record) : Bool :=
  (match d.origin with
    | none => true
    | some origin => origin.toList.isPrefixOf r.origin.toList)
  && d.fields.all r.fieldNames.contains

def admits (d : Directive) (r : Record) : Bool :=
  match d.limit with
  | some limit => r.level.isWithin limit
  | none => false

def originWeight (d : Directive) : Nat :=
  match d.origin with
  | none => 0
  | some origin => origin.utf8ByteSize + 1

def originText (d : Directive) : String := d.origin.getD ""

/-- One directive comes closer than another: by a longer origin, then by more fields, then by what stands
    later in the alphabet. Where two are equally close, both are the closer one. -/
def isAtLeastAsClose (d e : Directive) : Bool :=
  if d.originWeight ≠ e.originWeight then e.originWeight < d.originWeight
  else if d.fields.length ≠ e.fields.length then e.fields.length < d.fields.length
  else if d.originText ≠ e.originText then e.originText < d.originText
  else if d.fields ≠ e.fields then decide (e.fields < d.fields)
  else true

end Directive

namespace Filter

def deciding (f : Filter) (r : Record) : Option Directive :=
  f.directives.foldl
    (fun best d =>
      if !d.covers r then best
      else
        match best with
        | none => some d
        | some other => if d.isAtLeastAsClose other then some d else some other)
    none

def admits (f : Filter) (r : Record) : Bool :=
  match f.deciding r with
  | some d => d.admits r
  | none => false

def limit? (word : List Char) : Option (Option Level) :=
  let number :=
    match Decimal.uint64? (String.ofList word) with
    | some n => [none, some .error, some .warn, some .info, some .debug, some .trace][n.toNat]?
    | none => none
  number <|>
    [("", some .error), ("error", some .error), ("warn", some .warn), ("info", some .info),
      ("debug", some .debug), ("trace", some .trace), ("off", none)].lookup (Decimal.lowerAscii word)

def limitAfter (word : List Char) : Option (Option Level) :=
  if word.isEmpty then some (some .trace) else limit? word

def beginsDirective (c : Char) : Bool :=
  c == '-' || c == ':' || c == '_' || Text.isAlphanumeric c

/-- A value that a field can be compared with: a truth value, a number or a pattern that can be matched
    byte by byte. -/
def isFieldValue (word : List Char) : Bool :=
  let text := String.ofList word
  text == "true" || text == "false" || (Decimal.float? text).isSome
    || ((Pattern.read? text).toOption.any fun p => !p.asksForUnicodeWords)

structure FieldCondition where
  name : String
  asksForValue : Bool

def fieldCondition? (inside : List Char) : Option FieldCondition :=
  let name := String.ofList (inside.takeWhile (· != '='))
  if inside.isEmpty then none
  else
    match inside.dropWhile (· != '=') with
    | [] => some ⟨name, false⟩
    | _ :: value => if isFieldValue (value.takeWhile (· != '=')) then some ⟨name, true⟩ else none

structure Bracketed where
  nameEnd : Nat
  field : Option (Nat × Nat)
  level : Option Nat

def behindBracket (offset : Nat) : List Char → Option (Option Nat)
  | [] => some none
  | '=' :: _ => some (some (offset + 1))
  | _ => none

def bracketed? (start : Nat) (cs : List Char) : Option Bracketed := do
  let name := cs.takeWhile fun c => c != ']' && c != '\x7b'
  let nameEnd := start + Text.byteCount name
  match cs.dropWhile fun c => c != ']' && c != '\x7b' with
  | ']' :: rest => (behindBracket (nameEnd + 1) rest).map (⟨nameEnd, none, ·⟩)
  | _ :: rest =>
    let inside := rest.takeWhile (· != '\x7d')
    let fieldEnd := nameEnd + 1 + Text.byteCount inside
    match rest.dropWhile (· != '\x7d') with
    | _ :: ']' :: rest =>
      (behindBracket (fieldEnd + 2) rest).map (⟨nameEnd, some (nameEnd + 1, fieldEnd), ·⟩)
    | _ => none
  | [] => none

/-- The directive whose parts are known. Conditions on the surroundings of a record, or on the value of a
    field, are well formed, but no record meets them. -/
def ofBracketed (text : List Char) (origin : Option String) (start : Nat) (parts : Bracketed) :
    Option (Option Directive) := do
  let name ← Text.bytesBetween? start parts.nameEnd text
  let limit ←
    match parts.level with
    | none => some (some .trace)
    | some start => (Text.bytesFrom? start text).bind limitAfter
  match parts.field with
  | none => some none
  | some (start, finish) =>
    let field ← (Text.bytesBetween? start finish text).bind fieldCondition?
    if name.isEmpty && !field.asksForValue then some (some ⟨origin, [field.name], limit⟩)
    else some none

/-- One directive, or none for one that no record meets. Its form is judged without the blanks around it,
    and the offsets of its parts are counted there, but the parts are cut from the text as it stands. -/
def directive? (text : List Char) : Option (Option Directive) := do
  let cs := Text.trimChars text
  match cs with
  | [] => none
  | '[' :: rest =>
    let parts ← bracketed? 1 rest
    ofBracketed text none 1 parts
  | c :: _ =>
    if !beginsDirective c then none
    else
      let offset := Text.byteCount (cs.takeWhile fun c => c != '=' && c != '[')
      let origin := (Text.bytesBetween? 0 offset text).map String.ofList
      match cs.dropWhile fun c => c != '=' && c != '[' with
      | [] =>
        match limit? text with
        | some limit => some (some ⟨none, [], limit⟩)
        | none => some (some ⟨some (String.ofList text), [], some .trace⟩)
      | '=' :: _ =>
        let origin ← origin
        let limit ← (Text.bytesFrom? (offset + 1) text).bind limitAfter
        some (some ⟨some origin, [], limit⟩)
      | _ :: rest =>
        let origin ← origin
        let parts ← bracketed? (offset + 1) rest
        ofBracketed text (some origin) (offset + 1) parts

def ofDirectives (found : List (Option Directive)) : Filter :=
  if found.isEmpty then ⟨[⟨none, [], some .error⟩]⟩ else ⟨found.filterMap id⟩

def pieces (text : String) : List (List Char) :=
  ((text.splitOn ",").filter (· ≠ "")).map String.toList

def read? (text : String) : Option Filter := ((pieces text).mapM directive?).map ofDirectives

def ofText (text : String) : Filter := ofDirectives ((pieces text).filterMap directive?)

end Filter

end BuildGate.Log
