import BuildGate.Decimal.Read

namespace BuildGate.Text.Escape

def scalar? (n : Nat) : Option Char :=
  if n < 0xd800 ∨ (0xdfff < n ∧ n < 0x110000) then some (Char.ofNat n) else none

def numbered (width : Nat) (cs : List Char) : Option (Char × List Char) :=
  if (cs.take width).length = width then
    ((Decimal.digits? 16 (cs.take width)).bind scalar?).map (·, cs.drop width)
  else none

def read : List Char → Option (Char × List Char)
  | 'b' :: rest => some ('\x08', rest)
  | 't' :: rest => some ('\t', rest)
  | 'n' :: rest => some ('\n', rest)
  | 'f' :: rest => some ('\x0c', rest)
  | 'r' :: rest => some ('\r', rest)
  | '"' :: rest => some ('"', rest)
  | '\\' :: rest => some ('\\', rest)
  | 'u' :: rest => numbered 4 rest
  | 'U' :: rest => numbered 8 rest
  | _ => none

end BuildGate.Text.Escape
