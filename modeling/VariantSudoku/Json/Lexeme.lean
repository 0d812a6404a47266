set_option autoImplicit false

namespace VariantSudoku.Json

inductive Fault where
  | malformed
  | truncated
  | mismatched
  deriving DecidableEq, Repr

abbrev Reader := StateT (List Char) (Except Fault)

namespace Reader

def isSpace (c : Char) : Bool :=
  c == ' ' || c == '\n' || c == '\t' || c == '\r'

def skipSpace : Reader Unit :=
  modify (List.dropWhile isSpace)

def peek : Reader (Option Char) := fun cs => .ok (cs.head?, cs)

def advance : Reader Unit :=
  modify List.tail

def take : Reader Char := fun cs =>
  match cs with
  | [] => .error .truncated
  | c :: cs => .ok (c, cs)

def word : List Char → Reader Unit
  | [] => return
  | w :: ws => do
      if (← take) = w then word ws else throw .malformed

structure Numeral where
  negative : Bool
  whole : List Char
  fraction : List Char := []
  exponent : Option (Bool × List Char) := none

def takeDigits : Reader (List Char) := fun cs =>
  .ok (cs.takeWhile Char.isDigit, cs.dropWhile Char.isDigit)

def someDigits (short : Fault) : Reader (List Char) := do
  match ← peek with
  | none => throw short
  | some c => if c.isDigit then takeDigits else throw .malformed

def wholeDigits (short : Fault) : Reader (List Char) := do
  match ← peek with
  | some '0' => do
      advance
      match ← peek with
      | some c => if c.isDigit then throw .malformed else return ['0']
      | none => return ['0']
  | _ => someDigits short

def fractionDigits (short : Fault) : Reader (List Char) := do
  match ← peek with
  | some '.' => do
      advance
      someDigits short
  | _ => return []

def exponentDigits (short : Fault) : Reader (Option (Bool × List Char)) := do
  let mark ← peek
  if mark = some 'e' ∨ mark = some 'E' then
    advance
    let sign ← peek
    if sign = some '+' ∨ sign = some '-' then advance
    return some (sign == some '-', ← someDigits short)
  else return none

def numeral (short : Fault) : Reader Numeral := do
  let negative := (← peek) == some '-'
  if negative then advance
  let whole ← wholeDigits short
  let fraction ← fractionDigits short
  let exponent ← exponentDigits short
  return { negative, whole, fraction, exponent }

def hexDigit? (c : Char) : Option Nat :=
  if c.isDigit then some (c.toNat - '0'.toNat)
  else if 'a' ≤ c ∧ c ≤ 'f' then some (c.toNat - 'a'.toNat + 10)
  else if 'A' ≤ c ∧ c ≤ 'F' then some (c.toNat - 'A'.toNat + 10)
  else none

def hasBytes : Nat → List Char → Bool
  | 0, _ => true
  | _ + 1, [] => false
  | n + 1, c :: cs => hasBytes (n + 1 - c.utf8Size) cs

def codeUnit : Reader Nat := fun cs =>
  if !hasBytes 4 cs then .error .truncated
  else
    match (cs.take 4).mapM hexDigit? with
    | some [a, b, c, d] => .ok (((a * 16 + b) * 16 + c) * 16 + d, cs.drop 4)
    | _ => .error .malformed

def expect (c : Char) : Reader Unit := do
  if (← take) = c then return else throw .malformed

def codePoint : Reader Char := do
  let first ← codeUnit
  if 0xDC00 ≤ first ∧ first ≤ 0xDFFF then throw .malformed
  else if 0xD800 ≤ first ∧ first ≤ 0xDBFF then
    expect '\\'
    expect 'u'
    let second ← codeUnit
    if 0xDC00 ≤ second ∧ second ≤ 0xDFFF then
      return Char.ofNat (0x10000 + (first - 0xD800) * 0x400 + (second - 0xDC00))
    else throw .malformed
  else return Char.ofNat first

def simpleEscape? : Char → Option Char
  | '"' => some '"'
  | '\\' => some '\\'
  | '/' => some '/'
  | 'b' => some '\x08'
  | 'f' => some '\x0c'
  | 'n' => some '\n'
  | 'r' => some '\r'
  | 't' => some '\t'
  | _ => none

def escaped : Reader Char := do
  let c ← take
  match simpleEscape? c with
  | some plain => return plain
  | none => if c = 'u' then codePoint else throw .malformed

-- What stands behind a backslash in a string that is only passed over: surrogates need no
-- partner.
def looseEscaped : Reader Char := do
  let c ← take
  match simpleEscape? c with
  | some plain => return plain
  | none =>
      if c = 'u' then return Char.ofNat (← codeUnit) else throw .malformed

def charsUpTo (escape : Reader Char) : Nat → Reader (List Char)
  | 0 => throw .truncated
  | n + 1 => do
      let c ← take
      if c = '"' then return []
      else if c = '\\' then return (← escape) :: (← charsUpTo escape n)
      else if c.toNat < 0x20 then throw .malformed
      else return c :: (← charsUpTo escape n)

def stringWith (escape : Reader Char) : Reader String := do
  let left ← get
  return String.ofList (← charsUpTo escape (left.length + 1))

def string : Reader String :=
  stringWith escaped

end Reader

end VariantSudoku.Json
