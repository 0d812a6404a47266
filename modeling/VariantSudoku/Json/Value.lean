import VariantSudoku.Json.Number

set_option autoImplicit false

namespace VariantSudoku.Json

inductive Value where
  | null
  | bool (value : Bool)
  | number (value : Number)
  | string (value : String)
  | list (items : List Value)
  | object (members : List (String × Value))
  deriving Repr, Inhabited

inductive Head where
  | null
  | bool (value : Bool)
  | number (value : Number)
  | string (value : String)
  | list
  | object
  deriving DecidableEq, Repr

namespace Reader

def head : Reader Head := do
  skipSpace
  match ← peek with
  | none => throw .truncated
  | some c =>
      if c = 'n' then do advance; word ['u', 'l', 'l']; return .null
      else if c = 't' then do advance; word ['r', 'u', 'e']; return .bool true
      else if c = 'f' then do advance; word ['a', 'l', 's', 'e']; return .bool false
      else if c = '"' then do advance; return .string (← string)
      else if c = '[' then do advance; return .list
      else if c = '{' then do advance; return .object
      else if c = '-' ∨ c.isDigit then do
        let n ← numeral .truncated
        return .number (← Number.ofNumeral n)
      else throw .malformed

abbrev From (α : Type) := Head → Reader α

def whole {α : Type} (read : From α) : Reader α := do
  read (← head)

def nestingLimit : Nat := 127

def nested {α : Type} (left : Nat) (body : Nat → Reader α) : Reader α :=
  match left with
  | 0 => throw .malformed
  | left + 1 => body left

def hasItem (first : Bool) : Reader Bool := do
  skipSpace
  match ← peek with
  | none => throw .truncated
  | some ']' => return false
  | some c =>
      if first then return true
      else if c = ',' then do
        advance
        skipSpace
        match ← peek with
        | none => throw .truncated
        | some ']' => throw .malformed
        | some _ => return true
      else throw .malformed

def endList : Reader Unit := do
  skipSpace
  match ← peek with
  | none => throw .truncated
  | some ']' => advance
  | some _ => throw .malformed

def itemsUpTo {α : Type} (item : Reader α) : Nat → Bool → Reader (List α)
  | 0, _ => throw .truncated
  | n + 1, first => do
      if ← hasItem first then return (← item) :: (← itemsUpTo item n false)
      else return []

def items {α : Type} (item : Reader α) : Reader (List α) := do
  let read ← itemsUpTo item ((← get).length + 1) true
  endList
  return read

def hasMember (first : Bool) : Reader Bool := do
  skipSpace
  match ← peek with
  | none => throw .truncated
  | some '}' => return false
  | some c =>
      if first then
        if c = '"' then do advance; return true else throw .malformed
      else if c = ',' then do
        advance
        skipSpace
        match ← peek with
        | none => throw .truncated
        | some '"' => advance; return true
        | some _ => throw .malformed
      else throw .malformed

def colon : Reader Unit := do
  skipSpace
  match ← peek with
  | none => throw .truncated
  | some ':' => advance
  | some _ => throw .malformed

def membersUpTo {σ : Type} (key : Reader String) (member : String → σ → Reader σ) :
    Nat → Bool → σ → Reader σ
  | 0, _, _ => throw .truncated
  | n + 1, first, state => do
      if ← hasMember first then
        let next ← member (← key) state
        membersUpTo key member n false next
      else return state

def membersWith {σ : Type} (key : Reader String) (member : String → σ → Reader σ) (start : σ) :
    Reader σ := do
  let last ← membersUpTo key member ((← get).length + 1) true start
  advance
  return last

def members {σ : Type} (member : String → σ → Reader σ) (start : σ) : Reader σ :=
  membersWith string member start

def value : Nat → From Value
  | _, .null => return .null
  | _, .bool b => return .bool b
  | _, .number n => return .number n
  | _, .string s => return .string s
  | 0, .list => throw .malformed
  | 0, .object => throw .malformed
  | left + 1, .list => return .list (← items (whole (value left)))
  | left + 1, .object => do
      let read ← members (fun key (before : List (String × Value)) => do
        colon
        return (key, ← whole (value left)) :: before) []
      return .object read.reverse

def skipWithin : Nat → Reader Unit
  | 0 => throw .truncated
  | n + 1 => do
      skipSpace
      match ← peek with
      | none => throw .truncated
      | some c =>
          if c = 'n' then do advance; word ['u', 'l', 'l']
          else if c = 't' then do advance; word ['r', 'u', 'e']
          else if c = 'f' then do advance; word ['a', 'l', 's', 'e']
          else if c = '"' then do advance; let _ ← stringWith looseEscaped
          else if c = '[' then do advance; let _ ← items (skipWithin n)
          else if c = '{' then do
            advance
            membersWith (stringWith looseEscaped) (fun _ _ => do colon; skipWithin n) ()
          else if c = '-' ∨ c.isDigit then do let _ ← numeral .malformed
          else throw .malformed

def skipValue : Reader Unit := do
  skipWithin ((← get).length + 1)

end Reader

end VariantSudoku.Json
