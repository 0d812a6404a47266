set_option autoImplicit false

namespace VariantSudoku.Json

def hexDigit (n : Nat) : Char :=
  if n < 10 then Char.ofNat ('0'.toNat + n) else Char.ofNat ('a'.toNat + (n - 10))

def writeChar (c : Char) : List Char :=
  if c = '"' then ['\\', '"']
  else if c = '\\' then ['\\', '\\']
  else if c = '\x08' then ['\\', 'b']
  else if c = '\x0c' then ['\\', 'f']
  else if c = '\n' then ['\\', 'n']
  else if c = '\r' then ['\\', 'r']
  else if c = '\t' then ['\\', 't']
  else if c.toNat < 0x20 then
    ['\\', 'u', '0', '0', hexDigit (c.toNat / 16), hexDigit (c.toNat % 16)]
  else [c]

def writeString (s : String) : String :=
  String.ofList ('"' :: s.toList.flatMap writeChar ++ ['"'])

def writeList (items : List String) : String :=
  "[" ++ String.intercalate "," items ++ "]"

def writeObject (members : List (String × String)) : String :=
  "\x7b" ++
    String.intercalate "," (members.map fun (key, value) => writeString key ++ ":" ++ value) ++
    "\x7d"

def writeNullable {α : Type} (write : α → String) : Option α → String
  | some a => write a
  | none => "null"

end VariantSudoku.Json
