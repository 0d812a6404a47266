set_option autoImplicit false

namespace VariantSudoku

def isValue (n : Int) : Bool :=
  -9223372036854775808 ≤ n && n ≤ 9223372036854775807

def isCoordinate (n : Int) : Bool :=
  -2147483648 ≤ n && n ≤ 2147483647

namespace Text

def numeral (digits : List Char) : Nat :=
  digits.foldl (fun n d => 10 * n + (d.toNat - '0'.toNat)) 0

def readNatural (cs : List Char) : Option Nat :=
  if !cs.isEmpty && cs.all Char.isDigit then some (numeral cs) else none

def readInteger : List Char → Option Int
  | '+' :: cs => (readNatural cs).map Int.ofNat
  | '-' :: cs => (readNatural cs).map fun n => -Int.ofNat n
  | cs => (readNatural cs).map Int.ofNat

def readValue (cs : List Char) : Option Int :=
  (readInteger cs).filter isValue

end Text

end VariantSudoku
