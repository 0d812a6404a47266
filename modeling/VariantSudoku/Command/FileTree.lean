import VariantSudoku.Command
import VariantSudoku.Text.Pieces

set_option autoImplicit false

namespace VariantSudoku.Command

abbrev Place := List String

inductive Node where
  | directory
  | file (text : String)
  | full
  | unusable (error : FileError)
  deriving DecidableEq, Repr

structure FileTree where
  -- Of two nodes at one place the first counts.
  nodes : List (Place × Node)
  home : Place := []
  deriving Repr

def names (path : String) : List String :=
  ((Text.pieces (· == '/') path.toList).filter (!·.isEmpty)).map String.ofList

def isAbsolute (path : String) : Bool :=
  path.toList.head? == some '/'

def meansDirectory (path : String) : Bool :=
  path.toList.getLast? == some '/'

def maxNameSize : Nat := 255

def maxPathSize : Nat := 4095

namespace FileTree

def node? (t : FileTree) (place : Place) : Option Node :=
  match t.nodes.lookup place with
  | some node => some node
  | none =>
      if place = [] ∨ t.nodes.any (fun (p, _) => place.isPrefixOf p) then some .directory else none

def step (t : FileTree) (place : Place) (name : String) : Except FileError Place :=
  match t.node? place with
  | none => .error .missing
  | some .directory =>
      if name = "." then .ok place
      else if name = ".." then .ok place.dropLast
      else if maxNameSize < name.utf8ByteSize then .error .nameTooLong
      else .ok (place ++ [name])
  | some _ => .error .notDirectory

def find (t : FileTree) (path : String) : Except FileError Place :=
  if maxPathSize < path.utf8ByteSize then .error .nameTooLong
  else (names path).foldlM t.step (if isAbsolute path then [] else t.home)

def load (t : FileTree) (path : String) : Except FileError String := do
  let found ← t.find path
  let place ← if meansDirectory path then t.step found "." else .ok found
  match t.node? place with
  | none => .error .missing
  | some .directory => .error .isDirectory
  | some (.file text) => .ok text
  | some .full => .ok ""
  | some (.unusable error) => .error error

def save (t : FileTree) (path text : String) : Except FileError FileTree := do
  let place ← t.find path
  match meansDirectory path, t.node? place with
  | true, _ | false, some .directory => .error .isDirectory
  | false, some .full => if text.isEmpty then .ok t else .error .noRoom
  | false, some (.unusable error) => .error error
  | false, some (.file _) | false, none =>
      .ok { t with nodes := (place, .file text) :: t.nodes }

end FileTree

structure Surroundings where
  files : FileTree
  input : String
  out : String := ""
  err : String := ""

namespace Surroundings

def console : Console (StateM Surroundings) where
  readInput := fun s => (.ok s.input, s)
  load path := fun s => (s.files.load path, s)
  save path text := fun s =>
    match s.files.save path text with
    | .ok files => (.ok (), { s with files })
    | .error error => (.error error, s)
  out text := modify fun s => { s with out := s.out ++ text }
  err text := modify fun s => { s with err := s.err ++ text }

def perform (s : Surroundings) (request : Request) : Except Failure Unit × Surroundings :=
  (Command.perform console request).run s

end Surroundings

end VariantSudoku.Command
