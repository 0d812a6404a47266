import VariantSudoku.Model.Text
import VariantSudoku.Rule.Catalogue

set_option autoImplicit false

namespace VariantSudoku

structure Settings where
  comments : Bool := true
  givens : Bool := false
  deriving DecidableEq, Repr

structure ShapeMismatch where
  tool : String
  clue : String
  expected : Shape
  found : Shape
  deriving DecidableEq, Repr

def ShapeMismatch.message (e : ShapeMismatch) : String :=
  "instance " ++ Text.quoted e.clue ++ " of " ++ e.tool ++ " is a " ++ e.found.label ++
    ", expected a " ++ e.expected.label

structure Model where
  statements : Fragment
  skipped : List Skip

def Model.text (m : Model) : String :=
  Fragment.text m.statements

def Puzzle.givenStatements (p : Puzzle) : Fragment :=
  p.grid.entries.filterMap fun (cell, content) =>
    if content.isInside then
      content.given.map fun digit =>
        .constrain ((Expr.cell SharedGrid.digits.name cell).equals (.int digit))
    else none

namespace Catalogue

def mismatchIn? (c : Catalogue) (e : Element) : Option ShapeMismatch := do
  let tool ← c.find? e.tool
  let (id, i) ← e.instances.entries.find? fun (_, i) => i.shape != tool.shape
  return ⟨e.tool, id, tool.shape, i.shape⟩

def mismatch? (c : Catalogue) (p : Puzzle) : Option ShapeMismatch :=
  p.elements.entries.findSome? c.mismatchIn?

def withComment (settings : Settings) (text : String) (block : Fragment) : Fragment :=
  if settings.comments then .comment text :: block else block

-- Comments of the rule itself take the place of the tool's name.
def arrange (settings : Settings) (tool : String) (pending fragment : Fragment) : Fragment :=
  if fragment.isEmpty && pending.isEmpty then []
  else
    let body := pending ++ fragment.filter fun s => settings.comments || !s.isComment
    if Fragment.startsWithComment fragment then body else withComment settings tool body

def block (c : Catalogue) (settings : Settings) (p : Puzzle) (e : Element) : CompileM Fragment := do
  match c.find? e.tool with
  | none => return []
  | some tool =>
      let fragment ← tool.rule p e
      let pending ← CompileM.takePending
      return arrange settings e.tool pending fragment

def givensBlock (settings : Settings) (p : Puzzle) : Fragment :=
  let givens := p.givenStatements
  if !settings.givens || givens.isEmpty then [] else withComment settings "givens" givens

def compile (c : Catalogue) (settings : Settings) (p : Puzzle) : Except ShapeMismatch Model :=
  match c.mismatch? p with
  | some e => .error e
  | none =>
      let (blocks, session) := (p.elements.entries.mapM (c.block settings p)).run {}
      .ok ⟨givensBlock settings p ++ blocks.flatten, session.skipped⟩

end Catalogue

end VariantSudoku
