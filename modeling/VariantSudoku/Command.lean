import VariantSudoku.Assembly
import VariantSudoku.Command.FileError
import VariantSudoku.Document.Reader

set_option autoImplicit false

namespace VariantSudoku.Command

structure Options where
  input : Option String := none
  output : Option String := none
  noComments : Bool := false
  givens : Bool := false
  diagnostics : Bool := false
  listTools : Bool := false
  deriving DecidableEq, Repr

inductive Request where
  | compile (options : Options)
  | help
  | version
  deriving DecidableEq, Repr

inductive UsageError where
  | unknown (arg : String)
  | repeated (option : String)
  | missingValue (option : String)
  | unexpectedValue (option : String)
  deriving DecidableEq, Repr

def UsageError.message : UsageError → String
  | unknown arg => "unexpected argument '" ++ arg ++ "' found"
  | repeated option => "the argument '" ++ option ++ "' cannot be used multiple times"
  | missingValue option => "a value is required for '" ++ option ++ "' but none was supplied"
  | unexpectedValue option => "unexpected value for '" ++ option ++ "' found; no more were expected"

namespace Options

def inputName : String := "[INPUT]"

def outputName : String := "--output <OUTPUT>"

def path (name : String) (before : Option String) (value : String) :
    Except UsageError (Option String) :=
  if before.isSome then .error (.repeated name)
  else if value.isEmpty then .error (.missingValue name)
  else .ok (some value)

def withInput (o : Options) (value : String) : Except UsageError Options :=
  if o.input.isSome then .error (.unknown value)
  else do return { o with input := ← path inputName o.input value }

def withOutput (o : Options) (value : String) : Except UsageError Options := do
  return { o with output := ← path outputName o.output value }

def withSwitch? (o : Options) (name : String) : Option (Except UsageError Options) :=
  let once (isOn : Bool) (on : Options) : Option (Except UsageError Options) :=
    some (if isOn then .error (.repeated ("--" ++ name)) else .ok on)
  match name with
  | "no-comments" => once o.noComments { o with noComments := true }
  | "givens" => once o.givens { o with givens := true }
  | "diagnostics" => once o.diagnostics { o with diagnostics := true }
  | "list-tools" => once o.listTools { o with listTools := true }
  | _ => none

end Options

inductive Arg where
  | rest
  | long (name : String) (value : Option String)
  | short (letter : Char) (behind : List Char)
  | plain
  deriving DecidableEq, Repr

def Arg.ofString (s : String) : Arg :=
  match s.toList with
  | ['-', '-'] => .rest
  | '-' :: '-' :: cs =>
      match Text.cut ['='] cs with
      | some (name, value) => .long (String.ofList name) (some (String.ofList value))
      | none => .long (String.ofList cs) none
  | '-' :: c :: cs => .short c cs
  | _ => .plain

def attached (behind : List Char) : String :=
  String.ofList (match behind with
    | '=' :: cs => cs
    | cs => cs)

def readPlain (o : Options) : List String → Except UsageError Request
  | [] => .ok (.compile o)
  | arg :: args => do readPlain (← o.withInput arg) args

def readArgs (o : Options) : List String → Except UsageError Request
  | [] => .ok (.compile o)
  | arg :: args =>
      match Arg.ofString arg with
      | .rest => readPlain o args
      | .plain => do readArgs (← o.withInput arg) args
      | .short 'h' _ => .ok .help
      | .short 'V' _ => .ok .version
      | .short 'o' [] | .long "output" none =>
          match args with
          | value :: args =>
              if Arg.ofString value = .plain then do readArgs (← o.withOutput value) args
              else .error (.missingValue arg)
          | [] => .error (.missingValue arg)
      | .short 'o' behind => do readArgs (← o.withOutput (attached behind)) args
      | .short _ _ => .error (.unknown arg)
      | .long "output" (some value) => do readArgs (← o.withOutput value) args
      | .long "help" none => .ok .help
      | .long "version" none => .ok .version
      | .long name value =>
          match o.withSwitch? name with
          | some result =>
              if value.isSome then .error (.unexpectedValue arg)
              else do readArgs (← result) args
          | none => .error (.unknown arg)

inductive Failure where
  | io (error : FileError)
  | json (fault : Json.Fault)
  | document (error : DocumentError)
  | shape (error : ShapeMismatch)

def faultText : Json.Fault → String
  | .malformed => "the text is not JSON"
  | .truncated => "the text ends too early"
  | .mismatched => "the JSON is not a puzzle"

def Failure.message : Failure → String
  | io error => "I/O error: " ++ error.message
  | json fault => "invalid puzzle document: " ++ faultText fault
  | document error => "invalid puzzle: " ++ error.message
  | shape error => "compilation failed: " ++ error.message

def compileText (settings : Settings) (text : String) : Except Failure Model := do
  let document ← (PuzzleDocument.read text).mapError .json
  let puzzle ← document.toPuzzle.mapError .document
  (Catalogue.standard.compile settings puzzle).mapError .shape

structure Console (m : Type → Type) where
  readInput : m (Except FileError String)
  load : String → m (Except FileError String)
  save : String → String → m (Except FileError Unit)
  out : String → m Unit
  err : String → m Unit

def versionText : String := "gridcsp-cli 0.1.0\n"

def usageText : String :=
  "Compiles a Sudoku-variant puzzle into a constraint model.\n\n" ++
  "Usage: gridcsp [OPTIONS] [INPUT]\n\n" ++
  "Arguments:\n" ++
  "  [INPUT]  Puzzle document to compile. Reads the standard input when omitted or a dash\n\n" ++
  "Options:\n" ++
  "  -o, --output <OUTPUT>  Write the model to this file\n" ++
  "      --no-comments      Omit comments\n" ++
  "      --givens           Emit constraints for the given digits of the grid\n" ++
  "      --diagnostics      Print skipped rules\n" ++
  "      --list-tools       List the supported tools and exit\n" ++
  "  -h, --help             Print help\n" ++
  "  -V, --version          Print version\n"

def lines (texts : List String) : String :=
  String.join (texts.map fun text => text ++ "\n")

section

variable {m : Type → Type} [Monad m]

def source (console : Console m) (o : Options) : m (Except FileError String) :=
  match o.input with
  | none | some "-" => console.readInput
  | some path => console.load path

def deliver (console : Console m) (o : Options) (model : Model) : ExceptT Failure m Unit := do
  if o.diagnostics then
    console.err (lines (model.skipped.map fun s => "skipped " ++ s.message))
  match o.output with
  | none => console.out model.text
  | some path =>
      match ← console.save path model.text with
      | .ok () => return
      | .error error => throw (.io error)

def compile (console : Console m) (o : Options) : ExceptT Failure m Unit := do
  match ← (source console o : m (Except FileError String)) with
  | .error error => throw (.io error)
  | .ok text => do
      let model ← compileText { comments := !o.noComments, givens := o.givens } text
      deliver console o model

def perform (console : Console m) : Request → ExceptT Failure m Unit
  | .help => console.out usageText
  | .version => console.out versionText
  | .compile o =>
      if o.listTools then console.out (lines Catalogue.standard.toolIds) else compile console o

end

end VariantSudoku.Command
