import Storyline.Interpreter

/-!
# Options of the command line

The command line names feature files to run, the label to restrict the run to, and
whether transcripts are painted. Options and files may be mixed; two dashes end the
options. A single dash is a file.

Arguments are read from the left, and the first problem is the one that is reported. The
value of an option may stand in the argument itself, behind an equals sign or, for a
short option, directly behind the letter; otherwise it is the next argument, which must
not look like an option.

Values that are arguments of their own are judged when the argument behind them is read.
So an argument that no option accounts for is reported first, and hides what is wrong with
the value, or with the files, right in front of it (`ahead?`).
-/

namespace Storyline

/-- What the command line says. -/
structure Options where
  /-- The label, if one is given. -/
  label : Option String := none
  /-- The colouring, if one is given. -/
  color : Option Coloring := none
  /-- The feature files, in order. -/
  features : List String := []
  deriving DecidableEq, Inhabited

/-- What is wrong with a command line, or what it asks for instead of a run. -/
inductive OptionProblem where
  /-- There is no such option. -/
  | unknownArgument
  /-- A value is missing, or a file has no name. -/
  | invalidValue
  /-- There is no such colouring. -/
  | valueValidation
  /-- An option is given twice. -/
  | argumentConflict
  /-- A value is given to an option that takes none. -/
  | tooManyValues
  /-- Help is asked for. -/
  | displayHelp
  deriving DecidableEq, Inhabited

namespace Options

/-- The options with a name. -/
inductive Name where
  /-- The label. -/
  | label
  /-- The colouring. -/
  | color
  /-- Help. -/
  | help
  deriving DecidableEq, Inhabited

/-- An argument of the command line by its looks. -/
inductive Argument where
  /-- The end of the options. -/
  | stop
  /-- An option, with the value that it carries. -/
  | named (name : Name) (value : Option String)
  /-- Something that looks like an option. -/
  | unknown
  /-- Anything else. -/
  | plain (text : String)

/-- The option with a long name. -/
def longName (name : String) : Option Name :=
  match name with
  | "label" => some .label
  | "color" => some .color
  | "help" => some .help
  | _ => none

/-- A long option, behind its two dashes. -/
def long (text : List Char) : Argument :=
  match longName (String.ofList (text.takeWhile (· != '='))) with
  | none => .unknown
  | some name =>
      match text.dropWhile (· != '=') with
      | [] => .named name none
      | _ :: value => .named name (some (String.ofList value))

/-- A short option, behind its dash. Help takes no value, and nothing behind it is read. -/
def short (letter : Char) (rest : List Char) : Argument :=
  if letter = 'h' then .named .help none
  else if letter = 'l' then
    match rest with
    | [] => .named .label none
    | '=' :: value => .named .label (some (String.ofList value))
    | value => .named .label (some (String.ofList value))
  else .unknown

/-- An argument by its looks. -/
def classify (text : String) : Argument :=
  match text.toList with
  | ['-', '-'] => .stop
  | '-' :: '-' :: rest => long rest
  | '-' :: letter :: rest => short letter rest
  | _ => .plain text

/-- Adds a feature file. -/
def addFeature (o : Options) (path : String) : Except OptionProblem Options :=
  if path.isEmpty then .error .invalidValue else .ok { o with features := o.features ++ [path] }

/-- Gives an option its value. -/
def set (o : Options) (name : Name) (value : String) : Except OptionProblem Options :=
  match name with
  | .label =>
      if o.label.isSome then .error .argumentConflict else .ok { o with label := some value }
  | .color =>
      if o.color.isSome then .error .argumentConflict
      else
        match Coloring.parse? value with
        | none => .error .valueValidation
        | some coloring => .ok { o with color := some coloring }
  | .help => .error .tooManyValues

/-- What is wrong with an argument by its looks alone. -/
def Argument.problem? : Argument → Option OptionProblem
  | .unknown => some .unknownArgument
  | .named .help (some _) => some .tooManyValues
  | _ => none

/-- Whether an argument is neither an option nor the end of the options. -/
def isPlain (argument : String) : Bool :=
  match classify argument with
  | .plain _ => true
  | _ => false

/-- What is wrong with the first argument by its looks alone. -/
def ahead? (arguments : List String) : Option OptionProblem :=
  arguments.head?.bind fun argument => (classify argument).problem?

/-- What comes of values, unless there is something wrong with the arguments behind them. -/
def judge (values : Except OptionProblem Options) (behind : List String) :
    Except OptionProblem Options :=
  match ahead? behind with
  | some problem => .error problem
  | none => values

/-- Reads arguments one by one. -/
def readFrom (o : Options) : List String → Except OptionProblem Options
  | [] => .ok o
  | argument :: rest =>
      match classify argument with
      | .stop => rest.foldlM addFeature o
      | .unknown => .error .unknownArgument
      | .plain text => do
          readFrom (← judge (o.addFeature text) (rest.dropWhile isPlain)) rest
      | .named name (some value) => do readFrom (← o.set name value) rest
      | .named .help none => .error .displayHelp
      | .named name none =>
          match rest with
          | [] => .error .invalidValue
          | next :: rest =>
              match classify next with
              | .plain value => do readFrom (← judge (o.set name value) rest) rest
              | looks => .error (looks.problem?.getD .invalidValue)

/-- Reads a command line, without the name of the program. -/
def parse (arguments : List String) : Except OptionProblem Options := readFrom {} arguments

/-- The text of the label; empty if none is given. -/
def labelText (o : Options) : String := o.label.getD ""

/-- The label of the runs. -/
def runLabel (o : Options) : Label := ⟨o.labelText⟩

/-- The colouring; left to the terminal if none is given. -/
def coloring (o : Options) : Coloring := o.color.getD .auto

/-- Runs feature files one after the other, each to its end. -/
def runAll {σ : Type} (i : Interpreter σ) (label : Label)
    (read : String → Except String String) (host : σ) : List String → List (Run σ)
  | [] => []
  | path :: rest =>
      let run := i.runPath label .blocking host read path
      run :: runAll i label read run.host rest

/-- Runs the feature files of a command line. -/
def run {σ : Type} (o : Options) (i : Interpreter σ) (read : String → Except String String)
    (host : σ) : List (Run σ) :=
  runAll { i with coloring := o.coloring } o.runLabel read host o.features

end Options

end Storyline
