import Storyline.Statement

/-!
# Arguments of a step

A definition declares what its step wants to know. The step is handed one value for
each declared parameter, in the order of the declarations, and a context if it declared
one. What was not declared is not handed over, and asking for it gives the empty answer.
-/

namespace Storyline

/-- What a definition may declare. -/
inductive Param where
  /-- The groups of the pattern. -/
  | captures
  /-- The attached doc-string. -/
  | docString
  /-- The attached table. -/
  | table
  /-- The run in which the step is carried out. -/
  | context
  deriving DecidableEq, Inhabited

/-- One value that is handed to a step. -/
inductive Value where
  /-- The groups of the pattern, in order. -/
  | captures (groups : List String)
  /-- The attached doc-string; empty if there is none. -/
  | docString (text : String)
  /-- The attached table; empty if there is none. -/
  | table (t : Table)
  deriving DecidableEq, Inhabited

/-- What a step may know of the run in which it is carried out. -/
structure Context where
  /-- The statement that is carried out. -/
  statement : Statement
  /-- The text that is carried out, with its placeholders filled in. -/
  text : String
  /-- The text of the label that the run is restricted to. -/
  label : String
  /-- Whether a fault has been recorded in the run. -/
  failed : Bool
  deriving DecidableEq, Inhabited

/-- The number of the line that is carried out. -/
def Context.line (context : Context) : Nat := context.statement.number

/-- What is handed to a step. -/
structure Args where
  /-- The declared values, in order. -/
  values : List Value
  /-- The context, if it was declared. -/
  context : Option Context
  deriving DecidableEq, Inhabited

namespace Args

/-- The value of a declared parameter; the context is no value. -/
def value? (groups : List String) (docString : Option String) (table : Option Table) :
    Param → Option Value
  | .captures => some (.captures groups)
  | .docString => some (.docString (docString.getD ""))
  | .table => some (.table (table.getD {}))
  | .context => none

/-- Hands out what has been declared. -/
def supply (params : List Param) (groups : List String) (docString : Option String)
    (table : Option Table) (context : Context) : Args where
  values := params.filterMap (value? groups docString table)
  context := if params.contains .context then some context else none

/-- The groups of the pattern, if they were declared. -/
def captures (args : Args) : List String :=
  (args.values.findSome? fun | .captures groups => some groups | _ => none).getD []

/-- One group of the pattern, counted from zero. -/
def capture (args : Args) (index : Nat) : Option String := args.captures[index]?

/-- The attached doc-string, if it was declared. -/
def docString (args : Args) : String :=
  (args.values.findSome? fun | .docString text => some text | _ => none).getD ""

/-- The attached table, if it was declared. -/
def table (args : Args) : Table :=
  (args.values.findSome? fun | .table t => some t | _ => none).getD {}

end Args

end Storyline
