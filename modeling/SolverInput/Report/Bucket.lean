/-!
# Buckets and tables

A report is sorted into six buckets. Four of them collect the rows of one kind of debug table each;
the other two collect macro definitions and the prompts that the solver echoed.
-/

namespace SolverInput

/-- The tables that a debug block can contain. -/
inductive TableKind where
  | inputs
  | vars
  | functions
  | tokens
  deriving DecidableEq

/-- The six collections of lines that make up a report. -/
inductive Bucket where
  | macros
  | inputs
  | tokens
  | vars
  | functions
  | prompts
  deriving DecidableEq

namespace Bucket

/-- All buckets in their canonical order. -/
def all : List Bucket :=
  [macros, inputs, tokens, vars, functions, prompts]

/-- The name under which a bucket is shown. -/
def name : Bucket → String
  | macros => "macros"
  | inputs => "inputs"
  | tokens => "tokens"
  | vars => "variables"
  | functions => "functions"
  | prompts => "prompts"

end Bucket

/-- The bucket that collects the rows of a table. -/
def TableKind.bucket : TableKind → Bucket
  | inputs => .inputs
  | vars => .vars
  | functions => .functions
  | tokens => .tokens

end SolverInput
