import SlidePress.Session
import SlidePress.Terminal

/-!
How the program ends: with an exit code and, after a failure, with a message on the output for
errors.
-/

namespace SlidePress.CommandLine

/-- How the program ends. -/
structure Reply where
  code : Nat := 0
  errors : String := ""
  deriving DecidableEq, Repr

/-- What is said about a failure that ends the program: a refusal of the system is also the cause
of the failure that it is, and causes are told too. -/
def causes (failure : Failure) : String :=
  match failure with
  | .system fault => failure.message ++ ": " ++ fault.message
  | failure => failure.message

namespace Reply

/-- The reply to a failure; `doing` says what could not be done, if that is to be told. -/
def ofFailure (doing : Option String) (failure : Failure) : Reply where
  code := 1
  errors :=
    let story := match doing with
      | some doing => doing ++ ": " ++ causes failure
      | none => causes failure
    Terminal.tinted .red "✗ Error:" ++ " " ++ story ++ "\n"

def broken : Reply where
  code := 101

end Reply

def ruleWidth : Nat := 56

def rule : String :=
  String.ofList (List.replicate ruleWidth '=')

end SlidePress.CommandLine
