import SlidePress.CommandLine.Convert
import SlidePress.CommandLine.Generate

/-!
The whole program: from a command line and the state of the world to the end of the run.
-/

namespace SlidePress.CommandLine

def programVersion : String := "deckhand 0.1.0"

def answer (machine : Machine) (preferences : Preferences) (created : String)
    (session : Session) (arguments : List String) : Reply × Session :=
  match Request.ofArguments arguments with
  | .generate request => generate preferences created session request
  | .convert request => convert machine preferences session request
  | .nothing =>
    ({}, session.tellLines ["No command specified. Use --help for usage information."])
  | .version => ({}, session.tellLines [programVersion])
  | .help => ({}, session)
  | .mistake => ({ code := 2 }, session)

end SlidePress.CommandLine
