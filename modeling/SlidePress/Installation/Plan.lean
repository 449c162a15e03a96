import SlidePress.Host
import SlidePress.Session

/-!
How the tool that converts drawings comes onto a system: with its package manager, where there is
one that is known.
-/

namespace SlidePress.Installation

/-- One order to the package manager. -/
structure Step where
  program : String
  arguments : List String
  seconds : Nat
  deriving DecidableEq, Repr

/-- The command of a step, whose output the user sees. -/
def Step.command (step : Step) : Command where
  program := step.program
  arguments := step.arguments
  timeout := step.seconds * 1000
  captured := false

structure Plan where
  product : String
  manager : String
  /-- A program that has to be there already. -/
  prerequisite : Option String
  steps : List Step
  deriving DecidableEq, Repr

/-- How long an installation may take, in seconds. -/
def installSeconds : Nat := 300

/-- How long the lists of packages may take, in seconds. -/
def updateSeconds : Nat := 60

/-- The plan for a kind of system, where there is one. -/
def plan? : Host → Option Plan
  | .macOS => some {
      product := "librsvg"
      manager := "Homebrew"
      prerequisite := some "brew"
      steps := [⟨"brew", ["install", "librsvg"], installSeconds⟩] }
  | .ubuntu | .debian | .subsystem => some {
      product := "librsvg2-bin"
      manager := "apt"
      prerequisite := none
      steps := [⟨"sudo", ["apt-get", "update"], updateSeconds⟩,
        ⟨"sudo", ["apt-get", "install", "-y", "librsvg2-bin"], installSeconds⟩] }
  | .fedora => some {
      product := "librsvg2-tools"
      manager := "dnf"
      prerequisite := none
      steps := [⟨"sudo", ["dnf", "install", "-y", "librsvg2-tools"], installSeconds⟩] }
  | .linux | .windows | .unknown => none

def probe (program : String) : Command where
  program
  arguments := ["--version"]
  timeout := 5000

/-- The commands of a plan in their order: the question for what has to be there, then the
steps. -/
def Plan.commands (plan : Plan) : List Command :=
  plan.prerequisite.toList.map probe ++ plan.steps.map Step.command

end SlidePress.Installation
