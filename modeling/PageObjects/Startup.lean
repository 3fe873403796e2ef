import PageObjects.Log.Policy
import PageObjects.Log.Journal
import PageObjects.Settings

/-!
# Starting up

The policy that the settings ask for, and what a driver is started with.

Main definitions:

- `Settings.policy`: the logging policy that the settings ask for.
- `Startup.plan`: the arguments and the implicit wait that a driver is started with.
- `Startup.planFor`: the same, from what a start is asked with.
-/

namespace PageObjects

/-- The logging policy that the settings ask for; an unknown mode counts as live. -/
def Settings.policy (s : Settings) : Log.Policy :=
  { mode := (Log.Mode.ofWord? s.logMode).getD .live }

namespace Startup

/-- What a driver is started with. -/
structure Plan where
  headless : Value
  arguments : List String
  implicitWait : Value

/-- What a driver is started with.  Without a choice, the settings decide
whether it is headless. -/
def plan (cells : Cells) (s : Settings) (headless : Value) : Plan :=
  let headless := if headless.isNone then s.headless else headless
  { headless
    arguments := (if cells.truthy headless then ["--headless=new"] else []) ++ ["--start-maximized"]
    implicitWait := s.implicitWait }

/-- What a driver is started with, from what is asked for: at most one choice. -/
def planFor (cells : Cells) (s : Settings) : List Value → Except Fault Plan
  | [] => .ok (plan cells s .none)
  | [headless] => .ok (plan cells s headless)
  | _ => .error .wrongType

/-- The note that a driver has been started. -/
def Plan.started (p : Plan) : Log.Entry :=
  Log.signal .startup "Driver started"
    [("browser", .text "chrome"), ("headless", p.headless), ("implicit_wait", p.implicitWait)]

end Startup

end PageObjects
