import PageObjects.Fault

/-!
# Settings

What an installation can set: the base address, waiting times, the options of
the driver, and logging.  Settings come from named variables; a number that
cannot be read is a fault, and the first such fault in the order of the fields
wins.

Main definitions:

- `Settings`: the settings with their defaults.
- `Settings.checkVariable`: the texts that variables can be set to.
- `Settings.ofVariables`: settings read from named variables.
-/

namespace PageObjects

/-- What an installation can set. -/
structure Settings where
  baseAddress : Value := .text "http://localhost:8000"
  elementTimeout : Value := .float 30
  pollInterval : Value := .float 0.5
  implicitWait : Value := .int 0
  headless : Value := .bool false
  logMode : String := "live"
  logFile : Value := .none
  slowPhase : Value := .float 60

namespace Settings

/-- A text without the slashes at its end. -/
def withoutTrailingSlashes (s : String) : String :=
  String.ofList (s.toList.reverse.dropWhile (· == '/')).reverse

/-- A number read from a variable. -/
def readNumber (text : String) : Except Fault Value :=
  match Decimal.readFloat? text with
  | some x => .ok (.ofFloat x)
  | none => .error (.notANumber (Text.quoted text))

/-- An integer read from a variable. -/
def readInteger (text : String) : Except Fault Value :=
  match Decimal.readInteger 10 text with
  | .ok n => .ok (.int n)
  | .error .malformed => .error (.notAnInteger 10 text)
  | .error (.tooLong digits) => .error (.tooManyDigits digits)

/-- The halves of a pair of codes that stand for a single byte of a variable. -/
def standsForByte (code : Nat) : Bool := 0xdc80 ≤ code && code ≤ 0xdcff

/-- A variable can be set to a text without a zero byte, all of which can be encoded. -/
def checkVariable (text : String) : Except Fault Unit := do
  let isBad (c : Char) : Bool := Text.Half.within c.toString && !standsForByte (Text.Half.code c)
  if text.toList.any isBad then throw (.plain .unencodable)
  if text.contains '\x00' then throw (.raised .value (some "embedded null byte"))

/-- Settings read from named variables; each has a default. -/
def ofVariables (given : List (String × String)) : Except Fault Settings := do
  given.forM fun e => checkVariable e.2
  let read (name default : String) := (given.lookup name).getD default
  let elementTimeout ← readNumber (read "PF_EXPECTED_ELEMENT_TIMEOUT" "30")
  let pollInterval ← readNumber (read "PF_POLL_INTERVAL" "0.5")
  let implicitWait ← readInteger (read "PF_IMPLICIT_WAIT" "0")
  let logFile := read "PF_LOG_FILE" ""
  let slowPhase ← readNumber (read "PF_SLOW_PHASE_S" "60")
  return {
    baseAddress := .text (withoutTrailingSlashes (read "PF_BASE_URL" "http://localhost:8000"))
    elementTimeout, pollInterval, implicitWait, slowPhase
    headless := .bool (Text.lowercaseString (read "PF_HEADLESS" "false") == "true")
    logMode := Text.lowercaseString (read "PF_LOG_MODE" "live")
    logFile := if logFile == "" then .none else .text logFile }

end Settings

end PageObjects
