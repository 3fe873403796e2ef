import PageObjects.Log.Context

/-!
# Logging policy

Signals are always logged.  Diagnostics are logged from debug mode on, and
traces in trace mode only.  A policy also says whether the context of a line is
written.

Main definitions:

- `Mode`, `Policy`: the policy.
- `Gate`: whether a line is a signal, a diagnostic or a trace.
- `Category`: what a line is about.
- `Gate.opens`: whether a line passes.
- `line`: the text of a line.
-/

namespace PageObjects.Log

/-- How much is logged. -/
inductive Mode where
  | live
  | debug
  | trace
deriving Repr, DecidableEq

/-- Whether a line is a signal, a diagnostic or a trace. -/
inductive Gate where
  | signal
  | diagnostic
  | trace
deriving Repr, DecidableEq

/-- What a line is about. -/
inductive Category where
  | define
  | lifecycle
  | dispatch
  | fit
  | catalog
  | startup
deriving Repr, DecidableEq

/-- The policy in force. -/
structure Policy where
  mode : Mode := .live
  includeContext : Bool := true
deriving Repr, DecidableEq

namespace Mode

/-- The word for a mode. -/
def word : Mode → String
  | .live => "live"
  | .debug => "debug"
  | .trace => "trace"

/-- The mode that a word stands for. -/
def ofWord? : String → Option Mode
  | "live" => some .live
  | "debug" => some .debug
  | "trace" => some .trace
  | _ => none

@[simp] theorem ofWord?_word (m : Mode) : ofWord? m.word = some m := by
  cases m <;> rfl

end Mode

namespace Category

/-- The word for a category. -/
def word : Category → String
  | .define => "DEFINE"
  | .lifecycle => "LIFECYCLE"
  | .dispatch => "DISPATCH"
  | .fit => "FIT"
  | .catalog => "CATALOG"
  | .startup => "STARTUP"

/-- The category that a word stands for. -/
def ofWord? : String → Option Category
  | "DEFINE" => some .define
  | "LIFECYCLE" => some .lifecycle
  | "DISPATCH" => some .dispatch
  | "FIT" => some .fit
  | "CATALOG" => some .catalog
  | "STARTUP" => some .startup
  | _ => none

@[simp] theorem ofWord?_word (c : Category) : ofWord? c.word = some c := by
  cases c <;> rfl

end Category

/-- Whether a line passes in a mode. -/
def Gate.opens : Gate → Mode → Bool
  | .signal, _ => true
  | .diagnostic, mode => mode != .live
  | .trace, mode => mode == .trace

/-- The text of a line; `tail` is that of its context. -/
def line (category : Category) (message tail : String) : String :=
  "[" ++ category.word ++ "] " ++ (if tail == "" then message else message ++ " :: " ++ tail)

end PageObjects.Log
