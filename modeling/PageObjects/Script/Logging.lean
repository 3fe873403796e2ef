import PageObjects.Program.Text

/-!
# Logging from scripts

Lines that scripts log themselves, and the policy and the outlets that they set.

Main definitions:

- `Log.signalEntry`, `Log.quietEntry`: the entries for lines that scripts log.
- `Prog.setPolicy`: set the policy.
- `Prog.setUpLogging`: set up the outlets.
-/

namespace PageObjects

namespace Log

/-- The weight that a value stands for: a number, or a word; nothing stands for the usual one. -/
def levelOf (truthy : Value → Bool) (v : Value) : Except Fault Level :=
  match v with
  | .int n => .ok n
  | .bool b => .ok (if b then 1 else 0)
  | v =>
    if truthy v then
      match v.word? with
      | some w => .ok (levelOfWord w)
      | none => .error .noSuchName
    else .ok 20

/-- Whether a context repeats a name. -/
def repeats (ctx : Context) (names : List String) : Bool := ctx.any fun e => names.contains e.1

/-- The entry of a signal.  Its weight may be given beside the context or in it. -/
def signalEntry (truthy : Value → Bool) (category : Category) (message : String) (level : Option Value)
    (ctx : Context) : Except Fault Entry :=
  if repeats ctx (["cat", "msg"] ++ if level.isSome then ["level"] else []) then .error .wrongType
  else
    let given := (level.or (ctx.lookup "level")).getD (.text "info")
    (levelOf truthy given).map fun weight =>
      { signal category message (ctx.filter fun e => e.1 != "level") with level := weight }

/-- The entry of a diagnostic or a trace. -/
def quietEntry (gate : Gate) (category : Category) (message : String) (ctx : Context) : Except Fault Entry :=
  if repeats ctx ["cat", "msg"] then .error .wrongType
  else .ok { gate, level := 10, category, message, context := ctx }

end Log

namespace Prog

/-- The category that a value names. -/
def categoryOf (v : Value) : Prog Log.Category := do
  match v.word?.bind Log.Category.ofWord? with
  | some c => pure c
  | none => raise (.notACategory (← inspected v))

/-- The mode that a value names. -/
def modeOf (v : Value) : Prog Log.Mode := do
  match v.word?.bind Log.Mode.ofWord? with
  | some m => pure m
  | none => raise (.notAMode (← inspected v))

/-- Log a line, if it is well formed. -/
def logged (category message : Value)
    (entry : (Value → Bool) → Log.Category → String → Except Fault Log.Entry) : Prog Value := do
  let c ← categoryOf category
  let text ← formatted message
  let e ← ofFault (← view fun s => entry s.truthy c text)
  log e
  pure .none

/-- Set the policy; the answer is the old one. -/
def setPolicy (mode : Value) (includeContext : Bool) : Prog Value := do
  let mode ← modeOf mode
  let old ← op (.setPolicy { mode, includeContext })
  let i ← op (.makeCell (.list [.text old.mode.word, .bool old.includeContext, .bool true]))
  pure (.list i)

/-! ## Outlets -/

/-- What keeps a file from being written to. -/
def writingFault? (t : FileTree) (path : Path) : Option Fault :=
  if path.hasHalf then some (.plain .unencodable)
  else if path.hasNull then some (.raised .value (some "embedded null byte"))
  else if FileTree.pathLimit < path.text.utf8ByteSize then some (.plain .otherSystem)
  else
    match t.follow [] path.parts with
    | .inside parts => if t.isDirectoryAt parts then some (.plain .isDirectory) else none
    | .outside => some (.plain .isDirectory)
    | .absent => some (.plain .fileNotFound)
    | .blocked => some (.plain .notDirectory)
    | .tooLong => some (.plain .otherSystem)

/-- Set up a file, and answer with its outlet. -/
def setUpFile (file : Value) : Prog Log.Outlet := do
  let text ← ofOption .wrongType file.word?
  let path := (Path.read text).plain
  match ← view fun s => writingFault? s.files path with
  | some fault => raise fault
  | none => do
    op (.openLogFile path.parts)
    pure (.file path.parts)

/-- Set up the console and, if there is one, a file. -/
def setUpLogging (verbose file : Value) : Prog (List Log.Outlet) := do
  let verbose ← truth verbose
  op (.openConsole verbose)
  let console : Log.Outlet := .console (if verbose then 10 else 30)
  let usual ← view fun s => s.settings.logFile
  let file := if ← truth file then file else usual
  if ← truth file then do
    let outlet ← setUpFile file
    pure [console, outlet]
  else pure [console]

end Prog

end PageObjects
