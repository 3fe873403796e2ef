import PageObjects.Assoc
import PageObjects.Log.Policy
import PageObjects.Text.Lines
import PageObjects.Text.Lowercase

/-!
# The journal

All lines that pass the policy are kept, and delivered to the outlets that have
been set up: the console, and a file that starts out empty.

Main definitions:

- `Level`: the weight of a line, with `levelName` and `levelOfWord`.
- `Entry`: a line to be logged.
- `Mark`: which entries open and close a phase.
- `Record`: a line as it was logged.
- `Entry.recordWith`: the record of an entry.
- `Journal`: policy, records and outlets, with `Journal.write`.
- `readLines`: the lines of an outlet, without the times at which they were written.
-/

namespace PageObjects.Log

/-- The weight of a line. -/
abbrev Level := Int

/-- The name of a weight. -/
def levelName (level : Level) : String :=
  if level == 0 then "NOTSET"
  else if level == 10 then "DEBUG"
  else if level == 20 then "INFO"
  else if level == 30 then "WARNING"
  else if level == 40 then "ERROR"
  else if level == 50 then "CRITICAL"
  else "Level " ++ toString level

/-- The weight that a word stands for. -/
def levelOfWord (word : String) : Level :=
  let w := Text.lowercaseString word
  if ["warn", "warning"].contains w then 30
  else if ["error", "err", "critical", "fatal"].contains w then 40
  else if ["debug", "trace"].contains w then 10
  else 20

/-- What a phase is about. -/
inductive Subject where
  | construction
  | other
deriving Repr, DecidableEq

/-- The role of an entry in a phase. -/
inductive Mark where
  | opening (subject : Subject) (label : String)
  | closing (subject : Subject) (label : String) (failed : Bool)
deriving Repr, DecidableEq

/-- A line to be logged. -/
structure Entry where
  gate : Gate
  level : Level
  category : Category
  message : String
  context : Context

/-- A line as it was logged; lines that open and close phases are marked. -/
structure Record where
  gate : Gate
  level : Level
  text : String
  mark : Option Mark := none
deriving Repr, DecidableEq

/-- Where lines are delivered: the console, or a file at a place. -/
inductive Outlet where
  | console (level : Level)
  | file (place : List String)
deriving Repr, DecidableEq

/-- Policy, records and outlets, with the text that was delivered to each.  Of the
records the latest comes first. -/
structure Journal where
  policy : Policy := {}
  records : List Record := []
  outlets : List Outlet := []
  console : String := ""
  files : List (List String × String) := []
deriving Repr, DecidableEq

/-- Lines below this weight are dropped. -/
def lowestLevel : Level := 10

/-- A signal of the usual weight. -/
def signal (category : Category) (message : String) (context : Context) : Entry :=
  { gate := .signal, level := 20, category, message, context }

/-- A diagnostic. -/
def diagnostic (category : Category) (message : String) (context : Context) : Entry :=
  { gate := .diagnostic, level := 10, category, message, context }

/-- A trace. -/
def trace (category : Category) (message : String) (context : Context) : Entry :=
  { gate := .trace, level := 10, category, message, context }

/-- The record of an entry, which may be marked; `tail` is the text of its context. -/
def Entry.recordWith (e : Entry) (mark : Option Mark) (tail : String) : Record :=
  { gate := e.gate, level := e.level, text := line e.category e.message tail, mark }

namespace Record

/-- The time that stands for all times. -/
def time : String := "2000-01-01 00:00:00,000 "

/-- A record as outlets write it. -/
def written (r : Record) : String :=
  time ++ "[" ++ levelName r.level ++ "] page_factory: " ++ r.text ++ "\n"

end Record

/-- The lines of an outlet, without the times at which they were written. -/
def readLines (text : String) : List String := (Text.lines text).map Text.withoutTime

namespace Journal

/-- What was delivered to a file. -/
def fileText (j : Journal) (place : List String) : String := (j.files.lookup place).getD ""

/-- Deliver a record to an outlet. -/
def deliver (r : Record) (j : Journal) : Outlet → Journal
  | .console level => if level ≤ r.level then { j with console := j.console ++ r.written } else j
  | .file place => { j with files := Assoc.put place (j.fileText place ++ r.written) j.files }

/-- Keep a record, unless its weight is too low, and deliver it. -/
def write (j : Journal) (r : Record) : Journal :=
  if lowestLevel ≤ r.level then j.outlets.foldl (deliver r) { j with records := r :: j.records } else j

/-- Set up the console. -/
def setConsole (j : Journal) (verbose : Bool) : Journal :=
  { j with outlets := [.console (if verbose then 10 else 30)] }

/-- Set up a file, which starts out empty. -/
def addFile (j : Journal) (place : List String) : Journal :=
  { j with outlets := j.outlets ++ [.file place], files := Assoc.put place "" j.files }

theorem deliver_policy (r : Record) (j : Journal) (o : Outlet) : (deliver r j o).policy = j.policy := by
  cases o <;> simp only [deliver]
  split <;> rfl

theorem deliver_records (r : Record) (j : Journal) (o : Outlet) :
    (deliver r j o).records = j.records := by
  cases o <;> simp only [deliver]
  split <;> rfl

theorem foldl_deliver_policy (r : Record) (os : List Outlet) (j : Journal) :
    (os.foldl (deliver r) j).policy = j.policy := by
  induction os generalizing j with
  | nil => rfl
  | cons o os ih => simp [ih, deliver_policy]

theorem foldl_deliver_records (r : Record) (os : List Outlet) (j : Journal) :
    (os.foldl (deliver r) j).records = j.records := by
  induction os generalizing j with
  | nil => rfl
  | cons o os ih => simp [ih, deliver_records]

/-- Logging leaves the policy as it is. -/
@[simp] theorem write_policy (j : Journal) (r : Record) : (j.write r).policy = j.policy := by
  unfold write
  split
  · simp [foldl_deliver_policy]
  · rfl

/-- Logging adds a record whose weight is high enough, and nothing else. -/
theorem write_records (j : Journal) (r : Record) :
    (j.write r).records = if lowestLevel ≤ r.level then r :: j.records else j.records := by
  unfold write
  split
  · simp [foldl_deliver_records]
  · rfl

end Journal

end PageObjects.Log
