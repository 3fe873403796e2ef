import PageObjects.Json.Document
import PageObjects.Scene.Element
import PageObjects.Script.Expr

/-!
# Drivers

A driver as scripts set it up: a title, what it finds, plain attributes, and
methods.  What the program does with elements and drivers is kept as a list of
events.

Main definitions:

- `FindEntry`, `Driver`: the state of a driver.
- `Event`: what was done with elements, drivers and the clock.
- `Driver.search`: the answer of a driver to a search, and the driver after it.
-/

namespace PageObjects

/-- What a driver finds for one strategy and target.  It fails a number of
times first; then it raises a fault, or gives what a variable holds. -/
structure FindEntry where
  strategy : Value
  target : Value
  found : Value := .none
  failures : Value := .int 0
  fault : Value := .none

/-- What a driver finds, from a mapping. -/
def FindEntry.ofValue (cells : Cells) (v : Value) : FindEntry :=
  let fields := (cells.entries? v).getD []
  { strategy := Value.field "by" fields
    target := Value.field "value" fields
    found := Value.field "el" fields
    failures := (Value.field? "after" fields).getD (.int 0)
    fault := Value.field "error" fields }

/-- The state of a driver. -/
structure Driver where
  title : Value := .text ""
  finds : List FindEntry := []
  attributes : List (String × Value) := [("current_url", .text "about:blank")]
  methods : List (String × Expr) := []
  loading : Value := .int 0
  loadFault : Value := .none

/-- What was done with elements, drivers and the clock.  What a method of a
driver was called with is kept as it was answered then. -/
inductive Event where
  | element (name : String) (use : ElementUse)
  | title (driver : String)
  | visit (driver : String) (address : Value)
  | find (driver : String) (strategy target : Value)
  | call (driver name : String) (args : List Json) (named : List (String × Json))
  | sleep (seconds : Value)
  | notice (text : String)
  | declaration

namespace Driver

/-- The answer of an entry to a search, and the entry after it. -/
def ask (cells : Cells) (missing : Fault) (e : FindEntry) : Except Raised Value × FindEntry :=
  match e.failures.isLeft with
  | .error fault => (.error { fault }, e)
  | .ok true => (.error { fault := missing }, { e with failures := e.failures.counted })
  | .ok false =>
    match Raised.ofValue? cells e.fault with
    | some r => (.error r, e)
    | none => (.ok e.found, e)

/-- The answer to a search: the variable that holds what was found, or the
fault.  Only the first entry for the strategy and the target is asked. -/
def searchIn (cells : Cells) (missing : Fault) (strategy target : Value) :
    List FindEntry → Except Raised Value × List FindEntry
  | [] => (.error { fault := missing }, [])
  | e :: rest =>
    if cells.same e.strategy strategy && cells.same e.target target then
      let (answer, e) := ask cells missing e
      (answer, e :: rest)
    else
      let (answer, rest) := searchIn cells missing strategy target rest
      (answer, e :: rest)

/-- The answer of a driver to a search, and the driver after it; `missing` is
the fault that nothing is found. -/
def search (cells : Cells) (missing : Fault) (d : Driver) (strategy target : Value) :
    Except Raised Value × Driver :=
  let (answer, finds) := searchIn cells missing strategy target d.finds
  (answer, { d with finds })

/-- A driver with an attribute set. -/
def setAttribute (d : Driver) (name : String) (v : Value) : Driver :=
  { d with attributes := Assoc.put name v d.attributes }

/-- A driver with a field set from outside. -/
def setField (cells : Cells) (d : Driver) (field : String) (v : Value) : Driver :=
  match field with
  | "_title" => { d with title := v }
  | "get_s" => { d with loading := v }
  | "get_error" => { d with loadFault := v }
  | "find" => { d with finds := ((cells.items? v).getD []).map (FindEntry.ofValue cells) }
  | field => d.setAttribute field v

end Driver

end PageObjects
