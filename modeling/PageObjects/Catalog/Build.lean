import PageObjects.Catalog.Entry
import PageObjects.Yaml.Document

/-!
# Building page types from catalogs

A catalog builds a page type from each entry of a file, and keeps it for later
entries to build on.  The first entry that cannot be built ends the reading of a
file; what was built before stays.

Main definitions:

- `Prog.startCatalog`: a catalog that starts with given page types.
- `Prog.buildPage`: the page type of an entry.
- `Prog.readFile`: the page types of a file.
- `Prog.readDirectory`: the page types of all catalog files in a directory.
- `Prog.readPath`: the page types of a file or a directory.
-/

namespace PageObjects

/-- The page types that a reading has built, by their names. -/
abbrev Built := List (String × ClassRef)

/-- What is wrong with a text in YAML. -/
def Yaml.Fault.toFault : Yaml.Fault → PageObjects.Fault
  | .malformed => .plain .yaml
  | .badNumber base text => .notAnInteger base text
  | .tooManyDigits digits => .tooManyDigits digits
  | .badDecimal text => .notANumber (Text.quoted text)
  | .badDate message => .badDate message
  | .badCode => .raised .value (some "chr() arg not in range(0x110000)")
  | .codeTooLarge | .numberTooLarge => .plain .overflow
  | .badWord => .plain .key
  | .badPosition => .plain .position
  | .badTimestamp => .noSuchName
  | .timestampNotScalar => .wrongType
  | .tooDeep => .tooDeep

/-- What is wrong with a text in JSON. -/
def Json.Fault.toFault : Json.Fault → PageObjects.Fault
  | .malformed => .plain .json
  | .tooLong digits => .tooManyDigits digits
  | .tooDeep => .tooDeep

namespace Prog

/-! ## Catalogs -/

/-- A catalog that starts with the page types of a mapping, if there are any. -/
def startCatalog (bases : Value) (announces : Bool) : Prog Value := do
  let pages ←
    if ← view fun s => s.truthy bases then ofOption .wrongType (← view fun s => s.entries? bases) else pure []
  let id ← op (.addCatalog { announces, pages })
  pure (.catalog id)

/-! ## Entries -/

/-- The statements of an entry on a page type, up to the first that fails. -/
def stateAll (cls : ClassRef) : List Catalog.Entry.Step → Prog Unit
  | [] => .done ()
  | step :: rest => do
    let stated ← ofFault step
    let _ ← statement cls stated
    stateAll cls rest

/-- The hook of a page type that an entry describes. -/
def stateEntry (cls : ClassRef) (raw : Value) : Prog Unit := do
  let entries ← ofOption .wrongType (← view fun s => s.entries? raw)
  let steps ← view fun s => Catalog.Entry.steps s entries
  stateAll cls steps

/-- The page type under a name of a catalog, if there is one. -/
def registered (catalog : Nat) (name : Value) : Prog (Option Value) :=
  if name.hashable then view fun s => Value.lookup? name (s.entriesAt (.pages catalog))
  else raise .wrongType

/-- The text of a name in messages. -/
def textOf (name : Value) : Prog String := do ofFault (← view fun s => s.text name)

/-- The page type that an entry builds on. -/
def entryBase (catalog : Nat) (name : Value) (raw : Value.Entries) : Prog ClassRef := do
  let base := Value.field "base" raw
  if base.isNone then pure rootType
  else
    match ← registered catalog base with
    | some (.pageType cls) => pure cls
    | some _ => raise .wrongType
    | none => do raise (.unknownBase (← textOf name) (← ofFault (← view fun s => s.inspect base)))

/-- The module that the page types of catalogs belong to. -/
def catalogHome : String := "page_factory.page_catalog"

/-- The page type of an entry. -/
def buildPage (catalog : Nat) (name raw : Value) : Prog ClassRef := do
  match ← view fun s => s.entries? raw with
  | none => do raise (.pageNotMapping (← textOf name))
  | some entries => do
    let unknown ← ofFault (Catalog.Entry.unknownKeys entries)
    if unknown.isEmpty then do
      let base ← entryBase catalog name entries
      let draft : Draft := { name, bases := [base], hook := some (.entry raw), home := catalogHome }
      let (cls, _) ← definePageType draft fun cls => do
        stateEntry cls raw
        pure []
      pure cls
    else raise (.unknownKeys (← textOf name) unknown)

/-! ## Files -/

/-- The fault of an entry as a fault of its file. -/
def entryFault (file name : String) (r : Raised) : Raised := { fault := .inPage file name r.fault, cause := some r.fault }

/-- What describes a page: the value of an entry, or an empty mapping in the place of nothing. -/
def described (raw : Value) : Prog Value := do
  if ← view fun s => s.truthy raw then pure raw
  else do
    let i ← op (.makeCell (.map []))
    pure (.map i)

/-- The page type of an entry of a file, which is kept in the catalog. -/
def readEntry (catalog : Nat) (file : String) (name raw : Value) : Prog ClassRef := do
  let raw ← described raw
  match ← outcome (buildPage catalog name raw) with
  | .ok cls => do
    op (.register catalog name (.pageType cls))
    pure cls
  | .error r => do
    if r.kind.isOwn then .fail (entryFault file (← textOf name) r) else .fail r

/-- The page types of the entries of a file. -/
def readEntries (catalog : Nat) (file : String) : Built → Value.Entries → Prog Built
  | built, [] => .done built
  | built, (name, raw) :: rest => do
    let cls ← readEntry catalog file name raw
    readEntries catalog file (Assoc.put cls.name cls built) rest

/-- The note that a file has been read. -/
def fileRead (file : String) (count : Nat) : Log.Entry :=
  Log.signal .catalog ("Read " ++ toString count ++ " page type(s)") [("source", .text file)]

/-- The fault of a place that cannot be opened. -/
def openingFault : Spot → Fault
  | .outside => .plain .isDirectory
  | .blocked => .plain .notDirectory
  | .tooLong => .plain .otherSystem
  | _ => .plain .fileNotFound

/-- The content of a file, with the text of the log where it is one. -/
def contentOf (path : Path) : Prog (Content × String) := do
  let spot ← view fun s => s.files.locate path
  if ← view fun s => s.files.isDirectory path then raise (.plain .isDirectory)
  else
    match ← view fun s => s.files.file? path with
    | some (place, content) => do
      let logged ← op (.fileText place)
      pure (content, logged)
    | none => raise (openingFault spot)

/-- How deeply collections may be nested in JSON. -/
def nestingLimit : Nat := 985

/-- The value of a text in JSON. -/
def jsonValue (text : String) : Prog Value := do
  let tree ← ofFault ((Json.read nestingLimit text).mapError Json.Fault.toFault)
  let (v, cells) ← view fun s => Json.toValue s.cells tree
  op (.setCells cells)
  pure v

/-- The value of a text in YAML. -/
def yamlValue (text : String) : Prog Value := do
  let read ← view fun s => Yaml.read text s.cells
  let (v, cells) ← ofFault (read.mapError Yaml.Fault.toFault)
  op (.setCells cells)
  pure v

/-- The value of a file, by the ending of its name. -/
def valueOf (path : Path) : Prog Value := do
  let suffix := Text.lowercaseString path.suffix
  let (content, logged) ← contentOf path
  if suffix = ".yml" || suffix = ".yaml" then do
    yamlValue (← ofOption (.plain .encoding) (content.read? logged))
  else if suffix = ".json" then do
    jsonValue (← ofOption (.plain .encoding) (content.read? logged))
  else raise (.catalogExtension suffix)

/-- The entries of the value of a file. -/
def entriesIn? (cells : Cells) (v : Value) : Option Value.Entries :=
  ((cells.entries? v).bind (Value.field? "pages")).bind cells.entries?

/-- The page types of a file. -/
def readFile (catalog : Nat) (path : Path) : Prog Built := do
  let v ← valueOf path
  let entries ← ofOption (.catalogShape path.text) (← view fun s => entriesIn? s.cells v)
  let built ← readEntries catalog path.text [] entries
  log (fileRead path.text built.length)
  pure built

/-- The endings of the names of catalog files in a directory. -/
def catalogEndings : List String := [".yml", ".yaml", ".json"]

/-- The catalog files in a directory, in ascending order. -/
def catalogFiles (t : FileTree) (path : Path) : List Path :=
  (t.entries path).filter fun p =>
    catalogEndings.any fun ending => ((p.parts.getLast?).getD "").endsWith ending

/-- The page types of files, of which later ones win. -/
def readFiles (catalog : Nat) (announces : Bool) : Built → List Path → Prog Built
  | built, [] => .done built
  | built, path :: rest => do
    if announces then op (.note (.notice ("Reading page catalog: " ++ path.text)))
    let more ← readFile catalog path
    readFiles catalog announces (Assoc.merge built more) rest

/-- The page types of all catalog files in a directory. -/
def readDirectory (catalog : Nat) (path : Path) : Prog Built := do
  let files ← view fun s => catalogFiles s.files path
  let announces ← view fun s => ((s.catalogs[catalog]?).map (·.announces)).getD false
  readFiles catalog announces [] files

/-- The page types of the file or the directory at a place. -/
def readPlace (catalog : Nat) (p : Path) : Prog Built := do
  if ← view fun s => s.files.isDirectory p then readDirectory catalog p
  else if (← view fun s => s.files.file? p).isSome then readFile catalog p
  else if (← view fun s => s.files.locate p) = .tooLong then raise (.plain .otherSystem)
  else raise (.pathNotFound p.text)

/-- The page types of a file or a directory. -/
def readPath (catalog : Nat) (path : Value) : Prog Built := do
  let text ← ofOption .wrongType path.word?
  readPlace catalog (Path.read text)

end Prog

end PageObjects
