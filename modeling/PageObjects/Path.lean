import PageObjects.Text.Half

/-!
# Paths and the files below a directory

A path is read as its parts: empty parts and single dots do not count.  The
files below the working directory are known with their contents.

Main definitions:

- `Path`: the parts of a path, with `Path.read`, `Path.text` and `Path.suffix`.
- `Content`: the content of a file.
- `Spot`: where a path leads.
- `FileTree`: files and directories, with `FileTree.locate`, `FileTree.file?` and
  `FileTree.entries`.
-/

namespace PageObjects

/-- The parts of a path. -/
structure Path where
  root : String
  parts : List String
deriving Repr, DecidableEq

namespace Path

/-- The path that a text stands for. -/
def read (text : String) : Path :=
  let root := if text.startsWith "//" && !text.startsWith "///" then "//"
    else if text.startsWith "/" then "/" else ""
  ⟨root, (text.splitOn "/").filter fun p => p != "" && p != "."⟩

/-- The text of a path. -/
def text (p : Path) : String :=
  if p.root == "" && p.parts.isEmpty then "."
  else p.root ++ "/".intercalate p.parts

/-- A path one step below another. -/
def child (p : Path) (name : String) : Path := { p with parts := p.parts ++ [name] }

/-- A path whose steps back are taken at once, without looking at what is there. -/
def plain (p : Path) : Path :=
  let step (acc : List String) (part : String) : List String :=
    if part == ".." then acc.dropLast else acc ++ [part]
  { p with parts := p.parts.foldl step [] }

/-- Whether a path holds the character that ends a text, which no path may hold. -/
def hasNull (p : Path) : Bool := p.parts.any fun part => part.contains '\x00'

/-- Whether a path holds an unpaired half, which has no form in a file system. -/
def hasHalf (p : Path) : Bool := p.parts.any Text.Half.within

/-- The ending of a file name, from its last dot on.  A dot at either end of
the name begins no ending. -/
def nameSuffix (name : String) : String :=
  let cs := name.toList
  let tail := cs.reverse.takeWhile (· != '.')
  if tail.length + 1 < cs.length && !tail.isEmpty then String.ofList ('.' :: tail.reverse) else ""

/-- The ending of the last part. -/
def suffix (p : Path) : String :=
  match p.parts.getLast? with
  | some name => nameSuffix name
  | none => ""

end Path

/-- The content of a file: a text, bytes, or what is logged to it. -/
inductive Content where
  | text (s : String)
  | bytes (bs : List UInt8)
  | logged
deriving Repr, DecidableEq

/-- The text of a content in UTF-8, where `log` is what was logged. -/
def Content.decode? (log : String) : Content → Option String
  | .text s => some s
  | .bytes bs => String.fromUTF8? (ByteArray.mk bs.toArray)
  | .logged => some log

/-- Carriage returns, alone or ahead of a line feed, read as line feeds. -/
def unifyBreaks : List Char → List Char
  | [] => []
  | '\r' :: '\n' :: rest => '\n' :: unifyBreaks rest
  | '\r' :: rest => '\n' :: unifyBreaks rest
  | c :: rest => c :: unifyBreaks rest

/-- The text of a content as it is read: in UTF-8, with unified line breaks. -/
def Content.read? (log : String) (c : Content) : Option String :=
  (c.decode? log).map fun s => String.ofList (unifyBreaks s.toList)

/-- Where a path leads: to a place below the working directory, to a directory
outside of it, nowhere, or through a file; or it has a part that is too long. -/
inductive Spot where
  | inside (parts : List String)
  | outside
  | absent
  | blocked
  | tooLong
deriving Repr, DecidableEq

/-- Files and directories below the working directory, by their parts. -/
structure FileTree where
  files : List (List String × Content) := []
  dirs : List (List String) := []
deriving Repr, DecidableEq

namespace FileTree

/-- Whether parts lead to a directory: one that was made, or one on the way to
a file or a directory. -/
def isDirectoryAt (t : FileTree) (parts : List String) : Bool :=
  parts.isEmpty || t.dirs.any (parts.isPrefixOf ·)
    || t.files.any fun f => parts.isPrefixOf f.1 && parts != f.1

/-- The content of the file that parts lead to. -/
def contentAt? (t : FileTree) (parts : List String) : Option Content := t.files.lookup parts

/-- The most bytes that a part of a path may have. -/
def partLimit : Nat := 255

/-- Follow parts from a directory on.  Each part but the last has to be a directory. -/
def follow (t : FileTree) : (here : List String) → (parts : List String) → Spot
  | here, [] => .inside here
  | here, part :: rest =>
    if !t.isDirectoryAt here then (if (t.contentAt? here).isSome then .blocked else .absent)
    else if part == ".." then
      if here.isEmpty then (if rest.all (· == "..") then .outside else .absent)
      else t.follow here.dropLast rest
    else if partLimit < part.utf8ByteSize then .tooLong
    else t.follow (here ++ [part]) rest

/-- The most bytes that a path may have. -/
def pathLimit : Nat := 4095

/-- Where a path leads. -/
def locate (t : FileTree) (p : Path) : Spot :=
  if p.hasNull || p.hasHalf then .absent
  else if pathLimit < p.text.utf8ByteSize then .tooLong
  else if p.root != "" then (if p.parts.all (· == "..") then .outside else .absent)
  else t.follow [] p.parts

/-- Whether a path leads to a directory. -/
def isDirectory (t : FileTree) (p : Path) : Bool :=
  match t.locate p with
  | .inside parts => t.isDirectoryAt parts
  | .outside => true
  | _ => false

/-- The place and the content of the file that a path leads to. -/
def file? (t : FileTree) (p : Path) : Option (List String × Content) :=
  match t.locate p with
  | .inside parts => (t.contentAt? parts).map fun c => (parts, c)
  | _ => none

/-- A tree with a file that is logged to. -/
def create (t : FileTree) (parts : List String) : FileTree :=
  { t with files := (t.files.filter fun f => f.1 != parts) ++ [(parts, .logged)] }

/-- The names right below a directory, in ascending order. -/
def names (t : FileTree) (parts : List String) : List String :=
  let below (path : List String) : Option String :=
    if parts.isPrefixOf path then (path.drop parts.length).head? else none
  ((t.files.filterMap fun f => below f.1) ++ t.dirs.filterMap below).eraseDups.mergeSort
    fun a b => a ≤ b

/-- The paths right below a directory, in ascending order. -/
def entries (t : FileTree) (p : Path) : List Path :=
  match t.locate p with
  | .inside parts => (t.names parts).map p.child
  | _ => []

end FileTree

end PageObjects
