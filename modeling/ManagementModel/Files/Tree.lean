import ManagementModel.Files.Path

/-!
# ManagementModel — trees of files

A tree of directories and files, and what reading and writing under a path does to it. A path is
followed name by name from the root; every name but the last has to be a directory. A path that is
not absolute begins at the root too.
-/

namespace ManagementModel.Files

inductive Entry where
  | file (data : List UInt8)
  | directory
deriving DecidableEq, Repr

/-- The names from the root to an entry. -/
abbrev Location := List Name

/-- The entries below the root. -/
structure Tree where
  entries : List (Location × Entry) := []
deriving Repr

namespace Tree

/-- The longest name of an entry, in bytes. -/
def maxName : Nat := 255

/-- The longest path, in bytes. -/
def maxPath : Nat := 4095

/-- What stands at a location. -/
def entry? (t : Tree) (loc : Location) : Option Entry :=
  if loc.isEmpty then some .directory else t.entries.lookup loc

/-- The tree without what stands at a location. -/
def erase (t : Tree) (loc : Location) : Tree :=
  ⟨t.entries.filter (·.1 != loc)⟩

/-- The tree with an entry at a location. -/
def put (t : Tree) (loc : Location) (e : Entry) : Tree :=
  ⟨(loc, e) :: (t.erase loc).entries⟩

/-! ## Following a path -/

/-- What a directory holds under a name. -/
def find (t : Tree) (directory : Location) (name : Name) : Except FileError (Option Entry) :=
  if maxName < name.length then .error .nameTooLong else .ok (t.entry? (directory ++ [name]))

/-- The directory that names lead to. -/
def descend (t : Tree) (here : Location) : List Name → Except FileError Location
  | [] => .ok here
  | name :: rest =>
    if name == Path.dot then t.descend here rest
    else if name == Path.dotDot then t.descend here.dropLast rest
    else
      match t.find here name with
      | .error e => .error e
      | .ok none => .error .notFound
      | .ok (some (.file _)) => .error .notDirectory
      | .ok (some .directory) => t.descend (here ++ [name]) rest

/-- A path can be followed at all. -/
def check (p : Path) : Except FileError Unit :=
  if p.bytes.contains 0 then .error .zeroInPath
  else if p.bytes.isEmpty then .error .notFound
  else if maxPath < p.bytes.length then .error .nameTooLong
  else .ok ()

/-- The directory that holds what a path leads to, and the name there; a path that ends in dots
leads to a directory and has no name. -/
def place (t : Tree) (p : Path) : Except FileError (Location × Option Name) := do
  check p
  match p.names.getLast? with
  | none => return ([], none)
  | some last =>
    let here ← t.descend [] p.names.dropLast
    return (here, if last == Path.dot || last == Path.dotDot then none else some last)

/-- A path leads to a directory. -/
def isDirectory (t : Tree) (p : Path) : Bool :=
  (do check p; t.descend [] p.names : Except FileError Location).toBool

/-! ## Reading and writing -/

/-- The bytes of a file. -/
def read (t : Tree) (p : Path) : Except FileError (List UInt8) := do
  match ← t.place p with
  | (_, none) => throw .isDirectory
  | (here, some name) =>
    match ← t.find here name with
    | none => throw .notFound
    | some .directory => throw .isDirectory
    | some (.file data) => if p.endsInSlash then throw .notDirectory else return data

/-- The tree with a file of the given bytes. -/
def write (t : Tree) (p : Path) (data : List UInt8) : Except FileError Tree := do
  match ← t.place p with
  | (_, none) => throw .isDirectory
  | (here, some name) =>
    if p.endsInSlash then throw .isDirectory
    match ← t.find here name with
    | some .directory => throw .isDirectory
    | _ => return t.put (here ++ [name]) (.file data)

/-- The tree with a new directory. -/
def makeDirectory (t : Tree) (p : Path) : Except FileError Tree := do
  match ← t.place p with
  | (_, none) => throw .alreadyExists
  | (here, some name) =>
    match ← t.find here name with
    | some _ => throw .alreadyExists
    | none => return t.put (here ++ [name]) .directory

/-- Makes a directory, which may be there already. -/
def ensureDirectory (t : Tree) (p : Path) : Tree × Except FileError Unit :=
  match t.makeDirectory p with
  | .ok t => (t, .ok ())
  | .error e => (t, if t.isDirectory p then .ok () else .error e)

/-- Makes the first of some directories, of which each is above the one before it. What was made
before a failure stays. -/
def makeAll (t : Tree) : List Path → Tree × Except FileError Unit
  | [] => (t, .ok ())
  | p :: above =>
    if p.bytes.isEmpty then (t, .ok ())
    else
      match t.ensureDirectory p with
      | (t, .error .notFound) =>
        match t.makeAll above with
        | (t, .ok ()) => t.ensureDirectory p
        | failed => failed
      | done => done

/-- Makes a directory and those above it. -/
def makeDirectories (t : Tree) (p : Path) : Tree × Except FileError Unit :=
  t.makeAll (p.ancestors p.bytes.length)

end Tree

end ManagementModel.Files
