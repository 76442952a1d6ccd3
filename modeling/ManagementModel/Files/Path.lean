import ManagementModel.Text.Utf8

/-!
# ManagementModel — paths

A path is a sequence of bytes, in which slashes separate names; it need not be a text. Slashes in a
row count as one, and a slash or a dot at the end of a path does not change what is above it.
-/

namespace ManagementModel.Files

/-- Why what a path names cannot be read or written. -/
inductive FileError where
  | notFound
  | alreadyExists
  | notDirectory
  | isDirectory
  | nameTooLong
  /-- A path holds a zero byte. -/
  | zeroInPath
  /-- The bytes of a file are no text. -/
  | notText
  /-- Any other reason, as it was reported. -/
  | other (message : String)
deriving DecidableEq, Repr

def FileError.message : FileError → String
  | notFound => "No such file or directory (os error 2)"
  | alreadyExists => "File exists (os error 17)"
  | notDirectory => "Not a directory (os error 20)"
  | isDirectory => "Is a directory (os error 21)"
  | nameTooLong => "File name too long (os error 36)"
  | zeroInPath => "file name contained an unexpected NUL byte"
  | notText => "stream did not contain valid UTF-8"
  | other message => message

/-- A name between slashes. -/
abbrev Name := List UInt8

structure Path where
  bytes : List UInt8
deriving DecidableEq, Repr

namespace Path

def slash : UInt8 := 47

/-- The name of the directory that a name stands in. -/
def dot : Name := [46]

/-- The name of the directory above. -/
def dotDot : Name := [46, 46]

def ofText (s : String) : Path := ⟨Text.Utf8.bytes s⟩

/-- The path as it is shown. -/
def text (p : Path) : String := Text.Utf8.decodeLossy p.bytes

def isAbsolute (p : Path) : Bool := p.bytes.head? == some slash

def endsInSlash (p : Path) : Bool := p.bytes.getLast? == some slash

/-- A path below another one, unless it is absolute. -/
def join (p rest : Path) : Path :=
  if rest.isAbsolute then rest
  else if p.bytes.isEmpty || p.endsInSlash then ⟨p.bytes ++ rest.bytes⟩
  else ⟨p.bytes ++ slash :: rest.bytes⟩

/-- The names on the way along a path. -/
def names (p : Path) : List Name :=
  (p.bytes.splitOn slash).filter (!·.isEmpty)

/-! ## The last name and what is above it -/

/-- What stands at the front of a path and is no name: the slash of an absolute path, or a dot that
a relative path begins with. The rest is cut at slashes. -/
def split (p : Path) : List UInt8 × List Name :=
  match p.bytes.splitOn slash with
  | [] => ([], [])
  | first :: rest =>
    if p.isAbsolute then ([slash], rest)
    else if first == dot then (dot, if rest.isEmpty then [] else [] :: rest)
    else ([], first :: rest)

/-- Pieces without those at the end that are no names. -/
def dropBlankEnd (pieces : List Name) : List Name :=
  (pieces.reverse.dropWhile fun n => n.isEmpty || n == dot).reverse

/-- Puts pieces together again. -/
def ofPieces (front : List UInt8) (pieces : List Name) : Path :=
  ⟨front ++ [slash].intercalate pieces⟩

/-- The path above the last name; the root and the empty path have none. -/
def parent? (p : Path) : Option Path :=
  let (front, pieces) := p.split
  match dropBlankEnd pieces with
  | [] => if front == dot then some ⟨[]⟩ else none
  | pieces => some (ofPieces front (dropBlankEnd pieces.dropLast))

/-- The last name, unless that is the name of the directory above. -/
def fileName? (p : Path) : Option Name :=
  (dropBlankEnd p.split.2).getLast?.filter (· != dotDot)

/-- The path and those above it, the nearest first. Every step makes the path shorter, so that
`fuel` need not exceed its length. -/
def ancestors (p : Path) : (fuel : Nat) → List Path
  | 0 => [p]
  | fuel + 1 =>
    match p.parent? with
    | some above => p :: above.ancestors fuel
    | none => [p]

end Path

end ManagementModel.Files
