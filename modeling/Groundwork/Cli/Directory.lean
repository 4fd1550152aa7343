import Groundwork.Text.Lines

/-!
# Directories

The files that a command can see, as a value: reading and writing under paths that start in one
directory.  Nothing is known of the places around it but that they are there.
-/

namespace Groundwork.Cli

/-- Why a file cannot be read or written. -/
inductive FileError where
  | notFound
  | notDirectory
  | isDirectory
  | nameTooLong
  /-- A path cannot hold the null character. -/
  | nullInPath
  /-- What else a system may say. -/
  | other (message : String)
  deriving DecidableEq, Repr

/-- The error in words, with the number that the system gives it. -/
def FileError.message : FileError → String
  | notFound => "No such file or directory (os error 2)"
  | notDirectory => "Not a directory (os error 20)"
  | isDirectory => "Is a directory (os error 21)"
  | nameTooLong => "File name too long (os error 36)"
  | nullInPath => "file name contained an unexpected NUL byte"
  | other message => message

/-- A directory: the texts of files under the names that lead to them. -/
structure Directory where
  files : List (List String × String)
  deriving DecidableEq, Repr

/-- A place that a path leads to. -/
inductive Place where
  /-- Below the directory, the innermost name first. -/
  | inside (names : List String)
  /-- One of the directories around. -/
  | around
  deriving DecidableEq, Repr

namespace Directory

/-- The directory without files. -/
def empty : Directory := ⟨[]⟩

/-- The text of the file under some names. -/
def text? (d : Directory) (names : List String) : Option String := d.files.lookup names

/-- Whether some names lead to the directory itself or one within it. -/
def isFolder (d : Directory) (names : List String) : Bool :=
  names.isEmpty || d.files.any fun (file, _) => names.isPrefixOf file && names ≠ file

/-- The longest name, in octets. -/
def longestName : Nat := 255

/-- The longest path, in octets. -/
def longestPath : Nat := 4095

/-- Goes one step further; only directories lead further. -/
def step (d : Directory) (place : Place) (name : String) : Except FileError Place :=
  match place with
  | .around =>
    if name.isEmpty || name = "." || name = ".." then .ok .around else .error .notFound
  | .inside names =>
    if d.isFolder names.reverse then
      if name.isEmpty || name = "." then .ok place
      else if name = ".." then
        match names with
        | [] => .ok .around
        | _ :: names => .ok (.inside names)
      else if longestName < name.utf8ByteSize then .error .nameTooLong
      else .ok (.inside (name :: names))
    else if (d.text? names.reverse).isSome then .error .notDirectory
    else .error .notFound

/-- The names that a path is made of. -/
def namesOf (path : String) : List String :=
  (splitWhere (· = '/') path.toList).map String.ofList

/-- The place that a path leads to, whether or not something is there. -/
def locate (d : Directory) (path : String) : Except FileError Place :=
  if path.toList.any (·.toNat = 0) then .error .nullInPath
  else if path.isEmpty then .error .notFound
  else if longestPath < path.utf8ByteSize then .error .nameTooLong
  else
    let start := if path.toList.head? = some '/' then Place.around else .inside []
    (namesOf path).foldlM d.step start

/-- The text of a file. -/
def read (d : Directory) (path : String) : Except FileError String := do
  match ← d.locate path with
  | .around => .error .isDirectory
  | .inside names =>
    match d.text? names.reverse with
    | some text => .ok text
    | none => .error (if d.isFolder names.reverse then .isDirectory else .notFound)

/-- The files with the text of one of them replaced, or with one more at the end. -/
def put (names : List String) (text : String) :
    List (List String × String) → List (List String × String)
  | [] => [(names, text)]
  | file :: rest =>
    if file.1 = names then (names, text) :: rest else file :: put names text rest

/-- The directory with a text written to a file. -/
def write (d : Directory) (path text : String) : Except FileError Directory := do
  let bare := (path.toList.reverse.dropWhile (· = '/')).reverse
  if bare.isEmpty then .error (if path.isEmpty then .notFound else .isDirectory)
  match ← d.locate (String.ofList bare) with
  | .around => .error .isDirectory
  | .inside names =>
    if bare ≠ path.toList || d.isFolder names.reverse then .error .isDirectory
    else .ok ⟨put names.reverse text d.files⟩

/-- A directory with some files, of which the last with a name counts. -/
def ofFiles (files : List (String × String)) : Directory :=
  ⟨files.foldl (fun d (path, text) => put (namesOf path) text d) []⟩

/-- A text is found where it was put. -/
@[simp] theorem lookup_put (names : List String) (text : String)
    (files : List (List String × String)) : (put names text files).lookup names = some text := by
  induction files with
  | nil => simp [put]
  | cons file rest ih =>
    obtain ⟨name, old⟩ := file
    by_cases h : name = names
    · simp [put, h]
    · simp [put, h, List.lookup_cons, beq_eq_false_iff_ne.mpr (Ne.symm h), ih]

end Directory

end Groundwork.Cli
