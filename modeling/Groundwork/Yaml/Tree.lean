import Groundwork.Yaml.Token

/-!
# The tree of a document

Tokens are read as a tree in which anchors and aliases are still names.  A place where a value is
expected and nothing stands is an empty plain scalar.

Main definitions: `Tree`, and `Tree.ofTokens?`, which reads a document of which there is exactly
one.
-/

namespace Groundwork.Yaml

/-- A value of a document, perhaps with a name for aliases to refer to. -/
inductive Tree where
  | scalar (anchor : Option String) (s : Scalar)
  | list (anchor : Option String) (items : List Tree)
  | table (anchor : Option String) (entries : List (Tree × Tree))
  | alias (name : String)
  deriving Inhabited

/-- What stands before a value. -/
structure Properties where
  anchor : Option String
  tag : Option String

namespace Properties

def none : Properties := ⟨.none, .none⟩

def isNone (p : Properties) : Bool := p.anchor.isNone && p.tag.isNone

/-- A scalar with these properties.  The tag `!` says nothing about a scalar that is there. -/
def scalar (p : Properties) (style : ScalarStyle) (text : String) : Tree :=
  .scalar p.anchor ⟨style, if p.tag = some "!" then .none else p.tag, text⟩

/-- The empty scalar with these properties. -/
def empty (p : Properties) : Tree := .scalar p.anchor ⟨.plain, p.tag, ""⟩

end Properties

namespace Tree

/-- The place where nothing stands. -/
def blank : Tree := Properties.none.empty

/-- What tag handles stand for, the first entry deciding. -/
abbrev Handles := List (String × String)

/-- The handles that need no directive. -/
def standardHandles : Handles := [("!", "!"), ("!!", "tag:yaml.org,2002:")]

/-- The tag that a handle and a suffix write; the empty handle stands before a whole tag. -/
def tag? (handles : Handles) (handle suffix : String) : Option String :=
  if handle.isEmpty then some suffix
  else (handles.lookup handle).map (· ++ suffix)

/-- Reads the properties before a value, in either order. -/
def readProperties? (handles : Handles) : List Token → Option (Properties × List Token)
  | .anchor name :: .tag handle suffix :: rest => do
    return (⟨some name, ← tag? handles handle suffix⟩, rest)
  | .tag handle suffix :: .anchor name :: rest => do
    return (⟨some name, ← tag? handles handle suffix⟩, rest)
  | .anchor name :: rest => some (⟨some name, none⟩, rest)
  | .tag handle suffix :: rest => do return (⟨none, ← tag? handles handle suffix⟩, rest)
  | rest => some (.none, rest)

/-- Whether a value is missing after a dash or a mark of a key or value, where it would be
indented. -/
def isMissingInBlock (inTable : Bool) : List Token → Bool
  | .blockEnd :: _ => true
  | .item :: _ => !inTable
  | .key :: _ => inTable
  | .value :: _ => inTable
  | _ => false

/-- Whether an item is missing in a list that is not indented against the table around. -/
def isMissingInFlatList : List Token → Bool
  | .item :: _ => true
  | .key :: _ => true
  | .value :: _ => true
  | .blockEnd :: _ => true
  | _ => false

/-- Whether a value is missing between brackets, of which `closing` is the closing one. -/
def isMissingInFlow (closing : Token) : List Token → Bool
  | .comma :: _ => true
  | t :: _ => t = closing
  | [] => false

mutual

/-- Reads a value.  `inBlock` says that it may use indentation, and `inTable` that it may be a list
whose dashes stand as far left as the keys of the table around. -/
def readValue (fuel : Nat) (handles : Handles) (inBlock inTable : Bool) (ts : List Token) :
    Option (Tree × List Token) :=
  match fuel with
  | 0 => none
  | fuel + 1 =>
    match ts with
    | .alias name :: rest => some (.alias name, rest)
    | ts => do
      let (p, ts) ← readProperties? handles ts
      match ts with
      | .scalar style text :: rest => return (p.scalar style text, rest)
      | .listOpen :: rest =>
        let (items, rest) ← readFlowItems fuel handles [] rest
        return (.list p.anchor items, rest)
      | .tableOpen :: rest =>
        let (entries, rest) ← readFlowEntries fuel handles [] rest
        return (.table p.anchor entries, rest)
      | .item :: _ =>
        if inTable then
          let (items, rest) ← readFlatItems fuel handles [] ts
          return (.list p.anchor items, rest)
        else if p.isNone then none
        else return (p.empty, ts)
      | .blockList :: rest =>
        if inBlock then
          let (items, rest) ← readBlockItems fuel handles [] rest
          return (.list p.anchor items, rest)
        else if p.isNone then none
        else return (p.empty, ts)
      | .blockTable :: rest =>
        if inBlock then
          let (entries, rest) ← readBlockEntries fuel handles [] rest
          return (.table p.anchor entries, rest)
        else if p.isNone then none
        else return (p.empty, ts)
      | _ => if p.isNone then none else return (p.empty, ts)

/-- Reads the items of an indented list. -/
def readBlockItems (fuel : Nat) (handles : Handles) (before : List Tree) (ts : List Token) :
    Option (List Tree × List Token) :=
  match fuel with
  | 0 => none
  | fuel + 1 =>
    match ts with
    | .item :: rest =>
      if isMissingInBlock false rest then readBlockItems fuel handles (blank :: before) rest
      else do
        let (item, rest) ← readValue fuel handles true false rest
        readBlockItems fuel handles (item :: before) rest
    | .blockEnd :: rest => some (before.reverse, rest)
    | _ => none

/-- Reads the items of a list that is not indented against the table around. -/
def readFlatItems (fuel : Nat) (handles : Handles) (before : List Tree) (ts : List Token) :
    Option (List Tree × List Token) :=
  match fuel with
  | 0 => none
  | fuel + 1 =>
    match ts with
    | .item :: rest =>
      if isMissingInFlatList rest then readFlatItems fuel handles (blank :: before) rest
      else do
        let (item, rest) ← readValue fuel handles true false rest
        readFlatItems fuel handles (item :: before) rest
    | rest => some (before.reverse, rest)

/-- Reads the entries of an indented table. -/
def readBlockEntries (fuel : Nat) (handles : Handles) (before : List (Tree × Tree))
    (ts : List Token) : Option (List (Tree × Tree) × List Token) :=
  match fuel with
  | 0 => none
  | fuel + 1 =>
    match ts with
    | .key :: rest => do
      let (key, rest) ←
        if isMissingInBlock true rest then some (blank, rest)
        else readValue fuel handles true true rest
      let (value, rest) ← readBlockEntryValue fuel handles rest
      readBlockEntries fuel handles ((key, value) :: before) rest
    | .blockEnd :: rest => some (before.reverse, rest)
    | _ => none

/-- Reads the value of an entry of an indented table. -/
def readBlockEntryValue (fuel : Nat) (handles : Handles) (ts : List Token) :
    Option (Tree × List Token) :=
  match fuel with
  | 0 => none
  | fuel + 1 =>
    match ts with
    | .value :: rest =>
      if isMissingInBlock true rest then some (blank, rest)
      else readValue fuel handles true true rest
    | rest => some (blank, rest)

/-- Reads the items of a list in brackets, after the opening bracket or a comma. -/
def readFlowItems (fuel : Nat) (handles : Handles) (before : List Tree) (ts : List Token) :
    Option (List Tree × List Token) :=
  match fuel with
  | 0 => none
  | fuel + 1 =>
    match ts with
    | .listClose :: rest => some (before.reverse, rest)
    | ts => do
      let (item, rest) ←
        match ts with
        | .key :: rest => readPair fuel handles rest
        | ts => readValue fuel handles false false ts
      match rest with
      | .comma :: rest => readFlowItems fuel handles (item :: before) rest
      | .listClose :: rest => some ((item :: before).reverse, rest)
      | _ => none

/-- Reads an item that is an entry without braces, after the mark of its key.  Where the key is
missing, the token that shows it is left out. -/
def readPair (fuel : Nat) (handles : Handles) (ts : List Token) : Option (Tree × List Token) :=
  match fuel with
  | 0 => none
  | fuel + 1 => do
    let (key, rest) ←
      match ts with
      | .value :: rest => some (blank, rest)
      | .comma :: rest => some (blank, rest)
      | .listClose :: rest => some (blank, rest)
      | ts => readValue fuel handles false false ts
    let (value, rest) ←
      match rest with
      | .value :: rest =>
        if isMissingInFlow .listClose rest then some (blank, rest)
        else readValue fuel handles false false rest
      | rest => some (blank, rest)
    return (.table none [(key, value)], rest)

/-- Reads the entries of a table in braces, after the opening brace or a comma. -/
def readFlowEntries (fuel : Nat) (handles : Handles) (before : List (Tree × Tree))
    (ts : List Token) : Option (List (Tree × Tree) × List Token) :=
  match fuel with
  | 0 => none
  | fuel + 1 =>
    match ts with
    | .tableClose :: rest => some (before.reverse, rest)
    | ts => do
      let (entry, rest) ←
        match ts with
        | .key :: rest => readFlowEntry fuel handles rest
        | ts => (readValue fuel handles false false ts).map fun (key, rest) => ((key, blank), rest)
      match rest with
      | .comma :: rest => readFlowEntries fuel handles (entry :: before) rest
      | .tableClose :: rest => some ((entry :: before).reverse, rest)
      | _ => none

/-- Reads an entry of a table in braces, after the mark of its key. -/
def readFlowEntry (fuel : Nat) (handles : Handles) (ts : List Token) :
    Option ((Tree × Tree) × List Token) :=
  match fuel with
  | 0 => none
  | fuel + 1 => do
    let isMissing := match ts with
      | .value :: _ => true
      | ts => isMissingInFlow .tableClose ts
    let (key, rest) ←
      if isMissing then some (blank, ts) else readValue fuel handles false false ts
    let (value, rest) ←
      match rest with
      | .value :: rest =>
        if isMissingInFlow .tableClose rest then some (blank, rest)
        else readValue fuel handles false false rest
      | rest => some (blank, rest)
    return ((key, value), rest)

end

/-- What the directives before a document say. -/
structure Preamble where
  hasVersion : Bool
  handles : Handles

/-- Reads the directives before a document.  The version must be known, and nothing may be said
twice. -/
def readPreamble? (p : Preamble) : List Token → Option (Preamble × List Token)
  | .version major minor :: rest =>
    if p.hasVersion || major ≠ 1 || (minor ≠ 1 && minor ≠ 2) then none
    else readPreamble? { p with hasVersion := true } rest
  | .handle name stem :: rest =>
    if p.handles.any (·.1 = name) then none
    else readPreamble? { p with handles := p.handles ++ [(name, stem)] } rest
  | rest => some (p, rest)

/-- Whether a document has no value, as these tokens come after its start. -/
def isEmptyDocument : List Token → Bool
  | [] => true
  | .version _ _ :: _ => true
  | .handle _ _ :: _ => true
  | .documentStart :: _ => true
  | .documentEnd :: _ => true
  | _ => false

/-- Reads the value of a document. -/
def readRoot? (handles : Handles) (ts : List Token) : Option (Tree × List Token) :=
  readValue (3 * ts.length + 3) (handles ++ standardHandles) true false ts

/-- Reads a document: one with directives or a starting mark, or a bare one. -/
def readDocument? (ts : List Token) : Option (Tree × List Token) :=
  match ts with
  | [] => none
  | .version _ _ :: _ | .handle _ _ :: _ | .documentStart :: _ => do
    let (p, rest) ← readPreamble? ⟨false, []⟩ ts
    match rest with
    | .documentStart :: rest =>
      if isEmptyDocument rest then return (blank, rest) else readRoot? p.handles rest
    | _ => none
  | ts => readRoot? [] ts

/-- The tree of the only document that tokens write. -/
def ofTokens? (ts : List Token) : Option Tree := do
  let (tree, rest) ← readDocument? ts
  if rest.all (· = .documentEnd) then some tree else none

end Tree

end Groundwork.Yaml
