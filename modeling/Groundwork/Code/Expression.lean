import Groundwork.Text.Lines

/-!
# Expressions of generated code

An expression is a tree, and `Expression.render` is the only place where it becomes text.  User
texts stand in quoted literals or templates, which escape them; `code` stands for itself.  Objects
and lists have one field or item on a line, and whatever they hold is shifted along.

Main statements: `unquote_quote`, `lineFeed_not_mem_quote`, `isInfixOf_hang_of_not_mem`.
-/

namespace Groundwork.Code

/-! ## Quoted literals -/

/-- A character inside a quoted literal. -/
def quoteChar (c : Char) : List Char :=
  match c with
  | '"' => ['\\', '"']
  | '\\' => ['\\', '\\']
  | '\n' => ['\\', 'n']
  | '\r' => ['\\', 'r']
  | '\t' => ['\\', 't']
  | c => [c]

/-- The characters of a literal between its quotes. -/
def quoteBody (cs : List Char) : List Char := cs.flatMap quoteChar

/-- A quoted literal. -/
def quote (cs : List Char) : List Char := '"' :: quoteBody cs ++ ['"']

/-- The character that an escape stands for. -/
def escaped? : Char → Option Char
  | '"' => some '"'
  | '\\' => some '\\'
  | 'n' => some '\n'
  | 'r' => some '\r'
  | 't' => some '\t'
  | _ => none

/-- Reads the characters up to the quote that closes a literal, which has to be the last one. -/
def unquoteBody? : List Char → Option (List Char)
  | [] => none
  | '"' :: rest => if rest.isEmpty then some [] else none
  | '\\' :: c :: rest => do
    let c ← escaped? c
    let rest ← unquoteBody? rest
    return c :: rest
  | c :: rest => (unquoteBody? rest).map (c :: ·)

/-- The text that a quoted literal stands for. -/
def unquote? : List Char → Option (List Char)
  | '"' :: rest => unquoteBody? rest
  | _ => none

/-- Reading a character's escape gives the character back. -/
theorem unquoteBody?_quoteChar_append (c : Char) (rest : List Char) :
    unquoteBody? (quoteChar c ++ rest) = (unquoteBody? rest).map (c :: ·) := by
  unfold quoteChar
  split
  iterate 5
    · simp only [List.cons_append, List.nil_append, unquoteBody?, escaped?]
      cases unquoteBody? rest <;> rfl
  rename_i hquote hslash _ _ _
  simp only [List.cons_append, List.nil_append]
  rw [unquoteBody?.eq_4 c rest hquote (fun d ds h _ => hslash h)]

/-- A literal stands for the text that it was made of. -/
theorem unquote_quote (cs : List Char) : unquote? (quote cs) = some cs := by
  suffices h : unquoteBody? (quoteBody cs ++ ['"']) = some cs by simpa [quote, unquote?]
  induction cs with
  | nil => rfl
  | cons c cs ih =>
    simp only [quoteBody] at ih
    simp only [quoteBody, List.flatMap_cons, List.append_assoc, unquoteBody?_quoteChar_append, ih,
      Option.map_some]

/-- No character of a literal is a line feed. -/
theorem lineFeed_not_mem_quoteChar (c : Char) : '\n' ∉ quoteChar c := by
  unfold quoteChar
  split
  all_goals simp
  rename_i h _ _
  exact fun e => h e.symm

/-- A literal has no line feed. -/
theorem lineFeed_not_mem_quote (cs : List Char) : '\n' ∉ quote cs := by
  suffices h : '\n' ∉ quoteBody cs by simp [quote, h]
  intro h
  obtain ⟨c, _, hc⟩ := List.mem_flatMap.1 h
  exact lineFeed_not_mem_quoteChar c hc

/-! ## Trees -/

/-- An expression. -/
inductive Expression where
  /-- Code that stands for itself. -/
  | code (s : String)
  /-- A quoted literal. -/
  | quoted (s : String)
  /-- A template literal; placeholders in it are filled in when the code runs. -/
  | template (s : String)
  /-- An object with one field on a line. -/
  | object (fields : List (String × Expression))
  /-- An object on one line. -/
  | inlineObject (fields : List (String × Expression))
  /-- A list with one item on a line. -/
  | list (items : List Expression)
  /-- A list on one line. -/
  | row (items : List Expression)
  /-- An expression with code before and after it. -/
  | enclosed (before : String) (inner : Expression) (after : String)

namespace Expression

/-- A whole number. -/
def number (n : Nat) : Expression := .code (toString n)

/-- A truth value. -/
def truth (b : Bool) : Expression := .code (if b then "true" else "false")

/-- Quoted literals on one line. -/
def texts (items : List String) : Expression := .row (items.map .quoted)

/-- A template with its backquotes escaped. -/
def escapeTemplate (cs : List Char) : List Char :=
  cs.flatMap fun c => if c = Char.ofNat 96 then ['\\', c] else [c]

/-- How much deeper nested text stands. -/
def pad : List Char := [' ', ' ']

/-- Joins texts with a comma and a blank. -/
def commaSeparated : List (List Char) → List Char
  | [] => []
  | [text] => text
  | text :: rest => text ++ ',' :: ' ' :: commaSeparated rest

/-- A field of an object: its key, a colon and its value. -/
def fieldText (key : String) (value : List Char) : List Char :=
  key.toList ++ ':' :: ' ' :: value

/-- Text on a line of its own, one level deeper, with a comma after it. -/
def ownLine (text : List Char) : List Char :=
  '\n' :: pad ++ hang pad (text ++ [','])

mutual

/-- The text of an expression; `tag` stands before every template. -/
def render (tag : List Char) : Expression → List Char
  | .code s => s.toList
  | .quoted s => quote s.toList
  | .template s => tag ++ Char.ofNat 96 :: escapeTemplate s.toList ++ [Char.ofNat 96]
  | .object [] => ['\x7b', '\x7d']
  | .object (field :: fields) =>
    '\x7b' :: renderFieldLines tag (field :: fields) ++ ['\n', '\x7d']
  | .inlineObject fields =>
    ['\x7b', ' '] ++ commaSeparated (renderFields tag fields) ++ [' ', '\x7d']
  | .list [] => ['[', ']']
  | .list (item :: items) => '[' :: renderItemLines tag (item :: items) ++ ['\n', ']']
  | .row items => '[' :: commaSeparated (renderItems tag items) ++ [']']
  | .enclosed before inner after => before.toList ++ render tag inner ++ after.toList

/-- The fields of an object, each on a line of its own. -/
def renderFieldLines (tag : List Char) : List (String × Expression) → List Char
  | [] => []
  | (key, value) :: rest =>
    ownLine (fieldText key (render tag value)) ++ renderFieldLines tag rest

/-- The items of a list, each on a line of its own. -/
def renderItemLines (tag : List Char) : List Expression → List Char
  | [] => []
  | item :: rest => ownLine (render tag item) ++ renderItemLines tag rest

/-- The texts of some fields. -/
def renderFields (tag : List Char) : List (String × Expression) → List (List Char)
  | [] => []
  | (key, value) :: rest => fieldText key (render tag value) :: renderFields tag rest

/-- The texts of some items. -/
def renderItems (tag : List Char) : List Expression → List (List Char)
  | [] => []
  | item :: rest => render tag item :: renderItems tag rest

end

end Expression

/-- Nesting keeps every part of a text that has no line feed. -/
theorem isInfixOf_hang_of_not_mem {pad cs part : List Char} (hpart : '\n' ∉ part)
    (h : part <:+: cs) : part <:+: hang pad cs := by
  obtain ⟨before, after, rfl⟩ := h
  refine ⟨hang pad before, hang pad after, ?_⟩
  have h := @hang_eq_self pad _ hpart
  simp only [hang] at h ⊢
  simp [h]

end Groundwork.Code
