import Groundwork.Code.Expression
import Groundwork.Text.Digit

/-!
# Literals as the code means them

Which text a literal of generated code stands for when the code runs.  A literal is read piece by
piece up to the character that closes it; a backslash and what belongs to it are one piece.  The
reader knows every escape of the language, not only those that quoted literals are written with, so
it also says what becomes of a text that was put between quotes as it is.

Main definitions:

- `Code.escape?`: what a backslash stands for.
- `Code.Reads`: what a literal stands for, and what comes after it; `Code.readPieces?` computes it.
- `Code.quotedValue?`: the text that a quoted literal stands for.

Main results:

- `Code.reads_quoteBody`: a quoted literal stands for the text that it was made of.
- `Code.Reads.length_quoted`: a quoted literal is at least as long as what it stands for.
- `Code.quotedValue?_quotes_iff`: the texts that stand for themselves between quotes.
-/

namespace Groundwork.Code

/-! ## Escapes -/

/-- The characters at which a line of code ends. -/
def endsLine (c : Char) : Bool :=
  c = '\n' || c = '\r' || c = Char.ofNat 0x2028 || c = Char.ofNat 0x2029

/-- The control character that a letter stands for after a backslash. -/
def control? : Char → Option Char
  | 'b' => some (Char.ofNat 0x08)
  | 't' => some '\t'
  | 'n' => some '\n'
  | 'v' => some (Char.ofNat 0x0B)
  | 'f' => some (Char.ofNat 0x0C)
  | 'r' => some '\r'
  | _ => none

/-- The character whose code some hexadecimal digits write. -/
def hexChar? (digits : List Char) : Option Char := (digits? 16 digits).bind scalarChar?

/-- What a backslash stands for if the text comes after it, and how many characters of the text
belong to the escape.  Codes are written with two or four digits, or in braces; the end of a line
stands for nothing, and most characters for themselves.  No digit can be escaped, apart from a zero
that no digit follows, and half of a surrogate pair is no character. -/
def escape? : List Char → Option (List Char × Nat)
  | [] => none
  | 'x' :: rest =>
    match rest with
    | a :: b :: _ => (hexChar? [a, b]).map fun c => ([c], 3)
    | _ => none
  | 'u' :: '\x7b' :: rest =>
    let digits := rest.takeWhile (· ≠ '\x7d')
    if digits.length < rest.length then
      (hexChar? digits).map fun c => ([c], digits.length + 3)
    else none
  | 'u' :: rest =>
    match rest with
    | a :: b :: c :: d :: _ => (hexChar? [a, b, c, d]).map fun c => ([c], 5)
    | _ => none
  | '\r' :: '\n' :: _ => some ([], 2)
  | c :: rest =>
    if c.isDigit then
      if c = '0' && !rest.head?.any Char.isDigit then some ([Char.ofNat 0], 1) else none
    else if endsLine c then some ([], 1)
    else some ([(control? c).getD c], 1)

/-- The characters that the code of a character is written with. -/
def writesCode (c : Char) : Bool :=
  (digit? 16 c).isSome || c = 'x' || c = 'u' || c = '\x7b' || c = '\x7d'

/-- The digits of a code are among the characters that codes are written with. -/
theorem writesCode_of_mem {digits : List Char} {e : Char} (h : hexChar? digits = some e) :
    ∀ c ∈ digits, writesCode c = true := by
  have hfold : ∀ (digits : List Char) (n m : Nat),
      digits.foldlM (fun n c => (digit? 16 c).map (16 * n + ·)) n = some m →
        ∀ c ∈ digits, (digit? 16 c).isSome := by
    intro digits
    induction digits with
    | nil => simp
    | cons d rest ih =>
      intro n m hread
      rw [List.foldlM_cons, Option.bind_eq_bind, Option.bind_eq_some_iff] at hread
      obtain ⟨value, hvalue, hrest⟩ := hread
      obtain ⟨_, hdigit, -⟩ := Option.map_eq_some_iff.1 hvalue
      exact List.forall_mem_cons.2 ⟨by simp [hdigit], ih value m hrest⟩
  obtain ⟨n, hn, -⟩ := Option.bind_eq_some_iff.1 h
  unfold digits? foldDigits? at hn
  split at hn
  · cases hn
  · intro c hc
    simp [writesCode, hfold digits 0 n hn c hc]

/-- A text in which a character comes, taken apart there. -/
theorem exists_eq_takeWhile_append_cons {c : Char} {text : List Char}
    (h : (text.takeWhile (· ≠ c)).length < text.length) :
    ∃ rest, text = text.takeWhile (· ≠ c) ++ c :: rest := by
  have hsplit := List.takeWhile_append_dropWhile (p := (· ≠ c)) (l := text)
  cases hdrop : text.dropWhile (· ≠ c) with
  | nil =>
    rw [hdrop, List.append_nil] at hsplit
    rw [hsplit] at h
    exact absurd h (Nat.lt_irrefl _)
  | cons d rest =>
    have hhead := List.head?_dropWhile_not (· ≠ c) text
    rw [hdrop] at hhead
    obtain rfl : d = c := by simpa using hhead
    exact ⟨rest, by rw [← hdrop, hsplit]⟩

/-- A text is taken up to where a character comes first. -/
theorem takeWhile_append_cons {word : List Char} {c : Char} (h : c ∉ word) (rest : List Char) :
    (word ++ c :: rest).takeWhile (· ≠ c) = word := by
  rw [List.takeWhile_append_of_pos]
  · simp
  · intro d hd
    rw [decide_eq_true_eq]
    rintro rfl
    exact h hd

/-- What an escape can be: one character, the end of a line of two characters, or the code of a
character.  It stands for one character at most, and the end of a line for none. -/
theorem escape?_cases {text out : List Char} {n : Nat} (h : escape? text = some (out, n)) :
    out.length ≤ 1 ∧
      ((∃ c rest, text = c :: rest ∧ n = 1 ∧ (c = '\n' → out = [])) ∨
        (∃ rest, text = '\r' :: '\n' :: rest ∧ n = 2 ∧ out = []) ∨
        ∃ word rest, text = word ++ rest ∧ word ≠ [] ∧ n = word.length ∧
          ∀ c ∈ word, writesCode c = true) := by
  unfold escape? at h
  split at h
  · cases h
  · rename_i rest
    split at h
    · rename_i a b more
      obtain ⟨e, he, heq⟩ := Option.map_eq_some_iff.1 h
      cases heq
      have hdigits := writesCode_of_mem he
      exact ⟨Nat.le_refl 1, Or.inr (Or.inr ⟨['x', a, b], more, rfl, by simp, rfl,
        List.forall_mem_cons.2 ⟨by decide, hdigits⟩⟩)⟩
    · cases h
  · rename_i rest
    dsimp only at h
    split at h
    · rename_i hclosed
      obtain ⟨e, he, heq⟩ := Option.map_eq_some_iff.1 h
      cases heq
      have hdigits := writesCode_of_mem he
      obtain ⟨more, hmore⟩ := exists_eq_takeWhile_append_cons hclosed
      refine ⟨Nat.le_refl 1, Or.inr (Or.inr
        ⟨'u' :: '\x7b' :: (rest.takeWhile (· ≠ '\x7d') ++ ['\x7d']), more, ?_, by simp, by simp,
          ?_⟩)⟩
      · rw [List.cons_append, List.cons_append, List.append_assoc, List.singleton_append, ← hmore]
      · refine List.forall_mem_cons.2 ⟨by decide, List.forall_mem_cons.2 ⟨by decide, ?_⟩⟩
        exact List.forall_mem_append.2 ⟨hdigits, List.forall_mem_singleton.2 (by decide)⟩
    · cases h
  · rename_i rest hbrace
    split at h
    · rename_i a b c d more
      obtain ⟨e, he, heq⟩ := Option.map_eq_some_iff.1 h
      cases heq
      have hdigits := writesCode_of_mem he
      exact ⟨Nat.le_refl 1, Or.inr (Or.inr ⟨['u', a, b, c, d], more, rfl, by simp, rfl,
        List.forall_mem_cons.2 ⟨by decide, hdigits⟩⟩)⟩
    · cases h
  · rename_i rest
    cases h
    exact ⟨Nat.zero_le 1, Or.inr (Or.inl ⟨rest, rfl, rfl, rfl⟩)⟩
  · rename_i c rest _ _ _ _
    split at h
    · rename_i hdigit
      split at h
      · cases h
        refine ⟨Nat.le_refl 1, Or.inl ⟨c, rest, rfl, rfl, ?_⟩⟩
        rintro rfl
        cases hdigit
      · cases h
    · split at h
      · cases h
        exact ⟨Nat.zero_le 1, Or.inl ⟨c, rest, rfl, rfl, fun _ => rfl⟩⟩
      · rename_i hline
        cases h
        refine ⟨Nat.le_refl 1, Or.inl ⟨c, rest, rfl, rfl, ?_⟩⟩
        rintro rfl
        exact absurd rfl hline

/-- An escape stands for one character at most and takes up some text. -/
theorem length_of_escape? {text out : List Char} {n : Nat} (h : escape? text = some (out, n)) :
    out.length ≤ 1 ∧ 0 < n := by
  obtain ⟨hout, ⟨_, _, -, rfl, -⟩ | ⟨_, -, rfl, -⟩ | ⟨word, _, -, hword, rfl, -⟩⟩ :=
    escape?_cases h
  · exact ⟨hout, Nat.zero_lt_one⟩
  · exact ⟨hout, Nat.zero_lt_two⟩
  · exact ⟨hout, List.length_pos_iff.2 hword⟩

/-! ## Reading piece by piece -/

/-- What a literal stands for, and what comes after it.  `piece?` says what a character stands for
if some text comes after it, and how many characters of that text belong to it. -/
inductive Reads (closing : Char) (piece? : Char → List Char → Option (List Char × Nat)) :
    List Char → List Char → List Char → Prop
  | close (rest : List Char) : Reads closing piece? (closing :: rest) [] rest
  | piece {c : Char} {text out value rest : List Char} {n : Nat} (hc : c ≠ closing)
      (hpiece : piece? c text = some (out, n))
      (h : Reads closing piece? (text.drop n) value rest) :
      Reads closing piece? (c :: text) (out ++ value) rest

section Reads

variable {closing : Char} {piece? : Char → List Char → Option (List Char × Nat)}
  {text value rest : List Char}

/-- Reads a literal, after some characters that belong to a piece before. -/
def readPieces? (closing : Char) (piece? : Char → List Char → Option (List Char × Nat)) :
    Nat → List Char → Option (List Char × List Char)
  | _, [] => none
  | skipped + 1, _ :: text => readPieces? closing piece? skipped text
  | 0, c :: text =>
    if c = closing then some ([], text)
    else do
      let (out, n) ← piece? c text
      let (value, rest) ← readPieces? closing piece? n text
      return (out ++ value, rest)

/-- Characters that are skipped might as well not be there. -/
theorem readPieces?_eq_drop (n : Nat) (text : List Char) :
    readPieces? closing piece? n text = readPieces? closing piece? 0 (text.drop n) := by
  induction n generalizing text with
  | zero => rfl
  | succ n ih =>
    cases text with
    | nil => rfl
    | cons c text => exact ih text

/-- What the reader accepts is read piece by piece. -/
theorem reads_drop_of_readPieces? {n : Nat}
    (h : readPieces? closing piece? n text = some (value, rest)) :
    Reads closing piece? (text.drop n) value rest := by
  induction text generalizing n value with
  | nil => cases n <;> cases h
  | cons c text ih =>
    cases n with
    | zero =>
      rw [readPieces?] at h
      split at h
      · rename_i hc
        cases h
        subst hc
        exact .close _
      · rename_i hc
        simp only [Option.bind_eq_bind, Option.bind_eq_some_iff] at h
        obtain ⟨⟨out, n⟩, hpiece, ⟨tail, rest'⟩, hread, heq⟩ := h
        cases heq
        exact .piece hc hpiece (ih hread)
    | succ n => exact ih h

/-- The reader finds what literals stand for. -/
theorem readPieces?_eq_some_iff :
    readPieces? closing piece? 0 text = some (value, rest) ↔
      Reads closing piece? text value rest := by
  constructor
  · intro h
    simpa using reads_drop_of_readPieces? h
  · intro h
    induction h with
    | close rest => simp [readPieces?]
    | @piece c text out value rest n hc hpiece _ ih =>
      rw [← readPieces?_eq_drop] at ih
      simp [readPieces?, hc, hpiece, ih]

/-- What comes after a literal is shorter than what began with it. -/
theorem Reads.length_rest_lt (h : Reads closing piece? text value rest) :
    rest.length < text.length := by
  induction h with
  | close rest => simp
  | piece _ _ _ ih =>
    rw [List.length_drop] at ih
    rw [List.length_cons]
    omega

/-- The closing character ends a literal. -/
theorem Reads.of_closing (h : Reads closing piece? (closing :: text) value rest) :
    value = [] ∧ rest = text := by
  cases h with
  | close rest => exact ⟨rfl, rfl⟩
  | piece hc _ _ => exact absurd rfl hc

/-- Any other character is where a piece begins. -/
theorem Reads.of_cons {c : Char} (hc : c ≠ closing)
    (h : Reads closing piece? (c :: text) value rest) :
    ∃ out n tail, piece? c text = some (out, n) ∧ value = out ++ tail ∧
      Reads closing piece? (text.drop n) tail rest := by
  cases h with
  | close rest => exact absurd rfl hc
  | piece _ hpiece h => exact ⟨_, _, _, hpiece, rfl, h⟩

/-- No literal begins with what comes after it. -/
theorem Reads.rest_ne (h : Reads closing piece? text value rest) : rest ≠ text := by
  rintro rfl
  exact absurd h.length_rest_lt (Nat.lt_irrefl _)

end Reads

/-! ## Quoted literals -/

/-- A piece of a quoted literal, which has no end of a line. -/
def quotedPiece? (c : Char) (text : List Char) : Option (List Char × Nat) :=
  if c = '\\' then escape? text
  else if c = '\n' ∨ c = '\r' then none
  else some ([c], 0)

/-- The text that a quoted literal stands for. -/
def quotedValue? : List Char → Option (List Char)
  | '"' :: text =>
    match readPieces? '"' quotedPiece? 0 text with
    | some (value, []) => some value
    | _ => none
  | _ => none

/-- A text in which nothing has to be escaped between quotes. -/
def IsPlain (cs : List Char) : Prop :=
  ∀ c ∈ cs, c ≠ '"' ∧ c ≠ '\\' ∧ c ≠ '\n' ∧ c ≠ '\r'

-- Decided along the text: a search for an instance may find one over all characters that exist.
instance : DecidablePred IsPlain := List.decidableBAll _

/-- A quoted literal has a value exactly if its body is read up to the closing quote. -/
theorem quotedValue?_eq_some_iff {text value : List Char} :
    quotedValue? text = some value ↔
      ∃ body, text = '"' :: body ∧ Reads '"' quotedPiece? body value [] := by
  constructor
  · intro h
    unfold quotedValue? at h
    split at h
    · rename_i body
      split at h
      · rename_i hread
        cases h
        exact ⟨body, rfl, readPieces?_eq_some_iff.1 hread⟩
      · cases h
    · cases h
  · rintro ⟨body, rfl, h⟩
    simp [quotedValue?, readPieces?_eq_some_iff.2 h]

/-- A character that needs no escape is a piece of its own. -/
theorem Reads.quoted_cons {c : Char} {text value rest : List Char}
    (hc : c ≠ '"' ∧ c ≠ '\\' ∧ c ≠ '\n' ∧ c ≠ '\r')
    (h : Reads '"' quotedPiece? text value rest) :
    Reads '"' quotedPiece? (c :: text) (c :: value) rest := by
  have hpiece : quotedPiece? c text = some ([c], 0) := by
    simp [quotedPiece?, hc.2.1, hc.2.2.1, hc.2.2.2]
  exact .piece hc.1 hpiece h

/-- A character after a backslash is a piece with the backslash. -/
theorem Reads.quoted_escape {c e : Char} {text value rest : List Char}
    (hescape : escape? (e :: text) = some ([c], 1)) (h : Reads '"' quotedPiece? text value rest) :
    Reads '"' quotedPiece? ('\\' :: e :: text) (c :: value) rest := by
  have hslash : '\\' ≠ '"' := by decide
  have hpiece : quotedPiece? '\\' (e :: text) = some ([c], 1) := hescape
  have hrest : Reads '"' quotedPiece? ((e :: text).drop 1) value rest := h
  exact .piece hslash hpiece hrest

/-- A plain text stands for itself. -/
theorem reads_plain_append {cs : List Char} (h : IsPlain cs) (rest : List Char) :
    Reads '"' quotedPiece? (cs ++ '"' :: rest) cs rest := by
  induction cs with
  | nil => exact .close rest
  | cons c cs ih =>
    obtain ⟨hc, hcs⟩ := List.forall_mem_cons.1 h
    exact .quoted_cons hc (ih hcs)

/-- The escape of a character is a piece that stands for it. -/
theorem Reads.quoteChar_append {c : Char} {text value rest : List Char}
    (h : Reads '"' quotedPiece? text value rest) :
    Reads '"' quotedPiece? (quoteChar c ++ text) (c :: value) rest := by
  unfold quoteChar
  split
  iterate 5 exact .quoted_escape rfl h
  rename_i hquote hslash hline hreturn _
  exact .quoted_cons ⟨hquote, hslash, hline, hreturn⟩ h

/-- A quoted literal stands for the text that it was made of, whatever comes after it. -/
theorem reads_quoteBody (cs rest : List Char) :
    Reads '"' quotedPiece? (quoteBody cs ++ '"' :: rest) cs rest := by
  induction cs with
  | nil => exact .close rest
  | cons c cs ih =>
    rw [quoteBody, List.flatMap_cons, List.append_assoc]
    exact ih.quoteChar_append

/-- The value of a quoted text is the text. -/
theorem quotedValue?_quote (cs : List Char) : quotedValue? (quote cs) = some cs :=
  quotedValue?_eq_some_iff.2 ⟨quoteBody cs ++ ['"'], rfl, reads_quoteBody cs []⟩

/-- A quoted literal is at least as long as what it stands for, and longer by its escapes. -/
theorem Reads.length_quoted {text value rest : List Char}
    (h : Reads '"' quotedPiece? text value rest) :
    value.length + rest.length + 1 ≤ text.length ∧
      (value.length + rest.length + 1 = text.length →
        text = value ++ '"' :: rest ∧ IsPlain value) := by
  induction h with
  | close rest => exact ⟨by simp, fun _ => ⟨rfl, by simp [IsPlain]⟩⟩
  | @piece c text out value rest n hc hpiece _ ih =>
    obtain ⟨hle, heq⟩ := ih
    rw [List.length_drop] at hle heq
    rw [List.length_append, List.length_cons]
    unfold quotedPiece? at hpiece
    split at hpiece
    · obtain ⟨hout, hn⟩ := length_of_escape? hpiece
      exact ⟨by omega, fun hlength => absurd hlength (by omega)⟩
    · split at hpiece
      · cases hpiece
      · rename_i hslash hline
        cases hpiece
        rw [not_or] at hline
        refine ⟨by simp at hle ⊢; omega, fun hlength => ?_⟩
        obtain ⟨htext, hplain⟩ := heq (by simp at hlength ⊢; omega)
        rw [List.drop_zero] at htext
        exact ⟨by rw [htext]; rfl, List.forall_mem_cons.2 ⟨⟨hc, hslash, hline⟩, hplain⟩⟩

/-- A quoted literal is longer than what it stands for by its quotes, and by its escapes. -/
theorem length_of_quotedValue? {text value : List Char} (h : quotedValue? text = some value) :
    value.length + 2 ≤ text.length ∧
      (value.length + 2 = text.length → text = '"' :: (value ++ ['"']) ∧ IsPlain value) := by
  obtain ⟨body, rfl, hread⟩ := quotedValue?_eq_some_iff.1 h
  obtain ⟨hle, heq⟩ := hread.length_quoted
  rw [List.length_nil] at hle heq
  rw [List.length_cons]
  refine ⟨by omega, fun hlength => ?_⟩
  obtain ⟨rfl, hplain⟩ := heq (by omega)
  exact ⟨rfl, hplain⟩

/-- A text between quotes stands for itself exactly if nothing in it has to be escaped. -/
theorem quotedValue?_quotes_iff {cs : List Char} :
    quotedValue? ('"' :: (cs ++ ['"'])) = some cs ↔ IsPlain cs := by
  constructor
  · intro h
    exact ((length_of_quotedValue? h).2 (by simp)).2
  · intro h
    exact quotedValue?_eq_some_iff.2 ⟨_, rfl, reads_plain_append h []⟩

end Groundwork.Code
