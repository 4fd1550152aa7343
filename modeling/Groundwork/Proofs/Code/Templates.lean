import Groundwork.Code.Value
import Groundwork.Proofs.Code.Nesting

/-!
# Templates as the code means them

Which text a template of generated code stands for.  Backquotes are escaped in a template and
nothing else is, so a text that is put into one is read again: its backslashes escape, its
substitutions are filled in, and its carriage returns become line feeds.  Where code is nested, its
line feeds also bring blanks into the template.  No two of these changes make up for each other:
what a text stands for that has gone through one of them is never the text itself.

Main definitions:

- `Code.Dialect.templateValue?`: what a template stands for, given what the code in it does.
- `Code.IsVerbatim`: texts that have nothing in them which templates know.
- `Code.Cooks`: what becomes of a text in a template, change by change.

Main results:

- `Code.cooks_of_reads`: what a template stands for is a result of such changes.
- `Code.Cooks.isVerbatim`: they leave a text as it is only if there are none.
- `Code.Dialect.templateValue?_placeholder_iff`: the texts that are left as they are after a
  placeholder.
-/

namespace Groundwork.Code

/-! ## Reading templates -/

/-- The character that templates begin and end with. -/
abbrev backquote : Char := Char.ofNat 96

/-- A piece of a template, given what code stands for.  The code of a substitution goes up to the
next closing brace, and the end of a line is always a line feed. -/
def templatePiece? (value : List Char → List Char) (c : Char) (text : List Char) :
    Option (List Char × Nat) :=
  if c = '\\' then escape? text
  else if c = '\r' then some (['\n'], if text.head? = some '\n' then 1 else 0)
  else if c = '$' ∧ text.head? = some '\x7b' then
    let code := text.tail.takeWhile (· ≠ '\x7d')
    if code.length < text.tail.length then some (value code, code.length + 2) else none
  else some ([c], 0)

/-- The text that a template stands for, given what the code in it stands for. -/
def Dialect.templateValue? (d : Dialect) (value : List Char → List Char) (text : List Char) :
    Option (List Char) :=
  match after? (d.templateTag ++ [backquote]) text with
  | some body =>
    match readPieces? backquote (templatePiece? value) 0 body with
    | some (result, []) => some result
    | _ => none
  | none => none

variable {value : List Char → List Char} {k : Nat} {c : Char} {cs v rest : List Char}

/-- A template literal has a value exactly if its body is read up to the closing backquote. -/
theorem Dialect.templateValue?_eq_some_iff {d : Dialect} {body : List Char} :
    d.templateValue? value (d.templateTag ++ backquote :: body) = some v ↔
      Reads backquote (templatePiece? value) body v [] := by
  have hbody : after? (d.templateTag ++ [backquote]) (d.templateTag ++ backquote :: body) =
      some body := by
    rw [List.append_cons d.templateTag backquote body, after?_append]
  rw [← readPieces?_eq_some_iff, Dialect.templateValue?, hbody]
  constructor
  · intro h
    dsimp only at h
    split at h
    · rename_i hread
      cases h
      exact hread
    · cases h
  · intro h
    dsimp only
    rw [h]

/-! ## Texts in templates -/

/-- The blanks that come after a character where code is nested. -/
def blanksAfter (k : Nat) (c : Char) : List Char := if c = '\n' then List.replicate k ' ' else []

/-- A character of a text in a template that is nested by a number of blanks. -/
def templateChar (k : Nat) (c : Char) : List Char :=
  if c = backquote then ['\\', c] else c :: blanksAfter k c

/-- A text in a template that is nested by a number of blanks. -/
def templateText (k : Nat) (cs : List Char) : List Char := cs.flatMap (templateChar k)

/-- A backquote is escaped. -/
theorem templateText_backquote :
    templateText k (backquote :: cs) = '\\' :: backquote :: templateText k cs := rfl

/-- Any other character stands as it is, with room after a line feed. -/
theorem templateText_cons (hc : c ≠ backquote) :
    templateText k (c :: cs) = c :: (blanksAfter k c ++ templateText k cs) := by
  rw [templateText, List.flatMap_cons, templateChar, if_neg hc]
  rfl

/-- Texts that follow each other are escaped one after the other. -/
theorem templateText_append (cs₁ cs₂ : List Char) :
    templateText k (cs₁ ++ cs₂) = templateText k cs₁ ++ templateText k cs₂ := List.flatMap_append

/-- Text without backquotes and line feeds stands in a template as it is. -/
theorem templateText_eq_self (hquote : backquote ∉ cs) (hline : '\n' ∉ cs) :
    templateText k cs = cs := by
  induction cs with
  | nil => rfl
  | cons c cs ih =>
    rw [List.mem_cons, not_or] at hquote hline
    rw [templateText_cons (Ne.symm hquote.1), blanksAfter, if_neg (Ne.symm hline.1),
      ih hquote.2 hline.2]
    rfl

/-- Without room for further lines, only backquotes change. -/
theorem templateText_eq_escapeTemplate (h : k = 0 ∨ '\n' ∉ cs) :
    templateText k cs = Expression.escapeTemplate cs := by
  refine List.flatMap_congr fun c hc => ?_
  have hblanks : blanksAfter k c = [] := by
    unfold blanksAfter
    split
    · rename_i hline
      subst hline
      rcases h with rfl | h
      · rfl
      · exact absurd hc h
    · rfl
  rw [templateChar, hblanks]

/-- Where code is nested, its templates are. -/
theorem hang_pad_templateText :
    hang Expression.pad (templateText k cs) = templateText (k + 2) cs := by
  have hblanks : hang Expression.pad (List.replicate k ' ') = List.replicate k ' ' :=
    hang_eq_self (by simp)
  rw [hang] at hblanks
  rw [hang, templateText, List.flatMap_assoc]
  refine List.flatMap_congr fun c _ => ?_
  unfold templateChar blanksAfter
  split
  · rename_i hquote
    subst hquote
    rfl
  · split
    · rename_i hline
      subst hline
      rw [List.flatMap_cons, hblanks, Nat.add_comm, List.replicate_add]
      rfl
    · rename_i hline
      rw [List.flatMap_singleton, if_neg hline]

/-- In a template there is nothing but the text, backslashes and blanks. -/
theorem not_mem_templateText {d : Char} (hslash : d ≠ '\\') (hblank : d ≠ ' ') (h : d ∉ cs) :
    d ∉ templateText k cs := by
  intro hmem
  obtain ⟨c, hc, hd⟩ := List.mem_flatMap.1 hmem
  have hne : d ≠ c := by
    rintro rfl
    exact h hc
  unfold templateChar blanksAfter at hd
  split at hd
  · simp [hslash, hne] at hd
  · split at hd
    · simp [hne, hblank] at hd
    · simp [hne] at hd

/-- A character in a template is the next one of the text, unless it is one that escapes or
closes. -/
theorem exists_cons_of_templateText {d : Char} {more : List Char} (hslash : d ≠ '\\')
    (hquote : d ≠ backquote) (h : templateText k cs ++ backquote :: rest = d :: more) :
    ∃ tail, cs = d :: tail ∧
      more = blanksAfter k d ++ (templateText k tail ++ backquote :: rest) := by
  cases cs with
  | nil =>
    cases h
    exact absurd rfl hquote
  | cons c tail =>
    by_cases hc : c = backquote
    · subst hc
      cases h
      exact absurd rfl hslash
    · rw [templateText_cons hc, List.cons_append, List.append_assoc] at h
      cases h
      exact ⟨tail, rfl, rfl⟩

/-- Escaping changes no first character but a backquote. -/
theorem head?_templateText_eq_some_iff {d : Char} (hslash : d ≠ '\\') (hquote : d ≠ backquote) :
    (templateText k cs ++ backquote :: rest).head? = some d ↔ cs.head? = some d := by
  constructor
  · intro h
    obtain ⟨more, hmore⟩ := List.head?_eq_some_iff.1 h
    obtain ⟨tail, rfl, -⟩ := exists_cons_of_templateText hslash hquote hmore
    rfl
  · intro h
    obtain ⟨tail, rfl⟩ := List.head?_eq_some_iff.1 h
    rw [templateText_cons hquote]
    rfl

/-- Characters that write codes are in a template as they are. -/
theorem exists_append_of_templateText {word more : List Char}
    (hword : ∀ c ∈ word, writesCode c = true)
    (h : templateText k cs ++ backquote :: rest = word ++ more) :
    ∃ tail, cs = word ++ tail ∧ more = templateText k tail ++ backquote :: rest := by
  induction word generalizing cs with
  | nil => exact ⟨cs, rfl, h.symm⟩
  | cons d word ih =>
    obtain ⟨hd, hword⟩ := List.forall_mem_cons.1 hword
    have hslash : d ≠ '\\' := by
      rintro rfl
      exact absurd hd (by decide)
    have hquote : d ≠ backquote := by
      rintro rfl
      exact absurd hd (by decide)
    have hline : d ≠ '\n' := by
      rintro rfl
      exact absurd hd (by decide)
    obtain ⟨tail, rfl, hmore⟩ := exists_cons_of_templateText hslash hquote h
    rw [blanksAfter, if_neg hline, List.nil_append] at hmore
    obtain ⟨tail, rfl, hrest⟩ := ih hword hmore.symm
    exact ⟨tail, rfl, hrest⟩

/-! ## Texts that stand for themselves -/

/-- A text without anything that templates know: no backslash, no carriage return and no
substitution. -/
def IsVerbatim (cs : List Char) : Prop :=
  '\\' ∉ cs ∧ '\r' ∉ cs ∧ ¬ ['$', '\x7b'] <:+: cs

instance : DecidablePred IsVerbatim := fun _ => inferInstanceAs (Decidable (_ ∧ _))

/-- The empty text is verbatim. -/
theorem isVerbatim_nil : IsVerbatim [] := by decide

/-- Text is verbatim if its first character is neither a backslash nor a carriage return and opens
no placeholder, and the rest is verbatim. -/
theorem isVerbatim_cons_iff :
    IsVerbatim (c :: cs) ↔
      (c ≠ '\\' ∧ c ≠ '\r' ∧ ¬ (c = '$' ∧ cs.head? = some '\x7b')) ∧ IsVerbatim cs := by
  have hopen : ['$', '\x7b'] <+: c :: cs ↔ c = '$' ∧ cs.head? = some '\x7b' := by
    rw [List.cons_prefix_cons, eq_comm]
    cases cs <;> simp [eq_comm]
  rw [IsVerbatim, IsVerbatim, List.infix_cons_iff, hopen]
  simp only [List.mem_cons, not_or, ne_eq, eq_comm (a := c)]
  tauto

/-- Most characters are pieces of their own. -/
theorem templatePiece?_eq_self {text : List Char} (hslash : c ≠ '\\') (hreturn : c ≠ '\r')
    (hopen : ¬ (c = '$' ∧ text.head? = some '\x7b')) :
    templatePiece? value c text = some ([c], 0) := by
  rw [templatePiece?, if_neg hslash, if_neg hreturn, if_neg hopen]

/-- An escaped backquote is read as a backquote. -/
theorem templatePiece?_slash_backquote (text : List Char) :
    templatePiece? value '\\' (backquote :: text) = some ([backquote], 1) := rfl

@[simp] theorem blanksAfter_zero : blanksAfter 0 c = [] := by
  unfold blanksAfter
  split <;> rfl

/-- A text without anything that templates know stands for itself. -/
theorem IsVerbatim.reads (h : IsVerbatim cs) (rest : List Char) :
    Reads backquote (templatePiece? value) (templateText 0 cs ++ backquote :: rest) cs rest := by
  induction cs with
  | nil => exact .close rest
  | cons c cs ih =>
    obtain ⟨⟨hslash, hreturn, hopen⟩, hcs⟩ := isVerbatim_cons_iff.1 h
    by_cases hc : c = backquote
    · subst hc
      exact .piece (by decide) (templatePiece?_slash_backquote _) (ih hcs)
    · have hpiece : templatePiece? value c (templateText 0 cs ++ backquote :: rest) =
          some ([c], 0) := by
        refine templatePiece?_eq_self hslash hreturn ?_
        rw [head?_templateText_eq_some_iff (by decide) (by decide)]
        exact hopen
      rw [templateText_cons hc, blanksAfter_zero]
      exact .piece hc hpiece (ih hcs)

/-! ## Changes -/

/-- What becomes of a text in a template that is nested by a number of blanks.  A character is kept
or, at the end of a line, followed by blanks; or it begins something that stands for less than it
is, or for something without that character. -/
inductive Cooks (k : Nat) : List Char → List Char → Prop
  | nil : Cooks k [] []
  | kept {c : Char} {cs v : List Char} (hescape : c ≠ '\\' ∧ c ≠ '\r' ∧ c ≠ '\n')
      (hopen : ¬ (c = '$' ∧ cs.head? = some '\x7b')) (h : Cooks k cs v) : Cooks k (c :: cs) (c :: v)
  | lineFeed {cs v : List Char} (h : Cooks k cs v) :
      Cooks k ('\n' :: cs) ('\n' :: (List.replicate k ' ' ++ v))
  | changed {c : Char} {chunk out cs v : List Char} (hc : c ≠ ' ')
      (hout : out.length ≤ chunk.length ∨ c ∉ out) (h : Cooks k cs v) :
      Cooks k (c :: chunk ++ cs) (out ++ v)

/-- Where something was changed that has not come up yet, what comes after it is behind. -/
theorem exists_append_of_changed {ahead chunk out : List Char}
    (hout : out.length ≤ chunk.length ∨ c ∉ out)
    (h : out ++ v = ahead ++ (c :: chunk ++ cs)) : ∃ ahead', ahead' ≠ [] ∧ v = ahead' ++ cs := by
  rw [← List.append_assoc] at h
  have hnot : ∀ more, out ≠ ahead ++ c :: chunk ++ more := by
    rintro more rfl
    rcases hout with hlength | hmem
    · simp at hlength
      omega
    · simp at hmem
  rcases List.append_eq_append_iff.1 h with ⟨ahead', hahead, hv⟩ | ⟨more, hmore, -⟩
  · refine ⟨ahead', ?_, hv⟩
    rintro rfl
    rw [List.append_nil] at hahead
    exact hnot [] (by rw [List.append_nil, hahead])
  · exact absurd hmore (hnot more)

namespace Cooks

/-- What is behind does not catch up. -/
theorem ne_append (h : Cooks k cs v) {ahead : List Char} (hahead : ahead ≠ []) :
    v ≠ ahead ++ cs := by
  induction h generalizing ahead with
  | nil =>
    rw [List.append_nil]
    exact hahead.symm
  | @kept c cs v _ _ _ ih =>
    intro heq
    obtain ⟨d, more, rfl⟩ := List.exists_cons_of_ne_nil hahead
    have htail : [] ++ v = more ++ (c :: [] ++ cs) := (List.cons.inj heq).2
    obtain ⟨ahead', hahead', hv⟩ := exists_append_of_changed (Or.inr List.not_mem_nil) htail
    exact ih hahead' hv
  | @lineFeed cs v _ ih =>
    intro heq
    obtain ⟨d, more, rfl⟩ := List.exists_cons_of_ne_nil hahead
    have htail : List.replicate k ' ' ++ v = more ++ ('\n' :: [] ++ cs) := (List.cons.inj heq).2
    obtain ⟨ahead', hahead', hv⟩ := exists_append_of_changed (Or.inr (by simp)) htail
    exact ih hahead' hv
  | changed _ hout _ ih =>
    intro heq
    obtain ⟨ahead', hahead', hv⟩ := exists_append_of_changed hout heq
    exact ih hahead' hv

/-- Blanks that were put in are not made up for. -/
theorem replicate_append_ne (h : Cooks k cs v) {n : Nat} (hn : n ≠ 0) :
    List.replicate n ' ' ++ v ≠ cs := by
  obtain ⟨m, rfl⟩ := Nat.exists_eq_succ_of_ne_zero hn
  induction h with
  | nil => exact List.cons_ne_nil _ _
  | kept _ _ _ ih =>
    intro heq
    rw [List.replicate_succ, List.cons_append] at heq
    obtain ⟨rfl, htail⟩ := List.cons.inj heq
    refine ih ?_
    rw [← htail, List.replicate_succ', List.append_assoc]
    rfl
  | lineFeed => 
    intro heq
    exact absurd (List.cons.inj heq).1 (by decide)
  | changed hc =>
    intro heq
    exact hc (List.cons.inj heq).1.symm

/-- Only a text that has nothing in it which templates know is left as it is. -/
theorem isVerbatim (h : Cooks k cs v) (heq : v = cs) : IsVerbatim cs ∧ (k = 0 ∨ '\n' ∉ cs) := by
  induction h with
  | nil => exact ⟨isVerbatim_nil, Or.inr List.not_mem_nil⟩
  | kept hescape hopen _ ih =>
    obtain ⟨hverbatim, hline⟩ := ih (List.cons.inj heq).2
    refine ⟨isVerbatim_cons_iff.2 ⟨⟨hescape.1, hescape.2.1, hopen⟩, hverbatim⟩, ?_⟩
    exact hline.imp_right (List.not_mem_cons_of_ne_of_not_mem hescape.2.2.symm)
  | lineFeed h ih =>
    have htail := (List.cons.inj heq).2
    by_cases hk : k = 0
    · subst hk
      obtain ⟨hverbatim, -⟩ := ih htail
      exact ⟨isVerbatim_cons_iff.2 ⟨⟨by decide, by decide, by simp⟩, hverbatim⟩, Or.inl rfl⟩
    · exact absurd htail (h.replicate_append_ne hk)
  | @changed c chunk out cs v _ hout h _ =>
    have hchange : out ++ v = [] ++ (c :: chunk ++ cs) := heq
    obtain ⟨ahead, hahead, hv⟩ := exists_append_of_changed hout hchange
    exact absurd hv (h.ne_append hahead)

end Cooks

/-! ## Templates change texts -/

/-- Blanks in a template stand for themselves. -/
theorem reads_blanks {n : Nat} {text : List Char}
    (h : Reads backquote (templatePiece? value) (List.replicate n ' ' ++ text) v rest) :
    ∃ tail, v = List.replicate n ' ' ++ tail ∧
      Reads backquote (templatePiece? value) text tail rest := by
  induction n generalizing v with
  | zero => exact ⟨v, rfl, h⟩
  | succ n ih =>
    obtain ⟨out, m, tail, hpiece, rfl, htail⟩ := Reads.of_cons (by decide) h
    rw [templatePiece?_eq_self (by decide) (by decide) (by simp)] at hpiece
    cases hpiece
    obtain ⟨tail, rfl, hread⟩ := ih htail
    exact ⟨tail, rfl, hread⟩

/-- A template begins to be read with something that is changed, up to where the text goes on. -/
def BeginsChanged (value : List Char → List Char) (k : Nat) (c : Char) (cs v rest : List Char) :
    Prop :=
  ∃ chunk out cs' v', cs = chunk ++ cs' ∧ v = out ++ v' ∧
    (out.length ≤ chunk.length ∨ c ∉ out) ∧
    Reads backquote (templatePiece? value) (templateText k cs' ++ backquote :: rest) v' rest

/-- The end of a line in a chunk brings blanks with it, which do not bring back its beginning. -/
theorem beginsChanged_of_lineFeed (chunk : List Char) {out text : List Char} (hc : c ≠ ' ')
    (hout : c ∉ out)
    (htext : text = blanksAfter k '\n' ++ (templateText k cs ++ backquote :: rest))
    (h : Reads backquote (templatePiece? value) text v rest) :
    BeginsChanged value k c (chunk ++ cs) (out ++ v) rest := by
  subst htext
  obtain ⟨v, rfl, hread⟩ := reads_blanks h
  refine ⟨chunk, out ++ List.replicate k ' ', cs, v, rfl, by rw [List.append_assoc],
    Or.inr ?_, hread⟩
  rw [List.mem_append, not_or]
  exact ⟨hout, fun hmem => hc (List.eq_of_mem_replicate hmem)⟩

/-- An escape is changed, also if it is the end of a line. -/
theorem beginsChanged_slash
    (h : Reads backquote (templatePiece? value)
      ('\\' :: (templateText k cs ++ backquote :: rest)) v rest) :
    BeginsChanged value k '\\' cs v rest := by
  obtain ⟨out, n, v, hpiece, rfl, hread⟩ := Reads.of_cons (by decide) h
  have hescape : escape? (templateText k cs ++ backquote :: rest) = some (out, n) := hpiece
  obtain ⟨hout, ⟨c, more, htext, rfl, hline⟩ | ⟨more, htext, rfl, rfl⟩ |
    ⟨word, more, htext, hword, rfl, hwrites⟩⟩ := escape?_cases hescape
  · -- One character: it is not the one that closes the template, so it is one of the text.
    rw [htext, List.drop_one, List.tail_cons] at hread
    cases cs with
    | nil =>
      cases htext
      exact absurd rfl hread.rest_ne
    | cons d cs =>
      by_cases hd : d = backquote
      · subst hd
        rw [templateText_backquote, List.cons_append, List.cons_append] at htext
        cases htext
        obtain ⟨-, hrest⟩ := Reads.of_closing hread
        have hlength := congrArg List.length hrest
        simp only [List.length_append, List.length_cons] at hlength
        omega
      · rw [templateText_cons hd, List.cons_append, List.append_assoc] at htext
        cases htext
        by_cases hc : c = '\n'
        · subst hc
          obtain rfl := hline rfl
          exact beginsChanged_of_lineFeed ['\n'] (by decide) List.not_mem_nil rfl hread
        · rw [blanksAfter, if_neg hc] at hread
          exact ⟨[c], out, cs, v, rfl, rfl, Or.inl hout, hread⟩
  · obtain ⟨cs, rfl, hfeed⟩ := exists_cons_of_templateText (by decide) (by decide) htext
    obtain ⟨cs, rfl, hmore⟩ := exists_cons_of_templateText (by decide) (by decide) hfeed.symm
    rw [htext] at hread
    exact beginsChanged_of_lineFeed ['\r', '\n'] (by decide) List.not_mem_nil hmore hread
  · obtain ⟨cs, rfl, rfl⟩ := exists_append_of_templateText hwrites htext
    rw [htext, List.drop_left] at hread
    have hlength : out.length ≤ word.length := Nat.le_trans hout (List.length_pos_iff.2 hword)
    exact ⟨word, out, cs, v, rfl, rfl, Or.inl hlength, hread⟩

/-- A carriage return is changed, with or without a line feed after it. -/
theorem beginsChanged_return
    (h : Reads backquote (templatePiece? value)
      ('\r' :: (templateText k cs ++ backquote :: rest)) v rest) :
    BeginsChanged value k '\r' cs v rest := by
  obtain ⟨out, n, v, hpiece, rfl, hread⟩ := Reads.of_cons (by decide) h
  rw [templatePiece?, if_neg (by decide), if_pos rfl] at hpiece
  cases hpiece
  split at hread
  · rename_i hhead
    obtain ⟨more, htext⟩ := List.head?_eq_some_iff.1 hhead
    obtain ⟨cs, rfl, hmore⟩ := exists_cons_of_templateText (by decide) (by decide) htext
    rw [htext] at hread
    exact beginsChanged_of_lineFeed ['\n'] (by decide) (by decide) hmore hread
  · exact ⟨[], ['\n'], cs, v, rfl, rfl, Or.inr (by decide), hread⟩

/-- A substitution is changed, as code never stands for itself with its braces. -/
theorem beginsChanged_open (hvalue : ∀ code, (value code).length ≤ 1)
    (h : Reads backquote (templatePiece? value)
      ('$' :: '\x7b' :: (templateText k cs ++ backquote :: rest)) v rest) :
    BeginsChanged value k '$' ('\x7b' :: cs) v rest := by
  obtain ⟨out, n, v, hpiece, rfl, hread⟩ := Reads.of_cons (by decide) h
  rw [templatePiece?, if_neg (by decide), if_neg (by decide), if_pos ⟨rfl, rfl⟩] at hpiece
  dsimp only at hpiece
  rw [List.tail_cons] at hpiece
  split at hpiece
  · cases hpiece
    by_cases hmem : '\x7d' ∈ cs
    · obtain ⟨code, cs, rfl, hcode⟩ := List.eq_append_cons_of_mem hmem
      have htext : templateText k (code ++ '\x7d' :: cs) ++ backquote :: rest =
          templateText k code ++ '\x7d' :: (templateText k cs ++ backquote :: rest) := by
        rw [templateText_append, List.append_assoc, templateText_cons (by decide)]
        rfl
      have htaken := takeWhile_append_cons
        (not_mem_templateText (k := k) (by decide) (by decide) hcode)
        (templateText k cs ++ backquote :: rest)
      rw [htext, htaken] at hread
      have hlength : ∀ text, (value text).length ≤ ('\x7b' :: code ++ ['\x7d']).length :=
        fun text => Nat.le_trans (hvalue text) (by simp)
      refine ⟨'\x7b' :: code ++ ['\x7d'], _, cs, v, by simp, rfl, Or.inl (hlength _), ?_⟩
      simpa using hread
    · -- The code would go on behind the end of the template.
      have htext : templateText k cs ++ backquote :: rest =
          (templateText k cs ++ [backquote]) ++ rest := by simp
      have htaken : ∀ c ∈ templateText k cs ++ [backquote], decide (c ≠ '\x7d') = true := by
        intro c hc
        rw [decide_eq_true_eq]
        rintro rfl
        rcases List.mem_append.1 hc with hc | hc
        · exact not_mem_templateText (by decide) (by decide) hmem hc
        · exact absurd (List.mem_singleton.1 hc) (by decide)
      rw [htext, List.takeWhile_append_of_pos htaken] at hread
      have hshorter := hread.length_rest_lt
      simp only [List.length_drop, List.length_cons, List.length_append, List.length_nil]
        at hshorter
      omega
  · cases hpiece

/-- What a template stands for is made of the text in it by changes. -/
theorem cooks_of_reads (hvalue : ∀ code, (value code).length ≤ 1)
    (h : Reads backquote (templatePiece? value) (templateText k cs ++ backquote :: rest) v rest) :
    Cooks k cs v := by
  induction hn : cs.length using Nat.strongRecOn generalizing cs v with
  | ind n ih =>
  subst hn
  cases cs with
  | nil =>
    obtain ⟨rfl, -⟩ := Reads.of_closing h
    exact .nil
  | cons c cs =>
    have hchanged : ∀ c ≠ ' ', BeginsChanged value k c cs v rest → Cooks k (c :: cs) v := by
      rintro c hc ⟨chunk, out, cs', v', rfl, rfl, hout, hread⟩
      refine .changed hc hout (ih _ ?_ hread rfl)
      rw [List.length_cons, List.length_append]
      omega
    have hkept : ∀ v, Reads backquote (templatePiece? value)
        (templateText k cs ++ backquote :: rest) v rest → Cooks k cs v :=
      fun v hread => ih _ (Nat.lt_succ_self _) hread rfl
    by_cases hquote : c = backquote
    · subst hquote
      obtain ⟨out, n, v, hpiece, rfl, hread⟩ := Reads.of_cons (by decide) h
      cases hpiece
      exact .kept (by decide) (fun hopen => absurd hopen.1 (by decide)) (hkept v hread)
    · rw [templateText_cons hquote, List.cons_append, List.append_assoc] at h
      by_cases hline : c = '\n'
      · subst hline
        obtain ⟨out, n, v, hpiece, rfl, hblanks⟩ := Reads.of_cons hquote h
        cases hpiece
        obtain ⟨tail, rfl, hread⟩ := reads_blanks hblanks
        exact .lineFeed (hkept tail hread)
      rw [blanksAfter, if_neg hline, List.nil_append] at h
      by_cases hslash : c = '\\'
      · subst hslash
        exact hchanged _ (by decide) (beginsChanged_slash h)
      by_cases hreturn : c = '\r'
      · subst hreturn
        exact hchanged _ (by decide) (beginsChanged_return h)
      by_cases hopen : c = '$' ∧ cs.head? = some '\x7b'
      · obtain ⟨rfl, hhead⟩ := hopen
        obtain ⟨cs, rfl⟩ := List.head?_eq_some_iff.1 hhead
        rw [templateText_cons (by decide)] at h
        exact hchanged _ (by decide) (beginsChanged_open hvalue h)
      · obtain ⟨out, n, v, hpiece, rfl, hread⟩ := Reads.of_cons hquote h
        rw [templatePiece?_eq_self hslash hreturn] at hpiece
        · cases hpiece
          exact .kept ⟨hslash, hreturn, hline⟩ hopen (hkept v hread)
        · rw [head?_templateText_eq_some_iff (by decide) (by decide)]
          exact hopen

/-! ## Texts after a placeholder -/

/-- A template in code that is nested by a number of blanks. -/
def Dialect.templateLiteral (d : Dialect) (k : Nat) (cs : List Char) : List Char :=
  d.templateTag ++ backquote :: (templateText k cs ++ [backquote])

/-- A template is written as a literal without room for further lines. -/
theorem Dialect.render_template (d : Dialect) (s : String) :
    (Expression.template s).render d.templateTag = d.templateLiteral 0 s.toList := by
  rw [Dialect.templateLiteral, templateText_eq_escapeTemplate (Or.inl rfl)]
  simp [Expression.render]

/-- Two levels deeper, a template has more room after its line feeds. -/
theorem Dialect.hang_templateLiteral (d : Dialect) (k : Nat) (cs : List Char) :
    hang Expression.pad (d.templateLiteral k cs) = d.templateLiteral (k + 2) cs := by
  have htag : hang Expression.pad d.templateTag = d.templateTag := by
    cases d <;> exact hang_eq_self (by decide)
  have hclose : hang Expression.pad [backquote] = [backquote] := rfl
  rw [templateLiteral, List.append_cons, hang_append, hang_append, hang_append, htag, hclose,
    hang_pad_templateText, templateLiteral, ← List.append_cons]

/-- Whether code can stand in a placeholder on one line, as every identifier can. -/
def FitsPlaceholder (code : String) : Prop :=
  '\x7d' ∉ code.toList ∧ backquote ∉ code.toList ∧ '\n' ∉ code.toList

/-- An identifier fits a placeholder. -/
theorem fitsPlaceholder_of_isIdentifier {name : String} (h : IsIdentifier name) :
    FitsPlaceholder name :=
  ⟨h.not_mem (by decide) (by decide), h.not_mem (by decide) (by decide),
    h.not_mem (by decide) (by decide)⟩

/-- A placeholder stands in a template as it is. -/
theorem FitsPlaceholder.templateText {code : String} (h : FitsPlaceholder code) (k : Nat)
    (suffix : List Char) :
    templateText k ((placeholder code).toList ++ suffix) =
      '$' :: '\x7b' :: (code.toList ++ '\x7d' :: Code.templateText k suffix) := by
  obtain ⟨-, hquote, hline⟩ := h
  have hcode : (placeholder code).toList = '$' :: '\x7b' :: (code.toList ++ ['\x7d']) := by
    simp [placeholder]
  have hself : Code.templateText k (placeholder code).toList = (placeholder code).toList := by
    rw [hcode]
    refine templateText_eq_self ?_ (by simp [hline])
    simp only [List.mem_cons, List.mem_append, hquote, List.not_mem_nil]
    decide
  rw [templateText_append, hself, hcode]
  simp

/-- A placeholder stands for what its code does. -/
theorem reads_placeholder_iff {code text : List Char} (hbrace : '\x7d' ∉ code) :
    Reads backquote (templatePiece? value) ('$' :: '\x7b' :: (code ++ '\x7d' :: text)) v rest ↔
      ∃ tail, v = value code ++ tail ∧ Reads backquote (templatePiece? value) text tail rest := by
  have hpiece : templatePiece? value '$' ('\x7b' :: (code ++ '\x7d' :: text)) =
      some (value code, code.length + 2) := by
    rw [templatePiece?, if_neg (by decide), if_neg (by decide), if_pos ⟨rfl, rfl⟩]
    dsimp only
    rw [List.tail_cons, takeWhile_append_cons hbrace, if_pos (by simp)]
  have hdrop : ('\x7b' :: (code ++ '\x7d' :: text)).drop (code.length + 2) = text := by
    simp
  constructor
  · intro h
    obtain ⟨out, n, tail, hout, rfl, hread⟩ := Reads.of_cons (by decide) h
    rw [hpiece] at hout
    cases hout
    rw [hdrop] at hread
    exact ⟨tail, rfl, hread⟩
  · rintro ⟨tail, rfl, hread⟩
    refine .piece (by decide) hpiece ?_
    rw [hdrop]
    exact hread

/-- A text after a placeholder is left as it is exactly if it has nothing in it that templates know,
and no line feed where code is nested. -/
theorem Dialect.templateValue?_placeholder_iff (d : Dialect) {code : String}
    (hcode : FitsPlaceholder code) {suffix : List Char} :
    (∀ value, d.templateValue? value (d.templateLiteral k ((placeholder code).toList ++ suffix)) =
        some (value code.toList ++ suffix)) ↔
      IsVerbatim suffix ∧ (k = 0 ∨ '\n' ∉ suffix) := by
  have hread : ∀ value, d.templateValue? value
        (d.templateLiteral k ((placeholder code).toList ++ suffix)) =
          some (value code.toList ++ suffix) ↔
      Reads backquote (templatePiece? value) (templateText k suffix ++ [backquote]) suffix [] := by
    intro value
    rw [templateLiteral, templateValue?_eq_some_iff, hcode.templateText, List.cons_append,
      List.cons_append, List.append_assoc, List.cons_append, reads_placeholder_iff hcode.1]
    constructor
    · rintro ⟨tail, htail, h⟩
      obtain rfl : suffix = tail := List.append_cancel_left htail
      exact h
    · exact fun h => ⟨suffix, rfl, h⟩
  constructor
  · intro h
    have hnothing := (hread fun _ => []).1 (h _)
    have hshort : ∀ code : List Char, ([] : List Char).length ≤ 1 := fun _ => Nat.zero_le 1
    exact (cooks_of_reads hshort hnothing).isVerbatim rfl
  · rintro ⟨hverbatim, hnested⟩ value
    rw [hread, templateText_eq_escapeTemplate hnested,
      ← templateText_eq_escapeTemplate (Or.inl rfl)]
    exact hverbatim.reads []

end Groundwork.Code
