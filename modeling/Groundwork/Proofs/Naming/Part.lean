import Mathlib.Data.List.Nodup

/-!
# Parts of nodes

What a node becomes in code has a label of its own for every part: the id of the node, or the id
with a word after it, or with a word and a number.  Ids may end in words of their own, so that two
labels are told apart is not clear from how they are made.  No word ends in another one and none in
a digit, so two parts with words never share a label; but what stands before a word can be anything,
so the label of a part can be the id of another node.

Main results:

- `Part.eq_of_append_text`: a text ends in at most one part that has a word.
- `PartLabel.nodup_map_text_iff`: labels are distinct exactly if no part with a word has the label
  of a whole node.
-/

namespace Groundwork

/-- A part of a node: the word that its label has after the id, and a number if there are several. -/
structure Part where
  word : String
  number : Option Nat
  deriving DecidableEq, Repr

namespace Part

/-- The node itself. -/
def whole : Part := ⟨"", none⟩

/-- The part under a word. -/
def named (word : String) : Part := ⟨word, none⟩

/-- The part under a word and a number. -/
def numbered (word : String) (number : Nat) : Part := ⟨word, some number⟩

/-- The text of a part. -/
def text (p : Part) : String :=
  match p.number with
  | none => p.word
  | some number => p.word ++ toString number

/-- The words for parts of a node itself. -/
def nodeWords : List String :=
  ["-public", "-invoker", "-asset", "-source", "-archive", "-url-map", "-address", "-cert",
    "-proxy", "-rule", "-role-"]

/-- The words for parts that a node has for others. -/
def routeWords : List String := ["-neg", "-backend", "-iap-"]

/-- The words in use. -/
def words : List String := nodeWords ++ routeWords

/-! ## Words and digits -/

/-- The digits of a part's number. -/
def digits (p : Part) : List Char :=
  (p.number.map (Nat.toDigits 10)).getD []

theorem toList_text (p : Part) : p.text.toList = p.word.toList ++ p.digits := by
  obtain ⟨word, number⟩ := p
  cases number <;> simp [text, digits]

theorem isDigit_of_mem_digits {p : Part} : ∀ c ∈ p.digits, c.isDigit = true := by
  obtain ⟨word, number⟩ := p
  cases number with
  | none => simp [digits]
  | some number => exact fun c hc => Nat.isDigit_of_mem_toDigits (by decide) (by decide) hc

/-- Digits say of which number they are. -/
theorem toDigits_injective : Function.Injective (Nat.toDigits 10) := by
  intro m n h
  rw [← Nat.ofDigitChars_ten_toDigits (n := m), h, Nat.ofDigitChars_ten_toDigits]

/-- Parts are told apart by their words and digits. -/
theorem eq_of_word_eq {p q : Part} (hword : p.word = q.word) (hdigits : p.digits = q.digits) :
    p = q := by
  obtain ⟨word, number⟩ := p
  obtain ⟨word', number'⟩ := q
  have hpositive : ∀ n : Nat, Nat.toDigits 10 n ≠ [] := by
    intro n hnil
    have hlen := Nat.length_toDigits_pos (b := 10) (n := n)
    rw [hnil] at hlen
    exact absurd hlen (by decide)
  obtain rfl : word = word' := hword
  cases number with
  | none =>
    cases number' with
    | none => rfl
    | some n => exact absurd hdigits.symm (hpositive n)
  | some m =>
    cases number' with
    | none => exact absurd hdigits (hpositive m)
    | some n => rw [toDigits_injective hdigits]

/-- Parts under one word with the numbers of a list are distinct. -/
theorem nodup_map_numbered {α : Type} (word : String) (l : List α) :
    (l.zipIdx.map fun entry => numbered word entry.2).Nodup := by
  have hnumbers : (l.zipIdx.map Prod.snd).Nodup := by
    rw [List.zipIdx_map_snd]
    exact List.nodup_range'
  have hparts := hnumbers.map (f := numbered word) fun m n h => Option.some.inj (mk.inj h).2
  rwa [List.map_map] at hparts

theorem not_mem_map_numbered {α : Type} {word : String} {l : List α} {p : Part}
    (h : p.number = none) : p ∉ l.zipIdx.map fun entry => numbered word entry.2 := by
  intro hmem
  obtain ⟨entry, -, rfl⟩ := List.mem_map.1 hmem
  cases h

/-- Digits after something that ends in no digit can be told from it. -/
theorem append_digits_inj {before after digits digits' : List Char} {c : Char}
    (hbefore : before.getLast? = some c) (hc : c.isDigit = false) {c' : Char}
    (hafter : after.getLast? = some c') (hc' : c'.isDigit = false)
    (hdigits : ∀ d ∈ digits, d.isDigit = true) (hdigits' : ∀ d ∈ digits', d.isDigit = true)
    (h : before ++ digits = after ++ digits') : before = after ∧ digits = digits' := by
  have hread : ∀ {text ending : List Char} {last : Char}, text.getLast? = some last →
      last.isDigit = false → (∀ d ∈ ending, d.isDigit = true) →
      (text ++ ending).reverse.takeWhile Char.isDigit = ending.reverse := by
    intro text ending last hlast hnodigit hending
    obtain ⟨rest, rfl⟩ := List.getLast?_eq_some_iff.1 hlast
    rw [List.reverse_append, List.takeWhile_append_of_pos (by simpa using hending)]
    simp [hnodigit]
  have hsame : digits = digits' := by
    rw [← List.reverse_inj, ← hread hbefore hc hdigits, h, hread hafter hc' hdigits']
  rw [hsame] at h
  exact ⟨List.append_cancel_right h, hsame⟩

/-- No word ends in another one. -/
theorem eq_of_isSuffix {v w : String} (hv : v ∈ words) (hw : w ∈ words)
    (h : v.toList <:+ w.toList) : v = w := by
  have hall : ∀ v ∈ words, ∀ w ∈ words, v.toList.isSuffixOf w.toList = true → v = w := by
    decide +kernel
  exact hall v hv w hw (List.isSuffixOf_iff_suffix.2 h)

/-- No word ends in a digit. -/
theorem exists_getLast?_word {w : String} (hw : w ∈ words) :
    ∃ c, w.toList.getLast? = some c ∧ c.isDigit = false := by
  have hall : ∀ w ∈ words, w.toList.getLast?.any (fun c => !c.isDigit) = true := by
    decide +kernel
  obtain ⟨c, hc, hdigit⟩ := (Option.any_eq_true _ _).1 (hall w hw)
  exact ⟨c, hc, by simpa using hdigit⟩

/-- What stands before a word can be told from it. -/
theorem append_word_inj {first second : List Char} {v w : String} (hv : v ∈ words)
    (hw : w ∈ words) (h : first ++ v.toList = second ++ w.toList) : first = second ∧ v = w := by
  have hsame : v = w := by
    rcases List.append_eq_append_iff.1 h with ⟨rest, -, hrest⟩ | ⟨rest, -, hrest⟩
    · exact (eq_of_isSuffix hw hv ⟨rest, hrest.symm⟩).symm
    · exact eq_of_isSuffix hv hw ⟨rest, hrest.symm⟩
  rw [hsame] at h
  exact ⟨List.append_cancel_right h, hsame⟩

/-- A text ends in at most one part that has a word. -/
theorem eq_of_append_text {first second : String} {p q : Part} (hp : p.word ∈ words)
    (hq : q.word ∈ words) (h : first ++ p.text = second ++ q.text) : first = second ∧ p = q := by
  have htexts := congrArg String.toList h
  simp only [String.toList_append, toList_text, ← List.append_assoc] at htexts
  obtain ⟨c, hc, hcdigit⟩ := exists_getLast?_word hp
  obtain ⟨c', hc', hcdigit'⟩ := exists_getLast?_word hq
  have hlast : (first.toList ++ p.word.toList).getLast? = some c := by simp [hc]
  have hlast' : (second.toList ++ q.word.toList).getLast? = some c' := by simp [hc']
  obtain ⟨hbefore, hdigits⟩ := append_digits_inj hlast hcdigit hlast' hcdigit'
    isDigit_of_mem_digits isDigit_of_mem_digits htexts
  obtain ⟨hfirst, hword⟩ := append_word_inj hp hq hbefore
  exact ⟨String.toList_inj.1 hfirst, eq_of_word_eq hword hdigits⟩

end Part

/-! ## Labels -/

/-- A label: what a part is attached to, and the part. -/
structure PartLabel where
  stem : String
  part : Part
  deriving DecidableEq, Repr

namespace PartLabel

/-- The text of a label. -/
def text (l : PartLabel) : String := l.stem ++ l.part.text

@[simp]
theorem text_whole (stem : String) : text ⟨stem, .whole⟩ = stem :=
  String.append_empty

/-- A label with a word that is in use, or that of a whole node. -/
def Regular (l : PartLabel) : Prop := l.part = .whole ∨ l.part.word ∈ Part.words

/-- Labels are distinct as texts exactly if they are distinct and no part with a word has the label
of a whole node. -/
theorem nodup_map_text_iff {labels : List PartLabel} (hregular : ∀ l ∈ labels, l.Regular) :
    (labels.map text).Nodup ↔
      labels.Nodup ∧ ∀ l ∈ labels, l.part ≠ .whole → ⟨l.text, .whole⟩ ∉ labels := by
  constructor
  · intro h
    refine ⟨h.of_map _, fun l hl hpart hwhole => hpart ?_⟩
    have hsame : l = ⟨l.text, .whole⟩ :=
      List.inj_on_of_nodup_map h hl hwhole (text_whole l.text).symm
    exact congrArg part hsame
  · rintro ⟨hnodup, hapart⟩
    refine hnodup.map_on fun l hl m hm htext => ?_
    obtain ⟨stem, part⟩ := l
    obtain ⟨stem', part'⟩ := m
    by_cases hpart : part = .whole
    · subst hpart
      by_cases hpart' : part' = .whole
      · subst hpart'
        rw [text_whole, text_whole] at htext
        rw [htext]
      · rw [text_whole] at htext
        exact absurd (htext ▸ hl) (hapart _ hm hpart')
    · by_cases hpart' : part' = .whole
      · subst hpart'
        rw [text_whole] at htext
        exact absurd (htext ▸ hm) (hapart _ hl hpart)
      · obtain ⟨hstem, hsame⟩ := Part.eq_of_append_text
          ((hregular _ hl).resolve_left hpart) ((hregular _ hm).resolve_left hpart') htext
        subst hstem hsame
        rfl

end PartLabel

end Groundwork
