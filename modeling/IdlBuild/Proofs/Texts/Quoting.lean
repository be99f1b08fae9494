import IdlBuild.Text.CodeTable
import IdlBuild.Text.Quoted
import Mathlib.Data.List.Basic
import Mathlib.Logic.Function.Basic
import Mathlib.Tactic.SplitIfs

/-!
# Quoted texts are told apart

No way of quoting a character begins another one, whatever comes behind (`quotedChar_isPrefixFree`).
A quote is never the beginning of a character, so it ends a text; neither a bracket nor a comma
begins a text, so they end a list (`quotedList_isPrefixFree`).
-/

namespace IdlBuild.Text

/-! ### Prefix-free codes -/

/-- Whether a word of the code is known, and where it ends, from any list that it begins. -/
def IsPrefixFree {α β : Type} (code : α → List β) : Prop :=
  ∀ a b rest rest', code a ++ rest = code b ++ rest' → a = b ∧ rest = rest'

section PrefixFree

variable {α β γ : Type} {code : α → List β}

theorem isPrefixFree_of_read (read : List β → Option (α × List β))
    (h : ∀ a rest, read (code a ++ rest) = some (a, rest)) : IsPrefixFree code := by
  intro a b rest rest' heq
  have hread := h a rest
  rw [heq, h b rest', Option.some.injEq, Prod.mk.injEq] at hread
  exact ⟨hread.1.symm, hread.2.symm⟩

theorem IsPrefixFree.comp (h : IsPrefixFree code) {f : γ → α} (hf : Function.Injective f) :
    IsPrefixFree fun c => code (f c) := by
  intro a b rest rest' heq
  obtain ⟨hword, hrest⟩ := h _ _ _ _ heq
  exact ⟨hf hword, hrest⟩

theorem IsPrefixFree.behind (h : IsPrefixFree code) (front : List β) :
    IsPrefixFree fun a => front ++ code a := by
  intro a b rest rest' heq
  rw [List.append_assoc, List.append_assoc] at heq
  exact h _ _ _ _ (List.append_cancel_left heq)

theorem IsPrefixFree.pair {code' : γ → List β} (h : IsPrefixFree code)
    (h' : IsPrefixFree code') : IsPrefixFree fun p : α × γ => code p.1 ++ code' p.2 := by
  rintro ⟨a, c⟩ ⟨b, d⟩ rest rest' heq
  simp only [List.append_assoc] at heq
  obtain ⟨hfirst, htail⟩ := h _ _ _ _ heq
  obtain ⟨hsecond, hrest⟩ := h' _ _ _ _ htail
  exact ⟨Prod.ext hfirst hsecond, hrest⟩

/-- A run of words ends at a mark that begins none of them. -/
theorem IsPrefixFree.marked (h : IsPrefixFree code) {mark : β}
    (hmark : ∀ a, ∃ c word, code a = c :: word ∧ c ≠ mark) :
    IsPrefixFree fun words : List α => words.flatMap code ++ [mark] := by
  have hend : ∀ a as rest rest', mark :: rest ≠ (a :: as).flatMap code ++ [mark] ++ rest' := by
    intro a as rest rest' heq
    obtain ⟨c, word, hword, hne⟩ := hmark a
    rw [List.flatMap_cons, hword] at heq
    exact hne (List.cons.inj heq).1.symm
  intro as
  induction as with
  | nil =>
    intro bs rest rest' heq
    cases bs with
    | nil => exact ⟨rfl, (List.cons.inj heq).2⟩
    | cons b bs => exact absurd heq (hend b bs rest rest')
  | cons a as ih =>
    intro bs rest rest' heq
    cases bs with
    | nil => exact absurd heq.symm (hend a as rest' rest)
    | cons b bs =>
      simp only [List.flatMap_cons, List.append_assoc] at heq
      obtain ⟨hword, htail⟩ := h _ _ _ _ heq
      obtain ⟨hwords, hrest⟩ := ih bs rest rest' (by simpa using htail)
      exact ⟨by rw [hword, hwords], hrest⟩

end PrefixFree

/-! ### Hexadecimal digits -/

theorem number?_concat {front : List Char} {n d : Nat} (hd : d < 16)
    (hfront : CodeEntry.number? front = some n) :
    CodeEntry.number? (front ++ [Nat.digitChar d]) = some (n * 16 + d) := by
  have hdigit : ∀ d < 16,
      ('0' ≤ Nat.digitChar d ∧ Nat.digitChar d ≤ '9') ∧ (Nat.digitChar d).toNat - 0x30 = d ∨
        ¬ ('0' ≤ Nat.digitChar d ∧ Nat.digitChar d ≤ '9') ∧
          ('a' ≤ Nat.digitChar d ∧ Nat.digitChar d ≤ 'f') ∧
            (Nat.digitChar d).toNat - 0x57 = d := by decide
  unfold CodeEntry.number? at hfront ⊢
  split_ifs at hfront
  rw [if_neg (by simp), List.foldlM_append, hfront]
  rcases hdigit d hd with ⟨hrange, hvalue⟩ | ⟨hno, hrange, hvalue⟩
  · simp [hrange, hvalue]
  · simp [hno, hrange, hvalue]

theorem number?_toDigits (n : Nat) : CodeEntry.number? (Nat.toDigits 16 n) = some n := by
  have hsingle : ∀ d < 16, CodeEntry.number? [Nat.digitChar d] = some d := by decide
  induction n using Nat.strongRecOn with
  | ind n ih =>
    by_cases hsmall : n < 16
    · rw [Nat.toDigits_of_lt_base hsmall]
      exact hsingle n hsmall
    · have hfront := ih (n / 16) (by omega)
      have hvalue : n / 16 * 16 + n % 16 = n := by omega
      rw [Nat.toDigits_of_base_le (by omega) (by omega),
        number?_concat (Nat.mod_lt n (by omega)) hfront, hvalue]

theorem not_mem_toDigits {c : Char} (h : ∀ d < 16, Nat.digitChar d ≠ c) (n : Nat) :
    c ∉ Nat.toDigits 16 n := by
  induction n using Nat.strongRecOn with
  | ind n ih =>
    by_cases hsmall : n < 16
    · rw [Nat.toDigits_of_lt_base hsmall, List.mem_singleton]
      exact (h n hsmall).symm
    · rw [Nat.toDigits_of_base_le (by omega) (by omega), List.mem_append, not_or,
        List.mem_singleton]
      exact ⟨ih (n / 16) (by omega), (h (n % 16) (by omega)).symm⟩

/-! ### Characters -/

/-- The characters that a letter behind a backslash stands for. -/
def escapeLetters : List (Char × Char) :=
  [('\x00', '0'), ('\t', 't'), ('\r', 'r'), ('\n', 'n'), ('\\', '\\'), ('"', '"')]

/-- The ways in which a character can be quoted. -/
inductive QuotedAs (c : Char) : List Char → Prop where
  | letter {letter : Char} (h : (c, letter) ∈ escapeLetters) : QuotedAs c ['\\', letter]
  | code : QuotedAs c (codePointEscape c)
  | plain (hbackslash : c ≠ '\\') (hquote : c ≠ '"') : QuotedAs c [c]

theorem quotedAs (c : Char) : QuotedAs c (quotedChar c) := by
  unfold quotedChar
  split_ifs with hnul htab hreturn hfeed hbackslash hquote hcode
  · exact .letter (by simp [escapeLetters, hnul])
  · exact .letter (by simp [escapeLetters, htab])
  · exact .letter (by simp [escapeLetters, hreturn])
  · exact .letter (by simp [escapeLetters, hfeed])
  · exact .letter (by simp [escapeLetters, hbackslash])
  · exact .letter (by simp [escapeLetters, hquote])
  · exact .code
  · exact .plain hbackslash hquote

/-- Reads one quoted character. -/
def readQuotedChar : List Char → Option (Char × List Char)
  | '\\' :: 'u' :: rest => do
    let (digits, rest) ← cutFirst '\x7d' rest.tail
    let n ← CodeEntry.number? digits
    return (Char.ofNat n, rest)
  | '\\' :: letter :: rest =>
    (escapeLetters.find? (·.2 = letter)).map fun entry => (entry.1, rest)
  | c :: rest => some (c, rest)
  | [] => none

theorem readQuotedChar_letter {c letter : Char} (h : (c, letter) ∈ escapeLetters)
    (rest : List Char) : readQuotedChar ('\\' :: letter :: rest) = some (c, rest) := by
  have hall : ∀ entry ∈ escapeLetters, entry.2 ≠ 'u' ∧
      escapeLetters.find? (·.2 = entry.2) = some entry := by decide
  obtain ⟨hcode, hfind⟩ := hall _ h
  rw [readQuotedChar, hfind]
  · rfl
  · exact hcode

theorem readQuotedChar_code (c : Char) (rest : List Char) :
    readQuotedChar (codePointEscape c ++ rest) = some (c, rest) := by
  have hbrace : '\x7d' ∉ Nat.toDigits 16 c.toNat := not_mem_toDigits (by decide) _
  have hcut := cutFirst_append hbrace rest
  simp [codePointEscape, readQuotedChar, hcut, number?_toDigits]

theorem readQuotedChar_plain {c : Char} (h : c ≠ '\\') (rest : List Char) :
    readQuotedChar (c :: rest) = some (c, rest) := by
  unfold readQuotedChar
  split
  · next heq => exact absurd (List.cons.inj heq).1 h
  · next heq => exact absurd (List.cons.inj heq).1 h
  · next heq => rw [(List.cons.inj heq).1, (List.cons.inj heq).2]
  · next heq => cases heq

theorem readQuotedChar_quotedChar (c : Char) (rest : List Char) :
    readQuotedChar (quotedChar c ++ rest) = some (c, rest) := by
  have hways := quotedAs c
  generalize quotedChar c = word at hways ⊢
  cases hways with
  | letter h => exact readQuotedChar_letter h rest
  | code => exact readQuotedChar_code c rest
  | plain hbackslash hquote => exact readQuotedChar_plain hbackslash rest

theorem quotedChar_isPrefixFree : IsPrefixFree quotedChar :=
  isPrefixFree_of_read readQuotedChar readQuotedChar_quotedChar

theorem quotedChar_ne_quote (c : Char) :
    ∃ first word, quotedChar c = first :: word ∧ first ≠ '"' := by
  have hways := quotedAs c
  generalize quotedChar c = word at hways ⊢
  cases hways with
  | letter h => exact ⟨_, _, rfl, by decide⟩
  | code => exact ⟨_, _, rfl, by decide⟩
  | plain hbackslash hquote => exact ⟨_, _, rfl, hquote⟩

/-! ### Texts and lists of texts -/

theorem toList_quoted (s : String) :
    (quoted s).toList = ['"'] ++ (s.toList.flatMap quotedChar ++ ['"']) := by
  rw [quoted, String.toList_ofList]
  rfl

/-- No text holds what looks like its closing quote. -/
theorem quoted_isPrefixFree : IsPrefixFree fun s => (quoted s).toList := by
  simp only [toList_quoted]
  have hchars := quotedChar_isPrefixFree.marked quotedChar_ne_quote
  exact (hchars.comp fun _ _ h => String.toList_injective h).behind ['"']

theorem intercalate_cons {α : Type} (sep first : List α) (rest : List (List α)) :
    sep.intercalate (first :: rest) = first ++ rest.flatMap (sep ++ ·) := by
  induction rest generalizing first with
  | nil => simp
  | cons next rest ih =>
    rw [List.intercalate_cons_cons, ih]
    simp

theorem toList_quotedList_cons (s : String) (texts : List String) :
    (quotedList (s :: texts)).toList =
      ['['] ++ ((quoted s).toList ++
        ((texts.flatMap fun t => [',', ' '] ++ (quoted t).toList) ++ [']'])) := by
  have hopen : "[".toList = ['['] := by decide
  have hclose : "]".toList = [']'] := by decide
  have hcomma : ", ".toList = [',', ' '] := by decide
  rw [quotedList, String.toList_append, String.toList_append, String.toList_intercalate, hopen,
    hclose, hcomma, List.map_map, List.map_cons, intercalate_cons, List.flatMap_map]
  simp [List.append_assoc]

theorem quotedList_isPrefixFree : IsPrefixFree fun texts => (quotedList texts).toList := by
  have hcomma : ∀ s, ∃ c word, [',', ' '] ++ (quoted s).toList = c :: word ∧ c ≠ ']' :=
    fun s => ⟨',', _, rfl, by decide⟩
  have hnext := (quoted_isPrefixFree.behind [',', ' ']).marked hcomma
  have hmany := (quoted_isPrefixFree.pair hnext).behind ['[']
  have hempty : (quotedList []).toList = ['[', ']'] := by decide
  -- Behind the bracket stands another one or the quote of the first text.
  have hne : ∀ s texts rest rest',
      (quotedList (s :: texts)).toList ++ rest ≠ (quotedList []).toList ++ rest' := by
    intro s texts rest rest' heq
    rw [toList_quotedList_cons, hempty, toList_quoted] at heq
    have hsecond := congrArg (·[1]?) heq
    simp at hsecond
  intro texts texts' rest rest' heq
  cases texts with
  | nil =>
    cases texts' with
    | nil => exact ⟨rfl, List.append_cancel_left heq⟩
    | cons s texts' => exact absurd heq.symm (hne s texts' rest' rest)
  | cons s texts =>
    cases texts' with
    | nil => exact absurd heq (hne s texts rest rest')
    | cons s' texts' =>
      simp only [toList_quotedList_cons] at heq
      obtain ⟨hpair, hrest⟩ := hmany (s, texts) (s', texts') rest rest' heq
      rw [Prod.mk.injEq] at hpair
      exact ⟨by rw [hpair.1, hpair.2], hrest⟩

end IdlBuild.Text
