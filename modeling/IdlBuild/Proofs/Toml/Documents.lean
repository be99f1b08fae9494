import IdlBuild.Http.Percent
import IdlBuild.Toml.Document
import Mathlib.Data.List.Basic
import Mathlib.Tactic.Ring

/-!
# Documents that read back

A table of texts, lists of texts, truth values and whole numbers can be written as a document, one
line for each key, and the document is read as the table (`readDocument_of_lists`). Every text can
be written, for a character that may not stand in a string is escaped by its code.
-/

namespace IdlBuild.Toml

/-! ### Hexadecimal digits -/

/-- The last digits of a number. -/
def hexDigits : (count : Nat) → (n : Nat) → List Char
  | 0, _ => []
  | count + 1, n => Http.hexChar (n / 16 ^ count % 16) :: hexDigits count n

theorem hexDigit?_hexChar {d : Nat} (h : d < 16) : hexDigit? (Http.hexChar d) = some d := by
  have hall : ∀ d < 16, hexDigit? (Http.hexChar d) = some d := by decide
  exact hall d h

theorem exists_of_mem_hexDigits {count n : Nat} {c : Char} (h : c ∈ hexDigits count n) :
    ∃ d < 16, c = Http.hexChar d := by
  induction count with
  | zero => cases h
  | succ count ih =>
    rcases List.mem_cons.1 h with rfl | h
    · exact ⟨_, Nat.mod_lt _ (by decide), rfl⟩
    · exact ih h

theorem shifted_add (count value n : Nat) :
    (value * 16 + n / 16 ^ count % 16) * 16 ^ count + n % 16 ^ count
      = value * 16 ^ (count + 1) + n % 16 ^ (count + 1) := by
  rw [Nat.mod_pow_succ]
  ring

theorem readHex_hexDigits (count value n : Nat) (rest : List Char) :
    readHex count value (hexDigits count n ++ rest)
      = some (value * 16 ^ count + n % 16 ^ count, rest) := by
  induction count generalizing value with
  | zero => simp [readHex, hexDigits, Nat.mod_one]
  | succ count ih =>
    have hdigit := hexDigit?_hexChar (Nat.mod_lt (n / 16 ^ count) (by decide : 0 < 16))
    rw [hexDigits, List.cons_append, readHex, hdigit, ← shifted_add]
    exact ih _

theorem foldl_hexDigits (count value n : Nat) :
    (hexDigits count n).foldl (fun m c => m * 16 + (hexDigit? c).getD 0) value
      = value * 16 ^ count + n % 16 ^ count := by
  induction count generalizing value with
  | zero => simp [hexDigits, Nat.mod_one]
  | succ count ih =>
    have hdigit := hexDigit?_hexChar (Nat.mod_lt (n / 16 ^ count) (by decide : 0 < 16))
    rw [hexDigits, List.foldl_cons, hdigit, ← shifted_add]
    exact ih _

theorem valueOf_hexDigits {count n : Nat} (h : n < 16 ^ count) :
    valueOf 16 (hexDigits count n) = n := by
  rw [valueOf, foldl_hexDigits, Nat.zero_mul, Nat.zero_add, Nat.mod_eq_of_lt h]

/-! ### Strings -/

/-- Whether a character stands as itself between double quotes. -/
def standsAsItself (c : Char) : Bool := isPlain c && c != '"' && c != '\\'

/-- A character between double quotes. -/
def escaped (c : Char) : List Char :=
  if standsAsItself c then [c] else '\\' :: 'U' :: hexDigits 8 c.toNat

/-- The rest of a string after its opening quote. -/
def unopened (text : List Char) : List Char := text.flatMap escaped ++ ['"']

theorem charOfCode?_toNat (c : Char) : charOfCode? c.toNat = some c := by
  have hvalid := c.valid
  rw [charOfCode?, if_pos, Char.ofNat_toNat]
  rcases hvalid with h | ⟨h₁, h₂⟩
  · exact .inl h
  · exact .inr ⟨h₁, h₂⟩

theorem readEscape_hexDigits (c : Char) (rest : List Char) :
    readEscape ('U' :: (hexDigits 8 c.toNat ++ rest)) = some (c, rest) := by
  have hlt : c.toNat < 16 ^ 8 := by
    rcases c.valid with h | ⟨-, h⟩
    · exact Nat.lt_trans h (by decide)
    · exact Nat.lt_trans h (by decide)
  rw [readEscape, readHex_hexDigits, Nat.zero_mul, Nat.zero_add, Nat.mod_eq_of_lt hlt]
  dsimp only [Option.bind_eq_bind, Option.bind_some]
  rw [charOfCode?_toNat]
  rfl

theorem readBasic_escaped {fuel : Nat} (c : Char) (rest : List Char) :
    readBasic (fuel + 1) (escaped c ++ rest)
      = (readBasic fuel rest).map fun (text, rest) => (c :: text, rest) := by
  rw [escaped]
  split
  · next h =>
    obtain ⟨⟨hplain, hquote⟩, hbackslash⟩ : (isPlain c = true ∧ c ≠ '"') ∧ c ≠ '\\' := by
      simpa [standsAsItself] using h
    rw [List.singleton_append, readBasic, if_neg hquote, if_neg hbackslash, if_pos hplain]
    cases readBasic fuel rest <;> rfl
  · rw [List.cons_append, readBasic, if_neg (by decide), if_pos rfl, List.cons_append,
      readEscape_hexDigits]
    dsimp only [Option.bind_eq_bind, Option.bind_some]
    cases readBasic fuel rest <;> rfl

theorem readBasic_unopened (text rest : List Char) {fuel : Nat} (hfuel : text.length < fuel) :
    readBasic fuel (unopened text ++ rest) = some (text, rest) := by
  induction text generalizing fuel with
  | nil =>
    obtain ⟨fuel, rfl⟩ := Nat.exists_eq_add_of_lt hfuel
    rfl
  | cons c text ih =>
    obtain ⟨fuel, rfl⟩ : ∃ n, fuel = n + 1 := Nat.exists_eq_succ_of_ne_zero (by omega)
    have hrest := ih (by simpa using hfuel)
    rw [unopened, List.flatMap_cons, List.append_assoc, List.append_assoc, readBasic_escaped,
      ← List.append_assoc]
    exact congrArg (Option.map _) hrest

theorem ne_quote_of_escaped {c d : Char} {cs : List Char} (h : escaped c = d :: cs) : d ≠ '"' := by
  rintro rfl
  rw [escaped] at h
  split at h
  · next hself =>
    rw [(List.cons.inj h).1] at hself
    cases hself
  · exact absurd (List.cons.inj h).1 (by decide)

theorem readString_unopened {text rest : List Char} {fuel : Nat} (hfuel : text.length < fuel)
    (hrest : rest.head? ≠ some '"') :
    readString fuel ('"' :: (unopened text ++ rest)) = some (String.ofList text, rest) := by
  have hread := readBasic_unopened text rest hfuel
  -- Two more quotes would open a string of several lines.
  have hsecond : ∀ others, unopened text ++ rest ≠ '"' :: '"' :: others := by
    intro others h
    cases text with
    | nil =>
      have hquote : rest = '"' :: others := (List.cons.inj h).2
      exact hrest (congrArg List.head? hquote)
    | cons c text =>
      rw [unopened, List.flatMap_cons, List.append_assoc, List.append_assoc] at h
      cases hescaped : escaped c with
      | nil =>
        rw [escaped] at hescaped
        split at hescaped <;> cases hescaped
      | cons d cs =>
        rw [hescaped] at h
        exact ne_quote_of_escaped hescaped (List.cons.inj h).1
  unfold readString
  split
  · next heq => exact absurd (List.cons.inj heq).2 (hsecond _)
  · next heq => exact absurd (List.cons.inj heq).1 (by decide)
  · next heq =>
    rw [← (List.cons.inj heq).2, hread]
    rfl
  · next heq => exact absurd (List.cons.inj heq).1 (by decide)
  · next h _ => exact absurd rfl (h _)

/-! ### Scalars without quotes -/

/-- A scalar at the end of a line. -/
theorem readScalar_line {token : List Char} (h : ∀ c ∈ token, isScalarChar c = true)
    (rest : List Char) :
    readScalar (token ++ '\n' :: rest) = (scalar? token).map fun v => (v, '\n' :: rest) := by
  have htoken : (token ++ '\n' :: rest).takeWhile isScalarChar = token := by
    rw [List.takeWhile_append_of_pos h, List.takeWhile_cons_of_neg (by decide), List.append_nil]
  have hrest : (token ++ '\n' :: rest).dropWhile isScalarChar = '\n' :: rest := by
    rw [List.dropWhile_append_of_pos h, List.dropWhile_cons_of_neg (by decide)]
  simp only [readScalar, htoken, hrest]
  split
  · next heq => exact absurd (List.cons.inj heq).1 (by decide)
  · cases scalar? token <;> rfl

theorem after_of_all {isOne : Char → Bool} (hunderscore : isOne '_' = false) {cs : List Char}
    (h : ∀ c ∈ cs, isOne c = true) : ungrouped?.after isOne cs = some cs := by
  induction cs with
  | nil => rfl
  | cons c cs ih =>
    have hc := h c (List.mem_cons_self ..)
    have hne : c ≠ '_' := by
      rintro rfl
      rw [hunderscore] at hc
      cases hc
    rw [ungrouped?.after, if_pos hc, ih fun d hd => h d (List.mem_cons_of_mem c hd)]
    · rfl
    · rintro d rest rfl -
      exact hne rfl

/-- A whole number in hexadecimal digits. -/
def hexadecimal (n : Nat) : List Char := '0' :: 'x' :: hexDigits 16 n

theorem integer?_hexadecimal {n : Nat} (h : n < 2 ^ 64) :
    integer? (hexadecimal n) = some (.integer n) := by
  have hall : ∀ c ∈ hexDigits 16 n, (hexDigit? c).isSome = true := by
    intro c hc
    obtain ⟨d, hd, rfl⟩ := exists_of_mem_hexDigits hc
    rw [hexDigit?_hexChar hd]
    rfl
  have hungrouped : ungrouped? (fun c => (hexDigit? c).isSome) (hexDigits 16 n)
      = some (hexDigits 16 n) := by
    have hrest := after_of_all (by decide) fun c hc => hall c (List.mem_cons_of_mem _ hc)
    rw [hexDigits, ungrouped?, if_pos (hall _ (List.mem_cons_self ..)), hrest]
    rfl
  have hrange : -0x80000000000000000000000000000000 ≤ (n : Int) ∧
      (n : Int) < 0x100000000000000000000000000000000 := by
    omega
  rw [hexadecimal, integer?, hungrouped]
  dsimp only [Option.bind_eq_bind, Option.bind_some]
  rw [valueOf_hexDigits h, integerValue]
  exact congrArg some (if_pos hrange)

theorem scalar?_hexadecimal {n : Nat} (h : n < 2 ^ 64) :
    scalar? (hexadecimal n) = some (.integer n) := by
  have hdate : isDateTime (hexadecimal n) = false := rfl
  rw [scalar?, if_neg, if_neg, hdate, if_neg (by decide), integer?_hexadecimal h]
  · rfl
  · intro heq
    exact absurd (List.cons.inj heq).1 (by decide)
  · intro heq
    exact absurd (List.cons.inj heq).1 (by decide)

/-! ### Values -/

/-- A text between double quotes. -/
def quoted (text : String) : List Char := '"' :: unopened text.toList

/-- The rest of a list of texts after its opening bracket. -/
def unbracketed (texts : List String) : List Char :=
  texts.flatMap (fun text => quoted text ++ [',']) ++ [']']

/-- Ways to write the values that settings have. -/
inductive Spelled : Value → List Char → Prop
  | string (text : String) : Spelled (.string text) (quoted text)
  | boolean (value : Bool) : Spelled (.boolean value) (toString value).toList
  | integer {n : Nat} (h : n < 2 ^ 64) : Spelled (.integer n) (hexadecimal n)
  | array (texts : List String) : Spelled (.array (texts.map .string)) ('[' :: unbracketed texts)

theorem length_lt_length_quoted (text : String) :
    text.toList.length + 1 < (quoted text).length := by
  have hescaped : ∀ cs : List Char, cs.length ≤ (cs.flatMap escaped).length := by
    intro cs
    induction cs with
    | nil => exact Nat.le_refl 0
    | cons c cs ih =>
      have hpos : 0 < (escaped c).length := by
        unfold escaped
        split <;> exact Nat.succ_pos _
      rw [List.flatMap_cons, List.length_append, List.length_cons]
      omega
  have hle := hescaped text.toList
  rw [quoted, unopened, List.length_cons, List.length_append, List.length_singleton]
  omega

theorem readValue_quoted {text : String} {rest : List Char} {fuel depth : Nat}
    (hfuel : (quoted text).length ≤ fuel + 1) (hrest : rest.head? ≠ some '"') :
    readValue (fuel + 1) depth (quoted text ++ rest) = some (.string text, rest) := by
  have hlength := length_lt_length_quoted text
  have hbound : text.toList.length < fuel + 1 := by omega
  have hread := readString_unopened hbound hrest
  rw [String.ofList_toList] at hread
  rw [quoted, List.cons_append, readValue, hread]
  rfl

theorem readElements_unbracketed {texts : List String} {rest : List Char} {fuel depth : Nat}
    (hfuel : (unbracketed texts).length ≤ fuel) :
    readElements fuel depth (unbracketed texts ++ rest) = some (texts.map .string, rest) := by
  induction texts generalizing fuel with
  | nil =>
    obtain ⟨fuel, rfl⟩ := Nat.exists_eq_add_of_le' hfuel
    rfl
  | cons text texts ih =>
    have hsplit : unbracketed (text :: texts) = quoted text ++ ',' :: unbracketed texts := by
      rw [unbracketed, List.flatMap_cons, List.append_assoc, List.append_assoc]
      rfl
    have hlength := length_lt_length_quoted text
    rw [hsplit, List.length_append, List.length_cons] at hfuel
    obtain ⟨fuel, rfl⟩ : ∃ n, fuel = n + 2 := ⟨fuel - 2, by omega⟩
    have hvalue : readValue (fuel + 1) depth (quoted text ++ ',' :: (unbracketed texts ++ rest))
        = some (.string text, ',' :: (unbracketed texts ++ rest)) :=
      readValue_quoted (by omega) (fun h => absurd (Option.some.inj h) (by decide))
    have hrest := @ih (fuel + 1) (by omega)
    have hgaps : dropGaps (quoted text ++ ',' :: (unbracketed texts ++ rest))
        = quoted text ++ ',' :: (unbracketed texts ++ rest) := rfl
    have hcomma : dropGaps (',' :: (unbracketed texts ++ rest))
        = ',' :: (unbracketed texts ++ rest) := rfl
    rw [hsplit, List.append_assoc, List.cons_append, readElements, hgaps]
    split
    · next heq => exact absurd (List.cons.inj heq).1 (by decide)
    · rw [hvalue]
      dsimp only [Option.bind_eq_bind, Option.bind_some]
      rw [hcomma]
      change (readElements (fuel + 1) depth (unbracketed texts ++ rest)).bind _ = _
      rw [hrest]
      rfl

theorem readValue_line {token rest : List Char} {v : Value} {fuel depth : Nat}
    (htoken : ∀ c ∈ token, isScalarChar c = true) (hscalar : scalar? token = some v) :
    readValue (fuel + 1) depth (token ++ '\n' :: rest) = some (v, '\n' :: rest) := by
  have hread := readScalar_line htoken rest
  rw [hscalar] at hread
  have hopening : ∀ c cs, isScalarChar c = false → c ≠ '\n' → token ++ '\n' :: rest ≠ c :: cs := by
    intro c cs hc hne heq
    cases token with
    | nil => exact hne (List.cons.inj heq).1.symm
    | cons d token =>
      have hd := htoken d (List.mem_cons_self ..)
      rw [(List.cons.inj heq).1, hc] at hd
      cases hd
  rw [readValue, hread]
  · rfl
  · exact fun cs => hopening _ cs rfl (by decide)
  · exact fun cs => hopening _ cs rfl (by decide)
  · exact fun cs => hopening _ cs rfl (by decide)
  · exact fun cs => hopening _ cs rfl (by decide)

theorem isScalarChar_of_mem_hexadecimal {n : Nat} {c : Char} (h : c ∈ hexadecimal n) :
    isScalarChar c = true := by
  have hall : ∀ d < 16, isScalarChar (Http.hexChar d) = true := by decide
  rcases List.mem_cons.1 h with rfl | h
  · rfl
  rcases List.mem_cons.1 h with rfl | h
  · rfl
  · obtain ⟨d, hd, rfl⟩ := exists_of_mem_hexDigits h
    exact hall d hd

/-- Whatever way a value is written, it is read at the end of a line. -/
theorem readValue_of_spelled {v : Value} {cs : List Char} (h : Spelled v cs) {fuel : Nat}
    (hfuel : cs.length ≤ fuel) (rest : List Char) :
    readValue (fuel + 1) nestingLimit (cs ++ '\n' :: rest) = some (v, '\n' :: rest) := by
  cases h with
  | string text =>
    exact readValue_quoted (Nat.le_succ_of_le hfuel)
      fun h => absurd (Option.some.inj h) (by decide)
  | boolean value => cases value <;> exact readValue_line (List.all_eq_true.1 rfl) rfl
  | integer h =>
    exact readValue_line (fun c hc => isScalarChar_of_mem_hexadecimal hc) (scalar?_hexadecimal h)
  | array texts =>
    have hread : readElements fuel 79 (unbracketed texts ++ '\n' :: rest)
        = some (texts.map .string, '\n' :: rest) :=
      readElements_unbracketed (Nat.le_of_succ_le hfuel)
    have hopened : readValue (fuel + 1) nestingLimit ('[' :: (unbracketed texts ++ '\n' :: rest))
        = (readElements fuel 79 (unbracketed texts ++ '\n' :: rest)).map
          fun read => (.array read.1, read.2) := rfl
    rw [List.cons_append, hopened, hread]
    rfl

/-! ### Lines -/

/-- Whether a key can be written without quotes. -/
def IsBare (key : String) : Prop := key ≠ "" ∧ key.toList.all isBareKeyChar = true

instance (key : String) : Decidable (IsBare key) := inferInstanceAs (Decidable (_ ∧ _))

/-- The line that gives a key a value. -/
def line (key : String) (value : List Char) : List Char :=
  key.toList ++ " = ".toList ++ value ++ ['\n']

theorem ne_of_isBareKeyChar {c d : Char} (hc : isBareKeyChar c = true)
    (hd : isBareKeyChar d = false) : c ≠ d := by
  rintro rfl
  rw [hc] at hd
  cases hd

theorem isBlankChar_of_isBareKeyChar {c : Char} (h : isBareKeyChar c = true) :
    isBlankChar c = false := by
  rw [isBlankChar, Bool.or_eq_false_iff, beq_eq_false_iff_ne, beq_eq_false_iff_ne]
  exact ⟨ne_of_isBareKeyChar h rfl, ne_of_isBareKeyChar h rfl⟩

theorem exists_bare_head {key : String} (hkey : IsBare key) :
    ∃ c cs, key.toList = c :: cs ∧ isBareKeyChar c = true := by
  cases h : key.toList with
  | nil => exact absurd (String.toList_eq_nil_iff.1 h) hkey.1
  | cons c cs => exact ⟨c, cs, rfl, List.all_eq_true.1 hkey.2 c (h ▸ List.mem_cons_self ..)⟩

theorem readKeyPart_bare {key : String} (hkey : IsBare key) (fuel : Nat) {d : Char}
    (hd : isBareKeyChar d = false) (rest : List Char) :
    readKeyPart fuel (key.toList ++ d :: rest) = some (key, d :: rest) := by
  have hall := List.all_eq_true.1 hkey.2
  have hbare : (key.toList ++ d :: rest).takeWhile isBareKeyChar = key.toList := by
    rw [List.takeWhile_append_of_pos hall, List.takeWhile_cons_of_neg (by simp [hd]),
      List.append_nil]
  have hafter : (key.toList ++ d :: rest).dropWhile isBareKeyChar = d :: rest := by
    rw [List.dropWhile_append_of_pos hall, List.dropWhile_cons_of_neg (by simp [hd])]
  have hne : key.toList ≠ [] := fun h => hkey.1 (String.toList_eq_nil_iff.1 h)
  obtain ⟨c, cs, hchars, hc⟩ := exists_bare_head hkey
  have hfirst : ∀ e es, isBareKeyChar e = false → key.toList ++ d :: rest ≠ e :: es := by
    intro e es he heq
    rw [hchars] at heq
    exact ne_of_isBareKeyChar hc he (List.cons.inj heq).1
  unfold readKeyPart
  split
  · next heq => exact absurd heq (hfirst _ _ rfl)
  · next heq => exact absurd heq (hfirst _ _ rfl)
  · rw [hbare, hafter, if_neg hne, String.ofList_toList]

theorem readKey_bare {key : String} (hkey : IsBare key) (fuel : Nat) (rest : List Char) :
    readKey (fuel + 1) (key.toList ++ ' ' :: '=' :: rest) = some ([key], '=' :: rest) := by
  obtain ⟨c, cs, hchars, hc⟩ := exists_bare_head hkey
  have hblanks : dropBlanks (key.toList ++ ' ' :: '=' :: rest)
      = key.toList ++ ' ' :: '=' :: rest := by
    rw [hchars]
    exact List.dropWhile_cons_of_neg (by simp [isBlankChar_of_isBareKeyChar hc])
  rw [readKey, readParts, hblanks, readKeyPart_bare hkey fuel rfl]
  rfl

theorem dropGaps_bare {key : String} (hkey : IsBare key) (rest : List Char) :
    dropGaps (key.toList ++ rest) = key.toList ++ rest := by
  obtain ⟨c, cs, hchars, hc⟩ := exists_bare_head hkey
  rw [hchars, List.cons_append, dropGaps, dropGapsFrom, if_neg (ne_of_isBareKeyChar hc rfl),
    if_neg (ne_of_isBareKeyChar hc rfl), if_neg (by decide),
    if_neg (by simp [isBlankChar_of_isBareKeyChar hc]), if_neg (ne_of_isBareKeyChar hc rfl)]

theorem dropBlanks_of_spelled {v : Value} {cs : List Char} (h : Spelled v cs) (rest : List Char) :
    dropBlanks (' ' :: (cs ++ rest)) = cs ++ rest := by
  cases h with
  | boolean value => cases value <;> rfl
  | _ => rfl

theorem define_new {key : String} {entries : Entries} (h : key ∉ entries.map Prod.fst) (v : Value) :
    define [key] v entries = some (entries ++ [(key, .value v)]) := by
  have hne : ∀ e ∈ entries, ¬ (e.1 == key) = true := by
    intro e he hkey
    exact h (List.mem_map.2 ⟨e, he, beq_iff_eq.1 hkey⟩)
  have hfind : entryAt? key entries = none := by
    rw [entryAt?, List.find?_eq_none.2 hne]
    rfl
  have hany : ¬ entries.any (·.1 == key) = true := by
    intro hany
    obtain ⟨e, he, hkey⟩ := List.any_eq_true.1 hany
    exact hne e he hkey
  rw [define, hfind, setEntry, if_neg hany]

theorem readBody_line {key : String} (hkey : IsBare key) {v : Value} {cs : List Char}
    (hv : Spelled v cs) {entries : Entries} (hnew : key ∉ entries.map Prod.fst) {fuel : Nat}
    (hfuel : cs.length ≤ fuel) (rest : List Char) :
    readBody (fuel + 1) [] entries (line key cs ++ rest)
      = readBody fuel [] (entries ++ [(key, .value v)]) rest := by
  have hline : line key cs ++ rest
      = key.toList ++ ' ' :: '=' :: ' ' :: (cs ++ '\n' :: rest) := by
    simp [line]
  have hvalue := readValue_of_spelled hv hfuel rest
  have hkeyRead := readKey_bare hkey fuel (' ' :: (cs ++ '\n' :: rest))
  obtain ⟨c, ds, hchars, hc⟩ := exists_bare_head hkey
  rw [hline, readBody, dropGaps_bare hkey]
  -- The key's first character is no bracket, so that the line is not the head of a table.
  split
  · next heq => exact absurd (List.append_eq_nil_iff.1 heq).2 (by simp)
  · next heq =>
    rw [hchars] at heq
    exact absurd (List.cons.inj heq).1 (ne_of_isBareKeyChar hc rfl)
  · next heq =>
    rw [hchars] at heq
    exact absurd (List.cons.inj heq).1 (ne_of_isBareKeyChar hc rfl)
  · rw [hkeyRead]
    change (readValue (fuel + 1) nestingLimit (dropBlanks (' ' :: (cs ++ '\n' :: rest)))).bind _ = _
    rw [dropBlanks_of_spelled hv, hvalue]
    change (define [key] v entries).bind _ = _
    rw [define_new hnew]
    rfl

/-! ### Documents -/

/-- Documents that have a line for each entry of a table. -/
inductive Lists : List (String × Value) → List Char → Prop
  | nothing : Lists [] []
  | line {key : String} {v : Value} {cs rest : List Char} {entries : List (String × Value)}
    (hkey : IsBare key) (hv : Spelled v cs) (hrest : Lists entries rest) :
    Lists ((key, v) :: entries) (line key cs ++ rest)

theorem exists_lists {table : List (String × Value)} (hkeys : ∀ e ∈ table, IsBare e.1)
    (hvalues : ∀ e ∈ table, ∃ cs, Spelled e.2 cs) : ∃ cs, Lists table cs := by
  induction table with
  | nil => exact ⟨[], .nothing⟩
  | cons e table ih =>
    obtain ⟨cs, hcs⟩ := hvalues e (List.mem_cons_self ..)
    obtain ⟨rest, hrest⟩ := ih (fun e he => hkeys e (List.mem_cons_of_mem _ he))
      (fun e he => hvalues e (List.mem_cons_of_mem _ he))
    exact ⟨_, .line (hkeys e (List.mem_cons_self ..)) hcs hrest⟩

theorem length_line (key : String) (value : List Char) :
    value.length < (line key value).length := by
  simp only [line, List.length_append, List.length_singleton]
  omega

theorem readBody_lists {table : List (String × Value)} {cs : List Char} (h : Lists table cs)
    {entries : Entries} (hdistinct : (entries.map Prod.fst ++ table.map Prod.fst).Nodup)
    {fuel : Nat} (hfuel : cs.length < fuel) :
    readBody fuel [] entries cs = some (entries ++ table.map fun (key, v) => (key, .value v)) := by
  induction h generalizing entries fuel with
  | nothing =>
    obtain ⟨fuel, rfl⟩ := Nat.exists_eq_add_of_lt hfuel
    rw [List.map_nil, List.append_nil]
    rfl
  | @line key v cs rest table hkey hv hrest ih =>
    have hlength := length_line key cs
    rw [List.length_append] at hfuel
    obtain ⟨fuel, rfl⟩ : ∃ n, fuel = n + 1 := Nat.exists_eq_succ_of_ne_zero (by omega)
    have hnew : key ∉ entries.map Prod.fst := fun hmem =>
      (List.nodup_append.1 hdistinct).2.2 key hmem key (List.mem_cons_self ..) rfl
    have hothers :
        ((entries ++ [(key, Entry.value v)]).map Prod.fst ++ table.map Prod.fst).Nodup := by
      simpa using hdistinct
    have hvalue : cs.length ≤ fuel := by omega
    have hlines : rest.length < fuel := by omega
    rw [readBody_line hkey hv hnew hvalue, ih hothers hlines, List.append_assoc]
    rfl

theorem entriesToValues_values (table : List (String × Value)) :
    entriesToValues (table.map fun (key, v) => (key, .value v)) = table := by
  induction table with
  | nil => rfl
  | cons entry table ih =>
    rw [List.map_cons, entriesToValues, ih, Entry.toValue]

theorem dropMark_of_lists {table : List (String × Value)} {cs : List Char} (h : Lists table cs) :
    dropMark cs = cs := by
  cases h with
  | nothing => rfl
  | line hkey hv hrest =>
    obtain ⟨c, ds, hchars, hc⟩ := exists_bare_head hkey
    unfold dropMark
    split
    · next heq =>
      rw [line, hchars] at heq
      exact absurd (List.cons.inj heq).1 (ne_of_isBareKeyChar hc rfl)
    · rfl

/-- A document is read as the table whose entries it has lines for. -/
theorem readDocument_of_lists {table : List (String × Value)} {cs : List Char} (h : Lists table cs)
    (hdistinct : (table.map Prod.fst).Nodup) : readDocument (String.ofList cs) = some table := by
  have hread : readBody (cs.length + 1) [] [] cs
      = some ([] ++ table.map fun (key, v) => (key, .value v)) :=
    @readBody_lists table cs h [] hdistinct _ (Nat.lt_succ_self cs.length)
  rw [readDocument, String.toList_ofList, dropMark_of_lists h, hread, List.nil_append,
    Option.map_some, entriesToValues_values]

end IdlBuild.Toml
