import IdlBuild.CommandLine.Reading
import IdlBuild.Proofs.Texts.Decimals
import IdlBuild.Proofs.Texts.Utf8
import Mathlib.Data.List.Induction
import Mathlib.Tactic.FinCases

/-!
# Command lines that read back

A choice can be spelled in several ways, and a command line spells its choices one after another. It
is read as the choices that it gathers, whichever way each of them is spelled and however they are
mixed (`read_written`): what is read of an argument depends on nothing that stands before it, and a
value is taken as it is, even if it looks like an option.
-/

namespace IdlBuild.CommandLine

open Text (Bytes encode)

/-! ### What choices come to -/

/-- What some choices come to: of a setting with one value the last one counts, and the elements of
a list keep their order. -/
structure Choices.Gathers (o : Choices) (cs : List Choice) : Prop where
  settingsFile : o.settingsFile =
    (cs.filterMap fun | .settingsFile path => some path | _ => .none).getLast?
  translator : o.translator =
    (cs.filterMap fun | .translator text => some text | _ => .none).getLast?
  translatorArguments : o.translatorArguments =
    cs.filterMap fun | .translatorArgument text => some text | _ => .none
  inputs : o.inputs = cs.filterMap fun | .input text => some text | _ => .none
  excluded : o.excluded = (cs.filterMap fun | .excluded text => some text | _ => .none).getLast?
  immutable : o.immutable =
    (cs.filterMap fun | .immutable value => some value | _ => .none).getLast?
  basePackage : o.basePackage =
    (cs.filterMap fun | .basePackage text => some text | _ => .none).getLast?
  outputRoot : o.outputRoot =
    (cs.filterMap fun | .outputRoot path => some path | _ => .none).getLast?
  clearFirst : o.clearFirst =
    (cs.filterMap fun | .clearFirst value => some value | _ => .none).getLast?
  generator : o.generator = (cs.filterMap fun | .generator text => some text | _ => .none).getLast?
  generatorArguments : o.generatorArguments =
    cs.filterMap fun | .generatorArgument text => some text | _ => .none
  secondsAllowed : o.secondsAllowed =
    (cs.filterMap fun | .secondsAllowed seconds => some seconds | _ => .none).getLast?

theorem Choices.Gathers.unique {o o' : Choices} {cs : List Choice} (h : o.Gathers cs)
    (h' : o'.Gathers cs) : o = o' := by
  rcases o with ⟨⟩
  rcases o' with ⟨⟩
  rw [Choices.mk.injEq]
  exact ⟨h.settingsFile.trans h'.settingsFile.symm, h.translator.trans h'.translator.symm,
    h.translatorArguments.trans h'.translatorArguments.symm, h.inputs.trans h'.inputs.symm,
    h.excluded.trans h'.excluded.symm, h.immutable.trans h'.immutable.symm,
    h.basePackage.trans h'.basePackage.symm, h.outputRoot.trans h'.outputRoot.symm,
    h.clearFirst.trans h'.clearFirst.symm, h.generator.trans h'.generator.symm,
    h.generatorArguments.trans h'.generatorArguments.symm,
    h.secondsAllowed.trans h'.secondsAllowed.symm⟩

theorem getLast?_filterMap_append {α : Type} (f : Choice → Option α) (cs : List Choice)
    (c : Choice) : ((cs ++ [c]).filterMap f).getLast? = (f c).or (cs.filterMap f).getLast? := by
  rw [List.filterMap_append, List.getLast?_append]
  cases hc : f c <;> simp [hc]

theorem filterMap_append_single {α : Type} (f : Choice → Option α) (cs : List Choice)
    (c : Choice) : (cs ++ [c]).filterMap f = cs.filterMap f ++ (f c).toList := by
  rw [List.filterMap_append]
  cases hc : f c <;> simp [hc]

theorem Choices.Gathers.add {o : Choices} {cs : List Choice} (h : o.Gathers cs) (c : Choice) :
    (o.add c).Gathers (cs ++ [c]) where
  settingsFile := by rw [getLast?_filterMap_append, ← h.settingsFile]; cases c <;> rfl
  translator := by rw [getLast?_filterMap_append, ← h.translator]; cases c <;> rfl
  translatorArguments := by
    rw [filterMap_append_single, ← h.translatorArguments]
    cases c <;> simp [Choices.add]
  inputs := by
    rw [filterMap_append_single, ← h.inputs]
    cases c <;> simp [Choices.add]
  excluded := by rw [getLast?_filterMap_append, ← h.excluded]; cases c <;> rfl
  immutable := by rw [getLast?_filterMap_append, ← h.immutable]; cases c <;> rfl
  basePackage := by rw [getLast?_filterMap_append, ← h.basePackage]; cases c <;> rfl
  outputRoot := by rw [getLast?_filterMap_append, ← h.outputRoot]; cases c <;> rfl
  clearFirst := by rw [getLast?_filterMap_append, ← h.clearFirst]; cases c <;> rfl
  generator := by rw [getLast?_filterMap_append, ← h.generator]; cases c <;> rfl
  generatorArguments := by
    rw [filterMap_append_single, ← h.generatorArguments]
    cases c <;> simp [Choices.add]
  secondsAllowed := by rw [getLast?_filterMap_append, ← h.secondsAllowed]; cases c <;> rfl

theorem gathers_foldl (cs : List Choice) : (cs.foldl Choices.add .none).Gathers cs := by
  induction cs using List.reverseRecOn with
  | nil => constructor <;> rfl
  | append_singleton cs c ih =>
    rw [List.foldl_append]
    exact ih.add c

/-! ### Spellings -/

/-- The names of the option that makes a choice. -/
def Choice.names : Choice → List OptionName
  | .settingsFile _ => [.short 'c', .long "config"]
  | .translator _ => [.short 't', .long "translator"]
  | .translatorArgument _ => [.long "translator-arg"]
  | .input _ => [.short 'i', .long "idl-files"]
  | .excluded _ => [.short 'x', .long "exclude"]
  | .immutable _ => [.long "immutable"]
  | .basePackage _ => [.short 'p', .long "base-package"]
  | .outputRoot _ => [.short 'o', .long "output-dir"]
  | .clearFirst _ => [.long "clean"]
  | .generator _ => [.short 'g', .long "generator"]
  | .generatorArgument _ => [.long "generator-arg"]
  | .secondsAllowed _ => [.long "timeout"]

/-- What the option that makes a choice does. -/
def Choice.kind : Choice → OptionKind
  | .settingsFile _ => .valued (readPath .settingsFile)
  | .translator _ => .valued (readText .translator)
  | .translatorArgument _ => .valued (readText .translatorArgument)
  | .input _ => .valued (readText .input)
  | .excluded _ => .valued (readText .excluded)
  | .immutable _ => .flag .immutable
  | .basePackage _ => .valued (readText .basePackage)
  | .outputRoot _ => .valued (readPath .outputRoot)
  | .clearFirst _ => .flag .clearFirst
  | .generator _ => .valued (readText .generator)
  | .generatorArgument _ => .valued (readText .generatorArgument)
  | .secondsAllowed _ => .valued (readNumber .secondsAllowed)

/-- Whether an option's name is told from what stands around it: no letter is a dash, and a word is
not empty and holds no equals sign. -/
def OptionName.Plain : OptionName → Prop
  | .short letter => letter ≠ '-'
  | .long name => equalsSign ∉ encode name ∧ name ≠ ""

instance : DecidablePred OptionName.Plain
  | .short letter => inferInstanceAs (Decidable (letter ≠ '-'))
  | .long name => inferInstanceAs (Decidable (equalsSign ∉ encode name ∧ name ≠ ""))

/-- The values that make a choice. A path is taken as its bytes are; a number may be written with a
plus sign and with zeros. -/
inductive Choice.ValuedBy : Choice → Bytes → Prop
  | settingsFile (path : Path) : ValuedBy (.settingsFile path) path.bytes
  | translator (text : String) : ValuedBy (.translator text) (encode text)
  | translatorArgument (text : String) : ValuedBy (.translatorArgument text) (encode text)
  | input (text : String) : ValuedBy (.input text) (encode text)
  | excluded (text : String) : ValuedBy (.excluded text) (encode text)
  | basePackage (text : String) : ValuedBy (.basePackage text) (encode text)
  | outputRoot (path : Path) : ValuedBy (.outputRoot path) path.bytes
  | generator (text : String) : ValuedBy (.generator text) (encode text)
  | generatorArgument (text : String) : ValuedBy (.generatorArgument text) (encode text)
  | secondsAllowed (plus : Bool) (zeros : Nat) {seconds : Nat} (h : seconds < 2 ^ 64) :
    ValuedBy (.secondsAllowed seconds) (encode (Text.written plus zeros seconds))

/-- The choices that are flags. -/
inductive Choice.IsFlag : Choice → Bool → Prop
  | immutable (value : Bool) : IsFlag (.immutable value) value
  | clearFirst (value : Bool) : IsFlag (.clearFirst value) value

/-- Whether a text is `true`, blanks around it aside. -/
def MeansTrue (text : String) : Prop :=
  ∃ before after, (∀ c ∈ before, Text.isBlank c = true) ∧ (∀ c ∈ after, Text.isBlank c = true) ∧
    text.toList = before ++ "true".toList ++ after

/-- The arguments that spell a choice. -/
inductive Choice.Spelled : Choice → List Bytes → Prop
  /-- The option and its value, which may look like an option, too. -/
  | apart {c : Choice} {name : OptionName} {value : Bytes} (hname : name ∈ c.names)
    (hvalue : c.ValuedBy value) : Spelled c [encode name.shown, value]
  | long {c : Choice} {name : String} {value : Bytes} (hname : .long name ∈ c.names)
    (hvalue : c.ValuedBy value) : Spelled c [encode ("--" ++ name ++ "=") ++ value]
  | short {c : Choice} {letter : Char} {value : Bytes} (hname : .short letter ∈ c.names)
    (hvalue : c.ValuedBy value) : Spelled c [encode ("-" ++ letter.toString ++ "=") ++ value]
  | joined {c : Choice} {letter : Char} {value : Bytes} (hname : .short letter ∈ c.names)
    (hvalue : c.ValuedBy value) (hne : value ≠ []) (hequals : value.head? ≠ some equalsSign) :
    Spelled c [encode ("-" ++ letter.toString) ++ value]
  | flag {c : Choice} {name : String} (hname : .long name ∈ c.names) (hflag : c.IsFlag true) :
    Spelled c [encode ("--" ++ name)]
  | flagWith {c : Choice} {name value : String} {set : Bool} (hname : .long name ∈ c.names)
    (hflag : c.IsFlag set) (hvalue : set = true ↔ MeansTrue value) :
    Spelled c [encode ("--" ++ name ++ "=" ++ value)]
  /-- An argument that does not begin with a dash, or is one. -/
  | positional {text : String} (h : text.toList.head? ≠ some '-' ∨ text = "-") :
    Spelled (.input text) [encode text]

/-- The command lines that spell some choices one after another. After two dashes everything is an
input. -/
inductive Written : List Choice → List Bytes → Prop
  | nothing : Written [] []
  | choice {c : Choice} {cs : List Choice} {first rest : List Bytes} (hfirst : c.Spelled first)
    (hrest : Written cs rest) : Written (c :: cs) (first ++ rest)
  | inputs (texts : List String) :
    Written (texts.map .input) (encode "--" :: texts.map encode)

/-! ### Single arguments -/

theorem read_of_head {text : String} (h : text.toList.head? ≠ some '-' ∨ text = "-") :
    Argument.read (encode text) = .positional (encode text) := by
  rcases h with h | rfl
  · unfold Argument.read
    cases hbytes : encode text with
    | nil => rfl
    | cons b bs =>
      cases bs with
      | nil => rfl
      | cons b' bs =>
        have hdash : b ≠ dash := by
          rintro rfl
          exact h (Text.head?_of_encode hbytes (by decide))
        exact if_neg hdash
  · rfl

theorem read_long {name : String} (hname : equalsSign ∉ encode name) (value : Bytes) :
    Argument.read (encode ("--" ++ name ++ "=") ++ value)
      = .named (.long name) (some value) := by
  have hbytes : encode ("--" ++ name ++ "=") ++ value
      = dash :: dash :: (encode name ++ equalsSign :: value) := by
    rw [Text.encode_append, Text.encode_append]
    simp only [List.append_assoc]
    rfl
  have hcut := Text.cutFirst_append hname value
  rw [hbytes, Argument.read, if_pos rfl, if_pos rfl, if_neg (by simp), Argument.ofLong, hcut]
  dsimp only
  rw [Text.decodeLossy_encode]

theorem read_bareLong {name : String} (hname : equalsSign ∉ encode name) (hne : name ≠ "") :
    Argument.read (encode ("--" ++ name)) = .named (.long name) none := by
  have hbytes : encode ("--" ++ name) = dash :: dash :: encode name := by
    rw [Text.encode_append]
    rfl
  have hrest : encode name ≠ [] := fun h => hne (Text.encode_eq_nil_iff.1 h)
  rw [hbytes, Argument.read, if_pos rfl, if_pos rfl, if_neg hrest, Argument.ofLong,
    Text.cutFirst_eq_none_iff.2 hname]
  dsimp only
  rw [Text.decodeLossy_encode]

theorem toList_toString (c : Char) : c.toString.toList = [c] := by
  rw [Char.toString, String.toList_singleton]

theorem read_short {letter : Char} (hletter : letter ≠ '-') (rest : Bytes) :
    Argument.read (encode ("-" ++ letter.toString) ++ rest)
      = .named (.short letter) (attachedToShort rest) := by
  have hletters : encode letter.toString = String.utf8EncodeChar letter := by
    rw [encode, toList_toString, List.flatMap_singleton]
  have hbytes : encode ("-" ++ letter.toString) ++ rest
      = dash :: (String.utf8EncodeChar letter ++ rest) := by
    rw [Text.encode_append, hletters]
    rfl
  have hparts : Text.parts (String.utf8EncodeChar letter ++ rest)
      = .char letter :: Text.parts rest :=
    Text.partsFrom_utf8EncodeChar letter rest
  -- The letter may have several bytes; what is attached begins after all of them.
  have hrest : (String.utf8EncodeChar letter ++ rest).drop (String.utf8EncodeChar letter).length
      = rest := List.drop_left
  rw [hbytes]
  cases hfirst : String.utf8EncodeChar letter with
  | nil => exact absurd hfirst String.utf8EncodeChar_ne_nil
  | cons b bs =>
    have hdash : b ≠ dash := by
      rintro rfl
      rw [← hletters] at hfirst
      have hhead := Text.head?_of_encode hfirst (by decide)
      rw [toList_toString] at hhead
      exact hletter (Option.some.inj hhead)
    rw [List.cons_append, Argument.read, if_pos rfl, if_neg hdash, ← List.cons_append, ← hfirst,
      Argument.ofShort, hparts]
    dsimp only
    rw [hrest]

theorem read_shown {name : OptionName} (h : name.Plain) :
    Argument.read (encode name.shown) = .named name none := by
  cases name with
  | short letter =>
    have hread := read_short h []
    rw [List.append_nil] at hread
    exact hread
  | long name => exact read_bareLong h.1 h.2

/-! ### Options -/

theorem plain_of_mem_names {c : Choice} {name : OptionName} (h : name ∈ c.names) : name.Plain := by
  cases c <;> fin_cases h <;> decide

theorem optionKind?_of_mem_names {c : Choice} {name : OptionName} (h : name ∈ c.names) :
    optionKind? name = some c.kind := by
  cases c <;> fin_cases h <;> rfl

theorem readText_encode (choice : String → Choice) (value : String) :
    readText choice (encode value) = .ok (choice value) := by
  rw [readText, Text.decode_encode]

theorem readNumber_written (choice : Nat → Choice) (plus : Bool) (zeros : Nat) {n : Nat}
    (hn : n < 2 ^ 64) :
    readNumber choice (encode (Text.written plus zeros n)) = .ok (choice n) := by
  rw [readNumber, Text.decode_encode]
  dsimp only
  rw [Text.readWord_written plus zeros hn]

/-- The option that makes a choice reads the choice from each of the values that make it. -/
theorem Choice.ValuedBy.option {c : Choice} {value : Bytes} (h : c.ValuedBy value)
    {name : OptionName} (hname : name ∈ c.names) :
    ∃ read, optionKind? name = some (.valued read) ∧ read value = .ok c := by
  rw [optionKind?_of_mem_names hname]
  cases h with
  | settingsFile | outputRoot => exact ⟨_, rfl, rfl⟩
  | secondsAllowed plus zeros h => exact ⟨_, rfl, readNumber_written _ plus zeros h⟩
  | _ => exact ⟨_, rfl, readText_encode ..⟩

theorem Choice.IsFlag.option {c : Choice} {set : Bool} (h : c.IsFlag set) {name : OptionName}
    (hname : name ∈ c.names) :
    ∃ choice, optionKind? name = some (.flag choice) ∧ choice set = c := by
  rw [optionKind?_of_mem_names hname]
  cases h <;> exact ⟨_, rfl, rfl⟩

theorem isSet_iff {text : String} : Settings.isSet text = true ↔ MeansTrue text := by
  rw [Settings.isSet, beq_iff_eq]
  constructor
  · intro h
    obtain ⟨before, after, hbefore, hafter, htext⟩ := Text.exists_padded text.toList
    exact ⟨before, after, hbefore, hafter, h ▸ htext⟩
  · rintro ⟨before, after, hbefore, hafter, htext⟩
    rw [htext]
    refine Text.trimmed_padded hbefore hafter (by decide) ?_ ?_
    · rintro c ⟨⟩
      rfl
    · rintro c ⟨⟩
      rfl

/-! ### Writing -/

/-- The choices that come to some choices, one kind after another. -/
def Choices.toList (o : Choices) : List Choice :=
  o.settingsFile.toList.map .settingsFile ++ o.translator.toList.map .translator ++
    o.translatorArguments.map .translatorArgument ++ o.inputs.map .input ++
    o.excluded.toList.map .excluded ++ o.immutable.toList.map .immutable ++
    o.basePackage.toList.map .basePackage ++ o.outputRoot.toList.map .outputRoot ++
    o.clearFirst.toList.map .clearFirst ++ o.generator.toList.map .generator ++
    o.generatorArguments.map .generatorArgument ++ o.secondsAllowed.toList.map .secondsAllowed

theorem getLast?_toList {α : Type} (a : Option α) : a.toList.getLast? = a := by
  cases a <;> rfl

theorem gathers_toList (o : Choices) : o.Gathers o.toList := by
  constructor <;> simp [Choices.toList, List.filterMap_map, getLast?_toList]

/-- Every choice can be spelled, a number only if it is in the range that is read. -/
theorem exists_spelled {c : Choice}
    (h : ∀ seconds, c = .secondsAllowed seconds → seconds < 2 ^ 64) : ∃ args, c.Spelled args := by
  have hunset : false = true ↔ MeansTrue "false" :=
    (Bool.eq_iff_iff.1 (by decide : false = Settings.isSet "false")).trans isSet_iff
  cases c with
  | settingsFile path => exact ⟨_, .apart (List.mem_cons_self ..) (.settingsFile path)⟩
  | translator text => exact ⟨_, .apart (List.mem_cons_self ..) (.translator text)⟩
  | translatorArgument text =>
    exact ⟨_, .apart (List.mem_cons_self ..) (.translatorArgument text)⟩
  | input text => exact ⟨_, .apart (List.mem_cons_self ..) (.input text)⟩
  | excluded text => exact ⟨_, .apart (List.mem_cons_self ..) (.excluded text)⟩
  | immutable value => cases value with
    | false => exact ⟨_, .flagWith (List.mem_cons_self ..) (.immutable false) hunset⟩
    | true => exact ⟨_, .flag (List.mem_cons_self ..) (.immutable true)⟩
  | basePackage text => exact ⟨_, .apart (List.mem_cons_self ..) (.basePackage text)⟩
  | outputRoot path => exact ⟨_, .apart (List.mem_cons_self ..) (.outputRoot path)⟩
  | clearFirst value => cases value with
    | false => exact ⟨_, .flagWith (List.mem_cons_self ..) (.clearFirst false) hunset⟩
    | true => exact ⟨_, .flag (List.mem_cons_self ..) (.clearFirst true)⟩
  | generator text => exact ⟨_, .apart (List.mem_cons_self ..) (.generator text)⟩
  | generatorArgument text =>
    exact ⟨_, .apart (List.mem_cons_self ..) (.generatorArgument text)⟩
  | secondsAllowed seconds =>
    exact ⟨_, .apart (List.mem_cons_self ..) (.secondsAllowed false 0 (h seconds rfl))⟩

/-- All choices can be written, in one way at least. -/
theorem exists_written (o : Choices)
    (h : ∀ seconds, o.secondsAllowed = some seconds → seconds < 2 ^ 64) :
    ∃ cs args, o.Gathers cs ∧ Written cs args := by
  suffices hwritten : ∀ cs : List Choice, (∀ seconds, .secondsAllowed seconds ∈ cs →
      seconds < 2 ^ 64) → ∃ args, Written cs args by
    obtain ⟨args, hargs⟩ := hwritten o.toList fun seconds hmem =>
      h seconds (by simpa [Choices.toList] using hmem)
    exact ⟨o.toList, args, gathers_toList o, hargs⟩
  intro cs hcs
  induction cs with
  | nil => exact ⟨[], .nothing⟩
  | cons c cs ih =>
    obtain ⟨rest, hrest⟩ := ih fun seconds hmem => hcs seconds (List.mem_cons_of_mem c hmem)
    obtain ⟨first, hfirst⟩ :=
      exists_spelled fun seconds heq => hcs seconds (heq ▸ List.mem_cons_self ..)
    exact ⟨first ++ rest, .choice hfirst hrest⟩

/-! ### Whole command lines -/

theorem readFrom_attached {name : OptionName} {read : Bytes → Except ArgumentFault Choice}
    {text value : Bytes} {c : Choice} (htext : Argument.read text = .named name (some value))
    (hkind : optionKind? name = some (.valued read)) (hread : read value = .ok c) (o : Choices)
    (rest : List Bytes) : readFrom o (text :: rest) = readFrom (o.add c) rest := by
  rw [readFrom, htext]
  dsimp only
  rw [hkind]
  dsimp only
  rw [hread]

theorem readFrom_apart {name : OptionName} {read : Bytes → Except ArgumentFault Choice}
    {text value : Bytes} {c : Choice} (htext : Argument.read text = .named name none)
    (hkind : optionKind? name = some (.valued read)) (hread : read value = .ok c) (o : Choices)
    (rest : List Bytes) : readFrom o (text :: value :: rest) = readFrom (o.add c) rest := by
  rw [readFrom, htext]
  dsimp only
  rw [hkind]
  dsimp only
  rw [hread]

theorem readFrom_flag {name : OptionName} {choice : Bool → Choice} {text : Bytes}
    (htext : Argument.read text = .named name none)
    (hkind : optionKind? name = some (.flag choice)) (o : Choices) (rest : List Bytes) :
    readFrom o (text :: rest) = readFrom (o.add (choice true)) rest := by
  rw [readFrom, htext]
  dsimp only
  rw [hkind]

theorem readFrom_flagWith {name : OptionName} {choice : Bool → Choice} {text : Bytes}
    {value : String} (htext : Argument.read text = .named name (some (encode value)))
    (hkind : optionKind? name = some (.flag choice)) (o : Choices) (rest : List Bytes) :
    readFrom o (text :: rest) = readFrom (o.add (choice (Settings.isSet value))) rest := by
  rw [readFrom, htext]
  dsimp only
  rw [hkind]
  dsimp only
  rw [Text.decode_encode]

theorem readFrom_positional {text : Bytes} {value : String}
    (htext : Argument.read text = .positional (encode value)) (o : Choices) (rest : List Bytes) :
    readFrom o (text :: rest) = readFrom (o.add (.input value)) rest := by
  rw [readFrom, htext]
  dsimp only
  rw [readText_encode]

theorem attachedToShort_joined {value : Bytes} (hne : value ≠ [])
    (hequals : value.head? ≠ some equalsSign) : attachedToShort value = some value := by
  cases value with
  | nil => exact absurd rfl hne
  | cons b bs => exact if_neg fun heq => hequals (congrArg some heq)

/-- However a choice is spelled, what is read of its arguments is the choice. -/
theorem readFrom_of_spelled {c : Choice} {args : List Bytes} (h : c.Spelled args)
    (o : Choices) (rest : List Bytes) :
    readFrom o (args ++ rest) = readFrom (o.add c) rest := by
  cases h with
  | apart hname hvalue =>
    obtain ⟨read, hkind, hread⟩ := hvalue.option hname
    exact readFrom_apart (read_shown (plain_of_mem_names hname)) hkind hread o rest
  | @long _ name value hname hvalue =>
    obtain ⟨read, hkind, hread⟩ := hvalue.option hname
    exact readFrom_attached (read_long (plain_of_mem_names hname).1 value) hkind hread o rest
  | @short _ letter value hname hvalue =>
    obtain ⟨read, hkind, hread⟩ := hvalue.option hname
    have hbytes : encode ("-" ++ letter.toString ++ "=") ++ value
        = encode ("-" ++ letter.toString) ++ equalsSign :: value := by
      rw [Text.encode_append, List.append_assoc]
      rfl
    have htext := read_short (plain_of_mem_names hname) (equalsSign :: value)
    rw [← hbytes] at htext
    exact readFrom_attached htext hkind hread o rest
  | @joined _ letter value hname hvalue hne hequals =>
    obtain ⟨read, hkind, hread⟩ := hvalue.option hname
    have htext := read_short (plain_of_mem_names hname) value
    rw [attachedToShort_joined hne hequals] at htext
    exact readFrom_attached htext hkind hread o rest
  | flag hname hflag =>
    -- The argument after it is left alone, since a flag takes a value only from its own.
    obtain ⟨choice, hkind, rfl⟩ := hflag.option hname
    obtain ⟨hequals, hne⟩ := plain_of_mem_names hname
    exact readFrom_flag (read_bareLong hequals hne) hkind o rest
  | @flagWith _ name value set hname hflag hvalue =>
    obtain ⟨choice, hkind, rfl⟩ := hflag.option hname
    have hset : set = Settings.isSet value := Bool.eq_iff_iff.2 (hvalue.trans isSet_iff.symm)
    have htext := read_long (plain_of_mem_names hname).1 (encode value)
    rw [← Text.encode_append] at htext
    have hread := readFrom_flagWith htext hkind o rest
    rwa [← hset] at hread
  | positional h => exact readFrom_positional (read_of_head h) o rest

theorem readInputs_encode (o : Choices) (texts : List String) :
    readInputs o (texts.map encode) = .ok ((texts.map .input).foldl Choices.add o) := by
  induction texts generalizing o with
  | nil => rfl
  | cons text texts ih =>
    rw [List.map_cons, readInputs, readText_encode]
    exact ih (o.add (.input text))

/-- What is read of a command line are the choices that it spells, added one after another. -/
theorem readFrom_of_written {cs : List Choice} {args : List Bytes} (h : Written cs args)
    (o : Choices) : readFrom o args = .ok (.build (cs.foldl Choices.add o)) := by
  induction h generalizing o with
  | nothing => exact readFrom_nil o
  | choice hfirst _ ih =>
    rw [readFrom_of_spelled hfirst]
    exact ih _
  | inputs texts =>
    have hterminator : Argument.read (encode "--") = .terminator := rfl
    rw [readFrom, hterminator, readInputs_encode]
    rfl

theorem readFrom_of_gathers {o : Choices} {cs : List Choice} {args : List Bytes}
    (hgathers : o.Gathers cs) (hwritten : Written cs args) :
    readFrom .none args = .ok (.build o) := by
  rw [readFrom_of_written hwritten, (gathers_foldl cs).unique hgathers]

/-- A command line is read as what the choices that it spells come to, whichever way it spells each
of them. -/
theorem read_written {o : Choices} {cs : List Choice} {args : List Bytes} (hgathers : o.Gathers cs)
    (hwritten : Written cs args) : read args = .ok (.build o) := by
  rw [read, readFrom_of_gathers hgathers hwritten]

theorem read_written_mixed :
    let o : Choices := { Choices.none with
      settingsFile := some ⟨"--"⟩
      inputs := ["file.idl", "--help", "-", "-t", "--"]
      excluded := some "-c"
      immutable := some false
      clearFirst := some true
      secondsAllowed := some 7 }
    let args : List Bytes := ["-c", "--", "-xa=b", "--clean= true ", "--immutable", "file.idl",
      "-i=--help", "--timeout", "+007", "-x", "-c", "--immutable=yes", "-", "--", "-t", "--"]
    ∃ cs, o.Gathers cs ∧ Written cs args ∧ read args = .ok (.build o) := by
  intro o args
  have hclean : true = true ↔ MeansTrue " true " :=
    (Bool.eq_iff_iff.1 (by decide : true = Settings.isSet " true ")).trans isSet_iff
  have himmutable : false = true ↔ MeansTrue "yes" :=
    (Bool.eq_iff_iff.1 (by decide : false = Settings.isSet "yes")).trans isSet_iff
  have hspelled :=
    Written.choice (.apart (.head _) (.settingsFile ⟨"--"⟩)) <|
    Written.choice (.joined (.head _) (.excluded "a=b") (by decide) (by decide)) <|
    Written.choice (.flagWith (.head _) (.clearFirst true) hclean) <|
    Written.choice (.flag (.head _) (.immutable true)) <|
    Written.choice (.positional (.inl (by decide : "file.idl".toList.head? ≠ some '-'))) <|
    Written.choice (.short (.head _) (.input "--help")) <|
    Written.choice (.apart (.head _) (.secondsAllowed true 2 (by decide : 7 < 2 ^ 64))) <|
    Written.choice (.apart (.head _) (.excluded "-c")) <|
    Written.choice (.flagWith (.head _) (.immutable false) himmutable) <|
    Written.choice (.positional (.inr (rfl : "-" = "-"))) <|
    Written.inputs ["-t", "--"]
  have hwritten : Written _ args := hspelled
  refine ⟨_, ?gathers, hwritten, read_written ?gathers hwritten⟩
  constructor <;> rfl

end IdlBuild.CommandLine
