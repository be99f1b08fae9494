import IdlBuild.Proofs.CommandLine.Spellings

/-!
# Command lines one after another

Reading a command line leaves nothing half done between two choices: no value is pending, no letters
of an argument are left, and no flag waits for the next argument. So a command line goes choice
after choice (`Proceeds`), and one that has come to its end can be followed by another one, whose
choices go on top of its own. Only two dashes change how later arguments are read, and only a
question ends the reading for good (`read_appended`).
-/

namespace IdlBuild.CommandLine

open Text (Bytes encode)

/-! ### How command lines go -/

/-- The arguments that make a choice. -/
inductive Choice.MadeBy : Choice → List Bytes → Prop
  | input {text value : Bytes} {c : Choice} (htext : Argument.read text = .positional value)
    (hvalue : readText .input value = .ok c) : MadeBy c [text]
  | attached {name : OptionName} {read : Bytes → Except ArgumentFault Choice} {text value : Bytes}
    {c : Choice} (htext : Argument.read text = .named name (some value))
    (hkind : optionKind? name = some (.valued read)) (hvalue : read value = .ok c) :
    MadeBy c [text]
  /-- The value is the next argument, whatever it looks like. -/
  | apart {name : OptionName} {read : Bytes → Except ArgumentFault Choice} {text value : Bytes}
    {c : Choice} (htext : Argument.read text = .named name none)
    (hkind : optionKind? name = some (.valued read)) (hvalue : read value = .ok c) :
    MadeBy c [text, value]
  | flag {name : OptionName} {choice : Bool → Choice} {text : Bytes}
    (htext : Argument.read text = .named name none)
    (hkind : optionKind? name = some (.flag choice)) : MadeBy (choice true) [text]
  | flagWith {name : OptionName} {choice : Bool → Choice} {text value : Bytes} {said : String}
    (htext : Argument.read text = .named name (some value))
    (hkind : optionKind? name = some (.flag choice)) (hvalue : Text.decode value = some said) :
    MadeBy (choice (Settings.isSet said)) [text]

/-- The arguments that end the reading, and how: with a question, or with a fault that no later
argument can mend. -/
inductive Stops : List Bytes → Except ArgumentFault Asked → Prop
  | help {name : OptionName} {text : Bytes} {value : Option Bytes}
    (htext : Argument.read text = .named name value) (hkind : optionKind? name = some .help) :
    Stops [text] (.ok .help)
  | version {name : OptionName} {text : Bytes} {value : Option Bytes}
    (htext : Argument.read text = .named name value) (hkind : optionKind? name = some .version) :
    Stops [text] (.ok .version)
  | unknown {name : OptionName} {text : Bytes} {value : Option Bytes}
    (htext : Argument.read text = .named name value) (hkind : optionKind? name = none) :
    Stops [text] (.error (.unknownOption name))
  | input {text value : Bytes} {fault : ArgumentFault}
    (htext : Argument.read text = .positional value)
    (hvalue : readText .input value = .error fault) : Stops [text] (.error fault)
  | attached {name : OptionName} {read : Bytes → Except ArgumentFault Choice} {text value : Bytes}
    {fault : ArgumentFault} (htext : Argument.read text = .named name (some value))
    (hkind : optionKind? name = some (.valued read)) (hvalue : read value = .error fault) :
    Stops [text] (.error fault)
  | apart {name : OptionName} {read : Bytes → Except ArgumentFault Choice} {text value : Bytes}
    {fault : ArgumentFault} (htext : Argument.read text = .named name none)
    (hkind : optionKind? name = some (.valued read)) (hvalue : read value = .error fault) :
    Stops [text, value] (.error fault)
  | flagWith {name : OptionName} {choice : Bool → Choice} {text value : Bytes}
    (htext : Argument.read text = .named name (some value))
    (hkind : optionKind? name = some (.flag choice)) (hvalue : Text.decode value = none) :
    Stops [text] (.error (.notText value))

/-- How a command line goes: choice after choice, until it comes to its end, to two dashes, to what
ends the reading, or to an option that is left without its value. -/
inductive Proceeds : List Bytes → Prop
  | nothing : Proceeds []
  | choice {c : Choice} {used rest : List Bytes} (hused : c.MadeBy used) (hrest : Proceeds rest) :
    Proceeds (used ++ rest)
  | inputs (texts : List Bytes) : Proceeds ([dash, dash] :: texts)
  | stopped {used : List Bytes} {outcome : Except ArgumentFault Asked} (hused : Stops used outcome)
    (rest : List Bytes) : Proceeds (used ++ rest)
  | waiting {name : OptionName} {read : Bytes → Except ArgumentFault Choice} {text : Bytes}
    (htext : Argument.read text = .named name none)
    (hkind : optionKind? name = some (.valued read)) : Proceeds [text]

/-- Whether the options of a command line are ended: by two dashes that are no value and stand
behind nothing but choices. -/
inductive EndsOptions : List Bytes → Prop
  | here (texts : List Bytes) : EndsOptions ([dash, dash] :: texts)
  | later {c : Choice} {used rest : List Bytes} (hused : c.MadeBy used)
    (hrest : EndsOptions rest) : EndsOptions (used ++ rest)

theorem eq_dashes_of_read {text : Bytes} (h : Argument.read text = .terminator) :
    text = [dash, dash] := by
  unfold Argument.read at h
  split at h
  · next first second rest =>
    split_ifs at h with hfirst hsecond hrest
    · rw [hfirst, hsecond, hrest]
    · unfold Argument.ofLong at h
      split at h <;> cases h
    · unfold Argument.ofShort at h
      split at h <;> cases h
  · cases h

/-- Every command line goes in one of these ways, argument by argument as it is read. -/
theorem proceeds (args : List Bytes) : Proceeds args := by
  fun_induction readFrom .none args with
  | case1 => exact .nothing
  | case2 o text texts htext => exact eq_dashes_of_read htext ▸ .inputs texts
  | case3 o text rest value htext fault hvalue => exact .stopped (.input htext hvalue) rest
  | case4 o text rest value htext c hvalue ih => exact .choice (.input htext hvalue) ih
  | case5 o text rest name value htext hkind => exact .stopped (.unknown htext hkind) rest
  | case6 o text rest name value htext hkind => exact .stopped (.help htext hkind) rest
  | case7 o text rest name value htext hkind => exact .stopped (.version htext hkind) rest
  | case8 o text rest name choice hkind htext ih => exact .choice (.flag htext hkind) ih
  | case9 o text rest name choice hkind value hvalue htext =>
    exact .stopped (.flagWith htext hkind hvalue) rest
  | case10 o text rest name choice hkind value said hvalue htext ih =>
    exact .choice (.flagWith htext hkind hvalue) ih
  | case11 o text rest name read hkind value fault hvalue htext =>
    exact .stopped (.attached htext hkind hvalue) rest
  | case12 o text rest name read hkind value c hvalue htext ih =>
    exact .choice (.attached htext hkind hvalue) ih
  | case13 o text name read hkind htext => exact .waiting htext hkind
  | case14 o text name read hkind value rest fault hvalue htext =>
    exact .stopped (.apart htext hkind hvalue) rest
  | case15 o text name read hkind value rest c hvalue htext ih =>
    exact .choice (.apart htext hkind hvalue) ih

/-! ### What is read of them -/

/-- The arguments of a choice add it to what has been chosen, and no more. -/
theorem Choice.MadeBy.readFrom {c : Choice} {used : List Bytes} (h : c.MadeBy used) (o : Choices)
    (rest : List Bytes) : readFrom o (used ++ rest) = readFrom (o.add c) rest := by
  cases h with
  | input htext hvalue => simp [CommandLine.readFrom, htext, hvalue]
  | attached htext hkind hvalue => exact readFrom_attached htext hkind hvalue o rest
  | apart htext hkind hvalue => exact readFrom_apart htext hkind hvalue o rest
  | flag htext hkind => exact readFrom_flag htext hkind o rest
  | flagWith htext hkind hvalue => simp [CommandLine.readFrom, htext, hkind, hvalue]

theorem Stops.readFrom {used : List Bytes} {outcome : Except ArgumentFault Asked}
    (h : Stops used outcome) (o : Choices) (rest : List Bytes) :
    readFrom o (used ++ rest) = outcome := by
  cases h with
  | help htext hkind => simp [CommandLine.readFrom, htext, hkind]
  | version htext hkind => simp [CommandLine.readFrom, htext, hkind]
  | unknown htext hkind => simp [CommandLine.readFrom, htext, hkind]
  | input htext hvalue => simp [CommandLine.readFrom, htext, hvalue]
  | attached htext hkind hvalue => simp [CommandLine.readFrom, htext, hkind, hvalue]
  | apart htext hkind hvalue => simp [CommandLine.readFrom, htext, hkind, hvalue]
  | flagWith htext hkind hvalue => simp [CommandLine.readFrom, htext, hkind, hvalue]

theorem Stops.ne_build {used : List Bytes} {outcome : Except ArgumentFault Asked}
    (h : Stops used outcome) (o : Choices) : outcome ≠ .ok (.build o) := by
  cases h <;> simp

theorem readFrom_dashes (o : Choices) (texts : List Bytes) :
    readFrom o ([dash, dash] :: texts) = (readInputs o texts).map .build := rfl

theorem readFrom_waiting {name : OptionName} {read : Bytes → Except ArgumentFault Choice}
    {text : Bytes} (htext : Argument.read text = .named name none)
    (hkind : optionKind? name = some (.valued read)) (o : Choices) :
    readFrom o [text] = .error (.missingValue name) := by
  simp [readFrom, htext, hkind]

/-- Behind the end of the options no question is heard. -/
theorem EndsOptions.readFrom_ne_help {args : List Bytes} (h : EndsOptions args) (o : Choices)
    (more : List Bytes) : readFrom o (args ++ more) ≠ .ok .help := by
  induction h generalizing o with
  | here texts =>
    rw [List.cons_append, readFrom_dashes]
    cases readInputs o (texts ++ more) <;> simp [Except.map]
  | later hused hrest ih =>
    rw [List.append_assoc, hused.readFrom]
    exact ih _

/-! ### Choices on top of others -/

/-- What is asked for on top of earlier choices. -/
def Asked.after (earlier : Choices) : Asked → Asked
  | .build later => .build (earlier.followedBy later)
  | .help => .help
  | .version => .version

theorem Choices.followedBy_none (o : Choices) : o.followedBy .none = o := by
  simp [followedBy, none]

theorem readInputs_followedBy (o later : Choices) (texts : List Bytes) :
    readInputs (o.followedBy later) texts = (readInputs later texts).map o.followedBy := by
  induction texts generalizing later with
  | nil => rfl
  | cons text texts ih =>
    rw [readInputs, readInputs]
    cases readText .input text with
    | error fault => rfl
    | ok c =>
      dsimp only
      rw [Choices.add_followedBy, ih]

/-- Earlier choices stay below whatever is read. -/
theorem readFrom_followedBy (o later : Choices) (args : List Bytes) :
    readFrom (o.followedBy later) args = (readFrom later args).map (Asked.after o) := by
  induction proceeds args generalizing later with
  | nothing => rfl
  | choice hused hrest ih => rw [hused.readFrom, hused.readFrom, Choices.add_followedBy, ih]
  | inputs texts =>
    rw [readFrom_dashes, readFrom_dashes, readInputs_followedBy]
    cases readInputs later texts <;> rfl
  | stopped hused rest =>
    rw [hused.readFrom, hused.readFrom]
    cases hused <;> rfl
  | waiting htext hkind =>
    rw [readFrom_waiting htext hkind, readFrom_waiting htext hkind]
    rfl

/-! ### Whole command lines -/

/-- Where a command line has come to its end, the next one is read on from its choices. -/
theorem readFrom_append {args : List Bytes} {o o₁ : Choices}
    (hread : readFrom o args = .ok (.build o₁)) (hends : ¬ EndsOptions args) (more : List Bytes) :
    readFrom o (args ++ more) = readFrom o₁ more := by
  induction proceeds args generalizing o with
  | nothing =>
    cases hread
    rfl
  | choice hused hrest ih =>
    rw [hused.readFrom] at hread
    rw [List.append_assoc, hused.readFrom]
    exact ih hread fun hends' => hends (.later hused hends')
  | inputs texts => exact absurd (.here texts) hends
  | stopped hused rest =>
    rw [hused.readFrom] at hread
    exact absurd hread (hused.ne_build o₁)
  | waiting htext hkind =>
    rw [readFrom_waiting htext hkind] at hread
    cases hread

/-- A question ends the reading, whatever stands behind it. -/
theorem readFrom_append_of_question {args : List Bytes} {o : Choices} {asked : Asked}
    (hread : readFrom o args = .ok asked) (hasked : ∀ o₁, asked ≠ .build o₁) (more : List Bytes) :
    readFrom o (args ++ more) = .ok asked := by
  induction proceeds args generalizing o with
  | nothing =>
    cases hread
    exact absurd rfl (hasked o)
  | choice hused hrest ih =>
    rw [hused.readFrom] at hread
    rw [List.append_assoc, hused.readFrom]
    exact ih hread
  | inputs texts =>
    rw [readFrom_dashes] at hread
    cases hinputs : readInputs o texts with
    | error fault =>
      rw [hinputs] at hread
      cases hread
    | ok o₁ =>
      rw [hinputs] at hread
      cases hread
      exact absurd rfl (hasked o₁)
  | stopped hused rest =>
    rw [hused.readFrom] at hread
    rw [List.append_assoc, hused.readFrom, hread]
  | waiting htext hkind =>
    rw [readFrom_waiting htext hkind] at hread
    cases hread

/-- Behind a command line that asks for a build and has not ended its options, another one says what
it says alone, its choices on top; behind a question nothing is read. -/
theorem read_appended (args more : List Bytes) :
    (∀ o₁, read args = .ok (.build o₁) → ¬ EndsOptions args →
      (∀ o₂, read more = .ok (.build o₂) →
        read (args ++ more) = .ok (.build (o₁.followedBy o₂))) ∧
      (read more = .ok .help → read (args ++ more) = .ok .help) ∧
      (read more = .ok .version → read (args ++ more) = .ok .version) ∧
      ∀ fault, read more = .error fault → read (args ++ more) = .error fault) ∧
    (read args = .ok .help → read (args ++ more) = .ok .help) ∧
    (read args = .ok .version → read (args ++ more) = .ok .version) := by
  refine ⟨fun o₁ hread hends => ?_, fun hhelp => ?_, fun hversion => ?_⟩
  · have hmore : read (args ++ more) = (read more).map (Asked.after o₁) := calc
      read (args ++ more) = readFrom o₁ more := readFrom_append hread hends more
      _ = readFrom (o₁.followedBy .none) more := by rw [Choices.followedBy_none]
      _ = (read more).map (Asked.after o₁) := readFrom_followedBy o₁ .none more
    refine ⟨fun o₂ h => ?_, fun h => ?_, fun h => ?_, fun fault h => ?_⟩ <;>
    · rw [hmore, h]
      rfl
  · exact readFrom_append_of_question hhelp (by simp) more
  · exact readFrom_append_of_question hversion (by simp) more

/-- Command lines behind one whose values look like options, and one behind a question. -/
theorem read_appended_mixed :
    let args := ["-c", "--", "-xa=b", "--immutable", "-t", "-h", "a.idl"].map encode
    let more := ["--immutable=no", "-", "-xc", "--", "-V"].map encode
    let faulty := ["--timeout", "x", "-h"].map encode
    let question := ["-p", "-V", "-h"].map encode
    let o₁ : Choices := { Choices.none with
      settingsFile := some ⟨"--"⟩
      translator := some "-h"
      inputs := ["a.idl"]
      excluded := some "a=b"
      immutable := some true }
    let o₂ : Choices := { Choices.none with
      inputs := ["-", "-V"]
      excluded := some "c"
      immutable := some false }
    (read args = .ok (.build o₁) ∧ ¬ EndsOptions args) ∧
      (read more = .ok (.build o₂) ∧ read (args ++ more) = .ok (.build (o₁.followedBy o₂))) ∧
      (∃ fault, read faulty = .error fault ∧ read (args ++ faulty) = .error fault) ∧
      read question = .ok .help ∧ read (question ++ faulty) = .ok .help := by
  intro args more faulty question o₁ o₂
  have hargs : read args = .ok (.build o₁) := by decide +kernel
  have hends : ¬ EndsOptions args := fun h => by
    have hhelp : readFrom .none (args ++ [encode "-h"]) = .ok .help := by decide +kernel
    exact h.readFrom_ne_help .none [encode "-h"] hhelp
  have hmore : read more = .ok (.build o₂) := by decide +kernel
  have hfaulty : read faulty = .error (.notNumber "x" .invalidDigit) := by decide +kernel
  have hquestion : read question = .ok .help := by decide +kernel
  refine ⟨⟨hargs, hends⟩, ⟨hmore, ?_⟩, ⟨_, hfaulty, ?_⟩, hquestion, ?_⟩
  · exact ((read_appended args more).1 o₁ hargs hends).1 o₂ hmore
  · exact ((read_appended args faulty).1 o₁ hargs hends).2.2.2 _ hfaulty
  · exact (read_appended question faulty).2.1 hquestion

end IdlBuild.CommandLine
