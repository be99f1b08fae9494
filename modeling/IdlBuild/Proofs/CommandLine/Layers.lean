import IdlBuild.Proofs.CommandLine.Spellings
import IdlBuild.Proofs.Settings.Stated

/-!
# Settings in layers

A setting may be given on the command line, in the settings file or not at all. The settings of a
build are those that are given, the command line before the file and the file before the defaults,
setting by setting, and whichever way the command line is written (`read_toSettings`).
-/

namespace IdlBuild.CommandLine

open Settings (Stated)
open Text (Bytes encode)

/-! ### Layers of one setting -/

/-- Where a setting gets its value from. A value that is chosen on the command line counts, whatever
the document states; one that is stated counts if none is chosen; a setting that is left out has its
default. -/
inductive Placed {α : Type} : (chosen stated : Option α) → (default target : α) → Prop
  | chosen {stated : Option α} {default target : α} : Placed (some target) stated default target
  | stated {default target : α} : Placed none (some target) default target
  | neither {target : α} : Placed none none target target

theorem Placed.eq {α : Type} {chosen stated : Option α} {default target : α}
    (h : Placed chosen stated default target) : chosen.getD (stated.getD default) = target := by
  cases h <;> rfl

/-- A setting that may be without a value can be given one, but none cannot be given. -/
theorem Placed.or_eq {α : Type} {chosen stated default target : Option α}
    (h : Placed (chosen.map some) (stated.map some) default target) :
    chosen.or (stated.or default) = target := by
  rw [← h.eq]
  cases chosen with
  | none => cases stated <;> rfl
  | some x => rfl

/-! ### Layers of all settings -/

/-- The list that is chosen, if anything of it is. -/
def chosenList (texts : List String) : Option (List String) :=
  if texts = [] then none else some texts

theorem chosenOr_eq (texts other : List String) :
    Choices.chosenOr texts other = (chosenList texts).getD other := by
  rw [Choices.chosenOr, chosenList]
  split <;> rfl

/-- Settings whose values are placed on a command line, in a document or nowhere. Inputs are chosen
one by one and stated with commas between them. -/
structure Choices.Places (o : Choices) (stated : Stated) (target : Settings) : Prop where
  translator : Placed o.translator stated.translator Settings.defaults.translator target.translator
  translatorArguments : Placed (chosenList o.translatorArguments) stated.translatorArguments
    Settings.defaults.translatorArguments target.translatorArguments
  inputs : Placed ((chosenList o.inputs).map (",".intercalate ·)) stated.inputs
    Settings.defaults.inputs target.inputs
  excluded : Placed o.excluded stated.excluded Settings.defaults.excluded target.excluded
  immutable : Placed o.immutable stated.immutable Settings.defaults.immutable target.immutable
  basePackage : Placed o.basePackage stated.basePackage Settings.defaults.basePackage
    target.basePackage
  outputRoot : Placed o.outputRoot (stated.outputRoot.map .ofText) Settings.defaults.outputRoot
    target.outputRoot
  clearFirst : Placed o.clearFirst stated.clearFirst Settings.defaults.clearFirst target.clearFirst
  generator : Placed (o.generator.map some) (stated.generator.map some)
    Settings.defaults.generator target.generator
  generatorArguments : Placed (chosenList o.generatorArguments) stated.generatorArguments
    Settings.defaults.generatorArguments target.generatorArguments
  secondsAllowed : Placed (o.secondsAllowed.map some) (stated.secondsAllowed.map some)
    Settings.defaults.secondsAllowed target.secondsAllowed

theorem Choices.Places.applyTo {o : Choices} {stated : Stated} {target : Settings}
    (h : o.Places stated target) : o.applyTo (stated.applyTo Settings.defaults) = target := by
  have hinputs : (if o.inputs = [] then stated.inputs.getD Settings.defaults.inputs
      else ",".intercalate o.inputs) = target.inputs := by
    rw [← h.inputs.eq, chosenList]
    split <;> rfl
  rw [Choices.applyTo, Stated.applyTo]
  dsimp only
  rw [chosenOr_eq, chosenOr_eq, h.translator.eq, h.translatorArguments.eq, hinputs, h.excluded.eq,
    h.immutable.eq, h.basePackage.eq, h.outputRoot.eq, h.clearFirst.eq, h.generator.or_eq,
    h.generatorArguments.eq, h.secondsAllowed.or_eq]

/-! ### The settings file -/

/-- What the settings file of a command line states, whichever order its entries have. Without a
settings file nothing is stated. -/
inductive FileStates (fs : FileSystem) : Option Path → Stated → Prop
  | none : FileStates fs none .nothing
  | some {path : Path} {text : String} {table : List (String × Toml.Value)} {stated : Stated}
    (hread : fs.readText path = .ok text) (hdocument : Toml.readDocument text = some table)
    (htable : table.Perm stated.table)
    (hseconds : ∀ n, stated.secondsAllowed = some n → n < 2 ^ 64) :
    FileStates fs (some path) stated

theorem FileStates.toSettings {fs : FileSystem} {o : Choices} {stated : Stated}
    (h : FileStates fs o.settingsFile stated) :
    o.toSettings fs = .ok (o.applyTo (stated.applyTo Settings.defaults)) := by
  rw [Choices.toSettings]
  cases hfile : o.settingsFile with
  | none =>
    rw [hfile] at h
    cases h
    rfl
  | some path =>
    rw [hfile] at h
    cases h with
    | some hread hdocument htable hseconds =>
      have htable := Settings.ofTable_of_perm htable hseconds
      dsimp only
      rw [Settings.ofFile, hread]
      dsimp only
      rw [Settings.ofDocument, hdocument]
      dsimp only
      rw [htable]
      rfl

/-- The settings of a build are those that its command line and its settings file give, wherever
each of them is given. -/
theorem read_toSettings {fs : FileSystem} {o : Choices} {cs : List Choice} {args : List Bytes}
    {stated : Stated} {target : Settings} (hwritten : Written cs args) (hgathers : o.Gathers cs)
    (hfile : FileStates fs o.settingsFile stated) (hplaces : o.Places stated target) :
    read args = .ok (.build o) ∧ o.toSettings fs = .ok target := by
  constructor
  · rw [read, readFrom_of_gathers hgathers hwritten]
  · rw [hfile.toSettings, hplaces.applyTo]

theorem read_toSettings_mixed :
    let document := "clean = true\ntimeout-secs = 0x0000000000000009\ntranslator = \"left\"\n"
    let fs := FileSystem.empty.add [] "settings.toml" (.file (encode document) 0o644)
    let args : List Bytes :=
      ["--config=settings.toml", "a.idl", "-tright", "--clean=no", "-i", "b,c.idl"]
    let target : Settings := { Settings.defaults with
      translator := "right"
      inputs := "a.idl,b,c.idl"
      secondsAllowed := some 9 }
    ∃ o, read args = .ok (.build o) ∧ o.toSettings fs = .ok target := by
  intro document fs args target
  have hunset : false = true ↔ MeansTrue "no" :=
    (Bool.eq_iff_iff.1 (by decide : false = Settings.isSet "no")).trans isSet_iff
  have hspelled :=
    Written.choice (.long (.tail _ (.head _)) (.settingsFile ⟨"settings.toml"⟩)) <|
    Written.choice (.positional (.inl (by decide : "a.idl".toList.head? ≠ some '-'))) <|
    Written.choice (.joined (.head _) (.translator "right") (by decide) (by decide)) <|
    Written.choice (.flagWith (.head _) (.clearFirst false) hunset) <|
    Written.choice (.apart (.head _) (.input "b,c.idl")) .nothing
  have hwritten : Written _ args := hspelled
  let stated : Stated := { Stated.nothing with
    translator := some "left"
    clearFirst := some true
    secondsAllowed := some 9 }
  have hlists := Toml.Lists.line (by decide : Toml.IsBare "clean") (.boolean true) <|
    .line (by decide : Toml.IsBare "timeout-secs") (.integer (by decide : 9 < 2 ^ 64)) <|
    .line (by decide : Toml.IsBare "translator") (.string "left") .nothing
  have hdocument : Toml.readDocument document = some stated.table :=
    (congrArg Toml.readDocument (by decide +kernel)).trans
      (Toml.readDocument_of_lists hlists (by decide))
  have hread : fs.readText ⟨"settings.toml"⟩ = .ok document := by
    have hfile : fs.readFile ⟨"settings.toml"⟩ = .ok (encode document) := by decide +kernel
    rw [FileSystem.readText, hfile]
    dsimp only [bind, Except.bind]
    rw [Text.decode_encode]
    rfl
  have hfile : FileStates fs (some ⟨"settings.toml"⟩) stated :=
    .some hread hdocument (.refl _) (by rintro n ⟨⟩; decide)
  refine ⟨_, read_toSettings hwritten (gathers_foldl _) hfile ?places⟩
  constructor
  all_goals first
    | exact .chosen
    | exact .stated
    | exact .neither

end IdlBuild.CommandLine
