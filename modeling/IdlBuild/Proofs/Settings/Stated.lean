import IdlBuild.Proofs.FileSystem.Alike
import IdlBuild.Proofs.Toml.Documents
import IdlBuild.Settings.Document

/-!
# What settings documents state

A document states some of the settings. Its table has an entry for each of these, and whichever
order the entries have, reading the table gives the settings that are stated and the defaults of all
others (`ofTable_of_perm`). Whatever is to be stated, there is a document that does it
(`exists_document`).
-/

namespace IdlBuild.Settings

open Toml (Value Misfit)

/-! ### Stated settings -/

/-- What a document states of the settings. -/
structure Stated where
  translator : Option String
  translatorArguments : Option (List String)
  inputs : Option String
  excluded : Option String
  immutable : Option Bool
  basePackage : Option String
  outputRoot : Option String
  clearFirst : Option Bool
  generator : Option String
  generatorArguments : Option (List String)
  secondsAllowed : Option Nat

namespace Stated

/-- Nothing is stated. -/
def nothing : Stated where
  translator := none
  translatorArguments := none
  inputs := none
  excluded := none
  immutable := none
  basePackage := none
  outputRoot := none
  clearFirst := none
  generator := none
  generatorArguments := none
  secondsAllowed := none

/-- The settings that are stated, on top of others. -/
def applyTo (stated : Stated) (settings : Settings) : Settings where
  translator := stated.translator.getD settings.translator
  translatorArguments := stated.translatorArguments.getD settings.translatorArguments
  inputs := stated.inputs.getD settings.inputs
  excluded := stated.excluded.getD settings.excluded
  immutable := stated.immutable.getD settings.immutable
  basePackage := stated.basePackage.getD settings.basePackage
  outputRoot := (stated.outputRoot.map .ofText).getD settings.outputRoot
  clearFirst := stated.clearFirst.getD settings.clearFirst
  generator := stated.generator.or settings.generator
  generatorArguments := stated.generatorArguments.getD settings.generatorArguments
  secondsAllowed := stated.secondsAllowed.or settings.secondsAllowed

/-- A list of texts as a value. -/
def array (texts : List String) : Value := .array (texts.map .string)

/-- The entry of a setting, if it is stated. -/
def entry {α : Type} (key : String) (value : α → Value) (stated : Option α) :
    List (String × Value) :=
  stated.toList.map fun x => (key, value x)

/-- The table of a document, its keys in alphabetical order. -/
def table (stated : Stated) : List (String × Value) :=
  entry "base-package" .string stated.basePackage ++
    entry "clean" .boolean stated.clearFirst ++
    entry "exclude" .string stated.excluded ++
    entry "generator" .string stated.generator ++
    entry "generator-args" array stated.generatorArguments ++
    entry "idl-files" .string stated.inputs ++
    entry "immutable" .boolean stated.immutable ++
    entry "output-directory" .string stated.outputRoot ++
    entry "timeout-secs" (fun seconds => .integer (seconds : Nat)) stated.secondsAllowed ++
    entry "translator" .string stated.translator ++
    entry "translator-args" array stated.translatorArguments

/-! ### Keys -/

theorem keys_entry {α : Type} (key : String) (value : α → Value) (stated : Option α) :
    ((entry key value stated).map Prod.fst).Sublist [key] := by
  cases stated with
  | none => exact List.nil_sublist _
  | some x => exact List.Sublist.refl _

theorem keys_table (stated : Stated) :
    (stated.table.map Prod.fst).Sublist ["base-package", "clean", "exclude", "generator",
      "generator-args", "idl-files", "immutable", "output-directory", "timeout-secs",
      "translator", "translator-args"] := by
  simp only [table, List.map_append]
  exact ((((((((((keys_entry ..).append (keys_entry ..)).append (keys_entry ..)).append
    (keys_entry ..)).append (keys_entry ..)).append (keys_entry ..)).append
    (keys_entry ..)).append (keys_entry ..)).append (keys_entry ..)).append
    (keys_entry ..)).append (keys_entry ..)

theorem nodup_keys_table (stated : Stated) : (stated.table.map Prod.fst).Nodup :=
  (keys_table stated).nodup (by decide)

theorem sortedByName_table {stated : Stated} {table : List (String × Value)}
    (hperm : table.Perm stated.table) : FileSystem.sortedByName table = stated.table := by
  have hkeys : stated.table.Pairwise (·.1 ≤ ·.1) :=
    List.pairwise_map.1 (List.Pairwise.sublist (keys_table stated) (by decide))
  have hdistinct : (table.map Prod.fst).Nodup :=
    (hperm.map Prod.fst).nodup_iff.2 (nodup_keys_table stated)
  exact FileSystem.sortedByName_eq hperm hkeys hdistinct

/-! ### Documents -/

theorem isBare_of_mem_table {stated : Stated} {e : String × Value} (h : e ∈ stated.table) :
    Toml.IsBare e.1 := by
  have hall : ∀ key ∈ ["base-package", "clean", "exclude", "generator", "generator-args",
      "idl-files", "immutable", "output-directory", "timeout-secs", "translator",
      "translator-args"], Toml.IsBare key := by decide
  exact hall e.1 ((keys_table stated).subset (List.mem_map_of_mem h))

theorem exists_spelled_of_mem_table {stated : Stated}
    (hseconds : ∀ n, stated.secondsAllowed = some n → n < 2 ^ 64) {e : String × Value}
    (h : e ∈ stated.table) : ∃ cs, Toml.Spelled e.2 cs := by
  simp only [table, entry, List.mem_append, List.mem_map, Option.mem_toList] at h
  rcases h with (((((((((h | h) | h) | h) | h) | h) | h) | h) | h) | h) | h
  all_goals obtain ⟨x, hx, rfl⟩ := h
  all_goals first
    | exact ⟨_, .string _⟩
    | exact ⟨_, .boolean _⟩
    | exact ⟨_, .array _⟩
    | exact ⟨_, .integer (hseconds x hx)⟩

/-- Everything can be stated in some document. -/
theorem exists_document (stated : Stated)
    (hseconds : ∀ n, stated.secondsAllowed = some n → n < 2 ^ 64) :
    ∃ text, Toml.readDocument text = some stated.table := by
  obtain ⟨cs, hcs⟩ := Toml.exists_lists (fun e he => isBare_of_mem_table he)
    (fun e he => exists_spelled_of_mem_table hseconds he)
  exact ⟨_, Toml.readDocument_of_lists hcs (nodup_keys_table stated)⟩

/-! ### Reading -/

theorem readStrings_array (texts : List String) : readStrings (array texts) = .ok texts := by
  have hmap : (texts.map Value.string).mapM readString = Except.ok (ε := Misfit) texts := by
    induction texts with
    | nil => rfl
    | cons text texts ih =>
      rw [List.map_cons, List.mapM_cons, ih]
      rfl
  exact hmap

theorem readSeconds_of_range {number : Int} (h : 0 ≤ number ∧ number < 0x10000000000000000) :
    readSeconds (.integer number) = .ok number.toNat := by
  unfold readSeconds
  exact if_pos h

theorem readSeconds_natCast {seconds : Nat} (h : seconds < 2 ^ 64) :
    readSeconds (.integer seconds) = .ok seconds := by
  have hrange : 0 ≤ (seconds : Int) ∧ (seconds : Int) < 0x10000000000000000 := by omega
  exact readSeconds_of_range hrange

theorem set_arguments (settings : Settings) (texts : List String) :
    settings.set "translator-args" (array texts)
        = .ok { settings with translatorArguments := texts } ∧
      settings.set "generator-args" (array texts)
        = .ok { settings with generatorArguments := texts } := by
  simp only [set, readStrings_array, Except.map, and_self]

theorem set_seconds (settings : Settings) {v : Value} {seconds : Nat}
    (h : readSeconds v = .ok seconds) :
    settings.set "timeout-secs" v = .ok { settings with secondsAllowed := some seconds } := by
  simp only [set, h, Except.map]

/-- Sets what some entries say, one after another. -/
def setAll (settings : Settings) (entries : List (String × Value)) : Except Misfit Settings :=
  entries.foldlM (fun settings (key, v) => settings.set key v) settings

theorem setAll_append {settings after : Settings} {first rest : List (String × Value)}
    (h : setAll settings first = .ok after) :
    setAll settings (first ++ rest) = setAll after rest := by
  rw [setAll, List.foldlM_append]
  exact congrArg (· >>= _) h

/-- Reading an entry is setting its setting, if that is stated. -/
theorem setAll_entry {α : Type} (key : String) (value : α → Value) {stated : Option α}
    (update : Settings → Option α → Settings) (hnone : ∀ settings, update settings none = settings)
    (hsome : ∀ (settings : Settings) (x : α), stated = some x →
      settings.set key (value x) = .ok (update settings (some x)))
    (settings : Settings) (rest : List (String × Value)) :
    setAll settings (entry key value stated ++ rest) = setAll (update settings stated) rest := by
  refine setAll_append ?_
  cases stated with
  | none => exact congrArg Except.ok (hnone settings).symm
  | some x =>
    have hone : setAll settings (entry key value (some x))
        = settings.set key (value x) >>= pure := rfl
    rw [hone, hsome settings x rfl]
    rfl

theorem setAll_table {stated : Stated} (hseconds : ∀ n, stated.secondsAllowed = some n → n < 2 ^ 64)
    (settings : Settings) : setAll settings stated.table = .ok (stated.applyTo settings) := by
  rw [← List.append_nil stated.table, table]
  simp only [List.append_assoc]
  -- One entry at a time, in the order of the keys: what each of them updates are the settings that
  -- the ones before it have left.
  rw [setAll_entry "base-package" .string
    (fun s x => { s with basePackage := x.getD s.basePackage }) (fun _ => rfl) (fun _ _ _ => rfl)]
  rw [setAll_entry "clean" .boolean
    (fun s x => { s with clearFirst := x.getD s.clearFirst }) (fun _ => rfl) (fun _ _ _ => rfl)]
  dsimp only
  rw [setAll_entry "exclude" .string
    (fun s x => { s with excluded := x.getD s.excluded }) (fun _ => rfl) (fun _ _ _ => rfl)]
  dsimp only
  rw [setAll_entry "generator" .string
    (fun s x => { s with generator := x.or s.generator }) (fun _ => rfl) (fun _ _ _ => rfl)]
  dsimp only
  rw [setAll_entry "generator-args" array
    (fun s x => { s with generatorArguments := x.getD s.generatorArguments }) (fun _ => rfl)
    (fun s x _ => (set_arguments s x).2)]
  dsimp only
  rw [setAll_entry "idl-files" .string
    (fun s x => { s with inputs := x.getD s.inputs }) (fun _ => rfl) (fun _ _ _ => rfl)]
  dsimp only
  rw [setAll_entry "immutable" .boolean
    (fun s x => { s with immutable := x.getD s.immutable }) (fun _ => rfl) (fun _ _ _ => rfl)]
  dsimp only
  rw [setAll_entry "output-directory" .string
    (fun s x => { s with outputRoot := (x.map .ofText).getD s.outputRoot })
    (fun _ => rfl) (fun _ _ _ => rfl)]
  dsimp only
  rw [setAll_entry "timeout-secs" (fun n => .integer (n : Nat))
    (fun s x => { s with secondsAllowed := x.or s.secondsAllowed }) (fun _ => rfl)
    (fun s x hx => set_seconds s (readSeconds_natCast (hseconds x hx)))]
  dsimp only
  rw [setAll_entry "translator" .string
    (fun s x => { s with translator := x.getD s.translator }) (fun _ => rfl) (fun _ _ _ => rfl)]
  dsimp only
  rw [setAll_entry "translator-args" array
    (fun s x => { s with translatorArguments := x.getD s.translatorArguments }) (fun _ => rfl)
    (fun s x _ => (set_arguments s x).1)]
  dsimp only
  rfl

end Stated

/-- A table is read as what it states, on top of the defaults, whichever order its entries have. -/
theorem ofTable_of_perm {stated : Stated} {table : List (String × Value)}
    (hperm : table.Perm stated.table)
    (hseconds : ∀ n, stated.secondsAllowed = some n → n < 2 ^ 64) :
    ofTable table = .ok (stated.applyTo defaults) := by
  have hall := Stated.setAll_table hseconds defaults
  rwa [← Stated.sortedByName_table hperm] at hall

end IdlBuild.Settings
