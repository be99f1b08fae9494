import IdlBuild.Settings.Basic
import IdlBuild.Translator.Program
import IdlBuild.Translator.Service

/-!
# Builds from settings

A build as its settings describe it: which translator is asked, which generator is run, and how long
either may take.
-/

namespace IdlBuild

/-- What a build can call: programs and services. -/
structure Surroundings (σ : Type) where
  launcher : Child.Launcher σ
  network : Http.Network σ

namespace Settings

variable {σ : Type}

/-- The time limit of one call in milliseconds. -/
def limit (settings : Settings) : Option Nat := settings.secondsAllowed.map (· * 1000)

/-- The translator that the settings name. -/
def translatorIn (surroundings : Surroundings σ) (settings : Settings) : Translator σ :=
  match TranslatorKind.ofText settings.translator with
  | .service address => Service.translator surroundings.network address settings.limit
  | .program name =>
    TranslatorProgram.translator surroundings.launcher
      ⟨name, settings.translatorArguments, settings.limit⟩

/-- The generator that the settings name. -/
def generatorIn (surroundings : Surroundings σ) (settings : Settings) : Generator σ :=
  match settings.generator with
  | some name =>
    Generator.ofProgram surroundings.launcher name settings.generatorArguments settings.limit
  | none => Generator.absent

/-- Runs the build that the settings describe. -/
def build (surroundings : Surroundings σ) (settings : Settings) : BuildM σ Product :=
  Toolchain.build ⟨settings.translatorIn surroundings, settings.generatorIn surroundings⟩
    settings.job

end Settings

end IdlBuild
