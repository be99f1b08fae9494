import IdlBuild.Main
import IdlBuild.Proofs.Calls.Afresh
import IdlBuild.Proofs.Calls.Commands
import IdlBuild.Proofs.Calls.FirstFailure
import IdlBuild.Proofs.Calls.Inputs
import IdlBuild.Proofs.Calls.Reports
import IdlBuild.Proofs.Child.Draining
import IdlBuild.Proofs.CommandLine.Concatenation
import IdlBuild.Proofs.CommandLine.Layers
import IdlBuild.Proofs.Inputs.Lists
import IdlBuild.Proofs.Inputs.Loops
import IdlBuild.Proofs.Packages.Tasks
import IdlBuild.Proofs.Targets.Absence
import IdlBuild.Proofs.Targets.Collisions
import IdlBuild.Proofs.Targets.Prefixes
import IdlBuild.Proofs.Targets.Roots
import IdlBuild.Proofs.Translators.Answers
import IdlBuild.Proofs.Translators.Forms
import IdlBuild.Proofs.Translators.Obstacles
