import OciBundle.Capability
import OciBundle.CommandLine.Flag
import OciBundle.CommandLine.Reading
import OciBundle.Compliance
import OciBundle.Config.Basic
import OciBundle.Config.File
import OciBundle.Config.Linux
import OciBundle.Config.Mount
import OciBundle.Config.Notation
import OciBundle.Config.Process
import OciBundle.Config.Resources
import OciBundle.Config.Sanitize
import OciBundle.Config.Seccomp
import OciBundle.Config.Template
import OciBundle.Config.Update
import OciBundle.Dict
import OciBundle.Draft
import OciBundle.Edit.General
import OciBundle.Edit.Linux
import OciBundle.Edit.Mount
import OciBundle.Edit.Process
import OciBundle.Edit.Resources
import OciBundle.Edit.Seccomp
import OciBundle.ExitStatus
import OciBundle.Failure
import OciBundle.FileTree
import OciBundle.Flags.General
import OciBundle.Flags.Linux
import OciBundle.Flags.Mount
import OciBundle.Flags.Namespace
import OciBundle.Flags.Process
import OciBundle.Flags.Resources
import OciBundle.Flags.Seccomp
import OciBundle.Flags.Step
import OciBundle.Generate
import OciBundle.Host
import OciBundle.InPlace.Basic
import OciBundle.InPlace.Draft
import OciBundle.InPlace.Edit
import OciBundle.Json.Codec
import OciBundle.Json.Document
import OciBundle.Json.Number
import OciBundle.Json.Printer
import OciBundle.Json.Quote
import OciBundle.Json.Reader
import OciBundle.Json.Record
import OciBundle.Json.Value
import OciBundle.Keyed
import OciBundle.Lifecycle
import OciBundle.Main
import OciBundle.Outline
import OciBundle.Path
import OciBundle.Program
import OciBundle.Proofs.Json.Number
import OciBundle.Proofs.Json.Quote
import OciBundle.Proofs.Json.Reading
import OciBundle.Proofs.Json.Writing
import OciBundle.Rejection
import OciBundle.RuntimeTest
import OciBundle.Seccomp.Merge
import OciBundle.Seccomp.Notation
import OciBundle.Settings.Basic
import OciBundle.Settings.Notation
import OciBundle.State
import OciBundle.Text.Blank
import OciBundle.Text.DecimalDigit
import OciBundle.Text.Glyph
import OciBundle.Text.Numeral
import OciBundle.Text.Quoted
import OciBundle.Text.Separated
import OciBundle.Text.Unprintable
import OciBundle.Text.Uppercase
import OciBundle.Validation.Basic
import OciBundle.Validation.Bundle
import OciBundle.Validation.Host
import OciBundle.Validation.Linux
import OciBundle.Validation.Mount
import OciBundle.Validation.Process
import OciBundle.Version
import OciBundle.Violation
import OciBundle.Vocabulary
import OciBundle.Word
import OciBundle.Proofs.Json.Lossless
import OciBundle.Proofs.Dict
import OciBundle.Proofs.Json.Grammar
import OciBundle.Proofs.Json.Members
import OciBundle.Proofs.Json.Rewriting
import OciBundle.Proofs.Config.Layout
import OciBundle.Proofs.Config.Saving
import OciBundle.Proofs.Keyed
import OciBundle.Proofs.Keyed.History
import OciBundle.Proofs.Validation.Reports
import OciBundle.Proofs.Validation.Process
import OciBundle.Proofs.Validation.Linux
import OciBundle.Proofs.Validation.General
import OciBundle.Proofs.Validation.Bundle
import OciBundle.Proofs.Edit.General
import OciBundle.Proofs.Edit.Process
import OciBundle.Proofs.Edit.KeyedList
import OciBundle.Proofs.Edit.Linux
import OciBundle.Proofs.Edit.Resources
import OciBundle.Proofs.Edit.Seccomp
import OciBundle.Proofs.Draft
import OciBundle.Proofs.Draft.KeyedList
import OciBundle.Proofs.InPlace.Edit
import OciBundle.Proofs.InPlace.Seccomp
import OciBundle.Proofs.InPlace.Draft
import OciBundle.Proofs.CommandLine
import OciBundle.Proofs.FileTree
import OciBundle.Proofs.Lifecycle
import OciBundle.Proofs.Lifecycle.Outcome
import OciBundle.Proofs.RuntimeTest
import OciBundle.Proofs.Seccomp.Merge
import OciBundle.Proofs.Seccomp.Contradiction
import OciBundle.Proofs.Seccomp.Decision
import OciBundle.Proofs.Outline.Members
import OciBundle.Proofs.Outline.Agreement
import OciBundle.Proofs.Outline.Field
import OciBundle.Proofs.Outline.Paths
import OciBundle.Proofs.Outline.Missing
import OciBundle.Proofs.Outline.Preorder
import OciBundle.Proofs.Validation.Subjects
import OciBundle.Proofs.Validation.Once
import OciBundle.Proofs.Validation.Positions
import OciBundle.Proofs.Config.Outline
import OciBundle.Proofs.Edit.Complete
import OciBundle.Proofs.Validation.Mandatory
import OciBundle.Proofs.Config.Kept
import OciBundle.Proofs.Flags.Step
import OciBundle.Proofs.Flags.Tame
import OciBundle.Proofs.Flags.Namespace
import OciBundle.Proofs.Generate
import OciBundle.Proofs.Compliance
import OciBundle.Proofs.Outline.Easing
import OciBundle.Proofs.Validation.Inner
import OciBundle.Proofs.Validation.Sanitize
import OciBundle.Proofs.FileTree.Below
import OciBundle.Proofs.Validation.Containment
import OciBundle.Proofs.RuntimeTest.Trust
import OciBundle.Proofs.Config.Parts
import OciBundle.Proofs.Edit.Parts
import OciBundle.Proofs.Flags.Order
import OciBundle.Proofs.Config.Orderly
import OciBundle.Proofs.Edit.Orderly
import OciBundle.Proofs.Draft.Orderly
import OciBundle.Proofs.Validation.Blame
import OciBundle.Proofs.Validation.Single
import OciBundle.Proofs.Validation.Acceptance
import OciBundle.Proofs.Seccomp.Notation
import OciBundle.Proofs.Seccomp.Implication
import OciBundle.Proofs.Seccomp.Repetition
import OciBundle.Proofs.Seccomp.Account
import OciBundle.Proofs.Seccomp.View
import OciBundle.Proofs.Config.Holds
import OciBundle.Proofs.Edit.Removal
import OciBundle.Proofs.Flags.Removal
import OciBundle.Proofs.Seccomp.Undoing
import OciBundle.Proofs.Text.Numeral
import OciBundle.Proofs.Seccomp.Grammar
import OciBundle.Proofs.Config.DeviceText
import OciBundle.Proofs.Config.MountText
import OciBundle.Proofs.Config.Portable
import OciBundle.Proofs.Flags.DefaultAction
import OciBundle.Proofs.Validation.Host
