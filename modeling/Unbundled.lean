import Unbundled.Files.Tree
import Unbundled.Main
import Unbundled.Proofs.Template.Steps
import Unbundled.Proofs.Template.Attributes
import Unbundled.Proofs.Template.Fidelity
import Unbundled.Proofs.Script.References
import Unbundled.Proofs.Template.Scoping
import Unbundled.Proofs.Markup.Reference
import Unbundled.Proofs.Template.StartTag
import Unbundled.Proofs.Template.Spelling
import Unbundled.Proofs.Template.Tokens
import Unbundled.Proofs.Template.Condense
import Unbundled.Proofs.Template.RoundTrip
import Unbundled.Proofs.Script.Places
import Unbundled.Proofs.Script.Redirection
import Unbundled.Proofs.Template.Wording
import Unbundled.Proofs.Template.Authorship
import Unbundled.Proofs.Template.Stack
import Unbundled.Proofs.Template.Generator
import Unbundled.Proofs.Template.Lockstep
import Unbundled.Proofs.Template.Demands
import Unbundled.Proofs.Template.Recording
import Unbundled.Proofs.Template.LexicalScope
import Unbundled.Proofs.Template.Declarations
import Unbundled.Proofs.Component.FileText
import Unbundled.Proofs.Component.TwoModules
import Unbundled.Proofs.Text.Utf8
import Unbundled.Proofs.Text.Percent
import Unbundled.Proofs.Files.Below
import Unbundled.Proofs.Url.Resolution
import Unbundled.Proofs.Server.Confinement
import Unbundled.Proofs.Url.Plain
import Unbundled.Proofs.Component.DefaultExport
import Unbundled.Proofs.Library.Entry
import Unbundled.Proofs.Library.RelativeImport
import Unbundled.Proofs.Server.Answer
import Unbundled.Proofs.Library.ByName
import Unbundled.Proofs.Template.Nesting
import Unbundled.Proofs.Template.Refusal
import Unbundled.Proofs.Template.HandlerText
import Unbundled.Proofs.Template.LoopReadings
import Unbundled.Proofs.Template.LoopValue
import Unbundled.Proofs.Markup.Decoding
import Unbundled.Proofs.Template.Bindings
import Unbundled.Proofs.Template.Siblings
import Unbundled.Proofs.Template.Chains
import Unbundled.Proofs.Template.Whitespace
import Unbundled.Proofs.Template.Parsed
import Unbundled.Proofs.Library.Subpath
import Unbundled.Proofs.Template.AddedNames
import Unbundled.Proofs.Template.DirectiveNames
import Unbundled.Proofs.Template.Merging
import Unbundled.Proofs.Template.HardSpaces
import Unbundled.Proofs.Url.Form
import Unbundled.Proofs.Server.Query
import Unbundled.Proofs.Component.Layout
import Unbundled.Proofs.Octets.Checked
import Unbundled.Proofs.Octets.Tag
import Unbundled.Proofs.Octets.Component
import Unbundled.Proofs.Octets.Reference
import Unbundled.Proofs.Octets.Interpolation
import Unbundled.Proofs.Octets.Template
