import BraceTemplate.CommandLine.Run
import BraceTemplate.Compile.Compiler
import BraceTemplate.Engine.Basic
import BraceTemplate.Main
import BraceTemplate.Proofs.CommandLine.Ending
import BraceTemplate.Proofs.CommandLine.TopLevel
import BraceTemplate.Proofs.Dotted.Render
import BraceTemplate.Proofs.Engine.Fallback
import BraceTemplate.Proofs.Engine.Fetch
import BraceTemplate.Proofs.Engine.First
import BraceTemplate.Proofs.Engine.Keys
import BraceTemplate.Proofs.Engine.Private
import BraceTemplate.Proofs.Engine.Refusing
import BraceTemplate.Proofs.Fault.Compile
import BraceTemplate.Proofs.Flat.Concatenate
import BraceTemplate.Proofs.Insertion.Extended
import BraceTemplate.Proofs.Insertion.Missing
import BraceTemplate.Proofs.Literal.Compile
import BraceTemplate.Proofs.Literal.RoundTrip
import BraceTemplate.Proofs.Renderer.Reuse
import BraceTemplate.Proofs.Shown.Dump
import BraceTemplate.Proofs.Shown.Escape
import BraceTemplate.Proofs.Shown.Numbered
import BraceTemplate.Proofs.Shown.Read
import BraceTemplate.Proofs.Shown.Render
import BraceTemplate.Proofs.Shown.Tag
import BraceTemplate.Proofs.Shown.Values
import BraceTemplate.Proofs.Single.Interpolation
import BraceTemplate.Proofs.Single.Keyword
import BraceTemplate.Proofs.Single.Loop
import BraceTemplate.Proofs.Single.Spaced
import BraceTemplate.Proofs.Source.Addition
import BraceTemplate.Proofs.Source.Candidates
import BraceTemplate.Proofs.Source.History
import BraceTemplate.Proofs.Source.Sharing
import BraceTemplate.Proofs.Switch.Render
import BraceTemplate.Proofs.Tree.Render
import BraceTemplate.Proofs.Verbatim.Literal
