import TemplateEngine.Cache
import TemplateEngine.Compile
import TemplateEngine.Document
import TemplateEngine.Main
import TemplateEngine.Page
import TemplateEngine.Proofs.Cache.LiteralText
import TemplateEngine.Proofs.Cache.Refinement
import TemplateEngine.Proofs.Generated.DataLines
import TemplateEngine.Proofs.Segment.Direct
import TemplateEngine.Proofs.Segment.RoundTrip
import TemplateEngine.Proofs.Store.Exchange
import TemplateEngine.Proofs.Template.Tree
import TemplateEngine.Script.Module
import TemplateEngine.Settings.Basic
import TemplateEngine.Source
import TemplateEngine.Store.Basic
import TemplateEngine.Proofs.Template.Continuation
import TemplateEngine.Proofs.Generated.Escaping
import TemplateEngine.Proofs.Generated.Showing
import TemplateEngine.Proofs.Cache.ContextName
import TemplateEngine.Proofs.Cache.Spared
import TemplateEngine.Proofs.CommandLine.Output
import TemplateEngine.Proofs.Store.FailedLoad
import TemplateEngine.Proofs.Template.Standing
import TemplateEngine.Proofs.Template.Rendering
import TemplateEngine.Proofs.Cache.Interpreting
import TemplateEngine.Proofs.Cache.Expressions
import TemplateEngine.Proofs.Cache.Passages
import TemplateEngine.Proofs.Generated.Entities
import TemplateEngine.Proofs.Template.Closing
import TemplateEngine.Proofs.Settings.Folding
import TemplateEngine.Proofs.Settings.Reading
import TemplateEngine.Proofs.Scriptlet.Lines
import TemplateEngine.Proofs.Script.Comments
import TemplateEngine.Proofs.Source.Reading
import TemplateEngine.Proofs.CommandLine.Overriding
