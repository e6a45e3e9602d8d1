import TemplateEngine.Files.Tree
import TemplateEngine.Main
import TemplateEngine.Proofs.Node.RoundTrip
import TemplateEngine.Proofs.Render.Guards
import TemplateEngine.Proofs.Render.Scoping
import TemplateEngine.Proofs.Render.Resolution
import TemplateEngine.Proofs.Render.Restoring
import TemplateEngine.Proofs.Render.Sinks
import TemplateEngine.Proofs.Render.Inert
import TemplateEngine.Proofs.Template.Loading
import TemplateEngine.Proofs.Template.Export
import TemplateEngine.Proofs.Render.Depth
import TemplateEngine.Proofs.Template.Substitution
import TemplateEngine.Proofs.Markup.Concatenation
import TemplateEngine.Proofs.CommandLine.Output
import TemplateEngine.Proofs.Template.Repetition
import TemplateEngine.Proofs.Markup.Finality
import TemplateEngine.Proofs.Render.Loops
import TemplateEngine.Proofs.Render.Conditionals
import TemplateEngine.Proofs.Render.Selectors
import TemplateEngine.Proofs.Render.Filters
import TemplateEngine.Proofs.Render.Joining
import TemplateEngine.Proofs.Markup.InPlace
