import Bindery.Document.Module
import Bindery.Main
import Bindery.Page.Shown
import Bindery.Proofs.Markdown.Fallback
import Bindery.Proofs.Resolver.Unreported
import Bindery.Proofs.Site.Runs
import Bindery.Proofs.Resolver.Assets
import Bindery.Proofs.Resolver.Accounting
import Bindery.Proofs.Resolver.Isolation
import Bindery.Proofs.Site.Calls
import Bindery.Proofs.Resolver.Rebuild
import Bindery.Proofs.Resolver.Order
import Bindery.Proofs.Resolver.Overlap
import Bindery.Proofs.Resolver.Addresses
import Bindery.Proofs.Template.Preprocessing
import Bindery.Proofs.Template.Enclosure
import Bindery.Proofs.Site.Folders
import Bindery.Proofs.Markdown.Embedding
import Bindery.Proofs.Expr.Prefixes
import Bindery.Proofs.Outline.Shortcut
import Bindery.Proofs.Outline.Comments
import Bindery.Proofs.Outline.Misplaced
import Bindery.Proofs.Outline.Trails
import Bindery.Proofs.Resolver.Urls
import Bindery.Proofs.Template.Cuts
import Bindery.Proofs.Resolver.Walks
import Bindery.Proofs.Markdown.Links
import Bindery.Proofs.Markdown.Settled
import Bindery.Proofs.Markdown.Trees
import Bindery.Proofs.Markdown.Promotion
import Bindery.Proofs.FrontMatter
import Bindery.Proofs.Date
import Bindery.Proofs.Resolver.Neighbors
import Bindery.Proofs.Resolver.Runs
