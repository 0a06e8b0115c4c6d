import Gleaner.Catalogue.Books
import Gleaner.Error
import Gleaner.Filter.Builtin
import Gleaner.Filter.Registry
import Gleaner.Log.Sink
import Gleaner.Scraper.Session
import Gleaner.Settings.VariableFile
import Gleaner.Proofs.Catalogue.Gathered
import Gleaner.Proofs.Crawl.Abort
import Gleaner.Proofs.Crawl.Budget
import Gleaner.Proofs.Crawl.Checks
import Gleaner.Proofs.Crawl.FetchFirst
import Gleaner.Proofs.Crawl.FirstLink
import Gleaner.Proofs.Crawl.LastPage
import Gleaner.Proofs.Crawl.LinkText
import Gleaner.Proofs.Crawl.Observer
import Gleaner.Proofs.Crawl.Onward
import Gleaner.Proofs.Crawl.Outcome
import Gleaner.Proofs.Crawl.Quiet
import Gleaner.Proofs.Crawl.Redirect
import Gleaner.Proofs.Crawl.Walk
import Gleaner.Proofs.Directive.Escape
import Gleaner.Proofs.Directive.Grammar
import Gleaner.Proofs.Directive.RoundTrip
import Gleaner.Proofs.Directive.Separators
import Gleaner.Proofs.Directive.Spelling
import Gleaner.Proofs.Extract.Strict
import Gleaner.Proofs.Extract.Unregistered
import Gleaner.Proofs.Filter.History
import Gleaner.Proofs.Filter.Squish
import Gleaner.Proofs.Http.Escape
import Gleaner.Proofs.Http.GivenHeaders
import Gleaner.Proofs.Http.Verdict
import Gleaner.Proofs.Normalize.DecimalComma
import Gleaner.Proofs.Normalize.LinkAgain
import Gleaner.Proofs.Normalize.NamedCurrency
import Gleaner.Proofs.Normalize.Notation
import Gleaner.Proofs.Normalize.QueryParameters
import Gleaner.Proofs.Normalize.TextOptions
import Gleaner.Proofs.Normalize.WholeNumber
import Gleaner.Proofs.Scraper.Isolation
