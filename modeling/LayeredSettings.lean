import LayeredSettings.Event.Listing
import LayeredSettings.Metadata.Resolve
import LayeredSettings.Region.Resolve
import LayeredSettings.Retry.Resolve
import LayeredSettings.Session
import LayeredSettings.Proofs.Profile.Coherence
import LayeredSettings.Proofs.Profile.Merging
import LayeredSettings.Proofs.Profile.Credentials
import LayeredSettings.Proofs.Profile.Loading
import LayeredSettings.Proofs.Precedence
import LayeredSettings.Proofs.Text.Lines
import LayeredSettings.Proofs.Text.Trimming
import LayeredSettings.Proofs.Profile.Grammar
import LayeredSettings.Proofs.Profile.Reading
import LayeredSettings.Proofs.Profile.Acceptance
import LayeredSettings.Proofs.Profile.Concatenation
import LayeredSettings.Proofs.Profile.Meaning
import LayeredSettings.Proofs.Profile.Canonical
import LayeredSettings.Proofs.Profile.Document
import LayeredSettings.Proofs.Profile.RoundTrip
import LayeredSettings.Proofs.Profile.AnyOrder
import LayeredSettings.Proofs.Profile.Accounting
import LayeredSettings.Proofs.Answers
import LayeredSettings.Proofs.FirstFound
import LayeredSettings.Proofs.Isolation
import LayeredSettings.Proofs.Profile.Layering
import LayeredSettings.Proofs.Independence
import LayeredSettings.Proofs.Text.Validity
import LayeredSettings.Proofs.Profile.Obstacles
import LayeredSettings.Proofs.Profile.Shape
import LayeredSettings.Proofs.Profile.Blocks
import LayeredSettings.Proofs.Profile.Confinement
import LayeredSettings.Proofs.Confinement
import LayeredSettings.Proofs.Profile.Secrecy
import LayeredSettings.Proofs.Reloading
import LayeredSettings.Proofs.Profile.Layout
import LayeredSettings.Proofs.Profile.CommentMarks
import LayeredSettings.Proofs.Disclosure
import LayeredSettings.Proofs.Decimal
import LayeredSettings.Proofs.Retries
import LayeredSettings.Proofs.Trail
import LayeredSettings.Proofs.HomePaths
import LayeredSettings.Proofs.Text.Subparts
import LayeredSettings.Proofs.Endpoints
import LayeredSettings.Proofs.Flags
import LayeredSettings.Proofs.Text.LetterCase
import LayeredSettings.Proofs.Text.Vocabulary
import LayeredSettings.Proofs.Profile.Building
import LayeredSettings.Proofs.NamedValues
import LayeredSettings.Proofs.Profile.Continuations
