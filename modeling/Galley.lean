import Galley.Main
import Galley.Reference.Json
import Galley.Proofs.Label.Apart
import Galley.Proofs.Markup.Layout
import Galley.Proofs.Finish.Agreement
import Galley.Proofs.Finish.Relabelling
import Galley.Proofs.Finish.Requests
import Galley.Proofs.Markup.ArgumentCitations
import Galley.Proofs.Finish.RoundTrip
import Galley.Proofs.Finish.ReferenceImport
import Galley.Proofs.Label.Parentheses
import Galley.Proofs.Label.Parts
import Galley.Proofs.Label.Numbering
import Galley.Proofs.Finish.TableCaptions
import Galley.Proofs.Markup.TableEnvironments
import Galley.Proofs.Markup.LineBreaks
import Galley.Proofs.Markup.OptionalArguments
import Galley.Proofs.Markup.Notes
import Galley.Proofs.Markup.EscapedNotes
import Galley.Proofs.Markup.BodyCitations
import Galley.Proofs.Markup.LeftEnvironments
import Galley.Proofs.Markup.StarredTables
import Galley.Proofs.Markup.PlainCaptions
import Galley.Proofs.Finish.AbstractHeadings
import Galley.Proofs.Finish.Badge
import Galley.Proofs.Label.Gaps
import Galley.Proofs.CommandLine.Outputs
import Galley.Proofs.Tree.Walk
