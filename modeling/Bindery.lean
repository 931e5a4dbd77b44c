import Bindery.Main
import Bindery.Process.Programs
import Bindery.Proofs.Book.ChapterTitle
import Bindery.Proofs.Book.Failure
import Bindery.Proofs.Book.Rebuild
import Bindery.Proofs.Book.References
import Bindery.Proofs.Chapter.TitleHeading
import Bindery.Proofs.Book.Consultation
import Bindery.Proofs.Book.Selection
import Bindery.Proofs.Text.LineEnd
import Bindery.Proofs.Files.Alike
import Bindery.Proofs.Book.LineEnd
import Bindery.Proofs.Book.TopLevel
import Bindery.Proofs.Index.Documents
import Bindery.Proofs.Index.Coverage
import Bindery.Proofs.Process.ShellWords
import Bindery.Proofs.Book.SingleLines
import Bindery.Proofs.CommandLine.Course
import Bindery.Proofs.CommandLine.Paths
import Bindery.Proofs.Metadata.Header
import Bindery.Proofs.Settings.Layers
import Bindery.Proofs.Settings.Valid
import Bindery.Proofs.Chapter.Conservation
import Bindery.Proofs.ConfigFile.Keys
import Bindery.Proofs.Line.Division
import Bindery.Proofs.Chapter.Excision
import Bindery.Proofs.Line.Caption
import Bindery.Proofs.Outline.Reading
import Bindery.Proofs.Line.HeadingLevel
import Bindery.Proofs.Line.LinkLabel
import Bindery.Proofs.Outline.LineByLine
import Bindery.Proofs.Line.Markers
import Bindery.Proofs.Line.SizedImage
import Bindery.Proofs.Book.Version
import Bindery.Proofs.Outline.CodeBlocks
import Bindery.Proofs.Outline.DirectiveReference
import Bindery.Proofs.Index.ListingOrder
import Bindery.Proofs.Chapter.Rounds
