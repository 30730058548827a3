import Viewsmith.Decimal.Parse
import Viewsmith.Main
import Viewsmith.Proofs.Code.Lines
import Viewsmith.Proofs.Decimal.Characters
import Viewsmith.Proofs.Identifier.Characters
import Viewsmith.Proofs.Text.SelfDelimiting
import Viewsmith.Proofs.Text.Shown
import Viewsmith.Proofs.Code.WrittenStyles
import Viewsmith.Proofs.Code.StyleSets
import Viewsmith.Proofs.Design.Rendered
import Viewsmith.Proofs.Code.Elements
import Viewsmith.Proofs.Code.Walk
import Viewsmith.Proofs.Code.Assembly
import Viewsmith.Proofs.Code.SourceLines
import Viewsmith.Proofs.Code.Emitters
import Viewsmith.Proofs.Code.GeneratedLines
import Viewsmith.Proofs.Code.LineModel
import Viewsmith.Proofs.Code.StyleReferences
import Viewsmith.Proofs.Code.ImportStatements
import Viewsmith.Proofs.Reading.Literals
import Viewsmith.Proofs.Reading.Markup
import Viewsmith.Proofs.Reading.GeneratedMarkup
import Viewsmith.Proofs.Identifier.Spaces
import Viewsmith.Proofs.Code.StyleRuns
import Viewsmith.Proofs.Json.Nesting
import Viewsmith.Proofs.Json.Numerals
import Viewsmith.Proofs.Json.Reading
import Viewsmith.Proofs.Json.Decoding
import Viewsmith.Proofs.Design.RoundTrip
import Viewsmith.Proofs.Code.Failures
import Viewsmith.Proofs.Design.Positions
import Viewsmith.Proofs.Code.Confinement
import Viewsmith.Proofs.Template.Reading
import Viewsmith.Proofs.Code.Previews
import Viewsmith.Proofs.Reading.RootTags
import Viewsmith.Proofs.Identifier.Setters
import Viewsmith.Proofs.Code.Bindings
import Viewsmith.Proofs.Code.Irrelevance
import Viewsmith.Proofs.CommandLine.Files
import Viewsmith.Proofs.CommandLine.Generation
import Viewsmith.Proofs.Json.Grammar
import Viewsmith.Proofs.Json.StringLiterals
import Viewsmith.Proofs.Json.Intact
import Viewsmith.Proofs.Json.Completeness
import Viewsmith.Proofs.Json.Soundness
import Viewsmith.Proofs.Json.Changes
import Viewsmith.Proofs.Json.Rearrangement
import Viewsmith.Proofs.Design.Records
import Viewsmith.Proofs.Design.Rearranged
import Viewsmith.Proofs.Json.Respelling
import Viewsmith.Proofs.Design.Respelled
import Viewsmith.Proofs.Json.Slips
import Viewsmith.Proofs.Design.Slips
import Viewsmith.Proofs.Settings.Partial
import Viewsmith.Proofs.Reading.StyleTables
import Viewsmith.Proofs.Code.ImportRuns
import Viewsmith.Proofs.Code.Warnings
import Viewsmith.Proofs.Design.Descendants
import Viewsmith.Proofs.Reading.LineTexts
import Viewsmith.Proofs.Code.Counts
import Viewsmith.Proofs.Identifier.Reserved
import Viewsmith.Proofs.Reading.OuterNames
import Viewsmith.Proofs.Reading.ModuleNames
import Viewsmith.Proofs.Code.FileNames
import Viewsmith.Proofs.Code.Outlines
import Viewsmith.Proofs.Identifier.PlainLabels
import Viewsmith.Proofs.Decimal.Rounding
import Viewsmith.Proofs.Decimal.Doubles
import Viewsmith.Proofs.Decimal.WholeDoubles
import Viewsmith.Proofs.Decimal.ShortestDecimals
import Viewsmith.Proofs.Decimal.Tenths
import Viewsmith.Proofs.Json.NumeralValues
import Viewsmith.Proofs.Json.NumberTexts
import Viewsmith.Proofs.Json.Members
import Viewsmith.Proofs.Design.NumbersReread
import Viewsmith.Proofs.Design.Reread
import Viewsmith.Proofs.Design.WholeNumbers
import Viewsmith.Proofs.Design.Walks
import Viewsmith.Proofs.Design.Filings
import Viewsmith.Proofs.Identifier.Separators
