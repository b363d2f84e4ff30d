import RevenueOffice.Clock
import RevenueOffice.Csv.Reader
import RevenueOffice.Decimal.Binary
import RevenueOffice.Decimal.Precision
import RevenueOffice.Decimal.Shortest
import RevenueOffice.EnvFile
import RevenueOffice.Evaluation.Cases
import RevenueOffice.Evaluation.Options
import RevenueOffice.Evaluation.Run
import RevenueOffice.Evaluation.Summary
import RevenueOffice.Files
import RevenueOffice.JsonText
import RevenueOffice.Log.Entry
import RevenueOffice.Log.Format
import RevenueOffice.Log.Loggers
import RevenueOffice.Log.Setup
import RevenueOffice.Main
import RevenueOffice.Office.Basic
import RevenueOffice.Office.Load
import RevenueOffice.Office.Name
import RevenueOffice.Office.Register
import RevenueOffice.PathText
import RevenueOffice.Pattern.Basic
import RevenueOffice.Pattern.Search
import RevenueOffice.Proofs.Adjustments
import RevenueOffice.Proofs.AffixCuts
import RevenueOffice.Proofs.DistrictStems
import RevenueOffice.Proofs.Invariance
import RevenueOffice.Proofs.Loggers
import RevenueOffice.Proofs.Lowercase
import RevenueOffice.Proofs.Matching
import RevenueOffice.Proofs.NormalForm
import RevenueOffice.Proofs.OfficeFields
import RevenueOffice.Proofs.Outcome
import RevenueOffice.Proofs.Ranking
import RevenueOffice.Proofs.RegionNames
import RevenueOffice.Proofs.RegisterFile
import RevenueOffice.Proofs.RepeatedSetup
import RevenueOffice.Proofs.Scores
import RevenueOffice.Proofs.Selection
import RevenueOffice.Proofs.Tally
import RevenueOffice.Proofs.TermSets
import RevenueOffice.Proofs.TermShape
import RevenueOffice.Query.Part
import RevenueOffice.Query.Terms
import RevenueOffice.Ranking
import RevenueOffice.Resolution
import RevenueOffice.Resolution.Record
import RevenueOffice.Rule
import RevenueOffice.Scoring
import RevenueOffice.Settings
import RevenueOffice.Template.Conversion
import RevenueOffice.Template.Fill
import RevenueOffice.Text.Cased
import RevenueOffice.Text.Chars
import RevenueOffice.Text.Normal
import RevenueOffice.Text.Printable
import RevenueOffice.Text.Quoted
import RevenueOffice.Text.Word
import RevenueOffice.Utf8.Blocks
import RevenueOffice.Utf8.Decode
