import DateDisplay.Text.Alphabetic
import DateDisplay.Text.Blank
import DateDisplay.Text.DecimalDigit
import DateDisplay.Text.LowerCase
import DateDisplay.Text.Decimal
import DateDisplay.Date.Basic
import DateDisplay.Date.Gregorian
import DateDisplay.Date.Iso
import DateDisplay.Pattern.Basic
import DateDisplay.Pattern.Error
import DateDisplay.Pattern.Grammar
import DateDisplay.Locale.Names
import DateDisplay.Pattern.Codec
import DateDisplay.Pattern.Context
import DateDisplay.Pattern.English
import DateDisplay.Pattern.Settings
import DateDisplay.Locale.Detection
import DateDisplay.Locale.Detector
import DateDisplay.Locale.Tag
import DateDisplay.Locale.Table
import DateDisplay.Controller
import DateDisplay.CommandLine.Arguments
import DateDisplay.CommandLine.Execution
import DateDisplay.Main
import DateDisplay.Proofs.Pattern.Acceptance
import DateDisplay.Proofs.Pattern.FieldTexts
import DateDisplay.Proofs.Text.Trimming
import DateDisplay.Proofs.Pattern.Separated
import DateDisplay.Proofs.Pattern.Packed
import DateDisplay.Proofs.Pattern.MonthNames
import DateDisplay.Proofs.Controller.Steps
import DateDisplay.Proofs.Controller.SingleRequest
import DateDisplay.Proofs.Controller.Announcements
import DateDisplay.Proofs.Controller.Exchange
import DateDisplay.Proofs.Locale.Captures
import DateDisplay.Proofs.Locale.Frame
import DateDisplay.Proofs.Locale.Occurrences
import DateDisplay.Proofs.Locale.SampleDay
import DateDisplay.Proofs.Locale.Reading
import DateDisplay.Proofs.Locale.NumericLayout
import DateDisplay.Proofs.Controller.FieldWrites
import DateDisplay.Proofs.Date.Iso
import DateDisplay.Proofs.CommandLine.RoundTrip
import DateDisplay.Proofs.Locale.Agreement
import DateDisplay.Proofs.Locale.TypedDates
import DateDisplay.Proofs.Pattern.Assembly
import DateDisplay.Proofs.Pattern.Redisplay
import DateDisplay.Proofs.Controller.BlankText
import DateDisplay.Proofs.Pattern.NamedSettings
import DateDisplay.Proofs.Controller.LeavingDelegation
import DateDisplay.Proofs.Controller.PatternChanges
import DateDisplay.Proofs.Controller.TypedText
import DateDisplay.Proofs.Controller.ShownDate
import DateDisplay.Proofs.Pattern.PackedGrammar
import DateDisplay.Proofs.Pattern.Readable
import DateDisplay.Proofs.Pattern.SeparatedGrammar
import DateDisplay.Proofs.Text.LowerCase
import DateDisplay.Proofs.Pattern.NamePrefixes
import DateDisplay.Proofs.Pattern.YearTwins
import DateDisplay.Proofs.Pattern.TypedYears
import DateDisplay.Proofs.Locale.DetectedFrame
import DateDisplay.Proofs.Locale.OwnRendering
import DateDisplay.Proofs.Pattern.UnnamedMonths
import DateDisplay.Proofs.Pattern.PartialTexts
import DateDisplay.Proofs.Locale.TagSpellings
import DateDisplay.Proofs.CommandLine.Arguments
import DateDisplay.Proofs.CommandLine.Placement
import DateDisplay.Proofs.CommandLine.AttachedValues
import DateDisplay.Proofs.Text.EscapeSequences
import DateDisplay.Proofs.CommandLine.StyledReports
import DateDisplay.Proofs.CommandLine.Color
import DateDisplay.Proofs.Pattern.PackedCuts
import DateDisplay.Proofs.Locale.DetectedPlaces
