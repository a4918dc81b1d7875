import UnitConversion.Text.Blank
import UnitConversion.Text.Case
import UnitConversion.Text.DecimalDigit
import UnitConversion.Text.Lines
import UnitConversion.Text.Quoted
import UnitConversion.Text.Integer
import UnitConversion.Text.Utf8
import UnitConversion.Numeric.Literal
import UnitConversion.Numeric.Numeral
import UnitConversion.Numeric.Power
import UnitConversion.Line
import UnitConversion.Expression.Unit
import UnitConversion.Expression.Value
import UnitConversion.UnitsFile.Stock
import UnitConversion.Session
import UnitConversion.Console.Interpreter
import UnitConversion.Files.Tree
import UnitConversion.Settings.Validation
import UnitConversion.Yaml.Document
import UnitConversion.UnitsFile.File
import UnitConversion.Main
import UnitConversion.Proofs.Outcomes
import UnitConversion.Proofs.RegistryAdding
import UnitConversion.Proofs.UnitChecks
import UnitConversion.Proofs.DeclaredUnits
import UnitConversion.Proofs.LineReading
import UnitConversion.Proofs.DeclarationFields
import UnitConversion.Proofs.HeaderLines
import UnitConversion.Proofs.UnitsFileAppend
import UnitConversion.Proofs.UnitsFileMeaning
import UnitConversion.Proofs.HeaderScope
import UnitConversion.Proofs.LiteralShape
import UnitConversion.Proofs.UnitWords
import UnitConversion.Proofs.AttemptRuns
import UnitConversion.Proofs.RecallInvariant
import UnitConversion.Proofs.ConsoleOutput
import UnitConversion.Proofs.LineSplit
import UnitConversion.Proofs.RecallExpansion
import UnitConversion.Proofs.RecallAbbreviation
import UnitConversion.Proofs.ExactNumbers
import UnitConversion.Proofs.RegistryIndex
import UnitConversion.Proofs.RegistryHistory
import UnitConversion.Proofs.ExactConversion
import UnitConversion.Proofs.Trimming
import UnitConversion.Proofs.LineRuns
import UnitConversion.Proofs.UnitNames
import UnitConversion.Proofs.TypedNames
import UnitConversion.Proofs.WrittenFields
import UnitConversion.Proofs.WrittenUnits
import UnitConversion.Proofs.LineMemory
import UnitConversion.Proofs.WordRendering
import UnitConversion.Proofs.ReportedFailures
import UnitConversion.Proofs.ConsoleTurns
import UnitConversion.Proofs.LineFates
import UnitConversion.Proofs.QuietFiles
import UnitConversion.Proofs.StoppedLoads
import UnitConversion.Proofs.PrintedNumerals
import UnitConversion.Proofs.FiniteConversions
import UnitConversion.Proofs.ValueWords
import UnitConversion.Proofs.StartupRuns
import UnitConversion.Proofs.UnusableFiles
import UnitConversion.Proofs.TextLines
import UnitConversion.Proofs.ConsoleRuns
import UnitConversion.Proofs.ExitStatus
import UnitConversion.Proofs.RoutedOutput
import UnitConversion.Proofs.ResultLines
import UnitConversion.Proofs.WrittenFiles
import UnitConversion.Proofs.BatchFiles
import UnitConversion.Proofs.YamlLeaves
import UnitConversion.Proofs.AcceptedSettings
import UnitConversion.Proofs.Escapes
import UnitConversion.Proofs.ScannedLines
import UnitConversion.Proofs.UnitGrammar
import UnitConversion.Proofs.ConvertedValues
import UnitConversion.Proofs.ConversionGrid
import UnitConversion.Proofs.ScanSteps
import UnitConversion.Proofs.SpacedWords
import UnitConversion.Proofs.LineLayout
import UnitConversion.Proofs.EntryLayout
import UnitConversion.Proofs.FileLayout
import UnitConversion.Proofs.SpecialNumbers
import UnitConversion.Proofs.InfiniteSteps
import UnitConversion.Proofs.CommandEffects
import UnitConversion.Proofs.UnitListing
import UnitConversion.Proofs.SpelledNames
import UnitConversion.Proofs.NumberGrammar
import UnitConversion.Proofs.FiniteDecimals
import UnitConversion.Proofs.ValueGrammar
import UnitConversion.Proofs.ValidUnits
