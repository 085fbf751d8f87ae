import Localize.Main
import Localize.Proofs.Text
import Localize.Proofs.Grouping
import Localize.Proofs.Replacement
import Localize.Proofs.AttributeValue
import Localize.Proofs.Settling
import Localize.Proofs.FileTree
import Localize.Proofs.Course
import Localize.Proofs.EffectLog
import Localize.Proofs.Conservation
import Localize.Proofs.Dictionary
import Localize.Proofs.Accurate
import Localize.Proofs.Pieces
import Localize.Proofs.Overlap
import Localize.Proofs.Config
import Localize.Proofs.HookImport
import Localize.Proofs.DryRun
import Localize.Proofs.KeyPath
import Localize.Proofs.ReadKeys
import Localize.Proofs.Report
import Localize.Proofs.PrintedReport
import Localize.Proofs.SharedKeys
import Localize.Proofs.Failure
import Localize.Proofs.Loading
import Localize.Proofs.ExitStatus
import Localize.Proofs.RawLines
import Localize.Proofs.WrittenLines
import Localize.Proofs.Spelling
import Localize.Proofs.Resolution
import Localize.Proofs.Findings
import Localize.Proofs.ReportOrder
import Localize.Proofs.UnstartedLinter
import Localize.Proofs.Encoding
import Localize.Proofs.Launching
import Localize.Proofs.SourceRoot
import Localize.Proofs.BodyBinding
import Localize.Proofs.GivingUp
import Localize.Proofs.ImportedName
import Localize.Proofs.IndexedTexts
import Localize.Proofs.IssueLine
import Localize.Proofs.HeaderLine
import Localize.Proofs.Attribution
import Localize.Proofs.StablePartition
import Localize.Proofs.Slices
import Localize.Proofs.ReplacedSpan
import Localize.Proofs.HookBinding
import Localize.Proofs.Augmentation
import Localize.Proofs.CallLiteral
import Localize.Proofs.MixedEndings
import Localize.Proofs.Parent
import Localize.Proofs.Discovery
import Localize.Proofs.WrittenJson
import Localize.Proofs.ConfigFile
import Localize.Proofs.Streams
import Localize.Proofs.Colours
import Localize.Proofs.Caret
