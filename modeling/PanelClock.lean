import PanelClock.Display.Clock
import PanelClock.Display.Face
import PanelClock.Display.Loop
import PanelClock.Display.Markup
import PanelClock.Number.Binary64.Reader
import PanelClock.Pattern.Shared
import PanelClock.Proofs.Segment
import PanelClock.Proofs.Tokenize
import PanelClock.Proofs.Caching
import PanelClock.Proofs.LocalePattern
import PanelClock.Proofs.Skeleton
import PanelClock.Proofs.SkeletonMatch
import PanelClock.Proofs.LocaleTables
import PanelClock.Proofs.Layout
import PanelClock.Proofs.Compiling
import PanelClock.Proofs.NormalSkeleton
import PanelClock.Proofs.RenderedRuns
import PanelClock.Proofs.ClockLabel
import PanelClock.Proofs.ClockFailures
import PanelClock.Proofs.RegistryRuns
import PanelClock.Proofs.WidthAdjustment
import PanelClock.Proofs.LoopRuns
import PanelClock.Proofs.SameMoment
import PanelClock.Proofs.SettingStores
import PanelClock.Proofs.MemoRuns
import PanelClock.Proofs.FormatterStats
import PanelClock.Proofs.Reports
import PanelClock.Proofs.Concatenation
import PanelClock.Proofs.OnePass
import PanelClock.Proofs.WeekOfYear
import PanelClock.Proofs.SettingWords
import PanelClock.Proofs.OffsetTexts
import PanelClock.Proofs.ZoneSettings
import PanelClock.Proofs.SystemLocale
import PanelClock.Proofs.Configurations
import PanelClock.Proofs.EqualConfigurations
import PanelClock.Proofs.LoadAccounts
import PanelClock.Proofs.RegistryQueries
import PanelClock.Proofs.FailureLog
import PanelClock.Proofs.LoggedLines
import PanelClock.Proofs.NumericRuns
import PanelClock.Proofs.RejectedSettings
import PanelClock.Proofs.RateWords
import PanelClock.Proofs.BeatsPass
import PanelClock.Proofs.HelpTables
import PanelClock.Proofs.FractionPlaces
