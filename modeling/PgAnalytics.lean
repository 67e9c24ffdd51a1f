import PgAnalytics.TableIdentity
import PgAnalytics.ViewFreshness
import PgAnalytics.CredentialIsolation
import PgAnalytics.NameResolution
import PgAnalytics.ScanIsolation
import PgAnalytics.RowCount
import PgAnalytics.ScanDelivery
import PgAnalytics.Rescan
import PgAnalytics.EngineChoice
import PgAnalytics.ColumnIdentity
import PgAnalytics.StatementText
import PgAnalytics.PreparedStatements
import PgAnalytics.ViewMirror
import PgAnalytics.ViewStatements
import PgAnalytics.SecretStatements
import PgAnalytics.PushdownGate
import PgAnalytics.NameStatements
import PgAnalytics.AlterTable
import PgAnalytics.TypeInference
import PgAnalytics.OptionValidators
import PgAnalytics.DatafusionScan
import PgAnalytics.SchemaProvider
import PgAnalytics.Transactions
import PgAnalytics.IntegerCells
import PgAnalytics.Intervals
import PgAnalytics.ZonedTimestamps
import PgAnalytics.NestedJson
import PgAnalytics.StringLists
import PgAnalytics.NullCells
import PgAnalytics.TextCells
import PgAnalytics.CellPanics
import PgAnalytics.LimitPushdown
import PgAnalytics.TypeReplacements
import PgAnalytics.DatafusionReader
import PgAnalytics.EmptyBatches
import PgAnalytics.ScanCleanup
import PgAnalytics.ReaderPairing
import PgAnalytics.CsvLists
import PgAnalytics.TableSources
import PgAnalytics.LakehouseHook
import PgAnalytics.ScanStores
import PgAnalytics.WrapperOptions
import PgAnalytics.JoinedColumns
import PgAnalytics.Telemetry
import PgAnalytics.SiblingScans
import PgAnalytics.SiblingReaders
