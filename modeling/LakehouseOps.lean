import LakehouseOps.Library.Machine
import LakehouseOps.Library.Timeline
import LakehouseOps.Ingestion.QueueProtocol
import LakehouseOps.Spark.CustomerScd2Reference
import LakehouseOps.Spark.CustomerScd2Validation
import LakehouseOps.Pipeline.SnapshotRuns
import LakehouseOps.Access.TableAccess
import LakehouseOps.Access.RangerConvergence
import LakehouseOps.Ingestion.CommerceManifest
import LakehouseOps.Ingestion.CommerceLanding
import LakehouseOps.Ingestion.LandingSafety
import LakehouseOps.Spark.GoldCommerceCurrent
import LakehouseOps.Library.Dialogue
import LakehouseOps.Iceberg.PlannedActions
import LakehouseOps.Iceberg.SnapshotRetention
import LakehouseOps.Access.TrinoGrants
import LakehouseOps.Access.RangerRelation
import LakehouseOps.Access.BreakGlass
import LakehouseOps.Access.RangerCollisions
import LakehouseOps.Spark.BronzeWeather
import LakehouseOps.Spark.SilverWeather
import LakehouseOps.Spark.SilverWeatherView
import LakehouseOps.Library.Ranking
import LakehouseOps.Library.Totals
import LakehouseOps.Spark.SilverCommerce
import LakehouseOps.Spark.SilverCommerceBatches
import LakehouseOps.Spark.SilverCommerceSurvivors
import LakehouseOps.Library.CodePoints
import LakehouseOps.Library.JsonTokens
import LakehouseOps.Library.JsonText
import LakehouseOps.Library.CanonicalJson
import LakehouseOps.Library.JsonLimits
import LakehouseOps.Library.JsonEscapes
import LakehouseOps.Library.JsonIndent
import LakehouseOps.Library.IsoFormat
import LakehouseOps.Library.PosixPath
import LakehouseOps.Ingestion.WeatherLanding
import LakehouseOps.Ingestion.WeatherAudit
import LakehouseOps.Ingestion.WeatherFormat
import LakehouseOps.Ingestion.WeatherAuditLimits
import LakehouseOps.Spark.GoldCommerceDaily
import LakehouseOps.Spark.CommerceReferences
import LakehouseOps.Spark.GoldCommerceTotals
import LakehouseOps.Ingestion.CommerceFixture
import LakehouseOps.Spark.CommerceFixtureCases
import LakehouseOps.Release.ReleaseCandidate
import LakehouseOps.Release.CandidateVerification
import LakehouseOps.Release.BuiltCandidates
import LakehouseOps.Ingestion.ManifestBody
import LakehouseOps.Library.Url
import LakehouseOps.Warehouse.WarehouseInventory
import LakehouseOps.Warehouse.WarehouseReferences
import LakehouseOps.Library.SqlLiteral
import LakehouseOps.Iceberg.CandidateViewSql
import LakehouseOps.Release.ImageLock
import LakehouseOps.Ingestion.BatchDiscovery
import LakehouseOps.Library.Truthiness
import LakehouseOps.Ingestion.AuditListing
import LakehouseOps.Trino.OperationalMetrics
import LakehouseOps.Pipeline.PagingLoops
import LakehouseOps.Pipeline.MetadataDbRecovery
import LakehouseOps.Pipeline.CommerceRunSafety
import LakehouseOps.Pipeline.ContainerCleanup
import LakehouseOps.Pipeline.CommerceRun
import LakehouseOps.Library.Pool
import LakehouseOps.Pipeline.RunJournal
import LakehouseOps.Pipeline.JournalInspection
import LakehouseOps.Library.TaskGroups
import LakehouseOps.Ingestion.ManifestReading
import LakehouseOps.Ingestion.CommerceBronze
import LakehouseOps.Trino.QueryResult
import LakehouseOps.Ingestion.FixtureFiles
