import Onetcli.Rollback
import Onetcli.BatchAtomicity
import Onetcli.DbIpc.ImportAccounts
import Onetcli.Ipc.Serve
import Onetcli.Rdp.Clipboard.Cancellation
import Onetcli.Rdp.Clipboard.LocalReads
import Onetcli.Rdp.Display.Received
import Onetcli.Rdp.Display.Barriers
import Onetcli.Vnc.Generations
import Onetcli.Vnc.LastFlush
import Onetcli.Importers.KeptSessions
import Onetcli.Importers.RecordIds
import Onetcli.Importers.XmlText
import Onetcli.NotesExport.WordImages
import Onetcli.Iotdb.Devices
import Onetcli.Drivers.MapOrders
import Onetcli.Drivers.TableNames
import Onetcli.JavaIpc.Permanence
import Onetcli.JavaIpc.AlterTarget
import Onetcli.JavaIpc.BatchAnswers
import Onetcli.DbIpc.CursorLosses
import Onetcli.Elasticsearch.Completions
import Onetcli.BlobReads
import Onetcli.Redis.Retries
import Onetcli.Redis.EventReads
import Onetcli.DbIpc.StreamReads
import Onetcli.CsvNulls
import Onetcli.OpenGauss.FailureAccounts
import Onetcli.DuckDb.Connections
import Onetcli.DbIpc.ByteCells
import Onetcli.DuckDb.CsvFields
import Onetcli.JavaIpc.CsvLosses
import Onetcli.OpenGauss.Cursors
import Onetcli.Vnc.Rectangles
import Onetcli.Rdp.Clipboard.Staging
import Onetcli.Vnc.Liveness
import Onetcli.Vnc.HeldInputs
import Onetcli.Vnc.InputBatches
import Onetcli.Rdp.InputOrder
import Onetcli.NotesExport.WordText
import Onetcli.Importers.Navicat
import Onetcli.Importers.SecureCrt.IniValues
import Onetcli.Importers.SecureCrt.ButtonPreviews
import Onetcli.Importers.OpenSshOrder
import Onetcli.Importers.CompassUris
import Onetcli.NotesExport.HtmlImages
import Onetcli.NotesExport.FencedCode
import Onetcli.NotesExport.ImageRefs
import Onetcli.NotesExport.PdfFile
import Onetcli.JavaIpc.Buffers
import Onetcli.JavaIpc.Savepoints
import Onetcli.JavaIpc.ImportCounts
import Onetcli.Iotdb.Cursors
import Onetcli.DuckDb.TemporalTexts
import Onetcli.HostVersions
import Onetcli.Drivers.AuthSource
import Onetcli.GBase8s.JdbcUrl
import Onetcli.OpenGauss.ExportLimits
import Onetcli.Drivers.KingbaseDsn
