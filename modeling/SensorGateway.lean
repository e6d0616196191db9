import SensorGateway.Library.Runs
import SensorGateway.Library.Heap
import SensorGateway.Library.Fifo
import SensorGateway.Library.Framing
import SensorGateway.Library.Mutex
import SensorGateway.Library.Mailbox
import SensorGateway.Library.Table
import SensorGateway.Library.Fragments
import SensorGateway.Library.Linked
import SensorGateway.Library.Text
import SensorGateway.Library.Decimal
import SensorGateway.Sbuffer
import SensorGateway.SbufferQueue
import SensorGateway.Consumers
import SensorGateway.EventLog
import SensorGateway.Tcpsock
import SensorGateway.Reception
import SensorGateway.Dplist
import SensorGateway.Connmgr
import SensorGateway.ConnmgrScan
import SensorGateway.ConnmgrStopsig
import SensorGateway.ConnmgrTables
import SensorGateway.ConnmgrIdle
import SensorGateway.ConnmgrHistory
import SensorGateway.ConnmgrClosing
import SensorGateway.ConnmgrReadings
import SensorGateway.ConnmgrPollFd
import SensorGateway.DplistHeap
import SensorGateway.DplistChain
import SensorGateway.DplistSorted
import SensorGateway.Reading
import SensorGateway.SensorDb
import SensorGateway.SensorImport
import SensorGateway.Datamgr
import SensorGateway.SensorMap
import SensorGateway.SensorLookup
import SensorGateway.SensorWindow
import SensorGateway.RunningAverage
import SensorGateway.Shutdown
import SensorGateway.DplistSearch
import SensorGateway.DplistIndexed
import SensorGateway.DplistOrdered
import SensorGateway.ConnmgrSockList
import SensorGateway.Library.Streams
import SensorGateway.SensorRouting
import SensorGateway.ConnmgrAccepts
import SensorGateway.SensorCount
import SensorGateway.ConnmgrReceives
import SensorGateway.Library.Records
import SensorGateway.SensorImportErrors
import SensorGateway.Library.Descriptors
import SensorGateway.Sockets
import SensorGateway.SocketRuns
import SensorGateway.ConnmgrThreads
import SensorGateway.Library.Simulation
import SensorGateway.ConnmgrAtomic
import SensorGateway.ConnmgrEnd
import SensorGateway.Station
import SensorGateway.StationNodes
import SensorGateway.StationMutex
import SensorGateway.DplistRuns
import SensorGateway.NodeProcess
import SensorGateway.NodeReadings
import SensorGateway.FileCreator
import SensorGateway.StorageRuns
import SensorGateway.ConnmgrMessages
import SensorGateway.StationReadings
