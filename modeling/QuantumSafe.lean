import QuantumSafe.SyslogDelivery
import QuantumSafe.ScannerLookup
import QuantumSafe.KmeRounds
import QuantumSafe.KmeSaeClient
import QuantumSafe.GenKmePki
import QuantumSafe.GenPkiRuns
import QuantumSafe.MgmtAddresses
import QuantumSafe.KmeLabConf
import QuantumSafe.StaticSakRoundTrip
import QuantumSafe.SiteConfigSync
import QuantumSafe.StanzaReferences
import QuantumSafe.SshPolicy
import QuantumSafe.KmeAttempt
import QuantumSafe.QuadraRuns
import QuantumSafe.DockerMgmt
import QuantumSafe.SslProfileChecks
import QuantumSafe.MacsecChecks
import QuantumSafe.MkaCkn
import QuantumSafe.PingAgreement
import QuantumSafe.TlsWire
import QuantumSafe.SshProbe
import QuantumSafe.SakKeySync
import QuantumSafe.KmePeers
import QuantumSafe.AddressLines
import QuantumSafe.TlsVersions
import QuantumSafe.KmePool
import QuantumSafe.ProbeTargets
import QuantumSafe.DaemonStatus
import QuantumSafe.ProbeClient
import QuantumSafe.JsonSearch
import QuantumSafe.PyShapes
import QuantumSafe.TopologyReturns
import QuantumSafe.KmeCheckBounds
import QuantumSafe.KmeWaitRuns
import QuantumSafe.HostRouting
import QuantumSafe.SyslogWire
import QuantumSafe.MacsecRuns
import QuantumSafe.QkdRuns
import QuantumSafe.Evidence
import QuantumSafe.JsonTransports
import QuantumSafe.OpenConfigRuns
