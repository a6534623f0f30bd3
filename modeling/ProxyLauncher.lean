import ProxyLauncher.Main
import ProxyLauncher.Proofs.CommandLine.Spelling
import ProxyLauncher.Proofs.Config.Address
import ProxyLauncher.Proofs.Config.Agreement
import ProxyLauncher.Proofs.Config.Complaints
import ProxyLauncher.Proofs.Config.FlagLayer
import ProxyLauncher.Proofs.Config.FlagTags
import ProxyLauncher.Proofs.Config.Precedence
import ProxyLauncher.Proofs.Config.Provenance
import ProxyLauncher.Proofs.Config.Reresolution
import ProxyLauncher.Proofs.Duration.Limit
import ProxyLauncher.Proofs.Duration.Value
import ProxyLauncher.Proofs.Handler.Health
import ProxyLauncher.Proofs.Key.Interchange
import ProxyLauncher.Proofs.Launcher.Coherence
import ProxyLauncher.Proofs.Launcher.Credentials
import ProxyLauncher.Proofs.Launcher.Environment
import ProxyLauncher.Proofs.Launcher.FailedSteps
import ProxyLauncher.Proofs.Launcher.Listening
import ProxyLauncher.Proofs.Launcher.Reporting
import ProxyLauncher.Proofs.Launcher.Restart
import ProxyLauncher.Proofs.Launcher.Secrecy
import ProxyLauncher.Proofs.Launcher.Service
import ProxyLauncher.Proofs.Launcher.Showing
import ProxyLauncher.Proofs.Launcher.Stopping
import ProxyLauncher.Proofs.Launcher.Streams
import ProxyLauncher.Proofs.Launcher.Usability
import ProxyLauncher.Proofs.Listener.Custody
